import SiyadahOrchestrator.Build.BuildAgreement

/-!
# What the gate vouches for

Where the gate blocks nothing, every piece that asks for authentication has left the id of a
connection under its short name: the one that the request names, or that of the first active
connection of the piece. Pieces with one short name share the entry, and the last one of them
leaves it (`vouches_gatedTrigger`). What asks for authentication is decided by the lookups of the
gate alone: where the gate misses a schema, it takes the piece for one that asks for none.
-/

namespace Siyadah

open Dialogue PyValue

/-! ### Schemas and connections -/

/-- The schema of a piece, as it is fetched. -/
def fetchedSchema (answer : CatalogQuery → Except EngineError PyValue) (piece : PyStr) : PyValue :=
  match answer (.schema piece) with
  | .ok data => if data.truthy && !data.isDict then .dict [] else data
  | .error _ => .dict []

/-- The schema of the piece asks for authentication. -/
def asksForAuth (answer : CatalogQuery → Except EngineError PyValue) (full : PyStr) : Bool :=
  match schemaRequiresAuth (fetchedSchema answer full) with
  | .ok required => required
  | .error _ => false

/-- The last one of the pieces that asks for authentication under this short name. -/
def lastAsking (answer : CatalogQuery → Except EngineError PyValue) (pieces : List PyStr)
    (short : PyStr) : Option PyStr :=
  (pieces.filter fun full ↦ shortName full = short ∧ asksForAuth answer full = true).getLast?

/-- The connections of the project. -/
def liveConnections (answer : CatalogQuery → Except EngineError PyValue) : List PyValue :=
  match answer .connections with
  | .ok raw => (connectionsOf raw).toOption.getD []
  | .error _ => []

/-- The pieces that the gate collects: that of the trigger, and those of the actions. -/
def gatePieces (body : DynamicBuildBody) (full : PyStr) : List PyStr :=
  (extractPieces id (.list (pyDict [("type", py "PIECE"), ("piece", .str full)] ::
    body.actions.map .dict))).toOption.getD []

/-- The replies by the lookups; a lookup that was not made found nothing. -/
def repliesIn (l : Lookups) (q : CatalogQuery) : Except EngineError PyValue :=
  ((l.find? fun e ↦ e.1 = q).map Prod.snd).getD (.ok (.dict []))

theorem answeredBy_repliesIn {l : Lookups} (h : (l.map Prod.fst).Nodup) :
    ∀ e ∈ l, AnsweredBy (repliesIn l) e := by
  intro e he
  have hfind : (l.find? fun e' ↦ e'.1 = e.1) = some e := by
    cases hfind : l.find? fun e' ↦ e'.1 = e.1 with
    | none => exact absurd (List.find?_eq_none.1 hfind e he) (by simp)
    | some e' =>
      have hfst : e'.1 = e.1 := by simpa using List.find?_some hfind
      exact congrArg some (List.inj_on_of_nodup_map h (List.mem_of_find?_eq_some hfind) he hfst)
  show e.2 = ((l.find? fun e' ↦ e'.1 = e.1).map Prod.snd).getD (.ok (.dict []))
  rw [hfind]
  rfl

section Schemas

variable {answer : CatalogQuery → Except EngineError PyValue} {full short : PyStr}
  {pieces : List PyStr} {schema : PyValue} {s t : BuilderState}
  {l : List (CatalogQuery × Except EngineError PyValue)}

theorem eq_fetchedSchema_of_runs (h : (fetchPieceSchema full).Runs s l (.ok schema) t)
    (hl : ∀ e ∈ l, AnsweredBy answer e) : schema = fetchedSchema answer full := by
  obtain ⟨r, l', rfl, hrest⟩ := runs_ask_bind_iff.1 h
  obtain rfl : r = answer (.schema full) := (List.forall_mem_cons.1 hl).1
  rw [fetchedSchema]
  cases hr : answer (.schema full) with
  | ok data =>
    rw [hr] at hrest
    exact Except.ok.inj (runs_pure_iff.1 hrest).2.1
  | error e =>
    rw [hr] at hrest
    exact Except.ok.inj (runs_pure_iff.1 hrest).2.1

theorem asksForAuth_eq {required : Bool}
    (h : schemaRequiresAuth (fetchedSchema answer full) = .ok required) :
    asksForAuth answer full = required := by
  rw [asksForAuth, h]

/-- One more piece: it is the last one, if it asks for authentication under the short name. -/
theorem lastAsking_concat : lastAsking answer (pieces ++ [full]) short =
    if shortName full = short ∧ asksForAuth answer full = true then some full
    else lastAsking answer pieces short := by
  rw [lastAsking, List.filter_append]
  split
  · rename_i hasks
    rw [List.filter_cons_of_pos (by simpa using hasks), List.filter_nil, List.getLast?_concat]
  · rename_i hasks
    rw [List.filter_cons_of_neg (by simpa using hasks), List.filter_nil, List.append_nil]
    rfl

theorem mem_of_lastAsking (h : lastAsking answer pieces short = some full) :
    full ∈ pieces ∧ shortName full = short := by
  obtain ⟨hmem, hasks⟩ := List.mem_filter.1 (List.mem_of_getLast? h)
  have hasks' : shortName full = short ∧ asksForAuth answer full = true := by simpa using hasks
  exact ⟨hmem, hasks'.1⟩

end Schemas

/-! ### The connections that are found -/

/-- The entries are those of the last pieces that ask for authentication. -/
structure Vouches (answer : CatalogQuery → Except EngineError PyValue) (live : List PyValue)
    (overrides : List (PyStr × PyStr)) (t : ConnectionTables) (pieces : List PyStr)
    (ids : Fields) : Prop where
  entry : ∀ short full, lastAsking answer pieces short = some full →
    ∃ v, Chosen live overrides t full v ∧ ids.lookup short = some v
  free : ∀ short, lastAsking answer pieces short = none → ids.lookup short = none

section Vouches

variable {answer : CatalogQuery → Except EngineError PyValue} {live : List PyValue}
  {overrides : List (PyStr × PyStr)} {t : ConnectionTables} {full : PyStr} {g g' : GateLists}
  {pieces rest : List PyStr} {s u : BuilderState}
  {l : List (CatalogQuery × Except EngineError PyValue)}

theorem vouches_nil : Vouches answer live overrides t [] [] :=
  ⟨fun _ _ h ↦ absurd h (by simp [lastAsking]), fun _ _ ↦ rfl⟩

/-- **One more piece.** Nothing is blocked, so a piece that asks for authentication gets a
connection, in place of the one that another piece has left under its short name. -/
theorem Vouches.piece (hg : Vouches answer live overrides t pieces g.connectionIds)
    (h : classifyPiece live overrides t full (fetchedSchema answer full) g = .ok g')
    (hready : g'.blocked = []) :
    Vouches answer live overrides t (pieces ++ [full]) g'.connectionIds := by
  obtain ⟨required, entry, hrequired, -, hcases⟩ := classifyPiece_cases h
  have hasks := asksForAuth_eq hrequired
  rcases hcases with ⟨rfl, rfl⟩ | ⟨rfl, v, hv, rfl⟩ | ⟨-, -, -, rfl⟩
  · have hlast : ∀ short, lastAsking answer (pieces ++ [full]) short =
        lastAsking answer pieces short := by
      intro short
      rw [lastAsking_concat, if_neg fun hboth ↦ absurd (hasks.symm.trans hboth.2) (by decide)]
    refine ⟨fun short p hp ↦ ?_, fun short hnone ↦ ?_⟩
    · exact hg.entry short p ((hlast short).symm.trans hp)
    · exact hg.free short ((hlast short).symm.trans hnone)
  · have hlast : ∀ short, lastAsking answer (pieces ++ [full]) short =
        if shortName full = short then some full else lastAsking answer pieces short := by
      intro short
      rw [lastAsking_concat, hasks]
      simp
    refine ⟨fun short p hp ↦ ?_, fun short hnone ↦ ?_⟩
    · rw [hlast] at hp
      split at hp
      · rename_i hshort
        subst hshort
        obtain rfl := Option.some.inj hp
        exact ⟨v, hv, lookup_upsert_self⟩
      · rename_i hshort
        obtain ⟨w, hw, hlookup⟩ := hg.entry short p hp
        exact ⟨w, hw, (lookup_upsert_of_ne (Ne.symm hshort)).trans hlookup⟩
    · rw [hlast] at hnone
      split at hnone
      · cases hnone
      · rename_i hshort
        exact (lookup_upsert_of_ne (Ne.symm hshort)).trans (hg.free short hnone)
  · exact absurd hready (List.append_ne_nil_of_right_ne_nil _ (List.cons_ne_nil _ _))

/-- What is blocked stays blocked. -/
theorem blocked_nil_of_classifyPiece {schema : PyValue}
    (h : classifyPiece live overrides t full schema g = .ok g') (hready : g'.blocked = []) :
    g.blocked = [] := by
  obtain ⟨required, entry, -, -, hcases⟩ := classifyPiece_cases h
  rcases hcases with ⟨-, rfl⟩ | ⟨-, v, -, rfl⟩ | ⟨-, -, -, rfl⟩
  · exact hready
  · exact hready
  · exact absurd hready (List.append_ne_nil_of_right_ne_nil _ (List.cons_ne_nil _ _))

theorem blocked_nil_of_classifyPieces
    (h : (classifyPieces live overrides evalPy fetchPieceSchema t rest g).Runs s l (.ok g') u)
    (hready : g'.blocked = []) : g.blocked = [] := by
  induction rest generalizing g s l with
  | nil =>
    obtain ⟨-, hg', -⟩ := runs_pure_iff.1 h
    obtain rfl := Except.ok.inj hg'
    exact hready
  | cons full rest ih =>
    obtain ⟨l₁, l₂, schema, v, rfl, -, h⟩ := runs_bind_ok_iff.1 h
    obtain ⟨next, hnext, h⟩ := runs_evalPy_bind_ok_iff.1 h
    exact blocked_nil_of_classifyPiece hnext (ih h)

/-- The loop over the pieces. -/
theorem Vouches.loop (hg : Vouches answer live overrides t pieces g.connectionIds)
    (h : (classifyPieces live overrides evalPy fetchPieceSchema t rest g).Runs s l (.ok g') u)
    (hl : ∀ e ∈ l, AnsweredBy answer e) (hready : g'.blocked = []) :
    Vouches answer live overrides t (pieces ++ rest) g'.connectionIds := by
  induction rest generalizing pieces g s l with
  | nil =>
    obtain ⟨-, hg', -⟩ := runs_pure_iff.1 h
    obtain rfl := Except.ok.inj hg'
    rwa [List.append_nil]
  | cons full rest ih =>
    obtain ⟨l₁, l₂, schema, v, rfl, hschema, hmore⟩ := runs_bind_ok_iff.1 h
    obtain ⟨hl₁, hl₂⟩ := List.forall_mem_append.1 hl
    obtain rfl := eq_fetchedSchema_of_runs hschema hl₁
    obtain ⟨next, hnext, hrest⟩ := runs_evalPy_bind_ok_iff.1 hmore
    rw [List.append_cons]
    exact ih (hg.piece hnext (blocked_nil_of_classifyPieces hrest hready)) hrest hl₂

end Vouches

/-! ### Where an action gets its connection from -/

section Sources

/-- The connection id that an action of the request gets, if it gets one. -/
inductive IdSource (answer : CatalogQuery → Except EngineError PyValue) (live : List PyValue)
    (named : List (PyStr × PyStr)) (pieces : List PyStr) (a : PyValue) (short : PyStr) :
    PyValue → Prop
  /-- The action gives it. -/
  | given {id} : a.entry "connection_id" = some id →
      IdSource answer live named pieces a short id
  /-- The request names it for the piece. -/
  | named {cid} : a.entry "connection_id" = none → named.lookup short = some cid → cid ≠ [] →
      IdSource answer live named pieces a short (.str cid)
  /-- It is that of the first active connection of the last piece, among those of the gate with
  this short name, that asks for authentication. -/
  | found {full conn} : a.entry "connection_id" = none →
      (∀ cid, named.lookup short = some cid → cid = []) →
      lastAsking answer (orderedPieces pieces) short = some full →
      firstActive live full = some conn →
      IdSource answer live named pieces a short (foundId conn)

variable {answer : CatalogQuery → Except EngineError PyValue} {live : List PyValue}
  {named : List (PyStr × PyStr)} {t : ConnectionTables} {pieces : List PyStr} {ids : Fields}
  {a : PyValue} {short : PyStr}

/-- The connection of a piece for which the request names none. -/
theorem firstActive_of_chosen {full : PyStr} {v : PyValue}
    (ht : live.foldlM ConnectionTables.sort ⟨[], []⟩ = .ok t)
    (hfull : full ∈ orderedPieces pieces)
    (hnone : ∀ cid, named.lookup (shortName full) = some cid → cid = [])
    (h : Chosen live named t full v) :
    ∃ conn, firstActive live full = some conn ∧ v = foundId conn := by
  rcases h with ⟨cid, ⟨hlookup, hne, -⟩, -⟩ | ⟨-, conn, hconn, hv⟩
  · exact absurd (hnone cid hlookup) hne
  · obtain ⟨piece, -, rfl⟩ := mem_orderedPieces_iff.1 hfull
    exact ⟨conn, (lookup_active_sorted ht).symm.trans hconn, hv⟩

/-- The id that the endpoint works with is the one from these sources. -/
theorem connectionIdOf_eq (hhonours : Honours named ids)
    (hids : Vouches answer live named t (orderedPieces pieces) ids)
    (ht : live.foldlM ConnectionTables.sort ⟨[], []⟩ = .ok t) {id : PyValue}
    (h : IdSource answer live named pieces a short id) :
    connectionIdOf (withFound ids (named.map fun c ↦ (c.1, .str c.2))) a short = id := by
  rw [connectionIdOf, lookup_withFound hhonours.nodup, lookup_map_str]
  cases h with
  | given hgiven =>
    rw [hgiven]
    rfl
  | @named cid hnone hcid hne =>
    rw [hnone, hcid]
    cases hid : ids.lookup short with
    | none => rfl
    | some v => exact hhonours.named short cid v hcid hne hid
  | @found full conn hnone hunnamed hlast hconn =>
    obtain ⟨v, hchosen, hv⟩ := hids.entry short full hlast
    obtain ⟨hmem, rfl⟩ := mem_of_lastAsking hlast
    obtain ⟨conn', hconn', rfl⟩ := firstActive_of_chosen ht hmem hunnamed hchosen
    obtain rfl := Option.some.inj (hconn.symm.trans hconn')
    rw [hnone, hv]
    rfl

/-- Without a source there is none. -/
theorem connectionIdOf_of_no_source (hhonours : Honours named ids)
    (hids : Vouches answer live named t (orderedPieces pieces) ids)
    (ht : live.foldlM ConnectionTables.sort ⟨[], []⟩ = .ok t)
    (h : ∀ id, ¬ IdSource answer live named pieces a short id) :
    (connectionIdOf (withFound ids (named.map fun c ↦ (c.1, .str c.2))) a short).truthy =
      false := by
  rw [connectionIdOf, lookup_withFound hhonours.nodup, lookup_map_str]
  cases hgiven : a.entry "connection_id" with
  | some id => exact absurd (.given hgiven) (h id)
  | none =>
    have hunnamed : ∀ cid, named.lookup short = some cid → cid = [] := by
      intro cid hcid
      by_contra hne
      exact h _ (.named hgiven hcid hne)
    have hnone : ids.lookup short = none := by
      cases hlast : lastAsking answer (orderedPieces pieces) short with
      | none => exact hids.free short hlast
      | some full =>
        obtain ⟨v, hchosen, hv⟩ := hids.entry short full hlast
        obtain ⟨hmem, rfl⟩ := mem_of_lastAsking hlast
        obtain ⟨conn, hconn, rfl⟩ := firstActive_of_chosen ht hmem hunnamed hchosen
        exact absurd (.found hgiven hunnamed hlast hconn) (h _)
    rw [hnone, Option.none_or]
    cases hcid : named.lookup short with
    | none => rfl
    | some cid =>
      obtain rfl := hunnamed cid hcid
      rfl

end Sources

/-! ### The gate of a request -/

/-- The lookups of the gate: the connections, and the schema of each piece once. -/
def gateQueries (body : DynamicBuildBody) (full : PyStr) : List CatalogQuery :=
  .connections :: (orderedPieces (gatePieces body full)).map .schema

theorem nodup_gateQueries (body : DynamicBuildBody) (full : PyStr) :
    (gateQueries body full).Nodup := by
  refine List.nodup_cons.2 ⟨?_, nodup_orderedPieces.map fun _ _ h ↦ CatalogQuery.schema.inj h⟩
  intro hmem
  obtain ⟨piece, -, hpiece⟩ := List.mem_map.1 hmem
  exact CatalogQuery.noConfusion hpiece

section Gate

variable {env : BuilderEnv} {body : DynamicBuildBody} {live : List PyValue}
  {overrides : List (PyStr × PyStr)} {t : ConnectionTables} {g g' : GateLists}
  {rest : List PyStr} {s u : BuilderState} {l : Lookups} {gated : ResolvedTrigger × ConnectionGate}

theorem queries_classifyPieces
    (h : (classifyPieces live overrides evalPy fetchPieceSchema t rest g).Runs s l (.ok g') u) :
    l.map Prod.fst = rest.map .schema := by
  induction rest generalizing g s l with
  | nil =>
    obtain ⟨rfl, -⟩ := runs_pure_iff.1 h
    rfl
  | cons full rest ih =>
    obtain ⟨l₁, l₂, schema, v, rfl, hschema, hmore⟩ := runs_bind_ok_iff.1 h
    obtain ⟨next, -, hrest⟩ := runs_evalPy_bind_ok_iff.1 hmore
    obtain ⟨r, l', rfl, hfetch⟩ := runs_ask_bind_iff.1 hschema
    have hnil : l' = [] := by
      cases r with
      | ok data => exact (runs_pure_iff.1 hfetch).1
      | error e => exact (runs_pure_iff.1 hfetch).1
    rw [hnil, List.map_append, ih hrest]
    rfl

/-- **What the gate hands on**, where it blocks nothing, by the replies to its own lookups. -/
theorem vouches_gatedTrigger (h : (gatedTrigger env body).Runs s l (.ok gated) u)
    (hready : gated.2.blockedCount = 0) :
    ∃ l₁ gate v t, l = l₁ ++ gate ∧
      (resolveTrigger env (.dict body.trigger)).Runs s l₁ (.ok gated.1) v ∧
      gate.map Prod.fst = gateQueries body gated.1.full ∧
      (liveConnections (repliesIn gate)).foldlM ConnectionTables.sort ⟨[], []⟩ = .ok t ∧
      Vouches (repliesIn gate) (liveConnections (repliesIn gate)) (body.connections env) t
        (orderedPieces (gatePieces body gated.1.full)) gated.2.connectionIds := by
  obtain ⟨l₁, l₂, trigger, v, rfl, htrigger, h⟩ := runs_bind_ok_iff.1 h
  obtain ⟨l₃, l₄, live, w, rfl, hlive, h⟩ := runs_bind_ok_iff.1 h
  obtain ⟨l₅, l₆, gate, x, rfl, hgate, h⟩ := runs_bind_ok_iff.1 h
  obtain ⟨rfl, hgated, -⟩ := runs_pure_iff.1 h
  obtain rfl := Except.ok.inj hgated
  rw [List.append_nil]
  -- the pieces
  obtain ⟨pieces, hpieces, hgate⟩ := runs_evalPy_bind_ok_iff.1 hgate
  have hcollected : gatePieces body trigger.full = pieces := by
    rw [gatePieces, hpieces]
    rfl
  obtain ⟨t, ht, hgate⟩ := runs_evalPy_bind_ok_iff.1 hgate
  obtain ⟨l₇, l₈, lists, y, rfl, hlists, hgate⟩ := runs_bind_ok_iff.1 hgate
  obtain ⟨rfl, hgate, -⟩ := runs_pure_iff.1 hgate
  obtain rfl := Except.ok.inj hgate
  rw [List.append_nil]
  -- the connections
  obtain ⟨raw, rfl, hraw⟩ := runs_listConnections hlive
  have hqueries : ([(CatalogQuery.connections, Except.ok raw)] ++ l₇).map Prod.fst =
      gateQueries body trigger.full := by
    rw [List.map_append, queries_classifyPieces hlists, gateQueries, hcollected]
    rfl
  have hanswered := answeredBy_repliesIn (hqueries.symm ▸ nodup_gateQueries body trigger.full)
  obtain ⟨hfirst, hl₇⟩ := List.forall_mem_append.1 hanswered
  have hanswer : .ok raw = repliesIn ([(CatalogQuery.connections, Except.ok raw)] ++ l₇)
      .connections := hfirst _ (List.mem_singleton_self _)
  have hconnections : liveConnections (repliesIn
      ([(CatalogQuery.connections, Except.ok raw)] ++ l₇)) = live := by
    rw [liveConnections, ← hanswer]
    show (connectionsOf raw).toOption.getD [] = live
    rw [hraw]
    rfl
  refine ⟨l₁, _, v, t, rfl, htrigger, hqueries, ?_, ?_⟩
  · rw [hconnections]
    exact ht
  · rw [hconnections, hcollected]
    exact vouches_nil.loop hlists hl₇ (List.length_eq_zero_iff.1 hready)

end Gate

end Siyadah
