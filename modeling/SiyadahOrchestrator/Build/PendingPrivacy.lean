import SiyadahOrchestrator.Build.DraftOrphans

/-!
# What an answer tells of connections

The answer to a request that is kept as a plan names the pieces that are missing a connection. It
is put together from what the gate found among the connections of the project: their ids, their
names, their types. None of this is to come out.

Two projects are compared that differ in such details only (`SameEntry`). The gate lists the same
pieces for both, as far as they are shown (`SameGate`); the draft is built with other connections,
but by the same requests. So the answers are the same, but for the id and the reminder of the plan
(`pending_response_private`).
-/

namespace Siyadah

open Dialogue PyValue

/-! ### Connections that differ in their details -/

/-- The connection is found under the id. -/
def hasId (conn : PyValue) (id : PyStr) : Bool :=
  (conn.entryD "externalId").isStr id || (conn.entryD "id").isStr id

/-- Two connections of the same piece with the same status, which are found under the same ones of
the ids. -/
structure SameEntry (ids : List PyStr) (conn conn' : PyValue) : Prop where
  pieceName : conn.get "pieceName" = conn'.get "pieceName"
  status : conn.get "status" = conn'.get "status"
  found : ∀ id ∈ ids, hasId conn id = hasId conn' id

section Tables

variable {ids : List PyStr} {conn conn' : PyValue} {live live' : List PyValue}
  {t t' : ConnectionTables}

theorem SameEntry.isActive (h : SameEntry ids conn conn') : isActive conn = isActive conn' := by
  have hstatus : conn.entryD "status" = conn'.entryD "status" := by
    have h' := h.status
    cases conn <;> cases conn' <;> first | rfl | exact Except.ok.inj h' | cases h'
  rw [Siyadah.isActive, Siyadah.isActive, hstatus]

/-- The tables have connections of the same pieces. -/
def SameTables (t t' : ConnectionTables) : Prop := t.active.map Prod.fst = t'.active.map Prod.fst

theorem sameTables_sort (h : SameEntry ids conn conn') (ht : SameTables t t')
    {u u' : ConnectionTables} (hu : t.sort conn = .ok u) (hu' : t'.sort conn' = .ok u') :
    SameTables u u' := by
  rw [ConnectionTables.sort, ← h.pieceName, ← h.status] at hu'
  rw [ConnectionTables.sort] at hu
  obtain ⟨pieceName, hpiece, hu⟩ := bind_eq_ok_iff.1 hu
  obtain ⟨status, hstatus, hu⟩ := bind_eq_ok_iff.1 hu
  rw [hpiece] at hu'
  change (conn.get "status" >>= _) = _ at hu'
  rw [hstatus] at hu'
  change (if (!pieceName.truthy) = true then _ else _) = _ at hu'
  split at hu
  · rename_i hnone
    rw [if_pos hnone] at hu'
    obtain rfl := Except.ok.inj hu
    obtain rfl := Except.ok.inj hu'
    exact ht
  rename_i hnone
  rw [if_neg hnone] at hu'
  split at hu
  · rename_i hactive
    rw [if_pos hactive] at hu'
    obtain ⟨key, hkey, hu⟩ := bind_eq_ok_iff.1 hu
    obtain ⟨key', hkey', hu'⟩ := bind_eq_ok_iff.1 hu'
    obtain rfl := Except.ok.inj (hkey.symm.trans hkey')
    rw [← show t.active.map Prod.fst = t'.active.map Prod.fst from ht] at hu'
    split at hu
    · rename_i hmem
      rw [if_pos hmem] at hu'
      obtain rfl := Except.ok.inj hu
      obtain rfl := Except.ok.inj hu'
      exact ht
    · rename_i hmem
      rw [if_neg hmem] at hu'
      obtain rfl := Except.ok.inj hu
      obtain rfl := Except.ok.inj hu'
      show (t.active ++ [(key, conn)]).map Prod.fst = (t'.active ++ [(key, conn')]).map Prod.fst
      rw [List.map_append, List.map_append, show t.active.map Prod.fst = _ from ht]
      rfl
  rename_i hactive
  rw [if_neg hactive] at hu'
  -- the other connections are kept in a table of their own
  split at hu
  · rename_i htruthy
    rw [if_pos htruthy] at hu'
    obtain ⟨key, -, hu⟩ := bind_eq_ok_iff.1 hu
    obtain ⟨key', -, hu'⟩ := bind_eq_ok_iff.1 hu'
    obtain rfl := Except.ok.inj hu
    obtain rfl := Except.ok.inj hu'
    exact ht
  · rename_i htruthy
    rw [if_neg htruthy] at hu'
    obtain rfl := Except.ok.inj hu
    obtain rfl := Except.ok.inj hu'
    exact ht

theorem sameTables_foldlM (h : List.Forall₂ (SameEntry ids) live live') (ht : SameTables t t')
    {u u' : ConnectionTables} (hu : live.foldlM ConnectionTables.sort t = .ok u)
    (hu' : live'.foldlM ConnectionTables.sort t' = .ok u') : SameTables u u' := by
  induction h generalizing t t' with
  | nil =>
    obtain rfl := Except.ok.inj hu
    obtain rfl := Except.ok.inj hu'
    exact ht
  | cons hconn _ ih =>
    rw [List.foldlM_cons] at hu hu'
    obtain ⟨t₁, h₁, hu⟩ := bind_eq_ok_iff.1 hu
    obtain ⟨t₁', h₁', hu'⟩ := bind_eq_ok_iff.1 hu'
    exact ih (sameTables_sort hconn ht h₁ h₁') hu hu'

theorem isSome_lookup_active (ht : SameTables t t') (full : PyStr) :
    (t.active.lookup full).isSome = (t'.active.lookup full).isSome := by
  have hkeys : ∀ active : List (PyStr × PyValue),
      (active.lookup full).isSome = decide (full ∈ active.map Prod.fst) := by
    intro active
    induction active with
    | nil => rfl
    | cons f fs ih =>
      rw [List.lookup_cons, List.map_cons]
      by_cases hf : full = f.1
      · simp [hf]
      · rw [beq_false_of_ne hf, ih]
        simp [hf]
  rw [hkeys, hkeys, show t.active.map Prod.fst = t'.active.map Prod.fst from ht]

/-- The connection that is found first is at the same place in both lists. -/
theorem overrideConnection_rel (h : List.Forall₂ (SameEntry ids) live live') {id : PyStr}
    (hid : id ∈ ids) :
    Option.Rel (SameEntry ids) (overrideConnection live id) (overrideConnection live' id) := by
  rw [overrideConnection, overrideConnection]
  induction h with
  | nil => exact .none
  | @cons conn conn' conns conns' hconn _ ih =>
    have hsame : hasId conn id = hasId conn' id := hconn.found id hid
    rw [hasId, hasId] at hsame
    rw [List.find?_cons, List.find?_cons, hsame]
    split
    · exact .some hconn
    · exact ih

end Tables

/-! ### What the gate lists -/

section Lists

variable {ids : List PyStr} {live live' : List PyValue} {t t' : ConnectionTables}
  {overrides : List (PyStr × PyStr)} {g g' : GateLists}

theorem sanitizePieces_append (l l' : List PyValue) :
    sanitizePieces (l ++ l') = sanitizePieces l ++ sanitizePieces l' := by
  rw [sanitizePieces, List.filter_append, List.map_append]
  rfl

/-- The entries of a piece that are shown. -/
theorem sanitizePiece_pyDict (fields : List (String × PyValue)) :
    sanitizePiece (pyDict fields) =
      pyDict (safePieceKeys.filterMap fun key ↦ (fields.lookup key).map fun v ↦ (key, v)) := by
  rw [sanitizePiece]
  simp only [entry_pyDict]

/-- Nothing of the connection of a piece is shown. -/
theorem sanitizePiece_connectedEntry (full short : PyStr) (authType : PyValue) (status : String)
    (ext conn ext' conn' : PyValue) :
    sanitizePiece (connectedEntry full short authType status ext conn) =
      sanitizePiece (connectedEntry full short authType status ext' conn') := by
  rw [connectedEntry, connectedEntry, sanitizePiece_pyDict, sanitizePiece_pyDict]
  rfl

theorem sanitizePiece_blockedEntry (full short : PyStr) (authType : PyValue)
    (status reason : String) (errored errored' : List PyValue) :
    sanitizePiece (blockedEntry full short authType status errored reason) =
      sanitizePiece (blockedEntry full short authType status errored' reason) := by
  rw [blockedEntry, blockedEntry, sanitizePiece_pyDict, sanitizePiece_pyDict]
  rfl

/-- The lists show the same pieces. -/
structure SameLists (g g' : GateLists) : Prop where
  runnable : sanitizePieces g.runnable = sanitizePieces g'.runnable
  blocked : sanitizePieces g.blocked = sanitizePieces g'.blocked
  runnableLength : g.runnable.length = g'.runnable.length
  blockedLength : g.blocked.length = g'.blocked.length

theorem SameLists.addRunnable (h : SameLists g g') {v v' : PyValue} (hv : v.isDict = true)
    (hv' : v'.isDict = true) (hsame : sanitizePiece v = sanitizePiece v') (ids ids' : Fields) :
    SameLists { g with runnable := g.runnable ++ [v], connectionIds := ids }
      { g' with runnable := g'.runnable ++ [v'], connectionIds := ids' } := by
  refine ⟨?_, h.blocked, ?_, h.blockedLength⟩
  · rw [sanitizePieces_append, sanitizePieces_append, h.runnable]
    simp [sanitizePieces, hv, hv', hsame]
  · rw [List.length_append, List.length_append, h.runnableLength]
    rfl

theorem SameLists.addBlocked (h : SameLists g g') {v v' : PyValue} (hv : v.isDict = true)
    (hv' : v'.isDict = true) (hsame : sanitizePiece v = sanitizePiece v') :
    SameLists { g with blocked := g.blocked ++ [v] } { g' with blocked := g'.blocked ++ [v'] } := by
  refine ⟨h.runnable, ?_, h.runnableLength, ?_⟩
  · rw [sanitizePieces_append, sanitizePieces_append, h.blocked]
    simp [sanitizePieces, hv, hv', hsame]
  · rw [List.length_append, List.length_append, h.blockedLength]
    rfl

/-- **A piece is listed in the same way**, whatever the details of the connections. -/
theorem sameLists_classifyPiece (hlive : List.Forall₂ (SameEntry ids) live live')
    (hids : ∀ c ∈ overrides, c.2 ∈ ids) (ht : SameTables t t') (hg : SameLists g g')
    {full : PyStr} {schema : PyValue} {a a' : GateLists}
    (ha : classifyPiece live overrides t full schema g = .ok a)
    (ha' : classifyPiece live' overrides t' full schema g' = .ok a') : SameLists a a' := by
  rw [classifyPiece] at ha ha'
  obtain ⟨requires, hrequires, ha⟩ := bind_eq_ok_iff.1 ha
  rw [hrequires] at ha'
  change (if (!requires) = true then _ else _) = _ at ha'
  cases requires with
  | false =>
    obtain rfl := Except.ok.inj ha
    obtain rfl := Except.ok.inj ha'
    exact hg.addRunnable rfl rfl rfl g.connectionIds g'.connectionIds
  | true =>
    obtain ⟨authType, htype, ha⟩ := bind_eq_ok_iff.1 ha
    obtain ⟨authType', htype', ha'⟩ := bind_eq_ok_iff.1 ha'
    obtain rfl := Except.ok.inj (htype.symm.trans htype')
    dsimp only at ha ha'
    by_cases hoverride : (overrides.lookup (shortName full)).getD [] = []
    · rw [if_neg (not_not.2 hoverride)] at ha ha'
      have hsome := isSome_lookup_active ht full
      rcases hactive : t.active.lookup full with _ | conn <;>
        rcases hactive' : t'.active.lookup full with _ | conn' <;>
        rw [hactive, hactive'] at hsome
      · rw [hactive] at ha
        rw [hactive'] at ha'
        obtain rfl := Except.ok.inj ha
        obtain rfl := Except.ok.inj ha'
        exact hg.addBlocked rfl rfl (sanitizePiece_blockedEntry ..)
      · cases hsome
      · cases hsome
      · rw [hactive] at ha
        rw [hactive'] at ha'
        obtain rfl := Except.ok.inj ha
        obtain rfl := Except.ok.inj ha'
        exact hg.addRunnable rfl rfl (sanitizePiece_connectedEntry ..) _ _
    · rw [if_pos hoverride] at ha ha'
      -- the id is one of those under which the lists agree
      have hid : (overrides.lookup (shortName full)).getD [] ∈ ids := by
        cases hlookup : overrides.lookup (shortName full) with
        | none => exact absurd (by rw [hlookup]; rfl) hoverride
        | some id =>
          obtain ⟨before, after, hsplit, -⟩ := List.lookup_eq_some_iff.1 hlookup
          exact hids (shortName full, id) (hsplit ▸ List.mem_append_right _ List.mem_cons_self)
      have hrel := overrideConnection_rel hlive hid
      generalize overrideConnection live ((overrides.lookup (shortName full)).getD []) = found
        at ha hrel
      generalize overrideConnection live' ((overrides.lookup (shortName full)).getD []) = found'
        at ha' hrel
      cases hrel with
      | none =>
        obtain rfl := Except.ok.inj ha
        obtain rfl := Except.ok.inj ha'
        exact hg.addBlocked rfl rfl (sanitizePiece_blockedEntry ..)
      | @some conn conn' hconn =>
        dsimp only at ha ha'
        rw [← hconn.isActive] at ha'
        split at ha
        · rename_i hactive
          rw [if_pos hactive] at ha'
          obtain rfl := Except.ok.inj ha
          obtain rfl := Except.ok.inj ha'
          exact hg.addRunnable rfl rfl (sanitizePiece_connectedEntry ..) _ _
        · rename_i hactive
          rw [if_neg hactive] at ha'
          obtain rfl := Except.ok.inj ha
          obtain rfl := Except.ok.inj ha'
          exact hg.addBlocked rfl rfl (sanitizePiece_blockedEntry ..)

end Lists

/-! ### The replies -/

/-- The connections in a reply. -/
def connectionsOf (raw : PyValue) : Except PyError (List PyValue) := do
  let live ← listOrData raw
  if live.truthy then
    let items ← live.items
    pure (items.map Subtype.val)
  else pure []

/-- Two replies with connections that differ in their details. -/
def SameConnections (ids : List PyStr) (r r' : Except EngineError PyValue) : Prop :=
  ∀ raw raw' live live', r = .ok raw → r' = .ok raw' → connectionsOf raw = .ok live →
    connectionsOf raw' = .ok live' → List.Forall₂ (SameEntry ids) live live'

/-- Lookups that are answered alike. -/
def SameLookup (ids : List PyStr) (e e' : CatalogQuery × Except EngineError PyValue) : Prop :=
  match e.1, e'.1 with
  | .connections, .connections => SameConnections ids e.2 e'.2
  | _, _ => e.2 = e'.2

/-- Requests that are answered alike: with connections that differ in their details, with any id and
reminder of a plan, and with the same reply to anything else. -/
def SameReply (ids : List PyStr) (e e' : DynamicQuery × Except EngineError PyValue) : Prop :=
  match e.1, e'.1 with
  | .catalog q, .catalog q' => SameLookup ids (q, e.2) (q', e'.2)
  | .savePlan _, .savePlan _ => True
  | _, _ => e.2 = e'.2

/-! ### Lookups -/

section Lookups

variable {α β : Type} {env : BuilderEnv} {ids : List PyStr}

/-- The request is not about connections. -/
def CatalogQuery.IsPublic (q : CatalogQuery) : Prop := q ≠ .connections

/-- The program looks up what is public, and keeps no state. -/
structure LooksUp (m : BuilderM α) : Prop where
  sends : Sends CatalogQuery.IsPublic m
  stateless : Stateless m

theorem LooksUp.bind {m : BuilderM α} {f : α → BuilderM β} (h : LooksUp m)
    (hf : ∀ a, LooksUp (f a)) : LooksUp (m >>= f) :=
  ⟨h.sends.bind fun a ↦ (hf a).sends, h.stateless.bind fun a ↦ (hf a).stateless⟩

theorem looksUp_pure (a : α) : LooksUp (pure a : BuilderM α) := ⟨sends_pure a, stateless_pure a⟩

theorem looksUp_evalPy (x : Except PyError α) : LooksUp (evalPy x) :=
  ⟨sends_lift _, stateless_evalPy x⟩

theorem looksUp_fetchPieceSchema (piece : PyStr) : LooksUp (fetchPieceSchema piece) := by
  refine ⟨(sends_ask (by simp [CatalogQuery.IsPublic])).bind fun r ↦ ?_,
    stateless_fetchPieceSchema piece⟩
  cases r with
  | ok data => exact sends_pure _
  | error e => exact sends_pure _

theorem looksUp_getRawPiecesList : LooksUp getRawPiecesList := by
  refine ⟨(sends_ask (by simp [CatalogQuery.IsPublic])).bind fun r ↦ ?_,
    stateless_getRawPiecesList⟩
  cases r with
  | error e => exact sends_raise e
  | ok raw => exact (sends_lift _).bind fun _ ↦ (sends_lift _).bind fun _ ↦ sends_pure _

theorem looksUp_tryCandidates (names : List PyStr) (last : PyValue) :
    LooksUp (tryCandidates names last) := by
  induction names generalizing last with
  | nil => exact looksUp_pure _
  | cons c cs ih =>
    refine (looksUp_fetchPieceSchema c).bind fun schema ↦ (looksUp_evalPy _).bind fun found ↦ ?_
    cases found with
    | true => exact looksUp_pure _
    | false => exact ih schema

theorem looksUp_tryListed {R : PyRuntime} (query : PyStr) (pieces : List PyValue)
    (last : PyValue) : LooksUp (tryListed R query pieces last) := by
  induction pieces generalizing last with
  | nil => exact looksUp_pure _
  | cons p ps ih =>
    refine (looksUp_evalPy _).bind fun short ↦ ?_
    split
    · refine (looksUp_fetchPieceSchema short).bind fun schema ↦ (looksUp_evalPy _).bind
        fun found ↦ ?_
      cases found with
      | true => exact looksUp_pure _
      | false => exact ih schema
    · exact ih last

theorem looksUp_autoResolvePiece {R : PyRuntime} (name : PyStr) :
    LooksUp (autoResolvePiece R name) := by
  refine (looksUp_fetchPieceSchema name).bind fun schema ↦ (looksUp_evalPy _).bind fun loaded ↦ ?_
  cases loaded with
  | true => exact looksUp_pure _
  | false =>
    refine (looksUp_tryCandidates _ _).bind fun found ↦ ?_
    rcases found with ⟨_ | resolved, last⟩
    · refine looksUp_getRawPiecesList.bind fun pieces ↦ (looksUp_tryListed _ _ _).bind
        fun listed ↦ ?_
      rcases listed with ⟨_ | resolved, last'⟩
      · exact looksUp_pure _
      · exact looksUp_pure _
    · exact looksUp_pure _

theorem looksUp_resolveTrigger (t : PyValue) : LooksUp (resolveTrigger env t) :=
  (looksUp_evalPy _).bind fun _ ↦ (looksUp_evalPy _).bind fun name ↦
    (looksUp_autoResolvePiece name).bind fun _ ↦ (looksUp_evalPy _).bind fun _ ↦
    (looksUp_evalPy _).bind fun _ ↦ (looksUp_evalPy _).bind fun _ ↦ (looksUp_evalPy _).bind fun _ ↦
    (looksUp_evalPy _).bind fun _ ↦ looksUp_pure _

theorem looksUp_resolveActionSpec (a : PyValue) : LooksUp (resolveActionSpec env a) :=
  (looksUp_evalPy _).bind fun _ ↦ (looksUp_evalPy _).bind fun name ↦
    (looksUp_autoResolvePiece name).bind fun _ ↦ (looksUp_evalPy _).bind fun _ ↦ looksUp_pure _

/-- **A lookup returns the same** where it is answered alike. -/
theorem LooksUp.alike {m : BuilderM α} (h : LooksUp m) : Alike (SameLookup ids) (· = ·) m m := by
  refine alike_self h.sends h.stateless fun q r r' hq hsame ↦ ?_
  cases q with
  | connections => exact absurd rfl hq
  | _ => exact hsame

end Lookups

/-! ### The gate -/

section Gate

variable {env : BuilderEnv} {ids : List PyStr} {body : DynamicBuildBody}

theorem runs_listConnections {s t : BuilderState}
    {l : List (CatalogQuery × Except EngineError PyValue)} {live : List PyValue}
    (h : listConnections.Runs s l (.ok live) t) :
    ∃ raw, l = [(.connections, .ok raw)] ∧ connectionsOf raw = .ok live := by
  obtain ⟨r, l', hl, hrest⟩ := runs_ask_bind_iff.1 h
  cases r with
  | error e => exact absurd (runs_raise_iff.1 hrest).2.1 (by simp)
  | ok raw =>
    obtain ⟨value, hvalue, hrest⟩ := runs_evalPy_bind_ok_iff.1 hrest
    have hend : l' = [] ∧ connectionsOf raw = .ok live := by
      rw [connectionsOf, hvalue]
      show _ ∧ (if value.truthy = true then value.items >>= _ else _) = _
      split at hrest
      · rename_i htruthy
        obtain ⟨items, hitems, hrest⟩ := runs_evalPy_bind_ok_iff.1 hrest
        obtain ⟨hnil, hlive, -⟩ := runs_pure_iff.1 hrest
        rw [if_pos htruthy, hitems]
        exact ⟨hnil, congrArg Except.ok (Except.ok.inj hlive).symm⟩
      · rename_i htruthy
        obtain ⟨hnil, hlive, -⟩ := runs_pure_iff.1 hrest
        rw [if_neg htruthy]
        exact ⟨hnil, congrArg Except.ok (Except.ok.inj hlive).symm⟩
    exact ⟨raw, hend.1 ▸ hl, hend.2⟩

/-- The connections are listed for both. -/
theorem alike_listConnections : Alike (SameLookup ids) (List.Forall₂ (SameEntry ids))
    listConnections listConnections := by
  intro s s' l l' live live' t t' hrun hrun' halign
  obtain ⟨raw, rfl, hraw⟩ := runs_listConnections hrun
  obtain ⟨raw', rfl, hraw'⟩ := runs_listConnections hrun'
  have hsame : SameConnections ids (.ok raw) (.ok raw') := halign.head
  exact ⟨hsame raw raw' live live' rfl rfl hraw hraw', rfl⟩

theorem alike_evalPy {S : CatalogQuery × Except EngineError PyValue →
    CatalogQuery × Except EngineError PyValue → Prop} {α β : Type} {P : α → β → Prop}
    {x : Except PyError α} {y : Except PyError β}
    (h : ∀ a b, x = .ok a → y = .ok b → P a b) : Alike S P (evalPy x) (evalPy y) :=
  alike_lift fun a b ha hb ↦ h a b (fromPy_eq_ok_iff.1 ha) (fromPy_eq_ok_iff.1 hb)

/-- The same computation on the same values. -/
theorem alike_evalPy_self {S : CatalogQuery × Except EngineError PyValue →
    CatalogQuery × Except EngineError PyValue → Prop} {α : Type} {x : Except PyError α} :
    Alike S (· = ·) (evalPy x) (evalPy x) :=
  alike_evalPy fun _ _ ha hb ↦ Except.ok.inj (ha.symm.trans hb)

variable {live live' : List PyValue} {t t' : ConnectionTables} {overrides : List (PyStr × PyStr)}

/-- **The loop over the pieces** lists them in the same way. -/
theorem alike_classifyPieces (hlive : List.Forall₂ (SameEntry ids) live live')
    (hids : ∀ c ∈ overrides, c.2 ∈ ids) (ht : SameTables t t') (pieces : List PyStr)
    {g g' : GateLists} (hg : SameLists g g') :
    Alike (SameLookup ids) SameLists
      (classifyPieces live overrides evalPy fetchPieceSchema t pieces g)
      (classifyPieces live' overrides evalPy fetchPieceSchema t' pieces g') := by
  induction pieces generalizing g g' with
  | nil => exact alike_pure hg
  | cons full rest ih =>
    refine (looksUp_fetchPieceSchema full).alike.bind fun schema schema' hschema ↦ ?_
    obtain rfl := hschema
    refine Alike.bind (alike_evalPy fun a a' ha ha' ↦ ?_) fun g₁ g₁' hg₁ ↦ ih hg₁
    exact sameLists_classifyPiece hlive hids ht hg ha ha'

/-- The gates list the same pieces, as far as they are shown. -/
structure SameGate (g g' : ConnectionGate) : Prop where
  status : g.status = g'.status
  runnable : sanitizePieces g.runnablePieces = sanitizePieces g'.runnablePieces
  blocked : sanitizePieces g.blockedPieces = sanitizePieces g'.blockedPieces
  totalPieces : g.totalPieces = g'.totalPieces
  blockedCount : g.blockedCount = g'.blockedCount
  runnableCount : g.runnableCount = g'.runnableCount

/-- **The gate** lists the same pieces. -/
theorem alike_classifyConnectionRequirements (hlive : List.Forall₂ (SameEntry ids) live live')
    (hids : ∀ c ∈ overrides, c.2 ∈ ids) (steps : PyValue) :
    Alike (SameLookup ids) SameGate
      (classifyConnectionRequirements live overrides evalPy fetchPieceSchema steps)
      (classifyConnectionRequirements live' overrides evalPy fetchPieceSchema steps) := by
  refine alike_evalPy_self.bind fun pieces pieces' hpieces ↦ ?_
  obtain rfl := hpieces
  have htables : Alike (SameLookup ids) SameTables
      (evalPy (live.foldlM ConnectionTables.sort ⟨[], []⟩))
      (evalPy (live'.foldlM ConnectionTables.sort ⟨[], []⟩)) :=
    alike_evalPy fun u u' hu hu' ↦ sameTables_foldlM hlive rfl hu hu'
  refine htables.bind fun t t' ht ↦ ?_
  have hstart : SameLists ⟨[], [], []⟩ ⟨[], [], []⟩ := ⟨rfl, rfl, rfl, rfl⟩
  refine (alike_classifyPieces hlive hids ht _ hstart).bind fun g g' hg ↦ alike_pure ?_
  have hempty : g.blocked.isEmpty = g'.blocked.isEmpty := by
    rw [Bool.eq_iff_iff, List.isEmpty_iff_length_eq_zero, List.isEmpty_iff_length_eq_zero,
      hg.blockedLength]
  refine ⟨?_, hg.runnable, hg.blocked, rfl, hg.blockedLength, hg.runnableLength⟩
  show (if g.blocked.isEmpty = true then _ else _) = if g'.blocked.isEmpty = true then _ else _
  rw [hempty]

/-- The ids that a request may name. -/
def DynamicBuildBody.namedIds (body : DynamicBuildBody) (env : BuilderEnv) : List PyStr :=
  (body.connections env).map Prod.snd

/-- The trigger is the same, and the gates list the same pieces. -/
theorem alike_gatedTrigger : Alike (SameLookup (body.namedIds env))
    (fun p p' ↦ p.1 = p'.1 ∧ SameGate p.2 p'.2) (gatedTrigger env body)
    (gatedTrigger env body) := by
  refine (looksUp_resolveTrigger _).alike.bind fun t t' ht ↦ ?_
  obtain rfl := ht
  refine alike_listConnections.bind fun live live' hlive ↦ ?_
  have hids : ∀ c ∈ body.connections env, c.2 ∈ body.namedIds env := fun c hc ↦
    List.mem_map.2 ⟨c, hc, rfl⟩
  refine (alike_classifyConnectionRequirements hlive hids _).bind fun g g' hg ↦ ?_
  exact alike_pure ⟨rfl, hg⟩

end Gate

/-! ### The chain of a draft -/

section Chain

variable {env : BuilderEnv} {ids : List PyStr} {next next' : PyValue}

/-- Nothing is said of the values. -/
def Anything {α β : Type} (_ : α) (_ : β) : Prop := True

/-- The two programs make requests that are answered alike. -/
abbrev InStep (ids : List PyStr) {α β : Type} (m : BuilderM α) (m' : BuilderM β) : Prop :=
  Alike (SameLookup ids) Anything m m'

theorem inStep_evalPy {α β : Type} {x : Except PyError α} {y : Except PyError β} :
    InStep ids (evalPy x) (evalPy y) := alike_evalPy fun _ _ _ _ ↦ trivial

theorem inStep_report {row row' : PyValue} : InStep ids (report row) (report row') :=
  alike_getState.bind fun _ _ _ ↦ alike_setState.mono fun _ _ _ ↦ trivial

theorem inStep_nextNumber : InStep ids nextNumber nextNumber :=
  alike_getState.bind fun _ _ _ ↦ alike_setState.bind fun _ _ _ ↦ alike_pure trivial

/-- A step that uses a piece looks up the piece, and nothing else. -/
theorem inStep_buildPieceStep {spec spec' : PyValue} {sname sname' : PyStr}
    (h : specPiece spec = specPiece spec') :
    InStep ids (buildPieceStep env spec sname next) (buildPieceStep env spec' sname' next') := by
  rw [buildPieceStep, buildPieceStep, ← h]
  refine alike_evalPy_self.bind fun raw raw' hraw ↦ ?_
  obtain rfl := hraw
  split
  · exact alike_raise
  refine (looksUp_autoResolvePiece raw).alike.bind fun resolved resolved' hresolved ↦ ?_
  obtain rfl := hresolved
  have hsettings : InStep ids (lift (pieceSettings env spec resolved.2 resolved.1))
      (lift (pieceSettings env spec' resolved.2 resolved.1)) := alike_lift fun _ _ _ _ ↦ trivial
  exact hsettings.bind fun _ _ _ ↦ inStep_report.bind fun _ _ _ ↦ inStep_evalPy.bind fun _ _ _ ↦
    alike_pure trivial

/-- An exception of a step ends the chain. -/
theorem inStep_buildChainStep {build build' : BuilderM PyValue} {spec spec' : PyValue}
    {n n' total total' : ℕ} (h : InStep ids build build') :
    InStep ids (buildChainStep env build spec n total)
      (buildChainStep env build' spec' n' total') := by
  have hraises : ∀ (e : EngineError) (n total : ℕ) s l (a : PyValue) t, ¬ ((if e.isHttp then raise e
      else raise (.http 500 (.text [.lit "Failed building step ", .val (.int n), .lit "/",
        .val (.int total), .lit ": ", .val (.str (env.runtime.describe e))])) :
          BuilderM PyValue).Runs s l (.ok a) t) := by
    intro e n total s l a t hrun
    split at hrun
    · exact absurd (runs_raise_iff.1 hrun).2.1 (by simp)
    · exact absurd (runs_raise_iff.1 hrun).2.1 (by simp)
  rw [buildChainStep, buildChainStep]
  split
  · split
    · exact h.handle (fun e ↦ hraises e n total) fun e ↦ hraises e n' total'
    · exact alike_raise_right
  · exact alike_raise

/-- **The loop** takes the specifications one by one. -/
theorem inStep_buildChainFrom {β γ : Type} {build : β → PyValue → BuilderM PyValue}
    {build' : γ → PyValue → BuilderM PyValue} {specOf : β → PyValue} {specOf' : γ → PyValue}
    {bs : List β} {cs : List γ}
    (h : List.Forall₂ (fun b c ↦ ∀ chain chain', InStep ids (build b chain) (build' c chain'))
      bs cs)
    (total total' n n' : ℕ) :
    InStep ids (buildChainFrom env build specOf total n bs)
      (buildChainFrom env build' specOf' total' n' cs) := by
  induction h generalizing n n' with
  | nil => exact alike_pure trivial
  | cons hbuild _ ih =>
    exact (ih (n + 1) (n' + 1)).bind fun chain chain' _ ↦
      inStep_buildChainStep (hbuild chain chain')

/-- The items of two related lists are related. -/
theorem forall₂_items {Q : PyValue → PyValue → Prop} {vs vs' : List PyValue}
    {ws : List { w : PyValue // w.weight ≤ (PyValue.list vs).weight }}
    {ws' : List { w : PyValue // w.weight ≤ (PyValue.list vs').weight }}
    (h : List.Forall₂ Q vs vs') (hws : (PyValue.list vs).items = .ok ws)
    (hws' : (PyValue.list vs').items = .ok ws') :
    List.Forall₂ (fun w w' ↦ Q w.1 w'.1) ws ws' := by
  have hval : ws.map Subtype.val = vs := map_val_of_items hws
  have hval' : ws'.map Subtype.val = vs' := map_val_of_items hws'
  have hmap : List.Forall₂ Q (ws.map Subtype.val) (ws'.map Subtype.val) := by rwa [hval, hval']
  exact List.forall₂_map_left_iff.1 (List.forall₂_map_right_iff.1 hmap)

/-- A chain, for two ways to build a step that are in step with each other. -/
theorem inStep_chainOf {v : PyValue}
    {build build' : { s : PyValue // s.weight ≤ v.weight } → PyValue → BuilderM PyValue}
    (h : ∀ s chain chain', InStep ids (build s chain) (build' s chain')) :
    InStep ids (chainOf env v build) (chainOf env v build') := by
  rw [chainOf, chainOf]
  split
  · exact alike_pure trivial
  refine alike_evalPy_self.bind fun specs specs' hspecs ↦ ?_
  obtain rfl := hspecs
  refine inStep_buildChainFrom ?_ _ _ _ _
  exact List.forall₂_same.2 fun s _ ↦ h s

theorem inStep_buildBranches {β : Type} {branchOf : β → PyValue}
    {chain chain' : β → BuilderM PyValue} (h : ∀ b, InStep ids (chain b) (chain' b))
    (bs : List β) :
    InStep ids (buildBranches branchOf chain bs) (buildBranches branchOf chain' bs) := by
  induction bs with
  | nil => exact alike_pure trivial
  | cons b bs ih =>
    exact inStep_evalPy.bind fun _ _ _ ↦ (h b).bind fun _ _ _ ↦ ih.bind fun _ _ _ ↦
      alike_pure trivial

/-- **A step is built by the same requests**, whatever follows it. -/
theorem inStep_buildStepFromSpec (spec next next' : PyValue) :
    InStep ids (buildStepFromSpec env spec next) (buildStepFromSpec env spec next') := by
  induction hn : spec.weight using Nat.strong_induction_on generalizing spec next next' with
  | h n ih =>
    subst hn
    rw [buildStepFromSpec, buildStepFromSpec]
    refine alike_evalPy_self.bind fun stype stype' htype ↦ ?_
    obtain rfl := htype
    refine inStep_nextNumber.bind fun k k' _ ↦ ?_
    dsimp only
    split
    · exact inStep_buildPieceStep rfl
    split
    · exact inStep_evalPy.bind fun _ _ _ ↦ inStep_report.bind fun _ _ _ ↦
        inStep_evalPy.bind fun _ _ _ ↦ inStep_evalPy.bind fun _ _ _ ↦ alike_pure trivial
    split
    · refine alike_evalPy_self.bind fun branches branches' hbranches ↦ ?_
      obtain rfl := hbranches
      refine inStep_evalPy.bind fun display display' _ ↦ inStep_report.bind fun _ _ _ ↦ ?_
      refine alike_evalPy_self.bind fun items items' hitems ↦ ?_
      obtain rfl := hitems
      refine (inStep_buildBranches (fun b ↦ ?_) items).bind fun _ _ _ ↦ alike_pure trivial
      split
      · refine alike_evalPy_self.bind fun actions actions' hactions ↦ ?_
        obtain rfl := hactions
        refine inStep_chainOf fun s chain chain' ↦ ?_
        have hlt : s.1.weight < spec.weight := Nat.lt_of_le_of_lt s.2 (Nat.lt_of_lt_of_le actions.2
          (Nat.le_of_lt (Nat.lt_of_le_of_lt b.2 branches.2)))
        exact ih _ hlt s.1 chain chain' rfl
      · exact alike_pure trivial
    split
    · refine inStep_evalPy.bind fun _ _ _ ↦ inStep_evalPy.bind fun _ _ _ ↦
        inStep_evalPy.bind fun _ _ _ ↦ inStep_report.bind fun _ _ _ ↦ ?_
      refine alike_evalPy_self.bind fun actions actions' hactions ↦ ?_
      obtain rfl := hactions
      refine Alike.bind (inStep_chainOf fun s chain chain' ↦ ?_) fun _ _ _ ↦ alike_pure trivial
      exact ih _ (Nat.lt_of_le_of_lt s.2 actions.2) s.1 chain chain' rfl
    · exact alike_raise

/-- Specifications that are built by the same requests: they are the same, or they are for the same
piece. -/
def SameCalls (spec spec' : PyValue) : Prop :=
  spec = spec' ∨ spec.getD "type" (py "PIECE") = .ok (py "PIECE") ∧
    spec'.getD "type" (py "PIECE") = .ok (py "PIECE") ∧ specPiece spec = specPiece spec'

theorem SameCalls.inStep {spec spec' : PyValue} (h : SameCalls spec spec') (next next' : PyValue) :
    InStep ids (buildStepFromSpec env spec next) (buildStepFromSpec env spec' next') := by
  rcases h with rfl | ⟨htype, htype', hpiece⟩
  · exact inStep_buildStepFromSpec spec next next'
  rw [buildStepFromSpec, buildStepFromSpec, htype, htype']
  have hkind : Alike (SameLookup ids) (fun v v' ↦ v = py "PIECE" ∧ v' = py "PIECE")
      (evalPy (.ok (py "PIECE"))) (evalPy (.ok (py "PIECE"))) :=
    alike_evalPy fun v v' hv hv' ↦ ⟨(Except.ok.inj hv).symm, (Except.ok.inj hv').symm⟩
  refine hkind.bind ?_
  rintro v v' ⟨rfl, rfl⟩
  exact inStep_nextNumber.bind fun k k' _ ↦ inStep_buildPieceStep hpiece

/-- What an action contributes to the chain names the same piece, whatever its input is. -/
theorem sameCalls_chainSpec {a : PyValue} {r : ResolvedAction} {input input' : Fields}
    {spec spec' : PyValue} (h : chainSpec a r input = .ok spec)
    (h' : chainSpec a r input' = .ok spec') : SameCalls spec spec' := by
  obtain ⟨actionName, -, h⟩ := bind_eq_ok_iff.1 h
  obtain ⟨display, -, h⟩ := bind_eq_ok_iff.1 h
  obtain ⟨actionName', -, h'⟩ := bind_eq_ok_iff.1 h'
  obtain ⟨display', -, h'⟩ := bind_eq_ok_iff.1 h'
  obtain rfl := Except.ok.inj h
  obtain rfl := Except.ok.inj h'
  have hentry : ∀ (fields : List (String × PyValue)) (key : String) (d : PyValue),
      (pyDict fields).getD key d = .ok ((fields.lookup key).getD d) := by
    intro fields key d
    rw [getD_of_isDict rfl, entry_pyDict]
  refine .inr ⟨hentry _ _ _, hentry _ _ _, ?_⟩
  rw [specPiece, specPiece, PyValue.get, PyValue.get, hentry, hentry]
  show ((PyValue.str r.full).orGet _ "piece_name" >>= _) =
    ((PyValue.str r.full).orGet _ "piece_name" >>= _)
  rw [PyValue.orGet, PyValue.orGet, PyValue.get, PyValue.get, hentry, hentry]
  rfl

/-- **The specifications of the chain**, for any two ways to connect an action. -/
theorem alike_chainSpecs (connection connection' : PyValue → PyStr → Except PyError PyValue)
    (actions : List PyValue) : Alike (SameLookup ids)
      (fun p p' ↦ List.Forall₂ SameCalls p.1 p'.1)
      (chainSpecs env connection actions) (chainSpecs env connection' actions) := by
  induction actions with
  | nil => exact alike_pure .nil
  | cons a rest ih =>
    refine alike_evalPy_self.bind fun stype stype' htype ↦ ?_
    obtain rfl := htype
    split
    · exact ih.bind fun others others' hothers ↦ alike_pure (.cons (.inl rfl) hothers)
    refine (looksUp_resolveActionSpec a).alike.bind fun r r' hr ↦ ?_
    obtain rfl := hr
    refine inStep_evalPy.bind fun connId connId' _ ↦ inStep_evalPy.bind fun input input' _ ↦ ?_
    refine Alike.bind (alike_evalPy fun spec spec' h h' ↦ sameCalls_chainSpec h h')
      fun spec spec' hspec ↦ ?_
    exact ih.bind fun others others' hothers ↦ alike_pure (.cons hspec hothers)

theorem inStep_buildActionChain {specs specs' : List PyValue}
    (h : List.Forall₂ SameCalls specs specs') :
    InStep ids (buildActionChain env (.list specs)) (buildActionChain env (.list specs')) := by
  have htruthy : (PyValue.list specs).truthy = (PyValue.list specs').truthy := by
    cases h <;> rfl
  rw [buildActionChain, buildActionChain, chainOf, chainOf, htruthy]
  split
  · exact alike_pure trivial
  intro s s' l l' a a' t t' hrun hrun' halign
  obtain ⟨ws, hws, hrest⟩ := runs_evalPy_bind_ok_iff.1 hrun
  obtain ⟨ws', hws', hrest'⟩ := runs_evalPy_bind_ok_iff.1 hrun'
  have hitems := forall₂_items h hws hws'
  exact inStep_buildChainFrom (hitems.imp fun w w' hcalls chain chain' ↦
    SameCalls.inStep hcalls chain chain') _ _ _ _ s s' l l' a a' t t' hrest hrest' halign

theorem inStep_dynamicChain {body : DynamicBuildBody}
    (connection connection' : PyValue → PyStr → Except PyError PyValue) :
    InStep ids (dynamicChain env body connection) (dynamicChain env body connection') :=
  (alike_chainSpecs connection connection' _).bind fun _ _ hspecs ↦
    alike_setState.bind fun _ _ _ ↦ (inStep_buildActionChain hspecs).bind fun _ _ _ ↦
      alike_pure trivial

end Chain

/-! ### The answer -/

section Answer

variable {env : BuilderEnv} {ids : List PyStr} {pid stampedAt stampedAt' : PyStr} {visible : Bool}
  {body : DynamicBuildBody}

theorem alike_inCatalog {α β : Type} {P : α → β → Prop} {m : BuilderM α} {m' : BuilderM β}
    (h : Alike (SameLookup ids) P m m') : Alike (SameReply ids) P (inCatalog m) (inCatalog m') :=
  h.rename fun _ _ hsame ↦ hsame

/-- A request that is answered in the same way. -/
theorem alike_perform {q q' : DynamicQuery}
    (h : ∀ r r', SameReply ids (q, r) (q', r') → r = r') :
    Alike (SameReply ids) (· = ·) (perform q) (perform q') := by
  refine (alike_ask h).bind fun r r' hr ↦ ?_
  obtain rfl := hr
  exact alike_lift fun a a' ha ha' ↦ Except.ok.inj (ha.symm.trans ha')

/-- The draft gets the same id, whatever it is stamped with and whatever its trigger is. -/
theorem alike_createApVisibleDraftFlow {name : PyStr} {trigger trigger' : PyValue} :
    Alike (SameReply ids) (· = ·)
      (createApVisibleDraftFlow requestEngine pid name stampedAt trigger)
      (createApVisibleDraftFlow requestEngine pid name stampedAt' trigger') := by
  have hcreate : Alike (SameReply ids) (· = ·) (perform (.createFlow pid name))
      (perform (.createFlow pid name)) := alike_perform fun _ _ h ↦ h
  refine hcreate.bind fun flow flow' hflow ↦ ?_
  obtain rfl := hflow
  dsimp only
  split
  · exact alike_raise
  have hstamp : Alike (SameReply ids) (· = ·)
      (perform (.updateMetadata (flow.entryD "id") (buildSanitizedMetadata pid stampedAt)))
      (perform (.updateMetadata (flow.entryD "id") (buildSanitizedMetadata pid stampedAt'))) :=
    alike_perform fun _ _ h ↦ h
  have himport : Alike (SameReply ids) (· = ·)
      (perform (.importFlow (flow.entryD "id") name trigger))
      (perform (.importFlow (flow.entryD "id") name trigger')) := alike_perform fun _ _ h ↦ h
  have hread : Alike (SameReply ids) (· = ·) (perform (.getFlow (flow.entryD "id")))
      (perform (.getFlow (flow.entryD "id"))) := alike_perform fun _ _ h ↦ h
  refine hstamp.bind fun _ _ _ ↦ himport.bind fun _ _ _ ↦ hread.bind fun after after' hafter ↦ ?_
  obtain rfl := hafter
  have hcheck : Alike (SameReply ids) Anything (onValues (checkDraft after))
      (onValues (checkDraft after)) := alike_lift fun _ _ _ _ ↦ trivial
  exact hcheck.bind fun _ _ _ ↦ alike_pure rfl

theorem alike_visibleDraft {t : ResolvedTrigger} {gate gate' : ConnectionGate} :
    Alike (SameReply ids) (· = ·) (visibleDraft env pid stampedAt visible body t gate)
      (visibleDraft env pid stampedAt' visible body t gate') := by
  rw [visibleDraft, visibleDraft]
  split
  · exact (alike_inCatalog (inStep_dynamicChain _ _)).bind fun _ _ _ ↦
      alike_createApVisibleDraftFlow
  · exact alike_pure rfl

theorem without_pyDict (fields : List (String × PyValue)) (key : String) :
    (pyDict fields).without key = pyDict (fields.eraseP fun f ↦ f.1 = key) := by
  show PyValue.dict ((fields.map _).eraseP _) = _
  rw [List.eraseP_map]
  have hkey : ∀ f : String × PyValue,
      decide (PyStr.ofString f.1 = PyStr.ofString key) = decide (f.1 = key) := fun f ↦
    decide_eq_decide.2 PyStr.ofString_injective.eq_iff
  simp only [Function.comp_def, hkey]
  rfl

/-- Two answers are the same, but for the id and the reminder of the plan. -/
structure SameAnswer (answer answer' : PyValue) : Prop where
  rest : answer.without "pending_activation" = answer'.without "pending_activation"
  pending : ((answer.entryD "pending_activation").without "id").without "next_reminder_at" =
    ((answer'.entryD "pending_activation").without "id").without "next_reminder_at"

theorem sameAnswer_pendingResponse {flowId pending pending' gate : PyValue}
    {blocked : List PyValue} (h : (pending.without "id").without "next_reminder_at" =
      (pending'.without "id").without "next_reminder_at") :
    SameAnswer (pendingResponse body flowId pending gate blocked)
      (pendingResponse body flowId pending' gate blocked) := by
  unfold pendingResponse
  cases flowId with
  | null =>
    refine ⟨?_, ?_⟩
    · rw [without_pyDict, without_pyDict]
      rfl
    · rw [entryD, entryD, entry_pyDict, entry_pyDict]
      exact h
  | _ =>
    refine ⟨?_, ?_⟩
    · rw [without_pyDict, without_pyDict]
      rfl
    · rw [entryD, entryD, entry_pyDict, entry_pyDict]
      exact h

/-- **A plan is kept with the same answer** where the gates list the same pieces. -/
theorem alike_keepPlan {t : ResolvedTrigger} {gate gate' : ConnectionGate}
    (h : SameGate gate gate') :
    Alike (SameReply ids) SameAnswer (keepPlan env pid stampedAt visible body t gate)
      (keepPlan env pid stampedAt' visible body t gate') := by
  refine alike_visibleDraft.bind fun flowId flowId' hflow ↦ ?_
  obtain rfl := hflow
  have hsave : Alike (SameReply ids) Anything (perform (.savePlan (planRow pid body gate flowId)))
      (perform (.savePlan (planRow pid body gate' flowId))) :=
    Alike.bind (P := Anything) (alike_ask fun _ _ _ ↦ trivial) fun _ _ _ ↦
      alike_lift fun _ _ _ _ ↦ trivial
  refine hsave.bind fun set set' _ ↦ alike_pure ?_
  have hpayload : buildConnectionGatePayload gate (sanitizePieces gate.blockedPieces)
      (sanitizePieces gate.runnablePieces) = buildConnectionGatePayload gate'
        (sanitizePieces gate'.blockedPieces) (sanitizePieces gate'.runnablePieces) := by
    rw [buildConnectionGatePayload, buildConnectionGatePayload, h.status, h.blockedCount,
      h.runnableCount, h.totalPieces, h.blocked, h.runnable]
  rw [hpayload, h.blocked]
  refine sameAnswer_pendingResponse ?_
  rw [buildPendingActivationPayload, buildPendingActivationPayload, without_pyDict, without_pyDict,
    without_pyDict, without_pyDict]
  show pyDict [("flow_id", flowId), ("status", .str gate.status), _, _] =
    pyDict [("flow_id", flowId), ("status", .str gate'.status), _, _]
  rw [h.status]
  rfl

end Answer

section Main

variable {env : BuilderEnv} {pid stampedAt stampedAt' : PyStr} {visible : Bool}
  {body : DynamicBuildBody} {s s' t t' : BuilderState}
  {l l' : List (DynamicQuery × Except EngineError PyValue)} {answer answer' : PyValue}

/-- **An answer with a plan tells nothing of the connections.** Two requests that are answered
alike, with connections of the same pieces with the same status, which the request finds under the
same ids, get the same answer, but for the id and the reminder of the plan. -/
theorem pending_response_private
    (hrun : (v2BuildDynamic env pid stampedAt visible body).Runs s l (.ok answer) t)
    (hrun' : (v2BuildDynamic env pid stampedAt' visible body).Runs s' l' (.ok answer') t')
    (halign : Aligned (SameReply (body.namedIds env)) l l') (hplan : KeepsPlan env body s l) :
    KeepsPlan env body s' l' ∧ SameAnswer answer answer' := by
  obtain ⟨l₁, l₂, gated, u, rfl, hgate, hblocked⟩ := hplan
  obtain ⟨l₁', l₂', gated', u', rfl, hgate', hrest'⟩ := runs_bind_ok_iff.1 hrun'
  have hrest := hgate.of_bind_ok hrun
  obtain ⟨⟨htrigger, hsame⟩, hlength⟩ :=
    alike_inCatalog alike_gatedTrigger _ _ _ _ _ _ _ _ hgate hgate' halign.left
  have hblocked' : 0 < gated'.2.blockedCount := hsame.blockedCount ▸ hblocked
  rw [if_pos hblocked] at hrest
  rw [if_pos hblocked', ← htrigger] at hrest'
  obtain ⟨hanswer, -⟩ :=
    alike_keepPlan hsame _ _ _ _ _ _ _ _ hrest hrest' (halign.right hlength)
  exact ⟨⟨l₁', l₂', gated', u', rfl, hgate', hblocked'⟩, hanswer⟩

end Main

/-! ### Two broken connections -/

/-- A connection of Gmail that has expired. -/
def expiredMail (externalId displayName : String) : PyValue :=
  pyDict [("pieceName", py "@activepieces/piece-gmail"), ("status", py "ERROR"),
    ("externalId", py externalId), ("displayName", py displayName)]

/-- The exchanges of the gate, for a project with one connection. -/
def expiredGateExchanges (conn : PyValue) : List (CatalogQuery × Except EngineError PyValue) :=
  [(.schema (text "gmail"), .ok mailSchema), (.connections, .ok (.list [conn])),
    (.schema (text "@activepieces/piece-gmail"), .ok mailSchema)]

theorem runs_expiredGate (externalId displayName : String) (s : BuilderState) : ∃ gated,
    (gatedTrigger ⟨plainRuntime, [], []⟩ mailBody).Runs s
      (expiredGateExchanges (expiredMail externalId displayName)) (.ok gated) s ∧
      0 < gated.2.blockedCount := by
  have hpieces : extractPieces id (.list [pyDict [("type", py "PIECE"),
      ("piece", py "@activepieces/piece-gmail")]]) = .ok [text "@activepieces/piece-gmail"] := by
    rw [extractPieces]
    rfl
  have hgate : ∃ gate, (classifyConnectionRequirements [expiredMail externalId displayName]
      (mailBody.connections ⟨plainRuntime, [], []⟩) evalPy fetchPieceSchema
        (.list [pyDict [("type", py "PIECE"), ("piece", py "@activepieces/piece-gmail")]])).Runs s
        [(.schema (text "@activepieces/piece-gmail"), .ok mailSchema)] (.ok gate) s ∧
      0 < gate.blockedCount :=
    ⟨_, runs_evalPy_bind_ok_iff.2 ⟨_, hpieces, ⟨_, _, rfl, rfl, rfl⟩⟩, Nat.one_pos⟩
  obtain ⟨gate, hgate, hblocked⟩ := hgate
  refine ⟨(_, gate), runs_bind_ok_iff.2 ⟨[_], [_, _], _, s, rfl, ⟨_, _, rfl, rfl, rfl⟩,
    runs_bind_ok_iff.2 ⟨[_], [_], [_], s, rfl, ⟨_, _, rfl, rfl, rfl⟩,
      runs_bind_ok_iff.2 ⟨[_], [], gate, s, rfl, hgate, runs_pure_iff.2 ⟨rfl, rfl, rfl⟩⟩⟩⟩,
    hblocked⟩

/-- The exchanges of the request: those of the gate, and the row of the plan. -/
def expiredExchanges (conn plan : PyValue) (row : PlanRow) :
    List (DynamicQuery × Except EngineError PyValue) :=
  (expiredGateExchanges conn).map (Prod.map .catalog id) ++ [(.savePlan row, .ok plan)]

theorem runs_expired (externalId displayName : String) (stampedAt : PyStr) (plan : PyValue) :
    ∃ answer row, (v2BuildDynamic ⟨plainRuntime, [], []⟩ (text "p1") stampedAt false mailBody).Runs
        ⟨1, []⟩ (expiredExchanges (expiredMail externalId displayName) plan row) (.ok answer)
        ⟨1, []⟩ ∧
      KeepsPlan ⟨plainRuntime, [], []⟩ mailBody ⟨1, []⟩
        (expiredExchanges (expiredMail externalId displayName) plan row) := by
  obtain ⟨gated, hgate, hblocked⟩ := runs_expiredGate externalId displayName ⟨1, []⟩
  have hplan : (keepPlan ⟨plainRuntime, [], []⟩ (text "p1") stampedAt false mailBody gated.1
      gated.2).Runs ⟨1, []⟩ [(.savePlan (planRow (text "p1") mailBody gated.2 .null), .ok plan)]
        (.ok _) ⟨1, []⟩ := ⟨_, _, rfl, rfl, rfl⟩
  obtain ⟨hrun, hkeeps⟩ := runs_v2BuildDynamic_of_keepPlan (runs_rename_iff.2 ⟨_, rfl, hgate⟩)
    hblocked hplan
  exact ⟨_, _, hrun, hkeeps⟩

/-- Two connections that differ in the names they go by. -/
theorem sameEntry_expiredMail : SameEntry (mailBody.namedIds ⟨plainRuntime, [], []⟩)
    (expiredMail "gmail-old" "Support") (expiredMail "gmail-new" "Sales") := by
  have hpiece : ∀ a b, (expiredMail a b).get "pieceName" =
      .ok (py "@activepieces/piece-gmail") := by
    intro a b
    rw [get_of_isDict rfl, entryD, expiredMail, entry_pyDict]
    rfl
  have hstatus : ∀ a b, (expiredMail a b).get "status" = .ok (py "ERROR") := by
    intro a b
    rw [get_of_isDict rfl, entryD, expiredMail, entry_pyDict]
    rfl
  exact ⟨(hpiece _ _).trans (hpiece _ _).symm, (hstatus _ _).trans (hstatus _ _).symm, by decide⟩

theorem aligned_expired {row row' : PlanRow} {plan plan' : PyValue} :
    Aligned (SameReply (mailBody.namedIds ⟨plainRuntime, [], []⟩))
      (expiredExchanges (expiredMail "gmail-old" "Support") plan row)
      (expiredExchanges (expiredMail "gmail-new" "Sales") plan' row') := by
  intro i e e' he he'
  rcases i with _ | _ | _ | _ | i
  · obtain rfl := Option.some.inj he
    obtain rfl := Option.some.inj he'
    rfl
  · obtain rfl := Option.some.inj he
    obtain rfl := Option.some.inj he'
    intro raw raw' live live' hraw hraw' hlive hlive'
    obtain rfl := Except.ok.inj hraw
    obtain rfl := Except.ok.inj hraw'
    obtain rfl := Except.ok.inj hlive
    obtain rfl := Except.ok.inj hlive'
    exact .cons sameEntry_expiredMail .nil
  · obtain rfl := Option.some.inj he
    obtain rfl := Option.some.inj he'
    rfl
  · obtain rfl := Option.some.inj he
    obtain rfl := Option.some.inj he'
    trivial
  · cases he

/-- Whichever of the two has expired, the answer is the same. -/
theorem pending_response_private_mail : ∃ l l' answer answer' t t',
    (v2BuildDynamic ⟨plainRuntime, [], []⟩ (text "p1") (text "t0") false mailBody).Runs ⟨1, []⟩ l
      (.ok answer) t ∧
    (v2BuildDynamic ⟨plainRuntime, [], []⟩ (text "p1") (text "t1") false mailBody).Runs ⟨1, []⟩ l'
      (.ok answer') t' ∧ l ≠ l' ∧ SameAnswer answer answer' := by
  obtain ⟨answer, row, hrun, hkeeps⟩ :=
    runs_expired "gmail-old" "Support" (text "t0") (pyDict [("id", py "plan-1")])
  obtain ⟨answer', row', hrun', -⟩ :=
    runs_expired "gmail-new" "Sales" (text "t1") (pyDict [("id", py "plan-2")])
  refine ⟨_, _, answer, answer', _, _, hrun, hrun', fun h ↦ ?_,
    (pending_response_private hrun hrun' aligned_expired hkeeps).2⟩
  have hplan := congrArg List.getLast? h
  have hid : PyStr.ofString "plan-1" = PyStr.ofString "plan-2" := by
    simp only [expiredExchanges, List.getLast?_concat, Option.some.injEq, Prod.mk.injEq,
      Except.ok.injEq] at hplan
    simpa [pyDict, py] using hplan.2
  exact absurd hid (by decide)

end Siyadah
