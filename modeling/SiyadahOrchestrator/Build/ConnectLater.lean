import SiyadahOrchestrator.Build.StepLookups
import SiyadahOrchestrator.Build.Sufficiency
import SiyadahOrchestrator.Build.Vouching

/-!
# Connected when it is built

A request that reaches `golden_build` has passed the gate, so every piece that the gate has seen has
an active connection. Whether the steps get it is another matter. The trigger never does. An action
may give the id of any connection; and a step inside another action goes by its own input, its own
id and the default connection alone. Nor is a piece that the gate has seen one that the builder
sees: each lookup of a request is made anew, and any of them may fail.

`TreeConnected` says what the gate is there for, by the schemas that the pieces really have. A
`RequestReading` is what the lookups of one run have found, and `RequestConnected`, by the entries
of the request and this reading, says when the tree that is built is connected. What does not reach
`golden_build` and returns has kept a plan (`connected_or_pending_iff`).
-/

namespace Siyadah

open Dialogue PyValue

/-! ### Connected trees -/

/-- The value is an id of an active connection of the piece. -/
def UsableFor (live : List PyValue) (full : PyStr) (v : PyValue) : Prop :=
  ∃ id conn, v = .str id ∧ conn ∈ live ∧ ActiveFor full conn ∧ Names conn v

/-- An `auth` references an active connection of the piece. -/
def RefersTo (live : List PyValue) (full : PyStr) (auth : Option PyValue) : Prop :=
  ∃ id, auth = some (.str (connectionRef id)) ∧ UsableFor live full (.str id)

/-- If the piece of a step asks for authentication, the step references an active connection of the
piece. -/
def StepConnected (answer : CatalogQuery → Except EngineError PyValue) (node : PyValue) : Prop :=
  ∀ full, nodePiece node = .str full → asksForAuth answer full = true →
    RefersTo (liveConnections answer) full (nodeAuth node)

/-- The trigger is connected, and so is every step that uses a piece, at any depth. -/
structure TreeConnected (answer : CatalogQuery → Except EngineError PyValue) (tree : PyValue) :
    Prop where
  trigger : StepConnected answer tree
  steps : ∀ node ∈ executionOrder (tree.entryD "nextAction"), node.entryD "type" = py "PIECE" →
    StepConnected answer node

section RefersTo

variable {live : List PyValue} {full : PyStr} {v : PyValue}

/-- The reference that is made of an id. -/
theorem refersTo_connectionRef_iff :
    RefersTo live full (connectionRefOf v).toOption ↔ UsableFor live full v := by
  constructor
  · rintro ⟨id, hid, husable⟩
    cases v with
    | str s =>
      obtain rfl := connectionRef_injective (PyValue.str.inj (Option.some.inj hid))
      exact husable
    | _ => cases hid
  · rintro ⟨id, conn, rfl, husable⟩
    exact ⟨id, rfl, id, conn, rfl, husable⟩

end RefersTo

/-! ### A step inside an action -/

/-- The connection that the input of a specification has. -/
def specAuth (spec : PyValue) : Option PyValue :=
  match toDict (specInput spec) with
  | .ok fields => (cleanInputConfig fields).lookup (text "auth")
  | .error _ => none

/-- The step of a specification references an active connection of the piece: its input does; or it
has none and the specification gives the id of one; or it gives none and the default connection is
one. -/
structure InnerConnected (env : BuilderEnv) (live : List PyValue) (spec : PyValue)
    (full short : PyStr) : Prop where
  own : ∀ v, specAuth spec = some v → RefersTo live full (some v)
  given : specAuth spec = none → (spec.entryD "connection_id").truthy = true →
    UsableFor live full (spec.entryD "connection_id")
  default : specAuth spec = none → (spec.entryD "connection_id").truthy = false →
    RefersTo live full (env.defaultAuth short)

/-- The step of a specification is connected, if the piece that its lookups find asks for
authentication. -/
def SpecConnected (env : BuilderEnv) (answer : CatalogQuery → Except EngineError PyValue)
    (e : StepLookup) : Prop :=
  asksForAuth answer e.2.full = true →
    InnerConnected env (liveConnections answer) e.1 e.2.full e.2.short

section Inner

variable {env : BuilderEnv} {answer : CatalogQuery → Except EngineError PyValue}
  {live : List PyValue} {full short : PyStr} {spec : PyValue} {input input' : Fields}

theorem refersTo_mcpAuth_iff :
    RefersTo live full (mcpAuth env (spec.entryD "connection_id") (specAuth spec) short) ↔
      InnerConnected env live spec full short := by
  rw [mcpAuth]
  cases hown : specAuth spec with
  | some v =>
    have hnone : specAuth spec ≠ none := by simp [hown]
    constructor
    · refine fun h ↦ ⟨fun w hw ↦ ?_, fun h' ↦ absurd h' hnone, fun h' ↦ absurd h' hnone⟩
      obtain rfl := Option.some.inj (hown.symm.trans hw)
      exact h
    · exact fun h ↦ h.own v hown
  | none =>
    have hno : ∀ v, specAuth spec ≠ some v := by simp [hown]
    rw [Option.none_or]
    split
    · rename_i htruthy
      rw [refersTo_connectionRef_iff]
      constructor
      · refine fun h ↦ ⟨fun v hv ↦ absurd hv (hno v), fun _ _ ↦ h, fun _ hfalsy ↦ ?_⟩
        exact absurd (htruthy.symm.trans hfalsy) (by decide)
      · exact fun h ↦ h.given hown htruthy
    · rename_i hfalsy
      constructor
      · refine fun h ↦ ⟨fun v hv ↦ absurd hv (hno v), fun _ htruthy ↦ ?_, fun _ _ ↦ h⟩
        exact absurd htruthy hfalsy
      · exact fun h ↦ h.default hown (Bool.eq_false_iff.2 hfalsy)

/-- The connection that a step ends up with. -/
theorem lookup_auth_withAuth (h : withAuth env spec short input = .ok input') :
    input'.lookup (text "auth") =
      mcpAuth env (spec.entryD "connection_id") (input.lookup (text "auth")) short := by
  obtain ⟨own, hown, h⟩ := bind_eq_ok_iff.1 h
  obtain rfl : own = spec.entryD "connection_id" := (getD_eq_ok_iff.1 hown).2
  have hkey : (input.map Prod.fst).contains (text "auth") =
      (input.lookup (text "auth")).isSome := by
    rw [Bool.eq_iff_iff, List.contains_iff_mem, mem_keys_iff, Option.isSome_iff_exists]
  rw [hkey] at h
  dsimp only at h
  rw [mcpAuth]
  cases hlookup : input.lookup (text "auth") with
  | some v =>
    rw [hlookup, Option.isSome_some, Bool.not_true, Bool.and_false, if_neg (by simp)] at h
    obtain rfl := Except.ok.inj h
    exact hlookup
  | none =>
    rw [hlookup, Option.isSome_none, Bool.not_false, Bool.and_true] at h
    rw [Option.none_or]
    by_cases htruthy : (spec.entryD "connection_id").truthy = true
    · rw [orElse, if_pos htruthy, if_pos htruthy] at h
      rw [if_pos htruthy]
      obtain ⟨auth, hauth, h⟩ := bind_eq_ok_iff.1 h
      obtain rfl := Except.ok.inj h
      rw [lookup_upsert_self, hauth]
      rfl
    · rw [orElse, if_neg htruthy] at h
      rw [if_neg htruthy, BuilderEnv.defaultAuth]
      -- the default connection, unless there is none or it is the empty string
      rcases hdefault : env.defaultConnections.lookup short with _ | _ | ⟨c, cs⟩
      · rw [hdefault] at h
        obtain rfl := Except.ok.inj h
        exact hlookup
      · rw [hdefault] at h
        obtain rfl := Except.ok.inj h
        exact hlookup
      · rw [hdefault] at h
        obtain rfl := Except.ok.inj h
        exact lookup_upsert_self

/-- **A step that uses a piece** is connected when its specification is. -/
theorem stepConnected_node_iff {l : Lookups} (p : PieceStep env l spec) (sname : PyStr)
    (next : PyValue) :
    StepConnected answer (p.node sname next) ↔ SpecConnected env answer (spec, p.resolution) := by
  have hauth : p.settings.input.lookup (text "auth") =
      mcpAuth env (spec.entryD "connection_id") (specAuth spec) (shortName p.resolved.1) := by
    obtain ⟨fields, input, hfields, hinput, hsame⟩ := lookup_auth_of_pieceSettings p.configured
    rw [hsame, lookup_auth_withAuth hinput, specAuth, hfields]
  rw [StepConnected, nodePiece_node, nodeAuth_node, hauth]
  constructor
  · exact fun h hasks ↦ refersTo_mcpAuth_iff.1 (h p.full rfl hasks)
  · intro h full hfull hasks
    obtain rfl := PyValue.str.inj hfull
    exact refersTo_mcpAuth_iff.2 (h hasks)

variable (answer) in
/-- **The steps that are built** are connected when all their specifications are. -/
theorem stepsConnected_of_built {j : Judgement} {l : Lookups} {s t : BuilderState}
    (h : Built env j s l t) : ∃ es, (∀ e ∈ es, FindsPiece env.runtime e) ∧ lookupsOf es = l ∧
      j.Carries (fun node ↦ node.entryD "type" = py "PIECE" → StepConnected answer node)
        (SpecConnected env answer) es := by
  refine carries_of_built (fun spec l p sname next ↦ ?_) (fun _ hne heq ↦ absurd heq hne) h
  have htype : (p.node sname next).entryD "type" = py "PIECE" := by
    rw [PieceStep.node, buildAction, entryD_withNext (by decide)]
    rfl
  rw [← stepConnected_node_iff p sname next]
  exact imp_iff_right htype

end Inner

/-! ### An action of the request -/

/-- The step of an action references an active connection of the piece: the id that it gets is one
of such a connection; or it gets none, and its input has such a connection or, if it has none, the
default one is. -/
structure ActionConnected (env : BuilderEnv) (live : List PyValue) (source : PyValue → Prop)
    (a : PyValue) (full short : PyStr) : Prop where
  id : ∀ id, source id → id.truthy = true → UsableFor live full id
  own : (∀ id, source id → id.truthy = false) →
    RefersTo live full ((ownAuth a).or (env.defaultAuth short))

/-- What the lookups for an action find: those of the endpoint, if the action uses a piece, and
those of the steps that are built of it. -/
structure ActionReading where
  action : PyValue
  resolved : Option Resolution
  steps : List StepLookup

namespace ActionReading

/-- The lookups of the endpoint. -/
def first (r : ActionReading) : Lookups := r.resolved.elim [] Resolution.lookups

/-- The lookups of the builder. -/
def later (r : ActionReading) : Lookups := lookupsOf r.steps

/-- The endpoint looks up the name that an action gives, and the builder looks up the full name of
what was found; of an action that uses no piece, the builder looks up what is inside it. -/
structure Made (env : BuilderEnv) (r : ActionReading) : Prop where
  piece : IsPieceStep r.action → ∃ f e, r.resolved = some f ∧ r.steps = [(r.action, e)] ∧
    (r.action.entry "piece").getD (py "") = .str f.name ∧ f.Made env.runtime ∧
    e.name = f.full.strip ∧ e.Made env.runtime
  other : ¬ IsPieceStep r.action → r.resolved = none ∧
    r.steps.map Prod.fst = buildOrder [r.action] ∧ ∀ e ∈ r.steps, FindsPiece env.runtime e

end ActionReading

/-- The steps of an action are connected, where they use a piece that asks for authentication. What
the gate has found for an action that uses a piece is found by the replies that the gate got. -/
structure ActionStepsConnected (env : BuilderEnv)
    (answer gate : CatalogQuery → Except EngineError PyValue) (named : List (PyStr × PyStr))
    (pieces : List PyStr) (r : ActionReading) : Prop where
  piece : ∀ f, r.resolved = some f → ∀ e ∈ r.steps, asksForAuth answer e.2.full = true →
    ActionConnected env (liveConnections answer)
      (IdSource gate (liveConnections answer) named pieces r.action f.short) r.action e.2.full
        e.2.short
  inner : r.resolved = none → ∀ e ∈ r.steps, SpecConnected env answer e

section Action

variable {env : BuilderEnv} {answer : CatalogQuery → Except EngineError PyValue}
  {gate : CatalogQuery → Except EngineError PyValue} {live : List PyValue}
  {named : List (PyStr × PyStr)} {pieces : List PyStr} {ids : Fields} {tables : ConnectionTables}
  {a spec connId : PyValue} {full short : PyStr} {r : ResolvedAction} {input : Fields}
  {s t : BuilderState} {l : Lookups}

/-- What is left in the step is decided by the id, if there is one. -/
theorem refersTo_restAuth_iff {source : PyValue → Prop} (hsource : ∀ id, source id → connId = id)
    (hnone : (∀ id, ¬ source id) → connId.truthy = false) :
    RefersTo live full (restAuth env connId (ownAuth a) short) ↔
      ActionConnected env live source a full short := by
  rw [restAuth]
  split
  · rename_i htruthy
    obtain ⟨id, hid⟩ : ∃ id, source id := by
      by_contra hno
      exact absurd (htruthy.symm.trans (hnone fun id hid ↦ hno ⟨id, hid⟩)) (by decide)
    rw [refersTo_connectionRef_iff]
    constructor
    · refine fun h ↦ ⟨fun id' hid' _ ↦ hsource id' hid' ▸ h, fun hfalsy ↦ ?_⟩
      rw [hsource id hid, hfalsy id hid] at htruthy
      exact absurd htruthy (by decide)
    · intro h
      rw [hsource id hid] at htruthy ⊢
      exact h.id id hid htruthy
  · rename_i hfalsy
    have hall : ∀ id, source id → id.truthy = false := by
      intro id hid
      rw [← hsource id hid]
      exact Bool.eq_false_iff.2 hfalsy
    constructor
    · refine fun h ↦ ⟨fun id hid htruthy ↦ ?_, fun _ ↦ h⟩
      exact absurd (htruthy.symm.trans (hall id hid)) (by decide)
    · exact fun h ↦ h.own hall

/-- The specification that is made for an action is connected when its connection is. -/
theorem innerConnected_chainSpec_iff (hkeeps : KeepsAuth r.input)
    (hown : r.input.lookup (text "auth") = ownAuth a)
    (hinput : connectInput connId r.input = .ok input)
    (hspec : chainSpec a r input = .ok spec) : InnerConnected env live spec full short ↔
      RefersTo live full (restAuth env connId (ownAuth a) short) := by
  obtain ⟨actionName, display, hmade⟩ := exists_madeFor hspec
  have hspecInput : specInput spec = .dict input := by
    rw [specInput, hmade.input]
    rfl
  have hauth : mcpAuth env (spec.entryD "connection_id") (specAuth spec) short =
      restAuth env connId (ownAuth a) short := by
    rw [← hown, ← lookup_auth_connectInput hkeeps hinput short, lookup_auth_defaultedInput,
      hmade.connection, specAuth, hspecInput]
    rfl
  rw [← refersTo_mcpAuth_iff, hauth]

/-- **An action that uses a piece.** -/
theorem exists_reading_of_piece {e : Resolution} (ha : IsPieceStep a)
    (hhonours : Honours named ids)
    (hids : Vouches gate (liveConnections answer) named tables (orderedPieces pieces) ids)
    (htables : (liveConnections answer).foldlM ConnectionTables.sort ⟨[], []⟩ = .ok tables)
    (hr : (resolveActionSpec env a).Runs s l (.ok r) t)
    (hconn : ownConnection (withFound ids (named.map fun c ↦ (c.1, .str c.2))) a r.short =
      .ok connId)
    (hinput : connectInput connId r.input = .ok input) (hspec : chainSpec a r input = .ok spec)
    (he : FindsPiece env.runtime (spec, e)) :
    ∃ rd : ActionReading, rd.action = a ∧ rd.Made env ∧ rd.first = l ∧ rd.later = e.lookups ∧
      (ActionStepsConnected env answer gate named pieces rd ↔
        SpecConnected env answer (spec, e)) := by
  obtain ⟨name, resolved, hname, hresolves, hfull, hshort, hown⟩ :=
    resolves_of_runs_resolveActionSpec hr
  obtain ⟨-, rfl⟩ := getD_eq_ok_iff.1 hconn
  obtain ⟨actionName, display, hmade⟩ := exists_madeFor hspec
  have hsecond : e.name = (fullName resolved.1).strip := by
    rw [← hfull]
    exact Except.ok.inj (he.1.symm.trans hmade.piece)
  rw [hshort] at hinput
  refine ⟨⟨a, some ⟨name, l, resolved.1⟩, [(a, e)]⟩, rfl, ⟨fun _ ↦ ?_, fun h ↦ absurd ha h⟩, rfl,
    List.append_nil _, ?_⟩
  · exact ⟨_, e, rfl, rfl, hname, ⟨resolved.2, hresolves⟩, hsecond, he.2⟩
  have hiff : InnerConnected env (liveConnections answer) spec e.full e.short ↔
      ActionConnected env (liveConnections answer)
        (IdSource gate (liveConnections answer) named pieces a (shortName resolved.1)) a e.full
          e.short := by
    rw [innerConnected_chainSpec_iff (kept_resolveActionSpec hr).1 hown hinput hspec]
    exact refersTo_restAuth_iff (fun _ ↦ connectionIdOf_eq hhonours hids htables)
      (connectionIdOf_of_no_source hhonours hids htables)
  constructor
  · exact fun h hasks ↦ hiff.2 (h.piece _ rfl (a, e) (List.mem_singleton_self _) hasks)
  · refine fun h ↦ ⟨fun f hf ↦ List.forall_mem_singleton.2 fun hasks ↦ ?_, fun hnone ↦ ?_⟩
    · obtain rfl := Option.some.inj hf
      exact hiff.1 (h hasks)
    · exact absurd hnone (by simp)

variable (answer) in
/-- **The actions of a request**: the steps that are built of them are connected when they are. -/
theorem exists_actionReadings {as : List PyValue} {specs : List PyValue × List PyStr}
    {chain : PyValue} {k k' : Lookups} {s t s' t' : BuilderState} (hhonours : Honours named ids)
    (hids : Vouches gate (liveConnections answer) named tables (orderedPieces pieces) ids)
    (htables : (liveConnections answer).foldlM ConnectionTables.sort ⟨[], []⟩ = .ok tables)
    (h : (chainSpecs env (ownConnection (withFound ids (named.map fun c ↦ (c.1, .str c.2))))
      as).Runs s k (.ok specs) t) (hbuilt : Built env (.chain specs.1 chain) s' k' t') :
    ∃ rds : List ActionReading, rds.map ActionReading.action = as ∧ (∀ rd ∈ rds, rd.Made env) ∧
      rds.flatMap ActionReading.first = k ∧ rds.reverse.flatMap ActionReading.later = k' ∧
      ((∀ node ∈ executionOrder chain, node.entryD "type" = py "PIECE" →
          StepConnected answer node) ↔
        ∀ rd ∈ rds, ActionStepsConnected env answer gate named pieces rd) := by
  induction as generalizing s k specs chain k' t' with
  | nil =>
    obtain ⟨rfl, hspecs, -⟩ := runs_pure_iff.1 h
    obtain rfl := Except.ok.inj hspecs
    rcases hbuilt with _ | _
    refine ⟨[], rfl, fun _ h ↦ absurd h List.not_mem_nil, rfl, rfl, ?_⟩
    rw [executionOrder_of_falsy rfl]
    exact iff_of_true (fun _ h ↦ absurd h List.not_mem_nil) fun _ h ↦ absurd h List.not_mem_nil
  | cons a as ih =>
    obtain ⟨l₁, l₂, spec, others, u, rfl, hspecs, hspec, hothers⟩ :=
      exists_of_runs_chainSpecs_cons h
    rw [hspecs] at hbuilt
    rcases hbuilt with _ | ⟨hdict, hchain, hstep⟩
    obtain ⟨rds, rfl, hrds, rfl, rfl, hiff⟩ := ih hothers hchain
    obtain ⟨es, hes, rfl, horder, hiff'⟩ := stepsConnected_of_built answer hstep
    -- the reading of the action, to which the others are appended
    have hcons : ∀ rd : ActionReading, rd.Made env → rd.action = a → rd.first = l₁ →
        rd.later = lookupsOf es → (ActionStepsConnected env answer gate named pieces rd ↔
          ∀ e ∈ es, SpecConnected env answer e) →
        ∃ rds' : List ActionReading, rds'.map ActionReading.action =
            a :: rds.map ActionReading.action ∧ (∀ rd ∈ rds', rd.Made env) ∧
          rds'.flatMap ActionReading.first = l₁ ++ rds.flatMap ActionReading.first ∧
          rds'.reverse.flatMap ActionReading.later =
            rds.reverse.flatMap ActionReading.later ++ lookupsOf es ∧
          ((∀ node ∈ executionOrder chain, node.entryD "type" = py "PIECE" →
              StepConnected answer node) ↔
            ∀ rd ∈ rds', ActionStepsConnected env answer gate named pieces rd) := by
      intro rd hmade haction hfirst hlater hsteps
      refine ⟨rd :: rds, ?_, List.forall_mem_cons.2 ⟨hmade, hrds⟩, ?_, ?_, ?_⟩
      · rw [List.map_cons, haction]
      · rw [List.flatMap_cons, hfirst]
      · rw [List.reverse_cons, List.flatMap_append, List.flatMap_cons, hlater]
        simp
      · rw [hiff', hiff, List.forall_mem_cons, hsteps]
    rcases hspec with ⟨ha, rfl, rfl⟩ | ⟨ha, r, connId, input, v, hr, hconn, hinput, hspec⟩
    · refine hcons ⟨spec, none, es⟩ ⟨fun hpiece ↦ absurd hpiece ha, fun _ ↦ ⟨rfl, horder, hes⟩⟩
        rfl rfl rfl ⟨fun h ↦ h.inner rfl, fun h ↦ ⟨fun f hf ↦ absurd hf (by simp), fun _ ↦ h⟩⟩
    · -- a step that uses a piece has no others inside it
      obtain ⟨actionName, display, hmade⟩ := exists_madeFor hspec
      rw [buildOrder_piece hmade.type] at horder
      obtain ⟨e, rfl⟩ : ∃ e, es = [(spec, e)] := by
        obtain ⟨x, rfl, hx⟩ := List.map_eq_singleton_iff.1 horder
        exact ⟨x.2, by rw [← hx]⟩
      obtain ⟨rd, haction, hrd, hfirst, hlater, hsteps⟩ := exists_reading_of_piece ha hhonours hids
        htables hr hconn hinput hspec (List.forall_mem_singleton.1 hes)
      refine hcons rd hrd haction hfirst (hlater.trans (List.append_nil _).symm) ?_
      rw [hsteps, List.forall_mem_singleton]

end Action

/-! ### The main result -/

/-- What the lookups of a request find: those for the trigger, those of the gate, and those for each
of the actions. -/
structure RequestReading where
  trigger : Resolution
  gate : Lookups
  actions : List ActionReading

namespace RequestReading

/-- The lookups, in the order in which they are made: the chain is built from its end. -/
def lookups (rd : RequestReading) : Lookups :=
  rd.trigger.lookups ++ (rd.gate ++ (rd.actions.flatMap ActionReading.first ++
    rd.actions.reverse.flatMap ActionReading.later))

/-- The lookups are those of the request. -/
structure Made (env : BuilderEnv) (body : DynamicBuildBody) (rd : RequestReading) : Prop where
  name : triggerPiece (.dict body.trigger) = .str rd.trigger.name
  trigger : rd.trigger.Made env.runtime
  gate : rd.gate.map Prod.fst = gateQueries body rd.trigger.full
  actions : rd.actions.map ActionReading.action = body.actions.map .dict
  each : ∀ r ∈ rd.actions, r.Made env

end RequestReading

section Unique

variable {env : BuilderEnv} {body : DynamicBuildBody} {k k' : Lookups}
  {rds rds' : List ActionReading}

/-- What the endpoint finds is decided by the replies. -/
theorem resolved_of_firsts (hmade : ∀ rd ∈ rds, rd.Made env) (hmade' : ∀ rd ∈ rds', rd.Made env)
    (hactions : rds.map ActionReading.action = rds'.map ActionReading.action)
    (hk : rds.flatMap ActionReading.first ++ k = rds'.flatMap ActionReading.first ++ k') :
    rds.map ActionReading.resolved = rds'.map ActionReading.resolved ∧ k = k' := by
  induction rds generalizing rds' with
  | nil =>
    obtain rfl := List.map_eq_nil_iff.1 hactions.symm
    exact ⟨rfl, hk⟩
  | cons rd rds ih =>
    obtain _ | ⟨rd', rds'⟩ := rds'
    · exact absurd hactions (by simp)
    rw [List.map_cons, List.map_cons, List.cons.injEq] at hactions
    obtain ⟨haction, hactions⟩ := hactions
    obtain ⟨hrd, hmade⟩ := List.forall_mem_cons.1 hmade
    obtain ⟨hrd', hmade'⟩ := List.forall_mem_cons.1 hmade'
    rw [List.flatMap_cons, List.flatMap_cons, List.append_assoc, List.append_assoc] at hk
    have hhead : rd.resolved = rd'.resolved ∧ rds.flatMap ActionReading.first ++ k =
        rds'.flatMap ActionReading.first ++ k' := by
      by_cases hpiece : IsPieceStep rd.action
      · obtain ⟨f, e, hf, -, hname, hfmade, -⟩ := hrd.piece hpiece
        obtain ⟨f', e', hf', -, hname', hfmade', -⟩ := hrd'.piece (haction ▸ hpiece)
        rw [ActionReading.first, ActionReading.first, hf, hf'] at hk
        rw [haction, hname'] at hname
        obtain ⟨rfl, hrest⟩ := hfmade.unique hfmade' (PyValue.str.inj hname).symm hk
        exact ⟨hf.trans hf'.symm, hrest⟩
      · obtain ⟨hnone, -⟩ := hrd.other hpiece
        obtain ⟨hnone', -⟩ := hrd'.other (haction ▸ hpiece)
        rw [ActionReading.first, ActionReading.first, hnone, hnone'] at hk
        exact ⟨hnone.trans hnone'.symm, hk⟩
    obtain ⟨hresolved, hrest⟩ := hhead
    obtain ⟨hmore, rfl⟩ := ih hmade hmade' hactions hrest
    exact ⟨by rw [List.map_cons, List.map_cons, hresolved, hmore], rfl⟩

/-- And so is what the builder finds. -/
theorem eq_of_laters (hmade : ∀ rd ∈ rds, rd.Made env) (hmade' : ∀ rd ∈ rds', rd.Made env)
    (hactions : rds.map ActionReading.action = rds'.map ActionReading.action)
    (hresolved : rds.map ActionReading.resolved = rds'.map ActionReading.resolved)
    (hk : rds.flatMap ActionReading.later ++ k = rds'.flatMap ActionReading.later ++ k') :
    rds = rds' := by
  induction rds generalizing rds' with
  | nil => exact (List.map_eq_nil_iff.1 hactions.symm).symm
  | cons rd rds ih =>
    obtain _ | ⟨rd', rds'⟩ := rds'
    · exact absurd hactions (by simp)
    rw [List.map_cons, List.map_cons, List.cons.injEq] at hactions hresolved
    obtain ⟨haction, hactions⟩ := hactions
    obtain ⟨hfirst, hresolved⟩ := hresolved
    obtain ⟨hrd, hmade⟩ := List.forall_mem_cons.1 hmade
    obtain ⟨hrd', hmade'⟩ := List.forall_mem_cons.1 hmade'
    rw [List.flatMap_cons, List.flatMap_cons, List.append_assoc, List.append_assoc] at hk
    have hhead : rd.steps = rd'.steps ∧ rds.flatMap ActionReading.later ++ k =
        rds'.flatMap ActionReading.later ++ k' := by
      by_cases hpiece : IsPieceStep rd.action
      · obtain ⟨f, e, hf, hsteps, -, -, hname, he⟩ := hrd.piece hpiece
        obtain ⟨f', e', hf', hsteps', -, -, hname', he'⟩ := hrd'.piece (haction ▸ hpiece)
        obtain rfl := Option.some.inj (hf.symm.trans (hfirst.trans hf'))
        rw [ActionReading.later, ActionReading.later, hsteps, hsteps', lookupsOf, lookupsOf,
          List.flatMap_singleton, List.flatMap_singleton] at hk
        obtain ⟨rfl, hrest⟩ := he.unique he' (hname.trans hname'.symm) hk
        exact ⟨by rw [hsteps, hsteps', haction], hrest⟩
      · obtain ⟨-, horder, hes⟩ := hrd.other hpiece
        obtain ⟨-, horder', hes'⟩ := hrd'.other (haction ▸ hpiece)
        rw [haction, ← horder'] at horder
        exact eq_of_lookupsOf hes hes' horder hk
    obtain ⟨hsteps, hrest⟩ := hhead
    obtain rfl := ih hmade hmade' hactions hresolved hrest
    cases rd
    cases rd'
    simp only at haction hfirst hsteps
    rw [haction, hfirst, hsteps]

/-- **The lookups of a request can be read in one way only.** -/
theorem RequestReading.Made.unique {rd rd' : RequestReading} (h : rd.Made env body)
    (h' : rd'.Made env body) (hk : rd.lookups = rd'.lookups) : rd = rd' := by
  obtain ⟨htrigger, hrest⟩ := h.trigger.unique h'.trigger
    (PyValue.str.inj (h.name.symm.trans h'.name)) hk
  have hqueries := h.gate.trans (htrigger ▸ h'.gate.symm)
  have hlength : rd.gate.length = rd'.gate.length := by
    simpa using congrArg List.length hqueries
  obtain ⟨hgate, hrest⟩ := List.append_inj hrest hlength
  have hactions := h.actions.trans h'.actions.symm
  obtain ⟨hresolved, hlater⟩ := resolved_of_firsts h.each h'.each hactions hrest
  have hlaters : rd.actions.reverse.flatMap ActionReading.later ++ [] =
      rd'.actions.reverse.flatMap ActionReading.later ++ [] := by
    rw [List.append_nil, List.append_nil]
    exact hlater
  have hreverse : rd.actions.reverse = rd'.actions.reverse := by
    refine eq_of_laters (fun r hr ↦ h.each r (List.mem_reverse.1 hr))
      (fun r hr ↦ h'.each r (List.mem_reverse.1 hr)) ?_ ?_ hlaters
    · rw [List.map_reverse, List.map_reverse, hactions]
    · rw [List.map_reverse, List.map_reverse, hresolved]
  cases rd
  cases rd'
  simp only [RequestReading.mk.injEq]
  exact ⟨htrigger, hgate, List.reverse_injective hreverse⟩

end Unique

/-- The trigger and the actions of a request are connected: if the piece of the trigger asks for
authentication, the input of the trigger references an active connection of the piece, and the steps
of the actions are connected. -/
structure RequestConnected (env : BuilderEnv) (answer : CatalogQuery → Except EngineError PyValue)
    (body : DynamicBuildBody) (rd : RequestReading) : Prop where
  trigger : asksForAuth answer rd.trigger.full = true →
    RefersTo (liveConnections answer) rd.trigger.full (ownAuth (.dict body.trigger))
  actions : ∀ r ∈ rd.actions, ActionStepsConnected env answer (repliesIn rd.gate)
    (body.connections env) (gatePieces body rd.trigger.full) r

/-- The lookups among the requests of a run. -/
def lookupsMade (l : List (DynamicQuery × Except EngineError PyValue)) : Lookups :=
  l.filterMap fun e ↦
    match e.1 with
    | .catalog q => some (q, e.2)
    | _ => none

/-- The reading of a run. -/
def ReadOff (env : BuilderEnv) (body : DynamicBuildBody)
    (l : List (DynamicQuery × Except EngineError PyValue)) (rd : RequestReading) : Prop :=
  rd.Made env body ∧ rd.lookups = lookupsMade l

section Main

variable {env : BuilderEnv} {answer : CatalogQuery → Except EngineError PyValue}
  {pid stampedAt : PyStr} {visible : Bool} {body : DynamicBuildBody} {v : PyValue}
  {rt : ResolvedTrigger} {gate : ConnectionGate} {s u : BuilderState}

variable (answer) in
/-- The trigger has the connection that stands in its input. -/
theorem stepConnected_trigger_iff (first : PyValue)
    (hfields : ∃ fields, toDict (((PyValue.dict body.trigger).entry "input").getD (.dict [])) =
      .ok fields ∧ rt.input = cleanInputConfig fields) :
    StepConnected answer (dynamicTrigger body rt first) ↔ (asksForAuth answer rt.full = true →
      RefersTo (liveConnections answer) rt.full (ownAuth (.dict body.trigger))) := by
  obtain ⟨fields, hfields, hinput⟩ := hfields
  have hpiece : nodePiece (dynamicTrigger body rt first) = .str rt.full := by
    rw [nodePiece, dynamicTrigger, entryD_settings_buildTrigger, entryD, entry_pyDict]
    rfl
  have hauth : nodeAuth (dynamicTrigger body rt first) = ownAuth (.dict body.trigger) := by
    rw [nodeAuth, dynamicTrigger, entryD_settings_buildTrigger, entryD, entry_pyDict, ownAuth,
      hfields, hinput]
    rfl
  rw [StepConnected, hpiece, hauth]
  constructor
  · exact fun h hasks ↦ h rt.full rfl hasks
  · intro h full hfull hasks
    obtain rfl := PyValue.str.inj hfull
    exact h hasks

theorem executionOrder_nextAction_trigger (body : DynamicBuildBody) (rt : ResolvedTrigger)
    (first : PyValue) :
    executionOrder ((dynamicTrigger body rt first).entryD "nextAction") = executionOrder first := by
  rw [dynamicTrigger, buildTrigger, entryD_nextAction rfl]
  split
  · rfl
  · rename_i hfalsy
    rw [executionOrder_of_falsy rfl, executionOrder_of_falsy (Bool.eq_false_iff.2 hfalsy)]

theorem lookupsMade_catalog (k : Lookups) (pid name : PyStr) (tree : PyValue)
    (r : Except EngineError PyValue) :
    lookupsMade (k.map (Prod.map .catalog id) ++ [(.goldenBuild pid name tree, r)]) = k := by
  rw [lookupsMade, List.filterMap_append, List.filterMap_map]
  show k.filterMap some ++ [] = k
  rw [List.filterMap_some, List.append_nil]

/-- **The tree that is built** is connected when the request is, by what its lookups have found. -/
theorem exists_reading {l : List (DynamicQuery × Except EngineError PyValue)}
    {x r : Except EngineError PyValue} {pid' name : PyStr} {tree : PyValue}
    (h : (v2BuildDynamic env pid stampedAt visible body).Runs s l x u)
    (hbuilt : (.goldenBuild pid' name tree, r) ∈ l)
    (hlive : ∀ r, (.catalog .connections, r) ∈ l → r = answer .connections) :
    ∃ rd, ReadOff env body l rd ∧
      (TreeConnected answer tree ↔ RequestConnected env answer body rd) := by
  obtain ⟨k, k', gated, chain, w, w', rfl, hgated, hready, hchain, rfl⟩ :=
    exists_of_reaches_goldenBuild h hbuilt
  have hhonours := honours_gatedTrigger hgated
  obtain ⟨k₁, gate, v, tables, rfl, htrigger, hqueries, htables, hids⟩ :=
    vouches_gatedTrigger hgated hready
  obtain ⟨j₁, j₂, specs, y, y', rfl, hspecs, hfirst⟩ := exists_of_runs_dynamicChain hchain
  obtain ⟨triggerName, fields, resolved, hname, hresolves, hfull, -, -, hfields, hinput⟩ :=
    resolves_of_runs_resolveTrigger htrigger
  -- the connections are asked for once, by the gate
  have hconnections : liveConnections (repliesIn gate) = liveConnections answer := by
    have hmem : CatalogQuery.connections ∈ gate.map Prod.fst := hqueries ▸ List.mem_cons_self
    obtain ⟨e, he, hquery⟩ := List.mem_map.1 hmem
    have hreply : e.2 = repliesIn gate e.1 :=
      answeredBy_repliesIn (hqueries ▸ nodup_gateQueries body gated.1.full) e he
    have hsame : e.2 = answer .connections := by
      refine hlive e.2 (List.mem_append_left _ (List.mem_map.2 ⟨e, ?_, ?_⟩))
      · exact List.mem_append_left _ (List.mem_append_right _ he)
      · rw [← hquery]
        rfl
    rw [liveConnections, liveConnections, ← hsame, hreply, hquery]
  rw [hconnections] at htables hids
  obtain ⟨rds, hactions, hmade, rfl, rfl, hsteps⟩ :=
    exists_actionReadings answer hhonours hids htables hspecs (built_of_runs hfirst)
  rw [← executionOrder_nextAction_trigger body gated.1] at hsteps
  have htriggers := stepConnected_trigger_iff answer chain.1 ⟨fields, hfields, hinput⟩
  refine ⟨⟨⟨triggerName, k₁, resolved.1⟩, gate, rds⟩, ⟨⟨hname, ⟨resolved.2, hresolves⟩, ?_,
    hactions, hmade⟩, ?_⟩, ?_⟩
  · rw [hqueries, hfull]
    rfl
  · rw [lookupsMade_catalog, RequestReading.lookups, List.append_assoc]
  rw [hfull] at htriggers hsteps
  constructor
  · exact fun h ↦ ⟨htriggers.1 h.trigger, hsteps.1 h.steps⟩
  · exact fun h ↦ ⟨htriggers.2 h.trigger, hsteps.2 h.actions⟩

theorem status_pendingResponse {flowId pending payload : PyValue} {blocked : List PyValue} :
    (pendingResponse body flowId pending payload blocked).entryD "status" =
      py "PENDING_CONNECTIONS" := by
  unfold pendingResponse
  split
  · rw [entryD, entry_pyDict]
    rfl
  · rw [entryD, entry_pyDict]
    rfl

/-- A request that is kept as a plan says so. -/
theorem status_of_keepPlan {l : List (DynamicQuery × Except EngineError PyValue)}
    (h : (keepPlan env pid stampedAt visible body rt gate).Runs s l (.ok v) u) :
    v.entryD "status" = py "PENDING_CONNECTIONS" := by
  obtain ⟨l₁, l₂, flowId, w, rfl, -, h⟩ := runs_bind_ok_iff.1 h
  obtain ⟨l₃, l₄, set, w', rfl, -, h⟩ := runs_bind_ok_iff.1 h
  obtain ⟨-, hv, -⟩ := runs_pure_iff.1 h
  obtain rfl := Except.ok.inj hv
  exact status_pendingResponse

/-- What returns without having built a flow has kept a plan. -/
theorem pending_of_not_built {l : List (DynamicQuery × Except EngineError PyValue)}
    (h : (v2BuildDynamic env pid stampedAt visible body).Runs s l (.ok v) u)
    (hnone : ∀ e ∈ l, NoTree e.1) : v.entryD "status" = py "PENDING_CONNECTIONS" := by
  obtain ⟨l₁, l₂, gated, w, rfl, -, h⟩ := runs_bind_ok_iff.1 h
  split at h
  · exact status_of_keepPlan h
  · obtain ⟨l₃, l₄, chain, w', rfl, -, h⟩ := runs_bind_ok_iff.1 h
    obtain ⟨r, l₅, rfl, -⟩ := runs_perform_bind_iff.1 (runs_getState_bind_iff.1 h)
    have hbuilt := hnone _ (List.mem_append_right _ (List.mem_append_right _ List.mem_cons_self))
    exact hbuilt.elim

/-- **A request that reaches `golden_build` builds a connected tree exactly when its trigger and its
actions are connected**, by what its own lookups have found; one that returns without reaching it
keeps a plan. -/
theorem connected_or_pending_iff (body : DynamicBuildBody)
    {l : List (DynamicQuery × Except EngineError PyValue)} {x : Except EngineError PyValue}
    (h : (v2BuildDynamic env pid stampedAt visible body).Runs s l x u)
    (hlive : ∀ r, (.catalog .connections, r) ∈ l → r = answer .connections) :
    (∀ pid' name tree r, (.goldenBuild pid' name tree, r) ∈ l → (∃ rd, ReadOff env body l rd) ∧
      ∀ rd, ReadOff env body l rd →
        (TreeConnected answer tree ↔ RequestConnected env answer body rd)) ∧
    ((∀ e ∈ l, NoTree e.1) → ∀ v, x = .ok v → v.entryD "status" = py "PENDING_CONNECTIONS") := by
  refine ⟨fun pid' name tree r hbuilt ↦ ?_, fun hnone v hv ↦ ?_⟩
  · obtain ⟨rd, hrd, hiff⟩ := exists_reading h hbuilt hlive
    refine ⟨⟨rd, hrd⟩, fun rd' hrd' ↦ ?_⟩
    obtain rfl := hrd.1.unique hrd'.1 (hrd.2.trans hrd'.2.symm)
    exact hiff
  · subst hv
    exact pending_of_not_built h hnone

end Main

/-! ### Two requests -/

section Samples

/-- No connection is named by default. -/
def bareEnv : BuilderEnv := ⟨plainRuntime, [], []⟩

/-- The only connection of the project, for Gmail. -/
def liveMail : PyValue := activeConnection "@activepieces/piece-gmail" "conn-gmail"

/-- What ActivePieces answers: all pieces but the webhook ask for authentication. -/
def mailAnswer : CatalogQuery → Except EngineError PyValue
  | .connections => .ok (.list [liveMail])
  | .schema piece => .ok (if piece = webhookPiece then sendEmailSchema else mailSchema)
  | .pieces => .ok (.list [])

/-- The full name of Gmail. -/
def gmailPiece : PyStr := text "@activepieces/piece-gmail"

/-- A webhook, and a step that sends a message. -/
def mailStepBody : DynamicBuildBody where
  projectId := none
  connectionIds := none
  displayName := text "Plan"
  trigger := [(text "piece", .str webhookPiece)]
  actions := [[(text "piece", py "gmail"), (text "action_name", py "send_email")]]

/-- The trigger of a request that begins with Gmail. -/
def mailTrigger : ResolvedTrigger where
  full := gmailPiece
  version := py "~0.12.1"
  name := py "catch_webhook"
  input := []

/-- The gate finds the connection of Gmail. -/
theorem runs_gatedTrigger_mail {body : DynamicBuildBody} {rt : ResolvedTrigger} {s : BuilderState}
    {k k' : List (CatalogQuery × Except EngineError PyValue)} {pieces : List PyStr}
    {g : GateLists}
    (htrigger : (resolveTrigger bareEnv (.dict body.trigger)).Runs s k (.ok rt) s)
    (hpieces : extractPieces id (.list (pyDict [("type", py "PIECE"), ("piece", .str rt.full)] ::
      body.actions.map .dict)) = .ok pieces)
    (hclassify : (classifyPieces [liveMail] (body.connections bareEnv) evalPy
      fetchPieceSchema ⟨[(gmailPiece, liveMail)], []⟩ (orderedPieces pieces)
      ⟨[], [], []⟩).Runs s k' (.ok g) s) :
    ∃ gate, (gatedTrigger bareEnv body).Runs s
        (k ++ (.connections, .ok (.list [liveMail])) :: k') (.ok (rt, gate)) s ∧
      gate.blockedCount = g.blocked.length ∧ gate.connectionIds = g.connectionIds := by
  have hgate : ∃ gate, (classifyConnectionRequirements [liveMail] (body.connections bareEnv)
      evalPy fetchPieceSchema (.list (pyDict [("type", py "PIECE"), ("piece", .str rt.full)] ::
        body.actions.map .dict))).Runs s k' (.ok gate) s ∧
      gate.blockedCount = g.blocked.length ∧ gate.connectionIds = g.connectionIds := by
    refine ⟨_, runs_evalPy_bind_ok_iff.2 ⟨pieces, hpieces, runs_evalPy_bind_ok_iff.2 ⟨_, rfl,
      runs_bind_ok_iff.2 ⟨k', [], g, s, (List.append_nil _).symm, hclassify,
        runs_pure_iff.2 ⟨rfl, rfl, rfl⟩⟩⟩⟩, rfl, rfl⟩
  obtain ⟨gate, hgate, hblocked, hids⟩ := hgate
  refine ⟨gate, runs_bind_ok_iff.2 ⟨k, _, rt, s, rfl, htrigger, ?_⟩, hblocked, hids⟩
  refine runs_bind_ok_iff.2 ⟨[_], k', [liveMail], s, rfl, ⟨_, _, rfl, rfl, rfl⟩, ?_⟩
  exact runs_bind_ok_iff.2 ⟨k', [], gate, s, (List.append_nil _).symm, hgate,
    runs_pure_iff.2 ⟨rfl, rfl, rfl⟩⟩

/-- **A trigger that asks for authentication never gets the connection** that the gate has found for
it. -/
theorem trigger_not_connected : ∃ l x t tree r,
    (v2BuildDynamic bareEnv (text "p1") (text "t0") false mailBody).Runs ⟨1, []⟩ l x t ∧
      (.goldenBuild (text "p1") mailBody.displayName tree, r) ∈ l ∧
      (∀ q r, (.catalog q, r) ∈ l → r = mailAnswer q) ∧ ¬ TreeConnected mailAnswer tree := by
  have hpieces : extractPieces id (.list (pyDict [("type", py "PIECE"),
      ("piece", .str gmailPiece)] :: mailBody.actions.map .dict)) = .ok [gmailPiece] := by
    rw [extractPieces]
    rfl
  have hclassify : ∃ g, (classifyPieces [liveMail] (mailBody.connections bareEnv) evalPy
      fetchPieceSchema ⟨[(gmailPiece, liveMail)], []⟩ (orderedPieces [gmailPiece])
      ⟨[], [], []⟩).Runs ⟨1, []⟩ [(.schema gmailPiece, .ok mailSchema)] (.ok g) ⟨1, []⟩ ∧
        g.blocked = [] := ⟨_, ⟨_, _, rfl, rfl, rfl⟩, rfl⟩
  obtain ⟨g, hclassify, hready⟩ := hclassify
  have htrigger : (resolveTrigger bareEnv (.dict mailBody.trigger)).Runs ⟨1, []⟩
      [(.schema (text "gmail"), .ok mailSchema)] (.ok mailTrigger) ⟨1, []⟩ := ⟨_, _, rfl, rfl, rfl⟩
  obtain ⟨gate, hgated, hblocked, -⟩ := runs_gatedTrigger_mail htrigger hpieces hclassify
  have hanswered : ∀ e ∈ [(CatalogQuery.schema (text "gmail"), Except.ok mailSchema)] ++
      (.connections, .ok (.list [liveMail])) :: [(.schema gmailPiece, .ok mailSchema)],
      AnsweredBy mailAnswer e := by
    refine List.forall_mem_cons.2 ⟨rfl, List.forall_mem_cons.2 ⟨rfl, ?_⟩⟩
    exact List.forall_mem_singleton.2 rfl
  have hchain : ∀ connection, (dynamicChain bareEnv mailBody connection).Runs ⟨1, []⟩ []
      (.ok (.null, [])) ⟨1, []⟩ := fun _ ↦ ⟨rfl, rfl⟩
  obtain ⟨l, x, r, hrun, hbuilt, hl⟩ := exists_built_rest (text "p1") false hgated
    (hblocked.trans (congrArg List.length hready)) (hchain _) hanswered
    fun _ he ↦ absurd he List.not_mem_nil
  refine ⟨l, x, _, _, r, hrun, hbuilt, hl, fun hconnected ↦ ?_⟩
  have hasks : asksForAuth mailAnswer gmailPiece = true := rfl
  have hnone : nodeAuth (dynamicTrigger mailBody mailTrigger .null) = none := rfl
  obtain ⟨id, hid, -⟩ := hconnected.trigger gmailPiece rfl hasks
  exact absurd (hnone.symm.trans hid) (by simp)

/-- The specification of the step, with the connection that the gate has found. -/
def mailStepSpec : PyValue :=
  pyDict [("type", py "PIECE"), ("piece", .str gmailPiece), ("action_name", py "send_email"),
    ("version", py "~0.12.1"),
    ("input", .dict [(text "auth", .str (connectionRef (text "conn-gmail")))]),
    ("display_name", py "Action"), ("property_settings", .dict [])]

/-- The settings of the step. -/
def mailStepSettings : PieceSettings where
  version := py "~0.12.1"
  action := py "send_email"
  input := [(text "auth", .str (connectionRef (text "conn-gmail")))]
  propertySettings := []
  schemaLoaded := true

theorem runs_mailStepChain {s : BuilderState} : ∃ node t,
    (buildActionChain bareEnv (.list [mailStepSpec])).Runs s [(.schema gmailPiece, .ok mailSchema)]
      (.ok node) t := by
  have hend : (buildChainFrom bareEnv (buildStepFromSpec bareEnv) id 1 2 []).Runs s [] (.ok .null)
      s := runs_pure_iff.2 ⟨rfl, rfl, rfl⟩
  have hne : gmailPiece ≠ [] := by decide
  have hsettings : pieceSettings bareEnv mailStepSpec mailSchema gmailPiece =
      .ok mailStepSettings := rfl
  have htype : (stepType mailStepSpec).isStr (text "PIECE") = true := by decide
  rw [buildActionChain_list bareEnv (List.cons_ne_nil _ _)]
  exact ⟨_, _, runs_chain_cons hend (runs_buildStepFromSpec_piece rfl hne
    (fun s ↦ runs_autoResolvePiece rfl rfl) hsettings rfl htype) rfl⟩

theorem extractPieces_mailStep : extractPieces id (.list (pyDict [("type", py "PIECE"),
    ("piece", .str webhookPiece)] :: mailStepBody.actions.map .dict)) =
      .ok [webhookPiece, text "gmail"] := by
  rw [extractPieces]
  rfl

theorem gatePieces_mailStep :
    gatePieces mailStepBody webhookPiece = [webhookPiece, text "gmail"] := by
  rw [gatePieces, extractPieces_mailStep]
  rfl

/-- What the gate is answered: it misses the webhook. -/
def mailStepGate : Lookups :=
  [(.connections, .ok (.list [liveMail])), (.schema webhookPiece, .error (.httpStatus 502)),
    (.schema gmailPiece, .ok mailSchema)]

/-- What the lookups for the step find. -/
def mailStepReading : ActionReading where
  action := .dict [(text "piece", py "gmail"), (text "action_name", py "send_email")]
  resolved := some ⟨text "gmail", [(.schema (text "gmail"), .ok mailSchema)], text "gmail"⟩
  steps := [(.dict [(text "piece", py "gmail"), (text "action_name", py "send_email")],
    ⟨gmailPiece, [(.schema gmailPiece, .ok mailSchema)], gmailPiece⟩)]

/-- What the lookups of the request find. -/
def mailReading : RequestReading where
  trigger := ⟨webhookPiece, [(.schema webhookPiece, .ok sendEmailSchema)], webhookPiece⟩
  gate := mailStepGate
  actions := [mailStepReading]

theorem made_mailStepReading : mailStepReading.Made bareEnv := by
  refine ⟨fun _ ↦ ⟨_, _, rfl, rfl, rfl, ?_, rfl, ?_⟩, fun hother ↦ absurd rfl hother⟩
  · exact ⟨mailSchema, fun _ ↦ runs_autoResolvePiece rfl rfl⟩
  · exact ⟨mailSchema, fun _ ↦ runs_autoResolvePiece rfl rfl⟩

theorem made_mailReading : mailReading.Made bareEnv mailStepBody := by
  refine ⟨rfl, ⟨sendEmailSchema, fun _ ↦ runs_autoResolvePiece rfl rfl⟩, ?_, rfl, ?_⟩
  · show _ = gateQueries mailStepBody webhookPiece
    rw [gateQueries, gatePieces_mailStep]
    rfl
  · exact List.forall_mem_singleton.2 made_mailStepReading

/-- The connections are asked for once. -/
theorem connections_of_mailReading {pid name : PyStr} {tree : PyValue}
    {x r : Except EngineError PyValue} (h : (DynamicQuery.catalog .connections, r) ∈
      mailReading.lookups.map (Prod.map .catalog id) ++ [(.goldenBuild pid name tree, x)]) :
    r = mailAnswer .connections := by
  rcases List.mem_append.1 h with h | h
  · obtain ⟨e, he, heq⟩ := List.mem_map.1 h
    obtain ⟨hquery, rfl⟩ := Prod.mk.inj heq
    have hanswered : ∀ e ∈ mailReading.lookups, e.1 = .connections →
        e.2 = mailAnswer .connections := by
      refine List.forall_mem_cons.2 ⟨fun h ↦ absurd h (by decide), ?_⟩
      refine List.forall_mem_cons.2 ⟨fun _ ↦ rfl, ?_⟩
      refine List.forall_mem_cons.2 ⟨fun h ↦ absurd h (by decide), ?_⟩
      refine List.forall_mem_cons.2 ⟨fun h ↦ absurd h (by decide), ?_⟩
      refine List.forall_mem_cons.2 ⟨fun h ↦ absurd h (by decide), ?_⟩
      exact List.forall_mem_singleton.2 fun h ↦ absurd h (by decide)
    exact hanswered e he (DynamicQuery.catalog.inj hquery)
  · cases (Prod.mk.inj (List.mem_singleton.1 h)).1

/-- The action gets the connection that the gate has found. -/
theorem requestConnected_mailStep :
    RequestConnected bareEnv mailAnswer mailStepBody mailReading := by
  have hnamed : ∀ cid, (mailStepBody.connections bareEnv).lookup (text "gmail") = some cid →
      cid = [] := fun cid hcid ↦ (Option.some.inj hcid).symm
  have hlast : lastAsking (repliesIn mailStepGate)
      (orderedPieces (gatePieces mailStepBody webhookPiece)) (text "gmail") = some gmailPiece := by
    rw [gatePieces_mailStep]
    rfl
  have hfirst : firstActive (liveConnections mailAnswer) gmailPiece = some liveMail := rfl
  refine ⟨fun hasks ↦ ?_, List.forall_mem_singleton.2 ⟨?_, fun hnone ↦ absurd hnone (by decide)⟩⟩
  · -- the webhook does not ask for authentication
    have hfree : asksForAuth mailAnswer (fullName webhookPiece) = false := rfl
    exact absurd (hfree.symm.trans hasks) (by decide)
  · intro f hf
    obtain rfl := Option.some.inj hf
    refine List.forall_mem_singleton.2 fun _ ↦ ⟨fun id hsource _ ↦ ?_, fun hnone ↦ ?_⟩
    · show UsableFor (liveConnections mailAnswer) gmailPiece id
      cases hsource with
      | given hgiven => cases hgiven
      | named _ hcid hne => exact absurd (hnamed _ hcid) hne
      | @found full conn _ _ hlast' hconn =>
        obtain rfl : gmailPiece = full := Option.some.inj (hlast.symm.trans hlast')
        obtain rfl : liveMail = conn := Option.some.inj (hfirst.symm.trans hconn)
        exact ⟨text "conn-gmail", liveMail, rfl, List.mem_singleton_self _, ⟨rfl, rfl⟩,
          by decide, .inl rfl⟩
    · exact absurd (hnone _ (.found rfl hnamed hlast hfirst)) (by decide)

/-- **A step that the gate vouches for** is connected, although the gate has missed the webhook. -/
theorem step_connected : ∃ l x t tree r,
    (v2BuildDynamic bareEnv (text "p1") (text "t0") false mailStepBody).Runs ⟨1, []⟩ l x t ∧
      (.goldenBuild (text "p1") mailStepBody.displayName tree, r) ∈ l ∧
      ReadOff bareEnv mailStepBody l mailReading ∧ TreeConnected mailAnswer tree := by
  have hclassify : ∃ g, (classifyPieces [liveMail] (mailStepBody.connections bareEnv) evalPy
      fetchPieceSchema ⟨[(gmailPiece, liveMail)], []⟩
      (orderedPieces [webhookPiece, text "gmail"]) ⟨[], [], []⟩).Runs ⟨1, []⟩
        [(.schema webhookPiece, .error (.httpStatus 502)), (.schema gmailPiece, .ok mailSchema)]
        (.ok g) ⟨1, []⟩ ∧ g.blocked = [] ∧ g.connectionIds = [(text "gmail", py "conn-gmail")] :=
    ⟨_, ⟨_, _, rfl, _, _, rfl, rfl, rfl⟩, rfl, rfl⟩
  obtain ⟨g, hclassify, hready, hids⟩ := hclassify
  have htrigger : (resolveTrigger bareEnv (.dict mailStepBody.trigger)).Runs ⟨1, []⟩
      [(.schema webhookPiece, .ok sendEmailSchema)] (.ok hookTrigger) ⟨1, []⟩ :=
    ⟨_, _, rfl, rfl, rfl⟩
  obtain ⟨gate, hgated, hblocked, hfound⟩ :=
    runs_gatedTrigger_mail htrigger extractPieces_mailStep hclassify
  obtain ⟨node, w, hbuild⟩ := runs_mailStepChain (s := ⟨1, []⟩)
  have hchain : (dynamicChain bareEnv mailStepBody (ownConnection (withFound
      [(text "gmail", py "conn-gmail")] (mailStepBody.connectionFields bareEnv)))).Runs ⟨1, []⟩
      [(.schema (text "gmail"), .ok mailSchema), (.schema gmailPiece, .ok mailSchema)]
      (.ok (node, [gmailPiece])) w := by
    refine runs_bind_ok_iff.2 ⟨[_], [_], ([mailStepSpec], [gmailPiece]), ⟨1, []⟩, rfl,
      ⟨_, _, rfl, rfl, rfl⟩, ?_⟩
    exact runs_setState_bind_iff.2 (runs_bind_ok_iff.2 ⟨[_], [], node, w, rfl, hbuild,
      runs_pure_iff.2 ⟨rfl, rfl, rfl⟩⟩)
  rw [← hids, ← hfound] at hchain
  obtain ⟨x, hrun⟩ := exists_runs_built_rest (text "p1") false hgated
    (hblocked.trans (congrArg List.length hready)) hchain
  have hread : ReadOff bareEnv mailStepBody
      (mailReading.lookups.map (Prod.map .catalog id) ++ [(.goldenBuild (text "p1")
        mailStepBody.displayName (dynamicTrigger mailStepBody hookTrigger node), .ok deployed)])
      mailReading := ⟨made_mailReading, (lookupsMade_catalog _ _ _ _ _).symm⟩
  obtain ⟨hbuilt, -⟩ :=
    connected_or_pending_iff mailStepBody hrun fun _ ↦ connections_of_mailReading
  have hmem := List.mem_append_right
    (mailReading.lookups.map (Prod.map DynamicQuery.catalog id)) (List.mem_singleton_self
      (DynamicQuery.goldenBuild (text "p1") mailStepBody.displayName
        (dynamicTrigger mailStepBody hookTrigger node), Except.ok deployed))
  refine ⟨_, x, w, _, _, hrun, hmem, hread, ?_⟩
  exact ((hbuilt _ _ _ _ hmem).2 _ hread).2 requestConnected_mailStep

end Samples

end Siyadah
