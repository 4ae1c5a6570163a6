import SiyadahOrchestrator.Build.Guard
import SiyadahOrchestrator.Build.Numbering

/-!
# The connection that is used and the one that is guarded

`v2_build_complex` validates the nested steps, has the connections of their pieces guarded and
builds the chain. The guard looks a piece up in the connection map of the request (`resolveConns`);
the builder, which is not given that map, looks it up among the default connections. So a step
without a connection of its own gets the connection that was guarded exactly when the two tables
have the same one for its piece (`guarded_connection_iff`).
-/

namespace Siyadah

open Dialogue PyValue

/-! ### Validation -/

/-- `type(v).__name__`. -/
def typeName : PyValue → PyStr
  | .null => text "NoneType"
  | .bool _ => text "bool"
  | .int _ => text "int"
  | .float _ => text "float"
  | .str _ => text "str"
  | .list _ => text "list"
  | .dict _ => text "dict"

/-- A 400 with a text. -/
def badRequest (parts : List TextPart) : EngineError := .http 400 (.text parts)

/-- The label of the `i`-th step under `path`. -/
def stepLabel (path : PyStr) (i : ℕ) : PyStr :=
  if path = text "steps" then text "Step " ++ digits (i + 1)
  else path ++ text "[" ++ digits (i + 1) ++ text "]"

/-- The validation of one step, for the way in which a list is validated under a path. -/
def validateComplexStep (spec : PyValue) (label : PyStr)
    (validate : spec.Part → PyStr → Except EngineError Unit) : Except EngineError Unit := do
  let stype ← fromPy (spec.getD "type" (py "PIECE"))
  if stype.isStr (text "PIECE") then
    let piece ← fromPy (specPiece spec)
    let action ← fromPy (spec.get "action_name" >>= fun v ↦ stripped (v.orElse (py "")))
    if piece = [] then
      .error (badRequest [.val (.str label), .lit ": piece or piece_name is required"])
    else if action = [] then
      .error (badRequest [.val (.str label), .lit ": action_name is missing"])
    else pure ()
  else if stype.isStr (text "ROUTER") then
    let branches ← fromPy (spec.child "branches" Leaf.nil)
    let isList := match branches.1 with
      | .list _ => true
      | _ => false
    if isList then
      let items ← fromPy branches.1.items
      items.zipIdx.forM fun b ↦
        if b.1.1.isDict then do
          let actions ← fromPy (b.1.1.child "actions" Leaf.null)
          let path := label ++ text ".branches[" ++ digits (b.2 + 1) ++ text "].actions"
          match actions.orNil.1 with
          | .list _ =>
            validate ⟨actions.orNil.1, Nat.lt_of_lt_of_le actions.orNil.2
              (Nat.le_of_lt (Nat.lt_of_le_of_lt b.1.2 branches.2))⟩ path
          | _ => .error (badRequest [.val (.str path), .lit ": must be a list"])
        else pure ()
    else .error (badRequest [.val (.str label), .lit ": branches must be a list"])
  else if stype.isStr (text "LOOP") then
    let actions ← fromPy (spec.child "loop_actions" Leaf.null)
    let path := label ++ text ".loop_actions"
    match actions.orNil.1 with
    | .list _ => validate actions.orNil path
    | _ => .error (badRequest [.val (.str path), .lit ": must be a list"])
  else if stype.isStr (text "CODE") then pure ()
  else .error (badRequest [.val (.str label), .lit ": unknown step type: ", .val stype])

/-- `validate_complex_steps`. -/
def validateComplexSteps (steps : PyValue) (path : PyStr) (allowEmpty : Bool) :
    Except EngineError Unit :=
  match _hsteps : steps with
  | .list _ =>
    if !steps.truthy then
      if allowEmpty then .ok ()
      else .error (badRequest [.val (.str path), .lit ": at least one step is required"])
    else do
      let items ← fromPy steps.items
      items.zipIdx.forM fun s ↦
        if s.1.1.isDict then
          validateComplexStep s.1.1 (stepLabel path s.2) fun w path' ↦
            validateComplexSteps w.1 path' true
        else
          .error (badRequest [.lit "Invalid step: expected object, got ",
            .val (.str (typeName s.1.1))])
  | _ => .error (badRequest [.val (.str path), .lit ": must be a list"])
termination_by steps.weight
decreasing_by exact _hsteps ▸ Nat.lt_of_lt_of_le w.2 s.1.2

/-! ### The endpoint -/

/-- `v2_build_complex`, up to the trigger that it gives to `golden_build`. -/
def v2BuildComplex (env : BuilderEnv) (pid : PyStr) (connectionIds : List (PyStr × PyStr))
    (steps : PyValue) : BuilderM PyValue := do
  let cn := resolveConns env connectionIds
  lift (validateComplexSteps steps (text "steps") false)
  let required ← evalPy (extractPiecesFromSteps steps)
  let _ ← guardConnections env.runtime pid required cn true
  setState { counter := 1, stepsInfo := [] }
  let first ← buildActionChain env steps
  match first with
  | .null => raise (.http 500 (.text [.lit "Action chain is empty — no steps were built"]))
  | _ => pure (whTrigger (py "استقبال بيانات") first)

/-! ### The main result -/

/-- The step of a specification that uses a piece, gives no connection and names a piece that
resolves to itself. -/
structure Unconnected (specs : List PyValue) (chain spec node : PyValue) (raw : PyStr) : Prop where
  step : StepOf spec node specs chain
  typed : (stepType spec).isStr (text "PIECE") = true
  named : specPiece spec = .ok raw
  itself : nodePiece node = .str (fullName raw)
  noAuth : ¬ GivesAuth spec
  noConnection : (spec.entryD "connection_id").truthy = false

/-- The connection is one of those that the project had when the guard asked. -/
def Available (l : List (CatalogQuery × Except EngineError PyValue)) (cid : PyStr) : Prop :=
  ∃ reply available, (CatalogQuery.connections, reply) ∈ l ∧
    availableIds reply = .ok available ∧ .str cid ∈ available

section Complex

variable {env : BuilderEnv} {pid : PyStr} {connectionIds : List (PyStr × PyStr)}
  {steps trigger spec node : PyValue} {raw : PyStr} {s t : BuilderState}
  {l : List (CatalogQuery × Except EngineError PyValue)}

theorem connectionRef_injective : Function.Injective connectionRef := fun _ _ h ↦
  List.append_cancel_left (List.append_cancel_right h)

/-- A build that reaches `golden_build` has had every piece guarded, and its steps are derived. -/
theorem runs_v2BuildComplex (h : (v2BuildComplex env pid connectionIds steps).Runs s l
    (.ok trigger) t) : ∃ chain required s' l' t', trigger = whTrigger (py "استقبال بيانات") chain ∧
      chain.truthy = true ∧ extractPiecesFromSteps steps = .ok required ∧
      (∀ piece ∈ required, ∃ cid, (resolveConns env connectionIds).lookup (shortName piece) =
        some cid ∧ cid ≠ [] ∧ Available l cid) ∧
      Built env (.chain steps.listItems chain) s' l' t' := by
  rcases runs_lift_bind_iff.1 h with ⟨-, -, h⟩ | ⟨e, -, -, herr, -⟩
  · obtain ⟨required, hrequired, h⟩ := runs_evalPy_bind_ok_iff.1 h
    obtain ⟨l₁, l₂, errors, u, rfl, hguard, hbuild⟩ := runs_bind_ok_iff.1 h
    obtain ⟨reply, available, rfl, havailable, rfl, hall⟩ := approved_of_guard hguard
    obtain ⟨l₃, l₄, chain, v, rfl, hchain, hlast⟩ :=
      runs_bind_ok_iff.1 (runs_setState_bind_iff.1 hbuild)
    have hbuilt := built_of_runs hchain
    refine ⟨chain, required, _, l₃, v, ?_, ?_, hrequired, fun piece hpiece ↦ ?_, hbuilt⟩
    · split at hlast
      · exact absurd (runs_raise_iff.1 hlast).2.1 (by simp)
      · exact Except.ok.inj (runs_pure_iff.1 hlast).2.1
    · refine (built_chain_cases hbuilt).resolve_left fun hnull ↦ ?_
      rw [hnull] at hlast
      exact absurd (runs_raise_iff.1 hlast).2.1 (by simp)
    · obtain ⟨cid, hlookup, hne, hmem⟩ := hall piece hpiece
      exact ⟨cid, hlookup, hne, reply, available,
        List.mem_append_left _ (List.mem_singleton_self _), havailable, hmem⟩
  · exact absurd herr (by simp)

/-- The default connections are those of two pieces, under their short names. -/
theorem shortName_of_default {short c : PyStr}
    (h : env.defaultConnections.lookup short = some c) : shortName short = short := by
  rw [BuilderEnv.defaultConnections, List.lookup_cons] at h
  split at h
  · rename_i hgmail
    rw [eq_of_beq hgmail]
    decide
  · rw [List.lookup_cons] at h
    split at h
    · rename_i hsheets
      rw [eq_of_beq hsheets]
      decide
    · exact absurd h (by simp)

/-- A step that is not connected gets the default connection of its piece. -/
theorem nodeAuth_of_unconnected {chain : PyValue} {l : Lookups}
    (hbuilt : Built env (.chain steps.listItems chain) s l t)
    (h : Unconnected steps.listItems chain spec node raw) :
    nodeAuth node = env.defaultAuth (shortName raw) ∧ raw ≠ [] := by
  obtain ⟨l', p, n, next, rfl⟩ := pieceStep_of_stepOf hbuilt h.step h.typed
  have hname : p.name = raw := Except.ok.inj (p.named.symm.trans h.named)
  have hfull : fullName p.resolved.1 = fullName raw :=
    PyValue.str.inj ((nodePiece_node p _ next).symm.trans h.itself)
  have hshort : shortName p.resolved.1 = shortName raw := by
    rw [← shortName_fullName, hfull, shortName_fullName]
  rw [nodeAuth_node, lookup_auth_of_default p.configured h.noAuth h.noConnection, hshort]
  exact ⟨rfl, hname ▸ p.name_ne⟩

/-- **Steps without a connection of their own get the guarded connection exactly when it is the
default one of their piece.** -/
theorem guarded_connection_iff (h : (v2BuildComplex env pid connectionIds steps).Runs s l
    (.ok trigger) t) :
    (∀ spec node raw, Unconnected steps.listItems (trigger.entryD "nextAction") spec node raw →
      ∃ cid, (resolveConns env connectionIds).lookup (shortName raw) = some cid ∧
        Available l cid ∧ nodeAuth node = some (.str (connectionRef cid))) ↔
    ∀ spec node raw, Unconnected steps.listItems (trigger.entryD "nextAction") spec node raw →
      ∃ cid, cid ≠ [] ∧ env.defaultConnections.lookup (shortName raw) = some cid ∧
        (resolveConns env connectionIds).lookup (shortName raw) = some cid := by
  obtain ⟨chain, required, s', l', t', rfl, hchain, hrequired, hguard, hbuilt⟩ :=
    runs_v2BuildComplex h
  have hnext : (whTrigger (py "استقبال بيانات") chain).entryD "nextAction" = chain := by
    rw [whTrigger, buildTrigger, entryD_nextAction rfl, if_pos hchain]
  rw [hnext]
  refine forall_congr' fun spec ↦ forall_congr' fun node ↦ forall_congr' fun raw ↦
    forall_congr' fun hstep ↦ ?_
  obtain ⟨hauth, hne⟩ := nodeAuth_of_unconnected hbuilt hstep
  rw [hauth, BuilderEnv.defaultAuth]
  constructor
  · rintro ⟨cid, hcid, -, heq⟩
    obtain ⟨c, hc, href⟩ := Option.map_eq_some_iff.1 heq
    obtain ⟨hlookup, hpos⟩ := Option.filter_eq_some_iff.1 hc
    obtain rfl := connectionRef_injective (PyValue.str.inj href)
    exact ⟨c, by simpa using hpos, hlookup, hcid⟩
  · rintro ⟨cid, hpos, hdefault, hcid⟩
    obtain ⟨cid', hcid', -, havailable⟩ := hguard (shortName raw) (mem_extractPieces hrequired
      (specWithin_of_stepOf hstep.step) hstep.typed hstep.named hne)
    rw [shortName_of_default hdefault, hcid, Option.some.injEq] at hcid'
    subst hcid'
    refine ⟨cid, hcid, havailable, ?_⟩
    rw [hdefault, Option.filter_some, if_pos (by simpa using hpos)]
    rfl

end Complex

/-- A step that sends a message with Gmail and gives no connection. -/
def gmailSpec : PyValue :=
  pyDict [("type", py "PIECE"), ("piece", py "gmail"), ("action_name", py "send_email")]

/-- The project has both connections. -/
def gmailExchanges : List (CatalogQuery × Except EngineError PyValue) :=
  [(.connections, .ok (.list [pyDict [("externalId", py "conn-own")],
    pyDict [("externalId", py "conn-default")]])), (.schema (text "gmail"), .ok gmailSchema)]

/-- The settings of the step: it gets the default connection. -/
def gmailSettings : PieceSettings where
  version := py "~0.12.1"
  action := py "send_email"
  input := [(text "auth", .str (connectionRef (text "conn-default")))]
  propertySettings := []
  schemaLoaded := true

/-- What is built for the step. -/
def gmailNode : PyValue :=
  buildAction (stepName 1) (fullName (text "gmail")) gmailSettings.version gmailSettings.action
    gmailSettings.input (py "gmail: send_email") .null gmailSettings.propertySettings

theorem extractPieces_gmail : extractPiecesFromSteps (.list [gmailSpec]) = .ok [text "gmail"] := by
  rw [extractPiecesFromSteps, extractPieces]
  rfl

theorem runs_chain_gmail : ∃ t, (buildActionChain gmailEnv (.list [gmailSpec])).Runs ⟨1, []⟩
    (gmailExchanges.drop 1) (.ok gmailNode) t := by
  have h₀ : (buildChainFrom gmailEnv (buildStepFromSpec gmailEnv) id 1 2 []).Runs ⟨1, []⟩ []
      (.ok .null) ⟨1, []⟩ := runs_pure_iff.2 ⟨rfl, rfl, rfl⟩
  have hne : text "gmail" ≠ [] := by decide
  have hsettings : pieceSettings gmailEnv gmailSpec gmailSchema (text "gmail") =
      .ok gmailSettings := rfl
  have htype : (stepType gmailSpec).isStr (text "PIECE") = true := by decide
  rw [buildActionChain_list gmailEnv (List.cons_ne_nil _ _)]
  exact ⟨_, runs_chain_cons h₀ (runs_buildStepFromSpec_piece rfl hne
    (fun s ↦ runs_autoResolvePiece rfl rfl) hsettings rfl htype) rfl⟩

theorem runs_gmail (own : PyStr) (hown : own = text "conn-own" ∨ own = text "conn-default") :
    ∃ t, (v2BuildComplex gmailEnv (text "p1") [(text "gmail", own)] (.list [gmailSpec])).Runs
      ⟨1, []⟩ gmailExchanges (.ok (whTrigger (py "استقبال بيانات") gmailNode)) t := by
  have hvalid : validateComplexSteps (.list [gmailSpec]) (text "steps") false = .ok () := by
    rw [validateComplexSteps]
    rfl
  have hguard : (guardConnections plainRuntime (text "p1") [text "gmail"]
      (resolveConns gmailEnv [(text "gmail", own)]) true).Runs ⟨1, []⟩
        (gmailExchanges.take 1) (.ok []) ⟨1, []⟩ := by
    rcases hown with rfl | rfl
    · exact ⟨_, _, rfl, rfl, rfl⟩
    · exact ⟨_, _, rfl, rfl, rfl⟩
  obtain ⟨t, hchain⟩ := runs_chain_gmail
  exact ⟨t, runs_lift_bind_iff.2 (.inl ⟨(), hvalid, runs_evalPy_bind_ok_iff.2
    ⟨_, extractPieces_gmail, runs_bind_ok_iff.2 ⟨_, _, _, _, rfl, hguard,
      runs_setState_bind_iff.2 (runs_bind_ok_iff.2
        ⟨_, [], _, _, rfl, hchain, runs_pure_iff.2 ⟨rfl, rfl, rfl⟩⟩)⟩⟩⟩)⟩

theorem unconnected_gmail :
    Unconnected [gmailSpec] gmailNode gmailSpec gmailNode (text "gmail") where
  step := .head
  typed := by decide
  named := rfl
  itself := rfl
  noAuth := by
    rintro ⟨fields, v, hfields, hv⟩
    obtain rfl := Except.ok.inj hfields
    exact absurd hv (by simp [cleanInputConfig])
  noConnection := rfl

/-- The request maps Gmail to the tenant's own connection, which the guard approves; the step is
authenticated with the default one. -/
theorem own_connection_unused : ∃ env pid connectionIds steps s l trigger t,
    (v2BuildComplex env pid connectionIds steps).Runs s l (.ok trigger) t ∧
      ∃ spec node raw, Unconnected steps.listItems (trigger.entryD "nextAction") spec node raw ∧
        ¬ ∃ cid, (resolveConns env connectionIds).lookup (shortName raw) = some cid ∧
          Available l cid ∧ nodeAuth node = some (.str (connectionRef cid)) := by
  obtain ⟨t, hrun⟩ := runs_gmail _ (.inl rfl)
  refine ⟨_, _, _, _, _, _, _, t, hrun, gmailSpec, gmailNode, text "gmail", unconnected_gmail, ?_⟩
  rintro ⟨cid, hcid, -, hauth⟩
  obtain rfl : text "conn-own" = cid := Option.some.inj hcid
  exact absurd (connectionRef_injective (PyValue.str.inj (Option.some.inj hauth))) (by decide)

/-- Where the map has the default connection, the step gets the guarded one. -/
theorem default_connection_used : ∃ cid,
    (resolveConns gmailEnv [(text "gmail", text "conn-default")]).lookup
        (shortName (text "gmail")) = some cid ∧ Available gmailExchanges cid ∧
          nodeAuth gmailNode = some (.str (connectionRef cid)) := by
  obtain ⟨t, hrun⟩ := runs_gmail _ (.inr rfl)
  refine (guarded_connection_iff hrun).2 (fun spec node raw h ↦ ?_) gmailSpec gmailNode
    (text "gmail") unconnected_gmail
  obtain ⟨rfl, -⟩ := stepOf_singleton (by decide) h.step
  obtain rfl : text "gmail" = raw := Except.ok.inj h.named
  exact ⟨text "conn-default", by decide, by decide, by decide⟩

end Siyadah
