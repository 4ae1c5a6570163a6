import SiyadahOrchestrator.Build.Structure

/-!
# Two trees side by side

Two endpoints build a tree out of the same request, and ActivePieces answers both alike. The trees
are the same when their steps are, at the same places, but for the names that are displayed
(`SameTree`).

The chains of two endpoints are compared step by step. A `SpecPair` holds what either of them gives
the builder for one action of the request, and when the two are built alike; the chains are the same
exactly when all pairs are (`sameTree_chains_iff`).
-/

namespace Siyadah

open Dialogue PyValue

/-! ### Trees but for their display names -/

/-- The entries of a step, but for its display name and its links. -/
def unnamedEntries (node : PyValue) : Fields :=
  (ownEntries node).filter fun f ↦ f.1 ≠ text "displayName"

/-- The steps are the same, with what is inside them. -/
def SameStep (v w : PyValue) : Prop :=
  unnamedEntries v = unnamedEntries w ∧
    (nodeInside v).map unnamedEntries = (nodeInside w).map unnamedEntries

/-- The trees have the same steps at the same places. -/
def SameTree (v w : PyValue) : Prop :=
  (chainForest v).map unnamedEntries = (chainForest w).map unnamedEntries

/-- The replies are those of the table. -/
def AnsweredBy (answer : CatalogQuery → Except EngineError PyValue)
    (e : CatalogQuery × Except EngineError PyValue) : Prop := e.2 = answer e.1

section Trees

variable {v w : PyValue}

theorem sameTree_iff_of_forest {a b : PyValue} (hv : chainForest v = .cons v (nodeInside v)
    (chainForest a)) (hw : chainForest w = .cons w (nodeInside w) (chainForest b)) :
    SameTree v w ↔ SameStep v w ∧ SameTree a b := by
  rw [SameTree, hv, hw, Forest.map, Forest.map, Forest.cons.injEq, SameStep, SameTree, and_assoc]

theorem lookup_unnamedEntries {key : String} (hlink : text key ∉ linkKeys)
    (hname : text key ≠ text "displayName") :
    (unnamedEntries v).lookup (text key) = v.entry key := by
  rw [← lookup_ownEntries hlink, unnamedEntries]
  induction ownEntries v with
  | nil => rfl
  | cons f fields ih =>
    rw [List.filter_cons, List.lookup_cons]
    split
    · rw [List.lookup_cons, ih]
    · rename_i hdropped
      have hf : f.1 = text "displayName" := by simpa using hdropped
      rw [beq_false_of_ne (hf ▸ hname), ih]

/-- Steps that are the same have the same entries. -/
theorem SameStep.entryD_eq (h : SameStep v w) (key : String) (hlink : text key ∉ linkKeys)
    (hname : text key ≠ text "displayName") : v.entryD key = w.entryD key := by
  rw [entryD, entryD, ← lookup_unnamedEntries hlink hname, h.1,
    lookup_unnamedEntries hlink hname]

end Trees

/-! ### Triggers -/

section Trigger

variable {piece piece' : PyStr}
  {version version' name input input' display display' first first' : PyValue}
  {fields : List (String × PyValue)} {next : PyValue}

/-- The links of a step are none of its own entries. -/
theorem unnamedEntries_withNext :
    unnamedEntries (withNext fields next) = unnamedEntries (pyDict fields) := by
  have hlink : PyStr.ofString "nextAction" ∈ linkKeys := by decide
  have hown : ownEntries (withNext fields next) = ownEntries (pyDict fields) := by
    show List.filter _ (List.map _ (fields ++ _)) = List.filter _ (List.map _ fields)
    rw [List.map_append, List.filter_append]
    split
    · rw [List.map_cons, List.filter_cons_of_neg (by simpa using hlink)]
      exact List.append_nil _
    · exact List.append_nil _
  rw [unnamedEntries, hown, unnamedEntries]

/-- The display name is left out. -/
theorem unnamedEntries_displayName (front back : List (String × PyValue)) (display : PyValue) :
    unnamedEntries (pyDict (front ++ ("displayName", display) :: back)) =
      unnamedEntries (pyDict (front ++ back)) := by
  have hown : PyStr.ofString "displayName" ∉ linkKeys := by decide
  show List.filter _ (List.filter _ (List.map _ _)) = List.filter _ (List.filter _ (List.map _ _))
  rw [List.map_append, List.map_append, List.filter_append, List.filter_append,
    List.filter_append, List.filter_append, List.map_cons,
    List.filter_cons_of_pos (by simpa using hown), List.filter_cons_of_neg (by simp [text])]

theorem entryD_settings_buildTrigger (key : String) :
    ((buildTrigger piece version name input display first).entryD "settings").entryD key =
      (pyDict [("pieceName", .str piece), ("pieceVersion", version), ("pieceType", py "OFFICIAL"),
        ("packageType", py "REGISTRY"), ("triggerName", name), ("input", input),
        ("inputUiInfo", .dict []), ("propertySettings", .dict [])]).entryD key := by
  rw [buildTrigger, entryD_withNext (by decide)]
  rfl

theorem sameStep_buildTrigger_iff :
    SameStep (buildTrigger piece version name input display first)
        (buildTrigger piece' version' name input' display' first') ↔
      piece = piece' ∧ version = version' ∧ input = input' := by
  constructor
  · intro h
    have hsettings := h.entryD_eq "settings" (by decide) (by decide)
    have hentry : ∀ key, _ := fun key ↦ congrArg (entryD · key) hsettings
    simp only [entryD_settings_buildTrigger] at hentry
    have hpiece := hentry "pieceName"
    have hversion := hentry "pieceVersion"
    have hinput := hentry "input"
    rw [entryD, entryD, entry_pyDict, entry_pyDict] at hpiece hversion hinput
    exact ⟨PyValue.str.inj hpiece, hversion, hinput⟩
  · rintro ⟨rfl, rfl, rfl⟩
    refine ⟨?_, ?_⟩
    · rw [buildTrigger, buildTrigger, unnamedEntries_withNext, unnamedEntries_withNext]
      exact (unnamedEntries_displayName [_, _, _] [_, _] display).trans
        (unnamedEntries_displayName [_, _, _] [_, _] display').symm
    · have hother : ∀ display first,
          nodeKind (buildTrigger piece version name input display first) = .other := by
        intro display first
        have hkind : kindOfType (py "PIECE_TRIGGER") = .other := by decide
        exact (nodeKind_withNext rfl).trans hkind
      rw [nodeInside, nodeInside, hother, hother]

/-- Two trees with triggers of the same name. -/
theorem sameTree_buildTrigger_iff :
    SameTree (buildTrigger piece version name input display first)
        (buildTrigger piece' version' name input' display' first') ↔
      (piece = piece' ∧ version = version' ∧ input = input') ∧ SameTree first first' := by
  have hforest : ∀ piece version input display first,
      chainForest (buildTrigger piece version name input display first) =
        .cons (buildTrigger piece version name input display first)
          (nodeInside (buildTrigger piece version name input display first))
          (chainForest first) := by
    intro piece version input display first
    exact chainForest_withNext (rfl : _ = some (py "trigger")) rfl
  rw [sameTree_iff_of_forest (hforest _ _ _ _ _) (hforest _ _ _ _ _), sameStep_buildTrigger_iff]

end Trigger

/-! ### Pairs of specifications -/

/-- What two endpoints give the builder for one action, and when it is built alike. -/
structure SpecPair where
  left : PyValue
  right : PyValue
  agree : Prop

section Pairs

variable (env : BuilderEnv) (answer : CatalogQuery → Except EngineError PyValue)

/-- The condition of the pair is the right one. -/
structure SpecPair.Decided (p : SpecPair) : Prop where
  /-- Steps that are the same meet it. -/
  agree : ∀ {next next' node node' s s' t t' l l'},
    (buildStepFromSpec env p.left next).Runs s l (.ok node) t →
    (buildStepFromSpec env p.right next').Runs s' l' (.ok node') t' →
    (∀ e ∈ l, AnsweredBy answer e) → (∀ e ∈ l', AnsweredBy answer e) →
    SameStep node node' → p.agree
  /-- Where it is met, the same step is built from the same state. -/
  same : p.agree → ∀ {next node node' s t t' l l'},
    (buildStepFromSpec env p.left next).Runs s l (.ok node) t →
    (buildStepFromSpec env p.right next).Runs s l' (.ok node') t' →
    (∀ e ∈ l, AnsweredBy answer e) → (∀ e ∈ l', AnsweredBy answer e) → node = node' ∧ t = t'

variable {env answer} {s t t' : BuilderState}
  {l l' : List (CatalogQuery × Except EngineError PyValue)} {chain chain' : PyValue}

/-- The replies of a table decide the run. -/
theorem unique_of_answeredBy {α : Type} {m : BuilderM α} {x x' : Except EngineError α}
    (h : m.Runs s l x t) (h' : m.Runs s l' x' t') (hl : ∀ e ∈ l, AnsweredBy answer e)
    (hl' : ∀ e ∈ l', AnsweredBy answer e) : x = x' ∧ t = t' := by
  have hend := Talk.answered_of_runs h hl
  rw [Talk.answered_of_runs h' hl'] at hend
  obtain ⟨-, hend⟩ := Prod.mk.inj hend
  exact ⟨(Prod.mk.inj hend).1.symm, (Prod.mk.inj hend).2.symm⟩

/-- What both endpoints give the builder is built alike. -/
theorem decided_self (spec : PyValue) : SpecPair.Decided env answer ⟨spec, spec, True⟩ where
  agree _ _ _ _ _ := trivial
  same _ _ _ _ _ _ _ _ _ h h' hl hl' := by
    obtain ⟨hnode, ht⟩ := unique_of_answeredBy h h' hl hl'
    exact ⟨Except.ok.inj hnode, ht⟩

/-- What a run has gone through that builds a step with a piece. -/
theorem exists_of_runs_piece {spec next node : PyValue}
    (htype : (stepType spec).isStr (text "PIECE") = true)
    (h : (buildStepFromSpec env spec next).Runs s l (.ok node) t) :
    ∃ name resolved settings display, specPiece spec = .ok name ∧
      (∀ u, (autoResolvePiece env.runtime name).Runs u l (.ok resolved) u) ∧
      pieceSettings env spec resolved.2 resolved.1 = .ok settings ∧
      spec.getD "display_name" (.str (shortName resolved.1 ++ text ": " ++
        env.runtime.str settings.action)) = .ok display ∧
      node = buildAction (stepName s.counter) (fullName resolved.1) settings.version
        settings.action settings.input display next settings.propertySettings ∧
      t = s.reported (pieceReport (stepName s.counter) (fullName resolved.1) settings.action
        settings.version settings.schemaLoaded settings.propertySettings) := by
  rw [buildStepFromSpec] at h
  obtain ⟨stype, hstype, h⟩ := runs_evalPy_bind_ok_iff.1 h
  obtain ⟨-, rfl⟩ := getD_eq_ok_iff.1 hstype
  replace h := runs_nextNumber_bind_iff.1 h
  change Runs (if (stepType spec).isStr (text "PIECE") then _ else _) _ _ _ _ at h
  rw [if_pos htype] at h
  obtain ⟨name, hname, h⟩ := runs_evalPy_bind_ok_iff.1 h
  split at h
  · exact absurd (runs_raise_iff.1 h).2.1 (by simp)
  obtain ⟨l₁, l₂, resolved, u, rfl, hresolve, h⟩ := runs_bind_ok_iff.1 h
  obtain ⟨rfl, hresolves⟩ := stateless_autoResolvePiece name _ _ _ _ hresolve
  rcases runs_lift_bind_iff.1 h with ⟨settings, hsettings, h⟩ | ⟨e, -, -, herror, -⟩
  · obtain ⟨display, hdisplay, h⟩ := runs_evalPy_bind_ok_iff.1 (runs_report_bind_iff.1 h)
    obtain ⟨rfl, hnode, rfl⟩ := runs_pure_iff.1 h
    obtain rfl := Except.ok.inj hnode
    rw [List.append_nil]
    exact ⟨name, resolved, settings, display, hname, hresolves, hsettings, hdisplay, rfl, rfl⟩
  · exact absurd herror (by simp)

/-- A name resolves to this piece, if ActivePieces answers by the table. -/
def ResolvedBy (env : BuilderEnv) (answer : CatalogQuery → Except EngineError PyValue)
    (name : PyStr) (resolved : PyStr × PyValue) : Prop :=
  ∀ s, (autoResolvePiece env.runtime name).against answer s = .ok resolved

theorem resolvedBy_of_runs {name : PyStr} {resolved : PyStr × PyValue}
    (h : ∀ u, (autoResolvePiece env.runtime name).Runs u l (.ok resolved) u)
    (hl : ∀ e ∈ l, AnsweredBy answer e) : ResolvedBy env answer name resolved := by
  intro s
  rw [against, Talk.answered_of_runs (h s) hl]

theorem ResolvedBy.unique {name : PyStr} {resolved resolved' : PyStr × PyValue}
    (h : ResolvedBy env answer name resolved) (h' : ResolvedBy env answer name resolved') :
    resolved = resolved' := Except.ok.inj ((h ⟨0, []⟩).symm.trans (h' ⟨0, []⟩))

section Actions

variable {sname full : PyStr} {version action display next : PyValue} {input ps : Fields}

theorem entryD_settings_buildAction (key : String) :
    ((buildAction sname full version action input display next ps).entryD "settings").entryD key =
      (pyDict [("pieceName", .str full), ("pieceVersion", version), ("pieceType", py "OFFICIAL"),
        ("packageType", py "REGISTRY"), ("actionName", action), ("input", .dict input),
        ("inputUiInfo", .dict []), ("propertySettings", .dict ps),
        ("errorHandlingOptions", errorHandlingOptions)]).entryD key := by
  rw [buildAction, entryD_withNext (by decide)]
  rfl

/-- Steps that are the same have the same version and the same input. -/
theorem version_and_input_of_sameStep {sname' full' : PyStr}
    {version' action' display' next' : PyValue} {input' ps' : Fields}
    (h : SameStep (buildAction sname full version action input display next ps)
      (buildAction sname' full' version' action' input' display' next' ps')) :
    version = version' ∧ input = input' := by
  have hsettings := h.entryD_eq "settings" (by decide) (by decide)
  constructor
  · have hversion := congrArg (entryD · "pieceVersion") hsettings
    simp only [entryD_settings_buildAction] at hversion
    rw [entryD, entryD, entry_pyDict, entry_pyDict] at hversion
    exact hversion
  · have hinput := congrArg (entryD · "input") hsettings
    simp only [entryD_settings_buildAction] at hinput
    rw [entryD, entryD, entry_pyDict, entry_pyDict] at hinput
    exact PyValue.dict.inj hinput

end Actions

/-- **Two steps with the same piece** are compared by their settings. -/
theorem decided_piece {spec spec' : PyValue} {agree : Prop}
    (htype : (stepType spec).isStr (text "PIECE") = true)
    (htype' : (stepType spec').isStr (text "PIECE") = true)
    (hpiece : specPiece spec = specPiece spec')
    (hdisplay : spec.entry "display_name" = spec'.entry "display_name")
    (hsettings : ∀ name resolved settings settings', specPiece spec = .ok name →
      ResolvedBy env answer name resolved →
      pieceSettings env spec resolved.2 resolved.1 = .ok settings →
      pieceSettings env spec' resolved.2 resolved.1 = .ok settings' →
      (agree → settings = settings') ∧
        (settings.version = settings'.version → settings.input = settings'.input → agree)) :
    SpecPair.Decided env answer ⟨spec, spec', agree⟩ where
  agree h h' hl hl' hsame := by
    obtain ⟨name, resolved, settings, _, hname, hruns, hconf, -, rfl, -⟩ :=
      exists_of_runs_piece htype h
    obtain ⟨name', resolved', settings', _, hname', hruns', hconf', -, rfl, -⟩ :=
      exists_of_runs_piece htype' h'
    obtain rfl := Except.ok.inj (hname.symm.trans (hpiece.trans hname'))
    have hresolved := resolvedBy_of_runs hruns hl
    obtain rfl := hresolved.unique (resolvedBy_of_runs hruns' hl')
    obtain ⟨hversion, hinput⟩ := version_and_input_of_sameStep hsame
    exact (hsettings name resolved settings settings' hname hresolved hconf hconf').2 hversion
      hinput
  same hagree _ _ _ _ _ _ _ _ h h' hl hl' := by
    obtain ⟨name, resolved, settings, display, hname, hruns, hconf, hd, rfl, rfl⟩ :=
      exists_of_runs_piece htype h
    obtain ⟨name', resolved', settings', display', hname', hruns', hconf', hd', rfl, rfl⟩ :=
      exists_of_runs_piece htype' h'
    obtain rfl := Except.ok.inj (hname.symm.trans (hpiece.trans hname'))
    have hresolved := resolvedBy_of_runs hruns hl
    obtain rfl := hresolved.unique (resolvedBy_of_runs hruns' hl')
    obtain rfl := (hsettings name resolved settings settings' hname hresolved hconf hconf').1 hagree
    obtain ⟨-, rfl⟩ := getD_eq_ok_iff.1 hd
    obtain ⟨-, rfl⟩ := getD_eq_ok_iff.1 hd'
    rw [hdisplay]
    exact ⟨rfl, rfl⟩

/-- The loops of the two endpoints, from the last action to the first one. -/
theorem compare_chains {pairs : List SpecPair} (hpairs : ∀ p ∈ pairs, p.Decided env answer)
    {total total' stepNum stepNum' : ℕ}
    (hleft : (buildChainFrom env (buildStepFromSpec env) id total stepNum
      (pairs.map SpecPair.left)).Runs s l (.ok chain) t)
    (hright : (buildChainFrom env (buildStepFromSpec env) id total' stepNum'
      (pairs.map SpecPair.right)).Runs s l' (.ok chain') t')
    (hl : ∀ e ∈ l, AnsweredBy answer e) (hl' : ∀ e ∈ l', AnsweredBy answer e) :
    (SameTree chain chain' → ∀ p ∈ pairs, p.agree) ∧
      ((∀ p ∈ pairs, p.agree) → chain = chain' ∧ t = t') := by
  induction pairs generalizing stepNum stepNum' l l' chain chain' t t' with
  | nil =>
    obtain ⟨-, hchain, rfl⟩ := runs_pure_iff.1 hleft
    obtain ⟨-, hchain', rfl⟩ := runs_pure_iff.1 hright
    obtain rfl := Except.ok.inj hchain
    obtain rfl := Except.ok.inj hchain'
    exact ⟨fun _ _ h ↦ absurd h List.not_mem_nil, fun _ ↦ ⟨rfl, rfl⟩⟩
  | cons p pairs ih =>
    obtain ⟨hp, hpairs⟩ := List.forall_mem_cons.1 hpairs
    obtain ⟨l₁, l₂, rest, u, rfl, hrest, -, hstep⟩ := exists_of_runs_chain_cons hleft
    obtain ⟨k₁, k₂, rest', u', rfl, hrest', -, hstep'⟩ := exists_of_runs_chain_cons hright
    obtain ⟨hl₁, hl₂⟩ := List.forall_mem_append.1 hl
    obtain ⟨hk₁, hk₂⟩ := List.forall_mem_append.1 hl'
    obtain ⟨hagree, hsame⟩ := ih hpairs hrest hrest' hl₁ hk₁
    constructor
    · intro htree
      have hforest := (mirrored_of_built (built_of_buildStepFromSpec _ _ hstep)).1
      have hforest' := (mirrored_of_built (built_of_buildStepFromSpec _ _ hstep')).1
      obtain ⟨hfirst, htail⟩ := (sameTree_iff_of_forest hforest hforest').1 htree
      exact List.forall_mem_cons.2 ⟨hp.agree hstep hstep' hl₂ hk₂ hfirst, hagree htail⟩
    · intro hall
      obtain ⟨hfirst, hall⟩ := List.forall_mem_cons.1 hall
      obtain ⟨rfl, rfl⟩ := hsame hall
      exact hp.same hfirst hstep hstep' hl₂ hk₂

/-- **The chains are the same** exactly when each pair is built alike. -/
theorem sameTree_chains_iff {pairs : List SpecPair} (hpairs : ∀ p ∈ pairs, p.Decided env answer)
    (hleft : (buildActionChain env (.list (pairs.map SpecPair.left))).Runs s l (.ok chain) t)
    (hright : (buildActionChain env (.list (pairs.map SpecPair.right))).Runs s l' (.ok chain') t')
    (hl : ∀ e ∈ l, AnsweredBy answer e) (hl' : ∀ e ∈ l', AnsweredBy answer e) :
    SameTree chain chain' ↔ ∀ p ∈ pairs, p.agree := by
  rcases pairs with _ | ⟨p, pairs⟩
  · obtain ⟨-, hchain, -⟩ := runs_pure_iff.1 hleft
    obtain ⟨-, hchain', -⟩ := runs_pure_iff.1 hright
    obtain rfl := Except.ok.inj hchain
    obtain rfl := Except.ok.inj hchain'
    exact iff_of_true rfl fun _ h ↦ absurd h List.not_mem_nil
  · rw [List.map_cons, buildActionChain_list env (List.cons_ne_nil _ _)] at hleft hright
    obtain ⟨hagree, hsame⟩ := compare_chains hpairs hleft hright hl hl'
    refine ⟨hagree, fun h ↦ ?_⟩
    rw [(hsame h).1]
    rfl

end Pairs

end Siyadah
