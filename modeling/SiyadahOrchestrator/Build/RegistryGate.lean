import Mathlib.Tactic.FinCases
import SiyadahOrchestrator.Build.McpBuild

/-!
# The registry gate

Over MCP the registry is asked about each action of the list that uses a piece, when the action has
been resolved. The steps in the branches of a router or in the body of a loop are no actions of the
list, and the registry is not asked about them.

So the gate accepts the actions that `validateActionsAgainstRegistry` accepts exactly when it
refuses the request anyway, or no step inside the other actions would have been refused
(`gateComplete_iff`). A recipe has no such actions (`gateComplete_recipe`).
-/

namespace Siyadah

open Dialogue PyValue

/-! ### Actions that use a piece -/

/-- `spec.get("type", "PIECE") == "PIECE"`. -/
def IsPieceStep (spec : PyValue) : Prop := (stepType spec).isStr (text "PIECE") = true

instance : DecidablePred IsPieceStep := fun _ ↦ inferInstanceAs (Decidable (_ = true))

section Steps

variable {R : PyRuntime} {files : RegistryFiles} {a spec step : PyValue} {specs : List PyValue}

theorem validateAction_of_not_piece (h : ¬ IsPieceStep a) :
    validateActionAgainstRegistry R files a = .ok () := by
  have htype : (stepType a).isStr (text "PIECE") = false := by simpa [IsPieceStep] using h
  rw [validateActionAgainstRegistry]
  split
  · rfl
  · rw [htype]
    rfl

/-- What the registry is asked depends on a few entries of the action. -/
theorem validateAction_congr {b : PyValue} (ha : a.isDict = true) (hb : b.isDict = true)
    (hentry : ∀ key ∈ ["type", "piece", "piece_name", "pieceName", "action_name", "actionName",
      "settings", "input"], a.entry key = b.entry key) :
    validateActionAgainstRegistry R files a = validateActionAgainstRegistry R files b := by
  simp only [List.forall_mem_cons] at hentry
  obtain ⟨htype, hpiece, hpieceName, hname, haction, hactionName, hsettings, hinput, -⟩ := hentry
  simp only [validateActionAgainstRegistry, ha, hb, stepType, pieceAndAction, firstNamed,
    actionInput, entryD, List.map_cons, List.map_nil, htype, hpiece, hpieceName, hname, haction,
    hactionName, hsettings, hinput]

/-- What is shown to the registry is, for the registry, what goes into the chain. -/
theorem validateAction_chainSpec {r : ResolvedAction} {input : Fields} {shown : PyValue}
    (hshown : registryStep a r input = .ok shown) (hspec : chainSpec a r input = .ok spec) :
    validateActionAgainstRegistry R files shown = validateActionAgainstRegistry R files spec := by
  obtain ⟨actionName, haction, hshown⟩ := bind_eq_ok_iff.1 hshown
  obtain ⟨actionName', haction', hspec⟩ := bind_eq_ok_iff.1 hspec
  obtain ⟨display, -, hspec⟩ := bind_eq_ok_iff.1 hspec
  obtain rfl := Except.ok.inj (haction.symm.trans haction')
  obtain rfl := Except.ok.inj hshown
  obtain rfl := Except.ok.inj hspec
  refine validateAction_congr rfl rfl fun key hkey ↦ ?_
  rw [entry_pyDict, entry_pyDict]
  fin_cases hkey <;> rfl

theorem isPieceStep_chainSpec {r : ResolvedAction} {input : Fields}
    (h : chainSpec a r input = .ok spec) :
    IsPieceStep spec ∧ ∀ inner ∈ visitedLists spec, inner = [] := by
  obtain ⟨actionName, -, h⟩ := bind_eq_ok_iff.1 h
  obtain ⟨display, -, h⟩ := bind_eq_ok_iff.1 h
  obtain rfl := Except.ok.inj h
  refine ⟨?_, fun inner hinner ↦ ?_⟩
  · rw [IsPieceStep, stepType, entry_pyDict]
    rfl
  · have hnull : ∀ key ∈ "branches" :: stepListKeys, (pyDict [("type", py "PIECE"),
        ("piece", .str r.full), ("action_name", actionName), ("version", r.version),
        ("input", .dict input), ("display_name", display),
        ("property_settings", .dict r.propertySettings)]).entryD key = .null := by
      intro key hkey
      rw [entryD, entry_pyDict]
      fin_cases hkey <;> rfl
    obtain ⟨hbranches, hkeys⟩ := List.forall_mem_cons.1 hnull
    rcases List.mem_append.1 hinner with hinner | hinner
    · obtain ⟨key, hkey, rfl⟩ := List.mem_map.1 hinner
      rw [hkeys key hkey]
      rfl
    · rw [hbranches] at hinner
      exact absurd hinner List.not_mem_nil

/-! ### The code of a step -/

theorem lookup_liftField {input d : Fields} {key k : PyStr} (h : key ≠ k) :
    (liftField input d k).lookup key = d.lookup key := by
  rw [liftField]
  split
  · exact lookup_upsert_of_ne h
  · rfl

theorem entry_liftCode {key : String} (hcode : text key ≠ text "code")
    (hinput : text key ≠ text "code_input") : (liftCode a).entry key = a.entry key := by
  have hfields : (fieldsOf a).lookup (text key) = a.entry key := by
    cases a <;> rfl
  show (liftField _ (liftField _ _ _) _).lookup (text key) = _
  rw [lookup_liftField hinput, lookup_liftField hcode, hfields]

theorem visitedLists_liftCode : visitedLists (liftCode a) = visitedLists a := by
  have hkeys : ∀ key ∈ "branches" :: stepListKeys, (liftCode a).entryD key = a.entryD key := by
    intro key hkey
    rw [entryD, entryD, entry_liftCode]
    all_goals fin_cases hkey <;> decide
  obtain ⟨hbranches, hlists⟩ := List.forall_mem_cons.1 hkeys
  rw [visitedLists, visitedLists, hbranches]
  congr 1
  exact List.map_congr_left fun key hkey ↦ by rw [hlists key hkey]

/-! ### Steps in the tree -/

theorem mem_visitedLists_of_nested {inner : List PyValue} (h : inner ∈ nestedLists spec) :
    inner = [] ∨ inner ∈ visitedLists spec := by
  have hlist : ∀ key,
      ((spec.entry key).getD (.list [])).listItems = (spec.entryD key).listItems := by
    intro key
    rw [entryD]
    cases spec.entry key <;> rfl
  rw [nestedLists] at h
  split at h
  · obtain ⟨b, hb, rfl⟩ := List.mem_map.1 h
    rcases iterated_cases ((spec.entry "branches").getD (.list [])) with heq | hnone
    · refine .inr (List.mem_append_right _ (List.mem_map.2 ⟨b, ?_, ?_⟩))
      · rw [← hlist, ← heq]
        exact hb
      · rw [branchActions, entryD]
        cases b.entry "actions" <;> rfl
    · exact .inl (branchActions_of_not_dict (hnone b hb))
  · split at h
    · obtain rfl := List.mem_singleton.1 h
      refine .inr (List.mem_append_left _ (List.mem_map.2 ⟨"loop_actions", by decide, ?_⟩))
      exact (hlist "loop_actions").symm
    · exact absurd h List.not_mem_nil

/-- Every step that is built is visited. -/
theorem SpecWithin.visited (h : SpecWithin specs step) : Visited specs step := by
  obtain ⟨inner, hinner, hstep⟩ := h
  have hvisited : inner = [] ∨ Relation.ReflTransGen
      (fun l inner ↦ ∃ a ∈ l, inner ∈ visitedLists a) specs inner := by
    clear hstep
    induction hinner with
    | refl => exact .inr .refl
    | tail hwithin hnext ih =>
      obtain ⟨a, ha, hnested⟩ := hnext
      rcases ih with rfl | hpath
      · exact absurd ha List.not_mem_nil
      · exact (mem_visitedLists_of_nested hnested).imp_right fun h ↦ hpath.tail ⟨a, ha, h⟩
  rcases hvisited with rfl | hpath
  · exact absurd hstep List.not_mem_nil
  · exact ⟨inner, hpath, hstep⟩

end Steps

/-! ### The loop over the actions -/

section Loop

variable {env : BuilderEnv} {files : RegistryFiles} {cn : Fields} {a spec : PyValue}
  {as specs : List PyValue} {s t : BuilderState}
  {l : List (CatalogQuery × Except EngineError PyValue)}

/-- No action is looked at. -/
def unchecked (_ : PyValue) : Except EngineError Unit := .ok ()

/-- An action that uses a piece gives a step that uses one, with no lists inside; any other action
gives one that does not, with its own lists inside. -/
def ResolvedTo (a spec : PyValue) : Prop :=
  (IsPieceStep a ∧ IsPieceStep spec ∧ ∀ inner ∈ visitedLists spec, inner = []) ∨
    (¬ IsPieceStep a ∧ ¬ IsPieceStep spec ∧ visitedLists spec = visitedLists a)

/-- What a run for an action that uses a piece has gone through. -/
theorem runs_mcpPieceSpec_iff {check : PyValue → Except EngineError Unit} :
    (mcpPieceSpec env check cn a).Runs s l (.ok spec) t ↔
      ∃ piece r connId input shown, a.getD "piece" (py "") = .ok piece ∧ piece.truthy = true ∧
        (resolveActionSpec env a).Runs s l (.ok r) t ∧ ownConnection cn a r.short = .ok connId ∧
        keepOwnAuth connId r.input = .ok input ∧ registryStep a r input = .ok shown ∧
        chainSpec a r input = .ok spec ∧ check shown = .ok () := by
  constructor
  · intro h
    obtain ⟨piece, hpiece, h⟩ := runs_evalPy_bind_ok_iff.1 h
    split at h
    · exact absurd (runs_raise_iff.1 h).2.1 (by simp)
    · rename_i htruthy
      obtain ⟨l₁, l₂, r, u, rfl, hr, h⟩ := runs_bind_ok_iff.1 h
      obtain ⟨connId, hconn, h⟩ := runs_evalPy_bind_ok_iff.1 h
      obtain ⟨input, hinput, h⟩ := runs_evalPy_bind_ok_iff.1 h
      obtain ⟨shown, hshown, h⟩ := runs_evalPy_bind_ok_iff.1 h
      rcases runs_lift_bind_iff.1 h with ⟨_, hcheck, h⟩ | ⟨e, -, -, he, -⟩
      · obtain ⟨rfl, hspec, rfl⟩ := runs_evalPy_ok_iff.1 h
        rw [List.append_nil]
        exact ⟨piece, r, connId, input, shown, hpiece, by simpa using htruthy, hr, hconn, hinput,
          hshown, hspec, hcheck⟩
      · exact absurd he (by simp)
  · rintro ⟨piece, r, connId, input, shown, hpiece, htruthy, hr, hconn, hinput, hshown, hspec,
      hcheck⟩
    refine runs_evalPy_bind_ok_iff.2 ⟨piece, hpiece, ?_⟩
    rw [htruthy]
    refine runs_bind_ok_iff.2 ⟨l, [], r, t, (List.append_nil l).symm, hr, ?_⟩
    refine runs_evalPy_bind_ok_iff.2 ⟨connId, hconn, runs_evalPy_bind_ok_iff.2 ⟨input, hinput, ?_⟩⟩
    refine runs_evalPy_bind_ok_iff.2 ⟨shown, hshown, runs_lift_bind_iff.2 (.inl ⟨(), hcheck, ?_⟩)⟩
    exact runs_evalPy_ok_iff.2 ⟨rfl, hspec, rfl⟩

/-- An action that uses no piece goes into the chain with the lists inside it as they are. -/
theorem runs_mcpSpec_of_not_piece {check : PyValue → Except EngineError Unit}
    (ha : ¬ IsPieceStep a) (h : (mcpSpec env check cn a).Runs s l (.ok spec) t) :
    (∀ check', (mcpSpec env check' cn a).Runs s l (.ok spec) t) ∧ ¬ IsPieceStep spec ∧
      visitedLists spec = visitedLists a := by
  obtain ⟨stype, hstype, h⟩ := runs_evalPy_bind_ok_iff.1 h
  obtain ⟨hdict, rfl⟩ := getD_eq_ok_iff.1 hstype
  change ¬ (stepType a).isStr (text "PIECE") = true at ha
  change Runs (if (stepType a).isStr (text "PIECE") then _ else _) _ _ _ _ at h
  rw [if_neg ha] at h
  have hrun : ∀ check', (if (stepType a).isStr (text "CODE") = true then pure (liftCode a)
      else pure a : BuilderM PyValue).Runs s l (.ok spec) t →
        (mcpSpec env check' cn a).Runs s l (.ok spec) t := by
    intro check' h
    refine runs_evalPy_bind_ok_iff.2 ⟨stepType a, getD_eq_ok_iff.2 ⟨hdict, rfl⟩, ?_⟩
    rwa [if_neg ha]
  refine ⟨fun check' ↦ hrun check' h, ?_⟩
  split at h
  · rename_i hcode
    obtain ⟨-, hspec, -⟩ := runs_pure_iff.1 h
    obtain rfl := Except.ok.inj hspec
    refine ⟨?_, visitedLists_liftCode⟩
    rwa [IsPieceStep, stepType, entry_liftCode (by decide) (by decide)]
  · obtain ⟨-, hspec, -⟩ := runs_pure_iff.1 h
    obtain rfl := Except.ok.inj hspec
    exact ⟨ha, rfl⟩

theorem runs_mcpSpec_of_piece {check : PyValue → Except EngineError Unit} (ha : IsPieceStep a) :
    (mcpSpec env check cn a).Runs s l (.ok spec) t ↔
      a.isDict = true ∧ (mcpPieceSpec env check cn a).Runs s l (.ok spec) t := by
  rw [mcpSpec, runs_evalPy_bind_ok_iff]
  change (stepType a).isStr (text "PIECE") = true at ha
  constructor
  · rintro ⟨stype, hstype, h⟩
    obtain ⟨hdict, rfl⟩ := getD_eq_ok_iff.1 hstype
    change Runs (if (stepType a).isStr (text "PIECE") then _ else _) _ _ _ _ at h
    rw [if_pos ha] at h
    exact ⟨hdict, h⟩
  · rintro ⟨hdict, h⟩
    refine ⟨stepType a, getD_eq_ok_iff.2 ⟨hdict, rfl⟩, ?_⟩
    rwa [if_pos ha]

/-- **One action.** The gate lets through what the registry accepts. -/
theorem runs_mcpSpec_iff :
    (mcpSpec env (validateActionAgainstRegistry env.runtime files) cn a).Runs s l (.ok spec) t ↔
      (mcpSpec env unchecked cn a).Runs s l (.ok spec) t ∧
        validateActionAgainstRegistry env.runtime files spec = .ok () := by
  by_cases ha : IsPieceStep a
  · rw [runs_mcpSpec_of_piece ha, runs_mcpSpec_of_piece ha, and_assoc]
    refine and_congr_right fun _ ↦ ?_
    rw [runs_mcpPieceSpec_iff, runs_mcpPieceSpec_iff]
    constructor
    · rintro ⟨piece, r, connId, input, shown, hpiece, htruthy, hr, hconn, hinput, hshown, hspec,
        hcheck⟩
      rw [validateAction_chainSpec hshown hspec] at hcheck
      exact ⟨⟨piece, r, connId, input, shown, hpiece, htruthy, hr, hconn, hinput, hshown, hspec,
        rfl⟩, hcheck⟩
    · rintro ⟨⟨piece, r, connId, input, shown, hpiece, htruthy, hr, hconn, hinput, hshown, hspec,
        -⟩, hcheck⟩
      rw [← validateAction_chainSpec hshown hspec] at hcheck
      exact ⟨piece, r, connId, input, shown, hpiece, htruthy, hr, hconn, hinput, hshown, hspec,
        hcheck⟩
  · constructor
    · intro h
      obtain ⟨hrun, hspec, -⟩ := runs_mcpSpec_of_not_piece ha h
      exact ⟨hrun unchecked, validateAction_of_not_piece hspec⟩
    · rintro ⟨h, -⟩
      exact (runs_mcpSpec_of_not_piece ha h).1 _

theorem resolvedTo_of_runs (h : (mcpSpec env unchecked cn a).Runs s l (.ok spec) t) :
    ResolvedTo a spec := by
  by_cases ha : IsPieceStep a
  · obtain ⟨-, h⟩ := (runs_mcpSpec_of_piece ha).1 h
    obtain ⟨piece, r, connId, input, shown, -, -, -, -, -, -, hspec, -⟩ := runs_mcpPieceSpec_iff.1 h
    exact .inl ⟨ha, isPieceStep_chainSpec hspec⟩
  · exact .inr ⟨ha, (runs_mcpSpec_of_not_piece ha h).2⟩

/-- **The loop.** The gate lets through the lists each of whose steps the registry accepts. -/
theorem runs_mcpSpecs_iff :
    (mcpSpecs env (validateActionAgainstRegistry env.runtime files) cn as).Runs s l (.ok specs)
        t ↔
      (mcpSpecs env unchecked cn as).Runs s l (.ok specs) t ∧
        ∀ spec ∈ specs, validateActionAgainstRegistry env.runtime files spec = .ok () := by
  induction as generalizing s l specs with
  | nil =>
    refine (and_iff_left_of_imp fun h ↦ ?_).symm
    obtain ⟨-, hspecs, -⟩ := runs_pure_iff.1 h
    obtain rfl := Except.ok.inj hspecs
    exact fun spec hspec ↦ absurd hspec List.not_mem_nil
  | cons a as ih =>
    constructor
    · intro h
      obtain ⟨l₁, l₂, spec, u, rfl, hfirst, h⟩ := runs_bind_ok_iff.1 h
      obtain ⟨k₁, k₂, rest, v, rfl, hrest, h⟩ := runs_bind_ok_iff.1 h
      obtain ⟨rfl, hspecs, rfl⟩ := runs_pure_iff.1 h
      obtain rfl := Except.ok.inj hspecs
      obtain ⟨hfirst, hspec⟩ := runs_mcpSpec_iff.1 hfirst
      obtain ⟨hrest, hall⟩ := ih.1 hrest
      refine ⟨?_, List.forall_mem_cons.2 ⟨hspec, hall⟩⟩
      exact runs_bind_ok_iff.2 ⟨l₁, _, spec, u, rfl, hfirst, runs_bind_ok_iff.2
        ⟨k₁, [], rest, _, rfl, hrest, runs_pure_iff.2 ⟨rfl, rfl, rfl⟩⟩⟩
    · rintro ⟨h, hall⟩
      obtain ⟨l₁, l₂, spec, u, rfl, hfirst, h⟩ := runs_bind_ok_iff.1 h
      obtain ⟨k₁, k₂, rest, v, rfl, hrest, h⟩ := runs_bind_ok_iff.1 h
      obtain ⟨rfl, hspecs, rfl⟩ := runs_pure_iff.1 h
      obtain rfl := Except.ok.inj hspecs
      obtain ⟨hspec, hall⟩ := List.forall_mem_cons.1 hall
      exact runs_bind_ok_iff.2 ⟨l₁, _, spec, u, rfl, runs_mcpSpec_iff.2 ⟨hfirst, hspec⟩,
        runs_bind_ok_iff.2 ⟨k₁, [], rest, _, rfl, ih.2 ⟨hrest, hall⟩,
          runs_pure_iff.2 ⟨rfl, rfl, rfl⟩⟩⟩

theorem forall₂_resolvedTo (h : (mcpSpecs env unchecked cn as).Runs s l (.ok specs) t) :
    List.Forall₂ ResolvedTo as specs := by
  induction as generalizing s l specs t with
  | nil =>
    obtain ⟨-, hspecs, -⟩ := runs_pure_iff.1 h
    obtain rfl := Except.ok.inj hspecs
    exact .nil
  | cons a as ih =>
    obtain ⟨l₁, l₂, spec, u, rfl, hfirst, h⟩ := runs_bind_ok_iff.1 h
    obtain ⟨k₁, k₂, rest, v, rfl, hrest, h⟩ := runs_bind_ok_iff.1 h
    obtain ⟨-, hspecs, -⟩ := runs_pure_iff.1 h
    obtain rfl := Except.ok.inj hspecs
    exact .cons (resolvedTo_of_runs hfirst) (ih hrest)

end Loop

/-! ### The gate -/

section Gate

variable (env : BuilderEnv) (files : RegistryFiles) (cn : Fields) (pid : PyStr)
  (tool : McpBuildTool) (p : PyValue) (s : BuilderState)
  (k : List (CatalogQuery × Except EngineError PyValue))

/-- With these replies the request, as it is gone through, resolves to `r`. -/
def ResolvesTo (check : PyValue → Except EngineError Unit) (p' : PyValue) (r : McpResolved) :
    Prop :=
  buildParameters env.runtime files tool p = .ok p' ∧
    ∃ t, (mcpResolve env check cn p').Runs s k (.ok r) t

/-- The gate is complete, as far as this request and these replies show. -/
structure GateComplete : Prop where
  /-- If `golden_build` is reached, every step of the tree that uses a piece was accepted. -/
  reached : ∀ p' r k' x t, ResolvesTo env files cn tool p s k unchecked p' r →
    (mcpBuildFlow env cn files pid tool p).Runs s (k.map (Prod.map .catalog id) ++ k') x t →
    (∃ name trigger reply, (.goldenBuild pid name trigger, reply) ∈ k') →
    ∀ step, SpecWithin r.specs step → IsPieceStep step →
      validateActionAgainstRegistry env.runtime files step = .ok ()
  /-- The gate lets through the lists that the walk over the tree accepts. -/
  exact : ∀ p' r, ResolvesTo env files cn tool p s k unchecked p' r →
    (ResolvesTo env files cn tool p s k (validateActionAgainstRegistry env.runtime files) p' r ↔
      validateActionsAgainstRegistry env.runtime files (.list r.specs) = .ok ())

variable {env files cn pid tool p s k} {p' : PyValue} {r : McpResolved} {t : BuilderState}

theorem runs_mcpResolve_iff {check : PyValue → Except EngineError Unit} :
    (mcpResolve env check cn p').Runs s k (.ok r) t ↔
      ∃ k₁ k₂ u items, k = k₁ ++ k₂ ∧
        (mcpTriggerPiece env (triggerOf p')).Runs s k₁ (.ok (r.full, r.version)) u ∧
        (actionsOf p').items = .ok items ∧
        (mcpSpecs env check cn (items.map Subtype.val)).Runs u k₂ (.ok r.specs) t := by
  constructor
  · intro h
    obtain ⟨k₁, k₂, trigger, u, rfl, htrigger, h⟩ := runs_bind_ok_iff.1 h
    obtain ⟨items, hitems, h⟩ := runs_evalPy_bind_ok_iff.1 h
    obtain ⟨k₃, k₄, specs, v, rfl, hspecs, h⟩ := runs_bind_ok_iff.1 h
    obtain ⟨rfl, hr, rfl⟩ := runs_pure_iff.1 h
    obtain rfl := Except.ok.inj hr
    exact ⟨k₁, k₃, u, items, by rw [List.append_nil], htrigger, hitems, hspecs⟩
  · rintro ⟨k₁, k₂, u, items, rfl, htrigger, hitems, hspecs⟩
    refine runs_bind_ok_iff.2 ⟨k₁, k₂, _, u, rfl, htrigger, ?_⟩
    refine runs_evalPy_bind_ok_iff.2 ⟨items, hitems, ?_⟩
    exact runs_bind_ok_iff.2 ⟨k₂, [], r.specs, t, (List.append_nil k₂).symm, hspecs,
      runs_pure_iff.2 ⟨rfl, rfl, rfl⟩⟩

/-- The gate lets through the lists each of whose steps the registry accepts. -/
theorem resolvesTo_iff :
    ResolvesTo env files cn tool p s k (validateActionAgainstRegistry env.runtime files) p' r ↔
      ResolvesTo env files cn tool p s k unchecked p' r ∧
        ∀ spec ∈ r.specs, validateActionAgainstRegistry env.runtime files spec = .ok () := by
  constructor
  · rintro ⟨hp, t, h⟩
    obtain ⟨k₁, k₂, u, items, rfl, htrigger, hitems, hspecs⟩ := runs_mcpResolve_iff.1 h
    obtain ⟨hspecs, hall⟩ := runs_mcpSpecs_iff.1 hspecs
    exact ⟨⟨hp, t, runs_mcpResolve_iff.2 ⟨k₁, k₂, u, items, rfl, htrigger, hitems, hspecs⟩⟩, hall⟩
  · rintro ⟨⟨hp, t, h⟩, hall⟩
    obtain ⟨k₁, k₂, u, items, rfl, htrigger, hitems, hspecs⟩ := runs_mcpResolve_iff.1 h
    have hspecs := runs_mcpSpecs_iff.2 ⟨hspecs, hall⟩
    exact ⟨hp, t, runs_mcpResolve_iff.2 ⟨k₁, k₂, u, items, rfl, htrigger, hitems, hspecs⟩⟩

/-- What is inside the steps of the list is what is inside the actions that use no piece. -/
theorem forall_inside_iff (h : ResolvesTo env files cn tool p s k unchecked p' r)
    {P : PyValue → Prop} :
    (∀ spec ∈ r.specs, ∀ step, Inside spec step → P step) ↔
      ∀ a ∈ (actionsOf p').iterated, ¬ IsPieceStep a → ∀ step, Inside a step → P step := by
  obtain ⟨-, t, h⟩ := h
  obtain ⟨k₁, k₂, u, items, rfl, -, hitems, hspecs⟩ := runs_mcpResolve_iff.1 h
  rw [map_val_of_items hitems] at hspecs
  have hresolved := forall₂_resolvedTo hspecs
  generalize (actionsOf p').iterated = actions at hresolved
  generalize r.specs = specs at hresolved
  induction hresolved with
  | nil =>
    exact iff_of_true (fun _ h ↦ absurd h List.not_mem_nil) fun _ h ↦ absurd h List.not_mem_nil
  | @cons a spec actions specs hfirst _ ih =>
    rw [List.forall_mem_cons, List.forall_mem_cons]
    refine and_congr ?_ ih
    rcases hfirst with ⟨ha, -, hnil⟩ | ⟨ha, -, hlists⟩
    · refine iff_of_true ?_ fun h ↦ absurd ha h
      rintro step ⟨inner, hinner, hstep⟩
      rw [hnil inner hinner] at hstep
      exact absurd hstep not_visited_nil
    · rw [imp_iff_right ha]
      simp only [Inside, hlists]

/-- A run that reaches `golden_build` has gone through the gate before. -/
theorem exists_resolvesTo_of_reached {l : List (McpBuildQuery × Except EngineError PyValue)}
    {x : Except EngineError PyValue} (hrun : (mcpBuildFlow env cn files pid tool p).Runs s l x t)
    (hreached : ∃ name trigger reply, (.goldenBuild pid name trigger, reply) ∈ l) :
    ∃ k k' p' r, l = k.map (Prod.map .catalog id) ++ k' ∧
      (∃ name trigger reply, (.goldenBuild pid name trigger, reply) ∈ k') ∧
      ResolvesTo env files cn tool p s k (validateActionAgainstRegistry env.runtime files) p'
        r := by
  obtain ⟨name, trigger, reply, hmem⟩ := hreached
  have hcatalog : ∀ k : List (CatalogQuery × Except EngineError PyValue),
      (McpBuildQuery.goldenBuild pid name trigger, reply) ∉ k.map (Prod.map .catalog id) := by
    intro k hk
    obtain ⟨e, -, he⟩ := List.mem_map.1 hk
    exact nomatch (Prod.mk.inj he).1
  rcases runs_lift_bind_iff.1 hrun with ⟨p', hp, hrun⟩ | ⟨_, -, rfl, -⟩
  · rcases runs_bind_iff.1 hrun with ⟨l₁, l₂, r, v, rfl, hresolve, -⟩ | ⟨_, -, hresolve⟩
    · obtain ⟨k, rfl, hgate⟩ := runs_rename_iff.1 hresolve
      have hrest := (List.mem_append.1 hmem).resolve_left (hcatalog k)
      exact ⟨k, l₂, p', r, rfl, ⟨name, trigger, reply, hrest⟩, hp, v, hgate⟩
    · obtain ⟨k, rfl, -⟩ := runs_rename_iff.1 hresolve
      exact absurd hmem (hcatalog k)
  · exact absurd hmem List.not_mem_nil

theorem catalog_injective : Function.Injective McpBuildQuery.catalog := by
  intro q q' h
  exact McpBuildQuery.catalog.inj h

/-- The replies decide how a request resolves. -/
theorem ResolvesTo.unique {k₁ : List (CatalogQuery × Except EngineError PyValue)}
    {k' k₁' : List (McpBuildQuery × Except EngineError PyValue)} {p₁ : PyValue} {r₁ : McpResolved}
    {check : PyValue → Except EngineError Unit}
    (h : ResolvesTo env files cn tool p s k check p' r)
    (h₁ : ResolvesTo env files cn tool p s k₁ check p₁ r₁)
    (heq : k.map (Prod.map .catalog id) ++ k' = k₁.map (Prod.map .catalog id) ++ k₁') :
    k = k₁ ∧ p' = p₁ ∧ r = r₁ := by
  obtain ⟨hp, t, hrun⟩ := h
  obtain ⟨hp₁, t₁, hrun₁⟩ := h₁
  obtain rfl := Except.ok.inj (hp.symm.trans hp₁)
  obtain ⟨hk, -, hr, -⟩ := (runs_rename_iff.2 ⟨k, rfl, hrun⟩).unique_of_append
    (runs_rename_iff.2 ⟨k₁, rfl, hrun₁⟩) heq
  exact ⟨(catalog_injective.prodMap Function.injective_id).list_map hk, rfl, Except.ok.inj hr⟩

/-- So the list that the request resolves to has passed the gate. -/
theorem resolvesTo_of_reached {k' : List (McpBuildQuery × Except EngineError PyValue)}
    {x : Except EngineError PyValue} (h : ResolvesTo env files cn tool p s k unchecked p' r)
    (hrun : (mcpBuildFlow env cn files pid tool p).Runs s
      (k.map (Prod.map .catalog id) ++ k') x t)
    (hreached : ∃ name trigger reply, (.goldenBuild pid name trigger, reply) ∈ k') :
    ResolvesTo env files cn tool p s k (validateActionAgainstRegistry env.runtime files) p' r := by
  obtain ⟨name, trigger, reply, hmem⟩ := hreached
  obtain ⟨k₁, k₁', p₁, r₁, heq, -, hgate⟩ := exists_resolvesTo_of_reached hrun
    ⟨name, trigger, reply, List.mem_append_right _ hmem⟩
  obtain ⟨rfl, rfl, rfl⟩ := h.unique (resolvesTo_iff.1 hgate).1 heq
  exact hgate

/-- The walk over the list looks at the steps of the list and at what is inside them. -/
theorem validateActions_list_iff {specs : List PyValue} :
    validateActionsAgainstRegistry env.runtime files (.list specs) = .ok () ↔
      (∀ spec ∈ specs, validateActionAgainstRegistry env.runtime files spec = .ok ()) ∧
        ∀ spec ∈ specs, ∀ step, Inside spec step →
          validateActionAgainstRegistry env.runtime files step = .ok () := by
  rw [validateActions_eq_ok_iff]
  show (∀ step, Visited specs step → _) ↔ _
  simp only [visited_iff]
  constructor
  · exact fun h ↦ ⟨fun spec hspec ↦ h spec (.inl hspec),
      fun spec hspec step hstep ↦ h step (.inr ⟨spec, hspec, hstep⟩)⟩
  · rintro ⟨hlist, hinside⟩ step (hstep | ⟨spec, hspec, hstep⟩)
    · exact hlist step hstep
    · exact hinside spec hspec step hstep

theorem gateComplete_of_inside (h : ∀ p' r, ResolvesTo env files cn tool p s k unchecked p' r →
    (∃ spec ∈ r.specs, validateActionAgainstRegistry env.runtime files spec ≠ .ok ()) ∨
      ∀ a ∈ (actionsOf p').iterated, ¬ IsPieceStep a → ∀ step, Inside a step →
        validateActionAgainstRegistry env.runtime files step = .ok ()) :
    GateComplete env files cn pid tool p s k := by
  have hexact : ∀ p' r, ResolvesTo env files cn tool p s k unchecked p' r →
      (ResolvesTo env files cn tool p s k (validateActionAgainstRegistry env.runtime files) p' r ↔
        validateActionsAgainstRegistry env.runtime files (.list r.specs) = .ok ()) := by
    intro p' r hr
    rw [resolvesTo_iff, validateActions_list_iff, and_iff_right hr]
    rcases h p' r hr with ⟨spec, hspec, hrefused⟩ | hinside
    · exact iff_of_false (fun hall ↦ hrefused (hall spec hspec))
        fun hall ↦ hrefused (hall.1 spec hspec)
    · exact (and_iff_left ((forall_inside_iff hr).2 hinside)).symm
  refine ⟨fun p' r k' x t hr hrun hreached step hstep _ ↦ ?_, hexact⟩
  have hall := (hexact p' r hr).1 (resolvesTo_of_reached hr hrun hreached)
  exact (validateActions_eq_ok_iff _).1 hall step hstep.visited

/-- **The gate is complete** exactly when each request that resolves has an action of the list
that the registry refuses, or no step inside the other actions that it would refuse. -/
theorem gateComplete_iff : GateComplete env files cn pid tool p s k ↔
    ∀ p' r, ResolvesTo env files cn tool p s k unchecked p' r →
      (∃ spec ∈ r.specs, validateActionAgainstRegistry env.runtime files spec ≠ .ok ()) ∨
        ∀ a ∈ (actionsOf p').iterated, ¬ IsPieceStep a → ∀ step, Inside a step →
          validateActionAgainstRegistry env.runtime files step = .ok () := by
  refine ⟨fun h p' r hr ↦ ?_, gateComplete_of_inside⟩
  by_cases hlist : ∀ spec ∈ r.specs,
      validateActionAgainstRegistry env.runtime files spec = .ok ()
  · refine .inr ((forall_inside_iff hr).1 ?_)
    exact (validateActions_list_iff.1 ((h.exact p' r hr).1 (resolvesTo_iff.2 ⟨hr, hlist⟩))).2
  · push Not at hlist
    exact .inl hlist

/-- The actions of a recipe all use a piece. -/
theorem isPieceStep_of_recipe (h : buildParameters env.runtime files .buildRecipeFlow p = .ok p') :
    ∀ a ∈ (actionsOf p').iterated, IsPieceStep a := by
  obtain ⟨recipe, -, h⟩ := bind_eq_ok_iff.1 h
  obtain ⟨config, -, h⟩ := bind_eq_ok_iff.1 h
  obtain ⟨built, hbuilt, h⟩ := bind_eq_ok_iff.1 h
  obtain ⟨ids, -, h⟩ := bind_eq_ok_iff.1 h
  obtain rfl := Except.ok.inj h
  unfold buildRecipe at hbuilt
  split at hbuilt
  · split at hbuilt
    · rename_i fields _
      obtain ⟨_, -, hbuilt⟩ := bind_eq_ok_iff.1 hbuilt
      obtain ⟨columns, -, hbuilt⟩ := bind_eq_ok_iff.1 hbuilt
      obtain ⟨_, -, hbuilt⟩ := bind_eq_ok_iff.1 hbuilt
      have hactions : built.entryD "actions" = .list (recipeActions fields columns) := by
        obtain rfl := Except.ok.inj hbuilt
        rw [entryD, entry_pyDict]
        rfl
      have hparameters : actionsOf (pyDict [("display_name", built.entryD "display_name"),
          ("trigger", built.entryD "trigger"), ("actions", built.entryD "actions"),
          ("connection_ids", ids)]) = .list (recipeActions fields columns) := by
        rw [actionsOf, entryD, entry_pyDict]
        show (built.entryD "actions").orElse _ = _
        rw [hactions]
        rfl
      rw [hparameters]
      show ∀ a ∈ recipeActions fields columns, IsPieceStep a
      simp only [recipeActions, List.forall_mem_cons]
      exact ⟨rfl, rfl, fun a ha ↦ absurd ha List.not_mem_nil⟩
    · exact absurd hbuilt (by simp)
  · exact absurd hbuilt (by simp)

/-- So the gate is complete for every recipe. -/
theorem gateComplete_recipe : GateComplete env files cn pid .buildRecipeFlow p s k := by
  refine gateComplete_of_inside fun p' r hr ↦ .inr fun a ha hnot ↦ ?_
  exact absurd (isPieceStep_of_recipe hr.1 a ha) hnot

end Gate

/-! ### A router with a step that the registry refuses -/

/-- The environment of the sample. -/
def gateEnv : BuilderEnv := ⟨plainRuntime, text "conn-gmail", text "conn-sheets"⟩

/-- A registry with one action, which must be told whom to write to. -/
def gmailRegistry : RegistryFiles where
  path := text "registry"
  records := some [pyDict [("pieceName", py "@activepieces/piece-gmail"),
    ("actions", pyDict [("send_email", pyDict [("required_fields", .list [py "receiver"])])])]]

/-- A step that sends a message to nobody. -/
def blankMail : PyValue := pyDict [("type", py "PIECE"), ("piece", py "gmail"),
  ("action_name", py "send_email"), ("input", .dict [])]

/-- A router with that step in its only branch. -/
def mailRouter : PyValue :=
  pyDict [("type", py "ROUTER"), ("branches", .list [pyDict [("actions", .list [blankMail])]])]

def routerRequest : PyValue := pyDict [("actions", .list [mailRouter])]

/-- What ActivePieces answers to every lookup. -/
def sendEmailSchema : PyValue :=
  pyDict [("version", py "0.12.1"), ("actions", pyDict [("send_email", .dict [])])]

/-- The lookups for the trigger. -/
def triggerReplies : List (CatalogQuery × Except EngineError PyValue) :=
  [(.schema (text "@activepieces/piece-webhook"), .ok sendEmailSchema)]

/-- The settings of the step: it gets the default connection, and no receiver. -/
def blankSettings : PieceSettings where
  version := py "~0.12.1"
  action := py "send_email"
  input := [(text "auth", .str (connectionRef (text "conn-gmail")))]
  propertySettings := []
  schemaLoaded := true

theorem runs_mailChain : ∃ node t, (buildActionChain gateEnv (.list [blankMail])).Runs s
    [(.schema (text "gmail"), .ok sendEmailSchema)] (.ok node) t := by
  have hend : (buildChainFrom gateEnv (buildStepFromSpec gateEnv) id 1 2 []).Runs s [] (.ok .null)
      s := runs_pure_iff.2 ⟨rfl, rfl, rfl⟩
  have hne : text "gmail" ≠ [] := by decide
  have hsettings : pieceSettings gateEnv blankMail sendEmailSchema (text "gmail") =
      .ok blankSettings := rfl
  have htype : (stepType blankMail).isStr (text "PIECE") = true := by decide
  rw [buildActionChain_list gateEnv (List.cons_ne_nil _ _)]
  exact ⟨_, _, runs_chain_cons hend (runs_buildStepFromSpec_piece rfl hne
    (fun s ↦ runs_autoResolvePiece rfl rfl) hsettings rfl htype) rfl⟩

theorem runs_mailRouter : ∃ node t, (buildStepFromSpec gateEnv mailRouter .null).Runs s
    [(.schema (text "gmail"), .ok sendEmailSchema)] (.ok node) t := by
  obtain ⟨node, t, hchain⟩ := runs_mailChain (s := s.reported
    (structureReport (stepName s.counter) "ROUTER" (py "Router") [("branches_count", .int 1)]))
  refine ⟨buildRouterStep (stepName s.counter) (py "Router") [conditionBranch (py "Branch") []]
    [node] .null, t, ?_⟩
  rw [buildStepFromSpec]
  refine runs_evalPy_bind_ok_iff.2 ⟨py "ROUTER", rfl, runs_nextNumber_bind_iff.2 ?_⟩
  rw [if_neg (by decide), if_neg (by decide), if_pos (by decide)]
  refine runs_evalPy_bind_ok_iff.2 ⟨_, rfl, runs_evalPy_bind_ok_iff.2 ⟨py "Router", rfl, ?_⟩⟩
  refine runs_report_bind_iff.2 (runs_evalPy_bind_ok_iff.2 ⟨_, rfl, ?_⟩)
  -- the only branch has no conditions, and the chain of the step
  refine runs_bind_ok_iff.2 ⟨_, [], [(conditionBranch (py "Branch") [], node)], t,
    (List.append_nil _).symm, ?_, runs_pure_iff.2 ⟨rfl, rfl, rfl⟩⟩
  refine runs_evalPy_bind_ok_iff.2 ⟨conditionBranch (py "Branch") [], rfl, ?_⟩
  exact runs_bind_ok_iff.2 ⟨_, [], node, t, (List.append_nil _).symm, hchain, rfl, rfl⟩

theorem resolvesTo_mailRouter : ResolvesTo gateEnv gmailRegistry [] .buildDynamicFlow routerRequest
    ⟨1, []⟩ triggerReplies unchecked routerRequest
    ⟨text "@activepieces/piece-webhook", py "~0.12.1", [mailRouter]⟩ :=
  ⟨rfl, ⟨1, []⟩, _, _, rfl, rfl, rfl⟩

theorem blankMail_refused :
    validateActionAgainstRegistry plainRuntime gmailRegistry blankMail ≠ .ok () := by
  intro h
  exact absurd (congrArg Except.isOk h) (by decide +kernel)

/-- The registry refuses the step in the branch, and `golden_build` is reached with it. -/
theorem not_gateComplete_mailRouter : ¬ GateComplete gateEnv gmailRegistry [] (text "p1")
    .buildDynamicFlow routerRequest ⟨1, []⟩ triggerReplies := by
  intro h
  obtain ⟨node, t, hrouter⟩ := runs_mailRouter (s := ⟨1, []⟩)
  have hend : (buildChainFrom gateEnv (buildStepFromSpec gateEnv) id 1 2 []).Runs ⟨1, []⟩ []
      (.ok .null) ⟨1, []⟩ := runs_pure_iff.2 ⟨rfl, rfl, rfl⟩
  have hchain : (buildActionChain gateEnv (.list [mailRouter])).Runs ⟨1, []⟩
      [(.schema (text "gmail"), .ok sendEmailSchema)] (.ok node) t := by
    rw [buildActionChain_list gateEnv (List.cons_ne_nil _ _)]
    exact runs_chain_cons hend hrouter rfl
  -- the actions have passed the gate, and the chain is built
  have hgate : ResolvesTo gateEnv gmailRegistry [] .buildDynamicFlow routerRequest ⟨1, []⟩
      triggerReplies (validateActionAgainstRegistry plainRuntime gmailRegistry) routerRequest
      ⟨text "@activepieces/piece-webhook", py "~0.12.1", [mailRouter]⟩ :=
    resolvesTo_iff.2 ⟨resolvesTo_mailRouter, List.forall_mem_singleton.2
      (validateAction_of_not_piece (by decide))⟩
  obtain ⟨-, u, hgate⟩ := hgate
  let trigger := buildTrigger (text "@activepieces/piece-webhook") (py "~0.12.1")
    (py "catch_webhook") (pyDict [("authType", py "none")]) (py "Trigger") node
  have htrigger : (mcpTrigger gateEnv routerRequest ⟨text "@activepieces/piece-webhook",
      py "~0.12.1", [mailRouter]⟩).Runs u [(.schema (text "gmail"), .ok sendEmailSchema)]
      (.ok trigger) t := by
    refine runs_setState_bind_iff.2 (runs_bind_ok_iff.2 ⟨_, [], node, t, rfl, hchain, ?_⟩)
    refine runs_evalPy_bind_ok_iff.2 ⟨_, rfl, runs_evalPy_bind_ok_iff.2 ⟨_, rfl, ?_⟩⟩
    exact runs_pure_iff.2 ⟨rfl, rfl, rfl⟩
  have hrun : (mcpBuildFlow gateEnv [] gmailRegistry (text "p1") .buildDynamicFlow
      routerRequest).Runs ⟨1, []⟩ (triggerReplies.map (Prod.map .catalog id) ++
        [(.catalog (.schema (text "gmail")), .ok sendEmailSchema),
          (.goldenBuild (text "p1") (py "سيادة — أتمتة مخصصة") trigger, .ok .null)])
        (.ok .null) t := by
    refine runs_lift_bind_iff.2 (.inl ⟨routerRequest, rfl, ?_⟩)
    refine runs_bind_ok_iff.2 ⟨_, _, _, u, rfl, runs_rename_iff.2 ⟨_, rfl, hgate⟩, ?_⟩
    refine runs_bind_ok_iff.2 ⟨[_], [_], trigger, t, rfl,
      runs_rename_iff.2 ⟨_, rfl, htrigger⟩, ?_⟩
    exact ⟨_, _, rfl, rfl, rfl⟩
  have hbranch : SpecWithin [mailRouter] blankMail :=
    ⟨[blankMail], .single ⟨mailRouter, List.mem_cons_self, List.mem_cons_self⟩, List.mem_cons_self⟩
  exact blankMail_refused
    (h.reached _ _ _ _ _ resolvesTo_mailRouter hrun
      ⟨_, trigger, _, List.mem_cons_of_mem _ List.mem_cons_self⟩ blankMail hbranch (by decide))

end Siyadah
