import SiyadahOrchestrator.Build.LoopBuild
import SiyadahOrchestrator.Build.Walkers

/-!
# The router builder

`v2_build_router` builds a chain for each branch, then the chain after the router, and then the
router, all over one counter. So the router, which is executed first, has the last number
(`router_structure`); names are distinct all the same, and the walkers agree on the tree as they do
on the trees of the other builders.

The conditions of a branch are read without the guard that `_build_step_from_spec` puts in front of
them: a condition that is no dictionary raises here, where the other builder takes it for an empty
one (`routerBranchDefinition_eq`).
-/

namespace Siyadah

open Dialogue PyValue

/-! ### Branches -/

/-- A condition of a branch, in `v2_build_router`. -/
def routerCondition (c : PyValue) : Except PyError PyValue := do
  let operator ← c.getD "operator" (py "")
  let first ← c.getD "first_value" (py "")
  let second ← c.getD "second_value" (py "")
  pure (cond operator first second)

/-- The definition of a branch, in `v2_build_router`. -/
def routerBranchDefinition (b : PyValue) : Except PyError PyValue := do
  let branchType ← b.getD "branch_type" (py "CONDITION")
  if branchType.isStr (text "FALLBACK") then
    let name ← b.getD "name" (py "Otherwise")
    pure (fallbackBranch name)
  else
    let conditions ← b.getD "conditions" (.list [])
    let groups ← conditions.items
    let conds ← groups.mapM fun g ↦ do
      let members ← g.1.items
      let group ← members.mapM fun c ↦ routerCondition c.1
      pure (.list group)
    let name ← b.getD "name" (py "Branch")
    pure (conditionBranch name conds)

/-- `RouterBuildBody`; pydantic lets only dictionaries through as branches and as steps. -/
structure RouterBuildBody where
  displayName : PyStr
  branches : List PyValue
  afterRouter : Option (List PyValue)

section Env

variable (env : BuilderEnv)

/-- The loop over the branches: a definition and a chain for each. -/
def buildRouterBranches : List PyValue → BuilderM (List (PyValue × PyValue))
  | [] => pure []
  | b :: bs => do
    let definition ← evalPy (routerBranchDefinition b)
    let actions ← evalPy (b.getD "actions" (.list []))
    let child ← buildActionChain env actions
    let rest ← buildRouterBranches bs
    pure ((definition, child) :: rest)

/-- `v2_build_router`, up to the trigger that it gives to `golden_build`. -/
def v2BuildRouter (body : RouterBuildBody) : BuilderM PyValue := do
  setState { counter := 1, stepsInfo := [] }
  let built ← buildRouterBranches env body.branches
  let after ← buildActionChain env (.list (body.afterRouter.getD []))
  let n ← nextNumber
  let router := buildRouterStep (stepName n) (.str body.displayName) (built.map Prod.fst)
    (built.map Prod.snd) after
  pure (whTrigger (py "استقبال بيانات") router)

end Env

/-! ### The definition of a branch -/

theorem orEmpty_of_getD {v w d : PyValue} {key : String} (h : v.getD key d = .ok w) :
    orEmpty v = v := if_pos (getD_eq_ok_iff.1 h).1

/-- A condition that this builder reads is read by the other builder, too. -/
theorem conditionOf_of_routerCondition {c v : PyValue} (h : routerCondition c = .ok v) :
    conditionOf c = .ok v := by
  obtain ⟨operator, hoperator, -⟩ := bind_eq_ok_iff.1 h
  rw [conditionOf, orEmpty_of_getD hoperator]
  exact h

theorem mapM_ok_mono {α β : Type} {f g : α → Except PyError β}
    (h : ∀ a b, f a = .ok b → g a = .ok b) {l : List α} {r : List β} (hf : l.mapM f = .ok r) :
    l.mapM g = .ok r :=
  mapM_eq_ok_iff.2 ((mapM_eq_ok_iff.1 hf).imp h)

/-- A definition that this builder makes is the one that the other builder makes. -/
theorem routerBranchDefinition_eq {b d : PyValue} (h : routerBranchDefinition b = .ok d) :
    branchDefinition (orEmpty b) = .ok d := by
  obtain ⟨branchType, htype, h⟩ := bind_eq_ok_iff.1 h
  rw [orEmpty_of_getD htype]
  refine bind_eq_ok_iff.2 ⟨branchType, htype, ?_⟩
  split at h
  · rename_i hfallback
    rw [if_pos hfallback]
    exact h
  · rename_i hcondition
    rw [if_neg hcondition]
    obtain ⟨conditions, hconditions, h⟩ := bind_eq_ok_iff.1 h
    obtain ⟨groups, hgroups, h⟩ := bind_eq_ok_iff.1 h
    obtain ⟨conds, hconds, h⟩ := bind_eq_ok_iff.1 h
    refine bind_eq_ok_iff.2 ⟨conditions, hconditions, bind_eq_ok_iff.2 ⟨groups, hgroups,
      bind_eq_ok_iff.2 ⟨conds, mapM_ok_mono (fun g group hgroup ↦ ?_) hconds, h⟩⟩⟩
    obtain ⟨members, hmembers, hgroup⟩ := bind_eq_ok_iff.1 hgroup
    obtain ⟨vs, hvs, hgroup⟩ := bind_eq_ok_iff.1 hgroup
    exact bind_eq_ok_iff.2 ⟨members, hmembers, bind_eq_ok_iff.2 ⟨vs,
      mapM_ok_mono (fun c v ↦ conditionOf_of_routerCondition) hvs, hgroup⟩⟩

/-! ### What is built -/

section Runs

variable {env : BuilderEnv} {s t : BuilderState}
  {l : List (CatalogQuery × Except EngineError PyValue)}

/-- The branches have a derivation. -/
theorem built_of_buildRouterBranches {bs : List PyValue} {built : List (PyValue × PyValue)}
    (h : (buildRouterBranches env bs).Runs s l (.ok built) t) :
    Built env (.branches bs built) s l t ∧
      List.Forall₂ (fun b d ↦ routerBranchDefinition b = .ok d) bs (built.map Prod.fst) := by
  induction bs generalizing s l built with
  | nil =>
    obtain ⟨rfl, hbuilt, rfl⟩ := runs_pure_iff.1 h
    obtain rfl := Except.ok.inj hbuilt
    exact ⟨.noBranch, .nil⟩
  | cons b bs ih =>
    obtain ⟨definition, hdefinition, h⟩ := runs_evalPy_bind_ok_iff.1 h
    obtain ⟨actions, hactions, h⟩ := runs_evalPy_bind_ok_iff.1 h
    obtain ⟨l₁, l₂, child, u, rfl, hchild, h⟩ := runs_bind_ok_iff.1 h
    obtain ⟨l₃, l₄, rest, v, rfl, hrest, hlast⟩ := runs_bind_ok_iff.1 h
    obtain ⟨rfl, hbuilt, rfl⟩ := runs_pure_iff.1 hlast
    obtain rfl := Except.ok.inj hbuilt
    obtain ⟨hbranches, hdefinitions⟩ := ih hrest
    have hchain := built_of_runs hchild
    obtain ⟨-, rfl⟩ := getD_eq_ok_iff.1 hactions
    rw [List.append_nil]
    exact ⟨.branch (routerBranchDefinition_eq hdefinition) hchain hbranches,
      .cons hdefinition hdefinitions⟩

/-- What the router builder leaves: a router of the request with one child for each branch, in
order, and the steps after it. The steps of each child are made of the specifications of its branch,
and those after the router of the specifications after it. -/
structure Routed (env : BuilderEnv) (l : Lookups) (body : RouterBuildBody)
    (children : List PyValue) (after router : PyValue) : Prop where
  mirrors : List.Forall₂ (fun b child ↦ Mirrors env l (branchActions b) child) body.branches
    children
  mirrorsAfter : Mirrors env l (body.afterRouter.getD []) after
  made : ∃ sname definitions,
    List.Forall₂ (fun b d ↦ routerBranchDefinition b = .ok d) body.branches definitions ∧
      ownEntries router =
        ownEntries (buildRouterStep sname (.str body.displayName) definitions [] .null)
  kind : nodeKind router = .router
  linked : chainForest router =
    .cons router (.ofList (children.map chainForest)) (chainForest after)

/-- The chains of the branches mirror the branches, and are chains of steps. -/
theorem children_of_built {bs : List PyValue} {built : List (PyValue × PyValue)}
    (h : Built env (.branches bs built) s l t) :
    List.Forall₂ (fun b child ↦ Mirrors env l (branchActions b) child) bs (built.map Prod.snd) ∧
      ∀ child ∈ built.map Prod.snd, StepChain child := by
  induction bs generalizing built s l with
  | nil =>
    rcases h with _ | _
    exact ⟨.nil, nofun⟩
  | cons b bs ih =>
    cases h with
    | @branch _ _ _ _ _ _ _ _ l₁ l₂ _ hchild hrest =>
      obtain ⟨hmirrors, hchains⟩ := ih hrest
      have hl₁ : l₁ <:+: l₁ ++ l₂ := (List.prefix_append l₁ l₂).isInfix
      have hl₂ : l₂ <:+: l₁ ++ l₂ := (List.suffix_append l₁ l₂).isInfix
      refine ⟨.cons ((mirrors_of_built hchild).mono hl₁) (hmirrors.imp fun _ _ ↦ .mono hl₂),
        List.forall_mem_cons.2 ⟨?_, hchains⟩⟩
      exact wellLinked_of_built hchild

/-- **What the router builder builds.** Each branch has the steps of its specifications, at the same
places, and so has what follows the router; the names are `step_1` to `step_n`, and the router,
which is executed first, has the last one. All walkers agree on the tree. -/
theorem router_structure (env : BuilderEnv) (body : RouterBuildBody) (trigger : PyValue)
    (s t : BuilderState) (l : List (CatalogQuery × Except EngineError PyValue))
    (h : (v2BuildRouter env body).Runs s l (.ok trigger) t) :
    ∃ children after router, trigger = whTrigger (py "استقبال بيانات") router ∧
      Routed env l body children after router ∧ NumberedFromOne (chainForest router) ∧
      nodeName router = numberName (chainForest router).labels.length ∧
      WalkersAgree trigger (placed trigger) := by
  obtain ⟨l₁, l₂, built, u₁, rfl, h₁, h⟩ := runs_bind_ok_iff.1 (runs_setState_bind_iff.1 h)
  obtain ⟨l₃, l₄, after, u₂, rfl, h₂, h⟩ := runs_bind_ok_iff.1 h
  have hlast := runs_nextNumber_bind_iff.1 h
  obtain ⟨rfl, htrigger, -⟩ := runs_pure_iff.1 hlast
  rw [List.append_nil]
  have hl₁ : l₁ <:+: l₁ ++ l₃ := (List.prefix_append l₁ l₃).isInfix
  have hl₃ : l₃ <:+: l₁ ++ l₃ := (List.suffix_append l₁ l₃).isInfix
  obtain ⟨hbranches, hdefinitions⟩ := built_of_buildRouterBranches h₁
  have hafter := built_of_runs h₂
  obtain ⟨hmirrors, hchains⟩ := children_of_built hbranches
  obtain ⟨k₁, N₁, hu₁, hperm₁, hnumbers₁, -⟩ := numbers_of_built hbranches
  obtain ⟨k₂, N₂, hu₂, hperm₂, hnames₂⟩ := names_of_built_chain hafter
  have hcounter : u₁.counter = 1 + k₁ := hu₁
  rw [hcounter] at hperm₂ hu₂
  generalize hrouter : buildRouterStep (stepName u₂.counter) (.str body.displayName)
    (built.map Prod.fst) (built.map Prod.snd) after = router at htrigger
  have hforest : chainForest router =
      .cons router (.ofList ((built.map Prod.snd).map chainForest)) (chainForest after) := by
    rw [← hrouter, ← nodeInside_router]
    exact chainForest_withNext rfl rfl
  have hname : nodeName router = numberName u₂.counter := by
    rw [← hrouter, nodeName, buildRouterStep, entryD_withNext (by decide)]
    rfl
  -- The names of the steps in the branches.
  have hinside : (Forests.ofList ((built.map Prod.snd).map chainForest)).labels.map nodeName =
      N₁.map numberName := by
    have hlabels := (mirrored_of_built hbranches).2.1
    rw [List.map_map]
    show (Forests.ofList (built.map fun b ↦ chainForest b.2)).labels.map nodeName = _
    rw [hlabels, List.map_flatMap]
    exact hnumbers₁
  have hnames : (chainForest router).labels.map nodeName =
      (u₂.counter :: (N₁ ++ N₂)).map numberName := by
    rw [hforest, Forest.labels, List.map_cons, List.map_append, hname, hinside, hnames₂,
      List.map_cons, List.map_append]
  have hall : (u₂.counter :: (N₁ ++ N₂)).Perm (List.range' 1 (k₁ + k₂ + 1)) := by
    have hnumber : [u₂.counter].Perm (List.range' (1 + (k₁ + k₂)) 1) := by
      rw [hu₂, Nat.add_assoc]
      exact .refl _
    refine (List.perm_append_singleton _ _).symm.trans ?_
    exact perm_range'_append (perm_range'_append hperm₁ hperm₂) hnumber
  have hlength : (chainForest router).labels.length = k₁ + k₂ + 1 := by
    have hcount := congrArg List.length hnames
    rwa [List.length_map, List.length_map, hall.length_eq, List.length_range'] at hcount
  refine ⟨built.map Prod.snd, after, router, Except.ok.inj htrigger,
    ⟨hmirrors.imp fun _ _ ↦ .mono hl₁, (mirrors_of_built hafter).mono hl₃,
      ⟨stepName u₂.counter, built.map Prod.fst, hdefinitions, ?_⟩, ?_, hforest⟩,
    numberedFromOne_of_perm hnames hall, ?_, ?_⟩
  · rw [← hrouter, ownEntries_router]
  · exact hrouter ▸ nodeKind_router _ _ _ _ _
  · rw [hname, hlength, hu₂]
    congr 1
    omega
  · obtain rfl := Except.ok.inj htrigger
    refine walkersAgree_of_stepChain (stepChain_buildTrigger ?_) rfl (truthy_withNext rfl)
    rw [← hrouter]
    exact stepChain_router _ _ _ _ _ (wellLinked_of_built hafter) hchains

end Runs

/-- A router with the nested steps in its first branch, and the nested steps after it. -/
def nestedRouterBody : RouterBuildBody where
  displayName := text "Router"
  branches := [pyDict [("conditions", .list [.list [pyDict [("first_value", py "status")]]]),
    ("actions", .list nestedSpecs)], pyDict [("branch_type", py "FALLBACK")]]
  afterRouter := some nestedSpecs

/-- The router is built, under the last number. -/
theorem router_structure_of_nestedSpecs : ∃ trigger children after router,
    trigger = whTrigger (py "استقبال بيانات") router ∧
      Routed gmailEnv (nestedLookups ++ nestedLookups) nestedRouterBody children after router ∧
      NumberedFromOne (chainForest router) ∧
      nodeName router = numberName (chainForest router).labels.length ∧
      WalkersAgree trigger (placed trigger) := by
  obtain ⟨u₁, h₁⟩ := runs_nestedSpecs
  obtain ⟨after, u₂, h₂, -⟩ := restarts_buildActionChain _ _ _ _ h₁ u₁
  have hnil : (buildActionChain gmailEnv (.list [])).Runs u₁ [] (.ok .null) u₁ :=
    runs_pure_iff.2 ⟨rfl, rfl, rfl⟩
  have hotherwise : (buildRouterBranches gmailEnv [pyDict [("branch_type", py "FALLBACK")]]).Runs u₁
      [] (.ok [(fallbackBranch (py "Otherwise"), .null)]) u₁ := by
    refine runs_evalPy_bind_ok_iff.2 ⟨fallbackBranch (py "Otherwise"), rfl, ?_⟩
    refine runs_evalPy_bind_ok_iff.2 ⟨.list [], rfl, runs_bind_ok_iff.2
      ⟨[], [], .null, u₁, rfl, hnil, runs_bind_ok_iff.2 ⟨[], [], [], u₁, rfl, ?_, ?_⟩⟩⟩
    · exact runs_pure_iff.2 ⟨rfl, rfl, rfl⟩
    · exact runs_pure_iff.2 ⟨rfl, rfl, rfl⟩
  have hbranches : (buildRouterBranches gmailEnv nestedRouterBody.branches).Runs ⟨1, []⟩
      nestedLookups (.ok [(conditionBranch (py "Branch")
        [.list [cond (py "") (py "status") (py "")]], nestedChain),
          (fallbackBranch (py "Otherwise"), .null)]) u₁ := by
    refine runs_evalPy_bind_ok_iff.2 ⟨_, rfl,
      runs_evalPy_bind_ok_iff.2 ⟨.list nestedSpecs, rfl, ?_⟩⟩
    exact runs_bind_ok_iff.2 ⟨nestedLookups, [], nestedChain, u₁, rfl, h₁, runs_bind_ok_iff.2
      ⟨[], [], _, u₁, rfl, hotherwise, runs_pure_iff.2 ⟨rfl, rfl, rfl⟩⟩⟩
  have hrun : ∃ trigger u, (v2BuildRouter gmailEnv nestedRouterBody).Runs ⟨1, []⟩
      (nestedLookups ++ nestedLookups) (.ok trigger) u :=
    ⟨_, _, runs_setState_bind_iff.2 (runs_bind_ok_iff.2 ⟨nestedLookups, nestedLookups, _, u₁, rfl,
      hbranches, runs_bind_ok_iff.2 ⟨nestedLookups, [], after, u₂, rfl, h₂,
        runs_nextNumber_bind_iff.2 (runs_pure_iff.2 ⟨rfl, rfl, rfl⟩)⟩⟩)⟩
  obtain ⟨trigger, u, hrun⟩ := hrun
  exact ⟨trigger, router_structure gmailEnv _ trigger _ _ _ hrun⟩

end Siyadah
