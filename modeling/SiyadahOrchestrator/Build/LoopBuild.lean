import SiyadahOrchestrator.Build.Structure
import SiyadahOrchestrator.Foundations.Lockstep

/-!
# The loop builder

`v2_build_loop` builds three chains over one counter and then a loop, which it links to the last
step of the first chain by an assignment (`spliceLast`). The assignment is a concatenation of
forests (`chainForest_spliceLast`), so the steps mirror the request (`LoopMirrors`): those before
the loop, the loop with its body, those after it.

A step is built without a look at the number that it takes, so a list that can be built from
`step_1` on can be built from any number on, by the same lookups (`repeats_buildActionChain`). The
loop builder therefore returns exactly when each of its three lists can be built alone
(`v2BuildLoop_returns_iff`).
-/

namespace Siyadah

open Dialogue PyValue

/-- `LoopBuildBody`. -/
structure LoopBuildBody where
  displayName : PyStr
  itemsExpression : PyStr
  loopActions : List PyValue
  beforeLoop : Option (List PyValue)
  afterLoop : Option (List PyValue)

/-- `while cur.get("nextAction"): cur = cur["nextAction"]`, and then `cur["nextAction"] = loop`; a
step of a chain is a dictionary. -/
def spliceLast (cur loop : PyValue) : PyValue :=
  if _h : cur.isDict = true then
    if (cur.entryD "nextAction").truthy then
      .dict (upsert (fieldsOf cur) (text "nextAction")
        (spliceLast (cur.entryD "nextAction") loop))
    else .dict (upsert (fieldsOf cur) (text "nextAction") loop)
  else cur
termination_by cur.weight
decreasing_by exact weight_entryD_lt _h "nextAction"

/-- `v2_build_loop`, up to the trigger that it gives to `golden_build`. -/
def v2BuildLoop (env : BuilderEnv) (body : LoopBuildBody) : BuilderM PyValue := do
  setState { counter := 1, stepsInfo := [] }
  let before ← buildActionChain env (.list (body.beforeLoop.getD []))
  let firstLoop ← buildActionChain env (.list body.loopActions)
  let after ← buildActionChain env (.list (body.afterLoop.getD []))
  let n ← nextNumber
  let loop := buildLoopStep (stepName n) (.str body.displayName) (.str body.itemsExpression)
    firstLoop after
  pure (whTrigger (py "استقبال بيانات") (if before.truthy then spliceLast before loop else loop))

/-! ### The splice -/

section Splice

variable {env : BuilderEnv} {l : Lookups} {s t : BuilderState} {fields : Fields} {v : PyValue}

theorem entryD_upsert_nextAction {key : String} (h : key ≠ "nextAction") :
    (PyValue.dict (upsert fields (text "nextAction") v)).entryD key =
      (PyValue.dict fields).entryD key :=
  congrArg (·.getD .null) (lookup_upsert_of_ne (PyStr.ofString_injective.ne h))

/-- A new link is no entry of the step's own. -/
theorem ownEntries_upsert_nextAction :
    ownEntries (.dict (upsert fields (text "nextAction") v)) = ownEntries (.dict fields) := by
  show List.filter _ (upsert fields _ v) = List.filter _ fields
  rw [upsert]
  split
  · clear * -
    induction fields with
    | nil => rfl
    | cons f fields ih =>
      rw [List.map_cons, List.filter_cons, List.filter_cons, ih]
      by_cases hf : f.1 = text "nextAction"
      · rw [if_pos hf, hf]
        rfl
      · rw [if_neg hf]
  · rw [List.filter_append]
    exact List.append_nil _

theorem nodeInside_upsert_nextAction :
    nodeInside (.dict (upsert fields (text "nextAction") v)) = nodeInside (.dict fields) := by
  rw [nodeInside, nodeInside, nodeKind, nodeKind, entryD_upsert_nextAction (by decide),
    entryD_upsert_nextAction (by decide), entryD_upsert_nextAction (by decide)]

/-- A new link leaves a router as full as it is. -/
theorem fullRouter_upsert_nextAction :
    FullRouter (.dict (upsert fields (text "nextAction") v)) = FullRouter (.dict fields) := by
  rw [FullRouter, FullRouter, nodeKind, nodeKind, entryD_upsert_nextAction (by decide),
    entryD_upsert_nextAction (by decide), entryD_upsert_nextAction (by decide)]

theorem truthy_upsert {key : PyStr} (h : (PyValue.dict fields).truthy = true) :
    (PyValue.dict (upsert fields key v)).truthy = true := by
  cases fields with
  | nil => exact absurd h (by simp [truthy])
  | cons f fields =>
    rw [upsert]
    split
    · rfl
    · rfl

section Reading

variable {α : Type} {f : PyValue → α}
  (hf : ∀ fields v, f (.dict (upsert fields (text "nextAction") v)) = f (.dict fields))

include hf

/-- A step with a new link, for a reading of steps that leaves the link out. -/
theorem chainForest_upsert_nextAction (h : (PyValue.dict fields).truthy = true) :
    (chainForest (.dict (upsert fields (text "nextAction") v))).map f =
      .cons (f (.dict fields)) ((nodeInside (.dict fields)).map f) ((chainForest v).map f) := by
  have hnext : (PyValue.dict (upsert fields (text "nextAction") v)).entryD "nextAction" = v :=
    congrArg (·.getD .null) lookup_upsert_self
  rw [chainForest_of_node rfl (truthy_upsert h), Forest.map, hf, nodeInside_upsert_nextAction,
    hnext]

/-- **The splice concatenates**: the steps of the chain, as they were, then those from `loop` on. -/
theorem chainForest_spliceLast {specs : List PyValue} {chain loop : PyValue}
    (h : Built env (.chain specs chain) s l t) (hchain : chain.truthy = true) :
    (chainForest (spliceLast chain loop)).map f =
      ((chainForest chain).append (chainForest loop)).map f := by
  induction specs generalizing chain s t l with
  | nil =>
    rcases h with _ | _
    exact absurd hchain (by simp [truthy])
  | cons spec specs ih =>
    rcases h with _ | ⟨hdict, hrest, hstep⟩
    rename_i rest u l₁ l₂
    have hnode := isDict_of_built_step hstep
    have hnext : chain.entryD "nextAction" = rest := nextAction_of_built hrest hstep
    cases chain with
    | dict fields =>
      rw [spliceLast, dif_pos hnode, chainForest_of_node rfl hchain, hnext, Forest.append,
        Forest.map]
      by_cases htruthy : rest.truthy = true
      · rw [if_pos htruthy]
        refine (chainForest_upsert_nextAction hf hchain).trans ?_
        rw [ih hrest htruthy]
      · have hnil : chainForest rest = .nil := chainForest_of_falsy (by simpa using htruthy)
        rw [if_neg htruthy, hnil]
        exact chainForest_upsert_nextAction hf hchain
    | _ => exact absurd hnode (by simp [isDict])

/-- The loop comes after the steps before it, if there are any. -/
theorem chainForest_linked {specs : List PyValue} {before loop : PyValue}
    (h : Built env (.chain specs before) s l t) :
    (chainForest (if before.truthy then spliceLast before loop else loop)).map f =
      ((chainForest before).append (chainForest loop)).map f := by
  split
  · rename_i htruthy
    exact chainForest_spliceLast hf h htruthy
  · rename_i hfalsy
    have hnil : chainForest before = .nil := chainForest_of_falsy (by simpa using hfalsy)
    rw [hnil]
    rfl

end Reading

/-- The name of a step is an entry of its own. -/
theorem nodeName_upsert_nextAction :
    nodeName (.dict (upsert fields (text "nextAction") v)) = nodeName (.dict fields) :=
  entryD_upsert_nextAction (by decide)

end Splice

/-! ### What the loop builder leaves -/

/-- What the steps come from, in order: the specifications before the loop, the loop, which has no
specification and is `none`, with the specifications of its body inside it, and the specifications
after it. -/
def LoopBuildBody.forest (body : LoopBuildBody) : Forest (Option PyValue) :=
  ((specForest (body.beforeLoop.getD [])).map some).append
    (.cons none (.ofList [(specForest body.loopActions).map some])
      ((specForest (body.afterLoop.getD [])).map some))

/-- The own entries are those of a step for the specification, or of the loop of the request. -/
inductive MadeOfBody (env : BuilderEnv) (l : Lookups) (body : LoopBuildBody) :
    Option PyValue → Fields → Prop
  | step {spec own} : MadeOf env l spec own → MadeOfBody env l body (some spec) own
  | loop (sname : PyStr) : MadeOfBody env l body none
      (ownEntries (buildLoopStep sname (.str body.displayName) (.str body.itemsExpression)
        .null .null))

/-- The kind of step that a place of the request asks for. -/
def placeKind : Option PyValue → StepKind
  | some spec => specKind spec
  | none => .loop

/-- The steps from `first` on are those of the request, at the same places. -/
structure LoopMirrors (env : BuilderEnv) (l : Lookups) (body : LoopBuildBody) (first : PyValue) :
    Prop where
  shape : (chainForest first).map nodeKind = body.forest.map placeKind
  steps : body.forest.Related (MadeOfBody env l body) ((chainForest first).map ownEntries)
  routers : ∀ node ∈ (chainForest first).labels, FullRouter node

section Runs

variable {env : BuilderEnv} {l : Lookups} {s t : BuilderState} {body : LoopBuildBody}

theorem MadeOfBody.kind {place : Option PyValue} {own : Fields}
    (h : MadeOfBody env l body place own) :
    placeKind place = kindOfType ((own.lookup (text "type")).getD .null) := by
  rcases h with ⟨h⟩ | ⟨sname⟩
  · exact h.kind.symm
  · rw [← nodeKind_eq_ownEntries, nodeKind_loop]
    rfl

/-- A run of the loop builder is a run for each of the three lists, one after the other. -/
theorem runs_v2BuildLoop_iff {trigger : PyValue} :
    (v2BuildLoop env body).Runs s l (.ok trigger) t ↔
      ∃ l₁ l₂ l₃ before inside after u₁ u₂ u₃, l = l₁ ++ (l₂ ++ l₃) ∧
        (buildActionChain env (.list (body.beforeLoop.getD []))).Runs ⟨1, []⟩ l₁ (.ok before) u₁ ∧
        (buildActionChain env (.list body.loopActions)).Runs u₁ l₂ (.ok inside) u₂ ∧
        (buildActionChain env (.list (body.afterLoop.getD []))).Runs u₂ l₃ (.ok after) u₃ ∧
        t = { u₃ with counter := u₃.counter + 1 } ∧
        trigger = whTrigger (py "استقبال بيانات") (if before.truthy then
          spliceLast before (buildLoopStep (stepName u₃.counter) (.str body.displayName)
            (.str body.itemsExpression) inside after)
          else buildLoopStep (stepName u₃.counter) (.str body.displayName)
            (.str body.itemsExpression) inside after) := by
  constructor
  · intro h
    obtain ⟨l₁, l₂, before, u₁, rfl, h₁, h⟩ := runs_bind_ok_iff.1 (runs_setState_bind_iff.1 h)
    obtain ⟨l₃, l₄, inside, u₂, rfl, h₂, h⟩ := runs_bind_ok_iff.1 h
    obtain ⟨l₅, l₆, after, u₃, rfl, h₃, h⟩ := runs_bind_ok_iff.1 h
    have hlast := runs_nextNumber_bind_iff.1 h
    obtain ⟨rfl, htrigger, rfl⟩ := runs_pure_iff.1 hlast
    rw [List.append_nil]
    exact ⟨l₁, l₃, l₅, before, inside, after, u₁, u₂, u₃, rfl, h₁, h₂, h₃, rfl,
      Except.ok.inj htrigger⟩
  · rintro ⟨l₁, l₂, l₃, before, inside, after, u₁, u₂, u₃, rfl, h₁, h₂, h₃, rfl, rfl⟩
    refine runs_setState_bind_iff.2 (runs_bind_ok_iff.2 ⟨l₁, _, before, u₁, rfl, h₁, ?_⟩)
    refine runs_bind_ok_iff.2 ⟨l₂, l₃, inside, u₂, rfl, h₂, ?_⟩
    refine runs_bind_ok_iff.2 ⟨l₃, [], after, u₃, (List.append_nil l₃).symm, h₃, ?_⟩
    exact runs_nextNumber_bind_iff.2 (runs_pure_iff.2 ⟨rfl, rfl, rfl⟩)

section Places

variable {l₁ l₂ l₃ : Lookups} {u₁ u₂ u₃ : BuilderState} {before inside after loop : PyValue}
  (hbefore : Built env (.chain (body.beforeLoop.getD []) before) ⟨1, []⟩ l₁ u₁)
  (hinside : Built env (.chain body.loopActions inside) u₁ l₂ u₂)
  (hafter : Built env (.chain (body.afterLoop.getD []) after) u₂ l₃ u₃)
  (hloop : loop = buildLoopStep (stepName u₃.counter) (.str body.displayName)
    (.str body.itemsExpression) inside after)

include hloop in
theorem chainForest_of_loop :
    chainForest loop = .cons loop (.ofList [chainForest inside]) (chainForest after) := by
  rw [hloop, chainForest_loop, nodeInside_loop]

include hbefore hinside hafter hloop

/-- Each list is made by its own part of the lookups. -/
theorem madeOfBody_of_built :
    body.forest.Related (MadeOfBody env (l₁ ++ (l₂ ++ l₃)) body)
      ((chainForest (if before.truthy then spliceLast before loop else loop)).map ownEntries) := by
  obtain ⟨hbeforeSteps, -, -⟩ := mirrored_of_built hbefore
  obtain ⟨hinsideSteps, -, -⟩ := mirrored_of_built hinside
  obtain ⟨hafterSteps, -, -⟩ := mirrored_of_built hafter
  have hl₁ : l₁ <:+: l₁ ++ (l₂ ++ l₃) := (List.prefix_append _ _).isInfix
  have hl₂ : l₂ <:+: l₁ ++ (l₂ ++ l₃) := ⟨l₁, l₃, List.append_assoc _ _ _⟩
  have hl₃ : l₃ <:+: l₁ ++ (l₂ ++ l₃) :=
    ((List.suffix_append l₂ l₃).trans (List.suffix_append l₁ _)).isInfix
  have hmade : MadeOfBody env (l₁ ++ (l₂ ++ l₃)) body none (ownEntries loop) := by
    rw [hloop, ownEntries_loop]
    exact .loop _
  rw [chainForest_linked (fun _ _ ↦ ownEntries_upsert_nextAction) hbefore,
    chainForest_of_loop hloop, Forest.map_append]
  refine .append (.map_left (hbeforeSteps.mono fun _ _ h ↦ .step (h.mono hl₁))) ?_
  refine .cons hmade (.cons ?_ .nil) ?_
  · exact .map_left (hinsideSteps.mono fun _ _ h ↦ .step (h.mono hl₂))
  · exact .map_left (hafterSteps.mono fun _ _ h ↦ .step (h.mono hl₃))

/-- The loop is no router. -/
theorem fullRouters_of_built :
    ∀ node ∈ (chainForest (if before.truthy then spliceLast before loop else loop)).labels,
      FullRouter node := by
  obtain ⟨-, -, hbeforeRouters⟩ := mirrored_of_built hbefore
  obtain ⟨-, -, hinsideRouters⟩ := mirrored_of_built hinside
  obtain ⟨-, -, hafterRouters⟩ := mirrored_of_built hafter
  have hloopRouter : FullRouter loop := by
    intro hrouter
    rw [hloop, nodeKind_loop] at hrouter
    exact absurd hrouter (by decide)
  refine Forest.forall_labels_of_map_eq
    (chainForest_linked (fun _ _ ↦ fullRouter_upsert_nextAction) hbefore) ?_
  rw [chainForest_of_loop hloop, Forest.labels_append, Forest.labels, Forests.ofList_cons,
    Forests.labels]
  refine List.forall_mem_append.2 ⟨hbeforeRouters, List.forall_mem_cons.2 ⟨hloopRouter,
    List.forall_mem_append.2 ⟨?_, hafterRouters⟩⟩⟩
  simpa [Forests.labels] using hinsideRouters

/-- The loop takes the last number and stands before its body. -/
theorem numberedFromOne_of_built :
    NumberedFromOne (chainForest (if before.truthy then spliceLast before loop else loop)) := by
  obtain ⟨k₁, N₁, hu₁, hperm₁, hnames₁⟩ := names_of_built_chain hbefore
  obtain ⟨k₂, N₂, hu₂, hperm₂, hnames₂⟩ := names_of_built_chain hinside
  obtain ⟨k₃, N₃, hu₃, hperm₃, hnames₃⟩ := names_of_built_chain hafter
  have hcounter : u₁.counter = 1 + k₁ := hu₁
  have hnames : (chainForest (if before.truthy then spliceLast before loop else loop)).labels.map
      nodeName = (N₁ ++ u₃.counter :: (N₂ ++ N₃)).map numberName := by
    have hname : nodeName loop = numberName u₃.counter := hloop ▸ nodeName_loop _ _ _ _ _
    rw [← Forest.labels_map, chainForest_linked (fun _ _ ↦ nodeName_upsert_nextAction) hbefore,
      Forest.labels_map, chainForest_of_loop hloop, Forest.labels_append, Forest.labels,
      Forests.ofList_cons, Forests.labels]
    simp [Forests.labels, hname, hnames₁, hnames₂, hnames₃]
  refine numberedFromOne_of_perm hnames (k := k₁ + (k₂ + (k₃ + 1))) ?_
  have hnumber : [u₃.counter].Perm (List.range' (1 + k₁ + k₂ + k₃) 1) := by
    rw [hu₃, hu₂, hcounter]
    exact .refl _
  rw [hcounter] at hperm₂
  rw [hu₂, hcounter] at hperm₃
  have hall := perm_range'_append hperm₁ (perm_range'_append hperm₂
    (perm_range'_append hperm₃ hnumber))
  refine (List.Perm.append_left N₁ ?_).trans hall
  rw [← List.append_assoc]
  exact (List.perm_append_singleton _ _).symm

end Places

/-- What `v2_build_loop` leaves mirrors the request, under the names `step_1` to `step_n`. -/
theorem loopMirrors_of_runs {trigger : PyValue}
    (h : (v2BuildLoop env body).Runs s l (.ok trigger) t) :
    ∃ first, trigger = whTrigger (py "استقبال بيانات") first ∧ LoopMirrors env l body first ∧
      NumberedFromOne (chainForest first) := by
  obtain ⟨l₁, l₂, l₃, before, inside, after, u₁, u₂, u₃, rfl, h₁, h₂, h₃, -, rfl⟩ :=
    runs_v2BuildLoop_iff.1 h
  have hbefore := built_of_runs h₁
  have hinside := built_of_runs h₂
  have hafter := built_of_runs h₃
  have hsteps := madeOfBody_of_built hbefore hinside hafter rfl
  refine ⟨_, rfl, ⟨?_, hsteps, fullRouters_of_built hbefore hinside hafter rfl⟩,
    numberedFromOne_of_built hbefore hinside hafter rfl⟩
  -- The kind of a step is read off its own entries.
  have hkinds := hsteps.map_eq (f := placeKind)
    (g := fun own ↦ kindOfType ((own.lookup (text "type")).getD .null)) fun _ _ h ↦ h.kind
  rw [hkinds, Forest.map_map]
  exact congrArg (Forest.map · _) (funext nodeKind_eq_ownEntries)

end Runs

/-! ### Lists that are built alone -/

section Restart

variable {env : BuilderEnv}

/-- A part of the builder that returns, returns in any other state by the same lookups. -/
abbrev Restarts {α β : Type} (m : BuilderM α) (m' : BuilderM β) : Prop :=
  Repeats (fun _ _ ↦ True) m m'

theorem restarts_pure {α β : Type} {a : α} {b : β} : Restarts (pure a) (pure b) :=
  repeats_pure trivial

theorem repeats_evalPy {α : Type} {x : Except PyError α} : Repeats (· = ·) (evalPy x) (evalPy x) :=
  (stateless_evalPy x).repeats

theorem restarts_report {row row' : PyValue} : Restarts (report row) (report row') :=
  repeats_getState.bind fun _ _ _ ↦ repeats_setState

theorem restarts_nextNumber : Restarts nextNumber nextNumber :=
  repeats_getState.bind fun _ _ _ ↦ repeats_setState.bind fun _ _ _ ↦ restarts_pure

theorem restarts_buildPieceStep {spec next next' : PyValue} {sname sname' : PyStr} :
    Restarts (buildPieceStep env spec sname next) (buildPieceStep env spec sname' next') := by
  rw [buildPieceStep, buildPieceStep]
  refine repeats_evalPy.bind fun raw raw' hraw ↦ ?_
  obtain rfl := hraw
  split
  · exact repeats_raise
  refine (stateless_autoResolvePiece raw).repeats.bind fun resolved resolved' hresolved ↦ ?_
  obtain rfl := hresolved
  refine (stateless_lift _).repeats.bind fun settings settings' hsettings ↦ ?_
  obtain rfl := hsettings
  exact restarts_report.bind fun _ _ _ ↦ repeats_evalPy.bind fun _ _ _ ↦ restarts_pure

theorem restarts_buildCodeFromSpec {spec next next' : PyValue} {sname sname' : PyStr} :
    Restarts (buildCodeFromSpec spec sname next) (buildCodeFromSpec spec sname' next') := by
  refine repeats_evalPy.bind fun display display' hdisplay ↦ ?_
  refine restarts_report.bind fun _ _ _ ↦ repeats_evalPy.bind fun _ _ _ ↦ ?_
  exact repeats_evalPy.bind fun _ _ _ ↦ restarts_pure

theorem restarts_buildChainStep {build build' : BuilderM PyValue} {spec : PyValue} {n total : ℕ}
    (h : Restarts build build') :
    Restarts (buildChainStep env build spec n total) (buildChainStep env build' spec n total) := by
  rw [buildChainStep, buildChainStep]
  split
  · refine h.handle fun e s l a t hrun ↦ ?_
    split at hrun
    · exact absurd (runs_raise_iff.1 hrun).2.1 (by simp)
    · exact absurd (runs_raise_iff.1 hrun).2.1 (by simp)
  · exact repeats_raise

theorem restarts_chainOf {v : PyValue}
    {build : { s : PyValue // s.weight ≤ v.weight } → PyValue → BuilderM PyValue}
    (h : ∀ s chain chain', Restarts (build s chain) (build s chain')) :
    Restarts (chainOf env v build) (chainOf env v build) := by
  rw [chainOf]
  split
  · exact restarts_pure
  refine repeats_evalPy.bind fun specs specs' hspecs ↦ ?_
  obtain rfl := hspecs
  -- The loop over the steps.
  generalize specs.length = total
  generalize 1 = n
  induction specs generalizing n with
  | nil => exact restarts_pure
  | cons b bs ih =>
    exact (ih (n + 1)).bind fun chain chain' _ ↦ restarts_buildChainStep (h b chain chain')

theorem restarts_buildBranches {β : Type} {branchOf : β → PyValue} {chain : β → BuilderM PyValue}
    (h : ∀ b, Restarts (chain b) (chain b)) (bs : List β) :
    Restarts (buildBranches branchOf chain bs) (buildBranches branchOf chain bs) := by
  induction bs with
  | nil => exact restarts_pure
  | cons b bs ih =>
    exact repeats_evalPy.bind fun _ _ _ ↦ (h b).bind fun _ _ _ ↦ ih.bind fun _ _ _ ↦ restarts_pure

/-- **A step can be built under any number**, whatever follows it. -/
theorem restarts_buildStepFromSpec (spec next next' : PyValue) :
    Restarts (buildStepFromSpec env spec next) (buildStepFromSpec env spec next') := by
  induction hn : spec.weight using Nat.strong_induction_on generalizing spec next next' with
  | h n ih =>
    subst hn
    rw [buildStepFromSpec, buildStepFromSpec]
    refine repeats_evalPy.bind fun stype stype' htype ↦ ?_
    obtain rfl := htype
    refine restarts_nextNumber.bind fun k k' _ ↦ ?_
    dsimp only
    split
    · exact restarts_buildPieceStep
    split
    · exact restarts_buildCodeFromSpec
    split
    · refine repeats_evalPy.bind fun branches branches' hbranches ↦ ?_
      obtain rfl := hbranches
      refine repeats_evalPy.bind fun _ _ _ ↦ restarts_report.bind fun _ _ _ ↦ ?_
      refine repeats_evalPy.bind fun items items' hitems ↦ ?_
      obtain rfl := hitems
      refine (restarts_buildBranches (fun b ↦ ?_) items).bind fun _ _ _ ↦ restarts_pure
      split
      · refine repeats_evalPy.bind fun actions actions' hactions ↦ ?_
        obtain rfl := hactions
        refine restarts_chainOf fun s chain chain' ↦ ?_
        have hlt : s.1.weight < spec.weight := Nat.lt_of_le_of_lt s.2 (Nat.lt_of_lt_of_le actions.2
          (Nat.le_of_lt (Nat.lt_of_le_of_lt b.2 branches.2)))
        exact ih _ hlt s.1 chain chain' rfl
      · exact restarts_pure
    split
    · refine repeats_evalPy.bind fun expression expression' hexpression ↦ ?_
      obtain rfl := hexpression
      refine repeats_evalPy.bind fun _ _ _ ↦ repeats_evalPy.bind fun _ _ _ ↦
        restarts_report.bind fun _ _ _ ↦ ?_
      refine repeats_evalPy.bind fun actions actions' hactions ↦ ?_
      obtain rfl := hactions
      refine Repeats.bind (restarts_chainOf fun s chain chain' ↦ ?_) fun _ _ _ ↦ restarts_pure
      exact ih _ (Nat.lt_of_le_of_lt s.2 actions.2) s.1 chain chain' rfl
    · exact repeats_raise

theorem restarts_buildActionChain {specs : PyValue} :
    Restarts (buildActionChain env specs) (buildActionChain env specs) :=
  restarts_chainOf fun s chain chain' ↦ restarts_buildStepFromSpec s.1 chain chain'

/-- The list can be built from `step_1` on, by these lookups. -/
def BuildsAlone (env : BuilderEnv) (l : Lookups) (specs : List PyValue) : Prop :=
  ∃ info chain t, (buildActionChain env (.list specs)).Runs ⟨1, info⟩ l (.ok chain) t

/-- **The loop builder returns exactly when its three lists can be built**, each of them alone. -/
theorem v2BuildLoop_returns_iff {body : LoopBuildBody} {s : BuilderState} {l : Lookups} :
    (∃ trigger t, (v2BuildLoop env body).Runs s l (.ok trigger) t) ↔
      ∃ l₁ l₂ l₃, l = l₁ ++ (l₂ ++ l₃) ∧ BuildsAlone env l₁ (body.beforeLoop.getD []) ∧
        BuildsAlone env l₂ body.loopActions ∧ BuildsAlone env l₃ (body.afterLoop.getD []) := by
  constructor
  · rintro ⟨trigger, t, h⟩
    obtain ⟨l₁, l₂, l₃, before, inside, after, u₁, u₂, u₃, rfl, h₁, h₂, h₃, -⟩ :=
      runs_v2BuildLoop_iff.1 h
    obtain ⟨inside', u₂', h₂', -⟩ := restarts_buildActionChain u₁ l₂ inside u₂ h₂ ⟨1, []⟩
    obtain ⟨after', u₃', h₃', -⟩ := restarts_buildActionChain u₂ l₃ after u₃ h₃ ⟨1, []⟩
    exact ⟨l₁, l₂, l₃, rfl, ⟨[], before, u₁, h₁⟩, ⟨[], inside', u₂', h₂'⟩, ⟨[], after', u₃', h₃'⟩⟩
  · rintro ⟨l₁, l₂, l₃, rfl, ⟨i₁, before, u₁, h₁⟩, ⟨i₂, inside, u₂, h₂⟩, ⟨i₃, after, u₃, h₃⟩⟩
    obtain ⟨before', v₁, h₁', -⟩ := restarts_buildActionChain _ _ _ _ h₁ ⟨1, []⟩
    obtain ⟨inside', v₂, h₂', -⟩ := restarts_buildActionChain _ _ _ _ h₂ v₁
    obtain ⟨after', v₃, h₃', -⟩ := restarts_buildActionChain _ _ _ _ h₃ v₂
    exact ⟨_, _, runs_v2BuildLoop_iff.2 ⟨l₁, l₂, l₃, before', inside', after', v₁, v₂, v₃, rfl, h₁',
      h₂', h₃', rfl, rfl⟩⟩

end Restart

/-! ### The main result -/

/-- **The structure of what is built.** A chain has the steps of its specifications, at the same
places and under the names `step_1` to `step_n`, whether the specifications were validated or not.
The loop builder returns whenever its three lists can be built, and puts the loop, with the steps of
its body inside it, between the steps of the two chains around it. -/
theorem chain_and_loop_structure (env : BuilderEnv) :
    (∀ specs chain info l t, (buildActionChain env specs).Runs ⟨1, info⟩ l (.ok chain) t →
      Mirrors env l specs.listItems chain ∧ NumberedFromOne (chainForest chain)) ∧
    ∀ body s l, ((∃ trigger t, (v2BuildLoop env body).Runs s l (.ok trigger) t) ↔
        ∃ l₁ l₂ l₃, l = l₁ ++ (l₂ ++ l₃) ∧ BuildsAlone env l₁ (body.beforeLoop.getD []) ∧
          BuildsAlone env l₂ body.loopActions ∧ BuildsAlone env l₃ (body.afterLoop.getD [])) ∧
      ∀ trigger t, (v2BuildLoop env body).Runs s l (.ok trigger) t →
        ∃ first, trigger = whTrigger (py "استقبال بيانات") first ∧ LoopMirrors env l body first ∧
          NumberedFromOne (chainForest first) := by
  refine ⟨fun specs chain info l t h ↦ ?_, fun body s l ↦ ⟨v2BuildLoop_returns_iff,
    fun trigger t h ↦ loopMirrors_of_runs h⟩⟩
  have hbuilt := built_of_runs h
  obtain ⟨k, N, -, hperm, hnames⟩ := names_of_built_chain hbuilt
  exact ⟨mirrors_of_built hbuilt, numberedFromOne_of_perm hnames hperm⟩

/-- A loop between the nested steps and a step that runs code; its body has the nested steps. -/
def nestedLoopBody : LoopBuildBody where
  displayName := text "Loop"
  itemsExpression := text "items"
  loopActions := nestedSpecs
  beforeLoop := some nestedSpecs
  afterLoop := some [codeSpec]

/-- The nested steps are built, alone and around a loop. -/
theorem structure_of_nestedSpecs :
    (Mirrors gmailEnv nestedLookups nestedSpecs nestedChain ∧
      NumberedFromOne (chainForest nestedChain)) ∧
    ∃ trigger t first, (v2BuildLoop gmailEnv nestedLoopBody).Runs ⟨1, []⟩
        (nestedLookups ++ (nestedLookups ++ [])) (.ok trigger) t ∧
      trigger = whTrigger (py "استقبال بيانات") first ∧
      LoopMirrors gmailEnv (nestedLookups ++ (nestedLookups ++ [])) nestedLoopBody first ∧
      NumberedFromOne (chainForest first) := by
  obtain ⟨t, hrun⟩ := runs_nestedSpecs
  obtain ⟨hreturns, hmirrors⟩ := (chain_and_loop_structure gmailEnv).2 nestedLoopBody ⟨1, []⟩
    (nestedLookups ++ (nestedLookups ++ []))
  have hnested : BuildsAlone gmailEnv nestedLookups nestedSpecs := ⟨[], nestedChain, t, hrun⟩
  have hchain : (buildActionChain gmailEnv (.list [codeSpec])).Runs ⟨1, []⟩ []
      (.ok (codeNode 1 .null)) (BuilderState.reported ⟨1, []⟩
        (structureReport (stepName 1) "CODE" (py "Code") [])) := by
    rw [buildActionChain_list gmailEnv (List.cons_ne_nil _ _)]
    exact runs_chain_one (runs_codeSpec gmailEnv .null _) rfl
  have hcode : BuildsAlone gmailEnv [] [codeSpec] := ⟨[], _, _, hchain⟩
  obtain ⟨trigger, u, hloop⟩ := hreturns.2 ⟨_, _, _, rfl, hnested, hnested, hcode⟩
  obtain ⟨first, hfirst⟩ := hmirrors trigger u hloop
  exact ⟨(chain_and_loop_structure gmailEnv).1 _ _ _ _ t hrun, trigger, u, first, hloop, hfirst⟩

end Siyadah
