import SiyadahOrchestrator.Build.Derivation

/-!
# The numbers of the steps

A step refers to the output of another one by the other one's name, `step_N`. The steps of a chain
are executed from the first one on, but `_build_action_chain` builds them from the last one on, and
a step takes its number when its building begins. So the numbers follow the order of execution
exactly when no list of steps, at any depth, has more than one step (`numbering_iff`); the builder
of linear lists, `v2_build_smart`, numbers forward (`smart_numbered`). The reports are sorted by
number, so they come in the order of execution in the same cases.
-/

namespace Siyadah

open Dialogue PyValue

/-! ### The order of execution -/

theorem weight_entryD_lt {v : PyValue} (h : v.isDict = true) (key : String) :
    (v.entryD key).weight < v.weight := by
  cases v with
  | dict fields => exact weight_lookup_getD_lt fields _ Leaf.null
  | _ => exact absurd h (by simp [isDict])

theorem weight_le_of_mem_listItems {v w : PyValue} (h : w ∈ v.listItems) : w.weight ≤ v.weight := by
  cases v with
  | list vs => exact weight_le_weightItems h
  | _ => exact absurd h List.not_mem_nil

/-- The steps from `node` on, in the order of their execution: a step, then its branches or its
loop, then the step after it. -/
def executionOrder (node : PyValue) : List PyValue :=
  if _h : node.isDict = true ∧ node.truthy = true then
    node :: ((node.entryD "children").listItems.attach.flatMap fun c ↦ executionOrder c.1) ++
      executionOrder (node.entryD "firstLoopAction") ++ executionOrder (node.entryD "nextAction")
  else []
termination_by node.weight
decreasing_by
  · exact Nat.lt_of_le_of_lt (weight_le_of_mem_listItems c.2) (weight_entryD_lt _h.1 "children")
  · exact weight_entryD_lt _h.1 "firstLoopAction"
  · exact weight_entryD_lt _h.1 "nextAction"

/-- The names of the steps in the order of their execution. -/
def stepNames (node : PyValue) : List PyValue :=
  (executionOrder node).map fun step ↦ step.entryD "name"

theorem executionOrder_of_falsy {node : PyValue} (h : node.truthy = false) :
    executionOrder node = [] := by
  rw [executionOrder, dif_neg fun hnode ↦ absurd hnode.2 (by simp [h])]

theorem executionOrder_of_node {node : PyValue} (hdict : node.isDict = true)
    (htruthy : node.truthy = true) : executionOrder node =
      node :: (((node.entryD "children").listItems.flatMap executionOrder ++
        executionOrder (node.entryD "firstLoopAction")) ++
        executionOrder (node.entryD "nextAction")) := by
  rw [executionOrder, dif_pos ⟨hdict, htruthy⟩, List.cons_append, List.cons_append]
  refine congrArg (fun l ↦ _ :: ((l ++ _) ++ _)) ?_
  exact (List.flatMap_subtype fun _ _ ↦ rfl).trans (by rw [List.unattach_attach])

/-- The order of execution from a step on, from the entries of the step. -/
theorem executionOrder_withNext {fields : List (String × PyValue)} {name next : PyValue}
    (hname : fields.lookup "name" = some name) (hnext : fields.lookup "nextAction" = none) :
    executionOrder (withNext fields next) =
      withNext fields next :: ((((fields.lookup "children").getD .null).listItems.flatMap
        executionOrder ++ executionOrder ((fields.lookup "firstLoopAction").getD .null)) ++
        executionOrder next) := by
  have hrest : executionOrder ((withNext fields next).entryD "nextAction") =
      executionOrder next := by
    rw [entryD_nextAction hnext]
    split
    · rfl
    · rename_i hfalsy
      exact (executionOrder_of_falsy rfl).trans
        (executionOrder_of_falsy (by simpa using hfalsy)).symm
  rw [executionOrder_of_node rfl (truthy_withNext hname), hrest, entryD_withNext (by decide),
    entryD_withNext (by decide)]

/-- The order of execution from a step on that has nothing inside it. -/
theorem executionOrder_leaf {fields : List (String × PyValue)} {name next : PyValue}
    (hname : fields.lookup "name" = some name) (hnext : fields.lookup "nextAction" = none)
    (hchildren : fields.lookup "children" = none)
    (hfirst : fields.lookup "firstLoopAction" = none) :
    executionOrder (withNext fields next) = withNext fields next :: executionOrder next := by
  have hnull : executionOrder .null = [] := executionOrder_of_falsy rfl
  rw [executionOrder_withNext hname hnext, hchildren, hfirst, Option.getD_none, hnull]
  rfl

theorem stepNames_of_falsy {node : PyValue} (h : node.truthy = false) : stepNames node = [] := by
  rw [stepNames, executionOrder_of_falsy h]
  rfl

/-- The names from a step on, from the entries of the step. -/
theorem stepNames_withNext {fields : List (String × PyValue)} {name next : PyValue}
    (hname : fields.lookup "name" = some name) (hnext : fields.lookup "nextAction" = none) :
    stepNames (withNext fields next) =
      name :: (((fields.lookup "children").getD .null).listItems.flatMap stepNames ++
        stepNames ((fields.lookup "firstLoopAction").getD .null) ++ stepNames next) := by
  rw [stepNames, executionOrder_withNext hname hnext, List.map_cons, List.map_append,
    List.map_append, List.map_flatMap, entryD_withNext (by decide), hname]
  rfl

/-! ### Numbers -/

/-- The name that a number gives. -/
def numberName (n : ℕ) : PyValue := .str (stepName n)

/-- No list of steps in these lists has more than one step, at any depth. -/
def OneByOne (lists : List (List PyValue)) : Prop :=
  ∀ specs ∈ lists, ∀ inner, ListWithin specs inner → inner.length ≤ 1

theorem oneByOne_nil : OneByOne [] := fun _ h ↦ absurd h List.not_mem_nil

theorem oneByOne_append {lists lists' : List (List PyValue)} :
    OneByOne (lists ++ lists') ↔ OneByOne lists ∧ OneByOne lists' := List.forall_mem_append

theorem oneByOne_chain_nil : OneByOne [[]] := by
  intro specs hspecs inner hinner
  obtain rfl := List.mem_singleton.1 hspecs
  rcases hinner.cases_head with rfl | ⟨_, ⟨spec, hspec, -⟩, -⟩
  · exact Nat.zero_le 1
  · exact absurd hspec List.not_mem_nil

/-- A list of one step counts for what is inside the step. -/
theorem oneByOne_chain_singleton {spec : PyValue} :
    OneByOne [[spec]] ↔ OneByOne (nestedLists spec) := by
  constructor
  · intro h specs hspecs inner hinner
    exact h [spec] (List.mem_singleton_self _) inner
      (.head ⟨spec, List.mem_singleton_self spec, hspecs⟩ hinner)
  · intro h specs hspecs inner hinner
    obtain rfl := List.mem_singleton.1 hspecs
    rcases hinner.cases_head with rfl | ⟨specs', ⟨spec', hspec', hnested⟩, hrest⟩
    · exact Nat.le_refl 1
    · obtain rfl := List.mem_singleton.1 hspec'
      exact h specs' hnested inner hrest

theorem not_oneByOne_of_two {spec spec' : PyValue} {specs : List PyValue} :
    ¬ OneByOne [spec :: spec' :: specs] := by
  intro h
  have hlength := h _ (List.mem_singleton_self _) _ .refl
  rw [List.length_cons, List.length_cons] at hlength
  omega

/-- The lists of steps that a judgement is about. -/
def Judgement.lists : Judgement → List (List PyValue)
  | .step spec _ _ => nestedLists spec
  | .chain specs _ => [specs]
  | .branches bs _ => bs.map branchActions

/-- In the order of execution, the steps that are built have these numbers; the first one to be
taken is `c`. -/
def Judgement.HasNumbers (c : ℕ) (N : List ℕ) : Judgement → Prop
  | .step _ next node =>
    N.head? = some c ∧ stepNames node = N.map numberName ++ stepNames next
  | .chain specs node => (specs = [] ↔ N = []) ∧ stepNames node = N.map numberName
  | .branches _ built => built.flatMap (fun b ↦ stepNames b.2) = N.map numberName

section Numbers

variable {c k₁ k₂ : ℕ} {N₁ N₂ : List ℕ}

theorem perm_range'_append (h₁ : N₁.Perm (List.range' c k₁))
    (h₂ : N₂.Perm (List.range' (c + k₁) k₂)) :
    (N₁ ++ N₂).Perm (List.range' c (k₁ + k₂)) := by
  rw [← List.range'_append_1]
  exact h₁.append h₂

/-- Two blocks of numbers are in order when each of them is. -/
theorem append_eq_range'_iff (h₁ : N₁.Perm (List.range' c k₁)) :
    N₁ ++ N₂ = List.range' c (k₁ + k₂) ↔
      N₁ = List.range' c k₁ ∧ N₂ = List.range' (c + k₁) k₂ := by
  rw [← List.range'_append_1]
  exact ⟨fun h ↦ List.append_inj h h₁.length_eq, fun ⟨h, h'⟩ ↦ h ▸ h' ▸ rfl⟩

theorem perm_range'_cons (h : N₁.Perm (List.range' (c + 1) k₁)) :
    (c :: N₁).Perm (List.range' c (1 + k₁)) := by
  rw [Nat.add_comm, List.range'_succ]
  exact h.cons c

theorem cons_eq_range'_iff : c :: N₁ = List.range' c (1 + k₁) ↔ N₁ = List.range' (c + 1) k₁ := by
  rw [Nat.add_comm, List.range'_succ, List.cons.injEq]
  exact and_iff_right rfl

end Numbers

section Built

variable {env : BuilderEnv} {l : Lookups}
  {j : Judgement} {s t : BuilderState}

theorem stepNames_piece {spec : PyValue} (p : PieceStep env l spec) (sname : PyStr)
    (next : PyValue) : stepNames (p.node sname next) = .str sname :: stepNames next := by
  rw [PieceStep.node, buildAction, stepNames_withNext rfl rfl]
  refine congrArg (List.cons _) ?_
  show [] ++ stepNames .null ++ _ = _
  rw [stepNames_of_falsy rfl]
  rfl

theorem stepNames_code (sname : PyStr) (display code input next : PyValue) :
    stepNames (buildCodeStep sname display code input next) = .str sname :: stepNames next := by
  rw [buildCodeStep, stepNames_withNext rfl rfl]
  refine congrArg (List.cons _) ?_
  show [] ++ stepNames .null ++ _ = _
  rw [stepNames_of_falsy rfl]
  rfl

theorem stepNames_router (sname : PyStr) (display next : PyValue)
    (branches children : List PyValue) :
    stepNames (buildRouterStep sname display branches children next) =
      .str sname :: (children.flatMap stepNames ++ stepNames next) := by
  rw [buildRouterStep, stepNames_withNext rfl rfl]
  refine congrArg (List.cons _) ?_
  show children.flatMap stepNames ++ stepNames .null ++ _ = _
  rw [stepNames_of_falsy rfl, List.append_nil]

theorem stepNames_loop (sname : PyStr) (display items first next : PyValue) :
    stepNames (buildLoopStep sname display items first next) =
      .str sname :: (stepNames first ++ stepNames next) := by
  by_cases hfirst : first.truthy = true
  · rw [buildLoopStep, if_pos hfirst, stepNames_withNext rfl rfl]
    rfl
  · rw [buildLoopStep, if_neg hfirst, stepNames_withNext rfl rfl]
    have hfalsy : stepNames first = [] := stepNames_of_falsy (by simpa using hfirst)
    rw [hfalsy]
    refine congrArg (List.cons _) ?_
    show [] ++ stepNames .null ++ _ = _
    rw [stepNames_of_falsy rfl]
    rfl

/-- **The numbers of what is built.** They are those that the counter has gone through; they are in
order exactly when no list has more than one step. -/
theorem numbers_of_built (h : Built env j s l t) : ∃ k N, t.counter = s.counter + k ∧
    N.Perm (List.range' s.counter k) ∧ j.HasNumbers s.counter N ∧
      (N = List.range' s.counter k ↔ OneByOne j.lists) := by
  induction h with
  | nil =>
    exact ⟨0, [], rfl, .refl _, ⟨⟨fun _ ↦ rfl, fun _ ↦ rfl⟩, stepNames_of_falsy rfl⟩,
      iff_of_true rfl oneByOne_chain_nil⟩
  | @cons spec specs chain node s u t l₁ l₂ hdict hchain hstep ihchain ihstep =>
    obtain ⟨k₁, N₁, hu, hperm₁, ⟨hnil, hnames₁⟩, hiff₁⟩ := ihchain
    obtain ⟨k₂, N₂, ht, hperm₂, ⟨hhead, hnames₂⟩, hiff₂⟩ := ihstep
    rw [hu] at ht hperm₂ hhead hiff₂
    refine ⟨k₁ + k₂, N₂ ++ N₁, by omega, (List.perm_append_comm).trans
      (perm_range'_append hperm₁ hperm₂), ⟨?_, ?_⟩, ?_⟩
    · refine iff_of_false (List.cons_ne_nil spec specs) fun hempty ↦ ?_
      rw [(List.append_eq_nil_iff.1 hempty).1] at hhead
      exact absurd hhead (by simp)
    · rw [hnames₂, hnames₁, List.map_append]
    · cases specs with
      | nil =>
        obtain rfl := hnil.1 rfl
        have hk : k₁ = 0 := by simpa using hperm₁.length_eq.symm
        subst hk
        rw [List.append_nil, Nat.zero_add]
        exact hiff₂.trans oneByOne_chain_singleton.symm
      | cons spec' specs =>
        -- The step that is executed first has a number that is too large.
        refine iff_of_false (fun horder ↦ ?_) not_oneByOne_of_two
        have hpos : k₁ ≠ 0 := by
          rintro rfl
          exact absurd (hnil.2 (by simpa using hperm₁)) (List.cons_ne_nil spec' specs)
        rw [List.head?_eq_some_iff] at hhead
        obtain ⟨N, rfl⟩ := hhead
        obtain ⟨m, hm⟩ := Nat.exists_eq_succ_of_ne_zero hpos
        rw [hm, Nat.succ_add, List.range'_succ, List.cons_append] at horder
        have := (List.cons.inj horder).1
        omega
  | noBranch => exact ⟨0, [], rfl, .refl _, rfl, iff_of_true rfl oneByOne_nil⟩
  | @branch b bs definition child built s u t l₁ l₂ hdefinition hchild hrest ihchild ihrest =>
    obtain ⟨k₁, N₁, hu, hperm₁, ⟨-, hnames₁⟩, hiff₁⟩ := ihchild
    obtain ⟨k₂, N₂, ht, hperm₂, hnames₂, hiff₂⟩ := ihrest
    rw [hu] at ht hperm₂ hiff₂
    refine ⟨k₁ + k₂, N₁ ++ N₂, by omega, perm_range'_append hperm₁ hperm₂, ?_, ?_⟩
    · show stepNames child ++ built.flatMap _ = _
      rw [hnames₁, hnames₂, List.map_append]
    · rw [append_eq_range'_iff hperm₁, hiff₁, hiff₂]
      show _ ↔ OneByOne ([branchActions b] ++ bs.map branchActions)
      exact oneByOne_append.symm
  | @piece spec next s l p =>
    refine ⟨1, [s.counter], rfl, .refl _, ⟨rfl, stepNames_piece p _ next⟩, iff_of_true rfl ?_⟩
    show OneByOne (nestedLists spec)
    rw [nestedLists_piece p.typed]
    exact oneByOne_nil
  | @code spec next display code input s htype hdisplay hcode hinput =>
    refine ⟨1, [s.counter], rfl, .refl _, ⟨rfl, stepNames_code _ display code input next⟩,
      iff_of_true rfl ?_⟩
    show OneByOne (nestedLists spec)
    rw [nestedLists_code htype]
    exact oneByOne_nil
  | @router spec next display built more s t l htype hdisplay hbranches ih =>
    obtain ⟨k, N, ht, hperm, hnames, hiff⟩ := ih
    refine ⟨1 + k, s.counter :: N, by rw [ht]; show _ + 1 + k = _; omega, perm_range'_cons hperm,
      ⟨rfl, ?_⟩, ?_⟩
    · rw [stepNames_router, List.flatMap_map, hnames]
      rfl
    · rw [cons_eq_range'_iff]
      show _ ↔ OneByOne (nestedLists spec)
      rw [nestedLists_router htype]
      exact hiff
  | @loop spec next display items first more s t l htype hdisplay hitems hfirst ih =>
    obtain ⟨k, N, ht, hperm, ⟨-, hnames⟩, hiff⟩ := ih
    refine ⟨1 + k, s.counter :: N, by rw [ht]; show _ + 1 + k = _; omega, perm_range'_cons hperm,
      ⟨rfl, ?_⟩, ?_⟩
    · rw [stepNames_loop, hnames]
      rfl
    · rw [cons_eq_range'_iff]
      show _ ↔ OneByOne (nestedLists spec)
      rw [nestedLists_loop htype]
      exact hiff

theorem entryD_step_structureReport (sname : PyStr) (structure' : String) (display : PyValue)
    (more : List (String × PyValue)) :
    (structureReport sname structure' display more).entryD "step" = .str sname := by
  rw [structureReport, entryD, entry_pyDict]
  rfl

theorem entryD_step_pieceReport (sname full : PyStr) (action version : PyValue)
    (schemaLoaded : Bool) (propertySettings : Fields) :
    (pieceReport sname full action version schemaLoaded propertySettings).entryD "step" =
      .str sname := by
  rw [pieceReport, entryD, entry_pyDict]
  rfl

/-- **The reports of what is built**, in the order of the numbers. -/
theorem reports_of_built (h : Built env j s l t) : ∃ k rows, t.counter = s.counter + k ∧
    t.stepsInfo = s.stepsInfo ++ rows ∧
      rows.map (·.entryD "step") = (List.range' s.counter k).map numberName := by
  -- A step reports right after it has taken its number, before anything inside it is built.
  have hbelow : ∀ {row : PyValue} {s t : BuilderState}, row.entryD "step" = numberName s.counter →
      (∃ k rows, t.counter = (s.reported row).counter + k ∧
        t.stepsInfo = (s.reported row).stepsInfo ++ rows ∧
          rows.map (·.entryD "step") = (List.range' (s.reported row).counter k).map numberName) →
      ∃ k rows, t.counter = s.counter + k ∧ t.stepsInfo = s.stepsInfo ++ rows ∧
        rows.map (·.entryD "step") = (List.range' s.counter k).map numberName := by
    rintro row s t hrow ⟨k, rows, hcounter, hinfo, hrows⟩
    refine ⟨1 + k, row :: rows, hcounter.trans (Nat.add_assoc _ _ _),
      hinfo.trans (List.append_assoc _ _ _), ?_⟩
    rw [Nat.add_comm 1 k, List.range'_succ, List.map_cons, List.map_cons, hrow, hrows]
    rfl
  have happend : ∀ {s u t : BuilderState},
      (∃ k rows, u.counter = s.counter + k ∧ u.stepsInfo = s.stepsInfo ++ rows ∧
        rows.map (·.entryD "step") = (List.range' s.counter k).map numberName) →
      (∃ k rows, t.counter = u.counter + k ∧ t.stepsInfo = u.stepsInfo ++ rows ∧
        rows.map (·.entryD "step") = (List.range' u.counter k).map numberName) →
      ∃ k rows, t.counter = s.counter + k ∧ t.stepsInfo = s.stepsInfo ++ rows ∧
        rows.map (·.entryD "step") = (List.range' s.counter k).map numberName := by
    rintro s u t ⟨k₁, rows₁, hu, hinfo₁, hrows₁⟩ ⟨k₂, rows₂, ht, hinfo₂, hrows₂⟩
    refine ⟨k₁ + k₂, rows₁ ++ rows₂, by omega, by rw [hinfo₂, hinfo₁, List.append_assoc], ?_⟩
    rw [List.map_append, hrows₁, hrows₂, hu, ← List.map_append, List.range'_append_1]
  induction h with
  | nil => exact ⟨0, [], rfl, (List.append_nil _).symm, rfl⟩
  | cons hdict hchain hstep ihchain ihstep => exact happend ihchain ihstep
  | noBranch => exact ⟨0, [], rfl, (List.append_nil _).symm, rfl⟩
  | branch hdefinition hchild hrest ihchild ihrest => exact happend ihchild ihrest
  | piece p =>
    exact hbelow (entryD_step_pieceReport _ _ _ _ _ _)
      ⟨0, [], rfl, (List.append_nil _).symm, rfl⟩
  | code htype hdisplay hcode hinput =>
    exact hbelow (entryD_step_structureReport _ _ _ _) ⟨0, [], rfl, (List.append_nil _).symm, rfl⟩
  | router htype hdisplay hbranches ih => exact hbelow (entryD_step_structureReport _ _ _ _) ih
  | loop htype hdisplay hitems hfirst ih => exact hbelow (entryD_step_structureReport _ _ _ _) ih

end Built

/-! ### The reports, sorted -/

section Runtime

variable (R : PyRuntime)

/-- `_key`. -/
def stepIndex (row : PyValue) : Except PyError ℤ := do
  let s ← row.get "step"
  match s.orElse (py "") with
  | .str s =>
    if (text "step_").isPrefixOf s then pure ((R.toInt (.str (s.drop 5))).getD 0) else pure 0
  | _ => pure 0

/-- `_sort_steps_info_chronological`. -/
def sortStepsInfoChronological (stepsInfo : List PyValue) : Except PyError (List PyValue) := do
  let keyed ← stepsInfo.mapM fun row ↦ (stepIndex R row).map fun n ↦ (n, row)
  pure ((keyed.mergeSort fun a b ↦ a.1 ≤ b.1).map Prod.snd)

variable {R}

theorem stepIndex_of_entryD {row : PyValue} {n : ℕ} (h : row.entryD "step" = numberName n) :
    stepIndex R row = .ok n := by
  have hdict : row.isDict = true := by
    cases row with
    | dict fields => rfl
    | _ => exact absurd h (by simp [entryD, entry, numberName])
  have hget : row.get "step" = .ok (numberName n) := getD_eq_ok_iff.2 ⟨hdict, h.symm⟩
  rw [stepIndex, hget]
  show Except.ok ((R.toInt (.str (digits n))).getD 0) = _
  rw [R.toInt_digits]
  rfl

/-- Reports that come in the order of their numbers stay where they are. -/
theorem sortStepsInfo_eq {rows : List PyValue} {c k : ℕ}
    (h : rows.map (·.entryD "step") = (List.range' c k).map numberName) :
    sortStepsInfoChronological R rows = .ok rows := by
  have hkeyed : rows.mapM (fun row ↦ (stepIndex R row).map fun n ↦ (n, row)) =
      .ok (((List.range' c k).map fun n : ℕ ↦ (n : ℤ)).zip rows) := by
    induction rows generalizing c k with
    | nil => rw [List.zip_nil_right]; rfl
    | cons row rows ih =>
      cases k with
      | zero => exact absurd h (by simp)
      | succ k =>
        rw [List.range'_succ, List.map_cons, List.map_cons, List.cons.injEq] at h
        rw [List.mapM_cons, stepIndex_of_entryD h.1, ih h.2, List.range'_succ]
        rfl
  have hlength : rows.length = ((List.range' c k).map fun n : ℕ ↦ (n : ℤ)).length := by
    have := congrArg List.length h
    simpa using this
  rw [sortStepsInfoChronological, hkeyed]
  show Except.ok (List.map Prod.snd _) = _
  rw [List.mergeSort_of_pairwise, List.map_snd_zip (Nat.le_of_eq hlength)]
  have hsorted : ((List.range' c k).map fun n : ℕ ↦ (n : ℤ)).Pairwise (· ≤ ·) := by
    rw [List.pairwise_map]
    exact (List.pairwise_lt_range' (s := c) (n := k)).imp fun hlt ↦ by omega
  have hpair : (((List.range' c k).map fun n : ℕ ↦ (n : ℤ)).zip rows).Pairwise
      fun a b ↦ a.1 ≤ b.1 := by
    rw [← List.pairwise_map (f := Prod.fst), List.map_fst_zip (Nat.le_of_eq hlength.symm)]
    exact hsorted
  exact hpair.imp fun hle ↦ by simpa using hle

end Runtime

/-! ### The builder of linear lists -/

/-- `SmartStepSpec`. -/
structure SmartStepSpec where
  pieceName : PyStr
  actionName : PyStr
  inputConfig : Fields
  displayName : Option PyStr

/-- `step["nextAction"] = chain`, unless there is no chain yet. -/
def linkNext (step chain : PyValue) : PyValue :=
  match step with
  | .dict fields => .dict (if chain.truthy then upsert fields (text "nextAction") chain else fields)
  | v => v

/-- The last loop of `v2_build_smart`: the steps are linked from the last one to the first one. -/
def linkSteps (steps : List PyValue) : PyValue := steps.foldr linkNext .null

section Smart

variable (env : BuilderEnv) (conns : List (PyStr × PyStr))

/-- What `v2_build_smart` computes from the schema of a step. -/
def smartSettings (s : SmartStepSpec) (resolved : PyStr × PyValue) :
    Except EngineError PieceSettings := do
  let input := cleanInputConfig s.inputConfig
  if resolved.2.truthy then
    let version ← fromPy (resolvePieceVersion env.runtime resolved.2 resolved.1)
    let found ← fromPy (resolveAction resolved.2 (.str s.actionName))
    let props ← fromPy (getActionProps resolved.2 (.str found.1))
    let guarded ← fromPy (draftGuard props input)
    let generated ← fromPy (generatePropertySettings env.runtime props guarded)
    if found.1 ∈ found.2.map Prod.fst then
      pure { version := .str version
             action := .str found.1
             input := generated.2
             propertySettings := generated.1
             schemaLoaded := true }
    else .error (actionNotFound (.str s.actionName) resolved.1 found.2)
  else
    pure { version := .str (fallbackVersion (shortName resolved.1))
           action := .str s.actionName
           input := fallbackAutofill env input
           propertySettings := []
           schemaLoaded := false }

/-- `if conn_id and "auth" not in cleaned_cfg: cleaned_cfg["auth"] = C(conn_id)`. -/
def smartAuth (short : PyStr) (input : Fields) : Fields :=
  let connId := (conns.lookup short).getD []
  if connId ≠ [] ∧ text "auth" ∉ input.map Prod.fst then
    upsert input (text "auth") (.str (connectionRef connId))
  else input

/-- One pass of the first loop of `v2_build_smart`. -/
def buildSmartStep (s : SmartStepSpec) : BuilderM PyValue := do
  let resolved ← autoResolvePiece env.runtime s.pieceName
  let settings ← lift (smartSettings env s resolved)
  let sname := stepName (← nextNumber)
  let short := shortName resolved.1
  let display := ((s.displayName.map PyValue.str).getD .null).orElse
    (.str (short ++ text ": " ++ env.runtime.str settings.action))
  report (pieceReport sname resolved.1 settings.action settings.version settings.schemaLoaded
    settings.propertySettings)
  pure (buildAction sname (fullName resolved.1) settings.version settings.action
    (smartAuth conns short settings.input) display .null settings.propertySettings)

/-- The first loop of `v2_build_smart`. -/
def buildSmartSteps : List SmartStepSpec → BuilderM (List PyValue)
  | [] => pure []
  | s :: ss => do
    let step ← buildSmartStep env conns s
    let steps ← buildSmartSteps ss
    pure (step :: steps)

variable {env conns}

theorem linkNext_withNext {fields : List (String × PyValue)} (chain : PyValue)
    (h : "nextAction" ∉ fields.map Prod.fst) :
    linkNext (withNext fields .null) chain = withNext fields chain := by
  have hkey : text "nextAction" ∉ (fields.map fun f : String × PyValue ↦
      (PyStr.ofString f.1, f.2)).map Prod.fst := by
    rw [List.map_map]
    intro hmem
    obtain ⟨f, hf, heq⟩ := List.mem_map.1 hmem
    exact h (List.mem_map.2 ⟨f, hf, PyStr.ofString_injective heq⟩)
  have hnull : withNext fields .null = pyDict fields := congrArg pyDict (List.append_nil fields)
  rw [hnull, pyDict, linkNext, withNext, pyDict]
  by_cases hchain : chain.truthy = true
  · rw [if_pos hchain, if_pos hchain, upsert, if_neg hkey, List.map_append]
    rfl
  · rw [if_neg hchain, if_neg hchain, List.append_nil]

/-- **The builder of linear lists numbers the steps in the order of their execution.** -/
theorem smart_numbered {steps : List SmartStepSpec} {nodes : List PyValue} {s t : BuilderState}
    {l : List (CatalogQuery × Except EngineError PyValue)}
    (h : (buildSmartSteps env conns steps).Runs s l (.ok nodes) t) :
    stepNames (linkSteps nodes) = (List.range' s.counter steps.length).map numberName := by
  induction steps generalizing s t l nodes with
  | nil =>
    obtain ⟨-, hnodes, -⟩ := runs_pure_iff.1 h
    obtain rfl := Except.ok.inj hnodes
    exact stepNames_of_falsy rfl
  | cons spec steps ih =>
    obtain ⟨l₁, l₂, step, u, rfl, h₁, h₂⟩ := runs_bind_ok_iff.1 h
    obtain ⟨k₁, k₂, rest, v, rfl, hrest, hlast⟩ := runs_bind_ok_iff.1 h₂
    obtain ⟨-, hnodes, -⟩ := runs_pure_iff.1 hlast
    obtain rfl := Except.ok.inj hnodes
    obtain ⟨m₁, m₂, resolved, w, rfl, hresolve, hstep⟩ := runs_bind_ok_iff.1 h₁
    obtain ⟨rfl, -⟩ := stateless_autoResolvePiece _ _ _ _ _ hresolve
    rcases runs_lift_bind_iff.1 hstep with ⟨settings, -, hbuilt⟩ | ⟨e, -, -, herr, -⟩
    · obtain ⟨-, hnode, rfl⟩ := runs_pure_iff.1 hbuilt
      obtain rfl := Except.ok.inj hnode
      show stepNames (linkNext (buildAction _ _ _ _ _ _ .null _) (linkSteps rest)) = _
      rw [buildAction, linkNext_withNext _ (by simp), stepNames_withNext rfl rfl, ih hrest]
      rw [List.length_cons, List.range'_succ, List.map_cons]
      refine congrArg (List.cons _) ?_
      show [] ++ stepNames .null ++ _ = _
      rw [stepNames_of_falsy rfl]
      rfl
    · exact absurd herr (by simp)

end Smart

/-! ### The main result -/

/-- What is promised of the numbers: the `i`-th step in the order of execution is `step_i`, and the
sorted reports are in the order of execution. -/
structure NumberedInOrder (R : PyRuntime) (chain : PyValue) (stepsInfo : List PyValue) : Prop where
  named : ∀ i step, (executionOrder chain)[i]? = some step →
    step.entryD "name" = numberName (i + 1)
  reported : ∃ rows, sortStepsInfoChronological R stepsInfo = .ok rows ∧
    rows.map (·.entryD "step") = stepNames chain

theorem numberName_injective : Function.Injective numberName := by
  intro m n h
  exact digits_injective (List.append_cancel_left (PyValue.str.inj h))

/-- The steps have the numbers of their positions. -/
theorem named_iff {chain : PyValue} : (∀ i step, (executionOrder chain)[i]? = some step →
    step.entryD "name" = numberName (i + 1)) ↔
      stepNames chain = (List.range' 1 (executionOrder chain).length).map numberName := by
  rw [stepNames]
  constructor
  · intro h
    refine List.ext_getElem? fun i ↦ ?_
    rw [List.getElem?_map, List.getElem?_map]
    by_cases hi : i < (executionOrder chain).length
    · rw [List.getElem?_eq_getElem hi, List.getElem?_range' hi, Option.map_some, Option.map_some,
        h i _ (List.getElem?_eq_getElem hi)]
      exact congrArg (fun n ↦ some (numberName n)) (by omega)
    · rw [List.getElem?_eq_none (by omega), List.getElem?_eq_none (by simpa using hi)]
      rfl
  · intro h i step hstep
    obtain ⟨hi, rfl⟩ := List.getElem?_eq_some_iff.1 hstep
    have hget := congrArg (·[i]?) h
    rw [List.getElem?_map, List.getElem?_map, hstep, List.getElem?_range' hi] at hget
    refine (Option.some.inj hget).trans (congrArg numberName ?_)
    omega

/-- **The steps are numbered in the order of their execution exactly when no list of steps, at any
depth, has more than one step.** -/
theorem numbering_iff (env : BuilderEnv) {specs chain : PyValue} {t : BuilderState}
    {l : List (CatalogQuery × Except EngineError PyValue)}
    (h : (buildActionChain env specs).Runs ⟨1, []⟩ l (.ok chain) t) :
    NumberedInOrder env.runtime chain t.stepsInfo ↔
      ∀ inner, ListWithin specs.listItems inner → inner.length ≤ 1 := by
  have hbuilt := built_of_runs h
  obtain ⟨k, N, ht, hperm, ⟨-, hnames⟩, hiff⟩ := numbers_of_built hbuilt
  obtain ⟨k', rows, ht', hinfo, hrows⟩ := reports_of_built hbuilt
  obtain rfl : k' = k := by omega
  have hlength : (executionOrder chain).length = k' := by
    have hcount := congrArg List.length hnames
    rw [stepNames, List.length_map, List.length_map, hperm.length_eq, List.length_range'] at hcount
    exact hcount
  have horder : stepNames chain = (List.range' 1 k').map numberName ↔ N = List.range' 1 k' := by
    rw [hnames]
    exact (List.map_injective_iff.2 numberName_injective).eq_iff
  have hone : OneByOne [specs.listItems] ↔
      ∀ inner, ListWithin specs.listItems inner → inner.length ≤ 1 := List.forall_mem_singleton
  refine Iff.trans ?_ (horder.trans (hiff.trans hone))
  constructor
  · intro hnumbered
    rw [← hlength]
    exact named_iff.1 hnumbered.named
  · intro hinorder
    refine ⟨named_iff.2 (hlength.symm ▸ hinorder), rows, ?_, hrows.trans hinorder.symm⟩
    rw [show t.stepsInfo = rows from hinfo]
    exact sortStepsInfo_eq hrows

/-- A step of the type `CODE`, with nothing else said. -/
def codeSpec : PyValue := pyDict [("type", py "CODE")]

/-- What is built of it. -/
def codeNode (n : ℕ) (next : PyValue) : PyValue :=
  buildCodeStep (stepName n) (py "Code")
    (py "export const code = async (inputs) => \x7b return inputs; \x7d;") .null next

theorem runs_codeSpec (env : BuilderEnv) (next : PyValue) (s : BuilderState) :
    (buildStepFromSpec env codeSpec next).Runs s [] (.ok (codeNode s.counter next))
      (s.reported (structureReport (stepName s.counter) "CODE" (py "Code") [])) := by
  rw [buildStepFromSpec]
  exact ⟨rfl, rfl⟩

theorem stepNames_codeNode (n : ℕ) (next : PyValue) :
    stepNames (codeNode n next) = numberName n :: stepNames next := stepNames_code _ _ _ _ _

theorem runs_two_codeSpecs (env : BuilderEnv) :
    ∃ t, (buildActionChain env (.list [codeSpec, codeSpec])).Runs ⟨1, []⟩ []
      (.ok (codeNode 2 (codeNode 1 .null))) t := by
  have h₀ : (buildChainFrom env (buildStepFromSpec env) id 2 3 []).Runs ⟨1, []⟩ []
      (.ok .null) ⟨1, []⟩ := runs_pure_iff.2 ⟨rfl, rfl, rfl⟩
  have h₁ := runs_chain_cons h₀ (runs_codeSpec env .null _) rfl
  rw [buildActionChain_list env (List.cons_ne_nil _ _)]
  exact ⟨_, runs_chain_cons h₁ (runs_codeSpec env _ _) rfl⟩

/-- Of two steps, the first one is `step_2`. -/
theorem two_steps_numbered_backward : ∃ env specs l chain t,
    (buildActionChain env specs).Runs ⟨1, []⟩ l (.ok chain) t ∧
      ¬ NumberedInOrder env.runtime chain t.stepsInfo := by
  obtain ⟨t, hrun⟩ := runs_two_codeSpecs ⟨plainRuntime, [], []⟩
  refine ⟨_, _, _, _, t, hrun, fun h ↦ ?_⟩
  have hnames := named_iff.1 h.named
  rw [stepNames_codeNode] at hnames
  generalize (executionOrder _).length = k at hnames
  cases k with
  | zero => exact absurd hnames (by simp)
  | succ k =>
    rw [List.range'_succ, List.map_cons, List.cons.injEq] at hnames
    exact absurd (numberName_injective hnames.1) (by decide)

/-- A loop around a step of the type `CODE`. -/
def codeLoopSpec : PyValue :=
  pyDict [("type", py "LOOP"), ("loop_actions", .list [codeSpec])]

/-- What is built of it. -/
def codeLoopNode : PyValue :=
  buildLoopStep (stepName 1) (py "Loop") (py "\x7b\x7btrigger['body']['items']\x7d\x7d")
    (codeNode 2 .null) .null

/-- The reports on it. -/
def codeLoopReports : List PyValue :=
  [structureReport (stepName 1) "LOOP" (py "Loop")
    [("items_expression", py "\x7b\x7btrigger['body']['items']\x7d\x7d")],
    structureReport (stepName 2) "CODE" (py "Code") []]

theorem runs_codeLoopSpec (env : BuilderEnv) :
    (buildActionChain env (.list [codeLoopSpec])).Runs ⟨1, []⟩ [] (.ok codeLoopNode)
      ⟨3, codeLoopReports⟩ := by
  have hbody : ∀ s, (buildChainFrom env (buildStepFromSpec env) id 1 2 []).Runs s []
      (.ok .null) s := fun s ↦ runs_pure_iff.2 ⟨rfl, rfl, rfl⟩
  rw [buildActionChain_list env (List.cons_ne_nil _ _)]
  refine runs_chain_cons (hbody ⟨1, []⟩) ?_ rfl
  show (buildStepFromSpec env codeLoopSpec .null).Runs _ _ _ _
  rw [buildStepFromSpec]
  refine runs_evalPy_bind_ok_iff.2 ⟨py "LOOP", rfl, runs_nextNumber_bind_iff.2 ?_⟩
  rw [if_neg (by decide), if_neg (by decide), if_neg (by decide), if_pos (by decide)]
  refine runs_evalPy_bind_ok_iff.2 ⟨_, rfl, runs_evalPy_bind_ok_iff.2 ⟨_, rfl,
    runs_evalPy_bind_ok_iff.2 ⟨_, rfl, runs_report_bind_iff.2 (runs_evalPy_bind_ok_iff.2
      ⟨⟨.list [codeSpec], by decide⟩, rfl, ?_⟩)⟩⟩⟩
  exact runs_bind_ok_iff.2 ⟨[], [], _, _, rfl,
    runs_chain_cons (hbody _) (runs_codeSpec env .null _) rfl, runs_pure_iff.2 ⟨rfl, rfl, rfl⟩⟩

/-- The loop is `step_1`, and the step inside it is `step_2`. -/
theorem loop_numbered_in_order : NumberedInOrder plainRuntime codeLoopNode codeLoopReports := by
  refine (numbering_iff ⟨plainRuntime, [], []⟩ (runs_codeLoopSpec _)).2 ?_
  have hloop : OneByOne [[codeLoopSpec]] := by
    rw [oneByOne_chain_singleton, nestedLists_loop (by decide)]
    show OneByOne [[codeSpec]]
    rw [oneByOne_chain_singleton, nestedLists_code (by decide)]
    exact oneByOne_nil
  exact hloop _ (List.mem_singleton_self _)

/-! ### A nested request -/

/-- A schema of Gmail, with one action. -/
def gmailSchema : PyValue :=
  pyDict [("version", py "0.12.1"), ("actions", pyDict [("send_email", .dict [])])]

/-- The builder's surroundings, with one default connection. -/
def gmailEnv : BuilderEnv := ⟨plainRuntime, text "conn-default", []⟩

/-- A step that sends a notice with Gmail. -/
def noticeSpec : PyValue :=
  pyDict [("type", py "PIECE"), ("piece", py "gmail"), ("action_name", py "send_email"),
    ("input", pyDict [("subject", py "Paid")])]

/-- A branch that sends a notice on a condition. -/
def noticeBranch : PyValue :=
  pyDict [("name", py "Paid"), ("conditions", .list [.list [
    pyDict [("operator", py "TEXT_CONTAINS"), ("first_value", py "status"),
      ("second_value", py "paid")]]]), ("actions", .list [noticeSpec])]

/-- A branch that runs code otherwise. -/
def otherwiseBranch : PyValue :=
  pyDict [("branch_type", py "FALLBACK"), ("actions", .list [codeSpec])]

/-- A router with both branches. -/
def noticeRouterSpec : PyValue :=
  pyDict [("type", py "ROUTER"), ("branches", .list [noticeBranch, otherwiseBranch])]

/-- A loop that sends a notice for each item. -/
def noticeLoopSpec : PyValue :=
  pyDict [("type", py "LOOP"), ("loop_actions", .list [noticeSpec])]

/-- The router, and then the loop. -/
def nestedSpecs : List PyValue := [noticeRouterSpec, noticeLoopSpec]

/-- What is built of the step. -/
def noticeNode (n : ℕ) (next : PyValue) : PyValue :=
  buildAction (stepName n) (fullName (text "gmail")) (py "~0.12.1") (py "send_email")
    [(text "subject", py "Paid"), (text "auth", .str (connectionRef (text "conn-default")))]
    (py "gmail: send_email") next []

/-- The definitions of the branches. -/
def noticeDefinitions : List PyValue :=
  [conditionBranch (py "Paid")
    [.list [cond (py "TEXT_CONTAINS") (py "status") (py "paid")]], fallbackBranch (py "Otherwise")]

/-- What is built of the request: the loop is `step_1`, and the router is `step_3`. -/
def nestedChain : PyValue :=
  buildRouterStep (stepName 3) (py "Router") noticeDefinitions
    [noticeNode 4 .null, codeNode 5 .null]
    (buildLoopStep (stepName 1) (py "Loop") (py "\x7b\x7btrigger['body']['items']\x7d\x7d")
      (noticeNode 2 .null) .null)

/-- The piece is looked up for each of its steps. -/
def nestedLookups : Lookups :=
  [(.schema (text "gmail"), .ok gmailSchema), (.schema (text "gmail"), .ok gmailSchema)]

theorem runs_noticeSpec (next : PyValue) (s : BuilderState) : ∃ t,
    t.counter = s.counter + 1 ∧ (buildStepFromSpec gmailEnv noticeSpec next).Runs s
      [(.schema (text "gmail"), .ok gmailSchema)] (.ok (noticeNode s.counter next)) t := by
  have hne : text "gmail" ≠ [] := by decide
  have hsettings : pieceSettings gmailEnv noticeSpec gmailSchema (text "gmail") = .ok
      { version := py "~0.12.1"
        action := py "send_email"
        input := [(text "subject", py "Paid"),
          (text "auth", .str (connectionRef (text "conn-default")))]
        propertySettings := []
        schemaLoaded := true } := rfl
  have htype : (stepType noticeSpec).isStr (text "PIECE") = true := by decide
  exact ⟨_, rfl, runs_buildStepFromSpec_piece rfl hne (fun s ↦ runs_autoResolvePiece rfl rfl)
    hsettings rfl htype⟩

/-- A chain of one step is the step. -/
theorem runs_chain_one {env : BuilderEnv} {β : Type} {build : β → PyValue → BuilderM PyValue}
    {specOf : β → PyValue} {total n : ℕ} {b : β} {node : PyValue} {s t : BuilderState} {l : Lookups}
    (hstep : (build b .null).Runs s l (.ok node) t) (hdict : (specOf b).isDict = true) :
    (buildChainFrom env build specOf total n [b]).Runs s l (.ok node) t := by
  have hrest : (buildChainFrom env build specOf total (n + 1) []).Runs s [] (.ok .null) s :=
    runs_pure_iff.2 ⟨rfl, rfl, rfl⟩
  exact runs_chain_cons hrest hstep hdict

theorem runs_noticeLoopSpec (s : BuilderState) : ∃ t, t.counter = s.counter + 2 ∧
    (buildStepFromSpec gmailEnv noticeLoopSpec .null).Runs s
      [(.schema (text "gmail"), .ok gmailSchema)]
      (.ok (buildLoopStep (stepName s.counter) (py "Loop")
        (py "\x7b\x7btrigger['body']['items']\x7d\x7d") (noticeNode (s.counter + 1) .null) .null))
      t := by
  obtain ⟨t, ht, hstep⟩ := runs_noticeSpec .null (s.reported (structureReport (stepName s.counter)
    "LOOP" (py "Loop") [("items_expression", py "\x7b\x7btrigger['body']['items']\x7d\x7d")]))
  have hbody : (buildChainFrom gmailEnv (buildStepFromSpec gmailEnv) id 1 1 [noticeSpec]).Runs _ _ _
      t := runs_chain_one hstep rfl
  refine ⟨t, ht, ?_⟩
  rw [buildStepFromSpec]
  refine runs_evalPy_bind_ok_iff.2 ⟨py "LOOP", rfl, runs_nextNumber_bind_iff.2 ?_⟩
  rw [if_neg (by decide), if_neg (by decide), if_neg (by decide), if_pos (by decide)]
  refine runs_evalPy_bind_ok_iff.2 ⟨_, rfl, runs_evalPy_bind_ok_iff.2 ⟨_, rfl,
    runs_evalPy_bind_ok_iff.2 ⟨_, rfl, runs_report_bind_iff.2 (runs_evalPy_bind_ok_iff.2
      ⟨⟨.list [noticeSpec], by decide⟩, rfl, ?_⟩)⟩⟩⟩
  exact runs_bind_ok_iff.2 ⟨_, [], _, _, rfl, hbody, runs_pure_iff.2 ⟨rfl, rfl, rfl⟩⟩

theorem runs_buildBranches_cons {β : Type} {branchOf : β → PyValue} {chain : β → BuilderM PyValue}
    {b : β} {bs : List β} {definition child : PyValue} {built : List (PyValue × PyValue)}
    {s u t : BuilderState} {l l₁ l₂ : Lookups} (hl : l = l₁ ++ l₂)
    (hdefinition : branchDefinition (orEmpty (branchOf b)) = .ok definition)
    (hchild : (chain b).Runs s l₁ (.ok child) u)
    (hrest : (buildBranches branchOf chain bs).Runs u l₂ (.ok built) t) :
    (buildBranches branchOf chain (b :: bs)).Runs s l (.ok ((definition, child) :: built)) t := by
  refine runs_evalPy_bind_ok_iff.2 ⟨definition, hdefinition, runs_bind_ok_iff.2
    ⟨l₁, l₂, child, u, hl, hchild, ?_⟩⟩
  exact runs_bind_ok_iff.2 ⟨l₂, [], built, t, (List.append_nil l₂).symm, hrest,
    runs_pure_iff.2 ⟨rfl, rfl, rfl⟩⟩

theorem runs_noticeRouterSpec (next : PyValue) (s : BuilderState) : ∃ t,
    (buildStepFromSpec gmailEnv noticeRouterSpec next).Runs s
      [(.schema (text "gmail"), .ok gmailSchema)]
      (.ok (buildRouterStep (stepName s.counter) (py "Router") noticeDefinitions
        [noticeNode (s.counter + 1) .null, codeNode (s.counter + 2) .null] next)) t := by
  obtain ⟨t, ht, hstep⟩ := runs_noticeSpec .null (s.reported (structureReport (stepName s.counter)
    "ROUTER" (py "Router") [("branches_count", .int 2)]))
  have hfirst : (buildChainFrom gmailEnv (buildStepFromSpec gmailEnv) id 1 1 [noticeSpec]).Runs
      _ _ _ t := runs_chain_one hstep rfl
  have hcode : ∃ u, (buildStepFromSpec gmailEnv codeSpec .null).Runs t []
      (.ok (codeNode (s.counter + 2) .null)) u := ⟨_, ht ▸ runs_codeSpec gmailEnv .null t⟩
  obtain ⟨u, hcode⟩ := hcode
  have hsecond : (buildChainFrom gmailEnv (buildStepFromSpec gmailEnv) id 1 1 [codeSpec]).Runs _ _ _
      u := runs_chain_one hcode rfl
  refine ⟨u, ?_⟩
  rw [buildStepFromSpec]
  refine runs_evalPy_bind_ok_iff.2 ⟨py "ROUTER", rfl, runs_nextNumber_bind_iff.2 ?_⟩
  rw [if_neg (by decide), if_neg (by decide), if_pos (by decide)]
  refine runs_evalPy_bind_ok_iff.2 ⟨⟨.list [noticeBranch, otherwiseBranch], by decide⟩, rfl,
    runs_evalPy_bind_ok_iff.2 ⟨_, rfl, runs_report_bind_iff.2 (runs_evalPy_bind_ok_iff.2
      ⟨[⟨noticeBranch, by decide⟩, ⟨otherwiseBranch, by decide⟩], rfl, ?_⟩)⟩⟩
  refine runs_bind_ok_iff.2 ⟨[(.schema (text "gmail"), .ok gmailSchema)], [],
    [(conditionBranch (py "Paid") [.list [cond (py "TEXT_CONTAINS") (py "status") (py "paid")]],
      noticeNode (s.counter + 1) .null),
      (fallbackBranch (py "Otherwise"), codeNode (s.counter + 2) .null)], u, rfl, ?_,
    runs_pure_iff.2 ⟨rfl, rfl, rfl⟩⟩
  exact runs_buildBranches_cons (List.append_nil _).symm rfl
    (runs_evalPy_bind_ok_iff.2 ⟨⟨.list [noticeSpec], by decide⟩, rfl, hfirst⟩)
    (runs_buildBranches_cons (List.append_nil _).symm rfl
      (runs_evalPy_bind_ok_iff.2 ⟨⟨.list [codeSpec], by decide⟩, rfl, hsecond⟩)
      (runs_pure_iff.2 ⟨rfl, rfl, rfl⟩))

/-- **The request is built.** -/
theorem runs_nestedSpecs : ∃ t, (buildActionChain gmailEnv (.list nestedSpecs)).Runs ⟨1, []⟩
    nestedLookups (.ok nestedChain) t := by
  obtain ⟨u, hu, hloop⟩ := runs_noticeLoopSpec ⟨1, []⟩
  obtain ⟨t, hrouter⟩ := runs_noticeRouterSpec (buildLoopStep (stepName 1) (py "Loop")
    (py "\x7b\x7btrigger['body']['items']\x7d\x7d") (noticeNode 2 .null) .null) u
  have hcounter : u.counter = 3 := hu
  rw [hcounter] at hrouter
  show ∃ t, (buildActionChain gmailEnv (.list [noticeRouterSpec, noticeLoopSpec])).Runs _ _ _ t
  rw [buildActionChain_list gmailEnv (List.cons_ne_nil _ _)]
  exact ⟨t, runs_chain_cons (runs_chain_one hloop rfl) hrouter rfl⟩

end Siyadah
