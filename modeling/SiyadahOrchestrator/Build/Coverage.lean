import SiyadahOrchestrator.Build.ComplexBuild
import SiyadahOrchestrator.Build.Structure

/-!
# No step escapes the guards

Both connection guards go by a list of pieces that is collected from the specifications, before
anything is built. Every step of what is then built belongs to one of the specifications
(`exists_stepOf`), and the collection reaches them all (`mem_extractPieces`), so a piece that a step
has been built for has been looked at. The two collections differ in the prefix of the names only.
-/

namespace Siyadah

open Dialogue PyValue

/-! ### Every step has a specification -/

/-- Every step of what is derived belongs to a specification. -/
def Judgement.Accounted : Judgement → Prop
  | .step spec next node => ∀ specs,
      (∀ n ∈ executionOrder next, ∃ spec', StepOf spec' n specs next) →
        node.entryD "nextAction" = next → ∀ n ∈ executionOrder node,
          ∃ spec', StepOf spec' n (spec :: specs) node
  | .chain specs node => ∀ n ∈ executionOrder node, ∃ spec, StepOf spec n specs node
  | .branches bs built => bs.length = built.length ∧ ∀ (i : ℕ) b child, bs[i]? = some b →
      (built.map Prod.snd)[i]? = some child →
        ∀ n ∈ executionOrder child, ∃ spec, StepOf spec n (branchActions b) child

section Accounted

variable {env : BuilderEnv} {l : Lookups}
  {j : Judgement} {s t : BuilderState}

/-- A step without anything inside it. -/
theorem accounted_leaf {fields : List (String × PyValue)} {name spec next : PyValue}
    (hname : fields.lookup "name" = some name) (hnext : fields.lookup "nextAction" = none)
    (hchildren : fields.lookup "children" = none)
    (hfirst : fields.lookup "firstLoopAction" = none) :
    (Judgement.step spec next (withNext fields next)).Accounted := by
  intro specs hrest hlink n hn
  rw [executionOrder_leaf hname hnext hchildren hfirst, List.mem_cons] at hn
  rcases hn with rfl | hn
  · exact ⟨spec, .head⟩
  · obtain ⟨spec', hspec'⟩ := hrest n hn
    refine ⟨spec', .next ?_⟩
    rw [hlink]
    exact hspec'

/-- The steps of a node: itself, and those at the ends of its links. -/
theorem executionOrder_cases {node n : PyValue} (h : n ∈ executionOrder node) : n = node ∨
    (∃ (i : ℕ) (c : PyValue), (node.entryD "children").listItems[i]? = some c ∧
      n ∈ executionOrder c) ∨
      n ∈ executionOrder (node.entryD "firstLoopAction") ∨
        n ∈ executionOrder (node.entryD "nextAction") := by
  by_cases hnode : node.isDict = true ∧ node.truthy = true
  · rw [executionOrder_of_node hnode.1 hnode.2, List.mem_cons, List.mem_append,
      List.mem_append] at h
    rcases h with h | (h | h) | h
    · exact .inl h
    · obtain ⟨c, hc, hn⟩ := List.mem_flatMap.1 h
      obtain ⟨i, hi⟩ := List.mem_iff_getElem?.1 hc
      exact .inr (.inl ⟨i, c, hi, hn⟩)
    · exact .inr (.inr (.inl h))
    · exact .inr (.inr (.inr h))
  · rw [executionOrder, dif_neg hnode] at h
    exact absurd h List.not_mem_nil

/-- **Every step that is built belongs to a specification.** -/
theorem accounted_of_built (h : Built env j s l t) : j.Accounted := by
  induction h with
  | nil =>
    intro n hn
    rw [executionOrder_of_falsy rfl] at hn
    exact absurd hn List.not_mem_nil
  | cons hdict hchain hstep ihchain ihstep =>
    exact ihstep _ ihchain (nextAction_of_built hchain hstep)
  | noBranch => exact ⟨rfl, fun i b child hb ↦ absurd hb (by simp)⟩
  | @branch b bs definition child built s u t l₁ l₂ hdefinition hchild hrest ihchild ihrest =>
    refine ⟨congrArg Nat.succ ihrest.1, fun i b' child' hb hchild' ↦ ?_⟩
    cases i with
    | zero =>
      obtain rfl := Option.some.inj hb
      obtain rfl := Option.some.inj hchild'
      exact ihchild
    | succ i => exact ihrest.2 i b' child' hb hchild'
  | piece p => exact accounted_leaf rfl rfl rfl rfl
  | code htype hdisplay hcode hinput => exact accounted_leaf rfl rfl rfl rfl
  | @router spec next display built more s t l htype hdisplay hbranches ih =>
    intro specs hrest hlink n hn
    rcases executionOrder_cases hn with rfl | ⟨i, c, hc, hn⟩ | hn | hn
    · exact ⟨spec, .head⟩
    · have hchildren := hc
      rw [buildRouterStep, entryD_withNext (by decide)] at hchildren
      change (built.map Prod.snd)[i]? = some c at hchildren
      have hlt : i < (branchList spec).length := by
        rw [ih.1, ← List.length_map Prod.snd]
        exact (List.getElem?_eq_some_iff.1 hchildren).1
      obtain ⟨spec', hspec'⟩ := ih.2 i _ c (List.getElem?_eq_getElem hlt) hchildren n hn
      exact ⟨spec', .branch htype (List.getElem?_eq_getElem hlt) hc hspec'⟩
    · rw [buildRouterStep, entryD_withNext (by decide)] at hn
      change n ∈ executionOrder .null at hn
      rw [executionOrder_of_falsy rfl] at hn
      exact absurd hn List.not_mem_nil
    · rw [hlink] at hn
      obtain ⟨spec', hspec'⟩ := hrest n hn
      exact ⟨spec', .next (by rw [hlink]; exact hspec')⟩
  | @loop spec next display items first more s t l htype hdisplay hitems hfirst ih =>
    intro specs hrest hlink n hn
    rcases executionOrder_cases hn with rfl | ⟨i, c, hc, hn⟩ | hn | hn
    · exact ⟨spec, .head⟩
    · rw [entryD_loop (by decide) (by decide), buildLoopStep, entryD_withNext (by decide)] at hc
      change ([] : List PyValue)[i]? = some c at hc
      exact absurd hc (by simp)
    · have hbody : (buildLoopStep (stepName s.counter) display items first next).entryD
          "firstLoopAction" = first := by
        rw [entryD_firstLoopAction]
        rcases built_chain_cases hfirst with rfl | htruthy
        · rfl
        · exact if_pos htruthy
      rw [hbody] at hn
      obtain ⟨spec', hspec'⟩ := ih n hn
      exact ⟨spec', .loop htype (hbody.symm ▸ hspec')⟩
    · rw [hlink] at hn
      obtain ⟨spec', hspec'⟩ := hrest n hn
      exact ⟨spec', .next (by rw [hlink]; exact hspec')⟩

/-- **Every step of a chain belongs to a specification.** -/
theorem exists_stepOf {specs : List PyValue} {chain n : PyValue}
    (h : Built env (.chain specs chain) s l t) (hn : n ∈ executionOrder chain) :
    ∃ spec, StepOf spec n specs chain := accounted_of_built h n hn

/-- A step of the type `PIECE` has been built for a piece. -/
theorem typed_of_node {spec next node : PyValue} (h : Built env (.step spec next node) s l t)
    (htype : node.entryD "type" = py "PIECE") : (stepType spec).isStr (text "PIECE") = true := by
  rcases h with _ | _ | _ | _ | p | hcode | hrouter | hloop
  · exact p.typed
  · rw [buildCodeStep, entryD_withNext (by decide)] at htype
    exact absurd (PyValue.str.inj htype) (by decide)
  · rw [buildRouterStep, entryD_withNext (by decide)] at htype
    exact absurd (PyValue.str.inj htype) (by decide)
  · rw [entryD_loop (by decide) (by decide), buildLoopStep, entryD_withNext (by decide)] at htype
    exact absurd (PyValue.str.inj htype) (by decide)

end Accounted

/-! ### Two collections -/

section Rename

variable {f : PyStr → PyStr}

/-- A sequence whose parts differ in what is made of their values. -/
theorem bind_eq_map {ε α α' β γ : Type} {x : Except ε α} {x' : Except ε α'} {g : α → Except ε β}
    {g' : α' → Except ε γ} {j : α → α'} {k : β → γ} (hx : x' = x.map j)
    (h : ∀ a, g' (j a) = (g a).map k) : (x' >>= g') = (x >>= g).map k := by
  subst hx
  cases x with
  | error e => rfl
  | ok a => exact h a

theorem mapM_eq_map {ε α β γ : Type} {g : α → Except ε β} {h : α → Except ε γ} {k : β → γ}
    (hmap : ∀ a, h a = (g a).map k) (l : List α) : l.mapM h = (l.mapM g).map (List.map k) := by
  induction l with
  | nil => rfl
  | cons a l ih =>
    rw [List.mapM_cons, List.mapM_cons]
    exact bind_eq_map (hmap a) fun b ↦ bind_eq_map ih fun bs ↦ rfl

theorem eq_map_id {ε α : Type} (x : Except ε α) : x = x.map id := by
  cases x <;> rfl

/-- The names that the pieces of a step are given do not decide which pieces they are. -/
theorem specPieces_rename {d : PyValue} {collect collect' : d.Part → Except PyError (List PyStr)}
    (h : ∀ w, collect' w = (collect w).map (List.map f)) :
    specPieces f d collect' = (specPieces id d collect).map (List.map f) := by
  refine bind_eq_map (eq_map_id _) fun stype ↦ bind_eq_map (eq_map_id _) fun raw ↦
    bind_eq_map (j := List.map (List.map f)) (mapM_eq_map (fun key ↦ ?_) _) fun nested ↦
      bind_eq_map (eq_map_id _) fun branches ↦ bind_eq_map (eq_map_id _) fun items ↦
        bind_eq_map (j := List.map (List.map f)) (mapM_eq_map (fun b ↦ ?_) _) fun below ↦ ?_
  · refine bind_eq_map (eq_map_id _) fun sub ↦ ?_
    dsimp only [id_eq]
    split
    · exact h sub
    · rfl
  · by_cases hdict : b.1.isDict = true
    · rw [if_pos hdict, if_pos hdict]
      exact bind_eq_map (eq_map_id _) fun sub ↦ h _
    · rw [if_neg hdict, if_neg hdict]
      rfl
  · have hown : ∀ (P : Prop) [Decidable P], (if P then [f raw] else []) =
        (if P then [id raw] else []).map f := by
      intro P _
      split <;> rfl
    show Except.ok _ = Except.ok _
    rw [List.map_append, List.map_append, List.map_flatten, List.map_flatten, ← hown]
    rfl

/-- **The names that the pieces of a list are given do not decide which pieces they are.** -/
theorem extractPieces_rename (v : PyValue) :
    extractPieces f v = (extractPieces id v).map (List.map f) := by
  rw [extractPieces, extractPieces]
  by_cases hfalsy : (!v.truthy) = true
  · rw [if_pos hfalsy, if_pos hfalsy]
    rfl
  · rw [if_neg hfalsy, if_neg hfalsy]
    refine bind_eq_map (eq_map_id _) fun items ↦
      bind_eq_map (j := List.map (List.map f)) (mapM_eq_map (fun s ↦ ?_) _) fun found ↦ ?_
    · by_cases hdict : s.1.isDict = true
      · rw [if_pos hdict, if_pos hdict]
        exact specPieces_rename fun w ↦ extractPieces_rename w.1
      · rw [if_neg hdict, if_neg hdict]
        rfl
    · show Except.ok _ = Except.ok _
      rw [List.map_flatten]
termination_by v.weight
decreasing_by exact Nat.lt_of_lt_of_le w.2 s.2

end Rename

/-! ### The main result -/

/-- **No step that is built escapes the guards.** Every step belongs to a specification, and the
piece that the specification of a `PIECE` step asks for has been collected, at whatever depth the
step is; the two collections are the same up to the prefix of the names. -/
theorem guard_coverage (env : BuilderEnv) {specs chain : PyValue} {pieces : List PyStr}
    {s t : BuilderState} {l : List (CatalogQuery × Except EngineError PyValue)}
    (hpieces : extractPiecesFromSteps specs = .ok pieces)
    (hrun : (buildActionChain env specs).Runs s l (.ok chain) t) :
    (∀ node ∈ executionOrder chain, ∃ spec, StepOf spec node specs.listItems chain) ∧
      (∀ spec node, StepOf spec node specs.listItems chain → node.entryD "type" = py "PIECE" →
        ∃ raw, specPiece spec = .ok raw ∧ raw ≠ [] ∧ shortName raw ∈ pieces) ∧
      (extractPieces id specs).map (List.map shortName) = .ok pieces := by
  have hbuilt := built_of_runs hrun
  refine ⟨fun node hnode ↦ exists_stepOf hbuilt hnode, fun spec node hstep htype ↦ ?_, ?_⟩
  · obtain ⟨next, s', l', t', hnode⟩ := built_of_stepOf hbuilt hstep
    have hpiece := typed_of_node hnode htype
    obtain ⟨k, p, -⟩ := pieceStep_of_stepOf hbuilt hstep hpiece
    exact ⟨p.name, p.named, p.name_ne,
      mem_extractPieces hpieces (specWithin_of_stepOf hstep) hpiece p.named p.name_ne⟩
  · rw [← extractPieces_rename]
    exact hpieces

theorem extractPieces_nestedSpecs :
    extractPiecesFromSteps (.list nestedSpecs) = .ok [text "gmail", text "gmail"] := by
  have hnotice : extractPieces shortName (.list [noticeSpec]) = .ok [text "gmail"] := by
    rw [extractPieces]
    rfl
  have hcode : extractPieces shortName (.list [codeSpec]) = .ok [] := by
    rw [extractPieces]
    rfl
  have hrouter : specPieces shortName noticeRouterSpec (fun w ↦ extractPieces shortName w.1) =
      .ok [text "gmail"] := by
    refine bind_eq_ok_iff.2 ⟨_, rfl, bind_eq_ok_iff.2 ⟨_, rfl, bind_eq_ok_iff.2 ⟨_, rfl,
      bind_eq_ok_iff.2 ⟨_, rfl, bind_eq_ok_iff.2 ⟨_, rfl, bind_eq_ok_iff.2
        ⟨[[text "gmail"], []], mapM_eq_ok_iff.2 (.cons ?_ (.cons ?_ .nil)), rfl⟩⟩⟩⟩⟩⟩
    · exact hnotice
    · exact hcode
  have hloop : specPieces shortName noticeLoopSpec (fun w ↦ extractPieces shortName w.1) =
      .ok [text "gmail"] := by
    refine bind_eq_ok_iff.2 ⟨_, rfl, bind_eq_ok_iff.2 ⟨_, rfl, bind_eq_ok_iff.2
      ⟨[[], [text "gmail"], [], []], mapM_eq_ok_iff.2 (.cons rfl (.cons ?_ (.cons rfl
        (.cons rfl .nil)))), rfl⟩⟩⟩
    exact hnotice
  rw [extractPiecesFromSteps, extractPieces]
  exact bind_eq_ok_iff.2 ⟨_, rfl, bind_eq_ok_iff.2 ⟨[[text "gmail"], [text "gmail"]],
    mapM_eq_ok_iff.2 (.cons hrouter (.cons hloop .nil)), rfl⟩⟩

/-- The steps in the branches of a router and in the body of a loop are covered. -/
theorem nestedSpecs_covered :
    (∀ node ∈ executionOrder nestedChain, ∃ spec, StepOf spec node nestedSpecs nestedChain) ∧
      (∀ spec node, StepOf spec node nestedSpecs nestedChain → node.entryD "type" = py "PIECE" →
        ∃ raw, specPiece spec = .ok raw ∧ raw ≠ [] ∧ shortName raw ∈ [text "gmail", text "gmail"]) ∧
      (extractPieces id (.list nestedSpecs)).map (List.map shortName) =
        .ok [text "gmail", text "gmail"] := by
  obtain ⟨t, hrun⟩ := runs_nestedSpecs
  exact guard_coverage gmailEnv extractPieces_nestedSpecs hrun

end Siyadah
