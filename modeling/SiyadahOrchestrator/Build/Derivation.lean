import Mathlib.Logic.Relation
import SiyadahOrchestrator.Build.Steps

/-!
# What a build derives

A run of the builder threads a counter and a list of reports through a recursion over nested lists,
and talks to ActivePieces on the way. `Built` says what it leaves behind, and which lookups it has
made: the rules follow the specifications, one rule for each kind of step. Every run that returns
has a derivation (`built_of_runs`), so a law about all builds is an induction over `Built`.
-/

namespace Siyadah

open Dialogue PyValue

/-! ### Specifications -/

/-- `spec.get("type", "PIECE")`. -/
def stepType (spec : PyValue) : PyValue := (spec.entry "type").getD (py "PIECE")

/-- What the loop over the branches of a router goes through. -/
def branchList (spec : PyValue) : List PyValue :=
  ((spec.entry "branches").getD (.list [])).iterated

/-- The steps of a branch. -/
def branchActions (branch : PyValue) : List PyValue :=
  ((branch.entry "actions").getD (.list [])).listItems

theorem branchActions_of_not_dict {branch : PyValue} (h : branch.isDict = false) :
    branchActions branch = [] := by
  cases branch with
  | dict fields => exact absurd h (by simp [isDict])
  | _ => rfl

/-- The steps of a loop. -/
def loopActions (spec : PyValue) : List PyValue :=
  ((spec.entry "loop_actions").getD (.list [])).listItems

/-- The lists of steps right inside a step. -/
def nestedLists (spec : PyValue) : List (List PyValue) :=
  if (stepType spec).isStr (text "ROUTER") then (branchList spec).map branchActions
  else if (stepType spec).isStr (text "LOOP") then [loopActions spec]
  else []

section Nested

variable {spec : PyValue}

theorem nestedLists_piece (h : (stepType spec).isStr (text "PIECE") = true) :
    nestedLists spec = [] := by
  rw [nestedLists, eq_str_of_isStr h]
  rfl

theorem nestedLists_code (h : (stepType spec).isStr (text "CODE") = true) :
    nestedLists spec = [] := by
  rw [nestedLists, eq_str_of_isStr h]
  rfl

theorem nestedLists_router (h : (stepType spec).isStr (text "ROUTER") = true) :
    nestedLists spec = (branchList spec).map branchActions := if_pos h

theorem nestedLists_loop (h : (stepType spec).isStr (text "LOOP") = true) :
    nestedLists spec = [loopActions spec] := by
  rw [nestedLists, eq_str_of_isStr h]
  rfl

/-- Only a dictionary has lists of steps inside it. -/
theorem isDict_of_nested {inner : List PyValue} (h : inner ∈ nestedLists spec) :
    spec.isDict = true := by
  cases spec with
  | dict fields => rfl
  | _ => exact absurd h List.not_mem_nil

end Nested

/-- The second list is a list of steps inside the first one, at any depth. -/
abbrev ListWithin : List PyValue → List PyValue → Prop :=
  Relation.ReflTransGen fun specs inner ↦ ∃ spec ∈ specs, inner ∈ nestedLists spec

/-- The specification is one of the list, or of a list of steps inside it. -/
def SpecWithin (specs : List PyValue) (spec : PyValue) : Prop :=
  ∃ inner, ListWithin specs inner ∧ spec ∈ inner

/-! ### Derivations -/

/-- What is derived: a step, a chain of steps, or the branches of a router with their chains. -/
inductive Judgement where
  | step (spec next node : PyValue)
  | chain (specs : List PyValue) (node : PyValue)
  | branches (list : List PyValue) (built : List (PyValue × PyValue))

/-- Lookups and their replies, in order. -/
abbrev Lookups : Type := List (CatalogQuery × Except EngineError PyValue)

/-- The lookups resolve the name to this piece. -/
def Resolves (R : PyRuntime) (l : Lookups) (name : PyStr) (resolved : PyStr × PyValue) : Prop :=
  ∀ s, (autoResolvePiece R name).Runs s l (.ok resolved) s

section Env

variable (env : BuilderEnv) (l : Lookups)

/-- A step that uses a piece: what decides the node. -/
structure PieceStep (spec : PyValue) where
  name : PyStr
  resolved : PyStr × PyValue
  settings : PieceSettings
  display : PyValue
  typed : (stepType spec).isStr (text "PIECE") = true
  named : specPiece spec = .ok name
  name_ne : name ≠ []
  resolves : Resolves env.runtime l name resolved
  configured : pieceSettings env spec resolved.2 resolved.1 = .ok settings
  displayed : spec.getD "display_name" (.str (shortName resolved.1 ++ text ": " ++
    env.runtime.str settings.action)) = .ok display

section PieceStep

variable {env l} {spec : PyValue} (p : PieceStep env l spec)

/-- The full name of the piece. -/
def PieceStep.full : PyStr := fullName p.resolved.1

/-- The node. -/
def PieceStep.node (sname : PyStr) (next : PyValue) : PyValue :=
  buildAction sname p.full p.settings.version p.settings.action p.settings.input p.display next
    p.settings.propertySettings

/-- The report. -/
def PieceStep.report (sname : PyStr) : PyValue :=
  pieceReport sname p.full p.settings.action p.settings.version p.settings.schemaLoaded
    p.settings.propertySettings

end PieceStep

/-- What a loop goes through: its `loop_items`, or else its `items_expression`. -/
def specItems (spec : PyValue) : Except PyError PyValue := do
  let expression ← spec.getD "items_expression" (py "\x7b\x7btrigger['body']['items']\x7d\x7d")
  spec.getD "loop_items" expression

/-- The state after a step has taken its number and left its report. -/
def BuilderState.reported (s : BuilderState) (row : PyValue) : BuilderState :=
  { counter := s.counter + 1, stepsInfo := s.stepsInfo ++ [row] }

/-- The rules of the builder, from one state to another, by way of these lookups. -/
inductive Built : Judgement → BuilderState → Lookups → BuilderState → Prop
  | nil {s} : Built (.chain [] .null) s [] s
  /-- A chain is built from its last step on. -/
  | cons {spec specs chain node s u t l₁ l₂} : spec.isDict = true →
      Built (.chain specs chain) s l₁ u → Built (.step spec chain node) u l₂ t →
      Built (.chain (spec :: specs) node) s (l₁ ++ l₂) t
  | noBranch {s} : Built (.branches [] []) s [] s
  | branch {b bs definition child built s u t l₁ l₂} :
      branchDefinition (orEmpty b) = .ok definition →
      Built (.chain (branchActions b) child) s l₁ u → Built (.branches bs built) u l₂ t →
      Built (.branches (b :: bs) ((definition, child) :: built)) s (l₁ ++ l₂) t
  | piece {spec next s l} (p : PieceStep env l spec) :
      Built (.step spec next (p.node (stepName s.counter) next)) s l
        (s.reported (p.report (stepName s.counter)))
  | code {spec next display code input s} : (stepType spec).isStr (text "CODE") = true →
      spec.getD "display_name" (py "Code") = .ok display →
      spec.getD "code" (py "export const code = async (inputs) => \x7b return inputs; \x7d;") =
        .ok code → spec.get "code_input" = .ok input →
      Built (.step spec next (buildCodeStep (stepName s.counter) display code input next)) s []
        (s.reported (structureReport (stepName s.counter) "CODE" display []))
  | router {spec next display built more s t l} : (stepType spec).isStr (text "ROUTER") = true →
      spec.getD "display_name" (py "Router") = .ok display →
      Built (.branches (branchList spec) built)
        (s.reported (structureReport (stepName s.counter) "ROUTER" display more)) l t →
      Built (.step spec next (buildRouterStep (stepName s.counter) display (built.map Prod.fst)
        (built.map Prod.snd) next)) s l t
  | loop {spec next display items first more s t l} : (stepType spec).isStr (text "LOOP") = true →
      spec.getD "display_name" (py "Loop") = .ok display → specItems spec = .ok items →
      Built (.chain (loopActions spec) first)
        (s.reported (structureReport (stepName s.counter) "LOOP" display more)) l t →
      Built (.step spec next (buildLoopStep (stepName s.counter) display items first next)) s l t

/-! ### Lists of specifications -/

/-- The loop goes by the specifications alone, where the steps are built by them alone. -/
theorem buildChainFrom_map {β : Type} (build : PyValue → PyValue → BuilderM PyValue)
    (specOf : β → PyValue) (total stepNum : ℕ) (bs : List β) :
    buildChainFrom env (fun b ↦ build (specOf b)) specOf total stepNum bs =
      buildChainFrom env build id total stepNum (bs.map specOf) := by
  induction bs generalizing stepNum with
  | nil => rfl
  | cons b bs ih =>
    rw [List.map_cons, buildChainFrom, buildChainFrom, ih]
    rfl

/-- A list is built step by step. -/
theorem buildActionChain_list {specs : List PyValue} (hne : specs ≠ []) :
    buildActionChain env (.list specs) =
      buildChainFrom env (buildStepFromSpec env) id specs.length 1 specs := by
  have htruthy : (PyValue.list specs).truthy = true := by simpa [truthy] using hne
  rw [buildActionChain, chainOf, htruthy]
  show buildChainFrom env _ Subtype.val (specs.attach.map _).length 1 (specs.attach.map _) = _
  have hval : (specs.attach.map fun w ↦ (⟨w.1, weight_le_weightItems w.2⟩ :
      { w : PyValue // w.weight ≤ (PyValue.list specs).weight })).map Subtype.val = specs := by
    rw [List.map_map]
    exact List.attach_map_subtype_val specs
  rw [buildChainFrom_map env (buildStepFromSpec env) Subtype.val, hval, List.length_map,
    List.length_attach]

theorem runs_chain_cons {env : BuilderEnv} {β : Type} {build : β → PyValue → BuilderM PyValue}
    {specOf : β → PyValue} {total stepNum : ℕ} {b : β} {bs : List β} {chain node : PyValue}
    {s u t : BuilderState} {l₁ l₂ : Lookups}
    (hchain : (buildChainFrom env build specOf total (stepNum + 1) bs).Runs s l₁ (.ok chain) u)
    (hstep : (build b chain).Runs u l₂ (.ok node) t) (hdict : (specOf b).isDict = true) :
    (buildChainFrom env build specOf total stepNum (b :: bs)).Runs s (l₁ ++ l₂) (.ok node) t := by
  refine runs_bind_ok_iff.2 ⟨l₁, l₂, chain, u, rfl, hchain, ?_⟩
  rw [buildChainStep, if_pos hdict]
  exact runs_handle_iff.2 (.inl ⟨node, rfl, hstep⟩)

/-- A chain that is built is the chain of the later steps, and the first step. -/
theorem exists_of_runs_chain_cons {env : BuilderEnv} {β : Type}
    {build : β → PyValue → BuilderM PyValue} {specOf : β → PyValue} {total stepNum : ℕ} {b : β}
    {bs : List β} {node : PyValue} {s t : BuilderState}
    {l : Lookups}
    (h : (buildChainFrom env build specOf total stepNum (b :: bs)).Runs s l (.ok node) t) :
    ∃ l₁ l₂ chain u, l = l₁ ++ l₂ ∧
      (buildChainFrom env build specOf total (stepNum + 1) bs).Runs s l₁ (.ok chain) u ∧
      (specOf b).isDict = true ∧ (build b chain).Runs u l₂ (.ok node) t := by
  obtain ⟨l₁, l₂, chain, u, rfl, hrest, h⟩ := runs_bind_ok_iff.1 h
  rw [buildChainStep] at h
  split at h
  · rename_i hdict
    rcases runs_handle_iff.1 h with ⟨node', hnode, hstep⟩ | ⟨k₁, k₂, e, v, -, -, hraise⟩
    · obtain rfl := Except.ok.inj hnode
      exact ⟨l₁, l₂, chain, u, rfl, hrest, hdict, hstep⟩
    · split at hraise
      · exact absurd (runs_raise_iff.1 hraise).2.1 (by simp)
      · exact absurd (runs_raise_iff.1 hraise).2.1 (by simp)
  · exact absurd (runs_raise_iff.1 h).2.1 (by simp)

theorem runs_nextNumber_bind_iff {α : Type} {f : ℕ → BuilderM α} {s t : BuilderState}
    {l : Lookups} {x : Except EngineError α} :
    (nextNumber >>= f).Runs s l x t ↔
      (f s.counter).Runs { s with counter := s.counter + 1 } l x t := Iff.rfl

theorem runs_report_bind_iff {α : Type} {row : PyValue} {f : Unit → BuilderM α}
    {s t : BuilderState} {l : Lookups}
    {x : Except EngineError α} : (report row >>= f).Runs s l x t ↔
      (f ()).Runs { s with stepsInfo := s.stepsInfo ++ [row] } l x t := Iff.rfl

/-- A specification that uses a piece is built, once its piece is resolved. -/
theorem runs_buildStepFromSpec_piece {env : BuilderEnv} {spec next display : PyValue}
    {raw : PyStr} {resolved : PyStr × PyValue} {settings : PieceSettings} {s : BuilderState}
    {l : Lookups}
    (hraw : specPiece spec = .ok raw) (hne : raw ≠ [])
    (hresolve : ∀ s, (autoResolvePiece env.runtime raw).Runs s l (.ok resolved) s)
    (hsettings : pieceSettings env spec resolved.2 resolved.1 = .ok settings)
    (hdisplay : spec.getD "display_name" (.str (shortName resolved.1 ++ text ": " ++
      env.runtime.str settings.action)) = .ok display)
    (htype : (stepType spec).isStr (text "PIECE") = true) :
    (buildStepFromSpec env spec next).Runs s l
      (.ok (buildAction (stepName s.counter) (fullName resolved.1) settings.version settings.action
        settings.input display next settings.propertySettings))
      (s.reported (pieceReport (stepName s.counter) (fullName resolved.1) settings.action
        settings.version settings.schemaLoaded settings.propertySettings)) := by
  have hdict := (getD_eq_ok_iff.1 hdisplay).1
  rw [buildStepFromSpec]
  refine runs_evalPy_bind_ok_iff.2 ⟨stepType spec, getD_eq_ok_iff.2 ⟨hdict, rfl⟩,
    runs_nextNumber_bind_iff.2 ?_⟩
  rw [if_pos htype]
  refine runs_evalPy_bind_ok_iff.2 ⟨raw, hraw, ?_⟩
  rw [if_neg hne]
  refine runs_bind_ok_iff.2 ⟨l, [], resolved, _, (List.append_nil l).symm, hresolve _,
    runs_lift_bind_iff.2 (.inl ⟨settings, hsettings, runs_report_bind_iff.2 ?_⟩)⟩
  exact runs_evalPy_bind_ok_iff.2 ⟨display, hdisplay, runs_pure_iff.2 ⟨rfl, rfl, rfl⟩⟩

/-! ### Every run has a derivation -/

variable {env}

section Chains

variable {β : Type} {s t : BuilderState} {l : Lookups} {node : PyValue}

/-- The loop over the steps of a chain, where each step that returns has a derivation. -/
theorem built_of_buildChainFrom {build : β → PyValue → BuilderM PyValue} {specOf : β → PyValue}
    (hbuild : ∀ b next s l t node, (build b next).Runs s l (.ok node) t →
      Built env (.step (specOf b) next node) s l t) {total stepNum : ℕ} {bs : List β}
    (h : (buildChainFrom env build specOf total stepNum bs).Runs s l (.ok node) t) :
    Built env (.chain (bs.map specOf) node) s l t := by
  induction bs generalizing stepNum s l t node with
  | nil =>
    obtain ⟨rfl, hnode, rfl⟩ := runs_pure_iff.1 h
    obtain rfl := Except.ok.inj hnode
    exact .nil
  | cons b bs ih =>
    obtain ⟨l₁, l₂, chain, u, rfl, hrest, hdict, hstep⟩ := exists_of_runs_chain_cons h
    exact .cons hdict (ih hrest) (hbuild b chain u l₂ t node hstep)

/-- Every specification of a chain is a dictionary. -/
theorem isDict_of_built {specs : List PyValue} (h : Built env (.chain specs node) s l t) :
    ∀ spec ∈ specs, spec.isDict = true := by
  induction specs generalizing node t l with
  | nil => exact fun _ hw ↦ absurd hw List.not_mem_nil
  | cons spec specs ih =>
    rcases h with _ | ⟨hdict, hchain, -⟩
    exact List.forall_mem_cons.2 ⟨hdict, ih hchain⟩

theorem built_of_chainOf {v : PyValue}
    {build : { s : PyValue // s.weight ≤ v.weight } → PyValue → BuilderM PyValue}
    (hbuild : ∀ b next s l t node, (build b next).Runs s l (.ok node) t →
      Built env (.step b.1 next node) s l t)
    (h : (chainOf env v build).Runs s l (.ok node) t) :
    Built env (.chain v.listItems node) s l t := by
  rw [chainOf] at h
  split at h
  · rename_i hfalsy
    obtain ⟨rfl, hnode, rfl⟩ := runs_pure_iff.1 h
    obtain rfl := Except.ok.inj hnode
    rw [listItems_eq_nil (by simpa using hfalsy)]
    exact .nil
  · rename_i htruthy
    obtain ⟨specs, hspecs, hrun⟩ := runs_evalPy_bind_ok_iff.1 h
    have hbuilt := built_of_buildChainFrom hbuild hrun
    rw [map_val_of_items hspecs] at hbuilt
    rcases iterated_cases v with heq | hnone
    · exact heq ▸ hbuilt
    · -- A string or a dictionary that is not empty yields a step that is not a dictionary.
      cases hitems : v.iterated with
      | nil =>
        have hnil : v.listItems = [] := by
          cases v with
          | list vs => exact hitems
          | _ => rfl
        rw [hnil]
        rwa [hitems] at hbuilt
      | cons w ws =>
        have hw : w ∈ v.iterated := hitems ▸ List.mem_cons_self
        exact absurd (isDict_of_built hbuilt w hw) (by simp [hnone w hw])

/-- The chain of a branch; what is no branch has none. -/
theorem built_of_branchChain {b : PyValue}
    {build : (actions : b.Part) → { s : PyValue // s.weight ≤ actions.1.weight } → PyValue →
      BuilderM PyValue}
    (hbuild : ∀ actions c next s l t node, (build actions c next).Runs s l (.ok node) t →
      Built env (.step c.1 next node) s l t)
    (h : (if b.isDict then do
        let actions ← evalPy (b.child "actions" Leaf.nil)
        chainOf env actions.1 (build actions)
      else pure .null : BuilderM PyValue).Runs s l (.ok node) t) :
    Built env (.chain (branchActions b) node) s l t := by
  split at h
  · obtain ⟨actions, hactions, hrun⟩ := runs_evalPy_bind_ok_iff.1 h
    have hchild := built_of_chainOf (hbuild actions) hrun
    rwa [(child_eq_ok hactions).2] at hchild
  · rename_i hbranch
    obtain ⟨rfl, hnull, rfl⟩ := runs_pure_iff.1 h
    obtain rfl := Except.ok.inj hnull
    rw [branchActions_of_not_dict (by simpa using hbranch)]
    exact .nil

theorem built_of_buildBranches {branchOf : β → PyValue} {chain : β → BuilderM PyValue}
    {bs : List β}
    (hchain : ∀ b ∈ bs, ∀ s l t node, (chain b).Runs s l (.ok node) t →
      Built env (.chain (branchActions (branchOf b)) node) s l t)
    {built : List (PyValue × PyValue)}
    (h : (buildBranches branchOf chain bs).Runs s l (.ok built) t) :
    Built env (.branches (bs.map branchOf) built) s l t := by
  induction bs generalizing s l built with
  | nil =>
    obtain ⟨rfl, hbuilt, rfl⟩ := runs_pure_iff.1 h
    obtain rfl := Except.ok.inj hbuilt
    exact .noBranch
  | cons b bs ih =>
    obtain ⟨definition, hdefinition, hrun⟩ := runs_evalPy_bind_ok_iff.1 h
    obtain ⟨l₁, l₂, child, u, rfl, h₁, h₂⟩ := runs_bind_ok_iff.1 hrun
    obtain ⟨k₁, k₂, rest, v, rfl, hrest, hlast⟩ := runs_bind_ok_iff.1 h₂
    obtain ⟨rfl, hbuilt, rfl⟩ := runs_pure_iff.1 hlast
    obtain rfl := Except.ok.inj hbuilt
    rw [List.append_nil]
    exact .branch hdefinition (hchain b List.mem_cons_self s l₁ u child h₁)
      (ih (fun b' hb' ↦ hchain b' (List.mem_cons_of_mem b hb')) hrest)

end Chains

section Steps

variable {s t : BuilderState} {l : Lookups} {spec next node : PyValue}

theorem built_of_buildPieceStep (htype : (stepType spec).isStr (text "PIECE") = true)
    (h : (buildPieceStep env spec (stepName s.counter) next).Runs
      { s with counter := s.counter + 1 } l (.ok node) t) :
    Built env (.step spec next node) s l t := by
  obtain ⟨name, hname, h⟩ := runs_evalPy_bind_ok_iff.1 h
  split at h
  · exact absurd (runs_raise_iff.1 h).2.1 (by simp)
  · rename_i hne
    obtain ⟨l₁, l₂, resolved, u, rfl, h₁, h₂⟩ := runs_bind_ok_iff.1 h
    obtain ⟨rfl, hany⟩ := stateless_autoResolvePiece name _ _ _ _ h₁
    rcases runs_lift_bind_iff.1 h₂ with ⟨settings, hsettings, h₃⟩ | ⟨e, -, -, herr, -⟩
    · obtain ⟨display, hdisplay, h₄⟩ := runs_evalPy_bind_ok_iff.1 h₃
      obtain ⟨rfl, hnode, rfl⟩ := runs_pure_iff.1 h₄
      obtain rfl := Except.ok.inj hnode
      rw [List.append_nil]
      exact .piece ⟨name, resolved, settings, display, htype, hname, hne, hany, hsettings,
        hdisplay⟩
    · exact absurd herr (by simp)

theorem built_of_buildCodeFromSpec (htype : (stepType spec).isStr (text "CODE") = true)
    (h : (buildCodeFromSpec spec (stepName s.counter) next).Runs
      { s with counter := s.counter + 1 } l (.ok node) t) :
    Built env (.step spec next node) s l t := by
  obtain ⟨display, hdisplay, h⟩ := runs_evalPy_bind_ok_iff.1 h
  obtain ⟨code, hcode, h⟩ := runs_evalPy_bind_ok_iff.1 h
  obtain ⟨input, hinput, h⟩ := runs_evalPy_bind_ok_iff.1 h
  obtain ⟨rfl, hnode, rfl⟩ := runs_pure_iff.1 h
  obtain rfl := Except.ok.inj hnode
  exact .code htype hdisplay hcode hinput

/-- **Every step that is built has a derivation.** The induction follows the nesting of the
specifications. -/
theorem built_of_buildStepFromSpec (spec next : PyValue) {s t : BuilderState} {node : PyValue}
    {l : Lookups} (h : (buildStepFromSpec env spec next).Runs s l (.ok node) t) :
    Built env (.step spec next node) s l t := by
  rw [buildStepFromSpec] at h
  obtain ⟨stype, hstype, h⟩ := runs_evalPy_bind_ok_iff.1 h
  obtain ⟨hdict, rfl⟩ := getD_eq_ok_iff.1 hstype
  replace h := runs_nextNumber_bind_iff.1 h
  change Runs (if (stepType spec).isStr (text "PIECE") then _ else _) _ _ _ _ at h
  split at h
  · rename_i htype
    exact built_of_buildPieceStep htype h
  split at h
  · rename_i htype
    exact built_of_buildCodeFromSpec htype h
  split at h
  · rename_i htype
    obtain ⟨branches, hbranches, h⟩ := runs_evalPy_bind_ok_iff.1 h
    obtain ⟨display, hdisplay, h⟩ := runs_evalPy_bind_ok_iff.1 h
    obtain ⟨items, hitems, h⟩ := runs_evalPy_bind_ok_iff.1 h
    obtain ⟨l₁, l₂, built, u, rfl, hrun, hlast⟩ := runs_bind_ok_iff.1 h
    obtain ⟨rfl, hnode, rfl⟩ := runs_pure_iff.1 hlast
    obtain rfl := Except.ok.inj hnode
    have hbuilt := built_of_buildBranches (fun b _ _ _ _ _ hchain ↦
      built_of_branchChain (fun actions c next' _ _ _ _ h₁ ↦
        built_of_buildStepFromSpec c.1 next' h₁) hchain) hrun
    rw [map_val_of_items hitems, (child_eq_ok hbranches).2] at hbuilt
    rw [List.append_nil]
    exact .router htype hdisplay hbuilt
  split at h
  · rename_i htype
    obtain ⟨expression, hexpression, h⟩ := runs_evalPy_bind_ok_iff.1 h
    obtain ⟨items, hitems, h⟩ := runs_evalPy_bind_ok_iff.1 h
    obtain ⟨display, hdisplay, h⟩ := runs_evalPy_bind_ok_iff.1 h
    obtain ⟨actions, hactions, h⟩ := runs_evalPy_bind_ok_iff.1 h
    obtain ⟨l₁, l₂, first, u, rfl, hrun, hlast⟩ := runs_bind_ok_iff.1 h
    obtain ⟨rfl, hnode, rfl⟩ := runs_pure_iff.1 hlast
    obtain rfl := Except.ok.inj hnode
    have hfirst := built_of_chainOf
      (fun c next' _ _ _ _ h₁ ↦ built_of_buildStepFromSpec c.1 next' h₁) hrun
    rw [(child_eq_ok hactions).2] at hfirst
    rw [List.append_nil]
    exact .loop htype hdisplay (bind_eq_ok_iff.2 ⟨expression, hexpression, hitems⟩) hfirst
  exact absurd (runs_raise_iff.1 h).2.1 (by simp)
termination_by spec.weight
decreasing_by
  · exact Nat.lt_of_le_of_lt c.2 actions.2
  · exact Nat.lt_of_le_of_lt c.2 (Nat.lt_of_lt_of_le actions.2 (Nat.le_of_lt
      (Nat.lt_of_le_of_lt b.2 branches.2)))

/-- **Every build that returns has a derivation.** -/
theorem built_of_runs {specs : PyValue}
    (h : (buildActionChain env specs).Runs s l (.ok node) t) :
    Built env (.chain specs.listItems node) s l t :=
  built_of_chainOf (fun c next _ _ _ _ h₁ ↦ built_of_buildStepFromSpec c.1 next h₁) h

end Steps

end Env

end Siyadah
