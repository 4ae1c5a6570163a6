import SiyadahOrchestrator.Build.Numbering
import SiyadahOrchestrator.Build.Authentication
import SiyadahOrchestrator.Foundations.Forest

/-!
# The structure of a chain

The specifications of a request are an ordered forest: a router has a list of steps in each branch,
a loop has one. So are the steps that are linked from a step on. `Mirrors` pairs the steps off with
the specifications, which keeps type, order and nesting, and says of each step that it is made of
its specification (`MadeOf`): its entries, but for its name and its links, are those that the
specification asks for. Every build has it (`mirrors_of_built`), and its steps are named `step_1` to
`step_n` in some order (`names_of_built_chain`).
-/

namespace Siyadah

open Dialogue PyValue

/-! ### Forests of steps -/

/-- The kind of a step. -/
inductive StepKind where
  | piece
  | code
  | router
  | loop
  | other
deriving DecidableEq

/-- The kind that a specification asks for. -/
def specKind (spec : PyValue) : StepKind :=
  if (stepType spec).isStr (text "PIECE") then .piece
  else if (stepType spec).isStr (text "CODE") then .code
  else if (stepType spec).isStr (text "ROUTER") then .router
  else if (stepType spec).isStr (text "LOOP") then .loop
  else .other

/-- The kind that a type of ActivePieces stands for. -/
def kindOfType (type : PyValue) : StepKind :=
  if type.isStr (text "PIECE") then .piece
  else if type.isStr (text "CODE") then .code
  else if type.isStr (text "ROUTER") then .router
  else if type.isStr (text "LOOP_ON_ITEMS") then .loop
  else .other

/-- The kind of a step that ActivePieces imports. -/
def nodeKind (node : PyValue) : StepKind := kindOfType (node.entryD "type")

theorem nodeKind_withNext {fields : List (String × PyValue)} {type next : PyValue}
    (h : fields.lookup "type" = some type) : nodeKind (withNext fields next) = kindOfType type := by
  rw [nodeKind, entryD_withNext (by decide), h]
  rfl

theorem weightItems_eq (v : PyValue) : weightItems v.listItems ≤ v.weight := by
  cases v with
  | list vs => exact Nat.le_of_eq (by rw [weight]; rfl)
  | _ => exact Nat.zero_le _

theorem weight_entry_getD_lt {v : PyValue} (h : v.isDict = true) (key : String) (d : Leaf) :
    ((v.entry key).getD d.1).weight < v.weight := by
  cases v with
  | dict fields => exact weight_lookup_getD_lt fields _ d
  | _ => exact absurd h (by simp [isDict])

/-- What is inside a step is smaller than the step. -/
theorem weightItems_lt_of_nested {spec : PyValue} {inner : List PyValue}
    (h : inner ∈ nestedLists spec) : weightItems inner < spec.weight := by
  have hdict := isDict_of_nested h
  rw [nestedLists] at h
  split at h
  · obtain ⟨b, hb, rfl⟩ := List.mem_map.1 h
    have hlist : weightItems (branchActions b) ≤ b.weight := by
      by_cases hb' : b.isDict = true
      · exact (weightItems_eq _).trans (weight_entry_getD_lt hb' "actions" Leaf.nil).le
      · rw [branchActions_of_not_dict (by simpa using hb')]
        exact Nat.zero_le _
    exact Nat.lt_of_le_of_lt (hlist.trans (weight_le_of_mem_iterated hb))
      (weight_entry_getD_lt hdict "branches" Leaf.nil)
  · split at h
    · obtain rfl := List.mem_singleton.1 h
      exact Nat.lt_of_le_of_lt (weightItems_eq _)
        (weight_entry_getD_lt hdict "loop_actions" Leaf.nil)
    · exact absurd h List.not_mem_nil

/-- The specifications of a request, with what is inside them. -/
def specForest : List PyValue → Forest PyValue
  | [] => .nil
  | spec :: specs =>
    .cons spec (.ofList ((nestedLists spec).attach.map fun inner ↦ specForest inner.1))
      (specForest specs)
termination_by specs => (weightItems specs, specs.length)
decreasing_by
  · refine Prod.Lex.left _ _ ?_
    rw [weightItems]
    have := weightItems_lt_of_nested inner.2
    omega
  · rw [weightItems]
    rcases Nat.eq_zero_or_pos spec.weight with hzero | hpos
    · rw [hzero, Nat.zero_add]
      exact Prod.Lex.right _ (Nat.lt_succ_self _)
    · exact Prod.Lex.left _ _ (by omega)

/-- The lists of specifications inside a specification. -/
def specInside (spec : PyValue) : Forests PyValue := .ofList ((nestedLists spec).map specForest)

theorem specForest_cons (spec : PyValue) (specs : List PyValue) :
    specForest (spec :: specs) = .cons spec (specInside spec) (specForest specs) := by
  rw [specForest, specInside]
  refine congrArg (fun l ↦ Forest.cons spec (Forests.ofList l) _) ?_
  rw [List.map_attach_eq_pmap, List.pmap_eq_map]

/-- The steps from `node` on, with what is inside them. -/
def chainForest (node : PyValue) : Forest PyValue :=
  if _h : node.isDict = true ∧ node.truthy = true then
    .cons node
      (.ofList (match nodeKind node with
        | .router => (node.entryD "children").listItems.attach.map fun c ↦ chainForest c.1
        | .loop => [chainForest (node.entryD "firstLoopAction")]
        | _ => []))
      (chainForest (node.entryD "nextAction"))
  else .nil
termination_by node.weight
decreasing_by
  · exact Nat.lt_of_le_of_lt (weight_le_of_mem_listItems c.2) (weight_entryD_lt _h.1 "children")
  · exact weight_entryD_lt _h.1 "firstLoopAction"
  · exact weight_entryD_lt _h.1 "nextAction"

/-- The lists of steps inside a step. -/
def nodeInside (node : PyValue) : Forests PyValue :=
  .ofList (match nodeKind node with
    | .router => (node.entryD "children").listItems.map chainForest
    | .loop => [chainForest (node.entryD "firstLoopAction")]
    | _ => [])

section Node

variable {node : PyValue}

theorem chainForest_of_falsy (h : node.truthy = false) : chainForest node = .nil := by
  rw [chainForest, dif_neg fun hnode ↦ absurd hnode.2 (by simp [h])]

theorem chainForest_of_node (hdict : node.isDict = true) (htruthy : node.truthy = true) :
    chainForest node =
      .cons node (nodeInside node) (chainForest (node.entryD "nextAction")) := by
  rw [chainForest, dif_pos ⟨hdict, htruthy⟩, nodeInside]
  refine congrArg (fun l ↦ Forest.cons node (Forests.ofList l) _) ?_
  cases nodeKind node with
  | router => exact (List.map_attach_eq_pmap ..).trans (List.pmap_eq_map ..)
  | _ => rfl

theorem chainForest_withNext {fields : List (String × PyValue)} {name next : PyValue}
    (hname : fields.lookup "name" = some name) (hnext : fields.lookup "nextAction" = none) :
    chainForest (withNext fields next) =
      .cons (withNext fields next) (nodeInside (withNext fields next)) (chainForest next) := by
  rw [chainForest_of_node rfl (truthy_withNext hname), entryD_nextAction hnext]
  split
  · rfl
  · rename_i hfalsy
    rw [chainForest_of_falsy rfl, chainForest_of_falsy (by simpa using hfalsy)]

end Node

/-! ### Entries of a step's own -/

/-- The keys under which a step holds other steps. -/
def linkKeys : List PyStr := [text "nextAction", text "firstLoopAction", text "children"]

/-- The entries of a step that are its own. -/
def ownEntries (node : PyValue) : Fields := (fieldsOf node).filter fun f ↦ f.1 ∉ linkKeys

theorem lookup_ownEntries {node : PyValue} {key : String} (h : text key ∉ linkKeys) :
    (ownEntries node).lookup (text key) = node.entry key := by
  cases node with
  | dict fields =>
    show (List.filter _ fields).lookup _ = fields.lookup (text key)
    induction fields with
    | nil => rfl
    | cons f fields ih =>
      rw [List.filter_cons, List.lookup_cons]
      split
      · rw [List.lookup_cons, ih]
      · rename_i hlink
        have hne : text key ≠ f.1 := fun heq ↦ hlink (by simpa using heq ▸ h)
        rw [beq_false_of_ne hne, ih]
  | _ => rfl

section Links

variable {fields : List (String × PyValue)} {next : PyValue}

variable (fields) in
/-- A link is no entry of the step's own. -/
theorem ownEntries_link {key : String} (hlink : PyStr.ofString key ∈ linkKeys) (v : PyValue) :
    ownEntries (pyDict (fields ++ [(key, v)])) = ownEntries (pyDict fields) := by
  show List.filter _ (List.map _ (fields ++ _)) = List.filter _ (List.map _ fields)
  rw [List.map_append, List.filter_append, List.map_cons,
    List.filter_cons_of_neg (by simpa using hlink)]
  exact List.append_nil _

theorem ownEntries_withNext : ownEntries (withNext fields next) = ownEntries (pyDict fields) := by
  rw [withNext]
  split
  · exact ownEntries_link _ (by decide) _
  · rw [List.append_nil]

end Links

/-- The type of a step is an entry of its own. -/
theorem nodeKind_eq_ownEntries (node : PyValue) :
    nodeKind node = kindOfType (((ownEntries node).lookup (text "type")).getD .null) := by
  rw [lookup_ownEntries (by decide)]
  rfl

/-! ### Steps and specifications -/

/-- The own entries are those of a step that the builder makes of the specification, under some
name. The lookups of the build that resolve its piece are among `l`, one after the other. -/
inductive MadeOf (env : BuilderEnv) (l : Lookups) (spec : PyValue) (own : Fields) : Prop
  | piece {k : Lookups} (p : PieceStep env k spec) (sname : PyStr) : k <:+: l →
      own = ownEntries (p.node sname .null) → MadeOf env l spec own
  | code {display code input : PyValue} (sname : PyStr) :
      (stepType spec).isStr (text "CODE") = true →
      spec.getD "display_name" (py "Code") = .ok display →
      spec.getD "code" (py "export const code = async (inputs) => \x7b return inputs; \x7d;") =
        .ok code → spec.get "code_input" = .ok input →
      own = ownEntries (buildCodeStep sname display code input .null) → MadeOf env l spec own
  | router {display : PyValue} {definitions : List PyValue} (sname : PyStr) :
      (stepType spec).isStr (text "ROUTER") = true →
      spec.getD "display_name" (py "Router") = .ok display →
      List.Forall₂ (fun b d ↦ branchDefinition (orEmpty b) = .ok d) (branchList spec) definitions →
      own = ownEntries (buildRouterStep sname display definitions [] .null) → MadeOf env l spec own
  | loop {display items : PyValue} (sname : PyStr) : (stepType spec).isStr (text "LOOP") = true →
      spec.getD "display_name" (py "Loop") = .ok display → specItems spec = .ok items →
      own = ownEntries (buildLoopStep sname display items .null .null) → MadeOf env l spec own

/-- A router has a child for each branch; other steps are not spoken of. -/
def FullRouter (node : PyValue) : Prop :=
  nodeKind node = .router → ∃ branches children,
    (node.entryD "settings").entryD "branches" = .list branches ∧
      node.entryD "children" = .list children ∧ children.length = branches.length

/-- The steps from `chain` on are those of the specifications, at the same places: each has the kind
and the entries that its specification asks for. -/
structure Mirrors (env : BuilderEnv) (l : Lookups) (specs : List PyValue) (chain : PyValue) :
    Prop where
  shape : (chainForest chain).map nodeKind = (specForest specs).map specKind
  steps : (specForest specs).Related (MadeOf env l) ((chainForest chain).map ownEntries)
  routers : ∀ node ∈ (chainForest chain).labels, FullRouter node

/-- What a derivation leaves mirrors what it is given. -/
def Judgement.Mirrored (env : BuilderEnv) (l : Lookups) : Judgement → Prop
  | .step spec next node =>
    chainForest node = .cons node (nodeInside node) (chainForest next) ∧
      executionOrder node = node :: ((nodeInside node).labels ++ executionOrder next) ∧
      MadeOf env l spec (ownEntries node) ∧
      (specInside spec).Related (MadeOf env l) ((nodeInside node).map ownEntries) ∧
      ∀ n ∈ node :: (nodeInside node).labels, FullRouter n
  | .chain specs node =>
    (specForest specs).Related (MadeOf env l) ((chainForest node).map ownEntries) ∧
      (chainForest node).labels = executionOrder node ∧
      ∀ n ∈ (chainForest node).labels, FullRouter n
  | .branches bs built =>
    (Forests.ofList (bs.map fun b ↦ specForest (branchActions b))).Related (MadeOf env l)
        ((Forests.ofList (built.map fun b ↦ chainForest b.2)).map ownEntries) ∧
      (Forests.ofList (built.map fun b ↦ chainForest b.2)).labels =
        built.flatMap (fun b ↦ executionOrder b.2) ∧
      ∀ n ∈ (Forests.ofList (built.map fun b ↦ chainForest b.2)).labels, FullRouter n

section Built

variable {env : BuilderEnv} {l : Lookups}
  {j : Judgement} {s t : BuilderState}

theorem specKind_piece {spec : PyValue} (h : (stepType spec).isStr (text "PIECE") = true) :
    specKind spec = .piece := if_pos h

theorem specKind_code {spec : PyValue} (h : (stepType spec).isStr (text "CODE") = true) :
    specKind spec = .code := by
  rw [specKind, eq_str_of_isStr h]
  rfl

theorem specKind_router {spec : PyValue} (h : (stepType spec).isStr (text "ROUTER") = true) :
    specKind spec = .router := by
  rw [specKind, eq_str_of_isStr h]
  rfl

theorem specKind_loop {spec : PyValue} (h : (stepType spec).isStr (text "LOOP") = true) :
    specKind spec = .loop := by
  rw [specKind, eq_str_of_isStr h]
  rfl

section Entries

variable (sname : PyStr) (display items first next : PyValue) (branches children : List PyValue)

theorem nodeKind_router :
    nodeKind (buildRouterStep sname display branches children next) = .router := by
  rw [buildRouterStep, nodeKind_withNext rfl]
  rfl

theorem nodeInside_router : nodeInside (buildRouterStep sname display branches children next) =
    .ofList (children.map chainForest) := by
  rw [nodeInside, nodeKind_router, buildRouterStep, entryD_withNext (by decide)]
  rfl

theorem fullRouter_router (h : children.length = branches.length) :
    FullRouter (buildRouterStep sname display branches children next) := by
  refine fun _ ↦ ⟨branches, children, ?_, ?_, h⟩
  · rw [buildRouterStep, entryD_withNext (by decide), entryD]
    show ((pyDict _).entry "branches").getD _ = _
    rw [entry_pyDict]
    rfl
  · rw [buildRouterStep, entryD_withNext (by decide)]
    rfl

theorem nodeKind_loop : nodeKind (buildLoopStep sname display items first next) = .loop := by
  rw [buildLoopStep]
  split
  · rw [nodeKind_withNext rfl]
    rfl
  · rw [nodeKind_withNext rfl]
    rfl

theorem entryD_firstLoopAction :
    (buildLoopStep sname display items first next).entryD "firstLoopAction" =
      if first.truthy then first else .null := by
  rw [buildLoopStep, entryD_withNext (by decide)]
  split
  · rfl
  · rfl

theorem nodeInside_loop : nodeInside (buildLoopStep sname display items first next) =
    .ofList [chainForest first] := by
  rw [nodeInside, nodeKind_loop, entryD_firstLoopAction]
  by_cases hfirst : first.truthy = true
  · rw [if_pos hfirst]
  · rw [if_neg hfirst]
    show Forests.ofList [chainForest .null] = _
    rw [chainForest_of_falsy rfl, chainForest_of_falsy (by simpa using hfirst)]

theorem chainForest_loop : chainForest (buildLoopStep sname display items first next) =
    .cons (buildLoopStep sname display items first next)
      (nodeInside (buildLoopStep sname display items first next)) (chainForest next) := by
  rw [buildLoopStep]
  split
  · exact chainForest_withNext rfl rfl
  · exact chainForest_withNext rfl rfl

variable {sname display items first next} in
theorem entryD_loop {key : String} (hnext : key ≠ "nextAction") (hfirst : key ≠ "firstLoopAction") :
    (buildLoopStep sname display items first next).entryD key =
      (buildLoopStep sname display items .null .null).entryD key := by
  have hlink : List.lookup key (if first.truthy then [("firstLoopAction", first)] else []) =
      none := by
    split
    · rw [List.lookup_cons, beq_false_of_ne hfirst]
      rfl
    · rfl
  rw [buildLoopStep, buildLoopStep, entryD_withNext hnext, entryD_withNext hnext,
    List.lookup_append, List.lookup_append, hlink]
  rfl

/-- What is inside a router is no entry of its own. -/
theorem ownEntries_router : ownEntries (buildRouterStep sname display branches children next) =
    ownEntries (buildRouterStep sname display branches [] .null) := by
  have hchildren : text "children" ∈ linkKeys := by decide
  rw [buildRouterStep, buildRouterStep, ownEntries_withNext, ownEntries_withNext]
  exact (ownEntries_link [_, _, _, _, _, _] hchildren _).trans
    (ownEntries_link [_, _, _, _, _, _] hchildren _).symm

/-- What is inside a loop is no entry of its own. -/
theorem ownEntries_loop : ownEntries (buildLoopStep sname display items first next) =
    ownEntries (buildLoopStep sname display items .null .null) := by
  rw [buildLoopStep, buildLoopStep, ownEntries_withNext, ownEntries_withNext]
  split
  · exact ownEntries_link _ (by decide) _
  · rfl

theorem executionOrder_loop : executionOrder (buildLoopStep sname display items first next) =
    buildLoopStep sname display items first next ::
      (executionOrder first ++ executionOrder next) := by
  rw [buildLoopStep]
  split
  · rw [executionOrder_withNext rfl rfl]
    rfl
  · rename_i hfalsy
    have hnil : executionOrder first = [] := executionOrder_of_falsy (by simpa using hfalsy)
    rw [executionOrder_leaf rfl rfl rfl rfl, hnil]
    rfl

theorem executionOrder_router : executionOrder (buildRouterStep sname display branches children
    next) = buildRouterStep sname display branches children next ::
      (children.flatMap executionOrder ++ executionOrder next) := by
  have hnull : executionOrder .null = [] := executionOrder_of_falsy rfl
  rw [buildRouterStep, executionOrder_withNext rfl rfl]
  show _ :: ((children.flatMap executionOrder ++ executionOrder .null) ++ _) = _
  rw [hnull, List.append_nil]

end Entries

/-! ### Every build mirrors its request -/

theorem MadeOf.mono {l' : Lookups} {spec : PyValue} {own : Fields} (hl : l <:+: l')
    (h : MadeOf env l spec own) : MadeOf env l' spec own := by
  rcases h with ⟨p, sname, hk, hown⟩ | ⟨sname, htype, hdisplay, hcode, hinput, hown⟩ |
    ⟨sname, htype, hdisplay, hdefinitions, hown⟩ | ⟨sname, htype, hdisplay, hitems, hown⟩
  · exact .piece p sname (hk.trans hl) hown
  · exact .code sname htype hdisplay hcode hinput hown
  · exact .router sname htype hdisplay hdefinitions hown
  · exact .loop sname htype hdisplay hitems hown

/-- A step that is made of a specification has its kind. -/
theorem MadeOf.kind {spec : PyValue} {own : Fields} (h : MadeOf env l spec own) :
    kindOfType ((own.lookup (text "type")).getD .null) = specKind spec := by
  rcases h with ⟨p, sname, -, rfl⟩ | ⟨sname, htype, -, -, -, rfl⟩ | ⟨sname, htype, -, -, rfl⟩ |
    ⟨sname, htype, -, -, rfl⟩
  · rw [← nodeKind_eq_ownEntries, specKind_piece p.typed, PieceStep.node, buildAction,
      nodeKind_withNext rfl]
    rfl
  · rw [← nodeKind_eq_ownEntries, specKind_code htype, buildCodeStep, nodeKind_withNext rfl]
    rfl
  · rw [← nodeKind_eq_ownEntries, specKind_router htype, nodeKind_router]
  · rw [← nodeKind_eq_ownEntries, specKind_loop htype, nodeKind_loop]

theorem MadeOf.nodeKind_eq {spec node : PyValue} (h : MadeOf env l spec (ownEntries node)) :
    nodeKind node = specKind spec := (nodeKind_eq_ownEntries node).trans h.kind

/-- Forests that are paired off have the same kinds of steps. -/
theorem shape_of_related {F : Forest PyValue} {specs : List PyValue}
    (h : (specForest specs).Related (MadeOf env l) (F.map ownEntries)) :
    F.map nodeKind = (specForest specs).map specKind := by
  have hkinds := h.map_eq (f := specKind)
    (g := fun own ↦ kindOfType ((own.lookup (text "type")).getD .null)) fun _ _ h ↦ h.kind.symm
  rw [hkinds, Forest.map_map]
  exact congrArg F.map (funext nodeKind_eq_ownEntries)

/-- The branches are defined as the specification says. -/
theorem definitions_of_built {bs : List PyValue} {built : List (PyValue × PyValue)}
    (h : Built env (.branches bs built) s l t) :
    List.Forall₂ (fun b d ↦ branchDefinition (orEmpty b) = .ok d) bs (built.map Prod.fst) := by
  induction bs generalizing built s l with
  | nil =>
    rcases h with _ | _
    exact .nil
  | cons b bs ih =>
    cases h with
    | branch hdefinition _ hrest => exact .cons hdefinition (ih hrest)

/-- A step with nothing inside it. -/
theorem mirrored_leaf {fields : List (String × PyValue)} {name spec next : PyValue}
    (hname : fields.lookup "name" = some name) (hnext : fields.lookup "nextAction" = none)
    (hchildren : fields.lookup "children" = none)
    (hfirst : fields.lookup "firstLoopAction" = none)
    (hmade : MadeOf env l spec (ownEntries (withNext fields next)))
    (hleaf : specKind spec = .piece ∨ specKind spec = .code) (hnested : nestedLists spec = []) :
    (Judgement.step spec next (withNext fields next)).Mirrored env l := by
  have hkind := hmade.nodeKind_eq
  have hinside : nodeInside (withNext fields next) = .nil := by
    rw [nodeInside, hkind]
    rcases hleaf with hleaf | hleaf
    · rw [hleaf]
      rfl
    · rw [hleaf]
      rfl
  refine ⟨chainForest_withNext hname hnext, ?_, hmade, ?_, ?_⟩
  · rw [executionOrder_leaf hname hnext hchildren hfirst, hinside]
    rfl
  · rw [hinside, specInside, hnested]
    exact .nil
  · rw [hinside]
    refine List.forall_mem_singleton.2 fun hrouter ↦ ?_
    rcases hleaf with hleaf | hleaf
    · exact absurd (hrouter.symm.trans (hkind.trans hleaf)) (by decide)
    · exact absurd (hrouter.symm.trans (hkind.trans hleaf)) (by decide)

/-- **Every derivation mirrors its specifications.** -/
theorem mirrored_of_built (h : Built env j s l t) : j.Mirrored env l := by
  induction h with
  | nil =>
    have hnil : chainForest .null = .nil := chainForest_of_falsy rfl
    refine ⟨?_, ?_, ?_⟩
    · rw [hnil, specForest]
      exact .nil
    · rw [hnil, executionOrder_of_falsy rfl]
      rfl
    · rw [hnil]
      exact fun _ hn ↦ absurd hn List.not_mem_nil
  | @cons spec specs chain node s u t l₁ l₂ hdict hchain hstep ihchain ihstep =>
    obtain ⟨hsteps, hlabels, hrouters⟩ := ihchain
    obtain ⟨hforest, horder, hmade, hinside, hfull⟩ := ihstep
    have hl₁ : l₁ <:+: l₁ ++ l₂ := (List.prefix_append l₁ l₂).isInfix
    have hl₂ : l₂ <:+: l₁ ++ l₂ := (List.suffix_append l₁ l₂).isInfix
    refine ⟨?_, ?_, ?_⟩
    · rw [hforest, specForest_cons, Forest.map]
      exact .cons (hmade.mono hl₂) (hinside.mono fun _ _ ↦ .mono hl₂)
        (hsteps.mono fun _ _ ↦ .mono hl₁)
    · rw [hforest, Forest.labels, horder, hlabels]
    · rw [hforest, Forest.labels, ← List.cons_append]
      exact List.forall_mem_append.2 ⟨hfull, hrouters⟩
  | noBranch => exact ⟨.nil, rfl, fun _ hn ↦ absurd hn List.not_mem_nil⟩
  | @branch b bs definition child built s u t l₁ l₂ hdefinition hchild hrest ihchild ihrest =>
    obtain ⟨hsteps, hlabels, hrouters⟩ := ihchild
    obtain ⟨hsteps', hlabels', hrouters'⟩ := ihrest
    have hl₁ : l₁ <:+: l₁ ++ l₂ := (List.prefix_append l₁ l₂).isInfix
    have hl₂ : l₂ <:+: l₁ ++ l₂ := (List.suffix_append l₁ l₂).isInfix
    refine ⟨?_, ?_, ?_⟩
    · rw [List.map_cons, List.map_cons, Forests.ofList_cons, Forests.ofList_cons, Forests.map]
      exact .cons (hsteps.mono fun _ _ ↦ .mono hl₁) (hsteps'.mono fun _ _ ↦ .mono hl₂)
    · rw [List.map_cons, Forests.ofList_cons, Forests.labels, hlabels, hlabels']
      rfl
    · rw [List.map_cons, Forests.ofList_cons, Forests.labels]
      exact List.forall_mem_append.2 ⟨hrouters, hrouters'⟩
  | @piece spec next s l p =>
    refine mirrored_leaf rfl rfl rfl rfl (.piece p (stepName s.counter) (List.infix_refl l) ?_)
      (.inl (specKind_piece p.typed)) (nestedLists_piece p.typed)
    exact ownEntries_withNext.trans ownEntries_withNext.symm
  | @code spec next display code input s htype hdisplay hcode hinput =>
    refine mirrored_leaf rfl rfl rfl rfl (.code (stepName s.counter) htype hdisplay hcode hinput ?_)
      (.inr (specKind_code htype)) (nestedLists_code htype)
    exact ownEntries_withNext.trans ownEntries_withNext.symm
  | @router spec next display built more s t l htype hdisplay hbranches ih =>
    obtain ⟨hsteps, hlabels, hrouters⟩ := ih
    have hinside := nodeInside_router (stepName s.counter) display next (built.map Prod.fst)
      (built.map Prod.snd)
    rw [List.map_map] at hinside
    refine ⟨chainForest_withNext rfl rfl, ?_, .router (stepName s.counter) htype hdisplay
      (definitions_of_built hbranches) (ownEntries_router ..), ?_, ?_⟩
    · rw [hinside, Function.comp_def, hlabels, executionOrder_router, List.flatMap_map]
    · rw [hinside, specInside, nestedLists_router htype, List.map_map]
      exact hsteps
    · rw [hinside]
      exact List.forall_mem_cons.2 ⟨fullRouter_router _ _ _ _ _ (by simp), hrouters⟩
  | @loop spec next display items first more s t l htype hdisplay hitems hfirst ih =>
    obtain ⟨hsteps, hlabels, hrouters⟩ := ih
    have hkind := nodeKind_loop (stepName s.counter) display items first next
    have hinside := nodeInside_loop (stepName s.counter) display items first next
    refine ⟨chainForest_loop _ _ _ _ _, ?_, .loop (stepName s.counter) htype hdisplay hitems
      (ownEntries_loop ..), ?_, ?_⟩
    · rw [hinside, executionOrder_loop, Forests.ofList_cons, Forests.labels, hlabels]
      simp [Forests.labels]
    · rw [hinside, specInside, nestedLists_loop htype]
      exact .cons hsteps .nil
    · rw [hinside, Forests.ofList_cons, Forests.labels]
      refine List.forall_mem_cons.2 ⟨fun hrouter ↦ ?_, ?_⟩
      · exact absurd (hrouter.symm.trans hkind) (by decide)
      · simpa [Forests.labels] using hrouters

theorem Mirrors.mono {l' : Lookups} {specs : List PyValue} {chain : PyValue} (hl : l <:+: l')
    (h : Mirrors env l specs chain) : Mirrors env l' specs chain :=
  ⟨h.shape, h.steps.mono fun _ _ ↦ .mono hl, h.routers⟩

/-- Every chain that is built mirrors its specifications. -/
theorem mirrors_of_built {specs : List PyValue} {chain : PyValue}
    (h : Built env (.chain specs chain) s l t) : Mirrors env l specs chain := by
  obtain ⟨hsteps, -, hrouters⟩ := mirrored_of_built h
  exact ⟨shape_of_related hsteps, hsteps, hrouters⟩

theorem isDict_of_built_step {spec next node : PyValue}
    (h : Built env (.step spec next node) s l t) : node.isDict = true := by
  rcases h with _ | _ | _ | _ | p | _ | _ | _
  · rfl
  · rfl
  · rfl
  · rfl

end Built

/-! ### Names -/

/-- The name of a step. -/
def nodeName (node : PyValue) : PyValue := node.entryD "name"

/-- The names of the steps are `step_1` to `step_n`, for `n` steps, in some order; so no name is
used twice. -/
structure NumberedFromOne (steps : Forest PyValue) : Prop where
  exactly : (steps.labels.map nodeName).Perm ((List.range' 1 steps.labels.length).map numberName)
  distinct : (steps.labels.map nodeName).Nodup

theorem nodeName_loop (sname : PyStr) (display items first next : PyValue) :
    nodeName (buildLoopStep sname display items first next) = .str sname := by
  rw [nodeName, entryD_loop (by decide) (by decide), buildLoopStep, entryD_withNext (by decide)]
  rfl

section Names

variable {env : BuilderEnv} {l : Lookups} {s t : BuilderState}

theorem numberedFromOne_of_perm {steps : Forest PyValue} {k : ℕ} {N : List ℕ}
    (hnames : steps.labels.map nodeName = N.map numberName) (hperm : N.Perm (List.range' 1 k)) :
    NumberedFromOne steps := by
  have hlength : steps.labels.length = k := by
    have hcount := congrArg List.length hnames
    rwa [List.length_map, List.length_map, hperm.length_eq, List.length_range'] at hcount
  refine ⟨?_, ?_⟩
  · rw [hnames, hlength]
    exact hperm.map numberName
  · rw [hnames]
    exact (hperm.nodup_iff.2 List.nodup_range').map numberName_injective

/-- The names of a chain that is built. -/
theorem names_of_built_chain {specs : List PyValue} {chain : PyValue}
    (h : Built env (.chain specs chain) s l t) : ∃ (k : ℕ) (N : List ℕ), t.counter = s.counter + k ∧
      N.Perm (List.range' s.counter k) ∧
        (chainForest chain).labels.map nodeName = N.map numberName := by
  obtain ⟨k, N, ht, hperm, ⟨-, hnames⟩, -⟩ := numbers_of_built h
  refine ⟨k, N, ht, hperm, ?_⟩
  rw [(mirrored_of_built h).2.1]
  exact hnames

end Names

end Siyadah
