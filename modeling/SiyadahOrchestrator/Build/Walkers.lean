import Mathlib.Data.List.Nodup
import Mathlib.Data.List.Perm.Basic
import SiyadahOrchestrator.Build.Structure

/-!
# The walkers agree

Three walkers go over a flow tree. `_walk_steps` and `_collect_pieces` follow every kind of link,
`_walk_flow_tree` follows the kinds that the type of a step calls for. On the trees that the
builders produce (`StepChain`) they visit the same steps, each of them once. What they visit is said
without any of them: `placed` gives the steps with their addresses, and a path of `_walk_steps` is
an address in writing (`renderPath`).
-/

namespace Siyadah

open Dialogue PyValue

/-! ### Addresses -/

/-- A link from a step to another one. -/
inductive Link where
  | next
  | child (i : ℕ)
  | first
deriving DecidableEq

/-- The step at the end of a link. -/
def linked (node : PyValue) : Link → PyValue
  | .next => node.entryD "nextAction"
  | .child i => (node.entryD "children").listItems[i]?.getD .null
  | .first => node.entryD "firstLoopAction"

/-- The step at an address. -/
def follow (node : PyValue) (address : List Link) : PyValue := address.foldl linked node

/-- The links of a step but that into a loop, with what is at their ends. -/
def followed (node : PyValue) : List (Link × PyValue) :=
  (.next, node.entryD "nextAction") ::
    (node.entryD "children").listItems.zipIdx.map fun c ↦ (Link.child c.2, c.1)

/-- The links of a step, with what is at their ends. -/
def links (node : PyValue) : List (Link × PyValue) :=
  followed node ++ [(.first, node.entryD "firstLoopAction")]

section Links

variable {node : PyValue} {k : Link × PyValue}

theorem mem_links_iff : k ∈ links node ↔ k = (.next, node.entryD "nextAction") ∨
    (∃ i c, (node.entryD "children").listItems[i]? = some c ∧ k = (.child i, c)) ∨
      k = (.first, node.entryD "firstLoopAction") := by
  rw [links, followed, List.cons_append, List.mem_cons, List.mem_append, List.mem_singleton]
  refine or_congr Iff.rfl (or_congr ?_ Iff.rfl)
  rw [List.mem_map]
  constructor
  · rintro ⟨c, hc, rfl⟩
    exact ⟨c.2, c.1, List.mem_zipIdx_iff_getElem?.1 hc, rfl⟩
  · rintro ⟨i, c, hc, rfl⟩
    exact ⟨(c, i), List.mem_zipIdx_iff_getElem?.2 hc, rfl⟩

theorem linked_of_mem_links (h : k ∈ links node) : linked node k.1 = k.2 := by
  rcases mem_links_iff.1 h with rfl | ⟨i, c, hc, rfl⟩ | rfl
  · rfl
  · exact congrArg (·.getD .null) hc
  · rfl

theorem nodup_links (node : PyValue) : ((links node).map Prod.fst).Nodup := by
  have hchildren : ((node.entryD "children").listItems.zipIdx.map fun c ↦
      (Link.child c.2, c.1)).map Prod.fst =
        (List.range' 0 (node.entryD "children").listItems.length).map Link.child := by
    rw [← List.zipIdx_map_snd 0 (node.entryD "children").listItems, List.map_map, List.map_map]
    rfl
  rw [links, followed, List.cons_append, List.map_cons, List.map_append, hchildren]
  refine List.nodup_cons.2 ⟨?_, List.nodup_append.2 ⟨?_, List.nodup_singleton _, ?_⟩⟩
  · rw [List.mem_append]
    rintro (h | h)
    · obtain ⟨i, -, hi⟩ := List.mem_map.1 h
      exact absurd hi (by simp)
    · exact absurd (List.mem_singleton.1 h) (by simp)
  · exact (List.nodup_range' (n := (node.entryD "children").listItems.length)).map
      fun i j h ↦ Link.child.inj h
  · rintro a ha b hb rfl
    obtain ⟨i, -, rfl⟩ := List.mem_map.1 ha
    exact absurd (List.mem_singleton.1 hb) (by simp)

theorem weight_lt_of_mem_links (hdict : node.isDict = true) (h : k ∈ links node) :
    k.2.weight < node.weight := by
  rcases mem_links_iff.1 h with rfl | ⟨i, c, hc, rfl⟩ | rfl
  · exact weight_entryD_lt hdict "nextAction"
  · exact Nat.lt_of_le_of_lt (weight_le_of_mem_listItems (List.mem_of_getElem? hc))
      (weight_entryD_lt hdict "children")
  · exact weight_entryD_lt hdict "firstLoopAction"

end Links

/-- The steps from `node` on with their addresses. -/
def placed (node : PyValue) : List (List Link × PyValue) :=
  if _h : node.isDict = true ∧ node.truthy = true then
    ([], node) :: (links node).attach.flatMap fun k ↦
      (placed k.1.2).map fun p ↦ (k.1.1 :: p.1, p.2)
  else []
termination_by node.weight
decreasing_by exact weight_lt_of_mem_links _h.1 k.2

section Placed

variable {node : PyValue}

theorem placed_of_falsy (h : node.truthy = false) : placed node = [] := by
  rw [placed, dif_neg fun hnode ↦ absurd hnode.2 (by simp [h])]

theorem placed_of_node (hdict : node.isDict = true) (htruthy : node.truthy = true) :
    placed node = ([], node) :: (links node).flatMap fun k ↦
      (placed k.2).map fun p ↦ (k.1 :: p.1, p.2) := by
  rw [placed, dif_pos ⟨hdict, htruthy⟩]
  refine congrArg (List.cons _) ?_
  exact (List.flatMap_subtype fun _ _ ↦ rfl).trans (by rw [List.unattach_attach])

/-- What is placed: the step itself, or what is placed from the end of one of its links on. -/
theorem mem_placed_iff {address : List Link} {n : PyValue} :
    (address, n) ∈ placed node ↔ node.isDict = true ∧ node.truthy = true ∧
      ((address = [] ∧ n = node) ∨ ∃ k ∈ links node, ∃ rest, address = k.1 :: rest ∧
        (rest, n) ∈ placed k.2) := by
  by_cases h : node.isDict = true ∧ node.truthy = true
  · rw [placed_of_node h.1 h.2, List.mem_cons, Prod.mk.injEq, List.mem_flatMap]
    constructor
    · rintro (heq | ⟨k, hk, hmem⟩)
      · exact ⟨h.1, h.2, .inl heq⟩
      · obtain ⟨p, hp, heq⟩ := List.mem_map.1 hmem
        obtain ⟨rfl, rfl⟩ := Prod.mk.inj heq
        exact ⟨h.1, h.2, .inr ⟨k, hk, p.1, rfl, hp⟩⟩
    · rintro ⟨-, -, (heq | ⟨k, hk, rest, rfl, hrest⟩)⟩
      · exact .inl heq
      · exact .inr ⟨k, hk, List.mem_map.2 ⟨(rest, n), hrest, rfl⟩⟩
  · rw [placed, dif_neg h]
    exact iff_of_false List.not_mem_nil fun ⟨hdict, htruthy, _⟩ ↦ h ⟨hdict, htruthy⟩

/-- **Each address leads to its step.** -/
theorem follow_of_mem_placed {address : List Link} {n : PyValue}
    (h : (address, n) ∈ placed node) : follow node address = n := by
  induction address generalizing node with
  | nil =>
    obtain ⟨-, -, (⟨-, rfl⟩ | ⟨k, -, rest, heq, -⟩)⟩ := mem_placed_iff.1 h
    · rfl
    · exact absurd heq (by simp)
  | cons link address ih =>
    obtain ⟨-, -, (⟨heq, -⟩ | ⟨k, hk, rest, heq, hrest⟩)⟩ := mem_placed_iff.1 h
    · exact absurd heq (by simp)
    · obtain ⟨rfl, rfl⟩ := List.cons.inj heq
      show follow (linked node k.1) address = n
      rw [linked_of_mem_links hk]
      exact ih hrest

/-- **No address is used twice.** -/
theorem nodup_placed (node : PyValue) : ((placed node).map Prod.fst).Nodup := by
  by_cases h : node.isDict = true ∧ node.truthy = true
  · have hrest : ((links node).flatMap fun k ↦ (placed k.2).map fun p ↦ (k.1 :: p.1, p.2)).map
        Prod.fst = (links node).flatMap fun k ↦ ((placed k.2).map Prod.fst).map (k.1 :: ·) := by
      rw [List.map_flatMap]
      refine List.flatMap_congr fun k _ ↦ ?_
      rw [List.map_map, List.map_map]
      rfl
    rw [placed_of_node h.1 h.2, List.map_cons, hrest, List.nodup_cons]
    refine ⟨fun hnil ↦ ?_, ?_⟩
    · obtain ⟨k, -, hk⟩ := List.mem_flatMap.1 hnil
      obtain ⟨p, -, hp⟩ := List.mem_map.1 hk
      exact absurd hp (by simp)
    · refine List.nodup_flatMap.2 ⟨fun k hk ↦ ?_, ?_⟩
      · exact (nodup_placed k.2).map fun _ _ heq ↦ (List.cons.inj heq).2
      · -- The addresses behind different links begin with different links.
        refine (List.pairwise_map.1 (nodup_links node)).imp fun {k k'} hne ↦ ?_
        intro address hmem hmem'
        obtain ⟨p, -, rfl⟩ := List.mem_map.1 hmem
        obtain ⟨p', -, hp'⟩ := List.mem_map.1 hmem'
        exact hne (List.cons.inj hp').1.symm
  · rw [placed, dif_neg h]
    exact List.nodup_nil
termination_by node.weight
decreasing_by exact weight_lt_of_mem_links h.1 hk

/-- **The steps that are placed are those that are executed.** -/
theorem perm_placed (node : PyValue) :
    ((placed node).map Prod.snd).Perm (executionOrder node) := by
  by_cases h : node.isDict = true ∧ node.truthy = true
  · have hrest : ((links node).flatMap fun k ↦ (placed k.2).map fun p ↦ (k.1 :: p.1, p.2)).map
        Prod.snd = (links node).flatMap fun k ↦ (placed k.2).map Prod.snd := by
      rw [List.map_flatMap]
      refine List.flatMap_congr fun k _ ↦ ?_
      rw [List.map_map]
      rfl
    have hlinks : (links node).flatMap (fun k ↦ executionOrder k.2) =
        executionOrder (node.entryD "nextAction") ++
          ((node.entryD "children").listItems.flatMap executionOrder ++
            executionOrder (node.entryD "firstLoopAction")) := by
      rw [links, followed, List.cons_append, List.flatMap_cons, List.flatMap_append,
        List.flatMap_map, List.flatMap_singleton]
      refine congrArg (fun l ↦ executionOrder (node.entryD "nextAction") ++
        (l ++ executionOrder (node.entryD "firstLoopAction"))) ?_
      conv_rhs => rw [← List.zipIdx_map_fst 0 (node.entryD "children").listItems]
      rw [List.flatMap_map]
    rw [placed_of_node h.1 h.2, List.map_cons, hrest, executionOrder_of_node h.1 h.2]
    refine List.Perm.cons node ?_
    refine (List.Perm.flatMap_left (links node) fun k hk ↦ perm_placed k.2).trans ?_
    rw [hlinks]
    exact List.perm_append_comm
  · rw [placed, dif_neg h, executionOrder, dif_neg h]
    exact .refl _
termination_by node.weight
decreasing_by exact weight_lt_of_mem_links h.1 hk

end Placed

/-! ### Paths -/

/-- A link in writing. -/
def renderLink : Link → PyStr
  | .next => text ".nextAction"
  | .child i => text s!".children[{i}]"
  | .first => text ".firstLoopAction"

/-- An address in writing. -/
def renderPath (address : List Link) : PyStr := address.flatMap renderLink

/-- What is written after the dot. -/
def linkBody : Link → PyStr
  | .next => text "nextAction"
  | .child i => text "children[" ++ digits i ++ text "]"
  | .first => text "firstLoopAction"

theorem text_append (a b : String) : text (a ++ b) = text a ++ text b := by
  rw [text, text, text, PyStr.ofString, PyStr.ofString, PyStr.ofString, String.toList_append,
    List.map_append]

theorem renderLink_eq (k : Link) : renderLink k = 46 :: linkBody k := by
  cases k with
  | next => rfl
  | child i =>
    show text (".children[" ++ toString i ++ "]") = _
    rw [text_append, text_append]
    rfl
  | first => rfl

theorem dot_notMem_digits (n : ℕ) : 46 ∉ digits n := by
  have hread := readDigits_digits n
  rw [readDigits] at hread
  split at hread
  · rename_i hdigits
    intro hdot
    have := hdigits.2 46 hdot
    omega
  · exact absurd hread (by simp)

theorem dot_notMem_linkBody (k : Link) : 46 ∉ linkBody k := by
  cases k with
  | next => decide
  | child i =>
    rw [linkBody, List.mem_append, List.mem_append]
    rintro ((h | h) | h)
    · exact absurd h (by decide)
    · exact dot_notMem_digits i h
    · exact absurd h (by decide)
  | first => decide

theorem linkBody_injective : Function.Injective linkBody := by
  intro k k' h
  have hhead : ∀ i, (linkBody (.child i)).head? = some 99 := fun _ ↦ rfl
  cases k with
  | next =>
    cases k' with
    | next => rfl
    | child i => exact absurd ((congrArg List.head? h).trans (hhead i)) (by decide)
    | first => exact absurd h (by decide)
  | child i =>
    cases k' with
    | next => exact absurd ((congrArg List.head? h).symm.trans (hhead i)) (by decide)
    | child j =>
      have hdigits := List.append_cancel_left (List.append_cancel_right h)
      rw [digits_injective hdigits]
    | first => exact absurd ((congrArg List.head? h).symm.trans (hhead i)) (by decide)
  | first =>
    cases k' with
    | next => exact absurd h (by decide)
    | child i => exact absurd ((congrArg List.head? h).trans (hhead i)) (by decide)
    | first => rfl

/-- What is written after a link begins with a dot, so the link ends before the next one. -/
theorem takeWhile_renderPath (k : Link) (address : List Link) :
    (linkBody k ++ renderPath address).takeWhile (· ≠ 46) = linkBody k := by
  have hbody : ∀ c ∈ linkBody k, (decide (c ≠ 46)) = true := by
    intro c hc
    exact decide_eq_true fun heq ↦ dot_notMem_linkBody k (heq ▸ hc)
  rw [List.takeWhile_append_of_pos hbody]
  cases address with
  | nil => exact List.append_nil _
  | cons k' address =>
    rw [renderPath, List.flatMap_cons, renderLink_eq]
    exact List.append_nil _

/-- **Different addresses are written differently.** -/
theorem renderPath_injective : Function.Injective renderPath := by
  intro address address' h
  induction address generalizing address' with
  | nil =>
    cases address' with
    | nil => rfl
    | cons k' rest' =>
      rw [renderPath, renderPath, List.flatMap_cons, renderLink_eq] at h
      exact absurd h (by simp)
  | cons k rest ih =>
    cases address' with
    | nil =>
      rw [renderPath, renderPath, List.flatMap_cons, renderLink_eq] at h
      exact absurd h (by simp)
    | cons k' rest' =>
      rw [renderPath, renderPath, List.flatMap_cons, List.flatMap_cons, renderLink_eq,
        renderLink_eq] at h
      have hbody : linkBody k ++ renderPath rest = linkBody k' ++ renderPath rest' :=
        (List.cons.inj h).2
      have hlink := congrArg (List.takeWhile (· ≠ 46)) hbody
      rw [takeWhile_renderPath, takeWhile_renderPath] at hlink
      obtain rfl := linkBody_injective hlink
      rw [ih (List.append_cancel_left hbody)]

/-! ### Trees of the builders -/

/-- The shape of a step on its own: what it has besides its links, and which links it may have. -/
structure IsStep (node : PyValue) : Prop where
  dict : node.isDict = true
  truthy : node.truthy = true
  settings : (node.entryD "settings").isDict = true
  piece : nodePiece node = .null ∨ ∃ full, nodePiece node = .str full
  children : node.entry "children" = none ∨ ∃ cs, node.entry "children" = some (.list cs)
  typed : (∃ branches, node.entryD "type" = py "ROUTER" ∧ node.entryD "firstLoopAction" = .null ∧
      (node.entryD "settings").entry "branches" = some (.list branches)) ∨
    (node.entryD "type" = py "LOOP_ON_ITEMS" ∧ node.entry "children" = none) ∨
    (∃ type, node.entry "type" = some type ∧ type.isStr (text "ROUTER") = false ∧
      type.isStr (text "LOOP_ON_ITEMS") = false ∧ node.entry "children" = none ∧
        node.entryD "firstLoopAction" = .null)

/-- A chain of steps, whose links lead to such chains again. -/
inductive StepChain : PyValue → Prop
  | nil : StepChain .null
  | step {node} : IsStep node → (∀ k ∈ links node, StepChain k.2) → StepChain node

section Built

variable {fields : List (String × PyValue)} {name type next settings : PyValue}

theorem entry_withNext {key : String} (h : key ≠ "nextAction") :
    (withNext fields next).entry key = fields.lookup key := by
  rw [withNext, entry_pyDict, List.lookup_append]
  split
  · rw [List.lookup_cons, beq_false_of_ne h]
    simp
  · simp

theorem stepChain_end (hnext : fields.lookup "nextAction" = none) (h : StepChain next) :
    StepChain ((withNext fields next).entryD "nextAction") := by
  rw [entryD_nextAction hnext]
  split
  · exact h
  · exact .nil

/-- A step without children and without a loop. -/
theorem stepChain_leaf (hname : fields.lookup "name" = some name)
    (hnext : fields.lookup "nextAction" = none) (hchildren : fields.lookup "children" = none)
    (hfirst : fields.lookup "firstLoopAction" = none)
    (hsettings : fields.lookup "settings" = some settings) (hdict : settings.isDict = true)
    (hpiece : settings.entryD "pieceName" = .null ∨ ∃ full, settings.entryD "pieceName" = .str full)
    (htype : fields.lookup "type" = some type) (hrouter : type.isStr (text "ROUTER") = false)
    (hloop : type.isStr (text "LOOP_ON_ITEMS") = false) (h : StepChain next) :
    StepChain (withNext fields next) := by
  have hsettings' : (withNext fields next).entryD "settings" = settings := by
    rw [entryD_withNext (by decide), hsettings]
    rfl
  have hchildren' : (withNext fields next).entry "children" = none :=
    (entry_withNext (by decide)).trans hchildren
  have hfirst' : (withNext fields next).entryD "firstLoopAction" = .null := by
    rw [entryD_withNext (by decide), hfirst]
    rfl
  refine .step ⟨rfl, truthy_withNext hname, hsettings' ▸ hdict, ?_, .inl hchildren',
    .inr (.inr ⟨type, (entry_withNext (by decide)).trans htype, hrouter, hloop, hchildren',
      hfirst'⟩)⟩ ?_
  · rw [nodePiece, hsettings']
    exact hpiece
  · intro k hk
    rcases mem_links_iff.1 hk with rfl | ⟨i, c, hc, rfl⟩ | rfl
    · exact stepChain_end hnext h
    · rw [entryD, hchildren'] at hc
      exact absurd hc (by simp [listItems])
    · show StepChain ((withNext fields next).entryD "firstLoopAction")
      rw [hfirst']
      exact .nil

theorem stepChain_router (sname : PyStr) (display next : PyValue)
    (branches children : List PyValue) (hnext : StepChain next)
    (hchildren : ∀ c ∈ children, StepChain c) :
    StepChain (buildRouterStep sname display branches children next) := by
  generalize hnode : buildRouterStep sname display branches children next = node
  have hentry : node.entry "children" = some (.list children) := by
    rw [← hnode, buildRouterStep, entry_withNext (by decide)]
    rfl
  have hsettings : node.entryD "settings" = pyDict [("branches", .list branches),
      ("executionType", py "EXECUTE_FIRST_MATCH"), ("inputUiInfo", .dict []),
      ("errorHandlingOptions", errorHandlingOptions)] := by
    rw [← hnode, buildRouterStep, entryD_withNext (by decide)]
    rfl
  have hfirst : node.entryD "firstLoopAction" = .null := by
    rw [← hnode, buildRouterStep, entryD_withNext (by decide)]
    rfl
  refine .step ⟨hnode ▸ rfl, hnode ▸ truthy_withNext rfl, hsettings ▸ rfl, .inl ?_,
    .inr ⟨children, hentry⟩, .inl ⟨branches, ?_, hfirst, ?_⟩⟩ fun k hk ↦ ?_
  · rw [nodePiece, hsettings, entryD, entry_pyDict]
    rfl
  · rw [← hnode, buildRouterStep, entryD_withNext (by decide)]
    rfl
  · rw [hsettings, entry_pyDict]
    rfl
  · rcases mem_links_iff.1 hk with rfl | ⟨i, c, hc, rfl⟩ | rfl
    · exact hnode ▸ stepChain_end rfl hnext
    · rw [entryD, hentry] at hc
      exact hchildren c (List.mem_of_getElem? hc)
    · exact hfirst ▸ .nil

theorem stepChain_loop (sname : PyStr) (display items first next : PyValue)
    (hnext : StepChain next) (hfirst : StepChain first) :
    StepChain (buildLoopStep sname display items first next) := by
  have hlink := entryD_firstLoopAction sname display items first next
  obtain ⟨fields, hfields, hname, hend, hchildren, hsettings, htype⟩ :
      ∃ fields, buildLoopStep sname display items first next = withNext fields next ∧
        fields.lookup "name" = some (.str sname) ∧ fields.lookup "nextAction" = none ∧
        fields.lookup "children" = none ∧ fields.lookup "settings" = some (pyDict
          [("items", items), ("inputUiInfo", .dict []),
            ("errorHandlingOptions", errorHandlingOptions)]) ∧
        fields.lookup "type" = some (py "LOOP_ON_ITEMS") := by
    rw [buildLoopStep]
    split
    · exact ⟨_, rfl, rfl, rfl, rfl, rfl, rfl⟩
    · exact ⟨_, rfl, rfl, rfl, rfl, rfl, rfl⟩
  rw [hfields] at hlink ⊢
  have hsettings' : (withNext fields next).entryD "settings" = pyDict [("items", items),
      ("inputUiInfo", .dict []), ("errorHandlingOptions", errorHandlingOptions)] := by
    rw [entryD_withNext (by decide), hsettings]
    rfl
  have hchildren' : (withNext fields next).entry "children" = none :=
    (entry_withNext (by decide)).trans hchildren
  refine .step ⟨rfl, truthy_withNext hname, hsettings' ▸ rfl, .inl ?_, .inl hchildren',
    .inr (.inl ⟨?_, hchildren'⟩)⟩ fun k hk ↦ ?_
  · rw [nodePiece, hsettings', entryD, entry_pyDict]
    rfl
  · rw [entryD_withNext (by decide), htype]
    rfl
  · rcases mem_links_iff.1 hk with rfl | ⟨i, c, hc, rfl⟩ | rfl
    · exact stepChain_end hend hnext
    · rw [entryD, hchildren'] at hc
      exact absurd hc (by simp [listItems])
    · show StepChain ((withNext fields next).entryD "firstLoopAction")
      rw [hlink]
      split
      · exact hfirst
      · exact .nil

/-- The trigger and what is built after it. -/
theorem stepChain_buildTrigger {piece : PyStr} {version triggerName input display : PyValue}
    (h : StepChain next) :
    StepChain (buildTrigger piece version triggerName input display next) := by
  refine stepChain_leaf rfl rfl rfl rfl rfl rfl (.inr ⟨piece, ?_⟩) rfl (by decide) (by decide) h
  rw [entryD, entry_pyDict]
  rfl

variable {env : BuilderEnv} {l : Lookups}
  {j : Judgement} {s t : BuilderState}

/-- What a derivation leaves is a chain of steps. -/
def Judgement.WellLinked : Judgement → Prop
  | .step _ next node => StepChain next → StepChain node
  | .chain _ node => StepChain node
  | .branches _ built => ∀ b ∈ built, StepChain b.2

/-- **Every build leaves a chain of steps.** -/
theorem wellLinked_of_built (h : Built env j s l t) : j.WellLinked := by
  induction h with
  | nil => exact .nil
  | cons hdict hchain hstep ihchain ihstep => exact ihstep ihchain
  | noBranch => exact fun b hb ↦ absurd hb List.not_mem_nil
  | branch hdefinition hchild hrest ihchild ihrest =>
    exact List.forall_mem_cons.2 ⟨ihchild, ihrest⟩
  | @piece spec next s l p =>
    intro hnext
    refine stepChain_leaf rfl rfl rfl rfl rfl rfl (.inr ⟨p.full, ?_⟩) rfl (by decide) (by decide)
      hnext
    rw [entryD, entry_pyDict]
    rfl
  | @code spec next display code input s htype hdisplay hcode hinput =>
    intro hnext
    refine stepChain_leaf rfl rfl rfl rfl rfl rfl (.inl ?_) rfl (by decide) (by decide) hnext
    rw [entryD, entry_pyDict]
    rfl
  | @router spec next display built more s t l htype hdisplay hbranches ih =>
    intro hnext
    exact stepChain_router _ _ _ _ _ hnext fun c hc ↦ by
      obtain ⟨b, hb, rfl⟩ := List.mem_map.1 hc
      exact ih b hb
  | @loop spec next display items first more s t l htype hdisplay hitems hfirst ih =>
    exact fun hnext ↦ stepChain_loop _ _ _ _ _ hnext ih

end Built

/-! ### The first walker -/

/-- What `recurse` yields for the end of a link. -/
def visit (node : PyValue) (path : PyStr) : List Yield :=
  if node.isDict then .ok (path, node) :: recurseSteps node path else []

section Walk

variable {node : PyValue}

theorem yieldFrom_child (hdict : node.isDict = true) (key : String) (f : PyValue → List Yield) :
    (yieldFrom (node.child key Leaf.null) fun w ↦ f w.1) = f (node.entryD key) := by
  cases node with
  | dict fields => rfl
  | _ => exact absurd hdict (by simp [isDict])

/-- The children of a step, as a walker reads them. -/
theorem exists_children (h : IsStep node) : ∃ ch ws, node.child "children" Leaf.null = .ok ch ∧
    ch.orNil.1.items = .ok ws ∧ ws.map Subtype.val = (node.entryD "children").listItems := by
  obtain ⟨ch, hch⟩ : ∃ ch, node.child "children" Leaf.null = .ok ch := by
    cases node with
    | dict fields => exact ⟨_, rfl⟩
    | _ => exact absurd h.dict (by simp [isDict])
  have hval : ch.1 = node.entryD "children" := (child_eq_ok hch).2
  have hlist : ch.orNil.1 = .list (node.entryD "children").listItems := by
    rw [Part.orNil_val, hval, entryD]
    rcases h.children with hnone | ⟨cs, hcs⟩
    · rw [hnone]
      rfl
    · rw [hcs]
      cases cs with
      | nil => rfl
      | cons c cs => rfl
  obtain ⟨ws, hws⟩ : ∃ ws, ch.orNil.1.items = .ok ws := by
    rw [hlist]
    exact ⟨_, rfl⟩
  refine ⟨ch, ws, hch, hws, ?_⟩
  rw [map_val_of_items hws, hlist]
  rfl

theorem recurseSteps_eq (h : IsStep node) (path : PyStr) :
    recurseSteps node path = (links node).flatMap fun k ↦ visit k.2 (path ++ renderLink k.1) := by
  obtain ⟨ch, ws, hch, hws, hval⟩ := exists_children h
  rw [recurseSteps, hch, links, followed, List.flatMap_append, List.flatMap_cons, List.flatMap_map]
  refine congrArg₂ _ (congrArg₂ _ ?_ ?_) ?_
  · exact yieldFrom_child h.dict "nextAction" fun w ↦ visit w (path ++ text ".nextAction")
  · show yieldFrom ch.orNil.1.items _ = _
    rw [hws, ← hval, List.zipIdx_map, List.flatMap_map]
    rfl
  · rw [List.flatMap_singleton]
    exact yieldFrom_child h.dict "firstLoopAction" fun w ↦
      visit w (path ++ text ".firstLoopAction")

/-- **`_walk_steps` yields the steps with their addresses in writing.** -/
theorem visit_of_stepChain (h : StepChain node) (path : PyStr) : visit node path =
    (placed node).map fun p ↦ .ok (path ++ renderPath p.1, p.2) := by
  induction h generalizing path with
  | nil =>
    rw [placed_of_falsy rfl]
    rfl
  | @step node hstep hlinks ih =>
    rw [visit, if_pos hstep.dict, recurseSteps_eq hstep, placed_of_node hstep.dict hstep.truthy,
      List.map_cons, List.map_flatMap]
    refine congrArg₂ _ (congrArg (fun q ↦ Except.ok (q, node)) (List.append_nil path).symm) ?_
    refine List.flatMap_congr fun k hk ↦ ?_
    rw [ih k hk, List.map_map]
    refine List.map_congr_left fun p _ ↦ ?_
    show Except.ok (path ++ renderLink k.1 ++ renderPath p.1, p.2) =
      Except.ok (path ++ renderPath (k.1 :: p.1), p.2)
    rw [List.append_assoc]
    rfl

/-! ### The second walker -/

/-- The settings of a step, as a walker reads them. -/
theorem getD_settings (h : IsStep node) :
    node.getD "settings" (.dict []) = .ok (node.entryD "settings") := by
  rw [getD_of_isDict h.dict, entryD]
  cases hentry : node.entry "settings" with
  | some v => rfl
  | none =>
    have hsettings := h.settings
    rw [entryD, hentry] at hsettings
    exact absurd hsettings (by simp [isDict])

theorem exists_stepInfo (h : node.isDict = true) (depth : ℕ) (detail : StepDetail) :
    ∃ info, stepInfo node depth detail = .ok info ∧ info.name = nodeName node := by
  obtain ⟨valid, hvalid⟩ : ∃ valid, node.getD "valid" (.bool true) = .ok valid :=
    ⟨_, getD_of_isDict h _ _⟩
  exact ⟨_, bind_eq_ok_iff.2 ⟨_, get_of_isDict h "name", bind_eq_ok_iff.2 ⟨_,
    get_of_isDict h "type", bind_eq_ok_iff.2 ⟨_, get_of_isDict h "displayName",
      bind_eq_ok_iff.2 ⟨valid, hvalid, rfl⟩⟩⟩⟩, rfl⟩

theorem exists_plainInfo (h : IsStep node) (depth : ℕ) :
    ∃ info, plainInfo node depth = .ok info ∧ info.name = nodeName node := by
  obtain ⟨input, hinput⟩ : ∃ input, (node.entryD "settings").getD "input" (.dict []) = .ok input :=
    ⟨_, getD_of_isDict h.settings _ _⟩
  obtain ⟨info, hinfo, hname⟩ := exists_stepInfo h.dict depth
    (.plain (nodePiece node) (((node.entryD "settings").entryD "actionName").orElse
      ((node.entryD "settings").entryD "triggerName")) (nullInputKeys input))
  exact ⟨info, bind_eq_ok_iff.2 ⟨_, getD_settings h, bind_eq_ok_iff.2 ⟨_,
    get_of_isDict h.settings "pieceName", bind_eq_ok_iff.2 ⟨_,
      get_of_isDict h.settings "actionName", bind_eq_ok_iff.2 ⟨_,
        get_of_isDict h.settings "triggerName", bind_eq_ok_iff.2 ⟨input, hinput, hinfo⟩⟩⟩⟩⟩, hname⟩

theorem flatten_of_forall₂ {α β γ : Type} {f : α → List γ} {g : β → γ} {l : List α}
    {r : List (List β)} (h : List.Forall₂ (fun a b ↦ b.map g = f a) l r) :
    r.flatten.map g = l.flatMap f := by
  induction h with
  | nil => rfl
  | cons hfirst hrest ih => rw [List.flatten_cons, List.map_append, hfirst, ih, List.flatMap_cons]

/-- The link under a key that is not there is `None`. -/
theorem childNull_of_isDict (h : node.isDict = true) (key : String) :
    ∃ w, node.child key Leaf.null = .ok w ∧ w.1 = node.entryD key := child_of_isDict h key Leaf.null

theorem exists_childrenNil (h : IsStep node) : ∃ ch ws, node.child "children" Leaf.nil = .ok ch ∧
    ch.1.items = .ok ws ∧ ws.map Subtype.val = (node.entryD "children").listItems := by
  obtain ⟨ch, hch, hval⟩ := child_of_isDict h.dict "children" Leaf.nil
  obtain ⟨ws, hws⟩ : ∃ ws, ch.1.items = .ok ws := by
    rw [hval]
    rcases h.children with hnone | ⟨cs, hcs⟩
    · rw [hnone]
      exact ⟨_, rfl⟩
    · rw [hcs]
      exact ⟨_, rfl⟩
  refine ⟨ch, ws, hch, hws, ?_⟩
  rw [map_val_of_items hws, hval, entryD]
  rcases h.children with hnone | ⟨cs, hcs⟩
  · rw [hnone]
    rfl
  · rw [hcs]
    rfl

theorem mem_links_of_children {c : PyValue} (h : c ∈ (node.entryD "children").listItems) :
    ∃ i, (Link.child i, c) ∈ links node := by
  obtain ⟨i, hi⟩ := List.mem_iff_getElem?.1 h
  exact ⟨i, mem_links_iff.2 (.inr (.inl ⟨i, c, hi, rfl⟩))⟩

theorem entryD_eq_getD {key : String} {v d : PyValue} (h : node.entryD key = v) (hv : v ≠ .null) :
    (node.entry key).getD d = v := by
  rw [entryD] at h
  cases hentry : node.entry key with
  | some w =>
    rw [hentry] at h
    exact h
  | none =>
    rw [hentry] at h
    exact absurd h.symm hv

theorem listItems_of_none {key : String} (h : node.entry key = none) :
    (node.entryD key).listItems = [] := by
  rw [entryD, h]
  rfl

/-- **`_walk_flow_tree` lists the steps in the order of their execution.** -/
theorem walk_of_stepChain (h : StepChain node) (depth : ℕ) : ∃ steps,
    walk node depth = .ok steps ∧ steps.map StepInfo.name = (executionOrder node).map nodeName := by
  induction h generalizing depth with
  | nil =>
    refine ⟨[], ?_, ?_⟩
    · rw [walk]
      rfl
    · rw [executionOrder_of_falsy rfl]
      rfl
  | @step node hstep hlinks ih =>
    obtain ⟨next, hnext, hnextVal⟩ := childNull_of_isDict hstep.dict "nextAction"
    obtain ⟨rest, hrest, hrestNames⟩ := ih _ (mem_links_iff.2 (.inl rfl)) depth
    have hntype := getD_of_isDict hstep.dict "type" (py "")
    have hnull : executionOrder .null = [] := executionOrder_of_falsy rfl
    rw [← hnextVal] at hrest
    rw [walk, hstep.truthy, executionOrder_of_node hstep.dict hstep.truthy]
    rcases hstep.typed with ⟨branches, htype, hfirst, hbranches⟩ | ⟨htype, hchildren⟩ |
      ⟨type, htype, hrouter, hloop, hchildren, hfirst⟩
    · obtain ⟨ch, ws, hch, hws, hval⟩ := exists_childrenNil hstep
      have heach : ∀ c ∈ ws, ∃ steps, walk c.1 (depth + 1) = .ok steps ∧
          steps.map StepInfo.name = (executionOrder c.1).map nodeName := by
        intro c hc
        obtain ⟨i, hi⟩ := mem_links_of_children (hval ▸ List.mem_map_of_mem hc)
        exact ih _ hi (depth + 1)
      obtain ⟨below, hbelow, hall⟩ := exists_mapM_eq_ok heach
      obtain ⟨info, hinfo, hname⟩ := exists_stepInfo hstep.dict depth
        (.router branches.length (ws.filter fun c ↦ c.1.truthy).length)
      have hbranches' : (node.entryD "settings").getD "branches" (.list []) =
          .ok (.list branches) := by
        rw [getD_of_isDict hstep.settings, hbranches]
        rfl
      have hrouter : node.getD "type" (py "") = .ok (py "ROUTER") := by
        rw [hntype, entryD_eq_getD htype (by simp [py])]
      refine ⟨info :: below.flatten ++ rest, bind_eq_ok_iff.2 ⟨_, hrouter, bind_eq_ok_iff.2
        ⟨next, hnext, ?_⟩⟩, ?_⟩
      · rw [if_pos (by decide)]
        exact bind_eq_ok_iff.2 ⟨_, getD_settings hstep, bind_eq_ok_iff.2 ⟨_, hbranches',
          bind_eq_ok_iff.2 ⟨ch, hch, bind_eq_ok_iff.2 ⟨branches.length, rfl, bind_eq_ok_iff.2
            ⟨ws, hws, bind_eq_ok_iff.2 ⟨info, hinfo, bind_eq_ok_iff.2 ⟨below, hbelow,
              bind_eq_ok_iff.2 ⟨rest, hrest, rfl⟩⟩⟩⟩⟩⟩⟩⟩
      · have hnames : below.flatten.map StepInfo.name =
            ((node.entryD "children").listItems.flatMap executionOrder).map nodeName := by
          rw [flatten_of_forall₂ hall, List.map_flatMap, ← hval, List.flatMap_map]
        rw [List.cons_append, List.map_cons, List.map_append, hname, hnames, hrestNames, hfirst,
          hnull, List.append_nil, List.map_cons, List.map_append]
    · obtain ⟨first, hfirst, hfirstVal⟩ := childNull_of_isDict hstep.dict "firstLoopAction"
      obtain ⟨below, hbelow, hbelowNames⟩ := ih _ (mem_links_iff.2 (.inr (.inr rfl))) (depth + 1)
      rw [← hfirstVal] at hbelow
      have hloop : node.getD "type" (py "") = .ok (py "LOOP_ON_ITEMS") := by
        rw [hntype, entryD_eq_getD htype (by simp [py])]
      obtain ⟨detail, hwalk⟩ : ∃ detail, ∀ info, stepInfo node depth detail = .ok info →
          walk node depth = .ok (info :: below ++ rest) := by
        rw [walk, hstep.truthy]
        exact ⟨_, fun info hinfo ↦ bind_eq_ok_iff.2 ⟨_, hloop, bind_eq_ok_iff.2 ⟨next, hnext,
          (if_neg (by decide)).trans ((if_pos (by decide)).trans (bind_eq_ok_iff.2
            ⟨_, getD_settings hstep, bind_eq_ok_iff.2 ⟨_, get_of_isDict hstep.settings "items",
              bind_eq_ok_iff.2 ⟨first, hfirst, bind_eq_ok_iff.2 ⟨info, hinfo, bind_eq_ok_iff.2
                ⟨below, hbelow, bind_eq_ok_iff.2 ⟨rest, hrest, rfl⟩⟩⟩⟩⟩⟩))⟩⟩⟩
      obtain ⟨info, hinfo, hname⟩ := exists_stepInfo hstep.dict depth detail
      refine ⟨info :: below ++ rest, ?_, ?_⟩
      · have hnode := hwalk info hinfo
        rwa [walk, hstep.truthy] at hnode
      · rw [List.cons_append, List.map_cons, List.map_append, hname, hbelowNames, hrestNames,
          listItems_of_none hchildren, List.map_cons, List.map_append]
        rfl
    · obtain ⟨info, hinfo, hname⟩ := exists_plainInfo hstep depth
      change type.isStr (PyStr.ofString "ROUTER") = false at hrouter
      change type.isStr (PyStr.ofString "LOOP_ON_ITEMS") = false at hloop
      rw [htype] at hntype
      refine ⟨info :: rest, bind_eq_ok_iff.2 ⟨type, hntype, bind_eq_ok_iff.2 ⟨next, hnext, ?_⟩⟩, ?_⟩
      · rw [if_neg (ne_true_of_eq_false hrouter), if_neg (ne_true_of_eq_false hloop)]
        exact bind_eq_ok_iff.2 ⟨info, hinfo, bind_eq_ok_iff.2 ⟨rest, hrest, rfl⟩⟩
      · rw [List.map_cons, List.map_cons, hname, hrestNames, hfirst, hnull,
          listItems_of_none hchildren]
        rfl

/-! ### The third walker -/

/-- The short name of the piece of a step; a step without a piece has none. -/
def shortPiece (node : PyValue) : Option PyStr :=
  match nodePiece node with
  | .str full => if full = [] then none else some (shortName full)
  | _ => none

theorem ownPiece_of_isStep (h : IsStep node) : ownPiece node = .ok (shortPiece node).toList := by
  rw [ownPiece, getD_settings h]
  show ((node.entryD "settings").getD "pieceName" (py "") >>= _) = _
  rw [getD_of_isDict h.settings]
  rcases h.piece with hpiece | ⟨full, hpiece⟩
  · have hfalsy : (((node.entryD "settings").entry "pieceName").getD (py "")).truthy = false := by
      rw [nodePiece, entryD] at hpiece
      cases hentry : (node.entryD "settings").entry "pieceName" with
      | none => rfl
      | some v =>
        rw [hentry] at hpiece
        exact hpiece ▸ rfl
    show (if (!(((node.entryD "settings").entry "pieceName").getD (py "")).truthy) = true then _
      else _) = _
    rw [hfalsy, shortPiece, hpiece]
    rfl
  · have hentry : ((node.entryD "settings").entry "pieceName").getD (py "") = .str full :=
      entryD_eq_getD hpiece (by simp)
    rw [hentry, shortPiece, hpiece]
    cases full with
    | nil => rfl
    | cons c full => rfl

/-- **`_collect_pieces` collects the pieces of the steps.** -/
theorem collectPieces_of_stepChain (h : StepChain node) : ∃ pieces,
    collectPieces node = .ok pieces ∧ pieces.Perm ((executionOrder node).filterMap shortPiece) := by
  induction h with
  | nil =>
    refine ⟨[], ?_, ?_⟩
    · rw [collectPieces]
      rfl
    · rw [executionOrder_of_falsy rfl]
      exact .refl _
  | @step node hstep hlinks ih =>
    obtain ⟨next, hnext, hnextVal⟩ := childNull_of_isDict hstep.dict "nextAction"
    obtain ⟨first, hfirst, hfirstVal⟩ := childNull_of_isDict hstep.dict "firstLoopAction"
    obtain ⟨afterNext, hafterNext, hpermNext⟩ := ih _ (mem_links_iff.2 (.inl rfl))
    obtain ⟨afterFirst, hafterFirst, hpermFirst⟩ := ih _ (mem_links_iff.2 (.inr (.inr rfl)))
    rw [← hnextVal] at hafterNext
    rw [← hfirstVal] at hafterFirst
    obtain ⟨ch, ws, hch, hws, hval⟩ := exists_children hstep
    have heach : ∀ c ∈ ws, ∃ pieces, collectPieces c.1 = .ok pieces ∧
        pieces.Perm ((executionOrder c.1).filterMap shortPiece) := by
      intro c hc
      obtain ⟨i, hi⟩ := mem_links_of_children (hval ▸ List.mem_map_of_mem hc)
      exact ih _ hi
    obtain ⟨below, hbelow, hall⟩ := exists_mapM_eq_ok heach
    refine ⟨(shortPiece node).toList ++ afterNext ++ afterFirst ++ below.flatten, ?_, ?_⟩
    · rw [collectPieces, hstep.truthy, hstep.dict]
      exact bind_eq_ok_iff.2 ⟨_, ownPiece_of_isStep hstep, bind_eq_ok_iff.2 ⟨next, hnext,
        bind_eq_ok_iff.2 ⟨afterNext, hafterNext, bind_eq_ok_iff.2 ⟨first, hfirst,
          bind_eq_ok_iff.2 ⟨afterFirst, hafterFirst, bind_eq_ok_iff.2 ⟨ch, hch, bind_eq_ok_iff.2
            ⟨ws, hws, bind_eq_ok_iff.2 ⟨below, hbelow, rfl⟩⟩⟩⟩⟩⟩⟩⟩
    · have hpermBelow : below.flatten.Perm
          (((node.entryD "children").listItems.flatMap executionOrder).filterMap shortPiece) := by
        rw [← hval]
        clear hbelow heach hws hval
        induction hall with
        | nil => exact .refl _
        | cons hc hrest ih' =>
          rw [List.flatten_cons, List.map_cons, List.flatMap_cons, List.filterMap_append]
          exact hc.append ih'
      have hhead : ∀ l : List PyValue, (node :: l).filterMap shortPiece =
          (shortPiece node).toList ++ l.filterMap shortPiece := by
        intro l
        rw [List.filterMap_cons]
        cases shortPiece node with
        | none => rfl
        | some p => rfl
      rw [executionOrder_of_node hstep.dict hstep.truthy, hhead, List.filterMap_append,
        List.filterMap_append, List.append_assoc, List.append_assoc]
      refine List.Perm.append_left _ ?_
      refine (hpermNext.append (hpermFirst.append hpermBelow)).trans ?_
      exact List.perm_append_comm.trans (List.perm_append_comm.append_right _)

end Walk

/-! ### The main result -/

/-- The walkers agree on a tree: they visit the steps `steps`, which are given with their addresses,
each of them once. -/
structure WalkersAgree (trigger : PyValue) (steps : List (List Link × PyValue)) : Prop where
  /-- `_walk_steps` yields each step with a path of its own, which leads to it. -/
  walkSteps : walkSteps trigger = steps.map fun p ↦ .ok (text "trigger" ++ renderPath p.1, p.2)
  leads : ∀ p ∈ steps, follow trigger p.1 = p.2
  distinct : (steps.map fun p ↦ text "trigger" ++ renderPath p.1).Nodup
  /-- `_walk_flow_tree` lists them, by name, in whatever flow the tree is. -/
  walkFlowTree : ∀ flow version, flow.entry "version" = some version →
    version.entry "trigger" = some trigger → ∃ graph, walkFlowTree flow = .ok graph ∧
      graph.totalSteps = steps.length ∧
      (graph.steps.map StepInfo.name).Perm (steps.map fun p ↦ nodeName p.2)
  /-- `_collect_pieces` returns the short names of their pieces. -/
  collectPieces : ∃ pieces, collectPieces trigger = .ok pieces ∧
    ∀ piece, piece ∈ pieces ↔ ∃ p ∈ steps, shortPiece p.2 = some piece

/-- The walkers agree on every chain of steps. -/
theorem walkersAgree_of_stepChain {trigger : PyValue} (h : StepChain trigger)
    (hdict : trigger.isDict = true) (htruthy : trigger.truthy = true) :
    WalkersAgree trigger (placed trigger) := by
  have hperm := perm_placed trigger
  refine ⟨?_, fun p hp ↦ follow_of_mem_placed hp, ?_, fun flow version hversion htrigger ↦ ?_, ?_⟩
  · have hvisit := visit_of_stepChain h (text "trigger")
    rw [visit, if_pos hdict] at hvisit
    rw [walkSteps, htruthy]
    exact hvisit
  · have hpaths : (placed trigger).map (fun p ↦ text "trigger" ++ renderPath p.1) =
        ((placed trigger).map Prod.fst).map fun address ↦ text "trigger" ++ renderPath address := by
      rw [List.map_map]
      rfl
    rw [hpaths]
    exact (nodup_placed trigger).map fun _ _ heq ↦
      renderPath_injective (List.append_cancel_left heq)
  · obtain ⟨steps, hsteps, hnames⟩ := walk_of_stepChain h 0
    have hflow := isDict_of_entry hversion
    have hdict' := isDict_of_entry htrigger
    have hversion' : flow.getD "version" (.dict []) = .ok version := by
      rw [getD_of_isDict hflow, hversion]
      rfl
    have htrigger' : version.getD "trigger" (.dict []) = .ok trigger := by
      rw [getD_of_isDict hdict', htrigger]
      rfl
    refine ⟨_, bind_eq_ok_iff.2 ⟨version, hversion', bind_eq_ok_iff.2 ⟨trigger, htrigger',
      bind_eq_ok_iff.2 ⟨steps, hsteps, bind_eq_ok_iff.2 ⟨_, get_of_isDict hdict' "displayName",
        bind_eq_ok_iff.2 ⟨_, get_of_isDict hflow "status", bind_eq_ok_iff.2 ⟨_,
          get_of_isDict hdict' "schemaVersion", bind_eq_ok_iff.2 ⟨_, get_of_isDict hdict "type",
            rfl⟩⟩⟩⟩⟩⟩⟩, ?_, ?_⟩
    · show steps.length = _
      have hlength := congrArg List.length hnames
      rw [List.length_map, List.length_map] at hlength
      rw [hlength, ← hperm.length_eq, List.length_map]
    · show (steps.map StepInfo.name).Perm _
      rw [hnames]
      refine (hperm.map nodeName).symm.trans ?_
      rw [List.map_map]
      exact .refl _
  · obtain ⟨pieces, hpieces, hsame⟩ := collectPieces_of_stepChain h
    refine ⟨pieces, hpieces, fun piece ↦ ?_⟩
    rw [hsame.mem_iff, List.mem_filterMap]
    constructor
    · rintro ⟨n, hn, hpiece⟩
      obtain ⟨p, hp, rfl⟩ := List.mem_map.1 (hperm.mem_iff.2 hn)
      exact ⟨p, hp, hpiece⟩
    · rintro ⟨p, hp, hpiece⟩
      exact ⟨p.2, hperm.mem_iff.1 (List.mem_map_of_mem hp), hpiece⟩

/-- **The walkers agree on every tree that the builders produce**: a trigger over a chain of steps,
however nested. The steps that they visit are those that are executed, and no two of them have the
same name. -/
theorem walkers_agree (env : BuilderEnv) (specs chain : PyValue) (s t : BuilderState)
    (l : List (CatalogQuery × Except EngineError PyValue))
    (h : (buildActionChain env specs).Runs s l (.ok chain) t) (piece : PyStr)
    (version triggerName input display : PyValue) :
    let trigger := buildTrigger piece version triggerName input display chain
    WalkersAgree trigger (placed trigger) ∧
      ((placed trigger).map Prod.snd).Perm (executionOrder trigger) ∧
      ((placed trigger).map fun p ↦ nodeName p.2).Nodup := by
  intro trigger
  have hbuilt := built_of_runs h
  have hchain : StepChain trigger := stepChain_buildTrigger (wellLinked_of_built hbuilt)
  have hperm := perm_placed trigger
  refine ⟨walkersAgree_of_stepChain hchain rfl (truthy_withNext rfl), hperm, ?_⟩
  obtain ⟨k, N, -, hnumbers, hnames⟩ := names_of_built_chain hbuilt
  have hnode : nodeName trigger = py "trigger" := by
    show (buildTrigger _ _ _ _ _ _).entryD "name" = _
    rw [buildTrigger, entryD_withNext (by decide)]
    rfl
  have horder : (executionOrder trigger).map nodeName = py "trigger" :: N.map numberName := by
    show (executionOrder (withNext _ chain)).map nodeName = _
    rw [executionOrder_leaf rfl rfl rfl rfl, List.map_cons, ← (mirrored_of_built hbuilt).2.1]
    exact congrArg₂ _ hnode hnames
  have hmap : (placed trigger).map (fun p ↦ nodeName p.2) =
      ((placed trigger).map Prod.snd).map nodeName := by
    rw [List.map_map]
    rfl
  rw [hmap, (hperm.map nodeName).nodup_iff, horder, List.nodup_cons]
  refine ⟨fun hmem ↦ ?_, (hnumbers.nodup_iff.2 List.nodup_range').map numberName_injective⟩
  obtain ⟨n, -, hn⟩ := List.mem_map.1 hmem
  have hhead : some 115 = some 116 := congrArg List.head? (PyValue.str.inj hn)
  exact absurd hhead (by decide)

/-- They agree on a trigger over a router and a loop, with a step that sends a mail in either. -/
theorem walkers_agree_on_nestedSpecs :
    let trigger := whTrigger (py "Webhook") nestedChain
    WalkersAgree trigger (placed trigger) ∧
      ((placed trigger).map Prod.snd).Perm (executionOrder trigger) ∧
      ((placed trigger).map fun p ↦ nodeName p.2).Nodup := by
  obtain ⟨t, hrun⟩ := runs_nestedSpecs
  exact walkers_agree _ _ _ _ t _ hrun _ _ _ _ _

end Siyadah
