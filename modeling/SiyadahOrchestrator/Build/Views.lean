import SiyadahOrchestrator.Build.Walkers
import SiyadahOrchestrator.Build.Coverage
import SiyadahOrchestrator.Flows.FlowDrawing
import SiyadahOrchestrator.Flows.Registration
import SiyadahOrchestrator.Foundations.RootedTree

/-!
# What the views leave out

`_extract_flow_metadata` and `_flow_to_graph` go down `nextAction` and `children`, and so come to
the steps whose address has no link into a loop (`reached`). On the trees that the builders produce
(`FlowTree`) this is what they make of a flow:

* the metadata count each of these steps twice, the piece steps inside loops not at all
  (`metadata_counts_iff`);
* the graph draws each of them once, so it shows the whole flow exactly when no loop has a body
  (`graph_faithful_iff`).
-/

namespace Siyadah

open PyValue

/-! ### The shape of a flow -/

/-- The rest of the shape of a step: its links are those that `links` lists. -/
structure Bare (node : PyValue) : Prop where
  branches : node.entry "branches" = none
  pieceName : node.entry "pieceName" = none
  typed : ∃ type, node.entry "type" = some (.str type)

/-- A chain of steps that the builders produce. -/
structure FlowChain (node : PyValue) : Prop where
  chain : StepChain node
  bare : ∀ p ∈ placed node, Bare p.2

/-- A trigger with a chain of steps that the builders produce. -/
structure FlowTree (trigger : PyValue) : Prop extends FlowChain trigger where
  dict : trigger.isDict = true
  truthy : trigger.truthy = true
  root : trigger.entryD "type" = py "PIECE_TRIGGER"

section Shape

variable {node trigger n m : PyValue} {k : Link × PyValue} {a b : List Link}

/-- Where the links of a step lead, there is a chain again. -/
theorem FlowChain.link (h : FlowChain node) (hdict : node.isDict = true)
    (htruthy : node.truthy = true) (hk : k ∈ links node) : FlowChain k.2 where
  chain := by
    cases h.chain with
    | nil => exact absurd hdict (by simp [isDict])
    | step hstep hlinks => exact hlinks k hk
  bare p hp := h.bare (k.1 :: p.1, p.2)
    (mem_placed_iff.2 ⟨hdict, htruthy, .inr ⟨k, hk, p.1, rfl, hp⟩⟩)

/-- An address from a step on is one from the root on. -/
theorem placed_append (h : (a, n) ∈ placed node) (hm : (b, m) ∈ placed n) :
    (a ++ b, m) ∈ placed node := by
  induction a generalizing node with
  | nil =>
    obtain ⟨-, -, ⟨-, rfl⟩ | ⟨k, -, rest, heq, -⟩⟩ := mem_placed_iff.1 h
    · exact hm
    · exact absurd heq (by simp)
  | cons k a ih =>
    obtain ⟨hdict, htruthy, ⟨heq, -⟩ | ⟨k', hk', rest, heq, hrest⟩⟩ := mem_placed_iff.1 h
    · exact absurd heq (by simp)
    · obtain ⟨rfl, rfl⟩ := List.cons.inj heq
      exact mem_placed_iff.2 ⟨hdict, htruthy, .inr ⟨k', hk', a ++ b, rfl, ih hrest⟩⟩

/-- What is placed is a step. -/
theorem node_of_mem_placed (h : (a, n) ∈ placed node) : n.isDict = true ∧ n.truthy = true := by
  induction a generalizing node with
  | nil =>
    obtain ⟨hdict, htruthy, ⟨-, rfl⟩ | ⟨k, -, rest, heq, -⟩⟩ := mem_placed_iff.1 h
    · exact ⟨hdict, htruthy⟩
    · exact absurd heq (by simp)
  | cons k a ih =>
    obtain ⟨-, -, ⟨heq, -⟩ | ⟨k', -, rest, heq, hrest⟩⟩ := mem_placed_iff.1 h
    · exact absurd heq (by simp)
    · obtain ⟨rfl, rfl⟩ := List.cons.inj heq
      exact ih hrest

/-- An address is taken in two parts. -/
theorem exists_placed_of_append (h : (a ++ b, m) ∈ placed node) :
    ∃ n, (a, n) ∈ placed node ∧ (b, m) ∈ placed n := by
  induction a generalizing node with
  | nil =>
    obtain ⟨hdict, htruthy, -⟩ := mem_placed_iff.1 h
    exact ⟨node, mem_placed_iff.2 ⟨hdict, htruthy, .inl ⟨rfl, rfl⟩⟩, h⟩
  | cons k a ih =>
    obtain ⟨hdict, htruthy, ⟨heq, -⟩ | ⟨k', hk', rest, heq, hrest⟩⟩ := mem_placed_iff.1 h
    · exact absurd heq (by simp)
    · obtain ⟨rfl, rfl⟩ := List.cons.inj heq
      obtain ⟨n, hn, hm⟩ := ih hrest
      exact ⟨n, mem_placed_iff.2 ⟨hdict, htruthy, .inr ⟨k', hk', a, rfl, hn⟩⟩, hm⟩

theorem IsStep.settings_eq (h : IsStep node) :
    node.get "settings" = .ok (node.entryD "settings") := get_of_isDict h.dict "settings"

theorem FlowChain.isStep (h : FlowChain node) (hdict : node.isDict = true) : IsStep node := by
  cases h.chain with
  | nil => exact absurd hdict (by simp [isDict])
  | step hstep hlinks => exact hstep

/-- Every step of a chain begins one. -/
theorem FlowChain.at_placed (h : FlowChain node) (hn : (a, n) ∈ placed node) : FlowChain n := by
  induction a generalizing node with
  | nil =>
    obtain ⟨-, -, ⟨-, rfl⟩ | ⟨k, -, rest, heq, -⟩⟩ := mem_placed_iff.1 hn
    · exact h
    · exact absurd heq (by simp)
  | cons k a ih =>
    obtain ⟨hdict, htruthy, ⟨heq, -⟩ | ⟨k', hk', rest, heq, hrest⟩⟩ := mem_placed_iff.1 hn
    · exact absurd heq (by simp)
    · obtain ⟨rfl, rfl⟩ := List.cons.inj heq
      exact ih (h.link hdict htruthy hk') hrest

theorem FlowTree.isStep (h : FlowTree trigger) : IsStep trigger := h.toFlowChain.isStep h.dict

/-- The trigger has no links but `nextAction`. -/
theorem FlowTree.leaf (h : FlowTree trigger) :
    trigger.entry "children" = none ∧ trigger.entryD "firstLoopAction" = .null := by
  rcases h.isStep.typed with ⟨branches, htype, -⟩ | ⟨htype, -⟩ | ⟨type, -, -, -, hchildren, hfirst⟩
  · exact absurd (PyValue.str.inj (htype.symm.trans h.root)) (by decide)
  · exact absurd (PyValue.str.inj (htype.symm.trans h.root)) (by decide)
  · exact ⟨hchildren, hfirst⟩

end Shape

/-! ### What the builders produce -/

section Built

variable {env : BuilderEnv} {l : Lookups}
  {s t : BuilderState} {spec next node : PyValue}

theorem bare_withNext {fields : List (String × PyValue)} {type : PyStr}
    (hbranches : fields.lookup "branches" = none) (hpiece : fields.lookup "pieceName" = none)
    (htype : fields.lookup "type" = some (.str type)) : Bare (withNext fields next) where
  branches := (entry_withNext (by decide)).trans hbranches
  pieceName := (entry_withNext (by decide)).trans hpiece
  typed := ⟨type, (entry_withNext (by decide)).trans htype⟩

/-- Every step that is built is bare. -/
theorem bare_of_built (h : Built env (.step spec next node) s l t) : Bare node := by
  rcases h with _ | _ | _ | _ | p | hcode | hrouter | hloop
  · exact bare_withNext rfl rfl rfl
  · exact bare_withNext rfl rfl rfl
  · exact bare_withNext rfl rfl rfl
  · rw [buildLoopStep]
    split
    · exact bare_withNext rfl rfl rfl
    · exact bare_withNext rfl rfl rfl

/-- **A trigger over a chain that has been built is a flow.** -/
theorem flowTree_of_built {specs : List PyValue} {chain : PyValue}
    (h : Built env (.chain specs chain) s l t) (piece : PyStr)
    (version triggerName input display : PyValue) :
    FlowTree (buildTrigger piece version triggerName input display chain) where
  chain := stepChain_buildTrigger (wellLinked_of_built h)
  dict := rfl
  truthy := truthy_withNext rfl
  root := entryD_withNext (by decide)
  bare := by
    intro p hp
    have hmem := (perm_placed _).mem_iff.1 (List.mem_map_of_mem (f := Prod.snd) hp)
    rw [buildTrigger, executionOrder_leaf rfl rfl rfl rfl, List.mem_cons] at hmem
    rcases hmem with heq | hmem
    · rw [heq]
      exact bare_withNext rfl rfl rfl
    · obtain ⟨spec, hstep⟩ := exists_stepOf h hmem
      obtain ⟨next, s', l', t', hbuilt⟩ := built_of_stepOf h hstep
      exact bare_of_built hbuilt

end Built

/-! ### The steps that the views come to -/

/-- The steps that no link into a loop leads to. -/
def reached (node : PyValue) : List (List Link × PyValue) :=
  (placed node).filter fun p ↦ Link.first ∉ p.1

section Reached

variable {node : PyValue}

theorem ne_first_of_followed {k : Link × PyValue} (hk : k ∈ followed node) : k.1 ≠ .first := by
  rcases List.mem_cons.1 hk with rfl | hk
  · exact fun h ↦ nomatch h
  · obtain ⟨c, -, rfl⟩ := List.mem_map.1 hk
    exact fun h ↦ nomatch h

theorem reached_of_falsy (h : node.truthy = false) : reached node = [] := by
  rw [reached, placed_of_falsy h, List.filter_nil]

theorem reached_of_node (hdict : node.isDict = true) (htruthy : node.truthy = true) :
    reached node = ([], node) :: (followed node).flatMap fun k ↦
      (reached k.2).map fun p ↦ (k.1 :: p.1, p.2) := by
  have hblock : ∀ k : Link × PyValue, ((placed k.2).map fun p ↦ (k.1 :: p.1, p.2)).filter
      (fun p ↦ Link.first ∉ p.1) = if k.1 = .first then [] else
        (reached k.2).map fun p ↦ (k.1 :: p.1, p.2) := by
    intro k
    rw [List.filter_map]
    split
    · rename_i hfirst
      rw [List.map_eq_nil_iff, List.filter_eq_nil_iff]
      intro p _
      simp [hfirst]
    · rename_i hfirst
      refine congrArg _ (List.filter_congr fun p _ ↦ ?_)
      simp [Ne.symm hfirst]
  rw [reached, placed_of_node hdict htruthy, List.filter_cons_of_pos (by simp),
    List.filter_flatMap, links, List.flatMap_append, List.flatMap_singleton, hblock,
    if_pos rfl, List.append_nil]
  refine congrArg _ (List.flatMap_congr fun k hk ↦ ?_)
  rw [hblock, if_neg (ne_first_of_followed hk)]

/-- The steps without their addresses. -/
def visited (node : PyValue) : List PyValue := (reached node).map Prod.snd

theorem visited_of_falsy (h : node.truthy = false) : visited node = [] := by
  rw [visited, reached_of_falsy h, List.map_nil]

theorem visited_of_node (hdict : node.isDict = true) (htruthy : node.truthy = true) :
    visited node = node :: (visited (node.entryD "nextAction") ++
      (node.entryD "children").listItems.flatMap visited) := by
  have hsnd : ∀ k : Link × PyValue, ((reached k.2).map fun p ↦ (k.1 :: p.1, p.2)).map Prod.snd =
      visited k.2 := by
    intro k
    rw [List.map_map]
    rfl
  rw [visited, reached_of_node hdict htruthy, List.map_cons, List.map_flatMap]
  refine congrArg _ ?_
  rw [List.flatMap_congr fun k _ ↦ hsnd k, followed, List.flatMap_cons, List.flatMap_map]
  refine congrArg _ ?_
  conv_rhs => rw [← List.zipIdx_map_fst 0 (node.entryD "children").listItems]
  rw [List.flatMap_map]

end Reached

/-! ### The metadata -/

/-- The step counts as a tool. -/
def isPieceStep (node : PyValue) : Bool := (node.entryD "type").isStr (text "PIECE")

/-- How many of the steps are `PIECE` steps. -/
def pieceCount (steps : List PyValue) : ℕ := steps.countP isPieceStep

/-- The pieces of the steps. -/
def namedPieces (steps : List PyValue) : List PyValue := (steps.map nodePiece).filter truthy

section Metadata

variable {node : PyValue}

theorem foldl_add (l : List ℕ) (n : ℕ) : l.foldl (· + ·) n = n + l.foldl (· + ·) 0 := by
  induction l generalizing n with
  | nil => rfl
  | cons m l ih =>
    rw [List.foldl_cons, List.foldl_cons, ih, ih (0 + m)]
    omega

theorem namedPieces_append (l l' : List PyValue) :
    namedPieces (l ++ l') = namedPieces l ++ namedPieces l' := by
  rw [namedPieces, List.map_append, List.filter_append]
  rfl

/-- The walks over the children, put together. -/
theorem manifests_of_forall₂ {α : Type} {f : α → List PyValue} {l : List α}
    {r : List (List PyValue × ℕ)}
    (h : List.Forall₂ (fun a b ↦ b.1.Perm (namedPieces (f a)) ∧ b.2 = pieceCount (f a)) l r) :
    (r.map Prod.fst).flatten.Perm (namedPieces (l.flatMap f)) ∧
      (r.map Prod.snd).foldl (· + ·) 0 = pieceCount (l.flatMap f) := by
  induction h with
  | nil => exact ⟨.refl _, rfl⟩
  | cons hfirst hrest ih =>
    rw [List.flatMap_cons, namedPieces_append, List.map_cons, List.flatten_cons, List.map_cons,
      List.foldl_cons, foldl_add, ih.2, hfirst.2, pieceCount, pieceCount, pieceCount,
      List.countP_append]
    exact ⟨hfirst.1.append ih.1, by omega⟩

/-- There are no branches right in a step. -/
theorem exists_branches (hdict : node.isDict = true) (h : Bare node) : ∃ br,
    node.child "branches" Leaf.null = .ok br ∧ br.orNil.1.items = .ok [] := by
  obtain ⟨br, hbr, hval⟩ := childNull_of_isDict hdict "branches"
  refine ⟨br, hbr, ?_⟩
  have hnil : br.orNil.1 = .list [] := by
    rw [Part.orNil_val, hval, entryD, h.branches]
    rfl
  generalize br.orNil.1 = v at hnil
  subst hnil
  rfl

/-- The piece of a step, as the views read it. -/
theorem orGet_pieceName (hdict : node.isDict = true) (h : Bare node) :
    ∃ piece, (nodePiece node).orGet node "pieceName" = .ok piece ∧
      (if piece.truthy then [piece] else []) = namedPieces [node] := by
  rw [orGet, namedPieces, List.map_singleton]
  by_cases htruthy : (nodePiece node).truthy = true
  · rw [if_pos htruthy, List.filter_cons_of_pos htruthy]
    exact ⟨_, rfl, if_pos htruthy⟩
  · rw [if_neg htruthy, get_of_isDict hdict, entryD, h.pieceName,
      List.filter_cons_of_neg htruthy]
    exact ⟨_, rfl, rfl⟩

/-- **`_walk` collects from each step that it comes to.** -/
theorem walkManifest_of_flowChain {node : PyValue} (h : FlowChain node) : ∃ pieces,
    walkManifest node = .ok (pieces, pieceCount (visited node)) ∧
      pieces.Perm (namedPieces (visited node)) := by
  by_cases hdict : node.isDict = true
  · have hstep := h.isStep hdict
    have hbare : Bare node :=
      h.bare ([], node) (mem_placed_iff.2 ⟨hdict, hstep.truthy, .inl ⟨rfl, rfl⟩⟩)
    obtain ⟨piece, hpiece, hown⟩ := orGet_pieceName hdict hbare
    obtain ⟨ch, ws, hch, hws, hval⟩ := exists_children hstep
    have heach : ∀ c ∈ ws, ∃ r, walkManifest c.1 = .ok r ∧
        r.1.Perm (namedPieces (visited c.1)) ∧ r.2 = pieceCount (visited c.1) := by
      intro c hc
      obtain ⟨i, hi⟩ := mem_links_of_children (hval ▸ List.mem_map_of_mem hc)
      obtain ⟨pieces, hwalk, hperm⟩ :=
        walkManifest_of_flowChain (h.link hdict hstep.truthy hi)
      exact ⟨_, hwalk, hperm, rfl⟩
    obtain ⟨inChildren, hinChildren, hall⟩ := exists_mapM_eq_ok heach
    obtain ⟨next, hnext, hnextVal⟩ := childNull_of_isDict hdict "nextAction"
    have hlink : (Link.next, node.entryD "nextAction") ∈ links node := mem_links_iff.2 (.inl rfl)
    obtain ⟨afterNext, hafterNext, hpermNext⟩ : ∃ afterNext, walkManifest next.1 =
        .ok (afterNext, pieceCount (visited next.1)) ∧
          afterNext.Perm (namedPieces (visited next.1)) := by
      rw [hnextVal]
      exact walkManifest_of_flowChain (h.link hdict hstep.truthy hlink)
    obtain ⟨br, hbr, hitems⟩ := exists_branches hdict hbare
    obtain ⟨hpermChildren, hcountChildren⟩ :
        (inChildren.map Prod.fst).flatten.Perm (namedPieces (ws.flatMap fun c ↦ visited c.1)) ∧
          (inChildren.map Prod.snd).foldl (· + ·) 0 = pieceCount (ws.flatMap fun c ↦ visited c.1) :=
      manifests_of_forall₂ hall
    have hvisited : visited node =
        [node] ++ (visited next.1 ++ ws.flatMap fun c ↦ visited c.1) := by
      rw [visited_of_node hdict hstep.truthy, hnextVal, ← hval, List.flatMap_map]
      rfl
    refine ⟨namedPieces [node] ++ ((inChildren.map Prod.fst).flatten ++ afterNext), ?_, ?_⟩
    · rw [walkManifest, hdict]
      refine bind_eq_ok_iff.2 ⟨_, hstep.settings_eq, bind_eq_ok_iff.2 ⟨nodePiece node, ?_,
        bind_eq_ok_iff.2 ⟨piece, hpiece, bind_eq_ok_iff.2 ⟨_, get_of_isDict hdict "type",
          bind_eq_ok_iff.2 ⟨ch, hch, bind_eq_ok_iff.2 ⟨ws, hws, bind_eq_ok_iff.2
            ⟨inChildren, hinChildren, bind_eq_ok_iff.2 ⟨next, hnext, bind_eq_ok_iff.2
              ⟨_, hafterNext, bind_eq_ok_iff.2 ⟨br, hbr, bind_eq_ok_iff.2 ⟨[], hitems,
                bind_eq_ok_iff.2 ⟨[], rfl, ?_⟩⟩⟩⟩⟩⟩⟩⟩⟩⟩⟩⟩
      · rw [get_of_isDict (isDict_orElse_nil.2 fun _ ↦ hstep.settings), entryD, entry_orElse_nil]
        rfl
      · show Except.ok (_, _) = Except.ok (_, _)
        rw [← hown, List.map_append, List.flatten_append, List.map_append, List.foldl_append,
          hcountChildren, hvisited]
        have hself : (if (node.entryD "type").isStr (text "PIECE") then 1 else 0) =
            pieceCount [node] := by
          rw [pieceCount, List.countP_singleton]
          rfl
        refine congrArg Except.ok (Prod.ext ?_ ?_)
        · show _ ++ (_ ++ (afterNext ++ [])) = _
          rw [List.append_nil]
        · rw [hself]
          show pieceCount [node] + (pieceCount (ws.flatMap fun c ↦ visited c.1) +
            (pieceCount (visited next.1))) = _
          rw [pieceCount, pieceCount, pieceCount, pieceCount, List.countP_append,
            List.countP_append]
          omega
    · rw [hvisited, namedPieces_append, namedPieces_append]
      exact List.Perm.append_left _ ((hpermChildren.append hpermNext).trans List.perm_append_comm)
  · have hnull : node = .null := by
      cases h.chain with
      | nil => rfl
      | step hstep hlinks => exact absurd hstep.dict hdict
    refine ⟨[], ?_, ?_⟩
    · rw [walkManifest, hnull, visited_of_falsy rfl]
      rfl
    · rw [hnull, visited_of_falsy rfl]
      exact .refl _
termination_by node.weight
decreasing_by
  · exact weight_lt_of_mem_links hdict hi
  · exact weight_lt_of_mem_links hdict hlink

/-- A string equals nothing but itself. -/
theorem eq_str_iff {s : PyStr} {v : PyValue} : (PyValue.str s).eq v = true ↔ v = .str s := by
  cases v with
  | str t => rw [PyValue.eq, decide_eq_true_iff, PyValue.str.injEq, eq_comm]
  | _ => exact iff_of_false (by simp [PyValue.eq, number?]) (by simp)

/-- The pieces without repetitions. -/
theorem distinctPieces_spec {l : List PyValue} (h : ∀ p ∈ l, ∃ s, p = .str s) :
    (distinctPieces l).Nodup ∧ ∀ p, p ∈ distinctPieces l ↔ p ∈ l := by
  suffices hseen : ∀ seen : List PyValue, seen.Nodup →
      (l.foldl (fun seen piece ↦ if seen.any (eq piece) then seen else seen ++ [piece])
        seen).Nodup ∧ ∀ p, p ∈ l.foldl (fun seen piece ↦ if seen.any (eq piece) then seen
          else seen ++ [piece]) seen ↔ p ∈ seen ∨ p ∈ l by
    obtain ⟨hnodup, hmem⟩ := hseen [] List.nodup_nil
    exact ⟨hnodup, fun p ↦ (hmem p).trans (by simp)⟩
  induction l with
  | nil => exact fun seen hnodup ↦ ⟨hnodup, fun p ↦ by simp⟩
  | cons p l ih =>
    obtain ⟨s, rfl⟩ := h p List.mem_cons_self
    have ih := ih fun q hq ↦ h q (List.mem_cons_of_mem _ hq)
    have hany : ∀ seen : List PyValue, seen.any (eq (.str s)) = true ↔ .str s ∈ seen := by
      intro seen
      rw [List.any_eq_true]
      exact ⟨fun ⟨q, hq, heq⟩ ↦ eq_str_iff.1 heq ▸ hq, fun hq ↦ ⟨_, hq, eq_str_iff.2 rfl⟩⟩
    intro seen hnodup
    rw [List.foldl_cons]
    by_cases hseen : PyValue.str s ∈ seen
    · rw [if_pos ((hany seen).2 hseen)]
      obtain ⟨hnodup', hmem⟩ := ih seen hnodup
      refine ⟨hnodup', fun q ↦ (hmem q).trans ?_⟩
      rw [List.mem_cons]
      constructor
      · rintro (hq | hq)
        · exact .inl hq
        · exact .inr (.inr hq)
      · rintro (hq | rfl | hq)
        · exact .inl hq
        · exact .inl hseen
        · exact .inr hq
    · rw [if_neg fun h ↦ hseen ((hany seen).1 h)]
      obtain ⟨hnodup', hmem⟩ := ih (seen ++ [.str s])
        (List.nodup_append.2 ⟨hnodup, List.nodup_singleton _, fun q hq q' hq' heq ↦
          hseen (List.mem_singleton.1 hq' ▸ heq ▸ hq)⟩)
      refine ⟨hnodup', fun q ↦ (hmem q).trans ?_⟩
      rw [List.mem_append, List.mem_singleton, List.mem_cons, or_assoc]

/-- The pieces of a flow are strings. -/
theorem exists_str_of_namedPieces (h : FlowChain node) {piece : PyValue}
    (hpiece : piece ∈ namedPieces (visited node)) : ∃ s, piece = .str s := by
  obtain ⟨hmem, htruthy⟩ := List.mem_filter.1 hpiece
  obtain ⟨n, hn, rfl⟩ := List.mem_map.1 hmem
  obtain ⟨p, hp, rfl⟩ := List.mem_map.1 hn
  have hplaced : (p.1, p.2) ∈ placed node := (List.mem_filter.1 hp).1
  rcases ((h.at_placed hplaced).isStep (node_of_mem_placed hplaced).1).piece with hnull | hfull
  · rw [hnull] at htruthy
    exact absurd htruthy (by simp [PyValue.truthy])
  · exact hfull

/-- The steps inside the loops. -/
def loopSteps (trigger : PyValue) : List PyValue :=
  ((placed trigger).filter fun p ↦ Link.first ∈ p.1).map Prod.snd

/-- The steps are those outside the loops and those inside. -/
theorem perm_visited_loopSteps (node : PyValue) :
    (visited node ++ loopSteps node).Perm (executionOrder node) := by
  have hsplit := List.filter_append_perm (fun p : List Link × PyValue ↦ Link.first ∉ p.1)
    (placed node)
  have hloop : (placed node).filter (fun p ↦ !decide (Link.first ∉ p.1)) =
      (placed node).filter fun p ↦ Link.first ∈ p.1 :=
    List.filter_congr fun p _ ↦ by simp
  rw [hloop] at hsplit
  have := (hsplit.map Prod.snd).trans (perm_placed node)
  rwa [List.map_append] at this

/-- The metadata count every step once. -/
structure CountsOnce (trigger : PyValue) (m : FlowManifest) : Prop where
  count : m.mcpToolCount = pieceCount (executionOrder trigger)
  nodup : m.pieces.Nodup
  pieces : ∀ piece, piece ∈ m.pieces ↔ piece ∈ namedPieces (executionOrder trigger)

/-- The flow holds the trigger in its version. -/
def HoldsTrigger (flow trigger : PyValue) : Prop :=
  ∃ version, flow.entry "version" = some version ∧ version.entry "trigger" = some trigger

/-- The views find the trigger. -/
theorem HoldsTrigger.found {flow trigger : PyValue} (h : HoldsTrigger flow trigger) :
    ∃ version, flow.isDict = true ∧ flow.get "version" = .ok version ∧
      (version.orElse (.dict [])).isDict = true ∧
        (version.orElse (.dict [])).get "trigger" = .ok trigger := by
  obtain ⟨version, hversion, htrigger⟩ := h
  have hdict : (version.orElse (.dict [])).isDict = true :=
    isDict_orElse_nil.2 fun _ ↦ isDict_of_entry htrigger
  refine ⟨version, isDict_of_entry hversion, ?_, hdict, ?_⟩
  · rw [get_of_isDict (isDict_of_entry hversion), entryD, hversion]
    rfl
  · rw [get_of_isDict hdict, entryD, entry_orElse_nil, htrigger]
    rfl

/-- **What `_extract_flow_metadata` returns for a flow**: it counts each step outside the loops
twice, once below the trigger and once more from the second step on. -/
theorem extractFlowMetadata_of_flowTree {flow trigger : PyValue} (h : FlowTree trigger)
    (hflow : HoldsTrigger flow trigger) : ∃ m, extractFlowMetadata flow = .ok m ∧
      m.mcpToolCount = 2 * pieceCount (visited trigger) ∧ m.pieces.Nodup ∧
        ∀ p, p ∈ m.pieces ↔ p ∈ namedPieces (visited trigger) := by
  obtain ⟨version, -, hversion, -, htrigger⟩ := hflow.found
  have hfound : trigger.orGet flow "trigger" = .ok trigger := if_pos h.truthy
  have hself : trigger.orElse (.dict []) = trigger := if_pos h.truthy
  have hlink : (Link.next, trigger.entryD "nextAction") ∈ links trigger :=
    mem_links_iff.2 (.inl rfl)
  obtain ⟨pieces, hwalk, hperm⟩ := walkManifest_of_flowChain h.toFlowChain
  obtain ⟨pieces', hwalk', hperm'⟩ :=
    walkManifest_of_flowChain (h.toFlowChain.link h.dict h.truthy hlink)
  have hvisited : visited trigger = trigger :: visited (trigger.entryD "nextAction") := by
    rw [visited_of_node h.dict h.truthy, listItems_of_none h.leaf.1]
    simp
  -- The trigger is no `PIECE` step, so both walks count the same.
  have hcount : pieceCount (visited trigger) =
      pieceCount (visited (trigger.entryD "nextAction")) := by
    have hroot : isPieceStep trigger = false := by
      rw [isPieceStep, h.root]
      decide
    rw [pieceCount, hvisited, List.countP_cons_of_neg (by simp [hroot])]
    rfl
  have hmem : ∀ p, p ∈ pieces ++ pieces' ↔ p ∈ namedPieces (visited trigger) := by
    intro p
    rw [List.mem_append, hperm.mem_iff, hperm'.mem_iff]
    refine or_iff_left_of_imp fun hp ↦ ?_
    rw [hvisited, ← List.singleton_append, namedPieces_append]
    exact List.mem_append_right _ hp
  have hstr : ∀ p ∈ pieces ++ pieces', ∃ s, p = .str s := fun p hp ↦
    exists_str_of_namedPieces h.toFlowChain ((hmem p).1 hp)
  obtain ⟨hnodup, hdistinct⟩ := distinctPieces_spec hstr
  have hmetadata : extractFlowMetadata flow =
      .ok ⟨(trigger.entryD "type").orElse (py "unknown"), distinctPieces (pieces ++ pieces'),
        pieceCount (visited trigger) +
          pieceCount (visited (trigger.entryD "nextAction"))⟩ := by
    refine bind_eq_ok_iff.2 ⟨version, hversion, bind_eq_ok_iff.2 ⟨trigger, htrigger,
      bind_eq_ok_iff.2 ⟨trigger, hfound, ?_⟩⟩⟩
    rw [hself]
    exact bind_eq_ok_iff.2 ⟨_, get_of_isDict h.dict "type", bind_eq_ok_iff.2 ⟨_, hwalk,
      bind_eq_ok_iff.2 ⟨_, get_of_isDict h.dict "nextAction", bind_eq_ok_iff.2 ⟨_, hwalk', rfl⟩⟩⟩⟩
  refine ⟨_, hmetadata, ?_, hnodup, fun p ↦ (hdistinct p).trans (hmem p)⟩
  show _ + _ = _
  omega

/-- **The metadata count every step once exactly when** as many `PIECE` steps are inside loops as
outside, and the loops use no other pieces than the steps outside. -/
theorem metadata_counts_iff {flow trigger : PyValue} (h : FlowTree trigger)
    (hflow : HoldsTrigger flow trigger) : ∃ m, extractFlowMetadata flow = .ok m ∧
      (CountsOnce trigger m ↔ pieceCount (visited trigger) = pieceCount (loopSteps trigger) ∧
        namedPieces (loopSteps trigger) ⊆ namedPieces (visited trigger)) := by
  obtain ⟨m, hmetadata, hcount, hnodup, hpieces⟩ := extractFlowMetadata_of_flowTree h hflow
  refine ⟨m, hmetadata, ?_⟩
  have htotal : pieceCount (visited trigger) + pieceCount (loopSteps trigger) =
      pieceCount (executionOrder trigger) := by
    have hperm := (perm_visited_loopSteps trigger).countP_eq isPieceStep
    rwa [List.countP_append] at hperm
  have hall : ∀ p, p ∈ namedPieces (executionOrder trigger) ↔
      p ∈ namedPieces (visited trigger) ∨ p ∈ namedPieces (loopSteps trigger) := by
    intro p
    rw [← List.mem_append, ← namedPieces_append]
    exact (((perm_visited_loopSteps trigger).map nodePiece).filter _).mem_iff.symm
  constructor
  · rintro ⟨hsame, -, hsame'⟩
    refine ⟨by omega, fun p hp ↦ ?_⟩
    exact (hpieces p).1 ((hsame' p).2 ((hall p).2 (.inr hp)))
  · rintro ⟨hsame, hsubset⟩
    refine ⟨by omega, hnodup, fun p ↦ ?_⟩
    rw [hall]
    exact (hpieces p).trans (or_iff_left_of_imp fun hp ↦ hsubset hp).symm

end Metadata

/-- A flow as ActivePieces stores it, with nothing but the trigger. -/
def storedFlow (trigger : PyValue) : PyValue :=
  pyDict [("version", pyDict [("trigger", trigger)])]

theorem holdsTrigger_storedFlow (trigger : PyValue) :
    HoldsTrigger (storedFlow trigger) trigger := by
  refine ⟨pyDict [("trigger", trigger)], ?_, ?_⟩
  · rw [storedFlow, entry_pyDict]
    rfl
  · rw [entry_pyDict]
    rfl

/-- A webhook, and a message with Gmail. -/
def gmailTrigger : PyValue := whTrigger (py "Webhook") gmailNode

theorem flowTree_gmailTrigger : FlowTree gmailTrigger := by
  obtain ⟨t, hrun⟩ := runs_chain_gmail
  exact flowTree_of_built (built_of_runs hrun) _ _ _ _ _

/-- A webhook, and a loop over a step of code. -/
def loopTrigger : PyValue := whTrigger (py "Webhook") codeLoopNode

theorem flowTree_loopTrigger : FlowTree loopTrigger := by
  have hrun := runs_codeLoopSpec ⟨plainRuntime, [], []⟩
  exact flowTree_of_built (built_of_runs hrun) _ _ _ _ _

/-- What is counted of the webhook with a loop. -/
theorem metadata_of_loopTrigger : ∃ m, extractFlowMetadata (storedFlow loopTrigger) = .ok m ∧
    (CountsOnce loopTrigger m ↔
      pieceCount (visited loopTrigger) = pieceCount (loopSteps loopTrigger) ∧
        namedPieces (loopSteps loopTrigger) ⊆ namedPieces (visited loopTrigger)) :=
  metadata_counts_iff flowTree_loopTrigger (holdsTrigger_storedFlow loopTrigger)

/-- A flow with a single step is said to use two tools. -/
theorem gmail_counted_twice : ∃ flow trigger, FlowTree trigger ∧ HoldsTrigger flow trigger ∧
    ¬ ∃ m, extractFlowMetadata flow = .ok m ∧ CountsOnce trigger m := by
  refine ⟨_, gmailTrigger, flowTree_gmailTrigger, holdsTrigger_storedFlow _, ?_⟩
  obtain ⟨m, hmetadata, hcount, -⟩ :=
    extractFlowMetadata_of_flowTree flowTree_gmailTrigger (holdsTrigger_storedFlow _)
  rintro ⟨m', hmetadata', hcounts⟩
  obtain rfl := Except.ok.inj (hmetadata.symm.trans hmetadata')
  have hnode : visited gmailNode = [gmailNode] := by
    rw [visited_of_node rfl (by decide)]
    show gmailNode :: (visited .null ++ []) = _
    rw [visited_of_falsy rfl]
    rfl
  have hvisited : visited gmailTrigger = [gmailTrigger, gmailNode] := by
    rw [visited_of_node rfl (by decide)]
    show gmailTrigger :: (visited gmailNode ++ []) = _
    rw [hnode]
    rfl
  have horder : executionOrder gmailTrigger = [gmailTrigger, gmailNode] := by
    have hnull : executionOrder .null = [] := executionOrder_of_falsy rfl
    rw [gmailTrigger, whTrigger, buildTrigger, executionOrder_leaf rfl rfl rfl rfl, gmailNode,
      buildAction, executionOrder_leaf rfl rfl rfl rfl, hnull]
  have hcount' := hcounts.count
  rw [horder] at hcount'
  rw [hvisited] at hcount
  exact absurd (hcount.symm.trans hcount') (by decide)

/-! ### The graph -/

/-- The place of an address among the steps. -/
def place (steps : List (List Link × PyValue)) (address : List Link) : ℕ :=
  (steps.map Prod.fst).idxOf address

/-- The node for a step. -/
def shownNode (id kind : PyStr) (step : PyValue) : GraphNode where
  id
  kind
  type := step.entryD "type"
  piece := (nodePiece step).orElse (step.entryD "pieceName")
  action := ((step.entryD "settings").entryD "actionName").orElse
    ((step.entryD "settings").entryD "triggerName")
  displayName := (step.entryD "displayName").orElse (step.entryD "name")

/-- What a drawing is continued with. -/
def FlowDrawing.add (g : FlowDrawing) (ink : List (GraphNode × GraphEdge)) : FlowDrawing where
  nodes := g.nodes ++ ink.map Prod.fst
  edges := g.edges ++ ink.map Prod.snd

section Graph

variable (R : PyRuntime)

/-- The kind of a step below the trigger. -/
def stepKindText (step : PyValue) : PyStr :=
  (graphKind R ((step.entry "type").getD (py "step"))).toOption.getD []

/-- The node for a step and the edge to it, in a drawing that has `n` nodes already. -/
def inkOf (n : ℕ) (parent : PyStr) (steps : List (List Link × PyValue))
    (p : List Link × PyValue) : GraphNode × GraphEdge :=
  (shownNode (nodeId (n + place steps p.1 + 1)) (stepKindText R p.2) p.2,
    ⟨if p.1 = [] then parent else nodeId (n + place steps p.1.dropLast + 1),
      nodeId (n + place steps p.1 + 1), none⟩)

/-- The ink for all steps from `node` on. -/
def inkFrom (n : ℕ) (parent : PyStr) (node : PyValue) : List (GraphNode × GraphEdge) :=
  (reached node).map (inkOf R n parent (reached node))

/-- The ink for the chains, one after the other. -/
def inkAll (n : ℕ) (parent : PyStr) : List PyValue → List (GraphNode × GraphEdge)
  | [] => []
  | v :: vs => inkFrom R n parent v ++ inkAll (n + (reached v).length) parent vs

/-- The steps behind the links. -/
def behind (ks : List (Link × PyValue)) : List (List Link × PyValue) :=
  ks.flatMap fun k ↦ (reached k.2).map fun p ↦ (k.1 :: p.1, p.2)

variable {R} {node : PyValue} {n : ℕ} {parent : PyStr} {g : FlowDrawing}

theorem FlowDrawing.add_add (l l' : List (GraphNode × GraphEdge)) :
    (g.add l).add l' = g.add (l ++ l') := by
  simp [add]

@[simp] theorem FlowDrawing.add_nil : g.add [] = g := by
  simp [add]

@[simp] theorem FlowDrawing.length_add (l : List (GraphNode × GraphEdge)) :
    (g.add l).nodes.length = g.nodes.length + l.length := by
  simp [add]

@[simp] theorem length_inkFrom : (inkFrom R n parent node).length = (reached node).length :=
  List.length_map _

theorem behind_append (ks ks' : List (Link × PyValue)) :
    behind (ks ++ ks') = behind ks ++ behind ks' := List.flatMap_append

theorem behind_cons (k : Link × PyValue) (ks : List (Link × PyValue)) :
    behind (k :: ks) = ((reached k.2).map fun p ↦ (k.1 :: p.1, p.2)) ++ behind ks :=
  List.flatMap_cons

/-- The step before a step that the views come to is one, too. -/
theorem exists_reached_dropLast {p : List Link × PyValue} (hp : p ∈ reached node)
    (hne : p.1 ≠ []) : ∃ m, (p.1.dropLast, m) ∈ reached node := by
  obtain ⟨hplaced, hfirst⟩ := List.mem_filter.1 hp
  obtain ⟨a, n⟩ := p
  rcases List.eq_nil_or_concat a with rfl | ⟨b, l, rfl⟩
  · exact absurd rfl hne
  · rw [List.concat_eq_append] at hplaced hfirst ⊢
    obtain ⟨m, hm, -⟩ := exists_placed_of_append hplaced
    refine ⟨m, List.mem_filter.2 ⟨?_, ?_⟩⟩
    · rw [List.dropLast_concat]
      exact hm
    · rw [List.dropLast_concat]
      simp only [decide_eq_true_eq, List.mem_append, not_or] at hfirst ⊢
      exact hfirst.1

/-- Behind a link, a place is one among the steps behind it. -/
theorem place_behind (node : PyValue) (post : List (Link × PyValue))
    {pre : List (Link × PyValue)} {k : Link × PyValue} (hk : k.1 ∉ pre.map Prod.fst)
    {a : List Link} (ha : a ∈ (reached k.2).map Prod.fst) :
    place (([], node) :: behind (pre ++ k :: post)) (k.1 :: a) =
      1 + (behind pre).length + place (reached k.2) a := by
  have hpre : k.1 :: a ∉ (behind pre).map Prod.fst := by
    intro hmem
    obtain ⟨p, hp, heq⟩ := List.mem_map.1 hmem
    obtain ⟨k', hk', hp⟩ := List.mem_flatMap.1 hp
    obtain ⟨q, -, rfl⟩ := List.mem_map.1 hp
    exact hk (List.mem_map.2 ⟨k', hk', (List.cons.inj heq).1⟩)
  have hblock : ∀ l : List (List Link × PyValue),
      ((l.map fun p ↦ (k.1 :: p.1, p.2)).map Prod.fst).idxOf (k.1 :: a) =
        (l.map Prod.fst).idxOf a := by
    intro l
    induction l with
    | nil => rfl
    | cons p l ih =>
      rw [List.map_cons, List.map_cons, List.map_cons, List.idxOf_cons, List.idxOf_cons, ih]
      have heq : (k.1 :: p.1 == k.1 :: a) = (p.1 == a) := by
        rw [Bool.eq_iff_iff, beq_iff_eq, beq_iff_eq]
        simp
      rw [heq]
  have hmem : k.1 :: a ∈ ((reached k.2).map fun p ↦ (k.1 :: p.1, p.2)).map Prod.fst := by
    obtain ⟨p, hp, rfl⟩ := List.mem_map.1 ha
    exact List.mem_map.2 ⟨_, List.mem_map_of_mem hp, rfl⟩
  rw [place, List.map_cons, List.idxOf_cons_ne _ (by simp), behind_append, behind_cons,
    List.map_append, List.idxOf_append_of_notMem hpre, List.map_append,
    List.idxOf_append_of_mem hmem, hblock, List.length_map, place]
  omega

/-- The ink for the steps behind the links is the ink for one link after the other. -/
theorem map_inkOf_behind (R : PyRuntime) (node : PyValue) (n : ℕ) (parent : PyStr)
    (pre ks : List (Link × PyValue))
    (hnodup : ((pre ++ ks).map Prod.fst).Nodup) :
    (behind ks).map (inkOf R n parent (([], node) :: behind (pre ++ ks))) =
      inkAll R (n + 1 + (behind pre).length) (nodeId (n + 1)) (ks.map Prod.snd) := by
  induction ks generalizing pre with
  | nil => rfl
  | cons k ks ih =>
    have hk : k.1 ∉ pre.map Prod.fst := by
      rw [List.map_append, List.map_cons, List.nodup_append] at hnodup
      exact fun hmem ↦ hnodup.2.2 _ hmem _ List.mem_cons_self rfl
    have hrest := ih (pre ++ [k]) (by rwa [List.append_assoc])
    rw [List.append_assoc, List.singleton_append] at hrest
    rw [behind_cons, List.map_append, hrest, List.map_cons, inkAll]
    refine congrArg₂ _ ?_ ?_
    · rw [List.map_map, inkFrom]
      refine List.map_congr_left fun p hp ↦ ?_
      have hself := place_behind node ks hk (List.mem_map_of_mem hp)
      have hnumber : n + (1 + (behind pre).length + place (reached k.2) p.1) + 1 =
          n + 1 + (behind pre).length + place (reached k.2) p.1 + 1 := by omega
      rw [Function.comp_apply, inkOf, inkOf, hself, hnumber, if_neg (List.cons_ne_nil _ _)]
      by_cases hnil : p.1 = []
      · rw [if_pos hnil, hnil]
        rfl
      · obtain ⟨m, hm⟩ := exists_reached_dropLast hp hnil
        have hparent := place_behind node ks hk
          (List.mem_map_of_mem (f := Prod.fst) hm)
        have hnumber' : n + (1 + (behind pre).length + place (reached k.2) p.1.dropLast) + 1 =
            n + 1 + (behind pre).length + place (reached k.2) p.1.dropLast + 1 := by omega
        rw [if_neg hnil, List.dropLast_cons_of_ne_nil hnil, hparent, hnumber']
    · have hlength : n + 1 + (behind (pre ++ [k])).length =
          n + 1 + (behind pre).length + (reached k.2).length := by
        rw [behind_append, List.length_append, behind_cons, List.length_append, List.length_map]
        show _ + (_ + (_ + 0)) = _
        omega
      rw [hlength]

/-- The ink for a step is the one for itself and then the one for each of its links. -/
theorem inkFrom_of_node (hdict : node.isDict = true) (htruthy : node.truthy = true) :
    inkFrom R n parent node =
      (shownNode (nodeId (n + 1)) (stepKindText R node) node, ⟨parent, nodeId (n + 1), none⟩) ::
        inkAll R (n + 1) (nodeId (n + 1))
          (node.entryD "nextAction" :: (node.entryD "children").listItems) := by
  have hnodup : ((followed node).map Prod.fst).Nodup := by
    have hall := nodup_links node
    rw [links, List.map_append, List.nodup_append] at hall
    exact hall.1
  have hbehind := map_inkOf_behind R node n parent [] (followed node) hnodup
  have hvalues : (followed node).map Prod.snd =
      node.entryD "nextAction" :: (node.entryD "children").listItems := by
    rw [followed, List.map_cons, List.map_map]
    refine congrArg _ ?_
    conv_rhs => rw [← List.zipIdx_map_fst 0 (node.entryD "children").listItems]
    rfl
  rw [hvalues, List.nil_append] at hbehind
  rw [inkFrom, reached_of_node hdict htruthy, List.map_cons]
  exact congrArg₂ _ rfl hbehind

theorem orGet_of_isDict {v w : PyValue} (h : w.isDict = true) (key : String) :
    v.orGet w key = .ok (v.orElse (w.entryD key)) := by
  rw [orGet, orElse, get_of_isDict h]
  split <;> rfl

/-- `_node` answers for a step. -/
theorem graphNode_of_isStep (h : IsStep node) (id kind : PyStr) :
    graphNode id kind node = .ok (shownNode id kind node) := by
  have hsettings : ∀ key, ((node.entryD "settings").orElse (.dict [])).get key =
      .ok ((node.entryD "settings").entryD key) := by
    intro key
    rw [get_of_isDict (isDict_orElse_nil.2 fun _ ↦ h.settings), entryD, entry_orElse_nil]
    rfl
  have haction : ∀ v : PyValue, v.orGet ((node.entryD "settings").orElse (.dict [])) "triggerName" =
      .ok (v.orElse ((node.entryD "settings").entryD "triggerName")) := by
    intro v
    rw [orGet_of_isDict (isDict_orElse_nil.2 fun _ ↦ h.settings), entryD, entry_orElse_nil]
    rfl
  exact bind_eq_ok_iff.2 ⟨_, h.settings_eq, bind_eq_ok_iff.2 ⟨_, get_of_isDict h.dict "type",
    bind_eq_ok_iff.2 ⟨_, hsettings "pieceName", bind_eq_ok_iff.2 ⟨_, orGet_of_isDict h.dict _,
      bind_eq_ok_iff.2 ⟨_, hsettings "actionName", bind_eq_ok_iff.2 ⟨_, haction _,
        bind_eq_ok_iff.2 ⟨_, get_of_isDict h.dict "displayName", bind_eq_ok_iff.2 ⟨_,
          orGet_of_isDict h.dict _, rfl⟩⟩⟩⟩⟩⟩⟩⟩

theorem graphKind_of_bare (h : Bare node) :
    graphKind R ((node.entry "type").getD (py "step")) = .ok (stepKindText R node) := by
  obtain ⟨type, htype⟩ := h.typed
  rw [stepKindText, htype, Option.getD_some, graphKind]
  split <;> rfl

/-- Chains that are drawn one after the other. -/
theorem foldlM_drawStep {β : Type} (value : β → PyValue) (pid : PyStr) {vs : List β}
    (h : ∀ c ∈ vs, ∀ g, drawStep R (value c) pid g =
      .ok (g.add (inkFrom R g.nodes.length pid (value c)))) (g : FlowDrawing) :
    vs.foldlM (fun g c ↦ drawStep R (value c) pid g) g =
      .ok (g.add (inkAll R g.nodes.length pid (vs.map value))) := by
  induction vs generalizing g with
  | nil => exact congrArg Except.ok FlowDrawing.add_nil.symm
  | cons c vs ih =>
    rw [List.foldlM_cons, h c List.mem_cons_self]
    refine (ih (fun c' hc' ↦ h c' (List.mem_cons_of_mem c hc')) _).trans ?_
    rw [FlowDrawing.add_add, FlowDrawing.length_add, length_inkFrom]
    rfl

/-- **`_walk` draws the steps that it comes to.** -/
theorem drawStep_of_flowChain {node : PyValue} (h : FlowChain node) (parent : PyStr)
    (g : FlowDrawing) : drawStep R node parent g =
      .ok (g.add (inkFrom R g.nodes.length parent node)) := by
  by_cases hdict : node.isDict = true
  · have hstep := h.isStep hdict
    have hbare : Bare node :=
      h.bare ([], node) (mem_placed_iff.2 ⟨hdict, hstep.truthy, .inl ⟨rfl, rfl⟩⟩)
    have hnode : g.node node (stepKindText R node) (some parent) =
        .ok (g.add [(shownNode g.nextId (stepKindText R node) node,
          ⟨parent, g.nextId, none⟩)]) := by
      rw [FlowDrawing.node, graphNode_of_isStep hstep]
      rfl
    generalize hdrawn : g.add [(shownNode g.nextId (stepKindText R node) node,
      (⟨parent, g.nextId, none⟩ : GraphEdge))] = drawn at hnode
    have hlength : drawn.nodes.length = g.nodes.length + 1 := by
      rw [← hdrawn, FlowDrawing.length_add]
      rfl
    obtain ⟨next, hnext, hnextVal⟩ := childNull_of_isDict hdict "nextAction"
    have hlink : (Link.next, node.entryD "nextAction") ∈ links node := mem_links_iff.2 (.inl rfl)
    have hafterNext : (if next.1.truthy then drawStep R next.1 g.nextId drawn else .ok drawn) =
        .ok (drawn.add (inkFrom R drawn.nodes.length g.nextId next.1)) := by
      split
      · rw [hnextVal]
        exact drawStep_of_flowChain (h.link hdict hstep.truthy hlink) g.nextId drawn
      · rename_i hfalsy
        rw [inkFrom, reached_of_falsy (by simpa using hfalsy), List.map_nil, FlowDrawing.add_nil]
    obtain ⟨br, hbr, hitems⟩ := exists_branches hdict hbare
    obtain ⟨ch, ws, hch, hws, hval⟩ := exists_children hstep
    have heach : ∀ c ∈ ws, ∀ g', drawStep R c.1 g.nextId g' =
        .ok (g'.add (inkFrom R g'.nodes.length g.nextId c.1)) := by
      intro c hc g'
      obtain ⟨i, hi⟩ := mem_links_of_children (hval ▸ List.mem_map_of_mem hc)
      exact drawStep_of_flowChain (h.link hdict hstep.truthy hi) g.nextId g'
    have hchildren := foldlM_drawStep Subtype.val g.nextId heach
      (drawn.add (inkFrom R drawn.nodes.length g.nextId next.1))
    rw [drawStep, hdict]
    refine (bind_eq_ok_iff.2 ⟨_, getD_of_isDict hdict "type" _, bind_eq_ok_iff.2 ⟨_,
      graphKind_of_bare hbare, bind_eq_ok_iff.2 ⟨_, hnode, bind_eq_ok_iff.2 ⟨next, hnext,
        bind_eq_ok_iff.2 ⟨_, hafterNext, bind_eq_ok_iff.2 ⟨br, hbr, bind_eq_ok_iff.2 ⟨[], hitems,
          bind_eq_ok_iff.2 ⟨_, rfl, bind_eq_ok_iff.2 ⟨ch, hch, bind_eq_ok_iff.2 ⟨ws, hws,
            hchildren⟩⟩⟩⟩⟩⟩⟩⟩⟩⟩ : _).trans ?_
    rw [hval, hnextVal, inkFrom_of_node hdict hstep.truthy, FlowDrawing.add_add,
      FlowDrawing.length_add, length_inkFrom, hlength, ← hdrawn, FlowDrawing.add_add]
    rfl
  · have hnull : node = .null := by
      cases h.chain with
      | nil => rfl
      | step hstep hlinks => exact absurd hstep.dict hdict
    rw [drawStep, hnull, inkFrom, reached_of_falsy rfl, List.map_nil, FlowDrawing.add_nil]
    rfl
termination_by node.weight
decreasing_by
  · exact weight_lt_of_mem_links hdict hlink
  · exact weight_lt_of_mem_links hdict hi

theorem nodeId_injective : Function.Injective nodeId := fun _ _ h ↦
  digits_injective (List.append_cancel_left h)

/-- The node for a step of a flow, for the number that its address gets. -/
def flowNode (R : PyRuntime) (number : List Link → ℕ) (p : List Link × PyValue) : GraphNode :=
  shownNode (nodeId (number p.1)) (if p.1 = [] then text "trigger" else stepKindText R p.2) p.2

/-- The edge to the step with the address: the step with one link less is at its other end. -/
def flowEdge (number : List Link → ℕ) (address : List Link) : PyStr × PyStr :=
  (nodeId (number address.dropLast), nodeId (number address))

/-- The ends of an edge. -/
def GraphEdge.ends (e : GraphEdge) : PyStr × PyStr := (e.source, e.target)

/-- The addresses that are not the root's. -/
def linkedAddresses (steps : List (List Link × PyValue)) : List (List Link) :=
  (steps.map Prod.fst).filter fun a ↦ !a.isEmpty

/-- The number of a step that the views come to. -/
def reachedNumber (trigger : PyValue) (address : List Link) : ℕ :=
  place (reached trigger) address + 1

variable {trigger : PyValue}

/-- **What `_flow_to_graph` draws**: the steps that it comes to, and the links between them. -/
theorem drawTrigger_of_flowTree (h : FlowTree trigger) : ∃ g, drawTrigger R trigger = .ok g ∧
    g.nodes = (reached trigger).map (flowNode R (reachedNumber trigger)) ∧
      g.edges.map GraphEdge.ends =
        (linkedAddresses (reached trigger)).map (flowEdge (reachedNumber trigger)) := by
  have hlink : (Link.next, trigger.entryD "nextAction") ∈ links trigger :=
    mem_links_iff.2 (.inl rfl)
  generalize hnextVal : trigger.entryD "nextAction" = next at hlink
  have hroot : FlowDrawing.node ⟨[], []⟩ trigger (text "trigger") none =
      .ok ⟨[shownNode (nodeId 1) (text "trigger") trigger], []⟩ := by
    rw [FlowDrawing.node, graphNode_of_isStep h.isStep]
    rfl
  have hdraw : drawTrigger R trigger = .ok (FlowDrawing.add
      ⟨[shownNode (nodeId 1) (text "trigger") trigger], []⟩
        (inkFrom R 1 (nodeId 1) next)) := by
    refine (bind_eq_ok_iff.2 ⟨_, hroot, bind_eq_ok_iff.2 ⟨next, ?_, ?_⟩⟩)
    · rw [get_of_isDict h.dict, hnextVal]
    · split
      · exact drawStep_of_flowChain (h.toFlowChain.link h.dict h.truthy hlink) _ _
      · rename_i hfalsy
        rw [inkFrom, reached_of_falsy (by simpa using hfalsy), List.map_nil, FlowDrawing.add_nil]
        rfl
  have hfollowed : followed trigger = [(.next, next)] := by
    rw [followed, listItems_of_none h.leaf.1, hnextVal]
    rfl
  have hreached : reached trigger = ([], trigger) :: behind [(.next, next)] := by
    rw [reached_of_node h.dict h.truthy, hfollowed]
    rfl
  have hink := map_inkOf_behind R trigger 0 [] [] [(.next, next)] (List.nodup_singleton _)
  rw [List.nil_append, ← hreached] at hink
  have hink' : inkFrom R 1 (nodeId 1) next =
      (behind [(.next, next)]).map (inkOf R 0 [] (reached trigger)) :=
    (hink.trans (List.append_nil _)).symm
  have hne : ∀ p ∈ behind [(.next, next)], p.1 ≠ [] := by
    intro p hp
    obtain ⟨k, -, hp⟩ := List.mem_flatMap.1 hp
    obtain ⟨q, -, rfl⟩ := List.mem_map.1 hp
    exact List.cons_ne_nil _ _
  have hfirst : reachedNumber trigger [] = 1 := by
    rw [reachedNumber, hreached]
    rfl
  refine ⟨_, hdraw, ?_, ?_⟩
  · conv_rhs => rw [hreached]
    rw [hink', FlowDrawing.add, List.map_cons, flowNode, hfirst, if_pos rfl, List.map_map]
    refine congrArg (List.cons _) (List.map_congr_left fun p hp ↦ ?_)
    rw [flowNode, if_neg (hne p hp), Function.comp_apply, inkOf, Nat.zero_add]
    rfl
  · have haddresses : linkedAddresses (reached trigger) =
        (behind [(.next, next)]).map Prod.fst := by
      rw [linkedAddresses, hreached, List.map_cons, List.filter_cons_of_neg (by simp),
        List.filter_eq_self]
      intro a ha
      obtain ⟨p, hp, rfl⟩ := List.mem_map.1 ha
      simpa using hne p hp
    rw [haddresses, hink', FlowDrawing.add, List.nil_append, List.map_map, List.map_map,
      List.map_map]
    refine List.map_congr_left fun p hp ↦ ?_
    rw [Function.comp_apply, Function.comp_apply, Function.comp_apply, GraphEdge.ends, inkOf,
      if_neg (hne p hp), Nat.zero_add, Nat.zero_add]
    rfl

/-- The drawing shows the flow: a node for each step, an edge for each link, a tree. -/
structure Faithful (R : PyRuntime) (number : List Link → ℕ) (trigger : PyValue)
    (g : FlowDrawing) : Prop where
  injective : Set.InjOn number {a | a ∈ (placed trigger).map Prod.fst}
  nodes : g.nodes.Perm ((placed trigger).map (flowNode R number))
  edges : (g.edges.map GraphEdge.ends).Perm
    ((linkedAddresses (placed trigger)).map (flowEdge number))
  tree : IsTreeFrom (nodeId (number [])) (g.nodes.map GraphNode.id) (g.edges.map GraphEdge.ends)

/-- Without bodies of loops, the views come to every step. -/
theorem reached_eq_placed_iff (h : FlowTree trigger) : reached trigger = placed trigger ↔
    ∀ p ∈ placed trigger, (p.2.entryD "firstLoopAction").truthy = false := by
  rw [reached, List.filter_eq_self]
  constructor
  · intro hall p hp
    by_contra htruthy
    obtain ⟨hdict, hnode⟩ := node_of_mem_placed hp
    have hlink : (Link.first, p.2.entryD "firstLoopAction") ∈ links p.2 :=
      mem_links_iff.2 (.inr (.inr rfl))
    have hbody := (h.toFlowChain.at_placed hp).link hdict hnode hlink
    have hstep : IsStep (p.2.entryD "firstLoopAction") := by
      generalize hbodyVal : p.2.entryD "firstLoopAction" = body at hbody htruthy
      cases hbody.chain with
      | nil => exact absurd rfl htruthy
      | step hstep hlinks => exact hstep
    have hfirst : ([Link.first], p.2.entryD "firstLoopAction") ∈ placed p.2 :=
      mem_placed_iff.2 ⟨hdict, hnode, .inr ⟨_, hlink, [], rfl,
        mem_placed_iff.2 ⟨hstep.dict, hstep.truthy, .inl ⟨rfl, rfl⟩⟩⟩⟩
    have := hall _ (placed_append hp hfirst)
    simp at this
  · rintro hall ⟨a, m⟩ hp
    rw [decide_eq_true_eq]
    intro hmem
    obtain ⟨b, c, rfl⟩ := List.append_of_mem hmem
    obtain ⟨n, hn, hm⟩ := exists_placed_of_append hp
    obtain ⟨-, -, ⟨heq, -⟩ | ⟨k, hk, rest, heq, hrest⟩⟩ := mem_placed_iff.1 hm
    · exact absurd heq (by simp)
    · have hvalue := linked_of_mem_links hk
      rw [← (List.cons.inj heq).1] at hvalue
      have hfalsy : (linked n .first).truthy = false := hall (b, n) hn
      rw [← hvalue, placed_of_falsy hfalsy] at hrest
      exact absurd hrest List.not_mem_nil

/-- The graph shows the flow exactly when it comes to every step. -/
theorem flowToGraph_of_flowTree (R : PyRuntime) {flow trigger : PyValue} (h : FlowTree trigger)
    (hflow : HoldsTrigger flow trigger) : ∃ view, flowToGraph R flow = .ok view ∧
      ((∃ number, Faithful R number trigger view.drawing) ↔
        reached trigger = placed trigger) := by
  obtain ⟨g, hg, hnodes, hedges⟩ := drawTrigger_of_flowTree (R := R) h
  obtain ⟨version, hflowDict, hversion, hdict, htrigger⟩ := hflow.found
  have hfound : trigger.orGet flow "trigger" = .ok trigger := if_pos h.truthy
  have hself : trigger.orElse (.dict []) = trigger := if_pos h.truthy
  obtain ⟨view, hview, hdrawing⟩ : ∃ view, flowToGraph R flow = .ok view ∧ view.drawing = g := by
    refine ⟨_, bind_eq_ok_iff.2 ⟨version, hversion, bind_eq_ok_iff.2 ⟨trigger, htrigger,
      bind_eq_ok_iff.2 ⟨trigger, hfound, bind_eq_ok_iff.2 ⟨g, hself.symm ▸ hg,
        bind_eq_ok_iff.2 ⟨_, get_of_isDict hflowDict "id", bind_eq_ok_iff.2
          ⟨_, get_of_isDict hdict "displayName", bind_eq_ok_iff.2
            ⟨_, orGet_of_isDict hflowDict _, bind_eq_ok_iff.2
              ⟨_, (congrArg (fun v ↦ v.get "type") hself).trans (get_of_isDict h.dict "type"),
                bind_eq_ok_iff.2 ⟨_, get_of_isDict hflowDict "status", rfl⟩⟩⟩⟩⟩⟩⟩⟩⟩, rfl⟩
  refine ⟨view, hview, ?_⟩
  rw [hdrawing]
  constructor
  · rintro ⟨number, hfaithful⟩
    have hlength := hfaithful.nodes.length_eq
    rw [hnodes, List.length_map, List.length_map] at hlength
    exact (List.filter_sublist (l := placed trigger)).eq_of_length hlength
  · intro hall
    rw [hall] at hnodes hedges
    have hroot : ([], trigger) ∈ placed trigger :=
      mem_placed_iff.2 ⟨h.dict, h.truthy, .inl ⟨rfl, rfl⟩⟩
    have hinj : Set.InjOn (reachedNumber trigger) {a | a ∈ (placed trigger).map Prod.fst} := by
      intro a ha b hb heq
      rw [reachedNumber, reachedNumber, place, place, hall] at heq
      exact (List.idxOf_inj ha).1 (Nat.succ.inj heq)
    refine ⟨reachedNumber trigger, hinj, .of_eq hnodes, .of_eq hedges, ?_⟩
    have htree := IsTreeFrom.of_addresses (fun a ↦ nodeId (reachedNumber trigger a))
      (nodup_placed trigger) (List.mem_map_of_mem hroot) (fun a k hmem ↦ ?_)
      (nodeId_injective.injOn.comp hinj fun _ _ ↦ Set.mem_univ _)
    · rw [hnodes, hedges, List.map_map]
      rw [List.map_map] at htree
      exact htree
    · obtain ⟨⟨b, m⟩, hp, rfl⟩ := List.mem_map.1 hmem
      obtain ⟨n, hn, -⟩ := exists_placed_of_append hp
      exact List.mem_map_of_mem (f := Prod.fst) hn

/-- **The graph shows the flow exactly when no loop has a body.** -/
theorem graph_faithful_iff (R : PyRuntime) {flow trigger : PyValue} (h : FlowTree trigger)
    (hflow : HoldsTrigger flow trigger) : ∃ view, flowToGraph R flow = .ok view ∧
      ((∃ number, Faithful R number trigger view.drawing) ↔
        ∀ p ∈ placed trigger, (p.2.entryD "firstLoopAction").truthy = false) := by
  obtain ⟨view, hview, hiff⟩ := flowToGraph_of_flowTree R h hflow
  exact ⟨view, hview, hiff.trans (reached_eq_placed_iff h)⟩

end Graph

/-- What is drawn of the webhook over a step of Gmail. -/
theorem graph_of_gmailTrigger : ∃ view,
    flowToGraph plainRuntime (storedFlow gmailTrigger) = .ok view ∧
      ((∃ number, Faithful plainRuntime number gmailTrigger view.drawing) ↔
        ∀ p ∈ placed gmailTrigger, (p.2.entryD "firstLoopAction").truthy = false) :=
  graph_faithful_iff plainRuntime flowTree_gmailTrigger (holdsTrigger_storedFlow gmailTrigger)

/-- The step inside the loop is not drawn. -/
theorem loop_body_not_drawn : ∃ R flow trigger, FlowTree trigger ∧ HoldsTrigger flow trigger ∧
    ¬ ∃ view, flowToGraph R flow = .ok view ∧ ∃ number, Faithful R number trigger view.drawing := by
  refine ⟨plainRuntime, _, loopTrigger, flowTree_loopTrigger, holdsTrigger_storedFlow _, ?_⟩
  obtain ⟨view, hview, hiff⟩ :=
    flowToGraph_of_flowTree plainRuntime flowTree_loopTrigger (holdsTrigger_storedFlow _)
  rintro ⟨view', hview', hfaithful⟩
  obtain rfl := Except.ok.inj (hview.symm.trans hview')
  have hnone := (reached_eq_placed_iff flowTree_loopTrigger).1 (hiff.1 hfaithful)
  have hlink : (Link.next, codeLoopNode) ∈ links loopTrigger := mem_links_iff.2 (.inl rfl)
  have hloop : ([Link.next], codeLoopNode) ∈ placed loopTrigger :=
    mem_placed_iff.2 ⟨rfl, by decide, .inr ⟨_, hlink, [], rfl,
      mem_placed_iff.2 ⟨rfl, by decide, .inl ⟨rfl, rfl⟩⟩⟩⟩
  exact absurd (hnone _ hloop) (by decide)

end Siyadah
