import SiyadahOrchestrator.Build.Catalog
import SiyadahOrchestrator.Memory.Isolation

/-!
# What a compressed answer shows

`compress_response` drops the blank entries of a dictionary, keeps five items of a list and five
hundred characters of a string, at every depth. Places in a value are spelled out by the keys and
indices on the way to them (`Reaches`), and `Shown` are the places whose keys hold no blank value
and whose indices are below five.

What stands at a place of the compressed answer is what stands there in the answer, compressed, or
it is the note on the items that are missing (`reaches_compressResponse_iff`). To compress twice is
another matter: the note counts as an item, and an entry may have become blank
(`compressResponse_compressResponse_iff`).
-/

namespace Siyadah

namespace PyValue

/-! ### Places -/

/-- A step into a value. -/
inductive Place where
  | key (k : PyStr)
  | index (i : ℕ)
deriving DecidableEq

/-- The value that one step leads to. -/
inductive Child : PyValue → Place → PyValue → Prop
  | entry {fields : List (PyStr × PyValue)} {k : PyStr} {v : PyValue} (h : (k, v) ∈ fields) :
      Child (.dict fields) (.key k) v
  | item {items : List PyValue} {i : ℕ} {v : PyValue} (h : items[i]? = some v) :
      Child (.list items) (.index i) v

/-- The value at a place, where each step on the way meets a condition. -/
inductive ReachesBy (C : Place → PyValue → Prop) : PyValue → List Place → PyValue → Prop
  | here (v : PyValue) : ReachesBy C v [] v
  | step {v c w : PyValue} {s : Place} {p : List Place} (hchild : Child v s c) (hC : C s c)
      (hrest : ReachesBy C c p w) : ReachesBy C v (s :: p) w

/-- The value at a place. -/
abbrev Reaches : PyValue → List Place → PyValue → Prop := ReachesBy fun _ _ ↦ True

/-- What a compressed answer keeps. -/
def Kept : Place → PyValue → Prop
  | .key _, v => v.isBlank = false
  | .index i, _ => i < 5

/-- The value at a place that the compressed answer shows. -/
abbrev Shown : PyValue → List Place → PyValue → Prop := ReachesBy Kept

/-- The note on the items that a list of this length has lost. -/
def missingItems (length : ℕ) : PyValue := py ("... +" ++ toString (length - 5) ++ " more")

section Places

variable {C : Place → PyValue → Prop} {v c w : PyValue} {s : Place} {p : List Place}
  {fields : List (PyStr × PyValue)} {items : List PyValue}

theorem child_dict_iff : Child (.dict fields) s c ↔ ∃ k, s = .key k ∧ (k, c) ∈ fields := by
  constructor
  · intro h
    cases h with
    | entry h => exact ⟨_, rfl, h⟩
  · rintro ⟨k, rfl, h⟩
    exact .entry h

theorem child_list_iff : Child (.list items) s c ↔ ∃ i, s = .index i ∧ items[i]? = some c := by
  constructor
  · intro h
    cases h with
    | item h => exact ⟨_, rfl, h⟩
  · rintro ⟨i, rfl, h⟩
    exact .item h

/-- Only dictionaries and lists have children. -/
theorem not_child_of_leaf (hdict : ∀ fields, v ≠ .dict fields) (hlist : ∀ items, v ≠ .list items) :
    ¬ Child v s c := fun h ↦ by
  cases h with
  | entry h => exact hdict _ rfl
  | item h => exact hlist _ rfl

theorem reachesBy_nil_iff : ReachesBy C v [] w ↔ w = v := by
  constructor
  · intro h
    cases h
    rfl
  · rintro rfl
    exact .here _

theorem reachesBy_cons_iff :
    ReachesBy C v (s :: p) w ↔ ∃ c, Child v s c ∧ C s c ∧ ReachesBy C c p w := by
  constructor
  · intro h
    cases h with
    | step hchild hC hrest => exact ⟨_, hchild, hC, hrest⟩
  · rintro ⟨c, hchild, hC, hrest⟩
    exact .step hchild hC hrest

/-- A child is smaller. -/
theorem sizeOf_child (h : Child v s c) : sizeOf c < sizeOf v := by
  cases h with
  | entry h =>
    have hpair := List.sizeOf_lt_of_mem h
    simp only [Prod.mk.sizeOf_spec, dict.sizeOf_spec] at hpair ⊢
    omega
  | item h =>
    have hitem := List.sizeOf_lt_of_mem (List.mem_of_getElem? h)
    simp only [list.sizeOf_spec]
    omega

end Places

end PyValue

open PyValue

/-! ### One level -/

theorem compressItems_eq (items : List PyValue) (n : ℕ) :
    compressItems items n = (items.take n).map compressResponse := by
  induction items generalizing n with
  | nil => simp [compressItems]
  | cons v items ih =>
    cases n with
    | zero => simp [compressItems]
    | succ n => rw [compressItems, ih, List.take_succ_cons, List.map_cons]

theorem compressFields_eq (fields : List (PyStr × PyValue)) :
    compressFields fields =
      (fields.filter fun f ↦ !f.2.isBlank).map fun f ↦ (f.1, compressResponse f.2) := by
  induction fields with
  | nil => rfl
  | cons f fields ih =>
    rw [compressFields]
    split
    · rename_i hblank
      rw [List.filter_cons_of_neg (by simp [hblank]), ih]
    · rename_i hblank
      rw [List.filter_cons_of_pos (by simp [hblank]), ih, List.map_cons]

theorem compressResponse_list (items : List PyValue) :
    compressResponse (.list items) = .list ((items.take 5).map compressResponse ++
      if 5 < items.length then [missingItems items.length] else []) := by
  rw [compressResponse, compressItems_eq]
  rfl

theorem compressResponse_dict (fields : List (PyStr × PyValue)) :
    compressResponse (.dict fields) = .dict
      ((fields.filter fun f ↦ !f.2.isBlank).map fun f ↦ (f.1, compressResponse f.2)) := by
  rw [compressResponse, compressFields_eq]

/-- The items of a compressed list: the first five, compressed, and the note. -/
theorem getElem?_compressed_iff {items : List PyValue} {i : ℕ} {c' : PyValue} :
    ((items.take 5).map compressResponse ++
        if 5 < items.length then [missingItems items.length] else [])[i]? = some c' ↔
      (∃ c, items[i]? = some c ∧ i < 5 ∧ c' = compressResponse c) ∨
        5 < items.length ∧ i = 5 ∧ c' = missingItems items.length := by
  have hlength : ((items.take 5).map compressResponse).length = min 5 items.length := by
    rw [List.length_map, List.length_take]
  by_cases hi : i < min 5 items.length
  · obtain ⟨hfive, hitems⟩ := Nat.lt_min.1 hi
    rw [List.getElem?_append_left (hlength ▸ hi), List.getElem?_map, List.getElem?_take_of_lt hfive,
      List.getElem?_eq_getElem hitems, Option.map_some, Option.some.injEq,
      or_iff_left fun h ↦ absurd h.2.1 (by omega)]
    constructor
    · rintro rfl
      exact ⟨_, rfl, hfive, rfl⟩
    · rintro ⟨c, hc, -, rfl⟩
      rw [Option.some.inj hc]
  · have hno : ¬ ∃ c, items[i]? = some c ∧ i < 5 ∧ c' = compressResponse c := by
      rintro ⟨c, hc, hfive, -⟩
      obtain ⟨hitems, -⟩ := List.getElem?_eq_some_iff.1 hc
      exact hi (Nat.lt_min.2 ⟨hfive, hitems⟩)
    rw [List.getElem?_append_right (by omega), hlength, or_iff_right hno]
    by_cases hmore : 5 < items.length
    · rw [if_pos hmore, min_eq_left hmore.le]
      rcases Nat.lt_or_ge 5 i with hlt | hle
      · rw [List.getElem?_eq_none (by simp only [List.length_singleton]; omega)]
        exact iff_of_false (by simp) fun h ↦ absurd h.2.1 (by omega)
      · obtain rfl : i = 5 := by omega
        rw [Nat.sub_self, List.getElem?_cons_zero, Option.some.injEq]
        exact ⟨fun h ↦ ⟨hmore, rfl, h.symm⟩, fun h ↦ h.2.2.symm⟩
    · rw [if_neg hmore, List.getElem?_nil]
      exact iff_of_false (by simp) fun h ↦ hmore h.1

/-- **One step** into a compressed answer: a step into the answer that is kept, or the note. -/
theorem child_compressResponse_iff {v c' : PyValue} {s : Place} :
    Child (compressResponse v) s c' ↔
      (∃ c, Child v s c ∧ Kept s c ∧ c' = compressResponse c) ∨
        ∃ items, v = .list items ∧ 5 < items.length ∧ s = .index 5 ∧
          c' = missingItems items.length := by
  cases v with
  | dict fields =>
    rw [compressResponse_dict, child_dict_iff]
    constructor
    · rintro ⟨k, rfl, hmem⟩
      obtain ⟨f, hf, heq⟩ := List.mem_map.1 hmem
      obtain ⟨hf, hkept⟩ := List.mem_filter.1 hf
      obtain ⟨rfl, rfl⟩ := Prod.mk.inj heq
      have hblank : f.2.isBlank = false := by simpa using hkept
      exact .inl ⟨f.2, .entry hf, hblank, rfl⟩
    · rintro (⟨c, hchild, hkept, rfl⟩ | ⟨items, heq, -⟩)
      · obtain ⟨k, rfl, hmem⟩ := child_dict_iff.1 hchild
        refine ⟨k, rfl, List.mem_map.2 ⟨(k, c), List.mem_filter.2 ⟨hmem, ?_⟩, rfl⟩⟩
        have hblank : c.isBlank = false := hkept
        rw [hblank]
        rfl
      · exact absurd heq (by simp)
  | list items =>
    rw [compressResponse_list, child_list_iff]
    constructor
    · rintro ⟨i, rfl, hi⟩
      rcases getElem?_compressed_iff.1 hi with ⟨c, hc, hfive, rfl⟩ | ⟨hmore, rfl, rfl⟩
      · exact .inl ⟨c, .item hc, hfive, rfl⟩
      · exact .inr ⟨items, rfl, hmore, rfl, rfl⟩
    · rintro (⟨c, hchild, hkept, rfl⟩ | ⟨items', heq, hmore, rfl, rfl⟩)
      · obtain ⟨i, rfl, hc⟩ := child_list_iff.1 hchild
        exact ⟨i, rfl, getElem?_compressed_iff.2 (.inl ⟨c, hc, hkept, rfl⟩)⟩
      · obtain rfl := PyValue.list.inj heq
        exact ⟨5, rfl, getElem?_compressed_iff.2 (.inr ⟨hmore, rfl, rfl⟩)⟩
  | _ =>
    refine iff_of_false
      (not_child_of_leaf (by simp [compressResponse]) (by simp [compressResponse])) ?_
    rintro (⟨c, hchild, -⟩ | ⟨items, heq, -⟩)
    · exact not_child_of_leaf (by simp) (by simp) hchild
    · exact absurd heq (by simp)

/-! ### What is shown -/

/-- **A compressed answer is a view of the answer.** At each of its places stands what stands there
in the answer, compressed, and every place of the answer is shown whose keys hold no blank value and
whose indices are below five; or the place is behind the fifth item of such a list, and the note
says how many more there are. -/
theorem reaches_compressResponse_iff {v w : PyValue} {p : List Place} :
    Reaches (compressResponse v) p w ↔
      (∃ u, Shown v p u ∧ w = compressResponse u) ∨
        ∃ q items, Shown v q (.list items) ∧ 5 < items.length ∧ p = q ++ [.index 5] ∧
          w = missingItems items.length := by
  induction p generalizing v with
  | nil =>
    rw [Reaches, reachesBy_nil_iff]
    constructor
    · rintro rfl
      exact .inl ⟨v, .here v, rfl⟩
    · rintro (⟨u, hshown, rfl⟩ | ⟨q, items, -, -, hp, -⟩)
      · rw [reachesBy_nil_iff.1 hshown]
      · exact absurd hp (by simp)
  | cons s p ih =>
    rw [Reaches, reachesBy_cons_iff]
    constructor
    · rintro ⟨c', hto, -, hrest⟩
      rcases child_compressResponse_iff.1 hto with
        ⟨c, hchild, hkept, rfl⟩ | ⟨items, rfl, hmore, rfl, rfl⟩
      · rcases ih.1 hrest with ⟨u, hshown, rfl⟩ | ⟨q, items, hshown, hmore, rfl, rfl⟩
        · exact .inl ⟨u, .step hchild hkept hshown, rfl⟩
        · exact .inr ⟨s :: q, items, .step hchild hkept hshown, hmore, rfl, rfl⟩
      · -- The note is a string, so the way ends there.
        cases hrest with
        | here => exact .inr ⟨[], items, .here _, hmore, rfl, rfl⟩
        | step hchild => exact absurd hchild (not_child_of_leaf (by simp [missingItems, py])
            (by simp [missingItems, py]))
    · rintro (⟨u, hshown, rfl⟩ | ⟨q, items, hshown, hmore, hp, rfl⟩)
      · obtain ⟨c, hchild, hkept, hrest⟩ := reachesBy_cons_iff.1 hshown
        exact ⟨_, child_compressResponse_iff.2 (.inl ⟨c, hchild, hkept, rfl⟩), trivial,
          ih.2 (.inl ⟨u, hrest, rfl⟩)⟩
      · rcases q with - | ⟨s', q⟩
        · obtain rfl := reachesBy_nil_iff.1 hshown
          obtain ⟨rfl, rfl⟩ := List.cons.inj hp
          exact ⟨_, child_compressResponse_iff.2 (.inr ⟨items, rfl, hmore, rfl, rfl⟩), trivial,
            .here _⟩
        · obtain ⟨rfl, rfl⟩ := List.cons.inj hp
          obtain ⟨c, hchild, hkept, hrest⟩ := reachesBy_cons_iff.1 hshown
          exact ⟨_, child_compressResponse_iff.2 (.inl ⟨c, hchild, hkept, rfl⟩), trivial,
            ih.2 (.inr ⟨q, items, hrest, hmore, rfl, rfl⟩)⟩

/-! ### Twice -/

namespace PyValue

/-- A dictionary with entries, all of them blank. -/
def isHollow : PyValue → Bool
  | .dict fields => !fields.isEmpty && fields.all fun f ↦ f.2.isBlank
  | _ => false

/-- At the top of the value nothing is left to compress a second time. -/
def SettledHere : PyValue → Prop
  | .dict fields => ∀ f ∈ fields, f.2.isHollow = false
  | .list items => items.length ≤ 6
  | _ => True

end PyValue

/-- What is not blank becomes blank when it is hollow. -/
theorem isBlank_compressResponse {v : PyValue} (h : v.isBlank = false) :
    (compressResponse v).isBlank = v.isHollow := by
  cases v with
  | dict fields =>
    rw [compressResponse_dict, isHollow]
    rw [isBlank] at h ⊢
    rw [h, List.isEmpty_map, Bool.not_false, Bool.true_and, Bool.eq_iff_iff, List.isEmpty_iff,
      List.filter_eq_nil_iff, List.all_eq_true]
    exact forall₂_congr fun f _ ↦ by simp
  | list items =>
    rcases items with - | ⟨v, items⟩
    · exact absurd h (by simp [isBlank])
    · rw [compressResponse_list]
      rfl
  | str t =>
    rw [compressResponse]
    split
    · show (t.take 500 ++ text "...").isEmpty = false
      rw [Bool.eq_false_iff, ne_eq, List.isEmpty_iff]
      exact List.append_ne_nil_of_right_ne_nil _ (by decide)
    · exact h
  | null => exact absurd h (by simp [isBlank])
  | _ => rfl

theorem isHollow_of_isBlank {v : PyValue} (h : v.isBlank = true) : v.isHollow = false := by
  cases v with
  | dict fields =>
    rw [isBlank] at h
    rw [isHollow, h]
    rfl
  | _ => rfl

theorem filter_map_eq_self_iff {α : Type} {q : α → Bool} {g : α → α} {l : List α} :
    (l.filter q).map g = l ↔ ∀ a ∈ l, q a = true ∧ g a = a := by
  constructor
  · intro h
    have hlength := congrArg List.length h
    rw [List.length_map, List.length_filter_eq_length_iff] at hlength
    rw [List.filter_eq_self.2 hlength] at h
    have hself : l.map g = l.map id := h.trans (List.map_id l).symm
    exact fun a ha ↦ ⟨hlength a ha, List.map_inj_left.1 hself a ha⟩
  · intro h
    rw [List.filter_eq_self.2 fun a ha ↦ (h a ha).1]
    exact (List.map_congr_left fun a ha ↦ (h a ha).2).trans (List.map_id l)

theorem missingItems_inj {m n : ℕ} (hm : 5 < m) (hn : 5 < n) (h : missingItems m = missingItems n) :
    m = n := by
  have hnote (k : ℕ) : PyStr.ofString ("... +" ++ toString (k - 5) ++ " more") =
      text "... +" ++ (digits (k - 5) ++ text " more") := by
    rw [PyStr.ofString, String.toList_append, String.toList_append, List.map_append,
      List.map_append, List.append_assoc]
    rfl
  have htext := PyValue.str.inj h
  rw [hnote, hnote] at htext
  have hdigits := digits_injective (List.append_cancel_right (List.append_cancel_left htext))
  omega

/-- **One level of a second compression.** -/
theorem compressResponse_twice_iff {v : PyValue} :
    compressResponse (compressResponse v) = compressResponse v ↔
      SettledHere v ∧ ∀ s c, Child v s c → Kept s c →
        compressResponse (compressResponse c) = compressResponse c := by
  cases v with
  | dict fields =>
    rw [compressResponse_dict, compressResponse_dict, PyValue.dict.injEq, filter_map_eq_self_iff]
    constructor
    · intro h
      have hentry : ∀ f ∈ fields, f.2.isBlank = false → (compressResponse f.2).isBlank = false ∧
          compressResponse (compressResponse f.2) = compressResponse f.2 := by
        intro f hf hblank
        obtain ⟨hnot, heq⟩ := h (f.1, compressResponse f.2)
          (List.mem_map.2 ⟨f, List.mem_filter.2 ⟨hf, by simp [hblank]⟩, rfl⟩)
        exact ⟨by simpa using hnot, congrArg Prod.snd heq⟩
      refine ⟨fun f hf ↦ ?_, fun s c hchild hkept ↦ ?_⟩
      · rcases hblank : f.2.isBlank with - | -
        · rw [← isBlank_compressResponse hblank]
          exact (hentry f hf hblank).1
        · exact isHollow_of_isBlank hblank
      · obtain ⟨k, rfl, hmem⟩ := child_dict_iff.1 hchild
        exact (hentry (k, c) hmem hkept).2
    · rintro ⟨hhere, hbelow⟩ e he
      obtain ⟨f, hf, rfl⟩ := List.mem_map.1 he
      obtain ⟨hf, hkept⟩ := List.mem_filter.1 hf
      have hblank : f.2.isBlank = false := by simpa using hkept
      refine ⟨?_, Prod.ext rfl (hbelow (.key f.1) f.2 (.entry hf) hblank)⟩
      show (!(compressResponse f.2).isBlank) = true
      rw [isBlank_compressResponse hblank, hhere f hf]
      rfl
  | list items =>
    have hbelow : (∀ s c, Child (.list items) s c → Kept s c →
        compressResponse (compressResponse c) = compressResponse c) ↔
        ∀ c ∈ items.take 5, compressResponse (compressResponse c) = compressResponse c := by
      constructor
      · intro h c hc
        obtain ⟨i, hi, rfl⟩ := List.mem_iff_getElem.1 hc
        rw [List.length_take] at hi
        rw [List.getElem_take]
        exact h (.index i) _ (.item (List.getElem?_eq_getElem (by omega)))
          (show i < 5 by omega)
      · intro h s c hchild hkept
        obtain ⟨i, rfl, hi⟩ := child_list_iff.1 hchild
        have hfive : i < 5 := hkept
        exact h c (List.mem_of_getElem? ((List.getElem?_take_of_lt hfive).trans hi))
    have hmaps : ((items.take 5).map compressResponse).map compressResponse =
        (items.take 5).map compressResponse ↔
        ∀ c ∈ items.take 5, compressResponse (compressResponse c) = compressResponse c := by
      rw [List.map_map]
      exact List.map_inj_left
    have hlength : ((items.take 5).map compressResponse).length = min 5 items.length := by
      rw [List.length_map, List.length_take]
    rw [hbelow, ← hmaps, compressResponse_list, compressResponse_list, PyValue.list.injEq,
      SettledHere]
    by_cases hmore : 5 < items.length
    · -- The note is the sixth item, and the second note counts it.
      rw [if_pos hmore, List.take_left' (by omega), List.length_append, List.length_singleton,
        if_pos (by omega)]
      constructor
      · intro h
        obtain ⟨hfirst, hnote⟩ := List.append_inj' h rfl
        have hsame := missingItems_inj (by omega) hmore (List.cons.inj hnote).1
        exact ⟨by omega, hfirst⟩
      · rintro ⟨hsix, hfirst⟩
        rw [hfirst, hlength, show min 5 items.length + 1 = items.length by omega]
    · rw [if_neg hmore, List.append_nil, List.take_of_length_le (by omega), if_neg (by omega),
        List.append_nil, and_iff_right (by omega)]
  | str t =>
    refine iff_of_true ?_ ⟨trivial, fun s c hchild _ ↦ absurd hchild
      (not_child_of_leaf (by simp) (by simp))⟩
    rw [compressResponse]
    split
    · have htake : (t.take 500 ++ text "...").take 500 = t.take 500 := by
        refine List.take_left' ?_
        rw [List.length_take]
        omega
      have hlong : 500 < (t.take 500 ++ text "...").length := by
        have hdots : (text "...").length = 3 := rfl
        rw [List.length_append, List.length_take, hdots]
        omega
      rw [compressResponse, if_pos hlong, htake]
    · rename_i hshort
      rw [compressResponse, if_neg hshort]
  | _ =>
    exact iff_of_true rfl ⟨trivial, fun s c hchild _ ↦ absurd hchild
      (not_child_of_leaf (by simp) (by simp))⟩

/-- A settled value is its own second compression. -/
theorem twice_of_settled (v : PyValue) (h : ∀ p u, Shown v p u → SettledHere u) :
    compressResponse (compressResponse v) = compressResponse v :=
  compressResponse_twice_iff.2 ⟨h [] v (.here v), fun s c hchild hkept ↦
    have := sizeOf_child hchild
    twice_of_settled c fun p u hshown ↦ h (s :: p) u (.step hchild hkept hshown)⟩
termination_by sizeOf v

/-- **Compressing twice** changes nothing exactly when every list that is shown has at most six
items and no dictionary that is shown has an entry that becomes blank. -/
theorem compressResponse_compressResponse_iff (v : PyValue) :
    compressResponse (compressResponse v) = compressResponse v ↔
      ∀ p u, Shown v p u → SettledHere u := by
  refine ⟨fun h p u hshown ↦ ?_, twice_of_settled v⟩
  induction hshown with
  | here v => exact (compressResponse_twice_iff.1 h).1
  | step hchild hkept _ ih => exact ih ((compressResponse_twice_iff.1 h).2 _ _ hchild hkept)

end Siyadah
