import Mathlib.Data.List.Induction
import Mathlib.Data.List.Nodup
import Mathlib.Data.List.Sigma

/-!
# Grouping and ranking

A loop that puts the items of a list into groups (`addTo`) leaves one group for each key, in the
order in which the keys come up, and in it the items with that key, in their order (`groupBy_eq`).

An item is among the first `n` of a sorted list exactly when fewer than `n` items come before it.
The sort is stable, so of two items that the order does not tell apart the earlier one comes first
(`countP_take_mergeSort`); where there are none of these, the order of the list does not matter
(`mergeSort_eq_of_perm`).
-/

namespace Siyadah

/-! ### Groups -/

section Groups

variable {α κ : Type*} [DecidableEq κ]

/-- `groups.setdefault(key, []).append(a)`. -/
def addTo (groups : List (κ × List α)) (key : κ) (a : α) : List (κ × List α) :=
  if key ∈ groups.map Prod.fst then groups.map fun g ↦ if g.1 = key then (key, g.2 ++ [a]) else g
  else groups ++ [(key, [a])]

/-- The groups that a loop leaves; an item without a key is passed over. -/
def groupBy (keyOf : α → Option κ) (l : List α) : List (κ × List α) :=
  l.foldl (fun groups a ↦ (keyOf a).elim groups fun key ↦ addTo groups key a) []

/-- The keys of a list, in the order in which they come up. -/
def keysOf (keyOf : α → Option κ) (l : List α) : List κ := (l.filterMap keyOf).eraseDups

variable {keyOf : α → Option κ} {l : List α} {a : α} {key : κ}

theorem mem_keysOf : key ∈ keysOf keyOf l ↔ ∃ a ∈ l, keyOf a = some key := by
  rw [keysOf, List.mem_eraseDups, List.mem_filterMap]

theorem filter_concat_of_ne (h : keyOf a ≠ some key) :
    (l ++ [a]).filter (fun b ↦ keyOf b = some key) = l.filter fun b ↦ keyOf b = some key := by
  rw [List.filter_append, List.filter_cons_of_neg (by simpa using h), List.filter_nil,
    List.append_nil]

theorem filter_concat_of_eq (h : keyOf a = some key) :
    (l ++ [a]).filter (fun b ↦ keyOf b = some key) =
      l.filter (fun b ↦ keyOf b = some key) ++ [a] := by
  rw [List.filter_append, List.filter_cons_of_pos (by simpa using h), List.filter_nil]

theorem removeAll_singleton_of_mem {keys : List κ} (h : key ∈ keys) :
    [key].removeAll keys = [] := by
  simp [List.removeAll, h]

theorem removeAll_singleton_of_notMem {keys : List κ} (h : key ∉ keys) :
    [key].removeAll keys = [key] := by
  simp [List.removeAll, h]

/-- **The groups of a list.** -/
theorem groupBy_eq (l : List α) : groupBy keyOf l =
    (keysOf keyOf l).map fun key ↦ (key, l.filter fun a ↦ keyOf a = some key) := by
  induction l using List.reverseRecOn with
  | nil => rfl
  | append_singleton l a ih =>
    have hstep : groupBy keyOf (l ++ [a]) =
        (keyOf a).elim (groupBy keyOf l) fun key ↦ addTo (groupBy keyOf l) key a :=
      List.foldl_concat ..
    rw [keysOf] at ih
    rw [hstep, keysOf, List.filterMap_append]
    rcases ha : keyOf a with - | key
    · rw [List.filterMap_cons_none ha, List.filterMap_nil, List.append_nil, Option.elim_none, ih]
      refine List.map_congr_left fun k _ ↦ ?_
      rw [filter_concat_of_ne (by rw [ha]; exact (Option.some_ne_none k).symm)]
    · have hkeys : key ∈ (groupBy keyOf l).map Prod.fst ↔ key ∈ l.filterMap keyOf := by
        have hfst : (groupBy keyOf l).map Prod.fst = (l.filterMap keyOf).eraseDups := by
          rw [ih, List.map_map]
          exact List.map_id _
        rw [hfst, List.mem_eraseDups]
      rw [List.filterMap_cons_some ha, List.filterMap_nil, Option.elim_some, addTo,
        List.eraseDups_append]
      by_cases hmem : key ∈ l.filterMap keyOf
      · -- The key has come up before, so no group is new.
        rw [if_pos (hkeys.2 hmem)]
        rw [removeAll_singleton_of_mem hmem, List.eraseDups_nil, List.append_nil, ih, List.map_map]
        refine List.map_congr_left fun k _ ↦ ?_
        show (if k = key then (key, l.filter (fun b ↦ keyOf b = some k) ++ [a]) else
          (k, l.filter fun b ↦ keyOf b = some k)) = _
        split
        · rename_i heq
          rw [heq, filter_concat_of_eq ha]
        · rename_i hne
          rw [filter_concat_of_ne (by rw [ha]; exact fun h ↦ hne (Option.some.inj h).symm)]
      · rw [if_neg (mt hkeys.1 hmem)]
        have hnew : ([key].removeAll (l.filterMap keyOf)).eraseDups = [key] := by
          rw [removeAll_singleton_of_notMem hmem, List.eraseDups_cons]
          rfl
        have hempty : l.filter (fun b ↦ keyOf b = some key) = [] :=
          List.filter_eq_nil_iff.2 fun b hb hkey ↦
            hmem (List.mem_filterMap.2 ⟨b, hb, of_decide_eq_true hkey⟩)
        rw [hnew, List.map_append, List.map_singleton, filter_concat_of_eq ha, hempty,
          List.nil_append, ih]
        congr 1
        refine List.map_congr_left fun k hk ↦ ?_
        have hne : keyOf a ≠ some k := by
          rw [ha]
          exact fun h ↦ hmem (Option.some.inj h ▸ List.mem_eraseDups.1 hk)
        rw [filter_concat_of_ne hne]

theorem nodup_eraseDups (l : List κ) : l.eraseDups.Nodup := by
  induction l using List.reverseRecOn with
  | nil => exact List.nodup_nil
  | append_singleton l a ih =>
    rw [List.eraseDups_append]
    by_cases hmem : a ∈ l
    · rw [removeAll_singleton_of_mem hmem, List.eraseDups_nil, List.append_nil]
      exact ih
    · rw [removeAll_singleton_of_notMem hmem, List.nodup_append]
      refine ⟨ih, by rw [List.eraseDups_cons]; simp, fun b hb c hc heq ↦ ?_⟩
      obtain rfl : c = a := by simpa using List.mem_eraseDups.1 hc
      exact hmem (heq ▸ List.mem_eraseDups.1 hb)

theorem nodup_keysOf : (keysOf keyOf l).Nodup := nodup_eraseDups _

end Groups

/-! ### Ranks -/

section Ranks

variable {α : Type*} {le : α → α → Bool}

/-- In a list with positions, `b` comes before `a` in the stable sort. -/
def comesBefore (le : α → α → Bool) (b a : α × ℕ) : Bool :=
  le b.1 a.1 && (!le a.1 b.1 || decide (b.2 < a.2))

/-- The first items of a list whose order is strict are those with few items before them. -/
theorem take_eq_filter {before : α → α → Bool} {l : List α} (n : ℕ)
    (h : l.Pairwise fun a b ↦ before a b = true ∧ before b a = false)
    (hirr : ∀ a ∈ l, before a a = false) :
    l.take n = l.filter fun a ↦ l.countP (before · a) < n := by
  induction l generalizing n with
  | nil => simp
  | cons a l ih =>
    obtain ⟨ha, hl⟩ := List.pairwise_cons.1 h
    obtain ⟨hself, hirr⟩ := List.forall_mem_cons.1 hirr
    have hfirst : (a :: l).countP (before · a) = 0 := by
      rw [List.countP_eq_zero]
      intro b hb
      rcases List.mem_cons.1 hb with rfl | hb
      · exact Bool.eq_false_iff.1 hself
      · exact Bool.eq_false_iff.1 (ha b hb).2
    have hrest : ∀ b ∈ l, (a :: l).countP (before · b) = l.countP (before · b) + 1 := by
      intro b hb
      exact List.countP_cons_of_pos (ha b hb).1
    rcases n with - | n
    · rw [List.take_zero]
      exact (List.filter_eq_nil_iff.2 fun b _ ↦ by simp).symm
    · rw [List.take_succ_cons, List.filter_cons_of_pos (by simp [hfirst]), ih n hl hirr]
      congr 1
      refine List.filter_congr fun b hb ↦ decide_eq_decide.2 ?_
      rw [hrest b hb]
      omega

variable (htrans : ∀ a b c, le a b → le b c → le a c) (htotal : ∀ a b, le a b || le b a)

include htrans htotal

/-- **The first items of a stable sort** are those with few items before them. -/
theorem countP_take_mergeSort (l : List α) (n : ℕ) (q : α → Bool) :
    ((l.mergeSort le).take n).countP q =
      l.zipIdx.countP fun a ↦ q a.1 && decide (l.zipIdx.countP (comesBefore le · a) < n) := by
  have hperm : (l.zipIdx.mergeSort (List.zipIdxLE le)).Perm l.zipIdx := List.mergeSort_perm _ _
  have hsorted : (l.zipIdx.mergeSort (List.zipIdxLE le)).Pairwise
      fun a b ↦ comesBefore le a b = true ∧ comesBefore le b a = false := by
    have hle := List.pairwise_mergeSort (List.zipIdxLE_trans htrans) (List.zipIdxLE_total htotal)
      l.zipIdx
    have hne : (l.zipIdx.mergeSort (List.zipIdxLE le)).Pairwise fun a b ↦ a.2 ≠ b.2 :=
      List.pairwise_map.1 (((hperm.map Prod.snd).nodup_iff).2 (List.nodup_zipIdx_map_snd l))
    refine (hle.and hne).imp fun {a b} hab ↦ ?_
    obtain ⟨hle, hne⟩ := hab
    rw [List.zipIdxLE] at hle
    rw [comesBefore, comesBefore]
    rcases hab : le a.1 b.1 with - | -
    · rw [hab] at hle
      exact absurd hle (by simp)
    · rw [hab] at hle
      rcases hba : le b.1 a.1 with - | -
      · simp
      · rw [hba] at hle
        have hlt : a.2 ≤ b.2 := by simpa using hle
        simp only [Bool.not_true, Bool.false_or, Bool.true_and, decide_eq_true_eq,
          decide_eq_false_iff_not]
        omega
  have hirr : ∀ a ∈ l.zipIdx.mergeSort (List.zipIdxLE le), comesBefore le a a = false := by
    intro a _
    rw [comesBefore]
    rcases le a.1 a.1 with - | -
    · rfl
    · simp
  rw [← List.mergeSort_zipIdx, ← List.map_take, List.countP_map, take_eq_filter n hsorted hirr,
    List.countP_filter]
  rw [hperm.countP_eq]
  refine List.countP_congr fun a _ ↦ ?_
  rw [hperm.countP_eq]
  rfl

/-- Where equal items are the same, the order of a list does not matter to its sort. -/
theorem mergeSort_eq_of_perm {l l' : List α} (hperm : l.Perm l')
    (hanti : ∀ a ∈ l, ∀ b ∈ l, le a b → le b a → a = b) : l.mergeSort le = l'.mergeSort le := by
  have hsorted := List.pairwise_mergeSort htrans htotal l
  have hsorted' := List.pairwise_mergeSort htrans htotal l'
  have hsame := ((List.mergeSort_perm l le).trans hperm).trans (List.mergeSort_perm l' le).symm
  refine List.Perm.eq_of_pairwise (fun a b ha hb ↦ ?_) hsorted hsorted' hsame
  exact hanti a (List.mem_mergeSort.1 ha) b (hperm.mem_iff.2 (List.mem_mergeSort.1 hb))

end Ranks

end Siyadah
