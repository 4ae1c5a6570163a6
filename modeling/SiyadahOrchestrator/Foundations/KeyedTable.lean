import Mathlib.Data.List.Nodup
import Mathlib.Data.List.Pairwise

/-!
# Relational tables with a primary key and a unique constraint

A table is a list of rows in which no two rows share the primary key and no two rows share a value
of the unique constraint. Both facts are fields, so a table that violates its constraints cannot be
built; a statement that would violate them has no successor table, which is how the database answers
it (the transaction is aborted and nothing changes).

`uniq r = none` says that the constraint does not apply to `r`: SQL's `UNIQUE` ignores rows in which
one of its columns is `NULL`.

* `insert`, `update` — may be refused;
* `modify` — an update of columns that are in neither constraint, never refused;
* `delete` — never refused.

Reading is by primary key (`find?`), and each statement has one lemma that says what `find?` returns
after it. `isSome_updateKey_iff` and `isSome_insert_iff` say exactly when a statement is refused.
-/

/-- A table with primary key `key` and unique constraint `uniq`. -/
structure KeyedTable {ρ ι υ : Type*} (key : ρ → ι) (uniq : ρ → Option υ) where
  /-- The rows. -/
  rows : List ρ
  /-- No two rows share the primary key. -/
  nodup_key : (rows.map key).Nodup
  /-- No two rows share a value of the unique constraint. -/
  nodup_uniq : (rows.filterMap uniq).Nodup

namespace KeyedTable

variable {ρ ι υ : Type*} {key : ρ → ι} {uniq : ρ → Option υ}

/-! ### The constraints as facts about pairs of rows -/

/-- Given the primary key, the unique constraint speaks about rows with different keys. -/
theorem nodup_filterMap_iff {l : List ρ} (hkey : (l.map key).Nodup) :
    (l.filterMap uniq).Nodup ↔
      ∀ r ∈ l, ∀ r' ∈ l, key r ≠ key r' → ∀ u, uniq r = some u → uniq r' ≠ some u := by
  rw [List.Nodup, List.pairwise_filterMap]
  constructor
  · intro hp r hr r' hr' hne u hu hu'
    have : Std.Symm fun a b : ρ ↦ ∀ x, uniq a = some x → ∀ y, uniq b = some y → x ≠ y :=
      ⟨fun _ _ h x hx y hy hxy ↦ h y hy x hx hxy.symm⟩
    have hrr : r ≠ r' := fun h ↦ hne (congrArg key h)
    exact hp.forall hr hr' hrr u hu u hu' rfl
  · intro h
    refine hkey.of_map.pairwise_of_forall_ne fun a ha b hb hab x hx y hy hxy ↦ ?_
    have hk : key a ≠ key b := fun he ↦ hab (List.inj_on_of_nodup_map hkey ha hb he)
    exact h a ha b hb hk x hx (hxy ▸ hy)

variable (t : KeyedTable key uniq)

theorem eq_of_key_eq {r r' : ρ} (hr : r ∈ t.rows) (hr' : r' ∈ t.rows) (h : key r = key r') :
    r = r' :=
  List.inj_on_of_nodup_map t.nodup_key hr hr' h

theorem eq_of_uniq_eq {r r' : ρ} {u : υ} (hr : r ∈ t.rows) (hr' : r' ∈ t.rows)
    (h : uniq r = some u) (h' : uniq r' = some u) : r = r' := by
  by_contra hne
  exact (nodup_filterMap_iff t.nodup_key).1 t.nodup_uniq r hr r' hr'
    (fun hk ↦ hne (t.eq_of_key_eq hr hr' hk)) u h h'

/-! ### Statements -/

/-- The empty table. -/
def empty : KeyedTable key uniq := ⟨[], List.nodup_nil, List.nodup_nil⟩

section Statements

variable [DecidableEq ι] [DecidableEq υ]

/-- Accept the rows if they meet both constraints. -/
def ofRows? (l : List ρ) : Option (KeyedTable key uniq) :=
  if h : (l.map key).Nodup ∧ (l.filterMap uniq).Nodup then some ⟨l, h.1, h.2⟩ else none

/-- Look a row up by primary key. -/
def find? (k : ι) : Option ρ := t.rows.find? fun r ↦ key r = k

/-- Insert one row. -/
def insert (r : ρ) : Option (KeyedTable key uniq) := ofRows? (t.rows ++ [r])

/-- Update the rows that `p` selects. -/
def update (p : ρ → Bool) (f : ρ → ρ) : Option (KeyedTable key uniq) :=
  ofRows? (t.rows.map fun r ↦ if p r then f r else r)

/-- Update the row with key `k`. -/
def updateKey (k : ι) (f : ρ → ρ) : Option (KeyedTable key uniq) :=
  t.update (fun r ↦ key r = k) f

end Statements

/-- Update the rows that `p` selects in columns that neither constraint reads. -/
def modify (p : ρ → Bool) (f : ρ → ρ) (hkey : ∀ r, key (f r) = key r)
    (huniq : ∀ r, uniq (f r) = uniq r) : KeyedTable key uniq where
  rows := t.rows.map fun r ↦ if p r then f r else r
  nodup_key := by
    have h : (key ∘ fun r ↦ if p r then f r else r) = key := by
      funext r; simp only [Function.comp_apply]; split <;> simp [hkey]
    rw [List.map_map, h]
    exact t.nodup_key
  nodup_uniq := by
    have h : (uniq ∘ fun r ↦ if p r then f r else r) = uniq := by
      funext r; simp only [Function.comp_apply]; split <;> simp [huniq]
    rw [List.filterMap_map, h]
    exact t.nodup_uniq

/-- Update the row with key `k` in columns that neither constraint reads. -/
def modifyKey [DecidableEq ι] (k : ι) (f : ρ → ρ) (hkey : ∀ r, key (f r) = key r)
    (huniq : ∀ r, uniq (f r) = uniq r) : KeyedTable key uniq :=
  t.modify (fun r ↦ key r = k) f hkey huniq

/-- Delete the rows that `p` selects. -/
def delete (p : ρ → Bool) : KeyedTable key uniq where
  rows := t.rows.filter fun r ↦ !p r
  nodup_key := t.nodup_key.sublist (List.filter_sublist.map key)
  nodup_uniq := t.nodup_uniq.sublist (List.filter_sublist.filterMap uniq)

variable {t} {t' : KeyedTable key uniq} {r r' : ρ} {k k' : ι} {p : ρ → Bool} {f : ρ → ρ}

/-! ### Rows after a statement -/

@[simp] theorem mem_delete : r ∈ (t.delete p).rows ↔ r ∈ t.rows ∧ p r = false := by
  simp [delete]

section Reading

variable [DecidableEq ι] [DecidableEq υ]

theorem ofRows?_eq_some_iff {l : List ρ} :
    ofRows? l = some t ↔ t.rows = l := by
  unfold ofRows?
  constructor
  · intro h
    split at h
    · rw [Option.some.injEq] at h; exact h ▸ rfl
    · exact absurd h (by simp)
  · rintro rfl
    rw [dif_pos ⟨t.nodup_key, t.nodup_uniq⟩]

theorem isSome_ofRows?_iff {l : List ρ} :
    (ofRows? l : Option (KeyedTable key uniq)).isSome ↔
      (l.map key).Nodup ∧ (l.filterMap uniq).Nodup := by
  unfold ofRows?
  split <;> simp_all

theorem rows_insert (h : t.insert r = some t') : t'.rows = t.rows ++ [r] :=
  ofRows?_eq_some_iff.1 h

theorem rows_update (h : t.update p f = some t') :
    t'.rows = t.rows.map fun r ↦ if p r then f r else r :=
  ofRows?_eq_some_iff.1 h

theorem update_congr {q : ρ → Bool} (h : ∀ r ∈ t.rows, p r = q r) :
    t.update p f = t.update q f := by
  rw [update, update]
  congr 1
  exact List.map_congr_left fun r hr ↦ by rw [h r hr]

/-- An update of one row depends on its value at that row alone. -/
theorem updateKey_congr {g : ρ → ρ} (h : ∀ r ∈ t.rows, key r = k → f r = g r) :
    t.updateKey k f = t.updateKey k g := by
  rw [updateKey, updateKey, update, update]
  congr 1
  refine List.map_congr_left fun r hr ↦ ?_
  rcases eq_or_ne (key r) k with hk | hk
  · rw [if_pos (decide_eq_true hk), if_pos (decide_eq_true hk), h r hr hk]
  · rw [if_neg (mt of_decide_eq_true hk), if_neg (mt of_decide_eq_true hk)]

/-- An update that selects no row changes nothing. -/
theorem update_of_forall_false (h : ∀ r ∈ t.rows, p r = false) : t.update p f = some t := by
  rw [update, ofRows?_eq_some_iff]
  conv_lhs => rw [← List.map_id t.rows]
  exact List.map_congr_left fun r hr ↦ by simp [h r hr]

omit [DecidableEq υ] in
/-- `find?` finds the row with that key. -/
theorem find?_eq_some_iff : t.find? k = some r ↔ r ∈ t.rows ∧ key r = k := by
  constructor
  · intro h
    exact ⟨List.mem_of_find?_eq_some h, by simpa using List.find?_some h⟩
  · rintro ⟨hr, rfl⟩
    cases hf : t.find? (key r) with
    | none =>
      have := List.find?_eq_none.1 hf r hr
      simp at this
    | some r' =>
      have hk : key r' = key r := by simpa using List.find?_some hf
      rw [t.eq_of_key_eq (List.mem_of_find?_eq_some hf) hr hk]

omit [DecidableEq υ] in
theorem find?_eq_none_iff : t.find? k = none ↔ ∀ r ∈ t.rows, key r ≠ k := by
  simp [find?]

omit [DecidableEq υ] in
/-- The rows with a given key are the one that the look-up finds. -/
theorem filter_key_eq : (t.rows.filter fun r ↦ decide (key r = k)) = (t.find? k).toList := by
  have hnodup : ((t.rows.filter fun r ↦ decide (key r = k)).map key).Nodup :=
    t.nodup_key.sublist (List.filter_sublist.map key)
  have hkey : ∀ r ∈ t.rows.filter fun r ↦ decide (key r = k), key r = k := fun r hr ↦
    of_decide_eq_true (List.mem_filter.1 hr).2
  rw [find?, ← List.head?_filter]
  rcases hl : t.rows.filter fun r ↦ decide (key r = k) with _ | ⟨a, _ | ⟨b, l⟩⟩
  · rfl
  · rfl
  · rw [hl] at hnodup hkey
    have hab : key a = key b := (hkey a (by simp)).trans (hkey b (by simp)).symm
    exact absurd hnodup (by simp [hab])

omit [DecidableEq υ] in
theorem key_of_find? (h : t.find? k = some r) : key r = k := (find?_eq_some_iff.1 h).2

omit [DecidableEq υ] in
theorem find?_map_rows (hf : ∀ r, key (f r) = key r)
    (hrows : t'.rows = t.rows.map fun r ↦ if p r then f r else r) (k : ι) :
    t'.find? k = (t.find? k).map fun r ↦ if p r then f r else r := by
  have hkey : ∀ r, key (if p r then f r else r) = key r := fun r ↦ by split <;> simp [hf]
  rw [find?, hrows, List.find?_map, find?]
  congr 2
  funext r
  simp only [Function.comp_apply, hkey]

theorem find?_update (hf : ∀ r, key (f r) = key r) (h : t.update p f = some t') (k : ι) :
    t'.find? k = (t.find? k).map fun r ↦ if p r then f r else r :=
  find?_map_rows hf (rows_update h) k

omit [DecidableEq υ] in
theorem find?_modify {hkey : ∀ r, key (f r) = key r} {huniq : ∀ r, uniq (f r) = uniq r} (k : ι) :
    (t.modify p f hkey huniq).find? k = (t.find? k).map fun r ↦ if p r then f r else r :=
  find?_map_rows hkey rfl k

omit [DecidableEq υ] in
/-- A row kept under its key, for an update of one key. -/
theorem map_find?_key (k k' : ι) :
    ((t.find? k').map fun r ↦ if decide (key r = k) then f r else r) =
      if k' = k then (t.find? k').map f else t.find? k' := by
  cases hf : t.find? k' with
  | none => simp
  | some r =>
    have hk := key_of_find? hf
    subst hk
    rcases eq_or_ne (key r) k with h | h <;> simp [h]

omit [DecidableEq υ] in
theorem find?_modifyKey {hkey : ∀ r, key (f r) = key r} {huniq : ∀ r, uniq (f r) = uniq r}
    (k' : ι) :
    (t.modifyKey k f hkey huniq).find? k' =
      if k' = k then (t.find? k').map f else t.find? k' := by
  rw [modifyKey, find?_modify, map_find?_key]

theorem find?_updateKey (hf : ∀ r, key (f r) = key r) (h : t.updateKey k f = some t') (k' : ι) :
    t'.find? k' = if k' = k then (t.find? k').map f else t.find? k' := by
  rw [find?_update hf h k', map_find?_key]

theorem find?_insert (h : t.insert r = some t') (k : ι) :
    t'.find? k = if k = key r then some r else t.find? k := by
  have hrows := rows_insert h
  have hmem : r ∈ t'.rows := by simp [hrows]
  rcases eq_or_ne k (key r) with rfl | hne
  · rw [if_pos rfl]
    exact find?_eq_some_iff.2 ⟨hmem, rfl⟩
  · rw [if_neg hne, find?, hrows, List.find?_append]
    have : [r].find? (fun r ↦ decide (key r = k)) = none := by simp [Ne.symm hne]
    rw [this, Option.or_none]
    rfl

theorem find?_eq_none_of_insert (h : t.insert r = some t') : t.find? (key r) = none := by
  refine find?_eq_none_iff.2 fun r' hr' hk ↦ ?_
  have hnd := t'.nodup_key
  rw [rows_insert h, List.map_append, List.nodup_append] at hnd
  exact hnd.2.2 (key r') (List.mem_map_of_mem hr') (key r) (by simp) hk

omit [DecidableEq υ] in
theorem find?_delete (k : ι) :
    (t.delete p).find? k = (t.find? k).filter fun r ↦ !p r := by
  cases hf : t.find? k with
  | none =>
    refine find?_eq_none_iff.2 fun r hr ↦ ?_
    exact find?_eq_none_iff.1 hf r (mem_delete.1 hr).1
  | some r =>
    obtain ⟨hr, hk⟩ := find?_eq_some_iff.1 hf
    cases hp : p r with
    | false =>
      rw [Option.filter_some, hp]
      exact find?_eq_some_iff.2 ⟨mem_delete.2 ⟨hr, hp⟩, hk⟩
    | true =>
      rw [Option.filter_some, hp]
      refine find?_eq_none_iff.2 fun r' hr' hk' ↦ ?_
      obtain ⟨hmem, hp'⟩ := mem_delete.1 hr'
      rw [t.eq_of_key_eq hmem hr (hk'.trans hk.symm), hp] at hp'
      exact absurd hp' (by simp)

/-! ### Columns -/

/-- The value of a column, or of anything read off the row, under a key. -/
def column {β : Type*} (t : KeyedTable key uniq) (proj : ρ → β) (k : ι) : Option β :=
  (t.find? k).map proj

section Column

variable {β : Type*} {proj : ρ → β} {b : β}

omit [DecidableEq υ] in
theorem column_eq_some_iff : t.column proj k = some b ↔ ∃ r, t.find? k = some r ∧ proj r = b :=
  Option.map_eq_some_iff

omit [DecidableEq υ] in
theorem column_of_find? (h : t.find? k = some r) : t.column proj k = some (proj r) := by
  rw [column, h, Option.map_some]

omit [DecidableEq υ] in
/-- Reading a row when its column is known. -/
theorem proj_eq_of_column (h : t.column proj k = some b) (hr : t.find? k = some r) :
    proj r = b :=
  Option.some.inj ((column_of_find? hr).symm.trans h)

omit [DecidableEq υ] in
/-- A statement that maps rows keeps what its function keeps. -/
theorem column_map_rows (hf : ∀ r, key (f r) = key r) (hproj : ∀ r, proj (f r) = proj r)
    (hrows : t'.rows = t.rows.map fun r ↦ if p r then f r else r) (k : ι) :
    t'.column proj k = t.column proj k := by
  rw [column, column, find?_map_rows hf hrows, Option.map_map]
  congr 1
  funext r
  show proj (if p r then f r else r) = proj r
  split
  · exact hproj r
  · rfl

theorem column_update (hf : ∀ r, key (f r) = key r) (hproj : ∀ r, proj (f r) = proj r)
    (h : t.update p f = some t') (k : ι) : t'.column proj k = t.column proj k :=
  column_map_rows hf hproj (rows_update h) k

omit [DecidableEq υ] in
theorem column_modify {hkey : ∀ r, key (f r) = key r} {huniq : ∀ r, uniq (f r) = uniq r}
    (hproj : ∀ r, proj (f r) = proj r) (k : ι) :
    (t.modify p f hkey huniq).column proj k = t.column proj k :=
  column_map_rows hkey hproj rfl k

omit [DecidableEq υ] in
theorem column_modifyKey {hkey : ∀ r, key (f r) = key r} {huniq : ∀ r, uniq (f r) = uniq r}
    (hproj : ∀ r, proj (f r) = proj r) (k' : ι) :
    (t.modifyKey k f hkey huniq).column proj k' = t.column proj k' :=
  column_modify hproj k'

omit [DecidableEq υ] in
/-- An update of one key leaves the other rows alone. -/
theorem column_modifyKey_of_ne {hkey : ∀ r, key (f r) = key r}
    {huniq : ∀ r, uniq (f r) = uniq r} (hne : k' ≠ k) :
    (t.modifyKey k f hkey huniq).column proj k' = t.column proj k' := by
  rw [column, find?_modifyKey, if_neg hne, column]

theorem column_updateKey_of_ne (hf : ∀ r, key (f r) = key r) (h : t.updateKey k f = some t')
    (hne : k' ≠ k) : t'.column proj k' = t.column proj k' := by
  rw [column, find?_updateKey hf h, if_neg hne, column]

end Column

/-! ### When a statement is refused -/

/-- **An update of one row is refused exactly when another row already holds the new value** of the
unique constraint. -/
theorem isSome_updateKey_iff (hf : ∀ r, key (f r) = key r) :
    (t.updateKey k f).isSome ↔
      ∀ r, t.find? k = some r → ∀ u, uniq (f r) = some u →
        ∀ r' ∈ t.rows, key r' ≠ k → uniq r' ≠ some u := by
  have hg : ∀ r, key (if decide (key r = k) then f r else r) = key r := fun r ↦ by
    split <;> simp [hf]
  have hnd : ((t.rows.map fun r ↦ if decide (key r = k) then f r else r).map key).Nodup := by
    have h : (key ∘ fun r ↦ if decide (key r = k) then f r else r) = key := funext hg
    rw [List.map_map, h]
    exact t.nodup_key
  rw [updateKey, update, isSome_ofRows?_iff, and_iff_right hnd, nodup_filterMap_iff hnd]
  constructor
  · intro h r hr u hu r' hr' hne
    obtain ⟨hmem, hk⟩ := find?_eq_some_iff.1 hr
    have h₁ : f r ∈ t.rows.map fun r ↦ if decide (key r = k) then f r else r :=
      List.mem_map.2 ⟨r, hmem, by simp [hk]⟩
    have h₂ : r' ∈ t.rows.map fun r ↦ if decide (key r = k) then f r else r :=
      List.mem_map.2 ⟨r', hr', by simp [hne]⟩
    exact h _ h₁ _ h₂ (by rw [hf, hk]; exact hne.symm) u hu
  · intro h a ha b hb hab u hu hu'
    obtain ⟨r, hr, rfl⟩ := List.mem_map.1 ha
    obtain ⟨r', hr', rfl⟩ := List.mem_map.1 hb
    rw [hg, hg] at hab
    -- Which of the two is the updated row decides who collides with whom.
    rcases eq_or_ne (key r) k with hk | hk <;> rcases eq_or_ne (key r') k with hk' | hk'
    · exact hab (hk.trans hk'.symm)
    · simp only [hk, hk', decide_true, if_true, decide_false, Bool.false_eq_true, if_false]
        at hu hu'
      exact h r (find?_eq_some_iff.2 ⟨hr, hk⟩) u hu r' hr' hk' hu'
    · simp only [hk, hk', decide_true, if_true, decide_false, Bool.false_eq_true, if_false]
        at hu hu'
      exact h r' (find?_eq_some_iff.2 ⟨hr', hk'⟩) u hu' r hr hk hu
    · simp only [hk, hk', decide_false, Bool.false_eq_true, if_false] at hu hu'
      exact hab (congrArg key (t.eq_of_uniq_eq hr hr' hu hu'))

/-- **An insertion is refused exactly when its key or its unique value is taken.** -/
theorem isSome_insert_iff :
    (t.insert r).isSome ↔
      (∀ r' ∈ t.rows, key r' ≠ key r) ∧
        ∀ u, uniq r = some u → ∀ r' ∈ t.rows, uniq r' ≠ some u := by
  rw [insert, isSome_ofRows?_iff, List.map_append, List.filterMap_append, List.nodup_append,
    List.nodup_append]
  constructor
  · rintro ⟨⟨-, -, hk⟩, -, -, hu⟩
    refine ⟨fun r' hr' ↦ hk _ (List.mem_map_of_mem hr') _ (by simp), fun u hr r' hr' hu' ↦ ?_⟩
    exact hu u (List.mem_filterMap.2 ⟨r', hr', hu'⟩) u (by simp [hr]) rfl
  · rintro ⟨hk, hu⟩
    refine ⟨⟨t.nodup_key, by simp, ?_⟩, t.nodup_uniq, ?_, ?_⟩
    · intro a ha b hb
      obtain ⟨r', hr', rfl⟩ := List.mem_map.1 ha
      rw [List.map_singleton, List.mem_singleton] at hb
      exact hb ▸ hk r' hr'
    · rw [List.filterMap_cons]
      split <;> simp
    · intro a ha b hb hab
      obtain ⟨r', hr', hr'a⟩ := List.mem_filterMap.1 ha
      obtain ⟨r'', hr'', hb'⟩ := List.mem_filterMap.1 hb
      rw [List.mem_singleton] at hr''
      exact hu b (hr'' ▸ hb') r' hr' (hab ▸ hr'a)

end Reading

end KeyedTable
