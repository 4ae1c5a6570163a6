import Mathlib.Data.List.Perm.Basic

/-!
# Searching a list from its front

A search goes through a list and stops at the first item that decides it. An item that does not
decide may still leave a note; what the search ends with, where nothing decides it, depends on the
last note.

A list can be searched in any order exactly when the items that decide agree with each other and,
if there are none, those that leave a note do so (`search_perm_iff`).
-/

variable {α β γ : Type*}

/-- The search: `decide` is the outcome at an item that stops it, `noted` what an item leaves
behind, `done` the outcome at the end of the list. -/
def search (decide : α → Option γ) (noted : α → Option β) (done : β → γ) : List α → β → γ
  | [], b => done b
  | a :: as, b => (decide a).getD (search decide noted done as ((noted a).getD b))

/-- The order of the list makes no difference. -/
structure OrderFree (decide : α → Option γ) (noted : α → Option β) (done : β → γ)
    (as : List α) : Prop where
  /-- The items that decide agree. -/
  decided : ∀ a ∈ as, ∀ a' ∈ as, ∀ c c', decide a = some c → decide a' = some c' → c = c'
  /-- If there are none, the notes agree. -/
  noted : (∀ a ∈ as, decide a = none) → ∀ a ∈ as, ∀ a' ∈ as, ∀ b b', noted a = some b →
    noted a' = some b' → done b = done b'

section Search

variable {decide : α → Option γ} {noted : α → Option β} {done : β → γ} {as as' : List α} {b : β}
  {c : γ}

/-- What is done with the outcome of a search can be done at each item. -/
theorem map_search {δ : Type*} (g : γ → δ) :
    g (search decide noted done as b) =
      search (fun a ↦ (decide a).map g) noted (fun b ↦ g (done b)) as b := by
  induction as generalizing b with
  | nil => rfl
  | cons a as ih =>
    rw [search, search, ← ih]
    cases decide a with
    | none => rfl
    | some c => rfl

/-- A search that something decides has the outcome of an item that decides. -/
theorem exists_search_eq (noted : α → Option β) (done : β → γ) (b : β)
    (h : ∃ a ∈ as, decide a ≠ none) :
    ∃ a ∈ as, decide a = some (search decide noted done as b) := by
  induction as generalizing b with
  | nil => exact absurd h (by simp)
  | cons a as ih =>
    rw [search]
    cases ha : decide a with
    | some c => exact ⟨a, List.mem_cons_self, ha⟩
    | none =>
      obtain ⟨a', ha', hdec⟩ := h
      have hmem : a' ∈ as := (List.mem_cons.1 ha').resolve_left fun heq ↦ hdec (heq ▸ ha)
      obtain ⟨a₁, ha₁, h₁⟩ := ih ((noted a).getD b) ⟨a', hmem, hdec⟩
      exact ⟨a₁, List.mem_cons_of_mem a ha₁, h₁⟩

/-- A search that nothing decides ends with a note, or with what it began with. -/
theorem search_undecided (noted : α → Option β) (done : β → γ) (b : β)
    (h : ∀ a ∈ as, decide a = none) :
    (∃ a ∈ as, ∃ b', noted a = some b' ∧ search decide noted done as b = done b') ∨
      (∀ a ∈ as, noted a = none) ∧ search decide noted done as b = done b := by
  induction as generalizing b with
  | nil => exact .inr ⟨fun _ ha ↦ absurd ha List.not_mem_nil, rfl⟩
  | cons a as ih =>
    obtain ⟨ha, has⟩ := List.forall_mem_cons.1 h
    rw [search, ha, Option.getD_none]
    rcases ih ((noted a).getD b) has with ⟨a', ha', b', hb', hend⟩ | ⟨hnone, hend⟩
    · exact .inl ⟨a', List.mem_cons_of_mem a ha', b', hb', hend⟩
    · cases hnote : noted a with
      | none =>
        rw [hnote] at hend
        exact .inr ⟨List.forall_mem_cons.2 ⟨hnote, hnone⟩, hend⟩
      | some b' =>
        rw [hnote] at hend
        exact .inl ⟨a, List.mem_cons_self, b', hnote, hend⟩

/-- The last item has the last word. -/
theorem search_concat_undecided {a : α} {b' : β} (h : ∀ a ∈ as, decide a = none)
    (ha : decide a = none) (hnote : noted a = some b') :
    search decide noted done (as ++ [a]) b = done b' := by
  induction as generalizing b with
  | nil =>
    show (decide a).getD (done ((noted a).getD b)) = done b'
    rw [ha, hnote]
    rfl
  | cons a₁ as ih =>
    obtain ⟨ha₁, has⟩ := List.forall_mem_cons.1 h
    rw [List.cons_append, search, ha₁, Option.getD_none]
    exact ih has

/-- **A list can be searched in any order** exactly when its items leave no choice. -/
theorem search_perm_iff :
    (∀ as' : List α, as.Perm as' →
      search decide noted done as' b = search decide noted done as b) ↔
        OrderFree decide noted done as := by
  constructor
  · intro h
    -- an item may come first, or last
    have hfirst : ∀ a ∈ as, ∀ c, decide a = some c → search decide noted done as b = c := by
      intro a ha c hc
      obtain ⟨l₁, l₂, rfl⟩ := List.append_of_mem ha
      rw [← h (a :: (l₁ ++ l₂)) List.perm_middle, search, hc, Option.getD_some]
    have hlast : (∀ a ∈ as, decide a = none) → ∀ a ∈ as, ∀ b', noted a = some b' →
        search decide noted done as b = done b' := by
      intro hnone a ha b' hb'
      obtain ⟨l₁, l₂, rfl⟩ := List.append_of_mem ha
      have hmove : (l₁ ++ a :: l₂).Perm (l₁ ++ l₂ ++ [a]) :=
        List.perm_middle.trans (List.perm_append_singleton a (l₁ ++ l₂)).symm
      rw [← h _ hmove]
      refine search_concat_undecided (fun a' ha' ↦ hnone a' ?_) (hnone a ha) hb'
      rcases List.mem_append.1 ha' with h₁ | h₂
      · exact List.mem_append_left _ h₁
      · exact List.mem_append_right _ (List.mem_cons_of_mem a h₂)
    refine ⟨fun a ha a' ha' c c' hc hc' ↦ ?_, fun hnone a ha a' ha' b₁ b₂ h₁ h₂ ↦ ?_⟩
    · exact (hfirst a ha c hc).symm.trans (hfirst a' ha' c' hc')
    · exact (hlast hnone a ha b₁ h₁).symm.trans (hlast hnone a' ha' b₂ h₂)
  · intro h as' hperm
    by_cases hdec : ∃ a ∈ as, decide a ≠ none
    · obtain ⟨a, ha, heq⟩ := exists_search_eq noted done b hdec
      have hdec' : ∃ a ∈ as', decide a ≠ none := by
        obtain ⟨a₁, ha₁, h₁⟩ := hdec
        exact ⟨a₁, hperm.mem_iff.1 ha₁, h₁⟩
      obtain ⟨a', ha', heq'⟩ := exists_search_eq noted done b hdec'
      exact h.decided a' (hperm.mem_iff.2 ha') a ha _ _ heq' heq
    · have hnone : ∀ a ∈ as, decide a = none := fun a ha ↦ by_contra fun hne ↦ hdec ⟨a, ha, hne⟩
      have hnone' : ∀ a ∈ as', decide a = none := fun a ha ↦ hnone a (hperm.mem_iff.2 ha)
      rcases search_undecided noted done b hnone with
        ⟨a, ha, b₁, hb₁, heq⟩ | ⟨hempty, heq⟩
      · rcases search_undecided noted done b hnone' with
          ⟨a', ha', b₂, hb₂, heq'⟩ | ⟨hempty', -⟩
        · rw [heq, heq']
          exact h.noted hnone a' (hperm.mem_iff.2 ha') a ha b₂ b₁ hb₂ hb₁
        · rw [hempty' a (hperm.mem_iff.1 ha)] at hb₁
          exact absurd hb₁ (by simp)
      · rcases search_undecided noted done b hnone' with
          ⟨a', ha', b₂, hb₂, -⟩ | ⟨-, heq'⟩
        · rw [hempty a' (hperm.mem_iff.2 ha')] at hb₂
          exact absurd hb₂ (by simp)
        · rw [heq, heq']

end Search
