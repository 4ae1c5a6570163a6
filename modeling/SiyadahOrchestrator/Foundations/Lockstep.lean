import SiyadahOrchestrator.Foundations.Dialogue

/-!
# Two runs side by side

What a program reveals of a secret is a question about two of its runs: they meet peers whose
replies differ in the secret only, and what comes out is compared. `Alike S P m m'` says that this
comparison yields `P`, where `S` relates the exchanges of the one run to those of the other,
position by position. Runs that raise are not compared.

The rules take a comparison of two long programs apart into comparisons of their parts
(`Alike.bind`, `alike_ask`, `alike_lift`). A part whose replies the peers agree on is compared with
itself (`alike_self`).

A program may write to its state what it never decides by, such as a counter for names.
`Repeats P m m'` says that `m'` can be begun in any state where `m` returns, and returns after the
same exchanges.
-/

namespace Dialogue

variable {Q R σ ε α β : Type}

/-! ### Alignment -/

/-- The exchanges that have the same position are related. -/
def Aligned (S : Q × R → Q × R → Prop) (l l' : List (Q × R)) : Prop :=
  ∀ (i : ℕ) e e', l[i]? = some e → l'[i]? = some e' → S e e'

section Aligned

variable {S : Q × R → Q × R → Prop} {l l' k k' : List (Q × R)}

theorem Aligned.head {e e' : Q × R} (h : Aligned S (e :: l) (e' :: l')) : S e e' := h 0 e e' rfl rfl

theorem Aligned.tail {e e' : Q × R} (h : Aligned S (e :: l) (e' :: l')) : Aligned S l l' :=
  fun i e₁ e₂ h₁ h₂ ↦ h (i + 1) e₁ e₂ h₁ h₂

theorem Aligned.left (h : Aligned S (l ++ k) (l' ++ k')) : Aligned S l l' := by
  intro i e e' he he'
  refine h i e e' ?_ ?_
  · rw [List.getElem?_append_left (List.getElem?_eq_some_iff.1 he).1]
    exact he
  · rw [List.getElem?_append_left (List.getElem?_eq_some_iff.1 he').1]
    exact he'

theorem Aligned.right (h : Aligned S (l ++ k) (l' ++ k')) (hlength : l.length = l'.length) :
    Aligned S k k' := by
  intro i e e' he he'
  refine h (l.length + i) e e' ?_ ?_
  · rw [List.getElem?_append_right (by omega), Nat.add_sub_cancel_left]
    exact he
  · rw [hlength, List.getElem?_append_right (by omega), Nat.add_sub_cancel_left]
    exact he'

end Aligned

/-! ### Comparison -/

/-- Two runs with related exchanges that both return make equally many exchanges and return related
values. -/
def Alike (S : Q × R → Q × R → Prop) (P : α → β → Prop) (m : Dialogue Q R σ ε α)
    (m' : Dialogue Q R σ ε β) : Prop :=
  ∀ s s' l l' a a' t t', m.Runs s l (.ok a) t → m'.Runs s' l' (.ok a') t' → Aligned S l l' →
    P a a' ∧ l.length = l'.length

section Rules

variable {S : Q × R → Q × R → Prop} {P : α → β → Prop} {m : Dialogue Q R σ ε α}
  {m' : Dialogue Q R σ ε β}

theorem Alike.mono {P' : α → β → Prop} (h : Alike S P m m') (hP : ∀ a a', P a a' → P' a a') :
    Alike S P' m m' := by
  intro s s' l l' a a' t t' hrun hrun' halign
  obtain ⟨hPa, hlength⟩ := h s s' l l' a a' t t' hrun hrun' halign
  exact ⟨hP a a' hPa, hlength⟩

theorem alike_lift {x : Except ε α} {y : Except ε β}
    (h : ∀ a a', x = .ok a → y = .ok a' → P a a') :
    Alike S P (lift x : Dialogue Q R σ ε α) (lift y) := by
  intro s s' l l' a a' t t' hrun hrun' _
  obtain ⟨rfl, ha, -⟩ := runs_lift_iff.1 hrun
  obtain ⟨rfl, ha', -⟩ := runs_lift_iff.1 hrun'
  exact ⟨h a a' ha.symm ha'.symm, rfl⟩

theorem alike_pure {a : α} {a' : β} (h : P a a') :
    Alike S P (pure a : Dialogue Q R σ ε α) (pure a') := by
  intro s s' l l' b b' t t' hrun hrun' _
  obtain ⟨rfl, hb, -⟩ := runs_pure_iff.1 hrun
  obtain ⟨rfl, hb', -⟩ := runs_pure_iff.1 hrun'
  obtain rfl := Except.ok.inj hb
  obtain rfl := Except.ok.inj hb'
  exact ⟨h, rfl⟩

/-- A program that raises is not compared. -/
theorem alike_raise {e : ε} : Alike S P (raise e : Dialogue Q R σ ε α) m' := by
  intro s s' l l' a a' t t' hrun _ _
  exact absurd (runs_raise_iff.1 hrun).2.1 (by simp)

theorem alike_raise_right {e : ε} : Alike S P m (raise e : Dialogue Q R σ ε β) := by
  intro s s' l l' a a' t t' _ hrun' _
  exact absurd (runs_raise_iff.1 hrun').2.1 (by simp)

theorem alike_ask {P : R → R → Prop} {q q' : Q} (h : ∀ r r', S (q, r) (q', r') → P r r') :
    Alike S P (ask q : Dialogue Q R σ ε R) (ask q') := by
  intro s s' l l' a a' t t' hrun hrun' halign
  obtain ⟨r, rfl, ha, -⟩ := runs_ask_iff.1 hrun
  obtain ⟨r', rfl, ha', -⟩ := runs_ask_iff.1 hrun'
  obtain rfl := Except.ok.inj ha
  obtain rfl := Except.ok.inj ha'
  exact ⟨h a a' halign.head, rfl⟩

/-- **Sequencing.** The first parts are compared first; the others then begin at one position. -/
theorem Alike.bind {γ δ : Type} {P' : γ → δ → Prop} {f : α → Dialogue Q R σ ε γ}
    {f' : β → Dialogue Q R σ ε δ} (h : Alike S P m m')
    (hf : ∀ a a', P a a' → Alike S P' (f a) (f' a')) : Alike S P' (m >>= f) (m' >>= f') := by
  intro s s' l l' c c' t t' hrun hrun' halign
  obtain ⟨l₁, l₂, a, u, rfl, h₁, h₂⟩ := runs_bind_ok_iff.1 hrun
  obtain ⟨l₁', l₂', a', u', rfl, h₁', h₂'⟩ := runs_bind_ok_iff.1 hrun'
  obtain ⟨ha, hlength⟩ := h _ _ _ _ _ _ _ _ h₁ h₁' halign.left
  obtain ⟨hc, hlength'⟩ := hf a a' ha _ _ _ _ _ _ _ _ h₂ h₂' (halign.right hlength)
  refine ⟨hc, ?_⟩
  rw [List.length_append, List.length_append, hlength, hlength']

theorem alike_getState : Alike S (fun _ _ ↦ True) (getState : Dialogue Q R σ ε σ) getState := by
  intro s s' l l' a a' t t' hrun hrun' _
  obtain ⟨rfl, -⟩ := runs_getState_iff.1 hrun
  obtain ⟨rfl, -⟩ := runs_getState_iff.1 hrun'
  exact ⟨trivial, rfl⟩

theorem alike_setState {u u' : σ} :
    Alike S (fun _ _ ↦ True) (setState u : Dialogue Q R σ ε Unit) (setState u') := by
  intro s s' l l' a a' t t' hrun hrun' _
  obtain ⟨rfl, -⟩ := runs_setState_iff.1 hrun
  obtain ⟨rfl, -⟩ := runs_setState_iff.1 hrun'
  exact ⟨trivial, rfl⟩

/-- What a handler makes of an exception that it raises again is not compared. -/
theorem Alike.handle {h : ε → Dialogue Q R σ ε α} {h' : ε → Dialogue Q R σ ε β}
    (hm : Alike S P m m') (hh : ∀ e s l a t, ¬ (h e).Runs s l (.ok a) t)
    (hh' : ∀ e s l a t, ¬ (h' e).Runs s l (.ok a) t) :
    Alike S P (m.handle h) (m'.handle h') := by
  intro s s' l l' a a' t t' hrun hrun' halign
  rcases runs_handle_iff.1 hrun with ⟨b, hb, h₁⟩ | ⟨_, _, e, u, -, -, h₂⟩
  · obtain rfl := Except.ok.inj hb
    rcases runs_handle_iff.1 hrun' with ⟨b', hb', h₁'⟩ | ⟨_, _, e, u, -, -, h₂'⟩
    · obtain rfl := Except.ok.inj hb'
      exact hm s s' l l' a a' t t' h₁ h₁' halign
    · exact absurd h₂' (hh' e u _ a' t')
  · exact absurd h₂ (hh e u _ a t)

theorem Alike.rename {Q' : Type} {g : Q → Q'} {S' : Q' × R → Q' × R → Prop}
    (h : Alike S P m m') (hS : ∀ e e', S' (Prod.map g id e) (Prod.map g id e') → S e e') :
    Alike S' P (m.rename g) (m'.rename g) := by
  intro s s' l l' a a' t t' hrun hrun' halign
  obtain ⟨k, rfl, hk⟩ := runs_rename_iff.1 hrun
  obtain ⟨k', rfl, hk'⟩ := runs_rename_iff.1 hrun'
  obtain ⟨hP, hlength⟩ := h s s' k k' a a' t t' hk hk' fun i e e' he he' ↦ hS e e' <|
    halign i _ _ (by rw [List.getElem?_map, he]; rfl) (by rw [List.getElem?_map, he']; rfl)
  exact ⟨hP, by rw [List.length_map, List.length_map, hlength]⟩

end Rules

/-! ### A program and itself -/

theorem Talk.lockstep {S : Q × R → Q × R → Prop} {p : Talk Q R α} {l l' : List (Q × R)} {x x' : α}
    (h : p.Runs l x) (h' : p.Runs l' x') (halign : Aligned S l l')
    (hS : ∀ q r r', (q, r) ∈ l → S (q, r) (q, r') → r = r') : l = l' ∧ x = x' := by
  induction p generalizing l l' with
  | done a =>
    obtain ⟨rfl, rfl⟩ := h
    obtain ⟨rfl, rfl⟩ := h'
    exact ⟨rfl, rfl⟩
  | ask q k ih =>
    obtain ⟨r, l₁, rfl, h⟩ := h
    obtain ⟨r', l₁', rfl, h'⟩ := h'
    obtain rfl := hS q r r' List.mem_cons_self halign.head
    obtain ⟨rfl, rfl⟩ := ih r h h' halign.tail fun q' r₁ r₂ hmem ↦
      hS q' r₁ r₂ (List.mem_cons_of_mem _ hmem)
    exact ⟨rfl, rfl⟩

/-- **A program without a state that is given the same replies returns the same.** -/
theorem alike_self {S : Q × R → Q × R → Prop} {K : Q → Prop} {m : Dialogue Q R σ ε α}
    (hsends : Sends K m) (hstateless : Stateless m)
    (hS : ∀ q r r', K q → S (q, r) (q, r') → r = r') : Alike S (· = ·) m m := by
  intro s s' l l' a a' t t' hrun hrun' halign
  have hrun₁ := (hstateless s' l' _ t' hrun').2 s
  obtain ⟨rfl, hx⟩ := Talk.lockstep hrun hrun₁ halign fun q r r' hmem ↦
    hS q r r' (hsends s l _ t hrun _ hmem)
  exact ⟨Except.ok.inj (Prod.mk.inj hx).1, rfl⟩

/-! ### Other states -/

/-- Where the first program returns, the second one returns after the same exchanges, whatever state
it begins in. -/
def Repeats (P : α → β → Prop) (m : Dialogue Q R σ ε α) (m' : Dialogue Q R σ ε β) : Prop :=
  ∀ s l a t, m.Runs s l (.ok a) t → ∀ s', ∃ a' t', m'.Runs s' l (.ok a') t' ∧ P a a'

section Repeats

variable {P : α → β → Prop} {m : Dialogue Q R σ ε α} {m' : Dialogue Q R σ ε β}

theorem repeats_pure {a : α} {a' : β} (h : P a a') :
    Repeats P (pure a : Dialogue Q R σ ε α) (pure a') := by
  intro s l b t hrun s'
  obtain ⟨rfl, hb, -⟩ := runs_pure_iff.1 hrun
  obtain rfl := Except.ok.inj hb
  exact ⟨a', s', runs_pure_iff.2 ⟨rfl, rfl, rfl⟩, h⟩

/-- A program that raises need not be repeated. -/
theorem repeats_raise {e : ε} : Repeats P (raise e : Dialogue Q R σ ε α) m' := by
  intro s l a t hrun _
  exact absurd (runs_raise_iff.1 hrun).2.1 (by simp)

/-- A program without a state repeats itself. -/
theorem Stateless.repeats (h : Stateless m) : Repeats (· = ·) m m := by
  intro s l a t hrun s'
  exact ⟨a, s', (h s l _ t hrun).2 s', rfl⟩

theorem repeats_getState :
    Repeats (fun _ _ ↦ True) (getState : Dialogue Q R σ ε σ) getState := by
  intro s l a t hrun s'
  obtain ⟨rfl, -⟩ := runs_getState_iff.1 hrun
  exact ⟨s', s', runs_getState_iff.2 ⟨rfl, rfl, rfl⟩, trivial⟩

theorem repeats_setState {u u' : σ} :
    Repeats (fun _ _ ↦ True) (setState u : Dialogue Q R σ ε Unit) (setState u') := by
  intro s l a t hrun s'
  obtain ⟨rfl, -⟩ := runs_setState_iff.1 hrun
  exact ⟨(), u', runs_setState_iff.2 ⟨rfl, rfl, rfl⟩, trivial⟩

theorem Repeats.bind {γ δ : Type} {P' : γ → δ → Prop} {f : α → Dialogue Q R σ ε γ}
    {f' : β → Dialogue Q R σ ε δ} (h : Repeats P m m')
    (hf : ∀ a a', P a a' → Repeats P' (f a) (f' a')) : Repeats P' (m >>= f) (m' >>= f') := by
  intro s l c t hrun s'
  obtain ⟨l₁, l₂, a, u, rfl, h₁, h₂⟩ := runs_bind_ok_iff.1 hrun
  obtain ⟨a', u', h₁', ha⟩ := h s l₁ a u h₁ s'
  obtain ⟨c', t', h₂', hc⟩ := hf a a' ha u l₂ c t h₂ u'
  exact ⟨c', t', runs_bind_ok_iff.2 ⟨l₁, l₂, a', u', rfl, h₁', h₂'⟩, hc⟩

/-- A handler that raises again does not matter. -/
theorem Repeats.handle {h : ε → Dialogue Q R σ ε α} {h' : ε → Dialogue Q R σ ε β}
    (hm : Repeats P m m') (hh : ∀ e s l a t, ¬ (h e).Runs s l (.ok a) t) :
    Repeats P (m.handle h) (m'.handle h') := by
  intro s l a t hrun s'
  rcases runs_handle_iff.1 hrun with ⟨b, hb, h₁⟩ | ⟨_, _, e, u, -, -, h₂⟩
  · obtain rfl := Except.ok.inj hb
    obtain ⟨a', t', h₁', ha⟩ := hm s l a t h₁ s'
    exact ⟨a', t', runs_handle_iff.2 (.inl ⟨a', rfl, h₁'⟩), ha⟩
  · exact absurd h₂ (hh e u _ a t)

end Repeats

end Dialogue
