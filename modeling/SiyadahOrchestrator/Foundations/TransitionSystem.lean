import Mathlib.Data.List.Basic
import Mathlib.Data.List.Induction

/-!
# Executable transition systems

A transition system whose successor is computed: `step s a` is the state that action `a` leads to
from `s`, and `none` where `a` is not enabled. Nondeterminism lives in the actions, so a run is a
list of actions and a schedule can be evaluated.

## Runs that meet a condition

Safety results about a faulty system hold on the runs that avoid the fault, so the run predicate is
paired with a condition on steps: `M.Meets C s as` says that every step of the run `as` from `s` is
taken in a state where `C` allows it. `C` reads the state *before* the step and the action, nothing
else.

* `Meets` is decidable when `C` is, so a concrete schedule can be checked by evaluation;
* `invariant_of_run` is the induction every safety proof goes through: what one allowed step
  preserves, a whole allowed run preserves;
* `iff_meets_of_run` and `always_iff_meets` say that a condition is exact.

## What a run has done

A state forgets. `M.trace ev s as` lists the events that `ev` reads off the steps of a run, and
`M.Visits Q s as` says that the run has passed through a state where `Q` holds. `history_of_run` is
the run lemma for assertions about the past: they may speak of the actions performed so far.

## Two systems

`exists_run_of_simulation` matches the runs of one system by runs of another, a step by any number
of steps.
-/

/-- A transition system with computed successors. -/
structure TransitionSystem (σ : Type*) (α : Type*) where
  /-- The state after an action, if the action is enabled. -/
  step : σ → α → Option σ

namespace TransitionSystem

variable {σ α : Type*} (M : TransitionSystem σ α)

/-! ### Runs -/

/-- Perform the actions in order; `none` as soon as one is not enabled. -/
def run : σ → List α → Option σ
  | s, [] => some s
  | s, a :: as => (M.step s a).bind fun t ↦ run t as

@[simp] theorem run_nil (s : σ) : M.run s [] = some s := rfl

@[simp] theorem run_cons (s : σ) (a : α) (as : List α) :
    M.run s (a :: as) = (M.step s a).bind fun t ↦ M.run t as := rfl

theorem run_append (s : σ) (as bs : List α) :
    M.run s (as ++ bs) = (M.run s as).bind fun t ↦ M.run t bs := by
  induction as generalizing s with
  | nil => rfl
  | cons a as ih =>
    rw [List.cons_append, run_cons, run_cons, Option.bind_assoc]
    exact congrArg _ (funext fun t ↦ ih t)

theorem run_concat_eq_some {s t : σ} {as : List α} {a : α} :
    M.run s (as ++ [a]) = some t ↔ ∃ u, M.run s as = some u ∧ M.step u a = some t := by
  simp [run_append, Option.bind_eq_some_iff]

/-! ### Conditions on the steps of a run -/

/-- Every step of the run is taken in a state where `C` allows it. Nothing is asked of the actions
after one that is not enabled. -/
def Meets (C : σ → α → Prop) : σ → List α → Prop
  | _, [] => True
  | s, a :: as => C s a ∧
    match M.step s a with
    | some t => Meets C t as
    | none => True

variable {M} {C : σ → α → Prop}

/-- Checking a concrete schedule is evaluation. -/
instance Meets.instDecidable [∀ s a, Decidable (C s a)] :
    ∀ (s : σ) (as : List α), Decidable (M.Meets C s as)
  | _, [] => .isTrue trivial
  | s, a :: as => by
    unfold Meets
    cases M.step s a with
    | none => exact inferInstanceAs (Decidable (C s a ∧ True))
    | some t =>
      have := Meets.instDecidable t as
      exact inferInstanceAs (Decidable (C s a ∧ M.Meets C t as))

theorem Meets.head {s : σ} {a : α} {as : List α} (h : M.Meets C s (a :: as)) : C s a := h.1

theorem Meets.tail {s t : σ} {a : α} {as : List α} (h : M.Meets C s (a :: as))
    (ht : M.step s a = some t) : M.Meets C t as := by
  have h2 := h.2
  rwa [ht] at h2

/-- A run meets a condition when its two parts do. -/
theorem Meets.of_append {s t : σ} {as bs : List α} (h : M.Meets C s (as ++ bs))
    (hrun : M.run s as = some t) : M.Meets C s as ∧ M.Meets C t bs := by
  induction as generalizing s with
  | nil =>
    obtain rfl := Option.some.inj hrun
    exact ⟨trivial, h⟩
  | cons a as ih =>
    obtain ⟨u, hu, hrest⟩ := Option.bind_eq_some_iff.1 hrun
    obtain ⟨has, hbs⟩ := ih (h.tail hu) hrest
    refine ⟨⟨h.head, ?_⟩, hbs⟩
    rwa [hu]

/-- A weaker condition is met by the same runs. -/
theorem Meets.mono {D : σ → α → Prop} (hCD : ∀ s a, C s a → D s a) {s : σ} {as : List α}
    (h : M.Meets C s as) : M.Meets D s as := by
  induction as generalizing s with
  | nil => trivial
  | cons a as ih =>
    refine ⟨hCD s a h.head, ?_⟩
    cases hst : M.step s a with
    | none => trivial
    | some t => exact ih (h.tail hst)

/-- A condition on the actions alone may be checked on the list. -/
theorem Meets.and_of_forall {D : α → Prop} {s : σ} {as : List α} (h : M.Meets C s as)
    (hD : ∀ a ∈ as, D a) : M.Meets (fun s a ↦ C s a ∧ D a) s as := by
  induction as generalizing s with
  | nil => trivial
  | cons a as ih =>
    refine ⟨⟨h.head, hD a List.mem_cons_self⟩, ?_⟩
    cases hst : M.step s a with
    | none => trivial
    | some t => exact ih (h.tail hst) fun b hb ↦ hD b (List.mem_cons_of_mem a hb)

/-- Conditions that agree wherever a third one holds are met by the same runs among those that meet
the third. -/
theorem Meets.congr_of {F D : σ → α → Prop} (h : ∀ s a, F s a → (C s a ↔ D s a)) {s : σ}
    {as : List α} (hF : M.Meets F s as) : M.Meets C s as ↔ M.Meets D s as := by
  induction as generalizing s with
  | nil => exact Iff.rfl
  | cons a as ih =>
    refine and_congr (h s a hF.head) ?_
    cases hst : M.step s a with
    | none => exact Iff.rfl
    | some t => exact ih (hF.tail hst)

/-! ### Invariants -/

/-- **The run lemma.** A property that every allowed step preserves holds after every allowed
run. -/
theorem invariant_of_run {Inv : σ → Prop}
    (hstep : ∀ s a t, Inv s → C s a → M.step s a = some t → Inv t)
    {s t : σ} {as : List α} (h₀ : Inv s) (hC : M.Meets C s as) (hrun : M.run s as = some t) :
    Inv t := by
  induction as generalizing s with
  | nil =>
    rw [run_nil, Option.some.injEq] at hrun
    exact hrun ▸ h₀
  | cons a as ih =>
    obtain ⟨u, hu, hrest⟩ := Option.bind_eq_some_iff.1 hrun
    exact ih (hstep s a u h₀ hC.head hu) (hC.tail hu) hrest

/-- A property that allowed steps preserve under an invariant holds after every allowed run. -/
theorem relative_invariant_of_run {Inv J : σ → Prop}
    (hInv : ∀ s a t, Inv s → C s a → M.step s a = some t → Inv t)
    (hJ : ∀ s a t, Inv s → J s → C s a → M.step s a = some t → J t)
    {s t : σ} {as : List α} (h₀ : Inv s) (hj₀ : J s) (hC : M.Meets C s as)
    (hrun : M.run s as = some t) : J t := by
  have hboth : Inv t ∧ J t := invariant_of_run
    (fun s a t (h : Inv s ∧ J s) hCa hst ↦ ⟨hInv s a t h.1 hCa hst, hJ s a t h.1 h.2 hCa hst⟩)
    ⟨h₀, hj₀⟩ hC hrun
  exact hboth.2

/-- **The exact condition.** If, under an invariant, `J` holds after a step exactly when it held
before and the step is allowed, then `J` holds after a run exactly when it held before and the whole
run is allowed. -/
theorem iff_meets_of_run {Inv J : σ → Prop} (hInv : ∀ s a t, Inv s → M.step s a = some t → Inv t)
    (hJ : ∀ s a t, Inv s → M.step s a = some t → (J t ↔ J s ∧ C s a))
    {s t : σ} {as : List α} (h₀ : Inv s) (hrun : M.run s as = some t) :
    J t ↔ J s ∧ M.Meets C s as := by
  induction as generalizing s with
  | nil =>
    obtain rfl := Option.some.inj hrun
    exact (and_iff_left trivial).symm
  | cons a as ih =>
    obtain ⟨u, hu, hrest⟩ := Option.bind_eq_some_iff.1 hrun
    have htail : M.Meets C s (a :: as) ↔ C s a ∧ M.Meets C u as := by
      rw [Meets, hu]
    rw [ih (hInv s a u h₀ hu) hrest, hJ s a u h₀ hu, htail, and_assoc]

variable (M) in
/-- The property holds in every state that the run passes through. -/
def Always (J : σ → Prop) (s : σ) (as : List α) : Prop :=
  ∀ bs, bs <+: as → ∀ u, M.run s bs = some u → J u

/-- **The exact condition, all along a run.** If allowed steps keep an invariant that gives `J`, and
no other step from a state with the invariant leads to `J`, then `J` holds all along a run exactly
when the whole run is allowed. -/
theorem always_iff_meets {Inv J : σ → Prop} (hJ : ∀ s, Inv s → J s)
    (hkeep : ∀ s a t, Inv s → C s a → M.step s a = some t → Inv t)
    (honly : ∀ s a t, Inv s → M.step s a = some t → J t → C s a)
    {s t : σ} {as : List α} (h₀ : Inv s) (hrun : M.run s as = some t) :
    M.Always J s as ↔ M.Meets C s as := by
  induction as generalizing s with
  | nil =>
    refine iff_of_true (fun bs hbs u hu ↦ ?_) trivial
    rw [List.prefix_nil.1 hbs, run_nil, Option.some.injEq] at hu
    exact hu ▸ hJ s h₀
  | cons a as ih =>
    obtain ⟨u, hu, hrest⟩ := Option.bind_eq_some_iff.1 hrun
    have htail : M.Meets C s (a :: as) ↔ C s a ∧ M.Meets C u as := by
      rw [Meets, hu]
    rw [htail]
    constructor
    · intro h
      have hallowed : C s a := by
        refine honly s a u h₀ hu (h [a] (List.prefix_append [a] as) u ?_)
        rw [run_cons, hu]
        rfl
      refine ⟨hallowed, (ih (hkeep s a u h₀ hallowed hu) hrest).1 fun bs hbs v hv ↦ ?_⟩
      refine h (a :: bs) (List.cons_prefix_cons.2 ⟨rfl, hbs⟩) v ?_
      rw [run_cons, hu]
      exact hv
    · rintro ⟨hallowed, hmeets⟩ bs hbs v hv
      cases bs with
      | nil => exact Option.some.inj hv ▸ hJ s h₀
      | cons b bs =>
        obtain ⟨rfl, hbs'⟩ := List.cons_prefix_cons.1 hbs
        rw [run_cons, hu] at hv
        exact (ih (hkeep s b u h₀ hallowed hu) hrest).2 hmeets bs hbs' v hv

/-- The run lemma without a condition. -/
theorem invariant_of_run' {Inv : σ → Prop} (hstep : ∀ s a t, Inv s → M.step s a = some t → Inv t)
    {s t : σ} {as : List α} (h₀ : Inv s) (hrun : M.run s as = some t) : Inv t := by
  refine invariant_of_run (C := fun _ _ ↦ True) (fun s a t hs _ ↦ hstep s a t hs) h₀ ?_ hrun
  clear hrun h₀
  induction as generalizing s with
  | nil => trivial
  | cons a as ih =>
    refine ⟨trivial, ?_⟩
    cases M.step s a with
    | none => trivial
    | some t => exact ih

/-! ### The past of a run -/

section History

variable {β : Type*} {s t u : σ} {as bs : List α} {a : α}

variable (M) in
/-- The events that `ev` reads off the steps of a run, in order. -/
def trace (ev : σ → α → Option β) : σ → List α → List β
  | _, [] => []
  | s, a :: as => ((M.step s a).elim [] fun t ↦ (ev s a).toList ++ trace ev t as)

variable (M) in
/-- The run has passed through a state where `Q` holds. -/
def Visits (Q : σ → Prop) (s : σ) (as : List α) : Prop :=
  ∃ bs, bs <+: as ∧ ∃ u, M.run s bs = some u ∧ Q u

/-- The events of a run and of one more step. -/
theorem trace_concat {ev : σ → α → Option β} (hrun : M.run s as = some u)
    (hstep : M.step u a = some t) :
    M.trace ev s (as ++ [a]) = M.trace ev s as ++ (ev u a).toList := by
  induction as generalizing s with
  | nil =>
    obtain rfl := Option.some.inj hrun
    show (M.step s a).elim [] (fun t ↦ (ev s a).toList ++ []) = (ev s a).toList
    rw [hstep]
    exact List.append_nil _
  | cons b bs ih =>
    obtain ⟨v, hv, hrest⟩ := Option.bind_eq_some_iff.1 hrun
    rw [List.cons_append, trace, trace, hv]
    show (ev s b).toList ++ M.trace ev v (bs ++ [a]) = _
    rw [ih hrest, ← List.append_assoc]
    rfl

/-- Nothing happens on a run whose steps do not make it happen. -/
theorem trace_eq_nil {ev : σ → α → Option β} {Inv : σ → Prop}
    (hstep : ∀ s a t, Inv s → M.step s a = some t → Inv t ∧ ev s a = none) (h₀ : Inv s) :
    M.trace ev s as = [] := by
  induction as generalizing s with
  | nil => rfl
  | cons a as ih =>
    rw [trace]
    rcases hst : M.step s a with - | t
    · rfl
    · obtain ⟨hInv, hev⟩ := hstep s a t h₀ hst
      show (ev s a).toList ++ M.trace ev t as = []
      rw [hev, ih hInv]
      rfl

/-- What a run has passed through, a longer run has passed through. -/
theorem Visits.append {Q : σ → Prop} (h : M.Visits Q s as) : M.Visits Q s (as ++ bs) := by
  obtain ⟨cs, hcs, u, hu, hQ⟩ := h
  exact ⟨cs, hcs.trans (List.prefix_append as bs), u, hu, hQ⟩

/-- A run has passed through its last state. -/
theorem Visits.of_run {Q : σ → Prop} (hrun : M.run s as = some u) (hQ : Q u) : M.Visits Q s as :=
  ⟨as, List.prefix_rfl, u, hrun, hQ⟩

/-- **The run lemma for assertions about the past.** -/
theorem history_of_run {J : List α → σ → Prop} (h₀ : J [] s)
    (hstep : ∀ as a u t, M.run s as = some u → J as u → M.step u a = some t → J (as ++ [a]) t)
    (hrun : M.run s as = some t) : J as t := by
  induction as using List.reverseRecOn generalizing t with
  | nil =>
    obtain rfl := Option.some.inj hrun
    exact h₀
  | append_singleton as a ih =>
    obtain ⟨u, hu, hst⟩ := M.run_concat_eq_some.1 hrun
    exact hstep as a u t hu (ih hu) hst

end History

/-! ### Simulation -/

/-- **The simulation rule.** If every step that `D` allows of one system is matched by a run of
another, then so is every run of such steps. -/
theorem exists_run_of_simulation {τ β : Type*} {N : TransitionSystem τ β} {R : σ → τ → Prop}
    {D : α → Prop}
    (hsim : ∀ s t a s', R s t → D a → M.step s a = some s' →
      ∃ bs t', N.run t bs = some t' ∧ R s' t')
    {s s' : σ} {t : τ} {as : List α} (h₀ : R s t) (hD : ∀ a ∈ as, D a)
    (hrun : M.run s as = some s') : ∃ bs t', N.run t bs = some t' ∧ R s' t' := by
  induction as generalizing s t with
  | nil =>
    obtain rfl := Option.some.inj hrun
    exact ⟨[], t, rfl, h₀⟩
  | cons a as ih =>
    obtain ⟨u, hu, hrest⟩ := Option.bind_eq_some_iff.1 hrun
    obtain ⟨bs, v, hv, huv⟩ := hsim s t a u h₀ (hD a List.mem_cons_self) hu
    obtain ⟨cs, t', ht', hst⟩ := ih huv (fun b hb ↦ hD b (List.mem_cons_of_mem a hb)) hrest
    refine ⟨bs ++ cs, t', ?_, hst⟩
    rw [run_append, hv]
    exact ht'

end TransitionSystem
