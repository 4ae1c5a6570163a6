import Mathlib.Data.List.Basic

/-!
# Programs that talk to a peer

A program with remote calls is a tree: it is done, or it sends a request and goes on with whatever
the peer replies. Nothing is assumed about the replies, so a law about all runs of such a program is
a law about every peer, an adversarial one included.

* `Talk` — the trees; `Talk.Runs t l a` says that `t` ends with `a` after the exchanges `l`.
* `Dialogue` — programs with a state of their own that may raise an exception. What was written to
  the state before an exception stays.
* `runs_bind_ok_iff`, `runs_bind_error_iff`, `runs_handle_iff` — the exchanges of a composed program
  are those of its parts, one after the other. These are the rules that take a run of a long program
  apart.
* `Sends P m` — whatever the peer replies, `m` sends requests of the kind `P` only.
* `Stateless m` — whatever the peer replies, `m` neither reads nor writes its state.
* `against m answer` — the outcome when each request has a reply of its own; for programs without a
  state it is composed of those of the parts (`against_bind`).
* `Ensures A P F m` — while the replies are of the kind `A`, `m` returns values of the kind `P` and
  raises exceptions of the kind `F` only.
* `retry` — repetition on the exceptions that a predicate singles out.

For every script of replies there is exactly one run (`exists_run_exchangesOn`, `Runs.unique`).
-/

/-- A program that talks to a peer: requests in `Q`, replies in `R`. -/
inductive Talk (Q R α : Type) where
  /-- The end, with a value. -/
  | done (a : α)
  /-- A request, and what to do with each reply. -/
  | ask (q : Q) (k : R → Talk Q R α)

namespace Talk

variable {Q R α β : Type}

/-- Go on with the value of the first program. -/
def bind : Talk Q R α → (α → Talk Q R β) → Talk Q R β
  | done a, f => f a
  | ask q k, f => ask q fun r ↦ (k r).bind f

/-- The program ends with the value after the exchanges. -/
def Runs : Talk Q R α → List (Q × R) → α → Prop
  | done a, l, x => l = [] ∧ x = a
  | ask q k, l, x => ∃ r l', l = (q, r) :: l' ∧ (k r).Runs l' x

/-- The exchanges and the value under a script: `script n` is the reply to request number `n`. -/
def play : Talk Q R α → (ℕ → R) → List (Q × R) × α
  | done a, _ => ([], a)
  | ask q k, script =>
    let rest := (k (script 0)).play fun n ↦ script (n + 1)
    ((q, script 0) :: rest.1, rest.2)

theorem runs_play (t : Talk Q R α) (script : ℕ → R) :
    t.Runs (t.play script).1 (t.play script).2 := by
  induction t generalizing script with
  | done a => exact ⟨rfl, rfl⟩
  | ask q k ih => exact ⟨script 0, _, rfl, ih (script 0) _⟩

/-- The exchanges and the value when each request gets the reply that belongs to it. -/
def answered : Talk Q R α → (Q → R) → List (Q × R) × α
  | done a, _ => ([], a)
  | ask q k, answer =>
    let rest := (k (answer q)).answered answer
    ((q, answer q) :: rest.1, rest.2)

theorem runs_answered (t : Talk Q R α) (answer : Q → R) :
    t.Runs (t.answered answer).1 (t.answered answer).2 ∧
      ∀ e ∈ (t.answered answer).1, e.2 = answer e.1 := by
  induction t with
  | done a => exact ⟨⟨rfl, rfl⟩, fun _ he ↦ absurd he List.not_mem_nil⟩
  | ask q k ih =>
    obtain ⟨hrun, hall⟩ := ih (answer q)
    exact ⟨⟨answer q, _, rfl, hrun⟩, List.forall_mem_cons.2 ⟨rfl, hall⟩⟩

/-- Every run in which each request gets the reply that belongs to it. -/
theorem answered_of_runs {t : Talk Q R α} {answer : Q → R} {l : List (Q × R)} {x : α}
    (h : t.Runs l x) (hl : ∀ e ∈ l, e.2 = answer e.1) : t.answered answer = (l, x) := by
  induction t generalizing l with
  | done a =>
    obtain ⟨rfl, rfl⟩ := h
    rfl
  | ask q k ih =>
    obtain ⟨r, l', rfl, h⟩ := h
    obtain ⟨hr, hrest⟩ := List.forall_mem_cons.1 hl
    obtain rfl : r = answer q := hr
    rw [answered, ih (answer q) h hrest]

/-- A sequence ends as its second part does. -/
theorem answered_bind (t : Talk Q R α) (f : α → Talk Q R β) (answer : Q → R) :
    ((t.bind f).answered answer).2 = ((f (t.answered answer).2).answered answer).2 := by
  induction t with
  | done a => rfl
  | ask q k ih => exact ih (answer q)

/-- The replies decide the run: of two runs under one script, none goes on after the other. -/
theorem Runs.unique {t : Talk Q R α} {l l' : List (Q × R)} {k k' : List R} {x x' : α}
    (h : t.Runs l x) (h' : t.Runs l' x') (hreply : l.map Prod.snd ++ k = l'.map Prod.snd ++ k') :
    l = l' ∧ x = x' := by
  induction t generalizing l l' with
  | done a =>
    obtain ⟨rfl, rfl⟩ := h
    obtain ⟨rfl, rfl⟩ := h'
    exact ⟨rfl, rfl⟩
  | ask q k ih =>
    obtain ⟨r, l₁, rfl, h⟩ := h
    obtain ⟨r', l₁', rfl, h'⟩ := h'
    simp only [List.map_cons, List.cons_append, List.cons.injEq] at hreply
    obtain ⟨rfl, hrest⟩ := hreply
    obtain ⟨rfl, rfl⟩ := ih r h h' hrest
    exact ⟨rfl, rfl⟩

/-- The exchanges of a sequence are those of the first program and then those of the second. -/
theorem runs_bind_iff {t : Talk Q R α} {f : α → Talk Q R β} {l : List (Q × R)} {y : β} :
    (t.bind f).Runs l y ↔ ∃ l₁ l₂ a, l = l₁ ++ l₂ ∧ t.Runs l₁ a ∧ (f a).Runs l₂ y := by
  induction t generalizing l with
  | done a =>
    constructor
    · exact fun h ↦ ⟨[], l, a, rfl, ⟨rfl, rfl⟩, h⟩
    · rintro ⟨l₁, l₂, b, rfl, ⟨rfl, rfl⟩, h⟩
      exact h
  | ask q k ih =>
    constructor
    · rintro ⟨r, l', rfl, h⟩
      obtain ⟨l₁, l₂, a, rfl, h₁, h₂⟩ := (ih r).1 h
      exact ⟨(q, r) :: l₁, l₂, a, rfl, ⟨r, l₁, rfl, h₁⟩, h₂⟩
    · rintro ⟨l₁, l₂, a, rfl, ⟨r, l', rfl, h₁⟩, h₂⟩
      exact ⟨r, l' ++ l₂, rfl, (ih r).2 ⟨l', l₂, a, rfl, h₁, h₂⟩⟩

/-- The program with other names for its requests. -/
def rename {Q' : Type} (g : Q → Q') : Talk Q R α → Talk Q' R α
  | done a => done a
  | ask q k => ask (g q) fun r ↦ (k r).rename g

theorem runs_rename_iff {Q' : Type} {g : Q → Q'} {t : Talk Q R α} {l : List (Q' × R)} {x : α} :
    (t.rename g).Runs l x ↔ ∃ k, l = k.map (Prod.map g id) ∧ t.Runs k x := by
  induction t generalizing l with
  | done a =>
    constructor
    · rintro ⟨rfl, rfl⟩
      exact ⟨[], rfl, rfl, rfl⟩
    · rintro ⟨k, rfl, rfl, rfl⟩
      exact ⟨rfl, rfl⟩
  | ask q k ih =>
    constructor
    · rintro ⟨r, l', rfl, h⟩
      obtain ⟨k', rfl, hk⟩ := (ih r).1 h
      exact ⟨(q, r) :: k', rfl, r, k', rfl, hk⟩
    · rintro ⟨_, rfl, r, k', rfl, h⟩
      exact ⟨r, _, rfl, (ih r).2 ⟨k', rfl, h⟩⟩

end Talk

/-- A program that talks to a peer, has a state `σ` and may raise an exception in `ε`. -/
def Dialogue (Q R σ ε α : Type) : Type := σ → Talk Q R (Except ε α × σ)

namespace Dialogue

variable {Q R σ ε α β : Type}

/-! ### The language -/

instance : Monad (Dialogue Q R σ ε) where
  pure a := fun s ↦ .done (.ok a, s)
  bind m f := fun s ↦ (m s).bind fun p ↦ match p.1 with
    | .ok a => f a p.2
    | .error e => .done (.error e, p.2)

/-- Raise an exception. -/
def raise (e : ε) : Dialogue Q R σ ε α := fun s ↦ .done (.error e, s)

/-- `try m except e: h e`. -/
def handle (m : Dialogue Q R σ ε α) (h : ε → Dialogue Q R σ ε α) : Dialogue Q R σ ε α :=
  fun s ↦ (m s).bind fun p ↦ match p.1 with
    | .ok a => .done (.ok a, p.2)
    | .error e => h e p.2

/-- Send a request and wait for the reply. -/
def ask (q : Q) : Dialogue Q R σ ε R := fun s ↦ .ask q fun r ↦ .done (.ok r, s)

/-- The state. -/
def getState : Dialogue Q R σ ε σ := fun s ↦ .done (.ok s, s)

/-- Replace the state. -/
def setState (s : σ) : Dialogue Q R σ ε Unit := fun _ ↦ .done (.ok (), s)

/-- A computation without requests that may raise. -/
def lift (x : Except ε α) : Dialogue Q R σ ε α := fun s ↦ .done (x, s)

/-- Up to `n` more attempts after the first one, while the exception is of the kind `again`. -/
def retry (again : ε → Bool) : ℕ → Dialogue Q R σ ε α → Dialogue Q R σ ε α
  | 0, m => m
  | n + 1, m => m.handle fun e ↦ if again e then retry again n m else raise e

/-! ### Runs -/

/-- Started in `s`, the program makes the exchanges `l`, ends with `x` and leaves `t`. -/
def Runs (m : Dialogue Q R σ ε α) (s : σ) (l : List (Q × R)) (x : Except ε α) (t : σ) : Prop :=
  (m s).Runs l (x, t)

/-- Every table of replies is played to an end. -/
theorem exists_run_answered (m : Dialogue Q R σ ε α) (s : σ) (answer : Q → R) :
    ∃ l x t, m.Runs s l x t ∧ ∀ e ∈ l, e.2 = answer e.1 := by
  obtain ⟨hrun, hall⟩ := (m s).runs_answered answer
  exact ⟨_, _, _, hrun, hall⟩

/-- The exchanges under the script. -/
def exchangesOn (m : Dialogue Q R σ ε α) (s : σ) (script : ℕ → R) : List (Q × R) :=
  ((m s).play script).1

theorem exists_run_exchangesOn (m : Dialogue Q R σ ε α) (s : σ) (script : ℕ → R) :
    ∃ x t, m.Runs s (m.exchangesOn s script) x t :=
  ⟨_, _, (m s).runs_play script⟩

/-- The program returns under the script. -/
def returnsOn (m : Dialogue Q R σ ε α) (s : σ) (script : ℕ → R) : Bool :=
  ((m s).play script).2.1.isOk

theorem exists_ok_run {m : Dialogue Q R σ ε α} {s : σ} {script : ℕ → R}
    (h : m.returnsOn s script = true) : ∃ l a t, m.Runs s l (.ok a) t := by
  have hrun := (m s).runs_play script
  rcases hplay : (m s).play script with ⟨l, x, t⟩
  rw [returnsOn, hplay] at h
  rw [hplay] at hrun
  cases x with
  | ok a => exact ⟨l, a, t, hrun⟩
  | error e => exact absurd h (by simp [Except.isOk, Except.toBool])

theorem exists_error_run {m : Dialogue Q R σ ε α} {s : σ} {script : ℕ → R}
    (h : m.returnsOn s script = false) :
    ∃ e t, m.Runs s (m.exchangesOn s script) (.error e) t := by
  have hrun := (m s).runs_play script
  rw [exchangesOn]
  rcases hplay : (m s).play script with ⟨l, x, t⟩
  rw [returnsOn, hplay] at h
  rw [hplay] at hrun
  cases x with
  | ok a => exact absurd h (by simp [Except.isOk, Except.toBool])
  | error e => exact ⟨e, t, hrun⟩

/-- The replies decide the run. -/
theorem Runs.unique {m : Dialogue Q R σ ε α} {s t t' : σ} {l l' : List (Q × R)} {k k' : List R}
    {x x' : Except ε α} (h : m.Runs s l x t) (h' : m.Runs s l' x' t')
    (hreply : l.map Prod.snd ++ k = l'.map Prod.snd ++ k') : l = l' ∧ x = x' ∧ t = t' := by
  obtain ⟨hl, hx⟩ := Talk.Runs.unique h h' hreply
  exact ⟨hl, (Prod.mk.inj hx).1, (Prod.mk.inj hx).2⟩

section Rules

variable {m : Dialogue Q R σ ε α} {f : α → Dialogue Q R σ ε β} {s t : σ} {l : List (Q × R)}

@[simp] theorem runs_pure_iff {a : α} {x : Except ε α} :
    (pure a : Dialogue Q R σ ε α).Runs s l x t ↔ l = [] ∧ x = .ok a ∧ t = s := by
  show l = [] ∧ (x, t) = (.ok a, s) ↔ _
  rw [Prod.mk.injEq]

@[simp] theorem runs_raise_iff {e : ε} {x : Except ε α} :
    (raise e : Dialogue Q R σ ε α).Runs s l x t ↔ l = [] ∧ x = .error e ∧ t = s := by
  show l = [] ∧ (x, t) = (.error e, s) ↔ _
  rw [Prod.mk.injEq]

@[simp] theorem runs_lift_iff {y x : Except ε α} :
    (lift y : Dialogue Q R σ ε α).Runs s l x t ↔ l = [] ∧ x = y ∧ t = s := by
  show l = [] ∧ (x, t) = (y, s) ↔ _
  rw [Prod.mk.injEq]

@[simp] theorem runs_getState_iff {x : Except ε σ} :
    (getState : Dialogue Q R σ ε σ).Runs s l x t ↔ l = [] ∧ x = .ok s ∧ t = s := by
  show l = [] ∧ (x, t) = (.ok s, s) ↔ _
  rw [Prod.mk.injEq]

@[simp] theorem runs_setState_iff {u : σ} {x : Except ε Unit} :
    (setState u : Dialogue Q R σ ε Unit).Runs s l x t ↔ l = [] ∧ x = .ok () ∧ t = u := by
  show l = [] ∧ (x, t) = (.ok (), u) ↔ _
  rw [Prod.mk.injEq]

@[simp] theorem runs_ask_iff {q : Q} {x : Except ε R} :
    (ask q : Dialogue Q R σ ε R).Runs s l x t ↔ ∃ r, l = [(q, r)] ∧ x = .ok r ∧ t = s := by
  constructor
  · rintro ⟨r, l', rfl, rfl, hx⟩
    obtain ⟨rfl, rfl⟩ := Prod.mk.inj hx
    exact ⟨r, rfl, rfl, rfl⟩
  · rintro ⟨r, rfl, rfl, rfl⟩
    exact ⟨r, [], rfl, rfl, rfl⟩

/-- **Sequencing.** A run of a sequence is a run of the first part that raises, or one that returns
followed by a run of the second part. -/
theorem runs_bind_iff {y : Except ε β} : (m >>= f).Runs s l y t ↔
    (∃ l₁ l₂ a u, l = l₁ ++ l₂ ∧ m.Runs s l₁ (.ok a) u ∧ (f a).Runs u l₂ y t) ∨
      ∃ e, y = .error e ∧ m.Runs s l (.error e) t := by
  refine Talk.runs_bind_iff.trans ?_
  constructor
  · rintro ⟨l₁, l₂, ⟨x, u⟩, rfl, h₁, h₂⟩
    cases x with
    | ok a => exact .inl ⟨l₁, l₂, a, u, rfl, h₁, h₂⟩
    | error e =>
      obtain ⟨rfl, hy⟩ := h₂
      obtain ⟨rfl, rfl⟩ := Prod.mk.inj hy
      rw [List.append_nil]
      exact .inr ⟨e, rfl, h₁⟩
  · rintro (⟨l₁, l₂, a, u, rfl, h₁, h₂⟩ | ⟨e, rfl, h⟩)
    · exact ⟨l₁, l₂, (.ok a, u), rfl, h₁, h₂⟩
    · exact ⟨l, [], (.error e, t), (List.append_nil l).symm, h, rfl, rfl⟩

/-- A sequence that returns has run both of its parts. -/
theorem runs_bind_ok_iff {b : β} : (m >>= f).Runs s l (.ok b) t ↔
    ∃ l₁ l₂ a u, l = l₁ ++ l₂ ∧ m.Runs s l₁ (.ok a) u ∧ (f a).Runs u l₂ (.ok b) t := by
  rw [runs_bind_iff]
  exact or_iff_left fun ⟨_, h, _⟩ ↦ absurd h (by simp)

/-- A sequence that raises has raised in one of its parts. -/
theorem runs_bind_error_iff {e : ε} : (m >>= f).Runs s l (.error e) t ↔
    (∃ l₁ l₂ a u, l = l₁ ++ l₂ ∧ m.Runs s l₁ (.ok a) u ∧ (f a).Runs u l₂ (.error e) t) ∨
      m.Runs s l (.error e) t := by
  rw [runs_bind_iff]
  refine or_congr Iff.rfl ⟨?_, fun h ↦ ⟨e, rfl, h⟩⟩
  rintro ⟨e', he, h⟩
  rwa [Except.error.inj he]

@[simp] theorem runs_pure_bind_iff {a : α} {y : Except ε β} :
    ((pure a : Dialogue Q R σ ε α) >>= f).Runs s l y t ↔ (f a).Runs s l y t := Iff.rfl

@[simp] theorem runs_getState_bind_iff {f : σ → Dialogue Q R σ ε β} {y : Except ε β} :
    (getState >>= f).Runs s l y t ↔ (f s).Runs s l y t := Iff.rfl

@[simp] theorem runs_setState_bind_iff {u : σ} {f : Unit → Dialogue Q R σ ε β} {y : Except ε β} :
    (setState u >>= f).Runs s l y t ↔ (f ()).Runs u l y t := Iff.rfl

/-- A request comes first among the exchanges of what it begins. -/
@[simp] theorem runs_ask_bind_iff {q : Q} {f : R → Dialogue Q R σ ε β} {y : Except ε β} :
    (ask q >>= f).Runs s l y t ↔ ∃ r l', l = (q, r) :: l' ∧ (f r).Runs s l' y t := Iff.rfl

/-- A computation without requests leaves no exchange. -/
theorem runs_lift_bind_iff {x : Except ε α} {y : Except ε β} :
    (lift x >>= f).Runs s l y t ↔ (∃ a, x = .ok a ∧ (f a).Runs s l y t) ∨
      ∃ e, x = .error e ∧ l = [] ∧ y = .error e ∧ t = s := by
  cases x with
  | ok a =>
    refine ⟨fun h ↦ .inl ⟨a, rfl, h⟩, ?_⟩
    rintro (⟨b, hb, h⟩ | ⟨e, he, -⟩)
    · obtain rfl := Except.ok.inj hb
      exact h
    · exact absurd he (by simp)
  | error e =>
    refine ⟨fun h ↦ .inr ⟨e, rfl, runs_raise_iff.1 h⟩, ?_⟩
    rintro (⟨b, hb, -⟩ | ⟨e', he, h⟩)
    · exact absurd hb (by simp)
    · obtain rfl := Except.error.inj he
      exact runs_raise_iff.2 h

/-- **Handling.** -/
theorem runs_handle_iff {h : ε → Dialogue Q R σ ε α} {x : Except ε α} :
    (m.handle h).Runs s l x t ↔
      (∃ a, x = .ok a ∧ m.Runs s l (.ok a) t) ∨
        ∃ l₁ l₂ e u, l = l₁ ++ l₂ ∧ m.Runs s l₁ (.error e) u ∧ (h e).Runs u l₂ x t := by
  refine Talk.runs_bind_iff.trans ?_
  constructor
  · rintro ⟨l₁, l₂, ⟨y, u⟩, rfl, h₁, h₂⟩
    cases y with
    | ok a =>
      obtain ⟨rfl, hx⟩ := h₂
      obtain ⟨rfl, rfl⟩ := Prod.mk.inj hx
      rw [List.append_nil]
      exact .inl ⟨a, rfl, h₁⟩
    | error e => exact .inr ⟨l₁, l₂, e, u, rfl, h₁, h₂⟩
  · rintro (⟨a, rfl, h'⟩ | ⟨l₁, l₂, e, u, rfl, h₁, h₂⟩)
    · exact ⟨l, [], (.ok a, t), (List.append_nil l).symm, h', rfl, rfl⟩
    · exact ⟨l₁, l₂, (.error e, u), rfl, h₁, h₂⟩

end Rules

/-! ### A part that talks to less -/

/-- The program as part of one that has other requests too. -/
def rename {Q' : Type} (g : Q → Q') (m : Dialogue Q R σ ε α) : Dialogue Q' R σ ε α :=
  fun s ↦ (m s).rename g

theorem runs_rename_iff {Q' : Type} {g : Q → Q'} {m : Dialogue Q R σ ε α} {s t : σ}
    {l : List (Q' × R)} {x : Except ε α} :
    (m.rename g).Runs s l x t ↔ ∃ k, l = k.map (Prod.map g id) ∧ m.Runs s k x t :=
  Talk.runs_rename_iff

/-! ### Known parts

The replies decide the run, so what is known of a first part decides how the whole goes on.
-/

section Known

variable {m : Dialogue Q R σ ε α} {f : α → Dialogue Q R σ ε β} {s t u : σ} {l₁ l₂ : List (Q × R)}

/-- Of two runs that begin the same exchanges, none goes on after the other. -/
theorem Runs.unique_of_append {k₁ k₂ : List (Q × R)} {x y : Except ε α} (h : m.Runs s l₁ x t)
    (h' : m.Runs s k₁ y u) (heq : l₁ ++ l₂ = k₁ ++ k₂) : l₁ = k₁ ∧ l₂ = k₂ ∧ x = y ∧ t = u := by
  have hreply := congrArg (List.map Prod.snd) heq
  rw [List.map_append, List.map_append] at hreply
  obtain ⟨rfl, hx, ht⟩ := h.unique h' hreply
  exact ⟨rfl, List.append_cancel_left heq, hx, ht⟩

theorem Runs.of_bind_ok {a : α} {y : Except ε β} (h₁ : m.Runs s l₁ (.ok a) u)
    (h : (m >>= f).Runs s (l₁ ++ l₂) y t) : (f a).Runs u l₂ y t := by
  rcases runs_bind_iff.1 h with ⟨k₁, k₂, b, v, hk, hk₁, hk₂⟩ | ⟨e, -, h'⟩
  · obtain ⟨rfl, rfl, hb, rfl⟩ := h₁.unique_of_append hk₁ hk
    obtain rfl := Except.ok.inj hb
    exact hk₂
  · obtain ⟨-, -, hx, -⟩ := h₁.unique_of_append h' (List.append_nil _).symm
    exact absurd hx (by simp)

end Known

/-! ### What a program sends -/

/-- Whatever is replied, the program sends requests of the kind `P` only. -/
def Sends (P : Q → Prop) (m : Dialogue Q R σ ε α) : Prop :=
  ∀ s l x t, m.Runs s l x t → ∀ e ∈ l, P e.1

section Sends

variable {P P' : Q → Prop} {m : Dialogue Q R σ ε α}

theorem Sends.mono (h : Sends P m) (hP : ∀ q, P q → P' q) : Sends P' m :=
  fun s l x t hrun e he ↦ hP e.1 (h s l x t hrun e he)

theorem sends_pure (a : α) : Sends P (pure a : Dialogue Q R σ ε α) := by
  rintro s l x t hrun e he
  obtain ⟨rfl, -⟩ := runs_pure_iff.1 hrun
  exact absurd he List.not_mem_nil

theorem sends_raise (e : ε) : Sends P (raise e : Dialogue Q R σ ε α) := by
  rintro s l x t hrun e he
  obtain ⟨rfl, -⟩ := runs_raise_iff.1 hrun
  exact absurd he List.not_mem_nil

theorem sends_lift (x : Except ε α) : Sends P (lift x : Dialogue Q R σ ε α) := by
  rintro s l x t hrun e he
  obtain ⟨rfl, -⟩ := runs_lift_iff.1 hrun
  exact absurd he List.not_mem_nil

theorem sends_getState : Sends P (getState : Dialogue Q R σ ε σ) := by
  rintro s l x t hrun e he
  obtain ⟨rfl, -⟩ := runs_getState_iff.1 hrun
  exact absurd he List.not_mem_nil

theorem sends_setState (u : σ) : Sends P (setState u : Dialogue Q R σ ε Unit) := by
  rintro s l x t hrun e he
  obtain ⟨rfl, -⟩ := runs_setState_iff.1 hrun
  exact absurd he List.not_mem_nil

theorem sends_ask {q : Q} (hq : P q) : Sends P (ask q : Dialogue Q R σ ε R) := by
  rintro s l x t hrun e he
  obtain ⟨r, rfl, -⟩ := runs_ask_iff.1 hrun
  obtain rfl := List.mem_singleton.1 he
  exact hq

theorem Sends.bind {f : α → Dialogue Q R σ ε β} (h : Sends P m) (hf : ∀ a, Sends P (f a)) :
    Sends P (m >>= f) := by
  rintro s l x t hrun e he
  rcases runs_bind_iff.1 hrun with ⟨l₁, l₂, a, u, rfl, h₁, h₂⟩ | ⟨e', rfl, h'⟩
  · rcases List.mem_append.1 he with he | he
    · exact h s l₁ _ u h₁ e he
    · exact hf a u l₂ _ t h₂ e he
  · exact h s l _ t h' e he

theorem Sends.handle {g : ε → Dialogue Q R σ ε α} (h : Sends P m) (hg : ∀ e, Sends P (g e)) :
    Sends P (m.handle g) := by
  rintro s l x t hrun e he
  rcases runs_handle_iff.1 hrun with ⟨a, rfl, h'⟩ | ⟨l₁, l₂, e', u, rfl, h₁, h₂⟩
  · exact h s l _ t h' e he
  · rcases List.mem_append.1 he with he | he
    · exact h s l₁ _ u h₁ e he
    · exact hg e' u l₂ _ t h₂ e he

theorem Sends.retry {again : ε → Bool} (h : Sends P m) (n : ℕ) : Sends P (m.retry again n) := by
  induction n with
  | zero => exact h
  | succ n ih =>
    refine h.handle fun e ↦ ?_
    split
    · exact ih
    · exact sends_raise e

end Sends

/-- A sequence goes wrong in its first part, or gets past it; either way the first part has sent
requests of the kind `P` only. -/
theorem runs_bind_of_sends {P : Q → Prop} {m : Dialogue Q R σ ε α} {f : α → Dialogue Q R σ ε β}
    {s t : σ} {l : List (Q × R)} {y : Except ε β} (hm : Sends P m) (h : (m >>= f).Runs s l y t) :
    ((∃ e, y = .error e ∧ m.Runs s l (.error e) t) ∧ ∀ ex ∈ l, P ex.1) ∨
      ∃ l₁ l₂ a u, l = l₁ ++ l₂ ∧ (∀ ex ∈ l₁, P ex.1) ∧ m.Runs s l₁ (.ok a) u ∧
        (f a).Runs u l₂ y t := by
  rcases runs_bind_iff.1 h with ⟨l₁, l₂, a, u, rfl, h₁, h₂⟩ | ⟨e, rfl, h'⟩
  · exact .inr ⟨l₁, l₂, a, u, rfl, hm s l₁ _ u h₁, h₁, h₂⟩
  · exact .inl ⟨⟨e, rfl, h'⟩, hm s l _ t h'⟩

/-! ### Programs without a state -/

/-- Whatever the peer replies, the program neither reads nor writes its state. -/
def Stateless (m : Dialogue Q R σ ε α) : Prop :=
  ∀ s l x t, m.Runs s l x t → t = s ∧ ∀ u, m.Runs u l x u

section Stateless

variable {m : Dialogue Q R σ ε α} {f : α → Dialogue Q R σ ε β}

theorem stateless_pure (a : α) : Stateless (pure a : Dialogue Q R σ ε α) := by
  intro s l x t h
  obtain ⟨hl, hx, ht⟩ := runs_pure_iff.1 h
  exact ⟨ht, fun u ↦ runs_pure_iff.2 ⟨hl, hx, rfl⟩⟩

theorem stateless_raise (e : ε) : Stateless (raise e : Dialogue Q R σ ε α) := by
  intro s l x t h
  obtain ⟨hl, hx, ht⟩ := runs_raise_iff.1 h
  exact ⟨ht, fun u ↦ runs_raise_iff.2 ⟨hl, hx, rfl⟩⟩

theorem stateless_lift (x : Except ε α) : Stateless (lift x : Dialogue Q R σ ε α) := by
  intro s l y t h
  obtain ⟨hl, hy, ht⟩ := runs_lift_iff.1 h
  exact ⟨ht, fun u ↦ runs_lift_iff.2 ⟨hl, hy, rfl⟩⟩

theorem Stateless.ask_bind {q : Q} {f : R → Dialogue Q R σ ε β} (hf : ∀ r, Stateless (f r)) :
    Stateless (ask q >>= f) := by
  rintro s l x t ⟨r, l', rfl, h⟩
  obtain ⟨ht, hu⟩ := hf r s l' x t h
  exact ⟨ht, fun u ↦ ⟨r, l', rfl, hu u⟩⟩

theorem Stateless.bind (hm : Stateless m) (hf : ∀ a, Stateless (f a)) : Stateless (m >>= f) := by
  intro s l x t h
  rcases runs_bind_iff.1 h with ⟨l₁, l₂, a, u, rfl, h₁, h₂⟩ | ⟨e, rfl, h'⟩
  · obtain ⟨rfl, hfirst⟩ := hm s l₁ _ u h₁
    obtain ⟨ht, hrest⟩ := hf a u l₂ x t h₂
    exact ⟨ht, fun v ↦ runs_bind_iff.2 (.inl ⟨l₁, l₂, a, v, rfl, hfirst v, hrest v⟩)⟩
  · obtain ⟨ht, hfirst⟩ := hm s l _ t h'
    exact ⟨ht, fun v ↦ runs_bind_iff.2 (.inr ⟨e, rfl, hfirst v⟩)⟩

theorem Stateless.handle {h : ε → Dialogue Q R σ ε α} (hm : Stateless m)
    (hh : ∀ e, Stateless (h e)) : Stateless (m.handle h) := by
  intro s l x t hrun
  rcases runs_handle_iff.1 hrun with ⟨a, rfl, h'⟩ | ⟨l₁, l₂, e, u, rfl, h₁, h₂⟩
  · obtain ⟨ht, hrest⟩ := hm s l _ t h'
    exact ⟨ht, fun v ↦ runs_handle_iff.2 (.inl ⟨a, rfl, hrest v⟩)⟩
  · obtain ⟨rfl, hfirst⟩ := hm s l₁ _ u h₁
    obtain ⟨ht, hrest⟩ := hh e u l₂ x t h₂
    exact ⟨ht, fun v ↦ runs_handle_iff.2 (.inr ⟨l₁, l₂, e, v, rfl, hfirst v, hrest v⟩)⟩

end Stateless

/-! ### A table of replies -/

/-- The outcome when each request gets the reply that belongs to it. -/
def against (m : Dialogue Q R σ ε α) (answer : Q → R) (s : σ) : Except ε α :=
  ((m s).answered answer).2.1

section Against

variable {answer : Q → R} {s : σ} {m : Dialogue Q R σ ε α} {f : α → Dialogue Q R σ ε β}

@[simp] theorem against_pure (a : α) :
    (pure a : Dialogue Q R σ ε α).against answer s = .ok a := rfl

@[simp] theorem against_raise (e : ε) :
    (raise e : Dialogue Q R σ ε α).against answer s = .error e := rfl

@[simp] theorem against_lift (x : Except ε α) :
    (lift x : Dialogue Q R σ ε α).against answer s = x := rfl

@[simp] theorem against_ask_bind (q : Q) (f : R → Dialogue Q R σ ε β) :
    (ask q >>= f).against answer s = (f (answer q)).against answer s := rfl

/-- A program without a state is followed by the next one in the same state. -/
theorem against_bind (hm : Stateless m) :
    (m >>= f).against answer s = m.against answer s >>= fun a ↦ (f a).against answer s := by
  have hstate : ((m s).answered answer).2.2 = s :=
    (hm s _ _ _ ((m s).runs_answered answer).1).1
  refine (congrArg Prod.fst (Talk.answered_bind (m s) _ answer)).trans ?_
  rw [against]
  rcases hout : ((m s).answered answer).2 with ⟨x, t⟩
  rw [hout] at hstate
  obtain rfl : t = s := hstate
  cases x with
  | ok a => rfl
  | error e => rfl

/-- A program without a state is handled in the state in which it began. -/
theorem against_handle (hm : Stateless m) (h : ε → Dialogue Q R σ ε α) :
    (m.handle h).against answer s =
      match m.against answer s with
      | .ok a => .ok a
      | .error e => (h e).against answer s := by
  have hstate : ((m s).answered answer).2.2 = s :=
    (hm s _ _ _ ((m s).runs_answered answer).1).1
  refine (congrArg Prod.fst (Talk.answered_bind (m s) _ answer)).trans ?_
  rw [against]
  rcases hout : ((m s).answered answer).2 with ⟨x, t⟩
  rw [hout] at hstate
  obtain rfl : t = s := hstate
  cases x with
  | ok a => rfl
  | error e => rfl

theorem against_lift_bind (x : Except ε α) :
    (lift x >>= f).against answer s = x >>= fun a ↦ (f a).against answer s :=
  against_bind (stateless_lift x)

end Against

/-! ### What a program may end with -/

/-- As long as the replies are of the kind `A`, the program returns values of the kind `P` and
raises exceptions of the kind `F` only. -/
def Ensures (A : Q × R → Prop) (P : α → Prop) (F : ε → Prop) (m : Dialogue Q R σ ε α) : Prop :=
  ∀ s l x t, m.Runs s l x t → (∀ e ∈ l, A e) →
    (∀ a, x = .ok a → P a) ∧ ∀ e, x = .error e → F e

section Ensures

variable {A : Q × R → Prop} {P : α → Prop} {F G : ε → Prop} {m : Dialogue Q R σ ε α}

theorem Ensures.mono {P' : α → Prop} (h : Ensures A P F m) (hP : ∀ a, P a → P' a)
    (hF : ∀ e, F e → G e) : Ensures A P' G m := by
  intro s l x t hrun hA
  obtain ⟨hok, herror⟩ := h s l x t hrun hA
  exact ⟨fun a ha ↦ hP a (hok a ha), fun e he ↦ hF e (herror e he)⟩

theorem ensures_lift {x : Except ε α} (hok : ∀ a, x = .ok a → P a)
    (herror : ∀ e, x = .error e → F e) :
    Ensures A P F (lift x : Dialogue Q R σ ε α) := by
  intro s l y t hrun hA
  obtain ⟨-, rfl, -⟩ := runs_lift_iff.1 hrun
  exact ⟨hok, herror⟩

theorem ensures_pure {a : α} (h : P a) : Ensures A P F (pure a : Dialogue Q R σ ε α) :=
  ensures_lift (fun b hb ↦ Except.ok.inj hb ▸ h) fun e he ↦ absurd he (by simp)

theorem ensures_raise {e : ε} (h : F e) : Ensures A P F (raise e : Dialogue Q R σ ε α) :=
  ensures_lift (fun b hb ↦ absurd hb (by simp)) fun e' he ↦ Except.error.inj he ▸ h

/-- **Sequencing**: what the first program may return is what the second one may assume. -/
theorem Ensures.bind {P' : β → Prop} {f : α → Dialogue Q R σ ε β} (h : Ensures A P F m)
    (hf : ∀ a, P a → Ensures A P' F (f a)) : Ensures A P' F (m >>= f) := by
  intro s l y t hrun hA
  rcases runs_bind_iff.1 hrun with ⟨l₁, l₂, a, u, rfl, h₁, h₂⟩ | ⟨e, rfl, h'⟩
  · obtain ⟨hA₁, hA₂⟩ := List.forall_mem_append.1 hA
    exact hf a ((h s l₁ _ u h₁ hA₁).1 a rfl) u l₂ y t h₂ hA₂
  · refine ⟨fun b hb ↦ absurd hb (by simp), fun e' he ↦ ?_⟩
    obtain rfl := Except.error.inj he
    exact (h s l _ t h' hA).2 e rfl

theorem Ensures.ask_bind {q : Q} {f : R → Dialogue Q R σ ε α}
    (hf : ∀ r, A (q, r) → Ensures A P F (f r)) : Ensures A P F (ask q >>= f) := by
  rintro s l x t ⟨r, l', rfl, h⟩ hA
  obtain ⟨hr, hA'⟩ := List.forall_mem_cons.1 hA
  exact hf r hr s l' x t h hA'

/-- **Handling**: what the program may raise is what the handler may assume. -/
theorem Ensures.handle {h : ε → Dialogue Q R σ ε α} (hm : Ensures A P G m)
    (hh : ∀ e, G e → Ensures A P F (h e)) : Ensures A P F (m.handle h) := by
  intro s l x t hrun hA
  rcases runs_handle_iff.1 hrun with ⟨a, rfl, h'⟩ | ⟨l₁, l₂, e, u, rfl, h₁, h₂⟩
  · exact ⟨(hm s l _ t h' hA).1, fun e he ↦ absurd he (by simp)⟩
  · obtain ⟨hA₁, hA₂⟩ := List.forall_mem_append.1 hA
    exact hh e ((hm s l₁ _ u h₁ hA₁).2 e rfl) u l₂ x t h₂ hA₂

end Ensures

/-! ### Repetition -/

section Retry

variable {again : ε → Bool} {m : Dialogue Q R σ ε α} {F : Q × R → Prop} {n : ℕ} {s t : σ}
  {l : List (Q × R)}

/-- **One more attempt.** It is the whole repetition, unless it raises an exception of the kind
`again`; then the others follow. -/
theorem runs_retry_succ_iff {x : Except ε α} : (m.retry again (n + 1)).Runs s l x t ↔
    (m.Runs s l x t ∧ ∀ e, x = .error e → again e = false) ∨
      ∃ l₁ l₂ e u, l = l₁ ++ l₂ ∧ again e = true ∧ m.Runs s l₁ (.error e) u ∧
        (m.retry again n).Runs u l₂ x t := by
  refine runs_handle_iff.trans ⟨?_, ?_⟩
  · rintro (⟨a, rfl, h⟩ | ⟨l₁, l₂, e, u, rfl, h₁, h₂⟩)
    · exact .inl ⟨h, fun e he ↦ absurd he (by simp)⟩
    · split at h₂
      · rename_i hagain
        exact .inr ⟨l₁, l₂, e, u, rfl, hagain, h₁, h₂⟩
      · rename_i hagain
        obtain ⟨rfl, rfl, rfl⟩ := runs_raise_iff.1 h₂
        rw [List.append_nil]
        refine .inl ⟨h₁, fun e' he ↦ ?_⟩
        obtain rfl := Except.error.inj he
        exact Bool.eq_false_iff.2 hagain
  · rintro (⟨h, hagain⟩ | ⟨l₁, l₂, e, u, rfl, hagain, h₁, h₂⟩)
    · cases x with
      | ok a => exact .inl ⟨a, rfl, h⟩
      | error e =>
        refine .inr ⟨l, [], e, t, (List.append_nil l).symm, h, ?_⟩
        rw [hagain e rfl]
        exact runs_raise_iff.2 ⟨rfl, rfl, rfl⟩
    · refine .inr ⟨l₁, l₂, e, u, rfl, h₁, ?_⟩
      rw [hagain]
      exact h₂

/-- What an attempt does at most `c` times, a repetition does at most `c` times in each of its
attempts. -/
theorem countP_retry_le {p : Q × R → Bool} {c : ℕ}
    (hm : ∀ s l x t, m.Runs s l x t → l.countP p ≤ c) {x : Except ε α}
    (h : (m.retry again n).Runs s l x t) : l.countP p ≤ (n + 1) * c := by
  induction n generalizing s l with
  | zero =>
    have := hm s l x t h
    omega
  | succ n ih =>
    have hmul : (n + 1 + 1) * c = (n + 1) * c + c := Nat.succ_mul _ _
    rcases runs_retry_succ_iff.1 h with ⟨h', -⟩ | ⟨l₁, l₂, e, u, rfl, -, h₁, h₂⟩
    · have := hm s l x t h'
      omega
    · have hfirst := hm s l₁ _ u h₁
      have hrest := ih h₂
      rw [List.countP_append]
      omega

/-- A repetition that returns ends with an attempt that returns; before it there are the exchanges
of attempts that raise. -/
theorem runs_retry_ok (hfail : ∀ s l e t, m.Runs s l (.error e) t → ∀ ex ∈ l, F ex) {a : α}
    (h : (m.retry again n).Runs s l (.ok a) t) :
    ∃ l₁ l₂ u, l = l₁ ++ l₂ ∧ (∀ ex ∈ l₁, F ex) ∧ m.Runs u l₂ (.ok a) t := by
  induction n generalizing s l with
  | zero => exact ⟨[], l, s, rfl, fun _ hex ↦ absurd hex List.not_mem_nil, h⟩
  | succ n ih =>
    rcases runs_retry_succ_iff.1 h with ⟨h', -⟩ | ⟨l₁, l₂, e, u, rfl, -, h₁, h₂⟩
    · exact ⟨[], l, s, rfl, fun _ hex ↦ absurd hex List.not_mem_nil, h'⟩
    · obtain ⟨k₁, k₂, v, rfl, hF, hk⟩ := ih h₂
      refine ⟨l₁ ++ k₁, k₂, v, (List.append_assoc _ _ _).symm, ?_, hk⟩
      exact List.forall_mem_append.2 ⟨hfail s l₁ e u h₁, hF⟩

/-- A repetition that raises consists of attempts that raise. -/
theorem runs_retry_error (hfail : ∀ s l e t, m.Runs s l (.error e) t → ∀ ex ∈ l, F ex) {e : ε}
    (h : (m.retry again n).Runs s l (.error e) t) : ∀ ex ∈ l, F ex := by
  induction n generalizing s l with
  | zero => exact hfail s l e t h
  | succ n ih =>
    rcases runs_retry_succ_iff.1 h with ⟨h', -⟩ | ⟨l₁, l₂, e', u, rfl, -, h₁, h₂⟩
    · exact hfail s l e t h'
    · exact List.forall_mem_append.2 ⟨hfail s l₁ e' u h₁, ih h₂⟩

/-- A repetition begins with an attempt. -/
theorem runs_retry_head {x : Except ε α} (h : (m.retry again n).Runs s l x t) :
    ∃ l₁ l₂ y u, l = l₁ ++ l₂ ∧ m.Runs s l₁ y u := by
  cases n with
  | zero => exact ⟨l, [], x, t, (List.append_nil l).symm, h⟩
  | succ n =>
    rcases runs_retry_succ_iff.1 h with ⟨h', -⟩ | ⟨l₁, l₂, e, u, rfl, -, h₁, -⟩
    · exact ⟨l, [], x, t, (List.append_nil l).symm, h'⟩
    · exact ⟨l₁, l₂, _, u, rfl, h₁⟩

/-- An exception that is not of the kind `again` ends the repetition at once. -/
theorem runs_retry_of_raises {e : ε} (hagain : again e = false)
    (hm : ∀ l x t, m.Runs s l x t ↔ l = [] ∧ x = .error e ∧ t = s) {x : Except ε α} :
    (m.retry again n).Runs s l x t ↔ l = [] ∧ x = .error e ∧ t = s := by
  cases n with
  | zero => exact hm l x t
  | succ n =>
    refine runs_retry_succ_iff.trans ⟨?_, fun h ↦ .inl ⟨(hm l x t).2 h, fun e' he ↦ ?_⟩⟩
    · rintro (⟨h', -⟩ | ⟨l₁, l₂, e', u, rfl, he', h₁, -⟩)
      · exact (hm l x t).1 h'
      · obtain rfl := Except.error.inj ((hm l₁ _ u).1 h₁).2.1
        exact absurd hagain (by simp [he'])
    · obtain rfl := Except.error.inj (h.2.1.symm.trans he)
      exact hagain

end Retry

end Dialogue
