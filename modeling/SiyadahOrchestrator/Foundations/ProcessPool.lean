import Mathlib.Data.List.Basic

/-!
# Processes interleaved over a shared store

Any number of processes share a store. A process is data (its program counter and its local
variables), and one atomic step of a process is a function of the store and of that data; between
two steps every other process may run. `advance i` lets process `i` make one step, `spawn` adds
processes, `kill i` removes one without running its cleanup, and `touch` is a step of the
environment.

## One rule for interference

`Holds G L X` is an assertion about a pool with three parts, each local to what it speaks about: `G`
about the store, `L` about the store and one process, `X` about two different processes. To keep it
across a step of process `i` it is enough that

* the step keeps `G` and its own `L`,
* the step does not invalidate the `L` of a *different* process `j` — where `X i j` may be used,
* the step keeps `X` against every other process.

This is the Owicki–Gries obligation stated once, so that a proof about a particular system is a case
analysis over the steps of one process.

## Two pools

`Alongside S` relates two pools over one store, process by process; a simulation of one system by
another is then a statement about one process.
-/

/-- A shared store and the processes that run over it. -/
structure ProcessPool (σ : Type*) (π : Type*) where
  /-- The shared store. -/
  store : σ
  /-- The processes; an index names the same process for the whole run. -/
  procs : List π

namespace ProcessPool

variable {σ π : Type*}

/-! ### Steps -/

/-- One atomic step of process `i`; not enabled when there is no such process or it has ended. -/
def advance (next : σ → π → Option (σ × π)) (P : ProcessPool σ π) (i : ℕ) :
    Option (ProcessPool σ π) :=
  match P.procs[i]? with
  | none => none
  | some p =>
    match next P.store p with
    | none => none
    | some (s, q) => some ⟨s, P.procs.set i q⟩

/-- Add processes, leaving the store to `s`. -/
def spawn (P : ProcessPool σ π) (s : σ) (ps : List π) : ProcessPool σ π :=
  ⟨s, P.procs ++ ps⟩

/-- Change the store and no process. -/
def touch (P : ProcessPool σ π) (s : σ) : ProcessPool σ π :=
  ⟨s, P.procs⟩

/-- Put process `i` in the given local state without touching the store. -/
def kill (P : ProcessPool σ π) (i : ℕ) (q : π) : ProcessPool σ π :=
  ⟨P.store, P.procs.set i q⟩

theorem advance_eq_some {next : σ → π → Option (σ × π)} {P Q : ProcessPool σ π} {i : ℕ} :
    P.advance next i = some Q ↔
      ∃ p s q, P.procs[i]? = some p ∧ next P.store p = some (s, q) ∧ Q = ⟨s, P.procs.set i q⟩ := by
  unfold advance
  cases hp : P.procs[i]? with
  | none => simp
  | some p =>
    cases hn : next P.store p with
    | none => simp [hn]
    | some r =>
      obtain ⟨s, q⟩ := r
      simp only [Option.some.injEq, exists_and_left, exists_eq_left', hn, Prod.mk.injEq]
      constructor
      · rintro rfl
        exact ⟨s, q, ⟨rfl, rfl⟩, rfl⟩
      · rintro ⟨_, _, ⟨rfl, rfl⟩, rfl⟩
        rfl

/-! ### Reading the processes after a step -/

theorem getElem?_set_cases {l : List π} {i j : ℕ} {q r : π} (h : (l.set i q)[j]? = some r) :
    (j = i ∧ r = q) ∨ (j ≠ i ∧ l[j]? = some r) := by
  rcases eq_or_ne j i with rfl | hne
  · have hlt : j < l.length := by
      obtain ⟨hj, -⟩ := List.getElem?_eq_some_iff.1 h
      rwa [List.length_set] at hj
    rw [List.getElem?_set_self hlt] at h
    exact Or.inl ⟨rfl, (Option.some.inj h).symm⟩
  · right
    rw [List.getElem?_set_ne (Ne.symm hne)] at h
    exact ⟨hne, h⟩

theorem getElem?_append_cases {l ps : List π} {j : ℕ} {r : π} (h : (l ++ ps)[j]? = some r) :
    (j < l.length ∧ l[j]? = some r) ∨ (l.length ≤ j ∧ ps[j - l.length]? = some r) := by
  rcases Nat.lt_or_ge j l.length with hlt | hge
  · left
    rw [List.getElem?_append_left hlt] at h
    exact ⟨hlt, h⟩
  · right
    rw [List.getElem?_append_right hge] at h
    exact ⟨hge, h⟩

/-! ### Assertions and interference -/

/-- An assertion about a pool: about the store, about each process, about each pair. -/
structure Holds (G : σ → Prop) (L : σ → π → Prop) (X : π → π → Prop) (P : ProcessPool σ π) :
    Prop where
  /-- The part about the store alone. -/
  store : G P.store
  /-- The part about one process. -/
  each : ∀ (i : ℕ) p, P.procs[i]? = some p → L P.store p
  /-- The part about two different processes. -/
  pair : ∀ (i j : ℕ) p r, i ≠ j → P.procs[i]? = some p → P.procs[j]? = some r → X p r

variable {G : σ → Prop} {L : σ → π → Prop} {X : π → π → Prop} {P Q : ProcessPool σ π}

/-- **The interference rule.** A step of one process keeps the assertion when it keeps the store's
part and its own, and disturbs no other process. -/
theorem Holds.advance {next : σ → π → Option (σ × π)} {i : ℕ} (h : P.Holds G L X)
    (hadv : P.advance next i = some Q)
    (hown : ∀ p s q, P.procs[i]? = some p → next P.store p = some (s, q) → G s ∧ L s q)
    (hother : ∀ p s q (j : ℕ) r, P.procs[i]? = some p → next P.store p = some (s, q) → j ≠ i →
      P.procs[j]? = some r → L P.store r → X p r → X r p → L s r)
    (hpair : ∀ p s q (j : ℕ) r, P.procs[i]? = some p → next P.store p = some (s, q) → j ≠ i →
      P.procs[j]? = some r → L P.store r → X p r → X r p → X q r ∧ X r q) :
    Q.Holds G L X := by
  obtain ⟨p, s, q, hp, hnext, rfl⟩ := advance_eq_some.1 hadv
  refine ⟨(hown p s q hp hnext).1, ?_, ?_⟩
  · intro j r hr
    rcases getElem?_set_cases hr with ⟨rfl, rfl⟩ | ⟨hne, hr'⟩
    · exact (hown p s r hp hnext).2
    · exact hother p s q j r hp hnext hne hr' (h.each j r hr')
        (h.pair i j p r hne.symm hp hr') (h.pair j i r p hne hr' hp)
  · intro j k a b hjk ha hb
    rcases getElem?_set_cases ha with ⟨rfl, rfl⟩ | ⟨hj, ha'⟩
    · rcases getElem?_set_cases hb with ⟨rfl, rfl⟩ | ⟨hk, hb'⟩
      · exact absurd rfl hjk
      · exact (hpair p s a k b hp hnext hk hb' (h.each k b hb')
          (h.pair j k p b hk.symm hp hb') (h.pair k j b p hk hb' hp)).1
    · rcases getElem?_set_cases hb with ⟨rfl, rfl⟩ | ⟨hk, hb'⟩
      · exact (hpair p s b j a hp hnext hj ha' (h.each j a ha')
          (h.pair k j p a hj.symm hp ha') (h.pair j k a p hj ha' hp)).2
      · exact h.pair j k a b hjk ha' hb'

/-- New processes keep the assertion when the store's part is kept, nobody is disturbed, and each
newcomer is compatible with everyone. -/
theorem Holds.spawn {s : σ} {ps : List π} (h : P.Holds G L X) (hG : G s)
    (hold : ∀ (i : ℕ) p, P.procs[i]? = some p → L P.store p → L s p)
    (hnew : ∀ p ∈ ps, L s p)
    (hcross : ∀ (i : ℕ) p q, P.procs[i]? = some p → q ∈ ps → X p q ∧ X q p)
    (hnewPair : ∀ (i j : ℕ) p q, i ≠ j → ps[i]? = some p → ps[j]? = some q → X p q) :
    (P.spawn s ps).Holds G L X := by
  refine ⟨hG, ?_, ?_⟩
  · intro i p hp
    rcases getElem?_append_cases hp with ⟨-, hp'⟩ | ⟨-, hp'⟩
    · exact hold i p hp' (h.each i p hp')
    · exact hnew p (List.mem_of_getElem? hp')
  · intro i j p q hij hp hq
    rcases getElem?_append_cases hp with ⟨-, hp'⟩ | ⟨hi, hp'⟩ <;>
      rcases getElem?_append_cases hq with ⟨-, hq'⟩ | ⟨hj, hq'⟩
    · exact h.pair i j p q hij hp' hq'
    · exact (hcross i p q hp' (List.mem_of_getElem? hq')).1
    · exact (hcross j q p hq' (List.mem_of_getElem? hp')).2
    · exact hnewPair _ _ p q (by omega) hp' hq'

/-- One new process keeps the assertion when the store's part is kept, nobody is disturbed, and the
newcomer is compatible with everyone. -/
theorem Holds.spawn_one {s : σ} {q : π} (h : P.Holds G L X) (hG : G s)
    (hold : ∀ (i : ℕ) p, P.procs[i]? = some p → L P.store p → L s p) (hnew : L s q)
    (hcross : ∀ (i : ℕ) p, P.procs[i]? = some p → X p q ∧ X q p) :
    (P.spawn s [q]).Holds G L X := by
  refine h.spawn hG hold (fun p hp ↦ List.mem_singleton.1 hp ▸ hnew)
    (fun i p q' hp hq ↦ List.mem_singleton.1 hq ▸ hcross i p hp) fun i j p q' hij hp hq ↦ ?_
  have hi := (List.getElem?_eq_some_iff.1 hp).1
  have hj := (List.getElem?_eq_some_iff.1 hq).1
  rw [List.length_singleton] at hi hj
  omega

/-- A step of the environment keeps the assertion when it disturbs nobody. -/
theorem Holds.touch {s : σ} (h : P.Holds G L X) (hG : G s)
    (hold : ∀ (i : ℕ) p, P.procs[i]? = some p → L P.store p → L s p) : (P.touch s).Holds G L X :=
  ⟨hG, fun i p hp ↦ hold i p hp (h.each i p hp), h.pair⟩

/-- A process that disappears keeps the assertion when its tombstone is compatible with
everyone. -/
theorem Holds.kill {i : ℕ} {q : π} (h : P.Holds G L X) (hL : L P.store q)
    (hX : ∀ (j : ℕ) r, P.procs[j]? = some r → X q r ∧ X r q) : (P.kill i q).Holds G L X := by
  refine ⟨h.store, ?_, ?_⟩
  · intro j r hr
    rcases getElem?_set_cases hr with ⟨rfl, rfl⟩ | ⟨-, hr'⟩
    · exact hL
    · exact h.each j r hr'
  · intro j k a b hjk ha hb
    rcases getElem?_set_cases ha with ⟨rfl, rfl⟩ | ⟨hj, ha'⟩ <;>
      rcases getElem?_set_cases hb with ⟨rfl, rfl⟩ | ⟨hk, hb'⟩
    · exact absurd rfl hjk
    · exact (hX k b hb').1
    · exact (hX j a ha').2
    · exact h.pair j k a b hjk ha' hb'

/-- A process that is replaced keeps the assertion when the new one is compatible with the
others. -/
theorem Holds.kill_of_ne {i : ℕ} {q : π} (h : P.Holds G L X) (hL : L P.store q)
    (hX : ∀ (j : ℕ) r, j ≠ i → P.procs[j]? = some r → X q r ∧ X r q) :
    (P.kill i q).Holds G L X := by
  refine ⟨h.store, fun j r hr ↦ ?_, fun j k a b hjk ha hb ↦ ?_⟩
  · rcases getElem?_set_cases hr with ⟨-, rfl⟩ | ⟨-, hr'⟩
    · exact hL
    · exact h.each j r hr'
  · rcases getElem?_set_cases ha with ⟨rfl, rfl⟩ | ⟨hj, ha'⟩
    · rcases getElem?_set_cases hb with ⟨rfl, -⟩ | ⟨hk, hb'⟩
      · exact absurd rfl hjk
      · exact (hX k b hk hb').1
    · rcases getElem?_set_cases hb with ⟨rfl, rfl⟩ | ⟨-, hb'⟩
      · exact (hX j a hj ha').2
      · exact h.pair j k a b hjk ha' hb'

/-! ### Two pools -/

/-- Two pools over one store, with related processes at the same places. -/
structure Alongside {ρ : Type*} (S : π → ρ → Prop) (P : ProcessPool σ π) (Q : ProcessPool σ ρ) :
    Prop where
  store : Q.store = P.store
  length : Q.procs.length = P.procs.length
  each : ∀ (i : ℕ) p q, P.procs[i]? = some p → Q.procs[i]? = some q → S p q

namespace Alongside

variable {ρ : Type*} {S : π → ρ → Prop} {P : ProcessPool σ π} {Q : ProcessPool σ ρ} {p p' : π}
  {q' : ρ} {s : σ} {i : ℕ}

/-- The process at the same place. -/
theorem exists_of_getElem? (h : P.Alongside S Q) (hp : P.procs[i]? = some p) :
    ∃ q, Q.procs[i]? = some q ∧ S p q := by
  have hlt : i < Q.procs.length := h.length ▸ (List.getElem?_eq_some_iff.1 hp).1
  exact ⟨Q.procs[i], List.getElem?_eq_getElem hlt, h.each i p _ hp (List.getElem?_eq_getElem hlt)⟩

/-- Both processes of a place are replaced. -/
theorem set (h : P.Alongside S Q) (hS : S p' q') :
    Alongside S ⟨s, P.procs.set i p'⟩ ⟨s, Q.procs.set i q'⟩ := by
  refine ⟨rfl, by simpa using h.length, fun j p q hp hq ↦ ?_⟩
  rcases getElem?_set_cases hp with ⟨rfl, rfl⟩ | ⟨hne, hp⟩
  · rcases getElem?_set_cases hq with ⟨-, rfl⟩ | ⟨hne, -⟩
    · exact hS
    · exact absurd rfl hne
  · rcases getElem?_set_cases hq with ⟨rfl, -⟩ | ⟨-, hq⟩
    · exact absurd rfl hne
    · exact h.each j p q hp hq

/-- One process of a place is replaced, and stays related to the other. -/
theorem set_left (h : P.Alongside S Q) (hS : ∀ q, Q.procs[i]? = some q → S p' q) :
    Alongside S ⟨P.store, P.procs.set i p'⟩ Q := by
  refine ⟨h.store, by simpa using h.length, fun j p q hp hq ↦ ?_⟩
  rcases getElem?_set_cases hp with ⟨rfl, rfl⟩ | ⟨-, hp⟩
  · exact hS q hq
  · exact h.each j p q hp hq

theorem spawn (h : P.Alongside S Q) (hS : S p' q') :
    (P.spawn s [p']).Alongside S (Q.spawn s [q']) := by
  refine ⟨rfl, by simp [ProcessPool.spawn, h.length], fun j p q hp hq ↦ ?_⟩
  rcases getElem?_append_cases hp with ⟨hj, hp⟩ | ⟨hj, hp⟩ <;>
    rcases getElem?_append_cases hq with ⟨hj', hq⟩ | ⟨hj', hq⟩
  · exact h.each j p q hp hq
  · exact absurd hj (by rw [← h.length]; omega)
  · exact absurd hj' (by rw [h.length]; omega)
  · obtain rfl := List.mem_singleton.1 (List.mem_of_getElem? hp)
    obtain rfl := List.mem_singleton.1 (List.mem_of_getElem? hq)
    exact hS

theorem touch (h : P.Alongside S Q) : (P.touch s).Alongside S (Q.touch s) :=
  ⟨rfl, h.length, h.each⟩

end Alongside

end ProcessPool
