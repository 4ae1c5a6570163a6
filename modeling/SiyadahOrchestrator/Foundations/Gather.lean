import SiyadahOrchestrator.Foundations.Dialogue
import SiyadahOrchestrator.Foundations.ProcessPool
import SiyadahOrchestrator.Foundations.TransitionSystem

/-!
# Gathering concurrent tasks

Tasks run concurrently; each talks to a peer that answers it, and counts itself under a counter when
it ends. Waiting for all of them ends when every task is counted, or with the first exception that a
task raises.

What a task ends with is decided by its own replies (`Job.outcome`), whatever the schedule; the
counters are the number of the tasks that end so. A batch of tasks is waited for before the next one
is started, so an exception keeps the later batches from being started at all.

* `Gathers.ok`, `Gathers.error` — what a batch ends with.
* `Batched.ok`, `Batched.error` — what a sequence of batches ends with.
* `exists_gathers`, `exists_batched` — some schedule brings them to an end.
-/

/-- Counters. -/
abbrev Tally (κ : Type) := κ → ℕ

/-- One more under a counter. -/
def Tally.bump {κ : Type} [DecidableEq κ] (s : Tally κ) (c : κ) : Tally κ :=
  fun d ↦ if d = c then s d + 1 else s d

/-- A task: a program, and the reply to each of its requests. -/
structure Job (Q R ε κ : Type) where
  prog : Dialogue Q R Unit ε κ
  answer : Q → R

/-- How far a task has got. -/
inductive JobState (Q R ε κ : Type) where
  | running (t : Talk Q R (Except ε κ × Unit))
  | counted (c : κ)
  | raised (e : ε)

/-- A task that has been started. -/
structure StartedJob (Q R ε κ : Type) where
  answer : Q → R
  state : JobState Q R ε κ

variable {Q R ε κ : Type}

/-- The program under its replies. -/
def Job.outcome (t : Job Q R ε κ) : Except ε κ := t.prog.against t.answer ()

/-- The outcome is that counter. -/
def isOutcome [DecidableEq κ] (c : κ) : Except ε κ → Bool
  | .ok d => d = c
  | .error _ => false

/-- The task ends under the counter. -/
def Job.endsUnder [DecidableEq κ] (c : κ) (t : Job Q R ε κ) : Bool := isOutcome c t.outcome

/-- The task, started. -/
def Job.start (t : Job Q R ε κ) : StartedJob Q R ε κ := ⟨t.answer, .running (t.prog ())⟩

namespace StartedJob

/-- What the task ends with. -/
def outcome (p : StartedJob Q R ε κ) : Except ε κ :=
  match p.state with
  | .running t => (t.answered p.answer).2.1
  | .counted c => .ok c
  | .raised e => .error e

/-- The task is still running. -/
def isRunning (p : StartedJob Q R ε κ) : Bool :=
  match p.state with
  | .running _ => true
  | _ => false

variable [DecidableEq κ]

/-- The task has been counted under the counter. -/
def isCounted (c : κ) (p : StartedJob Q R ε κ) : Bool :=
  match p.state with
  | .counted d => d = c
  | _ => false

/-- A step of a task: a reply arrives, or it counts itself, or its exception is seen. -/
def next (s : Tally κ) (p : StartedJob Q R ε κ) : Option (Tally κ × StartedJob Q R ε κ) :=
  match p.state with
  | .running (.ask q k) => some (s, ⟨p.answer, .running (k (p.answer q))⟩)
  | .running (.done (.ok c, _)) => some (s.bump c, ⟨p.answer, .counted c⟩)
  | .running (.done (.error e, _)) => some (s, ⟨p.answer, .raised e⟩)
  | _ => none

/-- **One step of a task**: what it ends with stays, and it counts at most itself. -/
theorem next_eq_some {s s' : Tally κ} {p q : StartedJob Q R ε κ} (h : p.next s = some (s', q)) :
    q.outcome = p.outcome ∧
      ∀ c, p.isCounted c = false ∧ s' c = s c + if q.isCounted c then 1 else 0 := by
  obtain ⟨answer, state⟩ := p
  cases state with
  | counted c => exact absurd h (by simp [next])
  | raised e => exact absurd h (by simp [next])
  | running t =>
    cases t with
    | ask q' k =>
      obtain ⟨rfl, rfl⟩ := Prod.mk.inj (Option.some.inj h)
      exact ⟨rfl, fun c ↦ ⟨rfl, rfl⟩⟩
    | done x =>
      obtain ⟨_ | d, u⟩ := x
      · obtain ⟨rfl, rfl⟩ := Prod.mk.inj (Option.some.inj h)
        exact ⟨rfl, fun c ↦ ⟨rfl, rfl⟩⟩
      · obtain ⟨rfl, rfl⟩ := Prod.mk.inj (Option.some.inj h)
        refine ⟨rfl, fun c ↦ ⟨rfl, ?_⟩⟩
        show (if c = d then s c + 1 else s c) = s c + if decide (d = c) then 1 else 0
        by_cases hc : c = d
        · rw [if_pos hc, if_pos (decide_eq_true hc.symm)]
        · rw [if_neg hc, if_neg fun hd ↦ hc (of_decide_eq_true hd).symm]
          rfl

end StartedJob

/-! ### A batch -/

section Batch

variable [DecidableEq κ]

/-- The tasks of a batch, scheduled one step at a time. -/
def gatherSystem (Q R ε κ : Type) [DecidableEq κ] :
    TransitionSystem (ProcessPool (Tally κ) (StartedJob Q R ε κ)) ℕ :=
  ⟨fun P i ↦ P.advance StartedJob.next i⟩

/-- Waiting for a batch: it returns the counters when every task is counted, and raises what a task
has raised. -/
inductive Gathers (s : Tally κ) (tasks : List (Job Q R ε κ)) : Except ε (Tally κ) → Prop
  | returns {schedule : List ℕ} {P : ProcessPool (Tally κ) (StartedJob Q R ε κ)}
      (hrun : (gatherSystem Q R ε κ).run ⟨s, tasks.map Job.start⟩ schedule = some P)
      (hdone : ∀ p ∈ P.procs, ∃ c, p.state = .counted c) : Gathers s tasks (.ok P.store)
  | raises {schedule : List ℕ} {P : ProcessPool (Tally κ) (StartedJob Q R ε κ)}
      (hrun : (gatherSystem Q R ε κ).run ⟨s, tasks.map Job.start⟩ schedule = some P)
      {p : StartedJob Q R ε κ} (hp : p ∈ P.procs) {e : ε} (he : p.state = .raised e) :
      Gathers s tasks (.error e)

/-- What a schedule keeps: the outcomes of the tasks, and the number of those that are counted. -/
structure Conserves (s : Tally κ) (outcomes : List (Except ε κ))
    (P : ProcessPool (Tally κ) (StartedJob Q R ε κ)) : Prop where
  outcomes : P.procs.map StartedJob.outcome = outcomes
  counted : ∀ c, P.store c = s c + P.procs.countP (StartedJob.isCounted c)

variable {s s' : Tally κ} {tasks : List (Job Q R ε κ)} {outcomes : List (Except ε κ)}
  {P P' : ProcessPool (Tally κ) (StartedJob Q R ε κ)} {i : ℕ} {e : ε}

theorem Conserves.step (h : Conserves s outcomes P)
    (hstep : (gatherSystem Q R ε κ).step P i = some P') : Conserves s outcomes P' := by
  obtain ⟨p, s', q, hp, hnext, rfl⟩ := ProcessPool.advance_eq_some.1 hstep
  obtain ⟨houtcome, hcount⟩ := StartedJob.next_eq_some hnext
  obtain ⟨hi, hpi⟩ := List.getElem?_eq_some_iff.1 hp
  constructor
  · have hself : P.procs.set i p = P.procs := by
      rw [← hpi]
      exact List.set_getElem_self hi
    rw [List.map_set, houtcome, ← List.map_set, hself, h.outcomes]
  · intro c
    obtain ⟨hnot, hs'⟩ := hcount c
    show s' c = _
    rw [hs', h.counted c, List.countP_set hi, hpi, hnot]
    simp only [Bool.false_eq_true, if_false, Nat.sub_zero, Nat.add_assoc]

theorem conserves_start (s : Tally κ) (tasks : List (Job Q R ε κ)) :
    Conserves s (tasks.map Job.outcome) ⟨s, tasks.map Job.start⟩ := by
  constructor
  · rw [List.map_map]
    rfl
  · intro c
    have hnone : (tasks.map Job.start).countP (StartedJob.isCounted c) = 0 := by
      rw [List.countP_eq_zero]
      intro p hp
      obtain ⟨t, -, rfl⟩ := List.mem_map.1 hp
      exact Bool.false_ne_true
    rw [hnone]
    rfl

theorem conserves_of_run {schedule : List ℕ}
    (hrun : (gatherSystem Q R ε κ).run ⟨s, tasks.map Job.start⟩ schedule = some P) :
    Conserves s (tasks.map Job.outcome) P :=
  TransitionSystem.invariant_of_run' (fun _ _ _ h hstep ↦ h.step hstep) (conserves_start s tasks)
    hrun

/-- **A batch that returns** has counted every task under what it ends with. -/
theorem Gathers.ok (h : Gathers s tasks (.ok s')) :
    (∀ t ∈ tasks, ∃ c, t.outcome = .ok c) ∧ ∀ c, s' c = s c + tasks.countP (Job.endsUnder c) := by
  obtain ⟨hrun, hdone⟩ := h
  rename_i P
  obtain ⟨houtcomes, hcounted⟩ := conserves_of_run hrun
  have hstate : ∀ p ∈ P.procs, ∃ c, p.outcome = .ok c ∧
      ∀ d, p.isCounted d = isOutcome d p.outcome := by
    intro p hp
    obtain ⟨c, hc⟩ := hdone p hp
    have hout : p.outcome = .ok c := by rw [StartedJob.outcome, hc]
    refine ⟨c, hout, fun d ↦ ?_⟩
    rw [StartedJob.isCounted, hc, hout]
    rfl
  constructor
  · intro t ht
    have hmem : t.outcome ∈ P.procs.map StartedJob.outcome := houtcomes ▸ List.mem_map_of_mem ht
    obtain ⟨p, hp, heq⟩ := List.mem_map.1 hmem
    obtain ⟨c, hc, -⟩ := hstate p hp
    exact ⟨c, heq ▸ hc⟩
  · intro c
    have hcount : P.procs.countP (StartedJob.isCounted c) = tasks.countP (Job.endsUnder c) := by
      calc P.procs.countP (StartedJob.isCounted c)
          = P.procs.countP (isOutcome c ∘ StartedJob.outcome) :=
            List.countP_congr fun p hp ↦ by
              obtain ⟨-, -, hp'⟩ := hstate p hp
              rw [hp' c]
              rfl
        _ = (tasks.map Job.outcome).countP (isOutcome c) := by rw [← List.countP_map, houtcomes]
        _ = tasks.countP (Job.endsUnder c) := List.countP_map
    rw [hcounted c, hcount]

/-- **A batch that raises** has a task that does. -/
theorem Gathers.error (h : Gathers s tasks (.error e)) : ∃ t ∈ tasks, t.outcome = .error e := by
  cases h with
  | raises hrun hp he =>
    obtain ⟨houtcomes, -⟩ := conserves_of_run hrun
    have hmem := List.mem_map_of_mem (f := StartedJob.outcome) hp
    rw [houtcomes] at hmem
    obtain ⟨t, ht, heq⟩ := List.mem_map.1 hmem
    refine ⟨t, ht, heq.trans ?_⟩
    rw [StartedJob.outcome, he]

/-- A task that runs can be brought to its end, all others left as they are. -/
theorem exists_finish {answer : Q → R} (t : Talk Q R (Except ε κ × Unit))
    (hi : P.procs[i]? = some ⟨answer, .running t⟩) :
    ∃ schedule P' q, (gatherSystem Q R ε κ).run P schedule = some P' ∧
      P'.procs = P.procs.set i q ∧ q.isRunning = false := by
  induction t generalizing P with
  | ask q k ih =>
    have hstep : (gatherSystem Q R ε κ).step P i =
        some ⟨P.store, P.procs.set i ⟨answer, .running (k (answer q))⟩⟩ :=
      ProcessPool.advance_eq_some.2 ⟨_, _, _, hi, rfl, rfl⟩
    obtain ⟨hlt, -⟩ := List.getElem?_eq_some_iff.1 hi
    obtain ⟨schedule, P', q', hrun, hprocs, hq'⟩ := ih (answer q)
      (P := ⟨P.store, P.procs.set i ⟨answer, .running (k (answer q))⟩⟩)
      (List.getElem?_set_self hlt)
    refine ⟨i :: schedule, P', q', ?_, ?_, hq'⟩
    · rw [TransitionSystem.run_cons, hstep]
      exact hrun
    · rw [hprocs, List.set_set]
  | done x =>
    have hstep : ∃ s' q, (⟨answer, .running (.done x)⟩ : StartedJob Q R ε κ).next P.store =
        some (s', q) ∧ q.isRunning = false := by
      obtain ⟨_ | c, u⟩ := x
      · exact ⟨_, _, rfl, rfl⟩
      · exact ⟨_, _, rfl, rfl⟩
    obtain ⟨s', q, hnext, hq⟩ := hstep
    have hadvance : (gatherSystem Q R ε κ).step P i = some ⟨s', P.procs.set i q⟩ :=
      ProcessPool.advance_eq_some.2 ⟨_, _, _, hi, hnext, rfl⟩
    refine ⟨[i], ⟨s', P.procs.set i q⟩, q, ?_, rfl, hq⟩
    rw [TransitionSystem.run_cons, hadvance]
    rfl

/-- Every batch can be brought to an end. -/
theorem exists_all_finished (P : ProcessPool (Tally κ) (StartedJob Q R ε κ)) :
    ∃ schedule P', (gatherSystem Q R ε κ).run P schedule = some P' ∧
      ∀ p ∈ P'.procs, p.isRunning = false := by
  induction hn : P.procs.countP StartedJob.isRunning using Nat.strongRecOn generalizing P with
  | ind n ih =>
    by_cases hdone : ∀ p ∈ P.procs, p.isRunning = false
    · exact ⟨[], P, rfl, hdone⟩
    · obtain ⟨p, hp, hrunning⟩ : ∃ p ∈ P.procs, p.isRunning = true := by
        by_contra hnone
        exact hdone fun p hp ↦ eq_false_of_ne_true fun h ↦ hnone ⟨p, hp, h⟩
      obtain ⟨i, hi⟩ := List.getElem?_of_mem hp
      obtain ⟨answer, state⟩ := p
      cases state with
      | counted c => exact absurd hrunning Bool.false_ne_true
      | raised e => exact absurd hrunning Bool.false_ne_true
      | running t =>
        obtain ⟨schedule, P', q, hrun, hprocs, hq⟩ := exists_finish t hi
        obtain ⟨hlt, hget⟩ := List.getElem?_eq_some_iff.1 hi
        have hfewer : P'.procs.countP StartedJob.isRunning < n := by
          have hpos : 0 < P.procs.countP StartedJob.isRunning :=
            List.countP_pos_iff.2 ⟨_, hp, hrunning⟩
          rw [hprocs, List.countP_set hlt, hget, hq, if_pos hrunning]
          simp only [Bool.false_eq_true, if_false, Nat.add_zero]
          omega
        obtain ⟨schedule', P'', hrun', hall⟩ := ih _ hfewer P' rfl
        refine ⟨schedule ++ schedule', P'', ?_, hall⟩
        rw [TransitionSystem.run_append, hrun]
        exact hrun'

theorem exists_gathers (s : Tally κ) (tasks : List (Job Q R ε κ)) : ∃ r, Gathers s tasks r := by
  obtain ⟨schedule, P, hrun, hfinished⟩ := exists_all_finished ⟨s, tasks.map Job.start⟩
  by_cases hraised : ∃ p ∈ P.procs, ∃ e, p.state = .raised e
  · obtain ⟨p, hp, e, he⟩ := hraised
    exact ⟨_, .raises hrun hp he⟩
  · refine ⟨_, .returns hrun fun p hp ↦ ?_⟩
    have hp' := hfinished p hp
    rw [StartedJob.isRunning] at hp'
    cases hstate : p.state with
    | running t =>
      rw [hstate] at hp'
      exact absurd hp' (by simp)
    | counted c => exact ⟨c, rfl⟩
    | raised e => exact absurd ⟨p, hp, e, hstate⟩ hraised

end Batch

/-! ### Batch after batch -/

section Batches

variable [DecidableEq κ]

/-- A batch is waited for before the next one is started. -/
inductive Batched : Tally κ → List (List (Job Q R ε κ)) → Except ε (Tally κ) → Prop
  | nil (s : Tally κ) : Batched s [] (.ok s)
  | next {s s' : Tally κ} {b : List (Job Q R ε κ)} {bs : List (List (Job Q R ε κ))}
      {r : Except ε (Tally κ)} (hb : Gathers s b (.ok s')) (hbs : Batched s' bs r) :
      Batched s (b :: bs) r
  | stop {s : Tally κ} {b : List (Job Q R ε κ)} {bs : List (List (Job Q R ε κ))} {e : ε}
      (hb : Gathers s b (.error e)) : Batched s (b :: bs) (.error e)

variable {s s' : Tally κ} {bs : List (List (Job Q R ε κ))} {e : ε}

/-- **Batches that return** have counted every task of every batch. -/
theorem Batched.ok (h : Batched s bs (.ok s')) :
    (∀ t ∈ bs.flatten, ∃ c, t.outcome = .ok c) ∧
      ∀ c, s' c = s c + bs.flatten.countP (Job.endsUnder c) := by
  induction bs generalizing s with
  | nil =>
    cases h
    exact ⟨fun t ht ↦ absurd ht List.not_mem_nil, fun c ↦ rfl⟩
  | cons b bs ih =>
    cases h with
    | next hb hbs =>
      obtain ⟨hfirst, hcount⟩ := hb.ok
      obtain ⟨hrest, hcounts⟩ := ih hbs
      refine ⟨fun t ht ↦ ?_, fun c ↦ ?_⟩
      · rw [List.flatten_cons] at ht
        rcases List.mem_append.1 ht with ht | ht
        · exact hfirst t ht
        · exact hrest t ht
      · rw [List.flatten_cons, List.countP_append, hcounts c, hcount c, Nat.add_assoc]

/-- **Batches that raise** have a task that does. -/
theorem Batched.error (h : Batched s bs (.error e)) :
    ∃ t ∈ bs.flatten, t.outcome = .error e := by
  induction bs generalizing s with
  | nil => cases h
  | cons b bs ih =>
    rw [List.flatten_cons]
    cases h with
    | next hb hbs =>
      obtain ⟨t, ht, he⟩ := ih hbs
      exact ⟨t, List.mem_append_right _ ht, he⟩
    | stop hb =>
      obtain ⟨t, ht, he⟩ := hb.error
      exact ⟨t, List.mem_append_left _ ht, he⟩

theorem exists_batched (s : Tally κ) (bs : List (List (Job Q R ε κ))) : ∃ r, Batched s bs r := by
  induction bs generalizing s with
  | nil => exact ⟨_, .nil s⟩
  | cons b bs ih =>
    obtain ⟨_ | s', hb⟩ := exists_gathers s b
    · exact ⟨_, .stop hb⟩
    · obtain ⟨r, hr⟩ := ih s'
      exact ⟨r, .next hb hr⟩

end Batches
