import Mathlib.Data.Set.Basic

/-!
# Confined programs

A state is split into parts, one for each key; `view s k` is the part of the key `k`. A program is
confined to the parts `P` if it changes no other part, and if neither its result nor what it makes
of the parts `P` depends on any other part. The first half is a frame condition, about one run; the
second half is noninterference, about two runs.

Programs are scripts: they read and write the state and may raise. Confinement is kept by
sequencing, by recovering from an exception and by transactions, and a program that is confined to
some parts is confined to any more (`Confined.mono`), so that programs confined to different parts
can be run one after the other (`Confined.runAll`). A `Table` holds rows that belong to one key
each.
-/

/-- A program over a state `S` that may raise. -/
abbrev Script (S ε : Type) := ExceptT ε (StateM S)

namespace Script

variable {S ε α β : Type}

/-- What comes of a script, and the state it leaves. -/
def exec (m : Script S ε α) (s : S) : Except ε α × S := (m.run).run s

/-- A fallible value. -/
def lift (x : Except ε α) : Script S ε α := ExceptT.mk (pure x)

/-- Look at the state. -/
def query (f : S → α) : Script S ε α := ExceptT.mk fun s ↦ (.ok (f s), s)

/-- Change the state. -/
def update (f : S → S) : Script S ε Unit := ExceptT.mk fun s ↦ (.ok (), f s)

/-- Raise unless the condition holds. -/
def ensure (c : Bool) (e : ε) : Script S ε Unit := lift (if c then .ok () else .error e)

/-- All or nothing: a script that raises leaves the state as it was. The store may fail as well;
then nobody knows whether what the script has written is there. -/
def transaction (failure : Option (ε × Bool)) (m : Script S ε α) : Script S ε α :=
  ExceptT.mk fun s ↦ (failure.elim (m.exec s).1 fun f ↦ .error f.1,
    if (m.exec s).1.isOk && failure.elim true Prod.snd then (m.exec s).2 else s)

/-- Go on with a value or with an exception. -/
def after (onOk : α → Script S ε β) (onError : ε → Script S ε β) : Except ε α → Script S ε β
  | .ok a => onOk a
  | .error e => onError e

/-- The answers of scripts that are run one after the other. -/
def runAll : List (Script S ε α) → S → List (Except ε α) × S
  | [], s => ([], s)
  | m :: ms, s => ((m.exec s).1 :: (runAll ms (m.exec s).2).1, (runAll ms (m.exec s).2).2)

@[simp] theorem exec_pure (a : α) (s : S) : (pure a : Script S ε α).exec s = (.ok a, s) := rfl

@[simp] theorem exec_lift (x : Except ε α) (s : S) : (lift x).exec s = (x, s) := rfl

@[simp] theorem exec_query (f : S → α) (s : S) :
    (query f : Script S ε α).exec s = (.ok (f s), s) := rfl

@[simp] theorem exec_update (f : S → S) (s : S) :
    (update f : Script S ε Unit).exec s = (.ok (), f s) := rfl

theorem exec_bind (m : Script S ε α) (f : α → Script S ε β) (s : S) :
    (m >>= f).exec s = (after f (fun e ↦ lift (.error e)) (m.exec s).1).exec (m.exec s).2 := by
  show (m >>= f) s = after f _ (m s).1 (m s).2
  rcases h : m s with ⟨r, s'⟩
  cases r <;>
    simp [bind, ExceptT.bind, ExceptT.mk, StateT.bind, h, ExceptT.bindCont, after, lift]

/-- A script that gets through has got through its parts. -/
theorem exec_bind_eq_ok {m : Script S ε α} {f : α → Script S ε β} {s t : S} {b : β}
    (h : (m >>= f).exec s = (.ok b, t)) :
    ∃ a u, m.exec s = (.ok a, u) ∧ (f a).exec u = (.ok b, t) := by
  rw [exec_bind] at h
  rcases hm : m.exec s with ⟨r, u⟩
  rw [hm] at h
  cases r with
  | ok a => exact ⟨a, u, rfl, h⟩
  | error e => exact absurd (congrArg Prod.fst h) (by simp [after])

/-- A transaction that gets through is as the script in it. -/
theorem exec_of_transaction_eq_ok {failure : Option (ε × Bool)} {m : Script S ε α} {s t : S} {a : α}
    (h : (transaction failure m).exec s = (.ok a, t)) : m.exec s = (.ok a, t) := by
  rcases failure with - | f
  · have hok : (m.exec s).1 = .ok a := congrArg Prod.fst h
    have hstate : (if (m.exec s).1.isOk && true then (m.exec s).2 else s) = t := congrArg Prod.snd h
    rw [hok] at hstate
    exact Prod.ext hok hstate
  · have herror : (Except.error f.1 : Except ε α) = .ok a := congrArg Prod.fst h
    exact absurd herror (by simp)

theorem exec_tryCatch (m : Script S ε α) (handler : ε → Script S ε α) (s : S) :
    (tryCatch m handler).exec s = (after pure handler (m.exec s).1).exec (m.exec s).2 := by
  show (tryCatch m handler) s = after pure handler (m s).1 (m s).2
  rcases h : m s with ⟨r, s'⟩
  cases r with
  | ok a =>
    simp [tryCatch, tryCatchThe, MonadExceptOf.tryCatch, ExceptT.tryCatch, ExceptT.mk, bind,
      StateT.bind, h, after]
    rfl
  | error e =>
    simp [tryCatch, tryCatchThe, MonadExceptOf.tryCatch, ExceptT.tryCatch, ExceptT.mk, bind,
      StateT.bind, h, after]

/-- Where the handler raises, only the script itself gets through. -/
theorem exec_of_tryCatch_eq_ok {m : Script S ε α} {g : ε → ε} {s t : S} {a : α}
    (h : (tryCatch m fun e ↦ lift (.error (g e))).exec s = (.ok a, t)) : m.exec s = (.ok a, t) := by
  rw [exec_tryCatch] at h
  rcases hm : m.exec s with ⟨r, u⟩
  rw [hm] at h
  cases r with
  | ok b => exact h
  | error e => exact absurd (congrArg Prod.fst h) (by simp [after])

end Script

/-! ### Confinement -/

section Confined

variable {S K V ε α β : Type}

/-- Two states agree on the parts of these keys. -/
def AgreeOn (view : S → K → V) (P : Set K) (s t : S) : Prop := ∀ k ∈ P, view s k = view t k

/-- A program changes no part but those in `P`, and depends on no other part. -/
structure Confined (view : S → K → V) (P : Set K) (m : Script S ε α) : Prop where
  frame : ∀ s, AgreeOn view Pᶜ (m.exec s).2 s
  result : ∀ s t, AgreeOn view P s t → (m.exec s).1 = (m.exec t).1
  agree : ∀ s t, AgreeOn view P s t → AgreeOn view P (m.exec s).2 (m.exec t).2

variable {view : S → K → V} {P Q : Set K} {m : Script S ε α} {s t u : S}

theorem AgreeOn.refl (s : S) : AgreeOn view P s s := fun _ _ ↦ rfl

theorem AgreeOn.trans (hst : AgreeOn view P s t) (htu : AgreeOn view P t u) :
    AgreeOn view P s u := fun k hk ↦ (hst k hk).trans (htu k hk)

theorem AgreeOn.subset (hPQ : P ⊆ Q) (h : AgreeOn view Q s t) : AgreeOn view P s t :=
  fun k hk ↦ h k (hPQ hk)

namespace Confined

/-- A program that is confined to some parts is confined to any more: what it leaves alone agrees
afterwards where it agreed before. -/
theorem mono (hPQ : P ⊆ Q) (hm : Confined view P m) : Confined view Q m where
  frame s := (hm.frame s).subset fun _ hk hP ↦ hk (hPQ hP)
  result s t h := hm.result s t (h.subset hPQ)
  agree s t h k hk := by
    by_cases hP : k ∈ P
    · exact hm.agree s t (h.subset hPQ) k hP
    · calc view (m.exec s).2 k = view s k := hm.frame s k hP
        _ = view t k := h k hk
        _ = view (m.exec t).2 k := (hm.frame t k hP).symm

theorem lift (x : Except ε α) : Confined view P (Script.lift x : Script S ε α) where
  frame s := .refl s
  result _ _ _ := rfl
  agree _ _ h := h

theorem pure (a : α) : Confined view P (Pure.pure a : Script S ε α) := lift (.ok a)

theorem ensure (c : Bool) (e : ε) : Confined view P (Script.ensure c e : Script S ε Unit) := lift _

theorem query {f : S → α} (hf : ∀ s t, AgreeOn view P s t → f s = f t) :
    Confined view P (Script.query f : Script S ε α) where
  frame s := .refl s
  result s t h := congrArg Except.ok (hf s t h)
  agree _ _ h := h

theorem update {f : S → S} (hframe : ∀ s, AgreeOn view Pᶜ (f s) s)
    (hagree : ∀ s t, AgreeOn view P s t → AgreeOn view P (f s) (f t)) :
    Confined view P (Script.update f : Script S ε Unit) where
  frame := hframe
  result _ _ _ := rfl
  agree := hagree

/-- A program that goes on with what has come of another one. -/
theorem of_exec {n : Script S ε β} {next : Except ε α → Script S ε β} (hm : Confined view P m)
    (hnext : ∀ s, Confined view P (next (m.exec s).1))
    (hn : ∀ s, n.exec s = (next (m.exec s).1).exec (m.exec s).2) : Confined view P n where
  frame s := by
    rw [hn]
    exact ((hnext s).frame _).trans (hm.frame s)
  result s t h := by
    rw [hn, hn, hm.result s t h]
    exact (hnext t).result _ _ (hm.agree s t h)
  agree s t h := by
    rw [hn, hn, hm.result s t h]
    exact (hnext t).agree _ _ (hm.agree s t h)

/-- Programs in sequence, where the second one is confined for the values that the first one
returns. -/
theorem bind_of_result {f : α → Script S ε β} (hm : Confined view P m)
    (hf : ∀ s a, (m.exec s).1 = .ok a → Confined view P (f a)) : Confined view P (m >>= f) := by
  refine hm.of_exec (fun s ↦ ?_) (Script.exec_bind m f)
  cases hr : (m.exec s).1 with
  | ok a => exact hf s a hr
  | error e => exact lift _

/-- Programs in sequence. -/
theorem bind {f : α → Script S ε β} (hm : Confined view P m) (hf : ∀ a, Confined view P (f a)) :
    Confined view P (m >>= f) := hm.bind_of_result fun _ a _ ↦ hf a

/-- A program with a handler. -/
theorem tryCatch {handler : ε → Script S ε α} (hm : Confined view P m)
    (hhandler : ∀ e, Confined view P (handler e)) :
    Confined view P (MonadExcept.tryCatch m handler) := by
  refine hm.of_exec (fun s ↦ ?_) (Script.exec_tryCatch m handler)
  cases (m.exec s).1 with
  | ok a => exact pure a
  | error e => exact hhandler e

/-- Whether a transaction is rolled back depends on its result only. -/
theorem transaction {failure : Option (ε × Bool)} (hm : Confined view P m) :
    Confined view P (Script.transaction failure m) where
  frame s := by
    show AgreeOn view Pᶜ (if _ then _ else _) s
    split
    · exact hm.frame s
    · exact .refl s
  result s t h := by
    show failure.elim (m.exec s).1 _ = failure.elim (m.exec t).1 _
    rw [hm.result s t h]
  agree s t h := by
    show AgreeOn view P (if _ then _ else _) (if _ then _ else _)
    rw [hm.result s t h]
    split
    · exact hm.agree s t h
    · exact h

/-- **Runs.** Programs that are confined to `P` are so together. -/
theorem runAll {ms : List (Script S ε α)} (hms : ∀ m ∈ ms, Confined view P m) (s : S) :
    AgreeOn view Pᶜ (Script.runAll ms s).2 s ∧ ∀ t, AgreeOn view P s t →
      (Script.runAll ms s).1 = (Script.runAll ms t).1 ∧
      AgreeOn view P (Script.runAll ms s).2 (Script.runAll ms t).2 := by
  induction ms generalizing s with
  | nil => exact ⟨.refl s, fun t h ↦ ⟨rfl, h⟩⟩
  | cons m ms ih =>
    have hm := hms m List.mem_cons_self
    have hrest := ih fun m' hm' ↦ hms m' (List.mem_cons_of_mem _ hm')
    refine ⟨(hrest (m.exec s).2).1.trans (hm.frame s), fun t h ↦ ?_⟩
    obtain ⟨hanswers, hagree⟩ := (hrest (m.exec s).2).2 (m.exec t).2 (hm.agree s t h)
    refine ⟨?_, hagree⟩
    show (m.exec s).1 :: _ = (m.exec t).1 :: _
    rw [hm.result s t h, hanswers]

end Confined

end Confined

/-! ### Tables

The rows of a table belong to one key each, and the part of a key holds the rows of that key. -/

/-- The rows of one key. -/
def rowsOf {K ρ : Type} [DecidableEq K] (key : ρ → K) (k : K) (rows : List ρ) : List ρ :=
  rows.filter fun r ↦ key r = k

/-- Insert the row, or overwrite the rows that its key has. -/
def saveRow {K ρ : Type} [DecidableEq K] (key : ρ → K) (row : ρ) (rows : List ρ) : List ρ :=
  if rows.any fun r ↦ key r = key row then rows.map fun r ↦ if key r = key row then row else r
  else rows ++ [row]

/-- A table of the state, whose rows are split among the parts. -/
structure Table {S K V : Type} [DecidableEq K] (view : S → K → V) (ρ : Type) where
  key : ρ → K
  rows : S → List ρ
  setRows : S → List ρ → S
  rows_congr : ∀ {s t k}, view s k = view t k → rowsOf key k (rows s) = rowsOf key k (rows t)
  view_congr : ∀ {s t k l l'}, view s k = view t k → rowsOf key k l = rowsOf key k l' →
    view (setRows s l) k = view (setRows t l') k
  setRows_rows : ∀ s, setRows s (rows s) = s

section Tables

variable {S K V ρ ε : Type} [DecidableEq K] {view : S → K → V}

/-- The rows of one key. -/
def Table.select (t : Table view ρ) (k : K) : Script S ε (List ρ) :=
  .query fun s ↦ rowsOf t.key k (t.rows s)

/-- `INSERT`, or `UPDATE` of what the key has. -/
def Table.save (t : Table view ρ) (row : ρ) : Script S ε Unit :=
  .update fun s ↦ t.setRows s (saveRow t.key row (t.rows s))

variable {key : ρ → K} {k : K} {row : ρ} {rows : List ρ} {t : Table view ρ} {P : Set K}

/-- Overwriting rows and selecting a key commute. -/
theorem rowsOf_map_overwrite : rowsOf key k (rows.map fun r ↦ if key r = key row then row else r) =
    (rowsOf key k rows).map fun r ↦ if key r = key row then row else r := by
  have hkey : ∀ r, key (if key r = key row then row else r) = key r := by
    intro r
    split
    · rename_i h
      exact h.symm
    · rfl
  rw [rowsOf, rowsOf, List.filter_map]
  congr 1
  exact List.filter_congr fun r _ ↦ by rw [Function.comp_apply, hkey]

/-- Saving a row leaves the rows of other keys as they are. -/
theorem rowsOf_saveRow_of_ne (hk : k ≠ key row) :
    rowsOf key k (saveRow key row rows) = rowsOf key k rows := by
  rw [saveRow]
  split
  · -- The rows of `k` are among those that are kept.
    have hkeep : ∀ r ∈ rowsOf key k rows, (if key r = key row then row else r) = r := by
      intro r hr
      have hkey : key r = k := by simpa using (List.mem_filter.1 hr).2
      exact if_neg fun h ↦ hk (hkey.symm.trans h)
    rw [rowsOf_map_overwrite]
    exact (List.map_congr_left hkeep).trans (List.map_id _)
  · have hrow : ¬key row = k := fun h ↦ hk h.symm
    rw [rowsOf, List.filter_append]
    simp [hrow, rowsOf]

/-- Saving a row and selecting its key commute. -/
theorem rowsOf_saveRow_self :
    rowsOf key (key row) (saveRow key row rows) = saveRow key row (rowsOf key (key row) rows) := by
  have hany : ((rowsOf key (key row) rows).any fun r ↦ key r = key row) =
      rows.any fun r ↦ key r = key row := by
    rw [rowsOf, List.any_filter]
    simp
  rw [saveRow, saveRow, hany]
  split
  · exact rowsOf_map_overwrite
  · rw [rowsOf, List.filter_append]
    simp [rowsOf]

/-- A key that has one row at most has the saved row. -/
theorem rowsOf_saveRow_eq_singleton (hk : key row = k) (hlen : (rowsOf key k rows).length ≤ 1) :
    rowsOf key k (saveRow key row rows) = [row] := by
  subst hk
  rw [rowsOf_saveRow_self]
  rcases hrows : rowsOf key (key row) rows with - | ⟨r, - | ⟨r', rest⟩⟩
  · rfl
  · have hmem : r ∈ rowsOf key (key row) rows := by simp [hrows]
    have hkey : key r = key row := by simpa using (List.mem_filter.1 hmem).2
    simp [saveRow, hkey]
  · rw [hrows, List.length_cons, List.length_cons] at hlen
    omega

/-- A row that is selected belongs to the key. -/
theorem Table.key_of_select {s : S} {l : List ρ}
    (h : ((t.select k : Script S ε _).exec s).1 = .ok l) (hrow : row ∈ l) : t.key row = k := by
  obtain rfl := Except.ok.inj h
  simpa using (List.mem_filter.1 hrow).2

theorem Confined.select (hk : k ∈ P) : Confined view P (t.select k : Script S ε (List ρ)) :=
  query fun _ _ h ↦ t.rows_congr (h k hk)

theorem Confined.save (hk : t.key row ∈ P) : Confined view P (t.save row : Script S ε Unit) := by
  refine update (fun s k hkP ↦ ?_) fun s s' h k hkP ↦ ?_
  · have hne : k ≠ t.key row := fun heq ↦ hkP (heq ▸ hk)
    have hrows : rowsOf t.key k (saveRow t.key row (t.rows s)) = rowsOf t.key k (t.rows s) :=
      rowsOf_saveRow_of_ne hne
    exact (t.view_congr rfl hrows).trans (congrArg (view · k) (t.setRows_rows s))
  · refine t.view_congr (h k hkP) ?_
    by_cases heq : k = t.key row
    · subst heq
      rw [rowsOf_saveRow_self, rowsOf_saveRow_self, t.rows_congr (h _ hkP)]
    · rw [rowsOf_saveRow_of_ne heq, rowsOf_saveRow_of_ne heq]
      exact t.rows_congr (h k hkP)

end Tables
