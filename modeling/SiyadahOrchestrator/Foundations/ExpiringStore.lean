import Mathlib.Order.Lattice
import Mathlib.Logic.Function.Basic

/-!
# Key–value stores with expiring keys

A store whose entries carry the instant at which they expire, with the atomic commands used for
locks, single-use tokens and deduplication: set-if-absent (`setNx`), read-and-delete (`getdel`) and
`delete`. The clock is an argument of every command, so time may pass arbitrarily between two
commands and an entry disappears without a command naming it.

An entry is live strictly before its expiry instant. A key that a `setNx` found absent is present
afterwards with the value written (`get_setNx`).

A key taken with `setNx` is a lock until it expires. `Guards` is what the holder may rely on
whatever happens to other keys: its time is up, or the entry still stands. A second `setNx` fails
while the first holder's time is not up (`Guards.setNx_eq_none`).
-/

/-- A store with keys `κ`, values `ν` and expiry instants `τ`. -/
structure ExpiringStore (κ ν τ : Type*) where
  /-- The value last written under a key and the instant it expires. -/
  entries : κ → Option (ν × τ)

/-- What becomes of a command sent to the store: it is answered, or it raises on the way, carried
out or not. -/
inductive CommandOutcome where
  | answered
  | raised (applied : Bool)
deriving DecidableEq, Repr

namespace ExpiringStore

variable {κ ν τ : Type*} [DecidableEq κ] [LinearOrder τ]

/-- The empty store. -/
def empty : ExpiringStore κ ν τ := ⟨fun _ ↦ none⟩

/-- The live value of a key. -/
def get (S : ExpiringStore κ ν τ) (now : τ) (k : κ) : Option ν :=
  match S.entries k with
  | some (v, expiry) => if now < expiry then some v else none
  | none => none

/-- Write `k` if it has no live value; `none` when it has. -/
def setNx (S : ExpiringStore κ ν τ) (now : τ) (k : κ) (v : ν) (expiry : τ) :
    Option (ExpiringStore κ ν τ) :=
  match S.get now k with
  | some _ => none
  | none => some ⟨Function.update S.entries k (some (v, expiry))⟩

/-- Write `k`, whatever is there. -/
def setex (S : ExpiringStore κ ν τ) (k : κ) (v : ν) (expiry : τ) : ExpiringStore κ ν τ :=
  ⟨Function.update S.entries k (some (v, expiry))⟩

/-- Remove a key. -/
def delete (S : ExpiringStore κ ν τ) (k : κ) : ExpiringStore κ ν τ :=
  ⟨Function.update S.entries k none⟩

/-- Read a key's live value and remove the key, atomically. -/
def getdel (S : ExpiringStore κ ν τ) (now : τ) (k : κ) : Option ν × ExpiringStore κ ν τ :=
  (S.get now k, S.delete k)

variable {S T : ExpiringStore κ ν τ} {now later : τ} {k k' : κ} {v : ν} {expiry : τ}

/-! ### Reading after a command -/

omit [DecidableEq κ] in
theorem get_eq_some_iff :
    S.get now k = some v ↔ ∃ e, S.entries k = some (v, e) ∧ now < e := by
  unfold get
  rcases hk : S.entries k with - | ⟨w, e⟩
  · simp
  · rcases lt_or_ge now e with hlt | hge
    · simp only [if_pos hlt, Option.some.injEq, Prod.mk.injEq]
      exact ⟨fun h ↦ ⟨e, ⟨h, rfl⟩, hlt⟩, fun ⟨_, ⟨h, _⟩, _⟩ ↦ h⟩
    · simp only [if_neg (not_lt.2 hge), Option.some.injEq, Prod.mk.injEq, reduceCtorEq, false_iff]
      rintro ⟨_, ⟨-, rfl⟩, hlt⟩
      exact not_lt.2 hge hlt

omit [DecidableEq κ] in
@[simp] theorem get_empty : (empty : ExpiringStore κ ν τ).get now k = none := rfl

theorem setNx_eq_some_iff :
    S.setNx now k v expiry = some T ↔
      S.get now k = none ∧ T = ⟨Function.update S.entries k (some (v, expiry))⟩ := by
  unfold setNx
  cases hk : S.get now k with
  | none => simp [eq_comm]
  | some w => simp

theorem setNx_eq_none_iff : S.setNx now k v expiry = none ↔ ∃ w, S.get now k = some w := by
  unfold setNx
  cases hk : S.get now k <;> simp

theorem entries_setNx (h : S.setNx now k v expiry = some T) (k' : κ) :
    T.entries k' = if k' = k then some (v, expiry) else S.entries k' := by
  obtain ⟨-, rfl⟩ := setNx_eq_some_iff.1 h
  exact Function.update_apply _ _ _ _

/-- **What a `setNx` leaves**: its own key with the value written until it expires, and every other
key as it was. -/
theorem get_setNx (h : S.setNx now k v expiry = some T) (k' : κ) :
    T.get later k' =
      if k' = k then (if later < expiry then some v else none) else S.get later k' := by
  unfold get
  rw [entries_setNx h]
  rcases eq_or_ne k' k with rfl | hne
  · simp
  · simp [hne]

omit [LinearOrder τ] in
theorem entries_setex (k' : κ) :
    (S.setex k v expiry).entries k' = if k' = k then some (v, expiry) else S.entries k' :=
  Function.update_apply _ _ _ _

omit [LinearOrder τ] in
theorem entries_delete (k' : κ) :
    (S.delete k).entries k' = if k' = k then none else S.entries k' :=
  Function.update_apply _ _ _ _

/-! ### Locks -/

/-- The lock `k`, taken until `expiry`, has run out or is still in the store. -/
def Guards (S : ExpiringStore κ ν τ) (now : τ) (k : κ) (v : ν) (expiry : τ) : Prop :=
  expiry ≤ now ∨ S.entries k = some (v, expiry)

theorem Guards.of_setNx (h : S.setNx now k v expiry = some T) : T.Guards now k v expiry := by
  right
  rw [entries_setNx h, if_pos rfl]

omit [DecidableEq κ] in
theorem Guards.mono (h : S.Guards now k v expiry) (hle : now ≤ later) :
    S.Guards later k v expiry :=
  h.imp_left fun hexp ↦ hexp.trans hle

omit [DecidableEq κ] in
/-- While its time is not up, the holder's key is live. -/
theorem Guards.get (h : S.Guards now k v expiry) (hlt : now < expiry) : S.get now k = some v := by
  rcases h with hle | hentry
  · exact absurd hlt (not_lt.2 hle)
  · exact get_eq_some_iff.2 ⟨expiry, hentry, hlt⟩

/-- **Nobody takes a lock whose holder's time is not up.** -/
theorem Guards.setNx_eq_none (h : S.Guards now k v expiry) (hlt : now < expiry) {v' : ν}
    {expiry' : τ} : S.setNx now k v' expiry' = none :=
  setNx_eq_none_iff.2 ⟨v, h.get hlt⟩

/-- A lock survives a `setNx`, of another key or of its own. -/
theorem Guards.setNx (h : S.Guards now k v expiry) {v' : ν} {expiry' : τ}
    (hset : S.setNx now k' v' expiry' = some T) : T.Guards now k v expiry := by
  rcases lt_or_ge now expiry with hlt | hge
  · right
    rcases eq_or_ne k k' with rfl | hne
    · rw [h.setNx_eq_none hlt] at hset
      exact absurd hset (by simp)
    · rw [entries_setNx hset, if_neg hne]
      exact h.resolve_left (not_le.2 hlt)
  · exact Or.inl hge

/-- A lock survives the deletion of another key. -/
theorem Guards.delete (h : S.Guards now k v expiry) (hne : k ≠ k') :
    (S.delete k').Guards now k v expiry := by
  refine h.imp_right fun hentry ↦ ?_
  rwa [entries_delete, if_neg hne]

@[simp] theorem getdel_fst : (S.getdel now k).1 = S.get now k := rfl

@[simp] theorem getdel_snd : (S.getdel now k).2 = S.delete k := rfl

end ExpiringStore
