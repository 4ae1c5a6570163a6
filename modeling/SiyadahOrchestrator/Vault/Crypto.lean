import SiyadahOrchestrator.Foundations.IdealAead
import Mathlib.Data.UInt

/-!
# Envelope encryption

The functions of `siyadah_crypto.py`: a data encryption key (DEK) is wrapped under the master key,
tokens are sealed under the DEK, and the format version is authenticated by being part of every
associated-data string.

AES-GCM itself is the `cryptography` package's and enters as a parameter, `AesGcm`: an ideal AEAD on
byte strings whose ciphertexts carry at least the 16-byte tag. Randomness (`secrets.token_bytes`) is
an argument, `TokenBytes n`, so freshness is a fact about arguments and never about a hidden state.

`CryptoError` has one constructor for each exception class these functions raise. The lemmas say
what each operation does on what the others produce, and nothing downstream unfolds them.
-/

namespace Siyadah

/-! ### Bytes and strings -/

/-- Python's `bytes`. -/
abbrev Bytes := List UInt8

/-- `str.encode("utf-8")`, for well-formed Unicode. -/
def utf8 (s : String) : Bytes := s.toByteArray.data.toList

/-- `bytes.decode("utf-8")`; `none` is `UnicodeDecodeError`. -/
def utf8Decode (b : Bytes) : Option String := String.fromUTF8? b.toByteArray

theorem utf8_injective : Function.Injective utf8 := by
  intro s t h
  have hdata : s.toByteArray.data = t.toByteArray.data := Array.toList_inj.1 h
  exact String.toByteArray_inj.1 (ByteArray.ext hdata)

theorem toByteArray_utf8 (s : String) : (utf8 s).toByteArray = s.toByteArray := by
  apply ByteArray.ext
  apply Array.toList_inj.1
  rw [List.toList_data_toByteArray]
  rfl

/-- Decoding undoes encoding. -/
@[simp] theorem utf8Decode_utf8 (s : String) : utf8Decode (utf8 s) = some s := by
  rw [utf8Decode, toByteArray_utf8, String.fromUTF8?, dif_pos s.isValidUTF8]
  rfl

/-- Encoding undoes decoding. -/
theorem utf8_of_utf8Decode {b : Bytes} {s : String} (h : utf8Decode b = some s) : utf8 s = b := by
  rw [utf8Decode, String.fromUTF8?] at h
  split at h
  · have hs := Option.some.inj h
    subst hs
    exact List.toList_data_toByteArray
  · exact absurd h (by simp)

/-- `secrets.token_bytes(n)`. -/
structure TokenBytes (n : ℕ) where
  /-- The bytes drawn. -/
  bytes : Bytes
  /-- There are `n` of them. -/
  length_eq : bytes.length = n
deriving DecidableEq

/-! ### Constants and errors -/

/-- The version stamped on every new ciphertext. -/
def currentEncryptionVersion : ℤ := 1

/-- Versions the decrypt paths accept. -/
def supportedDecryptVersions : List ℤ := [1]

theorem currentEncryptionVersion_mem : currentEncryptionVersion ∈ supportedDecryptVersions := by
  decide

/-- `_DEK_BYTES`. -/
def dekBytes : ℕ := 32

/-- `_MASTER_KEY_BYTES`. -/
def masterKeyBytes : ℕ := 32

/-- `_GCM_IV_BYTES`. -/
def gcmIvBytes : ℕ := 12

/-- `_GCM_TAG_BYTES`. -/
def gcmTagBytes : ℕ := 16

/-- The exception classes of the module; `valueError` is `Sealed.__post_init__`'s. -/
inductive CryptoError where
  | cryptoConfigError
  | decryptionError
  | unsupportedVersionError
  | valueError
  | unicodeDecodeError
deriving DecidableEq, Repr

/-! ### AES-GCM and the master key -/

/-- AES-GCM, idealised, on byte strings: key, nonce, plaintext, associated data. -/
structure AesGcm extends IdealAead Bytes Bytes Bytes Bytes Bytes where
  /-- A ciphertext carries the authentication tag. -/
  tag_le : ∀ k n m d, gcmTagBytes ≤ (encrypt k n m d).length

/-- `CryptoProvider`: a master key of the right length. -/
structure CryptoProvider where
  /-- The cipher. -/
  gcm : AesGcm
  /-- The master key. -/
  masterKey : Bytes
  /-- `__init__` accepts no other length. -/
  masterKey_length : masterKey.length = masterKeyBytes

/-- One ciphertext and its nonce; `__post_init__` accepts nothing shorter. -/
structure Sealed where
  /-- The nonce. -/
  iv : Bytes
  /-- Ciphertext and tag. -/
  ciphertext : Bytes
  /-- The nonce has its length. -/
  iv_length : iv.length = gcmIvBytes
  /-- The tag is there. -/
  tag_le : gcmTagBytes ≤ ciphertext.length

/-- The constructor call `Sealed(iv=…, ciphertext=…)`. -/
def Sealed.new (iv ciphertext : Bytes) : Except CryptoError Sealed :=
  if h : iv.length = gcmIvBytes ∧ gcmTagBytes ≤ ciphertext.length then
    .ok ⟨iv, ciphertext, h.1, h.2⟩
  else .error .valueError

/-- A DEK sealed under the master key, with the version it was sealed at. -/
structure WrappedDek where
  /-- The nonce. -/
  iv : Bytes
  /-- The sealed DEK. -/
  ciphertext : Bytes
  /-- The format version. -/
  version : ℤ
deriving DecidableEq

@[simp] theorem Sealed.new_self (s : Sealed) : Sealed.new s.iv s.ciphertext = .ok s := by
  rw [Sealed.new, dif_pos ⟨s.iv_length, s.tag_le⟩]

/-! ### Associated data -/

/-- `version.to_bytes(2, "big")`. -/
def versionBytes (version : ℤ) : Bytes :=
  [UInt8.ofNat (version.toNat / 256), UInt8.ofNat (version.toNat % 256)]

/-- `_build_aad`: the version in front of the caller's associated data. -/
def buildAad (userAad : Bytes) (version : ℤ) : Except CryptoError Bytes :=
  if version < 0 ∨ version > 0xFFFF then .error .cryptoConfigError
  else .ok (versionBytes version ++ utf8 "|" ++ userAad)

theorem buildAad_current (aad : Bytes) :
    buildAad aad currentEncryptionVersion =
      .ok (versionBytes currentEncryptionVersion ++ utf8 "|" ++ aad) :=
  rfl

/-! ### A cipher to evaluate with

The framed scheme of `IdealAead`, behind a constant 16-byte tag. Concrete histories are run with it;
no theorem about the vault depends on it. -/

/-- AES-GCM's contract, met without hiding anything. -/
def framedGcm : AesGcm where
  toIdealAead := IdealAead.framed 1 0 (List.replicate gcmTagBytes 0) (by decide)
  tag_le k n m d := by
    simp only [IdealAead.framed, IdealAead.header, List.length_append, List.length_replicate]
    omega

/-- A provider over the framed scheme, with the all-zero master key. -/
def framedProvider : CryptoProvider :=
  ⟨framedGcm, List.replicate masterKeyBytes 0, List.length_replicate⟩

/-- `n` equal bytes, as `secrets.token_bytes` might return them. -/
def constantBytes (n : ℕ) (b : UInt8) : TokenBytes n := ⟨List.replicate n b, List.length_replicate⟩

/-! ### Wrapping and sealing -/

namespace CryptoProvider

variable (c : CryptoProvider)

/-- `wrap_dek`: seal a DEK under the master key. -/
def wrapDek (iv : TokenBytes gcmIvBytes) (dek aad : Bytes) : Except CryptoError WrappedDek :=
  if dek.length ≠ dekBytes then .error .cryptoConfigError
  else do
    let fullAad ← buildAad aad currentEncryptionVersion
    return ⟨iv.bytes, c.gcm.encrypt c.masterKey iv.bytes dek fullAad, currentEncryptionVersion⟩

/-- `unwrap_dek`. -/
def unwrapDek (wrapped : WrappedDek) (aad : Bytes) : Except CryptoError Bytes :=
  if wrapped.version ∉ supportedDecryptVersions then .error .unsupportedVersionError
  else do
    let fullAad ← buildAad aad wrapped.version
    match c.gcm.decrypt c.masterKey wrapped.iv wrapped.ciphertext fullAad with
    | some dek => return dek
    | none => .error .decryptionError

/-- `encrypt_with_dek`: seal a plaintext under a DEK. -/
def encryptWithDek (iv : TokenBytes gcmIvBytes) (plaintext dek aad : Bytes) :
    Except CryptoError Sealed :=
  if dek.length ≠ dekBytes then .error .cryptoConfigError
  else do
    let fullAad ← buildAad aad currentEncryptionVersion
    return ⟨iv.bytes, c.gcm.encrypt dek iv.bytes plaintext fullAad, iv.length_eq,
      c.gcm.tag_le _ _ _ _⟩

/-- `decrypt_with_dek`. -/
def decryptWithDek (s : Sealed) (dek : Bytes) (version : ℤ) (aad : Bytes) :
    Except CryptoError Bytes :=
  if version ∉ supportedDecryptVersions then .error .unsupportedVersionError
  else if dek.length ≠ dekBytes then .error .cryptoConfigError
  else do
    let fullAad ← buildAad aad version
    match c.gcm.decrypt dek s.iv s.ciphertext fullAad with
    | some plaintext => return plaintext
    | none => .error .decryptionError

/-! ### What each operation does on what the others produce -/

variable {c} {dek dek' aad aad' plaintext : Bytes} {iv : TokenBytes gcmIvBytes} {w : WrappedDek}
  {s : Sealed}

theorem wrapDek_of_length (h : dek.length = dekBytes) (iv : TokenBytes gcmIvBytes) (aad : Bytes) :
    c.wrapDek iv dek aad = .ok ⟨iv.bytes, c.gcm.encrypt c.masterKey iv.bytes dek
      (versionBytes currentEncryptionVersion ++ utf8 "|" ++ aad), currentEncryptionVersion⟩ := by
  rw [wrapDek, if_neg (not_not.2 h), buildAad_current]
  rfl

theorem encryptWithDek_of_length (h : dek.length = dekBytes) (iv : TokenBytes gcmIvBytes)
    (plaintext aad : Bytes) :
    c.encryptWithDek iv plaintext dek aad = .ok ⟨iv.bytes, c.gcm.encrypt dek iv.bytes plaintext
      (versionBytes currentEncryptionVersion ++ utf8 "|" ++ aad), iv.length_eq,
      c.gcm.tag_le _ _ _ _⟩ := by
  rw [encryptWithDek, if_neg (not_not.2 h), buildAad_current]
  rfl

/-- Unwrapping returns the DEK that was wrapped. -/
theorem unwrapDek_wrapDek (h : c.wrapDek iv dek aad = .ok w) : c.unwrapDek w aad = .ok dek := by
  by_cases hlen : dek.length = dekBytes
  · rw [wrapDek_of_length hlen, Except.ok.injEq] at h
    subst h
    rw [unwrapDek, if_neg (not_not.2 currentEncryptionVersion_mem), buildAad_current]
    simp only [bind, Except.bind, IdealAead.decrypt_encrypt]
    rfl
  · rw [wrapDek, if_pos hlen] at h
    exact absurd h (by simp)

/-- A sealed plaintext opens under its DEK and associated data. -/
theorem decryptWithDek_encryptWithDek (h : c.encryptWithDek iv plaintext dek aad = .ok s) :
    c.decryptWithDek s dek currentEncryptionVersion aad = .ok plaintext := by
  by_cases hlen : dek.length = dekBytes
  · rw [encryptWithDek_of_length hlen, Except.ok.injEq] at h
    subst h
    rw [decryptWithDek, if_neg (not_not.2 currentEncryptionVersion_mem), if_neg (not_not.2 hlen),
      buildAad_current]
    simp only [bind, Except.bind, IdealAead.decrypt_encrypt]
    rfl
  · rw [encryptWithDek, if_pos hlen] at h
    exact absurd h (by simp)

/-- **A sealed plaintext opens under no other DEK**, whatever version and associated data are
tried. -/
theorem dek_eq_of_decryptWithDek (h : c.encryptWithDek iv plaintext dek aad = .ok s) {version : ℤ}
    {out : Bytes} (hdec : c.decryptWithDek s dek' version aad' = .ok out) :
    dek' = dek ∧ out = plaintext := by
  by_cases hlen : dek.length = dekBytes
  · rw [encryptWithDek_of_length hlen, Except.ok.injEq] at h
    subst h
    unfold decryptWithDek at hdec
    split_ifs at hdec
    cases hb : buildAad aad' version with
    | error e => rw [hb] at hdec; exact absurd hdec (by simp [bind, Except.bind])
    | ok fullAad =>
      rw [hb] at hdec
      simp only [bind, Except.bind] at hdec
      split at hdec
      · rename_i m hm
        obtain ⟨hk, -, hmm⟩ := c.gcm.decrypt_encrypt_eq_some hm
        have hout : m = out := by simpa [pure, Except.pure] using hdec
        exact ⟨hk, hout ▸ hmm⟩
      · exact absurd hdec (by simp)
  · rw [encryptWithDek, if_pos hlen] at h
    exact absurd h (by simp)

/-- Opening under another DEK of the right length fails authentication. -/
theorem decryptWithDek_of_ne_dek (h : c.encryptWithDek iv plaintext dek aad = .ok s)
    (hne : dek' ≠ dek) (aad' : Bytes) (hlen' : dek'.length = dekBytes) :
    c.decryptWithDek s dek' currentEncryptionVersion aad' = .error .decryptionError := by
  cases hdec : c.decryptWithDek s dek' currentEncryptionVersion aad' with
  | ok out => exact absurd (dek_eq_of_decryptWithDek h hdec).1 hne
  | error e =>
    rw [decryptWithDek, if_neg (not_not.2 currentEncryptionVersion_mem), if_neg (not_not.2 hlen'),
      buildAad_current] at hdec
    simp only [bind, Except.bind] at hdec
    split at hdec
    · exact absurd hdec (by simp [pure, Except.pure])
    · exact hdec.symm

end CryptoProvider

end Siyadah
