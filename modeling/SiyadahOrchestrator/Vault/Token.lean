import SiyadahOrchestrator.Foundations.KeyedTable
import SiyadahOrchestrator.Vault.Crypto

/-!
# The `encrypted_tokens` table

The rows of `models.EncryptedToken`, the table with its primary key and its unique constraint
`uq_et_tenant_provider_account_status`, and the row-level functions that every handler uses: sealing
a provider's answer under a fresh DEK, building the row of a new authorization, rewriting a row on
refresh, and opening its two tokens. A row names its provider, and `getProvider` looks the name up
in the registry of the providers.

The columns `created_at` and `updated_at` are written by the database layer; `updated_at` is read by
nothing and is left out.

Clocks are integers counting microseconds, as the database's timestamps do.
-/

namespace Siyadah

/-! ### Time -/

/-- A timezone-aware timestamp, in microseconds. -/
abbrev Time := ℤ

/-- `timedelta(seconds=n)`. -/
def seconds (n : ℤ) : Time := n * 1000000

/-- `timedelta(minutes=n)`. -/
def minutes (n : ℤ) : Time := seconds (n * 60)

/-- `timedelta(days=n)`. -/
def days (n : ℤ) : Time := minutes (n * 1440)

/-! ### Providers -/

/-- `oauth_providers.ProviderConfig`, as far as the handlers read it. -/
structure ProviderConfig where
  name : String
  usesPkce : Bool
deriving DecidableEq, Repr

/-- `PROVIDERS`. -/
def providers : List ProviderConfig := [⟨"slack", false⟩]

/-- `str.lower` of one character, as far as an ASCII result goes: outside ASCII only the Kelvin sign
becomes an ASCII letter and nothing else. -/
def lowerChar (c : Char) : Char := if c.toNat = 0x212A then 'k' else c.toLower

/-- `get_provider`; `none` is `UnknownProviderError`. -/
def getProvider (name : String) : Option ProviderConfig :=
  providers.find? fun cfg ↦ cfg.name.toList = name.toList.map lowerChar

/-! ### Rows -/

/-- The values of the `status` column. -/
inductive TokenStatus where
  | active
  | revoked
  | expired
  | corrupted
deriving DecidableEq, Repr

/-- A string that Python's `if s:` accepts. -/
def truthy (s : Option String) : Option String := s.filter (· ≠ "")

theorem truthy_eq_some_iff {s : Option String} {a : String} :
    truthy s = some a ↔ s = some a ∧ a ≠ "" := by
  simp [truthy, Option.filter_eq_some_iff]

/-- The form of `str(uuid4())`: 36 hexadecimal digits and hyphens. -/
def IsUuid (s : String) : Prop :=
  s.toList.length = 36 ∧ ∀ c ∈ s.toList, c ∈ "0123456789abcdef-".toList

instance (s : String) : Decidable (IsUuid s) :=
  @instDecidableAnd _ _ (Nat.decEq _ _) (List.decidableBAll _ _)

/-- `oauth_providers.ParsedTokenResponse`. -/
structure ParsedTokenResponse where
  accessToken : String
  refreshToken : Option String
  expiresIn : Option ℤ
  scopes : List String
  providerAccountId : Option String
deriving DecidableEq, Repr

/-- One row of `encrypted_tokens`. -/
structure EncryptedToken where
  id : String
  tenantId : String
  provider : String
  providerAccountId : Option String
  encryptedAccessToken : Bytes
  encryptedRefreshToken : Option Bytes
  wrappedDek : Bytes
  ivAccess : Bytes
  ivRefresh : Option Bytes
  ivDek : Bytes
  encryptionVersion : ℤ
  scopes : List String
  expiresAt : Option Time
  refreshAt : Option Time
  refreshCount : ℕ
  status : TokenStatus
  apConnectionExternalId : Option String
  apSyncPending : Bool
  processingUntil : Option Time
  createdAt : Time
deriving DecidableEq

namespace EncryptedToken

/-- The columns of `uq_et_tenant_provider_account_status`; a `NULL` account is in no conflict. -/
def accountStatus (r : EncryptedToken) : Option (String × String × String × TokenStatus) :=
  r.providerAccountId.map fun a ↦ (r.tenantId, r.provider, a, r.status)

/-- The associated data of everything sealed for the row: `f"{tenant_id}|{provider}|{id}"`. -/
def aad (r : EncryptedToken) : Bytes := utf8 (r.tenantId ++ "|" ++ r.provider ++ "|" ++ r.id)

/-- The stored DEK as `unwrap_dek` takes it. -/
def wrapped (r : EncryptedToken) : WrappedDek := ⟨r.ivDek, r.wrappedDek, r.encryptionVersion⟩

end EncryptedToken

/-- The table, with its constraints. -/
abbrev TokenTable := KeyedTable EncryptedToken.id EncryptedToken.accountStatus

/-! ### Sealing a provider's answer -/

/-- The random bytes one sealing draws. -/
structure SealRandomness where
  dek : TokenBytes dekBytes
  ivDek : TokenBytes gcmIvBytes
  ivAccess : TokenBytes gcmIvBytes
  ivRefresh : TokenBytes gcmIvBytes
deriving DecidableEq

/-- What one sealing produces. -/
structure SealedTokens where
  wrapped : WrappedDek
  access : Sealed
  refresh : Option Sealed

namespace CryptoProvider

variable (c : CryptoProvider)

/-- The envelope encryption of `_persist_tokens` and of `_refresh_one_token`: a fresh DEK, wrapped,
and the tokens of the answer sealed under it. -/
def sealTokens (rand : SealRandomness) (aad : Bytes) (parsed : ParsedTokenResponse) :
    Except CryptoError SealedTokens := do
  let wrapped ← c.wrapDek rand.ivDek rand.dek.bytes aad
  let access ← c.encryptWithDek rand.ivAccess (utf8 parsed.accessToken) rand.dek.bytes
    (aad ++ utf8 "|access")
  match truthy parsed.refreshToken with
  | some refresh =>
    let s ← c.encryptWithDek rand.ivRefresh (utf8 refresh) rand.dek.bytes (aad ++ utf8 "|refresh")
    return ⟨wrapped, access, some s⟩
  | none => return ⟨wrapped, access, none⟩

/-- Open the refresh token of a row, as `_refresh_one_token` does before it calls the provider. -/
def decryptRefresh (row : EncryptedToken) : Except CryptoError String := do
  let dek ← c.unwrapDek row.wrapped row.aad
  match row.ivRefresh, row.encryptedRefreshToken with
  | some iv, some ct =>
    let s ← Sealed.new iv ct
    let plain ← c.decryptWithDek s dek row.encryptionVersion (row.aad ++ utf8 "|refresh")
    match utf8Decode plain with
    | some token => return token
    | none => .error .unicodeDecodeError
  | _, _ => .error .valueError

/-- Open the access token of a row, as `_retry_ap_only` does. -/
def decryptAccess (row : EncryptedToken) : Except CryptoError String := do
  let dek ← c.unwrapDek row.wrapped row.aad
  let s ← Sealed.new row.ivAccess row.encryptedAccessToken
  let plain ← c.decryptWithDek s dek row.encryptionVersion (row.aad ++ utf8 "|access")
  match utf8Decode plain with
  | some token => return token
  | none => .error .unicodeDecodeError

end CryptoProvider

/-- `expires_at` and `refresh_at` of an answer, five minutes apart; both `NULL` without a (non-zero)
`expires_in`. -/
def expiryTimes (now : Time) (expiresIn : Option ℤ) : Option Time × Option Time :=
  match expiresIn with
  | none => (none, none)
  | some n =>
    if n = 0 then (none, none)
    else (some (now + seconds n), some (now + seconds n - minutes 5))

/-! ### Rows of an authorization and of a refresh -/

namespace EncryptedToken

/-- The row `_persist_tokens` inserts. -/
def ofSealed (id tenantId provider : String) (parsed : ParsedTokenResponse) (sealed : SealedTokens)
    (now : Time) : EncryptedToken where
  id := id
  tenantId := tenantId
  provider := provider
  providerAccountId := parsed.providerAccountId
  encryptedAccessToken := sealed.access.ciphertext
  ivAccess := sealed.access.iv
  encryptedRefreshToken := sealed.refresh.map Sealed.ciphertext
  ivRefresh := sealed.refresh.map Sealed.iv
  wrappedDek := sealed.wrapped.ciphertext
  ivDek := sealed.wrapped.iv
  encryptionVersion := sealed.wrapped.version
  scopes := parsed.scopes
  expiresAt := (expiryTimes now parsed.expiresIn).1
  refreshAt := (expiryTimes now parsed.expiresIn).2
  refreshCount := 0
  status := .active
  apConnectionExternalId := none
  apSyncPending := false
  processingUntil := none
  createdAt := now

/-- The row `_persist_tokens` builds before it opens its transaction. -/
def ofAnswer (c : CryptoProvider) (rand : SealRandomness) (id tenantId provider : String)
    (parsed : ParsedTokenResponse) (now : Time) : Except CryptoError EncryptedToken := do
  let sealed ← c.sealTokens rand (utf8 (tenantId ++ "|" ++ provider ++ "|" ++ id)) parsed
  return ofSealed id tenantId provider parsed sealed now

/-- The rotation `UPDATE` of `_refresh_one_token` on the stored row. `loaded` is the worker's copy
of the row: an answer without a refresh token writes that copy's refresh columns back. -/
def rotate (row loaded : EncryptedToken) (parsed : ParsedTokenResponse) (sealed : SealedTokens)
    (now : Time) : EncryptedToken :=
  { row with
    encryptedAccessToken := sealed.access.ciphertext
    ivAccess := sealed.access.iv
    encryptedRefreshToken :=
      match sealed.refresh with
      | some s => some s.ciphertext
      | none => loaded.encryptedRefreshToken
    ivRefresh :=
      match sealed.refresh with
      | some s => some s.iv
      | none => loaded.ivRefresh
    wrappedDek := sealed.wrapped.ciphertext
    ivDek := sealed.wrapped.iv
    encryptionVersion := sealed.wrapped.version
    scopes := if parsed.scopes = [] then loaded.scopes else parsed.scopes
    expiresAt := (expiryTimes now parsed.expiresIn).1
    refreshAt := (expiryTimes now parsed.expiresIn).2
    refreshCount := loaded.refreshCount + 1 }

variable (row loaded : EncryptedToken) (parsed : ParsedTokenResponse) (sealed : SealedTokens)
  (now : Time)

@[simp] theorem rotate_id : (row.rotate loaded parsed sealed now).id = row.id := rfl

@[simp] theorem rotate_tenantId : (row.rotate loaded parsed sealed now).tenantId = row.tenantId :=
  rfl

@[simp] theorem rotate_provider : (row.rotate loaded parsed sealed now).provider = row.provider :=
  rfl

@[simp] theorem rotate_status : (row.rotate loaded parsed sealed now).status = row.status := rfl

@[simp] theorem rotate_apConnectionExternalId :
    (row.rotate loaded parsed sealed now).apConnectionExternalId = row.apConnectionExternalId := rfl

@[simp] theorem rotate_apSyncPending :
    (row.rotate loaded parsed sealed now).apSyncPending = row.apSyncPending := rfl

@[simp] theorem rotate_accountStatus :
    (row.rotate loaded parsed sealed now).accountStatus = row.accountStatus := rfl

/-- Rotation keeps what the row's ciphertexts are bound to. -/
@[simp] theorem rotate_aad : (row.rotate loaded parsed sealed now).aad = row.aad := rfl

end EncryptedToken

/-! ### What opening a freshly sealed row gives -/

section Opening

variable {c : CryptoProvider} {rand : SealRandomness} {aad : Bytes} {parsed : ParsedTokenResponse}
  {sealed : SealedTokens} {row : EncryptedToken}

/-- Sealing never fails: the DEK it draws has the right length. -/
theorem CryptoProvider.exists_sealTokens (c : CryptoProvider) (rand : SealRandomness) (aad : Bytes)
    (parsed : ParsedTokenResponse) : ∃ sealed, c.sealTokens rand aad parsed = .ok sealed := by
  have hlen := rand.dek.length_eq
  unfold sealTokens
  rw [c.wrapDek_of_length hlen, c.encryptWithDek_of_length hlen]
  cases truthy parsed.refreshToken with
  | none => exact ⟨_, rfl⟩
  | some refresh =>
    simp only [c.encryptWithDek_of_length hlen]
    exact ⟨_, rfl⟩

/-- The parts of a sealing, each as the operation that made it. -/
theorem CryptoProvider.sealTokens_parts (h : c.sealTokens rand aad parsed = .ok sealed) :
    c.wrapDek rand.ivDek rand.dek.bytes aad = .ok sealed.wrapped ∧
      c.encryptWithDek rand.ivAccess (utf8 parsed.accessToken) rand.dek.bytes
        (aad ++ utf8 "|access") = .ok sealed.access ∧
      match truthy parsed.refreshToken with
      | some refresh => ∃ s, sealed.refresh = some s ∧
          c.encryptWithDek rand.ivRefresh (utf8 refresh) rand.dek.bytes
            (aad ++ utf8 "|refresh") = .ok s
      | none => sealed.refresh = none := by
  have hlen := rand.dek.length_eq
  unfold sealTokens at h
  rw [c.wrapDek_of_length hlen, c.encryptWithDek_of_length hlen] at h ⊢
  cases htr : truthy parsed.refreshToken with
  | none =>
    rw [htr] at h
    simp only [bind, Except.bind, pure, Except.pure, Except.ok.injEq] at h
    subst h
    exact ⟨rfl, rfl, rfl⟩
  | some refresh =>
    rw [htr] at h
    simp only [c.encryptWithDek_of_length hlen, bind, Except.bind, pure, Except.pure,
      Except.ok.injEq] at h ⊢
    subst h
    exact ⟨rfl, rfl, _, rfl, rfl⟩

/-- Building a row never fails, and gives the sealed row. -/
theorem EncryptedToken.exists_ofAnswer (c : CryptoProvider) (rand : SealRandomness)
    (id tenantId provider : String) (parsed : ParsedTokenResponse) (now : Time) :
    ∃ sealed, c.sealTokens rand (utf8 (tenantId ++ "|" ++ provider ++ "|" ++ id)) parsed =
        .ok sealed ∧
      ofAnswer c rand id tenantId provider parsed now =
        .ok (ofSealed id tenantId provider parsed sealed now) := by
  obtain ⟨sealed, hseal⟩ :=
    c.exists_sealTokens rand (utf8 (tenantId ++ "|" ++ provider ++ "|" ++ id)) parsed
  exact ⟨sealed, hseal, by rw [ofAnswer, hseal]; rfl⟩

theorem CryptoProvider.sealTokens_version (h : c.sealTokens rand aad parsed = .ok sealed) :
    sealed.wrapped.version = currentEncryptionVersion := by
  have hw := (c.sealTokens_parts h).1
  rw [c.wrapDek_of_length rand.dek.length_eq, Except.ok.injEq] at hw
  exact hw ▸ rfl

end Opening

/-! ### What a ciphertext carries -/

namespace CryptoProvider

variable {c : CryptoProvider} {ct dek aad : Bytes} {token token' : String}

/-- The ciphertext carries the token, under some key. -/
def Carries (c : CryptoProvider) (ct : Bytes) (token : String) : Prop :=
  ∃ k n d, c.gcm.encrypt k n (utf8 token) d = ct

/-- A ciphertext carries one token. -/
theorem Carries.unique (h : c.Carries ct token) (h' : c.Carries ct token') : token = token' := by
  obtain ⟨k, n, d, rfl⟩ := h
  obtain ⟨k', n', d', he⟩ := h'
  exact utf8_injective (c.gcm.encrypt_inj he).2.2.symm

theorem carries_of_encryptWithDek {iv : TokenBytes gcmIvBytes} {s : Sealed}
    (hlen : dek.length = dekBytes) (h : c.encryptWithDek iv (utf8 token) dek aad = .ok s) :
    c.Carries s.ciphertext token := by
  rw [encryptWithDek_of_length hlen, Except.ok.injEq] at h
  subst h
  exact ⟨_, _, _, rfl⟩

/-- What a sealing puts into the refresh column. -/
theorem carries_of_sealTokens {rand : SealRandomness} {parsed : ParsedTokenResponse}
    {sealed : SealedTokens} (h : c.sealTokens rand aad parsed = .ok sealed) :
    match truthy parsed.refreshToken with
    | some token => ∃ s, sealed.refresh = some s ∧ c.Carries s.ciphertext token
    | none => sealed.refresh = none := by
  obtain ⟨-, -, hr⟩ := c.sealTokens_parts h
  rcases htr : truthy parsed.refreshToken with - | token
  · rwa [htr] at hr
  · rw [htr] at hr
    obtain ⟨s, hs, hseal⟩ := hr
    exact ⟨s, hs, carries_of_encryptWithDek rand.dek.length_eq hseal⟩

theorem carries_of_decryptWithDek {s : Sealed} {version : ℤ} {plain : Bytes}
    (h : c.decryptWithDek s dek version aad = .ok plain) (hutf : utf8Decode plain = some token) :
    c.Carries s.ciphertext token := by
  rw [decryptWithDek] at h
  split_ifs at h
  rcases hb : buildAad aad version with e | fullAad
  · rw [hb] at h
    exact absurd h (by simp [bind, Except.bind])
  · rw [hb] at h
    simp only [bind, Except.bind] at h
    split at h
    · rename_i m hm
      have hplain : m = plain := Except.ok.inj h
      subst hplain
      have hct := c.gcm.decrypt_eq_some_iff.1 hm
      rw [← utf8_of_utf8Decode hutf] at hct
      exact ⟨_, _, _, hct⟩
    · exact absurd h (by simp)

/-- What opens as the refresh token is what the column carries. -/
theorem carries_of_decryptRefresh {row : EncryptedToken} (h : c.decryptRefresh row = .ok token) :
    ∃ ct, row.encryptedRefreshToken = some ct ∧ c.Carries ct token := by
  rw [decryptRefresh] at h
  rcases hdek : c.unwrapDek row.wrapped row.aad with e | dek
  · rw [hdek] at h
    exact absurd h (by simp [bind, Except.bind])
  · rw [hdek] at h
    simp only [bind, Except.bind] at h
    split at h
    · rename_i iv ct hiv hct
      rcases hs : Sealed.new iv ct with e | s
      · rw [hs] at h
        exact absurd h (by simp)
      · rw [hs] at h
        simp only at h
        rcases hdec : c.decryptWithDek s dek row.encryptionVersion (row.aad ++ utf8 "|refresh")
          with e | plain
        · rw [hdec] at h
          exact absurd h (by simp)
        · rw [hdec] at h
          simp only at h
          split at h
          · rename_i text hutf
            have htext : text = token := Except.ok.inj h
            subst htext
            have hciphertext : s.ciphertext = ct := by
              rw [Sealed.new] at hs
              split at hs
              · exact Except.ok.inj hs ▸ rfl
              · exact absurd hs (by simp)
            exact ⟨ct, hct, hciphertext ▸ carries_of_decryptWithDek hdec hutf⟩
          · exact absurd h (by simp)
    · exact absurd h (by simp)

end CryptoProvider

end Siyadah
