import SiyadahOrchestrator.Vault.Token

/-!
# Decryptability of a row over its history

A row starts with `_persist_tokens` and is rewritten by every successful `_refresh_one_token`. Three
ciphertext columns have to move together: the wrapped DEK, the access token and the refresh token.

`SealedUnder c row dek access refresh` says that they do: the stored DEK unwraps to `dek`, and the
two token columns were sealed under that same `dek`. An authorization establishes it
(`sealedUnder_ofSealed`), and so does a rotation whose answer carries a refresh token
(`sealedUnder_rotate`).

A rotation whose answer omits the refresh token writes the old refresh ciphertext back beside a new
DEK. The row then looks healthy — the access token opens — and the damage shows one refresh later:
`decryptRefresh_rotate_of_omitted` says that the refresh token no longer opens, so that
`refreshOneToken` marks the row `CORRUPTED`.
-/

namespace Siyadah

/-! ### One refresh, run alone -/

/-- What `_refresh_with_provider` gives: tokens, a `TokenExchangeError` with its code, or any other
exception. -/
inductive ProviderAnswer where
  | tokens (parsed : ParsedTokenResponse)
  | tokenExchangeError (code : String)
  | otherError
deriving DecidableEq, Repr

/-- The codes by which a provider says that the grant is gone. -/
def terminalCodes : List String := ["invalid_grant", "token_revoked", "invalid_refresh_token"]

/-- What one refresh takes from outside: the provider's answer, randomness and the clock. -/
structure RefreshInput where
  answer : ProviderAnswer
  rand : SealRandomness
  now : Time
deriving DecidableEq

/-- The `action` that `_refresh_one_token` reports when Redis and the database work. -/
inductive RefreshAction where
  | skipStatus
  | noRefreshTokenSkip
  | corrupted
  | revoked
  | transientProviderFailure
  | unhandledError
  | rotated
deriving DecidableEq, Repr

/-- `_refresh_one_token` on a row that nothing else touches. -/
def refreshOneToken (c : CryptoProvider) (row : EncryptedToken) (input : RefreshInput) :
    RefreshAction × EncryptedToken :=
  if row.status ≠ .active then (.skipStatus, row)
  else if row.encryptedRefreshToken = none then
    (.noRefreshTokenSkip, { row with refreshAt := some (input.now + days 365) })
  else if getProvider row.provider = none then (.unhandledError, row)
  else
    match c.decryptRefresh row with
    | .error _ => (.corrupted, { row with status := .corrupted })
    | .ok _ =>
      match input.answer with
      | .tokenExchangeError code =>
        if code ∈ terminalCodes then (.revoked, { row with status := .revoked })
        else (.transientProviderFailure, row)
      | .otherError => (.unhandledError, row)
      | .tokens parsed =>
        match c.sealTokens input.rand row.aad parsed with
        | .error _ => (.unhandledError, row)
        | .ok sealed => (.rotated, row.rotate row parsed sealed input.now)

/-- A provider answer with tokens, with the randomness and the clock its rotation uses. -/
structure Rotation where
  rand : SealRandomness
  parsed : ParsedTokenResponse
  now : Time
deriving DecidableEq

/-- The refresh that the answer belongs to. -/
def Rotation.input (answer : Rotation) : RefreshInput :=
  ⟨.tokens answer.parsed, answer.rand, answer.now⟩

/-- The row after successful rotations only; `none` when one of them was not successful. -/
def rotateAll (c : CryptoProvider) : EncryptedToken → List Rotation → Option EncryptedToken
  | row, [] => some row
  | row, answer :: answers =>
    match refreshOneToken c row answer.input with
    | (.rotated, row') => rotateAll c row' answers
    | _ => none

/-- The access token issued last. -/
def lastAccess (access : String) : List Rotation → String
  | [] => access
  | answer :: answers => lastAccess answer.parsed.accessToken answers

/-- The refresh token issued last; an answer that omits it leaves the one before. -/
def lastRefresh (refresh : Option String) : List Rotation → Option String
  | [] => refresh
  | answer :: answers => lastRefresh ((truthy answer.parsed.refreshToken).or refresh) answers

/-- The row can be read: the stored DEK unwraps, the access column opens to the access token issued
last and, when there is a refresh column, it opens under the same DEK to the refresh token issued
last. -/
def StaysDecryptable (c : CryptoProvider) (row : EncryptedToken) (access : String)
    (refresh : Option String) : Prop :=
  c.decryptAccess row = .ok access ∧
    (row.encryptedRefreshToken ≠ none →
      ∃ token, refresh = some token ∧ c.decryptRefresh row = .ok token)

/-! ### Columns that were sealed together -/

section Sealed

variable {c : CryptoProvider} {row loaded : EncryptedToken} {dek : Bytes} {access : String}
  {refresh : Option String} {rand : SealRandomness} {parsed : ParsedTokenResponse}
  {sealed : SealedTokens} {now : Time}

/-- The three ciphertext columns belong to one DEK. -/
structure SealedUnder (c : CryptoProvider) (row : EncryptedToken) (dek : Bytes) (access : String)
    (refresh : Option String) : Prop where
  version : row.encryptionVersion = currentEncryptionVersion
  unwrap : c.unwrapDek row.wrapped row.aad = .ok dek
  access : ∃ iv s, c.encryptWithDek iv (utf8 access) dek (row.aad ++ utf8 "|access") = .ok s ∧
    row.ivAccess = s.iv ∧ row.encryptedAccessToken = s.ciphertext
  refresh : match refresh with
    | some token => ∃ iv s,
        c.encryptWithDek iv (utf8 token) dek (row.aad ++ utf8 "|refresh") = .ok s ∧
          row.ivRefresh = some s.iv ∧ row.encryptedRefreshToken = some s.ciphertext
    | none => row.encryptedRefreshToken = none

theorem SealedUnder.decryptAccess (h : SealedUnder c row dek access refresh) :
    c.decryptAccess row = .ok access := by
  obtain ⟨iv, s, hs, hiv, hct⟩ := h.access
  unfold CryptoProvider.decryptAccess
  rw [h.unwrap, hiv, hct, h.version]
  simp only [bind, Except.bind, Sealed.new_self, c.decryptWithDek_encryptWithDek hs,
    utf8Decode_utf8]
  rfl

theorem SealedUnder.decryptRefresh {token : String}
    (h : SealedUnder c row dek access (some token)) : c.decryptRefresh row = .ok token := by
  obtain ⟨iv, s, hs, hiv, hct⟩ := h.refresh
  unfold CryptoProvider.decryptRefresh
  rw [h.unwrap, hiv, hct, h.version]
  simp only [bind, Except.bind, Sealed.new_self, c.decryptWithDek_encryptWithDek hs,
    utf8Decode_utf8]
  rfl

theorem SealedUnder.refresh_ne_none {token : String}
    (h : SealedUnder c row dek access (some token)) : row.encryptedRefreshToken ≠ none := by
  obtain ⟨_, s, _, _, hct⟩ := h.refresh
  simp [hct]

theorem SealedUnder.staysDecryptable (h : SealedUnder c row dek access refresh) :
    StaysDecryptable c row access refresh := by
  refine ⟨h.decryptAccess, fun hne ↦ ?_⟩
  cases refresh with
  | none => exact absurd h.refresh hne
  | some token => exact ⟨token, rfl, h.decryptRefresh⟩

/-- An authorization seals the row under its DEK. -/
theorem sealedUnder_ofSealed (now : Time) {id tenantId provider : String}
    (h : c.sealTokens rand (utf8 (tenantId ++ "|" ++ provider ++ "|" ++ id)) parsed = .ok sealed) :
    SealedUnder c (.ofSealed id tenantId provider parsed sealed now) rand.dek.bytes
      parsed.accessToken (truthy parsed.refreshToken) := by
  obtain ⟨hw, ha, hr⟩ := c.sealTokens_parts h
  refine ⟨c.sealTokens_version h, c.unwrapDek_wrapDek hw, ⟨_, _, ha, rfl, rfl⟩, ?_⟩
  cases htr : truthy parsed.refreshToken with
  | none =>
    rw [htr] at hr
    simp [EncryptedToken.ofSealed, hr]
  | some token =>
    rw [htr] at hr
    obtain ⟨s, hs, hseal⟩ := hr
    exact ⟨_, s, hseal, by simp [EncryptedToken.ofSealed, hs],
      by simp [EncryptedToken.ofSealed, hs]⟩

/-- The access column of a rotated row belongs to the new DEK, whatever the answer. -/
theorem decryptAccess_rotate (h : c.sealTokens rand row.aad parsed = .ok sealed) :
    c.decryptAccess (row.rotate loaded parsed sealed now) = .ok parsed.accessToken := by
  obtain ⟨hw, ha, -⟩ := c.sealTokens_parts h
  have hunwrap : c.unwrapDek (row.rotate loaded parsed sealed now).wrapped row.aad =
      .ok rand.dek.bytes := c.unwrapDek_wrapDek hw
  have hversion : (row.rotate loaded parsed sealed now).encryptionVersion =
      currentEncryptionVersion := c.sealTokens_version h
  unfold CryptoProvider.decryptAccess
  rw [EncryptedToken.rotate_aad, hunwrap, hversion]
  have hs : Sealed.new (row.rotate loaded parsed sealed now).ivAccess
      (row.rotate loaded parsed sealed now).encryptedAccessToken = .ok sealed.access :=
    Sealed.new_self _
  simp only [bind, Except.bind, hs, c.decryptWithDek_encryptWithDek ha, utf8Decode_utf8]
  rfl

/-- A rotation whose answer carries a refresh token seals the row under its DEK. -/
theorem sealedUnder_rotate {token : String} (htr : truthy parsed.refreshToken = some token)
    (h : c.sealTokens rand row.aad parsed = .ok sealed) :
    SealedUnder c (row.rotate loaded parsed sealed now) rand.dek.bytes parsed.accessToken
      (some token) := by
  obtain ⟨hw, ha, hr⟩ := c.sealTokens_parts h
  rw [htr] at hr
  obtain ⟨s, hs, hseal⟩ := hr
  exact ⟨c.sealTokens_version h, c.unwrapDek_wrapDek hw, ⟨_, _, ha, rfl, rfl⟩,
    ⟨_, s, hseal, by simp [EncryptedToken.rotate, hs], by simp [EncryptedToken.rotate, hs]⟩⟩

/-- **A rotation whose answer omits the refresh token makes the stored one unreadable**: its column
still belongs to the old DEK. -/
theorem decryptRefresh_rotate_of_omitted (now : Time) {token : String}
    (hrow : SealedUnder c row dek access (some token)) (hne : rand.dek.bytes ≠ dek)
    (htr : truthy parsed.refreshToken = none)
    (h : c.sealTokens rand row.aad parsed = .ok sealed) :
    c.decryptRefresh (row.rotate row parsed sealed now) = .error .decryptionError := by
  obtain ⟨hw, -, hr⟩ := c.sealTokens_parts h
  rw [htr] at hr
  have hnone : sealed.refresh = none := hr
  obtain ⟨iv, s, hs, hiv, hct⟩ := hrow.refresh
  have hunwrap : c.unwrapDek (row.rotate row parsed sealed now).wrapped row.aad =
      .ok rand.dek.bytes := c.unwrapDek_wrapDek hw
  have hversion : (row.rotate row parsed sealed now).encryptionVersion =
      currentEncryptionVersion := c.sealTokens_version h
  have hiv' : (row.rotate row parsed sealed now).ivRefresh = some s.iv := by
    simp [EncryptedToken.rotate, hnone, hiv]
  have hct' : (row.rotate row parsed sealed now).encryptedRefreshToken = some s.ciphertext := by
    simp [EncryptedToken.rotate, hnone, hct]
  have hdec := c.decryptWithDek_of_ne_dek hs hne (row.aad ++ utf8 "|refresh") rand.dek.length_eq
  unfold CryptoProvider.decryptRefresh
  rw [EncryptedToken.rotate_aad, hunwrap, hiv', hct', hversion]
  simp only [bind, Except.bind, Sealed.new_self, hdec]

end Sealed

/-! ### Runs of rotations -/

section Runs

variable {c : CryptoProvider} {row row' : EncryptedToken} {dek : Bytes} {access : String}
  {refresh : Option String} {answer : Rotation} {answers : List Rotation}
  {input : RefreshInput}

/-- What a successful rotation did. -/
theorem refreshOneToken_eq_rotated (h : refreshOneToken c row answer.input = (.rotated, row')) :
    row.status = .active ∧ row.encryptedRefreshToken ≠ none ∧
      (∃ token, c.decryptRefresh row = .ok token) ∧
      ∃ sealed, c.sealTokens answer.rand row.aad answer.parsed = .ok sealed ∧
        row' = row.rotate row answer.parsed sealed answer.now := by
  unfold refreshOneToken at h
  split_ifs at h with hstatus hnone hprovider
  · exact absurd h (by simp)
  · exact absurd h (by simp)
  · exact absurd h (by simp)
  · rw [not_not] at hstatus
    cases hdec : c.decryptRefresh row with
    | error e => rw [hdec] at h; exact absurd h (by simp)
    | ok token =>
      obtain ⟨sealed, hseal⟩ := c.exists_sealTokens answer.rand row.aad answer.parsed
      rw [hdec] at h
      simp only [Rotation.input, hseal, Prod.mk.injEq, true_and] at h
      exact ⟨hstatus, hnone, ⟨token, rfl⟩, sealed, hseal, h.symm⟩

/-- A refresh marks the row `CORRUPTED` exactly when its refresh token does not open. -/
theorem refreshOneToken_corrupted_iff (hactive : row.status = .active)
    (hne : row.encryptedRefreshToken ≠ none) (hprovider : getProvider row.provider ≠ none) :
    (refreshOneToken c row input).1 = .corrupted ↔ ∀ token, c.decryptRefresh row ≠ .ok token := by
  unfold refreshOneToken
  rw [if_neg (not_not.2 hactive), if_neg hne, if_neg hprovider]
  cases hdec : c.decryptRefresh row with
  | error e => simp
  | ok token =>
    refine iff_of_false ?_ fun h ↦ h token rfl
    simp only
    split
    · split <;> simp
    · simp
    · split <;> simp

/-- A row whose refresh token opens is rotated by the next answer. -/
theorem refreshOneToken_of_sealedUnder {token : String} (hactive : row.status = .active)
    (hprovider : getProvider row.provider ≠ none)
    (h : SealedUnder c row dek access (some token)) (answer : Rotation) :
    ∃ sealed, c.sealTokens answer.rand row.aad answer.parsed = .ok sealed ∧
      refreshOneToken c row answer.input =
        (.rotated, row.rotate row answer.parsed sealed answer.now) := by
  obtain ⟨sealed, hseal⟩ := c.exists_sealTokens answer.rand row.aad answer.parsed
  refine ⟨sealed, hseal, ?_⟩
  unfold refreshOneToken
  rw [if_neg (not_not.2 hactive), if_neg h.refresh_ne_none, if_neg hprovider, h.decryptRefresh]
  simp only [Rotation.input, hseal]

/-- On a row whose columns belong together, no refresh reports corruption. -/
theorem refreshOneToken_ne_corrupted (hactive : row.status = .active)
    (h : SealedUnder c row dek access refresh) (input : RefreshInput) :
    (refreshOneToken c row input).1 ≠ .corrupted := by
  cases refresh with
  | none =>
    have hnone : row.encryptedRefreshToken = none := h.refresh
    simp [refreshOneToken, hactive, hnone]
  | some token =>
    by_cases hprovider : getProvider row.provider = none
    · simp [refreshOneToken, hactive, h.refresh_ne_none, hprovider]
    · rw [ne_eq, refreshOneToken_corrupted_iff hactive h.refresh_ne_none hprovider]
      exact fun hclosed ↦ hclosed token h.decryptRefresh

/-- The whole run succeeds when every answer carries a refresh token. -/
theorem exists_rotateAll (answers : List Rotation) {token : String} (hactive : row.status = .active)
    (hprovider : getProvider row.provider ≠ none)
    (h : SealedUnder c row dek access (some token))
    (hall : ∀ answer ∈ answers, truthy answer.parsed.refreshToken ≠ none) :
    ∃ row', rotateAll c row answers = some row' := by
  induction answers generalizing row dek access token with
  | nil => exact ⟨row, rfl⟩
  | cons answer answers ih =>
    obtain ⟨sealed, hseal, hrot⟩ := refreshOneToken_of_sealedUnder hactive hprovider h answer
    obtain ⟨next, hnext⟩ := Option.ne_none_iff_exists'.1 (hall answer List.mem_cons_self)
    rw [rotateAll, hrot]
    exact ih (by simpa using hactive) (by simpa using hprovider) (sealedUnder_rotate hnext hseal)
      fun a ha ↦ hall a (List.mem_cons_of_mem _ ha)

/-- From a row whose columns belong together, a successful run ends in a readable row exactly when
no answer omitted the refresh token. The induction is on the run; the case that stops it is an
omission, after which no further refresh succeeds. -/
theorem staysDecryptable_rotateAll_iff (hactive : row.status = .active)
    (h : SealedUnder c row dek access refresh)
    (hfresh : (dek :: answers.map fun a ↦ a.rand.dek.bytes).Nodup)
    (hrun : rotateAll c row answers = some row') :
    (StaysDecryptable c row' (lastAccess access answers) (lastRefresh refresh answers) ∧
        ∀ input, (refreshOneToken c row' input).1 ≠ .corrupted) ↔
      ∀ answer ∈ answers, truthy answer.parsed.refreshToken ≠ none := by
  induction answers generalizing row dek access refresh with
  | nil =>
    rw [rotateAll, Option.some.injEq] at hrun
    subst hrun
    simp only [List.not_mem_nil, false_imp_iff, implies_true, iff_true]
    exact ⟨h.staysDecryptable, refreshOneToken_ne_corrupted hactive h⟩
  | cons answer answers ih =>
    rw [rotateAll] at hrun
    split at hrun
    · rename_i mid hmid
      obtain ⟨-, hne, -, sealed, hseal, rfl⟩ := refreshOneToken_eq_rotated hmid
      obtain ⟨token, rfl⟩ : ∃ token, refresh = some token := by
        cases refresh with
        | none => exact absurd h.refresh hne
        | some token => exact ⟨token, rfl⟩
      have hactive' : (row.rotate row answer.parsed sealed answer.now).status = .active := by
        simpa using hactive
      have hdek : answer.rand.dek.bytes ≠ dek := fun he ↦
        (List.nodup_cons.1 hfresh).1 (by simp [he])
      cases htr : truthy answer.parsed.refreshToken with
      | some next =>
        have hnext := ih hactive' (sealedUnder_rotate htr hseal) (List.nodup_cons.1 hfresh).2 hrun
        simpa [lastAccess, lastRefresh, htr] using hnext
      | none =>
        have hclosed := decryptRefresh_rotate_of_omitted answer.now h hdek htr hseal
        have hct :
            (row.rotate row answer.parsed sealed answer.now).encryptedRefreshToken ≠ none := by
          obtain ⟨-, -, hr⟩ := c.sealTokens_parts hseal
          rw [htr] at hr
          have hnone : sealed.refresh = none := hr
          simpa [EncryptedToken.rotate, hnone] using hne
        cases answers with
        | nil =>
          rw [rotateAll, Option.some.injEq] at hrun
          subst hrun
          refine iff_of_false ?_ fun hall ↦ hall answer List.mem_cons_self htr
          rintro ⟨⟨-, hstays⟩, -⟩
          obtain ⟨_, -, hok⟩ := hstays hct
          rw [hclosed] at hok
          exact absurd hok (by simp)
        | cons answer' answers =>
          rw [rotateAll] at hrun
          split at hrun
          · rename_i mid' hmid'
            obtain ⟨-, -, ⟨_, hok⟩, -⟩ := refreshOneToken_eq_rotated hmid'
            rw [hclosed] at hok
            exact absurd hok (by simp)
          · exact absurd hrun (by simp)
    · exact absurd hrun (by simp)

/-- **Decryptability over a history.** A row that an authorization created and that only successful
refreshes rewrote, each with a fresh DEK, can be read with the tokens issued last, and is not taken
for corrupted by the next refresh, exactly when every answer carried a refresh token. -/
theorem history_staysDecryptable_iff {rand : SealRandomness} {id tenantId provider : String}
    {parsed : ParsedTokenResponse} {now : Time}
    (hpersist : EncryptedToken.ofAnswer c rand id tenantId provider parsed now = .ok row)
    (hfresh : (rand.dek.bytes :: answers.map fun a ↦ a.rand.dek.bytes).Nodup)
    (hrun : rotateAll c row answers = some row') :
    (StaysDecryptable c row' (lastAccess parsed.accessToken answers)
          (lastRefresh (truthy parsed.refreshToken) answers) ∧
        ∀ input, (refreshOneToken c row' input).1 ≠ .corrupted) ↔
      ∀ answer ∈ answers, truthy answer.parsed.refreshToken ≠ none := by
  obtain ⟨sealed, hseal, hrow⟩ :=
    EncryptedToken.exists_ofAnswer c rand id tenantId provider parsed now
  rw [hrow, Except.ok.injEq] at hpersist
  subst hpersist
  exact staysDecryptable_rotateAll_iff rfl (sealedUnder_ofSealed now hseal) hfresh hrun

end Runs

/-! ### A concrete history -/

section Example

/-- Randomness whose DEK is the given byte repeated. -/
def constantRandomness (b : UInt8) : SealRandomness :=
  ⟨constantBytes _ b, constantBytes _ 0, constantBytes _ 0, constantBytes _ 0⟩

/-- An authorization that returns a refresh token. -/
def firstAnswer : ParsedTokenResponse :=
  ⟨"xoxb-1", some "xoxe-1", some 43200, ["chat:write"], some "T1"⟩

/-- A refresh whose answer rotates the refresh token. -/
def rotatingAnswer : Rotation :=
  ⟨constantRandomness 2, ⟨"xoxb-2", some "xoxe-2", some 43200, [], some "T1"⟩, 0⟩

/-- The refresh after that one. -/
def nextRotatingAnswer : Rotation :=
  ⟨constantRandomness 4, ⟨"xoxb-4", some "xoxe-4", some 43200, [], some "T1"⟩, 0⟩

/-- A refresh whose answer keeps the refresh token by omitting it. -/
def keepingAnswer : Rotation :=
  ⟨constantRandomness 3, ⟨"xoxb-3", none, some 43200, [], some "T1"⟩, 0⟩

theorem getProvider_slack : getProvider "slack" ≠ none := by decide

/-- A history of two rotations that stays readable. -/
theorem history_staysDecryptable_example :
    ∃ row row', EncryptedToken.ofAnswer framedProvider (constantRandomness 1) "id-1" "tenant-1"
        "slack" firstAnswer 0 = .ok row ∧
      rotateAll framedProvider row [rotatingAnswer, nextRotatingAnswer] = some row' ∧
      StaysDecryptable framedProvider row' "xoxb-4" (some "xoxe-4") := by
  obtain ⟨sealed, hseal, hrow⟩ := EncryptedToken.exists_ofAnswer framedProvider
    (constantRandomness 1) "id-1" "tenant-1" "slack" firstAnswer 0
  have hunder := sealedUnder_ofSealed 0 hseal
  have htr : truthy firstAnswer.refreshToken = some "xoxe-1" := by decide
  rw [htr] at hunder
  obtain ⟨row', hrun⟩ := exists_rotateAll [rotatingAnswer, nextRotatingAnswer] (show _ = _ from rfl)
    getProvider_slack hunder (by decide)
  exact ⟨_, row', hrow, hrun,
    ((history_staysDecryptable_iff hrow (by decide) hrun).2 (by decide)).1⟩

/-- **An answer that keeps the refresh token breaks the row.** After one such refresh the stored
refresh token no longer opens, and the next refresh marks the untampered row `CORRUPTED`. -/
theorem keeping_answer_corrupts :
    ∃ row row', EncryptedToken.ofAnswer framedProvider (constantRandomness 1) "id-1" "tenant-1"
        "slack" firstAnswer 0 = .ok row ∧
      ((constantRandomness 1).dek.bytes :: [keepingAnswer].map fun a ↦ a.rand.dek.bytes).Nodup ∧
      rotateAll framedProvider row [keepingAnswer] = some row' ∧
      ¬ StaysDecryptable framedProvider row' "xoxb-3" (some "xoxe-1") ∧
      (refreshOneToken framedProvider row' rotatingAnswer.input).1 = .corrupted := by
  obtain ⟨sealed, hseal, hrow⟩ := EncryptedToken.exists_ofAnswer framedProvider
    (constantRandomness 1) "id-1" "tenant-1" "slack" firstAnswer 0
  have hunder := sealedUnder_ofSealed 0 hseal
  have htr : truthy firstAnswer.refreshToken = some "xoxe-1" := by decide
  rw [htr] at hunder
  obtain ⟨sealed', hseal', hrot⟩ := refreshOneToken_of_sealedUnder rfl getProvider_slack hunder
    keepingAnswer
  have hclosed := decryptRefresh_rotate_of_omitted keepingAnswer.now hunder
    (by decide) (by decide) hseal'
  have hct : sealed'.refresh = none := (framedProvider.sealTokens_parts hseal').2.2
  refine ⟨_, _, hrow, by decide, by rw [rotateAll, hrot]; rfl, ?_, ?_⟩
  · rintro ⟨-, hstays⟩
    obtain ⟨_, -, hok⟩ := hstays
      (by simpa [EncryptedToken.rotate, hct] using hunder.refresh_ne_none)
    rw [hclosed] at hok
    exact absurd hok (by simp)
  · refine (refreshOneToken_corrupted_iff rfl ?_ getProvider_slack).2 fun token hok ↦ ?_
    · simpa [EncryptedToken.rotate, hct] using hunder.refresh_ne_none
    · rw [hclosed] at hok
      exact absurd hok (by simp)

end Example

end Siyadah
