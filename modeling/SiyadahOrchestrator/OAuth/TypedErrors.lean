import SiyadahOrchestrator.OAuth.StateIssue

/-!
# The errors of the verifier

`verify_state` is meant to raise a typed `StateError` on every failure path. Splitting, decoding,
the signature, the JSON and the missing claims are covered; what is not is the conversion of the
claims. `str(tid).encode()` fails on a lone surrogate, and `int()` of `exp` or `iat` fails on what
is no number.

So the outcome is typed (`typed_verifyState_iff`) exactly when the claims of the token, if it is
signed and has them all, can be converted as far as the checks get.
-/

namespace Siyadah

/-- The claims, or a subclass of `StateError`. -/
def TypedOutcome (outcome : Except VerifyError StateClaims) : Prop :=
  (∃ claims, outcome = .ok claims) ∨ ∃ e, outcome = .error (.state e)

namespace StdLib

variable (lib : StdLib)

/-- The token carries a good signature over an object that has all claims. -/
def SignedClaims (key : StateKey) (token : PyStr) (tid iat exp : JsonValue) : Prop :=
  ∃ payloadBytes fields n rp, lib.openToken key token = .ok payloadBytes ∧
    lib.jsonLoads payloadBytes = some (.obj fields) ∧ dictGet fields "tid" = some tid ∧
    dictGet fields "n" = some n ∧ dictGet fields "iat" = some iat ∧
    dictGet fields "exp" = some exp ∧ dictGet fields "rp" = some rp

/-- The claims can be converted as far as the checks get: `tid` has a UTF-8 encoding; if it is the
tenant, `exp` is a number; and if it has not passed, `iat` is a number. -/
def Convertible (tenant : String) (now : Time) (tid iat exp : JsonValue) : Prop :=
  ∃ t, (lib.pyStr tid).toString? = some t ∧
    (t = tenant → ∃ expiresAt, lib.pyInt exp = .ok expiresAt ∧
      (unixSeconds now < expiresAt → ∃ issuedAt, lib.pyInt iat = .ok issuedAt))

variable {lib} {key : StateKey} {token : PyStr} {tenant : String} {now : Time}
  {payloadBytes : Bytes} {tid iat exp : JsonValue}

theorem typed_openToken {e : VerifyError} (h : lib.openToken key token = .error e) :
    ∃ e', e = .state e' := by
  rw [openToken] at h
  split at h
  · exact ⟨_, (Except.error.inj h).symm⟩
  · split at h
    · split at h
      · split at h
        · exact absurd h (by simp)
        · exact ⟨_, (Except.error.inj h).symm⟩
      · exact ⟨_, (Except.error.inj h).symm⟩
    · exact ⟨_, (Except.error.inj h).symm⟩

/-- What `int()` raises is no `StateError`. -/
theorem not_state_pyInt {v : JsonValue} {e : StateError} : lib.pyInt v ≠ .error (.state e) := by
  intro h
  cases v with
  | float x =>
    cases x with
    | finite q => cases h
    | infinity negative => cases h
    | nan => cases h
  | str s =>
    rw [pyInt] at h
    split at h
    · cases h
    · cases h
  | _ => cases h

theorem typed_ok (claims : StateClaims) : TypedOutcome (.ok claims) := .inl ⟨claims, rfl⟩

theorem typed_state (e : StateError) : TypedOutcome (.error (.state e)) := .inr ⟨e, rfl⟩

/-- A number that is converted on the way has to be one. -/
theorem typed_pyInt_bind_iff {v : JsonValue} {f : ℤ → Except VerifyError StateClaims} :
    TypedOutcome (lib.pyInt v >>= f) ↔ ∃ n, lib.pyInt v = .ok n ∧ TypedOutcome (f n) := by
  rcases hv : lib.pyInt v with e | n
  · constructor
    · rintro (⟨claims, h⟩ | ⟨e', h⟩)
      · cases h
      · obtain rfl : e = .state e' := Except.error.inj h
        exact absurd hv not_state_pyInt
    · rintro ⟨n, h, -⟩
      cases h
  · refine ⟨fun h ↦ ⟨n, rfl, h⟩, ?_⟩
    rintro ⟨n', hn, h⟩
    obtain rfl := Except.ok.inj hn
    exact h

/-- **Signed claims** lead to a typed outcome exactly when they can be converted. -/
theorem typed_of_signedClaims (h : lib.SignedClaims key token tid iat exp) :
    TypedOutcome (lib.verifyState key token (.str (.ofString tenant)) now) ↔
      lib.Convertible tenant now tid iat exp := by
  obtain ⟨payloadBytes, fields, n, rp, hopen, hjson, htid, hn, hiat, hexp, hrp⟩ := h
  have hexpected : lib.encodeStr (.str (.ofString tenant)) = .ok (utf8 tenant) := by
    rw [encodeStr, pyStr, PyStr.toString?_ofString]
  have hrun : lib.verifyState key token (.str (.ofString tenant)) now =
      lib.encodeStr tid >>= fun bytes ↦
        if bytes ≠ utf8 tenant then .error (.state .stateTenantMismatchError)
        else lib.pyInt exp >>= fun expiresAt ↦
          if unixSeconds now ≥ expiresAt then .error (.state .stateExpiredError)
          else lib.pyInt iat >>= fun issuedAt ↦
            .ok ⟨lib.pyStr tid, lib.pyStr n, issuedAt, expiresAt, lib.pyStr rp⟩ := by
    rw [verifyState, hopen]
    show lib.readClaims payloadBytes _ now = _
    rw [readClaims, hjson]
    simp only [htid, hn, hiat, hexp, hrp, hexpected]
    rfl
  rw [hrun, Convertible, encodeStr]
  cases hstr : (lib.pyStr tid).toString? with
  | none =>
    constructor
    · rintro (⟨claims, h⟩ | ⟨e, h⟩)
      · cases h
      · cases h
    · rintro ⟨t, h, -⟩
      cases h
  | some t =>
    have htenant : utf8 t ≠ utf8 tenant ↔ t ≠ tenant := utf8_injective.ne_iff
    simp only [Option.some.injEq, exists_eq_left']
    show TypedOutcome (if utf8 t ≠ utf8 tenant then _ else _) ↔ _
    by_cases ht : t = tenant
    · rw [if_neg fun h ↦ htenant.1 h ht, typed_pyInt_bind_iff, imp_iff_right ht]
      refine exists_congr fun expiresAt ↦ and_congr_right fun _ ↦ ?_
      split
      · rename_i hpassed
        exact iff_of_true (typed_state _) fun hlater ↦ absurd hpassed (not_le.2 hlater)
      · rename_i hlater
        rw [typed_pyInt_bind_iff, imp_iff_right (not_le.1 hlater)]
        exact exists_congr fun issuedAt ↦ and_iff_left (typed_ok _)
    · rw [if_pos (htenant.2 ht)]
      exact iff_of_true (typed_state _) fun h ↦ absurd h ht

/-- Everything else that may be wrong with a token is a typed error. -/
theorem typed_of_not_signedClaims (h : ∀ tid iat exp, ¬ lib.SignedClaims key token tid iat exp) :
    TypedOutcome (lib.verifyState key token (.str (.ofString tenant)) now) := by
  rcases hopen : lib.openToken key token with e | payloadBytes
  · obtain ⟨e', rfl⟩ := typed_openToken hopen
    rw [verifyState, hopen]
    exact typed_state e'
  rw [verifyState, hopen]
  show TypedOutcome (lib.readClaims payloadBytes _ now)
  rw [readClaims]
  rcases hjson : lib.jsonLoads payloadBytes with _ | v
  · exact typed_state _
  cases v with
  | obj fields =>
    -- a claim that is missing is noticed before any is converted
    rcases htid : dictGet fields "tid" with _ | tid
    · simpa only [htid] using typed_state _
    rcases hn : dictGet fields "n" with _ | n
    · simpa only [htid, hn] using typed_state _
    rcases hiat : dictGet fields "iat" with _ | iat
    · simpa only [htid, hn, hiat] using typed_state _
    rcases hexp : dictGet fields "exp" with _ | exp
    · simpa only [htid, hn, hiat, hexp] using typed_state _
    rcases hrp : dictGet fields "rp" with _ | rp
    · simpa only [htid, hn, hiat, hexp, hrp] using typed_state _
    exact absurd ⟨payloadBytes, fields, n, rp, hopen, hjson, htid, hn, hiat, hexp, hrp⟩
      (h tid iat exp)
  | _ => exact typed_state _

/-- **The verifier fails closed, with typed errors**, exactly on the tokens whose claims, if they
are signed, can be converted as far as the checks get. -/
theorem typed_verifyState_iff (lib : StdLib) (key : StateKey) (token : PyStr) (tenant : String)
    (now : Time) : TypedOutcome (lib.verifyState key token (.str (.ofString tenant)) now) ↔
      ∀ tid iat exp, lib.SignedClaims key token tid iat exp →
        lib.Convertible tenant now tid iat exp := by
  constructor
  · exact fun h tid iat exp hsigned ↦ (typed_of_signedClaims hsigned).1 h
  · intro h
    by_cases hsigned : ∃ tid iat exp, lib.SignedClaims key token tid iat exp
    · obtain ⟨tid, iat, exp, hsigned⟩ := hsigned
      exact (typed_of_signedClaims hsigned).2 (h tid iat exp hsigned)
    · push Not at hsigned
      exact typed_of_not_signedClaims hsigned

end StdLib

/-! ### A token without an expiry -/

/-- An object with all claims, whose `exp` is `null`. -/
def nullExpiry : Bytes :=
  utf8 "\x7b\"exp\":null,\"iat\":0,\"n\":\"n1\",\"rp\":\"/\",\"tid\":\"t1\"\x7d"

/-- Its tag under the all-zero key. -/
def nullExpiryTag : TokenBytes 32 where
  bytes := [8, 211, 135, 16, 167, 53, 162, 222, 182, 241, 205, 133, 224, 214, 216, 169, 170, 36,
    110, 152, 179, 65, 104, 37, 175, 29, 23, 214, 95, 71, 90, 76]
  length_eq := rfl

/-- Its claims. -/
def nullExpiryClaims : List (PyStr × JsonValue) :=
  [(.ofString "exp", .null), (.ofString "iat", .int 0), (.ofString "n", .str (.ofString "n1")),
    (.ofString "rp", .str (.ofString "/")), (.ofString "tid", .str (.ofString "t1"))]

/-- The standard library on that payload. -/
def nullExpiryLib : StdLib where
  hmacSha256 key message :=
    if key = (constantBytes 32 0).bytes ∧ message = nullExpiry then nullExpiryTag
    else constantBytes 32 0
  jsonLoads b := if b = nullExpiry then some (.obj nullExpiryClaims) else none
  intOfStr _ := none
  strOf _ := []
  reprStr s := "'" ++ s ++ "'"

/-- `int(None)` raises a `TypeError`, which no handler of `StateError` catches. -/
theorem not_typed_nullExpiry :
    ¬ TypedOutcome (nullExpiryLib.verifyState (constantBytes 32 0)
      (nullExpiryLib.signedToken (constantBytes 32 0) nullExpiry) (.str (.ofString "t1")) 0) := by
  have hsigned : nullExpiryLib.SignedClaims (constantBytes 32 0)
      (nullExpiryLib.signedToken (constantBytes 32 0) nullExpiry) (.str (.ofString "t1")) (.int 0)
      .null := by
    have hjson : nullExpiryLib.jsonLoads nullExpiry = some (.obj nullExpiryClaims) := by
      simp only [nullExpiryLib, if_true]
    exact ⟨nullExpiry, nullExpiryClaims, _, _, StdLib.openToken_signedToken _ _ _, hjson, rfl, rfl,
      rfl, rfl, rfl⟩
  rw [StdLib.typed_of_signedClaims hsigned]
  rintro ⟨t, ht, hexp⟩
  have heq : t = "t1" := by
    rw [StdLib.pyStr, PyStr.toString?_ofString] at ht
    exact (Option.some.inj ht).symm
  obtain ⟨expiresAt, h, -⟩ := hexp heq
  cases h

end Siyadah
