import SiyadahOrchestrator.OAuth.StateToken
import Mathlib.Data.List.DropRight
import Mathlib.Data.Set.Basic

/-!
# Issuing state tokens

`make_state`, with the encoders it uses, and its agreement with `verify_state` in both directions: a
token that was issued verifies to the claims it was issued with, until it expires and for its own
tenant only; and, where nobody else makes HMAC tags, a token that verifies was issued.

The base64 codec is the one of `StateToken`, so that encoding and decoding undo each other is
proved (`b64urlDec_b64urlEnc`): decoding goes by groups of four characters, encoding by groups of
three bytes. `json.loads` is a parameter, and that it undoes `json.dumps` on the payloads at hand is
a hypothesis (`StdLib.Loads`).
-/

namespace Siyadah

/-! ### Encoding base64 -/

/-- The character of six bits in the URL-safe alphabet. -/
def b64Char (v : ℕ) : ℕ :=
  if v < 26 then v + 65
  else if v < 52 then v + 71
  else if v < 62 then v - 4
  else if v = 62 then 45
  else 95

/-- The characters of a byte string, before padding. -/
def b64Chars : Bytes → PyStr
  | [] => []
  | [a] => [b64Char (a.toNat / 4), b64Char (a.toNat % 4 * 16)]
  | [a, b] =>
    [b64Char (a.toNat / 4), b64Char (a.toNat % 4 * 16 + b.toNat / 16), b64Char (b.toNat % 16 * 4)]
  | a :: b :: c :: rest =>
    b64Char (a.toNat / 4) :: b64Char (a.toNat % 4 * 16 + b.toNat / 16) ::
      b64Char (b.toNat % 16 * 4 + c.toNat / 64) :: b64Char (c.toNat % 64) :: b64Chars rest

/-- `base64.urlsafe_b64encode(b).decode("ascii")`. -/
def urlsafeB64encode (b : Bytes) : PyStr := b64Chars b ++ b64Pad (b64Chars b)

/-- `_b64url_enc`. -/
def b64urlEnc (b : Bytes) : PyStr := (urlsafeB64encode b).rdropWhile (· = 61)

theorem sextet?_b64Char {v : ℕ} (h : v < 64) : sextet? (b64Char v) = some v := by
  have hall : ∀ v < 64, sextet? (b64Char v) = some v := by decide
  exact hall v h

theorem isB64url_b64Char {v : ℕ} (h : v < 64) : isB64url (b64Char v) := by
  have hall : ∀ v < 64, isB64url (b64Char v) := by decide
  exact hall v h

/-- Every character is one of the alphabet. -/
theorem isB64url_of_mem_b64Chars {b : Bytes} : ∀ c ∈ b64Chars b, isB64url c := by
  induction b using b64Chars.induct with
  | case1 => exact fun c hc ↦ absurd hc List.not_mem_nil
  | case2 a =>
    have ha := a.toNat_lt
    simp only [b64Chars, List.forall_mem_cons]
    exact ⟨isB64url_b64Char (by omega), isB64url_b64Char (by omega), by simp⟩
  | case3 a b =>
    have ha := a.toNat_lt
    have hb := b.toNat_lt
    simp only [b64Chars, List.forall_mem_cons]
    exact ⟨isB64url_b64Char (by omega), isB64url_b64Char (by omega), isB64url_b64Char (by omega),
      by simp⟩
  | case4 a b c rest ih =>
    have ha := a.toNat_lt
    have hb := b.toNat_lt
    have hc := c.toNat_lt
    simp only [b64Chars, List.forall_mem_cons]
    exact ⟨isB64url_b64Char (by omega), isB64url_b64Char (by omega), isB64url_b64Char (by omega),
      isB64url_b64Char (by omega), ih⟩

/-- Stripping the padding leaves the characters. -/
theorem b64urlEnc_eq_b64Chars (b : Bytes) : b64urlEnc b = b64Chars b := by
  have hne : ∀ c ∈ b64Chars b, ¬ c = 61 := fun c hc heq ↦ by
    have hurl := isB64url_of_mem_b64Chars c hc
    rw [heq] at hurl
    exact absurd hurl (by decide)
  have hpad : ∀ n, (b64Chars b ++ List.replicate n 61).rdropWhile (· = 61) = b64Chars b := by
    intro n
    induction n with
    | zero =>
      rw [List.replicate_zero, List.append_nil, List.rdropWhile_eq_self_iff]
      intro hl
      simpa using hne _ (List.getLast_mem hl)
    | succ n ih =>
      rw [List.replicate_succ', ← List.append_assoc, List.rdropWhile_concat_pos _ _ _ (by simp)]
      exact ih
  exact hpad _

theorem isB64url_of_mem_b64urlEnc {b : Bytes} : ∀ c ∈ b64urlEnc b, isB64url c := by
  rw [b64urlEnc_eq_b64Chars]
  exact isB64url_of_mem_b64Chars

/-- The separator of a token is no character of base64. -/
theorem dot_notMem_b64urlEnc (b : Bytes) : 46 ∉ b64urlEnc b := fun h ↦
  absurd (isB64url_of_mem_b64urlEnc 46 h) (by decide)

/-! ### Decoding what was encoded -/

section Decode

variable {v left pads : ℕ} {cs : PyStr}

theorem b64Char_ne_pad (h : v < 64) : b64Char v ≠ 61 := fun heq ↦ by
  have hurl := isB64url_b64Char h
  rw [heq] at hurl
  exact absurd hurl (by decide)

theorem a2bBase64_zero (h : v < 64) :
    a2bBase64 0 left pads (b64Char v :: cs) = a2bBase64 1 v 0 cs := by
  rw [a2bBase64, if_neg (b64Char_ne_pad h), sextet?_b64Char h]
  rfl

theorem a2bBase64_one (h : v < 64) : a2bBase64 1 left pads (b64Char v :: cs) =
    (a2bBase64 2 (v % 16) 0 cs).map (UInt8.ofNat (left * 4 + v / 16) :: ·) := by
  rw [a2bBase64, if_neg (b64Char_ne_pad h), sextet?_b64Char h]
  rfl

theorem a2bBase64_two (h : v < 64) : a2bBase64 2 left pads (b64Char v :: cs) =
    (a2bBase64 3 (v % 4) 0 cs).map (UInt8.ofNat (left * 16 + v / 4) :: ·) := by
  rw [a2bBase64, if_neg (b64Char_ne_pad h), sextet?_b64Char h]
  rfl

theorem a2bBase64_three (h : v < 64) : a2bBase64 3 left pads (b64Char v :: cs) =
    (a2bBase64 0 0 0 cs).map (UInt8.ofNat (left * 64 + v) :: ·) := by
  rw [a2bBase64, if_neg (b64Char_ne_pad h), sextet?_b64Char h]
  rfl

theorem ofNat_eq {a : UInt8} {n : ℕ} (h : n = a.toNat) : UInt8.ofNat n = a := by
  rw [h, UInt8.ofNat_toNat]

/-- One byte and its padding. -/
theorem a2bBase64_byte (a : UInt8) (left pads : ℕ) :
    a2bBase64 0 left pads ([b64Char (a.toNat / 4), b64Char (a.toNat % 4 * 16)] ++ [61, 61]) =
      some [a] := by
  have ha := a.toNat_lt
  rw [List.cons_append, List.cons_append, a2bBase64_zero (by omega), a2bBase64_one (by omega),
    ofNat_eq (by omega : a.toNat / 4 * 4 + a.toNat % 4 * 16 / 16 = a.toNat)]
  rfl

/-- Two bytes and their padding. -/
theorem a2bBase64_pair (a b : UInt8) (left pads : ℕ) :
    a2bBase64 0 left pads ([b64Char (a.toNat / 4), b64Char (a.toNat % 4 * 16 + b.toNat / 16),
      b64Char (b.toNat % 16 * 4)] ++ [61]) = some [a, b] := by
  have ha := a.toNat_lt
  have hb := b.toNat_lt
  rw [List.cons_append, List.cons_append, List.cons_append, a2bBase64_zero (by omega),
    a2bBase64_one (by omega), a2bBase64_two (by omega),
    ofNat_eq (by omega :
      a.toNat / 4 * 4 + (a.toNat % 4 * 16 + b.toNat / 16) / 16 = a.toNat),
    ofNat_eq (by omega :
      (a.toNat % 4 * 16 + b.toNat / 16) % 16 * 16 + b.toNat % 16 * 4 / 4 = b.toNat)]
  rfl

/-- A group of three bytes. -/
theorem a2bBase64_group (a b c : UInt8) (left pads : ℕ) (cs : PyStr) :
    a2bBase64 0 left pads (b64Char (a.toNat / 4) :: b64Char (a.toNat % 4 * 16 + b.toNat / 16) ::
        b64Char (b.toNat % 16 * 4 + c.toNat / 64) :: b64Char (c.toNat % 64) :: cs) =
      (a2bBase64 0 0 0 cs).map fun bytes ↦ a :: b :: c :: bytes := by
  have ha := a.toNat_lt
  have hb := b.toNat_lt
  have hc := c.toNat_lt
  rw [a2bBase64_zero (by omega), a2bBase64_one (by omega), a2bBase64_two (by omega),
    a2bBase64_three (by omega),
    ofNat_eq (by omega :
      a.toNat / 4 * 4 + (a.toNat % 4 * 16 + b.toNat / 16) / 16 = a.toNat),
    ofNat_eq (by omega : (a.toNat % 4 * 16 + b.toNat / 16) % 16 * 16 +
      (b.toNat % 16 * 4 + c.toNat / 64) / 4 = b.toNat),
    ofNat_eq (by omega :
      (b.toNat % 16 * 4 + c.toNat / 64) % 4 * 64 + c.toNat % 64 = c.toNat),
    Option.map_map, Option.map_map]
  rfl

/-- Decoding the characters with their padding gives the bytes back. -/
theorem a2bBase64_b64Chars (b : Bytes) (left pads : ℕ) :
    a2bBase64 0 left pads (b64Chars b ++ b64Pad (b64Chars b)) = some b := by
  induction b using b64Chars.induct generalizing left pads with
  | case1 => rfl
  | case2 a => exact a2bBase64_byte a left pads
  | case3 a b => exact a2bBase64_pair a b left pads
  | case4 a b c rest ih =>
    have hpad : b64Pad (b64Chars (a :: b :: c :: rest)) = b64Pad (b64Chars rest) := by
      simp only [b64Pad, b64Chars, List.length_cons]
      congr 1
      omega
    rw [hpad, b64Chars]
    simp only [List.cons_append]
    rw [a2bBase64_group, ih]
    rfl

/-- **`_b64url_dec` undoes `_b64url_enc`.** -/
theorem b64urlDec_b64urlEnc (b : Bytes) : b64urlDec (b64urlEnc b) = some b := by
  have hall : (b64urlEnc b).all isB64url :=
    List.all_eq_true.2 isB64url_of_mem_b64urlEnc
  have hre : b64urlRe (b64urlEnc b) := by
    rw [b64urlRe, hall]
    rfl
  have hascii : (b64urlEnc b ++ b64Pad (b64urlEnc b)).all (· < 128) := by
    rw [List.all_append, Bool.and_eq_true]
    constructor
    · refine List.all_eq_true.2 fun c hc ↦ ?_
      have hurl := isB64url_of_mem_b64urlEnc c hc
      simp only [isB64url, decide_eq_true_eq] at hurl ⊢
      omega
    · refine List.all_eq_true.2 fun c hc ↦ ?_
      rw [List.eq_of_mem_replicate hc]
      rfl
  rw [b64urlDec, if_pos hre, urlsafeB64decode, if_pos hascii, b64urlEnc_eq_b64Chars]
  exact a2bBase64_b64Chars b 0 0

end Decode

/-! ### The payload -/

/-- `f"{n:04x}"` behind `\u`. -/
def unicodeEscape (n : ℕ) : PyStr :=
  let digit (d : ℕ) : ℕ := if d < 10 then d + 48 else d + 87
  [92, 117, digit (n / 4096 % 16), digit (n / 256 % 16), digit (n / 16 % 16), digit (n % 16)]

/-- One character of a JSON string under `ensure_ascii`. -/
def jsonEscape (c : ℕ) : PyStr :=
  if c = 34 then [92, 34]
  else if c = 92 then [92, 92]
  else if c = 10 then [92, 110]
  else if c = 13 then [92, 114]
  else if c = 9 then [92, 116]
  else if c = 12 then [92, 102]
  else if c = 8 then [92, 98]
  else if 32 ≤ c ∧ c ≤ 126 then [c]
  else if c < 0x10000 then unicodeEscape c
  else
    unicodeEscape (0xD800 + (c - 0x10000) / 1024) ++ unicodeEscape (0xDC00 + (c - 0x10000) % 1024)

/-- `json.dumps` of a string. -/
def jsonString (s : PyStr) : PyStr := 34 :: (s.flatMap jsonEscape ++ [34])

/-- `json.dumps` of an integer. -/
def jsonInt (n : ℤ) : PyStr := .ofString (toString n)

/-- The payload of a token. -/
structure StatePayload where
  tid : PyStr
  n : PyStr
  iat : ℤ
  exp : ℤ
  rp : PyStr
deriving DecidableEq

namespace StatePayload

/-- The dictionary, in the order of its keys. -/
def fields (p : StatePayload) : List (PyStr × JsonValue) :=
  [(.ofString "exp", .int p.exp), (.ofString "iat", .int p.iat), (.ofString "n", .str p.n),
    (.ofString "rp", .str p.rp), (.ofString "tid", .str p.tid)]

/-- `json.dumps(payload, sort_keys=True, separators=(",", ":"))`. -/
def text (p : StatePayload) : PyStr :=
  [123] ++ jsonString (.ofString "exp") ++ [58] ++ jsonInt p.exp ++ [44] ++
    jsonString (.ofString "iat") ++ [58] ++ jsonInt p.iat ++ [44] ++
    jsonString (.ofString "n") ++ [58] ++ jsonString p.n ++ [44] ++
    jsonString (.ofString "rp") ++ [58] ++ jsonString p.rp ++ [44] ++
    jsonString (.ofString "tid") ++ [58] ++ jsonString p.tid ++ [125]

/-- The text is ASCII, so `.encode("utf-8")` takes one byte for each character. -/
def dumps (p : StatePayload) : Bytes := p.text.map UInt8.ofNat

end StatePayload

/-- `NONCE_BYTES`. -/
def nonceBytes : ℕ := 24

/-- A call of `make_state`, with the random bytes it draws. -/
structure StateIssue where
  tenantId : String
  returnPath : String
  ttlSeconds : ℤ
  now : Time
  rand : TokenBytes nonceBytes

namespace StateIssue

variable (issue : StateIssue)

/-- The nonce that the call returns. -/
def nonce : PyStr := b64urlEnc issue.rand.bytes

/-- The payload that the call signs. -/
def payload : StatePayload where
  tid := .ofString issue.tenantId
  n := issue.nonce
  iat := unixSeconds issue.now
  exp := unixSeconds issue.now + issue.ttlSeconds
  rp := .ofString issue.returnPath

/-- The claims of the token. -/
def claims : StateClaims where
  tenantId := .ofString issue.tenantId
  nonce := issue.nonce
  issuedAt := unixSeconds issue.now
  expiresAt := unixSeconds issue.now + issue.ttlSeconds
  returnPath := .ofString issue.returnPath

end StateIssue

namespace StdLib

variable (lib : StdLib)

/-- `_b64url_enc(payload_bytes) + "." + _b64url_enc(sig)`. -/
def signedToken (key : StateKey) (payloadBytes : Bytes) : PyStr :=
  b64urlEnc payloadBytes ++ 46 :: b64urlEnc (lib.hmacSha256 key.bytes payloadBytes).bytes

/-- `make_state`: the token and the nonce. -/
def makeState (key : StateKey) (issue : StateIssue) : Except StateError (PyStr × PyStr) :=
  if issue.tenantId = "" then .error .stateConfigError
  else .ok (lib.signedToken key issue.payload.dumps, issue.nonce)

/-- `json.loads` undoes `json.dumps` on a payload. -/
def Loads (p : StatePayload) : Prop := lib.jsonLoads p.dumps = some (.obj p.fields)

end StdLib

/-! ### What was issued verifies -/

namespace StdLib

variable {lib : StdLib} {key : StateKey} {issue : StateIssue} {payloadBytes : Bytes}

/-- A signed token opens to its payload. -/
theorem openToken_signedToken (lib : StdLib) (key : StateKey) (payloadBytes : Bytes) :
    lib.openToken key (lib.signedToken key payloadBytes) = .ok payloadBytes := by
  have hne : lib.signedToken key payloadBytes ≠ [] := by simp [signedToken]
  have hsplit : (lib.signedToken key payloadBytes).splitOn 46 =
      [b64urlEnc payloadBytes, b64urlEnc (lib.hmacSha256 key.bytes payloadBytes).bytes] := by
    rw [signedToken, List.splitOn_append_cons_self_of_not_mem (dot_notMem_b64urlEnc _),
      List.splitOn_eq_singleton (dot_notMem_b64urlEnc _)]
  rw [openToken, if_neg hne, hsplit]
  simp only [b64urlDec_b64urlEnc, if_true]

/-- The claims of a payload, read back: first the tenant is compared, then the clock. -/
theorem readClaims_dumps (hjson : lib.Loads issue.payload) (expected : JsonValue) (later : Time) :
    lib.readClaims issue.payload.dumps expected later = (lib.encodeStr expected).bind fun bytes ↦
      if utf8 issue.tenantId ≠ bytes then .error (.state .stateTenantMismatchError)
      else if unixSeconds later ≥ unixSeconds issue.now + issue.ttlSeconds then
        .error (.state .stateExpiredError)
      else .ok issue.claims := by
  have htenant : lib.encodeStr (.str (.ofString issue.tenantId)) = .ok (utf8 issue.tenantId) := by
    rw [encodeStr, pyStr, PyStr.toString?_ofString]
  have hget : dictGet issue.payload.fields "tid" = some (.str (.ofString issue.tenantId)) ∧
      dictGet issue.payload.fields "n" = some (.str issue.nonce) ∧
      dictGet issue.payload.fields "iat" = some (.int (unixSeconds issue.now)) ∧
      dictGet issue.payload.fields "exp" =
        some (.int (unixSeconds issue.now + issue.ttlSeconds)) ∧
      dictGet issue.payload.fields "rp" = some (.str (.ofString issue.returnPath)) :=
    ⟨rfl, rfl, rfl, rfl, rfl⟩
  obtain ⟨htid, hn, hiat, hexp, hrp⟩ := hget
  rw [readClaims, hjson]
  simp only [htid, hn, hiat, hexp, hrp, htenant]
  rfl

/-- Whatever a payload is verified against, its claims are those it was issued with. -/
theorem claims_of_readClaims (hjson : lib.Loads issue.payload) {expected : JsonValue} {later : Time}
    {claims : StateClaims} (h : lib.readClaims issue.payload.dumps expected later = .ok claims) :
    claims = issue.claims := by
  rw [readClaims_dumps hjson] at h
  rcases henc : lib.encodeStr expected with e | bytes
  · rw [henc] at h
    exact absurd h (by simp [Except.bind])
  · rw [henc, Except.bind] at h
    split at h
    · exact absurd h (by simp)
    · split at h
      · exact absurd h (by simp)
      · exact (Except.ok.inj h).symm

/-- **The round trip**: what `verify_state` says to a token of `make_state`. -/
theorem verifyState_signedToken (hjson : lib.Loads issue.payload) (expected : String)
    (later : Time) :
    lib.verifyState key (lib.signedToken key issue.payload.dumps) (.str (.ofString expected))
        later =
      if expected ≠ issue.tenantId then .error (.state .stateTenantMismatchError)
      else if unixSeconds issue.now + issue.ttlSeconds ≤ unixSeconds later then
        .error (.state .stateExpiredError)
      else .ok issue.claims := by
  have htenant : utf8 issue.tenantId ≠ utf8 expected ↔ expected ≠ issue.tenantId := by
    rw [ne_eq, utf8_injective.eq_iff, eq_comm]
  have hencode : lib.encodeStr (.str (.ofString expected)) = .ok (utf8 expected) := by
    rw [encodeStr, pyStr, PyStr.toString?_ofString]
  have hread := readClaims_dumps hjson (.str (.ofString expected)) later
  rw [hencode] at hread
  rw [verifyState, openToken_signedToken]
  exact hread.trans (if_congr htenant rfl rfl)

end StdLib

/-! ### What verifies was issued -/

/-- The payload bytes and the tag that a token carries. -/
def tokenParts (token : PyStr) : Option (Bytes × Bytes) := do
  let [payload, signature] := token.splitOn 46 | none
  let payloadBytes ← b64urlDec payload
  let sig ← b64urlDec signature
  return (payloadBytes, sig)

namespace StdLib

variable {lib : StdLib} {key : StateKey} {token : PyStr} {payloadBytes : Bytes}

variable (lib key) in
/-- Nobody but `make_state` makes tags: of the pairs of a message and a tag that are `known` to
whoever presents tokens, those whose tag is valid under the key are of payloads that were issued. -/
def Unforgeable (known : Set (Bytes × Bytes)) (issues : List StateIssue) : Prop :=
  ∀ message tag, (message, tag) ∈ known → tag = (lib.hmacSha256 key.bytes message).bytes →
    ∃ issue ∈ issues, issue.tenantId ≠ "" ∧ message = issue.payload.dumps

/-- A token that opens carries its payload and the tag of it. -/
theorem tokenParts_of_openToken (h : lib.openToken key token = .ok payloadBytes) :
    tokenParts token = some (payloadBytes, (lib.hmacSha256 key.bytes payloadBytes).bytes) := by
  rw [openToken] at h
  split at h
  · exact absurd h (by simp)
  · split at h
    · rename_i payload signature hsplit
      split at h
      · rename_i bytes sig hpayload hsig
        split at h
        · rename_i htag
          obtain rfl := Except.ok.inj h
          rw [tokenParts, hsplit]
          simp only [hpayload, hsig, htag]
          rfl
        · exact absurd h (by simp)
      · exact absurd h (by simp)
    · exact absurd h (by simp)

/-- **The state token is correct.** A token of `make_state` verifies to the claims it was issued
with, for the tenant it was issued to and strictly before it expires, and fails otherwise, by tenant
first; and where nobody else makes tags, a token that verifies carries a payload that `make_state`
issued, and its claims are those. -/
theorem state_token_correct {issues : List StateIssue}
    (hjson : ∀ issue ∈ issues, lib.Loads issue.payload) :
    (∀ issue ∈ issues, issue.tenantId ≠ "" →
      ∃ token, lib.makeState key issue = .ok (token, issue.nonce) ∧
        ∀ (expected : String) (later : Time),
          lib.verifyState key token (.str (.ofString expected)) later =
            if expected ≠ issue.tenantId then .error (.state .stateTenantMismatchError)
            else if unixSeconds issue.now + issue.ttlSeconds ≤ unixSeconds later then
              .error (.state .stateExpiredError)
            else .ok issue.claims) ∧
      ∀ known : Set (Bytes × Bytes), lib.Unforgeable key known issues →
        ∀ token expected later claims, (∀ parts ∈ tokenParts token, parts ∈ known) →
          lib.verifyState key token expected later = .ok claims →
          ∃ issue ∈ issues, issue.tenantId ≠ "" ∧
            (tokenParts token).map Prod.fst = some issue.payload.dumps ∧
            claims = issue.claims := by
  refine ⟨fun issue hissue htenant ↦ ?_, fun known hmac token expected later claims hknown hok ↦ ?_⟩
  · refine ⟨lib.signedToken key issue.payload.dumps, ?_, fun expected later ↦ ?_⟩
    · rw [makeState, if_neg htenant]
    · exact verifyState_signedToken (hjson issue hissue) expected later
  · rcases hopen : lib.openToken key token with e | payloadBytes
    · rw [verifyState, hopen] at hok
      exact absurd hok (by simp [bind, Except.bind])
    · have hparts := tokenParts_of_openToken hopen
      have hmem := hknown _ (Option.mem_def.2 hparts)
      obtain ⟨issue, hissue, htenant, hpayload⟩ := hmac payloadBytes _ hmem rfl
      rw [verifyState, hopen] at hok
      refine ⟨issue, hissue, htenant, ?_, ?_⟩
      · rw [hparts, Option.map_some, hpayload]
      · exact claims_of_readClaims (hjson issue hissue) (hpayload ▸ hok)

end StdLib

/-! ### A token to evaluate with -/

/-- A token for tenant `t1`, with an all-zero nonce. -/
def demoIssue : StateIssue := ⟨"t1", "/", 300, 0, constantBytes 24 0⟩

/-- The tag of its payload under the all-zero key. -/
def demoTag : TokenBytes 32 where
  bytes := [0, 228, 127, 192, 222, 105, 66, 73, 135, 161, 188, 100, 93, 28, 69, 81, 168, 39, 239,
    112, 4, 229, 157, 188, 124, 13, 5, 44, 94, 178, 214, 169]
  length_eq := rfl

/-- The standard library on that payload. -/
def issuingLib : StdLib where
  hmacSha256 key message :=
    if key = (constantBytes 32 0).bytes ∧ message = demoIssue.payload.dumps then demoTag
    else constantBytes 32 0
  jsonLoads b :=
    if b = demoIssue.payload.dumps then some (.obj demoIssue.payload.fields) else none
  intOfStr _ := none
  strOf _ := []
  reprStr s := "'" ++ s ++ "'"

/-- The token is good for five minutes, for its own tenant; and of a token and a forgery with the
same tag, only the token verifies. -/
theorem state_token_correct_example :
    (∃ token, issuingLib.makeState (constantBytes 32 0) demoIssue = .ok (token, demoIssue.nonce) ∧
      issuingLib.verifyState (constantBytes 32 0) token (.str (.ofString "t1")) (seconds 299) =
        .ok demoIssue.claims ∧
      issuingLib.verifyState (constantBytes 32 0) token (.str (.ofString "t1")) (seconds 300) =
        .error (.state .stateExpiredError) ∧
      issuingLib.verifyState (constantBytes 32 0) token (.str (.ofString "t2")) (seconds 300) =
        .error (.state .stateTenantMismatchError)) ∧
    ∀ token claims,
      (∀ parts ∈ tokenParts token, parts.2 = demoTag.bytes ∧
        parts.1 ∈ [demoIssue.payload.dumps, utf8 "forged"]) →
      issuingLib.verifyState (constantBytes 32 0) token (.str (.ofString "t1")) 0 = .ok claims →
      claims = demoIssue.claims := by
  have hjson : ∀ issue ∈ [demoIssue], issuingLib.Loads issue.payload := by
    intro issue hissue
    obtain rfl := List.mem_singleton.1 hissue
    simp only [StdLib.Loads, issuingLib, if_true]
  obtain ⟨hissued, haccepted⟩ :=
    @StdLib.state_token_correct issuingLib (constantBytes 32 0) [demoIssue] hjson
  constructor
  · obtain ⟨token, hmake, hverify⟩ := hissued demoIssue List.mem_cons_self (by decide)
    refine ⟨token, hmake, (hverify "t1" _).trans ?_, (hverify "t1" _).trans ?_,
      (hverify "t2" _).trans ?_⟩
    · rw [if_neg (by decide), if_neg (by decide)]
    · rw [if_neg (by decide), if_pos (by decide)]
    · rw [if_pos (by decide)]
  · intro token claims hparts hok
    have hmac : issuingLib.Unforgeable (constantBytes 32 0)
        {parts | parts.2 = demoTag.bytes ∧
          parts.1 ∈ [demoIssue.payload.dumps, utf8 "forged"]} [demoIssue] := by
      rintro message tag ⟨htag, hmem⟩ hvalid
      rcases List.mem_cons.1 hmem with hissue | hforged
      · exact ⟨demoIssue, List.mem_cons_self, by decide, hissue⟩
      · -- The tag of the forgery is another one.
        obtain rfl : message = utf8 "forged" := List.mem_singleton.1 hforged
        have hne : demoTag.bytes ≠
            (issuingLib.hmacSha256 (constantBytes 32 0).bytes (utf8 "forged")).bytes := by
          decide +kernel
        exact absurd (htag.symm.trans hvalid) hne
    obtain ⟨issue, hissue, -, -, hclaims⟩ := haccepted _ hmac token _ 0 claims hparts hok
    obtain rfl := List.mem_singleton.1 hissue
    exact hclaims

end Siyadah
