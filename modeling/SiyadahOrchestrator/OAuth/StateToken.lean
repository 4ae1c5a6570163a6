import SiyadahOrchestrator.Foundations.PyValue
import SiyadahOrchestrator.Vault.Token

/-!
# The signed state token

The functions of `siyadah_oauth_state.py` that read a state token, and the unverified reading of
`_decode_state_unsafe_for_attribution`.

Two decoders of base64 meet here. `b64urlDec` checks the alphabet before it decodes; the standard
library's own decoder (`a2bBase64`, CPython's non-strict mode) skips every character it does not
know and stops at the padding. The verifier uses the first, the attribution the second.

Strings are Python's: sequences of code points (`PyStr`), since a decoded JSON string may hold a
lone surrogate that no UTF-8 encoder and no database accepts. HMAC-SHA-256, `json.loads` and two
conversions are the standard library's and enter as parameters, `StdLib`; every result holds
whatever they compute.
-/

namespace Siyadah

/-! ### Decoded payloads -/

/-- What `json.loads` returns. -/
inductive JsonValue where
  | null
  | bool (b : Bool)
  | int (n : ℤ)
  | float (x : PyFloat)
  | str (s : PyStr)
  | arr (items : List JsonValue)
  | obj (fields : List (PyStr × JsonValue))

/-- `d[key]` of a dictionary; `none` when the key is missing. -/
def dictGet (fields : List (PyStr × JsonValue)) (key : String) : Option JsonValue :=
  (fields.find? fun f ↦ f.1 = PyStr.ofString key).map Prod.snd

/-- The standard library, where it is not about strings and lists. -/
structure StdLib where
  /-- `hmac.new(key, message, hashlib.sha256).digest()`. -/
  hmacSha256 : Bytes → Bytes → TokenBytes 32
  /-- `json.loads`; `none` when it raises. -/
  jsonLoads : Bytes → Option JsonValue
  /-- `int(s)` of a string; `none` is `ValueError`. -/
  intOfStr : PyStr → Option ℤ
  /-- `str(v)` of a value that is not a string. -/
  strOf : JsonValue → PyStr
  /-- `repr(s)` of a string. -/
  reprStr : String → String

/-! ### Base64 -/

/-- The value of one character, after `urlsafe_b64decode` has mapped `-` and `_` to `+` and `/`. -/
def sextet? (c : ℕ) : Option ℕ :=
  if 65 ≤ c ∧ c ≤ 90 then some (c - 65)
  else if 97 ≤ c ∧ c ≤ 122 then some (c - 71)
  else if 48 ≤ c ∧ c ≤ 57 then some (c + 4)
  else if c = 43 ∨ c = 45 then some 62
  else if c = 47 ∨ c = 95 then some 63
  else none

/-- `binascii.a2b_base64` in non-strict mode from the middle of its loop: `quad` characters of the
group of four are read, `left` holds the bits that are not out yet, `pads` counts the padding. -/
def a2bBase64 (quad left pads : ℕ) : PyStr → Option Bytes
  | [] => if quad = 0 then some [] else none
  | c :: cs =>
    if c = 61 then
      if 2 ≤ quad ∧ 4 ≤ quad + (pads + 1) then some []
      else a2bBase64 quad left (if 2 ≤ quad then pads + 1 else pads) cs
    else
      match sextet? c with
      | none => a2bBase64 quad left pads cs
      | some v =>
        match quad with
        | 0 => a2bBase64 1 v 0 cs
        | 1 => (a2bBase64 2 (v % 16) 0 cs).map (UInt8.ofNat (left * 4 + v / 16) :: ·)
        | 2 => (a2bBase64 3 (v % 4) 0 cs).map (UInt8.ofNat (left * 16 + v / 4) :: ·)
        | _ => (a2bBase64 0 0 0 cs).map (UInt8.ofNat (left * 64 + v) :: ·)

/-- `base64.urlsafe_b64decode`; `none` is `ValueError`, for a character that is not ASCII or for
wrong padding. -/
def urlsafeB64decode (s : PyStr) : Option Bytes :=
  if s.all (· < 128) then a2bBase64 0 0 0 s else none

/-- `"=" * ((4 - len(s) % 4) % 4)`. -/
def b64Pad (s : PyStr) : PyStr := List.replicate ((4 - s.length % 4) % 4) 61

/-- A character of `[A-Za-z0-9_\-]`. -/
def isB64url (c : ℕ) : Bool :=
  (65 ≤ c ∧ c ≤ 90) ∨ (97 ≤ c ∧ c ≤ 122) ∨ (48 ≤ c ∧ c ≤ 57) ∨ c = 95 ∨ c = 45

/-- `_B64URL_RE.match`: the `$` of the pattern also matches before a final newline. -/
def b64urlRe (s : PyStr) : Bool :=
  s.all isB64url || (s.getLast? = some 10 && s.dropLast.all isB64url)

/-- `_b64url_dec`; `none` is `ValueError`. -/
def b64urlDec (s : PyStr) : Option Bytes :=
  if b64urlRe s then urlsafeB64decode (s ++ b64Pad s) else none

/-! ### Reading a token -/

/-- The subclasses of `StateError`. -/
inductive StateError where
  | stateConfigError
  | stateMalformedError
  | stateSignatureError
  | stateExpiredError
  | stateTenantMismatchError
  | nonceReplayError
  | nonceNotFoundError
deriving DecidableEq, Repr

/-- The class name, as the handler reports it. -/
def StateError.typeName : StateError → String
  | .stateConfigError => "StateConfigError"
  | .stateMalformedError => "StateMalformedError"
  | .stateSignatureError => "StateSignatureError"
  | .stateExpiredError => "StateExpiredError"
  | .stateTenantMismatchError => "StateTenantMismatchError"
  | .nonceReplayError => "NonceReplayError"
  | .nonceNotFoundError => "NonceNotFoundError"

/-- What `verify_state` raises: a typed `StateError`, or an exception of the conversions it makes on
claims that it has not checked the type of. -/
inductive VerifyError where
  | state (e : StateError)
  | unicodeEncodeError
  | typeError
  | valueError
  | overflowError
deriving DecidableEq, Repr

/-- Verified claims. -/
structure StateClaims where
  tenantId : PyStr
  nonce : PyStr
  issuedAt : ℤ
  expiresAt : ℤ
  returnPath : PyStr
deriving DecidableEq, Repr

/-- A signing key, of the only length that `StateProvider.__init__` accepts. -/
abbrev StateKey := TokenBytes 32

/-- `int(time.time())`. -/
def unixSeconds (now : Time) : ℤ := now / 1000000

namespace StdLib

variable (lib : StdLib)

/-- `str(v)`. -/
def pyStr : JsonValue → PyStr
  | .str s => s
  | v => lib.strOf v

/-- `int(v)`: a number with a fraction is truncated towards zero. -/
def pyInt : JsonValue → Except VerifyError ℤ
  | .int n => .ok n
  | .bool b => .ok (if b then 1 else 0)
  | .float (.finite q) => .ok (q.num.tdiv q.den)
  | .float (.infinity _) => .error .overflowError
  | .float .nan => .error .valueError
  | .str s =>
    match lib.intOfStr s with
    | some n => .ok n
    | none => .error .valueError
  | _ => .error .typeError

/-- `str(v).encode()`. -/
def encodeStr (v : JsonValue) : Except VerifyError Bytes :=
  match (lib.pyStr v).toString? with
  | some s => .ok (utf8 s)
  | none => .error .unicodeEncodeError

/-- The shape and signature checks of `verify_state`: the payload bytes of a token whose signature
is the key's. -/
def openToken (key : StateKey) (token : PyStr) : Except VerifyError Bytes :=
  if token = [] then .error (.state .stateMalformedError)
  else
    match token.splitOn 46 with
    | [payload, signature] =>
      match b64urlDec payload, b64urlDec signature with
      | some payloadBytes, some sig =>
        if sig = (lib.hmacSha256 key.bytes payloadBytes).bytes then .ok payloadBytes
        else .error (.state .stateSignatureError)
      | _, _ => .error (.state .stateMalformedError)
    | _ => .error (.state .stateMalformedError)

/-- The checks of `verify_state` on a payload whose signature is good. -/
def readClaims (payloadBytes : Bytes) (expectedTenantId : JsonValue) (now : Time) :
    Except VerifyError StateClaims := do
  let some (.obj fields) := lib.jsonLoads payloadBytes | .error (.state .stateMalformedError)
  let some tid := dictGet fields "tid" | .error (.state .stateMalformedError)
  let some n := dictGet fields "n" | .error (.state .stateMalformedError)
  let some iat := dictGet fields "iat" | .error (.state .stateMalformedError)
  let some exp := dictGet fields "exp" | .error (.state .stateMalformedError)
  let some rp := dictGet fields "rp" | .error (.state .stateMalformedError)
  let tenant ← lib.encodeStr tid
  let expected ← lib.encodeStr expectedTenantId
  if tenant ≠ expected then .error (.state .stateTenantMismatchError)
  else
    let expiresAt ← lib.pyInt exp
    if unixSeconds now ≥ expiresAt then .error (.state .stateExpiredError)
    else
      let issuedAt ← lib.pyInt iat
      return ⟨lib.pyStr tid, lib.pyStr n, issuedAt, expiresAt, lib.pyStr rp⟩

/-- `verify_state`. -/
def verifyState (key : StateKey) (token : PyStr) (expectedTenantId : JsonValue) (now : Time) :
    Except VerifyError StateClaims := do
  let payloadBytes ← lib.openToken key token
  lib.readClaims payloadBytes expectedTenantId now

/-- `_decode_state_unsafe_for_attribution`: the `tid` and `n` of the payload, signed or not. -/
def decodeStateUnsafe (state : PyStr) : Option (JsonValue × JsonValue) :=
  if 46 ∈ state then do
    let payload := state.takeWhile (· ≠ 46)
    let payloadBytes ← urlsafeB64decode (payload ++ b64Pad payload)
    let .obj fields ← lib.jsonLoads payloadBytes | none
    let tid ← dictGet fields "tid"
    let n ← dictGet fields "n"
    return (tid, n)
  else none

/-- The handler's gate: the claims of a token that verifies for the tenant it names itself. -/
def gate (key : StateKey) (state : PyStr) (now : Time) : Option (Except VerifyError StateClaims) :=
  (lib.decodeStateUnsafe state).map fun claims ↦ lib.verifyState key state claims.1 now

variable {lib} {key : StateKey} {state : PyStr} {now : Time} {claims : StateClaims}

/-- What passes the gate carries a signature of the key. -/
theorem exists_openToken_of_gate (h : lib.gate key state now = some (.ok claims)) :
    ∃ payloadBytes, lib.openToken key state = .ok payloadBytes := by
  obtain ⟨unverified, -, hverify⟩ := Option.map_eq_some_iff.1 h
  rcases hopen : lib.openToken key state with e | payloadBytes
  · rw [verifyState, hopen] at hverify
    exact absurd hverify (by simp [bind, Except.bind])
  · exact ⟨payloadBytes, rfl⟩

end StdLib

end Siyadah
