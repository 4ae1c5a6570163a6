import SiyadahOrchestrator.Foundations.PyJson
import SiyadahOrchestrator.Foundations.PyRegex

/-!
# Scrubbing the log

`logging_config` has structlog render each event as a line of JSON. The processors before the last
two have added the bound context, the level, the time and the stack to the event dictionary when
`_scrub_event` replaces what looks like a secret in its strings. After it `format_exc_info` adds the
text of the exception, and `JSONRenderer` writes the dictionary.

So what is in a key, deeper in the dictionary, in a number or in the exception is never scrubbed,
and what is scrubbed is written in another way than it was scrubbed in: escapes may put a boundary
next to a word or complete one. `logLine_quiet_iff` says exactly which events make a line without
secrets.
-/

namespace Siyadah

open PyValue Regex

/-- What the scrubbing and the writing of strings depend on. -/
structure LogTables extends ReprTables where
  /-- The characters that `str.isalnum` accepts, beyond ASCII. -/
  isAlnum : ℕ → Bool

/-! ### Secrets -/

/-- `sk-ant-[A-Za-z0-9\-_]{20,}` -/
def anthropicKey : Regex ℕ :=
  seq (literal "sk-ant-") (many (fun c ↦ isAsciiAlnum c || oneOfChars "-_" c) 20 none)

/-- `Bearer\s+[A-Za-z0-9\-_.]{20,}`, ignoring case. -/
def bearerToken : Regex ℕ :=
  seq (literalIgnoringCase "Bearer") <| seq (many PyStr.isSpace 1 none) <|
    many (ignoringCase fun c ↦ isAsciiAlnum c || oneOfChars "-_." c) 20 none

/-- `\b[a-f0-9]{64}\b` -/
def hexBlob : Regex ℕ :=
  seq boundary <| seq (many (oneOfChars "abcdef0123456789") 64 (some 64)) boundary

/-- `(SIYADAH_OAUTH_(?:MK|STATE_KEY)|SLACK_(?:SIGNING_SECRET|CLIENT_SECRET))` and then
`\s*[=:]\s*[A-Za-z0-9_\-+/]{20,}`, ignoring case. -/
def namedSecret : Regex ℕ :=
  seq (alt (seq (literalIgnoringCase "SIYADAH_OAUTH_")
      (alt (literalIgnoringCase "MK") (literalIgnoringCase "STATE_KEY")))
    (seq (literalIgnoringCase "SLACK_")
      (alt (literalIgnoringCase "SIGNING_SECRET") (literalIgnoringCase "CLIENT_SECRET")))) <|
  seq (many PyStr.isSpace 0 none) <| seq (one (oneOfChars "=:")) <|
    seq (many PyStr.isSpace 0 none) <|
      many (ignoringCase fun c ↦ isAsciiAlnum c || oneOfChars "_-+/" c) 20 none

/-- `xox[abprs]-[A-Za-z0-9-]{10,}` -/
def slackToken : Regex ℕ :=
  seq (literal "xox") <| seq (one (oneOfChars "abprs")) <| seq (literal "-") <|
    many (fun c ↦ isAsciiAlnum c || oneOfChars "-" c) 10 none

/-- `xoxe-[A-Za-z0-9-]{10,}` -/
def slackRefreshToken : Regex ℕ :=
  seq (literal "xoxe-") (many (fun c ↦ isAsciiAlnum c || oneOfChars "-" c) 10 none)

/-- `ya29\.[A-Za-z0-9_\-]{20,}` -/
def googleAccessToken : Regex ℕ :=
  seq (literal "ya29.") (many (fun c ↦ isAsciiAlnum c || oneOfChars "_-" c) 20 none)

/-- `\b1//0[A-Za-z0-9_\-]{30,}` -/
def googleRefreshToken : Regex ℕ :=
  seq boundary <|
    seq (literal "1//0") (many (fun c ↦ isAsciiAlnum c || oneOfChars "_-" c) 30 none)

/-- `_SECRET_PATTERNS`. -/
def secretPatterns : List (Regex ℕ) :=
  [anthropicKey, bearerToken, hexBlob, namedSecret, slackToken, slackRefreshToken,
    googleAccessToken, googleRefreshToken]

/-- What a secret is replaced by. -/
def redacted : PyStr := PyStr.ofString "<redacted>"

section Scrubbing

variable (T : LogTables)

/-- `_scrub`. -/
def scrub (text : PyStr) : PyStr := subAll (isWordChar T.isAlnum) secretPatterns redacted text

/-- A value of the event dictionary, scrubbed. -/
def scrubValue : PyValue → PyValue
  | .str s => .str (scrub T s)
  | v => v

/-- `_scrub_event`: the message, and then every field. -/
def scrubEvent (fields : List (PyStr × PyValue)) : List (PyStr × PyValue) :=
  let fields := match fields.lookup (PyStr.ofString "event") with
    | some (.str msg) => upsert fields (PyStr.ofString "event") (.str (scrub T msg))
    | _ => fields
  fields.map fun f ↦ (f.1, scrubValue T f.2)

/-- An event when `_scrub_event` gets it. -/
structure LogEvent where
  fields : List (PyStr × PyValue)
  nodup : (fields.map Prod.fst).Nodup
  /-- The text of the exception, if the event has exception information. -/
  exception : Option PyStr

/-- `format_exc_info`. -/
def formatExcInfo (exception : Option PyStr) (fields : List (PyStr × PyValue)) :
    List (PyStr × PyValue) :=
  match exception with
  | some text => upsert fields (PyStr.ofString "exception") (.str text)
  | none => fields

/-- The line of an event. -/
def logLine (e : LogEvent) : PyStr :=
  jsonOf T.toReprTables (.dict (formatExcInfo e.exception (scrubEvent T e.fields)))

/-- No pattern finds a secret in the text. -/
def Quiet (text : PyStr) : Prop :=
  ∀ r ∈ secretPatterns, r.search (isWordChar T.isAlnum) false text = false

end Scrubbing

end Siyadah
