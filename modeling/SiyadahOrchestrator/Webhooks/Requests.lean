import Mathlib.Algebra.Order.Group.Abs
import Mathlib.Algebra.Order.Group.Int
import SiyadahOrchestrator.Foundations.PyValue
import SiyadahOrchestrator.Gate.RequireTenant
import SiyadahOrchestrator.OAuth.StateToken
import SiyadahOrchestrator.Webhooks.Delivery

/-!
# Webhook requests, from their bytes

`slack_events_webhook` and `google_risc_webhook` as the network sees them: public routes, on which
anybody may send anything. A handler verifies the request, reads its JSON, deduplicates, and
revokes. `Webhooks.Delivery` begins after the first two of these, with fields that are strings; here
a body is any JSON value, and a field may be missing or of a wrong type.

The verification of a Slack request reads the clock and compares an HMAC over the exact bytes of the
body; that of a Google push is a token in a header, which does not cover the body. Both come before
anything is parsed or stored.

`hmac`, `json.loads`, PyJWT and the key set of Google are parameters.
-/

namespace Siyadah

open PyValue

/-! ### Requests -/

/-- A request to `/v2/webhooks/slack/events`; a missing header is empty. -/
structure SlackRequest where
  rawBody : Bytes
  signature : String
  timestamp : String
deriving DecidableEq

/-- A request to `/v2/webhooks/google/risc`. -/
structure GoogleRequest where
  rawBody : Bytes
  authorization : String
deriving DecidableEq

/-- A request to one of the webhooks. -/
inductive WebhookRequest where
  | slack (req : SlackRequest)
  | google (req : GoogleRequest)
deriving DecidableEq

/-- How `json.loads` fails. -/
inductive JsonFailure where
  | decodeError
  /-- An encoding error, or too deep a nesting. -/
  | other

/-- What the handlers read besides the request. -/
structure WebhookHost where
  /-- `SLACK_SIGNING_SECRET`, encoded. -/
  slackSigningSecret : Bytes
  /-- `hmac.new(secret, message, sha256).hexdigest()`. -/
  hmacHex : Bytes → Bytes → String
  /-- `int`, of a text; `none` where it raises. -/
  toInt : String → Option ℤ
  /-- `json.loads`, of bytes. -/
  loads : Bytes → Except JsonFailure PyValue
  /-- `str`, as an f-string applies it. -/
  str : PyValue → String
  str_str : ∀ s, str (py s) = s
  /-- `GOOGLE_PUBSUB_AUDIENCE`, stripped. -/
  googlePubsubAudience : String
  /-- `_verify_google_id_token` returns, for a token and an audience. -/
  verifyGoogleIdToken : String → String → Time → Bool
  /-- The claims of the security event token in `data`; `none` where decoding raises. -/
  decodeSet : PyValue → Option PyValue

/-- `SLACK_SIG_TIMESTAMP_TOLERANCE`. -/
def slackSigTimestampTolerance : ℤ := 300

/-- What a request calls for, once it is verified and parsed. -/
inductive WebhookReading where
  | answer (a : WebhookAnswer)
  /-- 400. -/
  | badRequest
  /-- The event has an id. -/
  | keyed (event : EventId) (route : Route)
  | unkeyed (event : EventId) (route : Route)
deriving DecidableEq

namespace WebhookHost

variable (H : WebhookHost)

/-! ### Verification -/

/-- The bytes that Slack signs. -/
def basestring (req : SlackRequest) : Bytes :=
  utf8 "v0:" ++ utf8 req.timestamp ++ utf8 ":" ++ req.rawBody

/-- `_verify_slack_signature`: the status of its exception, if it raises. -/
def verifySlackSignature (now : Time) (req : SlackRequest) : Option ℕ :=
  if H.slackSigningSecret = [] then some 503
  else if "v0=".toList.isPrefixOf req.signature.toList = false then some 401
  else
    match H.toInt req.timestamp with
    | none => some 401
    | some ts =>
      if |unixSeconds now - ts| > slackSigTimestampTolerance then some 401
      else if "v0=" ++ H.hmacHex H.slackSigningSecret (basestring req) = req.signature then none
      else some 401

/-- `authorization.split(None, 1)[1].strip()`; `none` is `IndexError`. -/
def bearerToken (authorization : String) : Option String :=
  match (authorization.toList.dropWhile fun c ↦ !isPySpace c).dropWhile isPySpace with
  | [] => none
  | rest => some (pyStrip (String.ofList rest))

/-- The verification of a Google push: the status of the refusal. -/
def verifyGooglePush (now : Time) (req : GoogleRequest) : Option ℕ :=
  if H.googlePubsubAudience = "" then some 503
  else if "bearer ".toList.isPrefixOf (req.authorization.toList.map Char.toLower) = false then
    some 401
  else
    match bearerToken req.authorization with
    | none => some 500
    | some idToken =>
      if H.verifyGoogleIdToken idToken H.googlePubsubAudience now then none else some 401

/-- The status with which an unverified request is refused. -/
def refusal (now : Time) : WebhookRequest → Option ℕ
  | .slack req => H.verifySlackSignature now req
  | .google req => H.verifyGooglePush now req

/-! ### What a request says -/

/-- A value that a text column is compared with; the driver refuses anything else. -/
def columnText : PyValue → Option String
  | .str s => s.toString?
  | _ => none

/-- The revocation of an account, for whatever the account is. -/
def revokeRoute (provider : String) (account : PyValue) : Route :=
  match columnText account with
  | some account => .revoke provider account
  | none => .answer .raised

/-- What `slack_events_webhook` does after the dedupe. -/
def slackRoute (eventType teamId : PyValue) : Route :=
  if slackRevokeEventTypes.any fun t ↦ eventType.isStr (PyStr.ofString t) then
    if teamId.truthy then revokeRoute "slack" teamId else .answer .noTeamId
  else .answer .handledFalse

/-- `slack_events_webhook`, between the parser and the dedupe. -/
def readSlackPayload (payload : PyValue) : Except PyError WebhookReading := do
  let type ← payload.get "type"
  if type.isStr (PyStr.ofString "url_verification") then pure (.answer .challenge)
  else if type.isStr (PyStr.ofString "event_callback") then
    let event ← payload.getD "event" (.dict [])
    let eventType ← (event.orElse (.dict [])).getD "type" (py "")
    let teamId ← payload.getD "team_id" (py "")
    let eventId ← payload.getD "event_id" (py "")
    let route := slackRoute eventType (teamId.orElse (py ""))
    pure (if eventId.truthy then .keyed (.slack (H.str eventId)) route
      else .unkeyed (.slack "") route)
  else pure (.answer .ignored)

/-- What `google_risc_webhook` does with the claims of the security event token. -/
def googleClaimsRoute (claims : PyValue) : Except PyError Route := do
  let events ← claims.getD "events" .null
  let sub ← claims.getD "sub" (py "")
  match events.orElse (.dict []) with
  | .dict fields =>
    let matched := fields.filter fun f ↦
      googleRevokeEventTypes.any fun t ↦ f.1 = PyStr.ofString t
    pure (if matched.isEmpty || !sub.truthy then .answer .handledFalse
      else revokeRoute "google" sub)
  | _ => .error .attributeError

/-- What `google_risc_webhook` does after the dedupe. -/
def googleRoute (message : PyValue) : Except PyError Route := do
  let rawData ← message.getD "data" (py "")
  if rawData.truthy then
    match H.decodeSet rawData with
    | none => pure (.answer .decodeError)
    | some claims => googleClaimsRoute claims
  else pure (.answer .noData)

/-- An exception after the dedupe. -/
def routeOf : Except PyError Route → Route
  | .ok route => route
  | .error _ => .answer .raised

/-- `google_risc_webhook`, between the parser and the dedupe. -/
def readGoogleEnvelope (envelope : PyValue) : Except PyError WebhookReading := do
  let message ← envelope.get "message"
  if message.truthy then
    let messageId ← message.getD "messageId" (py "")
    let route := routeOf (H.googleRoute message)
    pure (if messageId.truthy then .keyed (.google (H.str messageId)) route
      else .unkeyed (.google "") route)
  else pure .badRequest

/-- An exception before the dedupe. -/
def readingOf : Except PyError WebhookReading → WebhookReading
  | .ok reading => reading
  | .error _ => .answer .raised

/-- What a verified request calls for. -/
def read : WebhookRequest → WebhookReading
  | .slack req =>
    match H.loads req.rawBody with
    | .ok payload => readingOf (H.readSlackPayload payload)
    | .error .decodeError => .badRequest
    | .error .other => .answer .raised
  | .google req =>
    match H.loads req.rawBody with
    | .ok envelope => readingOf (H.readGoogleEnvelope envelope)
    | .error _ => .badRequest

end WebhookHost

/-! ### One request -/

/-- Where the handling of a request stands. -/
inductive CallPc where
  | start
  | dedupe (event : EventId) (route : Route)
  | revoke (event : EventId) (provider account : String)
  /-- An error before the handler has got to the event. -/
  | refused (status : ℕ)
  | answered (a : WebhookAnswer)
  | crashed
deriving DecidableEq

namespace CallPc

/-- The program counter after the dedupe. -/
def ofRoute (event : EventId) : Route → CallPc
  | .answer a => answered a
  | .revoke provider account => revoke event provider account

/-- The program counter after the parser. -/
def ofReading : WebhookReading → CallPc
  | .answer a => answered a
  | .badRequest => refused 400
  | .keyed event route => dedupe event route
  | .unkeyed event route => ofRoute event route

end CallPc

/-- A request that is being handled. -/
structure WebhookCall where
  request : WebhookRequest
  env : DeliveryEnv
  pc : CallPc
  /-- When the request was verified; the handler does not keep it. -/
  verifiedAt : Option Time
  /-- The event, and when the handler found it new. -/
  won : Option (EventId × Time)
  /-- The rows that the handler has revoked. -/
  revoked : List String

/-- One atomic step of a handler. -/
def WebhookCall.step (H : WebhookHost) (w : WebhookWorld) (c : WebhookCall) :
    Option (WebhookWorld × WebhookCall) :=
  match c.pc with
  | .start =>
    match H.refusal w.now c.request with
    | some status => some (w, { c with pc := .refused status })
    | none => some (w, { c with pc := .ofReading (H.read c.request), verifiedAt := some w.now })
  | .dedupe event route =>
    if c.env.redisReady = false then some (w, { c with pc := .answered .redisNotInitialised })
    else
      match c.env.dedupe with
      | .raised applied =>
        some (if applied then (w.claim event).getD w else w, { c with pc := .answered .raised })
      | .answered =>
        match w.claim event with
        | some w' => some (w', { c with pc := .ofRoute event route, won := some (event, w.now) })
        | none => some (w, { c with pc := .answered .duplicate })
  | .revoke event provider account =>
    match w.transact c.env.transaction event provider account with
    | some w' =>
      let ids := w.tokens.liveIds provider account
      let a := if c.env.transaction = .answered then .revoked ids.length else .raised
      some (w', { c with pc := .answered a, revoked := ids })
    | none => some (w, { c with pc := .answered .raised })
  | .refused _ => none
  | .answered _ => none
  | .crashed => none

/-! ### The public routes -/

/-- The state of the routes. -/
abbrev CallState := ProcessPool WebhookWorld WebhookCall

/-- What can happen. -/
inductive CallAction where
  /-- Time passes. -/
  | tick (elapsed : ℕ)
  /-- Somebody sends a request, any request. -/
  | send (request : WebhookRequest) (env : DeliveryEnv)
  /-- Handler `i` makes a step. -/
  | step (i : ℕ)
  /-- The process of handler `i` dies. -/
  | crash (i : ℕ)
  /-- Another transaction commits. -/
  | write (tokens : TokenTable)

namespace WebhookCalls

/-- Requests interleaved at their await points. -/
def system (H : WebhookHost) : TransitionSystem CallState CallAction where
  step P
    | .tick elapsed => some (P.touch { P.store with now := P.store.now + elapsed })
    | .send request env => some (P.spawn P.store [⟨request, env, .start, none, none, []⟩])
    | .step i => P.advance (WebhookCall.step H) i
    | .crash i => (P.procs[i]?).map fun c ↦ P.kill i { c with pc := .crashed }
    | .write tokens => some (P.touch { P.store with tokens := tokens })

/-- No request has arrived yet. -/
def initial (now : Time) (tokens : TokenTable) : CallState := ⟨⟨now, tokens, .empty, []⟩, []⟩

end WebhookCalls

end Siyadah
