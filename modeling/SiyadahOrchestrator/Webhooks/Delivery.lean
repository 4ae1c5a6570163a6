import SiyadahOrchestrator.Foundations.ExpiringStore
import SiyadahOrchestrator.Foundations.ProcessPool
import SiyadahOrchestrator.Foundations.TransitionSystem
import SiyadahOrchestrator.Vault.Statements

/-!
# Revocation webhooks

`slack_events_webhook` and `google_risc_webhook`, from the point where the request has been
authenticated and parsed. Both deduplicate by an id of the provider (`SET … NX EX`, 24 hours) and
then revoke the account's live rows in one transaction, if the event says so.

What the provider says under an id is a function, `Feed`: retries of an event repeat it. A delivery
is a machine whose steps are the await points; `Webhooks.system` lets any number of deliveries
arrive and interleave with time, crashes, and every other transaction on the table.
-/

namespace Siyadah

/-! ### What the providers send -/

/-- `SLACK_EVENT_DEDUPE_TTL`. -/
def slackEventDedupeTtl : ℤ := 24 * 3600

/-- `GOOGLE_EVENT_DEDUPE_TTL`. -/
def googleEventDedupeTtl : ℤ := 24 * 3600

/-- The id of an event: Slack's `event_id`, or the Pub/Sub `messageId`. -/
inductive EventId where
  | slack (eventId : String)
  | google (messageId : String)
deriving DecidableEq, Repr

namespace EventId

/-- The provider's string. -/
def text : EventId → String
  | slack eventId => eventId
  | google messageId => messageId

/-- `dedupe_key`. -/
def dedupeKey : EventId → String
  | slack eventId => "slack:event_id:" ++ eventId
  | google messageId => "google:risc:msg:" ++ messageId

/-- How long the key stands. -/
def dedupeTtl : EventId → ℤ
  | slack _ => slackEventDedupeTtl
  | google _ => googleEventDedupeTtl

theorem dedupeKey_injective : Function.Injective dedupeKey := by
  have hdistinct : ∀ a b : String, "slack:event_id:" ++ a ≠ "google:risc:msg:" ++ b := by
    intro a b h
    have hslack : "slack:event_id:".toList.head? = some 's' := by decide
    have hgoogle : "google:risc:msg:".toList.head? = some 'g' := by decide
    have hhead : ("slack:event_id:" ++ a).toList.head? =
        ("google:risc:msg:" ++ b).toList.head? := by rw [h]
    rw [String.toList_append, String.toList_append, List.head?_append, List.head?_append, hslack,
      hgoogle] at hhead
    exact absurd (Option.some.inj hhead) (by decide)
  intro e e' h
  cases e with
  | slack a =>
    cases e' with
    | slack b => exact congrArg slack (String.append_right_inj _ |>.1 h)
    | google b => exact absurd h (hdistinct a b)
  | google a =>
    cases e' with
    | slack b => exact absurd h.symm (hdistinct b a)
    | google b => exact congrArg google (String.append_right_inj _ |>.1 h)

end EventId

/-- The fields of a Slack envelope that the handler reads; `""` where one is missing. -/
structure SlackPayload where
  type : String
  eventType : String
  teamId : String
deriving DecidableEq, Repr

/-- The `data` of a Pub/Sub message. -/
inductive GoogleData where
  | missing
  | undecodable
  /-- A security event token: the keys of `events`, and `sub`. -/
  | set (events : List String) (sub : String)
deriving DecidableEq, Repr

/-- What the providers say under each id. -/
structure Feed where
  slack : String → SlackPayload
  google : String → GoogleData

/-- What a handler answers. -/
inductive WebhookAnswer where
  | challenge
  | ignored
  | duplicate
  | noTeamId
  | revoked (count : ℕ)
  | handledFalse
  | noData
  | decodeError
  /-- 503, before Redis is initialised. -/
  | redisNotInitialised
  /-- 500, an exception that nobody catches. -/
  | raised
deriving DecidableEq, Repr

/-- What is to be done once the event is known to be new. -/
inductive Route where
  | answer (answer : WebhookAnswer)
  | revoke (provider account : String)
deriving DecidableEq, Repr

/-- The Slack events that end a grant. -/
def slackRevokeEventTypes : List String := ["app_uninstalled", "tokens_revoked"]

/-- `revoke_event_types` of `google_risc_webhook`. -/
def googleRevokeEventTypes : List String :=
  ["https://schemas.openid.net/secevent/risc/event-type/tokens-revoked",
    "https://schemas.openid.net/secevent/risc/event-type/sessions-revoked",
    "https://schemas.openid.net/secevent/risc/event-type/account-disabled",
    "https://schemas.openid.net/secevent/risc/event-type/account-purged"]

namespace Feed

variable (feed : Feed)

/-- The answers that Slack's handler gives before it looks at the event id. -/
def early : EventId → Option WebhookAnswer
  | .slack eventId =>
    if (feed.slack eventId).type = "url_verification" then some .challenge
    else if (feed.slack eventId).type ≠ "event_callback" then some .ignored
    else none
  | .google _ => none

/-- What the handlers do after the dedupe. -/
def route : EventId → Route
  | .slack eventId =>
    if (feed.slack eventId).eventType ∈ slackRevokeEventTypes then
      if (feed.slack eventId).teamId = "" then .answer .noTeamId
      else .revoke "slack" (feed.slack eventId).teamId
    else .answer .handledFalse
  | .google messageId =>
    match feed.google messageId with
    | .missing => .answer .noData
    | .undecodable => .answer .decodeError
    | .set events sub =>
      if (events.filter (· ∈ googleRevokeEventTypes)) = [] ∨ sub = "" then .answer .handledFalse
      else .revoke "google" sub

/-- The account whose revocation the event calls for. -/
def calls (e : EventId) : Option (String × String) :=
  match feed.early e, feed.route e with
  | none, .revoke provider account => some (provider, account)
  | _, _ => none

end Feed

/-! ### One delivery -/

/-- The outcomes of the awaited calls of one delivery. -/
structure DeliveryEnv where
  redisReady : Bool
  dedupe : CommandOutcome
  /-- The transaction of the revocation; the constraint may refuse it all the same. -/
  transaction : CommandOutcome
deriving DecidableEq, Repr

/-- Everything the deliveries share. -/
structure WebhookWorld where
  now : Time
  tokens : TokenTable
  redis : ExpiringStore String String Time
  /-- The revocations that have committed: the event and the account; the stores do not keep it. -/
  committed : List (EventId × String × String)

namespace WebhookWorld

variable (w : WebhookWorld)

/-- `SET dedupe_key "1" NX EX 86400`; `none` when the key is there. -/
def claim (e : EventId) : Option WebhookWorld :=
  (w.redis.setNx w.now e.dedupeKey "1" (w.now + seconds e.dedupeTtl)).map fun redis ↦
    { w with redis := redis }

/-- The transaction of `_revoke_slack_team` and of `_revoke_google_user`; `none` is
`IntegrityError`. -/
def revoke (e : EventId) (provider account : String) : Option WebhookWorld :=
  (w.tokens.revokeAccount provider account).map fun tokens ↦
    { w with tokens := tokens, committed := (e, provider, account) :: w.committed }

/-- The revocation as its transaction turns out; `none` when nothing is written. -/
def transact (outcome : CommandOutcome) (e : EventId) (provider account : String) :
    Option WebhookWorld :=
  match outcome with
  | .answered | .raised true => w.revoke e provider account
  | .raised false => none

end WebhookWorld

/-- Where a delivery stands. -/
inductive DeliveryPc where
  | start
  | dedupe
  | revoke (provider account : String)
  | answered (answer : WebhookAnswer)
  | crashed
deriving DecidableEq, Repr

namespace DeliveryPc

/-- The event is being processed. -/
def processing : DeliveryPc → Bool
  | revoke _ _ => true
  | _ => false

/-- The program counter after the dedupe. -/
def ofRoute : Route → DeliveryPc
  | .answer a => answered a
  | .revoke provider account => revoke provider account

end DeliveryPc

/-- A request that is being handled. -/
structure Delivery where
  event : EventId
  env : DeliveryEnv
  pc : DeliveryPc
  /-- When the delivery found its event new; the handler does not keep it. -/
  wonAt : Option Time
  /-- The rows that the delivery has revoked. -/
  revoked : List String

namespace Delivery

/-- One atomic step. -/
def step (feed : Feed) (w : WebhookWorld) (d : Delivery) : Option (WebhookWorld × Delivery) :=
  match d.pc with
  | .start =>
    match feed.early d.event with
    | some a => some (w, { d with pc := .answered a })
    | none =>
      if d.event.text = "" then some (w, { d with pc := .ofRoute (feed.route d.event) })
      else some (w, { d with pc := .dedupe })
  | .dedupe =>
    if d.env.redisReady = false then some (w, { d with pc := .answered .redisNotInitialised })
    else
      match d.env.dedupe with
      | .raised applied =>
        some (if applied then (w.claim d.event).getD w else w, { d with pc := .answered .raised })
      | .answered =>
        match w.claim d.event with
        | some w' => some (w', { d with pc := .ofRoute (feed.route d.event), wonAt := some w.now })
        | none => some (w, { d with pc := .answered .duplicate })
  | .revoke provider account =>
    match w.transact d.env.transaction d.event provider account with
    | some w' =>
      let ids := w.tokens.liveIds provider account
      let a := if d.env.transaction = .answered then .revoked ids.length else .raised
      some (w', { d with pc := .answered a, revoked := ids })
    | none => some (w, { d with pc := .answered .raised })
  | .answered _ => none
  | .crashed => none

end Delivery

/-! ### The subsystem -/

/-- The state of the subsystem. -/
abbrev WebhookState := ProcessPool WebhookWorld Delivery

/-- What can happen. -/
inductive WebhookAction where
  /-- Time passes. -/
  | tick (elapsed : ℕ)
  /-- A provider delivers an event, for the first time or again. -/
  | deliver (event : EventId) (env : DeliveryEnv)
  /-- Delivery `i` makes a step. -/
  | step (i : ℕ)
  /-- The process of delivery `i` dies. -/
  | crash (i : ℕ)
  /-- Another transaction commits. -/
  | write (tokens : TokenTable)

namespace Webhooks

/-- Deliveries interleaved at their await points. -/
def system (feed : Feed) : TransitionSystem WebhookState WebhookAction where
  step P
    | .tick elapsed => some (P.touch { P.store with now := P.store.now + elapsed })
    | .deliver event env => some (P.spawn P.store [⟨event, env, .start, none, []⟩])
    | .step i => P.advance (Delivery.step feed) i
    | .crash i => (P.procs[i]?).map fun d ↦ P.kill i { d with pc := .crashed }
    | .write tokens => some (P.touch { P.store with tokens := tokens })

/-- No delivery has arrived yet. -/
def initial (now : Time) (tokens : TokenTable) : WebhookState := ⟨⟨now, tokens, .empty, []⟩, []⟩

/-- One live row of the Slack team `T1`. -/
def demoTokens : TokenTable :=
  ((EncryptedToken.ofAnswer framedProvider (constantRandomness 1) "r1" "t1" "slack" firstAnswer
    0).toOption.bind KeyedTable.empty.insert).getD .empty

end Webhooks

end Siyadah
