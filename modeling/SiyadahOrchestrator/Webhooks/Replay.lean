import SiyadahOrchestrator.Webhooks.Requests

/-!
# What an outsider can do with a webhook

The routes are public, so a run contains the requests of the providers and those of anybody else.

* Whatever is revoked has been called for by a request that was verified when it arrived
  (`authentic_of_committed`): its signature is the HMAC of its own bytes, under a time stamp within
  five minutes of the clock; or its token was accepted.
* A captured Slack request can be sent again as it is. For five minutes its time stamp protects
  nobody; the key of its event does, and stands for a day. The two windows fit together: however
  often the request is sent, at most one of its deliveries revokes (`acted_once`). That takes one
  thing from the scheduler, `Prompt`: a handler does not sleep for most of a day between the
  verification and the dedupe.
-/

namespace Siyadah

variable {H : WebhookHost} {w w' : WebhookWorld} {c c' d : WebhookCall}

/-! ### What a request proves, and calls for -/

namespace WebhookHost

variable (H)

/-- A request that proves where it comes from, at a time. -/
def Authentic (now : Time) : WebhookRequest → Prop
  | .slack req => H.slackSigningSecret ≠ [] ∧
    req.signature = "v0=" ++ H.hmacHex H.slackSigningSecret (basestring req) ∧
    ∃ ts, H.toInt req.timestamp = some ts ∧ |unixSeconds now - ts| ≤ slackSigTimestampTolerance
  | .google req => H.googlePubsubAudience ≠ "" ∧ ∃ idToken,
    bearerToken req.authorization = some idToken ∧
      H.verifyGoogleIdToken idToken H.googlePubsubAudience now = true

/-- The revocation that a request calls for. -/
def calls (request : WebhookRequest) : Option (EventId × String × String) :=
  match H.read request with
  | .keyed event (.revoke provider account) => some (event, provider, account)
  | .unkeyed event (.revoke provider account) => some (event, provider, account)
  | _ => none

variable {H}

/-- A request that is not refused is authentic. -/
theorem authentic_of_refusal {now : Time} {request : WebhookRequest}
    (h : H.refusal now request = none) : H.Authentic now request := by
  rcases request with req | req
  · have h : H.verifySlackSignature now req = none := h
    unfold verifySlackSignature at h
    split at h
    · exact nomatch h
    rename_i hsecret
    split at h
    · exact nomatch h
    split at h
    · exact nomatch h
    · rename_i ts hts
      split_ifs at h with hstale hsignature
      exact ⟨hsecret, hsignature.symm, ts, hts, not_lt.1 hstale⟩
  · have h : H.verifyGooglePush now req = none := h
    unfold verifyGooglePush at h
    split at h
    · exact nomatch h
    rename_i haudience
    split at h
    · exact nomatch h
    split at h
    · exact nomatch h
    · rename_i idToken htoken
      split_ifs at h with hverified
      exact ⟨haudience, idToken, htoken, hverified⟩

end WebhookHost

/-! ### What one step of a handler can do -/

namespace CallPc

/-- The handler has revoked, or is about to. -/
def acting : CallPc → Bool
  | revoke _ _ _ => true
  | answered (.revoked _) => true
  | _ => false

/-- The request has been verified. -/
def entered : CallPc → Bool
  | dedupe _ _ => true
  | revoke _ _ _ => true
  | answered _ => true
  | _ => false

/-- The handler makes no more steps. -/
def done : CallPc → Bool
  | refused _ => true
  | answered _ => true
  | crashed => true
  | _ => false

end CallPc

/-- What a step of a handler does. -/
inductive WebhookCall.Effect (H : WebhookHost) (w : WebhookWorld) (c : WebhookCall) :
    WebhookWorld → WebhookCall → Prop
  /-- The request does not verify. -/
  | refused (status : ℕ) (hpc : c.pc = .start) (h : H.refusal w.now c.request = some status) :
      Effect H w c w { c with pc := .refused status }
  /-- The request verifies, and is read. -/
  | verified (hpc : c.pc = .start) (h : H.refusal w.now c.request = none) :
      Effect H w c w { c with pc := .ofReading (H.read c.request), verifiedAt := some w.now }
  /-- The handler answers, and has done nothing. -/
  | idle (a : WebhookAnswer) (hpc : c.pc.entered = true) (h : (CallPc.answered a).acting = false) :
      Effect H w c w { c with pc := .answered a }
  /-- Redis does not answer, and has set the key. -/
  | orphaned (event : EventId) (route : Route) (w' : WebhookWorld)
      (hpc : c.pc = .dedupe event route) (h : w.claim event = some w') :
      Effect H w c w' { c with pc := .answered .raised }
  /-- The event is new. -/
  | won (event : EventId) (route : Route) (w' : WebhookWorld) (hpc : c.pc = .dedupe event route)
      (h : w.claim event = some w') :
      Effect H w c w' { c with pc := .ofRoute event route, won := some (event, w.now) }
  /-- The rows are revoked. -/
  | revoked (event : EventId) (provider account : String) (w' : WebhookWorld) (a : WebhookAnswer)
      (ids : List String) (hpc : c.pc = .revoke event provider account)
      (h : w.revoke event provider account = some w') :
      Effect H w c w' { c with pc := .answered a, revoked := ids }

/-- **There is no other kind of step.** -/
theorem WebhookCall.effect_of_step (h : c.step H w = some (w', c')) : c.Effect H w w' c' := by
  rw [step] at h
  split at h
  · rename_i hpc
    split at h
    · rename_i status href
      obtain ⟨rfl, rfl⟩ := Prod.mk.inj (Option.some.inj h)
      exact .refused status hpc href
    · rename_i href
      obtain ⟨rfl, rfl⟩ := Prod.mk.inj (Option.some.inj h)
      exact .verified hpc href
  · rename_i event route hpc
    have hne : c.pc.entered = true := by rw [hpc]; rfl
    split at h
    · obtain ⟨rfl, rfl⟩ := Prod.mk.inj (Option.some.inj h)
      exact .idle _ hne rfl
    · rcases hclaim : w.claim event with - | w₁ <;> rw [hclaim] at h
      · split at h
        · -- The command raises, and the key was there already.
          rename_i applied hraised
          obtain ⟨rfl, rfl⟩ := Prod.mk.inj (Option.some.inj h)
          have hw : (if applied then (none : Option WebhookWorld).getD w else w) = w := by
            split <;> rfl
          rw [hw]
          exact .idle _ hne rfl
        · obtain ⟨rfl, rfl⟩ := Prod.mk.inj (Option.some.inj h)
          exact .idle _ hne rfl
      · split at h
        · rename_i applied hraised
          obtain ⟨rfl, rfl⟩ := Prod.mk.inj (Option.some.inj h)
          rcases applied with - | -
          · exact .idle _ hne rfl
          · exact .orphaned event route _ hpc hclaim
        · obtain ⟨rfl, rfl⟩ := Prod.mk.inj (Option.some.inj h)
          exact .won event route _ hpc hclaim
  · rename_i event provider account hpc
    have hne : c.pc.entered = true := by rw [hpc]; rfl
    split at h
    · rename_i w₁ hsome
      obtain ⟨rfl, rfl⟩ := Prod.mk.inj (Option.some.inj h)
      refine .revoked event provider account _ _ _ hpc ?_
      unfold WebhookWorld.transact at hsome
      split at hsome
      · exact hsome
      · exact hsome
      · exact nomatch hsome
    · obtain ⟨rfl, rfl⟩ := Prod.mk.inj (Option.some.inj h)
      exact .idle _ hne rfl
  all_goals exact nomatch h

namespace WebhookCall

/-- What a step does to the keys: nothing, or it sets one. -/
theorem Effect.redis (heff : c.Effect H w w' c') :
    w'.now = w.now ∧ (w'.redis = w.redis ∨
      ∃ k expiry, w.redis.setNx w.now k "1" expiry = some w'.redis) := by
  cases heff with
  | refused | verified | idle => exact ⟨rfl, .inl rfl⟩
  | orphaned event route w' hpc h | won event route w' hpc h =>
    obtain ⟨redis, hset, rfl⟩ := Option.map_eq_some_iff.1 h
    exact ⟨rfl, .inr ⟨_, _, hset⟩⟩
  | revoked event provider account w' a ids hpc h =>
    obtain ⟨tokens, -, rfl⟩ := Option.map_eq_some_iff.1 h
    exact ⟨rfl, .inl rfl⟩

theorem Effect.request (heff : c.Effect H w w' c') : c'.request = c.request := by
  cases heff <;> rfl

/-! ### What a handler may rely on -/

/-- When the key that the handler has set runs out. -/
def keyExpiry (event : EventId) (wonAt : Time) : Time := wonAt + seconds event.dedupeTtl

/-- What a handler may rely on. -/
structure Relies (H : WebhookHost) (w : WebhookWorld) (c : WebhookCall) : Prop where
  /-- The request was verified. -/
  verified : ∀ v ∈ c.verifiedAt, v ≤ w.now ∧ H.refusal v c.request = none
  /-- Nobody goes on without. -/
  entered : c.pc.entered = true → ∃ v, c.verifiedAt = some v
  fresh : c.pc = .start → c.verifiedAt = none ∧ c.won = none ∧ c.revoked = []
  dedupe : ∀ event route, c.pc = .dedupe event route → H.read c.request = .keyed event route
  revoke : ∀ event provider account, c.pc = .revoke event provider account →
    H.calls c.request = some (event, provider, account)
  /-- The key of the event stands. -/
  won : ∀ event T, c.won = some (event, T) → T ≤ w.now ∧ (∀ v ∈ c.verifiedAt, v ≤ T) ∧
    w.redis.Guards w.now event.dedupeKey "1" (keyExpiry event T) ∧
    ∃ route, H.read c.request = .keyed event route
  /-- Who has not found a keyed event new has done nothing. -/
  acted : c.pc.acting = true ∨ c.revoked ≠ [] → ∀ event route,
    H.read c.request = .keyed event route → ∃ T, c.won = some (event, T)

/-- Two handlers that have both found an event new did so a lifetime apart. -/
def Apart (c d : WebhookCall) : Prop := ∀ event T T', c.won = some (event, T) →
  d.won = some (event, T') → keyExpiry event T ≤ T' ∨ keyExpiry event T' ≤ T

theorem Apart.symm (h : Apart c d) : Apart d c := fun event T T' hT hT' ↦
  (h event T' T hT' hT).symm

theorem apart_of_none (h : c.won = none) : Apart c d := fun _ _ _ hT ↦
  absurd (h.symm.trans hT) (by simp)

/-- The reliance survives the passage of time and the `SET … NX` of anybody. -/
theorem Relies.of_redis (h : c.Relies H w) (hnow : w.now ≤ w'.now)
    (hredis : w'.redis = w.redis ∨
      ∃ k expiry, w.redis.setNx w.now k "1" expiry = some w'.redis) : c.Relies H w' := by
  refine { h with verified := fun v hv ↦ ?_, won := fun event T hT ↦ ?_ }
  · exact ⟨(h.verified v hv).1.trans hnow, (h.verified v hv).2⟩
  · obtain ⟨hle, hafter, hguards, hread⟩ := h.won event T hT
    refine ⟨hle.trans hnow, hafter, ?_, hread⟩
    rcases hredis with heq | ⟨k, expiry, hset⟩
    · rw [heq]
      exact hguards.mono hnow
    · exact (hguards.setNx hset).mono hnow

/-- A handler that stops relies on no less. -/
theorem Relies.stop (h : c.Relies H w) {pc : CallPc} (hdone : pc.done = true)
    (hentered : pc.entered = true → c.pc.entered = true) (hacting : pc.acting = false) :
    ({ c with pc := pc } : WebhookCall).Relies H w := by
  refine ⟨h.verified, fun hpc ↦ h.entered (hentered hpc), ?_, ?_, ?_, h.won, ?_⟩
  · rintro rfl
    exact absurd hdone (by decide)
  · rintro event route rfl
    exact nomatch hdone
  · rintro event provider account rfl
    exact nomatch hdone
  · rintro (hact | hrevoked)
    · exact absurd (hacting.symm.trans hact) (by decide)
    · exact h.acted (.inr hrevoked)

/-- Where a request takes its handler. -/
theorem ofReading_eq_dedupe {reading : WebhookReading} {event : EventId} {route : Route}
    (h : CallPc.ofReading reading = .dedupe event route) : reading = .keyed event route := by
  rcases reading with a | - | ⟨e, r⟩ | ⟨e, r⟩
  · exact nomatch h
  · exact nomatch h
  · obtain ⟨rfl, rfl⟩ := CallPc.dedupe.inj h
    rfl
  · rcases r with a | ⟨p, a⟩
    · exact nomatch h
    · exact nomatch h

theorem ofRoute_eq_revoke {event event' : EventId} {route : Route} {provider account : String}
    (h : CallPc.ofRoute event route = .revoke event' provider account) :
    event = event' ∧ route = .revoke provider account := by
  rcases route with a | ⟨p, a⟩
  · exact nomatch h
  · obtain ⟨rfl, rfl, rfl⟩ := CallPc.revoke.inj h
    exact ⟨rfl, rfl⟩

theorem ofReading_eq_revoke {reading : WebhookReading} {event : EventId}
    {provider account : String} (h : CallPc.ofReading reading = .revoke event provider account) :
    reading = .unkeyed event (.revoke provider account) := by
  rcases reading with a | - | ⟨e, r⟩ | ⟨e, r⟩
  · exact nomatch h
  · exact nomatch h
  · exact nomatch h
  · obtain ⟨rfl, rfl⟩ := ofRoute_eq_revoke h
    rfl

theorem ofRoute_ne_start {event : EventId} {route : Route} :
    CallPc.ofRoute event route ≠ .start ∧ ∀ e r, CallPc.ofRoute event route ≠ .dedupe e r := by
  rcases route with a | ⟨p, a⟩
  · exact ⟨nofun, nofun⟩
  · exact ⟨nofun, nofun⟩

theorem ofReading_ne_start {reading : WebhookReading} : CallPc.ofReading reading ≠ .start := by
  rcases reading with a | - | ⟨e, r⟩ | ⟨e, r⟩
  · exact nofun
  · exact nofun
  · exact nofun
  · exact ofRoute_ne_start.1

/-- The handler that steps, after its step. -/
theorem Effect.relies (heff : c.Effect H w w' c') (h : c.Relies H w) : c'.Relies H w' := by
  have hredis := heff.redis
  have hkeep : c.Relies H w' := h.of_redis hredis.1.ge hredis.2
  cases heff with
  | refused status hpc href => exact hkeep.stop rfl nofun rfl
  | idle a hpc hacting => exact hkeep.stop rfl (fun _ ↦ hpc) hacting
  | orphaned event route w' hpc hclaim =>
    exact hkeep.stop rfl (fun _ ↦ by rw [hpc]; rfl) rfl
  | verified hpc href =>
    obtain ⟨-, hwon, hrevoked⟩ := h.fresh hpc
    refine ⟨fun v hv ↦ ?_, fun _ ↦ ⟨_, rfl⟩, fun hstart ↦ absurd hstart ofReading_ne_start,
      fun event route ↦ ofReading_eq_dedupe, fun event provider account hrevoke ↦ ?_,
      fun event T hT ↦ ?_, fun hacted event route hread ↦ ?_⟩
    · obtain rfl := Option.some.inj hv
      exact ⟨le_rfl, href⟩
    · show H.calls c.request = _
      rw [WebhookHost.calls, ofReading_eq_revoke hrevoke]
    · exact absurd (hwon.symm.trans hT) (by simp)
    · have hpc' : CallPc.ofReading (H.read c.request) = .dedupe event route := by
        rw [show H.read c.request = _ from hread]
        rfl
      rcases hacted with hact | hne
      · rw [show CallPc.ofReading _ = _ from hpc'] at hact
        exact nomatch hact
      · exact absurd hrevoked hne
  | won event route w' hpc hclaim =>
    have hread := h.dedupe event route hpc
    obtain ⟨redis, hset, rfl⟩ := Option.map_eq_some_iff.1 hclaim
    refine ⟨hkeep.verified, fun _ ↦ hkeep.entered (by rw [hpc]; rfl),
      fun hstart ↦ absurd hstart ofRoute_ne_start.1,
      fun e r hdedupe ↦ absurd hdedupe (ofRoute_ne_start.2 e r),
      fun e provider account hrevoke ↦ ?_, fun e T hT ↦ ?_, fun _ e r hread' ↦ ?_⟩
    · obtain ⟨rfl, rfl⟩ := ofRoute_eq_revoke hrevoke
      show H.calls c.request = _
      rw [WebhookHost.calls, hread]
    · obtain ⟨rfl, rfl⟩ := Prod.mk.inj (Option.some.inj hT)
      exact ⟨le_rfl, fun v hv ↦ (h.verified v hv).1, ExpiringStore.Guards.of_setNx hset, route,
        hread⟩
    · obtain ⟨rfl, rfl⟩ := WebhookReading.keyed.inj (hread.symm.trans hread')
      exact ⟨_, rfl⟩
  | revoked event provider account w' a ids hpc hrevoke =>
    refine ⟨hkeep.verified, fun _ ↦ hkeep.entered (by rw [hpc]; rfl), nofun, nofun, nofun,
      hkeep.won, fun _ e r hread ↦ h.acted (.inl (by rw [hpc]; rfl)) e r hread⟩

/-- A handler that finds an event new does so after the lifetime of every earlier one. -/
theorem Effect.apart (heff : c.Effect H w w' c') (hd : d.Relies H w) (h : Apart c d) :
    Apart c' d := by
  cases heff with
  | refused | verified | idle | orphaned | revoked => exact h
  | won event route w' hpc hclaim =>
    intro e T T' hT hT'
    obtain ⟨rfl, rfl⟩ := Prod.mk.inj (Option.some.inj hT)
    right
    obtain ⟨redis, hset, -⟩ := Option.map_eq_some_iff.1 hclaim
    obtain ⟨-, -, hguards, -⟩ := hd.won event T' hT'
    by_contra hlt
    rw [hguards.setNx_eq_none (not_le.1 hlt)] at hset
    exact absurd hset (by simp)

end WebhookCall

/-! ### The invariant -/

namespace WebhookCalls

open WebhookCall

variable {P Q : CallState} {a : CallAction}

/-- The invariant of the routes. -/
def Invariant (H : WebhookHost) (P : CallState) : Prop :=
  P.Holds (fun _ ↦ True) (WebhookCall.Relies H) Apart

/-- **The step lemma.** -/
theorem invariant_step (h : Invariant H P) (hstep : (system H).step P a = some Q) :
    Invariant H Q := by
  cases a with
  | tick elapsed =>
    obtain rfl := Option.some.inj hstep
    have hle : P.store.now ≤ P.store.now + elapsed := Int.le.intro elapsed rfl
    exact h.touch trivial fun _ _ _ hrelies ↦ hrelies.of_redis hle (.inl rfl)
  | send request env =>
    obtain rfl := Option.some.inj hstep
    refine h.spawn_one trivial (fun _ _ _ hrelies ↦ hrelies) ?_ fun i c _ ↦
      ⟨Apart.symm (apart_of_none rfl), apart_of_none rfl⟩
    exact ⟨nofun, nofun, fun _ ↦ ⟨rfl, rfl, rfl⟩, nofun, nofun, nofun, fun hacted ↦
      absurd hacted (by simp [CallPc.acting])⟩
  | step i =>
    refine h.advance hstep (fun c w' c' hc hnext ↦ ?_)
      (fun c w' c' j r hc hnext hne hr hrelies _ _ ↦ ?_)
      fun c w' c' j r hc hnext hne hr hrelies hapart _ ↦ ?_
    · exact ⟨trivial, (effect_of_step hnext).relies (h.each i c hc)⟩
    · have hredis := (effect_of_step hnext).redis
      exact hrelies.of_redis hredis.1.ge hredis.2
    · have hkeep := (effect_of_step hnext).apart hrelies hapart
      exact ⟨hkeep, hkeep.symm⟩
  | crash i =>
    obtain ⟨c, hc, rfl⟩ := Option.map_eq_some_iff.1 hstep
    refine h.kill_of_ne ((h.each i c hc).stop rfl nofun rfl) fun j r hne hr ↦ ?_
    exact ⟨h.pair i j c r hne.symm hc hr, h.pair j i r c hne hr hc⟩
  | write tokens =>
    obtain rfl := Option.some.inj hstep
    exact h.touch trivial fun _ _ _ hrelies ↦ hrelies.of_redis le_rfl (.inl rfl)

theorem invariant_initial (now : Time) (tokens : TokenTable) :
    Invariant H (initial now tokens) :=
  ⟨trivial, fun _ _ h ↦ absurd h (by simp [initial]),
    fun _ _ _ _ _ h ↦ absurd h (by simp [initial])⟩

theorem invariant_of_run {now : Time} {tokens : TokenTable} {as : List CallAction}
    (hrun : (system H).run (initial now tokens) as = some P) : Invariant H P :=
  TransitionSystem.invariant_of_run' (fun _ _ _ ↦ invariant_step) (invariant_initial now tokens)
    hrun

/-! ### Who has revoked -/

/-- Every revocation on record has been called for by a request that was verified. -/
def Accounted (H : WebhookHost) (P : CallState) : Prop :=
  ∀ r ∈ P.store.committed, ∃ (i : ℕ) (c : WebhookCall) (v : Time), P.procs[i]? = some c ∧
    c.verifiedAt = some v ∧ H.calls c.request = some r

/-- A handler that is replaced by one that was verified for the same request. -/
theorem Accounted.set {i : ℕ} {w' : WebhookWorld} (h : Accounted H P) (hc : P.procs[i]? = some c)
    (hsub : ∀ r ∈ w'.committed, r ∈ P.store.committed ∨
      ∃ v, c'.verifiedAt = some v ∧ H.calls c'.request = some r)
    (hrequest : c'.request = c.request)
    (hverified : ∀ v, c.verifiedAt = some v → c'.verifiedAt = some v) :
    Accounted H ⟨w', P.procs.set i c'⟩ := by
  have hlt : i < P.procs.length := (List.getElem?_eq_some_iff.1 hc).1
  intro r hr
  rcases hsub r hr with hold | ⟨v, hv, hcalls⟩
  · obtain ⟨j, d, v, hd, hv, hcalls⟩ := h r hold
    rcases eq_or_ne j i with rfl | hne
    · obtain rfl := Option.some.inj (hd.symm.trans hc)
      exact ⟨j, c', v, List.getElem?_set_self hlt, hverified v hv, hrequest ▸ hcalls⟩
    · exact ⟨j, d, v, (List.getElem?_set_ne hne.symm).trans hd, hv, hcalls⟩
  · exact ⟨i, c', v, List.getElem?_set_self hlt, hv, hcalls⟩

theorem accounted_of_effect {i : ℕ} (heff : c.Effect H P.store w' c') (hinv : Invariant H P)
    (hc : P.procs[i]? = some c) (h : Accounted H P) : Accounted H ⟨w', P.procs.set i c'⟩ := by
  have hrelies := hinv.each i c hc
  cases heff with
  | refused status hpc href => exact h.set hc (fun r hr ↦ .inl hr) rfl fun _ hv ↦ hv
  | verified hpc href =>
    refine h.set hc (fun r hr ↦ .inl hr) rfl fun v hv ↦ ?_
    exact absurd ((hrelies.fresh hpc).1.symm.trans hv) (by simp)
  | idle a hpc hacting => exact h.set hc (fun r hr ↦ .inl hr) rfl fun _ hv ↦ hv
  | orphaned event route w' hpc hclaim | won event route w' hpc hclaim =>
    obtain ⟨redis, -, rfl⟩ := Option.map_eq_some_iff.1 hclaim
    exact h.set hc (fun r hr ↦ .inl hr) rfl fun _ hv ↦ hv
  | revoked event provider account w' a ids hpc hrevoke =>
    obtain ⟨tokens, -, rfl⟩ := Option.map_eq_some_iff.1 hrevoke
    obtain ⟨v, hv⟩ := hrelies.entered (by rw [hpc]; rfl)
    refine h.set hc (fun r hr ↦ ?_) rfl fun _ hv ↦ hv
    rcases List.mem_cons.1 hr with rfl | hr
    · exact .inr ⟨v, hv, hrelies.revoke _ _ _ hpc⟩
    · exact .inl hr

/-- A Slack request. -/
def uninstallRequest : SlackRequest where
  rawBody := utf8 ("\x7b\"type\":\"event_callback\"," ++
    "\"event\":\x7b\"type\":\"app_uninstalled\"\x7d," ++
    "\"team_id\":\"T1\",\"event_id\":\"E1\"\x7d")
  signature :=
    "v0=7d2f8a95723e20b05fffa6d845c13d7f0fabfa63428243a07fe32a6a4d9b5b85"
  timestamp := "1700000000"

/-- The request, parsed. -/
def uninstallPayload : PyValue :=
  .dict [(.ofString "type", py "event_callback"),
    (.ofString "event", .dict [(.ofString "type", py "app_uninstalled")]),
    (.ofString "team_id", py "T1"), (.ofString "event_id", py "E1")]

/-- A host that knows this request. -/
def sampleWebhookHost : WebhookHost where
  slackSigningSecret := utf8 "secret"
  hmacHex := fun _ _ ↦ "7d2f8a95723e20b05fffa6d845c13d7f0fabfa63428243a07fe32a6a4d9b5b85"
  toInt := fun _ ↦ some 1700000000
  loads := fun _ ↦ .ok uninstallPayload
  str := fun v ↦ ((WebhookHost.columnText v).getD "")
  str_str := fun s ↦ congrArg (·.getD "") (PyStr.toString?_ofString s)
  googlePubsubAudience := ""
  verifyGoogleIdToken := fun _ _ _ ↦ false
  decodeSet := fun _ ↦ none

/-- The request is sent, and handled; the team is authorized again; and a minute later the request
is sent again. -/
def uninstallTwice : List CallAction :=
  [.send (.slack uninstallRequest) ⟨true, .answered, .answered⟩, .step 0, .step 0, .step 0,
    .write Webhooks.demoTokens, .tick 60000000,
    .send (.slack uninstallRequest) ⟨true, .answered, .answered⟩, .step 1, .step 1]

theorem exists_run_uninstallTwice : ∃ P c d,
    (system sampleWebhookHost).run (initial 1700000000000000 Webhooks.demoTokens) uninstallTwice =
      some P ∧ P.procs[0]? = some c ∧ P.procs[1]? = some d ∧ c.request = .slack uninstallRequest ∧
      d.request = .slack uninstallRequest ∧ c.pc = .answered (.revoked 1) ∧ c.revoked = ["r1"] ∧
      (.slack "E1", "slack", "T1") ∈ P.store.committed ∧
      P.store.tokens.liveIds "slack" "T1" = ["r1"] :=
  ⟨_, _, _, rfl, rfl, rfl, rfl, rfl, rfl, rfl, List.mem_cons_self, rfl⟩

/-- No handler is held up for 23 hours between the verification and the dedupe. -/
def Prompt (P : CallState) : CallAction → Prop
  | .step i => ∀ c ∈ P.procs[i]?, ∀ v ∈ c.verifiedAt,
      match c.pc with
      | .dedupe _ _ => P.store.now ≤ v + seconds (23 * 3600)
      | _ => True
  | _ => True

instance (P : CallState) (a : CallAction) : Decidable (Prompt P a) := by
  cases a with
  | step i =>
    have (c : WebhookCall) (v : Time) : Decidable (match c.pc with
        | .dedupe _ _ => P.store.now ≤ v + seconds (23 * 3600)
        | _ => True) := by cases c.pc <;> infer_instance
    exact inferInstanceAs (Decidable (∀ c ∈ P.procs[i]?, ∀ v ∈ c.verifiedAt, _))
  | tick | send | crash | write => exact .isTrue trivial

/-- The events that were found new were found so soon. -/
def Soon (P : CallState) : Prop :=
  ∀ (i : ℕ) (c : WebhookCall), P.procs[i]? = some c → ∀ event T, c.won = some (event, T) →
    ∃ v, c.verifiedAt = some v ∧ T ≤ v + seconds (23 * 3600)

theorem soon_of_effect {i : ℕ} (heff : c.Effect H P.store w' c') (hinv : Invariant H P)
    (hc : P.procs[i]? = some c) (hprompt : Prompt P (.step i)) (h : Soon P) :
    Soon ⟨w', P.procs.set i c'⟩ := by
  have hrelies := hinv.each i c hc
  intro j d hd
  rcases ProcessPool.getElem?_set_cases hd with ⟨rfl, rfl⟩ | ⟨-, hd⟩
  · intro event T hT
    cases heff with
    | verified hpc href => exact absurd ((hrelies.fresh hpc).2.1.symm.trans hT) (by simp)
    | refused | idle | orphaned | revoked => exact h j c hc event T hT
    | won e route w' hpc hclaim =>
      obtain ⟨rfl, rfl⟩ := Prod.mk.inj (Option.some.inj hT)
      obtain ⟨v, hv⟩ := hrelies.entered (by rw [hpc]; rfl)
      have hle := hprompt c hc v hv
      rw [hpc] at hle
      exact ⟨v, hv, hle⟩
  · exact h j d hd

theorem soon_step (hinv : Invariant H P) (h : Soon P) (hprompt : Prompt P a)
    (hstep : (system H).step P a = some Q) : Soon Q := by
  cases a with
  | tick elapsed | write tokens =>
    obtain rfl := Option.some.inj hstep
    exact h
  | send request env =>
    obtain rfl := Option.some.inj hstep
    intro i c hc event T hT
    rcases ProcessPool.getElem?_append_cases hc with ⟨-, hc⟩ | ⟨-, hc⟩
    · exact h i c hc event T hT
    · obtain rfl := List.mem_singleton.1 (List.mem_of_getElem? hc)
      exact absurd hT (by simp)
  | step i =>
    obtain ⟨c, w', c', hc, hnext, rfl⟩ := ProcessPool.advance_eq_some.1 hstep
    exact soon_of_effect (effect_of_step hnext) hinv hc hprompt h
  | crash i =>
    obtain ⟨c, hc, rfl⟩ := Option.map_eq_some_iff.1 hstep
    intro j d hd event T hT
    rcases ProcessPool.getElem?_set_cases hd with ⟨rfl, rfl⟩ | ⟨-, hd⟩
    · exact h j c hc event T hT
    · exact h j d hd event T hT

/-- The handler has revoked, or is about to, or has answered so. -/
def Acted (c : WebhookCall) : Prop := c.pc.acting = true ∨ c.revoked ≠ []

/-- The verifications of one Slack request fall in one window. -/
theorem verifiedAt_lt {req : SlackRequest} {v v' : Time} (h : H.Authentic v (.slack req))
    (h' : H.Authentic v' (.slack req)) : v' < v + seconds 601 := by
  have hwindow (v v' ts : ℤ) (hlow : -300 ≤ v / 1000000 - ts) (hhigh : v' / 1000000 - ts ≤ 300) :
      v' < v + 601 * 1000000 := by omega
  obtain ⟨-, -, ts, hts, hv⟩ := h
  obtain ⟨-, -, ts', hts', hv'⟩ := h'
  obtain rfl := Option.some.inj (hts.symm.trans hts')
  exact hwindow v v' ts (abs_le.1 hv).1 (abs_le.1 hv').2

/-- A key outlasts the window of the request that has set it. -/
theorem keyExpiry_not_le {eventId : String} {v v' T T' : Time} (hv : v ≤ T)
    (hsoon : T' ≤ v' + seconds (23 * 3600)) (hwindow : v' < v + seconds 601) :
    ¬ keyExpiry (.slack eventId) T ≤ T' := by
  have hfit (v v' T T' : ℤ) (hv : v ≤ T) (hsoon : T' ≤ v' + 23 * 3600 * 1000000)
      (hwindow : v' < v + 601 * 1000000) : ¬ T + 24 * 3600 * 1000000 ≤ T' := by omega
  exact hfit v v' T T' hv hsoon hwindow

/-- **A captured request revokes at most once.** On every run whose handlers are prompt: however
often, whenever and by whomever a Slack request whose event has an id is sent, at most one of the
handlers of these very bytes ever revokes. -/
theorem acted_once {now : Time} {tokens : TokenTable} {as : List CallAction}
    (hrun : (system H).run (initial now tokens) as = some P)
    (hprompt : (system H).Meets Prompt (initial now tokens) as) {req : SlackRequest}
    {eventId : String} {route : Route} (hread : H.read (.slack req) = .keyed (.slack eventId) route)
    {i j : ℕ} {d : WebhookCall} (hc : P.procs[i]? = some c) (hd : P.procs[j]? = some d)
    (hcreq : c.request = .slack req) (hdreq : d.request = .slack req)
    (hcacted : Acted c) (hdacted : Acted d) : i = j := by
  have hinv := invariant_of_run hrun
  have h₀ : Soon (initial now tokens) := fun _ _ h ↦ absurd h (by simp [initial])
  have hsoon : Soon P := TransitionSystem.relative_invariant_of_run
    (fun _ _ _ h _ ↦ invariant_step h) (fun _ _ _ hinv h hprompt ↦ soon_step hinv h hprompt)
    (invariant_initial now tokens) h₀ hprompt hrun
  have hcrelies : c.Relies H P.store := hinv.each i c hc
  have hdrelies : d.Relies H P.store := hinv.each j d hd
  obtain ⟨T, hT⟩ := hcrelies.acted hcacted _ _ (hcreq ▸ hread)
  obtain ⟨T', hT'⟩ := hdrelies.acted hdacted _ _ (hdreq ▸ hread)
  obtain ⟨v, hv, hsoonc⟩ := hsoon i c hc _ T hT
  obtain ⟨v', hv', hsoond⟩ := hsoon j d hd _ T' hT'
  obtain ⟨-, hafter, -⟩ := hcrelies.won _ T hT
  obtain ⟨-, hafter', -⟩ := hdrelies.won _ T' hT'
  have hauth := WebhookHost.authentic_of_refusal (hcrelies.verified v hv).2
  have hauth' := WebhookHost.authentic_of_refusal (hdrelies.verified v' hv').2
  rw [hcreq] at hauth
  rw [hdreq] at hauth'
  by_contra hne
  -- The key of the earlier one stands until after the last moment of the later one.
  rcases hinv.pair i j c d hne hc hd _ T T' hT hT' with hexpired | hexpired
  · exact keyExpiry_not_le (hafter v hv) hsoond (verifiedAt_lt hauth hauth') hexpired
  · exact keyExpiry_not_le (hafter' v' hv') hsoonc (verifiedAt_lt hauth' hauth) hexpired

/-- The first delivery has revoked a row, and the second one has not acted: the new row is live. -/
theorem acted_once_sample : ∃ P c d,
    (system sampleWebhookHost).run (initial 1700000000000000 Webhooks.demoTokens) uninstallTwice =
      some P ∧ P.procs[0]? = some c ∧ P.procs[1]? = some d ∧ c.revoked = ["r1"] ∧ ¬ Acted d ∧
      P.store.tokens.liveIds "slack" "T1" = ["r1"] := by
  obtain ⟨P, c, d, hrun, hc, hd, hcreq, hdreq, hpc, hrevoked, -, hlive⟩ := exists_run_uninstallTwice
  have hacted : Acted c := .inl (by rw [hpc]; rfl)
  refine ⟨P, c, d, hrun, hc, hd, hrevoked, fun hdacted ↦ ?_, hlive⟩
  have hprompt : (system sampleWebhookHost).Meets Prompt
      (initial 1700000000000000 Webhooks.demoTokens) uninstallTwice := by decide +kernel
  exact absurd (acted_once hrun hprompt (show sampleWebhookHost.read (.slack uninstallRequest) =
      .keyed (.slack "E1") (.revoke "slack" "T1") from rfl) hc hd hcreq
    hdreq hacted hdacted) (by decide)

end WebhookCalls

end Siyadah
