import SiyadahOrchestrator.Webhooks.ExactlyOnce
import SiyadahOrchestrator.Webhooks.Replay

/-!
# Requests refine deliveries

`Webhooks.Delivery` follows an event from the dedupe on, with the fields of its payload as strings;
`Webhooks.Requests` follows the bytes that anybody may send. Where the payloads are what the
providers say under an id (`Follows`), every run of the second is a run of the first over the same
stores (`exists_deliveries`): a request that is refused, or that comes to nothing, is a delivery
that never makes a step. So what is proved about deliveries holds of requests.
-/

namespace Siyadah

open PyValue

/-! ### Payloads that a feed speaks of -/

/-- What a request reads as, for an event of a feed. -/
def Feed.reading (feed : Feed) (e : EventId) : WebhookReading :=
  match feed.early e with
  | some a => .answer a
  | none => if e.text = "" then .unkeyed e (feed.route e) else .keyed e (feed.route e)

/-- The request speaks of an event of the feed, or comes to nothing if it is read. -/
inductive WebhookHost.Follows (H : WebhookHost) (feed : Feed) (request : WebhookRequest) : Prop
  | delivers (e : EventId) (h : H.read request = feed.reading e)
  | badRequest (h : H.read request = .badRequest)
  | answers (a : WebhookAnswer) (h : H.read request = .answer a)

section Follows

variable {H : WebhookHost} {feed : Feed}

theorem isStr_py {s t : String} : (py s).isStr (PyStr.ofString t) = decide (s = t) := by
  by_cases h : s = t
  · subst h
    exact (decide_eq_true rfl).trans (decide_eq_true rfl).symm
  · have hne : PyStr.ofString s ≠ PyStr.ofString t := fun heq ↦ h (PyStr.ofString_injective heq)
    exact (decide_eq_false hne).trans (decide_eq_false h).symm

theorem truthy_py {s : String} : (py s).truthy = decide (s ≠ "") := by
  by_cases h : s = ""
  · subst h
    rfl
  · have hne : PyStr.ofString s ≠ [] := fun heq ↦ h (PyStr.ofString_injective heq)
    rw [decide_eq_true h]
    show (!(PyStr.ofString s).isEmpty) = true
    rwa [Bool.not_eq_true', List.isEmpty_eq_false_iff]

theorem orElse_py {s : String} : (py s).orElse (py "") = py s := by
  by_cases h : s = ""
  · subst h
    rfl
  · rw [orElse, truthy_py, if_pos (decide_eq_true h)]

theorem columnText_py {s : String} : WebhookHost.columnText (py s) = some s :=
  PyStr.toString?_ofString s

/-- The route of an event whose fields are strings. -/
theorem slackRoute_py {eventType teamId : String} :
    WebhookHost.slackRoute (py eventType) (py teamId) =
      if eventType ∈ slackRevokeEventTypes then
        if teamId = "" then .answer .noTeamId else .revoke "slack" teamId
      else .answer .handledFalse := by
  have hany : (slackRevokeEventTypes.any fun t ↦ (py eventType).isStr (PyStr.ofString t)) =
      decide (eventType ∈ slackRevokeEventTypes) := by
    simp only [isStr_py, slackRevokeEventTypes, List.any_cons, List.any_nil, List.mem_cons,
      List.not_mem_nil]
    simp
  rw [WebhookHost.slackRoute, hany]
  by_cases hmem : eventType ∈ slackRevokeEventTypes
  · rw [if_pos (decide_eq_true hmem), if_pos hmem, truthy_py]
    by_cases hteam : teamId = ""
    · rw [if_neg (by simp [hteam]), if_pos hteam]
    · rw [if_pos (decide_eq_true hteam), if_neg hteam, WebhookHost.revokeRoute, columnText_py]
  · rw [if_neg (by simpa using hmem), if_neg hmem]

/-- **A Slack payload whose fields are strings follows a feed** that gives these strings under its
id. -/
theorem follows_of_strings {req : SlackRequest} {payload event : PyValue}
    {type eventType teamId eventId : String} (hloads : H.loads req.rawBody = .ok payload)
    (htype : payload.get "type" = .ok (py type))
    (hevent : payload.getD "event" (.dict []) = .ok event)
    (heventType : (event.orElse (.dict [])).getD "type" (py "") = .ok (py eventType))
    (hteamId : payload.getD "team_id" (py "") = .ok (py teamId))
    (heventId : payload.getD "event_id" (py "") = .ok (py eventId))
    (hfeed : feed.slack eventId = ⟨type, eventType, teamId⟩) : H.Follows feed (.slack req) := by
  refine .delivers (.slack eventId) ?_
  have hread : H.read (.slack req) = WebhookHost.readingOf (H.readSlackPayload payload) := by
    rw [WebhookHost.read, hloads]
  have hearly : feed.early (.slack eventId) =
      if type = "url_verification" then some .challenge
      else if type ≠ "event_callback" then some .ignored else none := by
    rw [Feed.early, hfeed]
  rw [hread, WebhookHost.readSlackPayload, htype, ok_bind, isStr_py, Feed.reading, hearly]
  by_cases hverification : type = "url_verification"
  · rw [if_pos (decide_eq_true hverification), if_pos hverification]
    rfl
  rw [if_neg (by simpa using hverification), if_neg hverification, isStr_py]
  by_cases hcallback : type = "event_callback"
  · rw [if_pos (decide_eq_true hcallback), if_neg (not_not_intro hcallback), hevent, ok_bind,
      heventType, ok_bind, hteamId, ok_bind, heventId, ok_bind, orElse_py, truthy_py]
    have hroute : feed.route (.slack eventId) =
        WebhookHost.slackRoute (py eventType) (py teamId) := by
      rw [slackRoute_py, Feed.route, hfeed]
    show WebhookHost.readingOf (.ok (if decide (eventId ≠ "") = true then _ else _)) = _
    rw [hroute, H.str_str]
    by_cases htext : eventId = ""
    · subst htext
      rfl
    · rw [if_pos (decide_eq_true htext)]
      exact (if_neg htext).symm
  · rw [if_neg (by simpa using hcallback), if_pos hcallback]
    rfl

end Follows

/-! ### The simulation -/

/-- The handler and the delivery of its event stand at the same place. -/
inductive SamePlace (feed : Feed) (e : EventId) : CallPc → DeliveryPc → Prop
  | start : SamePlace feed e .start .start
  | dedupe : SamePlace feed e (.dedupe e (feed.route e)) .dedupe
  | revoke (provider account : String) :
      SamePlace feed e (.revoke e provider account) (.revoke provider account)
  | answered (a : WebhookAnswer) : SamePlace feed e (.answered a) (.answered a)
  | crashed : SamePlace feed e .crashed .crashed
  /-- The request has been refused. -/
  | refused (status : ℕ) : SamePlace feed e (.refused status) .start
  /-- The request has come to nothing. -/
  | nothing (a : WebhookAnswer) : SamePlace feed e (.answered a) .start

namespace SamePlace

variable {feed : Feed} {e e' : EventId} {route : Route} {provider account : String}
  {pc : DeliveryPc}

theorem eq_start (h : SamePlace feed e .start pc) : pc = .start := by
  cases h
  rfl

theorem eq_dedupe (h : SamePlace feed e (.dedupe e' route) pc) :
    e' = e ∧ route = feed.route e ∧ pc = .dedupe := by
  cases h
  exact ⟨rfl, rfl, rfl⟩

theorem eq_revoke (h : SamePlace feed e (.revoke e' provider account) pc) :
    e' = e ∧ pc = .revoke provider account := by
  cases h
  exact ⟨rfl, rfl⟩

theorem ofRoute (e : EventId) (route : Route) :
    SamePlace feed e (.ofRoute e route) (.ofRoute route) := by
  rcases route with a | ⟨provider, account⟩
  · exact .answered a
  · exact .revoke provider account

end SamePlace

/-- A delivery that does what a handler does. -/
structure Tracks (H : WebhookHost) (feed : Feed) (c : WebhookCall) (d : Delivery) : Prop where
  env : d.env = c.env
  revoked : d.revoked = c.revoked
  place : SamePlace feed d.event c.pc d.pc
  reading : c.pc = .start → H.read c.request = feed.reading d.event ∨
    H.read c.request = .badRequest ∨ ∃ a, H.read c.request = .answer a

namespace WebhookCalls

variable {H : WebhookHost} {feed : Feed} {w w' : WebhookWorld} {c c' : WebhookCall} {d : Delivery}

/-- A handler that reads its request. -/
theorem tracks_reading (h : Tracks H feed c d) (hpc : c.pc = .start) {v : Option Time} :
    Tracks H feed { c with pc := .ofReading (H.read c.request), verifiedAt := v } d ∨
      ∃ d', d.step feed w = some (w, d') ∧
        Tracks H feed { c with pc := .ofReading (H.read c.request), verifiedAt := v } d' := by
  have hdpc : d.pc = .start := (hpc ▸ h.place).eq_start
  have hne : CallPc.ofReading (H.read c.request) ≠ .start := WebhookCall.ofReading_ne_start
  rcases h.reading hpc with hread | hread | ⟨a, hread⟩
  · right
    rw [Delivery.step, hdpc]
    rcases hearly : feed.early d.event with - | a
    · by_cases htext : d.event.text = ""
      · have hread' : H.read c.request = .unkeyed d.event (feed.route d.event) := by
          rw [hread, Feed.reading, hearly]
          exact if_pos htext
        exact ⟨_, if_pos htext, h.env, h.revoked, by rw [hread']; exact .ofRoute _ _,
          fun hstart ↦ absurd hstart hne⟩
      · have hread' : H.read c.request = .keyed d.event (feed.route d.event) := by
          rw [hread, Feed.reading, hearly]
          exact if_neg htext
        exact ⟨_, if_neg htext, h.env, h.revoked, by rw [hread']; exact .dedupe,
          fun hstart ↦ absurd hstart hne⟩
    · have hread' : H.read c.request = .answer a := by
        rw [hread, Feed.reading, hearly]
      exact ⟨_, rfl, h.env, h.revoked, by rw [hread']; exact .answered a,
        fun hstart ↦ absurd hstart hne⟩
  · left
    exact ⟨h.env, h.revoked, by rw [hread, hdpc]; exact .refused 400,
      fun hstart ↦ absurd hstart hne⟩
  · left
    exact ⟨h.env, h.revoked, by rw [hread, hdpc]; exact .nothing a, fun hstart ↦ absurd hstart hne⟩

section Steps

variable {provider account : String}

theorem step_unready (hdpc : d.pc = .dedupe) (hredis : d.env.redisReady = false) :
    d.step feed w = some (w, { d with pc := .answered .redisNotInitialised }) := by
  rw [Delivery.step, hdpc]
  exact if_pos hredis

theorem step_raised {applied : Bool} (hdpc : d.pc = .dedupe) (hredis : ¬ d.env.redisReady = false)
    (hraised : d.env.dedupe = .raised applied) :
    d.step feed w = some (if applied then (w.claim d.event).getD w else w,
      { d with pc := .answered .raised }) := by
  rw [Delivery.step, hdpc]
  refine (if_neg hredis).trans ?_
  rw [hraised]

theorem step_claimed (hdpc : d.pc = .dedupe) (hredis : ¬ d.env.redisReady = false)
    (hanswered : d.env.dedupe = .answered) (hclaim : w.claim d.event = some w') :
    d.step feed w =
      some (w', { d with pc := .ofRoute (feed.route d.event), wonAt := some w.now }) := by
  rw [Delivery.step, hdpc]
  refine (if_neg hredis).trans ?_
  rw [hanswered, hclaim]

theorem step_duplicate (hdpc : d.pc = .dedupe) (hredis : ¬ d.env.redisReady = false)
    (hanswered : d.env.dedupe = .answered) (hclaim : w.claim d.event = none) :
    d.step feed w = some (w, { d with pc := .answered .duplicate }) := by
  rw [Delivery.step, hdpc]
  refine (if_neg hredis).trans ?_
  rw [hanswered, hclaim]

theorem step_transacted (hdpc : d.pc = .revoke provider account)
    (htransact : w.transact d.env.transaction d.event provider account = some w') :
    d.step feed w = some (w', { d with
      pc := .answered (if d.env.transaction = .answered then
        .revoked (w.tokens.liveIds provider account).length else .raised)
      revoked := w.tokens.liveIds provider account }) := by
  rw [Delivery.step, hdpc]
  dsimp only
  rw [htransact]

theorem step_untransacted (hdpc : d.pc = .revoke provider account)
    (htransact : w.transact d.env.transaction d.event provider account = none) :
    d.step feed w = some (w, { d with pc := .answered .raised }) := by
  rw [Delivery.step, hdpc]
  dsimp only
  rw [htransact]

end Steps

theorem of_answered_eq_start {a : WebhookAnswer} {p : Prop} (h : CallPc.answered a = .start) : p :=
  absurd h (by simp)

theorem of_refused_eq_start {status : ℕ} {p : Prop} (h : CallPc.refused status = .start) : p :=
  absurd h (by simp)

/-- **One step of a handler** is a step of its delivery, or none. -/
theorem tracks_step (h : Tracks H feed c d) (hstep : c.step H w = some (w', c')) :
    (w' = w ∧ Tracks H feed c' d) ∨
      ∃ d', d.step feed w = some (w', d') ∧ Tracks H feed c' d' := by
  have hplace := h.place
  rw [WebhookCall.step] at hstep
  split at hstep
  · rename_i hpc
    split at hstep
    · obtain ⟨rfl, rfl⟩ := Prod.mk.inj (Option.some.inj hstep)
      have hdpc : d.pc = .start := (hpc ▸ hplace).eq_start
      exact .inl ⟨rfl, h.env, h.revoked, by rw [hdpc]; exact .refused _, of_refused_eq_start⟩
    · obtain ⟨rfl, rfl⟩ := Prod.mk.inj (Option.some.inj hstep)
      exact (tracks_reading h hpc).imp_left fun htracks ↦ ⟨rfl, htracks⟩
  · rename_i event route hpc
    obtain ⟨rfl, rfl, hdpc⟩ := (hpc ▸ hplace).eq_dedupe
    right
    split at hstep
    · rename_i hredis
      obtain ⟨rfl, rfl⟩ := Prod.mk.inj (Option.some.inj hstep)
      rw [step_unready hdpc (h.env ▸ hredis)]
      exact ⟨_, rfl, h.env, h.revoked, .answered _, of_answered_eq_start⟩
    · rename_i hredis
      split at hstep
      · rename_i applied hraised
        obtain ⟨rfl, rfl⟩ := Prod.mk.inj (Option.some.inj hstep)
        rw [step_raised hdpc (h.env ▸ hredis) (h.env ▸ hraised)]
        exact ⟨_, rfl, h.env, h.revoked, .answered _, of_answered_eq_start⟩
      · rename_i hanswered
        split at hstep
        · rename_i w₁ hclaim
          obtain ⟨rfl, rfl⟩ := Prod.mk.inj (Option.some.inj hstep)
          rw [step_claimed hdpc (h.env ▸ hredis) (h.env ▸ hanswered) hclaim]
          exact ⟨_, rfl, h.env, h.revoked, .ofRoute _ _, fun hstart ↦
            absurd hstart WebhookCall.ofRoute_ne_start.1⟩
        · rename_i hclaim
          obtain ⟨rfl, rfl⟩ := Prod.mk.inj (Option.some.inj hstep)
          rw [step_duplicate hdpc (h.env ▸ hredis) (h.env ▸ hanswered) hclaim]
          exact ⟨_, rfl, h.env, h.revoked, .answered _, of_answered_eq_start⟩
  · rename_i event provider account hpc
    obtain ⟨rfl, hdpc⟩ := (hpc ▸ hplace).eq_revoke
    right
    split at hstep
    · rename_i w₁ htransact
      obtain ⟨rfl, rfl⟩ := Prod.mk.inj (Option.some.inj hstep)
      rw [step_transacted hdpc (h.env.symm ▸ htransact), h.env]
      exact ⟨_, rfl, rfl, rfl, .answered _, of_answered_eq_start⟩
    · rename_i htransact
      obtain ⟨rfl, rfl⟩ := Prod.mk.inj (Option.some.inj hstep)
      rw [step_untransacted hdpc (h.env.symm ▸ htransact)]
      exact ⟨_, rfl, h.env, h.revoked, .answered _, of_answered_eq_start⟩
  all_goals exact absurd hstep (Option.some_ne_none _).symm

/-- The requests that an action sends follow the feed. -/
def FollowedBy (H : WebhookHost) (feed : Feed) : CallAction → Prop
  | .send request _ => H.Follows feed request
  | _ => True

/-- **One action** is matched by a run of deliveries. -/
theorem alongside_step {P P' : CallState} {Q : WebhookState} {a : CallAction}
    (h : P.Alongside (Tracks H feed) Q) (hfollows : FollowedBy H feed a)
    (hstep : (system H).step P a = some P') :
    ∃ bs Q', (Webhooks.system feed).run Q bs = some Q' ∧ P'.Alongside (Tracks H feed) Q' := by
  cases a with
  | tick elapsed =>
    obtain rfl := Option.some.inj hstep
    refine ⟨[.tick elapsed], _, rfl, ?_⟩
    rw [h.store]
    exact h.touch
  | write tokens =>
    obtain rfl := Option.some.inj hstep
    refine ⟨[.write tokens], _, rfl, ?_⟩
    rw [h.store]
    exact h.touch
  | send request env =>
    obtain rfl := Option.some.inj hstep
    have hspawn (e : EventId) (hreading : H.read request = feed.reading e ∨
        H.read request = .badRequest ∨ ∃ a, H.read request = .answer a) :
        ∃ bs Q', (Webhooks.system feed).run Q bs = some Q' ∧
          (P.spawn P.store [⟨request, env, .start, none, none, []⟩]).Alongside
            (Tracks H feed) Q' := by
      refine ⟨[.deliver e env], _, rfl, ?_⟩
      rw [h.store]
      exact h.spawn ⟨rfl, rfl, .start, fun _ ↦ hreading⟩
    rcases hfollows with ⟨e, hread⟩ | hread | ⟨a, hread⟩
    · exact hspawn e (.inl hread)
    · exact hspawn (.slack "") (.inr (.inl hread))
    · exact hspawn (.slack "") (.inr (.inr ⟨a, hread⟩))
  | step i =>
    obtain ⟨c, w', c', hc, hnext, rfl⟩ := ProcessPool.advance_eq_some.1 hstep
    obtain ⟨d, hd, htracks⟩ := h.exists_of_getElem? hc
    rcases tracks_step htracks hnext with ⟨rfl, htracks'⟩ | ⟨d', hd', htracks'⟩
    · refine ⟨[], Q, rfl, h.set_left fun q hq ↦ ?_⟩
      obtain rfl := Option.some.inj (hd.symm.trans hq)
      exact htracks'
    · refine ⟨[.step i], ⟨w', Q.procs.set i d'⟩, ?_, h.set htracks'⟩
      have hadvance : Q.advance (Delivery.step feed) i = some ⟨w', Q.procs.set i d'⟩ :=
        ProcessPool.advance_eq_some.2 ⟨d, w', d', hd, h.store ▸ hd', rfl⟩
      show (Q.advance (Delivery.step feed) i).bind _ = _
      rw [hadvance]
      rfl
  | crash i =>
    obtain ⟨c, hc, rfl⟩ := Option.map_eq_some_iff.1 hstep
    obtain ⟨d, hd, htracks⟩ := h.exists_of_getElem? hc
    refine ⟨[.crash i], Q.kill i { d with pc := .crashed }, ?_, ?_⟩
    · show ((Q.procs[i]?).map _).bind _ = _
      rw [hd]
      rfl
    · show ProcessPool.Alongside _ ⟨P.store, _⟩ ⟨Q.store, _⟩
      rw [h.store]
      exact h.set ⟨htracks.env, htracks.revoked, .crashed, nofun⟩

/-- **Requests refine deliveries.** Every run of the routes on which the requests follow a feed is
matched by a run of deliveries over the same stores, in which the delivery of each request stands
where the handler of the request stands. -/
theorem exists_deliveries {now : Time} {tokens : TokenTable} {as : List CallAction}
    {P : CallState} (hfollows : ∀ a ∈ as, FollowedBy H feed a)
    (hrun : (system H).run (initial now tokens) as = some P) :
    ∃ bs Q, (Webhooks.system feed).run (Webhooks.initial now tokens) bs = some Q ∧
      P.Alongside (Tracks H feed) Q := by
  have h₀ : (initial now tokens).Alongside (Tracks H feed) (Webhooks.initial now tokens) :=
    ⟨rfl, rfl, fun _ _ _ h ↦ absurd h (by simp [initial])⟩
  exact TransitionSystem.exists_run_of_simulation
    (fun _ _ _ _ h hfollows hstep ↦ alongside_step h hfollows hstep) h₀ hfollows hrun

/-- What Slack says of the sample. -/
def uninstallFeed : Feed :=
  ⟨fun _ ↦ ⟨"event_callback", "app_uninstalled", "T1"⟩, fun _ ↦ .missing⟩

/-- The request that is sent twice, as two deliveries. -/
theorem exists_deliveries_sample : ∃ P bs Q,
    (system sampleWebhookHost).run (initial 1700000000000000 Webhooks.demoTokens) uninstallTwice =
        some P ∧
      (Webhooks.system uninstallFeed).run
        (Webhooks.initial 1700000000000000 Webhooks.demoTokens) bs = some Q ∧
      P.Alongside (Tracks sampleWebhookHost uninstallFeed) Q := by
  obtain ⟨P, -, -, hrun, -⟩ := exists_run_uninstallTwice
  have hrequest : sampleWebhookHost.Follows uninstallFeed (.slack uninstallRequest) :=
    follows_of_strings rfl rfl rfl rfl rfl rfl rfl
  have hfollows : ∀ a ∈ uninstallTwice, FollowedBy sampleWebhookHost uninstallFeed a := by
    simp only [uninstallTwice, List.forall_mem_cons]
    exact ⟨hrequest, trivial, trivial, trivial, trivial, trivial, hrequest, trivial, trivial, nofun⟩
  obtain ⟨bs, Q, hQ, halongside⟩ := exists_deliveries hfollows hrun
  exact ⟨P, bs, Q, hrun, hQ, halongside⟩

end WebhookCalls

end Siyadah
