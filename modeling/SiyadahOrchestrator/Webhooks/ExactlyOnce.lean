import SiyadahOrchestrator.Vault.StatusConstraint
import SiyadahOrchestrator.Webhooks.Delivery

/-!
# The effect of a webhook happens once

Two stores are written for one event: the dedupe key in Redis, and then the rows. So the law has two
halves of different strength.

* *At most once* holds in every run (`once_step`): as long as the key stands, a second delivery
  finds it and revokes nothing; in particular it does not touch a row that was authorized after the
  event was first processed. The key stands until it expires, and a winner remembers when it took it
  (`Won`).
* *At least once* does not: the key is set before the revocation commits, and nobody removes it when
  the revocation fails. A delivery answered as a duplicate knows that somebody has taken the key,
  and no more. `DeliverySafe` names what must not happen in between: a transaction that fails, or is
  refused by the unique constraint; a process that dies; a key that is set by a command that raises;
  and another delivery of the same event meanwhile.
-/

namespace Siyadah

/-! ### What one step of a delivery can do -/

/-- What a step of a delivery does. -/
inductive Delivery.Effect (feed : Feed) (w : WebhookWorld) (d : Delivery) :
    WebhookWorld → Delivery → Prop
  /-- The handler answers before it looks at the id. -/
  | early (a : WebhookAnswer) (hpc : d.pc = .start) (hearly : feed.early d.event = some a) :
      Effect feed w d w { d with pc := .answered a }
  /-- The event has no id. -/
  | unkeyed (hpc : d.pc = .start) (hearly : feed.early d.event = none) (htext : d.event.text = "") :
      Effect feed w d w { d with pc := .ofRoute (feed.route d.event) }
  /-- The event has an id. -/
  | keyed (hpc : d.pc = .start) (hearly : feed.early d.event = none) (htext : d.event.text ≠ "") :
      Effect feed w d w { d with pc := .dedupe }
  /-- Redis does not answer, and has not set the key. -/
  | failed (a : WebhookAnswer) (hpc : d.pc = .dedupe) (hne : a ≠ .duplicate) :
      Effect feed w d w { d with pc := .answered a }
  /-- Redis does not answer, and has set the key. -/
  | orphaned (w' : WebhookWorld) (hpc : d.pc = .dedupe) (hraised : d.env.dedupe = .raised true)
      (h : w.claim d.event = some w') : Effect feed w d w' { d with pc := .answered .raised }
  /-- The event is new. -/
  | won (w' : WebhookWorld) (hpc : d.pc = .dedupe) (h : w.claim d.event = some w') :
      Effect feed w d w' { d with pc := .ofRoute (feed.route d.event), wonAt := some w.now }
  /-- The event is not new. -/
  | duplicate (hpc : d.pc = .dedupe) (h : w.claim d.event = none) :
      Effect feed w d w { d with pc := .answered .duplicate }
  /-- The rows are revoked. -/
  | revoked (provider account : String) (w' : WebhookWorld) (a : WebhookAnswer) (ids : List String)
      (hpc : d.pc = .revoke provider account) (hne : a ≠ .duplicate)
      (h : w.revoke d.event provider account = some w') :
      Effect feed w d w' { d with pc := .answered a, revoked := ids }
  /-- The transaction has failed. -/
  | aborted (provider account : String) (hpc : d.pc = .revoke provider account)
      (h : d.env.transaction = .raised false ∨ w.revoke d.event provider account = none) :
      Effect feed w d w { d with pc := .answered .raised }

namespace DeliveryPc

theorem ofRoute_ne_duplicate (feed : Feed) (e : EventId) :
    ofRoute (feed.route e) ≠ .answered .duplicate := by
  rcases e with eventId | messageId
  · rw [Feed.route]
    split_ifs <;> simp [ofRoute]
  · rw [Feed.route]
    split
    · exact fun h ↦ nomatch h
    · exact fun h ↦ nomatch h
    · split_ifs <;> simp [ofRoute]

theorem ofRoute_ne_dedupe (r : Route) : ofRoute r ≠ .dedupe := by
  rcases r <;> exact fun h ↦ nomatch h

/-- Who is routed to a revocation is routed to the one that the event calls for. -/
theorem calls_of_ofRoute {feed : Feed} {e : EventId} {provider account : String}
    (hearly : feed.early e = none) (h : ofRoute (feed.route e) = .revoke provider account) :
    feed.calls e = some (provider, account) := by
  rw [Feed.calls, hearly]
  rcases hroute : feed.route e with a | ⟨p, a⟩
  · rw [hroute] at h
    exact nomatch h
  · rw [hroute] at h
    obtain ⟨rfl, rfl⟩ := DeliveryPc.revoke.inj h
    rfl

end DeliveryPc

namespace Feed

variable {feed : Feed} {e : EventId}

theorem early_ne_duplicate : feed.early e ≠ some .duplicate := by
  rcases e with eventId | messageId
  · rw [early]
    split_ifs <;> simp
  · exact fun h ↦ nomatch h

/-- An event that calls for a revocation is routed to one. -/
theorem processing_of_calls (h : feed.calls e ≠ none) :
    (DeliveryPc.ofRoute (feed.route e)).processing = true := by
  rw [calls] at h
  split at h
  · rename_i hroute
    rw [hroute]
    rfl
  · exact absurd rfl h

end Feed

variable {feed : Feed} {w w' : WebhookWorld} {d d' : Delivery}

/-- What a transaction may leave behind. -/
theorem WebhookWorld.transact_cases (outcome : CommandOutcome) (e : EventId)
    (provider account : String) :
    w.transact outcome e provider account = w.revoke e provider account ∨
      w.transact outcome e provider account = none ∧ outcome = .raised false := by
  rcases outcome with - | applied
  · exact .inl rfl
  · rcases applied
    · exact .inr ⟨rfl, rfl⟩
    · exact .inl rfl

/-- **There is no other kind of step.** -/
theorem Delivery.effect_of_step (h : d.step feed w = some (w', d')) : Effect feed w d w' d' := by
  rw [step] at h
  split at h
  · rename_i hpc
    split at h
    · rename_i a hearly
      obtain ⟨rfl, rfl⟩ := Prod.mk.inj (Option.some.inj h)
      exact .early a hpc hearly
    · rename_i hearly
      split at h
      · rename_i htext
        obtain ⟨rfl, rfl⟩ := Prod.mk.inj (Option.some.inj h)
        exact .unkeyed hpc hearly htext
      · rename_i htext
        obtain ⟨rfl, rfl⟩ := Prod.mk.inj (Option.some.inj h)
        exact .keyed hpc hearly htext
  · rename_i hpc
    split at h
    · obtain ⟨rfl, rfl⟩ := Prod.mk.inj (Option.some.inj h)
      exact .failed _ hpc fun he ↦ nomatch he
    · rcases hclaim : w.claim d.event with - | w₁ <;> rw [hclaim] at h
      · split at h
        · -- The command raises, and the key was there already.
          rename_i applied hraised
          obtain ⟨rfl, rfl⟩ := Prod.mk.inj (Option.some.inj h)
          have hw : (if applied then (none : Option WebhookWorld).getD w else w) = w := by
            split <;> rfl
          rw [hw]
          exact .failed _ hpc fun he ↦ nomatch he
        · obtain ⟨rfl, rfl⟩ := Prod.mk.inj (Option.some.inj h)
          exact .duplicate hpc hclaim
      · split at h
        · rename_i applied hraised
          obtain ⟨rfl, rfl⟩ := Prod.mk.inj (Option.some.inj h)
          rcases applied with - | -
          · exact .failed _ hpc fun he ↦ nomatch he
          · exact .orphaned _ hpc hraised hclaim
        · obtain ⟨rfl, rfl⟩ := Prod.mk.inj (Option.some.inj h)
          exact .won _ hpc hclaim
  · rename_i provider account hpc
    have htransact := w.transact_cases d.env.transaction d.event provider account
    split at h
    · rename_i w₁ hsome
      obtain ⟨rfl, rfl⟩ := Prod.mk.inj (Option.some.inj h)
      refine .revoked provider account _ _ _ hpc ?_ ?_
      · split_ifs <;> exact fun he ↦ nomatch he
      · rcases htransact with heq | ⟨hnone, -⟩
        · rwa [← heq]
        · exact nomatch hsome.symm.trans hnone
    · rename_i hnone
      obtain ⟨rfl, rfl⟩ := Prod.mk.inj (Option.some.inj h)
      refine .aborted provider account hpc ?_
      rcases htransact with heq | ⟨-, hraised⟩
      · exact .inr (heq.symm.trans hnone)
      · exact .inl hraised
  · exact nomatch h
  · exact nomatch h

/-- What a step does to the keys: nothing, or it sets the key of its event. -/
theorem Delivery.Effect.redis (heff : d.Effect feed w w' d') :
    w'.now = w.now ∧ (w'.redis = w.redis ∨ w.redis.setNx w.now d.event.dedupeKey "1"
      (w.now + seconds d.event.dedupeTtl) = some w'.redis) := by
  cases heff with
  | early | unkeyed | keyed | failed | duplicate | aborted => exact ⟨rfl, .inl rfl⟩
  | orphaned w' hpc hraised h | won w' hpc h =>
    obtain ⟨redis, hset, rfl⟩ := Option.map_eq_some_iff.1 h
    exact ⟨rfl, .inr hset⟩
  | revoked provider account w' a ids hpc hne h =>
    obtain ⟨tokens, -, rfl⟩ := Option.map_eq_some_iff.1 h
    exact ⟨rfl, .inl rfl⟩

/-- A revocation that has committed stays on record. -/
theorem Delivery.Effect.committed (heff : d.Effect feed w w' d') {r : EventId × String × String}
    (hr : r ∈ w.committed) : r ∈ w'.committed := by
  cases heff with
  | early | unkeyed | keyed | failed | duplicate | aborted => exact hr
  | orphaned w' hpc hraised h | won w' hpc h =>
    obtain ⟨redis, -, rfl⟩ := Option.map_eq_some_iff.1 h
    exact hr
  | revoked provider account w' a ids hpc hne h =>
    obtain ⟨tokens, -, rfl⟩ := Option.map_eq_some_iff.1 h
    exact List.mem_cons_of_mem _ hr

/-! ### At most once -/

namespace Delivery

/-- When the key that the delivery has set runs out. -/
def keyExpiry (d : Delivery) (wonAt : Time) : Time := wonAt + seconds d.event.dedupeTtl

/-- What a delivery may rely on: its key stands until it runs out; and who has not found the event
new has done nothing. -/
structure Won (w : WebhookWorld) (d : Delivery) : Prop where
  guards : ∀ T ∈ d.wonAt, T ≤ w.now ∧
    w.redis.Guards w.now d.event.dedupeKey "1" (d.keyExpiry T)
  idle : d.event.text ≠ "" → d.wonAt = none → d.pc.processing = false ∧ d.revoked = []

/-- Two deliveries that have both found an event new did so a lifetime apart. -/
def Apart (d d' : Delivery) : Prop :=
  d.event = d'.event → ∀ T ∈ d.wonAt, ∀ T' ∈ d'.wonAt, d.keyExpiry T ≤ T' ∨ d'.keyExpiry T' ≤ T

theorem Apart.symm (h : Apart d d') : Apart d' d := fun he T' hT' T hT ↦
  (h he.symm T hT T' hT').symm

/-- The reliance survives the passage of time and the `SET … NX` of anybody. -/
theorem Won.of_redis (h : d.Won w) (hnow : w.now ≤ w'.now)
    (hredis : w'.redis = w.redis ∨
      ∃ k expiry, w.redis.setNx w.now k "1" expiry = some w'.redis) : d.Won w' := by
  refine ⟨fun T hT ↦ ?_, h.idle⟩
  obtain ⟨hle, hguards⟩ := h.guards T hT
  refine ⟨hle.trans hnow, ?_⟩
  rcases hredis with heq | ⟨k, expiry, hset⟩
  · rw [heq]
    exact hguards.mono hnow
  · exact (hguards.setNx hset).mono hnow

end Delivery

namespace Webhooks

/-- The invariant of the first half. -/
def Once (P : WebhookState) : Prop := P.Holds (fun _ ↦ True) Delivery.Won Delivery.Apart

variable {P Q : WebhookState} {a : WebhookAction}

/-- The delivery that steps, after its step. -/
theorem won_of_effect (heff : d.Effect feed w w' d') (h : d.Won w) : d'.Won w' := by
  have hredis := heff.redis
  have hkeep : d.Won w' := h.of_redis hredis.1.ge (hredis.2.imp_right fun hset ↦ ⟨_, _, hset⟩)
  cases heff with
  | unkeyed hpc hearly htext => exact ⟨hkeep.guards, fun hne ↦ absurd htext hne⟩
  | early | keyed | failed | orphaned | duplicate | aborted =>
    exact ⟨hkeep.guards, fun htext hnone ↦ ⟨rfl, (h.idle htext hnone).2⟩⟩
  | won w' hpc hclaim =>
    obtain ⟨redis, hset, rfl⟩ := Option.map_eq_some_iff.1 hclaim
    refine ⟨fun T hT ↦ ?_, fun _ hnone ↦ absurd hnone (Option.some_ne_none _)⟩
    obtain rfl := Option.some.inj hT
    exact ⟨le_rfl, ExpiringStore.Guards.of_setNx hset⟩
  | revoked provider account w' a ids hpc hne hrev =>
    refine ⟨hkeep.guards, fun htext hnone ↦ ?_⟩
    -- Who has not found the event new does not come here.
    have hidle := (h.idle htext hnone).1
    rw [hpc] at hidle
    exact absurd hidle.symm Bool.false_ne_true

/-- A delivery that finds an event new does so after the lifetime of every earlier one. -/
theorem apart_of_effect {r : Delivery} (heff : d.Effect feed w w' d') (hr : r.Won w)
    (h : Delivery.Apart d r) : Delivery.Apart d' r := by
  cases heff with
  | early | unkeyed | keyed | failed | orphaned | duplicate | aborted | revoked => exact h
  | won w' hpc hclaim =>
    intro he T hT T' hT'
    obtain rfl := Option.some.inj hT
    right
    obtain ⟨redis, hset, -⟩ := Option.map_eq_some_iff.1 hclaim
    obtain ⟨-, hguards⟩ := hr.guards T' hT'
    have hkey : r.event.dedupeKey = d.event.dedupeKey := congrArg EventId.dedupeKey he.symm
    rw [hkey] at hguards
    by_contra hlt
    rw [hguards.setNx_eq_none (not_le.1 hlt)] at hset
    exact absurd hset (by simp)

/-- **At most once**: the step lemma. It holds without a condition. -/
theorem once_step (h : Once P) (hstep : (system feed).step P a = some Q) : Once Q := by
  cases a with
  | tick elapsed =>
    obtain rfl := Option.some.inj hstep
    have hle : P.store.now ≤ P.store.now + elapsed := Int.le.intro elapsed rfl
    exact h.touch trivial fun _ _ _ hwon ↦ hwon.of_redis hle (.inl rfl)
  | deliver event env =>
    obtain rfl := Option.some.inj hstep
    refine h.spawn trivial (fun _ _ _ hwon ↦ hwon) (fun d hd ↦ ?_) (fun i d e _ he ↦ ?_)
      fun i j d e hij hd he ↦ ?_
    · obtain rfl := List.mem_singleton.1 hd
      exact ⟨fun T hT ↦ absurd hT (by simp), fun _ _ ↦ ⟨rfl, rfl⟩⟩
    · obtain rfl := List.mem_singleton.1 he
      exact ⟨fun _ _ _ _ hT' ↦ absurd hT' (by simp), fun _ _ hT ↦ absurd hT (by simp)⟩
    · obtain rfl := List.mem_singleton.1 (List.mem_of_getElem? hd)
      exact fun _ _ hT ↦ absurd hT (by simp)
  | step i =>
    refine h.advance hstep (fun d w' d' hd hnext ↦ ?_)
      (fun d w' d' j r hd hnext hne hr hwon _ _ ↦ ?_)
      fun d w' d' j r hd hnext hne hr hwon hapart _ ↦ ?_
    · exact ⟨trivial, won_of_effect (Delivery.effect_of_step hnext) (h.each i d hd)⟩
    · have hredis := (Delivery.effect_of_step hnext).redis
      exact hwon.of_redis hredis.1.ge (hredis.2.imp_right fun hset ↦ ⟨_, _, hset⟩)
    · have hkeep := apart_of_effect (Delivery.effect_of_step hnext) hwon hapart
      exact ⟨hkeep, hkeep.symm⟩
  | crash i =>
    obtain ⟨d, hd, rfl⟩ := Option.map_eq_some_iff.1 hstep
    have hwon := h.each i d hd
    refine ⟨trivial, fun j r hr ↦ ?_, fun j k p r hjk hp hr ↦ ?_⟩
    · rcases ProcessPool.getElem?_set_cases hr with ⟨-, rfl⟩ | ⟨-, hr'⟩
      · exact ⟨hwon.guards, fun htext hnone ↦ ⟨rfl, (hwon.idle htext hnone).2⟩⟩
      · exact h.each j r hr'
    · rcases ProcessPool.getElem?_set_cases hp with ⟨rfl, rfl⟩ | ⟨-, hp'⟩ <;>
        rcases ProcessPool.getElem?_set_cases hr with ⟨rfl, rfl⟩ | ⟨-, hr'⟩
      · exact absurd rfl hjk
      · exact h.pair j k d r hjk hd hr'
      · exact h.pair j k p d hjk hp' hd
      · exact h.pair j k p r hjk hp' hr'
  | write tokens =>
    obtain rfl := Option.some.inj hstep
    exact h.touch trivial fun _ _ _ hwon ↦ hwon.of_redis le_rfl (.inl rfl)

theorem once_initial (now : Time) (tokens : TokenTable) : Once (initial now tokens) :=
  ⟨trivial, fun _ _ h ↦ absurd h (by simp [initial]),
    fun _ _ _ _ _ h ↦ absurd h (by simp [initial])⟩

/-! ### At least once -/

/-- The event calls for a revocation that has not committed. -/
def Unserved (feed : Feed) (P : WebhookState) (e : EventId) : Prop :=
  ∃ call ∈ feed.calls e, (e, call) ∉ P.store.committed

/-- Nothing happens to a delivery between the dedupe and the commit of a revocation that is still to
be made. -/
def DeliverySafe (feed : Feed) (P : WebhookState) : WebhookAction → Prop
  | .step i => ∀ d ∈ P.procs[i]?, d.event.text ≠ "" → Unserved feed P d.event →
      match d.pc with
      | .dedupe => d.env.dedupe ≠ .raised true ∧
          ∀ d' ∈ P.procs, d'.event = d.event → d'.pc.processing = false
      | .revoke provider account => d.env.transaction ≠ .raised false ∧
          Vault.NoneRetired P.store.tokens provider account
      | _ => True
  | .crash i => ∀ d ∈ P.procs[i]?, d.event.text ≠ "" → Unserved feed P d.event →
      d.pc.processing = false
  | _ => True

instance (feed : Feed) (P : WebhookState) (e : EventId) : Decidable (Unserved feed P e) :=
  inferInstanceAs (Decidable (∃ call ∈ feed.calls e, (e, call) ∉ P.store.committed))

instance (t : TokenTable) (provider account : String) :
    Decidable (Vault.NoneRetired t provider account) :=
  decidable_of_iff _ (Vault.isSome_revokeAccount_iff provider account)

instance (feed : Feed) (P : WebhookState) (a : WebhookAction) :
    Decidable (DeliverySafe feed P a) := by
  cases a with
  | step i =>
    have (d : Delivery) : Decidable (match d.pc with
        | .dedupe => d.env.dedupe ≠ .raised true ∧
            ∀ d' ∈ P.procs, d'.event = d.event → d'.pc.processing = false
        | .revoke provider account => d.env.transaction ≠ .raised false ∧
            Vault.NoneRetired P.store.tokens provider account
        | _ => True) := by cases d.pc <;> infer_instance
    exact inferInstanceAs (Decidable (∀ d ∈ P.procs[i]?, d.event.text ≠ "" → _))
  | crash i => exact inferInstanceAs (Decidable (∀ d ∈ P.procs[i]?, d.event.text ≠ "" → _))
  | tick | deliver | write => exact .isTrue trivial

/-- Some delivery of the event is between the dedupe and the commit. -/
def InProgress (P : WebhookState) (e : EventId) : Prop :=
  ∃ (i : ℕ) (d : Delivery), P.procs[i]? = some d ∧ d.event = e ∧ d.pc.processing = true

/-- What a delivery knows from the steps behind it. -/
structure Informed (feed : Feed) (P : WebhookState) (d : Delivery) : Prop where
  dedupe : d.pc = .dedupe → feed.early d.event = none ∧ d.event.text ≠ ""
  revoke : ∀ provider account, d.pc = .revoke provider account →
    feed.calls d.event = some (provider, account)
  duplicate : d.pc = .answered .duplicate → ¬ Unserved feed P d.event

/-- The invariant of the second half. -/
structure Served (feed : Feed) (P : WebhookState) : Prop where
  /-- Who has set a key and not committed is still at it. -/
  claimed : ∀ e, e.text ≠ "" → Unserved feed P e →
    P.store.redis.entries e.dedupeKey ≠ none → InProgress P e
  informed : ∀ (i : ℕ) (d : Delivery), P.procs[i]? = some d → Informed feed P d

variable {e : EventId} {i : ℕ}

/-- What has been served stays served. -/
theorem Unserved.of_committed (h : Unserved feed Q e)
    (hsub : ∀ r ∈ P.store.committed, r ∈ Q.store.committed) : Unserved feed P e := by
  obtain ⟨call, hcall, hnot⟩ := h
  exact ⟨call, hcall, fun hmem ↦ hnot (hsub _ hmem)⟩

theorem Informed.of_committed (h : Informed feed P d)
    (hsub : ∀ r ∈ P.store.committed, r ∈ Q.store.committed) : Informed feed Q d :=
  ⟨h.dedupe, h.revoke, fun hpc hun ↦ h.duplicate hpc (hun.of_committed hsub)⟩

/-- Another delivery of the event goes on. -/
theorem InProgress.set (h : InProgress P e) (hd : P.procs[i]? = some d)
    (hidle : d.event = e → d.pc.processing = true → InProgress ⟨w', P.procs.set i d'⟩ e) :
    InProgress ⟨w', P.procs.set i d'⟩ e := by
  obtain ⟨j, r, hr, he, hp⟩ := h
  rcases eq_or_ne j i with rfl | hne
  · obtain rfl := Option.some.inj (hr.symm.trans hd)
    exact hidle he hp
  · exact ⟨j, r, (List.getElem?_set_ne hne.symm).trans hr, he, hp⟩

/-- The delivery itself is in progress after its step. -/
theorem inProgress_self (hd : P.procs[i]? = some d) (he : d'.event = e)
    (hp : d'.pc.processing = true) : InProgress ⟨w', P.procs.set i d'⟩ e := by
  have hlt : i < P.procs.length := (List.getElem?_eq_some_iff.1 hd).1
  exact ⟨i, d', List.getElem?_set_self hlt, he, hp⟩

/-- A delivery leaves its event unserved only where the condition does not let it. -/
theorem processing_of_effect (heff : d.Effect feed P.store w' d') (hd : P.procs[i]? = some d)
    (hinf : Informed feed P d) (hsafe : DeliverySafe feed P (.step i)) (htext : d.event.text ≠ "")
    (hun : Unserved feed ⟨w', P.procs.set i d'⟩ d.event) (hp : d.pc.processing = true) :
    d'.event = d.event ∧ d'.pc.processing = true := by
  have hnow : Unserved feed P d.event := hun.of_committed fun r ↦ heff.committed
  have hs := hsafe d hd htext hnow
  cases heff with
  | early a hpc | unkeyed hpc | keyed hpc | failed a hpc | orphaned w' hpc | won w' hpc
    | duplicate hpc =>
    rw [hpc] at hp
    exact absurd hp Bool.false_ne_true
  | revoked provider account w' a ids hpc hne hrev =>
    -- The event is served now.
    obtain ⟨call, hcall, hnot⟩ := hun
    obtain rfl := Option.some.inj ((hinf.revoke _ _ hpc).symm.trans hcall)
    obtain ⟨tokens, -, rfl⟩ := Option.map_eq_some_iff.1 hrev
    exact absurd List.mem_cons_self hnot
  | aborted provider account hpc hfail =>
    rw [hpc] at hs
    rcases hfail with hraised | hrefused
    · exact absurd hraised hs.1
    · have hsome := (Vault.isSome_revokeAccount_iff provider account).2 hs.2
      rw [WebhookWorld.revoke, Option.map_eq_none_iff] at hrefused
      rw [hrefused] at hsome
      exact absurd hsome Bool.false_ne_true

/-- A key that a step has set is the key of an event that is in progress. -/
theorem processing_of_claim (heff : d.Effect feed P.store w' d') (hd : P.procs[i]? = some d)
    (hsafe : DeliverySafe feed P (.step i)) (htext : d.event.text ≠ "")
    (hun : Unserved feed P d.event) (hold : P.store.redis.entries d.event.dedupeKey = none)
    (hnew : w'.redis.entries d.event.dedupeKey ≠ none) :
    d'.event = d.event ∧ d'.pc.processing = true := by
  have hs := hsafe d hd htext hun
  cases heff with
  | early | unkeyed | keyed | failed | duplicate | aborted => exact absurd hold hnew
  | orphaned w' hpc hraised =>
    rw [hpc] at hs
    exact absurd hraised hs.1
  | won w' hpc =>
    obtain ⟨call, hcall, -⟩ := hun
    refine ⟨rfl, Feed.processing_of_calls ?_⟩
    rw [Option.mem_def.1 hcall]
    exact Option.some_ne_none call
  | revoked provider account w' a ids hpc hne hrev =>
    obtain ⟨tokens, -, rfl⟩ := Option.map_eq_some_iff.1 hrev
    exact absurd hold hnew

/-- What the delivery knows after its step. -/
theorem informed_of_effect (heff : d.Effect feed P.store w' d') (hd : P.procs[i]? = some d)
    (h : Served feed P) (hsafe : DeliverySafe feed P (.step i)) :
    Informed feed ⟨w', P.procs.set i d'⟩ d' := by
  have hinf := h.informed i d hd
  cases heff with
  | early a hpc hearly =>
    refine ⟨fun he ↦ (nomatch he), fun _ _ he ↦ (nomatch he), fun he ↦ ?_⟩
    obtain rfl := DeliveryPc.answered.inj he
    exact absurd hearly Feed.early_ne_duplicate
  | unkeyed hpc hearly =>
    exact ⟨fun he ↦ absurd he (DeliveryPc.ofRoute_ne_dedupe _),
      fun _ _ he ↦ DeliveryPc.calls_of_ofRoute hearly he,
      fun he ↦ absurd he (DeliveryPc.ofRoute_ne_duplicate _ _)⟩
  | keyed hpc hearly htext =>
    exact ⟨fun _ ↦ ⟨hearly, htext⟩, fun _ _ he ↦ (nomatch he), fun he ↦ nomatch he⟩
  | failed a hpc hne | revoked provider account w' a ids hpc hne =>
    exact ⟨fun he ↦ (nomatch he), fun _ _ he ↦ (nomatch he),
      fun he ↦ absurd (DeliveryPc.answered.inj he) hne⟩
  | orphaned | aborted =>
    exact ⟨fun he ↦ (nomatch he), fun _ _ he ↦ (nomatch he), fun he ↦ nomatch he⟩
  | won w' hpc =>
    exact ⟨fun he ↦ absurd he (DeliveryPc.ofRoute_ne_dedupe _),
      fun _ _ he ↦ DeliveryPc.calls_of_ofRoute (hinf.dedupe hpc).1 he,
      fun he ↦ absurd he (DeliveryPc.ofRoute_ne_duplicate _ _)⟩
  | duplicate hpc hclaim =>
    refine ⟨fun he ↦ (nomatch he), fun _ _ he ↦ (nomatch he), fun _ hun ↦ ?_⟩
    have htext := (hinf.dedupe hpc).2
    have hun' : Unserved feed P d.event := hun
    have hs := hsafe d hd htext hun'
    rw [hpc] at hs
    -- The key is there, so somebody is at it; and the condition says that nobody is.
    rw [WebhookWorld.claim, Option.map_eq_none_iff, ExpiringStore.setNx_eq_none_iff] at hclaim
    obtain ⟨v, hget⟩ := hclaim
    obtain ⟨expiry, hentry, -⟩ := ExpiringStore.get_eq_some_iff.1 hget
    have hkey : P.store.redis.entries d.event.dedupeKey ≠ none := by
      rw [hentry]
      exact Option.some_ne_none _
    obtain ⟨j, r, hr, he, hp⟩ := h.claimed d.event htext hun' hkey
    rw [hs.2 r (List.mem_of_getElem? hr) he] at hp
    exact absurd hp Bool.false_ne_true

/-- **At least once**: the step lemma. -/
theorem served_step (h : Served feed P) (hsafe : DeliverySafe feed P a)
    (hstep : (system feed).step P a = some Q) : Served feed Q := by
  cases a with
  | tick | write =>
    obtain rfl := Option.some.inj hstep
    exact ⟨h.claimed, fun i d hd ↦ (h.informed i d hd).of_committed fun _ ↦ id⟩
  | deliver event env =>
    obtain rfl := Option.some.inj hstep
    refine ⟨fun e htext hun hkey ↦ ?_, fun i d hd ↦ ?_⟩
    · obtain ⟨i, d, hd, he, hp⟩ := h.claimed e htext hun hkey
      have hlt : i < P.procs.length := (List.getElem?_eq_some_iff.1 hd).1
      exact ⟨i, d, (List.getElem?_append_left hlt).trans hd, he, hp⟩
    · rcases ProcessPool.getElem?_append_cases hd with ⟨-, hd'⟩ | ⟨-, hd'⟩
      · exact (h.informed i d hd').of_committed fun _ ↦ id
      · obtain rfl := List.mem_singleton.1 (List.mem_of_getElem? hd')
        exact ⟨fun he ↦ (nomatch he), fun _ _ he ↦ (nomatch he), fun he ↦ nomatch he⟩
  | step i =>
    obtain ⟨d, w', d', hd, hnext, rfl⟩ := ProcessPool.advance_eq_some.1 hstep
    have heff := Delivery.effect_of_step hnext
    refine ⟨fun e htext hun hkey ↦ ?_, fun j r hr ↦ ?_⟩
    · have hnow : Unserved feed P e := hun.of_committed fun r ↦ heff.committed
      rcases hold : P.store.redis.entries e.dedupeKey with - | entry
      · -- The key is new, so it is the stepping delivery's.
        have he : d.event = e := by
          rcases heff.redis.2 with heq | hset
          · exact absurd ((congrFun (congrArg _ heq) _).trans hold) hkey
          · rw [ExpiringStore.entries_setNx hset] at hkey
            split at hkey
            · rename_i hsame
              exact EventId.dedupeKey_injective hsame.symm
            · exact absurd hold hkey
        subst he
        obtain ⟨he', hp⟩ := processing_of_claim heff hd hsafe htext hnow hold hkey
        exact inProgress_self hd he' hp
      · have hprogress := h.claimed e htext hnow (by rw [hold]; exact Option.some_ne_none entry)
        refine hprogress.set hd fun he hp ↦ ?_
        subst he
        obtain ⟨he', hp'⟩ := processing_of_effect heff hd (h.informed i d hd) hsafe htext hun hp
        exact inProgress_self hd he' hp'
    · rcases ProcessPool.getElem?_set_cases hr with ⟨rfl, rfl⟩ | ⟨-, hr'⟩
      · exact informed_of_effect heff hd h hsafe
      · exact (h.informed j r hr').of_committed fun r ↦ heff.committed
  | crash i =>
    obtain ⟨d, hd, rfl⟩ := Option.map_eq_some_iff.1 hstep
    refine ⟨fun e htext hun hkey ↦ ?_, fun j r hr ↦ ?_⟩
    · refine InProgress.set (h.claimed e htext hun hkey) hd fun he hp ↦ ?_
      subst he
      rw [hsafe d hd htext hun] at hp
      exact absurd hp Bool.false_ne_true
    · rcases ProcessPool.getElem?_set_cases hr with ⟨rfl, rfl⟩ | ⟨-, hr'⟩
      · exact ⟨fun he ↦ (nomatch he), fun _ _ he ↦ (nomatch he), fun he ↦ nomatch he⟩
      · exact (h.informed j r hr').of_committed fun _ ↦ id

theorem served_initial (now : Time) (tokens : TokenTable) : Served feed (initial now tokens) :=
  ⟨fun _ _ _ hkey ↦ absurd rfl hkey, fun _ _ h ↦ absurd h (by simp [initial])⟩

/-! ### Exactly once -/

/-- The effect of every event is there once. -/
structure ExactlyOnce (feed : Feed) (P : WebhookState) : Prop where
  /-- Whoever is answered as a duplicate is told the truth. -/
  duplicate : ∀ d ∈ P.procs, d.pc = .answered .duplicate → ∀ call ∈ feed.calls d.event,
    (d.event, call) ∈ P.store.committed
  /-- Within the lifetime of the key, a replay revokes no row. -/
  replay : ∀ (i j : ℕ) (d d' : Delivery), i ≠ j → P.procs[i]? = some d → P.procs[j]? = some d' →
    d'.event = d.event → d.event.text ≠ "" → ∀ T ∈ d.wonAt, (∀ T' ∈ d'.wonAt, T ≤ T') →
      P.store.now < d.keyExpiry T → d'.revoked = []

/-- The replay half, without a condition. -/
theorem Once.replay (h : Once P) {j : ℕ} (hij : i ≠ j) (hd : P.procs[i]? = some d)
    (hd' : P.procs[j]? = some d') (he : d'.event = d.event) (htext : d.event.text ≠ "") {T : Time}
    (hT : T ∈ d.wonAt) (hfirst : ∀ T' ∈ d'.wonAt, T ≤ T') (hlive : P.store.now < d.keyExpiry T) :
    d'.revoked = [] := by
  have hwon : d'.Won P.store := h.each j d' hd'
  have hapart : Delivery.Apart d d' := h.pair i j d d' hij hd hd'
  rcases hw : d'.wonAt with - | T'
  · exact (hwon.idle (he ▸ htext) hw).2
  · have hle := hfirst T' hw
    have hnow := (hwon.guards T' hw).1
    have hpos : T' < d'.keyExpiry T' := by
      rw [Delivery.keyExpiry]
      refine lt_add_of_pos_right T' ?_
      rcases d'.event with - | - <;> exact (by decide : (0 : Time) < seconds (24 * 3600))
    rcases hapart he.symm T hT T' hw with hlate | hlate
    · exact absurd (hlate.trans hnow) (not_le.2 hlive)
    · exact absurd (hlate.trans hle) (not_le.2 hpos)

/-- **Exactly once.** In every run in which nothing comes between the dedupe and the commit. -/
theorem exactly_once {now : Time} {tokens : TokenTable} {as : List WebhookAction}
    (hrun : (system feed).run (initial now tokens) as = some P)
    (hsafe : (system feed).Meets (DeliverySafe feed) (initial now tokens) as) :
    ExactlyOnce feed P := by
  have honce : Once P := TransitionSystem.invariant_of_run' (fun _ _ _ ↦ once_step)
    (once_initial now tokens) hrun
  have hserved : Served feed P := TransitionSystem.invariant_of_run (fun _ _ _ ↦ served_step)
    (served_initial now tokens) hsafe hrun
  refine ⟨fun d hd hpc call hcall ↦ ?_, fun i j d d' hij hd hd' he htext T hT hfirst hlive ↦
    honce.replay hij hd hd' he htext hT hfirst hlive⟩
  obtain ⟨i, hi⟩ := List.mem_iff_getElem?.1 hd
  by_contra hnot
  exact (hserved.informed i d hi).duplicate hpc ⟨call, hcall, hnot⟩

/-! ### Concrete deliveries -/

section Example

/-- Slack says that workspace `T1` has removed the app. -/
def demoFeed : Feed where
  slack _ := ⟨"event_callback", "app_uninstalled", "T1"⟩
  google _ := .missing

/-- A delivery that nothing disturbs. -/
def quietDeliveryEnv : DeliveryEnv := ⟨true, .answered, .answered⟩

/-- The event arrives and is processed; the workspace is authorized again; the event arrives a
second time. -/
def deliveredTwice : List WebhookAction :=
  [.deliver (.slack "Ev1") quietDeliveryEnv, .step 0, .step 0, .step 0, .write demoTokens,
    .deliver (.slack "Ev1") quietDeliveryEnv, .step 1, .step 1]

/-- The transaction of the first delivery fails, and Slack tries again. -/
def deliveredAgain : List WebhookAction :=
  [.deliver (.slack "Ev1") { quietDeliveryEnv with transaction := .raised false }, .step 0, .step 0,
    .step 0, .deliver (.slack "Ev1") quietDeliveryEnv, .step 1, .step 1]

/-- A replay leaves the new row alone. -/
theorem exactly_once_example :
    ∃ P, (system demoFeed).run (initial 0 demoTokens) deliveredTwice = some P ∧
      (∃ d ∈ P.procs, d.pc = .answered .duplicate) ∧
      P.store.tokens.liveIds "slack" "T1" = ["r1"] ∧ ExactlyOnce demoFeed P := by
  have hsome : ((system demoFeed).run (initial 0 demoTokens) deliveredTwice).any
      (fun P ↦ (∃ d ∈ P.procs, d.pc = .answered .duplicate) ∧
        P.store.tokens.liveIds "slack" "T1" = ["r1"]) = true := by decide +kernel
  obtain ⟨P, hrun, hP⟩ := (Option.any_eq_true _ _).1 hsome
  obtain ⟨hdup, hlive⟩ := of_decide_eq_true hP
  have hsafe : (system demoFeed).Meets (DeliverySafe demoFeed) (initial 0 demoTokens)
      deliveredTwice := by decide +kernel
  exact ⟨P, hrun, hdup, hlive, exactly_once hrun hsafe⟩

/-- **A revocation whose transaction fails is lost.** Slack's retry is answered as a duplicate, and
the row is live for good. -/
theorem failed_revocation_is_lost :
    ∃ P, (system demoFeed).run (initial 0 demoTokens) deliveredAgain = some P ∧
      (∃ d ∈ P.procs, d.pc = .answered .duplicate ∧ d.event = .slack "Ev1") ∧
      demoFeed.calls (.slack "Ev1") = some ("slack", "T1") ∧ P.store.committed = [] ∧
      P.store.tokens.liveIds "slack" "T1" = ["r1"] ∧ ¬ ExactlyOnce demoFeed P := by
  have hsome : ((system demoFeed).run (initial 0 demoTokens) deliveredAgain).any (fun P ↦
      (∃ d ∈ P.procs, d.pc = .answered .duplicate ∧ d.event = .slack "Ev1") ∧
        P.store.committed = [] ∧ P.store.tokens.liveIds "slack" "T1" = ["r1"]) = true := by
    decide +kernel
  obtain ⟨P, hrun, hP⟩ := (Option.any_eq_true _ _).1 hsome
  obtain ⟨⟨d, hd, hpc, he⟩, hcommitted, hlive⟩ := of_decide_eq_true hP
  have hcalls : demoFeed.calls (.slack "Ev1") = some ("slack", "T1") := by decide +kernel
  refine ⟨P, hrun, ⟨d, hd, hpc, he⟩, hcalls, hcommitted, hlive, fun honce ↦ ?_⟩
  have hmem := honce.duplicate d hd hpc ("slack", "T1") (he ▸ hcalls)
  rw [hcommitted] at hmem
  exact absurd hmem List.not_mem_nil

end Example

end Webhooks

end Siyadah
