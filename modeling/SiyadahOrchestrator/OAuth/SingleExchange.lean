import SiyadahOrchestrator.OAuth.NoGhost

/-!
# One code exchange per saga

A saga's authorization code is sent to the provider at most once, whatever the interleaving of
initiations and callbacks and however many callbacks carry the same state; and only a callback
whose claims, nonce and saga agree sends it. No step is excluded here: the law holds on the runs
that leave ghosts as well.

The calls are read off the run (`exchanges`), since nothing in a state records them. That a saga has
no second call rests on three facts about its nonce:

* an initiation draws its saga id and its nonce together, and both are new, so the saga row, every
  callback that has found the saga and every call already made name one nonce (`Issued`);
* a callback that calls has found the nonce alive, and it is gone afterwards (`Spent`);
* only its own initiation registers it, and none registers twice.
-/

namespace Siyadah

/-! ### Calls -/

/-- A call of `_exchange_code`. -/
structure ExchangeCall where
  /-- The index of the callback that makes it. -/
  caller : ℕ
  req : CallbackRequest
  ref : SagaRef
  /-- What `GETDEL` has found under the nonce. -/
  binding : Option String
deriving DecidableEq

namespace CallbackPc

/-- The locals of a callback that has just called `_exchange_code`. -/
def exchanging : CallbackPc → Option SagaRef
  | .exchange ref => some ref
  | _ => none

end CallbackPc

/-- The call that the next step of a handler makes: it leads to the await of the exchange. -/
def Handler.exchangeCall (srv : Server) (w : OAuthWorld) (i : ℕ) : Handler → Option ExchangeCall
  | .initiate _ _ _ => none
  | .callback req env pc =>
    (pc.step srv req env w).bind fun next ↦ next.2.exchanging.map fun ref ↦
      ⟨i, req, ref, w.redis.get w.now (nonceKey ref.nonce)⟩

namespace OAuth

/-- The call that an action makes. -/
def exchangeCall (srv : Server) (P : OAuthState) : OAuthAction → Option ExchangeCall
  | .step i => P.procs[i]?.bind (Handler.exchangeCall srv P.store i)
  | _ => none

/-- The calls of `_exchange_code` along a run, in order. -/
def exchanges (srv : Server) (now : Time) (as : List OAuthAction) : List ExchangeCall :=
  (system srv).trace (exchangeCall srv) (initial now) as

end OAuth

/-! ### Steps that lead to a call -/

namespace CallbackPc

variable {srv : Server} {req : CallbackRequest} {env : CallbackEnv} {w w' : OAuthWorld}
  {pc pc' : CallbackPc} {ref : SagaRef} {cfg : ProviderConfig} {code : String}
  {claims : StateClaims}

theorem eq_exchange_of_exchanging (h : pc.exchanging = some ref) : pc = .exchange ref := by
  cases pc with
  | exchange ref' => exact congrArg exchange (Option.some.inj h)
  | _ => exact absurd h (by simp [exchanging])

/-- A callback looks its saga up with claims that have passed the gate. -/
theorem enter_eq_loadSaga {now : Time} (h : enter srv req now = .loadSaga cfg code claims) :
    getProvider req.provider = some cfg ∧ ∃ key state, srv.stateKey = .ok key ∧
      truthy req.state = some state ∧
      srv.lib.gate key (.ofString state) now = some (.ok claims) := by
  unfold enter at h
  split at h
  · exact absurd h (by simp)
  · rename_i cfg' hcfg
    split at h
    · repeat' split at h
      all_goals exact absurd h (by simp)
    · split at h
      · rename_i code' state _ hstate
        split at h
        · exact absurd h (by simp)
        · rename_i key hkey
          split at h
          · exact absurd h (by simp [httpText])
          · exact absurd h (by simp [httpText])
          · exact absurd h (by simp)
          · rename_i claims' hgate
            obtain ⟨rfl, rfl, rfl⟩ := loadSaga.inj h
            exact ⟨hcfg, key, state, hkey, hstate, hgate⟩
      · exact absurd h (by simp [httpText])

/-- The lookup comes first. -/
theorem enter_of_step (h : step srv req env w pc = some (w', .loadSaga cfg code claims)) :
    pc = .start ∧ enter srv req w.now = .loadSaga cfg code claims := by
  have hlt : 8 < pc.rank := rank_lt_of_step h
  cases pc with
  | start => exact ⟨rfl, (Prod.mk.inj (Option.some.inj h)).2⟩
  | _ => exact absurd hlt (by simp [rank])

/-- The saga that is found carries the nonce of the claims. -/
theorem nonce_of_checkSaga (h : checkSaga w cfg code claims = .consume ref) :
    claims.nonce.toString? = some ref.nonce := by
  rw [checkSaga] at h
  split at h
  · exact absurd h (by simp)
  · rename_i nonce hnonce
    split at h
    · exact absurd h (by simp [httpText])
    · split at h
      · exact absurd h (by simp [httpText])
      · split at h
        · exact absurd h (by simp [httpText])
        · obtain rfl := consume.inj h
          exact hnonce

/-- A new claim comes from the lookup. -/
theorem claim_of_step (h : step srv req env w pc = some (w', pc')) : ∀ ref ∈ pc'.claim,
    ref ∈ pc.claim ∨ ∃ cfg code claims, pc = .loadSaga cfg code claims ∧
      checkSaga w cfg code claims = .consume ref := by
  intro ref href
  cases effect_of_step h with
  | idle hpc hpc' => exact absurd (hpc'.symm.trans href) (by simp)
  | dropped ref' hpc' => exact absurd (hpc'.symm.trans href) (by simp)
  | gaveUp ref' hpc hpc' => exact absurd (hpc'.symm.trans href) (by simp)
  | found cfg code claims ref' s hs hnonce =>
    obtain rfl : ref' = ref := Option.some.inj href
    simp only [step] at h
    split at h
    · exact absurd h (by simp)
    · exact .inr ⟨cfg, code, claims, rfl, (Prod.mk.inj (Option.some.inj h)).2⟩
  | failed | finalized | compensateFailed | compensated =>
    exact absurd href (by simp [claim, owner])
  | consumed | exchanged | persisted | linked | linkFailed | finalizeFailed | deleted =>
    exact .inl href

/-- **A call follows the consumption of a nonce bound to the saga's tenant.** -/
theorem consume_of_step (h : step srv req env w pc = some (w', .exchange ref)) :
    pc = .consume ref ∧ w.redis.get w.now (nonceKey ref.nonce) = some ref.tenantId ∧
      w' = w.dropNonce ref.nonce := by
  have hlt : 6 < pc.rank := rank_lt_of_step h
  have hclaim : claim (.exchange ref) = some ref := rfl
  cases pc with
  | start =>
    have henter : enter srv req w.now = .exchange ref := (Prod.mk.inj (Option.some.inj h)).2
    have hnone : (enter srv req w.now).claim = none := claim_enter req w.now
    rw [henter, hclaim] at hnone
    exact absurd hnone (by simp)
  | loadSaga cfg code claims =>
    simp only [step] at h
    split at h
    · exact absurd h (by simp)
    · have hcheck : checkSaga w cfg code claims = .exchange ref :=
        (Prod.mk.inj (Option.some.inj h)).2
      rcases claim_checkSaga w cfg code claims with hnone | ⟨ref', href'⟩
      · rw [hcheck, hclaim] at hnone
        exact absurd hnone (by simp)
      · exact absurd (href'.symm.trans hcheck) (by simp)
  | consume ref' =>
    simp only [step] at h
    split at h
    · split at h
      · exact absurd h (by simp)
      · obtain ⟨rfl, hcheck⟩ := Prod.mk.inj (Option.some.inj h)
        unfold checkNonce at hcheck
        split at hcheck
        · exact absurd hcheck (by simp)
        · rename_i tenant hget
          split at hcheck
          · rename_i htenant
            obtain rfl := exchange.inj hcheck
            exact ⟨rfl, htenant ▸ hget, rfl⟩
          · exact absurd hcheck (by simp)
    · exact absurd h (by simp)
  | _ => exact absurd hlt (by simp [rank])

end CallbackPc

namespace OAuth

open TransitionSystem

/-! ### One action, seen from a handler and from the stores -/

section Step

variable {srv : Server} {P Q : OAuthState} {a : OAuthAction} {i : ℕ}

/-- Where a handler of the next state comes from: it has not moved, it has just arrived, or it has
made the step. -/
theorem handler_of_step (hstep : (system srv).step P a = some Q) {h' : Handler}
    (hq : Q.procs[i]? = some h') :
    P.procs[i]? = some h' ∨
      (Q.store = P.store ∧ i = P.procs.length ∧
        ((∃ req env, h' = .callback req env .start) ∨
          ∃ req env, h' = .initiate req env .start ∧ Fresh P env)) ∨
      ∃ h, P.procs[i]? = some h ∧ h.step srv P.store = some (Q.store, h') := by
  have hspawn : ∀ h : Handler, Q = P.spawn P.store [h] →
      P.procs[i]? = some h' ∨ (Q.store = P.store ∧ i = P.procs.length ∧ h' = h) := by
    rintro h rfl
    rcases ProcessPool.getElem?_append_cases hq with ⟨-, hold⟩ | ⟨hle, hnew⟩
    · exact .inl hold
    · obtain ⟨hlt, hget⟩ := List.getElem?_eq_some_iff.1 hnew
      rw [List.length_singleton] at hlt
      rw [List.getElem_singleton] at hget
      exact .inr ⟨rfl, by omega, hget.symm⟩
  cases a with
  | tick elapsed =>
    obtain rfl := Option.some.inj hstep
    exact .inl hq
  | callback req env =>
    rcases hspawn _ (Option.some.inj hstep).symm with hold | ⟨hstore, hi, rfl⟩
    · exact .inl hold
    · exact .inr (.inl ⟨hstore, hi, .inl ⟨req, env, rfl⟩⟩)
  | initiate req env =>
    obtain ⟨hfresh, hQ⟩ := step_initiate_eq_some.1 hstep
    rcases hspawn _ hQ with hold | ⟨hstore, hi, rfl⟩
    · exact .inl hold
    · exact .inr (.inl ⟨hstore, hi, .inr ⟨req, env, rfl, hfresh⟩⟩)
  | step j =>
    obtain ⟨p, w', q, hp, hnext, rfl⟩ := ProcessPool.advance_eq_some.1 hstep
    rcases ProcessPool.getElem?_set_cases hq with ⟨rfl, rfl⟩ | ⟨-, hold⟩
    · exact .inr (.inr ⟨p, hp, hnext⟩)
    · exact .inl hold

/-- What becomes of the stores: nothing, the clock apart, or what one handler does. -/
theorem store_of_step (hstep : (system srv).step P a = some Q) :
    (Q.store.redis = P.store.redis ∧ Q.store.sagas = P.store.sagas) ∨
      ∃ (j : ℕ) (h h' : Handler), P.procs[j]? = some h ∧ Q.procs[j]? = some h' ∧
        h.step srv P.store = some (Q.store, h') := by
  cases a with
  | tick elapsed =>
    obtain rfl := Option.some.inj hstep
    exact .inl ⟨rfl, rfl⟩
  | callback req env =>
    obtain rfl := Option.some.inj hstep
    exact .inl ⟨rfl, rfl⟩
  | initiate req env =>
    obtain ⟨-, rfl⟩ := step_initiate_eq_some.1 hstep
    exact .inl ⟨rfl, rfl⟩
  | step j =>
    obtain ⟨p, w', q, hp, hnext, rfl⟩ := ProcessPool.advance_eq_some.1 hstep
    have hlt : j < P.procs.length := (List.getElem?_eq_some_iff.1 hp).1
    exact .inr ⟨j, p, q, hp, List.getElem?_set_self hlt, hnext⟩

/-- An initiation stays, with what it has drawn. -/
theorem initiation_of_step (hstep : (system srv).step P a = some Q) {req : InitiateRequest}
    {env : InitiateEnv} {pc : InitiatePc} (hp : P.procs[i]? = some (.initiate req env pc)) :
    ∃ pc', Q.procs[i]? = some (.initiate req env pc') ∧
      (pc'.unregistered → pc.unregistered) := by
  have hlt : i < P.procs.length := (List.getElem?_eq_some_iff.1 hp).1
  have hspawn : ∀ h : Handler, Q = P.spawn P.store [h] →
      Q.procs[i]? = some (.initiate req env pc) := by
    rintro h rfl
    exact (List.getElem?_append_left hlt).trans hp
  cases a with
  | tick elapsed =>
    obtain rfl := Option.some.inj hstep
    exact ⟨pc, hp, id⟩
  | callback req' env' => exact ⟨pc, hspawn _ (Option.some.inj hstep).symm, id⟩
  | initiate req' env' => exact ⟨pc, hspawn _ (step_initiate_eq_some.1 hstep).2, id⟩
  | step j =>
    obtain ⟨p, w', q, hp', hnext, rfl⟩ := ProcessPool.advance_eq_some.1 hstep
    rcases eq_or_ne j i with rfl | hne
    · obtain rfl := Option.some.inj (hp'.symm.trans hp)
      obtain ⟨⟨w₁, pc'⟩, hpc, heq⟩ := Option.map_eq_some_iff.1 hnext
      obtain ⟨rfl, rfl⟩ := Prod.mk.inj heq
      exact ⟨pc', List.getElem?_set_self hlt, (InitiatePc.effect_of_step hpc).mono.2⟩
    · exact ⟨pc, (List.getElem?_set_ne hne).trans hp, id⟩

/-- Only a registration writes a nonce, and with it the initiation has registered. -/
theorem entries_of_step (hstep : (system srv).step P a = some Q) {k : String}
    (h : P.store.redis.entries k = none) :
    Q.store.redis.entries k = none ∨ ∃ (j : ℕ) (req : InitiateRequest) (env : InitiateEnv)
      (pc pc' : InitiatePc), P.procs[j]? = some (.initiate req env pc) ∧
        Q.procs[j]? = some (.initiate req env pc') ∧ pc.unregistered ∧
        pc'.unregistered = false ∧ k = nonceKey env.nonce := by
  rcases store_of_step hstep with ⟨hredis, -⟩ | ⟨j, p, q, hp, hq, hnext⟩
  · exact .inl (hredis ▸ h)
  · rcases effect_of_handler_step hnext with
      ⟨req, env, pc, pc', rfl, rfl, heff⟩ | ⟨req, env, pc, pc', rfl, rfl, heff⟩
    · by_cases hreg : pc.unregistered ∧ pc'.unregistered = false ∧ k = nonceKey env.nonce
      · exact .inr ⟨j, req, env, pc, pc', hp, hq, hreg⟩
      · left
        generalize Q.store = w' at heff ⊢
        cases heff with
        | idle | dropped => exact h
        | inserted hpc hpc' row w'' hid hnonce hst hptr hins =>
          obtain ⟨sagas, -, rfl⟩ := Option.map_eq_some_iff.1 hins
          exact h
        | registered hpc hpc' tenantId w'' hset =>
          have hne : k ≠ nonceKey env.nonce := fun hk ↦ hreg ⟨hpc, hpc', hk⟩
          exact (InitiatePc.Effect.registered hpc hpc' tenantId w' hset).entries h fun _ ↦ hne
    · exact .inl (heff.entries h)

/-- A saga row keeps its nonce; a new one has the id and the nonce of its initiation. -/
theorem saga_of_step (hstep : (system srv).step P a = some Q) {sagaId : String} {s' : OAuthSaga}
    (hs' : Q.store.sagas.find? sagaId = some s') :
    (∃ s, P.store.sagas.find? sagaId = some s ∧ s'.stateNonce = s.stateNonce) ∨
      ∃ (j : ℕ) (req : InitiateRequest) (env : InitiateEnv) (pc : InitiatePc),
        P.procs[j]? = some (.initiate req env pc) ∧ env.sagaId = sagaId ∧
          env.nonce = s'.stateNonce := by
  rcases store_of_step hstep with ⟨-, hsagas⟩ | ⟨j, p, q, hp, -, hnext⟩
  · exact .inl ⟨s', hsagas ▸ hs', rfl⟩
  · rcases effect_of_handler_step hnext with
      ⟨req, env, pc, pc', rfl, rfl, heff⟩ | ⟨req, env, pc, pc', rfl, rfl, heff⟩
    · rcases heff.saga hs' with hold | ⟨-, hid, -, hnonce, -⟩
      · exact .inl ⟨s', hold, rfl⟩
      · exact .inr ⟨j, req, env, pc, hp, hid.symm, hnonce.symm⟩
    · obtain ⟨s, hs, hnonce, -⟩ := heff.saga hs'
      exact .inl ⟨s, hs, hnonce⟩

/-- What an action that calls has done. -/
theorem exchangeCall_eq_some (hstep : (system srv).step P a = some Q) {c : ExchangeCall}
    (hc : exchangeCall srv P a = some c) :
    (∃ env, P.procs[c.caller]? = some (.callback c.req env (.consume c.ref))) ∧
      P.store.redis.get P.store.now (nonceKey c.ref.nonce) = some c.ref.tenantId ∧
      c.binding = some c.ref.tenantId ∧ Q.store = P.store.dropNonce c.ref.nonce := by
  cases a with
  | step i =>
    obtain ⟨p, w', q, hp, hnext, rfl⟩ := ProcessPool.advance_eq_some.1 hstep
    obtain ⟨h, hh, hcall⟩ := Option.bind_eq_some_iff.1 hc
    obtain rfl : p = h := Option.some.inj (hp.symm.trans hh)
    cases p with
    | initiate req env pc => exact absurd hcall (by simp [Handler.exchangeCall])
    | callback req env pc =>
      obtain ⟨next, hpc, hnext'⟩ := Option.bind_eq_some_iff.1 hcall
      obtain ⟨ref, href, rfl⟩ := Option.map_eq_some_iff.1 hnext'
      obtain ⟨w₁, pc'⟩ := next
      obtain rfl := CallbackPc.eq_exchange_of_exchanging href
      obtain ⟨rfl, hget, rfl⟩ := CallbackPc.consume_of_step hpc
      obtain ⟨r, hr, heq⟩ := Option.map_eq_some_iff.1 hnext
      obtain rfl := Option.some.inj (hpc.symm.trans hr)
      exact ⟨⟨env, hp⟩, hget, hget, (Prod.mk.inj heq).1.symm⟩
  | tick | initiate | callback => exact absurd hc (by simp [exchangeCall])

end Step

/-! ### What stands behind a call -/

section Vouched

variable (srv : Server) (now : Time) (as : List OAuthAction) (i : ℕ) (req : CallbackRequest)

/-- Callback `i` has verified its state, and these are the claims. -/
def HasVerified (claims : StateClaims) : Prop :=
  ∃ key state, srv.stateKey = .ok key ∧ truthy req.state = some state ∧
    (system srv).Visits (fun P ↦ (∃ env, P.procs[i]? = some (.callback req env .start)) ∧
      srv.lib.gate key (.ofString state) P.store.now = some (.ok claims)) (initial now) as

/-- Callback `i` has read this row of `oauth_sagas`. -/
def HasLoaded (saga : OAuthSaga) : Prop :=
  (system srv).Visits (fun P ↦
    (∃ env cfg code claims, P.procs[i]? = some (.callback req env (.loadSaga cfg code claims))) ∧
      P.store.sagas.find? saga.id = some saga) (initial now) as

/-- The claims that callback `i` has verified and the saga that it has read name the tenant and the
nonce of `ref`, and the provider of the URL is the saga's. -/
structure Vouched (ref : SagaRef) : Prop where
  claims : ∃ claims, HasVerified srv now as i req claims ∧
    claims.tenantId = .ofString ref.tenantId ∧ claims.nonce.toString? = some ref.nonce
  saga : ∃ saga cfg, HasLoaded srv now as i req saga ∧ getProvider req.provider = some cfg ∧
    saga.id = ref.sagaId ∧ saga.tenantId = ref.tenantId ∧ saga.stateNonce = ref.nonce ∧
    saga.provider = cfg.name ∧ ref.provider = cfg.name

/-- What a callback at an await has behind it. -/
structure Backed (pc : CallbackPc) : Prop where
  verified : ∀ cfg code claims, pc = .loadSaga cfg code claims →
    getProvider req.provider = some cfg ∧ HasVerified srv now as i req claims
  vouched : ∀ ref ∈ pc.claim, Vouched srv now as i req ref

variable {srv now as i req} {bs : List OAuthAction}

theorem Vouched.append {ref : SagaRef} (h : Vouched srv now as i req ref) :
    Vouched srv now (as ++ bs) i req ref := by
  obtain ⟨⟨claims, ⟨key, state, hkey, hstate, hvisit⟩, hclaims⟩, ⟨saga, cfg, hload, hsaga⟩⟩ := h
  exact ⟨⟨claims, ⟨key, state, hkey, hstate, hvisit.append⟩, hclaims⟩,
    ⟨saga, cfg, Visits.append hload, hsaga⟩⟩

theorem Backed.append {pc : CallbackPc} (h : Backed srv now as i req pc) :
    Backed srv now (as ++ bs) i req pc := by
  refine ⟨fun cfg code claims hpc ↦ ?_, fun ref href ↦ (h.vouched ref href).append⟩
  obtain ⟨hcfg, key, state, hkey, hstate, hvisit⟩ := h.verified cfg code claims hpc
  exact ⟨hcfg, key, state, hkey, hstate, hvisit.append⟩

theorem Backed.start : Backed srv now as i req .start :=
  ⟨fun _ _ _ hpc ↦ absurd hpc (by simp),
    fun _ href ↦ absurd href (by simp [CallbackPc.claim, CallbackPc.owner])⟩

/-- **A step of a callback keeps what stands behind it.** -/
theorem Backed.step {P : OAuthState} {env : CallbackEnv} {pc pc' : CallbackPc} {w' : OAuthWorld}
    (hrun : (system srv).run (initial now) as = some P)
    (hp : P.procs[i]? = some (.callback req env pc)) (h : Backed srv now as i req pc)
    (hstep : pc.step srv req env P.store = some (w', pc')) : Backed srv now as i req pc' := by
  refine ⟨fun cfg code claims hpc' ↦ ?_, fun ref href ↦ ?_⟩
  · subst hpc'
    obtain ⟨rfl, henter⟩ := CallbackPc.enter_of_step hstep
    obtain ⟨hcfg, key, state, hkey, hstate, hgate⟩ := CallbackPc.enter_eq_loadSaga henter
    exact ⟨hcfg, key, state, hkey, hstate, Visits.of_run hrun ⟨⟨env, hp⟩, hgate⟩⟩
  · rcases CallbackPc.claim_of_step hstep ref href with hold | ⟨cfg, code, claims, rfl, hcheck⟩
    · exact h.vouched ref hold
    · obtain ⟨saga, hfind, hnonce, -, hclaims, htenant, hsaga, href'⟩ :=
        CallbackPc.checkSaga_eq_consume hcheck
      obtain ⟨hcfg, hverified⟩ := h.verified cfg code claims rfl
      have hid : saga.id = ref.sagaId := (KeyedTable.find?_eq_some_iff.1 hfind).2
      exact ⟨⟨claims, hverified, hclaims, CallbackPc.nonce_of_checkSaga hcheck⟩,
        ⟨saga, cfg, Visits.of_run hrun ⟨⟨env, cfg, code, claims, hp⟩, hid ▸ hfind⟩, hcfg, hid,
          htenant, hnonce, hsaga, href'⟩⟩

end Vouched

/-! ### The invariant -/

/-- The saga id and the nonce have been drawn together by one initiation. -/
def Issued (P : OAuthState) (sagaId nonce : String) : Prop :=
  ∃ (j : ℕ) (req : InitiateRequest) (env : InitiateEnv) (pc : InitiatePc),
    P.procs[j]? = some (.initiate req env pc) ∧ env.sagaId = sagaId ∧ env.nonce = nonce

/-- The nonce of the saga is gone, and its initiation does not register it any more. -/
def Spent (P : OAuthState) (sagaId nonce : String) : Prop :=
  P.store.redis.entries (nonceKey nonce) = none ∧
    ∃ (j : ℕ) (req : InitiateRequest) (env : InitiateEnv) (pc : InitiatePc),
      P.procs[j]? = some (.initiate req env pc) ∧ env.sagaId = sagaId ∧ env.nonce = nonce ∧
        pc.unregistered = false

/-- **The invariant**, over the calls made so far. -/
structure Sieve (calls : List ExchangeCall) (P : OAuthState) : Prop where
  /-- What an initiation draws is new. -/
  apart : ∀ (i j : ℕ) req req' env env' pc pc', P.procs[i]? = some (.initiate req env pc) →
    P.procs[j]? = some (.initiate req' env' pc') →
    env.sagaId = env'.sagaId ∨ env.nonce = env'.nonce → i = j
  /-- Nothing stands under the nonce of an initiation that has not registered. -/
  unregistered : ∀ (i : ℕ) req env pc, P.procs[i]? = some (.initiate req env pc) →
    pc.unregistered → P.store.redis.entries (nonceKey env.nonce) = none
  /-- Every saga has been issued. -/
  rows : ∀ sagaId s, P.store.sagas.find? sagaId = some s → Issued P sagaId s.stateNonce
  /-- Every saga that a callback has found has been issued. -/
  claims : ∀ (i : ℕ) req env pc, P.procs[i]? = some (.callback req env pc) →
    ∀ ref ∈ pc.claim, Issued P ref.sagaId ref.nonce
  /-- The saga of a call is spent. -/
  spent : ∀ c ∈ calls, Spent P c.ref.sagaId c.ref.nonce
  /-- No saga has two calls. -/
  once : (calls.map fun c ↦ c.ref.sagaId).Nodup

section Sieve

variable {srv : Server} {P Q : OAuthState} {a : OAuthAction} {calls : List ExchangeCall}
  {sagaId nonce : String}

/-- What has been issued stays issued. -/
theorem Issued.step (h : Issued P sagaId nonce) (hstep : (system srv).step P a = some Q) :
    Issued Q sagaId nonce := by
  obtain ⟨j, req, env, pc, hj, hid, hnonce⟩ := h
  obtain ⟨pc', hj', -⟩ := initiation_of_step hstep hj
  exact ⟨j, req, env, pc', hj', hid, hnonce⟩

/-- A saga id and a nonce of one initiation: who has the same saga id has the same nonce. -/
theorem Sieve.nonce_eq (hinv : Sieve calls P) {nonce' : String} (h : Issued P sagaId nonce)
    (h' : Issued P sagaId nonce') : nonce = nonce' := by
  obtain ⟨i, req, env, pc, hi, hid, rfl⟩ := h
  obtain ⟨j, req', env', pc', hj, hid', rfl⟩ := h'
  obtain rfl := hinv.apart i j _ _ _ _ _ _ hi hj (.inl (hid.trans hid'.symm))
  obtain ⟨-, rfl, -⟩ := Handler.initiate.inj (Option.some.inj (hi.symm.trans hj))
  rfl

/-- Nothing is written under a spent nonce. -/
theorem Spent.step (hinv : Sieve calls P) (h : Spent P sagaId nonce)
    (hstep : (system srv).step P a = some Q) : Spent Q sagaId nonce := by
  obtain ⟨hnone, j, req, env, pc, hj, hid, rfl, hreg⟩ := h
  obtain ⟨pc', hj', hmono⟩ := initiation_of_step hstep hj
  have hreg' : pc'.unregistered = false :=
    Bool.eq_false_iff.2 fun hu ↦ absurd (hreg.symm.trans (hmono hu)) (by simp)
  refine ⟨?_, j, req, env, pc', hj', hid, rfl, hreg'⟩
  rcases entries_of_step hstep hnone with hstill | ⟨k, req₁, env₁, pc₁, _, hk, -, hu, -, hkey⟩
  · exact hstill
  · -- The writer would have drawn the same nonce.
    obtain rfl := hinv.apart j k _ _ _ _ _ _ hj hk (.inr (nonceKey_injective hkey))
    obtain ⟨-, -, rfl⟩ := Handler.initiate.inj (Option.some.inj (hj.symm.trans hk))
    exact absurd (hreg.symm.trans hu) (by simp)

/-- What has arrived has drawn new names; everybody else is who he was. -/
theorem Sieve.apart_step (hinv : Sieve calls P) (hstep : (system srv).step P a = some Q) :
    ∀ (i j : ℕ) req req' env env' pc pc', Q.procs[i]? = some (.initiate req env pc) →
      Q.procs[j]? = some (.initiate req' env' pc') →
      env.sagaId = env'.sagaId ∨ env.nonce = env'.nonce → i = j := by
  have hcome : ∀ (i : ℕ) req env pc, Q.procs[i]? = some (.initiate req env pc) →
      (∃ pc₀, P.procs[i]? = some (.initiate req env pc₀)) ∨
        (i = P.procs.length ∧ Fresh P env) := by
    intro i req env pc hi
    rcases handler_of_step hstep hi with hold | ⟨-, hlen, hnew⟩ | ⟨h, hh, hnext⟩
    · exact .inl ⟨pc, hold⟩
    · rcases hnew with ⟨req', env', heq⟩ | ⟨req', env', heq, hfresh⟩
      · exact absurd heq (by simp)
      · obtain ⟨-, rfl, -⟩ := Handler.initiate.inj heq
        exact .inr ⟨hlen, hfresh⟩
    · rcases effect_of_handler_step hnext with
        ⟨req', env', pc₀, pc', rfl, heq, -⟩ | ⟨req', env', pc₀, pc', -, heq, -⟩
      · obtain ⟨rfl, rfl, -⟩ := Handler.initiate.inj heq
        exact .inl ⟨pc₀, hh⟩
      · exact absurd heq (by simp)
  have havoid : ∀ {env env' : InitiateEnv} {req pc} {j : ℕ}, Fresh P env →
      P.procs[j]? = some (.initiate req env' pc) →
      ¬(env.sagaId = env'.sagaId ∨ env.nonce = env'.nonce) := by
    intro env env' req pc j hfresh hj hsame
    obtain ⟨hid, hnonce⟩ : env'.sagaId ≠ env.sagaId ∧ env'.nonce ≠ env.nonce :=
      hfresh.procs _ (List.mem_of_getElem? hj)
    exact hsame.elim (fun h ↦ hid h.symm) fun h ↦ hnonce h.symm
  intro i j req req' env env' pc pc' hi hj hsame
  rcases hcome i req env pc hi with ⟨pc₀, hi₀⟩ | ⟨hlen, hfresh⟩
  · rcases hcome j req' env' pc' hj with ⟨pc₀', hj₀⟩ | ⟨-, hfresh'⟩
    · exact hinv.apart i j _ _ _ _ _ _ hi₀ hj₀ hsame
    · exact absurd (hsame.imp Eq.symm Eq.symm) (havoid hfresh' hi₀)
  · rcases hcome j req' env' pc' hj with ⟨pc₀', hj₀⟩ | ⟨hlen', -⟩
    · exact absurd hsame (havoid hfresh hj₀)
    · exact hlen.trans hlen'.symm

/-- The nonce of an initiation that has not registered stays unwritten. -/
theorem Sieve.unregistered_step (hinv : Sieve calls P) (hstep : (system srv).step P a = some Q) :
    ∀ (i : ℕ) req env pc, Q.procs[i]? = some (.initiate req env pc) → pc.unregistered →
      Q.store.redis.entries (nonceKey env.nonce) = none := by
  intro i req env pc hi hu
  have hkept : P.store.redis.entries (nonceKey env.nonce) = none →
      Q.store.redis.entries (nonceKey env.nonce) = none := by
    intro hnone
    rcases entries_of_step hstep hnone with hstill | ⟨j, req', env', _, pc', -, hj, -, hreg, hkey⟩
    · exact hstill
    · obtain rfl := hinv.apart_step hstep i j _ _ _ _ _ _ hi hj (.inr (nonceKey_injective hkey))
      obtain ⟨-, -, rfl⟩ := Handler.initiate.inj (Option.some.inj (hi.symm.trans hj))
      exact absurd (hreg.symm.trans hu) (by simp)
  refine hkept ?_
  rcases handler_of_step hstep hi with hold | ⟨-, -, hnew⟩ | ⟨h, hh, hnext⟩
  · exact hinv.unregistered i req env pc hold hu
  · rcases hnew with ⟨req', env', heq⟩ | ⟨req', env', heq, hfresh⟩
    · exact absurd heq (by simp)
    · obtain ⟨-, rfl, -⟩ := Handler.initiate.inj heq
      exact hfresh.redis
  · rcases effect_of_handler_step hnext with
      ⟨req', env', pc₀, pc', rfl, heq, heff⟩ | ⟨req', env', pc₀, pc', -, heq, -⟩
    · obtain ⟨rfl, rfl, rfl⟩ := Handler.initiate.inj heq
      exact hinv.unregistered i _ _ pc₀ hh (heff.mono.2 hu)
    · exact absurd heq (by simp)

/-- A callback's saga has been issued. -/
theorem Sieve.claims_step (hinv : Sieve calls P) (hstep : (system srv).step P a = some Q) :
    ∀ (i : ℕ) req env pc, Q.procs[i]? = some (.callback req env pc) →
      ∀ ref ∈ pc.claim, Issued Q ref.sagaId ref.nonce := by
  intro i req env pc hi ref href
  refine Issued.step (P := P) ?_ hstep
  rcases handler_of_step hstep hi with hold | ⟨-, -, hnew⟩ | ⟨h, hh, hnext⟩
  · exact hinv.claims i req env pc hold ref href
  · rcases hnew with ⟨req', env', heq⟩ | ⟨req', env', heq, -⟩
    · obtain ⟨-, -, rfl⟩ := Handler.callback.inj heq
      exact absurd href (by simp [CallbackPc.claim, CallbackPc.owner])
    · exact absurd heq (by simp)
  · rcases effect_of_handler_step hnext with
      ⟨req', env', pc₀, pc', -, heq, -⟩ | ⟨req', env', pc₀, pc', rfl, heq, heff⟩
    · exact absurd heq (by simp)
    · obtain ⟨rfl, rfl, rfl⟩ := Handler.callback.inj heq
      rcases heff.claim ref href with hold | ⟨s, hs, hnonce⟩
      · exact hinv.claims i _ _ pc₀ hh ref hold
      · exact hnonce ▸ hinv.rows ref.sagaId s hs

/-- **The step lemma.** -/
theorem Sieve.step (hinv : Sieve calls P) (hstep : (system srv).step P a = some Q) :
    Sieve (calls ++ (exchangeCall srv P a).toList) Q := by
  have hcall : ∀ c, exchangeCall srv P a = some c →
      Spent Q c.ref.sagaId c.ref.nonce ∧ c.ref.sagaId ∉ calls.map fun c ↦ c.ref.sagaId := by
    intro c hc
    obtain ⟨⟨env, hp⟩, hget, -, hstore⟩ := exchangeCall_eq_some hstep hc
    have hlive : P.store.redis.entries (nonceKey c.ref.nonce) ≠ none := fun hnone ↦ by
      rw [ExpiringStore.get, hnone] at hget
      exact absurd hget (by simp)
    have hissued : Issued P c.ref.sagaId c.ref.nonce := hinv.claims _ _ _ _ hp c.ref rfl
    constructor
    · obtain ⟨j, req, env', pc, hj, hid, hnonce⟩ := hissued
      obtain ⟨pc', hj', hmono⟩ := initiation_of_step hstep hj
      refine ⟨?_, j, req, env', pc', hj', hid, hnonce, Bool.eq_false_iff.2 fun hu ↦ ?_⟩
      · rw [hstore, OAuthWorld.dropNonce, ExpiringStore.entries_delete, if_pos rfl]
      · exact hlive (hnonce ▸ hinv.unregistered j req env' pc hj (hmono hu))
    · -- An earlier call has spent the nonce that this one has found alive.
      intro hmem
      obtain ⟨c₀, hc₀, hsame⟩ := List.mem_map.1 hmem
      obtain ⟨hnone, j, req, env', pc, hj, hid, hnonce, -⟩ := hinv.spent c₀ hc₀
      have hissued₀ : Issued P c.ref.sagaId c₀.ref.nonce :=
        ⟨j, req, env', pc, hj, hid.trans hsame, hnonce⟩
      exact hlive (hinv.nonce_eq hissued hissued₀ ▸ hnone)
  refine ⟨hinv.apart_step hstep, hinv.unregistered_step hstep, fun sagaId s' hs' ↦ ?_,
    hinv.claims_step hstep, fun c hc ↦ ?_, ?_⟩
  · refine Issued.step (P := P) ?_ hstep
    rcases saga_of_step hstep hs' with ⟨s, hs, hnonce⟩ | ⟨j, req, env, pc, hj, hid, hnonce⟩
    · exact hnonce ▸ hinv.rows sagaId s hs
    · exact ⟨j, req, env, pc, hj, hid, hnonce⟩
  · rcases List.mem_append.1 hc with hold | hnew
    · exact (hinv.spent c hold).step hinv hstep
    · exact (hcall c (Option.mem_toList.1 hnew)).1
  · rcases hc : exchangeCall srv P a with - | c
    · rw [Option.toList_none, List.append_nil]
      exact hinv.once
    · rw [Option.toList_some, List.map_append, List.map_singleton]
      refine hinv.once.append (List.nodup_singleton _) fun sagaId hold hnew ↦ ?_
      obtain rfl := List.mem_singleton.1 hnew
      exact (hcall c hc).2 hold

theorem Sieve.initial (now : Time) : Sieve [] (initial now) := by
  refine ⟨fun i j _ _ _ _ _ _ hi ↦ ?_, fun i _ _ _ hi ↦ ?_, fun sagaId s hs ↦ ?_,
    fun i _ _ _ hi ↦ ?_, fun c hc ↦ absurd hc List.not_mem_nil, List.nodup_nil⟩
  · exact absurd hi (by simp [OAuth.initial])
  · exact absurd hi (by simp [OAuth.initial])
  · have hnone : (OAuth.initial now).store.sagas.find? sagaId = none := rfl
    exact absurd (hnone.symm.trans hs) (by simp)
  · exact absurd hi (by simp [OAuth.initial])

end Sieve

/-! ### The law -/

section Law

variable {srv : Server} {now : Time} {as : List OAuthAction} {P : OAuthState}

theorem sieve_of_run (hrun : (system srv).run (initial now) as = some P) :
    Sieve (exchanges srv now as) P := by
  refine history_of_run (J := fun as P ↦ Sieve (exchanges srv now as) P) (Sieve.initial now)
    (fun as a u t hu hinv hstep ↦ ?_) hrun
  have htrace : exchanges srv now (as ++ [a]) =
      exchanges srv now as ++ (exchangeCall srv u a).toList := trace_concat hu hstep
  rw [htrace]
  exact hinv.step hstep

/-- Every callback has behind it what its await needs, and so has every call. -/
theorem backed_of_run (hrun : (system srv).run (initial now) as = some P) :
    (∀ (i : ℕ) req env pc, P.procs[i]? = some (.callback req env pc) →
        Backed srv now as i req pc) ∧
      ∀ c ∈ exchanges srv now as, Vouched srv now as c.caller c.req c.ref ∧
        c.binding = some c.ref.tenantId := by
  refine history_of_run (J := fun as P ↦
    (∀ (i : ℕ) req env pc, P.procs[i]? = some (.callback req env pc) →
      Backed srv now as i req pc) ∧
    ∀ c ∈ exchanges srv now as, Vouched srv now as c.caller c.req c.ref ∧
      c.binding = some c.ref.tenantId) ⟨fun i _ _ _ hi ↦ ?_, fun c hc ↦ ?_⟩
    (fun as a u t hu hinv hstep ↦ ⟨fun i req env pc hi ↦ ?_, fun c hc ↦ ?_⟩) hrun
  · exact absurd hi (by simp [initial])
  · exact absurd hc List.not_mem_nil
  · rcases handler_of_step hstep hi with hold | ⟨-, -, hnew⟩ | ⟨h, hh, hnext⟩
    · exact (hinv.1 i req env pc hold).append
    · rcases hnew with ⟨req', env', heq⟩ | ⟨req', env', heq, -⟩
      · obtain ⟨-, -, rfl⟩ := Handler.callback.inj heq
        exact Backed.start
      · exact absurd heq (by simp)
    · cases h with
      | initiate req' env' pc' =>
        obtain ⟨r, -, heq⟩ := Option.map_eq_some_iff.1 hnext
        exact absurd (Prod.mk.inj heq).2 (by simp)
      | callback req' env' pc' =>
        obtain ⟨r, hr, heq⟩ := Option.map_eq_some_iff.1 hnext
        obtain ⟨rfl, rfl, rfl⟩ := Handler.callback.inj (Prod.mk.inj heq).2
        exact ((hinv.1 i _ _ pc' hh).step hu hh hr).append
  · rw [exchanges, trace_concat hu hstep] at hc
    rcases List.mem_append.1 hc with hold | hnew
    · exact ⟨(hinv.2 c hold).1.append, (hinv.2 c hold).2⟩
    · obtain ⟨⟨env, hp⟩, -, hbinding, -⟩ := exchangeCall_eq_some hstep (Option.mem_toList.1 hnew)
      exact ⟨((hinv.1 _ _ _ _ hp).vouched c.ref rfl).append, hbinding⟩

/-- **At most one code exchange per saga.** On every run, the calls of `_exchange_code` are for
different sagas, and the verified claims, the consumed nonce binding and the saga row of each name
one tenant, with the provider of the URL. -/
theorem exchange_once (hrun : (system srv).run (initial now) as = some P) :
    ((exchanges srv now as).map fun c ↦ c.ref.sagaId).Nodup ∧
      ∀ c ∈ exchanges srv now as, Vouched srv now as c.caller c.req c.ref ∧
        c.binding = some c.ref.tenantId :=
  ⟨(sieve_of_run hrun).once, (backed_of_run hrun).2⟩

/-- Two callbacks with one state make one call. -/
theorem exchange_once_example :
    ((exchanges demoServer 0 duplicateCallback).map fun c ↦ c.ref.sagaId) = ["s1"] ∧
      ∀ c ∈ exchanges demoServer 0 duplicateCallback,
        Vouched demoServer 0 duplicateCallback c.caller c.req c.ref ∧
          c.binding = some c.ref.tenantId := by
  refine ⟨by decide +kernel, ?_⟩
  have hsome : ((system demoServer).run (initial 0) duplicateCallback).isSome := by decide +kernel
  obtain ⟨P, hrun⟩ := Option.isSome_iff_exists.1 hsome
  exact (exchange_once hrun).2

end Law

end OAuth

end Siyadah
