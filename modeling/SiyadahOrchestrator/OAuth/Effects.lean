import SiyadahOrchestrator.OAuth.Initiate

/-!
# What one step of a handler can do

The two handlers, seen from the stores: `CallbackPc.Effect` and `InitiatePc.Effect` have one
constructor for each kind of step, with the guards that the step has passed.
`CallbackPc.effect_of_step` and `InitiatePc.effect_of_step` say that there is no other kind. Proofs
about interleavings split on these relations and never unfold a handler.
-/

namespace Siyadah

namespace CallbackPc

/-- What a step of a callback does, by the world before, the program counters and the world
after. -/
inductive Effect (env : CallbackEnv) (w : OAuthWorld) :
    CallbackPc → OAuthWorld → CallbackPc → Prop
  /-- A step without effect of a callback that owns no saga, and finds none. -/
  | idle {pc pc'} (hpc : pc.owner = none) (hpc' : pc'.claim = none) : Effect env w pc w pc'
  /-- A failure mark. -/
  | failed (report : FailureReport) (answer : CallbackAnswer) :
      Effect env w (.markWrite report true)
        (w.failSaga report.sagaId report.step report.reason) (.done answer)
  /-- The saga of the verified nonce has been found. -/
  | found (cfg : ProviderConfig) (code : String) (claims : StateClaims) (ref : SagaRef)
      (s : OAuthSaga) (hs : w.sagas.find? ref.sagaId = some s) (hnonce : s.stateNonce = ref.nonce) :
      Effect env w (.loadSaga cfg code claims) w (.consume ref)
  /-- The nonce is gone and the callback has failed. -/
  | dropped (ref : SagaRef) {pc'} (hpc' : pc'.claim = none) :
      Effect env w (.consume ref) (w.dropNonce ref.nonce) pc'
  /-- The nonce has been consumed: the callback owns the saga now. -/
  | consumed (ref : SagaRef) (hlive : w.redis.get w.now (nonceKey ref.nonce) ≠ none) :
      Effect env w (.consume ref) (w.dropNonce ref.nonce) (.exchange ref)
  /-- The provider has answered with tokens. -/
  | exchanged (ref : SagaRef) (parsed : ParsedTokenResponse) :
      Effect env w (.exchange ref) w (.persist ref parsed)
  /-- The callback gives its saga up before anything has been stored. -/
  | gaveUp {pc pc'} (ref : SagaRef) (hpc : pc = .exchange ref ∨ ∃ parsed, pc = .persist ref parsed)
      (hpc' : pc'.claim = none) : Effect env w pc w pc'
  /-- The vault row is stored. -/
  | persisted (ref : SagaRef) (parsed : ParsedTokenResponse) (row : EncryptedToken)
      (w' : OAuthWorld) (h : w.persistTokens ref.sagaId row = some w') :
      Effect env w (.persist ref parsed) w' (.createAp ref parsed row.id)
  /-- ActivePieces has accepted the connection. -/
  | linked (ref : SagaRef) (parsed : ParsedTokenResponse) (tokenId apId externalId : String) :
      Effect env w (.createAp ref parsed tokenId)
        (w.createAp ref.sagaId parsed.accessToken env.apId) (.finalize ref tokenId apId externalId)
  /-- The connection is refused, or the answer names no id, or it is lost. -/
  | linkFailed (ref : SagaRef) (parsed : ParsedTokenResponse) (tokenId reason : String)
      (answer : CallbackAnswer)
      (h : ∀ externalId id text, env.createAp = .record externalId id text →
        usableId externalId id = none) :
      Effect env w (.createAp ref parsed tokenId)
        (if env.createAp.applied then w.createAp ref.sagaId parsed.accessToken env.apId else w)
        (.compensate ref tokenId reason answer)
  /-- The saga is `COMPLETED`. -/
  | finalized (ref : SagaRef) (tokenId apId externalId : String) (answer : CallbackAnswer) :
      Effect env w (.finalize ref tokenId apId externalId)
        (w.finalize ref.sagaId tokenId externalId)
        (.done answer)
  /-- The last transaction has failed. -/
  | finalizeFailed (ref : SagaRef) (tokenId apId externalId : String) (e : PyException) :
      Effect env w (.finalize ref tokenId apId externalId) w (.deleteAp ref tokenId apId e)
  /-- The connection is deleted, if the request gets through. -/
  | deleted (ref : SagaRef) (tokenId apId : String) (e : PyException) (reason : String)
      (answer : CallbackAnswer) :
      Effect env w (.deleteAp ref tokenId apId e) (if env.deleteAp then w.deleteAp apId else w)
        (.compensate ref tokenId reason answer)
  /-- The compensation has failed. -/
  | compensateFailed (ref : SagaRef) (tokenId reason : String) (answer answer' : CallbackAnswer)
      (h : env.compensate ≠ none) :
      Effect env w (.compensate ref tokenId reason answer) w (.done answer')
  /-- The saga is `COMPENSATED`. -/
  | compensated (ref : SagaRef) (tokenId reason : String) (answer : CallbackAnswer) :
      Effect env w (.compensate ref tokenId reason answer)
        (w.compensate ref.sagaId tokenId reason) (.done answer)

section Effect

variable {srv : Server} {req : CallbackRequest} {env : CallbackEnv} {w w' : OAuthWorld}
  {pc pc' : CallbackPc} {ref : SagaRef}

theorem claim_of_owner (h : ref ∈ pc.owner) : ref ∈ pc.claim := by
  cases pc <;> first | exact h | exact absurd h (by simp [owner])

theorem owner_eq_none_of_claim (h : pc.claim = none) : pc.owner = none := by
  rcases howner : pc.owner with - | ref
  · rfl
  · exact absurd (h.symm.trans (claim_of_owner howner)) (by simp)

theorem claim_enter (req : CallbackRequest) (now : Time) : (enter srv req now).claim = none := by
  unfold enter
  repeat' split
  all_goals rfl

/-- The check of the saga finds a row of the table, under the verified nonce. -/
theorem checkSaga_eq_consume {cfg : ProviderConfig} {code : String} {claims : StateClaims}
    (h : checkSaga w cfg code claims = .consume ref) :
    ∃ s, w.sagas.find? ref.sagaId = some s ∧ s.stateNonce = ref.nonce ∧ s.status = .initiated ∧
      claims.tenantId = .ofString ref.tenantId ∧ s.tenantId = ref.tenantId ∧
      s.provider = cfg.name ∧ ref.provider = cfg.name := by
  rw [checkSaga] at h
  split at h
  · exact absurd h (by simp)
  · split at h
    · exact absurd h (by simp [httpText])
    · rename_i nonce _ _ saga hnonce
      obtain ⟨hmem, hn⟩ := SagaTable.mem_of_findByNonce hnonce
      split at h
      · exact absurd h (by simp [httpText])
      · rename_i htenant
        split at h
        · exact absurd h (by simp [httpText])
        · rename_i hstatus
          obtain rfl := consume.inj h
          obtain ⟨ht, hp⟩ := not_or.1 htenant
          exact ⟨saga, KeyedTable.find?_eq_some_iff.2 ⟨hmem, rfl⟩, hn, not_not.1 hstatus,
            not_not.1 ht, rfl, not_not.1 hp, rfl⟩

theorem claim_checkSaga (w : OAuthWorld) (cfg : ProviderConfig) (code : String)
    (claims : StateClaims) :
    (checkSaga w cfg code claims).claim = none ∨
      ∃ ref, checkSaga w cfg code claims = .consume ref := by
  unfold checkSaga
  repeat' split
  all_goals first | exact .inl rfl | exact .inr ⟨_, rfl⟩

/-- **There is no other kind of step.** -/
theorem effect_of_step (h : step srv req env w pc = some (w', pc')) : Effect env w pc w' pc' := by
  cases pc with
  | start =>
    obtain ⟨rfl, rfl⟩ := Prod.mk.inj (Option.some.inj h)
    exact .idle rfl (claim_enter req w.now)
  | findSaga cfg error nonce =>
    simp only [step] at h
    split at h
    · obtain ⟨rfl, rfl⟩ := Prod.mk.inj (Option.some.inj h)
      exact .idle rfl rfl
    · split at h <;> obtain ⟨rfl, rfl⟩ := Prod.mk.inj (Option.some.inj h) <;> exact .idle rfl rfl
  | markLoad report =>
    simp only [step] at h
    split at h
    · obtain ⟨rfl, rfl⟩ := Prod.mk.inj (Option.some.inj h)
      exact .idle rfl rfl
    · split at h <;> obtain ⟨rfl, rfl⟩ := Prod.mk.inj (Option.some.inj h) <;> exact .idle rfl rfl
  | markWrite report needed =>
    simp only [step] at h
    split at h
    · obtain ⟨rfl, rfl⟩ := Prod.mk.inj (Option.some.inj h)
      exact .idle rfl rfl
    · obtain ⟨rfl, rfl⟩ := Prod.mk.inj (Option.some.inj h)
      rcases needed with - | -
      · exact .idle rfl rfl
      · exact .failed report _
  | loadSaga cfg code claims =>
    simp only [step] at h
    split at h
    · obtain ⟨rfl, rfl⟩ := Prod.mk.inj (Option.some.inj h)
      exact .idle rfl rfl
    · obtain ⟨rfl, rfl⟩ := Prod.mk.inj (Option.some.inj h)
      rcases claim_checkSaga w cfg code claims with
        hnone | ⟨ref, href⟩
      · exact .idle rfl hnone
      · obtain ⟨s, hs, hnonce, -⟩ := checkSaga_eq_consume href
        exact href ▸ .found cfg code claims ref s hs hnonce
  | consume ref =>
    simp only [step] at h
    split at h
    · split at h
      · rename_i applied e _
        obtain ⟨rfl, rfl⟩ := Prod.mk.inj (Option.some.inj h)
        rcases applied with - | -
        · exact .idle rfl rfl
        · exact .dropped ref rfl
      · obtain ⟨rfl, rfl⟩ := Prod.mk.inj (Option.some.inj h)
        unfold checkNonce
        split
        · exact .dropped ref rfl
        · rename_i tenant hget
          split
          · exact .consumed ref (by simp [hget])
          · exact .dropped ref rfl
    · obtain ⟨rfl, rfl⟩ := Prod.mk.inj (Option.some.inj h)
      exact .idle rfl rfl
  | exchange ref =>
    obtain ⟨rfl, rfl⟩ := Prod.mk.inj (Option.some.inj h)
    unfold afterExchange
    split
    · exact .exchanged ref _
    · exact .gaveUp ref (.inl rfl) rfl
    · exact .gaveUp ref (.inl rfl) rfl
  | persist ref parsed =>
    simp only [step] at h
    split at h
    · obtain ⟨rfl, rfl⟩ := Prod.mk.inj (Option.some.inj h)
      exact .gaveUp ref (.inr ⟨parsed, rfl⟩) rfl
    · rename_i w'' hper
      obtain ⟨rfl, rfl⟩ := Prod.mk.inj (Option.some.inj h)
      obtain ⟨crypto, row, -, hrow, hw⟩ := tryPersist_eq_ok hper
      obtain ⟨sealed, -, hsealed⟩ := EncryptedToken.exists_ofAnswer crypto env.rand env.tokenId
        ref.tenantId ref.provider parsed w.now
      obtain rfl := Except.ok.inj (hsealed.symm.trans hrow)
      exact .persisted ref parsed _ w'' hw
  | createAp ref parsed tokenId =>
    obtain ⟨rfl, rfl⟩ := Prod.mk.inj (Option.some.inj h)
    have hfailed : ∀ e : PyException,
        (∀ externalId id text, env.createAp = .record externalId id text →
          usableId externalId id = none) →
        Effect env w (.createAp ref parsed tokenId)
          (if env.createAp.applied then w.createAp ref.sagaId parsed.accessToken env.apId else w)
          (apLinkFailed ref tokenId e) :=
      fun e hcond ↦ .linkFailed ref parsed tokenId _ _ hcond
    rcases hap : env.createAp with ⟨externalId, id, text⟩ | ⟨applied, e⟩
    · rw [hap] at hfailed
      rcases hid : usableId externalId id with - | externalId
      · simp only [afterCreateAp, hid]
        refine hfailed _ fun externalId' id' text' hrec ↦ ?_
        obtain ⟨rfl, rfl, -⟩ := ApOutcome.record.inj hrec
        exact hid
      · simp only [afterCreateAp, hid]
        exact .linked ref parsed tokenId _ externalId
    · rw [hap] at hfailed
      exact hfailed e fun _ _ _ hrec ↦ absurd hrec (by simp)
  | finalize ref tokenId apId externalId =>
    simp only [step] at h
    split at h
    · obtain ⟨rfl, rfl⟩ := Prod.mk.inj (Option.some.inj h)
      exact .finalizeFailed ref tokenId apId externalId _
    · obtain ⟨rfl, rfl⟩ := Prod.mk.inj (Option.some.inj h)
      exact .finalized ref tokenId apId externalId _
  | deleteAp ref tokenId apId e =>
    obtain ⟨rfl, rfl⟩ := Prod.mk.inj (Option.some.inj h)
    exact .deleted ref tokenId apId e _ _
  | compensate ref tokenId reason answer =>
    simp only [step] at h
    split at h
    · rename_i e hcomp
      obtain ⟨rfl, rfl⟩ := Prod.mk.inj (Option.some.inj h)
      exact .compensateFailed ref tokenId reason answer _ (by simp [hcomp])
    · obtain ⟨rfl, rfl⟩ := Prod.mk.inj (Option.some.inj h)
      exact .compensated ref tokenId reason answer
  | done answer => exact absurd h (by simp [step])

end Effect

end CallbackPc

namespace InitiatePc

/-- The saga has not been inserted yet. -/
def unsaved : InitiatePc → Bool
  | .start => true
  | .insert _ _ _ => true
  | _ => false

/-- The nonce has not been registered yet. -/
def unregistered : InitiatePc → Bool
  | .register _ _ _ _ => true
  | pc => pc.unsaved

/-- What a step of an initiation does. -/
inductive Effect (env : InitiateEnv) (w : OAuthWorld) :
    InitiatePc → OAuthWorld → InitiatePc → Prop
  /-- A step without effect. -/
  | idle {pc pc'} (hsaved : pc'.unsaved → pc.unsaved)
      (hregistered : pc'.unregistered → pc.unregistered) : Effect env w pc w pc'
  /-- The saga is inserted. -/
  | inserted {pc pc'} (hpc : pc.unsaved) (hpc' : pc'.unsaved = false) (saga : OAuthSaga)
      (w' : OAuthWorld) (hid : saga.id = env.sagaId) (hnonce : saga.stateNonce = env.nonce)
      (hst : saga.status = .initiated) (hptr : saga.encryptedTokenId = none)
      (h : w.insertSaga saga = some w') : Effect env w pc w' pc'
  /-- The nonce is registered. -/
  | registered {pc pc'} (hpc : pc.unregistered) (hpc' : pc'.unregistered = false)
      (tenantId : String) (w' : OAuthWorld) (h : w.registerNonce env.nonce tenantId = some w') :
      Effect env w pc w' pc'
  /-- The saga is deleted again. -/
  | dropped {pc pc'} (hpc' : pc'.unregistered = false) :
      Effect env w pc (w.dropSaga env.sagaId) pc'

theorem unregistered_of_unsaved {pc : InitiatePc} (h : pc.unsaved) : pc.unregistered := by
  cases pc <;> first | rfl | exact absurd h (by simp [unsaved])

variable {srv : Server} {req : InitiateRequest} {env : InitiateEnv} {w w' : OAuthWorld}
  {pc pc' : InitiatePc}

/-- **There is no other kind of step.** -/
theorem effect_of_step (h : step srv req env w pc = some (w', pc')) : Effect env w pc w' pc' := by
  cases pc with
  | start =>
    obtain ⟨rfl, rfl⟩ := Prod.mk.inj (Option.some.inj h)
    exact .idle (fun _ ↦ rfl) fun _ ↦ rfl
  | insert tenantId provider scopes =>
    simp only [step] at h
    split at h
    · obtain ⟨rfl, rfl⟩ := Prod.mk.inj (Option.some.inj h)
      exact .idle (fun _ ↦ rfl) fun _ ↦ rfl
    · split at h
      · rename_i w'' hins
        obtain ⟨rfl, rfl⟩ := Prod.mk.inj (Option.some.inj h)
        exact .inserted rfl rfl _ w'' rfl rfl rfl rfl hins
      · obtain ⟨rfl, rfl⟩ := Prod.mk.inj (Option.some.inj h)
        exact .idle (fun _ ↦ rfl) fun _ ↦ rfl
  | register tenantId provider scopes expiresAt =>
    simp only [step] at h
    split at h
    · obtain ⟨rfl, rfl⟩ := Prod.mk.inj (Option.some.inj h)
      exact .idle (fun hu ↦ absurd hu (by simp [unsaved])) fun _ ↦ rfl
    · split at h
      · obtain ⟨rfl, rfl⟩ := Prod.mk.inj (Option.some.inj h)
        exact .idle (fun hu ↦ absurd hu (by simp [redisUnavailable, unsaved])) fun _ ↦ rfl
      · split at h
        · rename_i applied e _
          obtain ⟨rfl, rfl⟩ := Prod.mk.inj (Option.some.inj h)
          rcases hreg : w.registerNonce env.nonce tenantId with - | w''
          · have hsame : (if applied then (none : Option OAuthWorld).getD w else w) = w := by
              split <;> rfl
            rw [hsame]
            exact .idle (fun hu ↦ absurd hu (by simp [redisUnavailable, unsaved])) fun _ ↦ rfl
          · rcases applied with - | -
            · exact .idle (fun hu ↦ absurd hu (by simp [redisUnavailable, unsaved])) fun _ ↦ rfl
            · exact .registered rfl rfl tenantId w'' hreg
        · split at h
          · rename_i w'' hreg
            obtain ⟨rfl, rfl⟩ := Prod.mk.inj (Option.some.inj h)
            exact .registered rfl rfl tenantId w'' hreg
          · obtain ⟨rfl, rfl⟩ := Prod.mk.inj (Option.some.inj h)
            exact .idle (fun hu ↦ absurd hu (by simp [unsaved])) fun _ ↦ rfl
  | rollback answer =>
    simp only [step] at h
    split at h
    · obtain ⟨rfl, rfl⟩ := Prod.mk.inj (Option.some.inj h)
      exact .idle (fun hu ↦ absurd hu (by simp [unsaved]))
        fun hu ↦ absurd hu (by simp [unregistered, unsaved])
    · obtain ⟨rfl, rfl⟩ := Prod.mk.inj (Option.some.inj h)
      exact .dropped rfl
  | done answer => exact absurd h (by simp [step])

end InitiatePc

end Siyadah
