import SiyadahOrchestrator.OAuth.Effects
import SiyadahOrchestrator.OAuth.Traces

/-!
# No ghosts

The Sovereign No-Ghost law: when nobody works on a saga, it is `COMPLETED` with its vault row and
its connection, or it has neither. The law is about three stores without a common transaction, so it
is proved over every interleaving of initiations and callbacks, from an invariant with three parts:

* `Ledger` — what holds of the stores at any time;
* `Handler.Local` — what a handler may rely on at its await: the stage its saga has reached, and
  that the nonce of a saga it owns is gone for good;
* `Handler.Apart` — two handlers never own one saga.

Four steps break the law, and `GhostFree` excludes them in the state before the step:

* a failure mark on a saga that is `COMPLETED` by then — `_mark_saga_failed` tests for `FAILED`
  only;
* a request to create a connection that is carried out although it raises, or is answered without an
  id: the compensation does not know the connection;
* a rollback `DELETE` that is lost, or whose id is not that of the connection: it is best effort;
* a connection under an external id that is taken: the id keeps only sixteen characters of the
  saga's.
-/

namespace Siyadah

/-- The handler learns the id of a connection that has been written. -/
def ApOutcome.Accounted : ApOutcome → Prop
  | .record externalId id _ => CallbackPc.usableId externalId id ≠ none
  | .raised applied _ => applied = false

instance : ∀ outcome : ApOutcome, Decidable outcome.Accounted
  | .record externalId id _ =>
    inferInstanceAs (Decidable (CallbackPc.usableId externalId id ≠ none))
  | .raised applied _ => inferInstanceAs (Decidable (applied = false))

namespace Handler

/-- The step that stands next is not one of the four that can leave a ghost. -/
def GhostFree (w : OAuthWorld) : Handler → Prop
  | .callback _ _ (.markWrite report true) => w.statusOf report.sagaId ≠ some .completed
  | .callback _ env (.createAp ref _ _) =>
    (∀ c ∈ w.ap, c.externalId ≠ apExternalId ref.sagaId) ∧ env.createAp.Accounted
  | .callback _ env (.deleteAp ref _ apId _) =>
    env.deleteAp = true ∧ ∀ c ∈ w.ap, c.externalId = apExternalId ref.sagaId ↔ c.id = apId
  | _ => True

instance (w : OAuthWorld) : ∀ h, Decidable (GhostFree w h)
  | .callback _ _ (.markWrite report true) =>
    inferInstanceAs (Decidable (w.statusOf report.sagaId ≠ some .completed))
  | .callback _ _ (.createAp _ _ _) => inferInstanceAs (Decidable ((∀ c ∈ w.ap, _) ∧ _))
  | .callback _ _ (.deleteAp _ _ _ _) => inferInstanceAs (Decidable (_ ∧ ∀ c ∈ w.ap, _))
  | .callback _ _ .start | .callback _ _ (.findSaga _ _ _) | .callback _ _ (.markLoad _)
  | .callback _ _ (.markWrite _ false) | .callback _ _ (.loadSaga _ _ _)
  | .callback _ _ (.consume _) | .callback _ _ (.exchange _) | .callback _ _ (.persist _ _)
  | .callback _ _ (.finalize _ _ _ _) | .callback _ _ (.compensate _ _ _ _)
  | .callback _ _ (.done _) => .isTrue trivial
  | .initiate _ _ _ => .isTrue trivial

end Handler

namespace OAuth

/-- The action leaves no ghost. -/
def GhostFree (P : OAuthState) : OAuthAction → Prop
  | .step i => ∀ h ∈ P.procs[i]?, h.GhostFree P.store
  | _ => True

instance (P : OAuthState) : ∀ a, Decidable (GhostFree P a)
  | .step i => inferInstanceAs (Decidable (∀ h ∈ P.procs[i]?, h.GhostFree P.store))
  | .tick _ => .isTrue trivial
  | .initiate _ _ => .isTrue trivial
  | .callback _ _ => .isTrue trivial

/-- The failure handlers of an arriving callback can write. -/
def HandlersWrite : OAuthAction → Prop
  | .callback _ env => env.HandlersWrite
  | _ => True

instance : ∀ a, Decidable (HandlersWrite a)
  | .callback _ env => inferInstanceAs (Decidable env.HandlersWrite)
  | .tick _ => .isTrue trivial
  | .initiate _ _ => .isTrue trivial
  | .step _ => .isTrue trivial

/-! ### The invariant -/

/-- What holds of the stores at any time. -/
structure Ledger (w : OAuthWorld) : Prop where
  /-- A saga points to a vault row of its own. -/
  pointer : ∀ sagaId s t, w.sagas.find? sagaId = some s → s.encryptedTokenId = some t →
    w.RowOf sagaId t
  /-- A connection has the external id of its saga. -/
  external : ∀ c ∈ w.ap, c.externalId = apExternalId c.sagaId
  /-- An external id belongs to one saga. -/
  injective : ∀ c ∈ w.ap, ∀ c' ∈ w.ap, c.externalId = c'.externalId → c.sagaId = c'.sagaId
  /-- The nonce of a `COMPLETED` saga is gone. -/
  consumed : ∀ sagaId s, w.sagas.find? sagaId = some s → s.status = .completed →
    w.redis.entries (nonceKey s.stateNonce) = none

end OAuth

namespace CallbackPc

/-- The stage that the saga of an owner has reached. -/
def Stage (w : OAuthWorld) : CallbackPc → Prop
  | .exchange ref => w.Bare ref.sagaId
  | .persist ref _ => w.Bare ref.sagaId
  | .createAp ref _ tokenId => w.Stored ref.sagaId tokenId
  | .finalize ref tokenId _ _ => w.Linked ref.sagaId tokenId
  | .deleteAp ref tokenId _ _ => w.Linked ref.sagaId tokenId
  | .compensate ref tokenId _ _ => w.Stored ref.sagaId tokenId
  | _ => True

/-- A callback that owns nothing has reached no stage. -/
theorem stage_of_owner_eq_none {w : OAuthWorld} {pc : CallbackPc} (h : pc.owner = none) :
    pc.Stage w := by
  cases pc <;> trivial

/-- The stage survives whatever keeps the saga. -/
theorem Stage.keeps {w w' : OAuthWorld} {pc : CallbackPc} (h : pc.Stage w)
    (hk : ∀ ref ∈ pc.owner, OAuthWorld.Keeps ref.sagaId w w') : pc.Stage w' := by
  cases pc with
  | exchange ref | persist ref => exact OAuthWorld.Bare.keeps h (hk ref rfl)
  | createAp ref | compensate ref => exact OAuthWorld.Stored.keeps h (hk ref rfl)
  | finalize ref | deleteAp ref => exact OAuthWorld.Linked.keeps h (hk ref rfl)
  | start | findSaga | markLoad | markWrite | loadSaga | consume | done => trivial

end CallbackPc

namespace InitiatePc

/-- What an initiation may rely on: before the insertion nothing is known of its saga, and before
the registration its nonce is not in the store and no saga of that nonce is `COMPLETED`. -/
structure Stage (w : OAuthWorld) (env : InitiateEnv) (pc : InitiatePc) : Prop where
  unsaved : pc.unsaved → w.sagas.find? env.sagaId = none ∧ w.NoTrace env.sagaId
  unregistered : pc.unregistered → w.redis.entries (nonceKey env.nonce) = none ∧
    ∀ sagaId s, w.sagas.find? sagaId = some s → s.stateNonce = env.nonce → s.status ≠ .completed

end InitiatePc

namespace Handler

/-- What a handler may rely on at its await. -/
def Local (w : OAuthWorld) : Handler → Prop
  | .initiate _ env pc => pc.Stage w env
  | .callback _ env pc => env.HandlersWrite ∧
    (∀ ref ∈ pc.claim, ∀ s, w.sagas.find? ref.sagaId = some s → s.stateNonce = ref.nonce) ∧
    (∀ ref ∈ pc.owner, w.redis.entries (nonceKey ref.nonce) = none) ∧ pc.Stage w

/-- What keeps two handlers apart: new names are new, and a saga has one owner. -/
def Apart : Handler → Handler → Prop
  | .initiate _ env _, .initiate _ env' _ => env.sagaId ≠ env'.sagaId ∧ env.nonce ≠ env'.nonce
  | .initiate _ env pc, .callback _ _ pc' =>
    (pc.unsaved → ∀ ref ∈ pc'.claim, ref.sagaId ≠ env.sagaId) ∧
      (pc.unregistered → ∀ ref ∈ pc'.owner, ref.nonce ≠ env.nonce)
  | .callback _ _ _, .initiate _ _ _ => True
  | .callback _ _ pc, .callback _ _ pc' =>
    (∀ ref ∈ pc.claim, ∀ ref' ∈ pc'.claim, ref.sagaId = ref'.sagaId → ref.nonce = ref'.nonce) ∧
      ∀ ref ∈ pc.owner, ∀ ref' ∈ pc'.owner, ref.sagaId ≠ ref'.sagaId

/-- The saga that the handler owns. -/
def owner : Handler → Option SagaRef
  | .initiate _ _ _ => none
  | .callback _ _ pc => pc.owner

end Handler

namespace OAuth

/-- **The invariant.** A saga that nobody owns is settled. -/
structure Inv (P : OAuthState) : Prop where
  holds : P.Holds Ledger Handler.Local Handler.Apart
  settled : ∀ sagaId, (∃ h ∈ P.procs, ∃ ref ∈ h.owner, ref.sagaId = sagaId) ∨
    P.store.Settled sagaId

end OAuth

/-! ### What a step of a callback keeps -/

namespace CallbackPc.Effect

open OAuth OAuthWorld

variable {env : CallbackEnv} {w w' : OAuthWorld} {pc pc' : CallbackPc} {req : CallbackRequest}

/-- The rows of the saga table stay, with their nonces; only an owner completes a saga. -/
theorem saga (heff : Effect env w pc w' pc') {sagaId : String} {s' : OAuthSaga}
    (hs' : w'.sagas.find? sagaId = some s') :
    ∃ s, w.sagas.find? sagaId = some s ∧ s'.stateNonce = s.stateNonce ∧
      (s'.status = .completed → s.status = .completed ∨ ∃ ref ∈ pc.owner, ref.sagaId = sagaId) := by
  have hsame : w'.sagas = w.sagas → ∃ s, w.sagas.find? sagaId = some s ∧
      s'.stateNonce = s.stateNonce ∧
      (s'.status = .completed →
        s.status = .completed ∨ ∃ ref ∈ pc.owner, ref.sagaId = sagaId) :=
    fun h ↦ ⟨s', h ▸ hs', rfl, fun hst ↦ .inl hst⟩
  cases heff with
  | idle | found | exchanged | gaveUp | finalizeFailed | compensateFailed => exact hsame rfl
  | dropped | consumed | linked => exact hsame rfl
  | linkFailed => exact hsame (by split <;> rfl)
  | deleted => exact hsame (by split <;> rfl)
  | failed report answer =>
    have hfind := (SagaTable.find?_fail sagaId).symm.trans hs'
    split at hfind
    · obtain ⟨s, hs, rfl⟩ := Option.map_eq_some_iff.1 hfind
      exact ⟨s, hs, rfl, fun hst ↦ absurd hst (by simp [OAuthSaga.fail])⟩
    · exact ⟨s', hfind, rfl, fun hst ↦ .inl hst⟩
  | persisted ref parsed row w'' h =>
    obtain ⟨tokens, -, rfl⟩ := Option.map_eq_some_iff.1 h
    have hfind := (SagaTable.find?_obtain sagaId).symm.trans hs'
    split at hfind
    · obtain ⟨s, hs, rfl⟩ := Option.map_eq_some_iff.1 hfind
      exact ⟨s, hs, rfl, fun hst ↦ absurd hst (by simp [OAuthSaga.obtain])⟩
    · exact ⟨s', hfind, rfl, fun hst ↦ .inl hst⟩
  | finalized ref tokenId apId externalId answer =>
    have hfind := (SagaTable.find?_complete sagaId).symm.trans hs'
    split at hfind
    · rename_i hid
      obtain ⟨s, hs, rfl⟩ := Option.map_eq_some_iff.1 hfind
      exact ⟨s, hs, rfl, fun _ ↦ .inr ⟨ref, rfl, hid.symm⟩⟩
    · exact ⟨s', hfind, rfl, fun hst ↦ .inl hst⟩
  | compensated ref tokenId reason answer =>
    have hfind := (SagaTable.find?_compensate sagaId).symm.trans hs'
    rw [SagaTable.find?_forgetToken] at hfind
    split at hfind
    · obtain ⟨s₁, hs₁, rfl⟩ := Option.map_eq_some_iff.1 hfind
      obtain ⟨s, hs, rfl⟩ := Option.map_eq_some_iff.1 hs₁
      refine ⟨s, hs, ?_, fun hst ↦ absurd hst (by simp [OAuthSaga.compensate])⟩
      split <;> rfl
    · obtain ⟨s, hs, rfl⟩ := Option.map_eq_some_iff.1 hfind
      refine ⟨s, hs, ?_, fun hst ↦ .inl ?_⟩
      · split <;> rfl
      · split at hst <;> exact hst

/-- A callback writes no nonce. -/
theorem entries (heff : Effect env w pc w' pc') {k : String} (h : w.redis.entries k = none) :
    w'.redis.entries k = none := by
  have hdelete : ∀ nonce, (w.dropNonce nonce).redis.entries k = none := fun nonce ↦ by
    rw [dropNonce, ExpiringStore.entries_delete]
    split
    · rfl
    · exact h
  cases heff with
  | dropped | consumed => exact hdelete _
  | linkFailed | deleted => split <;> exact h
  | persisted ref parsed row w'' hper =>
    obtain ⟨tokens, -, rfl⟩ := Option.map_eq_some_iff.1 hper
    exact h
  | idle | failed | found | exchanged | gaveUp | linked | finalized | finalizeFailed
    | compensateFailed | compensated => exact h

/-- A new owner has found the nonce alive. -/
theorem owner (heff : Effect env w pc w' pc') : ∀ ref ∈ pc'.owner,
    ref ∈ pc.owner ∨ pc = .consume ref ∧ w.redis.get w.now (nonceKey ref.nonce) ≠ none ∧
      w' = w.dropNonce ref.nonce := by
  intro ref href
  have hnone : ∀ {pc'' : CallbackPc}, pc''.claim = none → ref ∉ pc''.owner := fun hc hr ↦
    absurd ((owner_eq_none_of_claim hc).symm.trans hr) (by simp)
  cases heff with
  | idle hpc hpc' => exact absurd href (hnone hpc')
  | dropped ref' hpc' => exact absurd href (hnone hpc')
  | gaveUp ref' hpc hpc' => exact absurd href (hnone hpc')
  | consumed ref' hlive =>
    obtain rfl : ref' = ref := Option.some.inj href
    exact .inr ⟨rfl, hlive, rfl⟩
  | failed | found | finalized | compensateFailed | compensated =>
    exact absurd href (by simp [CallbackPc.owner])
  | exchanged | persisted | linked | linkFailed | finalizeFailed | deleted => exact .inl href

/-- A new claim is to a saga of the table. -/
theorem claim (heff : Effect env w pc w' pc') : ∀ ref ∈ pc'.claim,
    ref ∈ pc.claim ∨ ∃ s, w.sagas.find? ref.sagaId = some s ∧ s.stateNonce = ref.nonce := by
  intro ref href
  cases heff with
  | idle hpc hpc' => exact absurd (hpc'.symm.trans href) (by simp)
  | dropped ref' hpc' => exact absurd (hpc'.symm.trans href) (by simp)
  | gaveUp ref' hpc hpc' => exact absurd (hpc'.symm.trans href) (by simp)
  | found cfg code claims ref' s hs hnonce =>
    obtain rfl : ref' = ref := Option.some.inj href
    exact .inr ⟨s, hs, hnonce⟩
  | failed | finalized | compensateFailed | compensated =>
    exact absurd href (by simp [CallbackPc.claim, CallbackPc.owner])
  | consumed | exchanged | persisted | linked | linkFailed | finalizeFailed | deleted =>
    exact .inl href

/-- A connection that may be carried out although it is refused is excluded. -/
theorem applied_eq_false {ref : SagaRef} {parsed : ParsedTokenResponse} {tokenId : String}
    (hfree : (Handler.callback req env (.createAp ref parsed tokenId)).GhostFree w)
    (h : ∀ externalId id text, env.createAp = .record externalId id text →
      usableId externalId id = none) : env.createAp.applied = false := by
  obtain ⟨-, hap⟩ := hfree
  rcases hc : env.createAp with ⟨externalId, id, text⟩ | ⟨applied, e⟩
  · rw [hc] at hap
    exact absurd (h externalId id text hc) hap
  · rw [hc] at hap
    exact hap

/-- **A step of a callback keeps every saga that the callback does not own.** -/
theorem keeps (heff : Effect env w pc w' pc') (hfree : (Handler.callback req env pc).GhostFree w)
    (hled : Ledger w) (hstage : pc.Stage w) {sagaId : String}
    (hne : ∀ ref ∈ pc.owner, sagaId ≠ ref.sagaId) : Keeps sagaId w w' := by
  cases heff with
  | idle | found | exchanged | gaveUp | finalizeFailed | compensateFailed => exact .rfl'
  | dropped | consumed => exact keeps_dropNonce _
  | failed report => exact keeps_failSaga hfree
  | persisted ref parsed row w'' h => exact keeps_persistTokens h (hne ref rfl)
  | linked ref => exact keeps_createAp hfree.1 (hne ref rfl)
  | linkFailed ref parsed tokenId reason answer h =>
    rw [applied_eq_false hfree h]
    exact .rfl'
  | finalized ref => exact keeps_finalize (hne ref rfl)
  | deleted ref tokenId apId =>
    obtain ⟨hdel, hid⟩ := hfree
    obtain ⟨c₀, hc₀, hown⟩ := hstage.2.1
    rw [if_pos hdel]
    refine keeps_deleteAp (fun c hc hcid ↦ ?_) (hne ref rfl)
    have hext : c.externalId = c₀.externalId := by
      rw [(hid c hc).2 hcid, hled.external c₀ hc₀, hown]
    exact (hled.injective c hc c₀ hc₀ hext).trans hown
  | compensated ref => exact keeps_compensate hstage.1 (hled.pointer sagaId) (hne ref rfl)

/-- An owner goes on with its saga or leaves it settled. -/
theorem settled (heff : Effect env w pc w' pc') (hw : env.HandlersWrite) (hstage : pc.Stage w) :
    ∀ ref ∈ pc.owner, ref ∈ pc'.owner ∨ w'.Settled ref.sagaId := by
  intro ref href
  cases heff with
  | idle hpc hpc' => exact absurd (hpc.symm.trans href) (by simp)
  | failed | found | dropped | consumed => exact absurd href (by simp [CallbackPc.owner])
  | exchanged | persisted | linked | linkFailed | finalizeFailed | deleted => exact .inl href
  | gaveUp ref' hpc hpc' =>
    rcases hpc with rfl | ⟨parsed, rfl⟩
    · obtain rfl : ref' = ref := Option.some.inj href
      exact .inr (Bare.settled hstage)
    · obtain rfl : ref' = ref := Option.some.inj href
      exact .inr (Bare.settled hstage)
  | finalized ref' =>
    obtain rfl : ref' = ref := Option.some.inj href
    exact .inr (Linked.settled_finalize hstage)
  | compensateFailed ref' tokenId reason answer answer' h => exact absurd hw.2.2 h
  | compensated ref' =>
    obtain rfl : ref' = ref := Option.some.inj href
    exact .inr (Stored.settled_compensate hstage)

/-- **A step of a callback reaches the stage of its next await.** -/
theorem stage (heff : Effect env w pc w' pc') (hfree : (Handler.callback req env pc).GhostFree w)
    (hled : Ledger w) (hstage : pc.Stage w)
    (hbare : ∀ ref, pc = .consume ref → w.redis.get w.now (nonceKey ref.nonce) ≠ none →
      w.Bare ref.sagaId) : pc'.Stage w' := by
  cases heff with
  | idle hpc hpc' => exact stage_of_owner_eq_none (owner_eq_none_of_claim hpc')
  | dropped ref hpc' => exact stage_of_owner_eq_none (owner_eq_none_of_claim hpc')
  | gaveUp ref hpc hpc' => exact stage_of_owner_eq_none (owner_eq_none_of_claim hpc')
  | failed | found | finalized | compensateFailed | compensated => trivial
  | consumed ref hlive => exact (hbare ref rfl hlive).keeps (keeps_dropNonce _)
  | exchanged | finalizeFailed => exact hstage
  | persisted ref parsed row w'' h => exact Bare.stored hstage h
  | linked ref => exact Stored.linked hstage hfree.1
  | linkFailed ref parsed tokenId reason answer h =>
    rw [applied_eq_false hfree h]
    exact hstage
  | deleted ref tokenId apId =>
    obtain ⟨hdel, hid⟩ := hfree
    rw [if_pos hdel]
    refine Linked.stored_deleteAp hstage fun c hc hown ↦ (hid c hc).1 ?_
    rw [hled.external c hc, hown]

/-- A step of a callback keeps the ledger. -/
theorem ledger (heff : Effect env w pc w' pc') (hfree : (Handler.callback req env pc).GhostFree w)
    (hled : Ledger w) (hstage : pc.Stage w)
    (hnonce : ∀ ref ∈ pc.claim, ∀ s, w.sagas.find? ref.sagaId = some s → s.stateNonce = ref.nonce)
    (howner : ∀ ref ∈ pc.owner, w.redis.entries (nonceKey ref.nonce) = none) : Ledger w' := by
  refine ⟨fun sagaId s' t hs' hptr ↦ ?_, ?_, ?_, fun sagaId s' hs' hst ↦ ?_⟩
  · -- Pointers: a kept saga has the pointer and the rows it had, an owner has just set its own.
    have hkept : (∀ ref ∈ pc.owner, sagaId ≠ ref.sagaId) → w'.RowOf sagaId t := fun hne ↦ by
      have hk := heff.keeps hfree hled hstage hne
      rcases hk.saga with heq | hnone | ⟨s, s'', hs, hs'', -, -, hsame⟩
      · exact (hk.rows t).2 (hled.pointer sagaId s' t (heq ▸ hs') hptr)
      · exact absurd (hnone.symm.trans hs') (by simp)
      · obtain rfl : s'' = s' := Option.some.inj (hs''.symm.trans hs')
        exact (hk.rows t).2 (hled.pointer sagaId s t hs (hsame ▸ hptr))
    cases heff with
    | idle hpc => exact hled.pointer sagaId s' t hs' hptr
    | found | exchanged | gaveUp | finalizeFailed | compensateFailed | dropped | consumed
      | linked =>
      exact hled.pointer sagaId s' t hs' hptr
    | linkFailed | deleted =>
      split at hs'
      · rw [if_pos ‹_›]
        exact hled.pointer sagaId s' t hs' hptr
      · rw [if_neg ‹_›]
        exact hled.pointer sagaId s' t hs' hptr
    | failed report answer => exact hkept fun ref href ↦ absurd href (by simp [CallbackPc.owner])
    | persisted ref parsed row w'' h =>
      rcases eq_or_ne sagaId ref.sagaId with rfl | hne
      · have hstored := Bare.stored hstage h
        obtain rfl : row.id = t := Option.some.inj ((hstored.2 s' hs').1.2.1.symm.trans hptr)
        exact hstored.1
      · exact hkept fun ref' href ↦ Option.some.inj href ▸ hne
    | finalized ref tokenId apId externalId answer =>
      have hfind := (SagaTable.find?_complete sagaId).symm.trans hs'
      rw [rowOf_finalize]
      split at hfind
      · obtain ⟨s, hs, rfl⟩ := Option.map_eq_some_iff.1 hfind
        exact hled.pointer sagaId s t hs hptr
      · exact hled.pointer sagaId s' t hfind hptr
    | compensated ref tokenId reason answer =>
      rcases eq_or_ne sagaId ref.sagaId with rfl | hne
      · have hfind := (SagaTable.find?_compensate ref.sagaId).symm.trans hs'
        rw [if_pos rfl] at hfind
        obtain ⟨s, -, rfl⟩ := Option.map_eq_some_iff.1 hfind
        exact absurd hptr (by simp [OAuthSaga.compensate])
      · exact hkept fun ref' href ↦ Option.some.inj href ▸ hne
  · cases heff with
    | linked ref =>
      intro c hc
      rw [createAp_ap hfree.1, List.mem_append, List.mem_singleton] at hc
      rcases hc with hc | rfl
      · exact hled.external c hc
      · rfl
    | linkFailed ref parsed tokenId reason answer h =>
      rw [applied_eq_false hfree h]
      exact hled.external
    | deleted ref tokenId apId =>
      rw [if_pos hfree.1]
      exact fun c hc ↦ hled.external c (List.mem_filter.1 hc).1
    | persisted ref parsed row w'' h =>
      obtain ⟨tokens, -, rfl⟩ := Option.map_eq_some_iff.1 h
      exact hled.external
    | idle | failed | found | dropped | consumed | exchanged | gaveUp | finalized | finalizeFailed
      | compensateFailed | compensated => exact hled.external
  · cases heff with
    | linked ref =>
      intro c hc c' hc' hext
      rw [createAp_ap hfree.1, List.mem_append, List.mem_singleton] at hc hc'
      rcases hc with hc | rfl <;> rcases hc' with hc' | rfl
      · exact hled.injective c hc c' hc' hext
      · exact absurd hext (hfree.1 c hc)
      · exact absurd hext.symm (hfree.1 c' hc')
      · rfl
    | linkFailed ref parsed tokenId reason answer h =>
      rw [applied_eq_false hfree h]
      exact hled.injective
    | deleted ref tokenId apId =>
      rw [if_pos hfree.1]
      exact fun c hc c' hc' ↦
        hled.injective c (List.mem_filter.1 hc).1 c' (List.mem_filter.1 hc').1
    | persisted ref parsed row w'' h =>
      obtain ⟨tokens, -, rfl⟩ := Option.map_eq_some_iff.1 h
      exact hled.injective
    | idle | failed | found | dropped | consumed | exchanged | gaveUp | finalized | finalizeFailed
      | compensateFailed | compensated => exact hled.injective
  · obtain ⟨s, hs, hsame, hdone⟩ := heff.saga hs'
    rw [hsame]
    rcases hdone hst with hold | ⟨ref, href, rfl⟩
    · exact heff.entries (hled.consumed sagaId s hs hold)
    · rw [hnonce ref (claim_of_owner href) s hs]
      exact heff.entries (howner ref href)

end CallbackPc.Effect

/-! ### What a step of an initiation keeps -/

namespace InitiatePc.Effect

open OAuth OAuthWorld

variable {env : InitiateEnv} {w w' : OAuthWorld} {pc pc' : InitiatePc}

/-- Only the insertion adds a saga, and it is `INITIATED`. -/
theorem saga (heff : Effect env w pc w' pc') {sagaId : String} {s' : OAuthSaga}
    (hs' : w'.sagas.find? sagaId = some s') :
    w.sagas.find? sagaId = some s' ∨
      pc.unsaved ∧ sagaId = env.sagaId ∧ s'.status = .initiated ∧ s'.stateNonce = env.nonce ∧
        s'.encryptedTokenId = none := by
  cases heff with
  | idle => exact .inl hs'
  | registered hpc hpc' tenantId w'' h =>
    obtain ⟨redis, -, rfl⟩ := Option.map_eq_some_iff.1 h
    exact .inl hs'
  | dropped hpc' =>
    have hfind := (KeyedTable.find?_delete sagaId).symm.trans hs'
    exact .inl (Option.filter_eq_some_iff.1 hfind).1
  | inserted hpc hpc' row w'' hid hnonce hst hptr h =>
    obtain ⟨sagas, hins, rfl⟩ := Option.map_eq_some_iff.1 h
    have hfind := (KeyedTable.find?_insert hins sagaId).symm.trans hs'
    split at hfind
    · rename_i heq
      obtain rfl := Option.some.inj hfind
      exact .inr ⟨hpc, heq.trans hid, hst, hnonce, hptr⟩
    · exact .inl hfind

/-- Only the registration writes a nonce, its own. -/
theorem entries (heff : Effect env w pc w' pc') {k : String} (h : w.redis.entries k = none)
    (hk : pc.unregistered → k ≠ nonceKey env.nonce) : w'.redis.entries k = none := by
  cases heff with
  | idle | dropped => exact h
  | inserted hpc hpc' row w'' hid hnonce hst hptr hins =>
    obtain ⟨sagas, -, rfl⟩ := Option.map_eq_some_iff.1 hins
    exact h
  | registered hpc hpc' tenantId w'' hreg =>
    obtain ⟨redis, hset, rfl⟩ := Option.map_eq_some_iff.1 hreg
    rw [ExpiringStore.entries_setNx hset, if_neg (hk hpc)]
    exact h

/-- An initiation leaves the traces alone. -/
theorem traces (heff : Effect env w pc w' pc') :
    w'.tokens = w.tokens ∧ w'.origin = w.origin ∧ w'.ap = w.ap := by
  cases heff with
  | idle | dropped => exact ⟨rfl, rfl, rfl⟩
  | inserted hpc hpc' row w'' hid hnonce hst hptr h =>
    obtain ⟨sagas, -, rfl⟩ := Option.map_eq_some_iff.1 h
    exact ⟨rfl, rfl, rfl⟩
  | registered hpc hpc' tenantId w'' h =>
    obtain ⟨redis, -, rfl⟩ := Option.map_eq_some_iff.1 h
    exact ⟨rfl, rfl, rfl⟩

/-- **A step of an initiation keeps every saga but the one it inserts.** -/
theorem keeps (heff : Effect env w pc w' pc') {sagaId : String}
    (hne : pc.unsaved → sagaId ≠ env.sagaId) : Keeps sagaId w w' := by
  cases heff with
  | idle => exact .rfl'
  | dropped => exact keeps_dropSaga
  | registered hpc hpc' tenantId w'' h => exact keeps_registerNonce h
  | inserted hpc hpc' row w'' hid hnonce hst hptr h => exact keeps_insertSaga h (hid ▸ hne hpc)

/-- An initiation moves forward. -/
theorem mono (heff : Effect env w pc w' pc') :
    (pc'.unsaved → pc.unsaved) ∧ (pc'.unregistered → pc.unregistered) := by
  cases heff with
  | idle hsaved hregistered => exact ⟨hsaved, hregistered⟩
  | inserted hpc hpc' =>
    exact ⟨fun h ↦ absurd (hpc'.symm.trans h) (by simp), fun _ ↦ unregistered_of_unsaved hpc⟩
  | registered hpc hpc' =>
    exact ⟨fun h ↦ absurd (hpc'.symm.trans (unregistered_of_unsaved h)) (by simp), fun _ ↦ hpc⟩
  | dropped hpc' =>
    exact ⟨fun h ↦ absurd (hpc'.symm.trans (unregistered_of_unsaved h)) (by simp),
      fun h ↦ absurd (hpc'.symm.trans h) (by simp)⟩

theorem ledger (heff : Effect env w pc w' pc') (hled : Ledger w) (hstage : pc.Stage w env) :
    Ledger w' := by
  obtain ⟨htokens, horigin, hap⟩ := heff.traces
  refine ⟨fun sagaId s t hs hptr ↦ ?_, hap ▸ hled.external, hap ▸ hled.injective,
    fun sagaId s hs hst ↦ ?_⟩
  · rw [RowOf, originOf, htokens, horigin]
    rcases heff.saga hs with hold | ⟨-, -, -, -, hnone⟩
    · exact hled.pointer sagaId s t hold hptr
    · exact absurd (hnone.symm.trans hptr) (by simp)
  · rcases heff.saga hs with hold | ⟨-, -, hinit, -⟩
    · refine heff.entries (hled.consumed sagaId s hold hst) fun hu hk ↦ ?_
      exact (hstage.unregistered hu).2 sagaId s hold (nonceKey_injective hk) hst
    · exact absurd (hinit.symm.trans hst) (by simp)

/-- An initiation keeps what it relies on itself. -/
theorem stage (heff : Effect env w pc w' pc') (hstage : pc.Stage w env) : pc'.Stage w' env := by
  cases heff with
  | idle hsaved hregistered =>
    exact ⟨fun h ↦ hstage.unsaved (hsaved h), fun h ↦ hstage.unregistered (hregistered h)⟩
  | registered hpc hpc' =>
    exact ⟨fun h ↦ absurd (hpc'.symm.trans (unregistered_of_unsaved h)) (by simp),
      fun h ↦ absurd (hpc'.symm.trans h) (by simp)⟩
  | dropped hpc' =>
    exact ⟨fun h ↦ absurd (hpc'.symm.trans (unregistered_of_unsaved h)) (by simp),
      fun h ↦ absurd (hpc'.symm.trans h) (by simp)⟩
  | inserted hpc hpc' row w'' hid hnonce hst hptr h =>
    obtain ⟨hentries, hopen⟩ := hstage.unregistered (unregistered_of_unsaved hpc)
    have heff : Effect env w pc w' pc' :=
      .inserted hpc hpc' row w' hid hnonce hst hptr h
    refine ⟨fun h ↦ absurd (hpc'.symm.trans h) (by simp), fun _ ↦ ⟨?_, fun sagaId s hs hn ↦ ?_⟩⟩
    · obtain ⟨sagas, -, rfl⟩ := Option.map_eq_some_iff.1 h
      exact hentries
    · rcases heff.saga hs with hold | ⟨-, -, hinit, -⟩
      · exact hopen sagaId s hold hn
      · rw [hinit]
        decide

end InitiatePc.Effect

/-! ### The invariant is kept -/

namespace OAuth

open OAuthWorld

variable {srv : Server} {P Q : OAuthState} {w w' : OAuthWorld} {h r : Handler} {i : ℕ}

/-- What an initiation does to the assertion of another handler. -/
theorem local_of_initiate {env : InitiateEnv} {pc pc' : InitiatePc} {req : InitiateRequest}
    (heff : InitiatePc.Effect env w pc w' pc') (hr : r.Local w)
    (hpr : Handler.Apart (.initiate req env pc) r) (hrp : Handler.Apart r (.initiate req env pc)) :
    r.Local w' := by
  obtain ⟨htokens, horigin, hap⟩ := heff.traces
  rcases r with ⟨req₀, env₀, pc₀⟩ | ⟨req₀, env₀, pc₀⟩
  · obtain ⟨hid, hnonce⟩ := hpr
    refine ⟨fun hu ↦ ?_, fun hu ↦ ?_⟩
    · obtain ⟨hnone, htrace⟩ := hr.unsaved hu
      refine ⟨?_, ((heff.keeps fun _ ↦ hid.symm).noTrace).2 htrace⟩
      rcases hs : w'.sagas.find? env₀.sagaId with - | s
      · rfl
      · rcases heff.saga hs with hold | ⟨-, heq, -⟩
        · exact absurd (hnone.symm.trans hold) (by simp)
        · exact absurd heq.symm hid
    · obtain ⟨hentries, hopen⟩ := hr.unregistered hu
      refine ⟨heff.entries hentries fun _ hk ↦ hnonce (nonceKey_injective hk).symm,
        fun sagaId s hs hn ↦ ?_⟩
      rcases heff.saga hs with hold | ⟨-, -, hinit, -⟩
      · exact hopen sagaId s hold hn
      · rw [hinit]
        decide
  · obtain ⟨hw, hclaim, howner, hstage⟩ := hr
    obtain ⟨hunsaved, hunregistered⟩ := hpr
    refine ⟨hw, fun ref href s hs ↦ ?_, fun ref href ↦ ?_, hstage.keeps fun ref href ↦ ?_⟩
    · rcases heff.saga hs with hold | ⟨hu, heq, -⟩
      · exact hclaim ref href s hold
      · exact absurd heq (hunsaved hu ref href)
    · refine heff.entries (howner ref href) fun hu hk ↦ ?_
      exact hunregistered hu ref href (nonceKey_injective hk)
    · exact heff.keeps fun hu ↦ hunsaved hu ref (CallbackPc.claim_of_owner href)

/-- What a callback does to the assertion of another handler. -/
theorem local_of_callback {env : CallbackEnv} {pc pc' : CallbackPc} {req : CallbackRequest}
    (heff : CallbackPc.Effect env w pc w' pc')
    (hfree : (Handler.callback req env pc).GhostFree w) (hled : Ledger w)
    (hp : (Handler.callback req env pc).Local w) (hr : r.Local w)
    (hpr : Handler.Apart (.callback req env pc) r) (hrp : Handler.Apart r (.callback req env pc)) :
    r.Local w' := by
  obtain ⟨-, hclaimp, -, hstagep⟩ := hp
  rcases r with ⟨req₀, env₀, pc₀⟩ | ⟨req₀, env₀, pc₀⟩
  · obtain ⟨hunsaved, hunregistered⟩ := hrp
    refine ⟨fun hu ↦ ?_, fun hu ↦ ?_⟩
    · obtain ⟨hnone, htrace⟩ := hr.unsaved hu
      have hk : Keeps env₀.sagaId w w' := heff.keeps hfree hled hstagep fun ref href ↦
        (hunsaved hu ref (CallbackPc.claim_of_owner href)).symm
      refine ⟨?_, hk.noTrace.2 htrace⟩
      rcases hs : w'.sagas.find? env₀.sagaId with - | s'
      · rfl
      · obtain ⟨s, hold, -⟩ := heff.saga hs
        exact absurd (hnone.symm.trans hold) (by simp)
    · obtain ⟨hentries, hopen⟩ := hr.unregistered hu
      refine ⟨heff.entries hentries, fun sagaId s' hs hn hst ↦ ?_⟩
      obtain ⟨s, hold, hsame, hdone⟩ := heff.saga hs
      rcases hdone hst with hst₀ | ⟨ref, href, rfl⟩
      · exact hopen sagaId s hold (hsame ▸ hn) hst₀
      · refine hunregistered hu ref href ?_
        rw [← hn, hsame, hclaimp ref (CallbackPc.claim_of_owner href) s hold]
  · obtain ⟨hw, hclaim, howner, hstage⟩ := hr
    refine ⟨hw, fun ref href s' hs ↦ ?_, fun ref href ↦ heff.entries (howner ref href),
      hstage.keeps fun ref href ↦ ?_⟩
    · obtain ⟨s, hold, hsame, -⟩ := heff.saga hs
      exact hsame.trans (hclaim ref href s hold)
    · exact heff.keeps hfree hled hstagep fun ref' href' ↦ (hpr.2 ref' href' ref href).symm

/-- After a step, an initiation is still apart from everyone. -/
theorem apart_of_initiate {env : InitiateEnv} {pc pc' : InitiatePc} {req : InitiateRequest}
    (heff : InitiatePc.Effect env w pc w' pc')
    (hpr : Handler.Apart (.initiate req env pc) r) (hrp : Handler.Apart r (.initiate req env pc)) :
    Handler.Apart (.initiate req env pc') r ∧ Handler.Apart r (.initiate req env pc') := by
  obtain ⟨hsaved, hregistered⟩ := heff.mono
  rcases r with ⟨req₀, env₀, pc₀⟩ | ⟨req₀, env₀, pc₀⟩
  · exact ⟨hpr, hrp⟩
  · exact ⟨⟨fun hu ↦ hpr.1 (hsaved hu), fun hu ↦ hpr.2 (hregistered hu)⟩, trivial⟩

/-- After a step, a callback is still apart from everyone: a claim is to a saga that is there, and
the nonce of a saga that somebody owns is gone. -/
theorem apart_of_callback {env : CallbackEnv} {pc pc' : CallbackPc} {req : CallbackRequest}
    (heff : CallbackPc.Effect env w pc w' pc') (hr : r.Local w)
    (hpr : Handler.Apart (.callback req env pc) r) (hrp : Handler.Apart r (.callback req env pc)) :
    Handler.Apart (.callback req env pc') r ∧ Handler.Apart r (.callback req env pc') := by
  have hdead : ∀ {nonce : String}, w.redis.entries (nonceKey nonce) = none →
      w.redis.get w.now (nonceKey nonce) = none := fun hn ↦ by rw [ExpiringStore.get, hn]
  rcases r with ⟨req₀, env₀, pc₀⟩ | ⟨req₀, env₀, pc₀⟩
  · refine ⟨trivial, fun hu ref href ↦ ?_, fun hu ref href ↦ ?_⟩
    · rcases heff.claim ref href with hold | ⟨s, hs, -⟩
      · exact hrp.1 hu ref hold
      · rintro heq
        exact absurd ((hr.unsaved hu).1.symm.trans (heq ▸ hs)) (by simp)
    · rcases heff.owner ref href with hold | ⟨rfl, hlive, -⟩
      · exact hrp.2 hu ref hold
      · rintro heq
        exact hlive (hdead (heq ▸ (hr.unregistered hu).1))
  · obtain ⟨-, hclaim, howner, -⟩ := hr
    have hclaims : ∀ ref ∈ pc'.claim, ∀ ref' ∈ pc₀.claim, ref.sagaId = ref'.sagaId →
        ref.nonce = ref'.nonce := by
      intro ref href ref' href' heq
      rcases heff.claim ref href with hold | ⟨s, hs, hnonce⟩
      · exact hpr.1 ref hold ref' href' heq
      · rw [← hnonce]
        exact hclaim ref' href' s (heq ▸ hs)
    have howners : ∀ ref ∈ pc'.owner, ∀ ref' ∈ pc₀.owner, ref.sagaId ≠ ref'.sagaId := by
      intro ref href ref' href' heq
      rcases heff.owner ref href with hold | ⟨rfl, hlive, -⟩
      · exact hpr.2 ref hold ref' href' heq
      · have hsame := hpr.1 ref rfl ref' (CallbackPc.claim_of_owner href') heq
        exact hlive (hdead (hsame ▸ howner ref' href'))
    exact ⟨⟨hclaims, howners⟩,
      fun ref' href' ref href heq ↦ (hclaims ref href ref' href' heq.symm).symm,
      fun ref' href' ref href heq ↦ howners ref href ref' href' heq.symm⟩

/-- A step of a handler is a step of one of the two machines. -/
theorem effect_of_handler_step {h' : Handler} (hstep : h.step srv w = some (w', h')) :
    (∃ req env pc pc', h = .initiate req env pc ∧ h' = .initiate req env pc' ∧
        InitiatePc.Effect env w pc w' pc') ∨
      ∃ req env pc pc', h = .callback req env pc ∧ h' = .callback req env pc' ∧
        CallbackPc.Effect env w pc w' pc' := by
  rcases h with ⟨req, env, pc⟩ | ⟨req, env, pc⟩
  · obtain ⟨⟨w₁, pc'⟩, hpc, heq⟩ := Option.map_eq_some_iff.1 hstep
    obtain ⟨rfl, rfl⟩ := Prod.mk.inj heq
    exact .inl ⟨req, env, pc, pc', rfl, rfl, InitiatePc.effect_of_step hpc⟩
  · obtain ⟨⟨w₁, pc'⟩, hpc, heq⟩ := Option.map_eq_some_iff.1 hstep
    obtain ⟨rfl, rfl⟩ := Prod.mk.inj heq
    exact .inr ⟨req, env, pc, pc', rfl, rfl, CallbackPc.effect_of_step hpc⟩

/-- **Whoever finds the nonce alive finds a saga without traces**: an owner would have consumed the
nonce, and so would whoever completed the saga. -/
theorem Inv.bare_of_live (hinv : Inv P) {req : CallbackRequest} {env : CallbackEnv} {ref : SagaRef}
    (hi : P.procs[i]? = some (.callback req env (.consume ref)))
    (hlive : P.store.redis.get P.store.now (nonceKey ref.nonce) ≠ none) :
    P.store.Bare ref.sagaId := by
  have hdead : P.store.redis.entries (nonceKey ref.nonce) ≠ none := fun hn ↦
    hlive (by rw [ExpiringStore.get, hn])
  obtain ⟨-, hclaim, -, -⟩ := hinv.holds.each i _ hi
  rcases hinv.settled ref.sagaId with ⟨r, hr, ref', href', heq⟩ | hsettled
  · obtain ⟨j, hj⟩ := List.mem_iff_getElem?.1 hr
    rcases r with ⟨req₀, env₀, pc₀⟩ | ⟨req₀, env₀, pc₀⟩
    · exact absurd href' (by simp [Handler.owner])
    · have hne : i ≠ j := by
        rintro rfl
        obtain ⟨-, -, rfl⟩ := Handler.callback.inj (Option.some.inj (hi.symm.trans hj))
        exact absurd href' (by simp [Handler.owner, CallbackPc.owner])
      obtain ⟨-, -, howner, -⟩ := hinv.holds.each j _ hj
      have hsame := (hinv.holds.pair i j _ _ hne hi hj).1 ref rfl ref'
        (CallbackPc.claim_of_owner href') heq.symm
      exact absurd (hsame ▸ howner ref' href') hdead
  · refine hsettled.bare fun s hs hst ↦ hdead ?_
    rw [← hclaim ref rfl s hs]
    exact hinv.holds.store.consumed ref.sagaId s hs hst

/-- A step of a handler keeps the invariant. -/
theorem inv_advance (hinv : Inv P) (hfree : GhostFree P (.step i))
    (hadv : P.advance (Handler.step srv) i = some Q) : Inv Q := by
  have hfree' : ∀ p, P.procs[i]? = some p → p.GhostFree P.store := fun p hp ↦ hfree p hp
  refine ⟨hinv.holds.advance hadv ?_ ?_ ?_, fun sagaId ↦ ?_⟩
  · -- The handler's own assertion, and the ledger.
    intro p w' q hp hstep
    have hlocal := hinv.holds.each i p hp
    rcases effect_of_handler_step hstep with
      ⟨req, env, pc, pc', rfl, rfl, heff⟩ | ⟨req, env, pc, pc', rfl, rfl, heff⟩
    · exact ⟨heff.ledger hinv.holds.store hlocal, heff.stage hlocal⟩
    · obtain ⟨hw, hclaim, howner, hstage⟩ := hlocal
      refine ⟨heff.ledger (hfree' _ hp) hinv.holds.store hstage hclaim howner, hw,
        fun ref href s' hs' ↦ ?_, fun ref href ↦ ?_,
        heff.stage (hfree' _ hp) hinv.holds.store hstage fun ref heq hlive ↦
          hinv.bare_of_live (heq ▸ hp) hlive⟩
      · obtain ⟨s, hs, hsame, -⟩ := heff.saga hs'
        rw [hsame]
        rcases heff.claim ref href with hold | ⟨s₀, hs₀, hnonce⟩
        · exact hclaim ref hold s hs
        · obtain rfl : s₀ = s := Option.some.inj (hs₀.symm.trans hs)
          exact hnonce
      · rcases heff.owner ref href with hold | ⟨-, -, rfl⟩
        · exact heff.entries (howner ref hold)
        · rw [dropNonce, ExpiringStore.entries_delete, if_pos rfl]
  · -- Everybody else's assertion.
    intro p w' q j r hp hstep hne hr hlocal hpr hrp
    rcases effect_of_handler_step hstep with
      ⟨req, env, pc, pc', rfl, rfl, heff⟩ | ⟨req, env, pc, pc', rfl, rfl, heff⟩
    · exact local_of_initiate heff hlocal hpr hrp
    · exact local_of_callback heff (hfree' _ hp) hinv.holds.store (hinv.holds.each i _ hp) hlocal
        hpr hrp
  · intro p w' q j r hp hstep hne hr hlocal hpr hrp
    rcases effect_of_handler_step hstep with
      ⟨req, env, pc, pc', rfl, rfl, heff⟩ | ⟨req, env, pc, pc', rfl, rfl, heff⟩
    · exact apart_of_initiate heff hpr hrp
    · exact apart_of_callback heff hlocal hpr hrp
  · -- A saga that nobody owns any more.
    obtain ⟨p, w', q, hp, hstep, rfl⟩ := ProcessPool.advance_eq_some.1 hadv
    have hlocal := hinv.holds.each i p hp
    have hlt : i < P.procs.length := (List.getElem?_eq_some_iff.1 hp).1
    have hq : q ∈ P.procs.set i q :=
      List.mem_iff_getElem?.2 ⟨i, List.getElem?_set_self hlt⟩
    rcases hinv.settled sagaId with ⟨r, hr, ref, href, rfl⟩ | hsettled
    · obtain ⟨j, hj⟩ := List.mem_iff_getElem?.1 hr
      rcases eq_or_ne j i with rfl | hne
      · obtain rfl : p = r := Option.some.inj (hp.symm.trans hj)
        rcases effect_of_handler_step hstep with
          ⟨req, env, pc, pc', rfl, rfl, heff⟩ | ⟨req, env, pc, pc', rfl, rfl, heff⟩
        · exact absurd href (by simp [Handler.owner])
        · rcases heff.settled hlocal.1 hlocal.2.2.2 ref href with hstill | hdone
          · exact .inl ⟨_, hq, ref, hstill, rfl⟩
          · exact .inr hdone
      · refine .inl ⟨r, List.mem_iff_getElem?.2 ⟨j, ?_⟩, ref, href, rfl⟩
        rw [List.getElem?_set_ne hne.symm]
        exact hj
    · rcases effect_of_handler_step hstep with
        ⟨req, env, pc, pc', rfl, rfl, heff⟩ | ⟨req, env, pc, pc', rfl, rfl, heff⟩
      · by_cases hown : pc.unsaved ∧ sagaId = env.sagaId
        · obtain ⟨hu, rfl⟩ := hown
          obtain ⟨htokens, horigin, hap⟩ := heff.traces
          obtain ⟨hnone, hrows, hconns⟩ := hlocal.unsaved hu
          refine .inr fun s hs ↦ ?_
          rcases heff.saga hs with hold | ⟨-, -, hinit, -⟩
          · exact absurd (hnone.symm.trans hold) (by simp)
          · refine ⟨fun hst ↦ absurd (hinit.symm.trans hst) (by simp), fun _ ↦ ⟨fun t ht ↦ ?_,
              fun c hc ↦ ?_⟩⟩
            · rw [RowOf, originOf, htokens, horigin] at ht
              exact hrows t ht
            · rw [ConnectionOf, hap] at hc
              exact hconns c hc
        · exact .inr (hsettled.keeps (heff.keeps fun hu heq ↦ hown ⟨hu, heq⟩))
      · by_cases hown : ∃ ref ∈ pc.owner, ref.sagaId = sagaId
        · obtain ⟨ref, href, rfl⟩ := hown
          rcases heff.settled hlocal.1 hlocal.2.2.2 ref href with hstill | hdone
          · exact .inl ⟨_, hq, ref, hstill, rfl⟩
          · exact .inr hdone
        · refine .inr (hsettled.keeps ?_)
          exact heff.keeps (hfree' _ hp) hinv.holds.store hlocal.2.2.2 fun ref href heq ↦
            hown ⟨ref, href, heq.symm⟩

/-- Time changes nothing that the invariant is about. -/
theorem inv_tick (hinv : Inv P) (now : Time) : Inv (P.touch { P.store with now := now }) := by
  have hkeeps : ∀ sagaId, Keeps sagaId P.store { P.store with now := now } := fun _ ↦
    .of_eq rfl rfl rfl (.inl rfl)
  obtain ⟨hpointer, hexternal, hinjective, hconsumed⟩ := hinv.holds.store
  refine ⟨hinv.holds.touch ⟨hpointer, hexternal, hinjective, hconsumed⟩ fun j r hj hr ↦ ?_,
    fun sagaId ↦ (hinv.settled sagaId).imp_right fun hs ↦ hs.keeps (hkeeps sagaId)⟩
  rcases r with ⟨req, env, pc⟩ | ⟨req, env, pc⟩
  · exact ⟨hr.unsaved, hr.unregistered⟩
  · obtain ⟨hw, hclaim, howner, hstage⟩ := hr
    exact ⟨hw, hclaim, howner, hstage.keeps fun ref _ ↦ hkeeps ref.sagaId⟩

/-- A new handler keeps the invariant when it starts with its assertion, apart from everyone. -/
theorem inv_spawn (hinv : Inv P) (hlocal : h.Local P.store)
    (hcross : ∀ (j : ℕ) r, P.procs[j]? = some r → Handler.Apart r h ∧ Handler.Apart h r) :
    Inv (P.spawn P.store [h]) := by
  refine ⟨hinv.holds.spawn hinv.holds.store (fun _ _ _ hr ↦ hr) (fun r hr ↦ ?_)
    (fun j r q hj hq ↦ ?_) fun j k r q hjk hr hq ↦ ?_, fun sagaId ↦ ?_⟩
  · obtain rfl := List.mem_singleton.1 hr
    exact hlocal
  · obtain rfl := List.mem_singleton.1 hq
    exact hcross j r hj
  · have hj := (List.getElem?_eq_some_iff.1 hr).1
    have hk := (List.getElem?_eq_some_iff.1 hq).1
    rw [List.length_singleton] at hj hk
    omega
  · rcases hinv.settled sagaId with ⟨r, hr, howned⟩ | hsettled
    · exact .inl ⟨r, List.mem_append_left _ hr, howned⟩
    · exact .inr hsettled

/-- **The step lemma.** -/
theorem inv_step {a : OAuthAction} (hinv : Inv P) (hfree : GhostFree P a) (hw : HandlersWrite a)
    (hstep : (system srv).step P a = some Q) : Inv Q := by
  cases a with
  | tick elapsed =>
    obtain rfl := Option.some.inj hstep
    exact inv_tick hinv _
  | step i => exact inv_advance hinv hfree hstep
  | callback req env =>
    obtain rfl := Option.some.inj hstep
    refine inv_spawn hinv ⟨hw, fun ref href ↦ ?_, fun ref href ↦ ?_, trivial⟩ fun j r hj ↦ ?_
    · exact absurd href (by simp [CallbackPc.claim, CallbackPc.owner])
    · exact absurd href (by simp [CallbackPc.owner])
    · have hnone : ∀ ref, ref ∉ CallbackPc.claim .start ∧ ref ∉ CallbackPc.owner .start :=
        fun ref ↦ ⟨by simp [CallbackPc.claim, CallbackPc.owner], by simp [CallbackPc.owner]⟩
      rcases r with ⟨req₀, env₀, pc₀⟩ | ⟨req₀, env₀, pc₀⟩
      · exact ⟨⟨fun _ ref href ↦ absurd href (hnone ref).1,
          fun _ ref href ↦ absurd href (hnone ref).2⟩, trivial⟩
      · exact ⟨⟨fun _ _ ref href ↦ absurd href (hnone ref).1,
          fun _ _ ref href ↦ absurd href (hnone ref).2⟩,
          fun ref href ↦ absurd href (hnone ref).1, fun ref href ↦ absurd href (hnone ref).2⟩
  | initiate req env =>
    have hstep' :
        (if Fresh P env then some (P.spawn P.store [.initiate req env .start]) else none) =
        some Q := hstep
    split at hstep'
    · rename_i hfresh
      obtain rfl := Option.some.inj hstep'
      refine inv_spawn hinv ⟨fun _ ↦ ⟨hfresh.saga, fun t ht ↦ ?_, fun c hc ↦ ?_⟩,
        fun _ ↦ ⟨hfresh.redis, fun sagaId s hs hn ↦ ?_⟩⟩ fun j r hj ↦ ?_
      · obtain ⟨p, hp, hsaga⟩ := Option.map_eq_some_iff.1 ht.2
        exact hfresh.origin p (List.mem_of_find?_eq_some hp) hsaga
      · exact hfresh.ap c hc.1 hc.2
      · exact absurd hn (hfresh.nonce s (KeyedTable.find?_eq_some_iff.1 hs).1)
      · have havoid := hfresh.procs r (List.mem_of_getElem? hj)
        rcases r with ⟨req₀, env₀, pc₀⟩ | ⟨req₀, env₀, pc₀⟩
        · exact ⟨havoid, fun heq ↦ havoid.1 heq.symm, fun heq ↦ havoid.2 heq.symm⟩
        · exact ⟨trivial, fun _ ref href ↦ (havoid ref href).1,
            fun _ ref href ↦ (havoid ref (CallbackPc.claim_of_owner href)).2⟩
    · exact absurd hstep' (by simp)

theorem inv_initial (now : Time) : Inv (initial now) := by
  have hnone : ∀ sagaId, (empty now).sagas.find? sagaId = none := fun _ ↦ rfl
  refine ⟨⟨⟨fun sagaId s t hs ↦ ?_, fun c hc ↦ ?_, fun c hc ↦ ?_, fun sagaId s hs ↦ ?_⟩,
    fun i p hp ↦ ?_, fun i j p r _ hp ↦ ?_⟩, fun sagaId ↦ .inr fun s hs ↦ ?_⟩
  · exact absurd ((hnone sagaId).symm.trans hs) (by simp)
  · exact absurd hc List.not_mem_nil
  · exact absurd hc List.not_mem_nil
  · exact absurd ((hnone sagaId).symm.trans hs) (by simp)
  · exact absurd hp (by simp [initial])
  · exact absurd hp (by simp [initial])
  · exact absurd ((hnone sagaId).symm.trans hs) (by simp)

/-! ### The law -/

/-- The saga is `COMPLETED` with its vault row and its connection, or neither is left of it. -/
def NoGhost (w : OAuthWorld) (saga : OAuthSaga) : Prop :=
  (saga.status = .completed ∧
      (∃ r ∈ w.tokens.rows, saga.encryptedTokenId = some r.id ∧ w.originOf r.id = some saga.id) ∧
      ∃ c ∈ w.ap, c.sagaId = saga.id) ∨
    (saga.status ≠ .completed ∧
      (∀ r ∈ w.tokens.rows, w.originOf r.id = some saga.id → r.status ≠ .active) ∧
      ∀ c ∈ w.ap, c.sagaId ≠ saga.id)

instance (w : OAuthWorld) (saga : OAuthSaga) : Decidable (NoGhost w saga) :=
  inferInstanceAs (Decidable ((_ ∧ (∃ r ∈ w.tokens.rows, _) ∧ ∃ c ∈ w.ap, _) ∨
    (_ ∧ (∀ r ∈ w.tokens.rows, _) ∧ ∀ c ∈ w.ap, _)))

/-- A settled saga is no ghost. -/
theorem noGhost_of_settled {saga : OAuthSaga} (hmem : saga ∈ w.sagas.rows)
    (h : w.Settled saga.id) : NoGhost w saga := by
  obtain ⟨hdone, hopen⟩ := h saga (KeyedTable.find?_eq_some_iff.2 ⟨hmem, rfl⟩)
  by_cases hst : saga.status = .completed
  · obtain ⟨⟨t, hptr, hrow, horigin⟩, c, hc, hown⟩ := hdone hst
    obtain ⟨r, hfind⟩ := Option.isSome_iff_exists.1 hrow
    obtain ⟨hr, rfl⟩ := KeyedTable.find?_eq_some_iff.1 hfind
    exact .inl ⟨hst, ⟨r, hr, hptr, horigin⟩, c, hc, hown⟩
  · obtain ⟨hrows, hconns⟩ := hopen hst
    refine .inr ⟨hst, fun r hr horigin ↦ ?_, fun c hc hown ↦ hconns c ⟨hc, hown⟩⟩
    have hfind : w.tokens.find? r.id = some r := KeyedTable.find?_eq_some_iff.2 ⟨hr, rfl⟩
    exact absurd ⟨by rw [hfind]; rfl, horigin⟩ (hrows r.id)

/-- A stage before the completion is one of a saga that is not `COMPLETED`. -/
theorem Stage.ne_completed {pc : CallbackPc} (hstage : pc.Stage w) :
    ∀ ref ∈ pc.owner, ∀ s, w.sagas.find? ref.sagaId = some s → s.status ≠ .completed := by
  intro ref href s hs
  cases pc with
  | exchange | persist =>
    obtain rfl := Option.some.inj href
    exact (hstage s hs).1
  | createAp | compensate =>
    obtain rfl := Option.some.inj href
    exact (hstage.2 s hs).1.1
  | finalize | deleteAp =>
    obtain rfl := Option.some.inj href
    exact (hstage.2.2 s hs).1
  | start | findSaga | markLoad | markWrite | loadSaga | consume | done =>
    exact absurd href (by simp [CallbackPc.owner])

/-- **A `COMPLETED` saga stays so**, unless its own initiation deletes it. -/
theorem completed_step {a : OAuthAction} (hinv : Inv P) (hfree : GhostFree P a)
    (hstep : (system srv).step P a = some Q) {sagaId : String}
    (hst : P.store.statusOf sagaId = some .completed) :
    Q.store.statusOf sagaId = some .completed ∨ Q.store.statusOf sagaId = none := by
  obtain ⟨s, hs, hdone⟩ := Option.map_eq_some_iff.1 hst
  have hkept : ∀ w', Keeps sagaId P.store w' →
      w'.statusOf sagaId = some .completed ∨ w'.statusOf sagaId = none := by
    intro w' hk
    rcases hk.saga with heq | hnone | ⟨s₀, s', hs₀, -, hne, -⟩
    · exact .inl (by rw [statusOf, heq, hs, Option.map_some, hdone])
    · exact .inr (by rw [statusOf, hnone, Option.map_none])
    · obtain rfl : s₀ = s := Option.some.inj (hs₀.symm.trans hs)
      exact absurd hdone hne
  cases a with
  | tick elapsed =>
    obtain rfl := Option.some.inj hstep
    exact .inl hst
  | callback req env =>
    obtain rfl := Option.some.inj hstep
    exact .inl hst
  | initiate req env =>
    have hstep' :
        (if Fresh P env then some (P.spawn P.store [.initiate req env .start]) else none) =
        some Q := hstep
    split at hstep'
    · obtain rfl := Option.some.inj hstep'
      exact .inl hst
    · exact absurd hstep' (by simp)
  | step i =>
    obtain ⟨p, w', q, hp, hnext, rfl⟩ := ProcessPool.advance_eq_some.1 hstep
    have hlocal := hinv.holds.each i p hp
    rcases effect_of_handler_step hnext with
      ⟨req, env, pc, pc', rfl, rfl, heff⟩ | ⟨req, env, pc, pc', rfl, rfl, heff⟩
    · refine hkept w' (heff.keeps fun hu heq ↦ ?_)
      exact absurd ((hlocal.unsaved hu).1.symm.trans (heq ▸ hs)) (by simp)
    · refine hkept w' (heff.keeps (hfree _ hp) hinv.holds.store hlocal.2.2.2 fun ref href heq ↦ ?_)
      exact Stage.ne_completed hlocal.2.2.2 ref href s (heq ▸ hs) hdone

/-- **No ghosts.** On every run of initiations and callbacks whose steps are ghost-free, and whose
failure handlers can write, every saga of a quiescent state is `COMPLETED` with both traces or has
neither, and no ghost-free step takes a saga out of `COMPLETED` but the deletion by its own
initiation. -/
theorem no_ghost {now : Time} {as : List OAuthAction} (hw : ∀ a ∈ as, HandlersWrite a)
    (hfree : (system srv).Meets GhostFree (initial now) as)
    (hrun : (system srv).run (initial now) as = some P) :
    (Quiescent P → ∀ saga ∈ P.store.sagas.rows, NoGhost P.store saga) ∧
      ∀ a Q, GhostFree P a → (system srv).step P a = some Q → ∀ sagaId,
        P.store.statusOf sagaId = some .completed →
          Q.store.statusOf sagaId = some .completed ∨ Q.store.statusOf sagaId = none := by
  have hinv : Inv P := TransitionSystem.invariant_of_run
    (fun _ _ _ hinv hc hstep ↦ inv_step hinv hc.1 hc.2 hstep) (inv_initial now)
    (hfree.and_of_forall hw) hrun
  refine ⟨fun hq saga hsaga ↦ noGhost_of_settled hsaga ?_,
    fun a Q ha hstep sagaId hst ↦ completed_step hinv ha hstep hst⟩
  rcases hinv.settled saga.id with ⟨h, hh, ref, href, -⟩ | hsettled
  · -- An owner is not done.
    have hdone := hq h hh
    rcases h with ⟨req, env, pc⟩ | ⟨req, env, pc⟩
    · exact absurd href (by simp [Handler.owner])
    · cases pc with
      | done => exact absurd href (by simp [Handler.owner, CallbackPc.owner])
      | start | findSaga | markLoad | markWrite | loadSaga | consume | exchange | persist
        | createAp | finalize | deleteAp | compensate =>
        exact absurd hdone (by simp [Handler.IsDone])
  · exact hsettled

/-! ### Concrete interleavings -/

section Example

/-- The initiation of saga `s1`. -/
def demoInitiate : OAuthAction :=
  .initiate ⟨"slack", some "t1", none⟩ ⟨"s1", "n1", "v1", none, "", true, .answered, none⟩

/-- One handshake: the initiation runs to its end, then the callback. -/
def handshake : List OAuthAction :=
  [demoInitiate, .step 0, .step 0, .step 0, .callback demoRequest quietEnv] ++
    List.replicate 7 (.step 1)

/-- Two callbacks with one state: the second has read the saga before the first completes it. -/
def duplicateCallback : List OAuthAction :=
  [demoInitiate, .step 0, .step 0, .step 0, .callback demoRequest quietEnv,
      .callback demoRequest quietEnv, .step 2, .step 2] ++
    List.replicate 7 (.step 1) ++ List.replicate 3 (.step 2)

/-- One handshake leaves no ghost. -/
theorem no_ghost_example :
    ∃ P, (system demoServer).run (initial 0) handshake = some P ∧ Quiescent P ∧
      P.store.statusOf "s1" = some .completed ∧
      ∀ saga ∈ P.store.sagas.rows, NoGhost P.store saga := by
  have hsome : ((system demoServer).run (initial 0) handshake).any (fun P ↦
      Quiescent P ∧ P.store.statusOf "s1" = some .completed) = true := by decide +kernel
  obtain ⟨P, hrun, hP⟩ := (Option.any_eq_true _ _).1 hsome
  obtain ⟨hq, hst⟩ := of_decide_eq_true hP
  have hfree : (system demoServer).Meets GhostFree (initial 0) handshake := by decide +kernel
  exact ⟨P, hrun, hq, hst, (no_ghost (by decide +kernel) hfree hrun).1 hq⟩

/-- **A duplicate callback fails a completed saga**: it finds the nonce consumed and marks the saga
`FAILED`, which by then is `COMPLETED`; the vault row stays live and the connection stays. -/
theorem duplicate_callback_leaves_ghost :
    (∀ a ∈ duplicateCallback, HandlersWrite a) ∧
      ∃ P, (system demoServer).run (initial 0) duplicateCallback = some P ∧ Quiescent P ∧
        P.store.statusOf "s1" = some .failed ∧
        ∃ saga ∈ P.store.sagas.rows, ¬ NoGhost P.store saga := by
  refine ⟨by decide +kernel, ?_⟩
  have hsome : ((system demoServer).run (initial 0) duplicateCallback).any (fun P ↦
      Quiescent P ∧ P.store.statusOf "s1" = some .failed ∧
        ∃ saga ∈ P.store.sagas.rows, ¬ NoGhost P.store saga) = true := by decide +kernel
  obtain ⟨P, hrun, hP⟩ := (Option.any_eq_true _ _).1 hsome
  exact ⟨P, hrun, of_decide_eq_true hP⟩

end Example

end OAuth

end Siyadah
