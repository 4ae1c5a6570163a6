import SiyadahOrchestrator.OAuth.Callback

/-!
# How a callback leaves its saga and the vault

A callback that has verified its state and found the saga `INITIATED` (`FindsSaga`) has committed
itself: whatever fails from here on, the saga has to reach a terminal status.

* `callback_settles_iff` — it does exactly when Redis has a handle and answers the `GETDEL`. A
  missing handle ends the request with 503, and an exception of the Redis client passes both
  `except` clauses; in either case the saga stays `INITIATED`.
* `compensated_restores_iff` — a compensated callback gives the account its live credential back
  exactly when there was none to lose: `_persist_tokens` has retired the old row in a transaction of
  its own, and the compensation deletes the new one.
-/

namespace Siyadah

/-- The handler has verified the state and found the saga `INITIATED`; `ref` holds its locals. -/
def FindsSaga (srv : Server) (req : CallbackRequest) (env : CallbackEnv) (w : OAuthWorld)
    (ref : SagaRef) : Prop :=
  ∃ cfg code claims, CallbackPc.enter srv req w.now = .loadSaga cfg code claims ∧
    env.loadSaga = none ∧ CallbackPc.checkSaga w cfg code claims = .consume ref

/-- The database calls of the failure handlers go through. -/
def CallbackEnv.HandlersWrite (env : CallbackEnv) : Prop :=
  env.markLoad = none ∧ env.markWrite = none ∧ env.compensate = none

instance (env : CallbackEnv) : Decidable env.HandlersWrite :=
  inferInstanceAs (Decidable (_ ∧ _ ∧ _))

/-- The status of a saga. -/
def OAuthWorld.statusOf (w : OAuthWorld) (sagaId : String) : Option SagaStatus :=
  (w.sagas.find? sagaId).map OAuthSaga.status

section Settlement

variable {srv : Server} {req : CallbackRequest} {env : CallbackEnv} {w w' w₁ : OAuthWorld}
  {ref : SagaRef}

/-- What the handler knows of the saga it goes on with. -/
theorem FindsSaga.statusOf (h : FindsSaga srv req env w ref) :
    w.statusOf ref.sagaId = some .initiated := by
  obtain ⟨cfg, code, claims, -, -, hcheck⟩ := h
  rw [CallbackPc.checkSaga] at hcheck
  split at hcheck
  · exact absurd hcheck (by simp)
  · split at hcheck
    · exact absurd hcheck (by simp)
    · rename_i saga hnonce
      split at hcheck
      · exact absurd hcheck (by simp [httpText])
      · split at hcheck
        · exact absurd hcheck (by simp [httpText])
        · rename_i hstatus
          obtain rfl := CallbackPc.consume.inj hcheck
          have hsaga : w.sagas.find? saga.id = some saga :=
            KeyedTable.find?_eq_some_iff.2 ⟨(SagaTable.mem_of_findByNonce hnonce).1, rfl⟩
          show (w.sagas.find? saga.id).map OAuthSaga.status = some .initiated
          rw [hsaga, Option.map_some, not_not.1 hstatus]

theorem FindsSaga.callback_eq (h : FindsSaga srv req env w ref) :
    callback srv req env w = CallbackPc.finish srv req env w (.consume ref) := by
  obtain ⟨cfg, code, claims, henter, hload, hcheck⟩ := h
  rw [callback, CallbackPc.finish_of_step rfl, henter,
    CallbackPc.finish_of_step (by simp only [CallbackPc.step, hload]; rfl), hcheck]

/-! ### The status after each ending -/

theorem statusOf_finalize {tokenId externalId : String} {st : SagaStatus}
    (h : w.statusOf ref.sagaId = some st) :
    (w.finalize ref.sagaId tokenId externalId).statusOf ref.sagaId = some .completed := by
  obtain ⟨saga, hsaga, -⟩ := Option.map_eq_some_iff.1 h
  rw [OAuthWorld.statusOf, OAuthWorld.finalize, SagaTable.find?_complete, if_pos rfl, hsaga]
  rfl

theorem statusOf_compensate {tokenId reason : String} {st : SagaStatus}
    (h : w.statusOf ref.sagaId = some st) :
    (w.compensate ref.sagaId tokenId reason).statusOf ref.sagaId = some .compensated := by
  obtain ⟨saga, hsaga, -⟩ := Option.map_eq_some_iff.1 h
  rw [OAuthWorld.statusOf, OAuthWorld.compensate, SagaTable.find?_compensate, if_pos rfl,
    SagaTable.find?_forgetToken, hsaga]
  rfl

theorem statusOf_persistTokens {row : EncryptedToken} {st : SagaStatus}
    (h : w.statusOf ref.sagaId = some st) (hw : w.persistTokens ref.sagaId row = some w') :
    w'.statusOf ref.sagaId = some .tokenObtained := by
  obtain ⟨saga, hsaga, -⟩ := Option.map_eq_some_iff.1 h
  obtain ⟨tokens, -, rfl⟩ := Option.map_eq_some_iff.1 hw
  rw [OAuthWorld.statusOf, SagaTable.find?_obtain, if_pos rfl, hsaga]
  rfl

/-- After `_mark_saga_failed`, an `INITIATED` saga is `FAILED`, or the database let it down. -/
theorem statusOf_finish_markLoad {report : FailureReport}
    (h : w.statusOf report.sagaId = some .initiated) :
    (CallbackPc.finish srv req env w (.markLoad report)).1.statusOf report.sagaId =
      if env.markLoad = none ∧ env.markWrite = none then some .failed else some .initiated := by
  obtain ⟨saga, hsaga, hst⟩ := Option.map_eq_some_iff.1 h
  rw [CallbackPc.finish_markLoad, hsaga]
  have hne : saga.status ≠ .failed := by rw [hst]; decide
  simp only [hne, ne_eq, not_false_eq_true, and_true]
  split
  · rw [OAuthWorld.statusOf, OAuthWorld.failSaga, SagaTable.find?_fail, if_pos rfl, hsaga]
    rfl
  · exact h

/-- **How a run ends that found its saga.** The saga is left where it was because Redis let the
handler down; or it is marked `FAILED`; or the vault row is stored and then the saga is `COMPLETED`,
or compensated with that row deleted again. -/
theorem FindsSaga.endings (h : FindsSaga srv req env w ref) :
    (¬ (env.redisReady ∧ env.getdel = .answered) ∧
        (callback srv req env w).1.statusOf ref.sagaId = some .initiated) ∨
      ((env.redisReady ∧ env.getdel = .answered) ∧
        ((callback srv req env w).1.statusOf ref.sagaId =
            (if env.markLoad = none ∧ env.markWrite = none then some .failed
              else some .initiated) ∨
          ∃ parsed w₁, env.exchange = .tokens parsed ∧
            CallbackPc.tryPersist env (w.dropNonce ref.nonce) ref parsed = .ok w₁ ∧
            ((callback srv req env w).1.statusOf ref.sagaId = some .completed ∨
              (callback srv req env w).1.statusOf ref.sagaId =
                  (if env.compensate = none then some .compensated else some .tokenObtained) ∧
                (env.compensate = none →
                  (callback srv req env w).1.tokens = w₁.tokens.deleteToken env.tokenId)))) := by
  have hstatus : (w.dropNonce ref.nonce).statusOf ref.sagaId = some .initiated := h.statusOf
  rw [h.callback_eq]
  rcases CallbackPc.finish_consume srv req env w ref with
    ⟨hno, hsagas, -⟩ | ⟨hyes, ⟨report, hid, hrun⟩ | ⟨parsed, w₁, hex, hper, hrun⟩⟩
  · refine .inl ⟨hno, ?_⟩
    rw [OAuthWorld.statusOf, hsagas]
    exact h.statusOf
  · refine .inr ⟨hyes, .inl ?_⟩
    rw [hrun, ← hid]
    exact statusOf_finish_markLoad (hid.symm ▸ hstatus)
  · refine .inr ⟨hyes, .inr ⟨parsed, w₁, hex, hper, ?_⟩⟩
    obtain ⟨crypto, row, -, -, hrow⟩ := CallbackPc.tryPersist_eq_ok hper
    have hobtained : w₁.statusOf ref.sagaId = some .tokenObtained :=
      statusOf_persistTokens hstatus hrow
    obtain ⟨w₂, htokens, hsagas, ⟨externalId, hfin⟩ | ⟨reason, hcomp⟩⟩ :=
      CallbackPc.finish_createAp srv req env w₁ ref parsed env.tokenId
    · have hst₂ : w₂.statusOf ref.sagaId = some .tokenObtained := by
        rw [OAuthWorld.statusOf, hsagas]
        exact hobtained
      rw [hrun, hfin]
      exact .inl (statusOf_finalize hst₂)
    · have hst₂ : w₂.statusOf ref.sagaId = some .tokenObtained := by
        rw [OAuthWorld.statusOf, hsagas]
        exact hobtained
      rw [hrun, hcomp]
      refine .inr ⟨?_, fun hnone ↦ ?_⟩
      · split
        · exact statusOf_compensate hst₂
        · exact hst₂
      · rw [if_pos hnone, OAuthWorld.compensate, ← htokens]

/-- **A callback that has found its saga settles it exactly when Redis answers.** -/
theorem callback_settles_iff (h : FindsSaga srv req env w ref) (hw : env.HandlersWrite) :
    (∃ st, (callback srv req env w).1.statusOf ref.sagaId = some st ∧ st.IsTerminal) ↔
      env.redisReady ∧ env.getdel = .answered := by
  obtain ⟨hload, hwrite, hcomp⟩ := hw
  rcases h.endings with ⟨hno, hst⟩ | ⟨hyes, hst | ⟨parsed, w₁, -, -, hst | ⟨hst, -⟩⟩⟩
  · refine iff_of_false ?_ hno
    rintro ⟨st, hst', hterm⟩
    obtain rfl : SagaStatus.initiated = st := Option.some.inj (hst.symm.trans hst')
    exact hterm.1 rfl
  · rw [if_pos ⟨hload, hwrite⟩] at hst
    exact iff_of_true ⟨_, hst, by decide⟩ hyes
  · exact iff_of_true ⟨_, hst, by decide⟩ hyes
  · rw [if_pos hcomp] at hst
    exact iff_of_true ⟨_, hst, by decide⟩ hyes

/-! ### The vault after a compensation -/

/-- `r` is a live row of the account. -/
def TokenTable.LiveOf (t : TokenTable) (tenant provider : String) (account : Option String)
    (r : EncryptedToken) : Prop :=
  r ∈ t.rows ∧ r.tenantId = tenant ∧ r.provider = provider ∧ r.providerAccountId = account ∧
    r.status = .active

/-- Storing a row and deleting it again brings the account's live rows back exactly when it had
none. -/
theorem TokenTable.liveOf_deleteToken_persistTokens_iff {t t₁ : TokenTable} {row : EncryptedToken}
    (h : t.persistTokens row = some t₁) :
    (∀ r, (t₁.deleteToken row.id).LiveOf row.tenantId row.provider row.providerAccountId r ↔
        t.LiveOf row.tenantId row.provider row.providerAccountId r) ↔
      ∀ account, truthy row.providerAccountId = some account →
        ¬ t.Holds row.tenantId row.provider account .active := by
  have hnew : t.find? row.id = none := TokenTable.find?_eq_none_of_persistTokens h
  have hfind : ∀ id, (t₁.deleteToken row.id).find? id =
      if id = row.id then none else (t.find? id).map fun r ↦
        if ∃ account, truthy row.providerAccountId = some account ∧
            r.IsActiveOf row.tenantId row.provider account = true
        then r.setStatus .revoked else r := by
    intro id
    rw [TokenTable.find?_deleteToken, TokenTable.find?_persistTokens h]
    split <;> rfl
  constructor
  · rintro hsame account htr ⟨r, hr, hu⟩
    obtain ⟨ht, hp, ha, hst⟩ := EncryptedToken.accountStatus_eq_some_iff.1 hu
    have haccount : row.providerAccountId = some account := (truthy_eq_some_iff.1 htr).1
    have hold : t.find? r.id = some r := KeyedTable.find?_eq_some_iff.2 ⟨hr, rfl⟩
    have hne : r.id ≠ row.id := fun hid ↦ absurd (hold.symm.trans (hid ▸ hnew)) (by simp)
    -- The live row is still there, but it is retired now.
    have hafter := ((hsame r).2 ⟨hr, ht, hp, ha.trans haccount.symm, hst⟩).1
    have hretired := hfind r.id
    rw [if_neg hne, hold, Option.map_some,
      if_pos ⟨account, htr, EncryptedToken.isActiveOf_iff.2 hu⟩,
      KeyedTable.find?_eq_some_iff.2 ⟨hafter, rfl⟩, Option.some.injEq] at hretired
    rw [hretired] at hst
    exact absurd hst (by simp)
  · intro hnone r
    constructor
    · rintro ⟨hr, ht, hp, ha, hst⟩
      have hafter := hfind r.id
      rw [KeyedTable.find?_eq_some_iff.2 ⟨hr, rfl⟩] at hafter
      split at hafter
      · exact absurd hafter (by simp)
      · obtain ⟨r₀, hr₀, hmap⟩ := Option.map_eq_some_iff.1 hafter.symm
        split at hmap
        · rw [← hmap] at hst
          exact absurd hst (by simp)
        · obtain rfl := hmap
          exact ⟨(KeyedTable.find?_eq_some_iff.1 hr₀).1, ht, hp, ha, hst⟩
    · rintro ⟨hr, ht, hp, ha, hst⟩
      have hold : t.find? r.id = some r := KeyedTable.find?_eq_some_iff.2 ⟨hr, rfl⟩
      have hne : r.id ≠ row.id := fun hid ↦ absurd (hold.symm.trans (hid ▸ hnew)) (by simp)
      have hkept := hfind r.id
      rw [if_neg hne, hold, Option.map_some, if_neg] at hkept
      · exact ⟨(KeyedTable.find?_eq_some_iff.1 hkept).1, ht, hp, ha, hst⟩
      · rintro ⟨account, htr, hlive⟩
        exact hnone account htr ⟨r, hr, EncryptedToken.isActiveOf_iff.1 hlive⟩

/-- **A compensated callback leaves the account's live credentials as they were exactly when the
account had none.** -/
theorem compensated_restores_iff {parsed : ParsedTokenResponse} (h : FindsSaga srv req env w ref)
    (hex : env.exchange = .tokens parsed)
    (hcomp : (callback srv req env w).1.statusOf ref.sagaId = some .compensated) :
    (∀ r, (callback srv req env w).1.tokens.LiveOf ref.tenantId ref.provider
          parsed.providerAccountId r ↔
        w.tokens.LiveOf ref.tenantId ref.provider parsed.providerAccountId r) ↔
      ∀ account, truthy parsed.providerAccountId = some account →
        ¬ w.tokens.Holds ref.tenantId ref.provider account .active := by
  rcases h.endings with
    ⟨-, hst⟩ | ⟨-, hst | ⟨parsed', w₁, hex', hper, hst | ⟨hst, htokens⟩⟩⟩
  · exact absurd (hst.symm.trans hcomp) (by simp)
  · rw [hcomp] at hst
    split at hst <;> exact absurd hst (by simp)
  · exact absurd (hst.symm.trans hcomp) (by simp)
  · obtain rfl : parsed = parsed' := ExchangeOutcome.tokens.inj (hex.symm.trans hex')
    rw [hcomp] at hst
    split at hst
    · rename_i hnone
      obtain ⟨crypto, row, -, hrow, hw₁⟩ := CallbackPc.tryPersist_eq_ok hper
      obtain ⟨t₁, ht₁, rfl⟩ := Option.map_eq_some_iff.1 hw₁
      obtain ⟨sealed, -, hsealed⟩ := EncryptedToken.exists_ofAnswer crypto env.rand env.tokenId
        ref.tenantId ref.provider parsed w.now
      obtain rfl := Except.ok.inj (hsealed.symm.trans hrow)
      rw [htokens hnone]
      exact TokenTable.liveOf_deleteToken_persistTokens_iff ht₁
    · exact absurd hst (by simp)

end Settlement

/-! ### Concrete callbacks -/

section Example

/-- The locals of `demoRequest` once its saga is found. -/
def demoRef : SagaRef := ⟨"s1", "t1", "slack", "n1", .ofString "/", "code-1", none⟩

/-- The request finds the saga, whatever else the world holds at the time. -/
theorem findsSaga_demo {env : CallbackEnv} {w : OAuthWorld} (hnow : w.now = 0)
    (hsagas : w.sagas = (demoWorld .initiated).sagas) (henv : env.loadSaga = none) :
    FindsSaga demoServer demoRequest env w demoRef := by
  have henter : CallbackPc.enter demoServer demoRequest 0 = .loadSaga ⟨"slack", false⟩ "code-1"
      ⟨.ofString "t1", .ofString "n1", 0, 300, .ofString "/"⟩ := by decide +kernel
  refine ⟨_, _, _, hnow ▸ henter, henv, ?_⟩
  show CallbackPc.checkSaga w _ _ _ = _
  have hsaga : w.sagas.findByNonce "n1" = some (demoSaga .initiated) := by rw [hsagas]; decide
  have hnonce : (PyStr.ofString "n1").toString? = some "n1" := PyStr.toString?_ofString _
  simp only [CallbackPc.checkSaga, hnonce, hsaga]
  decide

/-- With Redis answering, the saga is settled. -/
theorem callback_settles_example :
    ∃ st, (callback demoServer demoRequest quietEnv (demoWorld .initiated)).1.statusOf "s1" =
      some st ∧ st.IsTerminal :=
  (callback_settles_iff (findsSaga_demo rfl rfl rfl) ⟨rfl, rfl, rfl⟩).2 ⟨rfl, rfl⟩

/-- **Redis failures strand the saga**: without a handle, and when `GETDEL` raises. -/
theorem redis_failure_strands_saga :
    (callback demoServer demoRequest { quietEnv with redisReady := false }
        (demoWorld .initiated)).1.statusOf "s1" = some .initiated ∧
      (callback demoServer demoRequest
        { quietEnv with getdel := .raised false ⟨"ConnectionError", "connection refused"⟩ }
        (demoWorld .initiated)).1.statusOf "s1" = some .initiated := by
  decide +kernel

/-- ActivePieces refuses the connection. -/
def apDown : CallbackEnv :=
  { quietEnv with
    createAp := .raised false ⟨"RuntimeError", "AP create-connection failed: 500"⟩
    tokenId := "r2" }

/-- The saga, its nonce, and a credential of the account from an earlier authorization. -/
def reauthWorld : OAuthWorld :=
  match EncryptedToken.ofAnswer framedProvider (constantRandomness 7) "r1" "t1" "slack" firstAnswer
    0
  with
  | .ok row =>
    { demoWorld .initiated with tokens := (TokenTable.persistTokens .empty row).getD .empty }
  | .error _ => demoWorld .initiated

/-- Without an earlier credential, the compensation restores the vault: there is none. -/
theorem compensated_restores_example :
    (callback demoServer demoRequest apDown (demoWorld .initiated)).1.statusOf "s1" =
        some .compensated ∧
      ∀ r, (callback demoServer demoRequest apDown (demoWorld .initiated)).1.tokens.LiveOf "t1"
          "slack" (some "T1") r ↔
        (demoWorld .initiated).tokens.LiveOf "t1" "slack" (some "T1") r := by
  have hcomp : (callback demoServer demoRequest apDown (demoWorld .initiated)).1.statusOf "s1" =
      some .compensated := by decide +kernel
  have hfinds : FindsSaga demoServer demoRequest apDown (demoWorld .initiated) demoRef :=
    findsSaga_demo rfl rfl rfl
  have hex : apDown.exchange = .tokens firstAnswer := rfl
  refine ⟨hcomp, (compensated_restores_iff hfinds hex hcomp).2 ?_⟩
  rintro account - ⟨r, hr, -⟩
  exact absurd hr (List.not_mem_nil)

/-- **A failed re-authorization costs the tenant its credential**: the account had one live row
before and has none after. -/
theorem failed_reauthorization_loses_credential :
    FindsSaga demoServer demoRequest apDown reauthWorld demoRef ∧
      (callback demoServer demoRequest apDown reauthWorld).1.statusOf "s1" = some .compensated ∧
      reauthWorld.tokens.Holds "t1" "slack" "T1" .active ∧
      ¬ (callback demoServer demoRequest apDown reauthWorld).1.tokens.Holds "t1" "slack" "T1"
        .active := by
  refine ⟨findsSaga_demo rfl rfl rfl, ?_, ?_, ?_⟩ <;> decide +kernel

end Example

end Siyadah
