import SiyadahOrchestrator.OAuth.Callback

/-!
# Requests without a verified state

A callback is a public endpoint: the signed state token is its only credential. `Verified` says that
the token of a request verifies under the server's key.

The success path opens no store before the gate. The `error=` branch has no gate: it takes the nonce
from the unverified payload and marks the saga of that nonce `FAILED`, whatever its status was.
`deniedSaga` is that saga, and `callback_unauthenticated_iff` says that nothing else can happen.
-/

namespace Siyadah

/-- The request's token verifies under the server's key. -/
def Verified (srv : Server) (req : CallbackRequest) (now : Time) : Prop :=
  ∃ key state claims, srv.stateKey = .ok key ∧ req.state = some state ∧
    srv.lib.gate key (.ofString state) now = some (.ok claims)

/-- The saga that the `error=` branch attributes the request to, by an unverified nonce. -/
def deniedSaga (srv : Server) (req : CallbackRequest) (w : OAuthWorld) : Option OAuthSaga := do
  let _ ← getProvider req.provider
  let _ ← truthy req.error
  let state ← truthy req.state
  let (_, .str n) ← srv.lib.decodeStateUnsafe (.ofString state) | none
  w.sagas.findByNonce (← n.toString?)

/-- The three database calls of the attribution go through. -/
def CallbackEnv.Attributes (env : CallbackEnv) : Prop :=
  env.findSaga = none ∧ env.markLoad = none ∧ env.markWrite = none

instance (env : CallbackEnv) : Decidable env.Attributes := inferInstanceAs (Decidable (_ ∧ _ ∧ _))

/-- The sagas, the nonces and the vault are what they were. -/
def OAuthWorld.SameTables (w w' : OAuthWorld) : Prop :=
  w'.sagas = w.sagas ∧ w'.redis = w.redis ∧ w'.tokens = w.tokens

section Unauthenticated

variable {srv : Server} {req : CallbackRequest} {env : CallbackEnv} {w : OAuthWorld}

/-- A row that is marked `FAILED` for the first time changes the table. -/
theorem OAuthWorld.failSaga_sagas_ne {saga : OAuthSaga} (h : saga ∈ w.sagas.rows)
    (hst : saga.status ≠ .failed) (step reason : String) :
    (w.failSaga saga.id step reason).sagas ≠ w.sagas := by
  intro heq
  have hfind := KeyedTable.find?_eq_some_iff.2 ⟨h, rfl⟩
  have hnew : (w.failSaga saga.id step reason).sagas.find? saga.id =
      some (saga.fail step reason w.now) := by
    rw [failSaga, SagaTable.find?_fail, if_pos rfl, hfind, Option.map_some]
  rw [heq, hfind, Option.some.injEq] at hnew
  exact hst (congrArg OAuthSaga.status hnew)

/-- Without `error`, a request that does not verify ends at the gate. -/
theorem enter_of_not_verified (h : ¬ Verified srv req w.now) (herr : truthy req.error = none) :
    ∃ answer, CallbackPc.enter srv req w.now = .done answer := by
  unfold CallbackPc.enter
  split
  · exact ⟨_, rfl⟩
  · rw [herr]
    simp only
    split
    · rename_i code state _ hstate
      split
      · exact ⟨_, rfl⟩
      · rename_i key hkey
        split
        · exact ⟨_, rfl⟩
        · exact ⟨_, rfl⟩
        · exact ⟨_, rfl⟩
        · rename_i claims hgate
          exact absurd ⟨key, state, claims, hkey, (truthy_eq_some_iff.1 hstate).1, hgate⟩ h
    · exact ⟨_, rfl⟩

/-- The `error=` branch, up to its first `await`. -/
theorem finish_enter_of_error (srv : Server) (env : CallbackEnv) (w : OAuthWorld) {error : String}
    (herr : truthy req.error = some error) :
    (∃ answer, CallbackPc.finish srv req env w (.enter srv req w.now) = (w, .done answer) ∧
        deniedSaga srv req w = none) ∨
      ∃ cfg nonce, CallbackPc.enter srv req w.now = .findSaga cfg error nonce ∧
        deniedSaga srv req w = w.sagas.findByNonce nonce := by
  unfold CallbackPc.enter deniedSaga
  cases getProvider req.provider with
  | none => exact .inl ⟨_, rfl, rfl⟩
  | some cfg =>
    rw [herr]
    cases truthy req.state with
    | none => exact .inl ⟨_, rfl, rfl⟩
    | some state =>
      simp only [Option.bind_eq_bind, Option.bind_some]
      cases srv.lib.decodeStateUnsafe (.ofString state) with
      | none => exact .inl ⟨_, rfl, rfl⟩
      | some claims =>
        obtain ⟨tid, n⟩ := claims
        cases n with
        | str n =>
          simp only [Option.bind_some]
          cases n.toString? with
          | none => exact .inl ⟨_, rfl, rfl⟩
          | some nonce => exact .inr ⟨cfg, nonce, rfl, rfl⟩
        | null | bool | int | float | arr | obj => exact .inl ⟨_, rfl, rfl⟩

/-- **What the attribution does**: it marks the saga `FAILED` if its database calls go through. -/
theorem finish_findSaga (cfg : ProviderConfig) (error nonce : String) :
    (CallbackPc.finish srv req env w (.findSaga cfg error nonce)).1 =
      match w.sagas.findByNonce nonce with
      | some saga =>
        if env.Attributes ∧ saga.status ≠ .failed then
          w.failSaga saga.id "provider_denied" (CallbackPc.denialReport req error saga.id).reason
        else w
      | none => w := by
  rcases hfind : env.findSaga with - | e
  · rcases hnonce : w.sagas.findByNonce nonce with - | saga
    · rw [CallbackPc.finish_of_step (by simp only [CallbackPc.step, hfind, hnonce]; rfl)]
      rfl
    · rw [CallbackPc.finish_of_step (by simp only [CallbackPc.step, hfind, hnonce]; rfl),
        CallbackPc.finish_markLoad]
      have hsaga : w.sagas.find? saga.id = some saga :=
        KeyedTable.find?_eq_some_iff.2 ⟨(SagaTable.mem_of_findByNonce hnonce).1, rfl⟩
      simp only [CallbackPc.denialReport, hsaga, CallbackEnv.Attributes, hfind, true_and, and_assoc]
  · have hno : ¬ env.Attributes := fun h ↦ absurd (hfind.symm.trans h.1) (by simp)
    rw [CallbackPc.finish_of_step (by simp only [CallbackPc.step, hfind]; rfl)]
    rcases w.sagas.findByNonce nonce with - | saga <;> simp [hno]

/-- **An unverified request changes nothing exactly when its `error=` branch finds no saga to
fail.** -/
theorem callback_unauthenticated_iff (h : ¬ Verified srv req w.now) :
    w.SameTables (callback srv req env w).1 ↔
      ∀ saga, deniedSaga srv req w = some saga → env.Attributes → saga.status = .failed := by
  have hstart : callback srv req env w =
      CallbackPc.finish srv req env w (.enter srv req w.now) := CallbackPc.finish_of_step rfl
  rw [hstart]
  cases herr : truthy req.error with
  | none =>
    obtain ⟨answer, hdone⟩ := enter_of_not_verified h herr
    have hnone : deniedSaga srv req w = none := by
      unfold deniedSaga
      rw [herr]
      cases getProvider req.provider <;> rfl
    simp [hdone, hnone, OAuthWorld.SameTables]
  | some error =>
    rcases finish_enter_of_error srv env w herr with
      ⟨answer, hdone, hnone⟩ | ⟨cfg, nonce, henter, hdenied⟩
    · simp [hdone, hnone, OAuthWorld.SameTables]
    · rw [henter, finish_findSaga, hdenied]
      cases hnonce : w.sagas.findByNonce nonce with
      | none => simp [OAuthWorld.SameTables]
      | some saga =>
        simp only [Option.some.injEq, forall_eq']
        by_cases hcond : env.Attributes ∧ saga.status ≠ .failed
        · rw [if_pos hcond]
          refine iff_of_false (fun hsame ↦ ?_) fun hall ↦ hcond.2 (hall hcond.1)
          exact w.failSaga_sagas_ne (SagaTable.mem_of_findByNonce hnonce).1 hcond.2 _ _ hsame.1
        · rw [if_neg hcond]
          exact iff_of_true ⟨rfl, rfl, rfl⟩ fun hattr ↦ by_contra fun hst ↦ hcond ⟨hattr, hst⟩

end Unauthenticated

/-! ### A forged denial -/

section Example

/-- A payload without a signature, and an `error`. -/
def forgedDenial : CallbackRequest :=
  ⟨"slack", none, some unsignedState, some "access_denied", none⟩

theorem not_verified_forgedDenial (now : Time) : ¬ Verified demoServer forgedDenial now := by
  rintro ⟨key, state, claims, hkey, hstate, hgate⟩
  obtain rfl : constantBytes 32 0 = key := Except.ok.inj hkey
  obtain rfl : unsignedState = state := Option.some.inj hstate
  have hsig : demoLib.openToken (constantBytes 32 0) (.ofString unsignedState) =
      .error (.state .stateSignatureError) := by decide
  obtain ⟨payloadBytes, hopen⟩ := StdLib.exists_openToken_of_gate hgate
  exact absurd (hsig.symm.trans hopen) (by simp)

/-- Without a saga of that nonce, the forged request changes nothing. -/
theorem callback_unauthenticated_example :
    ¬ Verified demoServer forgedDenial 0 ∧
      (OAuthWorld.empty 0).SameTables
        (callback demoServer forgedDenial quietEnv (.empty 0)).1 := by
  have hnone : deniedSaga demoServer forgedDenial (.empty 0) = none := by decide
  have hforged : ¬ Verified demoServer forgedDenial (OAuthWorld.empty 0).now :=
    not_verified_forgedDenial 0
  refine ⟨hforged, (callback_unauthenticated_iff hforged).2 fun saga hsaga ↦ ?_⟩
  exact absurd (hnone.symm.trans hsaga) (by simp)

/-- **A forged request fails a completed saga.** -/
theorem forged_denial_fails_completed :
    ¬ Verified demoServer forgedDenial (demoWorld .completed).now ∧
      ¬ (demoWorld .completed).SameTables
        (callback demoServer forgedDenial quietEnv (demoWorld .completed)).1 ∧
      ((callback demoServer forgedDenial quietEnv (demoWorld .completed)).1.sagas.find? "s1").map
        OAuthSaga.status = some .failed := by
  have hfailed : ((callback demoServer forgedDenial quietEnv
      (demoWorld .completed)).1.sagas.find? "s1").map OAuthSaga.status = some .failed := by decide
  refine ⟨not_verified_forgedDenial _, fun hsame ↦ ?_, hfailed⟩
  rw [hsame.1] at hfailed
  exact absurd hfailed (by decide)

end Example

end Siyadah
