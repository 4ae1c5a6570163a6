import SiyadahOrchestrator.OAuth.Initiate

/-!
# Whether an initiation is atomic

`oauth_initiate` writes a saga to the database and then its nonce to Redis. If the second write
fails the handler deletes the saga again, and that is not enough in two cases. `_get_redis` stands
before the `try`, so without a handle the saga stays (`missing_handle_strands_saga`). And when
`SET … NX` raises after Redis has carried it out, the saga is deleted and the nonce stays. A request
is atomic exactly when it runs into neither (`initiate_atomic_iff`).
-/

namespace Siyadah

/-! ### A request alone -/

namespace InitiatePc

/-- A bound on the steps that are left. -/
def rank : InitiatePc → ℕ
  | .start => 4
  | .insert _ _ _ => 3
  | .register _ _ _ _ => 2
  | .rollback _ => 1
  | .done _ => 0

/-- At most so many steps of the handler. -/
def runAlone (srv : Server) (req : InitiateRequest) (env : InitiateEnv) :
    ℕ → OAuthWorld → InitiatePc → OAuthWorld × InitiatePc
  | 0, w, pc => (w, pc)
  | n + 1, w, pc =>
    match step srv req env w pc with
    | some (w', pc') => runAlone srv req env n w' pc'
    | none => (w, pc)

section Alone

variable {srv : Server} {req : InitiateRequest} {env : InitiateEnv} {w w' : OAuthWorld}
  {pc pc' : InitiatePc} {n : ℕ}

theorem runAlone_of_step (h : step srv req env w pc = some (w', pc')) :
    runAlone srv req env (n + 1) w pc = runAlone srv req env n w' pc' := by
  rw [runAlone, h]

theorem runAlone_start :
    runAlone srv req env (n + 1) w .start = runAlone srv req env n w (enter srv req) := rfl

@[simp] theorem runAlone_done (answer : InitiateAnswer) :
    runAlone srv req env n w (.done answer) = (w, .done answer) := by
  cases n <;> rfl

end Alone

end InitiatePc

/-- `oauth_initiate` on a world that nothing else changes meanwhile. -/
def initiate (srv : Server) (req : InitiateRequest) (env : InitiateEnv) (w : OAuthWorld) :
    OAuthWorld × InitiatePc :=
  InitiatePc.runAlone srv req env InitiatePc.start.rank w .start

/-! ### Atomic requests -/

/-- The answer has the status 200. -/
def InitiateAnswer.isStarted : InitiateAnswer → Bool
  | .started _ _ _ _ => true
  | _ => false

/-- The live value of a nonce. -/
def OAuthWorld.tenantOfNonce (w : OAuthWorld) (nonce : String) : Option String :=
  w.redis.get w.now (nonceKey nonce)

/-- A request that is not answered with 200 has not changed the table, if its rollback can be
written; it registers no nonce without a saga; and one that is has inserted one saga, and registered
its nonce to its tenant. -/
structure Atomic (req : InitiateRequest) (env : InitiateEnv) (w w' : OAuthWorld)
    (answer : InitiateAnswer) : Prop where
  undone : answer.isStarted = false → env.rollback = none → w'.sagas.rows = w.sagas.rows
  accounted : ∀ nonce, w'.tenantOfNonce nonce ≠ w.tenantOfNonce nonce →
    ∃ saga ∈ w'.sagas.rows, saga.stateNonce = nonce
  started : answer.isStarted = true → ∃ saga, w'.sagas.rows = w.sagas.rows ++ [saga] ∧
    saga.status = .initiated ∧ truthy req.tenantId = some saga.tenantId ∧
    w'.tenantOfNonce saga.stateNonce = some saga.tenantId

/-- The request gets as far as the registration of the nonce. -/
def Registers (srv : Server) (req : InitiateRequest) (env : InitiateEnv) (w : OAuthWorld) : Prop :=
  ∃ tenantId provider scopes, InitiatePc.enter srv req = .insert tenantId provider scopes ∧
    env.insert = none ∧
    (w.insertSaga (InitiatePc.newSaga env tenantId provider scopes w.now)).isSome = true

/-- What the rollback does not make good: there is no handle of Redis, or the nonce is written by a
command that raises. -/
def Irreparable (env : InitiateEnv) (w : OAuthWorld) : Prop :=
  env.redisReady = false ∨
    env.nonce ≠ "" ∧ (∃ e, env.register = .raised true e) ∧ w.tenantOfNonce env.nonce = none

namespace InitiatePc

section Steps

variable {srv : Server} {req : InitiateRequest} {env : InitiateEnv} {w w' : OAuthWorld}
  {pc pc' : InitiatePc} {tenantId provider : String} {scopes : List String} {expiresAt : Time}
  {saga : OAuthSaga}

/-- The handler ends before its first `await`, or goes on to insert the saga. -/
theorem enter_cases (srv : Server) (req : InitiateRequest) :
    (∃ answer, enter srv req = .done answer ∧ answer.isStarted = false) ∨
      ∃ tenantId provider scopes, truthy req.tenantId = some tenantId ∧
        enter srv req = .insert tenantId provider scopes := by
  unfold enter
  split
  · exact .inl ⟨_, rfl, rfl⟩
  split
  · exact .inl ⟨_, rfl, rfl⟩
  rename_i tenantId htenant
  split
  · exact .inl ⟨_, rfl, rfl⟩
  · exact .inr ⟨tenantId, _, _, htenant, rfl⟩

/-- The saga is inserted, or the request fails and changes nothing. -/
theorem step_insert_cases (srv : Server) (req : InitiateRequest) (env : InitiateEnv)
    (w : OAuthWorld) (tenantId provider : String) (scopes : List String) :
    (∃ e, step srv req env w (.insert tenantId provider scopes) = some (w, .done (.raised e)) ∧
      ¬ (env.insert = none ∧
        (w.insertSaga (newSaga env tenantId provider scopes w.now)).isSome = true)) ∨
      ∃ w', w.insertSaga (newSaga env tenantId provider scopes w.now) = some w' ∧
        env.insert = none ∧ step srv req env w (.insert tenantId provider scopes) =
          some (w', .register tenantId provider scopes (w.now + seconds stateTtlSeconds)) := by
  simp only [step]
  split
  · rename_i e he
    exact .inl ⟨e, rfl, fun h ↦ absurd (he.symm.trans h.1) (by simp)⟩
  split
  · rename_i hins _ w' hw'
    exact .inr ⟨w', hw', hins, rfl⟩
  · rename_i hnone
    refine .inl ⟨_, rfl, fun h ↦ ?_⟩
    rw [hnone] at h
    exact absurd h.2 (by simp)

theorem registerNonce_eq_none_iff {nonce : String} :
    w.registerNonce nonce tenantId = none ↔ w.tenantOfNonce nonce ≠ none := by
  rw [OAuthWorld.registerNonce, Option.map_eq_none_iff, ExpiringStore.setNx_eq_none_iff,
    Option.ne_none_iff_exists']
  rfl

/-- A saga that is inserted is the last row, and no nonce changes. -/
theorem insertSaga_effect {w₁ : OAuthWorld} (h : w.insertSaga saga = some w₁) :
    w₁.sagas.rows = w.sagas.rows ++ [saga] ∧ w₁.tenantOfNonce = w.tenantOfNonce := by
  obtain ⟨sagas, hins, rfl⟩ := Option.map_eq_some_iff.1 h
  exact ⟨KeyedTable.rows_insert hins, rfl⟩

theorem sagas_registerNonce {nonce : String} (h : w.registerNonce nonce tenantId = some w') :
    w'.sagas = w.sagas := by
  obtain ⟨redis, -, rfl⟩ := Option.map_eq_some_iff.1 h
  rfl

/-- The nonce is registered to the tenant, and every other nonce is as it was. -/
theorem tenantOfNonce_registerNonce {nonce : String}
    (h : w.registerNonce nonce tenantId = some w') (nonce' : String) :
    w'.tenantOfNonce nonce' = if nonce' = nonce then some tenantId else w.tenantOfNonce nonce' := by
  obtain ⟨redis, hset, rfl⟩ := Option.map_eq_some_iff.1 h
  have hlive : w.now < w.now + seconds stateTtlSeconds :=
    lt_add_of_pos_right _ (by decide)
  show redis.get w.now _ = _
  rw [ExpiringStore.get_setNx hset, if_pos hlive]
  exact if_congr nonceKey_injective.eq_iff rfl rfl

/-- No other nonce changes. -/
theorem eq_of_tenantOfNonce_ne {nonce nonce' : String}
    (h : w.registerNonce nonce tenantId = some w')
    (hne : w'.tenantOfNonce nonce' ≠ w.tenantOfNonce nonce') : nonce' = nonce := by
  by_contra hother
  rw [tenantOfNonce_registerNonce h, if_neg hother] at hne
  exact hne rfl

/-- How the registration of the nonce ends: without a handle, with nothing written, with the nonce
written by a command that raises, or well. -/
theorem step_register_cases (srv : Server) (req : InitiateRequest) (env : InitiateEnv)
    (w : OAuthWorld) (tenantId provider : String) (scopes : List String) (expiresAt : Time) :
    (env.redisReady = false ∧ step srv req env w (.register tenantId provider scopes expiresAt) =
      some (w, .done (.http 503 "redis not initialised"))) ∨
    (¬ Irreparable env w ∧ ∃ answer, answer.isStarted = false ∧
      step srv req env w (.register tenantId provider scopes expiresAt) =
        some (w, .rollback answer)) ∨
    (∃ w', Irreparable env w ∧ w.registerNonce env.nonce tenantId = some w' ∧
      ∃ answer, answer.isStarted = false ∧
      step srv req env w (.register tenantId provider scopes expiresAt) =
        some (w', .rollback answer)) ∨
    ∃ w', ¬ Irreparable env w ∧ w.registerNonce env.nonce tenantId = some w' ∧
      step srv req env w (.register tenantId provider scopes expiresAt) =
        some (w', .done (.started env.sagaId provider scopes expiresAt)) := by
  by_cases hready : env.redisReady = false
  · exact .inl ⟨hready, by rw [step, if_pos hready]⟩
  by_cases hempty : env.nonce = ""
  · refine .inr (.inl ⟨?_, .http 503 "redis unavailable for OAuth state", rfl,
      by rw [step, if_neg hready, if_pos hempty]; rfl⟩)
    rintro (h | ⟨hne, -⟩)
    · exact hready h
    · exact hne hempty
  cases hregister : env.register with
  | answered =>
    have hrep : ¬ Irreparable env w := by
      rintro (h | ⟨-, ⟨e, he⟩, -⟩)
      · exact hready h
      · exact absurd (hregister.symm.trans he) (by simp)
    cases hset : w.registerNonce env.nonce tenantId with
    | none =>
      exact .inr (.inl ⟨hrep, .http 500 "OAuth state initialization failed", rfl, by
        simp only [step, if_neg hready, if_neg hempty, hregister, hset]⟩)
    | some w' =>
      exact .inr (.inr (.inr ⟨w', hrep, rfl, by
        simp only [step, if_neg hready, if_neg hempty, hregister, hset]⟩))
  | raised applied e =>
    cases hset : w.registerNonce env.nonce tenantId with
    | none =>
      refine .inr (.inl ⟨?_, .http 503 "redis unavailable for OAuth state", rfl, ?_⟩)
      · rintro (h | ⟨-, -, hfree⟩)
        · exact hready h
        · exact registerNonce_eq_none_iff.1 hset hfree
      · have hsame : (if applied then (none : Option OAuthWorld).getD w else w) = w := by
          split <;> rfl
        simp only [step, if_neg hready, if_neg hempty, hregister, hset, hsame]
        rfl
    | some w' =>
      have hfree : w.tenantOfNonce env.nonce = none := by
        by_contra hne
        exact absurd (hset.symm.trans (registerNonce_eq_none_iff.2 hne)) (by simp)
      cases applied with
      | true =>
        refine .inr (.inr (.inl ⟨w', .inr ⟨hempty, ⟨e, hregister⟩, hfree⟩, rfl,
          .http 503 "redis unavailable for OAuth state", rfl, ?_⟩))
        simp only [step, if_neg hready, if_neg hempty, hregister, hset]
        rfl
      | false =>
        refine .inr (.inl ⟨?_, .http 503 "redis unavailable for OAuth state", rfl, ?_⟩)
        · rintro (h | ⟨-, ⟨e', he'⟩, -⟩)
          · exact hready h
          · exact absurd (hregister.symm.trans he') (by simp)
        · simp only [step, if_neg hready, if_neg hempty, hregister]
          rfl

/-- What is inserted and dropped again leaves the rows as they were. -/
theorem rows_dropSaga_insertSaga {w₁ w₂ : OAuthWorld} (h : w.insertSaga saga = some w₁)
    (hsagas : w₂.sagas = w₁.sagas) : (w₂.dropSaga saga.id).sagas.rows = w.sagas.rows := by
  obtain ⟨sagas, hins, rfl⟩ := Option.map_eq_some_iff.1 h
  have hrows := KeyedTable.rows_insert hins
  have hfresh := KeyedTable.find?_eq_none_iff.1 (KeyedTable.find?_eq_none_of_insert hins)
  show w₂.sagas.rows.filter (fun s ↦ !decide (s.id = saga.id)) = _
  rw [hsagas, hrows, List.filter_append]
  have hkept : w.sagas.rows.filter (fun s ↦ !decide (s.id = saga.id)) = w.sagas.rows :=
    List.filter_eq_self.2 fun s hs ↦ by simpa using hfresh s hs
  rw [hkept]
  simp

/-- The nonce of a saga that can be inserted belongs to no other saga. -/
theorem stateNonce_ne_of_insertSaga {w₁ : OAuthWorld} (h : w.insertSaga saga = some w₁) :
    ∀ s ∈ w.sagas.rows, s.stateNonce ≠ saga.stateNonce := by
  obtain ⟨sagas, hins, rfl⟩ := Option.map_eq_some_iff.1 h
  have hrows := KeyedTable.rows_insert hins
  have hfresh := KeyedTable.find?_eq_none_iff.1 (KeyedTable.find?_eq_none_of_insert hins)
  intro s hs heq
  have hold : s ∈ sagas.rows := by rw [hrows]; exact List.mem_append_left _ hs
  have hnew : saga ∈ sagas.rows := by
    rw [hrows]
    exact List.mem_append_right _ (List.mem_singleton_self _)
  have heq' : s = saga := sagas.eq_of_uniq_eq hold hnew (congrArg some heq) rfl
  exact hfresh s hs (congrArg OAuthSaga.id heq')

/-- The rollback changes no nonce. If it can be written the rows are those before the insert. -/
theorem runAlone_rollback {w₁ w₂ : OAuthWorld} {answer : InitiateAnswer}
    (hsaga : w.insertSaga saga = some w₁) (hid : saga.id = env.sagaId)
    (hsagas : w₂.sagas = w₁.sagas) (hfail : answer.isStarted = false) :
    ∃ answer' w₃, runAlone srv req env 1 w₂ (.rollback answer) = (w₃, .done answer') ∧
      answer'.isStarted = false ∧ w₃.tenantOfNonce = w₂.tenantOfNonce ∧
      (env.rollback = none → w₃.sagas.rows = w.sagas.rows) ∧
      (env.rollback ≠ none → w₃.sagas = w₁.sagas) := by
  cases hrollback : env.rollback with
  | some e =>
    refine ⟨.raised e, w₂, ?_, rfl, rfl, fun h ↦ absurd h (by simp), fun _ ↦ hsagas⟩
    simp only [runAlone, step, hrollback]
  | none =>
    refine ⟨answer, w₂.dropSaga env.sagaId, ?_, hfail, rfl, fun _ ↦ ?_, fun h ↦ absurd rfl h⟩
    · simp only [runAlone, step, hrollback]
    · rw [← hid]
      exact rows_dropSaga_insertSaga hsaga hsagas

end Steps

end InitiatePc

/-! ### The main result -/

section Main

open InitiatePc InitiateAnswer

variable {srv : Server} {req : InitiateRequest} {env : InitiateEnv} {w w' : OAuthWorld}
  {tenantId provider : String} {scopes : List String} {answer : InitiateAnswer}

theorem Atomic.refl (h : answer.isStarted = false) : Atomic req env w w answer where
  undone _ _ := rfl
  accounted _ hne := absurd rfl hne
  started hstarted := absurd (h.symm.trans hstarted) (by simp)

/-- A request that gets as far as the registration of the nonce. -/
theorem initiate_of_insert {w₁ : OAuthWorld} (htenant : truthy req.tenantId = some tenantId)
    (henter : enter srv req = .insert tenantId provider scopes)
    (hinsert : step srv req env w (.insert tenantId provider scopes) =
      some (w₁, .register tenantId provider scopes (w.now + seconds stateTtlSeconds)))
    (hsaga : w.insertSaga (newSaga env tenantId provider scopes w.now) = some w₁) :
    ∃ answer, (initiate srv req env w).2 = .done answer ∧
      (Atomic req env w (initiate srv req env w).1 answer ↔
        ¬ (env.rollback = none ∧ Irreparable env w)) := by
  obtain ⟨hrows, hnonces⟩ := insertSaga_effect hsaga
  have hirreparable : Irreparable env w₁ ↔ Irreparable env w := by
    rw [Irreparable, Irreparable, hnonces]
  have hrun : initiate srv req env w = runAlone srv req env 2 w₁
      (.register tenantId provider scopes (w.now + seconds stateTtlSeconds)) := by
    rw [initiate, rank, runAlone_start, henter,
      runAlone_of_step hinsert]
  rw [hrun]
  rcases step_register_cases srv req env w₁ tenantId provider scopes
    (w.now + seconds stateTtlSeconds) with ⟨hready, hstep⟩ | ⟨hrep, answer, hfail, hstep⟩ |
      ⟨w₂, hirr, hset, answer, hfail, hstep⟩ | ⟨w₂, hrep, hset, hstep⟩
  · -- Without a handle nothing is rolled back.
    rw [runAlone_of_step hstep, runAlone_done]
    have hirr : Irreparable env w := .inl hready
    refine ⟨_, rfl, ?_, fun hnot ↦ ?_⟩
    · rintro hatomic ⟨hrollback, -⟩
      have hsame := hatomic.undone rfl hrollback
      rw [hrows] at hsame
      exact absurd hsame (by simp)
    · exact ⟨fun _ hrollback ↦ absurd ⟨hrollback, hirr⟩ hnot,
        fun nonce hne ↦ absurd (congrFun hnonces nonce) hne,
        fun h ↦ absurd h (by simp [isStarted])⟩
  · have hnot : ¬ (env.rollback = none ∧ Irreparable env w) := fun h ↦ hrep (hirreparable.2 h.2)
    obtain ⟨answer', w₂, hlast, hfail', hnonces₂, hundone, -⟩ :=
      runAlone_rollback hsaga rfl rfl hfail
    rw [runAlone_of_step hstep, hlast]
    refine ⟨_, rfl, iff_of_true ⟨fun _ ↦ hundone, fun nonce hne ↦ ?_, fun h ↦ ?_⟩ hnot⟩
    · exact absurd (congrFun (hnonces₂.trans hnonces) nonce) hne
    · exact absurd (hfail'.symm.trans h) (by simp)
  · -- The nonce stays, so the saga had better stay too.
    have hsagas := sagas_registerNonce hset
    have hfree : w.tenantOfNonce env.nonce = none := by
      by_contra hne
      exact absurd (hset.symm.trans (registerNonce_eq_none_iff.2 (hnonces ▸ hne))) (by simp)
    obtain ⟨answer', w₃, hlast, hfail', hnonces₃, hundone, hkept⟩ :=
      runAlone_rollback hsaga rfl hsagas hfail
    rw [runAlone_of_step hstep, hlast]
    refine ⟨_, rfl, ?_, fun hnot ↦ ?_⟩
    · rintro hatomic ⟨hrollback, -⟩
      obtain ⟨saga, hmem, hnonce⟩ := hatomic.accounted env.nonce (by
        rw [hnonces₃, tenantOfNonce_registerNonce hset, if_pos rfl, hfree]
        simp)
      rw [hundone hrollback] at hmem
      exact stateNonce_ne_of_insertSaga hsaga saga hmem hnonce
    · have hrollback : env.rollback ≠ none := fun h ↦ hnot ⟨h, hirreparable.1 hirr⟩
      refine ⟨fun _ h ↦ absurd h hrollback,
        fun nonce hne ↦ ⟨newSaga env tenantId provider scopes w.now, ?_, ?_⟩,
        fun h ↦ absurd (hfail'.symm.trans h) (by simp)⟩
      · rw [hkept hrollback, hrows]
        exact List.mem_append_right _ (List.mem_singleton_self _)
      · rw [hnonces₃, ← hnonces] at hne
        exact (eq_of_tenantOfNonce_ne hset hne).symm
  · rw [runAlone_of_step hstep, runAlone_done]
    have hnot : ¬ (env.rollback = none ∧ Irreparable env w) := fun h ↦ hrep (hirreparable.2 h.2)
    have hrows₂ : w₂.sagas.rows = w.sagas.rows ++ [newSaga env tenantId provider scopes w.now] := by
      rw [sagas_registerNonce hset, hrows]
    refine ⟨_, rfl, iff_of_true ⟨fun h ↦ absurd h (by simp [isStarted]), fun nonce hne ↦ ?_,
      fun _ ↦ ⟨_, hrows₂, rfl, htenant, ?_⟩⟩ hnot⟩
    · refine ⟨newSaga env tenantId provider scopes w.now,
        hrows₂ ▸ List.mem_append_right _ (List.mem_singleton_self _), ?_⟩
      rw [← hnonces] at hne
      exact (eq_of_tenantOfNonce_ne hset hne).symm
    · rw [tenantOfNonce_registerNonce hset]
      exact if_pos rfl

/-- **A request is atomic exactly when it does not run into what the rollback misses.** -/
theorem initiate_atomic_iff (srv : Server) (req : InitiateRequest) (env : InitiateEnv)
    (w : OAuthWorld) : ∃ answer, (initiate srv req env w).2 = .done answer ∧
      (Atomic req env w (initiate srv req env w).1 answer ↔
        ¬ (Registers srv req env w ∧ env.rollback = none ∧ Irreparable env w)) := by
  rcases enter_cases srv req with
    ⟨answer, henter, hfail⟩ | ⟨tenantId, provider, scopes, htenant, henter⟩
  · have hrun : initiate srv req env w = (w, .done answer) := by
      rw [initiate, rank, runAlone_start, henter, runAlone_done]
    refine ⟨answer, by rw [hrun], ?_⟩
    rw [hrun]
    refine iff_of_true (.refl hfail) ?_
    rintro ⟨⟨tenantId, provider, scopes, hins, -⟩, -⟩
    exact absurd (henter.symm.trans hins) (by simp)
  rcases step_insert_cases srv req env w tenantId provider scopes with
    ⟨e, hstep, hnot⟩ | ⟨w₁, hsaga, hins, hstep⟩
  · have hrun : initiate srv req env w = (w, .done (.raised e)) := by
      rw [initiate, rank, runAlone_start, henter,
        runAlone_of_step hstep, runAlone_done]
    refine ⟨.raised e, by rw [hrun], ?_⟩
    rw [hrun]
    refine iff_of_true (.refl rfl) ?_
    rintro ⟨⟨tenantId', provider', scopes', henter', hins⟩, -⟩
    obtain ⟨rfl, rfl, rfl⟩ := InitiatePc.insert.inj (henter.symm.trans henter')
    exact hnot hins
  · obtain ⟨answer, hdone, hiff⟩ := initiate_of_insert htenant henter hstep hsaga
    refine ⟨answer, hdone, hiff.trans ?_⟩
    have hreg : Registers srv req env w := ⟨_, _, _, henter, hins, by rw [hsaga]; rfl⟩
    rw [and_iff_right hreg]

end Main

/-! ### Concrete requests -/

/-- The outcomes of a request that goes well. -/
def demoInitiateEnv : InitiateEnv := ⟨"s1", "n1", "v1", none, "", true, .answered, none⟩

/-- Redis has not been initialised. -/
def withoutHandle : InitiateEnv := { demoInitiateEnv with redisReady := false }

/-- The `SET` is carried out, and its reply is lost. -/
def withoutReply : InitiateEnv :=
  { demoInitiateEnv with register := .raised true ⟨"TimeoutError", "timed out"⟩ }

/-- **Without a handle of Redis the saga stays**, and without a reply the nonce stays on its own. -/
theorem missing_handle_strands_saga :
    ((initiate demoServer ⟨"slack", some "t1", none⟩ withoutHandle (.empty 0)).2 =
        .done (.http 503 "redis not initialised") ∧
      ¬ Atomic ⟨"slack", some "t1", none⟩ withoutHandle (.empty 0)
        (initiate demoServer ⟨"slack", some "t1", none⟩ withoutHandle (.empty 0)).1
        (.http 503 "redis not initialised")) ∧
    (initiate demoServer ⟨"slack", some "t1", none⟩ withoutReply (.empty 0)).2 =
        .done (.http 503 "redis unavailable for OAuth state") ∧
      ¬ Atomic ⟨"slack", some "t1", none⟩ withoutReply (.empty 0)
        (initiate demoServer ⟨"slack", some "t1", none⟩ withoutReply (.empty 0)).1
        (.http 503 "redis unavailable for OAuth state") := by
  refine ⟨⟨by decide +kernel, fun hatomic ↦ ?_⟩, by decide +kernel, fun hatomic ↦ ?_⟩
  · exact absurd (hatomic.undone rfl rfl) (by decide +kernel)
  · have hregistered : (initiate demoServer ⟨"slack", some "t1", none⟩ withoutReply
        (.empty 0)).1.tenantOfNonce "n1" ≠ (OAuthWorld.empty 0).tenantOfNonce "n1" := by
      decide +kernel
    have hrows : (initiate demoServer ⟨"slack", some "t1", none⟩ withoutReply
        (.empty 0)).1.sagas.rows = [] := by
      decide +kernel
    obtain ⟨saga, hmem, -⟩ := hatomic.accounted "n1" hregistered
    rw [hrows] at hmem
    exact absurd hmem List.not_mem_nil

end Siyadah
