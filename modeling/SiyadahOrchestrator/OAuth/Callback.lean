import SiyadahOrchestrator.OAuth.Saga
import Mathlib.Data.List.Infix

/-!
# The OAuth callback

`oauth_callback` as a machine that makes one atomic step between two `await`s. Its program counter
(`CallbackPc`) names the await it stands at and carries the local variables that are still needed,
so that any number of callbacks can be interleaved; `callback` runs one of them alone.

What comes from outside is fixed when a request arrives (`CallbackEnv`): every awaited call of the
handler is made at most once, so one outcome for each is enough. A database transaction that raises
has not committed. A Redis command or a request to ActivePieces that raises may have been carried
out all the same, and the outcome says whether it was.
-/

namespace Siyadah

/-! ### Requests, outcomes and answers -/

/-- The query parameters of the request, and the provider of its path. -/
structure CallbackRequest where
  provider : String
  code : Option String
  state : Option String
  error : Option String
  errorDescription : Option String
deriving DecidableEq, Repr

/-- A Python exception as the handler reports it. -/
structure PyException where
  /-- `type(e).__name__`. -/
  typeName : String
  /-- `str(e)`. -/
  message : String
deriving DecidableEq, Repr

/-- `f"{type(e).__name__}: {e}"`. -/
def PyException.describe (e : PyException) : String := e.typeName ++ ": " ++ e.message

/-- What becomes of the `GETDEL`: it answers, or it raises before or after the key is gone. -/
inductive GetdelOutcome where
  | answered
  | raised (applied : Bool) (e : PyException)
deriving DecidableEq, Repr

/-- What `_exchange_code` gives. -/
inductive ExchangeOutcome where
  | tokens (parsed : ParsedTokenResponse)
  | tokenExchangeError (code message : String)
  | otherError (e : PyException)
deriving DecidableEq, Repr

/-- What `_create_ap_connection` gives: the record of ActivePieces' answer with its text, or an
exception, with or without the connection having been written. -/
inductive ApOutcome where
  | record (externalId id : Option String) (text : String)
  | raised (applied : Bool) (e : PyException)
deriving DecidableEq, Repr

/-- The outcomes of the awaited calls of one callback; `none` is success. -/
structure CallbackEnv where
  /-- The `SELECT` of `_find_saga_by_nonce`. -/
  findSaga : Option PyException
  /-- The `SELECT` of the saga. -/
  loadSaga : Option PyException
  /-- The `SELECT` of `_mark_saga_failed`. -/
  markLoad : Option PyException
  /-- The `UPDATE` and commit of `_mark_saga_failed`. -/
  markWrite : Option PyException
  /-- `_get_redis` finds an initialised handle. -/
  redisReady : Bool
  getdel : GetdelOutcome
  exchange : ExchangeOutcome
  /-- `_get_crypto`. -/
  crypto : Except PyException CryptoProvider
  /-- The envelope encryption. -/
  encrypt : Option PyException
  /-- The transaction of `_persist_tokens`. -/
  persist : Option PyException
  /-- The text of an `IntegrityError` that this transaction runs into. -/
  integrityMessage : String
  createAp : ApOutcome
  /-- The transaction of `_finalize_saga_completed`. -/
  finalize : Option PyException
  /-- The rollback's `DELETE` reaches ActivePieces and is carried out. -/
  deleteAp : Bool
  /-- The transaction of `_compensate_ap_failure`. -/
  compensate : Option PyException
  rand : SealRandomness
  /-- The `uuid4` of the new vault row. -/
  tokenId : String
  /-- The id that ActivePieces gives a new connection. -/
  apId : String

/-- The `detail` of an `HTTPException`. -/
inductive AnswerDetail where
  | text (detail : String)
  | providerError (error : String) (errorDescription : Option String)
  | tokenExchangeFailed (providerError provider : String)
  | apConnectionFailed (sagaStatus message : String)
deriving DecidableEq, Repr

/-- What the handler returns or raises. -/
inductive CallbackAnswer where
  | completed (sagaId provider encryptedTokenId : String) (returnPath : PyStr)
  | http (status : ℕ) (detail : AnswerDetail)
  | raised (e : PyException)
deriving DecidableEq, Repr

/-! ### Program counters -/

/-- The locals of a callback that has found its saga. -/
structure SagaRef where
  sagaId : String
  tenantId : String
  provider : String
  nonce : String
  returnPath : PyStr
  code : String
  /-- `pkce_verifier if cfg.uses_pkce else None`. -/
  verifier : Option String
deriving DecidableEq, Repr

/-- A call of `_mark_saga_failed` and what the handler raises after it. -/
structure FailureReport where
  sagaId : String
  step : String
  reason : String
  answer : CallbackAnswer
  /-- The call stands under `except Exception`, which logs and goes on. -/
  guarded : Bool
deriving DecidableEq, Repr

/-- Where a callback stands. -/
inductive CallbackPc where
  | start
  | findSaga (cfg : ProviderConfig) (error nonce : String)
  | markLoad (report : FailureReport)
  | markWrite (report : FailureReport) (needed : Bool)
  | loadSaga (cfg : ProviderConfig) (code : String) (claims : StateClaims)
  | consume (ref : SagaRef)
  | exchange (ref : SagaRef)
  | persist (ref : SagaRef) (parsed : ParsedTokenResponse)
  | createAp (ref : SagaRef) (parsed : ParsedTokenResponse) (tokenId : String)
  | finalize (ref : SagaRef) (tokenId apId externalId : String)
  | deleteAp (ref : SagaRef) (tokenId apId : String) (e : PyException)
  | compensate (ref : SagaRef) (tokenId reason : String) (answer : CallbackAnswer)
  | done (answer : CallbackAnswer)
deriving DecidableEq

/-- The standard library and what `StateProvider.from_env` makes of the environment. -/
structure Server where
  lib : StdLib
  stateKey : Except PyException StateKey

/-! ### The steps of the handler -/

/-- `str.strip(": ")`. -/
def stripColonSpace (s : String) : String :=
  let p : Char → Bool := fun c ↦ c = ':' || c = ' '
  String.ofList (((s.toList.dropWhile p).reverse.dropWhile p).reverse)

/-- The heuristic that tells an encryption failure from a database failure. -/
def persistFailureStep (e : PyException) : String :=
  let lower := (e.message ++ " " ++ e.typeName).toList.map lowerChar
  if ["aes", "dek", "encrypt", "crypto"].any fun t ↦ t.toList <:+: lower then "encrypt"
  else "db_insert"

/-- The class name of an exception of `siyadah_crypto`. -/
def CryptoError.typeName : CryptoError → String
  | .cryptoConfigError => "CryptoConfigError"
  | .decryptionError => "DecryptionError"
  | .unsupportedVersionError => "UnsupportedVersionError"
  | .valueError => "ValueError"
  | .unicodeDecodeError => "UnicodeDecodeError"

/-- The class name of an exception that leaves `verify_state`. -/
def VerifyError.typeName : VerifyError → String
  | .state e => e.typeName
  | .unicodeEncodeError => "UnicodeEncodeError"
  | .typeError => "TypeError"
  | .valueError => "ValueError"
  | .overflowError => "OverflowError"

/-- An `HTTPException` with a text. -/
def httpText (status : ℕ) (detail : String) : CallbackAnswer := .http status (.text detail)

namespace CallbackPc

/-- The answer of the `error=` branch. -/
def providerDenied (req : CallbackRequest) (error : String) : CallbackAnswer :=
  .http 400 (.providerError error req.errorDescription)

/-- The handler up to its first `await`. -/
def enter (srv : Server) (req : CallbackRequest) (now : Time) : CallbackPc :=
  match getProvider req.provider with
  | none => .done (httpText 404 ("Unknown OAuth provider " ++ srv.lib.reprStr req.provider ++
      ". Supported: ['slack']"))
  | some cfg =>
    match truthy req.error with
    | some error =>
      match truthy req.state with
      | none => .done (providerDenied req error)
      | some state =>
        match srv.lib.decodeStateUnsafe (.ofString state) with
        -- Any other value raises in the database driver, or is `NULL` and matches no row.
        | some (_, .str n) =>
          match n.toString? with
          | some nonce => .findSaga cfg error nonce
          | none => .done (providerDenied req error)
        | _ => .done (providerDenied req error)
    | none =>
      match truthy req.code, truthy req.state with
      | some code, some state =>
        match srv.stateKey with
        | .error e => .done (.raised e)
        | .ok key =>
          match srv.lib.gate key (.ofString state) now with
          | none => .done (httpText 400 "malformed state")
          | some (.error (.state e)) =>
            .done (httpText 400 ("state verification failed: " ++ e.typeName))
          | some (.error e) => .done (.raised ⟨e.typeName, ""⟩)
          | some (.ok claims) => .loadSaga cfg code claims
      | _, _ => .done (httpText 400 "missing code or state")

/-- The check of the saga that the verified nonce names. -/
def checkSaga (w : OAuthWorld) (cfg : ProviderConfig) (code : String) (claims : StateClaims) :
    CallbackPc :=
  match claims.nonce.toString? with
  | none => .done (.raised ⟨"UnicodeEncodeError", ""⟩)
  | some nonce =>
    match w.sagas.findByNonce nonce with
    | none => .done (httpText 400 "saga not found for this state")
    | some saga =>
      if claims.tenantId ≠ .ofString saga.tenantId ∨ saga.provider ≠ cfg.name then
        .done (httpText 403 "saga/state tenant or provider mismatch")
      else if saga.status ≠ .initiated then
        .done (httpText 409 ("saga is " ++ saga.status.text ++ ", expected INITIATED"))
      else
        .consume ⟨saga.id, saga.tenantId, cfg.name, nonce, claims.returnPath, code,
          if cfg.usesPkce then some saga.pkceVerifier else none⟩

/-- `NonceStore.consume` on what `GETDEL` returned. -/
def checkNonce (ref : SagaRef) (actual : Option String) : CallbackPc :=
  match actual with
  | none => .markLoad ⟨ref.sagaId, "nonce_consume", "nonce_replayed_or_expired",
      httpText 409 "nonce already consumed or expired", false⟩
  | some tenant =>
    if tenant = ref.tenantId then .exchange ref
    else .markLoad ⟨ref.sagaId, "nonce_consume",
      "nonce belongs to a different tenant than the caller",
      httpText 403 "nonce check failed: StateTenantMismatchError", false⟩

/-- What follows the answer of the provider's token endpoint. -/
def afterExchange (ref : SagaRef) : ExchangeOutcome → CallbackPc
  | .tokens parsed => .persist ref parsed
  | .tokenExchangeError code message =>
    .markLoad ⟨ref.sagaId, "token_exchange",
      ref.provider ++ ": " ++ code ++ (if message = "" then "" else " — " ++ message),
      .http 400 (.tokenExchangeFailed code ref.provider), false⟩
  | .otherError e =>
    .markLoad ⟨ref.sagaId, "token_exchange", e.describe,
      httpText 502 "token exchange transport error", false⟩

/-- A failed encryption or insertion. -/
def persistFailed (ref : SagaRef) (e : PyException) : CallbackPc :=
  .markLoad ⟨ref.sagaId, persistFailureStep e, e.describe,
    httpText 500 ("failed to persist tokens: " ++ e.typeName), false⟩

/-- `_persist_tokens`: the world after it, or the exception it raises. -/
def tryPersist (env : CallbackEnv) (w : OAuthWorld) (ref : SagaRef) (parsed : ParsedTokenResponse) :
    Except PyException OAuthWorld :=
  match env.crypto, env.encrypt with
  | .error e, _ => .error e
  | .ok _, some e => .error e
  | .ok crypto, none =>
    match EncryptedToken.ofAnswer crypto env.rand env.tokenId ref.tenantId ref.provider parsed
        w.now with
    | .error e => .error ⟨e.typeName, ""⟩
    | .ok row =>
      match env.persist, w.persistTokens ref.sagaId row with
      | some e, _ => .error e
      | none, some w' => .ok w'
      | none, none => .error ⟨"IntegrityError", env.integrityMessage⟩

/-- The rollback after a failed `_create_ap_connection`. -/
def apLinkFailed (ref : SagaRef) (tokenId : String) (e : PyException) : CallbackPc :=
  .compensate ref tokenId e.describe
    (.http 503 (.apConnectionFailed "COMPENSATED"
      "Activepieces connection creation failed; tokens wiped and saga rolled back."))

/-- `ap_record.get("externalId") or ap_record.get("id", "")`. -/
def usableId (externalId id : Option String) : Option String := (truthy externalId).or (truthy id)

/-- What follows the answer of ActivePieces. -/
def afterCreateAp (ref : SagaRef) (tokenId : String) : ApOutcome → CallbackPc
  | .raised _ e => apLinkFailed ref tokenId e
  | .record externalId id text =>
    match usableId externalId id with
    | none => apLinkFailed ref tokenId ⟨"RuntimeError", "AP returned no externalId: " ++ text⟩
    | some externalId => .finalize ref tokenId (id.getD "") externalId

/-- The locals after the first `SELECT` of the `error=` branch. -/
def denialReport (req : CallbackRequest) (error sagaId : String) : FailureReport :=
  ⟨sagaId, "provider_denied",
    stripColonSpace (error ++ ": " ++ (truthy req.errorDescription).getD ""),
    providerDenied req error, true⟩

end CallbackPc

/-- The connection has been written. -/
def ApOutcome.applied : ApOutcome → Bool
  | .record _ _ _ => true
  | .raised applied _ => applied

/-- What a failed database call inside `_mark_saga_failed` leads to. -/
def FailureReport.onRaise (report : FailureReport) (e : PyException) : CallbackAnswer :=
  if report.guarded then report.answer else .raised e

/-! ### One step -/

namespace CallbackPc

/-- One atomic step: everything the handler does at the await it stands at, up to the next one. -/
def step (srv : Server) (req : CallbackRequest) (env : CallbackEnv) (w : OAuthWorld) :
    CallbackPc → Option (OAuthWorld × CallbackPc)
  | .start => some (w, enter srv req w.now)
  | .findSaga _ error nonce =>
    match env.findSaga with
    | some _ => some (w, .done (providerDenied req error))
    | none =>
      match w.sagas.findByNonce nonce with
      | none => some (w, .done (providerDenied req error))
      | some saga => some (w, .markLoad (denialReport req error saga.id))
  | .markLoad report =>
    match env.markLoad with
    | some e => some (w, .done (report.onRaise e))
    | none =>
      match w.sagas.find? report.sagaId with
      | none => some (w, .done report.answer)
      | some saga => some (w, .markWrite report (saga.status ≠ .failed))
  | .markWrite report needed =>
    match env.markWrite with
    | some e => some (w, .done (report.onRaise e))
    | none =>
      some (if needed then w.failSaga report.sagaId report.step report.reason else w,
        .done report.answer)
  | .loadSaga cfg code claims =>
    match env.loadSaga with
    | some e => some (w, .done (.raised e))
    | none => some (w, checkSaga w cfg code claims)
  | .consume ref =>
    if env.redisReady then
      match env.getdel with
      | .raised applied e =>
        -- `except NonceNotFoundError` and `except StateError` let a Redis exception through.
        some (if applied then w.dropNonce ref.nonce else w, .done (.raised e))
      | .answered =>
        some (w.dropNonce ref.nonce, checkNonce ref (w.redis.get w.now (nonceKey ref.nonce)))
    else some (w, .done (httpText 503 "redis not initialised"))
  | .exchange ref => some (w, afterExchange ref env.exchange)
  | .persist ref parsed =>
    match tryPersist env w ref parsed with
    | .error e => some (w, persistFailed ref e)
    | .ok w' => some (w', .createAp ref parsed env.tokenId)
  | .createAp ref parsed tokenId =>
    some (if env.createAp.applied then w.createAp ref.sagaId parsed.accessToken env.apId else w,
      afterCreateAp ref tokenId env.createAp)
  | .finalize ref tokenId apId externalId =>
    match env.finalize with
    | some e => some (w, .deleteAp ref tokenId apId e)
    | none =>
      some (w.finalize ref.sagaId tokenId externalId,
        .done (.completed ref.sagaId ref.provider tokenId ref.returnPath))
  | .deleteAp ref tokenId apId e =>
    some (if env.deleteAp then w.deleteAp apId else w,
      .compensate ref tokenId ("finalize_failed: " ++ e.describe)
        (httpText 500 "saga finalization failed"))
  | .compensate ref tokenId reason answer =>
    match env.compensate with
    | some e => some (w, .done (.raised e))
    | none => some (w.compensate ref.sagaId tokenId reason, .done answer)
  | .done _ => none

/-! ### A callback alone -/

/-- The number of steps that may still come. -/
def rank : CallbackPc → ℕ
  | .done _ => 0
  | .markWrite _ _ => 1
  | .markLoad _ => 2
  | .findSaga _ _ _ => 3
  | .compensate _ _ _ _ => 1
  | .deleteAp _ _ _ _ => 2
  | .finalize _ _ _ _ => 3
  | .createAp _ _ _ => 4
  | .persist _ _ => 5
  | .exchange _ => 6
  | .consume _ => 7
  | .loadSaga _ _ _ => 8
  | .start => 9

/-- At most `n` steps in a row. -/
def runAlone (srv : Server) (req : CallbackRequest) (env : CallbackEnv) :
    ℕ → OAuthWorld → CallbackPc → OAuthWorld × CallbackPc
  | 0, w, pc => (w, pc)
  | n + 1, w, pc =>
    match step srv req env w pc with
    | none => (w, pc)
    | some (w', pc') => runAlone srv req env n w' pc'

section Alone

variable {srv : Server} {req : CallbackRequest} {env : CallbackEnv} {w w' : OAuthWorld}
  {pc pc' : CallbackPc}

theorem rank_enter (now : Time) : (enter srv req now).rank ≤ 8 := by
  unfold enter
  repeat' split
  all_goals simp [rank]

theorem rank_checkSaga {cfg : ProviderConfig} {code : String} {claims : StateClaims} :
    (checkSaga w cfg code claims).rank ≤ 7 := by
  unfold checkSaga
  repeat' split
  all_goals simp [rank]

theorem rank_checkNonce {ref : SagaRef} {actual : Option String} :
    (checkNonce ref actual).rank ≤ 6 := by
  unfold checkNonce
  repeat' split
  all_goals simp [rank]

theorem rank_afterExchange {ref : SagaRef} (outcome : ExchangeOutcome) :
    (afterExchange ref outcome).rank ≤ 5 := by
  cases outcome <;> simp [afterExchange, rank]

theorem rank_afterCreateAp {ref : SagaRef} {tokenId : String} (outcome : ApOutcome) :
    (afterCreateAp ref tokenId outcome).rank ≤ 3 := by
  unfold afterCreateAp
  repeat' split
  all_goals simp [apLinkFailed, rank]

/-- Every step brings the end nearer. -/
theorem rank_lt_of_step (h : step srv req env w pc = some (w', pc')) : pc'.rank < pc.rank := by
  cases pc with
  | start =>
    obtain ⟨-, rfl⟩ := Prod.mk.inj (Option.some.inj h)
    exact Nat.lt_succ_of_le (rank_enter w.now)
  | findSaga cfg error nonce =>
    simp only [step] at h
    split at h
    · obtain ⟨-, rfl⟩ := Prod.mk.inj (Option.some.inj h)
      simp [rank]
    · split at h <;> obtain ⟨-, rfl⟩ := Prod.mk.inj (Option.some.inj h) <;> simp [rank]
  | markLoad report =>
    simp only [step] at h
    split at h
    · obtain ⟨-, rfl⟩ := Prod.mk.inj (Option.some.inj h)
      simp [rank]
    · split at h <;> obtain ⟨-, rfl⟩ := Prod.mk.inj (Option.some.inj h) <;> simp [rank]
  | markWrite report needed =>
    simp only [step] at h
    split at h <;> obtain ⟨-, rfl⟩ := Prod.mk.inj (Option.some.inj h) <;> simp [rank]
  | loadSaga cfg code claims =>
    simp only [step] at h
    split at h
    · obtain ⟨-, rfl⟩ := Prod.mk.inj (Option.some.inj h)
      simp [rank]
    · obtain ⟨-, rfl⟩ := Prod.mk.inj (Option.some.inj h)
      exact Nat.lt_succ_of_le rank_checkSaga
  | consume ref =>
    simp only [step] at h
    split at h
    · split at h
      · obtain ⟨-, rfl⟩ := Prod.mk.inj (Option.some.inj h)
        simp [rank]
      · obtain ⟨-, rfl⟩ := Prod.mk.inj (Option.some.inj h)
        exact Nat.lt_succ_of_le rank_checkNonce
    · obtain ⟨-, rfl⟩ := Prod.mk.inj (Option.some.inj h)
      simp [rank]
  | exchange ref =>
    obtain ⟨-, rfl⟩ := Prod.mk.inj (Option.some.inj h)
    exact Nat.lt_succ_of_le (rank_afterExchange _)
  | persist ref parsed =>
    simp only [step] at h
    split at h <;> obtain ⟨-, rfl⟩ := Prod.mk.inj (Option.some.inj h) <;>
      simp [persistFailed, rank]
  | createAp ref parsed tokenId =>
    obtain ⟨-, rfl⟩ := Prod.mk.inj (Option.some.inj h)
    exact Nat.lt_succ_of_le (rank_afterCreateAp _)
  | finalize ref tokenId apId externalId =>
    simp only [step] at h
    split at h <;> obtain ⟨-, rfl⟩ := Prod.mk.inj (Option.some.inj h) <;> simp [rank]
  | deleteAp ref tokenId apId e =>
    obtain ⟨-, rfl⟩ := Prod.mk.inj (Option.some.inj h)
    simp [rank]
  | compensate ref tokenId reason answer =>
    simp only [step] at h
    split at h <;> obtain ⟨-, rfl⟩ := Prod.mk.inj (Option.some.inj h) <;> simp [rank]
  | done answer => exact absurd h (by simp [step])

theorem eq_done_of_rank (h : pc.rank = 0) : ∃ answer, pc = .done answer := by
  cases pc <;> first | exact ⟨_, rfl⟩ | exact absurd h (by simp [rank])

/-- Once there are steps enough, more of them change nothing. -/
theorem runAlone_congr {m n : ℕ} (hm : pc.rank ≤ m) (hn : pc.rank ≤ n) :
    runAlone srv req env m w pc = runAlone srv req env n w pc := by
  induction m generalizing n w pc with
  | zero =>
    obtain ⟨answer, rfl⟩ := eq_done_of_rank (Nat.le_zero.1 hm)
    cases n <;> rfl
  | succ m ih =>
    cases n with
    | zero =>
      obtain ⟨answer, rfl⟩ := eq_done_of_rank (Nat.le_zero.1 hn)
      rfl
    | succ n =>
      rw [runAlone, runAlone]
      cases hs : step srv req env w pc with
      | none => rfl
      | some next =>
        obtain ⟨w', pc'⟩ := next
        have hlt := rank_lt_of_step hs
        exact ih (by omega) (by omega)

end Alone

/-- The callback alone from where it stands to its answer. -/
def finish (srv : Server) (req : CallbackRequest) (env : CallbackEnv) (w : OAuthWorld)
    (pc : CallbackPc) : OAuthWorld × CallbackPc :=
  runAlone srv req env pc.rank w pc

section Alone

variable {srv : Server} {req : CallbackRequest} {env : CallbackEnv} {w w' : OAuthWorld}
  {pc pc' : CallbackPc}

/-- Finishing is making one step and finishing from there. -/
theorem finish_of_step (h : step srv req env w pc = some (w', pc')) :
    finish srv req env w pc = finish srv req env w' pc' := by
  have hlt := rank_lt_of_step h
  rw [finish, runAlone_congr le_rfl (show pc.rank ≤ (pc.rank - 1) + 1 by omega), runAlone, h]
  exact runAlone_congr (by omega) le_rfl

@[simp] theorem finish_done (answer : CallbackAnswer) :
    finish srv req env w (.done answer) = (w, .done answer) :=
  rfl

/-! ### How the paths of the handler end -/

/-- **`_mark_saga_failed`, run to its end.** -/
theorem finish_markLoad (report : FailureReport) :
    (finish srv req env w (.markLoad report)).1 =
      match w.sagas.find? report.sagaId with
      | some saga =>
        if env.markLoad = none ∧ env.markWrite = none ∧ saga.status ≠ .failed then
          w.failSaga report.sagaId report.step report.reason
        else w
      | none => w := by
  rcases hload : env.markLoad with - | e
  · rcases hsaga : w.sagas.find? report.sagaId with - | saga
    · rw [finish_of_step (by simp only [step, hload, hsaga]; rfl)]
      rfl
    · rw [finish_of_step (by simp only [step, hload, hsaga]; rfl)]
      rcases hwrite : env.markWrite with - | e
      · rw [finish_of_step (by simp only [step, hwrite]; rfl)]
        simp
      · rw [finish_of_step (by simp only [step, hwrite]; rfl)]
        simp
  · rw [finish_of_step (by simp only [step, hload]; rfl)]
    rcases w.sagas.find? report.sagaId with - | saga <;> simp

/-- `_compensate_ap_failure`, run to its end. -/
theorem finish_compensate (ref : SagaRef) (tokenId reason : String) (answer : CallbackAnswer) :
    (finish srv req env w (.compensate ref tokenId reason answer)).1 =
      if env.compensate = none then w.compensate ref.sagaId tokenId reason else w := by
  rcases hcomp : env.compensate with - | e
  · rw [finish_of_step (by simp only [step, hcomp]; rfl)]
    rfl
  · rw [finish_of_step (by simp only [step, hcomp]; rfl)]
    rfl

variable (srv req env w) in
/-- **After the vault row is stored**, the saga is finalized or it is compensated. ActivePieces may
have changed meanwhile (`w₁`), the database has not. -/
theorem finish_createAp (ref : SagaRef) (parsed : ParsedTokenResponse) (tokenId : String) :
    ∃ w₁ : OAuthWorld, w₁.tokens = w.tokens ∧ w₁.sagas = w.sagas ∧
      ((∃ externalId, (finish srv req env w (.createAp ref parsed tokenId)).1 =
          w₁.finalize ref.sagaId tokenId externalId) ∨
        ∃ reason, (finish srv req env w (.createAp ref parsed tokenId)).1 =
          if env.compensate = none then w₁.compensate ref.sagaId tokenId reason else w₁) := by
  rw [finish_of_step rfl]
  have hw₁ : ∀ b : Bool, ((if b then w.createAp ref.sagaId parsed.accessToken env.apId
      else w).tokens = w.tokens) ∧ ((if b then w.createAp ref.sagaId parsed.accessToken env.apId
      else w).sagas = w.sagas) := by
    intro b
    cases b <;> exact ⟨rfl, rfl⟩
  obtain ⟨htokens, hsagas⟩ := hw₁ env.createAp.applied
  generalize (if env.createAp.applied then w.createAp ref.sagaId parsed.accessToken env.apId
    else w) = w₁ at htokens hsagas ⊢
  have hlinkFailed : ∀ e, ∃ reason, (finish srv req env w₁ (apLinkFailed ref tokenId e)).1 =
      if env.compensate = none then w₁.compensate ref.sagaId tokenId reason else w₁ :=
    fun e ↦ ⟨e.describe, finish_compensate ref tokenId _ _⟩
  unfold afterCreateAp
  split
  · exact ⟨w₁, htokens, hsagas, .inr (hlinkFailed _)⟩
  · split
    · exact ⟨w₁, htokens, hsagas, .inr (hlinkFailed _)⟩
    · rename_i externalId _
      rcases hfin : env.finalize with - | e
      · rw [finish_of_step (by simp only [step, hfin]; rfl)]
        exact ⟨w₁, htokens, hsagas, .inl ⟨externalId, rfl⟩⟩
      · rw [finish_of_step (by simp only [step, hfin]; rfl), finish_of_step rfl,
          finish_compensate]
        refine ⟨if env.deleteAp then w₁.deleteAp _ else w₁, ?_, ?_, .inr ⟨_, rfl⟩⟩
        · split <;> exact htokens
        · split <;> exact hsagas

variable (srv req env w) in
/-- **The handler from the consumption of the nonce on**: nothing happens to the database, or the
saga is marked `FAILED`, or the vault row is stored and the handler goes on from there. -/
theorem finish_consume (ref : SagaRef) :
    (¬ (env.redisReady ∧ env.getdel = .answered) ∧
        (finish srv req env w (.consume ref)).1.sagas = w.sagas ∧
        (finish srv req env w (.consume ref)).1.tokens = w.tokens) ∨
      ((env.redisReady ∧ env.getdel = .answered) ∧
        ((∃ report : FailureReport, report.sagaId = ref.sagaId ∧
            (finish srv req env w (.consume ref)).1 =
              (finish srv req env (w.dropNonce ref.nonce) (.markLoad report)).1) ∨
          ∃ parsed w', env.exchange = .tokens parsed ∧
            tryPersist env (w.dropNonce ref.nonce) ref parsed = .ok w' ∧
            (finish srv req env w (.consume ref)).1 =
              (finish srv req env w' (.createAp ref parsed env.tokenId)).1)) := by
  rcases hready : env.redisReady with - | -
  · refine .inl ⟨by simp, ?_⟩
    rw [finish_of_step (by simp only [step, hready]; rfl)]
    exact ⟨rfl, rfl⟩
  · rcases hget : env.getdel with - | ⟨applied, e⟩
    · refine .inr ⟨⟨rfl, rfl⟩, ?_⟩
      rw [finish_of_step (by simp only [step, hready, hget]; rfl)]
      generalize w.redis.get w.now (nonceKey ref.nonce) = actual
      unfold checkNonce
      split
      · exact .inl ⟨_, rfl, rfl⟩
      · split
        · rw [finish_of_step rfl]
          rcases hex : env.exchange with parsed | ⟨code, message⟩ | e
          · rcases hper : tryPersist env (w.dropNonce ref.nonce) ref parsed with e | w'
            · rw [afterExchange, finish_of_step (by simp only [step, hper]; rfl)]
              exact .inl ⟨_, rfl, rfl⟩
            · rw [afterExchange, finish_of_step (by simp only [step, hper]; rfl)]
              exact .inr ⟨parsed, w', rfl, hper, rfl⟩
          · exact .inl ⟨_, rfl, rfl⟩
          · exact .inl ⟨_, rfl, rfl⟩
        · exact .inl ⟨_, rfl, rfl⟩
    · refine .inl ⟨by simp, ?_⟩
      rw [finish_of_step (by simp only [step, hready, hget]; rfl)]
      cases applied <;> exact ⟨rfl, rfl⟩

/-- A stored vault row is a row that the table accepted, with the saga moved on. -/
theorem tryPersist_eq_ok {ref : SagaRef} {parsed : ParsedTokenResponse}
    (h : tryPersist env w ref parsed = .ok w') :
    ∃ crypto row, env.crypto = .ok crypto ∧
      EncryptedToken.ofAnswer crypto env.rand env.tokenId ref.tenantId ref.provider parsed w.now =
        .ok row ∧
      w.persistTokens ref.sagaId row = some w' := by
  rw [tryPersist] at h
  split at h
  · exact absurd h (by simp)
  · exact absurd h (by simp)
  · rename_i crypto hcrypto _
    split at h
    · exact absurd h (by simp)
    · rename_i row hrow
      split at h
      · exact absurd h (by simp)
      · rename_i w'' _ hw
        exact ⟨crypto, row, hcrypto, hrow, hw.trans (congrArg some (Except.ok.inj h))⟩
      · exact absurd h (by simp)

end Alone

end CallbackPc

/-- `oauth_callback` on a world that nothing else changes meanwhile. -/
def callback (srv : Server) (req : CallbackRequest) (env : CallbackEnv) (w : OAuthWorld) :
    OAuthWorld × CallbackPc :=
  CallbackPc.finish srv req env w .start

/-! ### A deployment to evaluate with

One saga, one state token for it, and a server that recognises the token's payload. Concrete
requests are run on it; no theorem about the handlers depends on it. -/

/-- The payload of `signedState`. -/
def demoPayload : Bytes :=
  utf8 "\x7b\"exp\":300,\"iat\":0,\"n\":\"n1\",\"rp\":\"/\",\"tid\":\"t1\"\x7d"

/-- `json.loads` of the one payload, and tags of zeros. -/
def demoLib : StdLib where
  hmacSha256 _ _ := constantBytes 32 0
  jsonLoads b :=
    if b = demoPayload then
      some (.obj [(.ofString "exp", .int 300), (.ofString "iat", .int 0),
        (.ofString "n", .str (.ofString "n1")), (.ofString "rp", .str (.ofString "/")),
        (.ofString "tid", .str (.ofString "t1"))])
    else none
  intOfStr _ := none
  strOf _ := []
  reprStr s := "'" ++ s ++ "'"

/-- A server with an all-zero signing key. -/
def demoServer : Server := ⟨demoLib, .ok (constantBytes 32 0)⟩

/-- The payload, encoded, without a signature. -/
def unsignedState : String := "eyJleHAiOjMwMCwiaWF0IjowLCJuIjoibjEiLCJycCI6Ii8iLCJ0aWQiOiJ0MSJ9."

/-- The token of saga `s1`. -/
def signedState : String := unsignedState ++ "AAAAAAAAAAAAAAAAAAAAAAAAAAAAAAAAAAAAAAAAAAA"

/-- A callback with a code. -/
def demoRequest : CallbackRequest := ⟨"slack", some "code-1", some signedState, none, none⟩

/-- Every call succeeds. -/
def quietEnv : CallbackEnv where
  findSaga := none
  loadSaga := none
  markLoad := none
  markWrite := none
  redisReady := true
  getdel := .answered
  exchange := .tokens firstAnswer
  crypto := .ok framedProvider
  encrypt := none
  persist := none
  integrityMessage := ""
  createAp := .record (some "siyadah-s1") (some "ap-1") ""
  finalize := none
  deleteAp := true
  compensate := none
  rand := constantRandomness 1
  tokenId := "r1"
  apId := "ap-1"

/-- The saga that `oauth_initiate` inserts for the token, with the given status. -/
def demoSaga (status : SagaStatus) : OAuthSaga where
  id := "s1"
  tenantId := "t1"
  provider := "slack"
  scope := []
  stateNonce := "n1"
  pkceVerifier := "v1"
  status := status
  apConnectionExternalId := none
  encryptedTokenId := none
  expiresAt := seconds 300
  completedAt := none
  failureReason := none
  failureStep := none

/-- The saga and its nonce, and nothing else. -/
def demoWorld (status : SagaStatus) : OAuthWorld where
  now := 0
  tokens := .empty
  sagas := ⟨[demoSaga status], by simp, by simp [OAuthSaga.uniqueNonce]⟩
  redis := ⟨Function.update (fun _ ↦ none) (nonceKey "n1") (some ("t1", seconds 300))⟩
  ap := []
  origin := []

end Siyadah
