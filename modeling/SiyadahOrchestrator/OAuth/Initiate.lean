import SiyadahOrchestrator.Foundations.ProcessPool
import SiyadahOrchestrator.Foundations.TransitionSystem
import SiyadahOrchestrator.OAuth.Callback

/-!
# Initiation, and any number of requests at once

`oauth_initiate` as a machine of the same kind as the callback: it inserts the saga, registers the
nonce, and deletes the saga again when the registration fails.

`OAuth.system` is the whole subsystem. Its states are pools of requests over one `OAuthWorld`; an
action lets time pass, lets a request arrive, or lets one request make one step, so a run is an
arbitrary interleaving at the await points. A request that arrives draws a saga id and a nonce that
occur nowhere yet (`Fresh`): `uuid4` and `secrets.token_bytes` do not repeat.
-/

namespace Siyadah

/-! ### The handler -/

/-- A request of `oauth_initiate`, after authentication. -/
structure InitiateRequest where
  provider : String
  /-- `resolve_pid(request, None)`. -/
  tenantId : Option String
  scopes : Option (List String)
deriving DecidableEq, Repr

/-- What becomes of the `SET … NX` of the nonce. -/
inductive RegisterOutcome where
  | answered
  | raised (applied : Bool) (e : PyException)
deriving DecidableEq, Repr

/-- The outcomes of the awaited calls of one initiation, and what it draws. -/
structure InitiateEnv where
  sagaId : String
  nonce : String
  pkceVerifier : String
  insert : Option PyException
  integrityMessage : String
  redisReady : Bool
  register : RegisterOutcome
  rollback : Option PyException
deriving DecidableEq, Repr

/-- What the handler returns or raises. -/
inductive InitiateAnswer where
  | started (sagaId provider : String) (scopes : List String) (expiresAt : Time)
  | http (status : ℕ) (detail : String)
  | raised (e : PyException)
deriving DecidableEq, Repr

/-- Where an initiation stands. -/
inductive InitiatePc where
  | start
  | insert (tenantId provider : String) (scopes : List String)
  | register (tenantId provider : String) (scopes : List String) (expiresAt : Time)
  | rollback (answer : InitiateAnswer)
  | done (answer : InitiateAnswer)
deriving DecidableEq, Repr

/-- `default_scopes` of Slack, the only registered provider. -/
def defaultScopes : List String := ["chat:write", "channels:read", "users:read"]

namespace InitiatePc

/-- The handler up to its first `await`. -/
def enter (srv : Server) (req : InitiateRequest) : InitiatePc :=
  match getProvider req.provider with
  | none => .done (.http 404 ("Unknown OAuth provider " ++ srv.lib.reprStr req.provider ++
      ". Supported: ['slack']"))
  | some cfg =>
    match truthy req.tenantId with
    | none => .done (.http 401 "tenant required")
    | some tenantId =>
      match srv.stateKey with
      | .error e => .done (.raised e)
      | .ok _ => .insert tenantId cfg.name
        (match req.scopes with
          | some (scope :: scopes) => scope :: scopes
          | _ => defaultScopes)

/-- The row of a new saga. -/
def newSaga (env : InitiateEnv) (tenantId provider : String) (scopes : List String) (now : Time) :
    OAuthSaga where
  id := env.sagaId
  tenantId := tenantId
  provider := provider
  scope := scopes
  stateNonce := env.nonce
  pkceVerifier := env.pkceVerifier
  status := .initiated
  apConnectionExternalId := none
  encryptedTokenId := none
  expiresAt := now + seconds stateTtlSeconds
  completedAt := none
  failureReason := none
  failureStep := none

/-- The rollback after a Redis failure. -/
def redisUnavailable : InitiatePc := .rollback (.http 503 "redis unavailable for OAuth state")

/-- One atomic step. -/
def step (srv : Server) (req : InitiateRequest) (env : InitiateEnv) (w : OAuthWorld) :
    InitiatePc → Option (OAuthWorld × InitiatePc)
  | .start => some (w, enter srv req)
  | .insert tenantId provider scopes =>
    match env.insert with
    | some e => some (w, .done (.raised e))
    | none =>
      match w.insertSaga (newSaga env tenantId provider scopes w.now) with
      | some w' => some (w', .register tenantId provider scopes (w.now + seconds stateTtlSeconds))
      | none => some (w, .done (.raised ⟨"IntegrityError", env.integrityMessage⟩))
  | .register tenantId provider scopes expiresAt =>
    -- `_get_redis` stands before the `try`, so nothing is rolled back.
    if env.redisReady = false then some (w, .done (.http 503 "redis not initialised"))
    else if env.nonce = "" then some (w, redisUnavailable)
    else
      match env.register with
      | .raised applied _ =>
        some (if applied then (w.registerNonce env.nonce tenantId).getD w else w,
          redisUnavailable)
      | .answered =>
        match w.registerNonce env.nonce tenantId with
        | some w' => some (w', .done (.started env.sagaId provider scopes expiresAt))
        | none => some (w, .rollback (.http 500 "OAuth state initialization failed"))
  | .rollback answer =>
    match env.rollback with
    | some e => some (w, .done (.raised e))
    | none => some (w.dropSaga env.sagaId, .done answer)
  | .done _ => none

end InitiatePc

/-! ### The subsystem -/

namespace CallbackPc

/-- The locals of a callback that has consumed the nonce and is not done with the vault: from here
on it is the only one that writes for its saga, failure marks apart. -/
def owner : CallbackPc → Option SagaRef
  | .exchange ref => some ref
  | .persist ref _ => some ref
  | .createAp ref _ _ => some ref
  | .finalize ref _ _ _ => some ref
  | .deleteAp ref _ _ _ => some ref
  | .compensate ref _ _ _ => some ref
  | _ => none

/-- The locals of a callback that has found its saga. -/
def claim : CallbackPc → Option SagaRef
  | .consume ref => some ref
  | pc => pc.owner

end CallbackPc

/-- A request that is being handled. -/
inductive Handler where
  | initiate (req : InitiateRequest) (env : InitiateEnv) (pc : InitiatePc)
  | callback (req : CallbackRequest) (env : CallbackEnv) (pc : CallbackPc)

namespace Handler

/-- One atomic step. -/
def step (srv : Server) (w : OAuthWorld) : Handler → Option (OAuthWorld × Handler)
  | .initiate req env pc => (pc.step srv req env w).map fun r ↦ (r.1, .initiate req env r.2)
  | .callback req env pc => (pc.step srv req env w).map fun r ↦ (r.1, .callback req env r.2)

/-- The handler has answered. -/
def IsDone : Handler → Bool
  | .initiate _ _ (.done _) => true
  | .callback _ _ (.done _) => true
  | _ => false

/-- The saga id and the nonce of `env` do not occur in the handler. -/
def Avoids (env : InitiateEnv) : Handler → Prop
  | .initiate _ env' _ => env'.sagaId ≠ env.sagaId ∧ env'.nonce ≠ env.nonce
  | .callback _ _ pc => ∀ ref ∈ pc.claim, ref.sagaId ≠ env.sagaId ∧ ref.nonce ≠ env.nonce

instance (env : InitiateEnv) : ∀ h, Decidable (Avoids env h)
  | .initiate _ _ _ => inferInstanceAs (Decidable (_ ∧ _))
  | .callback _ _ pc => inferInstanceAs (Decidable (∀ ref ∈ pc.claim, _))

end Handler

/-- The state of the subsystem. -/
abbrev OAuthState := ProcessPool OAuthWorld Handler

/-- What can happen. -/
inductive OAuthAction where
  /-- Time passes. -/
  | tick (elapsed : ℕ)
  /-- A user starts a handshake. -/
  | initiate (req : InitiateRequest) (env : InitiateEnv)
  /-- A callback arrives. -/
  | callback (req : CallbackRequest) (env : CallbackEnv)
  /-- Handler `i` makes a step. -/
  | step (i : ℕ)

namespace OAuth

/-- The saga id and the nonce of `env` occur nowhere. -/
structure Fresh (P : OAuthState) (env : InitiateEnv) : Prop where
  procs : ∀ h ∈ P.procs, h.Avoids env
  saga : P.store.sagas.find? env.sagaId = none
  nonce : ∀ s ∈ P.store.sagas.rows, s.stateNonce ≠ env.nonce
  redis : P.store.redis.entries (nonceKey env.nonce) = none
  origin : ∀ p ∈ P.store.origin, p.2 ≠ env.sagaId
  ap : ∀ c ∈ P.store.ap, c.sagaId ≠ env.sagaId

theorem fresh_iff {P : OAuthState} {env : InitiateEnv} :
    Fresh P env ↔ (∀ h ∈ P.procs, h.Avoids env) ∧ P.store.sagas.find? env.sagaId = none ∧
      (∀ s ∈ P.store.sagas.rows, s.stateNonce ≠ env.nonce) ∧
      P.store.redis.entries (nonceKey env.nonce) = none ∧
      (∀ p ∈ P.store.origin, p.2 ≠ env.sagaId) ∧ ∀ c ∈ P.store.ap, c.sagaId ≠ env.sagaId :=
  ⟨fun h ↦ ⟨h.procs, h.saga, h.nonce, h.redis, h.origin, h.ap⟩,
    fun ⟨h₁, h₂, h₃, h₄, h₅, h₆⟩ ↦ ⟨h₁, h₂, h₃, h₄, h₅, h₆⟩⟩

instance (P : OAuthState) (env : InitiateEnv) : Decidable (Fresh P env) :=
  decidable_of_iff _ fresh_iff.symm

/-- Requests interleaved at their await points. -/
def system (srv : Server) : TransitionSystem OAuthState OAuthAction where
  step P
    | .tick elapsed => some (P.touch { P.store with now := P.store.now + elapsed })
    | .initiate req env =>
      if Fresh P env then some (P.spawn P.store [.initiate req env .start]) else none
    | .callback req env => some (P.spawn P.store [.callback req env .start])
    | .step i => P.advance (Handler.step srv) i

theorem step_initiate_eq_some {srv : Server} {P Q : OAuthState} {req : InitiateRequest}
    {env : InitiateEnv} : (system srv).step P (.initiate req env) = some Q ↔
      Fresh P env ∧ Q = P.spawn P.store [.initiate req env .start] := by
  show (if Fresh P env then some (P.spawn P.store [.initiate req env .start]) else none) =
    some Q ↔ _
  split
  · rename_i hfresh
    rw [Option.some.injEq, and_iff_right hfresh, eq_comm]
  · rename_i hfresh
    exact iff_of_false (by simp) fun h ↦ hfresh h.1

/-- Nothing has happened yet. -/
def initial (now : Time) : OAuthState := ⟨.empty now, []⟩

/-- No handler is running. -/
def Quiescent (P : OAuthState) : Prop := ∀ h ∈ P.procs, h.IsDone = true

instance (P : OAuthState) : Decidable (Quiescent P) :=
  inferInstanceAs (Decidable (∀ h ∈ P.procs, _))

end OAuth

end Siyadah
