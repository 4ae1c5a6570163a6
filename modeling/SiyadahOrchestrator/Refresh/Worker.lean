import Mathlib.Data.List.Sort
import SiyadahOrchestrator.Foundations.ProcessPool
import SiyadahOrchestrator.Foundations.TransitionSystem
import SiyadahOrchestrator.OAuth.Saga

/-!
# The refresh worker

`refresh_due_tokens` and what it calls: `_claim_due_tokens` leases a batch of rows, and for each row
a task runs `_refresh_one_token` or `_retry_ap_only` and then `_release_lease`. A task is a machine
whose steps are the await points of the source; each step is one statement on one store.

The outcomes of the awaited calls are an oracle, `RefreshEnv`, so that a step is a function. A
failed transaction has no effect; a request to Redis or to ActivePieces that raises may have been
carried out.

`Refresh.system` is the whole subsystem: sweeps of any number of workers, their tasks interleaved at
the await points, crashes of single tasks, the passage of time, and the revocations that the
webhooks commit. `history` records what the stores do not keep: the refresh tokens sent and
replaced, and the access tokens pushed.
-/

namespace Siyadah

/-! ### Constants and outcomes -/

/-- `REFRESH_LOCK_TTL`. -/
def refreshLockTtl : ℤ := 300

/-- `REFRESH_LEASE_TTL_SECONDS`. -/
def refreshLeaseTtlSeconds : ℤ := 300

/-- The key of the mutex of one row. -/
def lockKey (tokenId : String) : String := "oauth:refresh:lock:" ++ tokenId

theorem lockKey_injective : Function.Injective lockKey := fun _ _ h ↦
  String.append_right_inj _ |>.1 h

/-- What becomes of `_update_ap_connection`. -/
inductive PushOutcome where
  /-- ActivePieces has written the value. -/
  | accepted
  /-- ActivePieces has written the value, and the call raises. -/
  | lost
  /-- ActivePieces refuses the request. -/
  | rejected
  /-- The call raises before the request is sent. -/
  | notSent
deriving DecidableEq, Repr

namespace PushOutcome

/-- The request leaves the process. -/
def sent : PushOutcome → Bool
  | notSent => false
  | _ => true

/-- ActivePieces writes the value. -/
def applied : PushOutcome → Bool
  | accepted | lost => true
  | rejected | notSent => false

/-- The call returns. -/
def returns : PushOutcome → Bool
  | accepted => true
  | _ => false

theorem applied_of_returns {o : PushOutcome} (h : o.returns = true) : o.applied = true := by
  cases o <;> first | rfl | exact absurd h (by decide)

end PushOutcome

/-- The outcomes of the awaited calls of one task, and what it draws. -/
structure RefreshEnv where
  redisReady : Bool
  /-- The `SELECT` answers. -/
  loads : Bool
  /-- The `UPDATE` of a row without a refresh token commits. -/
  bumps : Bool
  lock : CommandOutcome
  answer : ProviderAnswer
  rand : SealRandomness
  /-- The `UPDATE` to `CORRUPTED` or `REVOKED` commits, unless the constraint refuses it. -/
  marks : Bool
  /-- The rotation commits. -/
  rotates : Bool
  push : PushOutcome
  /-- The `UPDATE` of `ap_sync_pending` commits. -/
  flags : Bool
  /-- The `DEL` of the mutex takes effect. -/
  unlocks : Bool
  /-- The `UPDATE` of `_release_lease` commits. -/
  releases : Bool

/-- The `action` that a task reports. -/
inductive TaskAction where
  /-- One of those that `_refresh_one_token` reports when it runs alone. -/
  | refresh (action : RefreshAction)
  | skipMissing
  | skipLocked
  | rotatedApPending
  | skipState
  | apNoTarget
  | apRetryDecryptFail
  | apRetryFailed
  | apResynced
deriving DecidableEq, Repr

/-! ### The stores -/

/-- What the stores do not keep. -/
inductive RefreshEvent where
  /-- The refresh token has been sent to the provider. -/
  | sent (tokenId refresh : String)
  /-- A committed rotation has replaced the refresh token by a new one. -/
  | replaced (tokenId refresh : String)
  /-- The access token has been sent to ActivePieces. -/
  | pushed (tokenId externalId access : String)
deriving DecidableEq, Repr

/-- Everything the tasks share. -/
structure RefreshWorld where
  now : Time
  tokens : TokenTable
  redis : ExpiringStore String String Time
  /-- The access token that a connection has accepted last, by external id. -/
  ap : String → Option String
  /-- What has happened, newest first. -/
  history : List RefreshEvent

namespace RefreshWorld

variable (w : RefreshWorld)

/-- `SET lock_key "1" NX EX 300`; `none` when the key is there. -/
def acquire (tokenId : String) : Option RefreshWorld :=
  (w.redis.setNx w.now (lockKey tokenId) "1" (w.now + seconds refreshLockTtl)).map fun redis ↦
    { w with redis := redis }

/-- `DEL lock_key`. -/
def unlock (tokenId : String) : RefreshWorld :=
  { w with redis := w.redis.delete (lockKey tokenId) }

/-- The refresh request leaves for the provider. -/
def send (tokenId refresh : String) : RefreshWorld :=
  { w with history := .sent tokenId refresh :: w.history }

/-- The `UPDATE` that stops the polling of a row without a refresh token. -/
def bump (tokenId : String) : RefreshWorld :=
  { w with tokens := w.tokens.setRefreshAt tokenId (w.now + days 365) }

/-- The `UPDATE` of `status`; `none` is `IntegrityError`. -/
def mark (tokenId : String) (status : TokenStatus) : Option RefreshWorld :=
  (w.tokens.setStatus tokenId status).map fun tokens ↦ { w with tokens := tokens }

/-- The refresh token that a rotation replaces by a new one: the one that was sent, if the answer
carries another. -/
def replacedBy (c : CryptoProvider) (loaded : EncryptedToken) (parsed : ParsedTokenResponse) :
    Option String :=
  match c.decryptRefresh loaded, truthy parsed.refreshToken with
  | .ok refresh, some next => if next = refresh then none else some refresh
  | _, _ => none

/-- The rotation `UPDATE`. -/
def rotate (c : CryptoProvider) (tokenId : String) (loaded : EncryptedToken)
    (parsed : ParsedTokenResponse) (sealed : SealedTokens) (sealedAt : Time) : RefreshWorld :=
  { w with
    tokens := w.tokens.rotate tokenId loaded parsed sealed sealedAt
    history := (replacedBy c loaded parsed).toList.map (.replaced tokenId) ++ w.history }

/-- The upsert of `_update_ap_connection`. -/
def pushAp (outcome : PushOutcome) (tokenId externalId access : String) : RefreshWorld :=
  { w with
    ap := if outcome.applied then Function.update w.ap externalId (some access) else w.ap
    history := if outcome.sent then .pushed tokenId externalId access :: w.history else w.history }

/-- The `UPDATE` of `ap_sync_pending`. -/
def setApSyncPending (tokenId : String) (pending : Bool) : RefreshWorld :=
  { w with tokens := w.tokens.setApSyncPending tokenId pending }

/-- The `UPDATE` of `_release_lease`. -/
def releaseLease (tokenId : String) : RefreshWorld :=
  { w with tokens := w.tokens.releaseLease tokenId }

end RefreshWorld

/-! ### One task -/

/-- Where a task stands: the await that comes next, with the locals it needs. `loaded` is the task's
copy of the row. -/
inductive RefreshPc where
  /-- `_refresh_one_token`: the row is loaded. -/
  | load
  | bump
  | lock (loaded : EncryptedToken)
  | decrypt (loaded : EncryptedToken)
  /-- The provider call is in flight. -/
  | awaitProvider (loaded : EncryptedToken) (refresh : String)
  | mark (status : TokenStatus)
  | rotate (loaded : EncryptedToken) (parsed : ParsedTokenResponse) (sealed : SealedTokens)
      (sealedAt : Time)
  | push (externalId access : String)
  | flag (synced : Bool)
  /-- `_retry_ap_only`: the mutex comes first. -/
  | apLock
  | apLoad
  | apPush (externalId access : String)
  | clear (action : TaskAction)
  /-- The `finally` of both. -/
  | unlock (action : TaskAction)
  | release (action : TaskAction)
  | done (action : TaskAction)
  /-- The process has died. -/
  | crashed

namespace RefreshPc

/-- The task has found the mutex free and has not given it back. -/
def inSection : RefreshPc → Bool
  | decrypt _ | awaitProvider _ _ | mark _ | rotate _ _ _ _ | push _ _ | flag _ => true
  | apLoad | apPush _ _ | clear _ | unlock _ => true
  | load | bump | lock _ | apLock | release _ | done _ | crashed => false

/-- The provider call is in flight. -/
def inFlight : RefreshPc → Bool
  | awaitProvider _ _ => true
  | _ => false

/-- The task works on its row no longer. -/
def isDone : RefreshPc → Bool
  | done _ | crashed => true
  | _ => false

/-- The task is about to try the mutex. -/
def locks : RefreshPc → Bool
  | lock _ | apLock => true
  | _ => false

/-- An exception that `_full` and `_ap` catch. -/
def unhandled : TaskAction := .refresh .unhandledError

/-- `SET … NX`, and where it leads. -/
def tryLock (env : RefreshEnv) (tokenId : String) (w : RefreshWorld) (entered : RefreshPc) :
    RefreshWorld × RefreshPc :=
  match env.lock with
  | .raised applied =>
    (if applied then (w.acquire tokenId).getD w else w, .release unhandled)
  | .answered =>
    match w.acquire tokenId with
    | some w' => (w', entered)
    | none => (w, .release .skipLocked)

/-- The action reported with a status mark. -/
def markAction : TokenStatus → TaskAction
  | .corrupted => .refresh .corrupted
  | _ => .refresh .revoked

/-- One atomic step. -/
def step (c : CryptoProvider) (env : RefreshEnv) (tokenId : String) (w : RefreshWorld) :
    RefreshPc → Option (RefreshWorld × RefreshPc)
  | load =>
    if env.redisReady = false ∨ env.loads = false then some (w, release unhandled)
    else
      match w.tokens.find? tokenId with
      | none => some (w, release .skipMissing)
      | some row =>
        if row.status ≠ .active then some (w, release (.refresh .skipStatus))
        else if row.encryptedRefreshToken = none then some (w, bump)
        else some (w, lock row)
  | bump =>
    if env.bumps then some (w.bump tokenId, release (.refresh .noRefreshTokenSkip))
    else some (w, release unhandled)
  | lock loaded => some (tryLock env tokenId w (decrypt loaded))
  | decrypt loaded =>
    match getProvider loaded.provider with
    | none => some (w, unlock unhandled)
    | some _ =>
      match c.decryptRefresh loaded with
      | .error _ => some (w, mark .corrupted)
      | .ok refresh => some (w.send tokenId refresh, awaitProvider loaded refresh)
  | awaitProvider loaded _ =>
    match env.answer with
    | .tokenExchangeError code =>
      if code ∈ terminalCodes then some (w, mark .revoked)
      else some (w, unlock (.refresh .transientProviderFailure))
    | .otherError => some (w, unlock unhandled)
    | .tokens parsed =>
      match c.sealTokens env.rand loaded.aad parsed with
      | .error _ => some (w, unlock unhandled)
      | .ok sealed => some (w, rotate loaded parsed sealed w.now)
  | mark status =>
    if env.marks then
      match w.mark tokenId status with
      | some w' => some (w', unlock (markAction status))
      | none => some (w, unlock unhandled)
    else some (w, unlock unhandled)
  | rotate loaded parsed sealed sealedAt =>
    if env.rotates then
      some (w.rotate c tokenId loaded parsed sealed sealedAt,
        match truthy loaded.apConnectionExternalId with
        | some externalId => push externalId parsed.accessToken
        | none => flag true)
    else some (w, unlock unhandled)
  | push externalId access =>
    some (w.pushAp env.push tokenId externalId access, flag env.push.returns)
  | flag synced =>
    if env.flags then
      some (w.setApSyncPending tokenId (!synced),
        unlock (if synced then .refresh .rotated else .rotatedApPending))
    else some (w, unlock unhandled)
  | apLock =>
    if env.redisReady = false then some (w, release unhandled)
    else some (tryLock env tokenId w apLoad)
  | apLoad =>
    if env.loads = false then some (w, unlock unhandled)
    else
      match w.tokens.find? tokenId with
      | none => some (w, unlock .skipMissing)
      | some row =>
        if row.status ≠ .active ∨ row.apSyncPending = false then some (w, unlock .skipState)
        else
          match getProvider row.provider with
          | none => some (w, unlock unhandled)
          | some _ =>
            match truthy row.apConnectionExternalId with
            | none => some (w, clear .apNoTarget)
            | some externalId =>
              match c.decryptAccess row with
              | .error _ => some (w, unlock .apRetryDecryptFail)
              | .ok access => some (w, apPush externalId access)
  | apPush externalId access =>
    some (w.pushAp env.push tokenId externalId access,
      if env.push.returns then clear .apResynced else unlock .apRetryFailed)
  | clear action =>
    if env.flags then some (w.setApSyncPending tokenId false, unlock action)
    else some (w, unlock unhandled)
  | unlock action => some (if env.unlocks then w.unlock tokenId else w, release action)
  | release action => some (if env.releases then w.releaseLease tokenId else w, done action)
  | done _ => none
  | crashed => none

end RefreshPc

/-- A task of a sweep. -/
structure RefreshTask where
  tokenId : String
  env : RefreshEnv
  /-- When the task found the mutex free; the worker does not keep it. -/
  lockedAt : Time
  pc : RefreshPc

namespace RefreshTask

/-- One atomic step. -/
def step (c : CryptoProvider) (w : RefreshWorld) (t : RefreshTask) :
    Option (RefreshWorld × RefreshTask) :=
  (t.pc.step c t.env t.tokenId w).map fun r ↦
    (r.1, { t with pc := r.2, lockedAt := if t.pc.locks then w.now else t.lockedAt })

/-- When the mutex that the task holds runs out. -/
def lockExpiry (t : RefreshTask) : Time := t.lockedAt + seconds refreshLockTtl

end RefreshTask

/-! ### The claim -/

namespace EncryptedToken

/-- `refresh_at IS NOT NULL AND refresh_at <= now`. -/
def IsDue (now : Time) (r : EncryptedToken) : Prop := ∃ t ∈ r.refreshAt, t ≤ now

instance (now : Time) (r : EncryptedToken) : Decidable (r.IsDue now) :=
  inferInstanceAs (Decidable (∃ t ∈ r.refreshAt, t ≤ now))

/-- The `WHERE` clause of `_claim_due_tokens`. -/
def Claimable (now : Time) (r : EncryptedToken) : Prop :=
  r.status = .active ∧ (r.IsDue now ∨ r.apSyncPending = true) ∧ ∀ t ∈ r.processingUntil, t < now

instance (now : Time) (r : EncryptedToken) : Decidable (r.Claimable now) :=
  inferInstanceAs (Decidable (_ ∧ _ ∧ ∀ t ∈ r.processingUntil, t < now))

/-- `refresh_at ASC NULLS LAST`. -/
def refreshBefore (r r' : EncryptedToken) : Bool :=
  match r.refreshAt, r'.refreshAt with
  | some t, some t' => t ≤ t'
  | some _, none => true
  | none, none => true
  | none, some _ => false

end EncryptedToken

namespace RefreshWorld

variable (w : RefreshWorld)

/-- The rows that `_claim_due_tokens` selects; `skip` are those that another transaction has
locked. -/
def dueRows (limit : ℕ) (skip : List String) : List EncryptedToken :=
  ((w.tokens.rows.filter fun r ↦ r.Claimable w.now ∧ r.id ∉ skip).insertionSort
    fun r r' ↦ r.refreshBefore r' = true).take limit

/-- The transaction of `_claim_due_tokens`. -/
def claim (limit : ℕ) (skip : List String) : RefreshWorld :=
  { w with
    tokens := w.tokens.lease ((w.dueRows limit skip).map EncryptedToken.id)
      (w.now + seconds refreshLeaseTtlSeconds) }

/-- The path that a claimed row takes: both reasons at once are a full refresh. -/
def firstPc (row : EncryptedToken) : RefreshPc := if row.IsDue w.now then .load else .apLock

/-- The tasks that `refresh_due_tokens` gathers. -/
def gather (limit : ℕ) (skip : List String) (env : String → RefreshEnv) : List RefreshTask :=
  (w.dueRows limit skip).map fun row ↦ ⟨row.id, env row.id, w.now, w.firstPc row⟩

end RefreshWorld

/-! ### The subsystem -/

/-- The state of the subsystem. -/
abbrev RefreshState := ProcessPool RefreshWorld RefreshTask

/-- What can happen. -/
inductive SweepAction where
  /-- Time passes. -/
  | tick (elapsed : ℕ)
  /-- A worker starts one pass of `refresh_due_tokens`. -/
  | sweep (limit : ℕ) (skip : List String) (env : String → RefreshEnv)
  /-- Task `i` makes a step. -/
  | step (i : ℕ)
  /-- The process of task `i` dies. -/
  | crash (i : ℕ)
  /-- `_revoke_slack_team` commits. -/
  | revokeSlackTeam (teamId : String)
  /-- `_revoke_google_user` commits. -/
  | revokeGoogleUser (googleSub : String)

namespace Refresh

/-- The process of task `i` dies at the await where it stands. -/
def crash (P : RefreshState) (i : ℕ) : Option RefreshState :=
  (P.procs[i]?).map fun t ↦ P.kill i { t with pc := .crashed }

/-- A revocation commits. -/
def revoke (P : RefreshState) (tokens : Option TokenTable) : Option RefreshState :=
  tokens.map fun t ↦ P.touch { P.store with tokens := t }

/-- Workers, their tasks, crashes and revocations. -/
def system (c : CryptoProvider) : TransitionSystem RefreshState SweepAction where
  step P
    | .tick elapsed => some (P.touch { P.store with now := P.store.now + elapsed })
    | .sweep limit skip env =>
      some (P.spawn (P.store.claim limit skip) (P.store.gather limit skip env))
    | .step i => P.advance (RefreshTask.step c) i
    | .crash i => crash P i
    | .revokeSlackTeam teamId => revoke P (P.store.tokens.revokeSlackTeam teamId)
    | .revokeGoogleUser googleSub => revoke P (P.store.tokens.revokeGoogleUser googleSub)

/-- The stores are given, no task runs, and nothing has happened yet. -/
def initial (w : RefreshWorld) : RefreshState := ⟨{ w with history := [] }, []⟩

/-! ### Stores to evaluate with

One row of Slack workspace `T1` with a connection, due at `now`. Concrete schedules are run on it;
no theorem about the worker depends on it. -/

/-- The row, as an authorization leaves it once its saga is completed. -/
def demoRow : Option EncryptedToken :=
  (EncryptedToken.ofAnswer framedProvider (constantRandomness 1) "r1" "t1" "slack" firstAnswer
    0).toOption.map (EncryptedToken.setApConnection "ext-1")

/-- The row is due, and its connection has the access token that the row has. -/
def demoWorld : RefreshWorld where
  now := seconds 43200
  tokens := (demoRow.bind KeyedTable.empty.insert).getD .empty
  redis := .empty
  ap externalId := if externalId = "ext-1" then some "xoxb-1" else none
  history := []

/-- The calls of a task that nothing disturbs; the provider answers with the tokens of number `n`.
-/
def quietRefreshEnv (n : ℕ) : RefreshEnv where
  redisReady := true
  loads := true
  bumps := true
  lock := .answered
  answer := .tokens ⟨"xoxb-" ++ toString n, some ("xoxe-" ++ toString n), some 43200, [], some "T1"⟩
  rand := constantRandomness (UInt8.ofNat n)
  marks := true
  rotates := true
  push := .accepted
  flags := true
  unlocks := true
  releases := true

/-- A worker starts a pass whose tasks are answered with the tokens of number `n`. -/
def demoSweep (n : ℕ) : SweepAction := .sweep 50 [] fun _ ↦ quietRefreshEnv n

end Refresh

end Siyadah
