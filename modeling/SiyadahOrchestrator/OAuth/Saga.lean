import SiyadahOrchestrator.Foundations.ExpiringStore
import SiyadahOrchestrator.OAuth.StateToken
import SiyadahOrchestrator.Vault.Statements

/-!
# Sagas, and what a handler does to the world

An OAuth handshake is tracked by a row of `oauth_sagas`. Its handlers write to three places that
share no transaction: the database (sagas and vault), Redis (the nonce) and ActivePieces (the
connection). `OAuthWorld` holds the three, and each definition below is one atomic effect on them:
one committed transaction, one Redis command or one ActivePieces request.

Two columns are not in the code. `origin` and `ApConnection.sagaId` record which saga a vault row
and a connection were created for; nothing reads them but statements about the world.
-/

namespace Siyadah

/-! ### Rows of `oauth_sagas` -/

/-- The values of `oauth_sagas.status`. -/
inductive SagaStatus where
  | initiated
  | tokenObtained
  | completed
  | failed
  | compensated
deriving DecidableEq, Repr

/-- The column's text, as it appears in an answer. -/
def SagaStatus.text : SagaStatus → String
  | .initiated => "INITIATED"
  | .tokenObtained => "TOKEN_OBTAINED"
  | .completed => "COMPLETED"
  | .failed => "FAILED"
  | .compensated => "COMPENSATED"

/-- No handler moves the saga on from here. -/
def SagaStatus.IsTerminal (s : SagaStatus) : Prop := s ≠ .initiated ∧ s ≠ .tokenObtained

instance (s : SagaStatus) : Decidable s.IsTerminal := inferInstanceAs (Decidable (_ ∧ _))

/-- One row of `oauth_sagas`. -/
structure OAuthSaga where
  id : String
  tenantId : String
  provider : String
  scope : List String
  stateNonce : String
  pkceVerifier : String
  status : SagaStatus
  apConnectionExternalId : Option String
  encryptedTokenId : Option String
  expiresAt : Time
  completedAt : Option Time
  failureReason : Option String
  failureStep : Option String
deriving DecidableEq

namespace OAuthSaga

/-- `state_nonce` is unique. -/
def uniqueNonce (s : OAuthSaga) : Option String := some s.stateNonce

/-- `SET status='FAILED', …`; the reason is cut to 500 characters. -/
def fail (step reason : String) (now : Time) (s : OAuthSaga) : OAuthSaga :=
  { s with
    status := .failed
    failureStep := some step
    failureReason := some (String.ofList (reason.toList.take 500))
    completedAt := some now }

/-- `SET status='TOKEN_OBTAINED', encrypted_token_id=…`. -/
def obtain (tokenId : String) (s : OAuthSaga) : OAuthSaga :=
  { s with status := .tokenObtained, encryptedTokenId := some tokenId }

/-- `SET status='COMPLETED', …`. -/
def complete (apExternalId : String) (now : Time) (s : OAuthSaga) : OAuthSaga :=
  { s with
    status := .completed
    apConnectionExternalId := some apExternalId
    completedAt := some now }

/-- `SET status='COMPENSATED', …`. -/
def compensate (reason : String) (now : Time) (s : OAuthSaga) : OAuthSaga :=
  { s with
    status := .compensated
    failureStep := some "ap_connection"
    failureReason := some (String.ofList (reason.toList.take 500))
    completedAt := some now
    encryptedTokenId := none }

/-- `ON DELETE SET NULL`. -/
def forgetToken (s : OAuthSaga) : OAuthSaga := { s with encryptedTokenId := none }

end OAuthSaga

/-- The table, with its constraints. -/
abbrev SagaTable := KeyedTable OAuthSaga.id OAuthSaga.uniqueNonce

namespace SagaTable

variable (t : SagaTable)

/-- `SELECT … WHERE state_nonce = …`. -/
def findByNonce (nonce : String) : Option OAuthSaga := t.rows.find? fun s ↦ s.stateNonce = nonce

/-- `UPDATE oauth_sagas SET status='FAILED', … WHERE id = …`. -/
def fail (id step reason : String) (now : Time) : SagaTable :=
  t.modifyKey id (OAuthSaga.fail step reason now) (fun _ ↦ rfl) fun _ ↦ rfl

/-- `UPDATE oauth_sagas SET status='TOKEN_OBTAINED', … WHERE id = …`. -/
def obtain (id tokenId : String) : SagaTable :=
  t.modifyKey id (OAuthSaga.obtain tokenId) (fun _ ↦ rfl) fun _ ↦ rfl

/-- `UPDATE oauth_sagas SET status='COMPLETED', … WHERE id = …`. -/
def complete (id apExternalId : String) (now : Time) : SagaTable :=
  t.modifyKey id (OAuthSaga.complete apExternalId now) (fun _ ↦ rfl) fun _ ↦ rfl

/-- `UPDATE oauth_sagas SET status='COMPENSATED', … WHERE id = …`. -/
def compensate (id reason : String) (now : Time) : SagaTable :=
  t.modifyKey id (OAuthSaga.compensate reason now) (fun _ ↦ rfl) fun _ ↦ rfl

/-- The foreign key's part of deleting a vault row. -/
def forgetToken (tokenId : String) : SagaTable :=
  t.modify (fun s ↦ s.encryptedTokenId = some tokenId) OAuthSaga.forgetToken (fun _ ↦ rfl)
    fun _ ↦ rfl

variable {t} {nonce id : String} {s : OAuthSaga}

theorem mem_of_findByNonce (h : t.findByNonce nonce = some s) :
    s ∈ t.rows ∧ s.stateNonce = nonce :=
  ⟨List.mem_of_find?_eq_some h, by simpa using List.find?_some h⟩

/-! ### Reading after a statement -/

theorem find?_fail {step reason : String} {now : Time} (id' : String) :
    (t.fail id step reason now).find? id' =
      if id' = id then (t.find? id').map (OAuthSaga.fail step reason now) else t.find? id' :=
  KeyedTable.find?_modifyKey id'

theorem find?_obtain {tokenId : String} (id' : String) :
    (t.obtain id tokenId).find? id' =
      if id' = id then (t.find? id').map (OAuthSaga.obtain tokenId) else t.find? id' :=
  KeyedTable.find?_modifyKey id'

theorem find?_complete {externalId : String} {now : Time} (id' : String) :
    (t.complete id externalId now).find? id' =
      if id' = id then (t.find? id').map (OAuthSaga.complete externalId now) else t.find? id' :=
  KeyedTable.find?_modifyKey id'

theorem find?_compensate {reason : String} {now : Time} (id' : String) :
    (t.compensate id reason now).find? id' =
      if id' = id then (t.find? id').map (OAuthSaga.compensate reason now) else t.find? id' :=
  KeyedTable.find?_modifyKey id'

theorem find?_forgetToken {tokenId : String} (id' : String) :
    (t.forgetToken tokenId).find? id' = (t.find? id').map fun s ↦
      if s.encryptedTokenId = some tokenId then s.forgetToken else s := by
  refine (KeyedTable.find?_modify id').trans ?_
  simp only [decide_eq_true_eq]

end SagaTable

/-! ### The world of the handlers -/

/-- A connection on ActivePieces. -/
structure ApConnection where
  id : String
  externalId : String
  /-- The access token inside the connection's value. -/
  token : String
  /-- The saga it was created for. -/
  sagaId : String
deriving DecidableEq, Repr

/-- `external_id` of the connection of a saga. -/
def apExternalId (sagaId : String) : String := "siyadah-" ++ String.ofList (sagaId.toList.take 16)

/-- The Redis key of a nonce. -/
def nonceKey (nonce : String) : String := "oauth:nonce:" ++ nonce

theorem nonceKey_injective : Function.Injective nonceKey := by
  intro a b h
  have h' : ("oauth:nonce:" ++ a).toList = ("oauth:nonce:" ++ b).toList := congrArg String.toList h
  rw [String.toList_append, String.toList_append] at h'
  exact String.toList_inj.1 (List.append_cancel_left h')

/-- `STATE_TTL_SECONDS`. -/
def stateTtlSeconds : ℤ := 300

/-- The three stores and the clock. -/
structure OAuthWorld where
  now : Time
  tokens : TokenTable
  sagas : SagaTable
  redis : ExpiringStore String String Time
  ap : List ApConnection
  /-- The id of each vault row ever inserted and the saga it was inserted for, newest first. -/
  origin : List (String × String)

namespace OAuthWorld

variable (w : OAuthWorld)

/-- Nothing is stored anywhere. -/
def empty (now : Time) : OAuthWorld := ⟨now, .empty, .empty, .empty, [], []⟩

/-- The saga a vault row was inserted for. -/
def originOf (tokenId : String) : Option String :=
  (w.origin.find? fun p ↦ p.1 = tokenId).map Prod.snd

/-- The transaction of `oauth_initiate`; `none` is `IntegrityError`. -/
def insertSaga (saga : OAuthSaga) : Option OAuthWorld :=
  (w.sagas.insert saga).map fun sagas ↦ { w with sagas := sagas }

/-- `NonceStore.register`; `none` is `NonceReplayError`. -/
def registerNonce (nonce tenantId : String) : Option OAuthWorld :=
  (w.redis.setNx w.now (nonceKey nonce) tenantId (w.now + seconds stateTtlSeconds)).map fun redis ↦
    { w with redis := redis }

/-- The rollback of `oauth_initiate`. -/
def dropSaga (sagaId : String) : OAuthWorld :=
  { w with sagas := w.sagas.delete fun s ↦ s.id = sagaId }

/-- The `UPDATE` of `_mark_saga_failed`. -/
def failSaga (sagaId step reason : String) : OAuthWorld :=
  { w with sagas := w.sagas.fail sagaId step reason w.now }

/-- The transaction of `_persist_tokens`; `none` is `IntegrityError`. -/
def persistTokens (sagaId : String) (row : EncryptedToken) : Option OAuthWorld :=
  (w.tokens.persistTokens row).map fun tokens ↦
    { w with
      tokens := tokens
      sagas := w.sagas.obtain sagaId row.id
      origin := (row.id, sagaId) :: w.origin }

/-- What ActivePieces does with the request of `_create_ap_connection`: it writes the connection
with that external id, and makes one if there is none. -/
def createAp (sagaId token newId : String) : OAuthWorld :=
  { w with
    ap :=
      if w.ap.any fun c ↦ c.externalId = apExternalId sagaId then
        w.ap.map fun c ↦
          if c.externalId = apExternalId sagaId then { c with token := token, sagaId := sagaId }
          else c
      else w.ap ++ [⟨newId, apExternalId sagaId, token, sagaId⟩] }

/-- What ActivePieces does with the `DELETE` of the handler's rollback. -/
def deleteAp (id : String) : OAuthWorld := { w with ap := w.ap.filter fun c ↦ c.id ≠ id }

/-- The transaction of `_finalize_saga_completed`. -/
def finalize (sagaId tokenId externalId : String) : OAuthWorld :=
  { w with
    tokens := w.tokens.setApConnection tokenId externalId
    sagas := w.sagas.complete sagaId externalId w.now }

/-- The transaction of `_compensate_ap_failure`. -/
def compensate (sagaId tokenId reason : String) : OAuthWorld :=
  { w with
    tokens := w.tokens.deleteToken tokenId
    sagas := (w.sagas.forgetToken tokenId).compensate sagaId reason w.now }

/-- `GETDEL` of a nonce. -/
def dropNonce (nonce : String) : OAuthWorld := { w with redis := w.redis.delete (nonceKey nonce) }

/-! ### What an effect leaves alone -/

section Frame

variable (sagaId step reason token newId id tokenId externalId nonce : String)

@[simp] theorem failSaga_tokens : (w.failSaga sagaId step reason).tokens = w.tokens := rfl

@[simp] theorem failSaga_redis : (w.failSaga sagaId step reason).redis = w.redis := rfl

@[simp] theorem failSaga_ap : (w.failSaga sagaId step reason).ap = w.ap := rfl

@[simp] theorem failSaga_origin : (w.failSaga sagaId step reason).origin = w.origin := rfl

@[simp] theorem createAp_tokens : (w.createAp sagaId token newId).tokens = w.tokens := rfl

@[simp] theorem createAp_sagas : (w.createAp sagaId token newId).sagas = w.sagas := rfl

@[simp] theorem createAp_redis : (w.createAp sagaId token newId).redis = w.redis := rfl

@[simp] theorem createAp_origin : (w.createAp sagaId token newId).origin = w.origin := rfl

@[simp] theorem deleteAp_tokens : (w.deleteAp id).tokens = w.tokens := rfl

@[simp] theorem deleteAp_sagas : (w.deleteAp id).sagas = w.sagas := rfl

@[simp] theorem deleteAp_redis : (w.deleteAp id).redis = w.redis := rfl

@[simp] theorem deleteAp_origin : (w.deleteAp id).origin = w.origin := rfl

@[simp] theorem finalize_redis : (w.finalize sagaId tokenId externalId).redis = w.redis := rfl

@[simp] theorem finalize_ap : (w.finalize sagaId tokenId externalId).ap = w.ap := rfl

@[simp] theorem finalize_origin : (w.finalize sagaId tokenId externalId).origin = w.origin := rfl

@[simp] theorem compensate_redis : (w.compensate sagaId tokenId reason).redis = w.redis := rfl

@[simp] theorem compensate_ap : (w.compensate sagaId tokenId reason).ap = w.ap := rfl

@[simp] theorem compensate_origin : (w.compensate sagaId tokenId reason).origin = w.origin := rfl

@[simp] theorem dropNonce_tokens : (w.dropNonce nonce).tokens = w.tokens := rfl

@[simp] theorem dropNonce_sagas : (w.dropNonce nonce).sagas = w.sagas := rfl

@[simp] theorem dropNonce_ap : (w.dropNonce nonce).ap = w.ap := rfl

@[simp] theorem dropNonce_origin : (w.dropNonce nonce).origin = w.origin := rfl

end Frame

end OAuthWorld

end Siyadah
