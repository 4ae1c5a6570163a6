import SiyadahOrchestrator.Foundations.Peer
import SiyadahOrchestrator.Foundations.PyValue

/-!
# The ActivePieces client

`SiyadahEngine`: every remote call goes through `_r`, which repeats a request up to three times on
lost responses and 5xx answers, and once more within an attempt when a 401 can be answered by
signing in again. Nothing is assumed about ActivePieces; a reply is whatever the HTTP client makes
of what it receives.

`SiyadahEngine.r` wraps `attempt` in `Dialogue.retry`, and every method of the client is one or a
few calls of `r`. Three lemmas say all that the rest needs to know of it: what it sends (`sends_r`),
how a call that returns ends (`runs_r_ok`), and when it gets to send anything (`runs_r_ready`).
-/

namespace Siyadah

/-! ### Requests and replies -/

/-- The `type` and `request` of a `POST /v1/flows/{fid}`. -/
inductive FlowOp where
  | importFlow (displayName : PyStr) (trigger : PyValue)
  | updateMetadata (metadata : PyValue)
  | lockAndPublish
  | changeStatus (status : PyStr)

/-- The columns that an upsert of `flow_registry` writes. -/
structure FlowRegistryValues where
  tenantId : PyStr
  flowId : PyValue
  displayName : PyStr
  triggerType : PyValue
  webhookUrl : PyStr
  pieceManifest : PyValue

/-- The columns that `register-employee` writes. -/
structure EmployeeValues where
  /-- The id that a new row gets. -/
  rowId : PyStr
  tenantId : PyStr
  flowId : PyStr
  displayName : PyValue
  triggerType : PyValue
  webhookUrl : Option PyStr
  pieceManifest : PyValue

/-- A remote call: to ActivePieces, to a flow's webhook, or to the database. -/
inductive Call where
  /-- `POST /v1/authentication/sign-in`. -/
  | signIn
  /-- `POST /v1/flows/`. -/
  | createFlow (projectId displayName : PyStr)
  /-- `POST /v1/flows/{fid}`. -/
  | flowOperation (fid : PyValue) (op : FlowOp)
  /-- `GET /v1/flows/{fid}`. -/
  | getFlow (fid : PyValue)
  /-- `DELETE /v1/flows/{fid}`. -/
  | deleteFlow (fid : PyValue)
  /-- `POST /v1/webhooks/{fid}`. -/
  | testWebhook (fid payload : PyValue)
  /-- `INSERT INTO flow_registry ... ON CONFLICT (flow_id) DO UPDATE`, and the commit. -/
  | upsertRegistry (values : FlowRegistryValues)
  /-- `INSERT INTO flow_registry`, or the update of the row that is there, and the commit. -/
  | registerEmployee (values : EmployeeValues)
  /-- `DELETE FROM flow_registry WHERE flow_id = ...`, and the commit. -/
  | evictRegistry (fid : PyStr)
  /-- `POST` to the MCP server of ActivePieces. -/
  | mcpProxy (body : PyValue)
  /-- A `GET` of anything but a flow. -/
  | read (path : PyStr)

/-- What the HTTP client raises instead of returning a response. -/
inductive ClientError where
  | timeout
  | network
  | other

/-- The content of a response, as `r.json()` sees it. -/
inductive Body where
  | empty
  | notJson
  | json (v : PyValue)

/-- A response. -/
structure Response where
  status : ℕ
  body : Body

/-- What comes of a remote call. -/
inductive Reply where
  | raised (e : ClientError)
  | answered (r : Response)

/-- A piece of an f-string: text, or a value that `str()` renders. -/
inductive TextPart where
  | lit (s : String)
  | val (v : PyValue)

/-- The `detail` of an `HTTPException`. -/
inductive Detail where
  /-- `f"upstream network error: {e}"`. -/
  | networkError (e : ClientError)
  /-- `str(e)`. -/
  | clientError (e : ClientError)
  /-- `r.text[:500]`. -/
  | upstream (r : Response)
  | text (parts : List TextPart)
  | value (v : PyValue)

/-- An exception. -/
inductive EngineError where
  /-- `HTTPException`. -/
  | http (status : ℕ) (detail : Detail)
  /-- An exception of the HTTP client that nobody has converted. -/
  | client (e : ClientError)
  /-- `httpx.HTTPStatusError`, from `raise_for_status`. -/
  | httpStatus (status : ℕ)
  /-- The client's constructor refuses the `Authorization` header. -/
  | header
  /-- A built-in exception. -/
  | py (e : PyError)

/-- `isinstance(e, HTTPException)`. -/
def EngineError.isHttp : EngineError → Bool
  | .http _ _ => true
  | _ => false

/-- `_is_retryable_engine_error`. -/
def isRetryableEngineError : EngineError → Bool
  | .http status _ => 500 ≤ status ∧ status < 600
  | .client .timeout => true
  | .client .network => true
  | _ => false

namespace Response

/-- `r.is_success`. -/
def isSuccess (r : Response) : Bool := 200 ≤ r.status ∧ r.status ≤ 299

/-- `r.json()`. -/
def parse (r : Response) : Except EngineError PyValue :=
  match r.body with
  | .json v => .ok v
  | _ => .error (.py .valueError)

/-- What `_r` makes of the response that an attempt ends with. -/
def decode (r : Response) : Except EngineError PyValue :=
  if !r.isSuccess then .error (.http r.status (.upstream r))
  else
    match r.body with
    | .empty => .ok (.dict [])
    | .notJson => if r.status = 204 then .ok (.dict []) else .error (.py .valueError)
    | .json v => if r.status = 204 then .ok (.dict []) else .ok v

end Response

/-- The value that a reply carries to the caller of `_r`; `none` when it makes the call fail. -/
def Reply.value? : Reply → Option PyValue
  | .raised _ => none
  | .answered r => r.decode.toOption

/-! ### The client -/

/-- The HTTP library, where the engine depends on it: whether a client can be built whose
`Authorization` header carries the token. -/
structure Httpx where
  acceptsToken : PyValue → Bool

/-- The state of a `SiyadahEngine`. -/
structure Engine where
  token : PyValue
  /-- An open client is kept. -/
  hasClient : Bool
  /-- An email address and a password are configured. -/
  hasCredentials : Bool

/-- The engine can send a request: it has a client, or it can build one. -/
def Engine.Ready (X : Httpx) (e : Engine) : Prop := e.hasClient ∨ X.acceptsToken e.token

/-- A program of the engine. -/
abbrev EngineM := Dialogue Call Reply Engine EngineError

/-- A computation on values, among remote calls. -/
def ofPy {α : Type} (x : Except PyError α) : EngineM α := .lift (x.mapError .py)

namespace SiyadahEngine

open Dialogue

variable (X : Httpx)

/-- `_ensure_client`. -/
def ensureClient : EngineM Unit := do
  let e ← getState
  if e.hasClient then pure ()
  else if X.acceptsToken e.token then setState { e with hasClient := true }
  else raise .header

/-- `sign_in`. -/
def signIn : EngineM PyValue := do
  match ← ask .signIn with
  | .raised e => raise (.client e)
  | .answered r => if r.isSuccess then lift r.parse else raise (.httpStatus r.status)

/-- `auth.get("token") or auth.get("access_token", "")`. -/
def tokenOf (auth : PyValue) : Except PyError PyValue := do
  let token ← auth.get "token"
  if token.truthy then pure token else auth.getD "access_token" (py "")

/-- Take over a new token, open a new client and repeat the request. -/
def repeatWithToken (q : Call) (newToken : PyValue) : EngineM Response := do
  let e ← getState
  setState { e with token := newToken, hasClient := false }
  ensureClient X
  match ← ask q with
  | .raised e => raise (.client e)
  | .answered r => pure r

/-- The `try` block of the inline re-authentication. -/
def signInAndRepeat (q : Call) (r : Response) : EngineM Response := do
  let auth ← signIn
  let newToken ← ofPy (tokenOf auth)
  if newToken.truthy then repeatWithToken X q newToken else pure r

/-- The inline re-authentication: the response to go on with after a 401. -/
def reauthenticate (q : Call) (r : Response) : EngineM Response :=
  handle (signInAndRepeat X q r) fun _ ↦ pure r

/-- One attempt of `_r`. -/
def attempt (q : Call) : EngineM PyValue := do
  ensureClient X
  match ← ask q with
  | .raised .other => raise (.http 502 (.clientError .other))
  | .raised e => raise (.http 502 (.networkError e))
  | .answered r =>
    let e ← getState
    if r.status = 401 ∧ e.hasCredentials then
      let r' ← reauthenticate X q r
      lift r'.decode
    else lift r.decode

/-- `_r`: three attempts. -/
def r (q : Call) : EngineM PyValue := retry isRetryableEngineError 2 (attempt X q)

/-- `create_flow`. -/
def createFlow (pid name : PyStr) : EngineM PyValue := r X (.createFlow pid name)

/-- `_fop`. -/
def fop (fid : PyValue) (op : FlowOp) : EngineM PyValue := r X (.flowOperation fid op)

/-- `import_flow`. -/
def importFlow (fid : PyValue) (displayName : PyStr) (trigger : PyValue) : EngineM PyValue :=
  fop X fid (.importFlow displayName trigger)

/-- `update_metadata`. -/
def updateMetadata (fid metadata : PyValue) : EngineM PyValue :=
  fop X fid (.updateMetadata metadata)

/-- `get_flow`. -/
def getFlow (fid : PyValue) : EngineM PyValue := r X (.getFlow fid)

/-- `delete_flow`. -/
def deleteFlow (fid : PyValue) : EngineM PyValue := r X (.deleteFlow fid)

/-- `flow.get("version", {}).get("trigger", {}).get("type", default)`. -/
def triggerTypeOf (flow default : PyValue) : Except PyError PyValue := do
  let version ← flow.getD "version" (.dict [])
  let trigger ← version.getD "trigger" (.dict [])
  trigger.getD "type" default

/-- `flow.get("version", {}).get("state", default)`. -/
def stateOf (flow default : PyValue) : Except PyError PyValue := do
  let version ← flow.getD "version" (.dict [])
  version.getD "state" default

/-- `verify_flow`. -/
def verifyFlow (fid : PyValue) : EngineM PyValue := do
  let flow ← getFlow X fid
  let ttype ← ofPy (triggerTypeOf flow (py "UNKNOWN"))
  if ttype.isStr (PyStr.ofString "EMPTY") then
    raise (.http 500 (.text [.lit ("SILENT FAILURE: trigger still EMPTY after IMPORT_FLOW. " ++
      "Check propertySettings: \x7b\x7d in every step.")]))
  else pure flow

/-- What `publish_and_enable` returns, besides `"lock": "ok"` and `"status": "ENABLED"`. -/
structure Published where
  state : PyValue

/-- `_assert_enabled`. -/
def assertEnabled (fid f : PyValue) : EngineM Published := do
  let st ← ofPy (f.getD "status" (py ""))
  if st.isStr (PyStr.ofString "ENABLED") then
    let state ← ofPy (stateOf f (py ""))
    pure ⟨state⟩
  else
    let state ← ofPy (stateOf f (py "?"))
    raise (.http 500 (.text [.lit "Flow ", .val fid,
      .lit " not ENABLED after publish/enable. status=", .val st, .lit ", state=", .val state]))

/-- One round of the enabling loop: the result, or the flow that is not `ENABLED` yet. -/
def tryEnable (fid : PyValue) : EngineM (PyValue ⊕ Published) := do
  let _ ← fop X fid (.changeStatus (PyStr.ofString "ENABLED"))
  let flowAfter ← getFlow X fid
  let st ← ofPy (flowAfter.get "status")
  if st.isStr (PyStr.ofString "ENABLED") then .inr <$> assertEnabled fid flowAfter
  else pure (.inl flowAfter)

/-- The enabling loop. An `HTTPException` leaves it at once; another exception ends the first round
and is converted in the second one. -/
def enableLoop (fid : PyValue) : EngineM Published := do
  let first ← handle (tryEnable X fid) fun e ↦ if e.isHttp then raise e else pure (.inl .null)
  match first with
  | .inr pub => pure pub
  | .inl _ =>
    let second ← handle (tryEnable X fid) fun e ↦
      if e.isHttp then raise e
      else raise (.http 500 (.text [.lit "ENABLE failed after 2 attempts for flow ", .val fid]))
    match second with
    | .inr pub => pure pub
    | .inl flowAfter =>
      let st ← ofPy (flowAfter.getD "status" (py "?"))
      raise (.http 500 (.text [.lit "Flow ", .val fid,
        .lit " not ENABLED after CHANGE_STATUS. status=", .val st]))

/-- `publish_and_enable`. -/
def publishAndEnable (fid : PyValue) : EngineM Published := do
  let _ ← fop X fid .lockAndPublish
  let flow ← getFlow X fid
  let currentStatus ← ofPy (flow.getD "status" (py "DISABLED"))
  let _ ← ofPy (stateOf flow (py ""))
  if currentStatus.isStr (PyStr.ofString "ENABLED") then assertEnabled fid flow
  else enableLoop X fid

/-- `test_webhook`, up to the status of the response. -/
def testWebhook (fid payload : PyValue) : EngineM ℕ := do
  ensureClient X
  match ← ask (.testWebhook fid payload) with
  | .raised e => raise (.http 502 (.clientError e))
  | .answered r => pure r.status

/-! ### What a call of `_r` sends and how it ends -/

section Specs

variable {X : Httpx} {q : Call} {s t : Engine} {l : List (Call × Reply)}

theorem runs_ofPy_ok_iff {α : Type} {y : Except PyError α} {a : α} :
    (ofPy y).Runs s l (.ok a) t ↔ l = [] ∧ y = .ok a ∧ t = s := by
  refine runs_lift_iff.trans ?_
  cases y with
  | ok b => simp [Except.mapError, eq_comm]
  | error e => simp [Except.mapError]

/-- A computation on values raises, or the program goes on with its value. -/
theorem runs_ofPy_bind_iff {α β : Type} {y : Except PyError α} {f : α → EngineM β}
    {z : Except EngineError β} : (ofPy y >>= f).Runs s l z t ↔
      (∃ a, y = .ok a ∧ (f a).Runs s l z t) ∨
        ∃ e, y = .error e ∧ l = [] ∧ z = .error (.py e) ∧ t = s := by
  refine runs_lift_bind_iff.trans ?_
  cases y <;> simp [Except.mapError]

theorem sends_ofPy {α : Type} {P : Call → Prop} (y : Except PyError α) : Sends P (ofPy y) :=
  sends_lift _

/-- Making sure that there is a client sends nothing. -/
theorem runs_ensureClient_ok {x : Unit} (h : (ensureClient X).Runs s l (.ok x) t) :
    l = [] ∧ s.Ready X ∧ t.hasClient = true := by
  rw [ensureClient, runs_getState_bind_iff] at h
  split at h
  · rename_i hclient
    obtain ⟨rfl, -, rfl⟩ := runs_pure_iff.1 h
    exact ⟨rfl, .inl hclient, hclient⟩
  · split at h
    · rename_i htoken
      obtain ⟨rfl, -, rfl⟩ := runs_setState_iff.1 h
      exact ⟨rfl, .inr htoken, rfl⟩
    · exact absurd (runs_raise_iff.1 h).2.1 (by simp)

/-- It fails when there cannot be a client. -/
theorem runs_ensureClient_error_iff {e : EngineError} :
    (ensureClient X).Runs s l (.error e) t ↔ l = [] ∧ e = .header ∧ t = s ∧ ¬ s.Ready X := by
  rw [ensureClient, runs_getState_bind_iff]
  split
  · rename_i hclient
    refine ⟨fun h ↦ absurd (runs_pure_iff.1 h).2.1 (by simp), fun h ↦ ?_⟩
    exact absurd (Or.inl hclient) h.2.2.2
  · rename_i hclient
    split
    · rename_i htoken
      refine ⟨fun h ↦ absurd (runs_setState_iff.1 h).2.1 (by simp), fun h ↦ ?_⟩
      exact absurd (Or.inr htoken) h.2.2.2
    · rename_i htoken
      rw [runs_raise_iff, Except.error.injEq]
      have hnot : ¬ s.Ready X := fun h ↦ h.elim hclient htoken
      exact ⟨fun ⟨hl, he, ht⟩ ↦ ⟨hl, he, ht, hnot⟩, fun ⟨hl, he, ht, _⟩ ↦ ⟨hl, he, ht⟩⟩

/-- Signing in sends the sign-in request. -/
theorem sends_signIn : Sends (· = .signIn) signIn := by
  have hask : Sends (· = .signIn) (ask .signIn : EngineM Reply) := sends_ask rfl
  refine hask.bind fun rep ↦ ?_
  cases rep with
  | raised e => exact sends_raise _
  | answered r =>
    show Sends _ (if r.isSuccess then _ else _)
    split
    · exact sends_lift _
    · exact sends_raise _

theorem sends_ensureClient {P : Call → Prop} : Sends P (ensureClient X) := by
  intro s l x t h e he
  have hl : l = [] := by
    cases x with
    | ok x => exact (runs_ensureClient_ok h).1
    | error e => exact (runs_ensureClient_error_iff.1 h).1
  exact absurd (hl ▸ he) List.not_mem_nil

theorem sends_repeatWithToken (newToken : PyValue) :
    Sends (· = q) (repeatWithToken X q newToken) := by
  have hask : Sends (· = q) (ask q : EngineM Reply) := sends_ask rfl
  refine sends_getState.bind fun e ↦ (sends_setState _).bind fun _ ↦
    sends_ensureClient.bind fun _ ↦ hask.bind fun rep ↦ ?_
  cases rep with
  | raised e => exact sends_raise _
  | answered r => exact sends_pure _

theorem sends_signInAndRepeat (resp : Response) :
    Sends (fun c ↦ c = q ∨ c = .signIn) (signInAndRepeat X q resp) := by
  refine (sends_signIn.mono fun c hc ↦ .inr hc).bind fun auth ↦
    (sends_ofPy _).bind fun newToken ↦ ?_
  split
  · exact (sends_repeatWithToken newToken).mono fun c hc ↦ .inl hc
  · exact sends_pure _

/-- A call of `_r` sends its request and signs in, and nothing else. -/
theorem sends_r (q : Call) : Sends (fun c ↦ c = q ∨ c = .signIn) (r X q) := by
  refine Sends.retry (sends_ensureClient.bind fun _ ↦ (sends_ask (.inl rfl)).bind fun rep ↦ ?_) 2
  cases rep with
  | raised e => cases e <;> exact sends_raise _
  | answered resp =>
    refine sends_getState.bind fun e ↦ ?_
    show Sends _ (if resp.status = 401 ∧ e.hasCredentials then _ else _)
    split
    · exact Sends.bind ((sends_signInAndRepeat resp).handle fun _ ↦ sends_pure _) fun r' ↦
        sends_lift _
    · exact sends_lift _

/-- A re-authentication signs in, and repeats the request at most once. -/
theorem runs_reauthenticate_split {resp : Response} {x : Except EngineError Response}
    (h : (reauthenticate X q resp).Runs s l x t) :
    ∃ l₁ l₂, l = l₁ ++ l₂ ∧ (∀ e ∈ l₁, e.1 = .signIn) ∧ l₂.length ≤ 1 := by
  have hblock : ∀ {l x t}, (signInAndRepeat X q resp).Runs s l x t →
      ∃ l₁ l₂, l = l₁ ++ l₂ ∧ (∀ e ∈ l₁, e.1 = .signIn) ∧ l₂.length ≤ 1 := by
    intro l x t h
    rcases runs_bind_of_sends sends_signIn h with
      ⟨-, hl⟩ | ⟨l₁, l₂, auth, u, rfl, hl₁, -, h₂⟩
    · exact ⟨l, [], (List.append_nil l).symm, hl, Nat.zero_le 1⟩
    refine ⟨l₁, l₂, rfl, hl₁, ?_⟩
    rcases runs_ofPy_bind_iff.1 h₂ with ⟨newToken, -, h₃⟩ | ⟨e, -, rfl, -, -⟩
    swap
    · exact Nat.zero_le 1
    split at h₃
    · rw [repeatWithToken, runs_getState_bind_iff, runs_setState_bind_iff] at h₃
      rcases runs_bind_iff.1 h₃ with ⟨k₁, k₂, _, v, rfl, hk₁, hk₂⟩ | ⟨e, -, h'⟩
      · -- One exchange, however it ends.
        obtain ⟨rfl, -⟩ := runs_ensureClient_ok hk₁
        obtain ⟨rep, k₃, rfl, hk₃⟩ := runs_ask_bind_iff.1 hk₂
        have hnil : k₃ = [] := by
          cases rep with
          | raised e => exact (runs_raise_iff.1 hk₃).1
          | answered resp' => exact (runs_pure_iff.1 hk₃).1
        simp [hnil]
      · obtain ⟨rfl, -⟩ := runs_ensureClient_error_iff.1 h'
        exact Nat.zero_le 1
    · obtain ⟨rfl, -⟩ := runs_pure_iff.1 h₃
      exact Nat.zero_le 1
  rcases runs_handle_iff.1 h with ⟨resp', -, h'⟩ | ⟨l₁, l₂, e, u, rfl, h₁, h₂⟩
  · exact hblock h'
  · obtain ⟨rfl, -⟩ := runs_pure_iff.1 h₂
    rw [List.append_nil]
    exact hblock h₁

/-- The exchange does not answer a request `q` with a value. -/
def Unanswered (q : Call) (e : Call × Reply) : Prop := e.1 = q → e.2.value? = none

theorem unanswered_of_signIn (hq : q ≠ .signIn) {m : EngineM PyValue} (hm : Sends (· = .signIn) m)
    {x : Except EngineError PyValue} (h : m.Runs s l x t) : ∀ e ∈ l, Unanswered q e :=
  fun e he heq ↦ absurd (heq.symm.trans (hm s l x t h e he)) hq

/-- The repeated request is answered by the response that is returned, or it is lost. -/
theorem runs_repeatWithToken {newToken : PyValue} {x : Except EngineError Response}
    (h : (repeatWithToken X q newToken).Runs s l x t) :
    (∃ resp, x = .ok resp ∧ l = [(q, .answered resp)] ∧ t.hasClient = true) ∨
      ((∃ e, x = .error e) ∧ ∀ e ∈ l, Unanswered q e) := by
  rw [repeatWithToken, runs_getState_bind_iff, runs_setState_bind_iff] at h
  rcases runs_bind_iff.1 h with ⟨l₁, l₂, _, u, rfl, h₁, h₂⟩ | ⟨e, rfl, h'⟩
  · obtain ⟨rfl, -, hclient⟩ := runs_ensureClient_ok h₁
    obtain ⟨rep, l₃, rfl, h₃⟩ := runs_ask_bind_iff.1 h₂
    cases rep with
    | raised e =>
      obtain ⟨rfl, rfl, -⟩ := runs_raise_iff.1 h₃
      exact .inr ⟨⟨_, rfl⟩, by simp [Unanswered, Reply.value?]⟩
    | answered resp =>
      obtain ⟨rfl, rfl, rfl⟩ := runs_pure_iff.1 h₃
      exact .inl ⟨resp, rfl, rfl, hclient⟩
  · obtain ⟨rfl, -⟩ := runs_ensureClient_error_iff.1 h'
    exact .inr ⟨⟨e, rfl⟩, by simp⟩

/-- A re-authentication hands back the first response, with no answer to the request in between, or
the response to the repeated request, which comes last. -/
theorem runs_reauthenticate (hq : q ≠ .signIn) {resp : Response} {x : Except EngineError Response}
    (h : (reauthenticate X q resp).Runs s l x t) : ∃ resp', x = .ok resp' ∧
      ((resp' = resp ∧ ∀ e ∈ l, Unanswered q e) ∨
        ∃ l', l = l' ++ [(q, .answered resp')] ∧ (∀ e ∈ l', Unanswered q e) ∧
          t.hasClient = true) := by
  -- The block either repeats the request at its end, or leaves it unanswered.
  have hblock : ∀ {l x t}, (signInAndRepeat X q resp).Runs s l x t →
      (∃ resp' l', x = .ok resp' ∧ l = l' ++ [(q, .answered resp')] ∧ (∀ e ∈ l', Unanswered q e) ∧
          t.hasClient = true) ∨
        ((∀ resp', x = .ok resp' → resp' = resp) ∧ ∀ e ∈ l, Unanswered q e) := by
    intro l x t h
    rcases runs_bind_iff.1 h with ⟨l₁, l₂, auth, u, rfl, h₁, h₂⟩ | ⟨e, rfl, h'⟩
    swap
    · exact .inr ⟨fun r' hr' ↦ absurd hr' (by simp), unanswered_of_signIn hq sends_signIn h'⟩
    have hsign := unanswered_of_signIn hq sends_signIn h₁
    rcases runs_lift_bind_iff.1 h₂ with ⟨newToken, -, hk₂⟩ | ⟨e, -, rfl, rfl, -⟩
    swap
    · exact .inr ⟨fun r' hr' ↦ absurd hr' (by simp), by simpa using hsign⟩
    split at hk₂
    · rcases runs_repeatWithToken hk₂ with ⟨resp', rfl, rfl, hclient⟩ | ⟨⟨e, rfl⟩, hlost⟩
      · exact .inl ⟨resp', l₁, rfl, rfl, hsign, hclient⟩
      · refine .inr ⟨fun r' hr' ↦ absurd hr' (by simp), fun e he ↦ ?_⟩
        rcases List.mem_append.1 he with he | he
        · exact hsign e he
        · exact hlost e he
    · obtain ⟨rfl, rfl, -⟩ := runs_pure_iff.1 hk₂
      exact .inr ⟨fun r' hr' ↦ (Except.ok.inj hr').symm, by simpa using hsign⟩
  rcases runs_handle_iff.1 h with ⟨resp', rfl, h'⟩ | ⟨l₁, l₂, e, u, rfl, h₁, h₂⟩
  · refine ⟨resp', rfl, ?_⟩
    rcases hblock h' with ⟨resp'', l', hx, rfl, hl', hclient⟩ | ⟨hresp, hl⟩
    · obtain rfl := Except.ok.inj hx
      exact .inr ⟨l', rfl, hl', hclient⟩
    · exact .inl ⟨hresp resp' rfl, hl⟩
  · obtain ⟨rfl, rfl, -⟩ := runs_pure_iff.1 h₂
    rcases hblock h₁ with ⟨resp', l', hx, -⟩ | ⟨-, hl⟩
    · exact absurd hx (by simp)
    · exact ⟨resp, rfl, .inl ⟨rfl, by simpa using hl⟩⟩

/-- An attempt ends with the response that it makes its value of; nothing before it answers the
request. An attempt that raises leaves the request unanswered. -/
theorem runs_attempt (hq : q ≠ .signIn) {x : Except EngineError PyValue}
    (h : (attempt X q).Runs s l x t) :
    (∃ v resp l', x = .ok v ∧ resp.decode = .ok v ∧ l = l' ++ [(q, .answered resp)] ∧
      (∀ e ∈ l', Unanswered q e) ∧ t.hasClient = true) ∨
      (∃ e, x = .error e) ∧ ∀ e ∈ l, Unanswered q e := by
  -- A response that comes last decides both the value and whether the request is answered.
  have hlast : ∀ (l' : List (Call × Reply)) (resp : Response), resp.decode = x →
      (∀ e ∈ l', Unanswered q e) → l = l' ++ [(q, .answered resp)] → t.hasClient = true →
      (∃ v resp l', x = .ok v ∧ resp.decode = .ok v ∧ l = l' ++ [(q, .answered resp)] ∧
        (∀ e ∈ l', Unanswered q e) ∧ t.hasClient = true) ∨
        (∃ e, x = .error e) ∧ ∀ e ∈ l, Unanswered q e := by
    rintro l' resp rfl hl' rfl hclient
    cases hdecode : resp.decode with
    | ok v => exact .inl ⟨v, resp, l', rfl, hdecode, rfl, hl', hclient⟩
    | error e =>
      refine .inr ⟨⟨e, rfl⟩, fun ex hex ↦ ?_⟩
      rcases List.mem_append.1 hex with hex | hex
      · exact hl' ex hex
      · obtain rfl := List.mem_singleton.1 hex
        intro _
        rw [Reply.value?, hdecode]
        rfl
  rcases runs_bind_iff.1 h with ⟨l₁, l₂, _, u, rfl, h₁, h₂⟩ | ⟨e, rfl, h'⟩
  swap
  · obtain ⟨rfl, -⟩ := runs_ensureClient_error_iff.1 h'
    exact .inr ⟨⟨e, rfl⟩, by simp⟩
  obtain ⟨rfl, -, hclient⟩ := runs_ensureClient_ok h₁
  obtain ⟨rep, l₃, rfl, h₃⟩ := runs_ask_bind_iff.1 h₂
  cases rep with
  | raised e =>
    have hraised : l₃ = [] ∧ ∃ e, x = .error e := by
      cases e <;> exact ⟨(runs_raise_iff.1 h₃).1, _, (runs_raise_iff.1 h₃).2.1⟩
    obtain ⟨rfl, he⟩ := hraised
    exact .inr ⟨he, by simp [Unanswered, Reply.value?]⟩
  | answered resp =>
    rw [runs_getState_bind_iff] at h₃
    split at h₃
    · rename_i hunauthorized
      have hdecode : Reply.value? (.answered resp) = none := by
        have : resp.isSuccess = false := by simp [Response.isSuccess, hunauthorized.1]
        rw [Reply.value?, Response.decode, this]
        rfl
      rcases runs_bind_iff.1 h₃ with ⟨k₁, k₂, resp', v, rfl, hk₁, hk₂⟩ | ⟨e, -, h'⟩
      swap
      · obtain ⟨resp', hx, -⟩ := runs_reauthenticate hq h'
        exact absurd hx (by simp)
      obtain ⟨rfl, rfl, rfl⟩ := runs_lift_iff.1 hk₂
      obtain ⟨resp'', hresp, hcase⟩ := runs_reauthenticate hq hk₁
      obtain rfl := Except.ok.inj hresp
      rcases hcase with ⟨rfl, hk⟩ | ⟨l', rfl, hl', hclient'⟩
      · refine .inr ⟨?_, ?_⟩
        · cases hd : resp'.decode with
          | ok v => simp [Reply.value?, hd, Except.toOption] at hdecode
          | error e => exact ⟨e, rfl⟩
        · intro e he
          rcases List.mem_cons.1 (by simpa using he) with rfl | he
          · exact fun _ ↦ hdecode
          · exact hk e he
      · refine hlast ((q, .answered resp) :: l') resp' rfl (fun e he ↦ ?_) (by simp) hclient'
        rcases List.mem_cons.1 he with rfl | he
        · exact fun _ ↦ hdecode
        · exact hl' e he
    · obtain ⟨rfl, rfl, rfl⟩ := runs_lift_iff.1 h₃
      exact hlast [] resp rfl (by simp) rfl hclient

/-- **A call of `_r` that returns** ends with the response that carries its value, and nothing
before it answers the request. -/
theorem runs_r_ok (hq : q ≠ .signIn) {v : PyValue} (h : (r X q).Runs s l (.ok v) t) :
    ∃ l' rep, l = l' ++ [(q, rep)] ∧ rep.value? = some v ∧ (∀ e ∈ l', Unanswered q e) ∧
      t.hasClient = true := by
  obtain ⟨l₁, l₂, u, rfl, hl₁, hlast⟩ := runs_retry_ok (F := Unanswered q)
    (fun s l e t hrun ↦ by
      rcases runs_attempt hq hrun with ⟨v, -, -, hx, -⟩ | ⟨-, hl⟩
      · exact absurd hx (by simp)
      · exact hl) h
  rcases runs_attempt hq hlast with ⟨v', resp, l', hv, hdecode, rfl, hl', hclient⟩ | ⟨⟨e, he⟩, -⟩
  · obtain rfl := Except.ok.inj hv
    refine ⟨l₁ ++ l', .answered resp, (List.append_assoc _ _ _).symm, ?_, fun e he ↦ ?_, hclient⟩
    · rw [Reply.value?, hdecode]
      rfl
    · rcases List.mem_append.1 he with he | he
      · exact hl₁ e he
      · exact hl' e he
  · exact absurd he (by simp)

/-- A call of `_r` that raises leaves its request unanswered. -/
theorem runs_r_error (hq : q ≠ .signIn) {e : EngineError} (h : (r X q).Runs s l (.error e) t) :
    ∀ ex ∈ l, Unanswered q ex := by
  refine runs_retry_error (fun s l e t hrun ↦ ?_) h
  rcases runs_attempt hq hrun with ⟨v, -, -, hx, -⟩ | ⟨-, hl⟩
  · exact absurd hx (by simp)
  · exact hl

/-- An engine that cannot build a client sends nothing. -/
theorem runs_r_of_not_ready (hs : ¬ s.Ready X) {x : Except EngineError PyValue} :
    (r X q).Runs s l x t ↔ l = [] ∧ x = .error .header ∧ t = s := by
  refine runs_retry_of_raises rfl fun l x t ↦ ⟨fun h ↦ ?_, ?_⟩
  · rcases runs_bind_iff.1 h with ⟨l₁, l₂, _, u, rfl, h₁, -⟩ | ⟨e, rfl, h'⟩
    · exact absurd (runs_ensureClient_ok h₁).2.1 hs
    · obtain ⟨rfl, rfl, rfl, -⟩ := runs_ensureClient_error_iff.1 h'
      exact ⟨rfl, rfl, rfl⟩
  · rintro ⟨rfl, rfl, rfl⟩
    exact runs_bind_error_iff.2 (.inr (runs_ensureClient_error_iff.2 ⟨rfl, rfl, rfl, hs⟩))

/-- An engine that has a client, or can build one, sends the request. -/
theorem runs_r_ready (hs : s.Ready X) {x : Except EngineError PyValue}
    (h : (r X q).Runs s l x t) : ∃ rep l', l = (q, rep) :: l' := by
  obtain ⟨l₁, l₂, y, u, rfl, hrun⟩ := runs_retry_head h
  rcases runs_bind_iff.1 hrun with ⟨k₁, k₂, _, v, rfl, h₁, h₂⟩ | ⟨e, rfl, h'⟩
  · obtain ⟨rfl, -⟩ := runs_ensureClient_ok h₁
    obtain ⟨rep, l', rfl, -⟩ := runs_ask_bind_iff.1 h₂
    exact ⟨rep, l' ++ l₂, rfl⟩
  · exact absurd hs (runs_ensureClient_error_iff.1 h').2.2.2

end Specs

/-! ### Calls of a peer with a state -/

theorem triple_ofPy {W α : Type} {p : Peer W Call Reply} {G : Peer.Event W Call Reply → Prop}
    {I E : W → Prop} {K : α → W → Prop} {y : Except PyError α}
    (hok : ∀ a w, y = .ok a → I w → K a w) (herror : ∀ w, I w → E w) :
    Triple p G I (ofPy y) K E := by
  refine triple_lift _ (fun a w ha hw ↦ hok a w ?_ hw) fun _ w _ hw ↦ herror w hw
  cases y with
  | ok b => exact congrArg _ (Except.ok.inj ha)
  | error e => exact absurd ha (by simp [Except.mapError])

/-- A call of `_r` keeps what the single requests keep, and the value that it returns is the one
that its last request was answered with. -/
theorem triple_r {W : Type} {p : Peer W Call Reply} {G : Peer.Event W Call Reply → Prop}
    {I : W → Prop} {K : PyValue → W → Prop} {X : Httpx} {q : Call} (hq : q ≠ .signIn)
    (hsign : ∀ w rep done w', I w → p.serves w .signIn rep done w' →
      G ⟨w, .signIn, rep, done⟩ ∧ I w')
    (hcall : ∀ w rep done w', I w → p.serves w q rep done w' →
      G ⟨w, q, rep, done⟩ ∧ I w' ∧ ∀ v, rep.value? = some v → K v w') :
    Triple p G I (r X q) (fun v w ↦ I w ∧ K v w) I := by
  have hkeep : Triple p G I (r X q) (fun _ ↦ I) I := by
    refine triple_of_sends (sends_r q) fun w c rep done w' hw hc hserves ↦ ?_
    rcases hc with rfl | rfl
    · have h := hcall w rep done w' hw hserves
      exact ⟨h.1, h.2.1⟩
    · exact hsign w rep done w' hw hserves
  intro s x t w es w' hrun hserves hw
  obtain ⟨hG, hok, herror⟩ := hkeep s x t w es w' hrun hserves hw
  refine ⟨hG, ?_, herror⟩
  rintro v rfl
  refine ⟨hok v rfl, ?_⟩
  obtain ⟨l', rep, hl, hvalue, -⟩ := runs_r_ok hq hrun
  obtain ⟨es₁, es₂, u, rfl, h₁, h₂, hs₁, hs₂⟩ := hserves.of_exchange_append hl
  have hu : I u := by
    refine (hs₁.invariant (G := G) hw fun e he u' hI hserve ↦ ?_).2
    obtain ⟨v', c, rep', done⟩ := e
    have hsent := sends_r _ _ _ _ _ hrun (c, rep')
      (List.mem_map_of_mem (f := Peer.Event.exchange) (List.mem_append_left es₂ he))
    rcases hsent with rfl | rfl
    · have h := hcall v' rep' done u' hI hserve
      exact ⟨h.1, h.2.1⟩
    · exact hsign v' rep' done u' hI hserve
  cases hs₂ with
  | nil => exact absurd h₂ (by simp)
  | cons head tail =>
    rw [List.map_cons, List.cons.injEq] at h₂
    obtain ⟨hexchange, hnil⟩ := h₂
    obtain rfl := List.map_eq_nil_iff.1 hnil
    obtain rfl := Peer.serves_nil_iff.1 tail
    obtain ⟨rfl, rfl⟩ := Prod.mk.inj hexchange
    exact (hcall u _ _ _ hu head).2.2 v hvalue

end SiyadahEngine

end Siyadah
