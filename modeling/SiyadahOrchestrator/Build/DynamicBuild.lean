import SiyadahOrchestrator.Build.ConnectionGate
import SiyadahOrchestrator.Flows.Ownership
import SiyadahOrchestrator.Foundations.Lockstep

/-!
# Build now, connect later

`v2_build_dynamic` builds a flow from a trigger and a list of actions, if the connection gate finds
that every piece can run. If not, it keeps the request as a plan and answers with what is missing;
with visible drafts, it leaves a flow in ActivePieces too, which is not published.
-/

namespace Siyadah

open Dialogue PyValue

/-! ### Requests -/

/-- The row of a plan, as the endpoint writes it. -/
structure PlanRow where
  tenantId : PyStr
  displayName : PyStr
  status : PyStr
  graphPlan : PyValue
  missingConnections : List PyValue
  runnablePieces : List PyValue
  blockedPieces : List PyValue
  flowId : PyValue

/-- What the endpoint asks of ActivePieces, of the database and of `golden_build`. -/
inductive DynamicQuery where
  /-- A lookup in the catalogue. -/
  | catalog (q : CatalogQuery)
  | createFlow (pid name : PyStr)
  | updateMetadata (fid metadata : PyValue)
  | importFlow (fid : PyValue) (name : PyStr) (trigger : PyValue)
  | getFlow (fid : PyValue)
  | deleteFlow (fid : PyValue)
  /-- The row is added, committed and refreshed; the reply has its `id` and `next_reminder_at`. -/
  | savePlan (row : PlanRow)
  | goldenBuild (pid name : PyStr) (trigger : PyValue)

/-- A program that builds a flow or keeps a plan. -/
abbrev DynamicM (α : Type) := Dialogue DynamicQuery (Except EngineError PyValue) BuilderState
  EngineError α

/-- A request whose exception is not handled. -/
def perform (q : DynamicQuery) : DynamicM PyValue := ask q >>= lift

/-- A program that looks pieces up, as part of the endpoint. -/
def inCatalog {α : Type} (m : BuilderM α) : DynamicM α := m.rename .catalog

/-- A computation on values, in the endpoint. -/
def onValues {α : Type} (x : Except PyError α) : DynamicM α := lift (fromPy x)

/-! ### Plans -/

/-- `_SAFE_PIECE_KEYS`. -/
def safePieceKeys : List String :=
  ["piece", "short", "status", "reason", "auth_type", "requires_auth"]

/-- The entries of a piece that may be shown. -/
def sanitizePiece (piece : PyValue) : PyValue :=
  pyDict (safePieceKeys.filterMap fun key ↦ (piece.entry key).map fun v ↦ (key, v))

/-- `sanitize_pieces`. -/
def sanitizePieces (pieces : List PyValue) : List PyValue :=
  (pieces.filter isDict).map sanitizePiece

/-- `build_pending_activation_payload`, for a row and what the database has set in it. -/
def buildPendingActivationPayload (row : PlanRow) (set : PyValue) (missing : List PyValue) :
    PyValue :=
  pyDict [("id", set.entryD "id"), ("flow_id", row.flowId), ("status", .str row.status),
    ("display_name", .str row.displayName), ("missing_connections", .list missing),
    ("next_reminder_at", set.entryD "next_reminder_at")]

/-- `build_connection_gate_payload`. -/
def buildConnectionGatePayload (gate : ConnectionGate) (blocked runnable : List PyValue) :
    PyValue :=
  pyDict [("status", .str gate.status), ("blocked_count", .int gate.blockedCount),
    ("runnable_count", .int gate.runnableCount), ("total_pieces", .int gate.totalPieces),
    ("blocked_pieces", .list blocked), ("runnable_pieces", .list runnable)]

/-- The methods of the engine, each as one request of the endpoint. -/
def requestEngine : DraftEngine DynamicQuery (Except EngineError PyValue) BuilderState where
  createFlow pid name := perform (.createFlow pid name)
  updateMetadata fid metadata := perform (.updateMetadata fid metadata)
  importFlow fid name trigger := perform (.importFlow fid name trigger)
  getFlow fid := perform (.getFlow fid)

/-! ### The request -/

/-- `DynamicBuildBody`. -/
structure DynamicBuildBody where
  projectId : Option PyStr
  connectionIds : Option (List (PyStr × PyStr))
  displayName : PyStr
  trigger : Fields
  actions : List Fields

/-- `jsonable_encoder(body.model_dump())`. -/
def DynamicBuildBody.dump (body : DynamicBuildBody) : PyValue :=
  pyDict [("project_id", body.projectId.elim .null .str),
    ("connection_ids", body.connectionIds.elim .null fun ids ↦
      .dict (ids.map fun c ↦ (c.1, .str c.2))),
    ("display_name", .str body.displayName), ("trigger", .dict body.trigger),
    ("actions", .list (body.actions.map .dict))]

/-- An action whose piece has been resolved. -/
structure ResolvedAction where
  full : PyStr
  short : PyStr
  version : PyValue
  input : Fields
  propertySettings : Fields

/-- `piece_name.replace(…)`, which only a string has. -/
def pieceText : PyValue → Except PyError PyStr
  | .str s => .ok s
  | _ => .error .attributeError

section Env

variable (env : BuilderEnv)

/-- The version, the input and the property settings of an action, from the schema of its piece. -/
def actionSettings (a : PyValue) (resolved : PyStr × PyValue) :
    Except PyError (PyValue × Fields × Fields) := do
  let explicit ← a.getD "version" (py "")
  let raw ← a.getD "input" (.dict [])
  let fields ← toDict raw
  let cleaned := cleanInputConfig fields
  if explicit.truthy then pure (explicit, cleaned, [])
  else
    let version ← resolvePieceVersion env.runtime resolved.2 resolved.1
    let actionName ← a.getD "action_name" (py "")
    let props ← getActionProps resolved.2 actionName
    let generated ← generatePropertySettings env.runtime props cleaned
    pure (.str version, generated.2, generated.1)

/-- An action of the type `PIECE`, up to its connection. -/
def resolveActionSpec (a : PyValue) : BuilderM ResolvedAction := do
  let piece ← evalPy (a.getD "piece" (py ""))
  let name ← evalPy (pieceText piece)
  let resolved ← autoResolvePiece env.runtime name
  let settings ← evalPy (actionSettings env a resolved)
  pure { full := fullName resolved.1
         short := shortName resolved.1
         version := settings.1
         input := settings.2.1
         propertySettings := settings.2.2 }

/-- The specification that `_build_action_chain` is given for an action. -/
def chainSpec (a : PyValue) (r : ResolvedAction) (input : Fields) : Except PyError PyValue := do
  let actionName ← a.getD "action_name" (py "")
  let display ← a.getD "display_name" (py "Action")
  pure (pyDict [("type", py "PIECE"), ("piece", .str r.full), ("action_name", actionName),
    ("version", r.version), ("input", .dict input), ("display_name", display),
    ("property_settings", .dict r.propertySettings)])

/-- `if conn_id: cleaned_in["auth"] = C(conn_id)`. -/
def connectInput (connId : PyValue) (input : Fields) : Except PyError Fields :=
  if connId.truthy then (connectionRefOf connId).map (upsert input (text "auth")) else .ok input

/-- The specifications of the actions, for the connection that each of them gets, and the full names
of their pieces. -/
def chainSpecs (connection : PyValue → PyStr → Except PyError PyValue) :
    List PyValue → BuilderM (List PyValue × List PyStr)
  | [] => pure ([], [])
  | a :: rest => do
    let stype ← evalPy (a.getD "type" (py "PIECE"))
    if !stype.isStr (text "PIECE") then
      let others ← chainSpecs connection rest
      pure (a :: others.1, others.2)
    else
      let r ← resolveActionSpec env a
      let connId ← evalPy (connection a r.short)
      let input ← evalPy (connectInput connId r.input)
      let spec ← evalPy (chainSpec a r input)
      let others ← chainSpecs connection rest
      pure (spec :: others.1, r.full :: others.2)

/-- `cn_active.get(short, "")`. -/
def activeConnection? (active : Fields) (_a : PyValue) (short : PyStr) : Except PyError PyValue :=
  .ok ((active.lookup short).getD (py ""))

/-- `a.get("connection_id", cn.get(short, ""))`. -/
def ownConnection (cn : Fields) (a : PyValue) (short : PyStr) : Except PyError PyValue :=
  a.getD "connection_id" ((cn.lookup short).getD (py ""))

/-- The trigger of the request, once its piece is resolved. -/
structure ResolvedTrigger where
  full : PyStr
  version : PyValue
  name : PyValue
  input : Fields

/-- The trigger of the request. -/
def resolveTrigger (t : PyValue) : BuilderM ResolvedTrigger := do
  let piece ← evalPy (t.getD "piece" (py "@activepieces/piece-webhook"))
  let name ← evalPy (pieceText piece)
  let resolved ← autoResolvePiece env.runtime name
  let triggerName ← evalPy (t.getD "trigger_name" (py "catch_webhook"))
  let raw ← evalPy (t.getD "input" (.dict []))
  let fields ← evalPy (toDict raw)
  let explicit ← evalPy (t.getD "version" (py ""))
  let version ← evalPy (versionOr env explicit resolved.2 resolved.1)
  pure { full := fullName resolved.1
         version
         name := triggerName
         input := cleanInputConfig fields }

/-- `body.display_name + " — Trigger"`. -/
def DynamicBuildBody.triggerDisplay (body : DynamicBuildBody) : PyValue :=
  .str (body.displayName ++ text " — Trigger")

/-- The trigger with the chain of the actions. -/
def dynamicTrigger (body : DynamicBuildBody) (t : ResolvedTrigger) (first : PyValue) : PyValue :=
  buildTrigger t.full t.version t.name (.dict t.input) body.triggerDisplay first

/-- The chain of the actions, for the connection that each of them gets, and the full names of their
pieces. -/
def dynamicChain (body : DynamicBuildBody)
    (connection : PyValue → PyStr → Except PyError PyValue) : BuilderM (PyValue × List PyStr) := do
  let specs ← chainSpecs env connection (body.actions.map .dict)
  setState { counter := 1, stepsInfo := [] }
  let first ← buildActionChain env (.list specs.1)
  pure (first, specs.2)

/-- `list_connections`, as it is iterated over. -/
def listConnections : BuilderM (List PyValue) := do
  match ← ask .connections with
  | .error e => raise e
  | .ok raw =>
    let live ← evalPy (listOrData raw)
    if live.truthy then
      let items ← evalPy live.items
      pure (items.map Subtype.val)
    else pure []

/-- The connections by their pieces: those of the request over the default ones. -/
def DynamicBuildBody.connections (body : DynamicBuildBody) : List (PyStr × PyStr) :=
  resolveConns env (body.connectionIds.getD [])

/-- The trigger, and what the gate says about the flow. -/
def gatedTrigger (body : DynamicBuildBody) : BuilderM (ResolvedTrigger × ConnectionGate) := do
  let t ← resolveTrigger env (.dict body.trigger)
  let live ← listConnections
  let gateSteps := pyDict [("type", py "PIECE"), ("piece", .str t.full)] ::
    body.actions.map PyValue.dict
  let gate ← classifyConnectionRequirements live (body.connections env) evalPy fetchPieceSchema
    (.list gateSteps)
  pure (t, gate)

/-- The visible draft, if drafts are visible. -/
def visibleDraft (pid stampedAt : PyStr) (visible : Bool) (body : DynamicBuildBody)
    (t : ResolvedTrigger) (gate : ConnectionGate) : DynamicM PyValue :=
  if visible then do
    let chain ← inCatalog (dynamicChain env body (activeConnection? gate.connectionIds))
    createApVisibleDraftFlow requestEngine pid body.displayName stampedAt
      (dynamicTrigger body t chain.1)
  else pure .null

/-- The row of the plan. -/
def planRow (pid : PyStr) (body : DynamicBuildBody) (gate : ConnectionGate) (flowId : PyValue) :
    PlanRow where
  tenantId := pid
  displayName := body.displayName
  status := gate.status
  graphPlan := body.dump
  missingConnections := gate.blockedPieces
  runnablePieces := gate.runnablePieces
  blockedPieces := gate.blockedPieces
  flowId

/-- The answer that names what is missing. -/
def pendingResponse (body : DynamicBuildBody) (flowId pending gate : PyValue)
    (blocked : List PyValue) : PyValue :=
  match flowId with
  | .null => pyDict [("status", py "PENDING_CONNECTIONS"), ("mode", py "DRAFT_ONLY"),
      ("skip_compile", .bool true), ("display_name", .str body.displayName),
      ("pending_activation", pending), ("connection_gate", gate),
      ("sanitized_missing_connections", .list blocked),
      ("message", py "تم تجهيز الفلو وحفظه كخطة معلقة بانتظار ربط الحسابات.")]
  | fid => pyDict [("status", py "PENDING_CONNECTIONS"), ("mode", py "AP_VISIBLE_DRAFT"),
      ("flow_id", fid), ("skip_publish", .bool true), ("display_name", .str body.displayName),
      ("pending_activation", pending), ("connection_gate", gate),
      ("sanitized_missing_connections", .list blocked),
      ("message", py "تم إنشاء مسودة في Activepieces (DISABLED) بانتظار ربط الحسابات.")]

/-- The branch of the request that is kept as a plan. -/
def keepPlan (pid stampedAt : PyStr) (visible : Bool) (body : DynamicBuildBody)
    (t : ResolvedTrigger) (gate : ConnectionGate) : DynamicM PyValue := do
  let blocked := sanitizePieces gate.blockedPieces
  let runnable := sanitizePieces gate.runnablePieces
  let flowId ← visibleDraft env pid stampedAt visible body t gate
  let row := planRow pid body gate flowId
  let set ← perform (.savePlan row)
  let pending := buildPendingActivationPayload row set blocked
  let payload := buildConnectionGatePayload gate blocked runnable
  pure (pendingResponse body flowId pending payload blocked)

/-- `result.get("webhook_url") if is_webhook else None`. -/
def webhookUrlOf (full : PyStr) (result : PyValue) : Except PyError PyValue :=
  if (env.runtime.lower full).contains (text "webhook") then result.get "webhook_url" else .ok .null

/-- The branch of the request that is built. -/
def buildRunnable (pid : PyStr) (body : DynamicBuildBody) (t : ResolvedTrigger)
    (gate : ConnectionGate) : DynamicM PyValue := do
  let cn := gate.connectionIds.foldl (fun cn c ↦ upsert cn c.1 c.2)
    ((body.connections env).map fun c ↦ (c.1, PyValue.str c.2))
  let chain ← inCatalog (dynamicChain env body (ownConnection cn))
  let s ← getState
  let result ← perform (.goldenBuild pid body.displayName (dynamicTrigger body t chain.1))
  let webhookUrl ← onValues (webhookUrlOf env t.full result)
  let flowId ← onValues (result.getItem (text "flow_id"))
  let publish ← onValues (result.getItem (text "publish"))
  let diagnosis ← onValues (result.get "diagnosis")
  pure (pyDict [("status", py "deployed"), ("flow_id", flowId),
    ("display_name", .str body.displayName), ("steps_count", .int s.counter),
    ("webhook_url", webhookUrl), ("pieces_used", .list ((t.full :: chain.2).map .str)),
    ("publish", publish), ("diagnosis", diagnosis)])

/-- `v2_build_dynamic`. -/
def v2BuildDynamic (pid stampedAt : PyStr) (visible : Bool) (body : DynamicBuildBody) :
    DynamicM PyValue := do
  let gated ← inCatalog (gatedTrigger env body)
  if gated.2.blockedCount > 0 then keepPlan env pid stampedAt visible body gated.1 gated.2
  else buildRunnable env pid body gated.1 gated.2

end Env

end Siyadah
