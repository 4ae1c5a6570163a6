import SiyadahOrchestrator.Flows.Registration

/-!
# Changing a flow that exists

A flow that exists can be enabled, disabled, deleted, or imported and published again, and there are
two ways to each of these. The REST endpoints `v2_flow_patch` and `v2_reimport` pass
`assert_flow_ownership` first. The MCP tools `manage_flow` and `update_flow`, which reach the same
calls over `/v2/mcp/execute` and over the SSE transport, do not.

The gate trusts the registry row if there is one, and the `tenantId` that the flow's metadata is
stamped with otherwise. What a body or a template is turned into before the flow is touched is a
`Plan`: it may read, and nothing else.
-/

namespace Siyadah

open Dialogue SiyadahEngine PyValue

/-! ### The gate -/

/-- `meta.get("tenantId") == tenant_pid`, where `flow.get("metadata") or {}` is a dictionary. -/
def metadataNames (flow : PyValue) (tenantPid : PyStr) : Except PyError Bool := do
  let metadata ← flow.get "metadata"
  if (metadata.orElse (.dict [])).isDict then
    let tenant ← (metadata.orElse (.dict [])).get "tenantId"
    pure (tenant.isStr tenantPid)
  else pure false

/-- The tenant of the registry row, when the read finds one. -/
def RegistryRead.tenantOf (rows : RegistryRead) (fid : PyStr) : Option PyStr :=
  match rows with
  | some (.ok reg) => reg.tenantOf fid
  | _ => none

/-- `_flow_belongs_to`. -/
def flowBelongsTo (X : Httpx) (rows : RegistryRead) (fid tenantPid : PyStr) : EngineM Bool :=
  if fid = [] ∨ tenantPid = [] then pure false
  else
    match rows.tenantOf fid with
    | some tenant => pure (tenant = tenantPid)
    | none =>
      handle (do
        let flow ← getFlow X (.str fid)
        ofPy (metadataNames flow tenantPid)) fun _ ↦ pure false

/-- `assert_flow_ownership`. -/
def assertFlowOwnership (X : Httpx) (rows : RegistryRead) (fid tenantPid : PyStr) :
    EngineM Unit := do
  let owns ← flowBelongsTo X rows fid tenantPid
  if owns then pure ()
  else
    raise (.http 403 (.value (pyDict [("error", py "flow_not_owned"),
      ("message", py "هذا الفلو ليس لك. الحركة مرفوضة."), ("flow_id", .str fid)])))

/-! ### Enable, disable, delete -/

/-- The three actions; `evict` follows a deletion. The result is the status that is answered. -/
def flowAction (X : Httpx) (fid action : PyValue) (evict : EngineM Unit) (unknown : Detail) :
    EngineM PyStr :=
  if action.isStr (text "enable") then do
    let _ ← fop X fid (.changeStatus (text "ENABLED"))
    pure (text "ENABLED")
  else if action.isStr (text "disable") then do
    let _ ← fop X fid (.changeStatus (text "DISABLED"))
    pure (text "DISABLED")
  else if action.isStr (text "delete") then do
    let _ ← deleteFlow X fid
    evict
    pure (text "DELETED")
  else raise (.http 400 unknown)

/-- Remove the registry row; a failure is only logged. -/
def evictRow (rows : RegistryRead) (fid : PyStr) : EngineM Unit :=
  match rows with
  | none => pure ()
  | some _ => handle (execute (.evictRegistry fid)) fun _ ↦ pure ()

/-- `v2_flow_patch`. -/
def v2FlowPatch (X : Httpx) (rows : RegistryRead) (pid fid action : PyStr) : EngineM PyStr := do
  assertFlowOwnership X rows fid pid
  flowAction X (.str fid) (.str action) (evictRow rows fid)
    (.text [.lit "Unknown action: ", .val (.str action), .lit ". Use: enable, disable, delete"])

/-- The MCP tool `manage_flow`. -/
def manageFlow (X : Httpx) (fid action : PyValue) : EngineM PyStr :=
  flowAction X fid action (pure ()) (.text [.lit "Unknown action: ", .val action])

/-! ### Import again -/

/-- The call reads, or signs in. -/
def Call.isRead : Call → Bool
  | .signIn => true
  | .getFlow _ => true
  | .read _ => true
  | _ => false

/-- What a request is turned into before a flow is touched: a name and a trigger tree. Connections
and pieces may be looked up for it. -/
structure Plan where
  prepare : EngineM (PyStr × PyValue)
  reads : Sends (fun c ↦ c.isRead = true) prepare

/-- What `v2_reimport` answers. -/
structure ReimportResult where
  flowId : PyStr
  displayName : PyStr
  publish : Published
  versionState : PyValue
  publishedMatch : Bool
  steps : List StepInfo

/-- `v2_reimport`, behind the publication. -/
def confirmReimport (X : Httpx) (fid name : PyStr) (pub : Published) : EngineM ReimportResult := do
  let final ← getFlow X (.str fid)
  let read ← ofPy (readFinal final)
  if !read.status.isStr (text "ENABLED") then
    raise (.http 500 (.text [.lit "Flow ", .val (.str fid),
      .lit " is NOT ENABLED after reimport. status=", .val read.status, .lit ", state=",
      .val read.state, .lit ", published_match=", .val (.bool read.publishedMatch), .lit "."]))
  else
    let tree ← ofPy (walkFlowTree final)
    pure ⟨fid, name, pub, read.state, read.publishedMatch, tree.steps⟩

/-- `v2_reimport`, from the import on. -/
def reimportFlow (X : Httpx) (fid name : PyStr) (trigger : PyValue) : EngineM ReimportResult := do
  let _ ← importFlow X (.str fid) name trigger
  let _ ← verifyFlow X (.str fid)
  let pub ← publishAndEnable X (.str fid)
  confirmReimport X fid name pub

/-- `v2_reimport`; an exception that is no `HTTPException` is converted. -/
def v2Reimport (X : Httpx) (rows : RegistryRead) (pid fid : PyStr) (plan : Plan) :
    EngineM ReimportResult := do
  assertFlowOwnership X rows fid pid
  let (name, trigger) ← plan.prepare
  handle (reimportFlow X fid name trigger) fun e ↦
    if e.isHttp then raise e
    else raise (.http 500 (.value (pyDict [("flow_id", .str fid)])))

/-- The MCP tool `update_flow`. -/
def updateFlow (X : Httpx) (fid : PyValue) (plan : Plan) : EngineM Published := do
  let (name, trigger) ← plan.prepare
  let _ ← importFlow X fid name trigger
  let _ ← verifyFlow X fid
  publishAndEnable X fid

/-! ### Drafts -/

/-- `build_sanitized_metadata`. -/
def buildSanitizedMetadata (tenantId stampedAt : PyStr) : PyValue :=
  pyDict [("tenantId", .str tenantId), ("mode", py "AP_VISIBLE_DRAFT"),
    ("stampedAt", .str stampedAt), ("stampedBy", py "siyadah:gate6_ap_visible_draft"),
    ("skipPublish", .bool true)]

theorem buildSanitizedMetadata_tenantId (tenantId stampedAt : PyStr) :
    (buildSanitizedMetadata tenantId stampedAt).get "tenantId" = .ok (.str tenantId) := by
  simp [buildSanitizedMetadata, pyDict, PyValue.get]

/-- What `create_ap_visible_draft_flow` checks of the flow that it reads back. -/
def checkDraft (flowAfter : PyValue) : Except PyError Unit := do
  if !flowAfter.isDict then .error .runtimeError
  else
    let status ← flowAfter.get "status"
    if status.isStr (text "ENABLED") then .error .runtimeError
    else
      let triggerType ← triggerTypeOf flowAfter (py "UNKNOWN")
      if triggerType.isStr (text "EMPTY") then .error .runtimeError else pure ()

/-- The methods of an engine that a draft takes, as programs. -/
structure DraftEngine (Q R σ : Type) where
  createFlow : PyStr → PyStr → Dialogue Q R σ EngineError PyValue
  updateMetadata : PyValue → PyValue → Dialogue Q R σ EngineError PyValue
  importFlow : PyValue → PyStr → PyValue → Dialogue Q R σ EngineError PyValue
  getFlow : PyValue → Dialogue Q R σ EngineError PyValue

/-- The methods of `SiyadahEngine`. -/
def draftEngine (X : Httpx) : DraftEngine Call Reply Engine where
  createFlow := SiyadahEngine.createFlow X
  updateMetadata := SiyadahEngine.updateMetadata X
  importFlow := SiyadahEngine.importFlow X
  getFlow := SiyadahEngine.getFlow X

/-- `create_ap_visible_draft_flow`; what the creation returns has no id if it is no dictionary. -/
def createApVisibleDraftFlow {Q R σ : Type} (engine : DraftEngine Q R σ)
    (pid displayName stampedAt : PyStr) (trigger : PyValue) :
    Dialogue Q R σ EngineError PyValue := do
  let flow ← engine.createFlow pid displayName
  let fid := flow.entryD "id"
  if !fid.truthy then raise (.py .runtimeError)
  else
    let _ ← engine.updateMetadata fid (buildSanitizedMetadata pid stampedAt)
    let _ ← engine.importFlow fid displayName trigger
    let flowAfter ← engine.getFlow fid
    let _ ← lift ((checkDraft flowAfter).mapError .py)
    pure fid

/-! ### What the requests send -/

section Sends

variable {X : Httpx} {env : BuildEnv} {rows : RegistryRead} {P : Call → Prop} {pid fid : PyStr}
  {target : PyValue} {plan : Plan}

theorem Plan.sends (plan : Plan) (hread : ∀ c, c.isRead = true → P c) : Sends P plan.prepare :=
  plan.reads.mono hread

theorem sends_assertFlowOwnership (hget : P (.getFlow (.str fid))) (hsign : P .signIn) :
    Sends P (assertFlowOwnership X rows fid pid) := by
  have hbelongs : Sends P (flowBelongsTo X rows fid pid) := by
    unfold flowBelongsTo
    split
    · exact sends_pure _
    · split
      · exact sends_pure _
      · exact ((sends_r_of hget hsign).bind fun flow ↦ sends_ofPy _).handle fun _ ↦ sends_pure _
  refine hbelongs.bind fun owns ↦ ?_
  split
  · exact sends_pure _
  · exact sends_raise _

theorem sends_execute {q : Call} (hq : P q) : Sends P (execute q) := by
  refine (sends_ask hq).bind fun rep ↦ ?_
  cases rep with
  | raised e => exact sends_raise _
  | answered resp => exact sends_pure _

theorem sends_flowAction {action : PyValue} {evict : EngineM Unit} {unknown : Detail}
    (hstatus : ∀ status, P (.flowOperation target (.changeStatus status)))
    (hdelete : P (.deleteFlow target)) (hsign : P .signIn) (hevict : Sends P evict) :
    Sends P (flowAction X target action evict unknown) := by
  unfold flowAction
  split
  · exact (sends_r_of (hstatus _) hsign).bind fun _ ↦ sends_pure _
  · split
    · exact (sends_r_of (hstatus _) hsign).bind fun _ ↦ sends_pure _
    · split
      · exact (sends_r_of hdelete hsign).bind fun _ ↦ hevict.bind fun _ ↦ sends_pure _
      · exact sends_raise _

theorem sends_evictRow (hevict : P (.evictRegistry fid)) : Sends P (evictRow rows fid) := by
  unfold evictRow
  split
  · exact sends_pure _
  · exact (sends_execute hevict).handle fun _ ↦ sends_pure _

theorem sends_reimportFlow {name : PyStr} {trigger : PyValue}
    (himport : ∀ name trigger, P (.flowOperation (.str fid) (.importFlow name trigger)))
    (hpublish : P (.flowOperation (.str fid) .lockAndPublish))
    (hstatus : ∀ status, P (.flowOperation (.str fid) (.changeStatus status)))
    (hget : P (.getFlow (.str fid))) (hsign : P .signIn) :
    Sends P (reimportFlow X fid name trigger) := by
  refine (sends_r_of (himport _ _) hsign).bind fun _ ↦ (sends_verifyFlow hget hsign).bind fun _ ↦
    (sends_publishAndEnable hpublish (hstatus _) hget hsign).bind fun pub ↦
    (sends_r_of hget hsign).bind fun final ↦ (sends_ofPy _).bind fun read ↦ ?_
  split
  · exact sends_raise _
  · exact (sends_ofPy _).bind fun tree ↦ sends_pure _

theorem sends_updateFlow (hread : ∀ c, c.isRead = true → P c)
    (himport : ∀ name trigger, P (.flowOperation target (.importFlow name trigger)))
    (hpublish : P (.flowOperation target .lockAndPublish))
    (hstatus : ∀ status, P (.flowOperation target (.changeStatus status))) :
    Sends P (updateFlow X target plan) :=
  (plan.sends hread).bind fun _ ↦ (sends_r_of (himport _ _) (hread _ rfl)).bind fun _ ↦
    (sends_verifyFlow (hread _ rfl) (hread _ rfl)).bind fun _ ↦
    sends_publishAndEnable hpublish (hstatus _) (hread _ rfl) (hread _ rfl)

end Sends

end Siyadah
