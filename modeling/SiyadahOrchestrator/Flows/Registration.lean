import SiyadahOrchestrator.Flows.GoldenBuild
import SiyadahOrchestrator.Flows.Registry

/-!
# Registering a flow as a digital employee

`register-employee` reads the flow, refuses it when ActivePieces holds it in another project, and
writes a row of `flow_registry`. A row that is there already may be refreshed by its own tenant
only.

The row carries a manifest of the flow's pieces, which `extractFlowMetadata` collects. Its walker
visits the trigger's `nextAction` twice, once below the trigger and once more on its own.
-/

namespace Siyadah

open Dialogue SiyadahEngine PyValue

/-! ### The manifest of a flow -/

/-- `_walk` in `_extract_flow_metadata`: the pieces on the way, and the number of `PIECE` steps. -/
def walkManifest (step : PyValue) : Except PyError (List PyValue × ℕ) :=
  if !step.isDict then .ok ([], 0)
  else do
    let settings ← step.get "settings"
    let name ← (settings.orElse (.dict [])).get "pieceName"
    let piece ← name.orGet step "pieceName"
    let type ← step.get "type"
    let ch ← step.child "children" Leaf.null
    let children ← ch.orNil.1.items
    let inChildren ← children.mapM fun c ↦ walkManifest c.1
    let next ← step.child "nextAction" Leaf.null
    let afterNext ← walkManifest next.1
    let br ← step.child "branches" Leaf.null
    let branches ← br.orNil.1.items
    let inBranches ← branches.mapM fun c ↦ do
      let branchNext ← c.1.child "nextAction" Leaf.null
      let afterBranch ← walkManifest branchNext.1
      let branchCh ← c.1.child "children" Leaf.null
      let inner ← branchCh.orNil.1.items
      let inInner ← inner.mapM fun d ↦ walkManifest d.1
      pure (afterBranch :: inInner)
    let below := inChildren ++ afterNext :: inBranches.flatten
    pure ((if piece.truthy then [piece] else []) ++ (below.map Prod.fst).flatten,
      (if type.isStr (text "PIECE") then 1 else 0) + (below.map Prod.snd).foldl (· + ·) 0)
termination_by step.weight
decreasing_by
  · exact ch.lt_of_item c
  · exact next.2
  · exact branchNext.2.trans (br.lt_of_item c)
  · exact (branchCh.lt_of_item d).trans (br.lt_of_item c)

/-- What `_extract_flow_metadata` returns. -/
structure FlowManifest where
  triggerType : PyValue
  pieces : List PyValue
  mcpToolCount : ℕ

/-- `if piece not in pieces: pieces.append(piece)`, for each piece in order. -/
def distinctPieces (pieces : List PyValue) : List PyValue :=
  pieces.foldl (fun seen piece ↦ if seen.any (eq piece) then seen else seen ++ [piece]) []

/-- `_extract_flow_metadata`. -/
def extractFlowMetadata (flow : PyValue) : Except PyError FlowManifest := do
  let version ← flow.get "version"
  let versionTrigger ← (version.orElse (.dict [])).get "trigger"
  let found ← versionTrigger.orGet flow "trigger"
  let trigger := found.orElse (.dict [])
  let type ← trigger.get "type"
  let fromTrigger ← walkManifest trigger
  let next ← trigger.get "nextAction"
  let fromNext ← walkManifest next
  pure
    { triggerType := type.orElse (py "unknown")
      pieces := distinctPieces (fromTrigger.1 ++ fromNext.1)
      mcpToolCount := fromTrigger.2 + fromNext.2 }

/-! ### The endpoint -/

/-- The table `flow_registry` as a handler's `select` finds it, or the exception that it raises;
`none` when no database is configured. -/
abbrev RegistryRead := Option (Except EngineError FlowRegistry)

/-- What `register-employee` answers. -/
structure EmployeeResult where
  created : Bool
  values : EmployeeValues

/-- A statement of the database, with its commit. -/
def execute (q : Call) : EngineM Unit := do
  match ← ask q with
  | .raised _ => raise (.py .dbapiError)
  | .answered _ => pure ()

/-- `_webhook_url_for`. -/
def webhookUrlFor (env : BuildEnv) (fid : PyStr) (triggerType : PyValue) : Option PyStr :=
  if triggerType.isStr (text "WEBHOOK") || triggerType.isStr (text "webhook") then
    some (webhookUrl env (.str fid))
  else none

/-- `flow.get("projectId") or flow.get("project_id")`. -/
def flowProject (flow : PyValue) : Except PyError PyValue := do
  let projectId ← flow.get "projectId"
  projectId.orGet flow "project_id"

/-- What a row of the flow is to hold. -/
def employeeValues (env : BuildEnv) (rowId pid fid : PyStr) (displayName : Option PyStr)
    (flow : PyValue) : Except PyError EmployeeValues := do
  let manifest ← extractFlowMetadata flow
  let version ← flow.get "version"
  let versionName ← (version.orElse (.dict [])).get "displayName"
  let apDisplay ← versionName.orGet flow "displayName"
  let versionId ← (version.orElse (.dict [])).get "id"
  pure
    { rowId := rowId
      tenantId := pid
      flowId := fid
      displayName := (PyValue.str (displayName.getD [])).orElse (apDisplay.orElse (.str fid))
      triggerType := manifest.triggerType
      webhookUrl := webhookUrlFor env fid manifest.triggerType
      pieceManifest := pyDict [("pieces", .list manifest.pieces),
        ("mcp_tool_count", .int manifest.mcpToolCount), ("ap_version_id", versionId)] }

theorem employeeValues_ok {env : BuildEnv} {rowId pid fid : PyStr} {displayName : Option PyStr}
    {flow : PyValue} {values : EmployeeValues}
    (h : employeeValues env rowId pid fid displayName flow = .ok values) :
    values.tenantId = pid ∧ values.flowId = fid := by
  obtain ⟨manifest, -, h⟩ := bind_eq_ok_iff.1 h
  obtain ⟨version, -, h⟩ := bind_eq_ok_iff.1 h
  obtain ⟨versionName, -, h⟩ := bind_eq_ok_iff.1 h
  obtain ⟨apDisplay, -, h⟩ := bind_eq_ok_iff.1 h
  obtain ⟨versionId, -, h⟩ := bind_eq_ok_iff.1 h
  obtain rfl := Except.ok.inj h
  exact ⟨rfl, rfl⟩

/-- The error of a flow that the caller may not know of. -/
def flowNotFound : EngineError := .http 404 (.text [.lit "flow_not_found"])

/-- `he.status_code == 404`. -/
def EngineError.isNotFound : EngineError → Bool
  | .http status _ => status = 404
  | _ => false

/-- `v2_register_employee`, once the project id is resolved. -/
def v2RegisterEmployee (env : BuildEnv) (rows : RegistryRead) (rowId pid fid : PyStr)
    (displayName : Option PyStr) : EngineM EmployeeResult := do
  let flow ← handle (getFlow env.httpx (.str fid)) fun e ↦
    if e.isNotFound then raise flowNotFound else raise e
  let flowPid ← ofPy (flowProject flow)
  if flowPid.truthy && !flowPid.isStr pid then raise flowNotFound
  else do
    let values ← ofPy (employeeValues env rowId pid fid displayName flow)
    match rows with
    | none => raise (.http 503 (.text [.lit "database_unavailable"]))
    | some (.error e) => raise e
    | some (.ok reg) =>
      match reg.find? fid with
      | some existing =>
        if existing.tenantId ≠ pid then raise flowNotFound
        else do
          execute (.registerEmployee { values with rowId := existing.id })
          pure ⟨false, { values with rowId := existing.id }⟩
      | none => do
        execute (.registerEmployee values)
        pure ⟨true, values⟩

end Siyadah
