import SiyadahOrchestrator.Foundations.PyValue
import SiyadahOrchestrator.Foundations.KeyedTable

/-!
# Flows and the flow registry

A flow is known in two places: ActivePieces holds the flow object, and the orchestrator's table
`flow_registry` may hold a row for it. Either of them can name the tenant that owns the flow, the
row by its `tenant_id` and the object by the `tenantId` of its free-form `metadata`.
-/

namespace Siyadah

/-- A row of `flow_registry`. -/
structure FlowRow where
  id : PyStr
  tenantId : PyStr
  flowId : PyStr
  displayName : PyStr
  triggerType : Option PyStr
  webhookUrl : Option PyStr
  pieceManifest : PyValue
  /-- `created_at.isoformat()`. -/
  createdAt : Option PyStr

/-- The table: `flow_id` is unique, and so is the row id. -/
abbrev FlowRegistry := KeyedTable FlowRow.flowId fun r : FlowRow ↦ some r.id

namespace FlowRegistry

/-- `select(FlowRegistry.flow_id).where(FlowRegistry.tenant_id == pid)`. -/
def registeredTo (reg : FlowRegistry) (pid : PyStr) : List FlowRow :=
  reg.rows.filter fun r ↦ r.tenantId = pid

/-- The rows of a tenant and the rows of another one have no flow in common. -/
theorem tenant_unique {reg : FlowRegistry} {r r' : FlowRow} (hr : r ∈ reg.rows)
    (hr' : r' ∈ reg.rows) (h : r.flowId = r'.flowId) : r.tenantId = r'.tenantId := by
  rw [reg.eq_of_key_eq hr hr' h]

/-- The tenant that the row of a flow names. -/
def tenantOf (reg : FlowRegistry) (fid : PyStr) : Option PyStr := reg.column FlowRow.tenantId fid

/-- `INSERT ... ON CONFLICT (flow_id) DO UPDATE`: the row id and the creation time stay. -/
def upsert (reg : FlowRegistry) (row : FlowRow) : Option FlowRegistry :=
  if (reg.find? row.flowId).isSome then
    some (reg.modifyKey row.flowId
      (fun r ↦ { row with id := r.id, flowId := r.flowId, createdAt := r.createdAt })
      (fun _ ↦ rfl) fun _ ↦ rfl)
  else reg.insert row

/-- `DELETE FROM flow_registry WHERE flow_id = fid`. -/
def evict (reg : FlowRegistry) (fid : PyStr) : FlowRegistry := reg.delete fun r ↦ r.flowId = fid

section Statements

variable {reg reg' : FlowRegistry} {row : FlowRow} {fid : PyStr}

theorem tenantOf_upsert (h : reg.upsert row = some reg') :
    reg'.tenantOf fid = if fid = row.flowId then some row.tenantId else reg.tenantOf fid := by
  rw [upsert] at h
  split at h
  · rename_i hsome
    obtain rfl := Option.some.inj h
    rw [tenantOf, KeyedTable.column, KeyedTable.find?_modifyKey]
    split
    · rename_i hfid
      obtain ⟨r, hr⟩ := Option.isSome_iff_exists.1 hsome
      rw [hfid, hr]
      rfl
    · rfl
  · rw [tenantOf, KeyedTable.column, KeyedTable.find?_insert h]
    split <;> rfl

theorem tenantOf_evict_eq (fid' : PyStr) :
    (reg.evict fid).tenantOf fid' = if fid' = fid then none else reg.tenantOf fid' := by
  rw [tenantOf, tenantOf, KeyedTable.column, KeyedTable.column, evict, KeyedTable.find?_delete]
  cases hr : reg.find? fid' with
  | none => simp
  | some r =>
    have hkey : r.flowId = fid' := KeyedTable.key_of_find? hr
    rw [Option.filter_some, hkey]
    by_cases h : fid' = fid <;> simp [h]

theorem tenantOf_evict {fid' : PyStr} {tenant : PyStr}
    (h : (reg.evict fid).tenantOf fid' = some tenant) : reg.tenantOf fid' = some tenant := by
  rw [tenantOf_evict_eq] at h
  exact (Option.ite_none_left_eq_some.1 h).2

end Statements

end FlowRegistry

/-- A flow object of ActivePieces; a missing field is `none` or `null`. The metadata is free-form.
-/
structure ApFlow where
  id : Option PyStr
  flowId : Option PyStr := none
  projectId : Option PyStr
  project_id : Option PyStr := none
  metadata : PyValue
  /-- `version["displayName"]`, for a flow with a version. -/
  versionDisplayName : Option PyValue
  displayName : PyValue
  status : PyValue

/-- `a or b`, for strings of which the first one may be missing. -/
def strOr (a : Option PyStr) (b : PyStr) : PyStr := a.elim b fun s ↦ if s = [] then b else s

namespace ApFlow

/-- `meta.get("tenantId")` of a flow whose metadata is a dictionary. -/
def tenantStamp (f : ApFlow) : PyValue :=
  match f.metadata with
  | .dict fields => (fields.lookup (PyStr.ofString "tenantId")).getD .null
  | _ => .null

/-- `(f.get("metadata") or {}).get("tenantId") == pid`, where the metadata is a dictionary. -/
def stampedFor (f : ApFlow) (pid : PyStr) : Bool := f.tenantStamp.isStr pid

end ApFlow

end Siyadah
