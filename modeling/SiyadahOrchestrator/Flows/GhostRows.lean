import SiyadahOrchestrator.Flows.ApWorld
import SiyadahOrchestrator.Flows.FirstWriter

/-!
# Rows of flows that are gone

A flow is created, registered and deleted in two places, ActivePieces and the table `flow_registry`,
and never in one step. Here `golden_build`, `register-employee`, the deletion of `v2_flow_patch` and
the one of the MCP tool `manage_flow` are cut at the points where another request may come in
between. ActivePieces and the database answer every call, and answer it truthfully: a flow that is
gone is not found. The ids are those that ActivePieces has given out: any other id that is put into
the URL, such as one with a query, may lead to a flow whose row is kept under its own id.

`v2_flow_patch` evicts the row after it has deleted the flow. Nobody else does, and nobody looks at
ActivePieces again before a row is written. So a row of a deleted flow appears in two ways: a flow
is deleted by someone who does not evict while its row is there, or a row is written for a flow that
has been deleted in the meantime. `KeepsTrack` is the condition on the state before a step that
excludes both, and in a quiescent state the table is exact exactly on the runs that meet it.
-/

namespace Siyadah

open ProcessPool PyValue

/-! ### Tasks -/

/-- ActivePieces, the table, and the ids of the flows that this orchestrator has deleted. -/
structure RegistryWorld extends World where
  deleted : List PyStr

/-- Where a build is. -/
inductive BuildPc where
  /-- Before `POST /v1/flows/`; ActivePieces is going to give the flow this id. -/
  | create (fid : PyStr)
  /-- Before the stamp. -/
  | stamp (fid : PyStr)
  /-- Before the import, the verification, the publication and the last read. -/
  | confirm (fid : PyStr)
  /-- The flow is `ENABLED`: before the registry row. -/
  | upsert (fid : PyStr)
  | returned (fid : PyStr)
  | failed

/-- Where a deletion by `v2_flow_patch` is. -/
inductive DeletePc where
  /-- Before `_flow_belongs_to` reads the row. -/
  | readRow
  /-- There is no row: before it reads the flow. -/
  | readFlow
  | delete
  | evict
  | done

/-- A request that creates, registers or deletes. -/
inductive RegistryTask where
  /-- `golden_build` for a project, with the other columns of its row. -/
  | build (pid : PyStr) (row : FlowRow) (pc : BuildPc)
  /-- `v2_register_employee` before it reads the flow. -/
  | fetch (row : FlowRow)
  /-- `v2_register_employee` once the flow is read. -/
  | register (call : EmployeeCall)
  /-- `v2_flow_patch` with the action `delete`. -/
  | restDelete (pid fid : PyStr) (pc : DeletePc)
  /-- The MCP tool `manage_flow` with the action `delete`. -/
  | mcpDelete (fid : PyStr) (pending : Bool)

namespace RegistryWorld

/-- Replace one flow. -/
def putFlow (w : RegistryWorld) (fid : PyStr) (f : ApRecord) : RegistryWorld :=
  { w with toWorld := w.setFlow fid (some f) }

/-- `DELETE /v1/flows/{fid}`, which is answered with a success. -/
def deleteFlow (w : RegistryWorld) (fid : PyStr) : RegistryWorld :=
  { w with toWorld := w.setFlow fid none, deleted := fid :: w.deleted }

/-- The flow exists on ActivePieces. -/
def live (w : RegistryWorld) (fid : PyStr) : Bool := (w.flows fid).isSome

/-- ActivePieces has used the id. -/
def Known (w : RegistryWorld) (fid : PyStr) : Prop := w.live fid = true ∨ fid ∈ w.deleted

end RegistryWorld

/-- `meta.get("tenantId") == tenant_pid`. -/
def ApRecord.stampedFor (f : ApRecord) (pid : PyStr) : Bool :=
  (f.metadata.orElse (.dict [])).isDict &&
    ((f.metadata.orElse (.dict [])).get "tenantId").toOption.any (·.isStr pid)

namespace RegistryTask

/-- The step of a build. The row is inserted, or replaces the one that is there; a failure of the
table is only logged. -/
def nextBuild (w : RegistryWorld) (pid : PyStr) (row : FlowRow) :
    BuildPc → Option (RegistryWorld × BuildPc)
  | .create fid =>
    if w.live fid ∨ fid ∈ w.deleted then none
    else some (w.putFlow fid ⟨pid, .null⟩, .stamp fid)
  | .stamp fid =>
    match w.flows fid with
    | some f => some (w.putFlow fid ⟨f.projectId, pyDict [("tenantId", .str pid)]⟩, .confirm fid)
    | none => some (w, .failed)
  | .confirm fid => some (w, if w.live fid then .upsert fid else .failed)
  | .upsert fid =>
    match w.registry.upsert { row with tenantId := pid, flowId := fid } with
    | some reg => some ({ w with registry := reg }, .returned fid)
    | none => some (w, .returned fid)
  | .returned _ => none
  | .failed => none

/-- The step of a deletion by `v2_flow_patch`. -/
def nextDelete (w : RegistryWorld) (pid fid : PyStr) :
    DeletePc → Option (RegistryWorld × DeletePc)
  | .readRow =>
    if fid = [] ∨ pid = [] then some (w, .done)
    else
      match w.registry.tenantOf fid with
      | some tenant => some (w, if tenant = pid then .delete else .done)
      | none => some (w, .readFlow)
  | .readFlow => some (w, if (w.flows fid).any (·.stampedFor pid) then .delete else .done)
  | .delete => if w.live fid then some (w.deleteFlow fid, .evict) else some (w, .done)
  | .evict => some ({ w with registry := w.registry.evict fid }, .done)
  | .done => none

/-- The flow may be registered by the tenant: it is there, and ActivePieces does not hold it in
another project. -/
def mayRegister (w : RegistryWorld) (row : FlowRow) : Bool :=
  (w.flows row.flowId).any fun f ↦ f.projectId = [] || f.projectId = row.tenantId

/-- One atomic step of a task. -/
def next (w : RegistryWorld) : RegistryTask → Option (RegistryWorld × RegistryTask)
  | build pid row pc => (nextBuild w pid row pc).map fun s ↦ (s.1, build pid row s.2)
  | fetch row =>
    some (w, register ⟨row, if mayRegister w row then .select else .done .flowNotFound⟩)
  | register call =>
    (call.next w.registry).map fun s ↦ ({ w with registry := s.1 }, register s.2)
  | restDelete pid fid pc => (nextDelete w pid fid pc).map fun s ↦ (s.1, restDelete pid fid s.2)
  | mcpDelete fid pending =>
    if pending then
      some (if w.live fid then w.deleteFlow fid else w, mcpDelete fid false)
    else none

/-- The gates of `golden_build` reject the tree that was read back, and the flow is deleted. -/
def reject (w : RegistryWorld) : RegistryTask → Option (RegistryWorld × RegistryTask)
  | build pid row (.confirm fid) =>
    if w.live fid then some (w.deleteFlow fid, build pid row .failed) else none
  | _ => none

/-- A task before its first step. -/
def isNew : RegistryTask → Bool
  | build _ _ (.create _) => true
  | fetch _ => true
  | restDelete _ _ .readRow => true
  | mcpDelete _ pending => pending
  | _ => false

/-- The task has ended. -/
def ended : RegistryTask → Bool
  | build _ _ (.returned _) => true
  | build _ _ .failed => true
  | register ⟨_, .done _⟩ => true
  | restDelete _ _ .done => true
  | mcpDelete _ pending => !pending
  | _ => false

/-- The row id that the task may use. -/
def rowId : RegistryTask → Option PyStr
  | build _ row _ => some row.id
  | fetch row => some row.id
  | register call => some call.row.id
  | _ => none

/-- The row id, as long as the task has not used it. -/
def spareId : RegistryTask → Option PyStr
  | build _ _ (.returned _) => none
  | build _ row _ => some row.id
  | fetch row => some row.id
  | register ⟨row, .select⟩ => some row.id
  | register ⟨row, .insert⟩ => some row.id
  | _ => none

/-- The flow that the task has created. -/
def builds : RegistryTask → Option PyStr
  | build _ _ (.stamp fid) => some fid
  | build _ _ (.confirm fid) => some fid
  | build _ _ (.upsert fid) => some fid
  | build _ _ (.returned fid) => some fid
  | _ => none

/-- The flow that a build has returned, and the tenant that it was built for. -/
def returned : RegistryTask → Option (PyStr × PyStr)
  | build pid _ (.returned fid) => some (fid, pid)
  | _ => none

/-- The row that the task is about to evict. -/
def evicts : RegistryTask → Option PyStr
  | restDelete _ fid .evict => some fid
  | _ => none

/-- The flow for which the task is about to insert a row. -/
def aboutToWrite : RegistryTask → Option PyStr
  | build _ _ (.upsert fid) => some fid
  | register ⟨row, .insert⟩ => some row.flowId
  | _ => none

/-- The flow that the task is about to delete, without a look at its row. -/
def aboutToDrop : RegistryTask → Option PyStr
  | mcpDelete fid true => some fid
  | _ => none

end RegistryTask

/-! ### The system -/

/-- The world and the tasks. -/
abbrev RegistryPool := ProcessPool RegistryWorld RegistryTask

/-- A request arrives; the task number `i` makes a step; the gates of `golden_build` reject the tree
of the task number `i`. -/
inductive RegistryAction where
  | arrive (t : RegistryTask)
  | advance (i : ℕ)
  | reject (i : ℕ)

/-- `uuid4` gives an id that no row has and no task is about to use. -/
def RegistryPool.idUnused (P : RegistryPool) (id : PyStr) : Bool :=
  (P.store.registry.rows.all fun r ↦ decide (r.id ≠ id)) &&
    P.procs.all fun t ↦ decide (t.rowId ≠ some id)

/-- The interleavings of the tasks. -/
def registryTasks : TransitionSystem RegistryPool RegistryAction where
  step P
    | .arrive t =>
      if t.isNew && t.rowId.all P.idUnused then some (P.spawn P.store [t]) else none
    | .advance i => P.advance RegistryTask.next i
    | .reject i => P.advance RegistryTask.reject i

/-- A deletion by `v2_flow_patch` is about to evict the row of the flow. -/
def RegistryPool.EvictPending (P : RegistryPool) (fid : PyStr) : Prop :=
  ∃ t ∈ P.procs, t.evicts = some fid

/-- Every task has ended. -/
def RegistryPool.Quiescent (P : RegistryPool) : Prop := ∀ t ∈ P.procs, t.ended = true

/-- No row refers to a deleted flow, and a flow that a build has returned and that is not deleted
has one row, which carries the tenant that it was built for. -/
structure RegistryPool.Exact (P : RegistryPool) : Prop where
  noGhost : ∀ r ∈ P.store.registry.rows, r.flowId ∉ P.store.deleted
  registered : ∀ pid row fid, .build pid row (.returned fid) ∈ P.procs → fid ∉ P.store.deleted →
    (P.store.registry.rows.filter fun r ↦ r.flowId = fid).map FlowRow.tenantId = [pid]

/-- No step drops a flow that has a row, and none inserts a row for a flow that is deleted, unless a
deletion is about to evict it. -/
def KeepsTrack (P : RegistryPool) : RegistryAction → Prop
  | .arrive _ => True
  | .advance i => ∀ t, P.procs[i]? = some t →
    (∀ fid, t.aboutToWrite = some fid → P.store.registry.tenantOf fid = none →
      fid ∈ P.store.deleted → P.EvictPending fid) ∧
    ∀ fid, t.aboutToDrop = some fid → P.store.live fid = true →
      P.store.registry.tenantOf fid = none
  | .reject i => ∀ t, P.procs[i]? = some t → ∀ fid, t.builds = some fid →
    P.store.registry.tenantOf fid = none

/-! ### What a step can do -/

/-- What a step of the task does: it leaves the table, the flows and the deletions as they are, as
far as anything here reads them; or it creates a flow; writes a row; deletes a flow; or evicts a
row. -/
inductive RegistryTask.Effect (w : RegistryWorld) (t : RegistryTask) (w' : RegistryWorld)
    (t' : RegistryTask) : Prop where
  | still (htenant : ∀ fid, w'.registry.tenantOf fid = w.registry.tenantOf fid)
      (hids : ∀ r' ∈ w'.registry.rows, ∃ r ∈ w.registry.rows, r.id = r'.id)
      (hlive : ∀ fid, w'.live fid = w.live fid) (hdeleted : w'.deleted = w.deleted)
      (hbuilds : t'.builds = t.builds ∨ t'.builds = none) (hevicts : t.evicts = none)
      (hevicts' : t'.evicts = none) (hreturned : t'.returned = none)
      (hwrite : ∀ fid, t.aboutToWrite = some fid → w.registry.tenantOf fid ≠ none)
  | create (fid : PyStr) (hfresh : ¬ w.Known fid) (hregistry : w'.registry = w.registry)
      (hlive : ∀ fid', w'.live fid' = (decide (fid' = fid) || w.live fid'))
      (hdeleted : w'.deleted = w.deleted) (hbuilds' : t'.builds = some fid)
      (hevicts : t.evicts = none) (hevicts' : t'.evicts = none) (hreturned : t'.returned = none)
      (hwrite : t.aboutToWrite = none)
  | write (fid tenant : PyStr)
      (htenant : ∀ fid', w'.registry.tenantOf fid' =
        if fid' = fid then some tenant else w.registry.tenantOf fid')
      (hids : ∀ r' ∈ w'.registry.rows, t.spareId = some r'.id ∨
        ∃ r ∈ w.registry.rows, r.id = r'.id)
      (hlive : ∀ fid, w'.live fid = w.live fid) (hdeleted : w'.deleted = w.deleted)
      (hbuilds : t'.builds = t.builds) (hevicts : t.evicts = none) (hevicts' : t'.evicts = none)
      (hreturned : ∀ p, t'.returned = some p → p = (fid, tenant)) (hspare : t'.spareId = none)
      (hown : t.builds = some fid ∨ w.registry.tenantOf fid = none)
      (hwrite : t.aboutToWrite = some fid)
  | delete (fid : PyStr) (hwas : w.live fid = true) (hw' : w' = w.deleteFlow fid)
      (hbuilds' : t'.builds = none) (hevicts : t.evicts = none) (hreturned : t'.returned = none)
      (hwrite : t.aboutToWrite = none) (hkind : t'.evicts = some fid ∨ t'.evicts = none)
  | evict (fid : PyStr) (hw' : w' = { w with registry := w.registry.evict fid })
      (hbuilds' : t'.builds = none) (hevicts : t.evicts = some fid) (hevicts' : t'.evicts = none)
      (hreturned : t'.returned = none) (hwrite : t.aboutToWrite = none)

/-- What the world says of a task: its row id is unused until it writes; the flow that it has
created is known, and has its row once it is returned, unless it is deleted; and it evicts the rows
of deleted flows only. -/
structure RegistryTask.Consistent (w : RegistryWorld) (t : RegistryTask) : Prop where
  spare : ∀ id, t.spareId = some id → ∀ r ∈ w.registry.rows, r.id ≠ id
  known : ∀ fid, t.builds = some fid → w.Known fid
  evicts : ∀ fid, t.evicts = some fid → fid ∈ w.deleted
  returned : ∀ fid pid, t.returned = some (fid, pid) → fid ∉ w.deleted →
    w.registry.tenantOf fid = some pid

section Steps

variable {w w' : RegistryWorld} {t t' : RegistryTask} {fid : PyStr}

@[simp] theorem live_deleteFlow (fid' : PyStr) :
    (w.deleteFlow fid).live fid' = (decide (fid' ≠ fid) && w.live fid') := by
  rw [RegistryWorld.live, RegistryWorld.live, RegistryWorld.deleteFlow]
  by_cases h : fid' = fid <;> simp [World.setFlow, h]

@[simp] theorem live_putFlow (fid' : PyStr) (f : ApRecord) :
    (w.putFlow fid f).live fid' = (decide (fid' = fid) || w.live fid') := by
  rw [RegistryWorld.live, RegistryWorld.live, RegistryWorld.putFlow]
  by_cases h : fid' = fid <;> simp [World.setFlow, h]

/-- An upsert whose row id is unused is never refused. -/
theorem upsert_ne_none {reg : FlowRegistry} {row : FlowRow} (hid : ∀ r ∈ reg.rows, r.id ≠ row.id) :
    reg.upsert row ≠ none := by
  rw [FlowRegistry.upsert]
  split
  · simp
  · rename_i hnone
    rw [Ne, FlowRegistry.insert_eq_none_iff hid, Decidable.not_not,
      FlowRegistry.tenantOf_eq_none_iff]
    exact Option.not_isSome_iff_eq_none.1 hnone

theorem rowIds_upsert {reg reg' : FlowRegistry} {row : FlowRow} (h : reg.upsert row = some reg') :
    ∀ r' ∈ reg'.rows, r'.id = row.id ∨ ∃ r ∈ reg.rows, r.id = r'.id := by
  rw [FlowRegistry.upsert] at h
  split at h
  · obtain rfl := Option.some.inj h
    intro r' hr'
    obtain ⟨r, hr, rfl⟩ := List.mem_map.1 hr'
    refine .inr ⟨r, hr, ?_⟩
    split <;> rfl
  · rw [KeyedTable.rows_insert h]
    intro r' hr'
    rcases List.mem_append.1 hr' with hold | hnew
    · exact .inr ⟨r', hold, rfl⟩
    · rw [List.mem_singleton.1 hnew]
      exact .inl rfl

theorem effect_build {pid : PyStr} {row : FlowRow} {pc pc' : BuildPc}
    (ht : (RegistryTask.build pid row pc).Consistent w)
    (h : RegistryTask.nextBuild w pid row pc = some (w', pc')) :
    RegistryTask.Effect w (.build pid row pc) w' (.build pid row pc') := by
  cases pc with
  | create fid =>
    rw [RegistryTask.nextBuild] at h
    split at h
    · exact absurd h (by simp)
    rename_i hfresh
    obtain ⟨rfl, rfl⟩ := Prod.mk.inj (Option.some.inj h)
    exact .create fid hfresh rfl (fun fid' ↦ live_putFlow fid' _) rfl rfl rfl rfl rfl rfl
  | stamp fid =>
    have hwrite : (RegistryTask.build pid row (.stamp fid)).aboutToWrite = none := rfl
    rw [RegistryTask.nextBuild] at h
    split at h
    · rename_i f hf
      obtain ⟨rfl, rfl⟩ := Prod.mk.inj (Option.some.inj h)
      refine .still (fun _ ↦ rfl) (fun r hr ↦ ⟨r, hr, rfl⟩) (fun fid' ↦ ?_) rfl (.inl rfl) rfl rfl
        rfl fun _ h ↦ absurd (hwrite.symm.trans h) (by simp)
      rw [live_putFlow]
      by_cases hfid : fid' = fid
      · simp [RegistryWorld.live, hfid, hf]
      · simp [hfid]
    · obtain ⟨rfl, rfl⟩ := Prod.mk.inj (Option.some.inj h)
      exact .still (fun _ ↦ rfl) (fun r hr ↦ ⟨r, hr, rfl⟩) (fun _ ↦ rfl) rfl (.inr rfl) rfl rfl rfl
        fun _ h ↦ absurd (hwrite.symm.trans h) (by simp)
  | confirm fid =>
    rw [RegistryTask.nextBuild] at h
    obtain ⟨rfl, rfl⟩ := Prod.mk.inj (Option.some.inj h)
    refine .still (fun _ ↦ rfl) (fun r hr ↦ ⟨r, hr, rfl⟩) (fun _ ↦ rfl) rfl ?_ rfl rfl ?_
      fun _ h ↦ absurd h (by simp [RegistryTask.aboutToWrite])
    · split
      · exact .inl rfl
      · exact .inr rfl
    · split <;> rfl
  | upsert fid =>
    rw [RegistryTask.nextBuild] at h
    split at h
    · rename_i reg hreg
      obtain ⟨rfl, rfl⟩ := Prod.mk.inj (Option.some.inj h)
      refine .write fid pid (fun fid' ↦ FlowRegistry.tenantOf_upsert hreg) (fun r' hr' ↦ ?_)
        (fun _ ↦ rfl) rfl rfl rfl rfl (fun p hp ↦ (Option.some.inj hp).symm) rfl (.inl rfl) rfl
      exact (rowIds_upsert hreg r' hr').imp (fun h ↦ congrArg some h.symm) id
    · rename_i hnone
      exact absurd hnone (upsert_ne_none (ht.spare row.id rfl))
  | returned fid => exact absurd h (by simp [RegistryTask.nextBuild])
  | failed => exact absurd h (by simp [RegistryTask.nextBuild])

theorem effect_register {call call' : EmployeeCall} {reg' : FlowRegistry}
    (ht : (RegistryTask.register call).Consistent w)
    (h : call.next w.registry = some (reg', call')) :
    RegistryTask.Effect w (.register call) { w with registry := reg' } (.register call') := by
  obtain ⟨row, pc⟩ := call
  obtain ⟨row', pc'⟩ := call'
  obtain ⟨hrow, hcase⟩ := EmployeeCall.next_cases h
  dsimp only at hrow hcase
  obtain rfl := hrow.symm
  rcases hcase with ⟨rfl, rfl, rfl⟩ | ⟨rfl, hinsert, rfl⟩ | ⟨rfl, hinsert, rfl, rfl⟩ |
    ⟨rowId, rfl, rfl, rfl⟩ | ⟨rowId, rfl, -, rfl, rfl⟩
  · exact .still (fun _ ↦ rfl) (fun r hr ↦ ⟨r, hr, rfl⟩) (fun _ ↦ rfl) rfl (.inl rfl) rfl rfl rfl
      fun _ h ↦ absurd h (by simp [RegistryTask.aboutToWrite])
  · refine .write row.flowId row.tenantId (fun _ ↦ FlowRegistry.tenantOf_insert hinsert)
      (fun r' hr' ↦ ?_) (fun _ ↦ rfl) rfl rfl rfl rfl
      (fun p hp ↦ absurd hp (by simp [RegistryTask.returned])) rfl (.inr ?_) rfl
    · rcases (EmployeeCall.rowIds_next h).2 r' hr' with hid | hid
      · exact .inl (congrArg some hid.symm)
      · exact .inr hid
    · exact FlowRegistry.tenantOf_eq_none_iff.2 (KeyedTable.find?_eq_none_of_insert hinsert)
  · refine .still (fun _ ↦ rfl) (fun r hr ↦ ⟨r, hr, rfl⟩) (fun _ ↦ rfl) rfl (.inl rfl) rfl rfl rfl
      fun fid hfid ↦ ?_
    obtain rfl := Option.some.inj hfid
    exact (FlowRegistry.insert_eq_none_iff (ht.spare row.id rfl)).1 hinsert
  · refine .still (fun _ ↦ FlowRegistry.tenantOf_refresh) (fun r' hr' ↦ ?_) (fun _ ↦ rfl) rfl
      (.inl rfl) rfl rfl rfl fun _ h ↦ absurd h (by simp [RegistryTask.aboutToWrite])
    obtain ⟨r, hr, rfl⟩ := List.mem_map.1 hr'
    refine ⟨r, hr, ?_⟩
    split <;> rfl
  · exact .still (fun _ ↦ rfl) (fun r hr ↦ ⟨r, hr, rfl⟩) (fun _ ↦ rfl) rfl (.inl rfl) rfl rfl rfl
      fun _ h ↦ absurd h (by simp [RegistryTask.aboutToWrite])

/-- A step that leaves the world as it is. -/
theorem RegistryTask.Effect.refl (hbuilds : t'.builds = t.builds ∨ t'.builds = none)
    (hevicts : t.evicts = none) (hevicts' : t'.evicts = none) (hreturned : t'.returned = none)
    (hwrite : t.aboutToWrite = none) : RegistryTask.Effect w t w t' :=
  .still (fun _ ↦ rfl) (fun r hr ↦ ⟨r, hr, rfl⟩) (fun _ ↦ rfl) rfl hbuilds hevicts hevicts'
    hreturned fun _ h ↦ absurd (hwrite.symm.trans h) (by simp)

theorem effect_delete {pid : PyStr} {pc pc' : DeletePc}
    (h : RegistryTask.nextDelete w pid fid pc = some (w', pc')) :
    RegistryTask.Effect w (.restDelete pid fid pc) w' (.restDelete pid fid pc') := by
  -- A deletion reads the row and the flow, and leaves everything as it is.
  have hread : ∀ pc', (∀ fid', (RegistryTask.restDelete pid fid pc').evicts ≠ some fid') →
      (∀ fid', (RegistryTask.restDelete pid fid pc).evicts ≠ some fid') →
      RegistryTask.Effect w (.restDelete pid fid pc) w (.restDelete pid fid pc') := fun pc' h' h ↦
    .refl (.inl rfl) (Option.eq_none_iff_forall_ne_some.2 h)
      (Option.eq_none_iff_forall_ne_some.2 h') rfl rfl
  cases pc with
  | readRow =>
    rw [RegistryTask.nextDelete] at h
    split at h
    · obtain ⟨rfl, rfl⟩ := Prod.mk.inj (Option.some.inj h)
      exact hread _ (by simp [RegistryTask.evicts]) (by simp [RegistryTask.evicts])
    split at h
    · obtain ⟨rfl, rfl⟩ := Prod.mk.inj (Option.some.inj h)
      refine hread _ ?_ (by simp [RegistryTask.evicts])
      split <;> simp [RegistryTask.evicts]
    · obtain ⟨rfl, rfl⟩ := Prod.mk.inj (Option.some.inj h)
      exact hread _ (by simp [RegistryTask.evicts]) (by simp [RegistryTask.evicts])
  | readFlow =>
    obtain ⟨rfl, rfl⟩ := Prod.mk.inj (Option.some.inj h)
    refine hread _ ?_ (by simp [RegistryTask.evicts])
    split <;> simp [RegistryTask.evicts]
  | delete =>
    rw [RegistryTask.nextDelete] at h
    split at h
    · rename_i hlive
      obtain ⟨rfl, rfl⟩ := Prod.mk.inj (Option.some.inj h)
      exact .delete fid hlive rfl rfl rfl rfl rfl (.inl rfl)
    · obtain ⟨rfl, rfl⟩ := Prod.mk.inj (Option.some.inj h)
      exact hread _ (by simp [RegistryTask.evicts]) (by simp [RegistryTask.evicts])
  | evict =>
    obtain ⟨rfl, rfl⟩ := Prod.mk.inj (Option.some.inj h)
    exact .evict fid rfl rfl rfl rfl rfl rfl
  | done => exact absurd h (by simp [RegistryTask.nextDelete])

/-- **What a step of a task does.** -/
theorem effect_next (ht : t.Consistent w) (h : t.next w = some (w', t')) : t.Effect w w' t' := by
  cases t with
  | build pid row pc =>
    obtain ⟨⟨v, pc'⟩, hnext, heq⟩ := Option.map_eq_some_iff.1 h
    obtain ⟨rfl, rfl⟩ := Prod.mk.inj heq
    exact effect_build ht hnext
  | fetch row =>
    obtain ⟨rfl, rfl⟩ := Prod.mk.inj (Option.some.inj h)
    exact .refl (.inl rfl) rfl rfl rfl rfl
  | register call =>
    obtain ⟨⟨reg', call'⟩, hnext, heq⟩ := Option.map_eq_some_iff.1 h
    obtain ⟨rfl, rfl⟩ := Prod.mk.inj heq
    exact effect_register ht hnext
  | restDelete pid fid pc =>
    obtain ⟨⟨v, pc'⟩, hnext, heq⟩ := Option.map_eq_some_iff.1 h
    obtain ⟨rfl, rfl⟩ := Prod.mk.inj heq
    exact effect_delete hnext
  | mcpDelete fid pending =>
    cases pending with
    | false => exact absurd h (by simp [RegistryTask.next])
    | true =>
      obtain ⟨rfl, rfl⟩ := Prod.mk.inj (Option.some.inj h)
      split
      · rename_i hlive
        exact .delete fid hlive rfl rfl rfl rfl rfl (.inr rfl)
      · exact .refl (.inl rfl) rfl rfl rfl rfl

/-- A rejected tree costs the flow that the task has created. -/
theorem effect_reject (h : t.reject w = some (w', t')) : t.Effect w w' t' := by
  rw [RegistryTask.reject.eq_def] at h
  split at h
  · split at h
    · rename_i fid hlive
      obtain ⟨rfl, rfl⟩ := Prod.mk.inj (Option.some.inj h)
      exact .delete fid hlive rfl rfl rfl rfl rfl (.inr rfl)
    · exact absurd h (by simp)
  · exact absurd h (by simp)

/-! ### Consistency -/

/-- A flow that is known stays known. -/
theorem RegistryTask.Effect.known (h : t.Effect w w' t') (hfid : w.Known fid) : w'.Known fid := by
  have hmono : (∀ fid, w.live fid = true → w'.live fid = true) → w'.deleted = w.deleted →
      w'.Known fid := fun hlive hdeleted ↦ hfid.imp (hlive fid) (fun h ↦ hdeleted ▸ h)
  cases h with
  | still htenant hids hlive hdeleted => exact hmono (fun fid h ↦ (hlive fid).trans h) hdeleted
  | create fid' hfresh hregistry hlive hdeleted =>
    exact hmono (fun fid h ↦ by rw [hlive, h, Bool.or_true]) hdeleted
  | write fid' tenant htenant hids hlive hdeleted =>
    exact hmono (fun fid h ↦ (hlive fid).trans h) hdeleted
  | delete fid' hwas hw' =>
    obtain rfl := hw'
    by_cases heq : fid = fid'
    · exact .inr (heq ▸ List.mem_cons_self)
    · refine hfid.imp (fun h ↦ ?_) fun h ↦ List.mem_cons_of_mem fid' h
      rw [live_deleteFlow, h, Bool.and_true]
      exact decide_eq_true heq
  | evict fid' hw' =>
    obtain rfl := hw'
    exact hfid

/-- Deletions are not taken back. -/
theorem RegistryTask.Effect.deleted (h : t.Effect w w' t') (hfid : fid ∈ w.deleted) :
    fid ∈ w'.deleted := by
  cases h with
  | still htenant hids hlive hdeleted => exact hdeleted ▸ hfid
  | create fid' hfresh hregistry hlive hdeleted => exact hdeleted ▸ hfid
  | write fid' tenant htenant hids hlive hdeleted => exact hdeleted ▸ hfid
  | delete fid' hwas hw' => exact hw' ▸ List.mem_cons_of_mem fid' hfid
  | evict fid' hw' => exact hw' ▸ hfid

/-- The row ids after a step are those before, and the one that the task had to spare. -/
theorem RegistryTask.Effect.rowIds (h : t.Effect w w' t') :
    ∀ r' ∈ w'.registry.rows, t.spareId = some r'.id ∨ ∃ r ∈ w.registry.rows, r.id = r'.id := by
  cases h with
  | still htenant hids => exact fun r' hr' ↦ .inr (hids r' hr')
  | create fid' hfresh hregistry => exact fun r' hr' ↦ .inr ⟨r', hregistry ▸ hr', rfl⟩
  | write fid' tenant htenant hids => exact hids
  | delete fid' hwas hw' =>
    obtain rfl := hw'
    exact fun r' hr' ↦ .inr ⟨r', hr', rfl⟩
  | evict fid' hw' =>
    obtain rfl := hw'
    exact fun r' hr' ↦ .inr ⟨r', (List.mem_filter.1 hr').1, rfl⟩

/-- The tenant of a row is kept, unless the task has created the flow itself, or the flow is
deleted. -/
theorem RegistryTask.Effect.tenantOf (h : t.Effect w w' t') (ht : t.Consistent w) {tenant : PyStr}
    (hother : t'.builds ≠ some fid) (hlive : fid ∉ w'.deleted)
    (hrow : w.registry.tenantOf fid = some tenant) : w'.registry.tenantOf fid = some tenant := by
  cases h with
  | still htenant => exact (htenant fid).trans hrow
  | create fid' hfresh hregistry => rw [hregistry, hrow]
  | write fid' tenant' htenant hids hl hdeleted hbuilds hevicts hevicts' hreturned hspare hown =>
    rw [htenant, if_neg, hrow]
    rintro rfl
    rcases hown with hown | hnone
    · exact hother (hbuilds.trans hown)
    · exact absurd (hnone.symm.trans hrow) (by simp)
  | delete fid' hwas hw' =>
    obtain rfl := hw'
    exact hrow
  | evict fid' hw' hbuilds' hevicts =>
    obtain rfl := hw'
    have hne : fid ≠ fid' := fun heq ↦ hlive (heq ▸ ht.evicts fid' hevicts)
    exact (FlowRegistry.tenantOf_evict_eq fid).trans ((if_neg hne).trans hrow)

/-- A task takes over the flow that it has built, or one that nobody knows. -/
theorem RegistryTask.Effect.builds (h : t.Effect w w' t') (hfid : t'.builds = some fid) :
    t.builds = some fid ∨ ¬ w.Known fid ∧ w'.Known fid := by
  cases h with
  | still htenant hids hlive hdeleted hbuilds =>
    rcases hbuilds with hsame | hnone
    · exact .inl (hsame.symm.trans hfid)
    · exact absurd (hnone.symm.trans hfid) (by simp)
  | create fid' hfresh hregistry hlive hdeleted hbuilds' =>
    obtain rfl := Option.some.inj (hbuilds'.symm.trans hfid)
    refine .inr ⟨hfresh, .inl ?_⟩
    rw [hlive, decide_eq_true rfl, Bool.true_or]
  | write fid' tenant htenant hids hlive hdeleted hbuilds => exact .inl (hbuilds.symm.trans hfid)
  | delete fid' hwas hw' hbuilds' => exact absurd (hbuilds'.symm.trans hfid) (by simp)
  | evict fid' hw' hbuilds' => exact absurd (hbuilds'.symm.trans hfid) (by simp)

theorem builds_of_returned {p : PyStr × PyStr} (h : t.returned = some p) : t.builds = some p.1 := by
  rw [RegistryTask.returned.eq_def] at h
  split at h
  · obtain rfl := Option.some.inj h
    rfl
  · exact absurd h (by simp)

theorem rowId_of_spareId {id : PyStr} (h : t.spareId = some id) : t.rowId = some id := by
  rw [RegistryTask.spareId.eq_def] at h
  split at h <;> first | exact h | exact absurd h (by simp)

/-- A task that arrives has created nothing and deleted nothing. -/
theorem new_footprint (h : t.isNew = true) :
    t.builds = none ∧ t.evicts = none ∧ t.returned = none := by
  rw [RegistryTask.isNew.eq_def] at h
  split at h <;> first | exact ⟨rfl, rfl, rfl⟩ | exact absurd h (by simp)

/-- A build deletes nothing, unless its tree is rejected. -/
theorem deleted_nextBuild {pid : PyStr} {row : FlowRow} {pc pc' : BuildPc}
    (h : RegistryTask.nextBuild w pid row pc = some (w', pc')) : w'.deleted = w.deleted := by
  rw [RegistryTask.nextBuild.eq_def] at h
  split at h
  · split at h
    · exact absurd h (by simp)
    · obtain ⟨rfl, -⟩ := Prod.mk.inj (Option.some.inj h)
      rfl
  · split at h <;> obtain ⟨rfl, -⟩ := Prod.mk.inj (Option.some.inj h) <;> rfl
  · obtain ⟨rfl, -⟩ := Prod.mk.inj (Option.some.inj h)
    rfl
  · split at h <;> obtain ⟨rfl, -⟩ := Prod.mk.inj (Option.some.inj h) <;> rfl
  · exact absurd h (by simp)
  · exact absurd h (by simp)

/-- A deletion that deletes is about to evict. -/
theorem deleted_nextDelete {pid : PyStr} {pc pc' : DeletePc}
    (h : RegistryTask.nextDelete w pid fid pc = some (w', pc')) :
    w'.deleted = w.deleted ∨ (RegistryTask.restDelete pid fid pc').evicts = some fid := by
  rw [RegistryTask.nextDelete.eq_def] at h
  split at h
  · split at h
    · obtain ⟨rfl, -⟩ := Prod.mk.inj (Option.some.inj h)
      exact .inl rfl
    · split at h <;> obtain ⟨rfl, -⟩ := Prod.mk.inj (Option.some.inj h) <;> exact .inl rfl
  · obtain ⟨rfl, -⟩ := Prod.mk.inj (Option.some.inj h)
    exact .inl rfl
  · split at h
    · obtain ⟨-, rfl⟩ := Prod.mk.inj (Option.some.inj h)
      exact .inr rfl
    · obtain ⟨rfl, -⟩ := Prod.mk.inj (Option.some.inj h)
      exact .inl rfl
  · obtain ⟨rfl, -⟩ := Prod.mk.inj (Option.some.inj h)
    exact .inl rfl
  · exact absurd h (by simp)

theorem ne_cons_self {l : List PyStr} (h : w'.deleted = l) : w'.deleted ≠ fid :: l := by
  intro hcons
  have hlen := congrArg List.length (h.symm.trans hcons)
  simp at hlen

/-- What `next` deletes without evicting is what the task was about to drop. -/
theorem drop_next_iff (h : t.next w = some (w', t')) :
    (w'.deleted = fid :: w.deleted ∧ t'.evicts = none) ↔
      t.aboutToDrop = some fid ∧ w.live fid = true := by
  have hfalse : w'.deleted = w.deleted → t.aboutToDrop = none →
      ((w'.deleted = fid :: w.deleted ∧ t'.evicts = none) ↔
        t.aboutToDrop = some fid ∧ w.live fid = true) := fun hdel hdrop ↦
    iff_of_false (fun h ↦ ne_cons_self hdel h.1) fun h ↦ absurd (hdrop.symm.trans h.1) (by simp)
  cases t with
  | build pid row pc =>
    obtain ⟨⟨v, pc'⟩, hnext, heq⟩ := Option.map_eq_some_iff.1 h
    obtain ⟨rfl, rfl⟩ := Prod.mk.inj heq
    exact hfalse (deleted_nextBuild hnext) rfl
  | fetch row =>
    obtain ⟨rfl, rfl⟩ := Prod.mk.inj (Option.some.inj h)
    exact hfalse rfl rfl
  | register call =>
    obtain ⟨⟨reg', call'⟩, -, heq⟩ := Option.map_eq_some_iff.1 h
    obtain ⟨rfl, rfl⟩ := Prod.mk.inj heq
    refine hfalse rfl ?_
    rfl
  | restDelete pid fid' pc =>
    obtain ⟨⟨v, pc'⟩, hnext, heq⟩ := Option.map_eq_some_iff.1 h
    obtain ⟨rfl, rfl⟩ := Prod.mk.inj heq
    -- The one deletion here is followed by an eviction.
    refine iff_of_false (fun hdel ↦ ?_) fun hdrop ↦
      absurd hdrop.1 (by simp [RegistryTask.aboutToDrop])
    rcases deleted_nextDelete hnext with hsame | hevict
    · exact ne_cons_self hsame hdel.1
    · exact absurd (hevict.symm.trans hdel.2) (by simp)
  | mcpDelete fid' pending =>
    cases pending with
    | false => exact absurd h (by simp [RegistryTask.next])
    | true =>
      obtain ⟨rfl, rfl⟩ := Prod.mk.inj (Option.some.inj h)
      by_cases hlive : w.live fid' = true
      · rw [if_pos hlive]
        constructor
        · rintro ⟨hdel, -⟩
          obtain ⟨rfl, -⟩ := List.cons.inj hdel
          exact ⟨rfl, hlive⟩
        · rintro ⟨hdrop, -⟩
          obtain rfl := Option.some.inj hdrop
          exact ⟨rfl, rfl⟩
      · rw [if_neg hlive]
        refine iff_of_false (fun hdel ↦ ne_cons_self rfl hdel.1) ?_
        rintro ⟨hdrop, hlive'⟩
        obtain rfl := Option.some.inj hdrop
        exact hlive hlive'

/-- What `reject` deletes is the flow that the task has created, and nobody evicts its row. -/
theorem drop_reject_iff (h : t.reject w = some (w', t')) :
    (w'.deleted = fid :: w.deleted ∧ t'.evicts = none) ↔ t.builds = some fid := by
  rw [RegistryTask.reject.eq_def] at h
  split at h
  · split at h
    · obtain ⟨rfl, rfl⟩ := Prod.mk.inj (Option.some.inj h)
      constructor
      · rintro ⟨hdel, -⟩
        exact congrArg some (List.cons.inj hdel).1
      · intro hbuilds
        obtain rfl := Option.some.inj hbuilds
        exact ⟨rfl, rfl⟩
    · exact absurd h (by simp)
  · exact absurd h (by simp)

/-- A task that `reject` moves is not about to write. -/
theorem aboutToWrite_of_reject (h : t.reject w = some (w', t')) : t.aboutToWrite = none := by
  rw [RegistryTask.reject.eq_def] at h
  split at h
  · rfl
  · exact absurd h (by simp)

/-- The row id of a task stays, and is spared no longer than before. -/
theorem spareId_next (h : t.next w = some (w', t') ∨ t.reject w = some (w', t')) :
    t'.rowId = t.rowId ∧ ∀ id, t'.spareId = some id → t.spareId = some id := by
  rcases h with h | h
  · cases t with
    | build pid row pc =>
      obtain ⟨⟨v, pc'⟩, hnext, heq⟩ := Option.map_eq_some_iff.1 h
      obtain ⟨rfl, rfl⟩ := Prod.mk.inj heq
      refine ⟨rfl, fun id hid ↦ ?_⟩
      have hrow := rowId_of_spareId hid
      cases pc with
      | returned fid => exact absurd hnext (by simp [RegistryTask.nextBuild])
      | _ => exact hrow
    | fetch row =>
      obtain ⟨rfl, rfl⟩ := Prod.mk.inj (Option.some.inj h)
      exact ⟨rfl, fun id hid ↦ rowId_of_spareId hid⟩
    | register call =>
      obtain ⟨⟨reg', call'⟩, hnext, heq⟩ := Option.map_eq_some_iff.1 h
      obtain ⟨rfl, rfl⟩ := Prod.mk.inj heq
      obtain ⟨row, pc⟩ := call
      obtain ⟨row', pc'⟩ := call'
      obtain ⟨hrow, hcase⟩ := EmployeeCall.next_cases hnext
      dsimp only at hrow hcase
      obtain rfl := hrow.symm
      refine ⟨rfl, fun id hid ↦ ?_⟩
      have hid' := rowId_of_spareId hid
      rcases hcase with ⟨rfl, -⟩ | ⟨rfl, -⟩ | ⟨rfl, -⟩ | ⟨_, rfl, -, rfl⟩ | ⟨_, rfl, -, -, rfl⟩
      · exact hid'
      · exact hid'
      · exact hid'
      · exact absurd hid (by simp [RegistryTask.spareId])
      · exact absurd hid (by simp [RegistryTask.spareId])
    | restDelete pid fid pc =>
      obtain ⟨⟨v, pc'⟩, hnext, heq⟩ := Option.map_eq_some_iff.1 h
      obtain ⟨rfl, rfl⟩ := Prod.mk.inj heq
      exact ⟨rfl, fun id hid ↦ absurd (rowId_of_spareId hid) (by simp [RegistryTask.rowId])⟩
    | mcpDelete fid pending =>
      cases pending with
      | false => exact absurd h (by simp [RegistryTask.next])
      | true =>
        obtain ⟨-, rfl⟩ := Prod.mk.inj (Option.some.inj h)
        exact ⟨rfl, fun id hid ↦ absurd (rowId_of_spareId hid) (by simp [RegistryTask.rowId])⟩
  · rw [RegistryTask.reject.eq_def] at h
    split at h
    · split at h
      · obtain ⟨rfl, rfl⟩ := Prod.mk.inj (Option.some.inj h)
        exact ⟨rfl, fun id hid ↦ hid⟩
      · exact absurd h (by simp)
    · exact absurd h (by simp)

/-- A flow that exists has not been deleted. -/
def RegistryWorld.Sane (w : RegistryWorld) : Prop := ∀ fid, w.live fid = true → fid ∉ w.deleted

theorem RegistryTask.Effect.sane (h : t.Effect w w' t') (hw : w.Sane) : w'.Sane := by
  intro fid hfid
  cases h with
  | still htenant hids hlive hdeleted => exact hdeleted ▸ hw fid ((hlive fid).symm.trans hfid)
  | create fid' hfresh hregistry hlive hdeleted =>
    rw [hlive, Bool.or_eq_true_iff] at hfid
    rw [hdeleted]
    rcases hfid with heq | hold
    · exact of_decide_eq_true heq ▸ fun hmem ↦ hfresh (.inr hmem)
    · exact hw fid hold
  | write fid' tenant htenant hids hlive hdeleted =>
    exact hdeleted ▸ hw fid ((hlive fid).symm.trans hfid)
  | delete fid' hwas hw' =>
    obtain rfl := hw'
    rw [live_deleteFlow, Bool.and_eq_true_iff] at hfid
    intro hmem
    rcases List.mem_cons.1 hmem with heq | hold
    · exact of_decide_eq_true hfid.1 heq
    · exact hw fid hfid.2 hold
  | evict fid' hw' =>
    obtain rfl := hw'
    exact hw fid hfid

/-- A task stays consistent in its own steps. -/
theorem RegistryTask.Effect.consistent (h : t.Effect w w' t') (ht : t.Consistent w)
    (hspare : ∀ id, t'.spareId = some id → t.spareId = some id) : t'.Consistent w' := by
  refine ⟨fun id hid r' hr' heq ↦ ?_, fun fid hfid ↦ ?_, fun fid hfid ↦ ?_,
    fun fid pid hp hlive ↦ ?_⟩
  · have hold : ∀ r ∈ w.registry.rows, r.id ≠ id := ht.spare id (hspare id hid)
    cases h with
    | still htenant hids =>
      obtain ⟨r, hr, hr'⟩ := hids r' hr'
      exact hold r hr (hr'.trans heq)
    | create fid' hfresh hregistry => exact hold r' (hregistry ▸ hr') heq
    | write fid' tenant htenant hids hl hdel hbuilds hevicts hevicts' hreturned hspare' =>
      exact absurd (hspare'.symm.trans hid) (by simp)
    | delete fid' hwas hw' =>
      obtain rfl := hw'
      exact hold r' hr' heq
    | evict fid' hw' =>
      obtain rfl := hw'
      exact hold r' (List.mem_filter.1 hr').1 heq
  · rcases h.builds hfid with hold | ⟨-, hnew⟩
    · exact h.known (ht.known fid hold)
    · exact hnew
  · cases h with
    | still htenant hids hl hdel hbuilds hevicts hevicts' =>
      exact absurd (hevicts'.symm.trans hfid) (by simp)
    | create fid' hfresh hregistry hl hdel hbuilds' hevicts hevicts' =>
      exact absurd (hevicts'.symm.trans hfid) (by simp)
    | write fid' tenant htenant hids hl hdel hbuilds hevicts hevicts' =>
      exact absurd (hevicts'.symm.trans hfid) (by simp)
    | delete fid' hwas hw' hbuilds' hevicts hreturned hwrite hkind =>
      obtain rfl := hw'
      rcases hkind with hevicts' | hevicts'
      · exact Option.some.inj (hevicts'.symm.trans hfid) ▸ List.mem_cons_self
      · exact absurd (hevicts'.symm.trans hfid) (by simp)
    | evict fid' hw' hbuilds' hevicts hevicts' => exact absurd (hevicts'.symm.trans hfid) (by simp)
  · -- Only the write of a build's row returns.
    cases h with
    | still htenant hids hl hdel hbuilds hevicts hevicts' hreturned =>
      exact absurd (hreturned.symm.trans hp) (by simp)
    | create fid' hfresh hregistry hl hdel hbuilds' hevicts hevicts' hreturned =>
      exact absurd (hreturned.symm.trans hp) (by simp)
    | write fid' tenant htenant hids hl hdel hbuilds hevicts hevicts' hreturned =>
      obtain ⟨rfl, rfl⟩ := Prod.mk.inj (hreturned _ hp)
      rw [htenant, if_pos rfl]
    | delete fid' hwas hw' hbuilds' hevicts hreturned =>
      exact absurd (hreturned.symm.trans hp) (by simp)
    | evict fid' hw' hbuilds' hevicts hevicts' hreturned =>
      exact absurd (hreturned.symm.trans hp) (by simp)

/-- Two tasks share neither a row id nor a flow. -/
def RegistryTask.Apart (t u : RegistryTask) : Prop :=
  (∀ id, t.rowId = some id → u.rowId ≠ some id) ∧ ∀ fid, t.builds = some fid → u.builds ≠ some fid

/-- A step of one task leaves the others consistent. -/
theorem RegistryTask.Effect.others {u : RegistryTask} (h : t.Effect w w' t') (ht : t.Consistent w)
    (hu : u.Consistent w) (hapart : t.Apart u) : u.Consistent w' := by
  refine ⟨fun id hid r' hr' heq ↦ ?_, fun fid hfid ↦ h.known (hu.known fid hfid),
    fun fid hfid ↦ h.deleted (hu.evicts fid hfid), fun fid pid hp hlive ↦ ?_⟩
  · rcases h.rowIds r' hr' with hspare | ⟨r, hr, hr'⟩
    · exact hapart.1 r'.id (rowId_of_spareId hspare) (heq ▸ rowId_of_spareId hid)
    · exact hu.spare id hid r hr (hr'.trans heq)
  · have hbuilds := builds_of_returned hp
    refine h.tenantOf ht (fun hfid ↦ ?_) hlive
      (hu.returned fid pid hp fun hmem ↦ hlive (h.deleted hmem))
    rcases h.builds hfid with hold | ⟨hnew, -⟩
    · exact hapart.2 fid hold hbuilds
    · exact hnew (hu.known fid hbuilds)

/-- After a step, a task is apart from the tasks that it was apart from. -/
theorem RegistryTask.Effect.apart {u : RegistryTask} (h : t.Effect w w' t')
    (hrow : t'.rowId = t.rowId) (hu : u.Consistent w) (hapart : t.Apart u) :
    t'.Apart u ∧ u.Apart t' := by
  have hbuilds : ∀ fid, t'.builds = some fid → u.builds ≠ some fid := by
    intro fid hfid hu'
    rcases h.builds hfid with hold | ⟨hnew, -⟩
    · exact hapart.2 fid hold hu'
    · exact hnew (hu.known fid hu')
  refine ⟨⟨fun id hid ↦ hapart.1 id (hrow ▸ hid), hbuilds⟩, fun id hid hid' ↦ ?_,
    fun fid hfid hfid' ↦ hbuilds fid hfid' hfid⟩
  exact hapart.1 id (hrow ▸ hid') hid

end Steps

/-! ### Runs -/

/-- The invariant: a flow that exists has not been deleted, every task is consistent with the world,
and the tasks are apart. -/
abbrev RegistryPool.Sound (P : RegistryPool) : Prop :=
  P.Holds RegistryWorld.Sane (fun w t ↦ t.Consistent w) RegistryTask.Apart

/-- A flow that has a row and is deleted is about to lose the row. -/
def RegistryPool.Settling (P : RegistryPool) : Prop :=
  ∀ fid, P.store.registry.tenantOf fid ≠ none → fid ∈ P.store.deleted → P.EvictPending fid

section Runs

variable {P Q : RegistryPool} {as : List RegistryAction} {a : RegistryAction} {fid : PyStr}

/-- **The step lemma.** -/
theorem registrySound_step (h : P.Sound) (hstep : registryTasks.step P a = some Q) : Q.Sound := by
  have hmove : ∀ next : RegistryWorld → RegistryTask → Option (RegistryWorld × RegistryTask),
      (∀ w t w' t', t.Consistent w → next w t = some (w', t') → t.Effect w w' t' ∧
        t'.rowId = t.rowId ∧ ∀ id, t'.spareId = some id → t.spareId = some id) →
      ∀ i, P.advance next i = some Q → Q.Sound := by
    intro next hnext i hadv
    refine h.advance hadv ?_ ?_ ?_
    · intro t w t' ht hstep
      obtain ⟨heffect, -, hspare⟩ := hnext _ _ _ _ (h.each i t ht) hstep
      exact ⟨heffect.sane h.store, heffect.consistent (h.each i t ht) hspare⟩
    · intro t w t' j u ht hstep _ _ hu hapart _
      exact (hnext _ _ _ _ (h.each i t ht) hstep).1.others (h.each i t ht) hu hapart
    · intro t w t' j u ht hstep _ _ hu hapart _
      obtain ⟨heffect, hrow, -⟩ := hnext _ _ _ _ (h.each i t ht) hstep
      exact heffect.apart hrow hu hapart
  cases a with
  | arrive t =>
    obtain ⟨hnew, hQ⟩ := Option.ite_none_right_eq_some.1 hstep
    obtain rfl := Option.some.inj hQ
    obtain ⟨hnew, hunused⟩ := Bool.and_eq_true_iff.1 hnew
    obtain ⟨hbuilds, hevicts, hreturned⟩ := new_footprint hnew
    have hid : ∀ id, t.rowId = some id → (∀ r ∈ P.store.registry.rows, r.id ≠ id) ∧
        ∀ u ∈ P.procs, u.rowId ≠ some id := by
      intro id hid
      rw [hid, Option.all_some] at hunused
      obtain ⟨hrows, htasks⟩ := Bool.and_eq_true_iff.1 hunused
      exact ⟨fun r hr ↦ of_decide_eq_true (List.all_eq_true.1 hrows r hr),
        fun u hu ↦ of_decide_eq_true (List.all_eq_true.1 htasks u hu)⟩
    have happart : ∀ u ∈ P.procs, t.Apart u ∧ u.Apart t := fun u hu ↦
      ⟨⟨fun id h ↦ (hid id h).2 u hu, fun fid h ↦ absurd (hbuilds.symm.trans h) (by simp)⟩,
        fun id h h' ↦ (hid id h').2 u hu h, fun fid h h' ↦ absurd (hbuilds.symm.trans h') (by simp)⟩
    refine h.spawn h.store (fun _ _ _ hu ↦ hu) ?_ ?_ ?_
    · intro u hu
      obtain rfl := List.mem_singleton.1 hu
      exact ⟨fun id h ↦ (hid id (rowId_of_spareId h)).1,
        fun fid h ↦ absurd (hbuilds.symm.trans h) (by simp),
        fun fid h ↦ absurd (hevicts.symm.trans h) (by simp),
        fun fid pid h ↦ absurd (hreturned.symm.trans h) (by simp)⟩
    · intro i u v hu hv
      obtain rfl := List.mem_singleton.1 hv
      exact (happart u (List.mem_of_getElem? hu)).symm
    · intro i j u v hij hu hv
      obtain ⟨hi, -⟩ := List.getElem?_eq_some_iff.1 hu
      obtain ⟨hj, -⟩ := List.getElem?_eq_some_iff.1 hv
      rw [List.length_singleton] at hi hj
      omega
  | advance i =>
    exact hmove _ (fun w t w' t' ht h ↦ ⟨effect_next ht h, spareId_next (.inl h)⟩) i hstep
  | reject i => exact hmove _ (fun w t w' t' _ h ↦ ⟨effect_reject h, spareId_next (.inr h)⟩) i hstep

theorem evictPending_iff {i : ℕ} {t : RegistryTask} (ht : P.procs[i]? = some t) :
    P.EvictPending fid ↔
      t.evicts = some fid ∨ ∃ j u, j ≠ i ∧ P.procs[j]? = some u ∧ u.evicts = some fid := by
  constructor
  · rintro ⟨u, hu, hevicts⟩
    obtain ⟨j, hj⟩ := List.mem_iff_getElem?.1 hu
    by_cases hji : j = i
    · subst hji
      exact .inl (Option.some.inj (ht.symm.trans hj) ▸ hevicts)
    · exact .inr ⟨j, u, hji, hj, hevicts⟩
  · rintro (hevicts | ⟨j, u, -, hj, hevicts⟩)
    · exact ⟨t, List.mem_of_getElem? ht, hevicts⟩
    · exact ⟨u, List.mem_of_getElem? hj, hevicts⟩

/-- What is pending after a step of the task number `i`. -/
theorem evictPending_set_iff {i : ℕ} {t t' : RegistryTask} {w : RegistryWorld}
    (ht : P.procs[i]? = some t) :
    RegistryPool.EvictPending ⟨w, P.procs.set i t'⟩ fid ↔
      t'.evicts = some fid ∨ ∃ j u, j ≠ i ∧ P.procs[j]? = some u ∧ u.evicts = some fid := by
  have hlt : i < P.procs.length := (List.getElem?_eq_some_iff.1 ht).1
  have hset : (P.procs.set i t')[i]? = some t' := List.getElem?_set_self hlt
  rw [evictPending_iff (P := ⟨w, P.procs.set i t'⟩) hset]
  refine or_congr Iff.rfl (exists_congr fun j ↦ exists_congr fun u ↦ and_congr_right fun hji ↦ ?_)
  show (P.procs.set i t')[j]? = some u ∧ _ ↔ _
  rw [List.getElem?_set_ne (Ne.symm hji)]

/-- A task writes no row of a deleted flow, and deletes no flow with a row, unless the row is about
to be evicted. -/
def RegistryPool.Fits (P : RegistryPool) (t : RegistryTask) (w' : RegistryWorld)
    (t' : RegistryTask) : Prop :=
  (∀ fid, t.aboutToWrite = some fid → P.store.registry.tenantOf fid = none →
    fid ∈ P.store.deleted → P.EvictPending fid) ∧
  ∀ fid, w'.deleted = fid :: P.store.deleted → t'.evicts = none →
    P.store.registry.tenantOf fid = none

/-- What is about to be evicted is deleted. -/
theorem deleted_of_evictPending (h : P.Sound) (hpending : P.EvictPending fid) :
    fid ∈ P.store.deleted := by
  obtain ⟨t, ht, hevicts⟩ := hpending
  obtain ⟨i, hi⟩ := List.mem_iff_getElem?.1 ht
  exact (h.each i t hi).evicts fid hevicts

/-- A step keeps every deleted flow that has a row about to lose it exactly if it fits. -/
theorem settling_set_iff {i : ℕ} {t t' : RegistryTask} {w' : RegistryWorld} (h : P.Sound)
    (ht : P.procs[i]? = some t) (heffect : t.Effect P.store w' t') :
    RegistryPool.Settling ⟨w', P.procs.set i t'⟩ ↔ P.Settling ∧ P.Fits t w' t' := by
  -- Where nobody starts or ends an eviction, the same evictions are pending.
  have hsame : t.evicts = none → t'.evicts = none → ∀ fid,
      (RegistryPool.EvictPending ⟨w', P.procs.set i t'⟩ fid ↔ P.EvictPending fid) := by
    intro hevicts hevicts' fid
    rw [evictPending_set_iff ht, evictPending_iff ht, hevicts, hevicts']
  have hfits : t.aboutToWrite = none → w'.deleted = P.store.deleted → P.Fits t w' t' :=
    fun hwrite hdeleted ↦ ⟨fun fid hfid ↦ absurd (hwrite.symm.trans hfid) (by simp),
      fun fid hfid ↦ absurd hfid (ne_cons_self hdeleted)⟩
  cases heffect with
  | still htenant hids hlive hdeleted hbuilds hevicts hevicts' hreturned hwrite =>
    have hf : P.Fits t w' t' := ⟨fun fid hfid hnone ↦ absurd hnone (hwrite fid hfid),
      fun fid hfid ↦ absurd hfid (ne_cons_self hdeleted)⟩
    rw [and_iff_left hf]
    refine forall_congr' fun fid ↦ ?_
    rw [hsame hevicts hevicts' fid]
    show w'.registry.tenantOf fid ≠ none → fid ∈ w'.deleted → _ ↔ _
    rw [htenant, hdeleted]
  | create fid' hfresh hregistry hlive hdeleted hbuilds' hevicts hevicts' hreturned hwrite =>
    rw [and_iff_left (hfits hwrite hdeleted)]
    refine forall_congr' fun fid ↦ ?_
    rw [hsame hevicts hevicts' fid]
    show w'.registry.tenantOf fid ≠ none → fid ∈ w'.deleted → _ ↔ _
    rw [hregistry, hdeleted]
  | write fid' tenant htenant hids hlive hdeleted hbuilds hevicts hevicts' hreturned hspare hown
      hwrite =>
    constructor
    · intro hQ
      have hP : ∀ fid, w'.registry.tenantOf fid ≠ none → fid ∈ P.store.deleted →
          P.EvictPending fid := fun fid hrow hdel ↦
        (hsame hevicts hevicts' fid).1 (hQ fid hrow (hdeleted ▸ hdel))
      refine ⟨fun fid hrow hdel ↦ hP fid ?_ hdel, fun fid hfid hnone hdel ↦ hP fid ?_ hdel,
        fun fid hfid ↦ absurd hfid (ne_cons_self hdeleted)⟩
      · rw [htenant]
        split
        · simp
        · exact hrow
      · obtain rfl := Option.some.inj (hwrite.symm.trans hfid)
        rw [htenant, if_pos rfl]
        simp
    · rintro ⟨hP, hwrites, -⟩ fid hrow hdel
      refine (hsame hevicts hevicts' fid).2 ?_
      have hdel' : fid ∈ P.store.deleted := hdeleted ▸ hdel
      by_cases hnone : P.store.registry.tenantOf fid = none
      · refine hwrites fid ?_ hnone hdel'
        by_cases heq : fid = fid'
        · rw [heq, hwrite]
        · exact absurd ((htenant fid).trans ((if_neg heq).trans hnone)) hrow
      · exact hP fid hnone hdel'
  | delete fid' hwas hw' hbuilds' hevicts hreturned hwrite hkind =>
    obtain rfl := hw'
    have halive : fid' ∉ P.store.deleted := h.store fid' hwas
    have hwrites : ∀ fid, t.aboutToWrite = some fid → P.store.registry.tenantOf fid = none →
        fid ∈ P.store.deleted → P.EvictPending fid := fun fid hfid ↦
      absurd (hwrite.symm.trans hfid) (by simp)
    rcases hkind with hevict | hnone
    · constructor
      · intro hQ
        refine ⟨fun fid hrow hdel ↦ ?_, hwrites, fun fid _ hev ↦
          absurd (hevict.symm.trans hev) (by simp)⟩
        refine (evictPending_iff ht).2 (((evictPending_set_iff ht).1
          (hQ fid hrow (List.mem_cons_of_mem fid' hdel))).imp (fun hev ↦ ?_) id)
        exact absurd (Option.some.inj (hevict.symm.trans hev) ▸ hdel) halive
      · rintro ⟨hP, -⟩ fid hrow hdel
        rcases List.mem_cons.1 hdel with rfl | hold
        · exact (evictPending_set_iff ht).2 (.inl hevict)
        · refine (evictPending_set_iff ht).2 (((evictPending_iff ht).1 (hP fid hrow hold)).imp
            (fun hev ↦ ?_) id)
          exact absurd (hevicts.symm.trans hev) (by simp)
    · constructor
      · intro hQ
        refine ⟨fun fid hrow hdel ↦ (hsame hevicts hnone fid).1
          (hQ fid hrow (List.mem_cons_of_mem fid' hdel)), hwrites, fun fid hfid _ ↦ ?_⟩
        obtain ⟨rfl, -⟩ := List.cons.inj hfid
        by_contra hrow
        exact halive (deleted_of_evictPending h
          ((hsame hevicts hnone fid').1 (hQ fid' hrow List.mem_cons_self)))
      · rintro ⟨hP, -, hdrops⟩ fid hrow hdel
        rcases List.mem_cons.1 hdel with rfl | hold
        · exact absurd (hdrops fid rfl hnone) hrow
        · exact (hsame hevicts hnone fid).2 (hP fid hrow hold)
  | evict fid' hw' hbuilds' hevicts hevicts' hreturned hwrite =>
    obtain rfl := hw'
    rw [and_iff_left (hfits hwrite rfl)]
    have htenant : ∀ fid, (P.store.registry.evict fid').tenantOf fid =
        if fid = fid' then none else P.store.registry.tenantOf fid :=
      FlowRegistry.tenantOf_evict_eq
    constructor
    · intro hQ fid hrow hdel
      refine (evictPending_iff ht).2 ?_
      by_cases heq : fid = fid'
      · exact .inl (heq ▸ hevicts)
      · refine ((evictPending_set_iff ht).1 (hQ fid ?_ hdel)).imp (fun hev ↦ ?_) id
        · exact fun hnone ↦ hrow (((htenant fid).trans (if_neg heq)).symm.trans hnone)
        · exact absurd (hevicts'.symm.trans hev) (by simp)
    · intro hP fid hrow hdel
      refine (evictPending_set_iff ht).2 ?_
      have hne : fid ≠ fid' := fun heq ↦ hrow ((htenant fid).trans (if_pos heq))
      refine ((evictPending_iff ht).1 (hP fid ?_ hdel)).imp (fun hev ↦ ?_) id
      · exact fun hnone ↦ hrow ((htenant fid).trans ((if_neg hne).trans hnone))
      · exact absurd (Option.some.inj (hevicts.symm.trans hev)).symm hne

/-- **One step** leaves no row of a deleted flow behind exactly if none was left behind before and
the step keeps track. -/
theorem settling_step (h : P.Sound) (hstep : registryTasks.step P a = some Q) :
    Q.Settling ↔ P.Settling ∧ KeepsTrack P a := by
  cases a with
  | arrive t =>
    obtain ⟨hnew, hQ⟩ := Option.ite_none_right_eq_some.1 hstep
    obtain rfl := Option.some.inj hQ
    obtain ⟨-, hevicts, -⟩ := new_footprint (Bool.and_eq_true_iff.1 hnew).1
    refine Iff.trans (forall_congr' fun fid ↦ ?_) (and_iff_left trivial).symm
    refine imp_congr_right fun _ ↦ imp_congr_right fun _ ↦ ?_
    constructor
    · rintro ⟨u, hu, hfid⟩
      rcases List.mem_append.1 hu with hold | hnew
      · exact ⟨u, hold, hfid⟩
      · obtain rfl := List.mem_singleton.1 hnew
        exact absurd (hevicts.symm.trans hfid) (by simp)
    · rintro ⟨u, hu, hfid⟩
      exact ⟨u, List.mem_append_left _ hu, hfid⟩
  | advance i =>
    obtain ⟨t, w', t', ht, hnext, rfl⟩ := advance_eq_some.1 hstep
    rw [settling_set_iff h ht (effect_next (h.each i t ht) hnext)]
    refine and_congr_right fun _ ↦ ?_
    have hdrop : (∀ fid, w'.deleted = fid :: P.store.deleted → t'.evicts = none →
          P.store.registry.tenantOf fid = none) ↔
        ∀ fid, t.aboutToDrop = some fid → P.store.live fid = true →
          P.store.registry.tenantOf fid = none := by
      refine forall_congr' fun fid ↦ ?_
      rw [← and_imp, ← and_imp, drop_next_iff hnext]
    rw [RegistryPool.Fits, hdrop]
    constructor
    · intro hfits u hu
      obtain rfl := Option.some.inj (ht.symm.trans hu)
      exact hfits
    · exact fun hkeeps ↦ hkeeps t ht
  | reject i =>
    obtain ⟨t, w', t', ht, hreject, rfl⟩ := advance_eq_some.1 hstep
    rw [settling_set_iff h ht (effect_reject hreject)]
    refine and_congr_right fun _ ↦ ?_
    have hdrop : (∀ fid, w'.deleted = fid :: P.store.deleted → t'.evicts = none →
          P.store.registry.tenantOf fid = none) ↔
        ∀ fid, t.builds = some fid → P.store.registry.tenantOf fid = none := by
      refine forall_congr' fun fid ↦ ?_
      rw [← and_imp, drop_reject_iff hreject]
    rw [RegistryPool.Fits, hdrop]
    constructor
    · intro hfits u hu
      obtain rfl := Option.some.inj (ht.symm.trans hu)
      exact hfits.2
    · exact fun hkeeps ↦
        ⟨fun fid hfid ↦ absurd ((aboutToWrite_of_reject hreject).symm.trans hfid) (by simp),
          hkeeps t ht⟩

theorem registrySound_initially {w : World} : RegistryPool.Sound ⟨⟨w, []⟩, []⟩ :=
  ⟨fun _ _ ↦ List.not_mem_nil, fun _ _ h ↦ absurd h (by simp),
    fun _ _ _ _ _ h ↦ absurd h (by simp)⟩

/-- A task that has ended evicts nothing any more. -/
theorem evicts_of_ended {t : RegistryTask} (h : t.ended = true) : t.evicts = none := by
  rw [RegistryTask.ended.eq_def] at h
  split at h <;> first | rfl | exact absurd h (by simp)

/-- In a quiescent state, no row is left behind exactly if the table is exact. -/
theorem exact_iff_settling (h : P.Sound) (hquiet : P.Quiescent) : P.Exact ↔ P.Settling := by
  constructor
  · intro hexact fid hrow hdel
    obtain ⟨tenant, htenant⟩ := Option.ne_none_iff_exists'.1 hrow
    obtain ⟨r, hr, -⟩ := KeyedTable.column_eq_some_iff.1 htenant
    obtain ⟨hmem, rfl⟩ := KeyedTable.find?_eq_some_iff.1 hr
    exact absurd hdel (hexact.noGhost r hmem)
  · refine fun hsettling ↦ ⟨fun r hr hdel ↦ ?_, fun pid row fid hbuild hdel ↦ ?_⟩
    · have hrow : P.store.registry.tenantOf r.flowId ≠ none := fun hnone ↦
        KeyedTable.find?_eq_none_iff.1 (FlowRegistry.tenantOf_eq_none_iff.1 hnone) r hr rfl
      obtain ⟨t, ht, hevicts⟩ := hsettling r.flowId hrow hdel
      exact absurd ((evicts_of_ended (hquiet t ht)).symm.trans hevicts) (by simp)
    · obtain ⟨i, hi⟩ := List.mem_iff_getElem?.1 hbuild
      have htenant := (h.each i _ hi).returned fid pid rfl hdel
      obtain ⟨r, hr, rfl⟩ := KeyedTable.column_eq_some_iff.1 htenant
      rw [KeyedTable.filter_key_eq, hr]
      rfl

end Runs

/-- **No ghost rows.** In a quiescent state the table is exact, exactly if no step of the run has
dropped a flow that had a row, or inserted a row for a flow that was deleted. -/
theorem no_ghost_rows_iff (w : World) (as : List RegistryAction) (P : RegistryPool)
    (hrun : registryTasks.run ⟨⟨w, []⟩, []⟩ as = some P) (hquiet : P.Quiescent) :
    P.Exact ↔ registryTasks.Meets KeepsTrack ⟨⟨w, []⟩, []⟩ as := by
  have hstep : ∀ (P : RegistryPool) a Q, P.Sound → registryTasks.step P a = some Q → Q.Sound :=
    fun _ _ _ h ↦ registrySound_step h
  have hsettling : P.Settling ↔ RegistryPool.Settling ⟨⟨w, []⟩, []⟩ ∧
      registryTasks.Meets KeepsTrack ⟨⟨w, []⟩, []⟩ as :=
    TransitionSystem.iff_meets_of_run hstep (fun _ _ _ h ↦ settling_step h)
      registrySound_initially hrun
  have hsound : P.Sound := TransitionSystem.invariant_of_run' hstep registrySound_initially hrun
  have hstart : RegistryPool.Settling ⟨⟨w, []⟩, []⟩ := fun _ _ hdel ↦
    absurd hdel List.not_mem_nil
  rw [exact_iff_settling hsound hquiet, hsettling, and_iff_right hstart]

/-! ### A flow that is built and deleted -/

/-- A build of the flow `f1` for the tenant `p1`. -/
def buildSteps : List RegistryAction :=
  [.arrive (.build (text "p1") (employeeRow "r1" "p1") (.create (text "f1"))),
    .advance 0, .advance 0, .advance 0, .advance 0]

/-- The flow is deleted by `v2_flow_patch`, which evicts its row. -/
def restDeletion : List RegistryAction :=
  [.arrive (.restDelete (text "p1") (text "f1") .readRow), .advance 1, .advance 1, .advance 1]

/-- The flow is deleted by `manage_flow`. -/
def mcpDeletion : List RegistryAction := [.arrive (.mcpDelete (text "f1") true), .advance 1]

/-- ActivePieces and the table before anything happens. -/
def emptyRegistryPool : RegistryPool := ⟨⟨⟨fun _ ↦ none, KeyedTable.empty⟩, []⟩, []⟩

theorem no_ghost_rows_example : ∃ P,
    registryTasks.run emptyRegistryPool (buildSteps ++ restDeletion) = some P ∧ P.Quiescent ∧
    (P.Exact ↔ registryTasks.Meets KeepsTrack emptyRegistryPool (buildSteps ++ restDeletion)) := by
  have hends : ((registryTasks.run emptyRegistryPool (buildSteps ++ restDeletion)).any fun P ↦
      P.procs.all RegistryTask.ended) = true := by decide
  obtain ⟨P, hP, hquiet⟩ := (Option.any_eq_true _ _).1 hends
  have hquiet : P.Quiescent := fun t ht ↦ List.all_eq_true.1 hquiet t ht
  exact ⟨P, hP, hquiet, no_ghost_rows_iff ⟨fun _ ↦ none, KeyedTable.empty⟩ _ P hP hquiet⟩

/-- The row stays when the flow is deleted by `manage_flow`. -/
theorem manage_flow_leaves_ghost :
    ¬ ∀ (w : World) (as : List RegistryAction) (P : RegistryPool),
      registryTasks.run ⟨⟨w, []⟩, []⟩ as = some P → P.Quiescent → P.Exact := by
  intro h
  have hghost : ((registryTasks.run emptyRegistryPool (buildSteps ++ mcpDeletion)).any fun P ↦
      P.procs.all RegistryTask.ended &&
        P.store.registry.rows.any fun r ↦ decide (r.flowId ∈ P.store.deleted)) = true := by decide
  obtain ⟨P, hP, hboth⟩ := (Option.any_eq_true _ _).1 hghost
  obtain ⟨hquiet, hrow⟩ := Bool.and_eq_true_iff.1 hboth
  obtain ⟨r, hr, hdel⟩ := List.any_eq_true.1 hrow
  exact (h _ _ P hP fun t ht ↦ List.all_eq_true.1 hquiet t ht).noGhost r hr (of_decide_eq_true hdel)

end Siyadah
