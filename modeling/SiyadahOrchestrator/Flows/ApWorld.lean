import SiyadahOrchestrator.Flows.Ownership

/-!
# ActivePieces, the registry, and who owns a flow

The state that the requests of the orchestrator act on: the flows that ActivePieces holds, each in a
project and with its metadata, and the table `flow_registry`. `apPeer` says how this state answers.
Answers may be lost or turned into errors at will, whether or not the request is executed; only an
answer that carries a value tells the truth.

The engine puts the id of a flow into a URL as it stands. What the URL is then resolved to is said
by `ApRoutes`: the same flow may go by several ids, an id may lead away from the flows, and a
webhook's URL may turn out to be a flow's.

A flow is owned by the tenant that its registry row names and by the tenant that its metadata is
stamped with. `World.Consistent` says that both are the tenant of the flow's project, so that there
is at most one owner, and that a row under any other id of the flow names this tenant too.
`served_permitted` is the step lemma of this layer: a call that a tenant makes within its rights
keeps the state consistent and takes no flow out of its hands.
-/

namespace Siyadah

open PyValue

/-! ### URLs -/

/-- What ActivePieces makes of the requests that it is sent. -/
structure ApRoutes where
  /-- The flow whose URL `/v1/flows/{id}` is. -/
  flow : PyStr → Option PyStr
  /-- The flows that a change under `/v1/flows/{id}` affects where this is the URL of no flow. -/
  elsewhere : PyStr → List PyStr
  /-- The operation on a flow that `POST /v1/webhooks/{id}` with this body is, where the URL is not
  that of a webhook. -/
  webhook : PyStr → PyValue → Option (PyStr × FlowOp)
  /-- The flows that a proxied body makes its MCP server enable, disable, delete, publish or
  import. -/
  proxied : PyValue → List PyStr

namespace ApRoutes

variable (A : ApRoutes)

/-- The flows that a change under the URL affects although it is no flow's URL. -/
def unseen (id : PyStr) : List PyStr := if (A.flow id).isSome then [] else A.elsewhere id

/-- The flows that a change under the URL affects. -/
def reached (id : PyStr) : List PyStr := (A.flow id).toList ++ A.unseen id

/-- The id stands for itself: the URLs that it is put into are what they look like. -/
structure Plain (fid : PyStr) : Prop where
  flow : A.flow fid = some fid
  webhook : ∀ payload, A.webhook fid payload = none

variable {A} {id fid : PyStr}

theorem mem_reached : fid ∈ A.reached id ↔ A.flow id = some fid ∨ fid ∈ A.unseen id := by
  rw [reached, List.mem_append, Option.mem_toList]

theorem Plain.reached (h : A.Plain fid) : A.reached fid = [fid] := by
  rw [ApRoutes.reached, unseen, h.flow]
  rfl

end ApRoutes

/-! ### The state -/

/-- A flow of ActivePieces, as far as its ownership is concerned. -/
structure ApRecord where
  projectId : PyStr
  metadata : PyValue

/-- The flow's metadata is stamped for the tenant. -/
def ApRecord.Names (f : ApRecord) (tenant : PyStr) : Prop :=
  f.metadata.get "tenantId" = .ok (.str tenant)

/-- The flows of ActivePieces and the registry. -/
structure World where
  flows : PyStr → Option ApRecord
  registry : FlowRegistry

namespace World

variable (A : ApRoutes) (w : World)

/-- Replace one flow. -/
def setFlow (fid : PyStr) (f : Option ApRecord) : World :=
  { w with flows := fun fid' ↦ if fid' = fid then f else w.flows fid' }

/-- The tenant owns the flow: the registry says so, or the stamp does. -/
def Owns (tenant fid : PyStr) : Prop :=
  w.registry.tenantOf fid = some tenant ∨ ∃ f, w.flows fid = some f ∧ f.Names tenant

/-- If the flow exists, no tenant other than this one owns it. -/
def NotForeign (tenant fid : PyStr) : Prop :=
  ∀ f owner, w.flows fid = some f → w.Owns owner fid → owner = tenant

/-- If the flow exists, it lies in the tenant's project. -/
def InProject (tenant fid : PyStr) : Prop := ∀ f, w.flows fid = some f → f.projectId = tenant

/-- The tenant may operate on the flow: a stamp needs a flow of the tenant's project and names the
tenant, and the other operations need a flow that is nobody else's. -/
def MayOperate (tenant fid : PyStr) : FlowOp → Prop
  | .updateMetadata metadata => w.InProject tenant fid ∧ metadata.get "tenantId" = .ok (.str tenant)
  | _ => w.NotForeign tenant fid

/-- What is said of a flow's owner is said of the tenant of its project, and the flows have ids that
stand for themselves. -/
structure Consistent : Prop where
  project_ne : ∀ fid f, w.flows fid = some f → f.projectId ≠ []
  plain : ∀ fid f, w.flows fid = some f → A.Plain fid
  stamp : ∀ fid f tenant, w.flows fid = some f → f.Names tenant → tenant = f.projectId
  row : ∀ id fid f tenant, A.flow id = some fid → w.flows fid = some f →
    w.registry.tenantOf id = some tenant → tenant = f.projectId

end World

theorem ApRecord.Names.unique {f : ApRecord} {a b : PyStr} (ha : f.Names a) (hb : f.Names b) :
    a = b := by
  have h := ha.symm.trans hb
  simpa using h

namespace World

variable {A : ApRoutes} {w : World} {tenant fid id : PyStr} {f : ApRecord}

@[simp] theorem flows_setFlow (fid' : PyStr) (f : Option ApRecord) :
    (w.setFlow fid f).flows fid' = if fid' = fid then f else w.flows fid' := rfl

@[simp] theorem registry_setFlow (f : Option ApRecord) : (w.setFlow fid f).registry = w.registry :=
  rfl

/-- In a consistent state a flow has no owner but the tenant of its project. -/
theorem Consistent.owner_eq (hw : w.Consistent A) (hf : w.flows fid = some f)
    (h : w.Owns tenant fid) : tenant = f.projectId := by
  rcases h with hrow | ⟨f', hf', hstamp⟩
  · exact hw.row fid fid f tenant (hw.plain fid f hf).flow hf hrow
  · obtain rfl := Option.some.inj (hf.symm.trans hf')
    exact hw.stamp fid f tenant hf hstamp

theorem Consistent.notForeign_of_project (hw : w.Consistent A) (h : w.InProject tenant fid) :
    w.NotForeign tenant fid :=
  fun f _ hf howner ↦ (hw.owner_eq hf howner).trans (h f hf)

/-- One owner is the only one. -/
theorem Consistent.notForeign_of_owns (hw : w.Consistent A) (h : w.Owns tenant fid) :
    w.NotForeign tenant fid :=
  hw.notForeign_of_project fun _ hf ↦ (hw.owner_eq hf h).symm

/-- A row under any id of the flow settles whose it is. -/
theorem Consistent.notForeign_of_row (hw : w.Consistent A) (hid : A.flow id = some fid)
    (h : w.registry.tenantOf id = some tenant) : w.NotForeign tenant fid :=
  hw.notForeign_of_project fun f hf ↦ (hw.row id fid f tenant hid hf h).symm

end World

/-! ### How the state answers -/

/-- The flow that an operation enables, disables, imports or publishes; a stamp does none of it. -/
def FlowOp.targets (fid : PyStr) : FlowOp → List PyStr
  | .updateMetadata _ => []
  | _ => [fid]

/-- An operation on a flow is executed. -/
def World.Operates (w w' : World) (fid : PyStr) : FlowOp → Prop
  | .updateMetadata metadata => ∃ f, w.flows fid = some f ∧
    w' = w.setFlow fid (some { f with metadata := metadata })
  | _ => (w.flows fid).isSome ∧ w' = w

/-- Some of these flows go away, and no other change of them is seen in the state. -/
def World.Loses (w w' : World) (fids : List PyStr) : Prop :=
  w'.registry = w.registry ∧ ∀ fid, w'.flows fid = w.flows fid ∨ fid ∈ fids ∧ w'.flows fid = none

/-- A row is written under the id, for the tenant. -/
def World.Registers (w w' : World) (tenant id : PyStr) : Prop :=
  w'.flows = w.flows ∧ ∃ row, row.tenantId = tenant ∧ row.flowId = id ∧
    w.registry.upsert row = some w'.registry

section Peer

variable (T : PyText) (A : ApRoutes)

/-- The flows that a call enables, disables, deletes, imports or publishes. -/
def Call.targets : Call → List PyStr
  | .flowOperation fid op => (A.flow (T.str fid)).toList.flatMap (op.targets ·) ++
    A.unseen (T.str fid)
  | .deleteFlow fid => A.reached (T.str fid)
  | .testWebhook fid payload => (A.webhook (T.str fid) payload).toList.flatMap fun p ↦
    p.2.targets p.1
  | .mcpProxy body => A.proxied body
  | _ => []

/-- What executing a call does. A created flow gets an id that stands for itself and that nothing
has used, and a reply with a value names it. -/
def Executes (w : World) (rep : Reply) (w' : World) : Call → Prop
  | .createFlow pid _ => ∃ fid, fid ≠ [] ∧ A.Plain fid ∧ w.flows fid = none ∧
    (∀ id, A.flow id = some fid → w.registry.tenantOf id = none) ∧
    w' = w.setFlow fid (some ⟨pid, .null⟩) ∧
    ∀ v, rep.value? = some v → v.getItem (text "id") = .ok (.str fid)
  | .flowOperation fid op =>
    (∃ target, A.flow (T.str fid) = some target ∧ w.Operates w' target op) ∨
      A.flow (T.str fid) = none ∧ w.Loses w' (A.elsewhere (T.str fid))
  | .deleteFlow fid =>
    (∃ target, A.flow (T.str fid) = some target ∧ (w.flows target).isSome ∧
      w' = w.setFlow target none) ∨
      A.flow (T.str fid) = none ∧ w.Loses w' (A.elsewhere (T.str fid))
  | .testWebhook fid payload =>
    (∃ p, A.webhook (T.str fid) payload = some p ∧ w.Operates w' p.1 p.2) ∨
      A.webhook (T.str fid) payload = none ∧ w' = w
  | .upsertRegistry values => w.Registers w' values.tenantId (T.str values.flowId)
  | .registerEmployee values => w.Registers w' values.tenantId values.flowId
  | .evictRegistry id => w' = { w with registry := w.registry.evict id }
  | .mcpProxy body => w.Loses w' (A.proxied body)
  | _ => w' = w

/-- The value is the flow object. -/
def ApRecord.Shows (f : ApRecord) (v : PyValue) : Prop :=
  v.get "metadata" = .ok f.metadata ∧ v.get "projectId" = .ok (.str f.projectId)

/-- ActivePieces and the database: an answer with a value means that the call was executed, and a
flow that is read is shown as it is. What stands under the URL of no flow may be anything. -/
def apPeer : Peer World Call Reply where
  serves w q rep done w' :=
    (rep.value?.isSome → done = true) ∧
    (∀ id fid v, q = .getFlow id → A.flow (T.str id) = some fid → rep.value? = some v →
      ∃ f, w.flows fid = some f ∧ f.Shows v) ∧
    if done then Executes T A w rep w' q else w' = w

/-- The call is within the rights of the tenant: it touches no flow of another tenant, and claims
flows of the tenant's own project only. -/
def Call.Permitted (w : World) (tenant : PyStr) : Call → Prop
  | .createFlow pid _ => pid = tenant ∧ tenant ≠ []
  | .flowOperation fid op =>
    (∀ target, A.flow (T.str fid) = some target → w.MayOperate tenant target op) ∧
      ∀ fid' ∈ A.unseen (T.str fid), w.NotForeign tenant fid'
  | .testWebhook fid payload =>
    ∀ p, A.webhook (T.str fid) payload = some p → w.MayOperate tenant p.1 p.2
  | .upsertRegistry values => values.tenantId = tenant ∧
    ∀ fid, A.flow (T.str values.flowId) = some fid → w.InProject tenant fid
  | .registerEmployee values => values.tenantId = tenant ∧
    ∀ fid, A.flow values.flowId = some fid → w.InProject tenant fid
  | q => ∀ fid ∈ q.targets T A, w.NotForeign tenant fid

/-- What a tenant has stays with it. -/
structure World.Keeps (w w' : World) (tenant : PyStr) : Prop where
  notForeign : ∀ fid, w.NotForeign tenant fid → w'.NotForeign tenant fid
  inProject : ∀ fid, w.InProject tenant fid → w'.InProject tenant fid

/-- An executed event touches no flow of another tenant. -/
def LawfulFor (tenant : PyStr) (e : Peer.Event World Call Reply) : Prop :=
  e.executed = true → ∀ fid ∈ e.call.targets T A, e.before.NotForeign tenant fid

end Peer

/-! ### The step lemma -/

section Step

variable {T : PyText} {A : ApRoutes} {w w' : World} {tenant fid : PyStr} {q : Call} {rep : Reply}
  {done : Bool} {op : FlowOp}

theorem World.Keeps.refl (w : World) (tenant : PyStr) : w.Keeps w tenant :=
  ⟨fun _ h ↦ h, fun _ h ↦ h⟩

theorem World.Keeps.mayOperate (h : w.Keeps w' tenant) (hmay : w.MayOperate tenant fid op) :
    w'.MayOperate tenant fid op := by
  cases op with
  | updateMetadata metadata => exact ⟨h.inProject fid hmay.1, hmay.2⟩
  | _ => exact h.notForeign fid hmay

/-- An operation within the rights of a tenant changes no flow of another one. -/
theorem World.MayOperate.notForeign (h : w.MayOperate tenant fid op) :
    ∀ fid' ∈ op.targets fid, w.NotForeign tenant fid' := by
  intro fid' hfid'
  cases op with
  | updateMetadata metadata => exact absurd hfid' List.not_mem_nil
  | _ =>
    obtain rfl := List.mem_singleton.1 hfid'
    exact h

/-- Flows that go away, and rows that go away, change no owner. -/
theorem World.shrink (hflows : ∀ fid f, w'.flows fid = some f → w.flows fid = some f)
    (hrows : ∀ id t, w'.registry.tenantOf id = some t → w.registry.tenantOf id = some t)
    (hw : w.Consistent A) : w'.Consistent A ∧ w.Keeps w' tenant := by
  refine ⟨⟨fun fid f hf ↦ hw.project_ne fid f (hflows fid f hf),
    fun fid f hf ↦ hw.plain fid f (hflows fid f hf),
    fun fid f t hf ↦ hw.stamp fid f t (hflows fid f hf),
    fun id fid f t hid hf hrow ↦ hw.row id fid f t hid (hflows fid f hf) (hrows id t hrow)⟩, ?_, ?_⟩
  · rintro fid hnot f owner hf (hrow | ⟨f', hf', hstamp⟩)
    · exact hnot f owner (hflows fid f hf) (.inl (hrows fid owner hrow))
    · exact hnot f owner (hflows fid f hf) (.inr ⟨f', hflows fid f' hf', hstamp⟩)
  · exact fun fid hin f hf ↦ hin f (hflows fid f hf)

theorem World.Loses.keeps {fids : List PyStr} (h : w.Loses w' fids) (hw : w.Consistent A) :
    w'.Consistent A ∧ w.Keeps w' tenant := by
  refine World.shrink (fun fid f hf ↦ ?_) (fun id t ht ↦ h.1 ▸ ht) hw
  rcases h.2 fid with hsame | ⟨-, hgone⟩
  · exact hsame ▸ hf
  · exact absurd (hgone.symm.trans hf) (by simp)

/-- A row of the tenant under an id of a flow of its project. -/
theorem World.Registers.keeps {id : PyStr} (h : w.Registers w' tenant id)
    (hin : ∀ fid, A.flow id = some fid → w.InProject tenant fid) (hw : w.Consistent A) :
    w'.Consistent A ∧ w.Keeps w' tenant := by
  obtain ⟨hflows, row, rfl, rfl, hupsert⟩ := h
  have hrow : ∀ id t, w'.registry.tenantOf id = some t →
      id = row.flowId ∧ t = row.tenantId ∨ w.registry.tenantOf id = some t := by
    intro id t ht
    rw [FlowRegistry.tenantOf_upsert hupsert] at ht
    split at ht
    · rename_i hid
      exact .inl ⟨hid, (Option.some.inj ht).symm⟩
    · exact .inr ht
  refine ⟨⟨?_, ?_, ?_, ?_⟩, ⟨?_, ?_⟩⟩
  · rw [hflows]
    exact hw.project_ne
  · rw [hflows]
    exact hw.plain
  · rw [hflows]
    exact hw.stamp
  · intro id fid f t hid hf ht
    rw [hflows] at hf
    rcases hrow id t ht with ⟨rfl, rfl⟩ | hold
    · exact (hin fid hid f hf).symm
    · exact hw.row id fid f t hid hf hold
  · rintro fid hnot f owner hf (ht | ⟨f', hf', hstamp⟩)
    · rcases hrow fid owner ht with ⟨-, rfl⟩ | hold
      · rfl
      · exact hnot f owner (hflows ▸ hf) (.inl hold)
    · exact hnot f owner (hflows ▸ hf) (.inr ⟨f', hflows ▸ hf', hstamp⟩)
  · intro fid hin' f hf
    exact hin' f (hflows ▸ hf)

/-- One flow is replaced by a flow of the tenant's project, stamped for nobody else. -/
theorem World.setFlow_keeps {f : ApRecord} (hw : w.Consistent A) (hplain : A.Plain fid)
    (hproject : f.projectId = tenant) (hne : tenant ≠ []) (hstamp : ∀ t, f.Names t → t = tenant)
    (hrow : ∀ id t, A.flow id = some fid → w.registry.tenantOf id = some t → t = tenant) :
    (w.setFlow fid (some f)).Consistent A ∧ w.Keeps (w.setFlow fid (some f)) tenant := by
  have hget : ∀ fid' f', (w.setFlow fid (some f)).flows fid' = some f' →
      fid' = fid ∧ f' = f ∨ fid' ≠ fid ∧ w.flows fid' = some f' := by
    intro fid' f' hf'
    rw [World.flows_setFlow] at hf'
    split at hf'
    · rename_i hfid
      exact .inl ⟨hfid, (Option.some.inj hf').symm⟩
    · rename_i hfid
      exact .inr ⟨hfid, hf'⟩
  refine ⟨⟨?_, ?_, ?_, ?_⟩, ⟨?_, ?_⟩⟩
  · intro fid' f' hf'
    rcases hget fid' f' hf' with ⟨rfl, rfl⟩ | ⟨-, hold⟩
    · exact hproject ▸ hne
    · exact hw.project_ne fid' f' hold
  · intro fid' f' hf'
    rcases hget fid' f' hf' with ⟨rfl, rfl⟩ | ⟨-, hold⟩
    · exact hplain
    · exact hw.plain fid' f' hold
  · intro fid' f' t hf' ht
    rcases hget fid' f' hf' with ⟨rfl, rfl⟩ | ⟨-, hold⟩
    · exact (hstamp t ht).trans hproject.symm
    · exact hw.stamp fid' f' t hold ht
  · intro id fid' f' t hid hf' ht
    rcases hget fid' f' hf' with ⟨rfl, rfl⟩ | ⟨-, hold⟩
    · exact (hrow id t hid ht).trans hproject.symm
    · exact hw.row id fid' f' t hid hold ht
  · rintro fid' hnot f' owner hf' howns
    rcases hget fid' f' hf' with ⟨rfl, rfl⟩ | ⟨hfid, hold⟩
    · rcases howns with ht | ⟨f'', hf'', ht⟩
      · exact hrow fid' owner hplain.flow ht
      · obtain rfl := Option.some.inj (hf'.symm.trans hf'')
        exact hstamp owner ht
    · refine hnot f' owner hold (howns.imp_right fun ⟨f'', hf'', ht⟩ ↦ ⟨f'', ?_, ht⟩)
      rwa [World.flows_setFlow, if_neg hfid] at hf''
  · intro fid' hin f' hf'
    rcases hget fid' f' hf' with ⟨-, rfl⟩ | ⟨-, hold⟩
    · exact hproject
    · exact hin f' hold

/-- An operation within the rights of a tenant. -/
theorem World.Operates.keeps (h : w.Operates w' fid op) (hmay : w.MayOperate tenant fid op)
    (hw : w.Consistent A) : w'.Consistent A ∧ w.Keeps w' tenant := by
  cases op with
  | updateMetadata metadata =>
    obtain ⟨hin, hstamp⟩ := hmay
    obtain ⟨f, hf, rfl⟩ := h
    have hproject := hin f hf
    have hnames : ∀ t, ApRecord.Names { f with metadata := metadata } t → t = tenant :=
      fun t ht ↦ ht.unique hstamp
    refine World.setFlow_keeps hw (hw.plain fid f hf) hproject
      (hproject ▸ hw.project_ne fid f hf) hnames fun id t hid ht ↦ ?_
    exact (hw.row id fid f t hid hf ht).trans hproject
  | _ =>
    obtain ⟨-, rfl⟩ := h
    exact ⟨hw, .refl w' tenant⟩

/-- A call within the rights of a tenant touches no flow of another one. -/
theorem Call.Permitted.lawful (h : q.Permitted T A w tenant) :
    ∀ fid ∈ q.targets T A, w.NotForeign tenant fid := by
  intro fid hfid
  cases q with
  | flowOperation target op =>
    rcases List.mem_append.1 hfid with hfid | hfid
    · obtain ⟨resolved, hresolved, hfid⟩ := List.mem_flatMap.1 hfid
      exact (h.1 resolved (Option.mem_toList.1 hresolved)).notForeign fid hfid
    · exact h.2 fid hfid
  | testWebhook target payload =>
    obtain ⟨p, hp, hfid⟩ := List.mem_flatMap.1 hfid
    exact (h p (Option.mem_toList.1 hp)).notForeign fid hfid
  | deleteFlow target => exact h fid hfid
  | mcpProxy body => exact h fid hfid
  | _ => exact absurd hfid List.not_mem_nil

/-- **The step lemma.** A call within the rights of a tenant touches no flow of another one, keeps
the state consistent, and leaves the tenant what it has. -/
theorem served_permitted (hw : w.Consistent A) (hpermitted : q.Permitted T A w tenant)
    (h : (apPeer T A).serves w q rep done w') :
    LawfulFor T A tenant ⟨w, q, rep, done⟩ ∧ w'.Consistent A ∧ w.Keeps w' tenant := by
  obtain ⟨-, -, heffect⟩ := h
  refine ⟨fun _ ↦ hpermitted.lawful, ?_⟩
  cases done with
  | false =>
    obtain rfl : w' = w := heffect
    exact ⟨hw, .refl w' tenant⟩
  | true =>
    replace heffect : Executes T A w rep w' q := heffect
    cases q with
    | createFlow pid name =>
      obtain ⟨rfl, hne⟩ := hpermitted
      obtain ⟨fid, -, hplain, hnone, hrow, rfl, -⟩ := heffect
      refine World.setFlow_keeps hw hplain rfl hne (fun t ht ↦ ?_) fun id t hid ht ↦ ?_
      · exact absurd ht (by simp [ApRecord.Names, PyValue.get, PyValue.getD])
      · exact absurd ((hrow id hid).symm.trans ht) (by simp)
    | flowOperation target op =>
      rcases heffect with ⟨resolved, hresolved, hoperates⟩ | ⟨-, hloses⟩
      · exact hoperates.keeps (hpermitted.1 resolved hresolved) hw
      · exact hloses.keeps hw
    | deleteFlow target =>
      rcases heffect with ⟨resolved, -, -, rfl⟩ | ⟨-, hloses⟩
      · refine World.shrink (fun fid f hf ↦ ?_) (fun _ _ ht ↦ ht) hw
        rw [World.flows_setFlow] at hf
        split at hf
        · exact absurd hf (by simp)
        · exact hf
      · exact hloses.keeps hw
    | testWebhook target payload =>
      rcases heffect with ⟨p, hp, hoperates⟩ | ⟨-, rfl⟩
      · exact hoperates.keeps (hpermitted p hp) hw
      · exact ⟨hw, .refl w' tenant⟩
    | upsertRegistry values =>
      obtain ⟨rfl, hin⟩ := hpermitted
      exact World.Registers.keeps heffect hin hw
    | registerEmployee values =>
      obtain ⟨rfl, hin⟩ := hpermitted
      exact World.Registers.keeps heffect hin hw
    | evictRegistry id =>
      obtain rfl : w' = _ := heffect
      exact World.shrink (fun _ _ hf ↦ hf) (fun _ _ ht ↦ FlowRegistry.tenantOf_evict ht) hw
    | mcpProxy body => exact World.Loses.keeps heffect hw
    | _ =>
      obtain rfl : w' = w := heffect
      exact ⟨hw, .refl w' tenant⟩

end Step

end Siyadah
