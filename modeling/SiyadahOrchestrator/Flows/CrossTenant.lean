import SiyadahOrchestrator.Flows.ApWorld
import SiyadahOrchestrator.Flows.BuildGuarantee
import SiyadahOrchestrator.Gate.VerifiedTenant

/-!
# Flows across tenants

Every authenticated request belongs to a verified tenant. Whatever endpoint it comes in through, the
flows that it enables, disables, deletes, imports or publishes should be no other tenant's.

The REST endpoints keep to that: they ask the gate, or they work on a flow that they have just
created. The MCP tools `manage_flow` and `update_flow` take the flow id from their arguments and ask
nobody, a proxied request goes to the MCP server of ActivePieces as it is, and `test_webhook` posts
to a URL that its caller's id may turn into a flow's. The gate itself has looked at a flow only
where the id leads to one. The theorem about runs therefore has a condition on these requests, and
on nothing else.
-/

namespace Siyadah

open Dialogue SiyadahEngine PyValue

/-! ### Requests -/

/-- A handler that changes no flow and no registry row. -/
structure Reading where
  prog : EngineM PyValue
  reads : Sends (fun c ↦ c.isRead = true) prog

/-- A tool of `_mcp_dispatch`. -/
inductive McpTool where
  | manageFlow (fid action : PyValue)
  | updateFlow (fid : PyValue) (plan : Plan)
  | testWebhook (fid payload : PyValue)
  /-- `build_from_template`, `build_recipe_flow`, `build_dynamic_flow`, `build_from_preset`. -/
  | build (plan : Plan)
  | other (reading : Reading)

/-- A request, with the project ids that its body or its arguments suggest. -/
inductive Request where
  | flowPatch (fid action : PyStr)
  | reimport (bodyPid : Option PyStr) (fid : PyStr) (plan : Plan)
  /-- The building endpoints. -/
  | build (bodyPid : Option PyStr) (plan : Plan)
  /-- The building endpoint that leaves a draft when connections are missing. -/
  | draft (bodyPid : Option PyStr) (plan : Plan)
  | registerEmployee (bodyPid : Option PyStr) (fid : PyStr) (displayName : Option PyStr)
  /-- `/v2/test-webhook/{flow_id}`. -/
  | testWebhook (fid : PyStr) (payload : PyValue)
  /-- `/v2/mcp/execute`. -/
  | mcpExecute (bodyPid : Option PyStr) (tool : McpTool)
  /-- A tool call on an SSE session. -/
  | mcpMessage (session args : Option PyStr) (tool : McpTool)
  /-- `/v2/mcp/proxy`. -/
  | mcpProxy (body : PyValue)
  | other (reading : Reading)

/-- What a request is answered. -/
inductive Answer where
  | status (status : PyStr)
  | updated (publish : Published)
  | reimported (result : ReimportResult)
  | built (result : BuildResult)
  | draft (fid : PyValue)
  | registered (result : EmployeeResult)
  /-- The webhook has answered with this status. -/
  | sent (status : ℕ)
  | value (v : PyValue)
  /-- The tool has failed, and the transport says so in its answer. -/
  | toolError (e : EngineError)

section Handlers

variable (env : BuildEnv) (rows : RegistryRead) (rowId : PyStr) (ownerEmail : Option PyStr)

/-- The plan is made and built. -/
def buildPlan (pid : PyStr) (plan : Plan) : EngineM BuildResult := do
  let (name, trigger) ← plan.prepare
  goldenBuild env { pid, name, trigger, ownerEmail }

/-- `_mcp_dispatch`. -/
def mcpDispatch (pid : PyStr) : McpTool → EngineM Answer
  | .manageFlow fid action => .status <$> manageFlow env.httpx fid action
  | .updateFlow fid plan => .updated <$> updateFlow env.httpx fid plan
  | .testWebhook fid payload => .sent <$> testWebhook env.httpx fid payload
  | .build plan => .built <$> buildPlan env ownerEmail pid plan
  | .other reading => .value <$> reading.prog

/-- Either transport reports a failed tool instead of raising. -/
def reportTool (m : EngineM Answer) : EngineM Answer := handle m fun e ↦ pure (.toolError e)

/-- A request of a verified tenant, up to its answer. -/
def handleRequest (B : VerifiedTenant) : Request → EngineM Answer
  | .flowPatch fid action => .status <$>
    v2FlowPatch env.httpx rows (resolvePid (some B.pid) none env.defaultPid) fid action
  | .reimport bodyPid fid plan => .reimported <$>
    v2Reimport env.httpx rows (resolvePid (some B.pid) bodyPid env.defaultPid) fid plan
  | .build bodyPid plan => .built <$>
    buildPlan env ownerEmail (resolvePid (some B.pid) bodyPid env.defaultPid) plan
  | .draft bodyPid plan => do
    let (name, trigger) ← plan.prepare
    .draft <$> createApVisibleDraftFlow (draftEngine env.httpx)
      (resolvePid (some B.pid) bodyPid env.defaultPid) name env.stampedAt trigger
  | .registerEmployee bodyPid fid displayName => .registered <$>
    v2RegisterEmployee env rows rowId (resolvePid (some B.pid) bodyPid env.defaultPid) fid
      displayName
  | .testWebhook fid payload => .sent <$> testWebhook env.httpx (.str fid) payload
  | .mcpExecute bodyPid tool =>
    reportTool (mcpDispatch env ownerEmail (resolvePid (some B.pid) bodyPid env.defaultPid) tool)
  | .mcpMessage session args tool => do
    let pid ← lift (messagePid session (some B.pid) args env.defaultPid)
    reportTool (mcpDispatch env none pid tool)
  | .mcpProxy body => do
    match ← ask (.mcpProxy body) with
    | .raised e => raise (.client e)
    | .answered resp => .value <$> lift resp.parse
  | .other reading => .value <$> reading.prog

end Handlers

/-! ### What a request does to the flows -/

section Triples

variable {T : PyText} {A : ApRoutes} {env : BuildEnv} {rows : RegistryRead} {tenant fid id : PyStr}
  {α : Type} {m : EngineM α}

/-- The triple of a program that a tenant runs: its events are lawful for the tenant. -/
abbrev TenantTriple (T : PyText) (A : ApRoutes) (tenant : PyStr) (I : World → Prop)
    (m : EngineM α) (K : α → World → Prop) : Prop :=
  Triple (apPeer T A) (LawfulFor T A tenant) I m K (·.Consistent A)

/-- What is known of the id that a program works on: that no flow that it reaches is anybody else's,
and, for a flow that is to be stamped or registered, that it lies in the tenant's project. -/
structure World.Secured (A : ApRoutes) (w : World) (tenant id : PyStr) (owned : Bool) : Prop where
  consistent : w.Consistent A
  notForeign : ∀ fid ∈ A.reached id, w.NotForeign tenant fid
  inProject : owned = true → ∀ fid, A.flow id = some fid → w.InProject tenant fid

/-- The requests of `m` are within the tenant's rights wherever the id is secured. -/
abbrev SendsSecured (T : PyText) (A : ApRoutes) (tenant id : PyStr) (owned : Bool)
    (m : EngineM α) : Prop :=
  Sends (fun q ↦ ∀ w : World, w.Secured A tenant id owned → q.Permitted T A w tenant) m

/-- **Programs on a secured id.** -/
theorem triple_secured {owned : Bool} (hm : SendsSecured T A tenant id owned m) :
    TenantTriple T A tenant (·.Secured A tenant id owned) m fun _ w ↦ w.Consistent A := by
  refine (triple_of_sends (I := (·.Secured A tenant id owned)) hm
    fun w q rep done w' hw hq hserves ↦ ?_).mono (fun _ h ↦ h) (fun _ w h ↦ h.consistent)
    fun w h ↦ h.consistent
  obtain ⟨hlawful, hw', hkeeps⟩ := served_permitted hw.consistent (hq w hw) hserves
  exact ⟨hlawful, hw', fun fid hfid ↦ hkeeps.notForeign fid (hw.notForeign fid hfid),
    fun ho fid hfid ↦ hkeeps.inProject fid (hw.inProject ho fid hfid)⟩

/-- A call that reads changes nothing. -/
theorem served_read (tenant : PyStr) {w w' : World} {q : Call} {rep : Reply} {done : Bool}
    (hq : q.isRead = true) (h : (apPeer T A).serves w q rep done w') :
    LawfulFor T A tenant ⟨w, q, rep, done⟩ ∧ w' = w := by
  obtain ⟨-, -, heffect⟩ := h
  have hread : q.targets T A = [] ∧ (Executes T A w rep w' q → w' = w) := by
    cases q with
    | signIn => exact ⟨rfl, id⟩
    | getFlow _ => exact ⟨rfl, id⟩
    | read _ => exact ⟨rfl, id⟩
    | _ => exact absurd hq (by simp [Call.isRead])
  refine ⟨fun _ fid hfid ↦ absurd (hread.1 ▸ hfid) List.not_mem_nil, ?_⟩
  cases done with
  | true => exact hread.2 heffect
  | false => exact heffect

theorem triple_reads {I : World → Prop} (hm : Sends (fun c ↦ c.isRead = true) m) :
    Triple (apPeer T A) (LawfulFor T A tenant) I m (fun _ ↦ I) I := by
  refine triple_of_sends hm fun w q rep done w' hw hq hserves ↦ ?_
  obtain ⟨hlawful, rfl⟩ := served_read tenant hq hserves
  exact ⟨hlawful, hw⟩

/-- Making a plan changes nothing. -/
theorem triple_prepare {I : World → Prop} (plan : Plan) :
    Triple (apPeer T A) (LawfulFor T A tenant) I plan.prepare (fun _ ↦ I) I :=
  triple_reads plan.reads

/-- A flow that is read is shown as it is. -/
theorem triple_getFlow {X : Httpx} {I : World → Prop} :
    Triple (apPeer T A) (LawfulFor T A tenant) I (getFlow X (.str id))
      (fun v w ↦ I w ∧ ∀ fid, A.flow id = some fid → ∃ f, w.flows fid = some f ∧ f.Shows v) I := by
  refine triple_r (by simp) (fun w rep done w' hw hserves ↦ ?_) fun w rep done w' hw hserves ↦ ?_
  · obtain ⟨hlawful, rfl⟩ := served_read tenant rfl hserves
    exact ⟨hlawful, hw⟩
  · obtain ⟨hlawful, rfl⟩ := served_read tenant rfl hserves
    refine ⟨hlawful, hw, fun v hv fid hfid ↦ ?_⟩
    exact hserves.2.1 (.str id) fid v rfl ((T.str_str id).symm ▸ hfid) hv

/-! #### The gate -/

/-- The registry is read as it is. -/
def RegistryRead.Reads (rows : RegistryRead) (reg : FlowRegistry) : Prop :=
  ∀ reg', rows = some (.ok reg') → reg' = reg

theorem RegistryRead.Reads.tenantOf {reg : FlowRegistry} (h : rows.Reads reg)
    (ht : rows.tenantOf id = some tenant) : reg.tenantOf id = some tenant := by
  unfold RegistryRead.tenantOf at ht
  split at ht
  · rename_i reg'
    rwa [← h reg' rfl]
  · exact absurd ht (by simp)

/-- The metadata that a flow shows names the tenant that it is stamped with. -/
theorem names_of_metadataNames {f : ApRecord} {v : PyValue} (hshows : f.Shows v)
    (h : metadataNames v tenant = .ok true) : f.Names tenant := by
  obtain ⟨metadata, hget, h⟩ := bind_eq_ok_iff.1 h
  obtain rfl := Except.ok.inj (hshows.1.symm.trans hget)
  split at h
  · obtain ⟨named, hnamed, h⟩ := bind_eq_ok_iff.1 h
    obtain rfl := eq_str_of_isStr (Except.ok.inj h)
    cases htruthy : f.metadata.truthy with
    | true => rwa [PyValue.orElse, if_pos htruthy] at hnamed
    | false =>
      rw [PyValue.orElse, htruthy] at hnamed
      exact absurd hnamed (by simp [PyValue.get, PyValue.getD])
  · exact absurd (Except.ok.inj h) (by simp)

/-- What the gate starts from: where the id leads to no flow, what it reaches is nobody else's. -/
structure World.Gated (A : ApRoutes) (rows : RegistryRead) (w : World) (tenant id : PyStr) :
    Prop where
  consistent : w.Consistent A
  reads : rows.Reads w.registry
  unseen : ∀ fid ∈ A.unseen id, w.NotForeign tenant fid

/-- The flow that the id leads to is the only one that the gate has to look at. -/
theorem World.Gated.reached {w : World} (h : w.Gated A rows tenant id)
    (hflow : ∀ fid, A.flow id = some fid → w.NotForeign tenant fid) :
    ∀ fid ∈ A.reached id, w.NotForeign tenant fid := by
  intro fid hfid
  rcases ApRoutes.mem_reached.1 hfid with hfid | hfid
  · exact hflow fid hfid
  · exact h.unseen fid hfid

/-- **The gate.** Behind it, what the id reaches is nobody else's. -/
theorem triple_assertFlowOwnership {X : Httpx} :
    TenantTriple T A tenant (·.Gated A rows tenant id) (assertFlowOwnership X rows id tenant)
      fun _ w ↦ w.Secured A tenant id false := by
  have hbelongs : TenantTriple T A tenant (·.Gated A rows tenant id)
      (flowBelongsTo X rows id tenant) fun owns w ↦ w.Consistent A ∧
        (owns = true → ∀ fid ∈ A.reached id, w.NotForeign tenant fid) := by
    unfold flowBelongsTo
    split
    · exact triple_pure fun w h ↦ ⟨h.consistent, fun ho ↦ absurd ho (by simp)⟩
    · split
      · rename_i named hnamed
        refine triple_pure fun w h ↦ ⟨h.consistent, fun ho ↦ h.reached fun fid hfid ↦ ?_⟩
        obtain rfl := of_decide_eq_true ho
        exact h.consistent.notForeign_of_row hfid (h.reads.tenantOf hnamed)
      · have hread : Triple (apPeer T A) (LawfulFor T A tenant) (·.Gated A rows tenant id)
            (do let flow ← getFlow X (.str id); ofPy (metadataNames flow tenant))
            (fun owns w ↦ w.Consistent A ∧
              (owns = true → ∀ fid ∈ A.reached id, w.NotForeign tenant fid))
            (·.Consistent A) := by
          refine (triple_getFlow.mono (fun _ h ↦ h) (fun _ _ h ↦ h) fun _ h ↦ h.consistent).bind
            fun v ↦ triple_ofPy (fun owns w hnames h ↦ ⟨h.1.consistent, fun ho ↦ ?_⟩)
              fun w h ↦ h.1.consistent
          refine h.1.reached fun fid hfid ↦ ?_
          obtain ⟨f, hf, hshows⟩ := h.2 fid hfid
          exact h.1.consistent.notForeign_of_owns
            (.inr ⟨f, hf, names_of_metadataNames hshows (ho ▸ hnames)⟩)
        exact hread.handle fun e ↦ triple_pure fun w h ↦ ⟨h, fun ho ↦ absurd ho (by simp)⟩
  refine hbelongs.bind fun owns ↦ ?_
  split
  · rename_i ho
    exact triple_pure fun w h ↦ ⟨h.1, h.2 ho, fun h ↦ absurd h (by simp)⟩
  · exact triple_raise fun w h ↦ h.1

/-! #### Flows that exist -/

/-- An operation where the id reaches nobody else's flow, other than the stamp. -/
theorem permitted_operation {w : World} {target : PyValue} {op : FlowOp}
    (hop : ∀ metadata, op ≠ .updateMetadata metadata)
    (h : ∀ fid ∈ A.reached (T.str target), w.NotForeign tenant fid) :
    (Call.flowOperation target op).Permitted T A w tenant := by
  refine ⟨fun fid hfid ↦ ?_, fun fid hfid ↦ h fid (ApRoutes.mem_reached.2 (.inr hfid))⟩
  have hnot := h fid (ApRoutes.mem_reached.2 (.inl hfid))
  cases op with
  | updateMetadata metadata => exact absurd rfl (hop metadata)
  | _ => exact hnot

/-- The stamp of a flow of the tenant's project. -/
theorem permitted_stamp {w : World} {target metadata : PyValue}
    (hw : w.Secured A tenant (T.str target) true)
    (hstamp : metadata.get "tenantId" = .ok (.str tenant)) :
    (Call.flowOperation target (.updateMetadata metadata)).Permitted T A w tenant :=
  ⟨fun fid hfid ↦ ⟨hw.inProject rfl fid hfid, hstamp⟩,
    fun fid hfid ↦ hw.notForeign fid (ApRoutes.mem_reached.2 (.inr hfid))⟩

theorem permitted_delete {w : World} {target : PyValue}
    (h : ∀ fid ∈ A.reached (T.str target), w.NotForeign tenant fid) :
    (Call.deleteFlow target).Permitted T A w tenant := h

theorem permitted_of_isRead {w : World} {c : Call} (h : c.isRead = true) :
    c.Permitted T A w tenant := by
  cases c with
  | signIn => exact fun _ hfid ↦ absurd hfid List.not_mem_nil
  | getFlow _ => exact fun _ hfid ↦ absurd hfid List.not_mem_nil
  | read _ => exact fun _ hfid ↦ absurd hfid List.not_mem_nil
  | _ => exact absurd h (by simp [Call.isRead])

theorem secured_flowAction {X : Httpx} {target action : PyValue} {evict : EngineM Unit}
    {unknown : Detail} (hevict : SendsSecured T A tenant (T.str target) false evict) :
    SendsSecured T A tenant (T.str target) false (flowAction X target action evict unknown) :=
  sends_flowAction (fun _ _ hw ↦ permitted_operation (by simp) hw.notForeign)
    (fun _ hw ↦ permitted_delete hw.notForeign) (fun _ _ ↦ permitted_of_isRead rfl) hevict

/-- `v2_flow_patch` asks the gate first. -/
theorem triple_v2FlowPatch {X : Httpx} {action : PyStr} :
    TenantTriple T A tenant (·.Gated A rows tenant id) (v2FlowPatch X rows tenant id action)
      fun _ w ↦ w.Consistent A := by
  refine triple_assertFlowOwnership.bind fun _ ↦ triple_secured ?_
  have hevict : SendsSecured T A tenant (T.str (.str id)) false (evictRow rows id) :=
    sends_evictRow fun _ _ _ hfid ↦ absurd hfid List.not_mem_nil
  have hsends : ∀ action unknown, SendsSecured T A tenant (T.str (.str id)) false
      (flowAction X (.str id) action (evictRow rows id) unknown) :=
    fun _ _ ↦ secured_flowAction hevict
  rw [T.str_str] at hsends
  exact hsends _ _

/-- `v2_reimport` asks the gate first. -/
theorem triple_v2Reimport {X : Httpx} {plan : Plan} :
    TenantTriple T A tenant (·.Gated A rows tenant id) (v2Reimport X rows tenant id plan)
      fun _ w ↦ w.Consistent A := by
  refine triple_assertFlowOwnership.bind fun _ ↦ ?_
  refine ((triple_prepare plan).mono (fun _ h ↦ h) (fun _ _ h ↦ h) fun w h ↦ h.consistent).bind
    fun p ↦ ?_
  have hsends : SendsSecured T A tenant (T.str (.str id)) false (reimportFlow X id p.1 p.2) :=
    sends_reimportFlow (fun _ _ _ hw ↦ permitted_operation (by simp) hw.notForeign)
      (fun _ hw ↦ permitted_operation (by simp) hw.notForeign)
      (fun _ _ hw ↦ permitted_operation (by simp) hw.notForeign)
      (fun _ _ ↦ permitted_of_isRead rfl) fun _ _ ↦ permitted_of_isRead rfl
  rw [T.str_str] at hsends
  refine (triple_secured hsends).handle fun e ↦ ?_
  split
  · exact triple_raise fun _ h ↦ h
  · exact triple_raise fun _ h ↦ h

/-- `manage_flow` and `update_flow` ask nobody: the id has to be secured beforehand. -/
theorem triple_manageFlow {X : Httpx} {target action : PyValue} :
    TenantTriple T A tenant (·.Secured A tenant (T.str target) false) (manageFlow X target action)
      fun _ w ↦ w.Consistent A :=
  triple_secured (secured_flowAction (sends_pure _))

theorem triple_updateFlow {X : Httpx} {target : PyValue} {plan : Plan} :
    TenantTriple T A tenant (·.Secured A tenant (T.str target) false) (updateFlow X target plan)
      fun _ w ↦ w.Consistent A :=
  triple_secured (sends_updateFlow (fun _ hc _ _ ↦ permitted_of_isRead hc)
    (fun _ _ _ hw ↦ permitted_operation (by simp) hw.notForeign)
    (fun _ hw ↦ permitted_operation (by simp) hw.notForeign)
    fun _ _ hw ↦ permitted_operation (by simp) hw.notForeign)

/-- One request within the tenant's rights. -/
theorem triple_of_permitted {q : Call} {I : World → Prop} (hm : Sends (· = q) m)
    (hI : ∀ w, I w → w.Consistent A ∧ q.Permitted T A w tenant)
    (hkeeps : ∀ w w' : World, I w → w'.Consistent A → w.Keeps w' tenant → I w') :
    TenantTriple T A tenant I m fun _ w ↦ w.Consistent A := by
  refine (triple_of_sends (I := I) hm fun w q' rep done w' hw hq hserves ↦ ?_).mono (fun _ h ↦ h)
    (fun _ w h ↦ (hI w h).1) fun w h ↦ (hI w h).1
  subst hq
  obtain ⟨hlawful, hw', hkept⟩ := served_permitted (hI w hw).1 (hI w hw).2 hserves
  exact ⟨hlawful, hkeeps w w' hw hw' hkept⟩

/-- So does `test_webhook`: what it turns out to be has to be within the tenant's rights. -/
theorem triple_testWebhook {X : Httpx} {target payload : PyValue} :
    TenantTriple T A tenant
      (fun w ↦ w.Consistent A ∧ (Call.testWebhook target payload).Permitted T A w tenant)
      (testWebhook X target payload) fun _ w ↦ w.Consistent A := by
  have hsends : Sends (· = Call.testWebhook target payload) (testWebhook X target payload) := by
    have hask : Sends (· = Call.testWebhook target payload)
        (Dialogue.ask (.testWebhook target payload) : EngineM Reply) := sends_ask rfl
    refine sends_ensureClient.bind fun _ ↦ hask.bind fun rep ↦ ?_
    cases rep with
    | raised e => exact sends_raise _
    | answered resp => exact sends_pure _
  refine triple_of_permitted hsends (fun _ h ↦ h) fun w w' h hw' hkeeps ↦ ⟨hw', fun p hp ↦ ?_⟩
  exact hkeeps.mayOperate (h.2 p hp)

/-! #### Flows that are created -/

/-- A creation in the tenant's project returns a flow that the tenant may claim, under an id that
stands for itself. -/
theorem triple_createFlow {X : Httpx} {name : PyStr} (hne : tenant ≠ []) :
    TenantTriple T A tenant (·.Consistent A) (createFlow X tenant name) fun v w ↦
      ∃ fid, (v.getItem (text "id") = .ok (.str fid) ∧ A.Plain fid) ∧
        w.Secured A tenant fid true := by
  refine (triple_r (I := (·.Consistent A)) (K := fun v w ↦ ∃ fid,
      (v.getItem (text "id") = .ok (.str fid) ∧ A.Plain fid) ∧ w.Secured A tenant fid true)
    (by simp) (fun w rep done w' hw hserves ↦ ?_) fun w rep done w' hw hserves ↦ ?_).mono
    (fun _ h ↦ h) (fun _ _ h ↦ h.2) fun _ h ↦ h
  · obtain ⟨hlawful, rfl⟩ := served_read tenant rfl hserves
    exact ⟨hlawful, hw⟩
  · have hpermitted : (Call.createFlow tenant name).Permitted T A w tenant := ⟨rfl, hne⟩
    obtain ⟨hlawful, hw', -⟩ := served_permitted hw hpermitted hserves
    refine ⟨hlawful, hw', fun v hv ↦ ?_⟩
    obtain ⟨hdone, -, heffect⟩ := hserves
    rw [hdone (by rw [hv]; rfl)] at heffect
    obtain ⟨fid, -, hplain, -, -, rfl, hid⟩ := heffect
    have hin : (w.setFlow fid (some ⟨tenant, .null⟩)).InProject tenant fid := by
      intro f hf
      rw [World.flows_setFlow, if_pos rfl] at hf
      obtain rfl := Option.some.inj hf
      rfl
    refine ⟨fid, ⟨hid v hv, hplain⟩, hw', fun fid' hfid' ↦ ?_, fun _ fid' hfid' ↦ ?_⟩
    · rw [hplain.reached] at hfid'
      obtain rfl := List.mem_singleton.1 hfid'
      exact hw'.notForeign_of_project hin
    · obtain rfl := Option.some.inj (hplain.flow.symm.trans hfid')
      exact hin

/-- `golden_build` works on the flow that it has created. -/
theorem triple_goldenBuild {b : BuildRequest} (hne : b.pid ≠ []) :
    TenantTriple T A b.pid (·.Consistent A) (goldenBuild env b) fun _ w ↦ w.Consistent A := by
  have hpid : buildPid env b = b.pid := if_neg hne
  refine (triple_reads sends_preflight).bind fun _ ↦ ?_
  rw [hpid]
  refine (triple_createFlow hne).bind fun flow ↦ ?_
  refine Triple.bind (K := fun x w ↦ ∃ fid, (x = .str fid ∧ A.Plain fid) ∧
      w.Secured A b.pid fid true)
    (triple_ofPy (fun x w hx h ↦ ?_) fun w h ↦ h.choose_spec.2.consistent) fun x ↦
    triple_exists fun fid ↦ triple_of_fact fun h ↦ ?_
  · obtain ⟨fid, ⟨hid, hplain⟩, hsecured⟩ := h
    exact ⟨fid, ⟨Except.ok.inj (hx.symm.trans hid), hplain⟩, hsecured⟩
  · obtain ⟨hx, hplain⟩ := h
    have hstamp : (sovereignMeta env b).get "tenantId" = .ok (.str b.pid) :=
      hpid ▸ sovereignMeta_tenantId env b
    have hstr : T.str x = fid := by rw [hx, T.str_str]
    have hhook : ∀ payload (w : World), w.Secured A b.pid (T.str x) true →
        (Call.testWebhook x payload).Permitted T A w b.pid := by
      intro payload w _ p hp
      rw [hstr, hplain.webhook] at hp
      exact absurd hp (by simp)
    have hsends : SendsSecured T A b.pid (T.str x) true (buildCreated env b x) :=
      sends_buildCreated (fun w hw ↦ permitted_stamp hw hstamp)
        (fun op hop w hw ↦ permitted_operation hop hw.notForeign)
        (fun _ _ ↦ permitted_of_isRead rfl) (fun w hw ↦ permitted_delete hw.notForeign)
        (fun _ _ ↦ permitted_of_isRead rfl) hhook
        fun values hrow w hw ↦ ⟨hrow.tenantId.trans hpid, hrow.flowId ▸ hw.inProject rfl⟩
    rw [hstr] at hsends
    exact triple_secured hsends

/-- So does a draft. -/
theorem triple_createApVisibleDraftFlow {displayName stampedAt : PyStr} {trigger : PyValue}
    (hne : tenant ≠ []) :
    TenantTriple T A tenant (·.Consistent A) (createApVisibleDraftFlow (draftEngine env.httpx)
      tenant displayName stampedAt trigger) fun _ w ↦ w.Consistent A := by
  refine (triple_createFlow hne).bind fun flow ↦ triple_exists fun fid ↦
    triple_of_fact fun h ↦ ?_
  obtain ⟨hdict, hget⟩ := get_of_getItem h.1
  have hid : flow.entryD "id" = .str fid :=
    Except.ok.inj ((get_of_isDict hdict "id").symm.trans hget)
  have hread : ∀ q : Call, q.isRead = true → ∀ w : World,
      w.Secured A tenant (T.str (flow.entryD "id")) true → q.Permitted T A w tenant :=
    fun q hq w _ ↦ permitted_of_isRead hq
  rw [← T.str_str fid, ← hid]
  refine triple_secured ?_
  dsimp only
  split
  · exact sends_raise _
  refine (sends_r_of (fun w hw ↦ permitted_stamp hw (buildSanitizedMetadata_tenantId tenant _))
    (hread _ rfl)).bind fun _ ↦ (sends_r_of (fun w hw ↦ permitted_operation (by simp) hw.notForeign)
    (hread _ rfl)).bind fun _ ↦ (sends_r_of (hread _ rfl) (hread _ rfl)).bind fun after ↦ ?_
  exact (sends_lift _).bind fun _ ↦ sends_pure _

/-- A flow of a project is found there. -/
theorem flowProject_of_shows {f : ApRecord} {v x : PyValue} (hshows : f.Shows v)
    (hne : f.projectId ≠ []) (h : flowProject v = .ok x) : x = .str f.projectId := by
  obtain ⟨project, hproject, h⟩ := bind_eq_ok_iff.1 h
  obtain rfl := Except.ok.inj (hshows.2.symm.trans hproject)
  rw [orGet, if_pos (by simpa [PyValue.truthy] using hne)] at h
  exact (Except.ok.inj h).symm

/-- `register-employee` claims flows of the caller's own project only. -/
theorem triple_v2RegisterEmployee {rowId : PyStr} {displayName : Option PyStr} :
    TenantTriple T A tenant (·.Consistent A)
      (v2RegisterEmployee env rows rowId tenant id displayName) fun _ w ↦ w.Consistent A := by
  refine Triple.bind (K := fun v w ↦ w.Consistent A ∧
      ∀ fid, A.flow id = some fid → ∃ f, w.flows fid = some f ∧ f.Shows v)
    (triple_getFlow.handle fun e ↦ ?_) fun flow ↦ ?_
  · split
    · exact triple_raise fun _ h ↦ h
    · exact triple_raise fun _ h ↦ h
  refine Triple.bind (K := fun x w ↦ w.Consistent A ∧ ∀ fid, A.flow id = some fid →
      ∃ f, w.flows fid = some f ∧ x = .str f.projectId)
    (triple_ofPy (fun x w hx h ↦ ⟨h.1, fun fid hfid ↦ ?_⟩) fun w h ↦ h.1) fun flowPid ↦ ?_
  · obtain ⟨f, hf, hshows⟩ := h.2 fid hfid
    exact ⟨f, hf, flowProject_of_shows hshows (h.1.project_ne fid f hf) hx⟩
  split
  · exact triple_raise fun _ h ↦ h.1
  rename_i hmine
  -- The project is the caller's.
  refine Triple.mono (I := fun w ↦ w.Consistent A ∧
      ∀ fid, A.flow id = some fid → w.InProject tenant fid)
    (K := fun _ w ↦ w.Consistent A) (E := (·.Consistent A)) ?_ (fun w h ↦ ⟨h.1, fun fid hfid ↦ ?_⟩)
    (fun _ _ h ↦ h) fun _ h ↦ h
  swap
  · obtain ⟨f, hf, rfl⟩ := h.2 fid hfid
    have hproject : f.projectId = tenant := by
      have hne := h.1.project_ne fid f hf
      simpa [PyValue.truthy, PyValue.isStr, hne] using hmine
    intro f' hf'
    obtain rfl := Option.some.inj (hf.symm.trans hf')
    exact hproject
  refine Triple.bind (K := fun values w ↦ (values.tenantId = tenant ∧ values.flowId = id) ∧
      w.Consistent A ∧ ∀ fid, A.flow id = some fid → w.InProject tenant fid)
    (triple_ofPy (fun values w hvalues hw ↦ ⟨employeeValues_ok hvalues, hw⟩)
      fun w hw ↦ hw.1) fun values ↦ triple_of_fact fun hvalues ↦ ?_
  obtain ⟨htenant, hid⟩ := hvalues
  have hwrite : ∀ rowId, TenantTriple T A tenant
      (fun w ↦ w.Consistent A ∧ ∀ fid, A.flow id = some fid → w.InProject tenant fid)
      (execute (.registerEmployee { values with rowId := rowId })) fun _ w ↦ w.Consistent A := by
    intro rowId
    refine triple_of_permitted (sends_execute rfl) (fun w hw ↦ ⟨hw.1, htenant, hid ▸ hw.2⟩)
      fun w w' hw hw' hkeeps ↦ ⟨hw', fun fid hfid ↦ hkeeps.inProject fid (hw.2 fid hfid)⟩
  split
  · exact triple_raise fun _ h ↦ h.1
  · exact triple_raise fun _ h ↦ h.1
  · split
    · split
      · exact triple_raise fun _ h ↦ h.1
      · exact (hwrite _).bind fun _ ↦ triple_pure fun _ h ↦ h
    · exact (hwrite values.rowId).bind fun _ ↦ triple_pure fun _ h ↦ h

/-! #### Requests -/

theorem triple_buildPlan {ownerEmail : Option PyStr} {plan : Plan} (hne : tenant ≠ []) :
    TenantTriple T A tenant (·.Consistent A) (buildPlan env ownerEmail tenant plan)
      fun _ w ↦ w.Consistent A :=
  (triple_prepare plan).bind fun p ↦
    triple_goldenBuild (b := { pid := tenant, name := p.1, trigger := p.2, ownerEmail }) hne

/-- What a tool changes without asking the gate is within the tenant's rights. -/
def McpTool.Guarded (T : PyText) (A : ApRoutes) (w : World) (tenant : PyStr) : McpTool → Prop
  | .manageFlow fid _ => ∀ fid' ∈ A.reached (T.str fid), w.NotForeign tenant fid'
  | .updateFlow fid _ => ∀ fid' ∈ A.reached (T.str fid), w.NotForeign tenant fid'
  | .testWebhook fid payload => (Call.testWebhook fid payload).Permitted T A w tenant
  | _ => True

/-- What a request changes without asking the gate, or without the gate having looked at it, is
within the tenant's rights. -/
def Request.Guarded (T : PyText) (A : ApRoutes) (w : World) (tenant : PyStr) : Request → Prop
  | .flowPatch fid _ => ∀ fid' ∈ A.unseen fid, w.NotForeign tenant fid'
  | .reimport _ fid _ => ∀ fid' ∈ A.unseen fid, w.NotForeign tenant fid'
  | .testWebhook fid payload => (Call.testWebhook (.str fid) payload).Permitted T A w tenant
  | .mcpExecute _ tool => tool.Guarded T A w tenant
  | .mcpMessage _ _ tool => tool.Guarded T A w tenant
  | .mcpProxy body => ∀ fid ∈ A.proxied body, w.NotForeign tenant fid
  | _ => True

theorem triple_mcpDispatch {ownerEmail : Option PyStr} {tool : McpTool} (hne : tenant ≠ []) :
    TenantTriple T A tenant (fun w ↦ w.Consistent A ∧ tool.Guarded T A w tenant)
      (mcpDispatch env ownerEmail tenant tool) fun _ w ↦ w.Consistent A := by
  have hsecured : ∀ {target : PyValue} {w : World},
      w.Consistent A ∧ (∀ fid ∈ A.reached (T.str target), w.NotForeign tenant fid) →
      w.Secured A tenant (T.str target) false :=
    fun h ↦ ⟨h.1, h.2, fun ho ↦ absurd ho (by simp)⟩
  cases tool with
  | manageFlow target action =>
    exact (triple_manageFlow.mono (fun w h ↦ hsecured h) (fun _ _ h ↦ h) fun _ h ↦ h).map
  | updateFlow target plan =>
    exact (triple_updateFlow.mono (fun w h ↦ hsecured h) (fun _ _ h ↦ h) fun _ h ↦ h).map
  | testWebhook target payload => exact triple_testWebhook.map
  | build plan =>
    exact ((triple_buildPlan hne).mono (fun _ h ↦ h.1) (fun _ _ h ↦ h) fun _ h ↦ h).map
  | other reading =>
    exact ((triple_reads reading.reads).mono (fun _ h ↦ h.1) (fun _ _ h ↦ h) fun _ h ↦ h).map

theorem triple_reportTool {I : World → Prop} {m : EngineM Answer}
    (hm : TenantTriple T A tenant I m fun _ w ↦ w.Consistent A) :
    TenantTriple T A tenant I (reportTool m) fun _ w ↦ w.Consistent A :=
  Triple.handle hm fun _ ↦ triple_pure fun _ h ↦ h

/-- **Requests.** A request that changes no flow of another tenant behind the gate's back changes no
flow of another tenant at all. -/
theorem triple_handleRequest {rowId : PyStr} {ownerEmail : Option PyStr} {B : VerifiedTenant}
    {request : Request} :
    TenantTriple T A B.pid
      (fun w ↦ (w.Consistent A ∧ rows.Reads w.registry) ∧ request.Guarded T A w B.pid)
      (handleRequest env rows rowId ownerEmail B request) fun _ w ↦ w.Consistent A := by
  have hpid : ∀ bodyPid, resolvePid (some B.pid) bodyPid env.defaultPid = B.pid :=
    fun bodyPid ↦ resolvePid_verified B bodyPid env.defaultPid
  cases request with
  | flowPatch fid action =>
    rw [handleRequest, hpid]
    exact (triple_v2FlowPatch.mono (fun _ h ↦ ⟨h.1.1, h.1.2, h.2⟩) (fun _ _ h ↦ h)
      fun _ h ↦ h).map
  | reimport bodyPid fid plan =>
    rw [handleRequest, hpid]
    exact (triple_v2Reimport.mono (fun _ h ↦ ⟨h.1.1, h.1.2, h.2⟩) (fun _ _ h ↦ h)
      fun _ h ↦ h).map
  | build bodyPid plan =>
    rw [handleRequest, hpid]
    exact ((triple_buildPlan B.nonempty).mono (fun _ h ↦ h.1.1) (fun _ _ h ↦ h) fun _ h ↦ h).map
  | draft bodyPid plan =>
    rw [handleRequest, hpid]
    refine ((triple_prepare plan).mono (fun _ h ↦ h.1.1) (fun _ _ h ↦ h) fun _ h ↦ h).bind
      fun p ↦ ?_
    exact (triple_createApVisibleDraftFlow B.nonempty).map
  | registerEmployee bodyPid fid displayName =>
    rw [handleRequest, hpid]
    exact (triple_v2RegisterEmployee.mono (fun _ h ↦ h.1.1) (fun _ _ h ↦ h) fun _ h ↦ h).map
  | testWebhook fid payload =>
    exact (triple_testWebhook.mono (fun _ h ↦ ⟨h.1.1, h.2⟩) (fun _ _ h ↦ h) fun _ h ↦ h).map
  | mcpExecute bodyPid tool =>
    rw [handleRequest, hpid]
    exact triple_reportTool ((triple_mcpDispatch B.nonempty).mono (fun _ h ↦ ⟨h.1.1, h.2⟩)
      (fun _ _ h ↦ h) fun _ h ↦ h)
  | mcpMessage session args tool =>
    rw [handleRequest]
    refine Triple.bind (K := fun (pid : PyStr) (w : World) ↦ pid = B.pid ∧ w.Consistent A ∧
        tool.Guarded T A w B.pid)
      (triple_lift _ (fun pid w h hw ↦ ⟨messagePid_verified h, hw.1.1, hw.2⟩)
        fun _ w _ hw ↦ hw.1.1) fun pid ↦ triple_of_fact fun h ↦ ?_
    rw [h]
    exact triple_reportTool (triple_mcpDispatch B.nonempty)
  | mcpProxy body =>
    have hsends : Sends (· = Call.mcpProxy body)
        (handleRequest env rows rowId ownerEmail B (.mcpProxy body)) := by
      have hask : Sends (· = Call.mcpProxy body) (Dialogue.ask (.mcpProxy body) : EngineM Reply) :=
        sends_ask rfl
      refine hask.bind fun rep ↦ ?_
      cases rep with
      | raised e => exact sends_raise _
      | answered resp => exact (sends_lift _).bind fun _ ↦ sends_pure _
    refine (triple_of_permitted (I := fun w : World ↦ w.Consistent A ∧
        ∀ fid ∈ A.proxied body, w.NotForeign B.pid fid) hsends (fun w h ↦ h)
      fun w w' h hw' hkeeps ↦ ⟨hw', fun fid hfid ↦ hkeeps.notForeign fid (h.2 fid hfid)⟩).mono
      (fun _ h ↦ ⟨h.1.1, h.2⟩) (fun _ _ h ↦ h) fun _ h ↦ h
  | other reading =>
    exact ((triple_reads reading.reads).mono (fun _ h ↦ h.1.1) (fun _ _ h ↦ h) fun _ h ↦ h).map

end Triples

/-! ### Runs -/

section Runs

variable (T : PyText) (A : ApRoutes)

/-- One request that has been handled: who sent it, the state that it came into, and its events. -/
structure HandledRequest where
  caller : VerifiedTenant
  request : Request
  before : World
  events : List (Peer.Event World Call Reply)

/-- The orchestrator has handled the request, and the state is `w'` afterwards. -/
def HandledRequest.LeadsTo (h : HandledRequest) (w' : World) : Prop :=
  ∃ (env : BuildEnv) (rows : RegistryRead) (rowId : PyStr) (ownerEmail : Option PyStr)
    (eng eng' : Engine) (answer : Except EngineError Answer), env.pyText = T ∧
    rows.Reads h.before.registry ∧
    (handleRequest env rows rowId ownerEmail h.caller h.request).Runs eng
      (h.events.map Peer.Event.exchange) answer eng' ∧
    (apPeer T A).Serves h.before h.events w'

/-- Requests are handled one after the other. -/
inductive HandledRun : World → List HandledRequest → World → Prop where
  | nil (w) : HandledRun w [] w
  | cons {h hs u w'} (head : h.LeadsTo T A u) (tail : HandledRun u hs w') :
      HandledRun h.before (h :: hs) w'

/-- No flow of another tenant is enabled, disabled, deleted, imported or published. -/
def HandledRequest.Lawful (h : HandledRequest) : Prop :=
  ∀ e ∈ h.events, LawfulFor T A h.caller.pid e

/-- **No cross-tenant mutation, in runs that respect the gate.** From any consistent state: if what
MCP tools, proxied requests and `test_webhook` reach, and what the gate has not looked at, is no
flow of another tenant, no request changes one. -/
theorem no_cross_tenant_mutation (w w' : World) (hs : List HandledRequest) (hw : w.Consistent A)
    (hrun : HandledRun T A w hs w')
    (hguarded : ∀ h ∈ hs, h.request.Guarded T A h.before h.caller.pid) :
    (∀ h ∈ hs, h.Lawful T A) ∧ w'.Consistent A := by
  induction hrun with
  | nil w => exact ⟨fun h hh ↦ absurd hh List.not_mem_nil, hw⟩
  | cons head tail ih =>
    rename_i h hs u w'
    obtain ⟨env, rows, rowId, ownerEmail, eng, eng', answer, -, hreads, hprogram, hserves⟩ := head
    obtain ⟨hlawful, hok, herror⟩ := triple_handleRequest eng answer eng' h.before h.events u
      hprogram hserves ⟨⟨hw, hreads⟩, hguarded h List.mem_cons_self⟩
    have hu : u.Consistent A := by
      cases answer with
      | ok a => exact hok a rfl
      | error e => exact herror e rfl
    obtain ⟨hrest, hend⟩ := ih hu fun h' hh' ↦ hguarded h' (List.mem_cons_of_mem _ hh')
    exact ⟨List.forall_mem_cons.2 ⟨hlawful, hrest⟩, hend⟩

end Runs

/-! The first tenant leaves a draft on an ActivePieces that holds nothing yet. -/

/-- An id is cut at its query; behind dots, a webhook's URL is a flow's. -/
def sampleRoutes : ApRoutes where
  flow id := some (id.takeWhile (· ∉ text "?"))
  elsewhere _ := []
  webhook id _ := if (text "../flows/").isPrefixOf id then some (id.drop 9, .lockAndPublish)
    else none
  proxied _ := []

theorem plain_f1 : sampleRoutes.Plain (text "f1") := ⟨by decide, fun _ ↦ rfl⟩

/-- Nothing is there. -/
def emptyWorld : World := ⟨fun _ ↦ none, KeyedTable.empty⟩

/-- The plan of a tree of one trigger. -/
def samplePlan : Plan := ⟨pure (text "Leads", sampleTrigger), sends_pure _⟩

/-- The metadata of the draft. -/
def draftMetadata : PyValue := buildSanitizedMetadata tenantA.pid sampleEnv.stampedAt

/-- The draft is created, but not stamped yet. -/
def createdWorld : World := emptyWorld.setFlow (text "f1") (some ⟨tenantA.pid, .null⟩)

/-- The draft is stamped. -/
def draftWorld : World := createdWorld.setFlow (text "f1") (some ⟨tenantA.pid, draftMetadata⟩)

/-- The flow object of the draft. -/
def draftFlow : PyValue :=
  pyDict [("id", py "f1"), ("projectId", .str tenantA.pid), ("metadata", draftMetadata),
    ("version", pyDict [("trigger", sampleTrigger)])]

/-- The draft of the first tenant. -/
def draftRequest : HandledRequest where
  caller := tenantA
  request := .draft none samplePlan
  before := emptyWorld
  events :=
    [⟨emptyWorld, .createFlow tenantA.pid (text "Leads"), okReply (pyDict [("id", py "f1")]), true⟩,
      ⟨createdWorld, .flowOperation (py "f1") (.updateMetadata draftMetadata), okReply (.dict []),
        true⟩,
      ⟨draftWorld, .flowOperation (py "f1") (.importFlow (text "Leads") sampleTrigger),
        okReply (.dict []), true⟩,
      ⟨draftWorld, .getFlow (py "f1"), okReply draftFlow, true⟩]

theorem draftRequest_leadsTo : draftRequest.LeadsTo sampleEnv.pyText sampleRoutes draftWorld := by
  refine ⟨sampleEnv, none, [], none, sampleEngine, ⟨py "token", true, false⟩,
    .ok (.draft (py "f1")), rfl, fun _ h ↦ absurd h (by simp), ?_, ?_⟩
  · exact ⟨_, _, rfl, _, _, rfl, _, _, rfl, _, _, rfl, rfl, rfl⟩
  · have hcreate : (apPeer sampleEnv.pyText sampleRoutes).serves emptyWorld
        (.createFlow tenantA.pid (text "Leads")) (okReply (pyDict [("id", py "f1")])) true
        createdWorld := by
      refine ⟨fun _ ↦ rfl, fun _ _ _ h ↦ absurd h (by simp), text "f1", by decide, plain_f1, rfl,
        fun _ _ ↦ rfl, rfl, fun v hv ↦ ?_⟩
      obtain rfl := Option.some.inj hv
      rfl
    have hstamp : (apPeer sampleEnv.pyText sampleRoutes).serves createdWorld
        (.flowOperation (py "f1") (.updateMetadata draftMetadata)) (okReply (.dict [])) true
        draftWorld :=
      ⟨fun _ ↦ rfl, fun _ _ _ h ↦ absurd h (by simp),
        .inl ⟨text "f1", plain_f1.flow, ⟨tenantA.pid, .null⟩, rfl, rfl⟩⟩
    have himport : (apPeer sampleEnv.pyText sampleRoutes).serves draftWorld
        (.flowOperation (py "f1") (.importFlow (text "Leads") sampleTrigger)) (okReply (.dict []))
        true draftWorld :=
      ⟨fun _ ↦ rfl, fun _ _ _ h ↦ absurd h (by simp), .inl ⟨text "f1", plain_f1.flow, rfl, rfl⟩⟩
    have hread : (apPeer sampleEnv.pyText sampleRoutes).serves draftWorld (.getFlow (py "f1"))
        (okReply draftFlow) true draftWorld := by
      refine ⟨fun _ ↦ rfl, fun id fid v hid hfid hv ↦ ?_, rfl⟩
      obtain rfl := Option.some.inj hv
      obtain rfl := Call.getFlow.inj hid
      obtain rfl := Option.some.inj (plain_f1.flow.symm.trans hfid)
      exact ⟨⟨tenantA.pid, draftMetadata⟩, rfl, rfl, rfl⟩
    exact .cons hcreate (.cons hstamp (.cons himport (.cons hread (.nil _))))

/-- The draft of the first tenant leaves a consistent state. -/
theorem emptyWorld_consistent : emptyWorld.Consistent sampleRoutes :=
  ⟨fun _ _ h ↦ absurd h (by simp [emptyWorld]), fun _ _ h ↦ absurd h (by simp [emptyWorld]),
    fun _ _ _ h ↦ absurd h (by simp [emptyWorld]),
    fun _ _ _ _ _ h ↦ absurd h (by simp [emptyWorld])⟩

/-- A tenant deletes a flow over `/v2/mcp/execute`. -/
def deletion (caller : VerifiedTenant) (id : PyStr) : HandledRequest where
  caller
  request := .mcpExecute none (.manageFlow (.str id) (py "delete"))
  before := draftWorld
  events := [⟨draftWorld, .deleteFlow (.str id), okReply (.dict []), true⟩]

/-- Under any id of the draft, the draft is deleted. -/
theorem deletion_leadsTo (caller : VerifiedTenant) {id : PyStr}
    (hid : sampleRoutes.flow id = some (text "f1")) :
    (deletion caller id).LeadsTo sampleEnv.pyText sampleRoutes
      (draftWorld.setFlow (text "f1") none) := by
  refine ⟨sampleEnv, none, [], none, sampleEngine, ⟨py "token", true, false⟩,
    .ok (.status (text "DELETED")), rfl, fun _ h ↦ absurd h (by simp), ?_, ?_⟩
  · exact ⟨_, _, rfl, rfl, rfl⟩
  · have hdelete : (apPeer sampleEnv.pyText sampleRoutes).serves draftWorld (.deleteFlow (.str id))
        (okReply (.dict [])) true (draftWorld.setFlow (text "f1") none) :=
      ⟨fun _ ↦ rfl, fun _ _ _ h ↦ absurd h (by simp), .inl ⟨text "f1", hid, rfl, rfl⟩⟩
    exact .cons hdelete (.nil _)

/-- The draft is the first tenant's. -/
theorem draftWorld_owns : draftWorld.Owns tenantA.pid (text "f1") :=
  .inr ⟨⟨tenantA.pid, draftMetadata⟩, rfl, buildSanitizedMetadata_tenantId _ _⟩

/-- The first tenant leaves a draft, and deletes it under an id with a query. -/
theorem no_cross_tenant_mutation_example :
    (∀ h ∈ [draftRequest, deletion tenantA (text "f1?x=1")],
      h.Lawful sampleEnv.pyText sampleRoutes) ∧
      (draftWorld.setFlow (text "f1") none).Consistent sampleRoutes := by
  refine no_cross_tenant_mutation sampleEnv.pyText sampleRoutes emptyWorld _
    [draftRequest, deletion tenantA (text "f1?x=1")] emptyWorld_consistent
    (.cons (h := draftRequest) draftRequest_leadsTo
      (.cons (h := deletion tenantA (text "f1?x=1")) (deletion_leadsTo tenantA (by decide))
        (.nil _))) ?_
  refine List.forall_mem_cons.2 ⟨trivial, List.forall_mem_singleton.2 ?_⟩
  intro fid hfid f owner hf h
  have hreached : sampleRoutes.reached (text "f1?x=1") = [text "f1"] := by decide
  obtain rfl := List.mem_singleton.1 (hreached ▸ hfid)
  obtain rfl : (⟨tenantA.pid, draftMetadata⟩ : ApRecord) = f := Option.some.inj hf
  -- there is no row, and the stamp is the first tenant's
  rcases h with hrow | ⟨f', hf', hstamp⟩
  · have hnone : draftWorld.registry.tenantOf (text "f1") = none := rfl
    exact absurd (hnone.symm.trans hrow) (by simp)
  · obtain rfl : (⟨tenantA.pid, draftMetadata⟩ : ApRecord) = f' := Option.some.inj hf'
    exact hstamp.unique (buildSanitizedMetadata_tenantId _ _)

/-- The first tenant's draft is its own, and the second tenant deletes it. -/
theorem mcp_tool_deletes_foreign_flow :
    ¬∀ (T : PyText) (A : ApRoutes) (w w' : World) (hs : List HandledRequest), w.Consistent A →
      HandledRun T A w hs w' → ∀ h ∈ hs, h.Lawful T A := by
  intro hall
  have hrun : HandledRun sampleEnv.pyText sampleRoutes emptyWorld
      [draftRequest, deletion tenantB (text "f1")] (draftWorld.setFlow (text "f1") none) :=
    .cons (h := draftRequest) draftRequest_leadsTo
      (.cons (h := deletion tenantB (text "f1")) (deletion_leadsTo tenantB plain_f1.flow) (.nil _))
  have hlawful := hall _ _ _ _ _ emptyWorld_consistent hrun (deletion tenantB (text "f1")) (by simp)
  have hforeign := hlawful ⟨draftWorld, .deleteFlow (py "f1"), okReply (.dict []), true⟩
    (List.mem_singleton.2 rfl) rfl (text "f1") (ApRoutes.mem_reached.2 (.inl plain_f1.flow))
    ⟨tenantA.pid, draftMetadata⟩ tenantA.pid rfl draftWorld_owns
  exact absurd hforeign (by decide)

end Siyadah
