import SiyadahOrchestrator.Build.Catalog
import SiyadahOrchestrator.Gate.VerifiedTenant
import SiyadahOrchestrator.Memory.Endpoints

/-!
# Whose memory a request touches

Registration, ingestion and the MCP tools, over both transports, go by the verified tenant.
`v2_project_hint` and `v2_project_memory` believe the path, and `v2_saas_register` believes the
body, or makes up an id: `MemoryRequest.trusted` is the id that a request is believed.

A request is confined to the rows of one project. So a run of requests of one tenant changes no row
of another project, and shows nothing of these rows, as long as no request is believed the id of
that project.
-/

namespace Siyadah

open PyValue Script

/-! ### Compressed answers -/

mutual

/-- `compress_response`. -/
def compressResponse : PyValue → PyValue
  | .dict fields => .dict (compressFields fields)
  | .list items => .list (compressItems items 5 ++ if 5 < items.length then
      [py ("... +" ++ toString (items.length - 5) ++ " more")] else [])
  | .str s => .str (if 500 < s.length then s.take 500 ++ text "..." else s)
  | v => v

/-- The first items of a list, compressed. -/
def compressItems : List PyValue → ℕ → List PyValue
  | v :: items, n + 1 => compressResponse v :: compressItems items n
  | _, _ => []

/-- The entries of a dictionary that are not blank, compressed. -/
def compressFields : List (PyStr × PyValue) → List (PyStr × PyValue)
  | [] => []
  | f :: fields =>
    if f.2.isBlank then compressFields fields
    else (f.1, compressResponse f.2) :: compressFields fields

end

/-! ### Requests -/

/-- A request to the memory. -/
inductive MemoryRequest where
  /-- `POST /v2/project/register`. -/
  | register (body : ProjectRegisterBody)
  /-- `GET /v2/project/{project_id}/hint`. -/
  | hint (projectId : PyStr)
  /-- `GET /v2/project/{project_id}/memory`. -/
  | memory (projectId : PyStr)
  /-- `POST /v2/identity/ingest`. -/
  | ingest (body : IngestBody)
  /-- `POST /v2/saas/register`. -/
  | saasRegister (body : SaaSRegisterBody)
  /-- `POST /v2/mcp/execute`. -/
  | mcpExecute (projectId : Option PyStr) (connectionIds : List (PyStr × PyStr)) (tool : PyStr)
    (parameters : List (PyStr × PyValue))
  /-- `tools/call` on an SSE session. -/
  | mcpMessage (session : Option PyStr) (id : PyValue) (name : PyStr) (arguments : PyValue)

section Handlers

variable (env : MemoryEnv)

/-- `_mcp_dispatch`. -/
def memoryTool (tool pid : PyStr) (p : PyValue) : MemoryM PyValue :=
  if tool = text "ingest_website" then do
    let url ← pyval (p.getD "url" (py ""))
    ensure url.truthy (.http 400 (py "url is required for ingest_website"))
    match url with
    | .str url => ingestWebsite env (withScheme url) pid
    | _ => lift (.error (.py .attributeError))
  else if tool = text "get_institutional_memory" then getInstitutionalMemory env pid
  else lift (env.tool tool pid p)

/-- `d.pop(key, None)`, as far as the dictionary is concerned. -/
def withoutKey (key : String) (fields : List (PyStr × PyValue)) : List (PyStr × PyValue) :=
  fields.filter fun f ↦ f.1 ≠ text key

/-- `resolve_conns`, as far as it raises: `conns.update(override)`, unless the override is empty. -/
def resolvableConns (fields : List (PyStr × PyValue)) : Except PyError Unit :=
  let override := (fields.lookup (text "connection_ids")).getD .null
  if override.truthy then (toDict override).map fun _ ↦ () else .ok ()

/-- The project id that the fields of a dictionary suggest. -/
def suggestedPid (fields : List (PyStr × PyValue)) : Option PyStr :=
  (fields.lookup (text "project_id")).bind fun
    | .str s => some s
    | _ => none

/-- `_DB_ONLY_TOOLS`. -/
def dbOnlyTools : List PyStr :=
  ["get_institutional_memory", "list_operators", "list_templates", "list_presets"].map text

/-- `v2_mcp_execute`, for the project that `resolve_pid` has come to. The map of the body, whose
values are strings, comes before the one of the parameters. -/
def executeOverRest (pid : PyStr) (connectionIds : List (PyStr × PyStr)) (tool : PyStr)
    (parameters : List (PyStr × PyValue)) : MemoryM PyValue := do
  pyval (if connectionIds.isEmpty then resolvableConns parameters else .ok ())
  ensure (env.engine || dbOnlyTools.contains tool) (.http 503 (py "Engine not initialised"))
  tryCatch (do
    let result ← memoryTool env tool pid (.dict (withoutKey "project_id" parameters))
    let hint ← generateSmartHint env pid "general"
    pure (pyDict [("tool", .str tool), ("success", .bool true),
      ("result", compressResponse result), ("_hint", .str hint)])) fun e ↦
    pure <|
      match e with
      | .http status detail => pyDict [("tool", .str tool), ("success", .bool false),
          ("error", detail), ("status_code", .int status)]
      | e => pyDict [("tool", .str tool), ("success", .bool false), ("error", .str (env.str e))]

/-- The arguments of a tool call over SSE, with the context of the project. -/
def withContext (arguments : List (PyStr × PyValue)) (context : Option PyValue) : PyValue :=
  .dict (context.elim arguments fun c ↦ upsert arguments (text "_system_context") c)

/-- `_execute_mcp_tool`, from the connections on. -/
def callTool (pid name : PyStr) (arguments : List (PyStr × PyValue)) : MemoryM PyValue := do
  pyval (resolvableConns arguments)
  let context ← loadProjectContext env pid
  memoryTool env name pid (withContext (withoutKey "connection_ids" arguments) context)

/-- What `arguments.pop("project_id", None)` can be called on. -/
def argumentFields : PyValue → Except PyError (List (PyStr × PyValue))
  | .dict fields => .ok fields
  | .list _ => .error .typeError
  | _ => .error .attributeError

/-- `_execute_mcp_tool`, for the project of the session or the caller. -/
def executeMcpTool (pid name : PyStr) (arguments : PyValue) : MemoryM PyValue := do
  ensure env.engine (.http 503 (py "Engine not initialised"))
  let fields ← pyval (argumentFields arguments)
  callTool env pid name (withoutKey "project_id" fields)

/-- The JSON-RPC answer of a tool call. -/
def toolAnswer (id : PyValue) (content : PyStr) (isError : Bool) : PyValue :=
  pyDict [("jsonrpc", py "2.0"), ("id", id), ("result", pyDict [
    ("content", .list [pyDict [("type", py "text"), ("text", .str content)]]),
    ("isError", .bool isError)])]

/-- `_handle_mcp_message`, for a `tools/call`. -/
def handleMcpMessage (pid : PyStr) (id : PyValue) (name : PyStr) (arguments : PyValue) :
    MemoryM PyValue :=
  tryCatch (do
    let result ← executeMcpTool env pid name arguments
    pure (toolAnswer id (env.dumps result) false)) fun e ↦ pure (toolAnswer id (env.str e) true)

/-- A request of a verified tenant, up to its answer. -/
def handleMemoryRequest (A : VerifiedTenant) : MemoryRequest → MemoryM PyValue
  | .register body =>
    projectRegister env (resolvePid (some A.pid) body.projectId env.defaultPid) body
  | .hint projectId => projectHint env projectId
  | .memory projectId => projectMemory env projectId
  | .ingest body =>
    identityIngest env (resolvePid (some A.pid) body.projectId env.defaultPid) body
  | .saasRegister body => saasRegister env body
  | .mcpExecute projectId connectionIds tool parameters =>
    executeOverRest env (resolvePid (some A.pid)
      (some (strOr projectId (strOr (suggestedPid parameters) []))) env.defaultPid) connectionIds
      tool parameters
  | .mcpMessage session id name arguments =>
    match messagePid session (some A.pid) none env.defaultPid with
    | .ok pid => handleMcpMessage env pid id name arguments
    | .error _ => lift (.error (.http 403 (py "Session belongs to a different tenant")))

/-- The project id that a request is believed, whoever sends it. -/
def MemoryRequest.trusted : MemoryRequest → Option PyStr
  | .hint projectId => some projectId
  | .memory projectId => some projectId
  | .saasRegister body => some (body.pid env)
  | _ => none

end Handlers

/-! ### Whose rows these are -/

section Confined

variable {env : MemoryEnv} {pid : PyStr} {P : Set PyStr}

theorem confined_memoryTool {tool : PyStr} {p : PyValue} (hpid : pid ∈ P) :
    ConfinedTo P (memoryTool env tool pid p) := by
  unfold memoryTool
  split
  · refine (confined_pyval _).bind fun url ↦ (Confined.ensure _ _).bind fun _ ↦ ?_
    split
    · exact confined_ingestWebsite hpid
    · exact Confined.lift _
  · split
    · exact confined_getInstitutionalMemory hpid
    · exact Confined.lift _

theorem confined_executeOverRest {connectionIds : List (PyStr × PyStr)} {tool : PyStr}
    {parameters : List (PyStr × PyValue)} (hpid : pid ∈ P) :
    ConfinedTo P (executeOverRest env pid connectionIds tool parameters) := by
  refine (confined_pyval _).bind fun _ ↦ (Confined.ensure _ _).bind fun _ ↦
    Confined.tryCatch ?_ fun _ ↦ Confined.pure _
  exact (confined_memoryTool hpid).bind fun _ ↦ (confined_generateSmartHint hpid).bind fun _ ↦
    Confined.pure _

theorem confined_handleMcpMessage {id : PyValue} {name : PyStr} {arguments : PyValue}
    (hpid : pid ∈ P) : ConfinedTo P (handleMcpMessage env pid id name arguments) := by
  have htool : ConfinedTo P (executeMcpTool env pid name arguments) :=
    (Confined.ensure _ _).bind fun _ ↦ (confined_pyval _).bind fun _ ↦
      (confined_pyval _).bind fun _ ↦ (confined_loadProjectContext hpid).bind fun _ ↦
      confined_memoryTool hpid
  exact (htool.bind fun _ ↦ Confined.pure _).tryCatch fun _ ↦ Confined.pure _

/-- **Requests.** A request is confined to the project that it is believed, or to the project of the
tenant that sends it. -/
theorem confined_handleMemoryRequest {A : VerifiedTenant} {request : MemoryRequest}
    (hpid : (request.trusted env).getD A.pid ∈ P) :
    ConfinedTo P (handleMemoryRequest env A request) := by
  have hresolve : ∀ bodyPid, resolvePid (some A.pid) bodyPid env.defaultPid = A.pid :=
    fun bodyPid ↦ resolvePid_verified A bodyPid env.defaultPid
  cases request with
  | register body =>
    rw [handleMemoryRequest, hresolve]
    exact confined_projectRegister hpid
  | hint projectId => exact confined_projectHint hpid
  | memory projectId => exact confined_projectMemory hpid
  | ingest body =>
    rw [handleMemoryRequest, hresolve]
    exact confined_identityIngest hpid
  | saasRegister body => exact confined_saasRegister hpid
  | mcpExecute projectId connectionIds tool parameters =>
    rw [handleMemoryRequest, hresolve]
    exact confined_executeOverRest hpid
  | mcpMessage session id name arguments =>
    rw [handleMemoryRequest]
    split
    · rename_i pid hmessage
      rw [messagePid_verified hmessage]
      exact confined_handleMcpMessage hpid
    · exact Confined.lift _

end Confined

/-! ### Runs -/

/-- The answers to the requests of a tenant, and the database afterwards. Each request meets an
environment of its own. -/
def serveMemory (A : VerifiedTenant) (requests : List (MemoryEnv × MemoryRequest))
    (db : MemoryDb) : List (Except MemoryError PyValue) × MemoryDb :=
  runAll (requests.map fun r ↦ handleMemoryRequest r.1 A r.2) db

/-- **Memory isolation, in runs where no request is believed the other project's id.** No row of the
other project changes, and databases that differ in its rows only give the same answers. -/
theorem memory_isolation (A : VerifiedTenant) (B : PyStr) (hB : B ≠ A.pid)
    (requests : List (MemoryEnv × MemoryRequest))
    (hrequests : ∀ r ∈ requests, r.2.trusted r.1 ≠ some B) (db : MemoryDb) :
    (serveMemory A requests db).2.part B = db.part B ∧
    ∀ db' : MemoryDb, (∀ pid, pid ≠ B → db.part pid = db'.part pid) →
      (serveMemory A requests db).1 = (serveMemory A requests db').1 ∧
      ∀ pid, pid ≠ B →
        (serveMemory A requests db).2.part pid = (serveMemory A requests db').2.part pid := by
  have hconfined : ∀ m ∈ requests.map fun r ↦ handleMemoryRequest r.1 A r.2,
      ConfinedTo (fun pid : PyStr ↦ pid ≠ B) m := by
    intro m hm
    obtain ⟨r, hr, rfl⟩ := List.mem_map.1 hm
    refine confined_handleMemoryRequest ?_
    cases htrusted : r.2.trusted r.1 with
    | none => exact fun h ↦ hB h.symm
    | some pid => exact fun h ↦ hrequests r hr (htrusted.trans (congrArg some h))
  obtain ⟨hframe, hsame⟩ := Confined.runAll hconfined db
  exact ⟨hframe B fun h ↦ h rfl, hsame⟩

/-! The memory of the second tenant's project, and the requests of the first tenant. -/

/-- A database that stores every value as it is and never fails. -/
def sampleMemoryEnv : MemoryEnv where
  pyText := plainText
  errorText _ := []
  dumps := strOf
  defaultPid := text "default"
  online := true
  engine := true
  column _ v := .ok v
  failure _ := none
  scrapeWebsite _ := .error (.runtime (text "FIRECRAWL_API_KEY not configured"))
  analyzeWithClaude _ := .error (.runtime (text "ANTHROPIC_API_KEY not configured"))
  uuid := text "0b0c3c4e-7f1d-4b52-9a3e-3f6f5a1d2c4b"
  now := text "2026-01-01T10:00:00"
  tool _ _ _ := .error (.http 400 (py "Unknown tool"))

/-- Nothing is registered. -/
def emptyMemory : MemoryDb := ⟨[], [], [], []⟩

/-- The second tenant's project is registered. -/
def sampleMemory : MemoryDb := ⟨[⟨tenantB.pid, py "B", text "2026-01-01"⟩], [], [], []⟩

theorem sampleMemory_part (pid : PyStr) (h : pid ≠ tenantB.pid) :
    sampleMemory.part pid = emptyMemory.part pid := by
  have hne : ¬tenantB.pid = pid := fun heq ↦ h heq.symm
  simp [sampleMemory, emptyMemory, MemoryDb.part, rowsOf, hne]

/-- The same, with a website that can be read and analysed. -/
def absorbingEnv : MemoryEnv := { sampleMemoryEnv with
  scrapeWebsite _ := .ok (text "We sell tea.", pyDict [("title", py "Tea")])
  analyzeWithClaude _ := .ok (pyDict [("business_profile", pyDict [("sector", py "retail")]),
    ("knowledge_assets", pyDict [("faqs", .list [pyDict [("q", py "When do you open?")]])])]) }

/-- The first tenant registers its project, has its website read, asks for the memory of its project
over MCP, and over REST. -/
def tenantRequests : List (MemoryEnv × MemoryRequest) :=
  [(absorbingEnv, .register ⟨none, text "A", none, text "en", none, none⟩),
    (absorbingEnv, .ingest ⟨text "tea.example", none, false⟩),
    (absorbingEnv, .mcpExecute none [] (text "get_institutional_memory") []),
    (absorbingEnv, .memory tenantA.pid)]

/-- All four requests are answered, what was read off the website is among the tenant's own rows,
and the other project is left alone. -/
theorem memory_isolation_example :
    (serveMemory tenantA tenantRequests sampleMemory).1.map Except.isOk =
      [true, true, true, true] ∧
    (serveMemory tenantA tenantRequests sampleMemory).2.part tenantA.pid ≠
      sampleMemory.part tenantA.pid ∧
    (serveMemory tenantA tenantRequests sampleMemory).2.part tenantB.pid =
      sampleMemory.part tenantB.pid ∧
    (serveMemory tenantA tenantRequests sampleMemory).1 =
      (serveMemory tenantA tenantRequests emptyMemory).1 := by
  have htrusted : ∀ r ∈ tenantRequests, r.2.trusted r.1 ≠ some tenantB.pid := by
    simp only [tenantRequests, List.forall_mem_cons, List.not_mem_nil, false_implies, implies_true]
    decide
  have h := memory_isolation tenantA tenantB.pid (by decide) tenantRequests htrusted sampleMemory
  refine ⟨by decide +kernel, fun hsame ↦ ?_, h.1, (h.2 emptyMemory sampleMemory_part).1⟩
  have hrows : ((serveMemory tenantA tenantRequests sampleMemory).2.part
      tenantA.pid).knowledge.length = 1 := by decide +kernel
  rw [hsame] at hrows
  exact absurd hrows (by decide +kernel)

/-- The first tenant asks for the second tenant's memory, and gets it. -/
theorem foreign_memory_is_shown :
    ¬∀ (A : VerifiedTenant) (B : PyStr), B ≠ A.pid →
      ∀ (requests : List (MemoryEnv × MemoryRequest)) (db : MemoryDb),
        (serveMemory A requests db).2.part B = db.part B ∧
        ∀ db' : MemoryDb, (∀ pid, pid ≠ B → db.part pid = db'.part pid) →
          (serveMemory A requests db).1 = (serveMemory A requests db').1 := by
  intro hall
  have hsame := (hall tenantA tenantB.pid (by decide)
    [(sampleMemoryEnv, .memory tenantB.pid)] sampleMemory).2 emptyMemory sampleMemory_part
  have hshown : (serveMemory tenantA [(sampleMemoryEnv, .memory tenantB.pid)] sampleMemory).1.map
      Except.isOk = [true] := rfl
  have hmissing : (serveMemory tenantA [(sampleMemoryEnv, .memory tenantB.pid)] emptyMemory).1.map
      Except.isOk = [false] := rfl
  rw [hsame, hmissing] at hshown
  exact absurd hshown (by decide)

end Siyadah
