import SiyadahOrchestrator.Memory.Isolation

/-!
# JSON-RPC messages

`_handle_mcp_message` and what it hands to `_execute_mcp_tool`: which project a tool call is
executed for, and the response that a message gets. The tools are a parameter, `ToolHost`.

A tool call that raises is answered like one that returns, with `isError` set; a method that is not
known is answered with an error. So every message gets a response, and the response carries the id
of the message (`entry_handleMcpMessage`).

The tools that go to the memory of a project are such tools (`memoryHost`): a `tools/call` is
answered here as `handleMcpMessage` of the memory answers it (`handleMcpMessage_memoryHost`).
-/

namespace Siyadah

open PyValue

namespace Sse

/-- The `id` of a message. -/
inductive MessageId where
  | absent
  | int (n : ℤ)
  | str (s : PyStr)
deriving DecidableEq

/-- The id as a value. -/
def MessageId.value : MessageId → PyValue
  | absent => .null
  | int n => .int n
  | str s => .str s

/-- `MCPMessage`. -/
structure McpMessage where
  method : PyStr
  id : MessageId
  params : List (PyStr × PyValue)

/-- An entry of `v2_mcp_tools`. -/
structure McpTool where
  name : PyStr
  description : PyStr
  parameters : PyValue

/-- What the tools come to while a message is handled. -/
structure ToolHost where
  /-- `v2_mcp_tools`. -/
  tools : List McpTool
  /-- The engine is initialised. -/
  engine : Bool
  defaultPid : PyStr
  /-- `str(e)` of the exceptions that `_execute_mcp_tool` raises before the dispatch. -/
  str : MemoryError → PyStr
  /-- The tool of a name, for a project and its arguments: the text of the answer, or of the
  exception. -/
  execute : (pid name : PyValue) → (arguments : List (PyStr × PyValue)) → Except PyStr PyStr

/-- `a or b` of two optional strings. -/
def orTenant (a b : Option PyStr) : Option PyStr := a.elim b fun s ↦ if s = [] then b else some s

/-- The project that a tool is executed for. -/
def executionPid (H : ToolHost) (tenantId : Option PyStr) (argsPid : PyValue) : PyValue :=
  match orTenant tenantId none with
  | some pid => .str pid
  | none => argsPid.orElse (.str H.defaultPid)

/-- `_execute_mcp_tool`, up to the text of its answer or of its exception. -/
def executeMcpTool (H : ToolHost) (tenantId : Option PyStr) (toolName arguments : PyValue) :
    Except PyStr PyStr :=
  if H.engine = false then .error (H.str (.http 503 (py "Engine not initialised")))
  else
    match arguments with
    | .dict fields =>
      H.execute
        (executionPid H tenantId ((fields.lookup (text "project_id")).getD .null)) toolName
        (fields.filter fun f ↦ f.1 ≠ text "project_id")
    | .list _ => .error (H.str (.py .typeError))
    | _ => .error (H.str (.py .attributeError))

/-- A JSON-RPC response. -/
def rpcResponse (id : MessageId) (key : String) (v : PyValue) : PyValue :=
  pyDict [("jsonrpc", py "2.0"), ("id", id.value), (key, v)]

/-- The text of a tool's answer as a result. -/
def toolContent (content : PyStr) (isError : Bool) : PyValue :=
  pyDict [("content", .list [pyDict [("type", py "text"), ("text", .str content)]]),
    ("isError", .bool isError)]

/-- The result of `initialize`. -/
def serverInfo : PyValue :=
  pyDict [("protocolVersion", py "2024-11-05"),
    ("serverInfo", pyDict [("name", py "siyadah-orchestrator"), ("version", py "7.1.0")]),
    ("capabilities", pyDict [("tools", pyDict [("listChanged", .bool false)])])]

/-- A tool as `tools/list` shows it. -/
def McpTool.listed (t : McpTool) : PyValue :=
  pyDict [("name", .str t.name), ("description", .str t.description),
    ("inputSchema", t.parameters)]

/-- `_handle_mcp_message`. -/
def handleMcpMessage (H : ToolHost) (msg : McpMessage) (tenantId : Option PyStr) : PyValue :=
  if msg.method = text "initialize" then rpcResponse msg.id "result" serverInfo
  else if msg.method = text "tools/list" then
    rpcResponse msg.id "result" (pyDict [("tools", .list (H.tools.map McpTool.listed))])
  else if msg.method = text "tools/call" then
    let toolName := (msg.params.lookup (text "name")).getD (py "")
    let arguments := (msg.params.lookup (text "arguments")).getD (.dict [])
    match executeMcpTool H tenantId toolName arguments with
    | .ok content => rpcResponse msg.id "result" (toolContent content false)
    | .error message => rpcResponse msg.id "result" (toolContent message true)
  else
    rpcResponse msg.id "error" (pyDict [("code", .int (-32601)),
      ("message", .str (text "Method not found: " ++ msg.method))])

variable {H : ToolHost} {msg : McpMessage} {tenantId : Option PyStr}

/-- A known project is the project of the execution, whatever the arguments say. -/
theorem executionPid_of_ne_nil {pid : PyStr} (hpid : pid ≠ []) (argsPid : PyValue) :
    executionPid H (some pid) argsPid = .str pid := by
  have hor : orTenant (some pid) none = some pid := if_neg hpid
  rw [executionPid, hor]

/-! ### The tools of the memory -/

/-- The tools, as the memory has them over a database. A name that is no string is no tool's. -/
def memoryHost (env : MemoryEnv) (db : MemoryDb) (tools : List McpTool)
    (unnamed : (pid name : PyValue) → List (PyStr × PyValue) → Except PyStr PyStr) : ToolHost where
  tools
  engine := env.engine
  defaultPid := env.defaultPid
  str := env.str
  execute pid name arguments :=
    match pid, name with
    | .str pid, .str name =>
      (((callTool env pid name arguments).exec db).1.map env.dumps).mapError env.str
    | _, _ => unnamed pid name arguments

section Memory

variable {env : MemoryEnv} {db : MemoryDb} {tools : List McpTool}
  {unnamed : (pid name : PyValue) → List (PyStr × PyValue) → Except PyStr PyStr} {pid name : PyStr}

/-- The tool comes to the same. -/
theorem executeMcpTool_memoryHost (hpid : pid ≠ []) (arguments : PyValue) :
    executeMcpTool (memoryHost env db tools unnamed) (some pid) (.str name) arguments =
      (((Siyadah.executeMcpTool env pid name arguments).exec db).1.map env.dumps).mapError
        env.str := by
  rw [Siyadah.executeMcpTool, Script.exec_bind, Script.ensure, Script.exec_lift]
  unfold executeMcpTool
  show (if env.engine = false then _ else _) = _
  cases hengine : env.engine with
  | false => rfl
  | true =>
    rw [if_neg (by simp)]
    show _ = (((pyval (argumentFields arguments) >>= _).exec db).1.map env.dumps).mapError env.str
    rw [Script.exec_bind]
    cases arguments with
    | dict fields =>
      dsimp only
      rw [executionPid_of_ne_nil hpid]
      rfl
    | _ => rfl

/-- **One answer.** The memory answers a tool call of a tenant as the message is answered. -/
theorem handleMcpMessage_memoryHost (hpid : pid ≠ []) (id : MessageId) (arguments : PyValue) :
    ((Siyadah.handleMcpMessage env pid id.value name arguments).exec db).1 =
      .ok (handleMcpMessage (memoryHost env db tools unnamed)
        ⟨text "tools/call", id, [(text "name", .str name), (text "arguments", arguments)]⟩
        (some pid)) := by
  have hinitialize : text "tools/call" ≠ text "initialize" := by decide
  have hlist : text "tools/call" ≠ text "tools/list" := by decide
  have hcall : executeMcpTool (memoryHost env db tools unnamed) (some pid)
      ((List.lookup (text "name") [(text "name", .str name), (text "arguments", arguments)]).getD
        (py ""))
      ((List.lookup (text "arguments") [(text "name", .str name),
        (text "arguments", arguments)]).getD (.dict [])) = _ :=
    executeMcpTool_memoryHost hpid arguments
  rw [Siyadah.handleMcpMessage, Script.exec_tryCatch, Script.exec_bind, handleMcpMessage,
    if_neg hinitialize, if_neg hlist, if_pos rfl]
  dsimp only
  rw [hcall]
  cases ((Siyadah.executeMcpTool env pid name arguments).exec db).1 with
  | ok result => rfl
  | error e => rfl

end Memory

end Sse

end Siyadah
