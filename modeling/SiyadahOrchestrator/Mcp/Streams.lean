import SiyadahOrchestrator.Foundations.ExpiringStore
import SiyadahOrchestrator.Foundations.ProcessPool
import SiyadahOrchestrator.Foundations.TransitionSystem
import SiyadahOrchestrator.Mcp.Messages
import SiyadahOrchestrator.Vault.Token

/-!
# MCP over server-sent events

`mcp_sse_connect` opens a stream and gives out a session; `mcp_sse_message` handles a message that
is posted under a session and puts the response in the queue of the stream. Sessions are kept in
Redis for an hour, and in the memory of a server where Redis does not take them. Queues are kept in
the memory of the server that the stream is open on, and nowhere else.

Streams and posts are machines whose steps are the await points, and any number of them interleave
on any number of servers. A machine may die at any step without its cleanup: the server goes down,
or the task is cancelled while it awaits.
-/

namespace Siyadah

open PyValue

namespace Sse

/-! ### What is stored -/

/-- `SESSION_TTL`. -/
def sessionTtl : ℤ := 3600

/-- The key of a session in Redis. -/
def sessionKey (sid : String) : String := "mcp:sess:" ++ sid

theorem sessionKey_injective : Function.Injective sessionKey :=
  fun _ _ h ↦ String.append_right_inj _ |>.1 h

/-- `session_data`. -/
structure Session where
  sessionId : String
  tenantId : Option PyStr
  createdAt : Time
  status : String
deriving DecidableEq

/-- A message as it is posted. -/
structure Posted where
  sessionId : String
  /-- The tenant that `require_tenant` has verified. -/
  caller : Option PyStr
  message : McpMessage

/-- A response in a queue. The queue does not keep what the response answers. -/
structure Envelope where
  response : PyValue
  posted : Posted
  /-- The tenant that the message was handled for. -/
  tenantId : Option PyStr
  /-- When the session was read. -/
  readAt : Time

/-- An `asyncio.Queue`, with the session that it was made for. -/
structure StreamQueue where
  sessionId : String
  items : List Envelope

/-- The memory of a server. -/
structure SseServer where
  /-- `_sessions_mem`. -/
  sessionsMem : String → Option Session
  /-- `_queues`; a queue is named by its place on the heap. -/
  queues : String → Option ℕ

/-- Everything that streams and posts share. -/
structure SseWorld where
  now : Time
  redis : ExpiringStore String Session Time
  servers : ℕ → SseServer
  heap : List StreamQueue
  /-- The sessions given out so far and their tenants; nobody keeps them. -/
  issued : List (String × Option PyStr)

namespace SseWorld

variable (w : SseWorld)

/-- Change the memory of a server. -/
def atServer (n : ℕ) (f : SseServer → SseServer) : SseWorld :=
  { w with servers := Function.update w.servers n (f (w.servers n)) }

/-- `setex` of a session. -/
def setex (session : Session) : SseWorld :=
  { w with
    redis := w.redis.setex (sessionKey session.sessionId) session (w.now + seconds sessionTtl) }

/-- `_sessions_mem[sid] = data`. -/
def remember (n : ℕ) (session : Session) : SseWorld :=
  w.atServer n fun m ↦
    { m with sessionsMem := Function.update m.sessionsMem session.sessionId (some session) }

/-- `_save_session`. -/
def saveSession (redisReady : Bool) (outcome : CommandOutcome) (n : ℕ) (session : Session) :
    SseWorld :=
  if redisReady then
    match outcome with
    | .answered => w.setex session
    | .raised applied => (if applied then w.setex session else w).remember n session
  else w.remember n session

/-- The first half of `_load_session`: what Redis has. -/
def readSession (redisReady answered : Bool) (sid : String) : Option Session :=
  if redisReady && answered then w.redis.get w.now (sessionKey sid) else none

/-- The first half of `_delete_session`. -/
def deleteSession (redisReady : Bool) (outcome : CommandOutcome) (sid : String) : SseWorld :=
  if redisReady && outcome ≠ .raised false then
    { w with redis := w.redis.delete (sessionKey sid) }
  else w

/-- The rest of the cleanup: `_sessions_mem.pop(sid, None)` and `_queues.pop(sid, None)`. -/
def forget (n : ℕ) (sid : String) : SseWorld :=
  w.atServer n fun m ↦
    { sessionsMem := Function.update m.sessionsMem sid none
      queues := Function.update m.queues sid none }

/-- `_queues[sid] = asyncio.Queue()`. -/
def newQueue (n : ℕ) (sid : String) : SseWorld :=
  { w with
    servers := Function.update w.servers n { w.servers n with
      queues := Function.update (w.servers n).queues sid (some w.heap.length) }
    heap := w.heap ++ [⟨sid, []⟩] }

/-- `_get_queue`. -/
def getQueue (n : ℕ) (sid : String) : SseWorld × ℕ :=
  match (w.servers n).queues sid with
  | some q => (w, q)
  | none => (w.newQueue n sid, w.heap.length)

/-- `queue.put`. -/
def put (q : ℕ) (e : Envelope) : SseWorld :=
  { w with heap := w.heap.modify q fun Q ↦ { Q with items := Q.items ++ [e] } }

/-- What waits in a queue. -/
def items (q : ℕ) : List Envelope := (w.heap[q]?).elim [] StreamQueue.items

/-- `queue.get`, when there is something in the queue. -/
def take (q : ℕ) : Option (SseWorld × Envelope) :=
  match w.items q with
  | e :: _ => some ({ w with heap := w.heap.modify q fun Q ↦ { Q with items := Q.items.tail } }, e)
  | [] => none

end SseWorld

/-! ### Streams -/

/-- An event of a stream. -/
inductive SseEvent where
  | endpoint (sessionId messagesUrl : String)
  | message (e : Envelope)
  | ping

/-- Where a stream stands. -/
inductive StreamPc where
  | start
  | saved
  /-- The queue is there, and the response has been returned. -/
  | opened
  /-- In the loop. -/
  | listening
  /-- In `finally`. -/
  | closing
  | deleted
  | closed
deriving DecidableEq, Repr

/-- `mcp_sse_connect` and the generator that it returns. -/
structure Stream where
  server : ℕ
  sessionId : String
  tenantId : Option PyStr
  createdAt : Time
  /-- What becomes of the `setex` and of the `delete`. -/
  save : CommandOutcome
  delete : CommandOutcome
  pc : StreamPc
  killed : Bool
  queue : Option ℕ
  sent : List SseEvent
  /-- When the session was saved; the generator does not keep it. -/
  savedAt : Time

namespace Stream

/-- `session_data` of the stream. -/
def session (S : Stream) : Session := ⟨S.sessionId, S.tenantId, S.createdAt, "connected"⟩

/-- The responses that the stream has carried. -/
def messages (S : Stream) : List Envelope :=
  S.sent.filterMap fun
    | .message e => some e
    | _ => none

/-- A step that depends on nothing but the state. -/
def step (redisReady : ℕ → Bool) (w : SseWorld) (S : Stream) : Option (SseWorld × Stream) :=
  match S.pc with
  | .start => some (w.saveSession (redisReady S.server) S.save S.server S.session,
      { S with pc := .saved, savedAt := w.now })
  | .saved =>
    let r := w.getQueue S.server S.sessionId
    some (r.1, { S with pc := .opened, queue := some r.2 })
  | .opened => some (w, { S with
      pc := .listening
      sent := S.sent ++ [.endpoint S.sessionId ("/v2/mcp/messages/" ++ S.sessionId)] })
  | .closing => some (w.deleteSession (redisReady S.server) S.delete S.sessionId,
      { S with pc := .deleted })
  | .deleted => some (w.forget S.server S.sessionId, { S with pc := .closed })
  | .listening | .closed => none

/-- `queue.get()` returns in time, and the response is sent. -/
def receive (w : SseWorld) (S : Stream) : Option (SseWorld × Stream) :=
  match S.pc, S.queue with
  | .listening, some q =>
    (w.take q).map fun r ↦ (r.1, { S with sent := S.sent ++ [.message r.2] })
  | _, _ => none

/-- `queue.get()` does not return in time. -/
def ping (S : Stream) : Option Stream :=
  if S.pc = .listening then some { S with sent := S.sent ++ [.ping] } else none

/-- The loop ends: the client has left, or the task is cancelled in the loop. -/
def leave (S : Stream) : Option Stream :=
  if S.pc = .listening then some { S with pc := .closing } else none

end Stream

/-! ### Posts -/

/-- What a post is answered. -/
inductive PostAnswer where
  | accepted (sessionId : String)
  | refused (status : ℕ) (detail : String)
deriving DecidableEq, Repr

/-- Where a post stands. -/
inductive PostPc where
  | start
  /-- What Redis has is known. -/
  | read (raw : Option Session) (readAt : Time)
  /-- The session is known and its queue is there. -/
  | handling (sessionTenant : Option PyStr) (queue : ℕ) (readAt : Time)
  | handled (queue : ℕ) (e : Envelope)
  | answered (answer : PostAnswer)

/-- `mcp_sse_message`. -/
structure Post where
  server : ℕ
  posted : Posted
  /-- Redis answers. -/
  answers : Bool
  host : ToolHost
  pc : PostPc
  killed : Bool

/-- The session and the caller belong to different tenants. -/
def conflict (sessionTenant callerTenant : Option PyStr) : Bool :=
  sessionTenant.isSome && callerTenant.isSome && sessionTenant ≠ callerTenant

namespace Post

/-- What follows the loading of the session. -/
def judge (w : SseWorld) (p : Post) (raw : Option Session) (readAt : Time) : PostPc :=
  match raw.or ((w.servers p.server).sessionsMem p.posted.sessionId) with
  | none => .answered (.refused 404
      ("Session '" ++ p.posted.sessionId ++ "' not found or expired"))
  | some session =>
    if conflict session.tenantId p.posted.caller then
      .answered (.refused 403 "Session belongs to a different tenant")
    else
      match (w.servers p.server).queues p.posted.sessionId with
      | none => .answered (.refused 410
          ("Session '" ++ p.posted.sessionId ++ "' stream disconnected"))
      | some q => .handling session.tenantId q readAt

/-- The response to a message, for the tenant of the session or of the caller. -/
def envelope (p : Post) (sessionTenant : Option PyStr) (readAt : Time) : Envelope :=
  let tenantId := orTenant sessionTenant p.posted.caller
  ⟨handleMcpMessage p.host p.posted.message tenantId, p.posted, tenantId, readAt⟩

/-- One atomic step. -/
def step (redisReady : ℕ → Bool) (w : SseWorld) (p : Post) : Option (SseWorld × Post) :=
  match p.pc with
  | .start => some (w, { p with
      pc := .read (w.readSession (redisReady p.server) p.answers p.posted.sessionId) w.now })
  | .read raw readAt => some (w, { p with pc := p.judge w raw readAt })
  | .handling sessionTenant q readAt =>
    some (w, { p with pc := .handled q (p.envelope sessionTenant readAt) })
  | .handled q e =>
    some (w.put q e, { p with pc := .answered (.accepted p.posted.sessionId) })
  | .answered _ => none

end Post

/-! ### The system -/

/-- A machine of the system. -/
inductive SseProcess where
  | stream (S : Stream)
  | post (p : Post)

/-- What a machine does next. -/
inductive SseMove where
  | step
  | receive
  | ping
  | leave
deriving DecidableEq, Repr

namespace SseProcess

/-- One atomic step of a machine. -/
def next (redisReady : ℕ → Bool) (m : SseMove) (w : SseWorld) :
    SseProcess → Option (SseWorld × SseProcess)
  | .stream S =>
    if S.killed then none
    else
      match m with
      | .step => (S.step redisReady w).map fun r ↦ (r.1, .stream r.2)
      | .receive => (S.receive w).map fun r ↦ (r.1, .stream r.2)
      | .ping => S.ping.map fun S' ↦ (w, .stream S')
      | .leave => S.leave.map fun S' ↦ (w, .stream S')
  | .post p =>
    if p.killed then none
    else
      match m with
      | .step => (p.step redisReady w).map fun r ↦ (r.1, .post r.2)
      | _ => none

/-- The machine dies where it stands. -/
def dead : SseProcess → SseProcess
  | .stream S => .stream { S with killed := true }
  | .post p => .post { p with killed := true }

end SseProcess

/-- The state of the system. -/
abbrev SseState := ProcessPool SseWorld SseProcess

/-- What can happen. -/
inductive SseAction where
  /-- Time passes. -/
  | tick (elapsed : ℕ)
  /-- `GET /v2/mcp/sse`; `uuid4` does not give a session id twice. -/
  | connect (server : ℕ) (sessionId : String) (tenantId : Option PyStr)
      (save delete : CommandOutcome)
  /-- `POST /v2/mcp/messages/{session_id}`. -/
  | post (server : ℕ) (posted : Posted) (answers : Bool) (host : ToolHost)
  /-- Machine `i` makes a move. -/
  | advance (m : SseMove) (i : ℕ)
  /-- Machine `i` dies. -/
  | kill (i : ℕ)

/-- Streams and posts interleaved at their await points; `redisReady n` says whether server `n` has
a connection to Redis. -/
def system (redisReady : ℕ → Bool) : TransitionSystem SseState SseAction where
  step P
    | .tick elapsed => some (P.touch { P.store with now := P.store.now + elapsed })
    | .connect server sid tenantId save delete =>
      if sid ∈ P.store.issued.map Prod.fst then none
      else some (P.spawn { P.store with issued := (sid, tenantId) :: P.store.issued }
        [.stream ⟨server, sid, tenantId, P.store.now, save, delete, .start, false, none, [], 0⟩])
    | .post server posted answers host =>
      some (P.spawn P.store [.post ⟨server, posted, answers, host, .start, false⟩])
    | .advance m i => P.advance (SseProcess.next redisReady m) i
    | .kill i => (P.procs[i]?).map fun p ↦ P.kill i p.dead

/-- No stream has been opened yet. -/
def initial (now : Time) : SseState :=
  ⟨⟨now, .empty, fun _ ↦ ⟨fun _ ↦ none, fun _ ↦ none⟩, [], []⟩, []⟩

end Sse

end Siyadah
