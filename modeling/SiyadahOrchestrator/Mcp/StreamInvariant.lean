import SiyadahOrchestrator.Mcp.Streams

/-!
# What streams and posts rely on

Only the stream of a session writes what is stored under the session: its entry in Redis, its entry
in the memory of its server, and its queue. So what is stored is a function of where the stream
stands (`Stream.view`), whatever the other machines do.

A post knows of a session only what it has read. `Post.Knows` says that this is the tenant that the
session was given out to, that the queue it has found is the queue of the session, and that the
response it has made is one for that tenant. `Stream.Timely` bounds when it may have read the
session.
-/

namespace Siyadah

namespace Sse

/-! ### What is stored under a session -/

/-- Everything that is stored under a session. -/
@[ext] structure SessionView where
  redis : Option (Session × Time)
  mem : ℕ → Option Session
  queues : ℕ → Option ℕ

/-- Nothing is stored. -/
def SessionView.empty : SessionView := ⟨none, fun _ ↦ none, fun _ ↦ none⟩

namespace SseWorld

variable (w : SseWorld)

/-- What is stored under a session. -/
def view (sid : String) : SessionView :=
  ⟨w.redis.entries (sessionKey sid), fun n ↦ (w.servers n).sessionsMem sid,
    fun n ↦ (w.servers n).queues sid⟩

/-- The sessions that the queues on the heap were made for. -/
def heapIds : List String := w.heap.map StreamQueue.sessionId

variable {w} {sid sid' : String} {n m q q' : ℕ} {session : Session} {e : Envelope}

/-! The memory of a server. -/

theorem servers_atServer (f : SseServer → SseServer) (m : ℕ) :
    (w.atServer n f).servers m = if m = n then f (w.servers n) else w.servers m :=
  Function.update_apply _ _ _ _

theorem mem_remember (sid : String) (m : ℕ) :
    ((w.remember n session).servers m).sessionsMem sid =
      if m = n ∧ sid = session.sessionId then some session else (w.servers m).sessionsMem sid := by
  rw [remember, servers_atServer]
  rcases eq_or_ne m n with rfl | hm
  · rw [if_pos rfl]
    show Function.update _ _ _ _ = _
    rw [Function.update_apply]
    simp
  · rw [if_neg hm, if_neg fun h ↦ hm h.1]

theorem queues_remember (sid : String) (m : ℕ) :
    ((w.remember n session).servers m).queues sid = (w.servers m).queues sid := by
  rw [remember, servers_atServer]
  split_ifs with hm
  · rw [hm]
  · rfl

theorem mem_forget (sid' : String) (m : ℕ) :
    ((w.forget n sid).servers m).sessionsMem sid' =
      if m = n ∧ sid' = sid then none else (w.servers m).sessionsMem sid' := by
  rw [forget, servers_atServer]
  rcases eq_or_ne m n with rfl | hm
  · rw [if_pos rfl]
    show Function.update _ _ _ _ = _
    rw [Function.update_apply]
    simp
  · rw [if_neg hm, if_neg fun h ↦ hm h.1]

theorem queues_forget (sid' : String) (m : ℕ) :
    ((w.forget n sid).servers m).queues sid' =
      if m = n ∧ sid' = sid then none else (w.servers m).queues sid' := by
  rw [forget, servers_atServer]
  rcases eq_or_ne m n with rfl | hm
  · rw [if_pos rfl]
    show Function.update _ _ _ _ = _
    rw [Function.update_apply]
    simp
  · rw [if_neg hm, if_neg fun h ↦ hm h.1]

/-! The view after an operation. -/

theorem view_setex (sid : String) : (w.setex session).view sid =
    if sid = session.sessionId then
      { w.view sid with redis := some (session, w.now + seconds sessionTtl) } else w.view sid := by
  have hentries : (w.setex session).redis.entries (sessionKey sid) =
      if sid = session.sessionId then some (session, w.now + seconds sessionTtl)
      else w.redis.entries (sessionKey sid) := by
    rw [setex]
    show (ExpiringStore.setex _ _ _ _).entries _ = _
    rw [ExpiringStore.entries_setex]
    simp only [sessionKey_injective.eq_iff]
  split_ifs with h
  · rw [if_pos h] at hentries
    exact SessionView.ext hentries rfl rfl
  · rw [if_neg h] at hentries
    exact SessionView.ext hentries rfl rfl

theorem view_remember (sid : String) : (w.remember n session).view sid =
    if sid = session.sessionId then
      { w.view sid with mem := Function.update (w.view sid).mem n (some session) }
    else w.view sid := by
  split_ifs with h
  · refine SessionView.ext rfl (funext fun m ↦ ?_) (funext fun m ↦ queues_remember sid m)
    show ((w.remember n session).servers m).sessionsMem sid =
      Function.update (w.view sid).mem n (some session) m
    rw [mem_remember, Function.update_apply]
    simp [h, view]
  · refine SessionView.ext rfl (funext fun m ↦ ?_) (funext fun m ↦ queues_remember sid m)
    show ((w.remember n session).servers m).sessionsMem sid = _
    rw [mem_remember, if_neg fun hm ↦ h hm.2]
    rfl

/-- What `_save_session` leaves: in Redis, unless the command is not carried out; in memory, unless
Redis answers. -/
theorem view_saveSession {redisReady : Bool} {outcome : CommandOutcome} (sid : String) :
    (w.saveSession redisReady outcome n session).view sid =
      if sid = session.sessionId then
        { w.view sid with
          redis := if redisReady && outcome ≠ .raised false then
            some (session, w.now + seconds sessionTtl) else (w.view sid).redis
          mem := if !redisReady || outcome ≠ .answered then
            Function.update (w.view sid).mem n (some session) else (w.view sid).mem }
      else w.view sid := by
  rcases redisReady
  · exact view_remember sid
  · rcases outcome with - | applied
    · exact view_setex sid
    · rcases applied
      · exact view_remember sid
      · show ((w.setex session).remember n session).view sid = _
        rw [view_remember, view_setex]
        rcases eq_or_ne sid session.sessionId with h | h
        · simp only [if_pos h]
          rfl
        · simp only [if_neg h]

theorem view_deleteSession {redisReady : Bool} {outcome : CommandOutcome} (sid' : String) :
    (w.deleteSession redisReady outcome sid).view sid' =
      if sid' = sid ∧ (redisReady && outcome ≠ .raised false) = true then
        { w.view sid' with redis := none } else w.view sid' := by
  rw [deleteSession]
  split_ifs with happlied h h
  · have hentries : (w.redis.delete (sessionKey sid)).entries (sessionKey sid') = none := by
      rw [ExpiringStore.entries_delete, h.1, if_pos rfl]
    exact SessionView.ext hentries rfl rfl
  · have hne : sid' ≠ sid := fun he ↦ h ⟨he, happlied⟩
    have hentries : (w.redis.delete (sessionKey sid)).entries (sessionKey sid') =
        w.redis.entries (sessionKey sid') := by
      rw [ExpiringStore.entries_delete, if_neg fun he ↦ hne (sessionKey_injective he)]
    exact SessionView.ext hentries rfl rfl
  · exact absurd h.2 happlied
  · rfl

theorem view_forget (sid' : String) : (w.forget n sid).view sid' =
    if sid' = sid then
      { w.view sid' with
        mem := Function.update (w.view sid').mem n none
        queues := Function.update (w.view sid').queues n none }
    else w.view sid' := by
  split_ifs with h
  · refine SessionView.ext rfl (funext fun m ↦ ?_) (funext fun m ↦ ?_)
    · show ((w.forget n sid).servers m).sessionsMem sid' =
        Function.update (w.view sid').mem n none m
      rw [mem_forget, Function.update_apply]
      simp [h, view]
    · show ((w.forget n sid).servers m).queues sid' =
        Function.update (w.view sid').queues n none m
      rw [queues_forget, Function.update_apply]
      simp [h, view]
  · refine SessionView.ext rfl (funext fun m ↦ ?_) (funext fun m ↦ ?_)
    · show ((w.forget n sid).servers m).sessionsMem sid' = _
      rw [mem_forget, if_neg fun hm ↦ h hm.2]
      rfl
    · show ((w.forget n sid).servers m).queues sid' = _
      rw [queues_forget, if_neg fun hm ↦ h hm.2]
      rfl

/-- A queue that is not there is made. -/
theorem getQueue_of_none (h : (w.view sid).queues n = none) :
    w.getQueue n sid = (w.newQueue n sid, w.heap.length) := by
  have hnone : (w.servers n).queues sid = none := h
  rw [getQueue, hnone]

theorem view_newQueue (sid' : String) : (w.newQueue n sid).view sid' =
    if sid' = sid then
      { w.view sid' with queues := Function.update (w.view sid').queues n (some w.heap.length) }
    else w.view sid' := by
  have hmem (m : ℕ) : ((w.newQueue n sid).servers m).sessionsMem sid' =
      (w.servers m).sessionsMem sid' := by
    show (Function.update w.servers n _ m).sessionsMem sid' = _
    rw [Function.update_apply]
    split_ifs with hm
    · rw [hm]
    · rfl
  have hqueues (m : ℕ) : ((w.newQueue n sid).servers m).queues sid' =
      if m = n ∧ sid' = sid then some w.heap.length else (w.servers m).queues sid' := by
    show (Function.update w.servers n _ m).queues sid' = _
    rw [Function.update_apply]
    rcases eq_or_ne m n with rfl | hm
    · rw [if_pos rfl]
      show Function.update _ _ _ _ = _
      rw [Function.update_apply]
      simp
    · rw [if_neg hm, if_neg fun h ↦ hm h.1]
  split_ifs with hsid
  · refine SessionView.ext rfl (funext hmem) (funext fun m ↦ ?_)
    show ((w.newQueue n sid).servers m).queues sid' =
      Function.update (w.view sid').queues n (some w.heap.length) m
    rw [hqueues, Function.update_apply]
    simp [hsid, view]
  · refine SessionView.ext rfl (funext hmem) (funext fun m ↦ ?_)
    show ((w.newQueue n sid).servers m).queues sid' = _
    rw [hqueues, if_neg fun hm ↦ hsid hm.2]
    rfl

theorem heapIds_newQueue : (w.newQueue n sid).heapIds = w.heapIds ++ [sid] :=
  List.map_append

theorem length_heapIds : w.heapIds.length = w.heap.length := List.length_map _

/-- A new queue is empty, and the others are as they were. -/
theorem items_newQueue (q : ℕ) : (w.newQueue n sid).items q = w.items q := by
  unfold items
  show ((w.heap ++ [⟨sid, []⟩])[q]?).elim [] _ = _
  rcases lt_trichotomy q w.heap.length with h | h | h
  · rw [List.getElem?_append_left h]
  · rw [h, List.getElem?_concat_length, List.getElem?_eq_none (le_refl _)]
    rfl
  · rw [List.getElem?_eq_none (by rw [List.length_append, List.length_singleton]; omega),
      List.getElem?_eq_none (by omega)]

/-! The queues. -/

/-- Changing what waits in a queue does not change whom the queue was made for. -/
theorem map_sessionId_modify {f : StreamQueue → StreamQueue}
    (hf : ∀ Q, (f Q).sessionId = Q.sessionId) (q : ℕ) :
    (w.heap.modify q f).map StreamQueue.sessionId = w.heapIds := by
  refine List.ext_getElem? fun i ↦ ?_
  rw [heapIds, List.getElem?_map, List.getElem?_map, List.getElem?_modify]
  rcases w.heap[i]? with - | Q
  · rfl
  · show some (if q = i then f Q else Q).sessionId = some Q.sessionId
    split_ifs
    · rw [hf]
    · rfl

theorem heapIds_put : (w.put q e).heapIds = w.heapIds :=
  map_sessionId_modify (f := fun Q ↦ { Q with items := Q.items ++ [e] }) (fun _ ↦ rfl) q

theorem items_modify {f : StreamQueue → StreamQueue} (q q' : ℕ) :
    (({ w with heap := w.heap.modify q f } : SseWorld)).items q' =
      if q' = q then (w.heap[q]?).elim [] fun Q ↦ (f Q).items else w.items q' := by
  unfold items
  show ((w.heap.modify q f)[q']?).elim [] _ = _
  rw [List.getElem?_modify]
  rcases eq_or_ne q' q with rfl | h
  · rw [if_pos rfl]
    rcases w.heap[q']? with - | Q
    · rfl
    · simp
  · rw [if_neg h]
    rcases w.heap[q']? with - | Q
    · rfl
    · simp [h.symm]

/-- A response that is put waits behind the others. -/
theorem items_put (hq : q < w.heap.length) (q' : ℕ) :
    (w.put q e).items q' = if q' = q then w.items q ++ [e] else w.items q' := by
  rw [put, items_modify]
  unfold items
  rw [List.getElem?_eq_getElem hq]
  rfl

/-- What is taken waited before the others. -/
theorem exists_of_take {r : SseWorld × Envelope} (h : w.take q = some r) :
    w.items q = r.2 :: r.1.items q ∧ (∀ q' ≠ q, r.1.items q' = w.items q') ∧
      r.1.heapIds = w.heapIds ∧ r.1.issued = w.issued ∧ r.1.now = w.now ∧
      ∀ sid, r.1.view sid = w.view sid := by
  unfold take at h
  split at h
  · rename_i e rest hitems
    obtain rfl := Option.some.inj h
    refine ⟨?_, fun q' hq' ↦ ?_, map_sessionId_modify
      (f := fun Q ↦ { Q with items := Q.items.tail }) (fun _ ↦ rfl) q, rfl, rfl, fun _ ↦ rfl⟩
    · show w.items q = e :: SseWorld.items _ q
      rw [items_modify, if_pos rfl]
      unfold items at hitems ⊢
      rcases hQ : w.heap[q]? with - | Q
      · rw [hQ] at hitems
        exact nomatch hitems
      · rw [hQ] at hitems
        have hQitems : Q.items = e :: rest := hitems
        show Q.items = e :: Q.items.tail
        rw [hQitems]
        rfl
    · show SseWorld.items _ q' = _
      rw [items_modify, if_neg hq']
  · exact nomatch h

end SseWorld

/-! ### What a stream has stored -/

namespace Stream

section View

variable (redisReady : ℕ → Bool) (S : Stream)

/-- The session is written to Redis. -/
def inRedis : Bool := redisReady S.server && S.save ≠ .raised false

/-- The session is kept in the memory of its server. -/
def inMemory : Bool := !redisReady S.server || S.save ≠ .answered

/-- The cleanup removes the session from Redis. -/
def removed : Bool := redisReady S.server && S.delete ≠ .raised false

/-- When the session runs out. -/
def expiry : Time := S.savedAt + seconds sessionTtl

/-- What is stored under the session of a stream. -/
def view : SessionView where
  redis :=
    if S.pc = .start ∨ S.inRedis redisReady = false ∨
      ((S.pc = .deleted ∨ S.pc = .closed) ∧ S.removed redisReady = true) then none
    else some (S.session, S.expiry)
  mem n :=
    if n = S.server ∧ S.inMemory redisReady = true ∧ S.pc ≠ .start ∧ S.pc ≠ .closed then
      some S.session
    else none
  queues n := if n = S.server ∧ S.pc ≠ .closed then S.queue else none

/-- The responses that wait for a stream. -/
def waiting (w : SseWorld) : List Envelope := S.queue.elim [] w.items

/-- A response may have been made of a session read at `t`. -/
def Timely (t : Time) : Prop :=
  S.pc ≠ .start ∧ (S.inMemory redisReady = true ∨ t < S.expiry)

end View

/-- What a step of a stream does. -/
inductive Effect (redisReady : ℕ → Bool) (w : SseWorld) (S : Stream) : SseWorld → Stream → Prop
  | save (hpc : S.pc = .start) :
      Effect redisReady w S (w.saveSession (redisReady S.server) S.save S.server S.session)
        { S with pc := .saved, savedAt := w.now }
  | getQueue (hpc : S.pc = .saved) :
      Effect redisReady w S (w.getQueue S.server S.sessionId).1
        { S with pc := .opened, queue := some (w.getQueue S.server S.sessionId).2 }
  | announce (hpc : S.pc = .opened) :
      Effect redisReady w S w { S with
        pc := .listening
        sent := S.sent ++ [.endpoint S.sessionId ("/v2/mcp/messages/" ++ S.sessionId)] }
  | receive (q : ℕ) (r : SseWorld × Envelope) (hpc : S.pc = .listening) (hq : S.queue = some q)
      (htake : w.take q = some r) :
      Effect redisReady w S r.1 { S with sent := S.sent ++ [.message r.2] }
  | ping (hpc : S.pc = .listening) : Effect redisReady w S w { S with sent := S.sent ++ [.ping] }
  | leave (hpc : S.pc = .listening) : Effect redisReady w S w { S with pc := .closing }
  | delete (hpc : S.pc = .closing) :
      Effect redisReady w S (w.deleteSession (redisReady S.server) S.delete S.sessionId)
        { S with pc := .deleted }
  | forget (hpc : S.pc = .deleted) :
      Effect redisReady w S (w.forget S.server S.sessionId) { S with pc := .closed }

end Stream

/-- What a step of a post does. -/
inductive Post.Effect (redisReady : ℕ → Bool) (w : SseWorld) (p : Post) : SseWorld → Post → Prop
  | read (hpc : p.pc = .start) :
      Effect redisReady w p w { p with
        pc := .read (w.readSession (redisReady p.server) p.answers p.posted.sessionId) w.now }
  | judge (raw : Option Session) (t : Time) (hpc : p.pc = .read raw t) :
      Effect redisReady w p w { p with pc := p.judge w raw t }
  | handle (tenant : Option PyStr) (q : ℕ) (t : Time) (hpc : p.pc = .handling tenant q t) :
      Effect redisReady w p w { p with pc := .handled q (p.envelope tenant t) }
  | put (q : ℕ) (e : Envelope) (hpc : p.pc = .handled q e) :
      Effect redisReady w p (w.put q e)
        { p with pc := .answered (.accepted p.posted.sessionId) }

/-- What a move of a machine does. -/
inductive SseProcess.Effect (redisReady : ℕ → Bool) (w : SseWorld) :
    SseProcess → SseWorld → SseProcess → Prop
  | stream {S S' : Stream} {w' : SseWorld} (h : S.Effect redisReady w w' S') :
      Effect redisReady w (.stream S) w' (.stream S')
  | post {p p' : Post} {w' : SseWorld} (h : p.Effect redisReady w w' p') :
      Effect redisReady w (.post p) w' (.post p')

variable {redisReady : ℕ → Bool} {w w' : SseWorld} {S S' : Stream} {p p' : Post}

theorem Stream.effect_of_step (h : S.step redisReady w = some (w', S')) :
    S.Effect redisReady w w' S' := by
  rw [step] at h
  split at h
  · rename_i hpc
    obtain ⟨rfl, rfl⟩ := Prod.mk.inj (Option.some.inj h)
    exact .save hpc
  · rename_i hpc
    obtain ⟨rfl, rfl⟩ := Prod.mk.inj (Option.some.inj h)
    exact .getQueue hpc
  · rename_i hpc
    obtain ⟨rfl, rfl⟩ := Prod.mk.inj (Option.some.inj h)
    exact .announce hpc
  · rename_i hpc
    obtain ⟨rfl, rfl⟩ := Prod.mk.inj (Option.some.inj h)
    exact .delete hpc
  · rename_i hpc
    obtain ⟨rfl, rfl⟩ := Prod.mk.inj (Option.some.inj h)
    exact .forget hpc
  · exact nomatch h
  · exact nomatch h

theorem Stream.effect_of_receive (h : S.receive w = some (w', S')) :
    S.Effect redisReady w w' S' := by
  rw [receive] at h
  split at h
  · rename_i q hpc hq
    obtain ⟨r, htake, heq⟩ := Option.map_eq_some_iff.1 h
    obtain ⟨rfl, rfl⟩ := Prod.mk.inj heq
    exact .receive q r hpc hq htake
  · exact nomatch h

theorem Post.effect_of_step (h : p.step redisReady w = some (w', p')) :
    p.Effect redisReady w w' p' := by
  rw [step] at h
  split at h
  · rename_i hpc
    obtain ⟨rfl, rfl⟩ := Prod.mk.inj (Option.some.inj h)
    exact .read hpc
  · rename_i raw t hpc
    obtain ⟨rfl, rfl⟩ := Prod.mk.inj (Option.some.inj h)
    exact .judge raw t hpc
  · rename_i tenant q t hpc
    obtain ⟨rfl, rfl⟩ := Prod.mk.inj (Option.some.inj h)
    exact .handle tenant q t hpc
  · rename_i q e hpc
    obtain ⟨rfl, rfl⟩ := Prod.mk.inj (Option.some.inj h)
    exact .put q e hpc
  · exact nomatch h

/-- **There is no other kind of move.** -/
theorem SseProcess.effect_of_next {m : SseMove} {x x' : SseProcess}
    (h : next redisReady m w x = some (w', x')) : Effect redisReady w x w' x' := by
  rcases x with S | p
  · unfold next at h
    dsimp only at h
    split_ifs at h
    cases m with
    | step =>
      obtain ⟨⟨w₁, S₁⟩, hstep, heq⟩ := Option.map_eq_some_iff.1 h
      obtain ⟨rfl, rfl⟩ := Prod.mk.inj heq
      exact .stream (Stream.effect_of_step hstep)
    | receive =>
      obtain ⟨⟨w₁, S₁⟩, hreceive, heq⟩ := Option.map_eq_some_iff.1 h
      obtain ⟨rfl, rfl⟩ := Prod.mk.inj heq
      exact .stream (Stream.effect_of_receive hreceive)
    | ping =>
      obtain ⟨S₁, hping, heq⟩ := Option.map_eq_some_iff.1 h
      obtain ⟨rfl, rfl⟩ := Prod.mk.inj heq
      obtain ⟨hpc, hS⟩ := Option.ite_none_right_eq_some.1 hping
      obtain rfl := Option.some.inj hS
      exact .stream (.ping hpc)
    | leave =>
      obtain ⟨S₁, hleave, heq⟩ := Option.map_eq_some_iff.1 h
      obtain ⟨rfl, rfl⟩ := Prod.mk.inj heq
      obtain ⟨hpc, hS⟩ := Option.ite_none_right_eq_some.1 hleave
      obtain rfl := Option.some.inj hS
      exact .stream (.leave hpc)
  · unfold next at h
    dsimp only at h
    split_ifs at h
    cases m with
    | step =>
      obtain ⟨⟨w₁, p₁⟩, hstep, heq⟩ := Option.map_eq_some_iff.1 h
      obtain ⟨rfl, rfl⟩ := Prod.mk.inj heq
      exact .post (Post.effect_of_step hstep)
    | receive | ping | leave => exact nomatch h

/-! ### The assertions -/

/-- The response is one to a message of the session's own tenant, made for that tenant. -/
structure Envelope.Lawful (issued : List (String × Option PyStr)) (sid : String) (e : Envelope) :
    Prop where
  session : e.posted.sessionId = sid
  tenant : ∃ t, (sid, t) ∈ issued ∧ conflict t e.posted.caller = false ∧
    e.tenantId = orTenant t e.posted.caller
  response : ∃ H, e.response = handleMcpMessage H e.posted.message e.tenantId

/-- What the shared state satisfies. -/
structure SseWorld.Consistent (w : SseWorld) : Prop where
  issued : (w.issued.map Prod.fst).Nodup
  redis : ∀ sid s T, (w.view sid).redis = some (s, T) → (sid, s.tenantId) ∈ w.issued
  mem : ∀ sid n s, (w.view sid).mem n = some s → (sid, s.tenantId) ∈ w.issued
  queues : ∀ sid n q, (w.view sid).queues n = some q → w.heapIds[q]? = some sid
  heap : w.heapIds.Nodup
  owned : ∀ sid ∈ w.heapIds, sid ∈ w.issued.map Prod.fst

/-- What a stream may rely on. -/
structure Stream.Relies (redisReady : ℕ → Bool) (w : SseWorld) (S : Stream) : Prop where
  issued : (S.sessionId, S.tenantId) ∈ w.issued
  view : w.view S.sessionId = S.view redisReady
  owns : ∀ q, S.queue = some q → w.heapIds[q]? = some S.sessionId
  unowned : S.queue = none → S.sessionId ∉ w.heapIds
  early : S.pc = .start ∨ S.pc = .saved → S.queue = none
  idle : S.queue = none → S.messages = []
  lawful : ∀ e ∈ S.messages ++ S.waiting w, e.Lawful w.issued S.sessionId
  timely : ∀ e ∈ S.messages ++ S.waiting w, S.Timely redisReady e.readAt

/-- What a post that stands here knows. -/
def PostPc.Knows (w : SseWorld) (posted : Posted) : PostPc → Prop
  | .read raw _ => ∀ s, raw = some s → (posted.sessionId, s.tenantId) ∈ w.issued
  | .handling tenant q _ => (posted.sessionId, tenant) ∈ w.issued ∧
      conflict tenant posted.caller = false ∧ w.heapIds[q]? = some posted.sessionId
  | .handled q e => w.heapIds[q]? = some posted.sessionId ∧ e.Lawful w.issued posted.sessionId
  | .start | .answered _ => True

/-- What a post knows. -/
def Post.Knows (w : SseWorld) (p : Post) : Prop := p.pc.Knows w p.posted

/-- When a post that stands here has read the session of a stream. -/
def PostPc.ReadIn (redisReady : ℕ → Bool) (S : Stream) : PostPc → Prop
  | .read (some _) t => S.pc ≠ .start ∧ t < S.expiry
  | .handling _ _ t => S.Timely redisReady t
  | .handled _ e => S.Timely redisReady e.readAt
  | .start | .read none _ | .answered _ => True

/-- When a post has read the session of a stream. -/
def Post.ReadIn (redisReady : ℕ → Bool) (p : Post) (S : Stream) : Prop := p.pc.ReadIn redisReady S

namespace SseProcess

/-- What a machine may rely on. -/
def Relies (redisReady : ℕ → Bool) (w : SseWorld) : SseProcess → Prop
  | .stream S => S.Relies redisReady w
  | .post p => p.Knows w

/-- What holds between two machines. -/
def Apart (redisReady : ℕ → Bool) : SseProcess → SseProcess → Prop
  | .stream S, .stream S' => S.sessionId ≠ S'.sessionId
  | .post p, .stream S => p.posted.sessionId = S.sessionId → p.ReadIn redisReady S
  | _, .post _ => True

end SseProcess

/-- The invariant. -/
def Invariant (redisReady : ℕ → Bool) (P : SseState) : Prop :=
  P.Holds SseWorld.Consistent (SseProcess.Relies redisReady) (SseProcess.Apart redisReady)

/-! ### What others do -/

/-- What a step of somebody else may change, for who is interested in the session `sid`: the issued
sessions grow, and so does the heap. -/
structure SseWorld.Grows (w w' : SseWorld) : Prop where
  issued : ∀ x ∈ w.issued, x ∈ w'.issued
  heap : ∀ (q : ℕ) sid, w.heapIds[q]? = some sid → w'.heapIds[q]? = some sid

theorem Envelope.Lawful.mono {issued issued' : List (String × Option PyStr)} {sid : String}
    {e : Envelope} (h : e.Lawful issued sid) (hle : ∀ x ∈ issued, x ∈ issued') :
    e.Lawful issued' sid := by
  obtain ⟨t, ht, hconflict, htenant⟩ := h.tenant
  exact ⟨h.session, ⟨t, hle _ ht, hconflict, htenant⟩, h.response⟩

/-- What a post knows stays true. -/
theorem PostPc.Knows.mono {posted : Posted} {pc : PostPc} (h : pc.Knows w posted)
    (hgrow : w.Grows w') : pc.Knows w' posted := by
  cases pc with
  | start | answered => trivial
  | read raw t => exact fun s hs ↦ hgrow.issued _ (h s hs)
  | handling tenant q t => exact ⟨hgrow.issued _ h.1, h.2.1, hgrow.heap _ _ h.2.2⟩
  | handled q e => exact ⟨hgrow.heap _ _ h.1, h.2.mono hgrow.issued⟩

/-- A stream keeps what it relies on, when nothing changes that is its own. -/
theorem Stream.Relies.frame (h : S.Relies redisReady w) (hgrow : w.Grows w')
    (hview : w'.view S.sessionId = w.view S.sessionId)
    (hheap : S.sessionId ∈ w'.heapIds → S.sessionId ∈ w.heapIds)
    (hitems : ∀ q, S.queue = some q → w'.items q = w.items q) : S.Relies redisReady w' := by
  have hwaiting : S.waiting w' = S.waiting w := by
    unfold waiting
    rcases hq : S.queue with - | q
    · rfl
    · exact hitems q hq
  refine ⟨hgrow.issued _ h.issued, hview.trans h.view, fun q hq ↦ hgrow.heap _ _ (h.owns q hq),
    fun hq hmem ↦ h.unowned hq (hheap hmem), h.early, h.idle, fun e he ↦ ?_, fun e he ↦ ?_⟩
  · rw [hwaiting] at he
    exact (h.lawful e he).mono hgrow.issued
  · rw [hwaiting] at he
    exact h.timely e he

end Sse

end Siyadah
