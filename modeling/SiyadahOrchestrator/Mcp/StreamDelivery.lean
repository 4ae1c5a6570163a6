import SiyadahOrchestrator.Mcp.StreamSafety

/-!
# What a stream delivers

* A stream carries responses to messages of its own session, posted by its own tenant or by nobody
  in particular, and handled for its own tenant (`messages_of_tenant`).
* What has been sent on a stream and what waits for it is, in order, what has been accepted for its
  session: nothing is lost, doubled or reordered on the way (`sent_append_waiting`).
* A session is never renewed. Where Redis has taken it, the stream is deaf an hour after it was
  opened, though it stays open and pings: no message that is posted then is accepted
  (`accepts_nil_of_expired`). A stream that has cleaned up is deaf, too (`accepts_nil_of_closed`).
-/

namespace Siyadah

namespace Sse

variable {redisReady : ℕ → Bool} {w w' : SseWorld} {S S' R : Stream} {p p' : Post} {x : SseProcess}
  {P Q : SseState} {as bs : List SseAction} {now : Time} {i j : ℕ}

/-! ### Whose responses these are -/

/-- A session is given out once. -/
theorem SseWorld.Consistent.tenant_unique (hw : w.Consistent) {sid : String} {t t' : Option PyStr}
    (h : (sid, t) ∈ w.issued) (h' : (sid, t') ∈ w.issued) : t = t' :=
  congrArg Prod.snd (List.inj_on_of_nodup_map hw.issued h h' rfl)

/-- Tools of which every one answers. -/
def sampleHost : ToolHost := ⟨[], true, text "p0", fun _ ↦ [], fun _ _ _ ↦ .ok (text "done")⟩

/-- A tool call of the first tenant. -/
def samplePosted : Posted :=
  ⟨"s1", some tenantA.pid, ⟨text "tools/call", .int 7, [(text "name", .str (text "tool"))]⟩⟩

/-- The stream is opened. -/
def opening : List SseAction :=
  [.connect 0 "s1" (some tenantA.pid) .answered .answered, .advance .step 0, .advance .step 0,
    .advance .step 0]

/-- A message is posted, handled and received. -/
def exchange : List SseAction :=
  [.post 0 samplePosted true sampleHost, .advance .step 1, .advance .step 1, .advance .step 1,
    .advance .step 1, .advance .receive 0]

theorem exists_run_exchange : ∃ P S e,
    (system fun _ ↦ true).run (initial 0) (opening ++ exchange) = some P ∧
      P.procs[0]? = some (.stream S) ∧ .message e ∈ S.sent :=
  ⟨_, _, _, rfl, rfl, List.mem_cons_of_mem _ List.mem_cons_self⟩

/-- The response that a machine is about to put in the queue of a session. -/
def SseProcess.puts (sid : String) : SseProcess → Option Envelope
  | .stream _ => none
  | .post p =>
    match p.pc with
    | .handled _ e => if p.posted.sessionId = sid then some e else none
    | _ => none

/-- A response is put in the queue of a session, and the message is answered as accepted. -/
def accepts (sid : String) (P : SseState) : SseAction → Option Envelope
  | .advance .step i => (P.procs[i]?).bind (SseProcess.puts sid)
  | _ => none

/-- What is sent and what waits is what has been accepted so far. -/
structure Delivered (trace : String → List Envelope) (P : SseState) : Prop where
  streams : ∀ (i : ℕ) S, P.procs[i]? = some (.stream S) →
    S.messages ++ S.waiting P.store = trace S.sessionId
  others : ∀ sid ∉ P.store.heapIds, trace sid = []

/-- The machines of a state with one machine replaced. -/
theorem streams_of_set {l : List SseProcess} {y : SseProcess}
    (h : (l.set i y)[j]? = some (.stream S)) :
    (j = i ∧ y = .stream S) ∨ (j ≠ i ∧ l[j]? = some (.stream S)) := by
  rcases ProcessPool.getElem?_set_cases h with ⟨hij, hy⟩ | h
  · exact .inl ⟨hij, hy.symm⟩
  · exact .inr h

/-- A move of a machine, with the response that it puts. -/
theorem SseProcess.Effect.delivered {trace : String → List Envelope} {y : SseProcess}
    (heff : Effect redisReady P.store x w' y) (hinv : Invariant redisReady P)
    (hx : P.procs[i]? = some x) (h : Delivered trace P) :
    Delivered (fun sid ↦ trace sid ++ (x.puts sid).toList) ⟨w', P.procs.set i y⟩ := by
  have hrelies := hinv.each i x hx
  cases heff with
  | @stream T T' w' heff =>
    have hnone (sid : String) : (puts sid (.stream T)).toList = [] := rfl
    refine ⟨fun j S hS ↦ ?_, fun sid hsid ↦ ?_⟩
    · show S.messages ++ S.waiting w' = trace S.sessionId ++ _
      rw [hnone, List.append_nil]
      rcases streams_of_set hS with ⟨rfl, hy⟩ | ⟨hne, hS⟩
      · obtain rfl := SseProcess.stream.inj hy
        rw [heff.messages hrelies, heff.fixed.1]
        exact h.streams j T hx
      · have hR : S.Relies redisReady P.store := hinv.each j _ hS
        have hsid : S.sessionId ≠ T.sessionId := hinv.pair j i _ _ hne hS hx
        have hwaiting : S.waiting w' = S.waiting P.store := by
          unfold Stream.waiting
          rcases hq : S.queue with - | q
          · rfl
          · refine heff.items hrelies fun hown ↦ hsid ?_
            exact Option.some.inj ((hR.owns q hq).symm.trans hown)
        rw [hwaiting]
        exact h.streams j S hS
    · show trace sid ++ _ = []
      rw [hnone, List.append_nil]
      refine h.others sid fun hmem ↦ hsid ?_
      obtain ⟨q, hq⟩ := List.mem_iff_getElem?.1 hmem
      exact List.mem_of_getElem? ((heff.grows hrelies).heap q sid hq)
  | @post p p' w' heff =>
    have hprocs (j : ℕ) (S : Stream) (hS : (P.procs.set i (.post p'))[j]? = some (.stream S)) :
        P.procs[j]? = some (.stream S) := by
      rcases streams_of_set hS with ⟨-, hy⟩ | ⟨-, hS⟩
      · exact nomatch hy
      · exact hS
    cases heff with
    | read hpc | judge raw t hpc | handle tenant q t hpc =>
      have hnone (sid : String) : (puts sid (.post p)).toList = [] := by
        rw [puts, hpc]
        rfl
      refine ⟨fun j S hS ↦ ?_, fun sid hsid ↦ ?_⟩
      · show _ = trace S.sessionId ++ _
        rw [hnone, List.append_nil]
        exact h.streams j S (hprocs j S hS)
      · show trace sid ++ _ = []
        rw [hnone, List.append_nil]
        exact h.others sid hsid
    | put q e hpc =>
      have hknown : PostPc.Knows P.store p.posted (.handled q e) := hpc ▸ hrelies
      have hputs (sid : String) : (puts sid (.post p)).toList =
          if p.posted.sessionId = sid then [e] else [] := by
        rw [puts, hpc]
        show (if p.posted.sessionId = sid then some e else none).toList = _
        split_ifs <;> rfl
      have hlt : q < P.store.heap.length := by
        rw [← SseWorld.length_heapIds]
        exact (List.getElem?_eq_some_iff.1 hknown.1).1
      refine ⟨fun j S hS ↦ ?_, fun sid hsid ↦ ?_⟩
      · have hS' := hprocs j S hS
        have hR : S.Relies redisReady P.store := hinv.each j _ hS'
        have hbefore := h.streams j S hS'
        show S.messages ++ S.waiting (P.store.put q e) = trace S.sessionId ++ _
        rw [hputs, ← hbefore, List.append_assoc]
        refine congrArg _ ?_
        unfold Stream.waiting
        rcases hq : S.queue with - | q'
        · -- A queue is there, so it is not for this session.
          have hne : p.posted.sessionId ≠ S.sessionId := fun he ↦
            hR.unowned hq (he ▸ List.mem_of_getElem? hknown.1)
          rw [if_neg hne]
          rfl
        · show (P.store.put q e).items q' = P.store.items q' ++ _
          rw [SseWorld.items_put hlt]
          rcases eq_or_ne q' q with rfl | hne
          · have hsid : p.posted.sessionId = S.sessionId :=
              Option.some.inj (hknown.1.symm.trans (hR.owns q' hq))
            rw [if_pos rfl, if_pos hsid]
          · -- One session has one queue.
            have hsid : p.posted.sessionId ≠ S.sessionId := by
              intro he
              refine hne ?_
              obtain ⟨hq', heq'⟩ := List.getElem?_eq_some_iff.1 (hR.owns q' hq)
              obtain ⟨hq₀, heq₀⟩ := List.getElem?_eq_some_iff.1 hknown.1
              exact (List.Nodup.getElem_inj_iff hinv.store.heap).1
                (heq'.trans (he.symm.trans heq₀.symm))
            rw [if_neg hne, if_neg hsid, List.append_nil]
      · have hids : sid ∉ P.store.heapIds := SseWorld.heapIds_put ▸ hsid
        have hne : p.posted.sessionId ≠ sid := fun he ↦
          hids (he ▸ List.mem_of_getElem? hknown.1)
        show trace sid ++ _ = []
        rw [hputs, if_neg hne, List.append_nil]
        exact h.others sid hids

/-- What an enabled move accepts is what its machine puts. -/
theorem accepts_advance {m : SseMove} {y : SseProcess} (hx : P.procs[i]? = some x)
    (hnext : x.next redisReady m P.store = some (w', y)) (sid : String) :
    accepts sid P (.advance m i) = x.puts sid := by
  cases m with
  | step =>
    show (P.procs[i]?).bind _ = _
    rw [hx]
    rfl
  | receive | ping | leave =>
    rcases x with S | p
    · rfl
    · -- A post makes no other move than its steps.
      unfold SseProcess.next at hnext
      dsimp only at hnext
      split_ifs at hnext

/-- A step of the system, with what it accepts. -/
theorem delivered_of_step {trace : String → List Envelope} {a : SseAction}
    (hinv : Invariant redisReady P) (h : Delivered trace P)
    (hstep : (system redisReady).step P a = some Q) :
    Delivered (fun sid ↦ trace sid ++ (accepts sid P a).toList) Q := by
  cases a with
  | tick elapsed =>
    obtain rfl := Option.some.inj hstep
    refine ⟨fun i S hS ↦ ?_, fun sid hsid ↦ ?_⟩
    · exact (h.streams i S hS).trans (List.append_nil _).symm
    · exact (List.append_nil _).trans (h.others sid hsid)
  | connect server sid tenantId save delete =>
    obtain ⟨hfresh, hQ⟩ := Option.ite_none_left_eq_some.1 hstep
    obtain rfl := Option.some.inj hQ
    refine ⟨fun i S hS ↦ ?_, fun sid hsid ↦ ?_⟩
    · refine Eq.trans ?_ (List.append_nil _).symm
      rcases ProcessPool.getElem?_append_cases hS with ⟨-, hS⟩ | ⟨-, hS⟩
      · exact h.streams i S hS
      · -- Nothing has been accepted for a session before it is given out.
        obtain rfl := SseProcess.stream.inj (List.mem_singleton.1 (List.mem_of_getElem? hS))
        exact (h.others sid fun hmem ↦ hfresh (hinv.store.owned sid hmem)).symm
    · exact (List.append_nil _).trans (h.others sid hsid)
  | post server posted answers host =>
    obtain rfl := Option.some.inj hstep
    refine ⟨fun i S hS ↦ ?_, fun sid hsid ↦ ?_⟩
    · refine Eq.trans ?_ (List.append_nil _).symm
      rcases ProcessPool.getElem?_append_cases hS with ⟨-, hS⟩ | ⟨-, hS⟩
      · exact h.streams i S hS
      · exact nomatch List.mem_singleton.1 (List.mem_of_getElem? hS)
    · exact (List.append_nil _).trans (h.others sid hsid)
  | advance m i =>
    obtain ⟨x, w', y, hx, hnext, rfl⟩ := ProcessPool.advance_eq_some.1 hstep
    have haccepts (sid : String) : accepts sid P (.advance m i) = x.puts sid :=
      accepts_advance hx hnext sid
    simp only [haccepts]
    exact (SseProcess.effect_of_next hnext).delivered hinv hx h
  | kill i =>
    obtain ⟨x, hx, rfl⟩ := Option.map_eq_some_iff.1 hstep
    refine ⟨fun j S hS ↦ ?_, fun sid hsid ↦ ?_⟩
    · refine Eq.trans ?_ (List.append_nil _).symm
      rcases streams_of_set hS with ⟨rfl, hdead⟩ | ⟨-, hS⟩
      · rcases x with T | p
        · obtain rfl := SseProcess.stream.inj hdead
          exact h.streams j T hx
        · exact nomatch hdead
      · exact h.streams j S hS
    · exact (List.append_nil _).trans (h.others sid hsid)

/-- **Nothing is lost, doubled or reordered.** What a stream has carried, followed by what waits for
it, is what has been accepted for its session, in the order of acceptance. -/
theorem sent_append_waiting (hrun : (system redisReady).run (initial now) as = some P)
    (hS : P.procs[i]? = some (.stream S)) :
    S.messages ++ S.waiting P.store =
      (system redisReady).trace (accepts S.sessionId) (initial now) as := by
  have hall : Delivered
      (fun sid ↦ (system redisReady).trace (accepts sid) (initial now) as) P := by
    refine TransitionSystem.history_of_run (J := fun as P ↦ Delivered
      (fun sid ↦ (system redisReady).trace (accepts sid) (initial now) as) P) ?_ ?_ hrun
    · exact ⟨fun i S hS ↦ absurd hS (by simp [initial]), fun _ _ ↦ rfl⟩
    · intro as a u t hu h hstep
      have htrace (sid : String) :
          (system redisReady).trace (accepts sid) (initial now) (as ++ [a]) =
            (system redisReady).trace (accepts sid) (initial now) as ++
              (accepts sid u a).toList :=
        TransitionSystem.trace_concat hu hstep
      simp only [htrace]
      exact delivered_of_step (invariant_of_run_initial hu) h hstep
  exact hall.streams i S hS

theorem sent_append_waiting_sample : ∃ P S,
    (system fun _ ↦ true).run (initial 0) (opening ++ exchange) = some P ∧
      P.procs[0]? = some (.stream S) ∧ S.messages ++ S.waiting P.store =
        (system fun _ ↦ true).trace (accepts S.sessionId) (initial 0) (opening ++ exchange) := by
  obtain ⟨P, S, e, hrun, hS, -⟩ := exists_run_exchange
  exact ⟨P, S, hrun, hS, sent_append_waiting hrun hS⟩

/-! ### What is accepted -/

namespace Stream

/-- The answer to a post, from where the stream of its session stands: what Redis has, what the
memory of the server has, whose the session is, and whether the queue is there. -/
def verdict (redisReady : ℕ → Bool) (S : Stream) (p : Post) (now : Time) : PostPc :=
  let inRedis := redisReady p.server && p.answers &&
    ((S.view redisReady).redis.any fun x ↦ now < x.2)
  let inMemory := ((S.view redisReady).mem p.server).isSome
  if inRedis = false ∧ inMemory = false then
    .answered (.refused 404 ("Session '" ++ S.sessionId ++ "' not found or expired"))
  else if conflict S.tenantId p.posted.caller then
    .answered (.refused 403 "Session belongs to a different tenant")
  else
    match (S.view redisReady).queues p.server with
    | none => .answered (.refused 410 ("Session '" ++ S.sessionId ++ "' stream disconnected"))
    | some q => .handling S.tenantId q now

/-- The session that is stored is the one of the stream. -/
theorem tenant_of_view {s : Session} (h : (∃ T, (S.view redisReady).redis = some (s, T)) ∨
    ∃ n, (S.view redisReady).mem n = some s) : s.tenantId = S.tenantId := by
  rcases h with ⟨T, h⟩ | ⟨n, h⟩
  · have hite : (if _ then none else some (S.session, S.expiry)) = some (s, T) := h
    split_ifs at hite
    exact congrArg Session.tenantId (Prod.mk.inj (Option.some.inj hite)).1.symm
  · have hite : (if _ then some S.session else none) = some s := h
    split_ifs at hite
    exact congrArg Session.tenantId (Option.some.inj hite).symm

end Stream

/-- The judgement of a post that has just read. -/
theorem judge_eq_verdict (hS : S.Relies redisReady w) (hsid : p.posted.sessionId = S.sessionId) :
    p.judge w (w.readSession (redisReady p.server) p.answers p.posted.sessionId) w.now =
      S.verdict redisReady p w.now := by
  have hview := hS.view
  have hentries : w.redis.entries (sessionKey S.sessionId) = (S.view redisReady).redis :=
    congrArg SessionView.redis hview
  have hmem : (w.servers p.server).sessionsMem S.sessionId = (S.view redisReady).mem p.server :=
    congrFun (congrArg SessionView.mem hview) p.server
  have hqueues : (w.servers p.server).queues S.sessionId = (S.view redisReady).queues p.server :=
    congrFun (congrArg SessionView.queues hview) p.server
  have hread : w.readSession (redisReady p.server) p.answers S.sessionId =
      if redisReady p.server && p.answers &&
        ((S.view redisReady).redis.any fun x ↦ w.now < x.2) then
        (S.view redisReady).redis.map Prod.fst else none := by
    unfold SseWorld.readSession ExpiringStore.get
    rw [hentries]
    rcases (S.view redisReady).redis with - | ⟨s, T⟩
    · split_ifs <;> simp_all
    · split_ifs <;> simp_all
  unfold Post.judge Stream.verdict
  rw [hsid, hread, hmem, hqueues]
  -- Whichever of the two the session comes from, it is the one of the stream.
  generalize (S.view redisReady).queues p.server = queue
  generalize hfound : (redisReady p.server && p.answers &&
    ((S.view redisReady).redis.any fun x ↦ w.now < x.2)) = found
  rcases found with - | -
  · rcases hm : (S.view redisReady).mem p.server with - | s
    · simp
    · have htenant : s.tenantId = S.tenantId := Stream.tenant_of_view (.inr ⟨_, hm⟩)
      rcases queue <;> simp [htenant]
  · rcases hr : (S.view redisReady).redis with - | ⟨s, T⟩
    · rw [hr] at hfound
      simp at hfound
    · have htenant : s.tenantId = S.tenantId := Stream.tenant_of_view (.inl ⟨T, hr⟩)
      rcases queue <;> simp [htenant]

/-- **What a post gets.** In every reachable state, a post that reads its session and goes on gets
the verdict of the stream: it is handled exactly when the session still stands in Redis or in the
memory of this server, the caller is not another tenant, and the stream is open on this server. -/
theorem verdict_of_run (hrun : (system redisReady).run (initial now) as = some P)
    (hS : P.procs[i]? = some (.stream S)) (hp : P.procs[j]? = some (.post p))
    (hpc : p.pc = .start) (hsid : p.posted.sessionId = S.sessionId)
    (hQ : (system redisReady).run P [.advance .step j, .advance .step j] = some Q) :
    Q.procs[j]? = some (.post { p with pc := S.verdict redisReady p P.store.now }) ∧
      Q.store = P.store := by
  have hrelies : S.Relies redisReady P.store := (invariant_of_run_initial hrun).each i _ hS
  obtain ⟨P₁, hstep₁, hQ₁⟩ := Option.bind_eq_some_iff.1 hQ
  obtain ⟨P₂, hstep₂, hQ₂⟩ := Option.bind_eq_some_iff.1 hQ₁
  obtain rfl := Option.some.inj hQ₂
  obtain ⟨x₁, w₁, y₁, hx₁, hnext₁, rfl⟩ := ProcessPool.advance_eq_some.1 hstep₁
  obtain rfl := Option.some.inj (hp.symm.trans hx₁)
  obtain ⟨x₂, w₂, y₂, hx₂, hnext₂, rfl⟩ := ProcessPool.advance_eq_some.1 hstep₂
  have hlt : j < P.procs.length := (List.getElem?_eq_some_iff.1 hp).1
  -- The first step reads, the second one judges.
  cases SseProcess.effect_of_next hnext₁ with
  | post heff₁ =>
    cases heff₁ with
    | judge raw t h | handle tenant q t h | put q e h => exact nomatch hpc.symm.trans h
    | read =>
      rw [List.getElem?_set_self hlt] at hx₂
      obtain rfl := Option.some.inj hx₂
      cases SseProcess.effect_of_next hnext₂ with
      | post heff₂ =>
        cases heff₂ with
        | read h | handle tenant q t h | put q e h => exact nomatch h
        | judge raw t h =>
          obtain ⟨rfl, rfl⟩ := PostPc.read.inj h
          refine ⟨?_, rfl⟩
          show ((P.procs.set j _).set j _)[j]? = _
          rw [List.set_set, List.getElem?_set_self hlt, ← judge_eq_verdict hrelies hsid]
          rfl

theorem verdict_of_run_sample : ∃ P Q S p,
    (system fun _ ↦ true).run (initial 0)
        (opening ++ [.post 1 samplePosted true sampleHost]) = some P ∧
      P.procs[0]? = some (.stream S) ∧ P.procs[1]? = some (.post p) ∧ p.pc = .start ∧
      p.posted.sessionId = S.sessionId ∧
      (system fun _ ↦ true).run P [.advance .step 1, .advance .step 1] = some Q ∧
      Q.procs[1]? = some (.post { p with pc := S.verdict (fun _ ↦ true) p P.store.now }) ∧
      Q.store = P.store := by
  have hsteps : ∃ P Q S p, (system fun _ ↦ true).run (initial 0)
        (opening ++ [.post 1 samplePosted true sampleHost]) = some P ∧
      P.procs[0]? = some (.stream S) ∧ P.procs[1]? = some (.post p) ∧ p.pc = .start ∧
      p.posted.sessionId = S.sessionId ∧
      (system fun _ ↦ true).run P [.advance .step 1, .advance .step 1] = some Q :=
    ⟨_, _, _, _, rfl, rfl, rfl, rfl, rfl, rfl⟩
  obtain ⟨P, Q, S, p, hrun, hS, hp, hpc, hsid, hQ⟩ := hsteps
  exact ⟨P, Q, S, p, hrun, hS, hp, hpc, hsid, hQ, verdict_of_run hrun hS hp hpc hsid hQ⟩

/-! ### Streams that accept nothing any more -/

/-- A condition `C` on the stream of a session, at a time, that keeps the posts of the session at
points where `A` holds, and so from being accepted. -/
structure Mute (redisReady : ℕ → Bool) (C : Time → Stream → Prop) (A : PostPc → Prop) : Prop where
  effect : ∀ {w : SseWorld} {S : Stream} {w' : SseWorld} {S' : Stream},
    S.Effect redisReady w w' S' → C w.now S → C w'.now S'
  later : ∀ {now : Time} {S : Stream} (elapsed : ℕ), C now S → C (now + elapsed) S
  dead : ∀ {now : Time} {S : Stream}, C now S → C now { S with killed := true }
  start : A .start
  unhandled : ∀ {q : ℕ} {e : Envelope}, ¬A (.handled q e)
  post : ∀ {w : SseWorld} {p : Post} {w' : SseWorld} {p' : Post} {S : Stream},
    p.Effect redisReady w w' p' → S.Relies redisReady w → p.posted.sessionId = S.sessionId →
      C w.now S → A p.pc → A p'.pc

/-- The condition holds of the stream of a session, and the posts of the session stand where they
should. -/
structure Silent (C : Time → Stream → Prop) (A : PostPc → Prop) (sid : String) (P : SseState) :
    Prop where
  stream : ∃ (i : ℕ) (S : Stream), P.procs[i]? = some (.stream S) ∧ S.sessionId = sid ∧
    C P.store.now S
  posts : ∀ (j : ℕ) p, P.procs[j]? = some (.post p) → p.posted.sessionId = sid → A p.pc

section Mute

variable {C : Time → Stream → Prop} {A : PostPc → Prop} {sid : String}

theorem Stream.Effect.now_eq (heff : S.Effect redisReady w w' S') : w'.now = w.now := by
  cases heff with
  | save hpc =>
    unfold SseWorld.saveSession
    split_ifs
    · split
      · rfl
      · split_ifs <;> rfl
    · rfl
  | getQueue hpc =>
    unfold SseWorld.getQueue
    split <;> rfl
  | announce | ping | leave | forget => rfl
  | receive q r hpc hq htake => exact (SseWorld.exists_of_take htake).2.2.2.2.1
  | delete hpc =>
    unfold SseWorld.deleteSession
    split_ifs <;> rfl

theorem Post.Effect.now_eq (heff : p.Effect redisReady w w' p') : w'.now = w.now := by
  cases heff <;> rfl

/-- A machine moves, and the stream stays mute. -/
theorem Mute.silent_of_effect {y : SseProcess} (hmute : Mute redisReady C A)
    (hinv : Invariant redisReady P) (h : Silent C A sid P) (hx : P.procs[i]? = some x)
    (heff : x.Effect redisReady P.store w' y) : Silent C A sid ⟨w', P.procs.set i y⟩ := by
  obtain ⟨k, S, hS, hsid, hC⟩ := h.stream
  have hlt : i < P.procs.length := (List.getElem?_eq_some_iff.1 hx).1
  cases heff with
  | @stream T T' w' heff =>
    constructor
    · rcases eq_or_ne k i with rfl | hne
      · obtain rfl := SseProcess.stream.inj (Option.some.inj (hS.symm.trans hx))
        exact ⟨k, T', List.getElem?_set_self hlt, heff.fixed.1.trans hsid, hmute.effect heff hC⟩
      · refine ⟨k, S, ?_, hsid, ?_⟩
        · show (P.procs.set i _)[k]? = _
          rw [List.getElem?_set_ne hne.symm]
          exact hS
        · show C w'.now S
          rw [heff.now_eq]
          exact hC
    · intro j p hp
      rcases ProcessPool.getElem?_set_cases hp with ⟨-, hy⟩ | ⟨-, hp⟩
      · exact nomatch hy
      · exact h.posts j p hp
  | @post p p' w' heff =>
    have hki : k ≠ i := by
      rintro rfl
      exact nomatch Option.some.inj (hS.symm.trans hx)
    refine ⟨⟨k, S, ?_, hsid, ?_⟩, fun j p₁ hp₁ hsid₁ ↦ ?_⟩
    · show (P.procs.set i _)[k]? = _
      rw [List.getElem?_set_ne hki.symm]
      exact hS
    · show C w'.now S
      rw [heff.now_eq]
      exact hC
    · rcases ProcessPool.getElem?_set_cases hp₁ with ⟨-, hy⟩ | ⟨-, hp₁⟩
      · obtain rfl := SseProcess.post.inj hy
        rw [heff.sessionId.1] at hsid₁
        exact hmute.post heff (hinv.each k _ hS) (hsid₁.trans hsid.symm) hC (h.posts i p hx hsid₁)
      · exact h.posts j p₁ hp₁ hsid₁

/-- A step of the system. -/
theorem Mute.silent_of_step {a : SseAction} (hmute : Mute redisReady C A)
    (hinv : Invariant redisReady P) (h : Silent C A sid P)
    (hstep : (system redisReady).step P a = some Q) :
    Silent C A sid Q ∧ accepts sid P a = none := by
  obtain ⟨k, S, hS, hsid, hC⟩ := h.stream
  cases a with
  | tick elapsed =>
    obtain rfl := Option.some.inj hstep
    exact ⟨⟨⟨k, S, hS, hsid, hmute.later elapsed hC⟩, h.posts⟩, rfl⟩
  | connect server sid' tenantId save delete =>
    obtain ⟨-, hQ⟩ := Option.ite_none_left_eq_some.1 hstep
    obtain rfl := Option.some.inj hQ
    refine ⟨⟨⟨k, S, ?_, hsid, hC⟩, fun j p hp ↦ ?_⟩, rfl⟩
    · exact (List.getElem?_append_left (List.getElem?_eq_some_iff.1 hS).1).trans hS
    · rcases ProcessPool.getElem?_append_cases hp with ⟨-, hp⟩ | ⟨-, hp⟩
      · exact h.posts j p hp
      · exact nomatch List.mem_singleton.1 (List.mem_of_getElem? hp)
  | post server posted answers host =>
    obtain rfl := Option.some.inj hstep
    refine ⟨⟨⟨k, S, ?_, hsid, hC⟩, fun j p hp hpsid ↦ ?_⟩, rfl⟩
    · exact (List.getElem?_append_left (List.getElem?_eq_some_iff.1 hS).1).trans hS
    · rcases ProcessPool.getElem?_append_cases hp with ⟨-, hp⟩ | ⟨-, hp⟩
      · exact h.posts j p hp hpsid
      · obtain rfl := SseProcess.post.inj (List.mem_singleton.1 (List.mem_of_getElem? hp))
        exact hmute.start
  | advance m i =>
    obtain ⟨x, w', y, hx, hnext, rfl⟩ := ProcessPool.advance_eq_some.1 hstep
    refine ⟨hmute.silent_of_effect hinv h hx (SseProcess.effect_of_next hnext), ?_⟩
    rw [accepts_advance hx hnext]
    rcases x with T | p
    · rfl
    · rw [SseProcess.puts]
      split
      · rename_i q e hpc
        have hA (he : p.posted.sessionId = sid) : A (.handled q e) := hpc ▸ h.posts i p hx he
        exact if_neg fun he ↦ hmute.unhandled (hA he)
      · rfl
  | kill i =>
    obtain ⟨x, hx, rfl⟩ := Option.map_eq_some_iff.1 hstep
    have hlt : i < P.procs.length := (List.getElem?_eq_some_iff.1 hx).1
    refine ⟨⟨?_, fun j p hp hpsid ↦ ?_⟩, rfl⟩
    · rcases eq_or_ne k i with rfl | hne
      · obtain rfl := Option.some.inj (hS.symm.trans hx)
        exact ⟨k, { S with killed := true }, List.getElem?_set_self hlt, hsid, hmute.dead hC⟩
      · refine ⟨k, S, ?_, hsid, hC⟩
        show (P.procs.set i _)[k]? = _
        rw [List.getElem?_set_ne hne.symm]
        exact hS
    · rcases ProcessPool.getElem?_set_cases hp with ⟨rfl, hdead⟩ | ⟨-, hp⟩
      · rcases x with T | p₁
        · exact nomatch hdead
        · obtain rfl := SseProcess.post.inj hdead
          exact h.posts j p₁ hx hpsid
      · exact h.posts j p hp hpsid

/-- A stream that is mute stays mute. -/
theorem Mute.accepts_eq_nil (hmute : Mute redisReady C A) (hinv : Invariant redisReady P)
    (h : Silent C A sid P) : (system redisReady).trace (accepts sid) P bs = [] := by
  have hkeep : ∀ P a Q, Invariant redisReady P ∧ Silent C A sid P →
      (system redisReady).step P a = some Q →
      (Invariant redisReady Q ∧ Silent C A sid Q) ∧ accepts sid P a = none := by
    intro P a Q hP hstep
    obtain ⟨hsilent, hnone⟩ := hmute.silent_of_step hP.1 hP.2 hstep
    exact ⟨⟨invariant_of_step hP.1 hstep, hsilent⟩, hnone⟩
  exact TransitionSystem.trace_eq_nil hkeep ⟨hinv, h⟩

end Mute

/-- The session is in Redis only, and has run out there. -/
def Stream.Expired (redisReady : ℕ → Bool) (now : Time) (S : Stream) : Prop :=
  S.inMemory redisReady = false ∧ S.pc ≠ .start ∧ S.expiry ≤ now

/-- The post has not found a session. -/
def PostPc.Unfound : PostPc → Prop
  | .start | .read none _ | .answered _ => True
  | .read (some _) _ | .handling _ _ _ | .handled _ _ => False

/-- The post has not found a queue. -/
def PostPc.Unqueued : PostPc → Prop
  | .start | .read _ _ | .answered _ => True
  | .handling _ _ _ | .handled _ _ => False

theorem mute_expired : Mute redisReady (Stream.Expired redisReady) PostPc.Unfound where
  effect heff hC := by
    rw [heff.now_eq]
    cases heff with
    | save hpc => exact absurd hpc hC.2.1
    | receive | ping => exact hC
    | getQueue | announce | leave | delete | forget => exact ⟨hC.1, nofun, hC.2.2⟩
  later elapsed hC :=
    ⟨hC.1, hC.2.1, hC.2.2.trans (Int.le_add_of_nonneg_right (Int.natCast_nonneg elapsed))⟩
  dead hC := hC
  start := trivial
  unhandled h := h
  post {w p w' p' S} heff hS hsid hC hA := by
    cases heff with
    | read hpc =>
      have hnone : w.readSession (redisReady p.server) p.answers p.posted.sessionId = none := by
        unfold SseWorld.readSession
        split_ifs
        · rw [hsid]
          refine Option.eq_none_iff_forall_ne_some.2 fun s hs ↦ ?_
          obtain ⟨T, hT, hlt⟩ := ExpiringStore.get_eq_some_iff.1 hs
          have hstored : (S.view redisReady).redis = some (s, T) := hS.view ▸ hT
          have hite : (if _ then none else some (S.session, S.expiry)) = some (s, T) := hstored
          split_ifs at hite
          obtain ⟨-, rfl⟩ := Prod.mk.inj (Option.some.inj hite)
          exact absurd hlt (not_lt.2 hC.2.2)
        · rfl
      show PostPc.Unfound (.read _ _)
      rw [hnone]
      trivial
    | judge raw t hpc =>
      rw [hpc] at hA
      rcases raw with - | s
      · show (p.judge w none t).Unfound
        rcases p.judge_cases w none t with ⟨status, detail, hjudge⟩ | ⟨s, q, -, hs, -⟩
        · rw [hjudge]
          trivial
        · have hmem : (if p.server = S.server ∧ S.inMemory redisReady = true ∧ S.pc ≠ .start ∧
              S.pc ≠ .closed then some S.session else none) = some s := by
            rw [hsid, hS.view] at hs
            exact hs
          split_ifs at hmem with hin
          exact absurd (hin.2.1.symm.trans hC.1) nofun
      · exact absurd hA id
    | handle tenant q t hpc =>
      rw [hpc] at hA
      exact absurd hA id
    | put q e hpc => trivial

theorem mute_closed :
    Mute redisReady (fun _ S ↦ S.pc = .closed) PostPc.Unqueued where
  effect {w S w' S'} heff hC := by
    cases heff with
    | save hpc | getQueue hpc | announce hpc | leave hpc | delete hpc | forget hpc | ping hpc
    | receive _ _ hpc => exact nomatch hC.symm.trans hpc
  later _ hC := hC
  dead hC := hC
  start := trivial
  unhandled h := h
  post {w p w' p' S} heff hS hsid hC hA := by
    cases heff with
    | read hpc => trivial
    | judge raw t hpc =>
      show (p.judge w raw t).Unqueued
      rcases p.judge_cases w raw t with ⟨status, detail, hjudge⟩ | ⟨s, q, -, -, -, hq⟩
      · rw [hjudge]
        trivial
      · have hqueue :
            (if p.server = S.server ∧ S.pc ≠ .closed then S.queue else none) = some q := by
          rw [hsid, hS.view] at hq
          exact hq
        split_ifs at hqueue with hopen
        exact absurd hC hopen.2
    | handle tenant q t hpc =>
      rw [hpc] at hA
      exact absurd hA id
    | put q e hpc => trivial

/-- **A stream is deaf after an hour.** Once the session of a stream has run out in Redis, and no
post that has read it is still being handled, nothing is accepted for the stream any more, whatever
is posted, on any server and by anybody; it need not have been closed. -/
theorem accepts_nil_of_expired (hrun : (system redisReady).run (initial now) as = some P)
    (hS : P.procs[i]? = some (.stream S)) (hready : redisReady S.server = true)
    (hsave : S.save = .answered) (hpc : S.pc ≠ .start)
    (hexpired : S.savedAt + seconds sessionTtl ≤ P.store.now)
    (hposts : ∀ (j : ℕ) p, P.procs[j]? = some (.post p) → p.posted.sessionId = S.sessionId →
      p.pc.Unfound) :
    (system redisReady).trace (accepts S.sessionId) P bs = [] := by
  have hmemory : S.inMemory redisReady = false := by
    rw [Stream.inMemory, hready, hsave]
    rfl
  exact mute_expired.accepts_eq_nil (invariant_of_run_initial hrun)
    ⟨⟨i, S, hS, rfl, hmemory, hpc, hexpired⟩, hposts⟩

/-- **A stream that has cleaned up is deaf.** -/
theorem accepts_nil_of_closed (hrun : (system redisReady).run (initial now) as = some P)
    (hS : P.procs[i]? = some (.stream S)) (hpc : S.pc = .closed)
    (hposts : ∀ (j : ℕ) p, P.procs[j]? = some (.post p) → p.posted.sessionId = S.sessionId →
      p.pc.Unqueued) :
    (system redisReady).trace (accepts S.sessionId) P bs = [] :=
  mute_closed.accepts_eq_nil (invariant_of_run_initial hrun) ⟨⟨i, S, hS, rfl, hpc⟩, hposts⟩

/-! The stream of an hour ago, with another message. -/

/-- Another message is posted, and goes as far as it can. -/
def retry : List SseAction :=
  [.post 0 samplePosted true sampleHost, .advance .step 1, .advance .step 1]

theorem accepts_nil_of_expired_sample : ∃ P S,
    (system fun _ ↦ true).run (initial 0) (opening ++ [.tick 3600000000]) = some P ∧
      P.procs[0]? = some (.stream S) ∧
      (system fun _ ↦ true).trace (accepts S.sessionId) P retry = [] := by
  have hstate : ∃ P S, (system fun _ ↦ true).run (initial 0) (opening ++ [.tick 3600000000]) =
        some P ∧ P.procs = [.stream S] ∧ S.save = .answered ∧ S.pc = .listening ∧
      S.savedAt = 0 ∧ P.store.now = seconds sessionTtl :=
    ⟨_, _, rfl, rfl, rfl, rfl, rfl, rfl⟩
  obtain ⟨P, S, hrun, hprocs, hsave, hpc, hsaved, hnow⟩ := hstate
  have hS : P.procs[0]? = some (.stream S) := by rw [hprocs]; rfl
  refine ⟨P, S, hrun, hS, accepts_nil_of_expired hrun hS rfl hsave (hpc ▸ nofun) ?_ ?_⟩
  · rw [hsaved, hnow]
    exact le_of_eq (zero_add _)
  · intro j p hp
    have hmem := List.mem_of_getElem? hp
    rw [hprocs] at hmem
    exact nomatch List.mem_singleton.1 hmem

theorem accepts_nil_of_closed_sample : ∃ P S,
    (system fun _ ↦ true).run (initial 0)
        (opening ++ [.advance .leave 0, .advance .step 0, .advance .step 0]) = some P ∧
      P.procs[0]? = some (.stream S) ∧
      (system fun _ ↦ true).trace (accepts S.sessionId) P retry = [] := by
  have hstate : ∃ P S, (system fun _ ↦ true).run (initial 0)
        (opening ++ [.advance .leave 0, .advance .step 0, .advance .step 0]) = some P ∧
      P.procs = [.stream S] ∧ S.pc = .closed := ⟨_, _, rfl, rfl, rfl⟩
  obtain ⟨P, S, hrun, hprocs, hpc⟩ := hstate
  have hS : P.procs[0]? = some (.stream S) := by rw [hprocs]; rfl
  refine ⟨P, S, hrun, hS, accepts_nil_of_closed hrun hS hpc fun j p hp ↦ ?_⟩
  have hmem := List.mem_of_getElem? hp
  rw [hprocs] at hmem
  exact nomatch List.mem_singleton.1 hmem

end Sse

end Siyadah
