import SiyadahOrchestrator.Mcp.StreamInvariant

/-!
# A stream belongs to its tenant

The invariant is kept by every move, so it holds in every reachable state
(`invariant_of_run_initial`).
-/

namespace Siyadah

namespace Sse

variable {redisReady : ℕ → Bool} {w w' : SseWorld} {S S' R : Stream} {p p' : Post}
  {P Q : SseState}

/-! ### Streams -/

namespace Stream

/-- A stream stays where it is, and keeps its session. -/
theorem Effect.fixed (h : S.Effect redisReady w w' S') :
    S'.sessionId = S.sessionId ∧ S'.tenantId = S.tenantId ∧ S'.server = S.server ∧
      S'.save = S.save := by
  cases h <;> exact ⟨rfl, rfl, rfl, rfl⟩

/-- Who has saved the session does not save it again. -/
theorem Effect.timely (h : S.Effect redisReady w w' S') {t : Time} (ht : S.Timely redisReady t) :
    S'.Timely redisReady t := by
  cases h with
  | save hpc => exact absurd hpc ht.1
  | receive | ping => exact ht
  | getQueue | announce | leave | delete | forget => exact ⟨nofun, ht.2⟩

/-- A queue is made once. -/
theorem Relies.getQueue (h : S.Relies redisReady w) (hpc : S.pc = .saved) :
    w.getQueue S.server S.sessionId = (w.newQueue S.server S.sessionId, w.heap.length) := by
  refine SseWorld.getQueue_of_none ?_
  rw [h.view]
  show (if S.server = S.server ∧ S.pc ≠ .closed then S.queue else none) = none
  rw [h.early (.inr hpc)]
  split_ifs <;> rfl

/-- The step of a stream changes nothing that is stored under other sessions. -/
theorem Effect.view_of_ne (heff : S.Effect redisReady w w' S') (h : S.Relies redisReady w)
    {sid : String} (hne : sid ≠ S.sessionId) : w'.view sid = w.view sid := by
  cases heff with
  | save hpc => exact (SseWorld.view_saveSession sid).trans (if_neg hne)
  | getQueue hpc => rw [h.getQueue hpc, SseWorld.view_newQueue, if_neg hne]
  | announce | ping | leave => rfl
  | receive q r hpc hq htake => exact (SseWorld.exists_of_take htake).2.2.2.2.2 sid
  | delete hpc => rw [SseWorld.view_deleteSession, if_neg fun he ↦ hne he.1]
  | forget hpc => rw [SseWorld.view_forget, if_neg hne]

/-- A step keeps the queue, or makes it. -/
theorem Effect.queue (heff : S.Effect redisReady w w' S') (h : S.Relies redisReady w) :
    (S'.queue = S.queue ∧ w'.heapIds = w.heapIds) ∨
      (S.pc = .saved ∧ S'.queue = some w.heapIds.length ∧
        w'.heapIds = w.heapIds ++ [S.sessionId]) := by
  cases heff with
  | save hpc =>
    refine .inl ⟨rfl, ?_⟩
    unfold SseWorld.saveSession
    split_ifs
    · split
      · rfl
      · split_ifs <;> rfl
    · rfl
  | getQueue hpc =>
    rw [h.getQueue hpc, SseWorld.length_heapIds]
    exact .inr ⟨hpc, rfl, SseWorld.heapIds_newQueue⟩
  | announce | ping | leave | forget => exact .inl ⟨rfl, rfl⟩
  | receive q r hpc hq htake => exact .inl ⟨rfl, (SseWorld.exists_of_take htake).2.2.1⟩
  | delete hpc =>
    refine .inl ⟨rfl, ?_⟩
    unfold SseWorld.deleteSession
    split_ifs <;> rfl

/-- … nor what waits in the queues of others. -/
theorem Effect.items (heff : S.Effect redisReady w w' S') (h : S.Relies redisReady w) {q : ℕ}
    (hq : w.heapIds[q]? ≠ some S.sessionId) : w'.items q = w.items q := by
  cases heff with
  | save hpc =>
    unfold SseWorld.saveSession
    split_ifs
    · split
      · rfl
      · split_ifs <;> rfl
    · rfl
  | getQueue hpc =>
    rw [h.getQueue hpc]
    exact SseWorld.items_newQueue q
  | announce | ping | leave | forget => rfl
  | receive q' r hpc hq' htake =>
    refine (SseWorld.exists_of_take htake).2.1 q fun he ↦ hq ?_
    rw [he]
    exact h.owns q' hq'
  | delete hpc =>
    unfold SseWorld.deleteSession
    split_ifs <;> rfl

theorem Effect.issued (heff : S.Effect redisReady w w' S') (h : S.Relies redisReady w) :
    w'.issued = w.issued := by
  cases heff with
  | save hpc =>
    unfold SseWorld.saveSession
    split_ifs
    · split
      · rfl
      · split_ifs <;> rfl
    · rfl
  | getQueue hpc =>
    rw [h.getQueue hpc]
    rfl
  | announce | ping | leave | forget => rfl
  | receive q r hpc hq htake => exact (SseWorld.exists_of_take htake).2.2.2.1
  | delete hpc =>
    unfold SseWorld.deleteSession
    split_ifs <;> rfl

theorem Effect.grows (heff : S.Effect redisReady w w' S') (h : S.Relies redisReady w) :
    w.Grows w' := by
  refine ⟨fun x hx ↦ heff.issued h ▸ hx, fun q sid hq ↦ ?_⟩
  rcases heff.queue h with ⟨-, heq⟩ | ⟨-, -, heq⟩
  · rw [heq]
    exact hq
  · rw [heq, List.getElem?_append_left (List.getElem?_eq_some_iff.1 hq).1]
    exact hq

/-- What the stream has stored, after its step. -/
theorem Effect.view (heff : S.Effect redisReady w w' S') (h : S.Relies redisReady w) :
    w'.view S'.sessionId = S'.view redisReady := by
  have hview := h.view
  cases heff with
  | save hpc =>
    have hqueue := h.early (.inl hpc)
    refine (SseWorld.view_saveSession S.sessionId).trans ((if_pos rfl).trans ?_)
    rw [hview]
    refine SessionView.ext ?_ (funext fun n ↦ ?_) (funext fun n ↦ ?_)
    · show (if S.inRedis redisReady = true then some (S.session, w.now + seconds sessionTtl)
        else (S.view redisReady).redis) = _
      simp only [Stream.view, hpc]
      rcases hredis : S.inRedis redisReady with - | -
      · exact (if_pos (.inr (.inl hredis))).symm
      · exact (if_neg (by simp [inRedis] at hredis ⊢; exact hredis)).symm
    · show (if S.inMemory redisReady = true then
        Function.update (S.view redisReady).mem S.server (some S.session)
        else (S.view redisReady).mem) n = _
      simp only [Stream.view, hpc]
      rcases hmemory : S.inMemory redisReady with - | -
      · grind [inMemory]
      · grind [inMemory, session, Function.update_apply]
    · simp [Stream.view, hpc, hqueue]
  | getQueue hpc =>
    have hqueue := h.early (.inr hpc)
    rw [h.getQueue hpc]
    refine (SseWorld.view_newQueue S.sessionId).trans ((if_pos rfl).trans ?_)
    rw [hview]
    refine SessionView.ext ?_ (funext fun n ↦ ?_) (funext fun n ↦ ?_)
    · simp [Stream.view, hpc, inRedis, expiry, session]
    · simp [Stream.view, hpc, inMemory, session]
    · simp [Stream.view, hpc, hqueue, Function.update_apply]
  | announce hpc =>
    refine hview.trans ?_
    simp [Stream.view, hpc, inRedis, inMemory, expiry, session, removed]
  | leave hpc =>
    refine hview.trans ?_
    simp [Stream.view, hpc, inRedis, inMemory, expiry, session, removed]
  | ping hpc =>  exact hview
  | receive q r hpc hq htake =>
    exact ((SseWorld.exists_of_take htake).2.2.2.2.2 S.sessionId).trans hview
  | delete hpc =>
    refine (SseWorld.view_deleteSession S.sessionId).trans ?_
    rw [hview]
    rcases hremoved : S.removed redisReady with - | -
    · refine (if_neg fun he ↦ ?_).trans ?_
      · exact absurd (hremoved.symm.trans he.2) nofun
      · simp [Stream.view, hpc, inRedis, inMemory, expiry, session, removed] at hremoved ⊢
        grind
    · refine (if_pos ⟨rfl, hremoved⟩).trans ?_
      simp [Stream.view, hpc, inRedis, inMemory, expiry, session, removed] at hremoved ⊢
      grind
  | forget hpc =>
    refine (SseWorld.view_forget S.sessionId).trans ((if_pos rfl).trans ?_)
    rw [hview]
    refine SessionView.ext ?_ (funext fun n ↦ ?_) (funext fun n ↦ ?_)
    · simp [Stream.view, hpc, inRedis, expiry, session, removed]
    · simpa [Stream.view, hpc, inMemory, session, Function.update_apply] using
        fun hne he ↦ absurd he hne
    · simpa [Stream.view, hpc, Function.update_apply] using fun hne he ↦ absurd he hne

/-- What has been sent and what waits, after a step: the same, or the first one that waited has been
sent. -/
theorem Effect.messages (heff : S.Effect redisReady w w' S') (h : S.Relies redisReady w) :
    S'.messages ++ S'.waiting w' = S.messages ++ S.waiting w := by
  have hsame (hq : S'.queue = S.queue) (hitems : ∀ q, S.queue = some q → w'.items q = w.items q) :
      S'.waiting w' = S.waiting w := by
    unfold waiting
    rw [hq]
    rcases hqueue : S.queue with - | q
    · rfl
    · exact hitems q hqueue
  cases heff with
  | save hpc =>
    rw [hsame rfl fun q hq ↦ absurd (h.early (.inl hpc)) (hq ▸ nofun)]
    rfl
  | getQueue hpc =>
    have hnone : S.queue = none := h.early (.inr hpc)
    rw [h.getQueue hpc]
    have hempty : (w.newQueue S.server S.sessionId).items w.heap.length = [] := by
      rw [SseWorld.items_newQueue, SseWorld.items, List.getElem?_eq_none (le_refl _)]
      rfl
    show S.messages ++ (w.newQueue S.server S.sessionId).items w.heap.length = _
    rw [hempty, waiting, hnone]
    rfl
  | announce hpc =>
    show List.filterMap _ (S.sent ++ [_]) ++ _ = _
    rw [List.filterMap_append, hsame rfl fun _ _ ↦ rfl]
    simp [Stream.messages]
  | ping hpc =>
    show List.filterMap _ (S.sent ++ [_]) ++ _ = _
    rw [List.filterMap_append, hsame rfl fun _ _ ↦ rfl]
    simp [Stream.messages]
  | leave hpc =>
    rw [hsame rfl fun _ _ ↦ rfl]
    rfl
  | receive q r hpc hq htake =>
    have hitems : w.items q = r.2 :: r.1.items q := (SseWorld.exists_of_take htake).1
    show List.filterMap _ (S.sent ++ [_]) ++ S.queue.elim [] r.1.items =
      S.messages ++ S.queue.elim [] w.items
    rw [List.filterMap_append, hq]
    show S.messages ++ [r.2] ++ r.1.items q = S.messages ++ w.items q
    rw [hitems, List.append_assoc]
    rfl
  | delete hpc =>
    rw [hsame rfl fun q hq ↦ ?_]
    · rfl
    · unfold SseWorld.deleteSession
      split_ifs <;> rfl
  | forget hpc =>
    rw [hsame rfl fun _ _ ↦ rfl]
    rfl

/-- The stream that steps, after its step. -/
theorem Effect.relies (heff : S.Effect redisReady w w' S') (h : S.Relies redisReady w) :
    S'.Relies redisReady w' := by
  have hfixed := heff.fixed
  have hissued := heff.issued h
  have hmessages := heff.messages h
  refine ⟨?_, heff.view h, ?_, ?_, ?_, ?_, fun e he ↦ ?_, fun e he ↦ ?_⟩
  · rw [hissued, hfixed.1, hfixed.2.1]
    exact h.issued
  · intro q hq
    rw [hfixed.1]
    rcases heff.queue h with ⟨hqueue, hids⟩ | ⟨-, hqueue, hids⟩
    · rw [hids]
      exact h.owns q (hqueue ▸ hq)
    · obtain rfl := Option.some.inj (hqueue.symm.trans hq)
      rw [hids, List.getElem?_concat_length]
  · intro hnone
    rw [hfixed.1]
    rcases heff.queue h with ⟨hqueue, hids⟩ | ⟨-, hqueue, -⟩
    · rw [hids]
      exact h.unowned (hqueue ▸ hnone)
    · exact nomatch hqueue.symm.trans hnone
  · intro hpc'
    cases heff with
    | save hpc => exact h.early (.inl hpc)
    | getQueue | announce | leave | delete | forget => exact hpc'.elim nofun nofun
    | ping hpc | receive q r hpc => exact h.early hpc'
  · intro hnone
    rcases heff.queue h with ⟨hqueue, -⟩ | ⟨-, hqueue, -⟩
    · rw [waiting, waiting, hnone, ← hqueue, hnone] at hmessages
      have hmsgs : S'.messages = S.messages := by simpa using hmessages
      rw [hmsgs]
      exact h.idle (hqueue ▸ hnone)
    · exact nomatch hqueue.symm.trans hnone
  · rw [hmessages] at he
    rw [hfixed.1, hissued]
    exact h.lawful e he
  · rw [hmessages] at he
    exact heff.timely (h.timely e he)

/-- The shared state, after the step of a stream. -/
theorem Effect.consistent (heff : S.Effect redisReady w w' S') (h : S.Relies redisReady w)
    (hw : w.Consistent) : w'.Consistent := by
  have hrelies := heff.relies h
  have hissued := heff.issued h
  have hid : S'.sessionId = S.sessionId := heff.fixed.1
  -- Under the session of the stream stands what the stream has stored.
  have hown (sid : String) (he : sid = S.sessionId) : w'.view sid = S'.view redisReady := by
    rw [he, ← hid]
    exact hrelies.view
  have hsession (s : Session) (hs : s = S'.session) : (S.sessionId, s.tenantId) ∈ w'.issued := by
    rw [hs, ← hid]
    exact hrelies.issued
  refine ⟨hissued ▸ hw.issued, fun sid s T hs ↦ ?_, fun sid n s hs ↦ ?_, fun sid n q hq ↦ ?_, ?_,
    fun sid hsid ↦ ?_⟩
  · rcases eq_or_ne sid S.sessionId with he | hne
    · rw [hown sid he] at hs
      have hs' : (if _ then none else some (S'.session, S'.expiry)) = some (s, T) := hs
      split_ifs at hs'
      rw [he]
      exact hsession s (Prod.mk.inj (Option.some.inj hs')).1.symm
    · rw [heff.view_of_ne h hne] at hs
      rw [hissued]
      exact hw.redis sid s T hs
  · rcases eq_or_ne sid S.sessionId with he | hne
    · rw [hown sid he] at hs
      have hs' : (if _ then some S'.session else none) = some s := hs
      split_ifs at hs'
      rw [he]
      exact hsession s (Option.some.inj hs').symm
    · rw [heff.view_of_ne h hne] at hs
      rw [hissued]
      exact hw.mem sid n s hs
  · rcases eq_or_ne sid S.sessionId with he | hne
    · rw [hown sid he] at hq
      have hq' : (if _ then S'.queue else none) = some q := hq
      split_ifs at hq'
      rw [he, ← hid]
      exact hrelies.owns q hq'
    · rw [heff.view_of_ne h hne] at hq
      exact (heff.grows h).heap q sid (hw.queues sid n q hq)
  · rcases heff.queue h with ⟨-, hids⟩ | ⟨hpc, -, hids⟩
    · rw [hids]
      exact hw.heap
    · rw [hids]
      exact List.nodup_append.2 ⟨hw.heap, List.nodup_singleton _, fun a ha b hb ↦ by
        rw [List.mem_singleton.1 hb]
        exact fun he ↦ h.unowned (h.early (.inr hpc)) (he ▸ ha)⟩
  · rw [hissued]
    rcases heff.queue h with ⟨-, hids⟩ | ⟨-, -, hids⟩
    · exact hw.owned sid (hids ▸ hsid)
    · rw [hids, List.mem_append, List.mem_singleton] at hsid
      rcases hsid with hsid | rfl
      · exact hw.owned sid hsid
      · exact List.mem_map.2 ⟨_, h.issued, rfl⟩

/-- Another stream, after the step. -/
theorem Effect.relies_other (heff : S.Effect redisReady w w' S') (h : S.Relies redisReady w)
    (hne : R.sessionId ≠ S.sessionId) (hR : R.Relies redisReady w) : R.Relies redisReady w' := by
  refine hR.frame (heff.grows h) (heff.view_of_ne h hne) (fun hmem ↦ ?_) fun q hq ↦ ?_
  · rcases heff.queue h with ⟨-, hids⟩ | ⟨-, -, hids⟩
    · exact hids ▸ hmem
    · rw [hids, List.mem_append, List.mem_singleton] at hmem
      exact hmem.resolve_right hne
  · refine heff.items h fun hown ↦ hne ?_
    exact Option.some.inj ((hR.owns q hq).symm.trans hown)

end Stream

/-! ### Posts -/

namespace Post

theorem envelope_lawful {tenant : Option PyStr} {t : Time}
    (htenant : (p.posted.sessionId, tenant) ∈ w.issued)
    (hconflict : conflict tenant p.posted.caller = false) :
    (p.envelope tenant t).Lawful w.issued p.posted.sessionId :=
  ⟨rfl, ⟨tenant, htenant, hconflict, rfl⟩, ⟨p.host, rfl⟩⟩

/-- A post is refused, or the session is there, it is not another tenant's, and its queue is
there. -/
theorem judge_cases (w : SseWorld) (p : Post) (raw : Option Session) (t : Time) :
    (∃ status detail, p.judge w raw t = .answered (.refused status detail)) ∨
      ∃ s q, p.judge w raw t = .handling s.tenantId q t ∧
        raw.or ((w.view p.posted.sessionId).mem p.server) = some s ∧
        conflict s.tenantId p.posted.caller = false ∧
        (w.view p.posted.sessionId).queues p.server = some q := by
  unfold judge
  split
  · exact .inl ⟨_, _, rfl⟩
  · rename_i s hs
    split_ifs with hconflict
    · exact .inl ⟨_, _, rfl⟩
    · split
      · exact .inl ⟨_, _, rfl⟩
      · rename_i q hq
        exact .inr ⟨s, q, rfl, hs, Bool.eq_false_iff.2 hconflict, hq⟩

/-- The post that steps, after its step. -/
theorem Effect.knows (heff : p.Effect redisReady w w' p') (h : p.Knows w) (hw : w.Consistent) :
    p'.Knows w' := by
  cases heff with
  | read hpc =>
    show ∀ s, w.readSession _ _ _ = some s → _
    intro s hs
    unfold SseWorld.readSession at hs
    split_ifs at hs
    obtain ⟨T, hT, -⟩ := ExpiringStore.get_eq_some_iff.1 hs
    exact hw.redis p.posted.sessionId s T hT
  | judge raw t hpc =>
    have hraw : PostPc.Knows w p.posted (.read raw t) := hpc ▸ h
    show (p.judge w raw t).Knows w p.posted
    rcases p.judge_cases w raw t with ⟨status, detail, hjudge⟩ | ⟨s, q, hjudge, hs, hconflict, hq⟩
    · rw [hjudge]
      trivial
    · rw [hjudge]
      refine ⟨?_, hconflict, hw.queues _ _ _ hq⟩
      rcases raw with - | s'
      · exact hw.mem _ _ s hs
      · exact Option.some.inj hs ▸ hraw s' rfl
  | handle tenant q t hpc =>
    have hknown : PostPc.Knows w p.posted (.handling tenant q t) := hpc ▸ h
    exact ⟨hknown.2.2, envelope_lawful hknown.1 hknown.2.1⟩
  | put q e hpc => trivial

/-- When the post that steps has read the session of a stream. -/
theorem Effect.readIn (heff : p.Effect redisReady w w' p') (hS : S.Relies redisReady w)
    (hsid : p.posted.sessionId = S.sessionId) (h : p.ReadIn redisReady S) :
    p'.ReadIn redisReady S := by
  have hview := hS.view
  cases heff with
  | read hpc =>
    show (PostPc.read (w.readSession _ _ _) w.now).ReadIn redisReady S
    rcases hread : w.readSession (redisReady p.server) p.answers p.posted.sessionId with - | s
    · trivial
    · unfold SseWorld.readSession at hread
      split_ifs at hread
      obtain ⟨T, hT, hlt⟩ := ExpiringStore.get_eq_some_iff.1 hread
      have hstored : (S.view redisReady).redis = some (s, T) := by
        rw [← hview, ← hsid]
        exact hT
      have hite : (if _ then none else some (S.session, S.expiry)) = some (s, T) := hstored
      split_ifs at hite with hnone
      obtain ⟨-, rfl⟩ := Prod.mk.inj (Option.some.inj hite)
      exact ⟨fun hpc ↦ hnone (.inl hpc), hlt⟩
  | judge raw t hpc =>
    have hraw : PostPc.ReadIn redisReady S (.read raw t) := hpc ▸ h
    show (p.judge w raw t).ReadIn redisReady S
    rcases p.judge_cases w raw t with ⟨status, detail, hjudge⟩ | ⟨s, q, hjudge, hs, hconflict, hq⟩
    · rw [hjudge]
      trivial
    · rw [hjudge]
      show S.Timely redisReady t
      rcases raw with - | s'
      · -- The session is in memory.
        have hmem : (if p.server = S.server ∧ S.inMemory redisReady = true ∧ S.pc ≠ .start ∧
            S.pc ≠ .closed then some S.session else none) = some s := by
          rw [hsid, hview] at hs
          exact hs
        split_ifs at hmem with hin
        exact ⟨hin.2.2.1, .inl hin.2.1⟩
      · exact ⟨hraw.1, .inr hraw.2⟩
  | handle tenant q t hpc =>
    have hhandling : PostPc.ReadIn redisReady S (.handling tenant q t) := hpc ▸ h
    exact hhandling
  | put q e hpc => trivial

/-- What a post has read does not depend on how far the stream is. -/
theorem readIn_of_effect (heff : S.Effect redisReady w w' S') (h : p.ReadIn redisReady S) :
    p.ReadIn redisReady S' := by
  unfold ReadIn at h ⊢
  cases hpc : p.pc with
  | start | answered => trivial
  | read raw t =>
    rw [hpc] at h
    rcases raw with - | s
    · trivial
    · -- A session that has been read has been saved.
      cases heff with
      | save hstart => exact absurd hstart h.1
      | receive | ping => exact h
      | getQueue | announce | leave | delete | forget => exact ⟨nofun, h.2⟩
  | handling tenant q t =>
    rw [hpc] at h
    exact heff.timely h
  | handled q e =>
    rw [hpc] at h
    exact heff.timely h

theorem Effect.sessionId (heff : p.Effect redisReady w w' p') :
    p'.posted = p.posted ∧ w'.issued = w.issued ∧ w'.heapIds = w.heapIds ∧
      ∀ sid, w'.view sid = w.view sid := by
  cases heff with
  | read | judge | handle => exact ⟨rfl, rfl, rfl, fun _ ↦ rfl⟩
  | put q e hpc => exact ⟨rfl, rfl, SseWorld.heapIds_put, fun _ ↦ rfl⟩

theorem Effect.grows (heff : p.Effect redisReady w w' p') : w.Grows w' :=
  ⟨fun _ hx ↦ heff.sessionId.2.1 ▸ hx, fun _ _ hq ↦ heff.sessionId.2.2.1 ▸ hq⟩

theorem Effect.consistent (heff : p.Effect redisReady w w' p') (hw : w.Consistent) :
    w'.Consistent := by
  obtain ⟨-, hissued, hids, hview⟩ := heff.sessionId
  refine ⟨hissued ▸ hw.issued, fun sid s T hs ↦ ?_, fun sid n s hs ↦ ?_, fun sid n q hq ↦ ?_,
    hids ▸ hw.heap, fun sid hsid ↦ ?_⟩
  · rw [hissued]
    exact hw.redis sid s T (hview sid ▸ hs)
  · rw [hissued]
    exact hw.mem sid n s (hview sid ▸ hs)
  · rw [hids]
    exact hw.queues sid n q (hview sid ▸ hq)
  · rw [hissued]
    exact hw.owned sid (hids ▸ hsid)

/-- What a post puts goes to the queue of its session. -/
theorem Effect.items (heff : p.Effect redisReady w w' p') (h : p.Knows w) (q : ℕ) :
    w'.items q = w.items q ∨ ∃ e, p.pc = .handled q e ∧ w'.items q = w.items q ++ [e] := by
  cases heff with
  | read | judge | handle => exact .inl rfl
  | put q' e hpc =>
    have hknown : PostPc.Knows w p.posted (.handled q' e) := hpc ▸ h
    have hlt : q' < w.heap.length := by
      rw [← SseWorld.length_heapIds]
      exact (List.getElem?_eq_some_iff.1 hknown.1).1
    rw [SseWorld.items_put hlt]
    split_ifs with hq
    · rw [hq]
      exact .inr ⟨e, hpc, rfl⟩
    · exact .inl rfl

/-- A stream, after the step of a post. -/
theorem Effect.relies_stream (heff : p.Effect redisReady w w' p') (h : p.Knows w)
    (hR : R.Relies redisReady w)
    (hread : p.posted.sessionId = R.sessionId → p.ReadIn redisReady R) :
    R.Relies redisReady w' := by
  obtain ⟨-, hissued, hids, hview⟩ := heff.sessionId
  -- The only thing that may be new is a response at the end of the queue.
  have hwaiting : R.waiting w' = R.waiting w ∨ ∃ q e, R.queue = some q ∧ p.pc = .handled q e ∧
      R.waiting w' = R.waiting w ++ [e] := by
    unfold Stream.waiting
    rcases hq : R.queue with - | q
    · exact .inl rfl
    · rcases heff.items h q with heq | ⟨e, hpc, heq⟩
      · exact .inl heq
      · exact .inr ⟨q, e, rfl, hpc, heq⟩
  have hnew (q : ℕ) (e : Envelope) (hq : R.queue = some q) (hpc : p.pc = .handled q e) :
      e.Lawful w.issued R.sessionId ∧ R.Timely redisReady e.readAt := by
    have hknown : PostPc.Knows w p.posted (.handled q e) := hpc ▸ h
    have hsid : p.posted.sessionId = R.sessionId :=
      Option.some.inj (hknown.1.symm.trans (hR.owns q hq))
    have hin : PostPc.ReadIn redisReady R (.handled q e) := hpc ▸ hread hsid
    exact ⟨hsid ▸ hknown.2, hin⟩
  refine ⟨hissued ▸ hR.issued, (hview _).trans hR.view, fun q hq ↦ hids ▸ hR.owns q hq,
    fun hq ↦ hids ▸ hR.unowned hq, hR.early, hR.idle, fun e he ↦ ?_, fun e he ↦ ?_⟩
  · rw [hissued]
    rcases hwaiting with heq | ⟨q, e', hq, hpc, heq⟩
    · exact hR.lawful e (heq ▸ he)
    · rw [heq, ← List.append_assoc, List.mem_append, List.mem_singleton] at he
      rcases he with he | rfl
      · exact hR.lawful e he
      · exact (hnew q e hq hpc).1
  · rcases hwaiting with heq | ⟨q, e', hq, hpc, heq⟩
    · exact hR.timely e (heq ▸ he)
    · rw [heq, ← List.append_assoc, List.mem_append, List.mem_singleton] at he
      rcases he with he | rfl
      · exact hR.timely e he
      · exact (hnew q e hq hpc).2

end Post

/-! ### The system -/

namespace SseProcess

variable {x x' y : SseProcess}

/-- A machine keeps what it relies on, when nothing changes but the sessions that are given out and
the time. -/
theorem Relies.frame (h : x.Relies redisReady w) (hgrow : w.Grows w')
    (hview : ∀ sid, w'.view sid = w.view sid) (hheap : w'.heap = w.heap) :
    x.Relies redisReady w' := by
  rcases x with S | p
  · refine Stream.Relies.frame h hgrow (hview _) (fun hmem ↦ ?_) fun q _ ↦ ?_
    · unfold SseWorld.heapIds at hmem ⊢
      rwa [hheap] at hmem
    · unfold SseWorld.items
      rw [hheap]
  · exact PostPc.Knows.mono h hgrow

/-- The machine that moves. -/
theorem Effect.own (heff : Effect redisReady w x w' x') (h : x.Relies redisReady w)
    (hw : w.Consistent) : w'.Consistent ∧ x'.Relies redisReady w' := by
  cases heff with
  | stream heff => exact ⟨heff.consistent h hw, heff.relies h⟩
  | post heff => exact ⟨heff.consistent hw, heff.knows h hw⟩

/-- Another machine. -/
theorem Effect.other (heff : Effect redisReady w x w' x') (h : x.Relies redisReady w)
    (hy : y.Relies redisReady w) (hxy : x.Apart redisReady y) (hyx : y.Apart redisReady x) :
    y.Relies redisReady w' := by
  cases heff with
  | stream heff =>
    rcases y with R | p
    · exact heff.relies_other h hyx hy
    · exact PostPc.Knows.mono hy (heff.grows h)
  | post heff =>
    rcases y with R | p
    · exact heff.relies_stream h hy hxy
    · exact PostPc.Knows.mono hy heff.grows

/-- The machine that moves, and another one. -/
theorem Effect.pair (heff : Effect redisReady w x w' x') (hy : y.Relies redisReady w)
    (hxy : x.Apart redisReady y) (hyx : y.Apart redisReady x) :
    x'.Apart redisReady y ∧ y.Apart redisReady x' := by
  cases heff with
  | stream heff =>
    have hid := heff.fixed.1
    rcases y with R | p
    · exact ⟨fun he ↦ hxy (hid ▸ he), fun he ↦ hyx (hid ▸ he)⟩
    · exact ⟨trivial, fun hsid ↦ Post.readIn_of_effect heff (hyx (hid ▸ hsid))⟩
  | post heff =>
    rcases y with R | p
    · refine ⟨fun hsid ↦ ?_, trivial⟩
      rw [heff.sessionId.1] at hsid
      exact heff.readIn hy hsid (hxy hsid)
    · exact ⟨trivial, trivial⟩

theorem Relies.dead (h : x.Relies redisReady w) : x.dead.Relies redisReady w := by
  rcases x with S | p
  · exact ⟨h.issued, h.view, h.owns, h.unowned, h.early, h.idle, h.lawful, h.timely⟩
  · exact h

theorem Apart.dead (hxy : x.Apart redisReady y) (hyx : y.Apart redisReady x) :
    x.dead.Apart redisReady y ∧ y.Apart redisReady x.dead := by
  rcases x with S | p <;> rcases y with R | p' <;> exact ⟨hxy, hyx⟩

end SseProcess

/-- **Every step keeps the invariant.** -/
theorem invariant_of_step {a : SseAction} (h : Invariant redisReady P)
    (hstep : (system redisReady).step P a = some Q) : Invariant redisReady Q := by
  have hw := h.store
  cases a with
  | tick elapsed =>
    obtain rfl := Option.some.inj hstep
    refine h.touch ⟨hw.issued, hw.redis, hw.mem, hw.queues, hw.heap, hw.owned⟩ fun i x hx ↦ ?_
    exact fun hrelies ↦ hrelies.frame ⟨fun _ h ↦ h, fun _ _ h ↦ h⟩ (fun _ ↦ rfl) rfl
  | connect server sid tenantId save delete =>
    obtain ⟨hfresh, hQ⟩ := Option.ite_none_left_eq_some.1 hstep
    obtain rfl := Option.some.inj hQ
    have hgrow : P.store.Grows { P.store with issued := (sid, tenantId) :: P.store.issued } :=
      ⟨fun _ h ↦ List.mem_cons_of_mem _ h, fun _ _ h ↦ h⟩
    -- Nothing is stored under a session that has not been given out.
    have hmem (t : Option PyStr) : (sid, t) ∉ P.store.issued :=
      fun ht ↦ hfresh (List.mem_map.2 ⟨_, ht, rfl⟩)
    have hview : P.store.view sid = .empty := by
      refine SessionView.ext ?_ (funext fun n ↦ ?_) (funext fun n ↦ ?_)
      · exact Option.eq_none_iff_forall_ne_some.2 fun x hx ↦ hmem _ (hw.redis sid x.1 x.2 hx)
      · exact Option.eq_none_iff_forall_ne_some.2 fun s hs ↦ hmem _ (hw.mem sid n s hs)
      · exact Option.eq_none_iff_forall_ne_some.2 fun q hq ↦
          hfresh (hw.owned sid (List.mem_of_getElem? (hw.queues sid n q hq)))
    refine h.spawn_one ⟨List.nodup_cons.2 ⟨hfresh, hw.issued⟩,
      fun sid s T hs ↦ hgrow.issued _ (hw.redis sid s T hs),
      fun sid n s hs ↦ hgrow.issued _ (hw.mem sid n s hs), hw.queues, hw.heap,
      fun sid hsid ↦ List.mem_cons_of_mem _ (hw.owned sid hsid)⟩
      (fun i x _ hx ↦ hx.frame hgrow (fun _ ↦ rfl) rfl) ?_ fun i x hx ↦ ?_
    · refine ⟨List.mem_cons_self, hview.trans ?_, nofun, fun _ hsid ↦ hfresh (hw.owned sid hsid),
        fun _ ↦ rfl, fun _ ↦ rfl, nofun, nofun⟩
      refine SessionView.ext rfl (funext fun n ↦ ?_) (funext fun n ↦ ?_)
      · simp [Stream.view, SessionView.empty]
      · simp [Stream.view, SessionView.empty]
    · have hrelies := h.each i x hx
      rcases x with R | p
      · have hne : R.sessionId ≠ sid := fun he ↦ hmem R.tenantId (he ▸ hrelies.issued)
        exact ⟨hne, hne.symm⟩
      · refine ⟨fun hsid ↦ ?_, trivial⟩
        -- A post that knows the session would know a tenant for it.
        have hknows : p.pc.Knows P.store p.posted := hrelies
        have hsid' : p.posted.sessionId = sid := hsid
        unfold Post.ReadIn
        cases hpc : p.pc with
        | start | answered => trivial
        | read raw t =>
          rw [hpc] at hknows
          rcases raw with - | s
          · trivial
          · exact absurd (hsid' ▸ hknows s rfl) (hmem _)
        | handling tenant q t =>
          rw [hpc] at hknows
          exact absurd (hsid' ▸ hknows.1) (hmem _)
        | handled q e =>
          rw [hpc] at hknows
          obtain ⟨t, ht, -⟩ := hknows.2.tenant
          exact absurd (hsid' ▸ ht) (hmem _)
  | post server posted answers host =>
    obtain rfl := Option.some.inj hstep
    refine h.spawn_one hw (fun i x _ hx ↦ hx) trivial fun i x hx ↦ ?_
    rcases x with R | p
    · exact ⟨trivial, fun _ ↦ trivial⟩
    · exact ⟨trivial, trivial⟩
  | advance m i =>
    refine h.advance hstep (fun x s y hx hnext ↦ ?_) (fun x s y j z hx hnext _ _ hz hxz hzx ↦ ?_)
      fun x s y j z hx hnext _ _ hz hxz hzx ↦ ?_
    · exact (SseProcess.effect_of_next hnext).own (h.each i x hx) hw
    · exact (SseProcess.effect_of_next hnext).other (h.each i x hx) hz hxz hzx
    · exact (SseProcess.effect_of_next hnext).pair hz hxz hzx
  | kill i =>
    obtain ⟨x, hx, rfl⟩ := Option.map_eq_some_iff.1 hstep
    exact h.kill_of_ne (h.each i x hx).dead fun j y hne hy ↦
      SseProcess.Apart.dead (h.pair i j x y hne.symm hx hy) (h.pair j i y x hne hy hx)

theorem invariant_initial (redisReady : ℕ → Bool) (now : Time) :
    Invariant redisReady (initial now) := by
  refine ⟨⟨List.nodup_nil, nofun, nofun, nofun, List.nodup_nil, nofun⟩, fun i x hx ↦ ?_,
    fun i j x y _ hx ↦ ?_⟩
  · exact absurd hx (by simp [initial])
  · exact absurd hx (by simp [initial])

theorem invariant_of_run_initial {now : Time} {as : List SseAction}
    (hrun : (system redisReady).run (initial now) as = some P) : Invariant redisReady P :=
  TransitionSystem.invariant_of_run' (fun _ _ _ ↦ invariant_of_step)
    (invariant_initial redisReady now) hrun

end Sse

end Siyadah
