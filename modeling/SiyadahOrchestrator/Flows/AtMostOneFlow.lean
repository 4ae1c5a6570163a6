import SiyadahOrchestrator.Flows.BuildGuarantee

/-!
# How many flows a build creates

A request whose response is lost, or turned into a 5xx answer on the way, may have been executed.
`_r` repeats it all the same, up to three attempts, and `POST /v1/flows/` is no exception. So a
build may create three flows, of which it knows one.

What ActivePieces has done is a `ServerHistory` of the exchanges: it has executed the requests that
it confirms, it has not executed the requests that it refuses, and the others may go either way. An
attempt at the creation leaves at most one request that may have been executed
(`countP_attempt_le`), and exactly one when it is to be repeated (`countP_attempt_of_repeated`).
-/

namespace Siyadah

open Dialogue SiyadahEngine PyValue

/-! ### What the server has done -/

/-- `POST /v1/flows/`. -/
def Call.isCreate : Call → Bool
  | .createFlow _ _ => true
  | _ => false

/-- The answer confirms that the request was executed. -/
def Reply.confirms : Reply → Bool
  | .answered r => r.isSuccess
  | .raised _ => false

/-- The request may have been executed: it was, or the response is lost or a 5xx. The other answers
refuse it. -/
def Reply.mayHaveExecuted : Reply → Bool
  | .raised _ => true
  | .answered r => r.isSuccess || (500 ≤ r.status ∧ r.status < 600)

theorem Reply.mayHaveExecuted_of_confirms {rep : Reply} (h : rep.confirms = true) :
    rep.mayHaveExecuted = true := by
  cases rep with
  | raised e => rfl
  | answered r =>
    have hsuccess : r.isSuccess = true := h
    simp [Reply.mayHaveExecuted, hsuccess]

/-- The exchanges `l`, each with whether the server has executed its request. -/
structure ServerHistory (l : List (Call × Reply)) where
  steps : List ((Call × Reply) × Bool)
  exchanges : steps.map Prod.fst = l
  confirmed : ∀ p ∈ steps, p.1.2.confirms = true → p.2 = true
  possible : ∀ p ∈ steps, p.2 = true → p.1.2.mayHaveExecuted = true

/-- The number of flows that the server has created. -/
def ServerHistory.flowsCreated {l : List (Call × Reply)} (h : ServerHistory l) : ℕ :=
  h.steps.countP fun p ↦ p.1.1.isCreate && p.2

/-- The exchange may have created a flow. -/
def mayHaveCreated (e : Call × Reply) : Bool := e.1.isCreate && e.2.mayHaveExecuted

/-- The history of a server that has executed whatever it may have executed. -/
def ServerHistory.busiest (l : List (Call × Reply)) : ServerHistory l where
  steps := l.map fun e ↦ (e, e.2.mayHaveExecuted)
  exchanges := List.map_map.trans (List.map_id l)
  confirmed p hp h := by
    obtain ⟨e, -, rfl⟩ := List.mem_map.1 hp
    exact Reply.mayHaveExecuted_of_confirms h
  possible p hp h := by
    obtain ⟨e, -, rfl⟩ := List.mem_map.1 hp
    exact h

theorem ServerHistory.flowsCreated_busiest (l : List (Call × Reply)) :
    (ServerHistory.busiest l).flowsCreated = l.countP mayHaveCreated :=
  List.countP_map

/-- No server has created more flows than there are requests that may have created one. -/
theorem ServerHistory.flowsCreated_le {l : List (Call × Reply)} (h : ServerHistory l) :
    h.flowsCreated ≤ l.countP mayHaveCreated :=
  calc h.flowsCreated
    _ ≤ h.steps.countP (mayHaveCreated ∘ Prod.fst) := by
      refine List.countP_mono_left fun p hp hcreated ↦ ?_
      obtain ⟨hcreate, hdone⟩ := Bool.and_eq_true_iff.1 hcreated
      exact Bool.and_eq_true_iff.2 ⟨hcreate, h.possible p hp hdone⟩
    _ = (h.steps.map Prod.fst).countP mayHaveCreated := List.countP_map.symm
    _ = l.countP mayHaveCreated := by rw [h.exchanges]

/-- The number of flows is bounded for all servers when the number of requests that may have created
one is. -/
theorem flowsCreated_le_iff {l : List (Call × Reply)} {n : ℕ} :
    (∀ h : ServerHistory l, h.flowsCreated ≤ n) ↔ l.countP mayHaveCreated ≤ n :=
  ⟨fun h ↦ ServerHistory.flowsCreated_busiest l ▸ h (.busiest l),
    fun hl h ↦ h.flowsCreated_le.trans hl⟩

/-! ### One attempt at the creation -/

section Attempts

variable {X : Httpx} {q : Call} {s t : Engine} {l : List (Call × Reply)}

theorem countP_eq_zero_of_signIn (h : ∀ e ∈ l, e.1 = .signIn) : l.countP mayHaveCreated = 0 := by
  refine List.countP_eq_zero.2 fun e he ↦ ?_
  simp [mayHaveCreated, h e he, Call.isCreate]

/-- A response that makes the attempt fail with a repeatable exception is a 5xx. -/
theorem Response.mayHaveExecuted_of_decode {resp : Response} {e : EngineError}
    (h : resp.decode = .error e) (hagain : isRetryableEngineError e = true) :
    Reply.mayHaveExecuted (.answered resp) = true := by
  rw [Response.decode] at h
  split at h
  · obtain rfl := Except.error.inj h
    exact Bool.or_eq_true_iff.2 (.inr hagain)
  · rename_i hsuccess
    exact Bool.or_eq_true_iff.2 (.inl (by simpa using hsuccess))

/-- An attempt sends at most one request that may be executed: a 401 refuses the first one. -/
theorem countP_attempt_le {x : Except EngineError PyValue} (h : (attempt X q).Runs s l x t) :
    l.countP mayHaveCreated ≤ 1 := by
  rcases runs_bind_of_sends (P := fun _ ↦ False) sends_ensureClient h with
    ⟨-, hl⟩ | ⟨l₁, l₂, _, u, rfl, hl₁, -, h₂⟩
  · rw [List.eq_nil_iff_forall_not_mem.2 hl]
    exact Nat.zero_le 1
  obtain rfl : l₁ = [] := List.eq_nil_iff_forall_not_mem.2 hl₁
  obtain ⟨rep, k, rfl, h₃⟩ := runs_ask_bind_iff.1 h₂
  have hhead : List.countP mayHaveCreated [(q, rep)] ≤ 1 := List.countP_le_length
  rw [List.nil_append, ← List.singleton_append, List.countP_append]
  cases rep with
  | raised e =>
    have hk : k = [] := by cases e <;> exact (runs_raise_iff.1 h₃).1
    rw [hk]
    exact hhead
  | answered resp =>
    rw [runs_getState_bind_iff] at h₃
    split at h₃
    · rename_i hunauthorized
      have hrefused : List.countP mayHaveCreated [(q, .answered resp)] = 0 := by
        simp [mayHaveCreated, Reply.mayHaveExecuted, Response.isSuccess, hunauthorized.1]
      have hk : k.countP mayHaveCreated ≤ 1 := by
        rcases runs_bind_iff.1 h₃ with ⟨k₁, k₂, resp', v, rfl, hk₁, hk₂⟩ | ⟨e, -, h'⟩
        · obtain ⟨rfl, -⟩ := runs_lift_iff.1 hk₂
          obtain ⟨j₁, j₂, rfl, hsign, hlen⟩ := runs_reauthenticate_split hk₁
          rw [List.append_nil, List.countP_append, countP_eq_zero_of_signIn hsign, Nat.zero_add]
          exact List.countP_le_length.trans hlen
        · obtain ⟨j₁, j₂, rfl, hsign, hlen⟩ := runs_reauthenticate_split h'
          rw [List.countP_append, countP_eq_zero_of_signIn hsign, Nat.zero_add]
          exact List.countP_le_length.trans hlen
      omega
    · obtain ⟨rfl, -⟩ := runs_lift_iff.1 h₃
      exact hhead

/-- An attempt that is to be repeated has sent a request that may have been executed. -/
theorem countP_attempt_of_repeated (hq : q.isCreate = true) {e : EngineError}
    (hagain : isRetryableEngineError e = true) (h : (attempt X q).Runs s l (.error e) t) :
    0 < l.countP mayHaveCreated := by
  have hpos : ∀ rep : Reply, rep.mayHaveExecuted = true → (q, rep) ∈ l →
      0 < l.countP mayHaveCreated := fun rep hrep hmem ↦
    List.countP_pos_iff.2 ⟨_, hmem, Bool.and_eq_true_iff.2 ⟨hq, hrep⟩⟩
  rcases runs_bind_iff.1 h with ⟨l₁, l₂, _, u, rfl, h₁, h₂⟩ | ⟨e', he, h'⟩
  swap
  · -- Without a client nothing is sent, and nothing is repeated.
    obtain rfl := Except.error.inj he
    obtain ⟨-, rfl, -⟩ := runs_ensureClient_error_iff.1 h'
    exact absurd hagain (by decide)
  obtain ⟨rfl, -⟩ := runs_ensureClient_ok h₁
  obtain ⟨rep, k, rfl, h₃⟩ := runs_ask_bind_iff.1 h₂
  cases rep with
  | raised e' => exact hpos (.raised e') rfl List.mem_cons_self
  | answered resp =>
    rw [runs_getState_bind_iff] at h₃
    split at h₃
    · rename_i hunauthorized
      have hq' : q ≠ .signIn := by
        rintro rfl
        exact absurd hq (by decide)
      rcases runs_bind_iff.1 h₃ with ⟨k₁, k₂, resp', v, rfl, hk₁, hk₂⟩ | ⟨e', -, h'⟩
      swap
      · obtain ⟨resp', hx, -⟩ := runs_reauthenticate hq' h'
        exact absurd hx (by simp)
      obtain ⟨rfl, hdecode, -⟩ := runs_lift_iff.1 hk₂
      have hmay := Response.mayHaveExecuted_of_decode hdecode.symm hagain
      obtain ⟨resp'', hresp, hcase⟩ := runs_reauthenticate hq' hk₁
      obtain rfl := Except.ok.inj hresp
      rcases hcase with ⟨rfl, -⟩ | ⟨l', rfl, -⟩
      · -- The first response is a 401, which is not repeated.
        exact absurd hmay (by
          simp [Reply.mayHaveExecuted, Response.isSuccess, hunauthorized.1])
      · exact hpos _ hmay (by simp)
    · obtain ⟨rfl, hdecode, -⟩ := runs_lift_iff.1 h₃
      exact hpos _ (Response.mayHaveExecuted_of_decode hdecode.symm hagain) List.mem_cons_self

end Attempts

/-! ### A whole build -/

section Build

variable {env : BuildEnv} {b : BuildRequest} {eng eng' : Engine} {l : List (Call × Reply)}
  {x : Except EngineError BuildResult}

/-- The request that creates the flow of the build. -/
def createCall (env : BuildEnv) (b : BuildRequest) : Call :=
  .createFlow (buildPid env b) (buildName env b)

/-- When the first attempt at the creation is to be repeated, the requests that repeat it are
refused. -/
def RepetitionsRefused (env : BuildEnv) (b : BuildRequest) (eng : Engine)
    (l : List (Call × Reply)) : Prop :=
  ∀ l₁ l₂ e u, l = l₁ ++ l₂ → (attempt env.httpx (createCall env b)).Runs eng l₁ (.error e) u →
    isRetryableEngineError e = true →
    ∀ ex ∈ l₂, ex.1.isCreate = true → ex.2.mayHaveExecuted = false

/-- Only the creation sends requests that create flows. -/
theorem countP_buildCreated {fid : PyValue} (h : (buildCreated env b fid).Runs eng l x eng') :
    l.countP mayHaveCreated = 0 := by
  refine List.countP_eq_zero.2 fun e he ↦ ?_
  have hno : e.1.isCreate = false :=
    sends_buildCreated (P := fun c ↦ c.isCreate = false) rfl (fun _ _ ↦ rfl) rfl rfl rfl
      (fun _ ↦ rfl) (fun _ _ ↦ rfl) eng l x eng' h e he
  simp [mayHaveCreated, hno]

/-- A build sends nothing, or it tries to create a flow; what comes after that creates none. -/
theorem runs_goldenBuild_create (h : (goldenBuild env b).Runs eng l x eng') :
    l = [] ∨ ∃ l₁ l₂ y u, l = l₁ ++ l₂ ∧
      (createFlow env.httpx (buildPid env b) (buildName env b)).Runs eng l₁ y u ∧
      l₂.countP mayHaveCreated = 0 := by
  rcases runs_bind_iff.1 h with ⟨l₀, l₁, _, u, rfl, h₀, h₁⟩ | ⟨e, rfl, h'⟩
  swap
  · exact .inl (runs_preflight h').1
  obtain ⟨rfl, rfl, -⟩ := runs_preflight h₀
  rcases runs_bind_iff.1 h₁ with ⟨lc, l₂, flow, v, rfl, hcreate, h₂⟩ | ⟨e, rfl, h'⟩
  swap
  · exact .inr ⟨l₁, [], _, _, (List.append_nil _).symm, h', rfl⟩
  refine .inr ⟨lc, l₂, _, v, rfl, hcreate, ?_⟩
  rcases runs_ofPy_bind_iff.1 h₂ with ⟨fid, -, h₃⟩ | ⟨e, -, rfl, -, -⟩
  · exact countP_buildCreated h₃
  · rfl

/-- **How many flows a build creates.** At most three; and at most one, whatever ActivePieces has
made of the requests that it did not answer, exactly if the first attempt at the creation is not
repeated or the repetitions are refused. -/
theorem flows_created_by_build (env : BuildEnv) (b : BuildRequest) (eng eng' : Engine)
    (l : List (Call × Reply)) (x : Except EngineError BuildResult)
    (hrun : (goldenBuild env b).Runs eng l x eng') :
    (∀ h : ServerHistory l, h.flowsCreated ≤ 3) ∧
      ((∀ h : ServerHistory l, h.flowsCreated ≤ 1) ↔ RepetitionsRefused env b eng l) := by
  rw [flowsCreated_le_iff, flowsCreated_le_iff]
  rcases runs_goldenBuild_create hrun with rfl | ⟨lc, lb, y, u, rfl, hcreate, hlb⟩
  · refine ⟨Nat.zero_le 3, fun _ l₁ l₂ e u hl _ _ ex hex ↦ ?_, fun _ ↦ Nat.zero_le 1⟩
    rw [(List.append_eq_nil_iff.1 hl.symm).2] at hex
    exact absurd hex List.not_mem_nil
  have hthree : lc.countP mayHaveCreated ≤ 3 :=
    countP_retry_le (n := 2) (c := 1) (fun _ _ _ _ h ↦ countP_attempt_le h) hcreate
  have hcount : (lc ++ lb).countP mayHaveCreated = lc.countP mayHaveCreated := by
    rw [List.countP_append, hlb, Nat.add_zero]
  refine ⟨hcount ▸ hthree, fun hone l₁ l₂ e v hl hfirst hagain ex hex hcreates ↦ ?_,
    fun hrefused ↦ ?_⟩
  · -- The first attempt has used up the one request that may be executed.
    by_contra hmay
    have hpos := countP_attempt_of_repeated rfl hagain hfirst
    have hrest : 0 < l₂.countP mayHaveCreated := by
      refine List.countP_pos_iff.2 ⟨ex, hex, Bool.and_eq_true_iff.2 ⟨hcreates, ?_⟩⟩
      exact Bool.not_eq_false _ ▸ hmay
    rw [hl, List.countP_append] at hone
    omega
  · rw [hcount]
    rcases runs_retry_succ_iff.1 hcreate with ⟨hfirst, -⟩ | ⟨l₁, l₂, e, v, rfl, hagain, hfirst, -⟩
    · exact countP_attempt_le hfirst
    · have hone := countP_attempt_le hfirst
      have hzero : l₂.countP mayHaveCreated = 0 := by
        refine List.countP_eq_zero.2 fun ex hex hmay ↦ ?_
        obtain ⟨hcreates, hexecuted⟩ := Bool.and_eq_true_iff.1 hmay
        have hno := hrefused l₁ (l₂ ++ lb) e v (List.append_assoc _ _ _) hfirst hagain ex
          (List.mem_append_left lb hex) hcreates
        exact absurd (hno.symm.trans hexecuted) (by simp)
      rw [List.countP_append]
      omega

end Build

/-- The replies to the sample build when the response to the first creation is lost. -/
def creationLost : List Reply := .raised .timeout :: sampleReplies sampleTrigger

theorem countP_creationLost :
    ((goldenBuild sampleEnv sampleBuild).exchangesOn sampleEngine
      (scriptOf creationLost)).countP mayHaveCreated = 2 := by
  decide +kernel

theorem flows_created_by_build_example : ∃ l x eng,
    (goldenBuild sampleEnv sampleBuild).Runs sampleEngine l x eng ∧
      (∀ h : ServerHistory l, h.flowsCreated ≤ 3) ∧
      ¬ RepetitionsRefused sampleEnv sampleBuild sampleEngine l := by
  obtain ⟨x, eng, hrun⟩ := exists_run_exchangesOn (goldenBuild sampleEnv sampleBuild) sampleEngine
    (scriptOf creationLost)
  have h := flows_created_by_build sampleEnv sampleBuild sampleEngine eng _ x hrun
  refine ⟨_, x, eng, hrun, h.1, fun hrefused ↦ ?_⟩
  have hone := flowsCreated_le_iff.1 (h.2.2 hrefused)
  rw [countP_creationLost] at hone
  omega

/-- The first request is executed and its response lost; the second one is executed and answered. -/
theorem lost_response_creates_second_flow :
    ¬ ∀ (env : BuildEnv) (b : BuildRequest) (eng eng' : Engine) (l : List (Call × Reply))
      (x : Except EngineError BuildResult), (goldenBuild env b).Runs eng l x eng' →
      ∀ h : ServerHistory l, h.flowsCreated ≤ 1 := by
  intro h
  obtain ⟨x, eng, hrun⟩ := exists_run_exchangesOn (goldenBuild sampleEnv sampleBuild) sampleEngine
    (scriptOf creationLost)
  have hone := flowsCreated_le_iff.1 (h sampleEnv sampleBuild sampleEngine eng _ x hrun)
  rw [countP_creationLost] at hone
  omega

end Siyadah
