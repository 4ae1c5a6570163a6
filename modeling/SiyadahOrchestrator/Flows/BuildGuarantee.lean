import SiyadahOrchestrator.Flows.GoldenBuild

/-!
# What a returned build guarantees

Nothing is assumed about ActivePieces here: the replies are arbitrary, so they may contradict each
other. What `golden_build` promises when it returns is therefore read off the exchanges of the run:
what it has sent, in which order, and what it was told.

`readings` lists the flows that a run has read back. The first of them is the verification, the last
one the final read; `runs_buildCreated` splits a run at the gates between the import and the
publication, and everything in this module is drawn from that split.
-/

namespace Siyadah

open Dialogue SiyadahEngine PyValue

/-! ### What the exchanges of a run show -/

/-- The flow that a `GET` asks for. -/
def Call.readTarget : Call → Option PyValue
  | .getFlow fid => some fid
  | _ => none

/-- `LOCK_AND_PUBLISH`. -/
def Call.isPublish : Call → Bool
  | .flowOperation _ .lockAndPublish => true
  | _ => false

/-- `IMPORT_FLOW`. -/
def Call.isImport : Call → Bool
  | .flowOperation _ (.importFlow _ _) => true
  | _ => false

/-- The flows that have been read back, with what was read. -/
def readings (l : List (Call × Reply)) : List (PyValue × PyValue) :=
  l.filterMap fun e ↦ e.1.readTarget.bind fun fid ↦ e.2.value?.map fun v ↦ (fid, v)

section Readings

variable {X : Httpx} {s t : Engine} {l l' : List (Call × Reply)} {fid v : PyValue}

@[simp] theorem readings_append : readings (l ++ l') = readings l ++ readings l' :=
  List.filterMap_append

theorem readings_of_no_read (h : ∀ e ∈ l, e.1.readTarget = none) : readings l = [] := by
  refine List.filterMap_eq_nil_iff.2 fun e he ↦ ?_
  rw [h e he]
  rfl

/-- Requests that are left unanswered read nothing. -/
theorem readings_of_unanswered (hsends : ∀ e ∈ l, e.1 = .getFlow fid ∨ e.1 = .signIn)
    (h : ∀ e ∈ l, Unanswered (.getFlow fid) e) : readings l = [] := by
  refine List.filterMap_eq_nil_iff.2 fun e he ↦ ?_
  rcases hsends e he with hget | hsign
  · rw [h e he hget, hget]
    rfl
  · rw [hsign]
    rfl

/-- A `GET` that returns has read the flow once. -/
theorem readings_getFlow_ok (h : (getFlow X fid).Runs s l (.ok v) t) : readings l = [(fid, v)] := by
  obtain ⟨l₁, rep, rfl, hvalue, hl₁, -⟩ := runs_r_ok (by simp) h
  have hsends := sends_r (.getFlow fid) s _ _ t h
  have hfirst : readings l₁ = [] :=
    readings_of_unanswered (fun e he ↦ hsends e (List.mem_append_left _ he)) hl₁
  have hlast : readings [(.getFlow fid, rep)] = [(fid, v)] := by
    simp [readings, Call.readTarget, hvalue]
  rw [readings_append, hfirst, hlast]
  rfl

end Readings

/-! ### The gates -/

section Gates

variable {env : BuildEnv} {b : BuildRequest} {fid : PyValue} {s t : Engine}
  {l : List (Call × Reply)}

/-- `golden_build` behind the gates. -/
def afterGates (env : BuildEnv) (b : BuildRequest) (fid verified : PyValue) :
    EngineM BuildResult := do
  let ttype ← ofPy (triggerTypeOf verified (py "?"))
  let (pub, read) ← publishAndConfirm env fid
  finish env b fid ttype pub read

/-- The exchanges `l` show that the flow was stamped for the building tenant before any import. -/
def StampedBeforeImport (env : BuildEnv) (b : BuildRequest) (fid : PyValue)
    (l : List (Call × Reply)) : Prop :=
  ∃ l₁ l₂ metadata rep, l = l₁ ++ l₂ ∧ (.flowOperation fid (.updateMetadata metadata), rep) ∈ l₁ ∧
    metadata.get "tenantId" = .ok (.str (buildPid env b)) ∧ rep.value?.isSome ∧
    ∀ e ∈ l₁, e.1.isImport = false

/-- The tree that was read back passes the gates: it is not empty, has not lost steps, and has no
invalid step. -/
structure TreeAccepted (b : BuildRequest) (verified : PyValue) : Prop where
  notEmpty : ∃ ttype, triggerTypeOf verified (py "UNKNOWN") = .ok ttype ∧
    ttype.isStr (text "EMPTY") = false
  graphs : ∃ before after, beforeGraph b = .ok before ∧ walkFlowTree verified = .ok after ∧
    before.totalSteps ≤ after.totalSteps ∧ ∀ step ∈ after.steps, step.valid.isFalse = false

theorem runs_stampMetadata_ok {x : Unit} (h : (stampMetadata env b fid).Runs s l (.ok x) t) :
    ∃ l' rep, l = l' ++ [(.flowOperation fid (.updateMetadata (sovereignMeta env b)), rep)] ∧
      rep.value?.isSome ∧ t.hasClient = true := by
  rcases runs_handle_iff.1 h with ⟨a, -, h'⟩ | ⟨l₁, l₂, e, u, rfl, -, h₂⟩
  · obtain ⟨l₁, l₂, v, u, rfl, h₁, h₂⟩ := runs_bind_ok_iff.1 h'
    obtain ⟨rfl, -, rfl⟩ := runs_pure_iff.1 h₂
    obtain ⟨l', rep, rfl, hvalue, -, hclient⟩ := runs_r_ok (by simp) h₁
    exact ⟨l', rep, List.append_nil _, by rw [hvalue]; rfl, hclient⟩
  · -- The handler ends with an exception.
    obtain ⟨k₁, k₂, _, v, -, -, hraise⟩ := runs_bind_ok_iff.1 h₂
    exact absurd (runs_raise_iff.1 hraise).2.1 (by simp)

theorem runs_verifyFlow_ok {X : Httpx} {v : PyValue}
    (h : (verifyFlow X fid).Runs s l (.ok v) t) :
    readings l = [(fid, v)] ∧ t.hasClient = true ∧ ∃ ttype,
      triggerTypeOf v (py "UNKNOWN") = .ok ttype ∧ ttype.isStr (text "EMPTY") = false := by
  obtain ⟨l₁, l₂, flow, u, rfl, h₁, h₂⟩ := runs_bind_ok_iff.1 h
  obtain ⟨k₁, k₂, ttype, w, rfl, hk₁, hk₂⟩ := runs_bind_ok_iff.1 h₂
  obtain ⟨rfl, httype, rfl⟩ := runs_ofPy_ok_iff.1 hk₁
  split at hk₂
  · exact absurd (runs_raise_iff.1 hk₂).2.1 (by simp)
  · rename_i hempty
    obtain ⟨rfl, hv, rfl⟩ := runs_pure_iff.1 hk₂
    obtain rfl := Except.ok.inj hv
    obtain ⟨-, -, -, -, -, hclient⟩ := runs_r_ok (by simp) h₁
    refine ⟨?_, hclient, ttype, httype, Bool.eq_false_iff.2 hempty⟩
    rw [List.nil_append, List.append_nil, readings_getFlow_ok h₁]

theorem runs_checkImported_ok {before after : FlowGraph} {x : Unit}
    (h : (checkImported env fid before after).Runs s l (.ok x) t) : l = [] ∧ t = s ∧
    before.totalSteps ≤ after.totalSteps ∧ ∀ step ∈ after.steps, step.valid.isFalse = false := by
  unfold checkImported at h
  split at h
  · obtain ⟨k₁, k₂, _, v, -, -, hraise⟩ := runs_bind_ok_iff.1 h
    exact absurd (runs_raise_iff.1 hraise).2.1 (by simp)
  · rename_i hsteps
    split at h
    · obtain ⟨k₁, k₂, _, v, -, -, hraise⟩ := runs_bind_ok_iff.1 h
      exact absurd (runs_raise_iff.1 hraise).2.1 (by simp)
    · rename_i hinvalid
      obtain ⟨rfl, -, rfl⟩ := runs_pure_iff.1 h
      refine ⟨rfl, rfl, Nat.le_of_not_lt hsteps, fun step hstep ↦ ?_⟩
      by_contra hvalid
      have hmem : step ∈ after.invalidSteps :=
        List.mem_filter.2 ⟨hstep, Bool.not_eq_false _ ▸ hvalid⟩
      have hnil : after.invalidSteps = [] := List.isEmpty_iff.1 (by simpa using hinvalid)
      exact absurd (hnil ▸ hmem) List.not_mem_nil

/-- **The gates.** A build either raises without having published, or it gets past the gates: the
flow is stamped and only then imported, it has been read back once, and the tree is accepted. -/
theorem runs_buildCreated {x : Except EngineError BuildResult}
    (h : (buildCreated env b fid).Runs s l x t) :
    ((∃ e, x = .error e) ∧ ∀ e ∈ l, e.1.isPublish = false) ∨
      ∃ l₁ l₂ u verified, l = l₁ ++ l₂ ∧ StampedBeforeImport env b fid l₁ ∧
        readings l₁ = [(fid, verified)] ∧ TreeAccepted b verified ∧
        (afterGates env b fid verified).Runs u l₂ x t := by
  -- Before the gates nothing is published; a stage that raises ends the build there.
  let P : Call → Prop := fun c ↦ c.isPublish = false
  have himport : Sends P (importFlow env.httpx fid (buildName env b) b.trigger) :=
    sends_r_of rfl rfl
  rcases runs_bind_of_sends (P := P) (sends_stampMetadata rfl rfl rfl) h with
    ⟨⟨e, rfl, -⟩, hl⟩ | ⟨lstamp, l, _, u, rfl, hp₁, hstamp, h₁⟩
  · exact .inl ⟨⟨e, rfl⟩, hl⟩
  rcases runs_ofPy_bind_iff.1 h₁ with ⟨before, hbefore, h₂⟩ | ⟨e, -, rfl, rfl, -⟩
  swap
  · exact .inl ⟨⟨_, rfl⟩, by simpa using hp₁⟩
  rcases runs_bind_of_sends himport h₂ with
    ⟨⟨e, rfl, -⟩, hp₂⟩ | ⟨limport, l, _, u₂, rfl, hp₂, himported, h₃⟩
  · exact .inl ⟨⟨e, rfl⟩, List.forall_mem_append.2 ⟨hp₁, hp₂⟩⟩
  rcases runs_bind_of_sends (P := P) (sends_verifyFlow rfl rfl) h₃ with
    ⟨⟨e, rfl, -⟩, hp₃⟩ | ⟨lverify, l, verified, u₃, rfl, hp₃, hverify, h₄⟩
  · exact .inl ⟨⟨e, rfl⟩, List.forall_mem_append.2 ⟨hp₁, List.forall_mem_append.2 ⟨hp₂, hp₃⟩⟩⟩
  rcases runs_ofPy_bind_iff.1 h₄ with ⟨after, hafter, h₅⟩ | ⟨e, -, rfl, rfl, -⟩
  swap
  · refine .inl ⟨⟨_, rfl⟩, ?_⟩
    rw [List.append_nil]
    exact List.forall_mem_append.2 ⟨hp₁, List.forall_mem_append.2 ⟨hp₂, hp₃⟩⟩
  rcases runs_bind_of_sends (P := P) (sends_checkImported rfl rfl) h₅ with
    ⟨⟨e, rfl, -⟩, hp₄⟩ | ⟨lcheck, l, _, u₄, rfl, hp₄, hcheck, h₆⟩
  · exact .inl ⟨⟨e, rfl⟩, List.forall_mem_append.2 ⟨hp₁, List.forall_mem_append.2 ⟨hp₂,
      List.forall_mem_append.2 ⟨hp₃, hp₄⟩⟩⟩⟩
  -- Past the gates: the reads and the imports are where the stages put them.
  obtain ⟨rfl, rfl, hsteps, hvalid⟩ := runs_checkImported_ok hcheck
  obtain ⟨hread, -, hempty⟩ := runs_verifyFlow_ok hverify
  obtain ⟨lfirst, rep, hlstamp, hrep, -⟩ := runs_stampMetadata_ok hstamp
  refine .inr ⟨lstamp ++ (limport ++ lverify), l, _, verified, by simp, ?_, ?_, ?_, h₆⟩
  · refine ⟨lstamp, limport ++ lverify, sovereignMeta env b, rep, rfl, ?_, ?_, hrep, ?_⟩
    · rw [hlstamp]
      exact List.mem_append_right _ List.mem_cons_self
    · exact sovereignMeta_tenantId env b
    · exact sends_stampMetadata (P := fun c ↦ c.isImport = false) rfl rfl rfl s lstamp _ u hstamp
  · have hstampRead : readings lstamp = [] := readings_of_no_read
      (sends_stampMetadata (P := fun c ↦ c.readTarget = none) rfl rfl rfl s lstamp _ u hstamp)
    have himportRead : readings limport = [] := by
      have hno : Sends (fun c ↦ c.readTarget = none)
          (importFlow env.httpx fid (buildName env b) b.trigger) := sends_r_of rfl rfl
      exact readings_of_no_read (hno _ _ _ _ himported)
    rw [readings_append, readings_append, hstampRead, himportRead, hread]
    rfl
  · exact ⟨hempty, before, after, hbefore, hafter, hsteps, hvalid⟩

theorem StampedBeforeImport.prepend {k : List (Call × Reply)} (h : StampedBeforeImport env b fid l)
    (hk : ∀ e ∈ k, e.1.isImport = false) : StampedBeforeImport env b fid (k ++ l) := by
  obtain ⟨l₁, l₂, metadata, rep, rfl, hmem, hstamp, hrep, hl₁⟩ := h
  refine ⟨k ++ l₁, l₂, metadata, rep, by simp, List.mem_append_right k hmem, hstamp, hrep, ?_⟩
  exact List.forall_mem_append.2 ⟨hk, hl₁⟩

theorem StampedBeforeImport.append (k : List (Call × Reply)) (h : StampedBeforeImport env b fid l) :
    StampedBeforeImport env b fid (l ++ k) := by
  obtain ⟨l₁, l₂, metadata, rep, rfl, hmem⟩ := h
  exact ⟨l₁, l₂ ++ k, metadata, rep, by simp, hmem⟩

theorem readFinal_status {final : PyValue} {read : FinalRead} (h : readFinal final = .ok read) :
    final.getD "status" (py "UNKNOWN") = .ok read.status := by
  obtain ⟨state, -, h⟩ := bind_eq_ok_iff.1 h
  obtain ⟨status, hstatus, h⟩ := bind_eq_ok_iff.1 h
  obtain ⟨published, -, h⟩ := bind_eq_ok_iff.1 h
  obtain ⟨version, -, h⟩ := bind_eq_ok_iff.1 h
  obtain ⟨versionId, -, h⟩ := bind_eq_ok_iff.1 h
  rw [hstatus, ← Except.ok.inj h]

/-- Behind the gates, a build that returns has read the flow last, as `ENABLED`. -/
theorem runs_afterGates_ok {verified : PyValue} {result : BuildResult}
    (h : (afterGates env b fid verified).Runs s l (.ok result) t) :
    result.flowId = fid ∧ ∃ final status, (readings l).getLast? = some (fid, final) ∧
      final.getD "status" (py "UNKNOWN") = .ok status ∧ status.isStr (text "ENABLED") := by
  obtain ⟨l₀, l₁, ttype, u, rfl, h₀, h₁⟩ := runs_bind_ok_iff.1 h
  obtain ⟨rfl, -⟩ := runs_ofPy_ok_iff.1 h₀
  obtain ⟨lpub, lfin, ⟨pub, read⟩, u₂, rfl, hpub, hfin⟩ := runs_bind_ok_iff.1 h₁
  -- The answer is assembled without another read.
  have hfinRead : readings lfin = [] := by
    have hno : Sends (fun c ↦ c.readTarget = none) (finish env b fid ttype pub read) :=
      sends_finish (fun _ ↦ rfl) (fun _ _ ↦ rfl)
    exact readings_of_no_read (hno _ _ _ _ hfin)
  have hflow : result.flowId = fid := by
    obtain ⟨k₁, k₂, _, _, -, -, hfin⟩ := runs_bind_ok_iff.1 hfin
    obtain ⟨k₁, k₂, _, _, -, -, hfin⟩ := runs_bind_ok_iff.1 hfin
    obtain ⟨k₁, k₂, _, _, -, -, hfin⟩ := runs_bind_ok_iff.1 hfin
    obtain ⟨k₁, k₂, _, _, -, -, hfin⟩ := runs_bind_ok_iff.1 hfin
    rw [Except.ok.inj (runs_pure_iff.1 hfin).2.1]
  -- The last stage that reads is the confirmation.
  obtain ⟨k₁, k₂, published, u₃, rfl, hk₁, hk₂⟩ := runs_bind_ok_iff.1 hpub
  obtain ⟨k₂, k₃, final, u₄, rfl, hget, hk₃⟩ := runs_bind_ok_iff.1 hk₂
  obtain ⟨k₃, k₄, read', u₅, rfl, hread, hk₄⟩ := runs_bind_ok_iff.1 hk₃
  obtain ⟨rfl, hfields, rfl⟩ := runs_ofPy_ok_iff.1 hread
  split at hk₄
  · rename_i henabled
    obtain ⟨rfl, -, -⟩ := runs_pure_iff.1 hk₄
    refine ⟨hflow, final, read'.status, ?_, ?_, henabled⟩
    · simp [readings_getFlow_ok hget, hfinRead]
    · exact readFinal_status hfields
  · exact absurd (runs_raise_iff.1 hk₄).2.1 (by simp)

/-- The pre-flight validation sends nothing, and lets a tree pass only without an error, unless it
is disarmed. -/
theorem runs_preflight {x : Except EngineError Unit} (h : (preflight env b).Runs s l x t) :
    l = [] ∧ t = s ∧ ∀ reg, env.registry = some (.ok reg) → reg.rows ≠ [] → x = .ok () →
      validateTrigger env.pyText.repr reg b.trigger = .ok [] := by
  have hl : l = [] := by
    have hnone := sends_preflight (P := fun _ ↦ False) s l x t h
    cases l with
    | nil => rfl
    | cons e l => exact (hnone e List.mem_cons_self).elim
  unfold preflight at h
  split at h
  · rename_i hreg
    exact ⟨hl, (runs_pure_iff.1 h).2.2, fun reg hsome ↦ absurd (hreg.symm.trans hsome) (by simp)⟩
  · rename_i e hreg
    refine ⟨hl, (runs_raise_iff.1 h).2.2, fun reg hsome ↦ absurd (hreg.symm.trans hsome) (by simp)⟩
  · rename_i reg hreg
    split at h
    · rename_i hempty
      refine ⟨hl, (runs_pure_iff.1 h).2.2, fun reg' hsome hrows ↦ ?_⟩
      obtain rfl := Except.ok.inj (Option.some.inj (hreg.symm.trans hsome))
      exact absurd (List.isEmpty_iff.1 hempty) hrows
    · rcases runs_ofPy_bind_iff.1 h with ⟨errors, herrors, h'⟩ | ⟨e, -, -, rfl, rfl⟩
      swap
      · exact ⟨hl, rfl, fun _ _ _ hx ↦ absurd hx (by simp)⟩
      split at h'
      · rename_i hnil
        refine ⟨hl, (runs_pure_iff.1 h').2.2, fun reg' hsome _ _ ↦ ?_⟩
        obtain rfl := Except.ok.inj (Option.some.inj (hreg.symm.trans hsome))
        rw [herrors, List.isEmpty_iff.1 hnil]
      · obtain ⟨-, rfl, rfl⟩ := runs_raise_iff.1 h'
        exact ⟨hl, rfl, fun _ _ _ hx ↦ absurd hx (by simp)⟩

/-- **The creation.** A build raises before it has a flow, or it has validated the tree and created
one, and goes on from there. -/
theorem runs_goldenBuild {x : Except EngineError BuildResult}
    (h : (goldenBuild env b).Runs s l x t) :
    ((∃ e, x = .error e) ∧ ∀ e ∈ l, e.1 = .createFlow (buildPid env b) (buildName env b) ∨
        e.1 = .signIn) ∨
      ∃ l₁ l₂ rep flow fid u, l = l₁ ++ l₂ ∧
        (preflight env b).Runs s [] (.ok ()) s ∧
        (createFlow env.httpx (buildPid env b) (buildName env b)).Runs s l₁ (.ok flow) u ∧
        (∃ l₀, l₁ = l₀ ++ [(.createFlow (buildPid env b) (buildName env b), rep)]) ∧
        rep.value? = some flow ∧ flow.getItem (text "id") = .ok fid ∧
        (buildCreated env b fid).Runs u l₂ x t := by
  rcases runs_bind_iff.1 h with ⟨l₀, l₁, _, u, rfl, h₀, h₁⟩ | ⟨e, rfl, h'⟩
  swap
  · obtain ⟨rfl, -⟩ := runs_preflight h'
    exact .inl ⟨⟨e, rfl⟩, fun e he ↦ absurd he List.not_mem_nil⟩
  obtain ⟨rfl, rfl, -⟩ := runs_preflight h₀
  rcases runs_bind_of_sends (sends_r _) h₁ with
    ⟨⟨e, rfl, -⟩, hl⟩ | ⟨lcreate, l, flow, u, rfl, hl, hcreate, h₂⟩
  · exact .inl ⟨⟨e, rfl⟩, hl⟩
  rcases runs_ofPy_bind_iff.1 h₂ with ⟨fid, hfid, h₃⟩ | ⟨e, -, rfl, rfl, -⟩
  · obtain ⟨l₀, rep, hlast, hrep, -⟩ := runs_r_ok (by simp) hcreate
    exact .inr ⟨lcreate, l, rep, flow, fid, u, rfl, h₀, hcreate, ⟨l₀, hlast⟩, hrep, hfid, h₃⟩
  · exact .inl ⟨⟨_, rfl⟩, by simpa using hl⟩

end Gates

/-! ### The guarantee -/

/-- What the exchanges `l` show of a flow `fid` that `golden_build` has returned. -/
structure BuildGuarantee (env : BuildEnv) (b : BuildRequest) (reg : PieceRegistry)
    (l : List (Call × Reply)) (fid : PyValue) : Prop where
  /-- The submitted tree has no validation error. -/
  validated : validateTrigger env.pyText.repr reg b.trigger = .ok []
  /-- The flow is the one that was created. -/
  created : ∃ rep flow, (.createFlow (buildPid env b) (buildName env b), rep) ∈ l ∧
    rep.value? = some flow ∧ flow.getItem (text "id") = .ok fid
  /-- It was stamped with the building tenant before any tree was imported. -/
  stamped : StampedBeforeImport env b fid l
  /-- The tree that was read back first is accepted. -/
  verified : ∃ tree, (readings l).head? = some (fid, tree) ∧ TreeAccepted b tree
  /-- The flow that was read back last is `ENABLED`. -/
  enabled : ∃ final status, (readings l).getLast? = some (fid, final) ∧
    final.getD "status" (py "UNKNOWN") = .ok status ∧ status.isStr (text "ENABLED")

/-- **A build that returns has done what it promises, whatever ActivePieces replies**; and when the
tree read back has fewer steps than the submitted one, the build raises and has published nothing.
-/
theorem golden_build_guarantee (env : BuildEnv) (b : BuildRequest) (reg : PieceRegistry)
    (hreg : env.registry = some (.ok reg)) (hrows : reg.rows ≠ []) (eng eng' : Engine)
    (l : List (Call × Reply)) (x : Except EngineError BuildResult)
    (hrun : (goldenBuild env b).Runs eng l x eng') :
    (∀ result, x = .ok result → BuildGuarantee env b reg l result.flowId) ∧
      ∀ fid tree before after, (readings l).head? = some (fid, tree) →
        beforeGraph b = .ok before → walkFlowTree tree = .ok after →
        after.totalSteps < before.totalSteps →
        (∃ e, x = .error e) ∧ ∀ e ∈ l, e.1.isPublish = false := by
  have hcreate : ∀ {l : List (Call × Reply)},
      (∀ e ∈ l, e.1 = .createFlow (buildPid env b) (buildName env b) ∨ e.1 = .signIn) →
      (∀ e ∈ l, e.1.isPublish = false) ∧ (∀ e ∈ l, e.1.isImport = false) ∧ readings l = [] := by
    intro l hl
    refine ⟨fun e he ↦ ?_, fun e he ↦ ?_, readings_of_no_read fun e he ↦ ?_⟩ <;>
      rcases hl e he with h | h <;> rw [h] <;> rfl
  rcases runs_goldenBuild hrun with
    ⟨⟨e, rfl⟩, hl⟩ | ⟨lc, l, rep, flow, fid, u, rfl, hpre, hc, ⟨l₀, hlast⟩, hrep, hfid, hbuild⟩
  · exact ⟨fun result hx ↦ absurd hx (by simp), fun _ _ _ _ _ _ _ _ ↦ ⟨⟨e, rfl⟩, (hcreate hl).1⟩⟩
  obtain ⟨hpublish, himport, hread⟩ := hcreate (sends_r _ _ _ _ _ hc)
  rcases runs_buildCreated hbuild with
    ⟨⟨e, rfl⟩, hl⟩ | ⟨l₁, l₂, v, tree, rfl, hstamped, hread₁, haccepted, hafter⟩
  · exact ⟨fun result hx ↦ absurd hx (by simp), fun _ _ _ _ _ _ _ _ ↦
      ⟨⟨e, rfl⟩, List.forall_mem_append.2 ⟨hpublish, hl⟩⟩⟩
  have hhead : (readings (lc ++ (l₁ ++ l₂))).head? = some (fid, tree) := by
    rw [readings_append, readings_append, hread, hread₁]
    rfl
  refine ⟨?_, fun fid' tree' before after hhead' hbefore hwalk hfewer ↦ ?_⟩
  · rintro result rfl
    obtain ⟨rfl, final, status, hfinal, hstatus, henabled⟩ := runs_afterGates_ok hafter
    refine ⟨(runs_preflight hpre).2.2 reg hreg hrows rfl, ⟨rep, flow, ?_, hrep, hfid⟩,
      (hstamped.append l₂).prepend himport, ⟨tree, hhead, haccepted⟩,
      ⟨final, status, ?_, hstatus, henabled⟩⟩
    · rw [hlast]
      simp
    · rw [readings_append, readings_append, List.getLast?_append, List.getLast?_append, hfinal]
      rfl
  · -- The tree that was read back is the one that the gates have accepted.
    obtain ⟨rfl, rfl⟩ := Prod.mk.inj (Option.some.inj (hhead'.symm.trans hhead))
    obtain ⟨before', after', hbefore', hwalk', hle, -⟩ := haccepted.graphs
    obtain rfl := Except.ok.inj (hbefore.symm.trans hbefore')
    obtain rfl := Except.ok.inj (hwalk.symm.trans hwalk')
    omega

/-! A flow of one webhook trigger, built by an ActivePieces that answers every request. -/

/-- A registry with one piece. -/
def sampleRegistry : PieceRegistry where
  rows := [⟨text "@activepieces/piece-gmail", text "0.12.1", none, [], []⟩]
  nodup_key := by decide
  nodup_uniq := by decide

/-- An environment with that registry. -/
def sampleEnv : BuildEnv where
  httpx := ⟨fun _ ↦ true⟩
  pyText := plainText
  registry := some (.ok sampleRegistry)
  defaultPid := text "default"
  apBaseUrl := text "https://ap"
  timeOfDay := text "10:00:00"
  stampedAt := text "2026-01-01T10:00:00"
  pulseAt := text "2026-01-01T10:00:05"

/-- A tree of one trigger. -/
def sampleTrigger : PyValue := pyDict [("type", py "WEBHOOK")]

/-- The build of that tree for a tenant. -/
def sampleBuild : BuildRequest where
  pid := text "p1"
  name := text "Leads"
  trigger := sampleTrigger
  ownerEmail := none

/-- An engine before its first request. -/
def sampleEngine : Engine := ⟨py "token", false, false⟩

/-- A 200 with a JSON body. -/
def okReply (v : PyValue) : Reply := .answered ⟨200, .json v⟩

/-- The replies to a build that goes through; the tree is shown after the import. -/
def sampleReplies (trigger : PyValue) : List Reply :=
  [okReply (pyDict [("id", py "f1")]), okReply (.dict []), okReply (.dict []),
    okReply (pyDict [("version", pyDict [("trigger", trigger)])]), okReply (.dict []),
    okReply (pyDict [("status", py "ENABLED")]), okReply (pyDict [("status", py "ENABLED")])]

/-- The replies as a script; what comes after them is lost. -/
def scriptOf (replies : List Reply) (n : ℕ) : Reply := replies.getD n (.raised .network)

/-- A registry where Gmail has an action that requires a subject. -/
def mailRegistry : PieceRegistry where
  rows := [⟨text "@activepieces/piece-gmail", text "0.12.1", none,
    [(text "send_email", [text "subject"])], []⟩]
  nodup_key := by decide
  nodup_uniq := by decide

/-- A trigger, a router with a step that sends a mail in its branch, and a loop around code. -/
def mailTree : PyValue :=
  pyDict [("name", py "trigger"), ("type", py "WEBHOOK"),
    ("nextAction", pyDict [("name", py "step_1"), ("type", py "ROUTER"), ("valid", .bool true),
      ("children", .list [pyDict [("name", py "step_2"), ("type", py "PIECE"),
        ("valid", .bool true), ("settings", pyDict [("pieceName", py "@activepieces/piece-gmail"),
          ("pieceVersion", py "~0.12.1"), ("actionName", py "send_email"),
          ("input", pyDict [("subject", py "Paid")])])]]),
      ("nextAction", pyDict [("name", py "step_3"), ("type", py "LOOP_ON_ITEMS"),
        ("valid", .bool true), ("firstLoopAction", pyDict [("name", py "step_4"),
          ("type", py "CODE"), ("valid", .bool true)])])])]

/-- An environment with that registry. -/
def mailEnv : BuildEnv := { sampleEnv with registry := some (.ok mailRegistry) }

/-- The build of that tree. -/
def mailTreeBuild : BuildRequest := { sampleBuild with trigger := mailTree }

theorem golden_build_guarantee_example : ∃ l result eng,
    (goldenBuild mailEnv mailTreeBuild).Runs sampleEngine l (.ok result) eng ∧
      BuildGuarantee mailEnv mailTreeBuild mailRegistry l result.flowId := by
  have hreturns : (goldenBuild mailEnv mailTreeBuild).returnsOn sampleEngine
      (scriptOf (sampleReplies mailTree)) = true := by decide +kernel
  obtain ⟨l, result, eng, hrun⟩ := exists_ok_run hreturns
  have h := golden_build_guarantee mailEnv mailTreeBuild mailRegistry rfl
    (by simp [mailRegistry]) sampleEngine eng l (.ok result) hrun
  exact ⟨l, result, eng, hrun, h.1 result rfl⟩

end Siyadah
