import SiyadahOrchestrator.Flows.AtMostOneFlow

/-!
# Flows that a failed build leaves behind

`golden_build` deletes the flow that it has created in three places: when the stamp fails, and
behind the two gates on the tree that was read back. Every other exception leaves the flow on
ActivePieces: an import, a verification or a publication that fails, a tree that the walker cannot
walk, a last read that is lost. After the publication the flow that stays is `ENABLED`, and no
registry row mentions it.

`EndsWell` says of the replies to a build that none of this happens. It follows the stages: the
replies make the stamp fail, or they make a gate reject the tree, or they take the build to its end.
-/

namespace Siyadah

open Dialogue SiyadahEngine PyValue

/-! ### What is left behind -/

/-- The exchanges show that the flow was created. -/
def CreatedFlow (l : List (Call × Reply)) (fid : PyValue) : Prop :=
  ∃ pid name rep flow, (.createFlow pid name, rep) ∈ l ∧ rep.value? = some flow ∧
    flow.getItem (text "id") = .ok fid

/-- A delete of the flow was issued. -/
def DeleteIssued (l : List (Call × Reply)) (fid : PyValue) : Prop :=
  ∃ rep, (.deleteFlow fid, rep) ∈ l

/-- The flow was published, and no registry row was written for it. -/
def PublishedUnregistered (l : List (Call × Reply)) (fid : PyValue) : Prop :=
  (∃ rep, (.flowOperation fid .lockAndPublish, rep) ∈ l) ∧
    ∀ values rep, (.upsertRegistry values, rep) ∈ l → values.flowId ≠ fid

/-- A build that raises has issued a delete of the flow that it has created, and does not leave it
behind as a published flow without a registry row. -/
structure LeavesNoOrphan (l : List (Call × Reply)) (x : Except EngineError BuildResult) : Prop where
  deleted : ∀ e fid, x = .error e → CreatedFlow l fid → DeleteIssued l fid
  unpublished : ∀ e fid, x = .error e → CreatedFlow l fid → ¬ PublishedUnregistered l fid

/-- `DELETE /v1/flows/{fid}`. -/
def Call.isDelete : Call → Bool
  | .deleteFlow _ => true
  | _ => false

theorem not_deleteIssued {l : List (Call × Reply)} {fid : PyValue}
    (h : ∀ e ∈ l, e.1.isDelete = false) : ¬ DeleteIssued l fid :=
  fun ⟨_, hmem⟩ ↦ absurd (h _ hmem) (by simp [Call.isDelete])

theorem not_publishedUnregistered {l : List (Call × Reply)} {fid : PyValue}
    (h : ∀ e ∈ l, e.1.isPublish = false) : ¬ PublishedUnregistered l fid :=
  fun ⟨⟨_, hmem⟩, _⟩ ↦ absurd (h _ hmem) (by simp [Call.isPublish])

/-! ### The stages of a build, and how they end -/

section Stages

variable {env : BuildEnv} {b : BuildRequest} {fid : PyValue} {s t u : Engine}
  {l l₁ l₂ : List (Call × Reply)}

/-- Cleaning up never raises; it issues the delete when the engine can send anything at all. -/
theorem runs_cleanUp {x : Except EngineError Unit} (h : (cleanUp env fid).Runs s l x t) :
    x = .ok () ∧ (DeleteIssued l fid ↔ s.Ready env.httpx) := by
  -- Whatever the deletion returns, it is dropped.
  have hx : x = .ok () ∧ ∃ y u, (deleteFlow env.httpx fid).Runs s l y u := by
    rcases runs_handle_iff.1 h with ⟨a, rfl, h'⟩ | ⟨l₁, l₂, e, u, rfl, h₁, h₂⟩
    · obtain ⟨l₁, l₂, v, u, rfl, h₁, h₂⟩ := runs_bind_ok_iff.1 h'
      obtain ⟨rfl, -, rfl⟩ := runs_pure_iff.1 h₂
      exact ⟨rfl, _, _, (List.append_nil l₁).symm ▸ h₁⟩
    · obtain ⟨rfl, rfl, rfl⟩ := runs_pure_iff.1 h₂
      rcases runs_bind_error_iff.1 h₁ with ⟨k₁, k₂, v, w, rfl, -, hk₂⟩ | h'
      · exact absurd (runs_pure_iff.1 hk₂).2.1 (by simp)
      · exact ⟨rfl, _, _, (List.append_nil l₁).symm ▸ h'⟩
  obtain ⟨rfl, y, u, hdelete⟩ := hx
  refine ⟨rfl, fun ⟨rep, hmem⟩ ↦ ?_, fun hready ↦ ?_⟩
  · by_contra hready
    obtain ⟨rfl, -⟩ := (runs_r_of_not_ready hready).1 hdelete
    exact absurd hmem List.not_mem_nil
  · obtain ⟨rep, l', rfl⟩ := runs_r_ready hready hdelete
    exact ⟨rep, List.mem_cons_self⟩

/-- The stamp is written, or the flow is cleaned up and the build raises. -/
theorem runs_stampMetadata {x : Except EngineError Unit}
    (h : (stampMetadata env b fid).Runs s l x t) :
    (x = .ok () ∧ ∃ v, (updateMetadata env.httpx fid (sovereignMeta env b)).Runs s l (.ok v) t) ∨
      ((∃ e, x = .error e) ∧ ∃ l₁ l₂ e u, l = l₁ ++ l₂ ∧
        (updateMetadata env.httpx fid (sovereignMeta env b)).Runs s l₁ (.error e) u ∧
        (cleanUp env fid).Runs u l₂ (.ok ()) t) := by
  rcases runs_handle_iff.1 h with ⟨a, rfl, h'⟩ | ⟨l₁, l₂, e, u, rfl, h₁, h₂⟩
  · obtain ⟨l₁, l₂, v, u, rfl, h₁, h₂⟩ := runs_bind_ok_iff.1 h'
    obtain ⟨rfl, -, rfl⟩ := runs_pure_iff.1 h₂
    exact .inl ⟨rfl, v, (List.append_nil l₁).symm ▸ h₁⟩
  · rcases runs_bind_error_iff.1 h₁ with ⟨k₁, k₂, v, w, rfl, -, hk₂⟩ | h'
    · exact absurd (runs_pure_iff.1 hk₂).2.1 (by simp)
    rcases runs_bind_iff.1 h₂ with ⟨k₁, k₂, _, w, rfl, hk₁, hk₂⟩ | ⟨e', rfl, hk⟩
    · obtain ⟨rfl, rfl, rfl⟩ := runs_raise_iff.1 hk₂
      exact .inr ⟨⟨_, rfl⟩, l₁, k₁, e, u, by simp, h', hk₁⟩
    · exact absurd (runs_cleanUp hk).1 (by simp)

/-- The stages up to the gates: the stamp, the import and the verification return, and the trees on
both sides of the import can be walked. -/
def ReadBack (env : BuildEnv) (b : BuildRequest) (fid : PyValue) (s : Engine)
    (l : List (Call × Reply)) (verified : PyValue) (before after : FlowGraph) (t : Engine) : Prop :=
  ∃ l₁ l₂ l₃ v w u₁ u₂, l = l₁ ++ (l₂ ++ l₃) ∧
    (updateMetadata env.httpx fid (sovereignMeta env b)).Runs s l₁ (.ok v) u₁ ∧
    beforeGraph b = .ok before ∧
    (importFlow env.httpx fid (buildName env b) b.trigger).Runs u₁ l₂ (.ok w) u₂ ∧
    (verifyFlow env.httpx fid).Runs u₂ l₃ (.ok verified) t ∧ walkFlowTree verified = .ok after

/-- A gate rejects the tree that was read back: it has lost steps, or a step is invalid. -/
def Rejected (before after : FlowGraph) : Prop :=
  after.totalSteps < before.totalSteps ∨ after.invalidSteps ≠ []

/-- `golden_build` from the gates on. -/
def fromGates (env : BuildEnv) (b : BuildRequest) (fid verified : PyValue)
    (before after : FlowGraph) : EngineM BuildResult := do
  checkImported env fid before after
  afterGates env b fid verified

/-- Up to the gates only the stamp, the import, the read and sign-ins are sent. -/
theorem ReadBack.sends {P : Call → Prop} {verified : PyValue} {before after : FlowGraph}
    (hop : ∀ op, op ≠ .lockAndPublish → P (.flowOperation fid op)) (hget : P (.getFlow fid))
    (hsign : P .signIn) (h : ReadBack env b fid s l verified before after t) :
    ∀ e ∈ l, P e.1 := by
  obtain ⟨l₁, l₂, l₃, v, w, u₁, u₂, rfl, hstamp, -, himport, hverify, -⟩ := h
  have hstampSends : Sends P (updateMetadata env.httpx fid (sovereignMeta env b)) :=
    sends_r_of (hop _ (by simp)) hsign
  have himportSends : Sends P (importFlow env.httpx fid (buildName env b) b.trigger) :=
    sends_r_of (hop _ (by simp)) hsign
  exact List.forall_mem_append.2 ⟨hstampSends _ _ _ _ hstamp, List.forall_mem_append.2
    ⟨himportSends _ _ _ _ himport, sends_verifyFlow hget hsign _ _ _ _ hverify⟩⟩

/-- Replies that take the stages up to the gates leave the rest to the gates. -/
theorem ReadBack.of_runs {verified : PyValue} {before after : FlowGraph}
    {x : Except EngineError BuildResult} (hread : ReadBack env b fid s l₁ verified before after u)
    (h : (buildCreated env b fid).Runs s (l₁ ++ l₂) x t) :
    (fromGates env b fid verified before after).Runs u l₂ x t := by
  obtain ⟨k₁, k₂, k₃, v, w, u₁, u₂, rfl, hstamp, hbefore, himport, hverify, hafter⟩ := hread
  rw [List.append_assoc] at h
  rcases runs_bind_iff.1 h with ⟨j₁, j₂, _, u', hj, hj₁, hj₂⟩ | ⟨e, -, h'⟩
  · rcases runs_stampMetadata hj₁ with ⟨-, v', hj₁⟩ | ⟨⟨e, he⟩, -⟩
    swap
    · exact absurd he (by simp)
    obtain ⟨rfl, rfl, -, rfl⟩ := hj₁.unique_of_append hstamp hj.symm
    rcases runs_ofPy_bind_iff.1 hj₂ with ⟨before', hbefore', hj₃⟩ | ⟨e, he, -⟩
    swap
    · exact absurd (he.symm.trans hbefore) (by simp)
    obtain rfl := Except.ok.inj (hbefore'.symm.trans hbefore)
    rw [List.append_assoc] at hj₃
    rcases runs_ofPy_bind_iff.1 (hverify.of_bind_ok (himport.of_bind_ok hj₃)) with
      ⟨after', hafter', hj₄⟩ | ⟨e, he, -⟩
    · obtain rfl := Except.ok.inj (hafter'.symm.trans hafter)
      exact hj₄
    · exact absurd (he.symm.trans hafter) (by simp)
  · rcases runs_stampMetadata h' with ⟨hx, -⟩ | ⟨-, j₁, j₂, e', u', hj, hj₁, -⟩
    · exact absurd hx (by simp)
    · obtain ⟨-, -, hx, -⟩ := hstamp.unique_of_append hj₁ hj
      exact absurd hx (by simp)

/-- **How a build ends before the gates.** The stamp fails and the flow is cleaned up; or a later
stage fails, and nothing is deleted; or the gates are reached. -/
theorem runs_buildCreated_cases {x : Except EngineError BuildResult}
    (h : (buildCreated env b fid).Runs s l x t) :
    (∃ l₁ l₂ e u, l = l₁ ++ l₂ ∧ (∃ e, x = .error e) ∧
      (updateMetadata env.httpx fid (sovereignMeta env b)).Runs s l₁ (.error e) u ∧
      (cleanUp env fid).Runs u l₂ (.ok ()) t) ∨
    ((∃ e, x = .error e) ∧ ∀ e ∈ l, e.1.isDelete = false) ∨
    ∃ l₁ l₂ verified before after u, l = l₁ ++ l₂ ∧
      ReadBack env b fid s l₁ verified before after u ∧
      (fromGates env b fid verified before after).Runs u l₂ x t := by
  let P : Call → Prop := fun c ↦ c.isDelete = false
  have hstampSends : Sends P (updateMetadata env.httpx fid (sovereignMeta env b)) :=
    sends_r_of rfl rfl
  have himportSends : Sends P (importFlow env.httpx fid (buildName env b) b.trigger) :=
    sends_r_of rfl rfl
  rcases runs_bind_iff.1 h with ⟨l₁, l, _, u₁, rfl, h₁, h₂⟩ | ⟨e, rfl, h'⟩
  swap
  · rcases runs_stampMetadata h' with ⟨hx, -⟩ | ⟨-, l₁, l₂, e', u, rfl, hstamp, hclean⟩
    · exact absurd hx (by simp)
    · exact .inl ⟨l₁, l₂, e', u, rfl, ⟨e, rfl⟩, hstamp, hclean⟩
  rcases runs_stampMetadata h₁ with ⟨-, v, hstamp⟩ | ⟨⟨e, he⟩, -⟩
  swap
  · exact absurd he (by simp)
  have hd₁ := hstampSends _ _ _ _ hstamp
  refine .inr ?_
  rcases runs_ofPy_bind_iff.1 h₂ with ⟨before, hbefore, h₃⟩ | ⟨e, -, rfl, rfl, -⟩
  swap
  · exact .inl ⟨⟨_, rfl⟩, by rwa [List.append_nil]⟩
  rcases runs_bind_of_sends himportSends h₃ with
    ⟨⟨e, rfl, -⟩, hd₂⟩ | ⟨l₂, l, w, u₂, rfl, hd₂, himport, h₄⟩
  · exact .inl ⟨⟨e, rfl⟩, List.forall_mem_append.2 ⟨hd₁, hd₂⟩⟩
  rcases runs_bind_of_sends (P := P) (sends_verifyFlow rfl rfl) h₄ with
    ⟨⟨e, rfl, -⟩, hd₃⟩ | ⟨l₃, l, verified, u₃, rfl, hd₃, hverify, h₅⟩
  · exact .inl ⟨⟨e, rfl⟩, List.forall_mem_append.2 ⟨hd₁, List.forall_mem_append.2 ⟨hd₂, hd₃⟩⟩⟩
  rcases runs_ofPy_bind_iff.1 h₅ with ⟨after, hafter, h₆⟩ | ⟨e, -, rfl, rfl, -⟩
  swap
  · refine .inl ⟨⟨_, rfl⟩, ?_⟩
    rw [List.append_nil]
    exact List.forall_mem_append.2 ⟨hd₁, List.forall_mem_append.2 ⟨hd₂, hd₃⟩⟩
  refine .inr ⟨l₁ ++ (l₂ ++ l₃), l, verified, before, after, u₃, by simp, ?_, h₆⟩
  exact ⟨l₁, l₂, l₃, v, w, u₁, u₂, rfl, hstamp, hbefore, himport, hverify, hafter⟩

/-- A rejected tree makes the gates clean up and raise. -/
theorem runs_checkImported_of_rejected {before after : FlowGraph} {x : Except EngineError Unit}
    (hrejected : Rejected before after) (h : (checkImported env fid before after).Runs s l x t) :
    (∃ e, x = .error e) ∧ (cleanUp env fid).Runs s l (.ok ()) t := by
  have hclean : ∀ d : Detail,
      (do cleanUp env fid; raise (.http 500 d) : EngineM Unit).Runs s l x t →
      (∃ e, x = .error e) ∧ (cleanUp env fid).Runs s l (.ok ()) t := by
    intro d h
    rcases runs_bind_iff.1 h with ⟨l₁, l₂, _, u, rfl, h₁, h₂⟩ | ⟨e, -, h'⟩
    · obtain ⟨rfl, rfl, rfl⟩ := runs_raise_iff.1 h₂
      exact ⟨⟨_, rfl⟩, (List.append_nil l₁).symm ▸ h₁⟩
    · exact absurd (runs_cleanUp h').1 (by simp)
  unfold checkImported at h
  split at h
  · exact hclean _ h
  · rename_i hsteps
    have hinvalid : after.invalidSteps ≠ [] := hrejected.resolve_left hsteps
    rw [if_pos (by simpa using hinvalid)] at h
    exact hclean _ h

/-- A tree that is not rejected passes. -/
theorem runs_checkImported_of_not_rejected {before after : FlowGraph} {x : Except EngineError Unit}
    (hrejected : ¬ Rejected before after) (h : (checkImported env fid before after).Runs s l x t) :
    l = [] ∧ x = .ok () ∧ t = s := by
  obtain ⟨hsteps, hinvalid⟩ := not_or.1 hrejected
  rw [checkImported, if_neg hsteps, if_neg (by simpa using hinvalid)] at h
  exact runs_pure_iff.1 h

/-- A failure of the pulse or of the registry row is swallowed; only the search for the links of the
answer can raise. -/
theorem runs_finish_ok_iff {ttype : PyValue} {pub : Published} {read : FinalRead}
    {x : Except EngineError BuildResult} (h : (finish env b fid ttype pub read).Runs s l x t) :
    (∃ r, x = .ok r) ↔ (∃ sheetId, extractSheetId b.trigger = .ok sheetId) ∧
      ∃ email, extractEmail b.trigger = .ok email := by
  have hpulse : ∀ {s l x t}, (sendPulse env b fid).Runs s l x t → ∃ sent, x = .ok sent := by
    intro s l x t h
    rcases runs_handle_iff.1 h with ⟨a, rfl, -⟩ | ⟨l₁, l₂, e, u, -, -, h₂⟩
    · exact ⟨a, rfl⟩
    · exact ⟨false, (runs_pure_iff.1 h₂).2.1⟩
  have hrow : ∀ {status email s l x t},
      (registerFlow env b fid ttype status email).Runs s l x t → ∃ a, x = .ok a := by
    intro status email s l x t h
    unfold registerFlow at h
    split at h
    · exact ⟨(), (runs_pure_iff.1 h).2.1⟩
    · rcases runs_handle_iff.1 h with ⟨a, rfl, -⟩ | ⟨l₁, l₂, e, u, -, -, h₂⟩
      · exact ⟨a, rfl⟩
      · exact ⟨(), (runs_pure_iff.1 h₂).2.1⟩
  rcases runs_bind_iff.1 h with ⟨l₁, l₂, sent, u, rfl, -, h₁⟩ | ⟨e, -, h'⟩
  swap
  · obtain ⟨sent, hsent⟩ := hpulse h'
    exact absurd hsent (by simp)
  rcases runs_ofPy_bind_iff.1 h₁ with ⟨sheetId, hsheet, h₂⟩ | ⟨e, hsheet, -, rfl, -⟩
  swap
  · simp [hsheet]
  rcases runs_ofPy_bind_iff.1 h₂ with ⟨email, hemail, h₃⟩ | ⟨e, hemail, -, rfl, -⟩
  swap
  · simp [hemail]
  rcases runs_bind_iff.1 h₃ with ⟨k₁, k₂, _, v, rfl, -, h₄⟩ | ⟨e, -, h'⟩
  · have hx := (runs_pure_iff.1 h₄).2.1
    exact iff_of_true ⟨_, hx⟩ ⟨⟨sheetId, hsheet⟩, email, hemail⟩
  · obtain ⟨a, ha⟩ := hrow h'
    exact absurd ha (by simp)

/-- Whether the type of the trigger can be read does not depend on the default. -/
theorem exists_triggerTypeOf {v default ttype : PyValue} (other : PyValue)
    (h : triggerTypeOf v default = .ok ttype) : ∃ ttype', triggerTypeOf v other = .ok ttype' := by
  obtain ⟨version, hversion, h⟩ := bind_eq_ok_iff.1 h
  obtain ⟨trigger, htrigger, h⟩ := bind_eq_ok_iff.1 h
  cases trigger with
  | dict fields =>
    refine ⟨_, bind_eq_ok_iff.2 ⟨version, hversion, bind_eq_ok_iff.2 ⟨_, htrigger, rfl⟩⟩⟩
  | _ => exact absurd h (by simp [PyValue.getD])

/-- The publication goes through, up to the last read, and the links of the answer can be found. -/
def Completed (env : BuildEnv) (b : BuildRequest) (fid : PyValue) (s : Engine)
    (l : List (Call × Reply)) : Prop :=
  ∃ l₁ l₂ pub u, l = l₁ ++ l₂ ∧ (publishAndConfirm env fid).Runs s l₁ (.ok pub) u ∧
    (∃ sheetId, extractSheetId b.trigger = .ok sheetId) ∧
    ∃ email, extractEmail b.trigger = .ok email

/-- Behind the gates a build returns exactly if it is completed, and deletes nothing. -/
theorem runs_afterGates {verified ttype : PyValue} {x : Except EngineError BuildResult}
    (htype : triggerTypeOf verified (py "?") = .ok ttype)
    (h : (afterGates env b fid verified).Runs s l x t) :
    ((∃ r, x = .ok r) ↔ Completed env b fid s l) ∧ ∀ e ∈ l, e.1.isDelete = false := by
  rcases runs_ofPy_bind_iff.1 h with ⟨ttype', -, h₁⟩ | ⟨e, he, -⟩
  swap
  · exact absurd (he.symm.trans htype) (by simp)
  refine ⟨⟨?_, ?_⟩, ?_⟩
  · rintro ⟨r, rfl⟩
    obtain ⟨l₁, l₂, pub, u, rfl, hpub, hfinish⟩ := runs_bind_ok_iff.1 h₁
    exact ⟨l₁, l₂, pub, u, rfl, hpub, (runs_finish_ok_iff hfinish).1 ⟨r, rfl⟩⟩
  · rintro ⟨l₁, l₂, pub, u, rfl, hpub, hfound⟩
    exact (runs_finish_ok_iff (hpub.of_bind_ok h₁)).2 hfound
  · have hconfirm : Sends (fun c ↦ c.isDelete = false) (publishAndConfirm env fid) :=
      sends_publishAndConfirm rfl rfl rfl rfl
    have hsends : Sends (fun c ↦ c.isDelete = false) (afterGates env b fid verified) :=
      (sends_ofPy _).bind fun _ ↦ hconfirm.bind fun _ ↦ sends_finish (fun _ ↦ rfl) fun _ _ ↦ rfl
    exact hsends s l x t h

/-- The replies to a build, from the created flow on, make it end well. -/
inductive EndsWell (env : BuildEnv) (b : BuildRequest) (fid : PyValue) (s : Engine) :
    List (Call × Reply) → Prop where
  /-- The stamp fails, and the engine can still send a request. -/
  | stampFailed {l₁ l₂ e u}
      (hstamp : (updateMetadata env.httpx fid (sovereignMeta env b)).Runs s l₁ (.error e) u)
      (hready : u.Ready env.httpx) : EndsWell env b fid s (l₁ ++ l₂)
  /-- The tree that is read back is rejected. -/
  | rejected {l₁ l₂ verified before after u}
      (hread : ReadBack env b fid s l₁ verified before after u)
      (hrejected : Rejected before after) : EndsWell env b fid s (l₁ ++ l₂)
  /-- The tree passes, and the build is completed. -/
  | completed {l₁ l₂ verified before after u}
      (hread : ReadBack env b fid s l₁ verified before after u)
      (hpassed : ¬ Rejected before after) (hcompleted : Completed env b fid u l₂) :
      EndsWell env b fid s (l₁ ++ l₂)

/-- Behind the gates: a rejected tree makes the build raise and delete the flow, without publishing
it; a tree that passes is deleted under no circumstances. -/
theorem ReadBack.runs_fromGates {verified : PyValue} {before after : FlowGraph}
    {x : Except EngineError BuildResult} (hread : ReadBack env b fid s l₁ verified before after u)
    (h : (fromGates env b fid verified before after).Runs u l₂ x t) :
    (Rejected before after → (∃ e, x = .error e) ∧ DeleteIssued l₂ fid ∧
      ∀ e ∈ l₂, e.1.isPublish = false) ∧
    (¬ Rejected before after → ((∃ r, x = .ok r) ↔ Completed env b fid u l₂) ∧
      ∀ e ∈ l₂, e.1.isDelete = false) := by
  obtain ⟨_, _, _, _, _, _, _, _, _, _, _, hverify, _⟩ := hread
  obtain ⟨-, hclient, ttype, htype, -⟩ := runs_verifyFlow_ok hverify
  refine ⟨fun hrejected ↦ ?_, fun hrejected ↦ ?_⟩
  · rcases runs_bind_iff.1 h with ⟨k₁, k₂, _, v, rfl, hk₁, -⟩ | ⟨e, rfl, h'⟩
    · exact absurd (runs_checkImported_of_rejected hrejected hk₁).1 (by simp)
    · have hclean := (runs_checkImported_of_rejected hrejected h').2
      refine ⟨⟨e, rfl⟩, (runs_cleanUp hclean).2.2 (.inl hclient), ?_⟩
      exact sends_cleanUp (P := fun c ↦ c.isPublish = false) rfl rfl _ _ _ _ hclean
  · rcases runs_bind_iff.1 h with ⟨k₁, k₂, _, v, rfl, hk₁, hk₂⟩ | ⟨e, -, h'⟩
    · obtain ⟨rfl, -, rfl⟩ := runs_checkImported_of_not_rejected hrejected hk₁
      obtain ⟨ttype', htype'⟩ := exists_triggerTypeOf (py "?") htype
      exact runs_afterGates htype' hk₂
    · exact absurd (runs_checkImported_of_not_rejected hrejected h').2.1 (by simp)

/-- **From the created flow on**, a build that raises has deleted the flow, or has neither deleted
it nor ended well. -/
theorem runs_buildCreated_endsWell {x : Except EngineError BuildResult}
    (h : (buildCreated env b fid).Runs s l x t) :
    (EndsWell env b fid s l → (∃ r, x = .ok r) ∨
      DeleteIssued l fid ∧ ∀ e ∈ l, e.1.isPublish = false) ∧
    (¬ EndsWell env b fid s l → (∃ e, x = .error e) ∧ ¬ DeleteIssued l fid) := by
  constructor
  · rintro (⟨hstamp, hready⟩ | ⟨hread, hrejected⟩ | ⟨hread, hpassed, hcompleted⟩)
    · rename_i l₁ l₂ e u
      rcases runs_bind_iff.1 h with ⟨k₁, k₂, _, v, hk, hk₁, -⟩ | ⟨e', -, h'⟩
      · rcases runs_stampMetadata hk₁ with ⟨-, w, hok⟩ | ⟨⟨e', he⟩, -⟩
        · obtain ⟨-, -, hx, -⟩ := hstamp.unique_of_append hok hk
          exact absurd hx (by simp)
        · exact absurd he (by simp)
      · rcases runs_stampMetadata h' with ⟨hx, -⟩ | ⟨-, k₁, k₂, e'', u', hk, hfail, hclean⟩
        · exact absurd hx (by simp)
        obtain ⟨rfl, rfl, -, rfl⟩ := hstamp.unique_of_append hfail hk
        obtain ⟨rep, hmem⟩ := (runs_cleanUp hclean).2.2 hready
        refine .inr ⟨⟨rep, List.mem_append_right l₁ hmem⟩, ?_⟩
        exact sends_stampMetadata (P := fun c ↦ c.isPublish = false) rfl rfl rfl _ _ _ _ h'
    · obtain ⟨-, ⟨rep, hmem⟩, hpublish⟩ := (hread.runs_fromGates (hread.of_runs h)).1 hrejected
      refine .inr ⟨⟨rep, List.mem_append_right _ hmem⟩, List.forall_mem_append.2 ⟨?_, hpublish⟩⟩
      refine hread.sends (P := fun c ↦ c.isPublish = false) (fun op hop ↦ ?_) rfl rfl
      cases op <;> first | rfl | exact absurd rfl hop
    · exact .inl (((hread.runs_fromGates (hread.of_runs h)).2 hpassed).1.2 hcompleted)
  · intro hbad
    rcases runs_buildCreated_cases h with
      ⟨l₁, l₂, e, u, rfl, hx, hstamp, hclean⟩ | ⟨hx, hdelete⟩ |
      ⟨l₁, l₂, verified, before, after, u, rfl, hread, hgates⟩
    · refine ⟨hx, ?_⟩
      rintro ⟨rep, hmem⟩
      have hunready : ¬ u.Ready env.httpx := fun hready ↦ hbad (.stampFailed hstamp hready)
      rcases List.mem_append.1 hmem with hmem | hmem
      · have hsends : Sends (fun c ↦ c.isDelete = false)
            (updateMetadata env.httpx fid (sovereignMeta env b)) := sends_r_of rfl rfl
        exact absurd (hsends _ _ _ _ hstamp _ hmem) (by simp [Call.isDelete])
      · exact hunready ((runs_cleanUp hclean).2.1 ⟨rep, hmem⟩)
    · exact ⟨hx, not_deleteIssued hdelete⟩
    · have hpassed : ¬ Rejected before after := fun hrejected ↦ hbad (.rejected hread hrejected)
      obtain ⟨hok, hdelete⟩ := (hread.runs_fromGates hgates).2 hpassed
      have hx : ∃ e, x = .error e := by
        cases x with
        | ok r => exact absurd (EndsWell.completed hread hpassed (hok.1 ⟨r, rfl⟩)) hbad
        | error e => exact ⟨e, rfl⟩
      refine ⟨hx, not_deleteIssued (List.forall_mem_append.2 ⟨?_, hdelete⟩)⟩
      exact hread.sends (P := fun c ↦ c.isDelete = false) (fun _ _ ↦ rfl) rfl rfl

end Stages

/-! ### A whole build -/

section Build

variable {env : BuildEnv} {b : BuildRequest} {eng eng' u : Engine} {l l' : List (Call × Reply)}
  {x : Except EngineError BuildResult} {flow fid : PyValue}

/-- A creation that returns has created the flow that it returns, and no other. -/
theorem createdFlow_iff (h : (createFlow env.httpx (buildPid env b) (buildName env b)).Runs eng l
    (.ok flow) u) (hl' : ∀ e ∈ l', e.1.isCreate = false) :
    CreatedFlow (l ++ l') fid ↔ flow.getItem (text "id") = .ok fid := by
  obtain ⟨l₀, rep, rfl, hvalue, hun, -⟩ := runs_r_ok (by simp) h
  constructor
  · rintro ⟨pid, name, rep', flow', hmem, hvalue', hfid⟩
    rcases List.mem_append.1 hmem with hmem | hmem
    · rcases List.mem_append.1 hmem with hmem₀ | hlast
      · -- The earlier requests are left unanswered.
        rcases sends_r _ _ _ _ _ h _ hmem with hcall | hcall
        · exact absurd ((hun _ hmem₀ hcall).symm.trans hvalue') (by simp)
        · exact absurd hcall (by simp)
      · obtain ⟨-, rfl⟩ := Prod.mk.inj (List.mem_singleton.1 hlast)
        obtain rfl := Option.some.inj (hvalue.symm.trans hvalue')
        exact hfid
    · exact absurd (hl' _ hmem) (by simp [Call.isCreate])
  · intro hfid
    refine ⟨buildPid env b, buildName env b, rep, flow, ?_, hvalue, hfid⟩
    exact List.mem_append_left l' (List.mem_append_right l₀ List.mem_cons_self)

/-- A creation that raises has created no flow that it knows of. -/
theorem not_createdFlow {e : EngineError}
    (h : (createFlow env.httpx (buildPid env b) (buildName env b)).Runs eng l (.error e) u) :
    ¬ CreatedFlow l fid := by
  rintro ⟨pid, name, rep, flow, hmem, hvalue, -⟩
  rcases sends_r _ _ _ _ _ h _ hmem with hcall | hcall
  · exact absurd ((runs_r_error (by simp) h _ hmem hcall).symm.trans hvalue) (by simp)
  · exact absurd hcall (by simp)

/-- The replies to a build make it end well once the creation has returned a flow id. -/
def BuildEndsWell (env : BuildEnv) (b : BuildRequest) (eng : Engine)
    (l : List (Call × Reply)) : Prop :=
  ∀ l₁ l₂ flow fid u, l = l₁ ++ l₂ →
    (createFlow env.httpx (buildPid env b) (buildName env b)).Runs eng l₁ (.ok flow) u →
    flow.getItem (text "id") = .ok fid → EndsWell env b fid u l₂

theorem leavesNoOrphan_of_not_created (h : ∀ fid, ¬ CreatedFlow l fid) : LeavesNoOrphan l x :=
  ⟨fun _ fid _ hcreated ↦ absurd hcreated (h fid), fun _ fid _ hcreated ↦ absurd hcreated (h fid)⟩

/-- **What a failed build leaves behind.** A build that raises has deleted the flow that it created,
and leaves no published flow without a registry row, exactly if the replies make it end well: by a
failed stamp (with an engine that can still send the delete), by a gate, or by completing it. -/
theorem leaves_no_orphan_iff (env : BuildEnv) (b : BuildRequest) (eng eng' : Engine)
    (l : List (Call × Reply)) (x : Except EngineError BuildResult)
    (hrun : (goldenBuild env b).Runs eng l x eng') :
    LeavesNoOrphan l x ↔ BuildEndsWell env b eng l := by
  rcases runs_bind_iff.1 hrun with ⟨l₀, l₁, _, u, rfl, hpre, h₁⟩ | ⟨e, rfl, hpre⟩
  swap
  · -- Nothing is sent, so nothing is created.
    obtain ⟨rfl, -⟩ := runs_preflight hpre
    refine iff_of_true (leavesNoOrphan_of_not_created fun fid ⟨_, _, _, _, hmem, _⟩ ↦ ?_) ?_
    · exact absurd hmem List.not_mem_nil
    · intro l₁ l₂ flow fid u hl hcreate
      obtain ⟨l₀, rep, rfl, -⟩ := runs_r_ok (by simp) hcreate
      simp at hl
  obtain ⟨rfl, rfl, -⟩ := runs_preflight hpre
  rw [List.nil_append]
  rcases runs_bind_iff.1 h₁ with ⟨lc, lb, flow, v, rfl, hcreate, h₂⟩ | ⟨e, rfl, hfail⟩
  swap
  · refine iff_of_true (leavesNoOrphan_of_not_created fun fid ↦ not_createdFlow hfail) ?_
    intro k₁ k₂ flow fid u hl hcreate
    have hsame : k₁ ++ k₂ = l₁ ++ [] := by simpa using hl.symm
    obtain ⟨-, -, hx, -⟩ := hcreate.unique_of_append hfail hsame
    exact absurd hx (by simp)
  -- The creation has returned; the replies leave no other way to read it.
  have hother : ∀ l₁ l₂ flow' u', lc ++ lb = l₁ ++ l₂ →
      (createFlow env.httpx (buildPid env b) (buildName env b)).Runs u l₁ (.ok flow') u' →
      lb = l₂ ∧ flow = flow' ∧ v = u' := by
    intro l₁ l₂ flow' u' hl hcreate'
    obtain ⟨-, rfl, hflow, rfl⟩ := hcreate.unique_of_append hcreate' hl
    exact ⟨rfl, Except.ok.inj hflow, rfl⟩
  rcases runs_ofPy_bind_iff.1 h₂ with ⟨fid, hfid, hbuild⟩ | ⟨e, hid, rfl, rfl, -⟩
  swap
  · refine iff_of_true (leavesNoOrphan_of_not_created fun fid hcreated ↦ ?_) ?_
    · have hfid := (createdFlow_iff hcreate fun _ he ↦ absurd he List.not_mem_nil).1 hcreated
      exact absurd (hid.symm.trans hfid) (by simp)
    · intro l₁ l₂ flow' fid u' hl hcreate' hfid
      obtain ⟨-, rfl, -⟩ := hother l₁ l₂ flow' u' hl hcreate'
      exact absurd (hid.symm.trans hfid) (by simp)
  have hnone : ∀ e ∈ lb, e.1.isCreate = false :=
    sends_buildCreated (P := fun c ↦ c.isCreate = false) rfl (fun _ _ ↦ rfl) rfl rfl rfl
      (fun _ ↦ rfl) (fun _ _ ↦ rfl) _ _ _ _ hbuild
  have hcreated : ∀ fid', CreatedFlow (lc ++ lb) fid' → fid' = fid := fun fid' h ↦
    (Except.ok.inj (hfid.symm.trans ((createdFlow_iff hcreate hnone).1 h))).symm
  obtain ⟨hgood, hbad⟩ := runs_buildCreated_endsWell hbuild
  -- The creation neither deletes nor publishes.
  have hquiet : ∀ e ∈ lc, e.1.isDelete = false ∧ e.1.isPublish = false := by
    have hsends : Sends (fun c ↦ c.isDelete = false ∧ c.isPublish = false)
        (createFlow env.httpx (buildPid env b) (buildName env b)) :=
      sends_r_of ⟨rfl, rfl⟩ ⟨rfl, rfl⟩
    exact hsends _ _ _ _ hcreate
  constructor
  · intro hclean l₁ l₂ flow' fid' u' hl hcreate' hfid'
    obtain ⟨rfl, rfl, rfl⟩ := hother l₁ l₂ flow' u' hl hcreate'
    obtain rfl := Except.ok.inj (hfid.symm.trans hfid')
    by_contra hends
    obtain ⟨⟨e, rfl⟩, hno⟩ := hbad hends
    obtain ⟨rep, hmem⟩ := hclean.deleted e fid rfl ((createdFlow_iff hcreate hnone).2 hfid)
    rcases List.mem_append.1 hmem with hmem | hmem
    · exact absurd (hquiet _ hmem).1 (by simp [Call.isDelete])
    · exact hno ⟨rep, hmem⟩
  · intro hends
    rcases hgood (hends lc lb flow fid v rfl hcreate hfid) with ⟨r, rfl⟩ | ⟨⟨rep, hmem⟩, hpublish⟩
    · exact ⟨fun e fid hx ↦ absurd hx (by simp), fun e fid hx ↦ absurd hx (by simp)⟩
    · refine ⟨fun e fid' _ h ↦ ?_, fun e fid' _ _ ↦ ?_⟩
      · rw [hcreated fid' h]
        exact ⟨rep, List.mem_append_right lc hmem⟩
      · exact not_publishedUnregistered
          (List.forall_mem_append.2 ⟨fun e he ↦ (hquiet e he).2, hpublish⟩)

end Build

theorem createdFlow_of_any {l : List (Call × Reply)} {name : PyStr}
    (h : (l.any fun ex ↦ ex.1.isCreate && ex.2.value?.any fun flow ↦
      (flow.getItem (text "id")).toOption.any (·.isStr name)) = true) :
    CreatedFlow l (.str name) := by
  obtain ⟨⟨call, rep⟩, hmem, hex⟩ := List.any_eq_true.1 h
  obtain ⟨hcreate, hvalue⟩ := Bool.and_eq_true_iff.1 hex
  obtain ⟨flow, hflow, hid⟩ := (Option.any_eq_true _ _).1 hvalue
  cases call with
  | createFlow pid displayName =>
    refine ⟨pid, displayName, rep, flow, hmem, hflow, ?_⟩
    cases hitem : flow.getItem (text "id") with
    | ok v =>
      rw [hitem] at hid
      exact congrArg Except.ok (eq_str_of_isStr hid)
    | error e => simp [hitem, Except.toOption] at hid
  | _ => exact absurd hcreate (by simp [Call.isCreate])

/-- The flow that is deleted. -/
def Call.deleted : Call → Option PyValue
  | .deleteFlow fid => some fid
  | _ => none

theorem deleteIssued_of_any {l : List (Call × Reply)} {name : PyStr}
    (h : (l.any fun ex ↦ ex.1.deleted.any (·.isStr name)) = true) : DeleteIssued l (.str name) := by
  obtain ⟨⟨call, rep⟩, hmem, hname⟩ := List.any_eq_true.1 h
  cases call with
  | deleteFlow fid =>
    obtain rfl := eq_str_of_isStr hname
    exact ⟨rep, hmem⟩
  | _ => exact absurd hname (by simp [Call.deleted])

/-- The replies of an ActivePieces that shows a tree without the steps, and deletes the flow. -/
def stepsLost : List Reply := (sampleReplies sampleTrigger).take 4 ++ [okReply .null]

/-- The exchanges of the build under these replies. -/
def refusedExchanges : List (Call × Reply) :=
  (goldenBuild mailEnv mailTreeBuild).exchangesOn sampleEngine (scriptOf stepsLost)

/-- The gate refuses the tree that is shown; the build raises, and has deleted the flow. -/
theorem leaves_no_orphan_example : ∃ e eng,
    (goldenBuild mailEnv mailTreeBuild).Runs sampleEngine refusedExchanges (.error e) eng ∧
      CreatedFlow refusedExchanges (py "f1") ∧ DeleteIssued refusedExchanges (py "f1") ∧
      BuildEndsWell mailEnv mailTreeBuild sampleEngine refusedExchanges := by
  have hraises : (goldenBuild mailEnv mailTreeBuild).returnsOn sampleEngine
      (scriptOf stepsLost) = false := by decide +kernel
  obtain ⟨e, eng, hrun⟩ := exists_error_run hraises
  have hcreated : CreatedFlow refusedExchanges (py "f1") := createdFlow_of_any (by decide +kernel)
  have honly : (refusedExchanges.all fun ex ↦ !ex.1.isCreate || ex.2.value?.all fun flow ↦
      (flow.getItem (text "id")).toOption.all (·.isStr (text "f1"))) = true := by decide +kernel
  have hpublish : ∀ ex ∈ refusedExchanges, ex.1.isPublish = false := by decide +kernel
  have hdeleted : DeleteIssued refusedExchanges (py "f1") := deleteIssued_of_any (by decide +kernel)
  have h := leaves_no_orphan_iff mailEnv mailTreeBuild sampleEngine eng refusedExchanges (.error e)
    hrun
  refine ⟨e, eng, hrun, hcreated, hdeleted, h.1 ⟨fun _ fid _ hfid ↦ ?_, fun _ fid _ _ ↦ ?_⟩⟩
  · obtain ⟨pid, name, rep, flow, hmem, hvalue, hid⟩ := hfid
    have hone := List.all_eq_true.1 honly _ hmem
    rw [hvalue] at hone
    change (flow.getItem (text "id")).toOption.all (·.isStr (text "f1")) = true at hone
    rw [hid] at hone
    rw [eq_str_of_isStr hone]
    exact hdeleted
  · exact not_publishedUnregistered hpublish

/-- The replies to the sample build when the last read is lost. -/
def finalReadLost : List Reply := (sampleReplies sampleTrigger).take 6

/-- The exchanges of the sample build under these replies. -/
def orphaningExchanges : List (Call × Reply) :=
  (goldenBuild sampleEnv sampleBuild).exchangesOn sampleEngine (scriptOf finalReadLost)

/-- The flow is created, published and found `ENABLED`; then the last read is lost. The build raises
without a delete and without a registry row. -/
theorem lost_final_read_orphans_flow :
    ¬ ∀ (env : BuildEnv) (b : BuildRequest) (eng eng' : Engine) (l : List (Call × Reply))
      (x : Except EngineError BuildResult), (goldenBuild env b).Runs eng l x eng' →
      LeavesNoOrphan l x := by
  intro h
  have hraises : (goldenBuild sampleEnv sampleBuild).returnsOn sampleEngine
      (scriptOf finalReadLost) = false := by decide +kernel
  obtain ⟨e, eng, hrun⟩ := exists_error_run hraises
  have hcreated : CreatedFlow orphaningExchanges (py "f1") := createdFlow_of_any (by decide +kernel)
  have hdelete : ∀ ex ∈ orphaningExchanges, ex.1.isDelete = false := by decide +kernel
  exact not_deleteIssued hdelete ((h _ _ _ _ _ _ hrun).deleted e _ rfl hcreated)

end Siyadah
