import SiyadahOrchestrator.Build.DynamicBuild
import SiyadahOrchestrator.Flows.Ownership

/-!
# What a failed draft leaves behind

A request that is kept as a plan may create a flow first, its visible draft. Four requests follow:
the flow is stamped, the trigger is imported, the flow is read back, and the row of the plan is
written. When one of them fails the request fails, and nobody deletes the flow
(`failed_stamp_leaves_draft`). Nor does anybody when the answer to the creation is lost, although
ActivePieces may have created the flow: what it has created is a `DraftHistory` of the exchanges. So
no draft is left behind exactly when ActivePieces has created none, or none of the five requests
goes wrong (`draft_safe_iff`). A row never refers to a flow that was not created.
-/

namespace Siyadah

open Dialogue PyValue

/-! ### Runs -/

section Runs

variable {α : Type} {s t : BuilderState} {l : List (DynamicQuery × Except EngineError PyValue)}
  {x : Except EngineError α}

/-- A request is answered or raises. -/
theorem runs_perform_bind_iff {q : DynamicQuery} {f : PyValue → DynamicM α} :
    (perform q >>= f).Runs s l x t ↔ ∃ r l', l = (q, r) :: l' ∧
      ((∃ v, r = .ok v ∧ (f v).Runs s l' x t) ∨
        ∃ e, r = .error e ∧ l' = [] ∧ x = .error e ∧ t = s) := by
  have hassoc : (perform q >>= f).Runs s l x t ↔ (ask q >>= fun r ↦ lift r >>= f).Runs s l x t :=
    Iff.rfl
  rw [hassoc, runs_ask_bind_iff]
  refine exists_congr fun r ↦ exists_congr fun l' ↦ and_congr_right fun _ ↦ ?_
  exact runs_lift_bind_iff

theorem runs_onValues_bind_iff {β : Type} {y : Except PyError β} {f : β → DynamicM α} :
    (onValues y >>= f).Runs s l x t ↔ (∃ b, y = .ok b ∧ (f b).Runs s l x t) ∨
      ∃ e, y = .error e ∧ l = [] ∧ x = .error (.py e) ∧ t = s := by
  refine runs_lift_bind_iff.trans ?_
  cases y with
  | ok b =>
    refine or_congr ?_ (iff_of_false ?_ ?_)
    · exact ⟨fun ⟨b', hb, h⟩ ↦ ⟨b', congrArg _ (Except.ok.inj hb), h⟩,
        fun ⟨b', hb, h⟩ ↦ ⟨b', congrArg _ (Except.ok.inj hb), h⟩⟩
    · rintro ⟨e, he, -⟩
      exact absurd he (by simp [fromPy, Except.mapError])
    · rintro ⟨e, he, -⟩
      exact absurd he (by simp)
  | error e =>
    refine or_congr (iff_of_false ?_ ?_) ?_
    · rintro ⟨b, hb, -⟩
      exact absurd hb (by simp [fromPy, Except.mapError])
    · rintro ⟨b, hb, -⟩
      exact absurd hb (by simp)
    · constructor
      · rintro ⟨e', he, h⟩
        obtain rfl := Except.error.inj he
        exact ⟨e, rfl, h⟩
      · rintro ⟨e', he, h⟩
        obtain rfl := Except.error.inj he
        exact ⟨_, rfl, h⟩

end Runs

/-! ### Drafts -/

/-- `create_flow`. -/
def DynamicQuery.isCreate : DynamicQuery → Bool
  | .createFlow _ _ => true
  | _ => false

/-- The exchanges `l`, each with the ids of the flows that ActivePieces has created on it: that of
the flow that it answers, and, as the creation is repeated when an answer is lost, any others. -/
structure DraftHistory (l : List (DynamicQuery × Except EngineError PyValue)) where
  steps : List ((DynamicQuery × Except EngineError PyValue) × List PyValue)
  exchanges : steps.map Prod.fst = l
  answered : ∀ p ∈ steps, ∀ flow, p.1.1.isCreate = true → p.1.2 = .ok flow →
    (flow.entryD "id").truthy = true → flow.entryD "id" ∈ p.2
  others : ∀ p ∈ steps, p.1.1.isCreate = false → p.2 = []

/-- The flows that ActivePieces has created. -/
def DraftHistory.created {l : List (DynamicQuery × Except EngineError PyValue)}
    (h : DraftHistory l) : List PyValue := h.steps.flatMap Prod.snd

/-- If the request fails a delete has been issued for each flow that was created for it, and the
rows refer to flows that were created. -/
structure DraftSafe {α : Type} {l : List (DynamicQuery × Except EngineError PyValue)}
    (h : DraftHistory l) (x : Except EngineError α) : Prop where
  deleted : ∀ e, x = .error e → ∀ fid ∈ h.created, ∃ r, (.deleteFlow fid, r) ∈ l
  rows : ∀ row r, (.savePlan row, r) ∈ l → row.flowId = .null ∨ row.flowId ∈ h.created

/-- A draft goes well: the creation is answered with an id, the stamp, the import and the row are
answered, and the flow that is read back passes the checks. -/
def GoesWell : DynamicQuery × Except EngineError PyValue → Prop
  | (.createFlow _ _, r) => ∃ flow, r = .ok flow ∧ (flow.entryD "id").truthy = true
  | (.updateMetadata _ _, r) => ∃ v, r = .ok v
  | (.importFlow _ _ _, r) => ∃ v, r = .ok v
  | (.getFlow _, r) => ∃ flow, r = .ok flow ∧ checkDraft flow = .ok ()
  | (.savePlan _, r) => ∃ v, r = .ok v
  | _ => True

section History

variable {l : List (DynamicQuery × Except EngineError PyValue)} (h : DraftHistory l)

theorem DraftHistory.created_eq_nil (hl : ∀ e ∈ l, e.1.isCreate = false) : h.created = [] := by
  refine List.flatMap_eq_nil_iff.2 fun p hp ↦ h.others p hp (hl p.1 ?_)
  rw [← h.exchanges]
  exact List.mem_map_of_mem hp

theorem DraftHistory.mem_created {pid name : PyStr} {flow : PyValue}
    (hmem : (.createFlow pid name, .ok flow) ∈ l) (hid : (flow.entryD "id").truthy = true) :
    flow.entryD "id" ∈ h.created := by
  rw [← h.exchanges] at hmem
  obtain ⟨p, hp, heq⟩ := List.mem_map.1 hmem
  exact List.mem_flatMap.2 ⟨p, hp, h.answered p hp flow (by rw [heq]; rfl) (by rw [heq]) hid⟩

end History

/-- A request that comes after the creation of a draft, and before the row. -/
def OnDraft : DynamicQuery → Prop
  | .updateMetadata _ _ => True
  | .importFlow _ _ _ => True
  | .getFlow _ => True
  | _ => False

/-- A request that creates nothing and writes nothing. -/
def IsLookup : DynamicQuery → Prop
  | .catalog _ => True
  | _ => False

section Drafts

variable {s t : BuilderState} {l : List (DynamicQuery × Except EngineError PyValue)}
  {pid name stampedAt : PyStr} {trigger : PyValue} {x : Except EngineError PyValue}

theorem sends_inCatalog {α : Type} (m : BuilderM α) : Sends IsLookup (inCatalog m) := by
  intro s l x t h e he
  obtain ⟨k, rfl, -⟩ := runs_rename_iff.1 h
  obtain ⟨e', -, rfl⟩ := List.mem_map.1 he
  exact trivial

/-- **A draft that is created is either finished, or something after its creation goes wrong.** -/
theorem runs_createApVisibleDraftFlow
    (h : (createApVisibleDraftFlow requestEngine pid name stampedAt trigger).Runs s l x t) :
    ∃ r l', l = (.createFlow pid name, r) :: l' ∧
      (((∃ e, x = .error e) ∧ l' = [] ∧ ∀ flow, r = .ok flow →
          (flow.entryD "id").truthy = false) ∨
        ∃ flow, r = .ok flow ∧ (flow.entryD "id").truthy = true ∧ (∀ e ∈ l', OnDraft e.1) ∧
          ((x = .ok (flow.entryD "id") ∧ ∀ e ∈ l', GoesWell e) ∨
            (∃ e, x = .error e) ∧ ∃ e ∈ l', ¬ GoesWell e)) := by
  obtain ⟨r, l', rfl, ⟨flow, rfl, hflow⟩ | ⟨e, rfl, rfl, rfl, -⟩⟩ := runs_perform_bind_iff.1 h
  swap
  · exact ⟨_, [], rfl, .inl ⟨⟨e, rfl⟩, rfl, fun flow hflow ↦ absurd hflow (by simp)⟩⟩
  refine ⟨_, l', rfl, ?_⟩
  dsimp only at hflow
  split at hflow
  · rename_i hfalsy
    obtain ⟨rfl, rfl, -⟩ := runs_raise_iff.1 hflow
    refine .inl ⟨⟨_, rfl⟩, rfl, fun flow' heq ↦ ?_⟩
    obtain rfl := Except.ok.inj heq
    simpa using hfalsy
  rename_i htruthy
  refine .inr ⟨flow, rfl, by simpa using htruthy, ?_⟩
  -- The stamp, the import and the reading back come one after the other.
  obtain ⟨r₁, l₁, rfl, ⟨v₁, rfl, h₁⟩ | ⟨e, rfl, rfl, rfl, -⟩⟩ := runs_perform_bind_iff.1 hflow
  swap
  · exact ⟨by simp [OnDraft], .inr ⟨⟨e, rfl⟩, _, List.mem_singleton_self _, by simp [GoesWell]⟩⟩
  obtain ⟨r₂, l₂, rfl, ⟨v₂, rfl, h₂⟩ | ⟨e, rfl, rfl, rfl, -⟩⟩ := runs_perform_bind_iff.1 h₁
  swap
  · exact ⟨by simp [OnDraft], .inr ⟨⟨e, rfl⟩, _, List.mem_cons_of_mem _
      (List.mem_singleton_self _), by simp [GoesWell]⟩⟩
  obtain ⟨r₃, l₃, rfl, ⟨v₃, rfl, h₃⟩ | ⟨e, rfl, rfl, rfl, -⟩⟩ := runs_perform_bind_iff.1 h₂
  swap
  · exact ⟨by simp [OnDraft], .inr ⟨⟨e, rfl⟩, _, List.mem_cons_of_mem _
      (List.mem_cons_of_mem _ (List.mem_singleton_self _)), by simp [GoesWell]⟩⟩
  rcases runs_onValues_bind_iff.1 h₃ with ⟨⟨⟩, hcheck, hdone⟩ | ⟨e, hcheck, rfl, rfl, -⟩
  · obtain ⟨rfl, rfl, -⟩ := runs_pure_iff.1 hdone
    exact ⟨by simp [OnDraft], .inl ⟨rfl, by simp [GoesWell, hcheck]⟩⟩
  · refine ⟨by simp [OnDraft], .inr ⟨⟨_, rfl⟩, _, List.mem_cons_of_mem _
      (List.mem_cons_of_mem _ (List.mem_singleton_self _)), ?_⟩⟩
    rintro ⟨flow', heq, hok⟩
    obtain rfl := Except.ok.inj heq
    exact absurd (hcheck.symm.trans hok) (by simp)

/-- What comes after the creation of the draft `fid`. -/
def AfterCreation (fid : PyValue) : DynamicQuery → Prop
  | .savePlan row => row.flowId = fid
  | q => OnDraft q

theorem AfterCreation.of_onDraft {fid : PyValue} {q : DynamicQuery} (h : OnDraft q) :
    AfterCreation fid q := by
  cases q with
  | savePlan row => exact h.elim
  | _ => exact h

variable {env : BuilderEnv} {body : DynamicBuildBody} {trig : ResolvedTrigger}
  {gate : ConnectionGate}

/-- **A request that is kept as a plan** fails before it has created a draft, or it creates one;
then it returns if all goes well, and fails otherwise. -/
theorem runs_keepPlan (h : (keepPlan env pid stampedAt true body trig gate).Runs s l x t) :
    ∃ l₁, (∀ e ∈ l₁, IsLookup e.1) ∧
      (((∃ e, x = .error e) ∧ (l = l₁ ∨ ∃ name r, l = l₁ ++ [(.createFlow pid name, r)] ∧
          ∀ flow, r = .ok flow → (flow.entryD "id").truthy = false)) ∨
        ∃ name flow l₂, l = l₁ ++ (.createFlow pid name, .ok flow) :: l₂ ∧
          (flow.entryD "id").truthy = true ∧ (∀ e ∈ l₂, AfterCreation (flow.entryD "id") e.1) ∧
          (((∃ v, x = .ok v) ∧ ∀ e ∈ l₂, GoesWell e) ∨
            (∃ e, x = .error e) ∧ ∃ e ∈ l₂, ¬ GoesWell e)) := by
  have hlookups := sends_inCatalog (dynamicChain env body (activeConnection? gate.connectionIds))
  have hdraft : ∀ {k : List (DynamicQuery × Except EngineError PyValue)}
      {y : Except EngineError PyValue} {u : BuilderState},
      (visibleDraft env pid stampedAt true body trig gate).Runs s k y u →
      (∀ e ∈ k, IsLookup e.1) ∧ (∃ e, y = .error e) ∨
      ∃ k₁ k₂ chain, k = k₁ ++ k₂ ∧ (∀ e ∈ k₁, IsLookup e.1) ∧ ∃ v,
        (createApVisibleDraftFlow requestEngine pid body.displayName stampedAt
          (dynamicTrigger body trig chain)).Runs v k₂ y u := by
    intro k y u hrun
    rcases runs_bind_of_sends hlookups hrun with
      ⟨⟨e, rfl, -⟩, hall⟩ | ⟨k₁, k₂, a, v, rfl, hall, -, h₂⟩
    · exact .inl ⟨hall, e, rfl⟩
    · exact .inr ⟨k₁, k₂, a.1, rfl, hall, v, h₂⟩
  rcases runs_bind_iff.1 h with ⟨k, m, fid, u, rfl, hk, hm⟩ | ⟨e, rfl, hk⟩
  · rcases hdraft hk with ⟨-, e, he⟩ | ⟨k₁, k₂, chain, rfl, hall, v, hcreate⟩
    · exact absurd he (by simp)
    obtain ⟨r, l', rfl, ⟨⟨e, he⟩, -⟩ | ⟨flow, rfl, htruthy, hafter, hend⟩⟩ :=
      runs_createApVisibleDraftFlow hcreate
    · exact absurd he (by simp)
    rcases hend with ⟨hfid, hwell⟩ | ⟨⟨e, he⟩, -⟩
    swap
    · exact absurd he (by simp)
    obtain rfl := Except.ok.inj hfid
    -- The row is written last.
    obtain ⟨r, m', rfl, hsave⟩ := runs_perform_bind_iff.1 hm
    have hm' : m' = [] := by
      rcases hsave with ⟨set, rfl, hdone⟩ | ⟨e, -, rfl, -⟩
      · exact (runs_pure_iff.1 hdone).1
      · rfl
    subst hm'
    refine ⟨k₁, hall, .inr ⟨body.displayName, flow,
      l' ++ [(.savePlan (planRow pid body gate (flow.entryD "id")), r)], ?_, htruthy, ?_, ?_⟩⟩
    · rw [List.append_assoc, List.cons_append]
    · refine List.forall_mem_append.2 ⟨fun e he ↦ .of_onDraft (hafter e he), ?_⟩
      exact List.forall_mem_singleton.2 rfl
    · rcases hsave with ⟨set, rfl, hdone⟩ | ⟨e, rfl, -, rfl, -⟩
      · refine .inl ⟨⟨_, (runs_pure_iff.1 hdone).2.1⟩, List.forall_mem_append.2 ⟨hwell, ?_⟩⟩
        exact List.forall_mem_singleton.2 ⟨set, rfl⟩
      · refine .inr ⟨⟨e, rfl⟩, _, List.mem_append_right _ (List.mem_singleton_self _), ?_⟩
        rintro ⟨v, hv⟩
        exact absurd hv (by simp)
  · rcases hdraft hk with ⟨hall, -⟩ | ⟨k₁, k₂, chain, rfl, hall, v, hcreate⟩
    · exact ⟨l, hall, .inl ⟨⟨e, rfl⟩, .inl rfl⟩⟩
    obtain ⟨r, l', rfl, ⟨-, rfl, hnone⟩ | ⟨flow, rfl, htruthy, hafter, hend⟩⟩ :=
      runs_createApVisibleDraftFlow hcreate
    · exact ⟨k₁, hall, .inl ⟨⟨e, rfl⟩, .inr ⟨_, r, rfl, hnone⟩⟩⟩
    · rcases hend with ⟨hfid, -⟩ | ⟨-, hbad⟩
      · exact absurd hfid (by simp)
      · exact ⟨k₁, hall, .inr ⟨_, flow, l', rfl, htruthy, fun e he ↦ .of_onDraft (hafter e he),
          .inr ⟨⟨e, rfl⟩, hbad⟩⟩⟩

end Drafts

/-! ### The main result -/

/-- The run of the request takes the branch that keeps a plan: its first exchanges are those of the
gate, which has blocked a piece. -/
def KeepsPlan (env : BuilderEnv) (body : DynamicBuildBody) (s : BuilderState)
    (l : List (DynamicQuery × Except EngineError PyValue)) : Prop :=
  ∃ l₁ l₂ gated u, l = l₁ ++ l₂ ∧ (inCatalog (gatedTrigger env body)).Runs s l₁ (.ok gated) u ∧
    0 < gated.2.blockedCount

section Main

variable {env : BuilderEnv} {body : DynamicBuildBody} {pid stampedAt : PyStr}
  {s t : BuilderState} {l : List (DynamicQuery × Except EngineError PyValue)}
  {x : Except EngineError PyValue}

/-- Where the gate has blocked a piece, the request goes on as a plan. -/
theorem runs_v2BuildDynamic_of_keepPlan {visible : Bool}
    {l₁ l₂ : List (DynamicQuery × Except EngineError PyValue)}
    {gated : ResolvedTrigger × ConnectionGate} {u : BuilderState}
    (hgate : (inCatalog (gatedTrigger env body)).Runs s l₁ (.ok gated) u)
    (hblocked : 0 < gated.2.blockedCount)
    (hplan : (keepPlan env pid stampedAt visible body gated.1 gated.2).Runs u l₂ x t) :
    (v2BuildDynamic env pid stampedAt visible body).Runs s (l₁ ++ l₂) x t ∧
      KeepsPlan env body s (l₁ ++ l₂) := by
  refine ⟨runs_bind_iff.2 (.inl ⟨l₁, l₂, gated, u, rfl, hgate, ?_⟩), l₁, l₂, gated, u, rfl, hgate,
    hblocked⟩
  rwa [if_pos hblocked]

theorem goesWell_of_isLookup {e : DynamicQuery × Except EngineError PyValue} (h : IsLookup e.1) :
    GoesWell e := by
  obtain ⟨q, r⟩ := e
  cases q with
  | catalog q => exact trivial
  | _ => exact h.elim

theorem isCreate_of_isLookup {q : DynamicQuery} (h : IsLookup q) : q.isCreate = false := by
  cases q with
  | catalog q => rfl
  | _ => exact h.elim

/-- A request that fails and deletes nothing is safe only if nothing was created. -/
theorem draftSafe_error_iff {e : EngineError} {history : DraftHistory l}
    (hdelete : ∀ fid r, (.deleteFlow fid, r) ∉ l) (hrow : ∀ row r, (.savePlan row, r) ∉ l) :
    DraftSafe history (.error e : Except EngineError PyValue) ↔ history.created = [] := by
  constructor
  · refine fun h ↦ List.eq_nil_iff_forall_not_mem.2 fun fid hfid ↦ ?_
    obtain ⟨r, hmem⟩ := h.deleted e rfl fid hfid
    exact hdelete fid r hmem
  · intro h
    refine ⟨fun _ _ fid hfid ↦ ?_, fun row r hmem ↦ absurd hmem (hrow row r)⟩
    rw [h] at hfid
    exact absurd hfid List.not_mem_nil

section Endings

variable {k m : List (DynamicQuery × Except EngineError PyValue)} {name : PyStr} {e : EngineError}
  (hk : ∀ e ∈ k, IsLookup e.1)

include hk

/-- The request fails before it creates anything. -/
theorem draftSafe_iff_of_lookups (history : DraftHistory k) :
    DraftSafe history (.error e : Except EngineError PyValue) ↔
      history.created = [] ∨ ∀ e ∈ k, GoesWell e := by
  refine iff_of_true ⟨fun _ _ fid hfid ↦ ?_, fun row r hmem ↦ (hk _ hmem).elim⟩
    (.inr fun e he ↦ goesWell_of_isLookup (hk e he))
  rw [history.created_eq_nil fun e he ↦ isCreate_of_isLookup (hk e he)] at hfid
  exact absurd hfid List.not_mem_nil

/-- The creation fails: whatever has been created is not deleted. -/
theorem draftSafe_iff_of_failed {r : Except EngineError PyValue}
    (hnone : ∀ flow, r = .ok flow → (flow.entryD "id").truthy = false)
    (history : DraftHistory (k ++ [(.createFlow pid name, r)])) :
    DraftSafe history (.error e : Except EngineError PyValue) ↔
      history.created = [] ∨ ∀ e ∈ k ++ [(.createFlow pid name, r)], GoesWell e := by
  have hlist : ∀ e ∈ k ++ [(DynamicQuery.createFlow pid name, r)],
      IsLookup e.1 ∨ e = (.createFlow pid name, r) :=
    fun e he ↦ (List.mem_append.1 he).imp (hk e) List.mem_singleton.1
  have hbad : ¬ ∀ e ∈ k ++ [(DynamicQuery.createFlow pid name, r)], GoesWell e := by
    intro hall
    obtain ⟨flow, hflow, hid⟩ := hall _ (List.mem_append_right _ (List.mem_singleton_self _))
    exact absurd (hid.symm.trans (hnone flow hflow)) (by decide)
  rw [or_iff_left hbad]
  refine draftSafe_error_iff (fun fid r' hmem ↦ ?_) fun row r' hmem ↦ ?_
  · rcases hlist _ hmem with hlookup | heq
    · exact hlookup.elim
    · exact absurd (Prod.mk.inj heq).1 (by simp)
  · rcases hlist _ hmem with hlookup | heq
    · exact hlookup.elim
    · exact absurd (Prod.mk.inj heq).1 (by simp)

/-- The creation is answered with an id. -/
theorem draftSafe_iff_of_created {flow : PyValue} (htruthy : (flow.entryD "id").truthy = true)
    (hafter : ∀ e ∈ m, AfterCreation (flow.entryD "id") e.1)
    (hend : ((∃ v, x = .ok v) ∧ ∀ e ∈ m, GoesWell e) ∨ (∃ e, x = .error e) ∧ ∃ e ∈ m, ¬ GoesWell e)
    (history : DraftHistory (k ++ (.createFlow pid name, .ok flow) :: m)) :
    DraftSafe history x ↔
      history.created = [] ∨ ∀ e ∈ k ++ (.createFlow pid name, .ok flow) :: m, GoesWell e := by
  have hsplit : ∀ e ∈ k ++ (DynamicQuery.createFlow pid name, .ok flow) :: m,
      e ∈ k ∨ e = (.createFlow pid name, .ok flow) ∨ e ∈ m :=
    fun e he ↦ (List.mem_append.1 he).imp_right List.mem_cons.1
  have hlist : ∀ e ∈ k ++ (DynamicQuery.createFlow pid name, .ok flow) :: m, IsLookup e.1 ∨
      e = (.createFlow pid name, .ok flow) ∨ AfterCreation (flow.entryD "id") e.1 :=
    fun e he ↦ (hsplit e he).imp (hk e) fun h ↦ h.imp_right (hafter e)
  have hcreated : flow.entryD "id" ∈ history.created :=
    history.mem_created (List.mem_append_right _ List.mem_cons_self) htruthy
  rw [or_iff_right (List.ne_nil_of_mem hcreated)]
  rcases hend with ⟨⟨v, rfl⟩, hgood⟩ | ⟨⟨err, rfl⟩, e, he, hbad⟩
  · refine iff_of_true ⟨fun e he ↦ absurd he (by simp), fun row r hmem ↦ ?_⟩ fun e he ↦ ?_
    · rcases hlist _ hmem with hlookup | heq | hrow
      · exact hlookup.elim
      · exact absurd (Prod.mk.inj heq).1 (by simp)
      · exact .inr (hrow ▸ hcreated)
    · rcases hsplit e he with he | rfl | he
      · exact goesWell_of_isLookup (hk e he)
      · exact ⟨flow, rfl, htruthy⟩
      · exact hgood e he
  · refine iff_of_false (fun hsafe ↦ ?_) fun hall ↦ hbad (hall e ?_)
    · obtain ⟨r, hmem⟩ := hsafe.deleted err rfl _ hcreated
      rcases hlist _ hmem with hlookup | heq | hdelete
      · exact hlookup.elim
      · exact absurd (Prod.mk.inj heq).1 (by simp)
      · exact hdelete.elim
    · exact List.mem_append_right _ (List.mem_cons_of_mem _ he)

end Endings

/-- **No draft is left exactly when ActivePieces has created none, or nothing goes wrong.** -/
theorem draft_safe_iff (h : (v2BuildDynamic env pid stampedAt true body).Runs s l x t)
    (hkeeps : KeepsPlan env body s l) (history : DraftHistory l) :
    DraftSafe history x ↔ history.created = [] ∨ ∀ e ∈ l, GoesWell e := by
  obtain ⟨l₀, l₂, gated, u, rfl, hgate, hblocked⟩ := hkeeps
  have hplan := hgate.of_bind_ok h
  rw [if_pos hblocked] at hplan
  obtain ⟨l₁, hlookups, hcases⟩ := runs_keepPlan hplan
  have hbefore : ∀ e ∈ l₀ ++ l₁, IsLookup e.1 :=
    List.forall_mem_append.2 ⟨sends_inCatalog _ _ _ _ _ hgate, hlookups⟩
  generalize hl : l₀ ++ l₂ = l at history
  rcases hcases with ⟨⟨err, rfl⟩, rfl | ⟨name, r, rfl, hnone⟩⟩ |
    ⟨name, flow, m, rfl, htruthy, hafter, hend⟩
  · subst hl
    exact draftSafe_iff_of_lookups hbefore history
  · rw [← List.append_assoc] at hl
    subst hl
    exact draftSafe_iff_of_failed hbefore hnone history
  · rw [← List.append_assoc] at hl
    subst hl
    exact draftSafe_iff_of_created hbefore htruthy hafter hend history

end Main

/-! ### A draft that is left behind -/

/-- The schema of a piece that asks for authentication and has an action. -/
def mailSchema : PyValue :=
  pyDict [("auth", pyDict [("type", py "OAUTH2")]),
    ("actions", pyDict [("send_email", .dict [])])]

/-- A request with nothing but a trigger, which uses Gmail. -/
def mailBody : DynamicBuildBody where
  projectId := none
  connectionIds := none
  displayName := text "Plan"
  trigger := [(text "piece", py "gmail")]
  actions := []

/-- The exchanges of the gate, for a project without connections. -/
def gmailGateExchanges : List (CatalogQuery × Except EngineError PyValue) :=
  [(.schema (text "gmail"), .ok mailSchema), (.connections, .ok (.list [])),
    (.schema (text "@activepieces/piece-gmail"), .ok mailSchema)]

theorem runs_gmailGate (s : BuilderState) : ∃ gated,
    (gatedTrigger ⟨plainRuntime, [], []⟩ mailBody).Runs s gmailGateExchanges (.ok gated) s ∧
      0 < gated.2.blockedCount := by
  have hpieces : extractPieces id (.list [pyDict [("type", py "PIECE"),
      ("piece", py "@activepieces/piece-gmail")]]) = .ok [text "@activepieces/piece-gmail"] := by
    rw [extractPieces]
    rfl
  have hgate : ∃ gate, (classifyConnectionRequirements [] (mailBody.connections
      ⟨plainRuntime, [], []⟩) evalPy fetchPieceSchema (.list [pyDict [("type", py "PIECE"),
        ("piece", py "@activepieces/piece-gmail")]])).Runs s
        [(.schema (text "@activepieces/piece-gmail"), .ok mailSchema)] (.ok gate) s ∧
      0 < gate.blockedCount :=
    ⟨_, runs_evalPy_bind_ok_iff.2 ⟨_, hpieces, ⟨_, _, rfl, rfl, rfl⟩⟩, Nat.one_pos⟩
  obtain ⟨gate, hgate, hblocked⟩ := hgate
  refine ⟨(_, gate), runs_bind_ok_iff.2 ⟨[_], [_, _], _, s, rfl, ⟨_, _, rfl, rfl, rfl⟩,
    runs_bind_ok_iff.2 ⟨[_], [_], [], s, rfl, ⟨_, _, rfl, rfl, rfl⟩,
      runs_bind_ok_iff.2 ⟨[_], [], gate, s, rfl, hgate, runs_pure_iff.2 ⟨rfl, rfl, rfl⟩⟩⟩⟩,
    hblocked⟩

/-- The draft of the request. -/
def mailDraft : PyValue := pyDict [("id", py "f1")]

/-- The gate on the request, among the exchanges of the endpoint. -/
theorem runs_inCatalog_gmailGate (s : BuilderState) : ∃ gated,
    (inCatalog (gatedTrigger ⟨plainRuntime, [], []⟩ mailBody)).Runs s
      (gmailGateExchanges.map (Prod.map DynamicQuery.catalog id)) (.ok gated) s ∧
      0 < gated.2.blockedCount := by
  obtain ⟨gated, hgate, hblocked⟩ := runs_gmailGate s
  exact ⟨gated, runs_rename_iff.2 ⟨_, rfl, hgate⟩, hblocked⟩

/-- A history of a run of the sample: its last exchanges, with what they have created. -/
def mailHistory (later : List ((DynamicQuery × Except EngineError PyValue) × List PyValue))
    (hanswered : ∀ p ∈ later, ∀ flow, p.1.1.isCreate = true → p.1.2 = .ok flow →
      (flow.entryD "id").truthy = true → flow.entryD "id" ∈ p.2)
    (hothers : ∀ p ∈ later, p.1.1.isCreate = false → p.2 = []) :
    DraftHistory (gmailGateExchanges.map (Prod.map DynamicQuery.catalog id) ++
      later.map Prod.fst) where
  steps := (gmailGateExchanges.map (Prod.map DynamicQuery.catalog id)).map (fun e ↦ (e, [])) ++
    later
  exchanges := by
    rw [List.map_append, List.map_map]
    exact congrArg (· ++ _) (List.map_id _)
  answered p hp flow hcreate := by
    rcases List.mem_append.1 hp with hp | hp
    · obtain ⟨e, he, rfl⟩ := List.mem_map.1 hp
      obtain ⟨e', -, rfl⟩ := List.mem_map.1 he
      exact absurd hcreate (by simp [DynamicQuery.isCreate])
    · exact hanswered p hp flow hcreate
  others p hp hcreate := by
    rcases List.mem_append.1 hp with hp | hp
    · obtain ⟨e, -, rfl⟩ := List.mem_map.1 hp
      rfl
    · exact hothers p hp hcreate

/-- The creation of the draft is answered, and then it cannot be stamped. -/
def failedStampHistory : List ((DynamicQuery × Except EngineError PyValue) × List PyValue) :=
  [((.createFlow (text "p1") (text "Plan"), .ok mailDraft), [py "f1"]),
    ((.updateMetadata (py "f1") (buildSanitizedMetadata (text "p1") (text "t0")),
      .error (.http 502 (.text []))), [])]

/-- **A draft that cannot be stamped is left behind.** -/
theorem failed_stamp_leaves_draft : ∃ l x t, ∃ history : DraftHistory l,
    (v2BuildDynamic ⟨plainRuntime, [], []⟩ (text "p1") (text "t0") true mailBody).Runs ⟨1, []⟩ l x
      t ∧ KeepsPlan ⟨plainRuntime, [], []⟩ mailBody ⟨1, []⟩ l ∧ ¬ DraftSafe history x := by
  obtain ⟨gated, hgate, hblocked⟩ := runs_inCatalog_gmailGate ⟨1, []⟩
  have hplan : (keepPlan ⟨plainRuntime, [], []⟩ (text "p1") (text "t0") true mailBody gated.1
      gated.2).Runs ⟨1, []⟩ (failedStampHistory.map Prod.fst) (.error (.http 502 (.text [])))
        ⟨1, []⟩ := ⟨_, _, rfl, _, _, rfl, rfl, rfl⟩
  obtain ⟨hrun, hkeeps⟩ := runs_v2BuildDynamic_of_keepPlan hgate hblocked hplan
  have hanswered : ∀ p ∈ failedStampHistory, ∀ flow, p.1.1.isCreate = true → p.1.2 = .ok flow →
      (flow.entryD "id").truthy = true → flow.entryD "id" ∈ p.2 := by
    refine List.forall_mem_cons.2 ⟨fun flow _ hflow _ ↦ ?_, List.forall_mem_singleton.2 ?_⟩
    · obtain rfl : mailDraft = flow := Except.ok.inj hflow
      exact List.mem_singleton_self _
    · exact fun flow hcreate ↦ absurd hcreate (by decide)
  have hothers : ∀ p ∈ failedStampHistory, p.1.1.isCreate = false → p.2 = [] :=
    List.forall_mem_cons.2 ⟨fun h ↦ absurd h (by decide), List.forall_mem_singleton.2 fun _ ↦ rfl⟩
  refine ⟨_, _, _, mailHistory failedStampHistory hanswered hothers, hrun, hkeeps, fun hsafe ↦ ?_⟩
  obtain ⟨r, hmem⟩ := hsafe.deleted _ rfl (py "f1")
    (List.mem_flatMap.2 ⟨_, List.mem_append_right _ List.mem_cons_self, List.mem_cons_self⟩)
  simp [gmailGateExchanges, failedStampHistory] at hmem

/-- The answer to the creation is lost, and ActivePieces has created these flows. -/
def lostCreation (created : List PyValue) :
    DraftHistory (gmailGateExchanges.map (Prod.map DynamicQuery.catalog id) ++
      [(.createFlow (text "p1") (text "Plan"), .error (.http 502 (.text [])))]) :=
  mailHistory [((.createFlow (text "p1") (text "Plan"), .error (.http 502 (.text []))), created)]
    (List.forall_mem_singleton.2 fun flow _ hflow ↦ absurd hflow (by simp))
    (List.forall_mem_singleton.2 fun hcreate ↦ absurd hcreate (by simp [DynamicQuery.isCreate]))

/-- **Where the answer to the creation is lost**, nothing is left behind if ActivePieces has not
executed it, and the draft if it has. -/
theorem lost_creation_leaves_draft : ∃ x t,
    (v2BuildDynamic ⟨plainRuntime, [], []⟩ (text "p1") (text "t0") true mailBody).Runs ⟨1, []⟩
      (gmailGateExchanges.map (Prod.map DynamicQuery.catalog id) ++
        [(.createFlow (text "p1") (text "Plan"), .error (.http 502 (.text [])))]) x t ∧
      DraftSafe (lostCreation []) x ∧ ¬ DraftSafe (lostCreation [py "f1"]) x := by
  obtain ⟨gated, hgate, hblocked⟩ := runs_inCatalog_gmailGate ⟨1, []⟩
  have hplan : (keepPlan ⟨plainRuntime, [], []⟩ (text "p1") (text "t0") true mailBody gated.1
      gated.2).Runs ⟨1, []⟩ [(.createFlow (text "p1") (text "Plan"), .error (.http 502 (.text [])))]
        (.error (.http 502 (.text []))) ⟨1, []⟩ := ⟨_, _, rfl, rfl, rfl⟩
  obtain ⟨hrun, hkeeps⟩ := runs_v2BuildDynamic_of_keepPlan hgate hblocked hplan
  refine ⟨_, _, hrun, (draft_safe_iff hrun hkeeps _).2 (.inl rfl), fun hsafe ↦ ?_⟩
  rcases (draft_safe_iff hrun hkeeps _).1 hsafe with hnone | hall
  · exact absurd hnone (List.cons_ne_nil _ _)
  · obtain ⟨flow, hflow, -⟩ := hall _ (List.mem_append_right _ (List.mem_singleton_self _))
    exact absurd hflow (by simp)

end Siyadah
