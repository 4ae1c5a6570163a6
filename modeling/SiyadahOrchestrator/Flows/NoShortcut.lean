import Mathlib.Data.List.TakeWhile
import SiyadahOrchestrator.Build.UpdateFlow
import SiyadahOrchestrator.Flows.BuildOrphans
import SiyadahOrchestrator.Flows.Ownership

/-!
# The gates on the way to a publication

`golden_build` publishes a flow behind two gates: the tree has been validated against the registry,
and the tree that ActivePieces shows after the import has lost no step and has no invalid one.
`v2_reimport` and the MCP tool `update_flow` import, verify and publish too, but each of them was
written on its own and has neither gate: what stops them is an exception of an earlier stage only.

`PublishesGuarded` says of the exchanges of a run that every publication in it is covered by these
conditions. `golden_build` has only such runs (`publishesGuarded_goldenBuild`). A run of the other
two is such a run exactly if the conditions hold whenever the stages before the publication all
return.
-/

namespace Siyadah

open Dialogue SiyadahEngine PyValue

/-! ### What the exchanges show of an import -/

/-- The tree that a call submits. -/
def Call.imported : Call → Option PyValue
  | .flowOperation _ (.importFlow _ trigger) => some trigger
  | _ => none

/-- The call is no import. -/
def Call.noImport (c : Call) : Bool := c.imported.isNone

/-- The tree of the first import. -/
def submitted (l : List (Call × Reply)) : Option PyValue :=
  (l.filterMap fun e ↦ e.1.imported).head?

/-- The first flow that is read back after an import. -/
def shownAfterImport (l : List (Call × Reply)) : Option (PyValue × PyValue) :=
  (readings (l.dropWhile fun e ↦ e.1.noImport)).head?

/-- The conditions that `golden_build` imposes on a publication: the tree passed the validator
against a registry that is not empty, and the tree that was read back has lost no step and has no
invalid one. -/
structure GoldenConditions (repr : PyValue → PyStr)
    (registry : Option (Except EngineError PieceRegistry)) (trigger verified : PyValue) : Prop where
  validated : ∃ reg, registry = some (.ok reg) ∧ reg.rows ≠ [] ∧
    validateTrigger repr reg trigger = .ok []
  graphs : ∃ before after, walkFlowTree (pyDict [("version", pyDict [("trigger", trigger)])]) =
      .ok before ∧ walkFlowTree verified = .ok after ∧ before.totalSteps ≤ after.totalSteps ∧
    ∀ step ∈ after.steps, step.valid.isFalse = false

/-- Every publication among the exchanges comes after an import and a read of the flow for which the
conditions hold. -/
def PublishesGuarded (repr : PyValue → PyStr)
    (registry : Option (Except EngineError PieceRegistry)) (l : List (Call × Reply)) : Prop :=
  ∀ l₁ l₂ fid rep, l = l₁ ++ (.flowOperation fid .lockAndPublish, rep) :: l₂ →
    ∃ trigger verified, submitted l₁ = some trigger ∧
      shownAfterImport l₁ = some (fid, verified) ∧
      GoldenConditions repr registry trigger verified

section Exchanges

variable {X : Httpx} {fid trigger verified : PyValue} {name : PyStr} {s t u w : Engine}
  {l l₁ l₂ k : List (Call × Reply)} {repr : PyValue → PyStr}
  {registry : Option (Except EngineError PieceRegistry)}

theorem submitted_append (h : submitted l = some trigger) : submitted (l ++ k) = some trigger := by
  rw [submitted] at h
  rw [submitted, List.filterMap_append, List.head?_append, h]
  rfl

theorem shownAfterImport_append (h : shownAfterImport l = some (fid, verified)) :
    shownAfterImport (l ++ k) = some (fid, verified) := by
  rw [shownAfterImport] at h
  rw [shownAfterImport, List.dropWhile_append]
  split
  · rename_i hempty
    rw [List.isEmpty_iff.1 hempty] at h
    exact absurd h (by simp [readings])
  · rw [readings_append, List.head?_append, h]
    rfl

/-- An import that returns and the verification behind it leave their trees among the exchanges. -/
theorem submitted_of_verified {v : PyValue} (hk : ∀ e ∈ k, e.1.noImport = true)
    (himport : (importFlow X fid name trigger).Runs s l₁ (.ok v) u)
    (hverify : (verifyFlow X fid).Runs u l₂ (.ok verified) t) :
    submitted (k ++ (l₁ ++ l₂)) = some trigger ∧
      shownAfterImport (k ++ (l₁ ++ l₂)) = some (fid, verified) := by
  obtain ⟨l', rep, rfl, -⟩ := runs_r_ok (by simp) himport
  have hsends := sends_r (X := X) (.flowOperation fid (.importFlow name trigger)) _ _ _ _ himport
  have hkNone : k.filterMap (fun e ↦ e.1.imported) = [] :=
    List.filterMap_eq_nil_iff.2 fun e he ↦ Option.isNone_iff_eq_none.1 (hk e he)
  constructor
  · -- Every import of the list submits the tree, and there is one.
    rw [submitted, List.filterMap_append, hkNone, List.nil_append, List.filterMap_append,
      List.head?_append]
    have hall : ∀ x ∈ (l' ++ [(Call.flowOperation fid (.importFlow name trigger), rep)]).filterMap
        (fun e ↦ e.1.imported), x = trigger := by
      intro x hx
      obtain ⟨e, he, hex⟩ := List.mem_filterMap.1 hx
      rcases hsends e he with h | h
      · rw [h] at hex
        exact (Option.some.inj hex).symm
      · rw [h] at hex
        exact absurd hex (by simp [Call.imported])
    have hmem : trigger ∈
        (l' ++ [(Call.flowOperation fid (.importFlow name trigger), rep)]).filterMap
          (fun e ↦ e.1.imported) :=
      List.mem_filterMap.2 ⟨_, List.mem_append_right l' List.mem_cons_self, rfl⟩
    obtain ⟨x, hx⟩ := Option.isSome_iff_exists.1 (List.isSome_head?.2 (List.ne_nil_of_mem hmem))
    rw [hx, hall x (List.mem_of_mem_head? hx)]
    rfl
  · have hread : readings
        ((l' ++ [(Call.flowOperation fid (.importFlow name trigger), rep)]).dropWhile
          fun e ↦ e.1.noImport) = [] := by
      refine readings_of_no_read fun e he ↦ ?_
      rcases hsends e ((List.dropWhile_sublist _).subset he) with h | h <;> rw [h] <;> rfl
    have hne : ((l' ++ [(Call.flowOperation fid (.importFlow name trigger), rep)]).dropWhile
        fun e ↦ e.1.noImport) ≠ [] := by
      intro hnil
      have := List.dropWhile_eq_nil_iff.1 hnil _ (List.mem_append_right l' List.mem_cons_self)
      exact absurd this (by simp [Call.noImport, Call.imported])
    rw [shownAfterImport, List.dropWhile_append_of_pos hk, List.dropWhile_append,
      if_neg (by simpa using hne), readings_append, hread, (runs_verifyFlow_ok hverify).1]
    rfl

/-- Exchanges without a publication are guarded. -/
theorem publishesGuarded_of_none (h : ∀ e ∈ l, e.1.isPublish = false) :
    PublishesGuarded repr registry l := by
  rintro l₁ l₂ fid rep rfl
  exact absurd (h _ (List.mem_append_right l₁ List.mem_cons_self)) (by simp [Call.isPublish])

/-- When nothing is published in the first part, a later publication comes after all of it. -/
theorem publishesGuarded_append (hl₁ : ∀ e ∈ l₁, e.1.isPublish = false)
    (hsubmitted : submitted l₁ = some trigger)
    (hshown : shownAfterImport l₁ = some (fid, verified))
    (hfid : ∀ e ∈ l₂, ∀ fid', e.1 = .flowOperation fid' .lockAndPublish → fid' = fid)
    (h : GoldenConditions repr registry trigger verified) :
    PublishesGuarded repr registry (l₁ ++ l₂) := by
  intro k₁ k₂ fid' rep hl
  rcases List.append_eq_append_iff.1 hl with ⟨a, rfl, hl₂⟩ | ⟨c, hc, hk⟩
  · obtain rfl := hfid _ (hl₂ ▸ List.mem_append_right a List.mem_cons_self) fid' rfl
    exact ⟨trigger, verified, submitted_append hsubmitted, shownAfterImport_append hshown, h⟩
  · cases c with
    | nil =>
      rw [List.append_nil] at hc
      obtain rfl := hfid _ (by rw [← List.nil_append l₂, ← hk]; exact List.mem_cons_self) fid' rfl
      exact ⟨trigger, verified, hc ▸ hsubmitted, hc ▸ hshown, h⟩
    | cons e c =>
      obtain ⟨rfl, -⟩ := List.cons.inj hk
      refine absurd (hl₁ (.flowOperation fid' .lockAndPublish, rep) ?_) (by simp [Call.isPublish])
      rw [hc]
      exact List.mem_append_right k₁ List.mem_cons_self

/-- Exchanges that neither import nor publish may come before. -/
theorem PublishesGuarded.prepend (h : PublishesGuarded repr registry l)
    (hpublish : ∀ e ∈ k, e.1.isPublish = false) (himport : ∀ e ∈ k, e.1.noImport = true) :
    PublishesGuarded repr registry (k ++ l) := by
  intro l₁ l₂ fid rep hl
  rcases List.append_eq_append_iff.1 hl with ⟨a, rfl, hl₂⟩ | ⟨c, hc, hk⟩
  · obtain ⟨trigger, verified, hsubmitted, hshown, hgolden⟩ := h a l₂ fid rep hl₂
    have hkNone : k.filterMap (fun e ↦ e.1.imported) = [] :=
      List.filterMap_eq_nil_iff.2 fun e he ↦ Option.isNone_iff_eq_none.1 (himport e he)
    refine ⟨trigger, verified, ?_, ?_, hgolden⟩
    · rw [submitted, List.filterMap_append, hkNone]
      exact hsubmitted
    · rw [shownAfterImport, List.dropWhile_append_of_pos himport]
      exact hshown
  · cases c with
    | nil =>
      obtain ⟨trigger, verified, hsubmitted, -⟩ := h [] l₂ fid rep hk.symm
      exact absurd hsubmitted (by simp [submitted])
    | cons e c =>
      obtain ⟨rfl, -⟩ := List.cons.inj hk
      refine absurd (hpublish (.flowOperation fid .lockAndPublish, rep) ?_)
        (by simp [Call.isPublish])
      rw [hc]
      exact List.mem_append_right l₁ List.mem_cons_self

end Exchanges

/-! ### The re-import paths -/

section Paths

variable (X : Httpx) (gate : EngineM Unit) (plan : Plan) (fid : PyValue)

/-- The stages before the publication: the gate of the path, the preparation of the tree, the import
and the verification. They return the tree that was submitted and the flow that was shown. -/
def untilVerified : EngineM (PyValue × PyValue) := do
  gate
  let (name, trigger) ← plan.prepare
  let _ ← importFlow X fid name trigger
  let verified ← verifyFlow X fid
  pure (trigger, verified)

/-- What the two paths have in common. -/
def importAgain {α : Type} (rest : PyStr → EngineM α) : EngineM α := do
  gate
  let (name, trigger) ← plan.prepare
  let _ ← importFlow X fid name trigger
  let _ ← verifyFlow X fid
  rest name

/-- The replies earn the publication: once the stages before it have all returned, the conditions of
`golden_build` hold of the tree that was submitted and the flow that was shown. -/
def EarnsPublication (repr : PyValue → PyStr)
    (registry : Option (Except EngineError PieceRegistry)) (s : Engine)
    (l : List (Call × Reply)) : Prop :=
  ∀ l₁ l₂ trigger verified u, l = l₁ ++ l₂ →
    (untilVerified X gate plan fid).Runs s l₁ (.ok (trigger, verified)) u →
    GoldenConditions repr registry trigger verified

end Paths

section Runs

variable {X : Httpx} {gate : EngineM Unit} {plan : Plan} {fid trigger verified : PyValue}
  {name : PyStr} {s t u : Engine} {l l₁ l₂ : List (Call × Reply)} {repr : PyValue → PyStr}
  {registry : Option (Except EngineError PieceRegistry)} {α : Type}

theorem runs_publishAndEnable_head (hs : s.hasClient = true) {x : Except EngineError Published}
    (h : (publishAndEnable X fid).Runs s l x t) :
    ∃ rep l', l = (.flowOperation fid .lockAndPublish, rep) :: l' := by
  rcases runs_bind_iff.1 h with ⟨k₁, k₂, v, u, rfl, h₁, -⟩ | ⟨e, -, h'⟩
  · obtain ⟨rep, l', rfl⟩ := runs_r_ready (.inl hs) h₁
    exact ⟨rep, l' ++ k₂, rfl⟩
  · exact runs_r_ready (.inl hs) h'

/-- What comes behind the verification publishes the flow first of all, and no other flow. -/
structure PublishesFirst (X : Httpx) (fid : PyValue) (rest : EngineM α) : Prop where
  head : ∀ s l x t, s.hasClient = true → rest.Runs s l x t →
    ∃ rep l', l = (.flowOperation fid .lockAndPublish, rep) :: l'
  only : Sends (fun c ↦ ∀ fid', c = .flowOperation fid' .lockAndPublish → fid' = fid) rest

theorem PublishesFirst.publishAndEnable_bind {f : Published → EngineM α}
    (hf : ∀ pub, Sends (fun c ↦ c.isPublish = false) (f pub)) :
    PublishesFirst X fid (publishAndEnable X fid >>= f) where
  head := by
    intro s l x t hs h
    rcases runs_bind_iff.1 h with ⟨k₁, k₂, pub, u, rfl, h₁, -⟩ | ⟨e, -, h'⟩
    · obtain ⟨rep, l', rfl⟩ := runs_publishAndEnable_head hs h₁
      exact ⟨rep, l' ++ k₂, rfl⟩
    · exact runs_publishAndEnable_head hs h'
  only := by
    refine (sends_publishAndEnable ?_ ?_ ?_ ?_).bind fun pub ↦ (hf pub).mono fun c hc fid' h ↦ ?_
    · exact fun fid' h ↦ by injection h with h; exact h.symm
    · exact fun fid' h ↦ absurd h (by simp)
    · exact fun fid' h ↦ absurd h (by simp)
    · exact fun fid' h ↦ absurd h (by simp)
    · rw [h] at hc
      exact absurd hc (by simp [Call.isPublish])

/-- The stages before the publication leave the two trees among the exchanges, and publish
nothing. -/
theorem runs_untilVerified (hgate : Sends (fun c ↦ c.isRead = true) gate)
    (h : (untilVerified X gate plan fid).Runs s l (.ok (trigger, verified)) t) :
    (∀ e ∈ l, e.1.isPublish = false) ∧ submitted l = some trigger ∧
      shownAfterImport l = some (fid, verified) ∧ t.hasClient = true := by
  obtain ⟨k₀, l, _, u₀, rfl, h₀, h⟩ := runs_bind_ok_iff.1 h
  obtain ⟨k₁, l, ⟨name, tree⟩, u₁, rfl, h₁, h⟩ := runs_bind_ok_iff.1 h
  obtain ⟨k₂, l, v, u₂, rfl, h₂, h⟩ := runs_bind_ok_iff.1 h
  obtain ⟨k₃, l, shown, u₃, rfl, h₃, h⟩ := runs_bind_ok_iff.1 h
  obtain ⟨rfl, hx, rfl⟩ := runs_pure_iff.1 h
  obtain ⟨rfl, rfl⟩ := Prod.mk.inj (Except.ok.inj hx)
  -- Up to the import there are reads only.
  have hreads : ∀ e ∈ k₀ ++ k₁, e.1.isRead = true :=
    List.forall_mem_append.2 ⟨hgate _ _ _ _ h₀, plan.reads _ _ _ _ h₁⟩
  have hread : ∀ c : Call, c.isRead = true → c.noImport = true ∧ c.isPublish = false := by
    intro c hc
    cases c <;> first | exact ⟨rfl, rfl⟩ | exact absurd hc (by simp [Call.isRead])
  obtain ⟨hsubmitted, hshown⟩ :=
    submitted_of_verified (fun e he ↦ (hread e.1 (hreads e he)).1) h₂ h₃
  have himport : Sends (fun c ↦ c.isPublish = false) (importFlow X fid name trigger) :=
    sends_r_of rfl rfl
  have hverify : Sends (fun c ↦ c.isPublish = false) (verifyFlow X fid) :=
    sends_verifyFlow rfl rfl
  have hl : k₀ ++ (k₁ ++ (k₂ ++ (k₃ ++ []))) = (k₀ ++ k₁) ++ (k₂ ++ k₃) := by simp
  rw [hl]
  refine ⟨?_, hsubmitted, hshown, (runs_verifyFlow_ok h₃).2.1⟩
  exact List.forall_mem_append.2 ⟨fun e he ↦ (hread e.1 (hreads e he)).2,
    List.forall_mem_append.2 ⟨himport _ _ _ _ h₂, hverify _ _ _ _ h₃⟩⟩

/-- **The two ends of a re-import.** An earlier stage raises and nothing is published, or all of
them return and the publication begins. -/
theorem runs_importAgain {rest : PyStr → EngineM α} (hgate : Sends (fun c ↦ c.isRead = true) gate)
    {x : Except EngineError α} (h : (importAgain X gate plan fid rest).Runs s l x t) :
    ((∀ e ∈ l, e.1.isPublish = false) ∧
      ∃ e, (untilVerified X gate plan fid).Runs s l (.error e) t) ∨
    ∃ l₁ l₂ trigger verified name u, l = l₁ ++ l₂ ∧
      (untilVerified X gate plan fid).Runs s l₁ (.ok (trigger, verified)) u ∧
      (rest name).Runs u l₂ x t := by
  let P : Call → Prop := fun c ↦ c.isPublish = false
  have hread : ∀ c : Call, c.isRead = true → P c := by
    intro c hc
    cases c <;> first | rfl | exact absurd hc (by simp [Call.isRead])
  rcases runs_bind_of_sends (hgate.mono hread) h with
    ⟨⟨e, rfl, h₀⟩, hp⟩ | ⟨k₀, l, _, u₀, rfl, hp₀, h₀, h⟩
  · exact .inl ⟨hp, e, runs_bind_error_iff.2 (.inr h₀)⟩
  rcases runs_bind_of_sends (plan.reads.mono hread) h with
    ⟨⟨e, rfl, h₁⟩, hp⟩ | ⟨k₁, l, ⟨name, tree⟩, u₁, rfl, hp₁, h₁, h⟩
  · refine .inl ⟨List.forall_mem_append.2 ⟨hp₀, hp⟩, e, runs_bind_error_iff.2 (.inl ?_)⟩
    exact ⟨k₀, l, (), u₀, rfl, h₀, runs_bind_error_iff.2 (.inr h₁)⟩
  have himport : Sends P (importFlow X fid name tree) := sends_r_of rfl rfl
  rcases runs_bind_of_sends himport h with
    ⟨⟨e, rfl, h₂⟩, hp⟩ | ⟨k₂, l, v, u₂, rfl, hp₂, h₂, h⟩
  · refine .inl ⟨List.forall_mem_append.2 ⟨hp₀, List.forall_mem_append.2 ⟨hp₁, hp⟩⟩, e,
      runs_bind_error_iff.2 (.inl ⟨k₀, _, (), u₀, rfl, h₀, runs_bind_error_iff.2 (.inl ?_)⟩)⟩
    exact ⟨k₁, l, (name, tree), u₁, rfl, h₁, runs_bind_error_iff.2 (.inr h₂)⟩
  rcases runs_bind_of_sends (P := P) (sends_verifyFlow rfl rfl) h with
    ⟨⟨e, rfl, h₃⟩, hp⟩ | ⟨k₃, l, shown, u₃, rfl, hp₃, h₃, h⟩
  · refine .inl ⟨List.forall_mem_append.2 ⟨hp₀, List.forall_mem_append.2 ⟨hp₁,
      List.forall_mem_append.2 ⟨hp₂, hp⟩⟩⟩, e,
      runs_bind_error_iff.2 (.inl ⟨k₀, _, (), u₀, rfl, h₀, runs_bind_error_iff.2 (.inl ?_)⟩)⟩
    refine ⟨k₁, _, (name, tree), u₁, rfl, h₁, runs_bind_error_iff.2 (.inl ?_)⟩
    exact ⟨k₂, l, v, u₂, rfl, h₂, runs_bind_error_iff.2 (.inr h₃)⟩
  · refine .inr ⟨k₀ ++ (k₁ ++ (k₂ ++ (k₃ ++ []))), l, tree, shown, name, u₃, by simp, ?_, h⟩
    refine runs_bind_ok_iff.2 ⟨k₀, _, (), u₀, rfl, h₀, runs_bind_ok_iff.2 ⟨k₁, _, (name, tree), u₁,
      rfl, h₁, runs_bind_ok_iff.2 ⟨k₂, _, v, u₂, rfl, h₂, runs_bind_ok_iff.2 ?_⟩⟩⟩
    exact ⟨k₃, [], shown, u₃, rfl, h₃, runs_pure_iff.2 ⟨rfl, rfl, rfl⟩⟩

/-- A re-import publishes under the conditions of `golden_build` exactly if the replies earn the
publication. -/
theorem publishesGuarded_importAgain_iff {rest : PyStr → EngineM α}
    (hgate : Sends (fun c ↦ c.isRead = true) gate)
    (hrest : ∀ name, PublishesFirst X fid (rest name)) {x : Except EngineError α}
    (h : (importAgain X gate plan fid rest).Runs s l x t) :
    PublishesGuarded repr registry l ↔ EarnsPublication X gate plan fid repr registry s l := by
  rcases runs_importAgain hgate h with
    ⟨hnone, e, hfail⟩ | ⟨l₁, l₂, trigger, verified, name, u, rfl, huntil, hrun⟩
  · refine iff_of_true (publishesGuarded_of_none hnone) fun k₁ k₂ trigger verified u hl huntil ↦ ?_
    obtain ⟨-, -, hx, -⟩ := huntil.unique_of_append hfail (hl.symm.trans (List.append_nil l).symm)
    exact absurd hx (by simp)
  obtain ⟨hnone, hsubmitted, hshown, hclient⟩ := runs_untilVerified hgate huntil
  constructor
  · intro hguarded k₁ k₂ trigger' verified' u' hl huntil'
    obtain ⟨-, -, hx, -⟩ := huntil'.unique_of_append huntil hl.symm
    obtain ⟨rfl, rfl⟩ := Prod.mk.inj (Except.ok.inj hx)
    obtain ⟨rep, l', rfl⟩ := (hrest name).head _ _ _ _ hclient hrun
    obtain ⟨trigger, verified, hsub, hshow, hgolden⟩ := hguarded l₁ l' fid rep rfl
    obtain rfl := Option.some.inj (hsub.symm.trans hsubmitted)
    obtain ⟨-, rfl⟩ := Prod.mk.inj (Option.some.inj (hshow.symm.trans hshown))
    exact hgolden
  · intro hearns
    exact publishesGuarded_append hnone hsubmitted hshown ((hrest name).only _ _ _ _ hrun)
      (hearns l₁ l₂ trigger verified u rfl huntil)

/-- The handler of `v2_reimport` sends nothing: its runs are those of the path without it. -/
theorem runs_v2Reimport {rows : RegistryRead} {pid fid : PyStr}
    {x : Except EngineError ReimportResult} (h : (v2Reimport X rows pid fid plan).Runs s l x t) :
    ∃ y, (importAgain X (assertFlowOwnership X rows fid pid) plan (.str fid) fun name ↦ do
      let pub ← publishAndEnable X (.str fid)
      confirmReimport X fid name pub).Runs s l y t := by
  rcases runs_bind_iff.1 h with ⟨k₀, l, _, u₀, rfl, h₀, h⟩ | ⟨e, rfl, h₀⟩
  swap
  · exact ⟨.error e, runs_bind_error_iff.2 (.inr h₀)⟩
  rcases runs_bind_iff.1 h with ⟨k₁, l, ⟨name, tree⟩, u₁, rfl, h₁, h⟩ | ⟨e, rfl, h₁⟩
  swap
  · exact ⟨.error e, runs_bind_error_iff.2 (.inl ⟨k₀, l, (), u₀, rfl, h₀,
      runs_bind_error_iff.2 (.inr h₁)⟩)⟩
  have hinner : ∃ y, (reimportFlow X fid name tree).Runs u₁ l y t := by
    rcases runs_handle_iff.1 h with ⟨a, -, h'⟩ | ⟨j₁, j₂, e, w, rfl, hj₁, hj₂⟩
    · exact ⟨_, h'⟩
    · split at hj₂ <;>
      · obtain ⟨rfl, -, rfl⟩ := runs_raise_iff.1 hj₂
        exact ⟨.error e, (List.append_nil j₁).symm ▸ hj₁⟩
  obtain ⟨y, hy⟩ := hinner
  exact ⟨y, runs_bind_iff.2 (.inl ⟨k₀, _, (), u₀, rfl, h₀,
    runs_bind_iff.2 (.inl ⟨k₁, l, (name, tree), u₁, rfl, h₁, hy⟩)⟩)⟩

/-- **No shortcut around the gates, where it holds.** `v2_reimport` and the MCP tool `update_flow`
publish under the conditions of `golden_build` exactly if the replies earn it: once the stages
before the publication have all returned, the tree is one that the validator accepts against a
registry that is not empty, and the flow that was shown has lost no step and has no invalid one. -/
theorem reimports_publish_guarded_iff (X : Httpx) (rows : RegistryRead) (plan : Plan)
    (repr : PyValue → PyStr) (registry : Option (Except EngineError PieceRegistry)) :
    (∀ (pid fid : PyStr) (s t : Engine) (l : List (Call × Reply))
      (x : Except EngineError ReimportResult), (v2Reimport X rows pid fid plan).Runs s l x t →
      (PublishesGuarded repr registry l ↔ EarnsPublication X (assertFlowOwnership X rows fid pid)
        plan (.str fid) repr registry s l)) ∧
    ∀ (fid : PyValue) (s t : Engine) (l : List (Call × Reply)) (x : Except EngineError Published),
      (updateFlow X fid plan).Runs s l x t →
      (PublishesGuarded repr registry l ↔
        EarnsPublication X (pure ()) plan fid repr registry s l) := by
  constructor
  · intro pid fid s t l x hrun
    obtain ⟨y, hy⟩ := runs_v2Reimport hrun
    have hconfirm : ∀ name pub, Sends (fun c ↦ c.isPublish = false)
        (confirmReimport X fid name pub) := by
      intro name pub
      have hget : Sends (fun c ↦ c.isPublish = false) (getFlow X (.str fid)) := sends_r_of rfl rfl
      refine hget.bind fun final ↦ (sends_ofPy _).bind fun read ↦ ?_
      split
      · exact sends_raise _
      · exact (sends_ofPy _).bind fun tree ↦ sends_pure _
    exact publishesGuarded_importAgain_iff (sends_assertFlowOwnership rfl rfl)
      (fun name ↦ .publishAndEnable_bind (hconfirm name)) hy
  · intro fid s t l x hrun
    have hrest : PublishesFirst X fid (publishAndEnable X fid) := by
      refine ⟨fun s l x t hs h ↦ runs_publishAndEnable_head hs h, sends_publishAndEnable
        (fun fid' h ↦ ?_) (fun fid' h ↦ absurd h (by simp)) (fun fid' h ↦ absurd h (by simp))
        fun fid' h ↦ absurd h (by simp)⟩
      injection h with h
      exact h.symm
    have hagain : (importAgain X (pure ()) plan fid fun _ ↦ publishAndEnable X fid).Runs s l x t :=
      hrun
    exact publishesGuarded_importAgain_iff (sends_pure ()) (fun _ ↦ hrest) hagain

end Runs

/-! ### The build -/

section Build

variable {env : BuildEnv} {b : BuildRequest} {fid : PyValue} {s t : Engine}
  {l : List (Call × Reply)} {reg : PieceRegistry}

/-- From the created flow on, a build of a validated tree publishes under the conditions only. -/
theorem publishesGuarded_buildCreated (hreg : env.registry = some (.ok reg)) (hrows : reg.rows ≠ [])
    (hvalid : validateTrigger env.pyText.repr reg b.trigger = .ok [])
    {x : Except EngineError BuildResult} (h : (buildCreated env b fid).Runs s l x t) :
    PublishesGuarded env.pyText.repr env.registry l := by
  let P : Call → Prop := fun c ↦ c.isPublish = false
  have himportSends : Sends P (importFlow env.httpx fid (buildName env b) b.trigger) :=
    sends_r_of rfl rfl
  rcases runs_bind_of_sends (P := P) (sends_stampMetadata rfl rfl rfl) h with
    ⟨-, hp⟩ | ⟨k₁, l, _, u₁, rfl, hp₁, hstamp, h⟩
  · exact publishesGuarded_of_none hp
  rcases runs_ofPy_bind_iff.1 h with ⟨before, hbefore, h⟩ | ⟨e, -, rfl, rfl, -⟩
  swap
  · exact publishesGuarded_of_none (by rwa [List.append_nil])
  rcases runs_bind_of_sends himportSends h with ⟨-, hp⟩ | ⟨k₂, l, v, u₂, rfl, hp₂, himport, h⟩
  · exact publishesGuarded_of_none (List.forall_mem_append.2 ⟨hp₁, hp⟩)
  rcases runs_bind_of_sends (P := P) (sends_verifyFlow rfl rfl) h with
    ⟨-, hp⟩ | ⟨k₃, l, verified, u₃, rfl, hp₃, hverify, h⟩
  · exact publishesGuarded_of_none
      (List.forall_mem_append.2 ⟨hp₁, List.forall_mem_append.2 ⟨hp₂, hp⟩⟩)
  have hp : ∀ e ∈ k₁ ++ (k₂ ++ k₃), P e.1 :=
    List.forall_mem_append.2 ⟨hp₁, List.forall_mem_append.2 ⟨hp₂, hp₃⟩⟩
  have hl : k₁ ++ (k₂ ++ (k₃ ++ l)) = (k₁ ++ (k₂ ++ k₃)) ++ l := by simp
  rw [hl]
  rcases runs_ofPy_bind_iff.1 h with ⟨after, hafter, h⟩ | ⟨e, -, rfl, rfl, -⟩
  swap
  · exact publishesGuarded_of_none (by rwa [List.append_nil])
  rcases runs_bind_of_sends (P := P) (sends_checkImported rfl rfl) h with
    ⟨-, hp₄⟩ | ⟨k₄, l, _, u₄, rfl, hp₄, hcheck, hafterGates⟩
  · exact publishesGuarded_of_none (List.forall_mem_append.2 ⟨hp, hp₄⟩)
  -- The gates are open: the rest publishes this flow only.
  obtain ⟨rfl, rfl, hsteps, hinvalid⟩ := runs_checkImported_ok hcheck
  have hstampImport : ∀ e ∈ k₁, e.1.noImport = true :=
    sends_stampMetadata (P := fun c ↦ c.noImport = true) rfl rfl rfl _ _ _ _ hstamp
  obtain ⟨hsubmitted, hshown⟩ := submitted_of_verified hstampImport himport hverify
  have honly : Sends (fun c ↦ ∀ fid', c = .flowOperation fid' .lockAndPublish → fid' = fid)
      (afterGates env b fid verified) := by
    refine (sends_ofPy _).bind fun ttype ↦ (sends_publishAndConfirm (fun fid' h ↦ ?_)
      (fun fid' h ↦ absurd h (by simp)) (fun fid' h ↦ absurd h (by simp))
      fun fid' h ↦ absurd h (by simp)).bind fun pub ↦
      sends_finish (fun _ fid' h ↦ absurd h (by simp)) fun _ _ fid' h ↦ absurd h (by simp)
    injection h with h
    exact h.symm
  exact publishesGuarded_append hp hsubmitted hshown (honly _ _ _ _ hafterGates)
    ⟨⟨reg, hreg, hrows, hvalid⟩, before, after, hbefore, hafter, hsteps, hinvalid⟩

/-- **`golden_build` publishes under the conditions only**, whatever ActivePieces replies. -/
theorem publishesGuarded_goldenBuild (hreg : env.registry = some (.ok reg)) (hrows : reg.rows ≠ [])
    {x : Except EngineError BuildResult} (h : (goldenBuild env b).Runs s l x t) :
    PublishesGuarded env.pyText.repr env.registry l := by
  have hcreate : ∀ {l : List (Call × Reply)},
      (∀ e ∈ l, e.1 = .createFlow (buildPid env b) (buildName env b) ∨ e.1 = .signIn) →
      ∀ e ∈ l, e.1.isPublish = false := by
    intro l hl e he
    rcases hl e he with h | h <;> rw [h] <;> rfl
  rcases runs_goldenBuild h with
    ⟨-, hl⟩ | ⟨l₁, l₂, rep, flow, fid, u, rfl, hpre, hc, -, -, -, hbuild⟩
  · exact publishesGuarded_of_none (hcreate hl)
  have hvalid := (runs_preflight hpre).2.2 reg hreg hrows rfl
  have hguarded := publishesGuarded_buildCreated hreg hrows hvalid hbuild
  have hl₁ := sends_r _ _ _ _ _ hc
  exact hguarded.prepend (hcreate hl₁) fun e he ↦ by rcases hl₁ e he with h | h <;> rw [h] <;> rfl

end Build

/-! ### Sample runs of `update_flow` -/

/-- A request that submits a tree as it is. -/
def literalPlan (trigger : PyValue) : Plan := ⟨pure (text "Leads", trigger), sends_pure _⟩

/-- The replies of an ActivePieces that accepts the import and shows the tree. -/
def importReplies (trigger : PyValue) : List Reply :=
  [okReply (.dict []), okReply (pyDict [("version", pyDict [("trigger", trigger)])]),
    okReply (.dict []), okReply (pyDict [("status", py "ENABLED")])]

theorem reimports_publish_guarded_example : ∃ l x eng,
    (updateFlow ⟨fun _ ↦ true⟩ (py "f1") (literalPlan sampleTrigger)).Runs sampleEngine l (.ok x)
      eng ∧
    (PublishesGuarded strOf (some (.ok sampleRegistry)) l ↔
      EarnsPublication ⟨fun _ ↦ true⟩ (pure ()) (literalPlan sampleTrigger) (py "f1") strOf
        (some (.ok sampleRegistry)) sampleEngine l) := by
  have hreturns : (updateFlow ⟨fun _ ↦ true⟩ (py "f1") (literalPlan sampleTrigger)).returnsOn
      sampleEngine (scriptOf (importReplies sampleTrigger)) = true := by decide +kernel
  obtain ⟨l, x, eng, hrun⟩ := exists_ok_run hreturns
  exact ⟨l, x, eng, hrun, (reimports_publish_guarded_iff ⟨fun _ ↦ true⟩ none
    (literalPlan sampleTrigger) strOf (some (.ok sampleRegistry))).2 _ _ _ _ _ hrun⟩

/-- A request whose trigger is of a piece that the registry does not know. -/
def misspeltBody : ReimportBody where
  connectionIds := none
  displayName := some (text "Leads")
  trigger := [(text "piece", py "gmal"), (text "trigger_name", py "new_email")]
  actions := []

/-- The tree that `update_flow` makes of it. -/
def misspeltTrigger : PyValue :=
  buildTrigger (text "@activepieces/piece-gmal") (py "~0.1.0") (py "new_email")
    (pyDict [("authType", py "none")]) (py "Trigger") .null

theorem runs_mcpUpdateFlowTree_misspelt (env : BuilderEnv) :
    (mcpUpdateFlowTree env misspeltBody).Runs ⟨1, []⟩ [] (.ok misspeltTrigger) ⟨1, []⟩ := ⟨rfl, rfl⟩

/-- The validator finds no error. -/
def passesValidator (reg : PieceRegistry) (trigger : PyValue) : Bool :=
  match validateTrigger strOf reg trigger with
  | .ok [] => true
  | _ => false

/-- `update_flow` publishes a tree that the validator rejects, and that it has made of a request
itself. -/
theorem update_flow_publishes_unvalidated :
    ¬ ∀ (X : Httpx) (fid : PyValue) (env : BuilderEnv) (body : ReimportBody) (trigger : PyValue)
      (u : BuilderState), (mcpUpdateFlowTree env body).Runs ⟨1, []⟩ [] (.ok trigger) u →
      ∀ (repr : PyValue → PyStr) (registry : Option (Except EngineError PieceRegistry))
        (s t : Engine) (l : List (Call × Reply)) (x : Except EngineError Published),
        (updateFlow X fid (literalPlan trigger)).Runs s l x t →
          PublishesGuarded repr registry l := by
  intro h
  let m := updateFlow ⟨fun _ ↦ true⟩ (py "f1") (literalPlan misspeltTrigger)
  let script := scriptOf (importReplies misspeltTrigger)
  obtain ⟨x, eng, hrun⟩ := exists_run_exchangesOn m sampleEngine script
  have hguarded := h _ _ _ _ _ _ (runs_mcpUpdateFlowTree_misspelt gmailEnv) strOf
    (some (.ok sampleRegistry)) _ _ _ _ hrun
  -- A publication is among the exchanges.
  have hpublish : ((m.exchangesOn sampleEngine script).any fun e ↦ e.1.isPublish) = true := by
    decide +kernel
  obtain ⟨⟨c, rep⟩, hmem, hc⟩ := List.any_eq_true.1 hpublish
  obtain ⟨l₁, l₂, hl⟩ := List.append_of_mem hmem
  have hcall : ∃ fid, c = .flowOperation fid .lockAndPublish := by
    cases c with
    | flowOperation fid op =>
      cases op <;> first | exact ⟨fid, rfl⟩ | exact absurd hc (by simp [Call.isPublish])
    | _ => exact absurd hc (by simp [Call.isPublish])
  obtain ⟨fid, rfl⟩ := hcall
  obtain ⟨trigger, verified, hsubmitted, -, hgolden⟩ := hguarded l₁ l₂ fid rep hl
  obtain ⟨reg, hreg, -, hvalid⟩ := hgolden.validated
  obtain rfl := Except.ok.inj (Option.some.inj hreg)
  -- No tree that was submitted passes the validator.
  have hrejected : ((m.exchangesOn sampleEngine script).all fun e ↦
      e.1.imported.all fun t ↦ !passesValidator sampleRegistry t) = true := by decide +kernel
  obtain ⟨e, he, himported⟩ := List.mem_filterMap.1 (List.mem_of_mem_head? hsubmitted)
  have hbad := List.all_eq_true.1 hrejected e (hl ▸ List.mem_append_left _ he)
  rw [himported] at hbad
  exact absurd hbad (by simp [passesValidator, hvalid])

end Siyadah
