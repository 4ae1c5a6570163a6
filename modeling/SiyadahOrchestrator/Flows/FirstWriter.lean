import SiyadahOrchestrator.Flows.Registration
import SiyadahOrchestrator.Foundations.ProcessPool
import SiyadahOrchestrator.Foundations.TransitionSystem

/-!
# Registrations that race

`v2_register_employee` reads the row of the flow, and inserts or updates it in a second step. Any
number of calls, by any tenants, may be between the two. The table refuses a second row for a flow
when the insert is committed, and the call that is refused raises `IntegrityError`: the comment in
the source announces an `ON CONFLICT`, but the statement has none.

So the first writer wins (`tenantOf_kept`), and no call of the owner is turned down by what it
reads; the insert of a call that has read too early is. `InsertFits` is the condition on the state
before a step under which no call of the owner fails.
-/

namespace Siyadah

open ProcessPool

/-! ### Calls -/

/-- How a call of `register-employee` ends. -/
inductive EmployeeOutcome where
  /-- 200, with `created`. -/
  | registered (created : Bool)
  /-- 404: the row belongs to another tenant. -/
  | flowNotFound
  /-- `IntegrityError`: a constraint refuses the insert. -/
  | integrityError
  /-- `StaleDataError`: the row to update is gone. -/
  | staleData
deriving DecidableEq

/-- Where a call is, once the flow has been read and found acceptable. -/
inductive EmployeePc where
  /-- Before the `select`. -/
  | select
  /-- No row was found: before `s.add(row)` and the commit. -/
  | insert
  /-- The tenant's own row was found: before its update and the commit. -/
  | update (rowId : PyStr)
  | done (outcome : EmployeeOutcome)
deriving DecidableEq

/-- A call, with the row that it is to write. -/
structure EmployeeCall where
  row : FlowRow
  pc : EmployeePc

/-- The columns that the update assigns. -/
def FlowRow.refreshed (old new : FlowRow) : FlowRow :=
  { old with
    displayName := new.displayName
    triggerType := new.triggerType
    webhookUrl := new.webhookUrl
    pieceManifest := new.pieceManifest }

/-- `UPDATE flow_registry SET ... WHERE id = rowId`. -/
def FlowRegistry.refresh (reg : FlowRegistry) (rowId : PyStr) (new : FlowRow) : FlowRegistry :=
  reg.modify (fun r ↦ r.id = rowId) (fun r ↦ r.refreshed new) (fun _ ↦ rfl) fun _ ↦ rfl

namespace EmployeeCall

/-- What the call does next, on what its `select` finds. -/
def afterSelect (c : EmployeeCall) (found : Option FlowRow) : EmployeePc :=
  match found with
  | none => .insert
  | some existing =>
    if existing.tenantId ≠ c.row.tenantId then .done .flowNotFound else .update existing.id

/-- One atomic step of a call on the table. -/
def next (reg : FlowRegistry) (c : EmployeeCall) : Option (FlowRegistry × EmployeeCall) :=
  match c.pc with
  | .select => some (reg, { c with pc := c.afterSelect (reg.find? c.row.flowId) })
  | .insert =>
    match reg.insert c.row with
    | some reg' => some (reg', { c with pc := .done (.registered true) })
    | none => some (reg, { c with pc := .done .integrityError })
  | .update rowId =>
    if reg.rows.any fun r ↦ r.id = rowId then
      some (reg.refresh rowId c.row, { c with pc := .done (.registered false) })
    else some (reg, { c with pc := .done .staleData })
  | .done _ => none

end EmployeeCall

/-! ### What a step of a call can do -/

namespace FlowRegistry

variable {reg reg' : FlowRegistry} {row : FlowRow} {fid rowId tenant : PyStr}

theorem tenantOf_insert (h : reg.insert row = some reg') :
    reg'.tenantOf fid = if fid = row.flowId then some row.tenantId else reg.tenantOf fid := by
  rw [tenantOf, KeyedTable.column, KeyedTable.find?_insert h]
  split <;> rfl

theorem tenantOf_refresh : (reg.refresh rowId row).tenantOf fid = reg.tenantOf fid :=
  KeyedTable.column_modify (fun r ↦ (rfl : (r.refreshed row).tenantId = r.tenantId)) fid

theorem tenantOf_eq_none_iff : reg.tenantOf fid = none ↔ reg.find? fid = none :=
  Option.map_eq_none_iff

/-- An insert with a new row id is refused exactly when the flow has a row. -/
theorem insert_eq_none_iff (hid : ∀ r ∈ reg.rows, r.id ≠ row.id) :
    reg.insert row = none ↔ reg.tenantOf row.flowId ≠ none := by
  rw [Ne, tenantOf_eq_none_iff, KeyedTable.find?_eq_none_iff, ← Option.not_isSome_iff_eq_none,
    KeyedTable.isSome_insert_iff, not_iff_not, and_iff_left_iff_imp]
  rintro - u hu r hr hru
  exact hid r hr (Option.some.inj (hru.trans hu.symm))

end FlowRegistry

namespace EmployeeCall

variable {reg reg' : FlowRegistry} {c c' : EmployeeCall} {fid tenant : PyStr}

/-- **A step of a call.** It reads; or inserts its row; or is refused; or refreshes a row; or finds
none to refresh. -/
theorem next_cases (h : c.next reg = some (reg', c')) : c'.row = c.row ∧
    ((c.pc = .select ∧ reg' = reg ∧ c'.pc = c.afterSelect (reg.find? c.row.flowId)) ∨
    (c.pc = .insert ∧ reg.insert c.row = some reg' ∧ c'.pc = .done (.registered true)) ∨
    (c.pc = .insert ∧ reg.insert c.row = none ∧ reg' = reg ∧ c'.pc = .done .integrityError) ∨
    (∃ rowId, c.pc = .update rowId ∧ reg' = reg.refresh rowId c.row ∧
      c'.pc = .done (.registered false)) ∨
    ∃ rowId, c.pc = .update rowId ∧ (∀ r ∈ reg.rows, r.id ≠ rowId) ∧ reg' = reg ∧
      c'.pc = .done .staleData) := by
  rw [next] at h
  split at h
  · rename_i hpc
    obtain ⟨rfl, rfl⟩ := Prod.mk.inj (Option.some.inj h)
    exact ⟨rfl, .inl ⟨hpc, rfl, rfl⟩⟩
  · rename_i hpc
    split at h
    · rename_i hinsert
      obtain ⟨rfl, rfl⟩ := Prod.mk.inj (Option.some.inj h)
      exact ⟨rfl, .inr (.inl ⟨hpc, hinsert, rfl⟩)⟩
    · rename_i hinsert
      obtain ⟨rfl, rfl⟩ := Prod.mk.inj (Option.some.inj h)
      exact ⟨rfl, .inr (.inr (.inl ⟨hpc, hinsert, rfl, rfl⟩))⟩
  · rename_i rowId hpc
    split at h
    · obtain ⟨rfl, rfl⟩ := Prod.mk.inj (Option.some.inj h)
      exact ⟨rfl, .inr (.inr (.inr (.inl ⟨rowId, hpc, rfl, rfl⟩)))⟩
    · rename_i hany
      obtain ⟨rfl, rfl⟩ := Prod.mk.inj (Option.some.inj h)
      refine ⟨rfl, .inr (.inr (.inr (.inr ⟨rowId, hpc, fun r hr hid ↦ hany ?_, rfl, rfl⟩)))⟩
      exact List.any_eq_true.2 ⟨r, hr, decide_eq_true hid⟩
  · exact absurd h (by simp)

/-- A step changes the tenant of no flow that has a row. -/
theorem tenantOf_next (h : c.next reg = some (reg', c')) (hrow : reg.tenantOf fid = some tenant) :
    reg'.tenantOf fid = some tenant := by
  rcases (next_cases h).2 with ⟨-, rfl, -⟩ | ⟨-, hinsert, -⟩ | ⟨-, -, rfl, -⟩ |
    ⟨rowId, -, rfl, -⟩ | ⟨rowId, -, -, rfl, -⟩
  · exact hrow
  · rw [FlowRegistry.tenantOf_insert hinsert, if_neg, hrow]
    rintro rfl
    exact absurd hrow (by
      rw [FlowRegistry.tenantOf_eq_none_iff.2 (KeyedTable.find?_eq_none_of_insert hinsert)]
      simp)
  · exact hrow
  · rw [FlowRegistry.tenantOf_refresh, hrow]
  · exact hrow

/-- Row ids stay, and a row with another id is the one that the call inserts. -/
theorem rowIds_next (h : c.next reg = some (reg', c')) :
    (∀ r ∈ reg.rows, ∃ r' ∈ reg'.rows, r'.id = r.id) ∧
      ∀ r' ∈ reg'.rows, r'.id = c.row.id ∨ ∃ r ∈ reg.rows, r.id = r'.id := by
  have hsame : (∀ r ∈ reg.rows, ∃ r' ∈ reg.rows, r'.id = r.id) ∧
      ∀ r' ∈ reg.rows, r'.id = c.row.id ∨ ∃ r ∈ reg.rows, r.id = r'.id :=
    ⟨fun r hr ↦ ⟨r, hr, rfl⟩, fun r hr ↦ .inr ⟨r, hr, rfl⟩⟩
  rcases (next_cases h).2 with ⟨-, rfl, -⟩ | ⟨-, hinsert, -⟩ | ⟨-, -, rfl, -⟩ |
    ⟨rowId, -, rfl, -⟩ | ⟨rowId, -, -, rfl, -⟩
  · exact hsame
  · rw [KeyedTable.rows_insert hinsert]
    refine ⟨fun r hr ↦ ⟨r, List.mem_append_left _ hr, rfl⟩, fun r' hr' ↦ ?_⟩
    rcases List.mem_append.1 hr' with hold | hnew
    · exact .inr ⟨r', hold, rfl⟩
    · rw [List.mem_singleton.1 hnew]
      exact .inl rfl
  · exact hsame
  · -- A refreshed row keeps its id.
    have hid : ∀ r : FlowRow,
        (if decide (r.id = rowId) then r.refreshed c.row else r).id = r.id := by
      intro r
      split <;> rfl
    refine ⟨fun r hr ↦ ⟨_, List.mem_map_of_mem hr, hid r⟩, fun r' hr' ↦ ?_⟩
    obtain ⟨r, hr, rfl⟩ := List.mem_map.1 hr'
    exact .inr ⟨r, hr, (hid r).symm⟩
  · exact hsame

/-- What the table says of a call with that row: its row id is unused until it inserts, the row that
it is about to update is there, and an outcome is explained by the row of the flow. -/
def ConsistentAt (reg : FlowRegistry) (row : FlowRow) : EmployeePc → Prop
  | .select | .insert => ∀ r ∈ reg.rows, r.id ≠ row.id
  | .update rowId => reg.tenantOf row.flowId = some row.tenantId ∧ ∃ r ∈ reg.rows, r.id = rowId
  | .done (.registered _) => reg.tenantOf row.flowId = some row.tenantId
  | .done .flowNotFound => ∃ tenant, reg.tenantOf row.flowId = some tenant ∧ tenant ≠ row.tenantId
  | .done .integrityError => ∃ tenant, reg.tenantOf row.flowId = some tenant
  | .done .staleData => False

/-- What the table says of a call. -/
def Consistent (reg : FlowRegistry) (c : EmployeeCall) : Prop := ConsistentAt reg c.row c.pc

/-- A call that has ended has found a row of its flow. -/
theorem Consistent.tenantOf_of_done {outcome : EmployeeOutcome} (h : c.Consistent reg)
    (hpc : c.pc = .done outcome) : ∃ tenant, reg.tenantOf c.row.flowId = some tenant := by
  rw [Consistent, hpc] at h
  cases outcome with
  | registered created => exact ⟨_, h⟩
  | flowNotFound => exact ⟨h.choose, h.choose_spec.1⟩
  | integrityError => exact h
  | staleData => exact h.elim

/-- A step of one call leaves the others consistent. -/
theorem Consistent.of_next {d : EmployeeCall} (hd : d.Consistent reg)
    (h : c.next reg = some (reg', c')) (hid : c.row.id ≠ d.row.id) : d.Consistent reg' := by
  obtain ⟨hkept, hids⟩ := rowIds_next h
  have hunused : (∀ r ∈ reg.rows, r.id ≠ d.row.id) → ∀ r ∈ reg'.rows, r.id ≠ d.row.id := by
    intro hunused r' hr'
    rcases hids r' hr' with heq | ⟨r, hr, heq⟩
    · exact heq ▸ hid
    · exact heq ▸ hunused r hr
  rw [Consistent] at hd ⊢
  rw [ConsistentAt.eq_def] at hd ⊢
  split at hd
  · exact hunused hd
  · exact hunused hd
  · obtain ⟨htenant, r, hr, rfl⟩ := hd
    exact ⟨tenantOf_next h htenant, hkept r hr⟩
  · exact tenantOf_next h hd
  · obtain ⟨tenant, htenant, hne⟩ := hd
    exact ⟨tenant, tenantOf_next h htenant, hne⟩
  · obtain ⟨tenant, htenant⟩ := hd
    exact ⟨tenant, tenantOf_next h htenant⟩
  · exact hd

/-- A call stays consistent in its own steps. -/
theorem Consistent.next (hc : c.Consistent reg) (h : c.next reg = some (reg', c')) :
    c'.Consistent reg' := by
  obtain ⟨hrow, hcase⟩ := next_cases h
  rw [Consistent] at hc ⊢
  rw [hrow]
  rcases hcase with ⟨hpc, rfl, hpc'⟩ | ⟨hpc, hinsert, hpc'⟩ | ⟨hpc, hinsert, rfl, hpc'⟩ |
    ⟨rowId, hpc, rfl, hpc'⟩ | ⟨rowId, hpc, hgone, rfl, hpc'⟩ <;> rw [hpc] at hc <;> rw [hpc']
  · cases hfound : KeyedTable.find? reg' c.row.flowId with
    | none => exact hc
    | some existing =>
      have htenant : reg'.tenantOf c.row.flowId = some existing.tenantId :=
        KeyedTable.column_of_find? hfound
      rw [afterSelect]
      split
      · rename_i hother
        exact ⟨existing.tenantId, htenant, hother⟩
      · rename_i hown
        rw [Decidable.not_not] at hown
        exact ⟨hown ▸ htenant, existing, (KeyedTable.find?_eq_some_iff.1 hfound).1, rfl⟩
  · show reg'.tenantOf c.row.flowId = _
    rw [FlowRegistry.tenantOf_insert hinsert, if_pos rfl]
  · exact Option.ne_none_iff_exists'.1 ((FlowRegistry.insert_eq_none_iff hc).1 hinsert)
  · show (reg.refresh rowId c.row).tenantOf _ = _
    rw [FlowRegistry.tenantOf_refresh]
    exact hc.1
  · obtain ⟨-, r, hr, hid⟩ := hc
    exact hgone r hr hid

end EmployeeCall

/-! ### Any number of calls -/

/-- A call arrives, with an id for the row that it may insert; or the call number `i` makes a
step. -/
inductive EmployeeAction where
  | arrive (row : FlowRow)
  | advance (i : ℕ)

/-- The table and the calls. -/
abbrev EmployeePool := ProcessPool FlowRegistry EmployeeCall

/-- `uuid4` gives an id that no row has and no call is about to use. -/
def EmployeePool.idUnused (P : EmployeePool) (id : PyStr) : Bool :=
  (P.store.rows.all fun r ↦ decide (r.id ≠ id)) && P.procs.all fun c ↦ decide (c.row.id ≠ id)

/-- The interleavings of the calls. -/
def registrations : TransitionSystem EmployeePool EmployeeAction where
  step P
    | .arrive row => if P.idUnused row.id then some (P.spawn P.store [⟨row, .select⟩]) else none
    | .advance i => P.advance EmployeeCall.next i

/-- Every call is consistent with the table, and no two calls share a row id. -/
abbrev EmployeePool.Sound (P : EmployeePool) : Prop :=
  P.Holds (fun _ ↦ True) (fun reg c ↦ c.Consistent reg) fun c d ↦ c.row.id ≠ d.row.id

/-- No call of the tenant that owns the row has failed. -/
def OwnersServed (P : EmployeePool) : Prop :=
  ∀ c ∈ P.procs, ∀ outcome, c.pc = .done outcome →
    P.store.tenantOf c.row.flowId = some c.row.tenantId →
    ∃ created, outcome = .registered created

/-- No call inserts when its own tenant has registered the flow since it read. -/
def InsertFits (P : EmployeePool) : EmployeeAction → Prop
  | .arrive _ => True
  | .advance i => ∀ c, P.procs[i]? = some c → c.pc = .insert →
    P.store.tenantOf c.row.flowId ≠ some c.row.tenantId

section Runs

variable {P Q : EmployeePool} {as : List EmployeeAction} {a : EmployeeAction} {fid tenant : PyStr}
  {reg : FlowRegistry}

theorem sound_initially : EmployeePool.Sound ⟨reg, []⟩ :=
  ⟨trivial, fun _ _ h ↦ absurd h (by simp), fun _ _ _ _ _ h ↦ absurd h (by simp)⟩

/-- **The step lemma.** -/
theorem sound_step (h : P.Sound) (hstep : registrations.step P a = some Q) : Q.Sound := by
  cases a with
  | arrive row =>
    obtain ⟨hunused, hQ⟩ := Option.ite_none_right_eq_some.1 hstep
    obtain rfl := Option.some.inj hQ
    obtain ⟨hrows, hcalls⟩ := Bool.and_eq_true_iff.1 hunused
    have hnew : ∀ c ∈ P.procs, c.row.id ≠ row.id := fun c hc ↦
      of_decide_eq_true (List.all_eq_true.1 hcalls c hc)
    refine h.spawn trivial (fun _ _ _ hc ↦ hc) ?_ ?_ ?_
    · intro c hc
      obtain rfl := List.mem_singleton.1 hc
      exact fun r hr ↦ of_decide_eq_true (List.all_eq_true.1 hrows r hr)
    · intro i c d hc hd
      obtain rfl := List.mem_singleton.1 hd
      have hne := hnew c (List.mem_of_getElem? hc)
      exact ⟨hne, hne.symm⟩
    · intro i j c d hij hc hd
      obtain ⟨hi, -⟩ := List.getElem?_eq_some_iff.1 hc
      obtain ⟨hj, -⟩ := List.getElem?_eq_some_iff.1 hd
      rw [List.length_singleton] at hi hj
      omega
  | advance i =>
    refine h.advance hstep ?_ ?_ ?_
    · exact fun c reg' c' hc hnext ↦ ⟨trivial, (h.each i c hc).next hnext⟩
    · exact fun c reg' c' j d _ hnext _ _ hd hid _ ↦ hd.of_next hnext hid
    · intro c reg' c' j d hc hnext hne hd _ hid hid'
      rw [(EmployeeCall.next_cases hnext).1]
      exact ⟨hid, hid'⟩

/-- A step changes the tenant of no flow that has a row. -/
theorem tenantOf_step (hstep : registrations.step P a = some Q)
    (h : P.store.tenantOf fid = some tenant) : Q.store.tenantOf fid = some tenant := by
  cases a with
  | arrive row =>
    obtain ⟨-, hQ⟩ := Option.ite_none_right_eq_some.1 hstep
    exact Option.some.inj hQ ▸ h
  | advance i =>
    obtain ⟨c, reg', c', -, hnext, rfl⟩ := advance_eq_some.1 hstep
    exact EmployeeCall.tenantOf_next hnext h

/-- **The first writer wins.** Once a row of the flow is committed, no run changes its tenant. -/
theorem tenantOf_kept (hrun : registrations.run P as = some Q)
    (h : P.store.tenantOf fid = some tenant) : Q.store.tenantOf fid = some tenant := by
  have hstep : ∀ (P : EmployeePool) a Q, P.store.tenantOf fid = some tenant →
      registrations.step P a = some Q → Q.store.tenantOf fid = some tenant :=
    fun _ _ _ h hstep ↦ tenantOf_step hstep h
  exact TransitionSystem.invariant_of_run' hstep h hrun

/-- **One step serves the owners** exactly if they have been served so far and the step is no insert
that comes too late. -/
theorem ownersServed_step (hP : P.Sound) (hstep : registrations.step P a = some Q) :
    OwnersServed Q ↔ OwnersServed P ∧ InsertFits P a := by
  cases a with
  | arrive row =>
    obtain ⟨-, hQ⟩ := Option.ite_none_right_eq_some.1 hstep
    obtain rfl := Option.some.inj hQ
    rw [InsertFits, and_true]
    refine ⟨fun h c hc ↦ h c (List.mem_append_left _ hc), fun h c hc ↦ ?_⟩
    rcases List.mem_append.1 hc with hold | hnew
    · exact h c hold
    · obtain rfl := List.mem_singleton.1 hnew
      exact fun outcome hpc ↦ absurd hpc (by simp)
  | advance i =>
    obtain ⟨c, reg', c', hc, hnext, rfl⟩ := advance_eq_some.1 hstep
    have hlt : i < P.procs.length := (List.getElem?_eq_some_iff.1 hc).1
    obtain ⟨hrow, hcase⟩ := EmployeeCall.next_cases hnext
    -- The call that moves was not done, so the others are the calls that are done.
    have hrunning : ∀ outcome, c.pc ≠ .done outcome := by
      rcases hcase with ⟨hpc, -⟩ | ⟨hpc, -⟩ | ⟨hpc, -⟩ | ⟨_, hpc, -⟩ | ⟨_, hpc, -⟩ <;> simp [hpc]
    have hmoved : c' ∈ P.procs.set i c' := List.mem_set hlt c'
    constructor
    · intro h
      refine ⟨fun d hd outcome hpc htenant ↦ ?_, fun d hd hpc hown ↦ ?_⟩
      · obtain ⟨j, hj⟩ := List.mem_iff_getElem?.1 hd
        have hne : i ≠ j := by
          rintro rfl
          obtain rfl := Option.some.inj (hc.symm.trans hj)
          exact hrunning outcome hpc
        have hstays : d ∈ P.procs.set i c' :=
          List.mem_of_getElem? ((List.getElem?_set_ne hne).trans hj)
        exact h d hstays outcome hpc (EmployeeCall.tenantOf_next hnext htenant)
      · obtain rfl := Option.some.inj (hc.symm.trans hd)
        -- The row is there, so the insert is refused.
        have hrefused : reg'.tenantOf c.row.flowId = some c.row.tenantId ∧
            c'.pc = .done .integrityError := by
          rcases hcase with ⟨hpc', -⟩ | ⟨-, hinsert, -⟩ | ⟨-, -, rfl, hpc'⟩ | ⟨_, hpc', -⟩ |
            ⟨_, hpc', -⟩
          · exact absurd (hpc.symm.trans hpc') (by simp)
          · have hnone := FlowRegistry.tenantOf_eq_none_iff.2
              (KeyedTable.find?_eq_none_of_insert hinsert)
            exact absurd (hnone.symm.trans hown) (by simp)
          · exact ⟨hown, hpc'⟩
          · exact absurd (hpc.symm.trans hpc') (by simp)
          · exact absurd (hpc.symm.trans hpc') (by simp)
        obtain ⟨created, hcreated⟩ := h c' hmoved _ hrefused.2 (hrow ▸ hrefused.1)
        exact absurd hcreated (by simp)
    · rintro ⟨h, hfits⟩ d hd outcome hpc htenant
      rcases List.mem_or_eq_of_mem_set hd with hold | rfl
      · -- A call that has ended has found a row, which no step changes.
        obtain ⟨j, hj⟩ := List.mem_iff_getElem?.1 hold
        obtain ⟨owner, howner⟩ := (hP.each j d hj).tenantOf_of_done hpc
        have hsame := EmployeeCall.tenantOf_next hnext howner
        refine h d hold outcome hpc (howner.trans ?_)
        exact hsame.symm.trans htenant
      · have hcon := (hP.each i c hc).next hnext
        rw [EmployeeCall.Consistent, hpc] at hcon
        cases outcome with
        | registered created => exact ⟨created, rfl⟩
        | flowNotFound =>
          obtain ⟨owner, howner, hne⟩ := hcon
          exact absurd (Option.some.inj (howner.symm.trans htenant)) hne
        | integrityError =>
          rcases hcase with ⟨-, -, hpc'⟩ | ⟨-, -, hpc'⟩ | ⟨hinsert, -, rfl, -⟩ | ⟨_, -, -, hpc'⟩ |
            ⟨_, -, -, -, hpc'⟩
          · rw [hpc', EmployeeCall.afterSelect.eq_def] at hpc
            split at hpc
            · exact absurd hpc (by simp)
            · split at hpc <;> exact absurd hpc (by simp)
          · exact absurd (hpc.symm.trans hpc') (by simp)
          · exact absurd (hrow ▸ htenant) (hfits c hc hinsert)
          · exact absurd (hpc.symm.trans hpc') (by simp)
          · exact absurd (hpc.symm.trans hpc') (by simp)
        | staleData => exact hcon.elim

end Runs

/-- From `P` to `Q`: a flow has at most one row, the tenant of a committed row is kept, and no call
of the tenant that owns the row has failed. -/
structure FirstWriterWins (P Q : EmployeePool) : Prop where
  oneRow : ∀ fid, (Q.store.rows.filter fun r ↦ r.flowId = fid).length ≤ 1
  tenantKept : ∀ fid tenant, P.store.tenantOf fid = some tenant →
    Q.store.tenantOf fid = some tenant
  ownersServed : OwnersServed Q

/-- **First writer wins.** In every interleaving, a flow has at most one row, the tenant of a
committed row never changes, and the calls of the owner have all succeeded, exactly if no call has
committed an insert after its own tenant registered the flow. -/
theorem first_writer_wins_iff (reg : FlowRegistry) (P Q : EmployeePool)
    (as bs : List EmployeeAction) (hP : registrations.run ⟨reg, []⟩ as = some P)
    (hQ : registrations.run P bs = some Q) :
    FirstWriterWins P Q ↔ registrations.Meets InsertFits ⟨reg, []⟩ (as ++ bs) := by
  have hrun : registrations.run ⟨reg, []⟩ (as ++ bs) = some Q := by
    rw [TransitionSystem.run_append, hP]
    exact hQ
  have hserved : OwnersServed Q ↔ OwnersServed ⟨reg, []⟩ ∧
      registrations.Meets InsertFits ⟨reg, []⟩ (as ++ bs) := by
    have hsound : ∀ (P : EmployeePool) a Q, P.Sound → registrations.step P a = some Q → Q.Sound :=
      fun _ _ _ h ↦ sound_step h
    exact TransitionSystem.iff_meets_of_run hsound (fun _ _ _ h ↦ ownersServed_step h)
      sound_initially hrun
  have hstart : OwnersServed ⟨reg, []⟩ := fun c hc ↦ absurd hc List.not_mem_nil
  constructor
  · exact fun h ↦ (hserved.1 h.ownersServed).2
  · refine fun h ↦ ⟨fun fid ↦ ?_, fun fid tenant ↦ tenantOf_kept hQ, hserved.2 ⟨hstart, h⟩⟩
    rw [KeyedTable.filter_key_eq]
    exact Option.length_toList_le

/-! ### Two calls of one tenant -/

/-- A row of a tenant for the flow `f1`. -/
def employeeRow (id tenant : String) : FlowRow where
  id := text id
  tenantId := text tenant
  flowId := text "f1"
  displayName := text "Leads"
  triggerType := none
  webhookUrl := none
  pieceManifest := .dict []
  createdAt := none

/-- Two calls of one tenant, one after the other. -/
def sequentialCalls : List EmployeeAction :=
  [.arrive (employeeRow "r1" "p1"), .advance 0, .advance 0, .arrive (employeeRow "r2" "p1"),
    .advance 1, .advance 1]

/-- Two calls of one tenant that have both read before either writes. -/
def racingCalls : List EmployeeAction :=
  [.arrive (employeeRow "r1" "p1"), .arrive (employeeRow "r2" "p1"), .advance 0, .advance 1,
    .advance 0, .advance 1]

theorem first_writer_wins_example : ∃ Q,
    registrations.run ⟨KeyedTable.empty, []⟩ sequentialCalls = some Q ∧
    (FirstWriterWins ⟨KeyedTable.empty, []⟩ Q ↔
      registrations.Meets InsertFits ⟨KeyedTable.empty, []⟩ sequentialCalls) := by
  have hsome : (registrations.run ⟨KeyedTable.empty, []⟩ sequentialCalls).isSome = true := by
    decide
  obtain ⟨Q, hQ⟩ := Option.isSome_iff_exists.1 hsome
  exact ⟨Q, hQ, first_writer_wins_iff KeyedTable.empty ⟨KeyedTable.empty, []⟩ Q [] sequentialCalls
    rfl hQ⟩

/-- The second insert is refused, and the call of the owner raises. -/
theorem racing_owner_fails :
    ¬ ∀ (reg : FlowRegistry) (P Q : EmployeePool) (as bs : List EmployeeAction),
      registrations.run ⟨reg, []⟩ as = some P → registrations.run P bs = some Q →
      FirstWriterWins P Q := by
  intro h
  have hfails : ((registrations.run ⟨KeyedTable.empty, []⟩ racingCalls).any fun Q ↦
      Q.procs.any fun c ↦ decide (c.pc = .done .integrityError) &&
        decide (Q.store.tenantOf c.row.flowId = some c.row.tenantId)) = true := by decide
  obtain ⟨Q, hQ, hany⟩ := (Option.any_eq_true _ _).1 hfails
  obtain ⟨c, hc, hboth⟩ := List.any_eq_true.1 hany
  obtain ⟨hpc, hown⟩ := Bool.and_eq_true_iff.1 hboth
  obtain ⟨created, hcreated⟩ := (h KeyedTable.empty _ Q [] racingCalls rfl hQ).ownersServed c hc _
    (of_decide_eq_true hpc) (of_decide_eq_true hown)
  exact absurd hcreated (by simp)

end Siyadah
