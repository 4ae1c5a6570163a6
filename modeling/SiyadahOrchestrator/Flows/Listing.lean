import Mathlib.Data.List.Dedup
import SiyadahOrchestrator.Flows.Registry

/-!
# Whose flows a tenant sees

Two endpoints read the flow list of ActivePieces and keep what belongs to the caller:
`v2_list_flows`, which joins it with the registry, and `v2_status`, which summarises it. In a shared
ActivePieces project the list holds flows of every tenant, so the filter is all that separates them.

The filters differ. `v2_status` keeps a flow that is registered to the caller or stamped for it.
`v2_list_flows` accepts a third reason, `_ap_project_ok(f)`, which it has already required of every
flow that gets so far: the disjunction holds of all of them, and whatever lies in the caller's
project is listed. `lists_own_flows_iff` says exactly when no harm comes of it: when every listed
flow of that project is the caller's own anyway.
-/

namespace Siyadah

/-- How `for fid in registered_ids` runs through the set: each element once, in an order that the
hashes decide. -/
structure SetOrder where
  /-- The elements of the set that a list was poured into. -/
  iter : List PyStr → List PyStr
  /-- Nothing is added, lost or repeated. -/
  perm : ∀ l, (iter l).Perm l.dedup

namespace SetOrder

end SetOrder

/-! ### The listing -/

namespace ApFlow

/-- `(f.get("projectId") or f.get("project_id") or pid) == pid`. -/
def apProjectOk (f : ApFlow) (pid : PyStr) : Bool :=
  strOr f.projectId (strOr f.project_id pid) = pid

/-- `f.get("id") or f.get("flowId") or ""`. -/
def fid (f : ApFlow) : PyStr := strOr f.id (strOr f.flowId [])

/-- `(f.get("version") or {}).get("displayName") or f.get("displayName")`. -/
def apDisplayName (f : ApFlow) : PyValue := (f.versionDisplayName.getD .null).orElse f.displayName

end ApFlow

/-- The part of a registry row that an answer carries. -/
structure RegistryView where
  registryId : PyStr
  displayName : PyStr
  triggerType : Option PyStr
  webhookUrl : Option PyStr
  pieceManifest : PyValue
  registeredAt : Option PyStr

/-- The view of a row. -/
def FlowRow.view (r : FlowRow) : RegistryView :=
  ⟨r.id, r.displayName, r.triggerType, r.webhookUrl, r.pieceManifest, r.createdAt⟩

/-- One entry of the listing. -/
structure FlowItem where
  flowId : PyStr
  apDisplayName : PyValue
  apStatus : PyValue
  registered : Bool
  orphan : Bool
  registry : Option RegistryView

/-- What `v2_list_flows` answers. -/
structure FlowListing where
  tenantId : PyStr
  total : ℕ
  orphanFilter : Bool
  flows : List FlowItem

section Listing

variable (order : SetOrder) (reg : FlowRegistry) (flows : List ApFlow) (pid : PyStr)

/-- The set `registered_ids`, as a list. -/
def registeredIds : List PyStr := (reg.registeredTo pid).map FlowRow.flowId

/-- `_meta_tenant_ok(f) or fid in registered_ids or _ap_project_ok(f)`. -/
def listOwns (f : ApFlow) : Bool :=
  f.stampedFor pid || decide (f.fid ∈ registeredIds reg pid) || f.apProjectOk pid

/-- One round of the loop that fills `ap_by_id`. -/
def admitFlow (apById : List (PyStr × ApFlow)) (f : ApFlow) : List (PyStr × ApFlow) :=
  if !f.apProjectOk pid then apById
  else if f.fid = [] then apById
  else if listOwns reg pid f then upsert apById f.fid f
  else apById

/-- `ap_by_id`. -/
def apById : List (PyStr × ApFlow) := flows.foldl (admitFlow reg pid) []

/-- The entry of a flow without a registry row. -/
def orphanItem (e : PyStr × ApFlow) : FlowItem where
  flowId := e.1
  apDisplayName := e.2.apDisplayName
  apStatus := e.2.status
  registered := false
  orphan := true
  registry := none

/-- The entry of a registered flow, with what ActivePieces says of it if it is listed there. -/
def registeredItem (row : FlowRow) : FlowItem where
  flowId := row.flowId
  apDisplayName :=
    (((apById reg flows pid).lookup row.flowId).elim .null ApFlow.apDisplayName).orElse
      (.str row.displayName)
  apStatus := ((apById reg flows pid).lookup row.flowId).elim .null ApFlow.status
  registered := true
  orphan := false
  registry := some row.view

/-- The entries of the admitted flows that have no registry row. -/
def orphanItems : List FlowItem :=
  ((apById reg flows pid).filter fun e ↦ !decide (e.1 ∈ registeredIds reg pid)).map orphanItem

/-- The entries of the registered flows. -/
def registeredItems : List FlowItem :=
  (order.iter (registeredIds reg pid)).filterMap fun fid ↦
    ((reg.registeredTo pid).find? fun r ↦ r.flowId = fid).map (registeredItem reg flows pid)

/-- `v2_list_flows`. -/
def v2ListFlows (orphan : Bool) (limit : ℕ) : FlowListing :=
  let items := (if orphan then orphanItems reg flows pid
    else registeredItems order reg flows pid ++ orphanItems reg flows pid).take limit
  { tenantId := pid, total := items.length, orphanFilter := orphan, flows := items }

end Listing

/-! ### The summary -/

section Status

variable (reg : FlowRegistry) (flows : List ApFlow) (pid : PyStr)

/-- `_owns`. -/
def statusOwns (f : ApFlow) : Bool :=
  (f.id.any fun s ↦ s ≠ [] ∧ s ∈ registeredIds reg pid) || f.stampedFor pid

end Status

/-! ### Whose a flow is -/

section Ownership

variable (reg : FlowRegistry) (pid : PyStr)

/-- The flow has a row of the tenant. -/
def RegisteredTo (f : ApFlow) : Prop := ∃ r ∈ reg.rows, r.tenantId = pid ∧ r.flowId = f.fid

/-- The flow is the tenant's: it has a row of the tenant, or it is stamped for the tenant. -/
def OwnFlow (f : ApFlow) : Prop := RegisteredTo reg pid f ∨ f.stampedFor pid

/-- The flow is somebody else's or nobody's: it is registered to another tenant, stamped for
another one, or neither stamped nor registered; and nothing makes it the tenant's own. -/
def ForeignFlow (f : ApFlow) : Prop :=
  ¬ OwnFlow reg pid f ∧
    ((∃ r ∈ reg.rows, r.tenantId ≠ pid ∧ r.flowId = f.fid) ∨
      (f.tenantStamp.truthy ∧ ¬ f.stampedFor pid) ∨
      (¬ f.tenantStamp.truthy ∧ ∀ r ∈ reg.rows, r.flowId ≠ f.fid))

variable {reg pid}

theorem mem_registeredIds {s : PyStr} :
    s ∈ registeredIds reg pid ↔ ∃ r ∈ reg.rows, r.tenantId = pid ∧ r.flowId = s := by
  rw [registeredIds, List.mem_map]
  constructor
  · rintro ⟨r, hr, rfl⟩
    obtain ⟨hrow, htenant⟩ := List.mem_filter.1 hr
    exact ⟨r, hrow, of_decide_eq_true htenant, rfl⟩
  · rintro ⟨r, hrow, htenant, rfl⟩
    exact ⟨r, List.mem_filter.2 ⟨hrow, decide_eq_true htenant⟩, rfl⟩

/-- `v2_status` keeps only the tenant's own flows. -/
theorem ownFlow_of_statusOwns {f : ApFlow} (h : statusOwns reg pid f = true) :
    OwnFlow reg pid f := by
  rcases Bool.or_eq_true_iff.1 h with hid | hstamp
  · obtain ⟨s, hs, hprops⟩ := (Option.any_eq_true _ _).1 hid
    obtain ⟨hne, hmem⟩ := of_decide_eq_true hprops
    obtain ⟨r, hr, htenant, hfid⟩ := mem_registeredIds.1 hmem
    have hfidEq : f.fid = s := by
      rw [ApFlow.fid, hs]
      exact if_neg hne
    exact .inl ⟨r, hr, htenant, hfid.trans hfidEq.symm⟩
  · exact .inr hstamp

end Ownership

/-! ### The loop over the flow list -/

section Admission

variable {reg : FlowRegistry} {flows : List ApFlow} {pid : PyStr}

/-- A flow is admitted as soon as it lies in the caller's project and has an id. -/
theorem listOwns_of_apProjectOk {f : ApFlow} (h : f.apProjectOk pid = true) :
    listOwns reg pid f = true := by
  rw [listOwns, h]
  exact Bool.or_true _

/-- One round: the flow is skipped, or it becomes the entry of its id. -/
theorem admitFlow_eq (d : List (PyStr × ApFlow)) (f : ApFlow) :
    admitFlow reg pid d f = if f.apProjectOk pid ∧ f.fid ≠ [] then upsert d f.fid f else d := by
  by_cases hproject : f.apProjectOk pid = true
  · by_cases hfid : f.fid = []
    · simp [admitFlow, hfid]
    · simp [admitFlow, hproject, hfid, listOwns_of_apProjectOk hproject]
  · simp [admitFlow, hproject]

/-- An entry of `ap_by_id` is a listed flow of the caller's project under its id. -/
theorem mem_apById {e : PyStr × ApFlow} (h : e ∈ apById reg flows pid) :
    e.2 ∈ flows ∧ e.2.apProjectOk pid ∧ e.2.fid ≠ [] ∧ e.1 = e.2.fid := by
  -- The induction is on the rest of the list; `d` holds the entries of what has been read.
  have hloop : ∀ (l : List ApFlow) (d : List (PyStr × ApFlow)),
      (∀ e ∈ d, e.2 ∈ flows ∧ e.2.apProjectOk pid ∧ e.2.fid ≠ [] ∧ e.1 = e.2.fid) →
      (∀ f ∈ l, f ∈ flows) → ∀ e ∈ l.foldl (admitFlow reg pid) d,
      e.2 ∈ flows ∧ e.2.apProjectOk pid ∧ e.2.fid ≠ [] ∧ e.1 = e.2.fid := by
    intro l
    induction l with
    | nil => exact fun d hd _ ↦ hd
    | cons f l ih =>
      intro d hd hl
      refine ih _ (fun e he ↦ ?_) fun g hg ↦ hl g (List.mem_cons_of_mem f hg)
      rw [admitFlow_eq] at he
      split at he
      · rename_i hin
        rcases mem_upsert he with he | rfl
        · exact hd e he
        · exact ⟨hl f List.mem_cons_self, hin.1, hin.2, rfl⟩
      · exact hd e he
  exact hloop flows [] (fun e he ↦ absurd he List.not_mem_nil) (fun f hf ↦ hf) e h

end Admission

/-! ### Adding flows to the list -/

/-- The second list is the first one with flows added for which `F` holds. -/
inductive Widens {α : Type*} (F : α → Prop) : List α → List α → Prop
  | nil : Widens F [] []
  | keep {a : α} {l l' : List α} : Widens F l l' → Widens F (a :: l) (a :: l')
  | add {a : α} {l l' : List α} : F a → Widens F l l' → Widens F l (a :: l')

/-- A loop that passes over every added element ends in the same state. -/
theorem Widens.foldl_eq {α β : Type*} {F : α → Prop} {step : β → α → β} {l l' : List α}
    (h : Widens F l l') (hskip : ∀ a ∈ l', F a → ∀ b, step b a = b) (b : β) :
    l.foldl step b = l'.foldl step b := by
  induction h generalizing b with
  | nil => rfl
  | keep _ ih => exact ih (fun a ha ↦ hskip a (List.mem_cons_of_mem _ ha)) _
  | add ha _ ih =>
    rw [List.foldl_cons, hskip _ List.mem_cons_self ha b]
    exact ih (fun a ha ↦ hskip a (List.mem_cons_of_mem _ ha)) b

/-! ### The endpoint lists own flows only -/

section Main

variable (order : SetOrder) (reg : FlowRegistry) (flows : List ApFlow) (pid : PyStr)

/-- The ids of the tenant's own flows: the registered ones and the listed ones that are stamped. -/
def ownIds : List PyStr :=
  (registeredIds reg pid ++ (flows.filter fun f ↦ f.stampedFor pid).map ApFlow.fid).dedup

/-- An entry shows a flow that is registered to the tenant, or a listed one that is stamped for the
tenant. -/
def ShowsOwnFlow (item : FlowItem) : Prop :=
  (∃ r ∈ reg.rows, r.tenantId = pid ∧ r.flowId = item.flowId) ∨
    ∃ f ∈ flows, f.fid = item.flowId ∧ f.stampedFor pid

/-- The listing shows own flows only, it does not notice foreign flows, and it agrees with
`v2_status` on what an own flow is. -/
def ListsOwnFlows : Prop :=
  (∀ (orphan : Bool) (limit : ℕ), (ownIds reg flows pid).length ≤ limit →
    (∀ item ∈ (v2ListFlows order reg flows pid orphan limit).flows,
      ShowsOwnFlow reg flows pid item) ∧
    ∀ fewer, Widens (ForeignFlow reg pid) fewer flows →
      v2ListFlows order reg flows pid orphan limit = v2ListFlows order reg fewer pid orphan limit) ∧
  ∀ f ∈ flows, f.apProjectOk pid → f.fid ≠ [] → (listOwns reg pid f = statusOwns reg pid f)

/-- Every listed flow of the caller's project that has an id is the caller's own, as `v2_status`
sees it: its `id` is registered to the caller, or it is stamped for the caller. -/
def ProjectIsOwn : Prop :=
  ∀ f ∈ flows, f.apProjectOk pid → f.fid ≠ [] → statusOwns reg pid f = true

variable {order reg flows pid}

/-- In a project of own flows the loop passes over every foreign flow. -/
theorem apById_widens (hown : ProjectIsOwn reg flows pid) {fewer : List ApFlow}
    (h : Widens (ForeignFlow reg pid) fewer flows) :
    apById reg fewer pid = apById reg flows pid := by
  refine h.foldl_eq (fun f hf hforeign d ↦ ?_) []
  rw [admitFlow_eq]
  refine if_neg fun hin ↦ ?_
  exact hforeign.1 (ownFlow_of_statusOwns (hown f hf hin.1 hin.2))

/-- The listing reads the flow list through `ap_by_id` alone. -/
theorem v2ListFlows_congr {fewer : List ApFlow} (h : apById reg fewer pid = apById reg flows pid)
    (orphan : Bool) (limit : ℕ) :
    v2ListFlows order reg fewer pid orphan limit =
      v2ListFlows order reg flows pid orphan limit := by
  have horphan : orphanItems reg fewer pid = orphanItems reg flows pid := by
    rw [orphanItems, orphanItems, h]
  have hitem : registeredItem reg fewer pid = registeredItem reg flows pid := by
    funext row
    rw [registeredItem, registeredItem, h]
  have hregistered : registeredItems order reg fewer pid = registeredItems order reg flows pid := by
    rw [registeredItems, registeredItems, hitem]
  rw [v2ListFlows, v2ListFlows, horphan, hregistered]

/-- The entries of registered flows show own flows, whatever is listed. -/
theorem showsOwnFlow_of_mem_registeredItems {item : FlowItem}
    (h : item ∈ registeredItems order reg flows pid) : ShowsOwnFlow reg flows pid item := by
  obtain ⟨fid, -, hfind⟩ := List.mem_filterMap.1 h
  obtain ⟨r, hr, rfl⟩ := Option.map_eq_some_iff.1 hfind
  obtain ⟨hrow, htenant⟩ := List.mem_filter.1 (List.mem_of_find?_eq_some hr)
  exact .inl ⟨r, hrow, of_decide_eq_true htenant, rfl⟩

/-- In a project of own flows the other entries show own flows too. -/
theorem showsOwnFlow_of_mem_orphanItems (hown : ProjectIsOwn reg flows pid) {item : FlowItem}
    (h : item ∈ orphanItems reg flows pid) : ShowsOwnFlow reg flows pid item := by
  obtain ⟨e, he, rfl⟩ := List.mem_map.1 h
  obtain ⟨hmem, -⟩ := List.mem_filter.1 he
  obtain ⟨hf, hproject, hfid, hkey⟩ := mem_apById hmem
  rcases ownFlow_of_statusOwns (hown e.2 hf hproject hfid) with ⟨r, hr, htenant, hflow⟩ | hstamp
  · exact .inl ⟨r, hr, htenant, hflow.trans hkey.symm⟩
  · exact .inr ⟨e.2, hf, hkey.symm, hstamp⟩

/-- **The listing shows a tenant its own flows only, exactly when the caller's project holds no
others.** -/
theorem lists_own_flows_iff (order : SetOrder) (reg : FlowRegistry) (flows : List ApFlow)
    (pid : PyStr) : ListsOwnFlows order reg flows pid ↔ ProjectIsOwn reg flows pid := by
  constructor
  · rintro ⟨-, hagree⟩ f hf hproject hfid
    rw [← hagree f hf hproject hfid]
    exact listOwns_of_apProjectOk hproject
  · intro hown
    refine ⟨fun orphan limit _ ↦ ⟨fun item hitem ↦ ?_, fun fewer hw ↦ ?_⟩, ?_⟩
    · have hmem := List.mem_of_mem_take hitem
      cases orphan with
      | true => exact showsOwnFlow_of_mem_orphanItems hown hmem
      | false =>
        rcases List.mem_append.1 hmem with hr | ho
        · exact showsOwnFlow_of_mem_registeredItems hr
        · exact showsOwnFlow_of_mem_orphanItems hown ho
    · exact (v2ListFlows_congr (apById_widens hown hw) orphan limit).symm
    · intro f hf hproject hfid
      rw [hown f hf hproject hfid]
      exact listOwns_of_apProjectOk hproject

/-- A flow of the tenant's project that is stamped for another tenant, and not registered. -/
def legacyFlow : ApFlow where
  id := some (PyStr.ofString "lf000")
  projectId := some (PyStr.ofString "tenant-NEW")
  metadata := .dict [(PyStr.ofString "tenantId", py "tenant-OLD")]
  versionDisplayName := none
  displayName := .null
  status := py "ENABLED"

/-- A fresh tenant with an empty registry is shown a flow that is stamped for another tenant. -/
theorem fresh_tenant_sees_legacy_flow : ∃ (order : SetOrder) (reg : FlowRegistry),
    ¬ ListsOwnFlows order reg [legacyFlow] (PyStr.ofString "tenant-NEW") := by
  refine ⟨⟨List.dedup, fun l ↦ List.Perm.refl _⟩, KeyedTable.empty, fun h ↦ ?_⟩
  have hitem := (h.1 false 1 (by decide)).1
    (orphanItem (PyStr.ofString "lf000", legacyFlow)) (List.mem_singleton.2 rfl)
  rcases hitem with ⟨r, hr, -⟩ | ⟨f, hf, -, hstamp⟩
  · exact absurd hr List.not_mem_nil
  · obtain rfl := List.mem_singleton.1 hf
    exact absurd hstamp (by decide)

end Main

end Siyadah
