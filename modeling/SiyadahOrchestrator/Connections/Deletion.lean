import SiyadahOrchestrator.Build.Walkers
import SiyadahOrchestrator.Flows.Sniper
import SiyadahOrchestrator.Foundations.PyRepr

/-!
# Deleting a connection

`v2_connection_delete` refuses to delete a connection that is in use. It takes the connection by its
internal or by its external identifier, and looks for the identifier in the writing of every flow
of the project. Steps refer to a connection by its external identifier only, so the search for the
other one finds nothing; and an identifier may stand in a flow without being a reference.

`respectsUse_iff` says exactly what the texts of the flows must be like for the refusal to be right.
-/

namespace Siyadah

open Dialogue PyValue

/-! ### The endpoint -/

/-- A request of the endpoint to ActivePieces. -/
inductive ConnectionQuery where
  /-- `GET /v1/flows/`, for a project. -/
  | flows (pid : PyStr)
  /-- `DELETE /v1/app-connections/{id}`. -/
  | delete (id : PyStr)

/-- A program that manages connections. -/
abbrev ConnectionM (α : Type) := Dialogue ConnectionQuery (Except EngineError PyValue) Unit
  EngineError α

section Endpoint

variable (T : ReprTables)

/-- The line on a flow in the refusal, if the identifier stands in the flow. -/
def affectedFlow (connectionId : PyStr) (f : PyValue) : Except PyError (Option PyStr) := do
  let version ← f.getD "version" (.dict [])
  if (pyStr T version).contains connectionId then
    let id ← f.get "id"
    let name ← version.getD "displayName" (py "?")
    pure (some (pyStr T id ++ text " (" ++ pyStr T name ++ text ")"))
  else pure none

/-- The refusal. -/
def inUse (connectionId : PyStr) (affected : List PyStr) : EngineError :=
  .http 409 (.value (pyDict [
    ("message", .str (text "Cannot delete '" ++ connectionId ++ text "': used by " ++
      digits affected.length ++ text " flow(s)")),
    ("affected_flows", .list (affected.map .str))]))

/-- `v2_connection_delete`. -/
def v2ConnectionDelete (pid connectionId : PyStr) : ConnectionM PyValue := do
  match ← ask (.flows pid) with
  | .error e => raise e
  | .ok raw =>
    let flows ← lift ((listOrData raw).mapError .py)
    let flows ← lift (flows.items.mapError .py)
    let affected ← lift ((flows.mapM fun f ↦ affectedFlow T connectionId f.1).mapError .py)
    let affected := affected.filterMap id
    if affected ≠ [] then raise (inUse connectionId affected)
    else
      match ← ask (.delete connectionId) with
      | .error e => raise e
      | .ok _ =>
        pure (pyDict [("status", py "deleted"), ("connection_id", .str connectionId),
          ("project_id", .str pid)])

end Endpoint

/-! ### Flows and references -/

/-- A flow as ActivePieces lists it: a dictionary with the dictionary of its version. -/
structure ListedFlow where
  value : PyValue
  dict : value.isDict = true
  version : ((value.entry "version").getD (.dict [])).isDict = true

namespace ListedFlow

/-- `f.get("version", {})`. -/
def versionOf (f : ListedFlow) : PyValue := (f.value.entry "version").getD (.dict [])

/-- A step of the flow that can be reached from its trigger. -/
def Reaches (f : ListedFlow) (n : PyValue) : Prop :=
  ∃ address, (address, n) ∈ placed (f.versionOf.entryD "trigger")

/-- A step of the flow refers to the connection with the identifier: a string of its settings holds
`C(c)`. -/
def References (f : ListedFlow) (c : PyStr) : Prop :=
  ∃ n s, f.Reaches n ∧ LeafOf s (n.entryD "settings") ∧ connectionRef c <:+: s

/-- The identifier stands in the writing of the flow. -/
def Mentions (T : ReprTables) (f : ListedFlow) (c : PyStr) : Prop :=
  c <:+: pyStr T f.versionOf

end ListedFlow

/-- ActivePieces with these flows, where every deletion succeeds. -/
def engineWith (flows : List ListedFlow) : ConnectionQuery → Except EngineError PyValue
  | .flows _ => .ok (.list (flows.map ListedFlow.value))
  | .delete _ => .ok .null

/-- The endpoint refuses with 409. -/
def Refused (T : ReprTables) (pid : PyStr) (flows : List ListedFlow) (connectionId : PyStr) :
    Prop :=
  ∃ detail, (v2ConnectionDelete T pid connectionId).against (engineWith flows) () =
    .error (.http 409 detail)

section Refusal

variable {T : ReprTables} {pid c : PyStr} {f : ListedFlow} {flows : List ListedFlow}

theorem getD_version (f : ListedFlow) :
    f.value.getD "version" (.dict []) = .ok f.versionOf := getD_of_isDict f.dict _ _

theorem affectedFlow_mentioned (h : f.Mentions T c) :
    ∃ line, affectedFlow T c f.value = .ok (some line) := by
  have hmem : (pyStr T f.versionOf).contains c = true :=
    decide_eq_true (show c <:+: pyStr T f.versionOf from h)
  rw [affectedFlow, getD_version]
  show ∃ line, (if (pyStr T f.versionOf).contains c then _ else _) = _
  rw [hmem, get_of_isDict f.dict, getD_of_isDict (v := f.versionOf) f.version]
  exact ⟨_, rfl⟩

theorem affectedFlow_free (h : ¬ f.Mentions T c) : affectedFlow T c f.value = .ok none := by
  have hmem : (pyStr T f.versionOf).contains c = false :=
    decide_eq_false (show ¬ c <:+: pyStr T f.versionOf from h)
  rw [affectedFlow, getD_version]
  show (if (pyStr T f.versionOf).contains c then _ else _) = _
  rw [hmem]
  rfl

/-- The lines on the flows: there is one exactly if the identifier stands in a flow. -/
theorem exists_affected (T : ReprTables) (c : PyStr) (flows : List ListedFlow) :
    ∃ affected, (flows.map ListedFlow.value).mapM (affectedFlow T c) = .ok affected ∧
      (affected.filterMap id = [] ↔ ∀ f ∈ flows, ¬ f.Mentions T c) := by
  induction flows with
  | nil => exact ⟨[], rfl, iff_of_true rfl fun _ h ↦ absurd h List.not_mem_nil⟩
  | cons f flows ih =>
    obtain ⟨affected, hrun, hempty⟩ := ih
    rw [List.map_cons, List.mapM_cons, hrun]
    by_cases h : f.Mentions T c
    · obtain ⟨line, hline⟩ := affectedFlow_mentioned h
      refine ⟨some line :: affected, by rw [hline]; rfl, ?_⟩
      exact iff_of_false (by simp) fun hnone ↦ hnone f List.mem_cons_self h
    · refine ⟨none :: affected, by rw [affectedFlow_free h]; rfl, ?_⟩
      rw [List.forall_mem_cons, and_iff_right h]
      exact hempty

/-- **The endpoint refuses** exactly when the identifier stands in a flow. -/
theorem refused_iff : Refused T pid flows c ↔ ∃ f ∈ flows, f.Mentions T c := by
  obtain ⟨affected, hrun, hempty⟩ := exists_affected T c flows
  obtain ⟨items, hitems, hlines⟩ : ∃ items,
      (PyValue.list (flows.map ListedFlow.value)).items = .ok items ∧
        items.mapM (fun f ↦ affectedFlow T c f.1) = .ok affected := by
    cases hitems : (PyValue.list (flows.map ListedFlow.value)).items with
    | error e => exact absurd hitems (by simp [items])
    | ok items =>
      have hvals : items.map Subtype.val = flows.map ListedFlow.value := map_val_of_items hitems
      have hall := mapM_eq_ok_iff.1 hrun
      rw [← hvals, List.forall₂_map_left_iff] at hall
      exact ⟨items, rfl, mapM_eq_ok_iff.2 hall⟩
  have houtcome : (v2ConnectionDelete T pid c).against (engineWith flows) () =
      if affected.filterMap id ≠ [] then .error (inUse c (affected.filterMap id))
      else .ok (pyDict [("status", py "deleted"), ("connection_id", .str c),
        ("project_id", .str pid)]) := by
    rw [v2ConnectionDelete, against_ask_bind]
    show Dialogue.against (lift ((listOrData (.list (flows.map ListedFlow.value))).mapError
      EngineError.py) >>= _) _ _ = _
    rw [against_lift_bind]
    show Dialogue.against (lift ((PyValue.list (flows.map ListedFlow.value)).items.mapError
      EngineError.py) >>= _) _ _ = _
    rw [against_lift_bind, hitems]
    show Dialogue.against (lift ((items.mapM fun f ↦ affectedFlow T c f.1).mapError EngineError.py)
      >>= _) _ _ = _
    rw [against_lift_bind, hlines]
    show Dialogue.against (if affected.filterMap id ≠ [] then _ else _) _ _ = _
    split
    · rfl
    · rfl
  rw [Refused, houtcome]
  by_cases hnone : affected.filterMap id = []
  · rw [if_neg (not_not.2 hnone)]
    refine iff_of_false ?_ ?_
    · rintro ⟨_, h⟩
      cases h
    · rintro ⟨f, hf, h⟩
      exact hempty.1 hnone f hf h
  · rw [if_pos hnone]
    refine iff_of_true ⟨_, rfl⟩ ?_
    by_contra hfree
    exact hnone (hempty.2 fun f hf h ↦ hfree ⟨f, hf, h⟩)

end Refusal

/-! ### A reference in writing -/

section References

variable {T : ReprTables} {c s : PyStr} {f : ListedFlow}

theorem leafOf_of_entryD {v : PyValue} {key : String} (h : LeafOf s (v.entryD key)) : LeafOf s v :=
  leafOf_iff_entry.2 (.inl h)

theorem leafOf_of_mem_listItems {v w : PyValue} (hw : w ∈ v.listItems) (h : LeafOf s w) :
    LeafOf s v := by
  cases v with
  | list vs => exact .item hw h
  | _ => exact absurd hw List.not_mem_nil

/-- A string of a step is a string of the tree. -/
theorem leafOf_of_mem_placed {node n : PyValue} {address : List Link}
    (hn : (address, n) ∈ placed node) (h : LeafOf s n) : LeafOf s node := by
  induction address generalizing node with
  | nil =>
    obtain ⟨-, -, (⟨-, rfl⟩ | ⟨k, -, rest, heq, -⟩)⟩ := mem_placed_iff.1 hn
    · exact h
    · exact absurd heq (by simp)
  | cons link address ih =>
    obtain ⟨-, -, (⟨heq, -⟩ | ⟨k, hk, rest, heq, hrest⟩)⟩ := mem_placed_iff.1 hn
    · exact absurd heq (by simp)
    · obtain ⟨-, rfl⟩ := List.cons.inj heq
      have hleaf := ih hrest
      rcases mem_links_iff.1 hk with rfl | ⟨i, child, hchild, rfl⟩ | rfl
      · exact leafOf_of_entryD hleaf
      · exact leafOf_of_entryD (leafOf_of_mem_listItems (List.mem_of_getElem? hchild) hleaf)
      · exact leafOf_of_entryD hleaf

/-- The writing of a value holds the writing of its strings. -/
theorem reprStr_infix_of_leafOf {v : PyValue} (h : LeafOf s v) :
    reprStr T s <:+: reprOf T v := by
  induction h with
  | here => rw [reprOf]
  | entry hf _ ih => exact ih.trans (infix_reprOf_entry hf)
  | item hv _ ih => exact ih.trans (infix_reprOf_item hv)

/-- **A reference is seen** under the identifier that it uses, if that one is printed as it
stands. -/
theorem mentions_of_references (hc : ∀ x ∈ c, IsVerbatim T x) (h : f.References c) :
    f.Mentions T c := by
  obtain ⟨n, s, ⟨address, hn⟩, hleaf, href⟩ := h
  have hversion : LeafOf s f.versionOf :=
    leafOf_of_entryD (leafOf_of_mem_placed hn (leafOf_of_entryD hleaf))
  have hstr : pyStr T f.versionOf = reprOf T f.versionOf := by
    have hdict : f.versionOf.isDict = true := f.version
    cases hv : f.versionOf with
    | dict fields => rfl
    | _ => exact absurd (hv ▸ hdict) (by simp [isDict])
  have hname : c <:+: connectionRef c := ⟨_, _, rfl⟩
  show c <:+: pyStr T f.versionOf
  rw [hstr]
  exact (infix_reprStr hc (hname.trans href)).trans (reprStr_infix_of_leafOf hversion)

end References

/-! ### The law -/

/-- A connection, under both of its identifiers. -/
structure Connection where
  id : PyStr
  externalId : PyStr

section Law

variable (T : ReprTables) (pid : PyStr) (flows : List ListedFlow) (conn : Connection)

/-- The refusal is right: a connection that a step refers to is kept under both identifiers, and one
that no step refers to is deleted under both. -/
structure RespectsUse : Prop where
  used : (∃ f ∈ flows, f.References conn.externalId) →
    Refused T pid flows conn.id ∧ Refused T pid flows conn.externalId
  unused : (∀ f ∈ flows, ¬ f.References conn.id ∧ ¬ f.References conn.externalId) →
    ¬ Refused T pid flows conn.id ∧ ¬ Refused T pid flows conn.externalId

/-- The texts of the flows show what they refer to. -/
structure TextsShowUse : Prop where
  /-- A flow whose text holds the internal identifier is among those of a connection in use. -/
  internal : (∃ f ∈ flows, f.References conn.externalId) → ∃ f ∈ flows, f.Mentions T conn.id
  /-- If the external identifier is not printed as it stands, it is found all the same. -/
  escaped : (∃ f ∈ flows, f.References conn.externalId) →
    (¬ ∀ x ∈ conn.externalId, IsVerbatim T x) → ∃ f ∈ flows, f.Mentions T conn.externalId
  /-- No text holds an identifier of a connection that is not in use. -/
  free : (∀ f ∈ flows, ¬ f.References conn.id ∧ ¬ f.References conn.externalId) →
    ∀ f ∈ flows, ¬ f.Mentions T conn.id ∧ ¬ f.Mentions T conn.externalId

/-- **Deletion respects use** exactly when the texts of the flows show what they refer to. -/
theorem respectsUse_iff : RespectsUse T pid flows conn ↔ TextsShowUse T flows conn := by
  constructor
  · rintro ⟨hused, hunused⟩
    refine ⟨fun h ↦ refused_iff.1 (hused h).1, fun h _ ↦ refused_iff.1 (hused h).2, ?_⟩
    intro h f hf
    obtain ⟨hid, hexternal⟩ := hunused h
    exact ⟨fun hm ↦ hid (refused_iff.2 ⟨f, hf, hm⟩),
      fun hm ↦ hexternal (refused_iff.2 ⟨f, hf, hm⟩)⟩
  · rintro ⟨hinternal, hescaped, hfree⟩
    refine ⟨fun h ↦ ⟨refused_iff.2 (hinternal h), refused_iff.2 ?_⟩, fun h ↦ ⟨?_, ?_⟩⟩
    · by_cases hverbatim : ∀ x ∈ conn.externalId, IsVerbatim T x
      · obtain ⟨f, hf, href⟩ := h
        exact ⟨f, hf, mentions_of_references hverbatim href⟩
      · exact hescaped h hverbatim
    · intro href
      obtain ⟨f, hf, hm⟩ := refused_iff.1 href
      exact (hfree h f hf).1 hm
    · intro href
      obtain ⟨f, hf, hm⟩ := refused_iff.1 href
      exact (hfree h f hf).2 hm

end Law

/-! ### The other identifier -/

/-- Tables that are right for ASCII texts, in values without floats. -/
def asciiTables : ReprTables := ⟨fun _ ↦ false, fun _ ↦ []⟩

/-- A flow with a step that uses the connection `gmail-main`. -/
def mailFlow : ListedFlow :=
  ⟨pyDict [("id", py "f1"), ("version", pyDict [("displayName", py "Mail"),
    ("trigger", pyDict [("name", py "trigger"), ("settings", pyDict [("input",
      pyDict [("auth", .str (connectionRef (text "gmail-main")))])])])])], rfl, rfl⟩

/-- The connection that `mailFlow` uses. -/
def mailConnection : Connection := ⟨text "k7QzX2", text "gmail-main"⟩

/-- Under its internal identifier, a connection in use is deleted. -/
theorem not_respectsUse_mail :
    ¬ RespectsUse asciiTables (text "p1") [mailFlow] mailConnection := by
  intro h
  have href : mailFlow.References mailConnection.externalId := by
    refine ⟨mailFlow.versionOf.entryD "trigger", connectionRef (text "gmail-main"), ⟨[], ?_⟩, ?_,
      List.infix_refl _⟩
    · exact mem_placed_iff.2 ⟨rfl, rfl, .inl ⟨rfl, rfl⟩⟩
    · exact .entry List.mem_cons_self (.entry List.mem_cons_self .here)
  obtain ⟨f, hf, hm⟩ := refused_iff.1 (h.used ⟨mailFlow, List.mem_cons_self, href⟩).1
  obtain rfl := List.mem_singleton.1 hf
  -- the internal identifier has a capital Q, the text has none
  have hcapital : 81 ∈ mailConnection.id := by decide
  exact absurd (hm.subset hcapital) (by decide)

end Siyadah
