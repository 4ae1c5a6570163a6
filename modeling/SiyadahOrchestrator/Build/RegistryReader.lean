import SiyadahOrchestrator.Build.Guard

/-!
# The generated registry

The registry lists the pieces and, for each of their actions, the fields that an input must have.
`validateActionAgainstRegistry` looks at one action; `validateActionsAgainstRegistry` goes through
the lists inside an action too, at any depth, and accepts exactly when each action that it visits is
accepted (`validateActions_eq_ok_iff`).
-/

namespace Siyadah

open PyValue

/-! ### The registry -/

/-- `canonical_piece_name`. -/
def canonicalPieceName (piece : PyStr) : PyStr :=
  let token := PyStr.strip piece
  if token = [] then token
  else if (text "@activepieces/").isPrefixOf token then token
  else piecePrefix ++ shortName token

/-- `piece_slug`. -/
def pieceSlug (piece : PyStr) : PyStr :=
  let canonical := canonicalPieceName piece
  if piecePrefix.isPrefixOf canonical then canonical.drop piecePrefix.length
  else (canonical.filter (· ≠ 64)).map fun c ↦ if c = 47 then 95 else c

/-- The directory of the registry: its path, and what its files hold if it is there. -/
structure RegistryFiles where
  path : PyStr
  records : Option (List PyValue)

/-- What `load_registry` returns. -/
structure Registry where
  byName : Fields
  bySlug : Fields

section Runtime

variable (R : PyRuntime) (files : RegistryFiles)

/-- A file in the loop of `load_registry`. -/
def Registry.add (reg : Registry) (record : PyValue) : Registry :=
  let pieceName := record.entryD "pieceName"
  if pieceName.truthy then
    let canonical := canonicalPieceName (R.str pieceName)
    { byName := upsert reg.byName canonical record
      bySlug := upsert reg.bySlug (pieceSlug canonical) record }
  else reg

/-- The `detail` of the errors. -/
def registryDetail (code : String) (piece actionName : PyStr)
    (required dropdown dynamic : List PyValue) (message : PyStr) : Detail :=
  .value (pyDict [("error", py code), ("piece", .str piece), ("action_name", .str actionName),
    ("missing_required_fields", .list required), ("missing_dropdown_fields", .list dropdown),
    ("missing_dynamic_fields", .list dynamic), ("message", .str message)])

/-- `load_registry`. -/
def loadRegistry : Except EngineError Registry :=
  match files.records with
  | some records => .ok (records.foldl (Registry.add R) ⟨[], []⟩)
  | none =>
    .error (.http 500 (registryDetail "REGISTRY_NOT_AVAILABLE" [] [] [] [] []
      (text "Registry pieces dir not found: " ++ files.path)))

/-- `_error`. -/
def registryError (code : String) (piece actionName : PyStr)
    (required dropdown dynamic : List PyValue) (message : PyStr) : EngineError :=
  .http 422 (registryDetail code (canonicalPieceName piece) actionName required dropdown dynamic
    message)

/-- `get_piece_action_schema`. -/
def getPieceActionSchema (piece actionName : PyStr) : Except EngineError PyValue := do
  let reg ← loadRegistry R files
  let canonical := canonicalPieceName piece
  let record := ((reg.byName.lookup canonical).getD .null).orElse
    ((reg.bySlug.lookup (pieceSlug piece)).getD .null)
  if record.truthy then
    let actions ← fromPy (record.get "actions")
    match actions.orElse (.dict []) with
    | .dict fields =>
      let schema := (fields.lookup actionName).getD .null
      if schema.truthy then pure schema
      else .error (registryError "REGISTRY_ACTION_NOT_FOUND" canonical actionName [] [] []
        (text "Action not found in generated registry: " ++ canonical ++ text "." ++ actionName))
    | _ => .error (.py .attributeError)
  else .error (registryError "REGISTRY_PIECE_NOT_FOUND" canonical actionName [] [] []
    (text "Piece not found in generated registry: " ++ canonical))

/-! ### One action -/

/-- `_missing`. -/
def isUnset : PyValue → Bool
  | .null => true
  | .str s => s.strip.isEmpty
  | .list items => items.isEmpty
  | .dict fields => fields.isEmpty
  | _ => false

/-- `_action_input`. -/
def actionInput (action : PyValue) : Fields :=
  let settings := fieldsOf (action.entryD "settings")
  let nested := fieldsOf ((PyValue.dict settings).entryD "input")
  mergeFields (mergeFields settings nested) (fieldsOf (action.entryD "input"))

/-- The first value that is true among those under the keys, in the action and then in its
settings. -/
def firstNamed (action : PyValue) (keys : List String) : PyValue :=
  let settings := PyValue.dict (fieldsOf (action.entryD "settings"))
  ((keys.map action.entryD ++ keys.map settings.entryD).find? truthy).getD (py "")

/-- `_piece_and_action`. -/
def pieceAndAction (action : PyValue) : PyStr × PyStr :=
  ((R.str (firstNamed action ["piece", "piece_name", "pieceName"])).strip,
    (R.str (firstNamed action ["action_name", "actionName"])).strip)

/-- The fields that the schema lists under the key and the payload misses. -/
def unsetFields (schema : PyValue) (payload : Fields) (key : String) :
    Except PyError (List PyValue) := do
  let names ← schema.get key
  let items ← (names.orElse (.list [])).items
  let missing ← items.mapM fun f ↦
    if isHashable f.1 then
      match f.1 with
      | .str s => pure (if isUnset ((payload.lookup s).getD .null) then [f.1] else [])
      | v => pure [v]
    else .error .typeError
  pure missing.flatten

/-- `validate_action_against_registry`. -/
def validateActionAgainstRegistry (action : PyValue) : Except EngineError Unit :=
  if !action.isDict then .ok ()
  else if !(stepType action).isStr (text "PIECE") then .ok ()
  else
    let names := pieceAndAction R action
    if names.1 = [] ∨ names.2 = [] then
      .error (registryError "REGISTRY_REQUIRED_FIELD_MISSING" names.1 names.2
        [py "piece", py "action_name"] [] [] (text "PIECE action requires piece and action_name."))
    else do
      let schema ← getPieceActionSchema R files names.1 names.2
      let payload := actionInput action
      let required ← fromPy (unsetFields schema payload "required_fields")
      let dropdown ← fromPy (unsetFields schema payload "dropdown_fields")
      let dynamic ← fromPy (unsetFields schema payload "dynamic_fields")
      if required ≠ [] then
        .error (registryError "REGISTRY_REQUIRED_FIELD_MISSING" names.1 names.2 required dropdown
          dynamic
          (text "Required Activepieces fields are missing according to generated registry."))
      else if dropdown ≠ [] then
        .error (registryError "PENDING_CONFIGURATION_DROPDOWN" names.1 names.2 [] dropdown dynamic
          (text "Dropdown fields need resolver/configuration before build."))
      else if dynamic ≠ [] then
        .error (registryError "PENDING_CONFIGURATION_DYNAMIC" names.1 names.2 [] [] dynamic
          (text "Dynamic fields need resolver/configuration before build."))
      else .ok ()

/-! ### The actions of a tree -/

/-- The lists inside one action, for the way in which a list is validated. -/
def validateListsInside (action : PyValue) (validate : action.Part → Except EngineError Unit) :
    Except EngineError Unit := do
  stepListKeys.forM fun key ↦ do
    let sub ← fromPy (action.child key Leaf.null)
    validate sub
  let branches ← fromPy (action.child "branches" Leaf.null)
  match branches.1 with
  | .list _ => do
    let items ← fromPy branches.1.items
    items.forM fun b ↦
      if b.1.isDict then do
        let sub ← fromPy (b.1.child "actions" Leaf.null)
        validate ⟨sub.1, Nat.lt_trans sub.2 (Nat.lt_of_le_of_lt b.2 branches.2)⟩
      else pure ()
  | _ => pure ()

/-- `validate_actions_against_registry`. -/
def validateActionsAgainstRegistry (actions : PyValue) : Except EngineError Unit :=
  match _hactions : actions with
  | .list _ => do
    let items ← fromPy actions.items
    items.forM fun a ↦
      if a.1.isDict then do
        validateActionAgainstRegistry R files a.1
        validateListsInside a.1 fun w ↦ validateActionsAgainstRegistry w.1
      else pure ()
  | _ => .ok ()
termination_by actions.weight
decreasing_by exact _hactions ▸ Nat.lt_of_lt_of_le w.2 a.2

end Runtime

/-- The lists right inside an action. -/
def visitedLists (action : PyValue) : List (List PyValue) :=
  stepListKeys.map (fun key ↦ (action.entryD key).listItems) ++
    (action.entryD "branches").listItems.map fun b ↦ (b.entryD "actions").listItems

/-- The step is one of the list, or of a list inside it, at any depth. -/
def Visited (actions : List PyValue) (step : PyValue) : Prop :=
  ∃ inner, Relation.ReflTransGen (fun l inner ↦ ∃ a ∈ l, inner ∈ visitedLists a) actions inner ∧
    step ∈ inner

/-- The step is inside the action, at any depth. -/
def Inside (action step : PyValue) : Prop := ∃ inner ∈ visitedLists action, Visited inner step

section Traversal

variable {R : PyRuntime} {files : RegistryFiles} {action step : PyValue}

theorem visited_iff {actions : List PyValue} :
    Visited actions step ↔ step ∈ actions ∨ ∃ a ∈ actions, Inside a step := by
  constructor
  · rintro ⟨inner, hinner, hstep⟩
    rcases hinner.cases_head with rfl | ⟨mid, ⟨a, ha, hmid⟩, hrest⟩
    · exact .inl hstep
    · exact .inr ⟨a, ha, mid, hmid, inner, hrest, hstep⟩
  · rintro (hstep | ⟨a, ha, mid, hmid, inner, hrest, hstep⟩)
    · exact ⟨actions, .refl, hstep⟩
    · exact ⟨inner, .head ⟨a, ha, hmid⟩ hrest, hstep⟩

theorem not_visited_nil : ¬ Visited [] step := by
  rw [visited_iff]
  rintro (h | ⟨a, ha, -⟩)
  · exact absurd h List.not_mem_nil
  · exact absurd ha List.not_mem_nil

theorem visitedLists_of_not_dict (h : action.isDict = false) :
    ∀ inner ∈ visitedLists action, inner = [] := by
  have hentry : ∀ key, action.entryD key = .null := by
    intro key
    cases action with
    | dict fields => exact absurd h (by simp [isDict])
    | _ => rfl
  intro inner hinner
  rcases List.mem_append.1 hinner with hinner | hinner
  · obtain ⟨key, -, rfl⟩ := List.mem_map.1 hinner
    rw [hentry]
    rfl
  · rw [hentry] at hinner
    exact absurd hinner List.not_mem_nil

/-- An entry that is read for a walk. -/
theorem exists_child_null (hdict : action.isDict = true) (key : String) :
    ∃ w, action.child key Leaf.null = .ok w ∧ w.1 = action.entryD key := by
  have hval := child_val action key Leaf.null
  rw [getD_of_isDict hdict] at hval
  cases hchild : action.child key Leaf.null with
  | error e =>
    rw [hchild] at hval
    cases hval
  | ok w =>
    rw [hchild] at hval
    exact ⟨w, rfl, Except.ok.inj hval⟩

/-- The lists inside an action are all validated. -/
theorem validateListsInside_eq_ok_iff {validate : action.Part → Except EngineError Unit}
    {P : List PyValue → Prop} (hnil : P []) (hdict : action.isDict = true)
    (hvalidate : ∀ w, validate w = .ok () ↔ P w.1.listItems) :
    validateListsInside action validate = .ok () ↔ ∀ inner ∈ visitedLists action, P inner := by
  have hkey : ∀ key, (do
      let sub ← fromPy (action.child key Leaf.null)
      validate sub) = .ok () ↔ P (action.entryD key).listItems := by
    intro key
    obtain ⟨w, hw, hval⟩ := exists_child_null hdict key
    rw [hw, ← hval]
    exact hvalidate w
  have hbranch : ∀ (w : action.Part) (b : { b : PyValue // b.weight ≤ w.1.weight }),
      (if b.1.isDict then do
        let sub ← fromPy (b.1.child "actions" Leaf.null)
        validate ⟨sub.1, Nat.lt_trans sub.2 (Nat.lt_of_le_of_lt b.2 w.2)⟩
      else pure ()) = Except.ok () ↔ P (b.1.entryD "actions").listItems := by
    intro w b
    split
    · rename_i hb
      obtain ⟨sub, hsub, hval⟩ := exists_child_null hb "actions"
      rw [hsub, ← hval]
      exact hvalidate _
    · rename_i hb
      refine iff_of_true rfl ?_
      have hnull : b.1.entryD "actions" = .null := by
        cases hv : b.1 with
        | dict fields => exact absurd (by rw [hv]; rfl) hb
        | _ => rfl
      rw [hnull]
      exact hnil
  obtain ⟨branches, hbranches, hval⟩ := exists_child_null hdict "branches"
  rw [validateListsInside, bind_eq_ok_iff, visitedLists, List.forall_mem_append,
    List.forall_mem_map, List.forall_mem_map]
  have hfirst : stepListKeys.forM (fun key ↦ do
      let sub ← fromPy (action.child key Leaf.null)
      validate sub) = .ok () ↔ ∀ key ∈ stepListKeys, P (action.entryD key).listItems :=
    forM_eq_ok_iff.trans (forall₂_congr fun key _ ↦ hkey key)
  constructor
  · rintro ⟨u, hkeys, h⟩
    refine ⟨hfirst.1 hkeys, ?_⟩
    rw [hbranches] at h
    change (match branches.1 with
      | .list _ => _
      | _ => _) = _ at h
    rw [← hval]
    split at h
    · rename_i vs hvs
      obtain ⟨items, hitems, h⟩ := bind_eq_ok_iff.1 h
      intro b hb
      have hmem : b ∈ items.map Subtype.val := by
        rw [map_val_of_items (fromPy_eq_ok_iff.1 hitems), hvs]
        rwa [hvs] at hb
      obtain ⟨b', hb', rfl⟩ := List.mem_map.1 hmem
      exact (hbranch branches b').1 (forM_eq_ok_iff.1 h b' hb')
    · rename_i hlist
      intro b hb
      cases hvs : branches.1 with
      | list vs => exact absurd hvs (hlist vs)
      | _ =>
        rw [hvs] at hb
        exact absurd hb List.not_mem_nil
  · rintro ⟨hkeys, hall⟩
    refine ⟨(), hfirst.2 hkeys, ?_⟩
    rw [hbranches]
    show (match branches.1 with
      | .list _ => _
      | _ => _) = _
    rw [← hval] at hall
    split
    · rename_i vs hvs
      obtain ⟨items, hitems⟩ : ∃ items, branches.1.items = .ok items := by
        rw [hvs]
        exact ⟨_, rfl⟩
      refine bind_eq_ok_iff.2 ⟨items, fromPy_eq_ok_iff.2 hitems, forM_eq_ok_iff.2 fun b hb ↦ ?_⟩
      refine (hbranch branches b).2 (hall b.1 ?_)
      have hmem : b.1 ∈ items.map Subtype.val := List.mem_map_of_mem hb
      have heq : branches.1.iterated = branches.1.listItems := by
        rw [hvs]
        rfl
      rwa [map_val_of_items hitems, heq] at hmem
    · rfl

/-- What is no dictionary is not looked at. -/
theorem validateAction_of_not_dict (h : action.isDict = false) :
    validateActionAgainstRegistry R files action = .ok () := by
  rw [validateActionAgainstRegistry, h]
  rfl

/-- **The walk over a tree accepts exactly when each action that it visits is accepted.** -/
theorem validateActions_eq_ok_iff (actions : PyValue) :
    validateActionsAgainstRegistry R files actions = .ok () ↔
      ∀ step, Visited actions.listItems step →
        validateActionAgainstRegistry R files step = .ok () := by
  induction hn : actions.weight using Nat.strong_induction_on generalizing actions with
  | h n ih =>
    subst hn
    let P : List PyValue → Prop := fun inner ↦
      ∀ step, Visited inner step → validateActionAgainstRegistry R files step = .ok ()
    have hnil : P [] := fun step h ↦ absurd h not_visited_nil
    have hsplit : ∀ l : List PyValue, P l ↔ ∀ a ∈ l,
        validateActionAgainstRegistry R files a = .ok () ∧ ∀ inner ∈ visitedLists a, P inner := by
      intro l
      constructor
      · intro h a ha
        exact ⟨h a (visited_iff.2 (.inl ha)), fun inner hinner step hstep ↦
          h step (visited_iff.2 (.inr ⟨a, ha, inner, hinner, hstep⟩))⟩
      · intro h step hstep
        rcases visited_iff.1 hstep with hmem | ⟨a, ha, inner, hinner, hstep⟩
        · exact (h step hmem).1
        · exact (h a ha).2 inner hinner step hstep
    show _ ↔ P actions.listItems
    rw [hsplit]
    cases actions with
    | list vs =>
      rw [validateActionsAgainstRegistry]
      obtain ⟨items, hitems⟩ : ∃ items, (PyValue.list vs).items = .ok items := ⟨_, rfl⟩
      have hval : items.map Subtype.val = vs := map_val_of_items hitems
      have hitem : ∀ Q : PyValue → Prop, (∀ a ∈ vs, Q a) ↔ ∀ a ∈ items, Q a.1 := by
        intro Q
        have hmap : (∀ a ∈ items.map Subtype.val, Q a) ↔ ∀ a ∈ items, Q a.1 := List.forall_mem_map
        rwa [hval] at hmap
      rw [hitems]
      show items.forM _ = _ ↔ ∀ a ∈ vs, _
      rw [forM_eq_ok_iff, hitem]
      refine forall₂_congr fun a _ ↦ ?_
      split
      · rename_i hdict
        rw [bind_eq_ok_iff]
        have hinside : validateListsInside a.1
            (fun w ↦ validateActionsAgainstRegistry R files w.1) = .ok () ↔
              ∀ inner ∈ visitedLists a.1, P inner :=
          validateListsInside_eq_ok_iff hnil hdict fun w ↦
            ih _ (Nat.lt_of_lt_of_le w.2 a.2) w.1 rfl
        rw [hinside]
        exact ⟨fun ⟨_, h, h'⟩ ↦ ⟨h, h'⟩, fun h ↦ ⟨(), h.1, h.2⟩⟩
      · rename_i hdict
        have hfalse : a.1.isDict = false := by simpa using hdict
        refine iff_of_true rfl ⟨validateAction_of_not_dict hfalse, fun inner hinner ↦ ?_⟩
        rw [visitedLists_of_not_dict hfalse inner hinner]
        exact hnil
    | _ =>
      rw [validateActionsAgainstRegistry]
      · exact iff_of_true rfl fun a ha ↦ absurd ha List.not_mem_nil
      all_goals exact fun _ h ↦ nomatch h

end Traversal

end Siyadah
