import SiyadahOrchestrator.Build.Catalog

/-!
# Records of pieces and their indexes

`scripts/sync_activepieces_registry.py` keeps a registry of pieces in files. What ActivePieces says
of a piece becomes its record (`buildPieceRecord`), and the records together become seven indexes
(`buildIndexes`), each of which maps the name of a piece to its entry.

The entry of a piece is computed from its record alone, so with one record for each name an index is
known by its lookups (`lookup_foldlM_addPiece_iff`).
-/

namespace Siyadah

namespace RegistrySync

open PyValue

/-! ### Names -/

/-- `_short_name`. -/
def shortName (pieceName : PyStr) : PyStr :=
  if piecePrefix.isPrefixOf pieceName then pieceName.drop piecePrefix.length
  else (pieceName.map fun c ↦ if c = 47 then 95 else c).filter (· ≠ 64)

/-- `_canonical_piece_name`. -/
def canonicalPieceName (token : PyStr) : PyStr :=
  let t := token.strip
  if t = [] then t
  else if (text "@activepieces/").isPrefixOf t then t
  else piecePrefix ++ t

/-! ### Records -/

/-- `REGISTRY_FORMAT_VERSION`. -/
def registryFormatVersion : ℤ := 1

/-- `DROPDOWN_TYPES`. -/
def dropdownTypes : List String := ["DROPDOWN", "MULTI_SELECT_DROPDOWN"]

/-- `DYNAMIC_TYPES`. -/
def dynamicTypes : List String := ["DYNAMIC"]

/-- The entry of a piece that asks for no authentication. -/
def noAuth : PyValue := pyDict [("type", .null), ("required", .bool false)]

/-- The entry for one way to authenticate. -/
def authEntry (auth : PyValue) : PyValue :=
  pyDict [("type", auth.entryD "type"),
    ("required", .bool ((auth.entry "required").getD (.bool true)).truthy)]

/-- `_extract_auth`. -/
def extractAuth (auth : PyValue) : PyValue :=
  match auth with
  | .dict (f :: fields) => authEntry (.dict (f :: fields))
  | .list entries =>
    ((entries.find? fun e ↦ e.isDict && (e.entryD "type").truthy).map authEntry).getD noAuth
  | _ => noAuth

/-- What `_classify_props` returns. -/
structure PropClasses where
  requiredFields : List PyStr
  dropdownFields : List PyStr
  dynamicFields : List PyStr
  propertyTypes : Fields

/-- One property in the loop of `_classify_props`. -/
def PropClasses.add (classes : PropClasses) (prop : PyStr × PyValue) :
    Except PyError PropClasses :=
  if !prop.2.isDict then .ok classes
  else
    let ptype := ((prop.2.entry "type").getD (py "")).orElse (py "")
    let among (names : List String) (fields : List PyStr) :=
      if names.any fun name ↦ ptype.isStr (text name) then fields ++ [prop.1] else fields
    if isHashable ptype then
      .ok { requiredFields := match prop.2.entryD "required" with
              | .bool true => classes.requiredFields ++ [prop.1]
              | _ => classes.requiredFields
            dropdownFields := among dropdownTypes classes.dropdownFields
            dynamicFields := among dynamicTypes classes.dynamicFields
            propertyTypes := upsert classes.propertyTypes prop.1 ptype }
    else .error .typeError

/-- `sorted(names)`. -/
def sorted (names : List PyStr) : List PyStr := names.mergeSort PyStr.le

/-- `_classify_props`. -/
def classifyProps (props : PyValue) : Except PyError PropClasses :=
  match props with
  | .dict fields => do
    let classes ← fields.foldlM PropClasses.add ⟨[], [], [], []⟩
    pure { classes with
      requiredFields := sorted classes.requiredFields
      dropdownFields := sorted classes.dropdownFields
      dynamicFields := sorted classes.dynamicFields }
  | _ => .ok ⟨[], [], [], []⟩

/-- The entry of an action or a trigger. -/
def entryOf (displayName description props : PyValue) (classes : PropClasses) : PyValue :=
  pyDict [("displayName", displayName), ("description", description),
    ("required_fields", .list (classes.requiredFields.map .str)),
    ("dropdown_fields", .list (classes.dropdownFields.map .str)),
    ("dynamic_fields", .list (classes.dynamicFields.map .str)),
    ("property_types", .dict classes.propertyTypes), ("props", props)]

/-- `_build_action_or_trigger_entry`. -/
def buildActionOrTriggerEntry (body : PyValue) : Except PyError PyValue :=
  if !body.isDict then .ok (entryOf .null .null (.dict []) ⟨[], [], [], []⟩)
  else do
    let props := (body.entryD "props").orElse ((body.entryD "properties").orElse (.dict []))
    let classes ← classifyProps props
    pure (entryOf (body.entryD "displayName") (body.entryD "description") props classes)

/-- The entries of the actions or the triggers, where they are a dictionary. -/
def buildEntries (raw : PyValue) : Except PyError Fields :=
  match raw with
  | .dict fields => fields.mapM fun f ↦ (buildActionOrTriggerEntry f.2).map (f.1, ·)
  | _ => .ok []

/-- `_build_piece_record`, for the function that hashes a schema and the time of the call. -/
def buildPieceRecord (schemaHash : PyValue → PyStr) (syncedAt schema : PyValue)
    (sourceUrl : PyStr) : Except PyError PyValue := do
  let actions ← buildEntries (schema.entryD "actions")
  let triggers ← buildEntries (schema.entryD "triggers")
  pure (pyDict [("pieceName", (schema.entry "name").getD (py "")),
    ("displayName", schema.entryD "displayName"), ("version", schema.entryD "version"),
    ("auth", extractAuth (schema.entryD "auth")), ("actions", .dict actions),
    ("triggers", .dict triggers), ("schema_hash", .str (schemaHash schema)),
    ("synced_at", syncedAt), ("source_url", .str sourceUrl),
    ("registry_format_version", .int registryFormatVersion)])

/-! ### Indexes -/

/-- The seven indexes. -/
inductive IndexKind where
  | actions
  | triggers
  | requiredFields
  | dropdownFields
  | dynamicFields
  | auth
  | schemaHashes
deriving DecidableEq

/-- The name of its file. -/
def IndexKind.file : IndexKind → PyStr
  | actions => text "actions_index.json"
  | triggers => text "triggers_index.json"
  | requiredFields => text "required_fields_index.json"
  | dropdownFields => text "dropdown_fields_index.json"
  | dynamicFields => text "dynamic_fields_index.json"
  | auth => text "auth_index.json"
  | schemaHashes => text "schema_hashes.json"

/-- The indexes in the order in which they are written. -/
def IndexKind.all : List IndexKind :=
  [actions, triggers, requiredFields, dropdownFields, dynamicFields, auth, schemaHashes]

/-- The indexes under construction. -/
abbrev Indexes := IndexKind → Fields

/-- `rec.get(key) or {}`, of which the keys are taken. -/
def dictAt (rec : PyValue) (key : String) : Except PyError Fields := do
  let v ← rec.get key
  match v.orElse (.dict []) with
  | .dict fields => .ok fields
  | _ => .error .attributeError

/-- `{a: list(actions[a].get(key) or []) for a in sorted(actions.keys())}`. -/
def fieldsByAction (actions : Fields) (key : String) : Except PyError PyValue := do
  let entries ← (sorted (actions.map Prod.fst)).mapM fun a ↦ do
    let names ← ((actions.lookup a).getD .null).get key
    let items ← (names.orElse (.list [])).items
    pure (a, PyValue.list (items.map Subtype.val))
  pure (.dict entries)

/-- What the entry of a piece in `schema_hashes.json` is made of. -/
structure HashEntry where
  hash : PyValue
  version : PyValue
  syncedAt : PyValue
  sourceUrl : PyValue

/-- The entries of a piece, from what has been read of its record. -/
def entriesFrom (actions triggers : Fields) (required dropdown dynamic auth : PyValue)
    (hashes : HashEntry) : IndexKind → PyValue
  | .actions => .list ((sorted (actions.map Prod.fst)).map .str)
  | .triggers => .list ((sorted (triggers.map Prod.fst)).map .str)
  | .requiredFields => required
  | .dropdownFields => dropdown
  | .dynamicFields => dynamic
  | .auth => auth.orElse noAuth
  | .schemaHashes => pyDict [("hash", hashes.hash), ("version", hashes.version),
      ("synced_at", hashes.syncedAt), ("source_url", hashes.sourceUrl)]

/-- The entries of a piece in the indexes. -/
def pieceEntries (rec : PyValue) : Except PyError (IndexKind → PyValue) := do
  let actions ← dictAt rec "actions"
  let triggers ← dictAt rec "triggers"
  let required ← fieldsByAction actions "required_fields"
  let dropdown ← fieldsByAction actions "dropdown_fields"
  let dynamic ← fieldsByAction actions "dynamic_fields"
  let auth ← rec.get "auth"
  let hash ← rec.get "schema_hash"
  let version ← rec.get "version"
  let syncedAt ← rec.get "synced_at"
  let sourceUrl ← rec.get "source_url"
  pure (entriesFrom actions triggers required dropdown dynamic auth
    ⟨hash, version, syncedAt, sourceUrl⟩)

/-- A name as the key of an index. A name that is no string is not modelled any further. -/
def nameKey : PyValue → Except PyError PyStr
  | .str name => .ok name
  | _ => .error .typeError

/-- One record in the loop of `_build_indexes`. -/
def addPiece (indexes : Indexes) (rec : PyValue) : Except PyError Indexes := do
  let piece ← rec.get "pieceName"
  if piece.truthy then
    let entries ← pieceEntries rec
    let name ← nameKey piece
    pure fun kind ↦ upsert (indexes kind) name (entries kind)
  else pure indexes

/-- The records, by their slugs, in the order of these. -/
def bySlug (records : Fields) : List PyValue :=
  (records.mergeSort fun a b ↦ PyStr.le a.1 b.1).map Prod.snd

/-- `_build_indexes`: the content of each file. -/
def buildIndexes (records : Fields) : Except PyError Fields := do
  let indexes ← (bySlug records).foldlM addPiece fun _ ↦ []
  pure (IndexKind.all.map fun kind ↦ (kind.file, .dict (indexes kind)))

/-! ### Values that can be compared -/

/-- The value equals itself, which is to say that there is no NaN in it. A file that is written and
read back holds the same value only then. -/
def Plain (v : PyValue) : Prop := v.eq v = true

theorem plain_str (s : PyStr) : Plain (.str s) := by simp [Plain, eq]

theorem plain_bool (b : Bool) : Plain (.bool b) := by
  cases b <;> simp [Plain, eq, number?]

theorem plain_null : Plain .null := by simp [Plain, eq]

theorem plain_strs (names : List PyStr) : Plain (.list (names.map .str)) :=
  eq_self_list_iff.2 (List.forall_mem_map.2 fun s _ ↦ plain_str s)

/-- What a dictionary has under a key can be compared as the dictionary can. -/
theorem Plain.entryD {v : PyValue} (h : Plain v) (key : String) : Plain (v.entryD key) := by
  cases v with
  | dict fields =>
    show Plain ((fields.lookup (PyStr.ofString key)).getD .null)
    cases hw : fields.lookup (PyStr.ofString key) with
    | none => exact plain_null
    | some w => exact eq_self_of_lookup h hw
  | _ => exact plain_null

theorem plain_pyDict {fields : List (String × PyValue)} (hnodup : (fields.map Prod.fst).Nodup)
    (h : ∀ f ∈ fields, Plain f.2) : Plain (pyDict fields) := by
  have hkeys : ((fields.map fun f ↦ (PyStr.ofString f.1, f.2)).map Prod.fst).Nodup := by
    rw [List.map_map]
    exact (List.map_map ▸ hnodup.map PyStr.ofString_injective :)
  refine eq_self_dict fun f hf ↦ ⟨(lookup_eq_some_iff_mem hkeys).2 hf, ?_⟩
  obtain ⟨g, hg, rfl⟩ := List.mem_map.1 hf
  exact h g hg

theorem plain_authEntry {auth : PyValue} (h : Plain auth) : Plain (authEntry auth) :=
  plain_pyDict (by simp) (by simp [h.entryD, plain_bool])

theorem plain_noAuth : Plain noAuth := plain_pyDict (by simp) (by simp [plain_null, plain_bool])

theorem plain_extractAuth {auth : PyValue} (h : Plain auth) : Plain (extractAuth auth) := by
  unfold extractAuth
  split
  · exact plain_authEntry h
  · rename_i entries
    cases hfind : entries.find? fun e ↦ e.isDict && (e.entryD "type").truthy with
    | none => exact plain_noAuth
    | some e => exact plain_authEntry (eq_self_list_iff.1 h e (List.mem_of_find?_eq_some hfind))
  · exact plain_noAuth

/-! ### Entries -/

theorem get_pyDict (fields : List (String × PyValue)) (key : String) :
    (pyDict fields).get key = .ok ((fields.lookup key).getD .null) := by
  rw [get_of_isDict rfl, PyValue.entryD, entry_pyDict]

/-- The keys of an entry that list fields. -/
def fieldKeys : List String := ["required_fields", "dropdown_fields", "dynamic_fields"]

/-- The entry lists names under each of the keys. -/
def ListsFields (entry : PyValue) : Prop :=
  ∀ key ∈ fieldKeys, ∃ names : List PyStr, entry.get key = .ok (.list (names.map .str))

theorem listsFields_entryOf (displayName description props : PyValue) (classes : PropClasses) :
    ListsFields (entryOf displayName description props classes) := by
  intro key hkey
  simp only [fieldKeys, List.mem_cons, List.not_mem_nil, or_false] at hkey
  rcases hkey with rfl | rfl | rfl
  · exact ⟨classes.requiredFields, get_pyDict _ _⟩
  · exact ⟨classes.dropdownFields, get_pyDict _ _⟩
  · exact ⟨classes.dynamicFields, get_pyDict _ _⟩

theorem listsFields_of_build {body entry : PyValue}
    (h : buildActionOrTriggerEntry body = .ok entry) : ListsFields entry := by
  unfold buildActionOrTriggerEntry at h
  split at h
  · exact Except.ok.inj h ▸ listsFields_entryOf _ _ _ _
  · obtain ⟨classes, -, h⟩ := bind_eq_ok_iff.1 h
    exact Except.ok.inj h ▸ listsFields_entryOf _ _ _ _

/-- Each entry of the actions lists its fields. -/
theorem listsFields_of_buildEntries {raw : PyValue} {entries : Fields}
    (h : buildEntries raw = .ok entries) : ∀ f ∈ entries, ListsFields f.2 := by
  unfold buildEntries at h
  split at h
  · intro f hf
    obtain ⟨g, -, hg⟩ := exists_of_mem_mapM h hf
    cases hentry : buildActionOrTriggerEntry g.2 with
    | error e =>
      rw [hentry] at hg
      exact absurd hg (by simp [Except.map])
    | ok entry =>
      rw [hentry] at hg
      obtain rfl := Except.ok.inj hg
      exact listsFields_of_build hentry
  · obtain rfl := Except.ok.inj h
    exact fun _ hf ↦ absurd hf List.not_mem_nil

theorem listed (a : PyStr) (names : List PyStr) : (do
      let items ← ((PyValue.list (names.map .str)).orElse (.list [])).items
      pure (a, PyValue.list (items.map Subtype.val)) : Except PyError (PyStr × PyValue)) =
    .ok (a, .list (names.map .str)) := by
  have hor : (PyValue.list (names.map .str)).orElse (.list []) = .list (names.map .str) := by
    cases names <;> rfl
  rw [hor]
  have hval := items_list_val (names.map .str)
  cases hitems : (PyValue.list (names.map .str)).items with
  | error e =>
    rw [hitems] at hval
    exact absurd hval (by simp [Except.map])
  | ok items =>
    rw [hitems] at hval
    exact congrArg (fun vs ↦ Except.ok (a, PyValue.list vs)) (Except.ok.inj hval)

theorem lookup_collected {keys : List PyStr} {g : PyStr → PyValue} {a : PyStr} (ha : a ∈ keys) :
    (keys.map fun a ↦ (a, g a)).lookup a = some (g a) := by
  induction keys with
  | nil => exact absurd ha List.not_mem_nil
  | cons b keys ih =>
    rw [List.map_cons, List.lookup_cons]
    by_cases hab : a = b
    · rw [beq_iff_eq.2 hab, hab]
    · rw [beq_false_of_ne hab]
      exact ih ((List.mem_cons.1 ha).resolve_left hab)

theorem plain_collected (keys : List PyStr) (names : PyStr → List PyStr) :
    Plain (.dict (keys.map fun a ↦ (a, .list ((names a).map .str)))) := by
  refine eq_self_dict fun f hf ↦ ?_
  obtain ⟨a, ha, rfl⟩ := List.mem_map.1 hf
  exact ⟨lookup_collected (g := fun a ↦ .list ((names a).map .str)) ha, plain_strs _⟩

/-- The lists of the entries, collected under their names. -/
theorem exists_fieldsByAction {actions : Fields} (h : ∀ f ∈ actions, ListsFields f.2)
    (key : String) (hkey : key ∈ fieldKeys) :
    ∃ v, fieldsByAction actions key = .ok v ∧ Plain v := by
  have hnames : ∀ a ∈ sorted (actions.map Prod.fst), ∃ names : List PyStr,
      ((actions.lookup a).getD .null).get key = .ok (.list (names.map .str)) := by
    intro a ha
    obtain ⟨v, hv⟩ := mem_keys_iff.1 (List.mem_mergeSort.1 ha)
    obtain ⟨l₁, l₂, rfl, -⟩ := List.lookup_eq_some_iff.1 hv
    rw [hv]
    exact h (a, v) (List.mem_append_right _ List.mem_cons_self) key hkey
  choose! names hnames using hnames
  refine ⟨_, ?_, plain_collected (sorted (actions.map Prod.fst)) names⟩
  rw [fieldsByAction, mapM_eq_ok_map (g := fun a ↦ (a, .list ((names a).map .str)))]
  · rfl
  · intro a ha
    rw [hnames a ha]
    exact listed a (names a)

/-! ### What a record is good for -/

/-- The record of the piece `name` has entries in the indexes, which can be compared. -/
structure Indexable (name : PyStr) (rec : PyValue) (entries : IndexKind → PyValue) : Prop where
  named : rec.get "pieceName" = .ok (.str name)
  entries_eq : pieceEntries rec = .ok entries
  plain : ∀ kind, Plain (entries kind)

theorem dictAt_of_get {rec : PyValue} {key : String} {fields : Fields}
    (h : rec.get key = .ok (.dict fields)) : dictAt rec key = .ok fields := by
  rw [dictAt, h]
  cases fields <;> rfl

/-- **What a schema becomes can be indexed.** -/
theorem indexable_of_build {schemaHash : PyValue → PyStr} {t schema rec : PyValue}
    {sourceUrl name : PyStr} (h : buildPieceRecord schemaHash t schema sourceUrl = .ok rec)
    (hname : schema.entry "name" = some (.str name)) (hplain : Plain schema) (ht : Plain t) :
    ∃ entries, Indexable name rec entries := by
  obtain ⟨actions, hactions, h⟩ := bind_eq_ok_iff.1 h
  obtain ⟨triggers, htriggers, h⟩ := bind_eq_ok_iff.1 h
  have hrec := Except.ok.inj h
  have hget : ∀ key, rec.get key = .ok ((List.lookup key _).getD .null) :=
    fun key ↦ hrec ▸ get_pyDict _ key
  have hlists := listsFields_of_buildEntries hactions
  obtain ⟨required, hrequired, hplain₁⟩ :=
    exists_fieldsByAction hlists "required_fields" (by simp [fieldKeys])
  obtain ⟨dropdown, hdropdown, hplain₂⟩ :=
    exists_fieldsByAction hlists "dropdown_fields" (by simp [fieldKeys])
  obtain ⟨dynamic, hdynamic, hplain₃⟩ :=
    exists_fieldsByAction hlists "dynamic_fields" (by simp [fieldKeys])
  refine ⟨entriesFrom actions triggers required dropdown dynamic
    (extractAuth (schema.entryD "auth"))
    ⟨.str (schemaHash schema), schema.entryD "version", t, .str sourceUrl⟩, ?_, ?_, fun kind ↦ ?_⟩
  · rw [hget, hname]
    rfl
  · have hactions' : dictAt rec "actions" = .ok actions := dictAt_of_get (hget "actions")
    have htriggers' : dictAt rec "triggers" = .ok triggers := dictAt_of_get (hget "triggers")
    refine bind_eq_ok_iff.2 ⟨_, hactions', bind_eq_ok_iff.2 ⟨_, htriggers',
      bind_eq_ok_iff.2 ⟨_, hrequired, bind_eq_ok_iff.2 ⟨_, hdropdown,
      bind_eq_ok_iff.2 ⟨_, hdynamic, ?_⟩⟩⟩⟩⟩
    rw [hget, hget, hget, hget, hget]
    rfl
  · cases kind with
    | actions => exact plain_strs _
    | triggers => exact plain_strs _
    | requiredFields => exact hplain₁
    | dropdownFields => exact hplain₂
    | dynamicFields => exact hplain₃
    | auth =>
      show Plain ((extractAuth (schema.entryD "auth")).orElse noAuth)
      rw [PyValue.orElse]
      split
      · exact plain_extractAuth (hplain.entryD "auth")
      · exact plain_noAuth
    | schemaHashes =>
      exact plain_pyDict (by simp) (by simp [plain_str, hplain.entryD, ht])

theorem Indexable.unique {name name' : PyStr} {rec : PyValue}
    {entries entries' : IndexKind → PyValue} (h : Indexable name rec entries)
    (h' : Indexable name' rec entries') :
    name' = name ∧ entries' = entries :=
  ⟨PyValue.str.inj (Except.ok.inj (h'.named.symm.trans h.named)),
    Except.ok.inj (h'.entries_eq.symm.trans h.entries_eq)⟩

theorem addPiece_eq {name : PyStr} {rec : PyValue} {entries : IndexKind → PyValue}
    (h : Indexable name rec entries) (hname : name ≠ []) (indexes : Indexes) :
    addPiece indexes rec = .ok fun kind ↦ upsert (indexes kind) name (entries kind) := by
  have htruthy : (PyValue.str name).truthy = true := by
    cases name with
    | nil => exact absurd rfl hname
    | cons c name => rfl
  refine bind_eq_ok_iff.2 ⟨_, h.named, ?_⟩
  rw [if_pos htruthy, h.entries_eq]
  rfl

/-- The loop fills each index on its own. -/
theorem foldlM_addPiece {records : List PyValue} {nameOf : PyValue → PyStr}
    {entriesOf : PyValue → IndexKind → PyValue}
    (h : ∀ rec ∈ records, Indexable (nameOf rec) rec (entriesOf rec) ∧ nameOf rec ≠ [])
    (indexes : Indexes) : records.foldlM addPiece indexes = .ok fun kind ↦
      records.foldl (fun d rec ↦ upsert d (nameOf rec) (entriesOf rec kind)) (indexes kind) := by
  induction records generalizing indexes with
  | nil => rfl
  | cons rec records ih =>
    obtain ⟨⟨hrec, hname⟩, hrecords⟩ := List.forall_mem_cons.1 h
    rw [List.foldlM_cons, addPiece_eq hrec hname]
    exact ih hrecords _

/-- The slugs are different, and each record names the piece that has its slug. -/
structure RecordsOk (records : Fields) : Prop where
  nodup : (records.map Prod.fst).Nodup
  indexable : ∀ f ∈ records, ∃ name entries, f.1 = shortName name ∧ name ≠ [] ∧
    Indexable name f.2 entries

/-- The content of the index files. -/
def indexFiles (indexes : Indexes) : Fields :=
  IndexKind.all.map fun kind ↦ (kind.file, .dict (indexes kind))

/-- **What is in the indexes**: the entries of each record under the name of its piece. -/
theorem exists_buildIndexes {records : Fields} (h : RecordsOk records) :
    ∃ indexes, buildIndexes records = .ok (indexFiles indexes) ∧
      (∀ kind, Plain (.dict (indexes kind))) ∧ ∀ kind name v,
        (indexes kind).lookup name = some v ↔
          ∃ f ∈ records, ∃ entries, Indexable name f.2 entries ∧ entries kind = v := by
  have hrecs : ∀ rec ∈ bySlug records, ∃ name, ∃ entries, Indexable name rec entries ∧
      name ≠ [] := by
    intro rec hrec
    obtain ⟨f, hf, rfl⟩ := List.mem_map.1 hrec
    obtain ⟨name, entries, -, hname, hindex⟩ := h.indexable f (List.mem_mergeSort.1 hf)
    exact ⟨name, entries, hindex, hname⟩
  choose! nameOf entriesOf hof using hrecs
  have hnodup : ((bySlug records).map nameOf).Nodup := by
    have hslugs : ((records.mergeSort fun a b ↦ PyStr.le a.1 b.1).map Prod.fst).Nodup :=
      (((List.mergeSort_perm _ _).map Prod.fst).nodup_iff).2 h.nodup
    have heq : (records.mergeSort fun a b ↦ PyStr.le a.1 b.1).map Prod.fst =
        ((bySlug records).map nameOf).map shortName := by
      rw [bySlug, List.map_map, List.map_map]
      refine List.map_congr_left fun f hf ↦ ?_
      obtain ⟨name, entries, hslug, -, hindex⟩ := h.indexable f (List.mem_mergeSort.1 hf)
      have hname := ((hof f.2 (List.mem_map_of_mem hf)).1.unique hindex).1
      exact hslug.trans (congrArg shortName hname)
    exact List.Nodup.of_map shortName (heq ▸ hslugs)
  have hlookup : ∀ kind name v, ((bySlug records).foldl (fun d rec ↦
      upsert d (nameOf rec) (entriesOf rec kind)) []).lookup name = some v ↔
        ∃ rec ∈ bySlug records, nameOf rec = name ∧ entriesOf rec kind = v := fun kind name v ↦ by
    rw [lookup_foldl_upsert_iff hnodup, or_iff_left fun hnone ↦ absurd hnone.2 (by simp)]
  refine ⟨fun kind ↦ (bySlug records).foldl (fun d rec ↦
    upsert d (nameOf rec) (entriesOf rec kind)) [], ?_, fun kind ↦ ?_, fun kind name v ↦ ?_⟩
  · rw [buildIndexes, foldlM_addPiece hof]
    rfl
  · refine eq_self_dict fun f hf ↦ ?_
    have hf' := (lookup_eq_some_iff_mem (nodup_keys_foldl_upsert (d := []) List.nodup_nil)).2 hf
    obtain ⟨rec, hrec, -, hv⟩ := (hlookup kind f.1 f.2).1 hf'
    exact ⟨hf', hv ▸ (hof rec hrec).1.plain kind⟩
  · rw [hlookup]
    constructor
    · rintro ⟨rec, hrec, rfl, rfl⟩
      obtain ⟨f, hf, rfl⟩ := List.mem_map.1 hrec
      exact ⟨f, List.mem_mergeSort.1 hf, _, (hof _ hrec).1, rfl⟩
    · rintro ⟨f, hf, entries, hindex, rfl⟩
      have hrec : f.2 ∈ bySlug records := List.mem_map_of_mem (List.mem_mergeSort.2 hf)
      obtain ⟨hname, hentries⟩ := hindex.unique (hof _ hrec).1
      exact ⟨f.2, hrec, hname, congrFun hentries kind⟩

end RegistrySync

end Siyadah
