import SiyadahOrchestrator.FileRegistry.Records
import SiyadahOrchestrator.Foundations.Dialogue

/-!
# Syncing the registry of files

A run of `_sync` fetches the schema of each target. If one of them cannot be fetched it stops there.
Otherwise it writes the records, reads the whole registry back, and rebuilds the indexes from it.
`_validate_existing` checks what is on disk.

A file holds the value that was written to it: that writing JSON and reading it back gives the value
again is assumed. A name with a slash in it leads below `registry/pieces`, where the glob pattern
does not look; where a path with `..` in it leads is not modelled.
-/

namespace Siyadah

namespace RegistrySync

open Dialogue PyValue

/-! ### Files -/

/-- The files of the registry, by their names below `pieces` and below `indexes`. -/
structure Registry where
  pieces : Fields
  indexes : Fields

/-- Nothing has been written yet. -/
def Registry.empty : Registry := ⟨[], []⟩

/-- `f"{slug}.json"`. -/
def fileName (slug : PyStr) : PyStr := slug ++ text ".json"

/-- `*.json` matches the name of a file. -/
def matchesJson (name : PyStr) : Bool := (text ".json").isSuffixOf name && 47 ∉ name

/-- `p.stem` of such a file. -/
def stem (name : PyStr) : PyStr :=
  if name = text ".json" then name else name.take (name.length - (text ".json").length)

/-- `_load_piece_files`. -/
def loadPieceFiles (reg : Registry) : Fields :=
  ((reg.pieces.filter fun f ↦ matchesJson f.1).mergeSort fun a b ↦ PyStr.le a.1 b.1).foldl
    (fun out f ↦ upsert out (stem f.1) f.2) []

/-- The piece files, written one after the other. -/
def Registry.writePieces (reg : Registry) (records : Fields) : Registry :=
  { reg with pieces := records.foldl (fun d f ↦ upsert d (fileName f.1) f.2) reg.pieces }

/-- `_write_indexes`. -/
def Registry.writeIndexes (reg : Registry) (indexes : Fields) : Registry :=
  { reg with indexes := indexes.foldl (fun d f ↦ upsert d f.1 f.2) reg.indexes }

/-! ### Fetching -/

/-- What a run asks of ActivePieces, and the clock. -/
inductive SyncQuery where
  /-- `_resolve_config`. -/
  | config
  | getPiece (name : PyStr) (version : Option PyValue)
  | now

/-- What comes back: an exception, a 404, or a value. -/
inductive SyncReply where
  | raised
  | notFound
  | answered (payload : PyValue)

/-- A program that syncs the registry. -/
abbrev SyncM (α : Type) := Dialogue SyncQuery SyncReply Registry PyError α

/-- A computation under `except Exception`; `none` where it has raised. -/
def attempted {α : Type} (m : SyncM α) : SyncM (Option α) :=
  handle (m >>= fun a ↦ pure (some a)) fun _ ↦ pure none

/-- `_resolve_config`: the base URL. -/
def resolveConfig : SyncM PyStr := do
  match ← ask .config with
  | .answered (.str base) => pure base
  | _ => raise .runtimeError

/-- `_now_iso`. -/
def nowIso : SyncM PyValue := do
  match ← ask .now with
  | .answered (.str t) => pure (.str t)
  | _ => pure .null

/-- `_get_piece`; `none` for a 404. -/
def getPiece (name : PyStr) (version : Option PyValue) : SyncM (Option PyValue) := do
  match ← ask (.getPiece name version) with
  | .raised => raise .runtimeError
  | .notFound => pure none
  | .answered payload => if payload.isDict then pure (some payload) else raise .runtimeError

/-- The second pass of `_fetch_full_schema`, unless the first one gave both dictionaries. -/
def secondPass (name : PyStr) (schema : PyValue) : SyncM PyValue :=
  let ver := (schema.entryD "version").orElse (py "")
  if (schema.entryD "actions").isDict && (schema.entryD "triggers").isDict then pure schema
  else if ver.truthy then do
    let again ← getPiece name (some ver)
    pure (again.getD schema)
  else pure schema

/-- A schema without actions and without triggers is refused. -/
def checkSchema (schema : PyValue) : SyncM PyValue :=
  if !(schema.entryD "actions").isDict && !(schema.entryD "triggers").isDict then
    raise .runtimeError
  else pure schema

/-- `_fetch_full_schema`. -/
def fetchFullSchema (name : PyStr) : SyncM PyValue := do
  let first ← getPiece name none
  match first with
  | none => raise .runtimeError
  | some schema => do
    let schema ← secondPass name schema
    checkSchema schema

/-! ### One run -/

/-- The arguments of a run. -/
structure SyncArgs where
  pieces : PyStr
  dryRun : Bool

/-- `DEFAULT_TARGETS`. -/
def defaultTargets : List PyStr :=
  ["webhook", "google-sheets", "gmail", "slack", "hubspot", "clickup", "airtable",
    "google-calendar", "google-drive", "stripe"].map fun slug ↦ piecePrefix ++ text slug

/-- The names among the arguments. -/
def SyncArgs.targetsRaw (args : SyncArgs) : List PyStr :=
  if args.pieces = [] then defaultTargets
  else (args.pieces.splitOn 44).filter fun t ↦ t.strip ≠ []

/-- The pieces that a run is asked for. -/
def SyncArgs.targets (args : SyncArgs) : List PyStr := args.targetsRaw.map canonicalPieceName

/-- The record of a target whose schema has been fetched. -/
def recordOf (schemaHash : PyValue → PyStr) (base piece : PyStr) (schema : PyValue) :
    SyncM PyValue := do
  let t ← nowIso
  lift (buildPieceRecord schemaHash t schema (base ++ text "/api/v1/pieces/" ++ piece))

/-- The records of the targets by their slugs, and the targets that could not be fetched. -/
def fetchTargets (schemaHash : PyValue → PyStr) (base : PyStr) :
    List PyStr → Fields → List PyStr → SyncM (Fields × List PyStr)
  | [], records, failures => pure (records, failures)
  | piece :: targets, records, failures => do
    let fetched ← attempted (fetchFullSchema piece)
    match fetched with
    | none => fetchTargets schemaHash base targets records (failures ++ [piece])
    | some schema => do
      let record ← recordOf schemaHash base piece schema
      fetchTargets schemaHash base targets (upsert records (shortName piece) record) failures

/-- What a run writes. -/
def writeRegistry (records : Fields) : SyncM Unit := do
  let reg ← getState
  let written := reg.writePieces records
  setState written
  let merged := records.foldl (fun d f ↦ upsert d f.1 f.2) (loadPieceFiles written)
  let indexes ← lift (buildIndexes merged)
  setState (written.writeIndexes indexes)

/-- `_sync`: the exit code. -/
def sync (schemaHash : PyValue → PyStr) (args : SyncArgs) : SyncM ℕ := do
  let base ← attempted resolveConfig
  match base with
  | none => pure 2
  | some base => do
    let fetched ← fetchTargets schemaHash base args.targets [] []
    if fetched.2 ≠ [] then pure 1
    else if args.dryRun then pure 0
    else do
      writeRegistry fetched.1
      pure 0

/-! ### Checking what is on disk -/

/-- The keys that a record must have. -/
def recordKeys : List String :=
  ["pieceName", "version", "actions", "triggers", "auth", "schema_hash", "synced_at",
    "registry_format_version"]

/-- A record has its keys and the current format. -/
def recordOk (rec : PyValue) : Except PyError Bool := do
  let found ← recordKeys.mapM fun key ↦ rec.hasItem (text key)
  let version ← rec.get "registry_format_version"
  pure (found.all id && version.eq (.int registryFormatVersion))

/-- An index is there and is the one that is expected. -/
def indexOk (reg : Registry) (expected : PyStr × PyValue) : Bool :=
  match reg.indexes.lookup expected.1 with
  | some actual => actual.eq expected.2
  | none => false

/-- `_validate_existing`: the exit code. -/
def validateExisting (reg : Registry) (targets : List PyStr) : Except PyError ℕ := do
  let records := loadPieceFiles reg
  if records.isEmpty then pure 1
  else
    let recordsOk ← records.mapM fun r ↦ recordOk r.2
    let present := targets.all fun t ↦
      (records.lookup (shortName (canonicalPieceName t))).isSome
    let expected ← buildIndexes records
    pure (if recordsOk.all id && present && expected.all (indexOk reg) then 0 else 1)

/-! ### Reading back what was written -/

/-- The slug is the name of a file in the directory: it is not empty and has no slash. -/
def FileSlug (slug : PyStr) : Prop := slug ≠ [] ∧ 47 ∉ slug

theorem matchesJson_fileName {slug : PyStr} (h : FileSlug slug) :
    matchesJson (fileName slug) = true := by
  have hslash : 47 ∉ fileName slug := by
    rw [fileName, List.mem_append]
    exact not_or.2 ⟨h.2, by decide⟩
  rw [matchesJson, decide_eq_true hslash, Bool.and_true, List.isSuffixOf_iff_suffix]
  exact List.suffix_append slug _

theorem stem_fileName {slug : PyStr} (h : FileSlug slug) : stem (fileName slug) = slug := by
  have hne : fileName slug ≠ text ".json" := fun heq ↦
    h.1 (List.append_left_eq_self.1 heq)
  rw [stem, if_neg hne, fileName, List.length_append, Nat.add_sub_cancel, List.take_left]

theorem fileName_injective : Function.Injective fileName := fun _ _ h ↦
  List.append_cancel_right h

/-- The files are the records of pieces, under the slugs of these. -/
structure FilesOk (files : Fields) : Prop where
  nodup : (files.map Prod.fst).Nodup
  named : ∀ f ∈ files, ∃ slug, FileSlug slug ∧ f.1 = fileName slug

/-- **What is read back**: the record of each file, under the slug that its name is made of. -/
theorem lookup_loadPieceFiles {reg : Registry} (h : FilesOk reg.pieces) :
    ((loadPieceFiles reg).map Prod.fst).Nodup ∧ ∀ slug rec,
      (loadPieceFiles reg).lookup slug = some rec ↔
        FileSlug slug ∧ reg.pieces.lookup (fileName slug) = some rec := by
  have hall : reg.pieces.filter (fun f ↦ matchesJson f.1) = reg.pieces := by
    refine List.filter_eq_self.2 fun f hf ↦ ?_
    obtain ⟨slug, hslug, hname⟩ := h.named f hf
    rw [hname]
    exact matchesJson_fileName hslug
  have hstems : (((reg.pieces.mergeSort fun a b ↦ PyStr.le a.1 b.1).map fun f ↦
      stem f.1)).Nodup := by
    have hkeys := (((List.mergeSort_perm reg.pieces fun a b ↦ PyStr.le a.1 b.1).map
      Prod.fst).nodup_iff).2 h.nodup
    have heq : (reg.pieces.mergeSort fun a b ↦ PyStr.le a.1 b.1).map Prod.fst =
        ((reg.pieces.mergeSort fun a b ↦ PyStr.le a.1 b.1).map fun f ↦ stem f.1).map fileName := by
      rw [List.map_map]
      refine List.map_congr_left fun f hf ↦ ?_
      obtain ⟨slug, hslug, hname⟩ := h.named f (List.mem_mergeSort.1 hf)
      show f.1 = fileName (stem f.1)
      rw [hname, stem_fileName hslug]
    exact List.Nodup.of_map fileName (heq ▸ hkeys)
  rw [loadPieceFiles, hall]
  refine ⟨nodup_keys_foldl_upsert (d := []) List.nodup_nil, fun slug rec ↦ ?_⟩
  rw [lookup_foldl_upsert_iff hstems, or_iff_left fun hnone ↦ absurd hnone.2 (by simp),
    lookup_eq_some_iff_mem h.nodup]
  constructor
  · rintro ⟨f, hf, hstem, rfl⟩
    have hmem := List.mem_mergeSort.1 hf
    obtain ⟨slug', hslug, hname⟩ := h.named f hmem
    rw [hname, stem_fileName hslug] at hstem
    subst hstem
    exact ⟨hslug, hname ▸ hmem⟩
  · rintro ⟨hslug, hmem⟩
    exact ⟨_, List.mem_mergeSort.2 hmem, stem_fileName hslug, rfl⟩

/-- The files after a write. -/
theorem lookup_writePieces {reg : Registry} {records : Fields}
    (hrecords : (records.map Prod.fst).Nodup) (name : PyStr) (rec : PyValue) :
    (reg.writePieces records).pieces.lookup name = some rec ↔
      (∃ slug, fileName slug = name ∧ (slug, rec) ∈ records) ∨
        (∀ f ∈ records, fileName f.1 ≠ name) ∧ reg.pieces.lookup name = some rec := by
  have hnodup : (records.map fun f ↦ fileName f.1).Nodup := by
    have := hrecords.map fileName_injective
    rwa [List.map_map] at this
  refine (lookup_foldl_upsert_iff hnodup).trans (or_congr ?_ (and_congr_left fun _ ↦ ?_))
  · constructor
    · rintro ⟨f, hf, hname, rfl⟩
      exact ⟨f.1, hname, hf⟩
    · rintro ⟨slug, hname, hf⟩
      exact ⟨_, hf, hname, rfl⟩
  · simp [eq_comm]

theorem FilesOk.writePieces {reg : Registry} {records : Fields} (h : FilesOk reg.pieces)
    (hslugs : ∀ f ∈ records, FileSlug f.1) (hrecords : (records.map Prod.fst).Nodup) :
    FilesOk (reg.writePieces records).pieces := by
  have hnodup : ((reg.writePieces records).pieces.map Prod.fst).Nodup :=
    nodup_keys_foldl_upsert h.nodup
  refine ⟨hnodup, fun f hf ↦ ?_⟩
  rcases (lookup_writePieces hrecords f.1 f.2).1 ((lookup_eq_some_iff_mem hnodup).2 hf) with
    ⟨slug, hname, hmem⟩ | ⟨-, hold⟩
  · exact ⟨slug, hslugs _ hmem, hname.symm⟩
  · exact h.named f ((lookup_eq_some_iff_mem h.nodup).1 hold)

/-- What has been written is read back. -/
theorem lookup_loadPieceFiles_writePieces {reg : Registry} {records : Fields}
    (h : FilesOk reg.pieces) (hslugs : ∀ f ∈ records, FileSlug f.1)
    (hrecords : (records.map Prod.fst).Nodup) (slug : PyStr) (rec : PyValue) :
    (loadPieceFiles (reg.writePieces records)).lookup slug = some rec ↔ (slug, rec) ∈ records ∨
      slug ∉ records.map Prod.fst ∧ (loadPieceFiles reg).lookup slug = some rec := by
  rw [(lookup_loadPieceFiles (h.writePieces hslugs hrecords)).2, (lookup_loadPieceFiles h).2,
    lookup_writePieces hrecords]
  constructor
  · rintro ⟨hslug, ⟨slug', hname, hmem⟩ | ⟨hnot, hold⟩⟩
    · obtain rfl := fileName_injective hname
      exact .inl hmem
    · refine .inr ⟨fun hmem ↦ ?_, hslug, hold⟩
      obtain ⟨f, hf, rfl⟩ := List.mem_map.1 hmem
      exact hnot f hf rfl
  · rintro (hmem | ⟨hnot, hslug, hold⟩)
    · exact ⟨hslugs _ hmem, .inl ⟨slug, rfl, hmem⟩⟩
    · refine ⟨hslug, .inr ⟨fun f hf hname ↦ ?_, hold⟩⟩
      exact hnot (fileName_injective hname ▸ List.mem_map_of_mem hf)

end RegistrySync

end Siyadah
