import SiyadahOrchestrator.Flows.GoldenBuild

/-!
# Harvesting the pieces

`sync_pieces` fills the table `piece_registry` from ActivePieces. It lists the pieces, leaves out
those that are fresh, and fetches the others in batches; the tasks of a batch run concurrently. A
task fetches the schema of its piece, once more with the version if the first answer has nothing but
counts, and writes a row. Before a task ends it is counted, under one of four counters.

A task is modelled with its own requests, `syncOne`; the counter it increments is what it returns.
-/

namespace Siyadah

open Dialogue PyValue

/-! ### Rows -/

/-- A row for the table. -/
structure HarvestRow where
  name : PyValue
  pieceVersion : PyValue
  displayName : PyValue
  description : PyValue
  logoUrl : PyValue
  categories : PyValue
  authType : PyValue
  fullSchema : PyValue
  actionsIndex : PyValue
  triggersIndex : PyValue

/-- The items of a dictionary that are dictionaries. -/
def dictItems : PyValue → List (PyStr × PyValue)
  | .dict fields => fields.filter (·.2.isDict)
  | _ => []

/-- What the index says about an action or a trigger. -/
def indexEntry (body : PyValue) : PyValue :=
  let props := (body.entryD "props").orElse ((body.entryD "properties").orElse (.dict []))
  pyDict [
    ("required_props", .list (((dictItems props).filter (·.2.entryD "required" |>.truthy)).map
      fun p ↦ .str p.1)),
    ("prop_types", .dict ((dictItems props).map fun p ↦ (p.1, (p.2.entry "type").getD (py ""))))]

/-- `_build_index`. -/
def buildIndex (bucket : PyValue) : PyValue :=
  .dict ((dictItems bucket).map fun f ↦ (f.1, indexEntry f.2))

/-- `_extract_auth_type`. -/
def extractAuthType (auth : PyValue) : PyValue :=
  match auth with
  | .dict _ => (auth.entryD "type").orElse .null
  | .list entries => ((entries.find? fun entry ↦ (entry.entryD "type").truthy).map
      fun entry ↦ entry.entryD "type").getD .null
  | _ => .null

/-- `_row_from_schema`. -/
def rowFromSchema (schema : PyValue) : Except PyError HarvestRow := do
  let name ← schema.getD "name" (py "")
  let pieceVersion ← schema.getD "version" (py "")
  pure {
    name, pieceVersion
    displayName := (schema.entryD "displayName").orElse (schema.entryD "name")
    description := schema.entryD "description"
    logoUrl := schema.entryD "logoUrl"
    categories := (schema.entryD "categories").orElse (.list [])
    authType := extractAuthType (schema.entryD "auth")
    fullSchema := schema
    actionsIndex := buildIndex (schema.entryD "actions")
    triggersIndex := buildIndex (schema.entryD "triggers") }

/-- Only what is no dictionary makes no row. -/
theorem rowFromSchema_of_isDict {schema : PyValue} (h : schema.isDict = true) :
    ∃ row, rowFromSchema schema = .ok row := by
  rw [rowFromSchema, getD_of_isDict h, getD_of_isDict h]
  exact ⟨_, rfl⟩

theorem rowFromSchema_of_not_isDict {schema : PyValue} (h : schema.isDict = false) :
    rowFromSchema schema = .error .attributeError := by
  cases schema with
  | dict fields => exact absurd h (by simp [isDict])
  | _ => rfl

/-- There is nothing in the row but what a count would give. -/
def HarvestRow.isBare (row : HarvestRow) : Bool :=
  !row.actionsIndex.truthy && !row.triggersIndex.truthy

/-! ### One piece -/

/-- The counters. -/
inductive Counter where
  | upserted
  | wouldUpsert
  | skipped
  | failed
deriving DecidableEq

/-- A request of a task. -/
inductive HarvestQuery where
  /-- `_get_piece`, with the version if there is one. The reply is `None` for a 404. -/
  | getPiece (name : PyStr) (version : Option PyValue)
  /-- `INSERT ... ON CONFLICT (name, piece_version) DO UPDATE`, and the commit. -/
  | upsert (row : HarvestRow)

/-- What comes of a request. -/
abbrev HarvestReply := Except EngineError PyValue

/-- A task. -/
abbrev HarvestM (α : Type) := Dialogue HarvestQuery HarvestReply Unit EngineError α

/-- The fetch with the version, which is not caught. -/
def refetch (name : PyStr) (row : HarvestRow) : HarvestM HarvestRow := do
  match ← ask (.getPiece name (some row.pieceVersion)) with
  | .error e => raise e
  | .ok schema => if schema.truthy then lift ((rowFromSchema schema).mapError .py) else pure row

/-- The row that a schema gives in the end. -/
def harvestRow (name : PyStr) (schema : PyValue) : HarvestM HarvestRow := do
  let row ← lift ((rowFromSchema schema).mapError .py)
  if row.isBare && row.pieceVersion.truthy then refetch name row else pure row

/-- `_sync_one`: the counter that is incremented. -/
def syncOne (dryRun : Bool) (name : PyStr) : HarvestM Counter := do
  match ← ask (.getPiece name none) with
  | .error _ => pure .failed
  | .ok schema =>
    if !schema.truthy then pure .failed
    else
      let row ← harvestRow name schema
      if !row.name.truthy || !row.pieceVersion.truthy then pure .failed
      else if dryRun then pure .wouldUpsert
      else
        match ← ask (.upsert row) with
        | .error e => raise e
        | .ok _ => pure .upserted

/-! ### All pieces -/

/-- The options of a run. -/
structure SyncArgs where
  full : Bool
  /-- The one piece to sync, or the empty name. -/
  piece : PyStr
  dryRun : Bool

/-- A piece in a version. -/
abbrev PieceKey := PyStr × PyStr

/-- `BATCH_SIZE`. -/
def batchSize : ℕ := 50

/-- The targets of a run, from the names and versions that ActivePieces lists. These are taken to be
strings; the source passes on whatever stands under `name` and `version`. -/
def targetsOf (args : SyncArgs) (listed : List PieceKey) : List PieceKey :=
  if args.piece ≠ [] then [(args.piece, [])] else listed.filter (·.1 ≠ [])

/-- The pairs that the run leaves out, of those that the table calls fresh. -/
def freshFor (args : SyncArgs) (fresh : List PieceKey) : List PieceKey :=
  if !args.full && args.piece = [] then fresh else []

/-- The run goes to work on the target. -/
def isWork (args : SyncArgs) (fresh : List PieceKey) (target : PieceKey) : Bool :=
  target ∉ freshFor args fresh ∧ target.1 ≠ []

/-- `for i in range(0, len(l), n): l[i:i + n]`. -/
def batches {α : Type} (n : ℕ) (l : List α) : List (List α) :=
  if _h : 0 < n ∧ l ≠ [] then l.take n :: batches n (l.drop n) else []
termination_by l.length
decreasing_by
  have := List.length_pos_of_ne_nil _h.2
  rw [List.length_drop]
  omega

/-- The batches hold what the list holds, in its order. -/
theorem flatten_batches {α : Type} {n : ℕ} (hn : 0 < n) (l : List α) :
    (batches n l).flatten = l := by
  induction hlen : l.length using Nat.strong_induction_on generalizing l with
  | _ k ih =>
    rw [batches]
    by_cases h : l = []
    · rw [dif_neg fun hboth ↦ hboth.2 h, h, List.flatten_nil]
    · have hpos := List.length_pos_of_ne_nil h
      have hdrop : (l.drop n).length < k := by
        rw [List.length_drop]
        omega
      rw [dif_pos ⟨hn, h⟩, List.flatten_cons, ih _ hdrop _ rfl, List.take_append_drop]

end Siyadah
