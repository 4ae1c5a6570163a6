import SiyadahOrchestrator.PieceVault.Harvest
import SiyadahOrchestrator.Vault.Token

/-!
# The table of the pieces

`piece_registry` has a row for each version of a piece. Two scripts write it: `sync_pieces` with
`INSERT ... ON CONFLICT DO UPDATE`, `compute_dahae_scores` with `UPDATE ... WHERE name = ...`.

The column `last_synced` is declared with `server_default=func.now()` and `onupdate=func.now()`. The
first takes effect when a row is inserted. The second is added by SQLAlchemy to `UPDATE` statements,
but not to the `DO UPDATE` of an upsert, which sets the columns of its `set_` and nothing else.
-/

namespace Siyadah

/-- What a scoring run writes into a row. -/
structure PieceScores where
  dahaeScore : ℤ
  lazinessScore : ℤ
  effectiveDahae : ℤ
  breakdown : PyValue

/-- A row of `piece_registry`. -/
structure StoredPiece where
  name : PyStr
  pieceVersion : PyStr
  /-- The columns that a sync writes. -/
  columns : HarvestRow
  /-- The columns that a scoring run writes; they are `NULL` at first. -/
  scores : Option PieceScores
  lastSynced : Time

/-- The primary key. -/
def StoredPiece.key (r : StoredPiece) : PieceKey := (r.name, r.pieceVersion)

/-- There is no unique constraint beside the primary key. -/
def StoredPiece.noConstraint (_ : StoredPiece) : Option Unit := none

/-- `piece_registry`. -/
abbrev PieceTable := KeyedTable StoredPiece.key StoredPiece.noConstraint

namespace PieceTable

variable (t : PieceTable)

/-- `DO UPDATE`, with the columns of the row that was not inserted. -/
def syncColumns (columns : HarvestRow) (r : StoredPiece) : StoredPiece := { r with columns }

theorem key_syncColumns (columns : HarvestRow) (r : StoredPiece) :
    (syncColumns columns r).key = r.key := rfl

theorem noConstraint_eq (f : StoredPiece → StoredPiece) (r : StoredPiece) :
    (f r).noConstraint = r.noConstraint := rfl

/-- `INSERT ... ON CONFLICT (name, piece_version) DO UPDATE`. -/
def upsert (now : Time) (key : PieceKey) (columns : HarvestRow) : PieceTable :=
  if h : t.find? key = none then
    { rows := t.rows ++ [⟨key.1, key.2, columns, none, now⟩]
      nodup_key := by
        rw [List.map_append, List.nodup_append]
        refine ⟨t.nodup_key, List.nodup_singleton _, ?_⟩
        intro k hk k' hk' heq
        obtain ⟨r, hr, rfl⟩ := List.mem_map.1 hk
        rw [List.mem_singleton.1 hk'] at heq
        exact KeyedTable.find?_eq_none_iff.1 h r hr heq
      nodup_uniq := by
        have hnone : (t.rows ++ [(⟨key.1, key.2, columns, none, now⟩ : StoredPiece)]).filterMap
            StoredPiece.noConstraint = [] := List.filterMap_eq_nil_iff.2 fun _ _ ↦ rfl
        rw [hnone]
        exact List.nodup_nil }
  else t.modifyKey key (syncColumns columns) (key_syncColumns columns) (noConstraint_eq _)

/-- The columns that an update of the scores sets, `onupdate` among them. -/
def setScores (now : Time) (scores : PieceScores) (r : StoredPiece) : StoredPiece :=
  { r with scores := some scores, lastSynced := now }

theorem key_setScores (now : Time) (scores : PieceScores) (r : StoredPiece) :
    (setScores now scores r).key = r.key := rfl

/-- `UPDATE piece_registry SET ... WHERE name = ...`. -/
def updateScores (now : Time) (name : PyStr) (scores : PieceScores) : PieceTable :=
  t.modify (fun r ↦ r.name = name) (setScores now scores) (key_setScores now scores)
    (noConstraint_eq _)

/-- The loop that writes the scores back, in one transaction. -/
def writeBack (now : Time) (results : List (PyStr × PieceScores)) : PieceTable :=
  results.foldl (fun t result ↦ updateScores t now result.1 result.2) t

variable {t} {now : Time} {key key' : PieceKey} {columns : HarvestRow}
  {results : List (PyStr × PieceScores)}

/-! ### Rows after a statement -/

theorem find?_upsert_of_none (h : t.find? key = none) :
    (t.upsert now key columns).find? key' =
      if key' = key then some ⟨key.1, key.2, columns, none, now⟩ else t.find? key' := by
  have hinsert : t.insert ⟨key.1, key.2, columns, none, now⟩ = some (t.upsert now key columns) := by
    rw [KeyedTable.insert, KeyedTable.ofRows?_eq_some_iff, upsert, dif_pos h]
  exact KeyedTable.find?_insert hinsert key'

theorem find?_upsert_of_some {r : StoredPiece} (h : t.find? key = some r) :
    (t.upsert now key columns).find? key' =
      if key' = key then some (syncColumns columns r) else t.find? key' := by
  have hsome : ¬ t.find? key = none := by
    rw [h]
    exact Option.some_ne_none r
  rw [upsert, dif_neg hsome, KeyedTable.find?_modifyKey]
  split
  · next hkey => rw [hkey, h, Option.map_some]
  · rfl

/-- The result that is written last for a name. -/
def lastResult (results : List (PyStr × PieceScores)) (name : PyStr) : Option PieceScores :=
  (results.reverse.find? fun result ↦ result.1 = name).map Prod.snd

theorem lastResult_concat (results : List (PyStr × PieceScores)) (result : PyStr × PieceScores)
    (name : PyStr) : lastResult (results ++ [result]) name =
      if result.1 = name then some result.2 else lastResult results name := by
  rw [lastResult, List.reverse_append, List.reverse_singleton, List.singleton_append,
    List.find?_cons]
  by_cases h : result.1 = name
  · rw [decide_eq_true h, if_pos h]
    rfl
  · rw [decide_eq_false h, if_neg h]
    rfl

theorem lastResult_eq_none_iff {results : List (PyStr × PieceScores)} {name : PyStr} :
    lastResult results name = none ↔ name ∉ results.map Prod.fst := by
  rw [lastResult, Option.map_eq_none_iff, List.find?_eq_none]
  simp only [List.mem_reverse, decide_eq_true_eq, List.mem_map, not_exists, not_and]

/-- The row with the scores, if there are any. -/
def withScores (now : Time) (scores : Option PieceScores) (r : StoredPiece) : StoredPiece :=
  scores.elim r fun scores ↦ setScores now scores r

/-- **A write-back** leaves in every row of a name the last result for the name. -/
theorem find?_writeBack (t : PieceTable) (results : List (PyStr × PieceScores)) (key : PieceKey) :
    (t.writeBack now results).find? key =
      (t.find? key).map (withScores now (lastResult results key.1)) := by
  induction results using List.reverseRecOn with
  | nil => exact Option.map_id'.symm
  | append_singleton results result ih =>
    have hname : ∀ r, t.find? key = some r → r.name = key.1 := fun r hr ↦
      congrArg Prod.fst (KeyedTable.key_of_find? hr)
    have hstep : t.writeBack now (results ++ [result]) =
        (t.writeBack now results).updateScores now result.1 result.2 := by
      rw [writeBack, List.foldl_concat]
      rfl
    rw [hstep, updateScores, KeyedTable.find?_modify, ih, lastResult_concat]
    cases hr : t.find? key with
    | none => rfl
    | some r =>
      have hkept : (withScores now (lastResult results key.1) r).name = key.1 := by
        rw [← hname r hr]
        cases lastResult results r.name <;> rfl
      rw [Option.map_some, Option.map_some, Option.map_some, hkept]
      by_cases h : result.1 = key.1
      · rw [if_pos (decide_eq_true h.symm), if_pos h]
        cases lastResult results key.1 <;> rfl
      · rw [if_neg fun hd ↦ h (of_decide_eq_true hd).symm, if_neg h]

end PieceTable

end Siyadah
