import SiyadahOrchestrator.Foundations.Gather
import SiyadahOrchestrator.PieceVault.Harvest

/-!
# Every target is counted

A run of `sync_pieces` counts the targets that it skips, and each of its tasks counts itself. The
first fetch of a task is guarded: a piece that cannot be fetched is counted as failed. The second
fetch is not, nor is the write, so an exception there ends the run, with the other targets of the
batch in the middle of their work and the later ones not begun.

`isolatesFailures_iff` says that nothing else goes wrong.
-/

namespace Siyadah

open Dialogue PyValue

/-! ### What a task ends with -/

section Task

variable {name : PyStr} {answer : HarvestQuery → HarvestReply} {schema : PyValue}
  {row : HarvestRow}

theorem stateless_refetch (name : PyStr) (row : HarvestRow) : Stateless (refetch name row) := by
  refine .ask_bind fun r ↦ ?_
  cases r with
  | error e => exact stateless_raise e
  | ok schema =>
    show Stateless (if schema.truthy then _ else _)
    split
    · exact stateless_lift _
    · exact stateless_pure _

theorem stateless_harvestRow (name : PyStr) (schema : PyValue) :
    Stateless (harvestRow name schema) := by
  refine .bind (stateless_lift _) fun row ↦ ?_
  split
  · exact stateless_refetch name row
  · exact stateless_pure _

/-- The task asks once more, for the version that the first answer names. -/
def Refetches (row : HarvestRow) : Prop := row.isBare = true ∧ row.pieceVersion.truthy = true

/-- The row that a task has in the end. -/
inductive FinalRow (answer : HarvestQuery → HarvestReply) (name : PyStr) (schema : PyValue)
    (row : HarvestRow) : Prop
  | first (hrow : rowFromSchema schema = .ok row) (honce : ¬ Refetches row)
  | missing (hrow : rowFromSchema schema = .ok row) (hagain : Refetches row) {schema' : PyValue}
      (hreply : answer (.getPiece name (some row.pieceVersion)) = .ok schema')
      (hfalsy : schema'.truthy = false)
  | second {bare : HarvestRow} (hbare : rowFromSchema schema = .ok bare) (hagain : Refetches bare)
      {schema' : PyValue} (hreply : answer (.getPiece name (some bare.pieceVersion)) = .ok schema')
      (htruthy : schema'.truthy = true) (hrow : rowFromSchema schema' = .ok row)

/-- What goes wrong between the first fetch and the write. -/
inductive RowEscapes (answer : HarvestQuery → HarvestReply) (name : PyStr) (schema : PyValue) : Prop
  /-- The first answer is no schema. -/
  | first (hdict : schema.isDict = false)
  /-- The second fetch fails. -/
  | fetch {bare : HarvestRow} (hbare : rowFromSchema schema = .ok bare) (hagain : Refetches bare)
      {e : EngineError} (hreply : answer (.getPiece name (some bare.pieceVersion)) = .error e)
  /-- The second answer is no schema. -/
  | second {bare : HarvestRow} (hbare : rowFromSchema schema = .ok bare) (hagain : Refetches bare)
      {schema' : PyValue} (hreply : answer (.getPiece name (some bare.pieceVersion)) = .ok schema')
      (htruthy : schema'.truthy = true) (hdict : schema'.isDict = false)

/-- What a task raises. -/
inductive Escapes (dryRun : Bool) (name : PyStr) (answer : HarvestQuery → HarvestReply) : Prop
  | row {schema : PyValue} (hreply : answer (.getPiece name none) = .ok schema)
      (htruthy : schema.truthy = true) (hrow : RowEscapes answer name schema)
  /-- The write fails. -/
  | write {schema : PyValue} (hreply : answer (.getPiece name none) = .ok schema)
      (htruthy : schema.truthy = true) {row : HarvestRow} (hrow : FinalRow answer name schema row)
      (hname : row.name.truthy = true) (hversion : row.pieceVersion.truthy = true)
      (hdry : dryRun = false) {e : EngineError} (hwrite : answer (.upsert row) = .error e)

theorem against_harvestRow_of_ok (h : rowFromSchema schema = .ok row) :
    (harvestRow name schema).against answer () =
      if row.isBare && row.pieceVersion.truthy then (refetch name row).against answer ()
      else .ok row := by
  rw [harvestRow, against_lift_bind, h]
  show Dialogue.against (if row.isBare && row.pieceVersion.truthy then refetch name row
    else pure row) answer () = _
  split <;> rfl

theorem against_harvestRow_of_refetches (h : rowFromSchema schema = .ok row)
    (hagain : Refetches row) :
    (harvestRow name schema).against answer () = (refetch name row).against answer () := by
  rw [against_harvestRow_of_ok h, if_pos (Bool.and_eq_true_iff.2 hagain)]

theorem against_refetch_of_ok {schema' : PyValue}
    (hreply : answer (.getPiece name (some row.pieceVersion)) = .ok schema') :
    (refetch name row).against answer () =
      if schema'.truthy then (rowFromSchema schema').mapError EngineError.py else .ok row := by
  rw [refetch, against_ask_bind, hreply]
  show Dialogue.against (if schema'.truthy then
    lift ((rowFromSchema schema').mapError EngineError.py) else pure row) answer () = _
  split <;> rfl

/-- The row is what the requests come to. -/
theorem FinalRow.against_eq (h : FinalRow answer name schema row) :
    (harvestRow name schema).against answer () = .ok row := by
  cases h with
  | first hrow honce =>
    rw [against_harvestRow_of_ok hrow, if_neg fun h ↦ honce (Bool.and_eq_true_iff.1 h)]
  | missing hrow hagain hreply hfalsy =>
    rw [against_harvestRow_of_refetches hrow hagain, against_refetch_of_ok hreply, hfalsy]
    rfl
  | second hbare hagain hreply htruthy hrow =>
    rw [against_harvestRow_of_refetches hbare hagain, against_refetch_of_ok hreply, htruthy,
      if_pos rfl, hrow]
    rfl

/-- What goes wrong is raised. -/
theorem RowEscapes.against_eq (h : RowEscapes answer name schema) :
    ∃ e, (harvestRow name schema).against answer () = .error e := by
  cases h with
  | first hdict =>
    rw [harvestRow, against_lift_bind, rowFromSchema_of_not_isDict hdict]
    exact ⟨_, rfl⟩
  | fetch hbare hagain hreply =>
    rw [against_harvestRow_of_refetches hbare hagain, refetch, against_ask_bind, hreply]
    exact ⟨_, rfl⟩
  | second hbare hagain hreply htruthy hdict =>
    rw [against_harvestRow_of_refetches hbare hagain, against_refetch_of_ok hreply, htruthy,
      if_pos rfl, rowFromSchema_of_not_isDict hdict]
    exact ⟨_, rfl⟩

/-- There is a row, or something goes wrong. -/
theorem finalRow_or_rowEscapes (answer : HarvestQuery → HarvestReply) (name : PyStr)
    (schema : PyValue) :
    (∃ row, FinalRow answer name schema row) ∨ RowEscapes answer name schema := by
  rcases hdict : schema.isDict with _ | _
  · exact .inr (.first hdict)
  obtain ⟨row, hrow⟩ := rowFromSchema_of_isDict hdict
  by_cases hagain : Refetches row
  · rcases hreply : answer (.getPiece name (some row.pieceVersion)) with e | schema'
    · exact .inr (.fetch hrow hagain hreply)
    rcases htruthy : schema'.truthy with _ | _
    · exact .inl ⟨row, .missing hrow hagain hreply htruthy⟩
    rcases hdict' : schema'.isDict with _ | _
    · exact .inr (.second hrow hagain hreply htruthy hdict')
    · obtain ⟨row', hrow'⟩ := rowFromSchema_of_isDict hdict'
      exact .inl ⟨row', .second hrow hagain hreply htruthy hrow'⟩
  · exact .inl ⟨row, .first hrow hagain⟩

/-- What a task does with its row. -/
def finishRow (dryRun : Bool) (answer : HarvestQuery → HarvestReply) (row : HarvestRow) :
    Except EngineError Counter :=
  if !row.name.truthy || !row.pieceVersion.truthy then .ok .failed
  else if dryRun then .ok .wouldUpsert
  else (answer (.upsert row)).map fun _ ↦ .upserted

theorem against_syncOne_of_finalRow {dryRun : Bool}
    (hreply : answer (.getPiece name none) = .ok schema) (htruthy : schema.truthy = true)
    (hrow : FinalRow answer name schema row) :
    (syncOne dryRun name).against answer () = finishRow dryRun answer row := by
  rw [syncOne, against_ask_bind, hreply]
  simp only [htruthy, Bool.not_true, Bool.false_eq_true, if_false]
  rw [against_bind (stateless_harvestRow name schema), hrow.against_eq]
  show Dialogue.against (if !row.name.truthy || !row.pieceVersion.truthy then pure Counter.failed
    else if dryRun then pure Counter.wouldUpsert else _) answer () = _
  rw [finishRow]
  split
  · rfl
  split
  · rfl
  rw [against_ask_bind]
  cases answer (.upsert row) <;> rfl

theorem finishRow_eq_error_iff {dryRun : Bool} {e : EngineError} :
    finishRow dryRun answer row = .error e ↔ row.name.truthy = true ∧
      row.pieceVersion.truthy = true ∧ dryRun = false ∧ answer (.upsert row) = .error e := by
  rw [finishRow]
  cases row.name.truthy <;> cases row.pieceVersion.truthy <;> cases dryRun <;>
    cases answer (.upsert row) <;> simp [Except.map]

/-- **A task raises** exactly when something goes wrong outside its guard. -/
theorem exists_error_iff {dryRun : Bool} :
    (∃ e, (syncOne dryRun name).against answer () = .error e) ↔ Escapes dryRun name answer := by
  rcases hreply : answer (.getPiece name none) with e | schema
  · refine iff_of_false ?_ fun h ↦ ?_
    · rw [syncOne, against_ask_bind, hreply]
      rintro ⟨e, he⟩
      cases he
    · cases h with
      | row hok | write hok =>
        rw [hreply] at hok
        cases hok
  rcases htruthy : schema.truthy with _ | _
  · refine iff_of_false ?_ fun h ↦ ?_
    · rw [syncOne, against_ask_bind, hreply]
      simp [htruthy]
    · cases h with
      | row hok htruthy' | write hok htruthy' =>
        obtain rfl := Except.ok.inj (hreply.symm.trans hok)
        exact Bool.false_ne_true (htruthy.symm.trans htruthy')
  rcases finalRow_or_rowEscapes answer name schema with ⟨row, hrow⟩ | hescape
  · simp only [against_syncOne_of_finalRow hreply htruthy hrow, finishRow_eq_error_iff]
    constructor
    · rintro ⟨e, hname, hversion, hdry, hwrite⟩
      exact .write hreply htruthy hrow hname hversion hdry hwrite
    · intro h
      cases h with
      | row hok _ hescape =>
        obtain rfl := Except.ok.inj (hreply.symm.trans hok)
        obtain ⟨e, he⟩ := hescape.against_eq
        rw [hrow.against_eq] at he
        cases he
      | write hok _ hrow' hname hversion hdry hwrite =>
        obtain rfl := Except.ok.inj (hreply.symm.trans hok)
        obtain rfl := Except.ok.inj (hrow.against_eq.symm.trans hrow'.against_eq)
        exact ⟨_, hname, hversion, hdry, hwrite⟩
  · refine iff_of_true ?_ (.row hreply htruthy hescape)
    obtain ⟨e, he⟩ := hescape.against_eq
    rw [syncOne, against_ask_bind, hreply]
    simp only [htruthy, Bool.not_true, Bool.false_eq_true, if_false]
    rw [against_bind (stateless_harvestRow name schema), he]
    exact ⟨e, rfl⟩

end Task

/-! ### A run -/

/-- A target, and what its task is answered. -/
structure Target where
  key : PieceKey
  answer : HarvestQuery → HarvestReply

/-- A run: its options, the listed pieces and the fresh ones, and the targets. -/
structure Harvest where
  args : SyncArgs
  listed : List PieceKey
  fresh : List PieceKey
  targets : List Target
  targets_eq : targets.map Target.key = targetsOf args listed

namespace Harvest

variable (h : Harvest)

/-- The run goes to work on the target. -/
def worksOn (t : Target) : Bool := isWork h.args h.fresh t.key

/-- The targets to work on. -/
def work : List Target := h.targets.filter h.worksOn

/-- The task of a target. -/
def job (t : Target) : Job HarvestQuery HarvestReply EngineError Counter :=
  ⟨syncOne h.args.dryRun t.key.1, t.answer⟩

/-- The counters when the work begins. -/
def begin : Tally Counter := fun c ↦
  if c = .skipped then h.targets.length - h.work.length else 0

/-- What the run ends with, under some schedule of its tasks. -/
def EndsWith (r : Except EngineError (Tally Counter)) : Prop :=
  Batched h.begin (batches batchSize (h.work.map h.job)) r

/-- The target is counted there. -/
def countedUnder (c : Counter) (t : Target) : Bool :=
  if h.worksOn t then (h.job t).endsUnder c else c = .skipped

/-- **Failures are isolated**: however its tasks are scheduled, a run comes to its end, with each
target counted once, under what becomes of it on its own. -/
def IsolatesFailures : Prop :=
  ∀ r, h.EndsWith r → ∃ stats, r = .ok stats ∧
    (∀ t ∈ h.targets, ∃! c, h.countedUnder c t = true) ∧
    (∀ c, stats c = h.targets.countP (h.countedUnder c)) ∧
    stats .upserted + stats .wouldUpsert + stats .skipped + stats .failed = h.targets.length

end Harvest

/-- If everything is counted once, the counters add up to all of it. -/
theorem sum_countP_eq_length {α : Type} (p : Counter → α → Bool) (l : List α)
    (h : ∀ a ∈ l, ∃! c, p c a = true) :
    l.countP (p .upserted) + l.countP (p .wouldUpsert) + l.countP (p .skipped) +
      l.countP (p .failed) = l.length := by
  induction l with
  | nil => rfl
  | cons a l ih =>
    obtain ⟨c, hc, hunique⟩ := h a List.mem_cons_self
    have hcount : ∀ d, (if p d a = true then 1 else 0) = if d = c then 1 else 0 := by
      intro d
      by_cases hd : d = c
      · rw [hd, if_pos hc, if_pos rfl]
      · rw [if_neg fun htrue ↦ hd (hunique d htrue), if_neg hd]
    have hrest := ih fun b hb ↦ h b (List.mem_cons_of_mem a hb)
    simp only [List.countP_cons, List.length_cons, hcount]
    cases c <;> simp only [reduceCtorEq, if_true, if_false] <;> omega

namespace Harvest

variable {h : Harvest} {t : Target} {c : Counter}

theorem flatten_jobs (h : Harvest) :
    (batches batchSize (h.work.map h.job)).flatten = h.work.map h.job :=
  flatten_batches (by decide) _

theorem exists_endsWith (h : Harvest) : ∃ r, h.EndsWith r := exists_batched _ _

/-- The work is counted among the targets. -/
theorem countP_targets (h : Harvest) (c : Counter) :
    h.targets.countP (h.countedUnder c) =
      (if c = .skipped then h.targets.length - h.work.length else 0) +
        (h.work.map h.job).countP (Job.endsUnder c) := by
  have hwork : h.work.countP (h.countedUnder c) = (h.work.map h.job).countP (Job.endsUnder c) := by
    rw [List.countP_map]
    refine List.countP_congr fun t ht ↦ ?_
    rw [countedUnder, if_pos (List.mem_filter.1 ht).2]
    rfl
  have hrest : (h.targets.filter fun t ↦ !h.worksOn t).countP (h.countedUnder c) =
      if c = .skipped then h.targets.length - h.work.length else 0 := by
    have hconst : ∀ t ∈ h.targets.filter fun t ↦ !h.worksOn t,
        h.countedUnder c t = decide (c = .skipped) := by
      intro t ht
      rw [countedUnder, if_neg fun hw ↦ by simp [hw] at ht]
    have hlength : (h.targets.filter fun t ↦ !h.worksOn t).length =
        h.targets.length - h.work.length := by
      have hsplit := List.length_eq_length_filter_add (l := h.targets) h.worksOn
      rw [work]
      omega
    split
    · next hc =>
      rw [← hlength, List.countP_eq_length]
      exact fun t ht ↦ (hconst t ht).trans (decide_eq_true hc)
    · next hc =>
      rw [List.countP_eq_zero]
      exact fun t ht htrue ↦ hc (of_decide_eq_true ((hconst t ht).symm.trans htrue))
  rw [List.countP_eq_countP_filter_add _ _ h.worksOn, hrest, Nat.add_comm]
  exact congrArg _ hwork

/-- A target is counted once, if no task raises. -/
theorem existsUnique_counted
    (hnone : ∀ t ∈ h.work, ¬ Escapes h.args.dryRun t.key.1 t.answer) (ht : t ∈ h.targets) :
    ∃! c, h.countedUnder c t = true := by
  simp only [countedUnder]
  by_cases hwork : h.worksOn t = true
  · simp only [if_pos hwork]
    have hescape := hnone t (List.mem_filter.2 ⟨ht, hwork⟩)
    rcases houtcome : (h.job t).outcome with e | c
    · exact absurd (exists_error_iff.1 ⟨e, houtcome⟩) hescape
    · refine ⟨c, ?_, fun d hd ↦ ?_⟩
      · show isOutcome c (h.job t).outcome = true
        rw [houtcome]
        exact decide_eq_true rfl
      · have hd' : isOutcome d (h.job t).outcome = true := hd
        rw [houtcome] at hd'
        exact (of_decide_eq_true hd').symm
  · simp only [if_neg hwork]
    exact ⟨.skipped, decide_eq_true rfl, fun d hd ↦ of_decide_eq_true hd⟩

/-- **One failure breaks the run.** -/
theorem not_isolatesFailures (ht : t ∈ h.work) (hescape : Escapes h.args.dryRun t.key.1 t.answer) :
    ¬ h.IsolatesFailures := by
  intro hall
  obtain ⟨r, hr⟩ := h.exists_endsWith
  obtain ⟨stats, rfl, -⟩ := hall r hr
  obtain ⟨hok, -⟩ := Batched.ok hr
  rw [flatten_jobs] at hok
  obtain ⟨c, hc⟩ := hok _ (List.mem_map_of_mem ht)
  obtain ⟨e, he⟩ := exists_error_iff.2 hescape
  cases hc.symm.trans he

/-- **Failures are isolated** exactly when no task raises. -/
theorem isolatesFailures_iff (h : Harvest) :
    h.IsolatesFailures ↔ ∀ t ∈ h.work, ¬ Escapes h.args.dryRun t.key.1 t.answer := by
  refine ⟨fun hall t ht hescape ↦ not_isolatesFailures ht hescape hall, fun hnone r hr ↦ ?_⟩
  have hunique : ∀ t ∈ h.targets, ∃! c, h.countedUnder c t = true :=
    fun t ht ↦ existsUnique_counted hnone ht
  cases r with
  | error e =>
    obtain ⟨j, hj, he⟩ := Batched.error hr
    rw [flatten_jobs] at hj
    obtain ⟨t, ht, rfl⟩ := List.mem_map.1 hj
    exact absurd (exists_error_iff.1 ⟨e, he⟩) (hnone t ht)
  | ok stats =>
    have hstats : ∀ c, stats c = h.targets.countP (h.countedUnder c) := by
      intro c
      rw [(Batched.ok hr).2 c, flatten_jobs, countP_targets]
      rfl
    refine ⟨stats, rfl, hunique, hstats, ?_⟩
    simp only [hstats]
    exact sum_countP_eq_length h.countedUnder h.targets hunique

/-- The schema of a big piece: its actions are a number. -/
def countOnlySchema : PyValue :=
  pyDict [("name", py "sheets"), ("version", py "0.9"), ("actions", .int 7)]

/-- ActivePieces has nothing but counts at first, and then does not answer in time. -/
def countOnlyReplies : HarvestQuery → HarvestReply
  | .getPiece _ (some _) => .error (.client .timeout)
  | _ => .ok countOnlySchema

/-- A run over two pieces, of which the second one is not found. -/
def countOnlyHarvest : Harvest where
  args := ⟨true, [], false⟩
  listed := [(PyStr.ofString "sheets", PyStr.ofString "0.9"), (PyStr.ofString "gmail", [])]
  fresh := []
  targets := [
    ⟨(PyStr.ofString "sheets", PyStr.ofString "0.9"), countOnlyReplies⟩,
    ⟨(PyStr.ofString "gmail", []), fun _ ↦ .ok .null⟩]
  targets_eq := by decide

/-- The second piece is never counted. -/
theorem not_isolatesFailures_countOnly : ¬ countOnlyHarvest.IsolatesFailures := by
  have hfirst : countOnlyHarvest.targets.head (by decide) ∈ countOnlyHarvest.work :=
    List.mem_filter.2 ⟨List.head_mem _, by decide⟩
  have hrow : rowFromSchema countOnlySchema = .ok _ := rfl
  exact not_isolatesFailures hfirst
    (.row rfl (by decide) (.fetch hrow ⟨by decide, by decide⟩ rfl))

end Harvest

end Siyadah
