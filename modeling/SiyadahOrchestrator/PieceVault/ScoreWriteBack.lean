import SiyadahOrchestrator.PieceVault.Scoring

/-!
# Whose scores a row holds

A scoring run computes the scores of each row from the row itself, and then writes them with an
update that selects by the name of the piece alone. So every version of a piece gets the scores of
the version that is written last. `scoresOwn_iff` says when nobody notices: when all versions of a
piece have the same scores, or the run writes nothing because a computation raises.

The order in which the rows are loaded plays no part in this: `ORDER BY name` says nothing about the
order among the versions, and every order is wrong where there is a difference.
-/

namespace Siyadah

open PieceTable PyValue

section Run

variable (M : ScoreMath)

/-- The loop that computes the scores. -/
def scoreRows (rows : List StoredPiece) : Except PyError (List (PyStr × PieceScores)) :=
  rows.mapM fun row ↦ do
    let scores ← computeAll M row.columns
    pure (row.name, scores)

/-- `run` of `compute_dahae_scores`, on the rows that it has loaded. The minimum of no scores
raises. -/
def scoreRun (dryRun : Bool) (loaded : List StoredPiece) (now : Time) (t : PieceTable) :
    Except PyError PieceTable := do
  let results ← scoreRows M loaded
  if results = [] then throw .valueError
  else if dryRun then pure t
  else pure (t.writeBack now results)

/-- **Every row holds its own scores** after a scoring run, in whatever order the rows are
loaded. -/
def ScoresOwn (t : PieceTable) : Prop :=
  ∀ loaded, loaded.Perm t.rows → ∀ now t', scoreRun M false loaded now t = .ok t' →
    ∀ row ∈ t'.rows, ∃ scores, row.scores = some scores ∧ computeAll M row.columns = .ok scores

end Run

section Law

variable {M : ScoreMath} {t t' : PieceTable} {loaded : List StoredPiece} {now : Time}
  {results : List (PyStr × PieceScores)} {row : StoredPiece} {name : PyStr}
  {scores : PieceScores}

theorem scoreRow_eq_ok_iff {result : PyStr × PieceScores} :
    (computeAll M row.columns >>= fun scores ↦ pure (row.name, scores)) = .ok result ↔
      row.name = result.1 ∧ computeAll M row.columns = .ok result.2 := by
  obtain ⟨name, scores⟩ := result
  rw [bind_eq_ok_iff]
  constructor
  · rintro ⟨a, ha, h⟩
    obtain ⟨rfl, rfl⟩ := Prod.mk.inj (Except.ok.inj h)
    exact ⟨rfl, ha⟩
  · rintro ⟨rfl, h⟩
    exact ⟨scores, h, rfl⟩

/-- **The results** are those of the loaded rows, each with the name of its row. -/
theorem scoreRows_ok (h : scoreRows M loaded = .ok results) :
    (∀ row ∈ loaded, ∃ scores, (row.name, scores) ∈ results ∧
        computeAll M row.columns = .ok scores) ∧
      ∀ result ∈ results, ∃ row ∈ loaded, row.name = result.1 ∧
        computeAll M row.columns = .ok result.2 := by
  constructor
  · intro row hrow
    obtain ⟨⟨name, scores⟩, hmem, hresult⟩ := exists_of_mapM_eq_ok h hrow
    obtain ⟨rfl, hscores⟩ := scoreRow_eq_ok_iff.1 hresult
    exact ⟨scores, hmem, hscores⟩
  · intro result hmem
    obtain ⟨row, hrow, hresult⟩ := exists_of_mem_mapM h hmem
    exact ⟨row, hrow, scoreRow_eq_ok_iff.1 hresult⟩

/-- The results are computed when no computation raises. -/
theorem exists_scoreRows (h : ∀ row ∈ loaded, ∃ scores, computeAll M row.columns = .ok scores) :
    ∃ results, scoreRows M loaded = .ok results := by
  have hrow : ∀ row ∈ loaded, ∃ result : PyStr × PieceScores,
      (computeAll M row.columns >>= fun scores ↦ pure (row.name, scores)) = .ok result ∧ True := by
    intro row hrow
    obtain ⟨scores, hscores⟩ := h row hrow
    exact ⟨(row.name, scores), scoreRow_eq_ok_iff.2 ⟨rfl, hscores⟩, trivial⟩
  obtain ⟨results, hresults, -⟩ := exists_mapM_eq_ok hrow
  exact ⟨results, hresults⟩

/-- A run that returns has written the results back. -/
theorem scoreRun_eq_ok_iff : scoreRun M false loaded now t = .ok t' ↔
    ∃ results, scoreRows M loaded = .ok results ∧ results ≠ [] ∧ t' = t.writeBack now results := by
  rw [scoreRun, bind_eq_ok_iff]
  refine exists_congr fun results ↦ and_congr_right fun _ ↦ ?_
  by_cases hempty : results = []
  · rw [if_pos hempty]
    exact iff_of_false (fun h ↦ by cases h) fun h ↦ h.1 hempty
  · rw [if_neg hempty, if_neg Bool.false_ne_true]
    exact ⟨fun h ↦ ⟨hempty, (Except.ok.inj h).symm⟩, fun h ↦ congrArg Except.ok h.2.symm⟩

theorem mem_of_lastResult (h : lastResult results name = some scores) :
    (name, scores) ∈ results := by
  obtain ⟨result, hfind, rfl⟩ := Option.map_eq_some_iff.1 h
  have hname : result.1 = name := by simpa using List.find?_some hfind
  rw [← hname]
  exact List.mem_reverse.1 (List.mem_of_find?_eq_some hfind)

/-- The scores that a name gets are those of one of its versions. -/
theorem exists_lastResult (hresults : scoreRows M loaded = .ok results) (hrow : row ∈ loaded) :
    ∃ scores, lastResult results row.name = some scores ∧
      ∃ last ∈ loaded, last.name = row.name ∧ computeAll M last.columns = .ok scores := by
  obtain ⟨hrows, hresult⟩ := scoreRows_ok hresults
  cases hlast : lastResult results row.name with
  | none =>
    obtain ⟨scores, hmem, -⟩ := hrows row hrow
    exact absurd (List.mem_map_of_mem hmem) (lastResult_eq_none_iff.1 hlast)
  | some scores => exact ⟨scores, rfl, hresult _ (mem_of_lastResult hlast)⟩

/-- A row after the write-back. -/
theorem mem_writeBack_iff : row ∈ (t.writeBack now results).rows ↔
    ∃ old ∈ t.rows, row = withScores now (lastResult results old.name) old := by
  have hkey : ∀ (old : StoredPiece) (scores : Option PieceScores),
      (withScores now scores old).key = old.key := fun old scores ↦ by cases scores <;> rfl
  have hfind : row ∈ (t.writeBack now results).rows ↔
      (t.writeBack now results).find? row.key = some row := by
    rw [KeyedTable.find?_eq_some_iff, and_iff_left rfl]
  rw [hfind, find?_writeBack, Option.map_eq_some_iff]
  constructor
  · rintro ⟨old, hold, h⟩
    obtain ⟨hmem, hk⟩ := KeyedTable.find?_eq_some_iff.1 hold
    refine ⟨old, hmem, ?_⟩
    rw [← h, show old.name = row.key.1 from congrArg Prod.fst hk]
  · rintro ⟨old, hmem, rfl⟩
    refine ⟨old, ?_, ?_⟩
    · rw [hkey]
      exact KeyedTable.find?_eq_some_iff.2 ⟨hmem, rfl⟩
    · rw [hkey]
      rfl

/-- **One version's scores** are given to the others. -/
theorem not_scoresOwn {row row' : StoredPiece}
    (hall : ∀ row ∈ t.rows, ∃ scores, computeAll M row.columns = .ok scores) (hrow : row ∈ t.rows)
    (hrow' : row' ∈ t.rows) (hname : row.name = row'.name)
    (hne : computeAll M row.columns ≠ computeAll M row'.columns) : ¬ ScoresOwn M t := by
  intro hown
  obtain ⟨results, hresults⟩ := exists_scoreRows hall
  obtain ⟨scores, hlast, -⟩ := exists_lastResult hresults hrow
  have hnonempty : results ≠ [] := by
    rintro rfl
    cases hlast
  have hrun := hown t.rows (.refl _) 0 _ (scoreRun_eq_ok_iff.2 ⟨results, hresults, hnonempty, rfl⟩)
  have hwritten : ∀ old ∈ t.rows, old.name = row.name → computeAll M old.columns = .ok scores := by
    intro old hold hn
    obtain ⟨scores', hscores', hcompute⟩ := hrun _ (mem_writeBack_iff.2 ⟨old, hold, rfl⟩)
    rw [hn, hlast] at hscores' hcompute
    obtain rfl := Option.some.inj hscores'
    exact hcompute
  exact hne ((hwritten row hrow rfl).trans (hwritten row' hrow' hname.symm).symm)

/-- **Every row holds its own scores** exactly if all versions of a piece have the same scores, or
the run writes nothing because a computation raises. -/
theorem scoresOwn_iff (M : ScoreMath) (t : PieceTable) : ScoresOwn M t ↔
    (∃ row ∈ t.rows, ∃ e, computeAll M row.columns = .error e) ∨
      ∀ row ∈ t.rows, ∀ row' ∈ t.rows, row.name = row'.name →
        computeAll M row.columns = computeAll M row'.columns := by
  by_cases hall : ∀ row ∈ t.rows, ∃ scores, computeAll M row.columns = .ok scores
  · have hnone : ¬ ∃ row ∈ t.rows, ∃ e, computeAll M row.columns = .error e := by
      rintro ⟨row, hrow, e, he⟩
      obtain ⟨scores, hscores⟩ := hall row hrow
      rw [he] at hscores
      cases hscores
    rw [or_iff_right hnone]
    constructor
    · intro hown row hrow row' hrow' hname
      by_contra hne
      exact not_scoresOwn hall hrow hrow' hname hne hown
    · intro hsame loaded hperm now t' hrun row hrow
      obtain ⟨results, hresults, -, rfl⟩ := scoreRun_eq_ok_iff.1 hrun
      obtain ⟨old, hold, rfl⟩ := mem_writeBack_iff.1 hrow
      obtain ⟨scores, hlast, last, hmem, hname, hcompute⟩ :=
        exists_lastResult hresults (hperm.mem_iff.2 hold)
      rw [hlast]
      exact ⟨scores, rfl, (hsame old hold last (hperm.mem_iff.1 hmem) hname.symm).trans hcompute⟩
  · have hraises : ∃ row ∈ t.rows, ∃ e, computeAll M row.columns = .error e := by
      by_contra hnone
      refine hall fun row hrow ↦ ?_
      cases hcompute : computeAll M row.columns with
      | ok scores => exact ⟨scores, rfl⟩
      | error e => exact absurd ⟨row, hrow, e, hcompute⟩ hnone
    refine iff_of_true (fun loaded hperm now t' hrun ↦ ?_) (.inl hraises)
    obtain ⟨row, hrow, e, he⟩ := hraises
    obtain ⟨results, hresults, -⟩ := scoreRun_eq_ok_iff.1 hrun
    obtain ⟨scores, -, hscores⟩ := (scoreRows_ok hresults).1 row (hperm.mem_iff.2 hrow)
    rw [he] at hscores
    cases hscores

end Law

/-! ### Two versions of a piece -/

/-- `round` of a rational: a half goes to the even side. -/
def roundHalfEven (q : ℚ) : ℤ :=
  if q - q.floor < 1 / 2 then q.floor
  else if 1 / 2 < q - q.floor then q.floor + 1
  else if q.floor % 2 = 0 then q.floor
  else q.floor + 1

/-- An operation on finite numbers. -/
def onFinite (f : ℚ → ℚ → ℚ) : PyFloat → PyFloat → PyFloat
  | .finite p, .finite q => .finite (f p q)
  | _, _ => .nan

/-- Exact arithmetic, as that of floats is on halves and small integers; it takes no roots and no
logarithms. -/
def exactMath : ScoreMath where
  ofRat := .finite
  add := onFinite (· + ·)
  sub := onFinite (· - ·)
  mul := onFinite (· * ·)
  div := onFinite (· / ·)
  divInt n m := .finite (n / m)
  sum xs := xs.foldl (onFinite (· + ·)) (.finite 0)
  neg x := onFinite (· - ·) (.finite 0) x
  square x := onFinite (· * ·) x x
  sqrt _ := .nan
  log2 _ := .nan
  log10Succ _ := .nan
  round
    | .finite q => .ok (roundHalfEven q)
    | _ => .error .valueError
  round3 x := x
  lower s := s.map foldCase
  isAlnum _ := false

/-- A version of gmail with the given triggers, and without actions. -/
def gmailRow (version : String) (triggers : PyValue) : StoredPiece where
  name := PyStr.ofString "gmail"
  pieceVersion := PyStr.ofString version
  columns := ⟨py "gmail", py version, py "Gmail", .null, .null, .list [], .null,
    pyDict [("name", py "gmail")], pyDict [], triggers⟩
  scores := none
  lastSynced := 0

/-- The second version of the piece has got a trigger. -/
def twoVersions : PieceTable where
  rows := [gmailRow "0.1" (pyDict []), gmailRow "0.2" (pyDict [("new_email", pyDict [])])]
  nodup_key := by decide
  nodup_uniq := List.nodup_nil

/-- The second version is more useful. -/
theorem dahaeScore_gmailRow :
    (computeAll exactMath (gmailRow "0.1" (pyDict [])).columns).map (·.dahaeScore) = .ok 0 ∧
      (computeAll exactMath (gmailRow "0.2" (pyDict [("new_email", pyDict [])])).columns).map
        (·.dahaeScore) = .ok 8 := by
  decide +kernel

/-- In either order, one version gets the scores of the other. -/
theorem not_scoresOwn_twoVersions : ¬ ScoresOwn exactMath twoVersions := by
  obtain ⟨hfirst, hsecond⟩ := dahaeScore_gmailRow
  have hok {x : Except PyError PieceScores} {n : ℤ} (h : x.map (·.dahaeScore) = .ok n) :
      ∃ scores, x = .ok scores := by
    cases x with
    | ok scores => exact ⟨scores, rfl⟩
    | error e => cases h
  refine not_scoresOwn ?_ List.mem_cons_self (List.mem_cons_of_mem _ List.mem_cons_self) rfl ?_
  · exact List.forall_mem_cons.2 ⟨hok hfirst, List.forall_mem_singleton.2 (hok hsecond)⟩
  · intro hsame
    rw [hsame, hsecond] at hfirst
    cases hfirst

end Siyadah
