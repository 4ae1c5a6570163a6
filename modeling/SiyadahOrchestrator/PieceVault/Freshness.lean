import SiyadahOrchestrator.Foundations.TransitionSystem
import SiyadahOrchestrator.PieceVault.PieceTable

/-!
# What an incremental sync skips

An incremental run of `sync_pieces` skips the targets whose row was stamped within the last week. It
means to skip what was synced within the last week, but the stamp is not the time of the last sync:
it is set when a row is inserted, stays as it is when a sync finds the row there, and is set anew by
a scoring run. So a version that is synced again looks stale, and a scoring run makes every version
look fresh.

`PieceHistory` has the table, and beside it the syncs that have been committed. Runs of the two
scripts may overlap: what counts are their commits.
-/

namespace Siyadah

open PyValue TransitionSystem

/-- `INCREMENTAL_SKIP_HOURS`. -/
def freshnessWindow : Time := minutes (24 * 7 * 60)

/-- `_already_fresh`, called at a time. -/
def alreadyFresh (now : Time) (t : PieceTable) : List PieceKey :=
  (t.rows.filter fun r ↦ now - freshnessWindow ≤ r.lastSynced).map StoredPiece.key

theorem mem_alreadyFresh {now : Time} {t : PieceTable} {key : PieceKey} :
    key ∈ alreadyFresh now t ↔
      ∃ r, t.find? key = some r ∧ now - freshnessWindow ≤ r.lastSynced := by
  simp only [alreadyFresh, List.mem_map, List.mem_filter, decide_eq_true_eq,
    KeyedTable.find?_eq_some_iff]
  constructor
  · rintro ⟨r, ⟨hr, hfresh⟩, hkey⟩
    exact ⟨r, ⟨hr, hkey⟩, hfresh⟩
  · rintro ⟨r, ⟨hr, hkey⟩, hfresh⟩
    exact ⟨r, ⟨hr, hfresh⟩, hkey⟩

/-! ### Histories -/

/-- The table, with what has been synced and when. -/
structure PieceHistory where
  table : PieceTable
  synced : List (PieceKey × Time)
  clock : Time

/-- A commit. -/
inductive PieceCommit where
  /-- A task of `sync_pieces` writes the row of a version. -/
  | sync (now : Time) (key : PieceKey) (columns : HarvestRow)
  /-- `compute_dahae_scores` writes its results. -/
  | score (now : Time) (results : List (PyStr × PieceScores))

/-- A commit takes its place in time. Rows without a name or a version are not written. -/
def commitPiece (h : PieceHistory) : PieceCommit → Option PieceHistory
  | .sync now key columns =>
    if h.clock ≤ now ∧ key.1 ≠ [] ∧ key.2 ≠ [] then
      some ⟨h.table.upsert now key columns, (key, now) :: h.synced, now⟩
    else none
  | .score now results =>
    if h.clock ≤ now then some ⟨h.table.writeBack now results, h.synced, now⟩ else none

/-- The commits of the two scripts. -/
def pieceCommits : TransitionSystem PieceHistory PieceCommit := ⟨commitPiece⟩

/-- Nothing has been synced. -/
def emptyHistory (clock : Time) : PieceHistory := ⟨KeyedTable.empty, [], clock⟩

/-- The version was synced at that time or later. -/
def PieceHistory.SyncedSince (h : PieceHistory) (key : PieceKey) (since : Time) : Prop :=
  ∃ at', (key, at') ∈ h.synced ∧ since ≤ at'

/-- **An incremental run skips exactly what is fresh**, whenever it starts and whatever is
listed. -/
def PieceHistory.SkipsExactly (h : PieceHistory) : Prop :=
  ∀ args : SyncArgs, args.full = false → args.piece = [] → ∀ listed now, h.clock ≤ now →
    ∀ target ∈ targetsOf args listed,
      isWork args (alreadyFresh now h.table) target = false ↔
        h.SyncedSince target (now - freshnessWindow)

/-- The commit leaves the stamps what they should be: no version is synced again, and no version is
scored, except at the time of its stamp. -/
def KeepsStamps (h : PieceHistory) : PieceCommit → Prop
  | .sync now key _ => ∀ r, h.table.find? key = some r → r.lastSynced = now
  | .score now results => ∀ r ∈ h.table.rows, r.name ∈ results.map Prod.fst → r.lastSynced = now

/-! ### Stamps and syncs -/

/-- Every stamp is the time of the last sync of its version. -/
structure StampsAreSyncs (h : PieceHistory) : Prop where
  stamp : ∀ key r, h.table.find? key = some r →
    IsGreatest {at' | (key, at') ∈ h.synced} r.lastSynced
  stored : ∀ key at', (key, at') ∈ h.synced → h.table.find? key ≠ none
  named : ∀ key at', (key, at') ∈ h.synced → key.1 ≠ []
  past : ∀ key at', (key, at') ∈ h.synced → at' ≤ h.clock

section Stamps

variable {h h' : PieceHistory} {now : Time} {key : PieceKey} {columns : HarvestRow}
  {results : List (PyStr × PieceScores)} {r : StoredPiece}

/-- What an incremental run does not go to work on, of the targets that have a name. -/
theorem isWork_eq_false_iff {args : SyncArgs} {fresh : List PieceKey} (hfull : args.full = false)
    (hpiece : args.piece = []) (hname : key.1 ≠ []) :
    isWork args fresh key = false ↔ key ∈ fresh := by
  have hfresh : freshFor args fresh = fresh := by
    rw [freshFor, hfull, hpiece]
    rfl
  rw [isWork, hfresh, decide_eq_false_iff_not]
  exact ⟨fun hnot ↦ by_contra fun hmem ↦ hnot ⟨hmem, hname⟩, fun hmem hwork ↦ hwork.1 hmem⟩

theorem ne_nil_of_mem_targetsOf {args : SyncArgs} {listed : List PieceKey}
    (hpiece : args.piece = []) (hkey : key ∈ targetsOf args listed) : key.1 ≠ [] := by
  rw [targetsOf, if_neg (not_not_intro hpiece)] at hkey
  exact of_decide_eq_true (List.mem_filter.1 hkey).2

/-- Stamps that are syncs tell what is fresh. -/
theorem StampsAreSyncs.skipsExactly (hs : StampsAreSyncs h) : h.SkipsExactly := by
  intro args hfull hpiece listed now _ key hkey
  rw [isWork_eq_false_iff hfull hpiece (ne_nil_of_mem_targetsOf hpiece hkey), mem_alreadyFresh]
  constructor
  · rintro ⟨r, hr, hfresh⟩
    exact ⟨r.lastSynced, (hs.stamp key r hr).1, hfresh⟩
  · rintro ⟨at', hsynced, hsince⟩
    obtain ⟨r, hr⟩ := Option.ne_none_iff_exists'.1 (hs.stored key at' hsynced)
    exact ⟨r, hr, hsince.trans ((hs.stamp key r hr).2 hsynced)⟩

/-- What an incremental run that starts a week later says of one version. -/
theorem PieceHistory.SkipsExactly.week_later (hskips : h.SkipsExactly) (hname : key.1 ≠ []) :
    (∃ r, h.table.find? key = some r ∧ h.clock ≤ r.lastSynced) ↔ h.SyncedSince key h.clock := by
  have hweek : h.clock ≤ h.clock + freshnessWindow := Int.le_add_of_nonneg_right (by decide)
  have hkey : key ∈ targetsOf ⟨false, [], false⟩ [key] := by
    rw [targetsOf, if_neg (not_not_intro rfl)]
    exact List.mem_filter.2 ⟨List.mem_singleton_self key, decide_eq_true hname⟩
  have hiff := hskips ⟨false, [], false⟩ rfl rfl [key] _ hweek key hkey
  rwa [isWork_eq_false_iff rfl rfl hname, mem_alreadyFresh, Int.add_sub_cancel] at hiff

/-! ### The steps -/

theorem commit_sync (hstep : commitPiece h (.sync now key columns) = some h') :
    h.clock ≤ now ∧ key.1 ≠ [] ∧
      h' = ⟨h.table.upsert now key columns, (key, now) :: h.synced, now⟩ := by
  rw [commitPiece] at hstep
  split at hstep
  · next hguard => exact ⟨hguard.1, hguard.2.1, (Option.some.inj hstep).symm⟩
  · cases hstep

theorem commit_score (hstep : commitPiece h (.score now results) = some h') :
    h.clock ≤ now ∧ h' = ⟨h.table.writeBack now results, h.synced, now⟩ := by
  rw [commitPiece] at hstep
  split at hstep
  · next hguard => exact ⟨hguard, (Option.some.inj hstep).symm⟩
  · cases hstep

/-- What is stamped with the time of a sync and not before is stamped with the last sync. -/
theorem isGreatest_cons (hs : StampsAreSyncs h) (hclock : h.clock ≤ now) :
    IsGreatest {at' | (key, at') ∈ (key, now) :: h.synced} now := by
  refine ⟨List.mem_cons_self, fun at' hat ↦ ?_⟩
  rcases List.mem_cons.1 hat with heq | hold
  · rw [Prod.mk.inj heq |>.2]
  · exact (hs.past key at' hold).trans hclock

/-- A sync that finds no row, or one stamped at its own time, keeps the stamps. -/
theorem StampsAreSyncs.sync (hs : StampsAreSyncs h)
    (hkeeps : KeepsStamps h (.sync now key columns))
    (hstep : commitPiece h (.sync now key columns) = some h') : StampsAreSyncs h' := by
  obtain ⟨hclock, hname, rfl⟩ := commit_sync hstep
  have hself : ∃ r, (h.table.upsert now key columns).find? key = some r ∧ r.lastSynced = now := by
    cases hr : h.table.find? key with
    | none =>
      rw [PieceTable.find?_upsert_of_none hr, if_pos rfl]
      exact ⟨_, rfl, rfl⟩
    | some r =>
      rw [PieceTable.find?_upsert_of_some hr, if_pos rfl]
      exact ⟨_, rfl, hkeeps r hr⟩
  have hother : ∀ key', key' ≠ key →
      (h.table.upsert now key columns).find? key' = h.table.find? key' := by
    intro key' hne
    cases hr : h.table.find? key with
    | none => rw [PieceTable.find?_upsert_of_none hr, if_neg hne]
    | some r => rw [PieceTable.find?_upsert_of_some hr, if_neg hne]
  have hmem : ∀ key' at', key' ≠ key →
      ((key', at') ∈ (key, now) :: h.synced ↔ (key', at') ∈ h.synced) := by
    intro key' at' hne
    rw [List.mem_cons, or_iff_right fun heq ↦ hne (Prod.mk.inj heq).1]
  constructor
  · intro key' r hr
    rcases eq_or_ne key' key with rfl | hne
    · obtain ⟨r', hr', hstamp⟩ := hself
      obtain rfl := Option.some.inj (hr.symm.trans hr')
      rw [hstamp]
      exact isGreatest_cons hs hclock
    · simp only [hmem key' _ hne]
      exact hs.stamp key' r ((hother key' hne).symm.trans hr)
  · intro key' at' hat
    rcases eq_or_ne key' key with rfl | hne
    · obtain ⟨r, hr, -⟩ := hself
      rw [hr]
      exact Option.some_ne_none r
    · rw [hother key' hne]
      exact hs.stored key' at' ((hmem key' at' hne).1 hat)
  · intro key' at' hat
    rcases List.mem_cons.1 hat with heq | hold
    · rw [(Prod.mk.inj heq).1]
      exact hname
    · exact hs.named key' at' hold
  · intro key' at' hat
    rcases List.mem_cons.1 hat with heq | hold
    · exact (Prod.mk.inj heq).2.le
    · exact (hs.past key' at' hold).trans hclock

/-- The row of a version after a write-back. -/
theorem find?_writeBack_of_some (now : Time) (results : List (PyStr × PieceScores))
    (hr : h.table.find? key = some r) :
    ∃ r', (h.table.writeBack now results).find? key = some r' ∧
      r'.lastSynced = if r.name ∈ results.map Prod.fst then now else r.lastSynced := by
  have hname : r.name = key.1 := congrArg Prod.fst (KeyedTable.key_of_find? hr)
  rw [PieceTable.find?_writeBack, hr, Option.map_some, hname]
  refine ⟨_, rfl, ?_⟩
  cases hlast : PieceTable.lastResult results key.1 with
  | none =>
    rw [if_neg (PieceTable.lastResult_eq_none_iff.1 hlast)]
    rfl
  | some scores =>
    have hmem : key.1 ∈ results.map Prod.fst := by
      by_contra hnot
      rw [PieceTable.lastResult_eq_none_iff.2 hnot] at hlast
      cases hlast
    rw [if_pos hmem]
    rfl

theorem find?_of_find?_writeBack (hr : (h.table.writeBack now results).find? key = some r) :
    ∃ r', h.table.find? key = some r' ∧
      r.lastSynced = if r'.name ∈ results.map Prod.fst then now else r'.lastSynced := by
  cases hold : h.table.find? key with
  | none =>
    rw [PieceTable.find?_writeBack, hold] at hr
    cases hr
  | some r' =>
    obtain ⟨r'', hr'', hstamp⟩ := find?_writeBack_of_some now results hold
    obtain rfl := Option.some.inj (hr.symm.trans hr'')
    exact ⟨r', rfl, hstamp⟩

/-- A write-back at the time of the stamps that it sets keeps the stamps. -/
theorem StampsAreSyncs.score (hs : StampsAreSyncs h) (hkeeps : KeepsStamps h (.score now results))
    (hstep : commitPiece h (.score now results) = some h') : StampsAreSyncs h' := by
  obtain ⟨hclock, rfl⟩ := commit_score hstep
  refine ⟨fun key r hr ↦ ?_, fun key at' hat ↦ ?_, hs.named,
    fun key at' hat ↦ (hs.past key at' hat).trans hclock⟩
  · obtain ⟨r', hr', hstamp⟩ := find?_of_find?_writeBack hr
    have hsame : r.lastSynced = r'.lastSynced := by
      rw [hstamp]
      split
      · next hmem => exact (hkeeps r' (KeyedTable.find?_eq_some_iff.1 hr').1 hmem).symm
      · rfl
    rw [hsame]
    exact hs.stamp key r' hr'
  · obtain ⟨r, hr⟩ := Option.ne_none_iff_exists'.1 (hs.stored key at' hat)
    obtain ⟨r', hr', -⟩ := find?_writeBack_of_some now results hr
    show (h.table.writeBack now results).find? key ≠ none
    rw [hr']
    exact Option.some_ne_none r'

/-- A stamp is not ahead of the clock, and its version has a name. -/
theorem StampsAreSyncs.stamp_le (hs : StampsAreSyncs h) (hr : h.table.find? key = some r) :
    r.lastSynced ≤ h.clock ∧ key.1 ≠ [] :=
  have hsynced := (hs.stamp key r hr).1
  ⟨hs.past key _ hsynced, hs.named key _ hsynced⟩

/-- Only such a sync is seen by the runs to come. -/
theorem StampsAreSyncs.keeps_of_sync (hs : StampsAreSyncs h)
    (hstep : commitPiece h (.sync now key columns) = some h') (hskips : h'.SkipsExactly) :
    KeepsStamps h (.sync now key columns) := by
  obtain ⟨hclock, hname, rfl⟩ := commit_sync hstep
  intro r hr
  obtain ⟨r', hr', hfresh⟩ := (hskips.week_later hname).2 ⟨now, List.mem_cons_self, le_refl now⟩
  rw [PieceTable.find?_upsert_of_some hr, if_pos rfl] at hr'
  obtain rfl := Option.some.inj hr'
  exact le_antisymm ((hs.stamp_le hr).1.trans hclock) hfresh

/-- Only such a write-back makes no stale version look fresh. -/
theorem StampsAreSyncs.keeps_of_score (hs : StampsAreSyncs h)
    (hstep : commitPiece h (.score now results) = some h') (hskips : h'.SkipsExactly) :
    KeepsStamps h (.score now results) := by
  obtain ⟨hclock, rfl⟩ := commit_score hstep
  intro r hmem hscored
  have hr : h.table.find? r.key = some r := KeyedTable.find?_eq_some_iff.2 ⟨hmem, rfl⟩
  obtain ⟨r', hr', hstamp⟩ := find?_writeBack_of_some now results hr
  rw [if_pos hscored] at hstamp
  obtain ⟨at', hsynced, hsince⟩ :=
    (hskips.week_later (hs.stamp_le hr).2).1 ⟨r', hr', hstamp.ge⟩
  exact le_antisymm ((hs.stamp_le hr).1.trans hclock)
    (hsince.trans ((hs.stamp r.key r hr).2 hsynced))

theorem StampsAreSyncs.step {c : PieceCommit} (hs : StampsAreSyncs h) (hkeeps : KeepsStamps h c)
    (hstep : pieceCommits.step h c = some h') : StampsAreSyncs h' := by
  cases c with
  | sync now key columns => exact hs.sync hkeeps hstep
  | score now results => exact hs.score hkeeps hstep

theorem StampsAreSyncs.keeps {c : PieceCommit} (hs : StampsAreSyncs h)
    (hstep : pieceCommits.step h c = some h') (hskips : h'.SkipsExactly) : KeepsStamps h c := by
  cases c with
  | sync now key columns => exact hs.keeps_of_sync hstep hskips
  | score now results => exact hs.keeps_of_score hstep hskips

theorem stampsAreSyncs_emptyHistory (clock : Time) : StampsAreSyncs (emptyHistory clock) := by
  constructor
  · intro key r hr
    cases hr
  all_goals exact fun key at' hat ↦ absurd hat List.not_mem_nil

end Stamps

/-! ### All along a run -/

/-- Another commit is seen. -/
theorem not_always_of_not_keeps {clock : Time} {commits : List PieceCommit} {c : PieceCommit}
    {u t : PieceHistory} (hrun : pieceCommits.run (emptyHistory clock) commits = some u)
    (hs : StampsAreSyncs u) (hstep : pieceCommits.step u c = some t) (hnot : ¬ KeepsStamps u c) :
    ¬ pieceCommits.Always PieceHistory.SkipsExactly (emptyHistory clock) (commits ++ [c]) :=
  fun hall ↦ hnot <| hs.keeps hstep <|
    hall _ (List.prefix_refl _) t (pieceCommits.run_concat_eq_some.2 ⟨u, hrun, hstep⟩)

/-- **Incremental runs skip exactly what is fresh**, at every moment of a run, exactly if no version
is synced again or scored except at the time of its stamp. -/
theorem skipsExactly_iff (clock : Time) (commits : List PieceCommit) (h : PieceHistory)
    (hrun : pieceCommits.run (emptyHistory clock) commits = some h) :
    pieceCommits.Always PieceHistory.SkipsExactly (emptyHistory clock) commits ↔
      pieceCommits.Meets KeepsStamps (emptyHistory clock) commits :=
  always_iff_meets (fun _ hs ↦ hs.skipsExactly) (fun _ _ _ hs hkeeps hstep ↦ hs.step hkeeps hstep)
    (fun _ _ _ hs hstep hskips ↦ hs.keeps hstep hskips) (stampsAreSyncs_emptyHistory clock) hrun

/-! ### A piece in two weeks -/

/-- A version of a piece, as the row that a sync writes. -/
def gmailVersion (version : PyStr) : HarvestRow where
  name := py "gmail"
  pieceVersion := .str version
  displayName := py "Gmail"
  description := .null
  logoUrl := .null
  categories := .list []
  authType := .null
  fullSchema := pyDict [("name", py "gmail")]
  actionsIndex := pyDict [("send_email", pyDict [])]
  triggersIndex := pyDict []

/-- A task writes that version. -/
def syncGmail (now : Time) (version : PyStr) : PieceCommit :=
  .sync now (PyStr.ofString "gmail", version) (gmailVersion version)

/-- A scoring run writes what it has computed for gmail. -/
def scoreGmail (now : Time) : PieceCommit :=
  .score now [(PyStr.ofString "gmail", ⟨20, 50, 10, pyDict []⟩)]

/-- Eight days. -/
def eightDays : Time := minutes (8 * 24 * 60)

theorem skipsExactly_gmail : ∃ h,
    pieceCommits.run (emptyHistory 0) [syncGmail 0 [48], syncGmail eightDays [49]] = some h ∧
    pieceCommits.Always PieceHistory.SkipsExactly (emptyHistory 0)
      [syncGmail 0 [48], syncGmail eightDays [49]] := by
  refine ⟨_, rfl, (skipsExactly_iff 0 _ _ rfl).2 ⟨?_, ?_, trivial⟩⟩
  · exact fun r hr ↦ by cases hr
  · exact fun r hr ↦ by cases hr

/-- A version that is synced again after eight days is not skipped afterwards, and one that is
scored after eight days is skipped, although it is stale. -/
theorem not_skipsExactly_gmail :
    ¬ pieceCommits.Always PieceHistory.SkipsExactly (emptyHistory 0)
        [syncGmail 0 [48], syncGmail eightDays [48]] ∧
      ¬ pieceCommits.Always PieceHistory.SkipsExactly (emptyHistory 0)
        [syncGmail 0 [48], scoreGmail eightDays] := by
  have hfirst : pieceCommits.run (emptyHistory 0) [syncGmail 0 [48]] = some _ := rfl
  have hs : StampsAreSyncs _ :=
    (stampsAreSyncs_emptyHistory 0).step (c := syncGmail 0 [48]) (fun r hr ↦ by cases hr) rfl
  constructor
  · refine not_always_of_not_keeps hfirst hs rfl fun hkeeps ↦ ?_
    exact absurd (hkeeps _ rfl) (by decide)
  · refine not_always_of_not_keeps hfirst hs rfl fun hkeeps ↦ ?_
    exact absurd (hkeeps _ List.mem_cons_self List.mem_cons_self) (by decide)

end Siyadah
