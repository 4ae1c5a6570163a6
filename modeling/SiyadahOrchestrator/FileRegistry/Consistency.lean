import SiyadahOrchestrator.FileRegistry.Sync
import Mathlib.Data.Set.Function

/-!
# The registry stays consistent

Runs of `_sync` leave a registry in which the indexes are those of the piece files, however many
runs there are and whichever pieces they are asked for (`sync_consistent`). What a run may rely on
is `Sound`: each file is the record of a piece, under the slug of the piece. A run that writes
restores it, and then reads back what the indexes are built from, so that nothing is lost between
the two.
-/

namespace Siyadah

namespace RegistrySync

open Dialogue PyValue

/-! ### What is fetched -/

/-- The schema names the piece, and can be written and read back. -/
def Names (piece : PyStr) (schema : PyValue) : Prop :=
  schema.entry "name" = some (.str piece) ∧ Plain schema

/-- A schema that comes back names the piece that was asked for. -/
def NamedReply : SyncQuery × SyncReply → Prop
  | (.getPiece piece _, .answered payload) => payload.isDict = true → Names piece payload
  | _ => True

/-- The record of a piece passes the checks, and can be indexed under its name. -/
def IsRecord (piece : PyStr) (rec : PyValue) : Prop :=
  recordOk rec = .ok true ∧ ∃ entries, Indexable piece rec entries

section Fetch

variable {schemaHash : PyValue → PyStr} {base piece : PyStr} {α : Type}

theorem stateless_attempted {m : SyncM α} (h : Stateless m) : Stateless (attempted m) :=
  (h.bind fun a ↦ stateless_pure (some a)).handle fun _ ↦ stateless_pure none

theorem stateless_resolveConfig : Stateless resolveConfig := by
  refine .ask_bind fun r ↦ ?_
  split
  · exact stateless_pure _
  · exact stateless_raise _

theorem stateless_getPiece (version : Option PyValue) : Stateless (getPiece piece version) := by
  refine .ask_bind fun r ↦ ?_
  cases r with
  | raised => exact stateless_raise _
  | notFound => exact stateless_pure _
  | answered payload =>
    show Stateless (if payload.isDict then _ else _)
    split
    · exact stateless_pure _
    · exact stateless_raise _

theorem stateless_fetchFullSchema : Stateless (fetchFullSchema piece) := by
  refine .bind (stateless_getPiece none) fun first ↦ ?_
  cases first with
  | none => exact stateless_raise _
  | some schema =>
    refine .bind ?_ fun schema' ↦ ?_
    · unfold secondPass
      split
      · exact stateless_pure _
      · dsimp only
        split
        · exact .bind (stateless_getPiece _) fun _ ↦ stateless_pure _
        · exact stateless_pure _
    · unfold checkSchema
      split
      · exact stateless_raise _
      · exact stateless_pure _

theorem stateless_recordOf (schema : PyValue) :
    Stateless (recordOf schemaHash base piece schema) := by
  refine .bind (.ask_bind fun r ↦ ?_) fun t ↦ stateless_lift _
  split <;> exact stateless_pure _

theorem stateless_fetchTargets (targets : List PyStr) (records : Fields) (failures : List PyStr) :
    Stateless (fetchTargets schemaHash base targets records failures) := by
  induction targets generalizing records failures with
  | nil => exact stateless_pure _
  | cons piece targets ih =>
    refine .bind (stateless_attempted stateless_fetchFullSchema) fun fetched ↦ ?_
    cases fetched with
    | none => exact ih _ _
    | some schema => exact .bind (stateless_recordOf schema) fun _ ↦ ih _ _

/-! What the peer's replies guarantee. -/

theorem ensures_attempted {P : α → Prop} {m : SyncM α} (h : Ensures NamedReply P (fun _ ↦ True) m) :
    Ensures NamedReply (fun o ↦ ∀ a, o = some a → P a) (fun _ ↦ True) (attempted m) := by
  refine .handle (G := fun _ ↦ True) (h.bind fun a ha ↦ ensures_pure ?_) fun _ _ ↦ ensures_pure ?_
  · rintro b hb
    exact Option.some.inj hb ▸ ha
  · exact fun b hb ↦ absurd hb (by simp)

theorem ensures_getPiece (version : Option PyValue) : Ensures NamedReply
    (fun o ↦ ∀ schema, o = some schema → Names piece schema) (fun _ ↦ True)
    (getPiece piece version) := by
  refine .ask_bind fun r hr ↦ ?_
  cases r with
  | raised => exact ensures_raise trivial
  | notFound => exact ensures_pure fun _ h ↦ absurd h (by simp)
  | answered payload =>
    show Ensures _ _ _ (if payload.isDict then _ else _)
    split
    · rename_i hdict
      exact ensures_pure fun schema h ↦ Option.some.inj h ▸ hr hdict
    · exact ensures_raise trivial

theorem ensures_fetchFullSchema :
    Ensures NamedReply (Names piece) (fun _ ↦ True) (fetchFullSchema piece) := by
  refine .bind (ensures_getPiece none) fun first hfirst ↦ ?_
  cases first with
  | none => exact ensures_raise trivial
  | some schema =>
    have hschema := hfirst schema rfl
    refine .bind (P := Names piece) ?_ fun schema' hschema' ↦ ?_
    · unfold secondPass
      split
      · exact ensures_pure hschema
      · dsimp only
        split
        · refine .bind (ensures_getPiece _) fun again hagain ↦ ensures_pure ?_
          cases again with
          | none => exact hschema
          | some other => exact hagain other rfl
        · exact ensures_pure hschema
    · unfold checkSchema
      split
      · exact ensures_raise trivial
      · exact ensures_pure hschema'

theorem hasItem_pyDict (fields : List (String × PyValue)) (key : String) :
    (pyDict fields).hasItem (text key) = .ok (fields.lookup key).isSome := by
  show Except.ok ((pyDict fields).entry key).isSome = _
  rw [entry_pyDict]

/-- A record that is built has its keys. -/
theorem recordOk_of_build {t schema rec : PyValue} {sourceUrl : PyStr}
    (h : buildPieceRecord schemaHash t schema sourceUrl = .ok rec) : recordOk rec = .ok true := by
  obtain ⟨actions, -, h⟩ := bind_eq_ok_iff.1 h
  obtain ⟨triggers, -, h⟩ := bind_eq_ok_iff.1 h
  obtain rfl := Except.ok.inj h
  refine bind_eq_ok_iff.2 ⟨recordKeys.map fun _ ↦ true, mapM_eq_ok_map fun key hkey ↦ ?_,
    bind_eq_ok_iff.2 ⟨.int registryFormatVersion, get_pyDict _ _, ?_⟩⟩
  · rw [hasItem_pyDict]
    simp only [recordKeys, List.mem_cons, List.not_mem_nil, or_false] at hkey
    rcases hkey with rfl | rfl | rfl | rfl | rfl | rfl | rfl | rfl <;> rfl
  · have hversion : (PyValue.int registryFormatVersion).eq (.int registryFormatVersion) = true := by
      simp [eq, number?]
    rw [hversion]
    rfl

theorem ensures_recordOf {schema : PyValue} (h : Names piece schema) :
    Ensures NamedReply (IsRecord piece) (fun _ ↦ True) (recordOf schemaHash base piece schema) := by
  refine .bind (P := Plain) (.ask_bind fun r _ ↦ ?_) fun t ht ↦ ensures_lift (fun rec hrec ↦ ?_)
    fun _ _ ↦ trivial
  · split
    · exact ensures_pure (plain_str _)
    · exact ensures_pure plain_null
  · exact ⟨recordOk_of_build hrec, indexable_of_build hrec h.1 h.2 ht⟩

/-- What the loop over the targets has collected: records of targets under their slugs, and one for
each target that has not failed. -/
structure Collected (targets : List PyStr) (out : Fields × List PyStr) : Prop where
  nodup : (out.1.map Prod.fst).Nodup
  record : ∀ f ∈ out.1, ∃ piece ∈ targets, f.1 = shortName piece ∧ IsRecord piece f.2
  complete : ∀ piece ∈ targets, piece ∈ out.2 ∨ shortName piece ∈ out.1.map Prod.fst

theorem mem_keys_upsert {d : Fields} {key key' : PyStr} {v : PyValue} :
    key' ∈ (upsert d key v).map Prod.fst ↔ key' ∈ d.map Prod.fst ∨ key' = key := by
  rw [map_fst_upsert]
  split
  · rename_i hmem
    exact (or_iff_left_of_imp fun h ↦ h ▸ hmem).symm
  · rw [List.mem_append, List.mem_singleton]

/-- **The loop over the targets**, with what it has collected so far. -/
theorem ensures_fetchTargets (targets : List PyStr) {done : List PyStr} {records : Fields}
    {failures : List PyStr} (h : Collected done (records, failures)) :
    Ensures NamedReply (Collected (done ++ targets)) (fun _ ↦ True)
      (fetchTargets schemaHash base targets records failures) := by
  induction targets generalizing done records failures with
  | nil =>
    rw [List.append_nil]
    exact ensures_pure h
  | cons piece targets ih =>
    have happend : done ++ piece :: targets = (done ++ [piece]) ++ targets := by simp
    rw [happend]
    refine .bind (ensures_attempted ensures_fetchFullSchema) fun fetched hfetched ↦ ?_
    cases fetched with
    | none =>
      refine ih ⟨h.nodup, fun f hf ↦ ?_, fun p hp ↦ ?_⟩
      · obtain ⟨p, hp, hrec⟩ := h.record f hf
        exact ⟨p, List.mem_append_left _ hp, hrec⟩
      · rcases List.mem_append.1 hp with hp | hp
        · exact (h.complete p hp).imp_left fun hp ↦ List.mem_append_left _ hp
        · exact .inl (List.mem_append_right _ hp)
    | some schema =>
      refine .bind (ensures_recordOf (hfetched schema rfl)) fun rec hrec ↦ ?_
      refine ih ⟨nodup_keys_upsert h.nodup, fun f hf ↦ ?_, fun p hp ↦ ?_⟩
      · rcases mem_upsert hf with hf | rfl
        · obtain ⟨p, hp, hrec⟩ := h.record f hf
          exact ⟨p, List.mem_append_left _ hp, hrec⟩
        · exact ⟨piece, List.mem_append_right _ (List.mem_singleton_self _), rfl, hrec⟩
      · rcases List.mem_append.1 hp with hp | hp
        · exact (h.complete p hp).imp_right fun hp ↦ mem_keys_upsert.2 (.inl hp)
        · obtain rfl := List.mem_singleton.1 hp
          exact .inr (mem_keys_upsert.2 (.inr rfl))

/-- The pieces that could not be fetched so far stay among those that could not be fetched. -/
theorem ensures_failures (targets : List PyStr) (records : Fields) (failures : List PyStr) :
    Ensures (fun _ ↦ True) (fun out ↦ ∃ more, out.2 = failures ++ more) (fun _ ↦ True)
      (fetchTargets schemaHash base targets records failures) := by
  induction targets generalizing records failures with
  | nil => exact ensures_pure ⟨[], (List.append_nil _).symm⟩
  | cons piece targets ih =>
    refine .bind (P := fun _ ↦ True) (fun _ _ _ _ _ _ ↦ ⟨fun _ _ ↦ trivial, fun _ _ ↦ trivial⟩)
      fun fetched _ ↦ ?_
    cases fetched with
    | none =>
      refine (ih records (failures ++ [piece])).mono ?_ fun _ _ ↦ trivial
      rintro out ⟨more, hmore⟩
      exact ⟨[piece] ++ more, by rw [hmore, List.append_assoc]⟩
    | some schema =>
      refine .bind (P := fun _ ↦ True)
        (fun _ _ _ _ _ _ ↦ ⟨fun _ _ ↦ trivial, fun _ _ ↦ trivial⟩) fun rec _ ↦ ih _ _

end Fetch

/-! ### What a run does -/

/-- The indexes are those of the piece files. -/
def Consistent (reg : Registry) : Prop :=
  ∃ indexes, buildIndexes (loadPieceFiles reg) = .ok indexes ∧
    ∀ name, reg.indexes.lookup name = indexes.lookup name

/-- What a file of the registry says of a piece. -/
def Registry.indexEntry (reg : Registry) (kind : IndexKind) (piece : PyStr) : Option PyValue :=
  match reg.indexes.lookup kind.file with
  | some (.dict fields) => fields.lookup piece
  | _ => none

/-- The run has got as far as a target that could not be fetched. -/
def FetchFails (schemaHash : PyValue → PyStr) (args : SyncArgs) (reg : Registry)
    (l : List (SyncQuery × SyncReply)) : Prop :=
  ∃ l₀ base l₁ fetched k e l₂ done piece rest, l = l₀ ++ (l₁ ++ (k ++ l₂)) ∧
    args.targets = done ++ piece :: rest ∧ resolveConfig.Runs reg l₀ (.ok base) reg ∧
    (fetchTargets schemaHash base done [] []).Runs reg l₁ (.ok fetched) reg ∧
    (fetchFullSchema piece).Runs reg k (.error e) reg

section Runs

variable {schemaHash : PyValue → PyStr} {base piece : PyStr} {α : Type} {args : SyncArgs}
  {reg reg' : Registry} {l : List (SyncQuery × SyncReply)}

theorem runs_attempted_iff {m : SyncM α} {x : Except PyError (Option α)} :
    (attempted m).Runs reg l x reg' ↔ (∃ a, x = .ok (some a) ∧ m.Runs reg l (.ok a) reg') ∨
      ∃ e, x = .ok none ∧ m.Runs reg l (.error e) reg' := by
  refine runs_handle_iff.trans (or_congr ?_ ?_)
  · constructor
    · rintro ⟨o, rfl, h⟩
      obtain ⟨l₁, l₂, a, u, rfl, hm, hpure⟩ := runs_bind_ok_iff.1 h
      obtain ⟨rfl, ho, rfl⟩ := runs_pure_iff.1 hpure
      rw [List.append_nil]
      exact ⟨a, ho, hm⟩
    · rintro ⟨a, rfl, h⟩
      exact ⟨some a, rfl, runs_bind_ok_iff.2 ⟨l, [], a, reg', (List.append_nil l).symm, h,
        runs_pure_iff.2 ⟨rfl, rfl, rfl⟩⟩⟩
  · constructor
    · rintro ⟨l₁, l₂, e, u, rfl, h, hnone⟩
      obtain ⟨rfl, rfl, rfl⟩ := runs_pure_iff.1 hnone
      rw [List.append_nil]
      rcases runs_bind_error_iff.1 h with ⟨_, _, a, _, -, -, hpure⟩ | h
      · exact absurd (runs_pure_iff.1 hpure).2.1 (by simp)
      · exact ⟨e, rfl, h⟩
    · rintro ⟨e, rfl, h⟩
      exact ⟨l, [], e, reg', (List.append_nil l).symm, runs_bind_error_iff.2 (.inr h),
        runs_pure_iff.2 ⟨rfl, rfl, rfl⟩⟩

/-- The writing part of a run that completes. -/
theorem runs_writeRegistry {records : Fields}
    (h : (writeRegistry records).Runs reg l (.ok ()) reg') : l = [] ∧ ∃ indexes,
      buildIndexes (records.foldl (fun d f ↦ upsert d f.1 f.2)
        (loadPieceFiles (reg.writePieces records))) = .ok indexes ∧
      reg' = (reg.writePieces records).writeIndexes indexes := by
  have hwrite : (lift (buildIndexes (records.foldl (fun d f ↦ upsert d f.1 f.2)
      (loadPieceFiles (reg.writePieces records)))) >>= fun indexes ↦
        setState ((reg.writePieces records).writeIndexes indexes) : SyncM Unit).Runs
      (reg.writePieces records) l (.ok ()) reg' := h
  rcases runs_lift_bind_iff.1 hwrite with ⟨indexes, hindexes, hset⟩ | ⟨e, -, -, he, -⟩
  · obtain ⟨rfl, -, rfl⟩ := runs_setState_iff.1 hset
    exact ⟨rfl, indexes, hindexes, rfl⟩
  · exact absurd he (by simp)

/-- **A run that completes** writes nothing, or a record for each target and then the indexes of
what is on disk. -/
theorem runs_sync_cases {code : ℕ} (h : (sync schemaHash args).Runs reg l (.ok code) reg') :
    (reg' = reg ∧ (code = 0 → args.dryRun = true)) ∨
      code = 0 ∧ args.dryRun = false ∧ ∃ l₀ base l₁ records indexes, l = l₀ ++ l₁ ∧
        (fetchTargets schemaHash base args.targets [] []).Runs reg l₁ (.ok (records, [])) reg ∧
        buildIndexes (records.foldl (fun d f ↦ upsert d f.1 f.2)
          (loadPieceFiles (reg.writePieces records))) = .ok indexes ∧
        reg' = (reg.writePieces records).writeIndexes indexes := by
  obtain ⟨l₀, l', base, u, rfl, hbase, hrest⟩ := runs_bind_ok_iff.1 h
  obtain ⟨rfl, -⟩ := stateless_attempted stateless_resolveConfig _ _ _ _ hbase
  cases base with
  | none =>
    obtain ⟨-, hcode, rfl⟩ := runs_pure_iff.1 hrest
    exact .inl ⟨rfl, fun hzero ↦ absurd (Except.ok.inj hcode) (by omega)⟩
  | some base =>
    obtain ⟨l₁, l₂, fetched, v, rfl, hfetch, hwritten⟩ := runs_bind_ok_iff.1 hrest
    obtain ⟨rfl, -⟩ := stateless_fetchTargets _ _ _ _ _ _ _ hfetch
    split at hwritten
    · obtain ⟨-, hcode, rfl⟩ := runs_pure_iff.1 hwritten
      exact .inl ⟨rfl, fun hzero ↦ absurd (Except.ok.inj hcode) (by omega)⟩
    rename_i hnone
    split at hwritten
    · rename_i hdry
      obtain ⟨-, hcode, rfl⟩ := runs_pure_iff.1 hwritten
      exact .inl ⟨rfl, fun _ ↦ hdry⟩
    rename_i hdry
    obtain ⟨k₁, k₂, ⟨⟩, w, rfl, hwrite, hdone⟩ := runs_bind_ok_iff.1 hwritten
    obtain ⟨rfl, hcode, rfl⟩ := runs_pure_iff.1 hdone
    obtain ⟨rfl, indexes, hindexes, rfl⟩ := runs_writeRegistry hwrite
    obtain ⟨records, failures⟩ := fetched
    obtain rfl : failures = [] := by simpa using hnone
    exact .inr ⟨Except.ok.inj hcode, by simpa using hdry, l₀, base, l₁, records, indexes, by simp,
      hfetch, hindexes, rfl⟩

/-- A target that could not be fetched is among the failures. -/
theorem failures_ne_nil {done rest : List PyStr} {records : Fields} {failures : List PyStr}
    {l₁ k m l₂ m₂ : List (SyncQuery × SyncReply)} {fetched out : Fields × List PyStr} {e : PyError}
    {u : Registry}
    (hdone : (fetchTargets schemaHash base done records failures).Runs reg l₁ (.ok fetched) reg)
    (hpiece : (fetchFullSchema piece).Runs reg k (.error e) reg)
    (hall : (fetchTargets schemaHash base (done ++ piece :: rest) records failures).Runs reg m
      (.ok out) u) (heq : m ++ m₂ = l₁ ++ (k ++ l₂)) : out.2 ≠ [] := by
  induction done generalizing records failures l₁ m with
  | nil =>
    obtain ⟨rfl, -, -⟩ := runs_pure_iff.1 hdone
    obtain ⟨a₁, a₂, o, v, rfl, hattempt, hrest⟩ := runs_bind_ok_iff.1 hall
    have hfailed : (attempted (fetchFullSchema piece)).Runs reg k (.ok none) reg :=
      runs_attempted_iff.2 (.inr ⟨e, rfl, hpiece⟩)
    obtain ⟨rfl, -, ho, rfl⟩ := hattempt.unique_of_append hfailed
      ((List.append_assoc _ _ _).symm.trans heq)
    obtain rfl := Except.ok.inj ho
    obtain ⟨more, hmore⟩ := (ensures_failures rest records (failures ++ [piece]) _ _ _ _ hrest
      fun _ _ ↦ trivial).1 out rfl
    rw [hmore]
    simp
  | cons p done ih =>
    obtain ⟨b₁, b₂, o, v, rfl, hattempt, hdone'⟩ := runs_bind_ok_iff.1 hdone
    obtain ⟨a₁, a₂, o', v', rfl, hattempt', hall'⟩ := runs_bind_ok_iff.1 hall
    rw [List.append_assoc, List.append_assoc] at heq
    obtain ⟨rfl, heq', ho, rfl⟩ := hattempt'.unique_of_append hattempt heq
    obtain rfl := Except.ok.inj ho
    obtain ⟨rfl, -⟩ := stateless_attempted stateless_fetchFullSchema _ _ _ _ hattempt
    cases o' with
    | none => exact ih hdone' hall' heq'
    | some schema =>
      obtain ⟨c₁, c₂, rec, w, rfl, hrec, hdone''⟩ := runs_bind_ok_iff.1 hdone'
      obtain ⟨d₁, d₂, rec', w', rfl, hrec', hall''⟩ := runs_bind_ok_iff.1 hall'
      rw [List.append_assoc, List.append_assoc] at heq'
      obtain ⟨rfl, heq'', hr, rfl⟩ := hrec'.unique_of_append hrec heq'
      obtain rfl := Except.ok.inj hr
      obtain ⟨rfl, -⟩ := stateless_recordOf _ _ _ _ _ hrec
      exact ih hdone'' hall'' heq''

/-- **A run in which a target cannot be fetched leaves every file as it was.** -/
theorem eq_of_fetchFails {x : Except PyError ℕ} (hfails : FetchFails schemaHash args reg l)
    (h : (sync schemaHash args).Runs reg l x reg') : reg' = reg := by
  obtain ⟨l₀, base, l₁, fetched, k, e, l₂, done, piece, rest, rfl, htargets, hbase, hdone,
    hpiece⟩ := hfails
  have hconfigured : (attempted resolveConfig).Runs reg l₀ (.ok (some base)) reg :=
    runs_attempted_iff.2 (.inl ⟨base, rfl, hbase⟩)
  rcases runs_bind_iff.1 (hconfigured.of_bind_ok h) with ⟨m, m₂, out, u, heq, hall, hrest⟩ | hraised
  · obtain ⟨rfl, -⟩ := stateless_fetchTargets _ _ _ _ _ _ _ hall
    rw [htargets] at hall
    rw [if_pos (failures_ne_nil hdone hpiece hall heq.symm)] at hrest
    exact (runs_pure_iff.1 hrest).2.2
  · obtain ⟨e', -, hall⟩ := hraised
    exact (stateless_fetchTargets _ _ _ _ _ _ _ hall).1

end Runs

/-! ### The invariant -/

/-- Each file is the record of one of the pieces, under its slug, and the indexes are those of the
files, unless nothing has been written yet. -/
structure Sound (pieces : Set PyStr) (reg : Registry) : Prop where
  files : FilesOk reg.pieces
  record : ∀ slug rec, (loadPieceFiles reg).lookup slug = some rec →
    ∃ piece ∈ pieces, slug = shortName piece ∧ IsRecord piece rec
  consistent : reg = .empty ∨ Consistent reg

section Sound

variable {pieces : Set PyStr} {reg : Registry} {targets : List PyStr} {records : Fields}
  {indexes : Indexes}

theorem sound_empty (pieces : Set PyStr) : Sound pieces .empty where
  files := ⟨List.nodup_nil, fun _ hf ↦ absurd hf List.not_mem_nil⟩
  record slug rec h := absurd h (by simp [loadPieceFiles, Registry.empty])
  consistent := .inl rfl

theorem recordsOk_of (hfiles : FilesOk reg.pieces)
    (hrecord : ∀ slug rec, (loadPieceFiles reg).lookup slug = some rec →
      ∃ piece ∈ pieces, slug = shortName piece ∧ IsRecord piece rec) :
    RecordsOk (loadPieceFiles reg) := by
  obtain ⟨hnodup, hlookup⟩ := lookup_loadPieceFiles hfiles
  refine ⟨hnodup, fun f hf ↦ ?_⟩
  have hf' := (lookup_eq_some_iff_mem hnodup).2 hf
  obtain ⟨piece, -, hslug, -, entries, hindex⟩ := hrecord f.1 f.2 hf'
  refine ⟨piece, entries, hslug, ?_, hindex⟩
  rintro rfl
  exact ((hlookup f.1 f.2).1 hf').1.1 hslug

theorem Sound.recordsOk (h : Sound pieces reg) : RecordsOk (loadPieceFiles reg) :=
  recordsOk_of h.files h.record

theorem lookup_indexFiles (indexes : Indexes) (kind : IndexKind) :
    (indexFiles indexes).lookup kind.file = some (.dict (indexes kind)) := by
  cases kind <;> rfl

theorem nodup_keys_indexFiles (indexes : Indexes) :
    ((indexFiles indexes).map Prod.fst).Nodup := by
  show (IndexKind.all.map IndexKind.file).Nodup
  decide

/-- There are no files below `indexes` but the seven. -/
theorem Sound.lookup_indexes_eq_none (h : Sound pieces reg) {name : PyStr}
    (hname : name ∉ IndexKind.all.map IndexKind.file) : reg.indexes.lookup name = none := by
  rcases h.consistent with rfl | ⟨files, hfiles, hsame⟩
  · rfl
  · obtain ⟨indexes, hbuild, -⟩ := exists_buildIndexes h.recordsOk
    obtain rfl := Except.ok.inj (hfiles.symm.trans hbuild)
    rw [hsame]
    by_contra hne
    exact hname (mem_keys_iff.2 (Option.ne_none_iff_exists'.1 hne))

/-- The entries that the indexes have are those of the records. -/
theorem Sound.indexEntry_eq_some_iff (h : Sound pieces reg) {kind : IndexKind} {piece : PyStr}
    {v : PyValue} : reg.indexEntry kind piece = some v ↔
      ∃ rec, (loadPieceFiles reg).lookup (shortName piece) = some rec ∧
        ∃ entries, Indexable piece rec entries ∧ entries kind = v := by
  obtain ⟨indexes, hbuild, -, hlookup⟩ := exists_buildIndexes h.recordsOk
  have hnodup := h.recordsOk.nodup
  have hentry : reg.indexEntry kind piece = (indexes kind).lookup piece := by
    rcases h.consistent with rfl | ⟨files, hfiles, hsame⟩
    · have hnone : (indexes kind).lookup piece = none := by
        by_contra hne
        obtain ⟨v, hv⟩ := Option.ne_none_iff_exists'.1 hne
        obtain ⟨f, hf, -⟩ := (hlookup kind piece v).1 hv
        exact absurd hf (by simp [loadPieceFiles, Registry.empty])
      rw [hnone]
      rfl
    · obtain rfl := Except.ok.inj (hfiles.symm.trans hbuild)
      rw [Registry.indexEntry, hsame, lookup_indexFiles]
  rw [hentry, hlookup]
  constructor
  · rintro ⟨f, hf, entries, hindex, rfl⟩
    obtain ⟨name, entries', hslug, -, hindex'⟩ := h.recordsOk.indexable f hf
    obtain ⟨rfl, -⟩ := hindex.unique hindex'
    exact ⟨f.2, hslug ▸ (lookup_eq_some_iff_mem hnodup).2 hf, entries, hindex, rfl⟩
  · rintro ⟨rec, hrec, entries, hindex, rfl⟩
    exact ⟨_, (lookup_eq_some_iff_mem hnodup).1 hrec, entries, hindex, rfl⟩

@[simp] theorem loadPieceFiles_writeIndexes (files : Fields) :
    loadPieceFiles (reg.writeIndexes files) = loadPieceFiles reg := by
  rw [loadPieceFiles, loadPieceFiles, Registry.writeIndexes]

theorem lookup_writeIndexes {files : Fields} (hnodup : (files.map Prod.fst).Nodup) (name : PyStr)
    (v : PyValue) : (reg.writeIndexes files).indexes.lookup name = some v ↔
      (name, v) ∈ files ∨ name ∉ files.map Prod.fst ∧ reg.indexes.lookup name = some v := by
  refine (lookup_foldl_upsert_iff hnodup).trans (or_congr ?_ Iff.rfl)
  constructor
  · rintro ⟨f, hf, rfl, rfl⟩
    exact hf
  · exact fun hf ↦ ⟨_, hf, rfl, rfl⟩

/-- What the indexes are built from, when the records have been written. -/
theorem Sound.merged (h : Sound pieces reg) (htargets : ∀ piece ∈ targets, piece ∈ pieces)
    (hfile : ∀ piece ∈ pieces, FileSlug (shortName piece))
    (hrecords : Collected targets (records, [])) :
    records.foldl (fun d f ↦ upsert d f.1 f.2) (loadPieceFiles (reg.writePieces records)) =
        loadPieceFiles (reg.writePieces records) ∧
      FilesOk (reg.writePieces records).pieces ∧
      (∀ slug rec, (loadPieceFiles (reg.writePieces records)).lookup slug = some rec →
        ∃ piece ∈ pieces, slug = shortName piece ∧ IsRecord piece rec) ∧
      ∀ slug rec, (loadPieceFiles (reg.writePieces records)).lookup slug = some rec ↔
        (slug, rec) ∈ records ∨
          slug ∉ records.map Prod.fst ∧ (loadPieceFiles reg).lookup slug = some rec := by
  have hslugs : ∀ f ∈ records, FileSlug f.1 := by
    intro f hf
    obtain ⟨piece, hpiece, hslug, -⟩ := hrecords.record f hf
    exact hslug ▸ hfile piece (htargets piece hpiece)
  have hwritten := h.files.writePieces hslugs hrecords.nodup
  have hload := lookup_loadPieceFiles_writePieces h.files hslugs hrecords.nodup
  refine ⟨?_, hwritten, fun slug rec hrec ↦ ?_, hload⟩
  · -- What has just been written is read back, so that merging it changes nothing.
    exact foldl_upsert_eq_self (lookup_loadPieceFiles hwritten).1
      fun f hf ↦ (hload f.1 f.2).2 (.inl hf)
  · rcases (hload slug rec).1 hrec with hmem | ⟨-, hold⟩
    · obtain ⟨piece, hpiece, hslug, hisrec⟩ := hrecords.record _ hmem
      exact ⟨piece, htargets piece hpiece, hslug, hisrec⟩
    · exact h.record slug rec hold

/-- **A run that writes restores the invariant.** -/
theorem Sound.write (h : Sound pieces reg) (htargets : ∀ piece ∈ targets, piece ∈ pieces)
    (hfile : ∀ piece ∈ pieces, FileSlug (shortName piece))
    (hrecords : Collected targets (records, [])) {files : Fields}
    (hfiles : buildIndexes (records.foldl (fun d f ↦ upsert d f.1 f.2)
      (loadPieceFiles (reg.writePieces records))) = .ok files) :
    Sound pieces ((reg.writePieces records).writeIndexes files) ∧
      Consistent ((reg.writePieces records).writeIndexes files) := by
  obtain ⟨hmerged, hwritten, hrecord, -⟩ := h.merged htargets hfile hrecords
  rw [hmerged] at hfiles
  obtain ⟨indexes, hbuild, -⟩ := exists_buildIndexes (recordsOk_of hwritten hrecord)
  obtain rfl := Except.ok.inj (hfiles.symm.trans hbuild)
  have hconsistent : Consistent ((reg.writePieces records).writeIndexes (indexFiles indexes)) := by
    rw [Consistent, loadPieceFiles_writeIndexes]
    refine ⟨_, hfiles, fun name ↦ Option.ext fun v ↦ ?_⟩
    have hnodup := nodup_keys_indexFiles indexes
    rw [lookup_writeIndexes hnodup, lookup_eq_some_iff_mem hnodup]
    refine or_iff_left ?_
    rintro ⟨hname, hold⟩
    exact absurd (hold.symm.trans (h.lookup_indexes_eq_none hname)) (by simp)
  refine ⟨⟨hwritten, ?_, .inr hconsistent⟩, hconsistent⟩
  rw [loadPieceFiles_writeIndexes]
  exact hrecord

/-- The entries of other pieces are as they were. -/
theorem Sound.indexEntry_write (h : Sound pieces reg) (htargets : ∀ piece ∈ targets, piece ∈ pieces)
    (hfile : ∀ piece ∈ pieces, FileSlug (shortName piece)) (hinj : Set.InjOn shortName pieces)
    (hrecords : Collected targets (records, [])) {files : Fields}
    (h' : Sound pieces ((reg.writePieces records).writeIndexes files)) {piece : PyStr}
    (hpiece : piece ∉ targets) (kind : IndexKind) :
    ((reg.writePieces records).writeIndexes files).indexEntry kind piece =
      reg.indexEntry kind piece := by
  obtain ⟨-, -, -, hload⟩ := h.merged htargets hfile hrecords
  refine Option.ext fun v ↦ ?_
  rw [h'.indexEntry_eq_some_iff, h.indexEntry_eq_some_iff, loadPieceFiles_writeIndexes]
  refine exists_congr fun rec ↦ ?_
  constructor
  · rintro ⟨hrec, entries, hindex, rfl⟩
    refine ⟨?_, entries, hindex, rfl⟩
    rcases (hload _ _).1 hrec with hmem | ⟨-, hold⟩
    · obtain ⟨target, htarget, -, -, entries', hindex'⟩ := hrecords.record _ hmem
      exact absurd ((hindex'.unique hindex).1 ▸ htarget) hpiece
    · exact hold
  · rintro ⟨hrec, entries, hindex, rfl⟩
    refine ⟨(hload _ _).2 (.inr ⟨fun hmem ↦ ?_, hrec⟩), entries, hindex, rfl⟩
    obtain ⟨other, hother, -, -, entries', hindex'⟩ := h.record _ _ hrec
    obtain ⟨f, hf, hslug⟩ := List.mem_map.1 hmem
    obtain ⟨target, htarget, hslug', -⟩ := hrecords.record f hf
    have heq := hinj (htargets target htarget) ((hindex'.unique hindex).1 ▸ hother)
      (hslug'.symm.trans hslug)
    exact hpiece (heq ▸ htarget)

/-- **A registry with a record for each target is valid.** -/
theorem validateExisting_eq_zero (h : Sound pieces reg) (hne : loadPieceFiles reg ≠ [])
    {names : List PyStr} (hnames : ∀ t ∈ names,
      ((loadPieceFiles reg).lookup (shortName (canonicalPieceName t))).isSome = true) :
    validateExisting reg names = .ok 0 := by
  obtain ⟨indexes, hbuild, hplain, -⟩ := exists_buildIndexes h.recordsOk
  have hnodup := nodup_keys_indexFiles indexes
  have hrecords : (loadPieceFiles reg).mapM (fun r ↦ recordOk r.2) =
      .ok ((loadPieceFiles reg).map fun _ ↦ true) := by
    refine mapM_eq_ok_map fun f hf ↦ ?_
    obtain ⟨piece, -, -, hok, -⟩ :=
      h.record f.1 f.2 ((lookup_eq_some_iff_mem h.recordsOk.nodup).2 hf)
    exact hok
  have hpresent : (names.all fun t ↦ ((loadPieceFiles reg).lookup
      (shortName (canonicalPieceName t))).isSome) = true := List.all_eq_true.2 hnames
  have hindexes : (indexFiles indexes).all (indexOk reg) = true := by
    rcases h.consistent with rfl | ⟨files, hfiles, hsame⟩
    · exact absurd (by simp [loadPieceFiles, Registry.empty]) hne
    · obtain rfl := Except.ok.inj (hfiles.symm.trans hbuild)
      refine List.all_eq_true.2 fun f hf ↦ ?_
      rw [indexOk, hsame, (lookup_eq_some_iff_mem hnodup).2 hf]
      obtain ⟨kind, -, rfl⟩ := List.mem_map.1 hf
      exact hplain kind
  have hempty : (loadPieceFiles reg).isEmpty = false := by simpa using hne
  have hall : ((loadPieceFiles reg).map fun _ ↦ true).all id = true := by simp
  rw [validateExisting, hempty, hrecords, hbuild]
  show Except.ok (if (_ && _ && _) = true then 0 else 1) = _
  rw [hall, hpresent, hindexes]
  rfl

end Sound

/-! ### Any number of runs -/

/-- A run that has completed. -/
structure CompletedRun where
  args : SyncArgs
  exchanges : List (SyncQuery × SyncReply)
  code : ℕ

namespace CompletedRun

/-- The run has written to the registry. -/
def wrote (run : CompletedRun) : Bool := run.code = 0 && !run.args.dryRun

/-- The run is about some of the pieces, the schemas that it fetches name these, and it takes the
registry from the one state to the other. -/
structure Step (schemaHash : PyValue → PyStr) (pieces : Set PyStr) (run : CompletedRun)
    (reg reg' : Registry) : Prop where
  targets : ∀ piece ∈ run.args.targets, piece ∈ pieces
  named : ∀ e ∈ run.exchanges, NamedReply e
  runs : (sync schemaHash run.args).Runs reg run.exchanges (.ok run.code) reg'

end CompletedRun

/-- The runs, one after the other, take the empty registry to this one. -/
inductive Reached (schemaHash : PyValue → PyStr) (pieces : Set PyStr) :
    List CompletedRun → Registry → Prop
  | empty : Reached schemaHash pieces [] .empty
  | step {runs : List CompletedRun} {run : CompletedRun} {reg reg' : Registry} :
      Reached schemaHash pieces runs reg → run.Step schemaHash pieces reg reg' →
        Reached schemaHash pieces (runs ++ [run]) reg'

/-- The pieces that the runs have written. -/
def syncedPieces (runs : List CompletedRun) : List PyStr :=
  (runs.filter CompletedRun.wrote).flatMap fun run ↦ run.args.targets

section History

variable {schemaHash : PyValue → PyStr} {pieces : Set PyStr} {runs : List CompletedRun}
  {run : CompletedRun} {reg reg' : Registry}

/-- What one run does to a registry that is sound. -/
theorem Sound.step (h : Sound pieces reg) (hinj : Set.InjOn shortName pieces)
    (hfile : ∀ piece ∈ pieces, FileSlug (shortName piece))
    (hstep : run.Step schemaHash pieces reg reg') :
    Sound pieces reg' ∧
      (∀ kind piece, piece ∉ run.args.targets →
        reg'.indexEntry kind piece = reg.indexEntry kind piece) ∧
      (run.wrote = false → reg' = reg) ∧
      (run.wrote = true → Consistent reg' ∧ (∀ piece ∈ run.args.targets,
        ((loadPieceFiles reg').lookup (shortName piece)).isSome = true) ∧
        ∀ slug, ((loadPieceFiles reg).lookup slug).isSome = true →
          ((loadPieceFiles reg').lookup slug).isSome = true) := by
  rcases runs_sync_cases hstep.runs with ⟨rfl, hdry⟩ |
    ⟨hcode, hdry, l₀, base, l₁, records, files, hl, hfetch, hbuild, rfl⟩
  · have hwrote : run.wrote = false := by
      by_contra hne
      have hboth : run.code = 0 ∧ run.args.dryRun = false := by
        simpa [CompletedRun.wrote] using hne
      exact absurd ((hdry hboth.1).symm.trans hboth.2) (by simp)
    exact ⟨h, fun _ _ _ ↦ rfl, fun _ ↦ rfl, fun hw ↦ absurd (hw.symm.trans hwrote) (by simp)⟩
  · have hwrote : run.wrote = true := by simp [CompletedRun.wrote, hcode, hdry]
    have hnone : Collected [] ([], []) :=
      ⟨List.nodup_nil, fun _ hf ↦ absurd hf List.not_mem_nil, fun _ hp ↦ absurd hp List.not_mem_nil⟩
    have hrecords : Collected run.args.targets (records, []) :=
      (ensures_fetchTargets run.args.targets hnone _ _ _ _ hfetch
        fun e he ↦ hstep.named e (hl ▸ List.mem_append_right _ he)).1 _ rfl
    obtain ⟨-, -, -, hload⟩ := h.merged hstep.targets hfile hrecords
    obtain ⟨hsound, hconsistent⟩ := h.write hstep.targets hfile hrecords hbuild
    refine ⟨hsound, fun kind piece hpiece ↦ ?_, fun hw ↦ absurd (hw.symm.trans hwrote) (by simp),
      fun _ ↦ ⟨hconsistent, fun piece hpiece ↦ ?_, fun slug hslug ↦ ?_⟩⟩
    · exact h.indexEntry_write hstep.targets hfile hinj hrecords hsound hpiece kind
    · rw [loadPieceFiles_writeIndexes]
      obtain ⟨f, hf, heq⟩ := List.mem_map.1
        ((hrecords.complete piece hpiece).resolve_left List.not_mem_nil)
      rw [← heq, (hload f.1 f.2).2 (.inl hf)]
      rfl
    · rw [loadPieceFiles_writeIndexes]
      obtain ⟨rec, hrec⟩ := Option.isSome_iff_exists.1 hslug
      by_cases hmem : slug ∈ records.map Prod.fst
      · obtain ⟨f, hf, rfl⟩ := List.mem_map.1 hmem
        rw [(hload f.1 f.2).2 (.inl hf)]
        rfl
      · rw [(hload slug rec).2 (.inr ⟨hmem, hrec⟩)]
        rfl

/-- What holds after any number of runs. -/
theorem Reached.invariant (h : Reached schemaHash pieces runs reg)
    (hinj : Set.InjOn shortName pieces) (hfile : ∀ piece ∈ pieces, FileSlug (shortName piece)) :
    Sound pieces reg ∧ (runs.any CompletedRun.wrote = true → Consistent reg) ∧
      ∀ piece ∈ syncedPieces runs,
        ((loadPieceFiles reg).lookup (shortName piece)).isSome = true := by
  induction h with
  | empty => exact ⟨sound_empty pieces, fun h ↦ absurd h (by simp),
      fun _ hp ↦ absurd hp List.not_mem_nil⟩
  | @step runs run reg reg' _ hstep ih =>
    obtain ⟨hsound, hconsistent, hsynced⟩ := ih
    obtain ⟨hsound', -, hsame, hwritten⟩ := hsound.step hinj hfile hstep
    have hany : (runs ++ [run]).any CompletedRun.wrote =
        (runs.any CompletedRun.wrote || run.wrote) := by simp
    cases hwrote : run.wrote with
    | false =>
      obtain rfl := hsame hwrote
      have hpieces : syncedPieces (runs ++ [run]) = syncedPieces runs := by
        simp [syncedPieces, hwrote]
      rw [hany, hwrote, Bool.or_false, hpieces]
      exact ⟨hsound', hconsistent, hsynced⟩
    | true =>
      obtain ⟨hconsistent', htargets, hkept⟩ := hwritten hwrote
      have hpieces : syncedPieces (runs ++ [run]) = syncedPieces runs ++ run.args.targets := by
        simp [syncedPieces, hwrote]
      refine ⟨hsound', fun _ ↦ hconsistent', ?_⟩
      rw [hpieces]
      exact List.forall_mem_append.2 ⟨fun piece hp ↦ hkept _ (hsynced piece hp), htargets⟩

/-- **The registry stays consistent.** After any sequence of runs the indexes are those of the
files, once something has been written; the last run leaves the entries of other pieces alone; what
has been written is valid; and a run in which a target cannot be fetched changes no file. -/
theorem sync_consistent (hinj : Set.InjOn shortName pieces)
    (hfile : ∀ piece ∈ pieces, FileSlug (shortName piece))
    (h : Reached schemaHash pieces runs reg) (hstep : run.Step schemaHash pieces reg reg') :
    ((runs ++ [run]).any CompletedRun.wrote = true → Consistent reg') ∧
      (∀ kind piece, piece ∉ run.args.targets →
        reg'.indexEntry kind piece = reg.indexEntry kind piece) ∧
      (syncedPieces (runs ++ [run]) ≠ [] → ∀ names : List PyStr,
        (∀ t ∈ names, canonicalPieceName t ∈ syncedPieces (runs ++ [run])) →
          validateExisting reg' names = .ok 0) ∧
      ∀ args l x reg'', FetchFails schemaHash args reg' l →
        (sync schemaHash args).Runs reg' l x reg'' → reg'' = reg' := by
  obtain ⟨hsound, hconsistent, hsynced⟩ := (h.step hstep).invariant hinj hfile
  obtain ⟨-, hothers, -⟩ := (h.invariant hinj hfile).1.step hinj hfile hstep
  refine ⟨hconsistent, hothers, fun hne names hnames ↦ ?_,
    fun args l x reg'' hfails hrun ↦ eq_of_fetchFails hfails hrun⟩
  refine validateExisting_eq_zero hsound (fun hempty ↦ ?_) fun t ht ↦ hsynced _ (hnames t ht)
  obtain ⟨piece, hpiece⟩ := List.exists_mem_of_ne_nil _ hne
  have hsome := hsynced piece hpiece
  rw [hempty] at hsome
  exact absurd hsome (by simp)

end History

/-! ### Concrete runs -/

section Example

/-- A schema with nothing but a name. -/
def bareSchema (piece : PyStr) : PyValue :=
  pyDict [("name", .str piece), ("actions", .dict []), ("triggers", .dict [])]

/-- Its record. -/
def bareRecord (piece : PyStr) : PyValue :=
  pyDict [("pieceName", .str piece), ("displayName", .null), ("version", .null), ("auth", noAuth),
    ("actions", .dict []), ("triggers", .dict []), ("schema_hash", .str []),
    ("synced_at", .str []), ("source_url", .str (text "/api/v1/pieces/" ++ piece)),
    ("registry_format_version", .int registryFormatVersion)]

/-- The exchanges of a run for one piece. -/
def bareExchanges (piece : PyStr) : List (SyncQuery × SyncReply) :=
  [(.config, .answered (.str [])), (.getPiece piece none, .answered (bareSchema piece)),
    (.now, .answered (.str []))]

variable {piece : PyStr} {args : SyncArgs} {reg : Registry}

theorem plain_bareSchema (piece : PyStr) : Plain (bareSchema piece) :=
  plain_pyDict (by simp) (by simp [Plain, eq, subDict])

theorem entry_bareSchema (piece : PyStr) :
    (bareSchema piece).entry "name" = some (.str piece) ∧
      (bareSchema piece).entryD "actions" = .dict [] ∧
      (bareSchema piece).entryD "triggers" = .dict [] := by
  simp only [entryD, bareSchema, entry_pyDict]
  exact ⟨rfl, rfl, rfl⟩

theorem build_bareSchema (piece : PyStr) : buildPieceRecord (fun _ ↦ []) (.str [])
    (bareSchema piece) (text "/api/v1/pieces/" ++ piece) = .ok (bareRecord piece) := by
  obtain ⟨hname, hactions, htriggers⟩ := entry_bareSchema piece
  have hrest : (bareSchema piece).entryD "displayName" = .null ∧
      (bareSchema piece).entryD "version" = .null ∧ (bareSchema piece).entryD "auth" = .null := by
    simp only [entryD, bareSchema, entry_pyDict]
    exact ⟨rfl, rfl, rfl⟩
  rw [buildPieceRecord, hname, hactions, htriggers, hrest.1, hrest.2.1, hrest.2.2]
  rfl

theorem isRecord_bareRecord (piece : PyStr) : IsRecord piece (bareRecord piece) :=
  ⟨recordOk_of_build (build_bareSchema piece), indexable_of_build (build_bareSchema piece)
    (entry_bareSchema piece).1 (plain_bareSchema piece) (plain_str _)⟩

theorem namedReply_bareExchanges (piece : PyStr) : ∀ e ∈ bareExchanges piece, NamedReply e := by
  simp only [bareExchanges, List.forall_mem_cons, List.not_mem_nil, false_implies, implies_true,
    and_true]
  exact ⟨trivial, fun _ ↦ ⟨(entry_bareSchema piece).1, plain_bareSchema piece⟩, trivial⟩

theorem runs_fetch_bare : (fetchFullSchema piece).Runs reg
    [(.getPiece piece none, .answered (bareSchema piece))] (.ok (bareSchema piece)) reg := by
  obtain ⟨-, hactions, htriggers⟩ := entry_bareSchema piece
  have hsecond : secondPass piece (bareSchema piece) = pure (bareSchema piece) := by
    rw [secondPass, hactions, htriggers]
    rfl
  have hcheck : checkSchema (bareSchema piece) = pure (bareSchema piece) := by
    rw [checkSchema, hactions, htriggers]
    rfl
  have hget : (getPiece piece none).Runs reg
      [(.getPiece piece none, .answered (bareSchema piece))] (.ok (some (bareSchema piece))) reg :=
    runs_ask_bind_iff.2 ⟨_, [], rfl, rfl, rfl⟩
  refine runs_bind_ok_iff.2 ⟨[_], [], _, reg, rfl, hget, ?_⟩
  show (secondPass piece (bareSchema piece) >>= checkSchema).Runs _ _ _ _
  rw [hsecond]
  refine runs_pure_bind_iff.2 ?_
  rw [hcheck]
  exact runs_pure_iff.2 ⟨rfl, rfl, rfl⟩

theorem runs_fetch_raised : (fetchFullSchema piece).Runs reg
    [(.getPiece piece none, .raised)] (.error .runtimeError) reg :=
  runs_bind_error_iff.2 (.inr (runs_ask_bind_iff.2 ⟨_, [], rfl, rfl, rfl⟩))

theorem runs_record_bare : (recordOf (fun _ ↦ []) [] piece (bareSchema piece)).Runs reg
    [(.now, .answered (.str []))] (.ok (bareRecord piece)) reg := by
  have hnow : nowIso.Runs reg [(.now, .answered (.str []))] (.ok (.str [])) reg :=
    runs_ask_bind_iff.2 ⟨_, [], rfl, rfl, rfl⟩
  refine runs_bind_ok_iff.2 ⟨[_], [], _, reg, rfl, hnow, ?_⟩
  exact runs_lift_iff.2 ⟨rfl, (build_bareSchema piece).symm, rfl⟩

theorem runs_configured : (attempted resolveConfig).Runs reg [(.config, .answered (.str []))]
    (.ok (some [])) reg :=
  runs_attempted_iff.2 (.inl ⟨[], rfl, runs_ask_bind_iff.2 ⟨_, [], rfl, rfl, rfl⟩⟩)

/-- A run whose targets can all be fetched. -/
theorem runs_sync_of_fetch {l : List (SyncQuery × SyncReply)} {records files : Fields}
    (hdry : args.dryRun = false)
    (hfetch : (fetchTargets (fun _ ↦ []) [] args.targets [] []).Runs reg l (.ok (records, [])) reg)
    (hfiles : buildIndexes (records.foldl (fun d f ↦ upsert d f.1 f.2)
      (loadPieceFiles (reg.writePieces records))) = .ok files) :
    (sync (fun _ ↦ []) args).Runs reg ((.config, .answered (.str [])) :: l) (.ok 0)
      ((reg.writePieces records).writeIndexes files) := by
  have hwrite : (writeRegistry records).Runs reg [] (.ok ())
      ((reg.writePieces records).writeIndexes files) :=
    runs_getState_bind_iff.2 (runs_setState_bind_iff.2 (runs_lift_bind_iff.2
      (.inl ⟨files, hfiles, runs_setState_iff.2 ⟨rfl, rfl, rfl⟩⟩)))
  refine runs_bind_ok_iff.2 ⟨[_], l, _, reg, rfl, runs_configured, ?_⟩
  refine runs_bind_ok_iff.2 ⟨l, [], _, reg, (List.append_nil l).symm, hfetch, ?_⟩
  rw [if_neg (by simp), if_neg (by simp [hdry])]
  exact runs_bind_ok_iff.2 ⟨[], [], (), _, rfl, hwrite, runs_pure_iff.2 ⟨rfl, rfl, rfl⟩⟩

theorem runs_fetchTargets_bare {rest : List PyStr} {records : Fields} {failures : List PyStr}
    {l : List (SyncQuery × SyncReply)} {x : Except PyError (Fields × List PyStr)}
    (h : (fetchTargets (fun _ ↦ []) [] rest (upsert records (shortName piece) (bareRecord piece))
      failures).Runs reg l x reg) :
    (fetchTargets (fun _ ↦ []) [] (piece :: rest) records failures).Runs reg
      ((.getPiece piece none, .answered (bareSchema piece)) :: (.now, .answered (.str [])) :: l) x
        reg := by
  refine runs_bind_iff.2 (.inl ⟨[_], _, _, reg, rfl,
    runs_attempted_iff.2 (.inl ⟨_, rfl, runs_fetch_bare⟩), ?_⟩)
  exact runs_bind_iff.2 (.inl ⟨[_], l, _, reg, rfl, runs_record_bare, h⟩)

theorem runs_fetchTargets_raised {rest : List PyStr} {records : Fields} {failures : List PyStr}
    {l : List (SyncQuery × SyncReply)} {x : Except PyError (Fields × List PyStr)}
    (h : (fetchTargets (fun _ ↦ []) [] rest records (failures ++ [piece])).Runs reg l x reg) :
    (fetchTargets (fun _ ↦ []) [] (piece :: rest) records failures).Runs reg
      ((.getPiece piece none, .raised) :: l) x reg :=
  runs_bind_iff.2 (.inl ⟨[_], l, none, reg, rfl,
    runs_attempted_iff.2 (.inr ⟨_, rfl, runs_fetch_raised⟩), h⟩)

/-- A run for one piece. -/
theorem runs_sync_bare (htargets : args.targets = [piece]) (hdry : args.dryRun = false)
    {files : Fields} (hfiles : buildIndexes ([(shortName piece, bareRecord piece)].foldl
      (fun d f ↦ upsert d f.1 f.2)
      (loadPieceFiles (reg.writePieces [(shortName piece, bareRecord piece)]))) = .ok files) :
    (sync (fun _ ↦ []) args).Runs reg (bareExchanges piece) (.ok 0)
      ((reg.writePieces [(shortName piece, bareRecord piece)]).writeIndexes files) := by
  refine runs_sync_of_fetch hdry ?_ hfiles
  rw [htargets]
  exact runs_fetchTargets_bare (runs_pure_iff.2 ⟨rfl, rfl, rfl⟩)

/-- A run for two pieces, the second of which cannot be fetched. -/
theorem runs_sync_refused {other : PyStr} (htargets : args.targets = [piece, other]) :
    (sync (fun _ ↦ []) args).Runs reg (bareExchanges piece ++ [(.getPiece other none, .raised)])
      (.ok 1) reg := by
  obtain ⟨records, hfetch⟩ : ∃ records, (fetchTargets (fun _ ↦ []) [] args.targets [] []).Runs reg
      ((bareExchanges piece).tail ++ [(.getPiece other none, .raised)]) (.ok (records, [other]))
        reg := by
    rw [htargets]
    exact ⟨_, runs_fetchTargets_bare
      (runs_fetchTargets_raised (runs_pure_iff.2 ⟨rfl, rfl, rfl⟩))⟩
  refine runs_bind_ok_iff.2 ⟨[_], _, _, reg, rfl, runs_configured, ?_⟩
  exact runs_bind_ok_iff.2 ⟨_, [], _, reg, (List.append_nil _).symm, hfetch,
    runs_pure_iff.2 ⟨rfl, rfl, rfl⟩⟩

theorem fetchFails_refused {other : PyStr} (htargets : args.targets = [piece, other]) :
    FetchFails (fun _ ↦ []) args reg
      (bareExchanges piece ++ [(.getPiece other none, .raised)]) := by
  obtain ⟨fetched, hfetch⟩ : ∃ fetched, (fetchTargets (fun _ ↦ []) [] [piece] [] []).Runs reg
      (bareExchanges piece).tail (.ok fetched) reg :=
    ⟨_, runs_fetchTargets_bare (runs_pure_iff.2 ⟨rfl, rfl, rfl⟩)⟩
  have hconfig : resolveConfig.Runs reg [(.config, .answered (.str []))] (.ok []) reg :=
    runs_ask_bind_iff.2 ⟨_, [], rfl, rfl, rfl⟩
  exact ⟨[_], [], _, fetched, [_], _, [], [piece], other, [], rfl, htargets, hconfig, hfetch,
    runs_fetch_raised⟩

/-- From a registry that is sound, a run for one piece can be made. -/
theorem Sound.exists_step {pieces : Set PyStr} (h : Sound pieces reg)
    (hfile : ∀ piece ∈ pieces, FileSlug (shortName piece)) (hpiece : piece ∈ pieces)
    (htargets : args.targets = [piece]) (hdry : args.dryRun = false) :
    ∃ reg', (CompletedRun.mk args (bareExchanges piece) 0).Step (fun _ ↦ []) pieces reg reg' := by
  have hmem : ∀ target ∈ [piece], target ∈ pieces := List.forall_mem_singleton.2 hpiece
  have hcollected : Collected [piece] ([(shortName piece, bareRecord piece)], []) :=
    ⟨by simp, by simp [isRecord_bareRecord], by simp⟩
  obtain ⟨hmerged, hok, hrecord, -⟩ := h.merged hmem hfile hcollected
  obtain ⟨indexes, hbuild, -⟩ := exists_buildIndexes (recordsOk_of hok hrecord)
  exact ⟨_, by rw [htargets]; exact hmem, namedReply_bareExchanges piece,
    runs_sync_bare htargets hdry (by rw [hmerged]; exact hbuild)⟩

/-- Two pieces. -/
def samplePieces : Set PyStr :=
  {text "@activepieces/piece-gmail", text "@activepieces/piece-slack"}

/-- A run for Gmail. -/
def gmailRun : CompletedRun :=
  ⟨⟨text "gmail", false⟩, bareExchanges (text "@activepieces/piece-gmail"), 0⟩

/-- A run for both, in which Slack cannot be fetched. -/
def refusedRun : CompletedRun :=
  ⟨⟨text "gmail,slack", false⟩, bareExchanges (text "@activepieces/piece-gmail") ++
    [(.getPiece (text "@activepieces/piece-slack") none, .raised)], 1⟩

/-- A run for Slack. -/
def slackRun : CompletedRun :=
  ⟨⟨text "slack", false⟩, bareExchanges (text "@activepieces/piece-slack"), 0⟩

theorem fileSlug_samplePieces : ∀ piece ∈ samplePieces, FileSlug (shortName piece) := by
  rintro piece (rfl | rfl)
  · exact ⟨by decide, by decide⟩
  · exact ⟨by decide, by decide⟩

theorem targets_refusedRun : refusedRun.args.targets =
    [text "@activepieces/piece-gmail", text "@activepieces/piece-slack"] := by decide

theorem refusedRun_step (reg : Registry) :
    refusedRun.Step (fun _ ↦ []) samplePieces reg reg := by
  refine ⟨?_, ?_, runs_sync_refused targets_refusedRun⟩
  · rw [targets_refusedRun]
    exact List.forall_mem_cons.2 ⟨.inl rfl, List.forall_mem_singleton.2 (.inr rfl)⟩
  · exact List.forall_mem_append.2 ⟨namedReply_bareExchanges _, List.forall_mem_singleton.2 trivial⟩

/-- Gmail is synced, then a run for both fails, then Slack is synced: the registry is consistent,
what it says of Gmail has not changed, both pieces are valid, and the failing run made once more
changes nothing. -/
theorem partial_runs_synced : ∃ reg reg',
    gmailRun.Step (fun _ ↦ []) samplePieces .empty reg ∧
    refusedRun.Step (fun _ ↦ []) samplePieces reg reg ∧
    slackRun.Step (fun _ ↦ []) samplePieces reg reg' ∧ Consistent reg' ∧
    (∀ kind, reg'.indexEntry kind (text "@activepieces/piece-gmail") =
      reg.indexEntry kind (text "@activepieces/piece-gmail")) ∧
    validateExisting reg' [text "gmail", text "slack"] = .ok 0 ∧
    ∀ x reg'', (sync (fun _ ↦ []) refusedRun.args).Runs reg' refusedRun.exchanges x reg'' →
      reg'' = reg' := by
  have hinj : Set.InjOn shortName samplePieces := Set.injOn_pair.2 (by decide)
  obtain ⟨reg, hgmail⟩ : ∃ reg, gmailRun.Step (fun _ ↦ []) samplePieces .empty reg :=
    (sound_empty samplePieces).exists_step fileSlug_samplePieces (.inl rfl) (by decide) rfl
  have hfirst : Reached (fun _ ↦ []) samplePieces [gmailRun, refusedRun] reg :=
    (Reached.empty.step hgmail).step (refusedRun_step reg)
  obtain ⟨reg', hslack⟩ : ∃ reg', slackRun.Step (fun _ ↦ []) samplePieces reg reg' :=
    (hfirst.invariant hinj fileSlug_samplePieces).1.exists_step fileSlug_samplePieces (.inr rfl)
      (by decide) rfl
  obtain ⟨hconsistent, hothers, hvalid, hfails⟩ :=
    sync_consistent hinj fileSlug_samplePieces hfirst hslack
  have hsynced : syncedPieces ([gmailRun, refusedRun] ++ [slackRun]) =
      [text "@activepieces/piece-gmail", text "@activepieces/piece-slack"] := by decide
  refine ⟨reg, reg', hgmail, refusedRun_step reg, hslack, hconsistent rfl,
    fun kind ↦ hothers kind _ (by decide), ?_,
    fun x reg'' ↦ hfails _ _ x reg'' (fetchFails_refused targets_refusedRun)⟩
  refine hvalid (by rw [hsynced]; simp) _ ?_
  rw [hsynced]
  decide

/-! Runs that the theorem does not cover. -/

/-- Indexes can be built from records that can be indexed. -/
theorem exists_buildIndexes_of {records : Fields}
    (h : ∀ f ∈ records, ∃ name entries, name ≠ [] ∧ Indexable name f.2 entries) :
    ∃ files, buildIndexes records = .ok files := by
  have hrecs : ∀ rec ∈ bySlug records, ∃ name, ∃ entries, Indexable name rec entries ∧
      name ≠ [] := by
    intro rec hrec
    obtain ⟨f, hf, rfl⟩ := List.mem_map.1 hrec
    obtain ⟨name, entries, hname, hindex⟩ := h f (List.mem_mergeSort.1 hf)
    exact ⟨name, entries, hindex, hname⟩
  choose! nameOf entriesOf hof using hrecs
  exact ⟨_, by rw [buildIndexes, foldlM_addPiece hof]; rfl⟩

theorem exists_buildIndexes_bare (piece : PyStr) {records : Fields} (hpiece : piece ≠ [])
    (h : ∀ f ∈ records, f.2 = bareRecord piece) : ∃ files, buildIndexes records = .ok files := by
  refine exists_buildIndexes_of fun f hf ↦ ?_
  obtain ⟨entries, hindex⟩ := (isRecord_bareRecord piece).2
  exact ⟨piece, entries, hpiece, h f hf ▸ hindex⟩

theorem loadPieceFiles_of_nil (indexes : Fields) : loadPieceFiles ⟨[], indexes⟩ = [] := by
  simp [loadPieceFiles]

/-- A run that is asked for nothing leaves a registry that is not valid. -/
theorem empty_run_not_valid : ∃ reg,
    (sync (fun _ ↦ []) ⟨text ",", false⟩).Runs .empty [(.config, .answered (.str []))] (.ok 0)
      reg ∧ validateExisting reg [] = .ok 1 := by
  have htargets : (SyncArgs.mk (text ",") false).targets = [] := by decide
  have hload : loadPieceFiles (Registry.empty.writePieces []) = [] := loadPieceFiles_of_nil _
  have hfetch : (fetchTargets (fun _ ↦ []) [] (SyncArgs.mk (text ",") false).targets [] []).Runs
      .empty [] (.ok ([], [])) .empty := by
    rw [htargets]
    exact runs_pure_iff.2 ⟨rfl, rfl, rfl⟩
  obtain ⟨files, hfiles⟩ : ∃ files, buildIndexes [] = .ok files :=
    exists_buildIndexes_of fun _ hf ↦ absurd hf List.not_mem_nil
  refine ⟨_, runs_sync_of_fetch rfl hfetch (by rw [hload]; exact hfiles), ?_⟩
  rw [validateExisting, loadPieceFiles_writeIndexes, hload]
  rfl

/-- A piece with a slash in its name is in the indexes, but not among the files that are read. -/
theorem slashed_run_not_consistent : ∃ reg,
    (sync (fun _ ↦ []) ⟨text "x/y", false⟩).Runs .empty
      (bareExchanges (text "@activepieces/piece-x/y")) (.ok 0) reg ∧ ¬ Consistent reg := by
  have htargets : (SyncArgs.mk (text "x/y") false).targets = [text "@activepieces/piece-x/y"] := by
    decide
  have hload : loadPieceFiles (Registry.empty.writePieces
      [(shortName (text "@activepieces/piece-x/y"),
        bareRecord (text "@activepieces/piece-x/y"))]) = [] := by
    have hname : matchesJson (text "x/y.json") = false := by decide
    show loadPieceFiles ⟨[(text "x/y.json", bareRecord (text "@activepieces/piece-x/y"))], []⟩ = []
    simp [loadPieceFiles, hname]
  have hrecords : RecordsOk [(shortName (text "@activepieces/piece-x/y"),
      bareRecord (text "@activepieces/piece-x/y"))] := by
    refine ⟨by simp, List.forall_mem_singleton.2 ?_⟩
    obtain ⟨entries, hindex⟩ := (isRecord_bareRecord (text "@activepieces/piece-x/y")).2
    exact ⟨_, entries, rfl, by decide, hindex⟩
  obtain ⟨indexes, hbuild, -, hlookup⟩ := exists_buildIndexes hrecords
  refine ⟨_, runs_sync_bare htargets rfl (by rw [hload]; exact hbuild), ?_⟩
  rintro ⟨files, hfiles, hsame⟩
  -- Nothing is read back, so the index of the actions should be empty.
  have hnothing : RecordsOk [] := ⟨List.nodup_nil, fun _ hf ↦ absurd hf List.not_mem_nil⟩
  obtain ⟨empty, hempty, -, hnone⟩ := exists_buildIndexes hnothing
  rw [loadPieceFiles_writeIndexes, hload] at hfiles
  obtain rfl := Except.ok.inj (hfiles.symm.trans hempty)
  have hactions := hsame IndexKind.actions.file
  have hnodup := nodup_keys_indexFiles indexes
  rw [lookup_indexFiles, lookup_writeIndexes hnodup, ← lookup_eq_some_iff_mem hnodup,
    lookup_indexFiles] at hactions
  obtain ⟨entries, hindex⟩ := (isRecord_bareRecord (text "@activepieces/piece-x/y")).2
  have hentry := (hlookup .actions _ _).2 ⟨_, List.mem_singleton_self _, entries, hindex, rfl⟩
  rcases hactions with heq | ⟨hnot, -⟩
  · rw [PyValue.dict.inj (Option.some.inj heq)] at hentry
    obtain ⟨f, hf, -⟩ := (hnone .actions _ _).1 hentry
    exact absurd hf List.not_mem_nil
  · exact hnot (mem_keys_iff.2 ⟨_, lookup_indexFiles indexes .actions⟩)

/-- A piece without a slug is not found again. -/
theorem nameless_run_not_valid : ∃ reg,
    (sync (fun _ ↦ []) ⟨text "@activepieces/piece-", false⟩).Runs .empty
      (bareExchanges (text "@activepieces/piece-")) (.ok 0) reg ∧
        validateExisting reg [text "@activepieces/piece-"] = .ok 1 := by
  have htargets : (SyncArgs.mk (text "@activepieces/piece-") false).targets =
      [text "@activepieces/piece-"] := by decide
  have hload : loadPieceFiles (Registry.empty.writePieces
      [(shortName (text "@activepieces/piece-"), bareRecord (text "@activepieces/piece-"))]) =
        [(text ".json", bareRecord (text "@activepieces/piece-"))] := by
    have hname : matchesJson (text ".json") = true := by decide
    show loadPieceFiles ⟨[(text ".json", bareRecord (text "@activepieces/piece-"))], []⟩ = _
    simp [loadPieceFiles, hname, stem, upsert]
  obtain ⟨files, hfiles⟩ : ∃ files, buildIndexes ([(shortName (text "@activepieces/piece-"),
      bareRecord (text "@activepieces/piece-"))].foldl (fun d f ↦ upsert d f.1 f.2)
        [(text ".json", bareRecord (text "@activepieces/piece-"))]) = .ok files := by
    refine exists_buildIndexes_bare (text "@activepieces/piece-") (by decide) ?_
    intro f hf
    rw [List.foldl_cons, List.foldl_nil] at hf
    rcases mem_upsert hf with hf | rfl
    · rw [List.mem_singleton.1 hf]
    · rfl
  refine ⟨_, runs_sync_bare htargets rfl (by rw [hload]; exact hfiles), ?_⟩
  obtain ⟨expected, hexpected⟩ : ∃ files, buildIndexes
      [(text ".json", bareRecord (text "@activepieces/piece-"))] = .ok files :=
    exists_buildIndexes_bare (text "@activepieces/piece-") (by decide) (by simp)
  have hrecord := (isRecord_bareRecord (text "@activepieces/piece-")).1
  rw [validateExisting, loadPieceFiles_writeIndexes, hload]
  refine bind_eq_ok_iff.2 ⟨[true], ?_, bind_eq_ok_iff.2 ⟨expected, hexpected, ?_⟩⟩
  · rw [List.mapM_cons, hrecord]
    rfl
  · rfl

/-- **Runs that complete, after which the registry is not valid or not consistent**: one that is
asked for nothing, one for a piece with a slash in its name, and one for a piece without a slug. -/
theorem completed_but_inconsistent :
    (∃ reg, (sync (fun _ ↦ []) ⟨text ",", false⟩).Runs .empty [(.config, .answered (.str []))]
      (.ok 0) reg ∧ validateExisting reg [] = .ok 1) ∧
    (∃ reg, (sync (fun _ ↦ []) ⟨text "x/y", false⟩).Runs .empty
      (bareExchanges (text "@activepieces/piece-x/y")) (.ok 0) reg ∧ ¬ Consistent reg) ∧
    ∃ reg, (sync (fun _ ↦ []) ⟨text "@activepieces/piece-", false⟩).Runs .empty
      (bareExchanges (text "@activepieces/piece-")) (.ok 0) reg ∧
        validateExisting reg [text "@activepieces/piece-"] = .ok 1 :=
  ⟨empty_run_not_valid, slashed_run_not_consistent, nameless_run_not_valid⟩

end Example

end RegistrySync

end Siyadah
