import Mathlib.Data.List.Dedup
import SiyadahOrchestrator.Flows.BuildGuarantee
import SiyadahOrchestrator.Flows.Registration

/-!
# The check for duplicates

`v2_check_duplicate` compares a trigger and a set of pieces with the rows of the caller's tenant.
The pieces of a row are those that its manifest lists under `pieces`.

`register-employee` writes such a list; `golden_build` does not. So a flow that was built is found
again only if its tree uses no piece (`detectsBuilt_iff`). No tenant is told of another one's flow.
-/

namespace Siyadah

open Dialogue SiyadahEngine PyValue

/-! ### The check -/

/-- `sorted(set(...))`, for names. -/
def sortedNames (names : List PyStr) : List PyStr := names.dedup.mergeSort PyStr.le

theorem mem_sortedNames {names : List PyStr} {name : PyStr} :
    name ∈ sortedNames names ↔ name ∈ names := by
  rw [sortedNames, List.mem_mergeSort, List.mem_dedup]

theorem sortedNames_nil : sortedNames [] = [] := by
  rw [sortedNames, List.dedup_nil, List.mergeSort_nil]

/-- A set of names is empty if there are no names. -/
theorem sortedNames_eq_nil_iff {names : List PyStr} : sortedNames names = [] ↔ names = [] := by
  rw [List.eq_nil_iff_forall_not_mem, List.eq_nil_iff_forall_not_mem]
  simp only [mem_sortedNames]

/-- A value that is a string. -/
def asName : PyValue → Option PyStr
  | .str s => some s
  | _ => none

/-- The value is `None`. -/
def isNone : PyValue → Bool
  | .null => true
  | _ => false

/-- `sorted(set(pieces))`; `none` where these are no names, but numbers, or `None` alone. -/
def sortedSet (pieces : PyValue) : Except PyError (Option (List PyStr)) := do
  let items ← pieces.items
  let values := items.map Subtype.val
  match values.mapM asName with
  | some names => pure (some (sortedNames names))
  | none =>
    -- a set holds no list and no dictionary, and values of different types do not compare
    if values.all (fun v ↦ v.number?.isSome) || values.all isNone then pure none
    else throw .typeError

/-- `sorted(set((r.piece_manifest or {}).get("pieces") or []))`. -/
def FlowRow.pieces (r : FlowRow) : Except PyError (Option (List PyStr)) := do
  let listed ← (r.pieceManifest.orElse (.dict [])).get "pieces"
  sortedSet (listed.orElse (.list []))

/-- What an answer tells of a flow. -/
structure FlowSummary where
  flowId : PyStr
  displayName : PyStr
  triggerType : Option PyStr
  pieces : List PyStr
  registeredAt : Option PyStr

/-- The summary of a row. -/
def FlowRow.summary (r : FlowRow) (pieces : List PyStr) : FlowSummary :=
  ⟨r.flowId, r.displayName, r.triggerType, pieces, r.createdAt⟩

/-- What `v2_check_duplicate` answers. -/
inductive DuplicateAnswer where
  | none
  | exact (existing : FlowSummary)
  | near (found : List FlowSummary)

/-- The flows of an answer. -/
def DuplicateAnswer.reported : DuplicateAnswer → List FlowSummary
  | .none => []
  | .exact existing => [existing]
  | .near found => found

section Check

variable (upper : PyStr → PyStr)

/-- The loop over the rows; `near` holds the near matches so far. -/
def matchRows (wantTrigger : PyStr) (wantPieces : List PyStr) :
    List FlowRow → List FlowSummary → Except PyError DuplicateAnswer
  | [], near => .ok (if near.isEmpty then .none else .near (near.take 5))
  | r :: rows, near => do
    let gotPieces ← r.pieces
    if upper (r.triggerType.getD []) ≠ wantTrigger then matchRows wantTrigger wantPieces rows near
    else
      match gotPieces with
      | .none => matchRows wantTrigger wantPieces rows near
      | some got =>
        if got = wantPieces then pure (.exact (r.summary got))
        else if got.any wantPieces.contains then
          matchRows wantTrigger wantPieces rows (near ++ [r.summary got])
        else matchRows wantTrigger wantPieces rows near

/-- `v2_check_duplicate`, once the project id is resolved. -/
def v2CheckDuplicate (rows : RegistryRead) (pid triggerType : PyStr) (pieces : List PyStr) :
    Except EngineError DuplicateAnswer :=
  match rows with
  | .none => .error (.http 503 (.text [.lit "database_unavailable"]))
  | some (.error e) => .error e
  | some (.ok reg) =>
    let rows := reg.registeredTo pid
    (matchRows upper (upper triggerType.strip) (sortedNames pieces) rows []).mapError .py

end Check

/-! ### What the loop finds -/

section Loop

variable {upper : PyStr → PyStr} {want : PyStr} {pieces : List PyStr} {rows : List FlowRow}
  {near : List FlowSummary} {answer : DuplicateAnswer}

/-- The row has the trigger and the pieces that are asked for. -/
def FlowRow.Matches (upper : PyStr → PyStr) (want : PyStr) (pieces : List PyStr) (r : FlowRow) :
    Prop :=
  upper (r.triggerType.getD []) = want ∧ r.pieces = .ok (some pieces)

/-- A row that does not match is passed over: it raises, or the loop goes on. -/
theorem matchRows_cons {r : FlowRow} (hread : ∃ got, r.pieces = .ok got)
    (h : ¬ r.Matches upper want pieces) : ∃ near', (near' = near ∨
      ∃ got, near' = near ++ [r.summary got]) ∧
        matchRows upper want pieces (r :: rows) near = matchRows upper want pieces rows near' := by
  obtain ⟨got, hgot⟩ := hread
  rw [matchRows, hgot]
  show ∃ near', _ ∧ (if upper (r.triggerType.getD []) ≠ want then _ else _) = _
  split
  · exact ⟨near, .inl rfl, rfl⟩
  rename_i htrigger
  cases got with
  | none => exact ⟨near, .inl rfl, rfl⟩
  | some got =>
    have hne : got ≠ pieces := fun heq ↦ h ⟨not_not.1 htrigger, heq ▸ hgot⟩
    show ∃ near', _ ∧ (if got = pieces then _ else _) = _
    rw [if_neg hne]
    split
    · exact ⟨near ++ [r.summary got], .inr ⟨got, rfl⟩, rfl⟩
    · exact ⟨near, .inl rfl, rfl⟩

/-- A row that matches ends the loop. -/
theorem matchRows_of_matches {r : FlowRow} (h : r.Matches upper want pieces) :
    matchRows upper want pieces (r :: rows) near = .ok (.exact (r.summary pieces)) := by
  rw [matchRows, h.2]
  show (if upper (r.triggerType.getD []) ≠ want then _ else _) = _
  rw [if_neg (not_not.2 h.1)]
  show (if pieces = pieces then _ else _) = _
  rw [if_pos rfl]
  rfl

/-- **The loop answers `exact`** exactly when some row matches, as long as all rows can be read. -/
theorem matchRows_exact_iff (hread : ∀ r ∈ rows, ∃ got, r.pieces = .ok got) :
    (∃ e, matchRows upper want pieces rows near = .ok (.exact e)) ↔
      ∃ r ∈ rows, r.Matches upper want pieces := by
  induction rows generalizing near with
  | nil =>
    refine iff_of_false ?_ fun ⟨r, hr, _⟩ ↦ absurd hr List.not_mem_nil
    rintro ⟨e, he⟩
    have hanswer := Except.ok.inj he
    split at hanswer <;> cases hanswer
  | cons r rows ih =>
    obtain ⟨hr, hrows⟩ := List.forall_mem_cons.1 hread
    by_cases h : r.Matches upper want pieces
    · exact iff_of_true ⟨_, matchRows_of_matches h⟩ ⟨r, List.mem_cons_self, h⟩
    · obtain ⟨near', -, hloop⟩ := matchRows_cons hr h
      rw [hloop, ih hrows]
      constructor
      · rintro ⟨r', hr', hmatch⟩
        exact ⟨r', List.mem_cons_of_mem r hr', hmatch⟩
      · rintro ⟨r', hr', hmatch⟩
        refine ⟨r', (List.mem_cons.1 hr').resolve_left ?_, hmatch⟩
        rintro rfl
        exact h hmatch

/-- Whatever is reported is a flow of one of the rows. -/
theorem mem_reported_matchRows {summary : FlowSummary}
    (h : matchRows upper want pieces rows near = .ok answer) (hmem : summary ∈ answer.reported) :
    summary ∈ near ∨ ∃ r ∈ rows, summary.flowId = r.flowId := by
  induction rows generalizing near with
  | nil =>
    obtain rfl := Except.ok.inj h
    split at hmem
    · exact absurd hmem List.not_mem_nil
    · exact .inl (List.mem_of_mem_take hmem)
  | cons r rows ih =>
    have hlater : ∀ near', (near' = near ∨ ∃ got, near' = near ++ [r.summary got]) →
        matchRows upper want pieces rows near' = .ok answer →
        summary ∈ near ∨ ∃ r' ∈ r :: rows, summary.flowId = r'.flowId := by
      intro near' hnear' h'
      rcases ih h' with hin | ⟨r', hr', hflow⟩
      · rcases hnear' with rfl | ⟨got, rfl⟩
        · exact .inl hin
        · rcases List.mem_append.1 hin with hin | hin
          · exact .inl hin
          · obtain rfl := List.mem_singleton.1 hin
            exact .inr ⟨r, List.mem_cons_self, rfl⟩
      · exact .inr ⟨r', List.mem_cons_of_mem r hr', hflow⟩
    obtain ⟨got, hgot, -⟩ := bind_eq_ok_iff.1 h
    by_cases hmatch : r.Matches upper want pieces
    · rw [matchRows_of_matches hmatch] at h
      obtain rfl := Except.ok.inj h
      obtain rfl := List.mem_singleton.1 hmem
      exact .inr ⟨r, List.mem_cons_self, rfl⟩
    · obtain ⟨near', hnear', hloop⟩ := matchRows_cons ⟨got, hgot⟩ hmatch
      exact hlater near' hnear' (hloop ▸ h)

end Loop

/-! ### What a build has written -/

/-- A new row; a column that is text takes a string only. -/
def FlowRegistryValues.asRow (values : FlowRegistryValues) (id : PyStr) (createdAt : Option PyStr) :
    Option FlowRow := do
  let flowId ← asName values.flowId
  let type ← asName values.triggerType
  pure ⟨id, values.tenantId, flowId, values.displayName, some type, some values.webhookUrl,
    values.pieceManifest, createdAt⟩

section Built

variable {env : BuildEnv} {b : BuildRequest} {s t : Engine} {l : List (Call × Reply)}
  {x : Except EngineError BuildResult} {values : FlowRegistryValues} {row : FlowRow}

/-- Whatever row a build writes, its manifest lists no pieces. -/
theorem buildRow_of_runs {rep : Reply} (h : (goldenBuild env b).Runs s l x t)
    (hmem : (.upsertRegistry values, rep) ∈ l) : ∃ fid, BuildRow env b fid values := by
  let P : Call → Prop := fun c ↦
    ∀ values, c = .upsertRegistry values → ∃ fid, BuildRow env b fid values
  have hquiet : ∀ c : Call, (∀ values, c ≠ .upsertRegistry values) → P c :=
    fun c hc values heq ↦ absurd heq (hc values)
  have hcreate : Sends P (createFlow env.httpx (buildPid env b) (buildName env b)) :=
    sends_r_of (hquiet _ (by simp)) (hquiet _ (by simp))
  have hsends : Sends P (goldenBuild env b) := by
    refine sends_preflight.bind fun _ ↦ hcreate.bind fun flow ↦ (sends_ofPy _).bind fun fid ↦ ?_
    refine sends_buildCreated (hquiet _ (by simp)) (fun _ _ ↦ hquiet _ (by simp))
      (hquiet _ (by simp)) (hquiet _ (by simp)) (hquiet _ (by simp)) (fun _ ↦ hquiet _ (by simp)) ?_
    rintro values hrow values' heq
    obtain rfl := Call.upsertRegistry.inj heq
    exact ⟨fid, hrow⟩
  exact hsends s l x t h _ hmem values rfl

/-- The row holds what was written. -/
structure FlowRow.Holds (row : FlowRow) (values : FlowRegistryValues) : Prop where
  tenantId : row.tenantId = values.tenantId
  flowId : values.flowId = .str row.flowId
  displayName : row.displayName = values.displayName
  triggerType : ∃ type, row.triggerType = some type ∧ values.triggerType = .str type
  webhookUrl : row.webhookUrl = some values.webhookUrl
  pieceManifest : row.pieceManifest = values.pieceManifest

theorem asName_eq_some_iff {v : PyValue} {name : PyStr} : asName v = some name ↔ v = .str name := by
  cases v <;> simp [asName]

/-- What makes up a new row is held by it. -/
theorem FlowRegistryValues.holds_of_asRow {id : PyStr} {createdAt : Option PyStr}
    (h : values.asRow id createdAt = some row) : row.Holds values := by
  obtain ⟨flowId, hflow, h⟩ := Option.bind_eq_some_iff.1 h
  obtain ⟨type, htype, h⟩ := Option.bind_eq_some_iff.1 h
  obtain rfl := Option.some.inj h
  exact ⟨rfl, asName_eq_some_iff.1 hflow, rfl, ⟨type, rfl, asName_eq_some_iff.1 htype⟩, rfl, rfl⟩

/-- A row of a build lists no pieces. -/
theorem pieces_of_holds {fid : PyValue} (hrow : row.Holds values) (h : BuildRow env b fid values) :
    row.pieces = .ok (some []) := by
  rw [FlowRow.pieces, hrow.pieceManifest]
  have hlisted : (values.pieceManifest.orElse (.dict [])).get "pieces" = .ok .null := by
    rw [PyValue.orElse]
    split
    · exact h.pieces
    · rfl
  rw [hlisted]
  show Except.ok (some (sortedNames [])) = _
  rw [sortedNames_nil]

end Built

/-! ### The law -/

/-- The piece of a step. -/
def stepPiece (step : PyValue) : PyValue := (step.entryD "settings").entryD "pieceName"

/-- A tree uses a piece: one of its steps does. -/
inductive UsesPiece (piece : PyValue) : PyValue → Prop
  | here {step : PyValue} : piece.truthy = true → stepPiece step = piece → UsesPiece piece step
  | next {step : PyValue} : UsesPiece piece (step.entryD "nextAction") → UsesPiece piece step
  | loop {step : PyValue} : UsesPiece piece (step.entryD "firstLoopAction") → UsesPiece piece step
  | branch {step child : PyValue} : child ∈ (step.entryD "children").listItems →
      UsesPiece piece child → UsesPiece piece step

/-- The trigger type of a tree, as `_extract_flow_metadata` names it. -/
def treeTriggerType (trigger : PyValue) : Except PyError PyValue := do
  let type ← trigger.get "type"
  pure (type.orElse (py "unknown"))

/-- The trigger type that the reader asks for is the one that the writer has written, up to capitals
and the blanks around it. -/
def SameTriggerType (upper : PyStr → PyStr) (b : BuildRequest) : Prop :=
  ∃ type written, treeTriggerType b.trigger = .ok (.str type) ∧
    triggerTypeVal b = .ok (.str written) ∧ upper type.strip = upper written

/-- The rows of the tenant can be read. -/
def FlowRegistry.Readable (reg : FlowRegistry) (pid : PyStr) : Prop :=
  ∀ r ∈ reg.registeredTo pid, ∃ got, r.pieces = .ok got

/-- As long as the row is there: its tenant, who asks for the trigger and the set of pieces, is told
of a duplicate, and no other tenant is told of the flow. -/
structure DetectsBuilt (upper : PyStr → PyStr) (row : FlowRow) (type : PyStr)
    (pieces : List PyStr) : Prop where
  seen : ∀ reg : FlowRegistry, row ∈ reg.rows → reg.Readable row.tenantId → ∀ asked : List PyStr,
    (∀ name, name ∈ asked ↔ name ∈ pieces) →
      ∃ e, v2CheckDuplicate upper (some (.ok reg)) row.tenantId type asked = .ok (.exact e)
  hidden : ∀ reg : FlowRegistry, row ∈ reg.rows → ∀ pid, pid ≠ row.tenantId →
    ∀ type asked answer, v2CheckDuplicate upper (some (.ok reg)) pid type asked = .ok answer →
      ∀ summary ∈ answer.reported, summary.flowId ≠ row.flowId

section Law

variable {upper : PyStr → PyStr} {row : FlowRow} {type written : PyStr} {pieces : List PyStr}

/-- A table with one row. -/
def FlowRegistry.single (row : FlowRow) : FlowRegistry :=
  ⟨[row], List.nodup_singleton _, List.nodup_singleton _⟩

/-- No tenant is told of a flow of another one. -/
theorem reported_flowId_ne {reg : FlowRegistry} {pid : PyStr} {answer : DuplicateAnswer}
    (hrow : row ∈ reg.rows) (hpid : pid ≠ row.tenantId)
    (h : v2CheckDuplicate upper (some (.ok reg)) pid type pieces = .ok answer) :
    ∀ summary ∈ answer.reported, summary.flowId ≠ row.flowId := by
  intro summary hmem heq
  rcases mem_reported_matchRows (mapError_eq_ok_iff.1 h) hmem with hnear | ⟨r, hr, hflow⟩
  · exact absurd hnear List.not_mem_nil
  · obtain ⟨hr, htenant⟩ := List.mem_filter.1 hr
    -- a flow has one row, and it names one tenant
    have hsame : r.tenantId = row.tenantId :=
      FlowRegistry.tenant_unique hr hrow (hflow.symm.trans heq)
    have htenant : r.tenantId = pid := of_decide_eq_true htenant
    exact hpid (htenant.symm.trans hsame)

/-- A row without pieces is found again when none is asked for. -/
theorem detectsBuilt_iff_of_pieces (hpieces : row.pieces = .ok (some []))
    (hwritten : row.triggerType = some written) :
    DetectsBuilt upper row type pieces ↔ pieces = [] ∧ upper type.strip = upper written := by
  have hread : ∀ reg : FlowRegistry, reg.Readable row.tenantId → ∀ asked,
      (∃ e, v2CheckDuplicate upper (some (.ok reg)) row.tenantId type asked = .ok (.exact e)) ↔
        ∃ r ∈ reg.registeredTo row.tenantId, r.Matches upper (upper type.strip)
          (sortedNames asked) := by
    intro reg hreg asked
    have hexact : (∃ e, matchRows upper (upper type.strip) (sortedNames asked)
        (reg.registeredTo row.tenantId) [] = .ok (.exact e)) ↔
          ∃ r ∈ reg.registeredTo row.tenantId, r.Matches upper (upper type.strip)
            (sortedNames asked) := matchRows_exact_iff hreg
    exact (exists_congr fun e ↦ mapError_eq_ok_iff).trans hexact
  constructor
  · rintro ⟨hseen, -⟩
    have hsingle : (FlowRegistry.single row).registeredTo row.tenantId = [row] := by
      rw [FlowRegistry.registeredTo, FlowRegistry.single, List.filter_singleton]
      simp
    have hreadable : (FlowRegistry.single row).Readable row.tenantId := by
      intro r hr
      rw [hsingle] at hr
      obtain rfl := List.mem_singleton.1 hr
      exact ⟨_, hpieces⟩
    have hfound := hseen (.single row) (List.mem_singleton_self row) hreadable pieces
      fun _ ↦ Iff.rfl
    obtain ⟨r, hr, htype, hgot⟩ := (hread _ hreadable pieces).1 hfound
    rw [hsingle] at hr
    obtain rfl := List.mem_singleton.1 hr
    have hnone : sortedNames pieces = [] :=
      (Option.some.inj (Except.ok.inj (hpieces.symm.trans hgot))).symm
    rw [hwritten, Option.getD_some] at htype
    exact ⟨sortedNames_eq_nil_iff.1 hnone, htype.symm⟩
  · rintro ⟨rfl, htype⟩
    refine ⟨fun reg hrow hreg asked hasked ↦ ?_, fun reg hrow pid hpid type asked answer h ↦
      reported_flowId_ne hrow hpid h⟩
    have hnone : asked = [] := List.eq_nil_iff_forall_not_mem.2 fun name hname ↦
      List.not_mem_nil ((hasked name).1 hname)
    refine (hread reg hreg asked).2 ⟨row, List.mem_filter.2 ⟨hrow, by simp⟩, ?_, ?_⟩
    · rw [hwritten, Option.getD_some, htype]
    · rw [hpieces, hnone, sortedNames_nil]

/-- **What was built is found again** exactly when the tree uses no piece, and its trigger type is
written as it is read. No other tenant is told of it in any case. -/
theorem detectsBuilt_iff (upper : PyStr → PyStr) {env : BuildEnv} {b : BuildRequest}
    {s t : Engine} {l : List (Call × Reply)} {x : Except EngineError BuildResult} {rep : Reply}
    {values : FlowRegistryValues} (hrun : (goldenBuild env b).Runs s l x t)
    (hwrite : (.upsertRegistry values, rep) ∈ l) (hrow : row.Holds values)
    (htype : treeTriggerType b.trigger = .ok (.str type))
    (hpieces : ∀ v, UsesPiece v b.trigger ↔ ∃ name ∈ pieces, v = .str name) :
    DetectsBuilt upper row type pieces ↔
      (∀ v, ¬ UsesPiece v b.trigger) ∧ SameTriggerType upper b := by
  obtain ⟨fid, hbuild⟩ := buildRow_of_runs hrun hwrite
  obtain ⟨written, hsome, hvalue⟩ := hrow.triggerType
  have hwritten : triggerTypeVal b = .ok (.str written) := hvalue ▸ hbuild.triggerType
  have hnone : (∀ v, ¬ UsesPiece v b.trigger) ↔ pieces = [] := by
    rw [List.eq_nil_iff_forall_not_mem]
    constructor
    · exact fun h name hname ↦ h _ ((hpieces _).2 ⟨name, hname, rfl⟩)
    · intro h v hv
      obtain ⟨name, hname, -⟩ := (hpieces v).1 hv
      exact h name hname
  have hsame : SameTriggerType upper b ↔ upper type.strip = upper written := by
    constructor
    · rintro ⟨type', written', htype', hwritten', h⟩
      obtain rfl := PyValue.str.inj (Except.ok.inj (htype.symm.trans htype'))
      obtain rfl := PyValue.str.inj (Except.ok.inj (hwritten.symm.trans hwritten'))
      exact h
    · exact fun h ↦ ⟨type, written, htype, hwritten, h⟩
  rw [detectsBuilt_iff_of_pieces (pieces_of_holds hrow hbuild) hsome, hnone, hsame]

end Law

/-! ### A flow without pieces, and one with -/

/-- A run of a build that writes a row. -/
structure Recorded (env : BuildEnv) (b : BuildRequest) (l : List (Call × Reply))
    (values : FlowRegistryValues) (row : FlowRow) : Prop where
  run : ∃ x t, (goldenBuild env b).Runs sampleEngine l x t
  write : ∃ rep, (.upsertRegistry values, rep) ∈ l
  row : row.Holds values

/-- A script writes the row that it is said to write. -/
def writesRow (env : BuildEnv) (b : BuildRequest) (replies : List Reply) : Option FlowRow :=
  ((goldenBuild env b).exchangesOn sampleEngine (scriptOf replies)).getLast?.bind fun e ↦
    match e.1 with
    | .upsertRegistry values => values.asRow (text "r1") none
    | _ => none

theorem exists_recorded {env : BuildEnv} {b : BuildRequest} {replies : List Reply}
    {row : FlowRow} (h : writesRow env b replies = some row) :
    ∃ l values, Recorded env b l values row := by
  obtain ⟨x, t, hrun⟩ := exists_run_exchangesOn (goldenBuild env b) sampleEngine (scriptOf replies)
  obtain ⟨⟨q, rep⟩, hlast, hq⟩ := Option.bind_eq_some_iff.1 h
  cases q with
  | upsertRegistry values =>
    exact ⟨_, values, ⟨x, t, hrun⟩, ⟨rep, List.mem_of_getLast? hlast⟩,
      FlowRegistryValues.holds_of_asRow hq⟩
  | _ => cases hq

/-- Only a dictionary is a step that uses something. -/
theorem UsesPiece.isDict {piece step : PyValue} (h : UsesPiece piece step) :
    step.isDict = true := by
  have hnull : ∀ v : PyValue, v.isDict ≠ true → ∀ key, v.entryD key = .null := by
    intro v hv key
    cases v with
    | dict fields => exact absurd rfl hv
    | _ => rfl
  -- what is not a dictionary has no entries, so it has no piece and no steps below it
  induction h with
  | here htruthy hpiece =>
    by_contra hdict
    rw [stepPiece, hnull _ hdict "settings"] at hpiece
    exact absurd htruthy (by rw [← hpiece]; decide)
  | next _ ih =>
    by_contra hdict
    rw [hnull _ hdict] at ih
    cases ih
  | loop _ ih =>
    by_contra hdict
    rw [hnull _ hdict] at ih
    cases ih
  | branch hmem _ _ =>
    by_contra hdict
    rw [hnull _ hdict] at hmem
    exact absurd hmem List.not_mem_nil

/-- The pieces of a single step. -/
theorem usesPiece_iff_of_single {piece step : PyValue} (hnext : step.entryD "nextAction" = .null)
    (hloop : step.entryD "firstLoopAction" = .null) (hchildren : step.entryD "children" = .null) :
    UsesPiece piece step ↔ piece.truthy = true ∧ stepPiece step = piece := by
  constructor
  · intro h
    cases h with
    | here htruthy hpiece => exact ⟨htruthy, hpiece⟩
    | next h => exact absurd (hnext ▸ h).isDict (by simp [PyValue.isDict])
    | loop h => exact absurd (hloop ▸ h).isDict (by simp [PyValue.isDict])
    | branch hmem _ =>
      rw [hchildren] at hmem
      exact absurd hmem List.not_mem_nil
  · exact fun h ↦ .here h.1 h.2

/-- A registry that holds no pieces: nothing is validated. -/
def unvalidatedEnv : BuildEnv :=
  { sampleEnv with registry := some (.ok ⟨[], by decide, by decide⟩) }

/-- A flow that waits for a mail. -/
def mailBuild : BuildRequest := { sampleBuild with
  trigger := pyDict [("type", py "PIECE_TRIGGER"),
    ("settings", pyDict [("pieceName", py "@activepieces/piece-gmail")])] }

/-- The replies to a build of the tree that goes through, with its pulse and its row. -/
def repliesFor (trigger : PyValue) : List Reply :=
  sampleReplies trigger ++ [okReply .null, okReply .null]

/-- A trigger without a piece is found again. -/
theorem detectsBuilt_webhook : ∃ l values row, Recorded sampleEnv sampleBuild l values row ∧
    DetectsBuilt id row (text "WEBHOOK") [] := by
  have hwrites : (writesRow sampleEnv sampleBuild (repliesFor sampleTrigger)).isSome = true := by
    decide +kernel
  obtain ⟨row, hrow⟩ := Option.isSome_iff_exists.1 hwrites
  obtain ⟨l, values, h⟩ := exists_recorded hrow
  obtain ⟨x, t, hrun⟩ := h.run
  obtain ⟨rep, hwrite⟩ := h.write
  have hnone : ∀ v, ¬ UsesPiece v sampleTrigger := by
    intro v hv
    obtain ⟨htruthy, hpiece⟩ := (usesPiece_iff_of_single rfl rfl rfl).1 hv
    exact absurd htruthy (by rw [← hpiece]; decide)
  refine ⟨l, values, row, h, (detectsBuilt_iff id hrun hwrite h.row rfl fun v ↦ ?_).2
    ⟨hnone, text "WEBHOOK", text "WEBHOOK", rfl, rfl, by decide⟩⟩
  exact iff_of_false (hnone v) fun ⟨_, hmem, _⟩ ↦ absurd hmem List.not_mem_nil

/-- A trigger with a piece is not. -/
theorem not_detectsBuilt_mail : ∃ l values row, Recorded unvalidatedEnv mailBuild l values row ∧
    treeTriggerType mailBuild.trigger = .ok (py "PIECE_TRIGGER") ∧
    (∀ v, UsesPiece v mailBuild.trigger ↔
      ∃ name ∈ [text "@activepieces/piece-gmail"], v = .str name) ∧
    ¬ DetectsBuilt id row (text "PIECE_TRIGGER") [text "@activepieces/piece-gmail"] := by
  have hwrites : (writesRow unvalidatedEnv mailBuild (repliesFor mailBuild.trigger)).isSome =
      true := by decide +kernel
  obtain ⟨row, hrow⟩ := Option.isSome_iff_exists.1 hwrites
  obtain ⟨l, values, h⟩ := exists_recorded hrow
  obtain ⟨x, t, hrun⟩ := h.run
  obtain ⟨rep, hwrite⟩ := h.write
  obtain ⟨fid, hbuild⟩ := buildRow_of_runs hrun hwrite
  obtain ⟨written, hsome, -⟩ := h.row.triggerType
  refine ⟨l, values, row, h, rfl, fun v ↦ ?_, fun hdetects ↦ ?_⟩
  · rw [usesPiece_iff_of_single rfl rfl rfl]
    have hpiece : stepPiece mailBuild.trigger = py "@activepieces/piece-gmail" := rfl
    constructor
    · rintro ⟨-, rfl⟩
      exact ⟨_, List.mem_singleton_self _, hpiece⟩
    · rintro ⟨name, hname, rfl⟩
      obtain rfl := List.mem_singleton.1 hname
      exact ⟨by decide, hpiece⟩
  · have hnone := (detectsBuilt_iff_of_pieces (pieces_of_holds h.row hbuild) hsome).1 hdetects
    exact absurd hnone.1 (List.cons_ne_nil _ _)

end Siyadah
