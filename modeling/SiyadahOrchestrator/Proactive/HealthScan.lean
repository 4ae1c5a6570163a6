import SiyadahOrchestrator.Build.Catalog
import SiyadahOrchestrator.Foundations.Grouping
import Mathlib.Algebra.Order.Floor.Defs
import Mathlib.Data.Rat.Floor

/-!
# The health of the flows

`proactive_flow_health_scan` looks at the ten newest runs of each flow, and warns when there are at
least five of them and more than half have failed. `healthScan` does so with the loop, the sort and
the slice of the source.

A flow is in alarm exactly when, of its runs with fewer than ten newer ones, enough have failed
(`healthScan_alarms_iff`). The runs of other flows have no part in it, nor has the order in which
ActivePieces lists the runs, unless two runs were created at the same time
(`healthScan_agrees`).
-/

namespace Siyadah

open PyValue

/-! ### Notifications -/

/-- `SMART_HINT_TYPES`. -/
def smartHintTypes : List PyStr := ["OPPORTUNITY", "WARNING", "SUCCESS_STORY", "INFO"].map text

/-- `smart_hint_notification`. -/
def smartHintNotification (hintType message : PyStr) (extra : Fields) : PyValue :=
  .dict <| (text "type", .str (if hintType ∈ smartHintTypes then hintType else text "INFO")) ::
    (text "message", .str message) ::
      if extra = [] then [] else [(text "meta", .dict extra)]

/-! ### The scan -/

/-- What the scan uses of the standard library. -/
structure ScanEnv where
  pyText : PyText
  /-- `str.upper`. -/
  upper : PyStr → PyStr

/-- A flow in alarm. -/
structure HealthAlert where
  flowId : PyStr
  flowName : PyValue
  sampleSize : ℕ
  failedCount : ℕ
  failureRate : ℚ
  hint : PyValue
  hintAr : PyValue

namespace ScanEnv

variable (env : ScanEnv)

/-- `by_flow`. -/
def groupRuns (runs : List PyValue) : Except PyError (List (PyStr × List PyValue)) :=
  runs.foldlM (fun groups r ↦ do
    let fid ← orGet (← r.get "flowId") r "flow_id"
    pure (if fid.truthy then addTo groups (env.pyText.str fid) r else groups)) []

/-- `flow_meta`. -/
def flowMeta (flows : List PyValue) : Except PyError Fields :=
  flows.foldlM (fun d f ↦ do
    let id ← f.get "id"
    pure (if id.truthy then upsert d (env.pyText.str id) f else d)) []

/-- `str(x.get("created") or "")`. -/
def createdKey (r : PyValue) : PyStr := env.pyText.str ((r.entryD "created").orElse (py ""))

/-- The order of `fruns.sort(…, reverse=True)`. -/
def newer (r r' : PyValue) : Bool := (env.createdKey r').le (env.createdKey r)

/-- `fail_status`. -/
def failStatus : List PyStr := ["FAILED", "FAILURE", "CRASHED"].map (env.upper ∘ text)

/-- The run has failed. -/
def hasFailed (r : PyValue) : Bool :=
  env.upper (env.pyText.str ((r.entry "status").getD (py ""))) ∈ env.failStatus

/-- `ver.get("displayName") or meta.get("displayName") or fid`. -/
def flowName (flow : PyValue) (fid : PyStr) : PyValue :=
  let ver := if (flow.entryD "version").isDict then flow.entryD "version" else .dict []
  ((ver.entryD "displayName").orElse (flow.entryD "displayName")).orElse (.str fid)

/-- `msg_en`. -/
def alarmTextEn (name : PyValue) (failed size : ℕ) : PyStr :=
  text "Flow «" ++ env.pyText.str name ++ text "» failed " ++ digits failed ++ text "/" ++
    digits size ++ text (" of the last runs (>50%). " ++
      "Repair steps or connections, then re-test the webhook or trigger.")

/-- `msg_ar`. -/
def alarmTextAr (name : PyValue) (failed size : ℕ) : PyStr :=
  text "الفلو «" ++ env.pyText.str name ++ text "» فشل " ++ digits failed ++ text " من " ++
    digits size ++ text (" في آخر التشغيلات (>50٪). " ++
      "راجع الخطوات أو الاتصالات ثم أعد اختبار الويب هوك أو المحفّز.")

/-- `round(rate, 3)`. -/
def roundThousandths (q : ℚ) : ℚ := (⌊q * 1000 + 1 / 2⌋ : ℤ) / 1000

/-- The loop body for one flow. -/
def alertOf (flows : Fields) (fid : PyStr) (fruns : List PyValue) : Option HealthAlert :=
  let sample := (fruns.mergeSort env.newer).take 10
  let failed := sample.countP env.hasFailed
  let rate : ℚ := failed / sample.length
  let name := flowName ((flows.lookup fid).getD (.dict [])) fid
  let extra : Fields := [(text "flow_id", .str fid), (text "flow_name", name)]
  if sample.length < 5 then none
  else if rate ≤ 1 / 2 then none
  else some
    { flowId := fid
      flowName := name
      sampleSize := sample.length
      failedCount := failed
      failureRate := roundThousandths rate
      hint := smartHintNotification (text "WARNING")
        (env.alarmTextEn name failed sample.length) extra
      hintAr := smartHintNotification (text "WARNING")
        (env.alarmTextAr name failed sample.length) extra }

/-- `proactive_flow_health_scan`: `answer` holds what `list_flows` and `list_runs` return, and
`none` when one of the calls raises. -/
def healthScan (projectId : PyStr) (answer : Option (PyValue × PyValue)) :
    Except PyError (List HealthAlert) :=
  if projectId = [] then .ok []
  else
    match answer with
    | none => .ok []
    | some (flows, runs) => do
      let runs ← (runs.orElse (.list [])).items
      let byFlow ← env.groupRuns (runs.map Subtype.val)
      let flows ← flows.items
      let byId ← env.flowMeta (flows.map Subtype.val)
      pure (byFlow.filterMap fun g ↦ env.alertOf byId g.1 g.2)

end ScanEnv

/-! ### Loops over dictionaries -/

/-- A loop whose steps raise exactly where a condition fails. -/
theorem foldlM_eq_ite {ε α β : Type} {f : β → α → Except ε β} {g : β → α → β} {P : α → Bool} {e : ε}
    (hok : ∀ b a, P a = true → f b a = .ok (g b a)) (herror : ∀ b a, P a = false → f b a = .error e)
    (l : List α) (b : β) :
    l.foldlM f b = if l.all P then .ok (l.foldl g b) else .error e := by
  induction l generalizing b with
  | nil => rfl
  | cons a l ih =>
    rw [List.foldlM_cons, List.all_cons, List.foldl_cons]
    rcases ha : P a with - | -
    · rw [herror b a ha]
      rfl
    · rw [hok b a ha, Bool.true_and, ← ih]
      rfl

namespace ScanEnv

variable {env : ScanEnv} {fid : PyStr} {runs runs' flows : List PyValue}

/-- The id of the flow that a run belongs to; a run without one is passed over. -/
def flowKey (env : ScanEnv) (r : PyValue) : Option PyStr :=
  let fid := (r.entryD "flowId").orElse (r.entryD "flow_id")
  if fid.truthy then some (env.pyText.str fid) else none

/-- The runs of a flow, in the order of the list. -/
def runsOf (env : ScanEnv) (fid : PyStr) (runs : List PyValue) : List PyValue :=
  runs.filter fun r ↦ env.flowKey r = some fid

theorem get_of_not_isDict {v : PyValue} (h : v.isDict = false) (key : String) :
    v.get key = .error .attributeError := by
  cases v with
  | dict fields => exact absurd h (by simp [isDict])
  | _ => rfl

theorem groupRuns_eq (runs : List PyValue) : env.groupRuns runs =
    if runs.all PyValue.isDict then .ok (groupBy env.flowKey runs) else .error .attributeError := by
  refine foldlM_eq_ite (fun groups r hr ↦ ?_) (fun groups r hr ↦ ?_) runs []
  · have hget : orGet (r.entryD "flowId") r "flow_id" =
        .ok ((r.entryD "flowId").orElse (r.entryD "flow_id")) := by
      rw [orGet, orElse, get_of_isDict hr]
      split <;> rfl
    rw [get_of_isDict hr, ok_bind, hget, ok_bind, flowKey]
    split <;> rfl
  · rw [get_of_not_isDict hr]
    rfl

theorem flowMeta_eq (flows : List PyValue) : env.flowMeta flows =
    if flows.all PyValue.isDict then .ok (flows.foldl (fun d f ↦
      if (f.entryD "id").truthy then upsert d (env.pyText.str (f.entryD "id")) f else d) [])
    else .error .attributeError := by
  refine foldlM_eq_ite (fun d f hf ↦ ?_) (fun d f hf ↦ ?_) flows []
  · rw [get_of_isDict hf]
    rfl
  · rw [get_of_not_isDict hf]
    rfl

/-- What a scan returns, unless an item of a list is no dictionary. -/
theorem healthScan_eq {projectId : PyStr} (hpid : projectId ≠ []) :
    env.healthScan projectId (some (.list flows, .list runs)) =
      if runs.all PyValue.isDict then
        if flows.all PyValue.isDict then
          .ok ((keysOf env.flowKey runs).filterMap fun fid ↦
            env.alertOf (flows.foldl (fun d f ↦
              if (f.entryD "id").truthy then upsert d (env.pyText.str (f.entryD "id")) f else d) [])
              fid (env.runsOf fid runs))
        else .error .attributeError
      else .error .attributeError := by
  have hitems : ∀ l : List PyValue, ∃ ws, (PyValue.list l).items = .ok ws ∧
      ws.map Subtype.val = l := by
    intro l
    refine ⟨_, rfl, ?_⟩
    have h := items_list_val l
    exact Except.ok.inj h
  have hruns : (PyValue.list runs).orElse (.list []) = .list runs := by
    rcases runs with - | ⟨r, runs⟩ <;> rfl
  obtain ⟨ws, hws, hval⟩ := hitems runs
  obtain ⟨ws', hws', hval'⟩ := hitems flows
  rw [healthScan, if_neg hpid]
  show ((PyValue.list runs).orElse (.list [])).items >>= _ = _
  rw [hruns, hws, ok_bind, hval, groupRuns_eq]
  split
  · rw [ok_bind, hws', ok_bind, hval', flowMeta_eq]
    split
    · rw [ok_bind, groupBy_eq, List.filterMap_map]
      apply congrArg Except.ok
      apply List.filterMap_congr
      intro fid _
      rfl
    · rfl
  · rfl

end ScanEnv

/-! ### The order of the time stamps -/

namespace PyStr

theorem le_total' (s t : PyStr) : s.le t || t.le s := by
  induction s generalizing t with
  | nil => rfl
  | cons c s ih =>
    cases t with
    | nil => rfl
    | cons d t =>
      rcases Nat.lt_trichotomy c d with h | rfl | h
      · simp [PyStr.le, h]
      · simpa [PyStr.le] using ih t
      · simp [PyStr.le, h]

theorem le_trans' (s t u : PyStr) (hst : s.le t) (htu : t.le u) : s.le u := by
  induction s generalizing t u with
  | nil => rfl
  | cons c s ih =>
    rcases t with - | ⟨d, t⟩
    · exact absurd hst (by simp [PyStr.le])
    rcases u with - | ⟨e, u⟩
    · exact absurd htu (by simp [PyStr.le])
    simp only [PyStr.le, Bool.or_eq_true, Bool.and_eq_true, decide_eq_true_eq] at hst htu ⊢
    rcases hst with h | ⟨rfl, hst⟩
    · exact .inl (by omega)
    · rcases htu with h | ⟨rfl, htu⟩
      · exact .inl h
      · exact .inr ⟨rfl, ih t u hst htu⟩

theorem le_antisymm' (s t : PyStr) (hst : s.le t) (hts : t.le s) : s = t := by
  induction s generalizing t with
  | nil =>
    cases t with
    | nil => rfl
    | cons d t => exact absurd hts (by simp [PyStr.le])
  | cons c s ih =>
    rcases t with - | ⟨d, t⟩
    · exact absurd hst (by simp [PyStr.le])
    simp only [PyStr.le, Bool.or_eq_true, Bool.and_eq_true, decide_eq_true_eq] at hst hts
    obtain ⟨rfl, hle⟩ : c = d ∧ PyStr.le s t := by
      rcases hst with h | h
      · omega
      · exact h
    have hle' : PyStr.le t s := by
      rcases hts with h | h
      · omega
      · exact h.2
    rw [ih t hle hle']

end PyStr

/-! ### Flows in alarm -/

namespace ScanEnv

variable {env : ScanEnv} {fid : PyStr} {runs runs' flows : List PyValue} {projectId : PyStr}
  {alerts alerts' : List HealthAlert} {alert : HealthAlert} {byId : Fields}

theorem newer_total (r r' : PyValue) : env.newer r r' || env.newer r' r :=
  PyStr.le_total' _ _

theorem newer_trans (r r' r'' : PyValue) (h : env.newer r r') (h' : env.newer r' r'') :
    env.newer r r'' :=
  PyStr.le_trans' _ _ _ h' h

/-- How many runs have failed, of those with fewer than ten newer ones. Of two runs created at the
same time the one that is listed first counts as the newer. -/
def failedRecently (env : ScanEnv) (runs : List PyValue) : ℕ :=
  runs.zipIdx.countP fun r ↦
    env.hasFailed r.1 && decide (runs.zipIdx.countP (comesBefore env.newer · r) < 10)

/-- The runs of a flow put it in alarm. -/
def InAlarm (env : ScanEnv) (runs : List PyValue) : Prop :=
  5 ≤ runs.length ∧ min 10 runs.length < 2 * env.failedRecently runs

instance (env : ScanEnv) (runs : List PyValue) : Decidable (env.InAlarm runs) :=
  inferInstanceAs (Decidable (_ ∧ _))

theorem length_sample : ((runs.mergeSort env.newer).take 10).length = min 10 runs.length := by
  rw [List.length_take, List.length_mergeSort]

theorem countP_sample : ((runs.mergeSort env.newer).take 10).countP env.hasFailed =
    env.failedRecently runs :=
  countP_take_mergeSort newer_trans newer_total runs 10 env.hasFailed

/-- More than half, in the arithmetic of the source. -/
theorem rate_le_half_iff {failed size : ℕ} (h : 0 < size) :
    (failed : ℚ) / size ≤ 1 / 2 ↔ 2 * failed ≤ size := by
  have hpos : (0 : ℚ) < size := by exact_mod_cast h
  rw [div_le_div_iff₀ hpos (by norm_num), one_mul, mul_comm]
  norm_cast

theorem alertOf_of_not_inAlarm (h : ¬env.InAlarm runs) : env.alertOf byId fid runs = none := by
  rw [alertOf, length_sample, countP_sample]
  by_cases hsize : runs.length < 5
  · exact if_pos (by omega)
  · rw [if_neg (by omega)]
    refine if_pos ((rate_le_half_iff (by omega)).2 ?_)
    rw [InAlarm] at h
    omega

theorem alertOf_of_inAlarm (byId : Fields) (fid : PyStr) (h : env.InAlarm runs) :
    ∃ alert, env.alertOf byId fid runs = some alert ∧ alert.flowId = fid ∧
      alert.sampleSize = min 10 runs.length ∧ alert.failedCount = env.failedRecently runs := by
  obtain ⟨hsize, hrate⟩ := h
  rw [alertOf, length_sample, countP_sample, if_neg (by omega)]
  have hhalf : ¬(env.failedRecently runs : ℚ) / (min 10 runs.length : ℕ) ≤ 1 / 2 := by
    rw [rate_le_half_iff (by omega)]
    omega
  rw [if_neg hhalf]
  exact ⟨_, rfl, rfl, rfl, rfl⟩

theorem alertOf_eq_some (h : env.alertOf byId fid runs = some alert) :
    env.InAlarm runs ∧ alert.flowId = fid ∧ alert.sampleSize = min 10 runs.length ∧
      alert.failedCount = env.failedRecently runs := by
  by_cases halarm : env.InAlarm runs
  · obtain ⟨alert', h', hfields⟩ := alertOf_of_inAlarm byId fid halarm
    obtain rfl := Option.some.inj (h'.symm.trans h)
    exact ⟨halarm, hfields⟩
  · rw [alertOf_of_not_inAlarm halarm] at h
    exact absurd h (Option.some_ne_none alert).symm

/-- A flow in alarm has runs. -/
theorem mem_keysOf_of_inAlarm (h : env.InAlarm (env.runsOf fid runs)) :
    fid ∈ keysOf env.flowKey runs := by
  obtain ⟨r, hr⟩ := List.exists_mem_of_length_pos (lt_of_lt_of_le (by omega) h.1)
  obtain ⟨hmem, hkey⟩ := List.mem_filter.1 hr
  exact mem_keysOf.2 ⟨r, hmem, of_decide_eq_true hkey⟩

/-- A scan that does not raise goes through the flows in the order of their first runs. -/
theorem healthScan_eq_ok (hpid : projectId ≠ [])
    (h : env.healthScan projectId (some (.list flows, .list runs)) = .ok alerts) :
    ∃ byId, env.flowMeta flows = .ok byId ∧ alerts =
      (keysOf env.flowKey runs).filterMap fun fid ↦ env.alertOf byId fid (env.runsOf fid runs) := by
  rw [healthScan_eq hpid] at h
  split_ifs at h with hruns hflows
  exact ⟨_, by rw [flowMeta_eq, if_pos hflows], (Except.ok.inj h).symm⟩

theorem mem_alerts_iff {keys : List PyStr} : alert ∈ keys.filterMap (fun fid ↦
      env.alertOf byId fid (env.runsOf fid runs)) ↔
    alert.flowId ∈ keys ∧
      env.alertOf byId alert.flowId (env.runsOf alert.flowId runs) = some alert := by
  rw [List.mem_filterMap]
  constructor
  · rintro ⟨fid, hmem, h⟩
    obtain ⟨-, rfl, -⟩ := alertOf_eq_some h
    exact ⟨hmem, h⟩
  · rintro ⟨hmem, h⟩
    exact ⟨_, hmem, h⟩

theorem map_flowId_sublist (env : ScanEnv) (byId : Fields) (runs : List PyValue)
    (keys : List PyStr) :
    ((keys.filterMap fun fid ↦ env.alertOf byId fid (env.runsOf fid runs)).map
      HealthAlert.flowId).Sublist keys := by
  induction keys with
  | nil => exact List.Sublist.slnil
  | cons fid keys ih =>
    rcases h : env.alertOf byId fid (env.runsOf fid runs) with - | alert
    · simp only [List.filterMap_cons, h]
      exact ih.cons fid
    · simp only [List.filterMap_cons, h, List.map_cons, (alertOf_eq_some h).2.1]
      exact ih.cons_cons fid

/-- **Which flows are in alarm.** Each has one alert, in the order of the first runs of the
list. -/
theorem healthScan_alarms_iff (hpid : projectId ≠ [])
    (h : env.healthScan projectId (some (.list flows, .list runs)) = .ok alerts) :
    (alerts.map HealthAlert.flowId).Nodup ∧
    (alerts.map HealthAlert.flowId).Sublist (keysOf env.flowKey runs) ∧
    (∀ fid, fid ∈ alerts.map HealthAlert.flowId ↔ env.InAlarm (env.runsOf fid runs)) ∧
    ∀ alert ∈ alerts, alert.sampleSize = min 10 (env.runsOf alert.flowId runs).length ∧
      alert.failedCount = env.failedRecently (env.runsOf alert.flowId runs) := by
  obtain ⟨byId, -, rfl⟩ := healthScan_eq_ok hpid h
  have hsub := map_flowId_sublist env byId runs (keysOf env.flowKey runs)
  refine ⟨hsub.nodup nodup_keysOf, hsub, fun fid ↦ ⟨fun hfid ↦ ?_, fun halarm ↦ ?_⟩,
    fun alert hmem ↦ (alertOf_eq_some (mem_alerts_iff.1 hmem).2).2.2⟩
  · obtain ⟨alert, hmem, rfl⟩ := List.mem_map.1 hfid
    exact (alertOf_eq_some (mem_alerts_iff.1 hmem).2).1
  · obtain ⟨alert, halert, rfl, -⟩ := alertOf_of_inAlarm byId fid halarm
    exact List.mem_map.2 ⟨alert, mem_alerts_iff.2 ⟨mem_keysOf_of_inAlarm halarm, halert⟩, rfl⟩

/-- Characters as they are, and values as `str` writes strings. -/
def plainScan : ScanEnv := ⟨plainText, id⟩

/-- A run of the flow `f`. -/
def runOf (created status : String) : PyValue :=
  .dict [(text "flowId", py "f"), (text "created", py created), (text "status", py status)]

/-- Five runs of one flow, of which three have failed, and a run of another. -/
def failingRuns : List PyValue :=
  [runOf "1" "FAILED", runOf "4" "SUCCEEDED", runOf "2" "CRASHED", runOf "5" "SUCCEEDED",
    .dict [(text "flow_id", py "g"), (text "status", py "FAILED")], runOf "3" "FAILURE"]

theorem plainScan_eq_ok {runs : List PyValue} (h : runs.all PyValue.isDict = true) :
    plainScan.healthScan (text "p") (some (.list [], .list runs)) =
      .ok ((keysOf plainScan.flowKey runs).filterMap fun fid ↦
        plainScan.alertOf [] fid (plainScan.runsOf fid runs)) := by
  rw [healthScan_eq (by decide), if_pos h]
  rfl

theorem healthScan_alarms_iff_sample : ∃ alerts,
    plainScan.healthScan (text "p") (some (.list [], .list failingRuns)) = .ok alerts ∧
      text "f" ∈ alerts.map HealthAlert.flowId ∧ text "g" ∉ alerts.map HealthAlert.flowId := by
  have hpid : text "p" ≠ [] := by decide
  have hscan := plainScan_eq_ok (show failingRuns.all PyValue.isDict = true by decide)
  obtain ⟨-, -, halarm, -⟩ := healthScan_alarms_iff hpid hscan
  refine ⟨_, hscan, (halarm _).2 (by decide), fun hmem ↦ ?_⟩
  exact absurd ((halarm _).1 hmem) (by decide)

/-! ### What an alert depends on -/

theorem alertOf_congr (hperm : runs.Perm runs')
    (hcreated : ∀ r ∈ runs, ∀ r' ∈ runs, env.createdKey r = env.createdKey r' → r = r') :
    env.alertOf byId fid runs = env.alertOf byId fid runs' := by
  have hsort : runs.mergeSort env.newer = runs'.mergeSort env.newer := by
    refine mergeSort_eq_of_perm newer_trans newer_total hperm fun r hr r' hr' hle hle' ↦ ?_
    exact hcreated r hr r' hr' (PyStr.le_antisymm' _ _ hle' hle)
  rw [alertOf, alertOf, hsort]

/-- **What an alert depends on.** Neither the runs of other flows nor the order of the list matter,
when a flow has no two runs that were created at the same time. -/
theorem healthScan_agrees (hpid : projectId ≠ [])
    (h : env.healthScan projectId (some (.list flows, .list runs)) = .ok alerts)
    (h' : env.healthScan projectId (some (.list flows, .list runs')) = .ok alerts')
    (hperm : (env.runsOf fid runs).Perm (env.runsOf fid runs'))
    (hcreated : ∀ r ∈ env.runsOf fid runs, ∀ r' ∈ env.runsOf fid runs,
      env.createdKey r = env.createdKey r' → r = r') (hfid : alert.flowId = fid) :
    alert ∈ alerts ↔ alert ∈ alerts' := by
  obtain ⟨byId, hbyId, rfl⟩ := healthScan_eq_ok hpid h
  obtain ⟨byId', hbyId', rfl⟩ := healthScan_eq_ok hpid h'
  obtain rfl := Except.ok.inj (hbyId.symm.trans hbyId')
  subst hfid
  rw [mem_alerts_iff, mem_alerts_iff, alertOf_congr hperm hcreated]
  refine and_congr_left fun halert ↦ ?_
  have halarm' := (alertOf_eq_some halert).1
  rw [← alertOf_congr hperm hcreated] at halert
  exact iff_of_true (mem_keysOf_of_inAlarm (alertOf_eq_some halert).1)
    (mem_keysOf_of_inAlarm halarm')

theorem healthScan_agrees_sample : ∃ alerts alerts',
    plainScan.healthScan (text "p") (some (.list [], .list failingRuns)) = .ok alerts ∧
      plainScan.healthScan (text "p") (some (.list [], .list failingRuns.reverse)) = .ok alerts' ∧
      ∀ alert : HealthAlert, alert.flowId = text "f" → (alert ∈ alerts ↔ alert ∈ alerts') := by
  have hpid : text "p" ≠ [] := by decide
  have hscan := plainScan_eq_ok (show failingRuns.all PyValue.isDict = true by decide)
  have hscan' := plainScan_eq_ok (show failingRuns.reverse.all PyValue.isDict = true by decide)
  have hcreated : ∀ r ∈ plainScan.runsOf (text "f") failingRuns,
      ∀ r' ∈ plainScan.runsOf (text "f") failingRuns,
        plainScan.createdKey r = plainScan.createdKey r' → r = r' :=
    List.inj_on_of_nodup_map (by decide)
  refine ⟨_, _, hscan, hscan', fun alert ↦ healthScan_agrees hpid hscan hscan' ?_ hcreated⟩
  exact ((List.reverse_perm failingRuns).symm).filter _

end ScanEnv

end Siyadah
