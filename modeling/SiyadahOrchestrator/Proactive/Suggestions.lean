import SiyadahOrchestrator.Memory.Isolation
import SiyadahOrchestrator.Proactive.HealthScan

/-!
# Proactive suggestions

`v2_logic_proactive_suggestions` compares what is known about a project with the success patterns
(`buildMissedOpportunities`), adds the alerts of the health scan, and puts one hint above all of
them (`proactiveSuggestions`).

The hint is a warning when a flow is in alarm, else an opportunity when a pattern is missed, else a
success story; it is never the `INFO` that the code keeps for the rest
(`hint_of_proactiveSuggestions`). Which of the built-in patterns are missed does not depend on the
sector of the project (`missed_builtin`). `v2_saas_register` overwrites the settings of a project
that is registered already: then the built-in patterns are the only ones, and no template counts as
adopted any more (`forgotten_of_saasRegister`).
-/

namespace Siyadah

open PyValue Script

/-! ### Patterns -/

/-- Sectors of the built-in patterns. -/
def sectorList (sectors : List String) : PyValue := .list (sectors.map py)

/-- `_V2_DEFAULT_SUCCESS_PATTERNS`. -/
def v2DefaultSuccessPatterns : List PyValue :=
  [pyDict [
    ("id", py "faq_intelligence_gap"),
    ("sectors", sectorList ["E-commerce", "Healthcare", "Education", "Real Estate", "default"]),
    ("when_missing", .list [py "faqs"]),
    ("title_en", py "FAQ layer missing — peers automate first-line support"),
    ("title_ar", py "طبقة الأسئلة الشائعة مفقودة — الناجحون يؤتمتون الاستجابة الأولى"),
    ("body_en", py ("Similar businesses already distilled FAQs into memory so flows can answer " ++
      "without human delay. Capturing yours unlocks FAQ-aware replies and fewer ticket " ++
      "escalations.")),
    ("body_ar", py ("الشركات المشابهة خزّنت أسئلة شائعة في الذاكرة " ++
      "لتردّ الفلوهات دون تأخير بشري. تسجيل أسئلتك يفتح ردوداً ذكية ويقلّل تصعيد التذاكر.")),
    ("related_template", py "gmail_autoresponder"),
    ("benchmark", py ("SUCCESS_STORY: Teams that ship FAQ-backed automations typically cut " ++
      "first-response latency sharply."))],
  pyDict [
    ("id", py "tone_guardrails"),
    ("sectors", sectorList ["E-commerce", "Healthcare", "Education", "Real Estate", "default"]),
    ("when_missing", .list [py "tone_of_voice"]),
    ("title_en", py "Brand voice not locked — automations risk sounding generic"),
    ("title_ar", py "صوت العلامة غير مضبوط — الأتمتة قد تبدو عامة"),
    ("body_en", py ("High-performing clients define tone in institutional memory before scaling " ++
      "webhooks and email flows.")),
    ("body_ar", py ("العملاء الأعلى أداءً يحددون نبرة الصوت في الذاكرة المؤسسية " ++
      "قبل توسيع الويب هوك والبريد.")),
    ("related_template", py "gmail_autoresponder"),
    ("benchmark", py ("SUCCESS_STORY: Consistent tone in memory removes most rewrite cycles " ++
      "before go-live."))],
  pyDict [
    ("id", py "lead_logging_discipline"),
    ("sectors", sectorList ["E-commerce", "Real Estate", "default"]),
    ("when_missing", .list []),
    ("title_en", py "Add automatic lead logging to Sheets"),
    ("title_ar", py "أضف تسجيلاً تلقائياً للعملاء في Sheets"),
    ("body_en", py ("Stores and agencies in your sector route every webhook capture into Sheets " ++
      "before enrichment — a high-signal step teams often postpone.")),
    ("body_ar", py ("المتاجر والوكالات في قطاعك يوجّهون كل التقاط ويب هوك إلى Sheets " ++
      "قبل الإثراء — خطوة عالية الإشارة غالباً ما تُؤجّل.")),
    ("related_template", py "gmail_sheets_logger"),
    ("benchmark", py ("SUCCESS_STORY: Central lead logs make downstream AI routing and QA far " ++
      "easier."))],
  pyDict [
    ("id", py "scheduled_digest_maturity"),
    ("sectors", sectorList ["Healthcare", "Education", "E-commerce", "default"]),
    ("when_missing", .list []),
    ("title_en", py "No scheduled executive digest yet"),
    ("title_ar", py "لا يوجد ملخص مجدول لصنع القرار بعد"),
    ("body_en", py ("Mature ops stacks add a gentle scheduled digest so owners see drift before " ++
      "customers complain.")),
    ("body_ar", py "العمليات الناضجة تضيف ملخصاً مجدولاً ليرى المالك الانحراف قبل شكوى العملاء."),
    ("related_template", py "scheduled_report"),
    ("benchmark", py ("SUCCESS_STORY: Scheduled digests correlate with fewer silent automation " ++
      "failures."))],
  pyDict [
    ("id", py "website_absorption_stale"),
    ("sectors", sectorList ["E-commerce", "Healthcare", "Education", "Real Estate", "default"]),
    ("when_missing", .list [py "website_url_fresh"]),
    ("title_en", py "Refresh website absorption"),
    ("title_ar", py "حدّث امتصاص الموقع"),
    ("body_en", py ("Your public site evolves — re-absorbing keeps sector signals, tone, and " ++
      "FAQs aligned with reality.")),
    ("body_ar", py ("الموقع العلني يتغيّر — إعادة الامتصاص تحافظ على القطاع والنبرة " ++
      "والأسئلة الشائعة واقعية.")),
    ("related_template", py "gmail_sheets_logger"),
    ("benchmark", py ("SUCCESS_STORY: Quarterly absorption refreshes keep proactive logic " ++
      "eerily accurate."))]]

/-- `_pattern_sector_match`. -/
def patternSectorMatch (pattern : PyValue) (sector : PyStr) : Except PyError Bool := do
  let sectors ← pattern.get "sectors"
  let sectors := sectors.orElse (.list [py "default"])
  if ← sectors.hasItem (text "default") then pure true
  else sectors.hasItem sector

/-- `signals.get(field)`, for a field of `when_missing`. -/
def signalOf (signals : List (PyStr × Bool)) (field : PyValue) : Except PyError Bool :=
  match field with
  | .str name => .ok ((signals.lookup name).getD false)
  | .list _ | .dict _ => .error .typeError
  | _ => .ok false

/-- One of the fields is missing. -/
def anySignal (signals : List (PyStr × Bool)) : List PyValue → Except PyError Bool
  | [] => .ok false
  | field :: fields => do
    if ← signalOf signals field then pure true
    else anySignal signals fields

/-- `bool(tpl) and tpl not in adopted_templates`, where a false `tpl` is `""`. -/
def notAdopted (adopted : List PyStr) (tpl : PyValue) : Except PyError Bool :=
  match tpl with
  | .str name => .ok (name ≠ [] ∧ name ∉ adopted)
  | .list _ | .dict _ => .error .typeError
  | _ => .ok true

/-- `_misses_pattern`. -/
def missesPattern (sector : PyStr) (signals : List (PyStr × Bool)) (adopted : List PyStr)
    (pattern : PyValue) : Except PyError Bool := do
  if !(← patternSectorMatch pattern sector) then pure false
  else do
    let whenMissing ← pattern.get "when_missing"
    let innerWm ← (whenMissing.orElse (.list [])).items
    if ← anySignal signals (innerWm.map Subtype.val) then pure true
    else if innerWm.isEmpty then do
      let tpl ← pattern.get "related_template"
      notAdopted adopted (tpl.orElse (py ""))
    else pure false

/-! ### What is known about a project -/

/-- A query of the endpoint. -/
inductive LogicQuery where
  | language
  | identity
  | knowledge
  | patterns
  | adopted

/-- What the endpoint meets besides its arguments and the answers of ActivePieces. -/
structure SuggestionEnv extends ScanEnv where
  /-- A database is configured. -/
  online : Bool
  /-- The database, as the query finds it. -/
  db : LogicQuery → MemoryDb
  /-- The connection fails. -/
  fails : LogicQuery → Bool
  /-- `datetime.now(timezone.utc) - absorbed_at`, in seconds. -/
  age : PyValue → ℤ

/-- The string that a `String` column holds, where it is not empty. -/
def filled : PyValue → Option PyStr
  | .str [] => none
  | .str s => some s
  | _ => none

namespace SuggestionEnv

variable (env : SuggestionEnv) (pid : PyStr)

/-- `scalar_one_or_none` over the rows of the project, or `none` where the query raises. -/
def scalar {ρ : Type} (q : LogicQuery) (t : Table MemoryDb.part ρ) : Option (Option ρ) :=
  if env.fails q then none else (scalarOneOrNone (rowsOf t.key pid (t.rows (env.db q)))).toOption

/-- The row of the project; there is none either when the query raises, or without a database. -/
def row {ρ : Type} (q : LogicQuery) (t : Table MemoryDb.part ρ) : Option ρ :=
  if env.online then (env.scalar pid q t).join else none

/-- `lang`. -/
def lang : PyStr :=
  ((env.row pid .language MemoryDb.identityTable).bind (filled ·.language)).getD (text "en")

/-- `identity`. -/
def identity : Option ProjectIdentity := env.row pid .identity MemoryDb.identityTable

/-- `knowledge`: it is read in the same session, after the identity. -/
def knowledge : Option KnowledgeAsset :=
  (env.scalar pid .identity MemoryDb.identityTable).bind fun _ ↦
    env.row pid .knowledge MemoryDb.knowledgeTable

/-- `sector`. -/
def sector : PyStr := ((env.identity pid).bind (filled ·.sector)).getD (text "default")

/-- The website was absorbed in the last 90 days. -/
def absorbedLately (identity : ProjectIdentity) : Bool :=
  identity.websiteUrl.truthy && identity.absorbedAt.truthy &&
    decide (env.age identity.absorbedAt < 90 * 86400)

/-- `_identity_missing_signals`. -/
def identityMissingSignals (identity : Option ProjectIdentity)
    (knowledge : Option KnowledgeAsset) : Except PyError (List (PyStr × Bool)) := do
  let faqs := (knowledge.map KnowledgeAsset.faqs).getD .null
  let asked ← if faqs.truthy then faqs.len else .ok 0
  pure [(text "faqs", decide (¬0 < asked)),
    (text "tone_of_voice", !(knowledge.any (·.toneOfVoice.truthy))),
    (text "website_url_fresh", !(identity.any env.absorbedLately))]

/-- `(setting.client_settings or {}).get(key) if setting else None`; a query that raises, or
settings that are no dictionary, are as no settings. -/
def clientSetting (q : LogicQuery) (key : String) : PyValue :=
  ((env.row pid q MemoryDb.settingTable).bind fun setting ↦
    ((setting.clientSettings.orElse (.dict [])).get key).toOption).getD .null

/-- What `_load_merged_success_patterns` adds to the built-in patterns. -/
def extraPatterns : List PyValue :=
  (env.clientSetting pid .patterns "success_patterns").listItems.filter fun row ↦
    row.isDict && (row.entryD "id").truthy

/-- `_load_merged_success_patterns`. -/
def loadMergedSuccessPatterns : List PyValue := v2DefaultSuccessPatterns ++ env.extraPatterns pid

/-- `_load_adopted_templates`. -/
def loadAdoptedTemplates : List PyStr :=
  (env.clientSetting pid .adopted "adopted_templates").listItems.map env.pyText.str

end SuggestionEnv

/-! ### Opportunities and stories -/

/-- `s.replace(old, "", 1)`. -/
def removeFirst (old : PyStr) : PyStr → PyStr
  | [] => []
  | c :: s => if old <+: c :: s then (c :: s).drop old.length else c :: removeFirst old s

/-- A pattern that the project misses. -/
structure Opportunity where
  patternId : PyValue
  title : PyValue
  description : PyValue
  relatedTemplate : PyValue
  hint : PyValue

/-- A success story. -/
structure SuccessStory where
  patternId : PyStr
  message : PyStr
  hint : PyValue

/-- `_benchmark_to_success_story`. -/
def benchmarkToSuccessStory (benchmark patternId : PyStr) : SuccessStory :=
  let msg := (removeFirst (text "SUCCESS_STORY: ") benchmark).strip
  { patternId
    message := msg
    hint := smartHintNotification (text "SUCCESS_STORY") msg [(text "pattern_id", .str patternId)] }

/-- The story of a project that misses no pattern. -/
def baselineStory (lang : PyStr) : SuccessStory :=
  if lang = text "ar" then
    { patternId := text "baseline_delight_ar"
      message := text ("الذاكرة المؤسسية متناغمة مع أنماط النجاح — " ++
        "الخطوة التالية: ربط الويب هوك بمراقبة جودة صامتة.")
      hint := smartHintNotification (text "SUCCESS_STORY") (text <|
        "الذاكرة المؤسسية متناغمة مع أنماط النجاح — ربط الويب هوك بمراقبة جودة صامتة.") [] }
  else
    let msg := text ("Institutional memory already matches proven success patterns — " ++
      "next winners wire webhooks into silent quality monitors.")
    { patternId := text "baseline_delight_en"
      message := msg
      hint := smartHintNotification (text "SUCCESS_STORY") msg [] }

/-- `p[f"{part}_ar"] if lang == "ar" else p.get(f"{part}_en", p.get(f"{part}_ar", ""))`. -/
def localized (lang : PyStr) (pattern : PyValue) (ar en : String) : Except PyError PyValue :=
  if lang = text "ar" then pattern.getItem (text ar)
  else do
    let other ← pattern.getD ar (py "")
    pattern.getD en other

namespace SuggestionEnv

variable (env : SuggestionEnv) (pid lang : PyStr)

/-- `f"{title} — {body}"[:900]`. -/
def opportunityText (title body : PyValue) : PyStr :=
  (env.pyText.str title ++ text " — " ++ env.pyText.str body).take 900

/-- What is appended to `missed`. -/
def opportunityOf (pattern : PyValue) : Except PyError Opportunity := do
  let title ← localized lang pattern "title_ar" "title_en"
  let body ← localized lang pattern "body_ar" "body_en"
  let id ← pattern.getItem (text "id")
  let tpl ← pattern.get "related_template"
  pure
    { patternId := id
      title := title
      description := body
      relatedTemplate := tpl
      hint := smartHintNotification (text "OPPORTUNITY") (env.opportunityText title body)
        [(text "pattern_id", id), (text "related_template", tpl)] }

/-- The story of a pattern that has a benchmark. -/
def storyOf (pattern : PyValue) : Option SuccessStory :=
  if (pattern.entryD "benchmark").truthy then
    some (benchmarkToSuccessStory (env.pyText.str (pattern.entryD "benchmark"))
      (env.pyText.str (pattern.entryD "id")))
  else none

/-- The body of the loop over the patterns. -/
def patternStep (sector : PyStr) (signals : List (PyStr × Bool)) (adopted : List PyStr)
    (acc : List Opportunity × List SuccessStory) (pattern : PyValue) :
    Except PyError (List Opportunity × List SuccessStory) := do
  if ← missesPattern sector signals adopted pattern then do
    let opportunity ← env.opportunityOf lang pattern
    let told := if acc.2.length < 4 then (env.storyOf pattern).toList else []
    pure (acc.1 ++ [opportunity], acc.2 ++ told)
  else pure acc

/-- `_build_missed_opportunities`. -/
def buildMissedOpportunities : Except PyError (List Opportunity × List SuccessStory) := do
  let signals ← env.identityMissingSignals (env.identity pid) (env.knowledge pid)
  let (missed, stories) ← (env.loadMergedSuccessPatterns pid).foldlM
    (env.patternStep lang (env.sector pid) signals (env.loadAdoptedTemplates pid)) ([], [])
  pure (missed, if missed.isEmpty then stories ++ [baselineStory lang] else stories)

end SuggestionEnv

/-- What the endpoint answers. -/
structure ProactiveSuggestions where
  projectId : PyStr
  language : PyStr
  missedOpportunities : List Opportunity
  flowHealthAlerts : List HealthAlert
  successStories : List SuccessStory
  hint : PyValue

namespace SuggestionEnv

variable (env : SuggestionEnv)

/-- `agg`. -/
def aggregateHint (lang : PyStr) (health : List HealthAlert) (missed : List Opportunity)
    (stories : List SuccessStory) : Except PyError PyValue :=
  match health, missed, stories with
  | h0 :: _, _, _ => do
    let message ← (if lang = text "ar" then h0.hintAr else h0.hint).getItem (text "message")
    pure (smartHintNotification (text "WARNING") (env.pyText.str message)
      [(text "flows_in_alarm", .int health.length)])
  | [], m0 :: _, _ =>
    if lang = text "ar" then
      pure (smartHintNotification (text "OPPORTUNITY")
        (env.opportunityText m0.title m0.description) [(text "pattern_id", m0.patternId)])
    else pure m0.hint
  | [], [], story :: _ => pure story.hint
  | [], [], [] => pure (smartHintNotification (text "INFO")
      (if lang = text "ar" then text "لا توجد تنبيهات صحية بارزة؛ راقب لوحة التشغيل للمزيد."
        else text "No urgent health signals — keep an eye on runs for new patterns.") [])

/-- `v2_logic_proactive_suggestions`, for the project that `resolve_pid` has come to; `answer` is
what ActivePieces answers to the health scan. -/
def proactiveSuggestions (pid : PyStr) (answer : Option (PyValue × PyValue)) :
    Except PyError ProactiveSuggestions := do
  let (missed, stories) ← env.buildMissedOpportunities pid (env.lang pid)
  let health ← env.healthScan pid answer
  let agg ← env.aggregateHint (env.lang pid) health missed stories
  pure
    { projectId := pid
      language := env.lang pid
      missedOpportunities := missed
      flowHealthAlerts := health
      successStories := stories.take 6
      hint := agg }

end SuggestionEnv

/-! ### What the loop comes to -/

namespace SuggestionEnv

variable {env : SuggestionEnv} {pid lang sector : PyStr} {signals : List (PyStr × Bool)}
  {adopted : List PyStr} {patterns : List PyValue} {pattern : PyValue}
  {acc acc' : List Opportunity × List SuccessStory}

/-- The project misses the pattern. -/
def misses (sector : PyStr) (signals : List (PyStr × Bool)) (adopted : List PyStr)
    (pattern : PyValue) : Bool :=
  (missesPattern sector signals adopted pattern).toOption.getD false

theorem type_smartHintNotification {hintType message : PyStr} {extra : Fields}
    (h : hintType ∈ smartHintTypes) :
    (smartHintNotification hintType message extra).entryD "type" = .str hintType := by
  rw [smartHintNotification, if_pos h]
  rfl

/-- An opportunity carries the id of its pattern. -/
theorem of_opportunityOf {opportunity : Opportunity}
    (h : env.opportunityOf lang pattern = .ok opportunity) :
    opportunity.patternId = pattern.entryD "id" ∧
      opportunity.hint.entryD "type" = py "OPPORTUNITY" := by
  rw [opportunityOf] at h
  obtain ⟨title, -, h⟩ := bind_eq_ok_iff.1 h
  obtain ⟨body, -, h⟩ := bind_eq_ok_iff.1 h
  obtain ⟨id, hid, h⟩ := bind_eq_ok_iff.1 h
  obtain ⟨tpl, -, h⟩ := bind_eq_ok_iff.1 h
  obtain ⟨hdict, hget⟩ := get_of_getItem hid
  rw [get_of_isDict hdict] at hget
  rw [← Except.ok.inj h]
  exact ⟨(Except.ok.inj hget).symm, type_smartHintNotification (by decide)⟩

theorem type_of_storyOf {story : SuccessStory} (h : env.storyOf pattern = some story) :
    story.hint.entryD "type" = py "SUCCESS_STORY" := by
  rw [storyOf] at h
  split at h
  · rw [← Option.some.inj h]
    exact type_smartHintNotification (by decide)
  · exact absurd h (Option.some_ne_none story).symm

theorem type_baselineStory : (baselineStory lang).hint.entryD "type" = py "SUCCESS_STORY" := by
  rw [baselineStory]
  split <;> exact type_smartHintNotification (by decide)

/-- What one pattern adds. -/
theorem of_patternStep (h : env.patternStep lang sector signals adopted acc pattern = .ok acc') :
    ∃ added, ([pattern].filter (misses sector signals adopted)).mapM (env.opportunityOf lang) =
        .ok added ∧ acc'.1 = acc.1 ++ added ∧
      acc'.2 = acc.2 ++ if acc.2.length < 4 then
        ([pattern].filter (misses sector signals adopted)).filterMap env.storyOf else [] := by
  rw [patternStep] at h
  obtain ⟨missed, hmissed, h⟩ := bind_eq_ok_iff.1 h
  have hmisses : misses sector signals adopted pattern = missed := by
    rw [misses, hmissed]
    rfl
  rcases missed with - | -
  · rw [List.filter_cons_of_neg (by rw [hmisses]; simp)]
    obtain rfl := Except.ok.inj h
    exact ⟨[], rfl, (List.append_nil _).symm, by rw [List.filter_nil, List.filterMap_nil, ite_self,
      List.append_nil]⟩
  · obtain ⟨opportunity, hopportunity, h⟩ := bind_eq_ok_iff.1 h
    rw [List.filter_cons_of_pos hmisses, List.filter_nil, ← Except.ok.inj h]
    refine ⟨[opportunity], ?_, rfl, ?_⟩
    · rw [List.mapM_cons, hopportunity]
      rfl
    · show acc.2 ++ _ = _
      congr 2

theorem take_append_take {α : Type*} (l l' l'' : List α) (n : ℕ) :
    (l ++ (if l.length < n then l' else []) ++ l'').take n = (l ++ l' ++ l'').take n := by
  split
  · rfl
  · rename_i h
    rw [List.append_nil, List.append_assoc, List.take_append_of_le_length (by omega),
      List.take_append_of_le_length (by omega)]

/-- What all patterns together add: the opportunities of those that are missed, and the first four
of their stories. -/
theorem of_foldlM_patternStep
    (h : patterns.foldlM (env.patternStep lang sector signals adopted) acc = .ok acc')
    (hlen : acc.2.length ≤ 4) :
    ∃ added, (patterns.filter (misses sector signals adopted)).mapM (env.opportunityOf lang) =
        .ok added ∧ acc'.1 = acc.1 ++ added ∧
      acc'.2 = (acc.2 ++
        (patterns.filter (misses sector signals adopted)).filterMap env.storyOf).take 4 := by
  induction patterns generalizing acc with
  | nil =>
    obtain rfl := Except.ok.inj h
    refine ⟨[], rfl, (List.append_nil _).symm, ?_⟩
    rw [List.filter_nil, List.filterMap_nil, List.append_nil, List.take_of_length_le hlen]
  | cons pattern patterns ih =>
    rw [List.foldlM_cons] at h
    obtain ⟨mid, hmid, h⟩ := bind_eq_ok_iff.1 h
    obtain ⟨added, hadded, hmissed, hstories⟩ := of_patternStep hmid
    have hstory : (([pattern].filter (misses sector signals adopted)).filterMap
        env.storyOf).length ≤ 1 :=
      (List.length_filterMap_le _ _).trans (List.length_filter_le _ _)
    have hlen' : mid.2.length ≤ 4 := by
      rw [hstories, List.length_append]
      split
      · omega
      · simpa using hlen
    obtain ⟨added', hadded', hmissed', hstories'⟩ := ih h hlen'
    have hcons : (pattern :: patterns).filter (misses sector signals adopted) =
        [pattern].filter (misses sector signals adopted) ++
          patterns.filter (misses sector signals adopted) := by
      rw [← List.filter_append]
      rfl
    refine ⟨added ++ added', ?_, ?_, ?_⟩
    · rw [hcons, List.mapM_append, hadded, hadded']
      rfl
    · rw [hmissed', hmissed, List.append_assoc]
    · rw [hcons, List.filterMap_append, hstories', hstories, take_append_take, List.append_assoc]

/-! ### The hint -/

/-- The hint names the most urgent kind of notice that there is. -/
theorem type_aggregateHint {health : List HealthAlert} {missed : List Opportunity}
    {stories : List SuccessStory} {hint : PyValue}
    (h : env.aggregateHint lang health missed stories = .ok hint)
    (hmissed : ∀ o ∈ missed, o.hint.entryD "type" = py "OPPORTUNITY")
    (hstories : ∀ s ∈ stories, s.hint.entryD "type" = py "SUCCESS_STORY")
    (hne : missed = [] → stories ≠ []) :
    hint.entryD "type" = py (if health ≠ [] then "WARNING" else if missed ≠ [] then "OPPORTUNITY"
      else "SUCCESS_STORY") := by
  rcases health with - | ⟨h0, health⟩
  · rw [if_neg (not_not.2 rfl)]
    rcases missed with - | ⟨m0, missed⟩
    · rw [if_neg (not_not.2 rfl)]
      rcases stories with - | ⟨story, stories⟩
      · exact absurd rfl (hne rfl)
      · rw [← Except.ok.inj h]
        exact hstories story List.mem_cons_self
    · rw [if_pos (List.cons_ne_nil _ _)]
      rw [aggregateHint] at h
      split at h
      · rw [← Except.ok.inj h]
        exact type_smartHintNotification (by decide)
      · rw [← Except.ok.inj h]
        exact hmissed m0 List.mem_cons_self
  · rw [if_pos (List.cons_ne_nil _ _)]
    rw [aggregateHint] at h
    obtain ⟨message, -, h⟩ := bind_eq_ok_iff.1 h
    rw [← Except.ok.inj h]
    exact type_smartHintNotification (by decide)

/-- What `_build_missed_opportunities` comes to, unless it raises. -/
theorem of_buildMissedOpportunities {missed : List Opportunity} {stories : List SuccessStory}
    (h : env.buildMissedOpportunities pid lang = .ok (missed, stories)) :
    ∃ signals, env.identityMissingSignals (env.identity pid) (env.knowledge pid) = .ok signals ∧
      ((env.loadMergedSuccessPatterns pid).filter (misses (env.sector pid) signals
        (env.loadAdoptedTemplates pid))).mapM (env.opportunityOf lang) = .ok missed ∧
      stories = if missed = [] then [baselineStory lang] else
        (((env.loadMergedSuccessPatterns pid).filter (misses (env.sector pid) signals
          (env.loadAdoptedTemplates pid))).filterMap env.storyOf).take 4 := by
  rw [buildMissedOpportunities] at h
  obtain ⟨signals, hsignals, h⟩ := bind_eq_ok_iff.1 h
  obtain ⟨acc, hfold, h⟩ := bind_eq_ok_iff.1 h
  obtain ⟨added, hadded, hmissed, hstories⟩ := of_foldlM_patternStep hfold (Nat.zero_le 4)
  rw [List.nil_append] at hmissed hstories
  obtain ⟨rfl, hstories'⟩ := Prod.mk.inj (Except.ok.inj h)
  refine ⟨signals, hsignals, hmissed ▸ hadded, hstories'.symm.trans ?_⟩
  rcases hempty : acc.1 with - | ⟨m0, rest⟩
  · -- No pattern is missed, so none has told a story.
    rw [hempty] at hmissed
    have hnone := (mapM_eq_ok_iff.1 hadded).length_eq
    rw [← hmissed, List.length_nil, List.length_eq_zero_iff] at hnone
    rw [if_pos rfl, hstories, hnone]
    rfl
  · rw [if_neg (List.cons_ne_nil _ _)]
    exact hstories

/-- **The suggestions.** What the endpoint answers when it does not raise. -/
theorem hint_of_proactiveSuggestions {answer : Option (PyValue × PyValue)}
    {r : ProactiveSuggestions} (h : env.proactiveSuggestions pid answer = .ok r) :
    ∃ signals, env.identityMissingSignals (env.identity pid) (env.knowledge pid) = .ok signals ∧
      ((env.loadMergedSuccessPatterns pid).filter (misses (env.sector pid) signals
        (env.loadAdoptedTemplates pid))).mapM (env.opportunityOf (env.lang pid)) =
          .ok r.missedOpportunities ∧
      (r.successStories = if r.missedOpportunities = [] then [baselineStory (env.lang pid)] else
        (((env.loadMergedSuccessPatterns pid).filter (misses (env.sector pid) signals
          (env.loadAdoptedTemplates pid))).filterMap env.storyOf).take 4) ∧
      env.healthScan pid answer = .ok r.flowHealthAlerts ∧
      r.hint.entryD "type" = py (if r.flowHealthAlerts ≠ [] then "WARNING"
        else if r.missedOpportunities ≠ [] then "OPPORTUNITY" else "SUCCESS_STORY") := by
  rw [proactiveSuggestions] at h
  obtain ⟨⟨missed, stories⟩, hbuild, h⟩ := bind_eq_ok_iff.1 h
  obtain ⟨health, hhealth, h⟩ := bind_eq_ok_iff.1 h
  obtain ⟨hint, hhint, h⟩ := bind_eq_ok_iff.1 h
  obtain ⟨signals, hsignals, hmissed, hstories⟩ := of_buildMissedOpportunities hbuild
  obtain rfl := Except.ok.inj h
  have hlen : stories.length ≤ 6 := by
    rw [hstories]
    split
    · simp
    · exact (List.length_take_le 4 _).trans (by omega)
  refine ⟨signals, hsignals, hmissed, ?_, hhealth, type_aggregateHint hhint ?_ ?_ ?_⟩
  · exact (List.take_of_length_le hlen).trans hstories
  · intro o ho
    obtain ⟨pattern, -, hpattern⟩ := exists_of_mem_mapM hmissed ho
    exact (of_opportunityOf hpattern).2
  · intro story hstory
    rw [hstories] at hstory
    split at hstory
    · rw [List.mem_singleton.1 hstory]
      exact type_baselineStory
    · obtain ⟨pattern, -, hpattern⟩ := List.mem_filterMap.1 (List.mem_of_mem_take hstory)
      exact type_of_storyOf hpattern
  · rintro rfl
    rw [hstories, if_pos rfl]
    exact List.cons_ne_nil _ _

/-- A request that finds the database as it is, in the second after the last absorption. -/
def sampleSuggestions (db : MemoryDb) : SuggestionEnv where
  toScanEnv := ScanEnv.plainScan
  online := true
  db _ := db
  fails _ := false
  age _ := 0

/-- The project `p` has adopted a template. -/
def adoptedMemory : MemoryDb :=
  ⟨[⟨text "p", py "P", text "2026-01-01"⟩], [], [], [⟨text "p",
    pyDict [("adopted_templates", .list [py "scheduled_report"])], .list [], py "off"⟩]⟩

theorem hint_of_proactiveSuggestions_sample : ∃ r,
    (sampleSuggestions adoptedMemory).proactiveSuggestions (text "p") none = .ok r ∧
      r.hint.entryD "type" = py "OPPORTUNITY" := by
  have hlen : ((sampleSuggestions adoptedMemory).proactiveSuggestions (text "p")
      none).toOption.map (·.missedOpportunities.length) = some 4 := by decide
  rcases hr : (sampleSuggestions adoptedMemory).proactiveSuggestions (text "p") none with e | r
  · rw [hr] at hlen
    exact absurd hlen (by simp [Except.toOption])
  · rw [hr] at hlen
    have hmissed : r.missedOpportunities.length = 4 := Option.some.inj hlen
    obtain ⟨signals, -, -, -, hhealth, htype⟩ := hint_of_proactiveSuggestions hr
    have hnone : r.flowHealthAlerts = [] := (Except.ok.inj hhealth).symm
    have hsome : r.missedOpportunities ≠ [] := List.ne_nil_of_length_pos (by omega)
    rw [hnone, if_neg (not_not.2 rfl), if_pos hsome] at htype
    exact ⟨r, rfl, htype⟩

/-! ### The built-in patterns -/

theorem len_pos_of_truthy {v : PyValue} {n : ℕ} (h : v.truthy = true) (hn : v.len = .ok n) :
    0 < n := by
  cases v with
  | str s =>
    rw [← Except.ok.inj hn]
    exact List.length_pos_iff.2 (by simpa [truthy] using h)
  | list items =>
    rw [← Except.ok.inj hn]
    exact List.length_pos_iff.2 (by simpa [truthy] using h)
  | dict fields =>
    rw [← Except.ok.inj hn]
    exact List.length_pos_iff.2 (by simpa [truthy] using h)
  | _ => exact absurd hn (by simp [len])

/-- The signals, when the questions of the project are a list. -/
theorem identityMissingSignals_eq (env : SuggestionEnv) (identity : Option ProjectIdentity)
    {knowledge : Option KnowledgeAsset}
    (hfaqs : ∀ k, knowledge = some k → k.faqs.truthy = true → ∃ n, k.faqs.len = .ok n) :
    env.identityMissingSignals identity knowledge = .ok
      [(text "faqs", !knowledge.any (·.faqs.truthy)),
        (text "tone_of_voice", !knowledge.any (·.toneOfVoice.truthy)),
        (text "website_url_fresh", !identity.any env.absorbedLately)] := by
  rcases knowledge with - | k
  · rfl
  · rcases htruthy : k.faqs.truthy with - | -
    · have hany : (some k).any (·.faqs.truthy) = false := htruthy
      rw [identityMissingSignals, hany, Option.map_some, Option.getD_some, htruthy]
      rfl
    · have hany : (some k).any (·.faqs.truthy) = true := htruthy
      obtain ⟨n, hn⟩ := hfaqs k rfl htruthy
      rw [identityMissingSignals, hany, Option.map_some, Option.getD_some, htruthy, if_pos rfl, hn]
      show Except.ok ((text "faqs", decide (¬0 < n)) :: _) = _
      rw [decide_eq_false (not_not.2 (len_pos_of_truthy htruthy hn))]
      rfl

/-- A pattern that has an id, and a title and a text in Arabic, can be suggested. -/
theorem exists_opportunityOf (hid : (pattern.entry "id").isSome = true)
    (htitle : (pattern.entry "title_ar").isSome = true)
    (hbody : (pattern.entry "body_ar").isSome = true) (lang : PyStr) :
    ∃ opportunity, env.opportunityOf lang pattern = .ok opportunity := by
  obtain ⟨id, hid⟩ := Option.isSome_iff_exists.1 hid
  have hdict := isDict_of_entry hid
  have hitem : ∀ {key : String} {v : PyValue}, pattern.entry key = some v →
      pattern.getItem (text key) = .ok v := by
    intro key v hv
    cases pattern with
    | dict fields =>
      show (fields.lookup (text key)).elim _ _ = _
      rw [show fields.lookup (text key) = some v from hv]
      rfl
    | _ => exact absurd hdict (by simp [isDict])
  have hlocalized : ∀ {ar en : String}, (pattern.entry ar).isSome = true →
      ∃ v, localized lang pattern ar en = .ok v := by
    intro ar en har
    obtain ⟨v, hv⟩ := Option.isSome_iff_exists.1 har
    rw [localized]
    split
    · exact ⟨v, hitem hv⟩
    · rw [getD_of_isDict hdict, ok_bind, getD_of_isDict hdict]
      exact ⟨_, rfl⟩
  obtain ⟨title, htitle⟩ := hlocalized htitle
  obtain ⟨body, hbody⟩ := hlocalized hbody
  rw [opportunityOf, htitle, ok_bind, hbody, ok_bind, hitem hid, ok_bind, get_of_isDict hdict,
    ok_bind]
  exact ⟨_, rfl⟩

theorem exists_opportunityOf_builtin (h : pattern ∈ v2DefaultSuccessPatterns)
    (env : SuggestionEnv) (lang : PyStr) :
    ∃ opportunity, env.opportunityOf lang pattern = .ok opportunity := by
  have hall : v2DefaultSuccessPatterns.all (fun p ↦ (p.entry "id").isSome &&
      ((p.entry "title_ar").isSome && (p.entry "body_ar").isSome)) = true := by decide
  have hpattern := List.all_eq_true.1 hall pattern h
  rw [Bool.and_eq_true, Bool.and_eq_true] at hpattern
  exact exists_opportunityOf hpattern.1 hpattern.2.1 hpattern.2.2 lang

/-- The loop does not raise, if no pattern does. -/
theorem exists_foldlM_patternStep (acc : List Opportunity × List SuccessStory)
    (h : ∀ p ∈ patterns, (∃ missed, missesPattern sector signals adopted p = .ok missed) ∧
      ∃ opportunity, env.opportunityOf lang p = .ok opportunity) :
    ∃ acc', patterns.foldlM (env.patternStep lang sector signals adopted) acc = .ok acc' := by
  induction patterns generalizing acc with
  | nil => exact ⟨acc, rfl⟩
  | cons pattern patterns ih =>
    obtain ⟨⟨⟨missed, hmissed⟩, opportunity, hopportunity⟩, hrest⟩ := List.forall_mem_cons.1 h
    have hstep : ∃ mid, env.patternStep lang sector signals adopted acc pattern = .ok mid := by
      rw [patternStep, hmissed, ok_bind]
      rcases missed with - | -
      · exact ⟨acc, rfl⟩
      · rw [if_pos rfl, hopportunity]
        exact ⟨_, rfl⟩
    obtain ⟨mid, hmid⟩ := hstep
    rw [List.foldlM_cons, hmid, ok_bind]
    exact ih mid hrest

/-- When a built-in pattern is missed. -/
def builtinMissed (faqs tone website : Bool) (adopted : List PyStr) : List (String × Bool) :=
  [("faq_intelligence_gap", faqs), ("tone_guardrails", tone),
    ("lead_logging_discipline", decide (text "gmail_sheets_logger" ∉ adopted)),
    ("scheduled_digest_maturity", decide (text "scheduled_report" ∉ adopted)),
    ("website_absorption_stale", website)]

theorem missesPattern_builtin (sector : PyStr) (adopted : List PyStr) (faqs tone website : Bool) :
    List.Forall₂ (fun p m ↦ p.entry "id" = some (py m.1) ∧ missesPattern sector
        [(text "faqs", faqs), (text "tone_of_voice", tone), (text "website_url_fresh", website)]
        adopted p = .ok m.2)
      v2DefaultSuccessPatterns (builtinMissed faqs tone website adopted) := by
  have hnew : ∀ name : PyStr, name ≠ [] →
      notAdopted adopted (.str name) = .ok (decide (name ∉ adopted)) := by
    intro name hname
    rw [notAdopted]
    exact congrArg Except.ok (decide_eq_decide.2 (and_iff_right hname))
  refine .cons ⟨rfl, ?_⟩ (.cons ⟨rfl, ?_⟩ (.cons ⟨rfl, ?_⟩ (.cons ⟨rfl, ?_⟩
    (.cons ⟨rfl, ?_⟩ .nil))))
  · rcases faqs <;> rfl
  · rcases tone <;> rfl
  · exact hnew (text "gmail_sheets_logger") (by decide)
  · exact hnew (text "scheduled_report") (by decide)
  · rcases website <;> rfl

theorem map_patternId {missed : List Opportunity}
    (h : patterns.mapM (env.opportunityOf lang) = .ok missed) :
    missed.map Opportunity.patternId = patterns.map (·.entryD "id") := by
  have hall := mapM_eq_ok_iff.1 h
  clear h
  induction hall with
  | nil => rfl
  | cons hfirst _ ih => rw [List.map_cons, List.map_cons, (of_opportunityOf hfirst).1, ih]

theorem map_filter_misses {verdicts : List (String × Bool)}
    (h : List.Forall₂ (fun p m ↦ p.entry "id" = some (py m.1) ∧
      missesPattern sector signals adopted p = .ok m.2) patterns verdicts) :
    (patterns.filter (misses sector signals adopted)).map (·.entryD "id") =
      (verdicts.filter Prod.snd).map (py ·.1) := by
  induction h with
  | nil => rfl
  | @cons p m patterns verdicts hfirst _ ih =>
    have hmisses : misses sector signals adopted p = m.2 := by
      rw [misses, hfirst.2]
      rfl
    rcases hm : m.2 with - | -
    · rw [List.filter_cons_of_neg (by simp [hmisses, hm]),
        List.filter_cons_of_neg (by simp [hm]), ih]
    · have hid : p.entryD "id" = py m.1 := by rw [entryD, hfirst.1, Option.getD_some]
      rw [List.filter_cons_of_pos (by simp [hmisses, hm]),
        List.filter_cons_of_pos (by simp [hm]), List.map_cons, List.map_cons, ih, hid]

/-- The built-in patterns that a project misses. -/
def missedIds (env : SuggestionEnv) (pid : PyStr) : List PyValue :=
  ((builtinMissed (!(env.knowledge pid).any (·.faqs.truthy))
    (!(env.knowledge pid).any (·.toneOfVoice.truthy)) (!(env.identity pid).any env.absorbedLately)
    (env.loadAdoptedTemplates pid)).filter Prod.snd).map (py ·.1)

/-- **The built-in patterns.** Where a project has no patterns of its own, nothing raises, and what
is missed does not depend on the sector. -/
theorem missed_builtin (hextra : env.extraPatterns pid = [])
    (hfaqs : ∀ k, env.knowledge pid = some k → k.faqs.truthy = true → ∃ n, k.faqs.len = .ok n)
    (lang : PyStr) :
    ∃ missed stories, env.buildMissedOpportunities pid lang = .ok (missed, stories) ∧
      missed.map Opportunity.patternId = env.missedIds pid := by
  have hmerged : env.loadMergedSuccessPatterns pid = v2DefaultSuccessPatterns := by
    rw [loadMergedSuccessPatterns, hextra, List.append_nil]
  have hsignals := identityMissingSignals_eq env (env.identity pid) hfaqs
  have hverdicts := missesPattern_builtin (env.sector pid) (env.loadAdoptedTemplates pid)
    (!(env.knowledge pid).any (·.faqs.truthy)) (!(env.knowledge pid).any (·.toneOfVoice.truthy))
    (!(env.identity pid).any env.absorbedLately)
  have hall := mapM_eq_ok_iff.2 (List.forall₂_map_right_iff.2 (hverdicts.imp fun _ _ h ↦ h.2))
  obtain ⟨acc, hacc⟩ := exists_foldlM_patternStep ([], []) fun p hp ↦
    ⟨(exists_of_mapM_eq_ok hall hp).imp fun _ h ↦ h.2, exists_opportunityOf_builtin hp env lang⟩
  have hbuild : ∃ stories, env.buildMissedOpportunities pid lang = .ok (acc.1, stories) := by
    rw [buildMissedOpportunities, hsignals, ok_bind, hmerged, hacc]
    exact ⟨_, rfl⟩
  obtain ⟨stories, hbuild⟩ := hbuild
  refine ⟨acc.1, stories, hbuild, ?_⟩
  obtain ⟨signals, hsignals', hmissed, -⟩ := of_buildMissedOpportunities hbuild
  obtain rfl := Except.ok.inj (hsignals.symm.trans hsignals')
  rw [hmerged] at hmissed
  rw [map_patternId hmissed, map_filter_misses hverdicts]
  rfl

theorem faqs_of_knowledge_eq_none {env : SuggestionEnv} (h : env.knowledge pid = none)
    (k : KnowledgeAsset) (hk : env.knowledge pid = some k) (_ : k.faqs.truthy = true) :
    ∃ n, k.faqs.len = .ok n :=
  absurd (h.symm.trans hk) (Option.some_ne_none k).symm

theorem missed_builtin_sample : ∃ missed stories,
    (sampleSuggestions adoptedMemory).buildMissedOpportunities (text "p") (text "ar") =
        .ok (missed, stories) ∧
      missed.map Opportunity.patternId = ["faq_intelligence_gap", "tone_guardrails",
        "lead_logging_discipline", "website_absorption_stale"].map py :=
  missed_builtin rfl (faqs_of_knowledge_eq_none rfl) (text "ar")

/-! ### What the registration forgets -/

/-- The column keeps the keys of an object. -/
def KeepsKeys (menv : MemoryEnv) : Prop :=
  ∀ fields v, menv.column .jsonb (.dict fields) = .ok v →
    ∃ fields', v = .dict fields' ∧ ∀ f ∈ fields', f.1 ∈ fields.map Prod.fst

/-- The settings of a project, once they have been configured from an analysis. -/
theorem settings_of_autoConfigured {menv : MemoryEnv} {db db' : MemoryDb} {analysis v : PyValue}
    (honline : menv.online = true) (hkeys : KeepsKeys menv)
    (hrun : (autoConfigureSettings menv pid analysis).exec db = (.ok v, db')) :
    ∃ setting fields, rowsOf AutonomousSetting.projectId pid db'.settings = [setting] ∧
      setting.clientSettings = .dict fields ∧
        ∀ f ∈ fields, f.1 ∈ ["tone_of_voice", "primary_language", "sector", "auto_faq_enabled",
          "brand_keywords"].map text := by
  rw [autoConfigureSettings, honline, Bool.not_true, if_neg Bool.false_ne_true] at hrun
  -- The analysis is read first; nothing is written until the session.
  have hread : ∀ {α β : Type} {x : Except PyError α} {f : α → MemoryM β} {b : β} {s : MemoryDb},
      (pyval x >>= f).exec s = (.ok b, db') → ∃ a, (f a).exec s = (.ok b, db') := by
    intro α β x f b s h
    obtain ⟨a, u, ha, h⟩ := exec_bind_eq_ok h
    obtain rfl : s = u := congrArg Prod.snd ha
    exact ⟨a, h⟩
  obtain ⟨ka, hrun⟩ := hread hrun
  obtain ⟨loc, hrun⟩ := hread hrun
  obtain ⟨bp, hrun⟩ := hread hrun
  obtain ⟨tone, hrun⟩ := hread hrun
  obtain ⟨language, hrun⟩ := hread hrun
  obtain ⟨sector, hrun⟩ := hread hrun
  obtain ⟨faqs, hrun⟩ := hread hrun
  obtain ⟨allKeywords, hrun⟩ := hread hrun
  obtain ⟨keywords, hrun⟩ := hread hrun
  obtain ⟨rules, hrun⟩ := hread hrun
  obtain ⟨_, u, hsession, hrun⟩ := exec_bind_eq_ok hrun
  obtain rfl : db' = u := (congrArg Prod.snd hrun).symm
  have hsession := exec_of_transaction_eq_ok hsession
  obtain ⟨found, u, hfound, hsession⟩ := exec_bind_eq_ok hsession
  obtain ⟨rows, u', hrows, hfound⟩ := exec_bind_eq_ok hfound
  obtain ⟨rfl, rfl⟩ : rowsOf AutonomousSetting.projectId pid db.settings = rows ∧ db = u' :=
    ⟨Except.ok.inj (congrArg Prod.fst hrows), congrArg Prod.snd hrows⟩
  obtain ⟨hscalar, rfl⟩ : scalarOneOrNone (rowsOf AutonomousSetting.projectId pid db.settings) =
      .ok found ∧ db = u := ⟨congrArg Prod.fst hfound, congrArg Prod.snd hfound⟩
  obtain ⟨clientSettings, u, hclient, hsession⟩ := exec_bind_eq_ok hsession
  obtain ⟨hcolumn, rfl⟩ : ((menv.column .jsonb _).mapError MemoryError.other) = .ok clientSettings ∧
      db = u := ⟨congrArg Prod.fst hclient, congrArg Prod.snd hclient⟩
  obtain ⟨stored, u, hstored, hsession⟩ := exec_bind_eq_ok hsession
  obtain rfl : db = u := congrArg Prod.snd hstored
  obtain ⟨fields, hfields, hmem⟩ := hkeys _ _ (mapError_eq_ok_iff.1 hcolumn)
  have hsave : db'.settings = saveRow AutonomousSetting.projectId
      ⟨pid, clientSettings, stored, py "smart"⟩ db.settings :=
    congrArg MemoryDb.settings (congrArg Prod.snd hsession).symm
  refine ⟨⟨pid, clientSettings, stored, py "smart"⟩, fields, ?_, hfields, fun f hf ↦ ?_⟩
  swap
  · have hkey := hmem f hf
    simp only [List.map_cons, List.map_nil] at hkey ⊢
    exact hkey
  -- The query before the write has found at most one row.
  have hlen : (rowsOf AutonomousSetting.projectId pid db.settings).length ≤ 1 := by
    rcases hrows : rowsOf AutonomousSetting.projectId pid db.settings with - | ⟨row, - | ⟨_, rest⟩⟩
    · exact Nat.zero_le 1
    · exact Nat.le_refl 1
    · rw [hrows] at hscalar
      exact absurd hscalar (by simp [scalarOneOrNone])
  rw [hsave]
  exact rowsOf_saveRow_eq_singleton rfl hlen

theorem mem_rowsOf_of_row {ρ : Type} {q : LogicQuery} {t : Table MemoryDb.part ρ} {r : ρ}
    (h : env.row pid q t = some r) : r ∈ rowsOf t.key pid (t.rows (env.db q)) := by
  rw [row] at h
  split at h
  · rw [scalar] at h
    split at h
    · exact absurd h (by simp)
    · rcases hrows : rowsOf t.key pid (t.rows (env.db q)) with - | ⟨r', - | ⟨_, rest⟩⟩
      · rw [hrows] at h
        exact absurd h (by simp [scalarOneOrNone, Except.toOption])
      · rw [hrows] at h
        exact List.mem_singleton.2 (Option.some.inj h).symm
      · rw [hrows] at h
        exact absurd h (by simp [scalarOneOrNone, Except.toOption])
  · exact absurd h (by simp)

/-- Settings that do not have the key say nothing under it. -/
theorem clientSetting_eq_null {q : LogicQuery} {key : String}
    (h : ∀ setting ∈ rowsOf AutonomousSetting.projectId pid (env.db q).settings,
      ∃ fields, setting.clientSettings = .dict fields ∧ ∀ f ∈ fields, f.1 ≠ text key) :
    env.clientSetting pid q key = .null := by
  rw [clientSetting]
  rcases hrow : env.row pid q MemoryDb.settingTable with - | setting
  · rfl
  · obtain ⟨fields, hfields, hkeys⟩ := h setting (mem_rowsOf_of_row hrow)
    have hlookup : fields.lookup (text key) = none := by
      rw [List.lookup_eq_none_iff]
      intro f hf
      simpa using (hkeys f hf).symm
    have hsetting : setting.clientSettings.orElse (.dict []) = .dict fields := by
      rw [hfields]
      rcases fields with - | ⟨f, fields⟩ <;> rfl
    rw [Option.bind_some, hsetting]
    show (fields.lookup (text key)).getD .null = .null
    rw [hlookup]
    rfl

/-- A registration that gets through has configured the settings last. -/
theorem autoConfigured_of_saasRegister {menv : MemoryEnv} {body : SaaSRegisterBody}
    {db db' : MemoryDb} {answer : PyValue}
    (hrun : (saasRegister menv body).exec db = (.ok answer, db')) :
    ∃ mid analysis v,
      (autoConfigureSettings menv (body.pid menv) analysis).exec mid = (.ok v, db') := by
  have hrun := exec_of_tryCatch_eq_ok hrun
  obtain ⟨saved, mid, -, hrun⟩ := exec_bind_eq_ok hrun
  obtain ⟨v, u, hauto, hrun⟩ := exec_bind_eq_ok hrun
  obtain rfl : db' = u := (congrArg Prod.snd hrun).symm
  exact ⟨mid, saved.2, v, hauto⟩

/-- **What the registration forgets.** A project that has been registered by `v2_saas_register` has
no success patterns of its own, and no template counts as adopted: the two built-in patterns that
ask for a template are missed, whatever the project had adopted before. -/
theorem forgotten_of_saasRegister {menv : MemoryEnv} {body : SaaSRegisterBody} {db db' : MemoryDb}
    {answer : PyValue} (honline : menv.online = true) (hkeys : KeepsKeys menv)
    (hrun : (saasRegister menv body).exec db = (.ok answer, db')) (hpid : pid = body.pid menv)
    (hpatterns : ((env.db .patterns).part pid).settings = (db'.part pid).settings)
    (hadopted : ((env.db .adopted).part pid).settings = (db'.part pid).settings)
    (hfaqs : ∀ k, env.knowledge pid = some k → k.faqs.truthy = true → ∃ n, k.faqs.len = .ok n)
    (lang : PyStr) :
    ∃ missed stories, env.buildMissedOpportunities pid lang = .ok (missed, stories) ∧
      (∀ o ∈ missed, o.patternId ∈ v2DefaultSuccessPatterns.map (·.entryD "id")) ∧
      py "lead_logging_discipline" ∈ missed.map Opportunity.patternId ∧
      py "scheduled_digest_maturity" ∈ missed.map Opportunity.patternId := by
  obtain ⟨mid, analysis, v, hauto⟩ := autoConfigured_of_saasRegister hrun
  rw [← hpid] at hauto
  obtain ⟨setting, fields, hrows, hfields, hnames⟩ :=
    settings_of_autoConfigured honline hkeys hauto
  have hnull : ∀ {q key}, ((env.db q).part pid).settings = (db'.part pid).settings →
      text key ∉ ["tone_of_voice", "primary_language", "sector", "auto_faq_enabled",
        "brand_keywords"].map text → env.clientSetting pid q key = .null := by
    intro q key hq hkey
    refine clientSetting_eq_null fun s hs ↦ ?_
    rw [show rowsOf AutonomousSetting.projectId pid (env.db q).settings = [setting] from
      hq.trans hrows, List.mem_singleton] at hs
    exact ⟨fields, hs ▸ hfields, fun f hf heq ↦ hkey (heq ▸ hnames f hf)⟩
  have hextra : env.extraPatterns pid = [] := by
    rw [extraPatterns, hnull hpatterns (by decide)]
    rfl
  have hnone : env.loadAdoptedTemplates pid = [] := by
    rw [loadAdoptedTemplates, hnull hadopted (by decide)]
    rfl
  obtain ⟨missed, stories, hbuild, hids⟩ := missed_builtin hextra hfaqs lang
  refine ⟨missed, stories, hbuild, fun o ho ↦ ?_, ?_, ?_⟩
  · have hmem : o.patternId ∈ env.missedIds pid := hids ▸ List.mem_map_of_mem ho
    exact ((List.filter_sublist.map _).subset hmem : _ ∈ (builtinMissed ..).map (py ·.1))
  · rw [hids]
    exact List.mem_map.2 ⟨("lead_logging_discipline", true),
      List.mem_filter.2 ⟨by simp [builtinMissed, hnone], rfl⟩, rfl⟩
  · rw [hids]
    exact List.mem_map.2 ⟨("scheduled_digest_maturity", true),
      List.mem_filter.2 ⟨by simp [builtinMissed, hnone], rfl⟩, rfl⟩

/-- The registration of the project `p`. -/
def sampleRegistration : SaaSRegisterBody :=
  ⟨text "P", text "example.com", some (text "p"), some [(text "business_profile", .dict [])]⟩

/-- What the registration leaves. -/
def registeredMemory : MemoryDb := ((saasRegister sampleMemoryEnv sampleRegistration).exec
  adoptedMemory).2

theorem forgotten_of_saasRegister_sample : ∃ missed stories,
    (sampleSuggestions registeredMemory).buildMissedOpportunities (text "p") (text "en") =
        .ok (missed, stories) ∧
      (∀ o ∈ missed, o.patternId ∈ v2DefaultSuccessPatterns.map (·.entryD "id")) ∧
      py "lead_logging_discipline" ∈ missed.map Opportunity.patternId ∧
      py "scheduled_digest_maturity" ∈ missed.map Opportunity.patternId := by
  have hok : ((saasRegister sampleMemoryEnv sampleRegistration).exec adoptedMemory).1.isOk = true :=
    by decide
  rcases hrun : (saasRegister sampleMemoryEnv sampleRegistration).exec adoptedMemory with
    ⟨e | v, db⟩
  · rw [hrun] at hok
    exact absurd hok (by simp [Except.isOk, Except.toBool])
  · have hkeys : KeepsKeys sampleMemoryEnv := by
      intro fields v hv
      exact ⟨fields, (Except.ok.inj hv).symm, fun f hf ↦ List.mem_map_of_mem hf⟩
    have hdb : registeredMemory = db := congrArg Prod.snd hrun
    rw [hdb]
    refine forgotten_of_saasRegister rfl hkeys hrun (by decide) rfl rfl ?_ (text "en")
    intro k hk _
    have hfaqs : ((sampleSuggestions registeredMemory).knowledge (text "p")).all
        fun k ↦ k.faqs.len.isOk := by decide
    rw [hdb, hk] at hfaqs
    rcases hlen : k.faqs.len with e | n
    · rw [Option.all_some, hlen] at hfaqs
      exact absurd hfaqs (by simp [Except.isOk, Except.toBool])
    · exact ⟨n, rfl⟩

end SuggestionEnv

end Siyadah
