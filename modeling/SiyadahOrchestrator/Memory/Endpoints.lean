import SiyadahOrchestrator.Flows.Registry
import SiyadahOrchestrator.Memory.ProjectMemory

/-!
# The endpoints of the memory

Ingestion scrapes a website, has it analysed and saves what comes of it; registration saves what its
body says; `v2_project_memory` returns everything. The functions here work for the project id that
they are given, but for `v2_saas_register`, which takes it from its body or makes one up
(`SaaSRegisterBody.pid`).
-/

namespace Siyadah

open PyValue Script

/-! ### Ingestion -/

/-- A URL without a scheme gets one. -/
def withScheme (url : PyStr) : PyStr :=
  if (text "http://").isPrefixOf url || (text "https://").isPrefixOf url then url
  else text "https://" ++ url

/-- The questions of the first three FAQs. -/
def faqsPreview (ka : PyValue) : Except PyError (List PyValue) := do
  let faqs ← ka.get "faqs"
  let first ← takeSlice 3 (faqs.orElse (.list []))
  let items ← first.items
  items.mapM fun faq ↦ faq.1.getD "q" (py "")

/-- The profile that is shown to the client. -/
def websiteProfile (bp ka lang faqsCount : PyValue) : Except PyError PyValue := do
  let sector ← bp.get "sector"
  let description ← bp.get "description"
  let goals ← bp.getD "goals" (.list [])
  let tone ← ka.get "tone_of_voice"
  let keywords ← ka.getD "brand_keywords" (.list [])
  let preview ← faqsPreview ka
  pure (pyDict [("sector", sector), ("description", description), ("goals", goals),
    ("language", lang), ("tone_of_voice", tone), ("faqs_count", faqsCount),
    ("brand_keywords", keywords), ("faqs_preview", .list preview)])

/-- The summary and the hint of `ingest_website`. -/
def absorbedTexts (T : PyText) (lang siteTitle bp ka saved : PyValue) :
    Except PyError (PyStr × PyStr) := do
  let arabic := lang.isStr (text "ar")
  let sector ← bp.getD "sector" (py (if arabic then "غير محدد" else "Unknown"))
  let faqs ← saved.getItem (text "faqs_count")
  let keywords ← saved.getItem (text "brand_keywords_count")
  let tone ← ka.getD "tone_of_voice" (py (if arabic then "احترافية" else "professional"))
  pure (if arabic then
      (T.format [.lit "تم امتصاص موقع «", .val siteTitle, .lit "» بنجاح. ", .lit "القطاع: ",
          .val sector, .lit ". ", .lit "تم استخراج ", .val faqs, .lit " أسئلة شائعة ", .lit "و",
          .val keywords, .lit " كلمة مفتاحية. ", .lit "نبرة الصوت: ", .val tone, .lit "."],
        text <| "تم امتصاص الهوية بنجاح. " ++
          "راجع إعداداتك عبر GET /v2/project/\x7bproject_id\x7d/memory. " ++
          "الخطوة التالية: تفعيل القواعد الذكية للردود التلقائية.")
    else
      (T.format [.lit "Successfully absorbed «", .val siteTitle, .lit "». Sector: ", .val sector,
          .lit ". Extracted ", .val faqs, .lit " FAQs and ", .val keywords,
          .lit " brand keywords. Tone: ", .val tone, .lit "."],
        text <| "Identity absorbed. " ++
          "Review your settings at GET /v2/project/\x7bproject_id\x7d/memory. " ++
          "Next step: configure autonomous response rules."))

section Handlers

variable (env : MemoryEnv)

/-- What `ingest_website` answers once the analysis has been saved. -/
def absorbedAnswer (pid url : PyStr) (siteTitle analysis saved : PyValue) :
    Except PyError PyValue := do
  let bp ← analysis.getD "business_profile" (.dict [])
  let ka ← analysis.getD "knowledge_assets" (.dict [])
  let loc ← analysis.getD "localization" (.dict [])
  let lang ← loc.getD "primary_language" (py "en")
  let texts ← absorbedTexts env.pyText lang siteTitle bp ka saved
  let faqsCount ← saved.getItem (text "faqs_count")
  let profile ← websiteProfile bp ka lang faqsCount
  pure (pyDict [("status", py "absorbed"), ("project_id", .str pid), ("url", .str url),
    ("site_title", siteTitle), ("profile", profile), ("summary", .str texts.1),
    ("_hint", .str texts.2), ("memory_status", py "complete"), ("absorbed_at", .str env.now)])

/-- `ingest_website`. -/
def ingestWebsite (url pid : PyStr) : MemoryM PyValue := do
  let (content, metadata) ← lift (env.scrapeWebsite url)
  let analysis ← lift (env.analyzeWithClaude content)
  let siteTitle ← pyval (metadata.getD "title" (.str url))
  let saved ← persistAnalysis env pid url analysis siteTitle
  pyval (absorbedAnswer env pid url siteTitle analysis saved)

/-- What `preview_website` answers. -/
def previewAnswer (url : PyStr) (metadata analysis : PyValue) : Except PyError PyValue := do
  let siteTitle ← metadata.getD "title" (.str url)
  let bp ← analysis.getD "business_profile" (.dict [])
  let ka ← analysis.getD "knowledge_assets" (.dict [])
  let loc ← analysis.getD "localization" (.dict [])
  let lang ← loc.getD "primary_language" (py "en")
  let faqs ← ka.get "faqs"
  let count ← (faqs.orElse (.list [])).len
  let profile ← websiteProfile bp ka lang (.int count)
  pure (pyDict [("status", py "preview"), ("url", .str url), ("site_title", siteTitle),
    ("analysis", analysis), ("profile", profile),
    ("_hint", py "Preview complete. Call POST /v2/saas/register with this analysis to save.")])

/-- `preview_website`. -/
def previewWebsite (url : PyStr) : MemoryM PyValue := do
  let (content, metadata) ← lift (env.scrapeWebsite url)
  let analysis ← lift (env.analyzeWithClaude content)
  pyval (previewAnswer url metadata analysis)

/-! ### Registration -/

/-- The body of `/v2/project/register`. -/
structure ProjectRegisterBody where
  projectId : Option PyStr
  name : PyStr
  sector : Option PyStr
  language : PyStr
  businessDescription : Option PyStr
  websiteUrl : Option PyStr

/-- `if new: column = new`. -/
def assign (new : Option PyStr) (old : PyValue) : PyValue :=
  new.elim old fun s ↦ if s = [] then old else .str s

/-- The identity that the body describes. -/
def ProjectRegisterBody.update (body : ProjectRegisterBody) (identity : ProjectIdentity) :
    ProjectIdentity :=
  { identity with
    sector := assign body.sector identity.sector
    language := assign (some body.language) identity.language
    businessDescription := assign body.businessDescription identity.businessDescription
    websiteUrl := assign body.websiteUrl identity.websiteUrl }

/-- The new name of a project, flushed. -/
def renameProject (name : PyStr) (proj : Project) : MemoryM Unit := do
  let name ← env.store (.varchar 255) (.str name)
  MemoryDb.projectTable.save { proj with name }

/-- The part of `v2_project_register` that runs in the transaction. -/
def registerRows (pid : PyStr) (body : ProjectRegisterBody) : MemoryM Unit := do
  let proj ← findOne MemoryDb.projectTable pid
  proj.elim (insertProject env pid (.str body.name)) (renameProject env body.name)
  let identity ← findOne MemoryDb.identityTable pid
  flushIdentity env (body.update (identity.getD (.new pid)))

/-- An exception that is no `HTTPException` is answered with status 500. -/
def orStatus500 (what : String) (m : MemoryM PyValue) : MemoryM PyValue :=
  tryCatch m fun e ↦ lift <| .error <|
    match e with
    | .http status detail => .http status detail
    | e => .http 500 (.str (text (what ++ " failed: ") ++ (env.str e).take 300))

/-- `v2_project_register`, for the project that `resolve_pid` has come to. -/
def projectRegister (pid : PyStr) (body : ProjectRegisterBody) : MemoryM PyValue :=
  orStatus500 env "Registration" do
    ensure env.online (.http 503 (py "Database not configured"))
    env.session .register (registerRows env pid body)
    let hint ← projectHint env pid
    let advice ← pyval (hint.getD "_hint" (py ""))
    let status ← pyval (hint.getD "memory_status" (py ""))
    pure (pyDict [("status", py "registered"), ("project_id", .str pid), ("name", .str body.name),
      ("_hint", advice), ("memory_status", status)])

/-- The body of `/v2/saas/register`. -/
structure SaaSRegisterBody where
  projectName : PyStr
  url : PyStr
  projectId : Option PyStr
  analysis : Option (List (PyStr × PyValue))

/-- The project id that `v2_saas_register` goes by. -/
def SaaSRegisterBody.pid (body : SaaSRegisterBody) : PyStr :=
  strOr body.projectId ((PyStr.removeAll (text "-") 0 env.uuid).take 20)

/-- The analysis that `v2_saas_register` makes of a profile. -/
def analysisOfProfile (profile : PyValue) : Except PyError PyValue := do
  let sector ← profile.get "sector"
  let description ← profile.get "description"
  let goals ← profile.getD "goals" (.list [])
  let language ← profile.getD "language" (py "en")
  let tone ← profile.get "tone_of_voice"
  let keywords ← profile.getD "brand_keywords" (.list [])
  pure (pyDict [
    ("business_profile",
      pyDict [("sector", sector), ("description", description), ("goals", goals)]),
    ("localization", pyDict [("primary_language", language)]),
    ("knowledge_assets",
      pyDict [("tone_of_voice", tone), ("faqs", .list []), ("brand_keywords", keywords)])])

/-- What `v2_saas_register` saves, and the analysis that the settings follow from. -/
def saasSave (url : PyStr) (body : SaaSRegisterBody) : MemoryM (PyValue × PyValue) :=
  match body.analysis with
  | some (field :: fields) => do
    let saved ← persistAnalysis env (body.pid env) url (.dict (field :: fields))
      (.str body.projectName)
    pure (saved, .dict (field :: fields))
  | _ => do
    let result ← ingestWebsite env url (body.pid env)
    let profile ← pyval (result.getD "profile" (.dict []))
    let analysis ← pyval (analysisOfProfile profile)
    pure (profile, analysis)

/-- What `v2_saas_register` answers. -/
def saasAnswer (url : PyStr) (body : SaaSRegisterBody) (saved analysis auto : PyValue) :
    Except PyError PyValue := do
  let bp ← analysis.getD "business_profile" (.dict [])
  let loc ← analysis.getD "localization" (.dict [])
  let lang ← loc.getD "primary_language" (py "en")
  let arabic := lang.isStr (text "ar")
  let named ← bp.getD "sector" (py (if arabic then "عام" else "General"))
  let sector ← bp.get "sector"
  let texts := if arabic then
      (env.pyText.format [.lit "تم تسجيل مشروع «", .val (.str body.projectName), .lit "» بنجاح! ",
          .lit "القطاع: ", .val named, .lit ". ", .lit "تم ضبط الإعدادات الذكية تلقائياً."],
        text <| "التسجيل مكتمل. استخدم POST /v2/logic/suggest " ++
          "للحصول على اقتراحات أتمتة مخصصة لقطاعك.")
    else
      (env.pyText.format [.lit "Project «", .val (.str body.projectName),
          .lit "» registered successfully! Sector: ", .val named,
          .lit ". Smart settings auto-configured."],
        text <| "Registration complete. Use POST /v2/logic/suggest " ++
          "to get personalized automation recommendations for your sector.")
  pure (pyDict [("status", py "registered"), ("project_id", .str (body.pid env)),
    ("project_name", .str body.projectName), ("url", .str url), ("sector", sector),
    ("language", lang), ("saved", saved), ("auto_settings", auto), ("summary", .str texts.1),
    ("_hint", .str texts.2)])

/-- `v2_saas_register`. -/
def saasRegister (body : SaaSRegisterBody) : MemoryM PyValue :=
  tryCatch (do
    let url := withScheme body.url.strip
    let (saved, analysis) ← saasSave env url body
    let auto ← autoConfigureSettings env (body.pid env) analysis
    pyval (saasAnswer env url body saved analysis auto)) fun e ↦ lift <| .error <|
      match e with
      | .runtime message => .http 422 (.str message)
      | e => .http 500 (.str (text "Registration failed: " ++ (env.str e).take 300))

/-! ### Reading the memory -/

/-- What `v2_project_memory` reads. -/
def readMemory (pid : PyStr) : MemoryM (Project × Option ProjectIdentity × Option KnowledgeAsset ×
    Option AutonomousSetting) := do
  let found ← findOne MemoryDb.projectTable pid
  let proj ← lift (found.elim
    (.error (.http 404 (.str (text "Project '" ++ pid ++ text "' not in memory")))) .ok)
  let identity ← findOne MemoryDb.identityTable pid
  let knowledge ← findOne MemoryDb.knowledgeTable pid
  let settings ← findOne MemoryDb.settingTable pid
  pure (proj, identity, knowledge, settings)

/-- What `v2_project_memory` answers. -/
def memoryAnswer (proj : Project) (identity : Option ProjectIdentity)
    (knowledge : Option KnowledgeAsset) (settings : Option AutonomousSetting)
    (advice status : PyValue) : PyValue :=
  pyDict [
    ("project", pyDict [("id", .str proj.projectId), ("name", proj.name),
      ("created_at", .str proj.createdAt)]),
    ("identity", identity.elim .null fun i ↦ pyDict [("sector", i.sector),
      ("language", i.language), ("business_description", i.businessDescription),
      ("website_url", i.websiteUrl)]),
    ("knowledge", knowledge.elim .null fun k ↦ pyDict [("faqs", k.faqs),
      ("tone_of_voice", k.toneOfVoice), ("brand_keywords", k.brandKeywords)]),
    ("settings", settings.elim .null fun s ↦ pyDict [("client_settings", s.clientSettings),
      ("smart_rules", s.smartRules), ("auto_respond", s.autoRespond)]),
    ("_hint", advice), ("memory_status", status)]

/-- `v2_project_memory`. -/
def projectMemory (pid : PyStr) : MemoryM PyValue :=
  orStatus500 env "Memory read" do
    ensure env.online (.http 503 (py "Database not configured"))
    let (proj, identity, knowledge, settings) ← env.session .memory (readMemory pid)
    let hint ← projectHint env pid
    let advice ← pyval (hint.getD "_hint" (py ""))
    let status ← pyval (hint.getD "memory_status" (py ""))
    pure (memoryAnswer proj identity knowledge settings advice status)

/-! ### Ingestion over REST -/

/-- The body of `/v2/identity/ingest`. -/
structure IngestBody where
  url : PyStr
  projectId : Option PyStr
  preview : Bool

/-- `v2_identity_ingest`, for the project that `resolve_pid` has come to. -/
def identityIngest (pid : PyStr) (body : IngestBody) : MemoryM PyValue :=
  tryCatch (
    if body.preview then previewWebsite env (withScheme body.url.strip)
    else ingestWebsite env (withScheme body.url.strip) pid) fun e ↦ lift <| .error <|
      match e with
      | .runtime message => .http 422 (.str message)
      | .httpStatus status message => .http 502 (.str (env.pyText.format
          [.lit "External service error (", .val (.int status), .lit "): "] ++ message.take 200))
      | e => .http 500 (.str (text "Ingestion failed: " ++ (env.str e).take 300))

end Handlers

/-! ### Whose rows these are -/

section Confined

variable {env : MemoryEnv} {pid url : PyStr} {P : Set PyStr} {m : MemoryM PyValue}

theorem confined_ingestWebsite (hpid : pid ∈ P) : ConfinedTo P (ingestWebsite env url pid) :=
  (Confined.lift _).bind fun _ ↦ (Confined.lift _).bind fun _ ↦ (confined_pyval _).bind fun _ ↦
    (confined_persistAnalysis hpid).bind fun _ ↦ confined_pyval _

theorem confined_previewWebsite : ConfinedTo P (previewWebsite env url) :=
  (Confined.lift _).bind fun _ ↦ (Confined.lift _).bind fun _ ↦ confined_pyval _

theorem confined_registerRows {body : ProjectRegisterBody} (hpid : pid ∈ P) :
    ConfinedTo P (registerRows env pid body) := by
  refine (confined_findOne hpid).bind_of_result fun db proj hfound ↦ ?_
  have hproject : ConfinedTo P
      (proj.elim (insertProject env pid (.str body.name)) (renameProject env body.name)) := by
    cases proj with
    | none => exact confined_insertProject hpid
    | some row =>
      have hkey : row.projectId = pid := key_of_findOne hfound
      exact (confined_store _ _).bind fun _ ↦ Confined.save (hkey ▸ hpid)
  refine hproject.bind fun _ ↦ (confined_findOne hpid).bind_of_result fun db identity hfound ↦ ?_
  have hkey : (body.update (identity.getD (.new pid))).projectId = pid :=
    key_of_findOne_getD hfound rfl
  refine confined_flushIdentity ?_
  rwa [hkey]

theorem confined_orStatus500 {what : String} (hm : ConfinedTo P m) :
    ConfinedTo P (orStatus500 env what m) := hm.tryCatch fun _ ↦ Confined.lift _

theorem confined_projectRegister {body : ProjectRegisterBody} (hpid : pid ∈ P) :
    ConfinedTo P (projectRegister env pid body) :=
  confined_orStatus500 <| (Confined.ensure _ _).bind fun _ ↦
    (confined_session (confined_registerRows hpid)).bind fun _ ↦
    (confined_projectHint hpid).bind fun _ ↦ (confined_pyval _).bind fun _ ↦
    (confined_pyval _).bind fun _ ↦ Confined.pure _

theorem confined_saasRegister {body : SaaSRegisterBody} (hpid : body.pid env ∈ P) :
    ConfinedTo P (saasRegister env body) := by
  have hsave : ∀ url, ConfinedTo P (saasSave env url body) := by
    intro url
    unfold saasSave
    split
    · exact (confined_persistAnalysis hpid).bind fun _ ↦ Confined.pure _
    · exact (confined_ingestWebsite hpid).bind fun _ ↦ (confined_pyval _).bind fun _ ↦
        (confined_pyval _).bind fun _ ↦ Confined.pure _
  refine Confined.tryCatch ?_ fun _ ↦ Confined.lift _
  exact (hsave _).bind fun _ ↦ (confined_autoConfigureSettings hpid).bind fun _ ↦ confined_pyval _

theorem confined_projectMemory (hpid : pid ∈ P) : ConfinedTo P (projectMemory env pid) := by
  have hread : ConfinedTo P (readMemory pid) :=
    (confined_findOne hpid).bind fun _ ↦ (Confined.lift _).bind fun _ ↦
      (confined_findOne hpid).bind fun _ ↦ (confined_findOne hpid).bind fun _ ↦
      (confined_findOne hpid).bind fun _ ↦ Confined.pure _
  exact confined_orStatus500 <| (Confined.ensure _ _).bind fun _ ↦
    (confined_session hread).bind fun _ ↦ (confined_projectHint hpid).bind fun _ ↦
    (confined_pyval _).bind fun _ ↦ (confined_pyval _).bind fun _ ↦ Confined.pure _

theorem confined_identityIngest {body : IngestBody} (hpid : pid ∈ P) :
    ConfinedTo P (identityIngest env pid body) := by
  refine Confined.tryCatch ?_ fun _ ↦ Confined.lift _
  split
  · exact confined_previewWebsite
  · exact confined_ingestWebsite hpid

end Confined

end Siyadah
