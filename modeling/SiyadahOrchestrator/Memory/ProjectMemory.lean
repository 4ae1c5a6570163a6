import SiyadahOrchestrator.Flows.GoldenBuild
import SiyadahOrchestrator.Foundations.Confined

/-!
# The memory of a project

Four tables hold what is known of a project: the project itself, its identity, its knowledge and its
settings. Only the first one is unique in the project id, so `scalar_one_or_none` may find too many
rows in the others, and raises.

`persistAnalysis` and `autoConfigureSettings` write what the analysis of a website has come to;
`projectHint`, `generateSmartHint` and `loadProjectContext` read. Each of them takes the project id
that it is given, and is confined to the rows of that project: whose id it is given is decided by
the endpoints.
-/

namespace Siyadah

open PyValue Script

/-! ### The tables -/

structure Project where
  projectId : PyStr
  name : PyValue
  createdAt : PyStr

structure ProjectIdentity where
  projectId : PyStr
  sector : PyValue
  language : PyValue
  businessDescription : PyValue
  websiteUrl : PyValue
  absorbedAt : PyValue

structure KnowledgeAsset where
  projectId : PyStr
  faqs : PyValue
  toneOfVoice : PyValue
  brandKeywords : PyValue

structure AutonomousSetting where
  projectId : PyStr
  clientSettings : PyValue
  smartRules : PyValue
  autoRespond : PyValue

/-- `ProjectIdentity(project_id=...)`, with the defaults of its columns. -/
def ProjectIdentity.new (pid : PyStr) : ProjectIdentity :=
  ⟨pid, .null, py "en", .null, .null, .null⟩

/-- `KnowledgeAsset(project_id=...)`, with the defaults of its columns. -/
def KnowledgeAsset.new (pid : PyStr) : KnowledgeAsset := ⟨pid, .list [], .null, .list []⟩

/-- The four tables. -/
structure MemoryDb where
  projects : List Project
  identities : List ProjectIdentity
  knowledge : List KnowledgeAsset
  settings : List AutonomousSetting

namespace MemoryDb

/-- The rows of a project. -/
def part (db : MemoryDb) (pid : PyStr) : MemoryDb where
  projects := rowsOf Project.projectId pid db.projects
  identities := rowsOf ProjectIdentity.projectId pid db.identities
  knowledge := rowsOf KnowledgeAsset.projectId pid db.knowledge
  settings := rowsOf AutonomousSetting.projectId pid db.settings

/-- `projects`. -/
def projectTable : Table part Project where
  key := Project.projectId
  rows := projects
  setRows db rows := { db with projects := rows }
  rows_congr h := congrArg projects h
  view_congr h hrows := by
    simp only [part, mk.injEq] at h ⊢
    exact ⟨hrows, h.2⟩
  setRows_rows _ := rfl

/-- `project_identities`. -/
def identityTable : Table part ProjectIdentity where
  key := ProjectIdentity.projectId
  rows := identities
  setRows db rows := { db with identities := rows }
  rows_congr h := congrArg identities h
  view_congr h hrows := by
    simp only [part, mk.injEq] at h ⊢
    exact ⟨h.1, hrows, h.2.2⟩
  setRows_rows _ := rfl

/-- `knowledge_assets`. -/
def knowledgeTable : Table part KnowledgeAsset where
  key := KnowledgeAsset.projectId
  rows := knowledge
  setRows db rows := { db with knowledge := rows }
  rows_congr h := congrArg knowledge h
  view_congr h hrows := by
    simp only [part, mk.injEq] at h ⊢
    exact ⟨h.1, h.2.1, hrows, h.2.2.2⟩
  setRows_rows _ := rfl

/-- `autonomous_settings`. -/
def settingTable : Table part AutonomousSetting where
  key := AutonomousSetting.projectId
  rows := settings
  setRows db rows := { db with settings := rows }
  rows_congr h := congrArg settings h
  view_congr h hrows := by
    simp only [part, mk.injEq] at h ⊢
    exact ⟨h.1, h.2.1, h.2.2.1, hrows⟩
  setRows_rows _ := rfl

end MemoryDb

/-! ### Exceptions and sessions -/

/-- An exception. -/
inductive MemoryError where
  /-- `HTTPException`. -/
  | http (status : ℕ) (detail : PyValue)
  /-- `RuntimeError`. -/
  | runtime (message : PyStr)
  /-- `httpx.HTTPStatusError`. -/
  | httpStatus (status : ℕ) (message : PyStr)
  /-- A built-in exception. -/
  | py (e : PyError)
  /-- `sqlalchemy.exc.MultipleResultsFound`. -/
  | multipleResults
  | other (message : PyStr)

/-- A column's type. -/
inductive ColumnType where
  | varchar (n : ℕ)
  | text
  | jsonb

/-- A session with the database, named by what it is for. -/
inductive MemorySession where
  | register
  | hint
  | memory
  | persist
  | settings
  | smartHint
  | context
  | institutional

/-- The connection fails: with what message, and whether a commit had gone through. -/
structure DbFailure where
  message : PyStr
  committed : Bool

/-- What a request meets besides the database and its own data. -/
structure MemoryEnv where
  pyText : PyText
  /-- The text of a built-in exception. -/
  errorText : PyError → PyStr
  /-- `json.dumps(v, default=str)`. -/
  dumps : PyValue → PyStr
  defaultPid : PyStr
  /-- A database is configured. -/
  online : Bool
  /-- The engine is initialised. -/
  engine : Bool
  /-- What a column makes of a value, or why it refuses it. -/
  column : ColumnType → PyValue → Except PyStr PyValue
  failure : MemorySession → Option DbFailure
  /-- `scrape_website`: content and metadata. -/
  scrapeWebsite : PyStr → Except MemoryError (PyStr × PyValue)
  /-- `analyze_with_claude`. -/
  analyzeWithClaude : PyStr → Except MemoryError PyValue
  /-- `str(uuid4())`. -/
  uuid : PyStr
  /-- The time, as text. -/
  now : PyStr
  /-- What a tool that does not touch the memory comes to: its name, the project and the
  arguments. -/
  tool : PyStr → PyStr → PyValue → Except MemoryError PyValue

/-- A program over the database. -/
abbrev MemoryM := Script MemoryDb MemoryError

/-- An f-string. -/
def PyText.format (T : PyText) (parts : List TextPart) : PyStr :=
  parts.flatMap fun
    | .lit s => text s
    | .val v => T.str v

/-- `str(e)`. -/
def MemoryEnv.str (env : MemoryEnv) : MemoryError → PyStr
  | .http status detail => env.pyText.format [.val (.int status), .lit ": ", .val detail]
  | .runtime message => message
  | .httpStatus _ message => message
  | .py e => env.errorText e
  | .multipleResults => text "Multiple rows were found when one or none was required"
  | .other message => message

/-- A value of Python, or the exception that an operation on values raises. -/
def pyval {α : Type} (x : Except PyError α) : MemoryM α := lift (x.mapError .py)

/-- `async with async_session() as session`. -/
def MemoryEnv.session {α : Type} (env : MemoryEnv) (which : MemorySession) (m : MemoryM α) :
    MemoryM α :=
  transaction ((env.failure which).map fun f ↦ (.other f.message, f.committed)) m

/-- A column's value on its way to the database. -/
def MemoryEnv.store (env : MemoryEnv) (c : ColumnType) (v : PyValue) : MemoryM PyValue :=
  lift ((env.column c v).mapError .other)

/-- `scalar_one_or_none`. -/
def scalarOneOrNone {ρ : Type} : List ρ → Except MemoryError (Option ρ)
  | [] => .ok none
  | [row] => .ok (some row)
  | _ => .error .multipleResults

/-- `select(...).where(project_id == ...)`, and `scalar_one_or_none`. -/
def findOne {ρ : Type} (t : Table MemoryDb.part ρ) (pid : PyStr) : MemoryM (Option ρ) := do
  let rows ← t.select pid
  lift (scalarOneOrNone rows)

/-! ### Writing -/

section Write

variable (env : MemoryEnv)

/-- `Project(project_id=..., name=...)`, flushed. -/
def insertProject (pid : PyStr) (name : PyValue) : MemoryM Unit := do
  let _ ← env.store (.varchar 64) (.str pid)
  let name ← env.store (.varchar 255) name
  MemoryDb.projectTable.save ⟨pid, name, env.now⟩

/-- The identity, flushed. -/
def flushIdentity (identity : ProjectIdentity) : MemoryM Unit := do
  let sector ← env.store (.varchar 128) identity.sector
  let language ← env.store (.varchar 10) identity.language
  let businessDescription ← env.store .text identity.businessDescription
  let websiteUrl ← env.store (.varchar 512) identity.websiteUrl
  MemoryDb.identityTable.save
    ⟨identity.projectId, sector, language, businessDescription, websiteUrl, identity.absorbedAt⟩

/-- The knowledge, flushed. -/
def flushKnowledge (knowledge : KnowledgeAsset) : MemoryM Unit := do
  let faqs ← env.store .jsonb knowledge.faqs
  let toneOfVoice ← env.store (.varchar 64) knowledge.toneOfVoice
  let brandKeywords ← env.store .jsonb knowledge.brandKeywords
  MemoryDb.knowledgeTable.save ⟨knowledge.projectId, faqs, toneOfVoice, brandKeywords⟩

/-- The identity that the analysis describes; a part that it leaves open stays as it is. -/
def absorbIdentity (identity : ProjectIdentity) (url : PyStr) (bp loc : PyValue) :
    Except PyError ProjectIdentity := do
  let sector ← bp.get "sector"
  let description ← bp.get "description"
  let language ← loc.get "primary_language"
  pure { identity with
    sector := sector.orElse identity.sector
    businessDescription := description.orElse identity.businessDescription
    language := (language.orElse identity.language).orElse (py "en")
    websiteUrl := .str url
    absorbedAt := .str env.now }

/-- The knowledge that the analysis describes. -/
def absorbKnowledge (knowledge : KnowledgeAsset) (ka : PyValue) :
    Except PyError KnowledgeAsset := do
  let faqs ← ka.get "faqs"
  let toneOfVoice ← ka.get "tone_of_voice"
  let brandKeywords ← ka.get "brand_keywords"
  pure { knowledge with
    faqs := (faqs.orElse knowledge.faqs).orElse (.list [])
    toneOfVoice := toneOfVoice.orElse knowledge.toneOfVoice
    brandKeywords := (brandKeywords.orElse knowledge.brandKeywords).orElse (.list []) }

/-- `len(v) if v else 0`. -/
def lenOrZero (v : PyValue) : Except PyError PyValue :=
  if v.truthy then v.len.map fun n ↦ .int n else .ok (.int 0)

/-- The part of `persist_analysis` that runs in the transaction. -/
def persistRows (pid url : PyStr) (bp loc ka name : PyValue) :
    MemoryM (ProjectIdentity × KnowledgeAsset) := do
  let proj ← findOne MemoryDb.projectTable pid
  proj.elim (insertProject env pid name) fun _ ↦ pure ()
  let identity ← findOne MemoryDb.identityTable pid
  let identity ← pyval (absorbIdentity env (identity.getD (.new pid)) url bp loc)
  flushIdentity env identity
  let knowledge ← findOne MemoryDb.knowledgeTable pid
  let knowledge ← pyval (absorbKnowledge (knowledge.getD (.new pid)) ka)
  flushKnowledge env knowledge
  pure (identity, knowledge)

/-- `persist_analysis`. -/
def persistAnalysis (pid url : PyStr) (analysis name : PyValue) : MemoryM PyValue := do
  ensure env.online (.runtime (text "Database not configured (DATABASE_URL missing)"))
  let bp ← pyval (analysis.getD "business_profile" (.dict []))
  let loc ← pyval (analysis.getD "localization" (.dict []))
  let ka ← pyval (analysis.getD "knowledge_assets" (.dict []))
  let (identity, knowledge) ← env.session .persist (persistRows env pid url bp loc ka name)
  let faqs ← pyval (lenOrZero knowledge.faqs)
  let keywords ← pyval (lenOrZero knowledge.brandKeywords)
  pure (pyDict [("sector", identity.sector), ("language", identity.language),
    ("description", identity.businessDescription), ("website_url", .str url),
    ("tone_of_voice", knowledge.toneOfVoice), ("faqs_count", faqs),
    ("brand_keywords_count", keywords)])

/-- `v[:n]`. -/
def takeSlice (n : ℕ) : PyValue → Except PyError PyValue
  | .list items => .ok (.list (items.take n))
  | .str s => .ok (.str (s.take n))
  | _ => .error .typeError

/-- The rules that follow from the questions and the goals of the analysis. -/
def smartRules (bp ka : PyValue) : Except PyError (List PyValue) := do
  let faqs ← ka.get "faqs"
  let goals ← bp.get "goals"
  let faqRule ← if faqs.truthy then do
      let n ← faqs.len
      .ok [pyDict [("type", py "faq_auto_reply"), ("enabled", .bool true),
        ("source", py "ingestion"), ("faq_count", .int n)]]
    else .ok []
  let goalRule ← if goals.truthy then do
      let first ← takeSlice 3 goals
      .ok [pyDict [("type", py "goal_tracking"), ("enabled", .bool true), ("goals", first)]]
    else .ok []
  pure (faqRule ++ goalRule)

/-- `_auto_configure_settings`. -/
def autoConfigureSettings (pid : PyStr) (analysis : PyValue) : MemoryM PyValue :=
  if !env.online then
    pure (pyDict [("auto_configured", .bool false), ("reason", py "database_offline")])
  else do
    let ka ← pyval (analysis.getD "knowledge_assets" (.dict []))
    let loc ← pyval (analysis.getD "localization" (.dict []))
    let bp ← pyval (analysis.getD "business_profile" (.dict []))
    let tone ← pyval (ka.getD "tone_of_voice" (py "professional"))
    let language ← pyval (loc.getD "primary_language" (py "en"))
    let sector ← pyval (bp.getD "sector" (py "general"))
    let faqs ← pyval (ka.get "faqs")
    let allKeywords ← pyval (ka.getD "brand_keywords" (.list []))
    let keywords ← pyval (takeSlice 10 allKeywords)
    let rules ← pyval (smartRules bp ka)
    env.session .settings do
      let _ ← findOne MemoryDb.settingTable pid
      let clientSettings ← env.store .jsonb (pyDict [("tone_of_voice", tone),
        ("primary_language", language), ("sector", sector),
        ("auto_faq_enabled", .bool faqs.truthy), ("brand_keywords", keywords)])
      let stored ← env.store .jsonb (.list rules)
      MemoryDb.settingTable.save ⟨pid, clientSettings, stored, py "smart"⟩
    pure (pyDict [("auto_configured", .bool true), ("tone_of_voice", tone),
      ("language", language), ("smart_rules_count", .int rules.length),
      ("auto_respond", py "smart")])

end Write

/-! ### Reading -/

section Read

variable (env : MemoryEnv)

/-- What an identity and a knowledge lack. -/
def missingFields (identity : Option ProjectIdentity) (knowledge : Option KnowledgeAsset) :
    List String :=
  [("business_description", identity.elim .null ProjectIdentity.businessDescription),
    ("sector", identity.elim .null ProjectIdentity.sector),
    ("website_url (needed for absorption)", identity.elim .null ProjectIdentity.websiteUrl),
    ("faqs", knowledge.elim .null KnowledgeAsset.faqs),
    ("tone_of_voice", knowledge.elim .null KnowledgeAsset.toneOfVoice)].filterMap fun f ↦
      if f.2.truthy then none else some f.1

/-- The answer of `v2_project_hint` for a project that is registered. -/
def hintFor (identity : Option ProjectIdentity) (knowledge : Option KnowledgeAsset) : PyValue :=
  let missing := missingFields identity knowledge
  if missing.isEmpty then
    pyDict [("_hint", py "Project identity complete. Ready for autonomous operations."),
      ("memory_status", py "complete"), ("completeness", .float (.finite 1))]
  else
    let advice := if (identity.elim .null ProjectIdentity.websiteUrl).truthy then
        "Memory incomplete. Missing: "
      else "Provide the client's website URL to start absorption. Missing: "
    pyDict [("_hint", py (advice ++ ", ".intercalate missing)), ("memory_status", py "incomplete"),
      ("missing_fields", .list (missing.map py)),
      ("completeness", .float (.finite ((5 - missing.length) / 5))),
      -- The source looks for a field's name in `str(identity)`, which never has it.
      ("next_action", py "provide_website_url")]

/-- What `v2_project_hint` reads: nothing for a project that is not registered. -/
def readHint (pid : PyStr) : MemoryM (Option (Option ProjectIdentity × Option KnowledgeAsset)) := do
  let proj ← findOne MemoryDb.projectTable pid
  if proj.isNone then pure none
  else do
    let identity ← findOne MemoryDb.identityTable pid
    let knowledge ← findOne MemoryDb.knowledgeTable pid
    pure (some (identity, knowledge))

/-- `v2_project_hint`. -/
def projectHint (pid : PyStr) : MemoryM PyValue :=
  if !env.online then
    pure (pyDict [
      ("_hint", py "Database not configured. Connect DATABASE_URL to enable memory."),
      ("memory_status", py "offline")])
  else
    tryCatch (do
      let found ← env.session .hint (readHint pid)
      pure (found.elim
        (pyDict [("_hint", .str (text "Project '" ++ pid ++
            text "' not registered. Call POST /v2/project/register first.")),
          ("memory_status", py "unregistered"), ("next_action", py "register_project")])
        fun f ↦ hintFor f.1 f.2)) fun e ↦
      pure (pyDict [("_hint", .str (text "Memory check failed: " ++ (env.str e).take 200)),
        ("memory_status", py "error")])

/-- What `_generate_smart_hint` says about what it has read. -/
def smartHintFor (trigger : String) (identity : Option ProjectIdentity)
    (settings : Option AutonomousSetting) : PyStr :=
  if trigger = "post_registration" then
    text <| "hint:suggest_flows|Registration complete! Call POST /v2/logic/suggest " ++
      "to get personalized automation recommendations."
  else
    identity.elim
      (text "hint:needs_onboarding|Start by calling POST /v2/saas/register to set up your project.")
      fun i ↦
        if !i.sector.truthy || !i.businessDescription.truthy then
          text <| "hint:incomplete_identity|" ++
            "Identity incomplete. Use POST /v2/identity/ingest with your website URL."
        else if settings.elim true fun s ↦ s.autoRespond.isStr (text "off") then
          text <| "hint:configure_settings|Identity ready, but smart rules are off. " ++
            "Call POST /v2/logic/suggest to activate sector-specific automations."
        else
          text "hint:fully_configured|System is fully configured. Build flows or check status."

/-- `_generate_smart_hint`. -/
def generateSmartHint (pid : PyStr) (trigger : String) : MemoryM PyStr :=
  if !env.online then pure (text "hint:db_offline|Core features work without DB.")
  else
    tryCatch (env.session .smartHint do
      let identity ← findOne MemoryDb.identityTable pid
      let settings ← findOne MemoryDb.settingTable pid
      pure (smartHintFor trigger identity settings)) fun _ ↦
      pure (text "hint:error|Memory check failed. Core features still work.")

/-- The answer of `get_institutional_memory`. -/
def institutionalFor (pid : PyStr) (identity : Option ProjectIdentity)
    (knowledge : Option KnowledgeAsset) (settings : Option AutonomousSetting) : PyValue :=
  identity.elim
    (pyDict [("memory_available", .bool false), ("project_id", .str pid),
      ("_hint", py <| "No identity found. Use POST /v2/saas/register or " ++
        "POST /v2/identity/ingest first.")])
    fun i ↦ pyDict [("memory_available", .bool true), ("project_id", .str pid),
      ("identity", pyDict [("sector", i.sector), ("language", i.language),
        ("description", i.businessDescription), ("website_url", i.websiteUrl)]),
      ("knowledge", pyDict [
        ("faqs", knowledge.elim (.list []) KnowledgeAsset.faqs),
        ("tone_of_voice", knowledge.elim .null KnowledgeAsset.toneOfVoice),
        ("brand_keywords", knowledge.elim (.list []) KnowledgeAsset.brandKeywords)]),
      ("settings", pyDict [
        ("auto_respond", settings.elim (py "off") AutonomousSetting.autoRespond),
        ("smart_rules", settings.elim (.list []) AutonomousSetting.smartRules),
        ("client_settings", settings.elim (.dict []) AutonomousSetting.clientSettings)])]

/-- The tool `get_institutional_memory`. -/
def getInstitutionalMemory (pid : PyStr) : MemoryM PyValue :=
  if !env.online then
    pure (pyDict [("memory_available", .bool false), ("reason", py "database_offline")])
  else env.session .institutional do
    let identity ← findOne MemoryDb.identityTable pid
    let knowledge ← findOne MemoryDb.knowledgeTable pid
    let settings ← findOne MemoryDb.settingTable pid
    pure (institutionalFor pid identity knowledge settings)

/-- The context that `_load_project_context` makes of an identity and a knowledge. -/
def contextFor (knowledge : Option KnowledgeAsset) (i : ProjectIdentity) : PyValue :=
  pyDict [("sector", i.sector), ("language", i.language), ("description", i.businessDescription),
    ("tone_of_voice", knowledge.elim .null KnowledgeAsset.toneOfVoice),
    ("faqs", knowledge.elim (.list []) KnowledgeAsset.faqs),
    ("brand_keywords", knowledge.elim (.list []) KnowledgeAsset.brandKeywords)]

/-- `_load_project_context`. -/
def loadProjectContext (pid : PyStr) : MemoryM (Option PyValue) :=
  if !env.online then pure none
  else
    tryCatch (env.session .context do
      let identity ← findOne MemoryDb.identityTable pid
      let knowledge ← findOne MemoryDb.knowledgeTable pid
      pure (identity.map (contextFor knowledge))) fun _ ↦ pure none

end Read

/-! ### Whose rows these are -/

section Confined

variable {env : MemoryEnv} {pid : PyStr} {P : Set PyStr} {α : Type}

/-- Confined to the rows of some projects. -/
abbrev ConfinedTo (P : Set PyStr) (m : MemoryM α) : Prop := Confined MemoryDb.part P m

theorem confined_pyval (x : Except PyError α) : ConfinedTo P (pyval x) := Confined.lift _

theorem confined_store (c : ColumnType) (v : PyValue) : ConfinedTo P (env.store c v) :=
  Confined.lift _

theorem confined_session {which : MemorySession} {m : MemoryM α} (hm : ConfinedTo P m) :
    ConfinedTo P (env.session which m) := hm.transaction

theorem confined_findOne {ρ : Type} {t : Table MemoryDb.part ρ} (hpid : pid ∈ P) :
    ConfinedTo P (findOne t pid) :=
  (Confined.select hpid).bind fun _ ↦ Confined.lift _

theorem scalarOneOrNone_eq_some {ρ : Type} {rows : List ρ} {row : ρ}
    (h : scalarOneOrNone rows = .ok (some row)) : rows = [row] := by
  match rows, h with
  | [_], h => exact congrArg (fun r ↦ [r]) (Option.some.inj (Except.ok.inj h))

/-- A row that is found belongs to the project. -/
theorem key_of_findOne {ρ : Type} {t : Table MemoryDb.part ρ} {db : MemoryDb} {row : ρ}
    (h : ((findOne t pid).exec db).1 = .ok (some row)) : t.key row = pid := by
  have hrows : rowsOf t.key pid (t.rows db) = [row] := scalarOneOrNone_eq_some h
  have hselect : ((t.select pid : MemoryM (List ρ)).exec db).1 = .ok [row] :=
    congrArg Except.ok hrows
  exact t.key_of_select hselect List.mem_cons_self

theorem confined_insertProject {name : PyValue} (hpid : pid ∈ P) :
    ConfinedTo P (insertProject env pid name) :=
  (confined_store _ _).bind fun _ ↦ (confined_store _ _).bind fun _ ↦ Confined.save hpid

theorem confined_flushIdentity {identity : ProjectIdentity} (hpid : identity.projectId ∈ P) :
    ConfinedTo P (flushIdentity env identity) :=
  (confined_store _ _).bind fun _ ↦ (confined_store _ _).bind fun _ ↦
    (confined_store _ _).bind fun _ ↦ (confined_store _ _).bind fun _ ↦ Confined.save hpid

theorem confined_flushKnowledge {knowledge : KnowledgeAsset} (hpid : knowledge.projectId ∈ P) :
    ConfinedTo P (flushKnowledge env knowledge) :=
  (confined_store _ _).bind fun _ ↦ (confined_store _ _).bind fun _ ↦
    (confined_store _ _).bind fun _ ↦ Confined.save hpid

/-- What a value of Python comes to. -/
theorem ok_of_pyval {x : Except PyError α} {db : MemoryDb} {a : α}
    (h : ((pyval x).exec db).1 = .ok a) : x = .ok a := by
  cases x with
  | ok b => exact congrArg Except.ok (Except.ok.inj h)
  | error e => exact absurd h (by simp [pyval, Except.mapError])

theorem absorbIdentity_projectId {identity identity' : ProjectIdentity} {url : PyStr}
    {bp loc : PyValue} (h : absorbIdentity env identity url bp loc = .ok identity') :
    identity'.projectId = identity.projectId := by
  obtain ⟨_, -, h⟩ := bind_eq_ok_iff.1 h
  obtain ⟨_, -, h⟩ := bind_eq_ok_iff.1 h
  obtain ⟨_, -, h⟩ := bind_eq_ok_iff.1 h
  obtain rfl := Except.ok.inj h
  rfl

theorem absorbKnowledge_projectId {knowledge knowledge' : KnowledgeAsset} {ka : PyValue}
    (h : absorbKnowledge knowledge ka = .ok knowledge') :
    knowledge'.projectId = knowledge.projectId := by
  obtain ⟨_, -, h⟩ := bind_eq_ok_iff.1 h
  obtain ⟨_, -, h⟩ := bind_eq_ok_iff.1 h
  obtain ⟨_, -, h⟩ := bind_eq_ok_iff.1 h
  obtain rfl := Except.ok.inj h
  rfl

/-- The row that is found, or a new one: it belongs to the project. -/
theorem key_of_findOne_getD {ρ : Type} {t : Table MemoryDb.part ρ} {db : MemoryDb}
    {found : Option ρ} {new : ρ} (h : ((findOne t pid).exec db).1 = .ok found)
    (hnew : t.key new = pid) : t.key (found.getD new) = pid := by
  cases found with
  | none => exact hnew
  | some row => exact key_of_findOne h

theorem confined_persistRows {url : PyStr} {bp loc ka name : PyValue} (hpid : pid ∈ P) :
    ConfinedTo P (persistRows env pid url bp loc ka name) := by
  refine (confined_findOne hpid).bind fun proj ↦ ?_
  have hproject : ConfinedTo P (proj.elim (insertProject env pid name) fun _ ↦ pure ()) := by
    cases proj with
    | none => exact confined_insertProject hpid
    | some _ => exact Confined.pure _
  refine hproject.bind fun _ ↦ (confined_findOne hpid).bind_of_result fun db identity hfound ↦ ?_
  have hkey : (identity.getD (.new pid)).projectId = pid := key_of_findOne_getD hfound rfl
  refine (confined_pyval _).bind_of_result fun _ identity' habsorbed ↦ ?_
  have hkey' := (absorbIdentity_projectId (ok_of_pyval habsorbed)).trans hkey
  refine (confined_flushIdentity (hkey' ▸ hpid)).bind fun _ ↦
    (confined_findOne hpid).bind_of_result fun db knowledge hfound ↦ ?_
  have hkey : (knowledge.getD (.new pid)).projectId = pid := key_of_findOne_getD hfound rfl
  refine (confined_pyval _).bind_of_result fun _ knowledge' habsorbed ↦ ?_
  have hkey' := (absorbKnowledge_projectId (ok_of_pyval habsorbed)).trans hkey
  exact (confined_flushKnowledge (hkey' ▸ hpid)).bind fun _ ↦ Confined.pure _

theorem confined_persistAnalysis {url : PyStr} {analysis name : PyValue} (hpid : pid ∈ P) :
    ConfinedTo P (persistAnalysis env pid url analysis name) :=
  (Confined.ensure _ _).bind fun _ ↦ (confined_pyval _).bind fun _ ↦ (confined_pyval _).bind fun _ ↦
    (confined_pyval _).bind fun _ ↦ (confined_session (confined_persistRows hpid)).bind fun _ ↦
    (confined_pyval _).bind fun _ ↦ (confined_pyval _).bind fun _ ↦ Confined.pure _

theorem confined_autoConfigureSettings {analysis : PyValue} (hpid : pid ∈ P) :
    ConfinedTo P (autoConfigureSettings env pid analysis) := by
  unfold autoConfigureSettings
  split
  · exact Confined.pure _
  · refine (confined_pyval _).bind fun _ ↦ (confined_pyval _).bind fun _ ↦
      (confined_pyval _).bind fun _ ↦ (confined_pyval _).bind fun _ ↦
      (confined_pyval _).bind fun _ ↦ (confined_pyval _).bind fun _ ↦
      (confined_pyval _).bind fun _ ↦ (confined_pyval _).bind fun _ ↦
      (confined_pyval _).bind fun _ ↦ (confined_pyval _).bind fun _ ↦
      (confined_session ?_).bind fun _ ↦ Confined.pure _
    exact (confined_findOne hpid).bind fun _ ↦ (confined_store _ _).bind fun _ ↦
      (confined_store _ _).bind fun _ ↦ Confined.save hpid

theorem confined_projectHint (hpid : pid ∈ P) : ConfinedTo P (projectHint env pid) := by
  have hread : ConfinedTo P (readHint pid) := by
    refine (confined_findOne hpid).bind fun proj ↦ ?_
    split
    · exact Confined.pure _
    · exact (confined_findOne hpid).bind fun _ ↦ (confined_findOne hpid).bind fun _ ↦
        Confined.pure _
  unfold projectHint
  split
  · exact Confined.pure _
  · exact ((confined_session hread).bind fun _ ↦ Confined.pure _).tryCatch fun _ ↦ Confined.pure _

theorem confined_generateSmartHint {trigger : String} (hpid : pid ∈ P) :
    ConfinedTo P (generateSmartHint env pid trigger) := by
  unfold generateSmartHint
  split
  · exact Confined.pure _
  · refine (confined_session ?_).tryCatch fun _ ↦ Confined.pure _
    exact (confined_findOne hpid).bind fun _ ↦ (confined_findOne hpid).bind fun _ ↦ Confined.pure _

theorem confined_getInstitutionalMemory (hpid : pid ∈ P) :
    ConfinedTo P (getInstitutionalMemory env pid) := by
  unfold getInstitutionalMemory
  split
  · exact Confined.pure _
  · refine confined_session ?_
    exact (confined_findOne hpid).bind fun _ ↦ (confined_findOne hpid).bind fun _ ↦
      (confined_findOne hpid).bind fun _ ↦ Confined.pure _

theorem confined_loadProjectContext (hpid : pid ∈ P) :
    ConfinedTo P (loadProjectContext env pid) := by
  unfold loadProjectContext
  split
  · exact Confined.pure _
  · refine (confined_session ?_).tryCatch fun _ ↦ Confined.pure _
    exact (confined_findOne hpid).bind fun _ ↦ (confined_findOne hpid).bind fun _ ↦ Confined.pure _

end Confined

end Siyadah
