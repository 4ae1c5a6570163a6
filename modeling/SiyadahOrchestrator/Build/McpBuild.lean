import SiyadahOrchestrator.Build.DynamicBuild
import SiyadahOrchestrator.Build.RegistryReader

/-!
# Building over MCP

`build_dynamic_flow` builds a flow from a trigger and a list of actions, as the REST endpoint does;
`build_recipe_flow` makes both out of the configuration of a recipe and goes the same way. Each
action that uses a piece is resolved and then shown to the registry; the others go into the chain as
they are, but for the code of a `CODE` step, which may stand in its input.

What shows an action to the registry is a parameter of `mcpSpecs`, so that the list the actions
resolve to can be spoken of where it is refused.
-/

namespace Siyadah

open Dialogue PyValue

/-! ### Recipes -/

/-- `RECIPE_WEBHOOK_TO_SHEETS_AND_GMAIL`. -/
def recipeWebhookToSheetsAndGmail : PyStr := text "webhook_to_google_sheets_and_gmail"

section Recipes

variable (R : PyRuntime) (files : RegistryFiles)

/-- The `HTTPException` of a recipe: its code, what else it has, and its message. -/
def recipeError (status : ℕ) (fields : List (String × PyValue)) : EngineError :=
  .http status (.value (pyDict fields))

/-- `_required`. -/
def requiredConfig (config : Fields) (fields : List String) : Except EngineError Unit :=
  let missing := fields.filter fun f ↦ ((config.lookup (text f)).getD .null).isBlank
  if missing = [] then .ok ()
  else .error (recipeError 422 [("error", py "RECIPE_REQUIRED_CONFIG_MISSING"),
    ("recipe", .str recipeWebhookToSheetsAndGmail), ("missing_fields", .list (missing.map py)),
    ("message", py "Recipe config is missing required deterministic fields.")])

/-- The columns, if `columns` is a list of strings that are not blank, and not empty. -/
def recipeColumns : PyValue → Except EngineError (List PyStr)
  | .list items =>
    let names := items.filterMap fun c ↦ match c with
      | .str s => if s.strip = [] then none else some s
      | _ => none
    if items ≠ [] ∧ names.length = items.length then .ok names else .error invalid
  | _ => .error invalid
where
  invalid : EngineError := recipeError 422 [("error", py "RECIPE_INVALID_COLUMNS"),
    ("recipe", .str recipeWebhookToSheetsAndGmail),
    ("message", py "columns must be a non-empty list of strings.")]

/-- `_sheet_values`. -/
def sheetValues (columns : List PyStr) : PyValue :=
  .dict (columns.foldl (fun d col ↦
    upsert d col (.str (text "\x7b\x7btrigger.body." ++ col ++ text "\x7d\x7d"))) [])

/-- The `actions` of the recipe. -/
def recipeActions (config : Fields) (columns : List PyStr) : List PyValue :=
  let value (key : String) : PyValue := (config.lookup (text key)).getD .null
  [pyDict [("type", py "PIECE"), ("piece", py "@activepieces/piece-google-sheets"),
      ("action_name", py "insert_row"), ("display_name", py "حفظ lead في Google Sheets"),
      ("input", pyDict [("spreadsheetId", value "spreadsheetId"), ("sheetId", value "sheetId"),
        ("first_row_headers", .bool true), ("values", sheetValues (columns.map PyStr.strip))])],
    pyDict [("type", py "PIECE"), ("piece", py "@activepieces/piece-gmail"),
      ("action_name", py "send_email"), ("display_name", py "إرسال إيميل ترحيبي"),
      ("input", pyDict [("receiver", value "gmail_to"),
        ("subject", (value "subject").orElse (py "Lead جديد من سيادة")),
        ("body", (value "body").orElse (py ("وصل lead جديد: \x7b\x7btrigger.body.name\x7d\x7d - " ++
          "\x7b\x7btrigger.body.email\x7d\x7d - \x7b\x7btrigger.body.phone\x7d\x7d"))),
        ("body_type", py "plain_text"), ("draft", .bool false)])]]

/-- `build_webhook_to_google_sheets_and_gmail_recipe`. -/
def buildWebhookRecipe (config : Fields) : Except EngineError PyValue := do
  requiredConfig config ["spreadsheetId", "sheetId", "columns", "gmail_to"]
  let columns ← recipeColumns ((config.lookup (text "columns")).getD .null)
  let actions := recipeActions config columns
  actions.forM (validateActionAgainstRegistry R files)
  pure (pyDict [("display_name",
      ((config.lookup (text "display_name")).getD .null).orElse (py "سيادة — موظف استقبال Lead")),
    ("trigger", pyDict [("piece", py "@activepieces/piece-webhook"),
      ("trigger_name", py "catch_webhook"), ("input", pyDict [("authType", py "none")])]),
    ("actions", .list actions)])

/-- `build_recipe`. -/
def buildRecipe (recipe config : PyValue) : Except EngineError PyValue :=
  if recipe.isStr recipeWebhookToSheetsAndGmail then
    match config with
    | .dict fields => buildWebhookRecipe R files fields
    | _ => .error (.py .attributeError)
  else .error (recipeError 400 [("error", py "UNKNOWN_RECIPE"), ("recipe", recipe),
    ("available_recipes", .list [.str recipeWebhookToSheetsAndGmail])])

/-- The two tools that build a flow from actions. -/
inductive McpBuildTool where
  | buildRecipeFlow
  | buildDynamicFlow

/-- The parameters with which `build_dynamic_flow` is gone through. -/
def buildParameters (tool : McpBuildTool) (p : PyValue) : Except EngineError PyValue :=
  match tool with
  | .buildDynamicFlow => .ok p
  | .buildRecipeFlow => do
    let recipe ← fromPy (p.getD "recipe" (py ""))
    let config ← fromPy (p.getD "config" (.dict []))
    let built ← buildRecipe R files recipe (config.orElse (.dict []))
    let ids ← fromPy (p.getD "connection_ids" (.dict []))
    pure (pyDict [("display_name", built.entryD "display_name"),
      ("trigger", built.entryD "trigger"), ("actions", built.entryD "actions"),
      ("connection_ids", ids)])

end Recipes

/-! ### Actions -/

/-- `if key not in d and key in input: d[key] = input[key]`. -/
def liftField (input d : Fields) (key : PyStr) : Fields :=
  match d.lookup key, input.lookup key with
  | none, some v => upsert d key v
  | _, _ => d

/-- The code of a `CODE` step and its input, which may stand under `input`. -/
def liftCode (a : PyValue) : PyValue :=
  .dict ([text "code", text "code_input"].foldl (liftField (fieldsOf (a.entryD "input")))
    (fieldsOf a))

/-- The 400 of an action that names no piece. -/
def missingPiece (a : PyValue) : EngineError :=
  .http 400 (.text [.lit "PIECE action missing 'piece' field (display_name=",
    .val ((a.entry "display_name").getD (py "")),
    .lit "). Refusing to auto-resolve an empty piece name."])

/-- `if cid and "auth" not in cleaned_in: cleaned_in["auth"] = C(cid)`. -/
def keepOwnAuth (connId : PyValue) (input : Fields) : Except PyError Fields :=
  if (input.map Prod.fst).contains (text "auth") then .ok input else connectInput connId input

/-- What is shown to the registry. -/
def registryStep (a : PyValue) (r : ResolvedAction) (input : Fields) : Except PyError PyValue := do
  let actionName ← a.getD "action_name" (py "")
  pure (pyDict [("type", py "PIECE"), ("piece", .str r.full), ("action_name", actionName),
    ("input", .dict input)])

section Env

variable (env : BuilderEnv) (check : PyValue → Except EngineError Unit) (cn : Fields)

/-- An action that uses a piece. -/
def mcpPieceSpec (a : PyValue) : BuilderM PyValue := do
  let piece ← evalPy (a.getD "piece" (py ""))
  if !piece.truthy then raise (missingPiece a)
  else
    let r ← resolveActionSpec env a
    let connId ← evalPy (ownConnection cn a r.short)
    let input ← evalPy (keepOwnAuth connId r.input)
    let shown ← evalPy (registryStep a r input)
    let _ ← lift (check shown)
    evalPy (chainSpec a r input)

/-- What stands in the chain for an action. -/
def mcpSpec (a : PyValue) : BuilderM PyValue := do
  let stype ← evalPy (a.getD "type" (py "PIECE"))
  if stype.isStr (text "PIECE") then mcpPieceSpec env check cn a
  else if stype.isStr (text "CODE") then pure (liftCode a)
  else pure a

/-- The loop over the actions. -/
def mcpSpecs : List PyValue → BuilderM (List PyValue)
  | [] => pure []
  | a :: rest => do
    let spec ← mcpSpec env check cn a
    let specs ← mcpSpecs rest
    pure (spec :: specs)

/-- What a request has resolved to: the piece of the trigger and its version, and the actions. -/
structure McpResolved where
  full : PyStr
  version : PyValue
  specs : List PyValue

/-- `p.get("trigger", {}) or {}`. -/
def triggerOf (p : PyValue) : PyValue := (p.entryD "trigger").orElse (.dict [])

/-- `p.get("actions", []) or []`. -/
def actionsOf (p : PyValue) : PyValue := (p.entryD "actions").orElse (.list [])

/-- The piece of the trigger, and its version. -/
def mcpTriggerPiece (t : PyValue) : BuilderM (PyStr × PyValue) := do
  let piece ← evalPy (t.get "piece")
  let name ← evalPy (pieceText (piece.orElse (py "@activepieces/piece-webhook")))
  let resolved ← autoResolvePiece env.runtime name
  let explicit ← evalPy (t.getD "version" (py ""))
  let version ← evalPy (versionOr env explicit resolved.2 resolved.1)
  pure (fullName resolved.1, version)

/-- The first half of `build_dynamic_flow`: everything is resolved. -/
def mcpResolve (p : PyValue) : BuilderM McpResolved := do
  let trigger ← mcpTriggerPiece env (triggerOf p)
  let items ← evalPy (actionsOf p).items
  let specs ← mcpSpecs env check cn (items.map Subtype.val)
  pure ⟨trigger.1, trigger.2, specs⟩

/-- The input of the trigger. -/
def mcpTriggerInput (t : PyValue) : Except PyError Fields := do
  let raw ← t.getD "input" (pyDict [("authType", py "none")])
  let fields ← toDict raw
  pure (cleanInputConfig fields)

/-- The trigger with the chain of the actions. -/
def mcpTrigger (p : PyValue) (r : McpResolved) : BuilderM PyValue := do
  setState { counter := 1, stepsInfo := [] }
  let first ← buildActionChain env (.list r.specs)
  let input ← evalPy (mcpTriggerInput (triggerOf p))
  let name ← evalPy ((triggerOf p).getD "trigger_name" (py "catch_webhook"))
  pure (buildTrigger r.full r.version name (.dict input) (py "Trigger") first)

/-- What the tools ask of ActivePieces and of `golden_build`. -/
inductive McpBuildQuery where
  | catalog (q : CatalogQuery)
  | goldenBuild (pid : PyStr) (name trigger : PyValue)

/-- A program that builds a flow over MCP. -/
abbrev McpBuildM (α : Type) := Dialogue McpBuildQuery (Except EngineError PyValue) BuilderState
  EngineError α

/-- `build_dynamic_flow`. -/
def mcpBuildDynamicFlow (pid : PyStr) (p : PyValue) : McpBuildM PyValue := do
  let r ← (mcpResolve env check cn p).rename .catalog
  let trigger ← (mcpTrigger env p r).rename .catalog
  let name ← lift (fromPy (p.getD "display_name" (py "سيادة — أتمتة مخصصة")))
  ask (.goldenBuild pid name trigger) >>= lift

/-- The two tools, with the registry. -/
def mcpBuildFlow (files : RegistryFiles) (pid : PyStr) (tool : McpBuildTool) (p : PyValue) :
    McpBuildM PyValue := do
  let p ← lift (buildParameters env.runtime files tool p)
  mcpBuildDynamicFlow env (validateActionAgainstRegistry env.runtime files) cn pid p

end Env

end Siyadah
