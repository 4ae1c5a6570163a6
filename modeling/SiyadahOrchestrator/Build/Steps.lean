import SiyadahOrchestrator.Build.Catalog

/-!
# Building a chain of steps

A flow is requested as a list of step specifications, which nest: a router has a list in each of its
branches, a loop has one. `buildStepFromSpec` and `buildActionChain` turn them into the tree that
ActivePieces imports. A chain is built from its last step to its first one, since a step holds the
next one; the number of a step is taken from a counter when its building begins.
-/

namespace Siyadah

open Dialogue PyValue

/-- What the builders read besides their arguments. -/
structure BuilderEnv where
  runtime : PyRuntime
  /-- `GMAIL_CONNECTION_ID`. -/
  gmailConnection : PyStr
  /-- `SHEETS_CONNECTION_ID`. -/
  sheetsConnection : PyStr

/-- `DEFAULT_CONNECTIONS`. -/
def BuilderEnv.defaultConnections (env : BuilderEnv) : List (PyStr × PyStr) :=
  [(text "gmail", env.gmailConnection), (text "google-sheets", env.sheetsConnection)]

/-! ### Step builders -/

/-- `if next_action: step["nextAction"] = next_action`. -/
def withNext (fields : List (String × PyValue)) (next : PyValue) : PyValue :=
  pyDict (fields ++ if next.truthy then [("nextAction", next)] else [])

section Node

variable {fields : List (String × PyValue)} {next : PyValue}

theorem entryD_withNext {key : String} (h : key ≠ "nextAction") :
    (withNext fields next).entryD key = (fields.lookup key).getD .null := by
  rw [entryD, withNext, entry_pyDict, List.lookup_append]
  split
  · rw [List.lookup_cons, beq_false_of_ne h]
    simp
  · simp

theorem entryD_nextAction (h : fields.lookup "nextAction" = none) :
    (withNext fields next).entryD "nextAction" = if next.truthy then next else .null := by
  rw [entryD, withNext, entry_pyDict, List.lookup_append, h]
  split <;> rfl

theorem truthy_withNext {name : PyValue} (h : fields.lookup "name" = some name) :
    (withNext fields next).truthy = true := by
  have hnamed : (withNext fields next).entry "name" = some name := by
    rw [withNext, entry_pyDict, List.lookup_append, h]
    rfl
  exact truthy_of_entry hnamed

end Node

/-- The `errorHandlingOptions` of a step. -/
def errorHandlingOptions : PyValue :=
  pyDict [("retryOnFailure", pyDict [("value", .bool false)]),
    ("continueOnFailure", pyDict [("value", .bool false)])]

/-- `build_trigger`. -/
def buildTrigger (piece : PyStr) (version triggerName input display next : PyValue) : PyValue :=
  withNext [("name", py "trigger"), ("valid", .bool true), ("skip", .bool false),
    ("displayName", display), ("type", py "PIECE_TRIGGER"),
    ("settings", pyDict [("pieceName", .str piece), ("pieceVersion", version),
      ("pieceType", py "OFFICIAL"), ("packageType", py "REGISTRY"), ("triggerName", triggerName),
      ("input", input), ("inputUiInfo", .dict []), ("propertySettings", .dict [])])] next

/-- `build_action`. -/
def buildAction (name piece : PyStr) (version actionName : PyValue) (input : Fields)
    (display next : PyValue) (propertySettings : Fields) : PyValue :=
  withNext [("name", .str name), ("valid", .bool true), ("skip", .bool false),
    ("displayName", display), ("type", py "PIECE"),
    ("settings", pyDict [("pieceName", .str piece), ("pieceVersion", version),
      ("pieceType", py "OFFICIAL"), ("packageType", py "REGISTRY"), ("actionName", actionName),
      ("input", .dict input), ("inputUiInfo", .dict []),
      ("propertySettings", .dict propertySettings),
      ("errorHandlingOptions", errorHandlingOptions)])] next

/-- `build_router_step`. -/
def buildRouterStep (name : PyStr) (display : PyValue) (branches children : List PyValue)
    (next : PyValue) : PyValue :=
  withNext [("name", .str name), ("type", py "ROUTER"), ("valid", .bool true),
    ("skip", .bool false), ("displayName", display),
    ("settings", pyDict [("branches", .list branches),
      ("executionType", py "EXECUTE_FIRST_MATCH"), ("inputUiInfo", .dict []),
      ("errorHandlingOptions", errorHandlingOptions)]), ("children", .list children)] next

/-- `build_loop_step`. -/
def buildLoopStep (name : PyStr) (display items first next : PyValue) : PyValue :=
  withNext ([("name", .str name), ("type", py "LOOP_ON_ITEMS"), ("valid", .bool true),
    ("displayName", display),
    ("settings", pyDict [("items", items), ("inputUiInfo", .dict []),
      ("errorHandlingOptions", errorHandlingOptions)])] ++
    if first.truthy then [("firstLoopAction", first)] else []) next

/-- `build_code_step`. -/
def buildCodeStep (name : PyStr) (display code input next : PyValue) : PyValue :=
  withNext [("name", .str name), ("type", py "CODE"), ("valid", .bool true),
    ("displayName", display),
    ("settings", pyDict [
      ("input", input.orElse (pyDict [("data", py "\x7b\x7btrigger['body']\x7d\x7d")])),
      ("sourceCode", pyDict [("code", code),
        ("packageJson", py "\x7b\"dependencies\": \x7b\x7d\x7d")]),
      ("inputUiInfo", .dict []), ("errorHandlingOptions", errorHandlingOptions)])] next

/-- `wh_trigger`. -/
def whTrigger (display next : PyValue) : PyValue :=
  buildTrigger (text "@activepieces/piece-webhook") (.str (fallbackVersion (text "webhook")))
    (py "catch_webhook") (pyDict [("authType", py "none")]) display next

/-- `cond`. -/
def cond (operator first second : PyValue) : PyValue :=
  pyDict ([("operator", operator), ("firstValue", first)] ++
    (if second.truthy then [("secondValue", second)] else []) ++
    if operator.isStr (text "TEXT_CONTAINS") then [("caseSensitive", .bool false)] else [])

/-- `condition_branch`. -/
def conditionBranch (name : PyValue) (conditions : List PyValue) : PyValue :=
  pyDict [("branchName", name), ("branchType", py "CONDITION"), ("conditions", .list conditions)]

/-- `fallback_branch`. -/
def fallbackBranch (name : PyValue) : PyValue :=
  pyDict [("branchName", name), ("branchType", py "FALLBACK")]

/-- `x if isinstance(x, dict) else {}`. -/
def orEmpty (v : PyValue) : PyValue := if v.isDict then v else .dict []

/-- A condition of a branch. -/
def conditionOf (c : PyValue) : Except PyError PyValue := do
  let operator ← (orEmpty c).getD "operator" (py "")
  let first ← (orEmpty c).getD "first_value" (py "")
  let second ← (orEmpty c).getD "second_value" (py "")
  pure (cond operator first second)

/-- The definition of a branch. -/
def branchDefinition (b : PyValue) : Except PyError PyValue := do
  let branchType ← b.getD "branch_type" (py "CONDITION")
  if branchType.isStr (text "FALLBACK") then
    let name ← b.getD "name" (py "Otherwise")
    pure (fallbackBranch name)
  else
    let conditions ← b.getD "conditions" (.list [])
    let groups ← conditions.items
    let conds ← groups.mapM fun g ↦ do
      let members ← g.1.items
      let group ← members.mapM fun c ↦ conditionOf c.1
      pure (.list group)
    let name ← b.getD "name" (py "Branch")
    pure (conditionBranch name conds)

/-! ### The counter and the reports -/

/-- `f"step_{n}"`. -/
def stepName (n : ℕ) : PyStr := text "step_" ++ digits n

/-- `snum = counter[0]; counter[0] += 1`. -/
def nextNumber : BuilderM ℕ := do
  let s ← getState
  setState { s with counter := s.counter + 1 }
  pure s.counter

/-- `steps_info.append(row)`. -/
def report (row : PyValue) : BuilderM Unit := do
  let s ← getState
  setState { s with stepsInfo := s.stepsInfo ++ [row] }

/-- The report on a step that uses no piece. -/
def structureReport (sname : PyStr) (structure' : String) (display : PyValue)
    (more : List (String × PyValue)) : PyValue :=
  pyDict ([("step", .str sname), ("piece", .null), ("action", .null), ("version", .null),
    ("schema_loaded", .bool false), ("property_settings", .dict []), ("structure", py structure'),
    ("display_name", display)] ++ more)

/-- The report on a step that uses a piece. -/
def pieceReport (sname full : PyStr) (action version : PyValue) (schemaLoaded : Bool)
    (propertySettings : Fields) : PyValue :=
  pyDict [("step", .str sname), ("piece", .str full), ("action", action), ("version", version),
    ("schema_loaded", .bool schemaLoaded), ("property_settings", .dict propertySettings)]

/-! ### A step that uses a piece -/

section Env

variable (env : BuilderEnv)

/-- `_fuzzy_name`, for the actions of a schema. -/
def fuzzyName (name : PyStr) (available : Fields) : PyStr :=
  let keys := available.map Prod.fst
  if name ∈ keys then name
  else if dashed name ∈ keys then dashed name
  else if underscored name ∈ keys then underscored name
  else
    (keys.find? fun k ↦ name.isSuffixOf k || (dashed name).isSuffixOf k ||
      (underscored name).isSuffixOf k).getD name

/-- The actions of a schema, and the name among them that is meant. What is not a dictionary raises
here or in `get_action_props`. -/
def resolveAction (schema actionName : PyValue) : Except PyError (PyStr × Fields) := do
  match ← schema.getD "actions" (.dict []), actionName with
  | .dict actions, .str name => pure (fuzzyName name actions, actions)
  | .dict _, .list _ => .error .typeError
  | .dict _, .dict _ => .error .typeError
  | _, _ => .error .attributeError

/-- The piece that a specification names. -/
def specPiece (spec : PyValue) : Except PyError PyStr := do
  let piece ← spec.get "piece"
  let piece ← piece.orGet spec "piece_name"
  stripped (piece.orElse (py ""))

/-- The connection of the step: its own one, or the default of the piece; the input keeps an `auth`
that it has. -/
def withAuth (spec : PyValue) (short : PyStr) (input : Fields) : Except PyError Fields := do
  let own ← spec.get "connection_id"
  let connId := own.orElse (.str ((env.defaultConnections.lookup short).getD []))
  if connId.truthy && !(input.map Prod.fst).contains (text "auth") then
    let auth ← connectionRefOf connId
    pure (upsert input (text "auth") auth)
  else pure input

/-- The draft guard: the well-known flags that the action has and the input has not are false. -/
def draftGuard (props : PyValue) (input : Fields) : Except PyError Fields :=
  if props.truthy then
    booleanFieldNames.foldlM (fun (input : Fields) flag ↦ do
      if flag ∈ input.map Prod.fst then pure input
      else if ← props.hasItem flag then pure (upsert input flag (.bool false))
      else pure input) input
  else .ok input

/-- Without a schema, a blank value under the name of a flag is false. -/
def fallbackAutofill (input : Fields) : Fields :=
  input.map fun f ↦
    if (f.2.isBlank && !f.2.isDict) ∧ env.runtime.lower f.1 ∈ booleanFieldNames then
      (f.1, .bool false)
    else f

/-- `_fn.lower()`, which is called for the blank values only, raises for a key that is no string. -/
def blankKeys (input : Fields) : Except PyError Unit :=
  if input.all fun f ↦ !(f.2.isBlank && !f.2.isDict) || isTextKey f.1 then .ok ()
  else .error .attributeError

/-- `{**ps, **extra}`. -/
def mergeFields (ps extra : Fields) : Fields := extra.foldl (fun d f ↦ upsert d f.1 f.2) ps

/-- The items of a dictionary; of anything else, none. -/
def fieldsOf : PyValue → Fields
  | .dict fields => fields
  | _ => []

/-- A computation on values, where other exceptions may be raised too. -/
def fromPy {α : Type} (x : Except PyError α) : Except EngineError α := x.mapError .py

/-- The settings of a step that uses a piece, as they are computed from its schema. -/
structure PieceSettings where
  version : PyValue
  action : PyValue
  input : Fields
  propertySettings : Fields
  schemaLoaded : Bool

/-- The 400 of an action that the schema does not have. -/
def actionNotFound (actionName : PyValue) (resolved : PyStr) (actions : Fields) : EngineError :=
  .http 400 (.text [.lit "Action '", .val actionName, .lit "' not found in ", .val (.str resolved),
    .lit ". Available: ", .val (.list (actions.map fun f ↦ .str f.1))])

/-- `explicit_ver or resolve_piece_version(schema, resolved_piece)`. -/
def versionOr (explicit schema : PyValue) (resolved : PyStr) : Except PyError PyValue :=
  if explicit.truthy then .ok explicit
  else (resolvePieceVersion env.runtime schema resolved).map .str

/-- The settings that the schema gives. -/
def settingsFromSchema (spec schema : PyValue) (resolved : PyStr) (input : Fields) :
    Except EngineError PieceSettings := do
  let explicit ← fromPy (spec.get "version")
  let version ← fromPy (versionOr env explicit schema resolved)
  let actionName ← fromPy (spec.getD "action_name" (py ""))
  let found ← fromPy (resolveAction schema actionName)
  let props ← fromPy (getActionProps schema (.str found.1))
  let guarded ← fromPy (draftGuard props input)
  let generated ← fromPy (generatePropertySettings env.runtime props guarded)
  if found.1 ∈ found.2.map Prod.fst then
    let extra ← fromPy (spec.get "property_settings")
    pure { version
           action := .str found.1
           input := generated.2
           propertySettings := mergeFields generated.1 (fieldsOf extra)
           schemaLoaded := true }
  else .error (actionNotFound actionName resolved found.2)

/-- The settings where no schema is known. -/
def settingsWithoutSchema (spec : PyValue) (short : PyStr) (input : Fields) :
    Except EngineError PieceSettings := do
  let explicit ← fromPy (spec.get "version")
  let action ← fromPy (spec.getD "action_name" (py ""))
  let extra ← fromPy (spec.get "property_settings")
  let _ ← fromPy (blankKeys input)
  pure { version := explicit.orElse (.str (fallbackVersion short))
         action
         input := fallbackAutofill env input
         propertySettings := fieldsOf extra
         schemaLoaded := false }

/-- The settings of a step, once its piece is resolved. -/
def pieceSettings (spec schema : PyValue) (resolved : PyStr) :
    Except EngineError PieceSettings := do
  let config ← fromPy (spec.getD "input_config" (.dict []))
  let raw ← fromPy (spec.getD "input" config)
  let fields ← fromPy (toDict raw)
  let input ← fromPy (withAuth env spec (shortName resolved) (cleanInputConfig fields))
  if ← fromPy (hasActions schema) then settingsFromSchema env spec schema resolved input
  else settingsWithoutSchema env spec (shortName resolved) input

/-- The `PIECE` branch of `_build_step_from_spec`. -/
def buildPieceStep (spec : PyValue) (sname : PyStr) (next : PyValue) : BuilderM PyValue := do
  let raw ← evalPy (specPiece spec)
  if raw = [] then
    raise (.http 400 (.text [.val (.str sname), .lit ": piece or piece_name is required"]))
  else
    let resolved ← autoResolvePiece env.runtime raw
    let full := fullName resolved.1
    let short := shortName resolved.1
    let settings ← lift (pieceSettings env spec resolved.2 resolved.1)
    report (pieceReport sname full settings.action settings.version settings.schemaLoaded
      settings.propertySettings)
    let display ← evalPy (spec.getD "display_name"
      (.str (short ++ text ": " ++ env.runtime.str settings.action)))
    pure (buildAction sname full settings.version settings.action settings.input display next
      settings.propertySettings)

/-- The `CODE` branch of `_build_step_from_spec`. -/
def buildCodeFromSpec (spec : PyValue) (sname : PyStr) (next : PyValue) : BuilderM PyValue := do
  let display ← evalPy (spec.getD "display_name" (py "Code"))
  report (structureReport sname "CODE" display [])
  let code ← evalPy (spec.getD "code"
    (py "export const code = async (inputs) => \x7b return inputs; \x7d;"))
  let input ← evalPy (spec.get "code_input")
  pure (buildCodeStep sname display code input next)

/-! ### Chains -/

/-- One pass of the loop of `_build_action_chain`: what is not an `HTTPException` becomes one. -/
def buildChainStep (build : BuilderM PyValue) (spec : PyValue) (stepNum total : ℕ) :
    BuilderM PyValue :=
  if spec.isDict then
    build.handle fun e ↦
      if e.isHttp then raise e
      else raise (.http 500 (.text [.lit "Failed building step ", .val (.int stepNum), .lit "/",
        .val (.int total), .lit ": ", .val (.str (env.runtime.describe e))]))
  else raise (.py .typeError)

/-- The loop of `_build_action_chain`, from the last specification to the first one; the step number
`stepNum` is the head of the list. -/
def buildChainFrom {β : Type} (build : β → PyValue → BuilderM PyValue) (specOf : β → PyValue)
    (total : ℕ) : ℕ → List β → BuilderM PyValue
  | _, [] => pure .null
  | stepNum, s :: ss => do
    let chain ← buildChainFrom build specOf total (stepNum + 1) ss
    buildChainStep env (build s chain) (specOf s) stepNum total

/-- `_build_action_chain`, for the way in which a step is built. -/
def chainOf (v : PyValue) (build : { s : PyValue // s.weight ≤ v.weight } → PyValue →
    BuilderM PyValue) : BuilderM PyValue :=
  if !v.truthy then pure .null
  else do
    let specs ← evalPy v.items
    buildChainFrom env build Subtype.val specs.length 1 specs

/-- The `branches` of a router that are built, in order; each has a definition and a chain. -/
def buildBranches {β : Type} (branchOf : β → PyValue) (chain : β → BuilderM PyValue) :
    List β → BuilderM (List (PyValue × PyValue))
  | [] => pure []
  | b :: bs => do
    let definition ← evalPy (branchDefinition (orEmpty (branchOf b)))
    let child ← chain b
    let rest ← buildBranches branchOf chain bs
    pure ((definition, child) :: rest)

/-- `_build_step_from_spec`. -/
def buildStepFromSpec (spec next : PyValue) : BuilderM PyValue := do
  let stype ← evalPy (spec.getD "type" (py "PIECE"))
  let sname := stepName (← nextNumber)
  if stype.isStr (text "PIECE") then buildPieceStep env spec sname next
  else if stype.isStr (text "CODE") then buildCodeFromSpec spec sname next
  else if stype.isStr (text "ROUTER") then
    let branches ← evalPy (spec.child "branches" Leaf.nil)
    let display ← evalPy (spec.getD "display_name" (py "Router"))
    let count := match branches.1 with
      | .list items => items.length
      | _ => 0
    report (structureReport sname "ROUTER" display [("branches_count", .int count)])
    let items ← evalPy branches.1.items
    let built ← buildBranches Subtype.val (fun b ↦ do
      if b.1.isDict then
        let actions ← evalPy (b.1.child "actions" Leaf.nil)
        chainOf env actions.1 fun s chain ↦ buildStepFromSpec s.1 chain
      else pure .null) items
    pure (buildRouterStep sname display (built.map Prod.fst) (built.map Prod.snd) next)
  else if stype.isStr (text "LOOP") then
    let expression ← evalPy (spec.getD "items_expression"
      (py "\x7b\x7btrigger['body']['items']\x7d\x7d"))
    let items ← evalPy (spec.getD "loop_items" expression)
    let display ← evalPy (spec.getD "display_name" (py "Loop"))
    report (structureReport sname "LOOP" display [("items_expression", items)])
    let actions ← evalPy (spec.child "loop_actions" Leaf.nil)
    let first ← chainOf env actions.1 fun s chain ↦ buildStepFromSpec s.1 chain
    pure (buildLoopStep sname display items first next)
  else raise (.py .valueError)
termination_by spec.weight
decreasing_by
  · exact Nat.lt_of_le_of_lt s.2 (Nat.lt_of_lt_of_le actions.2 (Nat.le_of_lt
      (Nat.lt_of_le_of_lt b.2 branches.2)))
  · exact Nat.lt_of_le_of_lt s.2 actions.2

/-- `_build_action_chain`. -/
def buildActionChain (specs : PyValue) : BuilderM PyValue :=
  chainOf env specs fun s chain ↦ buildStepFromSpec env s.1 chain

end Env

end Siyadah
