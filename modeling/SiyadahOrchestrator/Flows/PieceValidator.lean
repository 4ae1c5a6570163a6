import SiyadahOrchestrator.Foundations.KeyedTable
import SiyadahOrchestrator.Foundations.PyValue

/-!
# The piece validator

`piece_validator.py`: before a flow is built, every step that uses a piece is checked against the
table `piece_registry`. `walkSteps` is the generator `_walk_steps`. It is consumed lazily, and an
exception inside it surfaces only after the steps before it have been checked; so it is a list of
`Except`, read from left to right by `validateTrigger`.
-/

namespace Siyadah

open PyValue

/-- The text of a literal. -/
def text (s : String) : PyStr := PyStr.ofString s

/-! ### The registry -/

/-- A row of `piece_registry`. An index maps a name to its `required_props`; an entry without them
has none. -/
structure PieceRow where
  name : PyStr
  pieceVersion : PyStr
  authType : Option PyStr
  actionsIndex : List (PyStr × List PyStr)
  triggersIndex : List (PyStr × List PyStr)

/-- The table: `(name, piece_version)` is the primary key. -/
abbrev PieceRegistry :=
  KeyedTable (fun r : PieceRow ↦ (r.name, r.pieceVersion)) fun _ ↦ (none : Option Unit)

/-- `_fetch_piece`. The driver refuses a name that is not a string. -/
def fetchPiece (reg : PieceRegistry) (name : PyValue) (version : PyStr) :
    Except PyError (Option PieceRow) :=
  match name with
  | .str s => .ok (reg.find? (s, version))
  | _ => .error .dbapiError

/-- The versions of a piece, sorted. -/
def knownVersions (reg : PieceRegistry) (name : PyValue) : List PyStr :=
  ((reg.rows.filter fun r ↦ name.isStr r.name).map PieceRow.pieceVersion).mergeSort PyStr.le

/-! ### Leaf values -/

/-- `_strip_version`. -/
def stripVersion (raw : PyValue) : Except PyError PyStr :=
  if !raw.truthy then .ok []
  else
    match raw with
    | .str s => .ok (PyStr.strip (s.dropWhile fun c ↦ c = 126 ∨ c = 94))
    | _ => .error .attributeError

/-- Whether `}}` follows before the end of the line. -/
def closesOnLine : PyStr → Bool
  | 125 :: 125 :: _ => true
  | c :: s => c ≠ 10 && closesOnLine s
  | [] => false

/-- `_DYNAMIC_RE.search(s)`, for the pattern `\{\{.*?\}\}`. -/
def isDynamic : PyStr → Bool
  | 123 :: 123 :: s => closesOnLine s || isDynamic (123 :: s)
  | _ :: s => isDynamic s
  | [] => false

mutual

/-- `_contains_handlebars`. -/
def containsHandlebars : PyValue → Bool
  | .str s => isDynamic s
  | .dict fields => fieldsContainHandlebars fields
  | .list items => itemsContainHandlebars items
  | _ => false

/-- The values of a dictionary. -/
def fieldsContainHandlebars : List (PyStr × PyValue) → Bool
  | [] => false
  | f :: fs => containsHandlebars f.2 || fieldsContainHandlebars fs

/-- The items of a list. -/
def itemsContainHandlebars : List PyValue → Bool
  | [] => false
  | v :: vs => containsHandlebars v || itemsContainHandlebars vs

end

/-- `_BANNED_VALUES`. -/
def bannedValues : List PyStr :=
  [text "Siyadah Auto-Fill", text "TODO_REPLACE_WITH_SPREADSHEET_ID", text "your_id_here",
    text "<replace_me>"]

mutual

/-- `_is_banned`. -/
def isBanned : PyValue → Bool
  | .str s => s.strip ∈ bannedValues
  | .dict fields => fieldsBanned fields
  | .list items => itemsBanned items
  | _ => false

/-- The values of a dictionary. -/
def fieldsBanned : List (PyStr × PyValue) → Bool
  | [] => false
  | f :: fs => isBanned f.2 || fieldsBanned fs

/-- The items of a list. -/
def itemsBanned : List PyValue → Bool
  | [] => false
  | v :: vs => isBanned v || itemsBanned vs

end

/-! ### The steps -/

/-- What a generator yields next, or the exception it raises. -/
abbrev Yield := Except PyError (PyStr × PyValue)

/-- Go on with a value, or raise. -/
def yieldFrom {β : Type} (x : Except PyError β) (f : β → List Yield) : List Yield :=
  match x with
  | .ok b => f b
  | .error e => [.error e]

/-- The path of the child number `idx`. -/
def childPath (path : PyStr) (idx : ℕ) : PyStr := path ++ text s!".children[{idx}]"

/-- `recurse`: what is below a node. -/
def recurseSteps (node : PyValue) (path : PyStr) : List Yield :=
  (yieldFrom (node.child "nextAction" Leaf.null) fun next ↦
    if next.1.isDict then
      .ok (path ++ text ".nextAction", next.1) :: recurseSteps next.1 (path ++ text ".nextAction")
    else []) ++
  (yieldFrom (node.child "children" Leaf.null) fun ch ↦ yieldFrom ch.orNil.1.items fun children ↦
    children.zipIdx.flatMap fun c ↦
      if c.1.1.isDict then
        .ok (childPath path c.2, c.1.1) :: recurseSteps c.1.1 (childPath path c.2)
      else []) ++
  (yieldFrom (node.child "firstLoopAction" Leaf.null) fun first ↦
    if first.1.isDict then
      .ok (path ++ text ".firstLoopAction", first.1) ::
        recurseSteps first.1 (path ++ text ".firstLoopAction")
    else [])
termination_by node.weight
decreasing_by
  · exact next.2
  · exact Nat.lt_of_le_of_lt c.1.2 ch.orNil.2
  · exact first.2

/-- `_walk_steps`. -/
def walkSteps (trigger : PyValue) : List Yield :=
  if !trigger.truthy then []
  else .ok (text "trigger", trigger) :: recurseSteps trigger (text "trigger")

/-! ### The checks -/

/-- `ValidationError`. -/
structure ValidationError where
  errorCode : String
  message : PyStr
  field : PyStr
  piece : PyValue := .null
  pieceVersion : Option PyStr := none
  hint : Option PyStr := none

/-- `asdict(e)`. -/
def ValidationError.asDict (e : ValidationError) : PyValue :=
  .dict [(text "error_code", py e.errorCode), (text "message", .str e.message),
    (text "field", .str e.field), (text "piece", e.piece),
    (text "piece_version", e.pieceVersion.elim .null .str), (text "hint", e.hint.elim .null .str)]

/-- `isinstance(v, str)`, as text; only strings are rendered with it. -/
def strOf : PyValue → PyStr
  | .str s => s
  | _ => []

section Checks

variable (repr : PyValue → PyStr) (reg : PieceRegistry)

/-- A list of strings as an f-string renders it. -/
def reprList (l : List PyStr) : PyStr :=
  text "[" ++ (l.map fun s ↦ repr (.str s)).foldr
    (fun s acc ↦ if acc = [] then s else s ++ text ", " ++ acc) [] ++ text "]"

/-- A step that uses no piece: only its input is looked at. -/
def checkStructural (path : PyStr) (step : PyValue) : Except PyError (List ValidationError) := do
  let settings ← step.get "settings"
  let input ← (settings.orElse (.dict [])).get "input"
  if isBanned input then
    pure [{ errorCode := "BANNED_PLACEHOLDER_VALUE"
            message := path ++ text ": placeholder/auto-fill value detected in input"
            field := path ++ text ".settings.input"
            hint := some (text "Replace TODO_* placeholders with real values before building.") }]
  else pure []

/-- The registry has no such row. -/
def unknownPiece (path : PyStr) (pieceName : PyValue) (version : PyStr) : ValidationError :=
  let known := knownVersions reg pieceName
  if known.isEmpty then
    { errorCode := "PIECE_NOT_IN_REGISTRY"
      message := path ++ text ": unknown piece " ++ repr pieceName
      field := path ++ text ".settings.pieceName"
      piece := pieceName
      pieceVersion := some version
      hint := some (text "Run: python -m scripts.sync_pieces --piece " ++ strOf pieceName) }
  else
    { errorCode := "PIECE_VERSION_NOT_IN_REGISTRY"
      message := path ++ text ": " ++ strOf pieceName ++ text " version " ++ repr (.str version) ++
        text " not in registry"
      field := path ++ text ".settings.pieceVersion"
      piece := pieceName
      pieceVersion := some version
      hint := some (text "Known versions: " ++ reprList repr (known.drop (known.length - 3)) ++
        text ". Run: python -m scripts.sync_pieces --piece " ++ strOf pieceName) }

/-- The check of the `auth` entry. -/
def checkAuth (path : PyStr) (pieceName : PyValue) (version : PyStr) (piece : PieceRow)
    (stepInput : PyValue) : Except PyError (List ValidationError) :=
  match piece.authType with
  | none => .ok []
  | some authType =>
    if authType = [] ∨ authType = text "NONE" then .ok []
    else do
      let auth ← stepInput.get "auth"
      if auth.isBlank then
        pure [{ errorCode := "AUTH_REQUIRED_BUT_MISSING"
                message := path ++ text ": " ++ strOf pieceName ++ text " requires " ++ authType ++
                  text " auth but input.auth is missing"
                field := path ++ text ".settings.input.auth"
                piece := pieceName
                pieceVersion := some version
                hint := some (text "Pass connection_ids[\"<piece-short>\"] in the build request, " ++
                  text "or include input.auth='\x7b\x7bconnections[\"...\"]\x7d\x7d'.") }]
      else pure []

/-- The check of one required property. -/
def checkRequired (path : PyStr) (pieceName : PyValue) (version : PyStr) (stepInput : PyValue)
    (req : PyStr) : Except PyError (List ValidationError) :=
  if req = text "auth" then .ok []
  else do
    if ← stepInput.hasItem req then
      let val ← stepInput.getItem req
      if containsHandlebars val then pure []
      else if val.isBlank then
        pure [{ errorCode := "REQUIRED_FIELD_EMPTY"
                message := path ++ text ": required field " ++ repr (.str req) ++ text " is empty"
                field := path ++ text ".settings.input." ++ req
                piece := pieceName
                pieceVersion := some version }]
      else pure []
    else
      pure [{ errorCode := "REQUIRED_FIELD_MISSING"
              message := path ++ text ": required field " ++ repr (.str req) ++
                text " missing from input"
              field := path ++ text ".settings.input." ++ req
              piece := pieceName
              pieceVersion := some version
              hint := some (text "Provide the field, OR a handlebars ref like " ++
                text "'\x7b\x7btrigger['body']['" ++ req ++
                text "']\x7d\x7d' if the value comes from an upstream step.") }]

/-- The checks of a step whose piece, action or trigger exists. -/
def checkInput (path : PyStr) (pieceName : PyValue) (version : PyStr) (piece : PieceRow)
    (required : List PyStr) (settings : PyValue) : Except PyError (List ValidationError) := do
  let input ← settings.get "input"
  let stepInput := input.orElse (.dict [])
  let auth ← checkAuth path pieceName version piece stepInput
  let props ← required.mapM (checkRequired repr path pieceName version stepInput)
  let banned := if isBanned stepInput then
      [{ errorCode := "BANNED_PLACEHOLDER_VALUE"
         message := path ++ text ": placeholder/auto-fill value detected — the 'Siyadah Auto-Fill' " ++
           text "era is over"
         field := path ++ text ".settings.input"
         piece := pieceName
         pieceVersion := some version
         hint := some (text "Replace the placeholder with a real value or a handlebars ref.") }]
    else []
  pure (auth ++ props.flatten ++ banned)

/-- `name_key not in index`; a list or a dictionary cannot be looked up. -/
def lookupName (index : List (PyStr × List PyStr)) (nameKey : PyValue) :
    Except PyError (Option (List PyStr)) :=
  match nameKey with
  | .str s => .ok (index.lookup s)
  | .list _ => .error .typeError
  | .dict _ => .error .typeError
  | _ => .ok none

/-- The checks of a step whose piece is registered. -/
def checkName (path : PyStr) (isTrigger : Bool) (pieceName : PyValue) (version : PyStr)
    (piece : PieceRow) (settings : PyValue) : Except PyError (List ValidationError) := do
  let nameField := if isTrigger then "triggerName" else "actionName"
  let index := if isTrigger then piece.triggersIndex else piece.actionsIndex
  let kind := if isTrigger then "trigger" else "action"
  let kindCode := if isTrigger then "TRIGGER" else "ACTION"
  let nameKey ← settings.getD nameField (py "")
  let fieldPath := path ++ text ".settings." ++ text nameField
  if !nameKey.truthy then
    pure [{ errorCode := kindCode ++ "_NAME_MISSING"
            message := path ++ text ": settings." ++ text nameField ++ text " is required"
            field := fieldPath
            piece := pieceName
            pieceVersion := some version }]
  else
    match ← lookupName index nameKey with
    | none =>
      pure [{ errorCode := kindCode ++ "_NOT_FOUND"
              message := path ++ text ": " ++ text kind ++ text " " ++ repr nameKey ++
                text " not found in " ++ strOf pieceName
              field := fieldPath
              piece := pieceName
              pieceVersion := some version
              hint := some (text "Available " ++ text kind ++ text "s: " ++
                reprList repr (((index.map Prod.fst).mergeSort PyStr.le).take 10)) }]
    | some required => checkInput repr path pieceName version piece required settings

/-- The checks of a step that uses a piece. -/
def checkPiece (path : PyStr) (isTrigger : Bool) (step : PyValue) :
    Except PyError (List ValidationError) := do
  let rawSettings ← step.get "settings"
  let settings := rawSettings.orElse (.dict [])
  let pieceName ← settings.getD "pieceName" (py "")
  let rawVersion ← settings.getD "pieceVersion" (py "")
  let version ← stripVersion rawVersion
  if !pieceName.truthy then
    pure [{ errorCode := "PIECE_NAME_MISSING"
            message := path ++ text ": settings.pieceName is required"
            field := path ++ text ".settings.pieceName" }]
  else if version = [] then
    pure [{ errorCode := "PIECE_VERSION_MISSING"
            message := path ++ text ": settings.pieceVersion is required"
            field := path ++ text ".settings.pieceVersion"
            piece := pieceName
            hint := some (text "Include pieceVersion like '~0.12.1' — orchestrator strips the '~' " ++
              text "on lookup.") }]
  else
    match ← fetchPiece reg pieceName version with
    | none => pure [unknownPiece repr reg path pieceName version]
    | some piece => checkName repr path isTrigger pieceName version piece settings

/-- The body of the loop of `validate_trigger`. -/
def checkStep (path : PyStr) (step : PyValue) : Except PyError (List ValidationError) := do
  let stype ← step.getD "type" (py "")
  if stype.isStr (text "PIECE_TRIGGER") then checkPiece repr reg path true step
  else if stype.isStr (text "PIECE") then checkPiece repr reg path false step
  else checkStructural path step

/-- `validate_trigger`. -/
def validateTrigger (trigger : PyValue) : Except PyError (List ValidationError) := do
  let errors ← (walkSteps trigger).mapM fun y ↦ do
    let step ← y
    checkStep repr reg step.1 step.2
  pure errors.flatten

/-- The `detail` of the 422 that `assert_trigger` raises. -/
def rejectionDetail (errors : List ValidationError) : PyValue :=
  .dict [(text "message", .str (text "Flow failed piece-registry validation. Fix the errors " ++
      text "below and retry — no flow was created on Activepieces.")),
    (text "errors", .list (errors.map ValidationError.asDict)),
    (text "total_errors", .int errors.length)]

end Checks

end Siyadah
