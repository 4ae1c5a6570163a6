import SiyadahOrchestrator.Build.Catalog

/-!
# Dry runs

A flow can be validated before it is built, over REST (`v2_validate`) and over MCP
(`validate_flow`). Both resolve each piece and look for the named trigger or action in its schema.
The REST endpoint also asks for the piece and the name, and for the required fields of the input;
what it cannot look up it reports as an error. MCP has none of this: a piece that is not given is
passed over, and an exception ends the call.

`v2Validate` is the one, `mcpValidateFlow` the other. Neither has a state of its own, so what either
comes to depends on the answers of the catalogue alone.
-/

namespace Siyadah

open Dialogue PyValue

/-! ### The checks -/

/-- `d.get(key, default)`. -/
def field (d : Fields) (key : String) (default : PyValue) : PyValue :=
  (d.lookup (text key)).getD default

section Checks

variable (R : PyRuntime)

/-- `key in container`, for a key of any type. -/
def isIn (key container : PyValue) : Except PyError Bool :=
  match container, key with
  | .dict fields, .str k => .ok (fields.lookup k).isSome
  | .dict _, key => if isHashable key then .ok false else .error .typeError
  | .list items, key => .ok (items.any key.eq)
  | .str s, .str k => .ok (s.contains k)
  | _, _ => .error .typeError

/-- `container[key]`, for a key of any type. An index out of range counts as a missing key. -/
def itemAt (container key : PyValue) : Except PyError PyValue :=
  let index (items : List PyValue) (n : ℤ) : Except PyError PyValue :=
    let n := if n < 0 then n + items.length else n
    if n < 0 then .error .keyError else items[n.toNat]?.elim (.error .keyError) .ok
  match container, key with
  | .dict _, .str k => container.getItem k
  | .dict _, key => .error (if isHashable key then .keyError else .typeError)
  | .list items, .int n => index items n
  | .list items, .bool b => index items (if b then 1 else 0)
  | .str s, .int n => index (s.map fun c ↦ .str [c]) n
  | .str s, .bool b => index (s.map fun c ↦ .str [c]) (if b then 1 else 0)
  | _, _ => .error .typeError

/-- `list(v.keys())`, in an f-string. -/
def keysText : PyValue → Except PyError PyStr
  | .dict fields => .ok (R.repr (.list (fields.map fun f ↦ .str f.1)))
  | _ => .error .attributeError

/-- `auto_resolve_piece`, called with whatever the request has for a piece. -/
def resolvePieceOf : PyValue → BuilderM (PyStr × PyValue)
  | .str name => autoResolvePiece R name
  | _ => evalPy (.error .attributeError)

/-- The kind of a step: what its name is called, where its schema lists the names. -/
structure BucketKind where
  label : String
  bucket : String

/-- A trigger. -/
def triggerKind : BucketKind := ⟨"Trigger", "triggers"⟩

/-- An action. -/
def actionKind : BucketKind := ⟨"Action", "actions"⟩

/-- `... not found in ... (requested: ...)`. -/
def notFoundText (kind : BucketKind) (name : PyValue) (resolved : PyStr) (piece : PyValue) :
    PyStr :=
  text kind.label ++ text " '" ++ R.str name ++ text "' not found in " ++ resolved ++
    text " (requested: " ++ R.str piece ++ text ")"

/-- `Cannot fetch piece ...`. -/
def cannotFetchText (piece : PyValue) (e : EngineError) : PyStr :=
  text "Cannot fetch piece " ++ R.str piece ++ text ": " ++ (R.message e).take 100

/-- The required fields that the input does not have. -/
def missingInputs (label : PyStr) (props input : Fields) : List PyStr :=
  (props.filter fun p ↦ p.2.isDict && (p.2.entryD "required").truthy &&
    !(input.map Prod.fst).contains p.1 && p.1 ≠ text "auth").map fun p ↦
      label ++ text ".input missing required field: '" ++ p.1 ++ text "'"

/-- The input of an action that is there, checked for its required fields. -/
def requiredCheck (label : PyStr) (action : Fields) (body : PyValue) :
    Except PyError (List PyStr) := do
  let props ← body.getD "props" (.dict [])
  let input ← toDict (field action "input" (.dict []))
  match props with
  | .dict ps => pure (missingInputs label ps (cleanInputConfig input))
  | _ => throw .attributeError

/-- The name is given and not in the bucket. -/
def isMissing (name bucket : PyValue) : Except PyError Bool :=
  if name.truthy then (isIn name bucket).map (!·) else .ok false

/-! ### REST -/

/-- `trigger_name` in the schema of the piece. -/
def v2TriggerErrors (piece name : PyValue) (found : PyStr × PyValue) :
    Except PyError (List PyStr) := do
  if found.2.truthy then
    let triggers ← found.2.getD "triggers" (.dict [])
    if ← isMissing name triggers then
      let available ← keysText R triggers
      pure [notFoundText R triggerKind name found.1 piece ++ text ". Available: " ++ available]
    else pure []
  else pure []

/-- `action_name` in the schema of the piece, and the required fields of the action. -/
def v2ActionErrors (label : PyStr) (action : Fields) (piece name : PyValue)
    (found : PyStr × PyValue) : Except PyError (List PyStr) := do
  if found.2.truthy then
    let actions ← found.2.getD "actions" (.dict [])
    if ← isMissing name actions then
      let available ← keysText R actions
      pure [notFoundText R actionKind name found.1 piece ++ text ". Available: " ++ available]
    else if name.truthy then
      let body ← itemAt actions name
      requiredCheck label action body
    else pure []
  else pure []

/-- A step in `v2_validate`. What is raised in the look-up is an error of the step. -/
def v2Step (label nameField : PyStr) (piece name : PyValue)
    (errorsOf : PyStr × PyValue → Except PyError (List PyStr)) : BuilderM (List PyStr) :=
  let required := (if piece.truthy then [] else [label ++ text ".piece is required"]) ++
    if name.truthy then [] else [label ++ text "." ++ nameField ++ text " is required"]
  if piece.truthy then do
    -- the whole of the look-up is guarded, the checks of the schema included
    let errors ← (do
      let found ← resolvePieceOf R piece
      evalPy (errorsOf found) : BuilderM (List PyStr)).handle fun e ↦
        pure [cannotFetchText R piece e]
    pure (required ++ errors)
  else pure required

/-- A trigger in `v2_validate`. -/
def v2Trigger (t : Fields) : BuilderM (List PyStr) :=
  let piece := field t "piece" (py "")
  let name := field t "trigger_name" (py "")
  v2Step R (text "trigger") (text "trigger_name") piece name (v2TriggerErrors R piece name)

/-- `actions[i]`. -/
def actionLabel (i : ℕ) : PyStr := text "actions[" ++ digits i ++ text "]"

/-- An action in `v2_validate`. -/
def v2Action (i : ℕ) (a : Fields) : BuilderM (List PyStr) :=
  let piece := field a "piece" (py "")
  let name := field a "action_name" (py "")
  v2Step R (actionLabel i) (text "action_name") piece name
    (v2ActionErrors R (actionLabel i) a piece name)

/-- The loop over the actions, from a number on. -/
def v2Actions : ℕ → List Fields → BuilderM (List PyStr)
  | _, [] => pure []
  | i, a :: as => do
    let errors ← v2Action R i a
    let rest ← v2Actions (i + 1) as
    pure (errors ++ rest)

/-- `_SUSPECT_VALUES`. -/
def suspectValues : List PyStr :=
  ["", "test", "test123", "xxx", "your_id_here", "spreadsheet_id", "sheet_id", "none", "null"].map
    text

/-- `_check_suspect_fields`. -/
def checkSuspectFields (label : PyStr) (input : Fields) : List PyStr :=
  [text "spreadsheet_id", text "sheet_id"].filterMap fun key ↦
    let val := (input.lookup key).getD .null
    let shown := R.lower (PyStr.strip (R.str val))
    if (match val with | .null => true | _ => false) then none
    else if shown ∈ suspectValues ∨ shown.length < 5 then
      some (label ++ text ".input." ++ key ++ text " = '" ++ R.str val ++
        text "' does not look like a real ID")
    else none

/-- The input of a step, for the last check; it is not guarded. -/
def suspectErrors (label : PyStr) (step : Fields) : Except PyError (List PyStr) :=
  (toDict (field step "input" (.dict []))).map (checkSuspectFields R label)

/-- The loop over the inputs of the actions, from a number on. -/
def suspectActions : ℕ → List Fields → Except PyError (List PyStr)
  | _, [] => .ok []
  | i, a :: as => do
    let errors ← suspectErrors R (actionLabel i) a
    let rest ← suspectActions (i + 1) as
    pure (errors ++ rest)

/-- `ValidateBody`. -/
structure ValidateBody where
  trigger : Fields
  actions : List Fields

/-- The errors of a dry run: those of the checks of pieces, names and required fields, and those of
the identifiers that look made up. -/
structure DryRun where
  checks : List PyStr
  suspects : List PyStr

/-- `v2_validate`. -/
def v2Validate (body : ValidateBody) : BuilderM DryRun := do
  let first ← v2Trigger R body.trigger
  let rest ← v2Actions R 0 body.actions
  let suspects ← evalPy do
    let first ← suspectErrors R (text "trigger") body.trigger
    let rest ← suspectActions R 0 body.actions
    pure (first ++ rest)
  pure ⟨first ++ rest, suspects⟩

/-- What `v2_validate` answers. -/
def DryRun.response (d : DryRun) (body : ValidateBody) : PyValue :=
  let pieces := (body.trigger :: body.actions).map fun step ↦ field step "piece" (py "")
  pyDict [("valid", .bool (d.checks ++ d.suspects = [])),
    ("errors", .list ((d.checks ++ d.suspects).map .str)),
    ("steps_count", .int (1 + body.actions.length)),
    ("pieces_used", .list (pieces.filter truthy))]

/-! ### MCP -/

/-- The name of a step in the schema of its piece. -/
def mcpErrors (kind : BucketKind) (piece name : PyValue) (found : PyStr × PyValue) :
    Except PyError (List PyStr) := do
  if found.2.truthy && name.truthy then
    let bucket ← found.2.getD kind.bucket (.dict [])
    if ← isMissing name bucket then pure [notFoundText R kind name found.1 piece] else pure []
  else pure []

/-- A step in `validate_flow`. -/
def mcpStep (kind : BucketKind) (piece name : PyValue) : BuilderM (List PyStr) :=
  if piece.truthy then do
    let found ← resolvePieceOf R piece
    evalPy (mcpErrors R kind piece name found)
  else pure []

/-- The loop over the actions. -/
def mcpActions : List Fields → BuilderM (List PyStr)
  | [] => pure []
  | a :: as => do
    let errors ← mcpStep R actionKind (field a "piece" (py "")) (field a "action_name" (py ""))
    let rest ← mcpActions as
    pure (errors ++ rest)

/-- `validate_flow`: the flow is valid if there are no errors. -/
def mcpValidateFlow (body : ValidateBody) : BuilderM (List PyStr) := do
  let first ← mcpStep R triggerKind (field body.trigger "piece" (py ""))
    (field body.trigger "trigger_name" (py ""))
  let rest ← mcpActions R body.actions
  pure (first ++ rest)

end Checks

/-! ### Steps without a state -/

section Outcomes

variable {R : PyRuntime} {answer : CatalogQuery → Except EngineError PyValue}
  {label nameField : PyStr} {piece name : PyValue} {kind : BucketKind} {found : PyStr × PyValue}
  {errorsOf : PyStr × PyValue → Except PyError (List PyStr)} {a : Fields} {as : List Fields}

theorem stateless_resolvePieceOf (piece : PyValue) : Stateless (resolvePieceOf R piece) := by
  cases piece with
  | str name => exact stateless_autoResolvePiece name
  | _ => exact stateless_evalPy _

variable (R answer) in
/-- What the look-up of a piece comes to. -/
def lookupPiece (piece : PyValue) : Except EngineError (PyStr × PyValue) :=
  (resolvePieceOf R piece).against answer ⟨1, []⟩

theorem stateless_v2Step : Stateless (v2Step R label nameField piece name errorsOf) := by
  rw [v2Step]
  split
  · refine .bind (.handle ?_ fun e ↦ stateless_pure _) fun _ ↦ stateless_pure _
    exact .bind (stateless_resolvePieceOf piece) fun _ ↦ stateless_evalPy _
  · exact stateless_pure _

theorem stateless_v2Actions (i : ℕ) (as : List Fields) : Stateless (v2Actions R i as) := by
  induction as generalizing i with
  | nil => exact stateless_pure _
  | cons a as ih =>
    exact .bind stateless_v2Step fun _ ↦ .bind (ih (i + 1)) fun _ ↦ stateless_pure _

theorem stateless_mcpStep : Stateless (mcpStep R kind piece name) := by
  rw [mcpStep]
  split
  · exact .bind (stateless_resolvePieceOf piece) fun _ ↦ stateless_evalPy _
  · exact stateless_pure _

theorem stateless_mcpActions (as : List Fields) : Stateless (mcpActions R as) := by
  induction as with
  | nil => exact stateless_pure _
  | cons a as ih => exact .bind stateless_mcpStep fun _ ↦ .bind ih fun _ ↦ stateless_pure _

/-- **A step over REST** has no errors exactly when its piece and its name are given and the look-up
leads to none. -/
theorem against_v2Step (label nameField : PyStr) (piece name : PyValue)
    (errorsOf : PyStr × PyValue → Except PyError (List PyStr)) : ∃ errors,
    (v2Step R label nameField piece name errorsOf).against answer ⟨1, []⟩ = .ok errors ∧
      (errors = [] ↔ piece.truthy = true ∧ name.truthy = true ∧
        ∃ found, lookupPiece R answer piece = .ok found ∧ errorsOf found = .ok []) := by
  rw [v2Step]
  rcases hpiece : piece.truthy with _ | _
  · refine ⟨_, rfl, iff_of_false ?_ ?_⟩
    · simp
    · simp
  simp only [if_true, List.nil_append]
  have hmiddle : Dialogue.against (do
      let found ← resolvePieceOf R piece
      evalPy (errorsOf found) : BuilderM (List PyStr)) answer ⟨1, []⟩ =
        lookupPiece R answer piece >>= fun found ↦ (errorsOf found).mapError .py :=
    against_bind (stateless_resolvePieceOf piece)
  have hstate : Stateless (do
      let found ← resolvePieceOf R piece
      evalPy (errorsOf found) : BuilderM (List PyStr)) :=
    .bind (stateless_resolvePieceOf piece) fun _ ↦ stateless_evalPy _
  rw [against_bind (hstate.handle fun e ↦ stateless_pure _), against_handle hstate, hmiddle]
  have hname : (if name.truthy = true then [] else
      [label ++ text "." ++ nameField ++ text " is required"]) = [] ↔ name.truthy = true := by
    cases name.truthy <;> simp
  rcases hlookup : lookupPiece R answer piece with e | found
  · refine ⟨_, rfl, iff_of_false (by simp) ?_⟩
    rintro ⟨-, -, found, hfound, -⟩
    cases hfound
  rcases herrors : errorsOf found with e | errors
  · have hraise : (Except.ok found >>= fun found ↦ (errorsOf found).mapError EngineError.py) =
        .error (.py e) := by
      show (errorsOf found).mapError EngineError.py = _
      rw [herrors]
      rfl
    rw [hraise]
    refine ⟨_, rfl, iff_of_false (by simp) ?_⟩
    rintro ⟨-, -, found', hfound, hnone⟩
    obtain rfl := Except.ok.inj hfound
    rw [herrors] at hnone
    cases hnone
  · have hreturn : (Except.ok found >>= fun found ↦ (errorsOf found).mapError EngineError.py) =
        .ok errors := by
      show (errorsOf found).mapError EngineError.py = _
      rw [herrors]
      rfl
    rw [hreturn]
    refine ⟨_, rfl, ?_⟩
    rw [List.append_eq_nil_iff, hname]
    constructor
    · rintro ⟨hn, rfl⟩
      exact ⟨trivial, hn, found, rfl, herrors⟩
    · rintro ⟨-, hn, found', hfound, hnone⟩
      obtain rfl := Except.ok.inj hfound
      rw [herrors] at hnone
      exact ⟨hn, Except.ok.inj hnone⟩

end Outcomes

end Siyadah
