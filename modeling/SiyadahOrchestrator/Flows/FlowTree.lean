import SiyadahOrchestrator.Foundations.PyValue

/-!
# Walkers over a flow tree

A flow is a tree of steps: a step has a `nextAction`, a loop a `firstLoopAction`, a router
`children`. The walkers here read it as untyped JSON, so each of them is fallible: a node that is
not a dictionary, or a field of an unexpected shape, raises where the source would.

* `walkFlowTree` (`_walk_flow_tree`) lists the steps, with the flag `valid` that ActivePieces
  reports for each of them.
* `collectPieces` (`_collect_pieces`) collects the short names of the pieces.
* `extractSheetId` and `extractEmail` look for the first node that has what they want; both are
  `searchTree` with a different test.
-/

namespace Siyadah

open PyValue

/-- A dictionary display. -/
def pyDict (fields : List (String × PyValue)) : PyValue :=
  .dict (fields.map fun f ↦ (PyStr.ofString f.1, f.2))

theorem entry_pyDict (fields : List (String × PyValue)) (key : String) :
    (pyDict fields).entry key = fields.lookup key := by
  show (fields.map _).lookup (PyStr.ofString key) = _
  induction fields with
  | nil => rfl
  | cons f fields ih =>
    rw [List.map_cons, List.lookup_cons, List.lookup_cons, ih]
    have hkey : (PyStr.ofString key == PyStr.ofString f.1) = (key == f.1) := by
      rw [Bool.eq_iff_iff, beq_iff_eq, beq_iff_eq]
      exact PyStr.ofString_injective.eq_iff
    rw [hkey]

/-! ### The steps of a flow -/

/-- The entries of a step's `info` that depend on its type. -/
inductive StepDetail where
  | router (branches childrenCount : ℕ)
  | loop (items : PyValue) (hasLoopAction : Bool)
  | plain (piece action : PyValue) (nullInputKeys : List PyStr)

/-- The `info` of a step. -/
structure StepInfo where
  name : PyValue
  type : PyValue
  displayName : PyValue
  depth : ℕ
  valid : PyValue
  detail : StepDetail

/-- `_null_input_keys`. -/
def nullInputKeys : PyValue → List PyStr
  | .dict fields =>
    (fields.filter fun f ↦ f.1 ≠ PyStr.ofString "auth" && f.2.isBlank).map Prod.fst
  | _ => []

/-- `info` without the entries that depend on the type. -/
def stepInfo (node : PyValue) (depth : ℕ) (detail : StepDetail) : Except PyError StepInfo := do
  let name ← node.get "name"
  let type ← node.get "type"
  let displayName ← node.get "displayName"
  let valid ← node.getD "valid" (.bool true)
  pure { name, type, displayName, depth, valid, detail }

/-- `info` of a step that is neither a router nor a loop. -/
def plainInfo (node : PyValue) (depth : ℕ) : Except PyError StepInfo := do
  let settings ← node.getD "settings" (.dict [])
  let piece ← settings.get "pieceName"
  let actionName ← settings.get "actionName"
  let triggerName ← settings.get "triggerName"
  let input ← settings.getD "input" (.dict [])
  stepInfo node depth (.plain piece (actionName.orElse triggerName) (nullInputKeys input))

/-- `walk`: the steps from `node` on, in the order in which they are appended. -/
def walk (node : PyValue) (depth : ℕ) : Except PyError (List StepInfo) :=
  if !node.truthy then .ok []
  else do
    let ntype ← node.getD "type" (py "")
    let next ← node.child "nextAction" Leaf.null
    if ntype.isStr (PyStr.ofString "ROUTER") then
      let settings ← node.getD "settings" (.dict [])
      let branches ← settings.getD "branches" (.list [])
      let ch ← node.child "children" Leaf.nil
      let branchCount ← branches.len
      let children ← ch.1.items
      let info ← stepInfo node depth
        (.router branchCount (children.filter fun c ↦ c.1.truthy).length)
      let below ← children.mapM fun c ↦ walk c.1 (depth + 1)
      let rest ← walk next.1 depth
      pure (info :: below.flatten ++ rest)
    else if ntype.isStr (PyStr.ofString "LOOP_ON_ITEMS") then
      let settings ← node.getD "settings" (.dict [])
      let loopItems ← settings.get "items"
      let first ← node.child "firstLoopAction" Leaf.null
      let info ← stepInfo node depth
        (.loop loopItems (match first.1 with | .null => false | _ => true))
      let below ← walk first.1 (depth + 1)
      let rest ← walk next.1 depth
      pure (info :: below ++ rest)
    else
      let info ← plainInfo node depth
      let rest ← walk next.1 depth
      pure (info :: rest)
termination_by node.weight
decreasing_by
  · exact Nat.lt_of_le_of_lt c.2 ch.2
  · exact next.2
  · exact first.2
  · exact next.2
  · exact next.2

/-- What `_walk_flow_tree` returns; `total_steps` is the length of `steps`. -/
structure FlowGraph where
  name : PyValue
  status : PyValue
  schemaVersion : PyValue
  triggerType : PyValue
  steps : List StepInfo

/-- `total_steps`. -/
def FlowGraph.totalSteps (g : FlowGraph) : ℕ := g.steps.length

/-- `_walk_flow_tree`. -/
def walkFlowTree (flowData : PyValue) : Except PyError FlowGraph := do
  let version ← flowData.getD "version" (.dict [])
  let trigger ← version.getD "trigger" (.dict [])
  let steps ← walk trigger 0
  let name ← version.get "displayName"
  let status ← flowData.get "status"
  let schemaVersion ← version.get "schemaVersion"
  let triggerType ← trigger.get "type"
  pure { name, status, schemaVersion, triggerType, steps }

/-- The entries of `info` under a step's type. -/
def StepDetail.entries : StepDetail → List (String × PyValue)
  | .router branches childrenCount =>
    [("branches", .int branches), ("children_count", .int childrenCount)]
  | .loop items hasLoopAction => [("items", items), ("hasLoopAction", .bool hasLoopAction)]
  | .plain piece action nullKeys =>
    [("piece", piece), ("action", action), ("null_input_keys", .list (nullKeys.map .str))]

/-- `info`. -/
def StepInfo.asDict (s : StepInfo) : PyValue :=
  pyDict ([("name", s.name), ("type", s.type), ("displayName", s.displayName),
    ("depth", .int s.depth), ("valid", s.valid)] ++ s.detail.entries)

/-- The graph as a value. -/
def FlowGraph.asDict (g : FlowGraph) : PyValue :=
  pyDict [("name", g.name), ("status", g.status), ("schema_version", g.schemaVersion),
    ("trigger_type", g.triggerType), ("steps", .list (g.steps.map StepInfo.asDict)),
    ("total_steps", .int g.totalSteps)]

/-! ### Pieces -/

/-- The prefix of a piece's full name. -/
def piecePrefix : PyStr := PyStr.ofString "@activepieces/piece-"

/-- The short name of the node's piece, if it has a piece. -/
def ownPiece (node : PyValue) : Except PyError (List PyStr) := do
  let settings ← node.getD "settings" (.dict [])
  let pieceName ← settings.getD "pieceName" (py "")
  if !pieceName.truthy then pure []
  else
    match pieceName with
    | .str s => pure [PyStr.removeAll piecePrefix 0 s]
    | _ => .error .attributeError

/-- `_collect_pieces`: what is added to the set, in order. -/
def collectPieces (node : PyValue) : Except PyError (List PyStr) :=
  if !node.truthy || !node.isDict then .ok []
  else do
    let own ← ownPiece node
    let next ← node.child "nextAction" Leaf.null
    let afterNext ← collectPieces next.1
    let first ← node.child "firstLoopAction" Leaf.null
    let afterFirst ← collectPieces first.1
    let ch ← node.child "children" Leaf.null
    let children ← ch.orNil.1.items
    let below ← children.mapM fun c ↦ collectPieces c.1
    pure (own ++ afterNext ++ afterFirst ++ below.flatten)
termination_by node.weight
decreasing_by
  · exact next.2
  · exact first.2
  · exact Nat.lt_of_le_of_lt c.2 ch.orNil.2

/-! ### Searches -/

/-- The search that `_extract_sheet_id` and `_extract_email` share: the first truthy `own node`, a
node before its `nextAction`, its loop body and its children. -/
def searchTree (own : PyValue → Except PyError PyValue) (node : PyValue) : Except PyError PyValue :=
  if !node.truthy || !node.isDict then .ok .null
  else do
    let found ← own node
    if found.truthy then pure found
    else
      let next ← node.child "nextAction" Leaf.null
      let found ← searchTree own next.1
      if found.truthy then pure found
      else
        let first ← node.child "firstLoopAction" Leaf.null
        let found ← searchTree own first.1
        if found.truthy then pure found
        else
          let ch ← node.child "children" Leaf.null
          let children ← ch.orNil.1.items
          children.foldlM
            (fun found c ↦ if found.truthy then pure found else searchTree own c.1) .null
termination_by node.weight
decreasing_by
  · exact next.2
  · exact first.2
  · exact Nat.lt_of_le_of_lt c.2 ch.orNil.2

/-- `str(v).startswith("{{")`: no rendering of another value than a string begins so. -/
def isReference (v : PyValue) : Bool :=
  match v with
  | .str s => (PyStr.ofString "\x7b\x7b").isPrefixOf s
  | _ => false

/-- The spreadsheet that a node of the Google Sheets piece names. -/
def sheetIdOf (node : PyValue) : Except PyError PyValue := do
  let settings ← node.getD "settings" (.dict [])
  let pieceName ← settings.getD "pieceName" (py "")
  if ← pieceName.hasItem (PyStr.ofString "google-sheets") then
    let inp ← settings.getD "input" (.dict [])
    let camel ← inp.get "spreadsheetId"
    let snake ← inp.get "spreadsheet_id"
    let sid := camel.orElse snake
    if sid.truthy && !isReference sid && !sid.isStr (PyStr.ofString "Siyadah Auto-Fill") then
      pure sid
    else pure .null
  else pure .null

/-- `_extract_sheet_id`. -/
def extractSheetId (trigger : PyValue) : Except PyError PyValue := searchTree sheetIdOf trigger

/-- A value that looks like an email address. -/
def isEmail (v : PyValue) : Bool :=
  match v with
  | .str s => s.contains (PyStr.ofString "@") && !isReference v
  | _ => false

/-- The client email that a node's input names. -/
def emailOf (node : PyValue) : Except PyError PyValue := do
  let settings ← node.getD "settings" (.dict [])
  let inp ← settings.getD "input" (.dict [])
  ["email", "to", "recipient", "send_to"].foldlM (fun found key ↦ do
    if found.truthy then pure found
    else
      let val ← inp.get key
      pure (if isEmail val then val else .null)) .null

/-- `_extract_email`. -/
def extractEmail (trigger : PyValue) : Except PyError PyValue := searchTree emailOf trigger

/-! ### The activation payload -/

/-- The parts of the payload that depend on a piece of the flow. -/
def pulseSections : List (String × String × PyValue) :=
  [("gmail", "email", pyDict [("from", py "noreply@siyadah.ai"), ("to", py "test@siyadah.ai"),
      ("subject", py "سيادة — رسالة تفعيل تجريبية"),
      ("body", py "هذه رسالة تفعيل تلقائية من منسق سيادة.")]),
    ("google-sheets", "row", pyDict [("spreadsheet_id", py "SAMPLE_SHEET_ID"),
      ("sheet_name", py "Sheet1"),
      ("values", pyDict [("الاسم", py "عميل تجريبي"), ("البريد", py "test@siyadah.ai"),
        ("الهاتف", py "+966500000000"), ("المبلغ", .float (.finite 100))])]),
    ("slack", "message", pyDict [("channel", py "#general"),
      ("text", py "سيادة — تم تفعيل الأتمتة بنجاح!")]),
    ("hubspot", "contact", pyDict [("email", py "test@siyadah.ai"), ("firstname", py "عميل"),
      ("lastname", py "تجريبي"), ("phone", py "+966500000000")])]

/-- `_build_smart_pulse`. The payload has seven entries from the start, so the last section of the
source, for payloads of at most three, is never added. -/
def buildSmartPulse (timestamp : PyStr) (trigger : PyValue) : Except PyError PyValue := do
  let pieces ← collectPieces trigger
  let base := [("event", py "Siyadah_Activation"), ("status", py "Success"),
    ("timestamp", .str timestamp), ("receiver", .list [py "test@siyadah.ai"]),
    ("subject", py "سيادة — تجربة تفعيل ناجحة"),
    ("body", py "تهانينا! نظام الأتمتة الخاص بك يعمل الآن بكفاءة."),
    ("values", pyDict [("A", py "بيانات تجريبية"), ("B", py "نجاح التفعيل")])]
  let sections := (pulseSections.filter fun s ↦ PyStr.ofString s.1 ∈ pieces).map Prod.snd
  pure (pyDict (base ++ sections))

end Siyadah
