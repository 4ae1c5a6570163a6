import SiyadahOrchestrator.Build.Catalog

/-!
# A flow as a graph

`_flow_to_graph` draws a flow for the front end: one node for each step that its walker comes to,
one edge for each link that it follows. The walker follows `nextAction`, `branches` and `children`.
-/

namespace Siyadah

open PyValue

/-- A node of the drawing. -/
structure GraphNode where
  id : PyStr
  kind : PyStr
  type : PyValue
  piece : PyValue
  action : PyValue
  displayName : PyValue

/-- An edge of the drawing, which may have a label. -/
structure GraphEdge where
  source : PyStr
  target : PyStr
  label : Option PyValue

/-- What has been drawn so far. -/
structure FlowDrawing where
  nodes : List GraphNode
  edges : List GraphEdge

/-- `f"n{i}"`. -/
def nodeId (i : ℕ) : PyStr := text "n" ++ digits i

/-- The id of the next node: the counter of `_nid` is the number of nodes. -/
def FlowDrawing.nextId (g : FlowDrawing) : PyStr := nodeId (g.nodes.length + 1)

/-- What `_node` notes of a step. -/
def graphNode (id kind : PyStr) (step : PyValue) : Except PyError GraphNode := do
  let settings ← step.get "settings"
  let type ← step.get "type"
  let name ← (settings.orElse (.dict [])).get "pieceName"
  let piece ← name.orGet step "pieceName"
  let actionName ← (settings.orElse (.dict [])).get "actionName"
  let action ← actionName.orGet (settings.orElse (.dict [])) "triggerName"
  let display ← step.get "displayName"
  let displayName ← display.orGet step "name"
  pure { id, kind, type, piece, action, displayName }

/-- `_node`. -/
def FlowDrawing.node (g : FlowDrawing) (step : PyValue) (kind : PyStr) (parent : Option PyStr) :
    Except PyError FlowDrawing := do
  let node ← graphNode g.nextId kind step
  pure { nodes := g.nodes ++ [node]
         edges := g.edges ++ parent.toList.map fun source ↦ ⟨source, g.nextId, none⟩ }

/-- The last edge from a node that has no label, in a list that begins with the last edge. -/
def labelFirst (nid : PyStr) (label : PyValue) : List GraphEdge → List GraphEdge
  | [] => []
  | e :: es =>
    if e.source = nid ∧ e.label.isNone then { e with label := some label } :: es
    else e :: labelFirst nid label es

/-- The annotation of the last edge with the label of a branch. -/
def FlowDrawing.annotate (g : FlowDrawing) (nid : PyStr) (label : PyValue) : FlowDrawing :=
  { g with edges := (labelFirst nid label g.edges.reverse).reverse }

section Runtime

variable (R : PyRuntime)

/-- The `kind` of a step below the trigger. -/
def graphKind (type : PyValue) : Except PyError PyStr :=
  if type.isStr (text "PIECE") then .ok (text "piece")
  else
    match type with
    | .str s => .ok (R.lower s)
    | _ => .error .attributeError

/-- `_walk` in `_flow_to_graph`. -/
def drawStep (step : PyValue) (parent : PyStr) (g : FlowDrawing) : Except PyError FlowDrawing :=
  if !step.isDict then .ok g
  else do
    let type ← step.getD "type" (py "step")
    let kind ← graphKind R type
    let drawn ← g.node step kind (some parent)
    let next ← step.child "nextAction" Leaf.null
    let afterNext ← (if next.1.truthy then drawStep next.1 g.nextId drawn else .ok drawn)
    let br ← step.child "branches" Leaf.null
    let branches ← br.orNil.1.items
    let afterBranches ← branches.foldlM (fun h b ↦ do
      let name ← b.1.get "name"
      let label ← name.orGet b.1 "branchName"
      let branchNext ← b.1.child "nextAction" Leaf.null
      let below ← (if branchNext.1.truthy then drawStep branchNext.1 g.nextId h
        else drawStep b.1 g.nextId h)
      pure (if branchNext.1.truthy || b.1.truthy then below.annotate g.nextId label else below))
      afterNext
    let ch ← step.child "children" Leaf.null
    let children ← ch.orNil.1.items
    children.foldlM (fun h c ↦ drawStep c.1 g.nextId h) afterBranches
termination_by step.weight
decreasing_by
  · exact next.2
  · exact branchNext.2.trans (br.lt_of_item b)
  · exact br.lt_of_item b
  · exact ch.lt_of_item c

/-- What `_flow_to_graph` returns. -/
structure FlowView where
  flowId : PyValue
  displayName : PyValue
  triggerType : PyValue
  status : PyValue
  drawing : FlowDrawing

/-- The drawing, from the trigger on. -/
def drawTrigger (trigger : PyValue) : Except PyError FlowDrawing := do
  let drawn ← FlowDrawing.node ⟨[], []⟩ trigger (text "trigger") none
  let next ← trigger.get "nextAction"
  if next.truthy then drawStep R next (nodeId 1) drawn else pure drawn

/-- `_flow_to_graph`. -/
def flowToGraph (flow : PyValue) : Except PyError FlowView := do
  let version ← flow.get "version"
  let versionTrigger ← (version.orElse (.dict [])).get "trigger"
  let found ← versionTrigger.orGet flow "trigger"
  let drawing ← drawTrigger R (found.orElse (.dict []))
  let flowId ← flow.get "id"
  let versionName ← (version.orElse (.dict [])).get "displayName"
  let displayName ← versionName.orGet flow "displayName"
  let triggerType ← (found.orElse (.dict [])).get "type"
  let status ← flow.get "status"
  pure { flowId, displayName, triggerType, status, drawing }

end Runtime

end Siyadah
