import DiagramStudio.Canvas.Payload
import DiagramStudio.Canvas.View

/-!
# The canvas

The graph, the view on it, and the one element that is selected. The selection is a tag and an id,
so that an edge is told apart from a node of the same id; what is selected is looked up in the
graph.

Two counters tell others that something happened: the epoch counts the changes of the selection,
also to the same element again, and the generation counts the diagrams that were loaded. Both wrap
around.

The name that a gesture has in the interface of the editor stands in parentheses.
-/

namespace DiagramStudio

/-- The selected element. -/
inductive Selection where
  | none
  | node (id : String)
  | edge (id : String)
deriving Repr, DecidableEq, Inhabited

/-- The id of a selection (`id`). -/
def Selection.id? : Selection → Option String
  | .none => Option.none
  | .node id => some id
  | .edge id => some id

/-- The selected element, as it is in the graph. -/
inductive Selected where
  | node (node : Node)
  | edge (edge : Edge)
deriving Repr

/-- The canvas of the editor. -/
structure Canvas where
  graph : Graph := {}
  view : View Float := .initial
  selection : Selection := .none
  /-- Counts the changes of the selection (`selection_epoch`). -/
  epoch : UInt64 := 0
  /-- Counts the diagrams that were loaded (`load_generation`). -/
  generation : UInt64 := 0
deriving Repr, Inhabited

namespace Canvas

/-- The canvas of a graph, with nothing selected (`with_graph`). -/
def ofGraph (graph : Graph) : Canvas := { graph }

/-- The selected element, if it is still there (`selected`). -/
def selected (canvas : Canvas) : Option Selected :=
  match canvas.selection with
  | .none => none
  | .node id => (canvas.graph.node? id).map .node
  | .edge id => (canvas.graph.edge? id).map .edge

/-- The canvas with a changed graph; the result of the change goes along. -/
def withGraph (canvas : Canvas) (changed : Graph × α) : Canvas × α :=
  ({ canvas with graph := changed.1 }, changed.2)

/-! ## Gestures -/

/-- Drops a payload at a point of the screen (`drop_payload`). A payload without a type is
ignored. -/
def drop (canvas : Canvas) (payload : DragPayload) (point : Point Float) :
    Canvas × Option String :=
  if payload.nodeType = "" then (canvas, none)
  else canvas.withGraph (canvas.graph.addNode (payload.draft (canvas.view.toCanvas point)))

/-- Draws an edge (`connect`). -/
def connect (canvas : Canvas) (link : Connection) : Canvas × Option String :=
  canvas.withGraph (canvas.graph.addEdge link)

/-- Moves a node (`drag_node`). -/
def drag (canvas : Canvas) (id : String) (position : Position) : Canvas × Bool :=
  canvas.withGraph (canvas.graph.moveNode id position)

/-- Resizes a group (`resize_group`). -/
def resize (canvas : Canvas) (id : String) (size : Size) : Canvas × Bool :=
  canvas.withGraph (canvas.graph.resizeNode id size)

/-- Patches the data of a node (`update_node_data`). -/
def updateNode (canvas : Canvas) (id : String) (patch : NodePatch) : Canvas × Bool :=
  canvas.withGraph (canvas.graph.updateNode id patch)

/-- Patches the data of an edge (`update_edge_data`). -/
def updateEdge (canvas : Canvas) (id : String) (patch : EdgePatch) : Canvas × Bool :=
  canvas.withGraph (canvas.graph.updateEdge id patch)

/-- Pans, zooms, or moves the window (`pan_by`, `zoom_to`, `set_viewport`, `set_bounds_origin`). -/
def look (canvas : Canvas) (move : View.Move Float) : Canvas :=
  { canvas with view := canvas.view.move move }

/-! ## Selection -/

/-- Selects something, or nothing (`select`). -/
def select (canvas : Canvas) (selection : Selection) : Canvas :=
  { canvas with selection, epoch := canvas.epoch + 1 }

/-- Selects nothing (`clear_selection`, `click_pane`). -/
def deselect (canvas : Canvas) : Canvas := canvas.select .none

/-- Selects a node that is there (`click_node`). -/
def clickNode (canvas : Canvas) (id : String) : Canvas × Bool :=
  if canvas.graph.hasNode id then (canvas.select (.node id), true) else (canvas, false)

/-- Selects an edge that is there (`click_edge`). -/
def clickEdge (canvas : Canvas) (id : String) : Canvas × Bool :=
  if canvas.graph.hasEdge id then (canvas.select (.edge id), true) else (canvas, false)

/-- Deletes the selected element and selects nothing (`delete_selection`). -/
def deleteSelection (canvas : Canvas) : Canvas × Option Removed :=
  match canvas.selection with
  | .none => (canvas.deselect, none)
  | .node id => canvas.deselect.withGraph (canvas.graph.deleteElement id)
  | .edge id =>
    let (graph, removed) := canvas.graph.deleteEdge id
    ({ canvas.deselect with graph }, if removed then some (.edge id) else none)

/-- Deletes an edge (`remove_edge`). If it is selected, nothing is selected afterwards. -/
def removeEdge (canvas : Canvas) (id : String) : Canvas × Bool :=
  let cleared := if canvas.selection = .edge id then canvas.deselect else canvas
  cleared.withGraph (canvas.graph.deleteEdge id)

/-! ## Loading -/

/-- Installs a diagram and selects nothing (`load_diagram`). -/
def load (canvas : Canvas) (diagram : Diagram) : Canvas :=
  { canvas.deselect with
    graph := canvas.graph.replaceAll diagram
    generation := canvas.generation + 1 }

end Canvas

end DiagramStudio
