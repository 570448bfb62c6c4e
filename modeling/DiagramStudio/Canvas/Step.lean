import DiagramStudio.Canvas.Basic
import DiagramStudio.Graph.Step

/-!
# Runs of a canvas

The gestures on a canvas as a type.
-/

namespace DiagramStudio

namespace Canvas

/-- A gesture on the canvas. -/
inductive Step where
  | drop (payload : DragPayload) (point : Point Float)
  | connect (link : Connection)
  | drag (id : String) (position : Position)
  | resize (id : String) (size : Size)
  | clickNode (id : String)
  | clickEdge (id : String)
  | clickPane
  | deleteSelection
  | removeEdge (id : String)
  | look (move : View.Move Float)
  | updateNode (id : String) (patch : NodePatch)
  | updateEdge (id : String) (patch : EdgePatch)
  | load (diagram : Diagram)

/-- The canvas after a gesture, and the answer. -/
def step (canvas : Canvas) : Step → Canvas × Outcome
  | .drop payload point => (canvas.drop payload point).map id .added
  | .connect link => (canvas.connect link).map id .added
  | .drag node position => (canvas.drag node position).map id .accepted
  | .resize node size => (canvas.resize node size).map id .accepted
  | .clickNode node => (canvas.clickNode node).map id .accepted
  | .clickEdge edge => (canvas.clickEdge edge).map id .accepted
  | .clickPane => (canvas.deselect, .nothing)
  | .deleteSelection => canvas.deleteSelection.map id .removed
  | .removeEdge edge => (canvas.removeEdge edge).map id .accepted
  | .look move => (canvas.look move, .nothing)
  | .updateNode node patch => (canvas.updateNode node patch).map id .accepted
  | .updateEdge edge patch => (canvas.updateEdge edge patch).map id .accepted
  | .load diagram => (canvas.load diagram, .nothing)

end Canvas

end DiagramStudio
