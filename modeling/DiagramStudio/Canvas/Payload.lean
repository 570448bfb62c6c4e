import DiagramStudio.Diagram.Reader
import DiagramStudio.Graph.Basic

/-!
# Drag payloads

What a drag from the palette carries to the canvas, and the node that it is dropped as.
-/

namespace DiagramStudio

/-- What a drag from the palette carries. -/
structure DragPayload where
  nodeType : String
  label : String := ""
  icon : Option String := none
  color : Option String := none
deriving Repr, DecidableEq, Inhabited

namespace DragPayload

/-- The shape of a payload. -/
def shape : Shape DragPayload where
  name := "DragPayload"
  blank := { nodeType := "" }
  fields := [
    .must "nodeType" (Field.plain Doc.text) fun nodeType p => { p with nodeType },
    .may "label" (Field.plain Doc.text) fun label p => { p with label },
    .may "icon" optionalText fun icon p => { p with icon },
    .may "color" optionalText fun color p => { p with color }]

/-- Reads a payload. -/
def read : Source → Doc → Read DragPayload := shape.read

/-- A payload, written. -/
def json (payload : DragPayload) : Json :=
  .obj ([("nodeType", .str payload.nodeType), ("label", .str payload.label)] ++
    Json.memberIf "icon" (payload.icon.map .str) ++
    Json.memberIf "color" (payload.color.map .str))

/-- The data of the node that a payload is dropped as. An empty label is filled with the type. -/
def data (payload : DragPayload) : NodeData where
  label := if payload.label = "" then payload.nodeType else payload.label
  category := some payload.nodeType
  icon := payload.icon
  color := payload.color

/-- The node that a payload is dropped as (`into_node`). -/
def draft (payload : DragPayload) (position : Position) : NodeDraft :=
  match NodeKind.ofName payload.nodeType with
  | .group => .group position payload.data
  | .custom => .custom position payload.data

end DragPayload

end DiagramStudio
