import DiagramStudio.Diagram.Edge
import DiagramStudio.Diagram.Node
import DiagramStudio.Json.Printer

/-!
# Diagrams and their written form

A diagram is its nodes and its edges, without anything that the editor keeps for itself. Written
as JSON, the members stand in a fixed order, optional ones are left out when there is nothing to
say, and the members that were kept follow the others.
-/

namespace DiagramStudio

/-- A diagram. -/
structure Diagram where
  nodes : List Node := []
  edges : List Edge := []
deriving Repr, Inhabited

/-- Whether the diagram holds nothing (`is_empty`). -/
def Diagram.isEmpty (diagram : Diagram) : Bool := diagram.nodes.isEmpty && diagram.edges.isEmpty

/-! ## Written form -/

/-- A position, written. -/
def Position.json (position : Position) : Json :=
  .obj [("x", .ofFloat position.x), ("y", .ofFloat position.y)]

/-- A style, written. -/
def NodeStyle.json (style : NodeStyle) : Json :=
  .obj (Json.memberIf "width" (style.width.map .ofFloat) ++
    Json.memberIf "height" (style.height.map .ofFloat) ++
    Json.memberIf "zIndex" (style.zIndex.map fun z => .ofInt z.toInt))

/-- The members of a node's data that are understood here. -/
def NodeData.ownMembers (data : NodeData) : List (String × Json) :=
  ("label", .str data.label) :: Json.memberIf "type" (data.category.map .str) ++
    Json.memberIf "color" (data.color.map .str) ++
    Json.memberIf "icon" (data.icon.map .str) ++
    Json.memberIf "customIcon" (data.customIcon.map .str) ++
    Json.memberIf "port" (data.port.map .str) ++
    Json.memberIf "dbName" (data.dbName.map .str)

/-- A node's data, written. -/
def NodeData.json (data : NodeData) : Json := .obj (data.ownMembers ++ data.extra)

/-- A node, written. -/
def Node.json (node : Node) : Json :=
  .obj ([("id", .str node.id), ("type", .str node.kind.name), ("position", node.position.json),
      ("data", node.data.json)] ++
    Json.memberIf "style" (node.style.map NodeStyle.json))

/-- The members of an edge's data that are understood here. -/
def EdgeData.ownMembers (data : EdgeData) : List (String × Json) :=
  Json.memberIf "tls" (if data.tls then some (.bool true) else none) ++
    Json.memberIf "tlsVersion" (data.tlsVersion.map fun version => .str version.name) ++
    Json.memberIf "tlsCert" (data.tlsCert.map .str) ++
    Json.memberIf "tlsKey" (data.tlsKey.map .str)

/-- An edge's data, written. -/
def EdgeData.json (data : EdgeData) : Json := .obj (data.ownMembers ++ data.extra)

/-- An edge, written. -/
def Edge.json (edge : Edge) : Json :=
  .obj ([("id", .str edge.id), ("source", .str edge.source), ("target", .str edge.target)] ++
    Json.memberIf "sourceHandle" (edge.sourceHandle.map .str) ++
    Json.memberIf "targetHandle" (edge.targetHandle.map .str) ++
    [("type", .str edge.type)] ++
    Json.memberIf "data" (if edge.data.isEmpty then none else some edge.data.json))

/-- The members of a diagram, written. -/
def Diagram.members (diagram : Diagram) : List (String × Json) :=
  [("nodes", .arr (diagram.nodes.map Node.json)), ("edges", .arr (diagram.edges.map Edge.json))]

/-- A diagram, written. -/
def Diagram.json (diagram : Diagram) : Json := .obj diagram.members

end DiagramStudio
