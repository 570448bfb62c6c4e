import DiagramStudio.Diagram.Node
import DiagramStudio.Diagram.Tls
import DiagramStudio.Document.Basic

/-!
# The schema of diagrams

A JSON Schema for the documents in which diagrams are written, for those who generate them.
-/

namespace DiagramStudio

namespace Schema

/-- A schema with sorted keywords. -/
def schema (keywords : List (String × Json)) : Json :=
  .obj (keywords.foldl (fun sorted k => Json.insertMember k.1 k.2 sorted) [])

/-- A keyword that describes something to the reader. -/
def about (text : String) : String × Json := ("description", .str text)

/-- The schema of a definition. -/
def ref (name : String) : String × Json := ("$ref", .str ("#/$defs/" ++ name))

/-- A simple type. -/
def type (name : String) : String × Json := ("type", .str name)

/-- A simple type, or `null`. -/
def typeOrNull (name : String) : String × Json := ("type", Json.ofTexts [name, "null"])

/-- A default value. -/
def default (value : Json) : String × Json := ("default", value)

/-- A definition, or `null`. -/
def refOrNull (name : String) : Json :=
  schema [("anyOf", .arr [schema [ref name], schema [type "null"]])]

/-- A text, or `null`. -/
def textOrNull : Json := schema [typeOrNull "string"]

/-- A record with these properties. -/
def record (properties : List (String × Json)) (others : List (String × Json)) : Json :=
  schema ([type "object", ("properties", schema properties)] ++ others)

/-- The properties that a record must have. -/
def required (names : List String) : String × Json := ("required", Json.ofTexts names)

/-- A record may have other properties. -/
def isOpen : String × Json := ("additionalProperties", .bool true)

/-- A choice of texts. -/
def choice (names : List String) (others : List (String × Json)) : Json :=
  schema ([type "string", ("enum", Json.ofTexts names)] ++ others)

/-- A list of a definition's values, empty by default. -/
def listOf (name : String) : Json :=
  schema [type "array", ("items", schema [ref name]), default (.arr [])]

/-- A coordinate. -/
def coordinate : Json := schema [type "number", ("format", .str "double")]

/-- The length of a side, or `null`. -/
def sideOrNull : Json := schema [typeOrNull "number", ("format", .str "double")]

/-- The schema of a node's data. -/
def nodeData : Json :=
  record [
    ("label", schema [type "string", default (.str "")]),
    ("type", schema [typeOrNull "string",
      about "Semantic category, free text (e.g. \"Database\", \"Microservice\")."]),
    ("color", textOrNull),
    ("icon", textOrNull),
    ("customIcon", schema [typeOrNull "string",
      about "Embedded image reference; wins over `icon` when present."]),
    ("port", textOrNull),
    ("dbName", textOrNull)] [isOpen]

/-- The schema of a style. -/
def nodeStyle : Json :=
  record [
    ("width", sideOrNull),
    ("height", sideOrNull),
    ("zIndex", schema [typeOrNull "integer", ("format", .str "int32"),
      about "Unset means the kind's default stacking order."])] []

/-- The schema of a kind of node. -/
def nodeKind : Json :=
  choice [NodeKind.custom.name, NodeKind.group.name] [
    about ("Which renderer a node uses. Anything that is not `group` renders as a\n" ++
      "regular component card, so unknown kinds from generated documents read as\n`Custom`.")]

/-- The schema of a position. -/
def position : Json := record [("x", coordinate), ("y", coordinate)] [required ["x", "y"]]

/-- The schema of a node. -/
def node : Json :=
  record [
    ("id", schema [type "string"]),
    ("type", schema [ref "NodeKind", default (.str NodeKind.custom.name)]),
    ("position", schema [ref "Position",
      default (.obj [("x", .ofFloat 0.0), ("y", .ofFloat 0.0)])]),
    ("data", schema [ref "NodeData", default (.obj [("label", .str "")])]),
    ("style", refOrNull "NodeStyle")] [
    required ["id"], about "A node placed on the canvas. Matches ReactFlow's Node structure."]

/-- The schema of a TLS version. -/
def tlsVersion : Json := choice (TlsVersion.all.map TlsVersion.name) []

/-- The schema of an edge's data. -/
def edgeData : Json :=
  record [
    ("tls", schema [type "boolean"]),
    ("tlsVersion", refOrNull "TlsVersion"),
    ("tlsCert", textOrNull),
    ("tlsKey", textOrNull)] [isOpen]

/-- The schema of an edge. -/
def edge : Json :=
  record [
    ("id", schema [type "string"]),
    ("source", schema [type "string"]),
    ("target", schema [type "string"]),
    ("sourceHandle", textOrNull),
    ("targetHandle", textOrNull),
    ("type", schema [type "string", default (.str "custom")]),
    ("data", schema [ref "EdgeData"])] [
    required ["id", "source", "target"],
    about "A directed connection. Matches ReactFlow's Edge structure."]

/-- The definitions to which the schema refers. -/
def definitions : Json :=
  schema [("Edge", edge), ("EdgeData", edgeData), ("Node", node), ("NodeData", nodeData),
    ("NodeKind", nodeKind), ("NodeStyle", nodeStyle), ("Position", position),
    ("TlsVersion", tlsVersion)]

/-- The schema of a diagram (`diagram_schema`). -/
def diagram : Json :=
  record [("nodes", listOf "Node"), ("edges", listOf "Edge")] [
    ("$schema", .str "https://json-schema.org/draft/2020-12/schema"),
    ("title", .str "Diagram"),
    about ("The serializable graph: everything the code generator needs and nothing\n" ++
      "the editor keeps for itself (selection, viewport)."),
    ("$defs", definitions)]

end Schema

end DiagramStudio
