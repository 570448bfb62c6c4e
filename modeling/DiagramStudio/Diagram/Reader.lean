import DiagramStudio.Diagram.Basic
import DiagramStudio.Document.Shape

/-!
# Reading diagrams

The shapes of a diagram's parts. Two values are read leniently, because documents are often
generated: a port may be a number, and a TLS version may be anything, which is no version if it
spells none.
-/

namespace DiagramStudio

/-- Keeps a member that is no field. -/
def keepMember (set : String → Json → α → α) : Shape.Others α := fun source name doc record => do
  let value ← doc.json source
  return set name value record

/-- The shape of a position. -/
def Position.shape : Shape Position where
  name := "Position"
  blank := .origin
  fields := [
    .must "x" (Field.plain Doc.double) fun x p => { p with x },
    .must "y" (Field.plain Doc.double) fun y p => { p with y }]

/-- The shape of a style. -/
def NodeStyle.shape : Shape NodeStyle where
  name := "NodeStyle"
  blank := {}
  fields := [
    .may "width" (Field.plain (Doc.optional Doc.double)) fun width s => { s with width },
    .may "height" (Field.plain (Doc.optional Doc.double)) fun height s => { s with height },
    .may "zIndex" (Field.plain (Doc.optional Doc.int32)) fun zIndex s => { s with zIndex }]

/-- Reads a port: a text, a number, or nothing (`port_from_string_or_number`). -/
def readPort (source : Source) (doc : Doc) : Read (Option String) := do
  match ← doc.json source with
  | .null => return none
  | .str s => return some s
  | .num n => return some n.text
  | value => throw (.invalidPort value)

/-- An optional text. -/
def optionalText : Source → Doc → Read (Option String) := Field.plain (Doc.optional Doc.text)

/-- The shape of a node's data. -/
def NodeData.shape : Shape NodeData where
  name := "NodeData"
  blank := {}
  fields := [
    .may "label" (Field.plain Doc.text) fun label d => { d with label },
    .may "type" optionalText fun category d => { d with category },
    .may "color" optionalText fun color d => { d with color },
    .may "icon" optionalText fun icon d => { d with icon },
    .may "customIcon" optionalText fun customIcon d => { d with customIcon },
    .may "port" readPort fun port d => { d with port },
    .may "dbName" optionalText fun dbName d => { d with dbName }]

/-- Reads a node's data. -/
def NodeData.read : Source → Doc → Read NodeData :=
  NodeData.shape.readOpen (keepMember fun name value d =>
    { d with extra := Json.insertMember name value d.extra })

/-- Reads an optional style. -/
def NodeStyle.readOptional (source : Source) : Doc → Read (Option NodeStyle) :=
  Doc.optional (NodeStyle.shape.read source)

/-- The shape of a node. -/
def Node.shape : Shape Node where
  name := "Node"
  blank := ⟨"", .custom, .origin, {}, none⟩
  fields := [
    .must "id" (Field.plain Doc.text) fun id n => { n with id },
    .may "type" (Field.plain fun doc => doc.text.map NodeKind.ofName) fun kind n =>
      { n with kind },
    .may "position" Position.shape.read fun position n => { n with position },
    .may "data" NodeData.read fun data n => { n with data },
    .may "style" NodeStyle.readOptional fun style n => { n with style }]

/-- Reads a node. -/
def Node.read : Source → Doc → Read Node := Node.shape.read

/-- The text in which a TLS version is looked for. -/
def versionText : Json → String
  | .str s => s
  | value => value.compact

/-- Reads a TLS version out of any value (`lenient_tls_version`). -/
def readVersion (source : Source) (doc : Doc) : Read (Option TlsVersion) := do
  match ← doc.json source with
  | .null => return none
  | value => return TlsVersion.ofSpelling? (versionText value)

/-- The shape of an edge's data. -/
def EdgeData.shape : Shape EdgeData where
  name := "EdgeData"
  blank := {}
  fields := [
    .may "tls" (Field.plain Doc.truth) fun tls d => { d with tls },
    .may "tlsVersion" readVersion fun tlsVersion d => { d with tlsVersion },
    .may "tlsCert" optionalText fun tlsCert d => { d with tlsCert },
    .may "tlsKey" optionalText fun tlsKey d => { d with tlsKey }]

/-- Reads an edge's data. -/
def EdgeData.read : Source → Doc → Read EdgeData :=
  EdgeData.shape.readOpen (keepMember fun name value d =>
    { d with extra := Json.insertMember name value d.extra })

/-- The shape of an edge. -/
def Edge.shape : Shape Edge where
  name := "Edge"
  blank := ⟨"", "", "", none, none, Edge.drawnType, {}⟩
  fields := [
    .must "id" (Field.plain Doc.text) fun id e => { e with id },
    .must "source" (Field.plain Doc.text) fun source e => { e with source },
    .must "target" (Field.plain Doc.text) fun target e => { e with target },
    .may "sourceHandle" optionalText fun sourceHandle e => { e with sourceHandle },
    .may "targetHandle" optionalText fun targetHandle e => { e with targetHandle },
    .may "type" (Field.plain Doc.text) fun type e => { e with type },
    .may "data" EdgeData.read fun data e => { e with data }]

/-- Reads an edge. -/
def Edge.read : Source → Doc → Read Edge := Edge.shape.read

/-- The shape of a diagram. -/
def Diagram.shape : Shape Diagram where
  name := "Diagram"
  blank := {}
  fields := [
    .may "nodes" (Doc.readList Node.read) fun nodes d => { d with nodes },
    .may "edges" (Doc.readList Edge.read) fun edges d => { d with edges }]

/-- Reads a diagram. -/
def Diagram.read : Source → Doc → Read Diagram := Diagram.shape.read

/-- The diagram that a text shows (`from_json`). -/
def Diagram.ofText (text : String) : Read Diagram := readText Diagram.read text

/-- The diagram that a value shows. -/
def Diagram.ofJson (value : Json) : Read Diagram := readValue Diagram.read value

end DiagramStudio
