import DiagramStudio.Canvas.Basic
import DiagramStudio.Palette

/-!
# Forms of the inspector

What the inspector shows of the selected element, and the edits that its forms offer. The forms
hold no data of their own.
-/

namespace DiagramStudio

/-- A field of a node that can be edited. -/
inductive NodeField where
  | label
  | type
  | color
  | icon
  | customIcon
  | port
  | dbName
deriving Repr, DecidableEq

/-- The name of a field. -/
def NodeField.name : NodeField → String
  | label => "label"
  | type => "type"
  | color => "color"
  | icon => "icon"
  | customIcon => "customIcon"
  | port => "port"
  | dbName => "dbName"

/-- The fields that can be edited on a node, in the order in which they are shown (`node_fields`).
Groups have a label and a color; only databases have a database name. -/
def Node.fields (node : Node) : List NodeField :=
  if node.isGroup then [.label, .color]
  else
    [.label, .type, .color, .icon, .customIcon, .port] ++
      if node.data.isDatabase then [.dbName] else []

/-- One change made in a form. -/
inductive FieldEdit where
  | label (text : String)
  | type (text : String)
  | color (text : String)
  | icon (text : String)
  /-- Sets the image, or removes it. -/
  | customIcon (reference : Option String)
  | port (text : String)
  | dbName (text : String)
  | tls (on : Bool)
  | tlsVersion (version : TlsVersion)
deriving Repr, DecidableEq

namespace FieldEdit

/-- The field of a node that an edit is for, and the patch that it makes (`node_field`,
`into_node_patch`). -/
def onNode : FieldEdit → Option (NodeField × NodePatch)
  | label text => some (.label, { label := some text })
  | type text => some (.type, { category := some text })
  | color text => some (.color, { color := some text })
  | icon text => some (.icon, { icon := some text })
  | customIcon reference => some (.customIcon, { customIcon := some reference })
  | port text => some (.port, { port := some text })
  | dbName text => some (.dbName, { dbName := some text })
  | tls _ => none
  | tlsVersion _ => none

/-- The patch that an edit makes on an edge (`into_edge_patch`). A version can only be chosen while
TLS is on. -/
def onEdge (data : EdgeData) : FieldEdit → Option EdgePatch
  | tls on => some { tls := some on }
  | tlsVersion version => if data.tls then some { tlsVersion := some version } else none
  | _ => none

end FieldEdit

/-- How certificates are provided. -/
inductive CertMode where
  | upload
  | generate
deriving Repr, DecidableEq, Inhabited

/-- The name of a mode. -/
def CertMode.name : CertMode → String
  | upload => "upload"
  | generate => "generate"

/-- The form of a node. -/
structure NodeForm where
  id : String
  kind : NodeKind
  label : String
  type : String
  color : String
  icon : String
  customIcon : Option String
  port : String
  dbName : String
  fields : List NodeField
deriving Repr, DecidableEq

/-- Whether a form shows a field (`shows`). -/
def NodeForm.shows (form : NodeForm) (field : NodeField) : Bool := form.fields.contains field

/-- The form of an edge. -/
structure EdgeForm where
  id : String
  source : String
  target : String
  tls : Bool
  /-- The version in force, shown while TLS is on (`tls_version`). -/
  version : Option TlsVersion
  mode : CertMode
  /-- Whether a certificate or a key is named (`certificates_configured`). -/
  hasCertificates : Bool
deriving Repr, DecidableEq

/-- What the inspector shows. -/
inductive InspectorView where
  | empty
  | node (form : NodeForm)
  | edge (form : EdgeForm)
deriving Repr, DecidableEq

/-- The form of a node, as `view` shows it. What is absent is shown as an empty text, a missing
color as the usual one. -/
def Node.form (node : Node) : NodeForm where
  id := node.id
  kind := node.kind
  label := node.data.label
  type := node.data.category.getD ""
  color := node.data.color.getD Palette.defaultColor
  icon := node.data.icon.getD ""
  customIcon := node.data.customIcon
  port := node.data.port.getD ""
  dbName := node.data.dbName.getD ""
  fields := node.fields

/-- The form of an edge, as `view` shows it. -/
def Edge.form (edge : Edge) (mode : CertMode) : EdgeForm where
  id := edge.id
  source := edge.source
  target := edge.target
  tls := edge.data.tls
  version := if edge.data.tls then some edge.data.effectiveVersion else none
  mode := mode
  hasCertificates := edge.data.hasCertificates

end DiagramStudio
