import DiagramStudio.Json.Basic
import DiagramStudio.Text.Blank

/-!
# Nodes

A node is a component card or a group. Its data are what the inspector edits, together with the
members of the document that are not understood here and are kept as they are.

A patch names some of the data's keys with new values; `NodeData.patched` replaces these and
leaves the others alone. `NodePatch.orElse` is the patch that does the work of two.

* `NodeData.extra_patched`: no patch touches the members that are not understood.
-/

namespace DiagramStudio

/-- A point of the canvas or of the window. -/
structure Point (α : Type) where
  x : α
  y : α
deriving Repr, Inhabited

/-- A place on the canvas. -/
abbrev Position := Point Float

/-- The origin of the canvas. -/
def Position.origin : Position := ⟨0.0, 0.0⟩

/-- The width and the height of a node. -/
structure Size where
  width : Float
  height : Float
deriving Repr, Inhabited

/-- The size of a group that has none of its own. -/
def Size.ofGroup : Size := ⟨300.0, 200.0⟩

/-- The smallest width and the smallest height that a group can be given (`MIN_GROUP_DIMENSION`). -/
def Size.least : Float := 100.0

/-- How a node is rendered. -/
inductive NodeKind where
  | custom
  | group
deriving Repr, DecidableEq, Inhabited

namespace NodeKind

/-- The name of a kind in documents. -/
def name : NodeKind → String
  | custom => "custom"
  | group => "group"

/-- The kind of a type name (`from_type_name`). Every name other than that of a group is a component
card. -/
def ofName (text : String) : NodeKind := if text = "group" then group else custom

/-- The stacking order of a node that has none of its own: groups lie beneath. -/
def level : NodeKind → Int32
  | custom => 0
  | group => -1

end NodeKind

/-- The look of a node, as far as it is its own. -/
structure NodeStyle where
  width : Option Float := none
  height : Option Float := none
  zIndex : Option Int32 := none
deriving Repr, Inhabited

/-- The style that a new group gets (`group`). -/
def NodeStyle.ofGroup : NodeStyle :=
  ⟨some Size.ofGroup.width, some Size.ofGroup.height, some (NodeKind.level .group)⟩

/-- What a node tells about its component. -/
structure NodeData where
  label : String := ""
  /-- The kind of component, in free words (`node_type`). -/
  category : Option String := none
  color : Option String := none
  icon : Option String := none
  /-- A reference to an image, shown in place of the icon. -/
  customIcon : Option String := none
  port : Option String := none
  dbName : Option String := none
  /-- The other members of the data, sorted by key. -/
  extra : List (String × Json) := []
deriving Repr, Inhabited

/-- What a card shows as its picture. -/
inductive Visual where
  | image (reference : String)
  | icon (key : String)
  | placeholder
deriving Repr, DecidableEq

/-- A change of some keys of a node's data. A key that is `none` is left alone; for the custom icon
`some none` removes the image. -/
structure NodePatch where
  label : Option String := none
  category : Option String := none
  color : Option String := none
  icon : Option String := none
  customIcon : Option (Option String) := none
  port : Option String := none
  dbName : Option String := none
deriving Repr, DecidableEq, Inhabited

namespace NodePatch

/-- Whether the patch names no key. -/
def isEmpty (patch : NodePatch) : Bool := patch = {}

/-- The patch that takes each key from `later` if that names it, and from `earlier` otherwise. -/
def orElse (later earlier : NodePatch) : NodePatch where
  label := later.label <|> earlier.label
  category := later.category <|> earlier.category
  color := later.color <|> earlier.color
  icon := later.icon <|> earlier.icon
  customIcon := later.customIcon <|> earlier.customIcon
  port := later.port <|> earlier.port
  dbName := later.dbName <|> earlier.dbName

end NodePatch

namespace NodeData

/-- Whether the category mentions a database, in any case (`is_database`). -/
def isDatabase (data : NodeData) : Bool :=
  match data.category with
  | some category =>
    Text.occursIn "database" (String.ofList (category.toList.map Char.toLower))
  | none => false

/-- The picture of a card (`visual`). Empty references count as absent. -/
def visual (data : NodeData) : Visual :=
  match data.customIcon.filter (· ≠ ""), data.icon.filter (· ≠ "") with
  | some reference, _ => .image reference
  | none, some key => .icon key
  | none, none => .placeholder

/-- The data with the keys of the patch replaced (`merged`). -/
def patched (data : NodeData) (patch : NodePatch) : NodeData where
  label := patch.label.getD data.label
  category := patch.category <|> data.category
  color := patch.color <|> data.color
  icon := patch.icon <|> data.icon
  customIcon := patch.customIcon.getD data.customIcon
  port := patch.port <|> data.port
  dbName := patch.dbName <|> data.dbName
  extra := data.extra

@[simp] theorem extra_patched (data : NodeData) (patch : NodePatch) :
    (data.patched patch).extra = data.extra := rfl

end NodeData

/-- A node on the canvas. -/
structure Node where
  id : String
  kind : NodeKind
  position : Position
  data : NodeData
  style : Option NodeStyle
deriving Repr, Inhabited

namespace Node

/-- Whether the node is a group (`is_group`). -/
def isGroup (node : Node) : Bool := node.kind = .group

/-- The size of a node, if it has one: its own if both sides are given, or that of a group
(`size`). -/
def size (node : Node) : Option Size :=
  match node.style with
  | some ⟨some width, some height, _⟩ => some ⟨width, height⟩
  | _ => if node.isGroup then some .ofGroup else none

/-- The stacking order of a node (`z_index`). -/
def zIndex (node : Node) : Int32 :=
  (node.style.bind (·.zIndex)).getD node.kind.level

end Node

end DiagramStudio
