import DiagramStudio.Canvas.Payload
import DiagramStudio.Project.Kind

/-!
# The palette

The components that can be put on the canvas, in the categories in which they are shown; the
templates offered when a project is set up; and the colors and icons that the inspector offers.
-/

namespace DiagramStudio

/-- An entry of the palette. -/
structure PaletteItem where
  type : String
  label : String
  color : Option String := none
  icon : Option String := none
  /-- An item with a template loads it on a click and cannot be dragged. -/
  template : Option String := none
deriving Repr, DecidableEq

namespace PaletteItem

/-- Whether the item loads a template (`is_template`). -/
def isTemplate (item : PaletteItem) : Bool := item.template.isSome

/-- Whether the item is a group. -/
def isGroup (item : PaletteItem) : Bool := NodeKind.ofName item.type = .group

/-- What a drag from the item carries (`drag_payload`). -/
def payload (item : PaletteItem) : Option DragPayload :=
  if item.isTemplate then none else some ⟨item.type, item.label, item.icon, item.color⟩

/-- An item, written. -/
def json (item : PaletteItem) : Json :=
  .obj ([("type", .str item.type), ("label", .str item.label)] ++
    Json.memberIf "color" (item.color.map .str) ++
    Json.memberIf "icon" (item.icon.map .str) ++
    Json.memberIf "templateId" (item.template.map .str))

end PaletteItem

/-- A place in a category: one item, or several under a name of their own. -/
inductive PaletteEntry where
  | item (item : PaletteItem)
  | subcategory (name : String) (items : List PaletteItem)
deriving Repr

namespace PaletteEntry

/-- The items at a place. -/
def items : PaletteEntry → List PaletteItem
  | item one => [one]
  | subcategory _ several => several

/-- A place, written. -/
def json : PaletteEntry → Json
  | item one => one.json
  | subcategory name several =>
    .obj [("name", .str name), ("items", .arr (several.map PaletteItem.json))]

end PaletteEntry

/-- A category of the palette. -/
structure Category where
  name : String
  entries : List PaletteEntry
deriving Repr

namespace Category

/-- The items of a category. -/
def items (category : Category) : List PaletteItem := category.entries.flatMap PaletteEntry.items

/-- A category, written. -/
def json (category : Category) : Json :=
  .obj [("name", .str category.name), ("entries", .arr (category.entries.map PaletteEntry.json))]

end Category

/-- A template that is offered at setup. -/
structure Template where
  id : String
  title : String
deriving Repr, DecidableEq

/-- A color that the inspector offers. -/
structure ColorToken where
  name : String
  value : String
deriving Repr, DecidableEq

namespace Palette

/-- An item that loads a template. -/
def quickStart (type label color icon template : String) : PaletteItem :=
  ⟨type, label, some color, some icon, some template⟩

/-- A component with a color of its own. -/
def colored (type label color icon : String) : PaletteEntry :=
  .item ⟨type, label, some color, some icon, none⟩

/-- A component without a color. -/
def neutral (type label icon : String) : PaletteEntry :=
  .item ⟨type, label, none, some icon, none⟩

/-- The categories of the palette. -/
def catalog : List Category := [
  ⟨"Clients", [
    .subcategory "Mobile" [
      quickStart "Mobile App" "iOS App" "bg-purple-600" "Mobile" "ios",
      quickStart "Mobile App" "Android App" "bg-green-600" "Mobile" "android"],
    .subcategory "Web" [
      quickStart "Web App" "React App" "bg-blue-500" "Web" "react",
      quickStart "Web App" "Next.js App" "bg-black" "Web" "nextjs",
      ⟨"SPA", "SPA (TypeScript)", some "bg-blue-400", some "Code", none⟩]]⟩,
  ⟨"Infrastructure", [
    neutral "group" "Layer Group" "Group",
    neutral "Kubernetes" "Kubernetes" "Kubernetes",
    neutral "Docker" "Docker" "Docker",
    neutral "Server" "Server" "Server",
    neutral "Cloud" "Cloud" "Cloud",
    colored "Load Balancer" "Load Balancer" "bg-yellow-500" "Server",
    colored "Nginx" "Nginx" "bg-green-500" "Server",
    colored "Apache" "Apache" "bg-red-500" "Server",
    colored "API Gateway" "API Gateway" "bg-orange-500" "Gateway",
    colored "CDN" "CDN" "bg-cyan-500" "Cloud",
    colored "Static Content" "Static Content" "bg-green-500" "File"]⟩,
  ⟨"Services", [
    colored "Microservice" "Microservice" "bg-green-600" "Microservice",
    colored "Service Discovery" "Service Discovery" "bg-indigo-500" "Compass",
    colored "Management" "Management" "bg-gray-500" "Settings"]⟩,
  ⟨"Data & Messaging", [
    colored "Database" "Database" "bg-red-600" "Database",
    colored "RabbitMQ/KAFKA" "RabbitMQ/KAFKA" "bg-blue-800" "Queue",
    colored "Logstash" "Logstash" "bg-yellow-600" "Log",
    colored "ELK" "ELK Stack" "bg-blue-400" "Stack"]⟩,
  ⟨"Notifications", [
    colored "Email" "Email" "bg-blue-300" "Mail",
    colored "SMS" "SMS" "bg-blue-300" "Chat",
    colored "Alerts" "Alerts" "bg-red-500" "Bell"]⟩]

/-- Every item, in the order in which it is shown. -/
def items : List PaletteItem := catalog.flatMap Category.items

/-- The item of that label (`find_by_label`). -/
def find? (label : String) : Option PaletteItem := items.find? (·.label = label)

/-- The templates that are offered for a kind of project (`templates_for`). -/
def templates : ProjectKind → List Template
  | .mobile => [⟨"ios", "iOS Standard Architecture"⟩, ⟨"android", "Android MVVM Architecture"⟩]
  | .web => [⟨"react", "React SPA"⟩, ⟨"nextjs", "Next.js Full Stack"⟩]

/-- The colors that the inspector offers. -/
def colors : List ColorToken := [
  ⟨"Blue", "bg-blue-600"⟩, ⟨"Green", "bg-green-600"⟩, ⟨"Red", "bg-red-600"⟩,
  ⟨"Purple", "bg-purple-600"⟩, ⟨"Orange", "bg-orange-500"⟩, ⟨"Gray", "bg-gray-500"⟩,
  ⟨"Teal", "bg-teal-600"⟩, ⟨"Indigo", "bg-indigo-600"⟩]

/-- The color that is shown for a node without one (`DEFAULT_COLOR`). -/
def defaultColor : String := "bg-blue-600"

/-- Whether a color is one that the inspector offers (`is_palette_color`). -/
def isColor (value : String) : Bool := colors.any (·.value = value)

/-- The icons that the inspector offers (`ICON_KEYS`). -/
def icons : List String := [
  "Mobile", "Web", "Code", "Group", "Kubernetes", "Docker", "Server", "Cloud", "Gateway", "File",
  "Microservice", "Compass", "Settings", "Database", "Queue", "Log", "Stack", "Mail", "Chat",
  "Bell", "Key"]

/-- Whether an icon is one that the inspector offers (`is_known_icon`). -/
def isIcon (key : String) : Bool := icons.contains key

end Palette

end DiagramStudio
