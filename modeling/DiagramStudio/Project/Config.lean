import DiagramStudio.Project.Kind
import DiagramStudio.Text.Blank

/-!
# Project setup

What the setup of a project hands to the editor: a name, a kind, and how the canvas is filled at
first. A template or a description that is blank means an empty canvas.
-/

namespace DiagramStudio

/-- How the canvas of a new project is filled. -/
inductive StartMode where
  | scratch
  | template (id : String)
  | ai (description : String)
deriving Repr, DecidableEq, Inhabited

namespace StartMode

/-- The names of the modes, in the order of their numbers. -/
def names : List String := ["scratch", "template", "ai"]

/-- The members that tell a mode in a document. -/
def members : StartMode → List (String × Json)
  | scratch => [("setupMode", .str "scratch")]
  | template id => [("setupMode", .str "template"), ("selectedTemplate", .str id)]
  | ai description => [("setupMode", .str "ai"), ("aiDescription", .str description)]

/-- The mode without blanks around its text; one whose text is blank is `scratch`. -/
def effective : StartMode → StartMode
  | scratch => scratch
  | template id => if Text.isBlankText id then scratch else template (Text.trim id)
  | ai description =>
    if Text.isBlankText description then scratch else ai (Text.trim description)

/-- The number of a mode, from its name or its number. -/
def readTag : Doc → Read Nat
  | .str name =>
    match names.findIdx? (· = name) with
    | some tag => .ok tag
    | none => .error (.unknownVariant name names)
  | .num (.int n) =>
    if 0 ≤ n then
      if n.toNat < names.length then .ok n.toNat
      else .error (.invalidValue (.num (.int n)) "variant index 0 <= i < 3")
    else .error (.invalidType (.num (.int n)) "variant identifier")
  | doc => .error (doc.refuse "variant identifier")

/-- The one text that a mode has besides its tag. -/
def textShape (name field : String) : Shape String where
  name := name
  blank := ""
  fields := [.must field (Field.plain Doc.text) fun text _ => text]

/-- Reads the mode of a tag from the other members. -/
def readTagged (tag : Nat) (others : List (Doc × Doc)) : Read StartMode :=
  let content : Doc := .object others .closed
  match tag with
  | 0 => .ok scratch
  | 1 => ((textShape "template" "selectedTemplate").read .collected content).map template
  | _ => ((textShape "ai" "aiDescription").read .collected content).map ai

/-- Reads a mode from collected members. The tag is found first, wherever it stands. -/
def read (members : List (String × Doc)) : Read StartMode := do
  let isTag (m : String × Doc) : Bool := m.1 = "setupMode"
  let others := (members.filter fun m => !isTag m).map fun m => (Doc.str m.1, m.2)
  match members.filter isTag with
  | [] => throw (.missingField "setupMode")
  | (_, tag) :: repeated =>
    let tag ← readTag tag
    if !repeated.isEmpty then throw (.duplicateField "setupMode")
    readTagged tag others

end StartMode

/-- The setup of a project. -/
structure ProjectConfig where
  name : String := ""
  kind : ProjectKind := .web
  mode : StartMode := .scratch
deriving Repr, DecidableEq, Inhabited

namespace ProjectConfig

/-- The fields of a setup that stand beside its mode. Other members are collected. -/
def shape : Shape (ProjectConfig × List (String × Doc)) where
  name := "ProjectConfig"
  blank := ({}, [])
  fields := [
    .may "projectName" (Field.plain Doc.text) fun name c => ({ c.1 with name }, c.2),
    .may "projectType" ProjectKind.read fun kind c => ({ c.1 with kind }, c.2)]

/-- Collects a member that is no field of the open record. -/
def collect : Shape.Others (ProjectConfig × List (String × Doc)) :=
  fun source name doc c => do
    let _ ← doc.json source
    return (c.1, c.2 ++ [(name, doc)])

/-- Reads a setup. -/
def read (source : Source) (doc : Doc) : Read ProjectConfig := do
  let (config, members) ← shape.readOpen collect source doc
  let mode ← StartMode.read members
  return { config with mode }

/-- A setup, written. -/
def json (config : ProjectConfig) : Json :=
  .obj ([("projectName", .str config.name), ("projectType", .str config.kind.name)] ++
    config.mode.members)

/-- The mode in which the canvas is filled (`effective_mode`). -/
def effectiveMode (config : ProjectConfig) : StartMode := config.mode.effective

/-- The name of the project without blanks around it, or the fallback if it is blank
(`project_name_or`). -/
def nameOr (config : ProjectConfig) (fallback : String) : String :=
  if Text.isBlankText config.name then fallback else Text.trim config.name

end ProjectConfig

end DiagramStudio
