import DiagramStudio.Diagram.Reader
import DiagramStudio.Project.Kind

/-!
# What is sent and what comes back

The prompt for a generated diagram, the snapshot for code generation, and its result; and the calls
in which they are sent.
-/

namespace DiagramStudio

/-- What a diagram is to be generated from. -/
structure AiPrompt where
  description : String
  kind : ProjectKind
deriving Repr, DecidableEq, Inhabited

namespace AiPrompt

/-- The shape of a prompt. -/
def shape : Shape AiPrompt where
  name := "AiPrompt"
  blank := ⟨"", .web⟩
  fields := [
    .must "description" (Field.plain Doc.text) fun description p => { p with description },
    .must "projectType" ProjectKind.read fun kind p => { p with kind }]

/-- Reads a prompt. -/
def read : Source → Doc → Read AiPrompt := shape.read

/-- A prompt, written. -/
def json (prompt : AiPrompt) : Json :=
  .obj [("description", .str prompt.description), ("projectType", .str prompt.kind.name)]

end AiPrompt

/-- A snapshot of a diagram, from which code is to be generated. -/
structure CodegenRequest where
  diagram : Diagram
  projectName : String
deriving Repr, Inhabited

namespace CodegenRequest

/-- The field of a snapshot that stands beside the diagram's members. -/
def shape : Shape (String × List (Doc × Doc)) where
  name := "CodegenRequest"
  blank := ("", [])
  fields := [.must "project_name" (Field.plain Doc.text) fun name r => (name, r.2)]

/-- Collects a member that is not the name. -/
def collect : Shape.Others (String × List (Doc × Doc)) := fun source name doc r => do
  let _ ← doc.json source
  return (r.1, r.2 ++ [(.str name, doc)])

/-- Reads a snapshot. The diagram is made of the members that are left. -/
def read (source : Source) (doc : Doc) : Read CodegenRequest := do
  let (projectName, members) ← shape.readOpen collect source doc
  let diagram ← Diagram.read .collected (.object members .closed)
  return { diagram, projectName }

/-- A snapshot, written: the name stands beside the members of the diagram. -/
def json (request : CodegenRequest) : Json :=
  .obj (request.diagram.members ++ [("project_name", .str request.projectName)])

end CodegenRequest

/-- The result of code generation. -/
structure CodegenResponse where
  /-- Where the generated project was written. -/
  path : String
  message : Option String := none
deriving Repr, DecidableEq, Inhabited

namespace CodegenResponse

/-- The shape of a result. -/
def shape : Shape CodegenResponse where
  name := "CodegenResponse"
  blank := { path := "" }
  fields := [
    .must "path" (Field.plain Doc.text) fun path r => { r with path },
    .may "message" optionalText fun message r => { r with message }]

/-- Reads a result. -/
def read : Source → Doc → Read CodegenResponse := shape.read

/-- A result, written. -/
def json (response : CodegenResponse) : Json :=
  .obj (("path", .str response.path) :: Json.memberIf "message" (response.message.map .str))

end CodegenResponse

/-- What is asked of the services (`ArchService`). -/
inductive ServiceCall where
  | template (id : String)
  | ai (prompt : AiPrompt)
  | codegen (request : CodegenRequest)
deriving Repr

end DiagramStudio
