import DiagramStudio.Service.Contract
import DiagramStudio.Service.Error

/-!
# Understanding replies

The text of a reply is a diagram, possibly wrapped in prose, or the result of code generation. The
text of a failed reply may carry an explanation.
-/

namespace DiagramStudio

namespace Reply

/-- The part of a text from its first opening to its last closing brace (`extract_json_object`). -/
def outermostBraces? (text : String) : Option String :=
  let cs := text.toList.dropWhile (· ≠ '\x7b')
  let span := (cs.reverse.dropWhile (· ≠ '\x7d')).reverse
  if span.isEmpty then none else some (String.ofList span)

/-- The diagram that the text of a reply shows (`parse_diagram`). If the whole text is none, what
stands between the outermost braces is tried. -/
def diagram (text : String) : Except ServiceError Diagram :=
  match Diagram.ofText text with
  | .ok diagram => .ok diagram
  | .error whole =>
    match outermostBraces? text with
    | none => .error (.malformed whole.message)
    | some span =>
      match Diagram.ofText span with
      | .ok diagram => .ok diagram
      | .error inner => .error (.malformed inner.message)

/-- The result of code generation that the text of a reply shows. -/
def response (text : String) : Except ServiceError CodegenResponse :=
  match readText CodegenResponse.read text with
  | .ok response => .ok response
  | .error error => .error (.malformed error.message)

/-- What a failed reply may say about its cause (`ErrorBody`). -/
structure Explanation where
  message : Option String := none
  detail : Option Json := none
deriving Repr, Inhabited

/-- Reads an optional value of any kind. -/
def readDetail (source : Source) : Doc → Read (Option Json) := Doc.optional (Doc.json source)

/-- The shape of an explanation. -/
def Explanation.shape : Shape Explanation where
  name := "Explanation"
  blank := {}
  fields := [
    .named "message" optionalText fun message e => { e with message },
    .named "detail" readDetail fun detail e => { e with detail }]

/-- The explanation that the text of a failed reply gives (`error_message`): its message unless that
is blank, or else its detail, if that is a text that is not blank or a list, or else the
fallback. -/
def explanation (text fallback : String) : String :=
  match readText Explanation.shape.read text with
  | .error _ => fallback
  | .ok said =>
    match said.message.filter (!Text.isBlankText ·), said.detail with
    | some message, _ => message
    | none, some (.str detail) => if Text.isBlankText detail then fallback else detail
    | none, some (.arr items) => (Json.arr items).compact
    | none, _ => fallback

end Reply

end DiagramStudio
