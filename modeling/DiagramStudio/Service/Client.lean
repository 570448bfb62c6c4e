import DiagramStudio.Service.Reply
import DiagramStudio.Settings
import DiagramStudio.Web.Address
import DiagramStudio.Web.Status

/-!
# Calls over the web

A call becomes a request: a method, an address below the base of the settings, and a body. What
comes back is a code and bytes, or nothing. Sending and receiving are left to others; everything
before and after is here. The names in parentheses are those that the interface of the services has
for the operations.

* `template_of_text`: a base that cannot have a path makes the call of a template fail.
-/

namespace DiagramStudio

/-- The method of a request. -/
inductive Method where
  | get
  | post
deriving Repr, DecidableEq

/-- A request to the services. The body is sent as JSON. -/
structure Request where
  method : Method
  address : Web.Address
  body : Option Json := none
deriving Repr

/-- What came back from the services. -/
structure RawReply where
  code : UInt16
  body : List UInt8
deriving Repr, DecidableEq

namespace Settings

/-- The address of a template: its id is one segment below the templates (`template_url`). -/
def templateAddress (settings : Settings) (id : String) : Except ServiceError Web.Address :=
  match Web.Address.ofText (settings.base ++ "/templates") with
  | .error error => .error (.invalidAddress (settings.base ++ ": " ++ error.message))
  | .ok address =>
    match address.push id with
    | some address => .ok address
    | none => .error (.invalidAddress settings.base)

/-- The address of a service below the base (`url`). -/
def serviceAddress (settings : Settings) (name : String) : Except ServiceError Web.Address :=
  match Web.Address.ofText (settings.base ++ "/" ++ name) with
  | .error _ => .error .transport
  | .ok address => .ok address

/-- The request of a call. -/
def request (settings : Settings) : ServiceCall → Except ServiceError Request
  | .template id => return { method := .get, address := ← settings.templateAddress id }
  | .ai prompt =>
    return { method := .post, address := ← settings.serviceAddress "generate-diagram",
             body := some prompt.json }
  | .codegen snapshot =>
    return { method := .post, address := ← settings.serviceAddress "generate",
             body := some snapshot.json }

end Settings

/-- Whether a request can be sent at all: only two schemes can be asked. -/
def Request.isSendable (request : Request) : Bool :=
  ["http", "https"].contains request.address.scheme

namespace RawReply

/-- The text of a reply that tells of success, or the failure that it tells (`read_body`). -/
def text (reply : RawReply) : Except ServiceError String :=
  let text := Text.lossyUtf8 reply.body
  if Web.isSuccess reply.code then .ok text
  else
    let phrase := (Web.phrase? reply.code).getD "Request failed"
    .error (.status reply.code (Reply.explanation text phrase))

end RawReply

/-- How requests are sent: a request has a reply, or none if there is no way to the services. -/
abbrev Transport := Request → Option RawReply

namespace Settings

/-- The text with which the services answer a call. -/
def answer (settings : Settings) (transport : Transport) (call : ServiceCall) :
    Except ServiceError String := do
  let request ← settings.request call
  match if request.isSendable then transport request else none with
  | some reply => reply.text
  | none => throw .transport

/-- The diagram with which the services answer a call (`fetch_template`, `generate_diagram`). -/
def fetchDiagram (settings : Settings) (transport : Transport) (call : ServiceCall) :
    Except ServiceError Diagram := do
  Reply.diagram (← settings.answer transport call)

/-- The result of code generation with which the services answer a call (`generate_code`). -/
def generate (settings : Settings) (transport : Transport) (snapshot : CodegenRequest) :
    Except ServiceError CodegenResponse := do
  Reply.response (← settings.answer transport (.codegen snapshot))

theorem template_of_text (settings : Settings) (id : String) (address : Web.Address)
    (text : String) (h : Web.Address.ofText (settings.base ++ "/templates") = .ok address)
    (opaquePath : address.path = .text text) :
    settings.templateAddress id = .error (.invalidAddress settings.base) := by
  simp [templateAddress, h, Web.Address.push_text address id text opaquePath]

end Settings

end DiagramStudio
