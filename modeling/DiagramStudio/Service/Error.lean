/-!
# Service errors

Why a request to the remote services brings no result, or brings one that is not wanted any more.
-/

namespace DiagramStudio

/-- Why a request brings no result (`BridgeError`). -/
inductive ServiceError where
  /-- The request could not be sent, or no reply came back (`Http`). -/
  | transport
  /-- A reply that tells a failure, with the explanation that came with it. -/
  | status (code : UInt16) (explanation : String)
  /-- The address of the services is unusable (`InvalidUrl`). -/
  | invalidAddress (reason : String)
  /-- The reply cannot be read (`Decode`). -/
  | malformed (reason : String)
  /-- Another load is outstanding. -/
  | busy
  /-- Another export is running (`ExportInFlight`). -/
  | exportRunning
  /-- Something newer took the place of the request, or the session came to its end. -/
  | discarded
deriving Repr, DecidableEq

namespace ServiceError

/-- The wording of an error. -/
def message : ServiceError → String
  | transport => "request failed"
  | status code explanation => explanation ++ " (HTTP " ++ toString code.toNat ++ ")"
  | invalidAddress reason => "invalid service url: " ++ reason
  | malformed reason => "malformed diagram document: " ++ reason
  | busy => "another diagram load is already in progress"
  | exportRunning => "code generation is already running"
  | discarded => "result discarded"

/-- The wording for a notice to the user: a failed reply speaks for itself (`user_message`). -/
def userMessage : ServiceError → String
  | status _ explanation => explanation
  | error => error.message

end ServiceError

end DiagramStudio
