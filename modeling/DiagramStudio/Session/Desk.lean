import DiagramStudio.Session.Basic

/-!
# Named jobs

A desk keeps the requests of a session under names. To run a job is to look at it once: it is
started if it was not, and ends if a result is there.
-/

namespace DiagramStudio

/-- A request under way. -/
inductive Job where
  | load (ticket : UInt64)
  | export (key : Nat)
deriving Repr, DecidableEq

/-- A result of the services, as far as it is known what was asked of them. -/
structure ServiceResult where
  diagram : Except ServiceError Diagram
  response : Except ServiceError CodegenResponse

/-- A session and its named jobs. -/
structure Desk where
  session : Session
  jobs : List (String × Job) := []
deriving Repr

namespace Desk

/-- The job of a name. -/
def job? (desk : Desk) (name : String) : Option Job := Json.findMember? name desk.jobs

/-- A step of the session. -/
def act (desk : Desk) (step : Session.Step) : Desk × Answer :=
  let (session, answer) := desk.session.step step
  ({ desk with session }, answer)

/-- The step that drops a job. -/
def dropStep : Job → Session.Step
  | .load ticket => .dropLoad ticket
  | .export key => .dropExport key

/-- The desk without the name of a job. -/
def forget (desk : Desk) (name : String) : Desk :=
  { desk with jobs := desk.jobs.filter (·.1 ≠ name) }

/-- Drops the job of a name; whether there was one comes back. -/
def drop (desk : Desk) (name : String) : Desk × Bool :=
  match desk.job? name with
  | none => (desk, false)
  | some job => (((desk.forget name).act (dropStep job)).1, true)

/-- Keeps a job under a name. A job that had the name is dropped. -/
def keep (desk : Desk) (name : String) (job : Job) : Desk :=
  let cleared := (desk.drop name).1
  { cleared with jobs := cleared.jobs ++ [(name, job)] }

/-- Reserves a load and keeps it under a name. -/
def reserve (desk : Desk) (name : String) (request : LoadRequest) : Desk × Answer :=
  match desk.act (.reserve request) with
  | (desk, .ticket ticket) => (desk.keep name (.load ticket), .ticket ticket)
  | refused => refused

/-- Makes an export and keeps it under a name. -/
def makeExport (desk : Desk) (name : String) : Desk :=
  match desk.act .makeExport with
  | (desk, .made key) => desk.keep name (.export key)
  | (desk, _) => desk

/-- The step that starts a job. -/
def startStep : Job → Session.Step
  | .load ticket => .startLoad ticket
  | .export key => .startExport key

/-- The step that ends a job with a result. -/
def finishStep (result : ServiceResult) : Job → Session.Step
  | .load ticket => .finishLoad ticket result.diagram
  | .export key => .finishExport key result.response

/-- Runs the job of a name, with a result if one came in. The call that was made and the answer
come back. -/
def run (desk : Desk) (name : String) (result : Option ServiceResult) :
    Desk × Option ServiceCall × Answer :=
  match desk.job? name with
  | none => (desk, none, .absent)
  | some job =>
    match desk.act (startStep job) with
    | (started, .waiting call) =>
      match result with
      | none => (started, call, .waiting call)
      | some result =>
        let (ended, answer) := started.act (finishStep result job)
        (ended.forget name, call, answer)
    | (ended, answer) => (ended.forget name, none, answer)

end Desk

end DiagramStudio
