import DiagramStudio.Project.Config
import DiagramStudio.Session.Editor
import DiagramStudio.Settings

/-!
# Sessions

A session owns the editor. Requests under way refer to the session but do not keep it: once it is
dropped, their results are discarded.

The requests under way are the loads, told apart by their tickets, and the exports, told apart by
numbers. A load takes the gate when it is reserved; dropping it gives the gate back. An export does
nothing until it is started; dropping one that was started ends it.
-/

namespace DiagramStudio

/-- A load that was reserved and has neither ended nor been dropped (`BulkLoad`). -/
structure Load where
  ticket : UInt64
  request : LoadRequest
  /-- Whether the services were called. -/
  started : Bool := false
deriving Repr, DecidableEq

/-- An export that has neither ended nor been dropped: the pending result of `export`. -/
structure Export where
  key : Nat
  /-- The snapshot it submitted, once it is started. -/
  request : Option CodegenRequest := none
deriving Repr

/-- A session with its requests under way. -/
structure Session where
  /-- The editor, until the session is dropped. -/
  editor : Option Editor
  loads : List Load := []
  exports : List Export := []
  nextExport : Nat := 0
deriving Repr

/-- What a step of a session answers. -/
inductive Answer where
  /-- There is nothing that the step could act on. -/
  | absent
  | done
  /-- A load was reserved. -/
  | ticket (ticket : UInt64)
  /-- An export was made. -/
  | made (key : Nat)
  /-- The services are called, or were called before, and a result is awaited. -/
  | waiting (call : Option ServiceCall)
  | generated (response : CodegenResponse)
  | failed (error : ServiceError)
  /-- The answer of the editor. -/
  | editor (outcome : Outcome)
deriving Repr

namespace Session

/-- A session with a new editor. -/
def new (projectName : String) (projectKind : ProjectKind) : Session :=
  { editor := some { projectName, projectKind } }

/-- A session for the setup of a project (`open`). -/
def ofConfig (config : ProjectConfig) (settings : Settings) : Session :=
  new (config.nameOr settings.defaultProjectName) config.kind

/-- Whether the session was not dropped (`is_alive`). -/
def isAlive (session : Session) : Bool := session.editor.isSome

/-- A step of a session. -/
inductive Step where
  | reserve (request : LoadRequest)
  | startLoad (ticket : UInt64)
  | finishLoad (ticket : UInt64) (outcome : Except ServiceError Diagram)
  | dropLoad (ticket : UInt64)
  | makeExport
  | startExport (key : Nat)
  | finishExport (key : Nat) (outcome : Except ServiceError CodegenResponse)
  | dropExport (key : Nat)
  | drop
  | editor (step : Editor.Step)

/-- Does something with the editor, if the session was not dropped (`with_editor`). -/
def withEditor (session : Session) (act : Editor → Editor × Except ServiceError α) :
    Session × Except ServiceError α :=
  match session.editor with
  | none => (session, .error .discarded)
  | some editor =>
    let (editor, result) := act editor
    ({ session with editor := some editor }, result)

/-! ## Loads -/

/-- The load of a ticket. -/
def load? (session : Session) (ticket : UInt64) : Option Load :=
  session.loads.find? (·.ticket = ticket)

/-- The session without the load of a ticket. -/
def withoutLoad (session : Session) (ticket : UInt64) : Session :=
  { session with loads := session.loads.filter (·.ticket ≠ ticket) }

/-- Reserves a load (`load_template`, `import_ai`). -/
def reserve (session : Session) (request : LoadRequest) : Session × Answer :=
  match session.withEditor Editor.beginLoad with
  | (session, .ok ticket) =>
    ({ session with loads := session.loads ++ [{ ticket, request }] }, .ticket ticket)
  | (session, .error error) => (session, .failed error)

/-- Calls the services for a load, unless that was done before: `run` up to the call. -/
def startLoad (session : Session) (ticket : UInt64) : Session × Answer :=
  match session.load? ticket with
  | none => (session, .absent)
  | some load =>
    let started := session.loads.map fun l =>
      if l.ticket = ticket then { l with started := true } else l
    ({ session with loads := started },
      .waiting (if load.started then none else some load.request.call))

/-- Ends a load with the result that came in: `run` from the result on. -/
def finishLoad (session : Session) (ticket : UInt64) (outcome : Except ServiceError Diagram) :
    Session × Answer :=
  match session.load? ticket with
  | none => (session, .absent)
  | some load =>
    match (session.withoutLoad ticket).withEditor (·.finishLoad ticket load.request outcome) with
    | (session, .ok ()) => (session, .done)
    | (session, .error error) => (session, .failed error)

/-- Drops a load. -/
def dropLoad (session : Session) (ticket : UInt64) : Session × Answer :=
  match session.load? ticket with
  | none => (session, .absent)
  | some _ =>
    let rest := session.withoutLoad ticket
    ({ rest with editor := rest.editor.map (·.abandonLoad ticket) }, .done)

/-! ## Exports -/

/-- The export of a key. -/
def export? (session : Session) (key : Nat) : Option Export := session.exports.find? (·.key = key)

/-- The session without the export of a key. -/
def withoutExport (session : Session) (key : Nat) : Session :=
  { session with exports := session.exports.filter (·.key ≠ key) }

/-- Makes an export without starting it: `export` before it is awaited. -/
def makeExport (session : Session) : Session × Answer :=
  ({ session with
      exports := session.exports ++ [{ key := session.nextExport }]
      nextExport := session.nextExport + 1 },
    .made session.nextExport)

/-- Starts an export, unless that was done before: `export` up to the call. An export that is
refused has ended. -/
def startExport (session : Session) (key : Nat) : Session × Answer :=
  match session.export? key with
  | none => (session, .absent)
  | some ⟨_, some _⟩ => (session, .waiting none)
  | some ⟨_, none⟩ =>
    match session.withEditor Editor.beginExport with
    | (session, .ok request) =>
      let started := session.exports.map fun e =>
        if e.key = key then { e with request := some request } else e
      ({ session with exports := started }, .waiting (some (.codegen request)))
    | (session, .error error) => (session.withoutExport key, .failed error)

/-- Ends an export that was started with the result that came in: `export` from the result on. -/
def finishExport (session : Session) (key : Nat)
    (outcome : Except ServiceError CodegenResponse) : Session × Answer :=
  match session.export? key with
  | some ⟨_, some _⟩ =>
    match (session.withoutExport key).withEditor (·.finishExport outcome) with
    | (session, .ok response) => (session, .generated response)
    | (session, .error error) => (session, .failed error)
  | _ => (session, .absent)

/-- Drops an export. -/
def dropExport (session : Session) (key : Nat) : Session × Answer :=
  match session.export? key with
  | none => (session, .absent)
  | some ⟨_, none⟩ => (session.withoutExport key, .done)
  | some ⟨_, some _⟩ =>
    let rest := session.withoutExport key
    ({ rest with editor := rest.editor.map Editor.abandonExport }, .done)

/-! ## Steps -/

/-- The session after a step, and the answer. -/
def step (session : Session) : Step → Session × Answer
  | .reserve request => session.reserve request
  | .startLoad ticket => session.startLoad ticket
  | .finishLoad ticket outcome => session.finishLoad ticket outcome
  | .dropLoad ticket => session.dropLoad ticket
  | .makeExport => session.makeExport
  | .startExport key => session.startExport key
  | .finishExport key outcome => session.finishExport key outcome
  | .dropExport key => session.dropExport key
  | .drop => ({ session with editor := none }, .done)
  | .editor step =>
    match session.editor with
    | none => (session, .absent)
    | some editor =>
      let (editor, outcome) := editor.step step
      ({ session with editor := some editor }, .editor outcome)

end Session

/-- The load with which `bootstrap` fills the canvas of a new project, if it fills it at all. -/
def ProjectConfig.firstLoad (config : ProjectConfig) : Option LoadRequest :=
  match config.effectiveMode with
  | .scratch => none
  | .template id => some (.template id)
  | .ai description => some (.ai ⟨description, config.kind⟩)

end DiagramStudio
