import DiagramStudio.Canvas.Step
import DiagramStudio.Inspector.Basic
import DiagramStudio.Service.Reply

/-!
# The editor

The canvas and the inspector, together with what keeps requests apart. Loads of whole diagrams
share one gate: a load takes it when it is reserved, and a second one is refused meanwhile. A
result is used only if its ticket still holds the gate and no diagram was loaded since the ticket
was issued. One export runs at a time.

The names in parentheses are those that the interface of the editor has for the operations.
-/

namespace DiagramStudio

/-- How a notice is shown. -/
inductive NoticeLevel where
  | info
  | error
deriving Repr, DecidableEq

/-- The name of a level. -/
def NoticeLevel.name : NoticeLevel → String
  | info => "info"
  | error => "error"

/-- A notice to the user. -/
structure Notice where
  id : UInt64
  level : NoticeLevel
  text : String
deriving Repr, DecidableEq

/-- The load that holds the gate, with the generation of the canvas when it was reserved. -/
structure PendingLoad where
  ticket : UInt64
  generation : UInt64
deriving Repr, DecidableEq

/-- What a load brings to the canvas. -/
inductive LoadRequest where
  | template (id : String)
  | ai (prompt : AiPrompt)
deriving Repr, DecidableEq

namespace LoadRequest

/-- The call that a load makes. -/
def call : LoadRequest → ServiceCall
  | template id => .template id
  | ai prompt => .ai prompt

/-- The notice that a failed load leaves (`failure`). -/
def failure (request : LoadRequest) (error : ServiceError) : String :=
  match request with
  | template _ => "Failed to load template: " ++ error.userMessage
  | ai _ => "Failed to generate architecture: " ++ error.userMessage

end LoadRequest

/-- The editor of a project. -/
structure Editor where
  canvas : Canvas := {}
  inspector : Inspector := {}
  projectName : String
  projectKind : ProjectKind
  nextTicket : UInt64 := 0
  /-- The load that holds the gate (`pending_load`). -/
  pending : Option PendingLoad := none
  exporting : Bool := false
  closed : Bool := false
  notices : List Notice := []
  nextNotice : UInt64 := 0
deriving Repr

namespace Editor

/-- What the inspector shows (`inspector_view`). -/
def inspectorView (editor : Editor) : InspectorView := editor.inspector.view editor.canvas

/-- Whether a load holds the gate (`is_busy`). -/
def isBusy (editor : Editor) : Bool := editor.pending.isSome

/-! ## Notices -/

/-- Adds a notice under a new id (`notify`). -/
def notify (editor : Editor) (level : NoticeLevel) (text : String) : Editor :=
  { editor with
    notices := editor.notices ++ [⟨editor.nextNotice, level, text⟩]
    nextNotice := editor.nextNotice + 1 }

/-- Takes a notice away; whether it was there comes back (`dismiss`). -/
def dismiss (editor : Editor) (id : UInt64) : Editor × Bool :=
  ({ editor with notices := editor.notices.filter (·.id ≠ id) }, editor.notices.any (·.id = id))

/-! ## Loading diagrams -/

/-- Installs a diagram (`install`). -/
def install (editor : Editor) (diagram : Diagram) : Editor :=
  let canvas := editor.canvas.load diagram
  { editor with canvas, inspector := editor.inspector.sync canvas }

/-- Installs a diagram directly (`replace_diagram`). A load that holds the gate loses it. -/
def replace (editor : Editor) (diagram : Diagram) : Editor :=
  ({ editor with pending := none } : Editor).install diagram

/-- Takes the gate for a load and issues its ticket (`begin_load`). -/
def beginLoad (editor : Editor) : Editor × Except ServiceError UInt64 :=
  if editor.closed then (editor, .error .discarded)
  else if editor.isBusy then (editor, .error .busy)
  else
    ({ editor with
        nextTicket := editor.nextTicket + 1
        pending := some ⟨editor.nextTicket, editor.canvas.generation⟩ },
      .ok editor.nextTicket)

/-- Uses the result of a load, if it is still wanted (`finish_load`). -/
def finishLoad (editor : Editor) (ticket : UInt64) (request : LoadRequest)
    (outcome : Except ServiceError Diagram) : Editor × Except ServiceError Unit :=
  match editor.pending with
  | none => (editor, .error .discarded)
  | some pending =>
    if pending.ticket = ticket && !editor.closed then
      let free := { editor with pending := none }
      if pending.generation = editor.canvas.generation then
        match outcome with
        | .ok diagram => (free.install diagram, .ok ())
        | .error error => (free.notify .error (request.failure error), .error error)
      else (free, .error .discarded)
    else (editor, .error .discarded)

/-- Gives the gate back, if the ticket holds it (`abandon_load`). -/
def abandonLoad (editor : Editor) (ticket : UInt64) : Editor :=
  if editor.pending.any (·.ticket = ticket) then { editor with pending := none } else editor

/-! ## Exports -/

/-- Begins an export with a snapshot of the diagram (`begin_export`). -/
def beginExport (editor : Editor) : Editor × Except ServiceError CodegenRequest :=
  if editor.closed then (editor, .error .discarded)
  else if editor.exporting then (editor, .error .exportRunning)
  else
    ({ editor with exporting := true },
      .ok ⟨editor.canvas.graph.diagram, editor.projectName⟩)

/-- Ends an export and tells the user about it (`finish_export`). -/
def finishExport (editor : Editor) (outcome : Except ServiceError CodegenResponse) :
    Editor × Except ServiceError CodegenResponse :=
  let idle := { editor with exporting := false }
  if editor.closed then (idle, .error .discarded)
  else
    match outcome with
    | .ok response => (idle.notify .info ("Project generated at: " ++ response.path), .ok response)
    | .error error =>
      (idle.notify .error ("Code generation failed: " ++ error.userMessage), .error error)

/-- Ends an export without a result, as the guard of `export` does when it is dropped. -/
def abandonExport (editor : Editor) : Editor := { editor with exporting := false }

/-! ## Closing -/

/-- Closes the editor (`close`). Whatever is still to come in will be discarded. -/
def close (editor : Editor) : Editor :=
  { editor with closed := true, pending := none, canvas := editor.canvas.deselect }

/-! ## Steps -/

/-- A step of the user in the editor. -/
inductive Step where
  | close
  | dismiss (id : UInt64)
  /-- Names the project (`set_project_name`). -/
  | rename (name : String)
  | replace (diagram : Diagram)
  /-- A gesture on the canvas itself (`canvas_mut`). -/
  | canvas (step : Canvas.Step)
  /-- A step of the inspector, which follows the selection first (`inspect`). -/
  | inspector (step : Inspector.Step)

/-- The editor after a step, and the answer. -/
def step (editor : Editor) : Step → Editor × Outcome
  | .close => (editor.close, .nothing)
  | .dismiss notice => (editor.dismiss notice).map id .accepted
  | .rename projectName => ({ editor with projectName }, .nothing)
  | .replace diagram => (editor.replace diagram, .nothing)
  | .canvas step =>
    let (canvas, answer) := editor.canvas.step step
    ({ editor with canvas }, answer)
  | .inspector step =>
    let (inspector, canvas, answer) := (editor.inspector.sync editor.canvas).step editor.canvas step
    ({ editor with inspector, canvas }, answer)

end Editor

end DiagramStudio
