import DiagramStudio.Proofs.Run
import DiagramStudio.Session.Basic

/-!
# Histories of a session

A run of a session, the tickets that were issued in it, the number of diagrams that were loaded in
it, and whether it left the session open and loaded no diagram directly.

Results:
* `tickets_append`, `loadCount_append`: the history of a run that goes on is that of its two parts.
-/

namespace DiagramStudio

/-- The ticket that an answer hands out. -/
def Answer.ticket? : Answer → Option UInt64
  | .ticket issued => some issued
  | _ => none

namespace Session

/-- The session after a run of steps. -/
def run (session : Session) (steps : List Step) : Session :=
  steps.foldl (fun s step => (s.step step).1) session

/-- The tickets that are issued in a run, oldest first. -/
def tickets (session : Session) (steps : List Step) : List UInt64 :=
  (moments Session.step session steps).filterMap fun (session, step) =>
    (session.step step).2.ticket?

/-- Whether the user loads a diagram directly: by replacing the diagram of the editor, or by loading
one into the canvas. -/
def Step.loadsDirectly : Step → Bool
  | .editor (.replace _) => true
  | .editor (.canvas (.load _)) => true
  | _ => false

/-- Whether a step with that answer loaded a diagram, directly or as the result of a load. -/
def Step.loads (step : Step) (answer : Answer) : Bool :=
  match step, answer with
  | step@(.editor _), .editor _ => step.loadsDirectly
  | .finishLoad _ _, .done => true
  | _, _ => false

/-- The number of diagrams that are loaded in a run. -/
def loadCount (session : Session) (steps : List Step) : Nat :=
  (moments Session.step session steps).countP fun (session, step) =>
    step.loads (session.step step).2

/-- Whether the session was not dropped and the editor not closed. -/
def isOpen (session : Session) : Bool := session.editor.any (!·.closed)

/-- Whether the session stays open all through the steps, and none of them loads a diagram
directly. -/
def undisturbed (session : Session) : List Step → Bool
  | [] => session.isOpen
  | step :: rest =>
    session.isOpen && !step.loadsDirectly && undisturbed (session.step step).1 rest

/-! ## Parts of a history -/

theorem run_cons (session : Session) (step : Step) (steps : List Step) :
    session.run (step :: steps) = (session.step step).1.run steps := rfl

theorem run_append (session : Session) (earlier later : List Step) :
    session.run (earlier ++ later) = (session.run earlier).run later :=
  List.foldl_append

theorem tickets_cons (session : Session) (step : Step) (steps : List Step) :
    session.tickets (step :: steps) =
      (session.step step).2.ticket?.toList ++ (session.step step).1.tickets steps := by
  simp only [tickets, moments, List.filterMap_cons]
  cases (session.step step).2.ticket? <;> rfl

theorem tickets_append (session : Session) (earlier later : List Step) :
    session.tickets (earlier ++ later) =
      session.tickets earlier ++ (session.run earlier).tickets later := by
  rw [tickets, moments_append, List.filterMap_append]
  rfl

theorem loadCount_cons (session : Session) (step : Step) (steps : List Step) :
    session.loadCount (step :: steps) =
      (step.loads (session.step step).2).toNat + (session.step step).1.loadCount steps := by
  simp only [loadCount, moments, List.countP_cons]
  cases step.loads (session.step step).2 <;> simp [Nat.add_comm]

theorem loadCount_append (session : Session) (earlier later : List Step) :
    session.loadCount (earlier ++ later) =
      session.loadCount earlier + (session.run earlier).loadCount later := by
  rw [loadCount, moments_append, List.countP_append]
  rfl

end Session

end DiagramStudio
