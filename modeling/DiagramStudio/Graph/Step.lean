import DiagramStudio.Graph.Basic

/-!
# Runs of a graph

The operations of a graph as a type, so that what holds along every run can be stated once.
-/

namespace DiagramStudio

/-- What an operation answers. -/
inductive Outcome where
  | nothing
  /-- The id of what was added, if anything was. -/
  | added (id : Option String)
  /-- Whether the operation was carried out. -/
  | accepted (yes : Bool)
  | removed (what : Option Removed)
deriving Repr, DecidableEq

namespace Graph

/-- An operation on a graph. -/
inductive Step where
  | addNode (draft : NodeDraft)
  | addEdge (link : Connection)
  | updateNode (id : String) (patch : NodePatch)
  | updateEdge (id : String) (patch : EdgePatch)
  | moveNode (id : String) (position : Position)
  | resizeNode (id : String) (size : Size)
  | deleteElement (id : String)
  | deleteEdge (id : String)
  | replaceAll (diagram : Diagram)
deriving Repr

/-- The graph after an operation, and the answer. -/
def step (graph : Graph) : Step → Graph × Outcome
  | .addNode draft => (graph.addNode draft).map id .added
  | .addEdge link => (graph.addEdge link).map id .added
  | .updateNode node patch => (graph.updateNode node patch).map id .accepted
  | .updateEdge edge patch => (graph.updateEdge edge patch).map id .accepted
  | .moveNode node position => (graph.moveNode node position).map id .accepted
  | .resizeNode node size => (graph.resizeNode node size).map id .accepted
  | .deleteElement element => (graph.deleteElement element).map id .removed
  | .deleteEdge edge => (graph.deleteEdge edge).map id .accepted
  | .replaceAll diagram => (graph.replaceAll diagram, .nothing)

/-- The graph after a run of operations. -/
def run (graph : Graph) (steps : List Step) : Graph :=
  steps.foldl (fun g s => (g.step s).1) graph

end Graph

end DiagramStudio
