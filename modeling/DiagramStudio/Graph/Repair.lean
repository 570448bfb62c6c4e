import DiagramStudio.Diagram.Basic

/-!
# Repairing diagrams

A diagram from outside may repeat ids and may hold edges without their nodes. The repaired diagram
keeps the first node of each id, and of the edges between such nodes the first of each id.
-/

namespace DiagramStudio

/-- The items whose key is neither among `seen` nor that of an earlier item. -/
def firstOfEach (key : α → String) (seen : List String) : List α → List α
  | [] => []
  | item :: rest =>
    if key item ∈ seen then firstOfEach key seen rest
    else item :: firstOfEach key (key item :: seen) rest

/-- Whether both ends of an edge are among the ids. -/
def Edge.joins (edge : Edge) (ids : List String) : Bool :=
  ids.contains edge.source && ids.contains edge.target

/-- The diagram without repeated ids and without dangling edges, as `replace_all` installs it. -/
def Diagram.repaired (diagram : Diagram) : Diagram :=
  let nodes := firstOfEach (·.id) [] diagram.nodes
  let ids := nodes.map (·.id)
  ⟨nodes, firstOfEach (·.id) [] (diagram.edges.filter (·.joins ids))⟩

end DiagramStudio
