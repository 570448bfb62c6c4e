import DiagramStudio.Graph.Mint
import DiagramStudio.Graph.Repair

/-!
# Graphs

The nodes and edges of the editor, with the counter of their ids. Ids are unique, edges only join
nodes that are there, and a node is deleted together with its edges. A request that cannot be met
changes nothing.

The names in parentheses are those that the interface of the editor has for the operations.
-/

namespace DiagramStudio

/-- The graph of the editor. -/
structure Graph where
  nodes : List Node := []
  edges : List Edge := []
  mint : IdMint := {}
deriving Repr, Inhabited

/-- A node without its id (`NewNode`). -/
structure NodeDraft where
  kind : NodeKind
  position : Position
  data : NodeData
  style : Option NodeStyle
deriving Repr, Inhabited

/-- A component card without a style (`custom`). -/
def NodeDraft.custom (position : Position) (data : NodeData) : NodeDraft :=
  ⟨.custom, position, data, none⟩

/-- A group of the usual size beneath the cards (`group`). -/
def NodeDraft.group (position : Position) (data : NodeData) : NodeDraft :=
  ⟨.group, position, data, some .ofGroup⟩

/-- An edge without its id. -/
structure Connection where
  source : String
  target : String
  sourceHandle : Option String := none
  targetHandle : Option String := none
deriving Repr, DecidableEq, Inhabited

/-- What a deletion removed. -/
inductive Removed where
  | node (id : String) (edges : List String)
  | edge (id : String)
deriving Repr, DecidableEq

/-- The list with `change` done to the first item that passes the test. -/
def changeFirst (test : α → Bool) (change : α → α) : List α → List α
  | [] => []
  | item :: rest =>
    if test item then change item :: rest else item :: changeFirst test change rest

namespace Graph

/-! ## Looking -/

/-- The node of that id (`node`). -/
def node? (graph : Graph) (id : String) : Option Node := graph.nodes.find? (·.id = id)

/-- The edge of that id (`edge`). -/
def edge? (graph : Graph) (id : String) : Option Edge := graph.edges.find? (·.id = id)

/-- Whether there is a node of that id (`contains_node`). -/
def hasNode (graph : Graph) (id : String) : Bool := (graph.node? id).isSome

/-- Whether there is an edge of that id. -/
def hasEdge (graph : Graph) (id : String) : Bool := (graph.edge? id).isSome

/-- Whether a node or an edge bears that id (`id_in_use`). -/
def inUse (graph : Graph) (id : String) : Bool := graph.hasNode id || graph.hasEdge id

/-- Whether there is nothing in the graph (`is_empty`). -/
def isEmpty (graph : Graph) : Bool := graph.nodes.isEmpty && graph.edges.isEmpty

/-- The diagram of the graph (`to_diagram`). -/
def diagram (graph : Graph) : Diagram := ⟨graph.nodes, graph.edges⟩

/-- The nodes in the order in which they are painted: by stacking order, and among equals by age
(`render_order`). -/
def renderOrder (graph : Graph) : List Node :=
  graph.nodes.mergeSort fun a b => a.zIndex ≤ b.zIndex

/-! ## Adding -/

/-- An id that nothing in the graph bears (`fresh_node_id`, `fresh_edge_id`). Among one more
candidates than there are nodes and edges one is free, unless every number of the counter is
taken. -/
def freshId (graph : Graph) (stem : String) : Option (String × IdMint) :=
  IdMint.fresh graph.inUse stem (graph.nodes.length + graph.edges.length + 1) graph.mint

/-- Adds a node under a new id, as long as there is one (`add_node`). -/
def addNode (graph : Graph) (draft : NodeDraft) : Graph × Option String :=
  match graph.freshId IdMint.nodeStem with
  | none => (graph, none)
  | some (id, mint) =>
    let node := ⟨id, draft.kind, draft.position, draft.data, draft.style⟩
    ({ graph with nodes := graph.nodes ++ [node], mint }, some id)

/-- Adds an edge under a new id, if both of its nodes are there (`add_edge`). -/
def addEdge (graph : Graph) (link : Connection) : Graph × Option String :=
  if graph.hasNode link.source && graph.hasNode link.target then
    match graph.freshId IdMint.edgeStem with
    | none => (graph, none)
    | some (id, mint) =>
      let edge := ⟨id, link.source, link.target, link.sourceHandle, link.targetHandle,
        Edge.drawnType, {}⟩
      ({ graph with edges := graph.edges ++ [edge], mint }, some id)
  else (graph, none)

/-! ## Changing -/

/-- Changes the node of that id. -/
def changeNode (graph : Graph) (id : String) (change : Node → Node) : Graph :=
  { graph with nodes := changeFirst (·.id = id) change graph.nodes }

/-- Changes the edge of that id. -/
def changeEdge (graph : Graph) (id : String) (change : Edge → Edge) : Graph :=
  { graph with edges := changeFirst (·.id = id) change graph.edges }

/-- Patches the data of a node; whether it is there comes back (`update_node_data`). -/
def updateNode (graph : Graph) (id : String) (patch : NodePatch) : Graph × Bool :=
  (graph.changeNode id fun node => { node with data := node.data.patched patch },
    graph.hasNode id)

/-- Patches the data of an edge; whether it is there comes back (`update_edge_data`). -/
def updateEdge (graph : Graph) (id : String) (patch : EdgePatch) : Graph × Bool :=
  (graph.changeEdge id fun edge => { edge with data := edge.data.patched patch },
    graph.hasEdge id)

/-- Moves a node; whether it is there comes back (`move_node`). -/
def moveNode (graph : Graph) (id : String) (position : Position) : Graph × Bool :=
  (graph.changeNode id fun node => { node with position }, graph.hasNode id)

/-- A side that is not below the smallest. What is no number counts as the smallest. -/
def atLeast (least side : Float) : Float := if least < side then side else least

/-- The style that `resize_node` leaves to a group: its own with a new size. -/
def resized (style : Option NodeStyle) (size : Size) : NodeStyle :=
  { style.getD .ofGroup with
    width := some (atLeast Size.least size.width)
    height := some (atLeast Size.least size.height) }

/-- Resizes a group; other nodes have the size of their content (`resize_node`). -/
def resizeNode (graph : Graph) (id : String) (size : Size) : Graph × Bool :=
  match graph.node? id with
  | some node =>
    if node.isGroup then
      (graph.changeNode id fun node => { node with style := some (resized node.style size) },
        true)
    else (graph, false)
  | none => (graph, false)

/-! ## Deleting -/

/-- Deletes the edges of that id; whether there were any comes back (`delete_edge`). -/
def deleteEdge (graph : Graph) (id : String) : Graph × Bool :=
  ({ graph with edges := graph.edges.filter (·.id ≠ id) }, graph.hasEdge id)

/-- Deletes the node of that id with the edges that touch it, or else the edge of that id
(`delete_element`). -/
def deleteElement (graph : Graph) (id : String) : Graph × Option Removed :=
  if graph.hasNode id then
    ({ graph with
        nodes := graph.nodes.eraseP (·.id = id)
        edges := graph.edges.filter (!·.touches id) },
      some (.node id ((graph.edges.filter (·.touches id)).map (·.id))))
  else
    let (rest, removed) := graph.deleteEdge id
    (rest, if removed then some (.edge id) else none)

/-! ## Replacing -/

/-- Installs a diagram in place of everything, after repairing it (`replace_all`). The counter moves
past the ids of the diagram. -/
def replaceAll (graph : Graph) (diagram : Diagram) : Graph :=
  let sound := diagram.repaired
  let ids := sound.nodes.map (·.id) ++ sound.edges.map (·.id)
  ⟨sound.nodes, sound.edges, ids.foldl IdMint.reserve graph.mint⟩

/-- The graph of a diagram (`from_diagram`). -/
def ofDiagram (diagram : Diagram) : Graph := ({} : Graph).replaceAll diagram

end Graph

end DiagramStudio
