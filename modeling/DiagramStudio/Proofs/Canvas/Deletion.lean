import DiagramStudio.Proofs.Canvas.Refusal
import DiagramStudio.Proofs.Canvas.Survival

/-!
# Deletion is exact

What a deletion takes away is said apart from how it is done: the items that are gone and those that
are left make up the list, and each of the two keeps the order of the list. A node goes with the
edges that begin or end at it, however many of them join the same nodes and whether or not they are
loops; an edge goes alone. That a deletion takes no more than one node or one edge by their id is
due to the soundness of the graph, and that a selected element is there to be deleted to the
anchoring of the canvas.

Results:
* `takenOut_filter`, `takenOut_eraseP`: what is filtered away, or erased, is taken out.
* `Graph.Sound.deletion`: a deletion by id takes what `Graph.Deletion` says.
* `Canvas.Anchored.deletion_node`, `Canvas.Anchored.deletion_edge`: so does the deletion of the
  selection, by the tag of the selection.
* `Canvas.deletion_is_exact`: this holds of every graph and every canvas that is reached.
-/

namespace DiagramStudio

/-! ## Taking items out of a list -/

section Items

variable {α : Type}

/-- Whether the items of a list are those that are gone and those that are left, each in the order
of the list. -/
structure TakenOut (items gone left : List α) : Prop where
  all : (gone ++ left).Perm items
  goneInOrder : gone.Sublist items
  leftInOrder : left.Sublist items

theorem takenOut_nil (items : List α) : TakenOut items [] items where
  all := List.Perm.refl items
  goneInOrder := List.nil_sublist items
  leftInOrder := List.Sublist.refl items

theorem takenOut_filter (test : α → Bool) (items : List α) :
    TakenOut items (items.filter test) (items.filter (!test ·)) where
  all := List.filter_append_perm test items
  goneInOrder := List.filter_sublist
  leftInOrder := List.filter_sublist

theorem takenOut_eraseP {test : α → Bool} {item : α} {items : List α}
    (h : items.find? test = some item) : TakenOut items [item] (items.eraseP test) := by
  obtain ⟨htest, front, back, rfl, hfront⟩ := List.find?_eq_some_iff_append.mp h
  have hnone : ∀ other ∈ front, ¬ test other = true := by simpa using hfront
  have herased : (front ++ item :: back).eraseP test = front ++ back := by
    rw [List.eraseP_append_right _ hnone, List.eraseP_cons_of_pos htest]
  refine ⟨?_, List.singleton_sublist.mpr (by simp), List.eraseP_sublist⟩
  rw [herased, List.singleton_append]
  exact List.perm_middle.symm

end Items

namespace Graph

variable {graph : Graph} {id : String}

/-! ## Deletions -/

/-- Whether a graph is left when these nodes and edges are taken out of another one. -/
structure Without (graph : Graph) (nodes : List Node) (edges : List Edge) (after : Graph) :
    Prop where
  nodes : TakenOut graph.nodes nodes after.nodes
  edges : TakenOut graph.edges edges after.edges
  mint : after.mint = graph.mint

/-- What a deletion by id has to leave and to tell: a node of that id goes with the edges that begin
or end at it, or else an edge of that id goes alone, or else nothing goes. -/
inductive Deletion (graph : Graph) (id : String) : Graph × Option Removed → Prop
  | node {node : Node} {edges : List Edge} {after : Graph} (found : graph.node? id = some node)
      (touching : ∀ edge, edge ∈ edges ↔
        edge ∈ graph.edges ∧ (edge.source = id ∨ edge.target = id))
      (once : (edges.map (·.id)).Nodup) (left : graph.Without [node] edges after) :
      Deletion graph id (after, some (.node id (edges.map (·.id))))
  | edge {edge : Edge} {after : Graph} (absent : graph.node? id = none)
      (found : graph.edge? id = some edge) (left : graph.Without [] [edge] after) :
      Deletion graph id (after, some (.edge id))
  | nothing (absent : graph.node? id = none) (edgeAbsent : graph.edge? id = none) :
      Deletion graph id (graph, none)

/-- An edge is deleted alone. -/
theorem Sound.without_deleteEdge (h : graph.Sound) {edge : Edge}
    (hedge : graph.edge? id = some edge) : graph.Without [] [edge] (graph.deleteEdge id).1 := by
  have htaken := takenOut_filter (fun other : Edge => decide (other.id = id)) graph.edges
  rw [filter_eq_singleton h.edges hedge] at htaken
  refine ⟨takenOut_nil graph.nodes, ?_, rfl⟩
  simpa only [deleteEdge, ne_eq, decide_not] using htaken

/-- A node is deleted with the edges that touch it. -/
theorem without_deleteElement {node : Node} (hnode : graph.node? id = some node) :
    graph.Without [node] (graph.edges.filter (·.touches id)) (graph.deleteElement id).1 := by
  have hthere : graph.hasNode id = true := by rw [hasNode, hnode, Option.isSome_some]
  rw [deleteElement, if_pos hthere]
  exact ⟨takenOut_eraseP hnode, takenOut_filter _ _, rfl⟩

/-- A deletion by id takes exactly what it has to. -/
theorem Sound.deletion (h : graph.Sound) (id : String) :
    graph.Deletion id (graph.deleteElement id) := by
  cases hnode : graph.node? id with
  | some node =>
    have hthere : graph.hasNode id = true := by rw [hasNode, hnode, Option.isSome_some]
    have htold : (graph.deleteElement id).2 =
        some (.node id ((graph.edges.filter (·.touches id)).map (·.id))) := by
      rw [deleteElement, if_pos hthere]
    have htouching : ∀ edge, edge ∈ graph.edges.filter (·.touches id) ↔
        edge ∈ graph.edges ∧ (edge.source = id ∨ edge.target = id) := by
      intro edge
      simp only [List.mem_filter, Edge.touches, Bool.or_eq_true, decide_eq_true_eq]
    have honce : ((graph.edges.filter (·.touches id)).map (·.id)).Nodup :=
      h.edges.sublist (List.filter_sublist.map _)
    have hdeletion := Deletion.node hnode htouching honce (without_deleteElement hnode)
    rwa [← htold] at hdeletion
  | none =>
    have hgone : ¬ graph.hasNode id = true := by rw [hasNode, hnode]; exact Bool.false_ne_true
    rw [deleteElement, if_neg hgone]
    cases hedge : graph.edge? id with
    | some edge =>
      have htold : (graph.deleteEdge id).2 = true := by
        rw [deleteEdge, hasEdge, hedge, Option.isSome_some]
      simp only [htold, if_true]
      exact .edge hnode hedge (h.without_deleteEdge hedge)
    | none =>
      have habsent : graph.hasEdge id = false := by rw [hasEdge, hedge, Option.isSome_none]
      have htold : (graph.deleteEdge id).2 = false := habsent
      simp only [htold, deleteEdge_eq_self habsent, Bool.false_eq_true, if_false]
      exact .nothing hnode hedge

end Graph

namespace Canvas

variable {canvas : Canvas} {id : String}

/-! ## The selection -/

/-- Deleting the selection changes nothing but the graph and the selection. -/
theorem deleteSelection_eq (canvas : Canvas) :
    canvas.deleteSelection.1 =
      { canvas.deselect with graph := canvas.deleteSelection.1.graph } := by
  rw [deleteSelection]
  split <;> rfl

/-- The deletion of a selected node is that of the node by its id. -/
theorem Anchored.deletion_node (h : canvas.Anchored) (hsound : canvas.graph.Sound)
    (hselection : canvas.selection = .node id) :
    canvas.graph.hasNode id = true ∧
      canvas.graph.Deletion id (canvas.deleteSelection.1.graph, canvas.deleteSelection.2) := by
  rw [Anchored, hselection] at h
  refine ⟨(Graph.hasNode_iff _ _).mpr h, ?_⟩
  simp only [deleteSelection, hselection]
  exact hsound.deletion id

/-- The deletion of a selected edge takes that edge only, whatever else bears its id. -/
theorem Anchored.deletion_edge (h : canvas.Anchored) (hsound : canvas.graph.Sound)
    (hselection : canvas.selection = .edge id) :
    canvas.deleteSelection.2 = some (.edge id) ∧ ∃ edge, canvas.graph.edge? id = some edge ∧
      canvas.graph.Without [] [edge] canvas.deleteSelection.1.graph := by
  rw [Anchored, hselection] at h
  have hthere : canvas.graph.hasEdge id = true := (Graph.hasEdge_iff _ _).mpr h
  obtain ⟨edge, hedge⟩ := Option.isSome_iff_exists.mp hthere
  simp only [deleteSelection, hselection]
  exact ⟨if_pos hthere, edge, hedge, hsound.without_deleteEdge hedge⟩

/-- Gestures and steps of an inspector keep the graph sound. -/
theorem sound_actions {state : Inspector × Canvas} (h : state.2.graph.Sound)
    (actions : List Action) : (run state actions).2.graph.Sound := by
  have hsame : run state actions = operations state (actions.map .action) := by
    rw [operations, List.foldl_map]
    rfl
  rw [hsame]
  exact sound_operations h _

/-- **Deletion is exact.** Take any graph that is reached by operations, and what becomes of it by
gestures and steps of an inspector. A deletion by id takes the node of that id with exactly the
edges that begin or end at it, and tells the id and those of the edges, each once and in order; if
there is no such node it takes the edge of that id, and otherwise nothing. All that is left keeps
its contents and its order, and so does the counter of ids. The deletion of a node that is selected
is the same; that of an edge that is selected takes this edge and no node, whatever node bears its
id. In any case nothing is selected afterwards. -/
theorem deletion_is_exact (steps : List Graph.Step) (inspector : Inspector)
    (actions : List Action) :
    let canvas := (run (inspector, ofGraph (({} : Graph).run steps)) actions).2
    (∀ id, canvas.graph.Deletion id (canvas.graph.deleteElement id)) ∧
      (∀ id, canvas.selection = .node id → canvas.graph.hasNode id = true ∧
        canvas.graph.Deletion id (canvas.deleteSelection.1.graph, canvas.deleteSelection.2)) ∧
      (∀ id, canvas.selection = .edge id → canvas.deleteSelection.2 = some (.edge id) ∧
        ∃ edge, canvas.graph.edge? id = some edge ∧
          canvas.graph.Without [] [edge] canvas.deleteSelection.1.graph) ∧
      canvas.deleteSelection.1 =
        { canvas with
          graph := canvas.deleteSelection.1.graph
          selection := .none
          epoch := canvas.epoch + 1 } := by
  intro canvas
  have hanchored : canvas.Anchored := anchored_run (anchored_of_none rfl) actions
  have hsound : canvas.graph.Sound := sound_actions (Graph.sound_run Graph.sound_empty steps) actions
  exact ⟨hsound.deletion, fun id => hanchored.deletion_node hsound,
    fun id => hanchored.deletion_edge hsound, deleteSelection_eq canvas⟩

/-- An edge bears the id of the node that it leads to. Once the node is selected and deleted, with
two of the three edges, and once the edge alone. -/
theorem deletions_of_shared_id :
    let node : String → Node := fun id => ⟨id, .custom, .origin, {}, none⟩
    let edge : String → String → String → Edge := fun id source target =>
      ⟨id, source, target, none, none, Edge.drawnType, {}⟩
    let steps := [Graph.Step.replaceAll
      ⟨[node "a", node "b"], [edge "loop" "a" "a", edge "b" "a" "b", edge "again" "a" "b"]⟩]
    let start := ({}, ofGraph (({} : Graph).run steps))
    let onNode := (run start [.gesture (.clickNode "b")]).2
    let onEdge := (run start [.gesture (.clickEdge "b")]).2
    (onNode.selection = .node "b" ∧
      onNode.graph.Deletion "b" (onNode.deleteSelection.1.graph, onNode.deleteSelection.2) ∧
      onNode.deleteSelection.2 = some (.node "b" ["b", "again"])) ∧
      onEdge.selection = .edge "b" ∧ onEdge.deleteSelection.2 = some (.edge "b") ∧
        onEdge.deleteSelection.1.graph.nodeIds = ["a", "b"] ∧
        onEdge.deleteSelection.1.graph.edgeIds = ["loop", "again"] := by
  intro node edge steps start onNode onEdge
  have hnode : onNode.selection = .node "b" := by decide +kernel
  have hedge : onEdge.selection = .edge "b" := by decide +kernel
  have hdeleted := (deletion_is_exact steps {} [.gesture (.clickNode "b")]).2.1 "b" hnode
  have halone := (deletion_is_exact steps {} [.gesture (.clickEdge "b")]).2.2.1 "b" hedge
  exact ⟨⟨hnode, hdeleted.2, by decide +kernel⟩, hedge, halone.1, by decide +kernel,
    by decide +kernel⟩

end Canvas

end DiagramStudio
