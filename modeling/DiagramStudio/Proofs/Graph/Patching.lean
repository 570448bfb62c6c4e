import DiagramStudio.Proofs.Diagram.Patch
import DiagramStudio.Proofs.Graph.Sound

/-!
# Updates of a graph

An update patches the data of the element that is found by its id. The element keeps its id, so the
next update of this id finds it again, and an update of another element does not touch it. So the
laws of patches are laws of updates.

Results:
* `Graph.updateNode_updateNode`, `Graph.updateEdge_updateEdge`: two updates of an id are one.
* `Graph.commute_updateNode`, `Graph.commute_updateEdge`, `Graph.commute_updateNode_updateEdge`:
  updates of different elements may change places.
* `Graph.patches_act`: the laws of patches, and what they come to for updates.
-/

namespace DiagramStudio

/-! ## Patches of items in a list -/

section Items

variable {α π : Type} {key : α → String} {patched : α → π → α}
  (hkey : ∀ item patch, key (patched item patch) = key item)

include hkey

/-- Two patches of the item of a key are the patch of both. -/
theorem patchFirst_patchFirst {orElse : π → π → π}
    (hmerge : ∀ item p q, patched (patched item p) q = patched item (orElse q p)) (id : String)
    (p q : π) (items : List α) :
    changeFirst (key · = id) (patched · q) (changeFirst (key · = id) (patched · p) items) =
      changeFirst (key · = id) (patched · (orElse q p)) items := by
  have htest : ∀ item, decide (key (patched item p) = id) = decide (key item = id) := by
    intro item
    rw [hkey]
  rw [changeFirst_changeFirst htest]
  simp only [hmerge]

/-- Patches of items of different keys may change places. -/
theorem patchFirst_comm {id other : String} (hne : id ≠ other) (p q : π) (items : List α) :
    changeFirst (key · = other) (patched · q) (changeFirst (key · = id) (patched · p) items) =
      changeFirst (key · = id) (patched · p) (changeFirst (key · = other) (patched · q) items) := by
  apply changeFirst_comm
  · intro item
    rw [hkey]
  · intro item
    rw [hkey]
  · intro item hitem
    exact decide_eq_false fun hother => hne ((of_decide_eq_true hitem).symm.trans hother)

end Items

/-- The node with patched data. -/
def Node.patched (node : Node) (patch : NodePatch) : Node :=
  { node with data := node.data.patched patch }

/-- The edge with patched data. -/
def Edge.patched (edge : Edge) (patch : EdgePatch) : Edge :=
  { edge with data := edge.data.patched patch }

theorem Node.id_patched (node : Node) (patch : NodePatch) : (node.patched patch).id = node.id := rfl

theorem Edge.id_patched (edge : Edge) (patch : EdgePatch) : (edge.patched patch).id = edge.id := rfl

theorem Node.patched_patched (node : Node) (p q : NodePatch) :
    (node.patched p).patched q = node.patched (q.orElse p) := by
  simp only [patched, NodeData.patchLaws.merge]

theorem Edge.patched_patched (edge : Edge) (p q : EdgePatch) :
    (edge.patched p).patched q = edge.patched (q.orElse p) := by
  simp only [patched, EdgeData.patchLaws.merge]

namespace Graph

variable {id other : String}

/-- Updates keep the ids of the nodes. -/
theorem hasNode_updateNode (graph : Graph) (id other : String) (patch : NodePatch) :
    (graph.updateNode id patch).1.hasNode other = graph.hasNode other := by
  have hids : (graph.updateNode id patch).1.nodeIds = graph.nodeIds :=
    map_changeFirst (Node.id_patched · patch) _ _
  rw [Bool.eq_iff_iff, hasNode_iff, hasNode_iff, hids]

/-- Updates keep the ids of the edges. -/
theorem hasEdge_updateEdge (graph : Graph) (id other : String) (patch : EdgePatch) :
    (graph.updateEdge id patch).1.hasEdge other = graph.hasEdge other := by
  have hids : (graph.updateEdge id patch).1.edgeIds = graph.edgeIds :=
    map_changeFirst (Edge.id_patched · patch) _ _
  rw [Bool.eq_iff_iff, hasEdge_iff, hasEdge_iff, hids]

/-! ## Updates of one element -/

/-- Two updates of the node of an id are the update with the patch of both. -/
theorem updateNode_updateNode (graph : Graph) (id : String) (p q : NodePatch) :
    (graph.updateNode id p).1.updateNode id q = graph.updateNode id (q.orElse p) := by
  refine Prod.ext (congrArg (fun nodes => { graph with nodes }) ?_)
    (graph.hasNode_updateNode id id p)
  exact patchFirst_patchFirst Node.id_patched Node.patched_patched id p q graph.nodes

/-- Two updates of the edge of an id are the update with the patch of both. -/
theorem updateEdge_updateEdge (graph : Graph) (id : String) (p q : EdgePatch) :
    (graph.updateEdge id p).1.updateEdge id q = graph.updateEdge id (q.orElse p) := by
  refine Prod.ext (congrArg (fun edges => { graph with edges }) ?_)
    (graph.hasEdge_updateEdge id id p)
  exact patchFirst_patchFirst Edge.id_patched Edge.patched_patched id p q graph.edges

/-! ## Updates of different elements -/

/-- Whether two operations may change places: the graph is the same in the end, and each answers as
if it were alone. -/
structure Commute (graph : Graph) (earlier later : Graph → Graph × Bool) : Prop where
  same : (later (earlier graph).1).1 = (earlier (later graph).1).1
  answerEarlier : (earlier (later graph).1).2 = (earlier graph).2
  answerLater : (later (earlier graph).1).2 = (later graph).2

/-- Updates of nodes of different ids may change places. -/
theorem commute_updateNode (graph : Graph) (hne : id ≠ other) (p q : NodePatch) :
    graph.Commute (·.updateNode id p) (·.updateNode other q) where
  same := congrArg (fun nodes => { graph with nodes })
    (patchFirst_comm Node.id_patched hne p q graph.nodes)
  answerEarlier := graph.hasNode_updateNode other id q
  answerLater := graph.hasNode_updateNode id other p

/-- Updates of edges of different ids may change places. -/
theorem commute_updateEdge (graph : Graph) (hne : id ≠ other) (p q : EdgePatch) :
    graph.Commute (·.updateEdge id p) (·.updateEdge other q) where
  same := congrArg (fun edges => { graph with edges })
    (patchFirst_comm Edge.id_patched hne p q graph.edges)
  answerEarlier := graph.hasEdge_updateEdge other id q
  answerLater := graph.hasEdge_updateEdge id other p

/-- Updates of a node and of an edge may change places, also where both bear the same id. -/
theorem commute_updateNode_updateEdge (graph : Graph) (id other : String) (p : NodePatch)
    (q : EdgePatch) : graph.Commute (·.updateNode id p) (·.updateEdge other q) where
  same := rfl
  answerEarlier := rfl
  answerLater := rfl

/-- **Patches act as a monoid.** On the data of nodes and of edges: a later patch takes precedence
for the keys that it names, two patches one after the other are the patch of both, the empty patch
and no other changes nothing, patches of different keys may change places, and keys that are not
named, and members that are not understood, are left alone. On graphs: where an element was updated,
it is found with its data patched, two updates of one element are the update with the patch of both,
and updates of different elements may change places. -/
theorem patches_act :
    PatchLaws NodeData.patched NodePatch.orElse NodePatch.isEmpty NodeData.value NodePatch.value?
        NodeData.extra ∧
      PatchLaws EdgeData.patched EdgePatch.orElse EdgePatch.isEmpty EdgeData.value EdgePatch.value?
        EdgeData.extra ∧
      ∀ graph : Graph,
        (∀ id p, (graph.updateNode id p).1.node? id = (graph.node? id).map (·.patched p)) ∧
        (∀ id p, (graph.updateEdge id p).1.edge? id = (graph.edge? id).map (·.patched p)) ∧
        (∀ id p q, (graph.updateNode id p).1.updateNode id q = graph.updateNode id (q.orElse p)) ∧
        (∀ id p q, (graph.updateEdge id p).1.updateEdge id q = graph.updateEdge id (q.orElse p)) ∧
        (∀ id other p q, id ≠ other →
          graph.Commute (·.updateNode id p) (·.updateNode other q)) ∧
        (∀ id other p q, id ≠ other →
          graph.Commute (·.updateEdge id p) (·.updateEdge other q)) ∧
        ∀ id other p q, graph.Commute (·.updateNode id p) (·.updateEdge other q) := by
  refine ⟨NodeData.patchLaws, EdgeData.patchLaws, fun graph => ?_⟩
  refine ⟨graph.node?_updateNode, graph.edge?_updateEdge, graph.updateNode_updateNode,
    graph.updateEdge_updateEdge, ?_, ?_, graph.commute_updateNode_updateEdge⟩
  · exact fun id other p q hne => graph.commute_updateNode hne p q
  · exact fun id other p q hne => graph.commute_updateEdge hne p q

/-- An icon is set on one node and an image is removed from another, or both are done to the same
node. -/
theorem patches_of_icon_and_image :
    let node : String → Node := fun id => ⟨id, .custom, .origin, {}, none⟩
    let graph : Graph := .ofDiagram ⟨[node "a", node "b"], []⟩
    let set : NodePatch := { icon := some "Server" }
    let remove : NodePatch := { customIcon := some none }
    ("a" ≠ "b" ∧ graph.Commute (·.updateNode "a" set) (·.updateNode "b" remove)) ∧
      (graph.updateNode "a" set).1.node? "a" = some ((node "a").patched set) ∧
      (remove.isEmpty = false ∧ ∃ data : NodeData, data.patched remove ≠ data) ∧
      (∀ field, set.value? field = none ∨ remove.value? field = none) ∧
        ∀ data : NodeData, (data.patched set).patched remove = (data.patched remove).patched set := by
  intro node graph set remove
  have hne : "a" ≠ "b" := by decide
  have hremove : remove.isEmpty = false := by decide
  have hapart : ∀ field, set.value? field = none ∨ remove.value? field = none := by
    intro field
    cases field with
    | icon => exact .inr rfl
    | label | type | color | customIcon | port | dbName => exact .inl rfl
  obtain ⟨hlaws, -, hgraph⟩ := patches_act
  have hchanges : ∃ data : NodeData, data.patched remove ≠ data := by
    rw [← not_forall, ← hlaws.empty, hremove]
    exact Bool.false_ne_true
  obtain ⟨hfound, -, -, -, hcommute, -, -⟩ := hgraph graph
  exact ⟨⟨hne, hcommute "a" "b" set remove hne⟩, hfound "a" set, ⟨hremove, hchanges⟩, hapart,
    fun data => hlaws.commute data set remove hapart⟩

end Graph

end DiagramStudio
