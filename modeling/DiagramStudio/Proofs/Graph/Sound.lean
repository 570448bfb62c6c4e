import DiagramStudio.Graph.Step
import DiagramStudio.Proofs.Graph.Counter
import DiagramStudio.Proofs.Graph.Repair
import DiagramStudio.Proofs.Keyed

/-!
# Soundness of graphs

A graph is sound when no two nodes share an id, no two edges share an id, and every edge joins
nodes that are there. `Change` lists what an operation can do to ids and wiring; soundness, and
what is said elsewhere about ids, follows from it case by case.

Results:
* `node?_updateNode`, `edge?_updateEdge`: an element that was updated is found with its data patched.
* `step_change`: every operation makes one of the listed changes.
* `sound_step`: an operation keeps a graph sound.
* `sound_everywhere`: whatever the operations, every graph that is reached is sound.
-/

namespace DiagramStudio

/-- The id of an edge and the ids of its two nodes. -/
def Edge.wiring (edge : Edge) : String × String × String := (edge.id, edge.source, edge.target)

namespace Graph

/-! ## Ids -/

/-- The ids of the nodes. -/
def nodeIds (graph : Graph) : List String := graph.nodes.map (·.id)

/-- The ids of the edges. -/
def edgeIds (graph : Graph) : List String := graph.edges.map (·.id)

/-- The ids of the nodes and of the edges. -/
def ids (graph : Graph) : List String := graph.nodeIds ++ graph.edgeIds

theorem hasNode_iff (graph : Graph) (id : String) :
    graph.hasNode id = true ↔ id ∈ graph.nodeIds := by
  simp [hasNode, node?, nodeIds]

theorem hasEdge_iff (graph : Graph) (id : String) :
    graph.hasEdge id = true ↔ id ∈ graph.edgeIds := by
  simp [hasEdge, edge?, edgeIds]

theorem hasNode_eq_false_iff (graph : Graph) (id : String) :
    graph.hasNode id = false ↔ graph.node? id = none := by
  rw [hasNode, Option.isSome_eq_false_iff, Option.isNone_iff_eq_none]

theorem hasEdge_eq_false_iff (graph : Graph) (id : String) :
    graph.hasEdge id = false ↔ graph.edge? id = none := by
  rw [hasEdge, Option.isSome_eq_false_iff, Option.isNone_iff_eq_none]

/-- Where a node was updated, it is found with its data patched. -/
theorem node?_updateNode (graph : Graph) (id : String) (patch : NodePatch) :
    (graph.updateNode id patch).1.node? id =
      (graph.node? id).map fun node => { node with data := node.data.patched patch } := by
  rw [node?, node?, updateNode, changeNode]
  apply find?_changeFirst
  intro node
  rfl

/-- Where an edge was updated, it is found with its data patched. -/
theorem edge?_updateEdge (graph : Graph) (id : String) (patch : EdgePatch) :
    (graph.updateEdge id patch).1.edge? id =
      (graph.edge? id).map fun edge => { edge with data := edge.data.patched patch } := by
  rw [edge?, edge?, updateEdge, changeEdge]
  apply find?_changeFirst
  intro edge
  rfl

theorem inUse_iff (graph : Graph) (id : String) :
    graph.inUse id = true ↔ id ∈ graph.nodeIds ∨ id ∈ graph.edgeIds := by
  rw [inUse, Bool.or_eq_true, hasNode_iff, hasEdge_iff]

theorem edgeIds_of_wiring {graph after : Graph}
    (h : after.edges.map Edge.wiring = graph.edges.map Edge.wiring) :
    after.edgeIds = graph.edgeIds := by
  have := congrArg (List.map Prod.fst) h
  rwa [List.map_map, List.map_map] at this

theorem freshId_notMem {graph : Graph} {stem id : String} {mint : IdMint}
    (h : graph.freshId stem = some (id, mint)) : id ∉ graph.nodeIds ∧ id ∉ graph.edgeIds := by
  have hfree := IdMint.fresh_unused h
  rw [← not_or, ← inUse_iff, hfree]
  exact Bool.false_ne_true

/-! ## What an operation changes -/

/-- What an operation can do to the ids and the wiring of a graph. -/
inductive Change (graph : Graph) : Step → Graph → Outcome → Prop
  | addNode (draft : NodeDraft) (node : Node) (mint : IdMint)
      (fresh : graph.freshId IdMint.nodeStem = some (node.id, mint)) :
      Change graph (.addNode draft) { graph with nodes := graph.nodes ++ [node], mint }
        (.added (some node.id))
  | addEdge (link : Connection) (edge : Edge) (mint : IdMint)
      (fresh : graph.freshId IdMint.edgeStem = some (edge.id, mint))
      (source : graph.hasNode link.source) (target : graph.hasNode link.target)
      (ends : edge.source = link.source ∧ edge.target = link.target) :
      Change graph (.addEdge link) { graph with edges := graph.edges ++ [edge], mint }
        (.added (some edge.id))
  /-- Nothing but the contents of nodes and edges changes, if anything does. -/
  | revise (step : Step) (after : Graph) (answer : Outcome)
      (nodeIds : after.nodeIds = graph.nodeIds)
      (wiring : after.edges.map Edge.wiring = graph.edges.map Edge.wiring)
      (mint : after.mint = graph.mint) (unnamed : ∀ id, answer ≠ .added (some id)) :
      Change graph step after answer
  | deleteNode (step : Step) (id : String) (answer : Outcome)
      (unnamed : ∀ id, answer ≠ .added (some id)) :
      Change graph step
        { graph with
          nodes := graph.nodes.eraseP (·.id = id)
          edges := graph.edges.filter (!·.touches id) } answer
  | deleteEdge (step : Step) (id : String) (answer : Outcome)
      (unnamed : ∀ id, answer ≠ .added (some id)) :
      Change graph step { graph with edges := graph.edges.filter (·.id ≠ id) } answer
  | replace (diagram : Diagram) :
      Change graph (.replaceAll diagram) (graph.replaceAll diagram) .nothing

theorem change_refused (graph : Graph) (step : Step) {answer : Outcome}
    (h : ∀ id, answer ≠ .added (some id)) : Change graph step graph answer :=
  .revise step graph answer rfl rfl rfl h

theorem change_changeNode (graph : Graph) (step : Step) (id : String) {change : Node → Node}
    (hid : ∀ node, (change node).id = node.id) (done : Bool) :
    Change graph step (graph.changeNode id change) (.accepted done) :=
  .revise step _ _ (map_changeFirst hid _ _) rfl rfl (by simp)

theorem change_changeEdge (graph : Graph) (step : Step) (id : String) {change : Edge → Edge}
    (hwiring : ∀ edge, (change edge).wiring = edge.wiring) (done : Bool) :
    Change graph step (graph.changeEdge id change) (.accepted done) :=
  .revise step _ _ rfl (map_changeFirst hwiring _ _) rfl (by simp)

/-- Every operation makes one of the changes. -/
theorem step_change (graph : Graph) (step : Step) :
    Change graph step (graph.step step).1 (graph.step step).2 := by
  cases step with
  | addNode draft =>
    simp only [Graph.step, Graph.addNode]
    cases hfresh : graph.freshId IdMint.nodeStem with
    | none => exact change_refused graph _ (by simp)
    | some found =>
      obtain ⟨id, mint⟩ := found
      exact .addNode draft ⟨id, draft.kind, draft.position, draft.data, draft.style⟩ mint hfresh
  | addEdge link =>
    simp only [Graph.step, Graph.addEdge]
    split_ifs with hends
    · rw [Bool.and_eq_true] at hends
      cases hfresh : graph.freshId IdMint.edgeStem with
      | none => exact change_refused graph _ (by simp)
      | some found =>
        obtain ⟨id, mint⟩ := found
        exact .addEdge link ⟨id, link.source, link.target, link.sourceHandle, link.targetHandle,
          Edge.drawnType, {}⟩ mint hfresh hends.1 hends.2 ⟨rfl, rfl⟩
    · exact change_refused graph _ (by simp)
  | updateNode id patch =>
    refine change_changeNode graph _ id ?_ _
    intro node
    rfl
  | updateEdge id patch =>
    refine change_changeEdge graph _ id ?_ _
    intro edge
    rfl
  | moveNode id position =>
    refine change_changeNode graph _ id ?_ _
    intro node
    rfl
  | resizeNode id size =>
    simp only [Graph.step, Graph.resizeNode]
    split
    · split_ifs
      · refine change_changeNode graph _ id ?_ _
        intro node
        rfl
      · exact change_refused graph _ (by simp)
    · exact change_refused graph _ (by simp)
  | deleteElement id =>
    simp only [Graph.step, Graph.deleteElement]
    split_ifs
    · exact .deleteNode _ id _ (by simp)
    · exact .deleteEdge _ id _ (by simp)
    · exact .deleteEdge _ id _ (by simp)
  | deleteEdge id => exact .deleteEdge _ id _ (by simp [Graph.step])
  | replaceAll diagram => exact .replace diagram

/-! ## Soundness -/

/-- No two nodes share an id, no two edges share an id, and every edge joins nodes that are
there. -/
structure Sound (graph : Graph) : Prop where
  nodes : graph.nodeIds.Nodup
  edges : graph.edgeIds.Nodup
  ends : ∀ edge ∈ graph.edges, edge.source ∈ graph.nodeIds ∧ edge.target ∈ graph.nodeIds

theorem sound_empty : Sound {} where
  nodes := List.nodup_nil
  edges := List.nodup_nil
  ends := by simp

theorem sound_replaceAll (graph : Graph) (diagram : Diagram) :
    Sound (graph.replaceAll diagram) where
  nodes := diagram.nodup_repaired_nodes
  edges := diagram.nodup_repaired_edges
  ends := fun _ h => diagram.repaired_ends h

theorem mem_nodeIds_eraseP {graph : Graph} {id other : String} (hne : other ≠ id)
    (h : other ∈ graph.nodeIds) : other ∈ (graph.nodes.eraseP (·.id = id)).map (·.id) := by
  obtain ⟨node, hnode, rfl⟩ := List.mem_map.mp h
  exact List.mem_map_of_mem ((List.mem_eraseP_of_neg (by simpa using hne)).mpr hnode)

/-- Soundness is a matter of the ids of the nodes and of the wiring. -/
theorem Sound.of_wiring {graph after : Graph} (h : graph.Sound)
    (hnodeIds : after.nodeIds = graph.nodeIds)
    (hwiring : after.edges.map Edge.wiring = graph.edges.map Edge.wiring) : after.Sound := by
  have hids := edgeIds_of_wiring hwiring
  refine ⟨hnodeIds ▸ h.nodes, hids ▸ h.edges, fun edge hedge => ?_⟩
  -- An edge of the same wiring was there before.
  have hmem : edge.wiring ∈ graph.edges.map Edge.wiring := hwiring ▸ List.mem_map_of_mem hedge
  obtain ⟨other, hother, hsame⟩ := List.mem_map.mp hmem
  simp only [Edge.wiring, Prod.mk.injEq] at hsame
  rw [hnodeIds, ← hsame.2.1, ← hsame.2.2]
  exact h.ends other hother

theorem Sound.change {graph after : Graph} {step : Step} {answer : Outcome} (h : graph.Sound)
    (hchange : Change graph step after answer) : after.Sound := by
  cases hchange with
  | addNode draft node mint fresh =>
    have hkeep : graph.nodeIds ⊆ (graph.nodes ++ [node]).map (·.id) := by
      rw [List.map_append]
      exact List.subset_append_left _ _
    refine ⟨?_, h.edges, fun edge hedge => ?_⟩
    · rw [nodeIds, List.map_append, List.map_singleton, ← List.concat_eq_append]
      exact List.Nodup.concat (freshId_notMem fresh).1 h.nodes
    · exact ⟨hkeep (h.ends edge hedge).1, hkeep (h.ends edge hedge).2⟩
  | addEdge link edge mint fresh source target ends =>
    refine ⟨h.nodes, ?_, fun other hother => ?_⟩
    · rw [edgeIds, List.map_append, List.map_singleton, ← List.concat_eq_append]
      exact List.Nodup.concat (freshId_notMem fresh).2 h.edges
    · rcases List.mem_append.mp hother with hold | hnew
      · exact h.ends other hold
      · rw [List.mem_singleton.mp hnew, ends.1, ends.2]
        exact ⟨(hasNode_iff _ _).mp source, (hasNode_iff _ _).mp target⟩
  | revise _ _ _ hnodeIds hwiring _ _ => exact h.of_wiring hnodeIds hwiring
  | deleteNode _ id _ _ =>
    refine ⟨h.nodes.sublist (List.eraseP_sublist.map _),
      h.edges.sublist (List.filter_sublist.map _), fun edge hedge => ?_⟩
    obtain ⟨hold, htouch⟩ := List.mem_filter.mp hedge
    simp only [Edge.touches, Bool.not_eq_true', Bool.or_eq_false_iff, decide_eq_false_iff_not]
      at htouch
    have hends := h.ends edge hold
    exact ⟨mem_nodeIds_eraseP htouch.1 hends.1, mem_nodeIds_eraseP htouch.2 hends.2⟩
  | deleteEdge _ id _ _ =>
    refine ⟨h.nodes, h.edges.sublist (List.filter_sublist.map _), fun edge hedge => ?_⟩
    exact h.ends edge (List.mem_filter.mp hedge).1
  | replace diagram => exact sound_replaceAll graph diagram

/-- An operation keeps a graph sound. -/
theorem sound_step {graph : Graph} (h : graph.Sound) (step : Step) : (graph.step step).1.Sound :=
  h.change (step_change graph step)

theorem sound_run {graph : Graph} (h : graph.Sound) (steps : List Step) :
    (graph.run steps).Sound := by
  induction steps generalizing graph with
  | nil => exact h
  | cons step steps ih => exact ih (sound_step h step)

/-- The diagram of a sound graph is installed as it is. -/
theorem Sound.diagram_replaceAll {graph : Graph} (h : graph.Sound) (prior : Graph) :
    (prior.replaceAll graph.diagram).diagram = graph.diagram :=
  Diagram.repaired_eq_self h.nodes h.edges h.ends

/-- **Soundness.** Whatever the operations, and however broken the diagrams that are installed on
the way, every graph that is reached from the empty graph or from the graph of a diagram has
distinct node ids, distinct edge ids, and edges only between nodes that are there. -/
theorem sound_everywhere (steps : List Step) :
    (({} : Graph).run steps).Sound ∧
      ∀ diagram : Diagram, ((ofDiagram diagram).run steps).Sound := by
  constructor
  · exact sound_run sound_empty steps
  · intro diagram
    exact sound_run (sound_replaceAll {} diagram) steps

end Graph

end DiagramStudio
