import DiagramStudio.Proofs.Graph.Sound

/-!
# Replacing a graph

A diagram that is installed takes the place of everything. The repair that it undergoes is exact:
it takes away what is repeated or dangling and nothing else, so that it leaves a sound diagram as it
is. Of the graph before, only the counter of ids goes on; it moves past the ids of the diagram, in
whatever order these are looked at.

Results:
* `replaceAll_replaceAll`: a diagram that is installed again changes nothing.
* `replacement_is_exact`: what a graph is after a diagram was installed.
-/

namespace DiagramStudio.Graph

/-- A diagram that is installed again changes nothing. -/
theorem replaceAll_replaceAll (graph : Graph) (diagram : Diagram) :
    (graph.replaceAll diagram).replaceAll (graph.replaceAll diagram).diagram =
      graph.replaceAll diagram := by
  have hdiagram :
      (graph.replaceAll diagram).diagram.repaired = (graph.replaceAll diagram).diagram :=
    (sound_replaceAll graph diagram).diagram_replaceAll graph
  have hmint : (graph.replaceAll diagram).ids.foldl IdMint.reserve (graph.replaceAll diagram).mint =
      (graph.replaceAll diagram).mint := by
    apply IdMint.reserveAll_eq_self
    intro id hid
    exact IdMint.above_le_reserveAll hid graph.mint
  generalize graph.replaceAll diagram = after at hdiagram hmint
  show Graph.mk after.diagram.repaired.nodes after.diagram.repaired.edges _ = after
  simp only [hdiagram]
  exact congrArg (Graph.mk after.nodes after.edges) hmint

/-- **Replacement is exact.** After a diagram was installed in whatever graph, the nodes are the
first of each id, and the edges are the first of each id among those that join nodes of the diagram,
in the order of the diagram and whatever was there before. So a diagram without repeated ids and
dangling edges is installed as it is, as is that of every graph that operations reach, and a second
repair changes nothing. The counter stays, or moves just past the greatest number that an id spells,
the largest one apart, and the order in which the ids are reserved does not matter. -/
theorem replacement_is_exact (graph : Graph) (diagram : Diagram) :
    let after := graph.replaceAll diagram
    let ids := diagram.nodes.map (·.id)
    after.nodes = firsts (fun _ => true) (·.id) diagram.nodes ∧
    after.edges =
      firsts (fun edge => edge.source ∈ ids ∧ edge.target ∈ ids) (·.id) diagram.edges ∧
    (∀ other : Graph, (other.replaceAll diagram).diagram = after.diagram) ∧
    (ids.Nodup → (diagram.edges.map (·.id)).Nodup →
      (∀ edge ∈ diagram.edges, edge.source ∈ ids ∧ edge.target ∈ ids) →
      after.diagram = diagram) ∧
    (∀ start steps, (start = {} ∨ ∃ first, start = ofDiagram first) →
      (graph.replaceAll (start.run steps).diagram).diagram = (start.run steps).diagram) ∧
    after.replaceAll after.diagram = after ∧
    IsGreatest {n | n = graph.mint.next.toNat ∨
      ∃ id ∈ after.ids, ∃ m, IdMint.Spells id m ∧ m < IdMint.top.toNat ∧ n = m + 1}
      after.mint.next.toNat ∧
    ∀ order : List String, order.Perm after.ids →
      order.foldl IdMint.reserve graph.mint = after.mint := by
  intro after ids
  refine ⟨diagram.repaired_nodes, diagram.repaired_edges, fun other => rfl,
    Diagram.repaired_eq_self, ?reachable, replaceAll_replaceAll graph diagram,
    IdMint.isGreatest_reserveAll after.ids graph.mint, ?order⟩
  case reachable =>
    rintro start steps (rfl | ⟨first, rfl⟩)
    · exact (sound_run sound_empty steps).diagram_replaceAll graph
    · exact (sound_run (sound_replaceAll {} first) steps).diagram_replaceAll graph
  case order =>
    intro order horder
    have hmem : ∀ id, id ∈ order ↔ id ∈ after.ids := fun id => horder.mem_iff
    exact IdMint.reserveAll_of_mem_iff hmem graph.mint

/-- A repeated node and a repeated edge are taken away, and a dangling edge that comes before the
one of its id. What is left is installed as it is, and an id with a plus sign counts. -/
theorem replacement_of_broken_diagram :
    let node (id : String) : Node := ⟨id, .custom, .origin, {}, none⟩
    let edge (id source target : String) : Edge :=
      ⟨id, source, target, none, none, Edge.drawnType, {}⟩
    let broken : Diagram := ⟨[node "dndnode_7", node "b", node "b"],
      [edge "e" "b" "zz", edge "e" "dndnode_7" "b", edge "e" "b" "b", edge "edge_+09" "b" "b"]⟩
    let mended : Diagram := ⟨[node "dndnode_7", node "b"],
      [edge "e" "dndnode_7" "b", edge "edge_+09" "b" "b"]⟩
    let graph : Graph := { mint := ⟨3⟩ }
    let steps := [Step.replaceAll broken, .deleteElement "b"]
    (graph.replaceAll broken).diagram = mended ∧ (graph.replaceAll mended).diagram = mended ∧
      (graph.replaceAll (run {} steps).diagram).diagram = (run {} steps).diagram ∧
      ["b", "edge_+09", "e", "dndnode_7"].foldl IdMint.reserve graph.mint = ⟨10⟩ := by
  intro node edge broken mended graph steps
  obtain ⟨-, -, -, hsound, hreached, -, -, horder⟩ := replacement_is_exact graph mended
  have hends : ∀ edge ∈ mended.edges, edge.source ∈ mended.nodes.map (·.id) ∧
      edge.target ∈ mended.nodes.map (·.id) := by
    simp [mended, node, edge]
  have hmint : (graph.replaceAll mended).mint = ⟨10⟩ := by decide +kernel
  refine ⟨rfl, hsound (by decide +kernel) (by decide +kernel) hends,
    hreached {} steps (.inl rfl), ?_⟩
  rw [← hmint]
  exact horder _ (by decide +kernel)

end DiagramStudio.Graph
