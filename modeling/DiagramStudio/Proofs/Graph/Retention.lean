import DiagramStudio.Proofs.Diagram.Reread

/-!
# What operations keep of an element

Whatever is done with a graph, the members of an element's data that are not understood stay as they
are, as long as the element is there. Operations that change contents do not touch them, those that
add bear no id that was there, and those that delete keep the other elements. A diagram that was
read back from what is written of a graph is not said to be the same diagram, but it keeps every
element and what reading left of its data.

Results:
* `keeps_step`: an operation keeps the other members of every element that stays.
* `Sound.diagram_reread`: a diagram that was read back is installed as it is.
* `nodeExtra?_reread`, `edgeExtra?_reread`: it keeps the other members of every element.
-/

namespace DiagramStudio

/-! ## Items that stay -/

section Items

variable {α β : Type} {key : α → String} {kept : α → β} {items after : List α} {id : String}

/-- Whether items that are found again under their keys have what is to be kept of them. -/
def Saves (key : α → String) (kept : α → β) (items after : List α) : Prop :=
  ∀ id item later, items.find? (key · = id) = some item → after.find? (key · = id) = some later →
    kept later = kept item

theorem saves_of_map (h : after.map (fun item => (key item, kept item)) =
    items.map fun item => (key item, kept item)) : Saves key kept items after := by
  intro id item later hitem hlater
  have hfind : ∀ list : List α,
      ((list.map fun item => (key item, kept item)).find? (·.1 = id)).map (·.2) =
        (list.find? (key · = id)).map kept := by
    intro list
    rw [List.find?_map, Option.map_map]
    rfl
  have hsame := hfind after
  rw [h, hfind, hitem, hlater] at hsame
  exact (Option.some_inj.mp hsame).symm

theorem saves_append (items more : List α) : Saves key kept items (items ++ more) := by
  intro id item later hitem hlater
  rw [List.find?_append, hitem, Option.some_or] at hlater
  cases hlater
  rfl

theorem saves_sublist (hkeys : (items.map key).Nodup) (h : after.Sublist items) :
    Saves key kept items after := by
  intro id item later hitem hlater
  obtain rfl : key later = id := by simpa using List.find?_some hlater
  rw [find?_of_mem hkeys (h.subset (List.mem_of_find?_eq_some hlater))] at hitem
  cases hitem
  rfl

/-- What is kept of an item is found with it, if it is found at all. -/
theorem Saves.find? (h : Saves key kept items after) {value : β}
    (hvalue : (items.find? (key · = id)).map kept = some value)
    (hthere : (after.find? (key · = id)).isSome = true) :
    (after.find? (key · = id)).map kept = some value := by
  obtain ⟨item, hitem, rfl⟩ := Option.map_eq_some_iff.mp hvalue
  obtain ⟨later, hlater⟩ := Option.isSome_iff_exists.mp hthere
  rw [hlater, Option.map_some, h id item later hitem hlater]

section Related

variable {R : α → α → Prop} (h : List.Forall₂ R items after)

include h

/-- Where two lists are related item by item and have the same keys, what is found in the one and
is the same of related items is found in the other. -/
theorem find?_of_forall₂ (hkey : ∀ item other, R item other → key other = key item) {value : β}
    (hkept : ∀ item other, R item other → kept item = value → kept other = value)
    (hvalue : (items.find? (key · = id)).map kept = some value) :
    (after.find? (key · = id)).map kept = some value := by
  induction h with
  | nil => exact hvalue
  | @cons first other _ _ hone _ ih =>
    have hsame := hkey first other hone
    by_cases hfirst : key first = id
    · simp only [List.find?_cons, hfirst, decide_true, Option.map_some] at hvalue
      simp only [List.find?_cons, hsame, hfirst, decide_true, Option.map_some]
      rw [hkept first other hone (Option.some_inj.mp hvalue)]
    · simp only [List.find?_cons, hfirst, decide_false] at hvalue
      simp only [List.find?_cons, hsame, hfirst, decide_false]
      exact ih hvalue

/-- Where two lists are related item by item, what is the same of related items is the same of the
lists. -/
theorem map_eq_of_forall₂ (hkept : ∀ item other, R item other → kept other = kept item) :
    after.map kept = items.map kept := by
  rw [← List.forall₂_eq_eq_eq, List.forall₂_map_left_iff, List.forall₂_map_right_iff]
  exact (h.imp fun _ _ hone => hkept _ _ hone).flip

end Related

end Items

/-- What no operation changes of a node that stays. -/
def Node.lasting (node : Node) : String × List (String × Json) := (node.id, node.data.extra)

/-- What no operation changes of an edge that stays. -/
def Edge.lasting (edge : Edge) : String × List (String × Json) := (edge.id, edge.data.extra)

namespace Graph

variable {graph after : Graph} {id : String} {extra : List (String × Json)}

/-- The members that are not understood, of the data of a node. -/
def nodeExtra? (graph : Graph) (id : String) : Option (List (String × Json)) :=
  (graph.node? id).map (·.data.extra)

/-- The members that are not understood, of the data of an edge. -/
def edgeExtra? (graph : Graph) (id : String) : Option (List (String × Json)) :=
  (graph.edge? id).map (·.data.extra)

/-! ## What an operation keeps -/

/-- Whether all elements are there again, with the members that are not understood. -/
structure Mirrors (graph after : Graph) : Prop where
  nodes : after.nodes.map Node.lasting = graph.nodes.map Node.lasting
  edges : after.edges.map Edge.lasting = graph.edges.map Edge.lasting

theorem mirrors_refl (graph : Graph) : graph.Mirrors graph := ⟨rfl, rfl⟩

theorem Mirrors.trans {between : Graph} (h : graph.Mirrors between)
    (hafter : between.Mirrors after) : graph.Mirrors after :=
  ⟨hafter.nodes.trans h.nodes, hafter.edges.trans h.edges⟩

theorem mirrors_changeNode (graph : Graph) (id : String) {change : Node → Node}
    (hlasting : ∀ node, (change node).lasting = node.lasting) :
    graph.Mirrors (graph.changeNode id change) :=
  ⟨map_changeFirst hlasting _ _, rfl⟩

theorem mirrors_changeEdge (graph : Graph) (id : String) {change : Edge → Edge}
    (hlasting : ∀ edge, (change edge).lasting = edge.lasting) :
    graph.Mirrors (graph.changeEdge id change) :=
  ⟨rfl, map_changeFirst hlasting _ _⟩

/-- Whether every element that is there again has the members that are not understood. -/
structure Keeps (graph after : Graph) : Prop where
  nodes : Saves Node.id (·.data.extra) graph.nodes after.nodes
  edges : Saves Edge.id (·.data.extra) graph.edges after.edges

theorem Mirrors.keeps (h : graph.Mirrors after) : graph.Keeps after :=
  ⟨saves_of_map h.nodes, saves_of_map h.edges⟩

theorem Keeps.nodeExtra? (h : graph.Keeps after) (hextra : graph.nodeExtra? id = some extra)
    (hthere : after.hasNode id = true) : after.nodeExtra? id = some extra :=
  h.nodes.find? hextra hthere

theorem Keeps.edgeExtra? (h : graph.Keeps after) (hextra : graph.edgeExtra? id = some extra)
    (hthere : after.hasEdge id = true) : after.edgeExtra? id = some extra :=
  h.edges.find? hextra hthere

/-- The diagram that an operation installs, if it does. -/
def Step.installs? : Step → Option Diagram
  | .replaceAll diagram => some diagram
  | _ => none

/-- Elements that go away are nothing to those that stay. -/
theorem Sound.keeps_of_sublist (h : graph.Sound) (hnodes : after.nodes.Sublist graph.nodes)
    (hedges : after.edges.Sublist graph.edges) : graph.Keeps after :=
  ⟨saves_sublist h.nodes hnodes, saves_sublist h.edges hedges⟩

/-- An operation keeps the other members of every element that stays, unless it installs a
diagram. -/
theorem keeps_step (h : graph.Sound) {step : Step} (hstep : step.installs? = none) :
    graph.Keeps (graph.step step).1 := by
  cases step with
  | addNode draft =>
    simp only [Graph.step, Graph.addNode]
    split
    · exact (mirrors_refl graph).keeps
    · exact ⟨saves_append _ _, (mirrors_refl graph).keeps.edges⟩
  | addEdge link =>
    simp only [Graph.step, Graph.addEdge]
    split_ifs
    · split
      · exact (mirrors_refl graph).keeps
      · exact ⟨(mirrors_refl graph).keeps.nodes, saves_append _ _⟩
    · exact (mirrors_refl graph).keeps
  | updateNode id patch =>
    refine (mirrors_changeNode graph id ?_).keeps
    intro node
    rfl
  | updateEdge id patch =>
    refine (mirrors_changeEdge graph id ?_).keeps
    intro edge
    rfl
  | moveNode id position =>
    refine (mirrors_changeNode graph id ?_).keeps
    intro node
    rfl
  | resizeNode id size =>
    simp only [Graph.step, Graph.resizeNode]
    split
    · split_ifs
      · refine (mirrors_changeNode graph id ?_).keeps
        intro node
        rfl
      · exact (mirrors_refl graph).keeps
    · exact (mirrors_refl graph).keeps
  | deleteElement id =>
    simp only [Graph.step, Graph.deleteElement]
    split_ifs
    · exact h.keeps_of_sublist List.eraseP_sublist List.filter_sublist
    all_goals exact h.keeps_of_sublist (List.Sublist.refl _) List.filter_sublist
  | deleteEdge id => exact h.keeps_of_sublist (List.Sublist.refl _) List.filter_sublist
  | replaceAll diagram => cases hstep

/-! ## Diagrams that were read back -/

section Reread

variable {diagram : Diagram} (h : graph.Sound) (hreread : graph.diagram.Reread diagram)
  (prior : Graph)

include h hreread

/-- A diagram that was read back is installed as it is. -/
theorem Sound.diagram_reread : (prior.replaceAll diagram).diagram = diagram := by
  have hnodes : diagram.nodes.map (·.id) = graph.nodeIds :=
    map_eq_of_forall₂ hreread.nodes fun _ _ hnode => hnode.id
  have hwiring : diagram.edges.map Edge.wiring = graph.edges.map Edge.wiring :=
    map_eq_of_forall₂ hreread.edges fun _ _ hedge => hedge.wiring
  have hsound : Sound ⟨diagram.nodes, diagram.edges, prior.mint⟩ := h.of_wiring hnodes hwiring
  exact hsound.diagram_replaceAll prior

theorem nodeExtra?_reread (hspare : NodeData.shape.Spare extra)
    (hextra : graph.nodeExtra? id = some extra) :
    (prior.replaceAll diagram).nodeExtra? id = some extra := by
  have hinstalled : (prior.replaceAll diagram).nodes = diagram.nodes :=
    congrArg Diagram.nodes (h.diagram_reread hreread prior)
  rw [nodeExtra?, node?, hinstalled]
  refine find?_of_forall₂ hreread.nodes (fun _ _ hnode => hnode.id) ?_ hextra
  intro node other hnode hkept
  rw [hnode.data (hkept ▸ hspare), hkept]

theorem edgeExtra?_reread (hspare : EdgeData.shape.Spare extra)
    (hextra : graph.edgeExtra? id = some extra) :
    (prior.replaceAll diagram).edgeExtra? id = some extra := by
  have hinstalled : (prior.replaceAll diagram).edges = diagram.edges :=
    congrArg Diagram.edges (h.diagram_reread hreread prior)
  rw [edgeExtra?, edge?, hinstalled]
  refine find?_of_forall₂ hreread.edges (fun _ _ hedge => hedge.id) ?_ hextra
  intro edge other hedge hkept
  rw [hedge.data (hkept ▸ hspare), hkept]

end Reread

end Graph

end DiagramStudio
