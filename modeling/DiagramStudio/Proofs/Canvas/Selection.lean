import DiagramStudio.Proofs.Canvas.Revision
import DiagramStudio.Proofs.Graph.Sound

/-!
# The selection never dangles

The selection is a tag and an id, and nothing but the operations themselves keeps the element that
it names in the graph. A canvas is anchored when that element is there. Operations that only add or
revise keep every id, so they keep a canvas anchored; those that take something away select nothing
afterwards, or take away something else.

Results:
* `anchored_step`, `Inspector.anchored_step`: gestures and steps of an inspector keep a canvas
  anchored.
* `selection_never_dangles`: whatever is done on a canvas and in its inspector, the element that is
  selected is in the graph, and the inspector shows it.
-/

namespace DiagramStudio

/-- The selection that names an element. -/
def Selected.pointer : Selected → Selection
  | .node found => .node found.id
  | .edge found => .edge found.id

namespace Graph

/-! ## What adding and revising leave -/

/-- Whether no node and no edge went away: their ids are still there. -/
structure Within (graph after : Graph) : Prop where
  nodes : graph.nodeIds ⊆ after.nodeIds
  edges : graph.edgeIds ⊆ after.edgeIds

theorem within_refl (graph : Graph) : graph.Within graph :=
  ⟨List.Subset.refl _, List.Subset.refl _⟩

theorem within_addNode (graph : Graph) (draft : NodeDraft) :
    graph.Within (graph.addNode draft).1 := by
  rw [addNode]
  split
  · exact within_refl graph
  · refine ⟨?_, List.Subset.refl _⟩
    simp only [nodeIds, List.map_append]
    exact List.subset_append_left _ _

theorem within_addEdge (graph : Graph) (link : Connection) :
    graph.Within (graph.addEdge link).1 := by
  rw [addEdge]
  split_ifs
  · split
    · exact within_refl graph
    · refine ⟨List.Subset.refl _, ?_⟩
      simp only [edgeIds, List.map_append]
      exact List.subset_append_left _ _
  · exact within_refl graph

theorem within_changeNode (graph : Graph) (id : String) {change : Node → Node}
    (hid : ∀ node, (change node).id = node.id) : graph.Within (graph.changeNode id change) := by
  refine ⟨?_, List.Subset.refl _⟩
  rw [nodeIds, nodeIds, changeNode, map_changeFirst hid]
  exact List.Subset.refl _

theorem within_changeEdge (graph : Graph) (id : String) {change : Edge → Edge}
    (hid : ∀ edge, (change edge).id = edge.id) : graph.Within (graph.changeEdge id change) := by
  refine ⟨List.Subset.refl _, ?_⟩
  rw [edgeIds, edgeIds, changeEdge, map_changeFirst hid]
  exact List.Subset.refl _

theorem within_resizeNode (graph : Graph) (id : String) (size : Size) :
    graph.Within (graph.resizeNode id size).1 := by
  rw [resizeNode]
  split
  · split_ifs
    · exact within_changeNode graph id fun _ => rfl
    · exact within_refl graph
  · exact within_refl graph

/-- The edges that are left when one is deleted. -/
theorem mem_edgeIds_deleteEdge {graph : Graph} {id other : String} :
    other ∈ (graph.deleteEdge id).1.edgeIds ↔ other ∈ graph.edgeIds ∧ other ≠ id := by
  simp only [deleteEdge, edgeIds, List.mem_map, List.mem_filter, decide_eq_true_eq]
  constructor
  · rintro ⟨edge, ⟨hmem, hne⟩, rfl⟩
    exact ⟨⟨edge, hmem, rfl⟩, hne⟩
  · rintro ⟨⟨edge, hmem, rfl⟩, hne⟩
    exact ⟨edge, ⟨hmem, hne⟩, rfl⟩

end Graph

/-! ## Anchored canvases -/

/-- Whether a graph has the element that a selection names. -/
def Selection.In (graph : Graph) : Selection → Prop
  | .none => True
  | .node id => id ∈ graph.nodeIds
  | .edge id => id ∈ graph.edgeIds

theorem Selection.In.mono {graph after : Graph} {selection : Selection}
    (h : selection.In graph) (hwithin : graph.Within after) : selection.In after := by
  cases selection with
  | none => trivial
  | node id => exact hwithin.nodes h
  | edge id => exact hwithin.edges h

namespace Canvas

/-- Whether the graph has the element that is selected. -/
def Anchored (canvas : Canvas) : Prop := canvas.selection.In canvas.graph

variable {canvas : Canvas}

theorem Anchored.withGraph {α : Type} (h : canvas.Anchored) {changed : Graph × α}
    (hwithin : canvas.graph.Within changed.1) : (canvas.withGraph changed).1.Anchored :=
  Selection.In.mono h hwithin

theorem anchored_of_none (h : canvas.selection = .none) : canvas.Anchored := by
  rw [Anchored, h]
  trivial

theorem Anchored.updateNode (h : canvas.Anchored) (id : String) (patch : NodePatch) :
    (canvas.updateNode id patch).1.Anchored :=
  h.withGraph (canvas.graph.within_changeNode id fun _ => rfl)

theorem Anchored.updateEdge (h : canvas.Anchored) (id : String) (patch : EdgePatch) :
    (canvas.updateEdge id patch).1.Anchored :=
  h.withGraph (canvas.graph.within_changeEdge id fun _ => rfl)

theorem Anchored.of_revision (h : canvas.Anchored) {after : Canvas}
    (hrevision : canvas.Revision after) : after.Anchored := by
  induction hrevision with
  | refl => exact h
  | updateNode _ id patch ih => exact ih.updateNode id patch
  | updateEdge _ id patch ih => exact ih.updateEdge id patch

theorem anchored_deleteSelection (canvas : Canvas) : canvas.deleteSelection.1.Anchored := by
  refine anchored_of_none ?_
  rw [deleteSelection]
  split <;> rfl

theorem Anchored.removeEdge (h : canvas.Anchored) (id : String) :
    (canvas.removeEdge id).1.Anchored := by
  rw [Canvas.removeEdge]
  split_ifs with hselected
  · exact anchored_of_none rfl
  · simp only [Anchored, Canvas.withGraph] at h ⊢
    cases hselection : canvas.selection with
    | none => trivial
    | node other =>
      -- Only edges go away, also where an edge bears the id of the node.
      rw [hselection] at h
      exact h
    | edge other =>
      rw [hselection] at h hselected
      exact Graph.mem_edgeIds_deleteEdge.mpr ⟨h, fun hsame => hselected (hsame ▸ rfl)⟩

/-- A gesture keeps a canvas anchored. -/
theorem anchored_step (h : canvas.Anchored) (step : Step) : (canvas.step step).1.Anchored := by
  cases step with
  | drop payload point =>
    simp only [Canvas.step, drop]
    split_ifs
    · exact h
    · exact h.withGraph (Graph.within_addNode _ _)
  | connect link => exact h.withGraph (Graph.within_addEdge _ _)
  | drag id position => exact h.withGraph (Graph.within_changeNode _ id fun _ => rfl)
  | resize id size => exact h.withGraph (Graph.within_resizeNode _ _ _)
  | clickNode id =>
    simp only [Canvas.step, clickNode]
    split_ifs with hnode
    · exact (Graph.hasNode_iff _ _).mp hnode
    · exact h
  | clickEdge id =>
    simp only [Canvas.step, clickEdge]
    split_ifs with hedge
    · exact (Graph.hasEdge_iff _ _).mp hedge
    · exact h
  | clickPane => exact anchored_of_none rfl
  | deleteSelection => exact anchored_deleteSelection canvas
  | removeEdge id => exact h.removeEdge id
  | look move => exact h
  | updateNode id patch => exact h.updateNode id patch
  | updateEdge id patch => exact h.updateEdge id patch
  | load diagram => exact anchored_of_none rfl

/-! ## Looking up the selection -/

/-- What is found under the selection is what it names. -/
theorem pointer_of_selected {found : Selected} (h : canvas.selected = some found) :
    found.pointer = canvas.selection := by
  rw [selected] at h
  cases hselection : canvas.selection with
  | none =>
    rw [hselection] at h
    cases h
  | node id =>
    rw [hselection] at h
    obtain ⟨node, hnode, rfl⟩ := Option.map_eq_some_iff.mp h
    have hid : node.id = id := by simpa using List.find?_some hnode
    rw [Selected.pointer, hid]
  | edge id =>
    rw [hselection] at h
    obtain ⟨edge, hedge, rfl⟩ := Option.map_eq_some_iff.mp h
    have hid : edge.id = id := by simpa using List.find?_some hedge
    rw [Selected.pointer, hid]

/-- On an anchored canvas something is found if anything is selected. -/
theorem Anchored.isSome_selected (h : canvas.Anchored) :
    canvas.selected.isSome = true ↔ canvas.selection ≠ .none := by
  rw [Anchored] at h
  rw [selected]
  cases hselection : canvas.selection with
  | none => simp
  | node id =>
    rw [hselection] at h
    simpa [Graph.hasNode] using (Graph.hasNode_iff _ _).mpr h
  | edge id =>
    rw [hselection] at h
    simpa [Graph.hasEdge] using (Graph.hasEdge_iff _ _).mpr h

end Canvas

/-! ## The inspector -/

namespace Inspector

variable {canvas : Canvas}

/-- A step of an inspector keeps its canvas anchored. -/
theorem anchored_step (inspector : Inspector) (h : canvas.Anchored) (step : Step) :
    (inspector.step canvas step).2.1.Anchored := by
  cases hclears : step.clears with
  | false => exact h.of_revision (inspector.revision_step canvas hclears)
  | true =>
    cases step with
    | close => exact Canvas.anchored_of_none rfl
    | delete => exact canvas.anchored_deleteSelection
    | _ => cases hclears

theorem view_eq_empty_iff (inspector : Inspector) :
    inspector.view canvas = .empty ↔ canvas.selected.isSome = false := by
  rw [view]
  split <;> simp_all

end Inspector

/-! ## Runs -/

namespace Canvas

/-- What is done on a canvas that is shown with an inspector. -/
inductive Action where
  | gesture (step : Step)
  | inspect (step : Inspector.Step)

/-- The inspector and the canvas after an action. -/
def act (state : Inspector × Canvas) : Action → Inspector × Canvas
  | .gesture step => (state.1, (state.2.step step).1)
  | .inspect step =>
    let (inspector, canvas, _) := state.1.step state.2 step
    (inspector, canvas)

/-- The inspector and the canvas after a run of actions. -/
def run (state : Inspector × Canvas) (actions : List Action) : Inspector × Canvas :=
  actions.foldl act state

theorem anchored_act {state : Inspector × Canvas} (h : state.2.Anchored) (action : Action) :
    (act state action).2.Anchored := by
  cases action with
  | gesture step => exact anchored_step h step
  | inspect step => exact state.1.anchored_step h step

theorem anchored_run {state : Inspector × Canvas} (h : state.2.Anchored) (actions : List Action) :
    (run state actions).2.Anchored := by
  induction actions generalizing state with
  | nil => exact h
  | cons action actions ih => exact ih (anchored_act h action)

/-- **The selection never dangles.** Whatever is done on the canvas of any graph and in its
inspector, a node that is selected is among the nodes of the graph, and an edge that is selected is
among its edges. So something is found under the selection exactly if anything is selected, it is
what was selected, and an inspector is empty exactly if nothing is selected. -/
theorem selection_never_dangles (graph : Graph) (inspector : Inspector) (actions : List Action) :
    let canvas := (run (inspector, ofGraph graph) actions).2
    (∀ id, canvas.selection = .node id → canvas.graph.hasNode id = true) ∧
      (∀ id, canvas.selection = .edge id → canvas.graph.hasEdge id = true) ∧
      (canvas.selected.isSome = true ↔ canvas.selection ≠ .none) ∧
      (∀ found, canvas.selected = some found → found.pointer = canvas.selection) ∧
      ∀ anyInspector : Inspector, anyInspector.view canvas = .empty ↔ canvas.selection = .none := by
  intro canvas
  have hanchored : canvas.Anchored := anchored_run (anchored_of_none rfl) actions
  refine ⟨fun id hid => ?_, fun id hid => ?_, hanchored.isSome_selected,
    fun found => pointer_of_selected, fun anyInspector => ?_⟩
  · rw [Anchored, hid] at hanchored
    exact (Graph.hasNode_iff _ _).mpr hanchored
  · rw [Anchored, hid] at hanchored
    exact (Graph.hasEdge_iff _ _).mpr hanchored
  · rw [anyInspector.view_eq_empty_iff, ← Bool.not_eq_true, hanchored.isSome_selected, not_not]

/-- An edge is selected and removed again, while a node bears the same id. -/
theorem selection_of_shared_id :
    let graph : Graph := .ofDiagram ⟨[⟨"a", .custom, .origin, {}, none⟩],
      [⟨"a", "a", "a", none, none, Edge.drawnType, {}⟩]⟩
    let clicked := (run ({}, ofGraph graph) [.gesture (.clickEdge "a")]).2
    let removed := (run ({}, ofGraph graph)
      [.gesture (.clickEdge "a"), .gesture (.removeEdge "a")]).2
    clicked.selection = .edge "a" ∧ clicked.graph.hasEdge "a" = true ∧
      removed.graph.hasNode "a" = true ∧ removed.selected.isSome = false := by
  intro graph clicked removed
  have hclicked : clicked.selection = .edge "a" := by decide +kernel
  have hremoved : removed.selection = .none := by decide +kernel
  have hedge := (selection_never_dangles graph {} [.gesture (.clickEdge "a")]).2.1
  have hsome := (selection_never_dangles graph {}
    [.gesture (.clickEdge "a"), .gesture (.removeEdge "a")]).2.2.1
  refine ⟨hclicked, hedge "a" hclicked, by decide +kernel, ?_⟩
  rw [Bool.eq_false_iff]
  exact fun h => hsome.mp h hremoved

end Canvas

end DiagramStudio
