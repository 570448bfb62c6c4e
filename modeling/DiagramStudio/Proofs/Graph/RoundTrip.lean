import DiagramStudio.Proofs.Diagram.RoundTrip
import DiagramStudio.Proofs.Graph.Sound

/-!
# Graphs are read back

What is written of a graph and read again is its diagram, and gives the same graph when it is
installed. Two invariants carry this: a graph that is built from documents is tidy, so that its
diagram is read back, and it is sound, so that the repair leaves the diagram as it is.

Results:
* `tidy_step`: operations with what was read from documents keep the diagram of a graph tidy.
* `diagram_ofDiagram`: the diagram of a sound graph is installed as it is.
* `diagram_round_trip`: the diagram of every graph that is built from documents is read back.
-/

namespace DiagramStudio

/-- Whether data were read from a document. -/
def NodeData.Decoded (data : NodeData) : Prop :=
  ∃ source doc, NodeData.read source doc = .ok data

/-- Whether a diagram was read from a document. -/
def Diagram.Decoded (diagram : Diagram) : Prop :=
  ∃ source doc, Diagram.read source doc = .ok diagram

theorem Diagram.decoded_of_ofJson {value : Json} {diagram : Diagram}
    (h : Diagram.ofJson value = .ok diagram) : diagram.Decoded :=
  ⟨_, _, h⟩

theorem Diagram.Decoded.tidy {diagram : Diagram} (h : diagram.Decoded) : diagram.Tidy := by
  obtain ⟨_, _, hread⟩ := h
  exact tidy_of_read hread

/-- A diagram whose nodes and edges are among those of a tidy one is tidy. -/
theorem Diagram.Tidy.mono {diagram part : Diagram} (h : diagram.Tidy)
    (hnodes : part.nodes ⊆ diagram.nodes) (hedges : part.edges ⊆ diagram.edges) : part.Tidy where
  nodes := fun node hnode => h.nodes node (hnodes hnode)
  edges := fun edge hedge => h.edges edge (hedges hedge)

theorem Diagram.Tidy.repaired {diagram : Diagram} (h : diagram.Tidy) : diagram.repaired.Tidy :=
  h.mono (firstOfEach_sublist _ _ _).subset
    (((firstOfEach_sublist _ _ _).trans List.filter_sublist).subset)

/-- What holds of all items, and of every item that is changed, holds after the change. -/
theorem forall_changeFirst {α : Type} {P : α → Prop} {test : α → Bool} {change : α → α}
    {items : List α} (h : ∀ item ∈ items, P item) (hchange : ∀ item, P item → P (change item)) :
    ∀ item ∈ changeFirst test change items, P item := by
  induction items with
  | nil => exact h
  | cons first rest ih =>
    rw [List.forall_mem_cons] at h
    rw [changeFirst]
    split_ifs
    · exact List.forall_mem_cons.mpr ⟨hchange first h.1, h.2⟩
    · exact List.forall_mem_cons.mpr ⟨h.1, ih h.2⟩

namespace Graph

/-- Whether what an operation brings into a graph was read from documents. -/
def Step.Decoded : Step → Prop
  | .addNode draft => draft.data.Decoded
  | .replaceAll diagram => diagram.Decoded
  | _ => True

/-- Whether a graph is empty or that of a diagram that was read from a document. -/
def Imported (graph : Graph) : Prop :=
  graph = {} ∨ ∃ diagram : Diagram, diagram.Decoded ∧ graph = ofDiagram diagram

/-! ## Tidiness -/

theorem tidy_empty : (diagram {}).Tidy :=
  ⟨fun _ h => absurd h List.not_mem_nil, fun _ h => absurd h List.not_mem_nil⟩

theorem tidy_replaceAll (graph : Graph) {diagram : Diagram} (h : diagram.Decoded) :
    (graph.replaceAll diagram).diagram.Tidy :=
  h.tidy.repaired

theorem Imported.tidy {graph : Graph} (h : graph.Imported) : graph.diagram.Tidy := by
  obtain rfl | ⟨diagram, hdecoded, rfl⟩ := h
  · exact tidy_empty
  · exact tidy_replaceAll {} hdecoded

variable {graph : Graph}

theorem tidy_changeNode (h : graph.diagram.Tidy) (id : String) {change : Node → Node}
    (hextra : ∀ node, (change node).data.extra = node.data.extra) :
    (graph.changeNode id change).diagram.Tidy :=
  ⟨forall_changeFirst h.nodes fun node hnode => (hextra node).symm ▸ hnode, h.edges⟩

theorem tidy_changeEdge (h : graph.diagram.Tidy) (id : String) {change : Edge → Edge}
    (hextra : ∀ edge, (change edge).data.extra = edge.data.extra) :
    (graph.changeEdge id change).diagram.Tidy :=
  ⟨h.nodes, forall_changeFirst h.edges fun edge hedge => (hextra edge).symm ▸ hedge⟩

/-- Operations with what was read from documents keep the diagram of a graph tidy. -/
theorem tidy_step (h : graph.diagram.Tidy) {step : Step} (hstep : step.Decoded) :
    (graph.step step).1.diagram.Tidy := by
  cases step with
  | addNode draft =>
    obtain ⟨_, _, hread⟩ := hstep
    simp only [Graph.step, Graph.addNode]
    split
    · exact h
    · refine ⟨List.forall_mem_append.mpr ⟨h.nodes, ?_⟩, h.edges⟩
      exact List.forall_mem_singleton.mpr (NodeData.spare_of_read hread)
  | addEdge link =>
    simp only [Graph.step, Graph.addEdge]
    split_ifs
    · split
      · exact h
      · refine ⟨h.nodes, List.forall_mem_append.mpr ⟨h.edges, ?_⟩⟩
        exact List.forall_mem_singleton.mpr Shape.spare_nil
    · exact h
  | updateNode id patch => exact tidy_changeNode h id fun node => node.data.extra_patched patch
  | updateEdge id patch => exact tidy_changeEdge h id fun edge => edge.data.extra_patched patch
  | moveNode id position => exact tidy_changeNode h id fun _ => rfl
  | resizeNode id size =>
    simp only [Graph.step, Graph.resizeNode]
    split
    · split_ifs
      · exact tidy_changeNode h id fun _ => rfl
      · exact h
    · exact h
  | deleteElement id =>
    simp only [Graph.step, Graph.deleteElement]
    split_ifs
    · exact h.mono (List.eraseP_sublist).subset (List.filter_sublist).subset
    all_goals exact h.mono (List.Subset.refl _) (List.filter_sublist).subset
  | deleteEdge id => exact h.mono (List.Subset.refl _) (List.filter_sublist).subset
  | replaceAll diagram => exact tidy_replaceAll graph hstep

theorem tidy_run (h : graph.diagram.Tidy) {steps : List Step}
    (hsteps : ∀ step ∈ steps, step.Decoded) : (graph.run steps).diagram.Tidy := by
  induction steps generalizing graph with
  | nil => exact h
  | cons step steps ih =>
    rw [List.forall_mem_cons] at hsteps
    exact ih (tidy_step h hsteps.1) hsteps.2

/-! ## The round trip -/

theorem Imported.sound (h : graph.Imported) : graph.Sound := by
  obtain rfl | ⟨diagram, -, rfl⟩ := h
  · exact sound_empty
  · exact sound_replaceAll {} diagram

/-- The diagram of a sound graph gives a graph with that diagram. -/
theorem diagram_ofDiagram (h : graph.Sound) :
    (ofDiagram graph.diagram).diagram = graph.diagram :=
  h.diagram_replaceAll {}

/-- **Round trip.** Take any graph that operations build from documents and from data that were read
from documents, with finite positions and sizes. Its diagram is read back from what is written of
it, in whatever order the members stand, gives a graph with the same diagram, and is read back from
a request for code as well. -/
theorem diagram_round_trip {start : Graph} (hstart : start.Imported) {steps : List Step}
    (hsteps : ∀ step ∈ steps, step.Decoded)
    (hfinite : (start.run steps).diagram.isFinite = true) :
    let diagram := (start.run steps).diagram
    (∀ written, diagram.json.Alike written → Diagram.ofJson written = .ok diagram) ∧
      (ofDiagram diagram).diagram = diagram ∧
      ∀ projectName written, (CodegenRequest.json { diagram, projectName }).Alike written →
        Diagram.ofJson written = .ok diagram := by
  intro diagram
  have htidy : diagram.Tidy := tidy_run hstart.tidy hsteps
  have hsound : (start.run steps).Sound := sound_run hstart.sound steps
  refine ⟨?document, diagram_ofDiagram hsound, ?request⟩
  case document =>
    intro written hwritten
    exact Diagram.read_json htidy hfinite hwritten
  case request =>
    intro projectName written hwritten
    exact CodegenRequest.read_json htidy hfinite hwritten

/-- A document with a numeric port and a member that is not understood, and an edge that is drawn and
encrypted afterwards. -/
theorem diagram_round_trip_after_import :
    let document := Json.obj [("nodes", .arr [.obj [("id", .str "db"), ("type", .str "group"),
      ("position", .obj [("x", .num (.double 1.5)), ("y", .num (.double 0.0))]),
      ("data", .obj [("shards", .num (.int 3)), ("port", .num (.int 5432))])]])]
    let imported : Diagram :=
      ⟨[⟨"db", .group, ⟨1.5, 0.0⟩, { port := some "5432", extra := [("shards", .num (.int 3))] },
        none⟩], []⟩
    let steps := [Step.addEdge { source := "db", target := "db" },
      .updateEdge "edge_0" { tls := some true }]
    let diagram := ((ofDiagram imported).run steps).diagram
    Diagram.ofJson document = .ok imported ∧ diagram.edges.length = 1 ∧
      Diagram.ofJson diagram.json = .ok diagram ∧
      (ofDiagram diagram).diagram = diagram ∧
      Diagram.ofJson (CodegenRequest.json ⟨diagram, "Shop"⟩) = .ok diagram := by
  intro document imported steps diagram
  have hread : Diagram.ofJson document = .ok imported := rfl
  have hsteps : ∀ step ∈ steps, step.Decoded := by
    simp only [steps, List.forall_mem_cons]
    exact ⟨trivial, trivial, fun _ h => absurd h List.not_mem_nil⟩
  have hfinite : diagram.isFinite = true := by decide +kernel
  obtain ⟨hdocument, hinstalled, hrequest⟩ :=
    diagram_round_trip (.inr ⟨imported, Diagram.decoded_of_ofJson hread, rfl⟩) hsteps hfinite
  exact ⟨hread, by decide +kernel, hdocument _ (.refl _), hinstalled, hrequest "Shop" _ (.refl _)⟩

end Graph

end DiagramStudio
