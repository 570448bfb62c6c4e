import DiagramStudio.Proofs.Canvas.Selection
import DiagramStudio.Proofs.Diagram.Others
import DiagramStudio.Proofs.Graph.Retention

/-!
# Members that are not understood survive

What a document says of a node or an edge beyond what is understood here is kept for others who read
the document. It is found again in what is written, whatever was done in between: with the graph
itself, on the canvas, in the inspector, and also when the document was written and read in between.

Results:
* `graph_step`: a gesture does one operation with the graph, if any.
* `sound_operate`, `keeps_operate`: what any operation keeps of the graph.
* `nodeExtra?_of_stays`, `edgeExtra?_of_stays`: as long as an element stays, so do the members of
  its data that are not understood.
* `other_members_survive`: they are found again in what is written of the element.
-/

namespace DiagramStudio

/-- Whether a diagram was read from what is written of the graph, in whatever order the members of
the document stand. -/
def Graph.Reimports (graph : Graph) (diagram : Diagram) : Prop :=
  ∃ written, graph.diagram.json.Alike written ∧ Diagram.ofJson written = .ok diagram

namespace Canvas

/-! ## What a gesture does with the graph -/

/-- The operation that a gesture does with the graph, if any. -/
def operation? (canvas : Canvas) : Step → Option Graph.Step
  | .drop payload point =>
    if payload.nodeType = "" then none
    else some (.addNode (payload.draft (canvas.view.toCanvas point)))
  | .connect link => some (.addEdge link)
  | .drag id position => some (.moveNode id position)
  | .resize id size => some (.resizeNode id size)
  | .deleteSelection =>
    match canvas.selection with
    | .none => none
    | .node id => some (.deleteElement id)
    | .edge id => some (.deleteEdge id)
  | .removeEdge id => some (.deleteEdge id)
  | .updateNode id patch => some (.updateNode id patch)
  | .updateEdge id patch => some (.updateEdge id patch)
  | .load diagram => some (.replaceAll diagram)
  | _ => none

theorem graph_deleteSelection (canvas : Canvas) :
    canvas.deleteSelection.1.graph =
      ((canvas.operation? .deleteSelection).map (canvas.graph.step · |>.1)).getD canvas.graph := by
  unfold deleteSelection operation?
  cases canvas.selection <;> rfl

/-- A gesture does one operation with the graph, if any. -/
theorem graph_step (canvas : Canvas) (step : Step) :
    (canvas.step step).1.graph =
      ((canvas.operation? step).map (canvas.graph.step · |>.1)).getD canvas.graph := by
  cases step with
  | drop payload point =>
    simp only [Canvas.step, drop, operation?]
    split_ifs <;> rfl
  | clickNode id =>
    simp only [Canvas.step, clickNode]
    split <;> rfl
  | clickEdge id =>
    simp only [Canvas.step, clickEdge]
    split <;> rfl
  | deleteSelection => exact graph_deleteSelection canvas
  | removeEdge id =>
    simp only [Canvas.step, removeEdge]
    split_ifs <;> rfl
  | connect _ | drag _ _ | resize _ _ | clickPane | look _ | updateNode _ _ | updateEdge _ _
  | load _ => rfl

/-! ## Operations -/

/-- An operation with the graph that is shown on a canvas. -/
inductive Operation where
  /-- With the graph itself. -/
  | graph (step : Graph.Step)
  /-- On the canvas or in the inspector. -/
  | action (action : Action)
  /-- The graph is shown on a new canvas with a new inspector. -/
  | mount
  /-- A diagram is opened as a new graph, on a new canvas with a new inspector. -/
  | reopen (diagram : Diagram)

/-- The inspector and the canvas after an operation. -/
def operate (state : Inspector × Canvas) : Operation → Inspector × Canvas
  | .graph step => (state.1, { state.2 with graph := (state.2.graph.step step).1 })
  | .action action => act state action
  | .mount => ({}, ofGraph state.2.graph)
  | .reopen diagram => ({}, ofGraph (.ofDiagram diagram))

/-- The inspector and the canvas after a run of operations. -/
def operations (state : Inspector × Canvas) (run : List Operation) : Inspector × Canvas :=
  run.foldl operate state

/-- The diagram that an operation installs, if it does. -/
def Operation.installs? : Operation → Option Diagram
  | .graph (.replaceAll diagram) => some diagram
  | .action (.gesture (.load diagram)) => some diagram
  | .reopen diagram => some diagram
  | _ => none

variable {state : Inspector × Canvas} {operation : Operation} {diagram : Diagram} {id : String}
  {extra : List (String × Json)}

theorem graph_install (h : operation.installs? = some diagram) :
    ∃ prior : Graph, (operate state operation).2.graph = prior.replaceAll diagram := by
  unfold Operation.installs? at h
  split at h
  · cases h
    exact ⟨state.2.graph, rfl⟩
  · cases h
    exact ⟨state.2.graph, rfl⟩
  · cases h
    exact ⟨{}, rfl⟩
  · cases h

/-- A revision patches nodes and edges, which keeps the graph sound and all that is not
understood. -/
theorem Revision.keeps {canvas after : Canvas} (hrevision : canvas.Revision after)
    (h : canvas.graph.Sound) : after.graph.Sound ∧ canvas.graph.Mirrors after.graph := by
  induction hrevision with
  | refl => exact ⟨h, Graph.mirrors_refl _⟩
  | @updateNode between _ id patch ih =>
    refine ⟨Graph.sound_step ih.1 (.updateNode id patch), ih.2.trans ?_⟩
    refine Graph.mirrors_changeNode between.graph id ?_
    intro node
    rfl
  | @updateEdge between _ id patch ih =>
    refine ⟨Graph.sound_step ih.1 (.updateEdge id patch), ih.2.trans ?_⟩
    refine Graph.mirrors_changeEdge between.graph id ?_
    intro edge
    rfl

/-- A gesture installs a diagram where its operation with the graph does. -/
theorem installs?_operation? (canvas : Canvas) (step : Step) :
    (canvas.operation? step).bind Graph.Step.installs? =
      Operation.installs? (.action (.gesture step)) := by
  cases step with
  | drop payload point =>
    simp only [operation?]
    split_ifs <;> rfl
  | deleteSelection =>
    simp only [operation?]
    cases canvas.selection <;> rfl
  | _ => rfl

theorem sound_step {canvas : Canvas} (h : canvas.graph.Sound) (step : Step) :
    (canvas.step step).1.graph.Sound := by
  rw [graph_step]
  cases canvas.operation? step with
  | none => exact h
  | some operation => exact Graph.sound_step h operation

theorem keeps_step {canvas : Canvas} (h : canvas.graph.Sound) (step : Step)
    (hstep : Operation.installs? (.action (.gesture step)) = none) :
    canvas.graph.Keeps (canvas.step step).1.graph := by
  rw [← installs?_operation? canvas] at hstep
  rw [graph_step]
  cases hoperation : canvas.operation? step with
  | none => exact (Graph.mirrors_refl _).keeps
  | some operation =>
    rw [hoperation, Option.bind_some] at hstep
    exact Graph.keeps_step h hstep

/-- A step of an inspector revises the canvas, or does to the graph what a gesture does. -/
theorem keeps_inspector (inspector : Inspector) {canvas : Canvas} (h : canvas.graph.Sound)
    (step : Inspector.Step) :
    (inspector.step canvas step).2.1.graph.Sound ∧
      canvas.graph.Keeps (inspector.step canvas step).2.1.graph := by
  cases hclears : step.clears with
  | false =>
    obtain ⟨hsound, hmirrors⟩ := (inspector.revision_step canvas hclears).keeps h
    exact ⟨hsound, hmirrors.keeps⟩
  | true =>
    cases step with
    | close => exact ⟨h, (Graph.mirrors_refl _).keeps⟩
    | delete => exact ⟨sound_step h .deleteSelection, keeps_step h .deleteSelection rfl⟩
    | _ => cases hclears

/-- An operation keeps the graph sound. -/
theorem sound_operate (h : state.2.graph.Sound) (operation : Operation) :
    (operate state operation).2.graph.Sound := by
  cases operation with
  | graph step => exact Graph.sound_step h step
  | action action =>
    cases action with
    | gesture step => exact sound_step h step
    | inspect step => exact (keeps_inspector state.1 h step).1
  | mount => exact h
  | reopen diagram => exact Graph.sound_replaceAll {} diagram

/-- An operation keeps what is not understood of every element that stays, unless it installs a
diagram. -/
theorem keeps_operate (h : state.2.graph.Sound) (hinstalls : operation.installs? = none) :
    state.2.graph.Keeps (operate state operation).2.graph := by
  cases operation with
  | graph step =>
    refine Graph.keeps_step h ?_
    cases step with
    | replaceAll diagram => cases hinstalls
    | _ => rfl
  | action action =>
    cases action with
    | gesture step => exact keeps_step h step hinstalls
    | inspect step => exact (keeps_inspector state.1 h step).2
  | mount => exact (Graph.mirrors_refl _).keeps
  | reopen diagram => cases hinstalls

theorem sound_operations (h : state.2.graph.Sound) (run : List Operation) :
    (operations state run).2.graph.Sound := by
  induction run generalizing state with
  | nil => exact h
  | cons operation run ih => exact ih (sound_operate h operation)

/-! ## Elements that stay -/

/-- Whether an element stays all through a run: each operation leaves it in the graph, and a diagram
is only installed if it was read from what is written of the graph. -/
def Stays (there : Graph → Bool) (state : Inspector × Canvas) : List Operation → Prop
  | [] => True
  | operation :: run =>
    (match operation.installs? with
      | some diagram => state.2.graph.Reimports diagram
      | none => there (operate state operation).2.graph = true) ∧
    Stays there (operate state operation) run

/-- What is found of an element, and kept by operations that leave it in the graph and by diagrams
that were read back, is found as long as the element stays. -/
theorem found_of_stays {β : Type} {there : Graph → Bool} {find? : Graph → Option β} {found : β}
    (hkeeps : ∀ {graph after : Graph}, graph.Keeps after → find? graph = some found →
      there after = true → find? after = some found)
    (hreread : ∀ {graph : Graph} {diagram : Diagram}, graph.Sound → graph.diagram.Reread diagram →
      ∀ prior : Graph, find? graph = some found → find? (prior.replaceAll diagram) = some found)
    {run : List Operation} (h : state.2.graph.Sound) (hfound : find? state.2.graph = some found)
    (hstays : Stays there state run) : find? (operations state run).2.graph = some found := by
  induction run generalizing state with
  | nil => exact hfound
  | cons operation run ih =>
    obtain ⟨hone, hrest⟩ := hstays
    refine ih (sound_operate h operation) ?_ hrest
    cases hinstalls : operation.installs? with
    | none =>
      rw [hinstalls] at hone
      exact hkeeps (keeps_operate h hinstalls) hfound hone
    | some diagram =>
      rw [hinstalls] at hone
      obtain ⟨written, halike, hread⟩ := hone
      obtain ⟨prior, hprior⟩ := graph_install hinstalls
      rw [hprior]
      exact hreread h (Diagram.reread halike hread) prior hfound

theorem nodeExtra?_of_stays {run : List Operation} (h : state.2.graph.Sound)
    (hspare : NodeData.shape.Spare extra) (hextra : state.2.graph.nodeExtra? id = some extra)
    (hstays : Stays (·.hasNode id) state run) :
    (operations state run).2.graph.nodeExtra? id = some extra :=
  found_of_stays (fun hkeeps => hkeeps.nodeExtra?)
    (fun hsound hreread prior => Graph.nodeExtra?_reread hsound hreread prior hspare) h hextra
    hstays

theorem edgeExtra?_of_stays {run : List Operation} (h : state.2.graph.Sound)
    (hspare : EdgeData.shape.Spare extra) (hextra : state.2.graph.edgeExtra? id = some extra)
    (hstays : Stays (·.hasEdge id) state run) :
    (operations state run).2.graph.edgeExtra? id = some extra :=
  found_of_stays (fun hkeeps => hkeeps.edgeExtra?)
    (fun hsound hreread prior => Graph.edgeExtra?_reread hsound hreread prior hspare) h hextra
    hstays

/-- **Members that are not understood survive.** At any time, take a node or an edge whose data were
read from an object. Whatever is done then with the graph, on the canvas and in the inspector, and
however often the diagram is written and read in between, as long as the element stays, what is
written of its data has the members of that object that are not understood, with their values, and
no others of that kind. An edge that has any is not written without its data. -/
theorem other_members_survive (before since : List Operation) (id : String) {source : Source}
    {doc : Doc} {value : Json} (hvalue : doc.json source = .ok value) :
    let start := operations ({}, {}) before
    let final := operations start since
    (∀ node, start.2.graph.node? id = some node → NodeData.read source doc = .ok node.data →
      Stays (·.hasNode id) start since →
        ∃ last, final.2.graph.node? id = some last ∧
          last.data.json.others NodeData.keys = value.others NodeData.keys) ∧
      ∀ edge, start.2.graph.edge? id = some edge → EdgeData.read source doc = .ok edge.data →
        Stays (·.hasEdge id) start since →
          ∃ last, final.2.graph.edge? id = some last ∧
            last.data.json.others EdgeData.keys = value.others EdgeData.keys ∧
            (value.others EdgeData.keys ≠ [] → last.json.get? "data" = some last.data.json) := by
  intro start final
  have hsound : start.2.graph.Sound := sound_operations Graph.sound_empty before
  refine ⟨fun node hnode hread hstays => ?node, fun edge hedge hread hstays => ?edge⟩
  case node =>
    have hspare := NodeData.spare_of_read hread
    have hextra : start.2.graph.nodeExtra? id = some node.data.extra := by
      rw [Graph.nodeExtra?, hnode, Option.map_some]
    obtain ⟨last, hlast, hsame⟩ :=
      Option.map_eq_some_iff.mp (nodeExtra?_of_stays hsound hspare hextra hstays)
    refine ⟨last, hlast, ?_⟩
    rw [NodeData.others_json (hsame ▸ hspare), hsame, NodeData.extra_of_read hread hvalue]
  case edge =>
    have hspare := EdgeData.spare_of_read hread
    have hextra : start.2.graph.edgeExtra? id = some edge.data.extra := by
      rw [Graph.edgeExtra?, hedge, Option.map_some]
    obtain ⟨last, hlast, hsame⟩ :=
      Option.map_eq_some_iff.mp (edgeExtra?_of_stays hsound hspare hextra hstays)
    have hothers := EdgeData.extra_of_read hread hvalue
    refine ⟨last, hlast, ?_, fun hsome => Edge.data_json ?_⟩
    · rw [EdgeData.others_json (hsame ▸ hspare), hsame, hothers]
    · rw [hsame, hothers]
      exact hsome

/-- A node is renamed, and the diagram written, read and installed again; the edge has nothing in
its data that is understood. -/
theorem other_members_after_reimport :
    let edge : Edge := ⟨"e", "db", "db", none, none, Edge.drawnType,
      { extra := [("batch", .str "hourly")] }⟩
    let node : String → Node := fun label =>
      ⟨"db", .custom, .origin, { label, extra := [("shards", .num (.int 3))] }, none⟩
    let before := [Operation.reopen ⟨[node "DB"], [edge]⟩]
    let since := [Operation.action (.gesture (.updateNode "db" { label := some "Orders" })),
      .graph (.replaceAll ⟨[node "Orders"], [edge]⟩)]
    let final := operations (operations ({}, {}) before) since
    (∃ last, final.2.graph.node? "db" = some last ∧
      last.data.json.others NodeData.keys = [("shards", .num (.int 3))]) ∧
      ∃ last, final.2.graph.edge? "e" = some last ∧
        last.json.get? "data" = some last.data.json := by
  intro edge node before since final
  let data := Json.obj [("label", .str "DB"), ("shards", .num (.int 3))]
  let wire := Json.obj [("batch", .str "hourly")]
  have hnode : NodeData.read .value data.doc = .ok (node "DB").data := rfl
  have hedge : EdgeData.read .value wire.doc = .ok edge.data := rfl
  have hspare : NodeData.shape.Spare (node "DB").data.extra := NodeData.spare_of_read hnode
  have htidy : Diagram.Tidy ⟨[node "Orders"], [edge]⟩ :=
    ⟨List.forall_mem_singleton.mpr hspare,
      List.forall_mem_singleton.mpr (EdgeData.spare_of_read hedge)⟩
  let renamed := (operate (operations ({}, {}) before) since[0]).2.graph
  have hhasNode : renamed.hasNode "db" := rfl
  have hhasEdge : renamed.hasEdge "e" := rfl
  have hreimport : renamed.Reimports ⟨[node "Orders"], [edge]⟩ :=
    ⟨_, .refl _, Diagram.read_json htidy (by decide +kernel) (.refl _)⟩
  have hdata : data.doc.json .value = .ok data := rfl
  have hwire : wire.doc.json .value = .ok wire := rfl
  obtain ⟨last, hlast, hothers⟩ := (other_members_survive before since "db" hdata).1
    (node "DB") rfl hnode ⟨hhasNode, hreimport, trivial⟩
  obtain ⟨lastEdge, hlastEdge, -, hwritten⟩ := (other_members_survive before since "e" hwire).2
    edge rfl hedge ⟨hhasEdge, hreimport, trivial⟩
  exact ⟨⟨last, hlast, hothers⟩, lastEdge, hlastEdge, hwritten nofun⟩

end Canvas

end DiagramStudio
