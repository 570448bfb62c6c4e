import DiagramStudio.Proofs.Canvas.Selection
import DiagramStudio.Proofs.Run

/-!
# Selection gestures

The canvas counts the changes of its selection. Every gesture that selects counts, also one that
selects the same element again, and nothing else does. Between two such gestures an edge that is
selected stays in the graph, with the nodes that it joins.

Results:
* `epoch_act`: the selection gestures are what counts as an epoch.
* `selections_concat`: how many of them there are in a run that goes on.
* `wiring?_act`, `wiring?_run`: between selection gestures the same edge stays selected.
-/

namespace DiagramStudio

/-! ## Edges that stay -/

namespace Graph

variable {graph after : Graph}

theorem wiring_edge? (graph : Graph) (id : String) :
    (graph.edge? id).map Edge.wiring = (graph.edges.map Edge.wiring).find? (·.1 = id) := by
  rw [edge?, List.find?_map]
  rfl

/-- Whether every edge that was there is still there, with its two nodes. -/
def Retains (graph after : Graph) : Prop :=
  ∀ id wiring, (graph.edge? id).map Edge.wiring = some wiring →
    (after.edge? id).map Edge.wiring = some wiring

theorem retains_of_wiring (h : after.edges.map Edge.wiring = graph.edges.map Edge.wiring) :
    graph.Retains after := by
  intro id wiring hwiring
  rw [wiring_edge?] at hwiring ⊢
  rwa [h]

theorem retains_addNode (graph : Graph) (draft : NodeDraft) :
    graph.Retains (graph.addNode draft).1 := by
  apply retains_of_wiring
  rw [addNode]
  split <;> rfl

theorem retains_addEdge (graph : Graph) (link : Connection) :
    graph.Retains (graph.addEdge link).1 := by
  rw [addEdge]
  split_ifs
  · split
    · exact retains_of_wiring rfl
    · intro id wiring hwiring
      rw [wiring_edge?] at hwiring ⊢
      simp only [List.map_append]
      rw [List.find?_append, hwiring]
      rfl
  · exact retains_of_wiring rfl

theorem retains_resizeNode (graph : Graph) (id : String) (size : Size) :
    graph.Retains (graph.resizeNode id size).1 := by
  apply retains_of_wiring
  rw [resizeNode]
  split
  · split_ifs <;> rfl
  · rfl

theorem retains_updateEdge (graph : Graph) (id : String) (patch : EdgePatch) :
    graph.Retains (graph.updateEdge id patch).1 := by
  apply retains_of_wiring
  apply map_changeFirst
  intro edge
  rfl

/-- The deletion of an edge is nothing to the others. -/
theorem edge?_deleteEdge {id other : String} (hne : id ≠ other) :
    (graph.deleteEdge other).1.edge? id = graph.edge? id :=
  find?_filter_ne Edge.id hne graph.edges

end Graph

namespace Canvas

/-! ## Selection gestures -/

/-- The answer to an action. -/
def reply (state : Inspector × Canvas) : Action → Outcome
  | .gesture step => (state.2.step step).2
  | .inspect step => (state.1.step state.2 step).2.2

/-- Whether an action is a selection gesture: a click that hits, a click beside, the deletion of
what is selected, the removal of the edge that is selected, the loading of a diagram, and in the
inspector closing and deleting. -/
def selects (state : Inspector × Canvas) (action : Action) : Bool :=
  match action, reply state action with
  | .gesture (.clickNode _), .accepted hit => hit
  | .gesture (.clickEdge _), .accepted hit => hit
  | .gesture .clickPane, _ => true
  | .gesture .deleteSelection, _ => true
  | .gesture (.removeEdge id), _ => state.2.selection = .edge id
  | .gesture (.load _), _ => true
  | .inspect .close, _ => true
  | .inspect .delete, _ => true
  | _, _ => false

theorem epoch_deleteSelection (canvas : Canvas) :
    canvas.deleteSelection.1.epoch = canvas.epoch + 1 := by
  unfold deleteSelection
  cases canvas.selection <;> rfl

theorem selects_clickNode (state : Inspector × Canvas) (id : String) :
    selects state (.gesture (.clickNode id)) = state.2.graph.hasNode id := by
  simp only [selects, reply, Canvas.step, clickNode]
  by_cases hnode : state.2.graph.hasNode id = true <;> simp [hnode]

theorem selects_clickEdge (state : Inspector × Canvas) (id : String) :
    selects state (.gesture (.clickEdge id)) = state.2.graph.hasEdge id := by
  simp only [selects, reply, Canvas.step, clickEdge]
  by_cases hedge : state.2.graph.hasEdge id = true <;> simp [hedge]

theorem selects_inspect (state : Inspector × Canvas) (step : Inspector.Step) :
    selects state (.inspect step) = step.clears := by
  cases step <;> rfl

/-- The selection gestures are what counts as an epoch. -/
theorem epoch_act (state : Inspector × Canvas) (action : Action) :
    (act state action).2.epoch =
      if selects state action then state.2.epoch + 1 else state.2.epoch := by
  cases action with
  | gesture step =>
    cases step with
    | drop payload point =>
      simp only [act, Canvas.step, drop, selects]
      split <;> rfl
    | clickNode id =>
      rw [selects_clickNode]
      simp only [act, Canvas.step, clickNode]
      split <;> rfl
    | clickEdge id =>
      rw [selects_clickEdge]
      simp only [act, Canvas.step, clickEdge]
      split <;> rfl
    | deleteSelection => exact epoch_deleteSelection state.2
    | removeEdge id =>
      simp only [act, selects, Canvas.step, removeEdge]
      by_cases hselected : state.2.selection = .edge id
      · simp only [hselected, if_true, decide_true]
        rfl
      · simp only [hselected, if_false, decide_false]
        rfl
    | clickPane | load _ => rfl
    | connect _ | drag _ _ | resize _ _ | look _ | updateNode _ _ | updateEdge _ _ => rfl
  | inspect step =>
    rw [selects_inspect]
    cases hclears : step.clears with
    | false =>
      show (state.1.step state.2 step).2.1.epoch = _
      rw [(state.1.revision_step state.2 hclears).frame]
      rfl
    | true =>
      cases step with
      | close => rfl
      | delete => exact epoch_deleteSelection state.2
      | _ => cases hclears

/-! ## Histories -/

/-- The actions of a run, each with the inspector and the canvas to which it came. -/
def history (start : Inspector × Canvas) (actions : List Action) :
    List ((Inspector × Canvas) × Action) :=
  moments (fun state action => (act state action, reply state action)) start actions

/-- How many selection gestures there are in a run. -/
def selections (start : Inspector × Canvas) (actions : List Action) : Nat :=
  (history start actions).countP fun moment => selects moment.1 moment.2

theorem history_append (start : Inspector × Canvas) (earlier later : List Action) :
    history start (earlier ++ later) = history start earlier ++ history (run start earlier) later :=
  moments_append _ start earlier later

theorem history_concat (start : Inspector × Canvas) (actions : List Action) (action : Action) :
    history start (actions ++ [action]) = history start actions ++ [(run start actions, action)] :=
  history_append start actions [action]

theorem run_concat (start : Inspector × Canvas) (actions : List Action) (action : Action) :
    run start (actions ++ [action]) = act (run start actions) action := by
  rw [run, List.foldl_append]
  rfl

theorem run_append (start : Inspector × Canvas) (earlier later : List Action) :
    run start (earlier ++ later) = run (run start earlier) later :=
  List.foldl_append

theorem selections_concat (start : Inspector × Canvas) (actions : List Action) (action : Action) :
    selections start (actions ++ [action]) =
      selections start actions + if selects (run start actions) action then 1 else 0 := by
  rw [selections, history_concat, List.countP_append, List.countP_singleton]
  rfl

/-! ## The edge that is selected -/

/-- The id and the two nodes of the edge that is selected. -/
def wiring? (canvas : Canvas) : Option (String × String × String) :=
  match canvas.selected with
  | some (.edge edge) => some edge.wiring
  | _ => none

variable {start : Inspector × Canvas} {canvas : Canvas} {wiring : String × String × String}

theorem wiring?_eq_some_iff :
    canvas.wiring? = some wiring ↔
      ∃ id, canvas.selection = .edge id ∧
        (canvas.graph.edge? id).map Edge.wiring = some wiring := by
  rw [wiring?, selected]
  cases canvas.selection with
  | none => simp
  | node id => cases canvas.graph.node? id <;> simp
  | edge id =>
    simp only [Selection.edge.injEq, exists_eq_left']
    cases canvas.graph.edge? id <;> rfl

theorem wiring?_of_retains {after : Canvas} (h : canvas.wiring? = some wiring)
    (hselection : after.selection = canvas.selection)
    (hretains : canvas.graph.Retains after.graph) : after.wiring? = some wiring := by
  obtain ⟨id, hid, hwiring⟩ := wiring?_eq_some_iff.mp h
  exact wiring?_eq_some_iff.mpr ⟨id, hselection.trans hid, hretains id wiring hwiring⟩

theorem wiring?_updateNode (h : canvas.wiring? = some wiring) (id : String) (patch : NodePatch) :
    (canvas.updateNode id patch).1.wiring? = some wiring :=
  wiring?_of_retains h rfl (Graph.retains_of_wiring rfl)

theorem wiring?_updateEdge (h : canvas.wiring? = some wiring) (id : String) (patch : EdgePatch) :
    (canvas.updateEdge id patch).1.wiring? = some wiring :=
  wiring?_of_retains h rfl (Graph.retains_updateEdge _ id patch)

theorem wiring?_removeEdge (h : canvas.wiring? = some wiring) {id : String}
    (hother : canvas.selection ≠ .edge id) : (canvas.removeEdge id).1.wiring? = some wiring := by
  obtain ⟨selected, hselected, hwiring⟩ := wiring?_eq_some_iff.mp h
  have hne : selected ≠ id := by
    rintro rfl
    exact hother hselected
  rw [removeEdge, if_neg hother]
  refine wiring?_eq_some_iff.mpr ⟨selected, hselected, ?_⟩
  rw [← hwiring]
  exact congrArg _ (Graph.edge?_deleteEdge hne)

theorem wiring?_of_revision (h : canvas.wiring? = some wiring) {after : Canvas}
    (hrevision : canvas.Revision after) : after.wiring? = some wiring := by
  induction hrevision with
  | refl => exact h
  | updateNode _ id patch ih => exact wiring?_updateNode ih id patch
  | updateEdge _ id patch ih => exact wiring?_updateEdge ih id patch

/-- Nothing but a selection gesture puts another edge in place of the one that is selected. -/
theorem wiring?_act {state : Inspector × Canvas} {action : Action}
    (hselects : selects state action = false) (h : state.2.wiring? = some wiring) :
    (act state action).2.wiring? = some wiring := by
  cases action with
  | gesture step =>
    cases step with
    | drop payload point =>
      simp only [act, Canvas.step, drop]
      split
      · exact h
      · exact wiring?_of_retains h rfl (Graph.retains_addNode _ _)
    | connect link => exact wiring?_of_retains h rfl (Graph.retains_addEdge _ link)
    | drag id position => exact wiring?_of_retains h rfl (Graph.retains_of_wiring rfl)
    | resize id size => exact wiring?_of_retains h rfl (Graph.retains_resizeNode _ id size)
    | clickNode id =>
      rw [selects_clickNode] at hselects
      simp only [act, Canvas.step, clickNode, hselects]
      exact h
    | clickEdge id =>
      rw [selects_clickEdge] at hselects
      simp only [act, Canvas.step, clickEdge, hselects]
      exact h
    | removeEdge id => exact wiring?_removeEdge h (of_decide_eq_false hselects)
    | look move => exact h
    | updateNode id patch => exact wiring?_updateNode h id patch
    | updateEdge id patch => exact wiring?_updateEdge h id patch
    | clickPane | deleteSelection | load _ => cases hselects
  | inspect step =>
    rw [selects_inspect] at hselects
    exact wiring?_of_revision h (state.1.revision_step state.2 hselects)

/-- Between selection gestures the same edge stays selected. -/
theorem wiring?_run {actions : List Action}
    (hunselected : ∀ moment ∈ history start actions, selects moment.1 moment.2 = false)
    (h : start.2.wiring? = some wiring) : (run start actions).2.wiring? = some wiring := by
  induction actions generalizing start with
  | nil => exact h
  | cons action actions ih =>
    have hselects : selects start action = false := hunselected _ (List.mem_cons_self ..)
    apply ih
    · intro moment hmoment
      exact hunselected moment (List.mem_cons_of_mem _ hmoment)
    · exact wiring?_act hselects h

end Canvas

end DiagramStudio
