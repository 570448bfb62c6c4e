import DiagramStudio.Proofs.Canvas.Selection

/-!
# A refusal changes nothing

An operation that cannot be carried out says so in its answer, and leaves everything as it was. Some
operations begin with a change before they know whether they can be carried out: an edge that is
removed is deselected first, and of a certificate and its key the certificate is written first. That
they leave nothing half done is due to what holds of every canvas that is reached: the element that
is selected is there.

Results:
* `Graph.step_of_refusal`: an operation that is refused leaves the graph as it was.
* `Canvas.step_of_refusal`, `Canvas.deleteSelection_of_refusal`: so does a gesture on an anchored
  canvas, but that a deletion counts as a change of the selection.
* `Inspector.step_of_refusal`: a step of an inspector that is refused leaves the canvas as it was.
* `refusal_changes_nothing`: this holds of every canvas that is reached.
-/

namespace DiagramStudio

namespace Outcome

/-- Whether an answer says that nothing could be done. -/
def isRefusal : Outcome → Bool
  | .added none => true
  | .accepted false => true
  | .removed none => true
  | _ => false

theorem isRefusal_added {id : Option String} : (added id).isRefusal = true ↔ id = none := by
  cases id <;> simp [isRefusal]

theorem isRefusal_accepted {yes : Bool} : (accepted yes).isRefusal = true ↔ yes = false := by
  cases yes <;> simp [isRefusal]

theorem isRefusal_removed {what : Option Removed} :
    (removed what).isRefusal = true ↔ what = none := by
  cases what <;> simp [isRefusal]

end Outcome

/-! ## The graph -/

namespace Graph

variable {graph : Graph} {id : String}

theorem changeNode_eq_self (h : graph.hasNode id = false) (change : Node → Node) :
    graph.changeNode id change = graph := by
  rw [hasNode_eq_false_iff] at h
  rw [changeNode, changeFirst_eq_self h]

theorem changeEdge_eq_self (h : graph.hasEdge id = false) (change : Edge → Edge) :
    graph.changeEdge id change = graph := by
  rw [hasEdge_eq_false_iff] at h
  rw [changeEdge, changeFirst_eq_self h]

theorem deleteEdge_eq_self (h : graph.hasEdge id = false) : (graph.deleteEdge id).1 = graph := by
  rw [hasEdge_eq_false_iff] at h
  simp only [deleteEdge]
  rw [filter_ne_eq_self h]

theorem addNode_of_refusal {draft : NodeDraft} (h : (graph.addNode draft).2 = none) :
    (graph.addNode draft).1 = graph := by
  unfold addNode at h ⊢
  split at h
  · rfl
  · cases h

theorem addEdge_of_refusal {link : Connection} (h : (graph.addEdge link).2 = none) :
    (graph.addEdge link).1 = graph := by
  unfold addEdge at h ⊢
  split_ifs at h ⊢
  · split at h
    · rfl
    · cases h
  · rfl

theorem resizeNode_of_refusal {size : Size} (h : (graph.resizeNode id size).2 = false) :
    (graph.resizeNode id size).1 = graph := by
  unfold resizeNode at h ⊢
  split at h
  · split_ifs at h ⊢
    rfl
  · rfl

theorem deleteElement_of_refusal (h : (graph.deleteElement id).2 = none) :
    graph.hasNode id = false ∧ (graph.deleteElement id).1 = graph := by
  unfold deleteElement at h ⊢
  split_ifs at h ⊢ with hnode
  have hedge : graph.hasEdge id = false := by
    simpa [deleteEdge] using h
  exact ⟨Bool.eq_false_iff.mpr hnode, deleteEdge_eq_self hedge⟩

/-- An operation that is refused leaves the graph as it was. -/
theorem step_of_refusal (step : Step) (h : (graph.step step).2.isRefusal = true) :
    (graph.step step).1 = graph := by
  cases step with
  | addNode draft => exact addNode_of_refusal (Outcome.isRefusal_added.mp h)
  | addEdge link => exact addEdge_of_refusal (Outcome.isRefusal_added.mp h)
  | updateNode id patch => exact changeNode_eq_self (Outcome.isRefusal_accepted.mp h) _
  | updateEdge id patch => exact changeEdge_eq_self (Outcome.isRefusal_accepted.mp h) _
  | moveNode id position => exact changeNode_eq_self (Outcome.isRefusal_accepted.mp h) _
  | resizeNode id size => exact resizeNode_of_refusal (Outcome.isRefusal_accepted.mp h)
  | deleteElement id => exact (deleteElement_of_refusal (Outcome.isRefusal_removed.mp h)).2
  | deleteEdge id => exact deleteEdge_eq_self (Outcome.isRefusal_accepted.mp h)
  | replaceAll diagram => cases h

end Graph

/-! ## Gestures -/

namespace Canvas

variable {canvas : Canvas}

/-- A canvas whose graph stays as it was. -/
theorem withGraph_eq_self {α : Type} {changed : Graph × α} (h : changed.1 = canvas.graph) :
    (canvas.withGraph changed).1 = canvas := by
  rw [withGraph, h]

theorem drop_of_refusal {payload : DragPayload} {point : Point Float}
    (h : (canvas.drop payload point).2 = none) : (canvas.drop payload point).1 = canvas := by
  unfold drop at h ⊢
  split_ifs at h ⊢
  · rfl
  · exact withGraph_eq_self (Graph.addNode_of_refusal h)

theorem clickNode_of_refusal {id : String} (h : (canvas.clickNode id).2 = false) :
    (canvas.clickNode id).1 = canvas := by
  unfold clickNode at h ⊢
  split_ifs at h ⊢
  rfl

theorem clickEdge_of_refusal {id : String} (h : (canvas.clickEdge id).2 = false) :
    (canvas.clickEdge id).1 = canvas := by
  unfold clickEdge at h ⊢
  split_ifs at h ⊢
  rfl

theorem updateEdge_of_refusal {id : String} {patch : EdgePatch}
    (h : (canvas.updateEdge id patch).2 = false) : (canvas.updateEdge id patch).1 = canvas :=
  withGraph_eq_self (Graph.changeEdge_eq_self h _)

theorem updateNode_of_refusal {id : String} {patch : NodePatch}
    (h : (canvas.updateNode id patch).2 = false) : (canvas.updateNode id patch).1 = canvas :=
  withGraph_eq_self (Graph.changeNode_eq_self h _)

/-- An edge that was patched is still there to be patched again. -/
theorem updateEdge_again {id : String} {patch : EdgePatch}
    (h : (canvas.updateEdge id patch).2 = true) (other : EdgePatch) :
    ((canvas.updateEdge id patch).1.updateEdge id other).2 = true := by
  have hwithin : canvas.graph.Within (canvas.updateEdge id patch).1.graph :=
    canvas.graph.within_changeEdge id fun _ => rfl
  exact (Graph.hasEdge_iff _ _).mpr (hwithin.edges ((Graph.hasEdge_iff _ _).mp h))

/-- An edge that is not there is not selected, so that nothing is deselected for it. -/
theorem Anchored.removeEdge_of_refusal (hanchored : canvas.Anchored) {id : String}
    (h : (canvas.removeEdge id).2 = false) : (canvas.removeEdge id).1 = canvas := by
  unfold Canvas.removeEdge at h ⊢
  split_ifs at h ⊢ with hselected
  · have hedge : canvas.graph.hasEdge id = true := by
      rw [Anchored, hselected] at hanchored
      exact (Graph.hasEdge_iff _ _).mpr hanchored
    exact absurd (hedge.symm.trans h) Bool.noConfusion
  · exact withGraph_eq_self (Graph.deleteEdge_eq_self h)

/-- Where something is selected it is there to be deleted. -/
theorem Anchored.deleteSelection_of_refusal (hanchored : canvas.Anchored)
    (h : canvas.deleteSelection.2 = none) :
    canvas.deleteSelection.1 = { canvas with epoch := canvas.epoch + 1 } := by
  rw [Anchored] at hanchored
  cases hselection : canvas.selection with
  | none => simp only [deleteSelection, deselect, select, hselection]
  | node id =>
    simp only [deleteSelection, hselection] at h hanchored
    have hgone := (Graph.deleteElement_of_refusal h).1
    exact absurd (((Graph.hasNode_iff _ _).mpr hanchored).symm.trans hgone) Bool.noConfusion
  | edge id =>
    simp only [deleteSelection, hselection] at h hanchored
    have hgone : canvas.graph.hasEdge id = false := by simpa [Graph.deleteEdge] using h
    exact absurd (((Graph.hasEdge_iff _ _).mpr hanchored).symm.trans hgone) Bool.noConfusion

/-- A gesture that is refused leaves an anchored canvas as it was, but that a deletion counts as a
change of the selection. -/
theorem Anchored.step_of_refusal (hanchored : canvas.Anchored) {step : Step}
    (hstep : step ≠ .deleteSelection) (h : (canvas.step step).2.isRefusal = true) :
    (canvas.step step).1 = canvas := by
  cases step with
  | drop payload point => exact drop_of_refusal (Outcome.isRefusal_added.mp h)
  | connect link =>
    exact withGraph_eq_self (Graph.addEdge_of_refusal (Outcome.isRefusal_added.mp h))
  | drag id position =>
    exact withGraph_eq_self (Graph.changeNode_eq_self (Outcome.isRefusal_accepted.mp h) _)
  | resize id size =>
    exact withGraph_eq_self (Graph.resizeNode_of_refusal (Outcome.isRefusal_accepted.mp h))
  | clickNode id => exact clickNode_of_refusal (Outcome.isRefusal_accepted.mp h)
  | clickEdge id => exact clickEdge_of_refusal (Outcome.isRefusal_accepted.mp h)
  | removeEdge id => exact hanchored.removeEdge_of_refusal (Outcome.isRefusal_accepted.mp h)
  | updateNode id patch => exact updateNode_of_refusal (Outcome.isRefusal_accepted.mp h)
  | updateEdge id patch => exact updateEdge_of_refusal (Outcome.isRefusal_accepted.mp h)
  | deleteSelection => exact absurd rfl hstep
  | clickPane | look _ | load _ => cases h

end Canvas

/-! ## The inspector -/

namespace Inspector

variable {canvas : Canvas}

theorem applyEdit_of_refusal {edit : FieldEdit} (h : (applyEdit canvas edit).2 = false) :
    (applyEdit canvas edit).1 = canvas := by
  unfold applyEdit at h ⊢
  cases hselected : canvas.selected with
  | none => rfl
  | some found =>
    rw [hselected] at h
    cases found with
    | node node =>
      simp only at h ⊢
      cases hpatch : edit.onNode with
      | none => rfl
      | some offered =>
        rw [hpatch] at h
        simp only at h ⊢
        split_ifs at h ⊢
        · exact Canvas.updateNode_of_refusal h
        · rfl
    | edge edge =>
      simp only at h ⊢
      cases hpatch : edit.onEdge edge.data with
      | none => rfl
      | some patch =>
        rw [hpatch] at h
        exact Canvas.updateEdge_of_refusal h

/-- Where the certificate is written, the edge is there, and its key is written as well. -/
theorem writeGenerated_of_refusal (h : (writeGenerated canvas).2 = false) :
    (writeGenerated canvas).1 = canvas := by
  unfold writeGenerated at h ⊢
  cases htls : tlsEdge? canvas with
  | none => rfl
  | some edge =>
    rw [htls] at h
    simp only at h ⊢
    cases hfound : (canvas.updateEdge edge.id { tlsCert := some generatedCert }).2 with
    | false =>
      rw [if_neg Bool.false_ne_true]
      exact Canvas.updateEdge_of_refusal hfound
    | true =>
      rw [hfound, if_pos rfl, Canvas.updateEdge_again hfound] at h
      cases h

/-- A step of an inspector that is refused leaves the canvas as it was. -/
theorem step_of_refusal (inspector : Inspector) (step : Step)
    (h : (inspector.step canvas step).2.2 = .accepted false) :
    (inspector.step canvas step).2.1 = canvas := by
  cases step with
  | edit edit => exact applyEdit_of_refusal (Outcome.accepted.inj h)
  | uploadIcon mime bytes =>
    simp only [Inspector.step, Outcome.accepted.injEq] at h
    exact applyEdit_of_refusal h
  | uploadCert slot file =>
    simp only [Inspector.step]
    split_ifs <;> rfl
  | generateCert =>
    simp only [Inspector.step] at h ⊢
    split_ifs at h ⊢
    · exact writeGenerated_of_refusal (Outcome.accepted.inj h)
    · rfl
  | sync | setMode _ | close | delete => cases h

end Inspector

namespace Canvas

/-- **A refusal changes nothing.** On every canvas that is reached by gestures and steps of an
inspector, a gesture that is refused leaves all of the canvas as it was, the deletion of the
selection but for the epoch, and so does a step of any inspector that is refused. -/
theorem refusal_changes_nothing (graph : Graph) (inspector : Inspector) (actions : List Action) :
    let canvas := (run (inspector, ofGraph graph) actions).2
    (∀ step, step ≠ .deleteSelection → (canvas.step step).2.isRefusal = true →
      (canvas.step step).1 = canvas) ∧
      (canvas.deleteSelection.2 = none →
        canvas.deleteSelection.1 = { canvas with epoch := canvas.epoch + 1 }) ∧
      ∀ (anyInspector : Inspector) (step : Inspector.Step),
        (anyInspector.step canvas step).2.2 = .accepted false →
          (anyInspector.step canvas step).2.1 = canvas := by
  intro canvas
  have hanchored : canvas.Anchored := anchored_run (anchored_of_none rfl) actions
  exact ⟨fun step => hanchored.step_of_refusal, hanchored.deleteSelection_of_refusal,
    fun anyInspector step => anyInspector.step_of_refusal step⟩

/-- An edge is selected that has no label to be edited, then removed, which is done once and selects
nothing. -/
theorem refusals_around_removed_edge :
    let graph : Graph := .ofDiagram ⟨[⟨"a", .custom, .origin, {}, none⟩],
      [⟨"a", "a", "a", none, none, Edge.drawnType, {}⟩]⟩
    let clicked := (run ({}, ofGraph graph) [.gesture (.clickEdge "a")]).2
    let removed := (run ({}, ofGraph graph)
      [.gesture (.clickEdge "a"), .gesture (.removeEdge "a")]).2
    (clicked.step (.removeEdge "b")).1 = clicked ∧
      (({} : Inspector).step clicked (.edit (.label "c"))).2.1 = clicked ∧
      (removed.step (.removeEdge "a")).1 = removed ∧
      removed.deleteSelection.1 = { removed with epoch := removed.epoch + 1 } := by
  intro graph clicked removed
  obtain ⟨hclicked, -, hinspected⟩ :=
    refusal_changes_nothing graph {} [.gesture (.clickEdge "a")]
  obtain ⟨hremoved, hdeleted, -⟩ := refusal_changes_nothing graph {}
    [.gesture (.clickEdge "a"), .gesture (.removeEdge "a")]
  exact ⟨hclicked (.removeEdge "b") nofun (by decide +kernel),
    hinspected {} (.edit (.label "c")) (by decide +kernel),
    hremoved (.removeEdge "a") nofun (by decide +kernel),
    hdeleted (by decide +kernel)⟩

end Canvas

end DiagramStudio
