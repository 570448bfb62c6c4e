import DiagramStudio.Inspector.Basic

/-!
# Revisions of a canvas

Whatever an inspector does, unless it clears the selection, it does no more to the canvas than to
patch nodes and edges. That is said here once; what patches keep, an inspector keeps.

Results:
* `Canvas.Revision.frame`: a revision changes nothing but the graph.
* `Inspector.revision_step`: the steps of an inspector that do not clear the selection are
  revisions.
-/

namespace DiagramStudio

/-- The canvases that come of a canvas when nodes and edges are patched. -/
inductive Canvas.Revision (canvas : Canvas) : Canvas → Prop
  | refl : Revision canvas canvas
  | updateNode {after : Canvas} (h : Revision canvas after) (id : String) (patch : NodePatch) :
      Revision canvas (after.updateNode id patch).1
  | updateEdge {after : Canvas} (h : Revision canvas after) (id : String) (patch : EdgePatch) :
      Revision canvas (after.updateEdge id patch).1

/-- A revision changes nothing but the graph. -/
theorem Canvas.Revision.frame {canvas after : Canvas} (h : canvas.Revision after) :
    after = { canvas with graph := after.graph } := by
  induction h with
  | refl => rfl
  | updateNode _ id patch ih =>
    rw [ih]
    rfl
  | updateEdge _ id patch ih =>
    rw [ih]
    rfl

namespace Inspector

variable (canvas : Canvas)

theorem revision_applyEdit (edit : FieldEdit) : canvas.Revision (applyEdit canvas edit).1 := by
  rw [applyEdit]
  split
  · exact .refl
  · split
    · split
      · exact .updateNode .refl _ _
      · exact .refl
    · exact .refl
  · split
    · exact .updateEdge .refl _ _
    · exact .refl

theorem revision_writeGenerated : canvas.Revision (writeGenerated canvas).1 := by
  rw [writeGenerated]
  split
  · exact .refl
  · simp only
    split
    · exact .updateEdge (.updateEdge .refl _ _) _ _
    · exact .updateEdge .refl _ _

/-- Whether a step clears the selection. -/
def Step.clears : Step → Bool
  | .close => true
  | .delete => true
  | _ => false

theorem revision_step (inspector : Inspector) {step : Step} (h : step.clears = false) :
    canvas.Revision (inspector.step canvas step).2.1 := by
  cases step with
  | edit edit => exact revision_applyEdit canvas edit
  | uploadIcon mime bytes =>
    exact revision_applyEdit canvas (.customIcon (some (imageReference mime bytes)))
  | uploadCert slot file =>
    simp only [Inspector.step]
    split <;> exact .refl
  | generateCert =>
    simp only [Inspector.step]
    split
    · exact revision_writeGenerated canvas
    · exact .refl
  | sync | setMode _ => exact .refl
  | close | delete => cases h

end Inspector

end DiagramStudio
