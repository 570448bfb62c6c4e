import DiagramStudio.Diagram.Node

/-!
# Pan and zoom

How the canvas lies in its window. The scalars are a parameter, so that the same geometry runs on
doubles and can be reasoned about on an exact field.
-/

namespace DiagramStudio

/-- Pan and zoom. The point `(x, y)` of the window shows the origin of the canvas. -/
structure Viewport (α : Type) where
  x : α
  y : α
  zoom : α
deriving Repr, Inhabited

section Geometry

variable {α : Type} [Add α] [Sub α] [Mul α] [Div α] [OfScientific α] [LT α] [DecidableLT α]

namespace Viewport

/-- The viewport without pan and zoom. -/
def initial : Viewport α := ⟨0.0, 0.0, 1.0⟩

/-- The smallest zoom (`MIN_ZOOM`). -/
def minZoom : α := 0.1

/-- The largest zoom (`MAX_ZOOM`). -/
def maxZoom : α := 4.0

/-- The zoom nearest to the one that is asked for. -/
def clampZoom (zoom : α) : α :=
  let lifted := if zoom < minZoom then minZoom else zoom
  if maxZoom < lifted then maxZoom else lifted

/-- The canvas point that a point of the window shows (`project`). -/
def project (v : Viewport α) (p : Point α) : Point α :=
  ⟨(p.x - v.x) / v.zoom, (p.y - v.y) / v.zoom⟩

/-- The point of the window that shows a canvas point (`unproject`). -/
def unproject (v : Viewport α) (p : Point α) : Point α :=
  ⟨p.x * v.zoom + v.x, p.y * v.zoom + v.y⟩

/-- The viewport with its zoom in range (`set_viewport`). -/
def clamped (v : Viewport α) : Viewport α := { v with zoom := clampZoom v.zoom }

/-- The viewport moved by a distance (`pan_by`). -/
def panBy (v : Viewport α) (d : Point α) : Viewport α := { v with x := v.x + d.x, y := v.y + d.y }

/-- The viewport at another zoom, with the canvas point under the anchor kept in its place
(`zoom_to`). -/
def zoomTo (v : Viewport α) (zoom : α) (anchor : Point α) : Viewport α :=
  let zoom := clampZoom zoom
  let ratio := zoom / v.zoom
  ⟨anchor.x - (anchor.x - v.x) * ratio, anchor.y - (anchor.y - v.y) * ratio, zoom⟩

end Viewport

/-- The viewport together with the place of the window on the screen. -/
structure View (α : Type) where
  viewport : Viewport α
  /-- The upper left corner of the window, in screen coordinates (`bounds_origin`). -/
  corner : Point α
deriving Repr, Inhabited

namespace View

/-- The view before anything is moved. -/
def initial : View α := ⟨.initial, ⟨0.0, 0.0⟩⟩

/-- A change of the view. -/
inductive Move (α : Type) where
  | setViewport (viewport : Viewport α)
  | setCorner (corner : Point α)
  | panBy (distance : Point α)
  | zoomTo (zoom : α) (anchor : Point α)

/-- The view after a change. -/
def move (view : View α) : Move α → View α
  | .setViewport viewport => { view with viewport := viewport.clamped }
  | .setCorner corner => { view with corner }
  | .panBy distance => { view with viewport := view.viewport.panBy distance }
  | .zoomTo zoom anchor => { view with viewport := view.viewport.zoomTo zoom anchor }

/-- The canvas point that a point of the screen shows (`to_canvas`). -/
def toCanvas (view : View α) (p : Point α) : Point α :=
  view.viewport.project ⟨p.x - view.corner.x, p.y - view.corner.y⟩

end View

end Geometry

end DiagramStudio
