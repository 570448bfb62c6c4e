import DiagramStudio.Document.Shape

/-!
# Kinds of project

The kind decides which templates are offered, and is handed to the generator as a hint.
-/

namespace DiagramStudio

/-- What a project is going to be (`ProjectType`). -/
inductive ProjectKind where
  | mobile
  | web
deriving Repr, DecidableEq, Inhabited

namespace ProjectKind

/-- The name of a kind in documents (`as_str`). -/
def name : ProjectKind → String
  | mobile => "mobile"
  | web => "web"

/-- Every kind with its name. -/
def names : List (String × ProjectKind) := [(mobile.name, mobile), (web.name, web)]

/-- Reads a kind. -/
def read : Source → Doc → Read ProjectKind := readVariant names

end ProjectKind

end DiagramStudio
