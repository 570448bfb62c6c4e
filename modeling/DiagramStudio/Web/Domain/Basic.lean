import DiagramStudio.Text.Composition
import DiagramStudio.Web.Domain.Direction
import DiagramStudio.Web.Domain.Joining
import DiagramStudio.Web.Domain.Punycode
import DiagramStudio.Web.Domain.Spelling

/-!
# Domain names

A domain name is a row of labels with dots between them. Labels may hold letters of all scripts;
a label with any beyond ASCII has a second form in ASCII characters, behind a marker, and either
form may be written. Names that are spelled in different ways are the same name if they agree in
this ASCII form.
-/

namespace DiagramStudio.Web

/-- Whether a character can never stand in a host. -/
def isForbiddenInHost (c : Char) : Bool := "\x00\t\n\r #/:<>?@[\\]^|".toList.contains c

namespace Domain

/-- Whether a character can never stand in a name. -/
def isForbidden (c : Char) : Bool :=
  isForbiddenInHost c || c.toNat < 0x20 || c = '\x7f' || c = '%'

/-- What stands before the ASCII form of a label. -/
def marker : List Char := "xn--".toList

/-- How long a label beyond ASCII may be. -/
def labelLimit : Nat := 1000

/-- How long the ASCII form of a label may be, without its marker. -/
def asciiLimit : Nat := 2000

/-- Whether characters are in the form that all their spellings lead to. -/
def isSettled (cs : List Char) : Bool :=
  cs.all (fun c => spelling? c = some [c] && !isForbidden c) && Text.composed cs = cs

/-- Whether a label may stand in a name, apart from its direction. -/
def isSound (label : List Char) : Bool :=
  label.head?.all (!Text.isMark ·) && joinersFit label &&
    (label.all Punycode.isAscii || label.length ≤ labelLimit)

/-- The label that is written as itself, or behind the marker in ASCII characters. -/
def readLabel? (written : List Char) : Option (List Char) :=
  let label? :=
    match List.isPrefixOf? marker written with
    | none => some written
    | some digits =>
      if written.getLast? = some '-' || asciiLimit < digits.length ||
          !digits.all Punycode.isAscii then none
      else (Punycode.decode digits).filter isSettled
  label?.filter isSound

/-- The labels of a name. -/
def readLabels? (written : List Char) : Option (List (List Char)) := do
  let spelled ← written.mapM spelling?
  let name := Text.composed spelled.flatten
  if name.any isForbidden then none
  let labels ← (name.splitOn '.').mapM readLabel?
  if directionsFit labels then some labels else none

/-- The ASCII form of a label. -/
def asciiLabel (label : List Char) : List Char :=
  if label.all Punycode.isAscii then label else marker ++ Punycode.encode label

/-- The ASCII form of a name. It may be empty. -/
def read? (written : List Char) : Option (List Char) :=
  (readLabels? written).map fun labels => ['.'].intercalate (labels.map asciiLabel)

end Domain

end DiagramStudio.Web
