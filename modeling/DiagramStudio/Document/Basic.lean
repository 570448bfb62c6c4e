import DiagramStudio.Json.Basic

/-!
# Documents

A document is the tree of values that a text shows, in the order of the text: members of an
object may repeat, and where the text cannot be read any further the tree holds the reason. Typed
readers walk the tree from the front, so the first reason they meet is the one they report, and a
reader that wants only part of a document does not look at the rest more closely than it must.

A value that is only skipped is checked for its syntax alone; `Fault.skipped` says which faults
count then.
-/

namespace DiagramStudio

/-- Why a string cannot be read. -/
inductive TextFault where
  /-- The text ends inside the string. -/
  | unterminated
  /-- A control character stands in the string. -/
  | control
  /-- A backslash is followed by no escape. -/
  | escape
  /-- The second half of a surrogate pair has no first half, or the first half is followed by an
  escape that is no second half. -/
  | loneSurrogate
  /-- The first half of a surrogate pair is followed by no escape of a code unit. -/
  | unpairedSurrogate
deriving Repr, DecidableEq

/-- Why no value can be read at a place. -/
inductive Fault where
  /-- The text ends where a value has to stand. -/
  | missing
  /-- A character that begins no value. -/
  | unexpected
  /-- A word other than `null`, `true` and `false`. -/
  | word
  /-- The text ends inside a word. -/
  | wordCut
  /-- A malformed number. -/
  | numeral
  /-- The text ends inside a number. -/
  | numeralCut
  /-- A number beyond the range of a double. -/
  | numeralRange
  /-- A string that cannot be read; the second fault, if there is one, is met even when the string
  is only skipped. -/
  | text (fault : TextFault) (skipped : Option TextFault)
  /-- The colon after a key is missing. -/
  | noColon
  /-- The text ends where the colon after a key has to stand. -/
  | colonCut
deriving Repr, DecidableEq

/-- How a list or an object ends. -/
inductive Ending where
  /-- By its bracket. -/
  | closed
  /-- It holds something that cannot be read, and what follows is unknown. -/
  | broken
  /-- The text ends after the opening bracket or after a value. -/
  | textEnd
  /-- Something other than a comma or the closing bracket follows a value. -/
  | separator
  /-- A comma stands before the closing bracket. -/
  | danglingComma
  /-- The text ends after a comma. -/
  | commaEnd
deriving Repr, DecidableEq

/-- The tree of a document. A member is its key and its value; a key that can be read is a
`str`. -/
inductive Doc where
  | null
  | bool (value : Bool)
  | num (value : Number)
  | str (value : String)
  | list (items : List Doc) (ending : Ending)
  | object (members : List (Doc × Doc)) (ending : Ending)
  | fault (reason : Fault)
deriving Repr, Inhabited

/-- Whether nothing after the fault can be read. -/
def Fault.stops : Fault → Bool
  | .numeralRange => false
  | .text _ skipped => skipped.isSome
  | _ => true

mutual

/-- A value as a document. -/
def Json.doc : Json → Doc
  | .null => .null
  | .bool b => .bool b
  | .num n => .num n
  | .str s => .str s
  | .arr items => .list (docs items) .closed
  | .obj members => .object (memberDocs members) .closed

/-- The items of a list as documents. -/
def Json.docs : List Json → List Doc
  | [] => []
  | item :: rest => item.doc :: docs rest

/-- The members of an object as documents. -/
def Json.memberDocs : List (String × Json) → List (Doc × Doc)
  | [] => []
  | (key, value) :: rest => (.str key, value.doc) :: memberDocs rest

end

end DiagramStudio
