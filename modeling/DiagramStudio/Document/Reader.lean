import DiagramStudio.Document.Error
import DiagramStudio.Document.Tree

/-!
# Typed reading

Readers for the values that stand in documents: texts, truth values, numbers, lists, free-form
values, and optional ones. A reader gets the source it reads from, because a text limits how deep
brackets may nest and because two refusals are worded differently per source.
-/

namespace DiagramStudio

/-- A reading result. -/
abbrev Read := Except ReadError

/-- Where a document comes from. -/
inductive Source where
  /-- A text, in which that many more brackets may be opened inside each other. -/
  | text (room : Nat)
  /-- A value. -/
  | value
  /-- The members that an open object did not use itself. -/
  | collected
deriving Repr, DecidableEq

/-- The source inside one more bracket. -/
def Source.enter : Source → Read Source
  | .text 0 => .error .tooDeep
  | .text (room + 1) => .ok (.text room)
  | source => .ok source

/-- The brackets of a text nest up to 127 deep. -/
def Source.wholeText : Source := .text 127

/-! ## Faults and endings -/

/-- The refusal of a string that cannot be read. -/
def TextFault.error : TextFault → ReadError
  | .unterminated => .endOfString
  | .control => .controlCharacter
  | .escape => .invalidEscape
  | .loneSurrogate => .loneSurrogate
  | .unpairedSurrogate => .unpairedSurrogate

/-- The refusal of a fault, when the value is read. -/
def Fault.error : Fault → ReadError
  | .missing => .endOfValue
  | .unexpected => .expectedValue
  | .word => .expectedWord
  | .wordCut => .endOfValue
  | .numeral => .invalidNumber
  | .numeralCut => .endOfValue
  | .numeralRange => .numberOutOfRange
  | .text fault _ => fault.error
  | .noColon => .expectedColon
  | .colonCut => .endOfObject

/-- The refusal of a fault, when the value is only skipped. -/
def Fault.skipped : Fault → Read Unit
  | .numeralCut => .error .invalidNumber
  | .numeralRange => .ok ()
  | .text _ none => .ok ()
  | .text _ (some fault) => .error fault.error
  | fault => .error fault.error

/-- Whether a list that is read ends well. -/
def Ending.readList : Ending → Read Unit
  | .closed => .ok ()
  | .broken => .error .expectedValue
  | .textEnd => .error .endOfList
  | .separator => .error .expectedListSeparator
  | .danglingComma => .error .trailingComma
  | .commaEnd => .error .endOfValue

/-- Whether an object that is read ends well. -/
def Ending.readObject : Ending → Read Unit
  | .closed => .ok ()
  | .broken => .error .expectedValue
  | .textEnd => .error .endOfObject
  | .separator => .error .expectedObjectSeparator
  | .danglingComma => .error .trailingComma
  | .commaEnd => .error .endOfValue

/-- Whether a list that is skipped ends well. -/
def Ending.skipList : Ending → Read Unit
  | .danglingComma => .error .expectedValue
  | ending => ending.readList

/-- Whether an object that is skipped ends well. -/
def Ending.skipObject : Ending → Read Unit
  | .danglingComma => .error .keyNotText
  | .commaEnd => .error .endOfObject
  | ending => ending.readObject

/-! ## Single values -/

namespace Doc

/-- The refusal of a document that is not what is expected. -/
def refuse (expected : String) : Doc → ReadError
  | .null => .invalidType .null expected
  | .bool b => .invalidType (.bool b) expected
  | .num n => .invalidType (.num n) expected
  | .str s => .invalidType (.str s) expected
  | .list .. => .invalidType .list expected
  | .object .. => .invalidType .object expected
  | .fault reason => reason.error

/-- A text. -/
def text : Doc → Read String
  | .str s => .ok s
  | doc => .error (doc.refuse "a string")

/-- A truth value. -/
def truth : Doc → Read Bool
  | .bool b => .ok b
  | doc => .error (doc.refuse "a boolean")

/-- Nothing but `null`. -/
def unit : Doc → Read Unit
  | .null => .ok ()
  | doc => .error (doc.refuse "unit")

end Doc

/-- The nearest double of a whole number of 64 bits. -/
def Number.nearestDouble (n : Int) : Float :=
  if 0 ≤ n then n.toNat.toUInt64.toFloat else -(n.natAbs.toUInt64.toFloat)

/-- A number as a double. -/
def Number.toDouble : Number → Float
  | .int n => nearestDouble n
  | .double x => x

namespace Doc

/-- A double. Whole numbers are taken as doubles. -/
def double : Doc → Read Float
  | .num n => .ok n.toDouble
  | doc => .error (doc.refuse "f64")

/-- A whole number of 32 bits. -/
def int32 : Doc → Read Int32
  | .num (.int n) =>
    if Int32.minValue.toInt ≤ n ∧ n ≤ Int32.maxValue.toInt then .ok (Int32.ofInt n)
    else .error (.invalidValue (.num (.int n)) "i32")
  | doc => .error (doc.refuse "i32")

/-- A natural number of 64 bits. -/
def uint64 : Doc → Read UInt64
  | .num (.int n) =>
    if 0 ≤ n ∧ n < UInt64.size then .ok n.toNat.toUInt64
    else .error (.invalidValue (.num (.int n)) "u64")
  | doc => .error (doc.refuse "u64")

/-- An optional value: `null` is none. -/
def optional (read : Doc → Read α) : Doc → Read (Option α)
  | .null => .ok none
  | doc => (read doc).map some

/-- The key of a member. -/
def key : Doc → Read String
  | .str s => .ok s
  | .fault (.text cause _) => .error cause.error
  | _ => .error .keyNotText

/-- A list of values. -/
def readList (read : Source → Doc → Read α) (source : Source) : Doc → Read (List α)
  | .list items ending => do
    let inner ← source.enter
    let values ← items.mapM (read inner)
    ending.readList
    return values
  | doc => .error (doc.refuse "a sequence")

/-! ## Free-form values -/

mutual

/-- A value of any kind. -/
def json (source : Source) : Doc → Read Json
  | .null => .ok .null
  | .bool b => .ok (.bool b)
  | .num n => .ok (.num n)
  | .str s => .ok (.str s)
  | .list items ending => do
    let inner ← source.enter
    let values ← jsonItems inner items
    ending.readList
    return .arr values
  | .object members ending => do
    let inner ← source.enter
    let members ← jsonMembers inner members
    ending.readObject
    return .obj (members.foldl (fun sorted m => Json.insertMember m.1 m.2 sorted) [])
  | .fault reason => .error reason.error

/-- The items of a free-form list. -/
def jsonItems (source : Source) : List Doc → Read (List Json)
  | [] => .ok []
  | item :: rest => do
    let value ← json source item
    let values ← jsonItems source rest
    return value :: values

/-- The members of a free-form object, in their order and with their repetitions. -/
def jsonMembers (source : Source) : List (Doc × Doc) → Read (List (String × Json))
  | [] => .ok []
  | (name, item) :: rest => do
    let name ← name.key
    let value ← json source item
    let members ← jsonMembers source rest
    return (name, value) :: members

end

/-! ## Skipping -/

/-- A key that is skipped. -/
def skipKey : Doc → Read Unit
  | .str _ => .ok ()
  | .fault (.text cause skipped) => (Fault.text cause skipped).skipped
  | _ => .error .keyNotText

mutual

/-- Looks over a value for its syntax only: neither depth nor range nor halves of surrogate pairs
count. -/
def skip : Doc → Read Unit
  | .list items ending => do
    skipItems items
    ending.skipList
  | .object members ending => do
    skipMembers members
    ending.skipObject
  | .fault reason => reason.skipped
  | _ => .ok ()

/-- Looks over the items of a list. -/
def skipItems : List Doc → Read Unit
  | [] => .ok ()
  | item :: rest => do
    skip item
    skipItems rest

/-- Looks over the members of an object. -/
def skipMembers : List (Doc × Doc) → Read Unit
  | [] => .ok ()
  | (name, item) :: rest => do
    skipKey name
    skip item
    skipMembers rest

end

end Doc

/-! ## Whole texts -/

/-- Reads a whole text. Nothing but blanks may stand behind the value. -/
def readText (read : Source → Doc → Read α) (text : String) : Read α := do
  let (doc, more) := Doc.ofText text
  let value ← read .wholeText doc
  if more then throw .trailingCharacters
  return value

/-- Reads a value. -/
def readValue (read : Source → Doc → Read α) (value : Json) : Read α := read .value value.doc

/-- The free-form value that a whole text shows. -/
def Json.ofText (text : String) : Read Json := readText Doc.json text

end DiagramStudio
