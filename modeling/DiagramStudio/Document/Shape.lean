import DiagramStudio.Document.Reader

/-!
# Shapes of records

A record is read from an object, member by member in the order of the document, or from the list
of its fields in the order of its shape. A field that occurs twice is refused before its second
value is read; fields that are missing are refused last.

An open record can only be read from an object. The members that are none of its fields are handed
on instead of skipped.
-/

namespace DiagramStudio

/-- A field of a record `α`. -/
structure Field (α : Type) where
  name : String
  /-- Puts the value that a document shows into the record. -/
  read : Source → Doc → α → Read α
  /-- An object must have it. -/
  required : Bool
  /-- A list may end before it. -/
  omissible : Bool

namespace Field

/-- A field that an object and a list must have. -/
def must (name : String) (read : Source → Doc → Read β) (set : β → α → α) : Field α :=
  ⟨name, fun source doc record => (read source doc).map (set · record), true, false⟩

/-- A field that an object and a list may lack. -/
def may (name : String) (read : Source → Doc → Read β) (set : β → α → α) : Field α :=
  ⟨name, fun source doc record => (read source doc).map (set · record), false, true⟩

/-- A field that an object may lack, but a list may not. -/
def named (name : String) (read : Source → Doc → Read β) (set : β → α → α) : Field α :=
  ⟨name, fun source doc record => (read source doc).map (set · record), false, false⟩

/-- A reader that does not depend on the source. -/
def plain (read : Doc → Read β) : Source → Doc → Read β := fun _ => read

end Field

/-- The shape of a record `α`: what to call it, the record without any field, and its fields. -/
structure Shape (α : Type) where
  name : String
  blank : α
  fields : List (Field α)

namespace Shape

variable {α : Type}

/-- What is expected where a record has to stand. -/
def title (shape : Shape α) : String := "struct " ++ shape.name

/-- The number of fields, in words. -/
def fieldCount (shape : Shape α) : String :=
  let n := shape.fields.length
  shape.title ++ " with " ++ toString n ++ if n = 1 then " element" else " elements"

/-- What is done with a member that is no field. -/
abbrev Others (α : Type) := Source → String → Doc → α → Read α

/-- Others are skipped. -/
def skipOthers : Others α := fun _ _ doc record => do
  doc.skip
  return record

/-- One member of an object. The names of the fields that were seen go along. -/
def readMember (shape : Shape α) (others : Others α) (source : Source)
    (state : α × List String) (member : Doc × Doc) : Read (α × List String) := do
  let name ← member.1.key
  match shape.fields.find? (·.name = name) with
  | some field =>
    if name ∈ state.2 then throw (.duplicateField name)
    let record ← field.read source member.2 state.1
    return (record, name :: state.2)
  | none =>
    let record ← others source name member.2 state.1
    return (record, state.2)

/-- Whether every required field was seen. -/
def checkMissing (shape : Shape α) (seen : List String) : Read Unit :=
  match shape.fields.find? fun field => field.required && !seen.contains field.name with
  | some field => .error (.missingField field.name)
  | none => .ok ()

/-- The record that the members of an object show. -/
def readMembers (shape : Shape α) (others : Others α) (source : Source)
    (members : List (Doc × Doc)) (ending : Ending) : Read α := do
  let (record, seen) ← members.foldlM (readMember shape others source) (shape.blank, [])
  ending.readObject
  shape.checkMissing seen
  return record

/-- Whether a list ends well behind the last field, where items are left over. -/
def checkRest (shape : Shape α) (source : Source) (rest : List Doc) (ending : Ending) :
    Read Unit :=
  let total := shape.fields.length + rest.length
  match source, rest with
  | .text _, [] =>
    match ending with
    | .closed => .ok ()
    | .textEnd => .error .endOfList
    | .danglingComma => .error .trailingComma
    | _ => .error .trailingCharacters
  | .text _, _ :: _ => .error .trailingCharacters
  | _, [] => .ok ()
  | .value, _ :: _ => .error (.invalidLength total "fewer elements in array")
  | .collected, _ :: _ =>
    let n := shape.fields.length
    .error (.invalidLength total
      (toString n ++ if n = 1 then " element in sequence" else " elements in sequence"))

/-- The record that the items of a list show, for the fields that are still to come. -/
def readItems (shape : Shape α) (source : Source) (ending : Ending) (count : Nat) (record : α) :
    List (Field α) → List Doc → Read α
  | [], rest => do
    shape.checkRest source rest ending
    return record
  | field :: fields, item :: rest => do
    let record ← field.read source item record
    readItems shape source ending (count + 1) record fields rest
  | field :: fields, [] => do
    ending.readList
    if field.omissible then readItems shape source ending (count + 1) record fields []
    else throw (.invalidLength count shape.fieldCount)

/-- Reads a record from an object or a list. -/
def read (shape : Shape α) (source : Source) : Doc → Read α
  | .object members ending => do
    let inner ← source.enter
    shape.readMembers skipOthers inner members ending
  | .list items ending => do
    let inner ← source.enter
    shape.readItems inner ending 0 shape.blank shape.fields items
  | doc => .error (doc.refuse shape.title)

/-- Reads an open record from an object. -/
def readOpen (shape : Shape α) (others : Others α) (source : Source) : Doc → Read α
  | .object members ending => do
    let inner ← source.enter
    shape.readMembers others inner members ending
  | doc => .error (doc.refuse shape.title)

end Shape

/-! ## Variants -/

/-- The value of a variant's name. -/
def variantOf (known : List (String × α)) (name : String) : Read α :=
  match Json.findMember? name known with
  | some value => .ok value
  | none => .error (.unknownVariant name (known.map (·.1)))

/-- The name of a variant, at the place of a key. -/
def variantKey (known : List (String × α)) (doc : Doc) : Read α := do
  let name ← doc.key
  variantOf known name

/-- A variant in a text: its name, or an object with its name as only key and `null` under it. -/
def readVariantText (known : List (String × α)) (source : Source) : Doc → Read α
  | .str name => variantOf known name
  | .fault (.text cause _) => .error cause.error
  | .fault .missing => .error .endOfValue
  | .fault .noColon => .error .expectedColon
  | .fault .colonCut => .error .endOfObject
  | .object [] ending => do
    let _ ← source.enter
    throw (if ending = .textEnd then .endOfObject else .expectedValue)
  | .object ((name, item) :: rest) ending => do
    let _ ← source.enter
    let value ← variantKey known name
    item.unit
    if rest.isEmpty && ending = .closed then return value
    throw (if rest.isEmpty && ending = .textEnd then .endOfObject else .expectedValue)
  | _ => .error .expectedValue

/-- A variant in a value. -/
def readVariantValue (known : List (String × α)) : Doc → Read α
  | .str name => variantOf known name
  | .object [(name, item)] _ => do
    let value ← variantKey known name
    item.unit
    return value
  | .object .. => .error (.invalidValue .object "map with a single key")
  | doc => .error (doc.refuse "string or map")

/-- A variant without content. -/
def readVariant (known : List (String × α)) (source : Source) (doc : Doc) : Read α :=
  match source with
  | .text _ => readVariantText known source doc
  | _ => readVariantValue known doc

end DiagramStudio
