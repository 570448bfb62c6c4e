/-!
# JSON values

Free-form values, as they are kept inside a diagram and as they are answered. An object is its
list of members. Where a value has been read from a document its members are sorted by key and no
key repeats: `insertMember` builds such lists.

* `findMember?_insertMember_self`: the member inserted last is the one found.
-/

namespace DiagramStudio

/-- A JSON number: a whole number or a double. -/
inductive Number where
  | int (value : Int)
  | double (value : Float)
deriving Repr, Inhabited

/-- A JSON value. -/
inductive Json where
  | null
  | bool (value : Bool)
  | num (value : Number)
  | str (value : String)
  | arr (items : List Json)
  | obj (members : List (String × Json))
deriving Repr, Inhabited

namespace Json

/-- Puts a member at its place among members sorted by key, over one of the same key. -/
def insertMember (key : String) (value : α) : List (String × α) → List (String × α)
  | [] => [(key, value)]
  | (k, v) :: rest =>
    if key = k then (key, value) :: rest
    else if key < k then (key, value) :: (k, v) :: rest
    else (k, v) :: insertMember key value rest

/-- The value of the first member of that key. -/
def findMember? (key : String) : List (String × α) → Option α
  | [] => none
  | (k, v) :: rest => if key = k then some v else findMember? key rest

/-- The value under a key, of an object. -/
def get? (key : String) : Json → Option Json
  | .obj members => findMember? key members
  | _ => none

/-- A whole number. -/
def ofInt (n : Int) : Json := .num (.int n)

/-- A natural number. -/
def ofNat (n : Nat) : Json := .num (.int n)

/-- A double. JSON has no text for an infinity or for a result that is no number, so these are
`null`. -/
def ofFloat (x : Float) : Json := if x.isFinite then .num (.double x) else .null

/-- A text, or `null`. -/
def ofText? : Option String → Json
  | some s => .str s
  | none => .null

/-- A list of texts. -/
def ofTexts (texts : List String) : Json := .arr (texts.map .str)

/-- One member if there is a value for it, none otherwise. -/
def memberIf (key : String) (value : Option Json) : List (String × Json) :=
  match value with
  | some v => [(key, v)]
  | none => []

theorem findMember?_insertMember_self (key : String) (value : α) (members : List (String × α)) :
    findMember? key (insertMember key value members) = some value := by
  induction members with
  | nil => simp [insertMember, findMember?]
  | cons m rest ih =>
    obtain ⟨k, v⟩ := m
    by_cases h : key = k
    · simp [insertMember, findMember?, h]
    · by_cases h' : key < k <;> simp [insertMember, findMember?, h, h', ih]

end Json

end DiagramStudio
