import DiagramStudio.Decimal.Layout
import DiagramStudio.Json.Basic

/-!
# JSON text

Two layouts of a value: compact, on one line without blanks, and pretty, with one item or member
a line. Both keep the order of the members.

* `begins_compact_arr`: the text of a list begins with its bracket.
-/

namespace DiagramStudio

/-- A double is written positionally from `0.00001` up to sixteen digits before the point, always
with a fraction. -/
def Number.layout : Decimal.Layout := ⟨-5, 15⟩

/-- The text of a finite number. -/
def Number.text : Number → String
  | .int n => toString n
  | .double x => Number.layout.writeFloat x

namespace Json

/-- Two hexadecimal digits of a number below 256. -/
def twoHexDigits (n : Nat) : String :=
  String.ofList [Nat.digitChar (n / 16), Nat.digitChar (n % 16)]

/-- A character inside a string of JSON text. Only quotes, backslashes and control characters are
escaped. -/
def escapeChar (c : Char) : String :=
  if c = '"' then "\\\""
  else if c = '\\' then "\\\\"
  else if c = '\n' then "\\n"
  else if c = '\r' then "\\r"
  else if c = '\t' then "\\t"
  else if c = '\x08' then "\\b"
  else if c = '\x0c' then "\\f"
  else if c.toNat < 0x20 then "\\u00" ++ twoHexDigits c.toNat
  else String.singleton c

/-- A string of JSON text. -/
def quote (s : String) : String :=
  s.toList.foldl (fun text c => text ++ escapeChar c) "\"" ++ "\""

/-- The text of a value that holds no other value. -/
def scalarText : Json → String
  | .null => "null"
  | .bool true => "true"
  | .bool false => "false"
  | .num n => n.text
  | .str s => quote s
  | .arr _ => "[]"
  | .obj _ => "\x7b\x7d"

mutual

/-- The text on one line. -/
def compact : Json → String
  | .arr items => "[" ++ compactItems items ++ "]"
  | .obj members => "\x7b" ++ compactMembers members ++ "\x7d"
  | other => scalarText other

/-- The items with commas between them. -/
def compactItems : List Json → String
  | [] => ""
  | [item] => compact item
  | item :: rest => compact item ++ "," ++ compactItems rest

/-- The members with commas between them. -/
def compactMembers : List (String × Json) → String
  | [] => ""
  | [(key, value)] => quote key ++ ":" ++ compact value
  | (key, value) :: rest => quote key ++ ":" ++ compact value ++ "," ++ compactMembers rest

end

theorem begins_compact_arr (items : List Json) :
    ∃ rest, (arr items).compact.toList = '[' :: rest := by
  rw [compact, String.append_assoc, String.toList_append]
  exact ⟨_, rfl⟩

/-- A new line at a depth of nesting. -/
def newLine (depth : Nat) : String := String.ofList ('\n' :: List.replicate (2 * depth) ' ')

mutual

/-- The text with one item or member a line, two blanks deeper than its bracket. -/
def prettyAt (depth : Nat) : Json → String
  | .arr (item :: rest) =>
    "[" ++ prettyItems (depth + 1) (item :: rest) ++ newLine depth ++ "]"
  | .obj (member :: rest) =>
    "\x7b" ++ prettyMembers (depth + 1) (member :: rest) ++ newLine depth ++ "\x7d"
  | other => scalarText other

/-- The items, each on its line. -/
def prettyItems (depth : Nat) : List Json → String
  | [] => ""
  | [item] => newLine depth ++ prettyAt depth item
  | item :: rest => newLine depth ++ prettyAt depth item ++ "," ++ prettyItems depth rest

/-- The members, each on its line. -/
def prettyMembers (depth : Nat) : List (String × Json) → String
  | [] => ""
  | [(key, value)] => newLine depth ++ quote key ++ ": " ++ prettyAt depth value
  | (key, value) :: rest =>
    newLine depth ++ quote key ++ ": " ++ prettyAt depth value ++ "," ++ prettyMembers depth rest

end

/-- The text with one item or member a line. -/
def pretty (value : Json) : String := prettyAt 0 value

end Json

end DiagramStudio
