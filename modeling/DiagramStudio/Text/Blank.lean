/-!
# Blank characters

The characters that Unicode marks as `White_Space`, and the two text operations that look at them:
asking whether a text is blank, and trimming both ends.
-/

namespace DiagramStudio.Text

/-- The twenty-five code points with the Unicode property `White_Space`. -/
def isBlank (c : Char) : Bool :=
  let n := c.toNat
  (0x9 ≤ n && n ≤ 0xD) || n == 0x20 || n == 0x85 || n == 0xA0 || n == 0x1680 ||
    (0x2000 ≤ n && n ≤ 0x200A) || n == 0x2028 || n == 0x2029 || n == 0x202F || n == 0x205F ||
    n == 0x3000

/-- Drops the blanks at both ends. -/
def trimChars (cs : List Char) : List Char :=
  ((cs.dropWhile isBlank).reverse.dropWhile isBlank).reverse

/-- The text without the blanks at its ends. -/
def trim (s : String) : String := String.ofList (trimChars s.toList)

/-- A text with no character other than blanks. -/
def isBlankText (s : String) : Bool := s.toList.all isBlank

/-- Whether a row of characters occurs in another as a run of neighbours. -/
def occursAmong (part : List Char) : List Char → Bool
  | [] => part.isEmpty
  | c :: rest => part.isPrefixOf (c :: rest) || occursAmong part rest

/-- Whether `part` occurs in `whole` as a run of neighbouring characters. -/
def occursIn (part whole : String) : Bool := occursAmong part.toList whole.toList

end DiagramStudio.Text
