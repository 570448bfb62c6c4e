/-!
# Tables of code points

Properties of characters are kept as tables: inclusive ranges of code points, ranges with a value,
and blocks that give the values of successive code points. The entry that comes first counts.
-/

namespace DiagramStudio.Text

/-- Whether one of the ranges holds a code point. -/
def inRanges (ranges : List (Nat × Nat)) (n : Nat) : Bool :=
  ranges.any fun r => r.1 ≤ n && n ≤ r.2

/-- The value of the range that holds a code point. -/
def rangeValue? (ranges : List (Nat × Nat × α)) (n : Nat) : Option α :=
  (ranges.find? fun r => r.1 ≤ n && n ≤ r.2.1).map (·.2.2)

/-- The value of a code point, where a block gives the values from its first code point on. -/
def blockValue? (blocks : List (Nat × List α)) (n : Nat) : Option α :=
  blocks.findSome? fun block => if block.1 ≤ n then block.2[n - block.1]? else none

/-- The character that a code point stands for, where a block gives them as a text from its first
code point on. -/
def blockChar? (blocks : List (Nat × String)) (n : Nat) : Option Char :=
  blocks.findSome? fun block => if block.1 ≤ n then block.2.toList[n - block.1]? else none

end DiagramStudio.Text
