/-!
# Minting ids

Nodes and edges get ids from one counter, so that a minted node id never equals a minted edge id.
The counter wraps around; a candidate that is in use is passed over.
-/

namespace DiagramStudio

/-- The counter from which ids are minted (`IdGenerator`). -/
structure IdMint where
  next : UInt64 := 0
deriving Repr, DecidableEq, Inhabited

namespace IdMint

/-- What the ids of nodes begin with (`NODE_ID_PREFIX`). -/
def nodeStem : String := "dndnode_"

/-- What the ids of edges begin with (`EDGE_ID_PREFIX`). -/
def edgeStem : String := "edge_"

/-- The id of a stem and a number. -/
def spell (stem : String) (n : UInt64) : String := stem ++ toString n.toNat

/-- The next candidate (`mint`). -/
def candidate (stem : String) (mint : IdMint) : String × IdMint :=
  (spell stem mint.next, ⟨mint.next + 1⟩)

/-- The first candidate that is not in use, if there is one among that many. -/
def fresh (inUse : String → Bool) (stem : String) : Nat → IdMint → Option (String × IdMint)
  | 0, _ => none
  | tries + 1, mint =>
    let (id, rest) := mint.candidate stem
    if inUse id then fresh inUse stem tries rest else some (id, rest)

/-- The number of a row of digits, if it fits into 64 bits. A plus sign may stand before it. -/
def number? (cs : List Char) : Option Nat :=
  let digits := match cs with
    | '+' :: tail => tail
    | _ => cs
  if digits ≠ [] && digits.all Char.isDigit then
    let n := digits.foldl (fun n c => n * 10 + (c.toNat - '0'.toNat)) 0
    if n < UInt64.size then some n else none
  else none

/-- What follows a stem. -/
def afterStem? (stem id : String) : Option (List Char) :=
  if stem.toList.isPrefixOf id.toList then some (id.toList.drop stem.length) else none

/-- The number that an id spells, if it begins with one of the stems. -/
def spelled? (id : String) : Option Nat :=
  (afterStem? nodeStem id <|> afterStem? edgeStem id).bind number?

/-- Moves the counter past an id from outside (`reserve`). The largest number is left to the check
for use. -/
def reserve (mint : IdMint) (id : String) : IdMint :=
  match spelled? id with
  | some n =>
    if n + 1 < UInt64.size then
      ⟨if mint.next.toNat < n + 1 then (n + 1).toUInt64 else mint.next⟩
    else mint
  | none => mint

end IdMint

end DiagramStudio
