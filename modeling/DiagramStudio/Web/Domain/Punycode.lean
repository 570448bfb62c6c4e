/-!
# Labels in ASCII letters

Punycode writes a label in small letters, digits and hyphens. The ASCII characters come first, then
a hyphen if there are any, then a row of numbers. Each number tells where the next character goes
and how far its code point is from the last one: the code points are taken in ascending order, and
all places for one code point come before the first place for the next.

A number is written digit by digit, the lowest first. The digits have a mixed base that follows
the size of the numbers so far, the bias, and the last digit of a number is known by its size.
-/

namespace DiagramStudio.Web.Domain.Punycode

/-! ## Digits -/

/-- The value of a digit: the letters come first. -/
def digit? (c : Char) : Option Nat :=
  let n := c.toNat
  if 0x61 ≤ n ∧ n ≤ 0x7A then some (n - 0x61)
  else if 0x30 ≤ n ∧ n ≤ 0x39 then some (n - 0x30 + 26)
  else none

/-- The digit of a value. -/
def digitChar (value : Nat) : Char :=
  Char.ofNat (if value < 26 then 0x61 + value else 0x30 + (value - 26))

/-- The least value of a digit that is not the last one of its number. -/
def threshold (bias place : Nat) : Nat := min (max (place - bias) 1) 26

theorem threshold_bounds (bias place : Nat) :
    1 ≤ threshold bias place ∧ threshold bias place ≤ 26 := by
  unfold threshold
  omega

/-- The bias that suits numbers of a size. -/
def biasOf (size : Nat) : Nat :=
  if 455 < size then 36 + biasOf (size / 35) else 36 * size / (size + 38)
termination_by size
decreasing_by omega

/-- The bias after a number, when that many characters are placed. The first number is much larger
than the others. -/
def nextBias (number placed : Nat) (isFirst : Bool) : Nat :=
  let size := if isFirst then number / 700 else number / 2
  biasOf (size + size / placed)

/-- The bias for the first number. -/
def firstBias : Nat := 72

/-- The place of the lowest digit. Each further digit is that many places higher. -/
def placeStep : Nat := 36

/-! ## Reading -/

/-- The number that digits show from a place on, each digit counting `weight` times, and the digits
behind it. Weights stay below 2³². -/
def readNumber (bias place weight : Nat) : List Char → Option (Nat × List Char)
  | [] => none
  | c :: cs => do
    let value ← digit? c
    let least := threshold bias place
    if value < least then return (value * weight, cs)
    else if weight * (36 - least) < UInt32.size then
      let (number, rest) ← readNumber bias (place + placeStep) (weight * (36 - least)) cs
      return (value * weight + number, rest)
    else none

theorem readNumber_length {bias place weight : Nat} {cs rest : List Char} {number : Nat}
    (h : readNumber bias place weight cs = some (number, rest)) : rest.length < cs.length := by
  induction cs generalizing place weight number with
  | nil => simp [readNumber] at h
  | cons c cs ih =>
    simp only [readNumber, Option.bind_eq_bind, Option.pure_def, Option.bind_eq_some_iff] at h
    obtain ⟨value, -, h⟩ := h
    split at h
    · simp only [Option.some.injEq, Prod.mk.injEq] at h
      simp [← h.2]
    · split at h
      · obtain ⟨⟨n, r⟩, hr, h⟩ := Option.bind_eq_some_iff.1 h
        simp only [Option.some.injEq, Prod.mk.injEq] at h
        have := ih (h.2 ▸ hr)
        simp only [List.length_cons]
        omega
      · simp at h

/-- The label with the characters that the numbers place. `code` is the code point and `index` the
place at which counting goes on. -/
def placeAll (bias code index : Nat) (label : List Char) : List Char → Option (List Char)
  | [] => some label
  | c :: cs =>
    match _h : readNumber bias placeStep 1 (c :: cs) with
    | none => none
    | some (number, rest) =>
      let placed := label.length + 1
      let index' := index + number
      let code' := code + index' / placed
      if index' < UInt32.size ∧ code'.isValidChar then
        placeAll (nextBias number placed (index = 0)) code' (index' % placed + 1)
          (label.insertIdx (index' % placed) (Char.ofNat code')) rest
      else none
termination_by cs => cs.length
decreasing_by exact readNumber_length _h

/-- The first code point that is not ASCII. -/
def firstCode : Nat := 0x80

/-- The label that ASCII characters stand for. -/
def decode (cs : List Char) : Option (List Char) :=
  let numbers := (cs.reverse.takeWhile (· ≠ '-')).reverse
  match cs.take (cs.length - numbers.length) with
  | ['-'] => none
  | plain => placeAll firstBias firstCode 0 plain.dropLast numbers

/-! ## Writing -/

/-- The digits of a number from a place on. -/
def writeNumber (bias place number : Nat) : List Char :=
  let least := threshold bias place
  if number < least then [digitChar number]
  else
    digitChar (least + (number - least) % (36 - least)) ::
      writeNumber bias (place + placeStep) ((number - least) / (36 - least))
termination_by number
decreasing_by
  have := threshold_bounds bias place
  exact Nat.lt_of_le_of_lt (Nat.div_le_self _ _) (by omega)

/-- The state of writing a label: the digits so far, the number of the place that comes next, the
bias, how many characters are placed, and whether none is placed by a number. -/
structure Writing where
  digits : List Char := []
  number : Nat := 0
  bias : Nat := firstBias
  placed : Nat
  isFirst : Bool := true

/-- One character of the label, while a code point has its turn. -/
def Writing.step (code : Nat) (state : Writing) (c : Char) : Writing :=
  if c.toNat < code then { state with number := state.number + 1 }
  else if c.toNat = code then
    { digits := state.digits ++ writeNumber state.bias placeStep state.number
      number := 0
      bias := nextBias state.number (state.placed + 1) state.isFirst
      placed := state.placed + 1
      isFirst := false }
  else state

/-- The digits for the code points that are to come, in ascending order, from `code` on. -/
def writeCodes (label : List Char) (code : Nat) (state : Writing) : List Nat → List Char
  | [] => state.digits
  | next :: codes =>
    let skipped := { state with number := state.number + (next - code) * (state.placed + 1) }
    let done := label.foldl (Writing.step next) skipped
    writeCodes label (next + 1) { done with number := done.number + 1 } codes

/-- Whether a character is ASCII. -/
def isAscii (c : Char) : Bool := c.toNat < firstCode

/-- A label in ASCII characters. -/
def encode (label : List Char) : List Char :=
  let plain := label.filter isAscii
  let codes := ((label.filter (!isAscii ·)).map Char.toNat).mergeSort.eraseDups
  (if plain = [] then [] else plain ++ ['-']) ++
    writeCodes label firstCode { placed := plain.length } codes

end DiagramStudio.Web.Domain.Punycode
