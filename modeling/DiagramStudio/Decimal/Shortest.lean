/-!
# Shortest decimals

The shortest decimal that reads back as a given binary floating-point number.

A finite double is `mantissa · 2 ^ exponent`. The reals that round to it form an interval around
it, closed exactly when the mantissa is even. For one digit, two digits and so on, the two
neighbours of the number on the decimal grid of that width are tested against the interval; the
first grid with a hit wins, and of two hits the nearer one, the even one on a tie. If any point of
a grid lies in the interval then so does one of the two neighbours, so no shorter decimal reads
back.
-/

namespace DiagramStudio

/-- A positive decimal `coefficient · 10 ^ exponent`. -/
structure Decimal where
  coefficient : Nat
  exponent : Int
deriving Repr, DecidableEq

namespace Decimal

/-- The interval of reals that round to a number, as fractions over one denominator. -/
structure Neighbourhood where
  low : Nat
  value : Nat
  high : Nat
  denominator : Nat
  /-- Whether the two ends belong to the interval. -/
  closed : Bool

/-- The neighbourhood of `mantissa · 2 ^ exponent`. The gap below is half as wide when the number
is the smallest of its binade, which `narrow` says. -/
def Neighbourhood.ofBinary (mantissa : Nat) (exponent : Int) (narrow : Bool) : Neighbourhood :=
  let quarter := exponent - 2
  let scale := Nat.pow 2 quarter.toNat
  { low := (4 * mantissa - if narrow then 1 else 2) * scale
    value := 4 * mantissa * scale
    high := (4 * mantissa + 2) * scale
    denominator := Nat.pow 2 (-quarter).toNat
    closed := mantissa % 2 == 0 }

/-- The neighbourhood of the magnitude of a finite double, read from its bits. -/
def Neighbourhood.ofBits (bits : UInt64) : Neighbourhood :=
  let biased := ((bits >>> 52) &&& 0x7FF).toNat
  let fraction := (bits &&& 0xFFFFFFFFFFFFF).toNat
  if biased = 0 then .ofBinary fraction (-1074) false
  else .ofBinary (0x10000000000000 + fraction) (biased - 1075) (fraction == 0 && biased != 1)

/-- The exponent of the leading decimal digit of the value. Every positive double is above
`10 ^ -400`, so the quotient below is positive. -/
def Neighbourhood.leading (n : Neighbourhood) : Int :=
  (Nat.toDigits 10 (n.value * Nat.pow 10 400 / n.denominator)).length - 401

/-- The neighbourhood measured in steps of `10 ^ exponent`. -/
def Neighbourhood.onGrid (n : Neighbourhood) (exponent : Int) : Neighbourhood :=
  let up := Nat.pow 10 (-exponent).toNat
  { n with
    low := n.low * up
    value := n.value * up
    high := n.high * up
    denominator := n.denominator * Nat.pow 10 exponent.toNat }

/-- Whether the whole number `k` lies in the interval. -/
def Neighbourhood.contains (n : Neighbourhood) (k : Nat) : Bool :=
  let x := k * n.denominator
  if n.closed then n.low ≤ x && x ≤ n.high else n.low < x && x < n.high

/-- The whole number of the interval that is nearest to its value, if there is one. -/
def Neighbourhood.nearest? (n : Neighbourhood) : Option Nat :=
  let below := n.value / n.denominator
  let above := below + 1
  match n.contains below, n.contains above with
  | false, false => none
  | true, false => some below
  | false, true => some above
  | true, true =>
    match compare (2 * n.value) ((below + above) * n.denominator) with
    | .lt => some below
    | .gt => some above
    | .eq => some (if below % 2 = 0 then below else above)

/-- The decimal of the interval with the fewest digits. Seventeen digits tell any two doubles
apart, so the search ends there. -/
def Neighbourhood.shortest (n : Neighbourhood) : Decimal :=
  let leading := n.leading
  let found := (List.range 17).findSome? fun (width : Nat) =>
    let exponent := leading - (width : Int)
    (n.onGrid exponent).nearest?.map fun k => (⟨k, exponent⟩ : Decimal)
  found.getD ⟨0, 0⟩

/-- The same decimal without zeros at the end of its coefficient. -/
def trimmed (d : Decimal) : Decimal :=
  if _h : d.coefficient ≠ 0 ∧ d.coefficient % 10 = 0 then
    trimmed ⟨d.coefficient / 10, d.exponent + 1⟩
  else d
termination_by d.coefficient
decreasing_by omega

/-- The shortest decimal that reads back as the magnitude of a finite, non-zero double. -/
def shortest (bits : UInt64) : Decimal := (Neighbourhood.ofBits bits).shortest.trimmed

end Decimal

end DiagramStudio
