import DiagramStudio.Decimal.Shortest

/-!
# Layout of a decimal

How the digits of a decimal are written down: positionally for a range of magnitudes, with an
exponent outside it.
-/

namespace DiagramStudio.Decimal

/-- The magnitudes that are written positionally, by the exponent of the leading digit. -/
structure Layout where
  plainFrom : Int
  plainTo : Int

/-- Positional digits with a point. At least one digit stands on either side of it. -/
def plain (d : Decimal) : List Char :=
  let digits := Nat.toDigits 10 d.coefficient
  if 0 ≤ d.exponent then digits ++ List.replicate d.exponent.toNat '0' ++ ['.', '0']
  else
    let places := (-d.exponent).toNat
    if places < digits.length then
      digits.take (digits.length - places) ++ '.' :: digits.drop (digits.length - places)
    else '0' :: '.' :: (List.replicate (places - digits.length) '0' ++ digits)

/-- One digit, the others after a point, and the exponent with its sign. -/
def scientific (d : Decimal) : List Char :=
  let digits := Nat.toDigits 10 d.coefficient
  let leading := d.exponent + digits.length - 1
  let sign := if leading < 0 then '-' else '+'
  let mantissa := match digits with
    | [only] => [only]
    | first :: rest => first :: '.' :: rest
    | [] => []
  mantissa ++ 'e' :: sign :: Nat.toDigits 10 leading.natAbs

/-- The text of a positive decimal. -/
def Layout.write (layout : Layout) (d : Decimal) : List Char :=
  let leading := d.exponent + (Nat.toDigits 10 d.coefficient).length - 1
  if layout.plainFrom ≤ leading ∧ leading ≤ layout.plainTo then d.plain else d.scientific

/-- The text of a finite double. Zero keeps its sign. -/
def Layout.writeFloat (layout : Layout) (x : Float) : String :=
  let bits := x.toBits
  let sign := if bits >>> 63 = 1 then ['-'] else []
  let magnitude := bits &&& 0x7FFFFFFFFFFFFFFF
  String.ofList (sign ++
    if magnitude = 0 then ['0', '.', '0'] else layout.write (shortest magnitude))

end DiagramStudio.Decimal
