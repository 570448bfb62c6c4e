/-!
# Base64

Bytes written with sixty-four characters: three bytes become four characters, and equals signs
fill up the last four.
-/

namespace DiagramStudio.Text

/-- The characters for the values up to 63. -/
def base64Alphabet : List Char :=
  "ABCDEFGHIJKLMNOPQRSTUVWXYZabcdefghijklmnopqrstuvwxyz0123456789+/".toList

/-- The character for the lowest six bits of a number. -/
def base64Digit (n : Nat) : Char := base64Alphabet.getD (n % 64) '='

/-- The characters for a row of bytes. -/
def base64Chars : List UInt8 → List Char
  | a :: b :: c :: rest =>
    let n := a.toNat * 65536 + b.toNat * 256 + c.toNat
    base64Digit (n / 262144) :: base64Digit (n / 4096) :: base64Digit (n / 64) ::
      base64Digit n :: base64Chars rest
  | [a, b] =>
    let n := a.toNat * 65536 + b.toNat * 256
    [base64Digit (n / 262144), base64Digit (n / 4096), base64Digit (n / 64), '=']
  | [a] =>
    let n := a.toNat * 65536
    [base64Digit (n / 262144), base64Digit (n / 4096), '=', '=']
  | [] => []

/-- The base64 text of a row of bytes. -/
def base64 (bytes : List UInt8) : String := String.ofList (base64Chars bytes)

end DiagramStudio.Text
