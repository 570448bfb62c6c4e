import DiagramStudio.Text.Utf8

/-!
# Percent escapes

Bytes that may not stand in a part of an address are written as a percent sign and two hexadecimal
digits. Which bytes these are depends on the part; bytes beyond ASCII are always escaped. Reading
takes every escape back, and leaves a percent sign alone that begins none.
-/

namespace DiagramStudio.Web

/-- The ASCII bytes that are escaped in a part of an address. -/
abbrev EscapeSet := UInt8 → Bool

/-- Whether a byte is one of these ASCII characters. -/
def isAmong (characters : String) (b : UInt8) : Bool :=
  (Text.utf8 characters).contains b

namespace EscapeSet

/-- Control characters. -/
def controls : EscapeSet := fun b => b < 0x20 || b == 0x7F

/-- What is escaped in a fragment. -/
def fragment : EscapeSet := fun b => controls b || isAmong " \"<>`" b

/-- What is escaped in a query. -/
def query : EscapeSet := fun b => controls b || isAmong " \"#<>" b

/-- What is escaped in the query of an address of the web. -/
def specialQuery : EscapeSet := fun b => query b || isAmong "'" b

/-- What is escaped in a path. -/
def path : EscapeSet := fun b => fragment b || isAmong "#?^\x7b\x7d" b

/-- What is escaped in a single segment of a path. -/
def segment : EscapeSet := fun b => path b || isAmong "/%" b

/-- What is escaped in a single segment, where backslashes separate segments as well. -/
def specialSegment : EscapeSet := fun b => segment b || isAmong "\\" b

/-- What is escaped in a user name or a password. -/
def credentials : EscapeSet := fun b => path b || isAmong "/:;=@[\\]|" b

end EscapeSet

/-- A hexadecimal digit, with capital letters. -/
def hexDigit (n : Nat) : Char := Char.ofNat (if n < 10 then 0x30 + n else 0x37 + n)

/-- The value of a hexadecimal digit. -/
def hexValue? (b : UInt8) : Option UInt8 :=
  if 0x30 ≤ b ∧ b ≤ 0x39 then some (b - 0x30)
  else if 0x41 ≤ b ∧ b ≤ 0x46 then some (b - 0x37)
  else if 0x61 ≤ b ∧ b ≤ 0x66 then some (b - 0x57)
  else none

/-- A byte, escaped if it has to be. -/
def escapeByte (set : EscapeSet) (b : UInt8) : List Char :=
  if b < 0x80 && !set b then [Char.ofNat b.toNat]
  else ['%', hexDigit (b.toNat / 16), hexDigit (b.toNat % 16)]

/-- Characters, escaped where they have to be. -/
def escape (set : EscapeSet) (cs : List Char) : String :=
  String.ofList ((Text.utf8 (String.ofList cs)).flatMap (escapeByte set))

/-- The bytes without escapes. -/
def unescape : List UInt8 → List UInt8
  | 0x25 :: high :: low :: rest =>
    match hexValue? high, hexValue? low with
    | some h, some l => (h * 16 + l) :: unescape rest
    | _, _ => 0x25 :: unescape (high :: low :: rest)
  | b :: rest => b :: unescape rest
  | [] => []

end DiagramStudio.Web
