/-!
# UTF-8

The bytes of a text, and two ways back: an exact one, and a lossy one that puts `U+FFFD` for what
is no text.

The lossy decoder looks at one byte after the other. It remembers the character that it is inside
of, so a character that is cut off counts as one replacement and the byte that cut it off is looked
at anew.
-/

namespace DiagramStudio.Text

/-- The bytes of a text. -/
def utf8 (text : String) : List UInt8 := text.toList.flatMap String.utf8EncodeChar

/-- The text of a row of bytes, if it is one. -/
def ofUtf8? (bytes : List UInt8) : Option String := String.fromUTF8? ⟨bytes.toArray⟩

/-- The character that stands for bytes that are no text. -/
def replacement : Char := '\ufffd'

/-- A character of which some bytes are still to come. -/
structure Pending where
  /-- How many bytes are missing. -/
  missing : Nat
  /-- The bits so far. -/
  bits : Nat
  /-- The range in which the next byte has to lie. -/
  low : UInt8
  high : UInt8
deriving Repr, DecidableEq

/-- What the first byte of a longer character promises. The range of the second byte keeps out
surrogates, overlong forms, and what lies beyond the last code point. -/
def Pending.ofLead? (b : UInt8) : Option Pending :=
  let n := b.toNat
  if 0xC2 ≤ n ∧ n ≤ 0xDF then some ⟨1, n - 0xC0, 0x80, 0xBF⟩
  else if n = 0xE0 then some ⟨2, 0, 0xA0, 0xBF⟩
  else if n = 0xED then some ⟨2, n - 0xE0, 0x80, 0x9F⟩
  else if 0xE1 ≤ n ∧ n ≤ 0xEF then some ⟨2, n - 0xE0, 0x80, 0xBF⟩
  else if n = 0xF0 then some ⟨3, 0, 0x90, 0xBF⟩
  else if n = 0xF4 then some ⟨3, n - 0xF0, 0x80, 0x8F⟩
  else if 0xF1 ≤ n ∧ n ≤ 0xF3 then some ⟨3, n - 0xF0, 0x80, 0xBF⟩
  else none

/-- The text that begins with a byte between two characters. The continuation decodes the bytes
that follow. -/
def lossyLead (b : UInt8) (follow : Option Pending → List Char) : List Char :=
  if b.toNat < 0x80 then Char.ofNat b.toNat :: follow none
  else
    match Pending.ofLead? b with
    | some pending => follow (some pending)
    | none => replacement :: follow none

/-- The characters of a row of bytes, of which the first ones continue the pending character. -/
def lossyChars : Option Pending → List UInt8 → List Char
  | none, [] => []
  | some _, [] => [replacement]
  | none, b :: rest => lossyLead b fun state => lossyChars state rest
  | some pending, b :: rest =>
    if pending.low ≤ b ∧ b ≤ pending.high then
      let bits := pending.bits * 64 + b.toNat % 64
      if pending.missing ≤ 1 then Char.ofNat bits :: lossyChars none rest
      else lossyChars (some ⟨pending.missing - 1, bits, 0x80, 0xBF⟩) rest
    else replacement :: lossyLead b fun state => lossyChars state rest

/-- The text of a row of bytes, with a replacement for everything that is no text. -/
def lossyUtf8 (bytes : List UInt8) : String := String.ofList (lossyChars none bytes)

end DiagramStudio.Text
