import DiagramStudio.Web.Domain.Basic
import DiagramStudio.Web.Escape

/-!
# Hosts

The host of an address: a name, or a numeric address of one of two kinds. A name whose last label
is a number has to be a numeric address of four bytes; one in brackets is a numeric address of
eight pieces.
-/

namespace DiagramStudio.Web

/-- Why a text is no address. -/
inductive AddressError where
  | noScheme
  | emptyHost
  | invalidPort
  | invalidIpv4
  | invalidIpv6
  | invalidName
  | invalidCharacter
deriving Repr, DecidableEq

/-- The wording of an address error. -/
def AddressError.message : AddressError → String
  | noScheme => "relative URL without a base"
  | emptyHost => "empty host"
  | invalidPort => "invalid port number"
  | invalidIpv4 => "invalid IPv4 address"
  | invalidIpv6 => "invalid IPv6 address"
  | invalidName => "invalid international domain name"
  | invalidCharacter => "invalid domain character"

/-- The host of an address. -/
inductive Host where
  | name (text : String)
  | ipv4 (number : UInt32)
  /-- Eight pieces. -/
  | ipv6 (pieces : List UInt16)
deriving Repr, DecidableEq, Inhabited

/-! ## Numerals -/

/-- The value of a digit in a base up to sixteen. -/
def digit? (base : Nat) (c : Char) : Option Nat :=
  let n := c.toNat
  let value :=
    if 0x30 ≤ n ∧ n ≤ 0x39 then n - 0x30
    else if 0x41 ≤ n ∧ n ≤ 0x46 then n - 0x37
    else if 0x61 ≤ n ∧ n ≤ 0x66 then n - 0x57
    else base
  if value < base then some value else none

/-- The value of a row of digits. No digits are zero. -/
def numeral? (base : Nat) (cs : List Char) : Option Nat :=
  cs.foldlM (fun n c => (digit? base c).map (n * base + ·)) 0

/-! ## Four bytes -/

/-- A number of a numeric address: decimal, octal behind a zero, or hexadecimal. -/
def addressNumber? : List Char → Option Nat
  | [] => none
  | '0' :: 'x' :: digits => numeral? 16 digits
  | '0' :: 'X' :: digits => numeral? 16 digits
  | '0' :: d :: digits => numeral? 8 (d :: digits)
  | digits => numeral? 10 digits

/-- The labels of a name, without an empty one at its end. -/
def labels (name : List Char) : List (List Char) :=
  let all := name.splitOn '.'
  if all.getLast? = some [] then all.dropLast else all

/-- Whether the last label of a name looks like a number. -/
def endsInNumber (name : List Char) : Bool :=
  match (labels name).getLast? with
  | some label => (label ≠ [] && label.all Char.isDigit) || (addressNumber? label).isSome
  | none => false

/-- The number that is made of bytes and a last number, which fills the bytes that are missing. -/
def ipv4Number? (numbers : List Nat) : Option UInt32 :=
  match numbers.reverse with
  | [] => none
  | last :: others =>
    if others.length < 4 && others.all (· < 256) && last < Nat.pow 256 (4 - others.length) then
      some (others.reverse.foldl (fun n b => n * 256 + b) 0 * Nat.pow 256 (4 - others.length) +
        last).toUInt32
    else none

/-- The numeric address of four bytes that a name spells. -/
def ipv4? (name : List Char) : Option UInt32 :=
  ((labels name).mapM addressNumber?).bind ipv4Number?

/-! ## Eight pieces -/

/-- One piece: up to four hexadecimal digits. -/
def piece? (cs : List Char) : Option UInt16 :=
  if 1 ≤ cs.length ∧ cs.length ≤ 4 then (numeral? 16 cs).map Nat.toUInt16 else none

/-- A decimal byte without leading zeros. -/
def plainByte? (cs : List Char) : Option Nat :=
  if cs ≠ [] ∧ (cs.length = 1 ∨ cs.head? ≠ some '0') then
    (numeral? 10 cs).filter (· < 256)
  else none

/-- Four decimal bytes, as two pieces. -/
def dottedPieces? (cs : List Char) : Option (List UInt16) :=
  match (cs.splitOn '.').mapM plainByte? with
  | some [a, b, c, d] => some [(a * 256 + b).toUInt16, (c * 256 + d).toUInt16]
  | _ => none

/-- The pieces of groups between colons. Where four bytes may stand, they stand in the last
group. -/
def groupPieces? (dotted : Bool) : List (List Char) → Option (List UInt16)
  | [] => some []
  | [last] => (piece? last).map ([·]) <|> if dotted then dottedPieces? last else none
  | group :: rest => do
    let piece ← piece? group
    let pieces ← groupPieces? dotted rest
    return piece :: pieces

/-- The pieces at one side of a double colon, or of the whole. -/
def sidePieces? (dotted : Bool) (cs : List Char) : Option (List UInt16) :=
  if cs = [] then some [] else groupPieces? dotted (cs.splitOn ':')

/-- What stands before and behind the first double colon. -/
def aroundDoubleColon? : List Char → Option (List Char × List Char)
  | [] => none
  | ':' :: ':' :: rest => some ([], rest)
  | c :: rest => (aroundDoubleColon? rest).map fun sides => (c :: sides.1, sides.2)

/-- The eight pieces of a numeric address. A double colon stands for one or more zeros. -/
def ipv6? (cs : List Char) : Option (List UInt16) :=
  match aroundDoubleColon? cs with
  | none => (sidePieces? true cs).filter (·.length = 8)
  | some (before, behind) => do
    let front ← sidePieces? false before
    let back ← sidePieces? true behind
    if front.length + back.length < 8 then
      some (front ++ List.replicate (8 - front.length - back.length) 0 ++ back)
    else none

/-! ## Hosts -/

namespace Host

/-- Reads a name, or four bytes. -/
def readName (cs : List Char) : Except AddressError Host :=
  match (Text.ofUtf8? (unescape (Text.utf8 (String.ofList cs)))).bind (Domain.read? ·.toList) with
  | none => .error .invalidName
  | some [] => .error .emptyHost
  | some cs =>
    if endsInNumber cs then
      match ipv4? cs with
      | some number => .ok (.ipv4 number)
      | none => .error .invalidIpv4
    else .ok (.name (String.ofList cs))

/-- Reads a host in brackets, or hands on any other. -/
def readBracketed (other : List Char → Except AddressError Host) :
    List Char → Except AddressError Host
  | '[' :: rest =>
    if rest.getLast? = some ']' then
      match ipv6? rest.dropLast with
      | some pieces => .ok (.ipv6 pieces)
      | none => .error .invalidIpv6
    else .error .invalidIpv6
  | cs => other cs

/-- Reads the host of an address of the web. -/
def read (cs : List Char) : Except AddressError Host := readBracketed readName cs

/-- Reads the host of any other address: what is no numeric address is kept as it is. -/
def readOpaque (cs : List Char) : Except AddressError Host :=
  readBracketed (fun cs =>
    if cs.any isForbiddenInHost then .error .invalidCharacter
    else .ok (.name (escape .controls cs))) cs

end Host

end DiagramStudio.Web
