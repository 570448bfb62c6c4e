import DiagramStudio.Web.Host

/-!
# Addresses

An address is a scheme, an authority, a path, a query and a fragment. The path of most addresses
is a list of segments, and a segment can be added to it; the path of the others, such as
`mailto:x`, is a plain text.

The schemes of the web always have a host and a path, and take backslashes for slashes. Segments
of one or two dots are resolved while a path is read.

* `push_text`: nothing can be added to a path that is a plain text.
-/

namespace DiagramStudio.Web

/-! ## Schemes -/

/-- How the rest of an address is read. -/
inductive SchemeKind where
  /-- A scheme of the web, which needs a host. -/
  | web
  | file
  | other
deriving Repr, DecidableEq

namespace SchemeKind

/-- The kind of a scheme. -/
def ofScheme (scheme : String) : SchemeKind :=
  if ["http", "https", "ws", "wss", "ftp"].contains scheme then web
  else if scheme = "file" then file
  else other

/-- Whether a backslash separates segments, too. -/
def isSpecial (kind : SchemeKind) : Bool := kind ≠ other

/-- Whether a character separates segments. -/
def isSlash (kind : SchemeKind) (c : Char) : Bool := c = '/' || (kind.isSpecial && c = '\\')

end SchemeKind

/-- The port that is meant when none is named. -/
def defaultPort? (scheme : String) : Option UInt16 :=
  Option.map (·.2) ([("http", (80 : UInt16)), ("ws", 80), ("https", 443), ("wss", 443),
    ("ftp", 21)].find? (·.1 = scheme))

/-! ## Addresses -/

/-- What stands between the scheme and the path. The host of a file may be an empty name. -/
structure Authority where
  user : String := ""
  password : String := ""
  host : Host
  /-- The port, unless it is the usual one of the scheme. -/
  port : Option UInt16 := none
deriving Repr, DecidableEq

/-- The path of an address. -/
inductive Path where
  | text (text : String)
  | segments (segments : List String)
deriving Repr, DecidableEq, Inhabited

/-- An address. -/
structure Address where
  scheme : String
  authority : Option Authority := none
  path : Path
  query : Option String := none
  fragment : Option String := none
deriving Repr, DecidableEq

/-- A path, written: a slash stands before every segment. -/
def Path.written : Path → String
  | .text whole => whole
  | .segments parts => String.join (parts.map ("/" ++ ·))

/-- A part behind a mark, if there is one. -/
def marked (mark : String) : Option String → String
  | some text => mark ++ text
  | none => ""

namespace Address

/-- What is asked for at the host: the path and the query. -/
def target (address : Address) : String := address.path.written ++ marked "?" address.query

end Address

/-! ## Paths -/

namespace Path

/-- The forms of a segment of one dot. -/
def oneDot : List String := [".", "%2e"]

/-- The forms of a segment of two dots. -/
def twoDots : List String := ["..", ".%2e", "%2e.", "%2e%2e"]

/-- A segment with its ASCII letters in lower case. -/
def lowered (segment : String) : String := String.ofList (segment.toList.map Char.toLower)

/-- Puts a written segment behind others. One dot adds nothing and two dots take a segment away;
if such a segment is the last one, the path ends in a slash. -/
def place (segments : List String) (segment : String) (last : Bool) : List String :=
  let slash := if last then [""] else []
  if twoDots.contains (lowered segment) then segments.dropLast ++ slash
  else if oneDot.contains (lowered segment) then segments ++ slash
  else segments ++ [segment]

/-- Puts segments behind others. -/
def placeAll (segments : List String) : List (List Char) → List String
  | [] => segments
  | segment :: rest =>
    placeAll (place segments (escape .path segment) rest.isEmpty) rest

/-- Reads the segments of a path behind its first slash. -/
def readSegments (kind : SchemeKind) (cs : List Char) : List String :=
  placeAll [] (cs.splitOnP kind.isSlash)

/-- Reads a path. It may be empty only outside the web. -/
def read (kind : SchemeKind) : List Char → Path
  | [] => .segments (if kind.isSpecial then [""] else [])
  | c :: rest => .segments (readSegments kind (if kind.isSlash c then rest else c :: rest))

end Path

/-! ## Authorities -/

namespace Authority

/-- Whether a character ends an authority. -/
def isEnd (kind : SchemeKind) (c : Char) : Bool := kind.isSlash c || c = '?' || c = '#'

/-- What stands before and behind the last sign that separates the login from the host. -/
def splitLogin (cs : List Char) : Option (List Char) × List Char :=
  if cs.contains '@' then
    let host := (cs.reverse.takeWhile (· ≠ '@')).reverse
    (some (cs.take (cs.length - host.length - 1)), host)
  else (none, cs)

/-- The host and what follows it. A colon in brackets belongs to the host. -/
def splitHost (inside : Bool) : List Char → List Char × List Char
  | [] => ([], [])
  | c :: rest =>
    if c = ':' && !inside then ([], c :: rest)
    else
      let (host, more) := splitHost (c = '[' || (inside && c ≠ ']')) rest
      (c :: host, more)

/-- Reads a port. The usual one of the scheme is not named. -/
def readPort (scheme : String) (cs : List Char) : Except AddressError (Option UInt16) :=
  match numeral? 10 cs with
  | none => .error .invalidPort
  | some n =>
    if cs = [] then .ok none
    else if n < UInt16.size then
      .ok (if defaultPort? scheme = some n.toUInt16 then none else some n.toUInt16)
    else .error .invalidPort

/-- Reads the host of an address. -/
def readHost (kind : SchemeKind) (cs : List Char) : Except AddressError Host :=
  match kind with
  | .other => Host.readOpaque cs
  | _ => if cs = [] then .error .emptyHost else Host.read cs

/-- Reads an authority; `more` follows it in the address. What is left over comes back. -/
def read (scheme : String) (kind : SchemeKind) (cs more : List Char) :
    Except AddressError (Authority × List Char) := do
  let (login, place) := splitLogin cs
  if login = some [] && place = [] && more ≠ [] then throw .emptyHost
  let login := login.getD []
  let user := escape .credentials (login.takeWhile (· ≠ ':'))
  let password := escape .credentials ((login.dropWhile (· ≠ ':')).drop 1)
  let (hostText, behind) := splitHost false place
  let host ← readHost kind hostText
  if hostText = [] && (behind ≠ [] || user ≠ "" || password ≠ "") then throw .emptyHost
  let (digits, rest) := (behind.drop 1).span (· ≠ '\\')
  let port ← readPort scheme digits
  return ({ user, password, host, port }, rest ++ more)

/-- Whether a text is a letter with a colon or a bar, which names a drive. -/
def isDrive : List Char → Bool
  | [letter, mark] => letter.isAlpha && (mark = ':' || mark = '|')
  | _ => false

/-- The authority of a file on this machine. -/
def here : Authority := { host := .name "" }

/-- Reads the host of a file. This machine needs no name, and a drive belongs to the path. -/
def readFileHost (cs more : List Char) : Except AddressError (Authority × List Char) :=
  if isDrive cs then .ok (here, '/' :: cs ++ more)
  else if cs = [] then .ok (here, more)
  else
    (Host.read cs).map fun host =>
      (if host = .name "localhost" then here else { host }, more)

end Authority

/-! ## Reading -/

namespace Address

/-- Whether a character can follow in a scheme. -/
def isSchemeChar (c : Char) : Bool := c.isAlphanum || c = '+' || c = '-' || c = '.'

/-- The scheme of an address and what follows its colon. -/
def splitScheme? (cs : List Char) : Option (String × List Char) :=
  match cs.span isSchemeChar with
  | (first :: others, ':' :: rest) =>
    if first.isAlpha then some (String.ofList ((first :: others).map Char.toLower), rest) else none
  | _ => none

/-- The characters that count: without control characters and spaces at the ends, and without
line breaks and tabulators. -/
def significant (cs : List Char) : List Char :=
  let isOuter (c : Char) : Bool := c.toNat ≤ 0x20
  (((cs.dropWhile isOuter).reverse.dropWhile isOuter).reverse).filter
    fun c => c ≠ '\t' && c ≠ '\n' && c ≠ '\r'

/-- Reads a path and what follows it. -/
def readTail (scheme : String) (kind : SchemeKind) (authority : Option Authority)
    (readPath : List Char → Path) (cs : List Char) : Address :=
  let (beforeFragment, fragment) := cs.span (· ≠ '#')
  let (path, query) := beforeFragment.span (· ≠ '?')
  let querySet : EscapeSet := if kind.isSpecial then .specialQuery else .query
  { scheme
    authority
    path := readPath path
    query := if query = [] then none else some (escape querySet (query.drop 1))
    fragment := if fragment = [] then none else some (escape .fragment (fragment.drop 1)) }

/-- Reads an address with an authority, from behind the slashes before it. -/
def readAfterSlashes (scheme : String) (kind : SchemeKind) (cs : List Char) :
    Except AddressError Address := do
  let (authority, rest) := cs.span (!Authority.isEnd kind ·)
  let (authority, rest) ← Authority.read scheme kind authority rest
  return readTail scheme kind (some authority) (Path.read kind) rest

/-- Reads the address of a file. -/
def readFile (scheme : String) (cs : List Char) : Except AddressError Address :=
  match cs with
  | a :: b :: rest =>
    if SchemeKind.file.isSlash a && SchemeKind.file.isSlash b then do
      let (host, more) := rest.span (!Authority.isEnd .file ·)
      let (authority, more) ← Authority.readFileHost host more
      return readTail scheme .file (some authority) (Path.read .file) more
    else .ok (readTail scheme .file (some Authority.here) (Path.read .file) cs)
  | _ => .ok (readTail scheme .file (some Authority.here) (Path.read .file) cs)

/-- Reads an address of which nothing else is known. -/
def readOther (scheme : String) (cs : List Char) : Except AddressError Address :=
  match cs with
  | '/' :: '/' :: rest => readAfterSlashes scheme .other rest
  | '/' :: _ => .ok (readTail scheme .other none (Path.read .other) cs)
  | _ => .ok (readTail scheme .other none (fun cs => .text (escape .controls cs)) cs)

/-- The address that a text shows. -/
def ofText (text : String) : Except AddressError Address :=
  match splitScheme? (significant text.toList) with
  | none => .error .noScheme
  | some (scheme, rest) =>
    match SchemeKind.ofScheme scheme with
    | .web => readAfterSlashes scheme .web (rest.dropWhile SchemeKind.web.isSlash)
    | .file => readFile scheme rest
    | .other => readOther scheme rest

/-! ## Adding segments -/

/-- The characters of a segment that count. -/
def segmentChars (segment : String) : List Char :=
  segment.toList.filter fun c => c ≠ '\t' && c ≠ '\n' && c ≠ '\r'

/-- Adds a segment to the path, in place of an empty one that stands alone. A segment of one or
two dots is passed over. -/
def push (address : Address) (segment : String) : Option Address :=
  match address.path with
  | .text _ => none
  | .segments segments =>
    if segment = "." ∨ segment = ".." then some address
    else
      let kind := SchemeKind.ofScheme address.scheme
      let set : EscapeSet := if kind.isSpecial then .specialSegment else .segment
      let before := if segments = [""] then [] else segments
      some { address with
        path := .segments (Path.place before (escape set (segmentChars segment)) true) }

theorem push_text (address : Address) (segment text : String) (h : address.path = .text text) :
    address.push segment = none := by
  simp [push, h]

end Address

end DiagramStudio.Web
