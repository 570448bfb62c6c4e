import DiagramStudio.Document.Numeral

/-!
# Tokens of a document

The text of a document is cut into brackets, commas, colons and leaves: words, numbers and
strings. A leaf that cannot be read is a leaf that holds its fault. Nothing is looked at after a
fault that stops reading.
-/

namespace DiagramStudio

/-- A token of a document's text. -/
inductive Token where
  | openList
  | closeList
  | openObject
  | closeObject
  | comma
  | colon
  /-- A word, a number, a string, or a fault. -/
  | leaf (doc : Doc)
deriving Repr

namespace Token

/-- The blanks that may stand between tokens. -/
def isSpace (c : Char) : Bool := c = ' ' || c = '\n' || c = '\t' || c = '\r'

/-! ## Strings -/

/-- The value of a hexadecimal digit. -/
def hexValue? (c : Char) : Option Nat :=
  if '0' ≤ c && c ≤ '9' then some (c.toNat - '0'.toNat)
  else if 'a' ≤ c && c ≤ 'f' then some (c.toNat - 'a'.toNat + 10)
  else if 'A' ≤ c && c ≤ 'F' then some (c.toNat - 'A'.toNat + 10)
  else none

/-- The code unit that four hexadecimal digits write. -/
def codeUnit? (a b c d : Char) : Option Nat := do
  let a ← hexValue? a
  let b ← hexValue? b
  let c ← hexValue? c
  let d ← hexValue? d
  return ((a * 16 + b) * 16 + c) * 16 + d

/-- What stands inside a string: a character, or an escaped code unit. -/
inductive Piece where
  | char (c : Char)
  | unit (code : Nat)
deriving Repr

/-- How the pieces of a string come to an end. -/
inductive Closing where
  | quote
  | textEnd
  | control
  /-- A backslash with a letter that is no escape. -/
  | letter
  /-- An escaped code unit with something other than four hexadecimal digits. -/
  | digits
deriving Repr, DecidableEq

/-- The fault that a closing is. -/
def Closing.fault? : Closing → Option TextFault
  | .quote => none
  | .textEnd => some .unterminated
  | .control => some .control
  | .letter => some .escape
  | .digits => some .escape

/-- The character of a one-letter escape. -/
def escaped? (c : Char) : Option Char :=
  if c = '"' || c = '\\' || c = '/' then some c
  else if c = 'b' then some '\x08'
  else if c = 'f' then some '\x0c'
  else if c = 'n' then some '\n'
  else if c = 'r' then some '\r'
  else if c = 't' then some '\t'
  else none

/-- How many bytes the characters of a text take. -/
def byteCount (cs : List Char) : Nat := cs.foldl (fun n c => n + c.utf8Size) 0

/-- The pieces of a string up to its closing quote, and the text after it. An escape of a code
unit takes four bytes of the text, so it is cut short only if fewer are left. -/
def pieces : List Char → List Piece × Closing × List Char
  | [] => ([], .textEnd, [])
  | '"' :: cs => ([], .quote, cs)
  | '\\' :: 'u' :: a :: b :: c :: d :: cs =>
    match codeUnit? a b c d with
    | some code =>
      let (rest, closing, cs) := pieces cs
      (.unit code :: rest, closing, cs)
    | none => ([], .digits, [])
  | '\\' :: 'u' :: cs => ([], if byteCount cs < 4 then .textEnd else .digits, [])
  | '\\' :: c :: cs =>
    match escaped? c with
    | some c =>
      let (rest, closing, cs) := pieces cs
      (.char c :: rest, closing, cs)
    | none => ([], .letter, [])
  | ['\\'] => ([], .textEnd, [])
  | c :: cs =>
    if c.toNat < 0x20 then ([], .control, [])
    else
      let (rest, closing, cs) := pieces cs
      (.char c :: rest, closing, cs)

/-- Whether a code unit is the first half of a surrogate pair. -/
def isHighSurrogate (code : Nat) : Bool := 0xD800 ≤ code && code ≤ 0xDBFF

/-- Whether a code unit is the second half of a surrogate pair. -/
def isLowSurrogate (code : Nat) : Bool := 0xDC00 ≤ code && code ≤ 0xDFFF

/-- The characters of the pieces. A surrogate pair is one character; half a pair is a fault. -/
def characters : List Piece → Closing → Except TextFault (List Char)
  | [], closing =>
    match closing.fault? with
    | none => .ok []
    | some fault => .error fault
  | .char c :: rest, closing => (characters rest closing).map (c :: ·)
  | [.unit code], closing =>
    if isLowSurrogate code then .error .loneSurrogate
    else if isHighSurrogate code then
      .error <| match closing with
        | .textEnd => .unterminated
        | .digits => .escape
        | _ => .unpairedSurrogate
    else (characters [] closing).map (Char.ofNat code :: ·)
  | .unit code :: .unit next :: rest, closing =>
    if isLowSurrogate code then .error .loneSurrogate
    else if isHighSurrogate code then
      if isLowSurrogate next then
        let point := 0x10000 + (code - 0xD800) * 0x400 + (next - 0xDC00)
        (characters rest closing).map (Char.ofNat point :: ·)
      else .error .loneSurrogate
    else (characters (.unit next :: rest) closing).map (Char.ofNat code :: ·)
  | .unit code :: .char c :: rest, closing =>
    if isLowSurrogate code then .error .loneSurrogate
    else if isHighSurrogate code then .error .unpairedSurrogate
    else (characters (.char c :: rest) closing).map (Char.ofNat code :: ·)

/-- The document of a string from behind its opening quote, and the text after it. -/
def text (cs : List Char) : Doc × List Char :=
  let (pieces, closing, rest) := pieces cs
  match characters pieces closing with
  | .ok cs => (.str (String.ofList cs), rest)
  | .error fault => (.fault (.text fault closing.fault?), rest)

/-! ## Words -/

/-- The document of a word whose first letter has been seen: `tail` has to follow. -/
def word (doc : Doc) : List Char → List Char → Doc × List Char
  | [], cs => (doc, cs)
  | _ :: _, [] => (.fault .wordCut, [])
  | t :: tail, c :: cs => if c = t then word doc tail cs else (.fault .word, [])

/-! ## Leaves -/

/-- The leaf that begins with the character `c`, and the text after it. -/
def leafAt (c : Char) (cs : List Char) : Doc × List Char :=
  if c = '"' then text cs
  else if c = 'n' then word .null ['u', 'l', 'l'] cs
  else if c = 't' then word (.bool true) ['r', 'u', 'e'] cs
  else if c = 'f' then word (.bool false) ['a', 'l', 's', 'e'] cs
  else if c = '-' || c.isDigit then Numeral.scan (c :: cs)
  else (.fault .unexpected, [])

/-- The token that begins with the character `c`, and the text after it. -/
def next (c : Char) (cs : List Char) : Token × List Char :=
  if c = '[' then (.openList, cs)
  else if c = ']' then (.closeList, cs)
  else if c = '\x7b' then (.openObject, cs)
  else if c = '\x7d' then (.closeObject, cs)
  else if c = ',' then (.comma, cs)
  else if c = ':' then (.colon, cs)
  else (.leaf (leafAt c cs).1, (leafAt c cs).2)

/-! ## Every token takes a part of the text -/

theorem pieces_length (cs : List Char) : (pieces cs).2.2.length ≤ cs.length := by
  fun_induction pieces cs <;> simp_all <;> omega

theorem text_length (cs : List Char) : (text cs).2.length ≤ cs.length := by
  have := pieces_length cs
  unfold text
  generalize pieces cs = p at this ⊢
  obtain ⟨ps, closing, rest⟩ := p
  simp only at this ⊢
  split <;> exact this

theorem word_length (doc : Doc) (tail cs : List Char) :
    (word doc tail cs).2.length ≤ cs.length := by
  fun_induction word doc tail cs <;> simp_all
  omega

theorem leafAt_length (c : Char) (cs : List Char) : (leafAt c cs).2.length ≤ cs.length := by
  unfold leafAt
  split
  · exact text_length cs
  split
  · exact word_length _ _ cs
  split
  · exact word_length _ _ cs
  split
  · exact word_length _ _ cs
  split
  · exact Numeral.scan_length c cs
  · simp

theorem next_length (c : Char) (cs : List Char) : (next c cs).2.length ≤ cs.length := by
  unfold next
  repeat' split
  all_goals first | exact Nat.le_refl _ | exact leafAt_length c cs

/-! ## The tokens of a text -/

/-- The tokens of a text, without the blanks between them. -/
def scan : List Char → List Token
  | [] => []
  | c :: cs =>
    if isSpace c then scan cs
    else (next c cs).1 :: scan (next c cs).2
termination_by cs => cs.length
decreasing_by
  · simp
  · have := next_length c cs
    simp only [List.length_cons]
    omega

end Token

end DiagramStudio
