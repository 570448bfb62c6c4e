import DiagramStudio.Document.Basic

/-!
# Numerals

Reading the decimal text of a number. A numeral without fraction and exponent is a whole number if
it fits into 64 bits, unsigned or, below zero, signed; every other numeral is a double.

The digits of a double are gathered into an unsigned 64-bit coefficient as long as they fit, the
digits after that only count as tens, and the coefficient, rounded to a double, is multiplied or
divided by the power of ten.
-/

namespace DiagramStudio

/-- The parts of a numeral. -/
structure Numeral where
  negative : Bool
  whole : List Char
  fraction : Option (List Char)
  /-- The digits of the exponent, and whether it is negative. -/
  exponent : Option (Bool × List Char)
deriving Repr

namespace Numeral

/-- The value of a digit. -/
def digit (c : Char) : Nat := c.toNat - '0'.toNat

/-- Appends digits to a coefficient while it stays below `2 ^ 64`; with the count of the digits
that were appended. -/
def gather (coefficient : Nat) : List Char → Nat × Nat
  | [] => (coefficient, 0)
  | c :: cs =>
    let next := coefficient * 10 + digit c
    if next < UInt64.size then
      let (result, count) := gather next cs
      (result, count + 1)
    else (coefficient, 0)

/-- The value of a row of digits. -/
def natural (cs : List Char) : Nat := cs.foldl (fun n c => n * 10 + digit c) 0

/-- A power of ten as a double. -/
def powerOfTen (n : Nat) : Float := Float.ofScientific 1 false n

/-- Multiplies a double by a power of ten, unless the result is beyond every double. -/
def scale (x : Float) (exponent : Int) : Option Float :=
  if exponent < -308 then
    if x == 0 then some x else scale (x / powerOfTen 308) (exponent + 308)
  else if exponent < 0 then some (x / powerOfTen exponent.natAbs)
  else if exponent ≤ 308 then
    let y := x * powerOfTen exponent.natAbs
    if y.isInf then none else some y
  else if x == 0 then some x
  else none
termination_by (-exponent).toNat
decreasing_by omega

/-- The double of a coefficient and an exponent, with its sign. -/
def double (negative : Bool) (coefficient : Nat) (exponent : Int) : Option Number :=
  (scale coefficient.toUInt64.toFloat exponent).map fun x =>
    .double (if negative then -x else x)

/-- The number of a numeral, unless it is beyond the range of a double. An exponent that does not
fit into 31 bits makes the number zero or takes it out of range. -/
def number? (n : Numeral) : Option Number :=
  let (coefficient, used) := gather 0 n.whole
  match n.fraction, n.exponent with
  | none, none =>
    if used < n.whole.length then double n.negative coefficient (n.whole.length - used : Nat)
    else if !n.negative then some (.int coefficient)
    else if 0 < coefficient && coefficient ≤ 0x8000000000000000 then some (.int (-coefficient))
    else double true coefficient 0
  | fraction, exponent =>
    let (coefficient, places) := gather coefficient (fraction.getD [])
    let shift : Int := (n.whole.length - used : Nat) - (places : Int)
    match exponent with
    | none => double n.negative coefficient shift
    | some (negative, digits) =>
      let amount := natural digits
      if amount < 0x80000000 then
        double n.negative coefficient (if negative then shift - amount else shift + amount)
      else if coefficient ≠ 0 && !negative then none
      else some (.double (if n.negative then -0.0 else 0.0))

/-- The document of a numeral. -/
def doc (n : Numeral) : Doc :=
  match n.number? with
  | some x => .num x
  | none => .fault .numeralRange

/-- A row of digits that must not be empty, at the front of a text. -/
def digits (cs : List Char) : Except Fault (List Char × List Char) :=
  match cs with
  | [] => .error .numeralCut
  | c :: _ =>
    if c.isDigit then .ok (cs.takeWhile Char.isDigit, cs.dropWhile Char.isDigit)
    else .error .numeral

/-- The digits before the point. Only a lone zero begins with zero. -/
def wholeDigits (cs : List Char) : Except Fault (List Char × List Char) := do
  let (whole, rest) ← digits cs
  if whole.head? = some '0' && 1 < whole.length then throw .numeral
  return (whole, rest)

/-- The digits after the point, if a point follows. -/
def fractionDigits : List Char → Except Fault (Option (List Char) × List Char)
  | '.' :: cs => (digits cs).map fun (places, rest) => (some places, rest)
  | cs => .ok (none, cs)

/-- The sign of an exponent. -/
def exponentSign : List Char → Bool × List Char
  | '-' :: cs => (true, cs)
  | '+' :: cs => (false, cs)
  | cs => (false, cs)

/-- The exponent, if one follows. -/
def exponentDigits (cs : List Char) : Except Fault (Option (Bool × List Char) × List Char) :=
  match cs with
  | c :: tail =>
    if c = 'e' || c = 'E' then
      let (negative, tail) := exponentSign tail
      (digits tail).map fun (amount, rest) => (some (negative, amount), rest)
    else .ok (none, cs)
  | [] => .ok (none, [])

/-- The numeral at the front of a text, after its sign. -/
def scanUnsigned (negative : Bool) (cs : List Char) : Except Fault (Numeral × List Char) := do
  let (whole, cs) ← wholeDigits cs
  let (fraction, cs) ← fractionDigits cs
  let (exponent, cs) ← exponentDigits cs
  return (⟨negative, whole, fraction, exponent⟩, cs)

/-- The document of the numeral at the front of a text, and the text after it. Nothing follows a
numeral that cannot be read. -/
def scan (cs : List Char) : Doc × List Char :=
  let (negative, unsigned) := match cs with
    | '-' :: tail => (true, tail)
    | _ => (false, cs)
  match scanUnsigned negative unsigned with
  | .ok (numeral, rest) => (numeral.doc, rest)
  | .error fault => (.fault fault, [])

/-! ## A numeral takes a part of the text -/

theorem dropWhile_length (p : Char → Bool) (cs : List Char) :
    (cs.dropWhile p).length ≤ cs.length := by
  induction cs with
  | nil => simp
  | cons c cs ih => rw [List.dropWhile_cons]; split <;> simp; omega

theorem digits_length {cs row rest : List Char} (h : digits cs = .ok (row, rest)) :
    rest.length < cs.length := by
  unfold digits at h
  split at h
  · simp at h
  · next c tail =>
    split at h
    · next hc =>
      simp only [Except.ok.injEq, Prod.mk.injEq] at h
      rw [← h.2, List.dropWhile_cons, if_pos hc]
      have := dropWhile_length Char.isDigit tail
      simp only [List.length_cons]
      omega
    · simp at h

theorem wholeDigits_length {cs row rest : List Char} (h : wholeDigits cs = .ok (row, rest)) :
    rest.length < cs.length := by
  unfold wholeDigits at h
  cases hd : digits cs with
  | error e => rw [hd] at h; simp [bind, Except.bind] at h
  | ok p =>
    obtain ⟨whole, tail⟩ := p
    rw [hd] at h
    simp only [bind, Except.bind] at h
    split at h
    · simp [throw, throwThe, MonadExceptOf.throw] at h
    · simp only [pure, Except.pure, Except.ok.injEq, Prod.mk.injEq] at h
      rw [← h.2]
      exact digits_length hd

theorem fractionDigits_length {cs rest : List Char} {places : Option (List Char)}
    (h : fractionDigits cs = .ok (places, rest)) : rest.length ≤ cs.length := by
  unfold fractionDigits at h
  split at h
  · next tail =>
    cases hd : digits tail with
    | error e => rw [hd] at h; simp [Except.map] at h
    | ok p =>
      obtain ⟨row, after⟩ := p
      rw [hd] at h
      simp only [Except.map, Except.ok.injEq, Prod.mk.injEq] at h
      have := digits_length hd
      rw [← h.2]
      simp only [List.length_cons]
      omega
  · simp only [Except.ok.injEq, Prod.mk.injEq] at h
    exact Nat.le_of_eq (congrArg List.length h.2.symm)

theorem exponentSign_length (cs : List Char) : (exponentSign cs).2.length ≤ cs.length := by
  unfold exponentSign
  split <;> simp

theorem exponentDigits_length {cs rest : List Char} {amount : Option (Bool × List Char)}
    (h : exponentDigits cs = .ok (amount, rest)) : rest.length ≤ cs.length := by
  unfold exponentDigits at h
  split at h
  · next c tail =>
    split at h
    · cases hd : digits (exponentSign tail).2 with
      | error e => simp [hd, Except.map] at h
      | ok p =>
        obtain ⟨row, after⟩ := p
        simp only [hd, Except.map, Except.ok.injEq, Prod.mk.injEq] at h
        have h1 := digits_length hd
        have h2 := exponentSign_length tail
        rw [← h.2]
        simp only [List.length_cons]
        omega
    · simp only [Except.ok.injEq, Prod.mk.injEq] at h
      exact Nat.le_of_eq (congrArg List.length h.2.symm)
  · simp only [Except.ok.injEq, Prod.mk.injEq] at h
    exact Nat.le_of_eq (congrArg List.length h.2.symm)

theorem scanUnsigned_length {negative : Bool} {cs rest : List Char} {n : Numeral}
    (h : scanUnsigned negative cs = .ok (n, rest)) : rest.length < cs.length := by
  unfold scanUnsigned at h
  cases hw : wholeDigits cs with
  | error e => simp [hw, bind, Except.bind] at h
  | ok w =>
    obtain ⟨whole, cs₁⟩ := w
    cases hf : fractionDigits cs₁ with
    | error e => simp [hw, hf, bind, Except.bind] at h
    | ok f =>
      obtain ⟨fraction, cs₂⟩ := f
      cases he : exponentDigits cs₂ with
      | error e => simp [hw, hf, he, bind, Except.bind] at h
      | ok e =>
        obtain ⟨exponent, cs₃⟩ := e
        simp only [hw, hf, he, bind, Except.bind, pure, Except.pure, Except.ok.injEq,
          Prod.mk.injEq] at h
        have h1 := wholeDigits_length hw
        have h2 := fractionDigits_length hf
        have h3 := exponentDigits_length he
        rw [← h.2]
        omega

/-- A numeral has at least one digit besides its sign. -/
theorem scan_length (c : Char) (cs : List Char) : (scan (c :: cs)).2.length ≤ cs.length := by
  unfold scan
  by_cases hc : c = '-'
  · subst hc
    simp only
    cases h : scanUnsigned true cs with
    | error e => simp
    | ok p =>
      obtain ⟨n, rest⟩ := p
      have := scanUnsigned_length h
      simp only
      omega
  · have hm : (match c :: cs with
        | '-' :: tail => (true, tail)
        | _ => (false, c :: cs)) = (false, c :: cs) := by
      split
      · next heq => exact absurd (List.cons.inj heq).1 hc
      · rfl
    simp only [hm]
    cases h : scanUnsigned false (c :: cs) with
    | error e => simp
    | ok p =>
      obtain ⟨n, rest⟩ := p
      have := scanUnsigned_length h
      simp only [List.length_cons] at this
      simp only
      omega

end Numeral

end DiagramStudio
