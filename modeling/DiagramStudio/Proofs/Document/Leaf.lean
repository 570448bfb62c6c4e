import DiagramStudio.Proofs.Document.Canonical
import DiagramStudio.Proofs.Document.Grammar
import Mathlib.Data.List.TakeWhile

/-!
# Leaves of a document

Words, numerals and strings are read from the front of a text. What is read follows the grammar, and
the rest of the text matters for it only by its first character, which tells that a numeral has come
to its end.

Results:
* `Numeral.scan_spec`, `Token.text_spec`, `Token.word_spec`: the three kinds of leaves.
* `Token.leafAt_spec`: a leaf with which reading goes on follows the grammar and ends where it ends.
-/

namespace DiagramStudio

open Grammar

/-- Whether a document is no list and no object. -/
def Doc.isLeaf : Doc → Bool
  | .list .. => false
  | .object .. => false
  | _ => true

/-- Texts that go on with the same character behind a part begin with the same one. -/
theorem head?_append_congr {other rest : List Char} (part : List Char)
    (h : other.head? = rest.head?) : (part ++ other).head? = (part ++ rest).head? := by
  rw [List.head?_append, List.head?_append, h]

namespace Numeral

variable {cs rest row part : List Char}

/-! ## Parts of numerals -/

/-- A part of a numeral that was read before `rest`: it is read from every text that goes on with
the same character. -/
def Parted {α : Type} (read : List Char → Except Fault (α × List Char)) (part : List Char)
    (value : α) (rest : List Char) : Prop :=
  ∀ other, other.head? = rest.head? → read (part ++ other) = .ok (value, other)

theorem digits_eq_ok (h : digits cs = .ok (row, rest)) :
    Digits row ∧ cs = row ++ rest ∧ Parted digits row row rest := by
  cases cs with
  | nil => cases h
  | cons c tail =>
    rw [digits] at h
    split at h
    · next hc =>
      cases h
      have hrow : ∀ d ∈ (c :: tail).takeWhile Char.isDigit, d.isDigit = true :=
        fun d hd => List.mem_takeWhile_imp hd
      have hend := List.head?_dropWhile_not Char.isDigit (c :: tail)
      refine ⟨⟨?_, hrow⟩, List.takeWhile_append_dropWhile.symm, fun other hother => ?_⟩
      · rw [List.takeWhile_cons_of_pos hc]
        exact List.cons_ne_nil _ _
      · rw [← hother] at hend
        have hstop : other.takeWhile Char.isDigit = [] ∧ other.dropWhile Char.isDigit = other := by
          cases other with
          | nil => exact ⟨rfl, rfl⟩
          | cons d other =>
            have hd : ¬ d.isDigit = true := Bool.eq_false_iff.mp hend
            exact ⟨List.takeWhile_cons_of_neg hd, List.dropWhile_cons_of_neg hd⟩
        rw [List.takeWhile_cons_of_pos hc] at hrow ⊢
        rw [List.cons_append, digits, if_pos hc, ← List.cons_append,
          List.takeWhile_append_of_pos hrow, List.dropWhile_append_of_pos hrow, hstop.1, hstop.2,
          List.append_nil]
    · cases h

theorem wholeDigits_eq_ok (h : wholeDigits cs = .ok (row, rest)) :
    Whole row ∧ cs = row ++ rest ∧ Parted wholeDigits row row rest := by
  rw [wholeDigits, Read.bind_eq_ok] at h
  obtain ⟨⟨whole, tail⟩, hdigits, h⟩ := h
  obtain ⟨hrow, hcs, hagain⟩ := digits_eq_ok hdigits
  by_cases hlone : (whole.head? = some '0' && 1 < whole.length) = true
  · simp only [if_pos hlone] at h
    cases h
  · simp only [if_neg hlone] at h
    cases h
    refine ⟨⟨hrow, fun hzero => ?_⟩, hcs, fun other hother => ?_⟩
    · cases row with
      | nil => cases hzero
      | cons c more =>
        cases hzero
        cases more with
        | nil => rfl
        | cons d more => simp at hlone
    · rw [wholeDigits, hagain other hother]
      exact if_neg hlone

theorem fractionDigits_eq_ok {places : Option (List Char)}
    (h : fractionDigits cs = .ok (places, rest)) :
    ∃ part, Fraction part ∧ cs = part ++ rest ∧ Parted fractionDigits part places rest := by
  unfold fractionDigits at h
  split at h
  · next tail =>
    obtain ⟨⟨row, after⟩, hdigits, hplaces⟩ := Read.map_eq_ok.mp h
    cases hplaces
    obtain ⟨hrow, rfl, hagain⟩ := digits_eq_ok hdigits
    refine ⟨'.' :: row, .inr ⟨row, hrow, rfl⟩, rfl, fun other hother => ?_⟩
    rw [List.cons_append, fractionDigits, hagain other hother]
    rfl
  · next hpoint =>
    cases h
    refine ⟨[], .inl rfl, rfl, fun other hother => ?_⟩
    rw [List.nil_append]
    unfold fractionDigits
    split
    · next tail =>
      cases cs with
      | nil => cases hother
      | cons c tail =>
        cases hother
        exact absurd rfl (hpoint tail)
    · rfl

theorem exponentSign_spec (cs : List Char) :
    ∃ sign, (sign = [] ∨ sign = ['-'] ∨ sign = ['+']) ∧ cs = sign ++ (exponentSign cs).2 ∧
      ∀ other, other.head? = (exponentSign cs).2.head? →
        exponentSign (sign ++ other) = ((exponentSign cs).1, other) := by
  unfold exponentSign
  split
  · next tail => exact ⟨['-'], .inr (.inl rfl), rfl, fun other _ => rfl⟩
  · next tail => exact ⟨['+'], .inr (.inr rfl), rfl, fun other _ => rfl⟩
  · next hminus hplus =>
    refine ⟨[], .inl rfl, rfl, fun other hother => ?_⟩
    split
    · next heq =>
      have hhead : cs.head? = some '-' := hother.symm.trans (congrArg List.head? heq)
      obtain ⟨after, rfl⟩ := List.head?_eq_some_iff.mp hhead
      exact absurd rfl (hminus after)
    · next heq =>
      have hhead : cs.head? = some '+' := hother.symm.trans (congrArg List.head? heq)
      obtain ⟨after, rfl⟩ := List.head?_eq_some_iff.mp hhead
      exact absurd rfl (hplus after)
    · rfl

theorem exponentDigits_eq_ok {amount : Option (Bool × List Char)}
    (h : exponentDigits cs = .ok (amount, rest)) :
    ∃ part, Exponent part ∧ cs = part ++ rest ∧ Parted exponentDigits part amount rest := by
  cases cs with
  | nil =>
    cases h
    refine ⟨[], .inl rfl, rfl, fun other hother => ?_⟩
    rw [List.head?_eq_none_iff.mp hother]
    rfl
  | cons c tail =>
    rw [exponentDigits] at h
    by_cases hletter : (c = 'e' || c = 'E') = true
    · rw [if_pos hletter] at h
      obtain ⟨⟨negative, unsigned⟩, hsigned⟩ : ∃ signed, exponentSign tail = signed := ⟨_, rfl⟩
      obtain ⟨sign, hsign, htail, hagain⟩ := exponentSign_spec tail
      rw [hsigned] at h htail hagain
      obtain ⟨⟨row, after⟩, hdigits, hamount⟩ := Read.map_eq_ok.mp h
      cases hamount
      obtain ⟨hrow, rfl, hparted⟩ := digits_eq_ok hdigits
      have hcase : c = 'e' ∨ c = 'E' := by simpa using hletter
      refine ⟨c :: (sign ++ row), .inr ⟨c, sign, row, hcase, hsign, hrow, rfl⟩, ?_,
        fun other hother => ?_⟩
      · rw [htail, List.cons_append, List.append_assoc]
      · rw [List.cons_append, exponentDigits, if_pos hletter, List.append_assoc,
          hagain _ (head?_append_congr row hother)]
        simp only [hparted other hother]
        rfl
    · rw [if_neg hletter] at h
      cases h
      refine ⟨[], .inl rfl, rfl, fun other hother => ?_⟩
      obtain ⟨after, rfl⟩ := List.head?_eq_some_iff.mp hother
      rw [List.nil_append, exponentDigits, if_neg hletter]

/-! ## Whole numerals -/

theorem scanUnsigned_eq_ok {negative : Bool} {numeral : Numeral}
    (h : scanUnsigned negative cs = .ok (numeral, rest)) :
    ∃ part, Unsigned part ∧ cs = part ++ rest ∧
      Parted (scanUnsigned negative) part numeral rest := by
  simp only [scanUnsigned, Read.bind_eq_ok] at h
  obtain ⟨⟨whole, afterWhole⟩, hwhole, ⟨fraction, afterFraction⟩, hfraction,
    ⟨exponent, afterExponent⟩, hexponent, h⟩ := h
  cases h
  obtain ⟨hrow, rfl, hagain⟩ := wholeDigits_eq_ok hwhole
  obtain ⟨places, hplaces, rfl, hplacesAgain⟩ := fractionDigits_eq_ok hfraction
  obtain ⟨amount, hamount, rfl, hamountAgain⟩ := exponentDigits_eq_ok hexponent
  refine ⟨whole ++ (places ++ amount), ⟨whole, places, amount, hrow, hplaces, hamount, rfl⟩,
    by simp only [List.append_assoc], fun other hother => ?_⟩
  have hexp := head?_append_congr amount hother
  have hfrac := head?_append_congr places hexp
  simp only [scanUnsigned, List.append_assoc, Read.bind_eq_ok]
  exact ⟨_, hagain _ hfrac, _, hplacesAgain _ hexp, _, hamountAgain other hother, rfl⟩

theorem stops_of_digits {fault : Fault} (h : digits cs = .error fault) : fault.stops = true := by
  cases cs with
  | nil =>
    cases h
    rfl
  | cons c tail =>
    rw [digits] at h
    split at h
    · cases h
    · cases h
      rfl

/-- Nothing is read after a numeral that cannot be read. -/
theorem stops_of_scanUnsigned {negative : Bool} {fault : Fault}
    (h : scanUnsigned negative cs = .error fault) : fault.stops = true := by
  simp only [scanUnsigned, Read.bind_eq_error] at h
  obtain hwhole | ⟨_, -, hfraction | ⟨_, -, hexponent | ⟨_, -, h⟩⟩⟩ := h
  · rw [wholeDigits, Read.bind_eq_error] at hwhole
    obtain hdigits | ⟨⟨whole, tail⟩, -, h⟩ := hwhole
    · exact stops_of_digits hdigits
    · by_cases hlone : (whole.head? = some '0' && 1 < whole.length) = true
      · simp only [if_pos hlone] at h
        cases h
        rfl
      · simp only [if_neg hlone] at h
        cases h
  · unfold fractionDigits at hfraction
    split at hfraction
    · exact stops_of_digits (Read.map_eq_error.mp hfraction)
    · cases hfraction
  · unfold exponentDigits at hexponent
    split at hexponent
    · split at hexponent
      · exact stops_of_digits (Read.map_eq_error.mp hexponent)
      · cases hexponent
    · cases hexponent
  · cases h

/-- The document of a numeral is no list, no object and no key. -/
theorem leaf_doc (numeral : Numeral) :
    numeral.doc.isLeaf = true ∧ ¬ Tree.isKey numeral.doc = true := by
  rw [doc]
  cases numeral.number? with
  | none => exact ⟨rfl, nofun⟩
  | some n => exact ⟨rfl, nofun⟩

/-- What a scanned numeral comes to. -/
def outcome : Except Fault (Numeral × List Char) → Doc × List Char
  | .ok (numeral, rest) => (numeral.doc, rest)
  | .error fault => (.fault fault, [])

theorem scan_minus (cs : List Char) : scan ('-' :: cs) = outcome (scanUnsigned true cs) := by
  simp only [scan]
  cases scanUnsigned true cs <;> rfl

theorem scan_unsigned {c : Char} (hc : c ≠ '-') (cs : List Char) :
    scan (c :: cs) = outcome (scanUnsigned false (c :: cs)) := by
  unfold scan
  split
  next hsign =>
  split at hsign
  · next heq => exact absurd (List.cons.inj heq).1 hc
  · cases hsign
    cases scanUnsigned false (c :: cs) <;> rfl

theorem outcome_goesOn {read : Except Fault (Numeral × List Char)} {doc : Doc}
    (hread : ∀ fault, read = .error fault → fault.stops = true) (h : outcome read = (doc, rest))
    (hgoes : Tree.stops doc = false) :
    ∃ numeral, read = .ok (numeral, rest) ∧ doc = numeral.doc := by
  cases read with
  | error fault =>
    cases h
    rw [Tree.stops, hread fault rfl] at hgoes
    cases hgoes
  | ok read =>
    cases h
    exact ⟨_, rfl, rfl⟩

/-- A numeral with which reading goes on follows the grammar, and it ends where it ends. -/
theorem scan_spec {c : Char} {doc : Doc} (h : scan (c :: cs) = (doc, rest))
    (hgoes : Tree.stops doc = false) :
    ∃ part numeral, NumberText (c :: part) ∧ cs = part ++ rest ∧ doc = Numeral.doc numeral ∧
      ∀ other, other.head? = rest.head? → scan (c :: (part ++ other)) = (doc, other) := by
  by_cases hc : c = '-'
  · subst hc
    rw [scan_minus] at h
    obtain ⟨numeral, hscan, rfl⟩ := outcome_goesOn (fun _ => stops_of_scanUnsigned) h hgoes
    obtain ⟨part, hpart, rfl, hagain⟩ := scanUnsigned_eq_ok hscan
    refine ⟨part, numeral, ⟨['-'], part, .inr rfl, hpart, rfl⟩, rfl, rfl, fun other hother => ?_⟩
    rw [scan_minus, hagain other hother]
    rfl
  · rw [scan_unsigned hc] at h
    obtain ⟨numeral, hscan, rfl⟩ := outcome_goesOn (fun _ => stops_of_scanUnsigned) h hgoes
    obtain ⟨part, hpart, hcs, hagain⟩ := scanUnsigned_eq_ok hscan
    cases part with
    | nil =>
      obtain ⟨whole, fraction, exponent, ⟨⟨hne, -⟩, -⟩, -, -, hnil⟩ := hpart
      exact absurd (List.append_eq_nil_iff.mp hnil.symm).1 hne
    | cons d part =>
      cases hcs
      refine ⟨part, numeral, ⟨[], c :: part, .inl rfl, hpart, rfl⟩, rfl, rfl,
        fun other hother => ?_⟩
      have hscan := hagain other hother
      rw [List.cons_append] at hscan
      rw [scan_unsigned hc, hscan]
      rfl

end Numeral

namespace Token

/-! ## Strings -/

variable {cs rest : List Char}

theorem isSome_hexValue?_of_codeUnit? {a b c d : Char} {code : Nat}
    (h : codeUnit? a b c d = some code) :
    ∀ digit ∈ [a, b, c, d], (hexValue? digit).isSome = true := by
  simp only [codeUnit?, bind, Option.bind_eq_some_iff] at h
  obtain ⟨_, ha, _, hb, _, hc, _, hd, -⟩ := h
  simp [ha, hb, hc, hd]

theorem mem_of_escaped? {c char : Char} (h : escaped? c = some char) :
    c ∈ ['"', '\\', '/', 'b', 'f', 'n', 'r', 't'] := by
  by_contra hletter
  simp only [List.mem_cons, List.not_mem_nil, or_false, not_or] at hletter
  simp [escaped?, hletter] at h

/-- The pieces up to a closing quote stand between the quotes of a string, whatever follows. -/
theorem pieces_quote {read : List Piece} (h : pieces cs = (read, .quote, rest)) :
    ∃ row, Quotable row ∧ cs = row ++ '"' :: rest ∧
      ∀ other, pieces (row ++ '"' :: other) = (read, .quote, other) := by
  fun_induction pieces cs generalizing read with
  | case2 cs =>
    cases h
    exact ⟨[], .nil, rfl, fun other => rfl⟩
  | case3 a b c d cs code hunit read closing rest hpieces ih =>
    cases h
    obtain ⟨row, hrow, rfl, hagain⟩ := ih hpieces
    refine ⟨'\\' :: 'u' :: a :: b :: c :: d :: row,
      .unit (isSome_hexValue?_of_codeUnit? hunit) hrow, rfl, fun other => ?_⟩
    simp only [List.cons_append, pieces, hunit, hagain other]
  | case6 c cs _ hne char hletter read closing rest hpieces ih =>
    cases h
    obtain ⟨row, hrow, rfl, hagain⟩ := ih hpieces
    refine ⟨'\\' :: c :: row, .letter (mem_of_escaped? hletter) hrow, rfl, fun other => ?_⟩
    rw [List.cons_append, List.cons_append, pieces, hletter, hagain other]
    · exact fun _ _ _ _ _ hc => absurd hc hne
    · exact fun hc => absurd hc hne
  | case10 c cs hquote hunit hcut hletter hend hcontrol read closing rest hpieces ih =>
    have hslash : c ≠ '\\' := by
      intro hslash
      cases cs with
      | nil => exact hend hslash rfl
      | cons d cs => exact hletter d cs hslash rfl
    cases h
    obtain ⟨row, hrow, rfl, hagain⟩ := ih hpieces
    refine ⟨c :: row, .plain hquote hslash (Nat.le_of_not_lt hcontrol) hrow, rfl, fun other => ?_⟩
    rw [List.cons_append, pieces, if_neg hcontrol, hagain other]
    · exact hquote
    · exact fun _ _ _ _ _ hc => absurd hc hslash
    · exact fun _ hc => absurd hc hslash
    · exact fun _ _ hc => absurd hc hslash
    · exact fun hc => absurd hc hslash
  | case5 => split at h <;> cases h
  | _ => cases h

/-- Only pieces up to a closing quote can be read as characters. -/
theorem fault?_of_characters {read : List Piece} {closing : Closing} {chars : List Char}
    (h : characters read closing = .ok chars) : closing.fault? = none := by
  fun_induction characters read closing generalizing chars with
  | case1 closing hclosed => exact hclosed
  | case3 c read closing ih =>
    obtain ⟨chars, hchars, -⟩ := Read.map_eq_ok.mp h
    exact ih hchars
  | case6 code closing _ _ ih =>
    obtain ⟨chars, hchars, -⟩ := Read.map_eq_ok.mp h
    exact ih hchars
  | case8 code next read closing _ _ _ point =>
    rename_i ih
    obtain ⟨chars, hchars, -⟩ := Read.map_eq_ok.mp h
    exact ih hchars
  | case10 code next read closing _ _ ih =>
    obtain ⟨chars, hchars, -⟩ := Read.map_eq_ok.mp h
    exact ih hchars
  | case13 code c read closing _ _ ih =>
    obtain ⟨chars, hchars, -⟩ := Read.map_eq_ok.mp h
    exact ih hchars
  | _ => cases h

/-- The document of a string with those pieces. -/
def spelled (read : List Piece) (closing : Closing) : Doc :=
  match characters read closing with
  | .ok chars => .str (String.ofList chars)
  | .error fault => .fault (.text fault closing.fault?)

theorem text_eq {read : List Piece} {closing : Closing} (h : pieces cs = (read, closing, rest)) :
    text cs = (spelled read closing, rest) := by
  rw [text, h, spelled]
  cases hchars : characters read closing <;> simp only [hchars]

theorem isLeaf_spelled (read : List Piece) (closing : Closing) :
    (spelled read closing).isLeaf = true := by
  rw [spelled]
  cases characters read closing <;> rfl

/-- Reading goes on behind a string only if it comes to its closing quote. -/
theorem eq_quote_of_goesOn {read : List Piece} {closing : Closing}
    (h : Tree.stops (spelled read closing) = false) : closing = .quote := by
  have hclosed : closing.fault? = none := by
    rw [spelled] at h
    cases hchars : characters read closing with
    | ok chars => exact fault?_of_characters hchars
    | error fault =>
      rw [hchars] at h
      exact Option.not_isSome_iff_eq_none.mp (Bool.eq_false_iff.mp h)
  cases closing with
  | quote => rfl
  | _ => cases hclosed

/-- A string with which reading goes on follows the grammar, and it ends at its closing quote. -/
theorem text_spec {doc : Doc} (h : text cs = (doc, rest)) (hgoes : Tree.stops doc = false) :
    ∃ part, StringText ('"' :: part) ∧ cs = part ++ rest ∧ doc.isLeaf = true ∧
      ∀ other, text (part ++ other) = (doc, other) := by
  obtain ⟨⟨read, closing, after⟩, hpieces⟩ : ∃ read, pieces cs = read := ⟨_, rfl⟩
  rw [text_eq hpieces] at h
  cases h
  obtain rfl := eq_quote_of_goesOn hgoes
  obtain ⟨row, hrow, rfl, hagain⟩ := pieces_quote hpieces
  refine ⟨row ++ ['"'], ⟨row, hrow, rfl⟩, ?_, isLeaf_spelled _ _, fun other => ?_⟩
  · rw [List.append_assoc, List.singleton_append]
  · rw [List.append_assoc, List.singleton_append, text_eq (hagain other)]

/-! ## Words -/

/-- A word with which reading goes on is spelled out. -/
theorem word_spec {doc leaf : Doc} {tail : List Char} (h : word doc tail cs = (leaf, rest))
    (hgoes : Tree.stops leaf = false) :
    leaf = doc ∧ cs = tail ++ rest ∧ ∀ other, word doc tail (tail ++ other) = (doc, other) := by
  induction tail generalizing cs with
  | nil =>
    cases h
    exact ⟨rfl, rfl, fun other => rfl⟩
  | cons t tail ih =>
    cases cs with
    | nil =>
      cases h
      cases hgoes
    | cons c cs =>
      rw [word] at h
      split at h
      · next hc =>
        subst hc
        obtain ⟨rfl, rfl, hagain⟩ := ih h
        refine ⟨rfl, rfl, fun other => ?_⟩
        rw [List.cons_append, word, if_pos rfl, hagain]
      · cases h
        cases hgoes

/-! ## Leaves -/

/-- What a leaf of a document with which reading goes on shows of its text. -/
structure Shown (doc : Doc) (cs : List Char) : Prop where
  leaf : doc.isLeaf = true
  value : ValueText cs
  key : Tree.isKey doc = true → StringText cs

/-- A leaf with which reading goes on follows the grammar. It is read from the same part of every
text that goes on with the same character. -/
theorem leafAt_spec {c : Char} {doc : Doc} (h : leafAt c cs = (doc, rest))
    (hgoes : Tree.stops doc = false) :
    ∃ part, Shown doc (c :: part) ∧ cs = part ++ rest ∧
      ∀ other, other.head? = rest.head? → leafAt c (part ++ other) = (doc, other) := by
  unfold leafAt at h ⊢
  split_ifs at h ⊢ with hquote hnull htrue hfalse hnumeral
  · subst hquote
    obtain ⟨part, hpart, hcs, hleaf, hagain⟩ := text_spec h hgoes
    exact ⟨part, ⟨hleaf, .string hpart, fun _ => hpart⟩, hcs, fun other _ => hagain other⟩
  · subst hnull
    obtain ⟨rfl, hcs, hagain⟩ := word_spec h hgoes
    exact ⟨_, ⟨rfl, .null, nofun⟩, hcs, fun other _ => hagain other⟩
  · subst htrue
    obtain ⟨rfl, hcs, hagain⟩ := word_spec h hgoes
    exact ⟨_, ⟨rfl, .true, nofun⟩, hcs, fun other _ => hagain other⟩
  · subst hfalse
    obtain ⟨rfl, hcs, hagain⟩ := word_spec h hgoes
    exact ⟨_, ⟨rfl, .false, nofun⟩, hcs, fun other _ => hagain other⟩
  · obtain ⟨part, numeral, hpart, hcs, rfl, hagain⟩ := Numeral.scan_spec h hgoes
    obtain ⟨hleaf, hkey⟩ := numeral.leaf_doc
    exact ⟨part, ⟨hleaf, .number hpart, fun h => absurd h hkey⟩, hcs, hagain⟩
  · cases h
    cases hgoes

end Token

end DiagramStudio
