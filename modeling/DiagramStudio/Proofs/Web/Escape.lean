import DiagramStudio.Web.Escape
import Mathlib.Data.UInt
import Mathlib.Logic.Function.Basic

/-!
# Escapes are taken back

Where the percent sign itself is escaped, every percent sign of what is written begins an escape. So
reading takes back what writing did, and different texts are written differently; and no spelling of
a dot is written but the dot, if that is not escaped.

Results:
* `Text.utf8_injective`: different texts have different bytes.
* `unescape_escape`: the bytes of a text are read back from its escaped form.
* `escape_eq_ofList`: a text that has nothing to be escaped stays as it is.
* `not_mem_escape`: characters that are escaped do not occur.
* `bytes_of_dots`: only dots are written as dots are spelled.
-/

namespace DiagramStudio

namespace Text

theorem utf8_ofList (cs : List Char) :
    utf8 (String.ofList cs) = cs.flatMap String.utf8EncodeChar := by
  rw [utf8, String.toList_ofList]

/-- Different texts have different bytes. -/
theorem utf8_injective : Function.Injective utf8 := by
  intro text other h
  have hbytes : text.toList.utf8Encode = other.toList.utf8Encode :=
    congrArg List.toByteArray h
  rw [← String.toByteArray_ofList, ← String.toByteArray_ofList, String.toByteArray_inj,
    String.ofList_toList, String.ofList_toList] at hbytes
  exact hbytes

/-- An ASCII character is one byte. -/
theorem utf8EncodeChar_of_lt {c : Char} (h : c.toNat < 0x80) :
    String.utf8EncodeChar c = [c.toNat.toUInt8] := by
  have hall : ∀ n < 0x80, String.utf8EncodeChar (Char.ofNat n) = [n.toUInt8] := by decide +kernel
  have hone := hall c.toNat h
  rwa [Char.ofNat_toNat] at hone

/-- The character of an ASCII byte. -/
theorem toNat_charOfNat {b : UInt8} (h : b < 0x80) : (Char.ofNat b.toNat).toNat = b.toNat := by
  have hall : ∀ n < 0x80, (Char.ofNat n).toNat = n := by decide +kernel
  exact hall b.toNat (UInt8.lt_iff_toNat_lt.mp h)

end Text

namespace Web

open Text

variable {set : EscapeSet} {cs : List Char} {c : Char} {b : UInt8} {n : Nat}

/-! ## Hexadecimal digits -/

theorem toNat_hexDigit_lt (h : n < 16) : (hexDigit n).toNat < 0x80 := by
  have hall : ∀ n < 16, (hexDigit n).toNat < 0x80 := by decide
  exact hall n h

theorem hexValue?_hexDigit (h : n < 16) : hexValue? (hexDigit n).toNat.toUInt8 = some n.toUInt8 := by
  have hall : ∀ n < 16, hexValue? (hexDigit n).toNat.toUInt8 = some n.toUInt8 := by decide
  exact hall n h

/-- A byte is written as it is or as an escape. -/
theorem escapeByte_cases (set : EscapeSet) (b : UInt8) :
    (b < 0x80 ∧ set b = false ∧ escapeByte set b = [Char.ofNat b.toNat]) ∨
      ¬ (b < 0x80 ∧ set b = false) ∧
        escapeByte set b = ['%', hexDigit (b.toNat / 16), hexDigit (b.toNat % 16)] := by
  rw [escapeByte]
  by_cases h : b < 0x80 ∧ set b = false
  · exact .inl ⟨h.1, h.2, if_pos (by simp [h])⟩
  · exact .inr ⟨h, if_neg (by simpa using h)⟩

/-! ## Reading what was written -/

theorem unescape_cons_of_ne {rest : List UInt8} (h : b ≠ 0x25) :
    unescape (b :: rest) = b :: unescape rest := by
  rw [unescape]
  rintro high low tail rfl
  exact absurd rfl h

/-- An escape stands for its byte. -/
theorem unescape_escapeByte (hpercent : set 0x25 = true) (b : UInt8) (rest : List UInt8) :
    unescape ((escapeByte set b).flatMap String.utf8EncodeChar ++ rest) = b :: unescape rest := by
  obtain ⟨hlow, hset, hbyte⟩ | ⟨-, hbyte⟩ := escapeByte_cases set b
  · have hne : b ≠ 0x25 := by
      rintro rfl
      rw [hpercent] at hset
      cases hset
    have hchar := toNat_charOfNat hlow
    have hsmall : b.toNat < 0x80 := UInt8.lt_iff_toNat_lt.mp hlow
    rw [hbyte, List.flatMap_singleton, utf8EncodeChar_of_lt (by rwa [hchar]), hchar,
      List.singleton_append]
    simpa using unescape_cons_of_ne hne
  · have hhigh : b.toNat / 16 < 16 := by have := b.toNat_lt; omega
    have hlow : b.toNat % 16 < 16 := by omega
    have hmark : String.utf8EncodeChar '%' = [0x25] := utf8EncodeChar_of_lt (by decide)
    have hvalue : (b.toNat / 16).toUInt8 * 16 + (b.toNat % 16).toUInt8 = b := by
      refine UInt8.toNat_inj.mp ?_
      rw [UInt8.toNat_add, UInt8.toNat_mul, Nat.toUInt8, UInt8.toNat_ofNat',
        UInt8.toNat_ofNat', show (16 : UInt8).toNat = 16 from rfl]
      omega
    rw [hbyte]
    simp only [List.flatMap_cons, List.flatMap_nil, hmark,
      utf8EncodeChar_of_lt (toNat_hexDigit_lt hhigh), utf8EncodeChar_of_lt (toNat_hexDigit_lt hlow),
      List.append_nil, List.cons_append, List.nil_append, unescape, hexValue?_hexDigit hhigh,
      hexValue?_hexDigit hlow, hvalue]

/-- The bytes of a text are read back from its escaped form. -/
theorem unescape_escape (hpercent : set 0x25 = true) (cs : List Char) :
    unescape (utf8 (escape set cs)) = utf8 (String.ofList cs) := by
  rw [escape, utf8_ofList]
  induction utf8 (String.ofList cs) with
  | nil => rfl
  | cons b rest ih =>
    rw [List.flatMap_cons, List.flatMap_append, unescape_escapeByte hpercent, ih]

theorem escape_injective (hpercent : set 0x25 = true) {other : List Char}
    (h : escape set cs = escape set other) : cs = other := by
  have hbytes := congrArg (fun text => unescape (utf8 text)) h
  simp only [unescape_escape hpercent] at hbytes
  exact String.ofList_injective (utf8_injective hbytes)

/-! ## What is written -/

/-- A text that has nothing to be escaped stays as it is. -/
theorem escape_eq_ofList (h : ∀ c ∈ cs, c.toNat < 0x80 ∧ set c.toNat.toUInt8 = false) :
    escape set cs = String.ofList cs := by
  rw [escape, utf8_ofList]
  congr 1
  induction cs with
  | nil => rfl
  | cons c cs ih =>
    obtain ⟨⟨hlow, hset⟩, hrest⟩ := List.forall_mem_cons.mp h
    have hbyte : c.toNat.toUInt8.toNat = c.toNat := by
      rw [Nat.toUInt8, UInt8.toNat_ofNat', Nat.mod_eq_of_lt (by omega)]
    have hplain : escapeByte set c.toNat.toUInt8 = [c] := by
      rw [escapeByte, if_pos (by simp [hset, UInt8.lt_iff_toNat_lt, hbyte, hlow]), hbyte,
        Char.ofNat_toNat]
    rw [List.flatMap_cons, utf8EncodeChar_of_lt hlow, List.flatMap_append, List.flatMap_singleton,
      hplain, ih hrest, List.singleton_append]

/-- Characters that are escaped do not occur, unless escapes are made of them. -/
theorem not_mem_escape (hset : set c.toNat.toUInt8 = true) (hpercent : c ≠ '%')
    (hdigit : hexValue? c.toNat.toUInt8 = none) : c ∉ (escape set cs).toList := by
  rw [escape, String.toList_ofList, List.mem_flatMap]
  rintro ⟨b, -, hmem⟩
  obtain ⟨hlow, hplain, hbyte⟩ | ⟨-, hbyte⟩ := escapeByte_cases set b
  · rw [hbyte, List.mem_singleton] at hmem
    rw [hmem, toNat_charOfNat hlow, Nat.toUInt8, UInt8.ofNat_toNat, hplain] at hset
    cases hset
  · have hhigh : b.toNat / 16 < 16 := by have := b.toNat_lt; omega
    have hlow : b.toNat % 16 < 16 := by omega
    rw [hbyte, List.mem_cons, List.mem_cons, List.mem_singleton] at hmem
    rcases hmem with rfl | rfl | rfl
    · exact hpercent rfl
    · rw [hexValue?_hexDigit hhigh] at hdigit
      cases hdigit
    · rw [hexValue?_hexDigit hlow] at hdigit
      cases hdigit

/-! ## Dots -/

/-- A spelling of a dot. -/
def IsDot (cs : List Char) : Prop := cs = ['.'] ∨ cs = ['%', '2', 'e']

/-- What is written like a dot, in letters of whatever case, is the byte of a dot, if that is not
escaped and percent signs are. -/
theorem exists_of_dot (hpercent : set 0x25 = true) (hdot : set 0x2E = false) {dot rest : List Char}
    {bytes : List UInt8} (hform : IsDot dot)
    (h : (bytes.flatMap (escapeByte set)).map Char.toLower = dot ++ rest) :
    ∃ others, bytes = 0x2E :: others ∧
      (others.flatMap (escapeByte set)).map Char.toLower = rest := by
  have hchars : ∀ n < 0x80, ((Char.ofNat n).toLower = '.' → n = 0x2E) ∧
      ((Char.ofNat n).toLower = '%' → n = 0x25) := by decide +kernel
  have hdigits : ∀ n < 16, ((hexDigit n).toLower = '2' → n = 2) ∧
      ((hexDigit n).toLower = 'e' → n = 14) := by decide
  cases bytes with
  | nil => rcases hform with rfl | rfl <;> cases h
  | cons b others =>
    rw [List.flatMap_cons, List.map_append] at h
    refine ⟨others, ?_⟩
    obtain ⟨hlow, hset, hbyte⟩ | ⟨hescaped, hbyte⟩ := escapeByte_cases set b
    · have hchar := hchars b.toNat (UInt8.lt_iff_toNat_lt.mp hlow)
      rw [hbyte] at h
      rcases hform with rfl | rfl
      · obtain ⟨hfirst, hrest⟩ := List.cons.inj h
        obtain rfl : b = 0x2E := UInt8.toNat_inj.mp (hchar.1 hfirst)
        exact ⟨rfl, hrest⟩
      · obtain rfl : b = 0x25 := UInt8.toNat_inj.mp (hchar.2 (List.cons.inj h).1)
        rw [hpercent] at hset
        cases hset
    · rw [hbyte] at h
      rcases hform with rfl | rfl
      · cases (List.cons.inj h).1
      · -- The digits are those of a dot, but a dot is not escaped.
        obtain ⟨hhigh, hlow⟩ := List.cons.inj (List.cons.inj h).2
        have hb := b.toNat_lt
        have hfirst := (hdigits (b.toNat / 16) (by omega)).1 hhigh
        have hsecond := (hdigits (b.toNat % 16) (by omega)).2 (List.cons.inj hlow).1
        obtain rfl : b = 0x2E := UInt8.toNat_inj.mp (by change b.toNat = 0x2E; omega)
        exact absurd ⟨by decide, hdot⟩ hescaped

/-- Only dots are written as dots are spelled. -/
theorem bytes_of_dots (hpercent : set 0x25 = true) (hdot : set 0x2E = false)
    {dots : List (List Char)} {bytes : List UInt8} (hforms : ∀ dot ∈ dots, IsDot dot)
    (h : (bytes.flatMap (escapeByte set)).map Char.toLower = dots.flatten) :
    bytes = List.replicate dots.length 0x2E := by
  induction dots generalizing bytes with
  | nil =>
    cases bytes with
    | nil => rfl
    | cons b others =>
      rw [List.flatMap_cons, List.map_append] at h
      obtain ⟨-, -, hbyte⟩ | ⟨-, hbyte⟩ := escapeByte_cases set b <;> rw [hbyte] at h <;> cases h
  | cons dot dots ih =>
    obtain ⟨hform, hforms⟩ := List.forall_mem_cons.mp hforms
    obtain ⟨others, rfl, hrest⟩ := exists_of_dot hpercent hdot hform h
    rw [ih hforms hrest, List.length_cons, List.replicate_succ]

end Web

end DiagramStudio
