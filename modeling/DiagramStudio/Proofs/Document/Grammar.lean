import DiagramStudio.Document.Token

/-!
# The grammar of documents

The texts that are values, lists and objects, by the rules of JSON, without regard to
what is read out of them. A numeral may be out of range and an escaped code unit may be half of a
surrogate pair: such texts follow the rules as well.

Results:
* `ObjectText.begins`, `ListText.begins`: an object text begins with a brace, a list text with a
  bracket.
* `ItemsText.blanks`, `MembersText.blanks`: blanks may follow what stands in a list or an object.
-/

namespace DiagramStudio

namespace Grammar

/-- A row of blanks. -/
def Blanks (cs : List Char) : Prop := ∀ c ∈ cs, Token.isSpace c = true

theorem Blanks.nil : Blanks [] := by
  intro c hc
  cases hc

theorem Blanks.cons {c : Char} {cs : List Char} (hc : Token.isSpace c = true) (h : Blanks cs) :
    Blanks (c :: cs) := by
  intro d hd
  cases hd with
  | head => exact hc
  | tail _ hd => exact h d hd

theorem Blanks.append {cs gap : List Char} (h : Blanks cs) (hgap : Blanks gap) :
    Blanks (cs ++ gap) := by
  intro c hc
  cases List.mem_append.mp hc with
  | inl hc => exact h c hc
  | inr hc => exact hgap c hc

/-! ## Numerals -/

/-- A row of digits that is not empty. -/
def Digits (cs : List Char) : Prop := cs ≠ [] ∧ ∀ c ∈ cs, c.isDigit = true

/-- The digits before the point: a zero, or digits that do not begin with one. -/
def Whole (cs : List Char) : Prop := Digits cs ∧ (cs.head? = some '0' → cs = ['0'])

/-- The point with the digits behind it, or neither. -/
def Fraction (cs : List Char) : Prop := cs = [] ∨ ∃ row, Digits row ∧ cs = '.' :: row

/-- The exponent with its sign, or neither. -/
def Exponent (cs : List Char) : Prop :=
  cs = [] ∨ ∃ letter sign row, (letter = 'e' ∨ letter = 'E') ∧
    (sign = [] ∨ sign = ['-'] ∨ sign = ['+']) ∧ Digits row ∧ cs = letter :: (sign ++ row)

/-- A numeral without its sign. -/
def Unsigned (cs : List Char) : Prop :=
  ∃ whole fraction exponent, Whole whole ∧ Fraction fraction ∧ Exponent exponent ∧
    cs = whole ++ (fraction ++ exponent)

/-- A numeral. -/
def NumberText (cs : List Char) : Prop :=
  ∃ sign unsigned, (sign = [] ∨ sign = ['-']) ∧ Unsigned unsigned ∧ cs = sign ++ unsigned

/-! ## Strings -/

/-- What may stand between the quotes of a string. -/
inductive Quotable : List Char → Prop
  | nil : Quotable []
  | plain {c : Char} {cs : List Char} (hquote : c ≠ '"') (hslash : c ≠ '\\')
      (hcontrol : 0x20 ≤ c.toNat) (h : Quotable cs) : Quotable (c :: cs)
  | letter {c : Char} {cs : List Char} (hletter : c ∈ ['"', '\\', '/', 'b', 'f', 'n', 'r', 't'])
      (h : Quotable cs) : Quotable ('\\' :: c :: cs)
  | unit {a b c d : Char} {cs : List Char}
      (hdigits : ∀ digit ∈ [a, b, c, d], (Token.hexValue? digit).isSome = true)
      (h : Quotable cs) : Quotable ('\\' :: 'u' :: a :: b :: c :: d :: cs)

/-- A string with its quotes. -/
def StringText (cs : List Char) : Prop := ∃ row, Quotable row ∧ cs = '"' :: (row ++ ['"'])

/-! ## Values -/

mutual

/-- The text of a value. -/
inductive ValueText : List Char → Prop
  | null : ValueText ['n', 'u', 'l', 'l']
  | true : ValueText ['t', 'r', 'u', 'e']
  | false : ValueText ['f', 'a', 'l', 's', 'e']
  | number {cs : List Char} (h : NumberText cs) : ValueText cs
  | string {cs : List Char} (h : StringText cs) : ValueText cs
  | list {cs : List Char} (h : ListText cs) : ValueText cs
  | object {cs : List Char} (h : ObjectText cs) : ValueText cs

/-- The text of a list. -/
inductive ListText : List Char → Prop
  | empty {gap : List Char} (h : Blanks gap) : ListText ('[' :: (gap ++ [']']))
  | items {cs : List Char} (h : ItemsText cs) : ListText ('[' :: (cs ++ [']']))

/-- The items of a list, with the commas between them. -/
inductive ItemsText : List Char → Prop
  | one {cs : List Char} (h : PaddedText cs) : ItemsText cs
  | more {cs item : List Char} (h : ItemsText cs) (hitem : PaddedText item) :
      ItemsText (cs ++ ',' :: item)

/-- A value with the blanks around it. -/
inductive PaddedText : List Char → Prop
  | mk {before value after : List Char} (hbefore : Blanks before) (h : ValueText value)
      (hafter : Blanks after) : PaddedText (before ++ (value ++ after))

/-- The text of an object. -/
inductive ObjectText : List Char → Prop
  | empty {gap : List Char} (h : Blanks gap) : ObjectText ('\x7b' :: (gap ++ ['\x7d']))
  | members {cs : List Char} (h : MembersText cs) : ObjectText ('\x7b' :: (cs ++ ['\x7d']))

/-- The members of an object, with the commas between them. -/
inductive MembersText : List Char → Prop
  | one {cs : List Char} (h : MemberText cs) : MembersText cs
  | more {cs member : List Char} (h : MembersText cs) (hmember : MemberText member) :
      MembersText (cs ++ ',' :: member)

/-- A member with its key, the colon, and the blanks around them. -/
inductive MemberText : List Char → Prop
  | mk {before key after value : List Char} (hbefore : Blanks before) (hkey : StringText key)
      (hafter : Blanks after) (h : PaddedText value) :
      MemberText (before ++ (key ++ (after ++ ':' :: value)))

end

variable {cs gap item value : List Char}

theorem ObjectText.begins (h : ObjectText cs) : cs.head? = some '\x7b' := by
  cases h <;> rfl

theorem ListText.begins (h : ListText cs) : cs.head? = some '[' := by
  cases h <;> rfl

theorem NumberText.ne_nil (h : NumberText cs) : cs ≠ [] := by
  rintro rfl
  obtain ⟨sign, unsigned, -, ⟨whole, fraction, exponent, ⟨⟨hwhole, -⟩, -⟩, -, -, rfl⟩, hnil⟩ := h
  exact hwhole (List.append_eq_nil_iff.mp (List.append_eq_nil_iff.mp hnil.symm).2).1

/-- An empty text is no value. -/
theorem not_paddedText_nil : ¬ PaddedText [] := by
  intro h
  generalize hcs : ([] : List Char) = cs at h
  obtain ⟨-, hvalue, -⟩ := h
  obtain rfl := (List.append_eq_nil_iff.mp (List.append_eq_nil_iff.mp hcs.symm).2).1
  generalize hcs : ([] : List Char) = cs at hvalue
  cases hvalue with
  | number h => exact h.ne_nil hcs.symm
  | string h =>
    obtain ⟨row, -, rfl⟩ := h
    cases hcs
  | list h => cases hcs ▸ h.begins
  | object h => cases hcs ▸ h.begins
  | _ => cases hcs

theorem PaddedText.blanks (h : PaddedText cs) (hgap : Blanks gap) : PaddedText (cs ++ gap) := by
  cases h with
  | mk hbefore hvalue hafter =>
    rw [List.append_assoc, List.append_assoc]
    exact .mk hbefore hvalue (hafter.append hgap)

theorem PaddedText.of_value (hgap : Blanks gap) (h : ValueText value) :
    PaddedText (gap ++ value) := by
  have hpadded := PaddedText.mk hgap h .nil
  rwa [List.append_nil] at hpadded

theorem ItemsText.blanks (h : ItemsText cs) (hgap : Blanks gap) : ItemsText (cs ++ gap) := by
  cases h with
  | one hitem => exact .one (hitem.blanks hgap)
  | more hitems hitem =>
    rw [List.append_assoc]
    exact .more hitems (hitem.blanks hgap)

theorem MemberText.blanks (h : MemberText cs) (hgap : Blanks gap) : MemberText (cs ++ gap) := by
  cases h with
  | mk hbefore hkey hafter hvalue =>
    rw [List.append_assoc, List.append_assoc, List.append_assoc]
    exact .mk hbefore hkey hafter (hvalue.blanks hgap)

theorem MembersText.blanks (h : MembersText cs) (hgap : Blanks gap) : MembersText (cs ++ gap) := by
  cases h with
  | one hmember => exact .one (hmember.blanks hgap)
  | more hmembers hmember =>
    rw [List.append_assoc]
    exact .more hmembers (hmember.blanks hgap)

end Grammar

end DiagramStudio
