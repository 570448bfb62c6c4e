import DiagramStudio.Graph.Mint
import DiagramStudio.Proofs.Run
import Mathlib.Order.Bounds.Basic

/-!
# The counter of ids

What an id from outside does to the counter, and what a search for a free id takes from it.

Results:
* `number?_toDigits`: reading a number back gives it again, as long as it fits into 64 bits.
* `spelled?_spell`: an id spells the number that it was made from.
* `spelled?_eq_some_iff`: which ids spell a number, and which.
* `next_reserve`: reserving an id lifts the counter to the least value above what the id spells.
* `isGreatest_reserveAll`: reserving ids lifts the counter to the greatest of these values, in
  whatever order they come (`reserveAll_of_mem_iff`).
* `fresh_unused`: a search never ends with an id that is in use.
* `fresh_past`: unless it takes the largest number, a search ends with a number that is not below
  the counter, and leaves the counter just above it.
-/

namespace DiagramStudio.IdMint

/-! ## Spelling -/

/-- An id spells a number if it is one of the stems followed by the digits of that number. Zeros may
stand before them, and a plus sign before the zeros. -/
def Spells (id : String) (n : Nat) : Prop :=
  ∃ stem digits, (stem = nodeStem ∨ stem = edgeStem) ∧
    (id.toList = stem.toList ++ digits ∨ id.toList = stem.toList ++ '+' :: digits) ∧
    digits ≠ [] ∧ (∀ c ∈ digits, c.isDigit = true) ∧ Nat.ofDigitChars 10 digits 0 = n

/-- A row of digits is read as the number that it shows, with or without a plus sign. -/
theorem number?_digits {digits cs : List Char} (hne : digits ≠ [])
    (hdigit : ∀ c ∈ digits, c.isDigit = true) (hcs : cs = digits ∨ cs = '+' :: digits) :
    number? cs = if Nat.ofDigitChars 10 digits 0 < UInt64.size
      then some (Nat.ofDigitChars 10 digits 0) else none := by
  have hvalue : digits.foldl (fun n c => n * 10 + (c.toNat - '0'.toNat)) 0 =
      Nat.ofDigitChars 10 digits 0 := by
    rw [Nat.ofDigitChars_eq_foldl]
    simp only [Nat.mul_comm 10]
  unfold number?
  extract_lets read value
  have hread : read = digits := by
    rcases hcs with rfl | rfl
    · unfold read
      split
      · -- A plus sign is no digit.
        have := hdigit '+' List.mem_cons_self
        simp at this
      · rfl
    · rfl
  have hsame : value = Nat.ofDigitChars 10 digits 0 := by
    unfold value
    rw [hread, hvalue]
  rw [hsame, hread, if_pos (by simpa [hne] using hdigit)]

theorem number?_eq_some_iff {cs : List Char} {n : Nat} :
    number? cs = some n ↔ ∃ digits, (cs = digits ∨ cs = '+' :: digits) ∧ digits ≠ [] ∧
      (∀ c ∈ digits, c.isDigit = true) ∧ Nat.ofDigitChars 10 digits 0 = n ∧ n < UInt64.size := by
  constructor
  · intro h
    have hread : ∃ digits, (cs = digits ∨ cs = '+' :: digits) ∧ digits ≠ [] ∧
        ∀ c ∈ digits, c.isDigit = true := by
      unfold number? at h
      extract_lets digits value at h
      split_ifs at h with hall
      rw [Bool.and_eq_true, decide_eq_true_eq, List.all_eq_true] at hall
      refine ⟨digits, ?_, hall⟩
      unfold digits
      split
      · exact .inr rfl
      · exact .inl rfl
    obtain ⟨digits, hcs, hne, hdigit⟩ := hread
    rw [number?_digits hne hdigit hcs] at h
    split_ifs at h with hfits
    rw [Option.some_inj] at h
    exact ⟨digits, hcs, hne, hdigit, h, h ▸ hfits⟩
  · rintro ⟨digits, hcs, hne, hdigit, rfl, hfits⟩
    rw [number?_digits hne hdigit hcs, if_pos hfits]

theorem number?_toDigits {n : Nat} (hn : n < UInt64.size) :
    number? (Nat.toDigits 10 n) = some n := by
  have hdigit : ∀ c ∈ Nat.toDigits 10 n, c.isDigit := by
    intro c hc
    exact Nat.isDigit_of_mem_toDigits (by decide) (by decide) hc
  exact number?_eq_some_iff.mpr
    ⟨_, .inl rfl, Nat.toDigits_ne_nil, hdigit, Nat.ofDigitChars_ten_toDigits, hn⟩

theorem afterStem?_eq_some_iff {stem id : String} {rest : List Char} :
    afterStem? stem id = some rest ↔ id.toList = stem.toList ++ rest := by
  unfold afterStem?
  rw [← String.length_toList]
  constructor
  · intro h
    split_ifs at h with hprefix
    obtain ⟨tail, htail⟩ := List.isPrefixOf_iff_prefix.mp hprefix
    rw [← htail, List.drop_left, Option.some_inj] at h
    rw [← htail, h]
  · intro h
    rw [h, if_pos (List.isPrefixOf_iff_prefix.mpr (List.prefix_append _ _)), List.drop_left]

/-- What follows the stem of an id is read as its number. -/
theorem spelled?_of_stem {stem id : String} {rest : List Char}
    (hstem : stem = nodeStem ∨ stem = edgeStem) (hid : id.toList = stem.toList ++ rest) :
    spelled? id = number? rest := by
  have hafter := afterStem?_eq_some_iff.mpr hid
  rcases hstem with rfl | rfl
  · rw [spelled?, hafter]
    rfl
  · -- No id has both stems.
    have hother : afterStem? nodeStem id = none := by
      unfold afterStem?
      rw [hid]
      rfl
    rw [spelled?, hother, hafter]
    rfl

theorem exists_stem_of_spelled? {id : String} {n : Nat} (h : spelled? id = some n) :
    ∃ stem rest, (stem = nodeStem ∨ stem = edgeStem) ∧ id.toList = stem.toList ++ rest := by
  unfold spelled? at h
  cases hnode : afterStem? nodeStem id with
  | some rest => exact ⟨_, rest, .inl rfl, afterStem?_eq_some_iff.mp hnode⟩
  | none =>
    cases hedge : afterStem? edgeStem id with
    | some rest => exact ⟨_, rest, .inr rfl, afterStem?_eq_some_iff.mp hedge⟩
    | none =>
      rw [hnode, hedge] at h
      cases h

/-- An id is read as the number that it spells, as long as that fits into 64 bits. -/
theorem spelled?_eq_some_iff {id : String} {n : Nat} :
    spelled? id = some n ↔ Spells id n ∧ n < UInt64.size := by
  constructor
  · intro h
    obtain ⟨stem, rest, hstem, hid⟩ := exists_stem_of_spelled? h
    rw [spelled?_of_stem hstem hid, number?_eq_some_iff] at h
    obtain ⟨digits, hrest, hne, hdigit, hvalue, hfits⟩ := h
    refine ⟨⟨stem, digits, hstem, ?_, hne, hdigit, hvalue⟩, hfits⟩
    rcases hrest with rfl | rfl
    · exact .inl hid
    · exact .inr hid
  · rintro ⟨⟨stem, digits, hstem, hid, hne, hdigit, hvalue⟩, hfits⟩
    obtain ⟨rest, hrest, hid⟩ :
        ∃ rest, (rest = digits ∨ rest = '+' :: digits) ∧ id.toList = stem.toList ++ rest := by
      rcases hid with hid | hid
      · exact ⟨_, .inl rfl, hid⟩
      · exact ⟨_, .inr rfl, hid⟩
    rw [spelled?_of_stem hstem hid]
    exact number?_eq_some_iff.mpr ⟨digits, hrest, hne, hdigit, hvalue, hfits⟩

theorem spelled?_spell {stem : String} (hstem : stem = nodeStem ∨ stem = edgeStem) (n : UInt64) :
    spelled? (spell stem n) = some n.toNat := by
  have hid : (spell stem n).toList = stem.toList ++ Nat.toDigits 10 n.toNat := by
    rw [spell, String.toList_append, Nat.toString_eq_repr, Nat.toList_repr]
  rw [spelled?_of_stem hstem hid]
  exact number?_toDigits n.toNat_lt

/-! ## Reserving -/

/-- The largest number of the counter. -/
def top : UInt64 := 18446744073709551615

theorem toNat_lt_top {n : UInt64} (h : n ≠ top) : n.toNat + 1 < UInt64.size := by
  have hlt := n.toNat_lt
  have hne : n.toNat ≠ top.toNat := fun he => h (UInt64.toNat_inj.mp he)
  have htop : top.toNat = 18446744073709551615 := rfl
  simp only [UInt64.size]
  omega

theorem toNat_succ {n : UInt64} (h : n ≠ top) : (n + 1).toNat = n.toNat + 1 :=
  toNat_succ_of_lt (toNat_lt_top h)

/-- The least value of the counter above the number that an id spells. It is zero if the id spells
no number, and also if it spells the largest one, which is never reserved. -/
def above (id : String) : Nat :=
  match spelled? id with
  | some n => if n + 1 < UInt64.size then n + 1 else 0
  | none => 0

theorem above_spell {stem : String} (hstem : stem = nodeStem ∨ stem = edgeStem) {n : UInt64}
    (hn : n ≠ top) : above (spell stem n) = n.toNat + 1 := by
  unfold above
  rw [spelled?_spell hstem]
  simp only
  rw [if_pos (toNat_lt_top hn)]

theorem next_reserve (mint : IdMint) (id : String) :
    (mint.reserve id).next.toNat = max mint.next.toNat (above id) := by
  unfold reserve above
  cases spelled? id with
  | none => simp
  | some n =>
    simp only
    by_cases hfits : n + 1 < UInt64.size
    · rw [if_pos hfits, if_pos hfits]
      by_cases hbelow : mint.next.toNat < n + 1
      · have hvalue : (n + 1).toUInt64.toNat = n + 1 := UInt64.toNat_ofNat_of_lt hfits
        simp only [if_pos hbelow, hvalue]
        omega
      · simp only [if_neg hbelow]
        omega
    · rw [if_neg hfits, if_neg hfits]
      omega

theorem next_le_reserveAll (ids : List String) (mint : IdMint) :
    mint.next.toNat ≤ (ids.foldl reserve mint).next.toNat := by
  induction ids generalizing mint with
  | nil => exact Nat.le_refl _
  | cons id ids ih =>
    have hone := next_reserve mint id
    have hrest := ih (mint.reserve id)
    rw [List.foldl_cons]
    omega

theorem above_le_reserveAll {ids : List String} {id : String} (h : id ∈ ids) (mint : IdMint) :
    above id ≤ (ids.foldl reserve mint).next.toNat := by
  induction ids generalizing mint with
  | nil => cases h
  | cons first ids ih =>
    rw [List.foldl_cons]
    rcases List.mem_cons.mp h with rfl | hmem
    · have hone := next_reserve mint id
      have hrest := next_le_reserveAll ids (mint.reserve id)
      omega
    · exact ih hmem (mint.reserve first)

theorem above_eq_succ_iff {id : String} {n : Nat} :
    above id = n + 1 ↔ Spells id n ∧ n < top.toNat := by
  have htop : top.toNat = 18446744073709551615 := rfl
  unfold above
  constructor
  · intro h
    cases hspelled : spelled? id with
    | none =>
      rw [hspelled] at h
      exact absurd h (Nat.zero_ne_add_one n)
    | some m =>
      rw [hspelled] at h
      simp only at h
      split_ifs at h with hfits
      obtain rfl : m = n := by omega
      have hbelow : m < top.toNat := by
        simp only [UInt64.size] at hfits
        omega
      exact ⟨(spelled?_eq_some_iff.mp hspelled).1, hbelow⟩
  · rintro ⟨hspells, hbelow⟩
    have hfits : n + 1 < UInt64.size := by
      simp only [UInt64.size]
      omega
    rw [spelled?_eq_some_iff.mpr ⟨hspells, by omega⟩]
    simp only
    rw [if_pos hfits]

/-- Reserving ids leaves the counter as it was, or moves it just above what one of them spells. -/
theorem next_reserveAll_eq (ids : List String) (mint : IdMint) :
    (ids.foldl reserve mint).next.toNat = mint.next.toNat ∨
      ∃ id ∈ ids, ∃ n, above id = n + 1 ∧ (ids.foldl reserve mint).next.toNat = n + 1 := by
  induction ids generalizing mint with
  | nil => exact .inl rfl
  | cons first ids ih =>
    rw [List.foldl_cons]
    rcases ih (mint.reserve first) with hsame | ⟨id, hid, n, habove, hnext⟩
    · rw [hsame, next_reserve]
      by_cases hbelow : above first ≤ mint.next.toNat
      · exact .inl (Nat.max_eq_left hbelow)
      · right
        refine ⟨first, List.mem_cons_self, above first - 1, ?_, ?_⟩
        all_goals omega
    · exact .inr ⟨id, List.mem_cons_of_mem first hid, n, habove, hnext⟩

/-- Ids below the counter leave it where it is. -/
theorem reserveAll_eq_self {ids : List String} {mint : IdMint}
    (h : ∀ id ∈ ids, above id ≤ mint.next.toNat) : ids.foldl reserve mint = mint := by
  have hnext : (ids.foldl reserve mint).next.toNat = mint.next.toNat := by
    rcases next_reserveAll_eq ids mint with hsame | ⟨id, hid, n, habove, hnext⟩
    · exact hsame
    · have hbelow := h id hid
      have hle := next_le_reserveAll ids mint
      omega
  exact congrArg IdMint.mk (UInt64.toNat_inj.mp hnext)

/-- Reserving ids lifts the counter to the least value above all numbers that they spell, but for
the largest one. -/
theorem isGreatest_reserveAll (ids : List String) (mint : IdMint) :
    IsGreatest {m | m = mint.next.toNat ∨
      ∃ id ∈ ids, ∃ n, Spells id n ∧ n < top.toNat ∧ m = n + 1}
      (ids.foldl reserve mint).next.toNat := by
  constructor
  · rcases next_reserveAll_eq ids mint with hsame | ⟨id, hid, n, habove, hnext⟩
    · exact .inl hsame
    · obtain ⟨hspells, hbelow⟩ := above_eq_succ_iff.mp habove
      exact .inr ⟨id, hid, n, hspells, hbelow, hnext⟩
  · rintro m (rfl | ⟨id, hid, n, hspells, hbelow, rfl⟩)
    · exact next_le_reserveAll ids mint
    · rw [← above_eq_succ_iff.mpr ⟨hspells, hbelow⟩]
      exact above_le_reserveAll hid mint

/-- The order in which ids are reserved does not matter. -/
theorem reserveAll_of_mem_iff {ids order : List String} (h : ∀ id, id ∈ order ↔ id ∈ ids)
    (mint : IdMint) : order.foldl reserve mint = ids.foldl reserve mint := by
  have horder := isGreatest_reserveAll order mint
  simp only [h] at horder
  have hnext := horder.unique (isGreatest_reserveAll ids mint)
  exact congrArg IdMint.mk (UInt64.toNat_inj.mp hnext)

/-! ## Searching -/

/-- The numbers that a search takes from the counter. -/
def taken (inUse : String → Bool) (stem : String) : Nat → IdMint → List UInt64
  | 0, _ => []
  | tries + 1, mint =>
    let (id, rest) := mint.candidate stem
    mint.next :: if inUse id then taken inUse stem tries rest else []

theorem fresh_unused {inUse : String → Bool} {stem : String} {tries : Nat} {mint rest : IdMint}
    {id : String} (h : fresh inUse stem tries mint = some (id, rest)) : inUse id = false := by
  induction tries generalizing mint with
  | zero => cases h
  | succ tries ih =>
    simp only [fresh] at h
    split at h
    · exact ih h
    · rename_i hfree
      simp only [Option.some.injEq, Prod.ext_iff] at h
      rw [← h.1]
      simpa using hfree

theorem fresh_past {inUse : String → Bool} {stem : String} {tries : Nat} {mint rest : IdMint}
    {id : String} (h : fresh inUse stem tries mint = some (id, rest))
    (hroom : top ∉ taken inUse stem tries mint) :
    ∃ n, id = spell stem n ∧ n ≠ top ∧ mint.next.toNat ≤ n.toNat ∧
      rest.next.toNat = n.toNat + 1 := by
  induction tries generalizing mint with
  | zero => cases h
  | succ tries ih =>
    simp only [taken, List.mem_cons, not_or] at hroom
    obtain ⟨hfirst, hlater⟩ := hroom
    have hsucc := toNat_succ (Ne.symm hfirst)
    simp only [fresh] at h
    split at h
    · rename_i hused
      rw [if_pos hused] at hlater
      obtain ⟨n, hid, hn, hle, hrest⟩ := ih h hlater
      simp only [candidate] at hle
      exact ⟨n, hid, hn, by omega, hrest⟩
    · simp only [candidate, Option.some.injEq, Prod.mk.injEq] at h
      obtain ⟨rfl, rfl⟩ := h
      exact ⟨mint.next, rfl, Ne.symm hfirst, Nat.le_refl _, hsucc⟩

end DiagramStudio.IdMint
