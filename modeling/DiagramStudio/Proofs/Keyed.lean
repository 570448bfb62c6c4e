import DiagramStudio.Graph.Basic
import Mathlib.Data.List.Nodup

/-!
# Items with keys

Nodes, edges, loads and exports are kept in lists and found by a key. What is done to the item of
one key is nothing to the items of the others.

Results:
* `map_changeFirst`: a change that keeps a key keeps the list of keys.
* `find?_changeFirst`: where an item was changed, the changed item is found.
* `changeFirst_of_find?`: what is changed is the item that is found, in its place.
* `changeFirst_changeFirst`: two changes of an item are one.
* `changeFirst_comm`: changes of different items may change places.
* `changeFirst_eq_self`, `filter_ne_eq_self`: where no item has the key, nothing changes.
* `find?_of_mem`: where no key comes twice, every item is found.
* `filter_eq_singleton`: then a key is that of one item only.
* `eraseP_eq_filter_ne`: then to erase the first item of a key is to take all of them away.
* `find?_filter_ne`: items of another key may be taken away.
* `find?_concat_self`, `find?_concat_ne`: an item of a new key is found, and nothing else is found
  that was not there.
-/

namespace DiagramStudio

variable {α β : Type}

/-- A change that keeps a key of the items keeps the list of keys. -/
theorem map_changeFirst {key : α → β} {change : α → α}
    (hkey : ∀ item, key (change item) = key item) (test : α → Bool) (items : List α) :
    (changeFirst test change items).map key = items.map key := by
  induction items with
  | nil => rfl
  | cons item rest ih =>
    rw [changeFirst]
    split
    · rw [List.map_cons, List.map_cons, hkey]
    · rw [List.map_cons, List.map_cons, ih]

/-- Where an item was changed, the changed item is found. -/
theorem find?_changeFirst {test : α → Bool} {change : α → α}
    (htest : ∀ item, test (change item) = test item) (items : List α) :
    (changeFirst test change items).find? test = (items.find? test).map change := by
  induction items with
  | nil => rfl
  | cons item rest ih =>
    rw [changeFirst]
    cases hitem : test item with
    | true =>
      rw [if_pos rfl, List.find?_cons_of_pos ((htest item).trans hitem),
        List.find?_cons_of_pos hitem]
      rfl
    | false =>
      rw [if_neg Bool.false_ne_true, List.find?_cons_of_neg (Bool.not_eq_true _ ▸ hitem),
        List.find?_cons_of_neg (Bool.not_eq_true _ ▸ hitem), ih]

/-- What is changed is the item that is found, in its place. -/
theorem changeFirst_of_find? {test : α → Bool} {item : α} {items : List α}
    (h : items.find? test = some item) (change : α → α) :
    ∃ front back, items = front ++ item :: back ∧
      changeFirst test change items = front ++ change item :: back := by
  induction items with
  | nil => cases h
  | cons first rest ih =>
    rw [changeFirst]
    cases hfirst : test first with
    | true =>
      rw [List.find?_cons_of_pos hfirst] at h
      cases h
      exact ⟨[], rest, rfl, rfl⟩
    | false =>
      rw [List.find?_cons_of_neg (Bool.not_eq_true _ ▸ hfirst)] at h
      obtain ⟨front, back, hitems, hchanged⟩ := ih h
      exact ⟨first :: front, back, congrArg (first :: ·) hitems, congrArg (first :: ·) hchanged⟩

/-- Two changes of an item are one. -/
theorem changeFirst_changeFirst {test : α → Bool} {change : α → α}
    (htest : ∀ item, test (change item) = test item) (next : α → α) (items : List α) :
    changeFirst test next (changeFirst test change items) =
      changeFirst test (fun item => next (change item)) items := by
  induction items with
  | nil => rfl
  | cons item rest ih =>
    simp only [changeFirst]
    cases hitem : test item with
    | true => simp only [changeFirst, htest, hitem, if_true]
    | false => simp only [changeFirst, hitem, Bool.false_eq_true, if_false, ih]

/-- Changes of different items may change places. -/
theorem changeFirst_comm {first second : α → Bool} {change next : α → α}
    (hfirst : ∀ item, first (next item) = first item)
    (hsecond : ∀ item, second (change item) = second item)
    (hapart : ∀ item, first item = true → second item = false) (items : List α) :
    changeFirst second next (changeFirst first change items) =
      changeFirst first change (changeFirst second next items) := by
  induction items with
  | nil => rfl
  | cons item rest ih =>
    simp only [changeFirst]
    cases hitem : first item with
    | true => simp only [changeFirst, hsecond, hapart item hitem, hitem, if_true, Bool.false_eq_true,
        if_false]
    | false =>
      cases hother : second item with
      | true => simp only [changeFirst, hfirst, hother, hitem, if_true, Bool.false_eq_true, if_false]
      | false => simp only [changeFirst, hother, hitem, Bool.false_eq_true, if_false, ih]

/-- Where there is nothing to change, nothing changes. -/
theorem changeFirst_eq_self {test : α → Bool} {items : List α} (h : items.find? test = none)
    (change : α → α) : changeFirst test change items = items := by
  induction items with
  | nil => rfl
  | cons item rest ih =>
    rw [List.find?_eq_none] at h
    rw [changeFirst, if_neg (h item List.mem_cons_self),
      ih (List.find?_eq_none.mpr fun other hother => h other (List.mem_cons_of_mem _ hother))]

/-- Where no item has the key, none is taken away. -/
theorem filter_ne_eq_self [DecidableEq β] {key : α → β} {sought : β} {items : List α}
    (h : (items.find? fun item => key item = sought) = none) :
    (items.filter fun item => key item ≠ sought) = items := by
  rw [List.find?_eq_none] at h
  rw [List.filter_eq_self]
  intro item hitem
  simpa using h item hitem

/-- Where no key comes twice, an item is found under its key. -/
theorem find?_of_mem [DecidableEq β] {key : α → β} {item : α} {items : List α}
    (hkeys : (items.map key).Nodup) (hmem : item ∈ items) :
    (items.find? fun other => key other = key item) = some item := by
  cases hfound : items.find? fun other => key other = key item with
  | none => simpa using List.find?_eq_none.mp hfound item hmem
  | some found =>
    have hkey : key found = key item := by simpa using List.find?_some hfound
    rw [List.inj_on_of_nodup_map hkeys (List.mem_of_find?_eq_some hfound) hmem hkey]

/-- Where no key comes twice, a key is that of one item only. -/
theorem filter_eq_singleton [DecidableEq β] {key : α → β} {sought : β} {item : α}
    {items : List α} (hkeys : (items.map key).Nodup)
    (h : (items.find? fun other => key other = sought) = some item) :
    (items.filter fun other => key other = sought) = [item] := by
  obtain ⟨hitem, front, back, rfl, hfront⟩ := List.find?_eq_some_iff_append.mp h
  obtain rfl : key item = sought := by simpa using hitem
  rw [List.map_append, List.map_cons] at hkeys
  have hback : key item ∉ back.map key := (List.nodup_cons.mp hkeys.of_append_right).1
  have hfrontNone : (front.filter fun other => key other = key item) = [] := by
    simpa [List.filter_eq_nil_iff] using hfront
  have hbackNone : (back.filter fun other => key other = key item) = [] := by
    rw [List.filter_eq_nil_iff]
    intro other hother hsame
    exact hback (List.mem_map.mpr ⟨other, hother, of_decide_eq_true hsame⟩)
  rw [List.filter_append, hfrontNone, List.nil_append, List.filter_cons_of_pos (by simp),
    hbackNone]

/-- Where no key comes twice, to erase the first item of a key is to take all of them away. -/
theorem eraseP_eq_filter_ne [DecidableEq β] {key : α → β} {items : List α}
    (hkeys : (items.map key).Nodup) (sought : β) :
    (items.eraseP fun item => key item = sought) = items.filter fun item => key item ≠ sought := by
  induction items with
  | nil => rfl
  | cons item rest ih =>
    rw [List.map_cons, List.nodup_cons] at hkeys
    by_cases hkey : key item = sought
    · subst hkey
      rw [List.eraseP_cons_of_pos (by simp), List.filter_cons_of_neg (by simp), eq_comm,
        List.filter_eq_self]
      intro other hother
      have hne : key other ≠ key item := fun hsame => hkeys.1 (hsame ▸ List.mem_map_of_mem hother)
      simpa using hne
    · rw [List.eraseP_cons_of_neg (by simpa using hkey),
        List.filter_cons_of_pos (by simpa using hkey), ih hkeys.2]

/-- Items of another key may be taken away. -/
theorem find?_filter_ne [DecidableEq β] (key : α → β) {sought other : β} (hne : sought ≠ other)
    (items : List α) :
    (items.filter fun item => key item ≠ other).find? (fun item => key item = sought) =
      items.find? fun item => key item = sought := by
  have hsame : ∀ item,
      decide (decide (key item ≠ other) = true ∧ decide (key item = sought) = true) =
        decide (key item = sought) := by
    intro item
    by_cases hkey : key item = sought <;> simp [hkey, hne]
  rw [List.find?_filter]
  simp only [hsame]

/-- An item of a new key is found. -/
theorem find?_concat_self [DecidableEq β] {key : α → β} {item : α} {items : List α}
    (hnew : key item ∉ items.map key) :
    (items ++ [item]).find? (fun other => key other = key item) = some item := by
  have hnone : items.find? (fun other => key other = key item) = none := by
    rw [List.find?_eq_none]
    intro other hother hsame
    exact hnew (of_decide_eq_true hsame ▸ List.mem_map_of_mem hother)
  simp [List.find?_append, hnone]

/-- Under other keys than that of a new item the same is found as before. -/
theorem find?_concat_ne [DecidableEq β] {key : α → β} {item : α} {sought : β}
    (hne : sought ≠ key item) (items : List α) :
    (items ++ [item]).find? (fun other => key other = sought) =
      items.find? fun other => key other = sought := by
  simp [List.find?_append, hne.symm]

end DiagramStudio
