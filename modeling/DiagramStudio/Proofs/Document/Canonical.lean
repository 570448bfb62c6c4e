import DiagramStudio.Document.Reader
import Mathlib.Data.String.Basic

/-!
# Canonical values

A free-form value is canonical when the members of every object in it are sorted by key and no key
repeats. These are the values that reading brings about.

Results:
* `ascending_insertMember`: putting a member at its place keeps members sorted.
* `foldl_insertMember`: members that are sorted already stay as they are.
* `canonical_of_json`: whatever is read as a free-form value is canonical.
-/

namespace DiagramStudio

/-- A reading in two steps succeeds when both of them do. -/
theorem Read.bind_eq_ok {ε α β : Type} {first : Except ε α} {next : α → Except ε β} {result : β} :
    (first >>= next) = .ok result ↔ ∃ value, first = .ok value ∧ next value = .ok result := by
  cases first with
  | error reason => simp [bind, Except.bind]
  | ok value => simp [bind, Except.bind]

theorem Read.map_eq_ok {ε α β : Type} {read : Except ε α} {f : α → β} {result : β} :
    read.map f = .ok result ↔ ∃ value, read = .ok value ∧ f value = result := by
  cases read <;> simp [Except.map]

theorem Read.map_eq_error {ε α β : Type} {read : Except ε α} {f : α → β} {reason : ε} :
    read.map f = .error reason ↔ read = .error reason := by
  cases read <;> simp [Except.map]

/-- A reading in two steps fails when one of them does. -/
theorem Read.bind_eq_error {ε α β : Type} {first : Except ε α} {next : α → Except ε β}
    {reason : ε} : (first >>= next) = .error reason ↔
      first = .error reason ∨ ∃ value, first = .ok value ∧ next value = .error reason := by
  cases first with
  | error reason => simp [bind, Except.bind]
  | ok value => simp [bind, Except.bind]

theorem Read.ok_bind {α β : Type} (value : α) (next : α → Read β) :
    ((.ok value : Read α) >>= next) = next value := rfl

namespace Json

/-! ## Sorted members -/

section Members

variable {α : Type} {key : String} {value : α} {members : List (String × α)}

/-- Members sorted by key, no key twice. -/
def Ascending (members : List (String × α)) : Prop := (members.map Prod.fst).Pairwise (· < ·)

theorem mem_insertMember {member : String × α} (h : member ∈ insertMember key value members) :
    member = (key, value) ∨ member ∈ members := by
  induction members with
  | nil => exact .inl (List.mem_singleton.mp h)
  | cons first rest ih =>
    obtain ⟨k, v⟩ := first
    rw [insertMember] at h
    split_ifs at h
    · rcases List.mem_cons.mp h with rfl | hrest
      · exact .inl rfl
      · exact .inr (List.mem_cons_of_mem _ hrest)
    · exact List.mem_cons.mp h
    · rcases List.mem_cons.mp h with rfl | hrest
      · exact .inr List.mem_cons_self
      · exact (ih hrest).imp_right (List.mem_cons_of_mem _)

theorem ascending_insertMember (h : Ascending members) :
    Ascending (insertMember key value members) := by
  induction members with
  | nil => exact List.pairwise_singleton _ _
  | cons first rest ih =>
    obtain ⟨k, v⟩ := first
    obtain ⟨hbelow, hrest⟩ := List.pairwise_cons.mp h
    rw [insertMember]
    split_ifs with hsame hless
    · subst hsame
      exact List.pairwise_cons.mpr ⟨hbelow, hrest⟩
    · refine List.pairwise_cons.mpr ⟨fun other hother => ?_, h⟩
      rcases List.mem_cons.mp hother with rfl | hmem
      · exact hless
      · exact hless.trans (hbelow other hmem)
    · refine List.pairwise_cons.mpr ⟨fun other hother => ?_, ih hrest⟩
      obtain ⟨member, hmember, rfl⟩ := List.mem_map.mp hother
      rcases mem_insertMember hmember with rfl | hmem
      · exact lt_of_le_of_ne (not_lt.mp hless) (Ne.symm hsame)
      · exact hbelow _ (List.mem_map_of_mem hmem)

/-- A member above all others goes behind them. -/
theorem insertMember_eq_append (h : ∀ other ∈ members.map Prod.fst, other < key) :
    insertMember key value members = members ++ [(key, value)] := by
  induction members with
  | nil => rfl
  | cons first rest ih =>
    obtain ⟨k, v⟩ := first
    have hfirst : k < key := h k List.mem_cons_self
    rw [insertMember, if_neg hfirst.ne', if_neg hfirst.not_gt,
      ih fun other hother => h other (List.mem_cons_of_mem _ hother), List.cons_append]

/-- Members that are sorted already stay as they are, behind members that all lie below. -/
theorem foldl_insertMember_append {before : List (String × α)} (h : Ascending (before ++ members)) :
    members.foldl (fun sorted m => insertMember m.1 m.2 sorted) before = before ++ members := by
  induction members generalizing before with
  | nil => exact (List.append_nil before).symm
  | cons first rest ih =>
    have hbelow : ∀ other ∈ before.map Prod.fst, other < first.1 := by
      intro other hother
      rw [Ascending, List.map_append, List.pairwise_append] at h
      exact h.2.2 other hother first.1 List.mem_cons_self
    rw [List.foldl_cons, insertMember_eq_append hbelow, ih, List.append_assoc, List.singleton_append]
    rwa [List.append_assoc, List.singleton_append]

theorem foldl_insertMember (h : Ascending members) :
    members.foldl (fun sorted m => insertMember m.1 m.2 sorted) [] = members :=
  foldl_insertMember_append h

/-- What all members have, those have that are sorted. -/
theorem forall_foldl_insertMember {P : String × α → Prop} {sorted : List (String × α)}
    (hsorted : ∀ m ∈ sorted, P m) (h : ∀ m ∈ members, P m) :
    ∀ m ∈ members.foldl (fun sorted m => insertMember m.1 m.2 sorted) sorted, P m := by
  induction members generalizing sorted with
  | nil => exact hsorted
  | cons first rest ih =>
    refine ih (fun m hm => ?_) fun m hm => h m (List.mem_cons_of_mem _ hm)
    rcases mem_insertMember hm with rfl | hold
    · exact h _ List.mem_cons_self
    · exact hsorted m hold

theorem ascending_foldl_insertMember {sorted : List (String × α)}
    (hsorted : Ascending sorted) :
    Ascending (members.foldl (fun sorted m => insertMember m.1 m.2 sorted) sorted) := by
  induction members generalizing sorted with
  | nil => exact hsorted
  | cons first rest ih => exact ih (ascending_insertMember hsorted)

end Members

/-! ## Canonical values -/

/-- A value in which the members of every object are sorted by key and no key repeats. -/
inductive Canonical : Json → Prop
  | null : Canonical .null
  | bool (value : Bool) : Canonical (.bool value)
  | num (value : Number) : Canonical (.num value)
  | str (value : String) : Canonical (.str value)
  | arr {items : List Json} (inner : ∀ item ∈ items, Canonical item) : Canonical (.arr items)
  | obj {members : List (String × Json)} (sorted : Ascending members)
      (inner : ∀ member ∈ members, Canonical member.2) : Canonical (.obj members)

end Json

namespace Doc

open Json

/-! ## What is read is canonical -/

mutual

/-- Whatever is read as a free-form value is canonical. -/
theorem canonical_of_json {source : Source} {doc : Doc} {value : Json}
    (h : doc.json source = .ok value) : value.Canonical := by
  cases doc with
  | null =>
    cases h
    exact .null
  | bool b =>
    cases h
    exact .bool b
  | num n =>
    cases h
    exact .num n
  | str s =>
    cases h
    exact .str s
  | list items ending =>
    simp only [json, Read.bind_eq_ok] at h
    obtain ⟨inner, -, values, hvalues, -, -, hvalue⟩ := h
    cases hvalue
    exact .arr (canonical_of_jsonItems hvalues)
  | object members ending =>
    simp only [json, Read.bind_eq_ok] at h
    obtain ⟨inner, -, read, hread, -, -, hvalue⟩ := h
    cases hvalue
    refine .obj (ascending_foldl_insertMember List.Pairwise.nil) ?_
    exact forall_foldl_insertMember (fun _ hm => absurd hm List.not_mem_nil)
      (canonical_of_jsonMembers hread)
  | fault reason => cases h

theorem canonical_of_jsonItems {source : Source} {items : List Doc} {values : List Json}
    (h : jsonItems source items = .ok values) : ∀ value ∈ values, value.Canonical := by
  cases items with
  | nil =>
    cases h
    exact fun _ hvalue => absurd hvalue List.not_mem_nil
  | cons item rest =>
    simp only [jsonItems, Read.bind_eq_ok] at h
    obtain ⟨value, hvalue, others, hothers, hvalues⟩ := h
    cases hvalues
    intro one hone
    rcases List.mem_cons.mp hone with rfl | hmem
    · exact canonical_of_json hvalue
    · exact canonical_of_jsonItems hothers one hmem

theorem canonical_of_jsonMembers {source : Source} {members : List (Doc × Doc)}
    {values : List (String × Json)} (h : jsonMembers source members = .ok values) :
    ∀ member ∈ values, member.2.Canonical := by
  cases members with
  | nil =>
    cases h
    exact fun _ hmember => absurd hmember List.not_mem_nil
  | cons first rest =>
    obtain ⟨name, item⟩ := first
    simp only [jsonMembers, Read.bind_eq_ok] at h
    obtain ⟨key, -, value, hvalue, others, hothers, hvalues⟩ := h
    cases hvalues
    intro one hone
    rcases List.mem_cons.mp hone with rfl | hmem
    · exact canonical_of_json hvalue
    · exact canonical_of_jsonMembers hothers one hmem

end

end Doc

end DiagramStudio
