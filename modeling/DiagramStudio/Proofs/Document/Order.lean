import DiagramStudio.Proofs.Document.Canonical
import Mathlib.Data.List.Forall2
import Mathlib.Data.List.Nodup
import Mathlib.Data.List.Perm.Basic

/-!
# The order of members

The members of an object may stand in any order: values are alike when they differ in nothing else.
A free-form value is read in the same way from all values that are alike, because members find their
place by their keys.

Results:
* `insertMember_comm`: members with different keys can be put at their places in any order.
* `Alike.refl`: every value is like itself.
* `Doc.json_of_alike`: a canonical value is read back from everything that is like it.
-/

namespace DiagramStudio

/-- What follows from a relation for the items of a list follows for the whole list. -/
theorem forall₂_imp_of_mem {α β : Type} {R S : α → β → Prop} {items : List α} {others : List β}
    (h : List.Forall₂ R items others) (himp : ∀ item ∈ items, ∀ other, R item other → S item other) :
    List.Forall₂ S items others := by
  induction h with
  | nil => exact .nil
  | cons hone _ ih =>
    rw [List.forall_mem_cons] at himp
    exact .cons (himp.1 _ hone) (ih himp.2)

namespace Json

/-! ## Members in any order -/

section Members

variable {α : Type} {key other : String} {value changed : α} {members : List (String × α)}

theorem insertMember_of_lt (h : key < other) :
    insertMember key value ((other, changed) :: members) =
      (key, value) :: (other, changed) :: members := by
  rw [insertMember, if_neg h.ne, if_pos h]

theorem insertMember_self :
    insertMember key value ((key, changed) :: members) = (key, value) :: members := by
  rw [insertMember, if_pos rfl]

theorem insertMember_of_gt (h : other < key) :
    insertMember key value ((other, changed) :: members) =
      (other, changed) :: insertMember key value members := by
  rw [insertMember, if_neg h.ne', if_neg h.not_gt]

/-- Members with different keys can be put at their places in any order. -/
theorem insertMember_comm (hne : key ≠ other) (members : List (String × α)) :
    insertMember key value (insertMember other changed members) =
      insertMember other changed (insertMember key value members) := by
  wlog hless : key < other generalizing key other value changed
  · exact (this hne.symm ((lt_or_gt_of_ne hne).resolve_left hless)).symm
  induction members with
  | nil =>
    simp only [insertMember]
    rw [if_neg hne, if_pos hless, if_neg hne.symm, if_neg hless.not_gt]
  | cons first rest ih =>
    obtain ⟨name, old⟩ := first
    rcases lt_trichotomy name key with hbelow | rfl | habove
    · -- Both go behind the first member.
      rw [insertMember_of_gt (hbelow.trans hless), insertMember_of_gt hbelow,
        insertMember_of_gt hbelow, insertMember_of_gt (hbelow.trans hless), ih]
    · rw [insertMember_of_gt hless, insertMember_self, insertMember_self,
        insertMember_of_gt hless]
    · -- The smaller one goes before it, wherever the greater one goes.
      rw [insertMember_of_lt habove, insertMember_of_gt hless]
      rcases lt_trichotomy other name with hbefore | rfl | hbehind
      · rw [insertMember_of_lt hbefore, insertMember_of_lt hless]
      · rw [insertMember_self, insertMember_of_lt hless]
      · rw [insertMember_of_gt hbehind, insertMember_of_lt habove]

/-- The place of members does not depend on the order in which they come. -/
theorem foldl_insertMember_perm {permuted : List (String × α)} (h : members.Perm permuted)
    (hnodup : (members.map Prod.fst).Nodup) (sorted : List (String × α)) :
    members.foldl (fun sorted m => insertMember m.1 m.2 sorted) sorted =
      permuted.foldl (fun sorted m => insertMember m.1 m.2 sorted) sorted := by
  refine h.foldl_eq' (fun one hone two htwo sorted => ?_) sorted
  by_cases hkey : one.1 = two.1
  · rw [List.inj_on_of_nodup_map hnodup hone htwo hkey]
  · exact insertMember_comm (Ne.symm hkey) sorted

end Members

/-! ## Values that are alike -/

/-- Values that differ at most in the order in which the members of objects stand. -/
inductive Alike : Json → Json → Prop
  | null : Alike .null .null
  | bool (value : Bool) : Alike (.bool value) (.bool value)
  | num (value : Number) : Alike (.num value) (.num value)
  | str (value : String) : Alike (.str value) (.str value)
  | arr {items others : List Json} (inner : List.Forall₂ Alike items others) :
      Alike (.arr items) (.arr others)
  | obj {members changed others : List (String × Json)}
      (names : members.map Prod.fst = changed.map Prod.fst)
      (inner : List.Forall₂ Alike (members.map Prod.snd) (changed.map Prod.snd))
      (order : changed.Perm others) : Alike (.obj members) (.obj others)

/-- Members in the same order, with the same names and values that are alike. -/
def AlikeMembers (members others : List (String × Json)) : Prop :=
  List.Forall₂ (fun one other => one.1 = other.1 ∧ one.2.Alike other.2) members others

theorem alikeMembers_iff {members others : List (String × Json)} :
    AlikeMembers members others ↔ members.map Prod.fst = others.map Prod.fst ∧
      List.Forall₂ Alike (members.map Prod.snd) (others.map Prod.snd) := by
  induction members generalizing others with
  | nil => cases others <;> simp [AlikeMembers]
  | cons one rest ih =>
    cases others with
    | nil => simp [AlikeMembers]
    | cons other others =>
      have hrest := @ih others
      simp only [AlikeMembers] at hrest ⊢
      simp only [List.forall₂_cons, hrest, List.map_cons, List.cons.injEq]
      tauto

theorem Alike.refl (value : Json) : Alike value value := by
  match value with
  | .null => exact .null
  | .bool b => exact .bool b
  | .num n => exact .num n
  | .str s => exact .str s
  | .arr items => exact .arr (List.forall₂_same.mpr fun item hitem => refl item)
  | .obj members =>
    refine .obj rfl (List.forall₂_map_left_iff.mpr (List.forall₂_map_right_iff.mpr ?_))
      (List.Perm.refl _)
    refine List.forall₂_same.mpr ?_
    rintro ⟨name, inner⟩ hmember
    have hless : sizeOf inner < 1 + sizeOf members := by
      have hmem := List.sizeOf_lt_of_mem hmember
      rw [Prod.mk.sizeOf_spec] at hmem
      omega
    exact refl inner

/-- What is like an object is an object. -/
theorem Alike.exists_of_obj {members : List (String × Json)} {value : Json}
    (h : Alike (.obj members) value) :
    ∃ changed others, value = .obj others ∧ AlikeMembers members changed ∧ changed.Perm others := by
  cases h with
  | obj names inner order => exact ⟨_, _, rfl, alikeMembers_iff.mpr ⟨names, inner⟩, order⟩

/-- What is like the members of two parts has two such parts. -/
theorem AlikeMembers.exists_append {members rest others : List (String × Json)}
    (h : AlikeMembers (members ++ rest) others) :
    ∃ first second, others = first ++ second ∧ AlikeMembers members first ∧
      AlikeMembers rest second := by
  induction members generalizing others with
  | nil => exact ⟨[], others, rfl, .nil, h⟩
  | cons one members ih =>
    obtain ⟨other, others, hone, hothers, rfl⟩ := List.forall₂_cons_left_iff.mp h
    obtain ⟨first, second, rfl, hfirst, hsecond⟩ := ih hothers
    exact ⟨other :: first, second, rfl, .cons hone hfirst, hsecond⟩

theorem AlikeMembers.names_eq {members others : List (String × Json)}
    (h : AlikeMembers members others) : members.map Prod.fst = others.map Prod.fst :=
  (alikeMembers_iff.mp h).1

/-- What is like a list is a list. -/
theorem Alike.exists_of_arr {items : List Json} {value : Json} (h : Alike (.arr items) value) :
    ∃ others, value = .arr others ∧ List.Forall₂ Alike items others := by
  cases h with
  | arr inner => exact ⟨_, rfl, inner⟩

end Json

namespace Doc

open Json

/-! ## What is canonical is read back -/

theorem jsonItems_docs {items others : List Json}
    (h : List.Forall₂ (fun item other => other.doc.json .value = .ok item) items others) :
    jsonItems .value (docs others) = .ok items := by
  induction h with
  | nil => rfl
  | cons hread _ ih =>
    rw [docs, jsonItems, hread, ih]
    rfl

theorem jsonMembers_memberDocs {members others : List (String × Json)}
    (h : List.Forall₂ (fun member other => member.1 = other.1 ∧
      other.2.doc.json .value = .ok member.2) members others) :
    jsonMembers .value (memberDocs others) = .ok members := by
  induction h with
  | nil => rfl
  | @cons member other _ _ hread _ ih =>
    obtain ⟨name, value⟩ := member
    obtain ⟨key, item⟩ := other
    obtain ⟨rfl, hread⟩ := hread
    rw [memberDocs, jsonMembers, hread, ih]
    rfl

/-- A canonical value is read back from everything that is like it. -/
theorem json_of_alike {value other : Json} (h : value.Canonical) (halike : value.Alike other) :
    other.doc.json .value = .ok value := by
  induction h generalizing other with
  | null | bool _ | num _ | str _ =>
    cases halike
    rfl
  | @arr items _ ih =>
    obtain ⟨others, rfl, hinner⟩ := halike.exists_of_arr
    have hread : List.Forall₂ (fun item other => other.doc.json .value = .ok item) items others :=
      forall₂_imp_of_mem hinner fun item hitem _ => ih item hitem
    simp only [Json.doc, json, Read.bind_eq_ok]
    exact ⟨.value, rfl, _, jsonItems_docs hread, (), rfl, rfl⟩
  | @obj members hsorted _ ih =>
    obtain ⟨changed, others, rfl, hinner, horder⟩ := halike.exists_of_obj
    have hread : List.Forall₂ (fun member other => member.1 = other.1 ∧
        other.2.doc.json .value = .ok member.2) members changed :=
      forall₂_imp_of_mem hinner fun member hmember _ h => ⟨h.1, ih member hmember h.2⟩
    -- The values are read in the order in which they stand, and sorted then.
    obtain ⟨values, hvalues, hsame⟩ := List.perm_comp_forall₂ horder.symm hread.flip
    have hplaced := foldl_insertMember_perm hsame.symm (hsorted.imp ne_of_lt) []
    simp only [Json.doc, json, Read.bind_eq_ok]
    refine ⟨.value, rfl, _, jsonMembers_memberDocs hvalues.flip, (), rfl, ?_⟩
    rw [← hplaced, foldl_insertMember hsorted]
    rfl

end Doc

end DiagramStudio
