import DiagramStudio.Proofs.Diagram.Others
import DiagramStudio.Proofs.Diagram.Reread

/-!
# Changing one part of a document

A record stands in its document as the members of an object or as the items of a list. When one part
of the document is changed, the readings of both documents go side by side: they meet the same
fields in the same order, and they go apart only where the changed part is read.

Results:
* `Shape.readMembers_rel`, `Shape.readItems_rel`: two readings that go side by side.
* `Shape.read_changePart`: a document is read if and only if the changed one is, provided that this
  is so for the part, and the records are related as their parts are.
* `Shape.part_of_read`: what is read from a part of the document, the record has there.
* `Doc.isOk_readList_iff`: a list is read if and only if each of its items is.
-/

namespace DiagramStudio

/-! ## Readings side by side -/

theorem Read.isOk_iff {α : Type} {read : Read α} :
    read.isOk = true ↔ ∃ value, read = .ok value := by
  cases read with
  | error reason => exact ⟨nofun, nofun⟩
  | ok value => exact ⟨fun _ => ⟨value, rfl⟩, fun _ => rfl⟩

/-- Two readings that both fail, or that both succeed with results that are related. -/
inductive Read.Rel {α β : Type} (R : α → β → Prop) : Read α → Read β → Prop
  | ok {value : α} {other : β} (h : R value other) : Read.Rel R (.ok value) (.ok other)
  | error (reason other : ReadError) : Read.Rel R (.error reason) (.error other)

namespace Read.Rel

variable {α β γ δ ι κ : Type} {R : α → β → Prop} {T : γ → δ → Prop} {read : Read α}
  {other : Read β}

theorem bind {next : α → Read γ} {nextOther : β → Read δ} (h : Rel R read other)
    (hnext : ∀ value changed, R value changed → Rel T (next value) (nextOther changed)) :
    Rel T (read >>= next) (other >>= nextOther) := by
  cases h with
  | ok h => exact hnext _ _ h
  | error reason changed => exact .error reason changed

theorem isOk_eq (h : Rel R read other) : read.isOk = other.isOk := by
  cases h <;> rfl

/-- What is known of the results may be used to relate them. -/
theorem imp {S : α → β → Prop} (h : Rel R read other)
    (himp : ∀ value changed, read = .ok value → other = .ok changed → R value changed →
      S value changed) : Rel S read other := by
  cases h with
  | ok h => exact .ok (himp _ _ rfl rfl h)
  | error reason changed => exact .error reason changed

theorem of_ok {value : α} {changed : β} (h : Rel R read other) (hread : read = .ok value)
    (hother : other = .ok changed) : R value changed := by
  subst hread hother
  cases h with
  | ok h => exact h

theorem refl {R : α → α → Prop} (h : ∀ value, R value value) (read : Read α) : Rel R read read := by
  cases read with
  | error reason => exact .error reason reason
  | ok value => exact .ok (h value)

end Read.Rel

/-! ## Parts of documents -/

namespace Json

/-- The part of a record's document that shows one field: the member of that name, or the item at
that place. -/
def part? (name : String) (place : Nat) : Json → Option Json
  | .obj members => findMember? name members
  | .arr items => items[place]?
  | _ => none

/-- The document with that part changed, if it has one. -/
def changePart (name : String) (place : Nat) (change : Json → Json) : Json → Json
  | .obj members =>
    .obj (members.map fun member =>
      (member.1, if member.1 = name then change member.2 else member.2))
  | .arr items => .arr (items.modify place change)
  | value => value

variable {name : String} {place : Nat} {change : Json → Json} {value part : Json}
  {members : List (String × Json)}

theorem docs_eq_map (items : List Json) : docs items = items.map doc := by
  induction items with
  | nil => rfl
  | cons item items ih => rw [docs, ih, List.map_cons]

theorem mem_of_findMember? (h : findMember? name members = some value) :
    (name, value) ∈ members := by
  induction members with
  | nil => cases h
  | cons first rest ih =>
    rw [findMember?] at h
    split_ifs at h with hsame
    · cases h
      subst hsame
      exact List.mem_cons_self
    · exact List.mem_cons_of_mem _ (ih h)

theorem ne_of_findMember?_eq_none (h : findMember? name members = none) :
    ∀ member ∈ members, member.1 ≠ name := by
  induction members with
  | nil => simp
  | cons first rest ih =>
    rw [findMember?] at h
    split_ifs at h with hsame
    exact List.forall_mem_cons.mpr ⟨Ne.symm hsame, ih h⟩

/-- A member can be taken out and put behind the others. -/
theorem perm_of_findMember? (hnodup : (members.map Prod.fst).Nodup)
    (h : findMember? name members = some value) :
    members.Perm (members.filter (·.1 ≠ name) ++ [(name, value)]) := by
  induction members with
  | nil => cases h
  | cons first rest ih =>
    rw [List.map_cons, List.nodup_cons] at hnodup
    obtain ⟨key, old⟩ := first
    rw [findMember?] at h
    split_ifs at h with hsame
    · cases h
      subst hsame
      have hrest : rest.filter (·.1 ≠ name) = rest := by
        refine List.filter_eq_self.mpr fun member hmem => decide_eq_true fun hsame => ?_
        exact hnodup.1 (List.mem_map.mpr ⟨member, hmem, hsame⟩)
      rw [List.filter_cons_of_neg (by simp), hrest]
      exact (List.perm_append_singleton _ _).symm
    · rw [List.filter_cons_of_pos (by simpa using Ne.symm hsame), List.cons_append]
      exact (ih hnodup.2 h).cons _

theorem findMember?_of_mem (hnodup : (members.map Prod.fst).Nodup) (h : (name, value) ∈ members) :
    findMember? name members = some value := by
  induction members with
  | nil => cases h
  | cons first rest ih =>
    rw [List.map_cons, List.nodup_cons] at hnodup
    rw [findMember?]
    rcases List.mem_cons.mp h with rfl | hrest
    · exact if_pos rfl
    · rw [if_neg, ih hnodup.2 hrest]
      rintro rfl
      exact hnodup.1 (List.mem_map.mpr ⟨_, hrest, rfl⟩)

/-- Whether the members of a document have different names. -/
def Distinct : Json → Prop
  | .obj members => (members.map Prod.fst).Nodup
  | _ => True

theorem Canonical.distinct (h : value.Canonical) : value.Distinct := by
  cases h with
  | obj hsorted _ => exact hsorted.imp ne_of_lt
  | _ => trivial

theorem Canonical.of_part? (h : value.Canonical) (hpart : value.part? name place = some part) :
    part.Canonical := by
  cases h with
  | arr hinner => exact hinner _ (List.mem_of_getElem? hpart)
  | obj _ hinner => exact hinner _ (mem_of_findMember? hpart)
  | _ => cases hpart

theorem Distinct.changePart (h : value.Distinct) :
    (value.changePart name place change).Distinct := by
  cases value with
  | obj members =>
    rw [Json.changePart, Distinct, List.map_map]
    exact h
  | _ => trivial

theorem part?_changePart :
    (value.changePart name place change).part? name place =
      (value.part? name place).map change := by
  cases value with
  | obj members =>
    rw [changePart, part?, part?]
    induction members with
    | nil => rfl
    | cons member members ih =>
      rw [List.map_cons, findMember?, findMember?, ih]
      by_cases hsame : name = member.1
      · rw [if_pos hsame, if_pos hsame, if_pos hsame.symm, Option.map_some]
      · rw [if_neg hsame, if_neg hsame]
  | arr items => simp [changePart, part?]
  | _ => rfl

/-- A document without that part stays as it is. -/
theorem changePart_eq_self (h : value.part? name place = none) :
    value.changePart name place change = value := by
  cases value with
  | obj members =>
    have hmember := ne_of_findMember?_eq_none h
    rw [changePart, List.map_congr_left fun member hmem => by rw [if_neg (hmember member hmem)],
      List.map_id']
  | arr items => rw [changePart, List.modify_eq_self (List.getElem?_eq_none_iff.mp h)]
  | _ => rfl

end Json

/-! ## Records -/

namespace Field

/-- The field is read from both documents or from neither, and related records stay related. -/
def Agrees {α : Type} (field : Field α) (R : α → α → Prop) (doc other : Doc) : Prop :=
  ∀ record changed, R record changed →
    Read.Rel R (field.read .value doc record) (field.read .value other changed)

section

variable {α β : Type} {field : Field α} {R : α → α → Prop} {read : Source → Doc → Read β}
  {set : β → α → α} {doc other : Doc}
  (hfield : field.read = fun source doc record => (read source doc).map (set · record))
include hfield

/-- A field agrees with itself if related records stay related when the same value is set. -/
theorem agrees_self (hset : ∀ value record changed, R record changed →
    R (set value record) (set value changed)) (doc : Doc) : field.Agrees R doc doc := by
  intro record changed h
  simp only [hfield]
  cases read .value doc with
  | error reason => exact .error reason reason
  | ok value => exact .ok (hset value record changed h)

/-- A field agrees on two documents if both of them are read or neither is, and related records stay
related whatever is set. -/
theorem agrees_of_isOk (hset : ∀ value other record changed, R record changed →
    R (set value record) (set other changed))
    (hok : (read .value doc).isOk = (read .value other).isOk) : field.Agrees R doc other := by
  intro record changed h
  simp only [hfield]
  cases hread : read .value doc with
  | error reason =>
    cases hother : read .value other with
    | error second => exact .error reason second
    | ok value =>
      rw [hread, hother] at hok
      cases hok
  | ok value =>
    cases hother : read .value other with
    | error second =>
      rw [hread, hother] at hok
      cases hok
    | ok second => exact .ok (hset value second record changed h)

end

end Field

namespace Shape

variable {α : Type} {shape : Shape α} {R : α → α → Prop} {record changed : α}

theorem readMember_rel {key : String} {doc other : Doc} {seen : List String}
    (hfield : ∀ field, shape.field? key = some field → field.Agrees R doc other)
    (hskip : shape.field? key = none → doc = other) (h : R record changed) :
    Read.Rel (fun state next => R state.1 next.1 ∧ state.2 = next.2)
      (shape.readMember skipOthers .value (record, seen) (.str key, doc))
      (shape.readMember skipOthers .value (changed, seen) (.str key, other)) := by
  have hfind : shape.fields.find? (·.name = key) = shape.field? key := rfl
  have hname : (Doc.str key).key = .ok key := rfl
  simp only [readMember, hname, Read.ok_bind, hfind]
  cases hkey : shape.field? key with
  | none =>
    obtain rfl := hskip hkey
    cases hdoc : doc.skip with
    | error reason =>
      simp only [skipOthers, hdoc]
      exact .error _ _
    | ok =>
      simp only [skipOthers, hdoc]
      exact .ok ⟨h, rfl⟩
  | some field =>
    by_cases hseen : key ∈ seen
    · simp only [if_pos hseen]
      exact .error _ _
    · simp only [if_neg hseen]
      exact (hfield field hkey record changed h).bind fun _ _ hnext => .ok ⟨hnext, rfl⟩

/-- Whether two members have the same name and values with which related records stay related. -/
structure MembersAgree (shape : Shape α) (R : α → α → Prop) (member other : String × Json) :
    Prop where
  name : member.1 = other.1
  field : ∀ field, shape.field? member.1 = some field →
    field.Agrees R member.2.doc other.2.doc
  other : shape.field? member.1 = none → member.2.doc = other.2.doc

theorem readMembers_rel {members others : List (String × Json)}
    (hmembers : List.Forall₂ (shape.MembersAgree R) members others)
    (h : R shape.blank shape.blank) :
    Read.Rel R (shape.readMembers skipOthers .value (Json.memberDocs members) .closed)
      (shape.readMembers skipOthers .value (Json.memberDocs others) .closed) := by
  have hfold (record changed : α) (seen : List String) (h : R record changed) :
      Read.Rel (fun state next => R state.1 next.1 ∧ state.2 = next.2)
        ((Json.memberDocs members).foldlM (shape.readMember skipOthers .value) (record, seen))
        ((Json.memberDocs others).foldlM (shape.readMember skipOthers .value) (changed, seen)) := by
    induction hmembers generalizing record changed seen with
    | nil => exact .ok ⟨h, rfl⟩
    | @cons member other members others hone _ ih =>
      obtain ⟨key, value⟩ := member
      obtain ⟨name, item⟩ := other
      obtain ⟨rfl, hfield, hskip⟩ := hone
      rw [Json.memberDocs, Json.memberDocs, List.foldlM_cons, List.foldlM_cons]
      refine (readMember_rel hfield hskip h).bind ?_
      rintro ⟨next, nextSeen⟩ ⟨nextChanged, -⟩ ⟨hnext, rfl⟩
      exact ih next nextChanged nextSeen hnext
  refine (hfold shape.blank shape.blank [] h).bind ?_
  rintro ⟨record, seen⟩ ⟨changed, -⟩ ⟨h, rfl⟩
  simp only [Ending.readObject, Read.ok_bind]
  cases shape.checkMissing seen with
  | error reason => exact .error _ _
  | ok => exact .ok h

theorem readItems_rel {fields : List (Field α)} {docs others : List Doc} {count : Nat}
    (hlength : docs.length = others.length)
    (hfields : ∀ (place : Nat) (field : Field α) (doc other : Doc), fields[place]? = some field →
      docs[place]? = some doc → others[place]? = some other → field.Agrees R doc other)
    (h : R record changed) :
    Read.Rel R (shape.readItems .value .closed count record fields docs)
      (shape.readItems .value .closed count changed fields others) := by
  induction fields generalizing docs others count record changed with
  | nil =>
    cases docs with
    | nil =>
      obtain rfl := List.length_eq_zero_iff.mp hlength.symm
      exact .ok h
    | cons doc docs =>
      cases others with
      | nil => cases hlength
      | cons other others => exact .error _ _
  | cons field fields ih =>
    cases docs with
    | nil =>
      obtain rfl := List.length_eq_zero_iff.mp hlength.symm
      simp only [readItems, Ending.readList, Read.ok_bind]
      split
      · exact ih rfl (fun place => hfields (place + 1)) h
      · exact .error _ _
    | cons doc docs =>
      cases others with
      | nil => cases hlength
      | cons other others =>
        rw [readItems, readItems]
        refine (hfields 0 field doc other rfl rfl rfl record changed h).bind fun _ _ hnext => ?_
        exact ih (Nat.succ.inj hlength) (fun place => hfields (place + 1)) hnext

/-- Whether the only field of that name stands at that place among the fields of the shape. -/
structure HasField (shape : Shape α) (name : String) (place : Nat) : Prop where
  nodup : (shape.fields.map (·.name)).Nodup
  placed : (shape.fields.map (·.name))[place]? = some name

variable {name : String} {place : Nat}

theorem HasField.name_iff (h : shape.HasField name place) {i : Nat} {field : Field α}
    (hfield : shape.fields[i]? = some field) : field.name = name ↔ i = place := by
  have hname : (shape.fields.map (·.name))[i]? = some field.name := by
    rw [List.getElem?_map, hfield, Option.map_some]
  refine ⟨fun hsame => ?_, fun hsame => ?_⟩
  · have hlt : i < (shape.fields.map (·.name)).length := (List.getElem?_eq_some_iff.mp hname).1
    exact (List.getElem?_inj hlt h.nodup).mp (by rw [hname, h.placed, hsame])
  · rw [hsame, h.placed] at hname
    exact (Option.some.inj hname).symm

theorem HasField.getElem?_fields (h : shape.HasField name place) {field : Field α}
    (hfield : shape.field? name = some field) : shape.fields[place]? = some field := by
  obtain ⟨i, hi⟩ := List.mem_iff_getElem?.mp (mem_of_field? hfield)
  rwa [← (h.name_iff hi).mp (name_of_field? hfield)]

variable {change : Json → Json} {value : Json}

/-- When one part of a document is changed, the document is read if and only if the changed one is,
provided that this is so for the part. What holds between the records however their fields are read
holds in the end. -/
theorem read_changePart {β : Type} (readPart : Source → Doc → Read β) (set : β → α → α)
    (hdistinct : value.Distinct) (hname : shape.HasField name place)
    (hfield : (shape.field? name).map (·.read) =
      some fun source doc record => (readPart source doc).map (set · record))
    (hblank : R shape.blank shape.blank)
    (hset : ∀ value other record changed, R record changed →
      R (set value record) (set other changed))
    (hsame : ∀ field ∈ shape.fields, ∀ doc, field.Agrees R doc doc)
    (hchange : ∀ part, value.part? name place = some part →
      (readPart .value part.doc).isOk = (readPart .value (change part).doc).isOk) :
    Read.Rel R (shape.read .value value.doc)
      (shape.read .value (value.changePart name place change).doc) := by
  obtain ⟨named, hnamed, hread⟩ := Option.map_eq_some_iff.mp hfield
  have hagrees (part : Json) (hpart : value.part? name place = some part) :
      named.Agrees R part.doc (change part).doc :=
    Field.agrees_of_isOk hread hset (hchange part hpart)
  cases value with
  | obj members =>
    simp only [Json.changePart, Json.doc, read, Source.enter, Read.ok_bind]
    refine readMembers_rel ?_ hblank
    rw [List.forall₂_map_right_iff, List.forall₂_same]
    rintro ⟨key, part⟩ hmember
    by_cases hkey : key = name
    · subst hkey
      have hpart : (Json.obj members).part? key place = some part :=
        Json.findMember?_of_mem hdistinct hmember
      refine ⟨rfl, fun field hfield => ?_, fun hnone => ?_⟩
      · obtain rfl := Option.some.inj (hnamed.symm.trans hfield)
        rw [if_pos rfl]
        exact hagrees part hpart
      · rw [hnamed] at hnone
        cases hnone
    · refine ⟨rfl, fun field hfield => ?_, fun _ => ?_⟩
      · rw [if_neg hkey]
        exact hsame field (mem_of_field? hfield) part.doc
      · rw [if_neg hkey]
  | arr items =>
    simp only [Json.changePart, Json.doc, read, Source.enter, Read.ok_bind]
    refine readItems_rel ?_ ?_ hblank
    · simp only [Json.docs_eq_map, List.length_map, List.length_modify]
    · intro i field doc other hfield hdoc hother
      simp only [Json.docs_eq_map, List.getElem?_map, List.getElem?_modify] at hdoc hother
      obtain ⟨item, hitem, rfl⟩ := Option.map_eq_some_iff.mp hdoc
      rw [hitem, Option.map_eq_map, Option.map_some, Option.map_some] at hother
      by_cases hplace : place = i
      · subst hplace
        rw [if_pos rfl] at hother
        cases hother
        rw [hname.getElem?_fields hnamed] at hfield
        cases hfield
        exact hagrees item hitem
      · rw [if_neg hplace] at hother
        cases hother
        exact hsame field (List.mem_of_getElem? hfield) item.doc
  | _ => exact .error _ _

/-! ## What a part shows -/

section Part

variable {β : Type} {get : α → β} {set : β → α → α} {readPart : Source → Doc → Read β}
  (hget : ∀ value record, get (set value record) = value)
include hget

/-- What is read from one item of a list, the record has in the end, if no other one changes it. -/
theorem part_of_readItems {fields : List (Field α)} {field : Field α} {docs : List Doc} {doc : Doc}
    {start : α} {count i : Nat} (hfield : fields[i]? = some field)
    (hread : field.read = fun source doc record => (readPart source doc).map (set · record))
    (hothers : ∀ j other, fields[j]? = some other → j ≠ i →
      ∀ value, other.Keeps fun record => get record = value)
    (h : shape.readItems .value .closed count start fields docs = .ok record)
    (hdoc : docs[i]? = some doc) : readPart .value doc = .ok (get record) := by
  induction fields generalizing docs start count i with
  | nil => cases hfield
  | cons first fields ih =>
    cases docs with
    | nil => cases hdoc
    | cons item docs =>
      rw [readItems, Read.bind_eq_ok] at h
      obtain ⟨next, hnext, hrest⟩ := h
      cases i with
      | zero =>
        cases hfield
        cases hdoc
        rw [hread, Read.map_eq_ok] at hnext
        obtain ⟨value, hvalue, rfl⟩ := hnext
        rw [hvalue]
        refine congrArg Except.ok (readItems_keeps (P := fun record => get record = value)
          (hget value start) (fun other hother => ?_) hrest).symm
        obtain ⟨j, hj⟩ := List.mem_iff_getElem?.mp hother
        exact hothers (j + 1) other hj (Nat.succ_ne_zero j) value
      | succ i =>
        exact ih hfield (fun j other hother hne => hothers (j + 1) other hother
          (mt Nat.succ.inj hne)) hrest hdoc

/-- What is read from a part of the document, the record has there. -/
theorem part_of_read (hdistinct : value.Distinct) (hname : shape.HasField name place)
    (hcommutes : shape.Commutes skipOthers) (hset : shape.SetBy name get)
    (hfield : (shape.field? name).map (·.read) =
      some fun source doc record => (readPart source doc).map (set · record))
    (h : shape.read .value value.doc = .ok record) {part : Json}
    (hpart : value.part? name place = some part) : readPart .value part.doc = .ok (get record) := by
  obtain ⟨field, hfound, hread⟩ := Option.map_eq_some_iff.mp hfield
  cases value with
  | obj members =>
    have htaken := taken_of_read hcommutes hdistinct (List.Perm.refl _) h
    have hnodup : (members.map Prod.fst).Nodup := hdistinct
    obtain ⟨front, back, rfl⟩ := List.append_of_mem (Json.mem_of_findMember? hpart)
    rw [List.foldlM_append, Read.bind_eq_ok] at htaken
    obtain ⟨before, -, htaken⟩ := htaken
    rw [List.foldlM_cons, Read.bind_eq_ok] at htaken
    obtain ⟨next, hnext, htaken⟩ := htaken
    simp only [takeMember, hfound, hread, Read.map_eq_ok] at hnext
    obtain ⟨shown, hshown, rfl⟩ := hnext
    -- No member behind the part has its name, so none of them changes what was read from it.
    have hkept := yields_keep [name] (hset.keeps (· = shown)) (notMem_behind hnodup)
      (hget shown before)
    have halike : Json.AlikeMembers back back :=
      List.forall₂_same.mpr fun member _ => ⟨rfl, Json.Alike.refl member.2⟩
    rw [hshown, hkept halike record htaken]
  | arr items =>
    simp only [Json.doc, read, Source.enter, Read.ok_bind] at h
    refine part_of_readItems hget (hname.getElem?_fields hfound) hread
      (fun i other hother hne => ?_) h ?_
    · exact (hset other (List.mem_of_getElem? hother)).resolve_left
        fun hsame => hne ((hname.name_iff hother).mp hsame)
    · have hitem : items[place]? = some part := hpart
      rw [Json.docs_eq_map, List.getElem?_map, hitem, Option.map_some]
  | _ => cases hpart

end Part

end Shape

/-! ## Lists -/

namespace Doc

variable {β : Type} {read : Source → Doc → Read β} {items : List Json}

/-- A list is read if and only if each of its items is. -/
theorem isOk_readList_iff : (readList read .value (Json.arr items).doc).isOk = true ↔
    ∀ item ∈ items, (read .value item.doc).isOk = true := by
  have hitems : (∃ values, List.Forall₂ (fun item value => read .value item.doc = .ok value) items
      values) ↔ ∀ item ∈ items, (read .value item.doc).isOk = true := by
    induction items with
    | nil => exact ⟨fun _ item hitem => absurd hitem List.not_mem_nil, fun _ => ⟨[], .nil⟩⟩
    | cons item items ih =>
      rw [List.forall_mem_cons, ← ih, Read.isOk_iff]
      constructor
      · rintro ⟨values, hvalues⟩
        obtain ⟨first, rest, hfirst, hrest, rfl⟩ := List.forall₂_cons_left_iff.mp hvalues
        exact ⟨⟨first, hfirst⟩, rest, hrest⟩
      · rintro ⟨⟨first, hfirst⟩, rest, hrest⟩
        exact ⟨first :: rest, .cons hfirst hrest⟩
  rw [← hitems, Read.isOk_iff]
  simp only [readList_arr_iff]

end Doc

end DiagramStudio
