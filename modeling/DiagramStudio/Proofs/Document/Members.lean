import DiagramStudio.Proofs.Document.Order
import DiagramStudio.Proofs.Document.Record
import Mathlib.Data.List.Pairwise

/-!
# Reading what was written

A record that is written as the members of an object is read back from them, if each member says of
its field what the record has there. It does not matter in which order the members stand, as long
as the fields of the shape can be set in any order.

Results:
* `Shape.Commutes.foldlM_perm`: members can be taken in any order.
* `Shape.commutes_skip`, `Shape.commutes_keep`: the shapes for which this is so.
* `Shape.Takes.read`, `Shape.Takes.readOpen`: a record is read back from its members.
* `Doc.readList_arr_iff`: a list is read item by item.
* `Doc.readList_docs`: a list is read back from its items.
-/

namespace DiagramStudio

/-- Two steps of a reading commute if, whichever comes first, they succeed in the same cases and with
the same result. -/
def Read.Commute {α : Type} (step other : α → Read α) : Prop :=
  ∀ before after, (step before >>= other) = .ok after ↔ (other before >>= step) = .ok after

theorem Read.Commute.symm {α : Type} {step other : α → Read α} (h : Read.Commute step other) :
    Read.Commute other step :=
  fun before after => (h before after).symm

/-- What is read, whatever the record is, can be set in any order, if it is set in different
places. -/
theorem Read.commute_map {α β γ : Type} {set : β → α → α} {setOther : γ → α → α}
    (h : ∀ value other record,
      setOther other (set value record) = set value (setOther other record))
    (value : Read β) (other : Read γ) :
    Read.Commute (fun record => value.map (set · record))
      (fun record => other.map (setOther · record)) := by
  intro before after
  cases value with
  | error reason => cases other <;> simp [Except.map, bind, Except.bind]
  | ok value => cases other <;> simp [Except.map, bind, Except.bind, h]

/-- Fields that can be read in any order. -/
def Field.Apart {α : Type} (field other : Field α) : Prop :=
  ∀ doc otherDoc, Read.Commute (field.read .value doc) (other.read .value otherDoc)

instance {α : Type} : Std.Symm (@Field.Apart α) where
  symm _ _ h doc otherDoc := (h otherDoc doc).symm

/-- Fields that set different places of a record can be read in any order. -/
theorem Field.apart_of_set {α β γ : Type} {field other : Field α} {read : Source → Doc → Read β}
    {readOther : Source → Doc → Read γ} {set : β → α → α} {setOther : γ → α → α}
    (hfield : field.read = fun source doc record => (read source doc).map (set · record))
    (hother : other.read = fun source doc record => (readOther source doc).map (setOther · record))
    (h : ∀ value other record,
      setOther other (set value record) = set value (setOther other record)) :
    field.Apart other := by
  intro doc otherDoc
  rw [hfield, hother]
  exact Read.commute_map h _ _

namespace Json

variable {β : Type} {read : Source → Doc → Read β} {value : β}

/-- Whether a value is read from what is written, in whatever order its members stand. -/
def Shows (written : Json) (read : Source → Doc → Read β) (value : β) : Prop :=
  ∀ ⦃other⦄, written.Alike other → read .value other.doc = .ok value

theorem shows_str {text : String} (h : read .value (.str text) = .ok value) :
    (Json.str text).Shows read value := by
  rintro _ ⟨⟩
  exact h

theorem shows_num {n : Number} (h : read .value (.num n) = .ok value) :
    (Json.num n).Shows read value := by
  rintro _ ⟨⟩
  exact h

theorem shows_bool {b : Bool} (h : read .value (.bool b) = .ok value) :
    (Json.bool b).Shows read value := by
  rintro _ ⟨⟩
  exact h

end Json

namespace Shape

variable {α : Type} {shape : Shape α} {others : Others α}
  {before between after : α} {members rest : List (String × Json)}
  {names restNames : List String} {name : String}

/-! ## Taking members -/

/-- What a member of a value does to a record, whatever was seen before it. -/
def takeMember (shape : Shape α) (others : Others α) (record : α) (member : String × Json) :
    Read α :=
  match shape.field? member.1 with
  | some field => field.read .value member.2.doc record
  | none => others .value member.1 member.2.doc record

/-- Whether members with different names can be taken in any order. -/
def Commutes (shape : Shape α) (others : Others α) : Prop :=
  ∀ one other : String × Json, one.1 ≠ other.1 →
    Read.Commute (shape.takeMember others · one) (shape.takeMember others · other)

/-- Members with different names can be taken in any order. -/
theorem Commutes.foldlM_perm (h : shape.Commutes others) {permuted : List (String × Json)}
    (hperm : members.Perm permuted) (hnodup : (members.map Prod.fst).Nodup)
    (htake : members.foldlM (shape.takeMember others) before = .ok after) :
    permuted.foldlM (shape.takeMember others) before = .ok after := by
  induction hperm generalizing before with
  | nil => exact htake
  | cons member _ ih =>
    rw [List.foldlM_cons, Read.bind_eq_ok] at htake ⊢
    obtain ⟨next, hnext, hrest⟩ := htake
    exact ⟨next, hnext, ih (List.nodup_cons.mp hnodup).2 hrest⟩
  | swap one other rest =>
    have hne : other.1 ≠ one.1 := by
      rw [List.map_cons, List.map_cons, List.nodup_cons, List.mem_cons, not_or] at hnodup
      exact hnodup.1.1
    simp only [List.foldlM_cons, Read.bind_eq_ok] at htake ⊢
    obtain ⟨first, hfirst, second, hsecond, hrest⟩ := htake
    obtain ⟨swapped, hswapped, hsame⟩ := Read.bind_eq_ok.mp
      ((h other one hne before second).mp (Read.bind_eq_ok.mpr ⟨first, hfirst, hsecond⟩))
    exact ⟨swapped, hswapped, second, hsame, hrest⟩
  | trans hfirst _ ihFirst ihSecond =>
    exact ihSecond ((hfirst.map Prod.fst).nodup_iff.mp hnodup) (ihFirst hnodup htake)

/-- It is enough that fields commute with each other, with the other members, and these with each
other. -/
theorem commutes_of_apart (hfields : shape.fields.Pairwise Field.Apart)
    (hmixed : ∀ field ∈ shape.fields, ∀ name doc otherDoc,
      Read.Commute (field.read .value doc) (others .value name otherDoc))
    (hothers : ∀ name other doc otherDoc, name ≠ other →
      Read.Commute (others .value name doc) (others .value other otherDoc)) :
    shape.Commutes others := by
  intro one other hne
  unfold takeMember
  cases hone : shape.field? one.1 with
  | none =>
    cases hother : shape.field? other.1 with
    | none => exact hothers one.1 other.1 _ _ hne
    | some field => exact (hmixed field (mem_of_field? hother) one.1 _ _).symm
  | some field =>
    have hfield := mem_of_field? hone
    cases hother : shape.field? other.1 with
    | none => exact hmixed field hfield other.1 _ _
    | some second =>
      have hdifferent : field ≠ second := by
        rintro rfl
        exact hne ((name_of_field? hone).symm.trans (name_of_field? hother))
      exact hfields.forall hfield (mem_of_field? hother) hdifferent _ _

/-- Members that are skipped can be skipped at any time. -/
theorem commutes_skip (hfields : shape.fields.Pairwise Field.Apart) :
    shape.Commutes skipOthers := by
  have hskip : ∀ (step : α → Read α) (name : String) (doc : Doc),
      Read.Commute step (skipOthers .value name doc) := by
    intro step name doc record after
    have hone : ∀ next : α, skipOthers .value name doc next = doc.skip.map fun _ => next := by
      intro next
      rw [skipOthers]
      cases doc.skip <;> rfl
    simp only [Read.bind_eq_ok, hone]
    cases doc.skip <;> simp [Except.map]
  exact commutes_of_apart hfields (fun _ _ _ _ _ => hskip _ _ _) fun _ _ _ _ _ => hskip _ _ _

/-- Puts a member that is no field at its place among those that were kept. -/
def keepSorted (kept : α → List (String × Json)) (keep : List (String × Json) → α → α) : Others α :=
  keepMember fun name value record => keep (Json.insertMember name value (kept record)) record

section Keep

variable {kept : α → List (String × Json)} {keep : List (String × Json) → α → α}

theorem keepSorted_eq (source : Source) (name : String) (doc : Doc) :
    keepSorted kept keep source name doc = fun record =>
      (doc.json source).map fun value => keep (Json.insertMember name value (kept record)) record := by
  funext record
  rw [keepSorted, keepMember]
  cases doc.json source <;> rfl

/-- A field that does not touch the members that are kept can be read before or after they are. -/
theorem commute_keepSorted {β : Type} {field : Field α} {read : Source → Doc → Read β}
    {set : β → α → α}
    (hfield : field.read = fun source doc record => (read source doc).map (set · record))
    (hset : ∀ value members record, set value (keep members record) = keep members (set value record))
    (hkept : ∀ value record, kept (set value record) = kept record) (name : String)
    (doc otherDoc : Doc) :
    Read.Commute (field.read .value doc) (keepSorted kept keep .value name otherDoc) := by
  rw [hfield, keepSorted_eq]
  refine Read.commute_map (fun value other record => ?_) _ _
  simp only [hkept, hset]

/-- Members that are kept go to their places in any order. -/
theorem commutes_keep (hkept : ∀ members record, kept (keep members record) = members)
    (hkeep : ∀ first second record, keep second (keep first record) = keep second record)
    (hfields : shape.fields.Pairwise Field.Apart)
    (hmixed : ∀ field ∈ shape.fields, ∀ name doc otherDoc,
      Read.Commute (field.read .value doc) (keepSorted kept keep .value name otherDoc)) :
    shape.Commutes (keepSorted kept keep) := by
  refine commutes_of_apart hfields hmixed fun name other doc otherDoc hne => ?_
  rw [keepSorted_eq, keepSorted_eq]
  refine Read.commute_map (fun value second record => ?_) _ _
  simp only [hkept, hkeep, Json.insertMember_comm hne]

end Keep

/-! ## Reading what was written -/

/-- The members, and whatever is like them, make one record the other, and they have these names or
some of them, in this order. -/
structure Takes (shape : Shape α) (others : Others α) (before : α) (members : List (String × Json))
    (after : α) (names : List String) : Prop where
  result : ∀ ⦃alike⦄, Json.AlikeMembers members alike →
    alike.foldlM (shape.takeMember others) before = .ok after
  named : (members.map Prod.fst).Sublist names

theorem Takes.append (h : shape.Takes others before members between names)
    (hrest : shape.Takes others between rest after restNames) :
    shape.Takes others before (members ++ rest) after (names ++ restNames) where
  result := by
    intro alike halike
    obtain ⟨first, second, rfl, hfirst, hsecond⟩ := halike.exists_append
    rw [List.foldlM_append, h.result hfirst]
    exact hrest.result hsecond
  named := by
    rw [List.map_append]
    exact h.named.append hrest.named

theorem takes_singleton {value : Json}
    (h : ∀ other, value.Alike other → shape.takeMember others before (name, other) = .ok after) :
    shape.Takes others before [(name, value)] after [name] where
  result := by
    intro alike halike
    obtain ⟨⟨key, other⟩, rest, ⟨rfl, hother⟩, hrest, rfl⟩ := List.forall₂_cons_left_iff.mp halike
    obtain rfl := List.forall₂_nil_left_iff.mp hrest
    rw [List.foldlM_cons, h other hother]
    rfl
  named := List.Sublist.refl _

/-- A member that is not written does nothing. -/
theorem takes_nil (shape : Shape α) (others : Others α) (record : α) (name : String) :
    shape.Takes others record [] record [name] where
  result := by
    intro alike halike
    obtain rfl := List.forall₂_nil_left_iff.mp halike
    rfl
  named := List.nil_sublist _

/-- A member is read by taking it, unless it was seen before; if it is a field, it counts as seen
then. -/
theorem readMember_doc (shape : Shape α) (others : Others α) {key : String} {seen : List String}
    (hunseen : key ∉ seen) (record : α) (value : Json) :
    shape.readMember others .value (record, seen) (.str key, value.doc) =
      (shape.takeMember others record (key, value)).map fun next =>
        (next, if (shape.field? key).isSome then key :: seen else seen) := by
  have hname : (Doc.str key).key = .ok key := rfl
  have hfind : shape.fields.find? (·.name = key) = shape.field? key := rfl
  simp only [readMember, takeMember, hname, Read.ok_bind, hfind]
  cases shape.field? key with
  | none => cases others .value key value.doc record <;> rfl
  | some field =>
    simp only [hunseen, if_false]
    cases field.read .value value.doc record <;> rfl

/-- When a member was read, those with other names are still unseen. -/
theorem unseen_rest {member : String × Json} {seen : List String}
    (hnodup : ((member :: members).map Prod.fst).Nodup)
    (hfresh : ∀ name ∈ (member :: members).map Prod.fst, name ∉ seen) :
    ∀ name ∈ members.map Prod.fst,
      name ∉ if (shape.field? member.1).isSome then member.1 :: seen else seen := by
  intro name hname
  have hunseen := hfresh name (List.mem_cons_of_mem _ hname)
  split_ifs
  · rw [List.mem_cons, not_or]
    exact ⟨fun hsame => (List.nodup_cons.mp hnodup).1 (hsame ▸ hname), hunseen⟩
  · exact hunseen

/-- Members with different names are read from an object by taking them, and those among them that
are fields were seen then. -/
theorem foldlM_readMember {seen : List String} (hnodup : (members.map Prod.fst).Nodup)
    (hfresh : ∀ name ∈ members.map Prod.fst, name ∉ seen)
    (h : members.foldlM (shape.takeMember others) before = .ok after) :
    ∃ all, (Json.memberDocs members).foldlM (shape.readMember others .value) (before, seen) =
        .ok (after, all) ∧
      (∀ name ∈ seen, name ∈ all) ∧
      ∀ name ∈ members.map Prod.fst, (shape.field? name).isSome → name ∈ all := by
  induction members generalizing before seen with
  | nil =>
    cases h
    exact ⟨seen, rfl, fun _ h => h, by simp⟩
  | cons member members ih =>
    obtain ⟨key, value⟩ := member
    rw [List.foldlM_cons, Read.bind_eq_ok] at h
    obtain ⟨next, hnext, hrest⟩ := h
    have hone := shape.readMember_doc others (hfresh key List.mem_cons_self) before value
    rw [hnext, Except.map] at hone
    obtain ⟨all, hall, hold, hnew⟩ :=
      ih (List.nodup_cons.mp hnodup).2 (unseen_rest hnodup hfresh) hrest
    refine ⟨all, ?_, fun name hname => hold name ?_, fun name hname hsome => ?_⟩
    · rw [Json.memberDocs, List.foldlM_cons, hone]
      exact hall
    · split_ifs
      · exact List.mem_cons_of_mem _ hname
      · exact hname
    · rcases List.mem_cons.mp hname with rfl | hmem
      · exact hold name (by rw [if_pos hsome]; exact List.mem_cons_self)
      · exact hnew name hmem hsome

/-- The names of the fields that an object must have. -/
def requiredNames (shape : Shape α) : List String :=
  (shape.fields.filter (·.required)).map (·.name)

/-- Nothing is missing where all fields were seen that an object must have. -/
theorem checkMissing_eq_ok {all : List String}
    (h : ∀ name ∈ shape.requiredNames, (shape.field? name).isSome → name ∈ all) :
    shape.checkMissing all = .ok () := by
  have hnone : (shape.fields.find? fun field => field.required && !all.contains field.name) =
      none := by
    rw [List.find?_eq_none]
    intro field hfield
    cases hrequired : field.required with
    | false => simp
    | true =>
      have hname : field.name ∈ shape.requiredNames :=
        List.mem_map_of_mem (List.mem_filter.mpr ⟨hfield, hrequired⟩)
      have hsome : (shape.field? field.name).isSome := by
        rw [field?, List.find?_isSome]
        exact ⟨field, hfield, decide_eq_true rfl⟩
      simp [h field.name hname hsome]
  rw [checkMissing, hnone]

theorem Takes.readMembers (h : shape.Takes others shape.blank members after names)
    (hcommutes : shape.Commutes others) (hnames : names.Nodup)
    (hrequired : ∀ name ∈ shape.requiredNames, name ∈ members.map Prod.fst)
    {changed permuted : List (String × Json)} (hchanged : Json.AlikeMembers members changed)
    (hperm : changed.Perm permuted) :
    shape.readMembers others .value (Json.memberDocs permuted) .closed = .ok after := by
  have hsame := hperm.map Prod.fst
  have hnodup : (changed.map Prod.fst).Nodup := hchanged.names_eq ▸ hnames.sublist h.named
  have htake := hcommutes.foldlM_perm hperm hnodup (h.result hchanged)
  obtain ⟨all, hall, -, hseen⟩ :=
    foldlM_readMember (hsame.nodup_iff.mp hnodup) (fun _ _ => List.not_mem_nil) htake
  have hmissing : shape.checkMissing all = .ok () := by
    refine checkMissing_eq_ok fun name hname hsome => hseen name ?_ hsome
    rw [← hsame.mem_iff, ← hchanged.names_eq]
    exact hrequired name hname
  simp only [Shape.readMembers, hall, Read.ok_bind, hmissing]
  rfl

/-- A record is read back from the members of an object. -/
theorem Takes.read (h : shape.Takes skipOthers shape.blank members after names)
    (hcommutes : shape.Commutes skipOthers) (hnames : names.Nodup)
    (hrequired : ∀ name ∈ shape.requiredNames, name ∈ members.map Prod.fst) :
    (Json.obj members).Shows shape.read after := by
  intro other halike
  obtain ⟨changed, permuted, rfl, hchanged, hperm⟩ := halike.exists_of_obj
  exact h.readMembers hcommutes hnames hrequired hchanged hperm

/-- An open record is read back from the members of an object. -/
theorem Takes.readOpen (h : shape.Takes others shape.blank members after names)
    (hcommutes : shape.Commutes others) (hnames : names.Nodup)
    (hrequired : ∀ name ∈ shape.requiredNames, name ∈ members.map Prod.fst) :
    (Json.obj members).Shows (shape.readOpen others) after := by
  intro other halike
  obtain ⟨changed, permuted, rfl, hchanged, hperm⟩ := halike.exists_of_obj
  exact h.readMembers hcommutes hnames hrequired hchanged hperm

/-! ## Members that are no fields -/

/-- Members that are no fields are kept as they are. -/
theorem Spare.takes (h : shape.Spare members) (kept : α → List (String × Json))
    (keep : List (String × Json) → α → α)
    (hkept : ∀ members record, kept (keep members record) = members)
    (hkeep : ∀ first second record, keep second (keep first record) = keep second record)
    (record : α) :
    shape.Takes (keepSorted kept keep) (keep [] record) members (keep members record)
      (members.map Prod.fst) where
  result := by
    intro alike halike
    have hone : ∀ member ∈ members, ∀ other, member.1 = other.1 ∧ member.2.Alike other.2 →
        ∀ sorted, shape.takeMember (keepSorted kept keep) (keep sorted record) other =
          .ok (keep (Json.insertMember member.1 member.2 sorted) record) := by
      rintro ⟨name, value⟩ hmember ⟨key, other⟩ ⟨rfl, hother⟩ sorted
      rw [takeMember, h.foreign _ hmember]
      simp only [keepSorted_eq, Doc.json_of_alike (h.canonical _ hmember) hother, Except.map, hkept,
        hkeep]
    have hall : ∀ sorted, alike.foldlM (shape.takeMember (keepSorted kept keep))
        (keep sorted record) =
          .ok (keep (members.foldl (fun sorted m => Json.insertMember m.1 m.2 sorted) sorted)
            record) := by
      have hstep := forall₂_imp_of_mem halike hone
      clear halike hone h
      induction hstep with
      | nil => exact fun sorted => rfl
      | cons hfirst _ ih =>
        intro sorted
        rw [List.foldlM_cons, hfirst sorted]
        exact ih _
    rw [hall [], Json.foldl_insertMember h.sorted]
  named := List.Sublist.refl _

/-- No name of a field is among the other members. -/
theorem Spare.nodup_names (h : shape.Spare members) (hnames : (shape.fields.map (·.name)).Nodup) :
    (shape.fields.map (·.name) ++ members.map Prod.fst).Nodup := by
  refine List.nodup_append.mpr ⟨hnames, h.sorted.imp ne_of_lt, ?_⟩
  rintro name hname other hother rfl
  obtain ⟨field, hfield, hsame⟩ := List.mem_map.mp hname
  obtain ⟨member, hmember, rfl⟩ := List.mem_map.mp hother
  have hnone := List.find?_eq_none.mp (h.foreign member hmember) field hfield
  simp [hsame] at hnone

end Shape

/-- A list is read item by item. -/
theorem Doc.readList_arr_iff {β : Type} {read : Source → Doc → Read β} {items : List Json}
    {values : List β} : readList read .value (Json.arr items).doc = .ok values ↔
    List.Forall₂ (fun item value => read .value item.doc = .ok value) items values := by
  have hitems : (Json.docs items).mapM (read .value) = .ok values ↔
      List.Forall₂ (fun item value => read .value item.doc = .ok value) items values := by
    induction items generalizing values with
    | nil =>
      rw [List.forall₂_nil_left_iff]
      exact ⟨fun h => (Except.ok.inj h).symm, fun h => congrArg Except.ok h.symm⟩
    | cons item items ih =>
      rw [Json.docs, List.mapM_cons, Read.bind_eq_ok, List.forall₂_cons_left_iff]
      simp only [Read.bind_eq_ok, ih]
      constructor
      · rintro ⟨first, hfirst, rest, hrest, hsame⟩
        exact ⟨first, rest, hfirst, hrest, (Except.ok.inj hsame).symm⟩
      · rintro ⟨first, rest, hfirst, hrest, rfl⟩
        exact ⟨first, hfirst, rest, hrest, rfl⟩
  rw [← hitems]
  simp only [Json.doc, readList, Source.enter, Read.ok_bind, Read.bind_eq_ok]
  constructor
  · rintro ⟨all, hall, -, -, hsame⟩
    rwa [← Except.ok.inj hsame]
  · exact fun h => ⟨values, h, (), rfl, rfl⟩

/-- A list is read back from its items. -/
theorem Doc.readList_docs {β : Type} {read : Source → Doc → Read β} {write : β → Json}
    {items : List β} (h : ∀ item ∈ items, (write item).Shows read item) :
    (Json.arr (items.map write)).Shows (Doc.readList read) items := by
  intro other halike
  obtain ⟨others, rfl, hinner⟩ := halike.exists_of_arr
  have hread : List.Forall₂ (fun item other => read .value other.doc = .ok item) items others :=
    forall₂_imp_of_mem (List.forall₂_map_left_iff.mp hinner) fun item hitem _ halike =>
      h item hitem halike
  exact readList_arr_iff.mpr hread.flip

end DiagramStudio
