import DiagramStudio.Proofs.Diagram.RoundTrip

/-!
# Members that are not understood

The data of nodes and edges keep the members of their document that are no fields. What is kept is
found in the free-form value of the document by leaving out the names of the fields, and it is
found in the same way in what is written of the data.

Results:
* `Json.filter_foldl_insertMember`: members can be left out before or after they are sorted.
* `Shape.kept_of_readOpen`: what an open record keeps are the other members of its document.
* `NodeData.extra_of_read`, `EdgeData.extra_of_read`: so do the data of nodes and edges.
* `NodeData.others_json`, `EdgeData.others_json`: what was kept is written, and nothing else that is
  not understood.
* `Edge.data_json`: data in which anything was kept are written.
-/

namespace DiagramStudio

namespace Json

/-- The members of an object that have none of these names. -/
def others (known : List String) : Json → List (String × Json)
  | .obj members => members.filter (·.1 ∉ known)
  | _ => []

/-! ## Leaving out members -/

section Members

variable {α : Type} {keep : String → Bool} {key : String} {value : α}
  {members sorted : List (String × α)}

/-- A member that is left out does not move the others. -/
theorem filter_insertMember_of_not (hkeep : ¬ keep key = true) :
    (insertMember key value members).filter (keep ·.1) = members.filter (keep ·.1) := by
  induction members with
  | nil => simp [insertMember, hkeep]
  | cons first rest ih =>
    obtain ⟨name, old⟩ := first
    rw [insertMember]
    split_ifs with hsame
    · subst hsame
      simp [hkeep]
    · simp [hkeep]
    · rw [List.filter_cons, List.filter_cons, ih]

/-- A member below all others goes before them. -/
theorem insertMember_eq_cons (h : ∀ other ∈ members.map Prod.fst, key < other) :
    insertMember key value members = (key, value) :: members := by
  cases members with
  | nil => rfl
  | cons first rest => exact insertMember_of_lt (h first.1 List.mem_cons_self)

/-- A member that is kept finds its place among those that are kept. -/
theorem filter_insertMember (hkeep : keep key = true) (h : Ascending members) :
    (insertMember key value members).filter (keep ·.1) =
      insertMember key value (members.filter (keep ·.1)) := by
  induction members with
  | nil => simp [insertMember, hkeep]
  | cons first rest ih =>
    obtain ⟨name, old⟩ := first
    obtain ⟨hbelow, hrest⟩ := List.pairwise_cons.mp h
    rcases lt_trichotomy key name with hless | rfl | hgreater
    · -- It goes before the first member, whichever of the members are kept.
      have hall : ∀ other ∈ (((name, old) :: rest).filter (keep ·.1)).map Prod.fst,
          key < other := by
        intro other hother
        have hmem := (List.filter_sublist.map Prod.fst).subset hother
        rcases List.mem_cons.mp hmem with rfl | hlater
        · exact hless
        · exact hless.trans (hbelow other hlater)
      rw [insertMember_of_lt hless, insertMember_eq_cons hall, List.filter_cons, if_pos hkeep]
    · rw [insertMember_self, List.filter_cons, List.filter_cons, if_pos hkeep, if_pos hkeep,
        insertMember_self]
    · rw [insertMember_of_gt hgreater, List.filter_cons, List.filter_cons, ih hrest]
      split_ifs
      · rw [insertMember_of_gt hgreater]
      · rfl

/-- Members can be left out before or after they are sorted. -/
theorem filter_foldl_insertMember (keep : String → Bool) (h : Ascending sorted) :
    (members.foldl (fun sorted m => insertMember m.1 m.2 sorted) sorted).filter (keep ·.1) =
      (members.filter (keep ·.1)).foldl (fun sorted m => insertMember m.1 m.2 sorted)
        (sorted.filter (keep ·.1)) := by
  induction members generalizing sorted with
  | nil => rfl
  | cons first rest ih =>
    rw [List.foldl_cons, ih (ascending_insertMember h), List.filter_cons]
    split_ifs with hkeep
    · rw [List.foldl_cons, filter_insertMember hkeep h]
    · rw [filter_insertMember_of_not hkeep]

end Members

end Json

namespace Shape

variable {α : Type} {shape : Shape α}

/-! ## What an open record keeps -/

theorem field?_eq_none_iff {name : String} :
    shape.field? name = none ↔ name ∉ shape.fields.map (·.name) := by
  simp [field?]

section Keep

variable (kept : α → List (String × Json)) (keep : List (String × Json) → α → α)
  {source : Source}

/-- Of the members of an object, those are kept that are no fields. -/
theorem kept_of_foldlM (hkept : ∀ members record, kept (keep members record) = members)
    (hfields : ∀ field ∈ shape.fields, ∀ extra, field.Keeps fun record => kept record = extra)
    {members : List (Doc × Doc)} {values : List (String × Json)} {before after : α}
    {seen all : List String} (hjson : Doc.jsonMembers source members = .ok values)
    (hread : members.foldlM (shape.readMember (keepSorted kept keep) source) (before, seen) =
      .ok (after, all)) :
    kept after = (values.filter (·.1 ∉ shape.fields.map (·.name))).foldl
      (fun sorted m => Json.insertMember m.1 m.2 sorted) (kept before) := by
  induction members generalizing values before seen with
  | nil =>
    cases hread
    cases hjson
    rfl
  | cons member members ih =>
    obtain ⟨name, item⟩ := member
    simp only [Doc.jsonMembers, Read.bind_eq_ok] at hjson
    obtain ⟨key, hkey, value, hvalue, others, hothers, hvalues⟩ := hjson
    cases hvalues
    rw [List.foldlM_cons, Read.bind_eq_ok] at hread
    obtain ⟨⟨next, nextSeen⟩, hnext, hrest⟩ := hread
    simp only [readMember, hkey, Read.ok_bind] at hnext
    rw [ih hothers hrest, List.filter_cons]
    split at hnext
    · rename_i field hfield
      have hnamed : ¬ decide (key ∉ shape.fields.map (·.name)) = true := by
        simp only [decide_eq_true_eq, ← field?_eq_none_iff, field?, hfield]
        exact Option.some_ne_none field
      rw [if_neg hnamed]
      split_ifs at hnext
      · cases hnext
      · simp only [Read.bind_eq_ok] at hnext
        obtain ⟨record, hrecord, hnext⟩ := hnext
        cases hnext
        rw [hfields field (mem_of_field? hfield) _ _ _ _ _ rfl hrecord]
    · rename_i hnone
      have hforeign : decide (key ∉ shape.fields.map (·.name)) = true :=
        decide_eq_true (field?_eq_none_iff.mp hnone)
      rw [if_pos hforeign, List.foldl_cons]
      simp only [keepSorted_eq, hvalue, Except.map, Read.ok_bind] at hnext
      cases hnext
      rw [hkept]

/-- What an open record keeps are the members of its document that are no fields. -/
theorem kept_of_readOpen (hkept : ∀ members record, kept (keep members record) = members)
    (hblank : kept shape.blank = [])
    (hfields : ∀ field ∈ shape.fields, ∀ extra, field.Keeps fun record => kept record = extra)
    {doc : Doc} {record : α} {value : Json}
    (hread : shape.readOpen (keepSorted kept keep) source doc = .ok record)
    (hjson : doc.json source = .ok value) :
    kept record = value.others (shape.fields.map (·.name)) := by
  unfold readOpen at hread
  split at hread
  · rename_i members ending
    simp only [readMembers, Read.bind_eq_ok] at hread
    obtain ⟨inner, hinner, ⟨after, all⟩, hmembers, -, -, -, -, hafter⟩ := hread
    cases hafter
    simp only [Doc.json, hinner, Read.ok_bind, Read.bind_eq_ok] at hjson
    obtain ⟨values, hvalues, -, -, hvalue⟩ := hjson
    cases hvalue
    have hsorted : Json.Ascending ([] : List (String × Json)) := List.Pairwise.nil
    rw [kept_of_foldlM kept keep hkept hfields hvalues hmembers, hblank]
    exact (Json.filter_foldl_insertMember (fun name => decide (name ∉ shape.fields.map (·.name)))
      hsorted).symm
  · cases hread

end Keep

/-- Of members that are written, those are others that were kept. -/
theorem Spare.others_obj {own extra : List (String × Json)} (h : shape.Spare extra)
    (hown : (own.map Prod.fst).Sublist (shape.fields.map (·.name))) :
    (Json.obj (own ++ extra)).others (shape.fields.map (·.name)) = extra := by
  have hnone : own.filter (·.1 ∉ shape.fields.map (·.name)) = [] := by
    rw [List.filter_eq_nil_iff]
    intro member hmember
    simpa using List.mem_map.mp (hown.subset (List.mem_map_of_mem hmember))
  have hall : extra.filter (·.1 ∉ shape.fields.map (·.name)) = extra := by
    rw [List.filter_eq_self]
    exact fun member hmember => decide_eq_true (field?_eq_none_iff.mp (h.foreign member hmember))
  rw [Json.others, List.filter_append, hnone, hall, List.nil_append]

end Shape

/-! ## Nodes and edges -/

/-- The names of the members of a node's data that are understood. -/
def NodeData.keys : List String :=
  ["label", "type", "color", "icon", "customIcon", "port", "dbName"]

/-- The names of the members of an edge's data that are understood. -/
def EdgeData.keys : List String := ["tls", "tlsVersion", "tlsCert", "tlsKey"]

variable {source : Source} {doc : Doc} {value : Json}

theorem NodeData.extra_of_read {data : NodeData} (h : NodeData.read source doc = .ok data)
    (hjson : doc.json source = .ok value) : data.extra = value.others keys := by
  refine Shape.kept_of_readOpen NodeData.extra (fun extra d => { d with extra }) (fun _ _ => rfl)
    rfl ?_ h hjson
  simp only [NodeData.shape, List.forall_mem_cons]
  refine ⟨?_, ?_, ?_, ?_, ?_, ?_, ?_, by simp⟩ <;>
    exact fun extra => Field.keeps_may fun _ _ _ _ _ h => h

theorem EdgeData.extra_of_read {data : EdgeData} (h : EdgeData.read source doc = .ok data)
    (hjson : doc.json source = .ok value) : data.extra = value.others keys := by
  refine Shape.kept_of_readOpen EdgeData.extra (fun extra d => { d with extra }) (fun _ _ => rfl)
    rfl ?_ h hjson
  simp only [EdgeData.shape, List.forall_mem_cons]
  refine ⟨?_, ?_, ?_, ?_, by simp⟩ <;> exact fun extra => Field.keeps_may fun _ _ _ _ _ h => h

theorem NodeData.others_json {data : NodeData} (h : NodeData.shape.Spare data.extra) :
    data.json.others keys = data.extra :=
  h.others_obj (data.takes_ownMembers Shape.skipOthers).named

theorem EdgeData.others_json {data : EdgeData} (h : EdgeData.shape.Spare data.extra) :
    data.json.others keys = data.extra :=
  h.others_obj (data.takes_ownMembers Shape.skipOthers).named

/-- Data in which anything was kept are written. -/
theorem Edge.data_json {edge : Edge} (h : edge.data.extra ≠ []) :
    edge.json.get? "data" = some edge.data.json := by
  obtain ⟨id, source, target, sourceHandle, targetHandle, type, data⟩ := edge
  have hempty : data.isEmpty = false := by
    rw [EdgeData.isEmpty, List.isEmpty_eq_false_iff.mpr h, Bool.and_false]
  cases sourceHandle <;> cases targetHandle <;>
    simp [Edge.json, Json.get?, Json.findMember?, Json.memberIf, hempty]

end DiagramStudio
