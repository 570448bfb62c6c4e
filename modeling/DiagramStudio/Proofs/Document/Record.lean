import DiagramStudio.Diagram.Reader
import DiagramStudio.Proofs.Document.Canonical

/-!
# What reading a record keeps

What the fields of a shape do not break, the reading of a record does not break. An open record
keeps the members that are no fields; what can be among them is a property of its shape.

Results:
* `Shape.read_keeps`, `Shape.readOpen_keeps`: what every field keeps, a record that was read has.
* `Shape.Spare.insert`: members that are no fields stay in order.
* `Doc.forall_of_readList`: what every item has that is read, the items of a list have.
-/

namespace DiagramStudio

/-- A partial fold keeps what each of its steps keeps. -/
theorem Read.foldlM_keeps {σ ι : Type} {P : σ → Prop} {step : σ → ι → Read σ} {inputs : List ι}
    {start result : σ} (hstart : P start)
    (hstep : ∀ state input next, P state → step state input = .ok next → P next)
    (h : inputs.foldlM step start = .ok result) : P result := by
  induction inputs generalizing start with
  | nil =>
    cases h
    exact hstart
  | cons input rest ih =>
    rw [List.foldlM_cons, Read.bind_eq_ok] at h
    obtain ⟨next, hnext, hrest⟩ := h
    exact ih (hstep start input next hstart hnext) hrest

/-- Reading the field keeps a property of the record. -/
def Field.Keeps {α : Type} (field : Field α) (P : α → Prop) : Prop :=
  ∀ source doc record result, P record → field.read source doc record = .ok result → P result

section Keeps

variable {α β : Type} {name : String} {read : Source → Doc → Read β} {set : β → α → α}
  {P : α → Prop}
  (h : ∀ source doc value record, read source doc = .ok value → P record → P (set value record))
include h

theorem Field.keeps_must : (Field.must name read set).Keeps P := by
  intro source doc record result hrecord hread
  cases hvalue : read source doc with
  | error reason => simp [must, hvalue, Except.map] at hread
  | ok value =>
    simp only [must, hvalue, Except.map, Except.ok.injEq] at hread
    exact hread ▸ h source doc value record hvalue hrecord

theorem Field.keeps_may : (Field.may name read set).Keeps P := by
  have hmust : (Field.must name read set).Keeps P := Field.keeps_must h
  exact hmust

end Keeps

namespace Shape

variable {α : Type} {shape : Shape α} {others : Others α} {source : Source} {P : α → Prop}

/-- The field of a name. -/
def field? (shape : Shape α) (name : String) : Option (Field α) :=
  shape.fields.find? (·.name = name)

theorem name_of_field? {name : String} {field : Field α} (h : shape.field? name = some field) :
    field.name = name := by
  simpa using List.find?_some h

theorem mem_of_field? {name : String} {field : Field α} (h : shape.field? name = some field) :
    field ∈ shape.fields :=
  List.mem_of_find?_eq_some h

/-- A member that is skipped changes nothing. -/
theorem eq_of_skipOthers {name : String} {doc : Doc} {record after : α}
    (h : skipOthers source name doc record = .ok after) : after = record := by
  rw [skipOthers, Read.bind_eq_ok] at h
  obtain ⟨-, -, h⟩ := h
  exact (Except.ok.inj h).symm

/-! ## What reading keeps -/

theorem readMembers_keeps {members : List (Doc × Doc)} {ending : Ending} {record : α}
    (hblank : P shape.blank) (hfields : ∀ field ∈ shape.fields, field.Keeps P)
    (hothers : ∀ source name doc record result, shape.field? name = none → P record →
      others source name doc record = .ok result → P result)
    (h : shape.readMembers others source members ending = .ok record) : P record := by
  simp only [readMembers, Read.bind_eq_ok] at h
  obtain ⟨⟨read, seen⟩, hread, -, -, -, -, hrecord⟩ := h
  cases hrecord
  refine Read.foldlM_keeps (P := fun state : α × List String => P state.1) hblank ?_ hread
  rintro state member ⟨next, seen⟩ hstate hnext
  simp only [readMember, Read.bind_eq_ok] at hnext
  obtain ⟨name, -, hnext⟩ := hnext
  split at hnext
  · rename_i field hfield
    split_ifs at hnext with hseen
    · cases hnext
    · simp only [Read.bind_eq_ok] at hnext
      obtain ⟨result, hresult, hnext⟩ := hnext
      cases hnext
      exact hfields field (mem_of_field? hfield) _ _ _ _ hstate hresult
  · rename_i hnone
    rw [Read.bind_eq_ok] at hnext
    obtain ⟨result, hresult, hnext⟩ := hnext
    cases hnext
    exact hothers _ name _ _ _ hnone hstate hresult

theorem readItems_keeps {ending : Ending} {fields : List (Field α)} {items : List Doc} {count : Nat}
    {start record : α} (hstart : P start) (hfields : ∀ field ∈ fields, field.Keeps P)
    (h : shape.readItems source ending count start fields items = .ok record) : P record := by
  induction fields generalizing items count start with
  | nil =>
    simp only [readItems, Read.bind_eq_ok] at h
    obtain ⟨-, -, hrecord⟩ := h
    cases hrecord
    exact hstart
  | cons field fields ih =>
    have hrest : ∀ other ∈ fields, other.Keeps P :=
      fun other hother => hfields other (List.mem_cons_of_mem _ hother)
    cases items with
    | nil =>
      simp only [readItems, Read.bind_eq_ok] at h
      obtain ⟨-, -, h⟩ := h
      split_ifs at h
      exact ih hstart hrest h
    | cons item items =>
      simp only [readItems, Read.bind_eq_ok] at h
      obtain ⟨next, hnext, h⟩ := h
      exact ih (hfields field List.mem_cons_self _ _ _ _ hstart hnext) hrest h

/-- What every field keeps, a record that was read from an object or a list has. -/
theorem read_keeps {doc : Doc} {record : α} (hblank : P shape.blank)
    (hfields : ∀ field ∈ shape.fields, field.Keeps P) (h : shape.read source doc = .ok record) :
    P record := by
  unfold read at h
  split at h
  · rw [Read.bind_eq_ok] at h
    obtain ⟨inner, -, h⟩ := h
    refine readMembers_keeps hblank hfields ?_ h
    intro source name doc old result _ hold hskip
    exact eq_of_skipOthers hskip ▸ hold
  · rw [Read.bind_eq_ok] at h
    obtain ⟨inner, -, h⟩ := h
    exact readItems_keeps hblank hfields h
  · cases h

/-- What every field keeps, and every member that is no field, an open record that was read has. -/
theorem readOpen_keeps {doc : Doc} {record : α} (hblank : P shape.blank)
    (hfields : ∀ field ∈ shape.fields, field.Keeps P)
    (hothers : ∀ source name doc record result, shape.field? name = none → P record →
      others source name doc record = .ok result → P result)
    (h : shape.readOpen others source doc = .ok record) : P record := by
  unfold readOpen at h
  split at h
  · rw [Read.bind_eq_ok] at h
    obtain ⟨inner, -, h⟩ := h
    exact readMembers_keeps hblank hfields hothers h
  · cases h

/-! ## Members that are no fields -/

/-- What a record can keep besides its fields: members that are sorted, with canonical values, none
of them under the name of a field. -/
structure Spare (shape : Shape α) (members : List (String × Json)) : Prop where
  sorted : Json.Ascending members
  canonical : ∀ member ∈ members, member.2.Canonical
  foreign : ∀ member ∈ members, shape.field? member.1 = none

theorem spare_nil : shape.Spare [] where
  sorted := List.Pairwise.nil
  canonical := by simp
  foreign := by simp

theorem Spare.insert {members : List (String × Json)} {name : String} {value : Json}
    (h : shape.Spare members) (hforeign : shape.field? name = none) (hvalue : value.Canonical) :
    shape.Spare (Json.insertMember name value members) where
  sorted := Json.ascending_insertMember h.sorted
  canonical := by
    intro member hmember
    rcases Json.mem_insertMember hmember with rfl | hold
    · exact hvalue
    · exact h.canonical member hold
  foreign := by
    intro member hmember
    rcases Json.mem_insertMember hmember with rfl | hold
    · exact hforeign
    · exact h.foreign member hold

end Shape

/-- What every item has that is read, the items of a list have. -/
theorem Doc.forall_of_readList {β : Type} {P : β → Prop} {read : Source → Doc → Read β}
    {source : Source} {doc : Doc} {values : List β}
    (hread : ∀ source doc value, read source doc = .ok value → P value)
    (h : Doc.readList read source doc = .ok values) : ∀ value ∈ values, P value := by
  unfold readList at h
  split at h
  · rename_i items ending
    simp only [Read.bind_eq_ok] at h
    obtain ⟨inner, -, others, hitems, -, -, hsame⟩ := h
    cases hsame
    induction items generalizing values with
    | nil =>
      cases hitems
      simp
    | cons item items ih =>
      rw [List.mapM_cons, Read.bind_eq_ok] at hitems
      obtain ⟨first, hfirst, hitems⟩ := hitems
      rw [Read.bind_eq_ok] at hitems
      obtain ⟨rest, hrest, hsame⟩ := hitems
      cases hsame
      exact List.forall_mem_cons.mpr ⟨hread inner item first hfirst, ih hrest⟩
  · cases h

end DiagramStudio
