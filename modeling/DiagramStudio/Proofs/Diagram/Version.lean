import DiagramStudio.Proofs.Diagram.Part

/-!
# TLS versions in documents

The version of an edge is read out of any value: it is the version that a text or a number spells,
and none otherwise. So the reading of a document does not depend on what stands there. The members
of an edge's data can be read in any order, so data are read by reading the others first and the
version in the end.

Results:
* `readVersion_doc`: the version that any value shows.
* `EdgeData.read_obj_iff`: data are read without the version first, and the version is set then.
* `VersionEdit.read_data`, `VersionEdit.read_edge`: data and edges of which the version was changed.
-/

namespace DiagramStudio

/-! ## Spelled versions -/

namespace TlsVersion

variable {text : String} {version : TlsVersion}

/-- The version of a spelling is the only one with that spelling. -/
theorem ofSpelling?_eq_some_iff :
    ofSpelling? text = some version ↔ squeezed text ∈ version.spellings := by
  refine ⟨fun h => ?_, fun h => ?_⟩
  · simpa using List.find?_some h
  · rw [ofSpelling?]
    generalize squeezed text = spelled at h
    cases version with
    | auto =>
      obtain rfl := List.mem_singleton.mp h
      decide +kernel
    | _ =>
      simp only [spellings, List.mem_cons, List.not_mem_nil, or_false] at h
      obtain rfl | rfl | rfl := h <;> decide +kernel

/-- Every spelling begins with one of these characters. -/
theorem begins_of_mem_spellings {spelled : String} (h : spelled ∈ version.spellings) :
    ∃ c ∈ ['a', 't', '1'], spelled.toList.head? = some c := by
  cases version with
  | auto =>
    obtain rfl := List.mem_singleton.mp h
    exact ⟨'a', by decide, by decide⟩
  | _ =>
    simp only [spellings, List.mem_cons, List.not_mem_nil, or_false] at h
    obtain rfl | rfl | rfl := h
    · exact ⟨'t', by decide, by decide⟩
    · exact ⟨'t', by decide, by decide⟩
    · exact ⟨'1', by decide, by decide⟩

/-- A text that begins with another character than the spellings spells no version. -/
theorem ofSpelling?_eq_none {c : Char} {rest : List Char} (htext : text.toList = c :: rest)
    (hblank : Text.isBlank c = false) (hc : c.toLower ∉ ['a', 't', '1']) :
    ofSpelling? text = none := by
  rw [Option.eq_none_iff_forall_ne_some]
  intro version h
  obtain ⟨d, hd, hbegins⟩ := begins_of_mem_spellings (ofSpelling?_eq_some_iff.mp h)
  have hhead : (squeezed text).toList.head? = some c.toLower := by
    rw [squeezed, String.toList_ofList, htext, List.filter_cons_of_pos (by simp [hblank])]
    rfl
  rw [hhead, Option.some_inj] at hbegins
  exact hc (hbegins ▸ hd)

end TlsVersion

namespace Json

/-- The text of a string or a number. -/
def spelling? : Json → Option String
  | .str text => some text
  | .num n => some n.text
  | _ => none

/-- The version that a value shows. -/
def version? (value : Json) : Option TlsVersion := value.spelling?.bind TlsVersion.ofSpelling?

/-- Whether a value is a string or a number that spells a version, without its blanks and whatever
the case of its letters. -/
def Spells (value : Json) (version : TlsVersion) : Prop :=
  ∃ text, value.spelling? = some text ∧ TlsVersion.squeezed text ∈ version.spellings

theorem spells_iff {value : Json} {version : TlsVersion} :
    value.Spells version ↔ value.version? = some version := by
  simp only [Spells, version?, Option.bind_eq_some_iff, TlsVersion.ofSpelling?_eq_some_iff]

/-- The version in force is the one that the value spells, or the automatic one. -/
theorem version?_getD_eq_iff {value : Json} {version : TlsVersion} :
    value.version?.getD .auto = version ↔
      value.Spells version ∨ version = .auto ∧ ∀ other, ¬ value.Spells other := by
  simp only [spells_iff]
  cases value.version? with
  | none => simp [eq_comm]
  | some spelled => simp

theorem json_arr {items read : List Json} (h : Doc.jsonItems .value (docs items) = .ok read) :
    (arr items).doc.json .value = .ok (arr read) := by
  simp only [doc, Doc.json, Source.enter, Read.ok_bind, h]
  rfl

theorem json_obj {members read : List (String × Json)}
    (h : Doc.jsonMembers .value (memberDocs members) = .ok read) :
    ∃ sorted, (obj members).doc.json .value = .ok (obj sorted) := by
  simp only [doc, Doc.json, Source.enter, Read.ok_bind, h]
  exact ⟨_, rfl⟩

mutual

/-- Every value can be read as a free-form value. -/
theorem exists_json (value : Json) : ∃ read, value.doc.json .value = .ok read := by
  cases value with
  | arr items =>
    obtain ⟨read, hread⟩ := exists_jsonItems items
    exact ⟨_, json_arr hread⟩
  | obj members =>
    obtain ⟨read, hread⟩ := exists_jsonMembers members
    obtain ⟨sorted, hsorted⟩ := json_obj hread
    exact ⟨_, hsorted⟩
  | _ => exact ⟨_, rfl⟩

theorem exists_jsonItems (items : List Json) :
    ∃ read, Doc.jsonItems .value (docs items) = .ok read := by
  cases items with
  | nil => exact ⟨_, rfl⟩
  | cons item rest =>
    obtain ⟨first, hfirst⟩ := exists_json item
    obtain ⟨read, hread⟩ := exists_jsonItems rest
    exact ⟨first :: read, by rw [docs, Doc.jsonItems, hfirst, hread]; rfl⟩

theorem exists_jsonMembers (members : List (String × Json)) :
    ∃ read, Doc.jsonMembers .value (memberDocs members) = .ok read := by
  cases members with
  | nil => exact ⟨_, rfl⟩
  | cons member rest =>
    obtain ⟨name, item⟩ := member
    obtain ⟨first, hfirst⟩ := exists_json item
    obtain ⟨read, hread⟩ := exists_jsonMembers rest
    exact ⟨(name, first) :: read, by rw [memberDocs, Doc.jsonMembers, hfirst, hread]; rfl⟩

end

end Json

/-- The version that is read from any value. -/
theorem readVersion_doc (value : Json) : readVersion .value value.doc = .ok value.version? := by
  cases value with
  | null => rfl
  | num n => rfl
  | str text => rfl
  | bool b =>
    have hnone : TlsVersion.ofSpelling? (Json.bool b).compact = none := by
      cases b <;> decide +kernel
    exact congrArg Except.ok hnone
  | arr items =>
    obtain ⟨read, hread⟩ := Json.exists_jsonItems items
    obtain ⟨rest, htext⟩ := Json.begins_compact_arr read
    rw [readVersion, Json.json_arr hread, Read.ok_bind]
    exact congrArg Except.ok (TlsVersion.ofSpelling?_eq_none htext (by decide) (by decide))
  | obj members =>
    obtain ⟨read, hread⟩ := Json.exists_jsonMembers members
    obtain ⟨sorted, hsorted⟩ := Json.json_obj hread
    have htext : ∃ rest, (Json.obj sorted).compact.toList = '\x7b' :: rest := by
      rw [Json.compact, String.append_assoc, String.toList_append]
      exact ⟨_, rfl⟩
    obtain ⟨rest, htext⟩ := htext
    rw [readVersion, hsorted, Read.ok_bind]
    exact congrArg Except.ok (TlsVersion.ofSpelling?_eq_none htext (by decide) (by decide))

/-! ## Changed versions -/

/-- What happens to the version in the document of an edge's data. -/
inductive VersionEdit where
  | keep
  | remove
  | put (value : Json)

namespace VersionEdit

/-- The members of an edge's data after the change. -/
def members (edit : VersionEdit) (members : List (String × Json)) : List (String × Json) :=
  match edit with
  | .keep => members
  | .remove => members.filter (·.1 ≠ "tlsVersion")
  | .put value => Json.insertMember "tlsVersion" value members

/-- The document of an edge's data after the change. -/
def data (edit : VersionEdit) : Json → Json
  | .obj members => .obj (edit.members members)
  | value => value

/-- The document of an edge after the change of its data, which are the member of that name or the
last of the seven items of a list. -/
def edge (edit : VersionEdit) : Json → Json := Json.changePart "data" 6 edit.data

/-- The version of an edge after the change. -/
def version (edit : VersionEdit) (old : Option TlsVersion) : Option TlsVersion :=
  match edit with
  | .keep => old
  | .remove => none
  | .put value => value.version?

end VersionEdit

/-! ## Data -/

/-- Data in which nothing but the version may differ. -/
def EdgeData.withVersion (data : EdgeData) (version : Option TlsVersion) : EdgeData :=
  { data with tlsVersion := version }

theorem Shape.readOpen_obj_iff {α : Type} {shape : Shape α} {others : Shape.Others α}
    {members : List (String × Json)} {record : α} (hnodup : (members.map Prod.fst).Nodup)
    (hrequired : shape.requiredNames = []) :
    shape.readOpen others .value (Json.obj members).doc = .ok record ↔
      members.foldlM (shape.takeMember others) shape.blank = .ok record := by
  simp only [Json.doc, readOpen, Source.enter, Read.ok_bind, readMembers]
  constructor
  · intro h
    rw [Read.bind_eq_ok] at h
    obtain ⟨⟨after, seen⟩, hread, h⟩ := h
    simp only [Ending.readObject, Read.bind_eq_ok] at h
    obtain ⟨-, -, -, -, hsame⟩ := h
    cases hsame
    exact foldlM_takeMember hnodup (fun _ _ => List.not_mem_nil) hread
  · intro h
    obtain ⟨all, hall, -, -⟩ := foldlM_readMember hnodup (fun _ _ => List.not_mem_nil) h
    have hmissing : shape.checkMissing all = .ok () :=
      checkMissing_eq_ok fun name hname => by simp [hrequired] at hname
    simp only [hall, Read.ok_bind, Ending.readObject, hmissing]
    rfl

namespace EdgeData

variable {members : List (String × Json)} {before after data : EdgeData}

theorem setBy_tlsVersion : EdgeData.shape.SetBy "tlsVersion" EdgeData.tlsVersion := by
  simp only [Shape.SetBy, EdgeData.shape, List.forall_mem_cons]
  refine ⟨.inr ?_, .inl rfl, .inr ?_, .inr ?_, by simp⟩ <;>
    exact fun value => Field.keeps_may fun _ _ _ _ _ h => h

/-- The other members leave the version alone. -/
theorem tlsVersion_of_taken (hnames : ∀ member ∈ members, member.1 ≠ "tlsVersion")
    (h : members.foldlM (EdgeData.shape.takeMember keepOthers) before = .ok after) :
    after.tlsVersion = before.tlsVersion := by
  have hfields := setBy_tlsVersion.keeps (· = before.tlsVersion)
  have hnamed (member : String × Json) (hmember : member ∈ members) : member.1 ∉ ["tlsVersion"] :=
    mt List.mem_singleton.mp (hnames member hmember)
  refine Shape.keeps_of_taken (P := fun data => data.tlsVersion = before.tlsVersion) _ hfields ?_
    hnamed rfl h
  intro name doc data next hdata hnext
  simp only [keepOthers, Shape.keepSorted_eq, Read.map_eq_ok] at hnext
  obtain ⟨_, -, rfl⟩ := hnext
  exact hdata

/-- Data are read without the version first, and the version is set then. -/
theorem read_obj_iff (hsorted : Json.Ascending members) :
    EdgeData.read .value (Json.obj members).doc = .ok data ↔
      ∃ rest, EdgeData.read .value (Json.obj (members.filter (·.1 ≠ "tlsVersion"))).doc = .ok rest ∧
        data = rest.withVersion ((Json.findMember? "tlsVersion" members).bind Json.version?) := by
  have hnodup : (members.map Prod.fst).Nodup := hsorted.imp ne_of_lt
  have hothers : ((members.filter (·.1 ≠ "tlsVersion")).map Prod.fst).Nodup :=
    hnodup.sublist (List.filter_sublist.map Prod.fst)
  have htaken {members : List (String × Json)} {data : EdgeData}
      (hnodup : (members.map Prod.fst).Nodup) :
      EdgeData.read .value (Json.obj members).doc = .ok data ↔
        members.foldlM (EdgeData.shape.takeMember keepOthers) EdgeData.shape.blank = .ok data :=
    Shape.readOpen_obj_iff hnodup rfl
  rw [htaken hnodup]
  simp only [htaken hothers]
  cases hfound : Json.findMember? "tlsVersion" members with
  | none =>
    have hnames := Json.ne_of_findMember?_eq_none hfound
    have hsame : members.filter (·.1 ≠ "tlsVersion") = members :=
      List.filter_eq_self.mpr fun member hmem => decide_eq_true (hnames member hmem)
    have hunset {rest : EdgeData}
        (h : members.foldlM (EdgeData.shape.takeMember keepOthers) EdgeData.shape.blank =
          .ok rest) :
        rest.withVersion none = rest :=
      congrArg rest.withVersion (tlsVersion_of_taken hnames h).symm
    rw [hsame, Option.bind_none]
    exact ⟨fun h => ⟨data, h, (hunset h).symm⟩, fun ⟨rest, h, hdata⟩ => by rwa [hdata, hunset h]⟩
  | some value =>
    have hperm := Json.perm_of_findMember? hnodup hfound
    have hlast (rest : EdgeData) : EdgeData.shape.takeMember keepOthers rest ("tlsVersion", value) =
        .ok (rest.withVersion value.version?) := by
      have hfield : EdgeData.shape.takeMember keepOthers rest ("tlsVersion", value) =
          (readVersion .value value.doc).map rest.withVersion := rfl
      rw [hfield, readVersion_doc]
      rfl
    have hmoved : members.foldlM (EdgeData.shape.takeMember keepOthers) EdgeData.shape.blank =
          .ok data ↔
        (members.filter (·.1 ≠ "tlsVersion") ++ [("tlsVersion", value)]).foldlM
          (EdgeData.shape.takeMember keepOthers) EdgeData.shape.blank = .ok data :=
      ⟨EdgeData.commutes.foldlM_perm hperm hnodup,
        EdgeData.commutes.foldlM_perm hperm.symm ((hperm.map Prod.fst).nodup_iff.mp hnodup)⟩
    rw [hmoved, List.foldlM_append, Read.bind_eq_ok]
    refine exists_congr fun rest => and_congr_right fun _ => ?_
    rw [List.foldlM_cons, hlast, Read.ok_bind, Option.bind_some]
    exact ⟨fun h => (Except.ok.inj h).symm, fun h => congrArg Except.ok h.symm⟩

end EdgeData

namespace VersionEdit

variable {members : List (String × Json)} (edit : VersionEdit)

theorem ascending_members (hsorted : Json.Ascending members) :
    Json.Ascending (edit.members members) := by
  cases edit with
  | keep => exact hsorted
  | remove => exact hsorted.sublist (List.filter_sublist.map Prod.fst)
  | put value => exact Json.ascending_insertMember hsorted

theorem filter_members (members : List (String × Json)) :
    (edit.members members).filter (·.1 ≠ "tlsVersion") =
      members.filter (·.1 ≠ "tlsVersion") := by
  cases edit with
  | keep => rfl
  | remove => simp only [VersionEdit.members, List.filter_filter, Bool.and_self]
  | put value =>
    let isOther (name : String) : Bool := name ≠ "tlsVersion"
    have hout : ¬ isOther "tlsVersion" = true := by simp [isOther]
    exact Json.filter_insertMember_of_not hout

theorem version_members (members : List (String × Json)) :
    (Json.findMember? "tlsVersion" (edit.members members)).bind Json.version? =
      edit.version ((Json.findMember? "tlsVersion" members).bind Json.version?) := by
  cases edit with
  | keep => rfl
  | remove =>
    have hnone : Json.findMember? "tlsVersion" (members.filter (·.1 ≠ "tlsVersion")) = none := by
      cases hfound : Json.findMember? "tlsVersion" (members.filter (·.1 ≠ "tlsVersion")) with
      | none => rfl
      | some value =>
        have hkept := (List.mem_filter.mp (Json.mem_of_findMember? hfound)).2
        simp at hkept
    rw [VersionEdit.members, hnone]
    rfl
  | put value =>
    rw [VersionEdit.members, Json.findMember?_insertMember_self, Option.bind_some]
    rfl

/-- Data are read if and only if they are read after the change, and only their version differs
then. -/
theorem read_data {value : Json} (hcanonical : value.Canonical) :
    Read.Rel (fun data changed => changed = data.withVersion (edit.version data.tlsVersion))
      (EdgeData.read .value value.doc) (EdgeData.read .value (edit.data value).doc) := by
  cases hcanonical with
  | @obj members hsorted _ =>
    have hafter := edit.ascending_members hsorted
    show Read.Rel _ _ (EdgeData.read .value (Json.obj (edit.members members)).doc)
    cases hrest : EdgeData.read .value (Json.obj (members.filter (·.1 ≠ "tlsVersion"))).doc with
    | ok rest =>
      have hbefore := (EdgeData.read_obj_iff hsorted).mpr ⟨rest, hrest, rfl⟩
      have hchanged := (EdgeData.read_obj_iff hafter).mpr
        ⟨rest, by rw [filter_members, hrest], rfl⟩
      rw [hbefore, hchanged, version_members]
      exact .ok rfl
    | error reason =>
      have hrefused {list : List (String × Json)} (hlist : Json.Ascending list)
          (hsame : list.filter (·.1 ≠ "tlsVersion") = members.filter (·.1 ≠ "tlsVersion")) :
          ∃ other, EdgeData.read .value (Json.obj list).doc = .error other := by
        cases hread : EdgeData.read .value (Json.obj list).doc with
        | error other => exact ⟨other, rfl⟩
        | ok data =>
          obtain ⟨rest, h, -⟩ := (EdgeData.read_obj_iff hlist).mp hread
          rw [hsame, hrest] at h
          cases h
      obtain ⟨one, hone⟩ := hrefused hsorted rfl
      obtain ⟨other, hother⟩ := hrefused hafter (edit.filter_members members)
      rw [hone, hother]
      exact .error one other
  | _ => exact .error _ _

/-! ## Edges -/

/-- An edge that was read before and after a change of its document: the version follows the change
if the edge has data, and nothing else differs. -/
def Follows (edit : VersionEdit) (data? : Option Json) (edge changed : Edge) : Prop :=
  changed = match data? with
    | some _ => { edge with data := edge.data.withVersion (edit.version edge.data.tlsVersion) }
    | none => edge

/-- An edge is read if and only if it is read after the change. -/
theorem read_edge {item : Json} (hcanonical : item.Canonical) :
    Read.Rel (edit.Follows (item.part? "data" 6)) (Edge.read .value item.doc)
      (Edge.read .value (edit.edge item).doc) := by
  cases hpart : item.part? "data" 6 with
  | none =>
    rw [edge, Json.changePart_eq_self hpart]
    exact Read.Rel.refl (R := edit.Follows none) (fun _ => rfl) _
  | some part =>
    have hplace : Edge.shape.HasField "data" 6 := ⟨by decide, rfl⟩
    have hdata := edit.read_data (hcanonical.of_part? hpart)
    have hrel : Read.Rel (fun edge changed : Edge => changed = { edge with data := changed.data })
        (Edge.read .value item.doc) (Edge.read .value (edit.edge item).doc) := by
      refine Shape.read_changePart EdgeData.read (fun data edge => { edge with data })
        hcanonical.distinct hplace rfl rfl (fun _ _ _ _ h => by rw [h]) ?_ ?_
      · simp only [Edge.shape, List.forall_mem_cons]
        and_intros
        all_goals first | exact Field.agrees_self rfl fun _ _ _ h => by rw [h] | simp
      · intro part hpart
        exact (edit.read_data (hcanonical.of_part? hpart)).isOk_eq
    refine hrel.imp fun edge changed hedge hchanged hsame => ?_
    have hbefore : EdgeData.read .value part.doc = .ok edge.data :=
      Shape.part_of_read (fun _ _ => rfl) hcanonical.distinct hplace Edge.commutes
        Edge.setBy.2.2.2 rfl hedge hpart
    have hafter : EdgeData.read .value (edit.data part).doc = .ok changed.data := by
      refine Shape.part_of_read (fun _ _ => rfl) hcanonical.distinct.changePart hplace Edge.commutes
        Edge.setBy.2.2.2 rfl hchanged ?_
      rw [Json.part?_changePart, hpart, Option.map_some]
    rw [Follows, hsame, hdata.of_ok hbefore hafter]

end VersionEdit

/-! ## Diagrams -/

/-- Where the second of two lists that are related item by item has an item, the first has one that
is related to it. -/
theorem exists_of_forall₂ {α β : Type} {R : α → β → Prop} {items : List α} {others : List β}
    (h : List.Forall₂ R items others) {place : Nat} {other : β}
    (hother : others[place]? = some other) :
    ∃ item, items[place]? = some item ∧ R item other := by
  induction h generalizing place with
  | nil => cases hother
  | @cons item first _ _ hone _ ih =>
    cases place with
    | zero =>
      cases hother
      exact ⟨item, rfl, hone⟩
    | succ place => exact ih hother

namespace Json

/-- The list with each of its items changed, according to its place. -/
def changeItems (change : Nat → Json → Json) : Json → Json
  | .arr items => .arr (items.mapIdx change)
  | value => value

/-- The document of a diagram with the versions of its edges changed. The edges are the member of
that name or the second item of a list. -/
def editVersions (edits : Nat → VersionEdit) : Json → Json :=
  changePart "edges" 1 (changeItems fun place => (edits place).edge)

/-- The document of an edge in the document of a diagram. -/
def edgeItem? (document : Json) (place : Nat) : Option Json :=
  match document.part? "edges" 1 with
  | some (.arr items) => items[place]?
  | _ => none

/-- The document of an edge's data in the document of a diagram. -/
def edgeData? (document : Json) (place : Nat) : Option Json :=
  (document.edgeItem? place).bind (·.part? "data" 6)

end Json

/-- A diagram that was read before and after changes of its document: the nodes are the same, and
each edge follows its change. -/
structure Diagram.Follows (edits : Nat → VersionEdit) (document : Json)
    (diagram changed : Diagram) : Prop where
  nodes : changed.nodes = diagram.nodes
  length : changed.edges.length = diagram.edges.length
  edges : ∀ (place : Nat) (edge other : Edge), diagram.edges[place]? = some edge →
    changed.edges[place]? = some other →
      (edits place).Follows (document.edgeData? place) edge other

/-- The edges of a list are read if and only if they are read after the change. -/
theorem Edge.isOk_readList {part : Json} (hcanonical : part.Canonical) (edits : Nat → VersionEdit) :
    (Doc.readList Edge.read .value part.doc).isOk =
      (Doc.readList Edge.read .value
        (part.changeItems fun place => (edits place).edge).doc).isOk := by
  cases hcanonical with
  | @arr items hinner =>
    have hitem (i : Nat) (h : i < items.length) :=
      ((edits i).read_edge (hinner items[i] (List.getElem_mem h))).isOk_eq
    rw [Bool.eq_iff_iff, Json.changeItems, Doc.isOk_readList_iff, Doc.isOk_readList_iff,
      List.forall_mem_iff_getElem, List.forall_mem_iff_getElem]
    simp only [List.length_mapIdx, List.getElem_mapIdx]
    exact forall_congr' fun i => forall_congr' fun h => by rw [hitem i h]
  | _ => rfl

/-- A diagram is read if and only if it is read after the changes. -/
theorem Diagram.read_editVersions {document : Json} (hcanonical : document.Canonical)
    (edits : Nat → VersionEdit) :
    Read.Rel (Diagram.Follows edits document) (Diagram.ofJson document)
      (Diagram.ofJson (document.editVersions edits)) := by
  cases hpart : document.part? "edges" 1 with
  | none =>
    have hdata (place : Nat) : document.edgeData? place = none := by
      rw [Json.edgeData?, Json.edgeItem?, hpart]
      rfl
    have hself (diagram : Diagram) : diagram.Follows edits document diagram := by
      refine ⟨rfl, rfl, fun place edge other hedge hother => ?_⟩
      rw [hdata]
      exact Option.some.inj (hother.symm.trans hedge)
    rw [Json.editVersions, Json.changePart_eq_self hpart]
    exact .refl hself _
  | some part =>
    have hplace : Diagram.shape.HasField "edges" 1 := ⟨by decide, rfl⟩
    have hrel : Read.Rel (fun diagram changed : Diagram => changed.nodes = diagram.nodes)
        (Diagram.ofJson document) (Diagram.ofJson (document.editVersions edits)) := by
      refine Shape.read_changePart (Doc.readList Edge.read)
        (fun edges diagram => { diagram with edges }) hcanonical.distinct hplace rfl rfl
        (fun _ _ _ _ h => h) ?_ ?_
      · simp only [Diagram.shape, List.forall_mem_cons]
        and_intros
        · exact Field.agrees_self rfl fun _ _ _ _ => rfl
        · exact Field.agrees_self rfl fun _ _ _ h => h
        · simp
      · intro part hpart
        exact Edge.isOk_readList (hcanonical.of_part? hpart) edits
    refine hrel.imp fun diagram changed hdiagram hchanged hnodes => ?_
    have hbefore : Doc.readList Edge.read .value part.doc = .ok diagram.edges :=
      Shape.part_of_read (fun _ _ => rfl) hcanonical.distinct hplace Diagram.commutes
        Diagram.setBy.2 rfl hdiagram hpart
    have hafter : Doc.readList Edge.read .value
        (part.changeItems fun place => (edits place).edge).doc = .ok changed.edges := by
      refine Shape.part_of_read (fun _ _ => rfl) hcanonical.distinct.changePart hplace
        Diagram.commutes Diagram.setBy.2 rfl hchanged ?_
      rw [Json.part?_changePart, hpart, Option.map_some]
    cases hcanonical.of_part? hpart with
    | @arr items hinner =>
      have hitems := Doc.readList_arr_iff.mp hbefore
      have hedited := Doc.readList_arr_iff.mp hafter
      refine ⟨hnodes, ?_, fun place edge other hedge hother => ?_⟩
      · rw [← hitems.length_eq, ← hedited.length_eq, List.length_mapIdx]
      · obtain ⟨item, hitem, hread⟩ := exists_of_forall₂ hitems hedge
        obtain ⟨written, hwritten, hreread⟩ := exists_of_forall₂ hedited hother
        rw [List.getElem?_mapIdx, hitem, Option.map_some] at hwritten
        cases hwritten
        have hdata : document.edgeData? place = item.part? "data" 6 := by
          simp only [Json.edgeData?, Json.edgeItem?, hpart, hitem, Option.bind_some]
        rw [hdata]
        exact ((edits place).read_edge (hinner item (List.mem_of_getElem? hitem))).of_ok hread
          hreread
    | _ => cases hbefore

end DiagramStudio
