import DiagramStudio.Proofs.Diagram.RoundTrip
import DiagramStudio.Proofs.Graph.Sound

/-!
# What reading back cannot change

Of a diagram in which anything may stand, it is not said that it is read back. But when it is, every
node has its id again and every edge its id and its two nodes, in the same order, and data whose
other members are such as reading leaves them are the same as before.

Results:
* `Shape.taken_of_read`: what is read from an object comes of taking its members in the order in
  which they were written.
* `Shape.keeps_of_taken`, `Shape.yields_field`, `Shape.yields_keep`: what taking members does.
* `Shape.Yields.of_mem`: what is known of a record of which a member is known.
* `Node.reread`, `Edge.reread`, `Diagram.reread`: what is the same when a diagram is read back.
-/

namespace DiagramStudio

namespace Shape

variable {α : Type} {shape : Shape α} {others : Others α} {before after : α}
  {members rest : List (String × Json)} {P Q : α → Prop}

/-! ## Taking what is read -/

/-- When the members of an object with different names are read, each of them is taken. -/
theorem foldlM_takeMember {seen all : List String} (hnodup : (members.map Prod.fst).Nodup)
    (hfresh : ∀ name ∈ members.map Prod.fst, name ∉ seen)
    (h : (Json.memberDocs members).foldlM (shape.readMember others .value) (before, seen) =
      .ok (after, all)) :
    members.foldlM (shape.takeMember others) before = .ok after := by
  induction members generalizing before seen with
  | nil =>
    cases h
    rfl
  | cons member members ih =>
    obtain ⟨key, value⟩ := member
    rw [Json.memberDocs, List.foldlM_cons, Read.bind_eq_ok] at h
    obtain ⟨⟨next, nextSeen⟩, hnext, hrest⟩ := h
    rw [readMember_doc shape others (hfresh key List.mem_cons_self)] at hnext
    cases htake : shape.takeMember others before (key, value) with
    | error reason =>
      rw [htake] at hnext
      cases hnext
    | ok record =>
      rw [htake] at hnext
      cases hnext
      rw [List.foldlM_cons, htake, Read.ok_bind]
      exact ih (List.nodup_cons.mp hnodup).2 (unseen_rest hnodup hfresh) hrest

/-- What is read from an object comes of taking its members, in any order. -/
theorem taken_of_read (hcommutes : shape.Commutes skipOthers)
    {changed permuted : List (String × Json)} (hnodup : (changed.map Prod.fst).Nodup)
    (hperm : changed.Perm permuted)
    (h : shape.read .value (Json.obj permuted).doc = .ok after) :
    changed.foldlM (shape.takeMember skipOthers) shape.blank = .ok after := by
  simp only [Json.doc, Shape.read, Source.enter, Read.ok_bind, Shape.readMembers,
    Read.bind_eq_ok] at h
  obtain ⟨⟨record, all⟩, hread, -, -, -, -, hrecord⟩ := h
  cases hrecord
  have hpermuted : (permuted.map Prod.fst).Nodup := (hperm.map Prod.fst).nodup_iff.mp hnodup
  exact hcommutes.foldlM_perm hperm.symm hpermuted
    (foldlM_takeMember hpermuted (fun _ _ => List.not_mem_nil) hread)

/-- Whether every record that comes of taking the members, or whatever is like them, has a
property. -/
def Yields (shape : Shape α) (others : Others α) (before : α) (members : List (String × Json))
    (P : α → Prop) : Prop :=
  ∀ ⦃alike⦄, Json.AlikeMembers members alike → ∀ after,
    alike.foldlM (shape.takeMember others) before = .ok after → P after

theorem Yields.append (h : shape.Yields others before members P)
    (hrest : ∀ between, P between → shape.Yields others between rest Q) :
    shape.Yields others before (members ++ rest) Q := by
  intro alike halike after hafter
  obtain ⟨first, second, rfl, hfirst, hsecond⟩ := halike.exists_append
  rw [List.foldlM_append, Read.bind_eq_ok] at hafter
  obtain ⟨between, hbetween, hafter⟩ := hafter
  exact hrest between (h hfirst between hbetween) hsecond after hafter

/-- The member of a field sets what is read from it. -/
theorem yields_field {β : Type} (name : String) (read : Source → Doc → Read β) (set : β → α → α)
    (hfield : (shape.field? name).map (·.read) =
      some fun source doc record => (read source doc).map (set · record))
    {written : Json}
    (h : ∀ other value, written.Alike other → read .value other.doc = .ok value →
      P (set value before)) :
    shape.Yields others before [(name, written)] P := by
  intro alike halike after hafter
  obtain ⟨⟨key, other⟩, rest, ⟨rfl, hother⟩, hrest, rfl⟩ := List.forall₂_cons_left_iff.mp halike
  obtain rfl := List.forall₂_nil_left_iff.mp hrest
  obtain ⟨field, hname, hreads⟩ := Option.map_eq_some_iff.mp hfield
  rw [List.foldlM_cons, Read.bind_eq_ok] at hafter
  obtain ⟨next, hnext, hafter⟩ := hafter
  cases hafter
  simp only [takeMember, hname, hreads] at hnext
  cases hread : read .value other.doc with
  | error reason =>
    rw [hread] at hnext
    cases hnext
  | ok value =>
    rw [hread] at hnext
    cases hnext
    exact h other value hother hread

/-- Members leave alone what the other members do not change, and no field that is named by one of
them. -/
theorem keeps_of_taken (touched : List String)
    (hfields : ∀ field ∈ shape.fields, field.name ∈ touched ∨ field.Keeps P)
    (hothers : ∀ name doc record result, P record → others .value name doc record = .ok result →
      P result)
    (hnames : ∀ member ∈ members, member.1 ∉ touched) (h : P before)
    (hafter : members.foldlM (shape.takeMember others) before = .ok after) : P after := by
  induction members generalizing before with
  | nil =>
    cases hafter
    exact h
  | cons member members ih =>
    rw [List.forall_mem_cons] at hnames
    rw [List.foldlM_cons, Read.bind_eq_ok] at hafter
    obtain ⟨next, hnext, hafter⟩ := hafter
    refine ih hnames.2 ?_ hafter
    unfold takeMember at hnext
    split at hnext
    · next field hfield =>
      have hkeeps := (hfields field (mem_of_field? hfield)).resolve_left
        (name_of_field? hfield ▸ hnames.1)
      exact hkeeps _ _ _ _ h hnext
    · exact hothers _ _ _ _ h hnext

/-- Members leave alone what no field changes that is named by one of them. -/
theorem yields_keep (touched : List String)
    (hfields : ∀ field ∈ shape.fields, field.name ∈ touched ∨ field.Keeps P)
    (hnames : ∀ name ∈ members.map Prod.fst, name ∉ touched) (h : P before) :
    shape.Yields skipOthers before members P := by
  intro alike halike after hafter
  rw [halike.names_eq] at hnames
  refine keeps_of_taken touched hfields (fun _ _ _ _ hrecord hskip => ?_)
    (fun member hmember => hnames member.1 (List.mem_map_of_mem hmember)) h hafter
  exact eq_of_skipOthers hskip ▸ hrecord

/-- What is read from the members of an object is what they yield, in whatever order they stand. -/
theorem Yields.read (h : shape.Yields skipOthers shape.blank members P)
    (hcommutes : shape.Commutes skipOthers) (hnodup : (members.map Prod.fst).Nodup)
    {written : Json} (halike : (Json.obj members).Alike written)
    (hread : shape.read .value written.doc = .ok after) : P after := by
  obtain ⟨changed, permuted, rfl, hchanged, hperm⟩ := halike.exists_of_obj
  rw [hchanged.names_eq] at hnodup
  exact h hchanged after (taken_of_read hcommutes hnodup hperm hread)

/-- Whether what `get` reads off a record is set by the field of one name alone. -/
def SetBy {β : Type} (shape : Shape α) (name : String) (get : α → β) : Prop :=
  ∀ field ∈ shape.fields, field.name = name ∨ ∀ value, field.Keeps fun record => get record = value

section Member

variable {β : Type} {get : α → β} {set : β → α → α} {name : String}

theorem SetBy.keeps (hset : shape.SetBy name get) (P : β → Prop) :
    ∀ field ∈ shape.fields, field.name ∈ [name] ∨ field.Keeps fun record => P (get record) := by
  intro field hfield
  refine (hset field hfield).imp List.mem_singleton.mpr fun hkeeps => ?_
  intro source doc record after hrecord hread
  have hsame : get after = get record := hkeeps (get record) source doc record after rfl hread
  exact hsame ▸ hrecord

/-- Behind a member there is no other one of its name. -/
theorem notMem_behind {front back : List (String × Json)} {written : Json}
    (h : ((front ++ (name, written) :: back).map Prod.fst).Nodup) :
    ∀ other ∈ back.map Prod.fst, other ∉ [name] := by
  rintro other hother hsame
  rw [List.mem_singleton] at hsame
  rw [List.map_append, List.map_cons] at h
  have hrest := (List.nodup_append.mp h).2.1
  exact (List.nodup_cons.mp hrest).1 (hsame ▸ hother)

/-- Of a record with a member that no other one sets, that is known which is known of every value
that can be read from the member. -/
theorem Yields.of_mem {P : β → Prop} (hset : shape.SetBy name get)
    (hget : ∀ value record, get (set value record) = value) (read : Source → Doc → Read β)
    (hfield : (shape.field? name).map (·.read) =
      some fun source doc record => (read source doc).map (set · record))
    {written : Json} (hmem : (name, written) ∈ members) (hnodup : (members.map Prod.fst).Nodup)
    (h : ∀ other value, written.Alike other → read .value other.doc = .ok value → P value) :
    shape.Yields skipOthers before members fun record => P (get record) := by
  obtain ⟨front, back, rfl⟩ := List.append_of_mem hmem
  have hback := notMem_behind hnodup
  have hfront : shape.Yields skipOthers before front fun _ => True := fun _ _ _ _ => trivial
  refine hfront.append fun between _ => ?_
  rw [← List.singleton_append]
  refine (yields_field (P := fun record => P (get record)) name read set hfield ?_).append
    fun record => yields_keep [name] (hset.keeps P) hback
  intro other value hother hread
  rw [hget]
  exact h other value hother hread

end Member

/-- The text that a member writes, the record has. -/
theorem Yields.of_text {get : α → String} {set : String → α → α} {name text : String}
    (hset : shape.SetBy name get) (hget : ∀ text record, get (set text record) = text)
    (hfield : (shape.field? name).map (·.read) =
      some fun source doc record => (Field.plain Doc.text source doc).map (set · record))
    (hmem : (name, .str text) ∈ members) (hnodup : (members.map Prod.fst).Nodup) :
    shape.Yields skipOthers before members fun record => get record = text := by
  refine of_mem (P := (· = text)) hset hget (Field.plain Doc.text) hfield hmem hnodup ?_
  rintro _ _ ⟨⟩ ⟨⟩
  rfl

end Shape

/-! ## Nodes -/

/-- What is the same of a node that was read back. -/
structure Node.Reread (node reread : Node) : Prop where
  id : reread.id = node.id
  data : NodeData.shape.Spare node.data.extra → reread.data = node.data

/-- The members of a node, as far as it matters for what is the same. -/
theorem Node.json_eq_obj (node : Node) :
    ∃ members, node.json = .obj members ∧ (members.map Prod.fst).Nodup ∧
      ("id", .str node.id) ∈ members ∧ ("data", node.data.json) ∈ members := by
  refine ⟨_, rfl, ?_, by simp, by simp⟩
  cases node.style <;> simp [Json.memberIf]

theorem Node.setBy_id : Node.shape.SetBy "id" Node.id := by
  simp only [Shape.SetBy, Node.shape, List.forall_mem_cons]
  refine ⟨.inl rfl, .inr ?_, .inr ?_, .inr ?_, .inr ?_, by simp⟩ <;>
    exact fun id => Field.keeps_may fun _ _ _ _ _ h => h

theorem Node.setBy_data : Node.shape.SetBy "data" Node.data := by
  simp only [Shape.SetBy, Node.shape, List.forall_mem_cons]
  refine ⟨.inr fun data => Field.keeps_must fun _ _ _ _ _ h => h, .inr ?_, .inr ?_, .inl rfl,
    .inr ?_, by simp⟩ <;> exact fun data => Field.keeps_may fun _ _ _ _ _ h => h

theorem Node.reread {node reread : Node} {written : Json} (halike : node.json.Alike written)
    (h : Node.read .value written.doc = .ok reread) : node.Reread reread := by
  obtain ⟨members, hjson, hnodup, hid, hdata⟩ := node.json_eq_obj
  rw [hjson] at halike
  have hyields : ∀ {P : Node → Prop},
      Node.shape.Yields Shape.skipOthers Node.shape.blank members P → P reread :=
    fun hyields => hyields.read Node.commutes hnodup halike h
  refine ⟨?id, fun hspare => ?data⟩
  case id => exact hyields (Shape.Yields.of_text Node.setBy_id (fun _ _ => rfl) rfl hid hnodup)
  case data =>
    refine hyields (Shape.Yields.of_mem (P := (· = node.data)) Node.setBy_data (fun _ _ => rfl)
      NodeData.read rfl hdata hnodup ?_)
    intro other data hother hread
    exact Except.ok.inj (hread.symm.trans (NodeData.read_json hspare hother))

/-! ## Edges -/

/-- What is the same of an edge that was read back. -/
structure Edge.Reread (edge reread : Edge) : Prop where
  wiring : reread.wiring = edge.wiring
  data : EdgeData.shape.Spare edge.data.extra → reread.data = edge.data

theorem Edge.Reread.id {edge reread : Edge} (h : edge.Reread reread) : reread.id = edge.id :=
  congrArg Prod.fst h.wiring

/-- The members of an edge, as far as it matters for what is the same. -/
theorem Edge.json_eq_obj (edge : Edge) :
    ∃ members, edge.json = .obj members ∧ (members.map Prod.fst).Nodup ∧
      ("id", .str edge.id) ∈ members ∧ ("source", .str edge.source) ∈ members ∧
      ("target", .str edge.target) ∈ members ∧
      if edge.data.isEmpty then "data" ∉ members.map Prod.fst
      else ("data", edge.data.json) ∈ members := by
  obtain ⟨id, source, target, sourceHandle, targetHandle, type, data⟩ := edge
  refine ⟨_, rfl, ?_, by simp, by simp, by simp, ?_⟩ <;>
    cases sourceHandle <;> cases targetHandle <;> cases data.isEmpty <;> simp [Json.memberIf]

theorem Edge.setBy : Edge.shape.SetBy "id" Edge.id ∧ Edge.shape.SetBy "source" Edge.source ∧
    Edge.shape.SetBy "target" Edge.target ∧ Edge.shape.SetBy "data" Edge.data := by
  simp only [Shape.SetBy, Edge.shape, List.forall_mem_cons]
  and_intros
  all_goals first
    | exact .inl rfl
    | exact .inr fun value => Field.keeps_must fun _ _ _ _ _ h => h
    | exact .inr fun value => Field.keeps_may fun _ _ _ _ _ h => h
    | simp

theorem Edge.reread {edge reread : Edge} {written : Json} (halike : edge.json.Alike written)
    (h : Edge.read .value written.doc = .ok reread) : edge.Reread reread := by
  obtain ⟨members, hjson, hnodup, hid, hsource, htarget, hdata⟩ := edge.json_eq_obj
  obtain ⟨hsetId, hsetSource, hsetTarget, hsetData⟩ := Edge.setBy
  rw [hjson] at halike
  have hyields : ∀ {P : Edge → Prop},
      Edge.shape.Yields Shape.skipOthers Edge.shape.blank members P → P reread :=
    fun hyields => hyields.read Edge.commutes hnodup halike h
  refine ⟨?wiring, fun hspare => ?data⟩
  case wiring =>
    have id := hyields (Shape.Yields.of_text hsetId (fun _ _ => rfl) rfl hid hnodup)
    have source := hyields (Shape.Yields.of_text hsetSource (fun _ _ => rfl) rfl hsource hnodup)
    have target := hyields (Shape.Yields.of_text hsetTarget (fun _ _ => rfl) rfl htarget hnodup)
    rw [Edge.wiring, id, source, target, Edge.wiring]
  case data =>
    cases hempty : edge.data.isEmpty with
    | true =>
      -- an edge without data is written without the member, and read as it was before any
      rw [hempty, if_pos rfl] at hdata
      rw [EdgeData.eq_of_isEmpty hempty]
      refine hyields (Shape.yields_keep ["data"] (hsetData.keeps (· = {})) ?_ rfl)
      rintro name hname hsame
      exact hdata (List.mem_singleton.mp hsame ▸ hname)
    | false =>
      rw [hempty, if_neg Bool.false_ne_true] at hdata
      refine hyields (Shape.Yields.of_mem (P := (· = edge.data)) hsetData (fun _ _ => rfl)
        EdgeData.read rfl hdata hnodup ?_)
      intro other data hother hread
      exact Except.ok.inj (hread.symm.trans (EdgeData.read_json hspare hother))

/-! ## Diagrams -/

/-- Of a list that was read back, each item has what every item has that is read back. -/
theorem Doc.forall₂_of_readList {β : Type} {read : Source → Doc → Read β} {write : β → Json}
    {R : β → β → Prop}
    (hread : ∀ item written value, (write item).Alike written →
      read .value written.doc = .ok value → R item value)
    {items values : List β} {written : Json} (halike : (Json.arr (items.map write)).Alike written)
    (h : Doc.readList read .value written.doc = .ok values) : List.Forall₂ R items values := by
  obtain ⟨others, rfl, hinner⟩ := halike.exists_of_arr
  have hvalues := readList_arr_iff.mp h
  rw [List.forall₂_map_left_iff] at hinner
  clear halike h
  induction hinner generalizing values with
  | nil =>
    cases hvalues
    exact .nil
  | cons hone _ ih =>
    obtain ⟨first, later, hfirst, hlater, rfl⟩ := List.forall₂_cons_left_iff.mp hvalues
    exact .cons (hread _ _ first hone hfirst) (ih hlater)

/-- What is the same of a diagram that was read back. -/
structure Diagram.Reread (diagram reread : Diagram) : Prop where
  nodes : List.Forall₂ Node.Reread diagram.nodes reread.nodes
  edges : List.Forall₂ Edge.Reread diagram.edges reread.edges

theorem Diagram.setBy : Diagram.shape.SetBy "nodes" Diagram.nodes ∧
    Diagram.shape.SetBy "edges" Diagram.edges := by
  simp only [Shape.SetBy, Diagram.shape, List.forall_mem_cons]
  refine ⟨⟨.inl rfl, .inr ?_, by simp⟩, .inr ?_, .inl rfl, by simp⟩ <;>
    exact fun items => Field.keeps_may fun _ _ _ _ _ h => h

theorem Diagram.reread {diagram reread : Diagram} {written : Json}
    (halike : diagram.json.Alike written) (h : Diagram.ofJson written = .ok reread) :
    diagram.Reread reread := by
  obtain ⟨hsetNodes, hsetEdges⟩ := Diagram.setBy
  have hnodup : (diagram.members.map Prod.fst).Nodup := by simp [members]
  have hyields : ∀ {P : Diagram → Prop},
      Diagram.shape.Yields Shape.skipOthers Diagram.shape.blank diagram.members P → P reread :=
    fun hyields => hyields.read Diagram.commutes hnodup halike h
  refine ⟨?nodes, ?edges⟩
  case nodes =>
    refine hyields (Shape.Yields.of_mem (P := List.Forall₂ Node.Reread diagram.nodes) hsetNodes
      (fun _ _ => rfl) (Doc.readList Node.read) rfl List.mem_cons_self hnodup ?_)
    exact fun _ _ hother hread => Doc.forall₂_of_readList (fun _ _ _ => Node.reread) hother hread
  case edges =>
    refine hyields (Shape.Yields.of_mem (P := List.Forall₂ Edge.Reread diagram.edges) hsetEdges
      (fun _ _ => rfl) (Doc.readList Edge.read) rfl (List.mem_cons_of_mem _ List.mem_cons_self)
      hnodup ?_)
    exact fun _ _ hother hread => Doc.forall₂_of_readList (fun _ _ _ => Edge.reread) hother hread

end DiagramStudio
