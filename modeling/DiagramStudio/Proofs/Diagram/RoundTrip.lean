import DiagramStudio.Proofs.Document.Members
import DiagramStudio.Service.Contract

/-!
# Diagrams are read back

A diagram that is written and read again is the same diagram, as long as its numbers are finite and
the members that are not understood are such as reading leaves them; the order of the members does
not matter. The two directions meet in `Tidy`: whatever was read is tidy, and what is tidy is read
back.

Results:
* `NodeData.spare_of_read`, `EdgeData.spare_of_read`, `Diagram.tidy_of_read`: what was read is tidy.
* `NodeData.read_json`, `Node.read_json`, `Edge.read_json`: the parts of a diagram are read back.
* `Diagram.read_json`, `CodegenRequest.read_json`: a diagram is read back, also out of a request for
  code.
-/

namespace DiagramStudio

/-! ## Finite numbers -/

/-- Whether both coordinates are finite. -/
def Position.isFinite (position : Position) : Bool := position.x.isFinite && position.y.isFinite

/-- Whether the sides that a style gives are finite. -/
def NodeStyle.isFinite (style : NodeStyle) : Bool :=
  style.width.all Float.isFinite && style.height.all Float.isFinite

/-- Whether the place of a node and the sides that it has are finite. -/
def Node.isFinite (node : Node) : Bool :=
  Position.isFinite node.position && node.style.all NodeStyle.isFinite

/-- Whether all positions and sizes of a diagram are finite. -/
def Diagram.isFinite (diagram : Diagram) : Bool := diagram.nodes.all Node.isFinite

/-- A finite number is written as such. -/
theorem Json.ofFloat_of_isFinite {x : Float} (h : x.isFinite = true) :
    ofFloat x = .num (.double x) := by
  rw [ofFloat, if_pos h]

/-! ## Single fields -/

namespace Shape

variable {α β : Type} (shape : Shape α) {others : Others α} {record : α}

/-- A member that is read as the value of its field. -/
theorem takes_field (name : String) (read : Source → Doc → Read β) (set : β → α → α)
    (hfield : (shape.field? name).map (·.read) =
      some fun source doc record => (read source doc).map (set · record))
    {written : Json} {value : β} (hread : written.Shows read value) :
    shape.Takes others record [(name, written)] (set value record) [name] := by
  obtain ⟨field, hname, hreads⟩ := Option.map_eq_some_iff.mp hfield
  refine takes_singleton fun other hother => ?_
  simp only [takeMember, hname, hreads, hread hother, Except.map]

/-- A member that is only written for a value that is there. -/
theorem takes_option (name : String) (read : Source → Doc → Read (Option β))
    (set : Option β → α → α)
    (hfield : (shape.field? name).map (·.read) =
      some fun source doc record => (read source doc).map (set · record))
    (write : β → Json) (value : Option β) (hnone : set none record = record)
    (hread : ∀ v, value = some v → (write v).Shows read (some v)) :
    shape.Takes others record (Json.memberIf name (value.map write)) (set value record) [name] := by
  cases value with
  | none =>
    rw [hnone]
    exact shape.takes_nil others record name
  | some v => exact shape.takes_field name read set hfield (hread v rfl)

theorem takes_text (name : String) (set : Option String → α → α)
    (hfield : (shape.field? name).map (·.read) =
      some fun source doc record => (optionalText source doc).map (set · record))
    (text : Option String) (hnone : set none record = record) :
    shape.Takes others record (Json.memberIf name (text.map .str)) (set text record) [name] :=
  shape.takes_option name optionalText set hfield .str text hnone fun _ _ => Json.shows_str rfl

end Shape

/-! ## Nodes -/

theorem Position.commutes : Position.shape.Commutes Shape.skipOthers := by
  refine Shape.commutes_skip ?_
  simp only [Position.shape, List.pairwise_cons, List.forall_mem_cons]
  and_intros
  all_goals first | exact Field.apart_of_set rfl rfl fun _ _ _ => rfl | simp

theorem Position.read_json {position : Position} (h : Position.isFinite position = true) :
    (Position.json position).Shows Position.shape.read position := by
  rw [Position.isFinite, Bool.and_eq_true] at h
  have hread : ∀ x : Float, x.isFinite = true →
      (Json.ofFloat x).Shows (Field.plain Doc.double) x := by
    intro x hx
    rw [Json.ofFloat_of_isFinite hx]
    exact Json.shows_num rfl
  have x : Position.shape.Takes Shape.skipOthers .origin [("x", .ofFloat position.x)]
      { Position.origin with x := position.x } ["x"] :=
    Position.shape.takes_field "x" _ (fun x p => { p with x }) rfl (hread _ h.1)
  have y := x.append (Position.shape.takes_field "y" _ (fun y p => { p with y }) rfl (hread _ h.2))
  exact y.read Position.commutes (by decide)
    (by simp [Shape.requiredNames, Position.shape, Field.must])

theorem Doc.int32_ofInt (z : Int32) : (Json.ofInt z.toInt).doc.int32 = .ok z := by
  simp only [Json.ofInt, Json.doc, int32]
  rw [if_pos ⟨Int32.minValue_le_toInt z, Int32.toInt_le z⟩, Int32.ofInt_toInt]

theorem NodeStyle.commutes : NodeStyle.shape.Commutes Shape.skipOthers := by
  refine Shape.commutes_skip ?_
  simp only [NodeStyle.shape, List.pairwise_cons, List.forall_mem_cons]
  and_intros
  all_goals first | exact Field.apart_of_set rfl rfl fun _ _ _ => rfl | simp

theorem NodeStyle.read_json {style : NodeStyle} (h : style.isFinite = true) :
    style.json.Shows NodeStyle.shape.read style := by
  rw [NodeStyle.isFinite, Bool.and_eq_true] at h
  have hside : ∀ side : Option Float, side.all Float.isFinite = true → ∀ x, side = some x →
      (Json.ofFloat x).Shows (Field.plain (Doc.optional Doc.double)) (some x) := by
    rintro _ hside x rfl
    rw [Json.ofFloat_of_isFinite hside]
    exact Json.shows_num rfl
  have hlevel : ∀ z : Int32,
      (Json.ofInt z.toInt).Shows (Field.plain (Doc.optional Doc.int32)) (some z) := by
    intro z
    refine Json.shows_num ?_
    show ((Json.ofInt z.toInt).doc.int32).map some = _
    rw [Doc.int32_ofInt]
    rfl
  have width : NodeStyle.shape.Takes Shape.skipOthers {}
      (Json.memberIf "width" (style.width.map .ofFloat)) { width := style.width } ["width"] :=
    NodeStyle.shape.takes_option "width" _ (fun width s => { s with width }) rfl _ style.width rfl
      (hside style.width h.1)
  have height := width.append (NodeStyle.shape.takes_option "height" _
    (fun height s => { s with height }) rfl _ style.height rfl (hside style.height h.2))
  have zIndex := height.append (NodeStyle.shape.takes_option "zIndex" _
    (fun zIndex s => { s with zIndex }) rfl _ style.zIndex rfl fun z _ => hlevel z)
  exact zIndex.read NodeStyle.commutes (by decide)
    (by simp [Shape.requiredNames, NodeStyle.shape, Field.may])

/-- Keeps members of a node's data that are no fields. -/
abbrev NodeData.keepOthers : Shape.Others NodeData :=
  Shape.keepSorted NodeData.extra fun extra d => { d with extra }

theorem NodeData.commutes : NodeData.shape.Commutes NodeData.keepOthers := by
  refine Shape.commutes_keep (fun _ _ => rfl) (fun _ _ _ => rfl) ?fields ?mixed
  case fields =>
    simp only [NodeData.shape, List.pairwise_cons, List.forall_mem_cons]
    and_intros
    all_goals first | exact Field.apart_of_set rfl rfl fun _ _ _ => rfl | simp
  case mixed =>
    simp only [NodeData.shape, List.forall_mem_cons]
    and_intros
    all_goals first
      | exact Shape.commute_keepSorted rfl (fun _ _ _ => rfl) fun _ _ => rfl
      | simp

theorem NodeData.takes_ownMembers (data : NodeData) (others : Shape.Others NodeData) :
    NodeData.shape.Takes others {} data.ownMembers { data with extra := [] }
      (NodeData.shape.fields.map (·.name)) := by
  have label : NodeData.shape.Takes others {} [("label", .str data.label)]
      { label := data.label } ["label"] :=
    NodeData.shape.takes_field "label" _ (fun label d => { d with label }) rfl (Json.shows_str rfl)
  have category := label.append (NodeData.shape.takes_text "type"
    (fun category d => { d with category }) rfl data.category rfl)
  have color := category.append (NodeData.shape.takes_text "color"
    (fun color d => { d with color }) rfl data.color rfl)
  have icon := color.append (NodeData.shape.takes_text "icon"
    (fun icon d => { d with icon }) rfl data.icon rfl)
  have customIcon := icon.append (NodeData.shape.takes_text "customIcon"
    (fun customIcon d => { d with customIcon }) rfl data.customIcon rfl)
  have port := customIcon.append (NodeData.shape.takes_option "port" readPort
    (fun port d => { d with port }) rfl .str data.port rfl fun _ _ => Json.shows_str rfl)
  exact port.append (NodeData.shape.takes_text "dbName"
    (fun dbName d => { d with dbName }) rfl data.dbName rfl)

/-- Data are read back, if their other members are such as reading leaves them. -/
theorem NodeData.read_json {data : NodeData} (h : NodeData.shape.Spare data.extra) :
    data.json.Shows NodeData.read data := by
  have hextra := h.takes NodeData.extra (fun extra d => { d with extra }) (fun _ _ => rfl)
    (fun _ _ _ => rfl) data
  refine ((data.takes_ownMembers _).append hextra).readOpen NodeData.commutes
    (h.nodup_names (by decide)) ?_
  simp [Shape.requiredNames, NodeData.shape, Field.may]

theorem NodeKind.ofName_name (kind : NodeKind) : ofName kind.name = kind := by
  cases kind <;> rfl

theorem Node.commutes : Node.shape.Commutes Shape.skipOthers := by
  refine Shape.commutes_skip ?_
  simp only [Node.shape, List.pairwise_cons, List.forall_mem_cons]
  and_intros
  all_goals first | exact Field.apart_of_set rfl rfl fun _ _ _ => rfl | simp

/-- A node is read back, if its numbers are finite and its data can be read back. -/
theorem Node.read_json {node : Node} (hextra : NodeData.shape.Spare node.data.extra)
    (hfinite : node.isFinite = true) : node.json.Shows Node.read node := by
  rw [Node.isFinite, Bool.and_eq_true] at hfinite
  have hkind : (Json.str node.kind.name).Shows
      (Field.plain fun doc : Doc => doc.text.map NodeKind.ofName) node.kind :=
    Json.shows_str (congrArg Except.ok node.kind.ofName_name)
  have hstyle : ∀ style, node.style = some style →
      style.json.Shows NodeStyle.readOptional (some style) := by
    intro style hsome other halike
    rw [hsome] at hfinite
    have hread := NodeStyle.read_json hfinite.2 halike
    obtain ⟨changed, members, rfl, -, -⟩ := halike.exists_of_obj
    show (NodeStyle.shape.read .value (Json.obj members).doc).map some = _
    rw [hread]
    rfl
  have id : Node.shape.Takes Shape.skipOthers Node.shape.blank [("id", .str node.id)]
      { Node.shape.blank with id := node.id } ["id"] :=
    Node.shape.takes_field "id" _ (fun id n => { n with id }) rfl (Json.shows_str rfl)
  have kind := id.append (Node.shape.takes_field "type" _ (fun kind n => { n with kind }) rfl hkind)
  have position := kind.append (Node.shape.takes_field "position" _
    (fun position n => { n with position }) rfl (Position.read_json hfinite.1))
  have data := position.append (Node.shape.takes_field "data" _
    (fun data n => { n with data }) rfl (NodeData.read_json hextra))
  have style := data.append (Node.shape.takes_option "style" _
    (fun style n => { n with style }) rfl NodeStyle.json node.style rfl hstyle)
  exact style.read Node.commutes (by decide)
    (by simp [Shape.requiredNames, Node.shape, Field.must, Field.may])

/-! ## Edges -/

theorem TlsVersion.ofSpelling?_name (version : TlsVersion) :
    ofSpelling? version.name = some version := by
  cases version <;> decide +kernel

/-- Keeps members of an edge's data that are no fields. -/
abbrev EdgeData.keepOthers : Shape.Others EdgeData :=
  Shape.keepSorted EdgeData.extra fun extra d => { d with extra }

theorem EdgeData.commutes : EdgeData.shape.Commutes EdgeData.keepOthers := by
  refine Shape.commutes_keep (fun _ _ => rfl) (fun _ _ _ => rfl) ?fields ?mixed
  case fields =>
    simp only [EdgeData.shape, List.pairwise_cons, List.forall_mem_cons]
    and_intros
    all_goals first | exact Field.apart_of_set rfl rfl fun _ _ _ => rfl | simp
  case mixed =>
    simp only [EdgeData.shape, List.forall_mem_cons]
    and_intros
    all_goals first
      | exact Shape.commute_keepSorted rfl (fun _ _ _ => rfl) fun _ _ => rfl
      | simp

theorem EdgeData.takes_ownMembers (data : EdgeData) (others : Shape.Others EdgeData) :
    EdgeData.shape.Takes others {} data.ownMembers { data with extra := [] }
      (EdgeData.shape.fields.map (·.name)) := by
  have hversion : ∀ version : TlsVersion,
      (Json.str version.name).Shows readVersion (some version) :=
    fun version => Json.shows_str (congrArg Except.ok version.ofSpelling?_name)
  have tls : EdgeData.shape.Takes others {}
      (Json.memberIf "tls" (if data.tls then some (.bool true) else none)) { tls := data.tls }
      ["tls"] := by
    cases data.tls with
    | false => exact EdgeData.shape.takes_nil others {} "tls"
    | true =>
      exact EdgeData.shape.takes_field "tls" _ (fun tls d => { d with tls }) rfl
        (Json.shows_bool rfl)
  have version := tls.append (EdgeData.shape.takes_option "tlsVersion" readVersion
    (fun tlsVersion d => { d with tlsVersion }) rfl (fun version => .str version.name)
    data.tlsVersion rfl fun version _ => hversion version)
  have cert := version.append (EdgeData.shape.takes_text "tlsCert"
    (fun tlsCert d => { d with tlsCert }) rfl data.tlsCert rfl)
  exact cert.append (EdgeData.shape.takes_text "tlsKey"
    (fun tlsKey d => { d with tlsKey }) rfl data.tlsKey rfl)

/-- Data are read back, if their other members are such as reading leaves them. -/
theorem EdgeData.read_json {data : EdgeData} (h : EdgeData.shape.Spare data.extra) :
    data.json.Shows EdgeData.read data := by
  have hextra := h.takes EdgeData.extra (fun extra d => { d with extra }) (fun _ _ => rfl)
    (fun _ _ _ => rfl) data
  refine ((data.takes_ownMembers _).append hextra).readOpen EdgeData.commutes
    (h.nodup_names (by decide)) ?_
  simp [Shape.requiredNames, EdgeData.shape, Field.may]

theorem EdgeData.eq_of_isEmpty {data : EdgeData} (h : data.isEmpty = true) : data = {} := by
  obtain ⟨tls, version, cert, key, extra⟩ := data
  simp only [isEmpty, Bool.and_eq_true, Bool.not_eq_true', Option.isNone_iff_eq_none,
    List.isEmpty_iff] at h
  obtain ⟨⟨⟨⟨rfl, rfl⟩, rfl⟩, rfl⟩, rfl⟩ := h
  rfl

theorem Edge.commutes : Edge.shape.Commutes Shape.skipOthers := by
  refine Shape.commutes_skip ?_
  simp only [Edge.shape, List.pairwise_cons, List.forall_mem_cons]
  and_intros
  all_goals first | exact Field.apart_of_set rfl rfl fun _ _ _ => rfl | simp

/-- An edge is read back, if its data can be read back. -/
theorem Edge.read_json {edge : Edge} (hextra : EdgeData.shape.Spare edge.data.extra) :
    edge.json.Shows Edge.read edge := by
  have id : Edge.shape.Takes Shape.skipOthers Edge.shape.blank [("id", .str edge.id)]
      { Edge.shape.blank with id := edge.id } ["id"] :=
    Edge.shape.takes_field "id" _ (fun id e => { e with id }) rfl (Json.shows_str rfl)
  have source := id.append (Edge.shape.takes_field "source" _ (fun source e => { e with source })
    rfl (Json.shows_str (rfl : Field.plain Doc.text .value (.str edge.source) = .ok edge.source)))
  have target := source.append (Edge.shape.takes_field "target" _
    (fun target e => { e with target }) rfl
    (Json.shows_str (rfl : Field.plain Doc.text .value (.str edge.target) = .ok edge.target)))
  have sourceHandle := target.append (Edge.shape.takes_text "sourceHandle"
    (fun sourceHandle e => { e with sourceHandle }) rfl edge.sourceHandle rfl)
  have targetHandle := sourceHandle.append (Edge.shape.takes_text "targetHandle"
    (fun targetHandle e => { e with targetHandle }) rfl edge.targetHandle rfl)
  have type := targetHandle.append (Edge.shape.takes_field "type" _ (fun type e => { e with type })
    rfl (Json.shows_str (rfl : Field.plain Doc.text .value (.str edge.type) = .ok edge.type)))
  have data : Edge.shape.Takes Shape.skipOthers { edge with data := {} }
      (Json.memberIf "data" (if edge.data.isEmpty then none else some edge.data.json)) edge
      ["data"] := by
    cases hempty : edge.data.isEmpty with
    | true =>
      -- Data that say nothing are not written, and data that are not written say nothing.
      rw [← EdgeData.eq_of_isEmpty hempty]
      exact Edge.shape.takes_nil _ edge "data"
    | false =>
      exact Edge.shape.takes_field "data" _ (fun data e => { e with data }) rfl
        (EdgeData.read_json hextra)
  refine (type.append data).read Edge.commutes (by decide) ?_
  simp [Shape.requiredNames, Edge.shape, Field.must, Field.may]

/-! ## Diagrams -/

/-- Whether the members that are not understood are such as reading leaves them. -/
structure Diagram.Tidy (diagram : Diagram) : Prop where
  nodes : ∀ node ∈ diagram.nodes, NodeData.shape.Spare node.data.extra
  edges : ∀ edge ∈ diagram.edges, EdgeData.shape.Spare edge.data.extra

theorem Diagram.commutes : Diagram.shape.Commutes Shape.skipOthers := by
  refine Shape.commutes_skip ?_
  simp only [Diagram.shape, List.pairwise_cons, List.forall_mem_cons]
  and_intros
  all_goals first | exact Field.apart_of_set rfl rfl fun _ _ _ => rfl | simp

theorem Diagram.takes_members {diagram : Diagram} (htidy : diagram.Tidy)
    (hfinite : diagram.isFinite = true) :
    Diagram.shape.Takes Shape.skipOthers {} diagram.members diagram ["nodes", "edges"] := by
  rw [isFinite, List.all_eq_true] at hfinite
  have nodes : Diagram.shape.Takes Shape.skipOthers {}
      [("nodes", .arr (diagram.nodes.map Node.json))] { nodes := diagram.nodes } ["nodes"] :=
    Diagram.shape.takes_field "nodes" _ (fun nodes d => { d with nodes }) rfl
      (Doc.readList_docs fun node hnode =>
        Node.read_json (htidy.nodes node hnode) (hfinite node hnode))
  exact nodes.append (Diagram.shape.takes_field "edges" _ (fun edges d => { d with edges }) rfl
    (Doc.readList_docs fun edge hedge => Edge.read_json (htidy.edges edge hedge)))

/-- A diagram is read back from the value that it is written as. -/
theorem Diagram.read_json {diagram : Diagram} (htidy : diagram.Tidy)
    (hfinite : diagram.isFinite = true) : diagram.json.Shows Diagram.read diagram :=
  (takes_members htidy hfinite).read Diagram.commutes (by decide)
    (by simp [Shape.requiredNames, shape, Field.may])

/-- A diagram is read back from a request for code, of which it is a part. -/
theorem CodegenRequest.read_json {request : CodegenRequest} (htidy : request.diagram.Tidy)
    (hfinite : request.diagram.isFinite = true) :
    request.json.Shows Diagram.read request.diagram := by
  have project : Diagram.shape.Takes Shape.skipOthers request.diagram
      [("project_name", .str request.projectName)] request.diagram ["project_name"] := by
    refine Shape.takes_singleton ?_
    rintro _ ⟨⟩
    rfl
  refine ((Diagram.takes_members htidy hfinite).append project).read Diagram.commutes (by decide) ?_
  simp [Shape.requiredNames, Diagram.shape, Field.may]

/-! ## What was read is tidy -/

/-- An open record whose fields do not touch the members that it keeps has spare members when it was
read. -/
theorem Shape.spare_of_readOpen {α : Type} {shape : Shape α} (kept : α → List (String × Json))
    (keep : List (String × Json) → α → α)
    (hkept : ∀ members record, kept (keep members record) = members)
    (hblank : kept shape.blank = [])
    (hfields : ∀ field ∈ shape.fields, field.Keeps fun record => shape.Spare (kept record))
    {source : Source} {doc : Doc} {record : α}
    (h : shape.readOpen (keepSorted kept keep) source doc = .ok record) :
    shape.Spare (kept record) := by
  refine readOpen_keeps (P := fun record => shape.Spare (kept record)) ?_ hfields ?_ h
  · rw [hblank]
    exact spare_nil
  · intro source name doc record result hforeign hrecord hkeep
    simp only [keepSorted, keepMember, Read.bind_eq_ok] at hkeep
    obtain ⟨value, hvalue, hresult⟩ := hkeep
    cases hresult
    rw [hkept]
    exact hrecord.insert hforeign (Doc.canonical_of_json hvalue)

theorem NodeData.spare_of_read {source : Source} {doc : Doc} {data : NodeData}
    (h : NodeData.read source doc = .ok data) : NodeData.shape.Spare data.extra := by
  refine Shape.spare_of_readOpen NodeData.extra (fun extra d => { d with extra }) (fun _ _ => rfl) rfl
    ?_ h
  simp only [NodeData.shape, List.forall_mem_cons]
  refine ⟨?_, ?_, ?_, ?_, ?_, ?_, ?_, by simp⟩ <;> exact Field.keeps_may fun _ _ _ _ _ h => h

theorem EdgeData.spare_of_read {source : Source} {doc : Doc} {data : EdgeData}
    (h : EdgeData.read source doc = .ok data) : EdgeData.shape.Spare data.extra := by
  refine Shape.spare_of_readOpen EdgeData.extra (fun extra d => { d with extra }) (fun _ _ => rfl) rfl
    ?_ h
  simp only [EdgeData.shape, List.forall_mem_cons]
  refine ⟨?_, ?_, ?_, ?_, by simp⟩ <;> exact Field.keeps_may fun _ _ _ _ _ h => h

theorem Node.spare_of_read {source : Source} {doc : Doc} {node : Node}
    (h : Node.read source doc = .ok node) : NodeData.shape.Spare node.data.extra := by
  refine Shape.read_keeps (P := fun n : Node => NodeData.shape.Spare n.data.extra) Shape.spare_nil
    ?_ h
  simp only [Node.shape, List.forall_mem_cons]
  refine ⟨Field.keeps_must ?id, Field.keeps_may ?kind, Field.keeps_may ?position,
    Field.keeps_may ?data, Field.keeps_may ?style, by simp⟩
  case data => exact fun _ _ _ _ hdata _ => NodeData.spare_of_read hdata
  all_goals exact fun _ _ _ _ _ h => h

theorem Edge.spare_of_read {source : Source} {doc : Doc} {edge : Edge}
    (h : Edge.read source doc = .ok edge) : EdgeData.shape.Spare edge.data.extra := by
  refine Shape.read_keeps (P := fun e : Edge => EdgeData.shape.Spare e.data.extra) Shape.spare_nil
    ?_ h
  simp only [Edge.shape, List.forall_mem_cons]
  refine ⟨Field.keeps_must ?id, Field.keeps_must ?source, Field.keeps_must ?target,
    Field.keeps_may ?sourceHandle, Field.keeps_may ?targetHandle, Field.keeps_may ?type,
    Field.keeps_may ?data, by simp⟩
  case data => exact fun _ _ _ _ hdata _ => EdgeData.spare_of_read hdata
  all_goals exact fun _ _ _ _ _ h => h

theorem Diagram.tidy_of_read {source : Source} {doc : Doc} {diagram : Diagram}
    (h : Diagram.read source doc = .ok diagram) : diagram.Tidy := by
  have hblank : Diagram.Tidy {} :=
    ⟨fun _ h => absurd h List.not_mem_nil, fun _ h => absurd h List.not_mem_nil⟩
  refine Shape.read_keeps (P := Diagram.Tidy) hblank ?_ h
  simp only [Diagram.shape, List.forall_mem_cons]
  refine ⟨Field.keeps_may ?_, Field.keeps_may ?_, by simp⟩
  · intro source doc nodes record hnodes hrecord
    exact ⟨Doc.forall_of_readList (fun _ _ _ => Node.spare_of_read) hnodes, hrecord.edges⟩
  · intro source doc edges record hedges hrecord
    exact ⟨hrecord.nodes, Doc.forall_of_readList (fun _ _ _ => Edge.spare_of_read) hedges⟩

end DiagramStudio
