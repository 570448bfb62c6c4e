import DiagramStudio.Proofs.Canvas.Selection

/-!
# Edits and forms agree

What an inspector shows, which edits it accepts, and what an edit writes are said in different
places: the form lists the fields of an element, the edit looks at the element and makes a patch,
and the patch is merged into the data. Here the three are brought together. An edit is offered by a
form or it is not, and it writes into a form; an inspector accepts what its form offers, and shows
afterwards what was written.

Results:
* `isDatabase_iff`: a category is that of a database if it mentions one, in any case.
* `Node.form_patched`, `Edge.form_patched`: the form of patched data is what was written into the
  form.
* `applyEdit_node`, `applyEdit_edge`: what an edit does to the element that is selected.
* `applyEdit_of_offers`, `applyEdit_of_not_offers`: an edit that is offered is carried out and shown,
  any other is refused.
* `edit_accepted_iff_offered`: an inspector accepts what its form offers and shows what was written.
-/

namespace DiagramStudio

/-! ## Databases -/

theorem Text.occursAmong_iff {part whole : List Char} :
    Text.occursAmong part whole = true ↔ part <:+: whole := by
  induction whole with
  | nil => rw [Text.occursAmong, List.isEmpty_iff, List.infix_nil]
  | cons c rest ih =>
    rw [Text.occursAmong, Bool.or_eq_true, List.isPrefixOf_iff_prefix, ih, List.infix_cons_iff]

/-- Whether a text mentions a database, in any case. -/
def MentionsDatabase (text : String) : Prop :=
  ∃ word, word <:+: text.toList ∧ "database".toList = word.map Char.toLower

theorem isDatabase_iff {data : NodeData} {category : String} (h : data.category = some category) :
    data.isDatabase = true ↔ MentionsDatabase category := by
  rw [NodeData.isDatabase, h]
  simp only [Text.occursIn, Text.occursAmong_iff, String.toList_ofList]
  exact List.infix_map_iff

instance : DecidablePred MentionsDatabase := fun text =>
  have h : NodeData.isDatabase { category := some text } = true ↔ MentionsDatabase text :=
    isDatabase_iff rfl
  decidable_of_iff _ h

/-! ## Fields -/

/-- The field of a node that an edit is for. -/
def FieldEdit.field? : FieldEdit → Option NodeField
  | label _ => some .label
  | type _ => some .type
  | color _ => some .color
  | icon _ => some .icon
  | customIcon _ => some .customIcon
  | port _ => some .port
  | dbName _ => some .dbName
  | tls _ => none
  | tlsVersion _ => none

/-- Whether an edit is for something that is shown. -/
def InspectorView.offers : InspectorView → FieldEdit → Bool
  | .empty, _ => false
  | .node form, edit => edit.field?.any form.shows
  | .edge _, .tls _ => true
  | .edge form, .tlsVersion _ => form.version.isSome
  | .edge _, _ => false

/-- The form of a node after an edit. The value is written; with the type it changes whether the
name of a database is shown. -/
def NodeForm.written (form : NodeForm) : FieldEdit → NodeForm
  | .label text => { form with label := text }
  | .type text =>
    { form with
      type := text
      fields := form.fields.filter (· ≠ .dbName) ++
        if MentionsDatabase text then [.dbName] else [] }
  | .color text => { form with color := text }
  | .icon text => { form with icon := text }
  | .customIcon reference => { form with customIcon := reference }
  | .port text => { form with port := text }
  | .dbName text => { form with dbName := text }
  | .tls _ => form
  | .tlsVersion _ => form

/-- The form of an edge after an edit, when `stored` is the version of the edge. The value is
written; the version is shown while TLS is on. -/
def EdgeForm.written (form : EdgeForm) (stored : TlsVersion) : FieldEdit → EdgeForm
  | .tls on => { form with tls := on, version := if on then some stored else none }
  | .tlsVersion version => { form with version := some version }
  | _ => form

/-- Where the type can be edited, all fields but the name of a database stay, whatever the data
are. -/
theorem Node.fields_of_type {node : Node} (h : .type ∈ node.fields) (data : NodeData) :
    Node.fields { node with data } =
      node.fields.filter (· ≠ .dbName) ++ if data.isDatabase then [.dbName] else [] := by
  by_cases hgroup : node.isGroup = true
  · rw [Node.fields, if_pos hgroup] at h
    simp at h
  · have hafter : ¬Node.isGroup { node with data } = true := hgroup
    rw [Node.fields, Node.fields, if_neg hgroup, if_neg hafter]
    cases node.data.isDatabase <;> rfl

theorem Node.form_patched {node : Node} {edit : FieldEdit} {field : NodeField} {patch : NodePatch}
    (hedit : edit.onNode = some (field, patch)) (hfield : field ∈ node.fields) :
    { node with data := node.data.patched patch }.form = node.form.written edit := by
  cases edit with
  | type text =>
    cases hedit
    have hdatabase : (node.data.patched { category := some text }).isDatabase = true ↔
        MentionsDatabase text := isDatabase_iff rfl
    have hfields := node.fields_of_type hfield (node.data.patched { category := some text })
    simp only [hdatabase] at hfields
    simp only [Node.form, NodeForm.written, hfields]
    rfl
  | tls on => cases hedit
  | tlsVersion version => cases hedit
  | _ =>
    cases hedit
    rfl

theorem Edge.form_patched {edge : Edge} {edit : FieldEdit} {patch : EdgePatch}
    (hedit : edit.onEdge edge.data = some patch) (mode : CertMode) :
    { edge with data := edge.data.patched patch }.form mode =
      (edge.form mode).written edge.data.effectiveVersion edit := by
  cases edit with
  | tls on =>
    cases hedit
    rfl
  | tlsVersion version =>
    simp only [FieldEdit.onEdge, Option.ite_none_right_eq_some] at hedit
    obtain ⟨htls, hpatch⟩ := hedit
    cases hpatch
    simp only [Edge.form, EdgeForm.written, EdgeData.patched, Option.getD_none, htls, if_true]
    rfl
  | _ => cases hedit

/-! ## What is offered has a patch -/

theorem FieldEdit.field?_eq (edit : FieldEdit) : edit.field? = edit.onNode.map Prod.fst := by
  cases edit <;> rfl

theorem InspectorView.offers_node (node : Node) (edit : FieldEdit) :
    (InspectorView.node node.form).offers edit =
      edit.onNode.any fun change => node.fields.contains change.1 := by
  rw [offers, FieldEdit.field?_eq, Option.any_map]
  rfl

theorem InspectorView.offers_edge (edge : Edge) (mode : CertMode) (edit : FieldEdit) :
    (InspectorView.edge (edge.form mode)).offers edit = (edit.onEdge edge.data).isSome := by
  cases edit with
  | tlsVersion version =>
    simp only [offers, Edge.form, FieldEdit.onEdge]
    split <;> rfl
  | _ => rfl

/-! ## What is selected -/

namespace Canvas

variable {canvas : Canvas}

theorem selected_eq_node_iff {node : Node} :
    canvas.selected = some (.node node) ↔
      canvas.selection = .node node.id ∧ canvas.graph.node? node.id = some node := by
  constructor
  · intro h
    have hselection : canvas.selection = .node node.id := (pointer_of_selected h).symm
    rw [selected, hselection] at h
    refine ⟨hselection, ?_⟩
    obtain ⟨found, hfound, hsame⟩ := Option.map_eq_some_iff.mp h
    cases hsame
    exact hfound
  · rintro ⟨hselection, hfound⟩
    simp only [selected, hselection, hfound, Option.map_some]

theorem selected_eq_edge_iff {edge : Edge} :
    canvas.selected = some (.edge edge) ↔
      canvas.selection = .edge edge.id ∧ canvas.graph.edge? edge.id = some edge := by
  constructor
  · intro h
    have hselection : canvas.selection = .edge edge.id := (pointer_of_selected h).symm
    rw [selected, hselection] at h
    refine ⟨hselection, ?_⟩
    obtain ⟨found, hfound, hsame⟩ := Option.map_eq_some_iff.mp h
    cases hsame
    exact hfound
  · rintro ⟨hselection, hfound⟩
    simp only [selected, hselection, hfound, Option.map_some]

/-- A node that is selected is found with its patched data. -/
theorem selected_updateNode {node : Node} (h : canvas.selected = some (.node node))
    (patch : NodePatch) :
    (canvas.updateNode node.id patch).1.selected =
        some (.node { node with data := node.data.patched patch }) ∧
      (canvas.updateNode node.id patch).2 = true := by
  obtain ⟨hselection, hfound⟩ := selected_eq_node_iff.mp h
  refine ⟨selected_eq_node_iff.mpr ⟨hselection, ?_⟩, ?_⟩
  · have hchanged := canvas.graph.node?_updateNode node.id patch
    rwa [hfound] at hchanged
  · show canvas.graph.hasNode node.id = true
    rw [Graph.hasNode, hfound]
    rfl

/-- An edge that is selected is found with its patched data. -/
theorem selected_updateEdge {edge : Edge} (h : canvas.selected = some (.edge edge))
    (patch : EdgePatch) :
    (canvas.updateEdge edge.id patch).1.selected =
        some (.edge { edge with data := edge.data.patched patch }) ∧
      (canvas.updateEdge edge.id patch).2 = true := by
  obtain ⟨hselection, hfound⟩ := selected_eq_edge_iff.mp h
  refine ⟨selected_eq_edge_iff.mpr ⟨hselection, ?_⟩, ?_⟩
  · have hchanged := canvas.graph.edge?_updateEdge edge.id patch
    rwa [hfound] at hchanged
  · show canvas.graph.hasEdge edge.id = true
    rw [Graph.hasEdge, hfound]
    rfl

end Canvas

namespace Inspector

variable {canvas : Canvas} {edit : FieldEdit}

@[simp] theorem mode_sync (inspector : Inspector) (canvas : Canvas) :
    (inspector.sync canvas).mode = inspector.mode := by
  unfold sync
  split <;> rfl

/-- An edit that is not offered is refused, and nothing changes. -/
theorem applyEdit_of_not_offers {inspector : Inspector}
    (h : (inspector.view canvas).offers edit = false) :
    applyEdit canvas edit = (canvas, false) := by
  rw [view] at h
  cases hselected : canvas.selected with
  | none => simp only [applyEdit, hselected]
  | some found =>
    rw [hselected] at h
    cases found with
    | node node =>
      simp only [InspectorView.offers_node] at h
      simp only [applyEdit, hselected]
      split
      case h_1 field patch hedit =>
        rw [hedit, Option.any_some] at h
        rw [h, if_neg Bool.false_ne_true]
      case h_2 => rfl
    | edge edge =>
      simp only [InspectorView.offers_edge, Option.isSome_eq_false_iff,
        Option.isNone_iff_eq_none] at h
      simp only [applyEdit, hselected, h]

/-- An edit that the form of a node offers is carried out. -/
theorem applyEdit_node {node : Node} (hselected : canvas.selected = some (.node node))
    (h : (InspectorView.node node.form).offers edit = true) :
    ∃ after, (applyEdit canvas edit).1.selected = some (.node after) ∧
      after.form = node.form.written edit ∧ (applyEdit canvas edit).2 = true := by
  rw [InspectorView.offers_node, Option.any_eq_true] at h
  obtain ⟨⟨field, patch⟩, hedit, hfield⟩ := h
  obtain ⟨hafter, hdone⟩ := Canvas.selected_updateNode hselected patch
  have hform := Node.form_patched hedit (List.contains_iff_mem.mp hfield)
  refine ⟨_, ?_, hform, ?_⟩
  · simpa only [applyEdit, hselected, hedit, hfield, if_true] using hafter
  · simpa only [applyEdit, hselected, hedit, hfield, if_true] using hdone

/-- An edit that the form of an edge offers is carried out. -/
theorem applyEdit_edge {edge : Edge} (hselected : canvas.selected = some (.edge edge))
    {mode : CertMode} (h : (InspectorView.edge (edge.form mode)).offers edit = true) :
    ∃ after, (applyEdit canvas edit).1.selected = some (.edge after) ∧
      after.form mode = (edge.form mode).written edge.data.effectiveVersion edit ∧
      (applyEdit canvas edit).2 = true := by
  rw [InspectorView.offers_edge, Option.isSome_iff_exists] at h
  obtain ⟨patch, hedit⟩ := h
  obtain ⟨hafter, hdone⟩ := Canvas.selected_updateEdge hselected patch
  have hform := Edge.form_patched hedit mode
  refine ⟨_, ?_, hform, ?_⟩
  · simpa only [applyEdit, hselected, hedit] using hafter
  · simpa only [applyEdit, hselected, hedit] using hdone

theorem shows_dbName_written (form : NodeForm) (text : String) :
    (form.written (.type text)).shows .dbName = true ↔ MentionsDatabase text := by
  simp only [NodeForm.shows, NodeForm.written, List.contains_iff_mem, List.mem_append,
    List.mem_filter]
  by_cases h : MentionsDatabase text <;> simp [h]

theorem view_of_node {node : Node} (h : canvas.selected = some (.node node))
    (inspector : Inspector) : inspector.view canvas = .node node.form := by
  rw [view, h]

theorem view_of_edge {edge : Edge} (h : canvas.selected = some (.edge edge))
    (inspector : Inspector) : inspector.view canvas = .edge (edge.form inspector.mode) := by
  rw [view, h]

/-- An edit that is offered is carried out, and what was written is shown. -/
theorem applyEdit_of_offers {inspector : Inspector}
    (h : (inspector.view canvas).offers edit = true) :
    (applyEdit canvas edit).2 = true ∧
    ((∃ node, canvas.selected = some (.node node) ∧ inspector.view canvas = .node node.form ∧
      (inspector.sync canvas).view (applyEdit canvas edit).1 = .node (node.form.written edit)) ∨
    ∃ edge, canvas.selected = some (.edge edge) ∧
      inspector.view canvas = .edge (edge.form inspector.mode) ∧
      (inspector.sync canvas).view (applyEdit canvas edit).1 =
        .edge ((edge.form inspector.mode).written edge.data.effectiveVersion edit)) := by
  cases hselected : canvas.selected with
  | none =>
    rw [view, hselected] at h
    cases h
  | some found =>
    cases found with
    | node node =>
      have hview := view_of_node hselected inspector
      rw [hview] at h
      obtain ⟨after, hafter, hform, hdone⟩ := applyEdit_node hselected h
      refine ⟨hdone, .inl ⟨node, rfl, hview, ?_⟩⟩
      rw [view_of_node hafter, hform]
    | edge edge =>
      have hview := view_of_edge hselected inspector
      rw [hview] at h
      obtain ⟨after, hafter, hform, hdone⟩ := applyEdit_edge hselected h
      refine ⟨hdone, .inr ⟨edge, rfl, hview, ?_⟩⟩
      rw [view_of_edge hafter, mode_sync, hform]

/-- An inspector carries out what it offers. -/
theorem applyEdit_done (inspector : Inspector) (canvas : Canvas) (edit : FieldEdit) :
    (applyEdit canvas edit).2 = (inspector.view canvas).offers edit := by
  cases hoffers : (inspector.view canvas).offers edit with
  | false => rw [applyEdit_of_not_offers hoffers]
  | true => exact (applyEdit_of_offers hoffers).1

/-- **Edits and forms agree.** Whatever is selected on a canvas, an inspector accepts an edit
exactly if it is offered. What is selected stays selected. After an edit that is offered the value
that was written is shown, and all else that the form showed: only that the name of a database is
shown if the new type mentions one, in any case, and the version of an edge while TLS is on. An edit
that is not offered changes nothing. -/
theorem edit_accepted_iff_offered (inspector : Inspector) (canvas : Canvas) (edit : FieldEdit) :
    let after := inspector.step canvas (.edit edit)
    let shown := inspector.view canvas
    after.2.2 = .accepted (shown.offers edit) ∧
    after.2.1.selection = canvas.selection ∧
    (∀ form, shown = .node form → shown.offers edit = true →
      after.1.view after.2.1 = .node (form.written edit)) ∧
    (∀ form, shown = .edge form → shown.offers edit = true →
      ∃ edge, canvas.selected = some (.edge edge) ∧
        after.1.view after.2.1 = .edge (form.written edge.data.effectiveVersion edit)) ∧
    (∀ text form, edit = .type text → shown.offers edit = true →
      after.1.view after.2.1 = .node form →
      (form.shows .dbName = true ↔ MentionsDatabase text)) ∧
    (shown.offers edit = false → after.2.1 = canvas) := by
  intro after shown
  have hselection : (applyEdit canvas edit).1.selection = canvas.selection := by
    rw [(revision_applyEdit canvas edit).frame]
  refine ⟨congrArg Outcome.accepted (applyEdit_done inspector canvas edit),
    hselection, ?node, ?edge, ?database, ?refused⟩
  case node =>
    intro form hshown hoffers
    obtain ⟨node, -, hview, hafter⟩ | ⟨edge, -, hview, -⟩ :=
      (applyEdit_of_offers hoffers).2
    · cases hshown.symm.trans hview
      exact hafter
    · cases hshown.symm.trans hview
  case edge =>
    intro form hshown hoffers
    obtain ⟨node, -, hview, -⟩ | ⟨edge, hselected, hview, hafter⟩ :=
      (applyEdit_of_offers hoffers).2
    · cases hshown.symm.trans hview
    · cases hshown.symm.trans hview
      exact ⟨edge, hselected, hafter⟩
  case database =>
    rintro text form rfl hoffers hform
    obtain ⟨node, -, -, hafter⟩ | ⟨edge, -, -, hafter⟩ :=
      (applyEdit_of_offers hoffers).2
    · cases hform.symm.trans hafter
      exact shows_dbName_written node.form text
    · cases hform.symm.trans hafter
  case refused =>
    intro hoffers
    exact congrArg Prod.fst (applyEdit_of_not_offers hoffers)

/-- A card and an edge share an id: the type of the card can be edited, that of the edge not. -/
theorem edits_of_shared_id :
    let node : Node := ⟨"a", .custom, .origin, { label := "Orders" }, none⟩
    let edge : Edge := ⟨"a", "a", "a", none, none, Edge.drawnType, {}⟩
    let graph : Graph := .ofDiagram ⟨[node], [edge]⟩
    let retype : FieldEdit := .type "My DataBase"
    let card := (Canvas.ofGraph graph).clickNode "a"
    let link := (Canvas.ofGraph graph).clickEdge "a"
    let retyped := ({} : Inspector).step card.1 (.edit retype)
    let encrypted := ({} : Inspector).step link.1 (.edit (.tls true))
    retyped.2.2 = .accepted true ∧
      retyped.1.view retyped.2.1 =
        .node { node.form with type := "My DataBase", fields := node.fields ++ [.dbName] } ∧
      (({} : Inspector).step link.1 (.edit retype)).2.2 = .accepted false ∧
      encrypted.1.view encrypted.2.1 =
        .edge { edge.form .upload with tls := true, version := some .auto } := by
  intro node edge graph retype card link retyped encrypted
  obtain ⟨hanswer, -, hnode, -⟩ := edit_accepted_iff_offered {} card.1 retype
  obtain ⟨hrefused, -⟩ := edit_accepted_iff_offered {} link.1 retype
  obtain ⟨-, -, -, hedge, -⟩ := edit_accepted_iff_offered {} link.1 (.tls true)
  refine ⟨hanswer, ?_, hrefused, ?_⟩
  · rw [hnode node.form rfl rfl]
    decide +kernel
  · obtain ⟨found, hfound, hview⟩ := hedge (edge.form .upload) rfl rfl
    have hselected : link.1.selected = some (.edge edge) := rfl
    cases hselected.symm.trans hfound
    exact hview

end Inspector

end DiagramStudio
