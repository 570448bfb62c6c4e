import DiagramStudio.Proofs.Inspector.Edit

/-!
# Writes of an inspector are confined

An inspector writes to the graph by the id of the element that is selected, and looks for that id
among the nodes or among the edges. `Canvas.Written` says what it may leave, without regard to ids:
one item has other data in its place, and it is the one that is selected. Everything else is the
same canvas. A certificate and its key are written one after the other; the edge that is there for
the first is there for the second, so that both are written or neither.

Results:
* `Canvas.written_updateNode`, `Canvas.written_updateEdge`: a change of the data of the selected
  element is confined to it.
* `Inspector.written_applyEdit`: an edit changes one key of these data.
* `Inspector.writeGenerated_eq`: certificate and key are written as if at once.
* `Inspector.writes_are_confined`: what each step that writes can leave.
-/

namespace DiagramStudio

/-! ## Keys of data -/

/-- The data with one key as in empty data. -/
def NodeData.without (data : NodeData) : NodeField → NodeData
  | .label => { data with label := "" }
  | .type => { data with category := none }
  | .color => { data with color := none }
  | .icon => { data with icon := none }
  | .customIcon => { data with customIcon := none }
  | .port => { data with port := none }
  | .dbName => { data with dbName := none }

/-- A key of the data of an edge. -/
inductive EdgeField where
  | tls
  | tlsVersion
  | tlsCert
  | tlsKey
deriving Repr, DecidableEq

/-- The data with one key as in empty data. -/
def EdgeData.without (data : EdgeData) : EdgeField → EdgeData
  | .tls => { data with tls := false }
  | .tlsVersion => { data with tlsVersion := none }
  | .tlsCert => { data with tlsCert := none }
  | .tlsKey => { data with tlsKey := none }

namespace FieldEdit

/-- The key of an edge that an edit is for. -/
def edgeField? : FieldEdit → Option EdgeField
  | tls _ => some .tls
  | tlsVersion _ => some .tlsVersion
  | _ => none

/-- Whether data of a node differ in no other key than that of the edit. -/
def OnlyNode (edit : FieldEdit) (data after : NodeData) : Prop :=
  ∃ field, edit.field? = some field ∧ after.without field = data.without field

/-- Whether data of an edge differ in no other key than that of the edit. -/
def OnlyEdge (edit : FieldEdit) (data after : EdgeData) : Prop :=
  ∃ field, edit.edgeField? = some field ∧ after.without field = data.without field

theorem onlyNode_patched {edit : FieldEdit} {field : NodeField} {patch : NodePatch}
    (h : edit.onNode = some (field, patch)) (data : NodeData) :
    edit.OnlyNode data (data.patched patch) := by
  refine ⟨field, by rw [field?_eq, h, Option.map_some], ?_⟩
  cases edit <;> cases h <;> rfl

theorem onlyEdge_patched {edit : FieldEdit} {patch : EdgePatch} {data : EdgeData}
    (h : edit.onEdge data = some patch) : edit.OnlyEdge data (data.patched patch) := by
  cases edit with
  | tls on =>
    cases h
    exact ⟨.tls, rfl, rfl⟩
  | tlsVersion version =>
    simp only [onEdge, Option.ite_none_right_eq_some] at h
    obtain ⟨-, hpatch⟩ := h
    cases hpatch
    exact ⟨.tlsVersion, rfl, rfl⟩
  | _ => cases h

end FieldEdit

namespace Canvas

variable {canvas : Canvas}

/-! ## What may be written -/

/-- What may become of a canvas, and whether it was done: nothing, or the element that is selected
has other data in its place, such as are allowed for the data it had. -/
inductive Written (canvas : Canvas) (nodeData : NodeData → NodeData → Prop)
    (edgeData : EdgeData → EdgeData → Prop) : Canvas → Bool → Prop
  | nothing : Written canvas nodeData edgeData canvas false
  | node {node : Node} {front back : List Node} {data : NodeData}
      (selected : canvas.selected = some (.node node))
      (place : canvas.graph.nodes = front ++ node :: back) (allowed : nodeData node.data data) :
      Written canvas nodeData edgeData
        { canvas with
          graph := { canvas.graph with nodes := front ++ { node with data } :: back } } true
  | edge {edge : Edge} {front back : List Edge} {data : EdgeData}
      (selected : canvas.selected = some (.edge edge))
      (place : canvas.graph.edges = front ++ edge :: back) (allowed : edgeData edge.data data) :
      Written canvas nodeData edgeData
        { canvas with
          graph := { canvas.graph with edges := front ++ { edge with data } :: back } } true

variable {nodeData nodeMore : NodeData → NodeData → Prop}
  {edgeData edgeMore : EdgeData → EdgeData → Prop}

/-- What is written where less is allowed is written where more is. -/
theorem Written.mono {after : Canvas} {done : Bool} (h : canvas.Written nodeData edgeData after done)
    (hnode : ∀ data new, nodeData data new → nodeMore data new)
    (hedge : ∀ data new, edgeData data new → edgeMore data new) :
    canvas.Written nodeMore edgeMore after done := by
  cases h with
  | nothing => exact .nothing
  | node hselected hplace hallowed => exact .node hselected hplace (hnode _ _ hallowed)
  | edge hselected hplace hallowed => exact .edge hselected hplace (hedge _ _ hallowed)

theorem written_updateNode {node : Node} {patch : NodePatch}
    (hselected : canvas.selected = some (.node node))
    (hallowed : nodeData node.data (node.data.patched patch)) :
    canvas.Written nodeData edgeData (canvas.updateNode node.id patch).1
      (canvas.updateNode node.id patch).2 := by
  obtain ⟨front, back, hplace, hchanged⟩ :=
    changeFirst_of_find? (selected_eq_node_iff.mp hselected).2
      fun found => { found with data := found.data.patched patch }
  rw [(selected_updateNode hselected patch).2]
  simp only [updateNode, Graph.updateNode, Graph.changeNode, withGraph, hchanged]
  exact .node hselected hplace hallowed

theorem written_changeEdge {edge : Edge} (change : EdgeData → EdgeData)
    (hselected : canvas.selected = some (.edge edge))
    (hallowed : edgeData edge.data (change edge.data)) :
    canvas.Written nodeData edgeData
      { canvas with
        graph := canvas.graph.changeEdge edge.id
          fun found => { found with data := change found.data } } true := by
  obtain ⟨front, back, hplace, hchanged⟩ :=
    changeFirst_of_find? (selected_eq_edge_iff.mp hselected).2
      fun found => { found with data := change found.data }
  rw [Graph.changeEdge, hchanged]
  exact .edge hselected hplace hallowed

theorem written_updateEdge {edge : Edge} {patch : EdgePatch}
    (hselected : canvas.selected = some (.edge edge))
    (hallowed : edgeData edge.data (edge.data.patched patch)) :
    canvas.Written nodeData edgeData (canvas.updateEdge edge.id patch).1
      (canvas.updateEdge edge.id patch).2 := by
  rw [(selected_updateEdge hselected patch).2]
  exact written_changeEdge (·.patched patch) hselected hallowed

end Canvas

namespace Inspector

variable {canvas : Canvas}

/-! ## Edits -/

/-- An edit writes one key of the data of the selected element. -/
theorem written_applyEdit (canvas : Canvas) (edit : FieldEdit) :
    canvas.Written edit.OnlyNode edit.OnlyEdge (applyEdit canvas edit).1
      (applyEdit canvas edit).2 := by
  rw [applyEdit]
  split
  case h_1 => exact .nothing
  case h_2 node hselected =>
    split
    case h_1 field patch hedit =>
      split_ifs
      · exact Canvas.written_updateNode hselected (FieldEdit.onlyNode_patched hedit node.data)
      · exact .nothing
    case h_2 => exact .nothing
  case h_3 edge hselected =>
    split
    case h_1 patch hedit =>
      exact Canvas.written_updateEdge hselected (FieldEdit.onlyEdge_patched hedit)
    case h_2 => exact .nothing

/-! ## Certificates -/

/-- The data with the certificate and the key that are generated. -/
def certified (data : EdgeData) : EdgeData :=
  { data with tlsCert := some generatedCert, tlsKey := some generatedKey }

theorem tlsEdge?_eq_some_iff {edge : Edge} :
    tlsEdge? canvas = some edge ↔ canvas.selected = some (.edge edge) ∧ edge.data.tls = true := by
  unfold tlsEdge?
  split
  case h_1 found hselected =>
    rw [hselected, Option.ite_none_right_eq_some, Option.some_inj, Option.some_inj,
      Selected.edge.injEq]
    constructor
    · rintro ⟨htls, rfl⟩
      exact ⟨rfl, htls⟩
    · rintro ⟨rfl, htls⟩
      exact ⟨htls, rfl⟩
  case h_2 hother =>
    refine ⟨nofun, fun h => ?_⟩
    exact absurd h.1 (hother edge)

/-- Certificate and key are written one after the other, and it is as if they were written at
once. -/
theorem writeGenerated_eq {edge : Edge} (h : canvas.selected = some (.edge edge))
    (htls : edge.data.tls = true) :
    writeGenerated canvas =
      ({ canvas with
        graph := canvas.graph.changeEdge edge.id
          fun found => { found with data := certified found.data } }, true) := by
  obtain ⟨hstill, hfound⟩ := Canvas.selected_updateEdge h { tlsCert := some generatedCert }
  have hagain := (Canvas.selected_updateEdge hstill { tlsKey := some generatedKey }).2
  rw [writeGenerated, tlsEdge?_eq_some_iff.mpr ⟨h, htls⟩]
  simp only [hfound, if_true]
  refine Prod.ext ?_ hagain
  simp only [Canvas.updateEdge, Canvas.withGraph, Graph.updateEdge, Graph.changeEdge]
  rw [changeFirst_changeFirst]
  · rfl
  · intro found
    rfl

/-- What is generated is written to the selected edge if its connection is encrypted, and nothing
is written otherwise. -/
theorem written_writeGenerated (canvas : Canvas) :
    canvas.Written (fun _ _ => False) (fun data after => after = certified data)
        (writeGenerated canvas).1 (writeGenerated canvas).2 ∧
      ((writeGenerated canvas).2 = true ↔
        ∃ edge, canvas.selected = some (.edge edge) ∧ edge.data.tls = true) := by
  cases hedge : tlsEdge? canvas with
  | none =>
    have hnone : writeGenerated canvas = (canvas, false) := by rw [writeGenerated, hedge]
    rw [hnone]
    refine ⟨.nothing, fun hdone => absurd hdone Bool.false_ne_true, ?_⟩
    rintro ⟨edge, hselected⟩
    rw [tlsEdge?_eq_some_iff.mpr hselected] at hedge
    cases hedge
  | some edge =>
    obtain ⟨hselected, htls⟩ := tlsEdge?_eq_some_iff.mp hedge
    rw [writeGenerated_eq hselected htls]
    exact ⟨Canvas.written_changeEdge _ hselected rfl, fun _ => ⟨edge, hselected, htls⟩, fun _ => rfl⟩

/-- **Writes of an inspector are confined.** Whatever is selected on a canvas, what an inspector
writes leaves the canvas as it was but for the data of the element that is selected, which keeps its
place, its id and all that is not data; or nothing is written, and this is told. An edit changes no
other key of the data than its own, and an image that is put in changes the custom icon. What is
generated is written exactly if the inspector is in that mode and the selected edge is encrypted,
and then it is the certificate together with the key. -/
theorem writes_are_confined (inspector : Inspector) (canvas : Canvas) :
    (∀ edit, ∃ after done,
      (inspector.step canvas (.edit edit)).2 = (after, .accepted done) ∧
        canvas.Written edit.OnlyNode edit.OnlyEdge after done) ∧
      (∀ mime bytes, ∃ after done,
        (inspector.step canvas (.uploadIcon mime bytes)).2 = (after, .accepted done) ∧
          canvas.Written (fun data after => after.without .customIcon = data.without .customIcon)
            (fun _ _ => False) after done) ∧
      ∃ after done,
        (inspector.step canvas .generateCert).2 = (after, .accepted done) ∧
          canvas.Written (fun _ _ => False) (fun data after => after = certified data) after done ∧
          (done = true ↔ inspector.mode = .generate ∧
            ∃ edge, canvas.selected = some (.edge edge) ∧ edge.data.tls = true) := by
  refine ⟨fun edit => ⟨_, _, rfl, written_applyEdit canvas edit⟩,
    fun mime bytes => ⟨_, _, rfl, ?icon⟩, ?certificate⟩
  case icon =>
    refine (written_applyEdit canvas (.customIcon (some (imageReference mime bytes)))).mono ?_ ?_
    · rintro data new ⟨field, hfield, hsame⟩
      cases hfield
      exact hsame
    · rintro data new ⟨field, hfield, -⟩
      cases hfield
  case certificate =>
    obtain ⟨hwritten, hdone⟩ := written_writeGenerated canvas
    simp only [Inspector.step, mode_sync]
    split_ifs with hmode
    · exact ⟨_, _, rfl, hwritten, by rw [hdone, hmode, eq_self, true_and]⟩
    · exact ⟨_, _, rfl, .nothing, fun hdone => absurd hdone Bool.false_ne_true,
        fun h => absurd h.1 hmode⟩

/-- A node bears the id of the edge that is selected. Certificate and key are written to the
edge. -/
theorem certificate_of_shared_id :
    let edge : Edge := ⟨"a", "a", "a", none, none, Edge.drawnType, { tls := true }⟩
    let node : Node := ⟨"a", .custom, .origin, {}, none⟩
    let canvas : Canvas :=
      ((Canvas.ofGraph (.ofDiagram ⟨[node], [edge]⟩)).step (.clickEdge "a")).1
    let inspector : Inspector := { mode := .generate }
    ∃ after, (inspector.step canvas .generateCert).2 = (after, .accepted true) ∧
      canvas.Written (fun _ _ => False) (fun data new => new = certified data) after true ∧
      after.graph.nodes = [node] ∧
      after.graph.edges = [{ edge with data := certified { tls := true } }] := by
  intro edge node canvas inspector
  obtain ⟨after, done, hstep, hwritten, hdone⟩ := (writes_are_confined inspector canvas).2.2
  have hselected : canvas.selected = some (.edge edge) := rfl
  obtain rfl : done = true := hdone.mpr ⟨rfl, edge, hselected, rfl⟩
  have hafter : (inspector.step canvas .generateCert).2.1 = after := congrArg Prod.fst hstep
  exact ⟨after, hstep, hwritten, hafter ▸ rfl, hafter ▸ rfl⟩

end Inspector

end DiagramStudio
