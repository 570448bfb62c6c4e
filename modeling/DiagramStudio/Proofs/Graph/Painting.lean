import DiagramStudio.Proofs.Graph.Sound
import Mathlib.Data.List.Permutation

/-!
# The order of painting

Nodes are painted by their stacking order, and those of one stacking order by age. `Stacked` says
this of a list without regard to how it is made: it has the items of another list, their levels
ascend, and the items of one level come as they did. There is only one such list, so that what an
operation does to the order of painting is read off what it does to the ids and the levels of the
nodes. A group that is resized for the first time gets a style with a level; it is the level that
the group had without a style.

Results:
* `stacked_mergeSort`: sorting by level stacks the items.
* `Stacked.unique`: there is one way to stack them.
* `Stacked.filter`: what is left of a stack is the stack of what is left.
* `Graph.paintedIds_of_layers`: ids and levels decide which ids are painted when.
* `Graph.layers_step`: operations that leave the nodes alone leave ids and levels as they were.
* `Graph.Sound.paintedIds_deleteElement`: a node that is deleted is missing, and no other.
* `Graph.painted_by_level_and_age`: this holds of every graph that is reached.
-/

namespace DiagramStudio

/-! ## Stacks -/

section Stacks

variable {α : Type} {level : α → Int32} {items order other : List α}

/-- Whether a list has the items of another one by ascending levels, and those of one level as they
come in the other. -/
structure Stacked (level : α → Int32) (items order : List α) : Prop where
  all : order.Perm items
  ascending : order.Pairwise fun a b => level a ≤ level b
  stable : ∀ z, order.filter (level · = z) = items.filter (level · = z)

/-- Sorting by level stacks the items. -/
theorem stacked_mergeSort (level : α → Int32) (items : List α) :
    Stacked level items (items.mergeSort fun a b => level a ≤ level b) := by
  have htrans : ∀ a b c : α, decide (level a ≤ level b) = true →
      decide (level b ≤ level c) = true → decide (level a ≤ level c) = true := by
    simp only [decide_eq_true_eq]
    intro a b c
    exact Int32.le_trans
  have htotal : ∀ a b : α, (decide (level a ≤ level b) || decide (level b ≤ level a)) = true := by
    simp only [Bool.or_eq_true, decide_eq_true_eq]
    intro a b
    exact Int32.le_total _ _
  have hperm := List.mergeSort_perm items fun a b => level a ≤ level b
  refine ⟨hperm, ?_, fun z => ?_⟩
  · simpa only [decide_eq_true_eq] using List.pairwise_mergeSort htrans htotal items
  · -- The items of one level are sorted, so they are found in the sorted list in their order.
    have hsorted : (items.filter (level · = z)).Pairwise fun a b =>
        decide (level a ≤ level b) = true := by
      apply List.pairwise_of_forall_mem_list
      intro a ha b hb
      have hlevels : level a = level b := by
        rw [of_decide_eq_true (List.mem_filter.mp ha).2,
          of_decide_eq_true (List.mem_filter.mp hb).2]
      rw [decide_eq_true_eq, hlevels]
      exact Int32.le_refl _
    have hsub := (List.sublist_mergeSort htrans htotal hsorted List.filter_sublist).filter
      (level · = z)
    rw [List.filter_filter] at hsub
    simp only [Bool.and_self] at hsub
    exact (hsub.eq_of_length (hperm.filter _).length_eq.symm).symm

theorem Stacked.mem_iff (h : Stacked level items order) {item : α} :
    item ∈ order ↔ item ∈ items :=
  h.all.mem_iff

/-- No item of a stack has a lower level than the first one. -/
theorem Stacked.level_head_le {first : α} {rest : List α}
    (h : Stacked level items (first :: rest)) {item : α} (hitem : item ∈ items) :
    level first ≤ level item := by
  rcases List.mem_cons.mp (h.mem_iff.mpr hitem) with rfl | hrest
  · exact Int32.le_refl _
  · exact (List.pairwise_cons.mp h.ascending).1 item hrest

/-- Stacks of the same items begin with the same item: it is the first of the lowest level. -/
theorem Stacked.head_eq {first head : α} {rest tail : List α}
    (h : Stacked level items (first :: rest)) (hother : Stacked level items (head :: tail)) :
    first = head := by
  have hlevel : level first = level head :=
    Int32.le_antisymm (h.level_head_le (hother.mem_iff.mp List.mem_cons_self))
      (hother.level_head_le (h.mem_iff.mp List.mem_cons_self))
  have hsame := (h.stable (level first)).trans (hother.stable (level first)).symm
  rw [List.filter_cons_of_pos (by simp), List.filter_cons_of_pos (by simp [hlevel])] at hsame
  exact (List.cons_eq_cons.mp hsame).1

/-- Behind the same first item, stacks of the same items go on as stacks of the same items. -/
theorem Stacked.behind {first : α} {rest tail : List α}
    (h : Stacked level items (first :: rest)) (hother : Stacked level items (first :: tail)) :
    Stacked level rest tail where
  all := (List.perm_cons first).mp (hother.all.trans h.all.symm)
  ascending := (List.pairwise_cons.mp hother.ascending).2
  stable z := by
    have hsame := (hother.stable z).trans (h.stable z).symm
    rw [List.filter_cons, List.filter_cons] at hsame
    split_ifs at hsame
    · exact (List.cons_eq_cons.mp hsame).2
    · exact hsame

/-- There is one way to stack items. -/
theorem Stacked.unique (h : Stacked level items order) (hother : Stacked level items other) :
    order = other := by
  induction order generalizing items other with
  | nil =>
    obtain rfl := h.all.nil_eq
    exact hother.all.eq_nil.symm
  | cons first rest ih =>
    cases other with
    | nil =>
      obtain rfl := hother.all.nil_eq
      exact h.all.eq_nil
    | cons head tail =>
      obtain rfl := h.head_eq hother
      rw [ih (h.behind h) (h.behind hother)]

/-- What is left of a stack is the stack of what is left. -/
theorem Stacked.filter (h : Stacked level items order) (test : α → Bool) :
    Stacked level (items.filter test) (order.filter test) where
  all := h.all.filter test
  ascending := h.ascending.filter test
  stable z := by rw [List.filter_comm, h.stable z, List.filter_comm]

/-- An item of a lower level lies beneath. -/
theorem Stacked.beneath (h : Stacked level items order) {lower upper : α} (hlower : lower ∈ items)
    (hupper : upper ∈ items) (hlevel : level lower < level upper) :
    [lower, upper].Sublist order := by
  obtain ⟨front, back, rfl⟩ := List.append_of_mem (h.mem_iff.mpr hupper)
  have hfront : lower ∈ front := by
    rcases List.mem_append.mp (h.mem_iff.mpr hlower) with hfront | hback
    · exact hfront
    · -- What comes no earlier than the upper item has no lower level.
      have hle : level upper ≤ level lower := by
        rcases List.mem_cons.mp hback with rfl | hback
        · exact Int32.le_refl _
        · exact (List.pairwise_cons.mp (List.pairwise_append.mp h.ascending).2.1).1 lower hback
      exact absurd hle (Int32.not_le.mpr hlevel)
  exact (List.singleton_sublist.mpr hfront).append (List.singleton_sublist.mpr List.mem_cons_self)

end Stacks

/-- The id and the level of a node. -/
def Node.layer (node : Node) : String × Int32 := (node.id, node.zIndex)

namespace Graph

variable {graph after : Graph}

/-- The ids of the nodes, in the order in which these are painted. -/
def paintedIds (graph : Graph) : List String := graph.renderOrder.map (·.id)

/-- Whether an operation adds no node and takes none away. -/
def Step.leavesNodes : Step → Bool
  | .updateNode .. | .updateEdge .. | .moveNode .. | .resizeNode .. => true
  | .addEdge _ | .deleteEdge _ => true
  | .addNode _ | .deleteElement _ | .replaceAll _ => false

theorem stacked_renderOrder (graph : Graph) :
    Stacked Node.zIndex graph.nodes graph.renderOrder :=
  stacked_mergeSort Node.zIndex graph.nodes

/-! ## Operations that leave the nodes alone -/

/-- Ids and levels decide which ids are painted when. -/
theorem paintedIds_of_layers
    (h : after.nodes.map Node.layer = graph.nodes.map Node.layer) :
    after.paintedIds = graph.paintedIds := by
  have hlayers : ∀ g : Graph, g.renderOrder.map Node.layer =
      (g.nodes.map Node.layer).mergeSort fun a b => a.2 ≤ b.2 := by
    intro g
    exact List.map_mergeSort fun _ _ _ _ => rfl
  have hids : ∀ g : Graph, g.paintedIds = (g.renderOrder.map Node.layer).map Prod.fst := by
    intro g
    rw [List.map_map]
    rfl
  rw [hids, hids, hlayers, hlayers, h]

theorem layers_changeNode {change : Node → Node} (h : ∀ node, (change node).layer = node.layer)
    (graph : Graph) (id : String) :
    (graph.changeNode id change).nodes.map Node.layer = graph.nodes.map Node.layer :=
  map_changeFirst h _ _

/-- The style that a group gets when it is resized keeps the level of the group. -/
theorem zIndex_resized {node : Node} (h : node.isGroup = true) (size : Size) :
    ({ node with style := some (resized node.style size) } : Node).zIndex = node.zIndex := by
  have hkind : node.kind = .group := of_decide_eq_true h
  cases hstyle : node.style with
  | none => simp [Node.zIndex, resized, hstyle, hkind, NodeStyle.ofGroup]
  | some style => simp [Node.zIndex, resized, hstyle]

theorem layers_resizeNode (graph : Graph) (id : String) (size : Size) :
    (graph.resizeNode id size).1.nodes.map Node.layer = graph.nodes.map Node.layer := by
  rw [resizeNode]
  split
  case h_1 node hnode =>
    split_ifs with hgroup
    · obtain ⟨front, back, hnodes, hchanged⟩ := changeFirst_of_find? hnode
        fun node => { node with style := some (resized node.style size) }
      have hlayer : ({ node with style := some (resized node.style size) } : Node).layer =
          node.layer := Prod.ext rfl (zIndex_resized hgroup size)
      rw [changeNode, hchanged, hnodes, List.map_append, List.map_append, List.map_cons,
        List.map_cons, hlayer]
    · rfl
  case h_2 => rfl

/-- Operations that leave the nodes alone leave their ids and levels as they were. -/
theorem layers_step {step : Step} (h : step.leavesNodes = true) (graph : Graph) :
    (graph.step step).1.nodes.map Node.layer = graph.nodes.map Node.layer := by
  cases step with
  | updateNode id patch =>
    refine layers_changeNode ?_ graph id
    intro node
    rfl
  | moveNode id position =>
    refine layers_changeNode ?_ graph id
    intro node
    rfl
  | resizeNode id size => exact layers_resizeNode graph id size
  | addEdge link =>
    simp only [Graph.step, addEdge]
    split_ifs
    · split <;> rfl
    · rfl
  | updateEdge id patch => rfl
  | deleteEdge id => rfl
  | addNode _ | deleteElement _ | replaceAll _ => cases h

/-! ## Deletions -/

theorem Sound.nodup_paintedIds (h : graph.Sound) : graph.paintedIds.Nodup :=
  ((graph.stacked_renderOrder.all.map _).nodup_iff).mpr h.nodes

/-- A deletion leaves the nodes of other ids. -/
theorem Sound.nodes_deleteElement (h : graph.Sound) (id : String) :
    (graph.deleteElement id).1.nodes = graph.nodes.filter (·.id ≠ id) := by
  rw [deleteElement]
  split_ifs with hnode
  · exact eraseP_eq_filter_ne h.nodes id
  · rw [Bool.not_eq_true, hasNode_eq_false_iff] at hnode
    exact (filter_ne_eq_self hnode).symm

/-- Of the ids that are painted that of a deleted node is missing, and no other. -/
theorem Sound.paintedIds_deleteElement (h : graph.Sound) (id : String) :
    (graph.deleteElement id).1.paintedIds = graph.paintedIds.erase id := by
  have hleft := graph.stacked_renderOrder.filter (·.id ≠ id)
  rw [← h.nodes_deleteElement id] at hleft
  have horder := (stacked_renderOrder _).unique hleft
  rw [h.nodup_paintedIds.erase_eq_filter, paintedIds, horder, paintedIds, List.filter_map]
  congr 1
  apply List.filter_congr
  intro node _
  rw [Function.comp_apply, bne, beq_eq_decide, decide_not]

/-! ## Every graph that is reached -/

/-- **Nodes are painted by level and age.** In every graph that is reached each node is painted
once, those of lower levels beneath, and those of one level in the order of the nodes of the graph;
so a group without a level of its own lies beneath every card without one. Operations that leave the
nodes alone leave the order of the ids, also if they change contents and styles, and of the ids that
of a deleted node is missing, and no other. -/
theorem painted_by_level_and_age (steps : List Step) :
    let graph := ({} : Graph).run steps
    (Stacked Node.zIndex graph.nodes graph.renderOrder ∧ graph.paintedIds.Nodup) ∧
      (∀ group ∈ graph.nodes, ∀ card ∈ graph.nodes,
        group.isGroup = true → group.style.bind (·.zIndex) = none →
        card.isGroup = false → card.style.bind (·.zIndex) = none →
        [group, card].Sublist graph.renderOrder) ∧
      (∀ step : Step, step.leavesNodes = true →
        (graph.step step).1.paintedIds = graph.paintedIds) ∧
      ∀ id, (graph.deleteElement id).1.paintedIds = graph.paintedIds.erase id := by
  intro graph
  have hsound : graph.Sound := sound_run sound_empty steps
  refine ⟨⟨graph.stacked_renderOrder, hsound.nodup_paintedIds⟩, ?beneath, ?_, ?_⟩
  case beneath =>
    intro group hgroup card hcard hisGroup hgroupStyle hisCard hcardStyle
    have hlevel : group.zIndex < card.zIndex := by
      have hgroupKind : group.kind = .group := of_decide_eq_true hisGroup
      have hcardKind : card.kind = .custom := by
        cases hkind : card.kind with
        | custom => rfl
        | group => exact absurd hkind (of_decide_eq_false hisCard)
      rw [Node.zIndex, Node.zIndex, hgroupStyle, hcardStyle, hgroupKind, hcardKind]
      decide
    exact graph.stacked_renderOrder.beneath hgroup hcard hlevel
  · exact fun step hstep => paintedIds_of_layers (layers_step hstep graph)
  · exact hsound.paintedIds_deleteElement

/-- A group that was imported without a style, after a card, is painted beneath it and stays there
when it is resized. -/
theorem painted_after_resizing :
    let node : String → NodeKind → Node := fun id kind => ⟨id, kind, .origin, {}, none⟩
    let steps := [Graph.Step.replaceAll ⟨[node "a" .custom, node "g" .group, node "b" .custom], []⟩]
    let graph := ({} : Graph).run steps
    let resize := Step.resizeNode "g" .ofGroup
    [node "g" .group, node "a" .custom].Sublist graph.renderOrder ∧ resize.leavesNodes = true ∧
      graph.paintedIds = ["g", "a", "b"] ∧
      (graph.step resize).1.paintedIds = ["g", "a", "b"] ∧
      (graph.deleteElement "a").1.paintedIds = ["g", "b"] := by
  intro node steps graph resize
  have hpainted : graph.paintedIds = ["g", "a", "b"] := by cbv
  obtain ⟨-, hbeneath, hleft, hdeleted⟩ := painted_by_level_and_age steps
  refine ⟨hbeneath _ ?_ _ ?_ rfl rfl rfl rfl, rfl, hpainted, ?_, ?_⟩
  · exact List.mem_cons_of_mem _ List.mem_cons_self
  · exact List.mem_cons_self
  · exact (hleft resize rfl).trans hpainted
  · exact (hdeleted "a").trans (hpainted ▸ rfl)

end Graph

end DiagramStudio
