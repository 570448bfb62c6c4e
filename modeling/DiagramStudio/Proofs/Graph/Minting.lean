import DiagramStudio.Proofs.Graph.Sound
import Mathlib.Data.List.Perm.Subperm
import Mathlib.Order.Nat

/-!
# Minting ends

A search for a free id goes from one number of the counter to the next and begins again at zero
behind the largest one. Until it has come round, all candidates are different; so among one more
candidates than there are nodes and edges one is free, wherever the counter stands and whatever ids
were imported. A search therefore never fails for the bound that is set to it: it ends with the
first candidate that is free, which is also what it ends with if it may go on for longer.

Results:
* `IdMint.nth_inj`: candidates of one round are different.
* `IdMint.search_first_free`: a search ends with the first candidate that is free.
* `IdMint.exists_free`: among one more candidates than there are ids one is free.
* `Graph.addNode_of_fresh`, `Graph.addEdge_of_fresh`: what is added is found by its new id.
* `Graph.minting_ends`: all this for any counter and any ids.
-/

namespace DiagramStudio

/-! ## Candidates -/

namespace IdMint

variable {inUse : String → Bool} {stem : String} {mint : IdMint} {k tries : Nat}

/-- The candidate of a search that comes after that many others. -/
def nth (stem : String) (mint : IdMint) (k : Nat) : String :=
  spell stem (mint.next + UInt64.ofNat k)

@[simp] theorem nth_zero (stem : String) (mint : IdMint) :
    nth stem mint 0 = spell stem mint.next :=
  congrArg (spell stem) (UInt64.add_zero _)

theorem add_ofNat_succ (n : UInt64) (k : Nat) :
    n + UInt64.ofNat (k + 1) = n + 1 + UInt64.ofNat k := by
  rw [Nat.add_comm, UInt64.ofNat_add, UInt64.add_assoc]
  rfl

theorem nth_succ (stem : String) (mint : IdMint) (k : Nat) :
    nth stem mint (k + 1) = nth stem ⟨mint.next + 1⟩ k :=
  congrArg (spell stem) (add_ofNat_succ mint.next k)

theorem spell_injective (stem : String) : Function.Injective (spell stem) := by
  intro n m h
  rw [spell, spell, String.append_right_inj, Nat.toString_eq_repr, Nat.toString_eq_repr] at h
  have hdigits := congrArg (fun text => Nat.ofDigitChars 10 text.toList 0) h
  simp only [Nat.toList_repr, Nat.ofDigitChars_ten_toDigits] at hdigits
  exact UInt64.toNat_inj.mp hdigits

/-- Until the counter has come round, candidates are different. -/
theorem nth_inj {j : Nat} (hj : j < UInt64.size) (hk : k < UInt64.size)
    (h : nth stem mint j = nth stem mint k) : j = k := by
  have hsame := (UInt64.add_right_inj _).mp (spell_injective stem h)
  rw [← UInt64.toNat_inj, UInt64.toNat_ofNat_of_lt' hj, UInt64.toNat_ofNat_of_lt' hk] at hsame
  exact hsame

/-- A search that may go on for long enough ends with the first candidate that is free, and takes no
more numbers from the counter. -/
theorem search_first_free (hused : ∀ j < k, inUse (nth stem mint j) = true)
    (hfree : inUse (nth stem mint k) = false) (htries : k < tries) :
    fresh inUse stem tries mint =
        some (nth stem mint k, ⟨mint.next + UInt64.ofNat k + 1⟩) ∧
      (taken inUse stem tries mint).length = k + 1 := by
  induction k generalizing mint tries with
  | zero =>
    obtain ⟨rest, rfl⟩ := Nat.exists_eq_add_of_lt htries
    rw [nth_zero] at hfree
    simp [fresh, taken, candidate, hfree]
  | succ k ih =>
    obtain ⟨rest, rfl⟩ := Nat.exists_eq_add_of_lt htries
    have hfirst := hused 0 (Nat.zero_lt_succ k)
    rw [nth_zero] at hfirst
    -- The candidates behind the first are those of the counter that has moved on.
    have hlater : ∀ j < k, inUse (nth stem ⟨mint.next + 1⟩ j) = true := by
      intro j hj
      rw [← nth_succ]
      exact hused (j + 1) (Nat.succ_lt_succ hj)
    rw [nth_succ] at hfree ⊢
    obtain ⟨hfound, hlength⟩ := ih hlater hfree (by omega : k < k + 1 + rest)
    rw [add_ofNat_succ]
    constructor
    · simpa only [fresh, candidate, hfirst, if_true] using hfound
    · simpa only [taken, candidate, hfirst, if_true, List.length_cons, Nat.add_right_cancel_iff]
        using hlength

/-- Among one more candidates than there are ids one is none of these. -/
theorem exists_free (stem : String) (mint : IdMint) {ids : List String}
    (hfew : ids.length < UInt64.size) : ∃ k ≤ ids.length, nth stem mint k ∉ ids := by
  by_contra hnone
  push Not at hnone
  have hnodup : ((List.range (ids.length + 1)).map (nth stem mint)).Nodup := by
    refine List.Nodup.map_on ?_ List.nodup_range
    intro j hj k hk
    rw [List.mem_range] at hj hk
    exact nth_inj (by omega) (by omega)
  have hsubset : (List.range (ids.length + 1)).map (nth stem mint) ⊆ ids := by
    intro id hid
    obtain ⟨k, hk, rfl⟩ := List.mem_map.mp hid
    exact hnone k (Nat.le_of_lt_succ (List.mem_range.mp hk))
  have hlength := (List.subperm_of_subset hnodup hsubset).length_le
  rw [List.length_map, List.length_range] at hlength
  exact Nat.not_succ_le_self _ hlength

end IdMint

/-- The node of a draft under an id. -/
def NodeDraft.node (draft : NodeDraft) (id : String) : Node :=
  ⟨id, draft.kind, draft.position, draft.data, draft.style⟩

/-- The edge of a connection under an id. -/
def Connection.edge (link : Connection) (id : String) : Edge :=
  ⟨id, link.source, link.target, link.sourceHandle, link.targetHandle, Edge.drawnType, {}⟩

namespace Graph

variable {graph : Graph} {stem id : String} {mint : IdMint}

/-! ## Searching a graph -/

/-- Whether a search passes over that many candidates, which are in use, and ends with the next one,
which no node and no edge bears. However long it may go on, it looks at no more. -/
structure EndsAfter (graph : Graph) (stem : String) (k : Nat) (id : String) (mint : IdMint) :
    Prop where
  passed : ∀ j < k, graph.inUse (IdMint.nth stem graph.mint j) = true
  next : id = IdMint.nth stem graph.mint k
  free : id ∉ graph.nodeIds ∧ id ∉ graph.edgeIds
  found : graph.freshId stem = some (id, mint)
  looked : ∀ tries, k < tries → IdMint.fresh graph.inUse stem tries graph.mint = some (id, mint) ∧
    (IdMint.taken graph.inUse stem tries graph.mint).length = k + 1

theorem inUse_eq_false_iff (graph : Graph) (id : String) :
    graph.inUse id = false ↔ id ∉ graph.nodeIds ∧ id ∉ graph.edgeIds := by
  rw [← Bool.not_eq_true, inUse_iff, not_or]

/-- A search ends after no more candidates than there are nodes and edges. -/
theorem exists_endsAfter
    (hfew : graph.nodes.length + graph.edges.length < UInt64.size) (stem : String) :
    ∃ k ≤ graph.nodes.length + graph.edges.length, ∃ id mint,
      graph.EndsAfter stem k id mint := by
  have hlength : graph.ids.length = graph.nodes.length + graph.edges.length := by
    rw [ids, nodeIds, edgeIds, List.length_append, List.length_map, List.length_map]
  have hfree : ∃ k ≤ graph.nodes.length + graph.edges.length,
      graph.inUse (IdMint.nth stem graph.mint k) = false := by
    rw [← hlength] at hfew ⊢
    obtain ⟨k, hk, hfree⟩ := IdMint.exists_free stem graph.mint hfew
    rw [ids, List.mem_append, not_or] at hfree
    exact ⟨k, hk, (graph.inUse_eq_false_iff _).mpr hfree⟩
  -- The first that is free is not behind the one that was found.
  have hsome : ∃ k, graph.inUse (IdMint.nth stem graph.mint k) = false :=
    hfree.imp fun _ h => h.2
  obtain ⟨bound, hbound, hboundFree⟩ := hfree
  have hpassed : ∀ j < Nat.find hsome, graph.inUse (IdMint.nth stem graph.mint j) = true := by
    intro j hj
    simpa using Nat.find_min hsome hj
  have hk := (Nat.find_min' hsome hboundFree).trans hbound
  have hfirst := Nat.find_spec hsome
  exact ⟨Nat.find hsome, hk, _, _, hpassed, rfl, (graph.inUse_eq_false_iff _).mp hfirst,
    (IdMint.search_first_free hpassed hfirst (Nat.lt_succ_of_le hk)).1,
    fun tries htries => IdMint.search_first_free hpassed hfirst htries⟩

/-! ## Adding -/

/-- Whether one node was added, which is found by its id, and nothing else is found that was not
found before. -/
structure AddsNode (graph : Graph) (node : Node) (after : Graph) : Prop where
  nodes : after.nodes = graph.nodes ++ [node]
  edges : after.edges = graph.edges
  found : after.node? node.id = some node
  others : ∀ id, id ≠ node.id → after.node? id = graph.node? id
  edge? : ∀ id, after.edge? id = graph.edge? id

/-- Whether one edge was added, which is found by its id, and nothing else is found that was not
found before. -/
structure AddsEdge (graph : Graph) (edge : Edge) (after : Graph) : Prop where
  nodes : after.nodes = graph.nodes
  edges : after.edges = graph.edges ++ [edge]
  found : after.edge? edge.id = some edge
  others : ∀ id, id ≠ edge.id → after.edge? id = graph.edge? id
  node? : ∀ id, after.node? id = graph.node? id

/-- A node is added under the id that the search ends with. -/
theorem addNode_of_fresh (hfresh : graph.freshId IdMint.nodeStem = some (id, mint))
    (draft : NodeDraft) :
    ∃ after, graph.addNode draft = (after, some id) ∧ after.mint = mint ∧
      graph.AddsNode (draft.node id) after := by
  rw [addNode, hfresh]
  refine ⟨_, rfl, rfl, rfl, rfl, ?_, ?_, fun _ => rfl⟩
  · exact find?_concat_self (freshId_notMem hfresh).1
  · exact fun other hother => find?_concat_ne hother graph.nodes

/-- An edge between nodes that are there is added under the id that the search ends with. -/
theorem addEdge_of_fresh (hfresh : graph.freshId IdMint.edgeStem = some (id, mint))
    {link : Connection} (hsource : graph.hasNode link.source = true)
    (htarget : graph.hasNode link.target = true) :
    ∃ after, graph.addEdge link = (after, some id) ∧ after.mint = mint ∧
      graph.AddsEdge (link.edge id) after := by
  rw [addEdge, hsource, htarget, Bool.and_self, if_pos rfl, hfresh]
  refine ⟨_, rfl, rfl, rfl, rfl, ?_, ?_, fun _ => rfl⟩
  · exact find?_concat_self (freshId_notMem hfresh).2
  · exact fun other hother => find?_concat_ne hother graph.edges

/-- **Minting ends.** Wherever the counter stands and whatever ids were imported, as long as not as
many nodes and edges are there as the counter has numbers: a search for an id of any stem looks at
no more than one more candidates than there are nodes and edges, and ends with the first that none
of them bears. A node, or an edge between nodes that are there, is added under the id that the
search ends with, and is found by it, while everything else is found as before. -/
theorem minting_ends (graph : Graph)
    (hfew : graph.nodes.length + graph.edges.length < UInt64.size) :
    (∀ stem, ∃ k ≤ graph.nodes.length + graph.edges.length, ∃ id mint,
      graph.EndsAfter stem k id mint) ∧
      (∀ draft, ∃ id mint after, graph.freshId IdMint.nodeStem = some (id, mint) ∧
        graph.addNode draft = (after, some id) ∧ after.mint = mint ∧
        graph.AddsNode (draft.node id) after) ∧
      ∀ link : Connection, graph.hasNode link.source = true → graph.hasNode link.target = true →
        ∃ id mint after, graph.freshId IdMint.edgeStem = some (id, mint) ∧
          graph.addEdge link = (after, some id) ∧ after.mint = mint ∧
          graph.AddsEdge (link.edge id) after := by
  refine ⟨exists_endsAfter hfew, fun draft => ?node, fun link hsource htarget => ?edge⟩
  case node =>
    obtain ⟨k, -, id, mint, hends⟩ := exists_endsAfter hfew IdMint.nodeStem
    obtain ⟨after, hadded⟩ := addNode_of_fresh hends.found draft
    exact ⟨id, mint, after, hends.found, hadded⟩
  case edge =>
    obtain ⟨k, -, id, mint, hends⟩ := exists_endsAfter hfew IdMint.edgeStem
    obtain ⟨after, hadded⟩ := addEdge_of_fresh hends.found hsource htarget
    exact ⟨id, mint, after, hends.found, hadded⟩

/-- The counter stands at its largest number, and nodes bear the ids on both sides of its end. A new
edge, and a new node, are found under the first free ids behind the end. -/
theorem minting_around_the_end :
    let node : String → Node := fun id => ⟨id, .custom, .origin, {}, none⟩
    let graph : Graph :=
      ⟨[node "dndnode_18446744073709551615", node "dndnode_0", node "edge_18446744073709551615"],
        [], ⟨IdMint.top⟩⟩
    let link : Connection := { source := "dndnode_0", target := "dndnode_0" }
    (∃ after, graph.addNode (.custom .origin {}) = (after, some "dndnode_1") ∧
      after.node? "dndnode_1" = some (node "dndnode_1") ∧ after.mint.next = 2) ∧
      ∃ after, graph.addEdge link = (after, some "edge_0") ∧
        after.edge? "edge_0" = some (link.edge "edge_0") ∧ after.mint.next = 1 := by
  intro node graph link
  obtain ⟨-, hnode, hedge⟩ := minting_ends graph (by decide)
  constructor
  · obtain ⟨id, mint, after, hfresh, hadded, hmint, hadds⟩ := hnode (.custom .origin {})
    have hfound : graph.freshId IdMint.nodeStem = some ("dndnode_1", ⟨2⟩) := by decide +kernel
    rw [hfound] at hfresh
    cases hfresh
    exact ⟨after, hadded, hadds.found, congrArg IdMint.next hmint⟩
  · obtain ⟨id, mint, after, hfresh, hadded, hmint, hadds⟩ := hedge link (by decide) (by decide)
    have hfound : graph.freshId IdMint.edgeStem = some ("edge_0", ⟨1⟩) := by decide +kernel
    rw [hfound] at hfresh
    cases hfresh
    exact ⟨after, hadded, hadds.found, congrArg IdMint.next hmint⟩

end Graph

end DiagramStudio
