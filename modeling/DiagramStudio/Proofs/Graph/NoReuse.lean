import DiagramStudio.Proofs.Graph.Counter
import DiagramStudio.Proofs.Graph.Sound

/-!
# Ids are not used again

As long as the counter does not take its largest number, it only grows, and it stays above the
number of every id that was ever in the graph, whether minted or imported. So a minted id is one
that was never there.

Results:
* `Change.next_le`: no operation lowers the counter.
* `Change.added`: the id of what is added lay above the counter.
* `Change.mem_ids`: an id that came with a diagram lies below the counter.
* `minted_id_is_new`: a minted id differs from every id that was ever in the graph.
-/

namespace DiagramStudio.Graph

/-! ## Histories -/

/-- The numbers that an operation takes from the counter. -/
def taken (graph : Graph) : Step → List UInt64
  | .addNode _ => search graph IdMint.nodeStem
  | .addEdge link =>
    if graph.hasNode link.source && graph.hasNode link.target then search graph IdMint.edgeStem
    else []
  | _ => []
where
  /-- The numbers that the search for an id takes. -/
  search (graph : Graph) (stem : String) : List UInt64 :=
    IdMint.taken graph.inUse stem (graph.nodes.length + graph.edges.length + 1) graph.mint

/-- The numbers that a run takes from the counter. -/
def consumed (graph : Graph) (steps : List Step) : List UInt64 :=
  (moments Graph.step graph steps).flatMap fun (graph, step) => graph.taken step

/-- The answers that a run gave. -/
def answers (graph : Graph) (steps : List Step) : List Outcome :=
  (moments Graph.step graph steps).map fun (graph, step) => (graph.step step).2

theorem run_append (graph : Graph) (earlier later : List Step) :
    graph.run (earlier ++ later) = (graph.run earlier).run later :=
  List.foldl_append

theorem consumed_append (graph : Graph) (earlier later : List Step) :
    graph.consumed (earlier ++ later) =
      graph.consumed earlier ++ (graph.run earlier).consumed later := by
  rw [consumed, moments_append, List.flatMap_append]
  rfl

theorem consumed_cons (graph : Graph) (step : Step) (steps : List Step) :
    graph.consumed (step :: steps) = graph.taken step ++ (graph.step step).1.consumed steps := by
  simp only [consumed, moments, List.flatMap_cons]

theorem answers_cons (graph : Graph) (step : Step) (steps : List Step) :
    graph.answers (step :: steps) = (graph.step step).2 :: (graph.step step).1.answers steps := by
  simp only [answers, moments, List.map_cons]

/-! ## What an operation does to the counter -/

variable {graph after : Graph} {step : Step} {answer : Outcome} {id : String}

theorem mem_ids_iff : id ∈ graph.ids ↔ id ∈ graph.nodeIds ∨ id ∈ graph.edgeIds :=
  List.mem_append

/-- A search that leaves the largest number alone finds an id above the counter, and moves the
counter just past it. -/
theorem freshId_above {stem : String} (hstem : stem = IdMint.nodeStem ∨ stem = IdMint.edgeStem)
    {mint : IdMint} (hfresh : graph.freshId stem = some (id, mint))
    (hroom : IdMint.top ∉ taken.search graph stem) :
    graph.mint.next.toNat < IdMint.above id ∧ IdMint.above id = mint.next.toNat := by
  obtain ⟨n, rfl, hn, hle, hnext⟩ := IdMint.fresh_past hfresh hroom
  rw [IdMint.above_spell hstem hn]
  omega

/-- No operation lowers the counter. -/
theorem Change.next_le (hchange : Change graph step after answer)
    (hroom : IdMint.top ∉ graph.taken step) : graph.mint.next.toNat ≤ after.mint.next.toNat := by
  cases hchange with
  | addNode draft node mint fresh =>
    have := freshId_above (.inl rfl) fresh hroom
    simp only
    omega
  | addEdge link edge mint fresh source target ends =>
    rw [taken, source, target] at hroom
    have := freshId_above (.inr rfl) fresh hroom
    simp only
    omega
  | revise _ _ _ _ _ hmint _ => exact Nat.le_of_eq (by rw [hmint])
  | deleteNode _ _ _ _ => exact Nat.le_refl _
  | deleteEdge _ _ _ _ => exact Nat.le_refl _
  | replace diagram => exact IdMint.next_le_reserveAll _ _

/-- What is added bears an id that lay above the counter and is in the graph afterwards. -/
theorem Change.added (hchange : Change graph step after (.added (some id)))
    (hroom : IdMint.top ∉ graph.taken step) :
    graph.mint.next.toNat < IdMint.above id ∧ IdMint.above id = after.mint.next.toNat ∧
      id ∈ after.ids := by
  cases hchange with
  | addNode draft node mint fresh =>
    have habove := freshId_above (.inl rfl) fresh hroom
    refine ⟨habove.1, habove.2, ?_⟩
    simp [ids, nodeIds]
  | addEdge link edge mint fresh source target ends =>
    rw [taken, source, target] at hroom
    have habove := freshId_above (.inr rfl) fresh hroom
    refine ⟨habove.1, habove.2, ?_⟩
    simp [ids, edgeIds]
  | revise _ _ _ _ _ _ unnamed => exact absurd rfl (unnamed id)
  | deleteNode _ _ _ unnamed => exact absurd rfl (unnamed id)
  | deleteEdge _ _ _ unnamed => exact absurd rfl (unnamed id)

/-- An id in the graph was there before, or was minted, or came with a diagram; in the last case
the counter has moved past it. -/
theorem Change.mem_ids (hchange : Change graph step after answer) (h : id ∈ after.ids) :
    id ∈ graph.ids ∨ answer = .added (some id) ∨ IdMint.above id ≤ after.mint.next.toNat := by
  cases hchange with
  | addNode draft node mint fresh =>
    simp only [ids, nodeIds, edgeIds, List.map_append, List.map_singleton, List.mem_append,
      List.mem_singleton] at h ⊢
    rcases h with (hold | rfl) | hold
    · exact .inl (.inl hold)
    · exact .inr (.inl rfl)
    · exact .inl (.inr hold)
  | addEdge link edge mint fresh source target ends =>
    simp only [ids, nodeIds, edgeIds, List.map_append, List.map_singleton, List.mem_append,
      List.mem_singleton] at h ⊢
    rcases h with hold | hold | rfl
    · exact .inl (.inl hold)
    · exact .inl (.inr hold)
    · exact .inr (.inl rfl)
  | revise _ _ _ hnodeIds hwiring _ _ =>
    left
    rwa [ids, hnodeIds, edgeIds_of_wiring hwiring] at h
  | deleteNode _ _ _ _ =>
    left
    exact ((List.eraseP_sublist.map _).append (List.filter_sublist.map _)).subset h
  | deleteEdge _ _ _ _ =>
    left
    exact ((List.Sublist.refl _).append (List.filter_sublist.map _)).subset h
  | replace diagram =>
    right; right
    exact IdMint.above_le_reserveAll h _

/-! ## Runs -/

/-- The counter lies above every id of the graph. -/
def Sealed (graph : Graph) : Prop := ∀ id ∈ graph.ids, IdMint.above id ≤ graph.mint.next.toNat

theorem sealed_step (h : graph.Sealed) (hroom : IdMint.top ∉ graph.taken step) :
    (graph.step step).1.Sealed := by
  intro id hid
  have hchange := step_change graph step
  rcases hchange.mem_ids hid with hold | hadded | hpast
  · exact Nat.le_trans (h id hold) (hchange.next_le hroom)
  · rw [hadded] at hchange
    exact Nat.le_of_eq (hchange.added hroom).2.1
  · exact hpast

theorem sealed_run {steps : List Step} (h : graph.Sealed)
    (hroom : IdMint.top ∉ graph.consumed steps) : (graph.run steps).Sealed := by
  induction steps generalizing graph with
  | nil => exact h
  | cons step steps ih =>
    rw [consumed_cons, List.mem_append, not_or] at hroom
    exact ih (sealed_step h hroom.1) hroom.2

theorem next_le_run {steps : List Step} (hroom : IdMint.top ∉ graph.consumed steps) :
    graph.mint.next.toNat ≤ (graph.run steps).mint.next.toNat := by
  induction steps generalizing graph with
  | nil => exact Nat.le_refl _
  | cons step steps ih =>
    rw [consumed_cons, List.mem_append, not_or] at hroom
    exact Nat.le_trans ((step_change graph step).next_le hroom.1) (ih hroom.2)

/-- The counter stays above every id that was in the graph at an earlier moment. -/
theorem above_le_of_ever {earlier steps : List Step} (h : graph.Sealed)
    (hearlier : earlier <+: steps) (hroom : IdMint.top ∉ graph.consumed steps)
    (hid : id ∈ (graph.run earlier).ids) : IdMint.above id ≤ (graph.run steps).mint.next.toNat := by
  obtain ⟨later, rfl⟩ := hearlier
  rw [consumed_append, List.mem_append, not_or] at hroom
  rw [run_append]
  exact Nat.le_trans (sealed_run h hroom.1 id hid) (next_le_run hroom.2)

/-- What was added was in the graph right afterwards. -/
theorem mem_ids_of_mem_answers {steps : List Step} (hroom : IdMint.top ∉ graph.consumed steps)
    (h : .added (some id) ∈ graph.answers steps) :
    ∃ earlier, earlier <+: steps ∧ id ∈ (graph.run earlier).ids := by
  induction steps generalizing graph with
  | nil => cases h
  | cons step steps ih =>
    rw [consumed_cons, List.mem_append, not_or] at hroom
    rw [answers_cons, List.mem_cons] at h
    rcases h with hnow | hlater
    · have hchange := step_change graph step
      rw [← hnow] at hchange
      exact ⟨[step], by simp, (hchange.added hroom.1).2.2⟩
    · obtain ⟨earlier, hearlier, hid⟩ := ih hroom.2 hlater
      exact ⟨step :: earlier, List.cons_prefix_cons.mpr ⟨rfl, hearlier⟩, hid⟩

/-- **Ids are not used again.** In a run from the empty graph that never takes the largest number
from the counter, the id of what is added was not in the graph at any earlier moment, neither on a
node nor on an edge, and was not minted before. -/
theorem minted_id_is_new {steps : List Step} {step : Step} {id : String}
    (hroom : IdMint.top ∉ consumed {} (steps ++ [step]))
    (hadded : ((run {} steps).step step).2 = .added (some id)) :
    (∀ earlier, earlier <+: steps →
      id ∉ (run {} earlier).nodeIds ∧ id ∉ (run {} earlier).edgeIds) ∧
    .added (some id) ∉ answers {} steps := by
  rw [consumed_append, consumed_cons, List.mem_append, List.mem_append, not_or, not_or] at hroom
  obtain ⟨hbefore, hnow, -⟩ := hroom
  have hchange := step_change (run {} steps) step
  rw [hadded] at hchange
  have habove := (hchange.added hnow).1
  have hsealed : Sealed {} := by
    intro id hid
    cases hid
  have hnever : ∀ earlier, earlier <+: steps → id ∉ (run {} earlier).ids := by
    intro earlier hearlier hid
    have := above_le_of_ever hsealed hearlier hbefore hid
    omega
  constructor
  · intro earlier hearlier
    exact not_or.mp (mem_ids_iff.not.mp (hnever earlier hearlier))
  · intro hminted
    obtain ⟨earlier, hearlier, hid⟩ := mem_ids_of_mem_answers hbefore hminted
    exact hnever earlier hearlier hid

/-- After the deletion of an imported node, together with its edge, the next id is above the ids of
both. -/
theorem minted_id_is_new_after_import :
    let steps := [Step.replaceAll ⟨[⟨"dndnode_7", .custom, .origin, {}, none⟩],
        [⟨"edge_9", "dndnode_7", "dndnode_7", none, none, Edge.drawnType, {}⟩]⟩,
      .deleteElement "dndnode_7"]
    let step := Step.addNode (.custom .origin {})
    IdMint.top ∉ consumed {} (steps ++ [step]) ∧
      ((run {} steps).step step).2 = .added (some "dndnode_10") ∧
      (∀ earlier, earlier <+: steps → "dndnode_10" ∉ (run {} earlier).nodeIds ∧
        "dndnode_10" ∉ (run {} earlier).edgeIds) ∧
      .added (some "dndnode_10") ∉ answers {} steps := by
  intro steps step
  have hroom : IdMint.top ∉ consumed {} (steps ++ [step]) := by decide +kernel
  have hadded : ((run {} steps).step step).2 = .added (some "dndnode_10") := by decide +kernel
  exact ⟨hroom, hadded, minted_id_is_new hroom hadded⟩

end DiagramStudio.Graph
