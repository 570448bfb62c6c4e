import DiagramStudio.Graph.Repair
import Mathlib.Data.List.Nodup

/-!
# What repairing a diagram leaves

Results:
* `firstOfEach_sublist`: nothing is added and the order stays.
* `nodup_firstOfEach`: no key occurs twice.
* `repaired_ends`: every edge that is left joins nodes that are left.
* `firstOfEach_eq_firsts`: an item is kept exactly if it comes first among those of its key.
* `repaired_nodes`, `repaired_edges`: which nodes and edges of a diagram are left.
* `repaired_eq_self`: a diagram in which nothing is to be repaired stays as it is.
-/

namespace DiagramStudio

variable {α : Type}

theorem firstOfEach_sublist (key : α → String) (seen : List String) (items : List α) :
    (firstOfEach key seen items).Sublist items := by
  induction items generalizing seen with
  | nil => exact List.Sublist.refl _
  | cons item rest ih =>
    rw [firstOfEach]
    split_ifs
    · exact (ih seen).cons item
    · exact (ih (key item :: seen)).cons_cons item

/-- No item is kept whose key was seen before. -/
theorem key_notMem_seen {key : α → String} {seen : List String} {items : List α} {item : α}
    (h : item ∈ firstOfEach key seen items) : key item ∉ seen := by
  induction items generalizing seen with
  | nil => cases h
  | cons first rest ih =>
    rw [firstOfEach] at h
    split_ifs at h with hseen
    · exact ih h
    · rcases List.mem_cons.mp h with rfl | hrest
      · exact hseen
      · exact fun hmem => ih hrest (List.mem_cons_of_mem _ hmem)

theorem nodup_firstOfEach (key : α → String) (seen : List String) (items : List α) :
    ((firstOfEach key seen items).map key).Nodup := by
  induction items generalizing seen with
  | nil => exact List.nodup_nil
  | cons item rest ih =>
    rw [firstOfEach]
    split_ifs
    · exact ih seen
    · rw [List.map_cons, List.nodup_cons]
      refine ⟨?_, ih _⟩
      rintro hmem
      obtain ⟨other, hother, hkey⟩ := List.mem_map.mp hmem
      exact key_notMem_seen hother (by simp [hkey])

/-- Every key is kept. -/
theorem key_mem_firstOfEach {key : α → String} {items : List α} {item : α} (h : item ∈ items)
    (seen : List String) : key item ∈ seen ∨ key item ∈ (firstOfEach key seen items).map key := by
  induction items generalizing seen with
  | nil => cases h
  | cons first rest ih =>
    rw [firstOfEach]
    split_ifs with hseen
    · rcases List.mem_cons.mp h with rfl | hrest
      · exact .inl hseen
      · exact ih hrest seen
    · rw [List.map_cons, List.mem_cons]
      rcases List.mem_cons.mp h with rfl | hrest
      · exact .inr (.inl rfl)
      · rcases ih hrest (key first :: seen) with hold | hkept
        · rcases List.mem_cons.mp hold with hsame | hold
          · exact .inr (.inl hsame)
          · exact .inl hold
        · exact .inr (.inr hkept)

theorem mem_keys_firstOfEach {key : α → String} {items : List α} {k : String} :
    k ∈ (firstOfEach key [] items).map key ↔ k ∈ items.map key := by
  constructor
  · intro h
    exact ((firstOfEach_sublist key [] items).map key).subset h
  · intro h
    obtain ⟨item, hitem, rfl⟩ := List.mem_map.mp h
    exact (key_mem_firstOfEach hitem []).resolve_left List.not_mem_nil

/-- Where no key is repeated, and none was seen before, every item is kept. -/
theorem firstOfEach_eq_self {key : α → String} {seen : List String} {items : List α}
    (hkeys : (items.map key).Nodup) (hseen : ∀ item ∈ items, key item ∉ seen) :
    firstOfEach key seen items = items := by
  induction items generalizing seen with
  | nil => rfl
  | cons first rest ih =>
    rw [List.map_cons, List.nodup_cons] at hkeys
    rw [firstOfEach, if_neg (hseen first List.mem_cons_self)]
    refine congrArg (first :: ·) (ih hkeys.2 fun item hitem hmem => ?_)
    rcases List.mem_cons.mp hmem with hsame | hold
    · exact hkeys.1 (hsame ▸ List.mem_map_of_mem hitem)
    · exact hseen item (List.mem_cons_of_mem first hitem) hold

/-! ## First places -/

/-- Whether an item at that place passes a test and no item of its key before it does. -/
def comesFirst (test : α → Bool) (key : α → String) (items : List α) : α × Nat → Bool
  | (item, place) => test item && ((items.take place).filter test).all (key · ≠ key item)

/-- The items that come first among those of their key that pass a test, in their order. -/
def firsts (test : α → Bool) (key : α → String) (items : List α) : List α :=
  (items.zipIdx.filter (comesFirst test key items)).map Prod.fst

theorem comesFirst_iff (test : α → Bool) (key : α → String) (earlier : List α) (item : α)
    (later : List α) :
    comesFirst test key (earlier ++ item :: later) (item, earlier.length) = true ↔
      test item = true ∧ key item ∉ (earlier.filter test).map key := by
  rw [comesFirst, List.take_left]
  simp only [Bool.and_eq_true, List.all_eq_true, decide_eq_true_eq, List.mem_map, not_exists,
    not_and]

theorem keys_concat (test : α → Bool) (key : α → String) (items : List α) (item : α) :
    ((items ++ [item]).filter test).map key =
      (items.filter test).map key ++ if test item then [key item] else [] := by
  rw [List.filter_append, List.map_append, List.filter_singleton]
  cases test item <;> rfl

/-- When the keys that were seen are those of the items that passed before, what is kept of the rest
comes first. -/
theorem firstOfEach_filter {test : α → Bool} {key : α → String} {seen : List String}
    {earlier : List α} (hseen : ∀ k, k ∈ seen ↔ k ∈ (earlier.filter test).map key)
    (rest : List α) :
    firstOfEach key seen (rest.filter test) =
      ((rest.zipIdx earlier.length).filter (comesFirst test key (earlier ++ rest))).map
        Prod.fst := by
  induction rest generalizing earlier seen with
  | nil => rfl
  | cons item later ih =>
    have hfirst := comesFirst_iff test key earlier item later
    have hnext : ∀ {now : List String},
        (∀ k, k ∈ now ↔ k ∈ (earlier.filter test).map key ++ if test item then [key item] else []) →
        firstOfEach key now (later.filter test) =
          ((later.zipIdx (earlier.length + 1)).filter
            (comesFirst test key (earlier ++ item :: later))).map Prod.fst := by
      intro now hnow
      rw [← keys_concat] at hnow
      have := ih hnow
      rwa [List.length_append, List.length_singleton, List.append_assoc, List.singleton_append]
        at this
    rw [List.zipIdx_cons]
    by_cases htest : test item = true
    · rw [List.filter_cons_of_pos htest, firstOfEach]
      rw [if_pos htest] at hnext
      split_ifs with hold
      · have hlate := hfirst.not.mpr fun h => h.2 ((hseen _).mp hold)
        rw [List.filter_cons_of_neg hlate]
        apply hnext
        intro k
        rw [List.mem_append, ← hseen, List.mem_singleton]
        exact ⟨Or.inl, fun h => h.elim id fun hk => hk ▸ hold⟩
      · have hnew := hfirst.mpr ⟨htest, fun h => hold ((hseen _).mpr h)⟩
        rw [List.filter_cons_of_pos hnew, List.map_cons]
        congr 1
        apply hnext
        intro k
        rw [List.mem_append, ← hseen, List.mem_singleton, List.mem_cons]
        exact or_comm
    · have hout := hfirst.not.mpr fun h => htest h.1
      rw [List.filter_cons_of_neg htest, List.filter_cons_of_neg hout]
      apply hnext
      intro k
      rw [if_neg htest, List.append_nil]
      exact hseen k

theorem firstOfEach_eq_firsts (test : α → Bool) (key : α → String) (items : List α) :
    firstOfEach key [] (items.filter test) = firsts test key items := by
  have hseen : ∀ k, k ∈ [] ↔ k ∈ (([] : List α).filter test).map key := fun _ => Iff.rfl
  exact firstOfEach_filter hseen items

theorem Edge.joins_iff (edge : Edge) (ids : List String) :
    edge.joins ids = true ↔ edge.source ∈ ids ∧ edge.target ∈ ids := by
  simp [Edge.joins]

namespace Diagram

theorem nodup_repaired_nodes (diagram : Diagram) : (diagram.repaired.nodes.map (·.id)).Nodup :=
  nodup_firstOfEach _ _ _

theorem nodup_repaired_edges (diagram : Diagram) : (diagram.repaired.edges.map (·.id)).Nodup :=
  nodup_firstOfEach _ _ _

theorem repaired_ends (diagram : Diagram) {edge : Edge} (h : edge ∈ diagram.repaired.edges) :
    edge.source ∈ diagram.repaired.nodes.map (·.id) ∧
      edge.target ∈ diagram.repaired.nodes.map (·.id) := by
  have hkept := (firstOfEach_sublist _ _ _).subset h
  exact (Edge.joins_iff _ _).mp (List.mem_filter.mp hkept).2

/-- Of the nodes of one id the first is left. -/
theorem repaired_nodes (diagram : Diagram) :
    diagram.repaired.nodes = firsts (fun _ => true) (·.id) diagram.nodes := by
  have hall : diagram.nodes.filter (fun _ => true) = diagram.nodes := List.filter_true _
  rw [← firstOfEach_eq_firsts, hall]
  rfl

/-- Of the edges of one id the first is left that joins nodes of the diagram. -/
theorem repaired_edges (diagram : Diagram) :
    diagram.repaired.edges =
      firsts (fun edge => edge.source ∈ diagram.nodes.map (·.id) ∧
        edge.target ∈ diagram.nodes.map (·.id)) (·.id) diagram.edges := by
  have hjoins : ∀ edge : Edge,
      edge.joins (diagram.repaired.nodes.map (·.id)) =
        decide (edge.source ∈ diagram.nodes.map (·.id) ∧
          edge.target ∈ diagram.nodes.map (·.id)) := by
    intro edge
    rw [Bool.eq_iff_iff, Edge.joins_iff, decide_eq_true_eq, repaired, mem_keys_firstOfEach,
      mem_keys_firstOfEach]
  rw [← firstOfEach_eq_firsts]
  simp only [← hjoins]
  rfl

theorem repaired_eq_self {diagram : Diagram} (hnodes : (diagram.nodes.map (·.id)).Nodup)
    (hedges : (diagram.edges.map (·.id)).Nodup)
    (hends : ∀ edge ∈ diagram.edges,
      edge.source ∈ diagram.nodes.map (·.id) ∧ edge.target ∈ diagram.nodes.map (·.id)) :
    diagram.repaired = diagram := by
  have hjoined : diagram.edges.filter (·.joins (diagram.nodes.map (·.id))) = diagram.edges :=
    List.filter_eq_self.mpr fun edge hedge => (edge.joins_iff _).mpr (hends edge hedge)
  have hkept : firstOfEach (·.id) [] diagram.nodes = diagram.nodes :=
    firstOfEach_eq_self hnodes fun _ _ => List.not_mem_nil
  simp only [repaired, hkept, hjoined]
  rw [firstOfEach_eq_self hedges fun _ _ => List.not_mem_nil]

end Diagram

end DiagramStudio
