import DiagramStudio.Proofs.Diagram.Version
import DiagramStudio.Proofs.Graph.Sound

/-!
# TLS versions spoil nothing

Whatever stands for the version of an edge in a document, the document is read as it would be with
something else there or without it. Repairing a diagram looks only at ids and at the ends of edges,
so nothing but versions differs either once the diagram is installed.

Results:
* `firsts_eq_places`: which items come first can be told from their places.
* `Diagram.placesLeft_congr`: the places of the edges that are left follow from ids and wiring.
* `VersionEdit.Follows.revises`: what one change does to the edge that is read.
* `Diagram.versions_spoil_nothing`: what changed versions do to a document, to the diagram that is
  read from it and to the graph in which it is installed.
-/

namespace DiagramStudio

/-! ## Places of what is left -/

section Places

variable {α β : Type} {test : α → Bool} {key : α → String} {items : List α}

/-- The places of the items that come first among those of their key that pass a test. -/
def firstPlaces (test : α → Bool) (key : α → String) (items : List α) : List Nat :=
  (items.zipIdx.filter (comesFirst test key items)).map Prod.snd

theorem firsts_eq_places (test : α → Bool) (key : α → String) (items : List α) :
    firsts test key items = (firstPlaces test key items).filterMap (items[·]?) := by
  have hfound : ∀ entry ∈ items.zipIdx.filter (comesFirst test key items),
      items[entry.2]? = some entry.1 :=
    fun entry hentry => List.mem_zipIdx_iff_getElem?.mp (List.mem_filter.mp hentry).1
  rw [firsts, firstPlaces, List.filterMap_map, ← List.filterMap_eq_map]
  exact List.filterMap_congr fun entry hentry => (hfound entry hentry).symm

theorem comesFirst_map {f : β → α} {items : List β} (item : β) (place : Nat) :
    comesFirst test key (items.map f) (f item, place) =
      comesFirst (test ∘ f) (key ∘ f) items (item, place) := by
  rw [comesFirst, comesFirst, ← List.map_take, List.filter_map, List.all_map]
  rfl

/-- The places follow from what the test and the key look at. -/
theorem firstPlaces_map (f : β → α) (items : List β) :
    firstPlaces test key (items.map f) = firstPlaces (test ∘ f) (key ∘ f) items := by
  have hsame : comesFirst test key (items.map f) ∘ Prod.map f id =
      comesFirst (test ∘ f) (key ∘ f) items :=
    funext fun entry => comesFirst_map entry.1 entry.2
  rw [firstPlaces, firstPlaces, List.zipIdx_map, List.filter_map, List.map_map, hsame]
  rfl

end Places

namespace Diagram

variable {diagram changed : Diagram}

/-- The places of the edges that repairing leaves: of the edges of one id, the first one that joins
nodes of the diagram. -/
def placesLeft (diagram : Diagram) : List Nat :=
  firstPlaces (fun edge => edge.source ∈ diagram.nodes.map (·.id) ∧
    edge.target ∈ diagram.nodes.map (·.id)) (·.id) diagram.edges

theorem repaired_edges_eq_places (diagram : Diagram) :
    diagram.repaired.edges = diagram.placesLeft.filterMap (diagram.edges[·]?) := by
  rw [repaired_edges, firsts_eq_places]
  rfl

/-- The places follow from the nodes and the wiring. -/
theorem placesLeft_congr (hnodes : changed.nodes = diagram.nodes)
    (hwiring : changed.edges.map Edge.wiring = diagram.edges.map Edge.wiring) :
    changed.placesLeft = diagram.placesLeft := by
  have hplaces (other : Diagram) : other.placesLeft =
      firstPlaces (fun wiring => wiring.2.1 ∈ other.nodes.map (·.id) ∧
        wiring.2.2 ∈ other.nodes.map (·.id)) Prod.fst (other.edges.map Edge.wiring) := by
    rw [firstPlaces_map]
    rfl
  rw [hplaces, hplaces, hnodes, hwiring]

end Diagram

/-! ## Edges of which the version was changed -/

namespace VersionEdit

variable {edit : VersionEdit} {data? : Option Json} {edge changed : Edge}

/-- An edge that was read before and after a change of its document. Nothing but the version
differs, and nothing at all if the change does not concern the edge. A version that was put into the
data of the edge is in force if it is spelled there. -/
structure Revises (edit : VersionEdit) (data? : Option Json) (edge changed : Edge) : Prop where
  others : changed = { edge with data := edge.data.withVersion changed.data.tlsVersion }
  kept : edit = .keep ∨ data? = none → changed = edge
  removed : edit = .remove → data?.isSome → changed.data.effectiveVersion = .auto
  put : ∀ value, edit = .put value → data?.isSome → ∀ version,
    changed.data.effectiveVersion = version ↔
      value.Spells version ∨ version = .auto ∧ ∀ other, ¬ value.Spells other

theorem Follows.revises (h : edit.Follows data? edge changed) :
    edit.Revises data? edge changed := by
  cases data? with
  | none =>
    obtain rfl : changed = edge := h
    exact ⟨rfl, fun _ => rfl, nofun, nofun⟩
  | some part =>
    obtain rfl : changed =
      { edge with data := edge.data.withVersion (edit.version edge.data.tlsVersion) } := h
    refine ⟨rfl, ?_, ?_, ?_⟩
    · rintro (rfl | hnone)
      · rfl
      · cases hnone
    · rintro rfl -
      rfl
    · rintro value rfl - version
      exact Json.version?_getD_eq_iff

theorem Follows.wiring (h : edit.Follows data? edge changed) : changed.wiring = edge.wiring := by
  rw [h.revises.others]
  rfl

end VersionEdit

/-! ## Diagrams of which the versions were changed -/

namespace Diagram

variable {document : Json} {edits : Nat → VersionEdit} {diagram changed : Diagram}

theorem Follows.wiring (h : Follows edits document diagram changed) :
    changed.edges.map Edge.wiring = diagram.edges.map Edge.wiring := by
  have hlength :
      (changed.edges.map Edge.wiring).length = (diagram.edges.map Edge.wiring).length := by
    rw [List.length_map, List.length_map, h.length]
  refine List.ext_getElem hlength fun place hlt hle => ?_
  rw [List.getElem_map, List.getElem_map]
  rw [List.length_map] at hlt hle
  exact (h.edges place _ _ (List.getElem?_eq_getElem hle) (List.getElem?_eq_getElem hlt)).wiring

/-- The diagrams are repaired and numbered alike, and the edges that are left stand at the same
places. -/
theorem Follows.installed (h : Follows edits document diagram changed) (graph : Graph) :
    (graph.replaceAll changed).nodes = (graph.replaceAll diagram).nodes ∧
      (graph.replaceAll changed).mint = (graph.replaceAll diagram).mint ∧
      (graph.replaceAll diagram).edges = diagram.placesLeft.filterMap (diagram.edges[·]?) ∧
      (graph.replaceAll changed).edges = diagram.placesLeft.filterMap (changed.edges[·]?) := by
  have hnodes : changed.repaired.nodes = diagram.repaired.nodes := by
    rw [repaired, repaired, h.nodes]
  have hbefore := diagram.repaired_edges_eq_places
  have hafter := changed.repaired_edges_eq_places
  rw [placesLeft_congr h.nodes h.wiring] at hafter
  have hids : changed.repaired.edges.map (·.id) = diagram.repaired.edges.map (·.id) := by
    have hid (place : Nat) :
        changed.edges[place]?.map (·.id) = diagram.edges[place]?.map (·.id) := by
      have hplace := congrArg (fun wirings => wirings[place]?.map Prod.fst) h.wiring
      rwa [List.getElem?_map, List.getElem?_map, Option.map_map, Option.map_map] at hplace
    rw [hbefore, hafter, List.map_filterMap, List.map_filterMap]
    exact List.filterMap_congr fun place _ => hid place
  refine ⟨hnodes, ?_, hbefore, hafter⟩
  simp only [Graph.replaceAll, hnodes, hids]

/-- **A version spoils nothing.** Whatever is put in place of the versions in a document, and
wherever they are removed, the document is read as a diagram if and only if it was before. The
diagrams have the same nodes, and their edges differ in nothing but the versions that were changed.
When they are installed, the same nodes are left, and the edges at the same places. -/
theorem versions_spoil_nothing {document : Json} (hcanonical : document.Canonical)
    (edits : Nat → VersionEdit) :
    (Diagram.ofJson (document.editVersions edits)).isOk = (Diagram.ofJson document).isOk ∧
      ∀ diagram changed, Diagram.ofJson document = .ok diagram →
        Diagram.ofJson (document.editVersions edits) = .ok changed →
          changed.nodes = diagram.nodes ∧ changed.edges.length = diagram.edges.length ∧
          (∀ (place : Nat) (edge other : Edge), diagram.edges[place]? = some edge →
            changed.edges[place]? = some other →
              (edits place).Revises (document.edgeData? place) edge other) ∧
          ∀ graph : Graph,
            (graph.replaceAll changed).nodes = (graph.replaceAll diagram).nodes ∧
            (graph.replaceAll changed).mint = (graph.replaceAll diagram).mint ∧
            (graph.replaceAll diagram).edges =
              diagram.placesLeft.filterMap (diagram.edges[·]?) ∧
            (graph.replaceAll changed).edges =
              diagram.placesLeft.filterMap (changed.edges[·]?) := by
  have hread := Diagram.read_editVersions hcanonical edits
  refine ⟨hread.isOk_eq.symm, fun diagram changed hdiagram hchanged => ?_⟩
  have hfollows := hread.of_ok hdiagram hchanged
  refine ⟨hfollows.nodes, hfollows.length, fun place edge other hedge hother => ?_,
    hfollows.installed⟩
  exact (hfollows.edges place edge other hedge hother).revises

/-- A list is put where an edge asks for TLS 1.3. -/
theorem list_in_place_of_version :
    let edge := Json.obj [("data", .obj [("tlsVersion", .str " TLSv1.3")]), ("id", .str "e"),
      ("source", .str "a"), ("target", .str "a")]
    let document := Json.obj [("edges", .arr [edge]), ("nodes", .arr [.obj [("id", .str "a")]])]
    document.Canonical ∧ ∃ diagram changed, Diagram.ofJson document = .ok diagram ∧
      Diagram.ofJson (document.editVersions fun _ => .put (.arr [.null])) = .ok changed ∧
      diagram.edges.map (·.data.effectiveVersion) = [.tls13] ∧
      (Graph.ofDiagram changed).edges.map (·.data.effectiveVersion) = [.auto] := by
  intro edge document
  have hdata : Json.Canonical (.obj [("tlsVersion", .str " TLSv1.3")]) :=
    .obj (List.pairwise_singleton _ _) (List.forall_mem_singleton.mpr (.str _))
  have hedge : edge.Canonical := by
    refine .obj (by simp only [Json.Ascending]; decide) ?_
    simp only [List.forall_mem_cons]
    exact ⟨hdata, .str _, .str _, .str _, by simp⟩
  have hnode : Json.Canonical (.obj [("id", .str "a")]) :=
    .obj (List.pairwise_singleton _ _) (List.forall_mem_singleton.mpr (.str _))
  have hcanonical : document.Canonical := by
    refine .obj (by simp only [Json.Ascending]; decide) ?_
    simp only [List.forall_mem_cons]
    exact ⟨.arr (List.forall_mem_singleton.mpr hedge), .arr (List.forall_mem_singleton.mpr hnode),
      by simp⟩
  have hread : ∃ diagram old, Diagram.ofJson document = .ok diagram ∧ diagram.edges = [old] ∧
      diagram.placesLeft = [0] ∧ old.data.effectiveVersion = .tls13 :=
    ⟨_, _, rfl, rfl, by decide +kernel, by decide +kernel⟩
  obtain ⟨diagram, old, hdiagram, hold, hplaces, hversion⟩ := hread
  have hspoils := versions_spoil_nothing hcanonical fun _ => .put (.arr [.null])
  obtain ⟨changed, hchanged⟩ := Read.isOk_iff.mp (hspoils.1.trans (Read.isOk_iff.mpr ⟨_, hdiagram⟩))
  obtain ⟨-, hlength, hrevises, hinstalled⟩ := hspoils.2 diagram changed hdiagram hchanged
  rw [hold] at hlength
  obtain ⟨other, hother⟩ := List.length_eq_one_iff.mp hlength
  have hedges : (Graph.ofDiagram changed).edges = [other] := by
    rw [Graph.ofDiagram, (hinstalled {}).2.2.2, hplaces, hother]
    rfl
  have hrevised := hrevises 0 old other (by rw [hold]; rfl) (by rw [hother]; rfl)
  have hauto := (hrevised.put _ rfl rfl .auto).mpr (.inr ⟨rfl, by rintro _ ⟨_, h, -⟩; cases h⟩)
  refine ⟨hcanonical, diagram, changed, hdiagram, hchanged, ?_, ?_⟩
  · rw [hold, List.map_singleton, hversion]
  · rw [hedges, List.map_singleton, hauto]

end Diagram

end DiagramStudio
