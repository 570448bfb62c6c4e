import DiagramStudio.Proofs.Document.Syntax
import DiagramStudio.Service.Reply
import Mathlib.Data.List.Permutation

/-!
# The diagrams that replies show

A text is a diagram if it is an object or a list with blanks around it. Since such a text tells
where it ends, prose around it can only make the whole text unreadable, and then what stands between
the outermost braces is tried. So the diagram of a reply is that of its object, wherever it stands;
but a reply without any object is not always refused, because a list alone is a diagram, too.

Results:
* `Diagram.ofText_core`: a text that shows a diagram is an object or a list, and what becomes of it
  in other surroundings.
* `Reply.outermostBraces?_eq_some`: what the search for the outermost braces finds.
* `Reply.diagram_of_wrapped`: a document in prose is read as the document.
* `Reply.diagram_shown_by_object_or_list`: the texts that show a diagram.
* `Reply.diagram_without_object`: a text that shows a diagram and holds no object.
-/

namespace DiagramStudio

open Grammar

/-! ## Records in texts -/

theorem Ending.readList_eq_ok {ending : Ending} (h : ending.readList = .ok ()) :
    ending = .closed := by
  cases ending <;> first | rfl | cases h

theorem Ending.readObject_eq_ok {ending : Ending} (h : ending.readObject = .ok ()) :
    ending = .closed := by
  cases ending <;> first | rfl | cases h

namespace Shape

variable {α : Type} {shape : Shape α} {room count : Nat} {ending : Ending} {doc : Doc}
  {before record : α}

theorem ending_of_readItems {fields : List (Field α)} {items : List Doc}
    (h : shape.readItems (.text room) ending count before fields items = .ok record) :
    ending = .closed := by
  induction fields generalizing count before items with
  | nil =>
    simp only [readItems, Read.bind_eq_ok] at h
    obtain ⟨_, hrest, -⟩ := h
    cases items with
    | nil => cases ending <;> first | rfl | cases hrest
    | cons => cases hrest
  | cons field fields ih =>
    cases items with
    | nil =>
      simp only [readItems, Read.bind_eq_ok] at h
      obtain ⟨_, hending, -⟩ := h
      exact Ending.readList_eq_ok hending
    | cons item items =>
      simp only [readItems, Read.bind_eq_ok] at h
      obtain ⟨_, -, hitems⟩ := h
      exact ih hitems

/-- A record that is read from a text is a list or an object that is complete. -/
theorem isClosed_of_read (h : shape.read (.text room) doc = .ok record) : doc.IsClosed := by
  cases doc with
  | object members ending =>
    simp only [read, readMembers, Read.bind_eq_ok] at h
    obtain ⟨_, -, _, -, _, hending, -⟩ := h
    exact Ending.readObject_eq_ok hending
  | list items ending =>
    simp only [read, Read.bind_eq_ok] at h
    obtain ⟨inner, hinner, hitems⟩ := h
    cases room with
    | zero => cases hinner
    | succ room =>
      cases hinner
      exact ending_of_readItems hitems
  | _ => cases h

end Shape

theorem readText_eq {α : Type} {read : Source → Doc → Read α} {text : String} {doc : Doc}
    {more : Bool} {value : α} (htext : Doc.ofText text = (doc, more))
    (hread : read .wholeText doc = .ok value) :
    readText read text = if more then .error .trailingCharacters else .ok value := by
  rw [readText, htext]
  simp only [hread, Read.ok_bind]
  cases more <;> rfl

theorem readText_eq_ok {α : Type} {read : Source → Doc → Read α} {text : String} {value : α}
    (h : readText read text = .ok value) :
    ∃ doc, Doc.ofText text = (doc, false) ∧ read .wholeText doc = .ok value := by
  obtain ⟨⟨doc, more⟩, htext⟩ : ∃ tree, Doc.ofText text = tree := ⟨_, rfl⟩
  have hread : ∃ result, read .wholeText doc = .ok result := by
    rw [readText, htext, Read.bind_eq_ok] at h
    exact h.imp fun result hresult => hresult.1
  obtain ⟨result, hresult⟩ := hread
  rw [readText_eq htext hresult] at h
  cases more with
  | true => cases h
  | false =>
    cases h
    exact ⟨doc, htext, hresult⟩

namespace Diagram

variable {text : String} {diagram : Diagram}

/-- A text that shows a diagram is an object or a list with blanks around it. What becomes of that
part elsewhere, behind blanks, depends only on whether blanks follow it. -/
theorem ofText_core (h : ofText text = .ok diagram) :
    ∃ gap core back, text.toList = gap ++ (core ++ back) ∧ Blanks gap ∧ Blanks back ∧
      (ObjectText core ∨ ListText core) ∧
      ∀ before after, Blanks before →
        (Blanks after → ofText (String.ofList (before ++ (core ++ after))) = .ok diagram) ∧
        (¬ Blanks after →
          ofText (String.ofList (before ++ (core ++ after))) = .error .trailingCharacters) := by
  obtain ⟨doc, htext, hread⟩ := readText_eq_ok h
  have hclosed : doc.IsClosed := Shape.isClosed_of_read hread
  obtain ⟨gap, core, back, hsplit, hgap, hcore, hback, hagain⟩ := Doc.ofText_closed htext hclosed
  refine ⟨gap, core, back, hsplit, hgap, hback.mp rfl, ?_, fun before after hbefore => ?_⟩
  · cases doc with
    | object => exact .inl hcore
    | list => exact .inr hcore
    | _ => exact hclosed.elim
  · obtain ⟨more, hmore, hends⟩ := hagain before after hbefore
    rw [ofText, readText_eq hmore hread]
    refine ⟨fun hafter => ?_, fun hafter => ?_⟩
    · rw [hends.mpr hafter]
      rfl
    · rw [Bool.eq_true_of_not_eq_false (mt hends.mp hafter)]
      rfl

end Diagram

/-- The part is the text without the blanks around it. -/
def Bare (text part : String) : Prop :=
  ∃ before after, text.toList = before ++ (part.toList ++ after) ∧ Blanks before ∧ Blanks after

/-- Blanks around a text do not matter, and what is left of them is an object or a list. -/
theorem Diagram.ofText_eq_ok_iff {text : String} {diagram : Diagram} :
    ofText text = .ok diagram ↔ ∃ core, Bare text core ∧
      (ObjectText core.toList ∨ ListText core.toList) ∧ ofText core = .ok diagram := by
  refine ⟨fun h => ?_, fun h => ?_⟩
  · obtain ⟨gap, core, back, hsplit, hgap, hback, hcore, hagain⟩ := ofText_core h
    refine ⟨String.ofList core, ⟨gap, back, ?_, hgap, hback⟩, ?_, ?_⟩
    · rwa [String.toList_ofList]
    · rwa [String.toList_ofList]
    · have halone := (hagain [] [] .nil).1 .nil
      rwa [List.nil_append, List.append_nil] at halone
  · obtain ⟨part, ⟨before, after, htext, hbefore, hafter⟩, -, hpart⟩ := h
    obtain ⟨gap, core, back, hsplit, hgap, hback, -, hagain⟩ := ofText_core hpart
    have hwhole : text = String.ofList (before ++ gap ++ (core ++ (back ++ after))) := by
      rw [← String.ofList_toList (s := text), htext, hsplit]
      simp only [List.append_assoc]
    rw [hwhole]
    exact (hagain (before ++ gap) (back ++ after) (hbefore.append hgap)).1 (hback.append hafter)

namespace Reply

variable {text span core : String} {diagram : Diagram}

/-! ## The outermost braces -/

/-- The span is the part of the text from its first opening to its last closing brace. -/
def Outermost (text span : String) : Prop :=
  ∃ before after, text.toList = before ++ (span.toList ++ after) ∧ '\x7b' ∉ before ∧
    '\x7d' ∉ after ∧ span.toList.head? = some '\x7b' ∧ span.toList.getLast? = some '\x7d'

/-- What is dropped from the front of a text ends before the first character of that kind. -/
theorem dropWhile_ne {c : Char} {before tail : List Char} (hbefore : c ∉ before)
    (htail : tail.head? = some c) : (before ++ tail).dropWhile (· ≠ c) = tail := by
  obtain ⟨rest, rfl⟩ := List.head?_eq_some_iff.mp htail
  rw [List.dropWhile_append_of_pos, List.dropWhile_cons_of_neg (by simp)]
  intro d hd
  exact decide_eq_true fun hsame => hbefore (hsame ▸ hd)

/-- What is left of a text, if anything is, begins with the first character of that kind. -/
theorem exists_dropWhile_ne {c : Char} {cs : List Char} (h : cs.dropWhile (· ≠ c) ≠ []) :
    ∃ before, cs = before ++ cs.dropWhile (· ≠ c) ∧ c ∉ before ∧
      (cs.dropWhile (· ≠ c)).head? = some c := by
  have hhead := List.head?_dropWhile_not (· ≠ c) cs
  refine ⟨cs.takeWhile (· ≠ c), List.takeWhile_append_dropWhile.symm, fun hmem => ?_, ?_⟩
  · simpa using List.mem_takeWhile_imp hmem
  · cases hdrop : cs.dropWhile (· ≠ c) with
    | nil => exact absurd hdrop h
    | cons d tail =>
      rw [hdrop] at hhead
      have hsame : d = c := by simpa using hhead
      rw [hsame, List.head?_cons]

theorem outermostBraces?_eq_some : outermostBraces? text = some span ↔ Outermost text span := by
  rw [outermostBraces?]
  refine ⟨fun h => ?_, fun h => ?_⟩
  · split at h
    · cases h
    · next hempty =>
      cases h
      rw [List.isEmpty_iff, List.reverse_eq_nil_iff] at hempty
      have hopens : text.toList.dropWhile (· ≠ '\x7b') ≠ [] := by
        intro hnone
        rw [hnone] at hempty
        exact hempty rfl
      obtain ⟨before, hbefore, hopen, hbegin⟩ := exists_dropWhile_ne hopens
      obtain ⟨after, hafter, hclose, hend⟩ := exists_dropWhile_ne hempty
      rw [Outermost, String.toList_ofList]
      generalize (text.toList.dropWhile (· ≠ '\x7b')).reverse.dropWhile (· ≠ '\x7d') = kept at *
      have htail : text.toList.dropWhile (· ≠ '\x7b') = kept.reverse ++ after.reverse := by
        rw [← List.reverse_append, ← hafter, List.reverse_reverse]
      rw [htail] at hbefore hbegin
      refine ⟨before, after.reverse, hbefore, hopen, ?_, ?_, ?_⟩
      · rwa [List.mem_reverse]
      · rwa [List.head?_append_of_ne_nil _ (mt List.reverse_eq_nil_iff.mp hempty)] at hbegin
      · rw [List.getLast?_reverse, hend]
  · obtain ⟨before, after, htext, hopen, hclose, hbegin, hend⟩ := h
    have htail : (span.toList ++ after).head? = some '\x7b' := by
      rw [List.head?_append, hbegin, Option.some_or]
    have hlast : span.toList.reverse.head? = some '\x7d' := by rw [List.head?_reverse, hend]
    have hkept : (after.reverse ++ span.toList.reverse).dropWhile (· ≠ '\x7d') =
        span.toList.reverse := dropWhile_ne (mt List.mem_reverse.mp hclose) hlast
    have hsome : span.toList.isEmpty = false := by
      cases hspan : span.toList with
      | nil =>
        rw [hspan] at hbegin
        cases hbegin
      | cons => rfl
    simp only [htext, dropWhile_ne hopen htail, List.reverse_append, hkept, List.reverse_reverse,
      hsome, Bool.false_eq_true, if_false, String.ofList_toList]

/-! ## Documents in prose -/

/-- Blanks are no braces and no brackets. -/
theorem not_mem_of_blanks {c : Char} {gap : List Char} (hgap : Blanks gap)
    (hc : Token.isSpace c = false) : c ∉ gap := by
  intro hmem
  rw [hgap c hmem] at hc
  cases hc

/-- The part of a text before its first opening brace or bracket. -/
theorem takeWhile_opening {before tail : List Char} (hbefore : '\x7b' ∉ before ∧ '[' ∉ before)
    (htail : tail.head? = some '\x7b' ∨ tail.head? = some '[') :
    (before ++ tail).takeWhile (fun c => c ≠ '\x7b' && c ≠ '[') = before := by
  have hkept : ∀ c ∈ before, (decide (c ≠ '\x7b') && decide (c ≠ '[')) = true := by
    intro c hc
    rw [Bool.and_eq_true, decide_eq_true_eq, decide_eq_true_eq]
    exact ⟨fun hsame => hbefore.1 (hsame ▸ hc), fun hsame => hbefore.2 (hsame ▸ hc)⟩
  rw [List.takeWhile_append_of_pos hkept]
  obtain hhead | hhead := htail <;> obtain ⟨rest, rfl⟩ := List.head?_eq_some_iff.mp hhead <;> simp

/-- **Documents wrapped in prose.** A document that stands between braces is read as well with any
text before it that holds no opening brace or bracket, and any text behind it that holds no closing
brace. -/
theorem diagram_of_wrapped {front document back : String}
    (hbegin : document.toList.head? = some '\x7b')
    (hend : document.toList.getLast? = some '\x7d')
    (hopen : '\x7b' ∉ front.toList) (hlist : '[' ∉ front.toList) (hclose : '\x7d' ∉ back.toList)
    (h : Diagram.ofText document = .ok diagram) :
    Reply.diagram (front ++ document ++ back) = .ok diagram := by
  have htext : (front ++ document ++ back).toList =
      front.toList ++ (document.toList ++ back.toList) := by
    rw [String.toList_append, String.toList_append, List.append_assoc]
  have hspan : outermostBraces? (front ++ document ++ back) = some document :=
    outermostBraces?_eq_some.mpr ⟨front.toList, back.toList, htext, hopen, hclose, hbegin, hend⟩
  rw [Reply.diagram]
  cases hwhole : Diagram.ofText (front ++ document ++ back) with
  | error reason => simp only [hspan, h]
  | ok whole =>
    -- The whole text is a diagram as well, so only blanks stand before the document.
    obtain ⟨gap, core, rest, hsplit, hgap, -, hcore, -⟩ := Diagram.ofText_core hwhole
    have hblank : Blanks front.toList := by
      have hdocument : (document.toList ++ back.toList).head? = some '\x7b' := by
        rw [List.head?_append, hbegin, Option.some_or]
      have hfirst : (core ++ rest).head? = some '\x7b' ∨ (core ++ rest).head? = some '[' := by
        rw [List.head?_append]
        exact hcore.imp (by rw [·.begins, Option.some_or]) (by rw [·.begins, Option.some_or])
      have hsame : gap = front.toList := by
        rw [← takeWhile_opening ⟨hopen, hlist⟩ (.inl hdocument), ← htext, hsplit,
          takeWhile_opening ⟨not_mem_of_blanks hgap rfl, not_mem_of_blanks hgap rfl⟩ hfirst]
      rwa [← hsame]
    obtain ⟨inner, text, behind, hdocument, hinner, -, -, hagain⟩ := Diagram.ofText_core h
    have hplace : front ++ document ++ back =
        String.ofList (front.toList ++ inner ++ (text ++ (behind ++ back.toList))) := by
      rw [← String.ofList_toList (s := front ++ document ++ back), htext, hdocument]
      simp only [List.append_assoc]
    obtain ⟨hends, hgoesOn⟩ := hagain (front.toList ++ inner) (behind ++ back.toList)
      (hblank.append hinner)
    rw [← hplace, hwhole] at hends hgoesOn
    by_cases hbehind : Blanks (behind ++ back.toList)
    · rw [Except.ok.inj (hends hbehind)]
    · cases hgoesOn hbehind

/-- A document of one node, whose label holds braces. -/
def bracedText : String :=
  "\x7b\"nodes\":[\x7b\"id\":\"dndnode_0\",\"data\":\x7b\"label\":\"a \x7d b \x7b\"\x7d\x7d]\x7d"

/-- The node of this document. -/
def bracedNode : Node := ⟨"dndnode_0", .custom, .origin, { label := "a \x7d b \x7b" }, none⟩

theorem ofText_bracedText : Diagram.ofText bracedText = .ok ⟨[bracedNode], []⟩ := by
  have hdoc : Doc.ofText bracedText = (.object [(.str "nodes", .list [.object [
      (.str "id", .str "dndnode_0"),
      (.str "data", .object [(.str "label", .str "a \x7d b \x7b")] .closed)] .closed] .closed)]
        .closed, false) := by cbv
  exact readText_eq hdoc rfl

/-- The document in a fence, with prose around it. -/
theorem diagram_of_fenced_document :
    Diagram.ofText bracedText = .ok ⟨[bracedNode], []⟩ ∧
      Reply.diagram ("Here is your architecture:\n```json\n" ++ bracedText ++ "\n```\nEnjoy.") =
        .ok ⟨[bracedNode], []⟩ := by
  refine ⟨ofText_bracedText, ?_⟩
  exact diagram_of_wrapped (by decide) (by decide) (by decide) (by decide) (by decide)
    ofText_bracedText

/-! ## Replies without an object -/

/-- What is read between braces is an object. -/
theorem objectText_of_outermost (hspan : Outermost text span)
    (h : Diagram.ofText span = .ok diagram) : ObjectText span.toList := by
  obtain ⟨-, -, -, -, -, hbegin, hend⟩ := hspan
  obtain ⟨gap, core, back, hsplit, hgap, hback, hcore, -⟩ := Diagram.ofText_core h
  rw [hsplit] at hbegin hend ⊢
  cases gap with
  | cons c gap =>
    cases hbegin
    exact absurd List.mem_cons_self (not_mem_of_blanks hgap rfl)
  | nil =>
    obtain rfl | ⟨tail, c, rfl⟩ := List.eq_nil_or_concat back
    · rw [List.nil_append, List.append_nil] at hbegin ⊢
      refine hcore.resolve_right fun hlist => ?_
      rw [hlist.begins] at hbegin
      cases hbegin
    · rw [List.nil_append, List.concat_eq_append, ← List.append_assoc, List.getLast?_concat] at hend
      cases hend
      have hlast : '\x7d' ∈ tail.concat '\x7d' := by simp
      exact absurd hlast (not_mem_of_blanks hback rfl)

theorem malformed_of_refused {reason : ServiceError} (h : Reply.diagram text = .error reason) :
    ∃ message, reason = .malformed message := by
  unfold Reply.diagram at h
  split at h
  · cases h
  · split at h
    · cases h
      exact ⟨_, rfl⟩
    · split at h
      · cases h
      · cases h
        exact ⟨_, rfl⟩

/-- A reply is read as a whole, or else between its outermost braces. -/
theorem diagram_eq_ok_iff : Reply.diagram text = .ok diagram ↔
    Diagram.ofText text = .ok diagram ∨ (∀ other, Diagram.ofText text ≠ .ok other) ∧
      ∃ span, Outermost text span ∧ ObjectText span.toList ∧ Diagram.ofText span = .ok diagram := by
  rw [Reply.diagram]
  cases hwhole : Diagram.ofText text with
  | ok whole => simp
  | error reason =>
    simp only [reduceCtorEq, false_or, ne_eq, not_false_eq_true, implies_true, true_and]
    constructor
    · intro h
      split at h
      · cases h
      · next span hbraces =>
        have hspan := outermostBraces?_eq_some.mp hbraces
        cases hread : Diagram.ofText span with
        | error inner =>
          rw [hread] at h
          cases h
        | ok shown =>
          rw [hread] at h
          cases h
          exact ⟨span, hspan, objectText_of_outermost hspan hread, hread⟩
    · rintro ⟨span, hspan, -, hread⟩
      simp only [outermostBraces?_eq_some.mpr hspan, hread]

/-- **The texts that show a diagram.** A reply shows a diagram if and only if its text, without the
blanks around it, is an object or a list that is read as the diagram, or else what stands between
its outermost braces is an object that is read as the diagram. So a reply that holds no object is
malformed unless it is a list. -/
theorem diagram_shown_by_object_or_list (text : String) :
    (∀ diagram, Reply.diagram text = .ok diagram ↔
      (∃ core, Bare text core ∧ (ObjectText core.toList ∨ ListText core.toList) ∧
        Diagram.ofText core = .ok diagram) ∨
      (∀ other, Diagram.ofText text ≠ .ok other) ∧ ∃ span, Outermost text span ∧
        ObjectText span.toList ∧ Diagram.ofText span = .ok diagram) ∧
    ((∀ part, part <:+: text.toList → ¬ ObjectText part) →
      (∀ core, Bare text core → ¬ ListText core.toList) →
      ∃ message, Reply.diagram text = .error (.malformed message)) := by
  refine ⟨fun diagram => ?_, fun hobject hlist => ?_⟩
  · rw [← Diagram.ofText_eq_ok_iff, diagram_eq_ok_iff]
  · cases hreply : Reply.diagram text with
    | error reason =>
      obtain ⟨message, rfl⟩ := malformed_of_refused hreply
      exact ⟨message, rfl⟩
    | ok diagram =>
      obtain hwhole | ⟨-, span, ⟨before, after, htext, -⟩, hspan, -⟩ := diagram_eq_ok_iff.mp hreply
      · obtain ⟨core, hcore, hkind, -⟩ := Diagram.ofText_eq_ok_iff.mp hwhole
        have hnone := hlist core hcore
        obtain ⟨before, after, htext, -⟩ := hcore
        have hpart : core.toList <:+: text.toList :=
          ⟨before, after, by rw [htext, List.append_assoc]⟩
        exact absurd hkind (not_or.mpr ⟨hobject _ hpart, hnone⟩)
      · exact absurd hspan (hobject _ ⟨before, after, by rw [htext, List.append_assoc]⟩)

/-- An empty list is a diagram, although it holds no object. -/
theorem diagram_without_object :
    Reply.diagram "[]" = .ok {} ∧ ∀ part, part <:+: "[]".toList → ¬ ObjectText part := by
  refine ⟨by cbv, fun part hpart hobject => ?_⟩
  have hbrace : '\x7b' ∈ part := List.mem_of_head? hobject.begins
  exact absurd (hpart.subset hbrace) (by decide)

end Reply

end DiagramStudio
