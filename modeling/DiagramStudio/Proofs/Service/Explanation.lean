import DiagramStudio.Proofs.Diagram.Part
import DiagramStudio.Proofs.Service.Reply

/-!
# The explanations of failed replies

The text of a failed reply is read once, as a record with an optional message and an optional
detail. The detail may be of any kind, but the message has to be a text or `null`: any other message
makes the whole record unreadable, and then the detail is lost with it.

Results:
* `Json.ofText_eq_obj_iff`: what a text that shows an object holds, member by member.
* `Reply.Explanation.readMembers_iff`: what is read of an explanation out of an object.
* `Reply.explanation_told_by_server`: what is told of a failed reply.
* `Reply.detail_lost_behind_message`: a message of another kind hides the detail.
-/

namespace DiagramStudio

/-! ## Members by name -/

namespace Json

section Members

variable {α : Type} {key name : String} {value : α} {members sorted : List (String × α)}

theorem findMember?_insertMember_of_ne (hne : name ≠ key) :
    findMember? name (insertMember key value members) = findMember? name members := by
  induction members with
  | nil => exact if_neg hne
  | cons first rest ih =>
    obtain ⟨k, v⟩ := first
    rw [insertMember]
    split_ifs with hsame hless
    · subst hsame
      rw [findMember?, findMember?, if_neg hne, if_neg hne]
    · rw [findMember?, if_neg hne]
    · rw [findMember?, findMember?, ih]

theorem findMember?_eq_none (h : name ∉ members.map Prod.fst) : findMember? name members = none := by
  induction members with
  | nil => rfl
  | cons first rest ih =>
    rw [List.map_cons, List.mem_cons, not_or] at h
    rw [findMember?, if_neg h.1, ih h.2]

/-- Members with different keys are found as well when each was put at its place. -/
theorem findMember?_foldl_insertMember (hnodup : (members.map Prod.fst).Nodup)
    (hfresh : ∀ key ∈ members.map Prod.fst, key ∉ sorted.map Prod.fst) (name : String) :
    findMember? name (members.foldl (fun sorted m => insertMember m.1 m.2 sorted) sorted) =
      (findMember? name members).or (findMember? name sorted) := by
  induction members generalizing sorted with
  | nil => rfl
  | cons first rest ih =>
    obtain ⟨key, value⟩ := first
    rw [List.map_cons, List.nodup_cons] at hnodup
    have hrest : ∀ other ∈ rest.map Prod.fst,
        other ∉ (insertMember key value sorted).map Prod.fst := by
      intro other hother hmem
      obtain ⟨member, hmember, rfl⟩ := List.mem_map.mp hmem
      rcases mem_insertMember hmember with rfl | hold
      · exact hnodup.1 hother
      · exact hfresh _ (List.mem_cons_of_mem _ hother) (List.mem_map_of_mem hold)
    rw [List.foldl_cons, ih hnodup.2 hrest, findMember?]
    split_ifs with hsame
    · subst hsame
      rw [findMember?_eq_none hnodup.1, findMember?_insertMember_self, Option.none_or,
        Option.some_or]
    · rw [findMember?_insertMember_of_ne hsame]

end Members

end Json

namespace Doc

variable {source other : Source} {doc : Doc} {value : Json}

/-- The keys of an object, in their order and with their repetitions. -/
def keys : Doc → List (Read String)
  | .object members _ => members.map (·.1.key)
  | _ => []

theorem map_key_of_jsonMembers {docs : List (Doc × Doc)} {members : List (String × Json)}
    (h : jsonMembers source docs = .ok members) :
    docs.map (·.1.key) = members.map fun member => .ok member.1 := by
  induction docs generalizing members with
  | nil =>
    cases h
    rfl
  | cons first rest ih =>
    simp only [jsonMembers, Read.bind_eq_ok] at h
    obtain ⟨name, hname, item, -, others, hothers, hmembers⟩ := h
    cases hmembers
    rw [List.map_cons, List.map_cons, hname, ih hothers]

/-! ## Skipping what can be read -/

theorem skipKey_of_key {name : String} (h : doc.key = .ok name) : doc.skipKey = .ok () := by
  unfold key at h
  split at h
  · rfl
  · cases h
  · cases h

mutual

/-- What can be read as a free-form value can be skipped. -/
theorem skip_of_json {source : Source} {doc : Doc} {value : Json}
    (h : doc.json source = .ok value) : doc.skip = .ok () := by
  cases doc with
  | list items ending =>
    simp only [json, Read.bind_eq_ok] at h
    obtain ⟨inner, -, values, hvalues, _, hending, -⟩ := h
    rw [skip, skipItems_of_jsonItems hvalues, Ending.readList_eq_ok hending]
    rfl
  | object members ending =>
    simp only [json, Read.bind_eq_ok] at h
    obtain ⟨inner, -, values, hvalues, _, hending, -⟩ := h
    rw [skip, skipMembers_of_jsonMembers hvalues, Ending.readObject_eq_ok hending]
    rfl
  | fault reason => cases h
  | _ => rfl

theorem skipItems_of_jsonItems {source : Source} {items : List Doc} {values : List Json}
    (h : jsonItems source items = .ok values) : skipItems items = .ok () := by
  cases items with
  | nil => rfl
  | cons item rest =>
    simp only [jsonItems, Read.bind_eq_ok] at h
    obtain ⟨value, hvalue, others, hothers, -⟩ := h
    rw [skipItems, skip_of_json hvalue, skipItems_of_jsonItems hothers]
    rfl

theorem skipMembers_of_jsonMembers {source : Source} {members : List (Doc × Doc)}
    {values : List (String × Json)} (h : jsonMembers source members = .ok values) :
    skipMembers members = .ok () := by
  cases members with
  | nil => rfl
  | cons first rest =>
    obtain ⟨name, item⟩ := first
    simp only [jsonMembers, Read.bind_eq_ok] at h
    obtain ⟨key, hkey, value, hvalue, others, hothers, -⟩ := h
    rw [skipMembers, skipKey_of_key hkey, skip_of_json hvalue, skipMembers_of_jsonMembers hothers]
    rfl

end

end Doc

/-! ## Objects in texts -/

/-- A text shows an object if its members can be read one by one, and the object has them sorted. -/
theorem Json.ofText_eq_obj_iff {text : String} {sorted : List (String × Json)} :
    Json.ofText text = .ok (.obj sorted) ↔
      ∃ docs members, Doc.ofText text = (.object docs .closed, false) ∧
        Doc.jsonMembers (.text 126) docs = .ok members ∧
        sorted = members.foldl (fun sorted m => insertMember m.1 m.2 sorted) [] := by
  constructor
  · intro h
    obtain ⟨doc, htext, hread⟩ := readText_eq_ok h
    cases doc with
    | object docs ending =>
      simp only [Doc.json, Read.bind_eq_ok] at hread
      obtain ⟨inner, hinner, members, hmembers, _, hending, hsorted⟩ := hread
      cases hinner
      cases hsorted
      rw [Ending.readObject_eq_ok hending] at htext
      exact ⟨docs, members, htext, hmembers, rfl⟩
    | list items ending =>
      simp only [Doc.json, Read.bind_eq_ok] at hread
      obtain ⟨_, -, _, -, _, -, hlist⟩ := hread
      cases hlist
    | _ => cases hread
  · rintro ⟨docs, members, htext, hmembers, rfl⟩
    refine readText_eq htext ?_
    simp only [Source.wholeText, Doc.json, Source.enter, Read.ok_bind, hmembers]
    rfl

theorem readText_eq_ok_iff {α : Type} {read : Source → Doc → Read α} {text : String} {doc : Doc}
    {value : α} (htext : Doc.ofText text = (doc, false)) :
    readText read text = .ok value ↔ read .wholeText doc = .ok value := by
  refine ⟨fun h => ?_, readText_eq htext⟩
  obtain ⟨shown, hshown, hread⟩ := readText_eq_ok h
  rw [htext] at hshown
  cases hshown
  exact hread

namespace Doc

variable {source other : Source} {doc : Doc} {value : Json}

/-! ## Optional values -/

/-- A value that is no list and no object is read from itself alone. -/
theorem eq_doc_of_json (h : doc.json source = .ok value) (harr : ∀ items, value ≠ .arr items)
    (hobj : ∀ members, value ≠ .obj members) : doc = value.doc := by
  cases doc with
  | list items ending =>
    simp only [json, Read.bind_eq_ok] at h
    obtain ⟨_, -, values, -, _, -, hlist⟩ := h
    exact absurd (Except.ok.inj hlist).symm (harr values)
  | object members ending =>
    simp only [json, Read.bind_eq_ok] at h
    obtain ⟨_, -, _, -, _, -, hobject⟩ := h
    exact absurd (Except.ok.inj hobject).symm (hobj _)
  | fault reason => cases h
  | _ =>
    cases h
    rfl

theorem text_eq_ok_iff {s : String} : doc.text = .ok s ↔ doc = .str s := by
  cases doc <;> simp [text]

theorem optional_of_ne_null {α : Type} {read : Doc → Read α} (hdoc : doc ≠ .null) :
    optional read doc = (read doc).map some := by
  cases doc with
  | null => exact absurd rfl hdoc
  | _ => rfl

/-- An optional text is read from a text and from `null`. -/
theorem optionalText_eq_ok_iff {said : Option String} (h : doc.json source = .ok value) :
    optionalText other doc = .ok said ↔ value = Json.ofText? said := by
  constructor
  · intro hread
    by_cases hdoc : doc = .null
    · subst hdoc
      cases h
      cases hread
      rfl
    · rw [optionalText, Field.plain, optional_of_ne_null hdoc, Read.map_eq_ok] at hread
      obtain ⟨s, hs, rfl⟩ := hread
      obtain rfl := text_eq_ok_iff.mp hs
      cases h
      rfl
  · rintro rfl
    cases said with
    | none =>
      obtain rfl : doc = .null := eq_doc_of_json h (by simp [Json.ofText?]) (by simp [Json.ofText?])
      rfl
    | some s =>
      obtain rfl : doc = .str s := eq_doc_of_json h (by simp [Json.ofText?]) (by simp [Json.ofText?])
      rfl

end Doc

/-- A value unless it is `null`. -/
def Json.present? : Json → Option Json
  | .null => none
  | value => some value

theorem Json.ofText?_injective : Function.Injective Json.ofText? := by
  intro said other h
  cases said <;> cases other <;> cases h <;> rfl

namespace Reply

theorem readDetail_of_json {source : Source} {doc : Doc} {value : Json}
    (h : doc.json source = .ok value) : readDetail source doc = .ok value.present? := by
  by_cases hdoc : doc = .null
  · subst hdoc
    cases h
    rfl
  · rw [readDetail, Doc.optional_of_ne_null hdoc, h]
    cases value with
    | null => exact absurd (Doc.eq_doc_of_json h (by simp) (by simp)) hdoc
    | _ => rfl

/-! ## Reading an explanation -/

namespace Explanation

open Json Shape

variable {source : Source} {name item : Doc} {value : Json} {said after : Explanation}
  {seen : List String} {docs : List (Doc × Doc)} {members : List (String × Json)}

theorem readMember_message (hname : name.key = .ok "message") (hseen : "message" ∉ seen) :
    shape.readMember skipOthers source (said, seen) (name, item) =
      (optionalText source item).map fun message =>
        ({ said with message }, "message" :: seen) := by
  have hfield : shape.fields.find? (·.name = "message") =
      some (.named "message" optionalText fun message e => { e with message }) := rfl
  simp only [readMember, hname, Read.ok_bind, hfield, hseen, if_false, Field.named]
  cases optionalText source item <;> rfl

theorem readMember_detail (hname : name.key = .ok "detail") (hseen : "detail" ∉ seen)
    (hitem : item.json source = .ok value) :
    shape.readMember skipOthers source (said, seen) (name, item) =
      .ok ({ said with detail := value.present? }, "detail" :: seen) := by
  have hfield : shape.fields.find? (·.name = "detail") =
      some (.named "detail" readDetail fun detail e => { e with detail }) := rfl
  simp only [readMember, hname, Read.ok_bind, hfield, hseen, if_false, Field.named,
    readDetail_of_json hitem]
  rfl

theorem readMember_other {key : String} (hname : name.key = .ok key) (hmessage : key ≠ "message")
    (hdetail : key ≠ "detail") (hitem : item.json source = .ok value) :
    shape.readMember skipOthers source (said, seen) (name, item) = .ok (said, seen) := by
  have hfield : shape.fields.find? (·.name = key) = none := by
    simp [shape, Field.named, hmessage.symm, hdetail.symm]
  simp only [readMember, hname, Read.ok_bind, hfield, skipOthers, Doc.skip_of_json hitem]
  rfl

/-- Members with different names say what an explanation becomes: the message has to be a text or
`null`, and the detail is taken as it is. -/
theorem foldlM_readMember_iff (hmembers : Doc.jsonMembers source docs = .ok members)
    (hnodup : (members.map Prod.fst).Nodup) (hfresh : ∀ key ∈ members.map Prod.fst, key ∉ seen) :
    (∃ all, docs.foldlM (shape.readMember skipOthers source) (said, seen) = .ok (after, all)) ↔
      (findMember? "message" members).elim (after.message = said.message)
        (· = ofText? after.message) ∧
      after.detail = (findMember? "detail" members).elim said.detail present? := by
  induction docs generalizing members said seen with
  | nil =>
    cases hmembers
    constructor
    · rintro ⟨all, hall⟩
      cases hall
      exact ⟨rfl, rfl⟩
    · rintro ⟨hmessage, hdetail⟩
      obtain ⟨message, detail⟩ := after
      cases hmessage
      cases hdetail
      exact ⟨seen, rfl⟩
  | cons first rest ih =>
    obtain ⟨name, item⟩ := first
    simp only [Doc.jsonMembers, Read.bind_eq_ok] at hmembers
    obtain ⟨key, hname, value, hitem, others, hothers, hsame⟩ := hmembers
    cases hsame
    rw [List.map_cons, List.nodup_cons] at hnodup
    have hunseen : key ∉ seen := hfresh key List.mem_cons_self
    have hrest : ∀ other ∈ others.map Prod.fst, other ∉ seen :=
      fun other hother => hfresh other (List.mem_cons_of_mem _ hother)
    have hbehind : ∀ other ∈ others.map Prod.fst, other ∉ key :: seen := by
      intro other hother hmem
      rcases List.mem_cons.mp hmem with rfl | hold
      · exact hnodup.1 hother
      · exact hrest other hother hold
    rw [List.foldlM_cons]
    by_cases hmessage : key = "message"
    · subst hmessage
      rw [readMember_message hname hunseen]
      cases hread : optionalText source item with
      | error reason =>
        refine ⟨nofun, fun h => ?_⟩
        rw [findMember?, if_pos rfl] at h
        rw [(Doc.optionalText_eq_ok_iff hitem).mpr h.1] at hread
        cases hread
      | ok message =>
        have hvalue := (Doc.optionalText_eq_ok_iff hitem).mp hread
        refine (ih hothers hnodup.2 hbehind).trans ?_
        simp [findMember?, findMember?_eq_none hnodup.1, hvalue, ofText?_injective.eq_iff, eq_comm]
    · by_cases hdetail : key = "detail"
      · subst hdetail
        rw [readMember_detail hname hunseen hitem]
        refine (ih hothers hnodup.2 hbehind).trans ?_
        simp [findMember?, findMember?_eq_none hnodup.1]
      · rw [readMember_other hname hmessage hdetail hitem]
        refine (ih hothers hnodup.2 hrest).trans ?_
        simp [findMember?, Ne.symm hmessage, Ne.symm hdetail]

/-- No member is required, so an object shows an explanation if its members can be taken. -/
theorem read_object_iff : shape.read .wholeText (.object docs .closed) = .ok said ↔
    ∃ all, docs.foldlM (shape.readMember skipOthers (.text 126)) ({}, []) = .ok (said, all) := by
  have hblank : shape.blank = {} := rfl
  have hmissing (all : List String) : shape.checkMissing all = .ok () := by
    simp [checkMissing, shape, Field.named]
  simp only [Source.wholeText, Shape.read, Source.enter, Read.ok_bind, Shape.readMembers,
    Read.bind_eq_ok, hblank]
  constructor
  · rintro ⟨⟨record, all⟩, hall, _, -, _, -, hsame⟩
    cases hsame
    exact ⟨all, hall⟩
  · rintro ⟨all, hall⟩
    exact ⟨(said, all), hall, (), rfl, (), hmissing all, rfl⟩

/-- What is read of an explanation out of a text that shows an object in which no key is repeated. -/
theorem readText_iff {text : String} (hobject : Json.ofText text = .ok (.obj members))
    (hkeys : (Doc.ofText text).1.keys.Nodup) :
    readText shape.read text = .ok said ↔
      (findMember? "message" members).getD .null = ofText? said.message ∧
        said.detail = (findMember? "detail" members).bind present? := by
  obtain ⟨docs, shown, htext, hshown, rfl⟩ := Json.ofText_eq_obj_iff.mp hobject
  have hnodup : (shown.map Prod.fst).Nodup := by
    rw [htext, Doc.keys, Doc.map_key_of_jsonMembers hshown] at hkeys
    exact List.Nodup.of_map (Except.ok : String → Read String) (by rwa [List.map_map])
  have hfind (name : String) :
      findMember? name (shown.foldl (fun sorted m => insertMember m.1 m.2 sorted) []) =
        findMember? name shown := by
    rw [findMember?_foldl_insertMember hnodup fun _ _ => List.not_mem_nil]
    exact Option.or_none
  have hmessage : (findMember? "message" shown).elim (said.message = none)
      (· = ofText? said.message) ↔
        (findMember? "message" shown).getD .null = ofText? said.message := by
    cases findMember? "message" shown with
    | none =>
      change said.message = none ↔ ofText? none = ofText? said.message
      rw [ofText?_injective.eq_iff, eq_comm]
    | some value => rfl
  have hdetail : (findMember? "detail" shown).elim none present? =
      (findMember? "detail" shown).bind present? := by
    cases findMember? "detail" shown <;> rfl
  rw [readText_eq_ok_iff htext, read_object_iff,
    foldlM_readMember_iff hshown hnodup fun _ _ => List.not_mem_nil, hfind, hfind]
  exact and_congr hmessage (by rw [hdetail])

end Explanation

/-! ## What is told -/

end Reply

/-- What a value says as a message: a text that is not blank. -/
def Json.message? : Json → Option String
  | .str text => if Text.isBlankText text then none else some text
  | _ => none

/-- What a value says as a detail: a text that is not blank, or a list as it is written. -/
def Json.detail? : Json → Option String
  | .arr items => some (Json.arr items).compact
  | value => value.message?

namespace Reply

open Json

variable {members : List (String × Json)} {said : Explanation} {text fallback told : String}

/-- What is told when an explanation was read. -/
theorem explanation_of_read (h : readText Explanation.shape.read text = .ok said) :
    explanation text fallback =
      ((ofText? said.message).message?.or (said.detail.bind detail?)).getD fallback := by
  have hmessage : said.message.filter (!Text.isBlankText ·) = (ofText? said.message).message? := by
    cases said.message with
    | none => rfl
    | some message => cases hblank : Text.isBlankText message <;> simp [ofText?, message?, hblank]
  rw [explanation, h]
  simp only [hmessage]
  cases (ofText? said.message).message? with
  | some message => rfl
  | none =>
    cases said.detail with
    | none => rfl
    | some detail =>
      cases detail with
      | str detail => cases hblank : Text.isBlankText detail <;> simp [detail?, message?, hblank]
      | _ => rfl

theorem explanation_of_unread (h : ∀ said, readText Explanation.shape.read text ≠ .ok said) :
    explanation text fallback = fallback := by
  rw [explanation]
  split
  · rfl
  · next said hsaid => exact absurd hsaid (h said)

theorem isBlankText_of_message? {value : Json} (h : value.message? = some told) :
    Text.isBlankText told = false := by
  cases value with
  | str text =>
    rw [message?] at h
    split_ifs at h with hblank
    cases h
    exact Bool.eq_false_of_not_eq_true hblank
  | _ => cases h

theorem isBlankText_of_detail? {value : Json} (h : value.detail? = some told) :
    Text.isBlankText told = false := by
  cases value with
  | arr items =>
    cases h
    obtain ⟨rest, hrest⟩ := begins_compact_arr items
    rw [Text.isBlankText, hrest, List.all_cons]
    rfl
  | str text =>
    rw [detail?] at h
    · exact isBlankText_of_message? h
    · exact nofun
  | _ => cases h

/-- What is told is not blank, unless the fallback is. -/
theorem isBlankText_explanation (h : Text.isBlankText fallback = false) :
    Text.isBlankText (explanation text fallback) = false := by
  cases hread : readText Explanation.shape.read text with
  | error reason =>
    rw [explanation, hread]
    exact h
  | ok said =>
    rw [explanation_of_read hread]
    cases hmessage : (ofText? said.message).message? with
    | some message => exact isBlankText_of_message? hmessage
    | none =>
      cases hdetail : said.detail.bind detail? with
      | some detail =>
        obtain ⟨value, -, hvalue⟩ := Option.bind_eq_some_iff.mp hdetail
        exact isBlankText_of_detail? hvalue
      | none => exact h

/-- Nothing is read of an explanation out of a text that does not follow the grammar. -/
theorem paddedText_of_read (h : readText Explanation.shape.read text = .ok said) :
    Grammar.PaddedText text.toList := by
  obtain ⟨doc, htext, hread⟩ := readText_eq_ok h
  have hclosed : doc.IsClosed := Shape.isClosed_of_read hread
  obtain ⟨gap, core, back, hsplit, hgap, hcore, hback, -⟩ := Doc.ofText_closed htext hclosed
  rw [hsplit]
  exact .mk hgap hcore.value (hback.mp rfl)

/-- **What is told of a failed reply.** Where the text of a reply shows an object in which no key is
repeated, its message is told if it is a text that is not blank, or else its detail, if that is a
text that is not blank or a list, or else the fallback; but only if the message is missing, `null`
or a text, since any other message makes the fallback be told whatever the detail is. Of a text that
does not follow the grammar the fallback is told, and nothing blank is ever told unless the fallback
is blank. -/
theorem explanation_told_by_server (text fallback : String) :
    (∀ members, Json.ofText text = .ok (.obj members) → (Doc.ofText text).1.keys.Nodup →
      let message := (findMember? "message" members).getD .null
      let detail := (findMember? "detail" members).getD .null
      ((∃ said, message = ofText? said) →
        explanation text fallback = (message.message?.or detail.detail?).getD fallback) ∧
      ((∀ said, message ≠ ofText? said) → explanation text fallback = fallback)) ∧
    (¬ Grammar.PaddedText text.toList → explanation text fallback = fallback) ∧
    (Text.isBlankText fallback = false →
      Text.isBlankText (explanation text fallback) = false) := by
  refine ⟨fun members hobject hkeys => ⟨?_, fun hmessage => ?_⟩, fun htext => ?_,
    isBlankText_explanation⟩
  · rintro ⟨message, hmessage⟩
    have hread : readText Explanation.shape.read text =
        .ok ⟨message, (findMember? "detail" members).bind present?⟩ :=
      (Explanation.readText_iff hobject hkeys).mpr ⟨hmessage, rfl⟩
    have hdetail : ((findMember? "detail" members).bind present?).bind detail? =
        ((findMember? "detail" members).getD .null).detail? := by
      cases findMember? "detail" members with
      | none => rfl
      | some detail => cases detail <;> rfl
    rw [explanation_of_read hread, hmessage, hdetail]
  · refine explanation_of_unread fun said hread => ?_
    exact hmessage said.message ((Explanation.readText_iff hobject hkeys).mp hread).1
  · exact explanation_of_unread fun said hread => htext (paddedText_of_read hread)

/-- A list is told behind a blank message, and nothing but the fallback behind a list or for an empty
text. -/
theorem explanations_of_three_texts :
    (∃ members, Json.ofText "\x7b\"message\":\" \",\"detail\":[\"a\",null]\x7d" = .ok (.obj members) ∧
      (Doc.ofText "\x7b\"message\":\" \",\"detail\":[\"a\",null]\x7d").1.keys.Nodup ∧
      explanation "\x7b\"message\":\" \",\"detail\":[\"a\",null]\x7d" "Not Found" = "[\"a\",null]") ∧
    (∃ members, Json.ofText "\x7b\"message\":[],\"detail\":\"a\"\x7d" = .ok (.obj members) ∧
      (Doc.ofText "\x7b\"message\":[],\"detail\":\"a\"\x7d").1.keys.Nodup ∧
      explanation "\x7b\"message\":[],\"detail\":\"a\"\x7d" "Not Found" = "Not Found") ∧
    (¬ Grammar.PaddedText "".toList ∧ explanation "" "Not Found" = "Not Found") ∧
    Text.isBlankText "Not Found" = false ∧
      Text.isBlankText (explanation "[null]" "Not Found") = false := by
  have hlist : Json.ofText "\x7b\"message\":\" \",\"detail\":[\"a\",null]\x7d" =
      .ok (.obj [("detail", .arr [.str "a", .null]), ("message", .str " ")]) := by cbv
  have hlistKeys : (Doc.ofText "\x7b\"message\":\" \",\"detail\":[\"a\",null]\x7d").1.keys =
      [.ok "message", .ok "detail"] := by cbv
  have hhidden : Json.ofText "\x7b\"message\":[],\"detail\":\"a\"\x7d" =
      .ok (.obj [("detail", .str "a"), ("message", .arr [])]) := by cbv
  have hhiddenKeys : (Doc.ofText "\x7b\"message\":[],\"detail\":\"a\"\x7d").1.keys =
      [.ok "message", .ok "detail"] := by cbv
  refine ⟨⟨_, hlist, by simp [hlistKeys], ?_⟩, ⟨_, hhidden, by simp [hhiddenKeys], ?_⟩,
    ⟨Grammar.not_paddedText_nil, ?_⟩, by decide, ?_⟩
  · rw [((explanation_told_by_server _ "Not Found").1 _ hlist (by simp [hlistKeys])).1
      ⟨some " ", rfl⟩]
    decide +kernel
  · refine ((explanation_told_by_server _ "Not Found").1 _ hhidden (by simp [hhiddenKeys])).2 ?_
    rintro (_ | said) hsame <;> cases hsame
  · exact (explanation_told_by_server "" "Not Found").2.1 Grammar.not_paddedText_nil
  · exact (explanation_told_by_server "[null]" "Not Found").2.2 (by decide)

/-- A message that is a truth value hides the detail, although that is a text. -/
theorem detail_lost_behind_message :
    ∃ members, Json.ofText "\x7b\"message\":true,\"detail\":\"boom\"\x7d" = .ok (.obj members) ∧
      (Doc.ofText "\x7b\"message\":true,\"detail\":\"boom\"\x7d").1.keys.Nodup ∧
      (((findMember? "message" members).getD .null).message?.or
        ((findMember? "detail" members).getD .null).detail?).getD "Not Found" = "boom" ∧
      explanation "\x7b\"message\":true,\"detail\":\"boom\"\x7d" "Not Found" = "Not Found" := by
  have hobject : Json.ofText "\x7b\"message\":true,\"detail\":\"boom\"\x7d" =
      .ok (.obj [("detail", .str "boom"), ("message", .bool true)]) := by cbv
  have hkeys : (Doc.ofText "\x7b\"message\":true,\"detail\":\"boom\"\x7d").1.keys =
      [.ok "message", .ok "detail"] := by cbv
  have hnodup : (Doc.ofText "\x7b\"message\":true,\"detail\":\"boom\"\x7d").1.keys.Nodup := by
    simp [hkeys]
  refine ⟨_, hobject, hnodup, by decide +kernel, explanation_of_unread ?_⟩
  rintro ⟨_ | message, detail⟩ hread
  · cases ((Explanation.readText_iff hobject hnodup).mp hread).1
  · cases ((Explanation.readText_iff hobject hnodup).mp hread).1

end Reply

end DiagramStudio
