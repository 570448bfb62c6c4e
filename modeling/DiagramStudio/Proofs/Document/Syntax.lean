import DiagramStudio.Proofs.Document.Leaf

/-!
# The syntax of documents

A list or an object of which the tree of a text shows the end follows the grammar. The invariant is
about the state between two tokens: the text so far is a beginning of a value, with one open bracket
for every bracket of the state. The tree depends on the text of the list or the object only, so it
is the same whatever follows, and blanks before it change nothing.

Results:
* `Tree.step_fits`: one token keeps the text a beginning of a value, or completes it.
* `Tree.build_spec`: a list or an object that is complete follows the grammar, and nothing behind it
  is looked at.
* `Doc.ofText_closed`: the same for a whole text.
-/

namespace DiagramStudio

open Grammar

namespace Doc

/-- A list or an object whose bracket is closed. -/
def IsClosed : Doc → Prop
  | .list _ ending => ending = .closed
  | .object _ ending => ending = .closed
  | _ => False

/-- The texts of values of the same kind as a document. -/
def Text : Doc → List Char → Prop
  | .list .. => ListText
  | .object .. => ObjectText
  | _ => ValueText

variable {doc : Doc} {cs : List Char}

theorem Text.value (h : doc.Text cs) : ValueText cs := by
  cases doc with
  | list => exact .list h
  | object => exact .object h
  | _ => exact h

theorem text_of_isLeaf (hleaf : doc.isLeaf = true) (h : ValueText cs) : doc.Text cs := by
  cases doc with
  | list => cases hleaf
  | object => cases hleaf
  | _ => exact h

theorem not_isClosed_of_isLeaf (hleaf : doc.isLeaf = true) : ¬ doc.IsClosed := by
  cases doc with
  | list => cases hleaf
  | object => cases hleaf
  | _ => exact id

end Doc

namespace Token

variable {token : Token} {cs rest : List Char}

/-- Whether reading can go on behind a token. -/
def goesOn : Token → Bool
  | .leaf doc => !Tree.stops doc
  | _ => true

/-- The text of a token behind which reading goes on. -/
inductive Spells : Token → List Char → Prop
  | openList : Spells .openList ['[']
  | closeList : Spells .closeList [']']
  | openObject : Spells .openObject ['\x7b']
  | closeObject : Spells .closeObject ['\x7d']
  | comma : Spells .comma [',']
  | colon : Spells .colon [':']
  | leaf {doc : Doc} {cs : List Char} (h : Shown doc cs) : Spells (.leaf doc) cs

/-- A token is the same whatever follows it, unless it is a leaf: then the next character counts. -/
theorem next_spec {c : Char} (h : next c cs = (token, rest)) (hgoes : token.goesOn = true) :
    ∃ part, Spells token (c :: part) ∧ cs = part ++ rest ∧
      ∀ other, (∀ doc, token = .leaf doc → other.head? = rest.head?) →
        next c (part ++ other) = (token, other) := by
  unfold next at h ⊢
  split_ifs at h ⊢ with hopenList hcloseList hopenObject hcloseObject hcomma hcolon
  · subst hopenList
    cases h
    exact ⟨[], .openList, rfl, fun other _ => rfl⟩
  · subst hcloseList
    cases h
    exact ⟨[], .closeList, rfl, fun other _ => rfl⟩
  · subst hopenObject
    cases h
    exact ⟨[], .openObject, rfl, fun other _ => rfl⟩
  · subst hcloseObject
    cases h
    exact ⟨[], .closeObject, rfl, fun other _ => rfl⟩
  · subst hcomma
    cases h
    exact ⟨[], .comma, rfl, fun other _ => rfl⟩
  · subst hcolon
    cases h
    exact ⟨[], .colon, rfl, fun other _ => rfl⟩
  · obtain ⟨⟨doc, after⟩, hleaf⟩ : ∃ read, leafAt c cs = read := ⟨_, rfl⟩
    rw [hleaf] at h
    cases h
    have hgoes : Tree.stops doc = false := by simpa [goesOn] using hgoes
    obtain ⟨part, hpart, hcs, hagain⟩ := leafAt_spec hleaf hgoes
    refine ⟨part, .leaf hpart, hcs, fun other hother => ?_⟩
    rw [hagain other (hother _ rfl)]

end Token

namespace Tree

variable {stack outer : List Open} {want wanted : Want} {bracket : Open} {token : Token}
  {doc leaf : Doc} {front cs gap : List Char}

/-! ## Beginnings of values -/

/-- Whether a value is wanted. -/
def Want.takesValue : Want → Bool
  | .value => true
  | .firstItem => true
  | .nextItem => true
  | _ => false

/-- The members of an object up to the key of the last one. -/
inductive KeyText : List Char → Prop
  | first {before key after : List Char} (hbefore : Blanks before) (hkey : StringText key)
      (hafter : Blanks after) : KeyText (before ++ (key ++ after))
  | next {cs before key after : List Char} (h : MembersText cs) (hbefore : Blanks before)
      (hkey : StringText key) (hafter : Blanks after) :
      KeyText (cs ++ ',' :: (before ++ (key ++ after)))

theorem KeyText.blanks (h : KeyText cs) (hgap : Blanks gap) : KeyText (cs ++ gap) := by
  cases h with
  | first hbefore hkey hafter =>
    rw [List.append_assoc, List.append_assoc]
    exact .first hbefore hkey (hafter.append hgap)
  | next h hbefore hkey hafter =>
    simp only [List.append_assoc, List.cons_append]
    exact .next h hbefore hkey (hafter.append hgap)

/-- A value after the colon completes the last member. -/
theorem KeyText.members {value : List Char} (h : KeyText cs) (hvalue : PaddedText value) :
    MembersText (cs ++ ':' :: value) := by
  cases h with
  | first hbefore hkey hafter =>
    simp only [List.append_assoc]
    exact .one (.mk hbefore hkey hafter hvalue)
  | next h hbefore hkey hafter =>
    simp only [List.append_assoc, List.cons_append]
    exact .more h (.mk hbefore hkey hafter hvalue)

/-- The text of an open bracket in which something is wanted. -/
inductive Inside : Open → Want → List Char → Prop
  | firstItem {items : List Doc} {gap : List Char} (hgap : Blanks gap) :
      Inside (.list items) .firstItem ('[' :: gap)
  | nextItem {items : List Doc} {cs gap : List Char} (h : ItemsText cs) (hgap : Blanks gap) :
      Inside (.list items) .nextItem ('[' :: (cs ++ ',' :: gap))
  | items {items : List Doc} {cs : List Char} (h : ItemsText cs) :
      Inside (.list items) .separator ('[' :: cs)
  | firstKey {members : List (Doc × Doc)} {gap : List Char} (hgap : Blanks gap) :
      Inside (.object members) .firstKey ('\x7b' :: gap)
  | nextKey {members : List (Doc × Doc)} {cs gap : List Char} (h : MembersText cs)
      (hgap : Blanks gap) : Inside (.object members) .nextKey ('\x7b' :: (cs ++ ',' :: gap))
  | members {members : List (Doc × Doc)} {cs : List Char} (h : MembersText cs) :
      Inside (.object members) .separator ('\x7b' :: cs)
  | colon {members : List (Doc × Doc)} {key : Doc} {cs : List Char} (h : KeyText cs) :
      Inside (.member members key) .colon ('\x7b' :: cs)
  | value {members : List (Doc × Doc)} {key : Doc} {cs gap : List Char} (h : KeyText cs)
      (hgap : Blanks gap) : Inside (.member members key) .value ('\x7b' :: (cs ++ ':' :: gap))

theorem Inside.blanks (h : Inside bracket want cs) (hgap : Blanks gap) :
    Inside bracket want (cs ++ gap) := by
  cases h with
  | firstItem hbefore => exact .firstItem (hbefore.append hgap)
  | nextItem h hbefore =>
    simp only [List.cons_append, List.append_assoc]
    exact .nextItem h (hbefore.append hgap)
  | items h => exact .items (h.blanks hgap)
  | firstKey hbefore => exact .firstKey (hbefore.append hgap)
  | nextKey h hbefore =>
    simp only [List.cons_append, List.append_assoc]
    exact .nextKey h (hbefore.append hgap)
  | members h => exact .members (h.blanks hgap)
  | colon h => exact .colon (h.blanks hgap)
  | value h hbefore =>
    simp only [List.cons_append, List.append_assoc]
    exact .value h (hbefore.append hgap)

/-- The text that leads to a state: every open bracket stands where the one around it wants a
value. -/
inductive Begun : List Open → Want → List Char → Prop
  | start {gap : List Char} (hgap : Blanks gap) : Begun [] .value gap
  | inside {outer : List Open} {wanted want : Want} {bracket : Open} {front cs : List Char}
      (houter : Begun outer wanted front) (hwanted : wanted.takesValue = true)
      (h : Inside bracket want cs) : Begun (bracket :: outer) want (front ++ cs)

theorem Begun.blanks (h : Begun stack want front) (hgap : Blanks gap) :
    Begun stack want (front ++ gap) := by
  cases h with
  | start hbefore => exact .start (hbefore.append hgap)
  | inside houter hwanted h =>
    rw [List.append_assoc]
    exact .inside houter hwanted (h.blanks hgap)

/-! ## One token -/

/-- What a token makes of a text: a beginning of a value, or a value with blanks before it. -/
def Progress.Fits (text : List Char) : Progress → Prop
  | .more stack want => Begun stack want text
  | .done doc => ∃ gap value, text = gap ++ value ∧ Blanks gap ∧ doc.Text value
  | .stopped _ => True

theorem Begun.settle (h : Begun stack want front) (hwant : want.takesValue = true)
    (hdoc : doc.Text cs) : (settle doc stack).Fits (front ++ cs) := by
  cases h with
  | start hgap => exact ⟨_, _, rfl, hgap, hdoc⟩
  | inside houter hwanted h =>
    rw [List.append_assoc]
    cases h with
    | firstItem hgap => exact .inside houter hwanted (.items (.one (.of_value hgap hdoc.value)))
    | nextItem h hgap =>
      simp only [List.cons_append, List.append_assoc]
      exact .inside houter hwanted (.items (.more h (.of_value hgap hdoc.value)))
    | value h hgap =>
      simp only [List.cons_append, List.append_assoc]
      exact .inside houter hwanted (.members (h.members (.of_value hgap hdoc.value)))
    | _ => cases hwant

theorem Begun.stepValue (h : Begun stack want front) (hwant : want.takesValue = true)
    (hspells : token.Spells cs) : (stepValue stack token).Fits (front ++ cs) := by
  cases hspells with
  | openList => exact .inside h hwant (.firstItem .nil)
  | openObject => exact .inside h hwant (.firstKey .nil)
  | @leaf doc cs hshown =>
    rw [Tree.stepValue]
    split
    · trivial
    · exact h.settle hwant (Doc.text_of_isLeaf hshown.leaf hshown.value)
  | _ => trivial

/-- A key is followed by a colon. -/
theorem Begun.stepKey {members : List (Doc × Doc)} (houter : Begun outer wanted front)
    (hwanted : wanted.takesValue = true) (hspells : token.Spells cs) {before : List Char}
    (hkey : ∀ key, StringText key → KeyText (before ++ key)) :
    (stepKey members outer token).Fits (front ++ ('\x7b' :: before) ++ cs) := by
  rw [Tree.stepKey]
  split
  · next hisKey =>
    cases hspells with
    | leaf hshown =>
      rw [List.append_assoc]
      exact .inside houter hwanted (.colon (hkey _ (hshown.key hisKey)))
    | _ => cases hisKey
  · trivial

/-- One token takes a beginning of a value to a longer one, or completes the value. -/
theorem step_fits (h : Begun stack want front) (hspells : token.Spells cs) :
    (step stack want token).Fits (front ++ cs) := by
  cases h with
  | start hgap =>
    have hvalue := (Begun.start hgap).stepValue rfl hspells
    cases token <;> exact hvalue
  | inside houter hwanted h =>
    have hbegun := Begun.inside houter hwanted h
    cases h with
    | firstItem hgap =>
      cases token with
      | closeList =>
        cases hspells
        rw [List.append_assoc]
        exact houter.settle hwanted (.empty hgap)
      | _ => exact hbegun.stepValue rfl hspells
    | nextItem h hgap =>
      cases token with
      | closeList => trivial
      | _ => exact hbegun.stepValue rfl hspells
    | items h =>
      cases hspells with
      | comma =>
        rw [List.append_assoc]
        exact .inside houter hwanted (.nextItem h .nil)
      | closeList =>
        rw [List.append_assoc]
        exact houter.settle hwanted (.items h)
      | _ => trivial
    | @firstKey members gap hgap =>
      have hkey (key : List Char) (h : StringText key) : KeyText (gap ++ key) := by
        have hfirst := KeyText.first hgap h .nil
        rwa [List.append_nil] at hfirst
      cases token with
      | closeObject =>
        cases hspells
        rw [List.append_assoc]
        exact houter.settle hwanted (.empty hgap)
      | _ => exact houter.stepKey hwanted hspells hkey
    | @nextKey members text gap h hgap =>
      have hkey (key : List Char) (hstring : StringText key) :
          KeyText ((text ++ ',' :: gap) ++ key) := by
        have hnext := KeyText.next h hgap hstring .nil
        rwa [List.append_nil, ← List.cons_append, ← List.append_assoc] at hnext
      cases token with
      | closeObject => trivial
      | _ => exact houter.stepKey hwanted hspells hkey
    | members h =>
      cases hspells with
      | comma =>
        rw [List.append_assoc]
        exact .inside houter hwanted (.nextKey h .nil)
      | closeObject =>
        rw [List.append_assoc]
        exact houter.settle hwanted (.members h)
      | _ => trivial
    | colon h =>
      cases hspells with
      | colon =>
        rw [List.append_assoc]
        exact .inside houter hwanted (.value h .nil)
      | _ => trivial
    | value h hgap =>
      cases token <;> exact hbegun.stepValue rfl hspells

/-! ## Trees that are cut short -/

theorem not_isClosed_enclose (h : ¬ doc.IsClosed) : ¬ (enclose stack doc).IsClosed := by
  induction stack generalizing doc with
  | nil => exact h
  | cons bracket outer ih => cases bracket <;> exact ih nofun

theorem not_isClosed_leave {ending : Ending} (h : ending ≠ .closed) :
    ¬ (leave ending stack).IsClosed := by
  cases stack with
  | nil => exact id
  | cons bracket outer => cases bracket <;> exact not_isClosed_enclose h

/-- Where the text ends, the bracket of the tree is open. -/
theorem not_isClosed_atEnd (stack : List Open) (want : Want) : ¬ (atEnd stack want).IsClosed := by
  cases want <;> first | exact not_isClosed_enclose id | exact not_isClosed_leave nofun

/-- What a token leads to in any state: reading goes on only behind a token that lets it, a leaf
that completes the tree is the tree, and where reading stops the bracket of the tree is open. -/
def Progress.Follows (token : Token) : Progress → Prop
  | .more .. => token.goesOn = true
  | .done doc => token.goesOn = true ∧ ∀ leaf, token = .leaf leaf → doc = leaf
  | .stopped doc => ¬ doc.IsClosed

theorem settle_follows (hgoes : token.goesOn = true)
    (hleaf : ∀ leaf, token = .leaf leaf → doc = leaf)
    (stack : List Open) : (settle doc stack).Follows token := by
  cases stack with
  | nil => exact ⟨hgoes, hleaf⟩
  | cons bracket outer => cases bracket <;> exact hgoes

theorem stepValue_follows (stack : List Open) (token : Token) :
    (stepValue stack token).Follows token := by
  cases token with
  | openList => rfl
  | openObject => rfl
  | leaf doc =>
    rw [stepValue]
    split
    · next hstops =>
      refine not_isClosed_enclose (Doc.not_isClosed_of_isLeaf ?_)
      cases doc with
      | fault => rfl
      | _ => cases hstops
    · next hgoes =>
      have hnext : (Token.leaf doc).goesOn = true := by simpa [Token.goesOn] using hgoes
      exact settle_follows hnext (fun _ h => Token.leaf.inj h) stack
  | _ => exact not_isClosed_enclose id

theorem stepKey_follows (members : List (Doc × Doc)) (outer : List Open) (token : Token) :
    (stepKey members outer token).Follows token := by
  rw [stepKey]
  split
  · next hkey =>
    cases token with
    | leaf doc =>
      show (!stops doc) = true
      rw [glimpse] at hkey
      unfold isKey at hkey
      split at hkey
      · rfl
      · rfl
      · cases hkey
    | _ => cases hkey
  · exact not_isClosed_enclose nofun

theorem step_follows (stack : List Open) (want : Want) (token : Token) :
    (step stack want token).Follows token := by
  unfold step
  split
  · exact settle_follows rfl (by nofun) _
  · exact not_isClosed_leave nofun
  · exact settle_follows rfl (by nofun) _
  · exact not_isClosed_leave nofun
  · exact stepKey_follows _ _ _
  · exact stepKey_follows _ _ _
  · rfl
  · exact not_isClosed_enclose id
  · rfl
  · exact settle_follows rfl (by nofun) _
  · rfl
  · exact settle_follows rfl (by nofun) _
  · exact not_isClosed_leave nofun
  · exact stepValue_follows _ _

/-! ## Whole trees -/

/-- A list or an object that is complete follows the grammar. Its tree is the same whatever follows,
and what follows is not looked at. -/
theorem build_spec {rest : List Token} (hbegun : Begun stack want front)
    (h : build stack want (Token.scan cs) = (doc, rest)) (hclosed : doc.IsClosed) :
    ∃ used back, used ≠ [] ∧ cs = used ++ back ∧ rest = Token.scan back ∧
      (∃ gap value, front ++ used = gap ++ value ∧ Blanks gap ∧ doc.Text value) ∧
      ∀ other, build stack want (Token.scan (used ++ other)) = (doc, Token.scan other) := by
  induction cs using Token.scan.induct generalizing stack want front with
  | case1 =>
    rw [Token.scan] at h
    cases h
    exact absurd hclosed (not_isClosed_atEnd stack want)
  | case2 c cs hspace ih =>
    rw [Token.scan, if_pos hspace] at h
    obtain ⟨used, back, -, rfl, hrest, ⟨gap, value, htext, hvalue⟩, hagain⟩ :=
      ih (hbegun.blanks (.cons hspace .nil)) h
    refine ⟨c :: used, back, List.cons_ne_nil _ _, rfl, hrest, ⟨gap, value, ?_, hvalue⟩,
      fun other => ?_⟩
    · rw [← htext, List.append_assoc, List.singleton_append]
    · rw [List.cons_append, Token.scan, if_pos hspace, hagain]
  | case3 c cs hspace ih =>
    obtain ⟨⟨token, after⟩, hnext⟩ : ∃ read, Token.next c cs = read := ⟨_, rfl⟩
    rw [hnext] at ih
    rw [Token.scan, if_neg hspace, hnext, build] at h
    have hfollows := step_follows stack want token
    have hfits (text : List Char) (hspells : token.Spells text) := step_fits hbegun hspells
    cases hstep : step stack want token with
    | stopped tree =>
      rw [hstep] at h hfollows
      cases h
      exact absurd hclosed hfollows
    | done tree =>
      rw [hstep] at h hfollows hfits
      cases h
      obtain ⟨hgoes, hleaf⟩ := hfollows
      obtain ⟨part, hspells, rfl, hagain⟩ := Token.next_spec hnext hgoes
      refine ⟨c :: part, after, List.cons_ne_nil _ _, rfl, rfl, hfits _ hspells, fun other => ?_⟩
      -- A leaf would be the whole tree, so the token is a bracket, whatever follows it.
      have hother (leaf : Doc) (htoken : token = .leaf leaf) : other.head? = after.head? := by
        subst htoken
        obtain rfl := hleaf leaf rfl
        cases hspells with
        | leaf hshown => exact absurd hclosed (Doc.not_isClosed_of_isLeaf hshown.leaf)
      rw [List.cons_append, Token.scan, if_neg hspace, hagain other hother, build, hstep]
    | more inner next =>
      rw [hstep] at h hfollows hfits
      obtain ⟨part, hspells, rfl, hagain⟩ := Token.next_spec hnext hfollows
      obtain ⟨used, back, hused, rfl, hrest, ⟨gap, value, htext, hvalue⟩, hwhole⟩ :=
        ih (hfits _ hspells) h
      refine ⟨c :: (part ++ used), back, List.cons_ne_nil _ _, ?_, hrest, ⟨gap, value, ?_, hvalue⟩,
        fun other => ?_⟩
      · rw [List.cons_append, List.append_assoc]
      · rw [← htext, List.append_assoc, List.cons_append]
      · -- The value goes on behind the token, so the token is followed by the same character.
        have hhead : (used ++ other).head? = (used ++ back).head? := by
          rw [List.head?_append_of_ne_nil _ hused, List.head?_append_of_ne_nil _ hused]
        rw [List.cons_append, List.append_assoc, Token.scan, if_neg hspace,
          hagain _ fun _ _ => hhead, build, hstep]
        exact hwhole other

end Tree

/-! ## Whole texts -/

namespace Token

variable {cs gap : List Char}

theorem scan_blanks (h : Blanks gap) (cs : List Char) : scan (gap ++ cs) = scan cs := by
  induction gap with
  | nil => rfl
  | cons c gap ih =>
    rw [List.cons_append, scan, if_pos (h c List.mem_cons_self)]
    exact ih fun d hd => h d (List.mem_cons_of_mem _ hd)

theorem scan_eq_nil : scan cs = [] ↔ Blanks cs := by
  refine ⟨fun h => ?_, fun h => ?_⟩
  · induction cs using scan.induct with
    | case1 => exact .nil
    | case2 c cs hspace ih =>
      rw [scan, if_pos hspace] at h
      exact .cons hspace (ih h)
    | case3 c cs hspace ih =>
      rw [scan, if_neg hspace] at h
      cases h
  · rw [← List.append_nil cs, scan_blanks h, scan]

end Token

namespace Doc

variable {text : String} {doc : Doc}

theorem ofText_ofList {cs : List Char} {rest : List Token}
    (h : Tree.build [] .value (Token.scan cs) = (doc, rest)) :
    ofText (String.ofList cs) = (doc, !rest.isEmpty) := by
  rw [ofText, String.toList_ofList, h]

/-- A list or an object that is complete is a part of the text that follows the grammar, with blanks
before it. It is read from every text in which blanks stand before that part, and the text ends with
it if blanks follow. -/
theorem ofText_closed {more : Bool} (h : ofText text = (doc, more)) (hclosed : doc.IsClosed) :
    ∃ gap core back, text.toList = gap ++ (core ++ back) ∧ Blanks gap ∧ doc.Text core ∧
      (more = false ↔ Blanks back) ∧
      ∀ before after, Blanks before →
        ∃ goesOn, ofText (String.ofList (before ++ (core ++ after))) = (doc, goesOn) ∧
          (goesOn = false ↔ Blanks after) := by
  obtain ⟨⟨tree, rest⟩, hbuild⟩ : ∃ read, Tree.build [] .value (Token.scan text.toList) = read :=
    ⟨_, rfl⟩
  rw [ofText, hbuild] at h
  cases h
  obtain ⟨used, back, -, hcs, rfl, ⟨gap, core, rfl, hgap, hcore⟩, hagain⟩ :=
    Tree.build_spec (.start .nil) hbuild hclosed
  have hends (tail : List Char) : (!(Token.scan tail).isEmpty) = false ↔ Blanks tail := by
    rw [Bool.not_eq_false', List.isEmpty_iff, Token.scan_eq_nil]
  refine ⟨gap, core, back, ?_, hgap, hcore, hends back, fun before after hbefore => ?_⟩
  · rw [hcs, List.append_assoc]
  · refine ⟨_, ofText_ofList ?_, hends after⟩
    rw [Token.scan_blanks hbefore, ← Token.scan_blanks hgap, ← List.append_assoc]
    exact hagain after

end Doc

end DiagramStudio
