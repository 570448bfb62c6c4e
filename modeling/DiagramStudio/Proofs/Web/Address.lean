import DiagramStudio.Proofs.Document.Canonical
import DiagramStudio.Proofs.Web.Escape
import DiagramStudio.Web.Address
import Mathlib.Data.List.TakeWhile

/-!
# What stands at the end of an address

An address is read from its front, and each stage of the reading stops before a slash or goes past
it, whatever follows. So an address of the web without a query and a fragment can be given another
end: what follows the last part that counts, if that is nothing or begins with a slash, has an
effect on its path alone.

Results:
* `Path.read_slash`, `Path.exists_read_slashes`: the path of a folder, and of what is in it.
* `Authority.read_more`: the authority does not depend on what follows it.
* `Address.ofText_name`: a name behind an address is the last segment of its path.
* `Path.place_escape`: where a segment goes in which percent signs are escaped.
-/

namespace DiagramStudio.Web

variable {kind : SchemeKind} {cs rest name tail : List Char} {scheme : String}

/-! ## Rows of characters -/

/-- What may follow an address: nothing, or a slash with anything behind it. -/
def IsTail (tail : List Char) : Prop := tail = [] ∨ ∃ rest, tail = '/' :: rest

/-- A row is parted before a tail, if the test fails for slashes. -/
theorem span_append_tail {p : Char → Bool} (hslash : p '/' = false) (htail : IsTail tail)
    (cs : List Char) : (cs ++ tail).span p = (cs.takeWhile p, cs.dropWhile p ++ tail) := by
  have hparts : tail.takeWhile p = [] ∧ tail.dropWhile p = tail := by
    rcases htail with rfl | ⟨rest, rfl⟩
    · exact ⟨rfl, rfl⟩
    · exact ⟨List.takeWhile_cons_of_neg (by simp [hslash]),
        List.dropWhile_cons_of_neg (by simp [hslash])⟩
  rw [List.span_eq_takeWhile_dropWhile]
  induction cs with
  | nil => rw [List.nil_append, hparts.1, hparts.2, List.takeWhile_nil, List.dropWhile_nil,
      List.nil_append]
  | cons c cs ih =>
    rw [List.cons_append, List.takeWhile_cons, List.dropWhile_cons, List.takeWhile_cons,
      List.dropWhile_cons]
    cases p c with
    | false => rfl
    | true => exact Prod.ext (congrArg (c :: ·) (Prod.ext_iff.mp ih).1) (Prod.ext_iff.mp ih).2

theorem dropWhile_append_tail {p : Char → Bool} (hslash : p '/' = false) (htail : IsTail tail)
    (cs : List Char) : (cs ++ tail).dropWhile p = cs.dropWhile p ++ tail := by
  have h := span_append_tail hslash htail cs
  rw [List.span_eq_takeWhile_dropWhile] at h
  exact (Prod.ext_iff.mp h).2

theorem span_eq_self {p : Char → Bool} (h : ∀ c ∈ cs, p c = true) : cs.span p = (cs, []) := by
  rw [List.span_eq_takeWhile_dropWhile, List.takeWhile_eq_self_iff.mpr h,
    List.dropWhile_eq_nil_iff.mpr h]

/-! ## Paths -/

namespace Path

/-- The segments of a path up to a slash at its end. -/
def folder (kind : SchemeKind) : List Char → List String
  | [] => []
  | c :: rest =>
    ((if kind.isSlash c then rest else c :: rest).splitOnP kind.isSlash).foldl
      (fun segments part => place segments (escape .path part) false) []

/-- The segments before the last ones are placed whatever these are. -/
theorem placeAll_append {more : List (List Char)} (hmore : more ≠ []) (segments : List String)
    (parts : List (List Char)) : placeAll segments (parts ++ more) =
      placeAll (parts.foldl (fun segments part => place segments (escape .path part) false) segments)
        more := by
  induction parts generalizing segments with
  | nil => rfl
  | cons part parts ih =>
    have hempty : (parts ++ more).isEmpty = false := by simp [hmore]
    simp only [List.cons_append, placeAll, hempty, ih, List.foldl_cons]

theorem placeAll_singleton (segments : List String) (last : List Char) :
    placeAll segments [last] = place segments (escape .path last) true := by
  simp only [placeAll, List.isEmpty_nil]

/-- What is written behind a slash is the last segment of a path, if it holds no slash. -/
theorem read_slash (hname : ∀ c ∈ name, kind.isSlash c = false) (cs : List Char) :
    read kind (cs ++ '/' :: name) =
      .segments (place (folder kind cs) (escape .path name) true) := by
  have hslash : kind.isSlash '/' = true := rfl
  have hlast := List.splitOnP_eq_singleton hname
  cases cs with
  | nil =>
    rw [List.nil_append, read, if_pos hslash, readSegments, hlast, placeAll_singleton, folder]
  | cons c rest =>
    -- A slash at the front is not read as part of a segment.
    have hsplit : (if kind.isSlash c then rest ++ '/' :: name
        else c :: (rest ++ '/' :: name)).splitOnP kind.isSlash =
          (if kind.isSlash c then rest else c :: rest).splitOnP kind.isSlash ++ [name] := by
      rw [← hlast]
      split_ifs
      · exact List.splitOnP_append_cons rest name hslash
      · exact List.splitOnP_append_cons (c :: rest) name hslash
    rw [List.cons_append, read, readSegments, hsplit, placeAll_append (by simp), placeAll_singleton,
      folder]

theorem place_empty (segments : List String) (last : Bool) :
    place segments (escape .path []) last = segments ++ [""] := rfl

theorem splitOnP_replicate (kind : SchemeKind) (count : Nat) :
    (List.replicate count '/').splitOnP kind.isSlash = List.replicate (count + 1) [] := by
  induction count with
  | zero => exact List.splitOnP_nil
  | succ count ih =>
    have hslash : kind.isSlash '/' = true := rfl
    have hsplit := List.splitOnP_append_cons [] (List.replicate count '/') hslash
    rw [List.splitOnP_nil, ih] at hsplit
    exact hsplit

/-- Empty segments stay at the end of a path. -/
theorem placeAll_replicate (segments : List String) (count : Nat) :
    placeAll segments (List.replicate (count + 1) []) = segments ++ List.replicate (count + 1) "" := by
  induction count generalizing segments with
  | zero => rfl
  | succ count ih =>
    rw [List.replicate_succ, placeAll, place_empty, ih, List.append_assoc, List.singleton_append,
      ← List.replicate_succ]

/-- The last segment of a path goes where it goes elsewhere, and a slash may follow it. -/
theorem exists_place_last (segments : List String) (segment : String) :
    ∃ empty, place segments segment true =
      place segments segment false ++ List.replicate empty "" := by
  simp only [place, if_true, Bool.false_eq_true, if_false]
  split_ifs
  · exact ⟨1, by simp⟩
  · exact ⟨1, by simp⟩
  · exact ⟨0, by simp⟩

/-- A path with slashes at its end is that of the folder, apart from empty segments. -/
theorem exists_read_slashes (cs : List Char) (count : Nat) :
    ∃ empty, read .web (cs ++ List.replicate count '/') =
      .segments (folder .web cs ++ List.replicate empty "") := by
  have hslash : SchemeKind.web.isSlash '/' = true := rfl
  cases cs with
  | nil =>
    cases count with
    | zero => exact ⟨1, rfl⟩
    | succ count =>
      refine ⟨count + 1, ?_⟩
      rw [List.nil_append, List.replicate_succ, read, if_pos hslash, readSegments,
        splitOnP_replicate, placeAll_replicate]
      rfl
  | cons c rest =>
    have hrow : (if SchemeKind.web.isSlash c then rest ++ List.replicate count '/'
        else c :: (rest ++ List.replicate count '/')) =
          (if SchemeKind.web.isSlash c then rest else c :: rest) ++ List.replicate count '/' := by
      split_ifs <;> rfl
    rw [List.cons_append, read, hrow, readSegments, folder]
    generalize (if SchemeKind.web.isSlash c then rest else c :: rest) = row
    cases count with
    | zero =>
      obtain hnil | ⟨front, last, hparts⟩ := List.eq_nil_or_concat (row.splitOnP SchemeKind.web.isSlash)
      · exact absurd hnil (List.splitOnP_ne_nil _ _)
      · obtain ⟨empty, hempty⟩ := exists_place_last
          (front.foldl (fun segments part => place segments (escape .path part) false) [])
          (escape .path last)
        refine ⟨empty, ?_⟩
        rw [List.replicate_zero, List.append_nil, hparts, List.concat_eq_append,
          placeAll_append (by simp), placeAll_singleton, hempty, List.foldl_append,
          List.foldl_cons, List.foldl_nil]
    | succ count =>
      refine ⟨count + 1, ?_⟩
      rw [List.replicate_succ, List.splitOnP_append_cons row _ hslash, splitOnP_replicate,
        placeAll_append (by simp), placeAll_replicate, List.replicate_succ]

end Path

/-! ## Authorities -/

theorem Authority.readHost_nil : Authority.readHost .web [] = .error .emptyHost := rfl

/-- The authority of an address of the web does not depend on what follows it. -/
theorem Authority.read_more {authority : Authority} {more left : List Char}
    (h : Authority.read scheme .web cs more = .ok (authority, left)) :
    ∃ rest, left = rest ++ more ∧ ∀ other,
      Authority.read scheme .web cs other = .ok (authority, rest ++ other) := by
  unfold Authority.read at h
  simp only at h
  split at h
  · cases h
  obtain ⟨host, hhost, h⟩ := Read.bind_eq_ok.mp h
  split at h
  · cases h
  next hempty =>
  obtain ⟨port, hport, h⟩ := Read.bind_eq_ok.mp h
  obtain ⟨rfl, rfl⟩ := Prod.mk.inj (Except.ok.inj h)
  refine ⟨_, rfl, fun other => ?_⟩
  -- What follows is looked at only where the host is missing, and that is refused anyway.
  have hplace : (Authority.splitLogin cs).2 ≠ [] := by
    intro hplace
    have hnone : (Authority.splitHost false []).1 = [] := rfl
    rw [hplace, hnone, Authority.readHost_nil] at hhost
    cases hhost
  unfold Authority.read
  simp only [hplace, decide_false, Bool.and_false, Bool.false_and, hhost, hempty, hport]
  rfl

/-! ## What follows the path -/

namespace Address

variable {authority : Option Authority} {readPath : List Char → Path}

theorem readTail_of_plain (h : ∀ c ∈ cs, c ≠ '?' ∧ c ≠ '#') :
    readTail scheme kind authority readPath cs =
      { scheme, authority, path := readPath cs } := by
  have hhash : cs.span (· ≠ '#') = (cs, []) := span_eq_self fun c hc => decide_eq_true (h c hc).2
  have hquestion : cs.span (· ≠ '?') = (cs, []) :=
    span_eq_self fun c hc => decide_eq_true (h c hc).1
  simp only [readTail, hhash, hquestion, if_true]

theorem plain_of_readTail (hquery : (readTail scheme kind authority readPath cs).query = none)
    (hfragment : (readTail scheme kind authority readPath cs).fragment = none) :
    ∀ c ∈ cs, c ≠ '?' ∧ c ≠ '#' := by
  simp only [readTail, List.span_eq_takeWhile_dropWhile, ite_eq_left_iff, reduceCtorEq, imp_false,
    not_not] at hquery hfragment
  rw [List.dropWhile_eq_nil_iff] at hfragment
  rw [List.takeWhile_eq_self_iff.mpr hfragment, List.dropWhile_eq_nil_iff] at hquery
  exact fun c hc => ⟨of_decide_eq_true (hquery c hc), of_decide_eq_true (hfragment c hc)⟩

/-! ## Before the authority -/

/-- What counts of a text ends like the text, if that does not end in a blank. -/
theorem exists_significant (cs : List Char) :
    ∃ front, ∀ tail : List Char, IsTail tail → (∀ c ∈ tail, 0x20 < c.toNat) →
      (∀ c ∈ (cs ++ tail).getLast?, 0x20 < c.toNat) → significant (cs ++ tail) = front ++ tail := by
  refine ⟨(cs.dropWhile fun c => c.toNat ≤ 0x20).filter
    fun c => c ≠ '\t' && c ≠ '\n' && c ≠ '\r', fun tail htail hname hlast => ?_⟩
  have hdrop := dropWhile_append_tail (p := fun c => decide (c.toNat ≤ 0x20)) (by decide) htail cs
  have hsuffix : (cs ++ tail).dropWhile (fun c => decide (c.toNat ≤ 0x20)) <:+ cs ++ tail :=
    List.dropWhile_suffix _
  rw [hdrop] at hsuffix
  have hend : ((cs.dropWhile fun c => decide (c.toNat ≤ 0x20)) ++ tail).reverse.dropWhile
      (fun c => decide (c.toNat ≤ 0x20)) =
        ((cs.dropWhile fun c => decide (c.toNat ≤ 0x20)) ++ tail).reverse := by
    obtain hnil | ⟨front, last, hrow⟩ :=
      List.eq_nil_or_concat ((cs.dropWhile fun c => decide (c.toNat ≤ 0x20)) ++ tail)
    · rw [hnil]
      rfl
    · obtain ⟨before, hbefore⟩ := hsuffix
      rw [hrow, List.concat_eq_append, ← List.append_assoc] at hbefore
      have habove := hlast last (by rw [← hbefore, List.getLast?_concat]; rfl)
      rw [hrow, List.concat_eq_append, List.reverse_append, List.reverse_singleton,
        List.singleton_append, List.dropWhile_cons_of_neg (by simpa)]
  have hkept : tail.filter (fun c => c ≠ '\t' && c ≠ '\n' && c ≠ '\r') = tail := by
    refine List.filter_eq_self.mpr fun c hc => ?_
    have habove := hname c hc
    simp only [ne_eq, Bool.and_eq_true, decide_eq_true_eq]
    refine ⟨⟨?_, ?_⟩, ?_⟩ <;> rintro rfl <;> exact absurd habove (by decide)
  simp only [significant]
  rw [hdrop, hend, List.reverse_reverse, List.filter_append, hkept]

/-- The scheme is read from what stands before the tail. -/
theorem splitScheme?_append_tail (htail : IsTail tail) (cs : List Char) :
    splitScheme? (cs ++ tail) = (splitScheme? cs).map fun parts => (parts.1, parts.2 ++ tail) := by
  have hslash : isSchemeChar '/' = false := by decide
  rw [splitScheme?, splitScheme?, span_append_tail hslash htail, List.span_eq_takeWhile_dropWhile]
  cases cs.takeWhile isSchemeChar with
  | nil => rfl
  | cons first others =>
    cases cs.dropWhile isSchemeChar with
    | nil => rcases htail with rfl | ⟨rest, rfl⟩ <;> rfl
    | cons c behind =>
      by_cases hcolon : c = ':'
      · subst hcolon
        simp only [List.cons_append]
        split_ifs <;> rfl
      · simp [hcolon]

/-! ## Reading by scheme -/

/-- An address of the web needs a host. -/
theorem readAfterSlashes_nil (scheme : String) :
    readAfterSlashes scheme .web [] = .error .emptyHost := rfl

theorem scheme_of_readFile {address : Address} (h : readFile scheme cs = .ok address) :
    address.scheme = scheme := by
  unfold readFile at h
  split at h
  · split at h
    · obtain ⟨_, -, h⟩ := Read.bind_eq_ok.mp h
      cases h
      rfl
    · cases h
      rfl
  · cases h
    rfl

theorem scheme_of_readAfterSlashes {address : Address}
    (h : readAfterSlashes scheme kind cs = .ok address) : address.scheme = scheme := by
  obtain ⟨_, -, h⟩ := Read.bind_eq_ok.mp h
  cases h
  rfl

theorem scheme_of_readOther {address : Address} (h : readOther scheme cs = .ok address) :
    address.scheme = scheme := by
  unfold readOther at h
  split at h
  · exact scheme_of_readAfterSlashes h
  · cases h
    rfl
  · cases h
    rfl

/-- How an address of the web is read. -/
theorem ofText_eq_ok_iff {text : String} {address : Address}
    (hweb : SchemeKind.ofScheme address.scheme = .web) :
    ofText text = .ok address ↔ ∃ rest,
      splitScheme? (significant text.toList) = some (address.scheme, rest) ∧
        readAfterSlashes address.scheme .web (rest.dropWhile SchemeKind.web.isSlash) =
          .ok address := by
  constructor
  · intro h
    unfold ofText at h
    split at h
    · cases h
    next scheme rest hsplit =>
    split at h
    · obtain rfl := scheme_of_readAfterSlashes h
      exact ⟨rest, hsplit, h⟩
    · next hkind =>
      rw [scheme_of_readFile h, hkind] at hweb
      cases hweb
    · next hkind =>
      rw [scheme_of_readOther h, hkind] at hweb
      cases hweb
  · rintro ⟨rest, hsplit, hrest⟩
    simp only [ofText, hsplit, hweb, hrest]

/-! ## Other ends -/

/-- An address of the web with another tail behind its authority. -/
theorem readAfterSlashes_tail {base : Address} (htail : IsTail tail)
    (h : readAfterSlashes scheme .web (cs ++ tail) = .ok base) (hquery : base.query = none)
    (hfragment : base.fragment = none) :
    ∃ row, base.path = Path.read .web (row ++ tail) ∧
      ∀ other : List Char, IsTail other → (∀ c ∈ other, c ≠ '?' ∧ c ≠ '#') →
        readAfterSlashes scheme .web (cs ++ other) =
          .ok { base with path := Path.read .web (row ++ other) } := by
  have hspan {tail : List Char} (htail : IsTail tail) :
      (cs ++ tail).span (!Authority.isEnd .web ·) =
        (cs.takeWhile (!Authority.isEnd .web ·), cs.dropWhile (!Authority.isEnd .web ·) ++ tail) :=
    span_append_tail (by rfl) htail cs
  simp only [readAfterSlashes, hspan htail] at h
  obtain ⟨⟨authority, left⟩, hread, h⟩ := Read.bind_eq_ok.mp h
  obtain ⟨rest, rfl, hmore⟩ := Authority.read_more hread
  rw [← List.append_assoc] at h
  obtain rfl := Except.ok.inj h
  have hplain := plain_of_readTail hquery hfragment
  refine ⟨rest ++ cs.dropWhile (!Authority.isEnd .web ·), ?_, fun other hother hnew => ?_⟩
  · rw [readTail_of_plain hplain]
  · have hall : ∀ c ∈ rest ++ cs.dropWhile (!Authority.isEnd .web ·) ++ other,
        c ≠ '?' ∧ c ≠ '#' := by
      intro c hc
      rcases List.mem_append.mp hc with hc | hc
      · exact hplain c (List.mem_append_left _ hc)
      · exact hnew c hc
    simp only [readAfterSlashes, hspan hother, hmore, ← List.append_assoc, readTail_of_plain hplain]
    exact congrArg Except.ok (readTail_of_plain hall)

/-- A character that counts wherever it stands, and separates no parts of an address. -/
structure Plain (c : Char) : Prop where
  above : 0x20 < c.toNat
  slash : c ≠ '/'
  backslash : c ≠ '\\'
  question : c ≠ '?'
  hash : c ≠ '#'

/-- **Names behind an address.** The text of an address of the web, without a query and a fragment,
is parted before the slashes at its end and does not end in a blank. Then plain characters that are
written behind one slash in place of these are the last segment of the path, and nothing else of the
address changes. -/
theorem ofText_name {base : Address} {count : Nat}
    (h : ofText (String.ofList (cs ++ List.replicate count '/')) = .ok base)
    (hlast : ∀ c ∈ (cs ++ List.replicate count '/').getLast?, 0x20 < c.toNat)
    (hweb : SchemeKind.ofScheme base.scheme = .web) (hquery : base.query = none)
    (hfragment : base.fragment = none) :
    ∃ front empty, base.path = .segments (front ++ List.replicate empty "") ∧
      ∀ name : List Char, (∀ c ∈ name, Plain c) →
        ofText (String.ofList (cs ++ '/' :: name)) =
          .ok { base with path := .segments (Path.place front (escape .path name) true) } := by
  have htail : IsTail (List.replicate count '/') := by
    cases count with
    | zero => exact .inl rfl
    | succ count => exact .inr ⟨_, rfl⟩
  have hslashes : ∀ c ∈ List.replicate count '/', c = '/' := fun c hc => List.eq_of_mem_replicate hc
  obtain ⟨begun, hbegun⟩ := exists_significant cs
  obtain ⟨rest, hsplit, hread⟩ := (ofText_eq_ok_iff hweb).mp h
  rw [String.toList_ofList, hbegun _ htail (fun c hc => hslashes c hc ▸ by decide) hlast,
    splitScheme?_append_tail htail, Option.map_eq_some_iff] at hsplit
  obtain ⟨⟨scheme, behind⟩, hscheme, hsame⟩ := hsplit
  cases hsame
  -- Something stands between the slashes behind the scheme and those at the end: the host.
  have hdrop (tail : List Char) : (behind ++ tail).dropWhile SchemeKind.web.isSlash =
      behind.dropWhile SchemeKind.web.isSlash ++ tail := by
    rw [List.dropWhile_append]
    split_ifs with hempty
    · have hnone : (List.replicate count '/').dropWhile SchemeKind.web.isSlash = [] :=
        List.dropWhile_eq_nil_iff.mpr fun c hc => hslashes c hc ▸ rfl
      rw [List.dropWhile_append, if_pos hempty, hnone, readAfterSlashes_nil] at hread
      cases hread
    · rfl
  rw [hdrop] at hread
  obtain ⟨row, hpath, hother⟩ := readAfterSlashes_tail htail hread hquery hfragment
  obtain ⟨empty, hempty⟩ := Path.exists_read_slashes row count
  refine ⟨Path.folder .web row, empty, hpath.trans hempty, fun name hname => ?_⟩
  have hslash : IsTail ('/' :: name) := .inr ⟨name, rfl⟩
  have habove : ∀ c ∈ '/' :: name, 0x20 < c.toNat :=
    List.forall_mem_cons.mpr ⟨by decide, fun c hc => (hname c hc).above⟩
  have hplain : ∀ c ∈ '/' :: name, c ≠ '?' ∧ c ≠ '#' :=
    List.forall_mem_cons.mpr ⟨by decide, fun c hc => ⟨(hname c hc).question, (hname c hc).hash⟩⟩
  have hsegment : ∀ c ∈ name, SchemeKind.web.isSlash c = false := by
    intro c hc
    simp [SchemeKind.isSlash, (hname c hc).slash, (hname c hc).backslash]
  refine (ofText_eq_ok_iff (by exact hweb)).mpr ⟨behind ++ '/' :: name, ?_, ?_⟩
  · rw [String.toList_ofList, hbegun _ hslash habove, splitScheme?_append_tail hslash, hscheme]
    · rfl
    · intro c hc
      rw [List.getLast?_append_of_ne_nil _ (List.cons_ne_nil _ _)] at hc
      exact habove c (List.mem_of_getLast? hc)
  · rw [hdrop, hother _ hslash hplain, Path.read_slash hsegment]

end Address

/-! ## Dots in segments -/

namespace Path

variable {set : EscapeSet}

/-- What is written like a row of dots is that row. -/
theorem eq_dots_of_lowered (hpercent : set 0x25 = true) (hdot : set 0x2E = false)
    (dots : List (List Char)) (hforms : ∀ dot ∈ dots, IsDot dot)
    (h : lowered (escape set cs) = String.ofList dots.flatten) :
    cs = List.replicate dots.length '.' := by
  have hchars := String.ofList_injective h
  rw [escape, String.toList_ofList] at hchars
  have hbytes := bytes_of_dots hpercent hdot hforms hchars
  have hrow (n : Nat) : Text.utf8 (String.ofList (List.replicate n '.')) = List.replicate n 0x2E := by
    rw [Text.utf8_ofList]
    induction n with
    | zero => rfl
    | succ n ih =>
      rw [List.replicate_succ, List.flatMap_cons, ih]
      rfl
  rw [← hrow] at hbytes
  exact String.ofList_injective (Text.utf8_injective hbytes)

theorem escape_dots (hdot : set 0x2E = false) (n : Nat) :
    escape set (List.replicate n '.') = String.ofList (List.replicate n '.') := by
  refine escape_eq_ofList fun c hc => ?_
  obtain rfl := List.eq_of_mem_replicate hc
  exact ⟨by decide, hdot⟩

theorem contains_oneDot_escape (hpercent : set 0x25 = true) (hdot : set 0x2E = false) :
    oneDot.contains (lowered (escape set cs)) = true ↔ cs = ['.'] := by
  rw [List.contains_iff_mem, oneDot, List.mem_cons, List.mem_singleton]
  constructor
  · rintro (h | h)
    · exact eq_dots_of_lowered hpercent hdot [['.']] (by simp [IsDot]) h
    · exact eq_dots_of_lowered hpercent hdot [['%', '2', 'e']] (by simp [IsDot]) h
  · rintro rfl
    have hone := escape_dots hdot 1
    rw [List.replicate_one] at hone
    exact .inl (by rw [hone]; rfl)

theorem contains_twoDots_escape (hpercent : set 0x25 = true) (hdot : set 0x2E = false) :
    twoDots.contains (lowered (escape set cs)) = true ↔ cs = ['.', '.'] := by
  rw [List.contains_iff_mem, twoDots, List.mem_cons, List.mem_cons, List.mem_cons,
    List.mem_singleton]
  constructor
  · rintro (h | h | h | h)
    · exact eq_dots_of_lowered hpercent hdot [['.'], ['.']] (by simp [IsDot]) h
    · exact eq_dots_of_lowered hpercent hdot [['.'], ['%', '2', 'e']] (by simp [IsDot]) h
    · exact eq_dots_of_lowered hpercent hdot [['%', '2', 'e'], ['.']] (by simp [IsDot]) h
    · exact eq_dots_of_lowered hpercent hdot [['%', '2', 'e'], ['%', '2', 'e']] (by simp [IsDot]) h
  · rintro rfl
    have htwo := escape_dots hdot 2
    rw [List.replicate_succ, List.replicate_one] at htwo
    exact .inl (by rw [htwo]; rfl)

/-- Where a segment goes in which dots are not escaped, but percent signs are. -/
theorem place_escape (hpercent : set 0x25 = true) (hdot : set 0x2E = false)
    (segments : List String) (cs : List Char) :
    place segments (escape set cs) true =
      if cs = ['.', '.'] then segments.dropLast ++ [""]
      else if cs = ['.'] then segments ++ [""]
      else segments ++ [escape set cs] := by
  simp only [place, if_true, contains_twoDots_escape hpercent hdot,
    contains_oneDot_escape hpercent hdot]

end Path

end DiagramStudio.Web
