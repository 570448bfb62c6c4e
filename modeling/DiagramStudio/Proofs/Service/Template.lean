import DiagramStudio.Proofs.Web.Address
import DiagramStudio.Service.Client

/-!
# Where templates are asked for

A template is asked for below the base of the services: its id is pushed behind the folder of the
templates as one segment. Percent signs and slashes are escaped there, but line breaks and
tabulators are dropped, and a segment that is one or two dots is not kept as such. So an id has an
address of its own, one segment below the templates, if and only if nothing of it is dropped and it
is not one or two dots.

Results:
* `Web.Address.push_eq`: what becomes of a segment that is pushed.
* `Settings.ofText_behind_base`: the folder of the templates stands behind the path of the base.
* `Settings.request_template`: the exact request of a template.
* `Settings.templates_apart`: which ids are asked for by one segment that can be read back.
* `Settings.templates_of_lost_ids`: ids for which it is not so.
-/

namespace DiagramStudio

namespace Web

namespace Address

variable {segments : List String} {segment : String}

/-! ## Adding a segment -/

/-- Where a segment that is pushed goes behind others: dots are passed over, or resolved if they come
about by dropping line breaks and tabulators. -/
def pushed (segments : List String) (segment : String) : List String :=
  if segment = "." ∨ segment = ".." then segments
  else if segmentChars segment = ['.', '.'] then segments.dropLast ++ [""]
  else if segmentChars segment = ['.'] then segments ++ [""]
  else segments ++ [escape .specialSegment (segmentChars segment)]

/-- What is written for a segment separates no parts of an address. -/
theorem ne_of_mem_escape {cs : List Char} :
    ∀ c ∈ (escape .specialSegment cs).toList, c ≠ '/' ∧ c ≠ '?' ∧ c ≠ '#' := by
  intro c hc
  refine ⟨?_, ?_, ?_⟩ <;> rintro rfl
  all_goals exact not_mem_escape (by decide) (by decide) (by decide) hc

/-- What becomes of a segment that is pushed to an address of the web. -/
theorem push_eq {address : Address} (hpath : address.path = .segments segments)
    (hweb : SchemeKind.ofScheme address.scheme = .web) (hne : segments ≠ [""])
    (segment : String) :
    address.push segment = some { address with path := .segments (pushed segments segment) } := by
  have hspecial : SchemeKind.web.isSpecial = true := rfl
  have hpercent : EscapeSet.specialSegment 0x25 = true := by decide
  have hdot : EscapeSet.specialSegment 0x2E = false := by decide
  simp only [push, hpath, hweb, hspecial, if_true, if_neg hne, pushed,
    Path.place_escape hpercent hdot]
  split_ifs with hdots
  · rw [← hpath]
  all_goals rfl

theorem pushed_append (front : List String) (last : String) :
    pushed (front ++ [last]) segment = front ++ pushed [last] segment := by
  simp only [pushed, List.dropLast_concat, List.dropLast_singleton]
  split_ifs <;> simp

/-- A segment of which nothing is dropped, and that is not one or two dots. -/
def Retained (segment : String) : Prop :=
  (∀ c ∈ segment.toList, c ≠ '\t' ∧ c ≠ '\n' ∧ c ≠ '\r') ∧ segment ≠ "." ∧ segment ≠ ".."

theorem segmentChars_eq_iff : segmentChars segment = segment.toList ↔
    ∀ c ∈ segment.toList, c ≠ '\t' ∧ c ≠ '\n' ∧ c ≠ '\r' := by
  rw [segmentChars, List.filter_eq_self]
  simp only [Bool.and_eq_true, decide_eq_true_eq, and_assoc]

theorem pushed_of_retained (h : Retained segment) :
    pushed segments segment = segments ++ [escape .specialSegment segment.toList] := by
  obtain ⟨hkept, hone, htwo⟩ := h
  have hchars := segmentChars_eq_iff.mpr hkept
  have hdots (dots : List Char) (hne : segment ≠ String.ofList dots) : segment.toList ≠ dots :=
    fun hsame => hne (by rw [← hsame, String.ofList_toList])
  rw [pushed, hchars, if_neg (not_or.mpr ⟨hone, htwo⟩), if_neg (hdots _ htwo),
    if_neg (hdots _ hone)]

/-- A segment that ends up as one segment from which it can be read back is retained. -/
theorem retained_of_pushed {written : String} (h : pushed segments segment = segments ++ [written])
    (hbytes : unescape (Text.utf8 written) = Text.utf8 segment) : Retained segment := by
  have hempty (others : List String) (hlast : others ++ [""] = segments ++ [written]) :
      segmentChars segment = [] := by
    have hsame : "" = written := by simpa using congrArg List.getLast? hlast
    rw [← hsame] at hbytes
    have hnone : "" = segment := Text.utf8_injective hbytes
    rw [← hnone]
    rfl
  unfold pushed at h
  split_ifs at h with hdots htwo hone
  · simpa using congrArg List.length h
  · rw [hempty _ h] at htwo
    cases htwo
  · rw [hempty _ h] at hone
    cases hone
  · have hwritten := List.singleton_inj.mp (List.append_cancel_left h)
    rw [← hwritten, unescape_escape (by decide)] at hbytes
    have hchars : String.ofList (segmentChars segment) = segment := Text.utf8_injective hbytes
    have hkept := congrArg String.toList hchars
    rw [String.toList_ofList] at hkept
    exact ⟨segmentChars_eq_iff.mp hkept, not_or.mp hdots⟩

theorem target_append {address : Address} {front : List String} {first second : String}
    (hpath : address.path = .segments (front ++ [first, second])) (hquery : address.query = none) :
    address.target = (Path.segments front).written ++ "/" ++ first ++ "/" ++ second := by
  have hnone : marked "?" none = "" := rfl
  simp only [target, hpath, hquery, hnone, Path.written, List.map_append, List.map_cons,
    List.map_nil, String.join_append, String.join_cons, String.join_nil, String.append_empty,
    String.append_assoc]

end Address

end Web

namespace Settings

open Web

variable {settings : Settings} {base : Address}

/-! ## The folder of the templates -/

/-- A text without the slashes at its end, and these. -/
theorem exists_withoutEndSlashes (text : String) : ∃ cs count,
    text = String.ofList (cs ++ List.replicate count '/') ∧
      withoutEndSlashes text = String.ofList cs := by
  refine ⟨_, (text.toList.reverse.takeWhile (· = '/')).length, ?_, rfl⟩
  have hslashes : text.toList.reverse.takeWhile (· = '/') =
      List.replicate (text.toList.reverse.takeWhile (· = '/')).length '/' :=
    List.eq_replicate_of_mem fun c hc => by simpa using List.mem_takeWhile_imp hc
  have hparts := List.takeWhile_append_dropWhile (p := (· = '/')) (l := text.toList.reverse)
  rw [← List.reverse_replicate, ← hslashes, ← List.reverse_append, hparts, List.reverse_reverse,
    String.ofList_toList]

/-- What stands behind the base: nothing, or the templates. -/
theorem ofText_behind_base (h : Address.ofText settings.apiBaseUrl = .ok base)
    (hlast : ∀ c ∈ settings.apiBaseUrl.toList.getLast?, 0x20 < c.toNat)
    (hweb : SchemeKind.ofScheme base.scheme = .web) (hquery : base.query = none)
    (hfragment : base.fragment = none) :
    ∃ front empty, base.path = .segments (front ++ List.replicate empty "") ∧
      Address.ofText (settings.base ++ "/") =
        .ok { base with path := .segments (front ++ [""]) } ∧
      Address.ofText (settings.base ++ "/templates") =
        .ok { base with path := .segments (front ++ ["templates"]) } := by
  obtain ⟨cs, count, htext, hbase⟩ := exists_withoutEndSlashes settings.apiBaseUrl
  rw [htext, String.toList_ofList] at hlast
  rw [htext] at h
  obtain ⟨front, empty, hpath, hname⟩ := Address.ofText_name h hlast hweb hquery hfragment
  have hchars : "templates".toList.all (fun c => decide
      (0x20 < c.toNat ∧ c ≠ '/' ∧ c ≠ '\\' ∧ c ≠ '?' ∧ c ≠ '#')) = true := by decide
  have hplain : ∀ c ∈ "templates".toList, Address.Plain c := by
    intro c hc
    obtain ⟨habove, hslash, hback, hquestion, hhash⟩ :=
      of_decide_eq_true (List.all_eq_true.mp hchars c hc)
    exact ⟨habove, hslash, hback, hquestion, hhash⟩
  have hplace : Path.place front (escape .path "templates".toList) true =
      front ++ ["templates"] := by
    have hescape : escape .path "templates".toList = "templates" := by decide +kernel
    have hdots : Path.twoDots.contains (Path.lowered "templates") = false := by decide
    have hdot : Path.oneDot.contains (Path.lowered "templates") = false := by decide
    simp only [hescape, Path.place, hdots, hdot, Bool.false_eq_true, if_false]
  have hbehind (name : List Char) :
      settings.base ++ String.ofList ('/' :: name) = String.ofList (cs ++ '/' :: name) := by
    rw [Settings.base, hbase, String.ofList_append]
  refine ⟨front, empty, hpath, ?_, ?_⟩
  · exact (congrArg Address.ofText (hbehind [])).trans (hname [] (by simp))
  · have htemplates := (congrArg Address.ofText (hbehind "templates".toList)).trans
      (hname _ hplain)
    rwa [hplace] at htemplates

/-! ## Requests of templates -/

/-- The exact request of a template. -/
theorem request_template {front : List String}
    (h : Address.ofText (settings.base ++ "/templates") =
      .ok { base with path := .segments (front ++ ["templates"]) })
    (hweb : SchemeKind.ofScheme base.scheme = .web) (id : String) :
    settings.request (.template id) = .ok
      { method := .get
        address := { base with
          path := .segments (front ++ Address.pushed ["templates"] id) } } := by
  have hne : front ++ ["templates"] ≠ [""] := by
    intro hsame
    have hlast := congrArg List.getLast? hsame
    simp at hlast
  have hpush : Address.push { base with path := .segments (front ++ ["templates"]) } id =
      some { base with path := .segments (Address.pushed (front ++ ["templates"]) id) } :=
    Address.push_eq (by rfl) (by exact hweb) hne id
  rw [Address.pushed_append] at hpush
  simp only [request, templateAddress, h, hpush]
  rfl

/-- **Templates are apart.** The settings name a base of the web that has no query and no fragment and
does not end in a blank. Then a template is asked for behind the path of the base, without the
slashes at its end: by one segment below the templates from which the id can be read back, if and
only if the id is retained. So different ids that are retained have different requests.

Only slashes are trimmed, and from the text of the base, not from its path. So the path in front of
the templates may itself end in an empty segment: where a backslash ends the text, or dots at its end
are resolved behind several slashes. -/
theorem templates_apart (h : Address.ofText settings.apiBaseUrl = .ok base)
    (hlast : ∀ c ∈ settings.apiBaseUrl.toList.getLast?, 0x20 < c.toNat)
    (hweb : SchemeKind.ofScheme base.scheme = .web) (hquery : base.query = none)
    (hfragment : base.fragment = none) :
    ∃ front empty, base.path = .segments (front ++ List.replicate empty "") ∧
      Address.ofText (settings.base ++ "/") =
        .ok { base with path := .segments (front ++ [""]) } ∧
      (∀ id, settings.request (.template id) = .ok
        { method := .get
          address := { base with
            path := .segments (front ++ Address.pushed ["templates"] id) } }) ∧
      (∀ id, Address.Retained id ↔ ∃ segment,
        Address.pushed ["templates"] id = ["templates", segment] ∧
          (∀ c ∈ segment.toList, c ≠ '/' ∧ c ≠ '?' ∧ c ≠ '#') ∧
          unescape (Text.utf8 segment) = Text.utf8 id) ∧
      (∀ id, Address.Retained id → ∃ request, settings.request (.template id) = .ok request ∧
        request.address.target = (Path.segments front).written ++ "/" ++ "templates" ++ "/" ++
          escape .specialSegment id.toList) ∧
      ∀ id other, Address.Retained id → Address.Retained other →
        settings.request (.template id) = settings.request (.template other) → id = other := by
  obtain ⟨front, empty, hpath, hfolder, htemplates⟩ :=
    ofText_behind_base h hlast hweb hquery hfragment
  have hrequest := request_template htemplates hweb
  have hpushed {id : String} (hid : Address.Retained id) :
      Address.pushed ["templates"] id = ["templates", escape .specialSegment id.toList] :=
    Address.pushed_of_retained hid
  refine ⟨front, empty, hpath, hfolder, hrequest, fun id => ⟨fun hid => ?_, ?_⟩, fun id hid => ?_,
    fun id other hid hother hsame => ?_⟩
  · refine ⟨_, hpushed hid, Address.ne_of_mem_escape, ?_⟩
    rw [unescape_escape (by decide), String.ofList_toList]
  · rintro ⟨segment, hsegment, -, hbytes⟩
    exact Address.retained_of_pushed hsegment hbytes
  · refine ⟨_, hrequest id, Address.target_append ?_ hquery⟩
    rw [hpushed hid]
  · rw [hrequest, hrequest, hpushed hid, hpushed hother] at hsame
    have hsegments : front ++ ["templates", escape .specialSegment id.toList] =
        front ++ ["templates", escape .specialSegment other.toList] :=
      Path.segments.inj (congrArg (·.address.path) (Except.ok.inj hsame))
    have hescape : escape .specialSegment id.toList = escape .specialSegment other.toList := by
      simpa using hsegments
    exact String.toList_injective (escape_injective (by decide) hescape)

/-- A backslash is not trimmed, and counts as a slash in the path. -/
example : (request { apiBaseUrl := "http://a/api\\" } (.template "b")).toOption.map
    (·.address.target) = some "/api//templates/b" := by decide +kernel

/-! ## A base with a path -/

/-- Settings whose base has a path. -/
def prefixed : Settings where
  apiBaseUrl := "http://a:8000/api/"

/-- The base of these settings. -/
def prefixedBase : Address where
  scheme := "http"
  authority := some { host := .name "a", port := some 8000 }
  path := .segments ["api", ""]

theorem ofText_prefixed : Address.ofText prefixed.apiBaseUrl = .ok prefixedBase := by
  have hread : (Address.ofText prefixed.apiBaseUrl).toOption = some prefixedBase := by
    decide +kernel
  cases h : Address.ofText prefixed.apiBaseUrl with
  | error reason =>
    rw [h] at hread
    cases hread
  | ok address =>
    rw [h] at hread
    exact congrArg Except.ok (Option.some.inj hread)

theorem last_of_prefixed : ∀ c ∈ prefixed.apiBaseUrl.toList.getLast?, 0x20 < c.toNat := by
  have hlast : prefixed.apiBaseUrl.toList.getLast? = some '/' := by decide
  rw [hlast]
  rintro c ⟨⟩
  decide

theorem front_of_prefixed {front : List String}
    (h : Address.ofText (prefixed.base ++ "/") =
      .ok { prefixedBase with path := .segments (front ++ [""]) }) : front = ["api"] := by
  have hbase : prefixed.base ++ "/" = prefixed.apiBaseUrl := by decide
  rw [hbase, ofText_prefixed] at h
  have hpath : ["api"] ++ [""] = front ++ [""] :=
    Path.segments.inj (congrArg Address.path (Except.ok.inj h))
  exact (List.append_cancel_right hpath).symm

/-- An id with slashes, dots and marks. -/
theorem template_of_marked_id :
    Address.ofText prefixed.apiBaseUrl = .ok prefixedBase ∧ Address.Retained "../b?x=1#y" ∧
      ∃ request, prefixed.request (.template "../b?x=1#y") = .ok request ∧
        request.address.target = "/api/templates/..%2Fb%3Fx=1%23y" := by
  have hchars : "../b?x=1#y".toList.all
      (fun c => decide (c ≠ '\t' ∧ c ≠ '\n' ∧ c ≠ '\r')) = true := by decide
  have hretained : Address.Retained "../b?x=1#y" :=
    ⟨fun c hc => of_decide_eq_true (List.all_eq_true.mp hchars c hc), by decide, by decide⟩
  obtain ⟨front, -, -, hfolder, -, -, htarget, -⟩ :=
    templates_apart ofText_prefixed last_of_prefixed (by decide) rfl rfl
  obtain rfl := front_of_prefixed hfolder
  obtain ⟨request, hrequest, htext⟩ := htarget _ hretained
  refine ⟨ofText_prefixed, hretained, request, hrequest, htext.trans ?_⟩
  decide +kernel

/-- Ids of dots lead away from the templates, and ids of which something is dropped share a request
with others. -/
theorem templates_of_lost_ids :
    (prefixed.request (.template ".") = prefixed.request (.template "..") ∧
      ∃ request, prefixed.request (.template ".") = .ok request ∧
        request.address.target = "/api/templates") ∧
    prefixed.request (.template "a\tb") = prefixed.request (.template "ab") ∧
    ∃ request, prefixed.request (.template ".\t.") = .ok request ∧
      request.address.target = "/api/" := by
  obtain ⟨front, -, -, hfolder, htemplates⟩ :=
    ofText_behind_base ofText_prefixed last_of_prefixed (by decide) rfl rfl
  obtain rfl := front_of_prefixed hfolder
  have hrequest := request_template htemplates (by decide)
  have hdots : Address.pushed ["templates"] "." = Address.pushed ["templates"] ".." := rfl
  have hdropped : Address.pushed ["templates"] "a\tb" = Address.pushed ["templates"] "ab" := by
    decide +kernel
  refine ⟨⟨?_, _, hrequest ".", by decide +kernel⟩, ?_, _, hrequest ".\t.", by decide +kernel⟩
  · rw [hrequest, hrequest, hdots]
  · rw [hrequest, hrequest, hdropped]

end Settings

end DiagramStudio
