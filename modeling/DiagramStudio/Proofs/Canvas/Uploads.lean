import DiagramStudio.Proofs.Canvas.Gestures
import Mathlib.Data.List.Induction

/-!
# Uploads live as long as the selection

An inspector is not told when the selection changes. It compares the epoch of the canvas with the
one that it saw last, and forgets the files that were uploaded if they differ. What makes this right
is that exactly the selection gestures count as epochs. So a key that was uploaded for one edge is
never found under another.

Results:
* `kept_act`: what an action does to the files that an inspector keeps.
* `Follows.concat`, `follows_run`: the files that an inspector keeps are those whose upload was the
  last that happened to their slot.
* `LastUpload.wiring?`: since that upload the same edge has been selected.
* `uploads_live_with_selection`: which files an inspector has when it follows the selection.
-/

namespace DiagramStudio

namespace Canvas

/-! ## What an action does to the files -/

/-- The file that an action puts into a slot, if it is an upload for that slot and succeeds. -/
def fills (slot : CertSlot) (state : Inspector × Canvas) (action : Action) : Option UploadedFile :=
  match action, reply state action with
  | .inspect (.uploadCert other file), .accepted true => if other = slot then some file else none
  | _, _ => none

/-- The file that an inspector keeps in a slot when it follows the selection. -/
def kept (slot : CertSlot) (state : Inspector × Canvas) : Option UploadedFile :=
  (state.1.sync state.2).uploads.get slot

end Canvas

namespace Inspector

/-- Whether a step follows the selection before it does anything else, or after. -/
def Step.syncs : Step → Bool
  | .setMode _ => false
  | _ => true

/-- Of a canvas, an inspector that follows the selection looks at nothing but the epoch. -/
theorem sync_congr (inspector : Inspector) {canvas other : Canvas}
    (h : canvas.epoch = other.epoch) : inspector.sync canvas = inspector.sync other := by
  rw [sync, sync, h]

theorem get_of_ne {inspector : Inspector} {canvas : Canvas} (h : inspector.epoch ≠ canvas.epoch)
    (slot : CertSlot) : (inspector.sync canvas).uploads.get slot = none := by
  rw [sync, if_neg h]
  cases slot <;> rfl

theorem uploads_sync_setMode (inspector : Inspector) (canvas : Canvas) (mode : CertMode) :
    ({ inspector with mode }.sync canvas).uploads = (inspector.sync canvas).uploads := by
  unfold sync
  split <;> rfl

end Inspector

namespace Canvas

theorem act_generateCert (state : Inspector × Canvas) :
    act state (.inspect .generateCert) =
      (state.1.sync state.2, (act state (.inspect .generateCert)).2) := by
  simp only [act, Inspector.step]
  split <;> rfl

/-- What becomes of an upload: it is put into its slot, or nothing but the following of the
selection happens. -/
theorem upload_cases (state : Inspector × Canvas) (slot : CertSlot) (file : UploadedFile) :
    let synced := state.1.sync state.2
    let upload := Action.inspect (.uploadCert slot file)
    (Inspector.tlsEdge? state.2).isSome = true ∧ reply state upload = .accepted true ∧
        act state upload = ({ synced with uploads := synced.uploads.put file slot }, state.2) ∨
      reply state upload = .accepted false ∧ act state upload = (synced, state.2) := by
  intro synced upload
  simp only [upload, reply, act, Inspector.step]
  split
  case isTrue h =>
    simp only [Bool.and_eq_true, decide_eq_true_eq] at h
    exact .inl ⟨h.2, rfl, rfl⟩
  case isFalse => exact .inr ⟨rfl, rfl⟩

/-- An inspector that has followed the selection knows the epoch of the canvas. -/
theorem epoch_act_of_syncs (state : Inspector × Canvas) {step : Inspector.Step}
    (h : step.syncs = true) :
    (act state (.inspect step)).1.epoch = (act state (.inspect step)).2.epoch := by
  have hepoch := epoch_act state (.inspect step)
  cases step with
  | sync | edit _ | uploadIcon _ _ => exact (Inspector.epoch_sync _ _).trans hepoch.symm
  | setMode mode => cases h
  | uploadCert slot file =>
    obtain ⟨-, -, hact⟩ | ⟨-, hact⟩ := upload_cases state slot file
    · rw [hact]
      exact Inspector.epoch_sync _ _
    · rw [hact]
      exact Inspector.epoch_sync _ _
  | generateCert =>
    rw [act_generateCert]
    exact (Inspector.epoch_sync _ _).trans hepoch.symm
  | close | delete => exact Inspector.epoch_sync _ _

/-- A step that follows the selection leaves the inspector with nothing but what it keeps. -/
theorem kept_act_of_syncs (state : Inspector × Canvas) {step : Inspector.Step}
    (h : step.syncs = true) (slot : CertSlot) :
    kept slot (act state (.inspect step)) =
      (act state (.inspect step)).1.uploads.get slot := by
  rw [kept, Inspector.sync, if_pos (epoch_act_of_syncs state h)]

theorem kept_synced (inspector : Inspector) {canvas after : Canvas}
    (h : after.epoch = canvas.epoch) (slot : CertSlot) :
    kept slot (inspector.sync canvas, after) = kept slot (inspector, after) := by
  simp only [kept, Inspector.sync_congr _ h, Inspector.sync_sync]

theorem fills_eq_some_iff {slot : CertSlot} {file : UploadedFile} {state : Inspector × Canvas}
    {action : Action} :
    fills slot state action = some file ↔
      action = .inspect (.uploadCert slot file) ∧ reply state action = .accepted true := by
  unfold fills
  split
  case h_1 other picked haccepted =>
    simp only [Option.ite_none_right_eq_some, Option.some.injEq, Action.inspect.injEq,
      Inspector.Step.uploadCert.injEq, haccepted, and_true]
  case h_2 hother =>
    constructor
    · intro h
      cases h
    · rintro ⟨rfl, haccepted⟩
      exact absurd haccepted (hother slot file rfl)

theorem selects_of_fills {slot : CertSlot} {file : UploadedFile} {state : Inspector × Canvas}
    {action : Action} (h : fills slot state action = some file) : selects state action = false := by
  obtain ⟨rfl, -⟩ := fills_eq_some_iff.mp h
  rfl

/-- An upload that succeeds fills its slot. -/
theorem kept_act_of_fills {slot : CertSlot} {file : UploadedFile} {state : Inspector × Canvas}
    {action : Action} (h : fills slot state action = some file) :
    kept slot (act state action) = some file := by
  obtain ⟨rfl, haccepted⟩ := fills_eq_some_iff.mp h
  rw [kept_act_of_syncs state rfl]
  obtain ⟨-, -, hact⟩ | ⟨hrefused, -⟩ := upload_cases state slot file
  · rw [hact, Uploads.get_put, if_pos rfl]
  · rw [hrefused] at haccepted
    cases haccepted

/-- Unless it fills a slot, an action does to it what the following of the selection does. -/
theorem kept_act_of_not_fills {slot : CertSlot} {state : Inspector × Canvas} {action : Action}
    (h : fills slot state action = none) :
    kept slot (act state action) = kept slot (state.1, (act state action).2) := by
  have hepoch := epoch_act state action
  cases action with
  | gesture step => rfl
  | inspect step =>
    cases step with
    | sync | edit _ | uploadIcon _ _ => exact kept_synced _ hepoch slot
    | setMode mode =>
      exact congrArg (·.get slot) (Inspector.uploads_sync_setMode state.1 state.2 mode)
    | uploadCert other file =>
      obtain ⟨-, haccepted, hact⟩ | ⟨-, hact⟩ := upload_cases state other file
      · -- The file was put into another slot.
        have hslot : other ≠ slot := by
          rintro rfl
          rw [fills_eq_some_iff.mpr ⟨rfl, haccepted⟩] at h
          cases h
        rw [kept_act_of_syncs state rfl, hact, Uploads.get_put, if_neg hslot.symm]
        rfl
      · rw [hact]
        exact kept_synced _ rfl slot
    | generateCert =>
      rw [act_generateCert]
      exact kept_synced _ hepoch slot
    | close | delete => exact kept_synced _ rfl slot

/-- A selection gesture clears the slots of an inspector that has not seen its epoch before; an
upload that succeeds fills its slot; nothing else changes what an inspector keeps. -/
theorem kept_act {state : Inspector × Canvas} {action : Action}
    (hunseen : selects state action = true → state.1.epoch ≠ state.2.epoch + 1) (slot : CertSlot) :
    kept slot (act state action) =
      if selects state action then none else fills slot state action <|> kept slot state := by
  have hepoch := epoch_act state action
  cases hfills : fills slot state action with
  | some file =>
    rw [kept_act_of_fills hfills, selects_of_fills hfills]
    rfl
  | none =>
    rw [kept_act_of_not_fills hfills]
    by_cases hselects : selects state action = true
    · rw [if_pos hselects] at hepoch ⊢
      apply Inspector.get_of_ne
      rw [hepoch]
      exact hunseen hselects
    · rw [if_neg hselects] at hepoch ⊢
      show ((state.1.sync _).uploads.get slot) = kept slot state
      rw [Inspector.sync_congr _ hepoch]
      rfl

/-! ## Runs -/

/-- Whether an upload was the last that happened to its slot in a run: it succeeded, and since then
there was no selection gesture and no other upload for the slot that succeeded. -/
structure LastUpload (start : Inspector × Canvas) (slot : CertSlot) (file : UploadedFile)
    (before since : List Action) : Prop where
  accepted : reply (run start before) (.inspect (.uploadCert slot file)) = .accepted true
  since : ∀ moment ∈ history (run start (before ++ [.inspect (.uploadCert slot file)])) since,
    selects moment.1 moment.2 = false ∧ fills slot moment.1 moment.2 = none

/-- Whether the upload of a file was the last that happened to a slot in a run. -/
def Lasting (start : Inspector × Canvas) (actions : List Action) (slot : CertSlot)
    (file : UploadedFile) : Prop :=
  ∃ before since, actions = before ++ .inspect (.uploadCert slot file) :: since ∧
    LastUpload start slot file before since

variable {start : Inspector × Canvas} {actions : List Action}

/-- The last that happened to a slot is the last action of the run, or it was the last before and
that action lets it be. -/
theorem lasting_concat_iff {action : Action} {slot : CertSlot} {file : UploadedFile} :
    Lasting start (actions ++ [action]) slot file ↔
      fills slot (run start actions) action = some file ∨
      selects (run start actions) action = false ∧ fills slot (run start actions) action = none ∧
        Lasting start actions slot file := by
  constructor
  · rintro ⟨before, since, hwhole, hlast⟩
    -- Either the upload is the last action of the run, or that action came after it.
    obtain rfl | ⟨earlier, last, rfl⟩ := List.eq_nil_or_concat since
    · obtain ⟨rfl, haction⟩ := List.append_inj' hwhole rfl
      cases haction
      exact .inl (fills_eq_some_iff.mpr ⟨rfl, hlast.accepted⟩)
    · have hsplit : actions ++ [action] =
          (before ++ .inspect (.uploadCert slot file) :: earlier) ++ [last] := by
        simpa using hwhole
      obtain ⟨rfl, haction⟩ := List.append_inj' hsplit rfl
      cases haction
      have hsince := hlast.since
      rw [List.concat_eq_append, history_concat, ← run_append, List.append_assoc,
        List.singleton_append] at hsince
      obtain ⟨hselects, hfills⟩ := hsince _ (List.mem_append_right _ (List.mem_singleton_self _))
      refine .inr ⟨hselects, hfills, before, earlier, rfl, hlast.accepted, ?_⟩
      exact fun moment hmoment => hsince moment (List.mem_append_left _ hmoment)
  · rintro (hfills | ⟨hselects, hfills, before, since, rfl, hlast⟩)
    · obtain ⟨rfl, haccepted⟩ := fills_eq_some_iff.mp hfills
      exact ⟨actions, [], rfl, haccepted, fun moment hmoment => nomatch hmoment⟩
    · refine ⟨before, since ++ [action], by simp, hlast.accepted, ?_⟩
      intro moment hmoment
      rw [history_concat, ← run_append, List.append_assoc, List.singleton_append] at hmoment
      obtain hmoment | hmoment := List.mem_append.mp hmoment
      · exact hlast.since moment hmoment
      · obtain rfl := List.mem_singleton.mp hmoment
        exact ⟨hselects, hfills⟩

/-- How an inspector and a canvas are after a run with selection gestures fewer than an epoch can
count. -/
structure Follows (start : Inspector × Canvas) (actions : List Action) : Prop where
  /-- The epoch is the number of selection gestures. -/
  counted : (run start actions).2.epoch.toNat = selections start actions
  /-- The inspector has not seen an epoch that is still to come. -/
  behind : (run start actions).1.epoch.toNat ≤ selections start actions
  /-- The files that are kept are those whose upload was the last that happened to their slot. -/
  kept : ∀ slot file, kept slot (run start actions) = some file ↔ Lasting start actions slot file

theorem epoch_inspector_act (state : Inspector × Canvas) (action : Action) :
    (act state action).1.epoch = state.1.epoch ∨
      (act state action).1.epoch = (act state action).2.epoch := by
  cases action with
  | gesture step => exact .inl rfl
  | inspect step =>
    by_cases hsyncs : step.syncs = true
    · exact .inr (epoch_act_of_syncs state hsyncs)
    · cases step with
      | setMode mode => exact .inl rfl
      | _ => exact absurd rfl hsyncs

/-- What one more action preserves. -/
theorem Follows.concat (h : Follows start actions) {action : Action}
    (hroom : selections start (actions ++ [action]) < UInt64.size) :
    Follows start (actions ++ [action]) := by
  have hepoch := epoch_act (run start actions) action
  have hsucc : selects (run start actions) action = true →
      ((run start actions).2.epoch + 1).toNat = selections start actions + 1 := by
    intro hselects
    rw [selections_concat, if_pos hselects, ← h.counted] at hroom
    rw [toNat_succ_of_lt hroom, h.counted]
  have hcounted : (act (run start actions) action).2.epoch.toNat =
      selections start (actions ++ [action]) := by
    rw [hepoch, selections_concat]
    split
    case isTrue hselects => exact hsucc hselects
    case isFalse => exact h.counted
  refine ⟨?counted, ?behind, ?kept⟩
  case counted =>
    rw [run_concat]
    exact hcounted
  case behind =>
    rw [run_concat]
    obtain hsame | hsynced := epoch_inspector_act (run start actions) action
    · rw [hsame, selections_concat]
      exact Nat.le_add_right_of_le h.behind
    · rw [hsynced]
      exact hcounted.le
  case kept =>
    intro slot file
    have hunseen : selects (run start actions) action = true →
        (run start actions).1.epoch ≠ (run start actions).2.epoch + 1 := by
      -- This is where the bound is needed: an epoch that comes again would look as if it was seen.
      intro hselects hseen
      have hbehind := h.behind
      rw [hseen, hsucc hselects] at hbehind
      exact Nat.not_succ_le_self _ hbehind
    rw [run_concat, kept_act hunseen, lasting_concat_iff, ← h.kept]
    cases hfills : fills slot (run start actions) action with
    | some latest => simp [selects_of_fills hfills]
    | none => cases selects (run start actions) action <;> simp

/-- What every run preserves, by induction on its end: the gestures of a part are no more than those
of the whole. -/
theorem follows_run (graph : Graph) (actions : List Action)
    (hroom : selections ({}, ofGraph graph) actions < UInt64.size) :
    Follows ({}, ofGraph graph) actions := by
  induction actions using List.reverseRecOn with
  | nil =>
    refine ⟨rfl, Nat.le_refl _, fun slot file => ?_⟩
    constructor
    · intro hkept
      cases slot <;> cases hkept
    · rintro ⟨before, since, hnil, -⟩
      exact absurd hnil (List.append_ne_nil_of_right_ne_nil before (List.cons_ne_nil _ _)).symm
  | append_singleton actions action ih =>
    have hless : selections ({}, ofGraph graph) actions < UInt64.size := by
      rw [selections_concat] at hroom
      exact Nat.lt_of_le_of_lt (Nat.le_add_right _ _) hroom
    exact (ih hless).concat hroom

/-! ## The edge of an upload -/

theorem exists_wiring_of_tlsEdge? {canvas : Canvas}
    (h : (Inspector.tlsEdge? canvas).isSome = true) :
    ∃ wiring, canvas.wiring? = some wiring := by
  unfold Inspector.tlsEdge? at h
  split at h
  case h_1 edge hselected =>
    refine ⟨edge.wiring, ?_⟩
    rw [wiring?, hselected]
  case h_2 => cases h

/-- Since the last upload for a slot the same edge has been selected. -/
theorem LastUpload.wiring? {slot : CertSlot} {file : UploadedFile} {before since : List Action}
    (h : LastUpload start slot file before since) :
    ∃ wiring, ∀ reached, before <+: reached →
      reached <+: before ++ .inspect (.uploadCert slot file) :: since →
      (run start reached).2.wiring? = some wiring := by
  obtain ⟨htls, -, hact⟩ | ⟨hrefused, -⟩ := upload_cases (run start before) slot file
  · obtain ⟨wiring, hwiring⟩ := exists_wiring_of_tlsEdge? htls
    refine ⟨wiring, ?_⟩
    rintro _ ⟨passed, rfl⟩ hreached
    rw [List.prefix_append_right_inj] at hreached
    -- The upload itself selects nothing, so that it may be counted among what came since.
    obtain rfl | ⟨later, rfl, hlater⟩ := List.prefix_cons_iff.mp hreached
    · rwa [List.append_nil]
    · obtain ⟨rest, rfl⟩ := hlater
      have hunselected : ∀ moment ∈
          history (run start (before ++ [.inspect (.uploadCert slot file)])) later,
          selects moment.1 moment.2 = false := by
        intro moment hmoment
        apply (h.since moment _).1
        rw [history_append]
        exact List.mem_append_left _ hmoment
      rw [List.append_cons, run_append]
      apply wiring?_run hunselected
      rw [run_concat, hact]
      exact hwiring
  · have haccepted := h.accepted
    rw [hrefused] at haccepted
    cases haccepted

/-- **Uploads live as long as the selection.** Whatever is done on the canvas of any graph and in
its inspector, with fewer selection gestures than an epoch can count: once the inspector follows
the selection, a file is in a slot exactly if its upload was the last that happened to that slot,
with no selection gesture since. At every moment from that upload on, the edge that was selected
then is selected, with the nodes that it had. -/
theorem uploads_live_with_selection (graph : Graph) (actions : List Action)
    (last : Inspector.Step) (hsyncs : last.syncs = true)
    (hroom : selections ({}, ofGraph graph) (actions ++ [.inspect last]) < UInt64.size) :
    let start : Inspector × Canvas := ({}, ofGraph graph)
    let whole := actions ++ [.inspect last]
    (∀ slot file, (run start whole).1.uploads.get slot = some file ↔
      ∃ before since, whole = before ++ .inspect (.uploadCert slot file) :: since ∧
        LastUpload start slot file before since) ∧
    ∀ slot file before since, whole = before ++ .inspect (.uploadCert slot file) :: since →
      LastUpload start slot file before since →
      ∃ wiring, ∀ reached, before <+: reached → reached <+: whole →
        (run start reached).2.wiring? = some wiring := by
  intro start whole
  refine ⟨fun slot file => ?_, fun slot file before since hwhole hlast => ?_⟩
  · have hkept : kept slot (run start whole) = (run start whole).1.uploads.get slot := by
      rw [run_concat]
      exact kept_act_of_syncs _ hsyncs slot
    rw [← hkept]
    exact (follows_run graph whole hroom).kept slot file
  · rw [hwhole]
    exact hlast.wiring?

/-- The same edge is clicked again between two uploads. -/
theorem uploads_after_second_click :
    let graph : Graph := .ofDiagram ⟨[⟨"a", .custom, .origin, {}, none⟩],
      [⟨"e", "a", "a", none, none, Edge.drawnType, { tls := true }⟩]⟩
    let file : UploadedFile := ⟨"server.crt", [1]⟩
    let before : List Action := [.gesture (.clickEdge "e"),
      .inspect (.uploadCert .key ⟨"server.key", [2]⟩), .gesture (.clickEdge "e")]
    let since : List Action := [.inspect (.edit (.tls false)), .inspect (.setMode .generate)]
    let whole := before ++ .inspect (.uploadCert .server file) :: since ++ [.inspect .sync]
    let uploads := (run ({}, ofGraph graph) whole).1.uploads
    uploads.get .server = some file ∧ uploads.get .key = none ∧
      (run ({}, ofGraph graph) whole).2.wiring? = some ("e", "a", "a") := by
  intro graph file before since whole uploads
  have hroom : selections ({}, ofGraph graph) whole < UInt64.size := by decide +kernel
  obtain ⟨hkept, hedge⟩ := uploads_live_with_selection graph
    (before ++ .inspect (.uploadCert .server file) :: since) .sync rfl hroom
  have hlast : LastUpload ({}, ofGraph graph) .server file before (since ++ [.inspect .sync]) :=
    ⟨by decide +kernel, by decide +kernel⟩
  refine ⟨(hkept .server file).mpr ⟨before, _, rfl, hlast⟩, by decide +kernel, ?_⟩
  obtain ⟨wiring, hwiring⟩ := hedge .server file before _ rfl hlast
  have hthen : (run ({}, ofGraph graph) before).2.wiring? = some ("e", "a", "a") := by
    decide +kernel
  rw [hwiring before (List.prefix_refl _) (List.prefix_append _ _)] at hthen
  rw [← hthen]
  exact hwiring whole (List.prefix_append _ _) (List.prefix_refl _)

end Canvas

end DiagramStudio
