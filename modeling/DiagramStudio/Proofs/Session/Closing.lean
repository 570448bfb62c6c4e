import DiagramStudio.Proofs.Session.Exporting
import DiagramStudio.Proofs.Session.Reservation

/-!
# Closing is final

Requests outlive the editor that they were made for. Each of them asks in its own way whether the
editor was closed, at whatever stage it is: when a load is reserved, when a result comes in, when an
export starts or ends, when either is dropped. Once an editor is shut, which is to be closed with no
load at the gate, none of them does more to it than to lower the flag of an export that ends.

Results:
* `shut_step`, `shut_run`: an editor that is shut stays so, whatever is done.
* `editor_of_request`, `editor_of_requests`: a request, and so a run of requests, leaves a shut
  editor as it is, but that the flag of an export may be lowered.
* `closing_is_final`: after the editor was closed, requests change nothing and are discarded.
-/

namespace DiagramStudio

namespace Editor

/-! ## A closed editor -/

variable {editor : Editor} (hclosed : editor.closed = true)

include hclosed in
theorem beginLoad_of_closed : editor.beginLoad = (editor, .error .discarded) := by
  rw [beginLoad, if_pos hclosed]

include hclosed in
/-- A closed editor discards the result of a load, whether or not the load holds the gate. -/
theorem finishLoad_of_closed (ticket : UInt64) (request : LoadRequest)
    (outcome : Except ServiceError Diagram) :
    editor.finishLoad ticket request outcome = (editor, .error .discarded) := by
  rw [finishLoad]
  cases editor.pending with
  | none => rfl
  | some pending => simp [hclosed]

theorem abandonLoad_of_free (hfree : editor.pending = none) (ticket : UInt64) :
    editor.abandonLoad ticket = editor := by
  simp [abandonLoad, hfree]

include hclosed in
theorem beginExport_of_closed : editor.beginExport = (editor, .error .discarded) := by
  rw [beginExport, if_pos hclosed]

include hclosed in
/-- The end of an export lowers the flag also in a closed editor, and tells nobody. -/
theorem finishExport_of_closed (outcome : Except ServiceError CodegenResponse) :
    editor.finishExport outcome = (editor.abandonExport, .error .discarded) := by
  simp [finishExport, hclosed, abandonExport]

end Editor

namespace Session

variable {session next : Session} {step : Step} {answer : Answer}

/-! ## Shut for good -/

/-- Whether the editor, unless it was dropped, is closed with no load at the gate. -/
def Shut (session : Session) : Prop :=
  ∀ gate, session.gate? = some gate → gate.closed = true ∧ gate.pending = none

theorem Shut.editor (h : session.Shut) {editor : Editor} (heditor : session.editor = some editor) :
    editor.closed = true ∧ editor.pending = none :=
  h editor.gate (by rw [gate?, heditor, Option.map_some])

theorem shut_close (session : Session) : (session.step (.editor .close)).1.Shut := by
  intro gate hgate
  simp only [Session.step] at hgate
  cases heditor : session.editor with
  | none =>
    rw [heditor] at hgate
    simp [gate?, heditor] at hgate
  | some editor =>
    rw [heditor] at hgate
    cases hgate
    exact ⟨rfl, rfl⟩

/-- No effect opens a gate that is shut, or gives it to a load. -/
theorem Shut.effect (h : session.Shut) (heffect : Effect session next step answer) : next.Shut := by
  intro after hafter
  cases heffect with
  | issue _ gate hbefore hopen _ _ _ =>
    rw [(h gate hbefore).1] at hopen
    cases hopen
  | finish ticket outcome _ _ _ hgate _ =>
    rw [hgate, Option.map_eq_some_iff] at hafter
    obtain ⟨gate, hbefore, rfl⟩ := hafter
    rw [Gate.finished, if_pos (h gate hbefore).1]
    exact h gate hbefore
  | abandon ticket hgate _ =>
    rw [hgate, Option.map_eq_some_iff] at hafter
    obtain ⟨gate, hbefore, rfl⟩ := hafter
    have hnot : ¬ gate.heldBy ticket = true := by
      rw [Gate.heldBy_iff, (h gate hbefore).2]
      rintro ⟨_, hheld, -⟩
      cases hheld
    rw [Gate.abandoned, if_neg hnot]
    exact h gate hbefore
  | edit step _ gate hbefore hnext _ =>
    rw [hnext] at hafter
    cases hafter
    obtain ⟨hclosed, hfree⟩ := h gate hbefore
    unfold Gate.after
    split
    · exact ⟨rfl, rfl⟩
    · exact ⟨hclosed, rfl⟩
    · exact ⟨hclosed, hfree⟩
    · exact ⟨hclosed, hfree⟩
  | leave hgone _ =>
    rw [hgone] at hafter
    cases hafter
  | keep _ _ _ _ _ hsame _ => exact h after (hsame ▸ hafter)

theorem shut_step (h : session.Shut) (step : Step) : (session.step step).1.Shut :=
  h.effect (step_effect session step)

theorem shut_run (h : session.Shut) (steps : List Step) : (session.run steps).Shut := by
  induction steps generalizing session with
  | nil => exact h
  | cons step steps ih => exact ih (shut_step h step)

/-- Once the editor was closed, it is shut at every later time. -/
theorem shut_of_closed {steps : List Step} (h : .editor .close ∈ steps) (session : Session) :
    (session.run steps).Shut := by
  obtain ⟨earlier, later, rfl⟩ := List.append_of_mem h
  rw [run_append, run_cons]
  exact shut_run (shut_close _) later

/-! ## Requests -/

/-- Whether a step is taken for a request to the services, from outside the editor. -/
def Step.isRequest : Step → Bool
  | .drop => false
  | .editor _ => false
  | _ => true

/-- What comes of an editor in which nothing changes, but that the flag of an export may be
lowered. -/
def Lowered (editor : Editor) (after : Option Editor) : Prop :=
  after = some editor ∨ after = some editor.abandonExport

variable {editor : Editor}

theorem Lowered.trans {between : Editor} {after : Option Editor}
    (h : Lowered editor (some between)) (hafter : Lowered between after) :
    Lowered editor after := by
  obtain hsame | hlowered := h
  · cases hsame
    exact hafter
  · cases hlowered
    obtain rfl | rfl := hafter
    · exact .inr rfl
    · exact .inr rfl

/-- A request leaves a shut editor as it is, but that the flag of an export may be lowered. -/
theorem editor_of_request (h : session.Shut) (heditor : session.editor = some editor)
    (hrequest : step.isRequest = true) : Lowered editor (session.step step).1.editor := by
  obtain ⟨hclosed, hfree⟩ := h.editor heditor
  cases step with
  | reserve request =>
    simp only [Session.step, reserve, withEditor, heditor, Editor.beginLoad_of_closed hclosed]
    exact .inl rfl
  | startLoad ticket =>
    simp only [Session.step, startLoad]
    split <;> exact .inl heditor
  | finishLoad ticket outcome =>
    simp only [Session.step]
    cases hload : session.load? ticket with
    | none =>
      simp only [finishLoad, hload]
      exact .inl heditor
    | some load =>
      rw [finishLoad_editor hload heditor, Editor.finishLoad_of_closed hclosed]
      exact .inl rfl
  | dropLoad ticket =>
    simp only [Session.step, dropLoad]
    split
    · exact .inl heditor
    · refine .inl ?_
      simp only [withoutLoad, heditor, Option.map_some, Editor.abandonLoad_of_free hfree]
  | makeExport => exact .inl heditor
  | startExport key =>
    simp only [Session.step, startExport]
    split
    · exact .inl heditor
    · exact .inl heditor
    · simp only [withEditor, heditor, Editor.beginExport_of_closed hclosed]
      exact .inl rfl
  | finishExport key outcome =>
    simp only [Session.step, finishExport]
    split
    · have hthere : (session.withoutExport key).editor = some editor := heditor
      simp only [withEditor, hthere, Editor.finishExport_of_closed hclosed]
      exact .inr rfl
    · exact .inl heditor
  | dropExport key =>
    simp only [Session.step, dropExport]
    split
    · exact .inl heditor
    · exact .inl heditor
    · refine .inr ?_
      simp only [withoutExport, heditor, Option.map_some]
  | drop | editor _ => cases hrequest

/-- A run of requests leaves a shut editor as it is, but that the flag of an export may be
lowered. -/
theorem editor_of_requests (h : session.Shut) (heditor : session.editor = some editor)
    {steps : List Step} (hrequests : ∀ step ∈ steps, step.isRequest = true) :
    Lowered editor (session.run steps).editor := by
  induction steps generalizing session editor with
  | nil => exact .inl heditor
  | cons step steps ih =>
    rw [List.forall_mem_cons] at hrequests
    have hone := editor_of_request h heditor hrequests.1
    obtain ⟨between, hbetween⟩ : ∃ between, (session.step step).1.editor = some between := by
      rcases hone with hsame | hlowered
      · exact ⟨_, hsame⟩
      · exact ⟨_, hlowered⟩
    rw [hbetween] at hone
    exact hone.trans (ih (shut_step h step) hbetween hrequests.2)

/-! ## Discarded requests -/

/-- What closed editors discard, a shut session discards, also when its editor was dropped. -/
theorem Shut.discards {α : Type} {act : Editor → Editor × Except ServiceError α} (h : session.Shut)
    (hact : ∀ editor : Editor, editor.closed = true → (act editor).2 = .error .discarded) :
    ∃ next, session.withEditor act = (next, .error .discarded) := by
  unfold withEditor
  cases heditor : session.editor with
  | none => exact ⟨session, rfl⟩
  | some editor => exact ⟨_, congrArg (Prod.mk _) (hact editor (h.editor heditor).1)⟩

theorem reserve_of_shut (h : session.Shut) (request : LoadRequest) :
    (session.step (.reserve request)).2 = .failed .discarded := by
  obtain ⟨next, hnext⟩ := h.discards fun editor hclosed =>
    congrArg Prod.snd (Editor.beginLoad_of_closed hclosed)
  simp only [Session.step, reserve, hnext]

theorem finishLoad_of_shut (h : session.Shut) {load : Load} (hload : load ∈ session.loads)
    (outcome : Except ServiceError Diagram) :
    (session.step (.finishLoad load.ticket outcome)).2 = .failed .discarded := by
  obtain ⟨found, hfound⟩ := load?_of_mem_carried (List.mem_map_of_mem hload)
  have hrest : (session.withoutLoad load.ticket).Shut := h
  obtain ⟨next, hnext⟩ := hrest.discards fun editor hclosed =>
    congrArg Prod.snd (Editor.finishLoad_of_closed hclosed load.ticket found.request outcome)
  simp only [Session.step, finishLoad, hfound, hnext]

theorem startExport_of_shut (h : session.Shut) {key : Nat}
    (hfound : session.export? key = some { key }) :
    (session.step (.startExport key)).2 = .failed .discarded := by
  obtain ⟨next, hnext⟩ := h.discards fun editor hclosed =>
    congrArg Prod.snd (Editor.beginExport_of_closed hclosed)
  simp only [Session.step, startExport, hfound, hnext]

theorem finishExport_of_shut (h : session.Shut) {key : Nat} {request : CodegenRequest}
    (hfound : session.export? key = some { key, request })
    (outcome : Except ServiceError CodegenResponse) :
    (session.step (.finishExport key outcome)).2 = .failed .discarded := by
  have hrest : (session.withoutExport key).Shut := h
  obtain ⟨next, hnext⟩ := hrest.discards fun editor hclosed =>
    congrArg Prod.snd (Editor.finishExport_of_closed hclosed outcome)
  simp only [Session.step, finishExport, hfound, hnext]

/-- **Closing is final.** Take any state of a session after its editor was closed, and any requests
from then on, whether they were made before or after, with whatever results. The editor stays closed
and not busy, and nothing in it changes but the flag of an export, which can be lowered and not be
raised. Every load that is asked for is discarded, and so is every load and every export that is
under way, at whatever stage it is, when it ends or starts. -/
theorem closing_is_final (name : String) (kind : ProjectKind) {before : List Step}
    (hclosed : .editor .close ∈ before) {requests : List Step}
    (hrequests : ∀ step ∈ requests, step.isRequest = true) :
    let closing := (new name kind).run before
    let session := closing.run requests
    (∀ editor, closing.editor = some editor →
      editor.closed = true ∧ editor.isBusy = false ∧
        (session.editor = some editor ∨
          session.editor = some { editor with exporting := false })) ∧
      (∀ request, (session.step (.reserve request)).2 = .failed .discarded) ∧
      (∀ load ∈ session.loads, ∀ outcome,
        (session.step (.finishLoad load.ticket outcome)).2 = .failed .discarded) ∧
      ∀ e ∈ session.exports,
        (e.request = none → (session.step (.startExport e.key)).2 = .failed .discarded) ∧
          (e.request ≠ none → ∀ outcome,
            (session.step (.finishExport e.key outcome)).2 = .failed .discarded) := by
  intro closing session
  have hshut : closing.Shut := shut_of_closed hclosed _
  have hafter : session.Shut := shut_run hshut requests
  have htracked : session.Tracked ((new name kind).underWay (before ++ requests)) := by
    have hsession : session = (new name kind).run (before ++ requests) := (run_append _ _ _).symm
    rw [hsession]
    exact tracked_run name kind (before ++ requests)
  refine ⟨fun editor heditor => ?_, reserve_of_shut hafter, fun load => finishLoad_of_shut hafter,
    fun e he => ⟨fun hunstarted => ?_, fun hstarted outcome => ?_⟩⟩
  · obtain ⟨heditorClosed, hfree⟩ := hshut.editor heditor
    exact ⟨heditorClosed, by rw [Editor.isBusy, hfree, Option.isSome_none],
      editor_of_requests hshut heditor hrequests⟩
  · have hfound := find?_of_mem htracked.distinct he
    obtain ⟨key, request⟩ := e
    obtain rfl : request = none := hunstarted
    exact startExport_of_shut hafter hfound
  · have hfound := find?_of_mem htracked.distinct he
    obtain ⟨key, request⟩ := e
    obtain ⟨request, rfl⟩ := Option.ne_none_iff_exists'.mp hstarted
    exact finishExport_of_shut hafter hfound outcome

/-- A load and two exports are under way when the editor is closed; one of the exports runs. -/
theorem requests_after_closing :
    let before := [Step.reserve (.template "shop"), .startLoad 0, .makeExport, .startExport 0,
      .makeExport, .editor .close]
    let session := ((new "Demo" .web).run before).run [.finishExport 0 (.ok ⟨"out", none⟩)]
    (∀ editor, session.editor = some editor → editor.closed = true ∧ editor.notices = []) ∧
      (session.step (.finishLoad 0 (.ok ⟨[], []⟩))).2 = .failed .discarded ∧
      (session.step (.startExport 1)).2 = .failed .discarded := by
  intro before session
  have hclosed : .editor .close ∈ before := by simp [before]
  have hrequests : ∀ step ∈ [Step.finishExport 0 (.ok ⟨"out", none⟩)], step.isRequest = true := by
    simp [Step.isRequest]
  obtain ⟨heditor, -, hloads, hexports⟩ := closing_is_final "Demo" .web hclosed hrequests
  refine ⟨fun editor hthere => ?_, ?_, ?_⟩
  · obtain hsame | hlowered := (heditor _ rfl).2.2
    · cases hthere.symm.trans hsame
      exact ⟨rfl, rfl⟩
    · cases hthere.symm.trans hlowered
      exact ⟨rfl, rfl⟩
  · exact hloads ⟨0, .template "shop", true⟩ List.mem_cons_self _
  · exact (hexports ⟨1, none⟩ List.mem_cons_self).1 rfl

end Session

end DiagramStudio
