import DiagramStudio.Proofs.Keyed
import DiagramStudio.Proofs.Session.Effect
import DiagramStudio.Proofs.Session.Exporting

/-!
# Exports do not interfere

Two runs of a session are compared, one with its exports and one from which every step of an export
was erased. They agree on everything but the exports themselves and the notices: what is left of a
session is its quiet part. A step of an export does not touch the quiet part, and every other step
makes the next quiet part out of the present one alone.

Results:
* `quiet_of_isExport`: a step of an export leaves the quiet part as it is.
* `blind_step`: what another step does to the quiet part, and what it answers, depends on the quiet
  part alone.
* `submitted?_run`: a request that was submitted stays as it is until its export ends.
* `exports_do_not_interfere`: erasing the exports of a run changes nothing else, and each export
  submits the diagram and the name as they were when it started.
-/

namespace DiagramStudio

/-! ## Blind actions -/

section Blind

variable {σ α : Type} {quiet : σ → σ}

/-- An action is blind if the quiet part of the next state, and the answer, depend on the quiet part
of the state alone. -/
def Blind (quiet : σ → σ) (act : σ → σ × α) : Prop :=
  ∀ state, quiet (act (quiet state)).1 = quiet (act state).1 ∧ (act (quiet state)).2 = (act state).2

/-- States with the same quiet part cannot be told apart by a blind action. -/
theorem Blind.congr {act : σ → σ × α} (h : Blind quiet act) {one other : σ}
    (hsame : quiet one = quiet other) :
    quiet (act one).1 = quiet (act other).1 ∧ (act one).2 = (act other).2 := by
  rw [← (h one).1, ← (h one).2, hsame]
  exact h other

end Blind

/-! ## Editors -/

namespace Editor

/-- The editor but for the flag of the exports and the notices. -/
def quiet (editor : Editor) : Editor :=
  { editor with exporting := false, notices := [], nextNotice := 0 }

@[simp] theorem quiet_quiet (editor : Editor) : editor.quiet.quiet = editor.quiet := rfl

@[simp] theorem canvas_quiet (editor : Editor) : editor.quiet.canvas = editor.canvas := rfl

@[simp] theorem pending_quiet (editor : Editor) : editor.quiet.pending = editor.pending := rfl

@[simp] theorem closed_quiet (editor : Editor) : editor.quiet.closed = editor.closed := rfl

theorem blind_beginLoad : Blind quiet beginLoad := by
  intro editor
  rw [beginLoad, beginLoad, isBusy, isBusy, closed_quiet, pending_quiet]
  split_ifs <;> exact ⟨rfl, rfl⟩

theorem blind_finishLoad (ticket : UInt64) (request : LoadRequest)
    (outcome : Except ServiceError Diagram) :
    Blind quiet (·.finishLoad ticket request outcome) := by
  intro editor
  simp only [finishLoad]
  rw [pending_quiet, canvas_quiet, closed_quiet]
  cases editor.pending with
  | none => exact ⟨rfl, rfl⟩
  | some pending =>
    simp only
    split_ifs
    · cases outcome <;> exact ⟨rfl, rfl⟩
    · exact ⟨rfl, rfl⟩
    · exact ⟨rfl, rfl⟩

theorem quiet_abandonLoad (editor : Editor) (ticket : UInt64) :
    (editor.quiet.abandonLoad ticket).quiet = (editor.abandonLoad ticket).quiet := by
  rw [abandonLoad, abandonLoad, pending_quiet]
  split_ifs <;> rfl

theorem quiet_beginExport (editor : Editor) : editor.beginExport.1.quiet = editor.quiet := by
  unfold beginExport
  split
  · rfl
  · split <;> rfl

theorem quiet_finishExport (editor : Editor) (outcome : Except ServiceError CodegenResponse) :
    (editor.finishExport outcome).1.quiet = editor.quiet := by
  unfold finishExport
  simp only
  split
  · rfl
  · cases outcome <;> rfl

end Editor

namespace Session

/-- The session but for its exports and the notices of its editor. -/
def quiet (session : Session) : Session :=
  { session with editor := session.editor.map Editor.quiet, exports := [], nextExport := 0 }

/-- The quiet part is that of the editor, and the loads. -/
theorem quiet_eq_iff {one other : Session} :
    one.quiet = other.quiet ↔
      one.editor.map Editor.quiet = other.editor.map Editor.quiet ∧ one.loads = other.loads := by
  simp [quiet]

@[simp] theorem editor_quiet (session : Session) :
    session.quiet.editor = session.editor.map Editor.quiet := rfl

@[simp] theorem quiet_quiet (session : Session) : session.quiet.quiet = session.quiet := by
  simp [quiet, Function.comp_def]

@[simp] theorem load?_quiet (session : Session) (ticket : UInt64) :
    session.quiet.load? ticket = session.load? ticket := rfl

/-- Whether a step takes a notice away. -/
def Step.isDismissal : Step → Bool
  | .editor (.dismiss _) => true
  | _ => false

/-! ## Steps of an export -/

/-- What keeps the quiet part of every editor keeps that of the session. -/
theorem quiet_withEditor {α : Type} {act : Editor → Editor × Except ServiceError α}
    (h : ∀ editor, (act editor).1.quiet = editor.quiet) (session : Session) :
    (session.withEditor act).1.quiet = session.quiet := by
  unfold withEditor
  cases heditor : session.editor with
  | none => rfl
  | some editor => simp [quiet, heditor, h]

theorem quiet_startExport (session : Session) (key : Nat) :
    (session.startExport key).1.quiet = session.quiet := by
  have hquiet := quiet_withEditor Editor.quiet_beginExport session
  unfold startExport
  split
  · rfl
  · rfl
  · split <;> rename_i heq <;> rw [heq] at hquiet <;> exact hquiet

theorem quiet_finishExport (session : Session) (key : Nat)
    (outcome : Except ServiceError CodegenResponse) :
    (session.finishExport key outcome).1.quiet = session.quiet := by
  have hquiet := quiet_withEditor (·.quiet_finishExport outcome) (session.withoutExport key)
  unfold finishExport
  split
  · split <;> rename_i heq <;> rw [heq] at hquiet <;> exact hquiet
  · rfl

theorem quiet_dropExport (session : Session) (key : Nat) :
    (session.dropExport key).1.quiet = session.quiet := by
  unfold dropExport
  split
  · rfl
  · rfl
  · simp only [quiet, withoutExport, Option.map_map]
    rfl

/-- A step of an export leaves the quiet part as it is. -/
theorem quiet_of_isExport (session : Session) {step : Step} (h : step.isExport = true) :
    (session.step step).1.quiet = session.quiet := by
  cases step with
  | makeExport => rfl
  | startExport key => exact quiet_startExport session key
  | finishExport key outcome => exact quiet_finishExport session key outcome
  | dropExport key => exact quiet_dropExport session key
  | _ => cases h

/-! ## Other steps -/

/-- What is blind for the editor is blind for the session. -/
theorem blind_withEditor {α : Type} {act : Editor → Editor × Except ServiceError α}
    (h : Blind Editor.quiet act) : Blind quiet (·.withEditor act) := by
  intro session
  unfold withEditor
  cases heditor : session.editor with
  | none => simp [quiet, heditor]
  | some editor => simp [quiet, heditor, h editor]

theorem blind_reserve (request : LoadRequest) : Blind quiet (·.reserve request) := by
  intro session
  obtain ⟨hquiet, hresult⟩ := blind_withEditor Editor.blind_beginLoad session
  simp only [reserve] at hquiet hresult ⊢
  generalize session.quiet.withEditor Editor.beginLoad = blind at hquiet hresult ⊢
  generalize session.withEditor Editor.beginLoad = seeing at hquiet hresult ⊢
  obtain ⟨blind, result⟩ := blind
  obtain ⟨seeing, same⟩ := seeing
  obtain rfl : result = same := hresult
  rw [quiet_eq_iff] at hquiet
  cases result with
  | ok ticket => exact ⟨quiet_eq_iff.mpr ⟨hquiet.1, congrArg (· ++ _) hquiet.2⟩, rfl⟩
  | error error => exact ⟨quiet_eq_iff.mpr hquiet, rfl⟩

theorem blind_startLoad (ticket : UInt64) : Blind quiet (·.startLoad ticket) := by
  intro session
  simp only [startLoad, load?_quiet]
  cases session.load? ticket with
  | none => exact ⟨session.quiet_quiet, rfl⟩
  | some load => exact ⟨quiet_eq_iff.mpr ⟨by simp [Function.comp_def], rfl⟩, rfl⟩

theorem blind_finishLoad (ticket : UInt64) (outcome : Except ServiceError Diagram) :
    Blind quiet (·.finishLoad ticket outcome) := by
  intro session
  cases hload : session.load? ticket with
  | none =>
    simp only [finishLoad, load?_quiet, hload]
    exact ⟨session.quiet_quiet, trivial⟩
  | some load =>
    have hsame : session.quiet.load? ticket = some load := hload
    have hrest := congrArg (·.withoutLoad ticket) session.quiet_quiet
    cases heditor : session.editor with
    | none =>
      have hgone : session.quiet.editor = none := by simp [quiet, heditor]
      simp only [finishLoad_dropped hload heditor, finishLoad_dropped hsame hgone]
      exact ⟨hrest, trivial⟩
    | some editor =>
      have hthere : session.quiet.editor = some editor.quiet := by simp [quiet, heditor]
      obtain ⟨hquiet, hresult⟩ :=
        Editor.blind_finishLoad ticket load.request outcome editor
      simp only [finishLoad_editor hload heditor, finishLoad_editor hsame hthere, hresult]
      exact ⟨quiet_eq_iff.mpr ⟨congrArg some hquiet, rfl⟩, trivial⟩

theorem blind_dropLoad (ticket : UInt64) : Blind quiet (·.dropLoad ticket) := by
  intro session
  simp only [dropLoad, load?_quiet]
  cases session.load? ticket with
  | none => exact ⟨session.quiet_quiet, rfl⟩
  | some load =>
    refine ⟨quiet_eq_iff.mpr ⟨?_, rfl⟩, rfl⟩
    simp only [withoutLoad, editor_quiet, Option.map_map, Function.comp_def,
      Editor.quiet_abandonLoad]

/-- Any other step is blind, but for the dismissal of a notice. -/
theorem blind_step {step : Step} (hexport : step.isExport = false)
    (hdismissal : step.isDismissal = false) : Blind quiet (·.step step) := by
  cases step with
  | reserve request => exact blind_reserve request
  | startLoad ticket => exact blind_startLoad ticket
  | finishLoad ticket outcome => exact blind_finishLoad ticket outcome
  | dropLoad ticket => exact blind_dropLoad ticket
  | drop => exact fun _ => ⟨rfl, rfl⟩
  | editor step =>
    intro session
    simp only [Session.step, editor_quiet]
    cases heditor : session.editor with
    | none => exact ⟨session.quiet_quiet, rfl⟩
    | some editor =>
      have hblind : Blind Editor.quiet (·.step step) := by
        intro editor
        cases step with
        | dismiss id => cases hdismissal
        | _ => exact ⟨rfl, rfl⟩
      obtain ⟨hquiet, hanswer⟩ := hblind editor
      exact ⟨quiet_eq_iff.mpr ⟨congrArg some hquiet, rfl⟩, congrArg Answer.editor hanswer⟩
  | makeExport | startExport _ | finishExport _ _ | dropExport _ => cases hexport

/-- The dismissal of a notice leaves the quiet part as it is. -/
theorem quiet_of_isDismissal (session : Session) {step : Step} (h : step.isDismissal = true) :
    (session.step step).1.quiet = session.quiet := by
  unfold Step.isDismissal at h
  split at h
  · simp only [Session.step]
    cases heditor : session.editor with
    | none => rfl
    | some editor => exact quiet_eq_iff.mpr ⟨by rw [heditor]; rfl, rfl⟩
  · cases h

/-! ## Runs without exports -/

/-- A run from which every step of an export is erased. -/
def withoutExports (steps : List Step) : List Step := steps.filter (!·.isExport)

/-- Sessions with the same quiet part keep that in common in a step that is not of an export. -/
theorem quiet_step {one other : Session} (h : one.quiet = other.quiet) {step : Step}
    (hexport : step.isExport = false) :
    (one.step step).1.quiet = (other.step step).1.quiet := by
  cases hdismissal : step.isDismissal with
  | true => rw [quiet_of_isDismissal _ hdismissal, quiet_of_isDismissal _ hdismissal, h]
  | false => exact ((blind_step hexport hdismissal).congr h).1

/-- The run without exports follows the run with them. -/
theorem quiet_run {one other : Session} (h : one.quiet = other.quiet) (steps : List Step) :
    (one.run steps).quiet = (other.run (withoutExports steps)).quiet := by
  induction steps generalizing one other with
  | nil => exact h
  | cons step steps ih =>
    cases hexport : step.isExport with
    | true =>
      rw [withoutExports, List.filter_cons_of_neg (by simp [hexport])]
      exact ih ((quiet_of_isExport one hexport).trans h)
    | false =>
      rw [withoutExports, List.filter_cons_of_pos (by simp [hexport])]
      exact ih (quiet_step h hexport)

/-! ## What an export submits -/

variable {session next : Session} {key : Nat} {step : Step} {answer : Answer}
  {request : CodegenRequest}

/-- When the exports of another key are gone, the request is still there. -/
theorem submitted?_without {other : Nat} (hne : key ≠ other)
    (h : next.exports = session.exports.filter (·.key ≠ other)) :
    next.submitted? key = session.submitted? key := by
  rw [submitted?, submitted?, export?, export?, h, find?_filter_ne Export.key hne]

/-- When an export is started, it submits its request, and the other exports keep theirs. -/
theorem submitted?_start {other : Nat} {found : Export}
    (hfound : session.export? other = some found)
    (h : next.exports = session.exports.map (·.submitting other request)) :
    next.submitted? key = if key = other then some request else session.submitted? key := by
  have hexport : next.export? key = (session.export? key).map (·.submitting other request) := by
    rw [export?, export?, h, List.find?_map]
    simp only [Function.comp_def, Export.key_submitting]
  rw [submitted?, submitted?, hexport]
  split_ifs with hkey
  · rw [hkey, hfound, Option.map_some, Option.bind_some, Export.submitting,
      if_pos (key_of_export? hfound)]
  · cases hthere : session.export? key with
    | none => rfl
    | some there =>
      rw [Option.map_some, Option.bind_some, Option.bind_some, Export.submitting,
        if_neg (key_of_export? hthere ▸ hkey)]

/-- A request that was submitted stays as it is in every step but the end of its export. -/
theorem submitted?_of_turn (h : session.submitted? key = some request)
    (hturn : Turn session next step answer) (hends : step.ends? ≠ some key) :
    next.submitted? key = some request := by
  have hother : ∀ {other : Nat}, session.export? other = some { key := other } → key ≠ other := by
    rintro other hunstarted rfl
    rw [submitted?, hunstarted] at h
    cases h
  cases hturn with
  | make editor exports count =>
    obtain ⟨found, hfound, hrequest⟩ := Option.bind_eq_some_iff.mp h
    rw [submitted?, export?, exports, List.find?_append, ← export?, hfound]
    exact hrequest
  | start other editor _ before opened idle snapshot after unstarted exports count =>
    rw [submitted?_start unstarted exports, if_neg (hother unstarted), h]
  | refuse other error reason editor unstarted exports count =>
    rw [submitted?_without (hother unstarted) exports, h]
  | finish _ other _ ends started flag exports count =>
    have hne : key ≠ other := by
      rintro rfl
      exact hends ends
    rw [submitted?_without hne exports, h]
  | discard other editor unstarted exports count =>
    rw [submitted?_without (hother unstarted) exports, h]
  | still _ _ silent unchanged same => rw [same, h]
  | other _ _ other flag exports count =>
    rw [submitted?, export?, exports, ← export?, ← submitted?, h]

theorem submitted?_run (h : session.submitted? key = some request) {steps : List Step}
    (hends : ∀ step ∈ steps, step.ends? ≠ some key) :
    (session.run steps).submitted? key = some request := by
  induction steps generalizing session with
  | nil => exact h
  | cons step steps ih =>
    rw [List.forall_mem_cons] at hends
    exact ih (submitted?_of_turn h (step_turn session step) hends.1) hends.2

/-- An export that is started successfully submits a snapshot of the editor. -/
theorem submitted?_of_started {call : ServiceCall}
    (h : (session.step (.startExport key)).2 = .waiting (some call)) :
    ∃ editor, session.editor = some editor ∧
      call = .codegen ⟨editor.canvas.graph.diagram, editor.projectName⟩ ∧
      (session.step (.startExport key)).1.submitted? key =
        some ⟨editor.canvas.graph.diagram, editor.projectName⟩ := by
  have hturn := step_turn session (.startExport key)
  rw [h] at hturn
  cases hturn with
  | start _ editor request before _ _ snapshot _ unstarted exports =>
    refine ⟨editor, before, by rw [snapshot], ?_⟩
    rw [submitted?_start unstarted exports, if_pos rfl, snapshot]
  | finish _ _ _ ends => cases ends
  | still _ _ silent => rcases silent with h | h <;> cases h
  | other _ _ other => cases other

/-- An export that has submitted its request does not submit it again. -/
theorem answer_of_submitted (h : session.submitted? key = some request) :
    (session.step (.startExport key)).2 = .waiting none := by
  obtain ⟨⟨other, submitted⟩, hfound, hrequest⟩ := Option.bind_eq_some_iff.mp h
  obtain rfl : submitted = some request := hrequest
  simp only [Session.step, startExport, hfound]

/-- **Exports do not interfere.** Erase every step of an export from a run: the canvas, the
inspector, the name, the gate and the loads are the same after each of the steps that are left, and
so is every answer, but for the dismissal of notices. And what an export submits, once and for all,
is the diagram and the name as they were when it started, whatever happens until it ends. -/
theorem exports_do_not_interfere (name : String) (kind : ProjectKind) (before : List Step) :
    let session := (new name kind).run before
    let undisturbed := (new name kind).run (withoutExports before)
    session.quiet = undisturbed.quiet ∧
      (∀ step, step.isExport = false →
        (session.step step).1.quiet = (undisturbed.step step).1.quiet ∧
        (step.isDismissal = false → (session.step step).2 = (undisturbed.step step).2)) ∧
      ∀ key call, (session.step (.startExport key)).2 = .waiting (some call) →
        ∃ editor, session.editor = some editor ∧
          call = .codegen ⟨editor.canvas.graph.diagram, editor.projectName⟩ ∧
          ∀ since, (∀ step ∈ since, step.ends? ≠ some key) →
            let later := (new name kind).run (before ++ .startExport key :: since)
            later.submitted? key = some ⟨editor.canvas.graph.diagram, editor.projectName⟩ ∧
              (later.step (.startExport key)).2 = .waiting none := by
  intro session undisturbed
  have hquiet : session.quiet = undisturbed.quiet := quiet_run rfl before
  refine ⟨hquiet, fun step hexport => ⟨quiet_step hquiet hexport, fun hdismissal => ?_⟩,
    fun key call hstarted => ?_⟩
  · exact ((blind_step hexport hdismissal).congr hquiet).2
  · obtain ⟨editor, heditor, hcall, hsubmitted⟩ := submitted?_of_started hstarted
    refine ⟨editor, heditor, hcall, fun since hends => ?_⟩
    have hlater := submitted?_run hsubmitted hends
    rw [← run_cons, ← run_append] at hlater
    exact ⟨hlater, answer_of_submitted hlater⟩

/-- A load that is reserved beside an export gets the ticket that it gets without it, and the export
keeps the name that the project had when it started. -/
theorem load_beside_export :
    let before := [Step.editor (.rename "Shop"), .makeExport]
    let since := [Step.editor (.rename "Blog")]
    let session := (new "Demo" .web).run (before ++ .startExport 0 :: since)
    let undisturbed := (new "Demo" .web).run [.editor (.rename "Shop"), .editor (.rename "Blog")]
    (session.step (.reserve (.template "blog"))).2 =
        (undisturbed.step (.reserve (.template "blog"))).2 ∧
      session.submitted? 0 = some ⟨{}, "Shop"⟩ := by
  intro before since session undisturbed
  have hload := (exports_do_not_interfere "Demo" .web (before ++ .startExport 0 :: since)).2.1
    (.reserve (.template "blog")) rfl
  have hstarted : (((new "Demo" .web).run before).step (.startExport 0)).2 =
      .waiting (some (.codegen ⟨{}, "Shop"⟩)) := rfl
  obtain ⟨editor, -, hcall, hlater⟩ :=
    (exports_do_not_interfere "Demo" .web before).2.2 0 _ hstarted
  injection hcall with hrequest
  have hends : ∀ step ∈ since, step.ends? ≠ some 0 := by
    simp only [since, List.forall_mem_cons]
    exact ⟨nofun, fun _ h => absurd h List.not_mem_nil⟩
  refine ⟨hload.2 rfl, ?_⟩
  rw [hrequest]
  exact (hlater since hends).1

end Session

end DiagramStudio
