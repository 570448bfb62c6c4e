import DiagramStudio.Proofs.Keyed
import DiagramStudio.Proofs.Session.History
import Mathlib.Data.List.Induction

/-!
# One export at a time

An export that is started raises a flag in the editor, and the flag is lowered where the export
ends: when its result comes in, or when it is dropped. `Turn` lists what a step can do to the flag
and to the exports; everything that is said about exports follows from it case by case.

Results:
* `step_turn`: every step of a session takes one of the listed turns.
* `tracked_step`, `tracked_run`: a step, and so a run, keeps the flag in line with the exports.
* `exporting_iff_under_way`: the flag is up exactly while one export is under way, and no second one
  ever is.
-/

namespace DiagramStudio

/-! ## The flag -/

namespace Editor

theorem exporting_beginLoad (editor : Editor) :
    editor.beginLoad.1.exporting = editor.exporting := by
  unfold beginLoad
  split
  · rfl
  · split <;> rfl

theorem exporting_finishLoad (editor : Editor) (ticket : UInt64) (request : LoadRequest)
    (outcome : Except ServiceError Diagram) :
    (editor.finishLoad ticket request outcome).1.exporting = editor.exporting := by
  unfold finishLoad
  split
  · rfl
  · split
    · simp only
      split
      · cases outcome <;> rfl
      · rfl
    · rfl

theorem exporting_abandonLoad (editor : Editor) (ticket : UInt64) :
    (editor.abandonLoad ticket).exporting = editor.exporting := by
  unfold abandonLoad
  split <;> rfl

theorem exporting_step (editor : Editor) (step : Step) :
    (editor.step step).1.exporting = editor.exporting := by
  cases step <;> rfl

/-- In an open editor without an export, one begins with a snapshot. -/
theorem beginExport_idle {editor : Editor} (hopen : editor.closed = false)
    (hidle : editor.exporting = false) :
    editor.beginExport =
      ({ editor with exporting := true },
        .ok ⟨editor.canvas.graph.diagram, editor.projectName⟩) := by
  simp [beginExport, hopen, hidle]

/-- Any other editor refuses an export, and stays as it is. -/
theorem beginExport_refused {editor : Editor}
    (h : ¬ (editor.closed = false ∧ editor.exporting = false)) :
    ∃ error, editor.beginExport = (editor, .error error) ∧
      (error = .exportRunning ∨ error = .discarded) := by
  unfold beginExport
  cases hclosed : editor.closed with
  | true => exact ⟨.discarded, rfl, .inr rfl⟩
  | false =>
    cases hexporting : editor.exporting with
    | true => exact ⟨.exportRunning, rfl, .inl rfl⟩
    | false => exact absurd ⟨hclosed, hexporting⟩ h

theorem exporting_finishExport (editor : Editor)
    (outcome : Except ServiceError CodegenResponse) :
    (editor.finishExport outcome).1.exporting = false := by
  unfold finishExport
  simp only
  split
  · rfl
  · cases outcome <;> rfl

end Editor

/-! ## Exports under way -/

/-- An export, with the request that it submits if it is the one of that key. -/
def Export.submitting (key : Nat) (request : CodegenRequest) (e : Export) : Export :=
  if e.key = key then { e with request := some request } else e

@[simp] theorem Export.key_submitting (key : Nat) (request : CodegenRequest) (e : Export) :
    (e.submitting key request).key = e.key := by
  unfold submitting
  split <;> rfl

namespace Session

/-- Whether the flag is up, unless the session was dropped. -/
def exporting? (session : Session) : Option Bool := session.editor.map (·.exporting)

/-- The keys of the exports that were started. -/
def running (session : Session) : List Nat :=
  (session.exports.filter (·.request.isSome)).map (·.key)

/-- The request that an export has submitted. -/
def submitted? (session : Session) (key : Nat) : Option CodegenRequest :=
  (session.export? key).bind (·.request)

/-- The export that a step ends, if there is one. -/
def Step.ends? : Step → Option Nat
  | .finishExport key _ => some key
  | .dropExport key => some key
  | _ => none

/-- Whether a step makes, starts or ends an export. -/
def Step.isExport : Step → Bool
  | .makeExport => true
  | .startExport _ => true
  | .finishExport _ _ => true
  | .dropExport _ => true
  | _ => false

/-- The exports under way after a step with that answer, if these were under way before. -/
def Step.track (keys : List Nat) (step : Step) (answer : Answer) : List Nat :=
  match step, answer with
  | .startExport key, .waiting (some _) => keys ++ [key]
  | step, _ =>
    match step.ends? with
    | some key => keys.filter (· ≠ key)
    | none => keys

/-- The exports that a run leaves under way: they called the services when they were started, and
were neither finished nor dropped since. -/
def underWay (session : Session) (steps : List Step) : List Nat :=
  (moments Session.step session steps).foldl
    (fun keys (session, step) => step.track keys (session.step step).2) []

theorem underWay_concat (session : Session) (steps : List Step) (step : Step) :
    session.underWay (steps ++ [step]) =
      step.track (session.underWay steps) ((session.run steps).step step).2 := by
  rw [underWay, moments_append, List.foldl_append]
  rfl

/-! ## What a step does to the exports -/

/-- What a step with that answer can do to the flag and to the exports. -/
inductive Turn (session next : Session) : Step → Answer → Prop
  /-- An export is made. -/
  | make (editor : next.editor = session.editor)
      (exports : next.exports = session.exports ++ [{ key := session.nextExport }])
      (count : next.nextExport = session.nextExport + 1) :
      Turn session next .makeExport (.made session.nextExport)
  /-- An export is started in an open editor, while none runs. -/
  | start (key : Nat) (editor : Editor) (request : CodegenRequest)
      (before : session.editor = some editor)
      (opened : editor.closed = false) (idle : editor.exporting = false)
      (snapshot : request = ⟨editor.canvas.graph.diagram, editor.projectName⟩)
      (after : next.editor = some { editor with exporting := true })
      (unstarted : session.export? key = some { key })
      (exports : next.exports = session.exports.map (·.submitting key request))
      (count : next.nextExport = session.nextExport) :
      Turn session next (.startExport key) (.waiting (some (.codegen request)))
  /-- An export is refused when it is started. -/
  | refuse (key : Nat) (error : ServiceError)
      (reason : error = .exportRunning ∨ error = .discarded)
      (editor : next.editor = session.editor) (unstarted : session.export? key = some { key })
      (exports : next.exports = session.exports.filter (·.key ≠ key))
      (count : next.nextExport = session.nextExport) :
      Turn session next (.startExport key) (.failed error)
  /-- An export that was started ends. -/
  | finish (step : Step) (key : Nat) (answer : Answer) (ends : step.ends? = some key)
      (started : (session.submitted? key).isSome = true)
      (flag : next.exporting? = session.exporting?.map fun _ => false)
      (exports : next.exports = session.exports.filter (·.key ≠ key))
      (count : next.nextExport = session.nextExport) :
      Turn session next step answer
  /-- An export that was not started is dropped. -/
  | discard (key : Nat) (editor : next.editor = session.editor)
      (unstarted : session.export? key = some { key })
      (exports : next.exports = session.exports.filter (·.key ≠ key))
      (count : next.nextExport = session.nextExport) :
      Turn session next (.dropExport key) .done
  /-- Nothing happens: there is no such export, or it was started before. -/
  | still (step : Step) (answer : Answer) (silent : answer = .absent ∨ answer = .waiting none)
      (unchanged : ∀ keys, (∀ key ∈ keys, (session.submitted? key).isSome = true) →
        step.track keys answer = keys) (same : next = session) :
      Turn session next step answer
  /-- Another step leaves the flag and the exports alone. It may drop the session. -/
  | other (step : Step) (answer : Answer) (other : step.isExport = false)
      (flag : next.exporting? = session.exporting? ∨ next.exporting? = none)
      (exports : next.exports = session.exports) (count : next.nextExport = session.nextExport) :
      Turn session next step answer

variable {session next : Session} {key : Nat} {step : Step} {answer : Answer}

/-- What keeps the flag of every editor keeps that of the session. -/
theorem exporting?_withEditor {α : Type} {act : Editor → Editor × Except ServiceError α}
    (h : ∀ editor, (act editor).1.exporting = editor.exporting) (session : Session) :
    (session.withEditor act).1.exporting? = session.exporting? := by
  unfold withEditor
  cases heditor : session.editor with
  | none => rfl
  | some editor => simp [exporting?, heditor, h]

theorem turn_reserve (session : Session) (request : LoadRequest) :
    Turn session (session.reserve request).1 (.reserve request) (session.reserve request).2 := by
  have hflag := exporting?_withEditor Editor.exporting_beginLoad session
  unfold reserve
  unfold withEditor at hflag ⊢
  cases heditor : session.editor with
  | none => exact .other _ _ rfl (.inl rfl) rfl rfl
  | some editor =>
    rw [heditor] at hflag
    simp only at hflag ⊢
    cases editor.beginLoad.2 with
    | ok ticket => exact .other _ _ rfl (.inl hflag) rfl rfl
    | error error => exact .other _ _ rfl (.inl hflag) rfl rfl

theorem turn_startLoad (session : Session) (ticket : UInt64) :
    Turn session (session.startLoad ticket).1 (.startLoad ticket)
      (session.startLoad ticket).2 := by
  unfold startLoad
  split <;> exact .other _ _ rfl (.inl rfl) rfl rfl

theorem turn_finishLoad (session : Session) (ticket : UInt64)
    (outcome : Except ServiceError Diagram) :
    Turn session (session.finishLoad ticket outcome).1 (.finishLoad ticket outcome)
      (session.finishLoad ticket outcome).2 := by
  unfold finishLoad
  cases hload : session.load? ticket with
  | none => exact .other _ _ rfl (.inl rfl) rfl rfl
  | some load =>
    have hflag := exporting?_withEditor
      (fun editor => editor.exporting_finishLoad ticket load.request outcome)
      (session.withoutLoad ticket)
    unfold withEditor at hflag ⊢
    cases heditor : (session.withoutLoad ticket).editor with
    | none => exact .other _ _ rfl (.inl rfl) rfl rfl
    | some editor =>
      rw [heditor] at hflag
      simp only at hflag ⊢
      cases (editor.finishLoad ticket load.request outcome).2 with
      | ok _ => exact .other _ _ rfl (.inl hflag) rfl rfl
      | error _ => exact .other _ _ rfl (.inl hflag) rfl rfl

theorem turn_dropLoad (session : Session) (ticket : UInt64) :
    Turn session (session.dropLoad ticket).1 (.dropLoad ticket)
      (session.dropLoad ticket).2 := by
  unfold dropLoad
  split
  · exact .other _ _ rfl (.inl rfl) rfl rfl
  · refine .other _ _ rfl (.inl ?_) rfl rfl
    simp [exporting?, withoutLoad, Function.comp_def, Editor.exporting_abandonLoad]

/-! ## What a step does to the exports -/

theorem key_of_export? {found : Export} (h : session.export? key = some found) :
    found.key = key := by
  simpa using List.find?_some h

/-- An export that has submitted nothing is none of those under way. -/
theorem filter_ne_of_submitted? {keys : List Nat} (h : session.submitted? key = none)
    (hkeys : ∀ key ∈ keys, (session.submitted? key).isSome = true) :
    keys.filter (· ≠ key) = keys := by
  refine List.filter_eq_self.mpr fun other hother => decide_eq_true ?_
  rintro rfl
  simpa [h] using hkeys other hother

theorem turn_startExport (session : Session) (key : Nat) :
    Turn session (session.startExport key).1 (.startExport key) (session.startExport key).2 := by
  unfold startExport
  cases hfound : session.export? key with
  | none => exact .still _ _ (.inl rfl) (fun _ _ => rfl) rfl
  | some found =>
    obtain ⟨other, request⟩ := found
    obtain rfl : other = key := key_of_export? hfound
    cases request with
    | some request => exact .still _ _ (.inr rfl) (fun _ _ => rfl) rfl
    | none =>
      unfold withEditor
      cases heditor : session.editor with
      | none => exact .refuse other .discarded (.inr rfl) rfl hfound rfl rfl
      | some editor =>
        by_cases hidle : editor.closed = false ∧ editor.exporting = false
        · simp only [Editor.beginExport_idle hidle.1 hidle.2]
          exact .start other editor _ heditor hidle.1 hidle.2 rfl rfl hfound rfl rfl
        · obtain ⟨error, hrefused, hreason⟩ := Editor.beginExport_refused hidle
          simp only [hrefused]
          exact .refuse other error hreason heditor.symm hfound rfl rfl

theorem turn_finishExport (session : Session) (key : Nat)
    (outcome : Except ServiceError CodegenResponse) :
    Turn session (session.finishExport key outcome).1 (.finishExport key outcome)
      (session.finishExport key outcome).2 := by
  unfold finishExport
  cases hfound : session.export? key with
  | none =>
    refine .still _ _ (.inl rfl) (fun keys hkeys => ?_) rfl
    exact filter_ne_of_submitted? (by rw [submitted?, hfound]; rfl) hkeys
  | some found =>
    obtain ⟨other, request⟩ := found
    cases request with
    | none =>
      refine .still _ _ (.inl rfl) (fun keys hkeys => ?_) rfl
      exact filter_ne_of_submitted? (by rw [submitted?, hfound]; rfl) hkeys
    | some request =>
      have hstarted : (session.submitted? key).isSome = true := by
        rw [submitted?, hfound]
        rfl
      unfold withEditor
      cases heditor : (session.withoutExport key).editor with
      | none =>
        have hgone : session.editor = none := heditor
        refine .finish _ key _ rfl hstarted ?_ rfl rfl
        simp [exporting?, heditor, hgone]
      | some editor =>
        have hsame : session.editor = some editor := heditor
        have hflag : some (editor.finishExport outcome).1.exporting =
            session.exporting?.map fun _ => false := by
          simp [exporting?, hsame, editor.exporting_finishExport outcome]
        simp only
        cases (editor.finishExport outcome).2 with
        | ok _ => exact .finish _ key _ rfl hstarted hflag rfl rfl
        | error _ => exact .finish _ key _ rfl hstarted hflag rfl rfl

theorem turn_dropExport (session : Session) (key : Nat) :
    Turn session (session.dropExport key).1 (.dropExport key) (session.dropExport key).2 := by
  unfold dropExport
  cases hfound : session.export? key with
  | none =>
    refine .still _ _ (.inl rfl) (fun keys hkeys => ?_) rfl
    exact filter_ne_of_submitted? (by rw [submitted?, hfound]; rfl) hkeys
  | some found =>
    obtain ⟨other, request⟩ := found
    obtain rfl : other = key := key_of_export? hfound
    cases request with
    | none => exact .discard other rfl hfound rfl rfl
    | some request =>
      refine .finish _ other _ rfl (by rw [submitted?, hfound]; rfl) ?_ rfl rfl
      simp [exporting?, withoutExport, Function.comp_def, Editor.abandonExport]

/-- Every step takes one of the turns. -/
theorem step_turn (session : Session) (step : Step) :
    Turn session (session.step step).1 step (session.step step).2 := by
  cases step with
  | reserve request => exact turn_reserve session request
  | startLoad ticket => exact turn_startLoad session ticket
  | finishLoad ticket outcome => exact turn_finishLoad session ticket outcome
  | dropLoad ticket => exact turn_dropLoad session ticket
  | makeExport => exact .make rfl rfl rfl
  | startExport key => exact turn_startExport session key
  | finishExport key outcome => exact turn_finishExport session key outcome
  | dropExport key => exact turn_dropExport session key
  | drop => exact .other _ _ rfl (.inr rfl) rfl rfl
  | editor step =>
    simp only [Session.step]
    cases heditor : session.editor with
    | none => exact .other _ _ rfl (.inl rfl) rfl rfl
    | some editor =>
      refine .other _ _ rfl (.inl ?_) rfl rfl
      rw [exporting?, exporting?, heditor, Option.map_some, Option.map_some,
        editor.exporting_step step]

/-! ## The exports that were started -/

/-- The exports that were started are those that have submitted a request. -/
theorem mem_running_iff (hdistinct : (session.exports.map (·.key)).Nodup) :
    key ∈ session.running ↔ (session.submitted? key).isSome = true := by
  rw [running, List.mem_map, submitted?]
  constructor
  · rintro ⟨started, hstarted, rfl⟩
    obtain ⟨hmem, hrequest⟩ := List.mem_filter.mp hstarted
    have hfound : session.export? started.key = some started := find?_of_mem hdistinct hmem
    rw [hfound, Option.bind_some]
    exact hrequest
  · intro h
    obtain ⟨request, hrequest⟩ := Option.isSome_iff_exists.mp h
    obtain ⟨found, hfound, hsome⟩ := Option.bind_eq_some_iff.mp hrequest
    refine ⟨found, List.mem_filter.mpr ⟨List.mem_of_find?_eq_some hfound, ?_⟩,
      key_of_export? hfound⟩
    rw [hsome, Option.isSome_some]

/-- When the exports of one key are gone, those of the other keys are left. -/
theorem running_without (h : next.exports = session.exports.filter (·.key ≠ key)) :
    next.running = session.running.filter (· ≠ key) := by
  rw [running, running, h, List.filter_map, List.filter_filter, List.filter_filter]
  congr 2
  funext started
  exact Bool.and_comm _ _

/-- When an export is started while no other runs, it is the one that runs. -/
theorem running_start {request : CodegenRequest}
    (hdistinct : (session.exports.map (·.key)).Nodup) (hidle : session.running = [])
    (hfound : session.export? key = some { key })
    (h : next.exports = session.exports.map (·.submitting key request)) :
    next.running = [key] := by
  have hnone : ∀ e ∈ session.exports, e.request.isSome = false := by
    intro e he
    rw [running, List.map_eq_nil_iff, List.filter_eq_nil_iff] at hidle
    exact Bool.not_eq_true _ ▸ hidle e he
  have hmem : key ∈ session.exports.map (·.key) :=
    List.mem_map.mpr ⟨_, List.mem_of_find?_eq_some hfound, rfl⟩
  have hstarted : ∀ e ∈ session.exports,
      (e.submitting key request).request.isSome = decide (e.key = key) := by
    intro e he
    rw [Export.submitting]
    split
    · simp [*]
    · rw [hnone e he]
      simp [*]
  calc next.running
      = (session.exports.filter (·.key = key)).map (·.key) := by
        rw [running, h, List.filter_map, List.map_map]
        simp only [Function.comp_def, Export.key_submitting, List.filter_congr hstarted]
    _ = (session.exports.map (·.key)).filter (· = key) := by rw [List.filter_map]; rfl
    _ = List.replicate ((session.exports.map (·.key)).count key) key := List.filter_eq key
    _ = [key] := by rw [List.count_eq_one_of_mem hdistinct hmem]; rfl

/-! ## The invariant -/

/-- What holds of the exports of a session when these are under way. -/
structure Tracked (session : Session) (keys : List Nat) : Prop where
  /-- No two exports bear the same key. -/
  distinct : (session.exports.map (·.key)).Nodup
  /-- The next export gets a new key. -/
  below : ∀ e ∈ session.exports, e.key < session.nextExport
  /-- The exports under way are those that were started. -/
  running : session.running = keys
  single : keys.length ≤ 1
  /-- The flag is up exactly while there are any. -/
  flag : ∀ up, session.exporting? = some up → (up = true ↔ keys ≠ [])

variable {keys : List Nat}

theorem tracked_new (name : String) (kind : ProjectKind) : (new name kind).Tracked [] where
  distinct := List.nodup_nil
  below := fun _ h => absurd h List.not_mem_nil
  running := rfl
  single := Nat.zero_le 1
  flag := by
    rintro up ⟨⟩
    simp

namespace Tracked

theorem submitted (h : session.Tracked keys) :
    ∀ key ∈ keys, (session.submitted? key).isSome = true := by
  intro key hkey
  rw [← h.running] at hkey
  exact (mem_running_iff h.distinct).mp hkey

/-- The one export under way is the only one. -/
theorem eq_singleton (h : session.Tracked keys) (hkey : key ∈ keys) : keys = [key] := by
  obtain ⟨other, rfl⟩ : ∃ other, keys = [other] :=
    List.length_eq_one_iff.mp (Nat.le_antisymm h.single (List.length_pos_of_mem hkey))
  rw [List.mem_singleton.mp hkey]

/-- An export that was not started goes away. -/
theorem remove (h : session.Tracked keys) (hunstarted : session.export? key = some { key })
    (heditor : next.editor = session.editor)
    (hexports : next.exports = session.exports.filter (·.key ≠ key))
    (hcount : next.nextExport = session.nextExport) : next.Tracked keys where
  distinct := hexports ▸ h.distinct.sublist (List.filter_sublist.map _)
  below := by
    rw [hexports, hcount]
    exact fun e he => h.below e (List.mem_filter.mp he).1
  running := by
    have hsilent : session.submitted? key = none := by
      rw [submitted?, hunstarted]
      rfl
    rw [running_without hexports, h.running]
    exact filter_ne_of_submitted? hsilent h.submitted
  single := h.single
  flag := by
    rw [exporting?, heditor]
    exact h.flag

end Tracked

/-- A step that ends an export takes it off those under way, whatever the answer is. -/
theorem Step.track_ends (h : step.ends? = some key) (keys : List Nat) (answer : Answer) :
    step.track keys answer = keys.filter (· ≠ key) := by
  cases step <;> cases h <;> rfl

theorem Step.track_other (h : step.isExport = false) (keys : List Nat) (answer : Answer) :
    step.track keys answer = keys := by
  cases step <;> cases h <;> rfl

/-- Every turn keeps the flag in line with the exports under way. -/
theorem Tracked.turn (h : session.Tracked keys) (hturn : Turn session next step answer) :
    next.Tracked (step.track keys answer) := by
  cases hturn with
  | make editor exports count =>
    refine ⟨?_, ?_, ?_, h.single, ?_⟩
    · rw [exports, List.map_append, List.map_singleton, ← List.concat_eq_append]
      refine List.Nodup.concat ?_ h.distinct
      rintro hmem
      obtain ⟨e, he, hkey⟩ := List.mem_map.mp hmem
      exact absurd hkey (Nat.ne_of_lt (h.below e he))
    · rw [exports, count]
      refine List.forall_mem_append.mpr ⟨fun e he => Nat.lt_succ_of_lt (h.below e he), ?_⟩
      exact List.forall_mem_singleton.mpr (Nat.lt_succ_self _)
    · rw [Session.running, exports, List.filter_append, List.map_append]
      exact (List.append_nil _).trans h.running
    · rw [exporting?, editor]
      exact h.flag
  | start key editor request before opened idle snapshot after unstarted exports count =>
    have hnone : keys = [] := by
      by_contra hsome
      have hup := (h.flag editor.exporting (by rw [exporting?, before]; rfl)).mpr hsome
      rw [idle] at hup
      cases hup
    subst hnone
    have hkeys : next.exports.map (·.key) = session.exports.map (·.key) := by
      rw [exports, List.map_map]
      exact List.map_congr_left fun e _ => e.key_submitting key request
    refine ⟨hkeys ▸ h.distinct, ?_, running_start h.distinct h.running unstarted exports,
      Nat.le_refl 1, ?_⟩
    · rw [exports, count]
      intro e he
      obtain ⟨before, hbefore, rfl⟩ := List.mem_map.mp he
      rw [Export.key_submitting]
      exact h.below before hbefore
    · rw [exporting?, after]
      rintro up ⟨⟩
      simp [Step.track]
  | refuse key error reason editor unstarted exports count =>
    exact h.remove unstarted editor exports count
  | finish _ key _ ends started flag exports count =>
    have honly : keys = [key] := h.eq_singleton <| by
      rw [← h.running]
      exact (mem_running_iff h.distinct).mpr started
    have hnone : step.track keys answer = [] := by
      rw [Step.track_ends ends, honly]
      simp
    rw [hnone]
    refine ⟨exports ▸ h.distinct.sublist (List.filter_sublist.map _), ?_, ?_, Nat.zero_le 1, ?_⟩
    · rw [exports, count]
      exact fun e he => h.below e (List.mem_filter.mp he).1
    · rw [running_without exports, h.running, honly]
      simp
    · rw [flag]
      intro up hup
      obtain ⟨_, -, rfl⟩ := Option.map_eq_some_iff.mp hup
      simp
  | discard key editor unstarted exports count =>
    have hsilent : session.submitted? key = none := by
      rw [submitted?, unstarted]
      rfl
    have hends : (Step.dropExport key).ends? = some key := rfl
    rw [Step.track_ends hends, filter_ne_of_submitted? hsilent h.submitted]
    exact h.remove unstarted editor exports count
  | still _ _ silent unchanged same =>
    rw [unchanged keys h.submitted, same]
    exact h
  | other _ _ other flag exports count =>
    rw [Step.track_other other]
    refine ⟨exports ▸ h.distinct, ?_, ?_, h.single, ?_⟩
    · rw [exports, count]
      exact h.below
    · rw [Session.running, exports]
      exact h.running
    · rcases flag with hsame | hgone
      · exact hsame ▸ h.flag
      · rw [hgone]
        rintro up ⟨⟩

theorem tracked_step (h : session.Tracked keys) (step : Step) :
    (session.step step).1.Tracked (step.track keys (session.step step).2) :=
  h.turn (step_turn session step)

theorem tracked_run (name : String) (kind : ProjectKind) (steps : List Step) :
    ((new name kind).run steps).Tracked ((new name kind).underWay steps) := by
  induction steps using List.reverseRecOn with
  | nil => exact tracked_new name kind
  | append_singleton steps step ih =>
    rw [run_append, underWay_concat]
    exact tracked_step ih step

/-! ## One export at a time -/

/-- An export that is refused leaves the editor as it is. -/
theorem editor_of_refused {error : ServiceError}
    (h : (session.step (.startExport key)).2 = .failed error) :
    (error = .exportRunning ∨ error = .discarded) ∧
      (session.step (.startExport key)).1.editor = session.editor := by
  have hturn := step_turn session (.startExport key)
  rw [h] at hturn
  cases hturn with
  | refuse _ _ reason editor => exact ⟨reason, editor⟩
  | finish _ _ _ ends => cases ends
  | still _ _ silent => rcases silent with h | h <;> cases h
  | other _ _ other => cases other

/-- An export that is dropped and does not run leaves the editor as it is. -/
theorem editor_of_dropped (h : session.submitted? key = none) :
    (session.step (.dropExport key)).1.editor = session.editor := by
  have hturn := step_turn session (.dropExport key)
  generalize (session.step (.dropExport key)).2 = answer at hturn
  cases hturn with
  | finish _ _ _ ends started =>
    cases ends
    rw [h] at started
    cases started
  | discard _ editor => exact editor
  | still _ _ _ _ same => rw [same]
  | other _ _ other => cases other

/-- **One export at a time.** In every state of a session that was not dropped, the flag is up
exactly if there is one export that was started and has neither ended nor been dropped; there never
is a second one. An export that is refused, or dropped without having been started, changes nothing
in the editor and nothing about the export that runs. -/
theorem exporting_iff_under_way (name : String) (kind : ProjectKind) (steps : List Step) :
    let session := (new name kind).run steps
    let underWay := (new name kind).underWay steps
    session.running = underWay ∧ underWay.length ≤ 1 ∧
      (∀ editor, session.editor = some editor →
        (editor.exporting = true ↔ underWay.length = 1)) ∧
      (∀ key error, (session.step (.startExport key)).2 = .failed error →
        (error = .exportRunning ∨ error = .discarded) ∧
        (session.step (.startExport key)).1.editor = session.editor ∧
        (new name kind).underWay (steps ++ [.startExport key]) = underWay) ∧
      ∀ key, key ∉ underWay →
        (session.step (.dropExport key)).1.editor = session.editor ∧
        (new name kind).underWay (steps ++ [.dropExport key]) = underWay := by
  intro session underWay
  have htracked : session.Tracked underWay := tracked_run name kind steps
  refine ⟨htracked.running, htracked.single, fun editor heditor => ?_, fun key error hrefused => ?_,
    fun key hkey => ?_⟩
  · have hflag := htracked.flag editor.exporting (by rw [exporting?, heditor]; rfl)
    rw [hflag, ← List.length_pos_iff]
    have := htracked.single
    omega
  · obtain ⟨hreason, heditor⟩ := editor_of_refused hrefused
    refine ⟨hreason, heditor, ?_⟩
    have hanswer : (((new name kind).run steps).step (.startExport key)).2 = .failed error :=
      hrefused
    rw [underWay_concat, hanswer]
    rfl
  · have hsilent : session.submitted? key = none := by
      rw [← Option.not_isSome_iff_eq_none, ← mem_running_iff htracked.distinct, htracked.running]
      exact hkey
    refine ⟨editor_of_dropped hsilent, ?_⟩
    have hends : (Step.dropExport key).ends? = some key := rfl
    rw [underWay_concat, Step.track_ends hends]
    exact filter_ne_of_submitted? hsilent htracked.submitted

/-- The first export runs on after the editor was closed, and the second one is refused. -/
theorem second_export_is_refused :
    let steps := [Step.makeExport, .startExport 0, .makeExport, .editor .close]
    let session := (new "Demo" .web).run steps
    (∀ editor, session.editor = some editor → editor.exporting = true) ∧
      (session.step (.startExport 1)).2 = .failed .discarded ∧
      (session.step (.startExport 1)).1.editor = session.editor := by
  intro steps session
  have hone : ((new "Demo" .web).underWay steps).length = 1 := rfl
  have hrefused : (session.step (.startExport 1)).2 = .failed .discarded := rfl
  obtain ⟨-, -, hflag, hrefusal, -⟩ := exporting_iff_under_way "Demo" .web steps
  exact ⟨fun editor heditor => (hflag editor heditor).mpr hone, hrefused,
    (hrefusal 1 .discarded hrefused).2.1⟩

end Session

end DiagramStudio
