import DiagramStudio.Proofs.Session.Gate

/-!
# What a step does to the loads

Of a session, only the gate and the loads under way matter for loads. `Effect` lists what a step can
do to them; every property of loads follows from it case by case, whatever else the step does.

Results:
* `step_effect`: every step of a session has one of the listed effects.
-/

namespace DiagramStudio.Session

/-- The gate, unless the session was dropped. -/
def gate? (session : Session) : Option Gate := session.editor.map Editor.gate

/-- The loads under way, each with its ticket and its request. -/
def live (session : Session) : List (UInt64 × LoadRequest) :=
  session.loads.map fun load => (load.ticket, load.request)

/-- What a step with that answer can do to the gate and to the loads under way. -/
inductive Effect (session next : Session) : Step → Answer → Prop
  /-- A load is reserved at a gate that is open and free. -/
  | issue (request : LoadRequest) (gate : Gate) (before : session.gate? = some gate)
      (opened : gate.closed = false) (free : gate.pending = none)
      (after : next.gate? = some gate.issued)
      (live : next.live = session.live ++ [(gate.nextTicket, request)]) :
      Effect session next (.reserve request) (.ticket gate.nextTicket)
  /-- A load that was under way ends. -/
  | finish (ticket : UInt64) (outcome : Except ServiceError Diagram) (answer : Answer)
      (silent : answer.ticket? = none)
      (loads : Step.loads (.finishLoad ticket outcome) answer =
        session.gate?.any fun gate => gate.awaits ticket && outcome.isOk)
      (gate : next.gate? = session.gate?.map (·.finished ticket outcome.isOk))
      (live : next.live = session.live.filter (·.1 ≠ ticket)) :
      Effect session next (.finishLoad ticket outcome) answer
  /-- A load that was under way is given up. -/
  | abandon (ticket : UInt64)
      (gate : next.gate? = session.gate?.map (·.abandoned ticket))
      (live : next.live = session.live.filter (·.1 ≠ ticket)) :
      Effect session next (.dropLoad ticket) .done
  /-- The user does something in the editor. -/
  | edit (step : Editor.Step) (outcome : Outcome) (gate : Gate)
      (before : session.gate? = some gate) (after : next.gate? = some (gate.after step))
      (live : next.live = session.live) :
      Effect session next (.editor step) (.editor outcome)
  /-- The session is dropped. -/
  | leave (gate : next.gate? = none) (live : next.live = session.live) :
      Effect session next .drop .done
  /-- Nothing happens to the gate or the loads. -/
  | keep (step : Step) (answer : Answer) (silent : answer.ticket? = none)
      (still : step.loads answer = false)
      (absent : step.loadsDirectly = true → session.gate? = none)
      (gate : next.gate? = session.gate?) (live : next.live = session.live) :
      Effect session next step answer

variable {session : Session} {ticket : UInt64}

/-! ## Loads under way -/

theorem live_withoutLoad (session : Session) (ticket : UInt64) :
    (session.withoutLoad ticket).live = session.live.filter (·.1 ≠ ticket) := by
  rw [live, live, List.filter_map]
  rfl

/-- Starting a load keeps its ticket and its request. -/
theorem live_startLoad (session : Session) (ticket : UInt64) :
    (session.startLoad ticket).1.live = session.live := by
  unfold startLoad
  split
  · rfl
  · simp only [live, List.map_map]
    apply List.map_congr_left
    intro load _
    simp only [Function.comp_apply]
    split <;> rfl

theorem mem_live_of_load? {load : Load} (h : session.load? ticket = some load) :
    (ticket, load.request) ∈ session.live := by
  have hticket : load.ticket = ticket := by simpa using List.find?_some h
  rw [← hticket]
  exact List.mem_map_of_mem (List.mem_of_find?_eq_some h)

/-! ## The end of a load -/

/-- The answer to the end of a load. -/
def loadAnswer : Except ServiceError Unit → Answer
  | .ok () => .done
  | .error error => .failed error

/-- In a session that was dropped, the result of a load is discarded. -/
theorem finishLoad_dropped {load : Load} (hload : session.load? ticket = some load)
    (hgone : session.editor = none) (outcome : Except ServiceError Diagram) :
    session.finishLoad ticket outcome = (session.withoutLoad ticket, .failed .discarded) := by
  have hrest : (session.withoutLoad ticket).editor = none := hgone
  simp only [finishLoad, hload, withEditor, hrest]

/-- Otherwise it is up to the editor. -/
theorem finishLoad_editor {load : Load} (hload : session.load? ticket = some load)
    {editor : Editor} (heditor : session.editor = some editor)
    (outcome : Except ServiceError Diagram) :
    session.finishLoad ticket outcome =
      ({ session.withoutLoad ticket with
          editor := some (editor.finishLoad ticket load.request outcome).1 },
        loadAnswer (editor.finishLoad ticket load.request outcome).2) := by
  have hrest : (session.withoutLoad ticket).editor = some editor := heditor
  simp only [finishLoad, hload, withEditor, hrest]
  cases (editor.finishLoad ticket load.request outcome).2 with
  | ok _ => rfl
  | error _ => rfl

theorem gate?_finishLoad {load : Load} (hload : session.load? ticket = some load)
    (outcome : Except ServiceError Diagram) :
    (session.finishLoad ticket outcome).1.gate? =
      session.gate?.map (·.finished ticket outcome.isOk) := by
  cases heditor : session.editor with
  | none =>
    rw [finishLoad_dropped hload heditor]
    simp [gate?, withoutLoad, heditor]
  | some editor =>
    rw [finishLoad_editor hload heditor]
    simp [gate?, heditor, Editor.gate_finishLoad]

theorem gate?_dropLoad {load : Load} (hload : session.load? ticket = some load) :
    (session.dropLoad ticket).1.gate? = session.gate?.map (·.abandoned ticket) := by
  simp only [dropLoad, hload]
  simp [gate?, withoutLoad, Function.comp_def, Editor.gate_abandonLoad]

/-! ## One step -/

theorem effect_reserve (session : Session) (request : LoadRequest) :
    Effect session (session.reserve request).1 (.reserve request)
      (session.reserve request).2 := by
  unfold reserve withEditor
  cases heditor : session.editor with
  | none => exact .keep _ _ rfl rfl nofun rfl rfl
  | some editor =>
    have hgate : session.gate? = some editor.gate := by rw [gate?, heditor, Option.map_some]
    by_cases hfree : editor.closed = false ∧ editor.pending = none
    · simp only [Editor.beginLoad_free hfree.1 hfree.2]
      exact .issue request editor.gate hgate hfree.1 hfree.2 rfl (by simp [live, Editor.gate])
    · obtain ⟨error, hrefused⟩ := Editor.beginLoad_refused hfree
      simp only [hrefused]
      exact .keep _ _ rfl rfl nofun hgate.symm rfl

theorem effect_startLoad (session : Session) (ticket : UInt64) :
    Effect session (session.startLoad ticket).1 (.startLoad ticket)
      (session.startLoad ticket).2 := by
  have hlive := live_startLoad session ticket
  unfold startLoad at hlive ⊢
  cases hload : session.load? ticket with
  | none => exact .keep _ _ rfl rfl nofun rfl rfl
  | some load =>
    rw [hload] at hlive
    exact .keep _ _ rfl rfl nofun rfl hlive

theorem effect_finishLoad (session : Session) (ticket : UInt64)
    (outcome : Except ServiceError Diagram) :
    Effect session (session.finishLoad ticket outcome).1 (.finishLoad ticket outcome)
      (session.finishLoad ticket outcome).2 := by
  cases hload : session.load? ticket with
  | none =>
    simp only [finishLoad, hload]
    exact .keep _ _ rfl rfl nofun rfl rfl
  | some load =>
    have hgate := gate?_finishLoad hload outcome
    have hlive := session.live_withoutLoad ticket
    cases heditor : session.editor with
    | none =>
      rw [finishLoad_dropped hload heditor] at hgate ⊢
      refine .finish ticket outcome _ rfl ?_ hgate hlive
      simp [Step.loads, gate?, heditor]
    | some editor =>
      have hok := editor.isOk_finishLoad ticket load.request outcome
      rw [finishLoad_editor hload heditor] at hgate ⊢
      refine .finish ticket outcome _ ?_ ?_ hgate hlive
      · cases (editor.finishLoad ticket load.request outcome).2 <;> rfl
      · rw [gate?, heditor, Option.map_some, Option.any_some, ← hok]
        cases (editor.finishLoad ticket load.request outcome).2 <;> rfl

theorem effect_dropLoad (session : Session) (ticket : UInt64) :
    Effect session (session.dropLoad ticket).1 (.dropLoad ticket)
      (session.dropLoad ticket).2 := by
  cases hload : session.load? ticket with
  | none =>
    simp only [dropLoad, hload]
    exact .keep _ _ rfl rfl nofun rfl rfl
  | some load =>
    have hgate := gate?_dropLoad hload
    simp only [dropLoad, hload] at hgate ⊢
    exact .abandon ticket hgate (session.live_withoutLoad ticket)

/-- What keeps the gate of every editor keeps that of the session. -/
theorem gate?_withEditor {α : Type} {act : Editor → Editor × Except ServiceError α}
    (h : ∀ editor, (act editor).1.gate = editor.gate) (session : Session) :
    (session.withEditor act).1.gate? = session.gate? := by
  unfold withEditor
  cases heditor : session.editor with
  | none => rfl
  | some editor => simp [gate?, heditor, h]

theorem live_withEditor {α : Type} (act : Editor → Editor × Except ServiceError α)
    (session : Session) : (session.withEditor act).1.live = session.live := by
  unfold withEditor
  cases session.editor <;> rfl

theorem effect_startExport (session : Session) (key : Nat) :
    Effect session (session.startExport key).1 (.startExport key)
      (session.startExport key).2 := by
  unfold startExport
  split
  · exact .keep _ _ rfl rfl nofun rfl rfl
  · exact .keep _ _ rfl rfl nofun rfl rfl
  · have hgate := gate?_withEditor Editor.gate_beginExport session
    have hlive := live_withEditor Editor.beginExport session
    split <;> rename_i heq <;> rw [heq] at hgate hlive
    · exact .keep _ _ rfl rfl nofun hgate hlive
    · exact .keep _ _ rfl rfl nofun hgate hlive

theorem effect_finishExport (session : Session) (key : Nat)
    (outcome : Except ServiceError CodegenResponse) :
    Effect session (session.finishExport key outcome).1 (.finishExport key outcome)
      (session.finishExport key outcome).2 := by
  unfold finishExport
  split
  · have hgate := gate?_withEditor (·.gate_finishExport outcome) (session.withoutExport key)
    have hlive := live_withEditor (·.finishExport outcome) (session.withoutExport key)
    split <;> rename_i heq <;> rw [heq] at hgate hlive
    · exact .keep _ _ rfl rfl nofun hgate hlive
    · exact .keep _ _ rfl rfl nofun hgate hlive
  · exact .keep _ _ rfl rfl nofun rfl rfl

theorem effect_dropExport (session : Session) (key : Nat) :
    Effect session (session.dropExport key).1 (.dropExport key)
      (session.dropExport key).2 := by
  unfold dropExport
  split
  · exact .keep _ _ rfl rfl nofun rfl rfl
  · exact .keep _ _ rfl rfl nofun rfl rfl
  · refine .keep _ _ rfl rfl nofun ?_ rfl
    simp [gate?, withoutExport, Function.comp_def, Editor.gate_abandonExport]

/-- Every step has one of the effects. -/
theorem step_effect (session : Session) (step : Step) :
    Effect session (session.step step).1 step (session.step step).2 := by
  cases step with
  | reserve request => exact effect_reserve session request
  | startLoad ticket => exact effect_startLoad session ticket
  | finishLoad ticket outcome => exact effect_finishLoad session ticket outcome
  | dropLoad ticket => exact effect_dropLoad session ticket
  | makeExport => exact .keep _ _ rfl rfl nofun rfl rfl
  | startExport key => exact effect_startExport session key
  | finishExport key outcome => exact effect_finishExport session key outcome
  | dropExport key => exact effect_dropExport session key
  | drop => exact .leave rfl rfl
  | editor step =>
    simp only [Session.step]
    cases heditor : session.editor with
    | none => exact .keep _ _ rfl rfl (fun _ => by rw [gate?, heditor]; rfl) rfl rfl
    | some editor =>
      refine .edit step _ editor.gate ?_ ?_ rfl
      · rw [gate?, heditor, Option.map_some]
      · rw [gate?, Option.map_some, Editor.gate_step]

end DiagramStudio.Session
