import DiagramStudio.Proofs.Session.Supersession

/-!
# Loads that hold the gate in vain

A diagram that is loaded directly supersedes the load under way. If the diagram of the editor is
replaced, the load loses the gate as well. If the diagram is loaded straight into the canvas, the
load keeps the gate until it ends, although its result will be discarded: the gate refuses every
other load meanwhile. So a load that holds the gate can still take effect exactly if no diagram was
loaded into the canvas since its ticket was issued.

Results:
* `aged_step`, `aged_run`: the generations between a load and the canvas are the diagrams that were
  loaded into the canvas.
* `held_gate_is_of_use_iff`: when the load that holds the gate can still take effect, and what the
  two ways of loading a diagram directly do to the gate.
* `gate_held_in_vain`: a gate that is held by a load whose result will be discarded.
-/

namespace DiagramStudio

/-- The end of another load counts as no generation for the load that holds the gate. -/
theorem Gate.generation_of_held {gate : Gate} {ticket : UInt64} {arrived : Bool}
    {pending : PendingLoad} (hopen : gate.closed = false)
    (h : (gate.finished ticket arrived).pending = some pending) :
    (gate.finished ticket arrived).generation = gate.generation := by
  obtain ⟨hheld, hne⟩ := (Gate.pending_finished hopen).mp h
  rw [Gate.generation_finished, if_neg]
  rw [Bool.and_eq_true, Gate.awaits_iff, hheld]
  rintro ⟨⟨-, hsame⟩, -⟩
  cases hsame
  exact hne rfl

namespace Session

variable {session next : Session} {loads : Nat} {step : Step} {answer : Answer} {ticket : UInt64}

/-! ## Diagrams loaded into the canvas -/

/-- Whether the user loads a diagram straight into the canvas. -/
def Step.loadsCanvas : Step → Bool
  | .editor (.canvas (.load _)) => true
  | _ => false

/-- How many diagrams were loaded into the canvas since the last ticket, when one more step gave
that answer. -/
def countCanvasLoads (loads : Nat) (step : Step) (answer : Answer) : Nat :=
  if answer.ticket?.isSome then 0 else loads + step.loadsCanvas.toNat

/-- The number of diagrams that were loaded straight into the canvas in a run since its last ticket
was issued. -/
def canvasLoads (session : Session) (steps : List Step) : Nat :=
  (moments Session.step session steps).foldl
    (fun loads (session, step) => countCanvasLoads loads step (session.step step).2) 0

theorem loadsDirectly_of_loadsCanvas (h : step.loadsCanvas = true) : step.loadsDirectly = true := by
  cases step with
  | editor step =>
    cases step with
    | canvas step => cases step <;> first | rfl | cases h
    | _ => cases h
  | _ => cases h

theorem countCanvasLoads_silent (h : answer.ticket? = none) :
    countCanvasLoads loads step answer = loads + step.loadsCanvas.toNat := by
  rw [countCanvasLoads, h, Option.isSome_none, if_neg Bool.false_ne_true]

/-! ## The age of a load -/

/-- A load that holds the gate is under way, the editor is open, and so many diagrams were loaded
since the load was reserved. -/
def Aged (session : Session) (loads : Nat) : Prop :=
  ∀ gate pending, session.gate? = some gate → gate.pending = some pending →
    gate.closed = false ∧ pending.ticket ∈ session.carried ∧
      gate.generation = pending.generation + UInt64.ofNat loads

theorem aged_new (name : String) (kind : ProjectKind) : (new name kind).Aged 0 := by
  rintro gate pending ⟨⟩ hpending
  cases hpending

/-- The end of a load that takes the gate from no other one leaves the age of the load that holds
it. -/
theorem Aged.end (h : session.Aged loads) {change : Gate → Gate}
    (hgate : next.gate? = session.gate?.map change)
    (hlive : next.live = session.live.filter (·.1 ≠ ticket))
    (hheld : ∀ gate pending, (change gate).pending = some pending → gate.pending = some pending)
    (hkept : ∀ gate pending, gate.closed = false → (change gate).pending = some pending →
      pending.ticket ≠ ticket ∧ (change gate).closed = gate.closed ∧
        (change gate).generation = gate.generation) :
    next.Aged loads := by
  intro after pending hafter hpending
  rw [hgate, Option.map_eq_some_iff] at hafter
  obtain ⟨gate, hbefore, rfl⟩ := hafter
  obtain ⟨hopen, hcarried, hage⟩ := h gate pending hbefore (hheld gate pending hpending)
  obtain ⟨hne, hclosed, hgeneration⟩ := hkept gate pending hopen hpending
  exact ⟨hclosed.trans hopen, (carried_without hlive).2 _ hcarried hne, hgeneration.trans hage⟩

/-- What the user does in the editor leaves the gate to a load that is by so many diagrams older. -/
theorem Aged.edit (h : session.Aged loads) {step : Editor.Step} {gate : Gate}
    (hbefore : session.gate? = some gate) (hafter : next.gate? = some (gate.after step))
    (hlive : next.live = session.live) :
    next.Aged (loads + (Step.loadsCanvas (.editor step)).toNat) := by
  intro after pending hsame hpending
  rw [hafter] at hsame
  cases hsame
  obtain ⟨hheld, hclosed⟩ := Gate.pending_after hpending
  obtain ⟨hopen, hcarried, hage⟩ := h gate pending hbefore hheld
  refine ⟨hclosed.trans hopen, ?_, ?_⟩
  · rwa [carried_eq, hlive, ← carried_eq]
  · cases step with
    | replace diagram => cases hpending
    | canvas step =>
      cases step with
      | load diagram =>
        show gate.generation + 1 = pending.generation + UInt64.ofNat (loads + 1)
        rw [hage, UInt64.ofNat_add, UInt64.add_assoc]
        rfl
      | _ => exact hage
    | _ => exact hage

theorem Aged.effect (h : session.Aged loads) (heffect : Effect session next step answer) :
    next.Aged (countCanvasLoads loads step answer) := by
  cases heffect with
  | issue request gate hbefore hopen _ hafter hlive =>
    intro after pending hsame hpending
    rw [hafter] at hsame
    cases hsame
    cases hpending
    refine ⟨hopen, ?_, (UInt64.add_zero _).symm⟩
    rw [carried_eq, hlive, List.map_append, List.mem_append]
    exact .inr (List.mem_singleton.mpr rfl)
  | finish other outcome _ hsilent _ hgate hlive =>
    rw [countCanvasLoads_silent hsilent]
    refine h.end hgate hlive (fun _ _ => Gate.pending_of_finished)
      fun gate pending hopen hheld => ?_
    exact ⟨((Gate.pending_finished hopen).mp hheld).2, Gate.closed_finished _ _ _,
      Gate.generation_of_held hopen hheld⟩
  | abandon other hgate hlive =>
    refine h.end hgate hlive (fun _ _ hheld => (Gate.pending_abandoned.mp hheld).1)
      fun gate pending _ hheld => ?_
    exact ⟨(Gate.pending_abandoned.mp hheld).2, Gate.closed_abandoned _ _,
      Gate.generation_abandoned _ _⟩
  | edit step outcome gate hbefore hafter hlive => exact h.edit hbefore hafter hlive
  | leave hgone _ =>
    intro gate pending hgate
    rw [hgone] at hgate
    cases hgate
  | keep _ _ hsilent _ habsent hgate hlive =>
    intro gate pending hsame hpending
    rw [hgate] at hsame
    have hindirect : step.loadsCanvas = false := by
      rw [← Bool.not_eq_true]
      intro hcanvas
      rw [habsent (loadsDirectly_of_loadsCanvas hcanvas)] at hsame
      cases hsame
    rw [countCanvasLoads_silent hsilent, hindirect]
    obtain ⟨hopen, hcarried, hage⟩ := h gate pending hsame hpending
    refine ⟨hopen, ?_, hage⟩
    rwa [carried_eq, hlive, ← carried_eq]

theorem aged_step (h : session.Aged loads) (step : Step) :
    (session.step step).1.Aged (countCanvasLoads loads step (session.step step).2) :=
  h.effect (step_effect session step)

theorem aged_run (h : session.Aged loads) (steps : List Step) :
    (session.run steps).Aged ((moments Session.step session steps).foldl
      (fun loads (session, step) => countCanvasLoads loads step (session.step step).2) loads) := by
  induction steps generalizing session loads with
  | nil => exact h
  | cons step steps ih => exact ih (aged_step h step)

/-- A load that holds the gate is awaited exactly if no diagram was loaded since it was reserved, or
so many that the generations came round again. -/
theorem Aged.awaits_iff (h : session.Aged loads) {gate : Gate} {pending : PendingLoad}
    (hgate : session.gate? = some gate) (hpending : gate.pending = some pending) :
    session.Awaits pending.ticket ↔ UInt64.size ∣ loads := by
  obtain ⟨hopen, -, hage⟩ := h gate pending hgate hpending
  have hround : UInt64.ofNat loads = 0 ↔ UInt64.size ∣ loads := by
    rw [← UInt64.toNat_inj, UInt64.toNat_ofNat', Nat.dvd_iff_mod_eq_zero]
    rfl
  rw [awaits_of_gate? hgate, Gate.awaits_iff, hpending, ← hround, hage, Option.some_inj]
  constructor
  · rintro ⟨-, hsame⟩
    exact UInt64.left_eq_add.mp (congrArg PendingLoad.generation hsame)
  · intro hnone
    refine ⟨hopen, ?_⟩
    rw [hnone, UInt64.add_zero]

/-! ## The gate -/

/-- A step of the user is a step of the editor. -/
theorem step_editor {editor : Editor} (heditor : session.editor = some editor)
    (step : Editor.Step) :
    session.step (.editor step) =
      ({ session with editor := some (editor.step step).1 }, .editor (editor.step step).2) := by
  simp only [Session.step, heditor]

/-- While a load holds the gate of an open editor, no other load can be reserved. -/
theorem reserve_held {editor : Editor} (heditor : session.editor = some editor)
    (hopen : editor.closed = false) (hheld : editor.isBusy = true) (request : LoadRequest) :
    (session.step (.reserve request)).2 = .failed .busy := by
  have hrefused : editor.beginLoad = (editor, .error .busy) := by
    simp [Editor.beginLoad, hopen, hheld]
  simp only [Session.step, reserve, withEditor, heditor, hrefused]

/-- Whether the gate is free, so that any load can be reserved. -/
def Free (session : Session) : Prop :=
  session.holder = some none ∧
    ∀ request, ∃ ticket, (session.step (.reserve request)).2 = .ticket ticket

/-- **When a load holds the gate in vain.** Whatever the steps of a session, the load that holds the
gate installs its diagram if and only if no diagram was loaded into the canvas since it was reserved
(or a multiple of `2 ^ 64` of them); in the other case every result of it is discarded. To replace
the diagram of the editor frees the gate for a new load. To load a diagram into the canvas does not:
the gate is held as before, and every new load is refused. -/
theorem held_gate_is_of_use_iff (name : String) (kind : ProjectKind) (steps : List Step)
    {editor : Editor} {pending : PendingLoad}
    (heditor : ((new name kind).run steps).editor = some editor)
    (hpending : editor.pending = some pending) :
    let session := (new name kind).run steps
    let loads := (new name kind).canvasLoads steps
    (∀ diagram, Installed diagram (session.step (.finishLoad pending.ticket (.ok diagram))) ↔
      UInt64.size ∣ loads) ∧
    (¬ UInt64.size ∣ loads → ∀ outcome,
      Discarded session (session.step (.finishLoad pending.ticket outcome))) ∧
    (∀ diagram, (session.step (.editor (.replace diagram))).1.Free) ∧
    ∀ diagram, (session.step (.editor (.canvas (.load diagram)))).1.holder = session.holder ∧
      ∀ request, ((session.step (.editor (.canvas (.load diagram)))).1.step (.reserve request)).2 =
        .failed .busy := by
  intro session loads
  have haged : session.Aged loads := aged_run (aged_new name kind) steps
  have hgate : session.gate? = some editor.gate := by rw [gate?, heditor, Option.map_some]
  obtain ⟨hopen, hcarried, -⟩ := haged editor.gate pending hgate hpending
  obtain ⟨load, hload⟩ := load?_of_mem_carried hcarried
  have hawaits : session.Awaits pending.ticket ↔ UInt64.size ∣ loads :=
    haged.awaits_iff hgate hpending
  refine ⟨fun diagram => ⟨fun hinstalled => ?_, fun hfresh => ?_⟩, fun hstale outcome => ?_,
    fun diagram => ⟨?_, fun request => ?_⟩, fun diagram => ⟨?_, fun request => ?_⟩⟩
  · by_contra hstale
    have hdiscarded := discarded_of_not_awaits hload (mt hawaits.mp hstale) (.ok diagram)
    rw [Discarded, hinstalled.1] at hdiscarded
    cases hdiscarded.1
  · exact installed_of_awaits hload (hawaits.mpr hfresh) diagram
  · exact discarded_of_not_awaits hload (mt hawaits.mp hstale) outcome
  · rw [step_editor heditor]
    rfl
  · rw [reserve_iff, step_editor heditor]
    exact ⟨_, rfl, hopen, rfl⟩
  · rw [holder, holder, heditor, step_editor heditor]
    rfl
  · have hstill : (editor.step (.canvas (.load diagram))).1.closed = false := hopen
    have hheld : (editor.step (.canvas (.load diagram))).1.isBusy = true := by
      show editor.pending.isSome = true
      rw [hpending, Option.isSome_some]
    rw [step_editor heditor]
    exact reserve_held rfl hstill hheld request

/-- A load that was reserved after a diagram was loaded into the canvas holds the gate to some
purpose. -/
theorem gate_held_to_purpose :
    let steps := [Step.reserve (.template "shop"), .editor (.canvas (.load ⟨[], []⟩)),
      .dropLoad 0, .reserve (.template "blog")]
    let session := (new "Demo" .web).run steps
    session.holder = some (some ⟨1, 1⟩) ∧
      (∀ diagram, Installed diagram (session.step (.finishLoad 1 (.ok diagram)))) ∧
      ∀ diagram, (session.step (.editor (.replace diagram))).1.Free := by
  intro steps session
  have huse := held_gate_is_of_use_iff "Demo" .web steps rfl rfl
  exact ⟨rfl, fun diagram => (huse.1 diagram).mpr (Nat.dvd_zero _), huse.2.2.1⟩

/-- After a diagram was loaded into the canvas, the load under way holds the gate against all
others, although its diagram will not be installed. -/
theorem gate_held_in_vain :
    let session := (new "Demo" .web).run
      [.reserve (.template "shop"), .editor (.canvas (.load ⟨[], []⟩))]
    session.editor.any (·.isBusy) = true ∧
      (∀ request, (session.step (.reserve request)).2 = .failed .busy) ∧
      ∀ diagram, ¬ Installed diagram (session.step (.finishLoad 0 (.ok diagram))) := by
  refine ⟨rfl, fun request => rfl, ?_⟩
  rintro diagram ⟨hanswer, -⟩
  cases hanswer

end Session

end DiagramStudio
