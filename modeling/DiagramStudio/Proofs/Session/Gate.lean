import DiagramStudio.Proofs.Canvas.Revision
import DiagramStudio.Proofs.Session.History

/-!
# The gate of loads

Of an editor, the gate is what decides about loads: the next ticket, the load that holds the gate,
whether the editor is closed, and the generation of the canvas. What the editor does to its gate is
said here once; the properties of loads need not look into the editor again.

Results:
* `Canvas.generation_step`, `Inspector.generation_step`: only the loading of a diagram counts as a
  generation.
* `Gate.pending_finished`, `Gate.pending_abandoned`: a load that ends takes the gate from no other.
* `Gate.awaits_finished`, `Gate.awaits_after`: what leaves an awaited load awaited.
* `Editor.gate_step`, `Editor.gate_finishLoad`, `Editor.gate_abandonLoad`: what happens to the gate.
* `Editor.finishLoad_ok`, `Editor.finishLoad_error`, `Editor.finishLoad_unawaited`: what becomes of
  the result of a load.
-/

namespace DiagramStudio

/-! ## Generations of the canvas -/

/-- The number of diagrams that a gesture loads. -/
def Canvas.Step.loads : Canvas.Step → UInt64
  | .load _ => 1
  | _ => 0

namespace Canvas

@[simp] theorem generation_deleteSelection (canvas : Canvas) :
    canvas.deleteSelection.1.generation = canvas.generation := by
  unfold deleteSelection
  cases canvas.selection <;> rfl

/-- Only the loading of a diagram counts as a generation. -/
theorem generation_step (canvas : Canvas) (step : Step) :
    (canvas.step step).1.generation = canvas.generation + step.loads := by
  cases step with
  | drop payload point =>
    simp only [Canvas.step, drop, Step.loads, UInt64.add_zero]
    split <;> rfl
  | clickNode id =>
    simp only [Canvas.step, clickNode, Step.loads, UInt64.add_zero]
    split <;> rfl
  | clickEdge id =>
    simp only [Canvas.step, clickEdge, Step.loads, UInt64.add_zero]
    split <;> rfl
  | deleteSelection => simp [Canvas.step, Step.loads]
  | removeEdge id =>
    simp only [Canvas.step, removeEdge, Step.loads, UInt64.add_zero]
    split <;> rfl
  | load diagram => rfl
  | connect _ | drag _ _ | resize _ _ | clickPane | look _ | updateNode _ _ | updateEdge _ _ =>
    exact (UInt64.add_zero _).symm

end Canvas

namespace Inspector

/-- The inspector loads no diagrams. -/
theorem generation_step (inspector : Inspector) (canvas : Canvas) (step : Step) :
    (inspector.step canvas step).2.1.generation = canvas.generation := by
  cases hclears : step.clears with
  | false => rw [(inspector.revision_step canvas hclears).frame]
  | true =>
    cases step with
    | close => rfl
    | delete => exact Canvas.generation_deleteSelection canvas
    | _ => cases hclears

end Inspector

/-! ## The gate -/

/-- What decides about loads. -/
structure Gate where
  nextTicket : UInt64
  pending : Option PendingLoad
  closed : Bool
  generation : UInt64

namespace Gate

/-- The gate after a ticket was issued. -/
def issued (gate : Gate) : Gate :=
  { gate with
    nextTicket := gate.nextTicket + 1
    pending := some ⟨gate.nextTicket, gate.generation⟩ }

/-- Whether the load of a ticket holds the gate. -/
def heldBy (gate : Gate) (ticket : UInt64) : Bool := gate.pending.any (·.ticket = ticket)

/-- Whether a result of the load of a ticket is used: the editor is open, the load holds the gate,
and no diagram was loaded since it was reserved. -/
def awaits (gate : Gate) (ticket : UInt64) : Bool :=
  !gate.closed && gate.pending = some ⟨ticket, gate.generation⟩

/-- The gate after a load was given up. -/
def abandoned (gate : Gate) (ticket : UInt64) : Gate :=
  if gate.heldBy ticket then { gate with pending := none } else gate

/-- The gate after a load ended. A diagram that is awaited counts as a generation. -/
def finished (gate : Gate) (ticket : UInt64) (arrived : Bool) : Gate :=
  if gate.closed then gate
  else if gate.awaits ticket && arrived then
    { gate with pending := none, generation := gate.generation + 1 }
  else gate.abandoned ticket

/-- The gate after a step of the user. -/
def after (gate : Gate) : Editor.Step → Gate
  | .close => { gate with pending := none, closed := true }
  | .replace _ => { gate with pending := none, generation := gate.generation + 1 }
  | .canvas (.load _) => { gate with generation := gate.generation + 1 }
  | _ => gate

theorem heldBy_iff {gate : Gate} {ticket : UInt64} :
    gate.heldBy ticket = true ↔
      ∃ pending, gate.pending = some pending ∧ pending.ticket = ticket := by
  cases hpending : gate.pending <;> simp [heldBy, hpending]

theorem awaits_iff {gate : Gate} {ticket : UInt64} :
    gate.awaits ticket = true ↔
      gate.closed = false ∧ gate.pending = some ⟨ticket, gate.generation⟩ := by
  simp [awaits]

theorem heldBy_of_awaits {gate : Gate} {ticket : UInt64} (h : gate.awaits ticket = true) :
    gate.heldBy ticket = true :=
  heldBy_iff.mpr ⟨_, (awaits_iff.mp h).2, rfl⟩

@[simp] theorem nextTicket_abandoned (gate : Gate) (ticket : UInt64) :
    (gate.abandoned ticket).nextTicket = gate.nextTicket := by
  unfold abandoned
  split <;> rfl

@[simp] theorem closed_abandoned (gate : Gate) (ticket : UInt64) :
    (gate.abandoned ticket).closed = gate.closed := by
  unfold abandoned
  split <;> rfl

@[simp] theorem generation_abandoned (gate : Gate) (ticket : UInt64) :
    (gate.abandoned ticket).generation = gate.generation := by
  unfold abandoned
  split <;> rfl

/-- Giving up a load takes the gate from it and from no other load. -/
theorem pending_abandoned {gate : Gate} {ticket : UInt64} {pending : PendingLoad} :
    (gate.abandoned ticket).pending = some pending ↔
      gate.pending = some pending ∧ pending.ticket ≠ ticket := by
  unfold abandoned
  by_cases hheld : gate.heldBy ticket = true
  · obtain ⟨holder, hpending, hticket⟩ := heldBy_iff.mp hheld
    rw [if_pos hheld, hpending]
    constructor
    · nofun
    · rintro ⟨hsame, hne⟩
      cases hsame
      exact absurd hticket hne
  · rw [if_neg hheld]
    constructor
    · intro hpending
      exact ⟨hpending, fun hticket => hheld (heldBy_iff.mpr ⟨pending, hpending, hticket⟩)⟩
    · exact And.left

@[simp] theorem nextTicket_finished (gate : Gate) (ticket : UInt64) (arrived : Bool) :
    (gate.finished ticket arrived).nextTicket = gate.nextTicket := by
  unfold finished
  split
  · rfl
  · split
    · rfl
    · exact nextTicket_abandoned gate ticket

@[simp] theorem closed_finished (gate : Gate) (ticket : UInt64) (arrived : Bool) :
    (gate.finished ticket arrived).closed = gate.closed := by
  unfold finished
  split
  · rfl
  · split
    · rfl
    · exact closed_abandoned gate ticket

/-- The end of a load counts as a generation if its diagram is awaited. -/
theorem generation_finished (gate : Gate) (ticket : UInt64) (arrived : Bool) :
    (gate.finished ticket arrived).generation =
      if gate.awaits ticket && arrived then gate.generation + 1 else gate.generation := by
  unfold finished
  cases hclosed : gate.closed with
  | true => simp [awaits, hclosed]
  | false =>
    simp only [Bool.false_eq_true, if_false]
    split
    · rfl
    · exact generation_abandoned gate ticket

/-- The end of a load takes an open gate from it and from no other load. -/
theorem pending_finished {gate : Gate} {ticket : UInt64} {arrived : Bool} {pending : PendingLoad}
    (hopen : gate.closed = false) :
    (gate.finished ticket arrived).pending = some pending ↔
      gate.pending = some pending ∧ pending.ticket ≠ ticket := by
  rw [finished, hopen, if_neg Bool.false_ne_true]
  split
  · rename_i harrived
    rw [Bool.and_eq_true, awaits_iff] at harrived
    rw [harrived.1.2]
    constructor
    · nofun
    · rintro ⟨hpending, hne⟩
      cases hpending
      exact absurd rfl hne
  · exact pending_abandoned

/-- No load has the gate at the end of a load that did not have it before. -/
theorem pending_of_finished {gate : Gate} {ticket : UInt64} {arrived : Bool} {pending : PendingLoad}
    (h : (gate.finished ticket arrived).pending = some pending) : gate.pending = some pending := by
  cases hclosed : gate.closed with
  | true =>
    rw [finished, if_pos hclosed] at h
    exact h
  | false => exact ((pending_finished hclosed).mp h).1

@[simp] theorem nextTicket_after (gate : Gate) (step : Editor.Step) :
    (gate.after step).nextTicket = gate.nextTicket := by
  unfold after
  split <;> rfl

/-- The diagrams that the user loads directly count as generations. -/
theorem generation_after (gate : Gate) (step : Editor.Step) :
    (gate.after step).generation =
      if Session.Step.loadsDirectly (.editor step) then gate.generation + 1
      else gate.generation := by
  cases step with
  | canvas step => cases step <;> rfl
  | _ => rfl

/-- The user lets no load have the gate that did not have it before. -/
theorem pending_after {gate : Gate} {step : Editor.Step} {pending : PendingLoad}
    (h : (gate.after step).pending = some pending) :
    gate.pending = some pending ∧ (gate.after step).closed = gate.closed := by
  unfold after at h ⊢
  split at h
  · cases h
  · cases h
  · exact ⟨h, rfl⟩
  · exact ⟨h, rfl⟩

/-! ### Awaited loads -/

/-- Right after a ticket was issued, its load is awaited and no other. -/
theorem awaits_issued {gate : Gate} {ticket : UInt64} :
    gate.issued.awaits ticket = true ↔ gate.closed = false ∧ gate.nextTicket = ticket := by
  simp [awaits_iff, issued]

/-- Giving up another load is nothing to an awaited one. -/
theorem awaits_abandoned {gate : Gate} {ticket other : UInt64} (hne : ticket ≠ other) :
    (gate.abandoned other).awaits ticket = true ↔ gate.awaits ticket = true := by
  rw [awaits_iff, awaits_iff, closed_abandoned, generation_abandoned, pending_abandoned]
  constructor
  · rintro ⟨hopen, hpending, -⟩
    exact ⟨hopen, hpending⟩
  · rintro ⟨hopen, hpending⟩
    exact ⟨hopen, hpending, hne⟩

/-- While a load is awaited, no other load is. -/
theorem awaits_unique {gate : Gate} {ticket other : UInt64} (h : gate.awaits ticket = true)
    (hother : gate.awaits other = true) : ticket = other := by
  have hpending := (awaits_iff.mp h).2
  rw [(awaits_iff.mp hother).2, Option.some_inj, PendingLoad.mk.injEq] at hpending
  exact hpending.1.symm

/-- The end of another load is nothing to an awaited one. -/
theorem awaits_finished {gate : Gate} {ticket other : UInt64} (hne : ticket ≠ other)
    (arrived : Bool) :
    (gate.finished other arrived).awaits ticket = true ↔ gate.awaits ticket = true := by
  cases hclosed : gate.closed with
  | true => rw [finished, if_pos hclosed]
  | false =>
    rw [finished, if_neg (by simp [hclosed])]
    split
    · rename_i harrived
      rw [Bool.and_eq_true] at harrived
      constructor
      · intro h
        cases (awaits_iff.mp h).2
      · intro h
        exact absurd (awaits_unique h harrived.1) hne
    · exact awaits_abandoned hne

/-- A load stays awaited as long as the editor is open and no diagram is loaded directly. -/
theorem awaits_after {gate : Gate} {step : Editor.Step} {ticket : UInt64}
    (hnew : Session.Step.loadsDirectly (.editor step) = true →
      ∀ pending, gate.pending = some pending → pending.generation ≠ gate.generation + 1) :
    (gate.after step).awaits ticket = true ↔
      gate.awaits ticket = true ∧ (gate.after step).closed = false ∧
        Session.Step.loadsDirectly (.editor step) = false := by
  have hplain : gate.after step = gate → Session.Step.loadsDirectly (.editor step) = false →
      ((gate.after step).awaits ticket = true ↔
        gate.awaits ticket = true ∧ (gate.after step).closed = false ∧
          Session.Step.loadsDirectly (.editor step) = false) := by
    intro hsame hdirect
    rw [hsame]
    exact ⟨fun h => ⟨h, (awaits_iff.mp h).1, hdirect⟩, And.left⟩
  cases step with
  | close => simp [after, awaits]
  | replace diagram => simp [after, awaits, Session.Step.loadsDirectly]
  | canvas step =>
    cases step with
    | load diagram =>
      constructor
      · intro h
        exact absurd rfl (hnew rfl _ (awaits_iff.mp h).2)
      · rintro ⟨-, -, hdirect⟩
        cases hdirect
    | _ => exact hplain rfl rfl
  | _ => exact hplain rfl rfl

end Gate

namespace Editor

/-- The gate of an editor. -/
def gate (editor : Editor) : Gate :=
  ⟨editor.nextTicket, editor.pending, editor.closed, editor.canvas.generation⟩

theorem gate_step (editor : Editor) (step : Step) :
    (editor.step step).1.gate = editor.gate.after step := by
  cases step with
  | canvas step =>
    have hgeneration := Canvas.generation_step editor.canvas step
    cases step with
    | load diagram => rfl
    | _ =>
      simp only [Canvas.Step.loads, UInt64.add_zero] at hgeneration
      simp only [Editor.step, gate, Gate.after, hgeneration]
  | inspector step =>
    have hgeneration :=
      Inspector.generation_step (editor.inspector.sync editor.canvas) editor.canvas step
    simp only [Editor.step, gate, Gate.after, hgeneration]
  | close | dismiss _ | rename _ | replace _ => rfl

theorem gate_abandonLoad (editor : Editor) (ticket : UInt64) :
    (editor.abandonLoad ticket).gate = editor.gate.abandoned ticket := by
  unfold abandonLoad Gate.abandoned
  by_cases h : editor.pending.any (·.ticket = ticket) = true
  · have hheld : editor.gate.heldBy ticket = true := h
    rw [if_pos h, if_pos hheld]
    rfl
  · have hheld : ¬ editor.gate.heldBy ticket = true := h
    rw [if_neg h, if_neg hheld]

theorem awaits_gate {editor : Editor} {ticket : UInt64} :
    editor.gate.awaits ticket = true ↔
      editor.closed = false ∧ editor.pending = some ⟨ticket, editor.canvas.generation⟩ :=
  Gate.awaits_iff

/-- A gate that is open and free issues a ticket. -/
theorem beginLoad_free {editor : Editor} (hopen : editor.closed = false)
    (hfree : editor.pending = none) :
    editor.beginLoad =
      ({ editor with
          nextTicket := editor.nextTicket + 1
          pending := some ⟨editor.nextTicket, editor.canvas.generation⟩ },
        .ok editor.nextTicket) := by
  simp [beginLoad, isBusy, hopen, hfree]

/-- Any other gate refuses a load. -/
theorem beginLoad_refused {editor : Editor}
    (h : ¬ (editor.closed = false ∧ editor.pending = none)) :
    ∃ error, editor.beginLoad = (editor, .error error) := by
  unfold beginLoad isBusy
  cases hclosed : editor.closed with
  | true => exact ⟨.discarded, rfl⟩
  | false =>
    cases hpending : editor.pending with
    | none => exact absurd ⟨hclosed, hpending⟩ h
    | some pending => exact ⟨.busy, rfl⟩

/-- A result that is not awaited is discarded, and at most frees the gate. -/
theorem finishLoad_unawaited {editor : Editor} {ticket : UInt64}
    (h : ¬ editor.gate.awaits ticket = true) (request : LoadRequest)
    (outcome : Except ServiceError Diagram) :
    editor.finishLoad ticket request outcome =
      (if editor.closed then editor else editor.abandonLoad ticket, .error .discarded) := by
  rw [awaits_gate] at h
  unfold finishLoad abandonLoad
  cases hpending : editor.pending with
  | none => simp
  | some pending =>
    by_cases hticket : pending.ticket = ticket
    · cases hclosed : editor.closed with
      | true => simp
      | false =>
        -- The gate is held and open, so that a diagram was loaded in the meantime.
        have hstale : pending.generation ≠ editor.canvas.generation := by
          rintro hsame
          exact h ⟨hclosed, by rw [hpending, ← hticket, ← hsame]⟩
        simp [hticket, hstale]
    · simp [hticket]

/-- An awaited diagram is installed. -/
theorem finishLoad_ok {editor : Editor} {ticket : UInt64} (h : editor.gate.awaits ticket = true)
    (request : LoadRequest) (diagram : Diagram) :
    editor.finishLoad ticket request (.ok diagram) =
      (({ editor with pending := none } : Editor).install diagram, .ok ()) := by
  obtain ⟨hopen, hpending⟩ := awaits_gate.mp h
  simp [finishLoad, hopen, hpending]

/-- An awaited failure is told to the user. -/
theorem finishLoad_error {editor : Editor} {ticket : UInt64} (h : editor.gate.awaits ticket = true)
    (request : LoadRequest) (error : ServiceError) :
    editor.finishLoad ticket request (.error error) =
      (({ editor with pending := none } : Editor).notify .error (request.failure error),
        .error error) := by
  obtain ⟨hopen, hpending⟩ := awaits_gate.mp h
  simp [finishLoad, hopen, hpending]

theorem gate_finishLoad (editor : Editor) (ticket : UInt64) (request : LoadRequest)
    (outcome : Except ServiceError Diagram) :
    (editor.finishLoad ticket request outcome).1.gate =
      editor.gate.finished ticket outcome.isOk := by
  by_cases hawaits : editor.gate.awaits ticket = true
  · have hopen : ¬ editor.gate.closed = true := by simp [(Gate.awaits_iff.mp hawaits).1]
    rw [Gate.finished, if_neg hopen, hawaits, Bool.true_and]
    cases outcome with
    | ok diagram =>
      rw [finishLoad_ok hawaits]
      rfl
    | error error =>
      rw [finishLoad_error hawaits, Gate.abandoned, if_pos (Gate.heldBy_of_awaits hawaits)]
      rfl
  · rw [finishLoad_unawaited hawaits, Gate.finished]
    cases hclosed : editor.closed with
    | true =>
      have hshut : editor.gate.closed = true := hclosed
      rw [if_pos hshut]
      rfl
    | false =>
      have hopen : ¬ editor.gate.closed = true := by simp [gate, hclosed]
      have hunused : ¬ (editor.gate.awaits ticket && outcome.isOk) = true := by simp [hawaits]
      rw [if_neg hopen, if_neg hunused]
      exact gate_abandonLoad editor ticket

/-- A load succeeds when its diagram is awaited. -/
theorem isOk_finishLoad (editor : Editor) (ticket : UInt64) (request : LoadRequest)
    (outcome : Except ServiceError Diagram) :
    (editor.finishLoad ticket request outcome).2.isOk =
      (editor.gate.awaits ticket && outcome.isOk) := by
  by_cases hawaits : editor.gate.awaits ticket = true
  · rw [hawaits, Bool.true_and]
    cases outcome with
    | ok diagram => rw [finishLoad_ok hawaits]; rfl
    | error error => rw [finishLoad_error hawaits]; rfl
  · rw [finishLoad_unawaited hawaits, Bool.eq_false_iff.mpr hawaits]
    rfl

theorem gate_beginExport (editor : Editor) : editor.beginExport.1.gate = editor.gate := by
  unfold beginExport
  split
  · rfl
  · split <;> rfl

theorem gate_finishExport (editor : Editor) (outcome : Except ServiceError CodegenResponse) :
    (editor.finishExport outcome).1.gate = editor.gate := by
  unfold finishExport
  simp only
  split
  · rfl
  · split <;> rfl

theorem gate_abandonExport (editor : Editor) : editor.abandonExport.gate = editor.gate := rfl

end Editor

end DiagramStudio
