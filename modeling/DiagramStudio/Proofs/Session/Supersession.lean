import DiagramStudio.Proofs.Session.Reservation

/-!
# Loads that were superseded

A result of a load is used exactly if nothing came between: since the load was reserved, the session
stayed alive and the editor open, and no diagram was loaded directly. Two marks tell the editor so,
the ticket that holds the gate and the generation of the canvas, and neither says it alone: the gate
can be taken by a later load, and a diagram can be loaded while the gate is held.

Results:
* `dated_step`, `dated_run`: generations count the diagrams that were loaded.
* `Lasts.awaits_step_iff`, `Lasts.awaits_run_iff`: a load stays awaited as long as it is not
  disturbed.
* `result_used_iff_undisturbed`: what becomes of the result of a load.
-/

namespace DiagramStudio.Session

variable {session next : Session} {issued : List UInt64} {loaded : Nat} {step : Step}
  {answer : Answer} {ticket : UInt64}

/-! ## Generations -/

/-- What holds of the generations of a session in which so many diagrams were loaded. -/
structure Dated (session : Session) (loaded : Nat) : Prop where
  /-- The canvas is of the generation of the last diagram. -/
  counted : ∀ gate, session.gate? = some gate → gate.generation.toNat = loaded
  /-- A load that holds the gate is of that generation or an older one. -/
  older : ∀ gate pending, session.gate? = some gate → gate.pending = some pending →
    pending.generation.toNat ≤ loaded

theorem dated_new (name : String) (kind : ProjectKind) : (new name kind).Dated 0 where
  counted := by
    rintro gate ⟨⟩
    rfl
  older := by
    rintro gate pending ⟨⟩ hpending
    cases hpending

/-- A step that loads as many diagrams as it counts generations, and gives the gate to no load,
keeps the dates. -/
theorem Dated.mono (h : session.Dated loaded) {more : Bool}
    (hroom : loaded + more.toNat < UInt64.size)
    (hgate : ∀ after, next.gate? = some after → ∃ gate, session.gate? = some gate ∧
      after.generation = (if more then gate.generation + 1 else gate.generation) ∧
      ∀ pending, after.pending = some pending → gate.pending = some pending) :
    next.Dated (loaded + more.toNat) where
  counted := by
    intro after hafter
    obtain ⟨gate, hbefore, hgeneration, -⟩ := hgate after hafter
    have hcount := h.counted gate hbefore
    rw [hgeneration]
    cases more with
    | false => exact hcount
    | true =>
      rw [← hcount] at hroom ⊢
      exact toNat_succ_of_lt hroom
  older := by
    intro after pending hafter hpending
    obtain ⟨gate, hbefore, -, hsame⟩ := hgate after hafter
    exact Nat.le_add_right_of_le (h.older gate pending hbefore (hsame pending hpending))

theorem Dated.effect (h : session.Dated loaded) (heffect : Effect session next step answer)
    (hroom : loaded + (step.loads answer).toNat < UInt64.size) :
    next.Dated (loaded + (step.loads answer).toNat) := by
  cases heffect with
  | issue request gate hbefore _ _ hafter _ =>
    have hcount := h.counted gate hbefore
    refine ⟨?_, ?_⟩
    · intro after hsame
      rw [hafter] at hsame
      cases hsame
      exact hcount
    · intro after pending hsame hpending
      rw [hafter] at hsame
      cases hsame
      cases hpending
      exact Nat.le_of_eq hcount
  | finish ticket outcome _ _ hloads hgate _ =>
    rw [hloads] at hroom ⊢
    refine h.mono hroom fun after hafter => ?_
    rw [hgate, Option.map_eq_some_iff] at hafter
    obtain ⟨gate, hbefore, rfl⟩ := hafter
    refine ⟨gate, hbefore, ?_, fun pending => Gate.pending_of_finished⟩
    rw [hbefore, Option.any_some, Gate.generation_finished]
  | abandon ticket hgate _ =>
    refine h.mono hroom fun after hafter => ?_
    rw [hgate, Option.map_eq_some_iff] at hafter
    obtain ⟨gate, hbefore, rfl⟩ := hafter
    exact ⟨gate, hbefore, Gate.generation_abandoned _ _,
      fun pending hpending => (Gate.pending_abandoned.mp hpending).1⟩
  | edit step outcome gate hbefore hafter _ =>
    refine h.mono hroom fun after hsame => ?_
    rw [hafter] at hsame
    cases hsame
    exact ⟨gate, hbefore, Gate.generation_after _ _,
      fun pending hpending => (Gate.pending_after hpending).1⟩
  | leave hgone _ =>
    refine h.mono hroom fun after hsame => ?_
    rw [hgone] at hsame
    cases hsame
  | keep _ _ _ hstill _ hgate _ =>
    rw [hstill] at hroom ⊢
    refine h.mono hroom fun after hsame => ?_
    exact ⟨after, hgate ▸ hsame, rfl, fun pending hpending => hpending⟩

theorem dated_step (h : session.Dated loaded) (step : Step)
    (hroom : loaded + (step.loads (session.step step).2).toNat < UInt64.size) :
    (session.step step).1.Dated (loaded + (step.loads (session.step step).2).toNat) :=
  h.effect (step_effect session step) hroom

theorem dated_run {steps : List Step} (h : session.Dated loaded)
    (hroom : loaded + session.loadCount steps < UInt64.size) :
    (session.run steps).Dated (loaded + session.loadCount steps) := by
  induction steps generalizing session loaded with
  | nil => exact h
  | cons step steps ih =>
    rw [loadCount_cons, ← Nat.add_assoc] at hroom ⊢
    rw [run_cons]
    exact ih (dated_step h step (by omega)) hroom

/-! ## Awaited loads -/

/-- Whether a result of the load of a ticket is used. -/
def Awaits (session : Session) (ticket : UInt64) : Prop :=
  ∃ gate, session.gate? = some gate ∧ gate.awaits ticket = true

theorem awaits_of_gate? {gate : Gate} (h : session.gate? = some gate) :
    session.Awaits ticket ↔ gate.awaits ticket = true := by
  constructor
  · rintro ⟨other, hother, hawaits⟩
    rw [h] at hother
    cases hother
    exact hawaits
  · intro hawaits
    exact ⟨gate, h, hawaits⟩

theorem isOpen_of_gate? {gate : Gate} (h : session.gate? = some gate) :
    session.isOpen = true ↔ gate.closed = false := by
  rw [isOpen_iff, h]
  simp

theorem Awaits.isOpen (h : session.Awaits ticket) : session.isOpen = true := by
  obtain ⟨gate, hgate, hawaits⟩ := h
  exact isOpen_iff.mpr ⟨gate, hgate, (Gate.awaits_iff.mp hawaits).1⟩

/-- A load under way with a ticket that was issued before was under way before. -/
theorem Gated.live_of_effect (h : session.Gated issued) (heffect : Effect session next step answer)
    (hissued : ticket ∈ issued) {request : LoadRequest} (hlive : (ticket, request) ∈ next.live) :
    (ticket, request) ∈ session.live := by
  cases heffect with
  | issue other gate hbefore _ _ _ hnext =>
    rw [hnext, List.mem_append, List.mem_singleton, Prod.mk.injEq] at hlive
    rcases hlive with hold | ⟨hnew, -⟩
    · exact hold
    · have hlt := h.lt_next hbefore hissued
      rw [hnew] at hlt
      exact absurd hlt (UInt64.lt_irrefl _)
  | finish _ _ _ _ _ _ hnext => exact (List.mem_filter.mp (hnext ▸ hlive)).1
  | abandon _ _ hnext => exact (List.mem_filter.mp (hnext ▸ hlive)).1
  | edit _ _ _ _ _ hnext => exact hnext ▸ hlive
  | leave _ hnext => exact hnext ▸ hlive
  | keep _ _ _ _ _ _ hnext => exact hnext ▸ hlive

/-- A canvas that is loaded anew is of a generation that no load has. -/
theorem Dated.new_generation (h : session.Dated loaded) (hroom : loaded + 1 < UInt64.size)
    {gate : Gate} (hgate : session.gate? = some gate) (pending : PendingLoad)
    (hpending : gate.pending = some pending) : pending.generation ≠ gate.generation + 1 := by
  intro hsame
  have hcount := h.counted gate hgate
  have holder := h.older gate pending hgate hpending
  rw [← hcount] at hroom
  rw [hsame, toNat_succ_of_lt hroom] at holder
  omega

/-- A load that is still under way is not one of those that are gone. -/
theorem ne_of_live {other : UInt64} (hnext : next.live = session.live.filter (·.1 ≠ other))
    {request : LoadRequest} (hlive : (ticket, request) ∈ next.live) : ticket ≠ other := by
  rw [hnext, List.mem_filter] at hlive
  exact of_decide_eq_true hlive.2

theorem awaits_iff_of_map {change : Gate → Gate} (hgate : next.gate? = session.gate?.map change)
    (hchange : ∀ gate, (change gate).awaits ticket = true ↔ gate.awaits ticket = true) :
    next.Awaits ticket ↔ session.Awaits ticket := by
  cases hbefore : session.gate? with
  | none => simp [Awaits, hgate, hbefore]
  | some gate =>
    rw [hbefore, Option.map_some] at hgate
    rw [awaits_of_gate? hbefore, awaits_of_gate? hgate]
    exact hchange gate

/-- Of a load that stays under way, a step that leaves its gate alone changes nothing. -/
theorem awaits_iff_of_same (hsame : next.Awaits ticket ↔ session.Awaits ticket)
    (hdirect : session.Awaits ticket → step.loadsDirectly = false) :
    next.Awaits ticket ↔
      session.Awaits ticket ∧ next.isOpen = true ∧ step.loadsDirectly = false := by
  constructor
  · intro h
    exact ⟨hsame.mp h, h.isOpen, hdirect (hsame.mp h)⟩
  · intro h
    exact hsame.mpr h.1

/-- A load that stays under way stays awaited as long as the session stays open and no diagram is
loaded directly. -/
theorem Effect.awaits_iff (heffect : Effect session next step answer)
    (hgated : session.Gated issued) (hdated : session.Dated loaded) (hissued : ticket ∈ issued)
    {request : LoadRequest} (hlive : (ticket, request) ∈ next.live)
    (hroom : loaded + (step.loads answer).toNat < UInt64.size) :
    next.Awaits ticket ↔
      session.Awaits ticket ∧ next.isOpen = true ∧ step.loadsDirectly = false := by
  cases heffect with
  | issue other gate hbefore _ hfree hafter _ =>
    -- The gate was free, so that nothing was awaited before, and the new ticket is another one.
    rw [awaits_of_gate? hbefore, awaits_of_gate? hafter, Gate.awaits_issued, Gate.awaits_iff, hfree]
    constructor
    · rintro ⟨-, hnew⟩
      have hlt := hgated.lt_next hbefore hissued
      rw [hnew] at hlt
      exact absurd hlt (UInt64.lt_irrefl _)
    · rintro ⟨⟨-, hpending⟩, -⟩
      cases hpending
  | finish other outcome _ _ _ hgate hnext =>
    have hne := ne_of_live hnext hlive
    refine awaits_iff_of_same (awaits_iff_of_map hgate fun gate => ?_) fun _ => rfl
    exact Gate.awaits_finished hne _
  | abandon other hgate hnext =>
    have hne := ne_of_live hnext hlive
    refine awaits_iff_of_same (awaits_iff_of_map hgate fun gate => ?_) fun _ => rfl
    exact Gate.awaits_abandoned hne
  | edit step outcome gate hbefore hafter _ =>
    rw [awaits_of_gate? hbefore, awaits_of_gate? hafter, isOpen_of_gate? hafter]
    refine Gate.awaits_after fun hdirect => ?_
    have hloads : Step.loads (.editor step) (.editor outcome) = true := hdirect
    rw [hloads] at hroom
    exact hdated.new_generation hroom hbefore
  | leave hgone _ =>
    constructor
    · rintro ⟨gate, hgate, -⟩
      rw [hgone] at hgate
      cases hgate
    · rintro ⟨-, hopen, -⟩
      obtain ⟨gate, hgate, -⟩ := isOpen_iff.mp hopen
      rw [hgone] at hgate
      cases hgate
  | keep _ _ _ _ habsent hgate _ =>
    refine awaits_iff_of_same (by rw [Awaits, hgate, Awaits]) fun h => ?_
    obtain ⟨gate, hbefore, -⟩ := h
    rw [← Bool.not_eq_true]
    intro hdirect
    rw [habsent hdirect] at hbefore
    cases hbefore

/-- As long as a load under way is awaited, only the user loads diagrams. -/
theorem Effect.loads_of_awaits (heffect : Effect session next step answer)
    (hawaits : session.Awaits ticket) {request : LoadRequest}
    (hlive : (ticket, request) ∈ next.live) (hdirect : step.loadsDirectly = false) :
    step.loads answer = false := by
  cases heffect with
  | finish other outcome _ _ hloads _ hnext =>
    have hne := ne_of_live hnext hlive
    obtain ⟨gate, hgate, hticket⟩ := hawaits
    rw [hloads, hgate, Option.any_some, Bool.and_eq_false_iff, ← Bool.not_eq_true]
    exact .inl fun hother => hne (Gate.awaits_unique hticket hother)
  | issue _ _ _ _ _ _ _ => rfl
  | abandon _ _ _ => rfl
  | edit _ _ _ _ _ _ => exact hdirect
  | leave _ _ => rfl
  | keep _ _ _ hstill _ _ _ => exact hstill

/-! ### Runs -/

theorem isOpen_of_undisturbed {steps : List Step} (h : session.undisturbed steps = true) :
    session.isOpen = true := by
  cases steps with
  | nil => exact h
  | cons step steps =>
    rw [undisturbed, Bool.and_eq_true, Bool.and_eq_true] at h
    exact h.1.1

theorem undisturbed_cons {steps : List Step} :
    session.undisturbed (step :: steps) = true ↔
      session.isOpen = true ∧ step.loadsDirectly = false ∧
        (session.step step).1.undisturbed steps = true := by
  rw [undisturbed, Bool.and_eq_true, Bool.and_eq_true, Bool.not_eq_true', and_assoc]

/-- A load with that ticket and request is under way all through a run, when these are the tickets
issued and the diagrams loaded before, and neither count comes to its end. -/
structure Lasts (session : Session) (steps : List Step) (issued : List UInt64) (loaded : Nat)
    (ticket : UInt64) (request : LoadRequest) : Prop where
  gated : session.Gated issued
  dated : session.Dated loaded
  known : ticket ∈ issued
  live : (ticket, request) ∈ (session.run steps).live
  ticketRoom : (issued ++ session.tickets steps).length < UInt64.size
  loadRoom : loaded + session.loadCount steps < UInt64.size

namespace Lasts

variable {steps : List Step} {request : LoadRequest}

theorem stepRoom (h : session.Lasts (step :: steps) issued loaded ticket request) :
    (issued ++ (session.step step).2.ticket?.toList).length < UInt64.size ∧
      loaded + (step.loads (session.step step).2).toNat < UInt64.size := by
  have htickets := h.ticketRoom
  have hloads := h.loadRoom
  rw [tickets_cons, ← List.append_assoc, List.length_append] at htickets
  rw [loadCount_cons] at hloads
  omega

theorem tail (h : session.Lasts (step :: steps) issued loaded ticket request) :
    (session.step step).1.Lasts steps (issued ++ (session.step step).2.ticket?.toList)
      (loaded + (step.loads (session.step step).2).toNat) ticket request := by
  obtain ⟨htickets, hloads⟩ := h.stepRoom
  refine ⟨gated_step h.gated step htickets, dated_step h.dated step hloads,
    List.mem_append_left _ h.known, h.live, ?_, ?_⟩
  · rw [List.append_assoc, ← tickets_cons]
    exact h.ticketRoom
  · rw [Nat.add_assoc, ← loadCount_cons]
    exact h.loadRoom

/-- A load that lasts is under way from the start. -/
theorem live_start (h : session.Lasts steps issued loaded ticket request) :
    (ticket, request) ∈ session.live := by
  induction steps generalizing session issued loaded with
  | nil => exact h.live
  | cons step steps ih =>
    exact h.gated.live_of_effect (step_effect session step) h.known (ih h.tail)

theorem awaits_step_iff (h : session.Lasts (step :: steps) issued loaded ticket request) :
    (session.step step).1.Awaits ticket ↔
      session.Awaits ticket ∧ (session.step step).1.isOpen = true ∧
        step.loadsDirectly = false :=
  (step_effect session step).awaits_iff h.gated h.dated h.known h.tail.live_start h.stepRoom.2

/-- A load stays awaited as long as it is not disturbed. -/
theorem awaits_run_iff (h : session.Lasts steps issued loaded ticket request) :
    (session.run steps).Awaits ticket ↔
      session.Awaits ticket ∧ session.undisturbed steps = true := by
  induction steps generalizing session issued loaded with
  | nil =>
    constructor
    · intro hawaits
      exact ⟨hawaits, hawaits.isOpen⟩
    · exact And.left
  | cons step steps ih =>
    rw [run_cons, ih h.tail, h.awaits_step_iff, undisturbed_cons]
    constructor
    · rintro ⟨⟨hawaits, -, hdirect⟩, hrest⟩
      exact ⟨hawaits, hawaits.isOpen, hdirect, hrest⟩
    · rintro ⟨hawaits, -, hdirect, hrest⟩
      exact ⟨⟨hawaits, isOpen_of_undisturbed hrest, hdirect⟩, hrest⟩

/-- As long as it is not disturbed, no diagram is loaded at all. -/
theorem loadCount_eq_zero (h : session.Lasts steps issued loaded ticket request)
    (hawaits : session.Awaits ticket) (hundisturbed : session.undisturbed steps = true) :
    session.loadCount steps = 0 := by
  induction steps generalizing session issued loaded with
  | nil => rfl
  | cons step steps ih =>
    obtain ⟨-, hdirect, hrest⟩ := undisturbed_cons.mp hundisturbed
    have hnext := h.awaits_step_iff.mpr ⟨hawaits, isOpen_of_undisturbed hrest, hdirect⟩
    have hstill :=
      (step_effect session step).loads_of_awaits hawaits h.tail.live_start hdirect
    rw [loadCount_cons, hstill, ih h.tail hnext hrest]
    rfl

end Lasts

/-! ## The result of a load -/

/-- The step installed the diagram: it answers so, the canvas shows the repaired diagram with
nothing selected, and the gate is free. -/
def Installed (diagram : Diagram) (result : Session × Answer) : Prop :=
  result.2 = .done ∧ ∃ editor, result.1.editor = some editor ∧
    editor.canvas.graph.diagram = diagram.repaired ∧ editor.canvas.selection = .none ∧
    editor.isBusy = false

/-- The step told the user about an error: it answers with it, one notice about it is new, and the
canvas and the inspector are as they were. -/
def Reported (before : Session) (request : LoadRequest) (error : ServiceError)
    (result : Session × Answer) : Prop :=
  result.2 = .failed error ∧ ∃ old editor, before.editor = some old ∧
    result.1.editor = some editor ∧ editor.canvas = old.canvas ∧
    editor.inspector = old.inspector ∧
    ∃ notice : Notice, editor.notices = old.notices ++ [notice] ∧
      notice.level = .error ∧ notice.text = request.failure error

/-- The step discarded a result: it answers so, and canvas, inspector and notices are as they
were. -/
def Discarded (before : Session) (result : Session × Answer) : Prop :=
  result.2 = .failed .discarded ∧
    result.1.editor.map (fun editor => (editor.canvas, editor.inspector, editor.notices)) =
      before.editor.map (fun editor => (editor.canvas, editor.inspector, editor.notices))

section Result

variable {load : Load} (hload : session.load? ticket = some load)
include hload

theorem installed_of_awaits (hawaits : session.Awaits ticket) (diagram : Diagram) :
    Installed diagram (session.step (.finishLoad ticket (.ok diagram))) := by
  obtain ⟨gate, hgate, hawaits⟩ := hawaits
  rw [gate?, Option.map_eq_some_iff] at hgate
  obtain ⟨editor, heditor, rfl⟩ := hgate
  show Installed diagram (session.finishLoad ticket (.ok diagram))
  rw [finishLoad_editor hload heditor, Editor.finishLoad_ok hawaits]
  exact ⟨rfl, _, rfl, rfl, rfl, rfl⟩

theorem reported_of_awaits (hawaits : session.Awaits ticket) (error : ServiceError) :
    Reported session load.request error (session.step (.finishLoad ticket (.error error))) := by
  obtain ⟨gate, hgate, hawaits⟩ := hawaits
  rw [gate?, Option.map_eq_some_iff] at hgate
  obtain ⟨editor, heditor, rfl⟩ := hgate
  show Reported session load.request error (session.finishLoad ticket (.error error))
  rw [finishLoad_editor hload heditor, Editor.finishLoad_error hawaits]
  exact ⟨rfl, editor, _, heditor, rfl, rfl, rfl, _, rfl, rfl, rfl⟩

theorem discarded_of_not_awaits (hawaits : ¬ session.Awaits ticket)
    (outcome : Except ServiceError Diagram) :
    Discarded session (session.step (.finishLoad ticket outcome)) := by
  show Discarded session (session.finishLoad ticket outcome)
  cases heditor : session.editor with
  | none =>
    rw [finishLoad_dropped hload heditor]
    exact ⟨rfl, rfl⟩
  | some editor =>
    have hunawaited : ¬ editor.gate.awaits ticket = true := by
      intro h
      exact hawaits ⟨editor.gate, by rw [gate?, heditor, Option.map_some], h⟩
    rw [finishLoad_editor hload heditor, Editor.finishLoad_unawaited hunawaited]
    refine ⟨rfl, ?_⟩
    rw [heditor, Option.map_some, Option.map_some, Editor.abandonLoad]
    split
    · rfl
    · split <;> rfl

end Result

/-- A load that was just reserved is awaited and under way. -/
theorem awaits_of_reserved {request : LoadRequest}
    (h : (session.step (.reserve request)).2 = .ticket ticket) :
    (session.step (.reserve request)).1.Awaits ticket ∧
      (session.step (.reserve request)).1.live = session.live ++ [(ticket, request)] := by
  have heffect := step_effect session (.reserve request)
  rw [h] at heffect
  cases heffect with
  | issue _ gate _ hopen _ hafter hlive =>
    exact ⟨⟨_, hafter, Gate.awaits_issued.mpr ⟨hopen, rfl⟩⟩, hlive⟩
  | keep _ _ hsilent _ _ _ _ => cases hsilent

/-- The load of a ticket that was just issued is the one that was reserved. -/
theorem Gated.request_eq (h : session.Gated issued) {request other : LoadRequest}
    (hreserved : (session.step (.reserve request)).2 = .ticket ticket)
    (hlive : (ticket, other) ∈ (session.step (.reserve request)).1.live) : other = request := by
  rw [(awaits_of_reserved hreserved).2, List.mem_append, List.mem_singleton, Prod.mk.injEq] at hlive
  rcases hlive with hold | ⟨-, hsame⟩
  · have hissued : ticket ∈ issued :=
      h.carried.subset (carried_eq session ▸ List.mem_map_of_mem hold)
    exact absurd (h.lt_ticket hreserved ticket hissued) (UInt64.lt_irrefl _)
  · exact hsame

/-- A load that is under way at the end of a run lasts since it was reserved. -/
theorem lasts_of_reserved (hgated : session.Gated issued) (hdated : session.Dated loaded)
    {request other : LoadRequest} {since : List Step}
    (hreserved : (session.step (.reserve request)).2 = .ticket ticket)
    (hlive : (ticket, other) ∈ (session.run (.reserve request :: since)).live)
    (htickets : (issued ++ session.tickets (.reserve request :: since)).length < UInt64.size)
    (hloads : loaded + session.loadCount (.reserve request :: since) < UInt64.size) :
    (session.step (.reserve request)).1.Lasts since (issued ++ [ticket]) loaded ticket other := by
  have hnone : Step.loads (.reserve request) (session.step (.reserve request)).2 = false := rfl
  rw [tickets_cons, hreserved, Answer.ticket?, Option.toList_some, ← List.append_assoc] at htickets
  rw [loadCount_cons, hnone, Bool.toNat_false, Nat.zero_add] at hloads
  have hgatedNow := gated_step hgated (.reserve request) (by
    rw [hreserved]
    rw [List.length_append] at htickets
    exact Nat.lt_of_le_of_lt (Nat.le_add_right _ _) htickets)
  have hdatedNow := dated_step hdated (.reserve request) (by
    rw [hnone, Bool.toNat_false]
    omega)
  rw [hreserved] at hgatedNow
  refine ⟨hgatedNow, hdatedNow, ?_, hlive, htickets, hloads⟩
  exact List.mem_append_right _ (List.mem_singleton.mpr rfl)

/-- **The result of a load is used exactly if nothing came between.** A load that was reserved and
is still under way installs its diagram if and only if, since it was reserved, the session stayed
alive, the editor stayed open, and no diagram was loaded directly; indeed no diagram was loaded then
at all. Under the same condition a failure is told to the user, and in every other case the result
is discarded. -/
theorem result_used_iff_undisturbed (name : String) (kind : ProjectKind)
    (before since : List Step) {request : LoadRequest} {ticket : UInt64}
    (hreserved : (((new name kind).run before).step (.reserve request)).2 = .ticket ticket)
    (hlive : ticket ∈ ((new name kind).run (before ++ .reserve request :: since)).carried)
    (htickets : ((new name kind).tickets (before ++ .reserve request :: since)).length
      < UInt64.size)
    (hloads : (new name kind).loadCount (before ++ .reserve request :: since) < UInt64.size) :
    let reserved := (((new name kind).run before).step (.reserve request)).1
    let session := (new name kind).run (before ++ .reserve request :: since)
    (∀ diagram, Installed diagram (session.step (.finishLoad ticket (.ok diagram))) ↔
      reserved.undisturbed since = true) ∧
    (reserved.undisturbed since = true → reserved.loadCount since = 0 ∧ ∀ error,
      Reported session request error (session.step (.finishLoad ticket (.error error)))) ∧
    (reserved.undisturbed since = false → ∀ outcome,
      Discarded session (session.step (.finishLoad ticket outcome))) := by
  intro reserved session
  obtain ⟨load, hload⟩ := load?_of_mem_carried hlive
  have hmem := mem_live_of_load? hload
  have hsession : session = reserved.run since := run_append _ before (.reserve request :: since)
  rw [run_append] at hmem
  rw [tickets_append] at htickets
  rw [loadCount_append] at hloads
  have hgated : ((new name kind).run before).Gated ((new name kind).tickets before) := by
    refine gated_run (gated_new name kind) ?_
    rw [List.length_append] at htickets
    exact Nat.lt_of_le_of_lt (Nat.le_add_right _ _) htickets
  have hdated : ((new name kind).run before).Dated (0 + (new name kind).loadCount before) :=
    dated_run (dated_new name kind) (by omega)
  have hlasts := lasts_of_reserved hgated hdated hreserved hmem htickets (by omega)
  have hrequest : load.request = request := hgated.request_eq hreserved hlasts.live_start
  have hreservedAwaits := (awaits_of_reserved hreserved).1
  have hawaits : session.Awaits ticket ↔ reserved.undisturbed since = true := by
    rw [hsession, hlasts.awaits_run_iff]
    exact and_iff_right hreservedAwaits
  refine ⟨fun diagram => ⟨fun hinstalled => ?_, fun h => ?_⟩, fun h => ⟨?_, fun error => ?_⟩,
    fun h outcome => ?_⟩
  · by_contra hdisturbed
    have hdiscarded := discarded_of_not_awaits hload (mt hawaits.mp hdisturbed) (.ok diagram)
    rw [Discarded, hinstalled.1] at hdiscarded
    cases hdiscarded.1
  · exact installed_of_awaits hload (hawaits.mpr h) diagram
  · exact hlasts.loadCount_eq_zero hreservedAwaits h
  · exact hrequest ▸ reported_of_awaits hload (hawaits.mpr h) error
  · refine discarded_of_not_awaits hload (fun hused => ?_) outcome
    rw [hawaits.mp hused] at h
    cases h

/-- A load that lost the gate to a direct load ends in vain; the one reserved after it installs its
diagram. -/
theorem second_load_installs :
    let before := [Step.reserve (.template "shop"), .editor (.replace ⟨[], []⟩)]
    let since := [Step.finishLoad 0 (.ok ⟨[], []⟩)]
    let session := (new "Demo" .web).run (before ++ .reserve (.template "blog") :: since)
    (((new "Demo" .web).run before).step (.reserve (.template "blog"))).2 = .ticket 1 ∧
      session.carried = [1] ∧
      ∀ diagram, Installed diagram (session.step (.finishLoad 1 (.ok diagram))) := by
  intro before since session
  have hreserved :
      (((new "Demo" .web).run before).step (.reserve (.template "blog"))).2 = .ticket 1 := rfl
  have hused := (result_used_iff_undisturbed "Demo" .web before since hreserved (by decide)
    (by decide) (by decide)).1
  refine ⟨hreserved, rfl, fun diagram => ?_⟩
  exact (hused diagram).mpr (by decide)

end DiagramStudio.Session
