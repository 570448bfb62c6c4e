import DiagramStudio.Proofs.Session.Effect
import Mathlib.Data.List.Nodup

/-!
# The gate belongs to the newest load

Tickets are numbered in the order in which they are issued. A load holds the gate only while the
editor is open and the load is under way, and then its ticket is the newest one of all; so a stale
load that ends late finds that the gate is not its own. Nothing but the end of its load is needed to
free the gate again.

Results:
* `gated_step`, `gated_run`: a step, and so a run, keeps what is promised about tickets.
* `gate_of_newest_load`: in every state of a session, the gate belongs to the newest load, which is
  under way, or it is free.
-/

namespace DiagramStudio.Session

/-- The tickets of the loads under way. -/
def carried (session : Session) : List UInt64 := session.loads.map (·.ticket)

/-- What holds the gate, unless the session was dropped. -/
def holder (session : Session) : Option (Option PendingLoad) := session.editor.map (·.pending)

theorem carried_eq (session : Session) : session.carried = session.live.map Prod.fst := by
  rw [carried, live, List.map_map]
  rfl

theorem holder_eq (session : Session) : session.holder = session.gate?.map Gate.pending := by
  rw [holder, gate?, Option.map_map]
  rfl

/-- When the loads of one ticket are gone, those of the other tickets are left. -/
theorem carried_without {session next : Session} {ticket : UInt64}
    (h : next.live = session.live.filter (·.1 ≠ ticket)) :
    next.carried.Sublist session.carried ∧
      ∀ other ∈ session.carried, other ≠ ticket → other ∈ next.carried := by
  have hcarried : next.carried = session.carried.filter (· ≠ ticket) := by
    rw [carried_eq, carried_eq, h, List.filter_map]
    rfl
  rw [hcarried]
  refine ⟨List.filter_sublist, fun other hother hne => ?_⟩
  exact List.mem_filter.mpr ⟨hother, decide_eq_true hne⟩

/-! ## The invariant -/

/-- What holds of the loads of a session when these are the tickets issued so far. -/
structure Gated (session : Session) (issued : List UInt64) : Prop where
  /-- Tickets are numbered from zero on. -/
  numbered : issued.map UInt64.toNat = List.range issued.length
  /-- The next ticket is the number of tickets issued so far. -/
  counted : ∀ gate, session.gate? = some gate → gate.nextTicket.toNat = issued.length
  /-- No two loads under way carry the same ticket, and every ticket they carry was issued. -/
  carried : session.carried.Sublist issued
  /-- A load that holds the gate of an editor is under way, with the newest ticket, and the editor
  is open. -/
  held : ∀ gate pending, session.gate? = some gate → gate.pending = some pending →
    gate.closed = false ∧ issued.getLast? = some pending.ticket ∧ pending.ticket ∈ session.carried

variable {session next : Session} {issued : List UInt64} {step : Step} {answer : Answer}

namespace Gated

/-- Tickets are issued in ascending order. -/
theorem ascending (h : session.Gated issued) : issued.Pairwise (· < ·) := by
  have hrange := List.pairwise_lt_range (n := issued.length)
  rw [← h.numbered, List.pairwise_map] at hrange
  exact hrange

/-- No two loads under way carry the same ticket. -/
theorem nodup (h : session.Gated issued) : session.carried.Nodup :=
  (h.ascending.sublist h.carried).imp UInt64.ne_of_lt

/-- The newest ticket is above all others. -/
theorem lt_newest (h : session.Gated issued) {newest ticket : UInt64}
    (hnewest : issued.getLast? = some newest) (hticket : ticket ∈ issued) (hne : ticket ≠ newest) :
    ticket < newest := by
  obtain ⟨earlier, rfl⟩ := List.getLast?_eq_some_iff.mp hnewest
  have hascending := (List.pairwise_append.mp h.ascending).2.2
  rcases List.mem_append.mp hticket with hearlier | hlast
  · exact hascending ticket hearlier newest (List.mem_singleton.mpr rfl)
  · exact absurd (List.mem_singleton.mp hlast) hne

/-- A ticket that was issued is below the next one. -/
theorem lt_next (h : session.Gated issued) {gate : Gate} (hgate : session.gate? = some gate)
    {ticket : UInt64} (hticket : ticket ∈ issued) : ticket < gate.nextTicket := by
  have hrange : ticket.toNat ∈ List.range issued.length :=
    h.numbered ▸ List.mem_map_of_mem hticket
  rw [UInt64.lt_iff_toNat_lt, h.counted gate hgate]
  exact List.mem_range.mp hrange

end Gated

theorem gated_new (name : String) (kind : ProjectKind) : (new name kind).Gated [] where
  numbered := rfl
  counted := by
    rintro gate ⟨⟩
    rfl
  carried := List.Sublist.refl []
  held := by
    rintro gate pending ⟨⟩ hpending
    cases hpending

/-! ## Steps and runs -/

/-- What keeps the counter, and leaves the gate to no other load than before, keeps the
invariant. -/
theorem Gated.mono (h : session.Gated issued)
    (hcarried : next.carried.Sublist session.carried)
    (hgate : ∀ after, next.gate? = some after → ∃ gate, session.gate? = some gate ∧
      after.nextTicket = gate.nextTicket ∧
      ∀ pending, after.pending = some pending → gate.pending = some pending ∧
        after.closed = gate.closed ∧
        (pending.ticket ∈ session.carried → pending.ticket ∈ next.carried)) :
    next.Gated issued where
  numbered := h.numbered
  counted := by
    intro after hafter
    obtain ⟨gate, hbefore, hcount, -⟩ := hgate after hafter
    rw [hcount, h.counted gate hbefore]
  carried := hcarried.trans h.carried
  held := by
    intro after pending hafter hpending
    obtain ⟨gate, hbefore, -, hheld⟩ := hgate after hafter
    obtain ⟨hsame, hclosed, hkeep⟩ := hheld pending hpending
    obtain ⟨hopen, hnewest, hmem⟩ := h.held gate pending hbefore hsame
    exact ⟨hclosed.trans hopen, hnewest, hkeep hmem⟩

/-- A new load takes the gate with a new ticket. -/
theorem Gated.issue (h : session.Gated issued) (hroom : issued.length + 1 < UInt64.size)
    {request : LoadRequest} {gate : Gate} (hgate : session.gate? = some gate)
    (hopen : gate.closed = false) (hafter : next.gate? = some gate.issued)
    (hlive : next.live = session.live ++ [(gate.nextTicket, request)]) :
    next.Gated (issued ++ [gate.nextTicket]) := by
  have hcount := h.counted gate hgate
  have hcarried : next.carried = session.carried ++ [gate.nextTicket] := by
    rw [carried_eq, carried_eq, hlive, List.map_append, List.map_singleton]
  refine ⟨?_, ?_, ?_, ?_⟩
  · rw [List.map_append, List.map_singleton, h.numbered, hcount, List.length_append,
      List.length_singleton, List.range_succ]
  · intro after hsame
    rw [hafter] at hsame
    cases hsame
    rw [List.length_append, List.length_singleton, ← hcount]
    rw [← hcount] at hroom
    exact toNat_succ_of_lt hroom
  · rw [hcarried]
    exact h.carried.append (List.Sublist.refl _)
  · intro after pending hsame hpending
    rw [hafter] at hsame
    cases hsame
    cases hpending
    refine ⟨hopen, List.getLast?_concat, ?_⟩
    rw [hcarried]
    exact List.mem_append_right _ (List.mem_singleton.mpr rfl)

/-- A load that ends takes the gate from no other load. -/
theorem Gated.finish (h : session.Gated issued) {ticket : UInt64} {arrived : Bool}
    (hgate : next.gate? = session.gate?.map (·.finished ticket arrived))
    (hlive : next.live = session.live.filter (·.1 ≠ ticket)) : next.Gated issued := by
  obtain ⟨hcarried, hkeep⟩ := carried_without hlive
  refine h.mono hcarried fun after hafter => ?_
  rw [hgate, Option.map_eq_some_iff] at hafter
  obtain ⟨gate, hbefore, rfl⟩ := hafter
  refine ⟨gate, hbefore, Gate.nextTicket_finished _ _ _, fun pending hpending => ?_⟩
  -- No load has the gate of a closed editor.
  have hopen := (h.held gate pending hbefore (Gate.pending_of_finished hpending)).1
  obtain ⟨hsame, hne⟩ := (Gate.pending_finished hopen).mp hpending
  exact ⟨hsame, Gate.closed_finished _ _ _, fun hmem => hkeep _ hmem hne⟩

/-- A load that is given up takes the gate from no other load. -/
theorem Gated.abandon (h : session.Gated issued) {ticket : UInt64}
    (hgate : next.gate? = session.gate?.map (·.abandoned ticket))
    (hlive : next.live = session.live.filter (·.1 ≠ ticket)) : next.Gated issued := by
  obtain ⟨hcarried, hkeep⟩ := carried_without hlive
  refine h.mono hcarried fun after hafter => ?_
  rw [hgate, Option.map_eq_some_iff] at hafter
  obtain ⟨gate, hbefore, rfl⟩ := hafter
  refine ⟨gate, hbefore, Gate.nextTicket_abandoned _ _, fun pending hpending => ?_⟩
  obtain ⟨hsame, hne⟩ := Gate.pending_abandoned.mp hpending
  exact ⟨hsame, Gate.closed_abandoned _ _, fun hmem => hkeep _ hmem hne⟩

/-- What the user does in the editor gives the gate to no load. -/
theorem Gated.edit (h : session.Gated issued) {step : Editor.Step} {gate : Gate}
    (hbefore : session.gate? = some gate) (hafter : next.gate? = some (gate.after step))
    (hlive : next.live = session.live) : next.Gated issued := by
  have hcarried : next.carried = session.carried := by rw [carried_eq, carried_eq, hlive]
  refine h.mono (hcarried ▸ List.Sublist.refl _) fun after hsame => ?_
  rw [hafter] at hsame
  cases hsame
  refine ⟨gate, hbefore, Gate.nextTicket_after _ _, fun pending hpending => ?_⟩
  obtain ⟨hheld, hclosed⟩ := Gate.pending_after hpending
  exact ⟨hheld, hclosed, fun hmem => hcarried ▸ hmem⟩

/-- The invariant speaks of the gate and the loads only. -/
theorem Gated.keep (h : session.Gated issued)
    (hgate : ∀ gate, next.gate? = some gate → session.gate? = some gate)
    (hlive : next.live = session.live) : next.Gated issued := by
  have hcarried : next.carried = session.carried := by rw [carried_eq, carried_eq, hlive]
  refine h.mono (hcarried ▸ List.Sublist.refl _) fun gate hsame => ?_
  refine ⟨gate, hgate gate hsame, rfl, fun pending hpending => ?_⟩
  exact ⟨hpending, rfl, fun hmem => hcarried ▸ hmem⟩

/-- No effect breaks the invariant, as long as tickets do not run out. -/
theorem Gated.effect (h : session.Gated issued) (heffect : Effect session next step answer)
    (hroom : (issued ++ answer.ticket?.toList).length < UInt64.size) :
    next.Gated (issued ++ answer.ticket?.toList) := by
  cases heffect with
  | issue request gate hbefore hopen _ hafter hlive =>
    rw [Answer.ticket?, Option.toList_some, List.length_append] at hroom
    exact h.issue hroom hbefore hopen hafter hlive
  | finish ticket outcome _ hsilent _ hgate hlive =>
    rw [hsilent, Option.toList_none, List.append_nil]
    exact h.finish hgate hlive
  | abandon ticket hgate hlive =>
    show next.Gated (issued ++ [])
    rw [List.append_nil]
    exact h.abandon hgate hlive
  | edit step outcome gate hbefore hafter hlive =>
    show next.Gated (issued ++ [])
    rw [List.append_nil]
    exact h.edit hbefore hafter hlive
  | leave hgone hlive =>
    show next.Gated (issued ++ [])
    rw [List.append_nil]
    refine h.keep (fun gate hgate => ?_) hlive
    rw [hgone] at hgate
    cases hgate
  | keep _ _ hsilent _ _ hgate hlive =>
    rw [hsilent, Option.toList_none, List.append_nil]
    exact h.keep (fun gate hsame => hgate ▸ hsame) hlive

theorem gated_step (h : session.Gated issued) (step : Step)
    (hroom : (issued ++ (session.step step).2.ticket?.toList).length < UInt64.size) :
    (session.step step).1.Gated (issued ++ (session.step step).2.ticket?.toList) :=
  h.effect (step_effect session step) hroom

theorem gated_run {steps : List Step} (h : session.Gated issued)
    (hroom : (issued ++ session.tickets steps).length < UInt64.size) :
    (session.run steps).Gated (issued ++ session.tickets steps) := by
  induction steps generalizing session issued with
  | nil => simpa [tickets, moments, run] using h
  | cons step steps ih =>
    rw [tickets_cons, ← List.append_assoc] at hroom ⊢
    have hearlier : (issued ++ (session.step step).2.ticket?.toList).length < UInt64.size := by
      rw [List.length_append] at hroom
      omega
    rw [run_cons]
    exact ih (gated_step h step hearlier) hroom

/-! ## The gate -/

/-- Whether the load of a ticket has the gate to itself, when these are the tickets issued so
far. -/
structure GateOf (session : Session) (issued : List UInt64) (ticket : UInt64) : Prop where
  opened : session.isOpen = true
  /-- Exactly one load under way carries the ticket. -/
  single : session.loads.countP (·.ticket = ticket) = 1
  newest : issued.getLast? = some ticket
  older : ∀ load ∈ session.loads, load.ticket ≠ ticket → load.ticket < ticket
  finished : ∀ outcome, (session.step (.finishLoad ticket outcome)).1.holder = some none
  dropped : (session.step (.dropLoad ticket)).1.holder = some none
  /-- The end of another load is nothing to the gate. -/
  otherFinished : ∀ other outcome, other ≠ ticket →
    (session.step (.finishLoad other outcome)).1.holder = session.holder
  otherDropped : ∀ other, other ≠ ticket →
    (session.step (.dropLoad other)).1.holder = session.holder

theorem isOpen_iff :
    session.isOpen = true ↔ ∃ gate, session.gate? = some gate ∧ gate.closed = false := by
  cases heditor : session.editor with
  | none => simp [isOpen, gate?, heditor]
  | some editor => simp [isOpen, gate?, heditor, Editor.gate]

theorem load?_of_mem_carried {ticket : UInt64} (h : ticket ∈ session.carried) :
    ∃ load, session.load? ticket = some load := by
  obtain ⟨load, hload, hticket⟩ := List.mem_map.mp h
  rw [← Option.isSome_iff_exists, load?, List.find?_isSome]
  exact ⟨load, hload, decide_eq_true hticket⟩

/-- The end of a load frees the gate if the gate is its own, and leaves it alone otherwise. -/
theorem holder_of_end {gate : Gate} {pending : PendingLoad} {ticket : UInt64} {change : Gate → Gate}
    (hgate : session.gate? = some gate) (hpending : gate.pending = some pending)
    (hnext : next.gate? = session.gate?.map change)
    (hchange : ∀ left, (change gate).pending = some left ↔
      gate.pending = some left ∧ left.ticket ≠ ticket) :
    next.holder = if pending.ticket = ticket then some none else session.holder := by
  rw [holder_eq, hnext, hgate, Option.map_some, Option.map_some, holder_eq, hgate, Option.map_some]
  by_cases hticket : pending.ticket = ticket
  · rw [if_pos hticket, Option.some_inj, Option.eq_none_iff_forall_ne_some]
    intro left hleft
    obtain ⟨hsame, hne⟩ := (hchange left).mp hleft
    rw [hpending] at hsame
    cases hsame
    exact hne hticket
  · rw [if_neg hticket, (hchange pending).mpr ⟨hpending, hticket⟩, hpending]

theorem Gated.gateOf (h : session.Gated issued) {pending : PendingLoad}
    (hholder : session.holder = some (some pending)) : session.GateOf issued pending.ticket := by
  rw [holder_eq, Option.map_eq_some_iff] at hholder
  obtain ⟨gate, hgate, hpending⟩ := hholder
  obtain ⟨hopen, hnewest, hmem⟩ := h.held gate pending hgate hpending
  have hnodup : session.carried.Nodup := h.nodup
  have hfinish : ∀ ticket load outcome, session.load? ticket = some load →
      (session.finishLoad ticket outcome).1.holder =
        if pending.ticket = ticket then some none else session.holder := by
    intro ticket load outcome hload
    exact holder_of_end hgate hpending (gate?_finishLoad hload outcome)
      fun _ => Gate.pending_finished hopen
  have hdrop : ∀ ticket load, session.load? ticket = some load →
      (session.dropLoad ticket).1.holder =
        if pending.ticket = ticket then some none else session.holder := by
    intro ticket load hload
    exact holder_of_end hgate hpending (gate?_dropLoad hload) fun _ => Gate.pending_abandoned
  obtain ⟨load, hload⟩ := load?_of_mem_carried hmem
  refine ⟨isOpen_iff.mpr ⟨gate, hgate, hopen⟩, ?_, hnewest, ?_, ?_, ?_, ?_, ?_⟩
  · have hcount := List.nodup_iff_count_eq_one.mp hnodup _ hmem
    rw [Session.carried, List.count, List.countP_map] at hcount
    rw [← hcount]
    apply List.countP_congr
    intro load _
    simp
  · intro other hother hne
    exact h.lt_newest hnewest (h.carried.subset (List.mem_map_of_mem hother)) hne
  · intro outcome
    exact (hfinish _ load outcome hload).trans (if_pos rfl)
  · exact (hdrop _ load hload).trans (if_pos rfl)
  · intro other outcome hne
    cases hother : session.load? other with
    | none => simp only [Session.step, finishLoad, hother]
    | some stale => exact (hfinish other stale outcome hother).trans (if_neg hne.symm)
  · intro other hne
    cases hother : session.load? other with
    | none => simp only [Session.step, dropLoad, hother]
    | some stale => exact (hdrop other stale hother).trans (if_neg hne.symm)

/-- A load is reserved exactly if the session is alive and the editor is open and not busy. -/
theorem reserve_iff (session : Session) (request : LoadRequest) :
    (∃ ticket, (session.step (.reserve request)).2 = .ticket ticket) ↔
      ∃ editor, session.editor = some editor ∧ editor.closed = false ∧ editor.isBusy = false := by
  simp only [Session.step, reserve, withEditor]
  cases heditor : session.editor with
  | none => simp
  | some editor =>
    by_cases hfree : editor.closed = false ∧ editor.pending = none
    · simp [Editor.beginLoad_free hfree.1 hfree.2, Editor.isBusy, hfree.1, hfree.2]
    · obtain ⟨error, hrefused⟩ := Editor.beginLoad_refused hfree
      simp only [hrefused]
      constructor
      · rintro ⟨ticket, ⟨⟩⟩
      · rintro ⟨_, ⟨⟩, hopen, hidle⟩
        rw [Editor.isBusy, Option.isSome_eq_false_iff, Option.isNone_iff_eq_none] at hidle
        exact absurd ⟨hopen, hidle⟩ hfree

theorem Gated.lt_ticket (h : session.Gated issued) {request : LoadRequest} {ticket : UInt64}
    (hticket : (session.step (.reserve request)).2 = .ticket ticket) :
    ∀ earlier ∈ issued, earlier < ticket := by
  intro earlier hearlier
  have heffect := step_effect session (.reserve request)
  rw [hticket] at heffect
  cases heffect with
  | issue _ gate hgate _ _ _ _ => exact h.lt_next hgate hearlier
  | keep _ _ hsilent _ _ _ _ => cases hsilent

/-- **The gate belongs to the newest load.** Whatever the steps of a session, a load that holds the
gate has it to itself; without loads under way the gate is free; and a load is reserved exactly if
the session is alive and the editor open and not busy, and then with a ticket above all earlier
ones. -/
theorem gate_of_newest_load (name : String) (kind : ProjectKind) (steps : List Step)
    (hroom : ((new name kind).tickets steps).length < UInt64.size) :
    let session := (new name kind).run steps
    let issued := (new name kind).tickets steps
    (∀ editor pending, session.editor = some editor → editor.pending = some pending →
      session.GateOf issued pending.ticket) ∧
    (∀ editor, session.editor = some editor → session.loads = [] → editor.isBusy = false) ∧
    (∀ request, (∃ ticket, (session.step (.reserve request)).2 = .ticket ticket) ↔
      ∃ editor, session.editor = some editor ∧ editor.closed = false ∧ editor.isBusy = false) ∧
    (∀ request ticket, (session.step (.reserve request)).2 = .ticket ticket →
      ∀ earlier ∈ issued, earlier < ticket) := by
  intro session issued
  have hgated : session.Gated issued := gated_run (gated_new name kind) hroom
  refine ⟨?_, ?_, reserve_iff session, fun request ticket => hgated.lt_ticket⟩
  · intro editor pending heditor hpending
    refine hgated.gateOf ?_
    rw [holder, heditor, Option.map_some, hpending]
  · intro editor heditor hnone
    rw [Editor.isBusy, Option.isSome_eq_false_iff, Option.isNone_iff_eq_none,
      Option.eq_none_iff_forall_ne_some]
    intro pending hpending
    have hgate : session.gate? = some editor.gate := by rw [gate?, heditor, Option.map_some]
    have hmem := (hgated.held editor.gate pending hgate hpending).2.2
    rw [carried, hnone] at hmem
    cases hmem

/-- While a load is still under way that lost the gate to a direct load, the gate belongs to the one
that was reserved after it. -/
theorem gate_of_second_load :
    let steps := [Step.reserve (.template "shop"), .editor (.replace ⟨[], []⟩),
      .reserve (.template "blog")]
    ((new "Demo" .web).tickets steps).length < UInt64.size ∧
      ((new "Demo" .web).run steps).carried = [0, 1] ∧
      ((new "Demo" .web).run steps).GateOf ((new "Demo" .web).tickets steps) 1 := by
  intro steps
  have hroom : ((new "Demo" .web).tickets steps).length < UInt64.size := by decide
  have hgate := (gate_of_newest_load "Demo" .web steps hroom).1 _ _ rfl rfl
  exact ⟨hroom, rfl, hgate⟩

end DiagramStudio.Session
