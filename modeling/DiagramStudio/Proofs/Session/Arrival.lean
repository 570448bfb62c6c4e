import DiagramStudio.Proofs.Keyed
import DiagramStudio.Proofs.Session.Reservation
import Mathlib.Data.List.Perm.Basic

/-!
# The order of arrival

Loads that are under way end one after the other: a result comes in, whatever it is, or the load is
dropped. At most one of them holds the gate. To any other the editor pays no heed, with whatever
result it comes in; so its end does nothing but take the load away, before or after the others.

Results:
* `step_of_not_holds`: the end of a load without the gate takes the load away and does nothing else.
* `step_withoutLoad`, `holds_end`, `load?_end`: what the end of a load is to the others.
* `commute_end`: the ends of two loads commute.
* `order_of_arrival_is_invisible`: in no state of a session does it matter which of two loads ends
  first.
* `answer_after`, `run_perm`: nor does the order in which any number of loads end.
-/

namespace DiagramStudio

namespace Editor

variable {editor : Editor} {ticket : UInt64}

theorem abandonLoad_of_not_held (h : editor.gate.heldBy ticket = false) :
    editor.abandonLoad ticket = editor :=
  if_neg (Bool.eq_false_iff.mp h)

/-- The result of a load without the gate is discarded, and nothing changes. -/
theorem finishLoad_of_not_held (h : editor.gate.heldBy ticket = false) (request : LoadRequest)
    (outcome : Except ServiceError Diagram) :
    editor.finishLoad ticket request outcome = (editor, .error .discarded) := by
  have hawaits : ¬editor.gate.awaits ticket = true := by
    intro hawaits
    rw [Gate.heldBy_of_awaits hawaits] at h
    cases h
  rw [finishLoad_unawaited hawaits, abandonLoad_of_not_held h, ite_self]

end Editor

namespace Session

/-! ## The end of a load -/

/-- How a load ends: its result comes in, or it is dropped. -/
inductive Ending where
  | result (outcome : Except ServiceError Diagram)
  | dropped

/-- The step with which the load of a ticket ends. -/
def Ending.step (ending : Ending) (ticket : UInt64) : Step :=
  match ending with
  | result outcome => .finishLoad ticket outcome
  | dropped => .dropLoad ticket

/-- The answer to the end of a load to which the editor pays no heed. -/
def Ending.unheeded : Ending → Answer
  | result _ => .failed .discarded
  | dropped => .done

/-- Whether the load of a ticket holds the gate. -/
def holds (session : Session) (ticket : UInt64) : Bool := session.gate?.any (·.heldBy ticket)

variable {session : Session} {ticket other : UInt64}

theorem holds_iff :
    session.holds ticket = true ↔ ∃ gate pending, session.gate? = some gate ∧
      gate.pending = some pending ∧ pending.ticket = ticket := by
  rw [holds, Option.any_eq_true]
  constructor
  · rintro ⟨gate, hgate, hheld⟩
    obtain ⟨pending, hpending, hticket⟩ := Gate.heldBy_iff.mp hheld
    exact ⟨gate, pending, hgate, hpending, hticket⟩
  · rintro ⟨gate, pending, hgate, hpending, hticket⟩
    exact ⟨gate, hgate, Gate.heldBy_iff.mpr ⟨pending, hpending, hticket⟩⟩

/-- At most one load holds the gate. -/
theorem holds_unique (h : session.holds ticket = true) (hother : session.holds other = true) :
    ticket = other := by
  obtain ⟨gate, pending, hgate, hpending, rfl⟩ := holds_iff.mp h
  obtain ⟨same, held, hsame, hheld, rfl⟩ := holds_iff.mp hother
  rw [hgate] at hsame
  cases hsame
  rw [hpending] at hheld
  cases hheld
  rfl

/-! ## Loads taken away -/

theorem withoutLoad_absent (h : session.load? ticket = none) :
    session.withoutLoad ticket = session := by
  have hloads : session.loads.filter (·.ticket ≠ ticket) = session.loads := by
    rw [List.filter_eq_self]
    intro load hload
    simpa using List.find?_eq_none.mp h load hload
  rw [withoutLoad, hloads]

theorem withoutLoad_comm (session : Session) (ticket other : UInt64) :
    (session.withoutLoad ticket).withoutLoad other =
      (session.withoutLoad other).withoutLoad ticket := by
  simp only [withoutLoad, List.filter_filter, Bool.and_comm]

theorem load?_withoutLoad (hne : ticket ≠ other) :
    (session.withoutLoad other).load? ticket = session.load? ticket :=
  find?_filter_ne Load.ticket hne session.loads

theorem step_absent (h : session.load? ticket = none) (ending : Ending) :
    session.step (ending.step ticket) = (session, .absent) := by
  cases ending with
  | result outcome => simp only [Ending.step, step, finishLoad, h]
  | dropped => simp only [Ending.step, step, dropLoad, h]

theorem step_dropped {load : Load} (h : session.load? ticket = some load) :
    session.step (Ending.dropped.step ticket) =
      ({ session.withoutLoad ticket with
          editor := session.editor.map (·.abandonLoad ticket) }, .done) := by
  simp only [Ending.step, step, dropLoad, h]
  rfl

/-! ## What the end of a load is to the others -/

/-- The end of a load without the gate takes the load away and does nothing else. -/
theorem step_of_not_holds (h : session.holds ticket = false) (ending : Ending) :
    session.step (ending.step ticket) =
      (session.withoutLoad ticket,
        if (session.load? ticket).isSome then ending.unheeded else .absent) := by
  cases hload : session.load? ticket with
  | none =>
    rw [step_absent hload, withoutLoad_absent hload]
    rfl
  | some load =>
    cases heditor : session.editor with
    | none =>
      cases ending with
      | result outcome => exact finishLoad_dropped hload heditor outcome
      | dropped =>
        rw [step_dropped hload, heditor, Option.map_none, ← heditor]
        rfl
    | some editor =>
      have hheld : editor.gate.heldBy ticket = false := by
        rw [holds, gate?, heditor] at h
        exact h
      cases ending with
      | result outcome =>
        have hfinish := finishLoad_editor hload heditor outcome
        rw [Editor.finishLoad_of_not_held hheld, ← heditor] at hfinish
        exact hfinish
      | dropped =>
        rw [step_dropped hload, heditor, Option.map_some, Editor.abandonLoad_of_not_held hheld,
          ← heditor]
        rfl

/-- The end of a load is the same whether or not another load was taken away before. -/
theorem step_withoutLoad (session : Session) (hne : ticket ≠ other) (ending : Ending) :
    (session.withoutLoad other).step (ending.step ticket) =
      ((session.step (ending.step ticket)).1.withoutLoad other,
        (session.step (ending.step ticket)).2) := by
  have hrest : (session.withoutLoad other).load? ticket = session.load? ticket :=
    load?_withoutLoad hne
  have hcomm := withoutLoad_comm session other ticket
  cases hload : session.load? ticket with
  | none => rw [step_absent hload, step_absent (hrest.trans hload)]
  | some load =>
    rw [hload] at hrest
    cases ending with
    | result outcome =>
      simp only [Ending.step, step]
      cases heditor : session.editor with
      | none =>
        have hgone : (session.withoutLoad other).editor = none := heditor
        rw [finishLoad_dropped hload heditor, finishLoad_dropped hrest hgone, hcomm]
      | some editor =>
        have hopen : (session.withoutLoad other).editor = some editor := heditor
        rw [finishLoad_editor hload heditor, finishLoad_editor hrest hopen, hcomm]
        rfl
    | dropped =>
      rw [step_dropped hload, step_dropped hrest, hcomm]
      rfl

/-- The end of a load lets no other load hold the gate that did not hold it before. -/
theorem holds_end (h : session.holds ticket = false) (other : UInt64) (ending : Ending) :
    (session.step (ending.step other)).1.holds ticket = false := by
  have heffect := step_effect session (ending.step other)
  generalize session.step (ending.step other) = next at heffect ⊢
  obtain ⟨next, answer⟩ := next
  rw [Bool.eq_false_iff] at h ⊢
  intro hafter
  apply h
  obtain ⟨after, pending, hgate, hpending, hticket⟩ := holds_iff.mp hafter
  cases ending with
  | result outcome =>
    cases heffect with
    | finish _ _ _ _ _ hchange _ =>
      rw [hchange, Option.map_eq_some_iff] at hgate
      obtain ⟨gate, hbefore, rfl⟩ := hgate
      exact holds_iff.mpr ⟨gate, pending, hbefore, Gate.pending_of_finished hpending, hticket⟩
    | keep _ _ _ _ _ hkeep _ =>
      exact holds_iff.mpr ⟨after, pending, hkeep ▸ hgate, hpending, hticket⟩
  | dropped =>
    cases heffect with
    | abandon _ hchange _ =>
      rw [hchange, Option.map_eq_some_iff] at hgate
      obtain ⟨gate, hbefore, rfl⟩ := hgate
      exact holds_iff.mpr
        ⟨gate, pending, hbefore, (Gate.pending_abandoned.mp hpending).1, hticket⟩
    | keep _ _ _ _ _ hkeep _ =>
      exact holds_iff.mpr ⟨after, pending, hkeep ▸ hgate, hpending, hticket⟩

theorem loads_end (session : Session) (ticket : UInt64) (ending : Ending) :
    (session.step (ending.step ticket)).1.loads = (session.withoutLoad ticket).loads := by
  cases hload : session.load? ticket with
  | none => rw [step_absent hload, withoutLoad_absent hload]
  | some load =>
    cases ending with
    | result outcome =>
      simp only [Ending.step, step]
      cases heditor : session.editor with
      | none => rw [finishLoad_dropped hload heditor]
      | some editor => rw [finishLoad_editor hload heditor]
    | dropped => rw [step_dropped hload]

/-- The end of a load leaves every other load under way. -/
theorem load?_end (session : Session) (hne : ticket ≠ other) (ending : Ending) :
    (session.step (ending.step other)).1.load? ticket = session.load? ticket := by
  rw [load?, loads_end]
  exact load?_withoutLoad hne

/-! ## Two loads -/

/-- Whether it does not matter which of two steps comes first: the session is the same after both,
and either step gives the same answer. -/
structure Commute (session : Session) (first second : Step) : Prop where
  state : ((session.step first).1.step second).1 = ((session.step second).1.step first).1
  firstAnswer : ((session.step second).1.step first).2 = (session.step first).2
  secondAnswer : ((session.step first).1.step second).2 = (session.step second).2

theorem Commute.symm {first second : Step} (h : session.Commute first second) :
    session.Commute second first :=
  ⟨h.state.symm, h.secondAnswer, h.firstAnswer⟩

theorem commute_of_not_holds (hne : ticket ≠ other) (h : session.holds ticket = false)
    (ending last : Ending) : session.Commute (ending.step ticket) (last.step other) := by
  have hbefore := step_of_not_holds h ending
  have hafter := step_of_not_holds (holds_end h other last) ending
  rw [load?_end session hne] at hafter
  have hother := step_withoutLoad session hne.symm last
  refine ⟨?_, ?_, ?_⟩
  · rw [hbefore, hother, hafter]
  · rw [hbefore, hafter]
  · rw [hbefore, hother]

/-- The ends of two loads commute, as one of them does not hold the gate. -/
theorem commute_end (session : Session) (hne : ticket ≠ other) (ending last : Ending) :
    session.Commute (ending.step ticket) (last.step other) := by
  by_cases h : session.holds ticket = true
  · have hother : session.holds other = false := by
      rw [Bool.eq_false_iff]
      intro hother
      exact hne (holds_unique h hother)
    exact (commute_of_not_holds hne.symm hother last ending).symm
  · exact commute_of_not_holds hne (Bool.eq_false_iff.mpr h) ending last

/-- **The order of arrival is invisible.** In whatever state a session is, let two loads end, each
with any result or dropped: the session is the same whichever ends first, with its editor and the
loads that are left, and each of the two gets the same answer. That is so as at most one load holds
the gate, and the end of any other does nothing but take the load away. Loads are told apart by
their tickets: as long as tickets do not run out, no two loads under way carry the same one. -/
theorem order_of_arrival_is_invisible (name : String) (kind : ProjectKind) (steps : List Step) :
    let session := (new name kind).run steps
    (∀ first second, first ≠ second → ∀ ending last : Ending,
      session.Commute (ending.step first) (last.step second)) ∧
    (∀ first second, session.holds first = true → session.holds second = true →
      first = second) ∧
    (∀ ticket, session.holds ticket = false → ∀ ending : Ending,
      (session.step (ending.step ticket)).1 = session.withoutLoad ticket) ∧
    (((new name kind).tickets steps).length < UInt64.size → session.carried.Nodup) := by
  intro session
  refine ⟨fun first second hne => session.commute_end hne, fun first second => holds_unique,
    ?stale, ?distinct⟩
  case stale =>
    intro ticket hstale ending
    rw [step_of_not_holds hstale]
  case distinct =>
    intro hroom
    have hgated : session.Gated ((new name kind).tickets steps) :=
      gated_run (gated_new name kind) hroom
    exact hgated.nodup

/-- A diagram comes in for a load that lost the gate, while the load that holds it fails. -/
theorem stale_result_beside_failure :
    let session := (new "Demo" .web).run [.reserve (.template "shop"),
      .editor (.replace ⟨[], []⟩), .reserve (.template "blog")]
    let stale := (Ending.result (.ok ⟨[], []⟩)).step 0
    let failing := (Ending.result (.error .transport)).step 1
    session.carried = [0, 1] ∧ session.carried.Nodup ∧ session.holds 0 = false ∧
      (session.step stale).1 = session.withoutLoad 0 ∧
      ((session.step stale).1.step failing).1 = ((session.step failing).1.step stale).1 ∧
      ((session.step failing).1.step stale).2 = .failed .discarded ∧
      ((session.step stale).1.step failing).2 = .failed .transport := by
  intro session stale failing
  obtain ⟨hcommute, -, hstale, hnodup⟩ := order_of_arrival_is_invisible "Demo" .web
    [.reserve (.template "shop"), .editor (.replace ⟨[], []⟩), .reserve (.template "blog")]
  have hpair : session.Commute stale failing := hcommute 0 1 (by decide) _ _
  exact ⟨rfl, hnodup (by decide), rfl, hstale 0 rfl _, hpair.state, hpair.firstAnswer,
    hpair.secondAnswer⟩

/-! ## Any number of loads -/

/-- The steps with which loads end, one after the other. -/
def endings (ends : List (UInt64 × Ending)) : List Step :=
  ends.map fun (ticket, ending) => ending.step ticket

/-- What a load gets at its end does not depend on the loads that ended before. -/
theorem answer_after {ends : List (UInt64 × Ending)} (hother : ticket ∉ ends.map Prod.fst)
    (ending : Ending) :
    ((session.run (endings ends)).step (ending.step ticket)).2 =
      (session.step (ending.step ticket)).2 := by
  induction ends generalizing session with
  | nil => rfl
  | cons earlier ends ih =>
    rw [List.map_cons, List.mem_cons, not_or] at hother
    obtain ⟨hne, hrest⟩ := hother
    show (((session.step (earlier.2.step earlier.1)).1.run (endings ends)).step _).2 = _
    rw [ih hrest]
    exact (session.commute_end hne ending earlier.2).firstAnswer

/-- Loads may end in any order. -/
theorem run_perm {ends order : List (UInt64 × Ending)} (horder : order.Perm ends)
    (hnodup : (order.map Prod.fst).Nodup) (session : Session) :
    session.run (endings order) = session.run (endings ends) := by
  rw [run, run, endings, endings, List.foldl_map, List.foldl_map]
  apply horder.foldl_eq'
  intro first hfirst second hsecond state
  by_cases hsame : first = second
  · rw [hsame]
  · have hne : first.1 ≠ second.1 := by
      intro hticket
      exact hsame (List.inj_on_of_nodup_map hnodup hfirst hsecond hticket)
    exact (state.commute_end hne first.2 second.2).state

end Session

end DiagramStudio
