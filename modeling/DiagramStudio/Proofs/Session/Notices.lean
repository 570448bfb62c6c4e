import DiagramStudio.Proofs.Session.Effect
import DiagramStudio.Proofs.Session.Interference

/-!
# Notices are accounted for

A notice is given when a request ends with something that the user should know, under an id that
counts the notices given before. `posted` says which steps these are, by looking at the session
before the step; all that is said about notices follows from the one lemma that says what a step
does to the board on which they stand.

Results:
* `board_of_step`: what a step does to the board.
* `ledger_step`, `ledger_run`: the board holds notices that were given, and counts all of them.
* `used_load_iff`, `used_export_iff`: a notice is posted exactly for results that are not discarded.
* `notices_are_accounted_for`: what notices there are after any run of a session.
-/

namespace DiagramStudio

/-! ## The board -/

/-- What a notice says. -/
structure Post where
  level : NoticeLevel
  text : String

/-- The notice that says it, under an id. -/
def Post.under (post : Post) (id : UInt64) : Notice := ⟨id, post.level, post.text⟩

/-- What is told when the load of a request ends: nothing about a diagram that arrives. -/
def LoadRequest.post (request : LoadRequest) : Except ServiceError Diagram → Option Post
  | .ok _ => none
  | .error error => some ⟨.error, request.failure error⟩

/-- What is told when an export ends. -/
def exportPost : Except ServiceError CodegenResponse → Post
  | .ok response => ⟨.info, "Project generated at: " ++ response.path⟩
  | .error error => ⟨.error, "Code generation failed: " ++ error.userMessage⟩

/-- The notices that stand in an editor, and the id of the next one. -/
structure Board where
  notices : List Notice
  next : UInt64

namespace Board

/-- The board with a post, if there is one. -/
def told (board : Board) : Option Post → Board
  | none => board
  | some post => ⟨board.notices ++ [post.under board.next], board.next + 1⟩

/-- The board after a step with that post. -/
def after (board : Board) (step : Session.Step) (post : Option Post) : Board :=
  match step with
  | .editor (.dismiss id) => { board with notices := board.notices.filter (·.id ≠ id) }
  | _ => board.told post

theorem notices_told (board : Board) (post : Option Post) :
    (board.told post).notices = board.notices ++ (post.map (·.under board.next)).toList := by
  cases post with
  | none => exact (List.append_nil _).symm
  | some post => rfl

theorem after_eq_told {step : Session.Step} (h : step.isDismissal = false) (board : Board)
    (post : Option Post) : board.after step post = board.told post := by
  unfold after
  split
  · cases h
  · rfl

end Board

namespace Editor

/-- The board of an editor. -/
def board (editor : Editor) : Board := ⟨editor.notices, editor.nextNotice⟩

theorem board_beginLoad (editor : Editor) : editor.beginLoad.1.board = editor.board := by
  unfold beginLoad
  split
  · rfl
  · split <;> rfl

theorem board_abandonLoad (editor : Editor) (ticket : UInt64) :
    (editor.abandonLoad ticket).board = editor.board := by
  unfold abandonLoad
  split <;> rfl

/-- An awaited load that fails is told. -/
theorem board_finishLoad (editor : Editor) (ticket : UInt64) (request : LoadRequest)
    (outcome : Except ServiceError Diagram) :
    (editor.finishLoad ticket request outcome).1.board =
      editor.board.told (if editor.gate.awaits ticket then request.post outcome else none) := by
  by_cases hawaits : editor.gate.awaits ticket = true
  · rw [if_pos hawaits]
    cases outcome with
    | ok diagram =>
      rw [finishLoad_ok hawaits]
      rfl
    | error error =>
      rw [finishLoad_error hawaits]
      rfl
  · rw [if_neg hawaits, finishLoad_unawaited hawaits]
    split
    · rfl
    · exact board_abandonLoad editor ticket

theorem board_beginExport (editor : Editor) : editor.beginExport.1.board = editor.board := by
  unfold beginExport
  split
  · rfl
  · split <;> rfl

/-- The end of an export is told in an open editor. -/
theorem board_finishExport (editor : Editor) (outcome : Except ServiceError CodegenResponse) :
    (editor.finishExport outcome).1.board =
      editor.board.told (if !editor.closed then some (exportPost outcome) else none) := by
  cases hclosed : editor.closed with
  | true => simp [finishExport, hclosed, Board.told, board]
  | false => cases outcome <;> simp [finishExport, hclosed] <;> rfl

/-- A dismissal answers whether the notice was there. -/
theorem answer_dismiss (editor : Editor) (id : UInt64) :
    (editor.dismiss id).2 = decide (id ∈ editor.notices.map (·.id)) := by
  rw [dismiss, Bool.eq_iff_iff, List.any_eq_true, decide_eq_true_iff, List.mem_map]
  simp only [decide_eq_true_iff]

/-- The user tells nothing, and can only dismiss a notice. -/
theorem board_step (editor : Editor) (step : Step) :
    (editor.step step).1.board = editor.board.after (.editor step) none := by
  cases step <;> rfl

theorem finishExport_ok (editor : Editor) (response : CodegenResponse) :
    (editor.finishExport (.ok response)).2 =
      if editor.closed then .error .discarded else .ok response := by
  cases hclosed : editor.closed <;> simp [finishExport, hclosed]

end Editor

namespace Session

variable {session : Session} {step : Step} {board : Board}

/-- The board, unless the session was dropped. -/
def board? (session : Session) : Option Board := session.editor.map Editor.board

/-! ## Posts -/

/-- What a step tells the user: that a load failed which is awaited, or how an export ended which
was started, if the editor is open. -/
def posted (session : Session) : Step → Option Post
  | .finishLoad ticket outcome =>
    match session.load? ticket with
    | none => none
    | some load =>
      if session.gate?.any (·.awaits ticket) then load.request.post outcome else none
  | .finishExport key outcome =>
    if (session.submitted? key).isSome && session.isOpen then some (exportPost outcome) else none
  | _ => none

/-- The posts of a run, oldest first. -/
def posts (session : Session) (steps : List Step) : List Post :=
  (moments Session.step session steps).filterMap fun (session, step) => session.posted step

/-- The notices that were given in a run, oldest first. They are numbered in this order. -/
def given (session : Session) (steps : List Step) : List Notice :=
  (session.posts steps).mapIdx fun index post => post.under (.ofNat index)

theorem length_given (session : Session) (steps : List Step) :
    (session.given steps).length = (session.posts steps).length :=
  List.length_mapIdx

theorem posts_concat (session : Session) (steps : List Step) (step : Step) :
    session.posts (steps ++ [step]) =
      session.posts steps ++ ((session.run steps).posted step).toList := by
  rw [posts, moments_append, List.filterMap_append]
  show session.posts steps ++
    List.filterMap (fun moment : Session × Step => moment.1.posted moment.2)
      [(session.run steps, step)] = _
  rw [List.filterMap_cons]
  cases (session.run steps).posted step <;> rfl

/-- The notices of a run that goes on: at most one is new, and its number is the number of notices
given so far. -/
theorem given_concat (session : Session) (steps : List Step) (step : Step) :
    session.given (steps ++ [step]) = session.given steps ++
      (((session.run steps).posted step).map
        (·.under (.ofNat (session.given steps).length))).toList := by
  rw [given, posts_concat, List.mapIdx_append, length_given]
  cases (session.run steps).posted step with
  | none => rfl
  | some post => simp [given]

/-- As long as there is room, a later notice has a higher id. -/
theorem ids_given (session : Session) {steps : List Step}
    (hroom : (session.given steps).length < UInt64.size) :
    ((session.given steps).map (·.id)).Pairwise (· < ·) := by
  have hids : (session.given steps).map (·.id) =
      (List.range (session.posts steps).length).map UInt64.ofNat := by
    refine List.ext_getElem (by simp [given]) fun index _ _ => ?_
    simp [given, Post.under]
  rw [length_given] at hroom
  rw [hids, List.pairwise_map]
  refine List.Pairwise.imp_of_mem ?_ List.pairwise_lt_range
  intro earlier later hearlier hlater hlt
  rw [List.mem_range] at hearlier hlater
  rw [UInt64.lt_iff_toNat_lt, UInt64.toNat_ofNat_of_lt' (by omega),
    UInt64.toNat_ofNat_of_lt' (by omega)]
  exact hlt

/-! ## What a step does to the board -/

theorem board?_of_editor {editor : Editor} (h : session.editor = some editor) :
    session.board? = some editor.board := by
  rw [board?, h, Option.map_some]

/-- What is done with the board of the editor is done with that of the session. -/
theorem board?_withEditor {α : Type} {act : Editor → Editor × Except ServiceError α}
    {change : Board → Board}
    (h : ∀ editor, session.editor = some editor → (act editor).1.board = change editor.board) :
    (session.withEditor act).1.board? = session.board?.map change := by
  unfold withEditor
  cases heditor : session.editor with
  | none => simp [board?, heditor]
  | some editor => simp [board?, heditor, h editor heditor]

theorem board?_reserve (session : Session) (request : LoadRequest) :
    (session.reserve request).1.board? = session.board? := by
  have hsame : (session.withEditor Editor.beginLoad).1.board? = session.board?.map id :=
    board?_withEditor fun editor _ => editor.board_beginLoad
  rw [Option.map_id] at hsame
  unfold reserve
  generalize session.withEditor Editor.beginLoad = begun at hsame ⊢
  obtain ⟨next, _ | _⟩ := begun <;> exact hsame

theorem board?_startLoad (session : Session) (ticket : UInt64) :
    (session.startLoad ticket).1.board? = session.board? := by
  unfold startLoad
  split <;> rfl

theorem board?_dropLoad (session : Session) (ticket : UInt64) :
    (session.dropLoad ticket).1.board? = session.board? := by
  unfold dropLoad
  split
  · rfl
  · simp [board?, withoutLoad, Function.comp_def, Editor.board_abandonLoad]

theorem board?_startExport (session : Session) (key : Nat) :
    (session.startExport key).1.board? = session.board? := by
  have hsame : (session.withEditor Editor.beginExport).1.board? = session.board?.map id :=
    board?_withEditor fun editor _ => editor.board_beginExport
  rw [Option.map_id] at hsame
  unfold startExport
  split
  · rfl
  · rfl
  · generalize session.withEditor Editor.beginExport = begun at hsame ⊢
    obtain ⟨next, _ | _⟩ := begun <;> exact hsame

theorem board?_dropExport (session : Session) (key : Nat) :
    (session.dropExport key).1.board? = session.board? := by
  unfold dropExport
  split
  · rfl
  · rfl
  · simp only [board?, withoutExport, Option.map_map]
    rfl

/-- The end of a load posts what is to be told about it. -/
theorem board?_finishLoad (session : Session) (ticket : UInt64)
    (outcome : Except ServiceError Diagram) :
    (session.finishLoad ticket outcome).1.board? =
      session.board?.map (·.told (session.posted (.finishLoad ticket outcome))) := by
  cases hload : session.load? ticket with
  | none =>
    simp only [finishLoad, posted, hload]
    exact Option.map_id'.symm
  | some load =>
    cases heditor : session.editor with
    | none =>
      rw [finishLoad_dropped hload heditor]
      simp [board?, withoutLoad, heditor]
    | some editor =>
      rw [finishLoad_editor hload heditor, board?_of_editor heditor, Option.map_some, posted, hload,
        gate?, heditor]
      exact congrArg some (editor.board_finishLoad ticket load.request outcome)

/-- The answer to the end of an export. -/
def exportAnswer : Except ServiceError CodegenResponse → Answer
  | .ok response => .generated response
  | .error error => .failed error

/-- The end of an export that was started is up to the editor. -/
theorem finishExport_submitted {key : Nat} {request : CodegenRequest}
    (h : session.submitted? key = some request) (outcome : Except ServiceError CodegenResponse) :
    session.finishExport key outcome =
      (((session.withoutExport key).withEditor (·.finishExport outcome)).1,
        exportAnswer ((session.withoutExport key).withEditor (·.finishExport outcome)).2) := by
  obtain ⟨found, hfound, hrequest⟩ := Option.bind_eq_some_iff.mp h
  obtain ⟨other, submitted⟩ := found
  obtain rfl : submitted = some request := hrequest
  simp only [finishExport, hfound]
  generalize (session.withoutExport key).withEditor (·.finishExport outcome) = ended
  obtain ⟨_, _ | _⟩ := ended <;> rfl

/-- There is nothing to end of an export that was not started. -/
theorem finishExport_unsubmitted {key : Nat} (h : session.submitted? key = none)
    (outcome : Except ServiceError CodegenResponse) :
    session.finishExport key outcome = (session, .absent) := by
  unfold finishExport
  split <;> rename_i hfound
  · rw [submitted?, hfound] at h
    cases h
  · rfl

/-- The end of an export posts what is to be told about it. -/
theorem board?_finishExport (session : Session) (key : Nat)
    (outcome : Except ServiceError CodegenResponse) :
    (session.finishExport key outcome).1.board? =
      session.board?.map (·.told (session.posted (.finishExport key outcome))) := by
  have hboard : ((session.withoutExport key).withEditor (·.finishExport outcome)).1.board? =
      session.board?.map
        (·.told (if session.isOpen then some (exportPost outcome) else none)) := by
    refine board?_withEditor fun editor heditor => ?_
    have hthere : session.editor = some editor := heditor
    rw [editor.board_finishExport outcome, isOpen, hthere, Option.any_some]
  cases hsubmitted : session.submitted? key with
  | none =>
    rw [finishExport_unsubmitted hsubmitted, posted, hsubmitted]
    exact Option.map_id'.symm
  | some request =>
    rw [finishExport_submitted hsubmitted, posted, hsubmitted, Option.isSome_some, Bool.true_and]
    exact hboard

/-- What a step does to the board. -/
theorem board_of_step (h : (session.step step).1.board? = some board) :
    ∃ before, session.board? = some before ∧ board = before.after step (session.posted step) := by
  have hsame : ∀ next : Session, next.board? = session.board? → next.board? = some board →
      ∃ before, session.board? = some before ∧ board = before.told none :=
    fun next hnext hboard => ⟨board, hnext.symm.trans hboard, rfl⟩
  have hposted : ∀ (next : Session) (post : Option Post),
      next.board? = session.board?.map (·.told post) → next.board? = some board →
        ∃ before, session.board? = some before ∧ board = before.told post := by
    intro next post hnext hboard
    rw [hnext, Option.map_eq_some_iff] at hboard
    obtain ⟨before, hbefore, rfl⟩ := hboard
    exact ⟨before, hbefore, rfl⟩
  cases step with
  | reserve request => exact hsame _ (board?_reserve session request) h
  | startLoad ticket => exact hsame _ (board?_startLoad session ticket) h
  | finishLoad ticket outcome => exact hposted _ _ (board?_finishLoad session ticket outcome) h
  | dropLoad ticket => exact hsame _ (board?_dropLoad session ticket) h
  | makeExport => exact hsame _ rfl h
  | startExport key => exact hsame _ (board?_startExport session key) h
  | finishExport key outcome => exact hposted _ _ (board?_finishExport session key outcome) h
  | dropExport key => exact hsame _ (board?_dropExport session key) h
  | drop => cases h
  | editor step =>
    simp only [Session.step] at h
    cases heditor : session.editor with
    | none =>
      rw [heditor] at h
      simp [board?, heditor] at h
    | some editor =>
      rw [heditor] at h
      cases h
      exact ⟨editor.board, board?_of_editor heditor, editor.board_step step⟩

/-! ## The ledger -/

/-- What holds of a board when these are the notices that were given: those that stand were given,
in this order, and the next id is their number. -/
structure Ledger (board : Board) (given : List Notice) : Prop where
  kept : board.notices.Sublist given
  counted : board.next.toNat = given.length

/-- With room for one more, a notice that is told is entered. -/
theorem Ledger.told {given : List Notice} (h : Ledger board given) (post : Option Post)
    (hroom : (given ++ (post.map (·.under (.ofNat given.length))).toList).length < UInt64.size) :
    Ledger (board.told post) (given ++ (post.map (·.under (.ofNat given.length))).toList) := by
  have hnext : board.next = .ofNat given.length := by
    rw [← h.counted, UInt64.ofNat_toNat]
  refine ⟨?_, ?_⟩
  · rw [board.notices_told post, hnext]
    exact h.kept.append (List.Sublist.refl _)
  · cases post with
    | none => simpa [Board.told] using h.counted
    | some post =>
      rw [List.length_append, ← h.counted] at hroom
      rw [List.length_append, ← h.counted]
      exact toNat_succ_of_lt hroom

theorem ledger_step {given : List Notice}
    (h : ∀ board, session.board? = some board → Ledger board given) (step : Step)
    (hroom : (given ++ ((session.posted step).map (·.under (.ofNat given.length))).toList).length
      < UInt64.size) :
    ∀ board, (session.step step).1.board? = some board →
      Ledger board
        (given ++ ((session.posted step).map (·.under (.ofNat given.length))).toList) := by
  intro board hboard
  obtain ⟨before, hbefore, rfl⟩ := board_of_step hboard
  cases hdismissal : step.isDismissal with
  | false =>
    rw [Board.after_eq_told hdismissal]
    exact (h before hbefore).told _ hroom
  | true =>
    obtain ⟨id, rfl⟩ : ∃ id, step = .editor (.dismiss id) := by
      unfold Step.isDismissal at hdismissal
      split at hdismissal
      · exact ⟨_, rfl⟩
      · cases hdismissal
    obtain ⟨hkept, hcounted⟩ := h before hbefore
    exact ⟨(List.filter_sublist.trans hkept).trans (List.sublist_append_left _ _),
      by simpa [posted]⟩

theorem ledger_run (name : String) (kind : ProjectKind) {steps : List Step}
    (hroom : ((new name kind).given steps).length < UInt64.size) :
    ∀ board, ((new name kind).run steps).board? = some board →
      Ledger board ((new name kind).given steps) := by
  induction steps using List.reverseRecOn with
  | nil =>
    rintro board ⟨⟩
    exact ⟨List.Sublist.refl [], rfl⟩
  | append_singleton steps step ih =>
    rw [given_concat] at hroom ⊢
    rw [run_append]
    refine ledger_step (ih ?_) step hroom
    rw [List.length_append] at hroom
    exact Nat.lt_of_le_of_lt (Nat.le_add_right _ _) hroom

/-! ## Results that are told -/

/-- A failure of a load is told exactly if a diagram in its place would be installed. -/
theorem used_load_iff {ticket : UInt64} {error : ServiceError} :
    (session.posted (.finishLoad ticket (.error error))).isSome = true ↔
      ∀ diagram, (session.step (.finishLoad ticket (.ok diagram))).2 = .done := by
  simp only [Session.step, posted]
  cases hload : session.load? ticket with
  | none => simp [finishLoad, hload]
  | some load =>
    cases heditor : session.editor with
    | none => simp [finishLoad_dropped hload heditor, gate?, heditor]
    | some editor =>
      rw [gate?, heditor, Option.map_some, Option.any_some]
      simp only [finishLoad_editor hload heditor]
      by_cases hawaits : editor.gate.awaits ticket = true
      · simp [hawaits, LoadRequest.post, Editor.finishLoad_ok hawaits, loadAnswer]
      · simp [hawaits, Editor.finishLoad_unawaited hawaits, loadAnswer]

/-- The end of an export is told exactly if a success would be answered with what was generated. -/
theorem used_export_iff {key : Nat} {outcome : Except ServiceError CodegenResponse} :
    (session.posted (.finishExport key outcome)).isSome = true ↔
      ∀ response, (session.step (.finishExport key (.ok response))).2 = .generated response := by
  simp only [Session.step, posted]
  cases hsubmitted : session.submitted? key with
  | none => simp [finishExport_unsubmitted hsubmitted]
  | some request =>
    simp only [finishExport_submitted hsubmitted, withEditor]
    have hrest : (session.withoutExport key).editor = session.editor := rfl
    cases heditor : session.editor with
    | none => simp [hrest, heditor, isOpen, exportAnswer]
    | some editor =>
      cases hclosed : editor.closed <;>
        simp [hrest, heditor, isOpen, exportAnswer, editor.finishExport_ok, hclosed]

/-- **Notices are accounted for.** After any run in which fewer notices were given than there are
ids, the notices that stand are among those that were given, and both are in the order of their ids,
so that no id is given twice, also not after it was dismissed. A dismissal takes away exactly the
notice of its id, and answers whether there was one. Every other step leaves the notices that stand
and adds what it posts: nothing, but for a load that fails where its diagram would have been
installed, and for an export that was started and ends in an open editor. -/
theorem notices_are_accounted_for (name : String) (kind : ProjectKind) {steps : List Step}
    (hroom : ((new name kind).given steps).length < UInt64.size) :
    let session := (new name kind).run steps
    let given := (new name kind).given steps
    let added := fun step => ((session.posted step).map (·.under (.ofNat given.length))).toList
    (given.map (·.id)).Pairwise (· < ·) ∧
      (∀ step, (new name kind).given (steps ++ [step]) = given ++ added step) ∧
      (∀ editor, session.editor = some editor →
        editor.notices.Sublist given ∧ (editor.notices.map (·.id)).Pairwise (· < ·) ∧
          (∀ id, ∃ after,
            (session.step (.editor (.dismiss id))).1.editor = some after ∧
              after.notices = editor.notices.filter (·.id ≠ id) ∧
              (session.step (.editor (.dismiss id))).2 =
                .editor (.accepted (decide (id ∈ editor.notices.map (·.id))))) ∧
          ∀ step, step.isDismissal = false → ∀ after,
            (session.step step).1.editor = some after →
              after.notices = editor.notices ++ added step) ∧
      (∀ ticket error, (session.posted (.finishLoad ticket (.error error))).isSome = true ↔
        ∀ diagram, (session.step (.finishLoad ticket (.ok diagram))).2 = .done) ∧
      ∀ key outcome, (session.posted (.finishExport key outcome)).isSome = true ↔
        ∀ response, (session.step (.finishExport key (.ok response))).2 = .generated response := by
  intro session given added
  have hids : (given.map (·.id)).Pairwise (· < ·) := ids_given _ hroom
  refine ⟨hids, given_concat _ steps, fun editor heditor => ?_, fun _ _ => used_load_iff,
    fun _ _ => used_export_iff⟩
  have hboard : session.board? = some editor.board := board?_of_editor heditor
  have hledger : Ledger editor.board given := ledger_run name kind hroom _ hboard
  refine ⟨hledger.kept, hids.sublist (hledger.kept.map _), fun id => ?_,
    fun step hdismissal after hafter => ?_⟩
  · simp only [Session.step, heditor]
    exact ⟨_, rfl, rfl, congrArg (Answer.editor <| .accepted ·) (editor.answer_dismiss id)⟩
  · obtain ⟨before, hbefore, hnotices⟩ := board_of_step (board?_of_editor hafter)
    obtain rfl : editor.board = before := Option.some_inj.mp (hboard.symm.trans hbefore)
    rw [Board.after_eq_told hdismissal] at hnotices
    have hnext : editor.board.next = .ofNat given.length := by
      rw [← hledger.counted, UInt64.ofNat_toNat]
    have := congrArg Board.notices hnotices
    rw [Board.notices_told, hnext] at this
    exact this

/-- The notice of a load that failed was dismissed; the export that succeeds next is told under
another id. -/
theorem notice_after_dismissal :
    let steps := [Step.reserve (.template "shop"), .finishLoad 0 (.error .busy),
      .editor (.dismiss 0), .makeExport, .startExport 0]
    let session := (new "Demo" .web).run steps
    (new "Demo" .web).given steps = [⟨0, .error, LoadRequest.failure (.template "shop") .busy⟩] ∧
      ∀ after, (session.step (.finishExport 0 (.ok ⟨"out", none⟩))).1.editor = some after →
        after.notices = [⟨1, .info, "Project generated at: out"⟩] := by
  intro steps session
  have hgiven : (new "Demo" .web).given steps =
      [⟨0, .error, LoadRequest.failure (.template "shop") .busy⟩] := rfl
  have hroom : ((new "Demo" .web).given steps).length < UInt64.size := by
    rw [hgiven]
    decide
  obtain ⟨-, -, hnotices, -⟩ := notices_are_accounted_for "Demo" .web hroom
  refine ⟨hgiven, fun after hafter => ?_⟩
  exact (hnotices _ rfl).2.2.2 (.finishExport 0 (.ok ⟨"out", none⟩)) rfl after hafter

end Session

end DiagramStudio
