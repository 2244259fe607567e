import Btcr2Aggregation.Service.Conservation
import Btcr2Aggregation.Service.Monitor
import Btcr2Aggregation.Service.OperatorSteps

/-!
# Dismissing an ended cohort

The console's ended group is a union: the monitor's ended records and the
operator's terminal records.  A dismissal clears both.  Each of them is filed
when its cohort ends, and no cohort ends twice; but the broadcaster reports on a
co-signed cohort long after it ended, and a report that a broadcast failed, or
that the beacon confirmed, files a record whether or not there still is one.

A run is a prompt run of the operator surface with the monitor beside it.  The
session the monitor reads is the runner's.
-/

namespace Btcr2Aggregation

open InsertionMap

section System

/-! ## The operator surface and the monitor -/

/-- What the monitor reads of one cohort. -/
def OperatorState.seatsOf
    (state : OperatorState)
    (cohort : Sigma fun _ : CohortId => SessionCohort) : SessionSeats where
  phase := cohort.2.phase
  joined := cohort.2.joined
  minParticipants :=
    ((state.advertised.lookup cohort.1).map CohortConfig.capacity).getD 0

/-- The runner's cohorts, in their order. -/
def OperatorState.session (state : OperatorState) : MonitorSession :=
  state.runner.cohorts.entries.foldr
    (fun cohort session => session.insert cohort.1 (state.seatsOf cohort)) ∅

/-- `dismissed` are the ids whose `DELETE` was answered `ok`. -/
structure DismissalRun where
  operator : OperatorRun
  monitor : Monitor
  now : Nat
  dismissed : List CohortId

/-- The operator's requests and what the library does; a completion and a
failure are heard by the monitor as well. -/
inductive DismissalEvent where
  | clock (now : Nat)
  | operator (event : OperatorEvent)
  | completes (cohortId : CohortId) (scriptPath : Bool)
  | fails (cohortId : CohortId) (message reason : String)
  | monitor (event : MonitorEvent)
  | dismiss (cohortId : CohortId)

namespace DismissalEvent

/-- What an event is to the operator surface. -/
def operator? : DismissalEvent → Option OperatorEvent
  | .operator event => some event
  | .completes cohortId _ => some (.completion cohortId)
  | .fails cohortId message _ => some (.failure cohortId message)
  | .dismiss cohortId => some (.forgetTerminal cohortId .sound)
  | _ => none

end DismissalEvent

/-- The operator events the monitor hears of in no other way. -/
def OperatorEvent.direct : OperatorEvent → Bool
  | .completion _ => false
  | .failure _ _ => false
  | .forgetTerminal _ _ => false
  | _ => true

namespace DismissalRun

def booted (settings : RuntimeSettings) (mode : ServiceMode) :
    DismissalRun where
  operator := .booted settings
  monitor := .created mode
  now := 0
  dismissed := []

/-- The live session, as the monitor reads it. -/
def session (run : DismissalRun) : MonitorSession :=
  run.operator.state.session

/-- The monitor after a list of calls. -/
def called (run : DismissalRun) (calls : List MonitorEvent) : Monitor :=
  calls.foldl (fun monitor call => monitor.step run.session run.now call)
    run.monitor

/-- What the monitor is told: a cancel is noted before the runner stops. -/
def calls (run : DismissalRun) : DismissalEvent → List MonitorEvent
  | .operator (.cancelCohort cohortId _) =>
      if cohortId ∈ run.operator.state.advertised then
        [.noteCanceled cohortId,
          .noteServiceAction (canceledCohortText cohortId)]
      else
        []
  | .completes cohortId scriptPath =>
      [.notice (.signingComplete cohortId scriptPath)]
  | .fails cohortId _ reason => [.notice (.cohortFailed cohortId reason)]
  | .monitor event => [event]
  | _ => []

/-- `DELETE /v1/operator/ended/:id`: both sources are asked, and the id is
unknown to the route when neither had it. -/
def deleteEnded
    (options : OperatorOptions) (run : DismissalRun) (cohortId : CohortId) :
    Bool × DismissalRun :=
  let (monitorCleared, monitor) :=
    run.monitor.dismissEnded run.session run.now cohortId
  let terminalCleared : Bool :=
    (forgetTerminal .sound run.operator.state cohortId).1 = some true
  (monitorCleared || terminalCleared,
    { run with
      operator := run.operator.step options (.forgetTerminal cohortId .sound)
      monitor :=
        if !monitorCleared && terminalCleared then
          monitor.recordServiceAction run.now (dismissedRecordText cohortId)
        else
          monitor })

def step (options : OperatorOptions) (run : DismissalRun) :
    DismissalEvent → DismissalRun
  | .clock now => { run with now }
  | .operator event =>
      { run with
        operator := run.operator.step options event
        monitor := run.called (run.calls (.operator event)) }
  | .completes cohortId scriptPath =>
      { run with
        operator := run.operator.step options (.completion cohortId)
        monitor := run.called (run.calls (.completes cohortId scriptPath)) }
  | .fails cohortId message reason =>
      { run with
        operator := run.operator.step options (.failure cohortId message)
        monitor := run.called (run.calls (.fails cohortId message reason)) }
  | .monitor event =>
      { run with monitor := run.called (run.calls (.monitor event)) }
  | .dismiss cohortId =>
      let (ok, after) := run.deleteEnded options cohortId
      { after with
        dismissed := if ok then cohortId :: run.dismissed else run.dismissed }

/-- The cohort's round was co-signed. -/
def Completed (run : DismissalRun) (cohortId : CohortId) : Prop :=
  (cohortId, Ending.completed) ∈ run.operator.endings

instance (run : DismissalRun) (cohortId : CohortId) :
    Decidable (run.Completed cohortId) :=
  inferInstanceAs (Decidable (_ ∈ _))

/-- What may reach the monitor outside the operator surface: the other notices,
a broadcaster's frame for a cohort that completed, the funding views, and the
operator's lines. -/
def Heard (run : DismissalRun) : MonitorEvent → Prop
  | .notice (.signingComplete _ _) => False
  | .notice (.cohortFailed _ _) => False
  | .notice _ => True
  | .frame (.broadcast cohortId _) => run.Completed cohortId
  | .frame (.failed cohortId _) => run.Completed cohortId
  | .frame (.anchored cohortId _ _) => run.Completed cohortId
  | .noteCanceled _ => False
  | .dismissEnded _ => False
  | _ => True

instance (run : DismissalRun) : ∀ event, Decidable (run.Heard event)
  | .notice notice => by
      induction notice using RunnerNotice.casesOn <;> unfold Heard <;>
        infer_instance
  | .frame frame => by
      induction frame using AnchorFrame.casesOn <;> unfold Heard <;>
        infer_instance
  | .noteCanceled _ => isFalse id
  | .dismissEnded _ => isFalse id
  | .noteFunding _ _ => isTrue trivial
  | .noteEsploraObservation _ => isTrue trivial
  | .noteOperatorAction _ _ => isTrue trivial
  | .noteServiceAction _ => isTrue trivial

/-- Each event in its turn. -/
def Offered (run : DismissalRun) (event : DismissalEvent) : Prop :=
  (∀ request ∈ event.operator?,
      offered run.operator request ∧ settlesPromptly run.operator request) ∧
    match event with
    | .operator request => request.direct = true
    | .monitor call => run.Heard call
    | _ => True

instance (run : DismissalRun) (event : DismissalEvent) :
    Decidable (run.Offered event) := by
  unfold Offered
  cases event <;>
    exact inferInstanceAs (Decidable ((∀ _ ∈ (_ : Option _), _ ∧ _) ∧ _))

end DismissalRun

def dismissalMachine
    (options : OperatorOptions) (settings : RuntimeSettings)
    (mode : ServiceMode) : Machine DismissalRun DismissalEvent where
  init := .booted settings mode
  step := DismissalRun.step options
  admits := DismissalRun.Offered

instance DismissalRun.decidableAdmits
    (options : OperatorOptions) (settings : RuntimeSettings)
    (mode : ServiceMode) (run : DismissalRun) (event : DismissalEvent) :
    Decidable ((dismissalMachine options settings mode).admits run event) :=
  inferInstanceAs (Decidable (run.Offered event))

end System

section Law

/-! ## The law -/

/-- Neither source shows an ended row for a dismissed id. -/
structure DismissalPermanent
    (options : OperatorOptions) (run : DismissalRun) : Prop where
  summary :
    ∀ cohortId ∈ run.dismissed,
      ∀ row ∈ run.monitor.summary run.session,
        row.cohortId = cohortId → ∀ chip, row.chip ≠ .ended chip
  listed :
    ∀ cohortId ∈ run.dismissed,
      ∀ row ∈ listCohorts options run.operator.state,
        row.draftId = cohortId →
          row.state ≠ .expired ∧ row.state ≠ .canceled

/-- No report that a broadcast failed or that a beacon confirmed comes after the
dismissal of its cohort. -/
def ReportsInTime (run : DismissalRun) : DismissalEvent → Prop
  | .monitor (.frame frame) =>
      ∀ cohortId ∈ (MonitorEvent.frame frame).files?,
        cohortId ∉ run.dismissed
  | _ => True

instance (run : DismissalRun) (event : DismissalEvent) :
    Decidable (ReportsInTime run event) := by
  unfold ReportsInTime
  split
  · exact inferInstanceAs (Decidable (∀ _ ∈ (_ : Option _), _))
  · exact isTrue trivial

end Law

section Session

/-! ## The session the monitor reads -/

theorem mem_foldr_insert
    {Value Other : Type} {convert : (Sigma fun _ : CohortId => Value) → Other}
    (entries : List (Sigma fun _ : CohortId => Value)) (id : CohortId) :
    id ∈
        entries.foldr
          (fun entry table => AList.insert entry.1 (convert entry) table)
          (∅ : InsertionMap CohortId Other) ↔
      id ∈ entries.map Sigma.fst := by
  induction entries with
  | nil => exact Iff.rfl
  | cons entry entries inductionHypothesis =>
      rw [List.foldr_cons, AList.mem_insert, inductionHypothesis, List.map_cons,
        List.mem_cons]

theorem lookup_foldr_insert
    {Value Other : Type} {convert : (Sigma fun _ : CohortId => Value) → Other}
    {entries : List (Sigma fun _ : CohortId => Value)} {id : CohortId}
    {found : Other}
    (held :
      (entries.foldr
          (fun entry table => AList.insert entry.1 (convert entry) table)
          (∅ : InsertionMap CohortId Other)).lookup id = some found) :
    ∃ entry ∈ entries, entry.1 = id ∧ convert entry = found := by
  induction entries with
  | nil => cases held
  | cons entry entries inductionHypothesis =>
      rw [List.foldr_cons] at held
      by_cases same : id = entry.1
      · subst same
        rw [AList.lookup_insert] at held
        exact ⟨entry, List.mem_cons_self, rfl, Option.some_inj.mp held⟩
      · rw [AList.lookup_insert_ne same] at held
        obtain ⟨other, member, named, converted⟩ := inductionHypothesis held
        exact ⟨other, List.mem_cons_of_mem _ member, named, converted⟩

/-- The session holds the runner's cohorts. -/
theorem OperatorState.mem_session {state : OperatorState} {id : CohortId} :
    id ∈ state.session ↔ id ∈ state.runner.cohorts := by
  unfold OperatorState.session
  rw [mem_foldr_insert]
  rfl

/-- The monitor reads the runner's phases. -/
theorem phase_session {state : OperatorState} (id : CohortId) :
    (state.session.lookup id).map SessionSeats.phase =
      state.runner.getCohortPhase id := by
  rw [Runner.getCohortPhase]
  cases shown : state.session.lookup id with
  | none =>
      have absent : id ∉ state.runner.cohorts := by
        rw [← OperatorState.mem_session]
        exact AList.lookup_eq_none.mp shown
      rw [AList.lookup_eq_none.mpr absent]
      rfl
  | some seats =>
      unfold OperatorState.session at shown
      obtain ⟨entry, member, rfl, rfl⟩ := lookup_foldr_insert shown
      rw [AList.mem_lookup_iff.mpr member]
      rfl

end Session

section Invariant

/-! ## What an ended cohort can no longer be -/

/-- A dismissal of a cohort that is not live leaves no terminal record of it. -/
theorem notMem_terminal_forgetTerminal
    {state : OperatorState} {cohortId : CohortId}
    (gone : cohortId ∉ state.runner.cohorts) :
    cohortId ∉ (forgetTerminal .sound state cohortId).2.terminal := by
  cases found : state.terminal.lookup cohortId with
  | none =>
      simp only [forgetTerminal, found]
      exact AList.lookup_eq_none.mp found
  | some record =>
      rw [forgetTerminal_of_retained rfl gone found]
      intro held
      exact (AList.mem_erase.mp held).1 rfl

/-- It answers `true` for a cohort with a record only. -/
theorem mem_terminal_of_forgetTerminal
    {state : OperatorState} {cohortId : CohortId}
    (cleared : (forgetTerminal .sound state cohortId).1 = some true) :
    cohortId ∈ state.terminal := by
  rcases forgetTerminal_cases .sound state cohortId with
    ⟨answer, refused, equality⟩ | ⟨record, found, -⟩
  · rw [equality] at cleared
    exact absurd cleared refused
  · exact InsertionMap.mem_of_lookup found

namespace Monitor

variable {monitor : Monitor} {session : MonitorSession} {now : Nat}
  {cohortId : CohortId}

theorem mem_ended_of_dismissEnded
    (cleared : (monitor.dismissEnded session now cohortId).1 = true) :
    cohortId ∈ monitor.ended := by
  unfold dismissEnded at cleared
  by_cases held : cohortId ∈ monitor.ended
  · exact held
  · rw [if_pos held] at cleared
    cases cleared

/-- A dismissal of a cohort that left the session leaves no record of it. -/
theorem notMem_ended_dismissEnded (gone : cohortId ∉ session) :
    cohortId ∉ (monitor.dismissEnded session now cohortId).2.ended := by
  unfold dismissEnded
  by_cases held : cohortId ∈ monitor.ended
  · rw [if_neg (not_not.mpr held), AList.lookup_eq_none.mpr gone]
    simp only [Option.map_none, Option.any_none, Bool.false_eq_true, if_false]
    rw [recordServiceAction_eq]
    intro found
    exact (AList.mem_erase.mp found).1 rfl
  · rw [if_pos held]
    exact held

theorem mem_ended_of_mem_dismissEnded
    {id : CohortId}
    (held : id ∈ (monitor.dismissEnded session now cohortId).2.ended) :
    id ∈ monitor.ended := by
  have written : id ∈ (monitor.step session now (.dismissEnded cohortId)).ended :=
    held
  rcases mem_ended_step _ _ _ written with before | files
  · exact before
  · cases files

end Monitor

namespace DismissalRun

theorem mem_ended_called
    {session : MonitorSession} {now : Nat} {id : CohortId}
    (calls : List MonitorEvent) :
    ∀ monitor : Monitor,
      id ∈
          (calls.foldl (fun monitor call => monitor.step session now call)
            monitor).ended →
        id ∈ monitor.ended ∨ ∃ call ∈ calls, call.files? = some id := by
  induction calls with
  | nil =>
      intro monitor held
      exact Or.inl held
  | cons call calls inductionHypothesis =>
      intro monitor held
      rw [List.foldl_cons] at held
      rcases inductionHypothesis _ held with now | ⟨later, member, files⟩
      · rcases Monitor.mem_ended_step _ _ _ now with before | files
        · exact Or.inl before
        · exact Or.inr ⟨call, List.mem_cons_self, files⟩
      · exact Or.inr ⟨later, List.mem_cons_of_mem _ member, files⟩

/-- What a dismissal leaves in the monitor was there before. -/
theorem mem_ended_deleteEnded
    {options : OperatorOptions} {run : DismissalRun} {cohortId id : CohortId}
    (held : id ∈ (run.deleteEnded options cohortId).2.monitor.ended) :
    id ∈ (run.monitor.dismissEnded run.session run.now cohortId).2.ended := by
  simp only [deleteEnded] at held
  split at held
  · rw [Monitor.recordServiceAction_eq] at held
    exact held
  · exact held

/-- What is true of the two sources whatever is reported: a record belongs to a
cohort that ended, and a dismissed cohort is past. -/
structure Consistent (run : DismissalRun) : Prop where
  attributed : Attributed run.operator
  drafts :
    DraftsAll (fun _ entry => entry.dto.state = .draft) run.operator.state
  recorded :
    ∀ id ∈ run.monitor.ended, id ∈ run.operator.endings.map Prod.fst
  dismissed : ∀ id ∈ run.dismissed, run.operator.Past id

variable {options : OperatorOptions} {run : DismissalRun}

theorem consistent_booted (settings : RuntimeSettings) (mode : ServiceMode) :
    Consistent (booted settings mode) where
  attributed := Attributed.booted settings
  drafts := by
    intro id entry found
    cases found
  recorded := by
    intro id held
    cases held
  dismissed := by
    intro id member
    cases member

theorem Consistent.session_of_ended
    (consistent : Consistent run) {id : CohortId}
    (ended : id ∈ run.operator.endings.map Prod.fst) :
    id ∉ run.session := by
  intro shown
  exact
    consistent.attributed.endedNotLive id ended
      (OperatorState.mem_session.mp shown)

theorem idle_of_settlesPromptly
    {operator : OperatorRun} {event : OperatorEvent}
    (prompt : settlesPromptly operator event)
    (request : event.isMicrotask = false) :
    operator.state.runner.pending = [] := by
  have queue := prompt.1
  rw [request] at queue
  simpa using queue

/-- A cohort the runner ends is among the endings. -/
theorem mem_endingNow_of_live
    {operator : OperatorRun} {cohortId : CohortId}
    (live : cohortId ∈ operator.state.runner.cohorts) (ending : Ending) :
    cohortId ∈ (operator.endingNow cohortId ending).map Prod.fst := by
  rw [OperatorRun.endingNow, if_pos live]
  exact List.mem_cons_self

variable (options) in
/-- Whatever files a record is about a cohort that ends with the event, or is a
frame about one that completed. -/
theorem Consistent.files_cases
    (consistent : Consistent run) {event : DismissalEvent}
    (possible : run.Offered event) {call : MonitorEvent}
    (told : call ∈ run.calls event) {id : CohortId}
    (files : call.files? = some id) :
    (id ∈ run.operator.state.runner.cohorts ∧
        id ∈ (run.step options event).operator.endings.map Prod.fst) ∨
      ∃ frame,
        event = .monitor (.frame frame) ∧
          (MonitorEvent.frame frame).files? = some id ∧ run.Completed id := by
  cases event with
  | clock now => cases told
  | dismiss cohortId => cases told
  | completes cohortId scriptPath =>
      rw [calls, List.mem_singleton] at told
      subst told
      cases files
      have live := (possible.1 _ rfl).1.2.2 id rfl
      exact Or.inl ⟨live, mem_endingNow_of_live live .completed⟩
  | fails cohortId message reason =>
      rw [calls, List.mem_singleton] at told
      subst told
      cases files
      have live := (possible.1 _ rfl).1.2.2 id rfl
      exact Or.inl ⟨live, mem_endingNow_of_live live (.failed message)⟩
  | monitor heard =>
      rw [calls, List.mem_singleton] at told
      subst told
      right
      have allowed := possible.2
      cases call with
      | frame frame =>
          refine ⟨frame, rfl, files, ?_⟩
          cases frame with
          | broadcast cohortId txid => cases files
          | failed cohortId reason =>
              cases files
              exact allowed
          | anchored cohortId txid confirmed =>
              cases confirmed with
              | false => cases files
              | true =>
                  cases files
                  exact allowed
      | notice notice => cases notice <;> cases files <;> exact allowed.elim
      | noteCanceled cohortId => exact allowed.elim
      | _ => cases files
  | operator request =>
      cases request with
      | cancelCohort cohortId health =>
          obtain ⟨-, prompt⟩ := possible.1 _ rfl
          rw [calls] at told
          split at told
          · next advertised =>
              have live :=
                consistent.attributed.live_of_advertised
                  (idle_of_settlesPromptly prompt rfl) advertised
              have same : id = cohortId := by
                rcases List.mem_cons.mp told with rfl | later
                · exact (Option.some.inj files).symm
                · rw [List.mem_singleton] at later
                  subst later
                  cases files
              subst same
              have ends :
                  (run.operator.step options
                      (.cancelCohort id health)).endings =
                    run.operator.endingNow id .canceled :=
                if_pos ⟨advertised, prompt.2.1⟩
              refine Or.inl ⟨live, ?_⟩
              simp only [step]
              rw [ends]
              exact mem_endingNow_of_live live .canceled
          · cases told
      | _ => cases told

/-- An event is one event of the operator surface, or none. -/
theorem operator_step (event : DismissalEvent) :
    (run.step options event).operator =
      match event.operator? with
      | some request => run.operator.step options request
      | none => run.operator := by
  cases event with
  | clock now => rfl
  | operator request => rfl
  | completes cohortId scriptPath => rfl
  | fails cohortId message reason => rfl
  | monitor call => rfl
  | dismiss cohortId => rfl

theorem ended_step
    (event : DismissalEvent) {id : CohortId}
    (ended : id ∈ run.operator.endings.map Prod.fst) :
    id ∈ (run.step options event).operator.endings.map Prod.fst := by
  rw [operator_step]
  cases event.operator? with
  | none => exact ended
  | some request =>
      exact (run.operator.settlesLive_step request).ended ended

/-- What the monitor holds after an event it held before, or was told. -/
theorem mem_ended_step
    (event : DismissalEvent) {id : CohortId}
    (held : id ∈ (run.step options event).monitor.ended) :
    id ∈ run.monitor.ended ∨
      ∃ call ∈ run.calls event, call.files? = some id := by
  cases event with
  | clock now => exact Or.inl held
  | operator request => exact mem_ended_called _ _ held
  | completes cohortId scriptPath => exact mem_ended_called _ _ held
  | fails cohortId message reason => exact mem_ended_called _ _ held
  | monitor call => exact mem_ended_called _ _ held
  | dismiss cohortId =>
      have kept : id ∈ (run.deleteEnded options cohortId).2.monitor.ended :=
        held
      exact
        Or.inl
          (Monitor.mem_ended_of_mem_dismissEnded (mem_ended_deleteEnded kept))

/-- Who is dismissed after an event: a request answered `ok` adds its id. -/
theorem mem_dismissed_step
    {event : DismissalEvent} {id : CohortId}
    (member : id ∈ (run.step options event).dismissed) :
    id ∈ run.dismissed ∨
      event = .dismiss id ∧ (run.deleteEnded options id).1 = true := by
  cases event with
  | dismiss cohortId =>
      simp only [step] at member
      split at member
      · next ok =>
          rcases List.mem_cons.mp member with rfl | before
          · exact Or.inr ⟨rfl, ok⟩
          · exact Or.inl before
      · exact Or.inl member
  | _ => exact Or.inl member

/-- A dismissal is answered `ok` for a cohort that ended only. -/
theorem Consistent.ended_of_deleteEnded
    (consistent : Consistent run) {cohortId : CohortId}
    (ok : (run.deleteEnded options cohortId).1 = true) :
    cohortId ∈ run.operator.endings.map Prod.fst := by
  simp only [deleteEnded, Bool.or_eq_true, decide_eq_true_eq] at ok
  rcases ok with cleared | cleared
  · exact
      consistent.recorded cohortId (Monitor.mem_ended_of_dismissEnded cleared)
  · have held := mem_terminal_of_forgetTerminal cleared
    exact consistent.attributed.ended_of_terminal held

/-- And leaves it past. -/
theorem Consistent.past_of_dismiss
    (consistent : Consistent run) {cohortId : CohortId}
    (possible : run.Offered (.dismiss cohortId))
    (ok : (run.deleteEnded options cohortId).1 = true) :
    (run.step options (.dismiss cohortId)).operator.Past cohortId := by
  have idle := idle_of_settlesPromptly (possible.1 _ rfl).2 rfl
  have ended := consistent.ended_of_deleteEnded ok
  have gone := consistent.attributed.endedNotLive cohortId ended
  refine ⟨⟨ended_step _ ended, ?_⟩, ?_⟩
  · intro waiting
    have settles :
        OperatorRun.SettlesLive run.operator
          (run.operator.step options (.forgetTerminal cohortId .sound)) :=
      OperatorRun.settlesLive_step _
    rcases settles.pending cohortId waiting with before | live
    · rw [Runner.pendingIds, idle] at before
      cases before
    · exact gone live
  · exact notMem_terminal_forgetTerminal gone

theorem Consistent.step
    (consistent : Consistent run) {event : DismissalEvent}
    (possible : run.Offered event) :
    Consistent (run.step options event) where
  attributed := by
    rw [operator_step]
    cases request : event.operator? with
    | none => exact consistent.attributed
    | some request' =>
        obtain ⟨offered, prompt⟩ := possible.1 request' request
        exact consistent.attributed.step offered prompt
  drafts := by
    rw [operator_step]
    cases event.operator? with
    | none => exact consistent.drafts
    | some request =>
        exact
          consistent.drafts.step
            (fun _ _ _ _ judged => (dto_of_judgeDraft judged).2) request
  recorded := by
    intro id held
    rcases mem_ended_step event held with before | ⟨call, told, files⟩
    · exact ended_step event (consistent.recorded id before)
    · rcases consistent.files_cases options possible told files with
        ⟨-, ended⟩ | ⟨frame, -, -, completed⟩
      · exact ended
      · exact ended_step event (List.mem_map_of_mem completed)
  dismissed := by
    intro id member
    rcases mem_dismissed_step member with before | ⟨rfl, ok⟩
    · rw [operator_step]
      cases event.operator? with
      | none => exact consistent.dismissed id before
      | some request =>
          exact
            (consistent.dismissed id before).step consistent.attributed request
    · exact consistent.past_of_dismiss possible ok

end DismissalRun

end Invariant

section Rows

/-! ## The rows of a dismissed id -/

namespace Monitor

variable {monitor : Monitor} {session : MonitorSession} {row : CohortSummary}

/-- A live row belongs to a cohort of the session, and has no ended chip. -/
theorem liveRow_spec
    {cohortId : CohortId} {seats : SessionSeats}
    (shown : monitor.liveRow? cohortId seats = some row) :
    row.cohortId = cohortId ∧ ∀ chip, row.chip ≠ .ended chip := by
  unfold liveRow? at shown
  split at shown
  · cases shown
    refine ⟨rfl, ?_⟩
    intro chip
    dsimp only
    split
    · exact nofun
    · split <;> exact nofun
  · cases shown

/-- An ended row shows a record. -/
theorem mem_ended_of_summary
    (listed : row ∈ monitor.summary session) {chip : EndedChip}
    (ended : row.chip = .ended chip) :
    row.cohortId ∈ monitor.ended := by
  simp only [summary, List.mem_append] at listed
  rcases listed with live | record
  · obtain ⟨cohort, -, shown⟩ := List.mem_filterMap.mp live
    exact absurd ended ((liveRow_spec shown).2 chip)
  · obtain ⟨entry, member, rfl⟩ := List.mem_map.mp record
    have held := List.mem_reverse.mp (List.mem_filter.mp member).1
    exact AList.mem_keys.mpr (List.mem_map_of_mem held)

/-- A record of a cohort that left the session is shown. -/
theorem summary_of_mem_ended
    {cohortId : CohortId} (held : cohortId ∈ monitor.ended)
    (gone : cohortId ∉ session) :
    ∃ row ∈ monitor.summary session,
      row.cohortId = cohortId ∧ ∃ chip, row.chip = .ended chip := by
  obtain ⟨record, found⟩ := InsertionMap.exists_lookup_of_mem held
  refine ⟨endedRow cohortId record, ?_, rfl, record.chip, rfl⟩
  simp only [summary, List.mem_append]
  refine Or.inr (List.mem_map.mpr ⟨⟨cohortId, record⟩, ?_, rfl⟩)
  refine List.mem_filter.mpr ⟨?_, ?_⟩
  · exact List.mem_reverse.mpr (AList.mem_lookup_iff.mp found)
  · refine decide_eq_true ?_
    intro live
    obtain ⟨row, shown, same⟩ := List.mem_map.mp live
    obtain ⟨cohort, member, row?⟩ := List.mem_filterMap.mp shown
    have own := (liveRow_spec row?).1
    have here : cohortId = cohort.1 := same.symm.trans own
    refine gone (AList.mem_keys.mpr ?_)
    rw [here]
    exact List.mem_map_of_mem (List.mem_reverse.mp member)

/-- A report that files leaves a record. -/
theorem mem_ended_onFrame
    {now : Nat} {frame : AnchorFrame} {cohortId : CohortId}
    (files : (MonitorEvent.frame frame).files? = some cohortId) :
    cohortId ∈ (monitor.onFrame session now frame).ended := by
  have kept (table : InsertionMap CohortId EndedRecord) (record : EndedRecord) :
      cohortId ∈ table.remember maxEnded cohortId record :=
    mem_of_lookup (lookup_remember_self (by decide) table cohortId record)
  cases frame with
  | broadcast cohortId txid => cases files
  | failed cohortId reason =>
      cases files
      exact kept _ _
  | anchored cohortId txid confirmed =>
      cases confirmed with
      | false => cases files
      | true =>
          cases files
          exact kept _ _

end Monitor

/-- A dismissed id with no terminal record has no ended row in the operator's
list. -/
theorem listed_of_past
    {options : OperatorOptions} {run : OperatorRun} {cohortId : CohortId}
    (drafts : DraftsAll (fun _ entry => entry.dto.state = .draft) run.state)
    (past : run.Past cohortId) {row : OperatorCohortDTO}
    (listed : row ∈ listCohorts options run.state)
    (named : row.draftId = cohortId) :
    row.state ≠ .expired ∧ row.state ≠ .canceled := by
  simp only [listCohorts, List.mem_append] at listed
  rcases listed with (draft | live) | terminal
  · obtain ⟨entry, member, rfl⟩ := List.mem_map.mp draft
    have held := AList.mem_lookup_iff.mpr (List.mem_reverse.mp member)
    rw [drafts entry.1 entry.2 held]
    exact ⟨by decide, by decide⟩
  · obtain ⟨entry, -, rfl⟩ := List.mem_map.mp live
    exact ⟨CohortRowState.noConfusion, CohortRowState.noConfusion⟩
  · obtain ⟨entry, member, rfl⟩ := List.mem_map.mp terminal
    subst named
    have held := List.mem_reverse.mp member
    exact
      absurd (AList.mem_keys.mpr (List.mem_map_of_mem held)) past.unlisted

end Rows

section Permanence

/-! ## Exactly when a dismissal is permanent -/

namespace DismissalRun

variable {options : OperatorOptions} {run : DismissalRun}

/-- The monitor holds no record of a dismissed id. -/
def Unrecorded (run : DismissalRun) : Prop :=
  ∀ id ∈ run.dismissed, id ∉ run.monitor.ended

theorem Consistent.permanent_iff
    (consistent : Consistent run) :
    DismissalPermanent options run ↔ run.Unrecorded := by
  constructor
  · intro permanent id member held
    obtain ⟨row, listed, named, chip, ended⟩ :=
      Monitor.summary_of_mem_ended held
        (consistent.session_of_ended (consistent.recorded id held))
    exact permanent.summary id member row listed named chip ended
  · intro unrecorded
    refine ⟨?_, ?_⟩
    · intro id member row listed named chip ended
      have held := Monitor.mem_ended_of_summary listed ended
      rw [named] at held
      exact unrecorded id member held
    · intro id member row listed named
      exact
        listed_of_past consistent.drafts (consistent.dismissed id member) listed
          named

/-- A report in time files nothing of a dismissed cohort, and nothing else
does. -/
theorem Unrecorded.step
    (unrecorded : run.Unrecorded) (consistent : Consistent run)
    {event : DismissalEvent} (possible : run.Offered event)
    (inTime : ReportsInTime run event) :
    (run.step options event).Unrecorded := by
  intro id member held
  rcases mem_dismissed_step member with before | ⟨rfl, ok⟩
  · rcases mem_ended_step event held with old | ⟨call, told, files⟩
    · exact unrecorded id before old
    · have past := consistent.dismissed id before
      rcases consistent.files_cases options possible told files with
        ⟨live, -⟩ | ⟨frame, rfl, reports, -⟩
      · exact consistent.attributed.endedNotLive id past.ended live
      · exact inTime id reports before
  · have kept : id ∈ (run.deleteEnded options id).2.monitor.ended := held
    have gone :=
      consistent.session_of_ended (consistent.ended_of_deleteEnded ok)
    exact Monitor.notMem_ended_dismissEnded gone (mem_ended_deleteEnded kept)

/-- A late report brings the row back. -/
theorem reportsInTime_of_step
    {event : DismissalEvent}
    (unrecorded : (run.step options event).Unrecorded) :
    ReportsInTime run event := by
  cases event with
  | monitor call =>
      cases call with
      | frame frame =>
          intro id reports dismissed
          exact unrecorded id dismissed (Monitor.mem_ended_onFrame reports)
      | _ => trivial
  | _ => trivial

variable (options) (settings : RuntimeSettings) (mode : ServiceMode)

theorem always_consistent :
    (dismissalMachine options settings mode).Always Consistent := by
  refine Machine.Always.of_inductive (consistent_booted settings mode) ?_
  intro run event consistent possible
  exact consistent.step possible

/-- In a run of the service, dismissals are permanent in every state reached
exactly when no report comes after the dismissal of its cohort. -/
theorem dismissalPermanent_iff_reportsInTime
    (events : List DismissalEvent)
    (admissible : (dismissalMachine options settings mode).Admits events) :
    (∀ earlier,
        earlier <+: events →
          DismissalPermanent options
            ((dismissalMachine options settings mode).run earlier)) ↔
      ((dismissalMachine options settings mode).restrict ReportsInTime).Admits
        events := by
  have initially : DismissalPermanent options (booted settings mode) := by
    refine (consistent_booted settings mode).permanent_iff.mpr ?_
    intro id member
    cases member
  refine
    (Machine.admits_restrict_iff (always_consistent options settings mode)
      initially ?_ events admissible).symm
  intro run event consistent possible permanent
  have unrecorded := consistent.permanent_iff.mp permanent
  refine Iff.trans ?_ (consistent.step possible).permanent_iff.symm
  constructor
  · intro inTime
    exact unrecorded.step consistent possible inTime
  · exact reportsInTime_of_step

/-- A cohort is co-signed and its record dismissed; then its beacon confirms. -/
def lateReportEvents : List DismissalEvent :=
  [ .operator (.createDraft 0 (plainInput none)),
    .operator (.advertiseDraft 0 (some 1)),
    .operator (.seat 1),
    .operator (.seat 1),
    .operator (.fill 1),
    .completes 1 false,
    .operator (.microtask .sound),
    .monitor (.frame (.broadcast 1 "5e0c")),
    .dismiss 1,
    .monitor (.frame (.anchored 1 "5e0c" true)) ]

/-- Without the last report the dismissal stands. -/
theorem dismissalPermanent_iff_reportsInTime_inTime :
    (dismissalMachine plainOptions .unseeded .live).Admits
        lateReportEvents.dropLast ∧
      ∀ earlier,
        earlier <+: lateReportEvents.dropLast →
          DismissalPermanent plainOptions
            ((dismissalMachine plainOptions .unseeded .live).run earlier) := by
  have admissible :
      (dismissalMachine plainOptions .unseeded .live).Admits
        lateReportEvents.dropLast := by
    decide +kernel
  refine ⟨admissible, ?_⟩
  exact
    (dismissalPermanent_iff_reportsInTime plainOptions .unseeded .live
      lateReportEvents.dropLast admissible).mpr (by decide +kernel)

/-- The confirmation puts an `anchored` row where the dismissed one was. -/
theorem not_dismissalPermanent_lateReport :
    (dismissalMachine plainOptions .unseeded .live).Admits lateReportEvents ∧
      ¬ DismissalPermanent plainOptions
          ((dismissalMachine plainOptions .unseeded .live).run
            lateReportEvents) := by
  refine ⟨by decide +kernel, ?_⟩
  intro permanent
  have dismissed :
      1 ∈ ((dismissalMachine plainOptions .unseeded .live).run
        lateReportEvents).dismissed := by
    decide +kernel
  have listed :
      { cohortId := 1
        chip := .ended .anchored
        seatsJoined := 0
        capacity := 0
        phase := none
        reason := none
        recordedAt := some 0 : Monitor.CohortSummary } ∈
        ((dismissalMachine plainOptions .unseeded .live).run
          lateReportEvents).monitor.summary
            ((dismissalMachine plainOptions .unseeded .live).run
              lateReportEvents).session := by
    decide +kernel
  exact permanent.summary 1 dismissed _ listed rfl .anchored rfl

end DismissalRun

end Permanence

end Btcr2Aggregation
