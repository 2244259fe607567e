import Btcr2Aggregation.Service.DismissedCancels

/-!
# A run and the same run without its dismissals

A twin run is a run of the operator surface beside the same run without its
dismissals.  Between two events each half runs the settlement microtasks it has.

The halves drift apart where one of them alone is granted a re-advertise: it gets
a cohort the other never has.  But what an event does to a cohort, no other cohort
has a part in; so the cohorts that both halves have fare the same in both.
-/

namespace Btcr2Aggregation

open InsertionMap

section System

/-! ## A run and the same run without its dismissals -/

namespace OperatorEvent

/-- The event is a request, a timer or what the library does. -/
def asked (event : OperatorEvent) : Bool :=
  !event.isMicrotask

end OperatorEvent

namespace OperatorRun

/-- Settlement microtasks, one after another. -/
def drain
    (options : OperatorOptions) (health : LibraryHealth) :
    Nat → OperatorRun → OperatorRun
  | 0, run => run
  | due + 1, run =>
      drain options health due (run.step options (.microtask health))

/-- A run takes an event, or the microtasks that are due. -/
def takes (options : OperatorOptions) (run : OperatorRun) :
    OperatorEvent → OperatorRun
  | .microtask health =>
      drain options health run.state.runner.pending.length run
  | event => run.step options event

theorem takes_of_asked
    {options : OperatorOptions} {run : OperatorRun} {event : OperatorEvent}
    (asked : event.isMicrotask = false) :
    run.takes options event = run.step options event := by
  cases event with
  | microtask health => cases asked
  | _ => rfl

end OperatorRun

/-- A run beside the same run without its dismissals. -/
structure TwinRun where
  dismissing : OperatorRun
  undismissed : OperatorRun

namespace TwinRun

def booted (settings : RuntimeSettings) : TwinRun where
  dismissing := .booted settings
  undismissed := .booted settings

/-- Both halves take the event, but the undismissed one no dismissal. -/
def step (options : OperatorOptions) (twin : TwinRun) (event : OperatorEvent) :
    TwinRun where
  dismissing := twin.dismissing.takes options event
  undismissed :=
    if event.forgets then
      twin.undismissed
    else
      twin.undismissed.takes options event

/-- A settlement is waiting in one of the halves. -/
def waits (twin : TwinRun) : Bool :=
  !twin.dismissing.state.runner.pending.isEmpty ||
    !twin.undismissed.state.runner.pending.isEmpty

/-- The event is possible in each half that takes it, and microtasks come before
anything else. -/
def Offered (twin : TwinRun) (event : OperatorEvent) : Prop :=
  offered twin.dismissing event ∧
    (event.forgets = false → offered twin.undismissed event) ∧
      event.isMicrotask = twin.waits ∧
        event.health.stops = true ∧ event.health.phaseReads = true

instance (twin : TwinRun) (event : OperatorEvent) :
    Decidable (twin.Offered event) :=
  inferInstanceAs (Decidable (_ ∧ (_ → _) ∧ _ ∧ _ ∧ _))

/-- Nothing waits in either half when an event is asked. -/
theorem idle_of_asked
    {twin : TwinRun} {event : OperatorEvent}
    (turn : event.isMicrotask = twin.waits)
    (asked : event.isMicrotask = false) :
    twin.dismissing.state.runner.pending = [] ∧
      twin.undismissed.state.runner.pending = [] := by
  rw [turn] at asked
  simpa [waits] using asked

end TwinRun

def twinMachine (options : OperatorOptions) (settings : RuntimeSettings) :
    Machine TwinRun OperatorEvent where
  init := .booted settings
  step := TwinRun.step options
  admits := TwinRun.Offered

instance TwinRun.decidableAdmits
    (options : OperatorOptions) (settings : RuntimeSettings) (twin : TwinRun)
    (event : OperatorEvent) :
    Decidable ((twinMachine options settings).admits twin event) :=
  inferInstanceAs (Decidable (twin.Offered event))

end System

section Halves

/-! ## Each half is a prompt run -/

variable {options : OperatorOptions} {settings : RuntimeSettings}

theorem length_pending_microtask
    {run : OperatorRun} {health : LibraryHealth} :
    (run.step options (.microtask health)).state.runner.pending.length =
      run.state.runner.pending.length - 1 := by
  simp only [OperatorRun.step]
  split
  · next idle => simp [idle]
  · next settlement rest waiting => simp [waiting]

/-- A prompt run goes on with the microtasks that are due. -/
theorem exists_run_drain
    {health : LibraryHealth}
    (sound : health.stops = true ∧ health.phaseReads = true) (due : Nat) :
    ∀ events,
      (promptMachine options settings).Admits events →
        ((promptMachine options settings).run
            events).state.runner.pending.length = due →
          ∃ more,
            (promptMachine options settings).Admits (events ++ more) ∧
              (promptMachine options settings).run (events ++ more) =
                OperatorRun.drain options health due
                  ((promptMachine options settings).run events) ∧
              more.filter OperatorEvent.asked = [] := by
  induction due with
  | zero =>
      intro events admissible _
      exact ⟨[], by simpa using admissible, by simp [OperatorRun.drain], rfl⟩
  | succ due inductionHypothesis =>
      intro events admissible waiting
      have next := Machine.run_concat (promptMachine options settings) events
        (.microtask health)
      have admissibleNext :
          (promptMachine options settings).Admits
            (events ++ [.microtask health]) := by
        refine (Machine.admits_concat_iff _ events _).mpr ⟨admissible, ?_, ?_⟩
        · exact ⟨nofun, nofun, nofun⟩
        · refine ⟨?_, sound⟩
          cases pending :
              ((promptMachine options settings).run
                events).state.runner.pending with
          | nil =>
              rw [pending] at waiting
              cases waiting
          | cons settlement rest => rfl
      have shorter :
          (((promptMachine options settings).run events).step options
              (.microtask health)).state.runner.pending.length =
            due := by
        rw [length_pending_microtask, waiting]
        rfl
      obtain ⟨more, admitsMore, runsMore, askedMore⟩ :=
        inductionHypothesis (events ++ [.microtask health]) admissibleNext
          (by rw [next]; exact shorter)
      refine ⟨.microtask health :: more, ?_, ?_, ?_⟩
      · rw [List.append_cons]
        exact admitsMore
      · rw [List.append_cons, runsMore, next]
        rfl
      · rw [List.filter_cons_of_neg Bool.false_ne_true]
        exact askedMore

/-- A prompt run goes on with an event of its turn. -/
theorem exists_run_takes
    {events : List OperatorEvent}
    (admissible : (promptMachine options settings).Admits events)
    {event : OperatorEvent}
    (possible : offered ((promptMachine options settings).run events) event)
    (sound : event.health.stops = true ∧ event.health.phaseReads = true)
    (turn :
      event.isMicrotask = false →
        ((promptMachine options settings).run
          events).state.runner.pending = []) :
    ∃ more,
      (promptMachine options settings).Admits (events ++ more) ∧
        (promptMachine options settings).run (events ++ more) =
          ((promptMachine options settings).run events).takes options event ∧
        more.filter OperatorEvent.asked =
          [event].filter OperatorEvent.asked := by
  by_cases asked : event.isMicrotask = false
  · refine ⟨[event], ?_, ?_, rfl⟩
    · refine
        (Machine.admits_concat_iff _ events event).mpr
          ⟨admissible, possible, ?_, sound⟩
      rw [asked, turn asked]
      rfl
    · rw [Machine.run_concat, OperatorRun.takes_of_asked asked]
      rfl
  · cases event with
    | microtask health => exact exists_run_drain sound _ events admissible rfl
    | _ => exact absurd rfl asked

/-- The halves of a twin run are prompt runs: they were asked the same, but for
the dismissals. -/
theorem exists_halves
    (events : List OperatorEvent)
    (admissible : (twinMachine options settings).Admits events) :
    ∃ taken untaken,
      (promptMachine options settings).Admits taken ∧
        (promptMachine options settings).Admits untaken ∧
        (promptMachine options settings).run taken =
          ((twinMachine options settings).run events).dismissing ∧
        (promptMachine options settings).run untaken =
          ((twinMachine options settings).run events).undismissed ∧
        taken.filter OperatorEvent.asked =
          events.filter OperatorEvent.asked ∧
        untaken.filter OperatorEvent.asked =
          (events.filter OperatorEvent.asked).filter (!·.forgets) := by
  induction events using List.reverseRecOn with
  | nil => exact ⟨[], [], trivial, trivial, rfl, rfl, rfl, rfl⟩
  | append_singleton events event inductionHypothesis =>
      obtain ⟨before, possible, elsewhere, turn, health⟩ :=
        (Machine.admits_concat_iff _ events event).mp admissible
      obtain
        ⟨taken, untaken, admitsTaken, admitsUntaken, runsTaken, runsUntaken,
          askedTaken, askedUntaken⟩ := inductionHypothesis before
      rw [Machine.run_concat]
      generalize (twinMachine options settings).run events = twin at *
      have idle := TwinRun.idle_of_asked turn
      rw [← runsTaken] at possible
      obtain ⟨more, admitsMore, runsMore, askedMore⟩ :=
        exists_run_takes admitsTaken possible health
          (by rw [runsTaken]; exact fun request => (idle request).1)
      have takenAfter :
          (taken ++ more).filter OperatorEvent.asked =
            (events ++ [event]).filter OperatorEvent.asked := by
        rw [List.filter_append, List.filter_append, askedTaken, askedMore]
      rw [runsTaken] at runsMore
      by_cases forgets : event.forgets = true
      · refine
          ⟨taken ++ more, untaken, admitsMore, admitsUntaken, runsMore, ?_,
            takenAfter, ?_⟩
        · rw [runsUntaken]
          exact (if_pos forgets).symm
        · rw [List.filter_append, List.filter_append, askedUntaken]
          simp [List.filter_filter, forgets]
      · have remains : event.forgets = false := by simpa using forgets
        have possibleUntaken := elsewhere remains
        rw [← runsUntaken] at possibleUntaken
        obtain ⟨rest, admitsRest, runsRest, askedRest⟩ :=
          exists_run_takes admitsUntaken possibleUntaken health
            (by rw [runsUntaken]; exact fun request => (idle request).2)
        rw [runsUntaken] at runsRest
        refine
          ⟨taken ++ more, untaken ++ rest, admitsMore, admitsRest, runsMore, ?_,
            takenAfter, ?_⟩
        · rw [runsRest]
          exact (if_neg forgets).symm
        · have kept :
              ([event].filter OperatorEvent.asked).filter (!·.forgets) =
                [event].filter OperatorEvent.asked := by
            refine List.filter_eq_self.mpr ?_
            intro other member
            have same := List.mem_singleton.mp (List.mem_of_mem_filter member)
            rw [same, remains]
            rfl
          rw [List.filter_append, List.filter_append, List.filter_append,
            askedUntaken, askedRest, kept]

end Halves

section Desk

/-! ## The settings and the drafts -/

namespace OperatorEvent

/-- The events that write the settings or the drafts. -/
def deskWork : OperatorEvent → Bool
  | .createDraft _ _ => true
  | .updateDraft _ _ => true
  | .advertiseDraft _ _ => true
  | .discardDraft _ => true
  | .applySettings _ => true
  | .pause => true
  | .resume => true
  | _ => false

end OperatorEvent

theorem OperatorRun.desk_step
    (options : OperatorOptions) (run : OperatorRun) {event : OperatorEvent}
    (elsewhere : event.deskWork = false) :
    (run.step options event).state.settings = run.state.settings ∧
      (run.step options event).state.drafts = run.state.drafts := by
  cases event with
  | createDraft draftId input => cases elsewhere
  | updateDraft draftId input => cases elsewhere
  | advertiseDraft draftId minted => cases elsewhere
  | discardDraft draftId => cases elsewhere
  | applySettings patch => cases elsewhere
  | pause => cases elsewhere
  | resume => cases elsewhere
  | cancelCohort cohortId health =>
      obtain ⟨_, _, _, _, _, equality⟩ :=
        cancelCohort_eq health run.state cohortId
      simp only [step, equality, and_self]
  | readvertiseExpired expired minted =>
      rcases step_readvertiseExpired_cases options run expired minted with
        equality | ⟨record, cohortId, -, -, -, equality⟩
      · rw [equality]
        exact ⟨rfl, rfl⟩
      · obtain ⟨_, -, launched⟩ :=
          launch_eq options
            { run.state with terminal := run.state.terminal.erase expired }
            cohortId record.config record.windows
        rw [equality, launched]
        exact ⟨rfl, rfl⟩
  | forgetTerminal cohortId health =>
      rcases step_forgetTerminal_cases options run cohortId health with
        equality | ⟨record, -, equality⟩
      · rw [equality]
        exact ⟨rfl, rfl⟩
      · rw [equality]
        exact ⟨rfl, rfl⟩
  | windowTimer cohortId health =>
      obtain ⟨_, _, _, equality⟩ := windowTimerFires_eq health run.state cohortId
      simp only [step, equality, and_self]
  | microtask health =>
      simp only [step]
      split
      · exact ⟨rfl, rfl⟩
      · next settlement rest waiting =>
          obtain ⟨_, _, _, _, _, equality⟩ :=
            OperatorState.settleCompletion_eq health run.popped settlement
          simp only [settled, equality]
          exact ⟨rfl, rfl⟩
  | seat cohortId => exact ⟨rfl, rfl⟩
  | fill cohortId => exact ⟨rfl, rfl⟩
  | advance cohortId phase => exact ⟨rfl, rfl⟩
  | completion cohortId => exact ⟨rfl, rfl⟩
  | failure cohortId message => exact ⟨rfl, rfl⟩
  | stopService message => exact ⟨rfl, rfl⟩

/-- A draft leaves the drafts where its advertise request is granted. -/
theorem OperatorRun.desk_advertiseDraft
    (options : OperatorOptions) (run : OperatorRun) (draftId : CohortId)
    (minted : Option CohortId) :
    (run.step options (.advertiseDraft draftId minted)).state.settings =
        run.state.settings ∧
      (run.step options (.advertiseDraft draftId minted)).state.drafts =
        if
            !run.state.settings.paused &&
              (run.state.drafts.lookup draftId).isSome &&
                minted.isSome then
          run.state.drafts.erase draftId
        else
          run.state.drafts := by
  simp only [step, advertiseDraft]
  cases run.state.settings.paused with
  | true => exact ⟨rfl, rfl⟩
  | false =>
      cases run.state.drafts.lookup draftId with
      | none => exact ⟨rfl, rfl⟩
      | some entry =>
          cases minted with
          | none => exact ⟨rfl, rfl⟩
          | some cohortId =>
              obtain ⟨_, -, launched⟩ :=
                launch_eq options
                  { run.state with drafts := run.state.drafts.erase draftId }
                  cohortId entry.config entry.windows
              simp only [launched]
              exact ⟨rfl, rfl⟩

/-- What the settings and the drafts become is read off them alone. -/
theorem OperatorRun.desk_congr
    {left right : OperatorRun}
    (settings : left.state.settings = right.state.settings)
    (drafts : left.state.drafts = right.state.drafts)
    (options : OperatorOptions) (event : OperatorEvent) :
    (left.step options event).state.settings =
        (right.step options event).state.settings ∧
      (left.step options event).state.drafts =
        (right.step options event).state.drafts := by
  by_cases elsewhere : event.deskWork = false
  · obtain ⟨settingsLeft, draftsLeft⟩ :=
      OperatorRun.desk_step options left elsewhere
    obtain ⟨settingsRight, draftsRight⟩ :=
      OperatorRun.desk_step options right elsewhere
    exact
      ⟨settingsLeft.trans (settings.trans settingsRight.symm),
        draftsLeft.trans (drafts.trans draftsRight.symm)⟩
  cases event with
  | createDraft draftId input =>
      simp only [step, createDraft, settings]
      cases
        judgeDraft options right.state.settings draftId
          (withServiceDefaults right.state.settings input) with
      | error message => exact ⟨settings, drafts⟩
      | ok entry =>
          exact ⟨rfl, congrArg (InsertionMap.set · draftId entry) drafts⟩
  | updateDraft draftId input =>
      simp only [step, updateDraft, settings, drafts]
      split
      · cases judgeDraft options right.state.settings draftId input with
        | error message => exact ⟨settings, drafts⟩
        | ok entry => exact ⟨rfl, rfl⟩
      · exact ⟨settings, drafts⟩
  | advertiseDraft draftId minted =>
      obtain ⟨settingsLeft, draftsLeft⟩ :=
        desk_advertiseDraft options left draftId minted
      obtain ⟨settingsRight, draftsRight⟩ :=
        desk_advertiseDraft options right draftId minted
      rw [settingsLeft, draftsLeft, settingsRight, draftsRight, settings, drafts]
      exact ⟨rfl, rfl⟩
  | discardDraft draftId =>
      exact ⟨settings, congrArg (AList.erase draftId) drafts⟩
  | applySettings patch =>
      simp only [step, settings]
      split
      · exact ⟨rfl, drafts⟩
      · exact ⟨settings, drafts⟩
  | pause => exact ⟨congrArg RuntimeSettings.pause settings, drafts⟩
  | resume => exact ⟨congrArg RuntimeSettings.resume settings, drafts⟩
  | _ => exact absurd rfl elsewhere

end Desk

section Locality

/-! ## What one event does to one cohort -/

namespace OperatorEvent

/-- The event ends the cohort, where the runner holds it. -/
def ends (event : OperatorEvent) (id : CohortId) : Bool :=
  match event with
  | .cancelCohort cohortId _ => cohortId = id
  | .windowTimer cohortId _ => cohortId = id
  | .completion cohortId => cohortId = id
  | .failure cohortId _ => cohortId = id
  | .stopService _ => true
  | _ => false

/-- The event cancels the cohort, where the runner holds it. -/
def cancels (event : OperatorEvent) (id : CohortId) : Bool :=
  match event with
  | .cancelCohort cohortId _ => cohortId = id
  | _ => false

/-- An id that the event mints is that of a live cohort. -/
def launches : OperatorEvent → Bool
  | .advertiseDraft _ _ => true
  | .readvertiseExpired _ _ => true
  | _ => false

/-- The event re-advertises the record of the cohort, where there is one. -/
def reissues (event : OperatorEvent) (paused : Bool) (id : CohortId) : Bool :=
  match event with
  | .readvertiseExpired expired minted =>
      !paused && minted.isSome && decide (expired = id)
  | _ => false

end OperatorEvent

/-- One event, cohort by cohort: no other cohort has a part in it. -/
structure Local (event : OperatorEvent) (run after : OperatorRun) : Prop where
  known : ∀ id ∈ run.created, id ∈ after.created
  minted : ∀ id ∈ after.created, id ∈ run.created ∨ id ∈ event.minted?
  live :
    ∀ id,
      id ∈ after.state.runner.cohorts ↔
        id ∈ run.state.runner.cohorts ∧ event.ends id = false ∨
          event.launches = true ∧ id ∈ after.created ∧ id ∉ run.created
  pending :
    ∀ id,
      id ∈ after.state.runner.pendingIds ↔
        id ∈ run.state.runner.pendingIds ∨
          id ∈ run.state.runner.cohorts ∧ event.ends id = true
  canceled :
    ∀ id,
      id ∈ after.canceledOk ↔
        id ∈ run.canceledOk ∨
          id ∈ run.state.runner.cohorts ∧ event.cancels id = true

namespace Local

variable {event : OperatorEvent} {run after : OperatorRun}

/-- An event that ends no cohort and mints no id. -/
theorem quiet
    (ends : ∀ id ∈ run.state.runner.cohorts, event.ends id = false)
    (cancels : ∀ id ∈ run.state.runner.cohorts, event.cancels id = false)
    (created : after.created = run.created)
    (cohorts :
      ∀ id,
        id ∈ after.state.runner.cohorts ↔ id ∈ run.state.runner.cohorts)
    (pending : after.state.runner.pending = run.state.runner.pending)
    (canceledOk : after.canceledOk = run.canceledOk) :
    Local event run after where
  known id member := by
    rw [created]
    exact member
  minted id member := by
    rw [created] at member
    exact Or.inl member
  live id := by
    rw [cohorts, created]
    constructor
    · intro held
      exact Or.inl ⟨held, ends id held⟩
    · rintro (⟨held, -⟩ | ⟨-, member, absent⟩)
      · exact held
      · exact absurd member absent
  pending id := by
    rw [Runner.pendingIds, pending]
    constructor
    · exact Or.inl
    · rintro (waiting | ⟨held, ended⟩)
      · exact waiting
      · rw [ends id held] at ended
        cases ended
  canceled id := by
    rw [canceledOk]
    constructor
    · exact Or.inl
    · rintro (before | ⟨held, canceled⟩)
      · exact before
      · rw [cancels id held] at canceled
        cases canceled

/-- An event that is about no cohort of the runner. -/
theorem elsewhere
    (unending : ∀ id, event.ends id = false ∧ event.cancels id = false)
    (runner : after.state.runner = run.state.runner)
    (created : after.created = run.created)
    (canceledOk : after.canceledOk = run.canceledOk) :
    Local event run after := by
  refine
    .quiet (fun id _ => (unending id).1) (fun id _ => (unending id).2) created
      ?_ ?_ canceledOk
  · intro id
    rw [runner]
  · rw [runner]

/-- An event that mints one id, of a live cohort where it launches. -/
theorem mints
    {cohortId : CohortId} (minted : cohortId ∈ event.minted?)
    (fresh : cohortId ∉ run.created)
    (ends : ∀ id, event.ends id = false)
    (cancels : ∀ id, event.cancels id = false)
    (created : after.created = cohortId :: run.created)
    (cohorts :
      ∀ id,
        id ∈ after.state.runner.cohorts ↔
          id ∈ run.state.runner.cohorts ∨
            event.launches = true ∧ id = cohortId)
    (pending : after.state.runner.pending = run.state.runner.pending)
    (canceledOk : after.canceledOk = run.canceledOk) :
    Local event run after where
  known id member := by
    rw [created]
    exact List.mem_cons_of_mem cohortId member
  minted id member := by
    rw [created, List.mem_cons] at member
    rcases member with rfl | before
    · exact Or.inr minted
    · exact Or.inl before
  live id := by
    have new : id ∈ after.created ∧ id ∉ run.created ↔ id = cohortId := by
      rw [created, List.mem_cons]
      constructor
      · rintro ⟨same | before, absent⟩
        · exact same
        · exact absurd before absent
      · rintro rfl
        exact ⟨Or.inl rfl, fresh⟩
    rw [cohorts, ends, new]
    simp
  pending id := by
    rw [Runner.pendingIds, pending, ends]
    simp [Runner.pendingIds]
  canceled id := by
    rw [canceledOk, cancels]
    simp

/-- An event that ends a cohort the runner holds. -/
theorem settles
    {cohortId : CohortId} (outcome : Except String Unit)
    (ends : ∀ id, event.ends id = decide (cohortId = id))
    (created : after.created = run.created)
    (cohorts :
      after.state.runner.cohorts =
        (run.state.runner.settle cohortId outcome).cohorts)
    (pending :
      after.state.runner.pending =
        (run.state.runner.settle cohortId outcome).pending)
    (canceled :
      ∀ id,
        id ∈ after.canceledOk ↔
          id ∈ run.canceledOk ∨
            id ∈ run.state.runner.cohorts ∧ event.cancels id = true) :
    Local event run after where
  known id member := by
    rw [created]
    exact member
  minted id member := by
    rw [created] at member
    exact Or.inl member
  live id := by
    rw [cohorts, Runner.mem_cohorts_settle, created, ends]
    constructor
    · rintro ⟨different, held⟩
      exact Or.inl ⟨held, decide_eq_false (Ne.symm different)⟩
    · rintro (⟨held, different⟩ | ⟨-, member, absent⟩)
      · exact ⟨Ne.symm (of_decide_eq_false different), held⟩
      · exact absurd member absent
  pending id := by
    have queued :
        id ∈ after.state.runner.pendingIds ↔
          id ∈ (run.state.runner.settle cohortId outcome).pendingIds := by
      rw [Runner.pendingIds, pending, Runner.pendingIds]
    rw [queued, Runner.mem_pendingIds_settle, ends, decide_eq_true_eq]
    refine or_congr_right ?_
    rw [and_comm, eq_comm]
  canceled := canceled

end Local

/-- A request, a timer or what the library does, of a run with nothing
pending. -/
theorem local_step
    {options : OperatorOptions} {run : OperatorRun}
    (attributed : Attributed run) (idle : run.state.runner.pending = [])
    {event : OperatorEvent} (possible : offered run event)
    (asked : event.isMicrotask = false)
    (sound : event.health.stops = true ∧ event.health.phaseReads = true) :
    Local event run (run.step options event) := by
  obtain ⟨fresh, -, -⟩ := possible
  cases event with
  | createDraft draftId input =>
      simp only [OperatorRun.step, createDraft]
      cases
        judgeDraft options run.state.settings draftId
          (withServiceDefaults run.state.settings input) with
      | error message =>
          exact .elsewhere (fun _ => ⟨rfl, rfl⟩) rfl rfl rfl
      | ok entry =>
          refine
            .mints rfl (fresh draftId rfl) (fun _ => rfl) (fun _ => rfl) rfl ?_
              rfl rfl
          intro id
          simp [OperatorEvent.launches]
  | updateDraft draftId input =>
      simp only [OperatorRun.step, updateDraft]
      split
      · split <;> exact .elsewhere (fun _ => ⟨rfl, rfl⟩) rfl rfl rfl
      · exact .elsewhere (fun _ => ⟨rfl, rfl⟩) rfl rfl rfl
  | advertiseDraft draftId minted =>
      rcases OperatorRun.step_advertiseDraft_cases options run draftId minted with
        equality | ⟨entry, cohortId, -, -, rfl, equality⟩
      · rw [equality]
        exact .elsewhere (fun _ => ⟨rfl, rfl⟩) rfl rfl rfl
      · obtain ⟨_, -, launched⟩ :=
          launch_eq options
            { run.state with drafts := run.state.drafts.erase draftId } cohortId
            entry.config entry.windows
        rw [equality, launched]
        refine
          .mints rfl (fresh cohortId rfl) (fun _ => rfl) (fun _ => rfl) rfl ?_
            rfl rfl
        intro id
        simp [OperatorEvent.launches, Runner.mem_cohorts_advertiseCohort,
          or_comm]
  | readvertiseExpired expired minted =>
      rcases
        OperatorRun.step_readvertiseExpired_cases options run expired minted with
        equality | ⟨record, cohortId, -, -, rfl, equality⟩
      · rw [equality]
        exact .elsewhere (fun _ => ⟨rfl, rfl⟩) rfl rfl rfl
      · obtain ⟨_, -, launched⟩ :=
          launch_eq options
            { run.state with terminal := run.state.terminal.erase expired }
            cohortId record.config record.windows
        rw [equality, launched]
        refine
          .mints rfl (fresh cohortId rfl) (fun _ => rfl) (fun _ => rfl) rfl ?_
            rfl rfl
        intro id
        simp [OperatorEvent.launches, Runner.mem_cohorts_advertiseCohort,
          or_comm]
  | discardDraft draftId =>
      exact .elsewhere (fun _ => ⟨rfl, rfl⟩) rfl rfl rfl
  | cancelCohort cohortId health =>
      have stops : health.stops = true := sound.1
      have reads : health.phaseReads = true := sound.2
      by_cases advertised : cohortId ∈ run.state.advertised
      · have live := attributed.live_of_advertised idle advertised
        refine
          .settles (.error (Runner.stoppedReason cohortId)) (fun _ => rfl)
            rfl ?_ ?_ ?_
        · simp only [OperatorRun.step, cancelCohort, if_pos advertised,
            if_pos stops, OperatorState.cohorts_repairAdvertSlot]
          rfl
        · simp only [OperatorRun.step, cancelCohort, if_pos advertised,
            if_pos stops, OperatorState.pending_repairAdvertSlot]
          rfl
        · intro id
          have canceled :
              (run.step options (.cancelCohort cohortId health)).canceledOk =
                cohortId :: run.canceledOk := by
            simp [OperatorRun.step, cancelCohort, advertised, stops, reads,
              OperatorState.repairThrows]
          rw [canceled, List.mem_cons, or_comm]
          refine or_congr_right ?_
          simp only [OperatorEvent.cancels, decide_eq_true_eq]
          constructor
          · rintro rfl
            exact ⟨live, rfl⟩
          · rintro ⟨-, same⟩
            exact same.symm
      · have refused :
            run.step options (.cancelCohort cohortId health) = run := by
          simp [OperatorRun.step, cancelCohort, advertised]
        have absent : ∀ id ∈ run.state.runner.cohorts, cohortId ≠ id := by
          rintro id live rfl
          exact advertised ((attributed.advertised cohortId).mpr (Or.inl live))
        rw [refused]
        refine .quiet ?_ ?_ rfl (fun _ => Iff.rfl) rfl rfl
        · intro id live
          exact decide_eq_false (absent id live)
        · intro id live
          exact decide_eq_false (absent id live)
  | forgetTerminal cohortId health =>
      rcases
        OperatorRun.step_forgetTerminal_cases options run cohortId health with
        equality | ⟨record, -, equality⟩
      · rw [equality]
        exact .elsewhere (fun _ => ⟨rfl, rfl⟩) rfl rfl rfl
      · rw [equality]
        exact .elsewhere (fun _ => ⟨rfl, rfl⟩) rfl rfl rfl
  | applySettings patch =>
      simp only [OperatorRun.step]
      split <;> exact .elsewhere (fun _ => ⟨rfl, rfl⟩) rfl rfl rfl
  | pause =>
      exact .elsewhere (fun _ => ⟨rfl, rfl⟩) rfl rfl rfl
  | resume =>
      exact .elsewhere (fun _ => ⟨rfl, rfl⟩) rfl rfl rfl
  | windowTimer cohortId health =>
      have stops : health.stops = true := sound.1
      refine
        .settles (.error (Runner.stoppedReason cohortId)) (fun _ => rfl)
          rfl ?_ ?_ ?_
      · simp only [OperatorRun.step, windowTimerFires, if_pos stops]
        rfl
      · simp only [OperatorRun.step, windowTimerFires, if_pos stops]
        rfl
      · intro id
        simp [OperatorRun.step, OperatorEvent.cancels]
  | seat cohortId =>
      exact
        .quiet (fun _ _ => rfl) (fun _ _ => rfl) rfl (fun _ => mem_modify) rfl rfl
  | fill cohortId =>
      exact
        .quiet (fun _ _ => rfl) (fun _ _ => rfl) rfl (fun _ => mem_modify) rfl rfl
  | advance cohortId phase =>
      exact
        .quiet (fun _ _ => rfl) (fun _ _ => rfl) rfl (fun _ => mem_modify) rfl rfl
  | completion cohortId =>
      refine
        .settles (.ok ()) (fun _ => rfl) rfl rfl rfl ?_
      intro id
      simp [OperatorRun.step, OperatorEvent.cancels]
  | failure cohortId message =>
      refine
        .settles (.error message) (fun _ => rfl) rfl rfl rfl
          ?_
      intro id
      simp [OperatorRun.step, OperatorEvent.cancels]
  | stopService message =>
      refine ⟨fun _ member => member, fun _ member => Or.inl member, ?_, ?_, ?_⟩
      · intro id
        have gone :
            id ∉ (run.step options
              (.stopService message)).state.runner.cohorts :=
          Runner.notMem_cohorts_stop _ message id
        simp [gone, OperatorEvent.ends, OperatorEvent.launches]
      · intro id
        refine Runner.mem_pendingIds_stop.trans ?_
        simp [OperatorEvent.ends]
      · intro id
        simp [OperatorRun.step, OperatorEvent.cancels]
  | microtask health => cases asked

/-- Of the records such an event takes out the re-advertised one only. -/
theorem mem_terminal_asked
    {options : OperatorOptions} {run : OperatorRun} {event : OperatorEvent}
    (asked : event.isMicrotask = false) (keeps : event.forgets = false)
    {id : CohortId} :
    id ∈ (run.step options event).state.terminal ↔
      id ∈ run.state.terminal ∧
        event.reissues run.state.settings.paused id = false := by
  by_cases silent : event.writesRecords = false
  · rw [(OperatorRun.records_step silent).1]
    cases event with
    | readvertiseExpired expired minted => cases silent
    | _ => exact (and_iff_left rfl).symm
  cases event with
  | forgetTerminal cohortId health => cases keeps
  | microtask health => cases asked
  | readvertiseExpired expired minted =>
      cases paused : run.state.settings.paused with
      | true =>
          rw [OperatorRun.step_readvertiseExpired_refused (Or.inl paused)]
          exact (and_iff_left rfl).symm
      | false =>
          cases minted with
          | none =>
              rw [OperatorRun.step_readvertiseExpired_refused
                (Or.inr (Or.inl rfl))]
              exact (and_iff_left rfl).symm
          | some cohortId =>
              cases found : run.state.terminal.lookup expired with
              | none =>
                  rw [OperatorRun.step_readvertiseExpired_refused
                    (Or.inr (Or.inr found))]
                  constructor
                  · intro held
                    refine ⟨held, decide_eq_false ?_⟩
                    rintro rfl
                    exact AList.lookup_eq_none.mp found held
                  · exact And.left
              | some record =>
                  obtain ⟨_, -, launched⟩ :=
                    launch_eq options
                      { run.state with
                        terminal := run.state.terminal.erase expired }
                      cohortId record.config record.windows
                  rw [OperatorRun.step_readvertiseExpired_granted options
                    cohortId paused found, launched]
                  refine AList.mem_erase.trans (and_comm.trans ?_)
                  refine and_congr_right fun _ => ?_
                  simp [OperatorEvent.reissues, eq_comm]
  | _ => exact absurd rfl silent

end Locality


section Matching

/-! ## The halves match -/

/-- An id that no cohort and no draft ever had. -/
theorem Attributed.unknown
    {run : OperatorRun} (attributed : Attributed run) {id : CohortId}
    (unknown : id ∉ run.created) :
    id ∉ run.state.runner.cohorts ∧
      id ∉ run.state.runner.pendingIds ∧ id ∉ run.canceledOk := by
  refine ⟨fun live => unknown (attributed.liveCreated id live), ?_, ?_⟩
  · intro waiting
    obtain ⟨settlement, member, rfl⟩ := List.mem_map.mp waiting
    obtain ⟨ending, ended, -⟩ := attributed.pendingEnded settlement member
    exact
      unknown (attributed.endedCreated _ (List.mem_map_of_mem ended))
  · intro canceled
    have ended := (attributed.canceledOk id).mp canceled
    exact unknown (attributed.endedCreated id (List.mem_map_of_mem ended))

/-- What the halves share: the settings, the drafts, and what has become of the
cohorts that both have. -/
structure Matching (left right : OperatorRun) : Prop where
  settings : left.state.settings = right.state.settings
  drafts : left.state.drafts = right.state.drafts
  live :
    ∀ id ∈ left.created,
      id ∈ right.created →
        (id ∈ left.state.runner.cohorts ↔ id ∈ right.state.runner.cohorts)
  pending :
    ∀ id ∈ left.created,
      id ∈ right.created →
        (id ∈ left.state.runner.pendingIds ↔
          id ∈ right.state.runner.pendingIds)
  canceled :
    ∀ id ∈ left.created,
      id ∈ right.created → (id ∈ left.canceledOk ↔ id ∈ right.canceledOk)

namespace Matching

variable {left right leftAfter rightAfter : OperatorRun}

theorem refl (run : OperatorRun) : Matching run run where
  settings := rfl
  drafts := rfl
  live := fun _ _ _ => Iff.rfl
  pending := fun _ _ _ => Iff.rfl
  canceled := fun _ _ _ => Iff.rfl

/-- An id both halves have after an event is an old one of both, or is new to
both. -/
theorem old_or_new
    {event : OperatorEvent} (freshLeft : ∀ id ∈ event.minted?, id ∉ left.created)
    (freshRight : ∀ id ∈ event.minted?, id ∉ right.created)
    (localLeft : Local event left leftAfter)
    (localRight : Local event right rightAfter) {id : CohortId}
    (memberLeft : id ∈ leftAfter.created)
    (memberRight : id ∈ rightAfter.created) :
    id ∈ left.created ∧ id ∈ right.created ∨
      id ∉ left.created ∧ id ∉ right.created := by
  rcases localLeft.minted id memberLeft with oldLeft | minted
  · rcases localRight.minted id memberRight with oldRight | minted
    · exact Or.inl ⟨oldLeft, oldRight⟩
    · exact absurd oldLeft (freshLeft id minted)
  · exact Or.inr ⟨freshLeft id minted, freshRight id minted⟩

/-- Both halves are asked the same. -/
theorem asked
    (matching : Matching left right) (attributedLeft : Attributed left)
    (attributedRight : Attributed right) {event : OperatorEvent}
    (freshLeft : ∀ id ∈ event.minted?, id ∉ left.created)
    (freshRight : ∀ id ∈ event.minted?, id ∉ right.created)
    (localLeft : Local event left leftAfter)
    (localRight : Local event right rightAfter)
    (settings : leftAfter.state.settings = rightAfter.state.settings)
    (drafts : leftAfter.state.drafts = rightAfter.state.drafts) :
    Matching leftAfter rightAfter where
  settings := settings
  drafts := drafts
  live id memberLeft memberRight := by
    rw [localLeft.live, localRight.live]
    rcases
      old_or_new freshLeft freshRight localLeft localRight memberLeft
        memberRight with
      ⟨oldLeft, oldRight⟩ | ⟨newLeft, newRight⟩
    · rw [matching.live id oldLeft oldRight]
      simp [oldLeft, oldRight]
    · simp [attributedLeft.unknown newLeft, attributedRight.unknown newRight,
        newLeft, newRight, memberLeft, memberRight]
  pending id memberLeft memberRight := by
    rw [localLeft.pending, localRight.pending]
    rcases
      old_or_new freshLeft freshRight localLeft localRight memberLeft
        memberRight with
      ⟨oldLeft, oldRight⟩ | ⟨newLeft, newRight⟩
    · rw [matching.live id oldLeft oldRight,
        matching.pending id oldLeft oldRight]
    · simp [attributedLeft.unknown newLeft, attributedRight.unknown newRight]
  canceled id memberLeft memberRight := by
    rw [localLeft.canceled, localRight.canceled]
    rcases
      old_or_new freshLeft freshRight localLeft localRight memberLeft
        memberRight with
      ⟨oldLeft, oldRight⟩ | ⟨newLeft, newRight⟩
    · rw [matching.live id oldLeft oldRight,
        matching.canceled id oldLeft oldRight]
    · simp [attributedLeft.unknown newLeft, attributedRight.unknown newRight]

end Matching

end Matching

section Microtasks

/-! ## The microtasks that are due -/

/-- A settlement that is no success files a record. -/
def Settlement.files (settlement : Settlement) : Bool :=
  match settlement.outcome with
  | .ok _ => false
  | .error _ => true

namespace OperatorRun

/-- The cohorts that the microtasks due file, the last one first. -/
def due (run : OperatorRun) : List CohortId :=
  ((run.state.runner.pending.filter Settlement.files).map
    Settlement.cohortId).reverse

/-- The recorded cohorts, the newest first, with those about to be filed. -/
def records (run : OperatorRun) : List CohortId :=
  run.due ++ run.state.terminal.keys

end OperatorRun

/-- What one microtask does: the settlement at the head is filed as the newest
record, unless it is a success. -/
structure Settles
    (run after : OperatorRun) (settlement : Settlement) : Prop where
  cohorts : after.state.runner.cohorts = run.state.runner.cohorts
  pending : after.state.runner.pending = run.state.runner.pending.tail
  created : after.created = run.created
  canceledOk : after.canceledOk = run.canceledOk
  settings : after.state.settings = run.state.settings
  drafts : after.state.drafts = run.state.drafts
  terminal :
    after.state.terminal.keys =
      if settlement.files then
        (settlement.cohortId :: run.state.terminal.keys).take maxTerminal
      else
        run.state.terminal.keys

theorem settles_microtask
    {run : OperatorRun} (attributed : Attributed run) {settlement : Settlement}
    {rest : List Settlement}
    (waiting : run.state.runner.pending = settlement :: rest)
    (options : OperatorOptions) (health : LibraryHealth) :
    Settles run (run.step options (.microtask health)) settlement := by
  have head : settlement.cohortId ∈ run.state.runner.pendingIds := by
    rw [Runner.pendingIds, waiting]
    exact List.mem_cons_self
  have absent : settlement.cohortId ∉ run.state.terminal :=
    fun held => attributed.notPending_of_terminal held head
  have desk :
      (run.step options (.microtask health)).state.settings =
          run.state.settings ∧
        (run.step options (.microtask health)).state.drafts =
          run.state.drafts :=
    OperatorRun.desk_step options run rfl
  have steps :
      run.step options (.microtask health) = run.settled health settlement := by
    simp only [OperatorRun.step, waiting]
  rw [steps] at desk ⊢
  refine
    { cohorts := run.cohorts_settled health settlement
      pending := run.pending_settled health settlement
      created := rfl
      canceledOk := rfl
      settings := desk.1
      drafts := desk.2
      terminal := ?_ }
  obtain ⟨cohortId, outcome⟩ := settlement
  cases outcome with
  | ok done =>
      rw [OperatorRun.terminal_settled_of_unfiled health rfl]
      rfl
  | error message =>
      have advertised := (attributed.advertised cohortId).mpr (Or.inr head)
      cases filed : run.filedNow? ⟨cohortId, .error message⟩ with
      | none =>
          exact
            absurd advertised
              (OperatorState.notMem_advertised_of_rejectionRecord? run.state
                filed)
      | some record =>
          rw [OperatorRun.terminal_settled_of_files health filed,
            keys_evictPast, keys_set_of_notMem record absent]
          rfl

/-- What all the microtasks due do. -/
structure Drains (run after : OperatorRun) : Prop where
  cohorts : after.state.runner.cohorts = run.state.runner.cohorts
  pending : after.state.runner.pending = []
  created : after.created = run.created
  canceledOk : after.canceledOk = run.canceledOk
  settings : after.state.settings = run.state.settings
  drafts : after.state.drafts = run.state.drafts
  terminal : after.state.terminal.keys = run.records.take maxTerminal

theorem take_append_take {Item : Type} (front back : List Item) (cap : Nat) :
    (front ++ back.take cap).take cap = (front ++ back).take cap := by
  rw [List.take_append, List.take_append, List.take_take]
  congr 2
  omega

/-- The first of the microtasks, and then the others. -/
theorem Settles.drains
    {run next after : OperatorRun} {settlement : Settlement}
    {rest : List Settlement} (settles : Settles run next settlement)
    (waiting : run.state.runner.pending = settlement :: rest)
    (drains : Drains next after) :
    Drains run after where
  cohorts := drains.cohorts.trans settles.cohorts
  pending := drains.pending
  created := drains.created.trans settles.created
  canceledOk := drains.canceledOk.trans settles.canceledOk
  settings := drains.settings.trans settles.settings
  drafts := drains.drafts.trans settles.drafts
  terminal := by
    have later : next.state.runner.pending = rest := by
      rw [settles.pending, waiting]
      rfl
    rw [drains.terminal]
    simp only [OperatorRun.records, OperatorRun.due, later, waiting,
      settles.terminal]
    by_cases files : settlement.files = true
    · rw [if_pos files, List.filter_cons_of_pos files, take_append_take,
        List.map_cons, List.reverse_cons, List.append_assoc]
      rfl
    · rw [if_neg files, List.filter_cons_of_neg files]

end Microtasks

section Leading

/-! ## What a half does in its turn -/

/-- Events in their turn lead from one run to another, none of them a
dismissal. -/
inductive Leads (options : OperatorOptions) (run : OperatorRun) :
    OperatorRun → Prop where
  | refl : Leads options run run
  | step (before : OperatorRun) (leads : Leads options run before)
      (event : OperatorEvent) (possible : offered before event)
      (prompt : settlesPromptly before event)
      (keeps : event.forgets = false) :
      Leads options run (before.step options event)

namespace Leads

variable {options : OperatorOptions} {run after : OperatorRun}

theorem remembers
    (leads : Leads options run after) (initially : Remembers run) :
    Remembers after := by
  induction leads with
  | refl => exact initially
  | step before leads event possible prompt keeps inductionHypothesis =>
      exact inductionHypothesis.step possible prompt

/-- The carry is left alone. -/
theorem dismissedCanceled (leads : Leads options run after) :
    after.state.dismissedCanceled = run.state.dismissedCanceled := by
  induction leads with
  | refl => rfl
  | step before leads event possible prompt keeps inductionHypothesis =>
      rw [OperatorRun.dismissedCanceled_step keeps]
      exact inductionHypothesis

/-- A microtask in its turn. -/
theorem microtask
    (leads : Leads options run after) {health : LibraryHealth}
    (sound : health.stops = true ∧ health.phaseReads = true)
    {settlement : Settlement} {rest : List Settlement}
    (waiting : after.state.runner.pending = settlement :: rest) :
    Leads options run (after.step options (.microtask health)) := by
  refine leads.step after (.microtask health) ⟨nofun, nofun, nofun⟩ ?_ rfl
  refine ⟨?_, sound⟩
  rw [waiting]
  rfl

theorem drain
    {health : LibraryHealth}
    (sound : health.stops = true ∧ health.phaseReads = true) (due : Nat) :
    ∀ after,
      Leads options run after → after.state.runner.pending.length = due →
        Leads options run (after.drain options health due) := by
  induction due with
  | zero =>
      intro after leads _
      exact leads
  | succ due inductionHypothesis =>
      intro after leads waiting
      obtain ⟨settlement, rest, pending⟩ :=
        List.exists_cons_of_length_eq_add_one waiting
      refine inductionHypothesis _ (leads.microtask sound pending) ?_
      rw [length_pending_microtask, waiting]
      rfl

end Leads

theorem leads_takes
    {options : OperatorOptions} {run : OperatorRun} {event : OperatorEvent}
    (possible : offered run event) (keeps : event.forgets = false)
    (sound : event.health.stops = true ∧ event.health.phaseReads = true)
    (turn : event.isMicrotask = false → run.state.runner.pending = []) :
    Leads options run (run.takes options event) := by
  by_cases asked : event.isMicrotask = false
  · rw [OperatorRun.takes_of_asked asked]
    refine Leads.refl.step run event possible ⟨?_, sound⟩ keeps
    rw [asked, turn asked]
    rfl
  · cases event with
    | microtask health => exact Leads.refl.drain sound _ run rfl
    | _ => exact absurd rfl asked

theorem drains_drain
    {options : OperatorOptions} {health : LibraryHealth}
    (sound : health.stops = true ∧ health.phaseReads = true) (due : Nat) :
    ∀ run,
      Remembers run → run.state.runner.pending.length = due →
        Drains run (run.drain options health due) := by
  induction due with
  | zero =>
      intro run remembers none
      have idle := List.eq_nil_of_length_eq_zero none
      have nothing : run.due = [] := by
        rw [OperatorRun.due, idle]
        rfl
      refine
        { cohorts := rfl
          pending := idle
          created := rfl
          canceledOk := rfl
          settings := rfl
          drafts := rfl
          terminal := ?_ }
      rw [OperatorRun.records, nothing, List.nil_append]
      exact (List.take_of_length_le remembers.within).symm
  | succ due inductionHypothesis =>
      intro run remembers waiting
      obtain ⟨settlement, rest, pending⟩ :=
        List.exists_cons_of_length_eq_add_one waiting
      have settles :=
        settles_microtask remembers.attributed pending options health
      have next : Leads options run (run.step options (.microtask health)) :=
        Leads.refl.microtask sound pending
      refine settles.drains pending ?_
      refine inductionHypothesis _ (next.remembers remembers) ?_
      rw [length_pending_microtask, waiting]
      rfl

/-- The microtasks of both halves run. -/
theorem Matching.drained
    {left right leftAfter rightAfter : OperatorRun}
    (matching : Matching left right) (drainsLeft : Drains left leftAfter)
    (drainsRight : Drains right rightAfter) :
    Matching leftAfter rightAfter where
  settings := by
    rw [drainsLeft.settings, drainsRight.settings]
    exact matching.settings
  drafts := by
    rw [drainsLeft.drafts, drainsRight.drafts]
    exact matching.drafts
  live := by
    rw [drainsLeft.created, drainsRight.created, drainsLeft.cohorts,
      drainsRight.cohorts]
    exact matching.live
  pending := by
    rw [Runner.pendingIds, Runner.pendingIds, drainsLeft.pending,
      drainsRight.pending]
    exact fun _ _ _ => Iff.rfl
  canceled := by
    rw [drainsLeft.created, drainsRight.created, drainsLeft.canceledOk,
      drainsRight.canceledOk]
    exact matching.canceled

end Leading

end Btcr2Aggregation
