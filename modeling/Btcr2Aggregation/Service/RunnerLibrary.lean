import Btcr2Aggregation.Library.Fallible
import Btcr2Aggregation.Service.OperatorRuns

/-!
# The runner as a parameter

The runner, its session and its transport are the library's.  Here they are a
parameter: states of their own, operations that may throw, and a view of what
the app can see of them.  What the library documents of each operation is a
named hypothesis; in particular stops and phase reads do not throw, while an
advertise or a publish may.  `Runner` is an instance.

Under these hypotheses a service beside any such library sees, after every
event, what the runner of its operator state says.
-/

namespace Btcr2Aggregation

section Library

/-! ## The library -/

/-- The operations of the runner, its session and its transport; the last ones
it performs by itself. -/
inductive RunnerCall where
  | advertiseCohort (cohortId : CohortId)
  | publishRepeating (cohortId : CohortId)
  | stopAdvert (advertId : Option Nat)
  | stopCohort (cohortId : CohortId)
  | stop (reason : String)
  | seat (cohortId : CohortId)
  | fill (cohortId : CohortId)
  | advance (cohortId : CohortId) (phase : CohortPhase)
  | settle (cohortId : CohortId) (outcome : Except String Unit)
  | runCallbacks

/-- An advertise or a publish. -/
def RunnerCall.Publishes : RunnerCall → Prop
  | .advertiseCohort _ => True
  | .publishRepeating _ => True
  | _ => False

/-- The callbacks of the oldest settlement run. -/
def Runner.runCallbacks (runner : Runner) : Runner :=
  { runner with pending := runner.pending.tail }

def Runner.call (runner : Runner) : RunnerCall → Runner
  | .advertiseCohort cohortId => runner.advertiseCohort cohortId
  | .publishRepeating cohortId => runner.publishRepeating cohortId
  | .stopAdvert advertId => runner.stopAdvert advertId
  | .stopCohort cohortId => runner.stopCohort cohortId
  | .stop reason => runner.stop reason
  | .seat cohortId => runner.seat cohortId
  | .fill cohortId => runner.fill cohortId
  | .advance cohortId phase => runner.advance cohortId phase
  | .settle cohortId outcome => runner.settle cohortId outcome
  | .runCallbacks => runner.runCallbacks

/-- A library: its states, its operations, and what the app can see. -/
structure RunnerLibrary where
  State : Type
  booted : State
  getCohortPhase : State → CohortId → Except String (Option CohortPhase)
  call : State → RunnerCall → Except String State
  view : State → Runner

/-- The documented behaviour of the library. -/
structure RunnerLibrary.Documented (library : RunnerLibrary) : Prop where
  boots : library.view library.booted = .booted
  /-- A phase read does not throw. -/
  readsPhases :
    ∀ state cohortId,
      library.getCohortPhase state cohortId =
        .ok ((library.view state).getCohortPhase cohortId)
  /-- A stop does not throw: it settles the cohort if the runner holds it. -/
  stopsCohorts :
    ∀ state cohortId, ∃ after,
      library.call state (.stopCohort cohortId) = .ok after ∧
        library.view after = (library.view state).stopCohort cohortId
  stops :
    ∀ state reason, ∃ after,
      library.call state (.stop reason) = .ok after ∧
        library.view after = (library.view state).stop reason
  /-- An advertise that returns has entered the cohort and published it. -/
  advertises :
    ∀ state cohortId after,
      library.call state (.advertiseCohort cohortId) = .ok after →
        library.view after = (library.view state).advertiseCohort cohortId
  /-- A publish that returns has overwritten the slot. -/
  publishes :
    ∀ state cohortId after,
      library.call state (.publishRepeating cohortId) = .ok after →
        library.view after = (library.view state).publishRepeating cohortId
  /-- A stop closure clears the slot while it holds its own advert. -/
  retires :
    ∀ state advertId, ∃ after,
      library.call state (.stopAdvert advertId) = .ok after ∧
        library.view after = (library.view state).stopAdvert advertId
  seats :
    ∀ state cohortId, ∃ after,
      library.call state (.seat cohortId) = .ok after ∧
        library.view after = (library.view state).seat cohortId
  fills :
    ∀ state cohortId, ∃ after,
      library.call state (.fill cohortId) = .ok after ∧
        library.view after = (library.view state).fill cohortId
  advances :
    ∀ state cohortId phase, ∃ after,
      library.call state (.advance cohortId phase) = .ok after ∧
        library.view after = (library.view state).advance cohortId phase
  /-- A cohort that settles is disposed of and leaves its settlement behind. -/
  settles :
    ∀ state cohortId outcome, ∃ after,
      library.call state (.settle cohortId outcome) = .ok after ∧
        library.view after = (library.view state).settle cohortId outcome
  runsCallbacks :
    ∀ state, ∃ after,
      library.call state .runCallbacks = .ok after ∧
        library.view after = (library.view state).runCallbacks

/-- The runner of the operator state, as a library. -/
def Runner.library : RunnerLibrary where
  State := Runner
  booted := .booted
  getCohortPhase runner cohortId := .ok (runner.getCohortPhase cohortId)
  call runner call := .ok (runner.call call)
  view runner := runner

theorem Runner.documented : Runner.library.Documented where
  boots := rfl
  readsPhases _ _ := rfl
  stopsCohorts _ _ := ⟨_, rfl, rfl⟩
  stops _ _ := ⟨_, rfl, rfl⟩
  advertises := by
    rintro state cohortId after ⟨rfl⟩
    rfl
  publishes := by
    rintro state cohortId after ⟨rfl⟩
    rfl
  retires _ _ := ⟨_, rfl, rfl⟩
  seats _ _ := ⟨_, rfl, rfl⟩
  fills _ _ := ⟨_, rfl, rfl⟩
  advances _ _ _ := ⟨_, rfl, rfl⟩
  settles _ _ _ := ⟨_, rfl, rfl⟩
  runsCallbacks _ := ⟨_, rfl, rfl⟩

namespace RunnerLibrary

variable {library : RunnerLibrary}

/-- Calls one after the other, up to the first that throws. -/
def calls
    (library : RunnerLibrary) (state : library.State)
    (calls : List RunnerCall) : Except String library.State :=
  calls.foldlM library.call state

/-- A call that returned did to the view what is documented of it. -/
theorem Documented.view_call
    (documented : library.Documented) {state after : library.State}
    {call : RunnerCall} (returned : library.call state call = .ok after) :
    library.view after = (library.view state).call call := by
  have returns {value : Runner}
      (documents :
        ∃ other,
          library.call state call = .ok other ∧ library.view other = value) :
      library.view after = value := by
    obtain ⟨other, same, shown⟩ := documents
    rw [returned] at same
    cases same
    exact shown
  cases call with
  | advertiseCohort cohortId => exact documented.advertises _ _ _ returned
  | publishRepeating cohortId => exact documented.publishes _ _ _ returned
  | stopAdvert advertId => exact returns (documented.retires _ _)
  | stopCohort cohortId => exact returns (documented.stopsCohorts _ _)
  | stop reason => exact returns (documented.stops _ _)
  | seat cohortId => exact returns (documented.seats _ _)
  | fill cohortId => exact returns (documented.fills _ _)
  | advance cohortId phase => exact returns (documented.advances _ _ _)
  | settle cohortId outcome => exact returns (documented.settles _ _ _)
  | runCallbacks => exact returns (documented.runsCallbacks _)

theorem Documented.view_calls
    (documented : library.Documented) {calls : List RunnerCall} :
    ∀ {state after : library.State},
      library.calls state calls = .ok after →
        library.view after = calls.foldl Runner.call (library.view state) := by
  induction calls with
  | nil =>
      rintro state after ⟨rfl⟩
      rfl
  | cons call calls inductionHypothesis =>
      intro state after returned
      rw [RunnerLibrary.calls, List.foldlM_cons] at returned
      obtain ⟨middle, first, rest⟩ := bind_eq_ok_iff.mp returned
      rw [inductionHypothesis rest, documented.view_call first, List.foldl_cons]

/-- Any other call returns. -/
theorem Documented.exists_call
    (documented : library.Documented) (state : library.State)
    {call : RunnerCall} (quiet : ¬ call.Publishes) :
    ∃ after, library.call state call = .ok after := by
  have returns {value : Runner}
      (documents :
        ∃ after,
          library.call state call = .ok after ∧ library.view after = value) :
      ∃ after, library.call state call = .ok after :=
    documents.imp fun _ => And.left
  cases call with
  | advertiseCohort cohortId => exact absurd trivial quiet
  | publishRepeating cohortId => exact absurd trivial quiet
  | stopAdvert advertId => exact returns (documented.retires _ _)
  | stopCohort cohortId => exact returns (documented.stopsCohorts _ _)
  | stop reason => exact returns (documented.stops _ _)
  | seat cohortId => exact returns (documented.seats _ _)
  | fill cohortId => exact returns (documented.fills _ _)
  | advance cohortId phase => exact returns (documented.advances _ _ _)
  | settle cohortId outcome => exact returns (documented.settles _ _ _)
  | runCallbacks => exact returns (documented.runsCallbacks _)

end RunnerLibrary

end Library

section Calls

/-! ## The calls of an event -/

/-- The calls of a slot repair. -/
def OperatorState.repairCalls
    (health : LibraryHealth) (state : OperatorState)
    (settledCohortId : CohortId) : List RunnerCall :=
  if state.advertSlotOwner = some settledCohortId then
    if state.repairThrows health settledCohortId then
      []
    else
      match state.newestOpen? with
      | some cohortId =>
          .stopAdvert state.stopCurrent ::
            if health.publishes then [.publishRepeating cohortId] else []
      | none => [.stopAdvert state.stopCurrent]
  else
    []

theorem OperatorState.runner_repairAdvertSlot
    (health : LibraryHealth) (state : OperatorState) (cohortId : CohortId) :
    (state.repairAdvertSlot health cohortId).runner =
      (state.repairCalls health cohortId).foldl Runner.call state.runner := by
  unfold OperatorState.repairAdvertSlot OperatorState.repairCalls
  by_cases owns : state.advertSlotOwner = some cohortId
  · rw [if_pos owns, if_pos owns]
    dsimp only
    by_cases throws : state.repairThrows health cohortId = true
    · rw [if_pos throws, if_pos throws]
      rfl
    · rw [if_neg throws, if_neg throws]
      have same :
          OperatorState.newestOpen? { state with advertSlotOwner := none } =
            state.newestOpen? :=
        rfl
      rw [same]
      cases state.newestOpen? with
      | none => rfl
      | some newest =>
          by_cases publishes : health.publishes = true
          · simp only [OperatorState.republish, if_pos publishes]
            rfl
          · simp only [OperatorState.republish, if_neg publishes]
            rfl
  · rw [if_neg owns, if_neg owns]
    rfl

/-- The calls of the callbacks of a settled completion. -/
def OperatorState.settleCalls
    (health : LibraryHealth) (state : OperatorState) (settlement : Settlement) :
    List RunnerCall :=
  match settlement.outcome with
  | .ok () =>
      (state.forgetLive settlement.cohortId).repairCalls health
        settlement.cohortId
  | .error message =>
      (state.fileRejection settlement.cohortId message).repairCalls health
        settlement.cohortId

theorem OperatorState.runner_settleCompletion
    (health : LibraryHealth) (state : OperatorState) (settlement : Settlement) :
    (state.settleCompletion health settlement).runner =
      (state.settleCalls health settlement).foldl Runner.call state.runner := by
  obtain ⟨cohortId, outcome⟩ := settlement
  cases outcome with
  | ok done =>
      exact
        OperatorState.runner_repairAdvertSlot health (state.forgetLive cohortId)
          cohortId
  | error message =>
      have filed : (state.fileRejection cohortId message).runner = state.runner := by
        unfold OperatorState.fileRejection
        split
        · rfl
        · rfl
      have repaired :=
        OperatorState.runner_repairAdvertSlot health
          (state.fileRejection cohortId message) cohortId
      rw [filed] at repaired
      exact repaired

/-- The calls of an advertise request. -/
def AdvertiseResult.calls : AdvertiseResult → List RunnerCall
  | .advertised row => [.advertiseCohort row.draftId]
  | _ => []

/-- The calls of an event. -/
def OperatorRun.calls
    (options : OperatorOptions) (run : OperatorRun) :
    OperatorEvent → List RunnerCall
  | .advertiseDraft draftId minted =>
      (advertiseDraft options run.state draftId minted).1.calls
  | .readvertiseExpired cohortId minted =>
      (readvertiseExpired options run.state cohortId minted).1.calls
  | .cancelCohort cohortId health =>
      if cohortId ∈ run.state.advertised ∧ health.stops then
        let declared :=
          (run.state.declareIntent cohortId .canceled).clearWindowTimer cohortId
        .stopCohort cohortId ::
          { declared with
            runner := declared.runner.stopCohort cohortId }.repairCalls
              health cohortId
      else
        []
  | .windowTimer cohortId health =>
      if health.stops then [.stopCohort cohortId] else []
  | .seat cohortId => [.seat cohortId]
  | .fill cohortId => [.fill cohortId]
  | .advance cohortId phase => [.advance cohortId phase]
  | .completion cohortId => [.settle cohortId (.ok ())]
  | .failure cohortId message => [.settle cohortId (.error message)]
  | .stopService message => [.stop message]
  | .microtask health =>
      match run.state.runner.pending with
      | [] => []
      | settlement :: _ =>
          .runCallbacks :: run.popped.settleCalls health settlement
  | _ => []

/-- An event does to the runner what its calls do. -/
theorem OperatorRun.runner_step
    (options : OperatorOptions) (run : OperatorRun) (event : OperatorEvent) :
    (run.step options event).state.runner =
      (run.calls options event).foldl Runner.call run.state.runner := by
  cases event with
  | createDraft draftId input =>
      simp only [step, createDraft]
      cases judgeDraft options run.state.settings draftId _ with
      | error message => rfl
      | ok entry => rfl
  | updateDraft draftId input =>
      simp only [step, updateDraft]
      split
      · split
        · rfl
        · rfl
      · rfl
  | advertiseDraft draftId minted =>
      rcases advertiseDraft_cases options run.state draftId minted with
        ⟨answer, refused, equality⟩ | ⟨entry, cohortId, -, -, -, equality⟩
      · simp only [step, OperatorRun.calls, equality]
        cases answer with
        | advertised row => cases refused
        | paused => rfl
        | unknown => rfl
        | threw => rfl
      · obtain ⟨_, -, launched⟩ :=
          launch_eq options
            { run.state with drafts := run.state.drafts.erase draftId } cohortId
            entry.config entry.windows
        simp only [step, OperatorRun.calls, equality, launched]
        rfl
  | discardDraft draftId => rfl
  | cancelCohort cohortId health =>
      simp only [step, OperatorRun.calls, cancelCohort]
      by_cases both : cohortId ∈ run.state.advertised ∧ health.stops = true
      · rw [if_pos both.1, if_pos both.2, if_pos both]
        exact OperatorState.runner_repairAdvertSlot health _ cohortId
      · rw [if_neg both]
        split
        · next advertised =>
            rw [if_neg fun stops => both ⟨advertised, stops⟩]
            rfl
        · rfl
  | readvertiseExpired cohortId minted =>
      rcases readvertiseExpired_cases options run.state cohortId minted with
        ⟨answer, refused, equality⟩ | ⟨record, newCohortId, -, -, -, equality⟩
      · simp only [step, OperatorRun.calls, equality]
        cases answer with
        | advertised row => cases refused
        | paused => rfl
        | unknown => rfl
        | threw => rfl
      · obtain ⟨_, -, launched⟩ :=
          launch_eq options
            { run.state with terminal := run.state.terminal.erase cohortId }
            newCohortId record.config record.windows
        simp only [step, OperatorRun.calls, equality, launched]
        rfl
  | forgetTerminal cohortId health =>
      rcases forgetTerminal_cases health run.state cohortId with
        ⟨answer, -, equality⟩ | ⟨record, -, equality⟩
      · simp only [step, equality]
        rfl
      · simp only [step, equality]
        rfl
  | applySettings patch =>
      simp only [step]
      split
      · rfl
      · rfl
  | pause => rfl
  | resume => rfl
  | windowTimer cohortId health =>
      simp only [step, OperatorRun.calls, windowTimerFires]
      split
      · rfl
      · rfl
  | seat cohortId => rfl
  | fill cohortId => rfl
  | advance cohortId phase => rfl
  | completion cohortId => rfl
  | failure cohortId message => rfl
  | stopService message => rfl
  | microtask health =>
      simp only [step, OperatorRun.calls]
      cases run.state.runner.pending with
      | nil => rfl
      | cons settlement later =>
          exact
            OperatorState.runner_settleCompletion health run.popped settlement

end Calls

section Hosted

/-! ## A service beside a library -/

/-- A run of the service beside a library, in which the library's calls
returned: the events, the closure state with its history, and the state of the
library. -/
inductive HostedRun
    (options : OperatorOptions) (settings : RuntimeSettings)
    (library : RunnerLibrary) :
    List OperatorEvent → OperatorRun → library.State → Prop
  | booted :
      HostedRun options settings library [] (.booted settings) library.booted
  | step
      {events : List OperatorEvent} {run : OperatorRun}
      {state after : library.State}
      (hosted : HostedRun options settings library events run state)
      (event : OperatorEvent)
      (returned : library.calls state (run.calls options event) = .ok after) :
      HostedRun options settings library (events ++ [event])
        (run.step options event) after

namespace HostedRun

variable {options : OperatorOptions} {settings : RuntimeSettings}
  {library : RunnerLibrary} {events : List OperatorEvent} {run : OperatorRun}
  {state : library.State}

theorem run_eq (hosted : HostedRun options settings library events run state) :
    run = (operatorMachine options settings).run events := by
  induction hosted with
  | booted => rfl
  | step hosted event returned inductionHypothesis =>
      rw [Machine.run_concat, ← inductionHypothesis]
      rfl

/-- A documented library shows what the operator state says of it. -/
theorem view_eq
    (documented : library.Documented)
    (hosted : HostedRun options settings library events run state) :
    library.view state = run.state.runner := by
  induction hosted with
  | booted => exact documented.boots
  | step hosted event returned inductionHypothesis =>
      rw [documented.view_calls returned, inductionHypothesis,
        OperatorRun.runner_step]

/-- Its phase reads return what the operator state reads. -/
theorem getCohortPhase_eq
    (documented : library.Documented)
    (hosted : HostedRun options settings library events run state)
    (cohortId : CohortId) :
    library.getCohortPhase state cohortId =
      .ok (run.state.runner.getCohortPhase cohortId) := by
  rw [documented.readsPhases, view_eq documented hosted]

/-- And it stops what it is told to stop. -/
theorem stopCohort_returns
    (documented : library.Documented)
    (hosted : HostedRun options settings library events run state)
    (cohortId : CohortId) :
    ∃ after,
      library.call state (.stopCohort cohortId) = .ok after ∧
        library.view after = run.state.runner.stopCohort cohortId := by
  have stopped := documented.stopsCohorts state cohortId
  rw [view_eq documented hosted] at stopped
  exact stopped

end HostedRun

/-- Every run of the operator surface is one beside any documented library
whose advertises and publishes return. -/
theorem exists_hostedRun
    (options : OperatorOptions) (settings : RuntimeSettings)
    {library : RunnerLibrary} (documented : library.Documented)
    (publishes :
      ∀ state call, call.Publishes →
        ∃ after, library.call state call = .ok after)
    (events : List OperatorEvent) :
    ∃ state,
      HostedRun options settings library events
        ((operatorMachine options settings).run events) state := by
  have returns (calls : List RunnerCall) :
      ∀ state, ∃ after, library.calls state calls = .ok after := by
    induction calls with
    | nil => exact fun state => ⟨state, rfl⟩
    | cons call calls inductionHypothesis =>
        intro state
        obtain ⟨middle, first⟩ :
            ∃ middle, library.call state call = .ok middle := by
          by_cases noisy : call.Publishes
          · exact publishes state call noisy
          · exact documented.exists_call state noisy
        obtain ⟨after, rest⟩ := inductionHypothesis middle
        refine ⟨after, ?_⟩
        rw [RunnerLibrary.calls, List.foldlM_cons, first]
        exact rest
  induction events using List.reverseRecOn with
  | nil => exact ⟨library.booted, .booted⟩
  | append_singleton events event inductionHypothesis =>
      obtain ⟨state, hosted⟩ := inductionHypothesis
      obtain ⟨after, returned⟩ := returns _ state
      refine ⟨after, ?_⟩
      rw [Machine.run_concat]
      exact .step hosted event returned

end Hosted

end Btcr2Aggregation
