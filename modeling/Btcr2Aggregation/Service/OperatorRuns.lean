import Btcr2Aggregation.Library.Machine
import Btcr2Aggregation.Service.OperatorCohorts

/-!
# Runs of the operator surface

A run interleaves the operator's requests, the window timers, what the library
does to its cohorts, the settlement microtasks and a service stop.  Beside the
closure state it keeps the history that statements about runs need: the ids ever
minted, how each cohort ended in the library, which cancels were answered `ok`,
every terminal record ever filed, and a ledger of the ids that left the tables.
-/

namespace Btcr2Aggregation

/-- How a cohort ended in the library. -/
inductive Ending where
  | completed
  | failed (message : String)
  | canceled
  | windowExpired
  deriving DecidableEq, Repr

/-- Why an id left the tables. -/
inductive Departure where
  | discarded
  | advertisedOn
  | completed
  | readvertised
  | forgotten
  | evicted
  deriving DecidableEq, Repr

inductive OperatorEvent where
  | createDraft (draftId : CohortId) (input : DraftInput)
  | updateDraft (draftId : CohortId) (input : DraftInput)
  | advertiseDraft (draftId : CohortId) (minted : Option CohortId)
  | discardDraft (draftId : CohortId)
  | cancelCohort (cohortId : CohortId) (health : LibraryHealth)
  | readvertiseExpired (cohortId : CohortId) (minted : Option CohortId)
  | forgetTerminal (cohortId : CohortId) (health : LibraryHealth)
  | applySettings (patch : SettingsPatch)
  | pause
  | resume
  | windowTimer (cohortId : CohortId) (health : LibraryHealth)
  | seat (cohortId : CohortId)
  | fill (cohortId : CohortId)
  | advance (cohortId : CohortId) (phase : CohortPhase)
  | completion (cohortId : CohortId)
  | failure (cohortId : CohortId) (message : String)
  | stopService (message : String)
  | microtask (health : LibraryHealth)

/-- The closure state with its history. -/
structure OperatorRun where
  state : OperatorState
  created : List CohortId
  endings : List (CohortId × Ending)
  canceledOk : List CohortId
  filed : List (CohortId × TerminalRecord)
  gone : List (CohortId × Departure)

namespace OperatorRun

def booted (settings : RuntimeSettings) : OperatorRun where
  state := .booted settings
  created := []
  endings := []
  canceledOk := []
  filed := []
  gone := []

/-- The cohorts a settlement of the runner would really end. -/
def endingNow
    (run : OperatorRun) (cohortId : CohortId) (ending : Ending) :
    List (CohortId × Ending) :=
  if cohortId ∈ run.state.runner.cohorts then
    (cohortId, ending) :: run.endings
  else
    run.endings

/-- The ids the eviction loop of the terminal records drops. -/
def evictedBy
    (state : OperatorState) (cohortId : CohortId) (record : TerminalRecord) :
    List CohortId :=
  (state.terminal.set cohortId record).droppedPast maxTerminal

/-- The closure state once the oldest pending settlement was taken. -/
def popped (run : OperatorRun) : OperatorState :=
  { run.state with
    runner := { run.state.runner with pending := run.state.runner.pending.tail } }

/-- The record a settlement files, if any. -/
def filedNow? (run : OperatorRun) (settlement : Settlement) :
    Option TerminalRecord :=
  match settlement.outcome with
  | .ok _ => none
  | .error message => run.state.rejectionRecord? settlement.cohortId message

/-- The departures a settlement causes. -/
def goneNow (run : OperatorRun) (settlement : Settlement) :
    List (CohortId × Departure) :=
  match settlement.outcome with
  | .ok _ =>
      if settlement.cohortId ∈ run.state.advertised then
        [(settlement.cohortId, .completed)]
      else
        []
  | .error _ =>
      match run.filedNow? settlement with
      | some record =>
          (evictedBy run.state settlement.cohortId record).map
            fun id => (id, .evicted)
      | none => []

/-- Run the callbacks of one settlement, and enter it in the books. -/
def settled
    (run : OperatorRun) (health : LibraryHealth) (settlement : Settlement) :
    OperatorRun :=
  { run with
    state := run.popped.settleCompletion health settlement
    filed :=
      (run.filedNow? settlement).toList.map
          (fun record => (settlement.cohortId, record)) ++
        run.filed
    gone := run.goneNow settlement ++ run.gone }

section Settled

variable (run : OperatorRun) (health : LibraryHealth) (settlement : Settlement)

@[simp]
theorem drafts_settled :
    (run.settled health settlement).state.drafts = run.state.drafts :=
  OperatorState.drafts_settleCompletion health run.popped settlement

@[simp]
theorem advertised_settled :
    (run.settled health settlement).state.advertised =
      run.state.advertised.erase settlement.cohortId :=
  OperatorState.advertised_settleCompletion health run.popped settlement

@[simp]
theorem windowTimers_settled :
    (run.settled health settlement).state.windowTimers =
      run.state.windowTimers.erase settlement.cohortId :=
  OperatorState.windowTimers_settleCompletion health run.popped settlement

@[simp]
theorem intents_settled :
    (run.settled health settlement).state.intents =
      run.state.intents.erase settlement.cohortId :=
  OperatorState.intents_settleCompletion health run.popped settlement

@[simp]
theorem cohorts_settled :
    (run.settled health settlement).state.runner.cohorts =
      run.state.runner.cohorts :=
  OperatorState.cohorts_settleCompletion health run.popped settlement

@[simp]
theorem pending_settled :
    (run.settled health settlement).state.runner.pending =
      run.state.runner.pending.tail :=
  OperatorState.pending_settleCompletion health run.popped settlement

variable {run settlement}

/-- A settlement that files a record writes it into the bounded table. -/
theorem terminal_settled_of_files
    {record : TerminalRecord} (files : run.filedNow? settlement = some record) :
    (run.settled health settlement).state.terminal =
      (run.state.terminal.set settlement.cohortId record).evictPast
        maxTerminal := by
  obtain ⟨cohortId, outcome⟩ := settlement
  cases outcome with
  | ok done => cases files
  | error message =>
      exact
        OperatorState.terminal_settleCompletion_error health run.popped files

theorem terminal_settled_of_unfiled
    (unfiled : run.filedNow? settlement = none) :
    (run.settled health settlement).state.terminal = run.state.terminal := by
  obtain ⟨cohortId, outcome⟩ := settlement
  cases outcome with
  | ok done =>
      exact
        OperatorState.terminal_settleCompletion_ok health run.popped cohortId
          done
  | error message =>
      exact
        OperatorState.terminal_settleCompletion_unfiled health run.popped
          unfiled

theorem mem_filed_settled {id : CohortId} {record : TerminalRecord} :
    (id, record) ∈ (run.settled health settlement).filed ↔
      (id = settlement.cohortId ∧ run.filedNow? settlement = some record) ∨
        (id, record) ∈ run.filed := by
  simp only [settled, List.mem_append, List.mem_map, Option.mem_toList,
    Prod.mk.injEq]
  constructor
  · rintro (⟨_, now, rfl, rfl⟩ | old)
    · exact Or.inl ⟨rfl, now⟩
    · exact Or.inr old
  · rintro (⟨rfl, now⟩ | old)
    · exact Or.inl ⟨record, now, rfl, rfl⟩
    · exact Or.inr old

end Settled

/-- What each event does.  The history is read off the answers. -/
def step
    (options : OperatorOptions) (run : OperatorRun) :
    OperatorEvent → OperatorRun
  | .createDraft draftId input =>
      let (answer, state) := createDraft options run.state draftId input
      match answer with
      | .ok _ => { run with state, created := draftId :: run.created }
      | .error _ => { run with state }
  | .updateDraft draftId input =>
      { run with state := (updateDraft options run.state draftId input).2 }
  | .advertiseDraft draftId minted =>
      let (answer, state) := advertiseDraft options run.state draftId minted
      match answer with
      | .advertised row =>
          { run with
            state
            created := row.draftId :: run.created
            gone := (draftId, .advertisedOn) :: run.gone }
      | _ => { run with state }
  | .discardDraft draftId =>
      let (existed, state) := discardDraft run.state draftId
      { run with
        state
        gone :=
          if existed then (draftId, .discarded) :: run.gone else run.gone }
  | .cancelCohort cohortId health =>
      let (answer, state) := cancelCohort health run.state cohortId
      { run with
        state
        endings :=
          if cohortId ∈ run.state.advertised ∧ health.stops then
            run.endingNow cohortId .canceled
          else
            run.endings
        canceledOk :=
          if answer = .ok then cohortId :: run.canceledOk else run.canceledOk }
  | .readvertiseExpired cohortId minted =>
      let (answer, state) := readvertiseExpired options run.state cohortId minted
      match answer with
      | .advertised row =>
          { run with
            state
            created := row.draftId :: run.created
            gone := (cohortId, .readvertised) :: run.gone }
      | _ => { run with state }
  | .forgetTerminal cohortId health =>
      let (answer, state) := forgetTerminal health run.state cohortId
      { run with
        state
        gone :=
          if answer = some true then
            (cohortId, .forgotten) :: run.gone
          else
            run.gone }
  | .applySettings patch =>
      match run.state.settings.applySettings patch with
      | .ok settings => { run with state := { run.state with settings } }
      | .error _ => run
  | .pause =>
      { run with
        state := { run.state with settings := run.state.settings.pause } }
  | .resume =>
      { run with
        state := { run.state with settings := run.state.settings.resume } }
  | .windowTimer cohortId health =>
      { run with
        state := windowTimerFires health run.state cohortId
        endings :=
          if health.stops then
            run.endingNow cohortId .windowExpired
          else
            run.endings }
  | .seat cohortId =>
      { run with
        state :=
          { run.state with runner := run.state.runner.seat cohortId } }
  | .fill cohortId =>
      { run with
        state :=
          { run.state with runner := run.state.runner.fill cohortId } }
  | .advance cohortId phase =>
      { run with
        state :=
          { run.state with
            runner := run.state.runner.advance cohortId phase } }
  | .completion cohortId =>
      { run with
        state :=
          { run.state with
            runner := run.state.runner.settle cohortId (.ok ()) }
        endings := run.endingNow cohortId .completed }
  | .failure cohortId message =>
      { run with
        state :=
          { run.state with
            runner := run.state.runner.settle cohortId (.error message) }
        endings := run.endingNow cohortId (.failed message) }
  | .stopService message =>
      { run with
        state := stopService run.state message
        endings :=
          run.state.runner.cohorts.keys.map (fun id => (id, .failed message)) ++
            run.endings }
  | .microtask health =>
      match run.state.runner.pending with
      | [] => run
      | settlement :: _ => run.settled health settlement

section Advertised

/-! ## The two advertise requests -/

variable (options : OperatorOptions) (run : OperatorRun)

/-- An advertise request changes nothing, or launches the draft. -/
theorem step_advertiseDraft_cases
    (draftId : CohortId) (minted : Option CohortId) :
    run.step options (.advertiseDraft draftId minted) = run ∨
      ∃ entry cohortId,
        run.state.settings.paused = false ∧
          run.state.drafts.lookup draftId = some entry ∧
          minted = some cohortId ∧
          run.step options (.advertiseDraft draftId minted) =
            { run with
              state :=
                launch options
                  { run.state with drafts := run.state.drafts.erase draftId }
                  cohortId entry.config entry.windows
              created := cohortId :: run.created
              gone := (draftId, .advertisedOn) :: run.gone } := by
  rcases advertiseDraft_cases options run.state draftId minted with
    ⟨answer, refused, equality⟩ | ⟨entry, cohortId, running, found, named, equality⟩
  · left
    simp only [step, equality]
    cases answer with
    | advertised row => cases refused
    | paused => rfl
    | unknown => rfl
    | threw => rfl
  · right
    refine ⟨entry, cohortId, running, found, named, ?_⟩
    simp only [step, equality, relistedRow]

/-- A re-advertise changes nothing, or launches the record. -/
theorem step_readvertiseExpired_cases
    (expired : CohortId) (minted : Option CohortId) :
    run.step options (.readvertiseExpired expired minted) = run ∨
      ∃ record cohortId,
        run.state.settings.paused = false ∧
          run.state.terminal.lookup expired = some record ∧
          minted = some cohortId ∧
          run.step options (.readvertiseExpired expired minted) =
            { run with
              state :=
                launch options
                  { run.state with terminal := run.state.terminal.erase expired }
                  cohortId record.config record.windows
              created := cohortId :: run.created
              gone := (expired, .readvertised) :: run.gone } := by
  rcases readvertiseExpired_cases options run.state expired minted with
    ⟨answer, refused, equality⟩ | ⟨record, cohortId, running, found, named, equality⟩
  · left
    simp only [step, equality]
    cases answer with
    | advertised row => cases refused
    | paused => rfl
    | unknown => rfl
    | threw => rfl
  · right
    refine ⟨record, cohortId, running, found, named, ?_⟩
    simp only [step, equality, advertisedRow]

end Advertised

section Dismissed

/-! ## The dismissal of a record -/

/-- A run once a record was dismissed. -/
def dismissed
    (run : OperatorRun) (cohortId : CohortId) (record : TerminalRecord) :
    OperatorRun :=
  { run with
    state :=
      { run.state with
        dismissedCanceled := carryWith run.state cohortId record
        terminal := run.state.terminal.erase cohortId }
    gone := (cohortId, .forgotten) :: run.gone }

/-- A dismissal changes nothing, or clears a record. -/
theorem step_forgetTerminal_cases
    (options : OperatorOptions) (run : OperatorRun) (cohortId : CohortId)
    (health : LibraryHealth) :
    run.step options (.forgetTerminal cohortId health) = run ∨
      ∃ record,
        run.state.terminal.lookup cohortId = some record ∧
          run.step options (.forgetTerminal cohortId health) =
            run.dismissed cohortId record := by
  rcases forgetTerminal_cases health run.state cohortId with
    ⟨answer, refused, equality⟩ | ⟨record, found, equality⟩
  · left
    simp only [step, equality, if_neg refused]
  · right
    refine ⟨record, found, ?_⟩
    simp only [step, equality]
    rfl

end Dismissed

end OperatorRun

namespace OperatorEvent

/-- The id an event would mint. -/
def minted? : OperatorEvent → Option CohortId
  | .createDraft draftId _ => some draftId
  | .advertiseDraft _ minted => minted
  | .readvertiseExpired _ minted => minted
  | _ => none

/-- The cohort whose timer fires. -/
def timer? : OperatorEvent → Option CohortId
  | .windowTimer cohortId _ => some cohortId
  | _ => none

/-- The cohort the library acts on by itself. -/
def libraryCohort? : OperatorEvent → Option CohortId
  | .seat cohortId => some cohortId
  | .fill cohortId => some cohortId
  | .advance cohortId _ => some cohortId
  | .completion cohortId => some cohortId
  | .failure cohortId _ => some cohortId
  | _ => none

/-- The cohort that reaches its last seat. -/
def filled? : OperatorEvent → Option CohortId
  | .fill cohortId => some cohortId
  | _ => none

/-- The cohort that moves on, and its new phase. -/
def advanced? : OperatorEvent → Option (CohortId × CohortPhase)
  | .advance cohortId phase => some (cohortId, phase)
  | _ => none

/-- Which library calls of the event succeed. -/
def health : OperatorEvent → LibraryHealth
  | .cancelCohort _ health => health
  | .forgetTerminal _ health => health
  | .windowTimer _ health => health
  | .microtask health => health
  | _ => .sound

def isMicrotask : OperatorEvent → Bool
  | .microtask _ => true
  | _ => false

end OperatorEvent

/-- The environment of every run: ids are minted fresh, only an armed timer
fires, and the library acts on cohorts it holds. -/
def offered (run : OperatorRun) (event : OperatorEvent) : Prop :=
  (∀ id ∈ event.minted?, id ∉ run.created) ∧
    (∀ id ∈ event.timer?, id ∈ run.state.windowTimers) ∧
      ∀ id ∈ event.libraryCohort?, id ∈ run.state.runner.cohorts

/-- Each settlement microtask runs before the next request, timer or library
event, and neither a stop nor a phase read throws. -/
def settlesPromptly (run : OperatorRun) (event : OperatorEvent) : Prop :=
  (event.isMicrotask = !run.state.runner.pending.isEmpty) ∧
    event.health.stops = true ∧ event.health.phaseReads = true

/-- Any interleaving, with library calls that may throw. -/
def operatorMachine (options : OperatorOptions) (settings : RuntimeSettings) :
    Machine OperatorRun OperatorEvent where
  init := .booted settings
  step := OperatorRun.step options
  admits := offered

/-- The interleavings in which settlements are prompt. -/
def promptMachine (options : OperatorOptions) (settings : RuntimeSettings) :
    Machine OperatorRun OperatorEvent :=
  (operatorMachine options settings).restrict settlesPromptly

instance (run : OperatorRun) (event : OperatorEvent) :
    Decidable (offered run event) :=
  inferInstanceAs (Decidable (_ ∧ _))

instance (run : OperatorRun) (event : OperatorEvent) :
    Decidable (settlesPromptly run event) :=
  inferInstanceAs (Decidable (_ ∧ _ ∧ _))

instance
    (options : OperatorOptions) (settings : RuntimeSettings)
    (run : OperatorRun) (event : OperatorEvent) :
    Decidable ((operatorMachine options settings).admits run event) :=
  inferInstanceAs (Decidable (offered run event))

instance
    (options : OperatorOptions) (settings : RuntimeSettings)
    (run : OperatorRun) (event : OperatorEvent) :
    Decidable ((promptMachine options settings).admits run event) :=
  inferInstanceAs (Decidable (offered run event ∧ settlesPromptly run event))

/-- An offline service, with a recovery key of its own. -/
def plainOptions : OperatorOptions where
  activeNetwork := .mutinynet
  recoveryKeys := ⟨fun _ => true, "throwaway"⟩
  recoveryKey := none
  autoFallbackOnStall := true
  cohortTtlMs := some 1800000

/-- A form left at its defaults, but for the discovery window. -/
def plainInput (discoveryWindowMs : Option JsNumber) : DraftInput where
  beaconType := none
  size := none
  threshold := none
  discoveryWindowMs := discoveryWindowMs
  fundingWindowMs := none

end Btcr2Aggregation
