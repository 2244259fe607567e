import Btcr2Aggregation.Service.RuntimeSettings
import Btcr2Aggregation.Service.Runner

/-!
# Operator cohorts

The closure state of `createOperatorCohorts` and its operations, each a function
from the state to its answer and the next state.  Drafts live until they are
advertised or discarded; an advertised cohort leaves its maps in one place only,
the callbacks of its completion; a rejected completion leaves a bounded terminal
record whose fate is read from the intent registry.

What the library does during an operation is an argument: the cohort id it mints
or `none` where it throws, and which of its other calls succeed.
-/

namespace Btcr2Aggregation

section State

/-! ## Closure state -/

inductive CohortIntent where
  | canceled
  | windowExpired
  deriving DecidableEq, Repr

inductive CohortFate where
  | expired
  | canceled
  deriving DecidableEq, Repr

inductive CohortRowState where
  | draft
  | advertised
  | expired
  | canceled
  deriving DecidableEq, Repr

/-- One row of the operator's cohort list. -/
structure OperatorCohortDTO where
  draftId : CohortId
  beaconType : BeaconType
  network : NetworkName
  threshold : Nat
  capacity : Nat
  joined : Nat
  state : CohortRowState
  reason : Option String
  discoveryWindowMs : Option Nat
  fundingWindowMs : Option Nat
  defaultDiscoveryWindowMs : Option Nat
  defaultFundingWindowMs : Option Nat
  deriving DecidableEq, Repr

/-- One row of the public directory. -/
structure DirectoryCohortDTO where
  cohortId : CohortId
  beaconType : BeaconType
  network : NetworkName
  threshold : Nat
  capacity : Nat
  joined : Nat
  phase : CohortPhase
  deriving DecidableEq, Repr

structure DraftEntry where
  config : CohortConfig
  dto : OperatorCohortDTO
  windows : DraftWindows
  deriving DecidableEq, Repr

structure TerminalRecord where
  config : CohortConfig
  reason : String
  fate : CohortFate
  windows : DraftWindows
  deriving DecidableEq, Repr

/-- The options fixed at construction. -/
structure OperatorOptions where
  activeNetwork : NetworkName
  recoveryKeys : RecoveryKeys
  recoveryKey : Option String
  autoFallbackOnStall : Bool
  cohortTtlMs : Option JsNumber

structure OperatorState where
  settings : RuntimeSettings
  drafts : InsertionMap CohortId DraftEntry
  advertised : InsertionMap CohortId CohortConfig
  terminal : InsertionMap CohortId TerminalRecord
  dismissedCanceled : InsertionMap CohortId Unit
  advertisedWindows : InsertionMap CohortId DraftWindows
  windowTimers : InsertionMap CohortId Nat
  intents : InsertionMap CohortId CohortIntent
  stopAborted : Bool
  advertSlotOwner : Option CohortId
  /-- The advert the republisher last installed. -/
  stopCurrent : Option Nat
  runner : Runner

def OperatorState.booted (settings : RuntimeSettings) : OperatorState where
  settings := settings
  drafts := ∅
  advertised := ∅
  terminal := ∅
  dismissedCanceled := ∅
  advertisedWindows := ∅
  windowTimers := ∅
  intents := ∅
  stopAborted := false
  advertSlotOwner := none
  stopCurrent := none
  runner := .booted

/-- Which library calls of an operation succeed. -/
structure LibraryHealth where
  stops : Bool
  phaseReads : Bool
  publishes : Bool
  deriving DecidableEq, Repr

/-- Nothing throws. -/
def LibraryHealth.sound : LibraryHealth :=
  ⟨true, true, true⟩

def maxTerminal : Nat := 24

def maxDismissedCanceled : Nat := maxTerminal

def maxIntents : Nat := 24

def windowExpiredReason : String :=
  "the discovery window closed"

def canceledReason : String :=
  "canceled by the operator"

/-- Coerce a completion rejection to an operator-facing reason. -/
def reasonString (message : String) : String :=
  if message = "" then "cohort expired" else message

end State

namespace OperatorState

section Bookkeeping

/-! ## Intents, timers and terminal records -/

/-- `intents.declare`. -/
def declareIntent
    (state : OperatorState) (cohortId : CohortId) (intent : CohortIntent) :
    OperatorState :=
  { state with intents := state.intents.remember maxIntents cohortId intent }

/-- Cancel and forget a cohort's window timer. -/
def clearWindowTimer (state : OperatorState) (cohortId : CohortId) :
    OperatorState :=
  { state with windowTimers := state.windowTimers.erase cohortId }

/-- Arm a cohort's discovery window, evicting the oldest timer past the cap. -/
def armWindowTimer
    (options : OperatorOptions) (state : OperatorState) (cohortId : CohortId)
    (windowMs : Option Nat) : OperatorState :=
  match windowTimerDelay? options.cohortTtlMs windowMs with
  | none => state
  | some delay =>
      if state.stopAborted then
        state
      else
        { state with
          windowTimers :=
            (state.windowTimers.set cohortId delay).evictPast maxTerminal }

/-- Record an ended cohort, evicting the oldest record past the cap. -/
def rememberTerminal
    (state : OperatorState) (cohortId : CohortId) (record : TerminalRecord) :
    OperatorState :=
  { state with
    terminal := (state.terminal.set cohortId record).evictPast maxTerminal }

/-- The windows an entry without any gets in its terminal record. -/
def noWindows : DraftWindows :=
  ⟨⟨none, none⟩, ⟨none, none⟩⟩

/-- What a rejected completion files, read from the intent. -/
def terminalRecord
    (config : CohortConfig) (windows : Option DraftWindows)
    (intent : Option CohortIntent) (message : String) : TerminalRecord :=
  let windows := windows.getD noWindows
  match intent with
  | some .canceled => ⟨config, canceledReason, .canceled, windows⟩
  | some .windowExpired => ⟨config, windowExpiredReason, .expired, windows⟩
  | none => ⟨config, reasonString message, .expired, windows⟩

end Bookkeeping

section AdvertSlot

/-! ## The advert slot -/

/-- `republisher.republish`: retire our own previous advert, then publish. -/
def republish
    (health : LibraryHealth) (state : OperatorState) (cohortId : CohortId) :
    OperatorState :=
  let retired := state.runner.stopAdvert state.stopCurrent
  if health.publishes then
    { state with
      stopCurrent := some retired.nextAdvert
      runner := retired.publishRepeating cohortId }
  else
    { state with stopCurrent := none, runner := retired }

/-- `republisher.clear`. -/
def clearAdvert (state : OperatorState) : OperatorState :=
  { state with
    stopCurrent := none
    runner := state.runner.stopAdvert state.stopCurrent }

/-- The newest advertised cohort still in an open phase. -/
def newestOpen? (state : OperatorState) : Option CohortId :=
  state.advertised.keys.find? fun cohortId =>
    (state.runner.getCohortPhase cohortId).any (· ∈ openPhases)

/-- A repair of the slot's owner reads phases, and such a read can throw. -/
def repairThrows
    (health : LibraryHealth) (state : OperatorState)
    (settledCohortId : CohortId) : Bool :=
  state.advertSlotOwner = some settledCohortId ∧
    ¬ health.phaseReads ∧ state.advertised.keys ≠ []

/-- Repair the slot after a cohort settled; only the owner's settle does. -/
def repairAdvertSlot
    (health : LibraryHealth) (state : OperatorState)
    (settledCohortId : CohortId) : OperatorState :=
  if state.advertSlotOwner = some settledCohortId then
    let disowned := { state with advertSlotOwner := none }
    if state.repairThrows health settledCohortId then
      disowned
    else
      match disowned.newestOpen? with
      | some cohortId =>
          { disowned.republish health cohortId with
            advertSlotOwner := some cohortId }
      | none => disowned.clearAdvert
  else
    state

end AdvertSlot

section RepairFrame

/-! ## What a repair leaves alone -/

/-- A repair writes the owner, the republisher's advert and the transport, and
nothing else. -/
theorem repairAdvertSlot_eq
    (health : LibraryHealth) (state : OperatorState) (cohortId : CohortId) :
    ∃ owner stopCurrent slot nextAdvert,
      state.repairAdvertSlot health cohortId =
        { state with
          advertSlotOwner := owner
          stopCurrent := stopCurrent
          runner := { state.runner with slot := slot, nextAdvert := nextAdvert } } := by
  unfold repairAdvertSlot
  split
  · dsimp only
    split
    · exact ⟨_, _, _, _, rfl⟩
    · split
      · unfold republish
        dsimp only
        split
        · exact ⟨_, _, _, _, rfl⟩
        · exact ⟨_, _, _, _, rfl⟩
      · exact ⟨_, _, _, _, rfl⟩
  · exact ⟨_, _, _, _, rfl⟩

variable (health : LibraryHealth) (state : OperatorState) (cohortId : CohortId)

@[simp]
theorem advertised_repairAdvertSlot :
    (state.repairAdvertSlot health cohortId).advertised = state.advertised := by
  obtain ⟨_, _, _, _, equality⟩ := repairAdvertSlot_eq health state cohortId
  rw [equality]

@[simp]
theorem terminal_repairAdvertSlot :
    (state.repairAdvertSlot health cohortId).terminal = state.terminal := by
  obtain ⟨_, _, _, _, equality⟩ := repairAdvertSlot_eq health state cohortId
  rw [equality]

@[simp]
theorem windowTimers_repairAdvertSlot :
    (state.repairAdvertSlot health cohortId).windowTimers =
      state.windowTimers := by
  obtain ⟨_, _, _, _, equality⟩ := repairAdvertSlot_eq health state cohortId
  rw [equality]

@[simp]
theorem intents_repairAdvertSlot :
    (state.repairAdvertSlot health cohortId).intents = state.intents := by
  obtain ⟨_, _, _, _, equality⟩ := repairAdvertSlot_eq health state cohortId
  rw [equality]

@[simp]
theorem cohorts_repairAdvertSlot :
    (state.repairAdvertSlot health cohortId).runner.cohorts =
      state.runner.cohorts := by
  obtain ⟨_, _, _, _, equality⟩ := repairAdvertSlot_eq health state cohortId
  rw [equality]

@[simp]
theorem pending_repairAdvertSlot :
    (state.repairAdvertSlot health cohortId).runner.pending =
      state.runner.pending := by
  obtain ⟨_, _, _, _, equality⟩ := repairAdvertSlot_eq health state cohortId
  rw [equality]

end RepairFrame

section Settlement

/-! ## Settlement -/

/-- Leave the live maps: every settle path starts with these. -/
def forgetLive (state : OperatorState) (cohortId : CohortId) : OperatorState :=
  { state with
    advertised := state.advertised.erase cohortId
    advertisedWindows := state.advertisedWindows.erase cohortId
    windowTimers := state.windowTimers.erase cohortId
    intents := state.intents.erase cohortId }

/-- The success callback of a completion. -/
def onCompleted
    (health : LibraryHealth) (state : OperatorState) (cohortId : CohortId) :
    OperatorState :=
  (state.forgetLive cohortId).repairAdvertSlot health cohortId

/-- The terminal record a rejection would file, if the cohort is advertised. -/
def rejectionRecord?
    (state : OperatorState) (cohortId : CohortId) (message : String) :
    Option TerminalRecord :=
  (state.advertised.lookup cohortId).map fun config =>
    terminalRecord config (state.advertisedWindows.lookup cohortId)
      (state.intents.lookup cohortId) message

/-- The rejection callback of a completion, before the slot repair. -/
def fileRejection
    (state : OperatorState) (cohortId : CohortId) (message : String) :
    OperatorState :=
  match state.rejectionRecord? cohortId message with
  | some record => (state.forgetLive cohortId).rememberTerminal cohortId record
  | none => state.forgetLive cohortId

/-- The rejection callback of a completion. -/
def onRejected
    (health : LibraryHealth) (state : OperatorState) (cohortId : CohortId)
    (message : String) : OperatorState :=
  (state.fileRejection cohortId message).repairAdvertSlot health cohortId

/-- Run the callbacks of one settled completion. -/
def settleCompletion
    (health : LibraryHealth) (state : OperatorState) (settlement : Settlement) :
    OperatorState :=
  match settlement.outcome with
  | .ok () => state.onCompleted health settlement.cohortId
  | .error message => state.onRejected health settlement.cohortId message

variable (health : LibraryHealth) (state : OperatorState)

/-- A settlement leaves the live maps, and the runner's session, in one way
whatever its outcome. -/
theorem settleCompletion_eq (settlement : Settlement) :
    ∃ terminal owner stopCurrent slot nextAdvert,
      state.settleCompletion health settlement =
        { state.forgetLive settlement.cohortId with
          terminal := terminal
          advertSlotOwner := owner
          stopCurrent := stopCurrent
          runner :=
            { state.runner with slot := slot, nextAdvert := nextAdvert } } := by
  obtain ⟨cohortId, outcome⟩ := settlement
  cases outcome with
  | ok done =>
      obtain ⟨owner, stopCurrent, slot, nextAdvert, equality⟩ :=
        repairAdvertSlot_eq health (state.forgetLive cohortId) cohortId
      exact ⟨_, owner, stopCurrent, slot, nextAdvert, equality⟩
  | error message =>
      obtain ⟨owner, stopCurrent, slot, nextAdvert, equality⟩ :=
        repairAdvertSlot_eq health (state.fileRejection cohortId message)
          cohortId
      refine
        ⟨(state.fileRejection cohortId message).terminal, owner, stopCurrent,
          slot, nextAdvert, equality.trans ?_⟩
      unfold fileRejection
      split
      · rfl
      · rfl

@[simp]
theorem drafts_settleCompletion (settlement : Settlement) :
    (state.settleCompletion health settlement).drafts = state.drafts := by
  obtain ⟨_, _, _, _, _, equality⟩ :=
    settleCompletion_eq health state settlement
  rw [equality]
  rfl

@[simp]
theorem advertised_settleCompletion (settlement : Settlement) :
    (state.settleCompletion health settlement).advertised =
      state.advertised.erase settlement.cohortId := by
  obtain ⟨_, _, _, _, _, equality⟩ :=
    settleCompletion_eq health state settlement
  rw [equality]
  rfl

@[simp]
theorem windowTimers_settleCompletion (settlement : Settlement) :
    (state.settleCompletion health settlement).windowTimers =
      state.windowTimers.erase settlement.cohortId := by
  obtain ⟨_, _, _, _, _, equality⟩ :=
    settleCompletion_eq health state settlement
  rw [equality]
  rfl

@[simp]
theorem intents_settleCompletion (settlement : Settlement) :
    (state.settleCompletion health settlement).intents =
      state.intents.erase settlement.cohortId := by
  obtain ⟨_, _, _, _, _, equality⟩ :=
    settleCompletion_eq health state settlement
  rw [equality]
  rfl

@[simp]
theorem cohorts_settleCompletion (settlement : Settlement) :
    (state.settleCompletion health settlement).runner.cohorts =
      state.runner.cohorts := by
  obtain ⟨_, _, _, _, _, equality⟩ :=
    settleCompletion_eq health state settlement
  rw [equality]

@[simp]
theorem pending_settleCompletion (settlement : Settlement) :
    (state.settleCompletion health settlement).runner.pending =
      state.runner.pending := by
  obtain ⟨_, _, _, _, _, equality⟩ :=
    settleCompletion_eq health state settlement
  rw [equality]

@[simp]
theorem terminal_settleCompletion_ok (cohortId : CohortId) (done : Unit) :
    (state.settleCompletion health ⟨cohortId, .ok done⟩).terminal =
      state.terminal := by
  simp [settleCompletion, onCompleted, forgetLive]

/-- A rejection of an advertised cohort files its record. -/
theorem terminal_settleCompletion_error
    {cohortId : CohortId} {message : String} {record : TerminalRecord}
    (files : state.rejectionRecord? cohortId message = some record) :
    (state.settleCompletion health ⟨cohortId, .error message⟩).terminal =
      (state.terminal.set cohortId record).evictPast maxTerminal := by
  simp [settleCompletion, onRejected, fileRejection, files, rememberTerminal,
    forgetLive]

theorem terminal_settleCompletion_unfiled
    {cohortId : CohortId} {message : String}
    (unfiled : state.rejectionRecord? cohortId message = none) :
    (state.settleCompletion health ⟨cohortId, .error message⟩).terminal =
      state.terminal := by
  simp [settleCompletion, onRejected, fileRejection, unfiled, forgetLive]

theorem mem_advertised_of_rejectionRecord?
    {cohortId : CohortId} {message : String} {record : TerminalRecord}
    (files : state.rejectionRecord? cohortId message = some record) :
    cohortId ∈ state.advertised := by
  rw [rejectionRecord?, Option.map_eq_some_iff] at files
  obtain ⟨config, found, -⟩ := files
  exact InsertionMap.mem_of_lookup found

theorem notMem_advertised_of_rejectionRecord?
    {cohortId : CohortId} {message : String}
    (unfiled : state.rejectionRecord? cohortId message = none) :
    cohortId ∉ state.advertised := by
  rw [rejectionRecord?, Option.map_eq_none_iff] at unfiled
  exact AList.lookup_eq_none.mp unfiled

end Settlement

end OperatorState

section Drafts

/-! ## Drafts -/

/-- Fill what a creation left out from the service defaults.  The stored
threshold rides only with the stored size. -/
def withServiceDefaults
    (settings : RuntimeSettings) (input : DraftInput) : DraftInput :=
  { input with
    beaconType :=
      input.beaconType.or (some settings.defaultBeaconType.value.name)
    size := input.size.or (some settings.defaultSize.value)
    threshold :=
      input.threshold.or
        (if input.size.isSome then
          none
        else
          some settings.defaultThreshold.value) }

/-- The record a validated draft is stored as. -/
def draftEntry
    (options : OperatorOptions) (settings : RuntimeSettings)
    (draftId : CohortId) (shape : DraftShape) : Except String DraftEntry := do
  let config ←
    buildCohortConfig options.recoveryKeys shape.size shape.beaconType
      options.activeNetwork options.recoveryKey (some shape.threshold)
  let windows : DraftWindows := ⟨shape.windows, settings.currentDefaults⟩
  return {
    config := { config with maxParticipants := some shape.size }
    dto := {
      draftId
      beaconType := shape.beaconType
      network := options.activeNetwork
      threshold := shape.threshold
      capacity := shape.size
      joined := 0
      state := .draft
      reason := none
      discoveryWindowMs := windows.explicit.discoveryWindowMs
      fundingWindowMs := windows.explicit.fundingWindowMs
      defaultDiscoveryWindowMs := windows.defaults.discoveryWindowMs
      defaultFundingWindowMs := windows.defaults.fundingWindowMs }
    windows }

/-- Validate an input and build the entry it would be stored as. -/
def judgeDraft
    (options : OperatorOptions) (settings : RuntimeSettings)
    (draftId : CohortId) (input : DraftInput) : Except String DraftEntry := do
  let shape ←
    validateDraft input options.autoFallbackOnStall options.cohortTtlMs
  draftEntry options settings draftId shape

/-- `createDraft`. -/
def createDraft
    (options : OperatorOptions) (state : OperatorState) (draftId : CohortId)
    (input : DraftInput) : Except String OperatorCohortDTO × OperatorState :=
  match
    judgeDraft options state.settings draftId
      (withServiceDefaults state.settings input) with
  | .error message => (.error message, state)
  | .ok entry =>
      (.ok entry.dto, { state with drafts := state.drafts.set draftId entry })

/-- `updateDraft`: an unknown draft is `none`; an edit takes no defaults. -/
def updateDraft
    (options : OperatorOptions) (state : OperatorState) (draftId : CohortId)
    (input : DraftInput) :
    Except String (Option OperatorCohortDTO) × OperatorState :=
  if draftId ∈ state.drafts then
    match judgeDraft options state.settings draftId input with
    | .error message => (.error message, state)
    | .ok entry =>
        (.ok (some entry.dto),
          { state with drafts := state.drafts.set draftId entry })
  else
    (.ok none, state)

/-- `discardDraft`. -/
def discardDraft (state : OperatorState) (draftId : CohortId) :
    Bool × OperatorState :=
  (draftId ∈ state.drafts,
    { state with drafts := state.drafts.erase draftId })

end Drafts

section Advertising

/-! ## Advertising -/

/-- What an advertise request answers. -/
inductive AdvertiseResult where
  | paused
  | unknown
  | threw
  | advertised (row : OperatorCohortDTO)
  deriving DecidableEq, Repr

/-- The row of a cohort that was just advertised. -/
def advertisedRow
    (options : OperatorOptions) (cohortId : CohortId) (config : CohortConfig) :
    OperatorCohortDTO where
  draftId := cohortId
  beaconType := config.beaconType
  network := options.activeNetwork
  threshold := config.threshold
  capacity := config.capacity
  joined := 0
  state := .advertised
  reason := none
  discoveryWindowMs := none
  fundingWindowMs := none
  defaultDiscoveryWindowMs := none
  defaultFundingWindowMs := none

/-- The row of a draft that was just advertised on. -/
def relistedRow (cohortId : CohortId) (dto : OperatorCohortDTO) :
    OperatorCohortDTO where
  draftId := cohortId
  beaconType := dto.beaconType
  network := dto.network
  threshold := dto.threshold
  capacity := dto.capacity
  joined := 0
  state := .advertised
  reason := none
  discoveryWindowMs := none
  fundingWindowMs := none
  defaultDiscoveryWindowMs := none
  defaultFundingWindowMs := none

/-- What both advertise paths do with the cohort the runner minted. -/
def launch
    (options : OperatorOptions) (state : OperatorState) (cohortId : CohortId)
    (config : CohortConfig) (windows : DraftWindows) : OperatorState :=
  OperatorState.armWindowTimer options
    { state with
      runner := state.runner.advertiseCohort cohortId
      advertised := state.advertised.set cohortId config
      advertisedWindows := state.advertisedWindows.set cohortId windows
      advertSlotOwner := some cohortId }
    cohortId (effectiveWindows windows).discoveryWindowMs

theorem armWindowTimer_eq
    (options : OperatorOptions) (state : OperatorState) (cohortId : CohortId)
    (windowMs : Option Nat) :
    ∃ windowTimers : InsertionMap CohortId Nat,
      (∀ id ∈ windowTimers, id = cohortId ∨ id ∈ state.windowTimers) ∧
        state.armWindowTimer options cohortId windowMs =
          { state with windowTimers := windowTimers } := by
  unfold OperatorState.armWindowTimer
  split
  · exact ⟨state.windowTimers, fun _ armed => Or.inr armed, rfl⟩
  · next delay _ =>
      split
      · exact ⟨state.windowTimers, fun _ armed => Or.inr armed, rfl⟩
      · refine
          ⟨(state.windowTimers.set cohortId delay).evictPast maxTerminal,
            fun id armed => ?_, rfl⟩
        exact InsertionMap.mem_set.mp (InsertionMap.mem_of_mem_evictPast armed)

/-- A launch enters the new cohort everywhere, and touches nothing else. -/
theorem launch_eq
    (options : OperatorOptions) (state : OperatorState) (cohortId : CohortId)
    (config : CohortConfig) (windows : DraftWindows) :
    ∃ windowTimers : InsertionMap CohortId Nat,
      (∀ id ∈ windowTimers, id = cohortId ∨ id ∈ state.windowTimers) ∧
        launch options state cohortId config windows =
          { state with
            runner := state.runner.advertiseCohort cohortId
            advertised := state.advertised.set cohortId config
            advertisedWindows := state.advertisedWindows.set cohortId windows
            advertSlotOwner := some cohortId
            windowTimers := windowTimers } := by
  unfold launch
  obtain ⟨windowTimers, armed, equality⟩ :=
    armWindowTimer_eq options
      { state with
        runner := state.runner.advertiseCohort cohortId
        advertised := state.advertised.set cohortId config
        advertisedWindows := state.advertisedWindows.set cohortId windows
        advertSlotOwner := some cohortId }
      cohortId (effectiveWindows windows).discoveryWindowMs
  exact ⟨windowTimers, armed, equality⟩

/-- `advertiseDraft`. -/
def advertiseDraft
    (options : OperatorOptions) (state : OperatorState) (draftId : CohortId)
    (minted : Option CohortId) : AdvertiseResult × OperatorState :=
  if state.settings.paused then
    (.paused, state)
  else
    match state.drafts.lookup draftId with
    | none => (.unknown, state)
    | some entry =>
        match minted with
        | none => (.threw, state)
        | some cohortId =>
            (.advertised (relistedRow cohortId entry.dto),
              launch options
                { state with drafts := state.drafts.erase draftId } cohortId
                entry.config entry.windows)

/-- `readvertiseExpired`. -/
def readvertiseExpired
    (options : OperatorOptions) (state : OperatorState) (cohortId : CohortId)
    (minted : Option CohortId) : AdvertiseResult × OperatorState :=
  if state.settings.paused then
    (.paused, state)
  else
    match state.terminal.lookup cohortId with
    | none => (.unknown, state)
    | some record =>
        match minted with
        | none => (.threw, state)
        | some newCohortId =>
            (.advertised (advertisedRow options newCohortId record.config),
              launch options
                { state with terminal := state.terminal.erase cohortId }
                newCohortId record.config record.windows)

/-- An advertise request that was not granted. -/
def AdvertiseResult.refused : AdvertiseResult → Bool
  | .advertised _ => false
  | _ => true

/-- An advertise either is refused and changes nothing, or turns the draft into
the cohort the runner minted. -/
theorem advertiseDraft_cases
    (options : OperatorOptions) (state : OperatorState) (draftId : CohortId)
    (minted : Option CohortId) :
    (∃ answer : AdvertiseResult,
      answer.refused ∧
        advertiseDraft options state draftId minted = (answer, state)) ∨
    ∃ entry cohortId,
      state.settings.paused = false ∧
        state.drafts.lookup draftId = some entry ∧
        minted = some cohortId ∧
        advertiseDraft options state draftId minted =
          (.advertised (relistedRow cohortId entry.dto),
            launch options { state with drafts := state.drafts.erase draftId }
              cohortId entry.config entry.windows) := by
  by_cases paused : state.settings.paused = true
  · exact Or.inl ⟨.paused, rfl, by simp [advertiseDraft, paused]⟩
  · cases found : state.drafts.lookup draftId with
    | none => exact Or.inl ⟨.unknown, rfl, by simp [advertiseDraft, paused, found]⟩
    | some entry =>
        cases minted with
        | none =>
            exact Or.inl ⟨.threw, rfl, by simp [advertiseDraft, paused, found]⟩
        | some cohortId =>
            refine
              Or.inr
                ⟨entry, cohortId, Bool.eq_false_iff.mpr paused, rfl, rfl, ?_⟩
            simp [advertiseDraft, paused, found]

/-- A re-advertise either is refused and changes nothing, or turns the terminal
record into the cohort the runner minted. -/
theorem readvertiseExpired_cases
    (options : OperatorOptions) (state : OperatorState) (cohortId : CohortId)
    (minted : Option CohortId) :
    (∃ answer : AdvertiseResult,
      answer.refused ∧
        readvertiseExpired options state cohortId minted = (answer, state)) ∨
    ∃ record newCohortId,
      state.settings.paused = false ∧
        state.terminal.lookup cohortId = some record ∧
        minted = some newCohortId ∧
        readvertiseExpired options state cohortId minted =
          (.advertised (advertisedRow options newCohortId record.config),
            launch options
              { state with terminal := state.terminal.erase cohortId }
              newCohortId record.config record.windows) := by
  by_cases paused : state.settings.paused = true
  · exact Or.inl ⟨.paused, rfl, by simp [readvertiseExpired, paused]⟩
  · cases found : state.terminal.lookup cohortId with
    | none =>
        exact
          Or.inl ⟨.unknown, rfl, by simp [readvertiseExpired, paused, found]⟩
    | some record =>
        cases minted with
        | none =>
            exact
              Or.inl ⟨.threw, rfl, by simp [readvertiseExpired, paused, found]⟩
        | some newCohortId =>
            refine
              Or.inr
                ⟨record, newCohortId, Bool.eq_false_iff.mpr paused, rfl, rfl, ?_⟩
            simp [readvertiseExpired, paused, found]

end Advertising

section Ending

/-! ## Canceling, expiring and forgetting -/

inductive CancelResult where
  | ok
  | unknown
  | threw
  deriving DecidableEq, Repr

/-- `cancelCohort`: declare the intent, disarm the timer, stop the cohort, and
repair the slot.  The cohort leaves `advertised` in its settlement only. -/
def cancelCohort
    (health : LibraryHealth) (state : OperatorState) (cohortId : CohortId) :
    CancelResult × OperatorState :=
  if cohortId ∈ state.advertised then
    let declared :=
      (state.declareIntent cohortId .canceled).clearWindowTimer cohortId
    if health.stops then
      let stopped :=
        { declared with runner := declared.runner.stopCohort cohortId }
      (if stopped.repairThrows health cohortId then .threw else .ok,
        stopped.repairAdvertSlot health cohortId)
    else
      (.threw, declared)
  else
    (.unknown, state)

/-- The callback of a window timer: forget the timer, declare, stop. -/
def windowTimerFires
    (health : LibraryHealth) (state : OperatorState) (cohortId : CohortId) :
    OperatorState :=
  let declared :=
    (state.clearWindowTimer cohortId).declareIntent cohortId .windowExpired
  if health.stops then
    { declared with runner := declared.runner.stopCohort cohortId }
  else
    declared

/-- A cancel leaves the tables alone: its cohort leaves them when it settles. -/
theorem cancelCohort_eq
    (health : LibraryHealth) (state : OperatorState) (cohortId : CohortId) :
    ∃ intents windowTimers owner stopCurrent runner,
      (cancelCohort health state cohortId).2 =
        { state with
          intents := intents
          windowTimers := windowTimers
          advertSlotOwner := owner
          stopCurrent := stopCurrent
          runner := runner } := by
  unfold cancelCohort
  split
  · dsimp only
    split
    · obtain ⟨owner, stopCurrent, slot, nextAdvert, equality⟩ :=
        OperatorState.repairAdvertSlot_eq health _ cohortId
      exact ⟨_, _, owner, stopCurrent, _, equality⟩
    · exact ⟨_, _, _, _, _, rfl⟩
  · exact ⟨_, _, _, _, _, rfl⟩

theorem windowTimerFires_eq
    (health : LibraryHealth) (state : OperatorState) (cohortId : CohortId) :
    ∃ intents windowTimers runner,
      windowTimerFires health state cohortId =
        { state with
          intents := intents
          windowTimers := windowTimers
          runner := runner } := by
  unfold windowTimerFires
  dsimp only
  split
  · exact ⟨_, _, _, rfl⟩
  · exact ⟨_, _, _, rfl⟩

/-- The stop signal takes every timer down and the runner rejects every cohort. -/
def stopService (state : OperatorState) (reason : String) : OperatorState :=
  { state with
    stopAborted := true
    windowTimers := ∅
    runner := state.runner.stop reason }

/-- `forgetTerminal`; `none` where its phase read throws. -/
def forgetTerminal
    (health : LibraryHealth) (state : OperatorState) (cohortId : CohortId) :
    Option Bool × OperatorState :=
  match state.terminal.lookup cohortId with
  | none => (some false, state)
  | some record =>
      if ¬ health.phaseReads then
        (none, state)
      else if
          (state.runner.getCohortPhase cohortId).any fun phase =>
            phase ∈ openPhases ∨ phase ∈ inFlightPhases then
        (some false, state)
      else
        let dismissed :=
          match record.fate with
          | .canceled =>
              (state.dismissedCanceled.set cohortId ()).evictPast
                maxDismissedCanceled
          | .expired => state.dismissedCanceled
        (some true,
          { state with
            dismissedCanceled := dismissed
            terminal := state.terminal.erase cohortId })

/-- The carry once the record of a cohort is dismissed. -/
def carryWith
    (state : OperatorState) (cohortId : CohortId) (record : TerminalRecord) :
    InsertionMap CohortId Unit :=
  match record.fate with
  | .canceled =>
      (state.dismissedCanceled.set cohortId ()).evictPast maxDismissedCanceled
  | .expired => state.dismissedCanceled

/-- A dismissal is refused, or it clears a record. -/
theorem forgetTerminal_cases
    (health : LibraryHealth) (state : OperatorState) (cohortId : CohortId) :
    (∃ answer,
        answer ≠ some true ∧
          forgetTerminal health state cohortId = (answer, state)) ∨
      ∃ record,
        state.terminal.lookup cohortId = some record ∧
          forgetTerminal health state cohortId =
            (some true,
              { state with
                dismissedCanceled := carryWith state cohortId record
                terminal := state.terminal.erase cohortId }) := by
  unfold forgetTerminal
  cases found : state.terminal.lookup cohortId with
  | none => exact Or.inl ⟨some false, nofun, rfl⟩
  | some record =>
      dsimp only
      split
      · exact Or.inl ⟨none, nofun, rfl⟩
      · split
        · exact Or.inl ⟨some false, nofun, rfl⟩
        · exact Or.inr ⟨record, rfl, rfl⟩

/-- The record of a cohort that left the session is dismissed. -/
theorem forgetTerminal_of_retained
    {health : LibraryHealth} {state : OperatorState} {cohortId : CohortId}
    {record : TerminalRecord} (reads : health.phaseReads = true)
    (gone : cohortId ∉ state.runner.cohorts)
    (found : state.terminal.lookup cohortId = some record) :
    forgetTerminal health state cohortId =
      (some true,
        { state with
          dismissedCanceled := carryWith state cohortId record
          terminal := state.terminal.erase cohortId }) := by
  have phase : state.runner.getCohortPhase cohortId = none := by
    rw [Runner.getCohortPhase, AList.lookup_eq_none.mpr gone]
    rfl
  simp only [forgetTerminal, found, reads, phase, not_true_eq_false, if_false,
    Option.any_none, Bool.false_eq_true]
  rfl

end Ending

section Reads

/-! ## Reads -/

/-- The row of one cohort of the session, if it is enriched and in a display
phase. -/
def directoryRow?
    (options : OperatorOptions) (state : OperatorState)
    (entry : Sigma fun _ : CohortId => SessionCohort) :
    Option DirectoryCohortDTO :=
  match state.advertised.lookup entry.1 with
  | none => none
  | some config =>
      if entry.2.phase ∈ displayPhases then
        some {
          cohortId := entry.1
          beaconType := config.beaconType
          network := options.activeNetwork
          threshold := config.threshold
          capacity := config.capacity
          joined := entry.2.joined
          phase := entry.2.phase }
      else
        none

/-- The public directory, in the session's order. -/
def directory (options : OperatorOptions) (state : OperatorState) :
    List DirectoryCohortDTO :=
  state.runner.cohorts.entries.reverse.filterMap (directoryRow? options state)

/-- The open count narrows the directory to the joinable phases. -/
def openCount (options : OperatorOptions) (state : OperatorState) : Nat :=
  ((directory options state).filter fun row => row.phase ∈ openPhases).length

def CohortFate.rowState : CohortFate → CohortRowState
  | .expired => .expired
  | .canceled => .canceled

/-- The operator's list: drafts, then live cohorts, then terminal records. -/
def listCohorts (options : OperatorOptions) (state : OperatorState) :
    List OperatorCohortDTO :=
  state.drafts.entries.reverse.map (fun entry => entry.2.dto) ++
  (directory options state).map (fun entry => {
    draftId := entry.cohortId
    beaconType := entry.beaconType
    network := entry.network
    threshold := entry.threshold
    capacity := entry.capacity
    joined := entry.joined
    state := .advertised
    reason := none
    discoveryWindowMs := none
    fundingWindowMs := none
    defaultDiscoveryWindowMs := none
    defaultFundingWindowMs := none }) ++
  state.terminal.entries.reverse.map (fun entry => {
    draftId := entry.1
    beaconType := entry.2.config.beaconType
    network := options.activeNetwork
    threshold := entry.2.config.threshold
    capacity := entry.2.config.capacity
    joined := 0
    state := entry.2.fate.rowState
    reason := some entry.2.reason
    discoveryWindowMs := none
    fundingWindowMs := none
    defaultDiscoveryWindowMs := none
    defaultFundingWindowMs := none })

/-- `cohortFate`: the one bit of a cancel anyone can read. -/
def cohortFate (state : OperatorState) (cohortId : CohortId) : Bool :=
  (state.terminal.lookup cohortId).any (fun record => record.fate = .canceled) ||
    (cohortId ∈ state.dismissedCanceled : Bool)

end Reads

end Btcr2Aggregation
