import Btcr2Aggregation.Library.Machine
import Btcr2Aggregation.Service.CohortTables

/-!
# The pollers and the side tables over whole runs

A broadcasting service polls the chain for a cohort in two places: the display
watch, started at `keygen-complete` and stopped through its handle in
`fundingWatches`, and the authoritative wait inside `onProvideTxData`, stopped
by the service alone.  `releaseCohortTables` is reached by `signing-complete`,
by a cancel, and by `cohort-failed` when the handle is still in the table; a
window expiry reaches no listener.

What is added to the closure state is which loops run and how each cohort left
the runner.
-/

namespace Btcr2Aggregation

section System

/-! ## Events and runs -/

/-- How a cohort left the runner's live set; a lapsed TTL is a failure. -/
inductive SettlePath where
  | completed
  | failed
  | canceled
  | expired
  deriving DecidableEq, Repr

/-- A running display watch, with the last state it could classify. -/
structure WatchLoop where
  cohortId : CohortId
  handle : FundingWatchHandle
  lastState : FundingStateName
  deriving DecidableEq

/-- What can happen around the side tables.  A poll whose answer a stop
overtakes reports nothing and is no event. -/
inductive SideEvent where
  | clock (now : Nat)
  | disableBroadcast
  | cohortAdvertised (cohortId : CohortId) (fundingWindowMs : Option Nat)
  | keygenComplete (cohortId : CohortId) (beaconAddress : String)
  | provideTxData (cohortId : CohortId)
  | watchPolls (cohortId : CohortId) (read : Option FundingStateName)
  | waitEnds (cohortId : CohortId)
  | signingComplete (cohortId : CohortId) (scriptPath : Bool)
  | cohortFailed (cohortId : CohortId) (reason : String)
  | canceled (cohortId : CohortId)
  | windowExpired (cohortId : CohortId)
  | stop
  deriving DecidableEq

/-- The closure state, the loops that run, and the history of the cohorts. -/
structure SideRun where
  service : ServiceState
  now : Nat
  advertised : List CohortId
  live : List CohortId
  keygenDone : List CohortId
  settled : InsertionMap CohortId SettlePath
  loops : List WatchLoop
  waits : List CohortId
  stopped : Bool

namespace SideRun

def booted : SideRun where
  service := .booted
  now := 0
  advertised := []
  live := []
  keygenDone := []
  settled := ∅
  loops := []
  waits := []
  stopped := false

/-- A display watch of the cohort is running. -/
def Watches (run : SideRun) (cohortId : CohortId) : Prop :=
  cohortId ∈ run.loops.map WatchLoop.cohortId

instance (run : SideRun) (cohortId : CohortId) :
    Decidable (run.Watches cohortId) :=
  inferInstanceAs (Decidable (_ ∈ _))

/-- A cohort leaves the runner. -/
def settle (run : SideRun) (cohortId : CohortId) (path : SettlePath) : SideRun :=
  { run with
    live := run.live.filter (· ≠ cohortId)
    settled := run.settled.insert cohortId path }

/-- The loops left after the display watch of one cohort ends. -/
def otherLoops (run : SideRun) (cohortId : CohortId) : List WatchLoop :=
  run.loops.filter fun loop => loop.cohortId ≠ cohortId

/-- `releaseCohortTables`: stop the watch whose handle the table holds, and
delete the four entries. -/
def release (run : SideRun) (cohortId : CohortId) : SideRun :=
  { run with
    service := releaseCohortTables run.service cohortId
    loops :=
      if cohortId ∈ run.service.fundingWatches then
        run.otherLoops cohortId
      else
        run.loops }

/-- The `cohort-failed` listener: nothing without the broadcast leg, and
nothing for a cohort whose handle the table no longer holds. -/
def failureListener
    (options : ServiceOptions) (run : SideRun) (cohortId : CohortId) : SideRun :=
  if options.broadcast ∧ cohortId ∈ run.service.fundingWatches then
    run.release cohortId
  else
    run

/-- The `keygen-complete` listener starts one watch. -/
def startWatch
    (options : ServiceOptions) (run : SideRun) (cohortId : CohortId)
    (beaconAddress : String) : SideRun :=
  let service :=
    onKeygenComplete options run.service run.now cohortId beaconAddress
  let started :=
    if cohortId ∈ run.service.fundingWatches then
      none
    else
      service.fundingWatches.lookup cohortId
  { run with
    service
    keygenDone := cohortId :: run.keygenDone
    loops :=
      match started with
      | some handle =>
          { cohortId, handle, lastState := .waiting } :: run.loops
      | none => run.loops }

/-- A poll of one watch: a failed read repeats the last state, and a funded
one ends the loop. -/
def watchPoll
    (run : SideRun) (loop : WatchLoop) (read : Option FundingStateName) :
    SideRun :=
  let lastState := read.getD loop.lastState
  { run with
    service :=
      onFundingState run.service loop.cohortId loop.handle lastState
        read.isSome
    loops :=
      if lastState = .funded then
        run.otherLoops loop.cohortId
      else
        { loop with lastState } :: run.otherLoops loop.cohortId }

/-- The running watch of a cohort. -/
def loopOf? (run : SideRun) (cohortId : CohortId) : Option WatchLoop :=
  run.loops.find? fun loop => loop.cohortId = cohortId

/-- `service.stop()`: every handle in the table is stopped, every wait is
aborted, and the runner lets its cohorts go. -/
def stop (run : SideRun) : SideRun :=
  { run with
    live := []
    loops :=
      run.loops.filter fun loop => loop.cohortId ∉ run.service.fundingWatches
    waits := []
    stopped := true }

def step (options : ServiceOptions) (run : SideRun) : SideEvent → SideRun
  | .clock now => { run with now }
  | .disableBroadcast =>
      { run with
        service :=
          { run.service with
            killSwitch := run.service.killSwitch.disableBroadcast run.now } }
  | .cohortAdvertised cohortId fundingWindowMs =>
      { run with
        service :=
          onAdvertised (onCohortAdvertised run.service run.now cohortId)
            cohortId fundingWindowMs
        advertised := cohortId :: run.advertised
        live := cohortId :: run.live }
  | .keygenComplete cohortId beaconAddress =>
      run.startWatch options cohortId beaconAddress
  | .provideTxData cohortId =>
      -- the live builder waits only when a funding window is set
      if onProvideTxData options run.service cohortId = .live ∧
          (fundingWindowFor options run.service cohortId).isSome then
        { run with waits := cohortId :: run.waits }
      else
        run
  | .watchPolls cohortId read =>
      match run.loopOf? cohortId with
      | some loop => run.watchPoll loop read
      | none => run
  | .waitEnds cohortId => { run with waits := run.waits.erase cohortId }
  | .signingComplete cohortId _ =>
      (run.release cohortId).settle cohortId .completed
  | .cohortFailed cohortId _ =>
      (run.failureListener options cohortId).settle cohortId .failed
  | .canceled cohortId => (run.release cohortId).settle cohortId .canceled
  | .windowExpired cohortId => run.settle cohortId .expired
  | .stop => run.stop

end SideRun

namespace SideEvent

/-- The cohort an event reports on, when the runner must hold it live. -/
def subject? : SideEvent → Option CohortId
  | .keygenComplete cohortId _ => some cohortId
  | .provideTxData cohortId => some cohortId
  | .signingComplete cohortId _ => some cohortId
  | .cohortFailed cohortId _ => some cohortId
  | .canceled cohortId => some cohortId
  | .windowExpired cohortId => some cohortId
  | _ => none

/-- The cohort an event settles. -/
def settles? : SideEvent → Option CohortId
  | .signingComplete cohortId _ => some cohortId
  | .cohortFailed cohortId _ => some cohortId
  | .canceled cohortId => some cohortId
  | .windowExpired cohortId => some cohortId
  | _ => none

end SideEvent

namespace SideRun

/-- What the library and the loops offer: an id is minted fresh while the
service runs, keygen completes once, every other event of a cohort needs it
live, and only a running loop polls or ends. -/
def Offered (run : SideRun) (event : SideEvent) : Prop :=
  (∀ cohortId ∈ event.subject?, cohortId ∈ run.live) ∧
    match event with
    | .cohortAdvertised cohortId _ =>
        cohortId ∉ run.advertised ∧ run.stopped = false
    | .keygenComplete cohortId _ => cohortId ∉ run.keygenDone
    | .watchPolls cohortId _ => run.Watches cohortId
    | .waitEnds cohortId => cohortId ∈ run.waits
    | _ => True

instance (run : SideRun) (event : SideEvent) : Decidable (run.Offered event) := by
  unfold Offered
  cases event <;> exact inferInstanceAs (Decidable (_ ∧ _))

end SideRun

def sideMachine (options : ServiceOptions) : Machine SideRun SideEvent where
  init := .booted
  step := SideRun.step options
  admits := SideRun.Offered

end System

section Law

/-! ## The law -/

/-- The cohort has an entry in one of the four tables. -/
def ServiceState.Holds (service : ServiceState) (cohortId : CohortId) : Prop :=
  cohortId ∈ service.advertisedAt ∨ cohortId ∈ service.fundingWatches ∨
    cohortId ∈ service.lastFundingView ∨
      cohortId ∈ service.cohortFundingWindows

instance (service : ServiceState) (cohortId : CohortId) :
    Decidable (service.Holds cohortId) :=
  inferInstanceAs (Decidable (_ ∨ _))

/-- A loop that polls the chain for the cohort is running. -/
def SideRun.Polls (run : SideRun) (cohortId : CohortId) : Prop :=
  run.Watches cohortId ∨ cohortId ∈ run.waits

instance (run : SideRun) (cohortId : CohortId) :
    Decidable (run.Polls cohortId) :=
  inferInstanceAs (Decidable (_ ∨ _))

structure SettledReleased (run : SideRun) : Prop where
  /-- A settled cohort has left the four tables. -/
  tables : ∀ cohortId ∈ run.settled, ¬ run.service.Holds cohortId
  /-- Nothing polls for a settled cohort. -/
  quiet : ∀ cohortId ∈ run.settled, ¬ run.Polls cohortId
  /-- A running display watch can be stopped. -/
  handled :
    ∀ cohortId, run.Watches cohortId → cohortId ∈ run.service.fundingWatches
  /-- Nothing polls after `service.stop()`. -/
  stopped : run.stopped = true → ∀ cohortId, ¬ run.Polls cohortId

/-- The steps that leave nothing behind.  A cohort settles with no wait of its
own running, and a settle no listener hears finds no entry; a watch that starts
with the table full pushes out no handle of a running one. -/
def LeavesNothing
    (options : ServiceOptions) (run : SideRun) : SideEvent → Prop
  | .keygenComplete cohortId _ =>
      consult options.broadcast run.service cohortId = .live →
        cohortId ∉ run.service.fundingWatches →
          run.service.fundingWatches.size = maxPerCohortEntries →
            ∀ oldest ∈ run.service.fundingWatches.oldest?,
              ¬ run.Watches oldest
  | .signingComplete cohortId _ => cohortId ∉ run.waits
  | .canceled cohortId => cohortId ∉ run.waits
  | .cohortFailed cohortId _ =>
      cohortId ∉ run.waits ∧
        (options.broadcast ∧ cohortId ∈ run.service.fundingWatches ∨
          ¬ run.service.Holds cohortId)
  | .windowExpired cohortId =>
      cohortId ∉ run.waits ∧ ¬ run.service.Holds cohortId
  | _ => True

instance (options : ServiceOptions) (run : SideRun) (event : SideEvent) :
    Decidable (LeavesNothing options run event) := by
  cases event with
  | keygenComplete _ _ => exact inferInstanceAs (Decidable (_ → _ → _ → ∀ _ ∈ _, _))
  | signingComplete _ _ => exact inferInstanceAs (Decidable (_ ∉ _))
  | canceled _ => exact inferInstanceAs (Decidable (_ ∉ _))
  | cohortFailed _ _ => exact inferInstanceAs (Decidable (_ ∧ (_ ∨ _)))
  | windowExpired _ => exact inferInstanceAs (Decidable (_ ∧ _))
  | _ => exact isTrue trivial

end Law

section Tables

/-! ## Who is in the tables after a listener -/

namespace ServiceState

variable {service : ServiceState} {cohortId other : CohortId}

theorem Holds.of_cohortAdvertised {now : Nat} {fundingWindowMs : Option Nat}
    (holds :
      (onAdvertised (onCohortAdvertised service now cohortId) cohortId
        fundingWindowMs).Holds other) :
    other = cohortId ∨ service.Holds other := by
  have stamped :
      other ∈ (onCohortAdvertised service now cohortId).advertisedAt →
        other = cohortId ∨ other ∈ service.advertisedAt := by
    unfold onCohortAdvertised
    split
    · exact Or.inr
    · exact InsertionMap.mem_of_mem_remember
  have frame :
      (onCohortAdvertised service now cohortId).lastFundingView =
          service.lastFundingView ∧
        (onCohortAdvertised service now cohortId).cohortFundingWindows =
          service.cohortFundingWindows := by
    unfold onCohortAdvertised
    split <;> exact ⟨rfl, rfl⟩
  obtain ⟨sameViews, sameWindows⟩ := frame
  have views :
      (onAdvertised (onCohortAdvertised service now cohortId) cohortId
          fundingWindowMs).lastFundingView =
        service.lastFundingView := by
    cases fundingWindowMs <;> exact sameViews
  have windows :
      other ∈
          (onAdvertised (onCohortAdvertised service now cohortId) cohortId
            fundingWindowMs).cohortFundingWindows →
        other = cohortId ∨ other ∈ service.cohortFundingWindows := by
    cases fundingWindowMs with
    | none =>
        intro member
        rw [onAdvertised, sameWindows] at member
        exact Or.inr member
    | some ms =>
        intro member
        have written := InsertionMap.mem_of_mem_remember member
        rw [sameWindows] at written
        exact written
  rcases holds with inStamps | inWatches | inViews | inWindows
  · rw [advertisedAt_onAdvertised] at inStamps
    exact (stamped inStamps).imp_right Or.inl
  · rw [fundingWatches_onAdvertised, fundingWatches_onCohortAdvertised]
      at inWatches
    exact Or.inr (Or.inr (Or.inl inWatches))
  · rw [views] at inViews
    exact Or.inr (Or.inr (Or.inr (Or.inl inViews)))
  · exact (windows inWindows).imp_right fun member =>
      Or.inr (Or.inr (Or.inr member))

theorem Holds.of_keygenComplete
    {options : ServiceOptions} {now : Nat} {beaconAddress : String}
    (holds :
      (onKeygenComplete options service now cohortId beaconAddress).Holds
        other) :
    other = cohortId ∨ service.Holds other := by
  unfold onKeygenComplete at holds
  split at holds
  · split at holds
    · exact Or.inr holds
    · rcases holds with inStamps | inWatches | rest
      · exact Or.inr (Or.inl inStamps)
      · exact (InsertionMap.mem_of_mem_remember inWatches).imp_right fun member =>
          Or.inr (Or.inl member)
      · exact Or.inr (Or.inr (Or.inr rest))
  · exact Or.inr holds

theorem Holds.of_fundingState
    {handle : FundingWatchHandle} {funding : FundingStateName}
    {lastObservationOk : Bool}
    (holds :
      (onFundingState service cohortId handle funding lastObservationOk).Holds
        other) :
    other = cohortId ∨ service.Holds other := by
  rcases holds with inStamps | inWatches | inViews | inWindows
  · exact Or.inr (Or.inl inStamps)
  · exact Or.inr (Or.inr (Or.inl inWatches))
  · exact (InsertionMap.mem_of_mem_remember inViews).imp_right fun member =>
      Or.inr (Or.inr (Or.inl member))
  · exact Or.inr (Or.inr (Or.inr (Or.inr inWindows)))

/-- A release deletes all four entries of its cohort, and adds none. -/
theorem Holds.of_release
    (holds : (releaseCohortTables service cohortId).Holds other) :
    other ≠ cohortId ∧ service.Holds other := by
  rcases holds with inStamps | inWatches | inViews | inWindows
  · have erased := AList.mem_erase.mp inStamps
    exact ⟨erased.1, Or.inl erased.2⟩
  · have erased := AList.mem_erase.mp inWatches
    exact ⟨erased.1, Or.inr (Or.inl erased.2)⟩
  · have erased := AList.mem_erase.mp inViews
    exact ⟨erased.1, Or.inr (Or.inr (Or.inl erased.2))⟩
  · have erased := AList.mem_erase.mp inWindows
    exact ⟨erased.1, Or.inr (Or.inr (Or.inr erased.2))⟩

end ServiceState

end Tables

section Fates

/-! ## Who is live and who has settled after an event -/

namespace SideRun

variable
  (options : ServiceOptions) (run : SideRun)

/-- A failure settles its cohort, whatever the listener stamps. -/
theorem settled_cohortFailed (settled : CohortId) (reason : String) :
    (run.step options (.cohortFailed settled reason)).settled =
      run.settled.insert settled .failed := by
  unfold step failureListener
  dsimp only
  split
  · rfl
  · rfl

/-- The fate table after an event. -/
theorem settled_step
    (event : SideEvent)
    (cohortId : CohortId) :
    cohortId ∈ (run.step options event).settled ↔
      event.settles? = some cohortId ∨ cohortId ∈ run.settled := by
  have inserted (settled : CohortId) (path : SettlePath) :
      cohortId ∈ run.settled.insert settled path ↔
        some settled = some cohortId ∨ cohortId ∈ run.settled := by
    rw [AList.mem_insert, Option.some.injEq, eq_comm]
  cases event with
  | signingComplete settled scriptPath => exact inserted settled .completed
  | cohortFailed settled reason =>
      rw [settled_cohortFailed]
      exact inserted settled .failed
  | canceled settled => exact inserted settled .canceled
  | windowExpired settled => exact inserted settled .expired
  | provideTxData cohortId =>
      unfold step
      dsimp only
      split <;> simp [SideEvent.settles?]
  | watchPolls cohortId read =>
      unfold step
      dsimp only
      split <;> simp [SideEvent.settles?, watchPoll]
  | keygenComplete cohortId beaconAddress =>
      simp [SideEvent.settles?, step, startWatch]
  | _ => simp [SideEvent.settles?, step, SideRun.stop]

/-- Only `service.stop()` stops the service. -/
theorem stopped_step
    (event : SideEvent) :
    (run.step options event).stopped = (run.stopped || event = .stop) := by
  cases event with
  | stop => simp [step, SideRun.stop]
  | cohortFailed settled reason =>
      unfold step failureListener
      dsimp only
      split <;> simp [settle, release]
  | provideTxData cohortId =>
      unfold step
      dsimp only
      split <;> simp
  | watchPolls cohortId read =>
      unfold step
      dsimp only
      split <;> simp [watchPoll]
  | _ => simp [step, settle, release, startWatch]

variable {options run} {event : SideEvent} {cohortId : CohortId}

/-- A cohort that does not settle keeps its fate. -/
theorem lookup_settled_step
    (other : event.settles? ≠ some cohortId) :
    (run.step options event).settled.lookup cohortId =
      run.settled.lookup cohortId := by
  have inserted (settled : CohortId) (path : SettlePath)
      (different : some settled ≠ some cohortId) :
      (run.settled.insert settled path).lookup cohortId =
        run.settled.lookup cohortId :=
    AList.lookup_insert_ne fun same => different (congrArg some same.symm)
  cases event with
  | signingComplete settled scriptPath =>
      exact inserted settled .completed other
  | cohortFailed settled reason =>
      rw [settled_cohortFailed]
      exact inserted settled .failed other
  | canceled settled => exact inserted settled .canceled other
  | windowExpired settled => exact inserted settled .expired other
  | provideTxData cohortId =>
      unfold step
      dsimp only
      split <;> rfl
  | watchPolls cohortId read =>
      unfold step
      dsimp only
      split <;> rfl
  | _ => rfl

/-- Who is live after an event of a service that goes on. -/
theorem mem_live_step (goesOn : event ≠ .stop) :
    cohortId ∈ (run.step options event).live ↔
      (∃ fundingWindowMs,
          event = .cohortAdvertised cohortId fundingWindowMs) ∨
        cohortId ∈ run.live ∧ event.settles? ≠ some cohortId := by
  have filtered (settled : CohortId) :
      cohortId ∈ run.live.filter (· ≠ settled) ↔
        cohortId ∈ run.live ∧ some settled ≠ some cohortId := by
    rw [List.mem_filter, decide_eq_true_iff, ne_eq, ne_eq,
      Option.some.injEq, eq_comm]
  cases event with
  | signingComplete settled scriptPath =>
      simp only [reduceCtorEq, exists_false, false_or]
      exact filtered settled
  | cohortFailed settled reason =>
      have same :
          (run.step options (.cohortFailed settled reason)).live =
            run.live.filter (· ≠ settled) := by
        unfold step failureListener
        dsimp only
        split <;> rfl
      simp only [reduceCtorEq, exists_false, false_or]
      rw [same]
      exact filtered settled
  | canceled settled =>
      simp only [reduceCtorEq, exists_false, false_or]
      exact filtered settled
  | windowExpired settled =>
      simp only [reduceCtorEq, exists_false, false_or]
      exact filtered settled
  | cohortAdvertised advertised fundingWindowMs =>
      simp [step, SideEvent.settles?, eq_comm]
  | provideTxData provided =>
      unfold step
      dsimp only
      split <;> simp [SideEvent.settles?]
  | watchPolls polled read =>
      unfold step
      dsimp only
      split <;> simp [SideEvent.settles?, watchPoll]
  | stop => exact absurd rfl goesOn
  | _ => simp [step, SideEvent.settles?, startWatch]

/-- Adverts are never forgotten. -/
theorem mem_advertised_step :
    cohortId ∈ (run.step options event).advertised ↔
      (∃ fundingWindowMs,
          event = .cohortAdvertised cohortId fundingWindowMs) ∨
        cohortId ∈ run.advertised := by
  cases event with
  | cohortAdvertised advertised fundingWindowMs => simp [step, eq_comm]
  | cohortFailed settled reason =>
      unfold step failureListener
      dsimp only
      split <;> simp [settle, release]
  | provideTxData provided =>
      unfold step
      dsimp only
      split <;> simp
  | watchPolls polled read =>
      unfold step
      dsimp only
      split <;> simp [watchPoll]
  | _ => simp [step, startWatch, settle, release, SideRun.stop]

/-- An id is live, or has settled, or neither; and it was advertised once. -/
structure Fated (run : SideRun) : Prop where
  liveAdvertised : ∀ cohortId ∈ run.live, cohortId ∈ run.advertised
  settledAdvertised : ∀ cohortId ∈ run.settled, cohortId ∈ run.advertised
  apart : ∀ cohortId ∈ run.live, cohortId ∉ run.settled

theorem fated_booted : booted.Fated where
  liveAdvertised := by
    intro cohortId member
    cases member
  settledAdvertised := by
    intro cohortId member
    cases member
  apart := by
    intro cohortId member
    cases member

theorem mem_live_of_settles
    (offered : run.Offered event) (settles : event.settles? = some cohortId) :
    cohortId ∈ run.live := by
  apply offered.1
  cases event with
  | signingComplete settled scriptPath => exact settles
  | cohortFailed settled reason => exact settles
  | canceled settled => exact settles
  | windowExpired settled => exact settles
  | _ => cases settles

/-- A fate is decided once. -/
theorem Fated.keepsFate
    (fated : run.Fated) (offered : run.Offered event) {path : SettlePath}
    (fate : run.settled.lookup cohortId = some path) :
    (run.step options event).settled.lookup cohortId = some path := by
  rw [lookup_settled_step]
  · exact fate
  · intro settles
    have isSettled : cohortId ∈ run.settled := by
      rw [← AList.lookup_isSome, fate]
      rfl
    exact
      fated.apart cohortId (mem_live_of_settles offered settles) isSettled

theorem Fated.step
    (fated : run.Fated) (offered : run.Offered event) (goesOn : event ≠ .stop) :
    (run.step options event).Fated := by
  have settlesLive (cohortId : CohortId)
      (settles : event.settles? = some cohortId) : cohortId ∈ run.live :=
    mem_live_of_settles offered settles
  obtain ⟨subject, fresh⟩ := offered
  refine ⟨?_, ?_, ?_⟩
  · intro cohortId isLive
    rw [mem_advertised_step]
    rcases (mem_live_step goesOn).mp isLive with advertised | ⟨before, -⟩
    · exact Or.inl advertised
    · exact Or.inr (fated.liveAdvertised cohortId before)
  · intro cohortId isSettled
    rw [mem_advertised_step]
    rcases (run.settled_step options event cohortId).mp isSettled with
      settles | before
    · exact Or.inr
        (fated.liveAdvertised cohortId (settlesLive cohortId settles))
    · exact Or.inr (fated.settledAdvertised cohortId before)
  · intro cohortId isLive isSettled
    rcases (run.settled_step options event cohortId).mp isSettled with
      settles | before
    · rcases (mem_live_step goesOn).mp isLive with ⟨window, rfl⟩ | ⟨-, stays⟩
      · cases settles
      · exact stays settles
    · rcases (mem_live_step goesOn).mp isLive with ⟨window, rfl⟩ | ⟨wasLive, -⟩
      · exact fresh.1 (fated.settledAdvertised cohortId before)
      · exact fated.apart cohortId wasLive before

end SideRun

end Fates

section Loops

/-! ## Which loops run after a listener -/

namespace SideRun

variable
  {options : ServiceOptions} {run : SideRun} {cohortId other : CohortId}

theorem watches_iff :
    run.Watches cohortId ↔
      ∃ loop ∈ run.loops, loop.cohortId = cohortId :=
  List.mem_map

theorem mem_otherLoops
    {loop : WatchLoop} (member : loop ∈ run.otherLoops cohortId) :
    loop ∈ run.loops ∧ loop.cohortId ≠ cohortId := by
  obtain ⟨before, different⟩ := List.mem_filter.mp member
  exact ⟨before, of_decide_eq_true different⟩

/-- A release stops the watch the table has a handle of. -/
theorem Watches.of_release
    (watches : (run.release cohortId).Watches other) :
    run.Watches other ∧
      (cohortId ∈ run.service.fundingWatches → other ≠ cohortId) := by
  obtain ⟨loop, member, rfl⟩ := watches_iff.mp watches
  unfold release at member
  dsimp only at member
  split at member
  · obtain ⟨before, different⟩ := mem_otherLoops member
    exact ⟨watches_iff.mpr ⟨loop, before, rfl⟩, fun _ => different⟩
  · next unheld =>
      exact
        ⟨watches_iff.mpr ⟨loop, member, rfl⟩, fun held => absurd held unheld⟩

theorem mem_of_loopOf?
    {loop : WatchLoop} (found : run.loopOf? cohortId = some loop) :
    loop ∈ run.loops ∧ loop.cohortId = cohortId := by
  have same := List.find?_some found
  exact ⟨List.mem_of_find?_eq_some found, of_decide_eq_true same⟩

theorem Watches.of_watchPoll
    {loop : WatchLoop} {read : Option FundingStateName}
    (running : loop ∈ run.loops)
    (watches : (run.watchPoll loop read).Watches other) :
    run.Watches other := by
  obtain ⟨after, member, rfl⟩ := watches_iff.mp watches
  unfold watchPoll at member
  dsimp only at member
  split at member
  · exact watches_iff.mpr ⟨after, (mem_otherLoops member).1, rfl⟩
  · rcases List.mem_cons.mp member with rfl | kept
    · exact watches_iff.mpr ⟨loop, running, rfl⟩
    · exact watches_iff.mpr ⟨after, (mem_otherLoops kept).1, rfl⟩

/-- A watch starts with its handle in the table. -/
theorem Watches.of_startWatch
    {beaconAddress : String}
    (watches : (run.startWatch options cohortId beaconAddress).Watches other) :
    run.Watches other ∨
      other = cohortId ∧
        cohortId ∈
          (run.startWatch options cohortId
            beaconAddress).service.fundingWatches := by
  obtain ⟨loop, member, rfl⟩ := watches_iff.mp watches
  unfold startWatch at member ⊢
  dsimp only at member ⊢
  split at member
  · next handle found =>
      rcases List.mem_cons.mp member with rfl | before
      · split at found
        · cases found
        · exact Or.inr ⟨rfl, InsertionMap.mem_of_lookup found⟩
      · exact Or.inl (watches_iff.mpr ⟨loop, before, rfl⟩)
  · exact Or.inl (watches_iff.mpr ⟨loop, member, rfl⟩)

/-- Starting a watch under the condition keeps the handle of every running
one. -/
theorem handled_startWatch
    {beaconAddress : String}
    (within : run.service.fundingWatches.size ≤ maxPerCohortEntries)
    (leaves :
      LeavesNothing options run (.keygenComplete cohortId beaconAddress))
    (watches : run.Watches other)
    (held : other ∈ run.service.fundingWatches) :
    other ∈
      (run.startWatch options cohortId beaconAddress).service.fundingWatches := by
  unfold startWatch onKeygenComplete
  dsimp only
  split
  · next live =>
      split
      · exact held
      · next unheld =>
          have different : other ≠ cohortId := by
            rintro rfl
            exact unheld held
          have kept :
              run.service.fundingWatches.size < maxPerCohortEntries ∨
                run.service.fundingWatches.oldest? ≠ some other := by
            by_cases room :
                run.service.fundingWatches.size < maxPerCohortEntries
            · exact Or.inl room
            · refine Or.inr fun oldest => ?_
              exact leaves live unheld (by omega) other oldest watches
          rw [← AList.lookup_isSome] at held ⊢
          rw [rememberBounded,
            InsertionMap.lookup_remember_of_ne _ unheld within different kept]
          exact held
  · exact held

end SideRun

end Loops

section Invariant

/-! ## What one step keeps -/

namespace SideRun

/-- What one step of a run that leaves nothing behind preserves. -/
structure Released (run : SideRun) : Prop where
  within : run.service.fundingWatches.size ≤ maxPerCohortEntries
  liveAdvertised : ∀ cohortId ∈ run.live, cohortId ∈ run.advertised
  settledAdvertised : ∀ cohortId ∈ run.settled, cohortId ∈ run.advertised
  apart : ∀ cohortId ∈ run.live, cohortId ∉ run.settled
  noneLive : run.stopped = true → run.live = []
  law : SettledReleased run

variable
  {options : ServiceOptions} {run after : SideRun} {cohortId : CohortId}

theorem released_booted : Released booted where
  within := Nat.zero_le _
  liveAdvertised := by
    intro cohortId member
    cases member
  settledAdvertised := by
    intro cohortId member
    cases member
  apart := by
    intro cohortId member
    cases member
  noneLive := by
    intro stopped
    rfl
  law :=
    { tables := by
        intro cohortId member
        cases member
      quiet := by
        intro cohortId member
        cases member
      handled := by
        intro cohortId watches
        cases watches
      stopped := by
        intro stopped
        cases stopped }

/-- What a step that settles no cohort and mints none has to show: a new entry
and a new loop belong to a cohort still live. -/
theorem Released.frame
    (released : Released run)
    (advertised : after.advertised = run.advertised)
    (live : after.live = run.live)
    (settled : after.settled = run.settled)
    (stopped : after.stopped = run.stopped)
    (within : after.service.fundingWatches.size ≤ maxPerCohortEntries)
    (holds :
      ∀ other,
        after.service.Holds other →
          run.service.Holds other ∨ other ∈ run.live ∨ run.Watches other)
    (polls :
      ∀ other, after.Polls other → run.Polls other ∨ other ∈ run.live)
    (handled :
      ∀ other, after.Watches other → other ∈ after.service.fundingWatches) :
    Released after where
  within := within
  liveAdvertised := by
    rw [live, advertised]
    exact released.liveAdvertised
  settledAdvertised := by
    rw [settled, advertised]
    exact released.settledAdvertised
  apart := by
    rw [live, settled]
    exact released.apart
  noneLive := by
    rw [stopped, live]
    exact released.noneLive
  law :=
    { tables := by
        intro other member held
        rw [settled] at member
        rcases holds other held with before | isLive | watches
        · exact released.law.tables other member before
        · exact released.apart other isLive member
        · exact released.law.quiet other member (Or.inl watches)
      quiet := by
        intro other member polling
        rw [settled] at member
        rcases polls other polling with before | isLive
        · exact released.law.quiet other member before
        · exact released.apart other isLive member
      handled := handled
      stopped := by
        intro isStopped other polling
        rw [stopped] at isStopped
        rcases polls other polling with before | isLive
        · exact released.law.stopped isStopped other before
        · rw [released.noneLive isStopped] at isLive
          cases isLive }

/-- A release under a handled watch leaves no entry and no watch. -/
theorem Released.release
    (released : Released run) :
    Released (run.release cohortId) ∧
      ¬ (run.release cohortId).service.Holds cohortId ∧
        ¬ (run.release cohortId).Watches cohortId := by
  have unwatched : ¬ (run.release cohortId).Watches cohortId := by
    intro watches
    obtain ⟨before, different⟩ := watches.of_release
    exact different (released.law.handled cohortId before) rfl
  refine ⟨?_, ?_, unwatched⟩
  · refine released.frame rfl rfl rfl rfl ?_ ?_ ?_ ?_
    · exact
        Nat.le_trans (InsertionMap.size_erase_le _ _) released.within
    · intro other holds
      exact Or.inl holds.of_release.2
    · intro other polling
      exact Or.inl (polling.imp_left fun watches => watches.of_release.1)
    · intro other watches
      have different : other ≠ cohortId := by
        rintro rfl
        exact unwatched watches
      have held := released.law.handled other watches.of_release.1
      exact AList.mem_erase.mpr ⟨different, held⟩
  · intro holds
    exact holds.of_release.1 rfl

/-- A cohort that settles with no entry and no loop is released. -/
theorem Released.settle
    (released : Released run) (path : SettlePath)
    (advertised : cohortId ∈ run.advertised)
    (noEntry : ¬ run.service.Holds cohortId)
    (noLoop : ¬ run.Polls cohortId) :
    Released (run.settle cohortId path) where
  within := released.within
  liveAdvertised := by
    intro other member
    exact released.liveAdvertised other (List.mem_filter.mp member).1
  settledAdvertised := by
    intro other member
    rcases (AList.mem_insert _).mp member with rfl | before
    · exact advertised
    · exact released.settledAdvertised other before
  apart := by
    intro other member isSettled
    obtain ⟨isLive, different⟩ := List.mem_filter.mp member
    rcases (AList.mem_insert _).mp isSettled with same | before
    · exact absurd same (of_decide_eq_true different)
    · exact released.apart other isLive before
  noneLive := by
    intro stopped
    have none : run.live = [] := released.noneLive stopped
    simp only [SideRun.settle, none, List.filter_nil]
  law :=
    { tables := by
        intro other member
        rcases (AList.mem_insert _).mp member with rfl | before
        · exact noEntry
        · exact released.law.tables other before
      quiet := by
        intro other member
        rcases (AList.mem_insert _).mp member with rfl | before
        · exact noLoop
        · exact released.law.quiet other before
      handled := released.law.handled
      stopped := released.law.stopped }

theorem Released.within_startWatch
    (released : Released run) {beaconAddress : String} :
    (run.startWatch options cohortId beaconAddress).service.fundingWatches.size ≤
      maxPerCohortEntries := by
  unfold startWatch onKeygenComplete
  dsimp only
  split
  · split
    · exact released.within
    · exact InsertionMap.size_remember_le _ _ _ _
  · exact released.within

theorem Released.cohortAdvertised
    (released : Released run) {fundingWindowMs : Option Nat}
    (offered : run.Offered (.cohortAdvertised cohortId fundingWindowMs)) :
    Released (run.step options (.cohortAdvertised cohortId fundingWindowMs)) := by
  obtain ⟨-, fresh, running⟩ := offered
  have watches :
      (run.step options
          (.cohortAdvertised cohortId fundingWindowMs)).service.fundingWatches =
        run.service.fundingWatches := by
    simp [step]
  have unsettled : ∀ other ∈ run.settled, other ≠ cohortId := by
    rintro other member rfl
    exact fresh (released.settledAdvertised other member)
  exact
    { within := by
        rw [watches]
        exact released.within
      liveAdvertised := by
        intro other member
        rcases List.mem_cons.mp member with rfl | before
        · exact List.mem_cons_self
        · exact
            List.mem_cons_of_mem _ (released.liveAdvertised other before)
      settledAdvertised := by
        intro other member
        exact
          List.mem_cons_of_mem _ (released.settledAdvertised other member)
      apart := by
        intro other member isSettled
        rcases List.mem_cons.mp member with rfl | before
        · exact unsettled other isSettled rfl
        · exact released.apart other before isSettled
      noneLive := by
        intro stopped
        exact absurd (running.symm.trans stopped) (by decide)
      law :=
        { tables := by
            intro other member holds
            have added :
                other = cohortId ∨ run.service.Holds other :=
              ServiceState.Holds.of_cohortAdvertised holds
            rcases added with same | before
            · exact unsettled other member same
            · exact released.law.tables other member before
          quiet := released.law.quiet
          handled := by
            intro other watching
            rw [watches]
            exact released.law.handled other watching
          stopped := released.law.stopped } }

/-- With every watch handled, `service.stop()` leaves no loop. -/
theorem Released.stop (released : Released run) : Released run.stop := by
  have silent : ∀ other, ¬ run.stop.Polls other := by
    intro other polling
    rcases polling with watches | waiting
    · obtain ⟨loop, member, rfl⟩ := watches_iff.mp watches
      obtain ⟨before, unheld⟩ := List.mem_filter.mp member
      have watched := watches_iff.mpr ⟨loop, before, rfl⟩
      exact of_decide_eq_true unheld (released.law.handled _ watched)
    · cases waiting
  exact
    { within := released.within
      liveAdvertised := by
        intro other member
        cases member
      settledAdvertised := released.settledAdvertised
      apart := by
        intro other member
        cases member
      noneLive := fun _ => rfl
      law :=
        { tables := released.law.tables
          quiet := fun other _ => silent other
          handled := fun other watches =>
            absurd (Or.inl watches) (silent other)
          stopped := fun _ => silent } }

theorem Released.step
    (released : Released run) {event : SideEvent}
    (offered : run.Offered event) (leaves : LeavesNothing options run event) :
    Released (run.step options event) := by
  have subject := offered.1
  cases event with
  | clock now =>
      exact
        released.frame rfl rfl rfl rfl released.within
          (fun _ => Or.inl) (fun _ => Or.inl) released.law.handled
  | disableBroadcast =>
      exact
        released.frame rfl rfl rfl rfl released.within
          (fun _ => Or.inl) (fun _ => Or.inl) released.law.handled
  | cohortAdvertised cohortId fundingWindowMs =>
      exact released.cohortAdvertised offered
  | keygenComplete cohortId beaconAddress =>
      have isLive : cohortId ∈ run.live := subject cohortId rfl
      refine released.frame rfl rfl rfl rfl ?_ ?_ ?_ ?_
      · exact released.within_startWatch
      · intro other holds
        have added : other = cohortId ∨ run.service.Holds other :=
          ServiceState.Holds.of_keygenComplete holds
        rcases added with rfl | before
        · exact Or.inr (Or.inl isLive)
        · exact Or.inl before
      · intro other polling
        rcases polling with watches | waiting
        · rcases Watches.of_startWatch watches with before | ⟨rfl, -⟩
          · exact Or.inl (Or.inl before)
          · exact Or.inr isLive
        · exact Or.inl (Or.inr waiting)
      · intro other watches
        rcases Watches.of_startWatch watches with before | ⟨rfl, held⟩
        · exact
            handled_startWatch released.within leaves before
              (released.law.handled other before)
        · exact held
  | provideTxData cohortId =>
      have isLive : cohortId ∈ run.live := subject cohortId rfl
      unfold SideRun.step
      dsimp only
      split
      · refine
          released.frame rfl rfl rfl rfl released.within (fun _ => Or.inl) ?_
            released.law.handled
        rintro other (watches | waiting)
        · exact Or.inl (Or.inl watches)
        · rcases List.mem_cons.mp waiting with rfl | before
          · exact Or.inr isLive
          · exact Or.inl (Or.inr before)
      · exact released
  | watchPolls cohortId read =>
      unfold SideRun.step
      dsimp only
      split
      · next loop found =>
          obtain ⟨running, -⟩ := mem_of_loopOf? found
          refine released.frame rfl rfl rfl rfl released.within ?_ ?_ ?_
          · intro other holds
            have added : other = loop.cohortId ∨ run.service.Holds other :=
              ServiceState.Holds.of_fundingState holds
            rcases added with rfl | before
            · exact
                Or.inr (Or.inr (watches_iff.mpr ⟨loop, running, rfl⟩))
            · exact Or.inl before
          · intro other polling
            exact
              Or.inl (polling.imp_left (Watches.of_watchPoll running))
          · intro other watches
            exact
              released.law.handled other
                (Watches.of_watchPoll running watches)
      · exact released
  | waitEnds cohortId =>
      refine
        released.frame rfl rfl rfl rfl released.within (fun _ => Or.inl) ?_
          released.law.handled
      intro other polling
      exact Or.inl (polling.imp_right List.mem_of_mem_erase)
  | signingComplete cohortId scriptPath =>
      have isLive : cohortId ∈ run.live := subject cohortId rfl
      obtain ⟨free, noEntry, unwatched⟩ := released.release
      refine
        free.settle .completed (released.liveAdvertised cohortId isLive)
          noEntry ?_
      rintro (watches | waiting)
      · exact unwatched watches
      · exact leaves waiting
  | cohortFailed cohortId reason =>
      have isLive : cohortId ∈ run.live := subject cohortId rfl
      have advertised := released.liveAdvertised cohortId isLive
      obtain ⟨noWait, way⟩ := leaves
      unfold SideRun.step failureListener
      dsimp only
      split
      · obtain ⟨free, noEntry, unwatched⟩ := released.release
        refine free.settle .failed advertised noEntry ?_
        rintro (watches | waiting)
        · exact unwatched watches
        · exact noWait waiting
      · next unheard =>
          have noEntry := way.resolve_left unheard
          refine released.settle .failed advertised noEntry ?_
          rintro (watches | waiting)
          · exact
              noEntry (Or.inr (Or.inl (released.law.handled _ watches)))
          · exact noWait waiting
  | canceled cohortId =>
      have isLive : cohortId ∈ run.live := subject cohortId rfl
      obtain ⟨free, noEntry, unwatched⟩ := released.release
      refine
        free.settle .canceled (released.liveAdvertised cohortId isLive)
          noEntry ?_
      rintro (watches | waiting)
      · exact unwatched watches
      · exact leaves waiting
  | windowExpired cohortId =>
      have isLive : cohortId ∈ run.live := subject cohortId rfl
      obtain ⟨noWait, noEntry⟩ := leaves
      refine
        released.settle .expired (released.liveAdvertised cohortId isLive)
          noEntry ?_
      rintro (watches | waiting)
      · exact noEntry (Or.inr (Or.inl (released.law.handled _ watches)))
      · exact noWait waiting
  | stop => exact released.stop

end SideRun

end Invariant

section Runs

/-! ## The law over whole runs -/

instance (options : ServiceOptions) (run : SideRun) (event : SideEvent) :
    Decidable ((sideMachine options).admits run event) :=
  inferInstanceAs (Decidable (run.Offered event))

/-- **Release.** Along every run that leaves nothing behind, a settled cohort
has no entry and no poller, every running watch has its handle, and nothing
polls after `service.stop()`. -/
theorem settledReleased_of_leavesNothing
    (options : ServiceOptions) (events : List SideEvent)
    (admissible :
      ((sideMachine options).restrict (LeavesNothing options)).Admits
        events) :
    SettledReleased ((sideMachine options).run events) := by
  have always :
      ((sideMachine options).restrict (LeavesNothing options)).Always
        SideRun.Released := by
    apply Machine.Always.of_inductive
    · exact SideRun.released_booted
    · rintro run event released ⟨offered, leaves⟩
      exact released.step offered leaves
  exact (always events admissible).law

/-- A broadcasting service with a funding window of half an hour. -/
def waitingOptions : ServiceOptions where
  live := true
  broadcast := true
  cohortTtlMs := none
  fundingWindowMs := some (.finite 1800000)
  broadcast_live := fun _ => rfl

/-- Cohort `0` is funded, anchors, and the service stops. -/
def fundedAndStopped : List SideEvent :=
  [.cohortAdvertised 0 (some 60000), .keygenComplete 0 "b", .provideTxData 0,
    .watchPolls 0 none, .watchPolls 0 (some .funded), .waitEnds 0,
    .signingComplete 0 false, .stop]

theorem settledReleased_of_leavesNothing_funded :
    SettledReleased ((sideMachine waitingOptions).run fundedAndStopped) :=
  settledReleased_of_leavesNothing waitingOptions fundedAndStopped
    (by decide +kernel)

/-- The release as a promise about every run. -/
def ReleasePromise : Prop :=
  ∀ options events,
    (sideMachine options).Admits events →
      SettledReleased ((sideMachine options).run events)

/-- The discovery window of cohort `0` closes while both loops wait for
funding. -/
def expiresUnfunded : List SideEvent :=
  [.cohortAdvertised 0 none, .keygenComplete 0 "b", .provideTxData 0,
    .windowExpired 0]

theorem not_releasePromise : ¬ ReleasePromise := by
  intro promise
  have law := promise waitingOptions expiresUnfunded (by decide +kernel)
  exact law.quiet 0 (by decide +kernel) (by decide +kernel)

end Runs

end Btcr2Aggregation
