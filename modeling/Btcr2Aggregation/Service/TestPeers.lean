import Btcr2Aggregation.Library.JsNumber
import Btcr2Aggregation.Service.SideTables

/-!
# The operator's test peers

A request spawns a batch of in-process participants for one cohort: as many as
were asked for, at most the seats free when the request was admitted.  The
batch awaits one `start()` after the other, and its stop guard is one-shot.
When its loop is over the batch is returned to the registry, which files its
handle; only a filed handle is reached by a release, and only while the guard
is open does an abort stop anything.

The registry maps a cohort to its handles; here every batch says itself
whether its handle is filed.
-/

namespace Btcr2Aggregation

section Batches

/-! ## One batch -/

/-- How far one `spawn` call is: awaiting a `start()`, returned by
`spawnTestPeers`, or back from the registry. -/
inductive SpawnPhase where
  | starting
  | returned
  | finished
  deriving DecidableEq, Repr

/-- The closure of one `spawnTestPeers` call.  A peer is named by the round of
the loop that made it; `running` are those whose `start()` succeeded and which
nothing has stopped. -/
structure PeerBatch where
  number : Nat
  cohortId : CohortId
  wanted : Nat
  attempted : Nat
  peers : List Nat
  dids : List Nat
  stopped : Bool
  running : List Nat
  phase : SpawnPhase
  spawned : Nat
  registered : Bool
  deriving DecidableEq, Repr

namespace PeerBatch

/-- A batch that awaits its first `start()`. -/
def opened (number : Nat) (cohortId : CohortId) (wanted : Nat) : PeerBatch where
  number
  cohortId
  wanted
  attempted := 0
  peers := []
  dids := []
  stopped := false
  running := []
  phase := .starting
  spawned := 0
  registered := false

/-- `stopAll`, behind its one-shot guard. -/
def stopAll (batch : PeerBatch) : PeerBatch :=
  if batch.stopped then
    batch
  else
    { batch with
      stopped := true
      running := batch.running.filter (· ∉ batch.peers)
      peers := [] }

/-- What follows the loop: with the signal aborted, `stopAll` again and an
empty result. -/
def afterLoop (aborted : Bool) (batch : PeerBatch) : PeerBatch :=
  if aborted then
    { batch.stopAll with
      phase := .returned
      spawned := 0 }
  else
    { batch with
      phase := .returned
      spawned := batch.dids.length }

/-- The peer whose `start()` is awaited starts, or is left out. -/
def settleStart (ok : Bool) (batch : PeerBatch) : PeerBatch :=
  if ok then
    { batch with
      attempted := batch.attempted + 1
      peers := batch.peers ++ [batch.attempted]
      dids := batch.dids ++ [batch.attempted]
      running := batch.running ++ [batch.attempted] }
  else
    { batch with attempted := batch.attempted + 1 }

/-- The awaited `start()` resolves: the next round, or the end of the loop. -/
def startResolves (aborted ok : Bool) (batch : PeerBatch) : PeerBatch :=
  let next := batch.settleStart ok
  if next.attempted < next.wanted then next else next.afterLoop aborted

/-- The registry files the handle of a batch that spawned something. -/
def spawnReturns (batch : PeerBatch) : PeerBatch :=
  { batch with
    phase := .finished
    registered := 0 < batch.spawned }

/-- A filed handle is stopped and dropped. -/
def drop (batch : PeerBatch) : PeerBatch :=
  if batch.registered then
    { batch.stopAll with registered := false }
  else
    batch

/-- The peers its filed handle owns. -/
def owned (batch : PeerBatch) : Nat :=
  if batch.registered then batch.spawned else 0

end PeerBatch

end Batches

section System

/-! ## The registry over a run of the service -/

/-- The seats of a live cohort: how many there are, and how many are held by
strangers and by test peers. -/
structure CohortSeats where
  capacity : Nat
  strangers : Nat
  testPeers : Nat
  deriving DecidableEq, Repr

/-- `Math.max(0, capacity - seatsJoined)`. -/
def CohortSeats.remaining (seats : CohortSeats) : Nat :=
  seats.capacity - (seats.strangers + seats.testPeers)

/-- The count a batch is opened with: every remaining seat, or what was asked
for, and never more than remain. -/
def wantedPeers (requested : Option JsNumber) (remaining : Nat) : Nat :=
  match requested with
  | none => remaining
  | some (.finite count) => min count.floor.toNat remaining
  | some _ => 0

inductive PeerEvent where
  | side (event : SideEvent)
  | listen
  | session (seats : InsertionMap CohortId CohortSeats)
  | addTestPeers (cohortId : CohortId) (requested : Option JsNumber)
  | startResolves (number : Nat) (ok : Bool)
  | spawnReturns (number : Nat)

/-- The service with its batches.  `admittedAt` is history: the seats a cohort
had when its last request was admitted. -/
structure PeerRun where
  side : SideRun
  listening : Bool
  seats : InsertionMap CohortId CohortSeats
  batches : List PeerBatch
  admittedAt : InsertionMap CohortId CohortSeats

/-- The cohort whose tables, and with them its test peers, an event releases. -/
def SideRun.releases?
    (options : ServiceOptions) (run : SideRun) : SideEvent → Option CohortId
  | .signingComplete cohortId _ => some cohortId
  | .canceled cohortId => some cohortId
  | .cohortFailed cohortId _ =>
      if options.broadcast ∧ cohortId ∈ run.service.fundingWatches then
        some cohortId
      else
        none
  | _ => none

/-- Only a settle releases, and it releases its own cohort. -/
theorem SideRun.settles?_of_releases?
    {options : ServiceOptions} {run : SideRun} {event : SideEvent}
    {cohortId : CohortId}
    (releases : run.releases? options event = some cohortId) :
    event.settles? = some cohortId := by
  cases event with
  | signingComplete settled scriptPath => exact releases
  | canceled settled => exact releases
  | cohortFailed settled reason =>
      unfold SideRun.releases? at releases
      dsimp only at releases
      split at releases
      · exact releases
      · cases releases
  | _ => cases releases

/-- It is the release of the side tables. -/
theorem SideRun.service_of_releases?
    {options : ServiceOptions} {run : SideRun} {event : SideEvent}
    {cohortId : CohortId}
    (releases : run.releases? options event = some cohortId) :
    (run.step options event).service =
      releaseCohortTables run.service cohortId := by
  cases event with
  | signingComplete settled scriptPath =>
      cases releases
      rfl
  | canceled settled =>
      cases releases
      rfl
  | cohortFailed settled reason =>
      unfold SideRun.releases? at releases
      dsimp only at releases
      split at releases
      · next heard =>
          cases releases
          simp only [SideRun.step, SideRun.failureListener, if_pos heard]
          rfl
      · cases releases
  | _ => cases releases

namespace PeerRun

def booted : PeerRun where
  side := .booted
  listening := false
  seats := ∅
  batches := []
  admittedAt := ∅

/-- The session holds the live cohorts only. -/
def seatsOf (run : PeerRun) (cohortId : CohortId) : Option CohortSeats :=
  if cohortId ∈ run.side.live then run.seats.lookup cohortId else none

/-- The seats of a request that reaches the spawner: the cohort is live, a seat
is free, and the service listens. -/
def admitted? (run : PeerRun) (cohortId : CohortId) : Option CohortSeats :=
  (run.seatsOf cohortId).filter fun seats =>
    0 < seats.remaining ∧ run.listening = true

/-- The peers a request sets out to start. -/
def wanted
    (run : PeerRun) (seats : CohortSeats) (requested : Option JsNumber) : Nat :=
  if run.side.stopped then 0 else wantedPeers requested seats.remaining

/-- `addTestPeersFor`, up to the first `start()`. -/
def addTestPeers
    (run : PeerRun) (cohortId : CohortId) (requested : Option JsNumber) :
    PeerRun :=
  match run.admitted? cohortId with
  | none => run
  | some seats =>
      let wanted := run.wanted seats requested
      { run with
        admittedAt := run.admittedAt.insert cohortId seats
        batches :=
          if wanted = 0 then
            run.batches
          else
            .opened run.batches.length cohortId wanted :: run.batches }

/-- Change one batch. -/
def update
    (run : PeerRun) (number : Nat) (change : PeerBatch → PeerBatch) : PeerRun :=
  { run with
    batches :=
      run.batches.map fun batch =>
        if batch.number = number then change batch else batch }

/-- `release`: the filed handles of one cohort are stopped and dropped. -/
def releasePeers (run : PeerRun) (cohortId : CohortId) : PeerRun :=
  { run with
    batches :=
      run.batches.map fun batch =>
        if batch.cohortId = cohortId then batch.drop else batch }

/-- What `service.stop()` does to the peers: every filed handle is stopped and
dropped, and the abort reaches every batch. -/
def stopPeers (run : PeerRun) : PeerRun :=
  { run with
    listening := false
    batches := run.batches.map fun batch => batch.drop.stopAll }

/-- The peers' part of an event of the service. -/
def teardown
    (options : ServiceOptions) (run : PeerRun) (event : SideEvent) : PeerRun :=
  match run.side.releases? options event with
  | some cohortId => run.releasePeers cohortId
  | none => if event = .stop then run.stopPeers else run

def step (options : ServiceOptions) (run : PeerRun) : PeerEvent → PeerRun
  | .side event =>
      { run.teardown options event with side := run.side.step options event }
  | .listen => { run with listening := true }
  | .session seats => { run with seats }
  | .addTestPeers cohortId requested => run.addTestPeers cohortId requested
  | .startResolves number ok =>
      run.update number (.startResolves run.side.stopped ok)
  | .spawnReturns number => run.update number .spawnReturns

/-- `activeCount`: the peers the filed handles own. -/
def activeCount (run : PeerRun) : Nat :=
  (run.batches.map PeerBatch.owned).sum

/-- The peers that run. -/
def runningCount (run : PeerRun) : Nat :=
  (run.batches.map fun batch => batch.running.length).sum

/-- The peers that run for one cohort. -/
def runningFor (run : PeerRun) (cohortId : CohortId) : Nat :=
  (run.batches.map fun batch =>
    if batch.cohortId = cohortId then batch.running.length else 0).sum

/-- The peers that run for one cohort or are still to be started for it. -/
def promisedFor (run : PeerRun) (cohortId : CohortId) : Nat :=
  (run.batches.map fun batch =>
    if batch.cohortId = cohortId then
      batch.running.length + (batch.wanted - batch.attempted)
    else
      0).sum

/-- A `start()` resolves for a batch that awaits one, and the registry gets
back a batch whose loop is over. -/
def Offered (run : PeerRun) : PeerEvent → Prop
  | .side event => run.side.Offered event
  | .startResolves number _ =>
      ∃ batch ∈ run.batches, batch.number = number ∧ batch.phase = .starting
  | .spawnReturns number =>
      ∃ batch ∈ run.batches, batch.number = number ∧ batch.phase = .returned
  | _ => True

instance (run : PeerRun) (event : PeerEvent) : Decidable (run.Offered event) := by
  cases event with
  | side event => exact inferInstanceAs (Decidable (run.side.Offered event))
  | startResolves _ _ => exact inferInstanceAs (Decidable (∃ _ ∈ _, _))
  | spawnReturns _ => exact inferInstanceAs (Decidable (∃ _ ∈ _, _))
  | _ => exact isTrue trivial

end PeerRun

def peerMachine (options : ServiceOptions) : Machine PeerRun PeerEvent where
  init := .booted
  step := PeerRun.step options
  admits := PeerRun.Offered

end System

end Btcr2Aggregation
