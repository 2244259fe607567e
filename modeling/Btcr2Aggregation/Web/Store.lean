import Btcr2Aggregation.Participant.UpdateChain
import Btcr2Aggregation.Service.OperatorCohorts
import Btcr2Aggregation.Web.Psbt

/-!
# The participant store

The browser page of one participant: its reactive facts, its module-scope
handles, and the actions and handlers that write them.  An asynchronous source
(a participant's runner, a poll, a timer, an awaited read) is a closure the
page has made; it carries the number of the round that made it.  The page's own
program never reads that number.
-/

namespace Btcr2Aggregation

section Facts

/-! ## The reactive facts -/

inductive ParticipantStatus where
  | noIdentity
  | ready
  | connecting
  | live
  | complete
  | failed
  deriving DecidableEq, Repr

namespace ParticipantStatus

/-- `status === 'connecting' || status === 'live'`. -/
def underWay (status : ParticipantStatus) : Bool :=
  status = .connecting ∨ status = .live

/-- `status === 'complete' || status === 'failed'`. -/
def ended (status : ParticipantStatus) : Bool :=
  status = .complete ∨ status = .failed

end ParticipantStatus

structure Seats where
  joined : Nat
  capacity : Nat
  deriving DecidableEq, Repr

/-- What the page says about the join in hand. -/
structure JoinFacts where
  status : ParticipantStatus
  error : Option String
  cohortId : Option CohortId
  beaconAddress : Option String
  seated : Bool
  optedIn : Bool
  joinClosed : Bool
  awaitingSeats : Option Seats
  pendingSubmit : Bool
  pickedCohortId : Option CohortId
  deriving DecidableEq, Repr

def JoinFacts.cleared (status : ParticipantStatus) : JoinFacts where
  status := status
  error := none
  cohortId := none
  beaconAddress := none
  seated := false
  optedIn := false
  joinClosed := false
  awaitingSeats := none
  pendingSubmit := false
  pickedCohortId := none

structure ParticipantResult where
  cohortId : CohortId
  beaconAddress : String
  beaconType : BeaconType
  included : Bool
  announcementEntries : Nat
  updateHashHex : Option String
  deriving DecidableEq, Repr

inductive RegistrationStatus where
  | idle
  | checking
  | awaitingFunds
  | broadcasting
  | registered
  | failed
  deriving DecidableEq, Repr

inductive SigningMethod where
  | browser
  | wallet
  deriving DecidableEq, Repr

/-- The registration and its external-signer round trip. -/
structure Registration where
  regStatus : RegistrationStatus
  regTxid : Option String
  regError : Option String
  signingMethod : SigningMethod
  psbtBase64 : Option String
  psbtTemplateHex : Option String
  psbtReturned : String
  psbtVerdict : Option PsbtVerdict
  psbtExporting : Bool
  psbtExportError : Option String
  deriving DecidableEq, Repr

/-- The per-round outcome. -/
structure Outcome where
  result : Option ParticipantResult
  unreachable : Bool
  validationRequested : Bool
  canceled : Bool
  fallbackObserved : Bool
  nonInclusionReason : Option String
  cohortThreshold : Option Nat
  cohortCapacity : Option Nat
  registration : Registration
  deriving DecidableEq, Repr

/-- `INITIAL_OUTCOME`. -/
def initialOutcome : Outcome where
  result := none
  unreachable := false
  validationRequested := false
  canceled := false
  fallbackObserved := false
  nonInclusionReason := none
  cohortThreshold := none
  cohortCapacity := none
  registration := {
    regStatus := .idle
    regTxid := none
    regError := none
    signingMethod := .browser
    psbtBase64 := none
    psbtTemplateHex := none
    psbtReturned := ""
    psbtVerdict := none
    psbtExporting := false
    psbtExportError := none }

structure TermsAcceptance where
  cohortId : CohortId
  hash : String
  deriving DecidableEq, Repr

end Facts

section Handles

/-! ## Module-scope handles and closures -/

/-- The number of a round: every join, leave, start over and new identity
begins the next one. -/
abbrev RoundId := Nat

/-- What a live participant was made with and has recorded since. -/
structure ParticipantRecord where
  identity : Identity
  cohortId : CohortId
  maps : ParticipantMaps

structure Captured where
  did : String
  updateHashBytes : Bytes
  deriving DecidableEq, Repr

/-- The open submit deferred; settling it lets the participant that opened it
record and submit the update. -/
structure PendingSubmit where
  cohortId : CohortId
  update : SignedUpdate
  participant : RoundId
  deriving DecidableEq, Repr

/-- A poll's closure: the round it was set up in and the epoch it captured. -/
structure Poll where
  participant : RoundId
  epoch : Nat
  deriving DecidableEq, Repr

structure GraceTimer where
  participant : RoundId
  fired : Bool
  deriving DecidableEq, Repr

/-- The one read of why a seated cohort went dark. -/
structure FateRead where
  participant : RoundId
  askedFor : CohortId
  deriving DecidableEq, Repr

/-- An awaited call of `register` or `exportPsbt`, with what it read before its
first await.  `txid` is what it keeps across the broadcast. -/
structure ChainCall where
  id : Nat
  round : RoundId
  identity : Identity
  beaconRegAddress : String
  txid : Option String
  deriving DecidableEq, Repr

/-- A transaction handed to the chain, and whose page it was then. -/
structure Broadcast where
  round : RoundId
  identity : Option Identity
  rawHex : String
  deriving DecidableEq, Repr

/-- An update captured at completion: the round and DID of the participant that
submitted it. -/
structure CaptureRecord where
  round : RoundId
  did : String
  updateHashBytes : Bytes
  deriving DecidableEq, Repr

/-- The page.  The fields from `round` on are what surrounds its program: the
closures it has made and a record of what left it. -/
structure Page where
  identity : Option Identity
  beaconRegAddress : Option String
  termsAcceptance : Option TermsAcceptance
  termsError : Option String
  facts : JoinFacts
  outcome : Outcome
  live : Option RoundId
  captured : Option Captured
  pendingSubmit : Option PendingSubmit
  directoryEpoch : Nat
  joinGrace : Option GraceTimer
  joinGraceLogged : Bool
  postSeatEpoch : Nat
  postSeatFailures : Nat
  postSeatGoneStreak : Nat
  round : RoundId
  participants : InsertionMap RoundId ParticipantRecord
  starting : List RoundId
  directoryPolls : List Poll
  postSeatPolls : List Poll
  fateReads : List FateRead
  registerCalls : List ChainCall
  exportCalls : List ChainCall
  nextCall : Nat
  broadcasts : List Broadcast
  captures : List CaptureRecord

def Page.fresh : Page where
  identity := none
  beaconRegAddress := none
  termsAcceptance := none
  termsError := none
  facts := JoinFacts.cleared .noIdentity
  outcome := initialOutcome
  live := none
  captured := none
  pendingSubmit := none
  directoryEpoch := 0
  joinGrace := none
  joinGraceLogged := false
  postSeatEpoch := 0
  postSeatFailures := 0
  postSeatGoneStreak := 0
  round := 0
  participants := ∅
  starting := []
  directoryPolls := []
  postSeatPolls := []
  fateReads := []
  registerCalls := []
  exportCalls := []
  nextCall := 0
  broadcasts := []
  captures := []

/-- What the page is loaded with, the libraries it calls, and the address each
output of the chain it reads pays. -/
structure PageConfig where
  network : NetworkName
  termsText : Option String
  method : MethodLibrary
  signer : BtcSigner
  updateHashBytes : SignedUpdate → Bytes
  updateHashHex : SignedUpdate → String
  payee : Outpoint → String

/-- The beacon address an identity funds, on the page's network. -/
def PageConfig.beaconAddress
    (config : PageConfig) (identity : Identity) : String :=
  config.method.genesisP2trBeaconAddress identity.keys config.network

end Handles

section Teardown

/-! ## Teardown -/

namespace Page

def clearDirectoryPoll (page : Page) : Page :=
  { page with directoryEpoch := page.directoryEpoch + 1 }

def clearJoinGrace (page : Page) : Page :=
  { page with
    joinGrace := none
    joinGraceLogged := false }

/-- The deferred is dropped without settling it. -/
def clearPendingSubmit (page : Page) : Page :=
  { page with pendingSubmit := none }

def clearPostSeatPoll (page : Page) : Page :=
  { page with
    postSeatEpoch := page.postSeatEpoch + 1
    postSeatFailures := 0
    postSeatGoneStreak := 0 }

/-- Stops the live participant and forgets it. -/
def teardownLive (page : Page) : Page :=
  clearPostSeatPoll
    (clearPendingSubmit (clearJoinGrace { page with live := none }))

def clearCaptured (page : Page) : Page :=
  { page with captured := none }

def fail (reason : String) (page : Page) : Page :=
  teardownLive
    (clearJoinGrace
      (clearDirectoryPoll
        { page with
          facts := {
            page.facts with
            status := .failed
            error := some reason
            awaitingSeats := none
            pendingSubmit := false }
          outcome := { page.outcome with unreachable := false } }))

theorem teardownLive_eq (page : Page) :
    page.teardownLive =
      { page with
        live := none
        pendingSubmit := none
        joinGrace := none
        joinGraceLogged := false
        postSeatEpoch := page.postSeatEpoch + 1
        postSeatFailures := 0
        postSeatGoneStreak := 0 } := by
  dsimp only [teardownLive, clearJoinGrace, clearPendingSubmit,
    clearPostSeatPoll]

theorem fail_eq (reason : String) (page : Page) :
    page.fail reason =
      { page with
        facts := {
          page.facts with
          status := .failed
          error := some reason
          awaitingSeats := none
          pendingSubmit := false }
        outcome := { page.outcome with unreachable := false }
        live := none
        pendingSubmit := none
        directoryEpoch := page.directoryEpoch + 1
        joinGrace := none
        joinGraceLogged := false
        postSeatEpoch := page.postSeatEpoch + 1
        postSeatFailures := 0
        postSeatGoneStreak := 0 } := by
  simp only [fail, teardownLive_eq, clearJoinGrace, clearDirectoryPoll]

end Page

end Teardown

section Actions

/-! ## Rounds begin -/

def termsAcceptanceFailed : String :=
  "Your acceptance couldn't be recorded, so this join stopped. Try again."

def termsAcceptedFor
    (acceptance : Option TermsAcceptance) (cohortId : CohortId) : Bool :=
  acceptance.map TermsAcceptance.cohortId = some cohortId

/-- `termsText && ...`: an empty text asks for nothing. -/
def PageConfig.termsRequired (config : PageConfig) : Bool :=
  config.termsText ≠ none ∧ config.termsText ≠ some ""

structure CohortSizing where
  threshold : Nat
  capacity : Nat
  deriving DecidableEq, Repr

namespace Page

/-- `adopt`, for a generated and for an imported identity.  The live
participant of the old identity is not torn down. -/
def adopt (config : PageConfig) (identity : Identity) (page : Page) : Page :=
  { clearCaptured page with
    identity := some identity
    facts := JoinFacts.cleared .ready
    beaconRegAddress := some (config.beaconAddress identity)
    outcome := initialOutcome
    round := page.round + 1 }

/-- The round a join of `identity` begins, once the guards let it. -/
def beginJoin
    (identity : Identity) (cohortId : CohortId) (sizing : Option CohortSizing)
    (page : Page) : Page :=
  let torn :=
    clearCaptured (teardownLive (clearJoinGrace (clearDirectoryPoll page)))
  { torn with
    facts := {
      torn.facts with
      status := .connecting
      error := none
      seated := false
      optedIn := false
      joinClosed := false
      awaitingSeats := none
      pendingSubmit := false
      pickedCohortId := some cohortId }
    outcome := {
      initialOutcome with
      cohortThreshold := sizing.map CohortSizing.threshold
      cohortCapacity := sizing.map CohortSizing.capacity }
    live := some (page.round + 1)
    round := page.round + 1
    participants :=
      page.participants.insert (page.round + 1)
        { identity, cohortId, maps := ParticipantMaps.fresh }
    starting := (page.round + 1) :: page.starting }

/-- `join`, up to the awaited `start()`. -/
def join
    (config : PageConfig) (cohortId : CohortId) (sizing : Option CohortSizing)
    (page : Page) : Page :=
  match page.identity with
  | none => page
  | some identity =>
      if page.facts.status.underWay then
        page
      else if
          config.termsRequired ∧
            termsAcceptedFor page.termsAcceptance cohortId = false then
        { page with termsError := some termsAcceptanceFailed }
      else
        beginJoin identity cohortId sizing page

def startOver (page : Page) : Page :=
  let torn :=
    clearCaptured (teardownLive (clearJoinGrace (clearDirectoryPoll page)))
  { torn with
    identity := none
    facts := JoinFacts.cleared .noIdentity
    beaconRegAddress := none
    outcome := initialOutcome
    round := page.round + 1 }

def leave (page : Page) : Page :=
  let torn :=
    clearCaptured (teardownLive (clearJoinGrace (clearDirectoryPoll page)))
  { torn with
    facts :=
      JoinFacts.cleared
        (if page.identity.isSome then .ready else .noIdentity)
    outcome := initialOutcome
    round := page.round + 1 }

theorem beginJoin_eq
    (identity : Identity) (cohortId : CohortId) (sizing : Option CohortSizing)
    (page : Page) :
    page.beginJoin identity cohortId sizing =
      { page with
        facts := {
          page.facts with
          status := .connecting
          error := none
          seated := false
          optedIn := false
          joinClosed := false
          awaitingSeats := none
          pendingSubmit := false
          pickedCohortId := some cohortId }
        outcome := {
          initialOutcome with
          cohortThreshold := sizing.map CohortSizing.threshold
          cohortCapacity := sizing.map CohortSizing.capacity }
        live := some (page.round + 1)
        captured := none
        pendingSubmit := none
        directoryEpoch := page.directoryEpoch + 1
        joinGrace := none
        joinGraceLogged := false
        postSeatEpoch := page.postSeatEpoch + 1
        postSeatFailures := 0
        postSeatGoneStreak := 0
        round := page.round + 1
        participants :=
          page.participants.insert (page.round + 1)
            { identity, cohortId, maps := ParticipantMaps.fresh }
        starting := (page.round + 1) :: page.starting } := by
  simp only [beginJoin, teardownLive_eq, clearJoinGrace, clearDirectoryPoll,
    clearCaptured]

theorem startOver_eq (page : Page) :
    page.startOver =
      { page with
        identity := none
        beaconRegAddress := none
        facts := JoinFacts.cleared .noIdentity
        outcome := initialOutcome
        live := none
        captured := none
        pendingSubmit := none
        directoryEpoch := page.directoryEpoch + 1
        joinGrace := none
        joinGraceLogged := false
        postSeatEpoch := page.postSeatEpoch + 1
        postSeatFailures := 0
        postSeatGoneStreak := 0
        round := page.round + 1 } := by
  simp only [startOver, teardownLive_eq, clearJoinGrace, clearDirectoryPoll,
    clearCaptured]

theorem leave_eq (page : Page) :
    page.leave =
      { page with
        facts :=
          JoinFacts.cleared
            (if page.identity.isSome then .ready else .noIdentity)
        outcome := initialOutcome
        live := none
        captured := none
        pendingSubmit := none
        directoryEpoch := page.directoryEpoch + 1
        joinGrace := none
        joinGraceLogged := false
        postSeatEpoch := page.postSeatEpoch + 1
        postSeatFailures := 0
        postSeatGoneStreak := 0
        round := page.round + 1 } := by
  simp only [leave, teardownLive_eq, clearJoinGrace, clearDirectoryPoll,
    clearCaptured]

end Page

end Actions

section Start

/-! ## The awaited `start()` -/

namespace Page

/-- `start()` resolves: the directory poll is set up unless the round was
replaced, seated or ended meanwhile. -/
def startResolved (participant : RoundId) (page : Page) : Page :=
  let settled := { page with starting := page.starting.erase participant }
  if
      page.live ≠ some participant ∨ page.facts.seated = true ∨
        page.facts.status.ended = true then
    settled
  else
    { settled with
      directoryPolls :=
        { participant, epoch := page.directoryEpoch } ::
          page.directoryPolls }

/-- `start()` rejects: no look at the round. -/
def startRejected
    (participant : RoundId) (message : String) (page : Page) : Page :=
  fail message { page with starting := page.starting.erase participant }

end Page

end Start

section RunnerEvents

/-! ## Runner events -/

structure CompleteInfo where
  cohortId : CohortId
  beaconAddress : String
  beaconType : BeaconType
  included : Bool
  announcementEntries : Nat
  deriving DecidableEq, Repr

inductive RunnerEvent where
  | cohortDiscovered (cohortId : CohortId) (beaconType : String)
  | cohortJoined (cohortId : CohortId)
  | cohortReady (cohortId : CohortId) (beaconAddress : String)
  | updateSubmitted (cohortId : CohortId)
  | updateDeclined (cohortId : CohortId)
  | validationRequested
  | signingRequested
  | fallbackRequested
  | cohortComplete (info : CompleteInfo)
  | cohortFailed (cohortId : CohortId) (reason : String)
  | error (message : String)
  deriving DecidableEq, Repr

namespace Page

def onCohortJoined (cohortId : CohortId) (page : Page) : Page :=
  if page.facts.status.ended then
    page
  else
    { page with
      facts := {
        page.facts with
        cohortId := some cohortId
        status := .live
        optedIn := true } }

/-- The definitive seat; the post-seat poll is set up. -/
def onCohortReady
    (participant : RoundId) (beaconAddress : String) (page : Page) : Page :=
  let seated :=
    clearPostSeatPoll
      (clearJoinGrace
        (clearDirectoryPoll
          { page with
            facts := {
              page.facts with
              beaconAddress := some beaconAddress
              seated := true
              awaitingSeats := none } }))
  { seated with
    postSeatPolls :=
      { participant, epoch := seated.postSeatEpoch } :: page.postSeatPolls }

/-- `live?.getSubmittedUpdate(cohortId)`, with the participant asked. -/
def submittedUpdate? (cohortId : CohortId) (page : Page) :
    Option (RoundId × ParticipantRecord × SignedUpdate) := do
  let participant ← page.live
  let record ← page.participants.lookup participant
  let update ← record.maps.submittedUpdates.lookup cohortId
  return (participant, record, update)

/-- `live?.getDeclineReason(cohortId)`. -/
def declineReason? (cohortId : CohortId) (page : Page) : Option String := do
  let participant ← page.live
  let record ← page.participants.lookup participant
  record.maps.declinedCohorts.lookup cohortId

def includedUpdate? (info : CompleteInfo) (page : Page) :
    Option (RoundId × ParticipantRecord × SignedUpdate) :=
  if info.included then page.submittedUpdate? info.cohortId else none

/-- The capture of the own update, before teardown. -/
def captureUpdate (config : PageConfig) (info : CompleteInfo) (page : Page) :
    Page :=
  match page.includedUpdate? info with
  | none => page
  | some (participant, record, update) =>
      { page with
        captured := some {
          did := (page.identity.map Identity.did).getD ""
          updateHashBytes := config.updateHashBytes update }
        captures :=
          { round := participant
            did := record.identity.did
            updateHashBytes := config.updateHashBytes update } ::
              page.captures }

def onCohortComplete
    (config : PageConfig) (info : CompleteInfo) (page : Page) : Page :=
  let updateHashHex :=
    (page.includedUpdate? info).map fun submitted =>
      config.updateHashHex submitted.2.2
  let captured := captureUpdate config info page
  teardownLive
    (clearJoinGrace
      (clearDirectoryPoll
        { captured with
          facts := {
            page.facts with
            status := .complete
            beaconAddress := some info.beaconAddress
            awaitingSeats := none
            pendingSubmit := false }
          outcome := {
            page.outcome with
            result := some {
              cohortId := info.cohortId
              beaconAddress := info.beaconAddress
              beaconType := info.beaconType
              included := info.included
              announcementEntries := info.announcementEntries
              updateHashHex }
            nonInclusionReason :=
              if info.included then
                none
              else
                page.declineReason? info.cohortId } }))

def onRunnerError (message : String) (page : Page) : Page :=
  if page.facts.status.underWay then fail message page else page

theorem onCohortReady_eq
    (participant : RoundId) (beaconAddress : String) (page : Page) :
    page.onCohortReady participant beaconAddress =
      { page with
        facts := {
          page.facts with
          beaconAddress := some beaconAddress
          seated := true
          awaitingSeats := none }
        directoryEpoch := page.directoryEpoch + 1
        joinGrace := none
        joinGraceLogged := false
        postSeatEpoch := page.postSeatEpoch + 1
        postSeatFailures := 0
        postSeatGoneStreak := 0
        postSeatPolls :=
          { participant, epoch := page.postSeatEpoch + 1 } ::
            page.postSeatPolls } := by
  dsimp only [onCohortReady, clearPostSeatPoll, clearJoinGrace,
    clearDirectoryPoll]

theorem captureUpdate_eq
    (config : PageConfig) (info : CompleteInfo) (page : Page) :
    page.captureUpdate config info =
      { page with
        captured := (page.captureUpdate config info).captured
        captures := (page.captureUpdate config info).captures } := by
  unfold captureUpdate
  split
  · rfl
  · rfl

theorem onCohortComplete_eq
    (config : PageConfig) (info : CompleteInfo) (page : Page) :
    page.onCohortComplete config info =
      { page with
        facts := {
          page.facts with
          status := .complete
          beaconAddress := some info.beaconAddress
          awaitingSeats := none
          pendingSubmit := false }
        outcome := {
          page.outcome with
          result := some {
            cohortId := info.cohortId
            beaconAddress := info.beaconAddress
            beaconType := info.beaconType
            included := info.included
            announcementEntries := info.announcementEntries
            updateHashHex :=
              (page.includedUpdate? info).map fun submitted =>
                config.updateHashHex submitted.2.2 }
          nonInclusionReason :=
            if info.included then
              none
            else
              page.declineReason? info.cohortId }
        captured := (page.captureUpdate config info).captured
        captures := (page.captureUpdate config info).captures
        live := none
        pendingSubmit := none
        directoryEpoch := page.directoryEpoch + 1
        joinGrace := none
        joinGraceLogged := false
        postSeatEpoch := page.postSeatEpoch + 1
        postSeatFailures := 0
        postSeatGoneStreak := 0 } := by
  rw [onCohortComplete, captureUpdate_eq]
  simp only [teardownLive_eq, clearJoinGrace, clearDirectoryPoll]

/-- The handlers of one participant's runner.  The advert's type is recorded by
`shouldJoin`; the other narration changes no modelled fact. -/
def onRunnerEvent
    (config : PageConfig) (participant : RoundId) (event : RunnerEvent)
    (page : Page) : Page :=
  match event with
  | .cohortDiscovered cohortId beaconType =>
      { page with
        participants :=
          page.participants.modify participant fun record =>
            { record with
              maps :=
                (shouldJoin (some record.cohortId) record.maps cohortId
                  beaconType).2 } }
  | .cohortJoined cohortId => onCohortJoined cohortId page
  | .cohortReady _ beaconAddress => onCohortReady participant beaconAddress page
  | .updateSubmitted _ => page
  | .updateDeclined _ => page
  | .validationRequested =>
      { page with
        outcome := { page.outcome with validationRequested := true } }
  | .signingRequested => page
  | .fallbackRequested =>
      { page with outcome := { page.outcome with fallbackObserved := true } }
  | .cohortComplete info => onCohortComplete config info page
  | .cohortFailed _ reason => fail reason page
  | .error message => onRunnerError message page

end Page

end RunnerEvents

section SubmitWindow

/-! ## The submit window -/

namespace Page

/-- What `onProvideUpdate` of a participant comes to before any submit gate:
its answer and the maps it would leave. -/
def offeredUpdate
    (config : PageConfig) (record : ParticipantRecord) (cohortId : CohortId)
    (beaconAddress : String) (randomness : Nat) :
    Except String (Option SignedUpdate) × ParticipantMaps :=
  Btcr2Aggregation.provideUpdate config.method record.identity .casBeacon
    record.maps cohortId beaconAddress randomness

/-- The runner asks a participant for its update.  A decline is recorded at
once; a built update waits in the submit window. -/
def onProvideUpdate
    (config : PageConfig) (participant : RoundId) (cohortId : CohortId)
    (beaconAddress : String) (randomness : Nat) (page : Page) : Page :=
  match page.participants.lookup participant with
  | none => page
  | some record =>
      match offeredUpdate config record cohortId beaconAddress randomness with
      | (.error _, _) => page
      | (.ok none, maps) =>
          { page with
            participants :=
              page.participants.modify participant fun record =>
                { record with maps } }
      | (.ok (some update), _) =>
          { page with
            pendingSubmit := some { cohortId, update, participant }
            facts := { page.facts with pendingSubmit := true } }

/-- The submit gate of a participant would open. -/
def opensGate
    (config : PageConfig) (participant : RoundId) (cohortId : CohortId)
    (beaconAddress : String) (randomness : Nat) (page : Page) : Bool :=
  match page.participants.lookup participant with
  | none => false
  | some record =>
      match
        (offeredUpdate config record cohortId beaconAddress
          randomness).1 with
      | .ok (some _) => true
      | _ => false

/-- The click on "Submit my DID update". -/
def submitUpdate (page : Page) : Page :=
  let closed :=
    { page with
      pendingSubmit := none
      facts := { page.facts with pendingSubmit := false } }
  match page.pendingSubmit with
  | none => closed
  | some pending =>
      { closed with
        participants :=
          page.participants.modify pending.participant fun record =>
            { record with
              maps := {
                record.maps with
                submittedUpdates :=
                  record.maps.submittedUpdates.set pending.cohortId
                    pending.update } } }

end Page

end SubmitWindow

section Polls

/-! ## The polls and the grace timer -/

def pickedCohortClosed
    (rows : List DirectoryCohortDTO) (pickedId : CohortId) : Bool :=
  ¬ rows.any fun row => row.cohortId = pickedId ∧ row.phase = .advertised

def postSeatCohortGone
    (rows : List DirectoryCohortDTO) (pickedId : CohortId) : Bool :=
  ¬ rows.any fun row => row.cohortId = pickedId

def closedBeforeOptIn : String :=
  "That cohort just filled or closed. Pick another from the directory."

def closedBeforeSeat : String :=
  "That cohort filled or closed before you were seated. " ++
    "Pick another from the directory."

def lockedWithoutSeat (capacity : Nat) : String :=
  "The cohort locked with all " ++ toString capacity ++
    " seats filled and this browser was not seated; " ++
    "it may have filled without you, or your seat confirmation was lost."

def honestTerminalFallback : String :=
  "The cohort ended and this service didn't say why."

def unreachableThreshold : Nat := 3

def postSeatGoneConfirmations : Nat := 2

namespace Page

/-- The seat line of the picked row, if it is listed. -/
def seatsOf (rows : List DirectoryCohortDTO) (pickedId : CohortId) :
    Option Seats :=
  (rows.find? fun row => row.cohortId = pickedId).map fun row =>
    { joined := row.joined, capacity := row.capacity }

def showSeats (seats : Option Seats) (page : Page) : Page :=
  { page with facts := { page.facts with awaitingSeats := seats } }

/-- `set({ joinClosed: true })`, before the failure that says why. -/
def closeJoin (page : Page) : Page :=
  { page with facts := { page.facts with joinClosed := true } }

/-- The one grace of an opted-in wait. -/
def armGrace (participant : RoundId) (page : Page) : Page :=
  { page with
    joinGraceLogged := true
    joinGrace := some { participant, fired := false } }

def handleDirectorySnapshot
    (participant : RoundId) (rows : List DirectoryCohortDTO) (page : Page) :
    Page :=
  match page.facts.pickedCohortId with
  | none => page
  | some pickedId =>
      if page.facts.seated = true ∨ page.facts.status.underWay = false then
        page
      else
        let shown := showSeats (seatsOf rows pickedId) page
        if pickedCohortClosed rows pickedId = false then
          if page.joinGrace.isSome then clearJoinGrace shown else shown
        else if page.facts.optedIn = false then
          fail closedBeforeOptIn (closeJoin shown)
        else if page.joinGraceLogged then
          shown
        else
          armGrace participant shown

/-- A directory fetch of a poll lands; an error is ignored. -/
def directoryLands
    (poll : Poll) (answer : Option (List DirectoryCohortDTO)) (page : Page) :
    Page :=
  match answer with
  | none => page
  | some rows =>
      if poll.epoch = page.directoryEpoch then
        handleDirectorySnapshot poll.participant rows page
      else
        page

/-- What the fired grace timer says. -/
def graceReason (page : Page) : String :=
  match page.facts.awaitingSeats with
  | none => closedBeforeSeat
  | some seats =>
      if seats.joined = seats.capacity then
        lockedWithoutSeat seats.capacity
      else
        closedBeforeSeat

def graceFires (timer : GraceTimer) (page : Page) : Page :=
  let spent := { page with joinGrace := some { timer with fired := true } }
  if page.facts.seated = false ∧ page.facts.status.underWay = true then
    fail (graceReason page) (closeJoin spent)
  else
    spent

def handlePostSeatSnapshot
    (participant : RoundId) (rows : List DirectoryCohortDTO) (page : Page) :
    Page :=
  match page.facts.pickedCohortId with
  | none => page
  | some pickedId =>
      if page.facts.seated = false ∨ page.facts.status ≠ .live then
        page
      else if postSeatCohortGone rows pickedId then
        if page.postSeatGoneStreak + 1 < postSeatGoneConfirmations then
          { page with postSeatGoneStreak := page.postSeatGoneStreak + 1 }
        else
          let failed :=
            fail honestTerminalFallback
              { page with postSeatGoneStreak := page.postSeatGoneStreak + 1 }
          { failed with
            fateReads :=
              { participant, askedFor := pickedId } :: page.fateReads }
      else
        { page with
          postSeatGoneStreak := 0
          outcome := { page.outcome with unreachable := false } }

/-- A post-seat fetch of a poll lands; errors count towards the unreachable
signal. -/
def postSeatLands
    (poll : Poll) (answer : Option (List DirectoryCohortDTO)) (page : Page) :
    Page :=
  if poll.epoch = page.postSeatEpoch then
    match answer with
    | some rows =>
        handlePostSeatSnapshot poll.participant rows
          { page with postSeatFailures := 0 }
    | none =>
        { page with
          postSeatFailures := page.postSeatFailures + 1
          outcome := {
            page.outcome with
            unreachable :=
              page.outcome.unreachable ||
                unreachableThreshold ≤ page.postSeatFailures + 1 } }
  else
    page

theorem directoryLands_of_ne
    {poll : Poll} {page : Page} (old : poll.epoch ≠ page.directoryEpoch)
    (answer : Option (List DirectoryCohortDTO)) :
    page.directoryLands poll answer = page := by
  cases answer with
  | none => rfl
  | some rows => exact if_neg old

theorem postSeatLands_of_ne
    {poll : Poll} {page : Page} (old : poll.epoch ≠ page.postSeatEpoch)
    (answer : Option (List DirectoryCohortDTO)) :
    page.postSeatLands poll answer = page :=
  if_neg old

/-- The fate read lands; only a canceled cohort upgrades the copy. -/
def fateLands (read : FateRead) (canceled : Bool) (page : Page) : Page :=
  let settled := { page with fateReads := page.fateReads.erase read }
  if
      canceled = true ∧ page.facts.pickedCohortId = some read.askedFor ∧
        page.facts.status = .failed then
    { settled with outcome := { page.outcome with canceled := true } }
  else
    settled

end Page

end Polls

end Btcr2Aggregation
