import Btcr2Aggregation.Service.Broadcast
import Btcr2Aggregation.Service.CohortTables

/-!
# The cohort monitor

The monitor folds runner events, broadcaster frames and operator actions into
three bounded maps: the entry of a cohort, its ended record and its funding
view.  Each map evicts its oldest key, so the three forget independently.

The session is read, never written: what it holds about a cohort is an argument
of every fold that looks.
-/

namespace Btcr2Aggregation

open InsertionMap

section Records

/-! ## What the monitor retains -/

/-- The resolved broadcast mode. -/
inductive ServiceMode where
  | live
  | liveNoBroadcast
  | hermetic
  deriving DecidableEq, Repr

/-- Only opted in, or seated. -/
inductive MemberStatus where
  | pending
  | seated
  deriving DecidableEq, Repr

/-- How far a member has come in the round. -/
inductive MemberRound where
  | seated
  | submitted
  | validated
  | nonceSent
  | rejected
  deriving DecidableEq, Repr

structure MemberRecord where
  status : MemberStatus
  since : Nat
  round : MemberRound
  submittedAt : Option Nat
  participantPk : Option String
  communicationPk : Option String
  deriving DecidableEq, Repr

inductive ActivityLevel where
  | info
  | good
  | warn
  | bad
  deriving DecidableEq, Repr

structure ActivityEntry where
  id : Nat
  t : Nat
  level : ActivityLevel
  text : String
  deriving DecidableEq, Repr

/-- The folded entry of one cohort; `activity` is oldest first. -/
structure MonitorEntry where
  members : InsertionMap String MemberRecord
  capacity : Nat
  beaconAddress : Option String
  fellBack : Bool
  noncesSent : List String
  signingComplete : Bool
  activity : List ActivityEntry
  activitySeq : Nat

/-- What `entryFor` creates. -/
def MonitorEntry.empty : MonitorEntry where
  members := ∅
  capacity := 0
  beaconAddress := none
  fellBack := false
  noncesSent := []
  signingComplete := false
  activity := []
  activitySeq := 0

/-- The terminal chip of an ended record. -/
inductive EndedChip where
  | coSigned
  | coSignedFallback
  | anchored
  | fallback
  | canceled
  | failed
  deriving DecidableEq, Repr

/-- The chips that claim a confirmed anchor. -/
def EndedChip.countsAnchored : EndedChip → Bool
  | .anchored => true
  | .fallback => true
  | _ => false

/-- A terminal record, with the seats as they were at its event. -/
structure EndedRecord where
  chip : EndedChip
  seatsJoined : Nat
  capacity : Nat
  reason : Option String
  viaFallback : Bool
  recordedAt : Nat
  deriving DecidableEq, Repr

/-- Why a cohort failed for want of funding. -/
inductive FundingTerminal where
  | windowClosed
  | blindLapse
  deriving DecidableEq, Repr

/-- A funding view as the monitor keeps it: the last one carries the outcome. -/
structure MonitoredFunding extends FundingView where
  terminal : Option FundingTerminal
  deriving DecidableEq

/-- The session's facts about one cohort. -/
structure SessionSeats where
  phase : CohortPhase
  joined : Nat
  minParticipants : Nat
  deriving DecidableEq, Repr

/-- The live session. -/
abbrev MonitorSession := InsertionMap CohortId SessionSeats

structure Monitor where
  mode : ServiceMode
  esploraReachable : Bool
  entries : InsertionMap CohortId MonitorEntry
  ended : InsertionMap CohortId EndedRecord
  fundingViews : InsertionMap CohortId MonitoredFunding
  operatorActions : List ActivityEntry
  operatorActionSeq : Nat

/-- A freshly built monitor. -/
def Monitor.created (mode : ServiceMode) : Monitor where
  mode
  esploraReachable := true
  entries := ∅
  ended := ∅
  fundingViews := ∅
  operatorActions := []
  operatorActionSeq := 0

end Records

section Bounds

/-! ## Bounds and texts -/

/-- Monitored cohorts kept. -/
def maxMonitored : Nat := 24

/-- Ended records, and funding views, kept. -/
def maxEnded : Nat := 24

def activityRingSize : Nat := 200

def operatorActionsRingSize : Nat := 100

/-- The first characters of a text. -/
def firstChars (text : String) (count : Nat) : String :=
  String.ofList (text.toList.take count)

/-- The last characters of a text. -/
def lastChars (text : String) (count : Nat) : String :=
  String.ofList (text.toList.drop (text.toList.length - count))

/-- A DID short enough for an activity line. -/
def shortDid (did : String) : String :=
  if 24 < did.length then firstChars did 14 ++ "…" ++ lastChars did 6 else did

/-- The cohort id as an operator action names it. -/
def shortCohortId (cohortId : CohortId) : String :=
  firstChars (toString cohortId) 8

def dismissedRecordText (cohortId : CohortId) : String :=
  "Dismissed the record for cohort " ++ shortCohortId cohortId ++ "."

def canceledCohortText (cohortId : CohortId) : String :=
  "Canceled cohort " ++ shortCohortId cohortId ++ "."

def canceledActivityText : String := "Operator canceled this cohort."

/-- `text || fallback`. -/
def orElse (text fallback : String) : String :=
  if text = "" then fallback else text

/-- Append to a ring, dropping the oldest past its size. -/
def pushRing (size : Nat) (ring : List ActivityEntry) (entry : ActivityEntry) :
    List ActivityEntry :=
  let grown := ring ++ [entry]
  grown.drop (grown.length - size)

end Bounds

section Folds

/-! ## The pieces of a fold -/

namespace MonitorEntry

/-- Stamp one activity line. -/
def appendActivity
    (entry : MonitorEntry) (now : Nat) (level : ActivityLevel) (text : String) :
    MonitorEntry :=
  { entry with
    activity :=
      pushRing activityRingSize entry.activity
        { id := entry.activitySeq, t := now, level, text }
    activitySeq := entry.activitySeq + 1 }

variable (entry : MonitorEntry) (now : Nat) (level : ActivityLevel) (text : String)

@[simp]
theorem members_appendActivity :
    (entry.appendActivity now level text).members = entry.members := by
  simp only [appendActivity]

@[simp]
theorem capacity_appendActivity :
    (entry.appendActivity now level text).capacity = entry.capacity := by
  simp only [appendActivity]

@[simp]
theorem fellBack_appendActivity :
    (entry.appendActivity now level text).fellBack = entry.fellBack := by
  simp only [appendActivity]

/-- A DID first seen on a round event is seated. -/
def memberFor (entry : MonitorEntry) (did : String) (now : Nat) : MemberRecord :=
  (entry.members.lookup did).getD
    { status := .seated
      since := now
      round := .seated
      submittedAt := none
      participantPk := none
      communicationPk := none }

/-- Write a member record in place. -/
def setMember (entry : MonitorEntry) (did : String) (member : MemberRecord) :
    MonitorEntry :=
  { entry with members := entry.members.set did member }

/-- The number of seated members. -/
def seated (entry : MonitorEntry) : Nat :=
  (entry.members.entries.filter fun member => member.2.status = .seated).length

end MonitorEntry

namespace Monitor

/-- The entry of a cohort, created when there is none. -/
def entryFor (monitor : Monitor) (cohortId : CohortId) : MonitorEntry :=
  (monitor.entries.lookup cohortId).getD .empty

/-- Write a cohort's entry as the newest, evicting past the cap. -/
def remember (monitor : Monitor) (cohortId : CohortId) (entry : MonitorEntry) :
    Monitor :=
  { monitor with
    entries := monitor.entries.remember maxMonitored cohortId entry }

/-- The last-known capacity stays when the session has none. -/
def snapshotCapacity
    (session : MonitorSession) (cohortId : CohortId) (entry : MonitorEntry) :
    MonitorEntry :=
  match session.lookup cohortId with
  | some seats => { entry with capacity := seats.minParticipants }
  | none => entry

/-- Seats and capacity at event time: the session's, else the fold's own. -/
def snapshotSeats
    (monitor : Monitor) (session : MonitorSession) (cohortId : CohortId) :
    Nat × Nat :=
  match session.lookup cohortId with
  | some seats => (seats.joined, seats.minParticipants)
  | none =>
      match monitor.entries.lookup cohortId with
      | some entry => (entry.seated, entry.capacity)
      | none => (0, 0)

/-- File a terminal record as the newest, evicting past the cap. -/
def rememberEnded
    (monitor : Monitor) (cohortId : CohortId) (record : EndedRecord) :
    Monitor :=
  { monitor with ended := monitor.ended.remember maxEnded cohortId record }

/-- Store a funding view as the newest, evicting past the cap. -/
def rememberFunding
    (monitor : Monitor) (cohortId : CohortId) (view : MonitoredFunding) :
    Monitor :=
  { monitor with
    fundingViews := monitor.fundingViews.remember maxEnded cohortId view }

/-- A membership or round event: change the cohort's entry, take the capacity
and refresh the entry. -/
def touch
    (monitor : Monitor) (session : MonitorSession) (cohortId : CohortId)
    (change : MonitorEntry → MonitorEntry) : Monitor :=
  monitor.remember cohortId
    (snapshotCapacity session cohortId (change (monitor.entryFor cohortId)))

/-- Change the entry of a cohort that has one, in place. -/
def amend
    (monitor : Monitor) (cohortId : CohortId)
    (change : MonitorEntry → MonitorEntry) : Monitor :=
  { monitor with entries := monitor.entries.modify cohortId change }

/-- A cohort's own operator action; a back-to-back repetition is dropped. -/
def recordOperatorAction
    (monitor : Monitor) (cohortId : CohortId) (now : Nat) (text : String) :
    Monitor :=
  let entry := monitor.entryFor cohortId
  if (entry.activity.getLast?).map ActivityEntry.text = some text then
    monitor
  else
    monitor.remember cohortId (entry.appendActivity now .info text)

/-- A service-level operator action, with the same guard. -/
def recordServiceAction (monitor : Monitor) (now : Nat) (text : String) :
    Monitor :=
  if (monitor.operatorActions.getLast?).map ActivityEntry.text = some text then
    monitor
  else
    { monitor with
      operatorActions :=
        pushRing operatorActionsRingSize monitor.operatorActions
          { id := monitor.operatorActionSeq, t := now, level := .info, text }
      operatorActionSeq := monitor.operatorActionSeq + 1 }

end Monitor

end Folds

section Listeners

/-! ## The listeners -/

/-- The runner events the monitor listens to. -/
inductive RunnerNotice where
  | optInReceived
      (cohortId : CohortId) (did : String)
      (participantPk communicationPk : Option String)
  | participantAccepted (cohortId : CohortId) (did : String)
  | keygenComplete (cohortId : CohortId) (beaconAddress : String)
  | updateReceived (cohortId : CohortId) (did : String)
  | validationReceived (cohortId : CohortId) (did : String) (approved : Bool)
  | messageRejected (cohortId : CohortId) (sender code reason : String)
  | signingStarted (cohortId : CohortId)
  | nonceReceived (cohortId : CohortId) (did : String)
  | fallbackStarted (cohortId : CohortId)
  | signingComplete (cohortId : CohortId) (scriptPath : Bool)
  | cohortFailed (cohortId : CohortId) (reason : String)
  deriving DecidableEq, Repr

namespace MonitorEntry

/-- The first opt-in of a DID makes it pending. -/
def optIn
    (entry : MonitorEntry) (now : Nat) (did : String)
    (participantPk communicationPk : Option String) : MonitorEntry :=
  if did ∈ entry.members then
    entry
  else
    (entry.setMember did
      { status := .pending
        since := now
        round := .seated
        submittedAt := none
        participantPk
        communicationPk }).appendActivity now .info (shortDid did ++ " opted in.")

/-- A granted seat. -/
def accept (entry : MonitorEntry) (now : Nat) (did : String) : MonitorEntry :=
  (entry.setMember did
    { entry.memberFor did now with status := .seated }).appendActivity now .good
      (shortDid did ++ " was seated.")

/-- Advance a member, unless it is marked rejected. -/
def advance (member : MemberRecord) (round : MemberRound) : MemberRecord :=
  if member.round = .rejected then member else { member with round }

def submit (entry : MonitorEntry) (now : Nat) (did : String) : MonitorEntry :=
  (entry.setMember did
    { advance (entry.memberFor did now) .submitted with
      submittedAt := some now }).appendActivity now .info
        (shortDid did ++ " submitted an update.")

def validate
    (entry : MonitorEntry) (now : Nat) (did : String) (approved : Bool) :
    MonitorEntry :=
  let member := entry.memberFor did now
  if approved then
    (entry.setMember did (advance member .validated)).appendActivity now .good
      (shortDid did ++ " validated the aggregated data.")
  else
    (entry.setMember did { member with round := .rejected }).appendActivity now
      .bad (shortDid did ++ " rejected the aggregated data.")

def rejectMessage
    (entry : MonitorEntry) (now : Nat) (sender code reason : String) :
    MonitorEntry :=
  (entry.setMember sender
    { entry.memberFor sender now with round := .rejected }).appendActivity now
      .bad
      ("Rejected a message from " ++ shortDid sender ++ ": " ++ reason ++ " (" ++
        code ++ ").")

def sendNonce (entry : MonitorEntry) (now : Nat) (did : String) : MonitorEntry :=
  { entry.setMember did (advance (entry.memberFor did now) .nonceSent) with
    noncesSent := entry.noncesSent.insert did }.appendActivity now .info
      (shortDid did ++ " sent their signing nonce.")

end MonitorEntry

namespace Monitor

/-- The record `signing-complete` files: co-signed, and nothing about the
chain.  The tag stored is the one the chip is derived from. -/
def onSigningComplete
    (monitor : Monitor) (session : MonitorSession) (now : Nat)
    (cohortId : CohortId) (scriptPath : Bool) : Monitor :=
  let fellBack : Bool :=
    ((monitor.entries.lookup cohortId).map MonitorEntry.fellBack) = some true
  let viaFallback := scriptPath || fellBack
  let amended :=
    monitor.amend cohortId fun entry =>
      { entry with signingComplete := true }.appendActivity now .good
        "Co-signing complete."
  let seats := amended.snapshotSeats session cohortId
  amended.rememberEnded cohortId
    { chip := if viaFallback then .coSignedFallback else .coSigned
      seatsJoined := seats.1
      capacity := seats.2
      reason := none
      viaFallback
      recordedAt := now }

/-- File a failure, with a line in the cohort's ring. -/
def fileFailure
    (monitor : Monitor) (session : MonitorSession) (now : Nat)
    (cohortId : CohortId) (line reason : String) : Monitor :=
  let amended :=
    monitor.amend cohortId fun entry => entry.appendActivity now .bad line
  let seats := amended.snapshotSeats session cohortId
  amended.rememberEnded cohortId
    { chip := .failed
      seatsJoined := seats.1
      capacity := seats.2
      reason := some reason
      viaFallback := false
      recordedAt := now }

def onCohortFailed
    (monitor : Monitor) (session : MonitorSession) (now : Nat)
    (cohortId : CohortId) (reason : String) : Monitor :=
  let reason := orElse reason "cohort failed"
  monitor.fileFailure session now cohortId ("Cohort failed: " ++ reason ++ ".")
    reason

/-- The runner listeners. -/
def onNotice
    (monitor : Monitor) (session : MonitorSession) (now : Nat) :
    RunnerNotice → Monitor
  | .optInReceived cohortId did participantPk communicationPk =>
      monitor.touch session cohortId fun entry =>
        entry.optIn now did participantPk communicationPk
  | .participantAccepted cohortId did =>
      monitor.touch session cohortId fun entry => entry.accept now did
  | .keygenComplete cohortId beaconAddress =>
      monitor.touch session cohortId fun entry =>
        { entry with beaconAddress := some beaconAddress }.appendActivity now
          .info "Keygen finalized. The beacon address is ready."
  | .updateReceived cohortId did =>
      monitor.touch session cohortId fun entry => entry.submit now did
  | .validationReceived cohortId did approved =>
      monitor.touch session cohortId fun entry =>
        entry.validate now did approved
  | .messageRejected cohortId sender code reason =>
      monitor.touch session cohortId fun entry =>
        entry.rejectMessage now sender code reason
  | .signingStarted cohortId =>
      monitor.touch session cohortId fun entry =>
        entry.appendActivity now .info "Signing round started."
  | .nonceReceived cohortId did =>
      monitor.touch session cohortId fun entry => entry.sendNonce now did
  | .fallbackStarted cohortId =>
      monitor.touch session cohortId fun entry =>
        { entry with fellBack := true }.appendActivity now .warn
          "Falling back to the k-of-n signing path."
  | .signingComplete cohortId scriptPath =>
      monitor.onSigningComplete session now cohortId scriptPath
  | .cohortFailed cohortId reason =>
      monitor.onCohortFailed session now cohortId reason

/-- A confirmed anchor promotes the standing record by the tag stored on it. -/
def onAnchored
    (monitor : Monitor) (session : MonitorSession) (now : Nat)
    (cohortId : CohortId) : Monitor :=
  let amended :=
    monitor.amend cohortId fun entry =>
      entry.appendActivity now .good "Beacon tx confirmed on-chain."
  let viaFallback : Bool :=
    (amended.ended.lookup cohortId).map EndedRecord.viaFallback = some true
  let seats := amended.snapshotSeats session cohortId
  amended.rememberEnded cohortId
    { chip := if viaFallback then .fallback else .anchored
      seatsJoined := seats.1
      capacity := seats.2
      reason := none
      viaFallback
      recordedAt := now }

/-- The broadcaster's frames; an unconfirmed one promotes nothing. -/
def onFrame
    (monitor : Monitor) (session : MonitorSession) (now : Nat) :
    AnchorFrame → Monitor
  | .broadcast cohortId txid =>
      monitor.amend cohortId fun entry =>
        entry.appendActivity now .info
          ("Beacon tx broadcast (" ++ firstChars txid 12 ++ "…).")
  | .failed cohortId reason =>
      let reason := orElse reason "broadcast failed"
      monitor.fileFailure session now cohortId
        ("Beacon broadcast failed: " ++ reason ++ ".") reason
  | .anchored cohortId _ confirmed =>
      if confirmed then monitor.onAnchored session now cohortId else monitor

end Monitor

end Listeners

section Surface

/-! ## What the service calls and reads -/

namespace Monitor

def noteEsploraObservation (monitor : Monitor) (ok : Bool) : Monitor :=
  { monitor with esploraReachable := ok }

/-- Once `funded`, a view never falls back to an unfunded state. -/
def noteFunding
    (monitor : Monitor) (cohortId : CohortId) (view : MonitoredFunding) :
    Monitor :=
  if monitor.mode ≠ .live then
    monitor
  else if
      (monitor.fundingViews.lookup cohortId).map (·.state) = some .funded ∧
        view.state ≠ .funded then
    monitor
  else
    monitor.rememberFunding cohortId view

/-- The deliberate end, recorded once, before the cohort leaves the session. -/
def noteCanceled
    (monitor : Monitor) (session : MonitorSession) (now : Nat)
    (cohortId : CohortId) : Monitor :=
  if (monitor.ended.lookup cohortId).map EndedRecord.chip = some .canceled then
    monitor
  else
    let seats := monitor.snapshotSeats session cohortId
    let recorded := monitor.recordOperatorAction cohortId now canceledActivityText
    (recorded.touch session cohortId id).rememberEnded cohortId
      { chip := .canceled
        seatsJoined := seats.1
        capacity := seats.2
        reason := none
        viaFallback := false
        recordedAt := now }

/-- `dismissEnded`: an ended record of a cohort that is no longer filling or
co-signing is forgotten, with the entry and the funding view. -/
def dismissEnded
    (monitor : Monitor) (session : MonitorSession) (now : Nat)
    (cohortId : CohortId) : Bool × Monitor :=
  if cohortId ∉ monitor.ended then
    (false, monitor)
  else if
      ((session.lookup cohortId).map SessionSeats.phase).any fun phase =>
        phase ∈ displayPhases then
    (false, monitor)
  else
    (true,
      { monitor with
        ended := monitor.ended.erase cohortId
        entries := monitor.entries.erase cohortId
        fundingViews :=
          monitor.fundingViews.erase cohortId }.recordServiceAction now
            (dismissedRecordText cohortId))

/-- `publicFunding(cohortId).awaitingFunding`. -/
def publicFunding (monitor : Monitor) (cohortId : CohortId) : Bool :=
  if monitor.mode ≠ .live then
    false
  else if
      (monitor.ended.lookup cohortId).map EndedRecord.chip = some .canceled then
    false
  else
    (monitor.fundingViews.lookup cohortId).any fun view =>
      view.terminal = none ∧
        (view.state = .waiting ∨ view.state = .awaitingConfirmation)

/-- The chip of a summary row. -/
inductive CohortChip where
  | filling
  | coSigning
  | needsFunding
  | ended (chip : EndedChip)
  deriving DecidableEq, Repr

/-- A row of the cohort list; an ended row has no phase. -/
structure CohortSummary where
  cohortId : CohortId
  chip : CohortChip
  seatsJoined : Nat
  capacity : Nat
  phase : Option CohortPhase
  reason : Option String
  recordedAt : Option Nat
  deriving DecidableEq, Repr

/-- The row of a cohort that is filling or co-signing. -/
def liveRow? (monitor : Monitor) (cohortId : CohortId) (seats : SessionSeats) :
    Option CohortSummary :=
  if seats.phase ∈ displayPhases then
    let unfunded :=
      (monitor.fundingViews.lookup cohortId).any fun view =>
        view.state ≠ .funded
    some
      { cohortId
        chip :=
          if unfunded then .needsFunding
          else if seats.phase ∈ openPhases then .filling
          else .coSigning
        seatsJoined := seats.joined
        capacity := seats.minParticipants
        phase := some seats.phase
        reason := none
        recordedAt := none }
  else
    none

/-- The row of an ended record. -/
def endedRow (cohortId : CohortId) (record : EndedRecord) : CohortSummary where
  cohortId
  chip := .ended record.chip
  seatsJoined := record.seatsJoined
  capacity := record.capacity
  phase := none
  reason := record.reason
  recordedAt := some record.recordedAt

/-- `summary`: the live rows in session order, then the ended ones whose cohort
has no live row, oldest first. -/
def summary (monitor : Monitor) (session : MonitorSession) :
    List CohortSummary :=
  let live :=
    session.entries.reverse.filterMap fun cohort =>
      monitor.liveRow? cohort.1 cohort.2
  let ended :=
    (monitor.ended.entries.reverse.filter fun record =>
      record.1 ∉ live.map CohortSummary.cohortId).map fun record =>
        endedRow record.1 record.2
  live ++ ended

structure ServiceMetrics where
  openCohorts : Nat
  inFlight : Nat
  anchored : Nat
  failed : Nat
  deriving DecidableEq, Repr

/-- `serviceMetrics`: the live set by phase, the retained records by chip. -/
def serviceMetrics (monitor : Monitor) (session : MonitorSession) :
    ServiceMetrics where
  openCohorts :=
    (session.entries.filter fun cohort => cohort.2.phase ∈ openPhases).length
  inFlight :=
    (session.entries.filter fun cohort =>
      cohort.2.phase ∈ inFlightPhases).length
  anchored :=
    (monitor.ended.entries.filter fun record =>
      record.2.chip.countsAnchored).length
  failed :=
    (monitor.ended.entries.filter fun record =>
      record.2.chip = .failed).length

end Monitor

end Surface

section Events

/-! ## Everything that reaches the monitor -/

/-- A call of one of the monitor's listeners or methods that writes. -/
inductive MonitorEvent where
  | notice (notice : RunnerNotice)
  | frame (frame : AnchorFrame)
  | noteEsploraObservation (ok : Bool)
  | noteFunding (cohortId : CohortId) (view : MonitoredFunding)
  | noteCanceled (cohortId : CohortId)
  | noteOperatorAction (cohortId : CohortId) (text : String)
  | noteServiceAction (text : String)
  | dismissEnded (cohortId : CohortId)
  deriving DecidableEq

/-- The cohort whose terminal record an event files. -/
def MonitorEvent.files? : MonitorEvent → Option CohortId
  | .notice (.signingComplete cohortId _) => some cohortId
  | .notice (.cohortFailed cohortId _) => some cohortId
  | .frame (.failed cohortId _) => some cohortId
  | .frame (.anchored cohortId _ true) => some cohortId
  | .noteCanceled cohortId => some cohortId
  | _ => none

/-- What it does, with the session and the clock as they are then. -/
def Monitor.step
    (monitor : Monitor) (session : MonitorSession) (now : Nat) :
    MonitorEvent → Monitor
  | .notice notice => monitor.onNotice session now notice
  | .frame frame => monitor.onFrame session now frame
  | .noteEsploraObservation ok => monitor.noteEsploraObservation ok
  | .noteFunding cohortId view => monitor.noteFunding cohortId view
  | .noteCanceled cohortId => monitor.noteCanceled session now cohortId
  | .noteOperatorAction cohortId text =>
      monitor.recordOperatorAction cohortId now text
  | .noteServiceAction text => monitor.recordServiceAction now text
  | .dismissEnded cohortId => (monitor.dismissEnded session now cohortId).2

end Events

section Writes

/-! ## What a step writes -/

namespace Monitor

variable
  (monitor : Monitor) (session : MonitorSession) (now : Nat)
  (cohortId : CohortId)

@[simp]
theorem ended_touch (change : MonitorEntry → MonitorEntry) :
    (monitor.touch session cohortId change).ended = monitor.ended := by
  simp only [touch, remember]

@[simp]
theorem fundingViews_touch (change : MonitorEntry → MonitorEntry) :
    (monitor.touch session cohortId change).fundingViews =
      monitor.fundingViews := by
  simp only [touch, remember]

@[simp]
theorem mode_touch (change : MonitorEntry → MonitorEntry) :
    (monitor.touch session cohortId change).mode = monitor.mode := by
  simp only [touch, remember]

@[simp]
theorem ended_recordOperatorAction (text : String) :
    (monitor.recordOperatorAction cohortId now text).ended = monitor.ended := by
  unfold recordOperatorAction
  dsimp only
  split <;> rfl

@[simp]
theorem fundingViews_recordOperatorAction (text : String) :
    (monitor.recordOperatorAction cohortId now text).fundingViews =
      monitor.fundingViews := by
  unfold recordOperatorAction
  dsimp only
  split <;> rfl

@[simp]
theorem mode_recordOperatorAction (text : String) :
    (monitor.recordOperatorAction cohortId now text).mode = monitor.mode := by
  unfold recordOperatorAction
  dsimp only
  split <;> rfl

@[simp]
theorem ended_amend (change : MonitorEntry → MonitorEntry) :
    (monitor.amend cohortId change).ended = monitor.ended := by
  simp only [amend]

theorem recordServiceAction_eq (text : String) :
    monitor.recordServiceAction now text =
      { monitor with
        operatorActions := (monitor.recordServiceAction now text).operatorActions
        operatorActionSeq :=
          (monitor.recordServiceAction now text).operatorActionSeq } := by
  unfold recordServiceAction
  split <;> rfl

/-- A line in the ring is no change of the seats. -/
theorem snapshotSeats_amend
    (change : MonitorEntry → MonitorEntry)
    (members : ∀ entry, (change entry).members = entry.members)
    (capacity : ∀ entry, (change entry).capacity = entry.capacity) :
    (monitor.amend cohortId change).snapshotSeats session cohortId =
      monitor.snapshotSeats session cohortId := by
  unfold snapshotSeats
  cases session.lookup cohortId with
  | some seats => rfl
  | none =>
      simp only [amend, InsertionMap.lookup_modify_self]
      cases monitor.entries.lookup cohortId with
      | none => rfl
      | some entry =>
          simp only [Option.map_some, MonitorEntry.seated, members, capacity]

/-- The ways the ended records change. -/
inductive EndedWrite :
    MonitorEvent → InsertionMap CohortId EndedRecord → Prop where
  | kept (event : MonitorEvent) (silent : event.files? = none) :
      EndedWrite event monitor.ended
  | alreadyCanceled (cohortId : CohortId)
      (already :
        (monitor.ended.lookup cohortId).map EndedRecord.chip =
          some .canceled) :
      EndedWrite (.noteCanceled cohortId) monitor.ended
  | coSigned (cohortId : CohortId) (scriptPath viaFallback : Bool)
      (tagged :
        viaFallback =
          (scriptPath ||
            decide
              ((monitor.entries.lookup cohortId).map MonitorEntry.fellBack =
                some true))) :
      EndedWrite (.notice (.signingComplete cohortId scriptPath))
        (monitor.ended.remember maxEnded cohortId
          { chip := if viaFallback then .coSignedFallback else .coSigned
            seatsJoined := (monitor.snapshotSeats session cohortId).1
            capacity := (monitor.snapshotSeats session cohortId).2
            reason := none
            viaFallback
            recordedAt := now })
  | failed (event : MonitorEvent) (cohortId : CohortId) (reason : String)
      (source :
        (∃ told, event = .notice (.cohortFailed cohortId told)) ∨
          ∃ told, event = .frame (.failed cohortId told)) :
      EndedWrite event
        (monitor.ended.remember maxEnded cohortId
          { chip := .failed
            seatsJoined := (monitor.snapshotSeats session cohortId).1
            capacity := (monitor.snapshotSeats session cohortId).2
            reason := some reason
            viaFallback := false
            recordedAt := now })
  | anchored (cohortId : CohortId) (txid : String) (viaFallback : Bool)
      (tagged :
        viaFallback =
          decide
            ((monitor.ended.lookup cohortId).map EndedRecord.viaFallback =
              some true)) :
      EndedWrite (.frame (.anchored cohortId txid true))
        (monitor.ended.remember maxEnded cohortId
          { chip := if viaFallback then .fallback else .anchored
            seatsJoined := (monitor.snapshotSeats session cohortId).1
            capacity := (monitor.snapshotSeats session cohortId).2
            reason := none
            viaFallback
            recordedAt := now })
  | canceled (cohortId : CohortId) :
      EndedWrite (.noteCanceled cohortId)
        (monitor.ended.remember maxEnded cohortId
          { chip := .canceled
            seatsJoined := (monitor.snapshotSeats session cohortId).1
            capacity := (monitor.snapshotSeats session cohortId).2
            reason := none
            viaFallback := false
            recordedAt := now })
  | dismissed (cohortId : CohortId)
      (record : cohortId ∈ monitor.ended)
      (settled :
        ((session.lookup cohortId).map SessionSeats.phase).any
            (fun phase => phase ∈ displayPhases) =
          false) :
      EndedWrite (.dismissEnded cohortId) (monitor.ended.erase cohortId)

theorem endedWrite_fileFailure
    (event : MonitorEvent) (line reason : String)
    (source :
      (∃ told, event = .notice (.cohortFailed cohortId told)) ∨
        ∃ told, event = .frame (.failed cohortId told)) :
    EndedWrite monitor session now event
      (monitor.fileFailure session now cohortId line reason).ended := by
  have seats :=
    monitor.snapshotSeats_amend session cohortId
      (fun entry => entry.appendActivity now .bad line)
      (fun _ => MonitorEntry.members_appendActivity _ _ _ _)
      (fun _ => MonitorEntry.capacity_appendActivity _ _ _ _)
  unfold fileFailure
  dsimp only [rememberEnded]
  rw [seats]
  exact .failed event cohortId reason source

theorem endedWrite_onNotice (notice : RunnerNotice) :
    EndedWrite monitor session now (.notice notice)
      (monitor.onNotice session now notice).ended := by
  cases notice with
  | signingComplete cohortId scriptPath =>
      have seats :=
        monitor.snapshotSeats_amend session cohortId
          (fun entry =>
            { entry with signingComplete := true }.appendActivity now .good
              "Co-signing complete.")
          (fun _ => MonitorEntry.members_appendActivity _ _ _ _)
          (fun _ => MonitorEntry.capacity_appendActivity _ _ _ _)
      simp only [onNotice, onSigningComplete, rememberEnded, seats]
      exact .coSigned cohortId scriptPath _ rfl
  | cohortFailed cohortId reason =>
      exact
        monitor.endedWrite_fileFailure session now cohortId _ _ _
          (Or.inl ⟨reason, rfl⟩)
  | _ =>
      simp only [onNotice, ended_touch]
      exact .kept _ rfl

theorem endedWrite_onFrame (frame : AnchorFrame) :
    EndedWrite monitor session now (.frame frame)
      (monitor.onFrame session now frame).ended := by
  cases frame with
  | broadcast cohortId txid => exact .kept _ rfl
  | failed cohortId reason =>
      exact
        monitor.endedWrite_fileFailure session now cohortId _ _ _
          (Or.inr ⟨reason, rfl⟩)
  | anchored cohortId txid confirmed =>
      cases confirmed with
      | false => exact .kept _ rfl
      | true =>
          have seats :=
            monitor.snapshotSeats_amend session cohortId
              (fun entry =>
                entry.appendActivity now .good "Beacon tx confirmed on-chain.")
              (fun _ => MonitorEntry.members_appendActivity _ _ _ _)
              (fun _ => MonitorEntry.capacity_appendActivity _ _ _ _)
          simp only [onFrame, if_true, onAnchored, rememberEnded, ended_amend,
            seats]
          exact .anchored cohortId txid _ rfl

/-- Every step changes the ended records in one of these ways. -/
theorem endedWrite_step (event : MonitorEvent) :
    EndedWrite monitor session now event
      (monitor.step session now event).ended := by
  cases event with
  | notice notice => exact monitor.endedWrite_onNotice session now notice
  | frame frame => exact monitor.endedWrite_onFrame session now frame
  | noteEsploraObservation ok => exact .kept _ rfl
  | noteFunding cohortId view =>
      have same : (monitor.noteFunding cohortId view).ended = monitor.ended := by
        unfold noteFunding
        split
        · rfl
        · split <;> rfl
      rw [step, same]
      exact .kept _ rfl
  | noteCanceled cohortId =>
      simp only [step, noteCanceled]
      split
      · next already => exact .alreadyCanceled cohortId already
      · simp only [rememberEnded, ended_touch, ended_recordOperatorAction]
        exact .canceled cohortId
  | noteOperatorAction cohortId text =>
      rw [step, ended_recordOperatorAction]
      exact .kept _ rfl
  | noteServiceAction text =>
      rw [step, recordServiceAction_eq]
      exact .kept _ rfl
  | dismissEnded cohortId =>
      simp only [step, dismissEnded]
      split
      · exact .kept _ rfl
      · next record =>
          split
          · exact .kept _ rfl
          · next settled =>
              rw [recordServiceAction_eq]
              exact
                .dismissed cohortId (not_not.mp record) (by simpa using settled)

/-- A record found after a step was there before, or the step filed it. -/
theorem mem_ended_step
    {event : MonitorEvent} {id : CohortId}
    (held : id ∈ (monitor.step session now event).ended) :
    id ∈ monitor.ended ∨ event.files? = some id := by
  have write := monitor.endedWrite_step session now event
  generalize (monitor.step session now event).ended = after at write held
  cases write with
  | kept _ silent => exact Or.inl held
  | alreadyCanceled cohortId already => exact Or.inl held
  | dismissed cohortId record settled =>
      exact Or.inl (AList.mem_erase.mp held).2
  | coSigned cohortId scriptPath viaFallback tagged =>
      rcases mem_of_mem_remember held with rfl | before
      · exact Or.inr rfl
      · exact Or.inl before
  | anchored cohortId txid viaFallback tagged =>
      rcases mem_of_mem_remember held with rfl | before
      · exact Or.inr rfl
      · exact Or.inl before
  | canceled cohortId =>
      rcases mem_of_mem_remember held with rfl | before
      · exact Or.inr rfl
      · exact Or.inl before
  | failed _ cohortId reason source =>
      rcases mem_of_mem_remember held with rfl | before
      · rcases source with ⟨told, rfl⟩ | ⟨told, rfl⟩
        · exact Or.inr rfl
        · exact Or.inr rfl
      · exact Or.inl before

/-- Some entry of a cohort is marked as fallen back. -/
def MarkedFellBack (cohortId : CohortId) : Prop :=
  (monitor.entries.lookup cohortId).map MonitorEntry.fellBack = some true

variable {monitor session now cohortId}

/-- The table of ended records stays within its bound. -/
theorem size_ended_step
    (within : monitor.ended.size ≤ maxEnded) (event : MonitorEvent) :
    (monitor.step session now event).ended.size ≤ maxEnded := by
  have write := monitor.endedWrite_step session now event
  generalize (monitor.step session now event).ended = after at write
  cases write with
  | kept event silent => exact within
  | alreadyCanceled cohortId already => exact within
  | dismissed cohortId record settled =>
      exact Nat.le_trans (InsertionMap.size_erase_le _ _) within
  | _ => exact InsertionMap.size_remember_le _ _ _ _

theorem markedFellBack_remember
    {other : CohortId} {entry : MonitorEntry}
    (keeps :
      entry.fellBack = true → monitor.MarkedFellBack cohortId)
    (marked : (monitor.remember cohortId entry).MarkedFellBack other) :
    monitor.MarkedFellBack other := by
  obtain ⟨found, lookup, fellBack⟩ := Option.map_eq_some_iff.mp marked
  simp only [remember] at lookup
  have written := lookup_of_lookup_remember lookup
  by_cases same : other = cohortId
  · subst same
    rw [AList.lookup_insert] at written
    cases written
    exact keeps fellBack
  · rw [AList.lookup_insert_ne same] at written
    rw [MarkedFellBack, written]
    exact congrArg some fellBack

theorem fellBack_snapshotCapacity (entry : MonitorEntry) :
    (snapshotCapacity session cohortId entry).fellBack = entry.fellBack := by
  unfold snapshotCapacity
  split <;> rfl

/-- A created entry is not marked. -/
theorem markedFellBack_of_entryFor
    (marked : (monitor.entryFor cohortId).fellBack = true) :
    monitor.MarkedFellBack cohortId := by
  unfold entryFor at marked
  cases found : monitor.entries.lookup cohortId with
  | none =>
      rw [found] at marked
      cases marked
  | some entry =>
      rw [found] at marked
      rw [MarkedFellBack, found]
      exact congrArg some marked

theorem markedFellBack_touch
    {change : MonitorEntry → MonitorEntry} {other : CohortId}
    (keeps : ∀ entry, (change entry).fellBack = entry.fellBack)
    (marked : (monitor.touch session cohortId change).MarkedFellBack other) :
    monitor.MarkedFellBack other := by
  refine markedFellBack_remember ?_ marked
  intro fellBack
  rw [fellBack_snapshotCapacity, keeps] at fellBack
  exact markedFellBack_of_entryFor fellBack

theorem markedFellBack_amend
    {change : MonitorEntry → MonitorEntry} {other : CohortId}
    (keeps : ∀ entry, (change entry).fellBack = entry.fellBack)
    (marked : (monitor.amend cohortId change).MarkedFellBack other) :
    monitor.MarkedFellBack other := by
  unfold MarkedFellBack amend at marked
  by_cases same : other = cohortId
  · subst same
    rw [InsertionMap.lookup_modify_self, Option.map_map] at marked
    obtain ⟨entry, found, fellBack⟩ := Option.map_eq_some_iff.mp marked
    rw [MarkedFellBack, found]
    exact congrArg some ((keeps entry).symm.trans fellBack)
  · rw [InsertionMap.lookup_modify_of_ne same] at marked
    exact marked

theorem markedFellBack_recordOperatorAction
    {text : String} {other : CohortId}
    (marked :
      (monitor.recordOperatorAction cohortId now text).MarkedFellBack other) :
    monitor.MarkedFellBack other := by
  unfold recordOperatorAction at marked
  dsimp only at marked
  split at marked
  · exact marked
  · refine markedFellBack_remember ?_ marked
    intro fellBack
    rw [MonitorEntry.fellBack_appendActivity] at fellBack
    exact markedFellBack_of_entryFor fellBack

theorem markedFellBack_onNotice
    {notice : RunnerNotice} {other : CohortId}
    (marked : (monitor.onNotice session now notice).MarkedFellBack other) :
    monitor.MarkedFellBack other ∨ notice = .fallbackStarted other := by
  unfold onNotice at marked
  cases notice with
  | optInReceived cohortId did participantPk communicationPk =>
      refine Or.inl (markedFellBack_touch ?_ marked)
      intro entry
      unfold MonitorEntry.optIn
      split
      · rfl
      · simp [MonitorEntry.setMember]
  | participantAccepted cohortId did =>
      refine Or.inl (markedFellBack_touch ?_ marked)
      intro entry
      simp [MonitorEntry.accept, MonitorEntry.setMember]
  | keygenComplete cohortId beaconAddress =>
      refine Or.inl (markedFellBack_touch ?_ marked)
      intro entry
      simp
  | updateReceived cohortId did =>
      refine Or.inl (markedFellBack_touch ?_ marked)
      intro entry
      simp [MonitorEntry.submit, MonitorEntry.setMember]
  | validationReceived cohortId did approved =>
      refine Or.inl (markedFellBack_touch ?_ marked)
      intro entry
      cases approved with
      | true => simp [MonitorEntry.validate, MonitorEntry.setMember]
      | false => simp [MonitorEntry.validate, MonitorEntry.setMember]
  | messageRejected cohortId sender code reason =>
      refine Or.inl (markedFellBack_touch ?_ marked)
      intro entry
      simp [MonitorEntry.rejectMessage, MonitorEntry.setMember]
  | signingStarted cohortId =>
      refine Or.inl (markedFellBack_touch ?_ marked)
      intro entry
      simp
  | nonceReceived cohortId did =>
      refine Or.inl (markedFellBack_touch ?_ marked)
      intro entry
      simp [MonitorEntry.sendNonce, MonitorEntry.setMember]
  | fallbackStarted cohortId =>
      by_cases same : other = cohortId
      · exact Or.inr (by rw [same])
      · refine Or.inl ?_
        obtain ⟨found, lookup, fellBack⟩ := Option.map_eq_some_iff.mp marked
        simp only [touch, remember] at lookup
        have written := lookup_of_lookup_remember lookup
        rw [AList.lookup_insert_ne same] at written
        rw [MarkedFellBack, written]
        exact congrArg some fellBack
  | signingComplete cohortId scriptPath =>
      refine Or.inl (markedFellBack_amend ?_ marked)
      intro entry
      simp
  | cohortFailed cohortId reason =>
      refine Or.inl (markedFellBack_amend ?_ marked)
      intro entry
      simp

theorem markedFellBack_onFrame
    {frame : AnchorFrame} {other : CohortId}
    (marked : (monitor.onFrame session now frame).MarkedFellBack other) :
    monitor.MarkedFellBack other := by
  cases frame with
  | broadcast cohortId txid =>
      refine markedFellBack_amend ?_ marked
      intro entry
      simp
  | failed cohortId reason =>
      refine markedFellBack_amend ?_ marked
      intro entry
      simp
  | anchored cohortId txid confirmed =>
      cases confirmed with
      | false => exact marked
      | true =>
          refine markedFellBack_amend ?_ marked
          intro entry
          simp

/-- Only `fallback-started` marks an entry. -/
theorem markedFellBack_step
    {event : MonitorEvent} {other : CohortId}
    (marked : (monitor.step session now event).MarkedFellBack other) :
    monitor.MarkedFellBack other ∨
      event = .notice (.fallbackStarted other) := by
  cases event with
  | notice notice =>
      rcases markedFellBack_onNotice marked with before | started
      · exact Or.inl before
      · exact Or.inr (congrArg _ started)
  | frame frame => exact Or.inl (markedFellBack_onFrame marked)
  | noteEsploraObservation ok => exact Or.inl marked
  | noteFunding cohortId view =>
      refine Or.inl ?_
      simp only [step, noteFunding] at marked
      split at marked
      · exact marked
      · split at marked
        · exact marked
        · exact marked
  | noteCanceled cohortId =>
      refine Or.inl ?_
      simp only [step, noteCanceled] at marked
      split at marked
      · exact marked
      · have touched :
            ((monitor.recordOperatorAction cohortId now
                canceledActivityText).touch session cohortId
              id).MarkedFellBack other :=
          marked
        exact
          markedFellBack_recordOperatorAction
            (markedFellBack_touch (fun _ => rfl) touched)
  | noteOperatorAction cohortId text =>
      exact Or.inl (markedFellBack_recordOperatorAction marked)
  | noteServiceAction text =>
      rw [step, recordServiceAction_eq] at marked
      exact Or.inl marked
  | dismissEnded cohortId =>
      refine Or.inl ?_
      simp only [step, dismissEnded] at marked
      split at marked
      · exact marked
      · split at marked
        · exact marked
        · rw [recordServiceAction_eq] at marked
          obtain ⟨entry, found, fellBack⟩ := Option.map_eq_some_iff.mp marked
          have before := InsertionMap.lookup_of_lookup_erase found
          rw [MarkedFellBack, before]
          exact congrArg some fellBack

end Monitor

end Writes

end Btcr2Aggregation
