import Btcr2Aggregation.Shared.Cohort

/-!
# The operator console store

The browser console of an operator: who is signed in, and the slice of facts a
session is shown.  Every call to the service is a request that goes out with
what its caller captured, and an answer that lands at any later time.  The
served documents are only carried about, so their type is a parameter.
-/

namespace Btcr2Aggregation

section Facts

/-! ## The reactive facts -/

inductive OperatorAuthStatus where
  | checking
  | loggedOut
  | loggingIn
  | loggedIn
  | disabled
  deriving DecidableEq, Repr

inductive CreateStatus where
  | idle
  | creating
  | error
  deriving DecidableEq, Repr

inductive AdvertiseStatus where
  | idle
  | advertising
  | error
  deriving DecidableEq, Repr

inductive EditStatus where
  | idle
  | saving
  | error
  deriving DecidableEq, Repr

inductive SettingsStatus where
  | idle
  | loading
  | saving
  | error
  deriving DecidableEq, Repr

inductive OperatorView where
  | list
  | detail (cohortId : CohortId)
  | settings
  deriving DecidableEq, Repr

/-- What `gatedSliceReset` lists, each at its reset value. -/
structure GatedSlice (Value : Type) where
  cohorts : List Value := []
  rows : List Value := []
  metrics : Option Value := none
  health : Option Value := none
  defaults : Option Value := none
  listStale : Bool := false
  createStatus : CreateStatus := .idle
  formError : Option String := none
  editingDraftId : Option CohortId := none
  editStatus : EditStatus := .idle
  editError : Option String := none
  advertiseStatus : AdvertiseStatus := .idle
  advertisingId : Option CohortId := none
  advertiseMessage : Option String := none
  actionError : Option String := none
  pauseBusy : Bool := false
  pauseMessage : Option String := none
  pauseError : Option String := none
  operatorActions : List Value := []
  broadcastBusy : Bool := false
  broadcastError : Option String := none
  dismissing : Option CohortId := none
  settings : Option Value := none
  settingsStatus : SettingsStatus := .idle
  settingsError : Option String := none
  settingsMessage : Option String := none
  view : OperatorView := .list
  cancelling : Option CohortId := none
  finalizing : Option CohortId := none
  addingTestPeers : Option CohortId := none
  testPeerError : Option String := none
  detail : Option Value := none
  detailCohortId : Option CohortId := none
  detailStale : Bool := false
  lastUpdated : Option Nat := none
  deriving DecidableEq

/-- `sessionRound` names a session, `liveSessionRound` the one that is live. -/
structure ConsoleState (Value : Type) where
  auth : OperatorAuthStatus
  sessionRound : Nat
  liveSessionRound : Option Nat
  error : Option String
  slice : GatedSlice Value
  deriving DecidableEq

def ConsoleState.opened {Value : Type} : ConsoleState Value where
  auth := .checking
  sessionRound := 0
  liveSessionRound := none
  error := none
  slice := {}

end Facts

section Copy

/-! ## Copy -/

def advertisedOk : String :=
  "Advertised. Now joinable in the directory."

def readvertisedOk : String :=
  "Re-advertised. Back in the directory as a fresh cohort."

def advertiseFailed : String :=
  "Could not advertise the draft. Try again."

def readvertiseFailed : String :=
  "Could not re-advertise the cohort. Try again."

def invalidPassword : String :=
  "Incorrect password. Check the operator password set for this service " ++
    "and try again."

def throttled : String :=
  "Too many attempts. Wait a few minutes and try again."

def unreachableCopy : String :=
  "Could not reach the service. Check that it is running, then reload."

def exportFailed : String :=
  "Could not download the monitoring record. Check the service, then try again."

def discardFailed : String :=
  "Could not discard the draft. Try again."

def actionFailed : String :=
  "That action didn't go through. Nothing about this cohort changed."

/-- The same line with the service's own reason, where it gave one. -/
def actionFailedWith (reason : String) : String :=
  if reason = "" then
    actionFailed
  else
    "That action didn't go through: " ++ reason ++
      ". Nothing about this cohort changed."

def pausedOk : String := "Advertising paused."

def resumedOk : String := "Advertising resumed."

def sessionExpired : String :=
  "Your operator session ended. Sign in again to keep monitoring. " ++
    "Monitoring rebuilds from this service's state after you sign in."

def settingsSavedOk : String := "Settings updated for this session."

end Copy

section Answers

/-! ## What the service answers -/

inductive SessionState where
  | loggedIn
  | loggedOut
  | disabled
  | unreachable
  deriving DecidableEq, Repr

/-- `FetchResult`. -/
inductive FetchResult (Read : Type) where
  | ok (value : Read)
  | unauthorized
  | unreachable
  deriving DecidableEq

structure MonitoringRead (Value : Type) where
  rows : List Value
  metrics : Value
  health : Option Value
  operatorActions : Option (List Value)
  deriving DecidableEq

/-- The gated list read. -/
structure CohortsRead (Value : Type) where
  cohorts : List Value
  monitoring : Option (MonitoringRead Value)
  defaults : Option Value
  deriving DecidableEq

inductive SaveResult (Value : Type) where
  | saved (snapshot : Value)
  | unauthorized
  | rejected (error : String)
  | thrown
  deriving DecidableEq

/-- What an action verb is answered; `done` carries what the verb reads of a
success. -/
inductive VerbAnswer where
  | done
  | advertised (cohortId : CohortId)
  | toggled (paused : Bool)
  | unauthorized
  | refused (reason : String)
  | declined
  | rejected (error : String)
  | unreachable
  | thrown
  deriving DecidableEq, Repr

end Answers

section Verbs

/-! ## The action verbs -/

/-- The read an action goes on with. -/
inductive Followup where
  | none
  | refresh
  | refreshThenOpen (cohortId : CohortId)
  | pollDetail
  deriving DecidableEq, Repr

/-- An action verb: what it writes before its request, and what it makes of an
answer that is neither a refused session nor too late. -/
structure GatedVerb (Value : Type) where
  begins : GatedSlice Value → GatedSlice Value
  answered : VerbAnswer → GatedSlice Value → GatedSlice Value × Followup

variable {Value : Type}

/-- The drill-down of one cohort, in its checking state. -/
def openCohort (cohortId : CohortId) (slice : GatedSlice Value) :
    GatedSlice Value :=
  { slice with
    view := .detail cohortId
    actionError := none
    detail := none
    detailCohortId := none
    detailStale := false
    lastUpdated := none }

def closeCohort (slice : GatedSlice Value) : GatedSlice Value :=
  { slice with
    view := .list
    detail := none
    detailCohortId := none
    detailStale := false
    lastUpdated := none }

def openSettings (slice : GatedSlice Value) : GatedSlice Value :=
  { slice with
    view := .settings
    settingsStatus := .loading
    settingsError := none
    settingsMessage := none
    actionError := none }

def closeSettings (slice : GatedSlice Value) : GatedSlice Value :=
  { slice with
    view := .list
    settingsStatus := .idle
    settingsError := none
    settingsMessage := none }

def beginEdit (draftId : CohortId) (slice : GatedSlice Value) :
    GatedSlice Value :=
  { slice with
    editingDraftId := some draftId
    editStatus := .idle
    editError := none }

def cancelEdit (slice : GatedSlice Value) : GatedSlice Value :=
  { slice with
    editingDraftId := none
    editStatus := .idle
    editError := none }

def submitDraft : GatedVerb Value where
  begins slice := { slice with createStatus := .creating, formError := none }
  answered
    | .done, slice =>
        ({ slice with createStatus := .idle, formError := none }, .refresh)
    | .rejected error, slice =>
        ({ slice with createStatus := .error, formError := some error }, .none)
    | _, slice =>
        ({ slice with
            createStatus := .error
            formError := some unreachableCopy }, .none)

def saveDraftEdit : GatedVerb Value where
  begins slice := { slice with editStatus := .saving, editError := none }
  answered
    | .done, slice => (cancelEdit slice, .refresh)
    | .rejected error, slice =>
        ({ slice with editStatus := .error, editError := some error }, .none)
    | _, slice =>
        ({ slice with
            editStatus := .error
            editError := some unreachableCopy }, .none)

/-- The entry and the three failures `advertise` and `readvertise` share. -/
def advertiseBegins (id : CohortId) (slice : GatedSlice Value) :
    GatedSlice Value :=
  { slice with
    advertiseStatus := .advertising
    advertisingId := some id
    advertiseMessage := none
    actionError := none }

def advertiseFails (copy : String) (slice : GatedSlice Value) :
    GatedSlice Value :=
  { slice with
    advertiseStatus := .error
    advertisingId := none
    actionError := some copy }

def advertiseSucceeds (copy : String) (slice : GatedSlice Value) :
    GatedSlice Value :=
  { slice with
    advertiseStatus := .idle
    advertisingId := none
    advertiseMessage := some copy }

def advertiseVerb (id : CohortId) : GatedVerb Value where
  begins := advertiseBegins id
  answered
    | .refused reason, slice =>
        (advertiseFails (actionFailedWith reason) slice, .none)
    | .declined, slice => (advertiseFails advertiseFailed slice, .none)
    | .advertised cohortId, slice =>
        (advertiseSucceeds advertisedOk slice, .refreshThenOpen cohortId)
    | _, slice => (advertiseFails unreachableCopy slice, .none)

def readvertiseVerb (id : CohortId) : GatedVerb Value where
  begins := advertiseBegins id
  answered
    | .refused reason, slice =>
        (advertiseFails (actionFailedWith reason) slice, .none)
    | .declined, slice => (advertiseFails readvertiseFailed slice, .none)
    | .done, slice => (advertiseSucceeds readvertisedOk slice, .refresh)
    | _, slice => (advertiseFails unreachableCopy slice, .none)

def discardVerb : GatedVerb Value where
  begins slice := { slice with actionError := none }
  answered
    | .done, slice => (slice, .refresh)
    | _, slice => ({ slice with actionError := some discardFailed }, .none)

def exportCohort : GatedVerb Value where
  begins slice := { slice with actionError := none }
  answered
    | .done, slice => (slice, .none)
    | _, slice => ({ slice with actionError := some exportFailed }, .none)

def cancelVerb (id : CohortId) : GatedVerb Value where
  begins slice := { slice with actionError := none, cancelling := some id }
  answered
    | .done, slice => (closeCohort { slice with cancelling := none }, .refresh)
    | _, slice =>
        ({ slice with
            actionError := some actionFailed
            cancelling := none }, .none)

def finalizeVerb (id : CohortId) : GatedVerb Value where
  begins slice := { slice with actionError := none, finalizing := some id }
  answered
    | .done, slice => ({ slice with finalizing := none }, .pollDetail)
    | .refused reason, slice =>
        ({ slice with
            actionError := some (actionFailedWith reason)
            finalizing := none }, .none)
    | _, slice =>
        ({ slice with
            actionError := some actionFailed
            finalizing := none }, .none)

def addTestPeersVerb (id : CohortId) : GatedVerb Value where
  begins slice :=
    { slice with testPeerError := none, addingTestPeers := some id }
  answered
    | .done, slice => ({ slice with addingTestPeers := none }, .pollDetail)
    | .refused reason, slice =>
        ({ slice with
            testPeerError := some (actionFailedWith reason)
            addingTestPeers := none }, .none)
    | _, slice =>
        ({ slice with
            testPeerError := some actionFailed
            addingTestPeers := none }, .none)

/-- The body `pauseAdvertising` and `resumeAdvertising` share; the message
follows the served bit. -/
def runAdvertisingToggle : GatedVerb Value where
  begins slice :=
    { slice with pauseBusy := true, pauseError := none, pauseMessage := none }
  answered
    | .toggled paused, slice =>
        ({ slice with
            pauseBusy := false
            pauseMessage := some (if paused then pausedOk else resumedOk) },
          .refresh)
    | _, slice =>
        ({ slice with
            pauseBusy := false
            pauseError := some actionFailed }, .none)

def disableBroadcastVerb : GatedVerb Value where
  begins slice := { slice with broadcastBusy := true, broadcastError := none }
  answered
    | .done, slice => ({ slice with broadcastBusy := false }, .refresh)
    | _, slice =>
        ({ slice with
            broadcastBusy := false
            broadcastError := some actionFailed }, .none)

def dismissVerb (id : CohortId) : GatedVerb Value where
  begins slice := { slice with actionError := none, dismissing := some id }
  answered
    | .done, slice => ({ slice with dismissing := none }, .refresh)
    | _, slice =>
        ({ slice with
            actionError := some actionFailed
            dismissing := none }, .none)

/-- The action verbs, by name. -/
inductive ConsoleVerb where
  | submitDraft
  | saveDraftEdit (id : CohortId)
  | advertise (id : CohortId)
  | readvertise (id : CohortId)
  | discard (id : CohortId)
  | exportCohort (id : CohortId)
  | cancelCohort (id : CohortId)
  | finalizeCohort (id : CohortId)
  | addTestPeers (id : CohortId)
  | pauseAdvertising
  | resumeAdvertising
  | disableBroadcast
  | dismissEnded (id : CohortId)
  deriving DecidableEq, Repr

namespace ConsoleVerb

/-- What a verb does. -/
def gated : ConsoleVerb → GatedVerb Value
  | .submitDraft => Btcr2Aggregation.submitDraft
  | .saveDraftEdit _ => Btcr2Aggregation.saveDraftEdit
  | .advertise id => advertiseVerb id
  | .readvertise id => readvertiseVerb id
  | .discard _ => discardVerb
  | .exportCohort _ => Btcr2Aggregation.exportCohort
  | .cancelCohort id => cancelVerb id
  | .finalizeCohort id => finalizeVerb id
  | .addTestPeers id => addTestPeersVerb id
  | .pauseAdvertising => runAdvertisingToggle
  | .resumeAdvertising => runAdvertisingToggle
  | .disableBroadcast => disableBroadcastVerb
  | .dismissEnded id => dismissVerb id

/-- What the client of each verb can answer. -/
def Expects : ConsoleVerb → VerbAnswer → Bool
  | .submitDraft, answer | .saveDraftEdit _, answer =>
      match answer with
      | .done | .unauthorized | .rejected _ | .thrown => true
      | _ => false
  | .advertise _, answer =>
      match answer with
      | .advertised _ | .unauthorized | .refused _ | .declined
      | .unreachable => true
      | _ => false
  | .readvertise _, answer =>
      match answer with
      | .done | .unauthorized | .refused _ | .declined | .unreachable => true
      | _ => false
  | .finalizeCohort _, answer | .addTestPeers _, answer =>
      match answer with
      | .done | .unauthorized | .refused _ | .unreachable => true
      | _ => false
  | .pauseAdvertising, answer | .resumeAdvertising, answer =>
      match answer with
      | .toggled _ | .unauthorized | .unreachable => true
      | _ => false
  | _, answer =>
      match answer with
      | .done | .unauthorized | .unreachable => true
      | _ => false

end ConsoleVerb

end Verbs

end Btcr2Aggregation
