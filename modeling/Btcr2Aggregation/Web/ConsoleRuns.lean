import Btcr2Aggregation.Library.Machine
import Btcr2Aggregation.Web.Console

/-!
# Sessions of the console

Requests in flight, in the order they went out, and their answers in any order.
A gated call captures the round it asks in, and its answer counts only while
that round stands.  A probe that finds a session gone and a sign-out act on
whichever session is live when they land.
-/

namespace Btcr2Aggregation

section Requests

/-! ## Requests and answers -/

/-- A request that is out, with what its caller captured.  A list read that
follows an advertise goes on to open the cohort. -/
inductive ConsoleRequest where
  | probe (askedAtRound : Nat)
  | signIn
  | signOut
  | refreshCohorts
      (asked : Option Nat) (opens : Option (Option Nat × CohortId))
  | pollDetail (asked : Option Nat) (askedFor : CohortId)
  | loadSettings (asked : Option Nat)
  | saveSettings (asked : Option Nat)
  | verb (verb : ConsoleVerb) (asked : Option Nat)
  deriving DecidableEq

/-- An answer; a sign-in or a probe that throws answers `none`. -/
inductive ConsoleAnswer (Value : Type) where
  | probe (state : Option SessionState)
  | login (status : Option Nat)
  | logout
  | cohorts (result : FetchResult (CohortsRead Value))
  | detail (result : FetchResult Value)
  | settings (result : FetchResult Value)
  | saved (result : SaveResult Value)
  | verb (answer : VerbAnswer)
  deriving DecidableEq

namespace ConsoleRequest

/-- The round a gated call asked in. -/
def asked? : ConsoleRequest → Option Nat
  | .refreshCohorts asked _ => asked
  | .pollDetail asked _ => asked
  | .loadSettings asked => asked
  | .saveSettings asked => asked
  | .verb _ asked => asked
  | _ => none

/-- The cohort a detail read is about. -/
def about? : ConsoleRequest → Option CohortId
  | .pollDetail _ askedFor => some askedFor
  | _ => none

/-- The answers a request can get. -/
def Expects {Value : Type} : ConsoleRequest → ConsoleAnswer Value → Bool
  | .probe _, .probe _ => true
  | .signIn, .login _ => true
  | .signOut, .logout => true
  | .refreshCohorts _ _, .cohorts _ => true
  | .pollDetail _ _, .detail _ => true
  | .loadSettings _, .settings _ => true
  | .saveSettings _, .saved _ => true
  | .verb named _, .verb answer => named.Expects answer
  | _, _ => false

end ConsoleRequest

/-- The service refused the session. -/
def ConsoleAnswer.unauthorized {Value : Type} : ConsoleAnswer Value → Bool
  | .cohorts .unauthorized => true
  | .detail .unauthorized => true
  | .settings .unauthorized => true
  | .saved .unauthorized => true
  | .verb .unauthorized => true
  | _ => false

end Requests

section Calls

/-! ## Calls and landings -/

variable {Value : Type}

namespace ConsoleState

def askingRound (console : ConsoleState Value) : Option Nat :=
  if console.auth = .loggedIn then some console.sessionRound else none

def stillAsking (console : ConsoleState Value) (asked : Option Nat) : Bool :=
  asked = some console.sessionRound

/-- Every path that ends a session retires its round with its slice. -/
def reset (console : ConsoleState Value) (error : Option String) :
    ConsoleState Value where
  auth := .loggedOut
  sessionRound := console.sessionRound + 1
  liveSessionRound := none
  error
  slice := {}

def expireSession (console : ConsoleState Value) : ConsoleState Value :=
  console.reset (some sessionExpired)

def expireIfStillAsking (console : ConsoleState Value) (asked : Option Nat) :
    ConsoleState Value :=
  if console.stillAsking asked then console.expireSession else console

def probeUnreachable (console : ConsoleState Value) : ConsoleState Value :=
  let ended :=
    if console.liveSessionRound.isSome then console.expireSession else console
  { ended with auth := .loggedOut, error := some unreachableCopy }

/-- A session starts: it takes a fresh round. -/
def start (console : ConsoleState Value) : ConsoleState Value :=
  { console with
    auth := .loggedIn
    sessionRound := console.sessionRound + 1
    liveSessionRound := some (console.sessionRound + 1) }

/-- The list read in the session that is live. -/
def refresh (console : ConsoleState Value) : List ConsoleRequest :=
  [.refreshCohorts console.askingRound none]

/-- `pollDetail` up to its request. -/
def poll (console : ConsoleState Value) : List ConsoleRequest :=
  match console.slice.view with
  | .detail cohortId => [.pollDetail console.askingRound cohortId]
  | _ => []

/-- The read an action goes on with. -/
def follow
    (console : ConsoleState Value) (asked : Option Nat) :
    Followup → List ConsoleRequest
  | .none => []
  | .refresh => console.refresh
  | .refreshThenOpen cohortId =>
      [.refreshCohorts console.askingRound (some (asked, cohortId))]
  | .pollDetail => console.poll

def probeLands
    (console : ConsoleState Value) (askedAtRound : Nat) :
    Option SessionState → ConsoleState Value × List ConsoleRequest
  | none | some .unreachable => (console.probeUnreachable, [])
  | some .loggedIn =>
      if console.liveSessionRound = none then
        if console.sessionRound ≠ askedAtRound then
          (console, [])
        else
          (console.start, console.start.refresh)
      else
        let confirmed := { console with auth := .loggedIn }
        (confirmed, confirmed.refresh)
  | some .loggedOut =>
      if console.liveSessionRound.isSome then
        (console.expireSession, [])
      else
        ({ console with auth := .loggedOut }, [])
  | some .disabled =>
      if console.liveSessionRound.isSome then
        ({ console.expireSession with auth := .disabled, error := none }, [])
      else
        ({ console with auth := .disabled }, [])

/-- No branch but the first takes a round. -/
def signInLands
    (console : ConsoleState Value) :
    Option Nat → ConsoleState Value × List ConsoleRequest
  | some 200 =>
      let started := { console.start with error := none }
      (started, started.refresh)
  | some 429 =>
      ({ console with
          auth := .loggedOut
          error := some throttled
          liveSessionRound := none }, [])
  | some 404 =>
      ({ console with
          auth := .disabled
          error := none
          liveSessionRound := none }, [])
  | some _ =>
      ({ console with
          auth := .loggedOut
          error := some invalidPassword
          liveSessionRound := none }, [])
  | none =>
      ({ console with
          auth := .loggedOut
          error := some unreachableCopy
          liveSessionRound := none }, [])

/-- The slice an answered list read leaves. -/
def paintCohorts
    (slice : GatedSlice Value) (now : Nat) (read : CohortsRead Value) :
    GatedSlice Value :=
  { slice with
    cohorts := read.cohorts
    rows := (read.monitoring.map MonitoringRead.rows).getD []
    metrics := read.monitoring.map MonitoringRead.metrics
    health := read.monitoring.bind MonitoringRead.health
    operatorActions :=
      (read.monitoring.bind MonitoringRead.operatorActions).getD []
    defaults := read.defaults
    listStale := false
    lastUpdated := some now }

def refreshLands
    (console : ConsoleState Value) (now : Nat) (asked : Option Nat) :
    FetchResult (CohortsRead Value) → ConsoleState Value
  | .unauthorized => console.expireIfStillAsking asked
  | .unreachable =>
      if console.stillAsking asked then
        { console with slice := { console.slice with listStale := true } }
      else
        console
  | .ok read =>
      if console.stillAsking asked then
        { console with slice := paintCohorts console.slice now read }
      else
        console

/-- The continuation of an advertise after its list read. -/
def opensAfter
    (console : ConsoleState Value) :
    Option (Option Nat × CohortId) → ConsoleState Value
  | some (asked, cohortId) =>
      if console.stillAsking asked then
        { console with slice := openCohort cohortId console.slice }
      else
        console
  | none => console

def pollLands
    (console : ConsoleState Value) (now : Nat) (asked : Option Nat)
    (askedFor : CohortId) : FetchResult Value → ConsoleState Value
  | .unauthorized => console.expireIfStillAsking asked
  | .unreachable =>
      if console.stillAsking asked ∧ console.slice.view = .detail askedFor then
        { console with slice := { console.slice with detailStale := true } }
      else
        console
  | .ok value =>
      if console.stillAsking asked ∧ console.slice.view = .detail askedFor then
        { console with
          slice :=
            { console.slice with
              detail := some value
              detailCohortId := some askedFor
              detailStale := false
              lastUpdated := some now } }
      else
        console

def settingsLands
    (console : ConsoleState Value) (asked : Option Nat) :
    FetchResult Value → ConsoleState Value
  | .unauthorized => console.expireIfStillAsking asked
  | .unreachable =>
      if console.stillAsking asked then
        { console with
          slice :=
            { console.slice with
              settingsStatus := .error
              settingsError := some unreachableCopy } }
      else
        console
  | .ok value =>
      if console.stillAsking asked then
        { console with
          slice :=
            { console.slice with
              settings := some value
              settingsStatus := .idle
              settingsError := none } }
      else
        console

def saveLands
    (console : ConsoleState Value) (asked : Option Nat) :
    SaveResult Value → ConsoleState Value
  | .unauthorized => console.expireIfStillAsking asked
  | .saved snapshot =>
      if console.stillAsking asked then
        { console with
          slice :=
            { console.slice with
              settings := some snapshot
              settingsStatus := .idle
              settingsMessage := some settingsSavedOk } }
      else
        console
  | .rejected error =>
      if console.stillAsking asked then
        { console with
          slice :=
            { console.slice with
              settingsStatus := .error
              settingsError := some error } }
      else
        console
  | .thrown =>
      if console.stillAsking asked then
        { console with
          slice :=
            { console.slice with
              settingsStatus := .error
              settingsError := some unreachableCopy } }
      else
        console

def verbLands
    (console : ConsoleState Value) (verb : ConsoleVerb) (asked : Option Nat)
    (answer : VerbAnswer) : ConsoleState Value × List ConsoleRequest :=
  if answer = .unauthorized then
    (console.expireIfStillAsking asked, [])
  else if console.stillAsking asked then
    let answered := verb.gated.answered answer console.slice
    let written := { console with slice := answered.1 }
    (written, written.follow asked answered.2)
  else
    (console, [])

/-- An answer lands. -/
def lands
    (console : ConsoleState Value) (now : Nat) :
    ConsoleRequest → ConsoleAnswer Value →
      ConsoleState Value × List ConsoleRequest
  | .probe askedAtRound, .probe state => console.probeLands askedAtRound state
  | .signIn, .login status => console.signInLands status
  | .signOut, _ => (console.reset none, [])
  | .refreshCohorts asked opens, .cohorts result =>
      ((console.refreshLands now asked result).opensAfter opens, [])
  | .pollDetail asked askedFor, .detail result =>
      (console.pollLands now asked askedFor result, [])
  | .loadSettings asked, .settings result =>
      (console.settingsLands asked result, [])
  | .saveSettings asked, .saved result => (console.saveLands asked result, [])
  | .verb verb asked, .verb answer => console.verbLands verb asked answer
  | _, _ => (console, [])

end ConsoleState

end Calls

section Acts

/-! ## What the operator does -/

/-- The acts on the console, and the timers of the three confirmations. -/
inductive ConsoleAct where
  | probe
  | signIn
  | signOut
  | refreshCohorts
  | pollDetail
  | loadSettings
  | saveSettings
  | verb (named : ConsoleVerb)
  | openCohort (cohortId : CohortId)
  | closeCohort
  | openSettings
  | closeSettings
  | beginEdit (draftId : CohortId)
  | cancelEdit
  | fades (message : String)
  deriving DecidableEq

variable {Value : Type}

/-- A confirmation goes, where it is still the same one. -/
def fades (message : String) (slice : GatedSlice Value) : GatedSlice Value :=
  let faded (shown : Option String) : Option String :=
    if shown = some message then none else shown
  { slice with
    advertiseMessage := faded slice.advertiseMessage
    pauseMessage := faded slice.pauseMessage
    settingsMessage := faded slice.settingsMessage }

namespace ConsoleState

/-- A change of the slice that asks nothing. -/
def turn
    (console : ConsoleState Value)
    (change : GatedSlice Value → GatedSlice Value) :
    ConsoleState Value × List ConsoleRequest :=
  ({ console with slice := change console.slice }, [])

/-- An act up to its request. -/
def acts
    (console : ConsoleState Value) :
    ConsoleAct → ConsoleState Value × List ConsoleRequest
  | .probe =>
      ({ console with auth := .checking, error := none },
        [.probe console.sessionRound])
  | .signIn =>
      ({ console with auth := .loggingIn, error := none }, [.signIn])
  | .signOut => (console, [.signOut])
  | .refreshCohorts => (console, console.refresh)
  | .pollDetail => (console, console.poll)
  | .loadSettings => (console, [.loadSettings console.askingRound])
  | .saveSettings =>
      ({ console with
          slice :=
            { console.slice with
              settingsStatus := .saving
              settingsError := none
              settingsMessage := none } },
        [.saveSettings console.askingRound])
  | .verb named =>
      ({ console with slice := named.gated.begins console.slice },
        [.verb named console.askingRound])
  | .openCohort cohortId =>
      console.turn (Btcr2Aggregation.openCohort cohortId)
  | .closeCohort => console.turn Btcr2Aggregation.closeCohort
  | .openSettings => console.turn Btcr2Aggregation.openSettings
  | .closeSettings => console.turn Btcr2Aggregation.closeSettings
  | .beginEdit draftId => console.turn (Btcr2Aggregation.beginEdit draftId)
  | .cancelEdit => console.turn Btcr2Aggregation.cancelEdit
  | .fades message => console.turn (Btcr2Aggregation.fades message)

end ConsoleState

end Acts

section Machine

/-! ## The console under every interleaving -/

/-- A served document, with the session that was live when the request it
answers went out, and the cohort that request was about. -/
structure Stamped (Value : Type) where
  value : Value
  session : Option Nat
  about : Option CohortId
  deriving DecidableEq

/-- A request that is out, with the session that was live when it went. -/
structure Issued where
  request : ConsoleRequest
  session : Option Nat
  deriving DecidableEq

section Map

variable {Value Other : Type} (carry : Value → Other)

def FetchResult.map : FetchResult Value → FetchResult Other
  | .ok value => .ok (carry value)
  | .unauthorized => .unauthorized
  | .unreachable => .unreachable

def MonitoringRead.map (read : MonitoringRead Value) :
    MonitoringRead Other where
  rows := read.rows.map carry
  metrics := carry read.metrics
  health := read.health.map carry
  operatorActions := read.operatorActions.map (List.map carry)

def CohortsRead.map (read : CohortsRead Value) : CohortsRead Other where
  cohorts := read.cohorts.map carry
  monitoring := read.monitoring.map (MonitoringRead.map carry)
  defaults := read.defaults.map carry

def SaveResult.map : SaveResult Value → SaveResult Other
  | .saved snapshot => .saved (carry snapshot)
  | .unauthorized => .unauthorized
  | .rejected error => .rejected error
  | .thrown => .thrown

def ConsoleAnswer.map : ConsoleAnswer Value → ConsoleAnswer Other
  | .probe state => .probe state
  | .login status => .login status
  | .logout => .logout
  | .cohorts result => .cohorts (FetchResult.map (CohortsRead.map carry) result)
  | .detail result => .detail (result.map carry)
  | .settings result => .settings (result.map carry)
  | .saved result => .saved (result.map carry)
  | .verb answer => .verb answer

end Map

/-- The documents of an answer to `issued` carry where they come from. -/
def Issued.stamp {Value : Type} (issued : Issued) (value : Value) :
    Stamped Value where
  value
  session := issued.session
  about := issued.request.about?

/-- The console, and what is out. -/
structure ConsoleRun (Value : Type) where
  console : ConsoleState (Stamped Value)
  inFlight : List Issued
  deriving DecidableEq

inductive ConsoleEvent (Value : Type) where
  | act (named : ConsoleAct)
  | lands (issued : Issued) (now : Nat) (answer : ConsoleAnswer Value)
  deriving DecidableEq

variable {Value : Type}

namespace ConsoleRun

/-- The console moves and its requests go out. -/
def goesOn
    (inFlight : List Issued)
    (moved : ConsoleState (Stamped Value) × List ConsoleRequest) :
    ConsoleRun Value where
  console := moved.1
  inFlight :=
    inFlight ++
      moved.2.map fun request => ⟨request, moved.1.liveSessionRound⟩

def step (run : ConsoleRun Value) : ConsoleEvent Value → ConsoleRun Value
  | .act named => goesOn run.inFlight (run.console.acts named)
  | .lands issued now answer =>
      goesOn (run.inFlight.erase issued)
        (run.console.lands now issued.request (answer.map issued.stamp))

/-- A request is answered once, and in its own terms. -/
def Offers (run : ConsoleRun Value) : ConsoleEvent Value → Prop
  | .act _ => True
  | .lands issued _ answer =>
      issued ∈ run.inFlight ∧ issued.request.Expects answer = true

instance decidableOffers (run : ConsoleRun Value) :
    ∀ event, Decidable (run.Offers event)
  | .act _ => isTrue trivial
  | .lands issued _ answer =>
      inferInstanceAs
        (Decidable
          (issued ∈ run.inFlight ∧ issued.request.Expects answer = true))

end ConsoleRun

def consoleMachine (Value : Type) :
    Machine (ConsoleRun Value) (ConsoleEvent Value) where
  init := { console := .opened, inFlight := [] }
  step := ConsoleRun.step
  admits := ConsoleRun.Offers

instance (run : ConsoleRun Value) (event : ConsoleEvent Value) :
    Decidable ((consoleMachine Value).admits run event) :=
  run.decidableOffers event

end Machine

end Btcr2Aggregation
