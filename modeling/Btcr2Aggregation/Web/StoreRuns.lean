import Btcr2Aggregation.Library.Machine
import Btcr2Aggregation.Web.Registration

/-!
# Runs of the page

One event at a time: an act of the user, an event of any participant the page
ever made, the landing of any fetch a poll ever started, a timer, or the
landing of an awaited chain call.  A closure outlives its round, so each of
these can come at any later time.
-/

namespace Btcr2Aggregation

section Events

/-! ## Events -/

inductive PageEvent where
  | adopt (identity : Identity)
  | termsRecorded (acceptance : TermsAcceptance)
  | join (cohortId : CohortId) (sizing : Option CohortSizing)
  | leave
  | startOver
  | submitUpdate
  | register (acknowledgeMainnet : Bool)
  | setSigningMethod (method : SigningMethod)
  | exportPsbt
  | submitSignedPsbt (input : PsbtInput)
  | clearPsbt
  | startResolved (participant : RoundId)
  | startRejected (participant : RoundId) (message : String)
  | runner (participant : RoundId) (event : RunnerEvent)
  | provideUpdate
      (participant : RoundId) (cohortId : CohortId) (beaconAddress : String)
      (randomness : Nat)
  | directoryLands (poll : Poll) (answer : Option (List DirectoryCohortDTO))
  | graceFires (timer : GraceTimer)
  | postSeatLands (poll : Poll) (answer : Option (List DirectoryCohortDTO))
  | fateLands (read : FateRead) (canceled : Bool)
  | fundsLand
      (call : ChainCall) (answer : Except String (List RegistrationUtxo))
      (randomness : Nat)
  | broadcastLands (call : ChainCall) (answer : Except String String)
  | exportLands
      (call : ChainCall) (answer : Except String (List RegistrationUtxo))

namespace PageEvent

/-- The round an event's source was made in; an act of the user is of the
round in hand. -/
def origin? : PageEvent → Option RoundId
  | .startResolved participant => some participant
  | .startRejected participant _ => some participant
  | .runner participant _ => some participant
  | .provideUpdate participant _ _ _ => some participant
  | .directoryLands poll _ => some poll.participant
  | .graceFires timer => some timer.participant
  | .postSeatLands poll _ => some poll.participant
  | .fateLands read _ => some read.participant
  | .fundsLand call _ _ => some call.round
  | .broadcastLands call _ => some call.round
  | .exportLands call _ => some call.round
  | _ => none

/-- The event comes from a round that is over. -/
def Stale (event : PageEvent) (page : Page) : Prop :=
  ∃ origin, event.origin? = some origin ∧ origin ≠ page.round

end PageEvent

/-- A funding read answers with coins of the address it asks about. -/
def AnswersAddress
    (config : PageConfig) (call : ChainCall)
    (answer : Except String (List RegistrationUtxo)) : Prop :=
  match answer with
  | .error _ => True
  | .ok utxos =>
      ∀ utxo ∈ utxos, config.payee utxo.toOutpoint = call.beaconRegAddress

instance
    (config : PageConfig) (call : ChainCall)
    (answer : Except String (List RegistrationUtxo)) :
    Decidable (AnswersAddress config call answer) :=
  match answer with
  | .error _ => isTrue trivial
  | .ok utxos =>
      inferInstanceAs
        (Decidable
          (∀ utxo ∈ utxos,
            config.payee utxo.toOutpoint = call.beaconRegAddress))

end Events

section Steps

/-! ## Steps -/

namespace Page

def step (config : PageConfig) (page : Page) : PageEvent → Page
  | .adopt identity => adopt config identity page
  | .termsRecorded acceptance =>
      { page with termsAcceptance := some acceptance }
  | .join cohortId sizing => join config cohortId sizing page
  | .leave => leave page
  | .startOver => startOver page
  | .submitUpdate => submitUpdate page
  | .register acknowledgeMainnet => register config acknowledgeMainnet page
  | .setSigningMethod method => setSigningMethod method page
  | .exportPsbt => exportPsbt page
  | .submitSignedPsbt input => submitSignedPsbt config input page
  | .clearPsbt => clearPsbt page
  | .startResolved participant => startResolved participant page
  | .startRejected participant message => startRejected participant message page
  | .runner participant event => onRunnerEvent config participant event page
  | .provideUpdate participant cohortId beaconAddress randomness =>
      onProvideUpdate config participant cohortId beaconAddress randomness page
  | .directoryLands poll answer => directoryLands poll answer page
  | .graceFires timer => graceFires timer page
  | .postSeatLands poll answer => postSeatLands poll answer page
  | .fateLands read canceled => fateLands read canceled page
  | .fundsLand call answer randomness =>
      fundsLand config call answer randomness page
  | .broadcastLands call answer => broadcastLands call answer page
  | .exportLands call answer => exportLands config call answer page

/-- The events that can come: only closures that exist, a start that is
outstanding, a timer that is armed, a call at the await it is at. -/
def Offers (config : PageConfig) (page : Page) : PageEvent → Prop
  | .startResolved participant => participant ∈ page.starting
  | .startRejected participant _ => participant ∈ page.starting
  | .runner participant _ => participant ∈ page.participants
  | .provideUpdate participant _ _ _ => participant ∈ page.participants
  | .directoryLands poll _ => poll ∈ page.directoryPolls
  | .graceFires timer => page.joinGrace = some timer ∧ timer.fired = false
  | .postSeatLands poll _ => poll ∈ page.postSeatPolls
  | .fateLands read _ => read ∈ page.fateReads
  | .fundsLand call answer _ =>
      call ∈ page.registerCalls ∧ call.txid = none ∧
        AnswersAddress config call answer
  | .broadcastLands call _ =>
      call ∈ page.registerCalls ∧ call.txid ≠ none
  | .exportLands call answer =>
      call ∈ page.exportCalls ∧ AnswersAddress config call answer
  | _ => True

instance decidableOffers (config : PageConfig) (page : Page) :
    ∀ event, Decidable (page.Offers config event)
  | .adopt _ => isTrue trivial
  | .termsRecorded _ => isTrue trivial
  | .join _ _ => isTrue trivial
  | .leave => isTrue trivial
  | .startOver => isTrue trivial
  | .submitUpdate => isTrue trivial
  | .register _ => isTrue trivial
  | .setSigningMethod _ => isTrue trivial
  | .exportPsbt => isTrue trivial
  | .submitSignedPsbt _ => isTrue trivial
  | .clearPsbt => isTrue trivial
  | .startResolved participant =>
      inferInstanceAs (Decidable (participant ∈ page.starting))
  | .startRejected participant _ =>
      inferInstanceAs (Decidable (participant ∈ page.starting))
  | .runner participant _ =>
      inferInstanceAs (Decidable (participant ∈ page.participants))
  | .provideUpdate participant _ _ _ =>
      inferInstanceAs (Decidable (participant ∈ page.participants))
  | .directoryLands poll _ =>
      inferInstanceAs (Decidable (poll ∈ page.directoryPolls))
  | .graceFires timer =>
      inferInstanceAs
        (Decidable (page.joinGrace = some timer ∧ timer.fired = false))
  | .postSeatLands poll _ =>
      inferInstanceAs (Decidable (poll ∈ page.postSeatPolls))
  | .fateLands read _ => inferInstanceAs (Decidable (read ∈ page.fateReads))
  | .fundsLand call answer _ =>
      inferInstanceAs
        (Decidable
          (call ∈ page.registerCalls ∧ call.txid = none ∧
            AnswersAddress config call answer))
  | .broadcastLands call _ =>
      inferInstanceAs
        (Decidable (call ∈ page.registerCalls ∧ call.txid ≠ none))
  | .exportLands call answer =>
      inferInstanceAs
        (Decidable
          (call ∈ page.exportCalls ∧ AnswersAddress config call answer))

end Page

/-- The page under every interleaving. -/
def pageMachine (config : PageConfig) : Machine Page PageEvent where
  init := Page.fresh
  step := Page.step config
  admits := Page.Offers config

instance (config : PageConfig) (page : Page) (event : PageEvent) :
    Decidable ((pageMachine config).admits page event) :=
  page.decidableOffers config event

/-- A page of a hermetic service. -/
def plainConfig : PageConfig where
  network := .mutinynet
  termsText := none
  method := plainLibrary
  signer := numberedSigner
  updateHashBytes _ := List.replicate 32 7
  updateHashHex _ := "07"
  payee _ := "k1"

end Steps

section PollWrites

/-! ## What the polls and the timer write -/

/-- The single writes a poll's or a timer's handler is made of. -/
inductive PollWrite (participant : RoundId) : Page → Page → Prop where
  | showSeats (page : Page) (seats : Option Seats) :
      PollWrite participant page (page.showSeats seats)
  | closeJoin (page : Page) : PollWrite participant page page.closeJoin
  | clearJoinGrace (page : Page) :
      PollWrite participant page page.clearJoinGrace
  | armGrace (page : Page) :
      PollWrite participant page (page.armGrace participant)
  | spendGrace (page : Page) (timer : GraceTimer)
      (armed : page.joinGrace = some timer) :
      PollWrite participant page
        { page with joinGrace := some { timer with fired := true } }
  | fail (page : Page) (reason : String)
      (running : page.facts.status ≠ .failed) :
      PollWrite participant page (page.fail reason)
  | count (page : Page) (postSeatFailures postSeatGoneStreak : Nat) :
      PollWrite participant page
        { page with postSeatFailures, postSeatGoneStreak }
  | tell (page : Page) (unreachable canceled : Bool) :
      PollWrite participant page
        { page with outcome := { page.outcome with unreachable, canceled } }
  | ask (page : Page) (fateReads : List FateRead) :
      PollWrite participant page { page with fateReads }

namespace Page

/-- A poll's or a timer's handler wrote this. -/
abbrev PollWrote (participant : RoundId) : Page → Page → Prop :=
  Relation.ReflTransGen (PollWrite participant)

variable (page : Page) (participant : RoundId)

private theorem running_of_underWay
    {status : ParticipantStatus} (underWay : status.underWay = true) :
    status ≠ .failed := by
  rintro rfl
  cases underWay

theorem pollWrote_handleDirectorySnapshot (rows : List DirectoryCohortDTO) :
    PollWrote participant page
      (page.handleDirectorySnapshot participant rows) := by
  unfold handleDirectorySnapshot
  split
  · exact .refl
  · next pickedId _ =>
    have shown : PollWrote participant page (page.showSeats (seatsOf rows pickedId)) :=
      .single (.showSeats page _)
    split
    · exact .refl
    · next guards =>
      have running : page.facts.status ≠ .failed := by
        apply running_of_underWay
        exact Bool.eq_true_of_not_eq_false fun idle => guards (.inr idle)
      dsimp only
      split
      · split
        · exact shown.tail (.clearJoinGrace _)
        · exact shown
      · split
        · exact (shown.tail (.closeJoin _)).tail (.fail _ _ running)
        · split
          · exact shown
          · exact shown.tail (.armGrace _)

theorem pollWrote_directoryLands
    (poll : Poll) (answer : Option (List DirectoryCohortDTO)) :
    PollWrote poll.participant page (page.directoryLands poll answer) := by
  unfold directoryLands
  split
  · exact .refl
  · split
    · exact page.pollWrote_handleDirectorySnapshot _ _
    · exact .refl

theorem pollWrote_graceFires
    {timer : GraceTimer} (armed : page.joinGrace = some timer) :
    PollWrote timer.participant page (page.graceFires timer) := by
  have spent :
      PollWrote timer.participant page
        { page with joinGrace := some { timer with fired := true } } :=
    .single (.spendGrace page timer armed)
  unfold graceFires
  split
  · next guards =>
    exact
      (spent.tail (.closeJoin _)).tail
        (.fail _ _ (running_of_underWay guards.2))
  · exact spent

theorem pollWrote_handlePostSeatSnapshot (rows : List DirectoryCohortDTO) :
    PollWrote participant page (page.handlePostSeatSnapshot participant rows) := by
  unfold handlePostSeatSnapshot
  split
  · exact .refl
  · split
    · exact .refl
    · next guards =>
      have running : page.facts.status ≠ .failed := by
        intro failed
        exact guards (.inr (by rw [failed]; nofun))
      have counted (streak : Nat) :
          PollWrote participant page { page with postSeatGoneStreak := streak } :=
        .single (.count page page.postSeatFailures streak)
      split
      · split
        · exact counted _
        · have failed :
              PollWrote participant page
                (fail honestTerminalFallback
                  { page with
                    postSeatGoneStreak := page.postSeatGoneStreak + 1 }) :=
            (counted _).tail (.fail _ _ running)
          exact failed.tail (.ask _ _)
      · exact
          (counted 0).tail
            (.tell { page with postSeatGoneStreak := 0 } false
              page.outcome.canceled)

theorem pollWrote_postSeatLands
    (poll : Poll) (answer : Option (List DirectoryCohortDTO)) :
    PollWrote poll.participant page (page.postSeatLands poll answer) := by
  have counted (failures : Nat) :
      PollWrote poll.participant page { page with postSeatFailures := failures } :=
    .single (.count page failures page.postSeatGoneStreak)
  unfold postSeatLands
  split
  · split
    · exact (counted 0).trans (pollWrote_handlePostSeatSnapshot _ _ _)
    · exact
        (counted _).tail
          (.tell { page with postSeatFailures := page.postSeatFailures + 1 } _
            page.outcome.canceled)
  · exact .refl

theorem pollWrote_fateLands (read : FateRead) (canceled : Bool) :
    PollWrote read.participant page (page.fateLands read canceled) := by
  have asked :
      PollWrote read.participant page
        { page with fateReads := page.fateReads.erase read } :=
    .single (.ask page _)
  unfold fateLands
  split
  · exact
      asked.tail
        (.tell { page with fateReads := page.fateReads.erase read }
          page.outcome.unreachable true)
  · exact asked

end Page

end PollWrites

end Btcr2Aggregation
