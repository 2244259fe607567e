import Btcr2Aggregation.Web.StoreRuns

/-!
# Rounds are isolated

Every join, leave, start over and new identity begins a round.  The polls, the
grace timer and a resolved `start()` never reach into a later one: a poll's
epoch is current only in the round that made it, or where the page has no
participant of its own and the handlers look away.  What the page does not
guard is listed in `LandsInOwnRound`.
-/

namespace Btcr2Aggregation

section Views

/-! ## What a round owns -/

/-- The status, error, seat and submit window, the result, the capture and the
live participant. -/
structure RoundView where
  facts : JoinFacts
  result : Option ParticipantResult
  captured : Option Captured
  pendingSubmit : Option PendingSubmit
  live : Option RoundId
  deriving DecidableEq

namespace Page

def roundView (page : Page) : RoundView where
  facts := page.facts
  result := page.outcome.result
  captured := page.captured
  pendingSubmit := page.pendingSubmit
  live := page.live

/-- The source is of the round in hand, or the round has no participant. -/
def Owned (page : Page) (participant : RoundId) : Prop :=
  participant = page.round ∨ page.round ∉ page.participants

end Page

/-- An event of an earlier round changes nothing the round in hand owns and
stops no participant. -/
def RoundIsolated (config : PageConfig) (page : Page) (event : PageEvent) : Prop :=
  event.Stale page → (page.step config event).roundView = page.roundView

/-- What the page does not guard lands in its own round: a start that rejects,
a cohort-ready, a cohort-complete, a cohort-failed and the submit gate.  A
later round looks away from a cohort-joined once it has ended, and from an
error unless it is under way. -/
def LandsInOwnRound (config : PageConfig) (page : Page) : PageEvent → Prop
  | .startRejected participant _ => participant = page.round
  | .runner participant (.cohortJoined _) =>
      participant = page.round ∨ page.facts.status.ended = true
  | .runner participant (.cohortReady _ _) => participant = page.round
  | .runner participant (.cohortComplete _) => participant = page.round
  | .runner participant (.cohortFailed _ _) => participant = page.round
  | .runner participant (.error _) =>
      participant = page.round ∨ page.facts.status.underWay = false
  | .provideUpdate participant cohortId beaconAddress randomness =>
      participant = page.round ∨
        page.opensGate config participant cohortId beaconAddress randomness =
          false
  | _ => True

instance decidableLandsInOwnRound
    (config : PageConfig) (page : Page) (event : PageEvent) :
    Decidable (LandsInOwnRound config page event) := by
  induction event using PageEvent.casesOn with
  | startRejected participant _ =>
      exact inferInstanceAs (Decidable (participant = page.round))
  | runner participant event =>
      induction event using RunnerEvent.casesOn with
      | cohortJoined _ =>
          exact
            inferInstanceAs
              (Decidable
                (participant = page.round ∨ page.facts.status.ended = true))
      | error _ =>
          exact
            inferInstanceAs
              (Decidable
                (participant = page.round ∨
                  page.facts.status.underWay = false))
      | cohortReady _ _ =>
          exact inferInstanceAs (Decidable (participant = page.round))
      | cohortComplete _ =>
          exact inferInstanceAs (Decidable (participant = page.round))
      | cohortFailed _ _ =>
          exact inferInstanceAs (Decidable (participant = page.round))
      | _ => exact isTrue trivial
  | provideUpdate participant cohortId beaconAddress randomness =>
      exact
        inferInstanceAs
          (Decidable
            (participant = page.round ∨
              page.opensGate config participant cohortId beaconAddress
                  randomness =
                false))
  | _ => exact isTrue trivial

/-- Nothing is under way. -/
structure JoinFacts.Idle (facts : JoinFacts) : Prop where
  notUnderWay : facts.status.underWay = false
  unseated : facts.seated = false
  unpicked : facts.pickedCohortId = none

theorem JoinFacts.idle_cleared
    {status : ParticipantStatus} (rests : status.underWay = false) :
    (JoinFacts.cleared status).Idle :=
  ⟨rests, rfl, rfl⟩

/-- Sources know their round. -/
structure RoundsApart (page : Page) : Prop where
  known : ∀ participant ∈ page.participants, participant ≤ page.round
  liveOwned : ∀ participant, page.live = some participant → page.Owned participant
  directoryPolls :
    ∀ poll ∈ page.directoryPolls,
      poll.epoch ≤ page.directoryEpoch ∧
        (poll.epoch = page.directoryEpoch → page.Owned poll.participant)
  postSeatPolls :
    ∀ poll ∈ page.postSeatPolls,
      poll.epoch ≤ page.postSeatEpoch ∧
        (poll.epoch = page.postSeatEpoch → page.Owned poll.participant)
  grace :
    ∀ timer, page.joinGrace = some timer → page.Owned timer.participant
  idle : page.round ∉ page.participants → page.facts.Idle

theorem RoundsApart.idle_of_stale
    {page : Page} {participant : RoundId}
    (apart : RoundsApart page) (owned : page.Owned participant)
    (stale : participant ≠ page.round) :
    page.facts.Idle := by
  rcases owned with same | noParticipant
  · exact absurd same stale
  · exact apart.idle noParticipant

theorem RoundsApart.fresh : RoundsApart Page.fresh where
  known _ member := absurd member (AList.notMem_empty _)
  liveOwned _ held := by cases held
  directoryPolls _ member := by cases member
  postSeatPolls _ member := by cases member
  grace _ armed := by cases armed
  idle _ := JoinFacts.idle_cleared rfl

end Views

section SameRound

/-! ## Steps within a round -/

/-- What a step that begins no round keeps. -/
structure KeepsRound (before after : Page) : Prop where
  round : after.round = before.round
  participants :
    ∀ participant,
      participant ∈ after.participants ↔ participant ∈ before.participants
  live :
    ∀ participant,
      after.live = some participant → before.live = some participant
  directoryEpoch : before.directoryEpoch ≤ after.directoryEpoch
  directoryPolls :
    ∀ poll ∈ after.directoryPolls,
      poll ∈ before.directoryPolls ∨
        (poll.epoch ≤ after.directoryEpoch ∧ before.Owned poll.participant)
  postSeatEpoch : before.postSeatEpoch ≤ after.postSeatEpoch
  postSeatPolls :
    ∀ poll ∈ after.postSeatPolls,
      poll ∈ before.postSeatPolls ∨
        (poll.epoch ≤ after.postSeatEpoch ∧ before.Owned poll.participant)
  grace :
    ∀ timer, after.joinGrace = some timer →
      (∃ armed,
          before.joinGrace = some armed ∧
            armed.participant = timer.participant) ∨
        before.Owned timer.participant
  idle :
    before.round ∉ before.participants → before.facts.Idle → after.facts.Idle

namespace KeepsRound

variable {before middle after : Page}

theorem owned_iff (keeps : KeepsRound before after) (participant : RoundId) :
    after.Owned participant ↔ before.Owned participant := by
  rw [Page.Owned, Page.Owned, keeps.round, keeps.participants]

/-- A step that leaves the handles and the facts alone. -/
theorem of_frame
    (round : after.round = before.round)
    (participants :
      ∀ participant,
        participant ∈ after.participants ↔ participant ∈ before.participants)
    (live : after.live = before.live)
    (directory :
      (after.directoryEpoch, after.directoryPolls) =
        (before.directoryEpoch, before.directoryPolls))
    (postSeat :
      (after.postSeatEpoch, after.postSeatPolls) =
        (before.postSeatEpoch, before.postSeatPolls))
    (grace : after.joinGrace = before.joinGrace)
    (idle : before.facts.Idle → after.facts.Idle) :
    KeepsRound before after := by
  obtain ⟨directoryEpoch, directoryPolls⟩ := Prod.mk.inj directory
  obtain ⟨postSeatEpoch, postSeatPolls⟩ := Prod.mk.inj postSeat
  refine
    ⟨round, participants, fun _ held => live ▸ held, directoryEpoch.ge, ?_,
      postSeatEpoch.ge, ?_, ?_, fun _ => idle⟩
  · intro poll member
    exact Or.inl (directoryPolls ▸ member)
  · intro poll member
    exact Or.inl (postSeatPolls ▸ member)
  · intro timer armed
    exact Or.inl ⟨timer, grace ▸ armed, rfl⟩

theorem trans
    (first : KeepsRound before middle) (second : KeepsRound middle after) :
    KeepsRound before after where
  round := second.round.trans first.round
  participants participant :=
    (second.participants participant).trans (first.participants participant)
  live participant held := first.live participant (second.live participant held)
  directoryEpoch := first.directoryEpoch.trans second.directoryEpoch
  directoryPolls poll member := by
    rcases second.directoryPolls poll member with earlier | ⟨epoch, owned⟩
    · rcases first.directoryPolls poll earlier with old | ⟨epoch, owned⟩
      · exact Or.inl old
      · exact Or.inr ⟨epoch.trans second.directoryEpoch, owned⟩
    · exact Or.inr ⟨epoch, (first.owned_iff _).mp owned⟩
  postSeatEpoch := first.postSeatEpoch.trans second.postSeatEpoch
  postSeatPolls poll member := by
    rcases second.postSeatPolls poll member with earlier | ⟨epoch, owned⟩
    · rcases first.postSeatPolls poll earlier with old | ⟨epoch, owned⟩
      · exact Or.inl old
      · exact Or.inr ⟨epoch.trans second.postSeatEpoch, owned⟩
    · exact Or.inr ⟨epoch, (first.owned_iff _).mp owned⟩
  grace timer armed := by
    rcases second.grace timer armed with ⟨earlier, held, same⟩ | owned
    · rcases first.grace earlier held with ⟨old, oldHeld, oldSame⟩ | owned
      · exact Or.inl ⟨old, oldHeld, oldSame.trans same⟩
      · exact Or.inr (same ▸ owned)
    · exact Or.inr ((first.owned_iff _).mp owned)
  idle noParticipant rests := by
    refine second.idle ?_ (first.idle noParticipant rests)
    rw [first.round, first.participants]
    exact noParticipant

/-- An invariant page stays one within its round. -/
theorem apart
    (keeps : KeepsRound before after) (apart : RoundsApart before) :
    RoundsApart after where
  known participant member := by
    rw [keeps.round]
    exact apart.known participant ((keeps.participants participant).mp member)
  liveOwned participant held :=
    (keeps.owned_iff participant).mpr
      (apart.liveOwned participant (keeps.live participant held))
  directoryPolls poll member := by
    have epochs := keeps.directoryEpoch
    rcases keeps.directoryPolls poll member with old | ⟨epoch, owned⟩
    · obtain ⟨bound, own⟩ := apart.directoryPolls poll old
      refine ⟨bound.trans epochs, fun current => ?_⟩
      exact (keeps.owned_iff _).mpr (own (by omega))
    · exact ⟨epoch, fun _ => (keeps.owned_iff _).mpr owned⟩
  postSeatPolls poll member := by
    have epochs := keeps.postSeatEpoch
    rcases keeps.postSeatPolls poll member with old | ⟨epoch, owned⟩
    · obtain ⟨bound, own⟩ := apart.postSeatPolls poll old
      refine ⟨bound.trans epochs, fun current => ?_⟩
      exact (keeps.owned_iff _).mpr (own (by omega))
    · exact ⟨epoch, fun _ => (keeps.owned_iff _).mpr owned⟩
  grace timer armed := by
    rcases keeps.grace timer armed with ⟨earlier, held, same⟩ | owned
    · exact (keeps.owned_iff _).mpr (same ▸ apart.grace earlier held)
    · exact (keeps.owned_iff _).mpr owned
  idle noParticipant := by
    rw [keeps.round, keeps.participants] at noParticipant
    exact keeps.idle noParticipant (apart.idle noParticipant)

end KeepsRound

end SameRound

section NewRounds

/-! ## New rounds -/

variable {page : Page}

theorem RoundsApart.next_notMem (apart : RoundsApart page) :
    page.round + 1 ∉ page.participants :=
  fun member => absurd (apart.known _ member) (Nat.not_succ_le_self _)

/-- A round without a participant: whatever came before is looked away from. -/
theorem RoundsApart.of_unjoined
    {next : Page} (apart : RoundsApart page)
    (round : next.round = page.round + 1)
    (participants : next.participants = page.participants)
    (directory :
      page.directoryEpoch ≤ next.directoryEpoch ∧
        next.directoryPolls = page.directoryPolls)
    (postSeat :
      page.postSeatEpoch ≤ next.postSeatEpoch ∧
        next.postSeatPolls = page.postSeatPolls)
    (idle : next.facts.Idle) :
    RoundsApart next := by
  have owned : ∀ participant, next.Owned participant := by
    intro participant
    refine Or.inr ?_
    rw [round, participants]
    exact apart.next_notMem
  refine ⟨?_, fun _ _ => owned _, ?_, ?_, fun _ _ => owned _, fun _ => idle⟩
  · intro participant member
    rw [participants] at member
    rw [round]
    exact Nat.le_succ_of_le (apart.known participant member)
  · intro poll member
    rw [directory.2] at member
    exact
      ⟨(apart.directoryPolls poll member).1.trans directory.1,
        fun _ => owned _⟩
  · intro poll member
    rw [postSeat.2] at member
    exact
      ⟨(apart.postSeatPolls poll member).1.trans postSeat.1, fun _ => owned _⟩

theorem RoundsApart.adopt
    (apart : RoundsApart page) (config : PageConfig) (identity : Identity) :
    RoundsApart (page.adopt config identity) :=
  apart.of_unjoined rfl rfl ⟨Nat.le_refl _, rfl⟩ ⟨Nat.le_refl _, rfl⟩
    (JoinFacts.idle_cleared rfl)

theorem RoundsApart.startOver (apart : RoundsApart page) :
    RoundsApart page.startOver := by
  rw [Page.startOver_eq]
  exact
    apart.of_unjoined rfl rfl ⟨Nat.le_succ _, rfl⟩ ⟨Nat.le_succ _, rfl⟩
      (JoinFacts.idle_cleared rfl)

theorem RoundsApart.leave (apart : RoundsApart page) :
    RoundsApart page.leave := by
  rw [Page.leave_eq]
  refine
    apart.of_unjoined rfl rfl ⟨Nat.le_succ _, rfl⟩ ⟨Nat.le_succ _, rfl⟩
      (JoinFacts.idle_cleared ?_)
  cases page.identity
  · rfl
  · rfl

/-- The full teardown of a join: no earlier poll is current in its round. -/
theorem RoundsApart.beginJoin
    (apart : RoundsApart page) (identity : Identity) (cohortId : CohortId)
    (sizing : Option CohortSizing) :
    RoundsApart (page.beginJoin identity cohortId sizing) := by
  rw [Page.beginJoin_eq]
  refine ⟨?_, ?_, ?_, ?_, fun _ armed => ?_, fun noParticipant => ?_⟩
  · intro participant member
    rcases (AList.mem_insert _).mp member with rfl | old
    · exact Nat.le_refl _
    · exact Nat.le_succ_of_le (apart.known participant old)
  · intro participant held
    exact Or.inl (Option.some.inj held).symm
  · intro poll member
    have bound := (apart.directoryPolls poll member).1
    refine ⟨Nat.le_succ_of_le bound, fun current => ?_⟩
    have current : poll.epoch = page.directoryEpoch + 1 := current
    omega
  · intro poll member
    have bound := (apart.postSeatPolls poll member).1
    refine ⟨Nat.le_succ_of_le bound, fun current => ?_⟩
    have current : poll.epoch = page.postSeatEpoch + 1 := current
    omega
  · cases armed
  · exact absurd ((AList.mem_insert _).mpr (Or.inl rfl)) noParticipant

end NewRounds

section Sources

/-! ## One source at a time -/

namespace KeepsRound

variable (page : Page)

theorem fail (reason : String) : KeepsRound page (page.fail reason) := by
  rw [Page.fail_eq]
  exact {
    round := rfl
    participants := fun _ => Iff.rfl
    live := fun _ held => by cases held
    directoryEpoch := Nat.le_succ _
    directoryPolls := fun _ member => Or.inl member
    postSeatEpoch := Nat.le_succ _
    postSeatPolls := fun _ member => Or.inl member
    grace := fun _ armed => by cases armed
    idle := fun _ rests => ⟨rfl, rests.unseated, rests.unpicked⟩ }

/-- A step that changes nothing a round is told apart by. -/
theorem narration
    {after : Page}
    (same :
      (after.round, after.live, after.directoryEpoch, after.directoryPolls,
          after.postSeatEpoch, after.postSeatPolls, after.joinGrace,
          after.facts) =
        (page.round, page.live, page.directoryEpoch, page.directoryPolls,
          page.postSeatEpoch, page.postSeatPolls, page.joinGrace, page.facts))
    (participants :
      ∀ participant,
        participant ∈ after.participants ↔ participant ∈ page.participants) :
    KeepsRound page after := by
  simp only [Prod.mk.injEq] at same
  obtain
    ⟨round, live, directoryEpoch, directoryPolls, postSeatEpoch, postSeatPolls,
      grace, facts⟩ := same
  refine
    of_frame round participants live (Prod.ext directoryEpoch directoryPolls)
      (Prod.ext postSeatEpoch postSeatPolls) grace fun rests => ?_
  rw [facts]
  exact rests

theorem refl : KeepsRound page page :=
  narration page rfl fun _ => Iff.rfl

theorem of_onlyChain
    {after : Page} (only : Page.OnlyChain page after) :
    KeepsRound page after := by
  rw [only]
  exact narration page rfl fun _ => Iff.rfl

theorem startResolved
    {participant : RoundId}
    (liveOwned : ∀ live, page.live = some live → page.Owned live) :
    KeepsRound page (page.startResolved participant) := by
  unfold Page.startResolved
  split
  · exact narration page rfl fun _ => Iff.rfl
  · next installed =>
    have live : page.live = some participant := by
      by_contra replaced
      exact installed (Or.inl replaced)
    refine
      { round := rfl
        participants := fun _ => Iff.rfl
        live := fun _ held => held
        directoryEpoch := Nat.le_refl _
        directoryPolls := fun poll member => ?_
        postSeatEpoch := Nat.le_refl _
        postSeatPolls := fun _ member => Or.inl member
        grace := fun timer armed => Or.inl ⟨timer, armed, rfl⟩
        idle := fun _ rests => rests }
    rcases List.mem_cons.mp member with rfl | old
    · exact Or.inr ⟨Nat.le_refl _, liveOwned participant live⟩
    · exact Or.inl old

theorem onCohortReady
    {participant : RoundId} (own : participant = page.round)
    (joined : participant ∈ page.participants) (beaconAddress : String) :
    KeepsRound page (page.onCohortReady participant beaconAddress) := by
  rw [Page.onCohortReady_eq]
  refine
    { round := rfl
      participants := fun _ => Iff.rfl
      live := fun _ held => held
      directoryEpoch := Nat.le_succ _
      directoryPolls := fun _ member => Or.inl member
      postSeatEpoch := Nat.le_succ _
      postSeatPolls := fun poll member => ?_
      grace := fun _ armed => by cases armed
      idle := fun noParticipant => absurd (own ▸ joined) noParticipant }
  rcases List.mem_cons.mp member with rfl | old
  · exact Or.inr ⟨Nat.le_refl _, Or.inl own⟩
  · exact Or.inl old

theorem onCohortComplete
    (config : PageConfig) (info : CompleteInfo) :
    KeepsRound page (page.onCohortComplete config info) := by
  rw [Page.onCohortComplete_eq]
  exact {
    round := rfl
    participants := fun _ => Iff.rfl
    live := fun _ held => by cases held
    directoryEpoch := Nat.le_succ _
    directoryPolls := fun _ member => Or.inl member
    postSeatEpoch := Nat.le_succ _
    postSeatPolls := fun _ member => Or.inl member
    grace := fun _ armed => by cases armed
    idle := fun _ rests => ⟨rfl, rests.unseated, rests.unpicked⟩ }

theorem onCohortJoined
    {cohortId : CohortId}
    (own : page.round ∈ page.participants ∨ page.facts.status.ended = true) :
    KeepsRound page (page.onCohortJoined cohortId) := by
  unfold Page.onCohortJoined
  split
  · exact refl page
  · next runs =>
    have joined : page.round ∈ page.participants := by
      rcases own with joined | ended
      · exact joined
      · exact absurd ended runs
    exact {
      round := rfl
      participants := fun _ => Iff.rfl
      live := fun _ held => held
      directoryEpoch := Nat.le_refl _
      directoryPolls := fun _ member => Or.inl member
      postSeatEpoch := Nat.le_refl _
      postSeatPolls := fun _ member => Or.inl member
      grace := fun timer armed => Or.inl ⟨timer, armed, rfl⟩
      idle := fun noParticipant => absurd joined noParticipant }

/-- What any poll or timer of the round in hand, or of a page without a
participant, writes. -/
theorem pollWrite
    {after : Page} {participant : RoundId}
    (write : PollWrite participant page after)
    (owned : page.Owned participant) :
    KeepsRound page after := by
  have quiet (awaitingSeats joinClosed) :
      KeepsRound page
        { page with facts := { page.facts with awaitingSeats, joinClosed } } :=
    of_frame rfl (fun _ => Iff.rfl) rfl rfl rfl rfl fun rests =>
      ⟨rests.notUnderWay, rests.unseated, rests.unpicked⟩
  cases write with
  | showSeats seats => exact quiet seats page.facts.joinClosed
  | closeJoin => exact quiet page.facts.awaitingSeats true
  | clearJoinGrace =>
      exact { refl page with grace := fun _ armed => by cases armed }
  | armGrace =>
      refine { refl page with grace := fun timer armed => ?_ }
      cases armed
      exact Or.inr owned
  | spendGrace timer armed =>
      refine { refl page with grace := fun later laterArmed => ?_ }
      cases laterArmed
      exact Or.inl ⟨timer, armed, rfl⟩
  | fail reason _ => exact fail page reason
  | count failures streak => exact narration page rfl fun _ => Iff.rfl
  | tell unreachable canceled => exact narration page rfl fun _ => Iff.rfl
  | ask reads => exact narration page rfl fun _ => Iff.rfl

theorem pollWrote
    {after : Page} {participant : RoundId}
    (writes : Page.PollWrote participant page after)
    (owned : page.Owned participant) :
    KeepsRound page after := by
  induction writes with
  | refl => exact refl page
  | tail _ last inductionHypothesis =>
      exact
        inductionHypothesis.trans
          (pollWrite _ last ((inductionHypothesis.owned_iff _).mpr owned))

theorem onRunnerEvent
    {config : PageConfig} {participant : RoundId} {event : RunnerEvent}
    (joined : participant ∈ page.participants)
    (own : LandsInOwnRound config page (.runner participant event)) :
    KeepsRound page (page.onRunnerEvent config participant event) := by
  cases event with
  | cohortDiscovered cohortId beaconType =>
      exact narration page rfl fun _ => InsertionMap.mem_modify
  | cohortJoined cohortId =>
      refine onCohortJoined page ?_
      rcases own with rfl | ended
      · exact Or.inl joined
      · exact Or.inr ended
  | cohortReady cohortId beaconAddress =>
      exact onCohortReady page own joined beaconAddress
  | updateSubmitted cohortId => exact refl page
  | updateDeclined cohortId => exact refl page
  | validationRequested => exact narration page rfl fun _ => Iff.rfl
  | signingRequested => exact refl page
  | fallbackRequested => exact narration page rfl fun _ => Iff.rfl
  | cohortComplete info => exact onCohortComplete page config info
  | cohortFailed cohortId reason => exact fail page reason
  | error message =>
      simp only [Page.onRunnerEvent, Page.onRunnerError]
      split
      · exact fail page message
      · exact refl page

theorem onProvideUpdate
    (config : PageConfig) (participant : RoundId) (cohortId : CohortId)
    (beaconAddress : String) (randomness : Nat) :
    KeepsRound page
      (page.onProvideUpdate config participant cohortId beaconAddress
        randomness) := by
  unfold Page.onProvideUpdate
  split
  · exact refl page
  · split
    · exact refl page
    · exact narration page rfl fun _ => InsertionMap.mem_modify
    · exact
        of_frame rfl (fun _ => Iff.rfl) rfl rfl rfl rfl fun rests =>
          ⟨rests.notUnderWay, rests.unseated, rests.unpicked⟩

theorem join_refused
    {config : PageConfig} {cohortId : CohortId} {sizing : Option CohortSizing} :
    KeepsRound page (page.join config cohortId sizing) ∨
      ∃ identity,
        page.join config cohortId sizing =
          page.beginJoin identity cohortId sizing := by
  unfold Page.join
  split
  · exact Or.inl (refl page)
  · split
    · exact Or.inl (refl page)
    · split
      · exact Or.inl (narration page rfl fun _ => Iff.rfl)
      · exact Or.inr ⟨_, rfl⟩

theorem submitUpdate : KeepsRound page page.submitUpdate := by
  unfold Page.submitUpdate
  split
  · exact
      of_frame rfl (fun _ => Iff.rfl) rfl rfl rfl rfl fun rests =>
        ⟨rests.notUnderWay, rests.unseated, rests.unpicked⟩
  · exact
      of_frame rfl (fun _ => InsertionMap.mem_modify) rfl rfl rfl rfl
        fun rests => ⟨rests.notUnderWay, rests.unseated, rests.unpicked⟩

end KeepsRound

/-- Every step the condition allows keeps the rounds apart. -/
theorem RoundsApart.step
    {config : PageConfig} {page : Page} {event : PageEvent}
    (apart : RoundsApart page) (offered : page.Offers config event)
    (own : LandsInOwnRound config page event) :
    RoundsApart (page.step config event) := by
  cases event with
  | adopt identity => exact apart.adopt config identity
  | termsRecorded acceptance =>
      have recorded :
          KeepsRound page (page.step config (.termsRecorded acceptance)) :=
        KeepsRound.narration page rfl fun _ => Iff.rfl
      exact recorded.apart apart
  | join cohortId sizing =>
      rcases KeepsRound.join_refused page with keeps | ⟨identity, joined⟩
      · exact keeps.apart apart
      · simp only [Page.step, joined]
        exact apart.beginJoin identity cohortId sizing
  | leave => exact apart.leave
  | startOver => exact apart.startOver
  | submitUpdate => exact (KeepsRound.submitUpdate page).apart apart
  | register acknowledgeMainnet =>
      exact
        (KeepsRound.of_onlyChain page
          (page.onlyChain_register config _)).apart apart
  | setSigningMethod method =>
      exact
        (KeepsRound.of_onlyChain page
          (page.onlyChain_setSigningMethod method)).apart apart
  | exportPsbt =>
      exact
        (KeepsRound.of_onlyChain page page.onlyChain_exportPsbt).apart apart
  | submitSignedPsbt input =>
      exact
        (KeepsRound.of_onlyChain page
          (page.onlyChain_submitSignedPsbt config input)).apart apart
  | clearPsbt =>
      exact
        (KeepsRound.of_onlyChain page page.onlyChain_clearPsbt).apart apart
  | startResolved participant =>
      exact (KeepsRound.startResolved page apart.liveOwned).apart apart
  | startRejected participant message =>
      have erased :
          KeepsRound page
            { page with starting := page.starting.erase participant } :=
        KeepsRound.narration page rfl fun _ => Iff.rfl
      exact (erased.trans (KeepsRound.fail _ message)).apart apart
  | runner participant event =>
      exact (KeepsRound.onRunnerEvent page offered own).apart apart
  | provideUpdate participant cohortId beaconAddress randomness =>
      exact
        (KeepsRound.onProvideUpdate page config participant cohortId
          beaconAddress randomness).apart apart
  | directoryLands poll answer =>
      by_cases current : poll.epoch = page.directoryEpoch
      · have owned := (apart.directoryPolls poll offered).2 current
        have writes := page.pollWrote_directoryLands poll answer
        exact (KeepsRound.pollWrote page writes owned).apart apart
      · simp only [Page.step, Page.directoryLands_of_ne current]
        exact apart
  | graceFires timer =>
      have owned := apart.grace timer offered.1
      have writes := page.pollWrote_graceFires offered.1
      exact (KeepsRound.pollWrote page writes owned).apart apart
  | postSeatLands poll answer =>
      by_cases current : poll.epoch = page.postSeatEpoch
      · have owned := (apart.postSeatPolls poll offered).2 current
        have writes := page.pollWrote_postSeatLands poll answer
        exact (KeepsRound.pollWrote page writes owned).apart apart
      · simp only [Page.step, Page.postSeatLands_of_ne current]
        exact apart
  | fateLands read canceled =>
      have kept : KeepsRound page (page.fateLands read canceled) := by
        unfold Page.fateLands
        split
        · exact KeepsRound.narration page rfl fun _ => Iff.rfl
        · exact KeepsRound.narration page rfl fun _ => Iff.rfl
      exact kept.apart apart
  | fundsLand call answer randomness =>
      exact
        (KeepsRound.of_onlyChain page
          (page.onlyChain_fundsLand config call answer randomness)).apart apart
  | broadcastLands call answer =>
      exact
        (KeepsRound.of_onlyChain page
          (page.onlyChain_broadcastLands call answer)).apart apart
  | exportLands call answer =>
      exact
        (KeepsRound.of_onlyChain page
          (page.onlyChain_exportLands config call answer)).apart apart

end Sources

section Isolation

/-! ## Isolation -/

namespace Page

variable {page : Page}

theorem roundView_of_onlyChain
    {after : Page} (only : OnlyChain page after) :
    after.roundView = page.roundView :=
  (congrArg roundView only).trans rfl

theorem handleDirectorySnapshot_of_idle
    (rests : page.facts.Idle) (participant : RoundId)
    (rows : List DirectoryCohortDTO) :
    page.handleDirectorySnapshot participant rows = page := by
  simp only [handleDirectorySnapshot, rests.unpicked]

theorem handlePostSeatSnapshot_of_idle
    (rests : page.facts.Idle) (participant : RoundId)
    (rows : List DirectoryCohortDTO) :
    page.handlePostSeatSnapshot participant rows = page := by
  simp only [handlePostSeatSnapshot, rests.unpicked]

theorem roundView_graceFires_of_idle
    (rests : page.facts.Idle) (timer : GraceTimer) :
    (page.graceFires timer).roundView = page.roundView := by
  have looksAway :
      ¬(page.facts.seated = false ∧ page.facts.status.underWay = true) := by
    rw [rests.notUnderWay]
    exact fun both => Bool.false_ne_true both.2
  simp only [graceFires, if_neg looksAway]
  rfl

theorem roundView_startResolved (participant : RoundId) :
    (page.startResolved participant).roundView = page.roundView := by
  unfold startResolved
  split
  · rfl
  · rfl

theorem roundView_fateLands (read : FateRead) (canceled : Bool) :
    (page.fateLands read canceled).roundView = page.roundView := by
  unfold fateLands
  split
  · rfl
  · rfl

theorem roundView_onProvideUpdate
    {config : PageConfig} {participant : RoundId} {cohortId : CohortId}
    {beaconAddress : String} {randomness : Nat}
    (shut :
      page.opensGate config participant cohortId beaconAddress randomness =
        false) :
    (page.onProvideUpdate config participant cohortId beaconAddress
        randomness).roundView =
      page.roundView := by
  unfold onProvideUpdate
  split
  · rfl
  · next record found =>
    split
    · rfl
    · rfl
    · next update maps offered =>
      simp [opensGate, found, offered] at shut

/-- The handlers of a participant whose round is over. -/
theorem roundView_onRunnerEvent
    {config : PageConfig} {participant : RoundId} {event : RunnerEvent}
    (stale : participant ≠ page.round)
    (own : LandsInOwnRound config page (.runner participant event)) :
    (page.onRunnerEvent config participant event).roundView =
      page.roundView := by
  cases event with
  | cohortJoined cohortId =>
      have ended := own.resolve_left stale
      simp only [onRunnerEvent, onCohortJoined, ended, if_true]
  | cohortReady cohortId beaconAddress => exact absurd own stale
  | cohortComplete info => exact absurd own stale
  | cohortFailed cohortId reason => exact absurd own stale
  | error message =>
      have rests := own.resolve_left stale
      simp only [onRunnerEvent, onRunnerError, rests, Bool.false_eq_true,
        if_false]
  | _ => rfl

end Page

/-- One step: what comes from an earlier round leaves the round in hand
alone. -/
theorem RoundsApart.isolated
    {config : PageConfig} {page : Page} {event : PageEvent}
    (apart : RoundsApart page) (offered : page.Offers config event)
    (own : LandsInOwnRound config page event) :
    RoundIsolated config page event := by
  rintro ⟨origin, fromOrigin, stale⟩
  cases event with
  | startResolved participant => exact Page.roundView_startResolved participant
  | startRejected participant message =>
      cases fromOrigin
      exact absurd own stale
  | runner participant event =>
      cases fromOrigin
      exact Page.roundView_onRunnerEvent stale own
  | provideUpdate participant cohortId beaconAddress randomness =>
      cases fromOrigin
      exact Page.roundView_onProvideUpdate (own.resolve_left stale)
  | directoryLands poll answer =>
      cases fromOrigin
      cases answer with
      | none => rfl
      | some rows =>
          by_cases current : poll.epoch = page.directoryEpoch
          · have owned := (apart.directoryPolls poll offered).2 current
            have rests := apart.idle_of_stale owned stale
            simp only [Page.step, Page.directoryLands, current, if_true,
              Page.handleDirectorySnapshot_of_idle rests]
          · simp only [Page.step, Page.directoryLands_of_ne current]
  | graceFires timer =>
      cases fromOrigin
      have rests := apart.idle_of_stale (apart.grace timer offered.1) stale
      exact Page.roundView_graceFires_of_idle rests timer
  | postSeatLands poll answer =>
      cases fromOrigin
      by_cases current : poll.epoch = page.postSeatEpoch
      · have owned := (apart.postSeatPolls poll offered).2 current
        have rests := apart.idle_of_stale owned stale
        simp only [Page.step, Page.postSeatLands, current, if_true]
        cases answer with
        | none => rfl
        | some rows =>
            have counted :
                ({ page with postSeatFailures := 0 } : Page).facts.Idle := rests
            dsimp only
            rw [Page.handlePostSeatSnapshot_of_idle counted]
            rfl
      · simp only [Page.step, Page.postSeatLands_of_ne current]
  | fateLands read canceled => exact Page.roundView_fateLands read canceled
  | fundsLand call answer randomness =>
      exact
        Page.roundView_of_onlyChain
          (page.onlyChain_fundsLand config call answer randomness)
  | broadcastLands call answer =>
      exact
        Page.roundView_of_onlyChain (page.onlyChain_broadcastLands call answer)
  | exportLands call answer =>
      exact
        Page.roundView_of_onlyChain
          (page.onlyChain_exportLands config call answer)
  | _ => cases fromOrigin

/-- The page whose unguarded sources land in their own rounds. -/
def ownRoundMachine (config : PageConfig) : Machine Page PageEvent :=
  (pageMachine config).restrict (LandsInOwnRound config)

instance (config : PageConfig) (page : Page) (event : PageEvent) :
    Decidable ((ownRoundMachine config).admits page event) :=
  inferInstanceAs
    (Decidable
      (page.Offers config event ∧ LandsInOwnRound config page event))

theorem roundsApart_always (config : PageConfig) :
    (ownRoundMachine config).Always RoundsApart := by
  refine Machine.Always.of_inductive RoundsApart.fresh ?_
  intro page event apart possible
  exact apart.step possible.1 possible.2

/-- In every run whose unguarded sources land in their own rounds, nothing of
an earlier round changes the round in hand or stops its participant. -/
theorem roundIsolated_of_admits
    (config : PageConfig) (events : List PageEvent) (event : PageEvent)
    (admissible : (ownRoundMachine config).Admits (events ++ [event])) :
    RoundIsolated config ((pageMachine config).run events) event := by
  have each : (ownRoundMachine config).Each (RoundIsolated config) := by
    refine (roundsApart_always config).each ?_
    intro page event apart possible
    exact apart.isolated possible.1 possible.2
  exact each events event admissible

/-- A start that rejects after its round was left and another cohort
joined. -/
def lateRejection : List PageEvent :=
  [.adopt keyIdentity, .join 0 none, .leave, .join 1 none]

theorem not_roundIsolated :
    ¬ (pageMachine plainConfig).Each (RoundIsolated plainConfig) := by
  intro isolated
  have unchanged :=
    isolated lateRejection (.startRejected 2 "refused") (by decide +kernel)
      ⟨2, rfl, by decide +kernel⟩
  have failed := congrArg (fun view => view.facts.status) unchanged
  revert failed
  decide +kernel

/-- The directory poll, the grace timer and the error of a left round come
after a second join. -/
def lateSources : List PageEvent :=
  [ .adopt keyIdentity, .join 0 none, .startResolved 2,
    .runner 2 (.cohortJoined 0), .directoryLands ⟨2, 1⟩ (some []), .leave,
    .join 1 none, .startResolved 4, .runner 2 (.updateSubmitted 0) ]

theorem roundIsolated_of_admits_lateSnapshot :
    RoundIsolated plainConfig ((pageMachine plainConfig).run lateSources)
      (.directoryLands ⟨2, 1⟩ (some [])) :=
  roundIsolated_of_admits plainConfig lateSources _ (by decide +kernel)

end Isolation

end Btcr2Aggregation
