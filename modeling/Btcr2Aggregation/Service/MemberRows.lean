import Btcr2Aggregation.Library.Machine
import Btcr2Aggregation.Service.MemberFolds

/-!
# Whether the member rows tell the truth

The rows of a drill-down against what happened: who was accepted, whose update
came, how far a member had come before.  The session hands out the seats, holds
the pending updates for a while and forgets a cohort in the end; the monitor is
told of every event in any order.
-/

namespace Btcr2Aggregation

open InsertionMap

section Honesty

/-! ## One member -/

/-- What is so of a DID in a cohort: it was accepted, the cohort's seat count is
known, the session holds its update, an update of it was folded, and how far it
was ever shown. -/
structure MemberFacts where
  accepted : Prop
  known : Prop
  held : Prop
  updated : Prop
  furthest : Nat

/-- A member shown as it is. -/
structure SeatHonest (facts : MemberFacts) (seat : MemberSeat) : Prop where
  accepted : seat.status = .seated → facts.accepted
  known : seat.status = .seated → facts.known
  submitted :
    seat.status = .seated →
      (seat.round.countsSubmitted ∨ facts.held ↔ facts.updated)
  forward : facts.furthest ≤ seat.round.rank

/-- When a fold of a member keeps the row honest; `stored` is whether the
session now holds the update that came.

A DID that is not known is recorded as seated by four of the folds, so it has
to be an accepted one, and one that has not come further before.  A step of the
round has to follow the update and not an earlier step, and a rejection hides an
update that the session does not hold. -/
def FoldsHonestly (facts : MemberFacts) (stored : Prop) :
    MemberFold → Option MemberSeat → Prop
  | .optIn, none => facts.furthest = 0
  | .optIn, some _ => True
  | .accept, none => facts.furthest = 0 ∧ (facts.updated → facts.held)
  | .accept, some seat =>
      seat.status = .pending →
        (seat.round.countsSubmitted ∨ facts.held ↔ facts.updated)
  | .submit, none => facts.accepted ∧ facts.known ∧ facts.furthest ≤ 1
  | .submit, some seat =>
      if seat.round = .rejected then
        seat.status = .seated → facts.held ∨ stored
      else
        seat.round.rank ≤ 1
  | .validate, none =>
      facts.accepted ∧ facts.known ∧ facts.updated ∧ facts.furthest ≤ 2
  | .validate, some seat =>
      seat.round ≠ .rejected →
        (seat.status = .seated → facts.updated) ∧ seat.round.rank ≤ 2
  | .reject, none =>
      facts.accepted ∧ facts.known ∧ (facts.updated → facts.held)
  | .reject, some seat =>
      seat.status = .seated → facts.updated → facts.held
  | .sendNonce, none =>
      facts.accepted ∧ facts.known ∧ facts.updated ∧ facts.furthest ≤ 3
  | .sendNonce, some seat =>
      seat.round ≠ .rejected → seat.status = .seated → facts.updated

/-- What is so after a fold that leaves a member at a rank. -/
def MemberFacts.after
    (facts : MemberFacts) (stored : Prop) (fold : MemberFold) (rank : Nat) :
    MemberFacts where
  accepted := facts.accepted ∨ fold = .accept
  known := facts.known
  held := facts.held ∨ fold = .submit ∧ stored
  updated := facts.updated ∨ fold = .submit
  furthest := max facts.furthest rank

theorem seatHonest_iff {facts : MemberFacts} {seat : MemberSeat} :
    SeatHonest facts seat ↔
      (seat.status = .seated →
        facts.accepted ∧ facts.known ∧
          (seat.round.countsSubmitted ∨ facts.held ↔ facts.updated)) ∧
        facts.furthest ≤ seat.round.rank := by
  constructor
  · intro honest
    exact
      ⟨fun seated =>
          ⟨honest.accepted seated, honest.known seated, honest.submitted seated⟩,
        honest.forward⟩
  · rintro ⟨seated, forward⟩
    exact
      ⟨fun here => (seated here).1, fun here => (seated here).2.1,
        fun here => (seated here).2.2, forward⟩

/-- A fold of a DID that is not known. -/
theorem seatHonest_seatAfter_none_iff
    {facts : MemberFacts} {stored : Prop} (fold : MemberFold)
    (held : facts.held → facts.updated) (bounded : facts.furthest ≤ 4)
    (live : fold = .accept → facts.known) :
    SeatHonest
        (facts.after stored fold (fold.seatAfter none).round.rank)
        (fold.seatAfter none) ↔
      FoldsHonestly facts stored fold none := by
  rw [seatHonest_iff]
  cases fold with
  | optIn =>
      simp [MemberFacts.after, MemberFold.seatAfter, FoldsHonestly,
        MemberRound.rank]
  | accept =>
      have known := live rfl
      simp [MemberFacts.after, MemberFold.seatAfter, FoldsHonestly,
        MemberFold.firstSeen, MemberRound.rank, MemberRound.countsSubmitted,
        known]
      tauto
  | submit =>
      simp [MemberFacts.after, MemberFold.seatAfter, FoldsHonestly,
        MemberFold.firstSeen, MemberFold.advance, MemberRound.rank,
        MemberRound.countsSubmitted, and_assoc]
  | validate =>
      simp [MemberFacts.after, MemberFold.seatAfter, FoldsHonestly,
        MemberFold.firstSeen, MemberFold.advance, MemberRound.rank,
        MemberRound.countsSubmitted, and_assoc]
  | reject =>
      simp [MemberFacts.after, MemberFold.seatAfter, FoldsHonestly,
        MemberFold.firstSeen, MemberRound.rank, MemberRound.countsSubmitted,
        bounded]
      tauto
  | sendNonce =>
      simp [MemberFacts.after, MemberFold.seatAfter, FoldsHonestly,
        MemberFold.firstSeen, MemberFold.advance, MemberRound.rank,
        MemberRound.countsSubmitted, and_assoc]

/-- A fold of a member that is shown as it is. -/
theorem seatHonest_seatAfter_some_iff
    {facts : MemberFacts} {stored : Prop} (fold : MemberFold)
    {seat : MemberSeat}
    (honest : SeatHonest facts seat)
    (shown : seat.round.rank ≤ facts.furthest)
    (held : facts.held → facts.updated)
    (live : fold = .accept → facts.known) :
    SeatHonest
        (facts.after stored fold (fold.seatAfter (some seat)).round.rank)
        (fold.seatAfter (some seat)) ↔
      FoldsHonestly facts stored fold (some seat) := by
  have rank : facts.furthest = seat.round.rank :=
    Nat.le_antisymm honest.forward shown
  obtain ⟨status, round⟩ := seat
  have seated := (seatHonest_iff.mp honest).1
  rw [seatHonest_iff]
  cases fold with
  | optIn =>
      simp [MemberFacts.after, MemberFold.seatAfter, FoldsHonestly, rank]
      simpa using seated
  | accept =>
      have known := live rfl
      cases status with
      | pending =>
          simp [MemberFacts.after, MemberFold.seatAfter, FoldsHonestly, rank,
            known]
      | seated =>
          have now := seated rfl
          simp [MemberFacts.after, MemberFold.seatAfter, FoldsHonestly, rank,
            known, now.2.2]
  | submit =>
      by_cases rejected : round = .rejected
      · subst rejected
        simp [MemberFacts.after, MemberFold.seatAfter, FoldsHonestly,
          MemberFold.advance, MemberRound.countsSubmitted, rank]
        tauto
      · simp [MemberFacts.after, MemberFold.seatAfter, FoldsHonestly,
          MemberFold.advance, MemberRound.countsSubmitted, rejected, rank,
          MemberRound.rank]
        tauto
  | validate =>
      by_cases rejected : round = .rejected
      · subst rejected
        simp [MemberFacts.after, MemberFold.seatAfter, FoldsHonestly,
          MemberFold.advance, rank]
        tauto
      · simp [MemberFacts.after, MemberFold.seatAfter, FoldsHonestly,
          MemberFold.advance, MemberRound.countsSubmitted, rejected, rank,
          MemberRound.rank]
        tauto
  | reject =>
      have bound : round.rank ≤ 4 := by cases round <;> decide
      simp [MemberFacts.after, MemberFold.seatAfter, FoldsHonestly,
        MemberRound.countsSubmitted, rank, MemberRound.rank]
      tauto
  | sendNonce =>
      by_cases rejected : round = .rejected
      · subst rejected
        simp [MemberFacts.after, MemberFold.seatAfter, FoldsHonestly,
          MemberFold.advance, rank]
        tauto
      · have bound : round.rank ≤ 3 := by
          cases round <;> first | decide | exact absurd rfl rejected
        simp [MemberFacts.after, MemberFold.seatAfter, FoldsHonestly,
          MemberFold.advance, MemberRound.countsSubmitted, rejected, rank]
        tauto

end Honesty

section Machine

/-! ## The monitor, the session and what happened -/

/-- The monitor and the session, beside what happened: the cohorts opened with
their seat counts, the grants of a seat, the updates that came, and how far each
DID was ever shown. -/
structure MemberState where
  monitor : Monitor
  session : CohortSession
  opened : InsertionMap CohortId Nat
  accepted : List (CohortId × String)
  updated : List (CohortId × String)
  furthest : CohortId → String → Nat

/-- What can happen.  The session opens a cohort, moves it on, lets go of a
pending update and forgets the cohort; the monitor is told of an event, and for
an update of the body the session now holds, if it holds one. -/
inductive MemberAction where
  | opens (cohortId : CohortId) (minParticipants threshold : Nat)
  | moves (cohortId : CohortId) (phase : CohortPhase)
  | releases (cohortId : CohortId) (did : String)
  | forgets (cohortId : CohortId)
  | told (event : MonitorEvent) (now : Nat) (raw : Option String)
  deriving DecidableEq

/-- How far a DID is shown, `0` where it is not. -/
def shownRank (monitor : Monitor) (cohortId : CohortId) (did : String) : Nat :=
  match (monitor.entryFor cohortId).seat? did with
  | none => 0
  | some seat => seat.round.rank

/-- A cohort that opens. -/
def LiveCohort.advertised (minParticipants threshold : Nat) : LiveCohort where
  phase := .advertised
  minParticipants := minParticipants
  participants := []
  pendingUpdates := ∅
  effectiveFallbackThreshold := threshold

/-- What the session has done when the monitor is told. -/
def sessionTakes (session : CohortSession) (raw : Option String) :
    MonitorEvent → CohortSession
  | .notice (.participantAccepted cohortId did) =>
      modify session cohortId fun cohort =>
        { cohort with participants := cohort.participants ++ [did] }
  | .notice (.updateReceived cohortId did) =>
      match raw with
      | none => session
      | some body =>
          modify session cohortId fun cohort =>
            { cohort with pendingUpdates := cohort.pendingUpdates.set did body }
  | _ => session

def acceptedBy : MonitorEvent → List (CohortId × String)
  | .notice (.participantAccepted cohortId did) => [(cohortId, did)]
  | _ => []

def updatedBy : MonitorEvent → List (CohortId × String)
  | .notice (.updateReceived cohortId did) => [(cohortId, did)]
  | _ => []

def memberStep (state : MemberState) : MemberAction → MemberState
  | .opens cohortId minParticipants threshold =>
      { state with
        session :=
          state.session.insert cohortId (.advertised minParticipants threshold)
        opened := state.opened.insert cohortId minParticipants }
  | .moves cohortId phase =>
      { state with
        session :=
          modify state.session cohortId fun cohort => { cohort with phase } }
  | .releases cohortId did =>
      { state with
        session :=
          modify state.session cohortId fun cohort =>
            { cohort with pendingUpdates := cohort.pendingUpdates.erase did } }
  | .forgets cohortId =>
      { state with session := state.session.erase cohortId }
  | .told event now raw =>
      let session := sessionTakes state.session raw event
      let monitor := state.monitor.step (sessionSeats session) now event
      { monitor
        session
        opened := state.opened
        accepted := state.accepted ++ acceptedBy event
        updated := state.updated ++ updatedBy event
        furthest := fun cohortId did =>
          max (state.furthest cohortId did) (shownRank monitor cohortId did) }

/-- A cohort id is given once, and the session grants no more seats than a live
cohort has, each to a DID that has none. -/
def memberAdmits (state : MemberState) : MemberAction → Prop
  | .opens cohortId _ _ => cohortId ∉ state.opened
  | .told (.notice (.participantAccepted cohortId did)) _ _ =>
      (state.session.lookup cohortId).any (fun cohort =>
        did ∉ cohort.participants ∧
          cohort.participants.length < cohort.minParticipants) =
        true
  | _ => True

/-- Everything starts empty. -/
def memberRowsMachine (mode : ServiceMode) : Machine MemberState MemberAction where
  init := {
    monitor := .created mode
    session := ∅
    opened := ∅
    accepted := []
    updated := []
    furthest := fun _ _ => 0 }
  step := memberStep
  admits := memberAdmits

end Machine

section Promise

/-! ## What is promised of the rows -/

variable
  {Anchor : Type} (testPeerDids : List String) (anchorView : CohortId → Anchor)
  (scriptPath : CohortId → Bool)

/-- Every drill-down and every ended record of a state tells the truth. -/
structure ShowsHonestly (state : MemberState) : Prop where
  seated :
    ∀ cohortId row,
      row ∈
          (state.monitor.buildDetail state.session testPeerDids anchorView
            scriptPath cohortId).members →
        row.status = .seated → (cohortId, row.did) ∈ state.accepted
  withinCapacity :
    ∀ cohortId,
      ((state.monitor.buildDetail state.session testPeerDids anchorView
          scriptPath cohortId).members.filter fun member =>
            member.status = .seated).length ≤
        (state.monitor.buildDetail state.session testPeerDids anchorView
          scriptPath cohortId).capacity
  joinedWithinCapacity :
    ∀ cohortId,
      (state.monitor.buildDetail state.session testPeerDids anchorView
          scriptPath cohortId).seatsJoined ≤
        (state.monitor.buildDetail state.session testPeerDids anchorView
          scriptPath cohortId).capacity
  endedWithinCapacity :
    ∀ cohortId record,
      state.monitor.ended.lookup cohortId = some record →
        record.seatsJoined ≤ record.capacity
  submitted :
    ∀ cohortId row,
      row ∈
          (state.monitor.buildDetail state.session testPeerDids anchorView
            scriptPath cohortId).submissions →
        (row.submitted = true ↔ (cohortId, row.did) ∈ state.updated)
  forward :
    ∀ cohortId row,
      row ∈
          (state.monitor.buildDetail state.session testPeerDids anchorView
            scriptPath cohortId).members →
        state.furthest cohortId row.did ≤ row.round.rank

namespace MemberState

/-- What is so of a DID in a state. -/
def facts (state : MemberState) (cohortId : CohortId) (did : String) :
    MemberFacts where
  accepted := (cohortId, did) ∈ state.accepted
  known :=
    (state.session.lookup cohortId).isSome ∨
      (state.monitor.entryFor cohortId).capacity ≠ 0
  held :=
    (state.session.lookup cohortId).any (fun cohort =>
      did ∈ cohort.pendingUpdates) =
      true
  updated := (cohortId, did) ∈ state.updated
  furthest := state.furthest cohortId did

/-- No seated member's update is known from the session alone. -/
def ShowsWithoutSession
    (state : MemberState) (cohortId : CohortId) (did : String) : Prop :=
  ∀ seat,
    (state.monitor.entryFor cohortId).seat? did = some seat →
      seat.status = .seated → (state.facts cohortId did).held →
        seat.round.countsSubmitted

end MemberState

/-- The steps that keep the rows honest. -/
def StepsHonestly (state : MemberState) : MemberAction → Prop
  | .opens _ _ _ => True
  | .moves _ _ => True
  | .releases cohortId did => state.ShowsWithoutSession cohortId did
  | .forgets cohortId => ∀ did, state.ShowsWithoutSession cohortId did
  | .told event _ raw =>
      match event.memberFold? with
      | none => True
      | some (cohortId, did, fold) =>
          FoldsHonestly (state.facts cohortId did)
            (raw.isSome ∧ (state.session.lookup cohortId).isSome) fold
            ((state.monitor.entryFor cohortId).seat? did)

end Promise

section Reachable

/-! ## What holds in every state -/

/-- The DIDs a cohort accepted. -/
def acceptedNames (accepted : List (CohortId × String)) (cohortId : CohortId) :
    List String :=
  (accepted.filter fun grant => grant.1 = cohortId).map Prod.snd

theorem mem_acceptedNames
    {accepted : List (CohortId × String)} {cohortId : CohortId} {did : String} :
    did ∈ acceptedNames accepted cohortId ↔ (cohortId, did) ∈ accepted := by
  unfold acceptedNames
  rw [List.mem_map]
  constructor
  · rintro ⟨⟨other, name⟩, listed, rfl⟩
    obtain ⟨member, same⟩ := List.mem_filter.mp listed
    have same : other = cohortId := of_decide_eq_true same
    subst same
    exact member
  · intro member
    exact
      ⟨(cohortId, did), List.mem_filter.mpr ⟨member, decide_eq_true rfl⟩, rfl⟩

theorem acceptedNames_append
    (accepted others : List (CohortId × String)) (cohortId : CohortId) :
    acceptedNames (accepted ++ others) cohortId =
      acceptedNames accepted cohortId ++ acceptedNames others cohortId := by
  simp [acceptedNames, List.filter_append]

/-- The session and the monitor agree with what happened, honest or not. -/
structure MembersKnown (state : MemberState) : Prop where
  live :
    ∀ cohortId cohort,
      state.session.lookup cohortId = some cohort →
        state.opened.lookup cohortId = some cohort.minParticipants ∧
          cohort.participants = acceptedNames state.accepted cohortId
  wasOpened :
    ∀ cohortId did,
      (cohortId, did) ∈ state.accepted → cohortId ∈ state.opened
  seats :
    ∀ cohortId minParticipants,
      state.opened.lookup cohortId = some minParticipants →
        (acceptedNames state.accepted cohortId).length ≤ minParticipants
  capacity :
    ∀ cohortId entry,
      state.monitor.entries.lookup cohortId = some entry →
        entry.capacity = 0 ∨
          state.opened.lookup cohortId = some entry.capacity
  /-- Only a cohort that is gone can have a seat whose count was never taken. -/
  uncounted :
    ∀ cohortId entry did seat,
      state.monitor.entries.lookup cohortId = some entry →
        entry.capacity = 0 → entry.seat? did = some seat →
          seat.status = .seated → (cohortId, did) ∈ state.accepted →
            state.session.lookup cohortId = none
  held :
    ∀ cohortId cohort did,
      state.session.lookup cohortId = some cohort →
        did ∈ cohort.pendingUpdates → (cohortId, did) ∈ state.updated
  ranks :
    ∀ cohortId did,
      shownRank state.monitor cohortId did ≤ state.furthest cohortId did
  bounded : ∀ cohortId did, state.furthest cohortId did ≤ 4

theorem rank_le (round : MemberRound) : round.rank ≤ 4 := by
  cases round <;> decide

theorem shownRank_le (monitor : Monitor) (cohortId : CohortId) (did : String) :
    shownRank monitor cohortId did ≤ 4 := by
  unfold shownRank
  split
  · exact Nat.zero_le 4
  · next seat _ => exact rank_le seat.round

/-- The members of the entries say what is so of them. -/
structure SeatsHonest (state : MemberState) : Prop where
  seats :
    ∀ cohortId did seat,
      (state.monitor.entryFor cohortId).seat? did = some seat →
        SeatHonest (state.facts cohortId did) seat
  ended :
    ∀ cohortId record,
      state.monitor.ended.lookup cohortId = some record →
        record.seatsJoined ≤ record.capacity

theorem entryFor_of_lookup
    {monitor : Monitor} {cohortId : CohortId} {entry : MonitorEntry}
    (found : monitor.entries.lookup cohortId = some entry) :
    monitor.entryFor cohortId = entry := by
  rw [Monitor.entryFor, found]
  rfl

/-- A seat is found in an entry that is there. -/
theorem exists_lookup_of_seat?
    {monitor : Monitor} {cohortId : CohortId} {did : String} {seat : MemberSeat}
    (found : (monitor.entryFor cohortId).seat? did = some seat) :
    ∃ entry member,
      monitor.entries.lookup cohortId = some entry ∧
        entry.members.lookup did = some member ∧ member.seat = seat := by
  cases looked : monitor.entries.lookup cohortId with
  | none =>
      rw [Monitor.entryFor, looked] at found
      cases found
  | some entry =>
      rw [entryFor_of_lookup looked] at found
      obtain ⟨member, held, same⟩ := Option.map_eq_some_iff.mp found
      exact ⟨entry, member, rfl, held, same⟩

theorem seat?_of_lookup
    {monitor : Monitor} {cohortId : CohortId} {entry : MonitorEntry}
    {did : String} {member : MemberRecord}
    (found : monitor.entries.lookup cohortId = some entry)
    (held : entry.members.lookup did = some member) :
    (monitor.entryFor cohortId).seat? did = some member.seat := by
  rw [entryFor_of_lookup found, MonitorEntry.seat?, held]
  rfl

theorem MonitorEntry.seated_pos
    {entry : MonitorEntry} {did : String} {member : MemberRecord}
    (held : entry.members.lookup did = some member)
    (seated : member.status = .seated) :
    0 < entry.seated := by
  have listed : (⟨did, member⟩ : Sigma fun _ => MemberRecord) ∈
      entry.members.entries :=
    AList.mem_lookup_iff.mp held
  exact
    List.length_pos_of_mem
      (List.mem_filter.mpr ⟨listed, decide_eq_true seated⟩)

variable {state : MemberState}

/-- An honest entry seats no more than the cohort has. -/
theorem seated_le_detailCapacity
    (known : MembersKnown state) (honest : SeatsHonest state)
    {cohortId : CohortId} {entry : MonitorEntry}
    (found : state.monitor.entries.lookup cohortId = some entry) :
    entry.seated ≤
      detailCapacity (state.session.lookup cohortId) (some entry) := by
  have bound :
      entry.seated ≤ (acceptedNames state.accepted cohortId).length := by
    apply MonitorEntry.seated_le
    intro did member held seated
    have here := honest.seats cohortId did _ (seat?_of_lookup found held)
    exact mem_acceptedNames.mpr (here.accepted seated)
  cases session : state.session.lookup cohortId with
  | some cohort =>
      exact
        Nat.le_trans bound
          (known.seats cohortId _ (known.live cohortId cohort session).1)
  | none =>
      by_cases empty : entry.seated = 0
      · rw [empty]
        exact Nat.zero_le _
      · obtain ⟨⟨did, member⟩, kept⟩ :=
          List.exists_mem_of_length_pos (Nat.pos_of_ne_zero empty)
        obtain ⟨listed, seated⟩ := List.mem_filter.mp kept
        have here :=
          honest.seats cohortId did _
            (seat?_of_lookup found (AList.mem_lookup_iff.mpr listed))
        have counted : entry.capacity ≠ 0 := by
          have known := here.known (of_decide_eq_true seated)
          simp only [MemberState.facts, session, entryFor_of_lookup found]
            at known
          simpa using known
        have opened :=
          (known.capacity cohortId entry found).resolve_left counted
        exact Nat.le_trans bound (known.seats cohortId _ opened)

end Reachable

section Shown

/-! ## What is shown is what is held -/

variable
  {Anchor : Type} {testPeerDids : List String}
  {anchorView : CohortId → Anchor} {scriptPath : CohortId → Bool}
  {state : MemberState}

theorem mem_members_buildDetail
    {monitor : Monitor} {session : CohortSession} {cohortId : CohortId}
    {row : CohortMember} :
    row ∈
        (monitor.buildDetail session testPeerDids anchorView scriptPath
          cohortId).members ↔
      ∃ entry did member,
        monitor.entries.lookup cohortId = some entry ∧
          entry.members.lookup did = some member ∧
            row = memberRow testPeerDids did member := by
  rw [members_buildDetail]
  cases found : monitor.entries.lookup cohortId with
  | none => simp
  | some entry =>
      rw [Option.map_some, Option.getD_some, mem_memberRows]
      constructor
      · rintro ⟨did, member, held, rfl⟩
        exact ⟨entry, did, member, rfl, held, rfl⟩
      · rintro ⟨other, did, member, same, held, rfl⟩
        cases same
        exact ⟨did, member, held, rfl⟩

theorem mem_submissions_buildDetail
    {monitor : Monitor} {session : CohortSession} {cohortId : CohortId}
    {row : Submission} :
    row ∈
        (monitor.buildDetail session testPeerDids anchorView scriptPath
          cohortId).submissions ↔
      ∃ entry did member,
        monitor.entries.lookup cohortId = some entry ∧
          entry.members.lookup did = some member ∧ member.status = .seated ∧
            row =
              submissionRow
                ((session.lookup cohortId).map LiveCohort.pendingUpdates) did
                member := by
  rw [submissions_buildDetail]
  cases found : monitor.entries.lookup cohortId with
  | none => simp
  | some entry =>
      rw [Option.map_some, Option.getD_some, mem_submissionRows]
      constructor
      · rintro ⟨did, member, held, seated, rfl⟩
        exact ⟨entry, did, member, rfl, held, seated, rfl⟩
      · rintro ⟨other, did, member, same, held, seated, rfl⟩
        cases same
        exact ⟨did, member, held, seated, rfl⟩

/-- A submission row reads the member's round and the session's updates. -/
theorem submitted_submissionRow_iff
    (cohortId : CohortId) (did : String) (member : MemberRecord) :
    (submissionRow
          ((state.session.lookup cohortId).map LiveCohort.pendingUpdates) did
          member).submitted =
        true ↔
      member.round.countsSubmitted ∨ (state.facts cohortId did).held := by
  simp only [submissionRow, MemberState.facts, decide_eq_true_eq]
  cases state.session.lookup cohortId <;> simp

theorem length_seated_members
    (monitor : Monitor) (session : CohortSession) (cohortId : CohortId) :
    ((monitor.buildDetail session testPeerDids anchorView scriptPath
        cohortId).members.filter fun member =>
          member.status = .seated).length =
      ((monitor.entries.lookup cohortId).map MonitorEntry.seated).getD 0 := by
  rw [members_buildDetail]
  cases monitor.entries.lookup cohortId with
  | none => rfl
  | some entry => exact length_seated_memberRows testPeerDids entry

/-- The seat count of a cohort that shows a seated member is known. -/
theorem ShowsHonestly.known
    (shows : ShowsHonestly testPeerDids anchorView scriptPath state)
    {cohortId : CohortId} {entry : MonitorEntry} {did : String}
    {member : MemberRecord}
    (found : state.monitor.entries.lookup cohortId = some entry)
    (held : entry.members.lookup did = some member)
    (seated : member.status = .seated) :
    (state.facts cohortId did).known := by
  have within := shows.withinCapacity cohortId
  rw [length_seated_members, capacity_buildDetail, found] at within
  have some_seated := MonitorEntry.seated_pos held seated
  simp only [MemberState.facts, entryFor_of_lookup found]
  cases session : state.session.lookup cohortId with
  | some cohort => exact Or.inl rfl
  | none =>
      right
      rw [session] at within
      have bound : entry.seated ≤ entry.capacity := within
      omega

theorem seatsHonest_of_showsHonestly
    (shows : ShowsHonestly testPeerDids anchorView scriptPath state) :
    SeatsHonest state := by
  refine ⟨?_, shows.endedWithinCapacity⟩
  intro cohortId did seat found
  obtain ⟨entry, member, looked, held, rfl⟩ := exists_lookup_of_seat? found
  have row :
      memberRow testPeerDids did member ∈
        (state.monitor.buildDetail state.session testPeerDids anchorView
          scriptPath cohortId).members :=
    mem_members_buildDetail.mpr ⟨entry, did, member, looked, held, rfl⟩
  refine ⟨?_, ?_, ?_, ?_⟩
  · intro seated
    exact shows.seated cohortId _ row seated
  · intro seated
    exact shows.known looked held seated
  · intro seated
    have submission :
        submissionRow
            ((state.session.lookup cohortId).map LiveCohort.pendingUpdates) did
            member ∈
          (state.monitor.buildDetail state.session testPeerDids anchorView
            scriptPath cohortId).submissions :=
      mem_submissions_buildDetail.mpr
        ⟨entry, did, member, looked, held, seated, rfl⟩
    exact
      (submitted_submissionRow_iff cohortId did member).symm.trans
        (shows.submitted cohortId _ submission)
  · exact shows.forward cohortId _ row

theorem showsHonestly_of_seatsHonest
    (known : MembersKnown state) (honest : SeatsHonest state) :
    ShowsHonestly testPeerDids anchorView scriptPath state := by
  have within (cohortId : CohortId) :
      ((state.monitor.buildDetail state.session testPeerDids anchorView
          scriptPath cohortId).members.filter fun member =>
            member.status = .seated).length ≤
        (state.monitor.buildDetail state.session testPeerDids anchorView
          scriptPath cohortId).capacity := by
    rw [length_seated_members, capacity_buildDetail]
    cases found : state.monitor.entries.lookup cohortId with
    | none => exact Nat.zero_le _
    | some entry => exact seated_le_detailCapacity known honest found
  refine ⟨?_, within, ?_, honest.ended, ?_, ?_⟩
  · intro cohortId row shown seated
    obtain ⟨entry, did, member, found, held, rfl⟩ :=
      mem_members_buildDetail.mp shown
    exact
      (honest.seats cohortId did _ (seat?_of_lookup found held)).accepted seated
  · intro cohortId
    rw [seatsJoined_buildDetail]
    cases session : state.session.lookup cohortId with
    | none => exact within cohortId
    | some cohort =>
        obtain ⟨opened, same⟩ := known.live cohortId cohort session
        rw [capacity_buildDetail, session]
        change cohort.participants.length ≤ cohort.minParticipants
        rw [same]
        exact known.seats cohortId _ opened
  · intro cohortId row shown
    obtain ⟨entry, did, member, found, held, seated, rfl⟩ :=
      mem_submissions_buildDetail.mp shown
    have here := honest.seats cohortId did _ (seat?_of_lookup found held)
    exact
      (submitted_submissionRow_iff cohortId did member).trans
        (here.submitted seated)
  · intro cohortId row shown
    obtain ⟨entry, did, member, found, held, rfl⟩ :=
      mem_members_buildDetail.mp shown
    exact (honest.seats cohortId did _ (seat?_of_lookup found held)).forward

end Shown

end Btcr2Aggregation
