import Btcr2Aggregation.Service.Monitor

/-!
# The drill-down of one cohort

`buildDetail` composes what the monitor folded with what the session still
holds: the seats, the phase and the pending updates come from the live cohort
while there is one, the members always from the fold.
-/

namespace Btcr2Aggregation

open InsertionMap

section Session

/-! ## The live cohorts -/

/-- A cohort of the session, as the monitor reads it; a pending update is its
raw body. -/
structure LiveCohort where
  phase : CohortPhase
  minParticipants : Nat
  participants : List String
  pendingUpdates : InsertionMap String String
  effectiveFallbackThreshold : Nat

/-- The live session with its cohorts in full. -/
abbrev CohortSession := InsertionMap CohortId LiveCohort

def LiveCohort.seats (cohort : LiveCohort) : SessionSeats where
  phase := cohort.phase
  joined := cohort.participants.length
  minParticipants := cohort.minParticipants

/-- What the folds read of the session. -/
def sessionSeats (session : CohortSession) : MonitorSession :=
  mapValues LiveCohort.seats session

@[simp]
theorem lookup_sessionSeats (session : CohortSession) (cohortId : CohortId) :
    (sessionSeats session).lookup cohortId =
      (session.lookup cohortId).map LiveCohort.seats :=
  lookup_mapValues LiveCohort.seats session cohortId

end Session

section Projection

/-! ## The projection -/

structure CohortMember where
  did : String
  status : MemberStatus
  since : Nat
  round : MemberRound
  participantPk : Option String
  communicationPk : Option String
  testPeer : Bool
  deriving DecidableEq, Repr

structure Submission where
  did : String
  submitted : Bool
  receivedAt : Option Nat
  raw : Option String
  deriving DecidableEq, Repr

structure CoSign where
  noncesReceived : Nat
  total : Nat
  awaitingPartialSigs : Bool
  deriving DecidableEq, Repr

structure FallbackUse where
  used : Bool
  k : Option Nat
  n : Option Nat
  deriving DecidableEq, Repr

/-- The drill-down; a `phase` of `none` is `'unknown'`, and `anchor` is handed
through from the anchor state. -/
structure CohortDetail (Anchor : Type) where
  present : Bool
  members : List CohortMember
  seatsJoined : Nat
  capacity : Nat
  phase : Option CohortPhase
  submissions : List Submission
  coSign : CoSign
  anchor : Anchor
  fallback : FallbackUse
  activity : List ActivityEntry
  funding : Option MonitoredFunding
  canceled : Bool

/-- The rounds that count as a submission. -/
def MemberRound.countsSubmitted : MemberRound → Bool
  | .submitted => true
  | .validated => true
  | .nonceSent => true
  | .seated => false
  | .rejected => false

def memberRow (testPeerDids : List String) (did : String) (member : MemberRecord) :
    CohortMember where
  did
  status := member.status
  since := member.since
  round := member.round
  participantPk := member.participantPk
  communicationPk := member.communicationPk
  testPeer := did ∈ testPeerDids

def submissionRow
    (pendingUpdates : Option (InsertionMap String String)) (did : String)
    (member : MemberRecord) : Submission where
  did
  submitted :=
    member.round.countsSubmitted ∨ pendingUpdates.any fun updates => did ∈ updates
  receivedAt := member.submittedAt
  raw := pendingUpdates.bind fun updates => updates.lookup did

def absentDetail {Anchor : Type} (anchor : Anchor) : CohortDetail Anchor where
  present := false
  members := []
  seatsJoined := 0
  capacity := 0
  phase := none
  submissions := []
  coSign := { noncesReceived := 0, total := 0, awaitingPartialSigs := false }
  anchor
  fallback := { used := false, k := none, n := none }
  activity := []
  funding := none
  canceled := false

namespace MonitorEntry

/-- The members, in the order they first appeared. -/
def memberRows (entry : MonitorEntry) (testPeerDids : List String) :
    List CohortMember :=
  entry.members.entries.reverse.map fun member =>
    memberRow testPeerDids member.1 member.2

/-- One row for every seated member. -/
def submissionRows
    (entry : MonitorEntry)
    (pendingUpdates : Option (InsertionMap String String)) :
    List Submission :=
  (entry.members.entries.reverse.filter fun member =>
    member.2.status = .seated).map fun member =>
      submissionRow pendingUpdates member.1 member.2

end MonitorEntry

/-- The capacity in force: the live cohort's seat count, else the last one the
fold took. -/
def detailCapacity
    (cohort : Option LiveCohort) (entry : Option MonitorEntry) : Nat :=
  match cohort, entry with
  | some cohort, _ => cohort.minParticipants
  | none, some entry => entry.capacity
  | none, none => 0

/-- The detail of a cohort that the fold or the session knows. -/
def Monitor.presentDetail
    {Anchor : Type} (monitor : Monitor) (testPeerDids : List String)
    (anchor : Anchor) (scriptPath : Bool) (cohortId : CohortId)
    (entry : Option MonitorEntry) (cohort : Option LiveCohort) :
    CohortDetail Anchor :=
  let members := (entry.map (·.memberRows testPeerDids)).getD []
  let capacity := detailCapacity cohort entry
  let noncesReceived := (entry.map (·.noncesSent.length)).getD 0
  { present := true
    members
    seatsJoined :=
      match cohort with
      | some cohort => cohort.participants.length
      | none => (members.filter fun member => member.status = .seated).length
    capacity
    phase := cohort.map LiveCohort.phase
    submissions :=
      (entry.map
        (·.submissionRows (cohort.map LiveCohort.pendingUpdates))).getD []
    coSign := {
      noncesReceived
      total := capacity
      awaitingPartialSigs :=
        0 < capacity ∧ capacity ≤ noncesReceived ∧
          ¬ entry.any MonitorEntry.signingComplete }
    anchor
    fallback := {
      used := scriptPath || entry.any MonitorEntry.fellBack
      k :=
        (cohort.map LiveCohort.effectiveFallbackThreshold).filter fun k =>
          0 < k
      n := if 0 < capacity then some capacity else none }
    activity := (entry.map MonitorEntry.activity).getD []
    funding :=
      if monitor.mode = .live then monitor.fundingViews.lookup cohortId
      else none
    canceled :=
      (monitor.ended.lookup cohortId).map EndedRecord.chip = some .canceled }

/-- `buildDetail`.  `scriptPath` is whether the session has a result of the
cohort that took the script path. -/
def Monitor.buildDetail
    {Anchor : Type} (monitor : Monitor) (session : CohortSession)
    (testPeerDids : List String) (anchorView : CohortId → Anchor)
    (scriptPath : CohortId → Bool) (cohortId : CohortId) :
    CohortDetail Anchor :=
  if
      (monitor.entries.lookup cohortId).isNone ∧
        (session.lookup cohortId).isNone then
    absentDetail (anchorView cohortId)
  else
    monitor.presentDetail testPeerDids (anchorView cohortId)
      (scriptPath cohortId) cohortId (monitor.entries.lookup cohortId)
      (session.lookup cohortId)

end Projection

section Rows

/-! ## The rows of a detail -/

variable
  {Anchor : Type} (monitor : Monitor) (session : CohortSession)
  (testPeerDids : List String) (anchorView : CohortId → Anchor)
  (scriptPath : CohortId → Bool) (cohortId : CohortId)

theorem members_buildDetail :
    (monitor.buildDetail session testPeerDids anchorView scriptPath
        cohortId).members =
      ((monitor.entries.lookup cohortId).map
        (·.memberRows testPeerDids)).getD [] := by
  unfold Monitor.buildDetail
  split
  · next absent =>
      rw [Option.isNone_iff_eq_none.mp absent.1]
      rfl
  · rfl

theorem submissions_buildDetail :
    (monitor.buildDetail session testPeerDids anchorView scriptPath
        cohortId).submissions =
      ((monitor.entries.lookup cohortId).map
        (·.submissionRows
          ((session.lookup cohortId).map
            LiveCohort.pendingUpdates))).getD [] := by
  unfold Monitor.buildDetail
  split
  · next absent =>
      rw [Option.isNone_iff_eq_none.mp absent.1]
      rfl
  · rfl

theorem capacity_buildDetail :
    (monitor.buildDetail session testPeerDids anchorView scriptPath
        cohortId).capacity =
      detailCapacity (session.lookup cohortId)
        (monitor.entries.lookup cohortId) := by
  unfold Monitor.buildDetail
  split
  · next absent =>
      rw [Option.isNone_iff_eq_none.mp absent.1,
        Option.isNone_iff_eq_none.mp absent.2]
      rfl
  · rfl

/-- The seats shown: the live cohort's, else the seated members of the fold. -/
theorem seatsJoined_buildDetail :
    (monitor.buildDetail session testPeerDids anchorView scriptPath
        cohortId).seatsJoined =
      match session.lookup cohortId with
      | some cohort => cohort.participants.length
      | none =>
          ((monitor.buildDetail session testPeerDids anchorView scriptPath
              cohortId).members.filter fun member =>
            member.status = .seated).length := by
  rw [members_buildDetail]
  unfold Monitor.buildDetail
  split
  · next absent =>
      rw [Option.isNone_iff_eq_none.mp absent.1,
        Option.isNone_iff_eq_none.mp absent.2]
      rfl
  · rfl

/-- The seated rows of a fold are its seated members. -/
theorem length_seated_memberRows (entry : MonitorEntry) :
    ((entry.memberRows testPeerDids).filter fun member =>
        member.status = .seated).length =
      entry.seated := by
  unfold MonitorEntry.memberRows MonitorEntry.seated
  rw [List.filter_map, List.length_map, List.filter_reverse,
    List.length_reverse]
  rfl

theorem mem_memberRows {entry : MonitorEntry} {row : CohortMember} :
    row ∈ entry.memberRows testPeerDids ↔
      ∃ did member,
        entry.members.lookup did = some member ∧
          row = memberRow testPeerDids did member := by
  unfold MonitorEntry.memberRows
  rw [List.mem_map]
  constructor
  · rintro ⟨⟨did, member⟩, held, rfl⟩
    exact
      ⟨did, member, AList.mem_lookup_iff.mpr (List.mem_reverse.mp held), rfl⟩
  · rintro ⟨did, member, found, rfl⟩
    exact
      ⟨⟨did, member⟩, List.mem_reverse.mpr (AList.mem_lookup_iff.mp found), rfl⟩

theorem mem_submissionRows
    {entry : MonitorEntry}
    {pendingUpdates : Option (InsertionMap String String)} {row : Submission} :
    row ∈ entry.submissionRows pendingUpdates ↔
      ∃ did member,
        entry.members.lookup did = some member ∧ member.status = .seated ∧
          row = submissionRow pendingUpdates did member := by
  unfold MonitorEntry.submissionRows
  rw [List.mem_map]
  constructor
  · rintro ⟨⟨did, member⟩, held, rfl⟩
    obtain ⟨listed, seated⟩ := List.mem_filter.mp held
    exact
      ⟨did, member, AList.mem_lookup_iff.mpr (List.mem_reverse.mp listed),
        of_decide_eq_true seated, rfl⟩
  · rintro ⟨did, member, found, seated, rfl⟩
    exact
      ⟨⟨did, member⟩,
        List.mem_filter.mpr
          ⟨List.mem_reverse.mpr (AList.mem_lookup_iff.mp found),
            decide_eq_true seated⟩,
        rfl⟩

end Rows

end Btcr2Aggregation
