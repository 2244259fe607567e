import Btcr2Aggregation.Service.CohortDetail

/-!
# What an event does to the members

Six kinds of event change a member, each one member of one cohort.  Everything
else leaves the members of every entry that stays as they were; an entry can go,
by eviction or by dismissal.
-/

namespace Btcr2Aggregation

open InsertionMap

section Seats

/-! ## Member folds -/

/-- How a member stands: only opted in or seated, and how far in the round. -/
structure MemberSeat where
  status : MemberStatus
  round : MemberRound
  deriving DecidableEq, Repr

def MemberRecord.seat (member : MemberRecord) : MemberSeat where
  status := member.status
  round := member.round

/-- The steps of the round in their order; `rejected` ends it. -/
def MemberRound.rank : MemberRound → Nat
  | .seated => 0
  | .submitted => 1
  | .validated => 2
  | .nonceSent => 3
  | .rejected => 4

/-- The kinds of event that change a member. -/
inductive MemberFold where
  | optIn
  | accept
  | submit
  | validate
  | reject
  | sendNonce
  deriving DecidableEq, Repr

namespace MemberFold

/-- What `memberFor` records of a DID it has not seen. -/
def firstSeen : MemberSeat where
  status := .seated
  round := .seated

def advance (seat : MemberSeat) (round : MemberRound) : MemberSeat :=
  if seat.round = .rejected then seat else { seat with round }

/-- How the member stands afterwards, from how it stood, if it was known. -/
def seatAfter : MemberFold → Option MemberSeat → MemberSeat
  | .optIn, none => { status := .pending, round := .seated }
  | .optIn, some seat => seat
  | .accept, known => { known.getD firstSeen with status := .seated }
  | .submit, known => advance (known.getD firstSeen) .submitted
  | .validate, known => advance (known.getD firstSeen) .validated
  | .reject, known => { known.getD firstSeen with round := .rejected }
  | .sendNonce, known => advance (known.getD firstSeen) .nonceSent

end MemberFold

/-- The member an event is about, and what it does to it. -/
def MonitorEvent.memberFold? :
    MonitorEvent → Option (CohortId × String × MemberFold)
  | .notice (.optInReceived cohortId did _ _) => some (cohortId, did, .optIn)
  | .notice (.participantAccepted cohortId did) => some (cohortId, did, .accept)
  | .notice (.updateReceived cohortId did) => some (cohortId, did, .submit)
  | .notice (.validationReceived cohortId did true) =>
      some (cohortId, did, .validate)
  | .notice (.validationReceived cohortId did false) =>
      some (cohortId, did, .reject)
  | .notice (.messageRejected cohortId sender _ _) =>
      some (cohortId, sender, .reject)
  | .notice (.nonceReceived cohortId did) => some (cohortId, did, .sendNonce)
  | _ => none

namespace MonitorEntry

def seat? (entry : MonitorEntry) (did : String) : Option MemberSeat :=
  (entry.members.lookup did).map MemberRecord.seat

/-- A fold of one member: that member stands as it says, and the others and the
capacity are as they were. -/
structure Folds
    (before after : MonitorEntry) (did : String) (fold : MemberFold) :
    Prop where
  seat : after.seat? did = some (fold.seatAfter (before.seat? did))
  others :
    ∀ other, other ≠ did →
      after.members.lookup other = before.members.lookup other
  capacity : after.capacity = before.capacity

variable (entry : MonitorEntry) (now : Nat) (did : String)

/-- Writing one member, whatever else the entry is told. -/
theorem folds_of_members
    {after : MonitorEntry} {member : MemberRecord} {fold : MemberFold}
    (members : after.members = entry.members.set did member)
    (capacity : after.capacity = entry.capacity)
    (seat : member.seat = fold.seatAfter (entry.seat? did)) :
    entry.Folds after did fold := by
  refine ⟨?_, ?_, capacity⟩
  · rw [seat?, members, lookup_set_self, ← seat]
    rfl
  · intro other different
    rw [members, lookup_set_of_ne different]

theorem seat_memberFor :
    (entry.memberFor did now).seat =
      (entry.seat? did).getD MemberFold.firstSeen := by
  unfold memberFor seat?
  cases entry.members.lookup did with
  | none => rfl
  | some member => rfl

theorem seat_advance (member : MemberRecord) (round : MemberRound) :
    (advance member round).seat = MemberFold.advance member.seat round := by
  unfold advance MemberFold.advance MemberRecord.seat
  by_cases rejected : member.round = .rejected
  · rw [if_pos rejected, if_pos rejected]
  · rw [if_neg rejected, if_neg rejected]

theorem folds_optIn (participantPk communicationPk : Option String) :
    entry.Folds (entry.optIn now did participantPk communicationPk) did
      .optIn := by
  unfold optIn
  by_cases present : did ∈ entry.members
  · rw [if_pos present]
    obtain ⟨member, found⟩ := exists_lookup_of_mem present
    refine ⟨?_, fun _ _ => rfl, rfl⟩
    rw [seat?, found]
    rfl
  · rw [if_neg present]
    have absent : entry.members.lookup did = none :=
      AList.lookup_eq_none.mpr present
    refine
      folds_of_members entry did (members_appendActivity _ _ _ _)
        (capacity_appendActivity _ _ _ _) ?_
    rw [seat?, absent]
    rfl

theorem folds_accept : entry.Folds (entry.accept now did) did .accept := by
  refine
    folds_of_members entry did (members_appendActivity _ _ _ _)
      (capacity_appendActivity _ _ _ _) ?_
  rw [MemberFold.seatAfter, ← entry.seat_memberFor now did]
  rfl

theorem folds_submit : entry.Folds (entry.submit now did) did .submit := by
  refine
    folds_of_members entry did (members_appendActivity _ _ _ _)
      (capacity_appendActivity _ _ _ _) ?_
  rw [MemberFold.seatAfter, ← entry.seat_memberFor now did, ← seat_advance]
  rfl

theorem folds_validate (approved : Bool) :
    entry.Folds (entry.validate now did approved) did
      (if approved then .validate else .reject) := by
  cases approved with
  | true =>
      refine
        folds_of_members entry did (members_appendActivity _ _ _ _)
          (capacity_appendActivity _ _ _ _) ?_
      rw [if_pos rfl, MemberFold.seatAfter, ← entry.seat_memberFor now did,
        ← seat_advance]
  | false =>
      refine
        folds_of_members entry did (members_appendActivity _ _ _ _)
          (capacity_appendActivity _ _ _ _) ?_
      rw [if_neg Bool.false_ne_true, MemberFold.seatAfter,
        ← entry.seat_memberFor now did]
      rfl

theorem folds_rejectMessage (code reason : String) :
    entry.Folds (entry.rejectMessage now did code reason) did .reject := by
  refine
    folds_of_members entry did (members_appendActivity _ _ _ _)
      (capacity_appendActivity _ _ _ _) ?_
  rw [MemberFold.seatAfter, ← entry.seat_memberFor now did]
  rfl

theorem folds_sendNonce :
    entry.Folds (entry.sendNonce now did) did .sendNonce := by
  refine
    folds_of_members entry did (members_appendActivity _ _ _ _)
      (capacity_appendActivity _ _ _ _) ?_
  rw [MemberFold.seatAfter, ← entry.seat_memberFor now did, ← seat_advance]

/-- Seated members that are all among some names are no more than these. -/
theorem seated_le
    {entry : MonitorEntry} {names : List String}
    (among :
      ∀ did member,
        entry.members.lookup did = some member → member.status = .seated →
          did ∈ names) :
    entry.seated ≤ names.length := by
  have distinct :
      ((entry.members.entries.filter fun member =>
        member.2.status = .seated).map Sigma.fst).Nodup :=
    (List.filter_sublist.map Sigma.fst).nodup entry.members.nodupKeys
  have subset :
      (entry.members.entries.filter fun member =>
        member.2.status = .seated).map Sigma.fst ⊆ names := by
    intro did listed
    obtain ⟨⟨name, member⟩, kept, rfl⟩ := List.mem_map.mp listed
    obtain ⟨held, seated⟩ := List.mem_filter.mp kept
    exact
      among name member (AList.mem_lookup_iff.mpr held)
        (of_decide_eq_true seated)
  have bound := (List.subperm_of_subset distinct subset).length_le
  rw [List.length_map] at bound
  exact bound

end MonitorEntry

end Seats

section Entries

/-! ## What a step does to the entries -/

namespace Monitor

/-- One cohort's entry is written; the others stay as they were or go. -/
structure WritesEntry
    (before after : InsertionMap CohortId MonitorEntry) (cohortId : CohortId)
    (entry : MonitorEntry) : Prop where
  here : after.lookup cohortId = some entry
  others :
    ∀ other found, other ≠ cohortId → after.lookup other = some found →
      before.lookup other = some found

/-- The ways a step changes the entries. -/
inductive EntriesWrite
    (monitor : Monitor) (session : MonitorSession) (event : MonitorEvent)
    (after : InsertionMap CohortId MonitorEntry) : Prop where
  | kept
      (noFold : event.memberFold? = none)
      (same :
        ∀ cohortId entry, after.lookup cohortId = some entry →
          ∃ before,
            monitor.entries.lookup cohortId = some before ∧
              entry.members = before.members ∧
                entry.capacity = before.capacity)
  | refreshed (cohortId : CohortId) (entry : MonitorEntry)
      (noFold : event.memberFold? = none)
      (writes : WritesEntry monitor.entries after cohortId entry)
      (members : entry.members = (monitor.entryFor cohortId).members)
      (capacity :
        entry.capacity =
            (snapshotCapacity session cohortId
              (monitor.entryFor cohortId)).capacity ∨
          entry.capacity = (monitor.entryFor cohortId).capacity)
  | folded (cohortId : CohortId) (did : String) (fold : MemberFold)
      (changed : MonitorEntry)
      (about : event.memberFold? = some (cohortId, did, fold))
      (folds : (monitor.entryFor cohortId).Folds changed did fold)
      (writes :
        WritesEntry monitor.entries after cohortId
          (snapshotCapacity session cohortId changed))

theorem members_snapshotCapacity
    (session : MonitorSession) (cohortId : CohortId) (entry : MonitorEntry) :
    (snapshotCapacity session cohortId entry).members = entry.members := by
  unfold snapshotCapacity
  split <;> rfl

theorem capacity_snapshotCapacity
    (session : MonitorSession) (cohortId : CohortId) (entry : MonitorEntry) :
    (snapshotCapacity session cohortId entry).capacity =
      ((session.lookup cohortId).map SessionSeats.minParticipants).getD
        entry.capacity := by
  unfold snapshotCapacity
  split
  · next seats found => rw [found]; rfl
  · next gone => rw [gone]; rfl

variable
  (monitor : Monitor) (session : MonitorSession) (now : Nat)

theorem writesEntry_remember
    (table : InsertionMap CohortId MonitorEntry) (cohortId : CohortId)
    (entry : MonitorEntry) :
    WritesEntry table (table.remember maxMonitored cohortId entry) cohortId
      entry := by
  refine ⟨lookup_remember_self (by decide) table cohortId entry, ?_⟩
  intro other found different held
  rcases lookup_remember_cases held with ⟨same, -⟩ | ⟨-, before⟩
  · exact absurd same different
  · exact before

theorem WritesEntry.again
    {before between after : InsertionMap CohortId MonitorEntry}
    {cohortId : CohortId} {first second : MonitorEntry}
    (earlier : WritesEntry before between cohortId first)
    (later : WritesEntry between after cohortId second) :
    WritesEntry before after cohortId second := by
  refine ⟨later.here, ?_⟩
  intro other found different held
  exact
    earlier.others other found different
      (later.others other found different held)

/-- A fold of one member, through `touch`. -/
theorem entriesWrite_fold
    {event : MonitorEvent} {cohortId : CohortId} {did : String}
    {fold : MemberFold} {change : MonitorEntry → MonitorEntry}
    (about : event.memberFold? = some (cohortId, did, fold))
    (folds :
      (monitor.entryFor cohortId).Folds (change (monitor.entryFor cohortId)) did
        fold) :
    EntriesWrite monitor session event
      (monitor.touch session cohortId change).entries :=
  .folded cohortId did fold _ about folds
    (writesEntry_remember monitor.entries cohortId _)

/-- A `touch` that leaves the members and the capacity. -/
theorem entriesWrite_touch
    {event : MonitorEvent} {cohortId : CohortId}
    {change : MonitorEntry → MonitorEntry}
    (noFold : event.memberFold? = none)
    (members : ∀ entry, (change entry).members = entry.members)
    (capacity : ∀ entry, (change entry).capacity = entry.capacity) :
    EntriesWrite monitor session event
      (monitor.touch session cohortId change).entries := by
  refine
    .refreshed cohortId _ noFold (writesEntry_remember monitor.entries _ _) ?_ ?_
  · rw [members_snapshotCapacity, members]
  · rw [capacity_snapshotCapacity, capacity_snapshotCapacity, capacity]
    exact Or.inl rfl

/-- The lookups of an entry that was only amended. -/
theorem lookup_amend
    {cohortId : CohortId} {change : MonitorEntry → MonitorEntry}
    (members : ∀ entry, (change entry).members = entry.members)
    (capacity : ∀ entry, (change entry).capacity = entry.capacity)
    (other : CohortId) (entry : MonitorEntry)
    (found : (monitor.amend cohortId change).entries.lookup other = some entry) :
    ∃ before,
      monitor.entries.lookup other = some before ∧
        entry.members = before.members ∧ entry.capacity = before.capacity := by
  by_cases same : other = cohortId
  · subst same
    simp only [amend, lookup_modify_self] at found
    obtain ⟨before, held, rfl⟩ := Option.map_eq_some_iff.mp found
    exact ⟨before, held, members before, capacity before⟩
  · simp only [amend, lookup_modify_of_ne same] at found
    exact ⟨entry, found, rfl, rfl⟩

theorem entriesWrite_amend
    {event : MonitorEvent} {cohortId : CohortId}
    {change : MonitorEntry → MonitorEntry}
    (noFold : event.memberFold? = none)
    (members : ∀ entry, (change entry).members = entry.members)
    (capacity : ∀ entry, (change entry).capacity = entry.capacity) :
    EntriesWrite monitor session event (monitor.amend cohortId change).entries :=
  .kept noFold (monitor.lookup_amend members capacity)

theorem entriesWrite_same
    {event : MonitorEvent} (noFold : event.memberFold? = none) :
    EntriesWrite monitor session event monitor.entries :=
  .kept noFold fun _ entry found => ⟨entry, found, rfl, rfl⟩

theorem entriesWrite_onNotice (notice : RunnerNotice) :
    EntriesWrite monitor session (.notice notice)
      (monitor.onNotice session now notice).entries := by
  cases notice with
  | optInReceived cohortId did participantPk communicationPk =>
      exact
        monitor.entriesWrite_fold session rfl
          (MonitorEntry.folds_optIn _ now did participantPk communicationPk)
  | participantAccepted cohortId did =>
      exact
        monitor.entriesWrite_fold session rfl (MonitorEntry.folds_accept _ now did)
  | keygenComplete cohortId beaconAddress =>
      exact
        monitor.entriesWrite_touch session rfl
          (fun _ => MonitorEntry.members_appendActivity _ _ _ _)
          (fun _ => MonitorEntry.capacity_appendActivity _ _ _ _)
  | updateReceived cohortId did =>
      exact
        monitor.entriesWrite_fold session rfl (MonitorEntry.folds_submit _ now did)
  | validationReceived cohortId did approved =>
      refine
        monitor.entriesWrite_fold session ?_
          (MonitorEntry.folds_validate _ now did approved)
      cases approved <;> rfl
  | messageRejected cohortId sender code reason =>
      exact
        monitor.entriesWrite_fold session rfl
          (MonitorEntry.folds_rejectMessage _ now sender code reason)
  | signingStarted cohortId =>
      exact
        monitor.entriesWrite_touch session rfl
          (fun _ => MonitorEntry.members_appendActivity _ _ _ _)
          (fun _ => MonitorEntry.capacity_appendActivity _ _ _ _)
  | nonceReceived cohortId did =>
      exact
        monitor.entriesWrite_fold session rfl
          (MonitorEntry.folds_sendNonce _ now did)
  | fallbackStarted cohortId =>
      exact
        monitor.entriesWrite_touch session rfl
          (fun _ => MonitorEntry.members_appendActivity _ _ _ _)
          (fun _ => MonitorEntry.capacity_appendActivity _ _ _ _)
  | signingComplete cohortId scriptPath =>
      exact
        monitor.entriesWrite_amend session rfl
          (fun _ => MonitorEntry.members_appendActivity _ _ _ _)
          (fun _ => MonitorEntry.capacity_appendActivity _ _ _ _)
  | cohortFailed cohortId reason =>
      exact
        monitor.entriesWrite_amend session rfl
          (fun _ => MonitorEntry.members_appendActivity _ _ _ _)
          (fun _ => MonitorEntry.capacity_appendActivity _ _ _ _)

theorem entriesWrite_onFrame (frame : AnchorFrame) :
    EntriesWrite monitor session (.frame frame)
      (monitor.onFrame session now frame).entries := by
  cases frame with
  | broadcast cohortId txid =>
      exact
        monitor.entriesWrite_amend session rfl
          (fun _ => MonitorEntry.members_appendActivity _ _ _ _)
          (fun _ => MonitorEntry.capacity_appendActivity _ _ _ _)
  | failed cohortId reason =>
      exact
        monitor.entriesWrite_amend session rfl
          (fun _ => MonitorEntry.members_appendActivity _ _ _ _)
          (fun _ => MonitorEntry.capacity_appendActivity _ _ _ _)
  | anchored cohortId txid confirmed =>
      cases confirmed with
      | false => exact monitor.entriesWrite_same session rfl
      | true =>
          exact
            monitor.entriesWrite_amend session rfl
              (fun _ => MonitorEntry.members_appendActivity _ _ _ _)
              (fun _ => MonitorEntry.capacity_appendActivity _ _ _ _)

/-- An operator action writes the cohort's entry, or repeats the last one. -/
theorem recordOperatorAction_cases (cohortId : CohortId) (text : String) :
    monitor.recordOperatorAction cohortId now text = monitor ∨
      monitor.recordOperatorAction cohortId now text =
        monitor.remember cohortId
          ((monitor.entryFor cohortId).appendActivity now .info text) := by
  unfold recordOperatorAction
  dsimp only
  split
  · exact Or.inl rfl
  · exact Or.inr rfl

theorem entryFor_remember (cohortId : CohortId) (entry : MonitorEntry) :
    (monitor.remember cohortId entry).entryFor cohortId = entry := by
  rw [entryFor, remember, lookup_remember_self (by decide)]
  rfl

/-- Every step changes the entries in one of these ways. -/
theorem entriesWrite_step (event : MonitorEvent) :
    EntriesWrite monitor session event
      (monitor.step session now event).entries := by
  cases event with
  | notice notice => exact monitor.entriesWrite_onNotice session now notice
  | frame frame => exact monitor.entriesWrite_onFrame session now frame
  | noteEsploraObservation ok => exact monitor.entriesWrite_same session rfl
  | noteFunding cohortId view =>
      have same :
          (monitor.noteFunding cohortId view).entries = monitor.entries := by
        unfold noteFunding
        split
        · rfl
        · split <;> rfl
      rw [step, same]
      exact monitor.entriesWrite_same session rfl
  | noteCanceled cohortId =>
      simp only [step, noteCanceled]
      split
      · exact monitor.entriesWrite_same session rfl
      · rcases monitor.recordOperatorAction_cases now cohortId
          canceledActivityText with same | written
        · simp only [rememberEnded, same]
          exact
            monitor.entriesWrite_touch session rfl (fun _ => rfl) fun _ => rfl
        · simp only [rememberEnded, written]
          refine
            .refreshed cohortId _ rfl
              ((writesEntry_remember monitor.entries cohortId _).again
                (writesEntry_remember _ cohortId _))
              ?_ ?_
          · rw [entryFor_remember, members_snapshotCapacity, id,
              MonitorEntry.members_appendActivity]
          · rw [entryFor_remember, capacity_snapshotCapacity,
              capacity_snapshotCapacity, id,
              MonitorEntry.capacity_appendActivity]
            exact Or.inl rfl
  | noteOperatorAction cohortId text =>
      rcases monitor.recordOperatorAction_cases now cohortId text with
        same | written
      · rw [step, same]
        exact monitor.entriesWrite_same session rfl
      · rw [step, written]
        exact
          .refreshed cohortId _ rfl (writesEntry_remember monitor.entries _ _)
            (MonitorEntry.members_appendActivity _ _ _ _)
            (Or.inr (MonitorEntry.capacity_appendActivity _ _ _ _))
  | noteServiceAction text =>
      rw [step, recordServiceAction_eq]
      exact monitor.entriesWrite_same session rfl
  | dismissEnded cohortId =>
      simp only [step, dismissEnded]
      split
      · exact monitor.entriesWrite_same session rfl
      · split
        · exact monitor.entriesWrite_same session rfl
        · rw [recordServiceAction_eq]
          refine .kept rfl ?_
          intro other entry found
          exact ⟨entry, lookup_of_lookup_erase found, rfl, rfl⟩

end Monitor

end Entries

end Btcr2Aggregation
