import Mathlib.Algebra.Order.BigOperators.Group.List
import Btcr2Aggregation.Service.TestPeerRuns

/-!
# The seats the test peers take

A request reads the free seats once, before its spawn; the peers take seats
only after a round trip each.  What bounds the peers of a cohort is therefore
not the request's own arithmetic but the promises of the earlier requests: the
peers that run and those still to be started.

A peer that holds a seat is one peer, not also one more participant, so the
room of a request is what the strangers leave.
-/

namespace Btcr2Aggregation

section Law

/-! ## The law -/

/-- The seats the test peers of a cohort can have: those free, and those that
test peers hold already. -/
def CohortSeats.forPeers (seats : CohortSeats) : Nat :=
  seats.remaining + seats.testPeers

structure PeersFit (run : PeerRun) : Prop where
  /-- The peers that run fit in the seats there were for them when the last
  request was admitted. -/
  fits :
    ∀ cohortId,
      ∀ seats ∈ run.admittedAt.lookup cohortId,
        run.runningFor cohortId ≤ seats.forPeers
  /-- With the strangers that had joined they fit in the cohort. -/
  within :
    ∀ cohortId,
      ∀ seats ∈ run.admittedAt.lookup cohortId,
        run.runningFor cohortId + seats.strangers ≤ seats.capacity
  /-- No request, no peer. -/
  asked :
    ∀ cohortId,
      cohortId ∉ run.admittedAt → run.runningFor cohortId = 0

/-- A request is admitted only while the test peers that run or are still to be
started for its cohort leave it the seats it sets out to fill. -/
def LeavesRoom (run : PeerRun) : PeerEvent → Prop
  | .addTestPeers cohortId requested =>
      ∀ seats ∈ run.admitted? cohortId,
        run.promisedFor cohortId + run.wanted seats requested ≤ seats.forPeers
  | _ => True

instance (run : PeerRun) (event : PeerEvent) :
    Decidable (LeavesRoom run event) := by
  induction event using PeerEvent.casesOn with
  | addTestPeers _ _ => exact inferInstanceAs (Decidable (∀ _ ∈ _, _))
  | _ => exact isTrue trivial

end Law

section Batch

/-! ## What one batch promises -/

namespace PeerBatch

variable {settled stopped : Bool} {batch : PeerBatch}

/-- The peers that run or are still to be started. -/
def promised (batch : PeerBatch) : Nat :=
  batch.running.length + (batch.wanted - batch.attempted)

theorem running_stopAll_le :
    batch.stopAll.running.length ≤ batch.running.length := by
  unfold stopAll
  split
  · exact Nat.le_refl _
  · exact List.length_filter_le _ _

theorem promised_stopAll_le : batch.stopAll.promised ≤ batch.promised := by
  have fewer := batch.running_stopAll_le
  rw [promised, promised, attempted_stopAll, wanted_stopAll]
  omega

theorem promised_drop_le : batch.drop.promised ≤ batch.promised := by
  unfold PeerBatch.drop
  split
  · exact promised_stopAll_le
  · exact Nat.le_refl _

theorem promised_tornDown_le
    {released : Option CohortId} {event : SideEvent} :
    (batch.tornDown released event).promised ≤ batch.promised := by
  cases released with
  | some cohortId =>
      unfold tornDown
      dsimp only
      split
      · exact promised_drop_le
      · exact Nat.le_refl _
  | none =>
      unfold tornDown
      dsimp only
      split
      · exact Nat.le_trans promised_stopAll_le promised_drop_le
      · exact Nat.le_refl _

/-- A `start()` that resolves turns a promised peer into a running one, or into
none. -/
theorem promised_startResolves_le {ok : Bool}
    (awaits : batch.attempted < batch.wanted) :
    (batch.startResolves stopped ok).promised ≤ batch.promised := by
  have next : (batch.settleStart ok).promised ≤ batch.promised := by
    cases ok with
    | true =>
        simp only [promised, settleStart, if_true, List.length_append,
          List.length_singleton]
        omega
    | false =>
        simp only [promised, settleStart, Bool.false_eq_true, if_false]
        omega
  unfold PeerBatch.startResolves
  dsimp only
  split
  · exact next
  · unfold PeerBatch.afterLoop
    split
    · exact Nat.le_trans promised_stopAll_le next
    · exact next

end PeerBatch

end Batch

section Invariant

/-! ## What one step promises -/

namespace PeerRun

variable {options : ServiceOptions} {run : PeerRun} {event : PeerEvent}

/-- What runs was promised. -/
theorem runningFor_le_promisedFor (cohortId : CohortId) :
    run.runningFor cohortId ≤ run.promisedFor cohortId := by
  refine List.sum_le_sum ?_
  intro batch _
  split
  · exact Nat.le_add_right _ _
  · exact Nat.le_refl _

/-- A change of each batch that promises no more, promises no cohort more. -/
theorem promisedFor_map_le
    {after : PeerRun} {change : PeerBatch → PeerBatch}
    (changed : after.batches = run.batches.map change)
    (cohortId : ∀ batch, (change batch).cohortId = batch.cohortId)
    (promised :
      ∀ batch ∈ run.batches, (change batch).promised ≤ batch.promised)
    (target : CohortId) :
    after.promisedFor target ≤ run.promisedFor target := by
  unfold promisedFor
  rw [changed, List.map_map]
  refine List.sum_le_sum ?_
  intro batch member
  rw [Function.comp_apply, cohortId]
  split
  · exact promised batch member
  · exact Nat.le_refl _

/-- The promises fit in the seats the last request found, and it found one. -/
structure Fits (run : PeerRun) : Prop where
  fits :
    ∀ cohortId,
      ∀ seats ∈ run.admittedAt.lookup cohortId,
        run.promisedFor cohortId ≤ seats.forPeers
  free :
    ∀ cohortId,
      ∀ seats ∈ run.admittedAt.lookup cohortId, 0 < seats.remaining
  asked :
    ∀ batch ∈ run.batches, batch.cohortId ∈ run.admittedAt

theorem Fits.map
    (fits : run.Fits) {after : PeerRun} {change : PeerBatch → PeerBatch}
    (admittedAt : after.admittedAt = run.admittedAt)
    (changed : after.batches = run.batches.map change)
    (cohortId : ∀ batch, (change batch).cohortId = batch.cohortId)
    (promised :
      ∀ batch ∈ run.batches, (change batch).promised ≤ batch.promised) :
    after.Fits where
  fits := by
    intro target seats found
    rw [admittedAt] at found
    exact
      Nat.le_trans (promisedFor_map_le changed cohortId promised target)
        (fits.fits target seats found)
  free := by
    rw [admittedAt]
    exact fits.free
  asked := by
    intro batch member
    rw [changed] at member
    obtain ⟨before, memberBefore, rfl⟩ := List.mem_map.mp member
    rw [cohortId, admittedAt]
    exact fits.asked before memberBefore

/-- An opened batch promises its own cohort what it wants. -/
theorem promisedFor_opened
    {after : PeerRun} {number wanted : Nat} {cohortId target : CohortId}
    (opened :
      after.batches = .opened number cohortId wanted :: run.batches) :
    after.promisedFor target =
      (if cohortId = target then wanted else 0) + run.promisedFor target := by
  unfold promisedFor
  rw [opened, List.map_cons, List.sum_cons]
  simp [PeerBatch.opened]

/-- An admitted request promises its cohort what it sets out to start, and no
other cohort anything. -/
theorem Fits.addTestPeers
    (fits : run.Fits) {cohortId : CohortId} {requested : Option JsNumber}
    (leaves : LeavesRoom run (.addTestPeers cohortId requested)) :
    (run.addTestPeers cohortId requested).Fits := by
  unfold PeerRun.addTestPeers
  split
  · exact fits
  · next seats admitted =>
      have room := leaves seats admitted
      have free : 0 < seats.remaining := by
        have passed := (Option.filter_eq_some_iff.mp admitted).2
        exact (of_decide_eq_true passed).1
      have promised (target : CohortId) :
          PeerRun.promisedFor
              { run with
                admittedAt := run.admittedAt.insert cohortId seats
                batches :=
                  if run.wanted seats requested = 0 then run.batches
                  else
                    .opened run.batches.length cohortId
                        (run.wanted seats requested) ::
                      run.batches }
              target =
            (if cohortId = target then run.wanted seats requested else 0) +
              run.promisedFor target := by
        by_cases none : run.wanted seats requested = 0
        · simp [none, promisedFor]
        · exact promisedFor_opened (if_neg none)
      refine ⟨?_, ?_, ?_⟩
      · intro target found isFound
        dsimp only at isFound ⊢
        rw [promised target]
        by_cases same : target = cohortId
        · subst same
          rw [AList.lookup_insert] at isFound
          cases isFound
          rw [if_pos rfl]
          omega
        · rw [AList.lookup_insert_ne same] at isFound
          rw [if_neg (Ne.symm same), Nat.zero_add]
          exact fits.fits target found isFound
      · intro target found isFound
        by_cases same : target = cohortId
        · subst same
          rw [AList.lookup_insert] at isFound
          cases isFound
          exact free
        · rw [AList.lookup_insert_ne same] at isFound
          exact fits.free target found isFound
      · intro batch member
        dsimp only at member
        rw [AList.mem_insert]
        split at member
        · exact Or.inr (fits.asked batch member)
        · rcases List.mem_cons.mp member with rfl | before
          · exact Or.inl rfl
          · exact Or.inr (fits.asked batch before)

/-- The law of a state whose promises fit. -/
theorem Fits.peersFit (fits : run.Fits) : PeersFit run where
  fits := by
    intro cohortId seats found
    exact
      Nat.le_trans (runningFor_le_promisedFor cohortId)
        (fits.fits cohortId seats found)
  within := by
    intro cohortId seats found
    have free := fits.free cohortId seats found
    have fit := fits.fits cohortId seats found
    have runs := run.runningFor_le_promisedFor cohortId
    unfold CohortSeats.forPeers at fit
    unfold CohortSeats.remaining at free fit
    omega
  asked := by
    intro cohortId none
    refine List.sum_eq_zero ?_
    intro count member
    obtain ⟨batch, memberBatch, rfl⟩ := List.mem_map.mp member
    split
    · next same =>
        subst same
        exact absurd (fits.asked batch memberBatch) none
    · rfl

theorem fits_booted : booted.Fits where
  fits := by
    intro cohortId seats found
    cases found
  free := by
    intro cohortId seats found
    cases found
  asked := by
    intro batch member
    cases member

theorem Fits.step
    (fits : run.Fits) (numbered : run.Numbered)
    (offered : run.Offered event) (leaves : LeavesRoom run event) :
    (run.step options event).Fits := by
  cases event with
  | side event =>
      refine fits.map ?_ (batches_teardown options event) ?_ ?_
      · unfold PeerRun.step teardown
        dsimp only
        split
        · rfl
        · split <;> rfl
      · exact fun batch => PeerBatch.cohortId_tornDown
      · exact fun batch _ => PeerBatch.promised_tornDown_le
  | listen => exact ⟨fits.fits, fits.free, fits.asked⟩
  | session seats => exact ⟨fits.fits, fits.free, fits.asked⟩
  | addTestPeers cohortId requested => exact fits.addTestPeers leaves
  | startResolves number ok =>
      obtain ⟨awaiting, awaitingMember, named, phase⟩ := offered
      refine fits.map rfl rfl ?_ ?_
      · intro batch
        split
        · exact PeerBatch.cohortId_startResolves
        · rfl
      · intro batch member
        split
        · next sameNumber =>
            have same : batch = awaiting :=
              numbered.unique member awaitingMember
                (sameNumber.trans named.symm)
            subst same
            exact
              PeerBatch.promised_startResolves_le
                (numbered.awaits batch member phase)
        · exact Nat.le_refl _
  | spawnReturns number =>
      refine fits.map rfl rfl ?_ ?_
      · intro batch
        split <;> rfl
      · intro batch _
        split <;> exact Nat.le_refl _

end PeerRun

end Invariant

section Runs

/-! ## The law over whole runs -/

/-- **Seats of the test peers.** Along every run whose requests leave room, the
peers that run for a cohort fit in the seats no stranger held when its last
request was admitted. -/
theorem peersFit_of_leavesRoom
    (options : ServiceOptions) (events : List PeerEvent)
    (admissible :
      ((peerMachine options).restrict LeavesRoom).Admits events) :
    PeersFit ((peerMachine options).run events) := by
  have always :
      ((peerMachine options).restrict LeavesRoom).Always
        fun run => run.Numbered ∧ run.Fits := by
    apply Machine.Always.of_inductive
    · exact ⟨PeerRun.numbered_booted, PeerRun.fits_booted⟩
    · rintro run event ⟨numbered, fits⟩ ⟨offered, leaves⟩
      exact ⟨numbered.step offered, fits.step numbered offered leaves⟩
  exact (always events admissible).2.peersFit

/-- Two peers take seats beside a stranger, and a second request fills the last
seat. -/
def filledInTurn : List PeerEvent :=
  [.listen, .side (.cohortAdvertised 0 none),
    .session
      (InsertionMap.set ∅ 0 { capacity := 4, strangers := 1, testPeers := 0 }),
    .addTestPeers 0 (some 2), .startResolves 0 true, .startResolves 0 true,
    .spawnReturns 0,
    .session
      (InsertionMap.set ∅ 0 { capacity := 4, strangers := 1, testPeers := 2 }),
    .addTestPeers 0 none, .startResolves 1 true, .spawnReturns 1]

theorem peersFit_of_leavesRoom_inTurn :
    PeersFit ((peerMachine waitingOptions).run filledInTurn) :=
  peersFit_of_leavesRoom waitingOptions filledInTurn (by decide +kernel)

/-- The seat law as a promise about every run. -/
def SeatPromise : Prop :=
  ∀ options events,
    (peerMachine options).Admits events →
      PeersFit ((peerMachine options).run events)

/-- The operator clicks twice: the second request is admitted before a peer of
the first has a seat. -/
def askedTwice : List PeerEvent :=
  [.listen, .side (.cohortAdvertised 0 none), .session threeOpenSeats,
    .addTestPeers 0 none, .addTestPeers 0 none, .startResolves 0 true,
    .startResolves 1 true, .startResolves 0 true, .startResolves 1 true]

theorem not_seatPromise : ¬ SeatPromise := by
  intro promise
  have law := promise waitingOptions askedTwice (by decide +kernel)
  have fits :=
    law.fits 0 { capacity := 3, strangers := 0, testPeers := 0 }
      (by decide +kernel)
  exact absurd fits (by decide +kernel)

end Runs

end Btcr2Aggregation
