import Btcr2Aggregation.Service.AnchorReads
import Btcr2Aggregation.Service.CohortDetail
import Btcr2Aggregation.Service.OperatorRoutes
import Btcr2Aggregation.Web.ConsoleRows

/-!
# The lifecycle controls

The console decides from a detail read which controls it offers, and the service
decides from its own tables which requests it accepts.  The two are written
apart, over different data.  In every state of a run a control that is offered on
a fresh read is one the service accepts, and a cohort on display always has its
Cancel.
-/

namespace Btcr2Aggregation

open Monitor

section Controls

/-! ## The predicates of the console -/

inductive CancelAvailability where
  | unavailable
  | available
  | broadcast
  deriving DecidableEq, Repr

def AnchorReadDTO.isOut (anchor : AnchorReadDTO) : Bool :=
  anchor.txid.isSome || anchor.state = .broadcast || anchor.state = .confirmed

/-- The broadcast check comes before the phase: a cohort whose transaction is out
may have left every live phase. -/
def cancelAvailability (detail : Option (CohortDetail AnchorReadDTO)) :
    CancelAvailability :=
  match detail with
  | none => .unavailable
  | some detail =>
      if ¬ detail.present then
        .unavailable
      else if detail.anchor.isOut then
        .broadcast
      else if
          detail.phase.any fun phase =>
            phase ∈ openPhases ∨ phase ∈ inFlightPhases then
        .available
      else
        .unavailable

inductive FinalizeAvailability where
  | unavailable
  | notSigning
  | available
  | committed
  deriving DecidableEq, Repr

/-- A cohort that fell back has left the phases a round can be finalized in, so
that check comes first. -/
def finalizeAvailability (detail : Option (CohortDetail AnchorReadDTO)) :
    FinalizeAvailability :=
  match detail with
  | none => .unavailable
  | some detail =>
      if ¬ detail.present then
        .unavailable
      else if detail.fallback.used then
        .committed
      else if detail.phase.any fun phase => phase ∈ finalizablePhases then
        .available
      else
        .notSigning

def closedAtNthSeat (detail : Option (CohortDetail AnchorReadDTO)) : Bool :=
  match detail with
  | none => false
  | some detail =>
      detail.present && 0 < detail.capacity && detail.capacity ≤ detail.seatsJoined

def seatReclaimNoteVisible (detail : Option (CohortDetail AnchorReadDTO)) : Bool :=
  match detail with
  | none => false
  | some cohort =>
      cohort.present && cohort.phase.any (fun phase => phase ∈ openPhases) &&
        !closedAtNthSeat detail

end Controls

section Law

/-! ## What is offered is accepted -/

namespace DismissalRun

/-- The broadcaster's frames of a run, which the anchor table hears too. -/
def framesOf (events : List DismissalEvent) : List AnchorFrame :=
  events.filterMap fun event =>
    match event with
    | .monitor (.frame frame) => some frame
    | _ => none

/-- The anchor read of a service, with a broadcaster or without. -/
def anchorView
    (explorerTxUrl : Option (String → Except String String)) (broadcasting : Bool)
    (events : List DismissalEvent) (cohortId : CohortId) : AnchorReadDTO :=
  readAnchor (if broadcasting then some (framesOf events) else none)
    explorerTxUrl cohortId

variable {options : OperatorOptions} {settings : RuntimeSettings}
  {mode : ServiceMode}

/-- The broadcaster reports on completed cohorts only. -/
theorem completed_of_frame
    (events : List DismissalEvent)
    (admissible : (dismissalMachine options settings mode).Admits events)
    {frame : AnchorFrame} (heard : frame ∈ framesOf events) :
    ((dismissalMachine options settings mode).run events).Completed
      frame.cohortId := by
  induction events using List.reverseRecOn with
  | nil => cases heard
  | append_singleton events event inductionHypothesis =>
      obtain ⟨before, possible⟩ :=
        (Machine.admits_concat_iff _ _ _).mp admissible
      rw [Machine.run_concat]
      refine completed_step event ?_
      rw [framesOf, List.filterMap_append, List.mem_append] at heard
      rcases heard with earlier | last
      · exact inductionHypothesis before earlier
      · obtain ⟨only, member, told⟩ := List.mem_filterMap.mp last
        rw [List.mem_singleton] at member
        subst member
        split at told
        · cases told
          have allowed := possible.2
          cases frame with
          | broadcast cohortId txid => exact allowed
          | failed cohortId reason => exact allowed
          | anchored cohortId txid confirmed => exact allowed
        · cases told

/-- What is anchored is not live. -/
theorem notMem_session_of_isOut
    (explorerTxUrl : Option (String → Except String String)) (broadcasting : Bool)
    (events : List DismissalEvent) (id : CohortId)
    (admissible : (dismissalMachine options settings mode).Admits events)
    (out : (anchorView explorerTxUrl broadcasting events id).isOut = true) :
    id ∉ ((dismissalMachine options settings mode).run events).session := by
  have consistent := always_consistent options settings mode events admissible
  unfold anchorView readAnchor at out
  cases broadcasting with
  | false => cases out
  | true =>
      simp only [if_true] at out
      cases found : (anchorState (framesOf events)).lookup id with
      | none =>
          rw [found] at out
          cases out
      | some entry =>
          obtain ⟨frame, ⟨first, second, split, about, -, -⟩, -⟩ :=
            lookup_anchorState_iff.mp found
          have heard : frame ∈ framesOf events := by
            rw [split]
            exact List.mem_append_right _ List.mem_cons_self
          have completed := completed_of_frame events admissible heard
          rw [about] at completed
          exact consistent.session_of_ended (List.mem_map_of_mem completed)

end DismissalRun

/-- The controls a fresh read offers, beside what the service answers to them. -/
structure ControlsHonest
    (run : DismissalRun) (detail : CohortId → CohortDetail AnchorReadDTO) :
    Prop where
  cancelOffered :
    ∀ id,
      cancelAvailability (some (detail id)) = .available ↔ OnDisplay run.session id
  cancelAccepted :
    ∀ id,
      cancelAvailability (some (detail id)) = .available →
        (cancelCohort .sound run.operator.state id).1 = .ok
  broadcastSettled :
    ∀ id, cancelAvailability (some (detail id)) = .broadcast → id ∉ run.session
  finalizeOffered :
    ∀ id,
      finalizeAvailability (some (detail id)) = .available ↔
        (detail id).fallback.used = false ∧
          finalizeCohort .sound (.ok ()) run.operator.state id = .ok
  noteActionable :
    ∀ id,
      seatReclaimNoteVisible (some (detail id)) = true →
        cancelAvailability (some (detail id)) = .available

section Reads

variable {monitor : Monitor} {session : CohortSession} {testPeerDids : List String}
  {anchors : CohortId → AnchorReadDTO} {scriptPath : CohortId → Bool}
  {id : CohortId}

theorem anchor_buildDetail :
    (monitor.buildDetail session testPeerDids anchors scriptPath id).anchor =
      anchors id := by
  unfold buildDetail
  split
  · rfl
  · rfl

theorem phase_buildDetail :
    (monitor.buildDetail session testPeerDids anchors scriptPath id).phase =
      (session.lookup id).map LiveCohort.phase := by
  unfold buildDetail
  split
  · next absent =>
      rw [Option.isNone_iff_eq_none.mp absent.2]
      rfl
  · rfl

/-- A cohort with a phase is there. -/
theorem present_of_phase
    {phase : CohortPhase}
    (shown :
      (monitor.buildDetail session testPeerDids anchors scriptPath id).phase =
        some phase) :
    (monitor.buildDetail session testPeerDids anchors scriptPath id).present =
      true := by
  rw [phase_buildDetail] at shown
  unfold buildDetail
  split
  · next absent =>
      rw [Option.isNone_iff_eq_none.mp absent.2] at shown
      cases shown
  · rfl

end Reads

section Availability

variable {detail : CohortDetail AnchorReadDTO}

theorem cancelAvailable_iff
    (present : ∀ phase, detail.phase = some phase → detail.present = true) :
    cancelAvailability (some detail) = .available ↔
      detail.anchor.isOut = false ∧ ∃ phase ∈ displayPhases, detail.phase = some phase := by
  have displayed (phase : CohortPhase) :
      (phase ∈ openPhases ∨ phase ∈ inFlightPhases) ↔ phase ∈ displayPhases :=
    List.mem_append.symm
  unfold cancelAvailability
  simp only [displayed]
  cases shown : detail.phase with
  | none =>
      simp only [Option.any_none]
      split
      · simp
      · split <;> simp
  | some phase =>
      rw [present phase shown]
      cases detail.anchor.isOut with
      | true => simp
      | false => simp

theorem finalizeAvailable_iff
    (present : ∀ phase, detail.phase = some phase → detail.present = true) :
    finalizeAvailability (some detail) = .available ↔
      detail.fallback.used = false ∧
        ∃ phase ∈ finalizablePhases, detail.phase = some phase := by
  unfold finalizeAvailability
  dsimp only
  cases shown : detail.phase with
  | none =>
      simp only [Option.any_none]
      split
      · simp
      · split <;> simp
  | some phase =>
      rw [present phase shown]
      cases detail.fallback.used with
      | true => simp
      | false => simp

theorem isOut_of_cancelBroadcast
    (shown : cancelAvailability (some detail) = .broadcast) :
    detail.anchor.isOut = true := by
  unfold cancelAvailability at shown
  dsimp only at shown
  split at shown
  · cases shown
  · split at shown
    · assumption
    · split at shown <;> cases shown

end Availability

namespace DismissalRun

/-- In every run of the service, on a read of the state reached: Cancel is offered
for exactly the cohorts on display and is accepted, Finalize is offered exactly
where it is accepted and nothing has fallen back, and what is out is not live. -/
theorem controlsHonest_of_admits
    (options : OperatorOptions) (settings : RuntimeSettings) (mode : ServiceMode)
    (events : List DismissalEvent)
    (admissible : (dismissalMachine options settings mode).Admits events)
    (session : CohortSession)
    (reads :
      sessionSeats session =
        ((dismissalMachine options settings mode).run events).session)
    (explorerTxUrl : Option (String → Except String String)) (broadcasting : Bool)
    (testPeerDids : List String) (scriptPath : CohortId → Bool) :
    ControlsHonest ((dismissalMachine options settings mode).run events)
      (((dismissalMachine options settings mode).run events).monitor.buildDetail
        session testPeerDids (anchorView explorerTxUrl broadcasting events)
        scriptPath) := by
  have consistent := always_consistent options settings mode events admissible
  have attributed := consistent.attributed
  have settled (id : CohortId) :=
    notMem_session_of_isOut explorerTxUrl broadcasting events id admissible
  generalize (dismissalMachine options settings mode).run events = run at *
  -- A read shows the runner's phase.
  have phases (id : CohortId) :
      (session.lookup id).map LiveCohort.phase =
        run.operator.state.runner.getCohortPhase id := by
    rw [← phase_session, ← DismissalRun.session, ← reads, lookup_sessionSeats,
      Option.map_map]
    rfl
  have offered (id : CohortId) :
      cancelAvailability
          (some
            (run.monitor.buildDetail session testPeerDids
              (anchorView explorerTxUrl broadcasting events) scriptPath id)) =
          .available ↔
        OnDisplay run.session id := by
    rw [cancelAvailable_iff (fun _ => present_of_phase), anchor_buildDetail,
      phase_buildDetail, phases, DismissalRun.session, onDisplay_iff]
    refine and_iff_right_of_imp ?_
    rintro ⟨phase, -, shown⟩
    rw [Bool.eq_false_iff]
    intro out
    refine settled id out (OperatorState.mem_session.mpr ?_)
    obtain ⟨cohort, found, -⟩ := Option.map_eq_some_iff.mp shown
    exact InsertionMap.mem_of_lookup found
  have advertised {id : CohortId} {phase : CohortPhase}
      (shown : run.operator.state.runner.getCohortPhase id = some phase) :
      id ∈ run.operator.state.advertised := by
    obtain ⟨cohort, found, -⟩ := Option.map_eq_some_iff.mp shown
    exact (attributed.advertised id).mpr (Or.inl (InsertionMap.mem_of_lookup found))
  refine ⟨offered, ?_, ?_, ?_, ?_⟩
  · intro id available
    obtain ⟨phase, -, shown⟩ := onDisplay_iff.mp ((offered id).mp available)
    exact cancelCohort_ok_iff.mpr (advertised shown)
  · intro id broadcast
    have out := isOut_of_cancelBroadcast broadcast
    rw [anchor_buildDetail] at out
    exact settled id out
  · intro id
    rw [finalizeAvailable_iff (fun _ => present_of_phase), phase_buildDetail,
      phases, finalizeCohort_ok_iff]
    refine and_congr_right fun _ => ?_
    constructor
    · rintro ⟨phase, signing, shown⟩
      exact ⟨advertised shown, rfl, ⟨phase, signing, shown⟩, rfl⟩
    · exact fun accepted => accepted.2.2.1
  · intro id visible
    unfold seatReclaimNoteVisible at visible
    simp only [Bool.and_eq_true] at visible
    obtain ⟨⟨-, opened⟩, -⟩ := visible
    rw [phase_buildDetail, phases] at opened
    rw [offered, DismissalRun.session, onDisplay_iff]
    cases shown : run.operator.state.runner.getCohortPhase id with
    | none =>
        rw [shown] at opened
        cases opened
    | some phase =>
        rw [shown] at opened
        have inOpen : phase ∈ openPhases := by simpa using opened
        exact ⟨phase, mem_displayPhases_of_open inOpen, rfl⟩

/-- One cohort is advertised and half full. -/
def oneSeated : List DismissalEvent :=
  [ .operator (.createDraft 0 (plainInput none)),
    .operator (.advertiseDraft 0 (some 1)),
    .operator (.seat 1) ]

def oneSeatedSession : CohortSession :=
  AList.insert 1
    { phase := .advertised
      minParticipants := 2
      participants := ["did:btcr2:k1one"]
      pendingUpdates := ∅
      effectiveFallbackThreshold := 2 }
    ∅

theorem controlsHonest_of_admits_oneSeated :
    ControlsHonest
      ((dismissalMachine plainOptions .unseeded .live).run oneSeated)
      (((dismissalMachine plainOptions .unseeded .live).run
          oneSeated).monitor.buildDetail oneSeatedSession []
        (anchorView none true oneSeated) (fun _ => false)) :=
  controlsHonest_of_admits plainOptions .unseeded .live oneSeated
    (by decide +kernel) oneSeatedSession (AList.ext (by decide +kernel)) none true
    [] (fun _ => false)

end DismissalRun

end Law

end Btcr2Aggregation
