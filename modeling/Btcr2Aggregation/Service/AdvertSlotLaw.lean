import Btcr2Aggregation.Service.AdvertSlot

/-!
# The law of the advert slot

The runs are those of the operator surface in which phase reads and publishes do
not throw and a cohort is `Advertised` until it fills and never again.  In all of
them an owner's settle hands the slot on and a repair takes it from no live
cohort; where no re-published advert outlives its cohort's fill and no repair
picks a filled cohort, the slot is for an `Advertised` cohort.
-/

namespace Btcr2Aggregation

section Session

/-! ## Live and settled cohorts -/

/-- The ids of the session and of the settlements were minted, and no cohort is
in both. -/
structure Minted (created : List CohortId) (runner : Runner) : Prop where
  live : ∀ id ∈ runner.cohorts, id ∈ created
  waiting : ∀ id ∈ runner.pendingIds, id ∈ created
  apart : ∀ id ∈ runner.pendingIds, id ∉ runner.cohorts

namespace Minted

variable {created : List CohortId} {runner : Runner}

theorem booted : Minted [] Runner.booted := by
  constructor <;> simp [Runner.booted, Runner.pendingIds]

theorem frame
    (minted : Minted created runner) {after : Runner}
    {createdAfter : List CohortId}
    (createdMore : ∀ id ∈ created, id ∈ createdAfter)
    (cohorts : ∀ id, id ∈ after.cohorts → id ∈ runner.cohorts)
    (pending : ∀ id, id ∈ after.pendingIds → id ∈ runner.pendingIds) :
    Minted createdAfter after where
  live id held := createdMore id (minted.live id (cohorts id held))
  waiting id queued := createdMore id (minted.waiting id (pending id queued))
  apart id queued held := minted.apart id (pending id queued) (cohorts id held)

theorem advertiseCohort
    (minted : Minted created runner) {cohortId : CohortId}
    (fresh : cohortId ∉ created) :
    Minted (cohortId :: created) (runner.advertiseCohort cohortId) where
  live id held := by
    rcases Runner.mem_cohorts_advertiseCohort.mp held with rfl | wasLive
    · exact List.mem_cons_self
    · exact List.mem_cons_of_mem _ (minted.live id wasLive)
  waiting id queued := List.mem_cons_of_mem _ (minted.waiting id queued)
  apart id queued held := by
    rcases Runner.mem_cohorts_advertiseCohort.mp held with rfl | wasLive
    · exact fresh (minted.waiting _ queued)
    · exact minted.apart id queued wasLive

theorem settle
    (minted : Minted created runner) (cohortId : CohortId)
    (outcome : Except String Unit) :
    Minted created (runner.settle cohortId outcome) where
  live id held := minted.live id (Runner.mem_cohorts_settle.mp held).2
  waiting id queued := by
    rcases Runner.mem_pendingIds_settle.mp queued with waited | ⟨-, held⟩
    · exact minted.waiting id waited
    · exact minted.live id held
  apart id queued held := by
    obtain ⟨different, wasLive⟩ := Runner.mem_cohorts_settle.mp held
    rcases Runner.mem_pendingIds_settle.mp queued with waited | ⟨same, -⟩
    · exact minted.apart id waited wasLive
    · exact different same

theorem foldl_settle (reason : String) (cohortIds : List CohortId) :
    ∀ runner : Runner,
      Minted created runner →
        Minted created
          (cohortIds.foldl
            (fun runner cohortId => runner.settle cohortId (.error reason))
            runner) := by
  induction cohortIds with
  | nil =>
      intro runner minted
      exact minted
  | cons cohortId cohortIds inductionHypothesis =>
      intro runner minted
      exact inductionHypothesis _ (minted.settle cohortId (.error reason))

end Minted

end Session

section Handling

/-! ## The events that handle a settle -/

/-- The cohort whose settle an event handles. -/
def settledBy? (run : OperatorRun) : OperatorEvent → Option CohortId
  | .microtask _ => run.state.runner.pending.head?.map Settlement.cohortId
  | .cancelCohort cohortId health =>
      if cohortId ∈ run.state.advertised ∧ health.stops then
        some cohortId
      else
        none
  | _ => none

/-- The newest advertised cohort, but for the settled one, in an open phase. -/
def nextOpen? (state : OperatorState) (settled : CohortId) : Option CohortId :=
  state.advertised.keys.find? fun cohortId =>
    cohortId ≠ settled ∧
      (state.runner.getCohortPhase cohortId).any (· ∈ openPhases)

/-- What the library is relied on for: reads and publishes do not throw, and a
cohort is advertised until it fills and never again. -/
def followsLibrary (run : OperatorRun) (event : OperatorEvent) : Prop :=
  event.health.phaseReads = true ∧ event.health.publishes = true ∧
    ∀ advanced ∈ event.advanced?,
      run.state.runner.getCohortPhase advanced.1 ≠ some .advertised ∧
        advanced.2 ≠ .advertised

/-- No cohort fills under a re-published advert, and no repair picks a cohort
that is past the `Advertised` phase. -/
def sparesFilled (run : OperatorRun) (event : OperatorEvent) : Prop :=
  (∀ id ∈ event.filled?,
    ∀ advert ∈ run.state.runner.slot,
      advert.cohortId = id →
        run.state.stopCurrent ≠ some advert.advertId) ∧
    ∀ id ∈ settledBy? run event,
      run.state.advertSlotOwner = some id →
        ∀ newest ∈ nextOpen? run.state id,
          run.state.runner.getCohortPhase newest = some .advertised

/-- The runs of the slot. -/
def slotMachine (options : OperatorOptions) (settings : RuntimeSettings) :
    Machine OperatorRun OperatorEvent :=
  (operatorMachine options settings).restrict followsLibrary

/-- The runs in which no filled cohort keeps or gets the slot. -/
def sparingMachine (options : OperatorOptions) (settings : RuntimeSettings) :
    Machine OperatorRun OperatorEvent :=
  (slotMachine options settings).restrict sparesFilled

instance (run : OperatorRun) (event : OperatorEvent) :
    Decidable (followsLibrary run event) :=
  inferInstanceAs (Decidable (_ ∧ _ ∧ _))

instance (run : OperatorRun) (event : OperatorEvent) :
    Decidable (sparesFilled run event) :=
  inferInstanceAs (Decidable (_ ∧ _))

instance
    (options : OperatorOptions) (settings : RuntimeSettings)
    (run : OperatorRun) (event : OperatorEvent) :
    Decidable ((slotMachine options settings).admits run event) :=
  inferInstanceAs (Decidable (offered run event ∧ followsLibrary run event))

instance
    (options : OperatorOptions) (settings : RuntimeSettings)
    (run : OperatorRun) (event : OperatorEvent) :
    Decidable ((sparingMachine options settings).admits run event) :=
  inferInstanceAs
    (Decidable
      ((offered run event ∧ followsLibrary run event) ∧ sparesFilled run event))

end Handling

section Preparation

/-! ## The state a repair starts from -/

/-- What every state of a run says about its slot. -/
structure SlotInvariant (run : OperatorRun) : Prop where
  slotted : run.state.Slotted
  minted : Minted run.created run.state.runner

/-- The state in which the repair of a settle starts. -/
structure Prepared
    (run : OperatorRun) (id : CohortId) (prepared : OperatorState) : Prop where
  owner : prepared.advertSlotOwner = run.state.advertSlotOwner
  stopCurrent : prepared.stopCurrent = run.state.stopCurrent
  ended : id ∉ prepared.runner.cohorts
  cohorts :
    ∀ other,
      other ∈ prepared.runner.cohorts ↔
        other ≠ id ∧ other ∈ run.state.runner.cohorts
  pending :
    ∀ other,
      other ≠ id → other ∈ run.state.runner.pendingIds →
        other ∈ prepared.runner.pendingIds
  phases :
    ∀ other,
      other ≠ id →
        prepared.runner.getCohortPhase other =
          run.state.runner.getCohortPhase other
  newest : prepared.newestOpen? = nextOpen? run.state id
  mirrored :
    Mirrored run.state.advertSlotOwner run.state.stopCurrent prepared.runner
  minted : Minted run.created prepared.runner
  slot :
    ∀ advert,
      advert ∈ prepared.runner.slot → advert ∈ run.state.runner.slot
  slotKept :
    run.state.advertSlotOwner ≠ some id →
      prepared.runner.slot = run.state.runner.slot

theorem find?_erase
    {Item : Type} [DecidableEq Item] {items : List Item} (once : items.Nodup)
    (erased : Item) (wanted : Item → Bool) :
    (items.erase erased).find? wanted =
      items.find? fun item => item ≠ erased ∧ wanted item := by
  rw [once.erase_eq_filter, List.find?_filter]
  congr 1
  funext item
  simp [bne_iff_ne]

theorem prepared_microtask
    {run : OperatorRun} (invariant : SlotInvariant run)
    {settlement : Settlement} {rest : List Settlement}
    (pending : run.state.runner.pending = settlement :: rest)
    (health : LibraryHealth) :
    ∃ prepared,
      Prepared run settlement.cohortId prepared ∧
        (run.settled health settlement).state =
          prepared.repairAdvertSlot health settlement.cohortId := by
  have waiting : settlement.cohortId ∈ run.state.runner.pendingIds := by
    rw [Runner.pendingIds, pending]
    exact List.mem_cons_self
  have ended := invariant.minted.apart _ waiting
  have fromPopped
      (prepared : OperatorState)
      (owner : prepared.advertSlotOwner = run.state.advertSlotOwner)
      (stopCurrent : prepared.stopCurrent = run.state.stopCurrent)
      (advertised :
        prepared.advertised = run.state.advertised.erase settlement.cohortId)
      (runner :
        prepared.runner = { run.state.runner with pending := rest }) :
      Prepared run settlement.cohortId prepared := by
    have keys :
        prepared.advertised.keys =
          run.state.advertised.keys.erase settlement.cohortId := by
      rw [advertised, AList.keys_erase]
    have mirrored := invariant.slotted.mirrored
    refine ⟨owner, stopCurrent, ?_, ?_, ?_, ?_, ?_, ?_, ?_, ?_, ?_⟩
    · rw [runner]
      exact ended
    · intro other
      rw [runner]
      constructor
      · intro live
        exact ⟨ne_of_mem_of_not_mem live ended, live⟩
      · exact And.right
    · intro other different queued
      rw [Runner.pendingIds, pending, List.map_cons, List.mem_cons] at queued
      rw [Runner.pendingIds, runner]
      exact queued.resolve_left different
    · intro other _
      rw [runner]
      rfl
    · rw [OperatorState.newestOpen?, keys, find?_erase (AList.keys_nodup _),
        nextOpen?, runner]
      rfl
    · rw [runner]
      exact
        ⟨mirrored.owned, mirrored.known, mirrored.ownSlot, mirrored.ownOld⟩
    · rw [runner]
      refine invariant.minted.frame (fun _ => id) (fun _ => id) ?_
      intro other queued
      rw [Runner.pendingIds, pending]
      exact List.mem_cons_of_mem _ queued
    · intro advert held
      rw [runner] at held
      exact held
    · intro _
      rw [runner]
  obtain ⟨cohortId, outcome⟩ := settlement
  have popped :
      run.popped.runner = { run.state.runner with pending := rest } := by
    simp [OperatorRun.popped, pending]
  cases outcome with
  | ok done =>
      exact
        ⟨run.popped.forgetLive cohortId, fromPopped _ rfl rfl rfl popped, rfl⟩
  | error message =>
      refine ⟨run.popped.fileRejection cohortId message, ?_, rfl⟩
      unfold OperatorState.fileRejection
      split
      · exact fromPopped _ rfl rfl rfl popped
      · exact fromPopped _ rfl rfl rfl popped

theorem prepared_cancelCohort
    {options : OperatorOptions} {run : OperatorRun}
    (invariant : SlotInvariant run) {cohortId : CohortId}
    {health : LibraryHealth} (advertised : cohortId ∈ run.state.advertised)
    (stops : health.stops = true) :
    ∃ prepared,
      Prepared run cohortId prepared ∧
        (run.step options (.cancelCohort cohortId health)).state =
          prepared.repairAdvertSlot health cohortId := by
  have mirrored := invariant.slotted.mirrored
  have phases (other : CohortId) (different : other ≠ cohortId) :
      (run.state.runner.stopCohort cohortId).getCohortPhase other =
        run.state.runner.getCohortPhase other :=
    OperatorState.getCohortPhase_settle_of_ne different
  have gone : cohortId ∉ (run.state.runner.stopCohort cohortId).cohorts := by
    simp [Runner.stopCohort]
  refine
    ⟨{ (run.state.declareIntent cohortId .canceled).clearWindowTimer cohortId with
        runner := run.state.runner.stopCohort cohortId },
      ⟨rfl, rfl, gone, ?_, ?_, phases, ?_, ?_, ?_, ?_, ?_⟩, ?_⟩
  · intro other
    exact Runner.mem_cohorts_settle
  · intro other _ queued
    exact Runner.mem_pendingIds_settle.mpr (Or.inl queued)
  · rw [OperatorState.newestOpen?, nextOpen?]
    congr 1
    funext other
    by_cases same : other = cohortId
    · subst same
      have none :
          (run.state.runner.stopCohort other).getCohortPhase other = none := by
        rw [Runner.getCohortPhase, AList.lookup_eq_none.mpr gone]
        rfl
      simp [none]
    · simp [phases other same, same]
  · exact mirrored.settle cohortId _
  · exact invariant.minted.settle cohortId _
  · intro advert held
    exact (Runner.mem_slot_settle.mp held).1
  · intro notOwner
    refine Option.ext fun advert => ?_
    refine Runner.mem_slot_settle.trans ⟨And.left, fun held => ⟨held, ?_⟩⟩
    intro own
    refine notOwner ?_
    rw [mirrored.owned advert held,
      mirrored.ownSlot cohortId advert.advertId own.symm advert held rfl]
  · simp only [OperatorRun.step, cancelCohort, if_pos advertised, if_pos stops]
    rfl

/-- Every event that handles a settle repairs the slot from a prepared state. -/
theorem exists_prepared
    {options : OperatorOptions} {run : OperatorRun}
    (invariant : SlotInvariant run) {event : OperatorEvent} {id : CohortId}
    (handles : settledBy? run event = some id) :
    ∃ prepared,
      Prepared run id prepared ∧
        (run.step options event).state =
          prepared.repairAdvertSlot event.health id := by
  cases event with
  | microtask health =>
      cases pending : run.state.runner.pending with
      | nil => simp [settledBy?, pending] at handles
      | cons settlement rest =>
          simp only [settledBy?, pending, List.head?_cons, Option.map_some,
            Option.some.injEq] at handles
          subst handles
          obtain ⟨prepared, facts, equality⟩ :=
            prepared_microtask invariant pending health
          refine ⟨prepared, facts, ?_⟩
          rw [OperatorEvent.health, ← equality]
          simp only [OperatorRun.step, pending]
  | cancelCohort cohortId health =>
      rw [settledBy?] at handles
      split at handles
      · next both =>
          cases handles
          exact prepared_cancelCohort invariant both.1 both.2
      · cases handles
  | _ => cases handles

end Preparation

section Effects

/-! ## What an event can do to the slot -/

/-- What the library does to its session without the app. -/
inductive RunnerMove (event : OperatorEvent) (runner : Runner) : Runner → Prop
  | settle (cohortId : CohortId) (outcome : Except String Unit) :
      RunnerMove event runner (runner.settle cohortId outcome)
  | stop (reason : String) : RunnerMove event runner (runner.stop reason)
  | seat (cohortId : CohortId) : RunnerMove event runner (runner.seat cohortId)
  | fill (cohortId : CohortId) (fills : event.filled? = some cohortId) :
      RunnerMove event runner (runner.fill cohortId)
  | advance (cohortId : CohortId) (phase : CohortPhase)
      (advances : event.advanced? = some (cohortId, phase)) :
      RunnerMove event runner (runner.advance cohortId phase)

inductive SlotEffect
    (options : OperatorOptions) (run : OperatorRun) (event : OperatorEvent)
    (after : OperatorRun) : Prop
  | quiet
      (runner : after.state.runner = run.state.runner)
      (owner : after.state.advertSlotOwner = run.state.advertSlotOwner)
      (stopCurrent : after.state.stopCurrent = run.state.stopCurrent)
      (created : ∀ id ∈ run.created, id ∈ after.created)
  | launched
      (state : OperatorState) (cohortId : CohortId) (config : CohortConfig)
      (windows : DraftWindows) (fresh : cohortId ∉ run.created)
      (runner : state.runner = run.state.runner)
      (owner : state.advertSlotOwner = run.state.advertSlotOwner)
      (stopCurrent : state.stopCurrent = run.state.stopCurrent)
      (launches : after.state = launch options state cohortId config windows)
      (created : after.created = cohortId :: run.created)
  | moved
      (move : RunnerMove event run.state.runner after.state.runner)
      (owner : after.state.advertSlotOwner = run.state.advertSlotOwner)
      (stopCurrent : after.state.stopCurrent = run.state.stopCurrent)
      (created : after.created = run.created)
  | repaired
      (id : CohortId) (handles : settledBy? run event = some id)
      (created : after.created = run.created)

/-- One case for each kind of event, guards included. -/
theorem slotEffect_step
    (options : OperatorOptions) {run : OperatorRun} {event : OperatorEvent}
    (possible : offered run event) :
    SlotEffect options run event (run.step options event) := by
  have same (gone : List (CohortId × Departure)) (event : OperatorEvent) :
      SlotEffect options run event { run with gone } :=
    .quiet rfl rfl rfl fun _ member => member
  cases event with
  | createDraft draftId input =>
      simp only [OperatorRun.step, createDraft]
      split
      · next answer =>
          split at answer
          · cases answer
          · exact .quiet rfl rfl rfl fun _ => List.mem_cons_of_mem _
      · next answer =>
          split at answer
          · exact same run.gone _
          · cases answer
  | updateDraft draftId input =>
      simp only [OperatorRun.step, updateDraft]
      split
      · split
        · exact same run.gone _
        · exact .quiet rfl rfl rfl fun _ member => member
      · exact same run.gone _
  | advertiseDraft draftId minted =>
      rcases OperatorRun.step_advertiseDraft_cases options run draftId minted with
        equality | ⟨entry, cohortId, -, -, rfl, equality⟩
      · rw [equality]
        exact same run.gone _
      · rw [equality]
        exact
          .launched { run.state with drafts := run.state.drafts.erase draftId }
            cohortId entry.config entry.windows (possible.1 cohortId rfl) rfl rfl
            rfl rfl rfl
  | discardDraft draftId => exact .quiet rfl rfl rfl fun _ member => member
  | cancelCohort cohortId health =>
      by_cases handles : cohortId ∈ run.state.advertised ∧ health.stops = true
      · exact .repaired cohortId (if_pos handles) rfl
      · by_cases advertised : cohortId ∈ run.state.advertised
        · have fails : ¬ health.stops = true :=
            fun stops => handles ⟨advertised, stops⟩
          refine .quiet ?_ ?_ ?_ fun _ member => member
          all_goals
            simp [OperatorRun.step, cancelCohort, advertised, fails,
              OperatorState.declareIntent, OperatorState.clearWindowTimer]
        · refine .quiet ?_ ?_ ?_ fun _ member => member
          all_goals simp [OperatorRun.step, cancelCohort, advertised]
  | readvertiseExpired expired minted =>
      rcases
        OperatorRun.step_readvertiseExpired_cases options run expired minted with
        equality | ⟨record, cohortId, -, -, rfl, equality⟩
      · rw [equality]
        exact same run.gone _
      · rw [equality]
        exact
          .launched
            { run.state with terminal := run.state.terminal.erase expired }
            cohortId record.config record.windows (possible.1 cohortId rfl) rfl
            rfl rfl rfl rfl
  | forgetTerminal cohortId health =>
      rcases
        OperatorRun.step_forgetTerminal_cases options run cohortId health with
        equality | ⟨record, -, equality⟩
      · rw [equality]
        exact same run.gone _
      · rw [equality]
        exact .quiet rfl rfl rfl fun _ member => member
  | applySettings patch =>
      simp only [OperatorRun.step]
      split
      · exact .quiet rfl rfl rfl fun _ member => member
      · exact same run.gone _
  | pause => exact .quiet rfl rfl rfl fun _ member => member
  | resume => exact .quiet rfl rfl rfl fun _ member => member
  | windowTimer cohortId health =>
      by_cases stops : health.stops = true
      · refine .moved ?_ ?_ ?_ rfl
        · simp only [OperatorRun.step, windowTimerFires, if_pos stops]
          exact .settle cohortId _
        · simp [OperatorRun.step, windowTimerFires, stops,
            OperatorState.declareIntent, OperatorState.clearWindowTimer]
        · simp [OperatorRun.step, windowTimerFires, stops,
            OperatorState.declareIntent, OperatorState.clearWindowTimer]
      · refine .quiet ?_ ?_ ?_ fun _ member => member
        all_goals
          simp [OperatorRun.step, windowTimerFires, stops,
            OperatorState.declareIntent, OperatorState.clearWindowTimer]
  | seat cohortId => exact .moved (.seat cohortId) rfl rfl rfl
  | fill cohortId => exact .moved (.fill cohortId rfl) rfl rfl rfl
  | advance cohortId phase =>
      exact .moved (.advance cohortId phase rfl) rfl rfl rfl
  | completion cohortId => exact .moved (.settle cohortId _) rfl rfl rfl
  | failure cohortId message => exact .moved (.settle cohortId _) rfl rfl rfl
  | stopService message => exact .moved (.stop message) rfl rfl rfl
  | microtask health =>
      cases pending : run.state.runner.pending with
      | nil =>
          simp only [OperatorRun.step, pending]
          exact same run.gone _
      | cons settlement rest =>
          refine .repaired settlement.cohortId ?_ ?_
          · simp [settledBy?, pending]
          · simp only [OperatorRun.step, pending]
            rfl

end Effects

section Invariants

/-! ## The invariants -/

variable {options : OperatorOptions} {run after : OperatorRun}
  {event : OperatorEvent}

theorem Minted.move
    {created : List CohortId} {runner moved : Runner}
    (minted : Minted created runner) (move : RunnerMove event runner moved) :
    Minted created moved := by
  have modified {cohorts : InsertionMap CohortId SessionCohort}
      (same : ∀ id, id ∈ cohorts → id ∈ runner.cohorts)
      (slot : Option Advert) :
      Minted created { runner with cohorts, slot } :=
    minted.frame (fun _ => id) same fun _ => id
  cases move with
  | settle cohortId outcome => exact minted.settle cohortId outcome
  | stop reason => exact Minted.foldl_settle reason _ runner minted
  | seat cohortId =>
      exact modified (fun _ => InsertionMap.mem_modify.mp) runner.slot
  | fill cohortId => exact modified (fun _ => InsertionMap.mem_modify.mp) _
  | advance cohortId phase =>
      exact modified (fun _ => InsertionMap.mem_modify.mp) runner.slot

theorem slotted_move
    {state : OperatorState} (slotted : state.Slotted) {moved : Runner}
    (move : RunnerMove event state.runner moved) :
    OperatorState.Slotted { state with runner := moved } := by
  have mirrored := slotted.mirrored
  have modified {moved : Runner}
      (same : ∀ id ∈ state.runner.cohorts, id ∈ moved.cohorts)
      (pending : moved.pending = state.runner.pending)
      (still : Mirrored state.advertSlotOwner state.stopCurrent moved) :
      OperatorState.Slotted { state with runner := moved } := by
    refine slotted.runner still (fun id live => Or.inl (same id live)) ?_
    intro id waiting
    rw [Runner.pendingIds, pending]
    exact waiting
  cases move with
  | settle cohortId outcome => exact slotted.settle cohortId outcome
  | stop reason =>
      have stopped := slotted.stop reason
      exact ⟨stopped.mirrored, stopped.ownerKnown⟩
  | seat cohortId =>
      exact
        modified (fun _ => InsertionMap.mem_modify.mpr) rfl
          (mirrored.seat cohortId)
  | fill cohortId =>
      exact
        modified (fun _ => InsertionMap.mem_modify.mpr) rfl
          (mirrored.fill cohortId)
  | advance cohortId phase =>
      exact
        modified (fun _ => InsertionMap.mem_modify.mpr) rfl
          (mirrored.advance cohortId phase)

/-- The repair of a settle keeps the mirror. -/
theorem Prepared.slotted
    (invariant : SlotInvariant run) {id : CohortId} {prepared : OperatorState}
    (facts : Prepared run id prepared) (follows : followsLibrary run event) :
    (prepared.repairAdvertSlot event.health id).Slotted := by
  refine
    OperatorState.slotted_repairAdvertSlot ?_ ?_ facts.ended follows.1 follows.2.1
  · rw [facts.owner, facts.stopCurrent]
    exact facts.mirrored
  · intro owner different isOwner
    rw [facts.owner] at isOwner
    rcases invariant.slotted.ownerKnown owner isOwner with live | waiting
    · exact Or.inl ((facts.cohorts owner).mpr ⟨different, live⟩)
    · exact Or.inr (facts.pending owner different waiting)

theorem Prepared.minted_repair
    {id : CohortId} {prepared : OperatorState}
    (facts : Prepared run id prepared) (health : LibraryHealth) :
    Minted run.created (prepared.repairAdvertSlot health id).runner := by
  refine facts.minted.frame (fun _ member => member) ?_ ?_
  · intro other held
    rw [OperatorState.cohorts_repairAdvertSlot] at held
    exact held
  · intro other waiting
    rw [Runner.pendingIds, OperatorState.pending_repairAdvertSlot] at waiting
    exact waiting

theorem SlotInvariant.step
    (invariant : SlotInvariant run)
    (possible : offered run event) (follows : followsLibrary run event) :
    SlotInvariant (run.step options event) := by
  have slotted := invariant.slotted
  have minted := invariant.minted
  cases slotEffect_step options possible with
  | quiet runner owner stopCurrent created =>
      refine ⟨slotted.frame owner stopCurrent runner, ?_⟩
      rw [runner]
      exact minted.frame created (fun _ => id) fun _ => id
  | launched state cohortId config windows fresh runner owner stopCurrent
      launches created =>
      obtain ⟨_, -, equality⟩ := launch_eq options state cohortId config windows
      refine ⟨?_, ?_⟩
      · rw [launches]
        exact
          (slotted.frame owner stopCurrent runner).launch cohortId config windows
      · rw [launches, equality, created]
        rw [← runner] at minted
        exact minted.advertiseCohort fresh
  | moved move owner stopCurrent created =>
      refine ⟨?_, ?_⟩
      · exact (slotted_move slotted move).frame owner stopCurrent rfl
      · rw [created]
        exact minted.move move
  | repaired id handles created =>
      obtain ⟨prepared, facts, equality⟩ := exists_prepared invariant handles
      refine ⟨?_, ?_⟩
      · rw [equality]
        exact facts.slotted invariant follows
      · rw [equality, created]
        exact facts.minted_repair event.health

/-- Where no filled cohort keeps or gets the slot, it stays with an
`Advertised` one. -/
theorem openSlot_step
    (invariant : SlotInvariant run) (opened : run.state.OpenSlot)
    (possible : offered run event) (follows : followsLibrary run event)
    (spares : sparesFilled run event) :
    (run.step options event).state.OpenSlot := by
  have mirrored := invariant.slotted.mirrored
  cases slotEffect_step options possible with
  | quiet runner owner stopCurrent created => exact opened.frame runner
  | launched state cohortId config windows fresh runner owner stopCurrent
      launches created =>
      rw [launches]
      exact OperatorState.openSlot_launch cohortId config windows
  | moved move owner stopCurrent created =>
      have moved {runner : Runner}
          (becomes : (run.step options event).state.runner = runner)
          (still : OperatorState.OpenSlot { run.state with runner }) :
          (run.step options event).state.OpenSlot :=
        still.frame becomes
      generalize becomes :
        (run.step options event).state.runner = runner at move
      cases move with
      | settle cohortId outcome => exact moved becomes (opened.settle cohortId outcome)
      | stop reason =>
          exact moved becomes (OperatorState.openSlot_stop reason)
      | seat cohortId => exact moved becomes (opened.seat cohortId)
      | fill cohortId fills =>
          exact moved becomes (opened.fill mirrored (spares.1 cohortId fills))
      | advance cohortId phase advances =>
          have left := (follows.2.2 (cohortId, phase) advances).1
          exact moved becomes (opened.advance left)
  | repaired id handles created =>
      obtain ⟨prepared, facts, equality⟩ := exists_prepared invariant handles
      rw [equality]
      refine
        OperatorState.openSlot_repairAdvertSlot ?_ ?_ facts.ended ?_ follows.1
          follows.2.1
      · intro advert held live
        obtain ⟨different, wasLive⟩ := (facts.cohorts advert.cohortId).mp live
        rw [facts.phases advert.cohortId different]
        exact opened advert (facts.slot advert held) wasLive
      · rw [facts.owner, facts.stopCurrent]
        exact facts.mirrored
      · intro owner newest found
        rw [facts.owner] at owner
        rw [facts.newest] at found
        have different : newest ≠ id := by
          have chosen := List.find?_some found
          simp only [ne_eq, Bool.decide_and, Bool.and_eq_true,
            decide_eq_true_eq] at chosen
          exact chosen.1
        rw [facts.phases newest different]
        exact spares.2 id handles owner newest found

end Invariants

section Law

/-! ## The law along every run -/

variable {options : OperatorOptions} {run : OperatorRun}

/-- What the slot does in a state of a run, whatever happened before. -/
structure SlotLaw (options : OperatorOptions) (run : OperatorRun) : Prop where
  /-- The slot is for a live cohort, or for one whose settle is not handled. -/
  live :
    ∀ advert ∈ run.state.runner.slot,
      advert.cohortId ∈ run.state.runner.cohorts ∨
        advert.cohortId ∈ run.state.runner.pendingIds
  /-- The mirrored owner's settle hands the slot to the newest open cohort. -/
  handsOn :
    ∀ event id,
      offered run event → followsLibrary run event →
        settledBy? run event = some id → run.state.advertSlotOwner = some id →
          (run.step options event).state.runner.slot.map Advert.cohortId =
            nextOpen? run.state id
  /-- Any other settle leaves the slot alone. -/
  untouched :
    ∀ event id,
      settledBy? run event = some id → run.state.advertSlotOwner ≠ some id →
        (run.step options event).state.runner.slot = run.state.runner.slot
  /-- No repair replaces the advert of a cohort that is still alive. -/
  keepsLive :
    ∀ event id,
      settledBy? run event = some id →
        ∀ advert ∈ run.state.runner.slot,
          advert.cohortId ∈ (run.step options event).state.runner.cohorts →
            advert ∈ (run.step options event).state.runner.slot

/-- What it does as well where no filled cohort keeps or gets the slot. -/
structure OpenSlotLaw (options : OperatorOptions) (run : OperatorRun) :
    Prop where
  opened :
    ∀ advert ∈ run.state.runner.slot,
      run.state.runner.getCohortPhase advert.cohortId = some .advertised ∨
        advert.cohortId ∈ run.state.runner.pendingIds
  refilled :
    ∀ event id,
      offered run event → followsLibrary run event → sparesFilled run event →
        settledBy? run event = some id → run.state.advertSlotOwner = some id →
          ∀ cohortId ∈ run.state.advertised,
            cohortId ≠ id →
              run.state.runner.getCohortPhase cohortId = some .advertised →
                ∃ advert ∈ (run.step options event).state.runner.slot,
                  (run.step options event).state.runner.getCohortPhase
                      advert.cohortId =
                    some .advertised

theorem SlotInvariant.law
    (invariant : SlotInvariant run) (options : OperatorOptions) :
    SlotLaw options run where
  live advert held :=
    invariant.slotted.ownerKnown advert.cohortId
      (invariant.slotted.mirrored.owned advert held)
  handsOn event id _ follows handles owner := by
    obtain ⟨prepared, facts, equality⟩ := exists_prepared invariant handles
    have mirrored :
        Mirrored prepared.advertSlotOwner prepared.stopCurrent
          prepared.runner := by
      rw [facts.owner, facts.stopCurrent]
      exact facts.mirrored
    rw [equality, ← facts.newest]
    exact
      OperatorState.slot_repairAdvertSlot mirrored (facts.owner.trans owner)
        facts.ended follows.1 follows.2.1
  untouched event id handles notOwner := by
    obtain ⟨prepared, facts, equality⟩ := exists_prepared invariant handles
    have other : prepared.advertSlotOwner ≠ some id := by
      rw [facts.owner]
      exact notOwner
    rw [equality, OperatorState.repairAdvertSlot_of_other other]
    exact facts.slotKept notOwner
  keepsLive event id handles advert held alive := by
    obtain ⟨prepared, facts, equality⟩ := exists_prepared invariant handles
    rw [equality, OperatorState.cohorts_repairAdvertSlot] at alive
    have different := ((facts.cohorts advert.cohortId).mp alive).1
    have owner := invariant.slotted.mirrored.owned advert held
    have notOwner : run.state.advertSlotOwner ≠ some id := by
      rw [owner]
      exact fun same => different (Option.some.inj same)
    have other : prepared.advertSlotOwner ≠ some id := by
      rw [facts.owner]
      exact notOwner
    rw [equality, OperatorState.repairAdvertSlot_of_other other,
      facts.slotKept notOwner]
    exact held

theorem SlotInvariant.openLaw
    (invariant : SlotInvariant run) (opened : run.state.OpenSlot) :
    OpenSlotLaw options run where
  opened advert held :=
    ((invariant.law options).live advert held).imp_left
      (opened advert held)
  refilled event id possible follows spares handles owner cohortId advertised
      different joinable := by
    have handed :=
      (invariant.law options).handsOn event id possible follows handles owner
    obtain ⟨prepared, facts, equality⟩ := exists_prepared invariant handles
    have exists_next : (nextOpen? run.state id).isSome := by
      rw [nextOpen?, List.find?_isSome]
      refine ⟨cohortId, advertised, ?_⟩
      simp [different, joinable, openPhases]
    obtain ⟨next, found⟩ := Option.isSome_iff_exists.mp exists_next
    rw [found, Option.map_eq_some_iff] at handed
    obtain ⟨advert, held, rfl⟩ := handed
    have notSettled : advert.cohortId ≠ id := by
      have chosen := List.find?_some found
      simp only [ne_eq, Bool.decide_and, Bool.and_eq_true,
        decide_eq_true_eq] at chosen
      exact chosen.1
    refine ⟨advert, held, ?_⟩
    rw [equality, OperatorState.getCohortPhase_repairAdvertSlot,
      facts.phases advert.cohortId notSettled]
    exact spares.2 id handles owner advert.cohortId found

/-- In every run the slot is mirrored, handed on by its owner's settle and taken
from no live cohort; where no filled cohort keeps or gets it, it is for an
`Advertised` cohort. -/
theorem slotLaw_of_admits
    (options : OperatorOptions) (settings : RuntimeSettings)
    (events : List OperatorEvent)
    (admissible : (slotMachine options settings).Admits events) :
    SlotLaw options ((slotMachine options settings).run events) ∧
      ((sparingMachine options settings).Admits events →
        OpenSlotLaw options ((slotMachine options settings).run events)) := by
  have initially : SlotInvariant (OperatorRun.booted settings) :=
    ⟨⟨Mirrored.booted, nofun⟩, Minted.booted⟩
  have always : (slotMachine options settings).Always SlotInvariant := by
    refine Machine.Always.of_inductive initially ?_
    intro run event invariant possible
    exact invariant.step possible.1 possible.2
  have sparing :
      (sparingMachine options settings).Always fun run =>
        SlotInvariant run ∧ run.state.OpenSlot := by
    refine Machine.Always.of_inductive ⟨initially, nofun⟩ ?_
    intro run event both possible
    exact
      ⟨both.1.step possible.1.1 possible.1.2,
        openSlot_step both.1 both.2 possible.1.1 possible.1.2 possible.2⟩
  refine ⟨(always events admissible).law options, ?_⟩
  intro spares
  obtain ⟨invariant, opened⟩ := sparing events spares
  exact invariant.openLaw opened

def threeAdvertised : List OperatorEvent :=
  [ .createDraft 0 (plainInput none),
    .createDraft 1 (plainInput none),
    .createDraft 2 (plainInput none),
    .advertiseDraft 0 (some 3),
    .advertiseDraft 1 (some 4),
    .advertiseDraft 2 (some 5) ]

/-- The newest cohort is canceled: the slot passes to the one before it. -/
def newestCanceled : List OperatorEvent :=
  threeAdvertised ++ [.cancelCohort 5 .sound, .microtask .sound]

theorem slotLaw_of_admits_newestCanceled :
    SlotLaw plainOptions
        ((slotMachine plainOptions .unseeded).run newestCanceled) ∧
      OpenSlotLaw plainOptions
        ((slotMachine plainOptions .unseeded).run newestCanceled) := by
  have law :=
    slotLaw_of_admits plainOptions .unseeded newestCanceled (by decide +kernel)
  exact ⟨law.1, law.2 (by decide +kernel)⟩

example :
    ((slotMachine plainOptions .unseeded).run
          newestCanceled).state.runner.slot.map Advert.cohortId =
      some 4 := by
  decide +kernel

/-- The slot after every handled settle, with no regard to the mirror. -/
def SlotPromise (options : OperatorOptions) (settings : RuntimeSettings) :
    Prop :=
  ∀ events event id,
    (slotMachine options settings).Admits (events ++ [event]) →
      let before := (slotMachine options settings).run events
      let after := (slotMachine options settings).run (events ++ [event])
      settledBy? before event = some id →
        after.state.runner.pending = [] →
          ((∃ cohortId ∈ after.state.advertised.keys,
              after.state.runner.getCohortPhase cohortId = some .advertised) →
            after.state.runner.slot.isSome) ∧
          (∀ advert ∈ after.state.runner.slot,
            after.state.runner.getCohortPhase advert.cohortId =
              some .advertised) ∧
          ∀ advert ∈ before.state.runner.slot,
            after.state.runner.getCohortPhase advert.cohortId =
                some .advertised →
              advert ∈ after.state.runner.slot

/-- The newest cohort fills, which the mirror does not see, and an older one is
canceled: the slot stays empty though the oldest can still be joined. -/
theorem not_slotPromise : ¬ SlotPromise plainOptions .unseeded := by
  intro promise
  have kept :=
    (promise (threeAdvertised ++ [.fill 5, .cancelCohort 4 .sound])
      (.microtask .sound) 4 (by decide +kernel) (by decide +kernel)
      (by decide +kernel)).1
  have empty :
      ((slotMachine plainOptions .unseeded).run
          ((threeAdvertised ++ [.fill 5, .cancelCohort 4 .sound]) ++
            [.microtask .sound])).state.runner.slot.isSome =
        false := by
    decide +kernel
  rw [kept (by decide +kernel)] at empty
  cases empty

end Law

end Btcr2Aggregation
