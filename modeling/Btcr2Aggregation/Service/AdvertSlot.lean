import Btcr2Aggregation.Service.TerminalFates

/-!
# The advert slot

The transport holds one advert, and the app mirrors which cohort it is for.  The
mirror learns of advertises and of its own re-publishes, not of a cohort that
fills.  What it can promise is proved here: the slot never holds the advert of
an ended cohort once settlements have run, an owner's settle hands the slot on,
and no repair takes it from a cohort that is still alive.
-/

namespace Btcr2Aggregation

section Transport

/-! ## What the runner does to the slot -/

namespace Runner

variable {runner : Runner} {cohortId other : CohortId}

theorem mem_slot_stopAdvert {advertId : Option Nat} {advert : Advert} :
    advert ∈ (runner.stopAdvert advertId).slot ↔
      advert ∈ runner.slot ∧ some advert.advertId ≠ advertId := by
  simp [stopAdvert]

theorem ownAdvert_of_notMem (absent : cohortId ∉ runner.cohorts) :
    runner.ownAdvert cohortId = none := by
  rw [ownAdvert, AList.lookup_eq_none.mpr absent]
  rfl

/-- A settle stops the cohort's own advert, whether or not it was held. -/
theorem mem_slot_settle {outcome : Except String Unit} {advert : Advert} :
    advert ∈ (runner.settle cohortId outcome).slot ↔
      advert ∈ runner.slot ∧
        some advert.advertId ≠ runner.ownAdvert cohortId := by
  by_cases held : cohortId ∈ runner.cohorts
  · rw [settle, if_pos held]
    exact mem_slot_stopAdvert
  · rw [settle_of_notMem held, ownAdvert_of_notMem held]
    simp

theorem ownAdvert_settle {outcome : Except String Unit} {advertId : Nat} :
    (runner.settle cohortId outcome).ownAdvert other = some advertId ↔
      other ≠ cohortId ∧ runner.ownAdvert other = some advertId := by
  by_cases same : other = cohortId
  · subst same
    have absent : other ∉ (runner.settle other outcome).cohorts := by
      simp
    simp [ownAdvert_of_notMem absent]
  · by_cases held : cohortId ∈ runner.cohorts
    · simp [ownAdvert, settle, held, same]
    · simp [settle_of_notMem held, same]

@[simp]
theorem nextAdvert_settle (outcome : Except String Unit) :
    (runner.settle cohortId outcome).nextAdvert = runner.nextAdvert := by
  rw [settle]
  split
  · rfl
  · rfl

theorem ownAdvert_fill {advertId : Nat} :
    (runner.fill cohortId).ownAdvert other = some advertId ↔
      other ≠ cohortId ∧ runner.ownAdvert other = some advertId := by
  by_cases same : other = cohortId
  · subst same
    cases held : runner.cohorts.lookup other <;> simp [ownAdvert, fill, held]
  · simp [ownAdvert, fill, same]

theorem ownAdvert_advance (phase : CohortPhase) :
    (runner.advance cohortId phase).ownAdvert other = runner.ownAdvert other := by
  by_cases same : other = cohortId
  · subst same
    cases held : runner.cohorts.lookup other <;>
      simp [ownAdvert, advance, held]
  · simp [ownAdvert, advance, same]

theorem ownAdvert_seat :
    (runner.seat cohortId).ownAdvert other = runner.ownAdvert other := by
  by_cases same : other = cohortId
  · subst same
    cases held : runner.cohorts.lookup other <;> simp [ownAdvert, seat, held]
  · simp [ownAdvert, seat, same]

theorem ownAdvert_advertiseCohort_self :
    (runner.advertiseCohort cohortId).ownAdvert cohortId =
      some runner.nextAdvert := by
  simp [ownAdvert, advertiseCohort]

theorem ownAdvert_advertiseCohort_of_ne (different : other ≠ cohortId) :
    (runner.advertiseCohort cohortId).ownAdvert other =
      runner.ownAdvert other := by
  simp [ownAdvert, advertiseCohort, publishRepeating, different]

end Runner

end Transport

section Mirror

/-! ## The mirror -/

/-- The slot holds an advert of the mirrored owner: its own, or the one the app
re-published.  Own adverts have ids of their own. -/
structure Mirrored
    (owner : Option CohortId) (stopCurrent : Option Nat) (runner : Runner) :
    Prop where
  owned : ∀ advert ∈ runner.slot, owner = some advert.cohortId
  known :
    ∀ advert ∈ runner.slot,
      runner.ownAdvert advert.cohortId = some advert.advertId ∨
        stopCurrent = some advert.advertId
  ownSlot :
    ∀ id advertId,
      runner.ownAdvert id = some advertId →
        ∀ advert ∈ runner.slot,
          advert.advertId = advertId → advert.cohortId = id
  ownOld :
    ∀ id advertId,
      runner.ownAdvert id = some advertId → advertId < runner.nextAdvert

namespace Mirrored

variable
  {owner : Option CohortId} {stopCurrent : Option Nat} {runner : Runner}

theorem booted : Mirrored none none Runner.booted := by
  constructor <;> simp [Runner.booted, Runner.ownAdvert]

/-- Adverts may only leave the slot, and own adverts may only stop together
with the slot's copy of them. -/
theorem shrink
    (mirrored : Mirrored owner stopCurrent runner) {after : Runner}
    (slot : ∀ advert ∈ after.slot, advert ∈ runner.slot)
    (own :
      ∀ id advertId,
        after.ownAdvert id = some advertId →
          runner.ownAdvert id = some advertId)
    (stopped :
      ∀ advert ∈ after.slot,
        runner.ownAdvert advert.cohortId = some advert.advertId →
          after.ownAdvert advert.cohortId = some advert.advertId)
    (nextAdvert : after.nextAdvert = runner.nextAdvert) :
    Mirrored owner stopCurrent after where
  owned advert held := mirrored.owned advert (slot advert held)
  known advert held :=
    (mirrored.known advert (slot advert held)).imp_left (stopped advert held)
  ownSlot id advertId ofId advert held :=
    mirrored.ownSlot id advertId (own id advertId ofId) advert (slot advert held)
  ownOld id advertId ofId := by
    rw [nextAdvert]
    exact mirrored.ownOld id advertId (own id advertId ofId)

theorem settle
    (mirrored : Mirrored owner stopCurrent runner) (cohortId : CohortId)
    (outcome : Except String Unit) :
    Mirrored owner stopCurrent (runner.settle cohortId outcome) := by
  refine mirrored.shrink ?_ ?_ ?_ (Runner.nextAdvert_settle outcome)
  · intro advert held
    exact (Runner.mem_slot_settle.mp held).1
  · intro id advertId ofId
    exact (Runner.ownAdvert_settle.mp ofId).2
  · intro advert held ofId
    have different : advert.cohortId ≠ cohortId := by
      rintro rfl
      exact (Runner.mem_slot_settle.mp held).2 ofId.symm
    exact Runner.ownAdvert_settle.mpr ⟨different, ofId⟩

theorem foldl_settle (reason : String) (cohortIds : List CohortId) :
    ∀ runner : Runner,
      Mirrored owner stopCurrent runner →
        Mirrored owner stopCurrent
          (cohortIds.foldl
            (fun runner cohortId => runner.settle cohortId (.error reason))
            runner) := by
  induction cohortIds with
  | nil =>
      intro runner mirrored
      exact mirrored
  | cons cohortId cohortIds inductionHypothesis =>
      intro runner mirrored
      exact inductionHypothesis _ (mirrored.settle cohortId (.error reason))

theorem fill
    (mirrored : Mirrored owner stopCurrent runner) (cohortId : CohortId) :
    Mirrored owner stopCurrent (runner.fill cohortId) := by
  refine mirrored.shrink ?_ ?_ ?_ rfl
  · intro advert held
    exact (Runner.mem_slot_stopAdvert.mp held).1
  · intro id advertId ofId
    exact (Runner.ownAdvert_fill.mp ofId).2
  · intro advert held ofId
    have different : advert.cohortId ≠ cohortId := by
      rintro rfl
      exact (Runner.mem_slot_stopAdvert.mp held).2 ofId.symm
    exact Runner.ownAdvert_fill.mpr ⟨different, ofId⟩

theorem advance
    (mirrored : Mirrored owner stopCurrent runner) (cohortId : CohortId)
    (phase : CohortPhase) :
    Mirrored owner stopCurrent (runner.advance cohortId phase) := by
  refine mirrored.shrink (fun _ held => held) ?_ ?_ rfl
  · intro id advertId ofId
    rw [Runner.ownAdvert_advance] at ofId
    exact ofId
  · intro advert _ ofId
    rw [Runner.ownAdvert_advance]
    exact ofId

theorem seat
    (mirrored : Mirrored owner stopCurrent runner) (cohortId : CohortId) :
    Mirrored owner stopCurrent (runner.seat cohortId) := by
  refine mirrored.shrink (fun _ held => held) ?_ ?_ rfl
  · intro id advertId ofId
    rw [Runner.ownAdvert_seat] at ofId
    exact ofId
  · intro advert _ ofId
    rw [Runner.ownAdvert_seat]
    exact ofId

theorem advertiseCohort
    (mirrored : Mirrored owner stopCurrent runner) (cohortId : CohortId) :
    Mirrored (some cohortId) stopCurrent (runner.advertiseCohort cohortId) where
  owned advert held := by
    cases held
    rfl
  known advert held := by
    cases held
    exact Or.inl Runner.ownAdvert_advertiseCohort_self
  ownSlot id advertId ofId advert held same := by
    cases held
    by_contra different
    rw [Runner.ownAdvert_advertiseCohort_of_ne (Ne.symm different)] at ofId
    have old := mirrored.ownOld id advertId ofId
    have new : runner.nextAdvert = advertId := same
    omega
  ownOld id advertId ofId := by
    have next :
        (runner.advertiseCohort cohortId).nextAdvert = runner.nextAdvert + 1 :=
      rfl
    rw [next]
    by_cases same : id = cohortId
    · subst same
      rw [Runner.ownAdvert_advertiseCohort_self] at ofId
      cases ofId
      omega
    · rw [Runner.ownAdvert_advertiseCohort_of_ne same] at ofId
      have old := mirrored.ownOld id advertId ofId
      omega

/-- What is left in the slot for an ended cohort is the app's own advert, so
retiring that empties the slot. -/
theorem slot_retired
    {cohortId : CohortId}
    (mirrored : Mirrored (some cohortId) stopCurrent runner)
    (ended : cohortId ∉ runner.cohorts) :
    (runner.stopAdvert stopCurrent).slot = none := by
  refine Option.eq_none_iff_forall_not_mem.mpr ?_
  intro advert held
  obtain ⟨inSlot, notRetired⟩ := Runner.mem_slot_stopAdvert.mp held
  have same := Option.some.inj (mirrored.owned advert inSlot)
  rcases mirrored.known advert inSlot with own | republished
  · rw [← same, Runner.ownAdvert_of_notMem ended] at own
    cases own
  · exact notRetired republished.symm

/-- Clearing the slot of an ended owner. -/
theorem clear
    {cohortId : CohortId}
    (mirrored : Mirrored (some cohortId) stopCurrent runner)
    (ended : cohortId ∉ runner.cohorts) :
    Mirrored none none (runner.stopAdvert stopCurrent) := by
  have emptied := mirrored.slot_retired ended
  refine ⟨?_, ?_, ?_, mirrored.ownOld⟩
  · rw [emptied]
    nofun
  · rw [emptied]
    nofun
  · rw [emptied]
    nofun

/-- The app publishes an advert of its own in place of whatever it held. -/
theorem republish
    (mirrored : Mirrored owner stopCurrent runner) (cohortId : CohortId) :
    Mirrored (some cohortId) (some runner.nextAdvert)
      ((runner.stopAdvert stopCurrent).publishRepeating cohortId) where
  owned advert held := by
    cases held
    rfl
  known advert held := by
    cases held
    exact Or.inr rfl
  ownSlot id advertId ofId advert held same := by
    cases held
    have old := mirrored.ownOld id advertId ofId
    have new : runner.nextAdvert = advertId := same
    omega
  ownOld id advertId ofId := by
    have old := mirrored.ownOld id advertId ofId
    exact Nat.lt_succ_of_lt old

end Mirrored

end Mirror

section Repair

/-! ## What a repair does -/

namespace OperatorState

variable {health : LibraryHealth} {state : OperatorState} {cohortId : CohortId}

theorem repairAdvertSlot_of_other
    (other : state.advertSlotOwner ≠ some cohortId) :
    state.repairAdvertSlot health cohortId = state :=
  if_neg other

theorem repairThrows_of_reads (reads : health.phaseReads = true) :
    state.repairThrows health cohortId = false := by
  simp [repairThrows, reads]

/-- The owner's settle with an open cohort left: its advert is published. -/
theorem repairAdvertSlot_republishes
    (owner : state.advertSlotOwner = some cohortId)
    (reads : health.phaseReads = true) (publishes : health.publishes = true)
    {newest : CohortId} (found : state.newestOpen? = some newest) :
    state.repairAdvertSlot health cohortId =
      { state with
        advertSlotOwner := some newest
        stopCurrent := some state.runner.nextAdvert
        runner :=
          (state.runner.stopAdvert state.stopCurrent).publishRepeating
            newest } := by
  have openNow :
      ({ state with advertSlotOwner := none } : OperatorState).newestOpen? =
        some newest := found
  simp only [repairAdvertSlot, if_pos owner, repairThrows_of_reads reads,
    Bool.false_eq_true, if_false, openNow, republish, if_pos publishes]
  rfl

/-- The owner's settle with no open cohort left: the slot is cleared. -/
theorem repairAdvertSlot_clears
    (owner : state.advertSlotOwner = some cohortId)
    (reads : health.phaseReads = true) (found : state.newestOpen? = none) :
    state.repairAdvertSlot health cohortId =
      { state with
        advertSlotOwner := none
        stopCurrent := none
        runner := state.runner.stopAdvert state.stopCurrent } := by
  have openNow :
      ({ state with advertSlotOwner := none } : OperatorState).newestOpen? =
        none := found
  simp only [repairAdvertSlot, if_pos owner, repairThrows_of_reads reads,
    Bool.false_eq_true, if_false, openNow, clearAdvert]

/-- The newest open cohort is advertised and in an open phase. -/
theorem phase_of_newestOpen?
    {newest : CohortId} (found : state.newestOpen? = some newest) :
    ∃ phase ∈ openPhases, state.runner.getCohortPhase newest = some phase := by
  have joinable := List.find?_some found
  cases read : state.runner.getCohortPhase newest with
  | none => simp [read] at joinable
  | some phase => exact ⟨phase, by simpa [read] using joinable, rfl⟩

theorem mem_cohorts_of_phase
    {phase : CohortPhase}
    (read : state.runner.getCohortPhase cohortId = some phase) :
    cohortId ∈ state.runner.cohorts := by
  by_contra absent
  rw [Runner.getCohortPhase, AList.lookup_eq_none.mpr absent] at read
  cases read

/-- A mirror whose owner is live, or about to be settled. -/
structure Slotted (state : OperatorState) : Prop where
  mirrored :
    Mirrored state.advertSlotOwner state.stopCurrent state.runner
  ownerKnown :
    ∀ owner,
      state.advertSlotOwner = some owner →
        owner ∈ state.runner.cohorts ∨ owner ∈ state.runner.pendingIds

/-- Of the live cohorts the slot holds an advert of an `Advertised` one only. -/
def OpenSlot (state : OperatorState) : Prop :=
  ∀ advert ∈ state.runner.slot,
    advert.cohortId ∈ state.runner.cohorts →
      state.runner.getCohortPhase advert.cohortId = some .advertised

/-- The repair after a settle keeps the mirror and knows the new owner. -/
theorem slotted_repairAdvertSlot
    (mirrored : Mirrored state.advertSlotOwner state.stopCurrent state.runner)
    (known :
      ∀ owner,
        owner ≠ cohortId → state.advertSlotOwner = some owner →
          owner ∈ state.runner.cohorts ∨ owner ∈ state.runner.pendingIds)
    (ended : cohortId ∉ state.runner.cohorts)
    (reads : health.phaseReads = true) (publishes : health.publishes = true) :
    (state.repairAdvertSlot health cohortId).Slotted := by
  by_cases owner : state.advertSlotOwner = some cohortId
  · rw [owner] at mirrored
    cases found : state.newestOpen? with
    | none =>
        rw [repairAdvertSlot_clears owner reads found]
        exact ⟨mirrored.clear ended, nofun⟩
    | some newest =>
        obtain ⟨phase, -, read⟩ := phase_of_newestOpen? found
        rw [repairAdvertSlot_republishes owner reads publishes found]
        refine ⟨mirrored.republish newest, ?_⟩
        intro other same
        cases same
        exact Or.inl (mem_cohorts_of_phase read)
  · rw [repairAdvertSlot_of_other owner]
    refine ⟨mirrored, fun other isOwner => known other ?_ isOwner⟩
    rintro rfl
    exact owner isOwner

/-- With the ended cohort gone, the repair hands an owner's slot on. -/
theorem slot_repairAdvertSlot
    (mirrored : Mirrored state.advertSlotOwner state.stopCurrent state.runner)
    (owner : state.advertSlotOwner = some cohortId)
    (ended : cohortId ∉ state.runner.cohorts)
    (reads : health.phaseReads = true) (publishes : health.publishes = true) :
    (state.repairAdvertSlot health cohortId).runner.slot.map Advert.cohortId =
      state.newestOpen? := by
  cases found : state.newestOpen? with
  | none =>
      rw [owner] at mirrored
      rw [repairAdvertSlot_clears owner reads found]
      simp only [mirrored.slot_retired ended, Option.map_none]
  | some newest =>
      rw [repairAdvertSlot_republishes owner reads publishes found]
      rfl

theorem getCohortPhase_repairAdvertSlot (id : CohortId) :
    (state.repairAdvertSlot health cohortId).runner.getCohortPhase id =
      state.runner.getCohortPhase id := by
  rw [Runner.getCohortPhase, cohorts_repairAdvertSlot, Runner.getCohortPhase]

theorem openSlot_repairAdvertSlot
    (opened : state.OpenSlot)
    (mirrored : Mirrored state.advertSlotOwner state.stopCurrent state.runner)
    (ended : cohortId ∉ state.runner.cohorts)
    (newestOpen :
      state.advertSlotOwner = some cohortId →
        ∀ newest ∈ state.newestOpen?,
          state.runner.getCohortPhase newest = some .advertised)
    (reads : health.phaseReads = true) (publishes : health.publishes = true) :
    (state.repairAdvertSlot health cohortId).OpenSlot := by
  by_cases owner : state.advertSlotOwner = some cohortId
  · intro advert held _
    have handed := slot_repairAdvertSlot mirrored owner ended reads publishes
    rw [held, Option.map_some] at handed
    rw [getCohortPhase_repairAdvertSlot]
    exact newestOpen owner advert.cohortId handed.symm
  · rw [repairAdvertSlot_of_other owner]
    exact opened

end OperatorState

end Repair

section Events

/-! ## One event at a time -/

namespace OperatorState

variable {options : OperatorOptions} {health : LibraryHealth}
  {state : OperatorState} {cohortId : CohortId}

theorem Slotted.frame
    {after : OperatorState} (slotted : state.Slotted)
    (owner : after.advertSlotOwner = state.advertSlotOwner)
    (stopCurrent : after.stopCurrent = state.stopCurrent)
    (runner : after.runner = state.runner) :
    after.Slotted := by
  refine ⟨?_, ?_⟩
  · rw [owner, stopCurrent, runner]
    exact slotted.mirrored
  · rw [owner, runner]
    exact slotted.ownerKnown

theorem OpenSlot.frame
    {after : OperatorState} (opened : state.OpenSlot)
    (runner : after.runner = state.runner) :
    after.OpenSlot := by
  rw [OpenSlot, runner]
  exact opened

theorem Slotted.launch
    (slotted : state.Slotted) (cohortId : CohortId) (config : CohortConfig)
    (windows : DraftWindows) :
    (launch options state cohortId config windows).Slotted := by
  obtain ⟨_, -, equality⟩ := launch_eq options state cohortId config windows
  rw [equality]
  refine ⟨slotted.mirrored.advertiseCohort cohortId, ?_⟩
  intro owner same
  cases same
  exact Or.inl (Runner.mem_cohorts_advertiseCohort.mpr (Or.inl rfl))

theorem openSlot_launch
    (cohortId : CohortId) (config : CohortConfig) (windows : DraftWindows) :
    (launch options state cohortId config windows).OpenSlot := by
  obtain ⟨_, -, equality⟩ := launch_eq options state cohortId config windows
  rw [equality]
  intro advert held _
  cases held
  simp [Runner.getCohortPhase, Runner.advertiseCohort]

/-- A runner that only changed, or settled, cohorts it held. -/
theorem Slotted.runner
    (slotted : state.Slotted) {runner : Runner}
    (mirrored : Mirrored state.advertSlotOwner state.stopCurrent runner)
    (known :
      ∀ id ∈ state.runner.cohorts, id ∈ runner.cohorts ∨ id ∈ runner.pendingIds)
    (pending : ∀ id ∈ state.runner.pendingIds, id ∈ runner.pendingIds) :
    Slotted { state with runner } where
  mirrored := mirrored
  ownerKnown owner isOwner := by
    rcases slotted.ownerKnown owner isOwner with live | waiting
    · exact known owner live
    · exact Or.inr (pending owner waiting)

theorem known_settle
    {runner : Runner} {outcome : Except String Unit} {id : CohortId}
    (live : id ∈ runner.cohorts) :
    id ∈ (runner.settle cohortId outcome).cohorts ∨
      id ∈ (runner.settle cohortId outcome).pendingIds := by
  by_cases same : id = cohortId
  · subst same
    right
    rw [Runner.pendingIds, Runner.pending_settle_of_mem live, List.map_append]
    exact List.mem_append_right _ (List.mem_singleton.mpr rfl)
  · exact Or.inl (Runner.mem_cohorts_settle.mpr ⟨same, live⟩)

theorem Slotted.settle
    (slotted : state.Slotted) (cohortId : CohortId)
    (outcome : Except String Unit) :
    Slotted { state with runner := state.runner.settle cohortId outcome } :=
  slotted.runner (slotted.mirrored.settle cohortId outcome)
    (fun _ => known_settle)
    (fun _ waiting => Runner.mem_pendingIds_settle.mpr (Or.inl waiting))

theorem getCohortPhase_settle_of_ne
    {runner : Runner} {outcome : Except String Unit} {id : CohortId}
    (different : id ≠ cohortId) :
    (runner.settle cohortId outcome).getCohortPhase id =
      runner.getCohortPhase id := by
  rw [Runner.settle]
  split
  · simp [Runner.getCohortPhase, different]
  · rfl

theorem OpenSlot.settle
    (opened : state.OpenSlot) (cohortId : CohortId)
    (outcome : Except String Unit) :
    OpenSlot { state with runner := state.runner.settle cohortId outcome } := by
  intro advert held live
  obtain ⟨different, wasLive⟩ := Runner.mem_cohorts_settle.mp live
  rw [getCohortPhase_settle_of_ne different]
  exact opened advert (Runner.mem_slot_settle.mp held).1 wasLive

theorem Slotted.stop (slotted : state.Slotted) (reason : String) :
    (stopService state reason).Slotted := by
  have mirrored :
      Mirrored state.advertSlotOwner state.stopCurrent
        (state.runner.stop reason) :=
    Mirrored.foldl_settle reason _ state.runner slotted.mirrored
  refine ⟨mirrored, fun owner isOwner => Or.inr ?_⟩
  have ids :
      (state.runner.stop reason).pendingIds =
        state.runner.pendingIds ++ state.runner.cohorts.keys.reverse := by
    rw [Runner.pendingIds, Runner.pending_stop, List.map_append, List.map_map]
    congr 1
    exact List.map_id _
  change owner ∈ (state.runner.stop reason).pendingIds
  rw [ids, List.mem_append]
  rcases slotted.ownerKnown owner isOwner with live | waiting
  · exact Or.inr (List.mem_reverse.mpr live)
  · exact Or.inl waiting

theorem openSlot_stop (reason : String) :
    (stopService state reason).OpenSlot := by
  intro advert _ live
  exact absurd live (Runner.notMem_cohorts_stop _ reason _)

theorem OpenSlot.fill
    (opened : state.OpenSlot)
    (mirrored : Mirrored state.advertSlotOwner state.stopCurrent state.runner)
    (own :
      ∀ advert ∈ state.runner.slot,
        advert.cohortId = cohortId → state.stopCurrent ≠ some advert.advertId) :
    OpenSlot { state with runner := state.runner.fill cohortId } := by
  intro advert held live
  obtain ⟨inSlot, notOwn⟩ := Runner.mem_slot_stopAdvert.mp held
  have different : advert.cohortId ≠ cohortId := by
    intro same
    rcases mirrored.known advert inSlot with ofId | republished
    · rw [same] at ofId
      exact notOwn ofId.symm
    · exact own advert inSlot same republished
  have wasLive : advert.cohortId ∈ state.runner.cohorts :=
    InsertionMap.mem_modify.mp live
  have wasOpen := opened advert inSlot wasLive
  simpa [Runner.getCohortPhase, Runner.fill, different] using wasOpen

theorem OpenSlot.advance
    (opened : state.OpenSlot) {phase : CohortPhase}
    (left : state.runner.getCohortPhase cohortId ≠ some .advertised) :
    OpenSlot { state with runner := state.runner.advance cohortId phase } := by
  intro advert held live
  have wasLive : advert.cohortId ∈ state.runner.cohorts :=
    InsertionMap.mem_modify.mp live
  have wasOpen := opened advert held wasLive
  have different : advert.cohortId ≠ cohortId := by
    intro same
    rw [same] at wasOpen
    exact left wasOpen
  simpa [Runner.getCohortPhase, Runner.advance, different] using wasOpen

theorem getCohortPhase_seat (runner : Runner) (cohortId id : CohortId) :
    (runner.seat cohortId).getCohortPhase id = runner.getCohortPhase id := by
  by_cases same : id = cohortId
  · subst same
    cases held : runner.cohorts.lookup id <;>
      simp [Runner.getCohortPhase, Runner.seat, held]
  · simp [Runner.getCohortPhase, Runner.seat, same]

theorem OpenSlot.seat (opened : state.OpenSlot) (cohortId : CohortId) :
    OpenSlot { state with runner := state.runner.seat cohortId } := by
  intro advert held live
  have wasLive : advert.cohortId ∈ state.runner.cohorts :=
    InsertionMap.mem_modify.mp live
  change (state.runner.seat cohortId).getCohortPhase _ = _
  rw [getCohortPhase_seat]
  exact opened advert held wasLive

end OperatorState

end Events

end Btcr2Aggregation
