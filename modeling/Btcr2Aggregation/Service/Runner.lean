import Btcr2Aggregation.Library.InsertionMap
import Btcr2Aggregation.Shared.Cohort

/-!
# The aggregation runner, as the app relies on it

The runner, its session and its transport are the library's.  This structure is
the instance of it that the operator state carries; `RunnerLibrary` states the
library as a parameter.  Towards the app a cohort that settles, by whatever
cause, is disposed of, leaves the session, and has its completion promise
settled; the promise's callbacks run later, in order, as microtasks.

The transport holds one advert slot.  Publishing overwrites it, and a stop
closure clears it only while the slot still holds the advert it was made for.
-/

namespace Btcr2Aggregation

/-- The advert in the slot: its own id and the cohort it is for. -/
structure Advert where
  advertId : Nat
  cohortId : CohortId
  deriving DecidableEq, Repr

/-- A cohort of the live session.  `ownAdvert` is the advert its repeating loop
still publishes. -/
structure SessionCohort where
  phase : CohortPhase
  joined : Nat
  ownAdvert : Option Nat
  deriving DecidableEq, Repr

/-- A completion promise that has settled while its callbacks have not run. -/
structure Settlement where
  cohortId : CohortId
  outcome : Except String Unit

structure Runner where
  cohorts : InsertionMap CohortId SessionCohort
  slot : Option Advert
  nextAdvert : Nat
  pending : List Settlement

namespace Runner

def booted : Runner where
  cohorts := ∅
  slot := none
  nextAdvert := 0
  pending := []

/-- `session.getCohortPhase`. -/
def getCohortPhase (runner : Runner) (cohortId : CohortId) :
    Option CohortPhase :=
  (runner.cohorts.lookup cohortId).map SessionCohort.phase

/-- `transport.publishRepeating`: overwrite the slot; the new advert's id is the
old counter. -/
def publishRepeating (runner : Runner) (cohortId : CohortId) : Runner :=
  { runner with
    slot := some ⟨runner.nextAdvert, cohortId⟩
    nextAdvert := runner.nextAdvert + 1 }

/-- The stop closure of an advert. -/
def stopAdvert (runner : Runner) (advertId : Option Nat) : Runner :=
  { runner with
    slot := runner.slot.filter fun advert => some advert.advertId ≠ advertId }

/-- `advertiseCohort`, once it has minted a cohort id. -/
def advertiseCohort (runner : Runner) (cohortId : CohortId) : Runner :=
  { runner.publishRepeating cohortId with
    cohorts :=
      runner.cohorts.set cohortId
        { phase := .advertised
          joined := 0
          ownAdvert := some runner.nextAdvert } }

/-- The advert a cohort's repeating loop still publishes. -/
def ownAdvert (runner : Runner) (cohortId : CohortId) : Option Nat :=
  (runner.cohorts.lookup cohortId).bind SessionCohort.ownAdvert

/-- Settle a cohort the runner still holds: stop its own advert, drop it from
the session, and settle its promise.  A cohort it no longer holds is a no-op. -/
def settle
    (runner : Runner) (cohortId : CohortId) (outcome : Except String Unit) :
    Runner :=
  if cohortId ∈ runner.cohorts then
    { runner.stopAdvert (runner.ownAdvert cohortId) with
      cohorts := runner.cohorts.erase cohortId
      pending := runner.pending ++ [⟨cohortId, outcome⟩] }
  else
    runner

def stoppedReason (cohortId : CohortId) : String :=
  "Cohort " ++ toString cohortId ++ " stopped."

/-- `stopCohort`. -/
def stopCohort (runner : Runner) (cohortId : CohortId) : Runner :=
  runner.settle cohortId (.error (stoppedReason cohortId))

/-- `runner.stop()` rejects every cohort it holds. -/
def stop (runner : Runner) (reason : String) : Runner :=
  runner.cohorts.keys.reverse.foldl
    (fun runner cohortId => runner.settle cohortId (.error reason)) runner

/-- A cohort reaches its last seat: its own advert stops and it leaves the
`Advertised` phase. -/
def fill (runner : Runner) (cohortId : CohortId) : Runner :=
  { runner.stopAdvert (runner.ownAdvert cohortId) with
    cohorts :=
      runner.cohorts.modify cohortId fun cohort =>
        { cohort with phase := .cohortSet, ownAdvert := none } }

/-- A filled cohort moves to a later phase. -/
def advance
    (runner : Runner) (cohortId : CohortId) (phase : CohortPhase) : Runner :=
  { runner with
    cohorts :=
      runner.cohorts.modify cohortId fun cohort => { cohort with phase } }

/-- A participant is seated. -/
def seat (runner : Runner) (cohortId : CohortId) : Runner :=
  { runner with
    cohorts :=
      runner.cohorts.modify cohortId fun cohort =>
        { cohort with joined := cohort.joined + 1 } }

section Membership

/-! ## Who the runner still holds -/

@[simp]
theorem mem_cohorts_advertiseCohort
    {runner : Runner} {cohortId other : CohortId} :
    other ∈ (runner.advertiseCohort cohortId).cohorts ↔
      other = cohortId ∨ other ∈ runner.cohorts :=
  InsertionMap.mem_set

theorem settle_of_notMem
    {runner : Runner} {cohortId : CohortId}
    (absent : cohortId ∉ runner.cohorts) (outcome : Except String Unit) :
    runner.settle cohortId outcome = runner :=
  if_neg absent

@[simp]
theorem mem_cohorts_settle
    {runner : Runner} {cohortId other : CohortId}
    {outcome : Except String Unit} :
    other ∈ (runner.settle cohortId outcome).cohorts ↔
      other ≠ cohortId ∧ other ∈ runner.cohorts := by
  by_cases member : cohortId ∈ runner.cohorts
  · rw [settle, if_pos member]
    exact AList.mem_erase
  · rw [settle_of_notMem member]
    constructor
    · intro inside
      exact ⟨ne_of_mem_of_not_mem inside member, inside⟩
    · exact And.right

/-- The cohorts a sweep of settles leaves are those it did not visit. -/
theorem mem_cohorts_foldl_settle
    {reason : String} {other : CohortId} (cohortIds : List CohortId) :
    ∀ runner : Runner,
      other ∈
          (cohortIds.foldl
            (fun runner cohortId => runner.settle cohortId (.error reason))
            runner).cohorts ↔
        other ∉ cohortIds ∧ other ∈ runner.cohorts := by
  induction cohortIds with
  | nil =>
      intro runner
      simp
  | cons cohortId cohortIds inductionHypothesis =>
      intro runner
      rw [List.foldl_cons, inductionHypothesis, mem_cohorts_settle]
      simp only [List.mem_cons, not_or]
      tauto

/-- A stopped runner holds no cohort. -/
theorem notMem_cohorts_stop (runner : Runner) (reason : String)
    (other : CohortId) :
    other ∉ (runner.stop reason).cohorts := by
  intro member
  obtain ⟨unvisited, held⟩ :=
    (mem_cohorts_foldl_settle runner.cohorts.keys.reverse runner).mp member
  exact unvisited (List.mem_reverse.mpr held)

theorem pending_settle_of_mem
    {runner : Runner} {cohortId : CohortId}
    (member : cohortId ∈ runner.cohorts) (outcome : Except String Unit) :
    (runner.settle cohortId outcome).pending =
      runner.pending ++ [⟨cohortId, outcome⟩] := by
  rw [settle, if_pos member]

/-- A sweep over distinct held cohorts settles each of them once, in order. -/
theorem pending_foldl_settle {reason : String} (cohortIds : List CohortId) :
    ∀ runner : Runner,
      cohortIds.Nodup → (∀ id ∈ cohortIds, id ∈ runner.cohorts) →
        (cohortIds.foldl
            (fun runner cohortId => runner.settle cohortId (.error reason))
            runner).pending =
          runner.pending ++
            cohortIds.map fun cohortId => ⟨cohortId, .error reason⟩ := by
  induction cohortIds with
  | nil =>
      intro runner _ _
      simp
  | cons cohortId cohortIds inductionHypothesis =>
      intro runner once held
      obtain ⟨notLater, onceLater⟩ := List.nodup_cons.mp once
      have now : cohortId ∈ runner.cohorts := held cohortId List.mem_cons_self
      have heldLater :
          ∀ id ∈ cohortIds,
            id ∈ (runner.settle cohortId (.error reason)).cohorts := by
        intro id later
        have heldNow := held id (List.mem_cons_of_mem _ later)
        exact
          mem_cohorts_settle.mpr ⟨ne_of_mem_of_not_mem later notLater, heldNow⟩
      rw [List.foldl_cons, inductionHypothesis _ onceLater heldLater,
        pending_settle_of_mem now, List.map_cons, List.append_assoc]
      rfl

theorem pending_stop (runner : Runner) (reason : String) :
    (runner.stop reason).pending =
      runner.pending ++
        runner.cohorts.keys.reverse.map fun cohortId =>
          ⟨cohortId, .error reason⟩ := by
  refine pending_foldl_settle _ runner ?_ ?_
  · exact List.nodup_reverse.mpr (AList.keys_nodup runner.cohorts)
  · intro id member
    exact List.mem_reverse.mp member

end Membership

end Runner

end Btcr2Aggregation
