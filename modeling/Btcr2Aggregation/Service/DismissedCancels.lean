import Btcr2Aggregation.Service.OperatorSteps

/-!
# The cancels a run remembers

`cohortFate` reads a cancel off the terminal record, or off the carry of the
cancels whose record was dismissed.  Both are bounded by the same number, but
the first evicts by the time of the ending and the second by the time of the
dismissal.
-/

namespace Btcr2Aggregation

open InsertionMap

/-- The event is a dismissal. -/
def OperatorEvent.forgets : OperatorEvent → Bool
  | .forgetTerminal _ _ => true
  | _ => false

section Dismissals

/-! ## What a dismissal does to the records -/

/-- The cancels that a dismissal pushes out of the carry. -/
def pushedOut (state : OperatorState) (cohortId : CohortId) : List CohortId :=
  match state.terminal.lookup cohortId with
  | some record =>
      state.dismissedCanceled.keys.filter fun id =>
        id ∉ carryWith state cohortId record
  | none => []

end Dismissals

section Accepted

/-! ## A canceled fate is an accepted cancel -/

/-- `cohortFate` reads `true` for a cohort whose cancel was answered `ok`. -/
def CancelsAccepted (run : OperatorRun) : Prop :=
  ∀ id, cohortFate run.state id = true → id ∈ run.canceledOk

namespace OperatorRun

variable {options : OperatorOptions} {run : OperatorRun}

theorem dismissedCanceled_settled
    (run : OperatorRun) (health : LibraryHealth) (settlement : Settlement) :
    (run.settled health settlement).state.dismissedCanceled =
      run.state.dismissedCanceled := by
  obtain ⟨_, _, _, _, _, equality⟩ :=
    OperatorState.settleCompletion_eq health run.popped settlement
  simp only [settled, equality]
  rfl

theorem mem_carryWith
    {state : OperatorState} {cohortId id : CohortId} {record : TerminalRecord}
    (carried : id ∈ carryWith state cohortId record) :
    (id = cohortId ∧ record.fate = .canceled) ∨
      id ∈ state.dismissedCanceled := by
  unfold carryWith at carried
  cases fate : record.fate with
  | canceled =>
      rw [fate] at carried
      rcases mem_set.mp (mem_of_mem_evictPast carried) with same | before
      · exact Or.inl ⟨same, rfl⟩
      · exact Or.inr before
  | expired =>
      rw [fate] at carried
      exact Or.inr carried

/-- A dismissal alone changes the carry. -/
theorem dismissedCanceled_step
    {event : OperatorEvent} (keeps : event.forgets = false) :
    (run.step options event).state.dismissedCanceled =
      run.state.dismissedCanceled := by
  by_cases silent : event.writesRecords = false
  · exact (records_step silent).2
  cases event with
  | readvertiseExpired expired minted =>
      rcases step_readvertiseExpired_cases options run expired minted with
        equality | ⟨record, cohortId, -, -, -, equality⟩
      · rw [equality]
      · obtain ⟨_, -, launched⟩ :=
          launch_eq options
            { run.state with terminal := run.state.terminal.erase expired }
            cohortId record.config record.windows
        rw [equality, launched]
  | forgetTerminal cohortId health => cases keeps
  | microtask health =>
      simp only [step]
      split
      · rfl
      · exact dismissedCanceled_settled run health _
  | _ => exact absurd rfl silent

/-- And adds canceled cohorts only. -/
theorem mem_dismissedCanceled_step
    {event : OperatorEvent} {id : CohortId}
    (carried : id ∈ (run.step options event).state.dismissedCanceled) :
    id ∈ run.state.dismissedCanceled ∨
      ∃ record,
        run.state.terminal.lookup id = some record ∧
          record.fate = .canceled := by
  by_cases keeps : event.forgets = false
  · rw [dismissedCanceled_step keeps] at carried
    exact Or.inl carried
  cases event with
  | forgetTerminal cohortId health =>
      rcases step_forgetTerminal_cases options run cohortId health with
        equality | ⟨record, found, equality⟩
      · rw [equality] at carried
        exact Or.inl carried
      · rw [equality] at carried
        rcases mem_carryWith carried with ⟨rfl, canceled⟩ | before
        · exact Or.inr ⟨record, found, canceled⟩
        · exact Or.inl before
  | _ => exact absurd rfl keeps

/-- The records keep within their bound. -/
theorem size_terminal_step
    (within : run.state.terminal.size ≤ maxTerminal) (event : OperatorEvent) :
    (run.step options event).state.terminal.size ≤ maxTerminal := by
  by_cases silent : event.writesRecords = false
  · rw [(records_step silent).1]
    exact within
  cases event with
  | readvertiseExpired expired minted =>
      rcases step_readvertiseExpired_cases options run expired minted with
        equality | ⟨record, cohortId, -, -, -, equality⟩
      · rw [equality]
        exact within
      · obtain ⟨_, -, launched⟩ :=
          launch_eq options
            { run.state with terminal := run.state.terminal.erase expired }
            cohortId record.config record.windows
        rw [equality, launched]
        exact Nat.le_trans (size_erase_le _ expired) within
  | forgetTerminal cohortId health =>
      rcases step_forgetTerminal_cases options run cohortId health with
        equality | ⟨record, found, equality⟩
      · rw [equality]
        exact within
      · rw [equality]
        exact Nat.le_trans (size_erase_le _ cohortId) within
  | microtask health =>
      simp only [step]
      split
      · exact within
      · next settlement rest waiting =>
          cases files : run.filedNow? settlement with
          | none =>
              rw [terminal_settled_of_unfiled health files]
              exact within
          | some record =>
              rw [terminal_settled_of_files health files]
              exact size_evictPast_le maxTerminal _
  | _ => exact absurd rfl silent

/-- A retained record belongs to a past cohort, but for the record. -/
theorem past_dismissed
    (attributed : Attributed run) {cohortId : CohortId} {record : TerminalRecord}
    (found : run.state.terminal.lookup cohortId = some record) :
    (run.dismissed cohortId record).Past cohortId where
  ended :=
    attributed.ended_of_terminal (InsertionMap.mem_of_lookup found)
  settled :=
    attributed.notPending_of_terminal (InsertionMap.mem_of_lookup found)
  unlisted := by
    intro held
    exact (AList.mem_erase.mp held).1 rfl

end OperatorRun

/-- What a run remembers of its cancels: the records keep within their bound,
and the carry holds accepted cancels whose record is gone. -/
structure Remembers (run : OperatorRun) : Prop where
  attributed : Attributed run
  within : run.state.terminal.size ≤ maxTerminal
  accepted : ∀ id ∈ run.state.dismissedCanceled, id ∈ run.canceledOk
  past : ∀ id ∈ run.state.dismissedCanceled, run.Past id

namespace Remembers

variable {options : OperatorOptions} {run : OperatorRun}

theorem booted (settings : RuntimeSettings) :
    Remembers (OperatorRun.booted settings) where
  attributed := Attributed.booted settings
  within := Nat.zero_le maxTerminal
  accepted := by
    intro id carried
    cases carried
  past := by
    intro id carried
    cases carried

/-- What an event carries over is past once it was dismissed. -/
theorem past_step
    (remembers : Remembers run) {event : OperatorEvent} {id : CohortId}
    (carried : id ∈ (run.step options event).state.dismissedCanceled) :
    (run.step options event).Past id := by
  by_cases before : id ∈ run.state.dismissedCanceled
  · exact (remembers.past id before).step remembers.attributed event
  by_cases keeps : event.forgets = false
  · rw [OperatorRun.dismissedCanceled_step keeps] at carried
    exact absurd carried before
  cases event with
  | forgetTerminal cohortId health =>
      rcases OperatorRun.step_forgetTerminal_cases options run cohortId health with
        equality | ⟨record, found, equality⟩
      · rw [equality] at carried
        exact absurd carried before
      · rw [equality] at carried ⊢
        rcases OperatorRun.mem_carryWith carried with ⟨rfl, canceled⟩ | old
        · exact OperatorRun.past_dismissed remembers.attributed found
        · exact absurd old before
  | _ => exact absurd rfl keeps

theorem step
    (remembers : Remembers run) {event : OperatorEvent}
    (possible : offered run event) (prompt : settlesPromptly run event) :
    Remembers (run.step options event) where
  attributed := remembers.attributed.step possible prompt
  within := OperatorRun.size_terminal_step remembers.within event
  accepted := by
    intro id carried
    have after : Attributed (run.step options event) :=
      remembers.attributed.step possible prompt
    have before : id ∈ run.canceledOk := by
      rcases OperatorRun.mem_dismissedCanceled_step carried with
        old | ⟨record, found, canceled⟩
      · exact remembers.accepted id old
      · have fates := remembers.attributed.trueFates
        exact (fates.canceledIff id record found).mp canceled
    have ended := (remembers.attributed.canceledOk id).mp before
    exact
      (after.canceledOk id).mpr
        ((OperatorRun.settlesLive_step event).endings _ ended)
  past := fun _ carried => remembers.past_step carried

/-- The fate of a cohort is read off the cancels. -/
theorem cohortFate_iff
    (remembers : Remembers run) {id : CohortId} :
    cohortFate run.state id = true ↔
      id ∈ run.canceledOk ∧ id ∈ run.state.terminal ∨
        id ∈ run.state.dismissedCanceled := by
  have fates := remembers.attributed.trueFates
  unfold cohortFate
  rw [Bool.or_eq_true, decide_eq_true_eq, Option.any_eq_true]
  refine or_congr_left ?_
  constructor
  · rintro ⟨record, found, canceled⟩
    refine ⟨?_, InsertionMap.mem_of_lookup found⟩
    exact
      (fates.canceledIff id record found).mp (of_decide_eq_true canceled)
  · rintro ⟨canceled, held⟩
    obtain ⟨record, found⟩ := InsertionMap.exists_lookup_of_mem held
    refine ⟨record, found, decide_eq_true ?_⟩
    exact (fates.canceledIff id record found).mpr canceled

theorem cancelsAccepted (remembers : Remembers run) : CancelsAccepted run := by
  intro id fate
  rcases remembers.cohortFate_iff.mp fate with ⟨canceled, -⟩ | carried
  · exact canceled
  · exact remembers.accepted id carried

/-- The cancel of a dismissed record is the newest of the carry. -/
theorem mem_carryWith_self
    (remembers : Remembers run) {cohortId : CohortId}
    {record : TerminalRecord}
    (found : run.state.terminal.lookup cohortId = some record)
    (canceled : cohortId ∈ run.canceledOk) :
    cohortId ∈ carryWith run.state cohortId record := by
  have absent : cohortId ∉ run.state.dismissedCanceled := by
    intro carried
    refine (remembers.past cohortId carried).unlisted ?_
    exact InsertionMap.mem_of_lookup found
  have fates := remembers.attributed.trueFates
  have fate : record.fate = .canceled :=
    (fates.canceledIff cohortId record found).mpr canceled
  unfold carryWith
  rw [fate]
  dsimp only
  rw [AList.mem_keys, keys_evictPast, keys_set_of_notMem () absent]
  exact List.mem_cons_self

end Remembers

theorem always_remembers
    (options : OperatorOptions) (settings : RuntimeSettings) :
    (promptMachine options settings).Always Remembers := by
  refine Machine.Always.of_inductive (Remembers.booted settings) ?_
  intro run event remembers possible
  exact remembers.step possible.1 possible.2

end Accepted

end Btcr2Aggregation
