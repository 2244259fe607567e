import Btcr2Aggregation.Service.FundingWait

/-!
# What the reads of a funding wait justify

The wait ends in one of five ways, decided by flags that earlier rounds set.
Here the reads of a wait are counted beside it, and each ending is set against
what the reads of that very wait answered.  Every ending is justified by them
except one: a wait whose deadline has already passed at entry issues no read,
and still reports that it could not observe the chain.
-/

namespace Btcr2Aggregation

namespace FundingWait

section Reads

/-! ## The reads of a wait -/

/-- What a read is classified as; a failed one is not. -/
def classified (wait : FundingWait) (index : Nat) : Option FundingState :=
  (wait.answers index).map fun utxos =>
    classifyFunding wait.selectSpendableUtxo utxos wait.suggestedMinSats
      wait.beaconAddress

/-- A read after which the wait goes on: it failed, or found nothing
spendable yet. -/
def GoesOn (wait : FundingWait) (index : Nat) : Prop :=
  wait.classified index = none ∨
    wait.classified index = some .waiting ∨
    wait.classified index = some .awaitingConfirmation

/-- How many reads were issued, before these rounds and in them. -/
def polls (wait : FundingWait) : (fuel index now : Nat) → Nat
  | 0, index, _ => index
  | fuel + 1, index, now =>
      if wait.isOpen now ∧ ¬ wait.aborted now then
        match wait.classified index with
        | some (.funded _) | some (.deadEnd _) => index + 1
        | _ =>
            wait.polls fuel (index + 1)
              (wait.sleepUntil (now + wait.latencyMs index))
      else
        index

/-- What the latest read left in `lastObservationOk`. -/
def Remembers (wait : FundingWait) (lastObservationOk : Bool) : Nat → Prop
  | 0 => lastObservationOk = false
  | last + 1 =>
      if lastObservationOk then
        wait.classified last = some .waiting ∨
          wait.classified last = some .awaitingConfirmation
      else
        wait.classified last = none

end Reads

section Verdicts

/-! ## Justified verdicts -/

/-- What the first `count` reads say about a verdict. -/
def Justifies
    (wait : FundingWait) (count : Nat) (settled : FundingSettled) : Prop :=
  match settled.verdict with
  | .funded selected =>
      ∃ index, index < count ∧
        wait.classified index = some (.funded selected)
  | .deadEnd selected =>
      ∃ last, count = last + 1 ∧
        wait.classified last = some (.deadEnd selected)
  | .neverArrived =>
      ∃ last, count = last + 1 ∧
        (wait.classified last = some .waiting ∨
          wait.classified last = some .awaitingConfirmation)
  | .couldNotObserve =>
      ∃ last, count = last + 1 ∧ wait.classified last = none
  | .stopped => wait.aborted settled.atMs = true

/-- One round, by what its read is classified as. -/
theorem rounds_succ
    (wait : FundingWait) (fuel index now : Nat) (lastObservationOk : Bool) :
    wait.rounds (fuel + 1) index now lastObservationOk =
      if wait.isOpen now then
        if wait.aborted now then
          some ⟨now, .stopped⟩
        else
          match wait.classified index with
          | none =>
              wait.rounds fuel (index + 1)
                (wait.sleepUntil (now + wait.latencyMs index)) false
          | some (.funded selected) =>
              some ⟨now + wait.latencyMs index, .funded selected⟩
          | some (.deadEnd selected) =>
              some ⟨now + wait.latencyMs index, .deadEnd selected⟩
          | some _ =>
              wait.rounds fuel (index + 1)
                (wait.sleepUntil (now + wait.latencyMs index)) true
      else if wait.aborted now then
        some ⟨now, .stopped⟩
      else if lastObservationOk then
        some ⟨now, .neverArrived⟩
      else
        some ⟨now, .couldNotObserve⟩ := by
  rw [rounds, classified]
  cases wait.answers index with
  | none => rfl
  | some utxos =>
      simp only [Option.map_some]
      cases
        classifyFunding wait.selectSpendableUtxo utxos wait.suggestedMinSats
          wait.beaconAddress with
      | waiting => rfl
      | awaitingConfirmation => rfl
      | funded selected => rfl
      | deadEnd selected => rfl

/-- The rounds end in a verdict that the reads justify, unless they end before
the first read. -/
theorem justifies_of_rounds
    {wait : FundingWait} {settled : FundingSettled} (fuel : Nat) :
    ∀ index now lastObservationOk,
      wait.Remembers lastObservationOk index →
        wait.rounds fuel index now lastObservationOk = some settled →
          wait.Justifies (wait.polls fuel index now) settled ∨
            index = 0 ∧ wait.isOpen now = false := by
  induction fuel with
  | zero =>
      intro index now lastObservationOk _ ended
      cases ended
  | succ fuel inductionHypothesis =>
      intro index now lastObservationOk remembers ended
      rw [rounds_succ] at ended
      by_cases stillOpen : wait.isOpen now = true
      · left
        by_cases aborted : wait.aborted now = true
        · rw [if_pos stillOpen, if_pos aborted] at ended
          cases ended
          exact aborted
        · rw [if_pos stillOpen, if_neg aborted] at ended
          rw [polls, if_pos ⟨stillOpen, aborted⟩]
          have later :
              ∀ observed,
                wait.Remembers observed (index + 1) →
                  wait.rounds fuel (index + 1)
                        (wait.sleepUntil (now + wait.latencyMs index))
                        observed = some settled →
                    wait.Justifies
                      (wait.polls fuel (index + 1)
                        (wait.sleepUntil (now + wait.latencyMs index)))
                      settled := by
            intro observed recalled rest
            rcases inductionHypothesis _ _ _ recalled rest with
              justified | ⟨first, -⟩
            · exact justified
            · omega
          cases read : wait.classified index with
          | none =>
              rw [read] at ended
              exact later false read ended
          | some state =>
              rw [read] at ended
              cases state with
              | waiting => exact later true (Or.inl read) ended
              | awaitingConfirmation => exact later true (Or.inr read) ended
              | funded selected =>
                  cases ended
                  exact ⟨index, Nat.lt_succ_self index, read⟩
              | deadEnd selected =>
                  cases ended
                  exact ⟨index, rfl, read⟩
      · rw [Bool.not_eq_true] at stillOpen
        cases index with
        | zero => exact Or.inr ⟨rfl, stillOpen⟩
        | succ last =>
            left
            have counted : wait.polls (fuel + 1) (last + 1) now = last + 1 := by
              rw [polls, if_neg (by simp [stillOpen])]
            rw [stillOpen, if_neg Bool.false_ne_true] at ended
            rw [counted]
            by_cases aborted : wait.aborted now = true
            · rw [if_pos aborted] at ended
              cases ended
              exact aborted
            · rw [if_neg aborted] at ended
              cases lastObservationOk with
              | true =>
                  cases ended
                  exact ⟨last, rfl, remembers⟩
              | false =>
                  cases ended
                  exact ⟨last, rfl, remembers⟩

end Verdicts

section Entry

/-! ## The deadline at entry -/

/-- Every verdict of a wait is justified by the reads it made. -/
def VerdictsJustified (wait : FundingWait) : Prop :=
  ∀ fuel settled,
    waitForFunding wait fuel = some settled →
      wait.Justifies (wait.polls fuel 0 wait.startMs) settled

theorem isOpen_startMs_iff (wait : FundingWait) :
    wait.isOpen wait.startMs = true ↔ ((0 : ℚ) : WithTop ℚ) < wait.deadlineMs := by
  rw [isOpen, decide_eq_true_iff, sub_self]

/-- A wait that is open at entry, or stopped by then, justifies its verdict;
any other one reports a chain it never looked at. -/
theorem verdictsJustified_iff_open (wait : FundingWait) :
    wait.VerdictsJustified ↔
      wait.isOpen wait.startMs = true ∨ wait.aborted wait.startMs = true := by
  constructor
  · intro justified
    by_contra neither
    obtain ⟨closed, running⟩ := not_or.mp neither
    have unread : wait.polls 1 0 wait.startMs = 0 := by
      rw [polls, if_neg (fun both => closed both.1)]
    have ended :
        waitForFunding wait 1 = some ⟨wait.startMs, .couldNotObserve⟩ := by
      rw [waitForFunding, rounds_succ, if_neg closed, if_neg running]
      rfl
    obtain ⟨last, counted, -⟩ := justified 1 _ ended
    rw [unread] at counted
    omega
  · intro entry fuel settled ended
    rcases justifies_of_rounds fuel 0 wait.startMs false rfl ended with
      justified | ⟨-, closed⟩
    · exact justified
    · have aborted : wait.aborted wait.startMs = true := by
        rcases entry with stillOpen | aborted
        · rw [closed] at stillOpen
          cases stillOpen
        · exact aborted
      cases fuel with
      | zero => cases ended
      | succ fuel =>
          rw [waitForFunding, rounds_succ, closed,
            if_neg Bool.false_ne_true, if_pos aborted] at ended
          cases ended
          exact aborted

end Entry

end FundingWait

section Inputs

/-! ## The clamp inputs -/

/-- There is time left at entry: a finite window is positive, and the finite
rest of a TTL exceeds the slack. -/
structure FundingDeadlineInput.HasTime (input : FundingDeadlineInput) : Prop where
  window : ∀ ms, input.configuredWindowMs = some (.finite ms) → 0 < ms
  ttl : ∀ ms, input.remainingTtlMs = some (.finite ms) → input.slackMs < ms

theorem deadlineMs_pos_iff (input : FundingDeadlineInput) :
    ((0 : ℚ) : WithTop ℚ) < (computeFundingDeadline input).deadlineMs ↔
      input.HasTime := by
  have windowLeg :
      ((0 : ℚ) : WithTop ℚ) < input.windowLeg ↔
        ∀ ms, input.configuredWindowMs = some (.finite ms) → 0 < ms := by
    simp only [FundingDeadlineInput.windowLeg]
    split
    · next ms configured => simp [configured]
    · next unbounded =>
        refine ⟨fun _ ms configured => absurd configured (unbounded ms), ?_⟩
        exact fun _ => WithTop.coe_lt_top 0
  have ttlLeg :
      ((0 : ℚ) : WithTop ℚ) < input.ttlLeg ↔
        ∀ ms, input.remainingTtlMs = some (.finite ms) → input.slackMs < ms := by
    simp only [FundingDeadlineInput.ttlLeg, FundingDeadlineInput.ttlLeg?]
    split
    · next leg finite =>
        split at finite
        · next ms remaining =>
            cases finite
            rw [WithTop.coe_lt_coe, lt_max_iff, sub_pos]
            simp [remaining]
        · cases finite
    · next absent =>
        split at absent
        · cases absent
        · next unbounded =>
            refine ⟨fun _ ms remaining => absurd remaining (unbounded ms), ?_⟩
            exact fun _ => WithTop.coe_lt_top 0
  rw [computeFundingDeadline, lt_min_iff, windowLeg, ttlLeg]
  exact ⟨fun both => ⟨both.1, both.2⟩, fun both => ⟨both.window, both.ttl⟩⟩

/-- The wait with the deadline its service computes for it. -/
def FundingWait.clamped
    (wait : FundingWait) (input : FundingDeadlineInput) : FundingWait :=
  { wait with deadlineMs := (computeFundingDeadline input).deadlineMs }

/-- Whatever the window, the rest of the TTL, the poll interval and the
schedule of answers and of an abort: every verdict is justified exactly when
there is time left at entry or the service has stopped by then. -/
theorem verdictsJustified_iff
    (wait : FundingWait) (input : FundingDeadlineInput) :
    (wait.clamped input).VerdictsJustified ↔
      input.HasTime ∨ wait.aborted wait.startMs = true := by
  rw [FundingWait.verdictsJustified_iff_open, FundingWait.isOpen_startMs_iff]
  exact or_congr_left (deadlineMs_pos_iff input)

/-- A wait over an address that is always funded. -/
def fundedWait : FundingWait where
  selectSpendableUtxo utxos _ := utxos.head?
  beaconAddress := "bcrt1p"
  suggestedMinSats := computeSuggestedMinSats none
  deadlineMs := 0
  startMs := 0
  pollIntervalMs := 5000
  latencyMs _ := 100
  answers _ := some [⟨"aa", 0, 5000, true, some 1⟩]
  abortedAtMs := none

/-- A cohort with five seconds of its TTL left: the wait reports that it could
not observe the chain after no read at all. -/
theorem unread_reported_unobserved :
    let input : FundingDeadlineInput :=
      ⟨some (.finite 720000), some (.finite 5000), fundingSlackMs⟩
    waitForFunding (fundedWait.clamped input) 1 =
        some ⟨0, .couldNotObserve⟩ ∧
      (fundedWait.clamped input).polls 1 0 0 = 0 ∧
      ¬ (fundedWait.clamped input).VerdictsJustified := by
  intro input
  have ended :
      waitForFunding (fundedWait.clamped input) 1 =
        some ⟨0, .couldNotObserve⟩ := by
    decide +kernel
  have unread : (fundedWait.clamped input).polls 1 0 0 = 0 := by
    decide +kernel
  refine ⟨ended, unread, ?_⟩
  intro justified
  obtain ⟨last, counted, -⟩ := justified 1 _ ended
  have none : (fundedWait.clamped input).polls 1 0 0 = last + 1 := counted
  omega

end Inputs

end Btcr2Aggregation
