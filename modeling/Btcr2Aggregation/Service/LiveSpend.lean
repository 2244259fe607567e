import Btcr2Aggregation.Service.FundingVerdicts
import Mathlib.Data.List.MinMax

/-!
# What a live plan spends

`makeProvideTxData` reads the beacon address until a pre-flight passes, and the
builder then reads it once more and spends what it selects there.  Between the
two reads the set can change.  This module says when the spent output still
meets the floor that the pre-flight checked.
-/

namespace Btcr2Aggregation

section Provide

/-! ## The hand-off -/

/-- `buildAggregationBeaconTx` with the selection it shares with the pre-flight.
It reads the address itself and spends what it selects from its own read. -/
structure BeaconTxBuilder where
  Plan : Type
  spent : Plan → AddressUtxo
  selectSpendableUtxo : UtxoSelection
  /-- The reason of a selection that throws. -/
  selectionFailure : List AddressUtxo → String → String
  build : List AddressUtxo → String → Except String Plan
  selects :
    ∀ utxos beaconAddress plan,
      build utxos beaconAddress = .ok plan →
        selectSpendableUtxo utxos beaconAddress = some (spent plan)

/-- The live configuration as one cohort sees it. -/
structure LiveTxConfig where
  fundingWindowMs : Option JsNumber
  cohortFundingWindowMs : Option JsNumber
  remainingCohortTtlMs : Option JsNumber
  fundingPollIntervalMs : Option Nat
  fundingSlackMs : Option ℚ
  abortedAtMs : Option Nat

/-- What the chain returns to successive reads of the beacon address, and how
long each read takes. -/
structure ChainReads where
  getUtxos : Nat → Except String (List AddressUtxo)
  latencyMs : Nat → Nat

/-- What the hand-off returns. -/
inductive SigningTxData (Plan : Type) where
  | fixture
  | live (plan : Plan)

namespace LiveTxConfig

/-- Whether a funding window opens the wait. -/
def waits (live : LiveTxConfig) : Bool :=
  live.fundingWindowMs.isSome || live.cohortFundingWindowMs.isSome

/-- The wait of one hand-off. -/
def fundingWait
    (live : LiveTxConfig) (selectSpendableUtxo : UtxoSelection)
    (reads : ChainReads) (beaconAddress : String) (startMs : Nat) :
    FundingWait where
  selectSpendableUtxo
  beaconAddress
  suggestedMinSats := computeSuggestedMinSats none
  deadlineMs :=
    (computeFundingDeadline {
      configuredWindowMs := live.cohortFundingWindowMs.or live.fundingWindowMs
      remainingTtlMs := live.remainingCohortTtlMs
      slackMs := live.fundingSlackMs.getD Btcr2Aggregation.fundingSlackMs
    }).deadlineMs
  startMs
  pollIntervalMs := live.fundingPollIntervalMs.getD 5000
  latencyMs := reads.latencyMs
  answers index := (reads.getUtxos index).toOption
  abortedAtMs := live.abortedAtMs

end LiveTxConfig

/-- The single-shot pre-flight over one read. -/
def preflight
    (builder : BeaconTxBuilder) (suggestedMinSats : Nat)
    (beaconAddress : String) (utxos : List AddressUtxo) : Except String Unit :=
  if utxos = [] then
    .error
      ("live beacon tx: cohort beacon address " ++ beaconAddress ++
        " has no UTXOs; fund it (operator-funded model) before running a " ++
        "live cohort")
  else
    match builder.selectSpendableUtxo utxos beaconAddress with
    | none =>
        .error
          ("live beacon tx: cohort beacon address " ++ beaconAddress ++
            " has no spendable UTXO: " ++
            builder.selectionFailure utxos beaconAddress)
    | some selected =>
        if selected.value < suggestedMinSats then
          .error
            (((FundingVerdict.deadEnd selected).reason? beaconAddress
              suggestedMinSats).getD "")
        else
          .ok ()

/-- The builder's own read, and what it makes of it. -/
def buildFrom
    (builder : BeaconTxBuilder) (reads : ChainReads) (beaconAddress : String)
    (index : Nat) : Except String (SigningTxData builder.Plan) := do
  let utxos ← reads.getUtxos index
  let plan ← builder.build utxos beaconAddress
  return .live plan

/-- `makeProvideTxData`; `none` while the wait goes on past the fuel. -/
def makeProvideTxData
    (builder : BeaconTxBuilder) (live : Option LiveTxConfig)
    (reads : ChainReads) (cohortKnown : Bool)
    (fixture : Except String Unit) (cohortId beaconAddress : String)
    (startMs fuel : Nat) :
    Option (Except String (SigningTxData builder.Plan)) :=
  if cohortKnown then
    match live with
    | none => some (fixture.map fun _ => .fixture)
    | some live =>
        if live.waits then
          let wait :=
            live.fundingWait builder.selectSpendableUtxo reads beaconAddress
              startMs
          (waitForFunding wait fuel).map fun settled =>
            match
              settled.verdict.reason? beaconAddress wait.suggestedMinSats with
            | some reason => .error reason
            | none =>
                buildFrom builder reads beaconAddress
                  (wait.polls fuel 0 startMs)
        else
          some do
            let utxos ← reads.getUtxos 0
            preflight builder (computeSuggestedMinSats none) beaconAddress utxos
            buildFrom builder reads beaconAddress 1
  else
    some (.error ("onProvideTxData: unknown cohort " ++ cohortId))

end Provide

section Rounds

/-! ## The read that passes -/

namespace FundingWait

/-- When a round starts, as long as the rounds before it go on. -/
def roundAt (wait : FundingWait) : Nat → Nat
  | 0 => wait.startMs
  | index + 1 =>
      wait.sleepUntil (wait.roundAt index + wait.latencyMs index)

/-- A round starts before the deadline and on a running service. -/
def InTime (wait : FundingWait) (index : Nat) : Prop :=
  wait.isOpen (wait.roundAt index) = true ∧
    ¬ wait.aborted (wait.roundAt index) = true

/-- A read is the first to decide, and it finds the address funded. -/
structure PassesAt (wait : FundingWait) (index : Nat) : Prop where
  inTime : ∀ earlier ≤ index, wait.InTime earlier
  goesOn : ∀ earlier < index, wait.GoesOn earlier
  funded : ∃ selected, wait.classified index = some (.funded selected)

/-- A round that goes on leads to the next one. -/
theorem rounds_of_goesOn
    {wait : FundingWait} {index : Nat}
    (inTime : wait.InTime index) (goesOn : wait.GoesOn index)
    (fuel : Nat) (lastObservationOk : Bool) :
    ∃ observed,
      wait.rounds (fuel + 1) index (wait.roundAt index) lastObservationOk =
          wait.rounds fuel (index + 1) (wait.roundAt (index + 1)) observed ∧
        wait.polls (fuel + 1) index (wait.roundAt index) =
          wait.polls fuel (index + 1) (wait.roundAt (index + 1)) := by
  rw [rounds_succ, polls, if_pos inTime.1, if_neg inTime.2,
    if_pos ⟨inTime.1, inTime.2⟩]
  rcases goesOn with failed | waiting | awaiting
  · rw [failed]
    exact ⟨false, rfl, rfl⟩
  · rw [waiting]
    exact ⟨true, rfl, rfl⟩
  · rw [awaiting]
    exact ⟨true, rfl, rfl⟩

/-- A round in time whose read finds the address funded is the last one. -/
theorem rounds_of_funded
    {wait : FundingWait} {index : Nat} {selected : AddressUtxo}
    (inTime : wait.InTime index)
    (funded : wait.classified index = some (.funded selected))
    (fuel : Nat) (lastObservationOk : Bool) :
    wait.rounds (fuel + 1) index (wait.roundAt index) lastObservationOk =
        some ⟨wait.roundAt index + wait.latencyMs index, .funded selected⟩ ∧
      wait.polls (fuel + 1) index (wait.roundAt index) = index + 1 := by
  rw [rounds_succ, polls, if_pos inTime.1, if_neg inTime.2,
    if_pos ⟨inTime.1, inTime.2⟩, funded]
  exact ⟨rfl, rfl⟩

/-- Rounds that end funded end at a read that passes. -/
theorem passesAt_of_rounds
    {wait : FundingWait} {atMs : Nat} {selected : AddressUtxo} (fuel : Nat) :
    ∀ index lastObservationOk,
      (∀ earlier < index, wait.InTime earlier ∧ wait.GoesOn earlier) →
        wait.rounds fuel index (wait.roundAt index) lastObservationOk =
            some ⟨atMs, .funded selected⟩ →
          ∃ last,
            wait.PassesAt last ∧
              wait.polls fuel index (wait.roundAt index) = last + 1 := by
  induction fuel with
  | zero =>
      intro index lastObservationOk _ ended
      cases ended
  | succ fuel inductionHypothesis =>
      intro index lastObservationOk history ended
      have inTime : wait.InTime index := by
        rw [rounds_succ] at ended
        by_cases stillOpen : wait.isOpen (wait.roundAt index) = true
        · refine ⟨stillOpen, ?_⟩
          intro aborted
          rw [if_pos stillOpen, if_pos aborted] at ended
          cases ended
        · rw [if_neg stillOpen] at ended
          split at ended
          · cases ended
          · split at ended <;> cases ended
      have upTo : ∀ earlier ≤ index, wait.InTime earlier := by
        intro earlier within
        rcases Nat.lt_or_eq_of_le within with before | rfl
        · exact (history earlier before).1
        · exact inTime
      have onward :
          wait.GoesOn index →
            ∃ last,
              wait.PassesAt last ∧
                wait.polls (fuel + 1) index (wait.roundAt index) =
                  last + 1 := by
        intro goesOn
        obtain ⟨observed, round, counted⟩ :=
          rounds_of_goesOn inTime goesOn fuel lastObservationOk
        rw [counted]
        rw [round] at ended
        apply inductionHypothesis (index + 1) observed _ ended
        intro earlier before
        rcases Nat.lt_succ_iff_lt_or_eq.mp before with earlier | rfl
        · exact history _ earlier
        · exact ⟨inTime, goesOn⟩
      cases read : wait.classified index with
      | none => exact onward (Or.inl read)
      | some state =>
          cases state with
          | waiting => exact onward (Or.inr (Or.inl read))
          | awaitingConfirmation => exact onward (Or.inr (Or.inr read))
          | funded found =>
              have passes : wait.PassesAt index :=
                ⟨upTo, fun earlier before => (history earlier before).2,
                  found, read⟩
              exact ⟨index, passes, (rounds_of_funded inTime read fuel
                lastObservationOk).2⟩
          | deadEnd found =>
              rw [rounds_succ, if_pos inTime.1, if_neg inTime.2, read] at ended
              cases ended

/-- A read that passes ends the rounds that lead to it. -/
theorem rounds_of_passesAt
    {wait : FundingWait} {last : Nat} (passes : wait.PassesAt last)
    (remaining : Nat) :
    ∀ index lastObservationOk,
      index + remaining = last →
        ∃ atMs selected,
          wait.rounds (remaining + 1) index (wait.roundAt index)
              lastObservationOk = some ⟨atMs, .funded selected⟩ ∧
            wait.polls (remaining + 1) index (wait.roundAt index) =
              last + 1 := by
  induction remaining with
  | zero =>
      intro index lastObservationOk same
      have atLast : index = last := by
        omega
      subst atLast
      obtain ⟨selected, read⟩ := passes.funded
      obtain ⟨round, counted⟩ :=
        rounds_of_funded (passes.inTime index (le_refl index)) read 0
          lastObservationOk
      exact ⟨_, selected, round, counted⟩
  | succ remaining inductionHypothesis =>
      intro index lastObservationOk same
      obtain ⟨observed, round, counted⟩ :=
        rounds_of_goesOn (passes.inTime index (by omega))
          (passes.goesOn index (by omega)) (remaining + 1) lastObservationOk
      rw [round, counted]
      exact inductionHypothesis (index + 1) observed (by omega)

end FundingWait

end Rounds

section Floor

/-! ## The floor -/

variable
  (builder : BeaconTxBuilder)
  (live : LiveTxConfig)
  (reads : ChainReads)
  (beaconAddress : String)
  (startMs : Nat)

/-- A read on which the pre-flight passes: of the wait where a window opens it,
else the one single shot. -/
def LiveTxConfig.PreflightPasses (index : Nat) : Prop :=
  let wait :=
    live.fundingWait builder.selectSpendableUtxo reads beaconAddress startMs
  if live.waits then
    wait.PassesAt index
  else
    index = 0 ∧ ∃ selected, wait.classified 0 = some (.funded selected)

/-- The set right after a passed pre-flight is no dead end: where its selected
output is below the floor, the builder refuses it. -/
def LiveTxConfig.FloorHolds : Prop :=
  ∀ index,
    live.PreflightPasses builder reads beaconAddress startMs index →
      ∀ utxos selected,
        reads.getUtxos (index + 1) = .ok utxos →
          builder.selectSpendableUtxo utxos beaconAddress = some selected →
            selected.value < computeSuggestedMinSats none →
              (builder.build utxos beaconAddress).isOk = false

/-- A single-shot pre-flight passes exactly when its set classifies as
funded. -/
theorem preflight_eq_ok_iff
    (utxos : List AddressUtxo) (suggestedMinSats : Nat) :
    preflight builder suggestedMinSats beaconAddress utxos = .ok () ↔
      ∃ selected,
        classifyFunding builder.selectSpendableUtxo utxos suggestedMinSats
          beaconAddress = .funded selected := by
  rw [preflight, classifyFunding]
  by_cases empty : utxos = []
  · simp [empty]
  · rw [if_neg empty, if_neg empty]
    cases builder.selectSpendableUtxo utxos beaconAddress with
    | none =>
        simp only [reduceCtorEq, false_iff, not_exists]
        intro selected
        split <;> simp
    | some selected =>
        by_cases short : selected.value < suggestedMinSats
        · simp [short]
        · simp [short]

/-- The builder's own read returns the plan it builds. -/
theorem buildFrom_eq_live_iff
    {builder : BeaconTxBuilder} {index : Nat} {plan : builder.Plan} :
    buildFrom builder reads beaconAddress index = .ok (.live plan) ↔
      ∃ utxos,
        reads.getUtxos index = .ok utxos ∧
          builder.build utxos beaconAddress = .ok plan := by
  rw [buildFrom]
  cases reads.getUtxos index with
  | error reason => simp [bind, Except.bind]
  | ok utxos =>
      cases built : builder.build utxos beaconAddress with
      | error reason => simp [bind, Except.bind, built]
      | ok made => simp [bind, Except.bind, pure, Except.pure, built]

/-- A live plan is built from the read right after a passed pre-flight, and
every such read the builder builds from gives one. -/
theorem makeProvideTxData_eq_live_iff
    {builder : BeaconTxBuilder} {live : LiveTxConfig} {reads : ChainReads}
    {fixture : Except String Unit} {cohortId beaconAddress : String}
    {startMs : Nat} {plan : builder.Plan} :
    (∃ fuel,
      makeProvideTxData builder (some live) reads true fixture cohortId
        beaconAddress startMs fuel = some (.ok (.live plan))) ↔
      ∃ index,
        live.PreflightPasses builder reads beaconAddress startMs index ∧
          buildFrom builder reads beaconAddress (index + 1) =
            .ok (.live plan) := by
  simp only [makeProvideTxData, if_true, LiveTxConfig.PreflightPasses]
  by_cases waits : live.waits = true
  · simp only [if_pos waits]
    constructor
    · rintro ⟨fuel, provided⟩
      obtain ⟨settled, ended, returned⟩ := Option.map_eq_some_iff.mp provided
      obtain ⟨atMs, verdict⟩ := settled
      cases verdict with
      | funded selected =>
          obtain ⟨last, passes, counted⟩ :=
            FundingWait.passesAt_of_rounds fuel 0 false
              (fun earlier before => absurd before (Nat.not_lt_zero earlier))
              ended
          refine ⟨last, passes, ?_⟩
          rw [← counted]
          exact returned
      | deadEnd selected => cases returned
      | neverArrived => cases returned
      | couldNotObserve => cases returned
      | stopped => cases returned
    · rintro ⟨last, passes, built⟩
      obtain ⟨atMs, selected, ended, counted⟩ :=
        FundingWait.rounds_of_passesAt passes last 0 false (Nat.zero_add last)
      refine ⟨last + 1, Option.map_eq_some_iff.mpr ⟨_, ended, ?_⟩⟩
      exact (congrArg (buildFrom builder reads beaconAddress) counted).trans
        built
  · simp only [if_neg waits, exists_const, Option.some_inj]
    have classified :
        ∀ utxos,
          reads.getUtxos 0 = .ok utxos →
            (live.fundingWait builder.selectSpendableUtxo reads beaconAddress
              startMs).classified 0 =
                some
                  (classifyFunding builder.selectSpendableUtxo utxos
                    (computeSuggestedMinSats none) beaconAddress) := by
      intro utxos read
      simp [FundingWait.classified, LiveTxConfig.fundingWait, read,
        Except.toOption]
    cases read : reads.getUtxos 0 with
    | error reason =>
        have unread :
            (live.fundingWait builder.selectSpendableUtxo reads beaconAddress
              startMs).classified 0 = none := by
          simp [FundingWait.classified, LiveTxConfig.fundingWait, read,
            Except.toOption]
        simp [bind, Except.bind, unread]
    | ok utxos =>
        have passed :=
          preflight_eq_ok_iff builder beaconAddress utxos
            (computeSuggestedMinSats none)
        simp only [bind, Except.bind, classified utxos read, Option.some_inj,
          ← passed]
        cases checked :
            preflight builder (computeSuggestedMinSats none) beaconAddress
              utxos with
        | error reason => simp
        | ok _ => simp

/-- Over every sequence of sets, windows and schedules: a live plan spends at
least the suggested minimum exactly when the set right after a passed pre-flight
is never a dead end that the builder builds from. -/
theorem live_spend_meets_floor_iff
    (fixture : Except String Unit) (cohortId : String) :
    (∀ fuel plan,
      makeProvideTxData builder (some live) reads true fixture cohortId
          beaconAddress startMs fuel = some (.ok (.live plan)) →
        computeSuggestedMinSats none ≤ (builder.spent plan).value) ↔
      live.FloorHolds builder reads beaconAddress startMs := by
  constructor
  · intro meets index passes utxos selected read selects short
    cases built : builder.build utxos beaconAddress with
    | error reason => rfl
    | ok plan =>
        exfalso
        have live_plan :
            buildFrom builder reads beaconAddress (index + 1) =
              .ok (.live plan) :=
          (buildFrom_eq_live_iff reads beaconAddress).mpr ⟨utxos, read, built⟩
        obtain ⟨fuel, provided⟩ :=
          makeProvideTxData_eq_live_iff.mpr ⟨index, passes, live_plan⟩
        have enough := meets fuel plan provided
        have same := builder.selects utxos beaconAddress plan built
        rw [selects, Option.some_inj] at same
        rw [← same] at enough
        omega
  · intro holds fuel plan provided
    obtain ⟨index, passes, built⟩ :=
      makeProvideTxData_eq_live_iff.mp ⟨fuel, provided⟩
    obtain ⟨utxos, read, made⟩ := (buildFrom_eq_live_iff reads beaconAddress).mp built
    have selects := builder.selects utxos beaconAddress plan made
    by_contra short
    have refused :=
      holds index passes utxos _ read selects (by omega)
    rw [made] at refused
    cases refused

end Floor

section Moved

/-! ## A set that moves between the two reads -/

/-- The deepest confirmed output above dust. -/
def selectDeepest (utxos : List AddressUtxo) : Option AddressUtxo :=
  (utxos.filter fun utxo =>
    utxo.confirmed && decide (546 < utxo.value)).argmin fun utxo =>
      utxo.blockHeight.getD 0

/-- A builder that spends the deepest output. -/
def deepestBuilder : BeaconTxBuilder where
  Plan := AddressUtxo
  spent := id
  selectSpendableUtxo utxos _ := selectDeepest utxos
  selectionFailure _ _ := "no spendable UTXO"
  build utxos _ := (selectDeepest utxos).elim (.error "no spendable UTXO") .ok
  selects utxos beaconAddress plan built := by
    cases found : selectDeepest utxos with
    | none =>
        rw [found] at built
        cases built
    | some utxo =>
        rw [found] at built
        cases built
        rfl

/-- The first read finds one adequate output; a reorganisation then leaves a
deeper one of 1500 sats beside it. -/
def reorganisedReads : ChainReads where
  getUtxos
    | 0 => .ok [⟨"aa", 0, 5000, true, some 100⟩]
    | _ + 1 =>
        .ok [⟨"aa", 0, 5000, true, some 100⟩, ⟨"bb", 0, 1500, true, some 90⟩]
  latencyMs _ := 100

def twelveMinutes : LiveTxConfig where
  fundingWindowMs := some (.finite 720000)
  cohortFundingWindowMs := none
  remainingCohortTtlMs := none
  fundingPollIntervalMs := none
  fundingSlackMs := none
  abortedAtMs := none

/-- The wait returns on 5000 sats, and the plan spends 1500. -/
theorem moved_set_spends_below_floor :
    ∃ plan,
      makeProvideTxData deepestBuilder (some twelveMinutes) reorganisedReads
          true (.ok ()) "c1" "bcrt1p" 0 1 = some (.ok (.live plan)) ∧
        (deepestBuilder.spent plan).value < computeSuggestedMinSats none := by
  refine ⟨(⟨"bb", 0, 1500, true, some 90⟩ : AddressUtxo), ?_, ?_⟩
  · have ended :
        waitForFunding
            (twelveMinutes.fundingWait deepestBuilder.selectSpendableUtxo
              reorganisedReads "bcrt1p" 0) 1 =
          some ⟨100, .funded ⟨"aa", 0, 5000, true, some 100⟩⟩ := by
      decide +kernel
    have counted :
        (twelveMinutes.fundingWait deepestBuilder.selectSpendableUtxo
          reorganisedReads "bcrt1p" 0).polls 1 0 0 = 1 := by
      decide +kernel
    rw [makeProvideTxData]
    simp only [ended]
    exact congrArg
      (fun index =>
        some (buildFrom deepestBuilder reorganisedReads "bcrt1p" index))
      counted
  · decide

end Moved

end Btcr2Aggregation
