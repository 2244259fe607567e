import Btcr2Aggregation.Service.FundingWait

/-!
# The funding wait against its cohort's clocks

A scenario fixes one cohort on a broadcasting service: the clocks the library
and the app arm for it, the windows it was advertised with, the stamp the
deadline is computed from, and how long every read takes.  The wait is in time
when it settles strictly before each armed clock whatever the chain answers, and
when the truncated window shown to the operator does not outlive the cohort.
-/

namespace Btcr2Aggregation

/-- One cohort's funding phase. -/
structure FundingScenario where
  cohortTtlMs : Option ℚ
  phaseTimeoutMs : Option ℚ
  serviceFundingWindowMs : Option ℚ
  windows : CohortWindows
  advertisedAtMs : Nat
  /-- What the stamp table holds for the cohort. -/
  stamp : Option Nat
  keygenAtMs : Nat
  /-- Entry to the funding phase, where the wait starts. -/
  startMs : Nat
  pollIntervalMs : Nat
  latencyMs : Nat → Nat

namespace FundingScenario

section Clocks

/-! ## Deadlines and clocks -/

/-- The cohort's own funding window, else the service default. -/
def configuredWindowMs (scenario : FundingScenario) : Option ℚ :=
  match scenario.windows.fundingWindowMs with
  | some ms => some ms
  | none => scenario.serviceFundingWindowMs

/-- What is left of the TTL, reckoned from the stamp. -/
def remainingTtlMs (scenario : FundingScenario) (now : Nat) : Option ℚ :=
  match scenario.cohortTtlMs, scenario.stamp with
  | some ttl, some stamp => some (ttl - ((now : ℚ) - stamp))
  | _, _ => none

def deadlineInput (scenario : FundingScenario) (now : Nat) :
    FundingDeadlineInput where
  configuredWindowMs := scenario.configuredWindowMs.map .finite
  remainingTtlMs := (scenario.remainingTtlMs now).map .finite
  slackMs := fundingSlackMs

/-- The call the tx-data hand-off makes on a service that keeps running. -/
def wait
    (scenario : FundingScenario) (selectSpendableUtxo : UtxoSelection)
    (beaconAddress : String) (answers : Nat → Option (List AddressUtxo)) :
    FundingWait where
  selectSpendableUtxo
  beaconAddress
  suggestedMinSats := computeSuggestedMinSats none
  deadlineMs :=
    (computeFundingDeadline (scenario.deadlineInput scenario.startMs)).deadlineMs
  startMs := scenario.startMs
  pollIntervalMs := scenario.pollIntervalMs
  latencyMs := scenario.latencyMs
  answers
  abortedAtMs := none

/-- The truncated window disclosed when keygen completes, in ms. -/
def shownWindowMs? (scenario : FundingScenario) : Option Nat :=
  (computeFundingDeadline
    (scenario.deadlineInput scenario.keygenAtMs)).truncatedWindowMin.map
      (60000 * ·)

def ttlClock? (scenario : FundingScenario) : Option ℚ :=
  scenario.cohortTtlMs.map (scenario.advertisedAtMs + ·)

def phaseClock? (scenario : FundingScenario) : Option ℚ :=
  scenario.phaseTimeoutMs.map (scenario.startMs + ·)

/-- The discovery-window timer.  Nothing clears it when the cohort fills, and
its delay is handed to `setTimeout` as it is. -/
def discoveryClock? (scenario : FundingScenario) : Option ℚ :=
  (windowTimerDelay? (scenario.cohortTtlMs.map .finite)
    scenario.windows.discoveryWindowMs).map fun delay =>
      ((scenario.advertisedAtMs + timerDelay delay : Nat) : ℚ)

/-- Every clock that can end the cohort. -/
def clocks (scenario : FundingScenario) : List ℚ :=
  scenario.ttlClock?.toList ++ scenario.phaseClock?.toList ++
    scenario.discoveryClock?.toList

end Clocks

section InTime

/-! ## Being in time -/

/-- Whatever the chain answers, the wait settles strictly before each clock. -/
def SettlesFirst (scenario : FundingScenario) : Prop :=
  ∀ selectSpendableUtxo beaconAddress answers,
    ∃ fuel settled,
      waitForFunding
          (scenario.wait selectSpendableUtxo beaconAddress answers) fuel =
        some settled ∧
      ∀ clock ∈ scenario.clocks, (settled.atMs : ℚ) < clock

/-- The window shown is never longer than the cohort will live. -/
def ShownIsHonest (scenario : FundingScenario) : Prop :=
  ∀ shown ∈ scenario.shownWindowMs?, ∀ clock ∈ scenario.clocks,
    (scenario.keygenAtMs : ℚ) + shown ≤ clock

def InTime (scenario : FundingScenario) : Prop :=
  scenario.SettlesFirst ∧ scenario.ShownIsHonest

end InTime

section Accepted

/-! ## The scenarios a service can be configured into -/

end Accepted

section EarlyWindow

/-! ## A discovery window shorter than the funding window -/

end EarlyWindow

end FundingScenario

end Btcr2Aggregation
