import Btcr2Aggregation.Service.FundingWatch
import Btcr2Aggregation.Service.RuntimeSettings
import Mathlib.Tactic.Linarith

/-!
# The authoritative funding wait

`waitForFunding` polls a beacon address until it is funded, dead-ended, or a
clamped deadline has passed.  The loop tests the deadline once a round, so the
moments at which it can lapse are the starts of its rounds.  A read may take any
time, and the pause after a read is the poll interval, as far as a timer takes
it: a delay of zero, or above what a timer can hold, counts as one millisecond.
-/

namespace Btcr2Aggregation

section Timers

/-! ## Timers -/

/-- The longest delay a timer holds. -/
def timeoutMax : Nat := 2147483647

/-- What `setTimeout` waits for a delay: out of its range, one millisecond. -/
def timerDelay (ms : Nat) : Nat :=
  if 1 ≤ ms ∧ ms ≤ timeoutMax then ms else 1

end Timers

section Loop

/-! ## The loop -/

/-- Everything one call of the wait reads. -/
structure FundingWait where
  selectSpendableUtxo : UtxoSelection
  beaconAddress : String
  suggestedMinSats : Nat
  deadlineMs : WithTop ℚ
  startMs : Nat
  pollIntervalMs : Nat
  latencyMs : Nat → Nat
  /-- The answer of each read; `none` where the read failed. -/
  answers : Nat → Option (List AddressUtxo)
  abortedAtMs : Option Nat

/-- How the wait can end. -/
inductive FundingVerdict where
  | funded (selected : AddressUtxo)
  | deadEnd (selected : AddressUtxo)
  | neverArrived
  | couldNotObserve
  | stopped
  deriving DecidableEq, Repr

namespace FundingVerdict

/-- The reason the wait throws; a funded wait returns. -/
def reason?
    (beaconAddress : String) (suggestedMinSats : Nat) :
    FundingVerdict → Option String
  | .funded _ => none
  | .deadEnd selected =>
      some
        ("live beacon tx: the UTXO the builder will spend at " ++
          beaconAddress ++ " (" ++ selected.txid ++ ":" ++
          toString selected.vout ++ ", " ++ toString selected.value ++
          " sats - the deepest confirmed UTXO) is below the " ++
          toString suggestedMinSats ++
          "-sat funding floor. Adding more funds will NOT help (new UTXOs " ++
          "confirm shallower and are never selected first); run the cohort " ++
          "on a fresh beacon address funded with a single adequate UTXO")
  | .neverArrived =>
      some
        ("live beacon tx: funding never arrived for " ++ beaconAddress ++
          " within the funding window; the cohort beacon address was not " ++
          "funded to the suggested minimum before the window closed " ++
          "(re-advertise the cohort to try again)")
  | .couldNotObserve =>
      some
        ("live beacon tx: the funding window for " ++ beaconAddress ++
          " ended while this service could not observe the chain, so " ++
          "whether it was funded is unknown; check the address on a block " ++
          "explorer before reusing it")
  | .stopped =>
      some
        ("live beacon tx: the service stopped while waiting for funding at " ++
          beaconAddress ++ "; the funding window did not elapse, so this " ++
          "says nothing about whether funds arrived")

end FundingVerdict

/-- The wait has ended: when, and how. -/
structure FundingSettled where
  atMs : Nat
  verdict : FundingVerdict
  deriving DecidableEq, Repr

namespace FundingWait

/-- `live.signal?.aborted`. -/
def aborted (wait : FundingWait) (now : Nat) : Bool :=
  wait.abortedAtMs.any fun at_ => at_ ≤ now

/-- When `fundingSleep` resolves: after the pause, or at an abort. -/
def sleepUntil (wait : FundingWait) (now : Nat) : Nat :=
  let timer := now + timerDelay wait.pollIntervalMs
  match wait.abortedAtMs with
  | some at_ => min timer (max now at_)
  | none => timer

/-- `Date.now() - start < deadlineMs`. -/
def isOpen (wait : FundingWait) (now : Nat) : Bool :=
  decide ((((now : ℚ) - wait.startMs : ℚ) : WithTop ℚ) < wait.deadlineMs)

/-- The rounds of the wait from `now` on; `none` when the fuel ran out first. -/
def rounds (wait : FundingWait) :
    (fuel index now : Nat) → (lastObservationOk : Bool) →
      Option FundingSettled
  | 0, _, _, _ => none
  | fuel + 1, index, now, lastObservationOk =>
      if wait.isOpen now then
        if wait.aborted now then
          some ⟨now, .stopped⟩
        else
          let answered := now + wait.latencyMs index
          match wait.answers index with
          | none =>
              wait.rounds fuel (index + 1) (wait.sleepUntil answered) false
          | some utxos =>
              match
                classifyFunding wait.selectSpendableUtxo utxos
                  wait.suggestedMinSats wait.beaconAddress with
              | .funded selected => some ⟨answered, .funded selected⟩
              | .deadEnd selected => some ⟨answered, .deadEnd selected⟩
              | .waiting | .awaitingConfirmation =>
                  wait.rounds fuel (index + 1) (wait.sleepUntil answered) true
      else if wait.aborted now then
        some ⟨now, .stopped⟩
      else if lastObservationOk then
        some ⟨now, .neverArrived⟩
      else
        some ⟨now, .couldNotObserve⟩

end FundingWait

/-- `waitForFunding`. -/
def waitForFunding (wait : FundingWait) (fuel : Nat) : Option FundingSettled :=
  wait.rounds fuel 0 wait.startMs false

end Loop

section Rounds

/-! ## When the rounds start -/

namespace FundingWait

end FundingWait

end Rounds

end Btcr2Aggregation
