import Btcr2Aggregation.Library.JsNumber
import Mathlib.Algebra.Order.Floor.Ring
import Mathlib.Algebra.Order.Round
import Mathlib.Data.Rat.Floor
import Mathlib.Order.WithBot

/-!
# Funding states and the funding deadline

`classifyFunding` reads a polled UTXO set; the selection of the one UTXO the
builder would spend is the transaction library's, so it is a parameter.
`computeFundingDeadline` clamps a configured funding window to the remaining
cohort TTL less a slack.  An absent or non-finite leg is unbounded, so the
deadline lives in `WithTop ℚ`.  The same computation tells the operator when
the TTL truncated the window, in rounded minutes.
-/

namespace Btcr2Aggregation

section States

/-! ## Funding states -/

/-- One unspent output at a beacon address. -/
structure AddressUtxo where
  txid : String
  vout : Nat
  value : Nat
  confirmed : Bool
  blockHeight : Option Nat
  deriving DecidableEq, Repr

inductive FundingStateName where
  | waiting
  | awaitingConfirmation
  | funded
  | deadEnd
  deriving DecidableEq, Repr

/-- A classified funding state, with the selected output where there is one. -/
inductive FundingState where
  | waiting
  | awaitingConfirmation
  | funded (selected : AddressUtxo)
  | deadEnd (selected : AddressUtxo)
  deriving DecidableEq, Repr

namespace FundingState

def name : FundingState → FundingStateName
  | .waiting => .waiting
  | .awaitingConfirmation => .awaitingConfirmation
  | .funded _ => .funded
  | .deadEnd _ => .deadEnd

end FundingState

/-- `selectSpendableUtxo`: the output the builder would spend at an address, or
`none` where it throws. -/
abbrev UtxoSelection :=
  List AddressUtxo → String → Option AddressUtxo

def minLiveFundingSats : Nat := 2000

def computeSuggestedMinSats (feeDerivedNeed : Option Nat) : Nat :=
  max minLiveFundingSats (feeDerivedNeed.getD 0)

/-- Classify the funding of a beacon address from its polled UTXO set. -/
def classifyFunding
    (selectSpendableUtxo : UtxoSelection)
    (utxos : List AddressUtxo) (suggestedMinSats : Nat)
    (beaconAddress : String) : FundingState :=
  if utxos = [] then
    .waiting
  else
    match selectSpendableUtxo utxos beaconAddress with
    | none =>
        if utxos.any fun utxo => !utxo.confirmed then
          .awaitingConfirmation
        else
          .waiting
    | some selected =>
        if selected.value < suggestedMinSats then
          .deadEnd selected
        else
          .funded selected

end States

section Deadline

/-! ## The clamped deadline -/

/-- Slack subtracted from the remaining cohort TTL. -/
def fundingSlackMs : ℚ := 10000

/-- The clamp inputs. -/
structure FundingDeadlineInput where
  configuredWindowMs : Option JsNumber
  remainingTtlMs : Option JsNumber
  slackMs : ℚ

/-- The clamped deadline, with the disclosure of a truncated window. -/
structure FundingDeadline where
  deadlineMs : WithTop ℚ
  truncatedWindowMin : Option Nat

/-- `Math.max(0, Math.round(ms / 60_000))`. -/
def roundedMinutes (ms : ℚ) : Nat :=
  (Int.floor (ms / 60000 + 1 / 2)).toNat

namespace FundingDeadlineInput

/-- The configured leg; a non-finite window bounds nothing. -/
def windowLeg (input : FundingDeadlineInput) : WithTop ℚ :=
  match input.configuredWindowMs with
  | some (.finite ms) => (ms : WithTop ℚ)
  | _ => ⊤

/-- What is left of a finite TTL, less the slack, and never negative. -/
def ttlLeg? (input : FundingDeadlineInput) : Option ℚ :=
  match input.remainingTtlMs with
  | some (.finite ms) => some (max 0 (ms - input.slackMs))
  | _ => none

/-- The TTL leg; without a finite TTL it bounds nothing. -/
def ttlLeg (input : FundingDeadlineInput) : WithTop ℚ :=
  match input.ttlLeg? with
  | some leg => (leg : WithTop ℚ)
  | none => ⊤

end FundingDeadlineInput

/-- `min(configuredWindow, remainingTtl - slack)`; only a finite TTL leg that
binds below the configured window is disclosed as a truncation. -/
def computeFundingDeadline (input : FundingDeadlineInput) : FundingDeadline where
  deadlineMs := min input.windowLeg input.ttlLeg
  truncatedWindowMin :=
    match input.ttlLeg? with
    | some leg =>
        if (leg : WithTop ℚ) < input.windowLeg then
          some (roundedMinutes leg)
        else
          none
    | none => none

end Deadline

end Btcr2Aggregation
