import Btcr2Aggregation.Library.JsNumber
import Btcr2Aggregation.Shared.Cohort

/-!
# The rules a cohort draft is judged by

`validateDraft` guards every create and every edit of a draft.  Its messages
are shared with the settings form, so they stand here beside the guards.  What
it accepts is a `DraftShape`, which carries the facts the guards checked.
-/

namespace Btcr2Aggregation

section Messages

/-! ## Messages -/

def sizeError : String :=
  "Cohort size must be at least 1 signer."

def thresholdError : String :=
  "Signing threshold must be a whole number between 1 and the cohort size."

def fallbackOffError : String :=
  "A signing threshold below the cohort size needs the stall fallback, " ++
    "which this service disabled (AUTO_FALLBACK=0)."

def discoveryWindowError : String :=
  "Discovery window must be a whole number of minutes, at least 1."

def fundingWindowError : String :=
  "Funding window must be a whole number of minutes, at least 1."

/-- One minute in ms: the floor of both timing windows. -/
def oneMinuteMs : Nat := 60000

/-- The refusal of a discovery window above the cohort TTL, naming the real
ceiling. -/
def discoveryWindowCeilingError (ceilingMs : ℚ) : String :=
  let minutes := toString (ceilingMs / oneMinuteMs).floor
  "This service ends a cohort after " ++ minutes ++
    " minutes, so the discovery window must be " ++ minutes ++
    " minutes or less."

def unknownBeaconTypeError (beaconType : Option String) : String :=
  "operator: unknown beacon type \"" ++ beaconType.getD "undefined" ++
    "\" (expected CASBeacon or SMTBeacon)"

end Messages

/-- The form or request body a draft is created or edited from.  An absent
field and a `null` one are the same thing to every reader. -/
structure DraftInput where
  beaconType : Option String
  size : Option JsNumber
  threshold : Option JsNumber
  discoveryWindowMs : Option JsNumber
  fundingWindowMs : Option JsNumber
  deriving DecidableEq

/-- The two timing windows of a cohort. -/
structure CohortWindows where
  discoveryWindowMs : Option Nat
  fundingWindowMs : Option Nat
  deriving DecidableEq, Repr

/-- The windows a draft set itself, and the defaults of the service at that
moment. -/
structure DraftWindows where
  explicit : CohortWindows
  defaults : CohortWindows
  deriving DecidableEq, Repr

/-- A draft's own window wins over the default, window by window. -/
def effectiveWindows (windows : DraftWindows) : CohortWindows where
  discoveryWindowMs :=
    windows.explicit.discoveryWindowMs.or windows.defaults.discoveryWindowMs
  fundingWindowMs :=
    windows.explicit.fundingWindowMs.or windows.defaults.fundingWindowMs

/-- The delay `armWindowTimer` arms, if any: a positive discovery window
strictly below the cohort TTL. -/
def windowTimerDelay?
    (cohortTtlMs : Option JsNumber) (windowMs : Option Nat) : Option Nat :=
  windowMs.filter fun window =>
    0 < window && !cohortTtlMs.any fun ttl => ttl.reaches window

/-- A draft that passed every guard. -/
structure DraftShape where
  beaconType : BeaconType
  size : Nat
  threshold : Nat
  windows : CohortWindows
  size_pos : 1 ≤ size
  threshold_pos : 1 ≤ threshold
  threshold_le : threshold ≤ size
  discovery_minute :
    ∀ ms, windows.discoveryWindowMs = some ms → oneMinuteMs ≤ ms
  funding_minute :
    ∀ ms, windows.fundingWindowMs = some ms → oneMinuteMs ≤ ms

/-- A window is absent or a whole number of milliseconds, at least a minute of
them; the guard does not ask for whole minutes. -/
def validateDraftWindow
    (message : String) : Option JsNumber → Except String (Option Nat)
  | none => .ok none
  | some window =>
      match window.wholeAtLeast? oneMinuteMs with
      | some ms => .ok (some ms)
      | none => .error message

/-- The shorten-only ceiling of a discovery window. -/
def checkDiscoveryCeiling
    (cohortTtlMs : Option JsNumber) : Option Nat → Except String Unit
  | none => .ok ()
  | some discoveryWindowMs =>
      match cohortTtlMs with
      | some (.finite ttl) =>
          if ttl < discoveryWindowMs then
            .error (discoveryWindowCeilingError ttl)
          else
            .ok ()
      | _ => .ok ()

theorem minute_of_validateDraftWindow
    {message : String} {window : Option JsNumber} {accepted : Option Nat}
    (passed : validateDraftWindow message window = .ok accepted) :
    ∀ ms, accepted = some ms → oneMinuteMs ≤ ms := by
  intro ms equality
  subst equality
  cases window with
  | none => cases passed
  | some window =>
      simp only [validateDraftWindow] at passed
      split at passed
      · next accepted found =>
          cases passed
          exact (JsNumber.wholeAtLeast?_eq_some_iff.mp found).2
      · cases passed

theorem one_le_of_bind_wholeAtLeast?
    {raw : Option JsNumber} {accepted : Nat}
    (passed : raw.bind (JsNumber.wholeAtLeast? 1) = some accepted) :
    1 ≤ accepted := by
  obtain ⟨number, -, guard⟩ := Option.bind_eq_some_iff.mp passed
  exact (JsNumber.wholeAtLeast?_eq_some_iff.mp guard).2

/-- Validate a draft, guard by guard in the order the source asks them. -/
def validateDraft
    (input : DraftInput) (autoFallbackOnStall : Bool)
    (cohortTtlMs : Option JsNumber) : Except String DraftShape :=
  match input.beaconType.bind BeaconType.ofName? with
  | none => .error (unknownBeaconTypeError input.beaconType)
  | some beaconType =>
  match sized : input.size.bind (JsNumber.wholeAtLeast? 1) with
  | none => .error sizeError
  | some size =>
  match chosen : (input.threshold.getD size).wholeAtLeast? 1 with
  | none => .error thresholdError
  | some threshold =>
  if fits : threshold ≤ size then
    if threshold < size ∧ ¬ autoFallbackOnStall then
      .error fallbackOffError
    else
      match discovery :
        validateDraftWindow discoveryWindowError input.discoveryWindowMs with
      | .error message => .error message
      | .ok discoveryWindowMs =>
      match funding :
        validateDraftWindow fundingWindowError input.fundingWindowMs with
      | .error message => .error message
      | .ok fundingWindowMs =>
      match checkDiscoveryCeiling cohortTtlMs discoveryWindowMs with
      | .error message => .error message
      | .ok () =>
          .ok {
            beaconType
            size
            threshold
            windows := { discoveryWindowMs, fundingWindowMs }
            size_pos := one_le_of_bind_wholeAtLeast? sized
            threshold_pos := (JsNumber.wholeAtLeast?_eq_some_iff.mp chosen).2
            threshold_le := fits
            discovery_minute := minute_of_validateDraftWindow discovery
            funding_minute := minute_of_validateDraftWindow funding }
  else
    .error thresholdError

end Btcr2Aggregation
