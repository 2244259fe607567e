import Btcr2Aggregation.Library.JsString
import Btcr2Aggregation.Service.DraftRules

/-!
# The runtime settings holder

The in-memory settings of one service: the advertising pause, the one-way
broadcast kill switch, and the defaults a new draft starts from.  The kill
switch carries its own invariant: it has an engage stamp exactly when it is
engaged.
-/

namespace Btcr2Aggregation

section KillSwitch

/-! ## The broadcast kill switch -/

/-- The switch and the moment it engaged. -/
structure KillSwitch where
  broadcastDisabled : Bool
  broadcastDisabledAtMs : Option Nat
  stamped : broadcastDisabledAtMs.isSome = broadcastDisabled

namespace KillSwitch

/-- The switch of a freshly booted service. -/
def off : KillSwitch where
  broadcastDisabled := false
  broadcastDisabledAtMs := none
  stamped := rfl

/-- Engage the switch.  The stamp is taken once: a second call moves nothing. -/
def disableBroadcast (switch : KillSwitch) (now : Nat) : KillSwitch :=
  if switch.broadcastDisabled then
    switch
  else
    { broadcastDisabled := true
      broadcastDisabledAtMs := some now
      stamped := rfl }

theorem disableBroadcast_of_engaged
    {switch : KillSwitch} (engaged : switch.broadcastDisabled = true)
    (now : Nat) :
    switch.disableBroadcast now = switch :=
  if_pos engaged

@[simp]
theorem broadcastDisabled_disableBroadcast
    (switch : KillSwitch) (now : Nat) :
    (switch.disableBroadcast now).broadcastDisabled = true := by
  by_cases engaged : switch.broadcastDisabled = true
  · rw [disableBroadcast_of_engaged engaged, engaged]
  · simp [disableBroadcast, engaged]

/-- The first engagement stamps the current time. -/
theorem broadcastDisabledAtMs_disableBroadcast_of_off
    {switch : KillSwitch} (disengaged : switch.broadcastDisabled = false)
    (now : Nat) :
    (switch.disableBroadcast now).broadcastDisabledAtMs = some now := by
  simp [disableBroadcast, disengaged]

/-- An engaged switch has its stamp. -/
theorem exists_stamp
    {switch : KillSwitch} (engaged : switch.broadcastDisabled = true) :
    ∃ engagedAt, switch.broadcastDisabledAtMs = some engagedAt :=
  Option.isSome_iff_exists.mp (switch.stamped.trans engaged)

end KillSwitch

end KillSwitch

section Settings

/-! ## Defaults and their one save -/

/-- One setting: its current value and the value it booted with. -/
structure SettingField (Value : Type) where
  value : Value
  envDefault : Value
  deriving DecidableEq

namespace SettingField

/-- A save writes the current value only. -/
def write {Value : Type} (field : SettingField Value) (value : Value) :
    SettingField Value :=
  { field with value }

end SettingField

/-- Everything one service's settings hold. -/
structure RuntimeSettings where
  paused : Bool
  killSwitch : KillSwitch
  serviceName : SettingField (Option String)
  defaultBeaconType : SettingField BeaconType
  defaultSize : SettingField Nat
  defaultThreshold : SettingField Nat
  defaultDiscoveryWindowMs : SettingField (Option Nat)
  defaultFundingWindowMs : SettingField (Option Nat)
  termsText : SettingField (Option String)
  discoveryWindowCeilingMs : Option Nat

/-- A settings save: an absent key leaves its field alone, and a window can be
cleared by an explicit `null` (`some none`). -/
structure SettingsPatch where
  serviceName : Option String
  defaultBeaconType : Option String
  defaultSize : Option JsNumber
  defaultThreshold : Option JsNumber
  defaultDiscoveryWindowMs : Option (Option JsNumber)
  defaultFundingWindowMs : Option (Option JsNumber)
  termsText : Option String

def maxServiceNameChars : Nat := 200

def maxTermsChars : Nat := 20000

def beaconTypeError : String :=
  "Beacon type must be CASBeacon or SMTBeacon."

def tooLongError (what : String) (maximum : Nat) : String :=
  what ++ " must be " ++ toString maximum ++ " characters or fewer."

/-- Absent stays absent, else a whole number of minutes, at least one. -/
def validateWindow
    (message : String) : Option JsNumber → Except String (Option Nat)
  | none => .ok none
  | some window =>
      match window.wholeAtLeast? oneMinuteMs with
      | some ms => if ms % oneMinuteMs = 0 then .ok (some ms) else .error message
      | none => .error message

/-- A free-text field of a save: trimmed, then bounded. -/
def nextText
    (what : String) (maximum : Nat) (stored : Option String) :
    Option String → Except String (Option String)
  | none => boundText stored
  | some supplied => boundText (JsString.trimToUndefined supplied)
where
  boundText : Option String → Except String (Option String)
    | none => .ok none
    | some text =>
        if maximum < JsString.length text then
          .error (tooLongError what maximum)
        else
          .ok (some text)

/-- The shorten-only ceiling at save time. -/
def checkDefaultCeiling
    (ceilingMs : Option Nat) (discoveryWindowMs : Option Nat) :
    Except String Unit :=
  match discoveryWindowMs, ceilingMs with
  | some window, some ceiling =>
      if ceiling < window then
        .error (discoveryWindowCeilingError ceiling)
      else
        .ok ()
  | _, _ => .ok ()

namespace RuntimeSettings

/-- `createRuntimeSettings()` without a seed. -/
def unseeded : RuntimeSettings where
  paused := false
  killSwitch := .off
  serviceName := ⟨none, none⟩
  defaultBeaconType := ⟨.casBeacon, .casBeacon⟩
  defaultSize := ⟨2, 2⟩
  defaultThreshold := ⟨2, 2⟩
  defaultDiscoveryWindowMs := ⟨none, none⟩
  defaultFundingWindowMs := ⟨none, none⟩
  termsText := ⟨none, none⟩
  discoveryWindowCeilingMs := none

/-- `pause()` and `resume()`. -/
def pause (settings : RuntimeSettings) : RuntimeSettings :=
  { settings with paused := true }

def resume (settings : RuntimeSettings) : RuntimeSettings :=
  { settings with paused := false }

/-- The window defaults a draft captures. -/
def currentDefaults (settings : RuntimeSettings) : CohortWindows where
  discoveryWindowMs := settings.defaultDiscoveryWindowMs.value
  fundingWindowMs := settings.defaultFundingWindowMs.value

/-- The window a save would leave behind, before it is judged. -/
def nextWindow
    (stored : Option Nat) : Option (Option JsNumber) → Option JsNumber
  | some supplied => supplied
  | none => stored.map fun ms : Nat => .finite ms

/-- Save as a set: every supplied field is judged first, and none is applied if
any is invalid. -/
def applySettings
    (settings : RuntimeSettings) (patch : SettingsPatch) :
    Except String RuntimeSettings := do
  let serviceName ←
    nextText "Service name" maxServiceNameChars settings.serviceName.value
      patch.serviceName
  let beaconType ←
    match
      BeaconType.ofName?
        (patch.defaultBeaconType.getD settings.defaultBeaconType.value.name) with
    | some beaconType => .ok beaconType
    | none => .error beaconTypeError
  let size ←
    match
      (patch.defaultSize.getD settings.defaultSize.value).wholeAtLeast? 1 with
    | some size => .ok size
    | none => .error sizeError
  -- judged against the size of this same patch
  let threshold ←
    match
      (patch.defaultThreshold.getD
        settings.defaultThreshold.value).wholeAtLeast? 1 with
    | some threshold =>
        if threshold ≤ size then .ok threshold else .error thresholdError
    | none => .error thresholdError
  let discoveryWindowMs ←
    validateWindow discoveryWindowError
      (nextWindow settings.defaultDiscoveryWindowMs.value
        patch.defaultDiscoveryWindowMs)
  checkDefaultCeiling settings.discoveryWindowCeilingMs discoveryWindowMs
  let fundingWindowMs ←
    validateWindow fundingWindowError
      (nextWindow settings.defaultFundingWindowMs.value
        patch.defaultFundingWindowMs)
  let termsText ←
    nextText "Participation terms" maxTermsChars settings.termsText.value
      patch.termsText
  return {
    settings with
    serviceName := settings.serviceName.write serviceName
    defaultBeaconType := settings.defaultBeaconType.write beaconType
    defaultSize := settings.defaultSize.write size
    defaultThreshold := settings.defaultThreshold.write threshold
    defaultDiscoveryWindowMs :=
      settings.defaultDiscoveryWindowMs.write discoveryWindowMs
    defaultFundingWindowMs :=
      settings.defaultFundingWindowMs.write fundingWindowMs
    termsText := settings.termsText.write termsText }

end RuntimeSettings

end Settings

end Btcr2Aggregation
