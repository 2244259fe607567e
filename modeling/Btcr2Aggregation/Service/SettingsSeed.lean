import Btcr2Aggregation.Service.RuntimeSettings

/-!
# What a settings holder boots with

`createRuntimeSettings` seeds every default from the options of one service.
A malformed number falls back, a threshold above the size is clamped, a window
is floored to whole minutes and clamped to the ceiling, and an over-long text
is dropped.  None of this refuses a boot.
-/

namespace Btcr2Aggregation

section Knobs

/-! ## Seeds -/

/-- The seeds of one service's settings. -/
structure RuntimeSettingsSeed where
  serviceName : Option String
  defaultBeaconType : Option String
  defaultSize : Option JsNumber
  defaultThreshold : Option JsNumber
  defaultDiscoveryWindowMs : Option JsNumber
  defaultFundingWindowMs : Option JsNumber
  termsText : Option String
  discoveryWindowCeilingMs : Option JsNumber

/-- `numericKnob` where it asks for a whole number: anything malformed is read
as absent, and the caller takes its fallback. -/
def integerKnob (minimum : Nat) (raw : Option JsNumber) : Option Nat :=
  raw.bind (JsNumber.wholeAtLeast? minimum)

/-- Trim a text seed and drop it when it is too long. -/
def textKnob (maximum : Nat) (raw : Option String) : Option String :=
  (raw.bind JsString.trimToUndefined).filter fun text =>
    JsString.length text ≤ maximum

/-- The longest whole number of minutes at or below `ms`, numbers being
exact. -/
def wholeMinutesAtOrBelow (ms : Nat) : Nat :=
  ms / oneMinuteMs * oneMinuteMs

/-- Clamp a window to the ceiling, where both are there. -/
def clampToCeiling (ceilingMs windowMs : Option Nat) : Option Nat :=
  match windowMs, ceilingMs with
  | some window, some ceiling =>
      if ceiling < window then some ceiling else some window
  | windowMs, _ => windowMs

theorem le_of_integerKnob
    {minimum accepted : Nat} {raw : Option JsNumber}
    (passed : integerKnob minimum raw = some accepted) :
    minimum ≤ accepted := by
  obtain ⟨number, -, guard⟩ := Option.bind_eq_some_iff.mp passed
  exact (JsNumber.wholeAtLeast?_eq_some_iff.mp guard).2

theorem wholeMinutesAtOrBelow_le (ms : Nat) :
    wholeMinutesAtOrBelow ms ≤ ms :=
  Nat.div_mul_le_self ms oneMinuteMs

@[simp]
theorem wholeMinutesAtOrBelow_mod (ms : Nat) :
    wholeMinutesAtOrBelow ms % oneMinuteMs = 0 :=
  Nat.mul_mod_left _ _

/-- A minute survives the floor. -/
theorem minute_le_wholeMinutesAtOrBelow
    {ms : Nat} (minute : oneMinuteMs ≤ ms) :
    oneMinuteMs ≤ wholeMinutesAtOrBelow ms := by
  have one : 1 ≤ ms / oneMinuteMs :=
    (Nat.le_div_iff_mul_le (by decide)).mpr (by omega)
  calc
    oneMinuteMs = 1 * oneMinuteMs := (Nat.one_mul _).symm
    _ ≤ wholeMinutesAtOrBelow ms := Nat.mul_le_mul_right _ one

end Knobs

section Boot

/-! ## The boot

The floor to whole minutes is a parameter: it is `wholeMinutesAtOrBelow` where
numbers are exact. -/

namespace RuntimeSettingsSeed

variable (wholeMinutes : Nat → Nat) (seed : RuntimeSettingsSeed)

/-- The beacon type a new draft starts from; an unknown one falls back. -/
def seededBeaconType : BeaconType :=
  (seed.defaultBeaconType.bind BeaconType.ofName?).getD .casBeacon

def seededSize : Nat :=
  (integerKnob 1 seed.defaultSize).getD 2

/-- The threshold defaults to the size and is clamped to it. -/
def seededThreshold : Nat :=
  min ((integerKnob 1 seed.defaultThreshold).getD seed.seededSize)
    seed.seededSize

/-- The resolved ceiling: a whole number of minutes. -/
def discoveryCeilingMs : Option Nat :=
  (integerKnob oneMinuteMs seed.discoveryWindowCeilingMs).map wholeMinutes

/-- The discovery window: floored, clamped, and floored once more as the last
write. -/
def resolvedDiscoveryWindowMs : Option Nat :=
  (clampToCeiling (seed.discoveryCeilingMs wholeMinutes)
    ((integerKnob oneMinuteMs seed.defaultDiscoveryWindowMs).map
      wholeMinutes)).map wholeMinutes

def resolvedFundingWindowMs : Option Nat :=
  (integerKnob oneMinuteMs seed.defaultFundingWindowMs).map wholeMinutes

end RuntimeSettingsSeed

/-- A field whose current value and boot value start out identical. -/
def SettingField.field {Value : Type} (value : Value) : SettingField Value :=
  ⟨value, value⟩

/-- The holder of a freshly booted service. -/
def createRuntimeSettings
    (wholeMinutes : Nat → Nat) (seed : RuntimeSettingsSeed) :
    RuntimeSettings where
  paused := false
  killSwitch := .off
  serviceName := .field (textKnob maxServiceNameChars seed.serviceName)
  defaultBeaconType := .field seed.seededBeaconType
  defaultSize := .field seed.seededSize
  defaultThreshold := .field seed.seededThreshold
  defaultDiscoveryWindowMs :=
    .field (seed.resolvedDiscoveryWindowMs wholeMinutes)
  defaultFundingWindowMs :=
    .field (seed.resolvedFundingWindowMs wholeMinutes)
  termsText := .field (textKnob maxTermsChars seed.termsText)
  discoveryWindowCeilingMs := seed.discoveryCeilingMs wholeMinutes

end Boot

section Resaveable

/-! ## Settings a save accepts again -/

/-- A stored text: trimmed, not empty, within its bound. -/
def StoredText (maximum : Nat) (stored : Option String) : Prop :=
  ∀ text, stored = some text →
    JsString.trimToUndefined text = some text ∧
      JsString.length text ≤ maximum

/-- A stored window: a whole number of minutes, at least one. -/
def StoredWindow (stored : Option Nat) : Prop :=
  ∀ ms, stored = some ms → oneMinuteMs ≤ ms ∧ ms % oneMinuteMs = 0

/-- The stored texts and the stored shape meet the rules of a save. -/
structure ResaveableShape (settings : RuntimeSettings) : Prop where
  serviceName : StoredText maxServiceNameChars settings.serviceName.value
  size_pos : 1 ≤ settings.defaultSize.value
  threshold_pos : 1 ≤ settings.defaultThreshold.value
  threshold_le : settings.defaultThreshold.value ≤ settings.defaultSize.value
  termsText : StoredText maxTermsChars settings.termsText.value

/-- The stored discovery window meets them. -/
structure ResaveableDiscovery (settings : RuntimeSettings) : Prop where
  discoveryWindow : StoredWindow settings.defaultDiscoveryWindowMs.value
  withinCeiling :
    ∀ window ceiling,
      settings.defaultDiscoveryWindowMs.value = some window →
        settings.discoveryWindowCeilingMs = some ceiling → window ≤ ceiling

/-- The stored values meet every rule of a save. -/
structure Resaveable (settings : RuntimeSettings) : Prop extends
    ResaveableShape settings, ResaveableDiscovery settings where
  fundingWindow : StoredWindow settings.defaultFundingWindowMs.value

theorem storedText_textKnob (maximum : Nat) (raw : Option String) :
    StoredText maximum (textKnob maximum raw) := by
  intro text kept
  obtain ⟨trimmed, short⟩ := Option.filter_eq_some_iff.mp kept
  obtain ⟨given, -, trims⟩ := Option.bind_eq_some_iff.mp trimmed
  exact ⟨JsString.trimToUndefined_of_trimmed trims, of_decide_eq_true short⟩

theorem storedWindow_integerKnob (raw : Option JsNumber) :
    StoredWindow ((integerKnob oneMinuteMs raw).map wholeMinutesAtOrBelow) := by
  intro ms kept
  obtain ⟨accepted, passed, rfl⟩ := Option.map_eq_some_iff.mp kept
  exact
    ⟨minute_le_wholeMinutesAtOrBelow (le_of_integerKnob passed),
      wholeMinutesAtOrBelow_mod accepted⟩

/-- A clamped window is the window or the ceiling. -/
theorem clampToCeiling_cases
    {ceilingMs windowMs : Option Nat} {clamped : Nat}
    (result : clampToCeiling ceilingMs windowMs = some clamped) :
    (windowMs = some clamped ∨ ceilingMs = some clamped) ∧
      ∀ ceiling, ceilingMs = some ceiling → clamped ≤ ceiling := by
  cases windowMs with
  | none => cases ceilingMs <;> cases result
  | some window =>
      cases ceilingMs with
      | none =>
          cases result
          exact ⟨Or.inl rfl, nofun⟩
      | some ceiling =>
          simp only [clampToCeiling] at result
          split at result
          · cases result
            refine ⟨Or.inr rfl, ?_⟩
            rintro _ ⟨rfl⟩
            exact le_rfl
          · next within =>
              cases result
              refine ⟨Or.inl rfl, ?_⟩
              rintro _ ⟨rfl⟩
              omega

section Seeded

variable (seed : RuntimeSettingsSeed)

theorem one_le_seededSize : 1 ≤ seed.seededSize := by
  unfold RuntimeSettingsSeed.seededSize
  cases passed : integerKnob 1 seed.defaultSize with
  | none => decide
  | some size => exact le_of_integerKnob passed

theorem one_le_seededThreshold : 1 ≤ seed.seededThreshold := by
  apply le_min
  · cases passed : integerKnob 1 seed.defaultThreshold with
    | none => exact one_le_seededSize seed
    | some threshold => exact le_of_integerKnob passed
  · exact one_le_seededSize seed

theorem storedWindow_discoveryCeilingMs :
    StoredWindow (seed.discoveryCeilingMs wholeMinutesAtOrBelow) :=
  storedWindow_integerKnob seed.discoveryWindowCeilingMs

/-- The last floor changes nothing: the clamped window is whole already. -/
theorem storedWindow_resolvedDiscoveryWindowMs :
    StoredWindow (seed.resolvedDiscoveryWindowMs wholeMinutesAtOrBelow) ∧
      ∀ window ceiling,
        seed.resolvedDiscoveryWindowMs wholeMinutesAtOrBelow = some window →
          seed.discoveryCeilingMs wholeMinutesAtOrBelow = some ceiling →
            window ≤ ceiling := by
  have whole :
      ∀ clamped,
        clampToCeiling (seed.discoveryCeilingMs wholeMinutesAtOrBelow)
            ((integerKnob oneMinuteMs seed.defaultDiscoveryWindowMs).map
              wholeMinutesAtOrBelow) = some clamped →
          oneMinuteMs ≤ clamped := by
    intro clamped result
    rcases (clampToCeiling_cases result).1 with own | ceiling
    · exact (storedWindow_integerKnob _ clamped own).1
    · exact (storedWindow_discoveryCeilingMs seed clamped ceiling).1
  constructor
  · intro ms kept
    obtain ⟨clamped, result, rfl⟩ := Option.map_eq_some_iff.mp kept
    exact
      ⟨minute_le_wholeMinutesAtOrBelow (whole clamped result),
        wholeMinutesAtOrBelow_mod clamped⟩
  · intro window ceiling kept bounded
    obtain ⟨clamped, result, rfl⟩ := Option.map_eq_some_iff.mp kept
    have below := (clampToCeiling_cases result).2 ceiling bounded
    exact le_trans (wholeMinutesAtOrBelow_le clamped) below

/-- Whatever the floor, every seed boots a shape that a save accepts. -/
theorem resaveableShape_createRuntimeSettings (wholeMinutes : Nat → Nat) :
    ResaveableShape (createRuntimeSettings wholeMinutes seed) where
  serviceName := storedText_textKnob maxServiceNameChars seed.serviceName
  size_pos := one_le_seededSize seed
  threshold_pos := one_le_seededThreshold seed
  threshold_le := min_le_right _ _
  termsText := storedText_textKnob maxTermsChars seed.termsText

/-- Every seed boots a holder whose own save accepts what it stores. -/
theorem resaveable_createRuntimeSettings :
    Resaveable (createRuntimeSettings wholeMinutesAtOrBelow seed) where
  toResaveableShape :=
    resaveableShape_createRuntimeSettings seed wholeMinutesAtOrBelow
  discoveryWindow := (storedWindow_resolvedDiscoveryWindowMs seed).1
  withinCeiling := (storedWindow_resolvedDiscoveryWindowMs seed).2
  fundingWindow := storedWindow_integerKnob seed.defaultFundingWindowMs

end Seeded

end Resaveable

end Btcr2Aggregation
