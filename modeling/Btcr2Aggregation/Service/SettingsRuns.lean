import Btcr2Aggregation.Library.Fallible
import Btcr2Aggregation.Library.Machine
import Btcr2Aggregation.Service.SettingsSeed

/-!
# The settings holder over a service's life

Seeds and saves follow two sets of rules: a seed is clamped, floored or
dropped, a save is refused.  This module shows that they agree on every value
the holder can come to store, so that no save fails on a value it never
carried.  The one coupling left is that a save of the size alone is judged
against the stored threshold.
-/

namespace Btcr2Aggregation

section Judgements

/-! ## The judgements of one save

Each field of a save is judged on its own; the threshold sees the size of the
same save. -/

namespace RuntimeSettings

variable (settings : RuntimeSettings) (patch : SettingsPatch)

def nextBeaconType : Except String BeaconType :=
  match
    BeaconType.ofName?
      (patch.defaultBeaconType.getD settings.defaultBeaconType.value.name) with
  | some beaconType => .ok beaconType
  | none => .error beaconTypeError

def nextSize : Except String Nat :=
  match (patch.defaultSize.getD settings.defaultSize.value).wholeAtLeast? 1 with
  | some size => .ok size
  | none => .error sizeError

def nextThreshold (size : Nat) : Except String Nat :=
  match
    (patch.defaultThreshold.getD
      settings.defaultThreshold.value).wholeAtLeast? 1 with
  | some threshold =>
      if threshold ≤ size then .ok threshold else .error thresholdError
  | none => .error thresholdError

def nextDiscoveryWindow : Except String (Option Nat) := do
  let discoveryWindowMs ←
    validateWindow discoveryWindowError
      (nextWindow settings.defaultDiscoveryWindowMs.value
        patch.defaultDiscoveryWindowMs)
  checkDefaultCeiling settings.discoveryWindowCeilingMs discoveryWindowMs
  return discoveryWindowMs

def nextFundingWindow : Except String (Option Nat) :=
  validateWindow fundingWindowError
    (nextWindow settings.defaultFundingWindowMs.value
      patch.defaultFundingWindowMs)

def nextServiceName : Except String (Option String) :=
  nextText "Service name" maxServiceNameChars settings.serviceName.value
    patch.serviceName

def nextTermsText : Except String (Option String) :=
  nextText "Participation terms" maxTermsChars settings.termsText.value
    patch.termsText

/-- The seven writes of an accepted save. -/
def store
    (serviceName : Option String) (beaconType : BeaconType)
    (size threshold : Nat) (discoveryWindowMs fundingWindowMs : Option Nat)
    (termsText : Option String) : RuntimeSettings :=
  { settings with
    serviceName := settings.serviceName.write serviceName
    defaultBeaconType := settings.defaultBeaconType.write beaconType
    defaultSize := settings.defaultSize.write size
    defaultThreshold := settings.defaultThreshold.write threshold
    defaultDiscoveryWindowMs :=
      settings.defaultDiscoveryWindowMs.write discoveryWindowMs
    defaultFundingWindowMs :=
      settings.defaultFundingWindowMs.write fundingWindowMs
    termsText := settings.termsText.write termsText }

/-- A save judges its fields one after the other, then writes all seven. -/
theorem applySettings_eq :
    settings.applySettings patch = do
      let serviceName ← settings.nextServiceName patch
      let beaconType ← settings.nextBeaconType patch
      let size ← settings.nextSize patch
      let threshold ← settings.nextThreshold patch size
      let discoveryWindowMs ← settings.nextDiscoveryWindow patch
      let fundingWindowMs ← settings.nextFundingWindow patch
      let termsText ← settings.nextTermsText patch
      return settings.store serviceName beaconType size threshold
        discoveryWindowMs fundingWindowMs termsText := by
  simp only [applySettings, nextServiceName, nextBeaconType, nextSize,
    nextThreshold, nextFundingWindow, nextTermsText, store]
  refine bind_congr fun serviceName => ?_
  generalize BeaconType.ofName? _ = beaconType
  generalize (patch.defaultSize.getD _).wholeAtLeast? 1 = size
  generalize (patch.defaultThreshold.getD _).wholeAtLeast? 1 = threshold
  cases beaconType with
  | none => rfl
  | some beaconType =>
  cases size with
  | none => rfl
  | some size =>
  cases threshold with
  | none => rfl
  | some threshold =>
      simp only [nextDiscoveryWindow, bind_assoc, pure_bind, ok_bind]
      by_cases fits : threshold ≤ size
      · simp only [if_pos fits, ok_bind]
      · simp only [if_neg fits]

end RuntimeSettings

end Judgements

section Fields

/-! ## What each judgement decides

A field that the save does not name passes, and keeps what is stored. -/

theorem nextText_none
    {what : String} {maximum : Nat} {stored : Option String}
    (kept : StoredText maximum stored) :
    nextText what maximum stored none = .ok stored := by
  cases stored with
  | none => rfl
  | some text =>
      have short := (kept text rfl).2
      simp only [nextText, nextText.boundText]
      rw [if_neg (by omega)]

theorem nextText_some
    (what : String) (maximum : Nat) (stored : Option String) (text : String) :
    nextText what maximum stored (some text) =
      if ∀ trimmed, JsString.trimToUndefined text = some trimmed →
          JsString.length trimmed ≤ maximum then
        .ok (JsString.trimToUndefined text)
      else
        .error (tooLongError what maximum) := by
  simp only [nextText]
  cases JsString.trimToUndefined text with
  | none => simp [nextText.boundText]
  | some trimmed =>
      simp only [nextText.boundText, Option.some.injEq, forall_eq']
      by_cases short : JsString.length trimmed ≤ maximum
      · rw [if_neg (by omega), if_pos short]
      · rw [if_pos (by omega), if_neg short]

theorem storedText_of_nextText
    {what : String} {maximum : Nat} {stored next : Option String}
    {named : Option String} (kept : StoredText maximum stored)
    (passed : nextText what maximum stored named = .ok next) :
    StoredText maximum next := by
  cases named with
  | none =>
      rw [nextText_none kept] at passed
      cases passed
      exact kept
  | some text =>
      rw [nextText_some] at passed
      split at passed
      · next short =>
          cases passed
          intro trimmed trims
          exact
            ⟨JsString.trimToUndefined_of_trimmed trims, short trimmed trims⟩
      · cases passed

/-- The windows a save accepts when it names one. -/
theorem validateWindow_some
    (message : String) (window : JsNumber) :
    validateWindow message (some window) =
      match window.wholeAtLeast? oneMinuteMs with
      | some ms =>
          if ms % oneMinuteMs = 0 then .ok (some ms) else .error message
      | none => .error message :=
  rfl

theorem validateWindow_of_stored
    {message : String} {stored : Option Nat} (kept : StoredWindow stored) :
    validateWindow message (RuntimeSettings.nextWindow stored none) =
      .ok stored := by
  cases stored with
  | none => rfl
  | some ms =>
      obtain ⟨minute, whole⟩ := kept ms rfl
      have stands :
          RuntimeSettings.nextWindow (some ms) none = some (.finite ms) :=
        rfl
      simp only [stands, validateWindow_some, JsNumber.wholeAtLeast?_nat,
        if_pos minute, if_pos whole]

/-- A judged window reads as the window it judged. -/
theorem validateWindow_eq_ok
    {message : String} {window : Option JsNumber} {accepted : Option Nat}
    (passed : validateWindow message window = .ok accepted) :
    StoredWindow accepted ∧
      window = accepted.map fun ms : Nat => JsNumber.finite ms := by
  cases window with
  | none =>
      cases passed
      exact ⟨nofun, rfl⟩
  | some window =>
      rw [validateWindow_some] at passed
      split at passed
      · next ms guard =>
          obtain ⟨rfl, minute⟩ := JsNumber.wholeAtLeast?_eq_some_iff.mp guard
          split at passed
          · next whole =>
              cases passed
              refine ⟨?_, rfl⟩
              rintro _ ⟨rfl⟩
              exact ⟨minute, whole⟩
          · cases passed
      · cases passed

theorem validateWindow_eq_error
    {message failure : String} {window : Option JsNumber}
    (refused : validateWindow message window = .error failure) :
    failure = message := by
  cases window with
  | none => cases refused
  | some window =>
      rw [validateWindow_some] at refused
      split at refused
      · split at refused
        · cases refused
        · cases refused
          rfl
      · cases refused
        rfl

theorem checkDefaultCeiling_eq_ok_iff {ceilingMs windowMs : Option Nat} :
    checkDefaultCeiling ceilingMs windowMs = .ok () ↔
      ∀ window ceiling,
        windowMs = some window → ceilingMs = some ceiling →
          window ≤ ceiling := by
  cases windowMs with
  | none => simp [checkDefaultCeiling]
  | some window =>
      cases ceilingMs with
      | none => simp [checkDefaultCeiling]
      | some ceiling => simp [checkDefaultCeiling]

theorem checkDefaultCeiling_eq_error
    {ceilingMs windowMs : Option Nat} {failure : String}
    (refused : checkDefaultCeiling ceilingMs windowMs = .error failure) :
    ∃ ceiling,
      ceilingMs = some ceiling ∧
        failure = discoveryWindowCeilingError ceiling := by
  cases windowMs with
  | none => cases refused
  | some window =>
      cases ceilingMs with
      | none => cases refused
      | some ceiling =>
          simp only [checkDefaultCeiling] at refused
          split at refused
          · cases refused
            exact ⟨ceiling, rfl, rfl⟩
          · cases refused

section Stored

variable {settings : RuntimeSettings} {patch : SettingsPatch}

namespace RuntimeSettings

theorem nextBeaconType_unnamed (unnamed : patch.defaultBeaconType = none) :
    settings.nextBeaconType patch =
      .ok settings.defaultBeaconType.value := by
  simp only [nextBeaconType, unnamed, Option.getD_none, BeaconType.ofName?_name]

theorem nextSize_unnamed
    (shape : ResaveableShape settings) (unnamed : patch.defaultSize = none) :
    settings.nextSize patch = .ok settings.defaultSize.value := by
  simp only [nextSize, unnamed, Option.getD_none, JsNumber.wholeAtLeast?_nat,
    if_pos shape.size_pos]

theorem nextSize_eq_ok
    {size : Nat} (passed : settings.nextSize patch = .ok size) :
    1 ≤ size ∧ patch.defaultSize.getD settings.defaultSize.value = .finite size := by
  simp only [nextSize] at passed
  split at passed
  · next guard =>
      cases passed
      exact (JsNumber.wholeAtLeast?_eq_some_iff.mp guard).symm
  · cases passed

/-- A stored threshold passes the size it is judged against, unless that size
is below it. -/
theorem nextThreshold_unnamed
    {size : Nat} (shape : ResaveableShape settings)
    (unnamed : patch.defaultThreshold = none) :
    settings.nextThreshold patch size =
      if settings.defaultThreshold.value ≤ size then
        .ok settings.defaultThreshold.value
      else
        .error thresholdError := by
  simp only [nextThreshold, unnamed, Option.getD_none,
    JsNumber.wholeAtLeast?_nat, if_pos shape.threshold_pos]

theorem nextThreshold_eq_ok
    {size threshold : Nat}
    (passed : settings.nextThreshold patch size = .ok threshold) :
    1 ≤ threshold ∧ threshold ≤ size ∧
      patch.defaultThreshold.getD settings.defaultThreshold.value =
        .finite threshold := by
  simp only [nextThreshold] at passed
  split at passed
  · next guard =>
      obtain ⟨named, positive⟩ := JsNumber.wholeAtLeast?_eq_some_iff.mp guard
      split at passed
      · next fits =>
          cases passed
          exact ⟨positive, fits, named⟩
      · cases passed
  · cases passed

theorem nextDiscoveryWindow_unnamed
    (resaveable : ResaveableDiscovery settings)
    (unnamed : patch.defaultDiscoveryWindowMs = none) :
    settings.nextDiscoveryWindow patch =
      .ok settings.defaultDiscoveryWindowMs.value := by
  have fits :
      checkDefaultCeiling settings.discoveryWindowCeilingMs
          settings.defaultDiscoveryWindowMs.value = .ok () :=
    checkDefaultCeiling_eq_ok_iff.mpr resaveable.withinCeiling
  simp only [nextDiscoveryWindow, unnamed,
    validateWindow_of_stored resaveable.discoveryWindow, ok_bind, fits]
  rfl

theorem nextDiscoveryWindow_eq_ok
    {accepted : Option Nat}
    (passed : settings.nextDiscoveryWindow patch = .ok accepted) :
    validateWindow discoveryWindowError
          (nextWindow settings.defaultDiscoveryWindowMs.value
            patch.defaultDiscoveryWindowMs) = .ok accepted ∧
      ∀ window ceiling,
        accepted = some window →
          settings.discoveryWindowCeilingMs = some ceiling →
            window ≤ ceiling := by
  simp only [nextDiscoveryWindow, bind_eq_ok_iff] at passed
  obtain ⟨window, valid, _, fits, ⟨rfl⟩⟩ := passed
  exact ⟨valid, checkDefaultCeiling_eq_ok_iff.mp fits⟩

theorem nextDiscoveryWindow_eq_error
    {failure : String}
    (refused : settings.nextDiscoveryWindow patch = .error failure) :
    failure = discoveryWindowError ∨
      ∃ ceiling,
        settings.discoveryWindowCeilingMs = some ceiling ∧
          failure = discoveryWindowCeilingError ceiling := by
  simp only [nextDiscoveryWindow, bind_eq_error_iff] at refused
  rcases refused with invalid | ⟨window, -, exceeds | ⟨_, -, never⟩⟩
  · exact Or.inl (validateWindow_eq_error invalid)
  · exact Or.inr (checkDefaultCeiling_eq_error exceeds)
  · cases never

theorem nextFundingWindow_unnamed
    (stored : StoredWindow settings.defaultFundingWindowMs.value)
    (unnamed : patch.defaultFundingWindowMs = none) :
    settings.nextFundingWindow patch =
      .ok settings.defaultFundingWindowMs.value := by
  simp only [nextFundingWindow, unnamed,
    validateWindow_of_stored stored]

end RuntimeSettings

end Stored

end Fields

section Saves

/-! ## Accepted saves and refused ones -/

/-- What an accepted save makes of one field: the value it names, or what
stood there.  The boot value always stands. -/
def FieldWritten
    {Raw Value : Type} (reads : Raw → Value → Prop) (named : Option Raw)
    (before after : SettingField Value) : Prop :=
  after.envDefault = before.envDefault ∧
    match named with
    | none => after.value = before.value
    | some raw => reads raw after.value

/-- An accepted save writes the fields it names and nothing else. -/
structure PatchWritten
    (patch : SettingsPatch) (before after : RuntimeSettings) : Prop where
  paused : after.paused = before.paused
  killSwitch : after.killSwitch = before.killSwitch
  ceiling : after.discoveryWindowCeilingMs = before.discoveryWindowCeilingMs
  serviceName :
    FieldWritten (fun text stored => stored = JsString.trimToUndefined text)
      patch.serviceName before.serviceName after.serviceName
  defaultBeaconType :
    FieldWritten (fun name stored => BeaconType.ofName? name = some stored)
      patch.defaultBeaconType before.defaultBeaconType after.defaultBeaconType
  defaultSize :
    FieldWritten (fun number (stored : Nat) => number = JsNumber.finite stored)
      patch.defaultSize before.defaultSize after.defaultSize
  defaultThreshold :
    FieldWritten (fun number (stored : Nat) => number = JsNumber.finite stored)
      patch.defaultThreshold before.defaultThreshold after.defaultThreshold
  defaultDiscoveryWindowMs :
    FieldWritten
      (fun window stored =>
        window = stored.map fun ms : Nat => JsNumber.finite ms)
      patch.defaultDiscoveryWindowMs before.defaultDiscoveryWindowMs
      after.defaultDiscoveryWindowMs
  defaultFundingWindowMs :
    FieldWritten
      (fun window stored =>
        window = stored.map fun ms : Nat => JsNumber.finite ms)
      patch.defaultFundingWindowMs before.defaultFundingWindowMs
      after.defaultFundingWindowMs
  termsText :
    FieldWritten (fun text stored => stored = JsString.trimToUndefined text)
      patch.termsText before.termsText after.termsText

/-- The fields a save can name. -/
inductive SettingName where
  | serviceName
  | defaultBeaconType
  | defaultSize
  | defaultThreshold
  | defaultDiscoveryWindowMs
  | defaultFundingWindowMs
  | termsText
  deriving DecidableEq

/-- Whether a save names a field. -/
def SettingsPatch.names (patch : SettingsPatch) : SettingName → Bool
  | .serviceName => patch.serviceName.isSome
  | .defaultBeaconType => patch.defaultBeaconType.isSome
  | .defaultSize => patch.defaultSize.isSome
  | .defaultThreshold => patch.defaultThreshold.isSome
  | .defaultDiscoveryWindowMs => patch.defaultDiscoveryWindowMs.isSome
  | .defaultFundingWindowMs => patch.defaultFundingWindowMs.isSome
  | .termsText => patch.termsText.isSome

/-- The messages a field is refused with. -/
def SettingName.Refusal
    (settings : RuntimeSettings) (message : String) : SettingName → Prop
  | .serviceName => message = tooLongError "Service name" maxServiceNameChars
  | .defaultBeaconType => message = beaconTypeError
  | .defaultSize => message = sizeError
  | .defaultThreshold => message = thresholdError
  | .defaultDiscoveryWindowMs =>
      message = discoveryWindowError ∨
        ∃ ceiling,
          settings.discoveryWindowCeilingMs = some ceiling ∧
            message = discoveryWindowCeilingError ceiling
  | .defaultFundingWindowMs => message = fundingWindowError
  | .termsText => message = tooLongError "Participation terms" maxTermsChars

/-- The save names a valid size and no threshold, and the size is below the
stored threshold. -/
def SettingsPatch.Shrinks
    (patch : SettingsPatch) (settings : RuntimeSettings) : Prop :=
  patch.defaultThreshold = none ∧
    ∃ size,
      patch.defaultSize.bind (JsNumber.wholeAtLeast? 1) = some size ∧
        size < settings.defaultThreshold.value

variable {settings after : RuntimeSettings} {patch : SettingsPatch}

namespace RuntimeSettings

theorem applySettings_eq_ok
    (accepted : settings.applySettings patch = .ok after) :
    ∃ serviceName beaconType size threshold discoveryWindowMs fundingWindowMs
        termsText,
      settings.nextServiceName patch = .ok serviceName ∧
        settings.nextBeaconType patch = .ok beaconType ∧
        settings.nextSize patch = .ok size ∧
        settings.nextThreshold patch size = .ok threshold ∧
        settings.nextDiscoveryWindow patch = .ok discoveryWindowMs ∧
        settings.nextFundingWindow patch = .ok fundingWindowMs ∧
        settings.nextTermsText patch = .ok termsText ∧
        after =
          settings.store serviceName beaconType size threshold
            discoveryWindowMs fundingWindowMs termsText := by
  rw [applySettings_eq] at accepted
  simp only [bind_eq_ok_iff] at accepted
  obtain ⟨serviceName, name, beaconType, beacon, size, sized, threshold, chosen,
    discoveryWindowMs, discovery, fundingWindowMs, funding, termsText, terms,
    ⟨rfl⟩⟩ := accepted
  exact
    ⟨serviceName, beaconType, size, threshold, discoveryWindowMs,
      fundingWindowMs, termsText, name, beacon, sized, chosen, discovery,
      funding, terms, rfl⟩

/-- An accepted save leaves a shape a save accepts again. -/
theorem resaveableShape_of_applySettings
    (shape : ResaveableShape settings)
    (accepted : settings.applySettings patch = .ok after) :
    ResaveableShape after := by
  obtain ⟨serviceName, beaconType, size, threshold, discoveryWindowMs,
    fundingWindowMs, termsText, name, beacon, sized, chosen, -, -, terms, rfl⟩ :=
    applySettings_eq_ok accepted
  obtain ⟨thresholdPositive, fits, -⟩ := nextThreshold_eq_ok chosen
  exact
    { serviceName := storedText_of_nextText shape.serviceName name
      size_pos := (nextSize_eq_ok sized).1
      threshold_pos := thresholdPositive
      threshold_le := fits
      termsText := storedText_of_nextText shape.termsText terms }

/-- An accepted save leaves settings a save accepts again. -/
theorem resaveable_of_applySettings
    (resaveable : Resaveable settings)
    (accepted : settings.applySettings patch = .ok after) :
    Resaveable after := by
  have shape :=
    resaveableShape_of_applySettings resaveable.toResaveableShape accepted
  obtain ⟨serviceName, beaconType, size, threshold, discoveryWindowMs,
    fundingWindowMs, termsText, -, -, -, -, discovery, funding, -, rfl⟩ :=
    applySettings_eq_ok accepted
  obtain ⟨valid, within⟩ := nextDiscoveryWindow_eq_ok discovery
  exact
    { toResaveableShape := shape
      discoveryWindow := (validateWindow_eq_ok valid).1
      withinCeiling := within
      fundingWindow := (validateWindow_eq_ok funding).1 }

theorem fieldWritten_of_nextText
    {what : String} {maximum : Nat} {stored : SettingField (Option String)}
    {named next : Option String} (kept : StoredText maximum stored.value)
    (passed : nextText what maximum stored.value named = .ok next) :
    FieldWritten (fun text value => value = JsString.trimToUndefined text)
      named stored (stored.write next) := by
  refine ⟨rfl, ?_⟩
  cases named with
  | none =>
      rw [nextText_none kept] at passed
      exact (Except.ok.inj passed).symm
  | some text =>
      rw [nextText_some] at passed
      split at passed
      · exact (Except.ok.inj passed).symm
      · cases passed

theorem fieldWritten_of_validateWindow
    {message : String} {stored : SettingField (Option Nat)}
    {named : Option (Option JsNumber)} {next : Option Nat}
    (kept : StoredWindow stored.value)
    (passed :
      validateWindow message (nextWindow stored.value named) = .ok next) :
    FieldWritten
      (fun window value => window = value.map fun ms : Nat => JsNumber.finite ms)
      named stored (stored.write next) := by
  refine ⟨rfl, ?_⟩
  cases named with
  | none =>
      rw [validateWindow_of_stored kept] at passed
      exact (Except.ok.inj passed).symm
  | some window => exact (validateWindow_eq_ok passed).2

theorem fieldWritten_of_getD
    {stored : SettingField Nat} {named : Option JsNumber} {next : Nat}
    (judged : named.getD stored.value = .finite next) :
    FieldWritten (fun number (value : Nat) => number = JsNumber.finite value)
      named stored (stored.write next) := by
  refine ⟨rfl, ?_⟩
  cases named with
  | none =>
      have same : ((stored.value : ℚ)) = (next : ℚ) := JsNumber.finite.inj judged
      exact_mod_cast same.symm
  | some number => exact judged

theorem fieldWritten_of_nextBeaconType
    {beaconType : BeaconType}
    (passed : settings.nextBeaconType patch = .ok beaconType) :
    FieldWritten (fun name stored => BeaconType.ofName? name = some stored)
      patch.defaultBeaconType settings.defaultBeaconType
      (settings.defaultBeaconType.write beaconType) := by
  refine ⟨rfl, ?_⟩
  cases named : patch.defaultBeaconType with
  | none =>
      rw [nextBeaconType_unnamed named] at passed
      exact (Except.ok.inj passed).symm
  | some name =>
      simp only [nextBeaconType, named, Option.getD_some] at passed
      split at passed
      · next known =>
          cases passed
          exact known
      · cases passed

/-- An accepted save writes exactly what it names. -/
theorem patchWritten_of_applySettings
    (resaveable : Resaveable settings)
    (accepted : settings.applySettings patch = .ok after) :
    PatchWritten patch settings after := by
  obtain ⟨serviceName, beaconType, size, threshold, discoveryWindowMs,
    fundingWindowMs, termsText, name, beacon, sized, chosen, discovery,
    funding, terms, rfl⟩ := applySettings_eq_ok accepted
  exact
    { paused := rfl
      killSwitch := rfl
      ceiling := rfl
      serviceName := fieldWritten_of_nextText resaveable.serviceName name
      defaultBeaconType := fieldWritten_of_nextBeaconType beacon
      defaultSize := fieldWritten_of_getD (nextSize_eq_ok sized).2
      defaultThreshold := fieldWritten_of_getD (nextThreshold_eq_ok chosen).2.2
      defaultDiscoveryWindowMs :=
        fieldWritten_of_validateWindow resaveable.discoveryWindow
          (nextDiscoveryWindow_eq_ok discovery).1
      defaultFundingWindowMs :=
        fieldWritten_of_validateWindow resaveable.fundingWindow funding
      termsText := fieldWritten_of_nextText resaveable.termsText terms }

/-- A field that stands when it is not named is refused only when it is. -/
theorem isSome_of_refused
    {Raw Value : Type} {named : Option Raw} {judged : Except String Value}
    {stored : Value} {message : String}
    (stands : named = none → judged = .ok stored)
    (refused : judged = .error message) :
    named.isSome = true := by
  cases named with
  | none =>
      rw [stands rfl] at refused
      cases refused
  | some raw => rfl

theorem nextText_eq_error
    {what message : String} {maximum : Nat} {stored named : Option String}
    (refused : nextText what maximum stored named = .error message)
    (kept : StoredText maximum stored) :
    named.isSome = true ∧ message = tooLongError what maximum := by
  cases named with
  | none =>
      rw [nextText_none kept] at refused
      cases refused
  | some text =>
      refine ⟨rfl, ?_⟩
      rw [nextText_some] at refused
      split at refused
      · cases refused
      · exact (Except.error.inj refused).symm

theorem nextBeaconType_eq_error
    {message : String}
    (refused : settings.nextBeaconType patch = .error message) :
    message = beaconTypeError := by
  simp only [nextBeaconType] at refused
  split at refused
  · cases refused
  · exact (Except.error.inj refused).symm

theorem nextSize_eq_error
    {message : String} (refused : settings.nextSize patch = .error message) :
    message = sizeError := by
  simp only [nextSize] at refused
  split at refused
  · cases refused
  · exact (Except.error.inj refused).symm

theorem nextThreshold_eq_error
    {message : String} {size : Nat}
    (refused : settings.nextThreshold patch size = .error message) :
    message = thresholdError := by
  simp only [nextThreshold] at refused
  split at refused
  · split at refused
    · cases refused
    · exact (Except.error.inj refused).symm
  · exact (Except.error.inj refused).symm

/-- An unnamed threshold is refused only by a save that shrinks the size. -/
theorem shrinks_of_nextThreshold
    (resaveable : Resaveable settings) {message : String} {size : Nat}
    (unnamed : patch.defaultThreshold = none)
    (sized : settings.nextSize patch = .ok size)
    (refused : settings.nextThreshold patch size = .error message) :
    patch.Shrinks settings := by
  rw [nextThreshold_unnamed resaveable.toResaveableShape unnamed] at refused
  split at refused
  · cases refused
  · next below =>
      refine ⟨unnamed, size, ?_, by omega⟩
      have judged := nextSize_eq_ok sized
      cases named : patch.defaultSize with
      | none =>
          rw [nextSize_unnamed resaveable.toResaveableShape named] at sized
          have stored : settings.defaultSize.value = size := Except.ok.inj sized
          have fits := resaveable.threshold_le
          omega
      | some number =>
          rw [named, Option.getD_some] at judged
          exact JsNumber.wholeAtLeast?_eq_some_iff.mpr judged.symm

/-- A refusal is about a field the save names, but for the threshold of a save
that shrinks the size below it. -/
theorem refusal_named
    (resaveable : Resaveable settings) {message : String}
    (refused : settings.applySettings patch = .error message) :
    (∃ name, patch.names name = true ∧ name.Refusal settings message) ∨
      (patch.Shrinks settings ∧ message = thresholdError) := by
  rw [applySettings_eq] at refused
  simp only [bind_eq_error_iff] at refused
  rcases refused with name | ⟨_, -, beacon | ⟨_, -, sized | ⟨size, sizeOk,
    chosen | ⟨_, -, discovery | ⟨_, -, funding | ⟨_, -, terms |
      ⟨_, -, never⟩⟩⟩⟩⟩⟩⟩
  · exact Or.inl ⟨.serviceName, nextText_eq_error name resaveable.serviceName⟩
  · exact
      Or.inl
        ⟨.defaultBeaconType, isSome_of_refused nextBeaconType_unnamed beacon,
          nextBeaconType_eq_error beacon⟩
  · exact
      Or.inl
        ⟨.defaultSize,
          isSome_of_refused (nextSize_unnamed resaveable.toResaveableShape)
            sized,
          nextSize_eq_error sized⟩
  · have message := nextThreshold_eq_error chosen
    cases named : patch.defaultThreshold with
    | none =>
        exact
          Or.inr ⟨shrinks_of_nextThreshold resaveable named sizeOk chosen, message⟩
    | some number =>
        exact
          Or.inl ⟨.defaultThreshold, Option.isSome_of_eq_some named, message⟩
  · exact
      Or.inl
        ⟨.defaultDiscoveryWindowMs,
          isSome_of_refused
            (nextDiscoveryWindow_unnamed resaveable.toResaveableDiscovery)
            discovery,
          nextDiscoveryWindow_eq_error discovery⟩
  · exact
      Or.inl
        ⟨.defaultFundingWindowMs,
          isSome_of_refused (nextFundingWindow_unnamed resaveable.fundingWindow) funding,
          validateWindow_eq_error funding⟩
  · exact Or.inl ⟨.termsText, nextText_eq_error terms resaveable.termsText⟩
  · cases never

end RuntimeSettings

end Saves

section Validity

/-! ## Valid saves

A save is valid when each field it names is valid by its own rule; the rule of
the threshold speaks of the size the save leaves behind. -/

/-- The size a save leaves behind, as far as it is a valid one. -/
def SettingsPatch.sizeAfter
    (patch : SettingsPatch) (settings : RuntimeSettings) : Nat :=
  (patch.defaultSize.bind (JsNumber.wholeAtLeast? 1)).getD
    settings.defaultSize.value

/-- A text within its bound once trimmed. -/
def ValidText (maximum : Nat) (named : Option String) : Prop :=
  ∀ text, named = some text →
    ∀ trimmed, JsString.trimToUndefined text = some trimmed →
      JsString.length trimmed ≤ maximum

/-- A cleared window, or a whole number of minutes within the ceiling. -/
def ValidWindow
    (ceilingMs : Option Nat) (named : Option (Option JsNumber)) : Prop :=
  ∀ window, named = some (some window) →
    ∃ ms,
      window.wholeAtLeast? oneMinuteMs = some ms ∧ ms % oneMinuteMs = 0 ∧
        ∀ ceiling, ceilingMs = some ceiling → ms ≤ ceiling

structure SettingsPatch.Valid
    (patch : SettingsPatch) (settings : RuntimeSettings) : Prop where
  serviceName : ValidText maxServiceNameChars patch.serviceName
  defaultBeaconType :
    ∀ name, patch.defaultBeaconType = some name →
      ∃ beaconType, BeaconType.ofName? name = some beaconType
  defaultSize :
    ∀ number, patch.defaultSize = some number →
      ∃ size, number.wholeAtLeast? 1 = some size
  defaultThreshold :
    ∀ number, patch.defaultThreshold = some number →
      ∃ threshold,
        number.wholeAtLeast? 1 = some threshold ∧
          threshold ≤ patch.sizeAfter settings
  defaultDiscoveryWindowMs :
    ValidWindow settings.discoveryWindowCeilingMs patch.defaultDiscoveryWindowMs
  defaultFundingWindowMs : ValidWindow none patch.defaultFundingWindowMs
  termsText : ValidText maxTermsChars patch.termsText

/-- The save that names nothing. -/
def SettingsPatch.empty : SettingsPatch where
  serviceName := none
  defaultBeaconType := none
  defaultSize := none
  defaultThreshold := none
  defaultDiscoveryWindowMs := none
  defaultFundingWindowMs := none
  termsText := none

namespace RuntimeSettings

/-- The save of the whole form as the holder serves it. -/
def wholePatch (settings : RuntimeSettings) : SettingsPatch where
  serviceName := some (settings.serviceName.value.getD "")
  defaultBeaconType := some settings.defaultBeaconType.value.name
  defaultSize := some settings.defaultSize.value
  defaultThreshold := some settings.defaultThreshold.value
  defaultDiscoveryWindowMs :=
    some (settings.defaultDiscoveryWindowMs.value.map fun ms : Nat =>
      JsNumber.finite ms)
  defaultFundingWindowMs :=
    some (settings.defaultFundingWindowMs.value.map fun ms : Nat =>
      JsNumber.finite ms)
  termsText := some (settings.termsText.value.getD "")

variable {settings after : RuntimeSettings} {patch : SettingsPatch}

theorem nextText_of_valid
    {what : String} {maximum : Nat} {stored named : Option String}
    (kept : StoredText maximum stored) (valid : ValidText maximum named) :
    ∃ next, nextText what maximum stored named = .ok next := by
  cases named with
  | none => exact ⟨stored, nextText_none kept⟩
  | some text =>
      refine ⟨JsString.trimToUndefined text, ?_⟩
      rw [nextText_some, if_pos (valid text rfl)]

theorem validateWindow_of_valid
    (message : String) {ceilingMs stored : Option Nat}
    {named : Option (Option JsNumber)} (kept : StoredWindow stored)
    (below :
      ∀ window ceiling,
        stored = some window → ceilingMs = some ceiling → window ≤ ceiling)
    (valid : ValidWindow ceilingMs named) :
    ∃ accepted,
      validateWindow message (nextWindow stored named) = .ok accepted ∧
        ∀ window ceiling,
          accepted = some window → ceilingMs = some ceiling →
            window ≤ ceiling := by
  match named with
  | none => exact ⟨stored, validateWindow_of_stored kept, below⟩
  | some none => exact ⟨none, rfl, nofun⟩
  | some (some window) =>
      obtain ⟨ms, guard, whole, fits⟩ := valid window rfl
      refine ⟨some ms, ?_, ?_⟩
      · simp only [nextWindow, validateWindow_some, guard, if_pos whole]
      · rintro _ ceiling ⟨rfl⟩ bounded
        exact fits ceiling bounded

theorem within_none (stored : Option Nat) :
    ∀ window ceiling,
      stored = some window → (none : Option Nat) = some ceiling →
        window ≤ ceiling := by
  intro _ _ _ unbounded
  cases unbounded

theorem nextBeaconType_of_valid (valid : patch.Valid settings) :
    ∃ beaconType, settings.nextBeaconType patch = .ok beaconType := by
  cases named : patch.defaultBeaconType with
  | none => exact ⟨_, nextBeaconType_unnamed named⟩
  | some name =>
      obtain ⟨beaconType, known⟩ := valid.defaultBeaconType name named
      refine ⟨beaconType, ?_⟩
      simp only [nextBeaconType, named, Option.getD_some, known]

theorem nextSize_of_valid
    (resaveable : Resaveable settings) (valid : patch.Valid settings) :
    settings.nextSize patch = .ok (patch.sizeAfter settings) := by
  cases named : patch.defaultSize with
  | none =>
      rw [nextSize_unnamed resaveable.toResaveableShape named, SettingsPatch.sizeAfter, named]
      rfl
  | some number =>
      obtain ⟨size, guard⟩ := valid.defaultSize number named
      simp only [nextSize, SettingsPatch.sizeAfter, named, Option.getD_some,
        Option.bind_some, guard]

/-- A threshold is refused in a valid save exactly when that save shrinks the
size below it. -/
theorem nextThreshold_of_valid
    (resaveable : Resaveable settings) (valid : patch.Valid settings) :
    (patch.Shrinks settings →
      settings.nextThreshold patch (patch.sizeAfter settings) =
        .error thresholdError) ∧
    (¬ patch.Shrinks settings →
      ∃ threshold,
        settings.nextThreshold patch (patch.sizeAfter settings) =
          .ok threshold) := by
  constructor
  · rintro ⟨unnamed, size, named, below⟩
    have after : patch.sizeAfter settings = size := by
      rw [SettingsPatch.sizeAfter, named, Option.getD_some]
    rw [after, nextThreshold_unnamed resaveable.toResaveableShape unnamed, if_neg (by omega)]
  · intro steady
    cases named : patch.defaultThreshold with
    | none =>
        refine ⟨settings.defaultThreshold.value, ?_⟩
        rw [nextThreshold_unnamed resaveable.toResaveableShape named, if_pos]
        by_contra exceeds
        cases sized : patch.defaultSize.bind (JsNumber.wholeAtLeast? 1) with
        | none =>
            have stored := resaveable.threshold_le
            rw [SettingsPatch.sizeAfter, sized, Option.getD_none] at exceeds
            omega
        | some size =>
            rw [SettingsPatch.sizeAfter, sized, Option.getD_some] at exceeds
            exact steady ⟨named, size, sized, by omega⟩
    | some number =>
        obtain ⟨threshold, guard, fits⟩ := valid.defaultThreshold number named
        refine ⟨threshold, ?_⟩
        simp only [nextThreshold, named, Option.getD_some, guard, if_pos fits]

theorem nextDiscoveryWindow_of_valid
    (resaveable : Resaveable settings) (valid : patch.Valid settings) :
    ∃ accepted, settings.nextDiscoveryWindow patch = .ok accepted := by
  obtain ⟨accepted, passed, within⟩ :=
    validateWindow_of_valid discoveryWindowError resaveable.discoveryWindow
      resaveable.withinCeiling valid.defaultDiscoveryWindowMs
  refine ⟨accepted, ?_⟩
  rw [nextDiscoveryWindow, passed, ok_bind,
    checkDefaultCeiling_eq_ok_iff.mpr within]
  rfl

/-- A valid save is refused only where it shrinks the size below the stored
threshold. -/
theorem applySettings_of_valid
    (resaveable : Resaveable settings) (valid : patch.Valid settings) :
    (patch.Shrinks settings →
      settings.applySettings patch = .error thresholdError) ∧
    (¬ patch.Shrinks settings →
      ∃ after, settings.applySettings patch = .ok after) := by
  have named : ∃ next, settings.nextServiceName patch = .ok next :=
    nextText_of_valid resaveable.serviceName valid.serviceName
  obtain ⟨serviceName, named⟩ := named
  obtain ⟨beaconType, beacon⟩ := nextBeaconType_of_valid valid
  have sized := nextSize_of_valid resaveable valid
  obtain ⟨refused, chosen⟩ := nextThreshold_of_valid resaveable valid
  constructor
  · intro shrinks
    rw [applySettings_eq, named, ok_bind, beacon, ok_bind, sized, ok_bind,
      refused shrinks]
    rfl
  · intro steady
    obtain ⟨threshold, passed⟩ := chosen steady
    obtain ⟨discoveryWindowMs, discovered⟩ :=
      nextDiscoveryWindow_of_valid resaveable valid
    obtain ⟨fundingWindowMs, funded, -⟩ :=
      validateWindow_of_valid fundingWindowError resaveable.fundingWindow
        (within_none _) valid.defaultFundingWindowMs
    have agreed : ∃ next, settings.nextTermsText patch = .ok next :=
      nextText_of_valid resaveable.termsText valid.termsText
    obtain ⟨termsText, agreed⟩ := agreed
    rw [applySettings_eq, named, ok_bind, beacon, ok_bind, sized, ok_bind,
      passed, ok_bind, discovered, ok_bind, nextFundingWindow, funded, ok_bind,
      agreed, ok_bind]
    exact ⟨_, rfl⟩

/-- A field stands when whatever its new value reads as is the old one. -/
theorem eq_of_fieldWritten
    {Raw Value : Type} {reads : Raw → Value → Prop} {named : Option Raw}
    {before after : SettingField Value}
    (written : FieldWritten reads named before after)
    (stands :
      ∀ raw, named = some raw →
        ∀ value, reads raw value → value = before.value) :
    after = before := by
  obtain ⟨booted, rest⟩ := written
  have current : after.value = before.value := by
    cases named with
    | none => exact rest
    | some raw => exact stands raw rfl _ rest
  cases after
  cases before
  cases booted
  cases current
  rfl

/-- A save whose named fields are all where they were leaves the holder as it
was. -/
theorem eq_of_patchWritten
    (written : PatchWritten patch settings after)
    (serviceName :
      ∀ text, patch.serviceName = some text →
        JsString.trimToUndefined text = settings.serviceName.value)
    (beaconType :
      ∀ name, patch.defaultBeaconType = some name →
        BeaconType.ofName? name = some settings.defaultBeaconType.value)
    (size :
      ∀ number, patch.defaultSize = some number →
        number = settings.defaultSize.value)
    (threshold :
      ∀ number, patch.defaultThreshold = some number →
        number = settings.defaultThreshold.value)
    (discovery :
      ∀ window, patch.defaultDiscoveryWindowMs = some window →
        window =
          settings.defaultDiscoveryWindowMs.value.map
            fun ms : Nat => JsNumber.finite ms)
    (funding :
      ∀ window, patch.defaultFundingWindowMs = some window →
        window =
          settings.defaultFundingWindowMs.value.map
            fun ms : Nat => JsNumber.finite ms)
    (terms :
      ∀ text, patch.termsText = some text →
        JsString.trimToUndefined text = settings.termsText.value) :
    after = settings := by
  have numbers :
      Function.Injective fun ms : Nat => JsNumber.finite ms := by
    intro left right same
    exact_mod_cast JsNumber.finite.inj same
  have nameField := eq_of_fieldWritten written.serviceName
    fun text named _ reads => reads.trans (serviceName text named)
  have beaconField := eq_of_fieldWritten written.defaultBeaconType
    fun name named _ reads =>
      Option.some.inj (reads.symm.trans (beaconType name named))
  have sizeField := eq_of_fieldWritten written.defaultSize
    fun number named _ reads => numbers (reads.symm.trans (size number named))
  have thresholdField := eq_of_fieldWritten written.defaultThreshold
    fun number named _ reads =>
      numbers (reads.symm.trans (threshold number named))
  have discoveryField := eq_of_fieldWritten written.defaultDiscoveryWindowMs
    fun window named _ reads =>
      Option.map_injective numbers (reads.symm.trans (discovery window named))
  have fundingField := eq_of_fieldWritten written.defaultFundingWindowMs
    fun window named _ reads =>
      Option.map_injective numbers (reads.symm.trans (funding window named))
  have termsField := eq_of_fieldWritten written.termsText
    fun text named _ reads => reads.trans (terms text named)
  obtain ⟨paused, killSwitch, ceiling, -⟩ := written
  cases after
  cases settings
  simp only [RuntimeSettings.mk.injEq]
  exact
    ⟨paused, killSwitch, nameField, beaconField, sizeField, thresholdField,
      discoveryField, fundingField, termsField, ceiling⟩

/-- The empty save is accepted and changes nothing. -/
theorem applySettings_empty (resaveable : Resaveable settings) :
    settings.applySettings .empty = .ok settings := by
  have valid : SettingsPatch.empty.Valid settings :=
    ⟨nofun, nofun, nofun, nofun, nofun, nofun, nofun⟩
  have steady : ¬ SettingsPatch.empty.Shrinks settings := by
    rintro ⟨-, _, named, -⟩
    cases named
  obtain ⟨after, accepted⟩ := (applySettings_of_valid resaveable valid).2 steady
  have written := patchWritten_of_applySettings resaveable accepted
  rw [accepted,
    eq_of_patchWritten written nofun nofun nofun nofun nofun nofun nofun]

theorem trimToUndefined_getD
    {maximum : Nat} {stored : Option String}
    (kept : StoredText maximum stored) :
    JsString.trimToUndefined (stored.getD "") = stored := by
  cases stored with
  | none => decide
  | some text => exact (kept text rfl).1

/-- What the holder serves, it accepts back, and nothing changes. -/
theorem applySettings_wholePatch (resaveable : Resaveable settings) :
    settings.applySettings settings.wholePatch = .ok settings := by
  have text :
      ∀ {maximum : Nat} {stored : Option String},
        StoredText maximum stored →
          ValidText maximum (some (stored.getD "")) := by
    rintro maximum stored kept _ ⟨rfl⟩ trimmed trims
    rw [trimToUndefined_getD kept] at trims
    exact (kept trimmed trims).2
  have window :
      ∀ {ceilingMs stored : Option Nat},
        StoredWindow stored →
        (∀ ms ceiling,
          stored = some ms → ceilingMs = some ceiling → ms ≤ ceiling) →
          ValidWindow ceilingMs
            (some (stored.map fun ms : Nat => JsNumber.finite ms)) := by
    intro ceilingMs stored kept within shown named
    obtain ⟨ms, present, rfl⟩ :=
      Option.map_eq_some_iff.mp (Option.some.inj named)
    obtain ⟨minute, whole⟩ := kept ms present
    refine ⟨ms, ?_, whole, fun ceiling => within ms ceiling present⟩
    rw [JsNumber.wholeAtLeast?_nat, if_pos minute]
  have sized :
      settings.wholePatch.sizeAfter settings = settings.defaultSize.value := by
    simp only [SettingsPatch.sizeAfter, wholePatch, Option.bind_some,
      JsNumber.wholeAtLeast?_nat, if_pos resaveable.size_pos, Option.getD_some]
  have valid : settings.wholePatch.Valid settings :=
    { serviceName := text resaveable.serviceName
      defaultBeaconType := by
        rintro _ ⟨rfl⟩
        exact ⟨_, BeaconType.ofName?_name _⟩
      defaultSize := by
        rintro _ ⟨rfl⟩
        exact ⟨_, by rw [JsNumber.wholeAtLeast?_nat, if_pos resaveable.size_pos]⟩
      defaultThreshold := by
        rintro _ ⟨rfl⟩
        refine ⟨settings.defaultThreshold.value, ?_, ?_⟩
        · rw [JsNumber.wholeAtLeast?_nat, if_pos resaveable.threshold_pos]
        · rw [sized]
          exact resaveable.threshold_le
      defaultDiscoveryWindowMs :=
        window resaveable.discoveryWindow resaveable.withinCeiling
      defaultFundingWindowMs :=
        window resaveable.fundingWindow (within_none _)
      termsText := text resaveable.termsText }
  have steady : ¬ settings.wholePatch.Shrinks settings := by
    rintro ⟨unnamed, -⟩
    cases unnamed
  obtain ⟨after, accepted⟩ := (applySettings_of_valid resaveable valid).2 steady
  have written := patchWritten_of_applySettings resaveable accepted
  have same : after = settings := by
    apply eq_of_patchWritten written
    · rintro _ ⟨rfl⟩
      exact trimToUndefined_getD resaveable.serviceName
    · rintro _ ⟨rfl⟩
      exact BeaconType.ofName?_name _
    · rintro _ ⟨rfl⟩
      rfl
    · rintro _ ⟨rfl⟩
      rfl
    · rintro _ ⟨rfl⟩
      rfl
    · rintro _ ⟨rfl⟩
      rfl
    · rintro _ ⟨rfl⟩
      exact trimToUndefined_getD resaveable.termsText
  rw [accepted, same]

end RuntimeSettings

end Validity

section Runs

/-! ## The holder along a run -/

/-- `applySettings` as the route calls it: the problem it answers, and the
holder afterwards. -/
def RuntimeSettings.save
    (settings : RuntimeSettings) (patch : SettingsPatch) :
    Option String × RuntimeSettings :=
  match settings.applySettings patch with
  | .error problem => (some problem, settings)
  | .ok after => (none, after)

/-- What can be asked of a holder. -/
inductive SettingsEvent where
  | save (patch : SettingsPatch)
  | pause
  | resume
  | disableBroadcast (now : Nat)

def RuntimeSettings.step
    (settings : RuntimeSettings) : SettingsEvent → RuntimeSettings
  | .save patch => (settings.save patch).2
  | .pause => settings.pause
  | .resume => settings.resume
  | .disableBroadcast now =>
      { settings with killSwitch := settings.killSwitch.disableBroadcast now }

/-- One holder from its boot on. -/
def settingsMachine
    (seed : RuntimeSettingsSeed) : Machine RuntimeSettings SettingsEvent where
  init := createRuntimeSettings wholeMinutesAtOrBelow seed
  step := RuntimeSettings.step
  admits _ _ := True

theorem Resaveable.step
    {settings : RuntimeSettings} (resaveable : Resaveable settings)
    (event : SettingsEvent) :
    Resaveable (settings.step event) := by
  cases event with
  | save patch =>
      simp only [RuntimeSettings.step, RuntimeSettings.save]
      cases accepted : settings.applySettings patch with
      | error problem => exact resaveable
      | ok after =>
          exact RuntimeSettings.resaveable_of_applySettings resaveable accepted
  | pause => exact { resaveable with }
  | resume => exact { resaveable with }
  | disableBroadcast now => exact { resaveable with }

/-- A holder can be asked anything at any time. -/
theorem settings_admits (seed : RuntimeSettingsSeed) :
    ∀ events : List SettingsEvent, (settingsMachine seed).Admits events :=
  Machine.admits_of_offered fun _ _ => trivial

theorem always_resaveable (seed : RuntimeSettingsSeed) :
    (settingsMachine seed).Always Resaveable :=
  Machine.Always.of_inductive (resaveable_createRuntimeSettings seed)
    fun _ event resaveable _ => resaveable.step event

/-- What every save of a holder does. -/
structure SaveLaw (settings : RuntimeSettings) : Prop where
  /-- Saving nothing is accepted. -/
  empty : settings.applySettings .empty = .ok settings
  /-- Saving what the holder serves is accepted. -/
  whole : settings.applySettings settings.wholePatch = .ok settings
  /-- A save of valid fields is accepted, unless it takes the size below the
  stored threshold without naming a threshold. -/
  valid :
    ∀ patch : SettingsPatch, patch.Valid settings →
      (patch.Shrinks settings →
        settings.applySettings patch = .error thresholdError) ∧
      (¬ patch.Shrinks settings →
        ∃ after, settings.applySettings patch = .ok after)
  /-- A refused save leaves the holder alone, and but for that one case its
  message is about a field it names. -/
  refused :
    ∀ (patch : SettingsPatch) problem, (settings.save patch).1 = some problem →
      (settings.save patch).2 = settings ∧
        ((∃ name, patch.names name = true ∧ name.Refusal settings problem) ∨
          (patch.Shrinks settings ∧ problem = thresholdError))
  /-- An accepted save writes exactly the fields it names. -/
  accepted :
    ∀ patch : SettingsPatch, (settings.save patch).1 = none →
      PatchWritten patch settings (settings.save patch).2

theorem saveLaw_of_resaveable
    {settings : RuntimeSettings} (resaveable : Resaveable settings) :
    SaveLaw settings where
  empty := RuntimeSettings.applySettings_empty resaveable
  whole := RuntimeSettings.applySettings_wholePatch resaveable
  valid _ valid := RuntimeSettings.applySettings_of_valid resaveable valid
  refused patch problem answered := by
    simp only [RuntimeSettings.save] at answered ⊢
    cases judged : settings.applySettings patch with
    | error message =>
        rw [judged] at answered
        cases answered
        exact ⟨rfl, RuntimeSettings.refusal_named resaveable judged⟩
    | ok after =>
        rw [judged] at answered
        cases answered
  accepted patch answered := by
    simp only [RuntimeSettings.save] at answered ⊢
    cases judged : settings.applySettings patch with
    | error message =>
        rw [judged] at answered
        cases answered
    | ok after =>
        exact RuntimeSettings.patchWritten_of_applySettings resaveable judged

/-- Whatever a holder was seeded with and whatever was saved since, the save
law holds. -/
theorem saveLaw_of_run
    (seed : RuntimeSettingsSeed) :
    (settingsMachine seed).Always SaveLaw :=
  (always_resaveable seed).mono fun _ => saveLaw_of_resaveable

/-- A service booted with size two: a save of the valid size one is refused
with a message about the threshold, which it does not name. -/
theorem shrinking_save_refused :
    let seed : RuntimeSettingsSeed :=
      ⟨none, none, some 2, none, none, none, none, none⟩
    let settings := (settingsMachine seed).run []
    let patch : SettingsPatch :=
      { SettingsPatch.empty with defaultSize := some 1 }
    patch.Valid settings ∧
      patch.names .defaultThreshold = false ∧
      (settings.save patch).1 = some thresholdError := by
  refine ⟨⟨nofun, nofun, ?_, nofun, nofun, nofun, nofun⟩, rfl, ?_⟩
  · rintro _ ⟨rfl⟩
    exact ⟨1, by decide +kernel⟩
  · decide +kernel

end Runs

end Btcr2Aggregation
