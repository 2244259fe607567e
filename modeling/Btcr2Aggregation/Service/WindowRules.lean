import Btcr2Aggregation.Service.DefaultDrafts
import Btcr2Aggregation.Web.CohortForm

/-!
# One window on every surface

A timing window reaches the service through a create, an edit or a settings
save, and goes back to the operator through the console's minutes fields.
This module compares what the surfaces accept.  Windows are doubles here, and
what is computed of them is rounded: the ceiling, the windows a holder boots
with, and both ways of a minutes field.
-/

namespace Btcr2Aggregation

section Surfaces

/-! ## The surfaces -/

/-- The two ways into a draft. -/
inductive DraftSurface where
  | create
  | edit
  deriving DecidableEq

/-- A surface answers a row. -/
def DraftSurface.Takes
    (options : OperatorOptions) (state : OperatorState) (draftId : CohortId)
    (input : DraftInput) : DraftSurface → Prop
  | .create => ∃ row, (createDraft options state draftId input).1 = .ok row
  | .edit => ∃ row, (updateDraft options state draftId input).1 = .ok (some row)

/-- A save answers no problem. -/
def SaveTakes (settings : RuntimeSettings) (patch : SettingsPatch) : Prop :=
  (settings.save patch).1 = none

/-- A body with other windows. -/
def DraftInput.withWindows
    (input : DraftInput) (discoveryWindowMs fundingWindowMs : Option JsNumber) :
    DraftInput :=
  { input with discoveryWindowMs, fundingWindowMs }

/-- The save of one discovery window. -/
def discoverySave (window : JsNumber) : SettingsPatch :=
  { SettingsPatch.empty with defaultDiscoveryWindowMs := some (some window) }

/-- The save of one funding window. -/
def fundingSave (window : JsNumber) : SettingsPatch :=
  { SettingsPatch.empty with defaultFundingWindowMs := some (some window) }

/-- The surfaces agree on one window.  A body that is accepted without windows
is accepted with the window exactly when a save of the window is, and a window
that any surface accepts survives the console's minutes fields. -/
structure WindowAgrees
    (printer : Binary64.Printer) (options : OperatorOptions)
    (state : OperatorState) (window : JsNumber) : Prop where
  discovery :
    ∀ (surface : DraftSurface) (draftId : CohortId) (input : DraftInput),
      surface.Takes options state draftId (input.withWindows none none) →
        (surface.Takes options state draftId
            (input.withWindows (some window) none) ↔
          SaveTakes state.settings (discoverySave window))
  funding :
    ∀ (surface : DraftSurface) (draftId : CohortId) (input : DraftInput),
      surface.Takes options state draftId (input.withWindows none none) →
        (surface.Takes options state draftId
            (input.withWindows none (some window)) ↔
          SaveTakes state.settings (fundingSave window))
  draftRereads :
    ∀ (surface : DraftSurface) (draftId : CohortId) (input : DraftInput),
      surface.Takes options state draftId
            (input.withWindows (some window) none) ∨
          surface.Takes options state draftId
            (input.withWindows none (some window)) →
        parseWindow (msToMinutesText printer (some window)) = .ms window
  saveRereads :
    SaveTakes state.settings (discoverySave window) ∨
        SaveTakes state.settings (fundingSave window) →
      parseWindow (msToMinutesText printer (some window)) = .ms window

end Surfaces

section Guards

/-! ## What each surface asks of a window -/

/-- What the draft validator asks of a window. -/
def DraftWindow (window : JsNumber) : Prop :=
  ∃ ms : Nat, window = .finite ms ∧ oneMinuteMs ≤ ms

/-- What it asks of a discovery window besides. -/
def WithinTtl (cohortTtlMs : Option JsNumber) (window : JsNumber) : Prop :=
  ∀ (ttl : ℚ) (ms : Nat),
    cohortTtlMs = some (.finite ttl) → window = .finite ms → ms ≤ ttl

/-- What a save asks of a window. -/
def SavedWindow (window : JsNumber) : Prop :=
  ∃ ms : Nat, window = .finite ms ∧ oneMinuteMs ≤ ms ∧ ms % oneMinuteMs = 0

/-- What it asks of a discovery window besides. -/
def WithinCeiling (ceilingMs : Option Nat) (window : JsNumber) : Prop :=
  ∀ ceiling ms : Nat,
    ceilingMs = some ceiling → window = .finite ms → ms ≤ ceiling

theorem finite_injective : Function.Injective fun ms : Nat => JsNumber.finite ms := by
  intro left right same
  exact_mod_cast JsNumber.finite.inj same

theorem validateDraftWindow_eq_ok_iff
    {message : String} {window : Option JsNumber} {accepted : Option Nat} :
    validateDraftWindow message window = .ok accepted ↔
      window = (accepted.map fun ms : Nat => JsNumber.finite ms) ∧
        ∀ ms, accepted = some ms → oneMinuteMs ≤ ms := by
  constructor
  · intro passed
    refine ⟨?_, minute_of_validateDraftWindow passed⟩
    cases window with
    | none =>
        cases passed
        rfl
    | some window =>
        simp only [validateDraftWindow] at passed
        split at passed
        · next ms guard =>
            cases passed
            rw [(JsNumber.wholeAtLeast?_eq_some_iff.mp guard).1]
            rfl
        · cases passed
  · rintro ⟨rfl, minute⟩
    cases accepted with
    | none => rfl
    | some ms =>
        simp only [validateDraftWindow, Option.map_some,
          JsNumber.wholeAtLeast?_nat, if_pos (minute ms rfl)]

theorem checkDiscoveryCeiling_eq_ok_iff
    {cohortTtlMs : Option JsNumber} {window : Option Nat} :
    checkDiscoveryCeiling cohortTtlMs window = .ok () ↔
      ∀ (ttl : ℚ) (ms : Nat),
        cohortTtlMs = some (.finite ttl) → window = some ms → ms ≤ ttl := by
  cases window with
  | none => simp [checkDiscoveryCeiling]
  | some ms =>
      simp only [checkDiscoveryCeiling]
      split
      · next ttl =>
          simp only [Option.some.injEq, JsNumber.finite.injEq]
          by_cases exceeds : ttl < ms
          · rw [if_pos exceeds]
            constructor
            · exact nofun
            · intro within
              exact absurd (within ttl ms rfl rfl) (not_le.mpr exceeds)
          · rw [if_neg exceeds]
            refine ⟨?_, fun _ => rfl⟩
            rintro _ _ _ rfl rfl
            exact not_lt.mp exceeds
      · next unbounded =>
          refine ⟨?_, fun _ => rfl⟩
          rintro _ ttl other rfl
          exact absurd rfl (unbounded ttl)

/-- An absent window or one the validator takes is accepted as it is. -/
theorem exists_validateDraftWindow
    (message : String) {given : Option JsNumber}
    (taken : ∀ window, given = some window → DraftWindow window) :
    ∃ accepted, validateDraftWindow message given = .ok accepted := by
  cases given with
  | none => exact ⟨none, rfl⟩
  | some window =>
      obtain ⟨ms, rfl, minute⟩ := taken window rfl
      refine ⟨some ms, validateDraftWindow_eq_ok_iff.mpr ⟨rfl, ?_⟩⟩
      rintro _ ⟨rfl⟩
      exact minute

theorem draftWindow_of_validateDraftWindow
    {message : String} {window : JsNumber} {accepted : Option Nat}
    (passed : validateDraftWindow message (some window) = .ok accepted) :
    ∃ ms : Nat,
      accepted = some ms ∧ window = .finite ms ∧ oneMinuteMs ≤ ms := by
  obtain ⟨same, minute⟩ := validateDraftWindow_eq_ok_iff.mp passed
  obtain ⟨ms, present, rfl⟩ := Option.map_eq_some_iff.mp same.symm
  exact ⟨ms, present, rfl, minute ms present⟩

/-- Windows are judged beside the rest of a body: they neither help nor hurt
its shape. -/
theorem validateDraft_withWindows_iff
    {input : DraftInput} {autoFallbackOnStall : Bool}
    {cohortTtlMs discovery funding : Option JsNumber} :
    (∃ shape,
      validateDraft (input.withWindows discovery funding) autoFallbackOnStall
        cohortTtlMs = .ok shape) ↔
      (∃ shape,
        validateDraft (input.withWindows none none) autoFallbackOnStall
          cohortTtlMs = .ok shape) ∧
      (∀ window, discovery = some window →
        DraftWindow window ∧ WithinTtl cohortTtlMs window) ∧
      ∀ window, funding = some window → DraftWindow window := by
  constructor
  · rintro ⟨shape, accepted⟩
    obtain ⟨known, sized, chosen, promised, discovered, funded, ceiling⟩ :=
      validateDraft_eq_ok_iff.mp accepted
    refine ⟨⟨{ shape with
        windows := ⟨none, none⟩
        discovery_minute := nofun
        funding_minute := nofun }, ?_⟩, ?_, ?_⟩
    · exact
        validateDraft_eq_ok_iff.mpr
          ⟨known, sized, chosen, promised, rfl, rfl, rfl⟩
    · rintro window rfl
      obtain ⟨ms, present, rfl, minute⟩ :=
        draftWindow_of_validateDraftWindow discovered
      refine ⟨⟨ms, rfl, minute⟩, ?_⟩
      intro ttl other bounded same
      cases finite_injective same
      exact checkDiscoveryCeiling_eq_ok_iff.mp ceiling ttl ms bounded present
    · rintro window rfl
      obtain ⟨ms, -, rfl, minute⟩ := draftWindow_of_validateDraftWindow funded
      exact ⟨ms, rfl, minute⟩
  · rintro ⟨⟨shape, accepted⟩, discoveryTaken, fundingTaken⟩
    obtain ⟨known, sized, chosen, promised, -⟩ :=
      validateDraft_eq_ok_iff.mp accepted
    obtain ⟨discoveryMs, discovered⟩ :=
      exists_validateDraftWindow discoveryWindowError
        fun window named => (discoveryTaken window named).1
    obtain ⟨fundingMs, funded⟩ :=
      exists_validateDraftWindow fundingWindowError fundingTaken
    refine ⟨{ shape with
        windows := ⟨discoveryMs, fundingMs⟩
        discovery_minute := minute_of_validateDraftWindow discovered
        funding_minute := minute_of_validateDraftWindow funded },
      validateDraft_eq_ok_iff.mpr
        ⟨known, sized, chosen, promised, discovered, funded, ?_⟩⟩
    apply checkDiscoveryCeiling_eq_ok_iff.mpr
    intro ttl ms bounded present
    have same := (validateDraftWindow_eq_ok_iff.mp discovered).1
    change discoveryMs = some ms at present
    rw [present] at same
    exact (discoveryTaken _ same).2 ttl ms bounded rfl

end Guards

section Acceptance

/-! ## What each surface accepts -/

variable {options : CreateServiceOptions} {state : OperatorState}
  {draftId : CohortId}

/-- The body the validator sees. -/
def DraftSurface.body
    (settings : RuntimeSettings) (input : DraftInput) :
    DraftSurface → DraftInput
  | .create => withServiceDefaults settings input
  | .edit => input

/-- An edit needs its draft. -/
def DraftSurface.Reaches
    (state : OperatorState) (draftId : CohortId) : DraftSurface → Prop
  | .create => True
  | .edit => draftId ∈ state.drafts

theorem takes_iff (surface : DraftSurface) {input : DraftInput} :
    surface.Takes options.operatorOptions state draftId input ↔
      surface.Reaches state draftId ∧
        ∃ shape,
          validateDraft (surface.body state.settings input)
            options.operatorOptions.autoFallbackOnStall
            options.cohortTtlMs = .ok shape := by
  cases surface with
  | create =>
      refine (createDraft_accepts_iff draftId).trans ?_
      refine (judgeDraft_eq_ok_iff options state.settings draftId).trans ?_
      exact (and_iff_right trivial).symm
  | edit =>
      have judged := @judgeDraft_eq_ok_iff options state.settings draftId input
      simp only [DraftSurface.Takes, DraftSurface.Reaches, DraftSurface.body,
        ← judged, updateDraft]
      by_cases known : draftId ∈ state.drafts
      · rw [if_pos known]
        cases judgeDraft options.operatorOptions state.settings draftId input with
        | error message => simp
        | ok entry => simp [known]
      · rw [if_neg known]
        simp [known]

/-- A surface judges the windows of a body beside the rest of it. -/
theorem takes_withWindows_iff
    (surface : DraftSurface) {input : DraftInput}
    {discovery funding : Option JsNumber} :
    surface.Takes options.operatorOptions state draftId
        (input.withWindows discovery funding) ↔
      surface.Takes options.operatorOptions state draftId
          (input.withWindows none none) ∧
        (∀ window, discovery = some window →
          DraftWindow window ∧ WithinTtl options.cohortTtlMs window) ∧
        ∀ window, funding = some window → DraftWindow window := by
  have body :
      ∀ left right,
        surface.body state.settings (input.withWindows left right) =
          (surface.body state.settings input).withWindows left right := by
    intro left right
    cases surface with
    | create => rfl
    | edit => rfl
  rw [takes_iff, takes_iff, body, body, validateDraft_withWindows_iff,
    and_assoc]

variable {settings : RuntimeSettings} {window : JsNumber}

theorem saveTakes_iff {patch : SettingsPatch} :
    SaveTakes settings patch ↔
      ∃ after, settings.applySettings patch = .ok after := by
  simp only [SaveTakes, RuntimeSettings.save]
  cases settings.applySettings patch with
  | error problem => simp
  | ok after => simp

theorem validateWindow_eq_ok_iff
    {message : String} {window : Option JsNumber} {accepted : Option Nat} :
    validateWindow message window = .ok accepted ↔
      StoredWindow accepted ∧
        window = accepted.map fun ms : Nat => JsNumber.finite ms := by
  refine ⟨validateWindow_eq_ok, ?_⟩
  rintro ⟨stored, rfl⟩
  exact validateWindow_of_stored stored

theorem nextDiscoveryWindow_eq_ok_iff
    {patch : SettingsPatch} {accepted : Option Nat} :
    settings.nextDiscoveryWindow patch = .ok accepted ↔
      validateWindow discoveryWindowError
          (RuntimeSettings.nextWindow settings.defaultDiscoveryWindowMs.value
            patch.defaultDiscoveryWindowMs) = .ok accepted ∧
        ∀ window ceiling,
          accepted = some window →
            settings.discoveryWindowCeilingMs = some ceiling →
              window ≤ ceiling := by
  refine ⟨RuntimeSettings.nextDiscoveryWindow_eq_ok, ?_⟩
  rintro ⟨valid, within⟩
  have fits := checkDefaultCeiling_eq_ok_iff.mpr within
  simp only [RuntimeSettings.nextDiscoveryWindow, valid, ok_bind, fits]
  rfl

/-- A save that names windows only is judged by its windows and those already
stored. -/
theorem saveTakes_windows_iff
    (shape : ResaveableShape settings)
    (discovery funding : Option (Option JsNumber)) :
    let patch : SettingsPatch :=
      { SettingsPatch.empty with
        defaultDiscoveryWindowMs := discovery
        defaultFundingWindowMs := funding }
    SaveTakes settings patch ↔
      (∃ accepted, settings.nextDiscoveryWindow patch = .ok accepted) ∧
        ∃ accepted, settings.nextFundingWindow patch = .ok accepted := by
  intro patch
  rw [saveTakes_iff]
  constructor
  · rintro ⟨after, accepted⟩
    obtain ⟨_, _, _, _, discoveryWindowMs, fundingWindowMs, _, -, -, -, -,
      discovered, funded, -⟩ := RuntimeSettings.applySettings_eq_ok accepted
    exact ⟨⟨_, discovered⟩, _, funded⟩
  · rintro ⟨⟨discoveryWindowMs, discovered⟩, fundingWindowMs, funded⟩
    have named :
        settings.nextServiceName patch = .ok settings.serviceName.value :=
      nextText_none shape.serviceName
    have beacon :
        settings.nextBeaconType patch = .ok settings.defaultBeaconType.value :=
      RuntimeSettings.nextBeaconType_unnamed rfl
    have sized : settings.nextSize patch = .ok settings.defaultSize.value :=
      RuntimeSettings.nextSize_unnamed shape rfl
    have chosen :
        settings.nextThreshold patch settings.defaultSize.value =
          .ok settings.defaultThreshold.value := by
      rw [RuntimeSettings.nextThreshold_unnamed shape rfl,
        if_pos shape.threshold_le]
    have agreed :
        settings.nextTermsText patch = .ok settings.termsText.value :=
      nextText_none shape.termsText
    rw [RuntimeSettings.applySettings_eq, named, ok_bind, beacon, ok_bind,
      sized, ok_bind, chosen, ok_bind, discovered, ok_bind, funded, ok_bind,
      agreed, ok_bind]
    exact ⟨_, rfl⟩

/-- A window that is named is judged as it is. -/
theorem exists_validateWindow_named_iff {message : String} :
    (∃ accepted, validateWindow message (some window) = .ok accepted) ↔
      SavedWindow window := by
  constructor
  · rintro ⟨accepted, valid⟩
    obtain ⟨stored, same⟩ := validateWindow_eq_ok valid
    obtain ⟨ms, present, rfl⟩ := Option.map_eq_some_iff.mp same.symm
    exact ⟨ms, rfl, stored ms present⟩
  · rintro ⟨ms, rfl, minute, whole⟩
    refine ⟨some ms, validateWindow_eq_ok_iff.mpr ⟨?_, rfl⟩⟩
    rintro _ ⟨rfl⟩
    exact ⟨minute, whole⟩

theorem eq_of_validateWindow_stored
    {message : String} {stored accepted : Option Nat}
    (valid :
      validateWindow message (RuntimeSettings.nextWindow stored none) =
        .ok accepted) :
    accepted = stored ∧ StoredWindow stored := by
  obtain ⟨kept, same⟩ := validateWindow_eq_ok valid
  have equal : stored = accepted :=
    Option.map_injective finite_injective same
  subst equal
  exact ⟨rfl, kept⟩

/-- A save of a discovery window is judged by it, and by the funding window
already stored. -/
theorem saveTakes_discoverySave_iff
    (shape : ResaveableShape settings) (window : JsNumber) :
    SaveTakes settings (discoverySave window) ↔
      SavedWindow window ∧
        WithinCeiling settings.discoveryWindowCeilingMs window ∧
        StoredWindow settings.defaultFundingWindowMs.value := by
  refine (saveTakes_windows_iff shape (some (some window)) none).trans ?_
  constructor
  · rintro ⟨⟨discoveryWindowMs, discovered⟩, fundingWindowMs, funded⟩
    obtain ⟨valid, within⟩ := nextDiscoveryWindow_eq_ok_iff.mp discovered
    refine ⟨exists_validateWindow_named_iff.mp ⟨_, valid⟩, ?_, ?_⟩
    · rintro ceiling ms bounded rfl
      obtain ⟨-, same⟩ := validateWindow_eq_ok valid
      obtain ⟨other, present, again⟩ := Option.map_eq_some_iff.mp same.symm
      cases finite_injective again
      exact within ms ceiling present bounded
    · exact (eq_of_validateWindow_stored funded).2
  · rintro ⟨⟨ms, rfl, minute, whole⟩, within, kept⟩
    have stored : StoredWindow (some ms) := by
      rintro _ ⟨rfl⟩
      exact ⟨minute, whole⟩
    have funded :
        settings.nextFundingWindow (discoverySave (.finite ms)) =
          .ok settings.defaultFundingWindowMs.value :=
      RuntimeSettings.nextFundingWindow_unnamed kept rfl
    refine ⟨⟨some ms, nextDiscoveryWindow_eq_ok_iff.mpr ⟨?_, ?_⟩⟩, _, funded⟩
    · exact validateWindow_eq_ok_iff.mpr ⟨stored, rfl⟩
    · rintro _ ceiling ⟨rfl⟩ bounded
      exact within ceiling ms bounded rfl

/-- A save of a funding window is judged by it, and by the discovery window
already stored. -/
theorem saveTakes_fundingSave_iff
    (shape : ResaveableShape settings) (window : JsNumber) :
    SaveTakes settings (fundingSave window) ↔
      SavedWindow window ∧ ResaveableDiscovery settings := by
  refine (saveTakes_windows_iff shape none (some (some window))).trans ?_
  constructor
  · rintro ⟨⟨discoveryWindowMs, discovered⟩, funded⟩
    obtain ⟨valid, within⟩ := nextDiscoveryWindow_eq_ok_iff.mp discovered
    obtain ⟨rfl, kept⟩ := eq_of_validateWindow_stored valid
    exact ⟨exists_validateWindow_named_iff.mp funded, kept, within⟩
  · rintro ⟨saved, discovery⟩
    exact
      ⟨⟨_, RuntimeSettings.nextDiscoveryWindow_unnamed discovery rfl⟩,
        exists_validateWindow_named_iff.mpr saved⟩

end Acceptance

section Agreement

/-! ## When the surfaces agree -/

/-- The condition on a window of at least a minute.  It is a whole number of
minutes, the holder's own windows could be saved again, and a TTL below it is a
whole number of milliseconds, at least a minute of them.  The funding window
that the holder stores counts only where a discovery window could be saved. -/
structure MinuteRule
    (cohortTtlMs : Option JsNumber) (settings : RuntimeSettings) (ms : Nat) :
    Prop where
  whole : ms % oneMinuteMs = 0
  discovery : ResaveableDiscovery settings
  funding :
    WithinTtl cohortTtlMs (.finite ms) →
      StoredWindow settings.defaultFundingWindowMs.value
  ttl :
    StoredWindow settings.defaultFundingWindowMs.value →
      ∀ ttl : ℚ, cohortTtlMs = some (.finite ttl) → ttl < ms →
        ∃ limit : Nat, ttl = limit ∧ oneMinuteMs ≤ limit

/-- The condition on any window: the surfaces refuse all others alike. -/
def OneRule
    (cohortTtlMs : Option JsNumber) (settings : RuntimeSettings)
    (window : JsNumber) : Prop :=
  ∀ ms : Nat, window = .finite ms → oneMinuteMs ≤ ms →
    MinuteRule cohortTtlMs settings ms

/-- One holder from its boot on, its windows being doubles. -/
def settingsMachine64
    (seed : RuntimeSettingsSeed) : Machine RuntimeSettings SettingsEvent where
  init := createRuntimeSettings wholeMinutesAtOrBelow64 seed
  step := RuntimeSettings.step
  admits _ _ := True

/-- The windows a service is configured with are at most `2 ^ 53` ms. -/
def SmallWindows (seed : RuntimeSettingsSeed) : Prop :=
  ∀ raw ∈ [seed.discoveryWindowCeilingMs, seed.defaultDiscoveryWindowMs,
      seed.defaultFundingWindowMs],
    ∀ ms, integerKnob oneMinuteMs raw = some ms → ms ≤ 2 ^ 53

/-- Doubles floor such windows exactly. -/
theorem map_wholeMinutes64 {windowMs : Option Nat}
    (small : ∀ ms, windowMs = some ms → ms ≤ 2 ^ 53) :
    windowMs.map wholeMinutesAtOrBelow64 =
      windowMs.map wholeMinutesAtOrBelow := by
  cases windowMs with
  | none => rfl
  | some ms =>
      rw [Option.map_some, Option.map_some,
        wholeMinutesAtOrBelow64_eq (small ms rfl)]

theorem le_of_map_wholeMinutes {windowMs : Option Nat}
    (small : ∀ ms, windowMs = some ms → ms ≤ 2 ^ 53) {floored : Nat}
    (result : windowMs.map wholeMinutesAtOrBelow = some floored) :
    floored ≤ 2 ^ 53 := by
  obtain ⟨ms, present, rfl⟩ := Option.map_eq_some_iff.mp result
  exact (wholeMinutesAtOrBelow_le ms).trans (small ms present)

/-- With such windows it is the holder of exact numbers. -/
theorem settingsMachine64_eq {seed : RuntimeSettingsSeed}
    (small : SmallWindows seed) :
    settingsMachine64 seed = settingsMachine seed := by
  have smallCeiling := small seed.discoveryWindowCeilingMs (by simp)
  have smallDiscovery := small seed.defaultDiscoveryWindowMs (by simp)
  have ceiling :
      seed.discoveryCeilingMs wholeMinutesAtOrBelow64 =
        seed.discoveryCeilingMs wholeMinutesAtOrBelow :=
    map_wholeMinutes64 smallCeiling
  have discovery :
      seed.resolvedDiscoveryWindowMs wholeMinutesAtOrBelow64 =
        seed.resolvedDiscoveryWindowMs wholeMinutesAtOrBelow := by
    rw [RuntimeSettingsSeed.resolvedDiscoveryWindowMs, ceiling,
      map_wholeMinutes64 smallDiscovery]
    apply map_wholeMinutes64
    intro clamped result
    rcases (clampToCeiling_cases result).1 with own | bound
    · exact le_of_map_wholeMinutes smallDiscovery own
    · exact le_of_map_wholeMinutes smallCeiling bound
  have funding :
      seed.resolvedFundingWindowMs wholeMinutesAtOrBelow64 =
        seed.resolvedFundingWindowMs wholeMinutesAtOrBelow :=
    map_wholeMinutes64 (small seed.defaultFundingWindowMs (by simp))
  rw [settingsMachine64, settingsMachine, createRuntimeSettings, ceiling,
    discovery, funding]
  rfl

/-- No save moves the ceiling or leaves a shape that a save refuses. -/
theorem always_shape64 (seed : RuntimeSettingsSeed) :
    (settingsMachine64 seed).Always fun settings =>
      ResaveableShape settings ∧
        settings.discoveryWindowCeilingMs =
          seed.discoveryCeilingMs wholeMinutesAtOrBelow64 := by
  refine
    Machine.Always.of_inductive
      ⟨resaveableShape_createRuntimeSettings seed wholeMinutesAtOrBelow64,
        rfl⟩ ?_
  rintro settings event ⟨shape, ceiling⟩ -
  cases event with
  | save patch =>
      simp only [settingsMachine64, RuntimeSettings.step, RuntimeSettings.save]
      cases accepted : settings.applySettings patch with
      | error problem => exact ⟨shape, ceiling⟩
      | ok after =>
          refine
            ⟨RuntimeSettings.resaveableShape_of_applySettings shape accepted, ?_⟩
          obtain ⟨_, _, _, _, _, _, _, -, -, -, -, -, -, -, rfl⟩ :=
            RuntimeSettings.applySettings_eq_ok accepted
          exact ceiling
  | pause => exact ⟨{ shape with }, ceiling⟩
  | resume => exact ⟨{ shape with }, ceiling⟩
  | disableBroadcast now => exact ⟨{ shape with }, ceiling⟩

/-- The options of a service whose cohort TTL is a double. -/
def DoubleTtl (options : CreateServiceOptions) : Prop :=
  ∀ ttl, options.cohortTtlMs = some ttl → ttl.IsDouble

/-- The ceiling of a service is its cohort TTL where that is a whole number of
milliseconds, at least a minute of them, and floored to minutes. -/
theorem withinCeiling_iff
    {options : CreateServiceOptions} (doubles : DoubleTtl options) {ms : Nat}
    (double : JsNumber.IsDouble (.finite (ms : ℚ)))
    (minute : oneMinuteMs ≤ ms) (whole : ms % oneMinuteMs = 0) :
    WithinCeiling
        (options.settingsSeed.discoveryCeilingMs wholeMinutesAtOrBelow64)
        (.finite ms) ↔
      ∀ ttl : Nat, options.cohortTtlMs = some (.finite ttl) →
        oneMinuteMs ≤ ttl → ms ≤ ttl := by
  constructor
  · intro within ttl bounded reaches
    have ceiling :
        options.settingsSeed.discoveryCeilingMs wholeMinutesAtOrBelow64 =
          some (wholeMinutesAtOrBelow64 ttl) := by
      simp only [RuntimeSettingsSeed.discoveryCeilingMs,
        CreateServiceOptions.settingsSeed, integerKnob, bounded, Option.bind_some,
        JsNumber.wholeAtLeast?_nat, if_pos reaches, Option.map_some]
    exact
      (le_wholeMinutesAtOrBelow64_iff double (doubles _ bounded) minute
        whole).mp (within _ ms ceiling rfl)
  · intro below ceiling other resolved same
    cases finite_injective same
    obtain ⟨ttl, passed, rfl⟩ := Option.map_eq_some_iff.mp resolved
    obtain ⟨number, bounded, guard⟩ := Option.bind_eq_some_iff.mp passed
    obtain ⟨rfl, reaches⟩ := JsNumber.wholeAtLeast?_eq_some_iff.mp guard
    exact
      (le_wholeMinutesAtOrBelow64_iff double (doubles _ bounded) minute
        whole).mpr (below ttl bounded reaches)

/-- A body every service accepts. -/
def plainBody : DraftInput where
  beaconType := some BeaconType.casBeacon.name
  size := some 1
  threshold := none
  discoveryWindowMs := none
  fundingWindowMs := none

theorem takes_plainBody
    (options : CreateServiceOptions) (state : OperatorState) (draftId : CohortId) :
    DraftSurface.create.Takes options.operatorOptions state draftId
      (plainBody.withWindows none none) := by
  refine (takes_iff .create).mpr ⟨trivial, ?_⟩
  refine ⟨⟨.casBeacon, 1, 1, ⟨none, none⟩, le_rfl, le_rfl, le_rfl, nofun, nofun⟩,
    validateDraft_eq_ok_iff.mpr ?_⟩
  refine ⟨rfl, ?_, ?_, fun below => absurd below (lt_irrefl 1), rfl, rfl, rfl⟩
  · change JsNumber.wholeAtLeast? 1 1 = some 1
    decide +kernel
  · change JsNumber.wholeAtLeast? 1 (.finite (1 : ℕ)) = some 1
    decide +kernel

section Comparison

variable {options : CreateServiceOptions} {state : OperatorState}
  {window : JsNumber}

/-- What a save of one window comes down to on this service. -/
structure Saved
    (options : CreateServiceOptions) (settings : RuntimeSettings) (window : JsNumber) :
    Prop where
  discovery :
    SaveTakes settings (discoverySave window) ↔
      SavedWindow window ∧
        WithinCeiling
          (options.settingsSeed.discoveryCeilingMs wholeMinutesAtOrBelow64)
          window ∧
        StoredWindow settings.defaultFundingWindowMs.value
  funding :
    SaveTakes settings (fundingSave window) ↔
      SavedWindow window ∧ ResaveableDiscovery settings

/-- A plain create tells the surfaces apart wherever the rule is broken. -/
theorem oneRule_of_windowAgrees
    (doubles : DoubleTtl options) (double : window.IsDouble)
    (saved : Saved options state.settings window)
    (agrees : WindowAgrees printer options.operatorOptions state window) :
    OneRule options.cohortTtlMs state.settings window := by
  rintro ms rfl minute
  have plain := takes_plainBody options state 0
  have taken : DraftWindow (.finite ms) := ⟨ms, rfl, minute⟩
  have created :
      WithinTtl options.cohortTtlMs (.finite ms) →
        DraftSurface.create.Takes options.operatorOptions state 0
          (plainBody.withWindows (some (.finite ms)) none) := by
    intro within
    refine (takes_withWindows_iff .create).mpr ⟨plain, ?_, nofun⟩
    rintro _ ⟨rfl⟩
    exact ⟨taken, within⟩
  have funded :
      DraftSurface.create.Takes options.operatorOptions state 0
        (plainBody.withWindows none (some (.finite ms))) := by
    refine (takes_withWindows_iff .create).mpr ⟨plain, nofun, ?_⟩
    rintro _ ⟨rfl⟩
    exact taken
  obtain ⟨kept, discovery⟩ :=
    saved.funding.mp ((agrees.funding .create 0 plainBody plain).mp funded)
  obtain ⟨other, same, -, whole⟩ := kept
  cases finite_injective same
  refine ⟨whole, discovery, ?_, ?_⟩
  · intro within
    have accepted :=
      (agrees.discovery .create 0 plainBody plain).mp (created within)
    exact (saved.discovery.mp accepted).2.2
  · intro stored ttl bounded below
    by_contra fraction
    have within :
        WithinCeiling
          (options.settingsSeed.discoveryCeilingMs wholeMinutesAtOrBelow64)
          (.finite ms) := by
      refine (withinCeiling_iff doubles double minute whole).mpr ?_
      intro limit isLimit minutes
      rw [bounded] at isLimit
      have value : ttl = limit := JsNumber.finite.inj (Option.some.inj isLimit)
      exact absurd ⟨limit, value, minutes⟩ fraction
    have accepted :=
      saved.discovery.mpr ⟨⟨ms, rfl, minute, whole⟩, within, stored⟩
    have drafted := (agrees.discovery .create 0 plainBody plain).mpr accepted
    have fits := ((takes_withWindows_iff .create).mp drafted).2.1 _ rfl
    have reach := fits.2 ttl ms bounded rfl
    exact absurd below (not_lt.mpr reach)

/-- Under the rule a draft asks of a discovery window what a save asks. -/
theorem draftDiscovery_iff_saved
    (doubles : DoubleTtl options) (double : window.IsDouble)
    (saved : Saved options state.settings window)
    (rule : OneRule options.cohortTtlMs state.settings window) :
    DraftWindow window ∧ WithinTtl options.cohortTtlMs window ↔
      SaveTakes state.settings (discoverySave window) := by
  rw [saved.discovery]
  constructor
  · rintro ⟨⟨ms, rfl, minute⟩, within⟩
    have own := rule ms rfl minute
    refine ⟨⟨ms, rfl, minute, own.whole⟩, ?_, own.funding within⟩
    refine (withinCeiling_iff doubles double minute own.whole).mpr ?_
    intro limit isLimit _
    exact_mod_cast within limit ms isLimit rfl
  · rintro ⟨⟨ms, rfl, minute, whole⟩, within, stored⟩
    refine ⟨⟨ms, rfl, minute⟩, ?_⟩
    intro ttl other isLimit same
    cases finite_injective same
    by_contra exceeds
    obtain ⟨limit, rfl, minutes⟩ :=
      (rule ms rfl minute).ttl stored ttl isLimit (not_le.mp exceeds)
    have below :=
      (withinCeiling_iff doubles double minute whole).mp within limit isLimit
        minutes
    exact exceeds (by exact_mod_cast below)

/-- And of a funding window. -/
theorem draftFunding_iff_saved
    (saved : Saved options state.settings window)
    (rule : OneRule options.cohortTtlMs state.settings window) :
    DraftWindow window ↔ SaveTakes state.settings (fundingSave window) := by
  rw [saved.funding]
  constructor
  · rintro ⟨ms, rfl, minute⟩
    have own := rule ms rfl minute
    exact ⟨⟨ms, rfl, minute, own.whole⟩, own.discovery⟩
  · rintro ⟨⟨ms, rfl, minute, -⟩, -⟩
    exact ⟨ms, rfl, minute⟩

/-- A window a save accepts survives the console's minutes fields. -/
theorem rereads_of_savedWindow
    (printer : Binary64.Printer) (double : window.IsDouble)
    (saved : SavedWindow window) :
    parseWindow (msToMinutesText printer (some window)) = .ms window := by
  obtain ⟨ms, rfl, minute, whole⟩ := saved
  exact parseWindow_of_whole printer double minute whole

theorem windowAgrees_of_oneRule
    (printer : Binary64.Printer) (doubles : DoubleTtl options)
    (double : window.IsDouble) (saved : Saved options state.settings window)
    (rule : OneRule options.cohortTtlMs state.settings window) :
    WindowAgrees printer options.operatorOptions state window := by
  have discovery := draftDiscovery_iff_saved doubles double saved rule
  have funding := draftFunding_iff_saved saved rule
  have rereads := rereads_of_savedWindow printer double
  refine ⟨?_, ?_, ?_, ?_⟩
  · intro surface draftId input taken
    rw [takes_withWindows_iff, ← discovery]
    constructor
    · rintro ⟨-, windows, -⟩
      exact windows window rfl
    · intro drafted
      refine ⟨taken, ?_, nofun⟩
      rintro _ ⟨rfl⟩
      exact drafted
  · intro surface draftId input taken
    rw [takes_withWindows_iff, ← funding]
    constructor
    · rintro ⟨-, -, windows⟩
      exact windows window rfl
    · intro drafted
      refine ⟨taken, nofun, ?_⟩
      rintro _ ⟨rfl⟩
      exact drafted
  · rintro surface draftId input (taken | taken)
    · obtain ⟨-, windows, -⟩ := (takes_withWindows_iff surface).mp taken
      have kept := saved.discovery.mp (discovery.mp (windows window rfl))
      exact rereads kept.1
    · obtain ⟨-, -, windows⟩ := (takes_withWindows_iff surface).mp taken
      have kept := saved.funding.mp (funding.mp (windows window rfl))
      exact rereads kept.1
  · rintro (kept | kept)
    · exact rereads (saved.discovery.mp kept).1
    · exact rereads (saved.funding.mp kept).1

end Comparison

/-- The surfaces agree on a window exactly when it meets the one rule. -/
theorem windowAgrees_iff
    (printer : Binary64.Printer) (options : CreateServiceOptions)
    (doubles : DoubleTtl options) (events : List SettingsEvent)
    (state : OperatorState) (window : JsNumber) (double : window.IsDouble) :
    let settings := (settingsMachine64 options.settingsSeed).run events
    WindowAgrees printer options.operatorOptions { state with settings } window ↔
      OneRule options.cohortTtlMs settings window := by
  intro settings
  obtain ⟨shape, ceiling⟩ :=
    always_shape64 options.settingsSeed events
      (Machine.admits_of_offered (fun _ _ => trivial) events)
  have discovery := saveTakes_discoverySave_iff shape window
  rw [ceiling] at discovery
  have saved : Saved options settings window :=
    ⟨discovery, saveTakes_fundingSave_iff shape window⟩
  exact
    ⟨oneRule_of_windowAgrees doubles double saved,
      fun rule => windowAgrees_of_oneRule printer doubles double saved rule⟩

/-- With windows of at most `2 ^ 53` ms the rule never fails for what the
holder stores. -/
theorem resaveable_of_smallWindows {seed : RuntimeSettingsSeed}
    (small : SmallWindows seed) :
    (settingsMachine64 seed).Always Resaveable := by
  rw [settingsMachine64_eq small]
  exact always_resaveable seed

/-- A service with a cohort TTL of two hours. -/
def timedOptions : CreateServiceOptions :=
  { wedgedOptions with cohortTtlMs := some 7200000 }

/-- There the surfaces agree on a window of ninety minutes. -/
theorem windowAgrees_iff_ninetyMinutes :
    ∃ printer : Binary64.Printer,
      let settings := (settingsMachine64 timedOptions.settingsSeed).run []
      WindowAgrees printer timedOptions.operatorOptions (.booted settings)
        5400000 := by
  obtain ⟨printer⟩ := Binary64.nonempty_printer
  refine ⟨printer, ?_⟩
  intro settings
  have doubles : DoubleTtl timedOptions := by
    rintro _ ⟨rfl⟩
    exact @JsNumber.isDouble_natCast 7200000 (by decide)
  have small : SmallWindows timedOptions.settingsSeed := by
    have ttl : integerKnob oneMinuteMs (some 7200000) = some 7200000 := by
      decide +kernel
    intro raw known ms passed
    simp only [List.mem_cons, List.not_mem_nil, or_false] at known
    rcases known with rfl | rfl | rfl
    · cases ttl.symm.trans passed
      decide
    · cases ttl.symm.trans passed
      decide
    · cases passed
  have resaveable : Resaveable settings :=
    resaveable_of_smallWindows small [] trivial
  refine
    (windowAgrees_iff printer timedOptions doubles [] (.booted settings)
      5400000 (@JsNumber.isDouble_natCast 5400000 (by decide))).mpr ?_
  intro ms same _
  have value : ms = 5400000 := by
    exact_mod_cast (JsNumber.finite.inj same).symm
  subst value
  refine
    ⟨by decide, resaveable.toResaveableDiscovery, fun _ =>
      resaveable.fundingWindow, ?_⟩
  rintro _ - ⟨rfl⟩ below
  norm_num at below

/-- A window of ninety seconds: a create takes it, a save refuses it, and the
console shows it as a text it cannot read back. -/
theorem ninety_seconds_disagree :
    let settings := (settingsMachine64 wedgedOptions.settingsSeed).run []
    DraftSurface.create.Takes wedgedOptions.operatorOptions (.booted settings) 0
        (plainBody.withWindows none (some 90000)) ∧
      (settings.save (fundingSave 90000)).1 = some fundingWindowError ∧
      ∀ printer : Binary64.Printer,
        parseWindow (msToMinutesText printer (some 90000)) = .invalid ∧
          ¬ WindowAgrees printer wedgedOptions.operatorOptions
              (.booted settings) 90000 := by
  intro settings
  have taken :
      DraftSurface.create.Takes wedgedOptions.operatorOptions
        (.booted settings) 0 (plainBody.withWindows none (some 90000)) := by
    refine
      (takes_withWindows_iff .create).mpr
        ⟨takes_plainBody wedgedOptions (.booted settings) 0, nofun, ?_⟩
    rintro _ ⟨rfl⟩
    exact ⟨90000, rfl, by decide⟩
  have refused :
      (settings.save (fundingSave 90000)).1 = some fundingWindowError := by
    decide +kernel
  refine ⟨taken, refused, fun printer => ⟨?_, ?_⟩⟩
  · have quotient : ((90000 : Nat) : ℚ) / oneMinuteMs = 3 / 2 := by
      norm_num [oneMinuteMs]
    have grid : Binary64.OnGrid (3 / 2) :=
      ⟨3, -1, by decide, by decide, by decide, by norm_num⟩
    have inside : (3 / 2 : ℚ) < 2 ^ 53 * 2 ^ (971 : Int) :=
      Binary64.lt_top_of_le (by norm_num)
    exact parseWindow_of_fraction printer quotient grid inside (by decide +kernel)
  · intro agrees
    have saved : (settings.save (fundingSave 90000)).1 = none :=
      (agrees.funding .create 0 plainBody
        (takes_plainBody wedgedOptions (.booted settings) 0)).mp taken
    rw [refused] at saved
    cases saved

end Agreement

end Btcr2Aggregation
