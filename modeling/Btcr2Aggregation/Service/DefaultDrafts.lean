import Btcr2Aggregation.Service.OperatorCohorts
import Btcr2Aggregation.Service.SettingsRuns

/-!
# Drafts from the service defaults

`createService` seeds the settings holder and the draft validator from one set
of options.  A draft that names no shape takes the stored defaults, and is then
judged by the validator, which knows one thing the holder does not: whether
this service runs the stall fallback.
-/

namespace Btcr2Aggregation

section Boot

/-! ## One set of options -/

/-- The options of one service that its settings and its drafts are made from.
The config comes out of `buildCohortConfig`, and a throwaway key is a key. -/
structure CreateServiceOptions where
  recoveryKeys : RecoveryKeys
  throwaway :
    checkRecoveryKey recoveryKeys (some recoveryKeys.throwaway) = .ok ()
  config : CohortConfig
  built :
    ∃ participants beaconType network recoveryKey fallbackThreshold,
      buildCohortConfig recoveryKeys participants beaconType network recoveryKey
        fallbackThreshold = .ok config
  autoFallbackOnStall : Option Bool
  cohortTtlMs : Option JsNumber
  fundingWindowMs : Option JsNumber
  serviceName : Option String
  defaultBeaconType : Option String
  defaultSize : Option JsNumber
  defaultThreshold : Option JsNumber
  defaultDiscoveryWindowMs : Option JsNumber
  defaultFundingWindowMs : Option JsNumber
  termsText : Option String

namespace CreateServiceOptions

variable (options : CreateServiceOptions)

/-- The recovery key every draft inherits passes its guard. -/
theorem keyed :
    checkRecoveryKey options.recoveryKeys (some options.config.recoveryKey) =
      .ok () := by
  obtain ⟨_, _, _, _, _, built⟩ := options.built
  exact checkRecoveryKey_of_buildCohortConfig options.throwaway built

/-- What `createService` seeds the settings with. -/
def settingsSeed : RuntimeSettingsSeed where
  serviceName := options.serviceName
  defaultBeaconType :=
    options.defaultBeaconType.or (some options.config.beaconType.name)
  defaultSize :=
    options.defaultSize.or (some (.finite options.config.minParticipants))
  defaultThreshold :=
    options.defaultThreshold.or
      (options.config.fallbackThreshold.map fun threshold : Nat =>
        JsNumber.finite threshold)
  defaultDiscoveryWindowMs :=
    options.defaultDiscoveryWindowMs.or options.cohortTtlMs
  defaultFundingWindowMs :=
    options.defaultFundingWindowMs.or options.fundingWindowMs
  termsText := options.termsText
  discoveryWindowCeilingMs := options.cohortTtlMs

/-- What it hands to the operator surface. -/
def operatorOptions : OperatorOptions where
  activeNetwork := options.config.network
  recoveryKeys := options.recoveryKeys
  recoveryKey := some options.config.recoveryKey
  autoFallbackOnStall := options.autoFallbackOnStall.getD false
  cohortTtlMs := options.cohortTtlMs

end CreateServiceOptions

end Boot

section Shapes

/-! ## What the validator accepts -/

/-- The guards of `validateDraft`, and the shape they let through. -/
theorem validateDraft_eq_ok_iff
    {input : DraftInput} {autoFallbackOnStall : Bool}
    {cohortTtlMs : Option JsNumber} {shape : DraftShape} :
    validateDraft input autoFallbackOnStall cohortTtlMs = .ok shape ↔
      input.beaconType.bind BeaconType.ofName? = some shape.beaconType ∧
        input.size.bind (JsNumber.wholeAtLeast? 1) = some shape.size ∧
        (input.threshold.getD shape.size).wholeAtLeast? 1 =
          some shape.threshold ∧
        (shape.threshold < shape.size → autoFallbackOnStall = true) ∧
        validateDraftWindow discoveryWindowError input.discoveryWindowMs =
          .ok shape.windows.discoveryWindowMs ∧
        validateDraftWindow fundingWindowError input.fundingWindowMs =
          .ok shape.windows.fundingWindowMs ∧
        checkDiscoveryCeiling cohortTtlMs shape.windows.discoveryWindowMs =
          .ok () := by
  constructor
  · intro accepted
    unfold validateDraft at accepted
    split at accepted
    · cases accepted
    next beaconType known =>
    split at accepted
    · cases accepted
    next size sized =>
    split at accepted
    · cases accepted
    next threshold chosen =>
    split at accepted
    next fits =>
      split at accepted
      · cases accepted
      next promised =>
      split at accepted
      · cases accepted
      next discoveryWindowMs discovery =>
      split at accepted
      · cases accepted
      next fundingWindowMs funding =>
      split at accepted
      · cases accepted
      next ceiling =>
      cases accepted
      refine ⟨known, sized, chosen, ?_, discovery, funding, ceiling⟩
      intro below
      by_contra off
      exact promised ⟨below, off⟩
    next => cases accepted
  · rintro ⟨known, sized, chosen, promised, discovery, funding, ceiling⟩
    have fits := shape.threshold_le
    unfold validateDraft
    split
    next unknown =>
      rw [known] at unknown
      cases unknown
    next beaconType known' =>
    cases known.symm.trans known'
    split
    next absent =>
      rw [sized] at absent
      cases absent
    next size sized' =>
    cases sized.symm.trans sized'
    split
    next malformed =>
      rw [chosen] at malformed
      cases malformed
    next threshold chosen' =>
    cases chosen.symm.trans chosen'
    rw [dif_pos fits, if_neg (fun broken => broken.2 (promised broken.1))]
    split
    next refused =>
      rw [discovery] at refused
      cases refused
    next discoveryWindowMs discovery' =>
    cases discovery.symm.trans discovery'
    split
    next refused =>
      rw [funding] at refused
      cases refused
    next fundingWindowMs funding' =>
    cases funding.symm.trans funding'
    rw [ceiling]

end Shapes

section Entries

/-! ## The entry of an accepted shape -/

/-- A stored draft has the shape the validator let through, and the defaults of
the moment beside it. -/
structure EntryOf
    (entry : DraftEntry) (shape : DraftShape) (settings : RuntimeSettings) :
    Prop where
  beaconType :
    entry.config.beaconType = shape.beaconType ∧
      entry.dto.beaconType = shape.beaconType
  size :
    entry.config.minParticipants = shape.size ∧
      entry.config.maxParticipants = some shape.size ∧
      entry.dto.capacity = shape.size
  threshold :
    entry.config.fallbackThreshold = some shape.threshold ∧
      entry.dto.threshold = shape.threshold
  windows : entry.windows = ⟨shape.windows, settings.currentDefaults⟩

variable (options : CreateServiceOptions) (settings : RuntimeSettings)
  (draftId : CohortId)

/-- Nothing after the validator refuses: the recovery key passed at boot, and
the threshold fits its size. -/
theorem exists_draftEntry (shape : DraftShape) :
    ∃ entry,
      draftEntry options.operatorOptions settings draftId shape = .ok entry ∧
        EntryOf entry shape settings := by
  have fits :
      checkFallbackThreshold shape.size (some shape.threshold) = .ok () :=
    checkFallbackThreshold_ok shape.threshold_pos shape.threshold_le
  simp only [draftEntry, buildCohortConfig, CreateServiceOptions.operatorOptions,
    options.keyed, fits]
  exact ⟨_, rfl, ⟨rfl, rfl⟩, ⟨rfl, rfl, rfl⟩, ⟨rfl, rfl⟩, rfl⟩

/-- A draft is accepted exactly when the validator accepts it. -/
theorem judgeDraft_eq_ok_iff {input : DraftInput} :
    (∃ entry,
      judgeDraft options.operatorOptions settings draftId input = .ok entry) ↔
      ∃ shape,
        validateDraft input options.operatorOptions.autoFallbackOnStall
          options.cohortTtlMs = .ok shape := by
  constructor
  · rintro ⟨entry, judged⟩
    obtain ⟨shape, valid, -⟩ := bind_eq_ok_iff.mp judged
    exact ⟨shape, valid⟩
  · rintro ⟨shape, valid⟩
    obtain ⟨entry, stored, -⟩ := exists_draftEntry options settings draftId shape
    exact ⟨entry, bind_eq_ok_iff.mpr ⟨shape, valid, stored⟩⟩

theorem createDraft_of_judged
    {operator : OperatorOptions} {state : OperatorState} {input : DraftInput}
    {entry : DraftEntry}
    (judged :
      judgeDraft operator state.settings draftId
        (withServiceDefaults state.settings input) = .ok entry) :
    createDraft operator state draftId input =
      (.ok entry.dto,
        { state with drafts := state.drafts.set draftId entry }) := by
  simp only [createDraft, judged]

/-- A create answers a row exactly when its body is accepted. -/
theorem createDraft_accepts_iff
    {operator : OperatorOptions} {state : OperatorState} {input : DraftInput} :
    (∃ row, (createDraft operator state draftId input).1 = .ok row) ↔
      ∃ entry,
        judgeDraft operator state.settings draftId
          (withServiceDefaults state.settings input) = .ok entry := by
  constructor
  · rintro ⟨row, answered⟩
    simp only [createDraft] at answered
    split at answered
    · cases answered
    · next entry judged => exact ⟨entry, judged⟩
  · rintro ⟨entry, judged⟩
    rw [createDraft_of_judged draftId judged]
    exact ⟨entry.dto, rfl⟩

end Entries

section Defaults

/-! ## A draft that names no shape -/

/-- The body of a create that names nothing. -/
def noShape : DraftInput where
  beaconType := none
  size := none
  threshold := none
  discoveryWindowMs := none
  fundingWindowMs := none

/-- A create without a shape stores a draft that is exactly the defaults. -/
def DraftsDefaults
    (options : OperatorOptions) (state : OperatorState) (draftId : CohortId) :
    Prop :=
  ∃ entry,
    createDraft options state draftId noShape =
        (.ok entry.dto, { state with drafts := state.drafts.set draftId entry }) ∧
      entry.config.beaconType = state.settings.defaultBeaconType.value ∧
      entry.dto.beaconType = state.settings.defaultBeaconType.value ∧
      entry.config.minParticipants = state.settings.defaultSize.value ∧
      entry.config.maxParticipants = some state.settings.defaultSize.value ∧
      entry.dto.capacity = state.settings.defaultSize.value ∧
      entry.config.fallbackThreshold =
        some state.settings.defaultThreshold.value ∧
      entry.dto.threshold = state.settings.defaultThreshold.value ∧
      effectiveWindows entry.windows = state.settings.currentDefaults

/-- The default shape passes every guard of the validator but one: a threshold
below the size needs the stall fallback. -/
theorem validateDraft_defaults_iff
    {settings : RuntimeSettings} (resaveable : Resaveable settings)
    {autoFallbackOnStall : Bool} {cohortTtlMs : Option JsNumber}
    {shape : DraftShape} :
    validateDraft (withServiceDefaults settings noShape) autoFallbackOnStall
        cohortTtlMs = .ok shape ↔
      (shape.beaconType = settings.defaultBeaconType.value ∧
        shape.size = settings.defaultSize.value ∧
        shape.threshold = settings.defaultThreshold.value ∧
        shape.windows = ⟨none, none⟩) ∧
      (settings.defaultThreshold.value < settings.defaultSize.value →
        autoFallbackOnStall = true) := by
  have named :
      withServiceDefaults settings noShape =
        { beaconType := some settings.defaultBeaconType.value.name
          size := some (.finite settings.defaultSize.value)
          threshold := some (.finite settings.defaultThreshold.value)
          discoveryWindowMs := none
          fundingWindowMs := none } :=
    rfl
  rw [validateDraft_eq_ok_iff, named]
  simp only [Option.bind_some, BeaconType.ofName?_name,
    JsNumber.wholeAtLeast?_nat, Option.getD_some, validateDraftWindow,
    if_pos resaveable.size_pos, if_pos resaveable.threshold_pos,
    Option.some.injEq, Except.ok.injEq]
  constructor
  · rintro ⟨beaconType, size, threshold, promised, discovery, funding, -⟩
    rw [← size, ← threshold] at promised
    have windows : shape.windows = ⟨none, none⟩ :=
      (congrArg₂ CohortWindows.mk discovery funding).symm
    exact ⟨⟨beaconType.symm, size.symm, threshold.symm, windows⟩, promised⟩
  · rintro ⟨⟨beaconType, size, threshold, windows⟩, promised⟩
    rw [beaconType, size, threshold, windows]
    exact ⟨rfl, rfl, rfl, promised, rfl, rfl, rfl⟩

/-- A create without a shape drafts the defaults exactly when the default
threshold is one this service can keep. -/
theorem draftsDefaults_iff_of_resaveable
    (options : CreateServiceOptions) (state : OperatorState)
    (resaveable : Resaveable state.settings) (draftId : CohortId) :
    DraftsDefaults options.operatorOptions state draftId ↔
      options.autoFallbackOnStall = some true ∨
        state.settings.defaultThreshold.value =
          state.settings.defaultSize.value := by
  have fits := resaveable.threshold_le
  have enabled :
      options.operatorOptions.autoFallbackOnStall = true ↔
        options.autoFallbackOnStall = some true := by
    simp only [CreateServiceOptions.operatorOptions]
    cases options.autoFallbackOnStall with
    | none => simp
    | some fallback => simp
  constructor
  · rintro ⟨entry, drafted, -⟩
    have accepted :
        ∃ row,
          (createDraft options.operatorOptions state draftId noShape).1 =
            .ok row :=
      ⟨entry.dto, by rw [drafted]⟩
    obtain ⟨shape, valid⟩ :=
      (judgeDraft_eq_ok_iff options state.settings draftId).mp
        ((createDraft_accepts_iff draftId).mp accepted)
    have promised := ((validateDraft_defaults_iff resaveable).mp valid).2
    by_cases below :
      state.settings.defaultThreshold.value < state.settings.defaultSize.value
    · exact Or.inl (enabled.mp (promised below))
    · exact Or.inr (by omega)
  · intro condition
    have promised :
        state.settings.defaultThreshold.value <
            state.settings.defaultSize.value →
          options.operatorOptions.autoFallbackOnStall = true := by
      intro below
      rcases condition with fallback | equal
      · exact enabled.mpr fallback
      · omega
    let shape : DraftShape :=
      { beaconType := state.settings.defaultBeaconType.value
        size := state.settings.defaultSize.value
        threshold := state.settings.defaultThreshold.value
        windows := ⟨none, none⟩
        size_pos := resaveable.size_pos
        threshold_pos := resaveable.threshold_pos
        threshold_le := fits
        discovery_minute := nofun
        funding_minute := nofun }
    have valid :
        validateDraft (withServiceDefaults state.settings noShape)
          options.operatorOptions.autoFallbackOnStall
          options.operatorOptions.cohortTtlMs = .ok shape :=
      (validateDraft_defaults_iff resaveable).mpr
        ⟨⟨rfl, rfl, rfl, rfl⟩, promised⟩
    obtain ⟨entry, stored, entryOf⟩ :=
      exists_draftEntry options state.settings draftId shape
    have judged :
        judgeDraft options.operatorOptions state.settings draftId
          (withServiceDefaults state.settings noShape) = .ok entry :=
      bind_eq_ok_iff.mpr ⟨shape, valid, stored⟩
    obtain ⟨beaconType, size, threshold, windows⟩ := entryOf
    refine
      ⟨entry, createDraft_of_judged draftId judged, beaconType.1, beaconType.2,
        size.1, size.2.1, size.2.2, threshold.1, threshold.2, ?_⟩
    rw [windows]
    simp only [effectiveWindows, shape, Option.none_or]

/-- Whatever this service was seeded with and whatever was saved since: a
create without a shape drafts the stored defaults exactly when the service runs
the stall fallback or its stored threshold is its stored size. -/
theorem draftsDefaults_iff
    (options : CreateServiceOptions) (events : List SettingsEvent)
    (state : OperatorState) (draftId : CohortId) :
    let settings := (settingsMachine options.settingsSeed).run events
    DraftsDefaults options.operatorOptions { state with settings } draftId ↔
      options.autoFallbackOnStall = some true ∨
        settings.defaultThreshold.value = settings.defaultSize.value := by
  intro settings
  have resaveable : Resaveable settings :=
    always_resaveable options.settingsSeed events
      (settings_admits options.settingsSeed events)
  exact
    draftsDefaults_iff_of_resaveable options { state with settings } resaveable
      draftId

section Wedged

def wedgedKey : String :=
  "0000000000000000000000000000000000000000000000000000000000000001"

/-- A service booted with the stall fallback off, size two and threshold
one. -/
def wedgedOptions : CreateServiceOptions where
  recoveryKeys := ⟨fun _ => true, wedgedKey⟩
  throwaway := rfl
  config :=
    { beaconType := .casBeacon
      minParticipants := 2
      maxParticipants := none
      network := .mutinynet
      recoveryKey := wedgedKey
      recoverySequence := 144
      fallbackThreshold := none }
  built := ⟨2, .casBeacon, .mutinynet, none, none, rfl⟩
  autoFallbackOnStall := some false
  cohortTtlMs := none
  fundingWindowMs := none
  serviceName := none
  defaultBeaconType := none
  defaultSize := none
  defaultThreshold := some 1
  defaultDiscoveryWindowMs := none
  defaultFundingWindowMs := none
  termsText := none

/-- There a create without a shape is refused. -/
theorem wedged_create_refused :
    let settings := (settingsMachine wedgedOptions.settingsSeed).run []
    (createDraft wedgedOptions.operatorOptions (.booted settings) 0 noShape).1 =
        .error fallbackOffError ∧
      ¬ DraftsDefaults wedgedOptions.operatorOptions (.booted settings) 0 := by
  intro settings
  have refused :
      (createDraft wedgedOptions.operatorOptions (.booted settings) 0
        noShape).1 = .error fallbackOffError := by
    rfl
  refine ⟨refused, ?_⟩
  rintro ⟨entry, drafted, -⟩
  rw [drafted] at refused
  cases refused

end Wedged

end Defaults

end Btcr2Aggregation
