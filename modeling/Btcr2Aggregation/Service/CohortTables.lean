import Btcr2Aggregation.Library.InsertionMap
import Btcr2Aggregation.Service.FundingWatch
import Btcr2Aggregation.Service.RuntimeSettings

/-!
# The per-cohort side tables and the money path

`createService` keeps four tables about each cohort outside the runner: its
advertise stamp, its display funding watch, the last funding view, and its own
funding window.  All four are bounded and written through `rememberBounded`.

The three hand-offs of a cohort's money path (tx data, funding watch,
broadcast) each ask `cohortUsesLivePath`, which compares the advertise stamp
with the moment the kill switch engaged.  Every listener is a function from the
closure state to the closure state; a hand-off also says which wiring it took.
-/

namespace Btcr2Aggregation

section State

/-! ## Closure state -/

/-- The options of `createService` the money path reads.  A broadcasting
service without the live path is refused at construction. -/
structure ServiceOptions where
  live : Bool
  broadcast : Bool
  cohortTtlMs : Option ℚ
  fundingWindowMs : Option JsNumber
  broadcast_live : broadcast = true → live = true

/-- A running display watch: what its closure captured. -/
structure FundingWatchHandle where
  beaconAddress : String
  truncatedWindowMin : Option Nat
  deriving DecidableEq

/-- The funding view a watch tick reports. -/
structure FundingView where
  state : FundingStateName
  beaconAddress : String
  truncatedWindowMin : Option Nat
  esploraStale : Bool
  deriving DecidableEq

/-- The switch and the four side tables. -/
structure ServiceState where
  killSwitch : KillSwitch
  advertisedAt : InsertionMap CohortId Nat
  fundingWatches : InsertionMap CohortId FundingWatchHandle
  lastFundingView : InsertionMap CohortId FundingView
  cohortFundingWindows : InsertionMap CohortId Nat

/-- A freshly booted service. -/
def ServiceState.booted : ServiceState where
  killSwitch := .off
  advertisedAt := ∅
  fundingWatches := ∅
  lastFundingView := ∅
  cohortFundingWindows := ∅

/-- The bound of every side table. -/
def maxPerCohortEntries : Nat := 24

/-- The bounded write of every side table. -/
def rememberBounded {Value : Type}
    (table : InsertionMap CohortId Value) (cohortId : CohortId)
    (value : Value) : InsertionMap CohortId Value :=
  table.remember maxPerCohortEntries cohortId value

end State

section Verdict

/-! ## The live verdict -/

/-- Whether one cohort still uses the live, money-moving wiring.  With the
switch engaged, a missing stamp on either side fails closed. -/
def cohortKeepsLiveWiring
    (broadcastDisabled : Bool) (engagedAtMs advertisedAtMs : Option Nat) :
    Bool :=
  if broadcastDisabled then
    match engagedAtMs, advertisedAtMs with
    | some engagedAt, some advertisedAt => advertisedAt < engagedAt
    | _, _ => false
  else
    true

/-- The verdict taken fresh at a hand-off. -/
def cohortUsesLivePath (state : ServiceState) (cohortId : CohortId) : Bool :=
  cohortKeepsLiveWiring state.killSwitch.broadcastDisabled
    state.killSwitch.broadcastDisabledAtMs
    (state.advertisedAt.lookup cohortId)

theorem cohortUsesLivePath_of_off
    {state : ServiceState} (cohortId : CohortId)
    (disengaged : state.killSwitch.broadcastDisabled = false) :
    cohortUsesLivePath state cohortId = true := by
  simp [cohortUsesLivePath, cohortKeepsLiveWiring, disengaged]

/-- With the switch engaged the verdict is one comparison of stamps. -/
theorem cohortUsesLivePath_of_engaged
    {state : ServiceState} {engagedAt : Nat} (cohortId : CohortId)
    (engaged : state.killSwitch.broadcastDisabledAtMs = some engagedAt) :
    cohortUsesLivePath state cohortId = true ↔
      ∃ stamp,
        state.advertisedAt.lookup cohortId = some stamp ∧
          stamp < engagedAt := by
  have disabled : state.killSwitch.broadcastDisabled = true := by
    rw [← state.killSwitch.stamped, engaged]
    rfl
  cases found : state.advertisedAt.lookup cohortId with
  | none =>
      simp [cohortUsesLivePath, cohortKeepsLiveWiring, disabled, engaged, found]
  | some stamp =>
      simp [cohortUsesLivePath, cohortKeepsLiveWiring, disabled, engaged, found]

end Verdict

section HandOffs

/-! ## Hand-offs -/

/-- The wiring a hand-off took: it never asked (the service has no such leg),
it stood down, or it went live. -/
inductive Wiring where
  | notConsulted
  | standsDown
  | live
  deriving DecidableEq, Repr

/-- Ask for the verdict where the leg exists. -/
def consult
    (listening : Bool) (state : ServiceState) (cohortId : CohortId) : Wiring :=
  if listening then
    if cohortUsesLivePath state cohortId then .live else .standsDown
  else
    .notConsulted

theorem consult_eq_live
    {listening : Bool} {state : ServiceState} {cohortId : CohortId}
    (live : consult listening state cohortId = .live) :
    cohortUsesLivePath state cohortId = true := by
  unfold consult at live
  split at live
  · split at live
    · assumption
    · cases live
  · cases live

theorem consult_eq_standsDown
    {listening : Bool} {state : ServiceState} {cohortId : CohortId}
    (down : consult listening state cohortId = .standsDown) :
    cohortUsesLivePath state cohortId = false := by
  unfold consult at down
  split at down
  · split at down
    · cases down
    · next notLive => exact Bool.eq_false_iff.mpr notLive
  · cases down

/-- `onProvideTxData`: the live builder spends the real UTXO, the other two
outcomes build the fixture. -/
def onProvideTxData
    (options : ServiceOptions) (state : ServiceState) (cohortId : CohortId) :
    Wiring :=
  consult options.live state cohortId

/-- The broadcast gate at `signing-complete`. -/
def shouldBroadcast
    (options : ServiceOptions) (state : ServiceState) (cohortId : CohortId) :
    Wiring :=
  consult options.broadcast state cohortId

end HandOffs

section Listeners

/-! ## Listeners -/

/-- `fundingWindowFor`: the cohort's own window, else the service default. -/
def fundingWindowFor
    (options : ServiceOptions) (state : ServiceState) (cohortId : CohortId) :
    Option JsNumber :=
  match state.cohortFundingWindows.lookup cohortId with
  | some ms => some (.finite ms)
  | none => options.fundingWindowMs

/-- What is left of the cohort TTL, when both it and the stamp are known. -/
def remainingCohortTtlMs
    (options : ServiceOptions) (state : ServiceState) (now : Nat)
    (cohortId : CohortId) : Option JsNumber :=
  match options.cohortTtlMs, state.advertisedAt.lookup cohortId with
  | some ttl, some stamp => some (.finite (ttl - ((now : ℚ) - (stamp : ℚ))))
  | _, _ => none

/-- Release every side-table entry of a settled cohort. -/
def releaseCohortTables (state : ServiceState) (cohortId : CohortId) :
    ServiceState :=
  { state with
    fundingWatches := state.fundingWatches.erase cohortId
    lastFundingView := state.lastFundingView.erase cohortId
    advertisedAt := state.advertisedAt.erase cohortId
    cohortFundingWindows := state.cohortFundingWindows.erase cohortId }

/-- The `cohort-advertised` listener: stamp the cohort once. -/
def onCohortAdvertised
    (state : ServiceState) (now : Nat) (cohortId : CohortId) : ServiceState :=
  if cohortId ∈ state.advertisedAt then
    state
  else
    { state with
      advertisedAt := rememberBounded state.advertisedAt cohortId now }

/-- The `onAdvertised` hook: carry the cohort's own funding window. -/
def onAdvertised
    (state : ServiceState) (cohortId : CohortId)
    (fundingWindowMs : Option Nat) : ServiceState :=
  match fundingWindowMs with
  | some ms =>
      { state with
        cohortFundingWindows :=
          rememberBounded state.cohortFundingWindows cohortId ms }
  | none => state

/-- The `keygen-complete` listener of a broadcasting service: start one display
watch for a cohort on the live path. -/
def onKeygenComplete
    (options : ServiceOptions) (state : ServiceState) (now : Nat)
    (cohortId : CohortId) (beaconAddress : String) : ServiceState :=
  if consult options.broadcast state cohortId = .live then
    if cohortId ∈ state.fundingWatches then
      state
    else
      let deadline :=
        computeFundingDeadline {
          configuredWindowMs := fundingWindowFor options state cohortId
          remainingTtlMs := remainingCohortTtlMs options state now cohortId
          slackMs := fundingSlackMs }
      { state with
        fundingWatches :=
          rememberBounded state.fundingWatches cohortId
            { beaconAddress
              truncatedWindowMin := deadline.truncatedWindowMin } }
  else
    state

/-- One report of the display watch. -/
def onFundingState
    (state : ServiceState) (cohortId : CohortId) (handle : FundingWatchHandle)
    (funding : FundingStateName) (lastObservationOk : Bool) : ServiceState :=
  { state with
    lastFundingView :=
      rememberBounded state.lastFundingView cohortId
        { state := funding
          beaconAddress := handle.beaconAddress
          truncatedWindowMin := handle.truncatedWindowMin
          esploraStale := !lastObservationOk } }

/-- The `cohort-failed` listener of a broadcasting service: it releases the
tables of a cohort that had a display watch, and of no other. -/
def onCohortFailed
    (options : ServiceOptions) (state : ServiceState) (cohortId : CohortId) :
    ServiceState :=
  if options.broadcast ∧ cohortId ∈ state.fundingWatches then
    releaseCohortTables state cohortId
  else
    state

end Listeners

section Stamps

/-! ## What a listener does to the advertise stamps -/

@[simp]
theorem killSwitch_onCohortAdvertised
    (state : ServiceState) (now : Nat) (cohortId : CohortId) :
    (onCohortAdvertised state now cohortId).killSwitch = state.killSwitch := by
  unfold onCohortAdvertised
  split <;> rfl

@[simp]
theorem killSwitch_onAdvertised
    (state : ServiceState) (cohortId : CohortId)
    (fundingWindowMs : Option Nat) :
    (onAdvertised state cohortId fundingWindowMs).killSwitch =
      state.killSwitch := by
  cases fundingWindowMs <;> rfl

@[simp]
theorem advertisedAt_onAdvertised
    (state : ServiceState) (cohortId : CohortId)
    (fundingWindowMs : Option Nat) :
    (onAdvertised state cohortId fundingWindowMs).advertisedAt =
      state.advertisedAt := by
  cases fundingWindowMs <;> rfl

@[simp]
theorem killSwitch_onKeygenComplete
    (options : ServiceOptions) (state : ServiceState) (now : Nat)
    (cohortId : CohortId) (beaconAddress : String) :
    (onKeygenComplete options state now cohortId beaconAddress).killSwitch =
      state.killSwitch := by
  unfold onKeygenComplete
  split
  · split <;> rfl
  · rfl

@[simp]
theorem advertisedAt_onKeygenComplete
    (options : ServiceOptions) (state : ServiceState) (now : Nat)
    (cohortId : CohortId) (beaconAddress : String) :
    (onKeygenComplete options state now cohortId beaconAddress).advertisedAt =
      state.advertisedAt := by
  unfold onKeygenComplete
  split
  · split <;> rfl
  · rfl

@[simp]
theorem killSwitch_onCohortFailed
    (options : ServiceOptions) (state : ServiceState) (cohortId : CohortId) :
    (onCohortFailed options state cohortId).killSwitch = state.killSwitch := by
  unfold onCohortFailed
  split <;> rfl

/-- A release forgets the stamp of its own cohort only. -/
theorem lookup_releaseCohortTables
    (state : ServiceState) {cohortId other : CohortId}
    (different : other ≠ cohortId) :
    (releaseCohortTables state cohortId).advertisedAt.lookup other =
      state.advertisedAt.lookup other :=
  AList.lookup_erase_ne different

theorem lookup_onCohortFailed
    (options : ServiceOptions) (state : ServiceState)
    {cohortId other : CohortId} (different : other ≠ cohortId) :
    (onCohortFailed options state cohortId).advertisedAt.lookup other =
      state.advertisedAt.lookup other := by
  unfold onCohortFailed
  split
  · exact lookup_releaseCohortTables state different
  · rfl

/-- A stamp found after a release was there before. -/
theorem lookup_of_lookup_releaseCohortTables
    {state : ServiceState} {cohortId other : CohortId} {stamp : Nat}
    (found :
      (releaseCohortTables state cohortId).advertisedAt.lookup other =
        some stamp) :
    state.advertisedAt.lookup other = some stamp :=
  InsertionMap.lookup_of_lookup_erase found

theorem lookup_of_lookup_onCohortFailed
    {options : ServiceOptions} {state : ServiceState}
    {cohortId other : CohortId} {stamp : Nat}
    (found :
      (onCohortFailed options state cohortId).advertisedAt.lookup other =
        some stamp) :
    state.advertisedAt.lookup other = some stamp := by
  unfold onCohortFailed at found
  split at found
  · exact lookup_of_lookup_releaseCohortTables found
  · exact found

/-- A stamp found after an advert is the advert's own or was there before. -/
theorem lookup_of_lookup_onCohortAdvertised
    {state : ServiceState} {now : Nat} {cohortId other : CohortId}
    {stamp : Nat}
    (found :
      (onCohortAdvertised state now cohortId).advertisedAt.lookup other =
        some stamp) :
    state.advertisedAt.lookup other = some stamp ∨
      (other = cohortId ∧ stamp = now) := by
  unfold onCohortAdvertised at found
  split at found
  · exact Or.inl found
  · have written := InsertionMap.lookup_of_lookup_remember found
    by_cases same : other = cohortId
    · subst same
      rw [AList.lookup_insert] at written
      exact Or.inr ⟨rfl, (Option.some.inj written).symm⟩
    · rw [AList.lookup_insert_ne same] at written
      exact Or.inl written

/-- An advert keeps another cohort's stamp unless the table is full and that
stamp is the oldest. -/
theorem lookup_onCohortAdvertised_of_ne
    {state : ServiceState} {cohortId other : CohortId} (now : Nat)
    (within : state.advertisedAt.size ≤ maxPerCohortEntries)
    (different : other ≠ cohortId)
    (kept :
      state.advertisedAt.size < maxPerCohortEntries ∨
        state.advertisedAt.oldest? ≠ some other) :
    (onCohortAdvertised state now cohortId).advertisedAt.lookup other =
      state.advertisedAt.lookup other := by
  unfold onCohortAdvertised
  split
  · rfl
  · next unstamped =>
      exact InsertionMap.lookup_remember_of_ne now unstamped within different kept

end Stamps

section Watches

/-! ## What a listener does to the funding watches -/

@[simp]
theorem fundingWatches_onCohortAdvertised
    (state : ServiceState) (now : Nat) (cohortId : CohortId) :
    (onCohortAdvertised state now cohortId).fundingWatches =
      state.fundingWatches := by
  unfold onCohortAdvertised
  split <;> rfl

@[simp]
theorem fundingWatches_onAdvertised
    (state : ServiceState) (cohortId : CohortId)
    (fundingWindowMs : Option Nat) :
    (onAdvertised state cohortId fundingWindowMs).fundingWatches =
      state.fundingWatches := by
  cases fundingWindowMs <;> rfl

/-- A watch is started only for a cohort whose verdict is live. -/
theorem mem_fundingWatches_onKeygenComplete
    {options : ServiceOptions} {state : ServiceState} {now : Nat}
    {cohortId other : CohortId} {beaconAddress : String}
    (member :
      other ∈
        (onKeygenComplete options state now cohortId
          beaconAddress).fundingWatches) :
    other ∈ state.fundingWatches ∨
      (other = cohortId ∧ cohortUsesLivePath state cohortId = true) := by
  unfold onKeygenComplete at member
  split at member
  · next live =>
      split at member
      · exact Or.inl member
      · have written := InsertionMap.mem_of_mem_evictPast member
        rw [AList.mem_insert] at written
        rcases written with same | earlier
        · exact Or.inr ⟨same, consult_eq_live live⟩
        · exact Or.inl earlier
  · exact Or.inl member

theorem mem_fundingWatches_of_releaseCohortTables
    {state : ServiceState} {cohortId other : CohortId}
    (member : other ∈ (releaseCohortTables state cohortId).fundingWatches) :
    other ∈ state.fundingWatches :=
  (AList.mem_erase.mp member).2

theorem mem_fundingWatches_of_onCohortFailed
    {options : ServiceOptions} {state : ServiceState}
    {cohortId other : CohortId}
    (member :
      other ∈ (onCohortFailed options state cohortId).fundingWatches) :
    other ∈ state.fundingWatches := by
  unfold onCohortFailed at member
  split at member
  · exact mem_fundingWatches_of_releaseCohortTables member
  · exact member

end Watches

section Bounds

/-! ## The stamp table stays within its bound -/

theorem size_advertisedAt_onCohortAdvertised
    {state : ServiceState} (now : Nat) (cohortId : CohortId)
    (within : state.advertisedAt.size ≤ maxPerCohortEntries) :
    (onCohortAdvertised state now cohortId).advertisedAt.size ≤
      maxPerCohortEntries := by
  unfold onCohortAdvertised
  split
  · exact within
  · exact InsertionMap.size_remember_le _ _ _ _

theorem size_advertisedAt_releaseCohortTables
    {state : ServiceState} (cohortId : CohortId)
    (within : state.advertisedAt.size ≤ maxPerCohortEntries) :
    (releaseCohortTables state cohortId).advertisedAt.size ≤
      maxPerCohortEntries :=
  Nat.le_trans (InsertionMap.size_erase_le _ _) within

theorem size_advertisedAt_onCohortFailed
    {options : ServiceOptions} {state : ServiceState} (cohortId : CohortId)
    (within : state.advertisedAt.size ≤ maxPerCohortEntries) :
    (onCohortFailed options state cohortId).advertisedAt.size ≤
      maxPerCohortEntries := by
  unfold onCohortFailed
  split
  · exact size_advertisedAt_releaseCohortTables cohortId within
  · exact within

end Bounds

end Btcr2Aggregation
