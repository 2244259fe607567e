import Btcr2Aggregation.Library.Machine
import Btcr2Aggregation.Service.CohortTables

/-!
# The kill switch over whole runs

A run interleaves adverts, the three hand-offs of every cohort's money path,
the terminal events, the operator's switch and the wall clock.  The service is
the closure state of `CohortTables`; what is added here is the history a
statement about runs needs: which cohorts were advertised, which are still
live, which were advertised while the switch was off, and every hand-off made.

Two laws are stated.  *Continuity*: a cohort advertised before the switch
engaged never stands down, and no cohort takes both paths.  *Safety*: a cohort
advertised only after the switch engaged never takes the live path.
-/

namespace Btcr2Aggregation

section System

/-! ## Events and runs -/

/-- The legs of a cohort's money path. -/
inductive Leg where
  | txData
  | fundingWatch
  | broadcast
  deriving DecidableEq, Repr

/-- One hand-off and the wiring it took. -/
structure HandOff where
  leg : Leg
  cohortId : CohortId
  wiring : Wiring
  deriving DecidableEq, Repr

/-- What can happen to a service. -/
inductive ServiceEvent where
  | clock (now : Nat)
  | disableBroadcast
  | cohortAdvertised (cohortId : CohortId) (fundingWindowMs : Option Nat)
  | provideTxData (cohortId : CohortId)
  | keygenComplete (cohortId : CohortId) (beaconAddress : String)
  | fundingState
      (cohortId : CohortId) (handle : FundingWatchHandle)
      (funding : FundingStateName) (lastObservationOk : Bool)
  | signingComplete (cohortId : CohortId)
  | cohortFailed (cohortId : CohortId)
  | canceled (cohortId : CohortId)
  | windowExpired (cohortId : CohortId)

/-- A service with its history. -/
structure ServiceRun where
  service : ServiceState
  now : Nat
  advertised : List CohortId
  live : List CohortId
  preSwitch : List CohortId
  handOffs : List HandOff

namespace ServiceRun

def booted : ServiceRun where
  service := .booted
  now := 0
  advertised := []
  live := []
  preSwitch := []
  handOffs := []

/-- Record a hand-off. -/
def handOff
    (run : ServiceRun) (leg : Leg) (cohortId : CohortId) (wiring : Wiring) :
    ServiceRun :=
  { run with handOffs := ⟨leg, cohortId, wiring⟩ :: run.handOffs }

/-- A cohort leaves the runner's live set. -/
def settle (run : ServiceRun) (cohortId : CohortId) : ServiceRun :=
  { run with live := run.live.filter (· ≠ cohortId) }

/-- What each event does.  At `signing-complete` the broadcast gate was
registered before the release of the tables, so it is asked first; a window
expiry runs no listener of the tables. -/
def step
    (options : ServiceOptions) (run : ServiceRun) :
    ServiceEvent → ServiceRun
  | .clock now => { run with now }
  | .disableBroadcast =>
      { run with
        service :=
          { run.service with
            killSwitch := run.service.killSwitch.disableBroadcast run.now } }
  | .cohortAdvertised cohortId fundingWindowMs =>
      { run with
        service :=
          onAdvertised
            (onCohortAdvertised run.service run.now cohortId) cohortId
            fundingWindowMs
        advertised := cohortId :: run.advertised
        live := cohortId :: run.live
        preSwitch :=
          if run.service.killSwitch.broadcastDisabled then
            run.preSwitch
          else
            cohortId :: run.preSwitch }
  | .provideTxData cohortId =>
      run.handOff .txData cohortId
        (onProvideTxData options run.service cohortId)
  | .keygenComplete cohortId beaconAddress =>
      { run.handOff .fundingWatch cohortId
          (consult options.broadcast run.service cohortId) with
        service :=
          onKeygenComplete options run.service run.now cohortId beaconAddress }
  | .fundingState cohortId handle funding lastObservationOk =>
      { run with
        service :=
          onFundingState run.service cohortId handle funding
            lastObservationOk }
  | .signingComplete cohortId =>
      { (run.handOff .broadcast cohortId
          (shouldBroadcast options run.service cohortId)).settle cohortId with
        service := releaseCohortTables run.service cohortId }
  | .cohortFailed cohortId =>
      { run.settle cohortId with
        service := onCohortFailed options run.service cohortId }
  | .canceled cohortId =>
      { run.settle cohortId with
        service := releaseCohortTables run.service cohortId }
  | .windowExpired cohortId => run.settle cohortId

end ServiceRun

namespace ServiceEvent

/-- The cohort an event reports on, when the runner must hold it live for the
event to happen. -/
def subject? : ServiceEvent → Option CohortId
  | .provideTxData cohortId => some cohortId
  | .keygenComplete cohortId _ => some cohortId
  | .signingComplete cohortId => some cohortId
  | .cohortFailed cohortId => some cohortId
  | .canceled cohortId => some cohortId
  | .windowExpired cohortId => some cohortId
  | _ => none

/-- The cohort an event mints. -/
def minted? : ServiceEvent → Option CohortId
  | .cohortAdvertised cohortId _ => some cohortId
  | _ => none

/-- The time an event sets the clock to. -/
def time? : ServiceEvent → Option Nat
  | .clock now => some now
  | _ => none

end ServiceEvent

/-- The library's side: a cohort id is minted fresh, and every later event is
about a cohort the runner still holds.  The clock is free. -/
def serviceMachine (options : ServiceOptions) :
    Machine ServiceRun ServiceEvent where
  init := .booted
  step := ServiceRun.step options
  admits run event :=
    (∀ cohortId ∈ event.minted?, cohortId ∉ run.advertised) ∧
    (∀ cohortId ∈ event.subject?, cohortId ∈ run.live)

/-- The widest environment the safety law is claimed for: any event at any
time, an advert of one cohort repeated at will, as long as the clock never
decreases and no hand-off names a cohort nobody ever advertised. -/
def safetyMachine (options : ServiceOptions) :
    Machine ServiceRun ServiceEvent where
  init := .booted
  step := ServiceRun.step options
  admits run event :=
    (∀ now ∈ event.time?, run.now ≤ now) ∧
    (∀ cohortId ∈ event.subject?, cohortId ∈ run.advertised)

instance (options : ServiceOptions) (run : ServiceRun) (event : ServiceEvent) :
    Decidable ((serviceMachine options).admits run event) :=
  inferInstanceAs (Decidable (_ ∧ _))

instance (options : ServiceOptions) (run : ServiceRun) (event : ServiceEvent) :
    Decidable ((safetyMachine options).admits run event) :=
  inferInstanceAs (Decidable (_ ∧ _))

end System

section Laws

/-! ## The two laws -/

/-- A cohort advertised before the switch engaged never stands down, and no
cohort has one hand-off on each path. -/
structure KillSwitchContinuity (run : ServiceRun) : Prop where
  keepsLive :
    ∀ handOff ∈ run.handOffs,
      handOff.cohortId ∈ run.preSwitch → handOff.wiring ≠ .standsDown
  onePath :
    ∀ handOff ∈ run.handOffs, ∀ other ∈ run.handOffs,
      handOff.cohortId = other.cohortId → handOff.wiring = .live →
        other.wiring ≠ .standsDown

/-- A cohort advertised only with the switch engaged never takes the live path,
and is never watched for funding. -/
structure KillSwitchSafety (run : ServiceRun) : Prop where
  neverLive :
    ∀ handOff ∈ run.handOffs,
      handOff.cohortId ∉ run.preSwitch → handOff.wiring ≠ .live
  neverWatched :
    ∀ cohortId ∈ run.service.fundingWatches, cohortId ∈ run.preSwitch

end Laws

section Continuity

/-! ## Continuity -/

/-- The steps at which no live cohort changes sides.  The switch is engaged
strictly after every live cohort's advert, while all their stamps are still in
the table; and once it is engaged no advert evicts the pre-switch stamp of a
live cohort. -/
def KeepsSides (run : ServiceRun) : ServiceEvent → Prop
  | .disableBroadcast =>
      run.service.killSwitch.broadcastDisabled = false →
        ∀ cohortId ∈ run.live,
          ∃ stamp ∈ run.service.advertisedAt.lookup cohortId, stamp < run.now
  | .cohortAdvertised _ _ =>
      ∀ engagedAt ∈ run.service.killSwitch.broadcastDisabledAtMs,
        run.service.advertisedAt.size = maxPerCohortEntries →
          ∀ cohortId ∈ run.live,
            run.service.advertisedAt.oldest? = some cohortId →
              ∀ stamp ∈ run.service.advertisedAt.lookup cohortId,
                engagedAt ≤ stamp
  | _ => True

instance (run : ServiceRun) : ∀ event, Decidable (KeepsSides run event)
  | .disableBroadcast => by unfold KeepsSides; infer_instance
  | .cohortAdvertised _ _ => by unfold KeepsSides; infer_instance
  | .clock _ | .provideTxData _ | .keygenComplete _ _ | .fundingState _ _ _ _
  | .signingComplete _ | .cohortFailed _ | .canceled _ | .windowExpired _ =>
      isTrue trivial

/-- The verdict of a cohort in a run. -/
abbrev ServiceRun.verdict (run : ServiceRun) (cohortId : CohortId) : Bool :=
  cohortUsesLivePath run.service cohortId

/-- What one step of a run that keeps sides preserves. -/
structure SidesInvariant (run : ServiceRun) : Prop where
  within : run.service.advertisedAt.size ≤ maxPerCohortEntries
  stamped : ∀ cohortId ∈ run.service.advertisedAt, cohortId ∈ run.advertised
  liveAdvertised : ∀ cohortId ∈ run.live, cohortId ∈ run.advertised
  handedOff : ∀ handOff ∈ run.handOffs, handOff.cohortId ∈ run.advertised
  preSwitchAdvertised : ∀ cohortId ∈ run.preSwitch, cohortId ∈ run.advertised
  liveSide :
    ∀ cohortId ∈ run.live, cohortId ∈ run.preSwitch → run.verdict cohortId = true
  agrees :
    ∀ handOff ∈ run.handOffs, handOff.cohortId ∈ run.live →
      (handOff.wiring = .live → run.verdict handOff.cohortId = true) ∧
        (handOff.wiring = .standsDown → run.verdict handOff.cohortId = false)
  continuity : KillSwitchContinuity run

/-- A verdict depends on the switch and on the cohort's own stamp. -/
theorem cohortUsesLivePath_congr
    {state after : ServiceState} {cohortId : CohortId}
    (switch : after.killSwitch = state.killSwitch)
    (stamp :
      after.advertisedAt.lookup cohortId =
        state.advertisedAt.lookup cohortId) :
    cohortUsesLivePath after cohortId = cohortUsesLivePath state cohortId := by
  rw [cohortUsesLivePath, cohortUsesLivePath, switch, stamp]

/-- Engaging the switch with every live stamp in the past keeps every live
cohort on its side. -/
theorem verdict_disableBroadcast
    {run : ServiceRun} {cohortId : CohortId}
    (member : cohortId ∈ run.live)
    (keeps : KeepsSides run .disableBroadcast) (options : ServiceOptions) :
    (run.step options .disableBroadcast).verdict cohortId =
      run.verdict cohortId := by
  by_cases engaged : run.service.killSwitch.broadcastDisabled = true
  · refine cohortUsesLivePath_congr ?_ rfl
    exact KillSwitch.disableBroadcast_of_engaged engaged run.now
  · have disengaged := Bool.eq_false_iff.mpr engaged
    obtain ⟨stamp, found, earlier⟩ := keeps disengaged cohortId member
    have stays :
        (run.step options .disableBroadcast).verdict cohortId = true :=
      (cohortUsesLivePath_of_engaged cohortId
        (KillSwitch.broadcastDisabledAtMs_disableBroadcast_of_off
          disengaged run.now)).mpr
        ⟨stamp, found, earlier⟩
    rw [stays]
    exact (cohortUsesLivePath_of_off cohortId disengaged).symm

/-- A stamp the bounded write dropped was the oldest one of a full table. -/
theorem lookup_onCohortAdvertised_cases
    {state : ServiceState} {cohortId other : CohortId} (now : Nat)
    (within : state.advertisedAt.size ≤ maxPerCohortEntries)
    (different : other ≠ cohortId) :
    (onCohortAdvertised state now cohortId).advertisedAt.lookup other =
        state.advertisedAt.lookup other ∨
      (state.advertisedAt.size = maxPerCohortEntries ∧
        state.advertisedAt.oldest? = some other ∧
        (onCohortAdvertised state now cohortId).advertisedAt.lookup other =
          none) := by
  by_cases room : state.advertisedAt.size < maxPerCohortEntries
  · exact Or.inl
      (lookup_onCohortAdvertised_of_ne now within different (Or.inl room))
  · by_cases oldest : state.advertisedAt.oldest? = some other
    · cases found :
          (onCohortAdvertised state now cohortId).advertisedAt.lookup other with
      | none => exact Or.inr ⟨by omega, oldest, rfl⟩
      | some stamp =>
          rcases lookup_of_lookup_onCohortAdvertised found with earlier | written
          · exact Or.inl earlier.symm
          · exact absurd written.1 different
    · exact Or.inl
        (lookup_onCohortAdvertised_of_ne now within different (Or.inr oldest))

section Advert

variable {options : ServiceOptions} {run : ServiceRun}
  {cohortId other : CohortId} {fundingWindowMs : Option Nat}

@[simp]
theorem killSwitch_cohortAdvertised :
    (run.step options
        (.cohortAdvertised cohortId fundingWindowMs)).service.killSwitch =
      run.service.killSwitch := by
  simp [ServiceRun.step]

@[simp]
theorem advertisedAt_cohortAdvertised :
    (run.step options
        (.cohortAdvertised cohortId fundingWindowMs)).service.advertisedAt =
      (onCohortAdvertised run.service run.now cohortId).advertisedAt := by
  simp [ServiceRun.step]

/-- An advert counts as a pre-switch one while the switch is off. -/
theorem mem_preSwitch_cohortAdvertised :
    other ∈
        (run.step options
          (.cohortAdvertised cohortId fundingWindowMs)).preSwitch ↔
      (other = cohortId ∧ run.service.killSwitch.broadcastDisabled = false) ∨
        other ∈ run.preSwitch := by
  by_cases engaged : run.service.killSwitch.broadcastDisabled = true
  · simp [ServiceRun.step, engaged]
  · simp [ServiceRun.step, Bool.eq_false_iff.mpr engaged]

end Advert

/-- An advert under the condition keeps every other live cohort on its side. -/
theorem verdict_cohortAdvertised
    {run : ServiceRun} {cohortId other : CohortId}
    {fundingWindowMs : Option Nat}
    (within : run.service.advertisedAt.size ≤ maxPerCohortEntries)
    (different : other ≠ cohortId) (member : other ∈ run.live)
    (keeps : KeepsSides run (.cohortAdvertised cohortId fundingWindowMs))
    (options : ServiceOptions) :
    (run.step options (.cohortAdvertised cohortId fundingWindowMs)).verdict
        other =
      run.verdict other := by
  have switch :
      (run.step options
          (.cohortAdvertised cohortId fundingWindowMs)).service.killSwitch =
        run.service.killSwitch :=
    killSwitch_cohortAdvertised
  rcases lookup_onCohortAdvertised_cases run.now within different with
    same | ⟨full, oldest, evicted⟩
  · refine cohortUsesLivePath_congr switch ?_
    rw [advertisedAt_cohortAdvertised, same]
  · cases engaged : run.service.killSwitch.broadcastDisabledAtMs with
    | none =>
        have disengaged : run.service.killSwitch.broadcastDisabled = false := by
          rw [← run.service.killSwitch.stamped, engaged]
          rfl
        rw [ServiceRun.verdict, ServiceRun.verdict,
          cohortUsesLivePath_of_off other disengaged]
        refine cohortUsesLivePath_of_off other ?_
        rw [switch, disengaged]
    | some engagedAt =>
        -- the evicted stamp was not below the engagement: both verdicts are false
        have before : cohortUsesLivePath run.service other = false := by
          rw [← Bool.not_eq_true, cohortUsesLivePath_of_engaged other engaged]
          rintro ⟨stamp, found, earlier⟩
          have later :=
            keeps engagedAt engaged full other member oldest stamp found
          omega
        rw [ServiceRun.verdict, ServiceRun.verdict, before,
          ← Bool.not_eq_true,
          cohortUsesLivePath_of_engaged other
            ((congrArg _ switch).trans engaged)]
        rintro ⟨stamp, found, -⟩
        rw [advertisedAt_cohortAdvertised, evicted] at found
        cases found

/-- What a step that records no hand-off and mints no cohort has to show. -/
theorem SidesInvariant.frame
    {run after : ServiceRun} (invariant : SidesInvariant run)
    (advertised : after.advertised = run.advertised)
    (preSwitch : after.preSwitch = run.preSwitch)
    (handOffs : after.handOffs = run.handOffs)
    (live : after.live ⊆ run.live)
    (within : after.service.advertisedAt.size ≤ maxPerCohortEntries)
    (stamped :
      ∀ cohortId ∈ after.service.advertisedAt,
        cohortId ∈ run.service.advertisedAt)
    (verdict :
      ∀ cohortId ∈ after.live, after.verdict cohortId = run.verdict cohortId) :
    SidesInvariant after where
  within := within
  stamped cohortId member := by
    rw [advertised]
    exact invariant.stamped cohortId (stamped cohortId member)
  liveAdvertised cohortId member := by
    rw [advertised]
    exact invariant.liveAdvertised cohortId (live member)
  handedOff handOff member := by
    rw [handOffs] at member
    rw [advertised]
    exact invariant.handedOff handOff member
  preSwitchAdvertised cohortId member := by
    rw [preSwitch] at member
    rw [advertised]
    exact invariant.preSwitchAdvertised cohortId member
  liveSide cohortId member early := by
    rw [preSwitch] at early
    rw [verdict cohortId member]
    exact invariant.liveSide cohortId (live member) early
  agrees handOff member inLive := by
    rw [handOffs] at member
    rw [verdict _ inLive]
    exact invariant.agrees handOff member (live inLive)
  continuity := by
    refine ⟨?_, ?_⟩
    · rw [handOffs, preSwitch]
      exact invariant.continuity.keepsLive
    · rw [handOffs]
      exact invariant.continuity.onePath

/-- Recording the hand-off of a live cohort keeps the invariant: the wiring is
its verdict, and the verdict is its side. -/
theorem SidesInvariant.handOff
    {run : ServiceRun} (invariant : SidesInvariant run)
    (leg : Leg) (listening : Bool) {cohortId : CohortId}
    (member : cohortId ∈ run.live) :
    SidesInvariant
      (run.handOff leg cohortId (consult listening run.service cohortId)) where
  within := invariant.within
  stamped := invariant.stamped
  liveAdvertised := invariant.liveAdvertised
  preSwitchAdvertised := invariant.preSwitchAdvertised
  liveSide := invariant.liveSide
  handedOff handOff recorded := by
    rcases List.mem_cons.mp recorded with rfl | earlier
    · exact invariant.liveAdvertised cohortId member
    · exact invariant.handedOff handOff earlier
  agrees handOff recorded inLive := by
    rcases List.mem_cons.mp recorded with rfl | earlier
    · exact ⟨consult_eq_live, consult_eq_standsDown⟩
    · exact invariant.agrees handOff earlier inLive
  continuity := by
    refine ⟨?_, ?_⟩
    · intro handOff recorded early down
      rcases List.mem_cons.mp recorded with rfl | earlier
      · have side := invariant.liveSide cohortId member early
        rw [ServiceRun.verdict, consult_eq_standsDown down] at side
        cases side
      · exact invariant.continuity.keepsLive handOff earlier early down
    · intro handOff recorded other otherRecorded same live down
      rcases List.mem_cons.mp recorded with rfl | earlier
      · rcases List.mem_cons.mp otherRecorded with rfl | otherEarlier
        · rw [down] at live
          cases live
        · -- an earlier stand-down of a cohort that now goes live
          have side :=
            (invariant.agrees other otherEarlier (same ▸ member)).2 down
          rw [ServiceRun.verdict, ← same, consult_eq_live live] at side
          cases side
      · rcases List.mem_cons.mp otherRecorded with rfl | otherEarlier
        · -- an earlier live hand-off of a cohort that now stands down
          have side :=
            (invariant.agrees handOff earlier (same ▸ member)).1 live
          rw [ServiceRun.verdict, same, consult_eq_standsDown down] at side
          cases side
        · exact
            invariant.continuity.onePath handOff earlier other otherEarlier
              same live down

/-- Advertising a fresh cohort keeps the invariant. -/
theorem SidesInvariant.cohortAdvertised
    {run : ServiceRun} (invariant : SidesInvariant run)
    (options : ServiceOptions)
    {cohortId : CohortId} {fundingWindowMs : Option Nat}
    (fresh : cohortId ∉ run.advertised)
    (keeps : KeepsSides run (.cohortAdvertised cohortId fundingWindowMs)) :
    SidesInvariant
      (run.step options (.cohortAdvertised cohortId fundingWindowMs)) := by
  have notLive : cohortId ∉ run.live :=
    fun member => fresh (invariant.liveAdvertised cohortId member)
  have kept :
      ∀ other ∈ run.live,
        (run.step options
            (.cohortAdvertised cohortId fundingWindowMs)).verdict other =
          run.verdict other :=
    fun other member =>
      verdict_cohortAdvertised invariant.within
        (ne_of_mem_of_not_mem member notLive) member keeps options
  constructor
  case within =>
    rw [advertisedAt_cohortAdvertised]
    exact size_advertisedAt_onCohortAdvertised _ _ invariant.within
  case stamped =>
    intro other member
    obtain ⟨stamp, found⟩ := InsertionMap.exists_lookup_of_mem member
    rw [advertisedAt_cohortAdvertised] at found
    rcases lookup_of_lookup_onCohortAdvertised found with earlier | written
    · have inTable : other ∈ run.service.advertisedAt :=
        InsertionMap.mem_of_lookup earlier
      exact List.mem_cons_of_mem _ (invariant.stamped other inTable)
    · exact List.mem_cons.mpr (Or.inl written.1)
  case liveAdvertised =>
    intro other member
    rcases List.mem_cons.mp member with rfl | earlier
    · exact List.mem_cons_self
    · exact List.mem_cons_of_mem _ (invariant.liveAdvertised other earlier)
  case handedOff =>
    intro handOff recorded
    exact List.mem_cons_of_mem _ (invariant.handedOff handOff recorded)
  case preSwitchAdvertised =>
    intro other member
    rcases mem_preSwitch_cohortAdvertised.mp member with ⟨rfl, -⟩ | earlier
    · exact List.mem_cons_self
    · exact List.mem_cons_of_mem _ (invariant.preSwitchAdvertised other earlier)
  case liveSide =>
    intro other member inPreSwitch
    rcases mem_preSwitch_cohortAdvertised.mp inPreSwitch with
      ⟨rfl, disengaged⟩ | earlier
    · refine cohortUsesLivePath_of_off other ?_
      rw [killSwitch_cohortAdvertised, disengaged]
    · have different : other ≠ cohortId :=
        fun same => fresh (same ▸ invariant.preSwitchAdvertised other earlier)
      have older := (List.mem_cons.mp member).resolve_left different
      rw [kept other older]
      exact invariant.liveSide other older earlier
  case agrees =>
    intro handOff recorded inLive
    have different : handOff.cohortId ≠ cohortId :=
      fun same => fresh (same ▸ invariant.handedOff handOff recorded)
    have older := (List.mem_cons.mp inLive).resolve_left different
    rw [kept _ older]
    exact invariant.agrees handOff recorded older
  case continuity =>
    refine ⟨?_, invariant.continuity.onePath⟩
    intro handOff recorded inPreSwitch
    rcases mem_preSwitch_cohortAdvertised.mp inPreSwitch with
      ⟨same, -⟩ | earlier
    · exact absurd (same ▸ invariant.handedOff handOff recorded) fresh
    · exact invariant.continuity.keepsLive handOff recorded earlier

/-- A cohort that leaves the live set keeps the invariant, whatever its own
table entries become. -/
theorem SidesInvariant.settle
    {run : ServiceRun} (invariant : SidesInvariant run) (cohortId : CohortId)
    {service : ServiceState}
    (switch : service.killSwitch = run.service.killSwitch)
    (within : service.advertisedAt.size ≤ maxPerCohortEntries)
    (stamped :
      ∀ other stamp,
        service.advertisedAt.lookup other = some stamp →
          run.service.advertisedAt.lookup other = some stamp)
    (others :
      ∀ other, other ≠ cohortId →
        service.advertisedAt.lookup other =
          run.service.advertisedAt.lookup other) :
    SidesInvariant { run.settle cohortId with service } := by
  have older :
      ∀ other ∈ (run.settle cohortId).live,
        other ∈ run.live ∧ other ≠ cohortId := by
    intro other member
    simpa [ServiceRun.settle] using member
  refine
    invariant.frame rfl rfl rfl (fun other member => (older other member).1)
      within ?_ ?_
  · intro other member
    obtain ⟨stamp, found⟩ := InsertionMap.exists_lookup_of_mem member
    exact InsertionMap.mem_of_lookup (stamped other stamp found)
  · intro other member
    exact cohortUsesLivePath_congr switch (others other (older other member).2)

theorem SidesInvariant.release
    {run : ServiceRun} (invariant : SidesInvariant run) (cohortId : CohortId) :
    SidesInvariant
      { run.settle cohortId with
        service := releaseCohortTables run.service cohortId } :=
  invariant.settle cohortId rfl
    (size_advertisedAt_releaseCohortTables cohortId invariant.within)
    (fun _ _ => lookup_of_lookup_releaseCohortTables)
    (fun _ different => lookup_releaseCohortTables run.service different)

/-- One offered step that keeps sides keeps the invariant. -/
theorem SidesInvariant.step
    {options : ServiceOptions} {run : ServiceRun}
    (invariant : SidesInvariant run) {event : ServiceEvent}
    (offered : (serviceMachine options).admits run event)
    (keeps : KeepsSides run event) :
    SidesInvariant (run.step options event) := by
  cases event with
  | clock now =>
      exact invariant.frame rfl rfl rfl (List.Subset.refl _) invariant.within
        (fun _ => id) (fun _ _ => rfl)
  | disableBroadcast =>
      have kept :
          ∀ cohortId ∈ run.live,
            (run.step options .disableBroadcast).verdict cohortId =
              run.verdict cohortId :=
        fun _ member => verdict_disableBroadcast member keeps options
      exact invariant.frame rfl rfl rfl (List.Subset.refl _) invariant.within
        (fun _ => id) kept
  | cohortAdvertised cohortId fundingWindowMs =>
      exact
        invariant.cohortAdvertised options
          (offered.1 cohortId rfl) keeps
  | provideTxData cohortId =>
      exact invariant.handOff .txData options.live (offered.2 cohortId rfl)
  | keygenComplete cohortId beaconAddress =>
      have recorded :=
        invariant.handOff .fundingWatch options.broadcast
          (offered.2 cohortId rfl)
      refine recorded.frame rfl rfl rfl (List.Subset.refl _) ?_ ?_ ?_
      · simpa [ServiceRun.step] using invariant.within
      · simp [ServiceRun.step, ServiceRun.handOff]
      · intro other _
        refine cohortUsesLivePath_congr ?_ ?_
        · exact killSwitch_onKeygenComplete _ _ _ _ _
        · exact congrArg _ (advertisedAt_onKeygenComplete _ _ _ _ _)
  | fundingState cohortId handle funding lastObservationOk =>
      exact invariant.frame rfl rfl rfl (List.Subset.refl _) invariant.within
        (fun _ => id) (fun _ _ => rfl)
  | signingComplete cohortId =>
      exact
        (invariant.handOff .broadcast options.broadcast
          (offered.2 cohortId rfl)).release cohortId
  | cohortFailed cohortId =>
      exact
        invariant.settle cohortId (killSwitch_onCohortFailed _ _ _)
          (size_advertisedAt_onCohortFailed cohortId invariant.within)
          (fun _ _ => lookup_of_lookup_onCohortFailed)
          (fun _ different => lookup_onCohortFailed _ _ different)
  | canceled cohortId =>
      exact invariant.release cohortId
  | windowExpired cohortId =>
      exact
        invariant.settle cohortId rfl invariant.within (fun _ _ => id)
          (fun _ _ => rfl)

theorem sidesInvariant_booted : SidesInvariant .booted where
  within := by decide
  stamped _ member := absurd member (AList.notMem_empty _)
  liveAdvertised _ member := by cases member
  handedOff _ member := by cases member
  preSwitchAdvertised _ member := by cases member
  liveSide _ member := by cases member
  agrees _ member := by cases member
  continuity := by
    constructor
    · intro _ member
      cases member
    · intro _ member
      cases member

/-- **Continuity.** Along every run whose steps keep sides, a cohort advertised
before the switch engaged stays on the live path at each of its hand-offs, and
no cohort changes paths. -/
theorem continuity_of_keepsSides
    (options : ServiceOptions) (events : List ServiceEvent)
    (admissible :
      ((serviceMachine options).restrict KeepsSides).Admits events) :
    KillSwitchContinuity ((serviceMachine options).run events) := by
  have always :
      ((serviceMachine options).restrict KeepsSides).Always SidesInvariant :=
    Machine.Always.of_inductive sidesInvariant_booted
      fun run event invariant offered => invariant.step offered.1 offered.2
  exact (always events admissible).continuity

/-- A live, broadcasting service with no TTL. -/
def broadcastingService : ServiceOptions where
  live := true
  broadcast := true
  cohortTtlMs := none
  fundingWindowMs := none
  broadcast_live := fun _ => rfl

/-- Two cohorts, one on each side of the switch. -/
def switchBetween : List ServiceEvent :=
  [.clock 1, .cohortAdvertised 0 none, .clock 2, .disableBroadcast,
    .cohortAdvertised 1 none, .keygenComplete 0 "a", .provideTxData 0,
    .provideTxData 1, .signingComplete 0, .signingComplete 1]

theorem continuity_of_keepsSides_between :
    ((serviceMachine broadcastingService).restrict KeepsSides).Admits
        switchBetween ∧
      KillSwitchContinuity
        ((serviceMachine broadcastingService).run switchBetween) :=
  ⟨by decide,
    continuity_of_keepsSides broadcastingService switchBetween (by decide)⟩

/-- The continuity law as a promise about every run of every service. -/
def ContinuityPromise : Prop :=
  ∀ options events,
    (serviceMachine options).Admits events →
      KillSwitchContinuity ((serviceMachine options).run events)

/-- Cohort `0` is built live, then twenty-four more adverts evict its stamp,
then the switch engages: its signed transaction is withheld. -/
def evictedMidFlight : List ServiceEvent :=
  [.clock 1, .cohortAdvertised 0 none, .keygenComplete 0 "a",
    .provideTxData 0, .clock 2] ++
  ((List.range 24).map fun index => .cohortAdvertised (index + 1) none) ++
  [.clock 3, .disableBroadcast, .signingComplete 0]

theorem not_continuityPromise : ¬ ContinuityPromise := by
  intro promise
  have law :=
    promise broadcastingService evictedMidFlight (by decide +kernel)
  have builtLive :
      (⟨.txData, 0, .live⟩ : HandOff) ∈
        ((serviceMachine broadcastingService).run evictedMidFlight).handOffs := by
    decide +kernel
  have withheld :
      (⟨.broadcast, 0, .standsDown⟩ : HandOff) ∈
        ((serviceMachine broadcastingService).run evictedMidFlight).handOffs := by
    decide +kernel
  exact law.onePath _ builtLive _ withheld rfl rfl rfl

end Continuity

section Safety

/-! ## Safety -/

/-- What one step preserves whatever the environment does, as long as the clock
never decreases. -/
structure LateInvariant (run : ServiceRun) : Prop where
  early :
    run.service.killSwitch.broadcastDisabled = false →
      ∀ cohortId ∈ run.advertised, cohortId ∈ run.preSwitch
  past :
    ∀ engagedAt ∈ run.service.killSwitch.broadcastDisabledAtMs,
      engagedAt ≤ run.now
  stamped :
    ∀ cohortId, ∀ stamp ∈ run.service.advertisedAt.lookup cohortId,
      cohortId ∈ run.advertised
  lateStamp :
    ∀ cohortId, cohortId ∉ run.preSwitch →
      ∀ stamp ∈ run.service.advertisedAt.lookup cohortId,
        ∀ engagedAt ∈ run.service.killSwitch.broadcastDisabledAtMs,
          engagedAt ≤ stamp
  safety : KillSwitchSafety run

/-- A cohort advertised only with the switch engaged has a false verdict: its
stamp is missing, or not below the engagement. -/
theorem LateInvariant.verdict_late
    {run : ServiceRun} (invariant : LateInvariant run) {cohortId : CohortId}
    (member : cohortId ∈ run.advertised) (late : cohortId ∉ run.preSwitch) :
    run.verdict cohortId = false := by
  have engaged : run.service.killSwitch.broadcastDisabled = true := by
    by_contra off
    exact late (invariant.early (Bool.eq_false_iff.mpr off) cohortId member)
  obtain ⟨engagedAt, stamp⟩ := KillSwitch.exists_stamp engaged
  rw [← Bool.not_eq_true, cohortUsesLivePath_of_engaged cohortId stamp]
  rintro ⟨advertisedAt, found, earlier⟩
  have later :=
    invariant.lateStamp cohortId late advertisedAt found engagedAt stamp
  omega

/-- What a step that leaves the switch and the history alone has to show. -/
theorem LateInvariant.frame
    {run after : ServiceRun} (invariant : LateInvariant run)
    (switch : after.service.killSwitch = run.service.killSwitch)
    (now : run.now ≤ after.now)
    (advertised : after.advertised = run.advertised)
    (preSwitch : after.preSwitch = run.preSwitch)
    (handOffs : after.handOffs = run.handOffs)
    (stamps :
      ∀ cohortId stamp,
        after.service.advertisedAt.lookup cohortId = some stamp →
          run.service.advertisedAt.lookup cohortId = some stamp)
    (watches :
      ∀ cohortId ∈ after.service.fundingWatches, cohortId ∈ run.preSwitch) :
    LateInvariant after where
  early off cohortId member := by
    rw [switch] at off
    rw [advertised] at member
    rw [preSwitch]
    exact invariant.early off cohortId member
  past engagedAt engaged := by
    rw [switch] at engaged
    exact Nat.le_trans (invariant.past engagedAt engaged) now
  stamped cohortId stamp found := by
    rw [advertised]
    exact invariant.stamped cohortId stamp (stamps cohortId stamp found)
  lateStamp cohortId late stamp found engagedAt engaged := by
    rw [preSwitch] at late
    rw [switch] at engaged
    exact
      invariant.lateStamp cohortId late stamp (stamps cohortId stamp found)
        engagedAt engaged
  safety := by
    refine ⟨?_, ?_⟩
    · rw [handOffs, preSwitch]
      exact invariant.safety.neverLive
    · rw [preSwitch]
      exact watches

/-- A hand-off of an advertised cohort takes its verdict, and the verdict of a
late cohort is false. -/
theorem LateInvariant.handOff
    {run : ServiceRun} (invariant : LateInvariant run)
    (leg : Leg) (listening : Bool) {cohortId : CohortId}
    (member : cohortId ∈ run.advertised) :
    LateInvariant
      (run.handOff leg cohortId (consult listening run.service cohortId)) where
  early := invariant.early
  past := invariant.past
  stamped := invariant.stamped
  lateStamp := invariant.lateStamp
  safety := by
    refine ⟨?_, invariant.safety.neverWatched⟩
    intro handOff recorded late live
    rcases List.mem_cons.mp recorded with rfl | earlier
    · have verdict := invariant.verdict_late member late
      rw [ServiceRun.verdict, consult_eq_live live] at verdict
      cases verdict
    · exact invariant.safety.neverLive handOff earlier late live

theorem LateInvariant.disableBroadcast
    {run : ServiceRun} (invariant : LateInvariant run)
    (options : ServiceOptions) :
    LateInvariant (run.step options .disableBroadcast) := by
  by_cases engaged : run.service.killSwitch.broadcastDisabled = true
  · refine
      invariant.frame ?_ (Nat.le_refl _) rfl rfl rfl (fun _ _ => id)
        invariant.safety.neverWatched
    exact KillSwitch.disableBroadcast_of_engaged engaged run.now
  · have off := Bool.eq_false_iff.mpr engaged
    have stamped :
        (run.step options
            .disableBroadcast).service.killSwitch.broadcastDisabledAtMs =
          some run.now :=
      KillSwitch.broadcastDisabledAtMs_disableBroadcast_of_off off run.now
    constructor
    case early =>
      intro stillOff
      simp [ServiceRun.step] at stillOff
    case past =>
      intro engagedAt found
      rw [stamped] at found
      cases found
      exact Nat.le_refl _
    case stamped =>
      exact invariant.stamped
    case lateStamp =>
      -- while the switch was off, every stamped cohort was a pre-switch one
      intro cohortId late stamp found
      exact absurd
        (invariant.early off cohortId (invariant.stamped cohortId stamp found))
        late
    case safety =>
      exact ⟨invariant.safety.neverLive, invariant.safety.neverWatched⟩

/-- An advert, first or repeated, keeps the invariant. -/
theorem LateInvariant.cohortAdvertised
    {run : ServiceRun} (invariant : LateInvariant run)
    (options : ServiceOptions) (cohortId : CohortId)
    (fundingWindowMs : Option Nat) :
    LateInvariant
      (run.step options (.cohortAdvertised cohortId fundingWindowMs)) := by
  have stamps (other : CohortId) (stamp : Nat)
      (found :
        (run.step options
            (.cohortAdvertised cohortId
              fundingWindowMs)).service.advertisedAt.lookup other =
          some stamp) :
      run.service.advertisedAt.lookup other = some stamp ∨
        (other = cohortId ∧ stamp = run.now) := by
    rw [advertisedAt_cohortAdvertised] at found
    exact lookup_of_lookup_onCohortAdvertised found
  constructor
  case early =>
    intro off other member
    rw [killSwitch_cohortAdvertised] at off
    refine mem_preSwitch_cohortAdvertised.mpr ?_
    rcases List.mem_cons.mp member with same | earlier
    · exact Or.inl ⟨same, off⟩
    · exact Or.inr (invariant.early off other earlier)
  case past =>
    intro engagedAt found
    rw [killSwitch_cohortAdvertised] at found
    exact invariant.past engagedAt found
  case stamped =>
    intro other stamp found
    rcases stamps other stamp found with earlier | ⟨rfl, -⟩
    · exact List.mem_cons_of_mem _ (invariant.stamped other stamp earlier)
    · exact List.mem_cons_self
  case lateStamp =>
    intro other late stamp found engagedAt engaged
    rw [killSwitch_cohortAdvertised] at engaged
    have lateBefore : other ∉ run.preSwitch :=
      fun member => late (mem_preSwitch_cohortAdvertised.mpr (Or.inr member))
    rcases stamps other stamp found with earlier | ⟨-, rfl⟩
    · exact invariant.lateStamp other lateBefore stamp earlier engagedAt engaged
    · exact invariant.past engagedAt engaged
  case safety =>
    refine ⟨?_, ?_⟩
    · intro handOff recorded late
      exact
        invariant.safety.neverLive handOff recorded
          fun member =>
            late (mem_preSwitch_cohortAdvertised.mpr (Or.inr member))
    · intro other watched
      have before : other ∈ run.service.fundingWatches := by
        simpa [ServiceRun.step] using watched
      exact
        mem_preSwitch_cohortAdvertised.mpr
          (Or.inr (invariant.safety.neverWatched other before))

/-- One offered step keeps the invariant. -/
theorem LateInvariant.step
    {options : ServiceOptions} {run : ServiceRun}
    (invariant : LateInvariant run) {event : ServiceEvent}
    (offered : (safetyMachine options).admits run event) :
    LateInvariant (run.step options event) := by
  have watched := invariant.safety.neverWatched
  cases event with
  | clock now =>
      exact
        invariant.frame rfl (offered.1 now rfl) rfl rfl rfl (fun _ _ => id)
          watched
  | disableBroadcast => exact invariant.disableBroadcast options
  | cohortAdvertised cohortId fundingWindowMs =>
      exact invariant.cohortAdvertised options cohortId fundingWindowMs
  | provideTxData cohortId =>
      exact invariant.handOff .txData options.live (offered.2 cohortId rfl)
  | keygenComplete cohortId beaconAddress =>
      have recorded :=
        invariant.handOff .fundingWatch options.broadcast
          (offered.2 cohortId rfl)
      refine
        recorded.frame (killSwitch_onKeygenComplete _ _ _ _ _) (Nat.le_refl _)
          rfl rfl rfl ?_ ?_
      · intro other stamp found
        simp only [ServiceRun.step, advertisedAt_onKeygenComplete] at found
        exact found
      · intro other member
        rcases mem_fundingWatches_onKeygenComplete member with
          earlier | ⟨rfl, live⟩
        · exact watched other earlier
        · by_contra late
          have verdict := invariant.verdict_late (offered.2 other rfl) late
          rw [ServiceRun.verdict, live] at verdict
          cases verdict
  | fundingState cohortId handle funding lastObservationOk =>
      exact
        invariant.frame rfl (Nat.le_refl _) rfl rfl rfl (fun _ _ => id) watched
  | signingComplete cohortId =>
      have recorded :=
        invariant.handOff .broadcast options.broadcast (offered.2 cohortId rfl)
      exact
        recorded.frame rfl (Nat.le_refl _) rfl rfl rfl
          (fun _ _ => lookup_of_lookup_releaseCohortTables)
          fun other member =>
            watched other (mem_fundingWatches_of_releaseCohortTables member)
  | cohortFailed cohortId =>
      exact
        invariant.frame (killSwitch_onCohortFailed _ _ _) (Nat.le_refl _) rfl
          rfl rfl (fun _ _ => lookup_of_lookup_onCohortFailed)
          fun other member =>
            watched other (mem_fundingWatches_of_onCohortFailed member)
  | canceled cohortId =>
      exact
        invariant.frame rfl (Nat.le_refl _) rfl rfl rfl
          (fun _ _ => lookup_of_lookup_releaseCohortTables)
          fun other member =>
            watched other (mem_fundingWatches_of_releaseCohortTables member)
  | windowExpired cohortId =>
      exact
        invariant.frame rfl (Nat.le_refl _) rfl rfl rfl (fun _ _ => id) watched

theorem lateInvariant_booted : LateInvariant .booted where
  early _ _ member := by cases member
  past _ found := by cases found
  stamped _ _ found := by cases found
  lateStamp _ _ _ found := by cases found
  safety := by
    constructor
    · intro _ member
      cases member
    · intro _ member
      cases member

/-- **Safety.** Along every run of a clock that never decreases, a cohort
advertised only after the first engagement never takes the live branch of any
hand-off, and no funding watch is ever started for it. -/
theorem safety_of_monotone_clock
    (options : ServiceOptions) (events : List ServiceEvent)
    (admissible : (safetyMachine options).Admits events) :
    KillSwitchSafety ((safetyMachine options).run events) := by
  have always : (safetyMachine options).Always LateInvariant :=
    Machine.Always.of_inductive lateInvariant_booted
      fun run event invariant offered => invariant.step offered
  exact (always events admissible).safety

/-- Engaged twice, with an advert in the millisecond of the engagement, an
eviction of that stamp, and a second advert of the same cohort. -/
def engagedTwice : List ServiceEvent :=
  [.clock 5, .disableBroadcast, .cohortAdvertised 0 none,
    .keygenComplete 0 "a", .provideTxData 0, .clock 9, .disableBroadcast,
    .canceled 0, .provideTxData 0, .cohortAdvertised 0 none,
    .signingComplete 0]

theorem safety_of_monotone_clock_engagedTwice :
    (safetyMachine broadcastingService).Admits engagedTwice ∧
      KillSwitchSafety ((safetyMachine broadcastingService).run engagedTwice) :=
  ⟨by decide,
    safety_of_monotone_clock broadcastingService engagedTwice (by decide)⟩

end Safety

end Btcr2Aggregation
