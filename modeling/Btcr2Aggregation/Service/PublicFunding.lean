import Btcr2Aggregation.Service.Monitor
import Btcr2Aggregation.Service.SideTables

/-!
# What the anonymous funding read says

`publicFunding` joins two tables of the monitor: the last funding view of a
cohort and, as a veto, its canceled record.  The views are written by the
display watch and by the `cohort-failed` listener, the records by every ending
the monitor hears of, and both tables evict on their own.  An expiry is heard
by neither, and a completion leaves the view as the last poll wrote it.

A run is a run of the side tables with the monitor beside it, and the last
state each cohort's watch reported.
-/

namespace Btcr2Aggregation

section System

/-! ## The service and its monitor -/

/-- The view one poll of a watch reports. -/
def WatchLoop.view (loop : WatchLoop) (read : Option FundingStateName) :
    FundingView where
  state := read.getD loop.lastState
  beaconAddress := loop.handle.beaconAddress
  truncatedWindowMin := loop.handle.truncatedWindowMin
  esploraStale := !read.isSome

/-- It is the view the poll leaves in `lastFundingView`. -/
theorem SideRun.lastFundingView_watchPoll
    (run : SideRun) (loop : WatchLoop) (read : Option FundingStateName) :
    (run.watchPoll loop read).service.lastFundingView =
      rememberBounded run.service.lastFundingView loop.cohortId
        (loop.view read) := by
  simp only [SideRun.watchPoll, onFundingState, WatchLoop.view]

/-- The verdict of a cohort that failed short of funding: a blind lapse when
its last observation failed. -/
def FundingView.lapsed (last : FundingView) : MonitoredFunding where
  toFundingView := last
  terminal := some (if last.esploraStale then .blindLapse else .windowClosed)

theorem FundingView.terminal_lapsed (last : FundingView) :
    last.lapsed.terminal ≠ none := by
  intro none
  cases none

/-- The service beside its monitor.  `latest` is history: the state each
cohort's watch reported last. -/
structure PublicRun where
  side : SideRun
  monitor : Monitor
  session : MonitorSession
  latest : InsertionMap CohortId FundingStateName

inductive PublicEvent where
  | side (event : SideEvent)
  | session (session : MonitorSession)
  | monitor (event : MonitorEvent)

/-- The mode the monitor is built with. -/
def ServiceOptions.mode (options : ServiceOptions) : ServiceMode :=
  if options.broadcast then .live
  else if options.live then .liveNoBroadcast
  else .hermetic

namespace PublicRun

def booted (options : ServiceOptions) : PublicRun where
  side := .booted
  monitor := .created options.mode
  session := ∅
  latest := ∅

/-- The last view of a cohort that fails, when its listener folds a verdict in:
the handle is there and the view is short of `funded`. -/
def lapsing?
    (options : ServiceOptions) (run : PublicRun) (cohortId : CohortId) :
    Option FundingView :=
  if options.broadcast ∧ cohortId ∈ run.side.service.fundingWatches then
    (run.side.service.lastFundingView.lookup cohortId).filter fun last =>
      last.state ≠ .funded
  else
    none

/-- What an event of the service makes the monitor do, in order.  The monitor
hears a failure before the side tables do. -/
def calls
    (options : ServiceOptions) (run : PublicRun) :
    SideEvent → List MonitorEvent
  | .keygenComplete cohortId beaconAddress =>
      [.notice (.keygenComplete cohortId beaconAddress)]
  | .watchPolls cohortId read =>
      match run.side.loopOf? cohortId with
      | some loop =>
          [.noteFunding cohortId
              { toFundingView := loop.view read
                terminal := none },
            .noteEsploraObservation read.isSome]
      | none => []
  | .signingComplete cohortId scriptPath =>
      [.notice (.signingComplete cohortId scriptPath)]
  | .cohortFailed cohortId reason =>
      .notice (.cohortFailed cohortId reason) ::
        match run.lapsing? options cohortId with
        | some last => [.noteFunding cohortId last.lapsed]
        | none => []
  | .canceled cohortId =>
      [.noteCanceled cohortId,
        .noteServiceAction (canceledCohortText cohortId)]
  | _ => []

/-- The monitor after a list of calls. -/
def called (run : PublicRun) (calls : List MonitorEvent) : Monitor :=
  calls.foldl
    (fun monitor call => monitor.step run.session run.side.now call) run.monitor

/-- The history of one event. -/
def report (run : PublicRun) : SideEvent → InsertionMap CohortId FundingStateName
  | .watchPolls cohortId read =>
      match run.side.loopOf? cohortId with
      | some loop => run.latest.insert cohortId (loop.view read).state
      | none => run.latest
  | _ => run.latest

def step (options : ServiceOptions) (run : PublicRun) : PublicEvent → PublicRun
  | .side event =>
      { run with
        side := run.side.step options event
        monitor := run.called (run.calls options event)
        latest := run.report event }
  | .session session => { run with session }
  | .monitor event =>
      { run with monitor := run.monitor.step run.session run.side.now event }

/-- What may reach the monitor outside the events of the service: the other
notices, a broadcaster's frame for a cohort that completed, a reachability
note, an operator's line, and a dismissal. -/
def Heard (run : PublicRun) : MonitorEvent → Prop
  | .notice (.signingComplete _ _) => False
  | .notice (.cohortFailed _ _) => False
  | .notice _ => True
  | .frame (.broadcast cohortId _) =>
      run.side.settled.lookup cohortId = some .completed
  | .frame (.failed cohortId _) =>
      run.side.settled.lookup cohortId = some .completed
  | .frame (.anchored cohortId _ _) =>
      run.side.settled.lookup cohortId = some .completed
  | .noteFunding _ _ => False
  | .noteCanceled _ => False
  | _ => True

instance (run : PublicRun) : ∀ event, Decidable (run.Heard event)
  | .notice notice => by
      cases notice <;> unfold Heard <;> infer_instance
  | .frame frame => by
      cases frame <;> unfold Heard <;> infer_instance
  | .noteFunding _ _ => isFalse id
  | .noteCanceled _ => isFalse id
  | .noteEsploraObservation _ => isTrue trivial
  | .noteOperatorAction _ _ => isTrue trivial
  | .noteServiceAction _ => isTrue trivial
  | .dismissEnded _ => isTrue trivial

/-- A running service. -/
def Offered (run : PublicRun) : PublicEvent → Prop
  | .side event => run.side.Offered event ∧ event ≠ .stop
  | .session _ => True
  | .monitor event => run.Heard event

instance (run : PublicRun) : ∀ event, Decidable (run.Offered event)
  | .side _ => inferInstanceAs (Decidable (_ ∧ _))
  | .session _ => isTrue trivial
  | .monitor event => inferInstanceAs (Decidable (run.Heard event))

end PublicRun

def publicMachine (options : ServiceOptions) : Machine PublicRun PublicEvent where
  init := .booted options
  step := PublicRun.step options
  admits := PublicRun.Offered

end System

section Law

/-! ## The law -/

/-- A view the anonymous read shows as awaiting. -/
def MonitoredFunding.Unfunded (view : MonitoredFunding) : Prop :=
  view.terminal = none ∧
    (view.state = .waiting ∨ view.state = .awaitingConfirmation)

instance (view : MonitoredFunding) : Decidable view.Unfunded :=
  inferInstanceAs (Decidable (_ ∧ _))

namespace Monitor

/-- The cohort's retained view is one of those. -/
def Awaits (monitor : Monitor) (cohortId : CohortId) : Prop :=
  ∃ view ∈ monitor.fundingViews.lookup cohortId, view.Unfunded

/-- The cohort's canceled record is retained. -/
def Vetoes (monitor : Monitor) (cohortId : CohortId) : Prop :=
  (monitor.ended.lookup cohortId).map EndedRecord.chip = some .canceled

instance (monitor : Monitor) (cohortId : CohortId) :
    Decidable (monitor.Awaits cohortId) :=
  inferInstanceAs (Decidable (∃ _ ∈ _, _))

instance (monitor : Monitor) (cohortId : CohortId) :
    Decidable (monitor.Vetoes cohortId) :=
  inferInstanceAs (Decidable (_ = _))

/-- The read is the join of the two tables. -/
theorem publicFunding_iff (monitor : Monitor) (cohortId : CohortId) :
    monitor.publicFunding cohortId = true ↔
      monitor.mode = .live ∧ monitor.Awaits cohortId ∧
        ¬ monitor.Vetoes cohortId := by
  unfold publicFunding Awaits Vetoes
  by_cases live : monitor.mode = .live
  · by_cases canceled :
        (monitor.ended.lookup cohortId).map EndedRecord.chip = some .canceled
    · simp [live, canceled]
    · cases found : monitor.fundingViews.lookup cohortId with
      | none => simp [live, canceled]
      | some view =>
          simp [live, canceled, MonitoredFunding.Unfunded]
  · simp [live]

end Monitor

structure PublicHonest (run : PublicRun) : Prop where
  /-- Awaiting is said of a live cohort whose last observation was short of
  funding. -/
  awaiting :
    ∀ cohortId,
      run.monitor.publicFunding cohortId = true →
        cohortId ∈ run.side.live ∧
          (run.latest.lookup cohortId = some .waiting ∨
            run.latest.lookup cohortId = some .awaitingConfirmation)
  /-- And never of a cohort that has ended. -/
  ended :
    ∀ cohortId ∈ run.side.settled,
      run.monitor.publicFunding cohortId = false

/-- The record pushed out by filing the cohort's own is no veto that a retained
view still needs. -/
def Monitor.KeepsVetoes (monitor : Monitor) (cohortId : CohortId) : Prop :=
  monitor.ended.size = maxEnded →
    cohortId ∉ monitor.ended →
      ∀ oldest ∈ monitor.ended.oldest?,
        monitor.Vetoes oldest → ¬ monitor.Awaits oldest

instance (monitor : Monitor) (cohortId : CohortId) :
    Decidable (monitor.KeepsVetoes cohortId) :=
  inferInstanceAs (Decidable (_ → _ → ∀ _ ∈ _, _))

/-- The steps after which the read is still true.  An expiry or a completion
finds no awaiting view, a failure finds one only with a verdict to fold in; a
watch reports an unfunded state of a live or a canceled cohort only; and no
filing pushes out a veto that is still needed. -/
def StaysHonest
    (options : ServiceOptions) (run : PublicRun) : PublicEvent → Prop
  | .side (.watchPolls cohortId read) =>
      ∀ loop ∈ run.side.loopOf? cohortId,
        (loop.view read).state = .waiting ∨
            (loop.view read).state = .awaitingConfirmation →
          cohortId ∈ run.side.live ∨ run.monitor.Vetoes cohortId
  | .side (.windowExpired cohortId) => ¬ run.monitor.Awaits cohortId
  | .side (.signingComplete cohortId _) =>
      ¬ run.monitor.Awaits cohortId ∧ run.monitor.KeepsVetoes cohortId
  | .side (.cohortFailed cohortId _) =>
      (run.monitor.Awaits cohortId →
          (run.lapsing? options cohortId).isSome = true) ∧
        run.monitor.KeepsVetoes cohortId
  | .side (.canceled cohortId) => run.monitor.KeepsVetoes cohortId
  | .monitor event =>
      ∀ cohortId ∈ event.files?, run.monitor.KeepsVetoes cohortId
  | _ => True

instance (options : ServiceOptions) (run : PublicRun) :
    ∀ event, Decidable (StaysHonest options run event)
  | .side event => by
      induction event using SideEvent.casesOn <;> unfold StaysHonest <;>
        infer_instance
  | .session _ => isTrue trivial
  | .monitor _ => by unfold StaysHonest; infer_instance

end Law

section Writes

/-! ## What a call of the monitor leaves of the two tables -/

namespace Monitor

variable
  {monitor : Monitor} {session : MonitorSession} {now : Nat}
  {cohortId other : CohortId}

@[simp]
theorem mode_noteFunding (view : MonitoredFunding) :
    (monitor.noteFunding cohortId view).mode = monitor.mode := by
  unfold noteFunding
  split
  · rfl
  · split <;> rfl

@[simp]
theorem ended_noteFunding (view : MonitoredFunding) :
    (monitor.noteFunding cohortId view).ended = monitor.ended := by
  unfold noteFunding
  split
  · rfl
  · split <;> rfl

/-- No call changes the mode. -/
theorem mode_step (event : MonitorEvent) :
    (monitor.step session now event).mode = monitor.mode := by
  cases event with
  | notice notice =>
      cases notice with
      | signingComplete cohortId scriptPath => rfl
      | cohortFailed cohortId reason => rfl
      | _ => simp only [step, onNotice, mode_touch]
  | frame frame =>
      cases frame with
      | broadcast cohortId txid => rfl
      | failed cohortId reason => rfl
      | anchored cohortId txid confirmed => cases confirmed <;> rfl
  | noteEsploraObservation ok => rfl
  | noteFunding cohortId view => exact mode_noteFunding view
  | noteCanceled cohortId =>
      unfold step noteCanceled
      dsimp only
      split
      · rfl
      · simp only [rememberEnded, mode_touch, mode_recordOperatorAction]
  | noteOperatorAction cohortId text =>
      exact mode_recordOperatorAction monitor now cohortId text
  | noteServiceAction text =>
      rw [step, recordServiceAction_eq]
  | dismissEnded cohortId =>
      unfold step dismissEnded
      dsimp only
      split
      · rfl
      · split
        · rfl
        · rw [recordServiceAction_eq]

/-- Nothing but `noteFunding` writes a view. -/
theorem lookup_fundingViews_step
    {event : MonitorEvent} {view : MonitoredFunding}
    (notFunding : ∀ cohortId view, event ≠ .noteFunding cohortId view)
    (found :
      (monitor.step session now event).fundingViews.lookup other =
        some view) :
    monitor.fundingViews.lookup other = some view := by
  cases event with
  | notice notice =>
      cases notice with
      | signingComplete cohortId scriptPath => exact found
      | cohortFailed cohortId reason => exact found
      | _ =>
          simp only [step, onNotice, fundingViews_touch] at found
          exact found
  | frame frame =>
      cases frame with
      | broadcast cohortId txid => exact found
      | failed cohortId reason => exact found
      | anchored cohortId txid confirmed => cases confirmed <;> exact found
  | noteEsploraObservation ok => exact found
  | noteFunding cohortId view => exact absurd rfl (notFunding cohortId view)
  | noteCanceled cohortId =>
      unfold step noteCanceled at found
      dsimp only at found
      split at found
      · exact found
      · simp only [rememberEnded, fundingViews_touch,
          fundingViews_recordOperatorAction] at found
        exact found
  | noteOperatorAction cohortId text =>
      simp only [step, fundingViews_recordOperatorAction] at found
      exact found
  | noteServiceAction text =>
      rw [step, recordServiceAction_eq] at found
      exact found
  | dismissEnded cohortId =>
      unfold step dismissEnded at found
      dsimp only at found
      split at found
      · exact found
      · split at found
        · exact found
        · rw [recordServiceAction_eq] at found
          exact InsertionMap.lookup_of_lookup_erase found

/-- A view short of funding that is there after a note is the one noted, or was
there before for another cohort. -/
theorem lookup_noteFunding
    {noted view : MonitoredFunding} (live : monitor.mode = .live)
    (found :
      (monitor.noteFunding cohortId noted).fundingViews.lookup other =
        some view)
    (unfunded : view.Unfunded) :
    (other = cohortId ∧ view = noted) ∨
      (other ≠ cohortId ∧ monitor.fundingViews.lookup other = some view) := by
  unfold noteFunding at found
  rw [if_neg (not_not.mpr live)] at found
  split at found
  · next guarded =>
      refine Or.inr ⟨?_, found⟩
      rintro rfl
      obtain ⟨standing, isStanding, funded⟩ :=
        Option.map_eq_some_iff.mp guarded.1
      rw [Option.some.inj (found.symm.trans isStanding)] at unfunded
      rcases unfunded.2 with waiting | awaiting
      · exact absurd (funded.symm.trans waiting) (by decide)
      · exact absurd (funded.symm.trans awaiting) (by decide)
  · exact InsertionMap.lookup_remember_cases found

/-- Only a cancel vetoes. -/
theorem Vetoes.of_step
    {event : MonitorEvent}
    (vetoes : (monitor.step session now event).Vetoes other) :
    monitor.Vetoes other ∨ event = .noteCanceled other := by
  have write := monitor.endedWrite_step session now event
  unfold Vetoes at vetoes
  generalize (monitor.step session now event).ended = after at write vetoes
  obtain ⟨record, found, canceled⟩ := Option.map_eq_some_iff.mp vetoes
  have kept (before : monitor.ended.lookup other = some record) :
      monitor.Vetoes other :=
    Option.map_eq_some_iff.mpr ⟨record, before, canceled⟩
  cases write with
  | kept event silent => exact Or.inl vetoes
  | alreadyCanceled cohortId already => exact Or.inl vetoes
  | coSigned cohortId scriptPath viaFallback tagged =>
      rcases InsertionMap.lookup_remember_cases found with
        ⟨rfl, rfl⟩ | ⟨-, before⟩
      · cases viaFallback <;> cases canceled
      · exact Or.inl (kept before)
  | failed event cohortId reason source =>
      rcases InsertionMap.lookup_remember_cases found with
        ⟨rfl, rfl⟩ | ⟨-, before⟩
      · cases canceled
      · exact Or.inl (kept before)
  | anchored cohortId txid viaFallback tagged =>
      rcases InsertionMap.lookup_remember_cases found with
        ⟨rfl, rfl⟩ | ⟨-, before⟩
      · cases viaFallback <;> cases canceled
      · exact Or.inl (kept before)
  | canceled cohortId =>
      rcases InsertionMap.lookup_remember_cases found with
        ⟨rfl, rfl⟩ | ⟨-, before⟩
      · exact Or.inr rfl
      · exact Or.inl (kept before)
  | dismissed cohortId record settled =>
      exact Or.inl (kept (InsertionMap.lookup_of_lookup_erase found))

/-- A dismissal forgets the view with the record. -/
theorem lookup_fundingViews_dismissEnded
    (record : cohortId ∈ monitor.ended)
    (settled :
      ((session.lookup cohortId).map SessionSeats.phase).any
          (fun phase => phase ∈ displayPhases) =
        false) :
    (monitor.step session now (.dismissEnded cohortId)).fundingViews.lookup
        cohortId =
      none := by
  unfold step dismissEnded
  dsimp only
  rw [if_neg (not_not.mpr record), settled, recordServiceAction_eq]
  exact AList.lookup_erase _ _

/-- A filing under the condition keeps the vetoes still needed. -/
theorem Vetoes.of_remember
    (vetoes : monitor.Vetoes other) (awaits : monitor.Awaits other)
    (within : monitor.ended.size ≤ maxEnded)
    (keeps : monitor.KeepsVetoes cohortId) (different : other ≠ cohortId)
    (record : EndedRecord) :
    ((monitor.ended.remember maxEnded cohortId record).lookup other).map
        EndedRecord.chip =
      some .canceled := by
  have same :
      (monitor.ended.remember maxEnded cohortId record).lookup other =
        monitor.ended.lookup other := by
    by_cases present : cohortId ∈ monitor.ended
    · exact
        InsertionMap.lookup_remember_of_mem record present within different
    · refine
        InsertionMap.lookup_remember_of_ne record present within different ?_
      by_cases room : monitor.ended.size < maxEnded
      · exact Or.inl room
      · refine Or.inr fun oldest => ?_
        exact keeps (by omega) present other oldest vetoes awaits
  rw [same]
  exact vetoes

/-- A veto still needed stays, unless another ending of the same cohort is
filed. -/
theorem Vetoes.step
    (vetoes : monitor.Vetoes other)
    (within : monitor.ended.size ≤ maxEnded) {event : MonitorEvent}
    (notFunding : ∀ cohortId view, event ≠ .noteFunding cohortId view)
    (keeps : ∀ cohortId ∈ event.files?, monitor.KeepsVetoes cohortId)
    (unfiled : event.files? = some other → event = .noteCanceled other)
    (awaits : (monitor.step session now event).Awaits other) :
    (monitor.step session now event).Vetoes other := by
  have awaitsBefore : monitor.Awaits other := by
    obtain ⟨view, found, unfunded⟩ := awaits
    exact ⟨view, lookup_fundingViews_step notFunding found, unfunded⟩
  have write := monitor.endedWrite_step session now event
  unfold Vetoes
  generalize written : (monitor.step session now event).ended = after at write
  have filed (cohortId : CohortId) (record : EndedRecord)
      (files : event.files? = some cohortId)
      (notCancel : event ≠ .noteCanceled cohortId) :
      ((monitor.ended.remember maxEnded cohortId record).lookup other).map
          EndedRecord.chip =
        some .canceled := by
    have different : other ≠ cohortId := by
      rintro rfl
      exact notCancel (unfiled files)
    exact
      vetoes.of_remember awaitsBefore within (keeps cohortId files) different
        record
  cases write with
  | kept event silent => exact vetoes
  | alreadyCanceled cohortId already => exact vetoes
  | coSigned cohortId scriptPath viaFallback tagged =>
      exact filed cohortId _ rfl (by simp)
  | failed event cohortId reason source =>
      rcases source with ⟨told, rfl⟩ | ⟨told, rfl⟩
      · exact filed cohortId _ rfl (by simp)
      · exact filed cohortId _ rfl (by simp)
  | anchored cohortId txid viaFallback tagged =>
      exact filed cohortId _ rfl (by simp)
  | canceled cohortId =>
      by_cases same : other = cohortId
      · subst same
        rw [InsertionMap.lookup_remember_self (by decide)]
        rfl
      · exact
          vetoes.of_remember awaitsBefore within (keeps cohortId rfl) same _
  | dismissed cohortId record settled =>
      have different : other ≠ cohortId := by
        rintro rfl
        obtain ⟨view, found, -⟩ := awaits
        rw [Option.mem_def,
          lookup_fundingViews_dismissEnded record settled] at found
        cases found
      rw [AList.lookup_erase_ne different]
      exact vetoes

/-- A cancel files its veto. -/
theorem vetoes_noteCanceled :
    (monitor.step session now (.noteCanceled cohortId)).Vetoes cohortId := by
  unfold Vetoes step noteCanceled
  dsimp only
  split
  · assumption
  · rw [rememberEnded, InsertionMap.lookup_remember_self (by decide)]
    rfl

end Monitor

end Writes

section Invariant

/-! ## What one step keeps -/

namespace PublicRun

/-- Every view short of funding is that of a live or a vetoed cohort, and the
last one its watch reported. -/
structure Honest (run : PublicRun) : Prop where
  fated : run.side.Fated
  within : run.monitor.ended.size ≤ maxEnded
  vetoed :
    ∀ cohortId,
      run.monitor.Vetoes cohortId →
        run.side.settled.lookup cohortId = some .canceled
  awaited :
    run.monitor.mode = .live →
      ∀ cohortId,
        ∀ view ∈ run.monitor.fundingViews.lookup cohortId,
          view.Unfunded →
            (cohortId ∈ run.side.live ∨ run.monitor.Vetoes cohortId) ∧
              run.latest.lookup cohortId = some view.state

variable
  {options : ServiceOptions} {run after : PublicRun} {cohortId : CohortId}

theorem honest_booted (options : ServiceOptions) : (booted options).Honest where
  fated := SideRun.fated_booted
  within := Nat.zero_le _
  vetoed := by
    intro cohortId vetoes
    cases vetoes
  awaited := by
    intro live cohortId view found
    cases found

/-- A step after which no view is new. -/
theorem Honest.frame
    (honest : run.Honest)
    (fated : after.side.Fated)
    (within : after.monitor.ended.size ≤ maxEnded)
    (mode : after.monitor.mode = run.monitor.mode)
    (latest : after.latest = run.latest)
    (vetoed :
      ∀ other,
        after.monitor.Vetoes other →
          after.side.settled.lookup other = some .canceled)
    (views :
      run.monitor.mode = .live →
        ∀ other view,
          after.monitor.fundingViews.lookup other = some view →
            view.Unfunded →
              run.monitor.fundingViews.lookup other = some view)
    (stays :
      run.monitor.mode = .live →
        ∀ other,
          run.monitor.Awaits other →
            after.monitor.Awaits other →
              other ∈ run.side.live ∨ run.monitor.Vetoes other →
                other ∈ after.side.live ∨ after.monitor.Vetoes other) :
    after.Honest where
  fated := fated
  within := within
  vetoed := vetoed
  awaited := by
    intro live other view found unfunded
    rw [mode] at live
    have before := views live other view found unfunded
    obtain ⟨covered, reported⟩ :=
      honest.awaited live other view before unfunded
    rw [latest]
    exact
      ⟨stays live other ⟨view, before, unfunded⟩ ⟨view, found, unfunded⟩
          covered,
        reported⟩

/-- A step that calls the monitor once, not with a view. -/
theorem Honest.call
    (honest : run.Honest) (event : MonitorEvent)
    (notFunding : ∀ cohortId view, event ≠ .noteFunding cohortId view)
    (keeps : ∀ cohortId ∈ event.files?, run.monitor.KeepsVetoes cohortId)
    (fated : after.side.Fated)
    (monitor :
      after.monitor = run.monitor.step run.session run.side.now event)
    (latest : after.latest = run.latest)
    (fates :
      ∀ other,
        run.side.settled.lookup other = some .canceled →
          after.side.settled.lookup other = some .canceled)
    (cancels :
      ∀ other,
        event = .noteCanceled other →
          after.side.settled.lookup other = some .canceled)
    (unfiled :
      ∀ other,
        run.side.settled.lookup other = some .canceled →
          event.files? = some other → event = .noteCanceled other)
    (live :
      ∀ other ∈ run.side.live,
        run.monitor.Awaits other →
          other ∈ after.side.live ∨ after.monitor.Vetoes other) :
    after.Honest := by
  refine honest.frame fated ?_ ?_ latest ?_ ?_ ?_
  · rw [monitor]
    exact Monitor.size_ended_step honest.within event
  · rw [monitor]
    exact Monitor.mode_step event
  · intro other vetoes
    rw [monitor] at vetoes
    rcases vetoes.of_step with before | canceled
    · exact fates other (honest.vetoed other before)
    · exact cancels other canceled
  · intro _ other view found _
    rw [monitor] at found
    exact Monitor.lookup_fundingViews_step notFunding found
  · intro _ other before awaits covered
    rcases covered with isLive | vetoes
    · exact live other isLive before
    · refine Or.inr ?_
      rw [monitor] at awaits ⊢
      exact
        vetoes.step honest.within notFunding keeps
          (unfiled other (honest.vetoed other vetoes)) awaits

/-- A step that calls the monitor once, and then folds a verdict into the view
of a cohort that leaves the runner. -/
theorem Honest.callThenVerdict
    (honest : run.Honest) (event : MonitorEvent)
    (notFunding : ∀ cohortId view, event ≠ .noteFunding cohortId view)
    (keeps : ∀ cohortId ∈ event.files?, run.monitor.KeepsVetoes cohortId)
    (fated : after.side.Fated)
    {verdict : MonitoredFunding} (lapsed : verdict.terminal ≠ none)
    (monitor :
      after.monitor =
        (run.monitor.step run.session run.side.now event).noteFunding cohortId
          verdict)
    (latest : after.latest = run.latest)
    (fates :
      ∀ other,
        run.side.settled.lookup other = some .canceled →
          after.side.settled.lookup other = some .canceled)
    (cancels :
      ∀ other,
        event = .noteCanceled other →
          after.side.settled.lookup other = some .canceled)
    (unfiled :
      ∀ other,
        run.side.settled.lookup other = some .canceled →
          event.files? = some other → event = .noteCanceled other)
    (live :
      ∀ other ∈ run.side.live,
        other ≠ cohortId → other ∈ after.side.live) :
    after.Honest := by
  have mode :
      (run.monitor.step run.session run.side.now event).mode =
        run.monitor.mode :=
    Monitor.mode_step event
  have sameVetoes (other : CohortId) :
      after.monitor.Vetoes other ↔
        (run.monitor.step run.session run.side.now event).Vetoes other := by
    rw [Monitor.Vetoes, Monitor.Vetoes, monitor, Monitor.ended_noteFunding]
  -- a view short of funding is no verdict, so it is an earlier one
  have survives (isLive : run.monitor.mode = .live) (other : CohortId)
      (view : MonitoredFunding)
      (found : after.monitor.fundingViews.lookup other = some view)
      (unfunded : view.Unfunded) :
      other ≠ cohortId ∧
        (run.monitor.step run.session run.side.now event).fundingViews.lookup
            other =
          some view := by
    rw [monitor] at found
    rcases Monitor.lookup_noteFunding (mode.trans isLive) found unfunded with
      ⟨-, rfl⟩ | kept
    · exact absurd unfunded.1 lapsed
    · exact kept
  refine honest.frame fated ?_ ?_ latest ?_ ?_ ?_
  · rw [monitor, Monitor.ended_noteFunding]
    exact Monitor.size_ended_step honest.within event
  · rw [monitor, Monitor.mode_noteFunding]
    exact mode
  · intro other vetoes
    rw [sameVetoes] at vetoes
    rcases vetoes.of_step with before | canceled
    · exact fates other (honest.vetoed other before)
    · exact cancels other canceled
  · intro isLive other view found unfunded
    exact
      Monitor.lookup_fundingViews_step notFunding
        (survives isLive other view found unfunded).2
  · intro isLive other _ awaits covered
    obtain ⟨view, found, unfunded⟩ := awaits
    obtain ⟨different, kept⟩ := survives isLive other view found unfunded
    rcases covered with wasLive | vetoes
    · exact Or.inl (live other wasLive different)
    · refine Or.inr ((sameVetoes other).mpr ?_)
      exact
        vetoes.step honest.within notFunding keeps
          (unfiled other (honest.vetoed other vetoes)) ⟨view, kept, unfunded⟩

/-- A report of a watch under the condition. -/
theorem Honest.watchPolls
    (honest : run.Honest) {read : Option FundingStateName}
    (fated : (run.side.step options (.watchPolls cohortId read)).Fated)
    (stays : StaysHonest options run (.side (.watchPolls cohortId read))) :
    (run.step options (.side (.watchPolls cohortId read))).Honest := by
  have sameLive :
      (run.side.step options (.watchPolls cohortId read)).live =
        run.side.live := by
    unfold SideRun.step
    dsimp only
    split <;> rfl
  have sameFates :
      (run.side.step options (.watchPolls cohortId read)).settled =
        run.side.settled := by
    unfold SideRun.step
    dsimp only
    split <;> rfl
  cases watching : run.side.loopOf? cohortId with
  | none =>
      have sameMonitor :
          (run.step options (.side (.watchPolls cohortId read))).monitor =
            run.monitor := by
        simp only [step, calls, watching, called, List.foldl_nil]
      have sameLatest :
          (run.step options (.side (.watchPolls cohortId read))).latest =
            run.latest := by
        simp only [step, report, watching]
      refine
        honest.frame fated ?_ (congrArg _ sameMonitor) sameLatest ?_ ?_ ?_
      · rw [sameMonitor]
        exact honest.within
      · intro other vetoes
        rw [sameMonitor] at vetoes
        rw [step, sameFates]
        exact honest.vetoed other vetoes
      · intro _ other view found _
        rw [sameMonitor] at found
        exact found
      · intro _ other _ _ covered
        rw [sameMonitor, step, sameLive]
        exact covered
  | some loop =>
      have monitor :
          (run.step options (.side (.watchPolls cohortId read))).monitor =
            (run.monitor.noteFunding cohortId
                { toFundingView := loop.view read
                  terminal := none }).noteEsploraObservation read.isSome := by
        simp only [step, calls, watching, called, List.foldl_cons,
          List.foldl_nil, Monitor.step]
      have latest :
          (run.step options (.side (.watchPolls cohortId read))).latest =
            run.latest.insert cohortId (loop.view read).state := by
        simp only [step, report, watching]
      have sameEnded :
          (run.step options (.side (.watchPolls cohortId read))).monitor.ended =
            run.monitor.ended := by
        rw [monitor, Monitor.noteEsploraObservation, Monitor.ended_noteFunding]
      have sameVetoes (other : CohortId) :
          (run.step options
              (.side (.watchPolls cohortId read))).monitor.Vetoes other ↔
            run.monitor.Vetoes other := by
        rw [Monitor.Vetoes, Monitor.Vetoes, sameEnded]
      refine ⟨fated, ?_, ?_, ?_⟩
      · rw [sameEnded]
        exact honest.within
      · intro other vetoes
        rw [sameVetoes] at vetoes
        rw [step, sameFates]
        exact honest.vetoed other vetoes
      · intro live other view found unfunded
        rw [monitor, Monitor.noteEsploraObservation,
          Monitor.mode_noteFunding] at live
        rw [monitor] at found
        rw [sameVetoes, latest, step, sameLive]
        rcases Monitor.lookup_noteFunding live found unfunded with
          ⟨rfl, rfl⟩ | ⟨different, before⟩
        · have covered := stays loop watching unfunded.2
          exact ⟨covered, AList.lookup_insert _⟩
        · rw [AList.lookup_insert_ne different]
          exact honest.awaited live other view before unfunded

/-- A cohort that does not settle stays live. -/
theorem mem_live_of_other
    {event : SideEvent} {other : CohortId}
    (goesOn : event ≠ .stop) (isLive : other ∈ run.side.live)
    (different : event.settles? ≠ some other) :
    other ∈ (run.side.step options event).live :=
  (SideRun.mem_live_step goesOn).mpr (Or.inr ⟨isLive, different⟩)

/-- An event of the service that does not reach the monitor. -/
theorem Honest.unheard
    (honest : run.Honest) {event : SideEvent}
    (offered : run.side.Offered event) (goesOn : event ≠ .stop)
    (silent : run.calls options event = [])
    (sameLatest : run.report event = run.latest)
    (noneAwaits :
      ∀ other, event.settles? = some other → ¬ run.monitor.Awaits other) :
    (run.step options (.side event)).Honest := by
  have sameMonitor :
      (run.step options (.side event)).monitor = run.monitor := by
    rw [step, silent]
    rfl
  refine
    honest.frame (honest.fated.step offered goesOn) ?_ (congrArg _ sameMonitor)
      sameLatest ?_ ?_ ?_
  · rw [sameMonitor]
    exact honest.within
  · intro other vetoes
    rw [sameMonitor] at vetoes
    exact honest.fated.keepsFate offered (honest.vetoed other vetoes)
  · intro _ other view found _
    rw [sameMonitor] at found
    exact found
  · intro _ other awaits _ covered
    rw [sameMonitor]
    refine covered.imp_left fun isLive => ?_
    refine mem_live_of_other goesOn isLive ?_
    intro settles
    exact noneAwaits other settles awaits

/-- A failure under the condition leaves a verdict on a view that awaits. -/
theorem Honest.cohortFailed
    (honest : run.Honest) {reason : String}
    (offered : run.side.Offered (.cohortFailed cohortId reason))
    (stays :
      StaysHonest options run (.side (.cohortFailed cohortId reason))) :
    (run.step options (.side (.cohortFailed cohortId reason))).Honest := by
  obtain ⟨verdict, keeps⟩ := stays
  have isLive : cohortId ∈ run.side.live := offered.1 cohortId rfl
  have fated :
      (run.side.step options (.cohortFailed cohortId reason)).Fated :=
    honest.fated.step offered (by simp)
  have keepsFiled :
      ∀ filed ∈
          (MonitorEvent.notice (.cohortFailed cohortId reason)).files?,
        run.monitor.KeepsVetoes filed := by
    intro filed files
    cases files
    exact keeps
  have unfiled (other : CohortId)
      (fate : run.side.settled.lookup other = some .canceled)
      (files :
        (MonitorEvent.notice (.cohortFailed cohortId reason)).files? =
          some other) :
      MonitorEvent.notice (.cohortFailed cohortId reason) =
        .noteCanceled other := by
    cases files
    have isSettled : cohortId ∈ run.side.settled := by
      rw [← AList.lookup_isSome, fate]
      rfl
    exact absurd isSettled (honest.fated.apart cohortId isLive)
  have staysLive (other : CohortId) (before : other ∈ run.side.live)
      (different : other ≠ cohortId) :
      other ∈
        (run.side.step options (.cohortFailed cohortId reason)).live := by
    refine mem_live_of_other (by simp) before ?_
    intro same
    exact different (Option.some.inj same).symm
  cases lapsing : run.lapsing? options cohortId with
  | none =>
      refine
        honest.call (.notice (.cohortFailed cohortId reason)) (by simp)
          keepsFiled fated ?_ rfl ?_ ?_ unfiled ?_
      · simp only [step, calls, lapsing, called, List.foldl_cons,
          List.foldl_nil]
      · intro other fate
        exact honest.fated.keepsFate offered fate
      · intro other cancels
        cases cancels
      · intro other before awaits
        refine Or.inl (staysLive other before ?_)
        rintro rfl
        have present := verdict awaits
        rw [lapsing] at present
        cases present
  | some last =>
      refine
        honest.callThenVerdict (.notice (.cohortFailed cohortId reason))
          (by simp) keepsFiled fated last.terminal_lapsed ?_ rfl ?_ ?_ unfiled
          staysLive
      · simp only [step, calls, lapsing, called, List.foldl_cons,
          List.foldl_nil]
        rfl
      · intro other fate
        exact honest.fated.keepsFate offered fate
      · intro other cancels
        cases cancels

/-- A cancel files its veto as the cohort leaves. -/
theorem Honest.canceled
    (honest : run.Honest)
    (offered : run.side.Offered (.canceled cohortId))
    (keeps : run.monitor.KeepsVetoes cohortId) :
    (run.step options (.side (.canceled cohortId))).Honest := by
  have fated : (run.side.step options (.canceled cohortId)).Fated :=
    honest.fated.step offered (by simp)
  have settles :
      (run.side.step options (.canceled cohortId)).settled.lookup cohortId =
        some .canceled :=
    AList.lookup_insert _
  have vetoed :
      PublicRun.Honest
        { run.step options (.side (.canceled cohortId)) with
          monitor :=
            run.monitor.step run.session run.side.now
              (.noteCanceled cohortId) } := by
    refine
      honest.call (.noteCanceled cohortId) (by simp) ?_ fated rfl rfl ?_ ?_ ?_
        ?_
    · intro filed files
      cases files
      exact keeps
    · intro other fate
      have kept :
          (run.side.step options (.canceled cohortId)).settled.lookup other =
            some .canceled :=
        honest.fated.keepsFate offered fate
      exact kept
    · intro other cancels
      cases cancels
      exact settles
    · intro other _ files
      cases files
      rfl
    · intro other isLive _
      by_cases same : other = cohortId
      · subst same
        exact Or.inr Monitor.vetoes_noteCanceled
      · refine Or.inl (mem_live_of_other (by simp) isLive ?_)
        intro settled
        exact same (Option.some.inj settled).symm
  refine
    vetoed.call (.noteServiceAction (canceledCohortText cohortId)) (by simp) ?_
      fated rfl rfl ?_ ?_ ?_ ?_
  · intro filed files
    cases files
  · intro other fate
    exact fate
  · intro other cancels
    cases cancels
  · intro other _ files
    cases files
  · intro other isLive _
    exact Or.inl isLive

/-- An event heard outside those of the service. -/
theorem Honest.heard
    (honest : run.Honest) {event : MonitorEvent} (heard : run.Heard event)
    (keeps : ∀ cohortId ∈ event.files?, run.monitor.KeepsVetoes cohortId) :
    (run.step options (.monitor event)).Honest := by
  refine
    honest.call event ?_ keeps honest.fated rfl rfl (fun _ => id) ?_ ?_
      (fun _ isLive _ => Or.inl isLive)
  · rintro cohortId view rfl
    exact heard
  · rintro other rfl
    exact absurd heard id
  · intro other fate files
    -- a frame is heard of a completed cohort, a terminal notice not at all
    cases event with
    | notice notice =>
        cases notice with
        | signingComplete cohortId scriptPath => exact absurd heard id
        | cohortFailed cohortId reason => exact absurd heard id
        | _ => cases files
    | frame frame =>
        have completed : run.side.settled.lookup other = some .completed := by
          cases frame with
          | broadcast cohortId txid => cases files
          | failed cohortId reason =>
              cases files
              exact heard
          | anchored cohortId txid confirmed =>
              cases confirmed with
              | false => cases files
              | true =>
                  cases files
                  exact heard
        rw [fate] at completed
        cases completed
    | noteCanceled cohortId =>
        cases files
        rfl
    | _ => cases files

theorem Honest.step
    (honest : run.Honest) {event : PublicEvent} (offered : run.Offered event)
    (stays : StaysHonest options run event) :
    (run.step options event).Honest := by
  cases event with
  | session session =>
      exact
        honest.frame honest.fated honest.within rfl rfl honest.vetoed
          (fun _ _ _ found _ => found) (fun _ _ _ _ covered => covered)
  | monitor event => exact honest.heard offered stays
  | side event =>
      obtain ⟨isOffered, goesOn⟩ := offered
      have fated : (run.side.step options event).Fated :=
        honest.fated.step isOffered goesOn
      have fates (other : CohortId)
          (fate : run.side.settled.lookup other = some .canceled) :
          (run.side.step options event).settled.lookup other =
            some .canceled :=
        honest.fated.keepsFate isOffered fate
      have noSettle (none : event.settles? = none) (other : CohortId)
          (settles : event.settles? = some other) :
          ¬ run.monitor.Awaits other := by
        rw [none] at settles
        cases settles
      cases event with
      | keygenComplete cohortId beaconAddress =>
          refine
            honest.call (.notice (.keygenComplete cohortId beaconAddress))
              (by simp) ?_ fated rfl rfl ?_ ?_ ?_ ?_
          · intro filed files
            cases files
          · exact fates
          · intro other cancels
            cases cancels
          · intro other _ files
            cases files
          · intro other isLive _
            refine Or.inl (mem_live_of_other goesOn isLive ?_)
            intro settles
            cases settles
      | watchPolls cohortId read => exact honest.watchPolls fated stays
      | signingComplete cohortId scriptPath =>
          obtain ⟨noView, keeps⟩ := stays
          have isLive : cohortId ∈ run.side.live := isOffered.1 cohortId rfl
          refine
            honest.call (.notice (.signingComplete cohortId scriptPath))
              (by simp) ?_ fated rfl rfl ?_ ?_ ?_ ?_
          · intro filed files
            cases files
            exact keeps
          · exact fates
          · intro other cancels
            cases cancels
          · intro other fate files
            cases files
            have isSettled : cohortId ∈ run.side.settled := by
              rw [← AList.lookup_isSome, fate]
              rfl
            exact absurd isSettled (honest.fated.apart cohortId isLive)
          · intro other wasLive awaits
            refine Or.inl (mem_live_of_other goesOn wasLive ?_)
            intro settles
            cases settles
            exact noView awaits
      | cohortFailed cohortId reason => exact honest.cohortFailed isOffered stays
      | canceled cohortId => exact honest.canceled isOffered stays
      | windowExpired cohortId =>
          refine honest.unheard isOffered goesOn rfl rfl ?_
          intro other settles
          cases settles
          exact stays
      | stop => exact absurd rfl goesOn
      | _ => exact honest.unheard isOffered goesOn rfl rfl (noSettle rfl)

/-- The law of a state whose views are those of live or vetoed cohorts. -/
theorem Honest.publicHonest (honest : run.Honest) : PublicHonest run := by
  have awaiting (cohortId : CohortId)
      (shown : run.monitor.publicFunding cohortId = true) :
      cohortId ∈ run.side.live ∧
        (run.latest.lookup cohortId = some .waiting ∨
          run.latest.lookup cohortId = some .awaitingConfirmation) := by
    obtain ⟨live, ⟨view, found, unfunded⟩, unvetoed⟩ :=
      (run.monitor.publicFunding_iff cohortId).mp shown
    obtain ⟨covered, reported⟩ :=
      honest.awaited live cohortId view found unfunded
    refine ⟨covered.resolve_right unvetoed, ?_⟩
    rcases unfunded.2 with waiting | confirming
    · exact Or.inl (reported.trans (congrArg some waiting))
    · exact Or.inr (reported.trans (congrArg some confirming))
  refine ⟨awaiting, ?_⟩
  intro cohortId isSettled
  by_contra shown
  have isLive := (awaiting cohortId (Bool.eq_true_of_not_eq_false shown)).1
  exact honest.fated.apart cohortId isLive isSettled

end PublicRun

end Invariant

section Runs

/-! ## The law over whole runs -/

instance (options : ServiceOptions) (run : PublicRun) (event : PublicEvent) :
    Decidable ((publicMachine options).admits run event) :=
  inferInstanceAs (Decidable (run.Offered event))

/-- **Honesty of the public funding read.** Along every run that stays honest,
awaiting is said only of a live cohort whose last observation was short of
funding, and never of one that has ended. -/
theorem publicHonest_of_staysHonest
    (options : ServiceOptions) (events : List PublicEvent)
    (admissible :
      ((publicMachine options).restrict (StaysHonest options)).Admits
        events) :
    PublicHonest ((publicMachine options).run events) := by
  have always :
      ((publicMachine options).restrict (StaysHonest options)).Always
        PublicRun.Honest := by
    apply Machine.Always.of_inductive
    · exact PublicRun.honest_booted options
    · rintro run event honest ⟨offered, stays⟩
      exact honest.step offered stays
  exact (always events admissible).publicHonest

/-- Cohort `0` is canceled while it waits for funding and then dismissed, cohort
`1` fails unfunded, and cohort `2` is funded and anchors. -/
def threeEndings : List PublicEvent :=
  [.side (.cohortAdvertised 0 none), .side (.keygenComplete 0 "a"),
    .side (.watchPolls 0 (some .waiting)), .side (.canceled 0),
    .monitor (.dismissEnded 0), .side (.cohortAdvertised 1 none),
    .side (.keygenComplete 1 "b"), .side (.watchPolls 1 none),
    .side (.cohortFailed 1 "unfunded"), .side (.cohortAdvertised 2 none),
    .side (.keygenComplete 2 "c"), .side (.watchPolls 2 (some .funded)),
    .side (.signingComplete 2 false),
    .monitor (.frame (.anchored 2 "t" true))]

theorem publicHonest_of_staysHonest_threeEndings :
    PublicHonest ((publicMachine waitingOptions).run threeEndings) :=
  publicHonest_of_staysHonest waitingOptions threeEndings (by decide +kernel)

/-- The honest read as a promise about every run. -/
def FundingPromise : Prop :=
  ∀ options events,
    (publicMachine options).Admits events →
      PublicHonest ((publicMachine options).run events)

/-- The discovery window of cohort `0` closes while its watch reports
`waiting`. -/
def expiresWaiting : List PublicEvent :=
  [.side (.cohortAdvertised 0 none), .side (.keygenComplete 0 "a"),
    .side (.watchPolls 0 (some .waiting)), .side (.windowExpired 0)]

theorem not_fundingPromise : ¬ FundingPromise := by
  intro promise
  have law := promise waitingOptions expiresWaiting (by decide +kernel)
  exact absurd (law.ended 0 (by decide +kernel)) (by decide +kernel)

end Runs

end Btcr2Aggregation
