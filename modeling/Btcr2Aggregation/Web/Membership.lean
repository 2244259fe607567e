import Btcr2Aggregation.Web.StoreRuns

/-!
# A member and the polls

One join beside the service it joined.  The directory shows the phase the
picked cohort has, or had when a delayed snapshot was taken; the participant's
own events arrive at any later time.  Three rules may end the join: a departure
seen before the opt-in, the grace that a departure arms, and two consecutive
snapshots without the cohort's row.  `MembershipKept` says what each of them
takes.
-/

namespace Btcr2Aggregation

section Service

/-! ## The service beside the page -/

/-- A snapshot of a moment when the cohort was in `phase`: a row, in that
phase, exactly where the directory lists it. -/
structure Shows
    (rows : List DirectoryCohortDTO) (cohortId : CohortId)
    (phase : CohortPhase) : Prop where
  inPhase : ∀ row ∈ rows, row.cohortId = cohortId → row.phase = phase
  listed : (∃ row ∈ rows, row.cohortId = cohortId) ↔ phase ∈ displayPhases

instance
    (rows : List DirectoryCohortDTO) (cohortId : CohortId)
    (phase : CohortPhase) : Decidable (Shows rows cohortId phase) :=
  decidable_of_iff
    ((∀ row ∈ rows, row.cohortId = cohortId → row.phase = phase) ∧
      ((∃ row ∈ rows, row.cohortId = cohortId) ↔ phase ∈ displayPhases))
    ⟨fun both => ⟨both.1, both.2⟩, fun shows => ⟨shows.inPhase, shows.listed⟩⟩

/-- The directory of the service is such a snapshot of each enriched cohort of
its session. -/
theorem shows_directory
    {options : OperatorOptions} {state : OperatorState} {cohortId : CohortId}
    {config : CohortConfig} {session : SessionCohort}
    (advertised : state.advertised.lookup cohortId = some config)
    (inSession : state.runner.cohorts.lookup cohortId = some session) :
    Shows (directory options state) cohortId session.phase := by
  have rowOf :
      ∀ row ∈ directory options state, row.cohortId = cohortId →
        row.phase = session.phase ∧ session.phase ∈ displayPhases := by
    intro row member same
    obtain ⟨entry, inEntries, shown⟩ := List.mem_filterMap.mp member
    unfold directoryRow? at shown
    split at shown
    · cases shown
    · split at shown
      · next display =>
        cases shown
        have held : state.runner.cohorts.lookup entry.1 = some entry.2 :=
          AList.mem_lookup_iff.mpr (List.mem_reverse.mp inEntries)
        have same : entry.1 = cohortId := same
        rw [same, inSession] at held
        obtain rfl := Option.some.inj held
        exact ⟨rfl, display⟩
      · cases shown
  refine ⟨fun row member same => (rowOf row member same).1, ?_, ?_⟩
  · rintro ⟨row, member, same⟩
    exact (rowOf row member same).2
  · intro display
    have entry : (⟨cohortId, session⟩ : Sigma fun _ : CohortId => SessionCohort) ∈
        state.runner.cohorts.entries :=
      AList.mem_lookup_iff.mp inSession
    have shown :
        directoryRow? options state ⟨cohortId, session⟩ =
          some {
            cohortId
            beaconType := config.beaconType
            network := options.activeNetwork
            threshold := config.threshold
            capacity := config.capacity
            joined := session.joined
            phase := session.phase } := by
      simp only [directoryRow?, advertised, display, if_true]
    exact
      ⟨_, List.mem_filterMap.mpr ⟨_, List.mem_reverse.mpr entry, shown⟩, rfl⟩

theorem Shows.departed
    {rows : List DirectoryCohortDTO} {cohortId : CohortId}
    {phase : CohortPhase} (shows : Shows rows cohortId phase)
    (closed : pickedCohortClosed rows cohortId = true) :
    phase ≠ .advertised := by
  rintro rfl
  obtain ⟨row, member, same⟩ := shows.listed.mpr (by decide)
  simp only [pickedCohortClosed, List.any_eq_true, decide_eq_true_eq] at closed
  exact closed ⟨row, member, same, shows.inPhase row member same⟩

theorem Shows.ended
    {rows : List DirectoryCohortDTO} {cohortId : CohortId}
    {phase : CohortPhase} (shows : Shows rows cohortId phase)
    (gone : postSeatCohortGone rows cohortId = true) :
    phase ∉ displayPhases := by
  intro display
  obtain ⟨row, member, same⟩ := shows.listed.mpr display
  simp only [postSeatCohortGone, List.any_eq_true, decide_eq_true_eq] at gone
  exact gone ⟨row, member, same⟩

/-- One join and its cohort.  `seen` is every phase the cohort has had since;
`departed` says that the opted-in page has looked at a snapshot without the
cohort's open row, and `rowless` how many snapshots in a row the seated page
has looked at without any row of it. -/
structure MemberRun where
  page : Page
  phase : CohortPhase
  seen : List CohortPhase
  optInSent : Bool
  accepted : Bool
  readyHandled : Bool
  completeHandled : Bool
  departed : Bool
  rowless : Nat

inductive MemberEvent where
  | optInSent
  | accepted
  | phaseMoves (next : CohortPhase)
  | page (event : PageEvent)

namespace MemberRun

variable (cohortId : CohortId)

/-- A directory answer: an error, or what some moment since the join shows. -/
def Reports (run : MemberRun) (answer : Option (List DirectoryCohortDTO)) :
    Prop :=
  match answer with
  | none => True
  | some rows => ∃ phase ∈ run.seen, Shows rows cohortId phase

/-- What the participant's own channel can say. -/
def Truthful (run : MemberRun) : RunnerEvent → Prop
  | .cohortJoined joined => run.optInSent = true ∧ joined = cohortId
  | .cohortReady _ _ => run.accepted = true ∧ run.phase ≠ .advertised
  | .cohortComplete _ => run.phase = .complete
  | .cohortFailed _ _ => run.phase = .failed
  | _ => True

/-- The events of this join's own sources. -/
def OffersPage (run : MemberRun) : PageEvent → Prop
  | .startResolved participant =>
      participant = run.page.round ∧ participant ∈ run.page.starting
  | .startRejected participant _ =>
      participant = run.page.round ∧ participant ∈ run.page.starting
  | .runner participant event =>
      participant = run.page.round ∧ run.Truthful cohortId event
  | .provideUpdate participant _ _ _ => participant = run.page.round
  | .submitUpdate => True
  | .directoryLands poll answer =>
      poll ∈ run.page.directoryPolls ∧ run.Reports cohortId answer
  | .graceFires timer =>
      run.page.joinGrace = some timer ∧ timer.fired = false
  | .postSeatLands poll answer =>
      poll ∈ run.page.postSeatPolls ∧ run.Reports cohortId answer
  | .fateLands read _ => read ∈ run.page.fateReads
  | _ => False

def Offers (run : MemberRun) : MemberEvent → Prop
  | .optInSent => True
  | .accepted => run.optInSent = true ∧ run.phase = .advertised
  | .phaseMoves next =>
      run.phase ∈ displayPhases ∧ next ≠ .created ∧ next ≠ .advertised
  | .page event => run.OffersPage cohortId event

/-- The seated page looks at this snapshot. -/
def watches (run : MemberRun) (poll : Poll) : Bool :=
  poll.epoch = run.page.postSeatEpoch ∧ run.page.facts.seated = true ∧
    run.page.facts.status = .live

def departedAfter (run : MemberRun) : PageEvent → Bool
  | .directoryLands poll (some rows) =>
      run.departed ||
        (poll.epoch = run.page.directoryEpoch ∧
          run.page.facts.optedIn = true ∧
            pickedCohortClosed rows cohortId = true)
  | _ => run.departed

def rowlessAfter (run : MemberRun) : PageEvent → Nat
  | .postSeatLands poll (some rows) =>
      if run.watches poll then
        if postSeatCohortGone rows cohortId then run.rowless + 1 else 0
      else
        run.rowless
  | .runner _ (.cohortReady _ _) => 0
  | _ => run.rowless

def step (config : PageConfig) (run : MemberRun) : MemberEvent → MemberRun
  | .optInSent => { run with optInSent := true }
  | .accepted => { run with accepted := true }
  | .phaseMoves next => { run with phase := next, seen := next :: run.seen }
  | .page event =>
      { run with
        page := run.page.step config event
        readyHandled :=
          match event with
          | .runner _ (.cohortReady _ _) => true
          | _ => run.readyHandled
        completeHandled :=
          match event with
          | .runner _ (.cohortComplete _) => true
          | _ => run.completeHandled
        departed := run.departedAfter cohortId event
        rowless := run.rowlessAfter cohortId event }

instance decidableReports
    (run : MemberRun) (answer : Option (List DirectoryCohortDTO)) :
    Decidable (run.Reports cohortId answer) :=
  match answer with
  | none => isTrue trivial
  | some rows =>
      inferInstanceAs
        (Decidable (∃ phase ∈ run.seen, Shows rows cohortId phase))

instance decidableTruthful (run : MemberRun) (event : RunnerEvent) :
    Decidable (run.Truthful cohortId event) := by
  cases event with
  | cohortJoined joined =>
      exact
        inferInstanceAs
          (Decidable (run.optInSent = true ∧ joined = cohortId))
  | cohortReady _ _ =>
      exact
        inferInstanceAs
          (Decidable (run.accepted = true ∧ run.phase ≠ .advertised))
  | cohortComplete _ =>
      exact inferInstanceAs (Decidable (run.phase = .complete))
  | cohortFailed _ _ =>
      exact inferInstanceAs (Decidable (run.phase = .failed))
  | _ => exact isTrue trivial

instance decidableOffersPage (run : MemberRun) (event : PageEvent) :
    Decidable (run.OffersPage cohortId event) := by
  cases event with
  | startResolved participant =>
      exact
        inferInstanceAs
          (Decidable
            (participant = run.page.round ∧ participant ∈ run.page.starting))
  | startRejected participant _ =>
      exact
        inferInstanceAs
          (Decidable
            (participant = run.page.round ∧ participant ∈ run.page.starting))
  | runner participant event =>
      exact
        inferInstanceAs
          (Decidable
            (participant = run.page.round ∧ run.Truthful cohortId event))
  | provideUpdate participant _ _ _ =>
      exact inferInstanceAs (Decidable (participant = run.page.round))
  | submitUpdate => exact isTrue trivial
  | directoryLands poll answer =>
      exact
        inferInstanceAs
          (Decidable
            (poll ∈ run.page.directoryPolls ∧ run.Reports cohortId answer))
  | graceFires timer =>
      exact
        inferInstanceAs
          (Decidable
            (run.page.joinGrace = some timer ∧ timer.fired = false))
  | postSeatLands poll answer =>
      exact
        inferInstanceAs
          (Decidable
            (poll ∈ run.page.postSeatPolls ∧ run.Reports cohortId answer))
  | fateLands read _ =>
      exact inferInstanceAs (Decidable (read ∈ run.page.fateReads))
  | _ => exact isFalse id

instance decidableOffers (run : MemberRun) (event : MemberEvent) :
    Decidable (run.Offers cohortId event) :=
  match event with
  | .optInSent => isTrue trivial
  | .accepted =>
      inferInstanceAs
        (Decidable (run.optInSent = true ∧ run.phase = .advertised))
  | .phaseMoves next =>
      inferInstanceAs
        (Decidable
          (run.phase ∈ displayPhases ∧ next ≠ .created ∧ next ≠ .advertised))
  | .page event => run.decidableOffersPage cohortId event

end MemberRun

/-- A join of an advertised cohort, from any page. -/
def memberMachine
    (config : PageConfig) (before : Page) (identity : Identity)
    (cohortId : CohortId) (sizing : Option CohortSizing) :
    Machine MemberRun MemberEvent where
  init := {
    page := before.beginJoin identity cohortId sizing
    phase := .advertised
    seen := [.advertised]
    optInSent := false
    accepted := false
    readyHandled := false
    completeHandled := false
    departed := false
    rowless := 0 }
  step := MemberRun.step cohortId config
  admits := MemberRun.Offers cohortId

instance
    (config : PageConfig) (before : Page) (identity : Identity)
    (cohortId : CohortId) (sizing : Option CohortSizing) (run : MemberRun)
    (event : MemberEvent) :
    Decidable
      ((memberMachine config before identity cohortId sizing).admits run
        event) :=
  run.decidableOffers cohortId event

end Service

section Law

/-! ## What each rule takes -/

/-- The page fails, or its participant is stopped. -/
def Dropped (before after : Page) : Prop :=
  (after.facts.status = .failed ∧ before.facts.status ≠ .failed) ∨
    (after.live = none ∧ before.live ≠ none)

/-- The three rules that end a join by what was polled. -/
def PageEvent.isRule : PageEvent → Bool
  | .directoryLands _ _ => true
  | .graceFires _ => true
  | .postSeatLands _ _ => true
  | _ => false

/-- What ends a join by a rule.  A snapshot never does once the cohort-joined
is handled; the grace takes a snapshot of a cohort that left the open set and no
cohort-ready handled since; the streak takes a second snapshot in a row without the row of a
cohort that is over; and none of them does once the cohort-complete is
handled. -/
structure MembershipKept
    (cohortId : CohortId) (config : PageConfig) (run : MemberRun)
    (event : PageEvent) : Prop where
  directory :
    ∀ poll answer, event = .directoryLands poll answer →
      run.page.facts.optedIn = true →
        ¬ Dropped run.page (run.page.step config event)
  grace :
    ∀ timer, event = .graceFires timer →
      Dropped run.page (run.page.step config event) →
        run.departed = true ∧ run.phase ≠ .advertised ∧
          run.readyHandled = false
  streak :
    ∀ poll answer, event = .postSeatLands poll answer →
      Dropped run.page (run.page.step config event) →
        run.rowless + 1 = postSeatGoneConfirmations ∧
          run.phase ∉ displayPhases ∧
            ∃ rows, answer = some rows ∧
              postSeatCohortGone rows cohortId = true
  completed :
    event.isRule = true → run.completeHandled = true →
      ¬ Dropped run.page (run.page.step config event)

end Law

section Invariant

/-! ## The invariant -/

/-- What the page and the record of the join agree on. -/
structure Member (cohortId : CohortId) (run : MemberRun) : Prop where
  picked : run.page.facts.pickedCohortId = some cohortId
  locked : ∀ phase ∈ run.seen, phase ≠ .advertised → run.phase ≠ .advertised
  ended :
    ∀ phase ∈ run.seen, phase ∉ displayPhases → run.phase ∉ displayPhases
  departed : run.departed = true → run.phase ≠ .advertised
  grace : run.page.joinGrace ≠ none → run.departed = true
  ready : run.readyHandled = true → run.page.facts.seated = true
  complete :
    run.completeHandled = true → run.page.facts.status.ended = true
  bounded : run.page.postSeatGoneStreak < postSeatGoneConfirmations
  streak :
    run.page.facts.seated = true → run.page.facts.status.ended = false →
      run.rowless = run.page.postSeatGoneStreak

theorem Member.joined
    (config : PageConfig) (before : Page) (identity : Identity)
    (cohortId : CohortId) (sizing : Option CohortSizing) :
    Member cohortId
      (memberMachine config before identity cohortId sizing).init := by
  have page := Page.beginJoin_eq identity cohortId sizing before
  refine ⟨?_, ?_, ?_, ?_, ?_, ?_, ?_, ?_, ?_⟩
  · exact congrArg (fun page => page.facts.pickedCohortId) page
  · intro phase member left
    exact absurd (List.mem_singleton.mp member) left
  · intro phase member unlisted
    rw [List.mem_singleton.mp member] at unlisted
    exact absurd (by decide) unlisted
  · intro departed
    cases departed
  · intro armed
    exact absurd (congrArg Page.joinGrace page) armed
  · intro ready
    cases ready
  · intro complete
    cases complete
  · rw [show
        (memberMachine config before identity cohortId
            sizing).init.page.postSeatGoneStreak = 0 from
        congrArg Page.postSeatGoneStreak page]
    decide
  · intro seated
    have unseated :
        (memberMachine config before identity cohortId
            sizing).init.page.facts.seated = false :=
      congrArg (fun page => page.facts.seated) page
    rw [unseated] at seated
    cases seated

/-- What a handler keeps; `arms` is when it may arm the grace. -/
structure KeepsMember (arms : Prop) (before after : Page) : Prop where
  picked : after.facts.pickedCohortId = before.facts.pickedCohortId
  seated : before.facts.seated = true → after.facts.seated = true
  ended :
    before.facts.status.ended = true → after.facts.status.ended = true
  grace : after.joinGrace ≠ none → before.joinGrace ≠ none ∨ arms
  bounded :
    before.postSeatGoneStreak < postSeatGoneConfirmations →
      after.postSeatGoneStreak < postSeatGoneConfirmations
  streak :
    after.facts.seated = true → after.facts.status.ended = false →
      before.facts.seated = true ∧ before.facts.status.ended = false ∧
        after.postSeatGoneStreak = before.postSeatGoneStreak

namespace KeepsMember

variable {arms : Prop} {before middle after : Page} (page : Page)

theorem trans
    (first : KeepsMember arms before middle)
    (second : KeepsMember arms middle after) :
    KeepsMember arms before after where
  picked := second.picked.trans first.picked
  seated held := second.seated (first.seated held)
  ended held := second.ended (first.ended held)
  grace armed := by
    rcases second.grace armed with earlier | now
    · exact first.grace earlier
    · exact Or.inr now
  bounded bound := second.bounded (first.bounded bound)
  streak seated runs := by
    obtain ⟨seated, runs, same⟩ := second.streak seated runs
    obtain ⟨seatedBefore, runsBefore, sameBefore⟩ := first.streak seated runs
    exact ⟨seatedBefore, runsBefore, same.trans sameBefore⟩

/-- A step that keeps the seat, the status and the streak. -/
theorem of_same
    (same :
      (after.facts.pickedCohortId, after.facts.seated, after.facts.status,
          after.postSeatGoneStreak) =
        (page.facts.pickedCohortId, page.facts.seated, page.facts.status,
          page.postSeatGoneStreak))
    (grace : after.joinGrace ≠ none → page.joinGrace ≠ none ∨ arms) :
    KeepsMember arms page after := by
  simp only [Prod.mk.injEq] at same
  obtain ⟨picked, seated, status, streak⟩ := same
  refine ⟨picked, fun held => ?_, fun held => ?_, grace, fun bound => ?_, ?_⟩
  · exact seated ▸ held
  · exact status ▸ held
  · exact streak ▸ bound
  · intro held runs
    exact ⟨seated ▸ held, status ▸ runs, streak⟩

theorem refl : KeepsMember arms page page :=
  of_same page rfl Or.inl

theorem fail (reason : String) : KeepsMember arms page (page.fail reason) := by
  rw [Page.fail_eq]
  refine
    { picked := rfl
      seated := fun held => held
      ended := fun _ => rfl
      grace := fun armed => absurd rfl armed
      bounded := fun _ => Nat.zero_lt_two
      streak := fun _ runs => by cases runs }

theorem onCohortJoined (cohortId : CohortId) :
    KeepsMember arms page (page.onCohortJoined cohortId) := by
  unfold Page.onCohortJoined
  split
  · exact refl page
  · next runs =>
    refine
      { picked := rfl
        seated := fun held => held
        ended := fun ended => absurd ended runs
        grace := Or.inl
        bounded := fun bound => bound
        streak := fun seated _ =>
          ⟨seated, Bool.eq_false_iff.mpr runs, rfl⟩ }

theorem onCohortComplete (config : PageConfig) (info : CompleteInfo) :
    KeepsMember arms page (page.onCohortComplete config info) := by
  rw [Page.onCohortComplete_eq]
  refine
    { picked := rfl
      seated := fun held => held
      ended := fun _ => rfl
      grace := fun armed => absurd rfl armed
      bounded := fun _ => Nat.zero_lt_two
      streak := fun _ runs => by cases runs }

/-- Every handler of the runner but the seat. -/
theorem onRunnerEvent
    {config : PageConfig} {participant : RoundId} {event : RunnerEvent}
    (unseated :
      ∀ cohortId beaconAddress, event ≠ .cohortReady cohortId beaconAddress) :
    KeepsMember arms page (page.onRunnerEvent config participant event) := by
  cases event with
  | cohortJoined cohortId => exact onCohortJoined page cohortId
  | cohortReady cohortId beaconAddress =>
      exact absurd rfl (unseated cohortId beaconAddress)
  | cohortComplete info => exact onCohortComplete page config info
  | cohortFailed cohortId reason => exact fail page reason
  | error message =>
      simp only [Page.onRunnerEvent, Page.onRunnerError]
      split
      · exact fail page message
      · exact refl page
  | _ => exact of_same page rfl Or.inl

theorem startResolved (participant : RoundId) :
    KeepsMember arms page (page.startResolved participant) := by
  unfold Page.startResolved
  split
  · exact of_same page rfl Or.inl
  · exact of_same page rfl Or.inl

theorem startRejected (participant : RoundId) (message : String) :
    KeepsMember arms page (page.startRejected participant message) := by
  have erased :
      KeepsMember arms page
        { page with starting := page.starting.erase participant } :=
    of_same page rfl Or.inl
  exact erased.trans (fail _ message)

theorem onProvideUpdate
    (config : PageConfig) (participant : RoundId) (cohortId : CohortId)
    (beaconAddress : String) (randomness : Nat) :
    KeepsMember arms page
      (page.onProvideUpdate config participant cohortId beaconAddress
        randomness) := by
  unfold Page.onProvideUpdate
  split
  · exact refl page
  · split
    · exact refl page
    · exact of_same page rfl Or.inl
    · exact of_same page rfl Or.inl

theorem submitUpdate : KeepsMember arms page page.submitUpdate := by
  unfold Page.submitUpdate
  split
  · exact of_same page rfl Or.inl
  · exact of_same page rfl Or.inl

theorem fateLands (read : FateRead) (canceled : Bool) :
    KeepsMember arms page (page.fateLands read canceled) := by
  unfold Page.fateLands
  split
  · exact of_same page rfl Or.inl
  · exact of_same page rfl Or.inl

theorem graceFires
    {timer : GraceTimer} (armed : page.joinGrace = some timer) :
    KeepsMember arms page (page.graceFires timer) := by
  have held : page.joinGrace ≠ none := by
    rw [armed]
    exact Option.some_ne_none timer
  have spent :
      KeepsMember arms page
        { page with joinGrace := some { timer with fired := true } } :=
    of_same page rfl fun _ => Or.inl held
  have closed :
      ∀ other : Page, KeepsMember arms other other.closeJoin :=
    fun other => of_same other rfl Or.inl
  unfold Page.graceFires
  split
  · exact (spent.trans (closed _)).trans (fail _ _)
  · exact spent

/-- A snapshot arms the grace of an opted-in wait alone, and only where the
cohort's open row is missing. -/
theorem directoryLands
    {cohortId : CohortId} (picked : page.facts.pickedCohortId = some cohortId)
    (poll : Poll) (rows : List DirectoryCohortDTO) :
    KeepsMember
      (poll.epoch = page.directoryEpoch ∧ page.facts.optedIn = true ∧
        pickedCohortClosed rows cohortId = true)
      page (page.directoryLands poll (some rows)) := by
  by_cases current : poll.epoch = page.directoryEpoch
  · simp only [Page.directoryLands, current, if_true,
      Page.handleDirectorySnapshot, picked]
    split
    · exact refl page
    · split
      · split
        · exact of_same page rfl fun armed => absurd rfl armed
        · exact of_same page rfl Or.inl
      · next closed =>
        split
        · have shut :
              KeepsMember
                (True ∧ page.facts.optedIn = true ∧
                  pickedCohortClosed rows cohortId = true)
                page
                (page.showSeats (Page.seatsOf rows cohortId)).closeJoin :=
            of_same page rfl Or.inl
          exact shut.trans (fail _ _)
        · next optedIn =>
          split
          · exact of_same page rfl Or.inl
          · refine of_same page rfl fun _ => Or.inr ⟨trivial, ?_, ?_⟩
            · simpa using optedIn
            · simpa using closed
  · rw [Page.directoryLands_of_ne current]
    exact refl page

end KeepsMember

/-- A handler that keeps the seat and the streak keeps the agreement. -/
theorem Member.keep
    {cohortId : CohortId} {run : MemberRun} {after : Page} {arms : Prop}
    (member : Member cohortId run) (keeps : KeepsMember arms run.page after)
    {completeHandled departed : Bool}
    (complete :
      completeHandled = true →
        run.completeHandled = true ∨ after.facts.status.ended = true)
    (grown : run.departed = true → departed = true)
    (armed : arms → departed = true)
    (left : departed = true → run.phase ≠ .advertised) :
    Member cohortId
      { run with page := after, completeHandled, departed } where
  picked := keeps.picked.trans member.picked
  locked := member.locked
  ended := member.ended
  departed := left
  grace held := by
    rcases keeps.grace held with earlier | now
    · exact grown (member.grace earlier)
    · exact armed now
  ready handled := keeps.seated (member.ready handled)
  complete handled := by
    rcases complete handled with earlier | now
    · exact keeps.ended (member.complete earlier)
    · exact now
  bounded := keeps.bounded member.bounded
  streak seated runs := by
    obtain ⟨seated, runs, same⟩ := keeps.streak seated runs
    exact (member.streak seated runs).trans same.symm

/-- What a post-seat snapshot comes to: it is not looked at, it shows the row,
it is the first one without, or it ends the join. -/
theorem postSeatLands_cases
    {cohortId : CohortId} {run : MemberRun} (member : Member cohortId run)
    (poll : Poll) (rows : List DirectoryCohortDTO) :
    (run.watches poll = false ∧
        ∃ postSeatFailures,
          run.page.postSeatLands poll (some rows) =
            { run.page with postSeatFailures }) ∨
      (run.watches poll = true ∧ postSeatCohortGone rows cohortId = false ∧
        run.page.postSeatLands poll (some rows) =
          { run.page with
            postSeatFailures := 0
            postSeatGoneStreak := 0
            outcome := { run.page.outcome with unreachable := false } }) ∨
      (run.watches poll = true ∧ postSeatCohortGone rows cohortId = true ∧
        run.page.postSeatGoneStreak + 1 < postSeatGoneConfirmations ∧
          run.page.postSeatLands poll (some rows) =
            { run.page with
              postSeatFailures := 0
              postSeatGoneStreak := run.page.postSeatGoneStreak + 1 }) ∨
      (run.watches poll = true ∧ postSeatCohortGone rows cohortId = true ∧
        ¬ run.page.postSeatGoneStreak + 1 < postSeatGoneConfirmations ∧
          ∃ counted fateReads,
            counted.facts = run.page.facts ∧
              run.page.postSeatLands poll (some rows) =
                { Page.fail honestTerminalFallback counted with
                  fateReads }) := by
  by_cases current : poll.epoch = run.page.postSeatEpoch
  · simp only [Page.postSeatLands, current, if_true,
      Page.handlePostSeatSnapshot, member.picked]
    split
    · next away =>
      refine Or.inl ⟨?_, 0, rfl⟩
      simp only [MemberRun.watches, decide_eq_false_iff_not]
      rintro ⟨-, seated, live⟩
      rcases away with unseated | other
      · rw [seated] at unseated
        cases unseated
      · exact other live
    · next looks =>
      obtain ⟨seated, live⟩ := not_or.mp looks
      have watches : run.watches poll = true := by
        simp only [MemberRun.watches, decide_eq_true_eq]
        exact
          ⟨current, Bool.eq_true_of_not_eq_false seated, not_not.mp live⟩
      split
      · next gone =>
        split
        · next first => exact Or.inr (Or.inr (Or.inl ⟨watches, gone, first, rfl⟩))
        · next last =>
          refine Or.inr (Or.inr (Or.inr ⟨watches, gone, last, _, _, ?_, rfl⟩))
          rfl
      · next present =>
        have present := Bool.eq_false_iff.mpr present
        exact Or.inr (Or.inl ⟨watches, present, rfl⟩)
  · refine Or.inl ⟨?_, run.page.postSeatFailures, ?_⟩
    · simp only [MemberRun.watches, decide_eq_false_iff_not]
      exact fun looks => current looks.1
    · exact Page.postSeatLands_of_ne current _

theorem MemberRun.watches_facts
    {run : MemberRun} {poll : Poll} (watches : run.watches poll = true) :
    run.page.facts.seated = true ∧ run.page.facts.status = .live := by
  simp only [MemberRun.watches, decide_eq_true_eq] at watches
  exact ⟨watches.2.1, watches.2.2⟩

/-- The streak is the number of rowless snapshots the seated page has looked at
in a row. -/
theorem Member.postSeatLands
    {cohortId : CohortId} {run : MemberRun} (member : Member cohortId run)
    (poll : Poll) (rows : List DirectoryCohortDTO) :
    Member cohortId
      { run with
        page := run.page.postSeatLands poll (some rows)
        rowless :=
          if run.watches poll then
            if postSeatCohortGone rows cohortId then run.rowless + 1 else 0
          else
            run.rowless } := by
  have agrees :
      run.watches poll = true → run.rowless = run.page.postSeatGoneStreak := by
    intro watches
    obtain ⟨seated, live⟩ := MemberRun.watches_facts watches
    refine member.streak seated ?_
    rw [live]
    rfl
  rcases postSeatLands_cases member poll rows with
    ⟨away, failures, same⟩ | ⟨watches, present, same⟩ |
      ⟨watches, gone, first, same⟩ |
        ⟨watches, gone, last, counted, reads, facts, same⟩
  · rw [same, away]
    exact { member with }
  · rw [same, watches, present]
    exact {
      member with
      bounded := Nat.zero_lt_two
      streak := fun _ _ => rfl }
  · rw [same, watches, gone]
    exact {
      member with
      bounded := first
      streak := fun _ _ => congrArg (· + 1) (agrees watches) }
  · rw [same, Page.fail_eq, facts]
    exact {
      member with
      grace := fun armed => absurd rfl armed
      complete := fun _ => rfl
      bounded := Nat.zero_lt_two
      streak := fun _ runs => by cases runs }

/-- The definitive seat: the grace is gone and the streak starts over. -/
theorem Member.onCohortReady
    {cohortId : CohortId} {run : MemberRun} (member : Member cohortId run)
    (participant : RoundId) (beaconAddress : String) :
    Member cohortId
      { run with
        page := run.page.onCohortReady participant beaconAddress
        readyHandled := true
        rowless := 0 } := by
  rw [Page.onCohortReady_eq]
  exact {
    member with
    grace := fun armed => absurd rfl armed
    ready := fun _ => rfl
    bounded := Nat.zero_lt_two
    streak := fun _ _ => rfl }

theorem Member.phaseMoves
    {cohortId : CohortId} {run : MemberRun} (member : Member cohortId run)
    {next : CohortPhase} (listed : run.phase ∈ displayPhases)
    (left : next ≠ .advertised) :
    Member cohortId { run with phase := next, seen := next :: run.seen } :=
  { member with
    locked := fun _ _ _ => left
    ended := fun phase seen unlisted => by
      rcases List.mem_cons.mp seen with rfl | earlier
      · exact unlisted
      · exact absurd listed (member.ended phase earlier unlisted)
    departed := fun _ => left }

/-- One step of the join and its service. -/
theorem Member.step
    {cohortId : CohortId} {run : MemberRun} (member : Member cohortId run)
    {config : PageConfig} {event : MemberEvent}
    (offered : run.Offers cohortId event) :
    Member cohortId (run.step cohortId config event) := by
  have kept :
      ∀ {after : Page}, KeepsMember False run.page after →
        Member cohortId { run with page := after } :=
    fun keeps =>
      member.keep keeps Or.inl (fun held => held) False.elim member.departed
  cases event with
  | optInSent => exact { member with }
  | accepted => exact { member with }
  | phaseMoves next => exact member.phaseMoves offered.1 offered.2.2
  | page event =>
      cases event with
      | startResolved participant =>
          exact kept (KeepsMember.startResolved run.page participant)
      | startRejected participant message =>
          exact kept (KeepsMember.startRejected run.page participant message)
      | runner participant event =>
          have keeps :
              (∀ readyId beaconAddress,
                  event ≠ .cohortReady readyId beaconAddress) →
                KeepsMember False run.page
                  (run.page.onRunnerEvent config participant event) :=
            KeepsMember.onRunnerEvent run.page
          cases event with
          | cohortReady readyId beaconAddress =>
              exact member.onCohortReady participant beaconAddress
          | cohortComplete info =>
              refine
                member.keep
                  (KeepsMember.onCohortComplete run.page config info)
                  (fun _ => Or.inr ?_) (fun held => held) False.elim
                  member.departed
              rw [Page.onCohortComplete_eq]
              rfl
          | _ =>
              refine kept (keeps ?_)
              intro readyId beaconAddress same
              cases same
      | provideUpdate participant askedId beaconAddress randomness =>
          exact
            kept
              (KeepsMember.onProvideUpdate run.page config participant askedId
                beaconAddress randomness)
      | submitUpdate => exact kept (KeepsMember.submitUpdate run.page)
      | directoryLands poll answer =>
          cases answer with
          | none => exact kept (KeepsMember.refl run.page)
          | some rows =>
              obtain ⟨phase, seen, shows⟩ := offered.2
              refine
                member.keep
                  (KeepsMember.directoryLands run.page member.picked poll rows)
                  Or.inl ?_ ?_ ?_
              · intro held
                simp only [MemberRun.departedAfter, held, Bool.true_or]
              · intro arms
                simp only [MemberRun.departedAfter, Bool.or_eq_true]
                exact Or.inr (decide_eq_true arms)
              · intro departed
                simp only [MemberRun.departedAfter, Bool.or_eq_true,
                  decide_eq_true_eq] at departed
                rcases departed with earlier | ⟨-, -, closed⟩
                · exact member.departed earlier
                · exact member.locked phase seen (shows.departed closed)
      | graceFires timer =>
          exact kept (KeepsMember.graceFires run.page offered.1)
      | postSeatLands poll answer =>
          cases answer with
          | none =>
              refine kept ?_
              simp only [Page.step, Page.postSeatLands]
              split
              · exact KeepsMember.of_same run.page rfl Or.inl
              · exact KeepsMember.refl run.page
          | some rows => exact member.postSeatLands poll rows
      | fateLands read canceled =>
          exact kept (KeepsMember.fateLands run.page read canceled)
      | _ => exact offered.elim

end Invariant

section Rules

/-! ## The rules -/

theorem not_dropped_of_same
    {before after : Page}
    (same :
      (after.facts.status, after.live) = (before.facts.status, before.live)) :
    ¬ Dropped before after := by
  obtain ⟨status, live⟩ := Prod.mk.inj same
  rintro (⟨failed, runs⟩ | ⟨gone, held⟩)
  · exact runs (status ▸ failed)
  · exact held (live ▸ gone)

theorem ParticipantStatus.underWay_of_ended
    {status : ParticipantStatus} (ended : status.ended = true) :
    status.underWay = false := by
  cases status
  case complete => rfl
  case failed => rfl
  all_goals cases ended

/-- A snapshot never ends the wait of a participant whose cohort-joined is
handled. -/
theorem directoryLands_of_optedIn
    {page : Page} (optedIn : page.facts.optedIn = true) (poll : Poll)
    (answer : Option (List DirectoryCohortDTO)) :
    ((page.directoryLands poll answer).facts.status,
        (page.directoryLands poll answer).live) =
      (page.facts.status, page.live) := by
  cases answer with
  | none => rfl
  | some rows =>
      simp only [Page.directoryLands, Page.handleDirectorySnapshot, optedIn,
        Bool.true_eq_false, if_false]
      split
      · split
        · rfl
        · split
          · rfl
          · split
            · split
              · rfl
              · rfl
            · split
              · rfl
              · rfl
      · rfl

/-- An ended page looks away from every rule. -/
theorem rules_of_ended
    {config : PageConfig} {page : Page}
    (ended : page.facts.status.ended = true)
    {event : PageEvent} (rule : event.isRule = true) :
    ((page.step config event).facts.status, (page.step config event).live) =
      (page.facts.status, page.live) := by
  have rests := ParticipantStatus.underWay_of_ended ended
  have notLive : page.facts.status ≠ .live := by
    intro live
    rw [live] at ended
    cases ended
  cases event with
  | directoryLands poll answer =>
      cases answer with
      | none => rfl
      | some rows =>
          simp only [Page.step, Page.directoryLands,
            Page.handleDirectorySnapshot, rests, or_true, if_true]
          split
          · split
            · rfl
            · rfl
          · rfl
  | graceFires timer =>
      simp only [Page.step, Page.graceFires, rests, Bool.false_eq_true,
        and_false, if_false]
  | postSeatLands poll answer =>
      simp only [Page.step, Page.postSeatLands]
      split
      · cases answer with
        | none => rfl
        | some rows =>
            simp only [Page.handlePostSeatSnapshot, ne_eq, notLive,
              not_false_eq_true, or_true, if_true]
            split
            · rfl
            · rfl
      · rfl
  | _ => cases rule

/-- What ends the wait of a member, by rule. -/
theorem Member.kept
    {cohortId : CohortId} {config : PageConfig} {run : MemberRun}
    (member : Member cohortId run) {event : PageEvent}
    (offered : run.OffersPage cohortId event) :
    MembershipKept cohortId config run event := by
  refine ⟨?_, ?_, ?_, ?_⟩
  · rintro poll answer rfl optedIn
    exact not_dropped_of_same (directoryLands_of_optedIn optedIn poll answer)
  · rintro timer rfl dropped
    have held : run.page.joinGrace ≠ none := by
      rw [offered.1]
      exact Option.some_ne_none timer
    have departed := member.grace held
    refine ⟨departed, member.departed departed, ?_⟩
    by_contra handled
    have seated := member.ready (Bool.eq_true_of_not_eq_false handled)
    refine not_dropped_of_same ?_ dropped
    simp only [Page.step, Page.graceFires, seated, Bool.true_eq_false,
      false_and, if_false]
  · rintro poll answer rfl dropped
    cases answer with
    | none =>
        refine absurd dropped (not_dropped_of_same ?_)
        simp only [Page.step, Page.postSeatLands]
        split
        · rfl
        · rfl
    | some rows =>
        obtain ⟨phase, seen, shows⟩ := offered.2
        rcases postSeatLands_cases member poll rows with
          ⟨-, failures, same⟩ | ⟨-, -, same⟩ | ⟨-, -, -, same⟩ |
            ⟨watches, gone, last, -⟩
        · refine absurd dropped (not_dropped_of_same ?_)
          simp only [Page.step, same]
        · refine absurd dropped (not_dropped_of_same ?_)
          simp only [Page.step, same]
        · refine absurd dropped (not_dropped_of_same ?_)
          simp only [Page.step, same]
        · obtain ⟨seated, live⟩ := MemberRun.watches_facts watches
          have runs : run.page.facts.status.ended = false := by
            rw [live]
            rfl
          have agrees := member.streak seated runs
          have bounded := member.bounded
          refine ⟨?_, member.ended phase seen (shows.ended gone), rows, rfl, gone⟩
          omega
  · intro rule handled
    have ended := member.complete handled
    exact not_dropped_of_same (rules_of_ended ended rule)

/-- In every interleaving of polls and protocol events, what ends a join by a
rule is what `MembershipKept` says. -/
theorem membershipKept_of_admits
    (config : PageConfig) (before : Page) (identity : Identity)
    (cohortId : CohortId) (sizing : Option CohortSizing)
    (events : List MemberEvent) (event : PageEvent)
    (admissible :
      (memberMachine config before identity cohortId sizing).Admits
        (events ++ [.page event])) :
    MembershipKept cohortId config
      ((memberMachine config before identity cohortId sizing).run events)
      event := by
  have always :
      (memberMachine config before identity cohortId sizing).Always
        (Member cohortId) := by
    refine
      Machine.Always.of_inductive
        (Member.joined config before identity cohortId sizing) ?_
    intro run event member offered
    exact member.step offered
  have split :=
    (memberMachine config before identity cohortId sizing).admits_concat_iff
      events (.page event)
  obtain ⟨earlier, offered⟩ := split.mp admissible
  exact (always events earlier).kept offered

/-- A rule ends an accepted participant's join only where its cohort ended
without completing. -/
def MembershipPromise
    (config : PageConfig) (before : Page) (identity : Identity)
    (cohortId : CohortId) (sizing : Option CohortSizing) : Prop :=
  ∀ events event,
    (memberMachine config before identity cohortId sizing).Admits
        (events ++ [.page event]) →
      let run :=
        (memberMachine config before identity cohortId sizing).run events
      run.accepted = true → event.isRule = true →
        Dropped run.page (run.page.step config event) →
          run.phase ∉ displayPhases ∧ run.phase ≠ .complete

/-- The cohort locks with the member in it; a snapshot shows the departure, and
the cohort-ready is still on its way. -/
def lockedRun : List MemberEvent :=
  [ .optInSent,
    .accepted,
    .page (.startResolved 2),
    .page (.runner 2 (.cohortJoined 0)),
    .phaseMoves .cohortSet,
    .page
      (.directoryLands ⟨2, 1⟩
        (some [⟨0, .casBeacon, .mutinynet, 2, 2, 2, .cohortSet⟩])) ]

theorem not_membershipPromise :
    ¬ MembershipPromise plainConfig (Page.fresh.adopt plainConfig keyIdentity)
      keyIdentity 0 none := by
  intro promise
  have ended :=
    promise lockedRun (.graceFires ⟨2, false⟩) (by decide +kernel)
      (by decide +kernel) rfl (Or.inl (by decide +kernel))
  revert ended
  decide +kernel

theorem membershipKept_of_admits_grace :
    MembershipKept 0 plainConfig
      ((memberMachine plainConfig (Page.fresh.adopt plainConfig keyIdentity)
          keyIdentity 0 none).run lockedRun)
      (.graceFires ⟨2, false⟩) :=
  membershipKept_of_admits plainConfig _ keyIdentity 0 none lockedRun _
    (by decide +kernel)

end Rules

end Btcr2Aggregation
