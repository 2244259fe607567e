import Btcr2Aggregation.Web.ConsoleSessions

/-!
# Served data stays in its session

While a session is live, everything the slice shows was served to a request of
that session, and the detail is of the cohort in view.  Two things the console
does not guard are set apart in `KeepsSessionsApart`: a sign-in's answer leaves
the slice of a session that is live, and the settings view leaves the detail of
the cohort it covers.
-/

namespace Btcr2Aggregation

section Isolated

/-! ## The property and its condition -/

variable {Value : Type}

/-- The detail is of the cohort in view, and named so. -/
def GatedSlice.DetailInView (slice : GatedSlice (Stamped Value)) : Prop :=
  ∀ document,
    slice.detail = some document →
      ∃ cohortId,
        slice.view = .detail cohortId ∧
          slice.detailCohortId = some cohortId ∧
          document.about = some cohortId

/-- While a session is live, the slice shows what that session was served. -/
structure ConsoleState.ShowsOwnData
    (console : ConsoleState (Stamped Value)) : Prop where
  served :
    ∀ session,
      console.liveSessionRound = some session →
        ∀ document ∈ console.slice.documents,
          document.session = some session
  detail :
    ∀ session,
      console.liveSessionRound = some session → console.slice.DetailInView

/-- No sign-in is answered while a session is live, and the settings view is
not entered or left over a detail. -/
def KeepsSessionsApart (run : ConsoleRun Value) : ConsoleEvent Value → Prop
  | .lands issued _ _ =>
      issued.request = .signIn → run.console.liveSessionRound = none
  | .act .openSettings => run.console.slice.detail = none
  | .act .closeSettings => run.console.slice.detail = none
  | .act _ => True

instance decidableKeepsSessionsApart (run : ConsoleRun Value) :
    ∀ event, Decidable (KeepsSessionsApart run event)
  | .lands issued _ _ =>
      inferInstanceAs
        (Decidable
          (issued.request = .signIn → run.console.liveSessionRound = none))
  | .act named => by
      cases named with
      | openSettings =>
          exact decidable_of_iff _ Option.isNone_iff_eq_none
      | closeSettings =>
          exact decidable_of_iff _ Option.isNone_iff_eq_none
      | _ => exact isTrue trivial

/-- What the condition keeps: what is shown is of the session that is live, and
so is every call out that asked in the round that stands. -/
structure ConsoleRun.Isolated (run : ConsoleRun Value) : Prop where
  known : run.SessionsKnown
  served :
    ∀ document ∈ run.console.slice.documents,
      ∃ session,
        run.console.liveSessionRound = some session ∧
          document.session = some session
  asking :
    ∀ issued ∈ run.inFlight,
      issued.request.asked? = some run.console.sessionRound →
        run.console.liveSessionRound = some run.console.sessionRound
  detail : run.console.slice.DetailInView

namespace ConsoleRun

variable {run : ConsoleRun Value}

theorem Isolated.showsOwnData (isolated : run.Isolated) :
    run.console.ShowsOwnData where
  served := by
    intro session live document member
    obtain ⟨served, liveServed, stamped⟩ := isolated.served document member
    rw [live] at liveServed
    rw [stamped, ← liveServed]
  detail _ _ := isolated.detail

/-- With no session live the slice is bare. -/
theorem Isolated.bare
    (isolated : run.Isolated)
    (noneLive : run.console.liveSessionRound = none) :
    ∀ document, document ∉ run.console.slice.documents := by
  intro document member
  obtain ⟨session, live, -⟩ := isolated.served document member
  rw [noneLive] at live
  cases live

end ConsoleRun

theorem GatedSlice.detailInView_of_stays
    {before after : GatedSlice (Stamped Value)}
    (inView : before.DetailInView) (stays : before.DetailStays after) :
    after.DetailInView := by
  intro document shown
  rcases stays with gone | ⟨detail, view, named⟩
  · rw [gone] at shown
    cases shown
  · rw [detail] at shown
    obtain ⟨cohortId, here, same, about⟩ := inView document shown
    exact ⟨cohortId, view.trans here, named.trans same, about⟩

end Isolated

section Steps

/-! ## One step -/

variable {Value : Type}

/-- The part of the invariant that is about the console alone. -/
structure ConsoleState.OwnData (console : ConsoleState (Stamped Value)) :
    Prop where
  served :
    ∀ document ∈ console.slice.documents,
      ∃ session,
        console.liveSessionRound = some session ∧
          document.session = some session
  detail : console.slice.DetailInView

namespace ConsoleState

variable {console : ConsoleState (Stamped Value)}

theorem OwnData.of_keeps
    (own : console.OwnData) {slice : GatedSlice (Stamped Value)}
    (keeps : console.slice.Keeps slice) :
    ({ console with slice } : ConsoleState (Stamped Value)).OwnData where
  served document member := own.served document (keeps.documents member)
  detail := GatedSlice.detailInView_of_stays own.detail keeps.detail

theorem OwnData.opensAfter
    (own : console.OwnData) (opens : Option (Option Nat × CohortId)) :
    (console.opensAfter opens).OwnData := by
  unfold ConsoleState.opensAfter
  split
  · split
    · exact own.of_keeps (GatedSlice.keeps_openCohort _ _)
    · exact own
  · exact own

end ConsoleState

namespace ConsoleRun

variable {run : ConsoleRun Value}

theorem Isolated.ownData (isolated : run.Isolated) : run.console.OwnData :=
  ⟨isolated.served, isolated.detail⟩

/-- A move of an answer to a call that is out. -/
theorem Isolated.moved
    (isolated : run.Isolated) {issued : Issued}
    (out : issued ∈ run.inFlight) {answer : ConsoleAnswer Value}
    (apart :
      issued.request = .signIn → run.console.liveSessionRound = none)
    {after : ConsoleState (Stamped Value)}
    (move :
      ConsoleMove issued.request (answer.map issued.stamp) run.console
        after) :
    after.OwnData := by
  cases move with
  | rests => exact isolated.ownData
  | tells => exact ⟨isolated.served, isolated.detail⟩
  | ends => exact ⟨nofun, nofun⟩
  | starts error opening =>
      have noneLive : run.console.liveSessionRound = none :=
        opening.elim apart id
      have bare := isolated.bare noneLive
      exact
        ⟨fun document member => absurd member (bare document),
          isolated.detail⟩
  | drops auth error signedOut signIn =>
      have bare := isolated.bare (apart signIn)
      exact
        ⟨fun document member => absurd member (bare document),
          isolated.detail⟩
  | writes slice asking documents detail =>
      have live := isolated.asking issued out asking
      obtain ⟨asked, -⟩ := isolated.known.asked issued out _ asking
      constructor
      · intro document member
        rcases documents document member with shown | fresh
        · exact isolated.served document shown
        · obtain ⟨session, -⟩ := issued.stamped_documents answer fresh
          exact ⟨_, live, session.trans asked⟩
      · rcases detail with
          stays | ⟨cohortId, value, about, view, named, shown, fresh⟩
        · exact GatedSlice.detailInView_of_stays isolated.detail stays
        · intro document detail
          obtain ⟨-, stamped⟩ := issued.stamped_documents answer fresh
          cases shown.symm.trans detail
          exact ⟨cohortId, view, named, stamped.trans about⟩

/-- A call out that asked in the round that stands asks of the live session. -/
theorem Isolated.asking_moved
    (isolated : run.Isolated) {request : ConsoleRequest}
    {answer : ConsoleAnswer (Stamped Value)}
    (apart : request = .signIn → run.console.liveSessionRound = none)
    {after : ConsoleState (Stamped Value)}
    (move : ConsoleMove request answer run.console after)
    {issued : Issued} (out : issued ∈ run.inFlight)
    (asked : issued.request.asked? = some after.sessionRound) :
    after.liveSessionRound = some after.sessionRound := by
  have behind := (isolated.known.asked issued out _ asked).2
  cases move with
  | ends => exact absurd behind (Nat.not_succ_le_self _)
  | starts => rfl
  | drops auth error signedOut signIn =>
      have live := isolated.asking issued out asked
      rw [apart signIn] at live
      cases live
  | _ => exact isolated.asking issued out asked

/-- Calls that go out now ask of the live session. -/
theorem asking_fresh
    {console : ConsoleState (Stamped Value)} (sound : console.Sound)
    {requests : List ConsoleRequest}
    (current : ∀ request ∈ requests, request.Current console)
    {issued : Issued}
    (fresh :
      issued ∈
        requests.map fun request =>
          (⟨request, console.liveSessionRound⟩ : Issued))
    (asked : issued.request.asked? = some console.sessionRound) :
    console.liveSessionRound = some console.sessionRound := by
  obtain ⟨request, posed, rfl⟩ := List.mem_map.mp fresh
  exact (sound.live_of_asking ((current request posed).asked _ asked)).1

theorem Isolated.lands
    (isolated : run.Isolated) {issued : Issued} {now : Nat}
    {answer : ConsoleAnswer Value}
    (offered : run.Offers (.lands issued now answer))
    (apart :
      issued.request = .signIn → run.console.liveSessionRound = none) :
    (run.step (.lands issued now answer)).Isolated := by
  obtain ⟨middle, move, after⟩ := moves_step offered
  have own :=
    (isolated.moved offered.1 apart move).opensAfter issued.request.opens?
  have known := isolated.known.step _ offered
  rw [← after] at own
  refine ⟨known, own.served, ?_, own.detail⟩
  intro other out asked
  rcases List.mem_append.mp out with older | fresh
  · rw [after, ConsoleState.opensAfter_sessionRound] at asked ⊢
    rw [ConsoleState.opensAfter_liveSessionRound]
    exact
      isolated.asking_moved apart move (List.mem_of_mem_erase older) asked
  · exact
      asking_fresh known.sound (run.console.current_lands now _ _) fresh asked

/-- Only the settings view leaves a detail behind. -/
theorem keeps_acts
    {named : ConsoleAct} (apart : KeepsSessionsApart run (.act named)) :
    run.console.slice.Keeps (run.console.acts named).1.slice := by
  cases named with
  | openCohort cohortId => exact GatedSlice.keeps_openCohort cohortId _
  | closeCohort => exact GatedSlice.keeps_closeCohort _
  | verb named => exact GatedSlice.keeps_begins named _
  | openSettings => exact ⟨List.Subset.refl _, .inl apart⟩
  | closeSettings => exact ⟨List.Subset.refl _, .inl apart⟩
  | _ => exact .of_same rfl rfl rfl rfl

theorem Isolated.acts
    (isolated : run.Isolated) {named : ConsoleAct}
    (apart : KeepsSessionsApart run (.act named)) :
    (run.step (.act named)).Isolated := by
  have keeps := keeps_acts apart
  have known := isolated.known.step (.act named) trivial
  have round := run.console.acts_sessionRound named
  have live := run.console.acts_liveSessionRound named
  refine ⟨known, ?_, ?_, ?_⟩
  · intro document member
    obtain ⟨session, here, stamped⟩ :=
      isolated.served document (keeps.documents member)
    exact ⟨session, live.trans here, stamped⟩
  · intro issued out asked
    rcases List.mem_append.mp out with older | fresh
    · have before := isolated.asking issued older
      rw [← round, ← live] at before
      exact before asked
    · exact
        asking_fresh known.sound (run.console.current_acts named) fresh asked
  · exact GatedSlice.detailInView_of_stays isolated.detail keeps.detail

theorem isolated_always :
    ((consoleMachine Value).restrict KeepsSessionsApart).Always
      ConsoleRun.Isolated := by
  apply Machine.Always.of_inductive
  · exact ⟨⟨⟨nofun, nofun⟩, nofun, nofun⟩, nofun, nofun, nofun⟩
  · intro run event isolated offered
    cases event with
    | act named => exact isolated.acts offered.2
    | lands issued now answer => exact isolated.lands offered.1 offered.2

end ConsoleRun

end Steps

section Data

/-! ## Data and sessions -/

variable {Value : Type}

/-- In a run that keeps sessions apart, a live session is shown only what it
was served. -/
theorem showsOwnData_of_keepsSessionsApart
    (events : List (ConsoleEvent Value))
    (admissible :
      ((consoleMachine Value).restrict KeepsSessionsApart).Admits events) :
    ((consoleMachine Value).run events).console.ShowsOwnData :=
  (ConsoleRun.isolated_always events admissible).showsOwnData

/-- A session, its list, a cohort opened and its detail served. -/
def cohortInView : List (ConsoleEvent String) :=
  returningOperator ++
    [ .lands ⟨.refreshCohorts (some 1) none, some 1⟩ 2
        (.cohorts (.ok ⟨["cohort"], none, none⟩)),
      .act (.openCohort 7), .act .pollDetail,
      .lands ⟨.pollDetail (some 1) 7, some 1⟩ 3
        (.detail (.ok "members")) ]

theorem showsOwnData_of_keepsSessionsApart_cohortInView :
    ((consoleMachine String).run cohortInView).console.ShowsOwnData :=
  showsOwnData_of_keepsSessionsApart cohortInView (by decide +kernel)

/-- Two probes are out.  One finds no session, a sign-in goes out, the other
probe finds one, and its list is shown to the session the sign-in starts. -/
theorem not_showsOwnData_of_overlappingStart :
    ¬ ∀ events : List (ConsoleEvent String),
        (consoleMachine String).Admits events →
          ((consoleMachine String).run events).console.ShowsOwnData := by
  intro claimed
  have shows :=
    claimed
      [ .act .probe, .act .probe,
        .lands ⟨.probe 0, none⟩ 1 (.probe (some .loggedOut)),
        .act .signIn,
        .lands ⟨.probe 0, none⟩ 2 (.probe (some .loggedIn)),
        .lands ⟨.refreshCohorts (some 1) none, some 1⟩ 3
          (.cohorts (.ok ⟨["cohort"], none, none⟩)),
        .lands ⟨.signIn, none⟩ 4 (.login (some 200)) ]
      (by decide +kernel)
  have served :=
    shows.served 2 (by decide +kernel) ⟨"cohort", some 1, none⟩
      (by decide +kernel)
  cases served

/-- Entering or leaving the settings view over a detail parts the two. -/
theorem not_showsOwnData_of_settings
    {run : ConsoleRun Value} {named : ConsoleAct}
    (settings : named = .openSettings ∨ named = .closeSettings)
    {session : Nat} (live : run.console.liveSessionRound = some session)
    {document : Stamped Value}
    (shown : run.console.slice.detail = some document) :
    ¬ (run.step (.act named)).console.ShowsOwnData := by
  intro shows
  rcases settings with rfl | rfl
  · obtain ⟨cohortId, view, -⟩ := shows.detail session live document shown
    cases view
  · obtain ⟨cohortId, view, -⟩ := shows.detail session live document shown
    cases view

/-- A session a sign-in starts over a slice that shows something is shown
what it was not served. -/
theorem not_showsOwnData_of_signIn
    {run : ConsoleRun Value} (known : run.SessionsKnown)
    (shows : run.console.ShowsOwnData) {session : Nat}
    (live : run.console.liveSessionRound = some session)
    {document : Stamped Value}
    (shown : document ∈ run.console.slice.documents)
    (asked : Option Nat) (now : Nat) :
    ¬ (run.step
        (.lands ⟨.signIn, asked⟩ now
          (.login (some 200)))).console.ShowsOwnData := by
  intro after
  have before := shows.served session live document shown
  have started := after.served (run.console.sessionRound + 1) rfl document shown
  rw [before, known.sound.live session live] at started
  exact absurd (Option.some.inj started) (Nat.ne_of_lt (Nat.lt_succ_self _))

end Data

end Btcr2Aggregation
