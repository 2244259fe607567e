import Btcr2Aggregation.Web.ConsoleRuns

/-!
# What ends a session of the console

Every landing is one of six moves, and a list read may then open a cohort.  A
gated call that is out knows the session it was asked in, so a refusal that
still counts is one of the session that is live.
-/

namespace Btcr2Aggregation

section Documents

/-! ## Served documents -/

variable {Value : Type}

/-- The served documents a slice shows. -/
def GatedSlice.documents (slice : GatedSlice Value) : List Value :=
  slice.cohorts ++ slice.rows ++ slice.metrics.toList ++
    slice.health.toList ++ slice.defaults.toList ++ slice.operatorActions ++
    slice.settings.toList ++ slice.detail.toList

theorem GatedSlice.mem_documents
    {slice : GatedSlice Value} {document : Value} :
    document ∈ slice.documents ↔
      document ∈ slice.cohorts ∨ document ∈ slice.rows ∨
        document ∈ slice.metrics ∨ document ∈ slice.health ∨
        document ∈ slice.defaults ∨ document ∈ slice.operatorActions ∨
        document ∈ slice.settings ∨ document ∈ slice.detail := by
  simp only [documents, List.mem_append, Option.mem_toList, or_assoc,
    Option.mem_def]

/-- One document more: a detail, or the settings. -/
theorem GatedSlice.mem_of_mem_detail
    {slice : GatedSlice Value} {value document : Value}
    {cohortId : Option CohortId} {stale : Bool} {updated : Option Nat}
    (member :
      document ∈
        ({ slice with
            detail := some value
            detailCohortId := cohortId
            detailStale := stale
            lastUpdated := updated } : GatedSlice Value).documents) :
    document ∈ slice.documents ∨ document = value := by
  rw [mem_documents] at member ⊢
  simp only [Option.mem_def, Option.some.injEq] at member ⊢
  grind

theorem GatedSlice.mem_of_mem_settings
    {slice : GatedSlice Value} {value document : Value}
    {status : SettingsStatus} {error message : Option String}
    (member :
      document ∈
        ({ slice with
            settings := some value
            settingsStatus := status
            settingsError := error
            settingsMessage := message } : GatedSlice Value).documents) :
    document ∈ slice.documents ∨ document = value := by
  rw [mem_documents] at member ⊢
  simp only [Option.mem_def, Option.some.injEq] at member ⊢
  grind

/-- The documents of a list read. -/
def CohortsRead.documents (read : CohortsRead Value) : List Value :=
  ({ cohorts := read.cohorts
     rows := (read.monitoring.map MonitoringRead.rows).getD []
     metrics := read.monitoring.map MonitoringRead.metrics
     health := read.monitoring.bind MonitoringRead.health
     operatorActions :=
       (read.monitoring.bind MonitoringRead.operatorActions).getD []
     defaults := read.defaults } : GatedSlice Value).documents

/-- The documents an answer carries. -/
def ConsoleAnswer.documents : ConsoleAnswer Value → List Value
  | .cohorts (.ok read) => read.documents
  | .detail (.ok value) => [value]
  | .settings (.ok value) => [value]
  | .saved (.saved snapshot) => [snapshot]
  | _ => []

theorem CohortsRead.documents_map
    {Other : Type} (carry : Value → Other) (read : CohortsRead Value) :
    (read.map carry).documents = read.documents.map carry := by
  rcases read with ⟨cohorts, _ | monitoring, defaults⟩
  · cases defaults <;>
      simp [CohortsRead.documents, CohortsRead.map, GatedSlice.documents]
  · rcases monitoring with ⟨rows, metrics, health, actions⟩
    cases defaults <;> cases health <;> cases actions <;>
      simp [CohortsRead.documents, CohortsRead.map, GatedSlice.documents,
        MonitoringRead.map]

theorem ConsoleAnswer.documents_map
    {Other : Type} (carry : Value → Other) (answer : ConsoleAnswer Value) :
    (answer.map carry).documents = answer.documents.map carry := by
  cases answer with
  | cohorts result =>
      cases result with
      | ok read => exact read.documents_map carry
      | _ => rfl
  | detail result => cases result <;> rfl
  | settings result => cases result <;> rfl
  | saved result => cases result <;> rfl
  | _ => rfl

/-- Every document of a stamped answer names its request. -/
theorem Issued.stamped_documents
    (issued : Issued) (answer : ConsoleAnswer Value)
    {document : Stamped Value}
    (member : document ∈ (answer.map issued.stamp).documents) :
    document.session = issued.session ∧
      document.about = issued.request.about? := by
  rw [answer.documents_map, List.mem_map] at member
  obtain ⟨value, _, rfl⟩ := member
  exact ⟨rfl, rfl⟩

theorem ConsoleAnswer.unauthorized_map
    {Other : Type} (carry : Value → Other) (answer : ConsoleAnswer Value) :
    (answer.map carry).unauthorized = answer.unauthorized := by
  cases answer with
  | cohorts result => cases result <;> rfl
  | detail result => cases result <;> rfl
  | settings result => cases result <;> rfl
  | saved result => cases result <;> rfl
  | verb answer => cases answer <;> rfl
  | _ => rfl

end Documents

section Kept

/-! ## Slices that show nothing new -/

variable {Value : Type}

/-- A detail that stays stays where it was. -/
def GatedSlice.DetailStays (before after : GatedSlice Value) : Prop :=
  after.detail = none ∨
    (after.detail = before.detail ∧ after.view = before.view ∧
      after.detailCohortId = before.detailCohortId)

/-- Nothing new is shown. -/
structure GatedSlice.Keeps (before after : GatedSlice Value) : Prop where
  documents : after.documents ⊆ before.documents
  detail : before.DetailStays after

namespace GatedSlice

variable {before after : GatedSlice Value}

theorem Keeps.of_same
    (documents : after.documents = before.documents)
    (detail : after.detail = before.detail)
    (view : after.view = before.view)
    (named : after.detailCohortId = before.detailCohortId) :
    Keeps before after where
  documents := documents ▸ List.Subset.refl _
  detail := .inr ⟨detail, view, named⟩

private theorem documents_withoutDetail (slice : GatedSlice Value) :
    ({ slice with detail := none } : GatedSlice Value).documents ⊆
      slice.documents := by
  intro document member
  rw [mem_documents] at member ⊢
  rcases member with
    cohort | row | metric | health | default | action | setting | detail
  · exact .inl cohort
  · exact .inr (.inl row)
  · exact .inr (.inr (.inl metric))
  · exact .inr (.inr (.inr (.inl health)))
  · exact .inr (.inr (.inr (.inr (.inl default))))
  · exact .inr (.inr (.inr (.inr (.inr (.inl action)))))
  · exact .inr (.inr (.inr (.inr (.inr (.inr (.inl setting))))))
  · cases detail

/-- The detail goes and the other documents stay. -/
theorem Keeps.of_withoutDetail
    (others :
      after.documents =
        ({ before with detail := none } : GatedSlice Value).documents)
    (detail : after.detail = none) :
    Keeps before after where
  documents := others ▸ documents_withoutDetail before
  detail := .inl detail

theorem keeps_openCohort (cohortId : CohortId) (slice : GatedSlice Value) :
    Keeps slice (openCohort cohortId slice) :=
  .of_withoutDetail rfl rfl

theorem keeps_closeCohort (slice : GatedSlice Value) :
    Keeps slice (closeCohort slice) :=
  .of_withoutDetail rfl rfl

/-- No verb shows a document by itself: only `cancelCohort` touches the
detail, and that goes. -/
theorem keeps_begins (named : ConsoleVerb) (slice : GatedSlice Value) :
    Keeps slice (named.gated.begins slice) := by
  cases named <;> exact .of_same rfl rfl rfl rfl

theorem keeps_answered
    (named : ConsoleVerb) (answer : VerbAnswer) (slice : GatedSlice Value) :
    Keeps slice (named.gated.answered answer slice).1 := by
  cases named with
  | cancelCohort id =>
      cases answer with
      | done => exact .of_withoutDetail rfl rfl
      | _ => exact .of_same rfl rfl rfl rfl
  | _ => cases answer <;> exact .of_same rfl rfl rfl rfl

end GatedSlice

end Kept

section Moves

/-! ## Moves -/

variable {Value : Type}

/-- The cohort a list read goes on to open, and the round that was asked in. -/
def ConsoleRequest.opens? : ConsoleRequest → Option (Option Nat × CohortId)
  | .refreshCohorts _ opens => opens
  | _ => none

/-- A probe's answer that finds no session. -/
def ConsoleRequest.ProbeFindsNone
    (request : ConsoleRequest) (answer : ConsoleAnswer Value) : Prop :=
  ∃ asked state,
    request = .probe asked ∧ answer = .probe state ∧ state ≠ some .loggedIn

/-- What ends a session in its own name: a sign-out, a probe that finds none,
a refusal of a call that asked in the round that stands. -/
def ConsoleRequest.EndsRound
    (request : ConsoleRequest) (answer : ConsoleAnswer Value) (round : Nat) :
    Prop :=
  request = .signOut ∨ request.ProbeFindsNone answer ∨
    (answer.unauthorized = true ∧ request.asked? = some round)

/-- The answer shows a detail of the cohort it was asked about. -/
def GatedSlice.ShowsDetail
    (slice : GatedSlice Value) (request : ConsoleRequest)
    (answer : ConsoleAnswer Value) : Prop :=
  ∃ cohortId value,
    request.about? = some cohortId ∧ slice.view = .detail cohortId ∧
      slice.detailCohortId = some cohortId ∧ slice.detail = some value ∧
      value ∈ answer.documents

/-- The moves an answer can make. -/
inductive ConsoleMove
    (request : ConsoleRequest) (answer : ConsoleAnswer Value)
    (console : ConsoleState Value) : ConsoleState Value → Prop where
  | rests : ConsoleMove request answer console console
  | tells (auth : OperatorAuthStatus) (error : Option String)
      (signedIn : auth = .loggedIn → console.liveSessionRound ≠ none) :
      ConsoleMove request answer console { console with auth, error }
  | ends (auth : OperatorAuthStatus) (error : Option String)
      (signedOut : auth ≠ .loggedIn)
      (evidence : request.EndsRound answer console.sessionRound) :
      ConsoleMove request answer console
        { console.reset none with auth, error }
  | starts (error : Option String)
      (opening :
        request = .signIn ∨ console.liveSessionRound = none) :
      ConsoleMove request answer console { console.start with error }
  | drops (auth : OperatorAuthStatus) (error : Option String)
      (signedOut : auth ≠ .loggedIn) (signIn : request = .signIn) :
      ConsoleMove request answer console
        { console with auth, error, liveSessionRound := none }
  | writes (slice : GatedSlice Value)
      (asking : request.asked? = some console.sessionRound)
      (documents :
        ∀ document ∈ slice.documents,
          document ∈ console.slice.documents ∨ document ∈ answer.documents)
      (detail :
        console.slice.DetailStays slice ∨
          slice.ShowsDetail request answer) :
      ConsoleMove request answer console { console with slice }

namespace ConsoleState

variable (console : ConsoleState Value) (request : ConsoleRequest)
  (answer : ConsoleAnswer Value)

private theorem eq_of_stillAsking
    {console : ConsoleState Value} {asked : Option Nat}
    (asking : console.stillAsking asked = true) :
    asked = some console.sessionRound :=
  of_decide_eq_true asking

theorem moves_expireSession
    (evidence : request.EndsRound answer console.sessionRound) :
    ConsoleMove request answer console console.expireSession :=
  .ends .loggedOut (some sessionExpired) nofun evidence

theorem moves_expireIfStillAsking
    (refused : answer.unauthorized = true) :
    ConsoleMove request answer console
      (console.expireIfStillAsking request.asked?) := by
  unfold expireIfStillAsking
  split
  · next asking =>
    exact
      console.moves_expireSession request answer
        (.inr (.inr ⟨refused, eq_of_stillAsking asking⟩))
  · exact .rests

/-- A guarded write that shows nothing new. -/
theorem moves_guarded
    (slice : GatedSlice Value) (keeps : console.slice.Keeps slice) :
    ConsoleMove request answer console
      (if console.stillAsking request.asked? then
        { console with slice }
      else
        console) := by
  split
  · next asking =>
    exact
      .writes slice (eq_of_stillAsking asking)
        (fun _ member => .inl (keeps.documents member)) (.inl keeps.detail)
  · exact .rests

end ConsoleState

end Moves

section Landings

/-! ## Every landing is a move -/

variable {Value : Type} (console : ConsoleState Value)

namespace ConsoleState

theorem moves_probeLands (asked : Nat) (state : Option SessionState) :
    ConsoleMove (.probe asked) (.probe state) console
      (console.probeLands asked state).1 := by
  have finds (absent : state ≠ some .loggedIn) :
      ConsoleRequest.EndsRound (.probe asked)
        (.probe state : ConsoleAnswer Value) console.sessionRound :=
    .inr (.inl ⟨asked, state, rfl, rfl, absent⟩)
  have unreachable (absent : state ≠ some .loggedIn) :
      ConsoleMove (.probe asked) (.probe state) console
        console.probeUnreachable := by
    unfold probeUnreachable
    by_cases live : console.liveSessionRound.isSome
    · rw [if_pos live]
      exact .ends .loggedOut (some unreachableCopy) nofun (finds absent)
    · rw [if_neg live]
      exact .tells .loggedOut (some unreachableCopy) nofun
  cases state with
  | none => exact unreachable nofun
  | some state =>
      cases state with
      | unreachable => exact unreachable nofun
      | loggedIn =>
          dsimp only [probeLands]
          split
          · next noneLive =>
            split
            · exact .rests
            · exact .starts console.error (.inr noneLive)
          · next someLive =>
            exact .tells .loggedIn console.error fun _ => someLive
      | loggedOut =>
          dsimp only [probeLands]
          split
          · exact console.moves_expireSession _ _ (finds nofun)
          · exact .tells .loggedOut console.error nofun
      | disabled =>
          dsimp only [probeLands]
          split
          · exact .ends .disabled none nofun (finds nofun)
          · exact .tells .disabled console.error nofun

theorem moves_signInLands (status : Option Nat) :
    ConsoleMove .signIn (.login status) console
      (console.signInLands status).1 := by
  unfold signInLands
  split
  · exact .starts none (.inl rfl)
  · exact .drops .loggedOut (some throttled) nofun rfl
  · exact .drops .disabled none nofun rfl
  · exact .drops .loggedOut (some invalidPassword) nofun rfl
  · exact .drops .loggedOut (some unreachableCopy) nofun rfl

private theorem documents_paintCohorts
    (slice : GatedSlice Value) (now : Nat) (read : CohortsRead Value)
    {document : Value}
    (member : document ∈ (paintCohorts slice now read).documents) :
    document ∈ slice.documents ∨ document ∈ read.documents := by
  rw [GatedSlice.mem_documents] at member
  rw [CohortsRead.documents, GatedSlice.mem_documents, GatedSlice.mem_documents]
  dsimp only [paintCohorts] at member
  grind

theorem moves_refreshLands
    (now : Nat) (asked : Option Nat)
    (opens : Option (Option Nat × CohortId))
    (result : FetchResult (CohortsRead Value)) :
    ConsoleMove (.refreshCohorts asked opens) (.cohorts result) console
      (console.refreshLands now asked result) := by
  cases result with
  | unauthorized => exact console.moves_expireIfStillAsking _ _ rfl
  | unreachable =>
      exact console.moves_guarded _ _ _ (.of_same rfl rfl rfl rfl)
  | ok read =>
      dsimp only [refreshLands]
      split
      · next asking =>
        exact
          .writes _ (eq_of_stillAsking asking)
            (fun _ member => documents_paintCohorts _ now read member)
            (.inl (.inr ⟨rfl, rfl, rfl⟩))
      · exact .rests

theorem moves_pollLands
    (now : Nat) (asked : Option Nat) (askedFor : CohortId)
    (result : FetchResult Value) :
    ConsoleMove (.pollDetail asked askedFor) (.detail result) console
      (console.pollLands now asked askedFor result) := by
  cases result with
  | unauthorized => exact console.moves_expireIfStillAsking _ _ rfl
  | unreachable =>
      dsimp only [pollLands]
      split
      · next guards =>
        exact
          .writes _ (eq_of_stillAsking guards.1) (fun _ member => .inl member)
            (.inl (.inr ⟨rfl, rfl, rfl⟩))
      · exact .rests
  | ok value =>
      have here : value ∈ (ConsoleAnswer.detail (.ok value)).documents :=
        List.mem_singleton_self value
      dsimp only [pollLands]
      split
      · next guards =>
        refine
          .writes _ (eq_of_stillAsking guards.1) ?_
            (.inr ⟨askedFor, value, rfl, guards.2, rfl, rfl, here⟩)
        intro document member
        rcases GatedSlice.mem_of_mem_detail member with shown | rfl
        · exact .inl shown
        · exact .inr here
      · exact .rests

/-- A guarded write of the served settings. -/
private theorem moves_settings
    (request : ConsoleRequest) (answer : ConsoleAnswer Value) (value : Value)
    (here : value ∈ answer.documents) (error message : Option String) :
    ConsoleMove request answer console
      (if console.stillAsking request.asked? then
        { console with
          slice :=
            { console.slice with
              settings := some value
              settingsStatus := .idle
              settingsError := error
              settingsMessage := message } }
      else
        console) := by
  split
  · next asking =>
    refine
      .writes _ (eq_of_stillAsking asking) ?_ (.inl (.inr ⟨rfl, rfl, rfl⟩))
    intro document member
    rcases GatedSlice.mem_of_mem_settings member with shown | rfl
    · exact .inl shown
    · exact .inr here
  · exact .rests

theorem moves_settingsLands
    (asked : Option Nat) (result : FetchResult Value) :
    ConsoleMove (.loadSettings asked) (.settings result) console
      (console.settingsLands asked result) := by
  cases result with
  | unauthorized => exact console.moves_expireIfStillAsking _ _ rfl
  | unreachable =>
      exact console.moves_guarded _ _ _ (.of_same rfl rfl rfl rfl)
  | ok value =>
      exact
        console.moves_settings (.loadSettings asked) (.settings (.ok value))
          value (List.mem_singleton_self value) none
          console.slice.settingsMessage

theorem moves_saveLands (asked : Option Nat) (result : SaveResult Value) :
    ConsoleMove (.saveSettings asked) (.saved result) console
      (console.saveLands asked result) := by
  cases result with
  | unauthorized => exact console.moves_expireIfStillAsking _ _ rfl
  | saved snapshot =>
      exact
        console.moves_settings (.saveSettings asked) (.saved (.saved snapshot))
          snapshot (List.mem_singleton_self snapshot)
          console.slice.settingsError (some settingsSavedOk)
  | rejected error =>
      exact console.moves_guarded _ _ _ (.of_same rfl rfl rfl rfl)
  | thrown =>
      exact console.moves_guarded _ _ _ (.of_same rfl rfl rfl rfl)

theorem moves_verbLands
    (named : ConsoleVerb) (asked : Option Nat) (answer : VerbAnswer) :
    ConsoleMove (.verb named asked) (.verb answer) console
      (console.verbLands named asked answer).1 := by
  unfold verbLands
  by_cases refused : answer = .unauthorized
  · subst refused
    exact console.moves_expireIfStillAsking _ _ rfl
  · rw [if_neg refused]
    let slice := (named.gated.answered answer console.slice).1
    have moved :
        ConsoleMove (.verb named asked) (.verb answer) console
          (if console.stillAsking asked then { console with slice }
            else console) :=
      console.moves_guarded _ _ _
        (GatedSlice.keeps_answered named answer console.slice)
    split
    · next asking =>
      rwa [if_pos asking] at moved
    · exact .rests

/-- A landing is one move, and what a list read opens after it. -/
theorem moves_lands
    (now : Nat) (request : ConsoleRequest) (answer : ConsoleAnswer Value)
    (expected : request.Expects answer = true) :
    ∃ middle,
      ConsoleMove request answer console middle ∧
        (console.lands now request answer).1 =
          middle.opensAfter request.opens? := by
  cases request with
  | probe asked =>
      cases answer with
      | probe state => exact ⟨_, console.moves_probeLands asked state, rfl⟩
      | _ => cases expected
  | signIn =>
      cases answer with
      | login status => exact ⟨_, console.moves_signInLands status, rfl⟩
      | _ => cases expected
  | signOut => exact ⟨_, .ends .loggedOut none nofun (.inl rfl), rfl⟩
  | refreshCohorts asked opens =>
      cases answer with
      | cohorts result =>
          exact ⟨_, console.moves_refreshLands now asked opens result, rfl⟩
      | _ => cases expected
  | pollDetail asked askedFor =>
      cases answer with
      | detail result =>
          exact ⟨_, console.moves_pollLands now asked askedFor result, rfl⟩
      | _ => cases expected
  | loadSettings asked =>
      cases answer with
      | settings result =>
          exact ⟨_, console.moves_settingsLands asked result, rfl⟩
      | _ => cases expected
  | saveSettings asked =>
      cases answer with
      | saved result => exact ⟨_, console.moves_saveLands asked result, rfl⟩
      | _ => cases expected
  | verb named asked =>
      cases answer with
      | verb answer =>
          exact ⟨_, console.moves_verbLands named asked answer, rfl⟩
      | _ => cases expected

end ConsoleState

end Landings

section Known

/-! ## Sessions are known by their rounds -/

variable {Value : Type}

/-- The round the continuation of a list read was asked in. -/
def ConsoleRequest.opening? (request : ConsoleRequest) : Option Nat :=
  request.opens?.bind Prod.fst

/-- What a request captures as it goes out is the round that stands. -/
structure ConsoleRequest.Current
    (request : ConsoleRequest) (console : ConsoleState Value) : Prop where
  asked :
    ∀ round, request.asked? = some round → console.askingRound = some round
  opening :
    ∀ round, request.opening? = some round → round = console.sessionRound

namespace ConsoleState

variable (console : ConsoleState Value)

/-- The status and the record of the live session agree. -/
structure Sound : Prop where
  live :
    ∀ session,
      console.liveSessionRound = some session →
        session = console.sessionRound
  signedIn : console.auth = .loggedIn → console.liveSessionRound ≠ none

theorem Sound.live_of_asking
    {console : ConsoleState Value} (sound : console.Sound) {round : Nat}
    (asking : console.askingRound = some round) :
    console.liveSessionRound = some round ∧ round = console.sessionRound := by
  unfold askingRound at asking
  split at asking
  · next signedIn =>
    cases asking
    obtain ⟨session, live⟩ :=
      Option.ne_none_iff_exists'.mp (sound.signedIn signedIn)
    rw [live, sound.live session live]
    exact ⟨rfl, rfl⟩
  · cases asking

theorem current_refresh :
    ∀ request ∈ console.refresh, request.Current console := by
  intro request member
  cases List.mem_singleton.mp member
  exact ⟨fun _ asked => asked, nofun⟩

theorem current_poll :
    ∀ request ∈ console.poll, request.Current console := by
  intro request member
  unfold poll at member
  split at member
  · cases List.mem_singleton.mp member
    exact ⟨fun _ asked => asked, nofun⟩
  · cases member

theorem current_follow
    {asked : Option Nat} (asking : console.stillAsking asked = true)
    (followup : Followup) :
    ∀ request ∈ console.follow asked followup, request.Current console := by
  cases followup with
  | none => nofun
  | refresh => exact console.current_refresh
  | pollDetail => exact console.current_poll
  | refreshThenOpen cohortId =>
      intro request member
      cases List.mem_singleton.mp member
      refine ⟨fun _ asked => asked, ?_⟩
      intro round opening
      have same : asked = some round := opening
      rw [eq_of_stillAsking asking] at same
      exact (Option.some.inj same).symm

theorem current_acts (named : ConsoleAct) :
    ∀ request ∈ (console.acts named).2,
      request.Current (console.acts named).1 := by
  cases named with
  | refreshCohorts => exact console.current_refresh
  | pollDetail => exact console.current_poll
  | probe | signIn | signOut =>
      intro request member
      cases List.mem_singleton.mp member
      exact ⟨nofun, nofun⟩
  | loadSettings | saveSettings | verb =>
      intro request member
      cases List.mem_singleton.mp member
      exact ⟨fun _ asked => asked, nofun⟩
  | _ => nofun

theorem current_lands
    (now : Nat) (request : ConsoleRequest) (answer : ConsoleAnswer Value) :
    ∀ next ∈ (console.lands now request answer).2,
      next.Current (console.lands now request answer).1 := by
  unfold lands
  split
  · next asked state =>
    rcases state with _ | state
    · nofun
    · cases state with
      | loggedIn =>
          dsimp only [probeLands]
          split
          · split
            · nofun
            · exact current_refresh _
          · exact current_refresh _
      | loggedOut =>
          dsimp only [probeLands]
          split <;> nofun
      | disabled =>
          dsimp only [probeLands]
          split <;> nofun
      | unreachable => nofun
  · unfold signInLands
    split
    · exact current_refresh _
    all_goals nofun
  · nofun
  · nofun
  · nofun
  · nofun
  · nofun
  · unfold verbLands
    split
    · nofun
    · split
      · next asking =>
        refine current_follow _ ?_ _
        exact asking
      · nofun
  · nofun

@[simp]
theorem opensAfter_sessionRound (opens : Option (Option Nat × CohortId)) :
    (console.opensAfter opens).sessionRound = console.sessionRound := by
  unfold opensAfter
  split
  · split <;> rfl
  · rfl

@[simp]
theorem opensAfter_liveSessionRound
    (opens : Option (Option Nat × CohortId)) :
    (console.opensAfter opens).liveSessionRound = console.liveSessionRound := by
  unfold opensAfter
  split
  · split <;> rfl
  · rfl

@[simp]
theorem opensAfter_auth (opens : Option (Option Nat × CohortId)) :
    (console.opensAfter opens).auth = console.auth := by
  unfold opensAfter
  split
  · split <;> rfl
  · rfl

/-- A continuation asked in a round that has been retired opens nothing. -/
theorem opensAfter_of_retired
    {opens : Option (Option Nat × CohortId)}
    (retired :
      ∀ round, opens.bind Prod.fst = some round →
        round < console.sessionRound) :
    console.opensAfter opens = console := by
  unfold opensAfter
  split
  · next asked cohortId =>
    rw [if_neg]
    intro asking
    have behind := retired _ (eq_of_stillAsking asking)
    exact absurd behind (Nat.lt_irrefl _)
  · rfl

end ConsoleState

namespace ConsoleMove

variable {request : ConsoleRequest} {answer : ConsoleAnswer Value}
  {before after : ConsoleState Value}

theorem sessionRound_le (move : ConsoleMove request answer before after) :
    before.sessionRound ≤ after.sessionRound := by
  cases move with
  | ends => exact Nat.le_succ _
  | starts => exact Nat.le_succ _
  | _ => exact Nat.le_refl _

theorem sound
    (move : ConsoleMove request answer before after) (sound : before.Sound) :
    after.Sound := by
  cases move with
  | rests => exact sound
  | tells auth error signedIn => exact ⟨sound.live, signedIn⟩
  | ends auth error signedOut =>
      exact ⟨nofun, fun signedIn => absurd signedIn signedOut⟩
  | starts error =>
      refine ⟨?_, fun _ => Option.some_ne_none _⟩
      intro session live
      exact (Option.some.inj live).symm
  | drops auth error signedOut =>
      exact ⟨nofun, fun signedIn => absurd signedIn signedOut⟩
  | writes slice => exact ⟨sound.live, sound.signedIn⟩

end ConsoleMove

namespace ConsoleState

variable (console : ConsoleState Value)

theorem acts_sessionRound (named : ConsoleAct) :
    (console.acts named).1.sessionRound = console.sessionRound := by
  cases named <;> rfl

theorem acts_liveSessionRound (named : ConsoleAct) :
    (console.acts named).1.liveSessionRound = console.liveSessionRound := by
  cases named <;> rfl

theorem acts_signedIn
    {named : ConsoleAct}
    (signedIn : (console.acts named).1.auth = .loggedIn) :
    console.auth = .loggedIn := by
  cases named with
  | probe | signIn => cases signedIn
  | _ => exact signedIn

theorem Sound.acts
    {console : ConsoleState Value} (sound : console.Sound)
    (named : ConsoleAct) :
    (console.acts named).1.Sound := by
  constructor
  · intro session live
    rw [acts_liveSessionRound] at live
    rw [acts_sessionRound]
    exact sound.live session live
  · intro signedIn
    rw [acts_liveSessionRound]
    exact sound.signedIn (console.acts_signedIn signedIn)

theorem Sound.lands
    {console : ConsoleState Value} (sound : console.Sound) (now : Nat)
    {request : ConsoleRequest} {answer : ConsoleAnswer Value}
    (expected : request.Expects answer = true) :
    (console.lands now request answer).1.Sound := by
  obtain ⟨middle, move, lands⟩ :=
    console.moves_lands now request answer expected
  have kept := move.sound sound
  rw [lands]
  constructor
  · intro session live
    rw [opensAfter_liveSessionRound] at live
    rw [opensAfter_sessionRound]
    exact kept.live session live
  · intro signedIn
    rw [opensAfter_auth] at signedIn
    rw [opensAfter_liveSessionRound]
    exact kept.signedIn signedIn

theorem sessionRound_le_lands
    (now : Nat) {request : ConsoleRequest} {answer : ConsoleAnswer Value}
    (expected : request.Expects answer = true) :
    console.sessionRound ≤
      (console.lands now request answer).1.sessionRound := by
  obtain ⟨middle, move, lands⟩ :=
    console.moves_lands now request answer expected
  rw [lands, opensAfter_sessionRound]
  exact move.sessionRound_le

end ConsoleState

/-- Every call that is out knows the session it was asked in. -/
structure ConsoleRun.SessionsKnown (run : ConsoleRun Value) : Prop where
  sound : run.console.Sound
  asked :
    ∀ issued ∈ run.inFlight, ∀ round,
      issued.request.asked? = some round →
        issued.session = some round ∧ round ≤ run.console.sessionRound
  opening :
    ∀ issued ∈ run.inFlight, ∀ round,
      issued.request.opening? = some round →
        round ≤ run.console.sessionRound

theorem ConsoleAnswer.expects_map
    {Other : Type} (carry : Value → Other) (request : ConsoleRequest)
    (answer : ConsoleAnswer Value) :
    request.Expects (answer.map carry) = request.Expects answer := by
  cases request <;> cases answer <;> rfl

namespace ConsoleRun

variable {run : ConsoleRun Value}

theorem expects_of_offers
    {issued : Issued} {now : Nat} {answer : ConsoleAnswer Value}
    (offered : run.Offers (.lands issued now answer)) :
    issued.request.Expects (answer.map issued.stamp) = true :=
  (ConsoleAnswer.expects_map _ _ _).trans offered.2

/-- An answer that lands makes one move, and may then open a cohort. -/
theorem moves_step
    {issued : Issued} {now : Nat} {answer : ConsoleAnswer Value}
    (offered : run.Offers (.lands issued now answer)) :
    ∃ middle,
      ConsoleMove issued.request (answer.map issued.stamp) run.console middle ∧
        (run.step (.lands issued now answer)).console =
          middle.opensAfter issued.request.opens? :=
  run.console.moves_lands now _ _ (expects_of_offers offered)

theorem SessionsKnown.goesOn
    (known : run.SessionsKnown) {inFlight : List Issued}
    {moved : ConsoleState (Stamped Value) × List ConsoleRequest}
    (fewer : inFlight ⊆ run.inFlight) (sound : moved.1.Sound)
    (later : run.console.sessionRound ≤ moved.1.sessionRound)
    (current : ∀ request ∈ moved.2, request.Current moved.1) :
    (goesOn inFlight moved).SessionsKnown where
  sound := sound
  asked := by
    intro issued member round asked
    rcases List.mem_append.mp member with out | fresh
    · obtain ⟨session, behind⟩ := known.asked issued (fewer out) round asked
      exact ⟨session, Nat.le_trans behind later⟩
    · obtain ⟨request, posed, rfl⟩ := List.mem_map.mp fresh
      obtain ⟨live, here⟩ :=
        sound.live_of_asking ((current request posed).asked round asked)
      exact ⟨live, Nat.le_of_eq here⟩
  opening := by
    intro issued member round opening
    rcases List.mem_append.mp member with out | fresh
    · have behind := known.opening issued (fewer out) round opening
      exact Nat.le_trans behind later
    · obtain ⟨request, posed, rfl⟩ := List.mem_map.mp fresh
      exact Nat.le_of_eq ((current request posed).opening round opening)

theorem SessionsKnown.step
    (known : run.SessionsKnown) (event : ConsoleEvent Value)
    (offered : run.Offers event) :
    (run.step event).SessionsKnown := by
  cases event with
  | act named =>
      exact
        known.goesOn (List.Subset.refl _) (known.sound.acts named)
          (Nat.le_of_eq (run.console.acts_sessionRound named).symm)
          (run.console.current_acts named)
  | lands issued now answer =>
      have expected := expects_of_offers offered
      exact
        known.goesOn List.erase_subset (known.sound.lands now expected)
          (run.console.sessionRound_le_lands now expected)
          (run.console.current_lands now _ _)

theorem sessionsKnown_always :
    (consoleMachine Value).Always ConsoleRun.SessionsKnown :=
  Machine.Always.of_inductive
    ⟨⟨nofun, nofun⟩, nofun, nofun⟩
    fun _ event known offered => known.step event offered

end ConsoleRun

end Known

section Endings

/-! ## What ends a session -/

variable {Value : Type}

namespace ConsoleEvent

/-- The request an event answers. -/
def answers? : ConsoleEvent Value → Option ConsoleRequest
  | .act _ => none
  | .lands issued _ _ => some issued.request

/-- The session the request an event answers was asked in. -/
def session? : ConsoleEvent Value → Option Nat
  | .act _ => none
  | .lands issued _ _ => issued.session

/-- What tells of a session that it is gone: the refusal of a call it asked, or
a probe that finds none. -/
def TellsOf (session : Nat) : ConsoleEvent Value → Prop
  | .act _ => False
  | .lands issued _ answer =>
      (answer.unauthorized = true ∧ issued.session = some session) ∨
        issued.request.ProbeFindsNone answer

end ConsoleEvent

/-- The session is over: its round is retired and its slice is gone. -/
structure ConsoleState.Retires (before after : ConsoleState Value) : Prop where
  live : after.liveSessionRound = none
  round : after.sessionRound = before.sessionRound + 1
  slice : after.slice = {}

private theorem probeFindsNone_of_map
    {Other : Type} {carry : Value → Other} {request : ConsoleRequest}
    {answer : ConsoleAnswer Value}
    (found : request.ProbeFindsNone (answer.map carry)) :
    request.ProbeFindsNone answer := by
  obtain ⟨asked, state, isProbe, same, absent⟩ := found
  cases answer with
  | probe answered =>
      cases same
      exact ⟨asked, state, isProbe, rfl, absent⟩
  | _ => cases same

namespace ConsoleRun

variable {run : ConsoleRun Value}

/-- One step: a landing that ends the live session answers a sign-in, or it
retires the session on evidence. -/
theorem SessionsKnown.ended
    (known : run.SessionsKnown) {event : ConsoleEvent Value}
    (offered : run.Offers event) {session : Nat}
    (live : run.console.liveSessionRound = some session)
    (ended : (run.step event).console.liveSessionRound ≠ some session) :
    event.answers? = some .signIn ∨
      ((event.answers? = some .signOut ∨ event.TellsOf session) ∧
        run.console.Retires (run.step event).console) := by
  cases event with
  | act named =>
      exact
        absurd ((run.console.acts_liveSessionRound named).trans live) ended
  | lands issued now answer =>
      obtain ⟨middle, move, after⟩ := moves_step offered
      rw [after, ConsoleState.opensAfter_liveSessionRound] at ended
      cases move with
      | rests => exact absurd live ended
      | tells => exact absurd live ended
      | writes => exact absurd live ended
      | drops _ _ _ signIn => exact .inl (congrArg some signIn)
      | starts error opening =>
          rcases opening with signIn | noneLive
          · exact .inl (congrArg some signIn)
          · rw [noneLive] at live
            cases live
      | ends auth error signedOut evidence =>
          right
          constructor
          · rcases evidence with signOut | found | ⟨refused, asked⟩
            · exact .inl (congrArg some signOut)
            · exact .inr (.inr (probeFindsNone_of_map found))
            · right
              left
              obtain ⟨askedIn, -⟩ :=
                known.asked issued offered.1 _ asked
              rw [ConsoleAnswer.unauthorized_map] at refused
              rw [← known.sound.live session live] at askedIn
              exact ⟨refused, askedIn⟩
          · have kept :
                ConsoleState.opensAfter
                    { run.console.reset none with auth, error }
                    issued.request.opens? =
                  { run.console.reset none with auth, error } := by
              apply ConsoleState.opensAfter_of_retired
              intro round opening
              exact
                Nat.lt_succ_of_le
                  (known.opening issued offered.1 round opening)
            rw [after, kept]
            exact ⟨rfl, rfl, rfl⟩

end ConsoleRun

/-- A session that is live ends by the answer to a sign-in, or by a sign-out or
what tells of it, and then its round is retired and the whole slice is reset. -/
theorem session_ended_by_evidence
    (events : List (ConsoleEvent Value)) (event : ConsoleEvent Value)
    (session : Nat)
    (admissible : (consoleMachine Value).Admits (events ++ [event]))
    (live :
      ((consoleMachine Value).run events).console.liveSessionRound =
        some session)
    (ended :
      ((consoleMachine Value).run (events ++ [event])).console.liveSessionRound ≠
        some session) :
    event.answers? = some .signIn ∨
      ((event.answers? = some .signOut ∨ event.TellsOf session) ∧
        ((consoleMachine Value).run events).console.Retires
          ((consoleMachine Value).run (events ++ [event])).console) := by
  obtain ⟨before, offered⟩ :=
    ((consoleMachine Value).admits_concat_iff events event).mp admissible
  have known := ConsoleRun.sessionsKnown_always events before
  rw [Machine.run_concat] at ended ⊢
  exact known.ended offered live ended

/-- A probe finds a session, and the list read it fires. -/
def returningOperator : List (ConsoleEvent String) :=
  [ .act .probe,
    .lands ⟨.probe 0, none⟩ 1 (.probe (some .loggedIn)) ]

theorem session_ended_by_evidence_refusedRead :
    ((consoleMachine String).run returningOperator).console.Retires
      ((consoleMachine String).run
        (returningOperator ++
          [.lands ⟨.refreshCohorts (some 1) none, some 1⟩ 2
            (.cohorts .unauthorized)])).console := by
  have ended :=
    session_ended_by_evidence returningOperator
      (.lands ⟨.refreshCohorts (some 1) none, some 1⟩ 2
        (.cohorts .unauthorized))
      1 (by decide +kernel) (by decide +kernel) (by decide +kernel)
  rcases ended with signIn | ⟨_, retired⟩
  · cases signIn
  · exact retired

/-- A probe is out and no session is live.  A sign-in starts one, and the
probe's answer that finds none ends it. -/
theorem not_session_ended_by_own_answer :
    ¬ ∀ (events : List (ConsoleEvent String)) (event : ConsoleEvent String)
        (session : Nat),
        (consoleMachine String).Admits (events ++ [event]) →
          ((consoleMachine String).run events).console.liveSessionRound =
              some session →
            ((consoleMachine String).run
                  (events ++ [event])).console.liveSessionRound ≠
                some session →
              event.session? = some session := by
  intro claimed
  have own :=
    claimed
      [ .act .probe, .act .signIn,
        .lands ⟨.signIn, none⟩ 1 (.login (some 200)) ]
      (.lands ⟨.probe 0, none⟩ 2 (.probe (some .loggedOut))) 1
      (by decide +kernel) (by decide +kernel) (by decide +kernel)
  cases own

end Endings

end Btcr2Aggregation
