import Mathlib.Algebra.Order.Monoid.WithTop
import Mathlib.Order.WithBot
import Btcr2Aggregation.Web.ConsoleSessions

/-!
# The order of the console's reads

Requests are numbered as they go out.  The list and the open detail are those
of the last read the guards let through, and the guards compare sessions and
cohorts only, so a read can land over one that was asked after it.
-/

namespace Btcr2Aggregation

section Reads

/-! ## Reads in the order of their requests -/

/-- What came of a request, or the request, with its place in the order the
requests went out. -/
structure Numbered (Thing : Type) where
  thing : Thing
  number : Nat
  deriving DecidableEq

variable {Read : Type}

/-- The number of the read on show, where reads are listed newest first. -/
def numberShown : List (Numbered Read) → WithBot Nat
  | [] => ⊥
  | read :: _ => read.number

/-- Each of the reads went out after those shown before it. -/
def InIssueOrder (reads : List (Numbered Read)) : Prop :=
  reads.Pairwise fun later earlier => earlier.number ≤ later.number

/-- A read that is shown next went out after every read shown before. -/
def Follows
    (painted : Option (Numbered Read)) (reads : List (Numbered Read)) : Prop :=
  ∀ read ∈ painted, ∀ other ∈ reads, other.number ≤ read.number

instance decidableFollows (reads : List (Numbered Read)) :
    ∀ painted, Decidable (Follows painted reads)
  | none => isTrue nofun
  | some read =>
      decidable_of_iff (∀ other ∈ reads, other.number ≤ read.number)
        ⟨fun after _ same => Option.some.inj same ▸ after,
          fun follows => follows read rfl⟩

namespace InIssueOrder

variable {reads : List (Numbered Read)} {painted : Option (Numbered Read)}

theorem paints (ordered : InIssueOrder reads) (follows : Follows painted reads) :
    InIssueOrder (painted.toList ++ reads) := by
  cases painted with
  | none => exact ordered
  | some read => exact List.pairwise_cons.mpr ⟨follows read rfl, ordered⟩

theorem le_numberShown
    (ordered : InIssueOrder reads) {other : Numbered Read}
    (member : other ∈ reads) : (other.number : WithBot Nat) ≤ numberShown reads := by
  cases reads with
  | nil => cases member
  | cons read rest =>
      obtain ⟨newest, -⟩ := List.pairwise_cons.mp ordered
      rcases List.mem_cons.mp member with rfl | older
      · exact le_refl _
      · exact WithBot.coe_le_coe.mpr (newest other older)

/-- Among reads shown in order, the last one tells whether the next follows. -/
theorem follows_iff (ordered : InIssueOrder reads) :
    Follows painted reads ↔
      numberShown reads ≤ numberShown (painted.toList ++ reads) := by
  cases painted with
  | none => exact ⟨fun _ => le_refl _, fun _ => nofun⟩
  | some read =>
      constructor
      · intro follows
        cases reads with
        | nil => exact bot_le
        | cons newest rest =>
            have newer : newest.number ≤ read.number :=
              follows read rfl newest List.mem_cons_self
            exact WithBot.coe_le_coe.mpr newer
      · intro behind shown same other member
        cases same
        have below := le_trans (ordered.le_numberShown member) behind
        exact WithBot.coe_le_coe.mp below

end InIssueOrder

end Reads

section Parts

/-! ## What a landing leaves on show -/

variable {Value : Type}

/-- The part of a slice that a list read fills. -/
def GatedSlice.listPart (slice : GatedSlice Value) : GatedSlice Value where
  cohorts := slice.cohorts
  rows := slice.rows
  metrics := slice.metrics
  health := slice.health
  operatorActions := slice.operatorActions
  defaults := slice.defaults

/-- The list a read fills in. -/
def CohortsRead.listPart (read : CohortsRead Value) : GatedSlice Value :=
  (ConsoleState.paintCohorts {} 0 read).listPart

namespace ConsoleState

variable (console : ConsoleState Value)

/-- The list read that the guard of `refreshCohorts` lets through. -/
def paintsList? :
    ConsoleRequest → ConsoleAnswer Value → Option (CohortsRead Value)
  | .refreshCohorts asked _, .cohorts (.ok read) =>
      if console.stillAsking asked then some read else none
  | _, _ => none

/-- The detail that the two guards of `pollDetail` let through. -/
def paintsDetail? : ConsoleRequest → ConsoleAnswer Value → Option Value
  | .pollDetail asked askedFor, .detail (.ok value) =>
      if console.stillAsking asked ∧ console.slice.view = .detail askedFor then
        some value
      else
        none
  | _, _ => none

/-- The list and the detail on show after a step: those let through, or those
that were there; a detail may also go. -/
structure ShowsNext
    (after : ConsoleState Value) (list : Option (CohortsRead Value))
    (detail : Option Value) : Prop where
  list :
    after.sessionRound = console.sessionRound →
      after.slice.listPart =
        (list.map CohortsRead.listPart).getD console.slice.listPart
  detail :
    after.sessionRound = console.sessionRound →
      after.slice.detail ≠ none →
        after.slice.detail = detail.or console.slice.detail

namespace ShowsNext

variable {console} {after : ConsoleState Value}

theorem of_slice (same : after.slice = console.slice) :
    console.ShowsNext after none none where
  list _ := congrArg GatedSlice.listPart same
  detail _ _ := congrArg GatedSlice.detail same

theorem of_ended (ended : after.sessionRound = console.sessionRound + 1) :
    console.ShowsNext after none none := by
  constructor <;> omega

/-- A change of the slice that shows no new list, and no new detail. -/
theorem of_change
    {slice : GatedSlice Value}
    (list : slice.listPart = console.slice.listPart)
    (detail : slice.detail = none ∨ slice.detail = console.slice.detail) :
    console.ShowsNext { console with slice } none none where
  list _ := list
  detail _ stays := detail.resolve_left stays

/-- The same change under the guard. -/
theorem of_guarded
    {slice : GatedSlice Value} {asked : Option Nat}
    (list : slice.listPart = console.slice.listPart)
    (detail : slice.detail = none ∨ slice.detail = console.slice.detail) :
    console.ShowsNext
      (if console.stillAsking asked then { console with slice } else console)
      none none := by
  by_cases asking : console.stillAsking asked
  · rw [if_pos asking]
    exact of_change list detail
  · rw [if_neg asking]
    exact of_slice rfl

theorem of_expires (asked : Option Nat) :
    console.ShowsNext (console.expireIfStillAsking asked) none none := by
  unfold expireIfStillAsking
  by_cases asking : console.stillAsking asked
  · rw [if_pos asking]
    exact of_ended rfl
  · rw [if_neg asking]
    exact of_slice rfl

end ShowsNext

theorem showsNext_acts (named : ConsoleAct) :
    console.ShowsNext (console.acts named).1 none none := by
  cases named with
  | verb named =>
      apply ShowsNext.of_change
      · cases named <;> rfl
      · right
        cases named <;> rfl
  | openCohort => exact .of_change rfl (.inl rfl)
  | closeCohort => exact .of_change rfl (.inl rfl)
  | probe | signIn => exact .of_slice rfl
  | _ => exact .of_change rfl (.inr rfl)

theorem showsNext_probeLands (asked : Nat) (state : Option SessionState) :
    console.ShowsNext (console.probeLands asked state).1 none none := by
  have unreachable :
      console.ShowsNext console.probeUnreachable none none := by
    unfold probeUnreachable
    by_cases live : console.liveSessionRound.isSome
    · rw [if_pos live]
      exact .of_ended rfl
    · rw [if_neg live]
      exact .of_slice rfl
  cases state with
  | none => exact unreachable
  | some state =>
      cases state with
      | unreachable => exact unreachable
      | loggedIn =>
          dsimp only [probeLands]
          split
          · split
            · exact .of_slice rfl
            · exact .of_ended rfl
          · exact .of_slice rfl
      | loggedOut =>
          dsimp only [probeLands]
          split
          · exact .of_ended rfl
          · exact .of_slice rfl
      | disabled =>
          dsimp only [probeLands]
          split
          · exact .of_ended rfl
          · exact .of_slice rfl

theorem showsNext_signInLands (status : Option Nat) :
    console.ShowsNext (console.signInLands status).1 none none := by
  unfold signInLands
  split
  · exact .of_ended rfl
  all_goals exact .of_slice rfl

/-- What a list read goes on to open shows nothing yet. -/
theorem ShowsNext.opens
    {console after : ConsoleState Value} {list : Option (CohortsRead Value)}
    {detail : Option Value} (shows : console.ShowsNext after list detail)
    (opens : Option (Option Nat × CohortId)) :
    console.ShowsNext (after.opensAfter opens) list detail := by
  unfold opensAfter
  split
  · next asked cohortId =>
    by_cases asking : after.stillAsking asked
    · rw [if_pos asking]
      exact ⟨shows.list, fun _ stays => absurd rfl stays⟩
    · rw [if_neg asking]
      exact shows
  · exact shows

theorem showsNext_refreshLands
    (now : Nat) (asked : Option Nat)
    (opens : Option (Option Nat × CohortId))
    (result : FetchResult (CohortsRead Value)) :
    console.ShowsNext ((console.refreshLands now asked result).opensAfter opens)
      (console.paintsList? (.refreshCohorts asked opens) (.cohorts result))
      none := by
  apply ShowsNext.opens
  cases result with
  | unauthorized => exact .of_expires asked
  | unreachable => exact .of_guarded rfl (.inr rfl)
  | ok read =>
      dsimp only [refreshLands, paintsList?]
      by_cases asking : console.stillAsking asked
      · rw [if_pos asking, if_pos asking]
        exact ⟨fun _ => rfl, fun _ _ => rfl⟩
      · rw [if_neg asking, if_neg asking]
        exact .of_slice rfl

theorem showsNext_pollLands
    (now : Nat) (asked : Option Nat) (askedFor : CohortId)
    (result : FetchResult Value) :
    console.ShowsNext (console.pollLands now asked askedFor result) none
      (console.paintsDetail? (.pollDetail asked askedFor) (.detail result)) := by
  cases result with
  | unauthorized => exact .of_expires asked
  | unreachable =>
      dsimp only [pollLands]
      split
      · exact .of_change rfl (.inr rfl)
      · exact .of_slice rfl
  | ok value =>
      dsimp only [pollLands, paintsDetail?]
      by_cases guards :
          console.stillAsking asked ∧ console.slice.view = .detail askedFor
      · rw [if_pos guards, if_pos guards]
        exact ⟨fun _ => rfl, fun _ _ => rfl⟩
      · rw [if_neg guards, if_neg guards]
        exact .of_slice rfl

theorem showsNext_settingsLands
    (asked : Option Nat) (result : FetchResult Value) :
    console.ShowsNext (console.settingsLands asked result) none none := by
  cases result with
  | unauthorized => exact .of_expires asked
  | _ => exact .of_guarded rfl (.inr rfl)

theorem showsNext_saveLands (asked : Option Nat) (result : SaveResult Value) :
    console.ShowsNext (console.saveLands asked result) none none := by
  cases result with
  | unauthorized => exact .of_expires asked
  | _ => exact .of_guarded rfl (.inr rfl)

/-- A verb that succeeds or fails fills in no list: `cancelCohort` closes the
detail, and the others leave it. -/
theorem GatedVerb.answered_parts
    (named : ConsoleVerb) (answer : VerbAnswer) (slice : GatedSlice Value) :
    (named.gated.answered answer slice).1.listPart = slice.listPart ∧
      ((named.gated.answered answer slice).1.detail = none ∨
        (named.gated.answered answer slice).1.detail = slice.detail) := by
  cases named with
  | cancelCohort id =>
      cases answer with
      | done => exact ⟨rfl, .inl rfl⟩
      | _ => exact ⟨rfl, .inr rfl⟩
  | _ => cases answer <;> exact ⟨rfl, .inr rfl⟩

theorem showsNext_verbLands
    (named : ConsoleVerb) (asked : Option Nat) (answer : VerbAnswer) :
    console.ShowsNext (console.verbLands named asked answer).1 none none := by
  obtain ⟨list, detail⟩ :=
    GatedVerb.answered_parts named answer console.slice
  unfold verbLands
  by_cases refused : answer = .unauthorized
  · rw [if_pos refused]
    exact .of_expires asked
  · rw [if_neg refused]
    by_cases asking : console.stillAsking asked
    · rw [if_pos asking]
      exact .of_change list detail
    · rw [if_neg asking]
      exact .of_slice rfl

/-- A landing shows what the guards let through, and nothing else new. -/
theorem showsNext_lands
    (now : Nat) (request : ConsoleRequest) (answer : ConsoleAnswer Value) :
    console.ShowsNext (console.lands now request answer).1
      (console.paintsList? request answer)
      (console.paintsDetail? request answer) := by
  cases request with
  | probe asked =>
      cases answer with
      | probe state => exact console.showsNext_probeLands asked state
      | _ => exact .of_slice rfl
  | signIn =>
      cases answer with
      | login status => exact console.showsNext_signInLands status
      | _ => exact .of_slice rfl
  | signOut => exact .of_ended rfl
  | refreshCohorts asked opens =>
      cases answer with
      | cohorts result =>
          exact console.showsNext_refreshLands now asked opens result
      | _ => exact .of_slice rfl
  | pollDetail asked askedFor =>
      cases answer with
      | detail result =>
          exact console.showsNext_pollLands now asked askedFor result
      | _ => exact .of_slice rfl
  | loadSettings asked =>
      cases answer with
      | settings result => exact console.showsNext_settingsLands asked result
      | _ => exact .of_slice rfl
  | saveSettings asked =>
      cases answer with
      | saved result => exact console.showsNext_saveLands asked result
      | _ => exact .of_slice rfl
  | verb named asked =>
      cases answer with
      | verb answer => exact console.showsNext_verbLands named asked answer
      | _ => exact .of_slice rfl

/-- A list read that is let through ends no session. -/
theorem lands_of_paintsList
    (now : Nat) {request : ConsoleRequest} {answer : ConsoleAnswer Value}
    (paints : console.paintsList? request answer ≠ none) :
    (console.lands now request answer).1.sessionRound =
      console.sessionRound := by
  unfold paintsList? at paints
  split at paints
  · next asked opens read =>
    dsimp only [lands, refreshLands]
    rw [opensAfter_sessionRound]
    split <;> rfl
  · exact absurd rfl paints

/-- A detail that is let through ends no session, and is shown. -/
theorem lands_of_paintsDetail
    (now : Nat) {request : ConsoleRequest} {answer : ConsoleAnswer Value}
    (paints : console.paintsDetail? request answer ≠ none) :
    (console.lands now request answer).1.sessionRound =
        console.sessionRound ∧
      (console.lands now request answer).1.slice.detail ≠ none := by
  unfold paintsDetail? at paints
  split at paints
  · next asked askedFor value =>
    dsimp only [lands, pollLands]
    split at paints
    · next guards =>
      rw [if_pos guards]
      exact ⟨rfl, nofun⟩
    · exact absurd rfl paints
  · exact absurd rfl paints

end ConsoleState

end Parts

section Machine

/-! ## The console with its requests numbered -/

variable {Value : Type}

/-- The console, what is out, and the reads that were let through, newest
first: the list reads of this session, and the details since the drill-down
last showed none.  `viewing` counts the steps that leave no detail, so between
two moments of one count a detail is shown throughout. -/
structure OrderedConsole (Value : Type) where
  console : ConsoleState Value
  inFlight : List (Numbered ConsoleRequest)
  nextNumber : Nat
  listReads : List (Numbered (CohortsRead Value))
  viewing : Nat
  detailReads : List (Numbered Value)

inductive OrderedEvent (Value : Type) where
  | act (named : ConsoleAct)
  | lands
      (issued : Numbered ConsoleRequest) (now : Nat)
      (answer : ConsoleAnswer Value)
  deriving DecidableEq

namespace OrderedConsole

variable (run : OrderedConsole Value)

/-- The console after an event, and the requests it sends. -/
def moved : OrderedEvent Value → ConsoleState Value × List ConsoleRequest
  | .act named => run.console.acts named
  | .lands issued now answer => run.console.lands now issued.thing answer

def stillOut : OrderedEvent Value → List (Numbered ConsoleRequest)
  | .act _ => run.inFlight
  | .lands issued _ _ => run.inFlight.erase issued

/-- The requests an event sends, in their order. -/
def sent (event : OrderedEvent Value) : List (Numbered ConsoleRequest) :=
  ((run.moved event).2.zipIdx run.nextNumber).map fun (thing, number) =>
    ⟨thing, number⟩

/-- The list read an event lets through. -/
def paintsList? :
    OrderedEvent Value → Option (Numbered (CohortsRead Value))
  | .act _ => none
  | .lands issued _ answer =>
      (run.console.paintsList? issued.thing answer).map (⟨·, issued.number⟩)

/-- The detail an event lets through. -/
def paintsDetail? : OrderedEvent Value → Option (Numbered Value)
  | .act _ => none
  | .lands issued _ answer =>
      (run.console.paintsDetail? issued.thing answer).map (⟨·, issued.number⟩)

/-- The session goes on. -/
def StaysIn (event : OrderedEvent Value) : Prop :=
  (run.moved event).1.sessionRound = run.console.sessionRound

/-- The session goes on, with a detail on show. -/
def StaysOn (event : OrderedEvent Value) : Prop :=
  run.StaysIn event ∧ (run.moved event).1.slice.detail.isSome = true

instance decidableStaysIn (event : OrderedEvent Value) :
    Decidable (run.StaysIn event) :=
  inferInstanceAs
    (Decidable
      ((run.moved event).1.sessionRound = run.console.sessionRound))

instance decidableStaysOn (event : OrderedEvent Value) :
    Decidable (run.StaysOn event) :=
  inferInstanceAs
    (Decidable
      (run.StaysIn event ∧ (run.moved event).1.slice.detail.isSome = true))

def step (event : OrderedEvent Value) : OrderedConsole Value where
  console := (run.moved event).1
  inFlight := run.stillOut event ++ run.sent event
  nextNumber := run.nextNumber + (run.moved event).2.length
  listReads :=
    if run.StaysIn event then
      (run.paintsList? event).toList ++ run.listReads
    else
      []
  viewing := if run.StaysOn event then run.viewing else run.viewing + 1
  detailReads :=
    if run.StaysOn event then
      (run.paintsDetail? event).toList ++ run.detailReads
    else
      []

/-- A request is answered once, and in its own terms. -/
def Offers : OrderedEvent Value → Prop
  | .act _ => True
  | .lands issued _ answer =>
      issued ∈ run.inFlight ∧ issued.thing.Expects answer = true

instance decidableOffers : ∀ event, Decidable (run.Offers event)
  | .act _ => isTrue trivial
  | .lands issued _ answer =>
      inferInstanceAs
        (Decidable
          (issued ∈ run.inFlight ∧ issued.thing.Expects answer = true))

/-- The number of the read whose list is on show. -/
def listNumber : WithBot Nat := numberShown run.listReads

/-- The number of the read whose detail is on show. -/
def detailNumber : WithBot Nat := numberShown run.detailReads

end OrderedConsole

def orderedConsole (Value : Type) :
    Machine (OrderedConsole Value) (OrderedEvent Value) where
  init :=
    { console := .opened
      inFlight := []
      nextNumber := 0
      listReads := []
      viewing := 0
      detailReads := [] }
  step := OrderedConsole.step
  admits := OrderedConsole.Offers

instance (run : OrderedConsole Value) (event : OrderedEvent Value) :
    Decidable ((orderedConsole Value).admits run event) :=
  run.decidableOffers event

end Machine

section Shown

/-! ## The reads on show -/

variable {Value : Type}

/-- The list and the detail on show are those of the last reads let through. -/
structure OrderedConsole.Shows (run : OrderedConsole Value) : Prop where
  list :
    ∀ read ∈ run.listReads.head?,
      run.console.slice.listPart = read.thing.listPart
  detail :
    ∀ read ∈ run.detailReads.head?, run.console.slice.detail = some read.thing

namespace OrderedConsole

variable {run : OrderedConsole Value}

variable (run) in
theorem showsNext_moved (event : OrderedEvent Value) :
    run.console.ShowsNext (run.moved event).1
      ((run.paintsList? event).map Numbered.thing)
      ((run.paintsDetail? event).map Numbered.thing) := by
  cases event with
  | act named => exact run.console.showsNext_acts named
  | lands issued now answer =>
      have next := run.console.showsNext_lands now issued.thing answer
      simpa only [moved, paintsList?, paintsDetail?, Option.map_map,
        Function.comp_def, Option.map_id'] using next

theorem staysIn_of_paintsList
    {event : OrderedEvent Value} (paints : run.paintsList? event ≠ none) :
    run.StaysIn event := by
  cases event with
  | act => exact absurd rfl paints
  | lands issued now answer =>
      have letThrough :
          run.console.paintsList? issued.thing answer ≠ none := by
        intro absent
        apply paints
        rw [paintsList?, absent]
        rfl
      exact run.console.lands_of_paintsList now letThrough

theorem staysOn_of_paintsDetail
    {event : OrderedEvent Value} (paints : run.paintsDetail? event ≠ none) :
    run.StaysOn event := by
  cases event with
  | act => exact absurd rfl paints
  | lands issued now answer =>
      have letThrough :
          run.console.paintsDetail? issued.thing answer ≠ none := by
        intro absent
        apply paints
        rw [paintsDetail?, absent]
        rfl
      obtain ⟨stays, shown⟩ :=
        run.console.lands_of_paintsDetail now letThrough
      exact ⟨stays, Option.isSome_iff_ne_none.mpr shown⟩

theorem Shows.step (shows : run.Shows) (event : OrderedEvent Value) :
    (run.step event).Shows := by
  have next := run.showsNext_moved event
  constructor
  · intro read newest
    dsimp only [OrderedConsole.step] at newest ⊢
    by_cases stays : run.StaysIn event
    · rw [if_pos stays] at newest
      rw [next.list stays]
      cases painted : run.paintsList? event with
      | none =>
          rw [painted] at newest
          exact shows.list read newest
      | some fresh =>
          rw [painted] at newest
          cases newest
          rfl
    · rw [if_neg stays] at newest
      cases newest
  · intro read newest
    dsimp only [OrderedConsole.step] at newest ⊢
    by_cases stays : run.StaysOn event
    · rw [if_pos stays] at newest
      rw [next.detail stays.1 (Option.isSome_iff_ne_none.mp stays.2)]
      cases painted : run.paintsDetail? event with
      | none =>
          rw [painted] at newest
          exact shows.detail read newest
      | some fresh =>
          rw [painted] at newest
          cases newest
          rfl
    · rw [if_neg stays] at newest
      cases newest

theorem shows_always : (orderedConsole Value).Always OrderedConsole.Shows :=
  Machine.Always.of_inductive ⟨nofun, nofun⟩ fun _ event shows _ =>
    shows.step event

end OrderedConsole

end Shown

section Order

/-! ## Reads that land in order -/

variable {Value : Type}

/-- Between two moments the list on show does not go back within a session,
and the detail on show does not go back while one is shown. -/
structure OrderedConsole.NeverBack (earlier later : OrderedConsole Value) :
    Prop where
  list :
    earlier.console.sessionRound = later.console.sessionRound →
      earlier.listNumber ≤ later.listNumber
  detail :
    earlier.viewing = later.viewing →
      earlier.detailNumber ≤ later.detailNumber

/-- What the guards let through was asked after all they let through before: of
the list reads, those of the session, and of the details, those of the
drill-down. -/
def LetsThroughInOrder
    (run : OrderedConsole Value) (event : OrderedEvent Value) : Prop :=
  Follows (run.paintsList? event) run.listReads ∧
    Follows (run.paintsDetail? event) run.detailReads

instance (run : OrderedConsole Value) (event : OrderedEvent Value) :
    Decidable (LetsThroughInOrder run event) :=
  inferInstanceAs
    (Decidable
      (Follows (run.paintsList? event) run.listReads ∧
        Follows (run.paintsDetail? event) run.detailReads))

namespace OrderedConsole

/-- The reads let through so far came in order. -/
structure InOrder (run : OrderedConsole Value) : Prop where
  list : InIssueOrder run.listReads
  detail : InIssueOrder run.detailReads

variable {run : OrderedConsole Value}

theorem InOrder.step
    (ordered : run.InOrder) {event : OrderedEvent Value}
    (follows : LetsThroughInOrder run event) : (run.step event).InOrder := by
  constructor
  · dsimp only [OrderedConsole.step]
    by_cases stays : run.StaysIn event
    · rw [if_pos stays]
      exact ordered.list.paints follows.1
    · rw [if_neg stays]
      exact List.Pairwise.nil
  · dsimp only [OrderedConsole.step]
    by_cases stays : run.StaysOn event
    · rw [if_pos stays]
      exact ordered.detail.paints follows.2
    · rw [if_neg stays]
      exact List.Pairwise.nil

theorem InOrder.follows_list_iff
    (ordered : run.InOrder) (event : OrderedEvent Value) :
    Follows (run.paintsList? event) run.listReads ↔
      ((run.step event).console.sessionRound = run.console.sessionRound →
        run.listNumber ≤ (run.step event).listNumber) := by
  by_cases stays : run.StaysIn event
  · rw [ordered.list.follows_iff]
    unfold listNumber OrderedConsole.step
    rw [if_pos stays]
    exact ⟨fun ahead _ => ahead, fun ahead => ahead stays⟩
  · have absent : run.paintsList? event = none := by
      by_contra paints
      exact stays (staysIn_of_paintsList paints)
    rw [absent]
    exact ⟨fun _ same => absurd same stays, fun _ => nofun⟩

theorem InOrder.follows_detail_iff
    (ordered : run.InOrder) (event : OrderedEvent Value) :
    Follows (run.paintsDetail? event) run.detailReads ↔
      ((run.step event).viewing = run.viewing →
        run.detailNumber ≤ (run.step event).detailNumber) := by
  by_cases stays : run.StaysOn event
  · rw [ordered.detail.follows_iff]
    unfold detailNumber OrderedConsole.step
    rw [if_pos stays, if_pos stays]
    exact ⟨fun ahead _ => ahead, fun ahead => ahead rfl⟩
  · have absent : run.paintsDetail? event = none := by
      by_contra paints
      exact stays (staysOn_of_paintsDetail paints)
    have moves : (run.step event).viewing = run.viewing + 1 := if_neg stays
    rw [absent, moves]
    exact ⟨fun _ same => absurd same (Nat.succ_ne_self _), fun _ => nofun⟩

theorem inOrder_always :
    ((orderedConsole Value).restrict LetsThroughInOrder).Always
      OrderedConsole.InOrder :=
  Machine.Always.of_inductive ⟨.nil, .nil⟩ fun _ _ ordered offered =>
    ordered.step offered.2

theorem sessionRound_le_step
    (run : OrderedConsole Value) (event : OrderedEvent Value)
    (offered : (orderedConsole Value).admits run event) :
    run.console.sessionRound ≤
      ((orderedConsole Value).step run event).console.sessionRound := by
  cases event with
  | act named => exact Nat.le_of_eq (run.console.acts_sessionRound named).symm
  | lands issued now answer =>
      exact run.console.sessionRound_le_lands now offered.2

theorem viewing_le_step
    (run : OrderedConsole Value) (event : OrderedEvent Value) :
    run.viewing ≤ ((orderedConsole Value).step run event).viewing := by
  change run.viewing ≤ if run.StaysOn event then run.viewing else run.viewing + 1
  split
  · exact Nat.le_refl _
  · exact Nat.le_succ _

end OrderedConsole

/-- The list and the detail on show never go back to a read that was asked
before the one on show in exactly the runs in which the guards let the reads
through in the order they were asked. -/
theorem neverBack_iff_letsThroughInOrder
    (events : List (OrderedEvent Value))
    (admissible : (orderedConsole Value).Admits events) :
    ((orderedConsole Value).restrict LetsThroughInOrder).Admits events ↔
      ∀ earlier later, earlier <+: later → later <+: events →
        ((orderedConsole Value).run earlier).NeverBack
          ((orderedConsole Value).run later) := by
  have each :=
    Machine.admits_restrict_iff_each OrderedConsole.inOrder_always
      (fun _ event ordered _ =>
        and_congr (ordered.follows_list_iff event)
          (ordered.follows_detail_iff event))
      events admissible
  have lists :=
    Machine.forward_iff_steps _ OrderedConsole.listNumber
      OrderedConsole.sessionRound_le_step events admissible
  have details :=
    Machine.forward_iff_steps _ OrderedConsole.detailNumber
      (fun run event _ => run.viewing_le_step event) events admissible
  simp only [Machine.run_concat] at lists details
  rw [each]
  constructor
  · intro steps earlier later longer inside
    have list :=
      lists.mpr fun before event start => (steps before event start).1
    have detail :=
      details.mpr fun before event start => (steps before event start).2
    exact
      ⟨list earlier later longer inside, detail earlier later longer inside⟩
  · intro never before event start
    have list :=
      lists.mp fun earlier later longer inside =>
        (never earlier later longer inside).list
    have detail :=
      details.mp fun earlier later longer inside =>
        (never earlier later longer inside).detail
    exact ⟨list before event start, detail before event start⟩

/-- A list read of one cohort, shown as the word for its state. -/
def listOf (state : String) : CohortsRead String where
  cohorts := [state]
  monitoring :=
    some
      { rows := [state]
        metrics := state
        health := none
        operatorActions := none }
  defaults := none

/-- A session has its list on show and a poll of it is out; the operator cancels
the cohort, and the list read that follows goes out. -/
def cancelOverPoll : List (OrderedEvent String) :=
  [ .act .signIn,
    .lands ⟨.signIn, 0⟩ 1 (.login (some 200)),
    .lands ⟨.refreshCohorts (some 1) none, 1⟩ 2 (.cohorts (.ok (listOf "open"))),
    .act .refreshCohorts,
    .act (.verb (.cancelCohort 1)),
    .lands ⟨.verb (.cancelCohort 1) (some 1), 3⟩ 3 (.verb .done) ]

/-- The answer to the poll, from before the cancel. -/
def pollAnswered (now : Nat) : OrderedEvent String :=
  .lands ⟨.refreshCohorts (some 1) none, 2⟩ now (.cohorts (.ok (listOf "open")))

/-- The answer to the read that follows the cancel. -/
def cancelReread (now : Nat) : OrderedEvent String :=
  .lands ⟨.refreshCohorts (some 1) none, 4⟩ now
    (.cohorts (.ok (listOf "canceled")))

theorem neverBack_iff_letsThroughInOrder_pollFirst :
    ((orderedConsole String).run (cancelOverPoll ++ [pollAnswered 4])).NeverBack
      ((orderedConsole String).run
        (cancelOverPoll ++ [pollAnswered 4, cancelReread 5])) :=
  (neverBack_iff_letsThroughInOrder
      (cancelOverPoll ++ [pollAnswered 4, cancelReread 5])
      (by decide +kernel)).mp
    (by decide +kernel) _ _ ⟨[cancelReread 5], rfl⟩ (List.prefix_refl _)

/-- The poll's answer lands last, and the list is that of before the cancel. -/
theorem not_neverBack_pollLast :
    ¬ ∀ events : List (OrderedEvent String),
        (orderedConsole String).Admits events →
          ∀ earlier later, earlier <+: later → later <+: events →
            ((orderedConsole String).run earlier).NeverBack
              ((orderedConsole String).run later) := by
  intro claimed
  have never :=
    claimed (cancelOverPoll ++ [cancelReread 4, pollAnswered 5])
      (by decide +kernel) (cancelOverPoll ++ [cancelReread 4]) _
      ⟨[pollAnswered 5], rfl⟩ (List.prefix_refl _)
  have behind := never.list (by decide +kernel)
  exact absurd behind (by decide +kernel)

end Order

end Btcr2Aggregation
