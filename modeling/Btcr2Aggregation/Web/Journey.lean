import Btcr2Aggregation.Web.ReadFrames

/-!
# The stage of a journey

The stage is not stored: it is derived from facts that unrelated handlers
write.  Each event moves these facts in one of a few ways, and each of these
ways leaves the stage, raises it, or lowers it under a condition that can be
read off the facts.
-/

namespace Btcr2Aggregation

section Stages

/-! ## Stages -/

inductive StepStatus where
  | idle
  | active
  | done
  | failed
  deriving DecidableEq, Repr

/-- `steps`. -/
structure Steps where
  join : StepStatus
  submit : StepStatus
  sign : StepStatus
  anchored : StepStatus
  deriving DecidableEq, Repr

/-- `INITIAL_STEPS`. -/
def initialSteps : Steps where
  join := .idle
  submit := .idle
  sign := .idle
  anchored := .idle

def failStep (status : StepStatus) : StepStatus :=
  if status = .active then .failed else status

/-- Without an active step the join is what failed, unless it is done. -/
def failActiveStep (steps : Steps) : Steps :=
  if
    steps.join = .active ∨ steps.submit = .active ∨ steps.sign = .active ∨
      steps.anchored = .active then
    { join := failStep steps.join
      submit := failStep steps.submit
      sign := failStep steps.sign
      anchored := failStep steps.anchored }
  else if steps.join ≠ .done then
    { steps with join := .failed }
  else
    steps

inductive Stage where
  | waitingForSeats
  | seated
  | submitWindow
  | coSigning
  | signed
  | anchored
  | resolved
  deriving DecidableEq, Repr

namespace Stage

def rank : Stage → Nat
  | .waitingForSeats => 0
  | .seated => 1
  | .submitWindow => 2
  | .coSigning => 3
  | .signed => 4
  | .anchored => 5
  | .resolved => 6

instance : Preorder Stage :=
  Preorder.lift rank

instance (stage other : Stage) : Decidable (stage ≤ other) :=
  inferInstanceAs (Decidable (stage.rank ≤ other.rank))

end Stage

structure StageInput where
  status : ParticipantStatus
  optedIn : Bool
  seated : Bool
  pendingSubmit : Bool
  steps : Steps
  anchor : Option AnchorDTO
  resolveStatus : ResolutionStatus
  deriving DecidableEq, Repr

def AnchorDTO.confirms (anchor : AnchorDTO) : Bool :=
  anchor.enabled = true ∧ anchor.state = .confirmed

def deriveStage (state : StageInput) : Stage :=
  if state.resolveStatus = .resolved then
    .resolved
  else if state.status = .complete then
    if state.anchor.any AnchorDTO.confirms then .anchored else .signed
  else if state.pendingSubmit then
    .submitWindow
  else if state.steps.submit = .done then
    .coSigning
  else if state.seated then
    .seated
  else
    .waitingForSeats

/-- The facts a stage goes by. -/
structure StageFlags where
  resolved : Bool
  complete : Bool
  confirmed : Bool
  pending : Bool
  submitted : Bool
  seated : Bool
  deriving DecidableEq, Repr

def StageInput.flags (state : StageInput) : StageFlags where
  resolved := state.resolveStatus = .resolved
  complete := state.status = .complete
  confirmed := state.anchor.any AnchorDTO.confirms
  pending := state.pendingSubmit
  submitted := state.steps.submit = .done
  seated := state.seated

def StageFlags.stage (flags : StageFlags) : Stage :=
  if flags.resolved then
    .resolved
  else if flags.complete then
    if flags.confirmed then .anchored else .signed
  else if flags.pending then
    .submitWindow
  else if flags.submitted then
    .coSigning
  else if flags.seated then
    .seated
  else
    .waitingForSeats

theorem deriveStage_eq (state : StageInput) :
    deriveStage state = state.flags.stage := by
  by_cases resolved : state.resolveStatus = .resolved
  · simp [deriveStage, StageFlags.stage, StageInput.flags, resolved]
  · by_cases complete : state.status = .complete
    · simp [deriveStage, StageFlags.stage, StageInput.flags, resolved, complete]
    · by_cases submitted : state.steps.submit = .done
      · simp [deriveStage, StageFlags.stage, StageInput.flags, resolved,
          complete, submitted]
      · simp [deriveStage, StageFlags.stage, StageInput.flags, resolved,
          complete, submitted]

end Stages

section Moves

/-! ## Moves -/

/-- What an event does to the facts of a stage. -/
inductive StageMove where
  | stays
  | joins
  | seats
  | opensWindow
  | closesWindow
  | submits
  | completes
  | fails
  | shows (confirmed alsoAsks : Bool)
  | asks
  | resolves
  | resolveFails
  deriving DecidableEq, Repr

namespace StageMove

def apply : StageMove → StageFlags → StageFlags
  | .stays, flags => flags
  | .joins, flags => { flags with submitted := false }
  | .seats, flags => { flags with seated := true }
  | .opensWindow, flags => { flags with pending := true }
  | .closesWindow, flags => { flags with pending := false }
  | .submits, flags => { flags with submitted := true }
  | .completes, flags => { flags with complete := true, pending := false }
  | .fails, flags => { flags with complete := false, pending := false }
  | .shows confirmed alsoAsks, flags =>
      { flags with
        confirmed
        resolved := if alsoAsks then false else flags.resolved }
  | .asks, flags => { flags with resolved := false }
  | .resolves, flags => { flags with resolved := true }
  | .resolveFails, flags => { flags with resolved := false }

/-- When a move does not lower the stage. -/
def Keeps : StageMove → StageFlags → Prop
  | .joins, flags => flags.stage ≠ .coSigning
  | .opensWindow, flags => flags.stage ≠ .coSigning
  | .closesWindow, flags => flags.stage = .submitWindow → flags.submitted = true
  | .fails, flags =>
      flags.stage = .resolved ∨
        flags.complete = false ∧
          (flags.stage = .submitWindow → flags.submitted = true)
  | .shows confirmed alsoAsks, flags =>
      (flags.stage = .anchored → confirmed = true) ∧
        (flags.stage = .resolved → alsoAsks = false)
  | .asks, flags => flags.stage ≠ .resolved
  | .resolveFails, flags => flags.stage ≠ .resolved
  | _, _ => True

instance decidableKeeps :
    ∀ (move : StageMove) (flags : StageFlags), Decidable (move.Keeps flags)
  | .stays, _ => isTrue trivial
  | .joins, flags => inferInstanceAs (Decidable (flags.stage ≠ .coSigning))
  | .seats, _ => isTrue trivial
  | .opensWindow, flags =>
      inferInstanceAs (Decidable (flags.stage ≠ .coSigning))
  | .closesWindow, flags =>
      inferInstanceAs
        (Decidable (flags.stage = .submitWindow → flags.submitted = true))
  | .submits, _ => isTrue trivial
  | .completes, _ => isTrue trivial
  | .fails, flags =>
      inferInstanceAs
        (Decidable
          (flags.stage = .resolved ∨
            flags.complete = false ∧
              (flags.stage = .submitWindow → flags.submitted = true)))
  | .shows confirmed alsoAsks, flags =>
      inferInstanceAs
        (Decidable
          ((flags.stage = .anchored → confirmed = true) ∧
            (flags.stage = .resolved → alsoAsks = false)))
  | .asks, flags => inferInstanceAs (Decidable (flags.stage ≠ .resolved))
  | .resolves, _ => isTrue trivial
  | .resolveFails, flags =>
      inferInstanceAs (Decidable (flags.stage ≠ .resolved))

theorem keeps_iff (move : StageMove) (flags : StageFlags) :
    move.Keeps flags ↔ flags.stage ≤ (move.apply flags).stage := by
  obtain ⟨resolved, complete, confirmed, pending, submitted, seated⟩ := flags
  cases move with
  | shows anchorConfirmed alsoAsks =>
      revert anchorConfirmed alsoAsks resolved complete confirmed pending submitted
        seated
      decide
  | _ =>
      revert resolved complete confirmed pending submitted seated
      decide

end StageMove

end Moves

section Pages

/-! ## Pages with their steps -/

structure JourneyPage where
  reads : ResolvePage
  steps : Steps

namespace JourneyPage

def fresh : JourneyPage where
  reads := ResolvePage.fresh
  steps := initialSteps

def stageInput (state : JourneyPage) : StageInput where
  status := state.reads.page.facts.status
  optedIn := state.reads.page.facts.optedIn
  seated := state.reads.page.facts.seated
  pendingSubmit := state.reads.page.facts.pendingSubmit
  steps := state.steps
  anchor := state.reads.anchor
  resolveStatus := state.reads.resolveStatus

def stage (state : JourneyPage) : Stage :=
  deriveStage state.stageInput

def flags (state : JourneyPage) : StageFlags :=
  state.stageInput.flags

def round (state : JourneyPage) : RoundId :=
  state.reads.page.round

end JourneyPage

/-- What an event of the page does to the steps: every new round starts over,
and a failure marks the step it struck. -/
def Steps.after
    (config : PageConfig) (page : Page) (event : PageEvent) (steps : Steps) :
    Steps :=
  if (page.step config event).round ≠ page.round then
    initialSteps
  else
    match event with
    | .runner _ (.cohortJoined _) =>
        if page.facts.status.ended then
          steps
        else
          { steps with join := .done, submit := .active }
    | .runner _ (.updateSubmitted _) =>
        { steps with submit := .done, sign := .active }
    | .runner _ (.updateDeclined _) => { steps with submit := .done }
    | .runner _ (.cohortComplete _) =>
        { steps with sign := .done, anchored := .done }
    | .startResolved participant =>
        if
          page.live ≠ some participant ∨ page.facts.seated = true ∨
            page.facts.status.ended = true then
          steps
        else
          { steps with join := .active }
    | event =>
        if event.tearsDown config page then failActiveStep steps else steps

namespace JourneyPage

def step (config : PageConfig) (state : JourneyPage) (event : ResolveEvent) :
    JourneyPage where
  reads := state.reads.step config event
  steps :=
    match event with
    | .page event => state.steps.after config state.reads.page event
    | _ => state.steps

end JourneyPage

def journeyMachine (config : PageConfig) : Machine JourneyPage ResolveEvent where
  init := JourneyPage.fresh
  step := JourneyPage.step config
  admits state event := state.reads.Offers config event

instance (config : PageConfig) (state : JourneyPage) (event : ResolveEvent) :
    Decidable ((journeyMachine config).admits state event) :=
  state.reads.decidableOffers config event

end Pages

section PageMoves

/-! ## Moves of the page -/

def RunnerEvent.move (status : ParticipantStatus) : RunnerEvent → StageMove
  | .cohortJoined _ => if status.ended then .stays else .joins
  | .cohortReady _ _ => .seats
  | .updateSubmitted _ => .submits
  | .updateDeclined _ => .submits
  | .cohortComplete _ => .completes
  | .cohortFailed _ _ => .fails
  | .error _ => if status.underWay then .fails else .stays
  | _ => .stays

/-- The move of an event that begins no round. -/
def PageEvent.move (config : PageConfig) (page : Page) :
    PageEvent → StageMove
  | .submitUpdate => .closesWindow
  | .provideUpdate participant cohortId beaconAddress randomness =>
      if
        page.opensGate config participant cohortId beaconAddress
          randomness then
        .opensWindow
      else
        .stays
  | .runner _ event => event.move page.facts.status
  | event => if event.tearsDown config page then .fails else .stays

/-- The page's own facts of a stage. -/
structure PageStageFacts where
  complete : Bool
  pending : Bool
  seated : Bool
  deriving DecidableEq

def Page.stageFacts (page : Page) : PageStageFacts where
  complete := page.facts.status = .complete
  pending := page.facts.pendingSubmit
  seated := page.facts.seated

/-- The facts of a failed round. -/
def PageStageFacts.failed (facts : PageStageFacts) : PageStageFacts where
  complete := false
  pending := false
  seated := facts.seated

theorem Page.stageFacts_fail (reason : String) (page : Page) :
    (page.fail reason).stageFacts = page.stageFacts.failed := by
  rw [Page.fail_eq]
  rfl

/-- What a handler that may fail leaves of the facts: the new status tells
whether it did. -/
theorem Page.stageFacts_of_failsOrKeeps
    {before after : Page} (handled : before.FailsOrKeeps after) :
    after.stageFacts =
      if
        before.facts.status ≠ .failed ∧ after.facts.status = .failed then
        before.stageFacts.failed
      else
        before.stageFacts := by
  obtain ⟨seated, ⟨-, status, pending⟩ | ⟨running, -, failed, pending⟩⟩ := handled
  · rw [status, if_neg (fun both => both.1 both.2)]
    simp only [Page.stageFacts, status, pending, seated]
  · rw [if_pos ⟨running, failed⟩]
    simp only [Page.stageFacts, PageStageFacts.failed, failed, pending, seated,
      reduceCtorEq, decide_false]

private theorem Page.stageFacts_of_onlyChain
    {page after : Page} (only : page.OnlyChain after) :
    after.stageFacts = page.stageFacts := by
  rw [only]
  rfl

namespace StageMove

def applyFacts : StageMove → PageStageFacts → PageStageFacts
  | .seats, facts => { facts with seated := true }
  | .opensWindow, facts => { facts with pending := true }
  | .closesWindow, facts => { facts with pending := false }
  | .completes, facts => { facts with complete := true, pending := false }
  | .fails, facts => facts.failed
  | _, facts => facts

def applySubmitted : StageMove → Bool → Bool
  | .joins, _ => false
  | .submits, _ => true
  | _, submitted => submitted

/-- A move of the page leaves what the reads show. -/
def OfPage : StageMove → Prop
  | .shows _ _ => False
  | .asks => False
  | .resolves => False
  | .resolveFails => False
  | _ => True

theorem apply_of_page {move : StageMove} (ofPage : move.OfPage)
    (resolved confirmed submitted : Bool) (facts : PageStageFacts) :
    move.apply
        { resolved
          complete := facts.complete
          confirmed
          pending := facts.pending
          submitted
          seated := facts.seated } =
      { resolved
        complete := (move.applyFacts facts).complete
        confirmed
        pending := (move.applyFacts facts).pending
        submitted := move.applySubmitted submitted
        seated := (move.applyFacts facts).seated } := by
  cases move with
  | shows _ _ => cases ofPage
  | asks => cases ofPage
  | resolves => cases ofPage
  | resolveFails => cases ofPage
  | _ => rfl

theorem ofPage_ite {condition : Prop} [Decidable condition]
    {first second : StageMove} (left : first.OfPage) (right : second.OfPage) :
    (if condition then first else second).OfPage := by
  split
  · exact left
  · exact right

end StageMove

theorem PageEvent.ofPage_move
    (config : PageConfig) (page : Page) (event : PageEvent) :
    (event.move config page).OfPage := by
  have ofPage : ∀ (holds : Bool) (move : StageMove),
      move.OfPage → (if holds then move else .stays).OfPage := by
    intro holds move left
    exact StageMove.ofPage_ite left trivial
  cases event with
  | submitUpdate => trivial
  | provideUpdate participant cohortId beaconAddress randomness =>
      exact ofPage _ .opensWindow trivial
  | runner participant event =>
      cases event with
      | cohortJoined cohortId =>
          have either :
              (if page.facts.status.ended then StageMove.stays
                else .joins).OfPage :=
            StageMove.ofPage_ite trivial trivial
          exact either
      | error message => exact ofPage _ .fails trivial
      | _ => trivial
  | _ =>
      simp only [PageEvent.move]
      exact ofPage _ .fails trivial

theorem RunnerEvent.stageFacts_move
    (config : PageConfig) (participant : RoundId) (event : RunnerEvent)
    (page : Page) :
    (page.onRunnerEvent config participant event).stageFacts =
      (event.move page.facts.status).applyFacts page.stageFacts := by
  cases event with
  | cohortJoined cohortId =>
      simp only [Page.onRunnerEvent, Page.onCohortJoined, RunnerEvent.move]
      by_cases ended : page.facts.status.ended = true
      · simp only [ended, if_true]
        rfl
      · have incomplete : page.facts.status ≠ .complete := by
          intro complete
          rw [complete] at ended
          exact ended rfl
        have facts : page.stageFacts.complete = false :=
          decide_eq_false incomplete
        simp only [ended, Bool.false_eq_true, if_false, StageMove.applyFacts]
        rw [Page.stageFacts, Page.stageFacts]
        simp only [incomplete, decide_false]
        rfl
  | cohortReady cohortId beaconAddress =>
      simp only [Page.onRunnerEvent, Page.onCohortReady_eq]
      rfl
  | cohortComplete info =>
      simp only [Page.onRunnerEvent, Page.onCohortComplete_eq]
      rfl
  | cohortFailed cohortId reason => exact Page.stageFacts_fail reason page
  | error message =>
      simp only [Page.onRunnerEvent, Page.onRunnerError, RunnerEvent.move]
      by_cases underWay : page.facts.status.underWay = true
      · simp only [underWay, if_true]
        exact Page.stageFacts_fail message page
      · simp only [underWay, Bool.false_eq_true, if_false]
        rfl
  | _ => rfl

theorem Page.stageFacts_onProvideUpdate
    (config : PageConfig) (participant : RoundId) (cohortId : CohortId)
    (beaconAddress : String) (randomness : Nat) (page : Page) :
    (page.onProvideUpdate config participant cohortId beaconAddress
        randomness).stageFacts =
      { page.stageFacts with
        pending :=
          page.opensGate config participant cohortId beaconAddress
              randomness ||
            page.stageFacts.pending } := by
  unfold Page.onProvideUpdate Page.opensGate
  cases found : page.participants.lookup participant with
  | none => rfl
  | some record =>
      dsimp only
      cases offered :
          Page.offeredUpdate config record cohortId beaconAddress randomness with
      | mk answer maps =>
          cases answer with
          | error message => rfl
          | ok update =>
              cases update with
              | none => rfl
              | some update => rfl

/-- The move of an event says what becomes of the page's facts. -/
theorem PageEvent.stageFacts_move
    {config : PageConfig} {page : Page} {event : PageEvent}
    (sameRound : (page.step config event).round = page.round) :
    (page.step config event).stageFacts =
      (event.move config page).applyFacts page.stageFacts := by
  have nextRound : page.round + 1 ≠ page.round := Nat.succ_ne_self _
  have handled :
      ∀ after : Page,
        page.FailsOrKeeps after →
          after.stageFacts =
            (if
                decide
                  (page.facts.status ≠ .failed ∧
                    after.facts.status = .failed) = true then
                StageMove.fails
              else
                StageMove.stays).applyFacts
              page.stageFacts := by
    intro after outcome
    rw [Page.stageFacts_of_failsOrKeeps outcome]
    simp only [decide_eq_true_eq]
    split
    · rfl
    · rfl
  cases event with
  | adopt identity => exact absurd sameRound nextRound
  | leave => exact absurd sameRound nextRound
  | startOver => exact absurd sameRound nextRound
  | join cohortId sizing =>
      have kept :
          (PageEvent.join cohortId sizing).move config page = .stays := by
        have stays :
            (PageEvent.join cohortId sizing).tearsDown config page = false := by
          rw [PageEvent.tearsDown, decide_eq_false_iff_not, not_not]
          exact sameRound
        have unfolded :
            (PageEvent.join cohortId sizing).move config page =
              if (PageEvent.join cohortId sizing).tearsDown config page then
                .fails
              else
                .stays :=
          rfl
        rw [unfolded, stays]
        rfl
      rw [kept]
      revert sameRound
      simp only [Page.step, Page.join]
      split
      · exact fun _ => rfl
      · split
        · exact fun _ => rfl
        · split
          · exact fun _ => rfl
          · exact fun sameRound => absurd sameRound nextRound
  | submitUpdate =>
      simp only [Page.step, Page.submitUpdate]
      split
      · rfl
      · rfl
  | startResolved participant =>
      simp only [Page.step, Page.startResolved]
      split
      · rfl
      · rfl
  | startRejected participant message =>
      exact Page.stageFacts_fail message _
  | runner participant event =>
      exact RunnerEvent.stageFacts_move config participant event page
  | provideUpdate participant cohortId beaconAddress randomness =>
      simp only [Page.step, Page.stageFacts_onProvideUpdate, PageEvent.move]
      by_cases opens :
          page.opensGate config participant cohortId beaconAddress
              randomness =
            true
      · simp only [opens, if_true, Bool.true_or]
        rfl
      · simp only [opens, Bool.false_eq_true, if_false, Bool.false_or]
        rfl
  | directoryLands poll answer =>
      exact handled _ (Page.FailsOrKeeps.directoryLands page poll answer)
  | graceFires timer => exact handled _ (Page.FailsOrKeeps.graceFires page timer)
  | postSeatLands poll answer =>
      exact handled _ (Page.FailsOrKeeps.postSeatLands page poll answer)
  | fateLands read canceled =>
      simp only [Page.step, Page.fateLands]
      split
      · rfl
      · rfl
  | termsRecorded acceptance => rfl
  | register acknowledgeMainnet =>
      exact Page.stageFacts_of_onlyChain (page.onlyChain_register config _)
  | setSigningMethod method =>
      exact Page.stageFacts_of_onlyChain (page.onlyChain_setSigningMethod method)
  | exportPsbt => exact Page.stageFacts_of_onlyChain page.onlyChain_exportPsbt
  | submitSignedPsbt input =>
      exact
        Page.stageFacts_of_onlyChain (page.onlyChain_submitSignedPsbt config input)
  | clearPsbt => exact Page.stageFacts_of_onlyChain page.onlyChain_clearPsbt
  | fundsLand call answer randomness =>
      exact
        Page.stageFacts_of_onlyChain (page.onlyChain_fundsLand config call answer _)
  | broadcastLands call answer =>
      exact
        Page.stageFacts_of_onlyChain (page.onlyChain_broadcastLands call answer)
  | exportLands call answer =>
      exact
        Page.stageFacts_of_onlyChain (page.onlyChain_exportLands config call answer)

theorem failActiveStep_submit (steps : Steps) :
    (failActiveStep steps).submit = .done ↔ steps.submit = .done := by
  have struck : failStep steps.submit = .done ↔ steps.submit = .done := by
    cases steps.submit <;> decide
  unfold failActiveStep
  split
  · exact struck
  · split
    · exact Iff.rfl
    · exact Iff.rfl

/-- The move of an event says what becomes of the submit step. -/
theorem PageEvent.submitted_move
    {config : PageConfig} {page : Page} {event : PageEvent} (steps : Steps)
    (sameRound : (page.step config event).round = page.round) :
    decide ((steps.after config page event).submit = .done) =
      (event.move config page).applySubmitted
        (decide (steps.submit = .done)) := by
  have torn :
      ∀ tears : Bool,
        decide
            ((if tears then failActiveStep steps else steps).submit = .done) =
          (if tears then StageMove.fails else .stays).applySubmitted
            (decide (steps.submit = .done)) := by
    intro tears
    cases tears with
    | true =>
        exact decide_eq_decide.mpr (failActiveStep_submit steps)
    | false => rfl
  unfold Steps.after
  rw [if_neg (not_not.mpr sameRound)]
  cases event with
  | submitUpdate => rfl
  | provideUpdate participant cohortId beaconAddress randomness =>
      simp only [PageEvent.move]
      by_cases opens :
          page.opensGate config participant cohortId beaconAddress
              randomness =
            true
      · simp only [opens, if_true]
        rfl
      · simp only [opens, Bool.false_eq_true, if_false]
        rfl
  | startResolved participant =>
      by_cases settled :
          page.live ≠ some participant ∨ page.facts.seated = true ∨
            page.facts.status.ended = true
      · simp only [settled, if_true]
        rfl
      · simp only [settled, if_false]
        rfl
  | runner participant event =>
      cases event with
      | cohortJoined cohortId =>
          simp only [PageEvent.move, RunnerEvent.move]
          by_cases ended : page.facts.status.ended = true
          · simp only [ended, if_true]
            rfl
          · simp only [ended, Bool.false_eq_true, if_false]
            rfl
      | error message =>
          exact torn page.facts.status.underWay
      | cohortFailed cohortId reason => exact torn true
      | _ => rfl
  | _ => exact torn _

end PageMoves

section Law

/-! ## The stage over a run -/

/-- The move of an event that begins no round. -/
def ResolveEvent.move (config : PageConfig) (reads : ResolvePage) :
    ResolveEvent → StageMove
  | .page event => event.move config reads.page
  | .resolve => if reads.canResolve then .asks else .stays
  | .anchorTicks => .stays
  | .anchorLands poll answer =>
      match answer with
      | some anchor =>
          if poll.epoch = reads.anchorEpoch then
            .shows anchor.confirms (reads.autoAsks anchor)
          else
            .stays
      | none => .stays
  | .lagTicks => if reads.lagAsks then .asks else .stays
  | .resolveLands _ answer =>
      match answer with
      | .ok _ => .resolves
      | .error _ => .resolveFails

namespace JourneyPage

/-- An event begins a round, or its move does not lower the stage. -/
def Advances (config : PageConfig) (state : JourneyPage) (event : ResolveEvent) :
    Prop :=
  (state.step config event).round = state.round →
    (event.move config state.reads).Keeps state.flags

instance (config : PageConfig) (state : JourneyPage) (event : ResolveEvent) :
    Decidable (state.Advances config event) :=
  inferInstanceAs (Decidable (_ → _))

variable {config : PageConfig} {state : JourneyPage}

theorem stage_eq (state : JourneyPage) : state.stage = state.flags.stage :=
  deriveStage_eq state.stageInput

/-- The flags are what the reads show and whether the update is in. -/
def flagsOf (view : ReadView) (submitted : Bool) : StageFlags where
  resolved := view.resolveStatus = .resolved
  complete := view.facts.status = .complete
  confirmed := view.anchor.any AnchorDTO.confirms
  pending := view.facts.pendingSubmit
  submitted
  seated := view.facts.seated

theorem flags_eq (state : JourneyPage) :
    state.flags =
      flagsOf state.reads.readView (decide (state.steps.submit = .done)) :=
  rfl

/-- A read that leaves the facts moves the flags by the status of the
resolution it leaves. -/
theorem flags_of_resolveStatus
    (config : PageConfig) (state : JourneyPage) (event : ResolveEvent)
    {resolveStatus : ResolutionStatus}
    (steps : (state.step config event).steps = state.steps)
    (view :
      (state.reads.step config event).readView =
        { state.reads.readView with resolveStatus }) :
    (state.step config event).flags =
      { state.flags with resolved := resolveStatus = .resolved } := by
  rw [flags_eq, flags_eq, steps]
  rw [show (state.step config event).reads = state.reads.step config event from rfl,
    view]
  rfl

theorem flags_asking
    {event : ResolveEvent} {asks : Bool}
    (steps : (state.step config event).steps = state.steps)
    (view :
      (state.reads.step config event).readView =
        { state.reads.readView with
          resolveStatus :=
            if asks then .resolving else state.reads.resolveStatus }) :
    (state.step config event).flags =
      (if asks then StageMove.asks else .stays).apply state.flags := by
  rw [flags_of_resolveStatus config state _ steps view]
  cases asks with
  | true => rfl
  | false => rfl

theorem flags_unchanged
    {event : ResolveEvent}
    (steps : (state.step config event).steps = state.steps)
    (view : (state.reads.step config event).readView = state.reads.readView) :
    (state.step config event).flags = state.flags := by
  rw [flags_eq, flags_eq, steps]
  rw [show (state.step config event).reads = state.reads.step config event from rfl,
    view]

theorem flags_anchorLands (poll : AnchorPoll) (answer : Option AnchorDTO) :
    (state.step config (.anchorLands poll answer)).flags =
      ((ResolveEvent.anchorLands poll answer).move config state.reads).apply
        state.flags := by
  rcases ResolvePage.anchorLands_taken_or_dropped poll answer state.reads with
    ⟨current, anchor, rfl⟩ | dropped
  · have view := ResolvePage.readView_anchorLands_some current anchor
    rw [flags_eq, flags_eq, ResolveEvent.move]
    simp only [step, ResolvePage.step, view, current, if_true]
    cases state.reads.autoAsks anchor with
    | true => rfl
    | false => rfl
  · have stays :
        (ResolveEvent.anchorLands poll answer).move config state.reads =
          .stays := by
      cases answer with
      | none => rfl
      | some anchor =>
          have late : poll.epoch ≠ state.reads.anchorEpoch := by
            intro current
            cases dropped current
          simp only [ResolveEvent.move, late, if_false]
    rw [stays]
    exact flags_unchanged rfl (ResolvePage.readView_anchorLands_of_not dropped)

theorem flags_onPage
    {event : PageEvent}
    (sameRound :
      (state.reads.page.step config event).round = state.reads.page.round) :
    (state.step config (.page event)).flags =
      (event.move config state.reads.page).apply state.flags := by
  have view := ResolvePage.readView_onPage sameRound
  have facts := PageEvent.stageFacts_move sameRound
  have submitted := PageEvent.submitted_move state.steps sameRound
  have ofPage := PageEvent.ofPage_move config state.reads.page event
  have before :=
    StageMove.apply_of_page ofPage state.flags.resolved state.flags.confirmed
      state.flags.submitted state.reads.page.stageFacts
  rw [← facts] at before
  have after :
      (state.step config (.page event)).flags =
        { resolved := state.flags.resolved
          complete := (state.reads.page.step config event).stageFacts.complete
          confirmed := state.flags.confirmed
          pending := (state.reads.page.step config event).stageFacts.pending
          submitted :=
            decide
              ((state.steps.after config state.reads.page event).submit = .done)
          seated := (state.reads.page.step config event).stageFacts.seated } := by
    rw [flags_eq]
    simp only [step, ResolvePage.step, view]
    rfl
  rw [after, submitted]
  exact before.symm

/-- The move of an event says what becomes of the flags. -/
theorem flags_step
    {event : ResolveEvent}
    (sameRound : (state.step config event).round = state.round) :
    (state.step config event).flags =
      (event.move config state.reads).apply state.flags := by
  cases event with
  | page event =>
      have moved := ResolvePage.page_onPage config event state.reads
      exact flags_onPage ((congrArg Page.round moved).symm.trans sameRound)
  | resolve =>
      exact flags_asking rfl (ResolvePage.readView_resolve .manual state.reads)
  | anchorTicks =>
      exact flags_unchanged rfl (ResolvePage.readView_anchorTicks config state.reads)
  | anchorLands poll answer => exact flags_anchorLands poll answer
  | lagTicks => exact flags_asking rfl (ResolvePage.readView_lagTicks state.reads)
  | resolveLands read answer =>
      have view := ResolvePage.readView_resolveLands read answer state.reads
      have flags :=
        flags_of_resolveStatus config state (.resolveLands read answer) rfl view
      rw [flags]
      cases answer with
      | ok didDocument => rfl
      | error message => rfl

/-- An event advances exactly when the stage does not fall within its round. -/
theorem advances_iff (event : ResolveEvent) :
    state.Advances config event ↔
      ((state.step config event).round = state.round →
        state.stage ≤ (state.step config event).stage) := by
  apply forall_congr'
  intro sameRound
  rw [StageMove.keeps_iff, stage_eq, stage_eq, flags_step sameRound]

theorem round_le_step
    {event : ResolveEvent} (offered : state.reads.Offers config event) :
    state.round ≤ (state.step config event).round := by
  have kept :
      ∀ after : ReadView,
        (state.reads.step config event).readView = after →
          after.round = state.reads.page.round →
            state.round ≤ (state.step config event).round := by
    intro after view round
    exact Nat.le_of_eq ((congrArg ReadView.round view).trans round).symm
  cases event with
  | page event =>
      have moved := congrArg Page.round (ResolvePage.page_onPage config event state.reads)
      have round :
          (state.step config (.page event)).round =
            (state.reads.page.step config event).round :=
        moved
      rw [round]
      rcases Page.stays_or_next offered with ⟨same, _⟩ | ⟨next, _⟩
      · exact Nat.le_of_eq same.symm
      · rw [next]
        exact Nat.le_succ _
  | resolve => exact kept _ (ResolvePage.readView_resolve .manual state.reads) rfl
  | anchorTicks =>
      exact kept _ (ResolvePage.readView_anchorTicks config state.reads) rfl
  | anchorLands poll answer =>
      rcases
        ResolvePage.anchorLands_taken_or_dropped poll answer state.reads with
        ⟨current, anchor, rfl⟩ | dropped
      · exact kept _ (ResolvePage.readView_anchorLands_some current anchor) rfl
      · exact kept _ (ResolvePage.readView_anchorLands_of_not dropped) rfl
  | lagTicks => exact kept _ (ResolvePage.readView_lagTicks state.reads) rfl
  | resolveLands read answer =>
      exact kept _ (ResolvePage.readView_resolveLands read answer state.reads) rfl

end JourneyPage

/-- The runs whose stage never falls within a round are those whose events
advance. -/
theorem stageForward_iff_advances
    (config : PageConfig) (events : List ResolveEvent)
    (admitted : (journeyMachine config).Admits events) :
    ((journeyMachine config).restrict (JourneyPage.Advances config)).Admits
        events ↔
      ∀ earlier later, earlier <+: later → later <+: events →
        ((journeyMachine config).run earlier).round =
            ((journeyMachine config).run later).round →
          ((journeyMachine config).run earlier).stage ≤
            ((journeyMachine config).run later).stage := by
  have always : (journeyMachine config).Always fun _ => True :=
    fun _ _ => trivial
  apply Machine.admits_restrict_iff_forward always
  · exact fun state event offered => JourneyPage.round_le_step offered
  · exact fun state event _ _ => JourneyPage.advances_iff event
  · exact admitted

def firstBroadcastAnchor : AnchorDTO :=
  { confirmedAnchor with state := .broadcast }

/-- A round on a live service from its join to its resolution. -/
def wholeJourney : List ResolveEvent :=
  [ .page (.adopt { did := "did:a", keys := "k1", genesisDocument := none }),
    .page (.join 7 none),
    .page (.runner 2 (.cohortJoined 7)),
    .page (.runner 2 (.cohortReady 7 "b")),
    .page (.runner 2 (.updateDeclined 7)),
    .page
      (.runner 2
        (.cohortComplete
          { cohortId := 7
            beaconAddress := "b"
            beaconType := .casBeacon
            included := false
            announcementEntries := 1 })),
    .anchorLands ⟨3, 7, 2⟩ (some firstBroadcastAnchor),
    .anchorTicks,
    .anchorLands ⟨3, 7, 2⟩ (some confirmedAnchor),
    .resolveLands anchoredRead
      (.ok { id := "did:a", verificationMethod := [], service := [] }) ]

theorem stageForward_iff_advances_resolved :
    ((journeyMachine plainConfig).run wholeJourney).stage = .resolved ∧
      ∀ earlier later, earlier <+: later → later <+: wholeJourney →
        ((journeyMachine plainConfig).run earlier).round =
            ((journeyMachine plainConfig).run later).round →
          ((journeyMachine plainConfig).run earlier).stage ≤
            ((journeyMachine plainConfig).run later).stage := by
  have exactly :=
    stageForward_iff_advances plainConfig wholeJourney (by decide +kernel)
  exact ⟨by decide +kernel, exactly.mp (by decide +kernel)⟩

/-- The participant resolves once more: the stage falls back. -/
theorem not_stageForward_resolvedAgain :
    ¬∀ events,
        (journeyMachine plainConfig).Admits events →
          ∀ earlier later, earlier <+: later → later <+: events →
            ((journeyMachine plainConfig).run earlier).round =
                ((journeyMachine plainConfig).run later).round →
              ((journeyMachine plainConfig).run earlier).stage ≤
                ((journeyMachine plainConfig).run later).stage := by
  intro claimed
  have forward :=
    claimed (wholeJourney ++ [.resolve]) (by decide +kernel) wholeJourney
      (wholeJourney ++ [.resolve]) (List.prefix_append _ _) (List.prefix_refl _)
      (by decide +kernel)
  revert forward
  decide +kernel

end Law

end Btcr2Aggregation
