import Btcr2Aggregation.Web.RegistrationIsolation
import Btcr2Aggregation.Web.ResolveReads

/-!
# Resolutions belong to their round

A held resolution answers a request of the round in hand, and what the anchor
poll and its retry ask for by themselves is asked in their own round, while the
poll runs or within the retry's bound.  `StaysInRound` sets apart the two
things the page does not guard: a resolution that lands after its round, and an
identity adopted over a poll or a retry that is still set.
-/

namespace Btcr2Aggregation

section Laws

/-! ## The law and its condition -/

/-- The held resolution answers a request for the DID in hand, made in the
round in hand. -/
def ResolvePage.HoldsOwn (state : ResolvePage) : Prop :=
  state.resolveStatus = .resolved →
    ∃ resolution,
      state.resolution = some resolution ∧
        resolution.answers ∈ state.requests ∧
        resolution.answers.round = state.page.round ∧
        state.page.identity.map Identity.did = some resolution.answers.did

/-- How often a cause has asked. -/
def asks (cause : ResolveCause) (requests : List ResolveRead) : Nat :=
  (requests.map ResolveRead.cause).count cause

/-- What was asked for automatically: a poll asks at most once, in its round
and before it freezes, and its retry in the same round, within its bound. -/
structure AutomaticInRound (requests : List ResolveRead) : Prop where
  anchored :
    ∀ read ∈ requests, ∀ poll,
      read.cause = .anchor poll →
        read.round = poll.round ∧ read.anchorEpoch = poll.epoch
  once : ∀ poll, asks (.anchor poll) requests ≤ 1
  lagging :
    ∀ read ∈ requests, ∀ poll,
      read.cause = .lag poll → read.round = poll.round
  bounded : ∀ poll, asks (.lag poll) requests < resolveLagMaxAttempts

structure ResolutionLaw (state : ResolvePage) : Prop where
  own : state.HoldsOwn
  automatic : AutomaticInRound state.requests

/-- A resolution lands in the round it was asked in, and no identity is adopted
while a poll or a retry is set. -/
def StaysInRound (state : ResolvePage) : ResolveEvent → Prop
  | .resolveLands read (.ok _) => read.round = state.page.round
  | .page (.adopt _) =>
      state.anchorPoll = none ∧ state.resolveLagRetry = none
  | _ => True

instance decidableStaysInRound (state : ResolvePage) :
    ∀ event, Decidable (StaysInRound state event) := by
  intro event
  induction event using ResolveEvent.casesOn with
  | resolveLands read answer =>
      cases answer with
      | ok => exact inferInstanceAs (Decidable (read.round = state.page.round))
      | error => exact isTrue trivial
  | page event =>
      induction event using PageEvent.casesOn with
      | adopt =>
          exact
            inferInstanceAs
              (Decidable
                (state.anchorPoll = none ∧ state.resolveLagRetry = none))
      | _ => exact isTrue trivial
  | _ => exact isTrue trivial

end Laws

section PageSteps

/-! ## Rounds of the page -/

/-- A step stays in its round with its identity. -/
def Page.Stays (before after : Page) : Prop :=
  after.round = before.round ∧ after.identity = before.identity

namespace Page.Stays

variable {page after : Page}

theorem of_leavesChain (leaves : LeavesChain page after) : page.Stays after :=
  ⟨congrArg ChainView.round leaves.chain,
    congrArg ChainView.identity leaves.chain⟩

theorem of_onlyChain (only : page.OnlyChain after) : page.Stays after := by
  rw [only]
  exact ⟨rfl, rfl⟩

end Page.Stays

/-- A step stays in the round, or it begins the next one, and then the runner
is torn down unless an identity was adopted. -/
theorem Page.stays_or_next
    {config : PageConfig} {page : Page} {event : PageEvent}
    (offered : page.Offers config event) :
    page.Stays (page.step config event) ∨
      ((page.step config event).round = page.round + 1 ∧
        ((∃ identity, event = .adopt identity) ∨
          event.tearsDown config page = true)) := by
  cases event with
  | adopt identity => exact .inr ⟨rfl, .inl ⟨identity, rfl⟩⟩
  | termsRecorded acceptance => exact .inl ⟨rfl, rfl⟩
  | join cohortId sizing =>
      have joins :
          page.Stays (page.join config cohortId sizing) ∨
            ∃ identity,
              page.join config cohortId sizing =
                page.beginJoin identity cohortId sizing := by
        unfold Page.join
        split
        · exact .inl ⟨rfl, rfl⟩
        · split
          · exact .inl ⟨rfl, rfl⟩
          · split
            · exact .inl ⟨rfl, rfl⟩
            · exact .inr ⟨_, rfl⟩
      rcases joins with stays | ⟨identity, joined⟩
      · exact .inl stays
      · have next :
            (page.join config cohortId sizing).round = page.round + 1 := by
          rw [joined]
          rfl
        refine .inr ⟨next, .inr ?_⟩
        rw [PageEvent.tearsDown, decide_eq_true_eq]
        exact fun same => absurd (next.symm.trans same) (Nat.succ_ne_self _)
  | leave => exact .inr ⟨rfl, .inr rfl⟩
  | startOver => exact .inr ⟨rfl, .inr rfl⟩
  | submitUpdate =>
      exact .inl (.of_leavesChain (LeavesChain.submitUpdate page))
  | register acknowledgeMainnet =>
      exact .inl (.of_onlyChain (page.onlyChain_register config _))
  | setSigningMethod method =>
      exact .inl (.of_onlyChain (page.onlyChain_setSigningMethod method))
  | exportPsbt => exact .inl (.of_onlyChain page.onlyChain_exportPsbt)
  | submitSignedPsbt input =>
      exact .inl (.of_onlyChain (page.onlyChain_submitSignedPsbt config input))
  | clearPsbt => exact .inl (.of_onlyChain page.onlyChain_clearPsbt)
  | startResolved participant =>
      exact .inl (.of_leavesChain (LeavesChain.startResolved page participant))
  | startRejected participant message =>
      exact
        .inl
          (.of_leavesChain
            (LeavesChain.startRejected page participant message))
  | runner participant event =>
      left
      by_cases completes : ∃ info, event = .cohortComplete info
      · obtain ⟨info, rfl⟩ := completes
        simp only [Page.step, Page.onRunnerEvent, Page.onCohortComplete_eq]
        exact ⟨rfl, rfl⟩
      · have narrates : ∀ info, event ≠ .cohortComplete info :=
          fun info same => completes ⟨info, same⟩
        exact .of_leavesChain (LeavesChain.onRunnerEvent page narrates)
  | provideUpdate participant cohortId beaconAddress randomness =>
      exact
        .inl
          (.of_leavesChain
            (LeavesChain.onProvideUpdate page config participant cohortId
              beaconAddress randomness))
  | directoryLands poll answer =>
      have writes := page.pollWrote_directoryLands poll answer
      exact .inl (.of_leavesChain (LeavesChain.pollWrote page writes))
  | graceFires timer =>
      have writes := page.pollWrote_graceFires offered.1
      exact .inl (.of_leavesChain (LeavesChain.pollWrote page writes))
  | postSeatLands poll answer =>
      have writes := page.pollWrote_postSeatLands poll answer
      exact .inl (.of_leavesChain (LeavesChain.pollWrote page writes))
  | fateLands read canceled =>
      have writes := page.pollWrote_fateLands read canceled
      exact .inl (.of_leavesChain (LeavesChain.pollWrote page writes))
  | fundsLand call answer randomness =>
      exact
        .inl (.of_onlyChain (page.onlyChain_fundsLand config call answer _))
  | broadcastLands call answer =>
      exact .inl (.of_onlyChain (page.onlyChain_broadcastLands call answer))
  | exportLands call answer =>
      exact .inl (.of_onlyChain (page.onlyChain_exportLands config call answer))

/-- A handler that may fail: it leaves the runner, the status and the seat with
its submit gate, or it fails a round that had not failed, forgets the runner and
shuts the gate. -/
def Page.FailsOrKeeps (before after : Page) : Prop :=
  after.facts.seated = before.facts.seated ∧
    ((after.live = before.live ∧ after.facts.status = before.facts.status ∧
        after.facts.pendingSubmit = before.facts.pendingSubmit) ∨
      (before.facts.status ≠ .failed ∧ after.live = none ∧
        after.facts.status = .failed ∧ after.facts.pendingSubmit = false))

namespace Page.FailsOrKeeps

variable (page : Page)

theorem pollWrite
    {page after : Page} {participant : RoundId}
    (writes : PollWrite participant page after) :
    page.FailsOrKeeps after := by
  cases writes with
  | fail reason running =>
      rw [Page.fail_eq]
      exact ⟨rfl, .inr ⟨running, rfl, rfl, rfl⟩⟩
  | _ => exact ⟨rfl, .inl ⟨rfl, rfl, rfl⟩⟩

/-- A round that a write failed stays failed under the writes after it. -/
theorem trans
    {page middle after : Page} (first : page.FailsOrKeeps middle)
    (second : middle.FailsOrKeeps after) : page.FailsOrKeeps after := by
  refine ⟨second.1.trans first.1, ?_⟩
  rcases second.2 with ⟨live, status, pending⟩ | ⟨running, failed⟩
  · rw [live, status, pending]
    exact first.2
  · rcases first.2 with ⟨-, status, -⟩ | ⟨-, -, status, -⟩
    · exact .inr ⟨status ▸ running, failed⟩
    · exact absurd status running

theorem pollWrote
    {page after : Page} {participant : RoundId}
    (writes : Page.PollWrote participant page after) :
    page.FailsOrKeeps after := by
  induction writes with
  | refl => exact ⟨rfl, .inl ⟨rfl, rfl, rfl⟩⟩
  | tail _ last inductionHypothesis =>
      exact inductionHypothesis.trans (pollWrite last)

theorem directoryLands
    (poll : Poll) (answer : Option (List DirectoryCohortDTO)) :
    page.FailsOrKeeps (page.directoryLands poll answer) :=
  pollWrote (page.pollWrote_directoryLands poll answer)

theorem postSeatLands
    (poll : Poll) (answer : Option (List DirectoryCohortDTO)) :
    page.FailsOrKeeps (page.postSeatLands poll answer) :=
  pollWrote (page.pollWrote_postSeatLands poll answer)

theorem graceFires (timer : GraceTimer) :
    page.FailsOrKeeps (page.graceFires timer) := by
  unfold Page.graceFires
  split
  · next guards =>
    have running : page.facts.status ≠ .failed := by
      intro failed
      rw [failed] at guards
      cases guards.2
    rw [Page.fail_eq]
    exact ⟨rfl, .inr ⟨running, rfl, rfl, rfl⟩⟩
  · exact ⟨rfl, .inl ⟨rfl, rfl, rfl⟩⟩

end Page.FailsOrKeeps

private theorem Page.live_of_onlyChain
    {page after : Page} (only : page.OnlyChain after) :
    after.live = page.live := by
  rw [only]

/-- `tearsDown` is where the page forgets its runner: an event that does not
tear down leaves it. -/
theorem PageEvent.live_of_not_tearsDown
    {config : PageConfig} {page : Page} {event : PageEvent}
    (kept : event.tearsDown config page = false) :
    (page.step config event).live = page.live := by
  have handled :
      ∀ after : Page,
        page.FailsOrKeeps after →
          decide (page.facts.status ≠ .failed ∧ after.facts.status = .failed) =
            false →
          after.live = page.live := by
    intro after outcome notFailed
    rcases outcome.2 with ⟨live, -⟩ | ⟨running, -, failed, -⟩
    · exact live
    · exact absurd ⟨running, failed⟩ (of_decide_eq_false notFailed)
  cases event with
  | adopt identity => rfl
  | termsRecorded acceptance => rfl
  | join cohortId sizing =>
      have sameRound :
          (page.join config cohortId sizing).round = page.round := by
        have undecided := of_decide_eq_false kept
        exact Decidable.not_not.mp undecided
      revert sameRound
      simp only [Page.step, Page.join]
      split
      · exact fun _ => rfl
      · split
        · exact fun _ => rfl
        · split
          · exact fun _ => rfl
          · exact fun sameRound => absurd sameRound (Nat.succ_ne_self _)
  | leave => cases kept
  | startOver => cases kept
  | startRejected participant message => cases kept
  | submitUpdate =>
      simp only [Page.step, Page.submitUpdate]
      split
      · rfl
      · rfl
  | register acknowledgeMainnet =>
      exact Page.live_of_onlyChain (page.onlyChain_register config _)
  | setSigningMethod method =>
      exact Page.live_of_onlyChain (page.onlyChain_setSigningMethod method)
  | exportPsbt => exact Page.live_of_onlyChain page.onlyChain_exportPsbt
  | submitSignedPsbt input =>
      exact Page.live_of_onlyChain (page.onlyChain_submitSignedPsbt config input)
  | clearPsbt => exact Page.live_of_onlyChain page.onlyChain_clearPsbt
  | startResolved participant =>
      simp only [Page.step, Page.startResolved]
      split
      · rfl
      · rfl
  | runner participant event =>
      cases event with
      | cohortComplete info => cases kept
      | cohortFailed cohortId reason => cases kept
      | error message =>
          simp only [Page.step, Page.onRunnerEvent, Page.onRunnerError]
          have idle : page.facts.status.underWay = false := kept
          rw [if_neg (Bool.eq_false_iff.mp idle)]
      | cohortJoined cohortId =>
          simp only [Page.step, Page.onRunnerEvent, Page.onCohortJoined]
          split
          · rfl
          · rfl
      | cohortReady cohortId beaconAddress =>
          simp only [Page.step, Page.onRunnerEvent, Page.onCohortReady_eq]
      | _ => rfl
  | provideUpdate participant cohortId beaconAddress randomness =>
      simp only [Page.step, Page.onProvideUpdate]
      split
      · rfl
      · split
        · rfl
        · rfl
        · rfl
  | directoryLands poll answer =>
      exact
        handled _ (Page.FailsOrKeeps.directoryLands page poll answer) kept
  | graceFires timer =>
      exact handled _ (Page.FailsOrKeeps.graceFires page timer) kept
  | postSeatLands poll answer =>
      exact handled _ (Page.FailsOrKeeps.postSeatLands page poll answer) kept
  | fateLands read canceled =>
      simp only [Page.step, Page.fateLands]
      split
      · rfl
      · rfl
  | fundsLand call answer randomness =>
      exact Page.live_of_onlyChain (page.onlyChain_fundsLand config call answer _)
  | broadcastLands call answer =>
      exact Page.live_of_onlyChain (page.onlyChain_broadcastLands call answer)
  | exportLands call answer =>
      exact Page.live_of_onlyChain (page.onlyChain_exportLands config call answer)

/-- An event that tears down leaves no runner but the one a join makes. -/
theorem PageEvent.live_of_tearsDown
    {config : PageConfig} {page : Page} {event : PageEvent}
    (torn : event.tearsDown config page = true) :
    (page.step config event).live = none ∨
      ∃ cohortId sizing, event = .join cohortId sizing := by
  have handled :
      ∀ after : Page,
        page.FailsOrKeeps after →
          decide (page.facts.status ≠ .failed ∧ after.facts.status = .failed) =
            true →
          after.live = none := by
    intro after outcome failed
    obtain ⟨running, failed⟩ := of_decide_eq_true failed
    rcases outcome.2 with ⟨-, status, -⟩ | ⟨-, live, -⟩
    · exact absurd (status.symm.trans failed) running
    · exact live
  cases event with
  | join cohortId sizing => exact .inr ⟨cohortId, sizing, rfl⟩
  | leave => exact .inl (congrArg Page.live (Page.leave_eq page))
  | startOver => exact .inl (congrArg Page.live (Page.startOver_eq page))
  | startRejected participant message =>
      exact .inl (congrArg Page.live (Page.fail_eq message _))
  | runner participant event =>
      left
      cases event with
      | cohortComplete info =>
          exact congrArg Page.live (Page.onCohortComplete_eq config info page)
      | cohortFailed cohortId reason =>
          exact congrArg Page.live (Page.fail_eq reason page)
      | error message =>
          simp only [Page.step, Page.onRunnerEvent, Page.onRunnerError]
          have underWay : page.facts.status.underWay = true := torn
          rw [if_pos underWay, Page.fail_eq]
      | _ => cases torn
  | directoryLands poll answer =>
      exact
        .inl
          (handled _ (Page.FailsOrKeeps.directoryLands page poll answer) torn)
  | graceFires timer =>
      exact .inl (handled _ (Page.FailsOrKeeps.graceFires page timer) torn)
  | postSeatLands poll answer =>
      exact
        .inl (handled _ (Page.FailsOrKeeps.postSeatLands page poll answer) torn)
  | _ => cases torn

end PageSteps

section Slot

/-! ## The resolution slot -/

/-- What the slot's law reads. -/
structure SlotView where
  did : Option String
  round : RoundId
  resolveStatus : ResolutionStatus
  resolution : Option Resolution
  resolveReads : List ResolveRead
  requests : List ResolveRead

def ResolvePage.slotView (state : ResolvePage) : SlotView where
  did := state.page.identity.map Identity.did
  round := state.page.round
  resolveStatus := state.resolveStatus
  resolution := state.resolution
  resolveReads := state.resolveReads
  requests := state.requests

theorem ResolvePage.slotView_clearAnchorPoll (state : ResolvePage) :
    state.clearAnchorPoll.slotView = state.slotView :=
  rfl

/-- What is out was asked for, and what was asked for in the round in hand is
of the DID in hand; so is what is held. -/
structure SlotInRound (view : SlotView) : Prop where
  requested : ∀ read ∈ view.resolveReads, read ∈ view.requests
  known : ∀ read ∈ view.requests, read.round ≤ view.round
  asked :
    ∀ read ∈ view.requests,
      read.round = view.round → view.did = some read.did
  held :
    view.resolveStatus = .resolved →
      ∃ resolution,
        view.resolution = some resolution ∧
          resolution.answers ∈ view.requests ∧
          resolution.answers.round = view.round

namespace SlotInRound

variable {view : SlotView}

theorem holdsOwn
    {state : ResolvePage} (slot : SlotInRound state.slotView) :
    state.HoldsOwn := by
  intro resolved
  obtain ⟨resolution, held, requested, round⟩ := slot.held resolved
  exact ⟨resolution, held, requested, round, slot.asked _ requested round⟩

/-- A new round starts with an idle slot, and no request is of it. -/
theorem newRound (slot : SlotInRound view) (did : Option String) :
    SlotInRound
      { view with
        did
        round := view.round + 1
        resolveStatus := .idle
        resolution := none } where
  requested := slot.requested
  known read member := Nat.le_succ_of_le (slot.known read member)
  asked read member here := by
    have known : read.round ≤ view.round := slot.known read member
    have here : read.round = view.round + 1 := here
    exact absurd (here ▸ known) (Nat.not_succ_le_self _)
  held := nofun

theorem request
    (slot : SlotInRound view) (read : ResolveRead)
    (round : read.round = view.round) (did : view.did = some read.did) :
    SlotInRound
      { view with
        resolveStatus := .resolving
        resolveReads := read :: view.resolveReads
        requests := read :: view.requests } where
  requested other member := by
    rcases List.mem_cons.mp member with rfl | older
    · exact List.mem_cons_self
    · exact List.mem_cons_of_mem _ (slot.requested other older)
  known other member := by
    rcases List.mem_cons.mp member with rfl | older
    · exact Nat.le_of_eq round
    · exact slot.known other older
  asked other member here := by
    rcases List.mem_cons.mp member with rfl | older
    · exact did
    · exact slot.asked other older here
  held := nofun

theorem resolved
    (slot : SlotInRound view) {read : ResolveRead}
    (out : read ∈ view.resolveReads) (round : read.round = view.round)
    (didDocument : DidDocument) :
    SlotInRound
      { view with
        resolveStatus := .resolved
        resolution := some { didDocument, answers := read }
        resolveReads := view.resolveReads.erase read } where
  requested other member :=
    slot.requested other (List.mem_of_mem_erase member)
  known := slot.known
  asked := slot.asked
  held _ := ⟨_, rfl, slot.requested read out, round⟩

theorem failed (slot : SlotInRound view) (read : ResolveRead) :
    SlotInRound
      { view with
        resolveStatus := .failed
        resolveReads := view.resolveReads.erase read } where
  requested other member :=
    slot.requested other (List.mem_of_mem_erase member)
  known := slot.known
  asked := slot.asked
  held := nofun

/-- `resolve` asks for the DID in hand in the round in hand. -/
theorem resolve
    {state : ResolvePage} (slot : SlotInRound state.slotView)
    (cause : ResolveCause) :
    SlotInRound (state.resolve cause).slotView := by
  unfold ResolvePage.resolve
  split
  · exact slot
  · next identity inHand =>
    split
    · exact slot
    · refine slot.request _ rfl ?_
      rw [ResolvePage.slotView, inHand]
      rfl

theorem autoResolve
    {state : ResolvePage} (slot : SlotInRound state.slotView)
    (poll : AnchorPoll) (anchor : AnchorDTO) :
    SlotInRound (state.autoResolve poll anchor).slotView := by
  have asked :
      SlotInRound
        (ResolvePage.resolve (.anchor poll)
          { state with autoResolved := true }).slotView := by
    apply SlotInRound.resolve
    exact slot
  unfold ResolvePage.autoResolve
  split
  · dsimp only
    split
    · exact asked
    · exact asked
  · exact slot

theorem anchorLands
    {state : ResolvePage} (slot : SlotInRound state.slotView)
    (poll : AnchorPoll) (answer : Option AnchorDTO) :
    SlotInRound (state.anchorLands poll answer).slotView := by
  unfold ResolvePage.anchorLands
  dsimp only
  split
  · cases answer with
    | none =>
        dsimp only
        split
        · exact slot
        · exact slot
    | some anchor =>
        dsimp only
        split
        · rw [ResolvePage.slotView_clearAnchorPoll]
          apply SlotInRound.autoResolve
          exact slot
        · apply SlotInRound.autoResolve
          exact slot
  · exact slot

theorem lagTicks
    {state : ResolvePage} (slot : SlotInRound state.slotView) :
    SlotInRound state.lagTicks.slotView := by
  unfold ResolvePage.lagTicks
  split
  · exact slot
  · dsimp only
    split
    · exact slot
    · apply SlotInRound.resolve
      exact slot

theorem resolveLands
    {state : ResolvePage} (slot : SlotInRound state.slotView)
    {read : ResolveRead} (out : read ∈ state.resolveReads)
    {answer : Except String DidDocument}
    (stays : StaysInRound state (.resolveLands read answer)) :
    SlotInRound (state.resolveLands read answer).slotView := by
  cases answer with
  | ok didDocument => exact slot.resolved out stays didDocument
  | error message => exact slot.failed read

theorem slotView_trackAnchor (cohortId : CohortId) (state : ResolvePage) :
    (state.trackAnchor cohortId).slotView = state.slotView :=
  rfl

/-- An event of the page keeps the slot in its round and clears it in the
next. -/
theorem onPage
    {config : PageConfig} {state : ResolvePage} {event : PageEvent}
    (slot : SlotInRound state.slotView)
    (offered : state.page.Offers config event) :
    SlotInRound (state.onPage config event).slotView := by
  have moved :
      ∀ torn : ResolvePage,
        torn.slotView = state.slotView →
          SlotInRound
            ({ (if (state.page.step config event).round = state.page.round then
                torn else torn.resetOutcome) with
              page := state.page.step config event } : ResolvePage).slotView := by
    intro torn same
    injection same with _ _ status resolution reads requests
    rcases Page.stays_or_next offered with ⟨round, identity⟩ | ⟨round, -⟩
    · rw [if_pos round]
      have kept :
          ({ torn with page := state.page.step config event } :
              ResolvePage).slotView =
            state.slotView := by
        rw [ResolvePage.slotView, ResolvePage.slotView]
        simp only [identity, round, status, resolution, reads, requests]
      rw [kept]
      exact slot
    · have next :
          (state.page.step config event).round ≠ state.page.round := by
        rw [round]
        exact Nat.succ_ne_self _
      rw [if_neg next]
      have fresh :=
        slot.newRound ((state.page.step config event).identity.map Identity.did)
      rw [ResolvePage.slotView]
      simp only [ResolvePage.resetOutcome, round, reads, requests]
      exact fresh
  have torn :
      (if event.tearsDown config state.page then
        state.clearResolveLagRetry.clearAnchorPoll else state).slotView =
        state.slotView := by
    split
    · rfl
    · rfl
  have kept := moved _ torn
  unfold ResolvePage.onPage
  dsimp only
  split
  · rw [slotView_trackAnchor]
    exact kept
  · exact kept

theorem step
    {config : PageConfig} {state : ResolvePage} {event : ResolveEvent}
    (slot : SlotInRound state.slotView) (offered : state.Offers config event)
    (stays : StaysInRound state event) :
    SlotInRound (state.step config event).slotView := by
  cases event with
  | page event => exact slot.onPage offered
  | resolve => exact slot.resolve .manual
  | anchorTicks =>
      simp only [ResolvePage.step]
      split
      · exact slot
      · exact slot
  | anchorLands poll answer => exact slot.anchorLands poll answer
  | lagTicks => exact slot.lagTicks
  | resolveLands read answer => exact slot.resolveLands offered stays

theorem fresh : SlotInRound ResolvePage.fresh.slotView where
  requested := nofun
  known := nofun
  asked := nofun
  held := nofun

end SlotInRound

end Slot

section Asked

/-! ## What was asked for automatically -/

theorem asks_cons (cause : ResolveCause) (read : ResolveRead)
    (requests : List ResolveRead) :
    asks cause (read :: requests) =
      asks cause requests + if read.cause = cause then 1 else 0 := by
  rw [asks, List.map_cons, List.count_cons, asks]
  simp only [beq_iff_eq]

theorem asks_eq_zero
    {cause : ResolveCause} {requests : List ResolveRead}
    (never : ∀ read ∈ requests, read.cause ≠ cause) :
    asks cause requests = 0 := by
  rw [asks, List.count_eq_zero, List.mem_map]
  rintro ⟨read, member, same⟩
  exact never read member same

namespace AutomaticInRound

variable {requests : List ResolveRead}

/-- One more request: what is left to show is about its own cause. -/
theorem cons
    (automatic : AutomaticInRound requests) (read : ResolveRead)
    (anchored :
      ∀ poll, read.cause = .anchor poll →
        read.round = poll.round ∧ read.anchorEpoch = poll.epoch ∧
          asks (.anchor poll) requests = 0)
    (lagging :
      ∀ poll, read.cause = .lag poll →
        read.round = poll.round ∧
          asks (.lag poll) requests + 1 < resolveLagMaxAttempts) :
    AutomaticInRound (read :: requests) where
  anchored other member poll cause := by
    rcases List.mem_cons.mp member with rfl | older
    · obtain ⟨round, epoch, -⟩ := anchored poll cause
      exact ⟨round, epoch⟩
    · exact automatic.anchored other older poll cause
  once poll := by
    have before := automatic.once poll
    rw [asks_cons]
    split
    · next cause =>
      obtain ⟨-, -, never⟩ := anchored poll cause
      omega
    · exact before
  lagging other member poll cause := by
    rcases List.mem_cons.mp member with rfl | older
    · exact (lagging poll cause).1
    · exact automatic.lagging other older poll cause
  bounded poll := by
    have before := automatic.bounded poll
    rw [asks_cons]
    split
    · next cause => exact (lagging poll cause).2
    · exact before

theorem nil : AutomaticInRound [] where
  anchored := nofun
  once _ := Nat.zero_le _
  lagging := nofun
  bounded _ := Nat.zero_lt_succ _

end AutomaticInRound

end Asked

section Timers

/-! ## The poll and the retry -/

/-- What the timers' law reads. -/
structure TimerView where
  round : RoundId
  anchorPoll : Option AnchorPoll
  anchorEpoch : Nat
  autoResolved : Bool
  resolveLagRetry : Option LagRetry
  anchorReads : List AnchorPoll
  requests : List ResolveRead

def ResolvePage.timerView (state : ResolvePage) : TimerView where
  round := state.page.round
  anchorPoll := state.anchorPoll
  anchorEpoch := state.anchorEpoch
  autoResolved := state.autoResolved
  resolveLagRetry := state.resolveLagRetry
  anchorReads := state.anchorReads
  requests := state.requests

/-- A poll that asked by itself. -/
def ResolveRead.AskedFor (read : ResolveRead) (poll : AnchorPoll) : Prop :=
  read.cause = .anchor poll ∨ read.cause = .lag poll

/-- The timers that are set are of the round in hand, a read that still counts
is of the poll that is set, and a poll that has asked is a past one or has
spent its one-shot. -/
structure TimersInRound (view : TimerView) : Prop where
  poll :
    ∀ poll, view.anchorPoll = some poll →
      poll.round = view.round ∧ poll.epoch = view.anchorEpoch
  reads :
    ∀ poll ∈ view.anchorReads,
      poll.epoch ≤ view.anchorEpoch ∧
        (poll.epoch = view.anchorEpoch → view.anchorPoll = some poll)
  retry :
    ∀ retry, view.resolveLagRetry = some retry →
      retry.poll.round = view.round ∧
        retry.poll.epoch ≤ view.anchorEpoch ∧
        (retry.poll.epoch = view.anchorEpoch → view.autoResolved = true) ∧
        asks (.lag retry.poll) view.requests ≤ retry.attempts
  asked :
    ∀ read ∈ view.requests, ∀ poll,
      read.AskedFor poll →
        poll.epoch ≤ view.anchorEpoch ∧
          (poll.epoch = view.anchorEpoch → view.autoResolved = true)
  automatic : AutomaticInRound view.requests

/-- What was known of an epoch is past once the next begins. -/
private theorem behind_next
    {epoch current : Nat} {claim : Prop} (known : epoch ≤ current) :
    epoch ≤ current + 1 ∧ (epoch = current + 1 → claim) := by
  constructor
  · exact Nat.le_succ_of_le known
  · intro same
    omega

namespace TimersInRound

variable {view : TimerView}

/-- A torn down page has no timer, in whichever round. -/
theorem torn (timers : TimersInRound view) (round : RoundId) :
    TimersInRound
      { view with
        round
        anchorPoll := none
        anchorEpoch := view.anchorEpoch + 1
        resolveLagRetry := none } where
  poll := nofun
  reads poll member := by
    exact behind_next (timers.reads poll member).1
  retry := nofun
  asked read member poll asked := by
    exact behind_next (timers.asked read member poll asked).1
  automatic := timers.automatic

/-- A frozen poll leaves its retry. -/
theorem frozen (timers : TimersInRound view) :
    TimersInRound
      { view with
        anchorPoll := none
        anchorEpoch := view.anchorEpoch + 1 } where
  poll := nofun
  reads := (timers.torn view.round).reads
  retry retry set := by
    obtain ⟨round, known, -, asked⟩ := timers.retry retry set
    obtain ⟨later, notCurrent⟩ := behind_next known
    exact ⟨round, later, notCurrent, asked⟩
  asked := (timers.torn view.round).asked
  automatic := timers.automatic

theorem withoutRetry (timers : TimersInRound view) :
    TimersInRound { view with resolveLagRetry := none } where
  poll := timers.poll
  reads := timers.reads
  retry := nofun
  asked := timers.asked
  automatic := timers.automatic

/-- No timer is set: the next round may begin. -/
theorem unset
    (timers : TimersInRound view) (poll : view.anchorPoll = none)
    (retry : view.resolveLagRetry = none) (round : RoundId) :
    TimersInRound { view with round } where
  poll set here := by
    rw [poll] at here
    cases here
  reads := timers.reads
  retry set here := by
    rw [retry] at here
    cases here
  asked := timers.asked
  automatic := timers.automatic

/-- A fresh poll, with its first read. -/
theorem track (timers : TimersInRound view) (cohortId : CohortId) :
    TimersInRound
      { view with
        anchorPoll := some ⟨view.anchorEpoch + 1, cohortId, view.round⟩
        anchorEpoch := view.anchorEpoch + 1
        autoResolved := false
        resolveLagRetry := none
        anchorReads :=
          ⟨view.anchorEpoch + 1, cohortId, view.round⟩ ::
            view.anchorReads } where
  poll poll set := by
    cases set
    exact ⟨rfl, rfl⟩
  reads poll member := by
    rcases List.mem_cons.mp member with rfl | older
    · exact ⟨Nat.le_refl _, fun _ => rfl⟩
    · exact behind_next (timers.reads poll older).1
  retry := nofun
  asked read member poll asked := by
    exact behind_next (timers.asked read member poll asked).1
  automatic := timers.automatic

theorem ticked
    (timers : TimersInRound view) {poll : AnchorPoll}
    (set : view.anchorPoll = some poll) :
    TimersInRound
      { view with anchorReads := poll :: view.anchorReads } where
  poll := timers.poll
  reads other member := by
    rcases List.mem_cons.mp member with rfl | older
    · exact ⟨Nat.le_of_eq (timers.poll other set).2, fun _ => set⟩
    · exact timers.reads other older
  retry := timers.retry
  asked := timers.asked
  automatic := timers.automatic

theorem landed (timers : TimersInRound view) (poll : AnchorPoll) :
    TimersInRound
      { view with anchorReads := view.anchorReads.erase poll } where
  poll := timers.poll
  reads other member := timers.reads other (List.mem_of_mem_erase member)
  retry := timers.retry
  asked := timers.asked
  automatic := timers.automatic

/-- A poll that has its one-shot left has asked for nothing. -/
theorem unasked
    (timers : TimersInRound view) {poll : AnchorPoll}
    (current : poll.epoch = view.anchorEpoch)
    (unspent : view.autoResolved = false) {cause : ResolveCause}
    (own : cause = .anchor poll ∨ cause = .lag poll) :
    asks cause view.requests = 0 := by
  apply asks_eq_zero
  intro read member same
  have askedFor : read.AskedFor poll :=
    own.imp (fun isAnchor => same.trans isAnchor) fun isLag => same.trans isLag
  have spent := (timers.asked read member poll askedFor).2 current
  rw [unspent] at spent
  cases spent

theorem spent (timers : TimersInRound view) :
    TimersInRound { view with autoResolved := true } where
  poll := timers.poll
  reads := timers.reads
  retry retry set := by
    obtain ⟨round, known, -, asked⟩ := timers.retry retry set
    exact ⟨round, known, fun _ => rfl, asked⟩
  asked read member poll asked :=
    ⟨(timers.asked read member poll asked).1, fun _ => rfl⟩
  automatic := timers.automatic

/-- A request that is not the retry's. -/
theorem request
    (timers : TimersInRound view) {read : ResolveRead}
    (automatic : AutomaticInRound (read :: view.requests))
    (known :
      ∀ poll, read.AskedFor poll →
        poll.epoch ≤ view.anchorEpoch ∧
          (poll.epoch = view.anchorEpoch → view.autoResolved = true))
    (notLag : ∀ poll, read.cause ≠ .lag poll) :
    TimersInRound { view with requests := read :: view.requests } where
  poll := timers.poll
  reads := timers.reads
  retry retry set := by
    obtain ⟨round, epoch, spent, asked⟩ := timers.retry retry set
    refine ⟨round, epoch, spent, ?_⟩
    rw [asks_cons, if_neg (notLag retry.poll)]
    exact asked
  asked other member poll asked := by
    rcases List.mem_cons.mp member with rfl | older
    · exact known poll asked
    · exact timers.asked other older poll asked
  automatic := automatic

theorem manual
    (timers : TimersInRound view) {read : ResolveRead}
    (cause : read.cause = .manual) :
    TimersInRound { view with requests := read :: view.requests } := by
  have notAnchor : ∀ poll, read.cause ≠ .anchor poll := by
    rw [cause]
    exact nofun
  have notLag : ∀ poll, read.cause ≠ .lag poll := by
    rw [cause]
    exact nofun
  refine timers.request ?_ ?_ notLag
  · exact
      timers.automatic.cons read
        (fun poll same => absurd same (notAnchor poll))
        fun poll same => absurd same (notLag poll)
  · rintro poll (isAnchor | isLag)
    · exact absurd isAnchor (notAnchor poll)
    · exact absurd isLag (notLag poll)

/-- The one request of a poll. -/
theorem anchored
    (timers : TimersInRound view) {poll : AnchorPoll} {read : ResolveRead}
    (current : poll.epoch = view.anchorEpoch) (round : poll.round = view.round)
    (spent : view.autoResolved = true)
    (never : asks (.anchor poll) view.requests = 0)
    (cause : read.cause = .anchor poll) (readRound : read.round = view.round)
    (readEpoch : read.anchorEpoch = view.anchorEpoch) :
    TimersInRound { view with requests := read :: view.requests } := by
  have notLag : ∀ other, read.cause ≠ .lag other := by
    rw [cause]
    exact nofun
  refine timers.request ?_ ?_ notLag
  · refine
      timers.automatic.cons read ?_ fun other same =>
        absurd same (notLag other)
    intro other same
    cases cause.symm.trans same
    exact ⟨readRound.trans round.symm, readEpoch.trans current.symm, never⟩
  · rintro other (isAnchor | isLag)
    · cases cause.symm.trans isAnchor
      exact ⟨Nat.le_of_eq current, fun _ => spent⟩
    · exact absurd isLag (notLag other)

/-- A retry for a poll that has just spent its one-shot. -/
theorem startRetry
    (timers : TimersInRound view) {poll : AnchorPoll}
    (current : poll.epoch = view.anchorEpoch) (round : poll.round = view.round)
    (spent : view.autoResolved = true)
    (never : asks (.lag poll) view.requests = 0) :
    TimersInRound
      { view with resolveLagRetry := some { attempts := 0, poll } } where
  poll := timers.poll
  reads := timers.reads
  retry retry set := by
    cases set
    exact ⟨round, Nat.le_of_eq current, fun _ => spent, Nat.le_of_eq never⟩
  asked := timers.asked
  automatic := timers.automatic

/-- One more attempt of the retry. -/
theorem attempt
    (timers : TimersInRound view) {retry : LagRetry}
    (set : view.resolveLagRetry = some retry) :
    TimersInRound
      { view with
        resolveLagRetry :=
          some { retry with attempts := retry.attempts + 1 } } where
  poll := timers.poll
  reads := timers.reads
  retry later same := by
    cases same
    obtain ⟨round, epoch, spent, asked⟩ := timers.retry retry set
    exact ⟨round, epoch, spent, Nat.le_succ_of_le asked⟩
  asked := timers.asked
  automatic := timers.automatic

/-- The request of that attempt. -/
theorem lagged
    (timers : TimersInRound view) {retry : LagRetry} {read : ResolveRead}
    (set : view.resolveLagRetry = some retry)
    (withinBound : retry.attempts + 1 < resolveLagMaxAttempts)
    (cause : read.cause = .lag retry.poll)
    (readRound : read.round = view.round) :
    TimersInRound
      { view with
        resolveLagRetry := some { retry with attempts := retry.attempts + 1 }
        requests := read :: view.requests } := by
  obtain ⟨round, epoch, spent, bound⟩ := timers.retry retry set
  have notAnchor : ∀ poll, read.cause ≠ .anchor poll := by
    rw [cause]
    exact nofun
  have automatic : AutomaticInRound (read :: view.requests) := by
    refine
      timers.automatic.cons read
        (fun poll same => absurd same (notAnchor poll)) ?_
    intro poll same
    cases cause.symm.trans same
    exact ⟨readRound.trans round.symm, by omega⟩
  refine ⟨timers.poll, timers.reads, ?_, ?_, automatic⟩
  · intro later same
    cases same
    refine ⟨round, epoch, spent, ?_⟩
    rw [asks_cons, if_pos cause]
    exact Nat.succ_le_succ bound
  · intro other member poll asked
    rcases List.mem_cons.mp member with rfl | older
    · rcases asked with isAnchor | isLag
      · exact absurd isAnchor (notAnchor poll)
      · cases cause.symm.trans isLag
        exact ⟨epoch, spent⟩
    · exact timers.asked other older poll asked

end TimersInRound

end Timers

section TimerSteps

/-! ## Steps of the timers -/

namespace ResolvePage

/-- `resolve` asks, or there is no identity to ask for. -/
theorem timerView_resolve (cause : ResolveCause) (state : ResolvePage) :
    (state.resolve cause).timerView = state.timerView ∨
      ∃ read : ResolveRead,
        read.cause = cause ∧ read.round = state.page.round ∧
          read.anchorEpoch = state.anchorEpoch ∧
          (state.resolve cause).timerView =
            { state.timerView with
              requests := read :: state.timerView.requests } := by
  unfold resolve
  split
  · exact .inl rfl
  · split
    · exact .inl rfl
    · exact .inr ⟨_, rfl, rfl, rfl, rfl⟩

theorem timerView_startResolveLagRetry
    (poll : AnchorPoll) (state : ResolvePage) :
    (state.startResolveLagRetry poll).timerView =
      { state.timerView with
        resolveLagRetry := some { attempts := 0, poll } } :=
  rfl

theorem timerView_clearAnchorPoll (state : ResolvePage) :
    state.clearAnchorPoll.timerView =
      { state.timerView with
        anchorPoll := none
        anchorEpoch := state.timerView.anchorEpoch + 1 } :=
  rfl

end ResolvePage

namespace TimersInRound

variable {state : ResolvePage}

theorem autoResolve
    (timers : TimersInRound state.timerView) {poll : AnchorPoll}
    (current : poll.epoch = state.anchorEpoch)
    (set : state.anchorPoll = some poll) (anchor : AnchorDTO) :
    TimersInRound (state.autoResolve poll anchor).timerView := by
  have round : poll.round = state.page.round := (timers.poll poll set).1
  unfold ResolvePage.autoResolve
  split
  · next guards =>
    have unspent : state.timerView.autoResolved = false := guards.1
    have neverAnchor := timers.unasked current unspent (.inl rfl)
    have neverLag := timers.unasked current unspent (.inr rfl)
    have spent :
        TimersInRound
          ({ state with autoResolved := true } : ResolvePage).timerView :=
      timers.spent
    dsimp only
    rcases ResolvePage.timerView_resolve (.anchor poll)
        { state with autoResolved := true } with
      same | ⟨read, cause, readRound, readEpoch, one⟩
    · split
      · rw [ResolvePage.timerView_startResolveLagRetry, same]
        exact spent.startRetry current round rfl neverLag
      · rw [same]
        exact spent
    · have asked :=
        spent.anchored current round rfl neverAnchor cause readRound readEpoch
      split
      · rw [ResolvePage.timerView_startResolveLagRetry, one]
        refine asked.startRetry current round rfl ?_
        -- the poll's own request is none of the retry's
        rw [asks_cons, cause]
        exact neverLag
      · rw [one]
        exact asked
  · exact timers

theorem anchorLands
    (timers : TimersInRound state.timerView) {poll : AnchorPoll}
    (out : poll ∈ state.anchorReads) (answer : Option AnchorDTO) :
    TimersInRound (state.anchorLands poll answer).timerView := by
  have settled := timers.landed poll
  unfold ResolvePage.anchorLands
  dsimp only
  split
  · next current =>
    have set := (timers.reads poll out).2 current
    cases answer with
    | none =>
        dsimp only
        split
        · exact settled
        · exact settled
    | some anchor =>
        have asked :
            TimersInRound
              (ResolvePage.autoResolve poll anchor
                (ResolvePage.setUnreachable false
                  { state with
                    anchorReads := state.anchorReads.erase poll
                    anchorFailures := 0
                    anchor := some anchor })).timerView := by
          apply TimersInRound.autoResolve
          · exact settled
          · exact current
          · exact set
        dsimp only
        split
        · rw [ResolvePage.timerView_clearAnchorPoll]
          exact asked.frozen
        · exact asked
  · exact settled

theorem lagTicks (timers : TimersInRound state.timerView) :
    TimersInRound state.lagTicks.timerView := by
  unfold ResolvePage.lagTicks
  split
  · exact timers
  · next retry set =>
    dsimp only
    split
    · exact timers.withoutRetry
    · next goesOn =>
      have withinBound : retry.attempts + 1 < resolveLagMaxAttempts := by
        by_contra reached
        exact goesOn (.inr (Nat.le_of_not_lt reached))
      rcases ResolvePage.timerView_resolve (.lag retry.poll)
          { state with
            resolveLagRetry :=
              some { retry with attempts := retry.attempts + 1 } } with
        same | ⟨read, cause, readRound, -, one⟩
      · rw [same]
        exact timers.attempt set
      · rw [one]
        exact timers.lagged set withinBound cause readRound

/-- An event of the page: what begins a round has torn the timers down, or
found none. -/
theorem onPage
    {config : PageConfig} {event : PageEvent}
    (timers : TimersInRound state.timerView)
    (offered : state.page.Offers config event)
    (stays : StaysInRound state (.page event)) :
    TimersInRound (state.onPage config event).timerView := by
  have moved :
      TimersInRound
        ({ (if (state.page.step config event).round = state.page.round then
              (if event.tearsDown config state.page then
                state.clearResolveLagRetry.clearAnchorPoll else state)
            else
              (if event.tearsDown config state.page then
                state.clearResolveLagRetry.clearAnchorPoll
                else state).resetOutcome) with
          page := state.page.step config event } : ResolvePage).timerView := by
    by_cases tears : event.tearsDown config state.page = true
    · simp only [if_pos tears]
      split
      · exact timers.torn _
      · exact timers.torn _
    · simp only [if_neg tears]
      rcases Page.stays_or_next offered with ⟨round, -⟩ | ⟨round, begins⟩
      · rw [if_pos round]
        have kept :
            ({ state with page := state.page.step config event } :
                ResolvePage).timerView =
              state.timerView := by
          rw [ResolvePage.timerView, ResolvePage.timerView]
          simp only [round]
        rw [kept]
        exact timers
      · rcases begins with ⟨identity, rfl⟩ | torn
        · split
          · exact timers.unset stays.1 stays.2 _
          · exact timers.unset stays.1 stays.2 _
        · exact absurd torn tears
  unfold ResolvePage.onPage
  dsimp only
  split
  · exact moved.track _
  · exact moved

theorem step
    {config : PageConfig} {event : ResolveEvent}
    (timers : TimersInRound state.timerView)
    (offered : state.Offers config event)
    (stays : StaysInRound state event) :
    TimersInRound (state.step config event).timerView := by
  cases event with
  | page event => exact timers.onPage offered stays
  | resolve =>
      rcases ResolvePage.timerView_resolve .manual state with
        same | ⟨read, cause, -, -, one⟩
      · simp only [ResolvePage.step, same]
        exact timers
      · simp only [ResolvePage.step, one]
        exact timers.manual cause
  | anchorTicks =>
      simp only [ResolvePage.step]
      split
      · next poll set => exact timers.ticked set
      · exact timers
  | anchorLands poll answer => exact timers.anchorLands offered answer
  | lagTicks => exact timers.lagTicks
  | resolveLands read answer =>
      cases answer with
      | ok didDocument => exact timers
      | error message => exact timers

theorem fresh : TimersInRound ResolvePage.fresh.timerView where
  poll := nofun
  reads := nofun
  retry := nofun
  asked := nofun
  automatic := .nil

end TimersInRound

end TimerSteps

section Runs

/-! ## Runs -/

/-- Both halves of the invariant. -/
structure ResolvePage.InRound (state : ResolvePage) : Prop where
  slot : SlotInRound state.slotView
  timers : TimersInRound state.timerView

theorem ResolvePage.inRound_always (config : PageConfig) :
    ((resolveMachine config).restrict StaysInRound).Always
      ResolvePage.InRound := by
  apply Machine.Always.of_inductive
  · exact ⟨SlotInRound.fresh, TimersInRound.fresh⟩
  · intro state event holds offered
    exact
      ⟨holds.slot.step offered.1 offered.2,
        holds.timers.step offered.1 offered.2⟩

/-- In a run whose resolutions land in their round and whose identities are
adopted with no timer set, what is held answers a request of the round in hand
and what is asked for automatically is asked in its round. -/
theorem resolutionLaw_of_staysInRound
    (config : PageConfig) (events : List ResolveEvent)
    (admissible :
      ((resolveMachine config).restrict StaysInRound).Admits events) :
    ResolutionLaw ((resolveMachine config).run events) := by
  have holds := ResolvePage.inRound_always config events admissible
  exact ⟨holds.slot.holdsOwn, holds.timers.automatic⟩

/-- An identity, a join and its completion on a live service. -/
def completedRound : List ResolveEvent :=
  [ .page (.adopt { did := "did:a", keys := "k1", genesisDocument := none }),
    .page (.join 7 none),
    .page
      (.runner 2
        (.cohortComplete
          { cohortId := 7
            beaconAddress := "b"
            beaconType := .casBeacon
            included := true
            announcementEntries := 1 })) ]

/-- The read the poll of that round asks for, once its anchor is confirmed. -/
def anchoredRead : ResolveRead where
  did := "did:a"
  genesisDocument := none
  round := 2
  anchorEpoch := 3
  cause := .anchor ⟨3, 7, 2⟩

def confirmedAnchor : AnchorDTO where
  enabled := true
  state := .confirmed
  txid := some "t"
  explorerUrl := none
  reason := none

theorem resolutionLaw_of_staysInRound_confirmed :
    ResolutionLaw
      ((resolveMachine plainConfig).run
        (completedRound ++
          [ .anchorLands ⟨3, 7, 2⟩ (some confirmedAnchor), .lagTicks,
            .resolveLands anchoredRead
              (.ok { id := "did:a", verificationMethod := [], service := [] }),
            .lagTicks, .lagTicks ])) :=
  resolutionLaw_of_staysInRound plainConfig _ (by decide +kernel)

/-- A resolution is asked for, another identity is adopted, and the answer
lands. -/
theorem not_resolutionLaw_of_adopted :
    ¬ ∀ events : List ResolveEvent,
        (resolveMachine plainConfig).Admits events →
          ResolutionLaw ((resolveMachine plainConfig).run events) := by
  intro claimed
  have law :=
    claimed
      [ .page
          (.adopt { did := "did:a", keys := "k1", genesisDocument := none }),
        .resolve,
        .page
          (.adopt { did := "did:b", keys := "k2", genesisDocument := none }),
        .resolveLands
          { did := "did:a", genesisDocument := none, round := 1,
            anchorEpoch := 0, cause := .manual }
          (.ok { id := "did:a", verificationMethod := [], service := [] }) ]
      (by decide +kernel)
  obtain ⟨resolution, held, -, -, did⟩ := law.own (by decide +kernel)
  cases held
  revert did
  decide +kernel

/-- A resolution that lands after its round is held in the next. -/
theorem not_holdsOwn_of_late
    (state : ResolvePage) {read : ResolveRead}
    (late : read.round ≠ state.page.round) (didDocument : DidDocument) :
    ¬ (state.resolveLands read (.ok didDocument)).HoldsOwn := by
  intro own
  obtain ⟨resolution, held, -, round, -⟩ := own rfl
  cases held
  exact late round

/-- A poll that is left set over a new round asks in it. -/
theorem not_automaticInRound_of_leftSet
    (state : ResolvePage) {poll : AnchorPoll}
    (current : poll.epoch = state.anchorEpoch)
    (late : poll.round ≠ state.page.round)
    (unspent : state.autoResolved = false)
    {identity : Identity} (inHand : state.page.identity = some identity)
    (named : identity.did ≠ "")
    {anchor : AnchorDTO} (settles : shouldAutoResolve anchor = true) :
    ¬ AutomaticInRound (state.anchorLands poll (some anchor)).requests := by
  intro automatic
  have asked :
      { did := identity.did
        genesisDocument := identity.genesisDocument
        round := state.page.round
        anchorEpoch := state.anchorEpoch
        cause := .anchor poll } ∈
        (state.anchorLands poll (some anchor)).requests := by
    simp only [ResolvePage.anchorLands, current, if_true,
      ResolvePage.autoResolve, ResolvePage.setUnreachable, unspent, settles,
      and_self, ResolvePage.resolve, inHand, if_neg named]
    split
    · split
      · exact List.mem_cons_self
      · exact List.mem_cons_self
    · split
      · exact List.mem_cons_self
      · exact List.mem_cons_self
  exact late (automatic.anchored _ asked poll rfl).1.symm

end Runs

end Btcr2Aggregation
