import Btcr2Aggregation.Service.LiveSpend
import Btcr2Aggregation.Service.PublicFunding

/-!
# The lapse a failed cohort shows

The authoritative wait throws the reason it ended with; the funding view of a
failed cohort is stamped by the `cohort-failed` listener from the last view of
the display watch.  The two poll on their own, so the stamp is a guess.  Here a
run also keeps the reads of every display watch and the schedule of every wait
that has ended, and the stamp is set against the verdict of the wait.

The guess is right where a cohort fails because its wait lapsed and the two
pollers saw the same at their last reads.
-/

namespace Btcr2Aggregation

section Waits

/-! ## Waits that lapse -/

namespace FundingWait

/-- Whether the latest of `count` reads was answered. -/
def answered (wait : FundingWait) : (count : Nat) → Bool
  | 0 => false
  | last + 1 => (wait.answers last).isSome

theorem answered_succ (wait : FundingWait) (last : Nat) :
    wait.answered (last + 1) = (wait.classified last).isSome := by
  rw [answered, classified, Option.isSome_map]

instance (wait : FundingWait) (index : Nat) : Decidable (wait.GoesOn index) :=
  inferInstanceAs (Decidable (_ ∨ _ ∨ _))

/-- Rounds whose reads all go on, and that no abort overtakes, end in a lapse:
a clean one where the latest read was answered, else a blind one. -/
theorem verdict_of_goesOn
    {wait : FundingWait} {settled : FundingSettled} (fuel : Nat) :
    ∀ index lastObservationOk,
      lastObservationOk = wait.answered index →
        wait.rounds fuel index (wait.roundAt index) lastObservationOk =
            some settled →
          (∀ earlier < wait.polls fuel index (wait.roundAt index),
              wait.GoesOn earlier) →
            ¬ wait.aborted
                (wait.roundAt
                  (wait.polls fuel index (wait.roundAt index))) = true →
              settled.verdict =
                if wait.answered (wait.polls fuel index (wait.roundAt index))
                then .neverArrived
                else .couldNotObserve := by
  induction fuel with
  | zero =>
      intro index lastObservationOk _ ended
      cases ended
  | succ fuel inductionHypothesis =>
      intro index lastObservationOk recalled ended goesOn running
      rw [rounds_succ] at ended
      by_cases reads :
          wait.isOpen (wait.roundAt index) ∧
            ¬ wait.aborted (wait.roundAt index) = true
      · rw [if_pos reads.1, if_neg reads.2] at ended
        rw [polls, if_pos reads] at goesOn running ⊢
        cases read : wait.classified index with
        | none =>
            rw [read] at ended goesOn running
            refine inductionHypothesis _ false ?_ ended goesOn running
            rw [answered_succ, read]
            rfl
        | some state =>
            rw [read] at ended goesOn running
            cases state with
            | waiting =>
                refine inductionHypothesis _ true ?_ ended goesOn running
                rw [answered_succ, read]
                rfl
            | awaitingConfirmation =>
                refine inductionHypothesis _ true ?_ ended goesOn running
                rw [answered_succ, read]
                rfl
            | funded selected =>
                have decides := goesOn index (Nat.lt_succ_self index)
                simp [GoesOn, read] at decides
            | deadEnd selected =>
                have decides := goesOn index (Nat.lt_succ_self index)
                simp [GoesOn, read] at decides
      · rw [polls, if_neg reads] at running ⊢
        have closed : ¬ wait.isOpen (wait.roundAt index) = true :=
          fun stillOpen => reads ⟨stillOpen, running⟩
        rw [if_neg closed, if_neg running, recalled] at ended
        split at ended
        · next wasAnswered =>
            cases ended
            rw [if_pos wasAnswered]
        · next failed =>
            cases ended
            rw [if_neg failed]

end FundingWait

end Waits

section System

/-! ## The service with its waits -/

/-- A wait that has ended, after how many reads, and how. -/
structure EndedWait where
  cohortId : CohortId
  wait : FundingWait
  reads : Nat
  verdict : FundingVerdict

/-- A run, with the reads of the display watches and the waits that have ended,
both newest first. -/
structure LapseRun where
  service : PublicRun
  displayed : List (CohortId × Option FundingStateName)
  ended : List EndedWait

inductive LapseEvent where
  | service (event : PublicEvent)
  | waitEnds (cohortId : CohortId) (wait : FundingWait) (fuel : Nat)

namespace LapseRun

def booted (options : ServiceOptions) : LapseRun where
  service := .booted options
  displayed := []
  ended := []

/-- The history of one event of the service. -/
def display (run : LapseRun) :
    PublicEvent → List (CohortId × Option FundingStateName)
  | .side (.watchPolls cohortId read) => (cohortId, read) :: run.displayed
  | _ => run.displayed

def step (options : ServiceOptions) (run : LapseRun) : LapseEvent → LapseRun
  | .service event =>
      { run with
        service := run.service.step options event
        displayed := run.display event }
  | .waitEnds cohortId wait fuel =>
      { run with
        service := run.service.step options (.side (.waitEnds cohortId))
        ended :=
          match waitForFunding wait fuel with
          | some settled =>
              { cohortId
                wait
                reads := wait.polls fuel 0 wait.startMs
                verdict := settled.verdict } :: run.ended
          | none => run.ended }

/-- A wait ends with the verdict its own schedule of reads leads to. -/
def Offered (run : LapseRun) : LapseEvent → Prop
  | .service (.side (.waitEnds _)) => False
  | .service event => run.service.Offered event
  | .waitEnds cohortId wait fuel =>
      run.service.Offered (.side (.waitEnds cohortId)) ∧
        (waitForFunding wait fuel).isSome

instance (run : LapseRun) : ∀ event, Decidable (run.Offered event)
  | .service event => by
      induction event using PublicEvent.casesOn with
      | side event =>
          induction event using SideEvent.casesOn <;> unfold Offered <;>
            infer_instance
      | session session => unfold Offered; infer_instance
      | monitor event => unfold Offered; infer_instance
  | .waitEnds _ _ _ => inferInstanceAs (Decidable (_ ∧ _))

/-- What the display watch of a cohort read, newest first. -/
def readsOf (run : LapseRun) (cohortId : CohortId) :
    List (Option FundingStateName) :=
  (run.displayed.filter fun entry => entry.1 = cohortId).map Prod.snd

/-- How the waits ended. -/
def verdicts (run : LapseRun) : List (CohortId × FundingVerdict) :=
  run.ended.map fun entry => (entry.cohortId, entry.verdict)

end LapseRun

def lapseMachine (options : ServiceOptions) : Machine LapseRun LapseEvent where
  init := .booted options
  step := LapseRun.step options
  admits := LapseRun.Offered

end System

section Law

/-! ## The law -/

/-- The verdict a stamp speaks of. -/
def FundingTerminal.cause : FundingTerminal → FundingVerdict
  | .windowClosed => .neverArrived
  | .blindLapse => .couldNotObserve

/-- The stamp on the view of a failed cohort is how its wait ended. -/
def LapseRun.CausesShown (run : LapseRun) : Prop :=
  ∀ cohortId view terminal,
    run.service.side.settled.lookup cohortId = some .failed →
      run.service.monitor.fundingViews.lookup cohortId = some view →
        view.terminal = some terminal →
          (cohortId, terminal.cause) ∈ run.verdicts

/-- None of the reads of the wait decided, and no abort came before its end. -/
def EndedWait.Lapsed (entry : EndedWait) : Prop :=
  (∀ index < entry.reads, entry.wait.GoesOn index) ∧
    ¬ entry.wait.aborted (entry.wait.roundAt entry.reads) = true

/-- Whether the latest of these reads, newest first, was answered. -/
def latestAnswered (reads : List (Option FundingStateName)) : Bool :=
  reads.head?.join.isSome

/-- What the latest answered one saw. -/
def latestSeen (reads : List (Option FundingStateName)) :
    Option FundingStateName :=
  reads.reduceOption.head?

/-- A cohort that fails for a lapse both its pollers saw: its wait lapsed, and
the latest reads of the wait and of the watch were both answered or both not. -/
def LapseRun.LapsedAlike (run : LapseRun) (cohortId : CohortId) : Prop :=
  ∃ entry ∈ run.ended,
    entry.cohortId = cohortId ∧ entry.Lapsed ∧
      entry.wait.answered entry.reads = latestAnswered (run.readsOf cohortId)

/-- The failures whose cause is shown.  A watch that is still in the tables,
with a view, and has not seen the address funded, is that of a cohort that
failed for a lapse both pollers saw. -/
def FailsAlike
    (options : ServiceOptions) (run : LapseRun) : LapseEvent → Prop
  | .service (.side (.cohortFailed cohortId _)) =>
      options.broadcast = true →
        cohortId ∈ run.service.side.service.fundingWatches →
          cohortId ∈ run.service.side.service.lastFundingView →
            latestSeen (run.readsOf cohortId) ≠ some .funded →
              run.LapsedAlike cohortId
  | _ => True

instance (entry : EndedWait) : Decidable entry.Lapsed :=
  inferInstanceAs (Decidable (_ ∧ _))

instance (run : LapseRun) (cohortId : CohortId) :
    Decidable (run.LapsedAlike cohortId) :=
  inferInstanceAs (Decidable (∃ _ ∈ _, _))

instance (options : ServiceOptions) (run : LapseRun) :
    ∀ event, Decidable (FailsAlike options run event)
  | .service event => by
      induction event using PublicEvent.casesOn with
      | side event =>
          induction event using SideEvent.casesOn <;> unfold FailsAlike <;>
            infer_instance
      | session session => exact isTrue trivial
      | monitor event => exact isTrue trivial
  | .waitEnds _ _ _ => isTrue trivial

end Law

section Writes

/-! ## Who writes a view -/

/-- A view that is there after a note is the one noted, or was there before. -/
theorem Monitor.lookup_noteFunding_cases
    {monitor : Monitor} {cohortId other : CohortId}
    {noted view : MonitoredFunding}
    (found :
      (monitor.noteFunding cohortId noted).fundingViews.lookup other =
        some view) :
    (other = cohortId ∧ view = noted) ∨
      monitor.fundingViews.lookup other = some view := by
  unfold noteFunding at found
  split at found
  · exact Or.inr found
  · split at found
    · exact Or.inr found
    · exact (InsertionMap.lookup_remember_cases found).imp_right And.right

namespace PublicRun

variable {options : ServiceOptions} {run : PublicRun} {other : CohortId}

/-- A view that is there after some calls was noted by one of them, or was there
before. -/
theorem lookup_called
    {view : MonitoredFunding} {calls : List MonitorEvent}
    (found : (run.called calls).fundingViews.lookup other = some view) :
    .noteFunding other view ∈ calls ∨
      run.monitor.fundingViews.lookup other = some view := by
  unfold called at found
  induction calls using List.reverseRecOn with
  | nil => exact Or.inr found
  | append_singleton earlier call inductionHypothesis =>
      rw [List.foldl_append, List.foldl_cons, List.foldl_nil] at found
      have before
          (held :
            (earlier.foldl
              (fun monitor call =>
                monitor.step run.session run.side.now call)
              run.monitor).fundingViews.lookup other = some view) :
          .noteFunding other view ∈ earlier ++ [call] ∨
            run.monitor.fundingViews.lookup other = some view :=
        (inductionHypothesis held).imp_left
          (List.mem_append_left [call])
      by_cases notes : ∃ cohortId noted, call = .noteFunding cohortId noted
      · obtain ⟨cohortId, noted, rfl⟩ := notes
        rcases Monitor.lookup_noteFunding_cases found with
          ⟨rfl, rfl⟩ | held
        · exact Or.inl (List.mem_append_right earlier (List.mem_singleton_self _))
        · exact before held
      · refine before (Monitor.lookup_fundingViews_step ?_ found)
        intro cohortId noted same
        exact notes ⟨cohortId, noted, same⟩

/-- A stamped view that a step leaves was there before, unless a failure of its
cohort has just stamped it. -/
theorem stamped_step
    {event : PublicEvent} {view : MonitoredFunding}
    (offered : run.Offered event)
    (found :
      (run.step options event).monitor.fundingViews.lookup other = some view)
    (stamped : view.terminal ≠ none) :
    run.monitor.fundingViews.lookup other = some view ∨
      ∃ reason last,
        event = .side (.cohortFailed other reason) ∧
          run.lapsing? options other = some last ∧ view = last.lapsed := by
  cases event with
  | session session => exact Or.inl found
  | monitor event =>
      refine Or.inl (Monitor.lookup_fundingViews_step ?_ found)
      rintro cohortId noted rfl
      exact offered
  | side event =>
      rcases lookup_called found with noted | before
      · right
        cases event with
        | watchPolls cohortId read =>
            -- a poll notes a view without a stamp
            simp only [calls] at noted
            split at noted
            · simp only [List.mem_cons, MonitorEvent.noteFunding.injEq,
                reduceCtorEq, List.not_mem_nil, or_false] at noted
              obtain ⟨-, rfl⟩ := noted
              exact absurd rfl stamped
            · cases noted
        | cohortFailed cohortId reason =>
            simp only [calls] at noted
            split at noted
            · next last lapsing =>
                simp only [List.mem_cons, MonitorEvent.noteFunding.injEq,
                  reduceCtorEq, List.not_mem_nil, or_false, false_or] at noted
                obtain ⟨rfl, rfl⟩ := noted
                exact ⟨reason, last, rfl, lapsing, rfl⟩
            · simp at noted
        | _ => simp [calls] at noted
      · exact Or.inl before

end PublicRun

end Writes

section Display

/-! ## What the display watches report -/

/-- An event that reports no read: views are released at most, and a loop
starts at the one keygen of its cohort. -/
structure SideRun.Unread (before after : SideRun) : Prop where
  views :
    ∀ cohortId view,
      after.service.lastFundingView.lookup cohortId = some view →
        before.service.lastFundingView.lookup cohortId = some view
  loops :
    ∀ loop ∈ after.loops,
      loop ∈ before.loops ∨
        loop.cohortId ∉ before.keygenDone ∧
          loop.cohortId ∈ after.keygenDone ∧ loop.lastState = .waiting
  keygenDone : ∀ cohortId ∈ before.keygenDone, cohortId ∈ after.keygenDone

namespace SideRun.Unread

variable {options : ServiceOptions} {run : SideRun} {cohortId : CohortId}

theorem of_same
    {after : SideRun}
    (views : after.service.lastFundingView = run.service.lastFundingView)
    (loops : after.loops = run.loops)
    (keygenDone : after.keygenDone = run.keygenDone) : Unread run after where
  views cohortId view found := by
    rw [views] at found
    exact found
  loops loop member := by
    rw [loops] at member
    exact Or.inl member
  keygenDone cohortId done := by
    rw [keygenDone]
    exact done

/-- How a cohort leaves the runner does not matter here. -/
theorem settle
    {after : SideRun} (unread : Unread run after) (path : SettlePath) :
    Unread run (after.settle cohortId path) where
  views := unread.views
  loops := unread.loops
  keygenDone := unread.keygenDone

theorem release : Unread run (run.release cohortId) where
  views _ _ found := InsertionMap.lookup_of_lookup_erase found
  loops loop member := by
    unfold SideRun.release at member
    dsimp only at member
    split at member
    · exact Or.inl (mem_otherLoops member).1
    · exact Or.inl member
  keygenDone _ done := done

theorem startWatch
    {beaconAddress : String} (fresh : cohortId ∉ run.keygenDone) :
    Unread run (run.startWatch options cohortId beaconAddress) where
  views other view found := by
    have same :
        (onKeygenComplete options run.service run.now cohortId
            beaconAddress).lastFundingView =
          run.service.lastFundingView := by
      unfold onKeygenComplete
      split
      · split <;> rfl
      · rfl
    unfold SideRun.startWatch at found
    dsimp only at found
    rw [same] at found
    exact found
  loops loop member := by
    unfold SideRun.startWatch at member
    dsimp only at member
    split at member
    · rcases List.mem_cons.mp member with rfl | before
      · exact Or.inr ⟨fresh, List.mem_cons_self, rfl⟩
      · exact Or.inl before
    · exact Or.inl member
  keygenDone _ done := List.mem_cons_of_mem _ done

/-- Every event but a poll. -/
theorem of_step
    {event : SideEvent} (offered : run.Offered event)
    (unpolled : ∀ cohortId read, event ≠ .watchPolls cohortId read) :
    Unread run (run.step options event) := by
  cases event with
  | watchPolls cohortId read => exact absurd rfl (unpolled cohortId read)
  | clock now => exact of_same rfl rfl rfl
  | disableBroadcast => exact of_same rfl rfl rfl
  | cohortAdvertised cohortId fundingWindowMs =>
      have same :
          (onAdvertised (onCohortAdvertised run.service run.now cohortId)
              cohortId fundingWindowMs).lastFundingView =
            run.service.lastFundingView := by
        cases fundingWindowMs <;>
          · simp only [onAdvertised, onCohortAdvertised]
            split <;> rfl
      exact of_same same rfl rfl
  | keygenComplete cohortId beaconAddress => exact startWatch offered.2
  | provideTxData cohortId =>
      simp only [SideRun.step]
      split <;> exact of_same rfl rfl rfl
  | waitEnds cohortId => exact of_same rfl rfl rfl
  | signingComplete cohortId scriptPath => exact release.settle .completed
  | cohortFailed cohortId reason =>
      simp only [SideRun.step, failureListener]
      split
      · exact release.settle .failed
      · exact of_same rfl rfl rfl
  | canceled cohortId => exact release.settle .canceled
  | windowExpired cohortId => exact of_same rfl rfl rfl
  | stop =>
      refine ⟨fun _ _ found => found, ?_, fun _ done => done⟩
      intro loop member
      exact Or.inl (List.mem_filter.mp member).1

end SideRun.Unread

theorem SideRun.exists_loopOf?
    {run : SideRun} {cohortId : CohortId} (watches : run.Watches cohortId) :
    ∃ loop, run.loopOf? cohortId = some loop := by
  obtain ⟨loop, running, same⟩ := watches_iff.mp watches
  apply Option.isSome_iff_exists.mp
  rw [loopOf?, List.find?_isSome]
  exact ⟨loop, running, decide_eq_true same⟩

namespace LapseRun

variable {options : ServiceOptions} {run : LapseRun}

theorem Offered.service
    {event : PublicEvent} (offered : run.Offered (.service event)) :
    run.service.Offered event := by
  cases event with
  | side event =>
      cases event with
      | waitEnds cohortId => exact absurd offered id
      | _ => exact offered
  | session session => exact offered
  | monitor event => exact offered

/-- The views and the loops hold what the watches read last. -/
structure Displays (run : LapseRun) : Prop where
  views :
    ∀ cohortId view,
      run.service.side.service.lastFundingView.lookup cohortId = some view →
        view.state = (latestSeen (run.readsOf cohortId)).getD .waiting ∧
          view.esploraStale = !latestAnswered (run.readsOf cohortId)
  loops :
    ∀ loop ∈ run.service.side.loops,
      loop.cohortId ∈ run.service.side.keygenDone ∧
        loop.lastState =
          (latestSeen (run.readsOf loop.cohortId)).getD .waiting
  keygenDone :
    ∀ entry ∈ run.displayed, entry.1 ∈ run.service.side.keygenDone

theorem displays_booted (options : ServiceOptions) :
    (booted options).Displays where
  views cohortId view found := by cases found
  loops loop member := by cases member
  keygenDone entry member := by cases member

/-- Nothing was read of a cohort whose keygen has not completed. -/
theorem Displays.readsOf_eq_nil
    (displays : run.Displays) {cohortId : CohortId}
    (fresh : cohortId ∉ run.service.side.keygenDone) :
    run.readsOf cohortId = [] := by
  rw [readsOf, List.map_eq_nil_iff, List.filter_eq_nil_iff]
  intro entry read same
  have done := displays.keygenDone entry read
  rw [of_decide_eq_true same] at done
  exact fresh done

theorem Displays.unread
    {after : LapseRun} (displays : run.Displays)
    (displayed : after.displayed = run.displayed)
    (unread : SideRun.Unread run.service.side after.service.side) :
    after.Displays := by
  have reads (cohortId : CohortId) :
      after.readsOf cohortId = run.readsOf cohortId := by
    rw [readsOf, readsOf, displayed]
  refine ⟨?_, ?_, ?_⟩
  · intro cohortId view found
    rw [reads]
    exact displays.views cohortId view (unread.views cohortId view found)
  · intro loop member
    rw [reads]
    rcases unread.loops loop member with before | ⟨fresh, done, waiting⟩
    · obtain ⟨done, same⟩ := displays.loops loop before
      exact ⟨unread.keygenDone _ done, same⟩
    · refine ⟨done, ?_⟩
      rw [waiting, displays.readsOf_eq_nil fresh]
      rfl
  · intro entry member
    rw [displayed] at member
    exact unread.keygenDone _ (displays.keygenDone entry member)

theorem readsOf_watchPolls
    (cohortId other : CohortId) (read : Option FundingStateName) :
    (run.step options
          (.service (.side (.watchPolls cohortId read)))).readsOf other =
      if cohortId = other then read :: run.readsOf other
      else run.readsOf other := by
  simp only [step, display, readsOf, List.filter_cons, decide_eq_true_eq]
  split <;> rfl

/-- What is seen last after one more read. -/
theorem latestSeen_cons
    (read : Option FundingStateName) (reads : List (Option FundingStateName)) :
    (latestSeen (read :: reads)).getD .waiting =
      read.getD ((latestSeen reads).getD .waiting) := by
  cases read with
  | none => rfl
  | some seen => rfl

/-- A read of a watch is what its view and its loop then hold. -/
theorem Displays.watchPolls
    (displays : run.Displays) {cohortId : CohortId}
    {read : Option FundingStateName} {loop : WatchLoop}
    (found : run.service.side.loopOf? cohortId = some loop) :
    (run.step options
      (.service (.side (.watchPolls cohortId read)))).Displays := by
  obtain ⟨running, rfl⟩ := SideRun.mem_of_loopOf? found
  obtain ⟨done, lastState⟩ := displays.loops loop running
  have side :
      (run.step options
            (.service (.side (.watchPolls loop.cohortId read)))).service.side =
        run.service.side.watchPoll loop read := by
    simp only [step, PublicRun.step, SideRun.step, found]
  have seen :
      read.getD loop.lastState =
        (latestSeen (read :: run.readsOf loop.cohortId)).getD .waiting := by
    rw [latestSeen_cons, lastState]
  refine ⟨?_, ?_, ?_⟩
  · intro other view held
    rw [side, SideRun.lastFundingView_watchPoll] at held
    rw [readsOf_watchPolls]
    rcases InsertionMap.lookup_remember_cases held with
      ⟨rfl, rfl⟩ | ⟨different, before⟩
    · rw [if_pos rfl, ← seen]
      refine ⟨rfl, ?_⟩
      cases read with
      | none => rfl
      | some state => rfl
    · rw [if_neg (Ne.symm different)]
      exact displays.views other view before
  · intro other member
    rw [side] at member ⊢
    have others
        (kept : other ∈ run.service.side.otherLoops loop.cohortId) :
        other.cohortId ∈ run.service.side.keygenDone ∧
          other.lastState =
            (latestSeen (if loop.cohortId = other.cohortId
              then read :: run.readsOf other.cohortId
              else run.readsOf other.cohortId)).getD .waiting := by
      obtain ⟨before, different⟩ := SideRun.mem_otherLoops kept
      rw [if_neg (Ne.symm different)]
      exact displays.loops other before
    rw [readsOf_watchPolls]
    unfold SideRun.watchPoll at member
    dsimp only at member
    split at member
    · exact others member
    · rcases List.mem_cons.mp member with rfl | kept
      · rw [if_pos rfl]
        exact ⟨done, seen⟩
      · exact others kept
  · intro entry member
    rw [side]
    rcases List.mem_cons.mp member with rfl | before
    · exact done
    · exact displays.keygenDone entry before

theorem Displays.step
    (displays : run.Displays) {event : LapseEvent}
    (offered : run.Offered event) : (run.step options event).Displays := by
  cases event with
  | waitEnds cohortId wait fuel =>
      have unpolled :
          ∀ other read, SideEvent.waitEnds cohortId ≠ .watchPolls other read := by
        intro other read same
        cases same
      have unread :
          SideRun.Unread run.service.side
            (run.service.side.step options (.waitEnds cohortId)) :=
        .of_step offered.1.1 unpolled
      exact displays.unread rfl unread
  | service event =>
      cases event with
      | session session =>
          exact displays.unread rfl (SideRun.Unread.of_same rfl rfl rfl)
      | monitor event =>
          exact displays.unread rfl (SideRun.Unread.of_same rfl rfl rfl)
      | side event =>
          by_cases polls : ∃ cohortId read, event = .watchPolls cohortId read
          · obtain ⟨cohortId, read, rfl⟩ := polls
            obtain ⟨loop, found⟩ :=
              SideRun.exists_loopOf? offered.service.1.2
            exact displays.watchPolls found
          · have unread :
                SideRun.Unread run.service.side
                  (run.service.side.step options event) :=
              .of_step offered.service.1 fun cohortId read same =>
                polls ⟨cohortId, read, same⟩
            refine displays.unread ?_ unread
            cases event with
            | watchPolls cohortId read => exact absurd ⟨cohortId, read, rfl⟩ polls
            | _ => rfl

end LapseRun

end Display

section Runs

/-! ## The law over whole runs -/

/-- The entry is what became of its wait. -/
def EndedWait.Happened (entry : EndedWait) : Prop :=
  ∃ fuel settled,
    waitForFunding entry.wait fuel = some settled ∧
      entry.reads = entry.wait.polls fuel 0 entry.wait.startMs ∧
        entry.verdict = settled.verdict

theorem EndedWait.verdict_of_lapsed
    {entry : EndedWait} (happened : entry.Happened) (lapsed : entry.Lapsed) :
    entry.verdict =
      if entry.wait.answered entry.reads then .neverArrived
      else .couldNotObserve := by
  obtain ⟨fuel, settled, ended, counted, verdict⟩ := happened
  obtain ⟨goesOn, running⟩ := lapsed
  rw [counted] at goesOn running ⊢
  rw [verdict]
  exact
    FundingWait.verdict_of_goesOn fuel 0 false rfl ended goesOn running

namespace LapseRun

variable {options : ServiceOptions} {run : LapseRun}

/-- What the tables and the histories of a run have to do with each other.
Every stamp in the monitor is how a wait of its cohort ended. -/
structure Attested (run : LapseRun) : Prop where
  displays : run.Displays
  happened : ∀ entry ∈ run.ended, entry.Happened
  stamps :
    ∀ cohortId view terminal,
      run.service.monitor.fundingViews.lookup cohortId = some view →
        view.terminal = some terminal →
          (cohortId, terminal.cause) ∈ run.verdicts

theorem attested_booted (options : ServiceOptions) :
    (booted options).Attested where
  displays := displays_booted options
  happened entry member := by cases member
  stamps cohortId view terminal found := by cases found

/-- The cause a failure stamps is the one a lapse alike ends with. -/
theorem Attested.cause_lapsed
    (attested : run.Attested) {cohortId : CohortId} {last : FundingView}
    {terminal : FundingTerminal} {reason : String}
    (alike :
      FailsAlike options run (.service (.side (.cohortFailed cohortId reason))))
    (lapsing : run.service.lapsing? options cohortId = some last)
    (stamped : last.lapsed.terminal = some terminal) :
    (cohortId, terminal.cause) ∈ run.verdicts := by
  unfold PublicRun.lapsing? at lapsing
  split at lapsing
  · next watched =>
      obtain ⟨held, unfunded⟩ := Option.filter_eq_some_iff.mp lapsing
      obtain ⟨state, stale⟩ := attested.displays.views cohortId last held
      have unseen : latestSeen (run.readsOf cohortId) ≠ some .funded := by
        intro seen
        rw [seen] at state
        exact of_decide_eq_true unfunded state
      obtain ⟨entry, member, rfl, lapsed, same⟩ :=
        alike watched.1 watched.2 (InsertionMap.mem_of_lookup held) unseen
      have verdict :=
        EndedWait.verdict_of_lapsed (attested.happened entry member) lapsed
      have cause : terminal.cause = entry.verdict := by
        cases stamped
        rw [verdict, same, stale]
        cases latestAnswered (run.readsOf entry.cohortId) <;> rfl
      rw [cause]
      exact List.mem_map_of_mem member
  · cases lapsing

/-- A step keeps the stamps attested where a new stamp is. -/
theorem Attested.step
    (attested : run.Attested) {event : LapseEvent}
    (offered : run.Offered event) (alike : FailsAlike options run event) :
    (run.step options event).Attested where
  displays := attested.displays.step offered
  happened := by
    cases event with
    | service event => exact attested.happened
    | waitEnds cohortId wait fuel =>
        intro entry member
        simp only [LapseRun.step] at member
        split at member
        · next settled ended =>
            rcases List.mem_cons.mp member with rfl | before
            · exact ⟨fuel, settled, ended, rfl, rfl⟩
            · exact attested.happened entry before
        · exact attested.happened entry member
  stamps := by
    intro cohortId view terminal found stamped
    have present : view.terminal ≠ none := by
      rw [stamped]
      exact Option.some_ne_none terminal
    cases event with
    | service event =>
        rcases PublicRun.stamped_step offered.service found present with
          before | ⟨reason, last, rfl, lapsing, rfl⟩
        · exact attested.stamps cohortId view terminal before stamped
        · exact attested.cause_lapsed alike lapsing stamped
    | waitEnds waiting wait fuel =>
        rcases PublicRun.stamped_step offered.1 found present with
          before | ⟨reason, last, failed, -⟩
        · have earlier := attested.stamps cohortId view terminal before stamped
          simp only [LapseRun.step, verdicts]
          split
          · exact List.mem_cons_of_mem _ earlier
          · exact earlier
        · cases failed

end LapseRun

instance (options : ServiceOptions) (run : LapseRun) (event : LapseEvent) :
    Decidable ((lapseMachine options).admits run event) :=
  inferInstanceAs (Decidable (run.Offered event))

/-- Along every run whose watched cohorts fail for a lapse both pollers saw,
whatever the schedules of the display watches and of the waits, the stamp a
failed cohort shows is how its wait ended. -/
theorem causesShown_of_failsAlike
    (options : ServiceOptions) (events : List LapseEvent)
    (admissible :
      ((lapseMachine options).restrict (FailsAlike options)).Admits events) :
    ((lapseMachine options).run events).CausesShown := by
  have always :
      ((lapseMachine options).restrict (FailsAlike options)).Always
        LapseRun.Attested := by
    apply Machine.Always.of_inductive
    · exact LapseRun.attested_booted options
    · rintro run event attested ⟨offered, alike⟩
      exact attested.step offered alike
  intro cohortId view terminal _ found stamped
  exact (always events admissible).stamps cohortId view terminal found stamped

/-- A wait of one second over an address with these answers. -/
def secondWait (answers : Nat → Option (List AddressUtxo)) : FundingWait where
  selectSpendableUtxo utxos _ := utxos.head?
  beaconAddress := "a"
  suggestedMinSats := computeSuggestedMinSats none
  deadlineMs := ((1000 : ℚ) : WithTop ℚ)
  startMs := 0
  pollIntervalMs := 5000
  latencyMs _ := 100
  answers
  abortedAtMs := none

/-- A cohort that fails on a clean lapse, and one that fails blind. -/
def twoLapses : List LapseEvent :=
  [.service (.side (.cohortAdvertised 0 none)),
    .service (.side (.keygenComplete 0 "a")),
    .service (.side (.provideTxData 0)),
    .service (.side (.watchPolls 0 (some .waiting))),
    .waitEnds 0 (secondWait fun _ => some []) 2,
    .service (.side (.cohortFailed 0 "funding never arrived")),
    .service (.side (.cohortAdvertised 1 none)),
    .service (.side (.keygenComplete 1 "a")),
    .service (.side (.provideTxData 1)),
    .service (.side (.watchPolls 1 none)),
    .waitEnds 1 (secondWait fun _ => none) 2,
    .service (.side (.cohortFailed 1 "could not observe the chain"))]

theorem causesShown_of_failsAlike_twoLapses :
    ((lapseMachine waitingOptions).run twoLapses).CausesShown :=
  causesShown_of_failsAlike waitingOptions twoLapses (by decide +kernel)

/-- The shown cause as a promise about every run. -/
def CausePromise : Prop :=
  ∀ options events,
    (lapseMachine options).Admits events →
      ((lapseMachine options).run events).CausesShown

/-- The wait of cohort `0` finds a dead end, and the watch has seen it too. -/
def failsOnDeadEnd : List LapseEvent :=
  [.service (.side (.cohortAdvertised 0 none)),
    .service (.side (.keygenComplete 0 "a")),
    .service (.side (.provideTxData 0)),
    .service (.side (.watchPolls 0 (some .deadEnd))),
    .waitEnds 0 (secondWait fun _ => some [⟨"t", 0, 600, true, some 1⟩]) 1,
    .service (.side (.cohortFailed 0 "below the funding floor"))]

/-- It is shown as a window that closed. -/
theorem not_causePromise : ¬ CausePromise := by
  intro promise
  have admissible : (lapseMachine waitingOptions).Admits failsOnDeadEnd := by
    decide +kernel
  have shown :
      (((lapseMachine waitingOptions).run
          failsOnDeadEnd).service.monitor.fundingViews.lookup 0).bind
          MonitoredFunding.terminal = some .windowClosed := by
    decide +kernel
  have failed :
      ((lapseMachine waitingOptions).run
          failsOnDeadEnd).service.side.settled.lookup 0 = some .failed := by
    decide +kernel
  have lawful :
      (0, FundingVerdict.neverArrived) ∉
        ((lapseMachine waitingOptions).run failsOnDeadEnd).verdicts := by
    decide +kernel
  obtain ⟨view, found, stamped⟩ := Option.bind_eq_some_iff.mp shown
  exact
    lawful
      (promise waitingOptions failsOnDeadEnd admissible 0 view .windowClosed
        failed found stamped)

end Runs

end Btcr2Aggregation
