import Mathlib.Data.List.Induction
import Btcr2Aggregation.Service.Broadcast

/-!
# The lifecycle of a broadcast

Each cohort has a story: the await its task is at, the frames published about
it and the transactions sent for it.  An event touches the story of one cohort
only, so the stories are followed one at a time.

Stated of whole runs: the frames of a cohort stay within the two words
`[failed]` and `[broadcast, anchored]`, every send of a cohort carries the bytes
serialised at its completion and their number is bounded, a closed gate means
silence, a stop means silence, and the folded anchor state of a cohort never
leaves `confirmed` or `failed` except by being forgotten.
-/

namespace Btcr2Aggregation

section Views

/-! ## One cohort of a run -/

/-- What a run holds about one cohort. -/
structure CohortView where
  task : Option BroadcastTask
  word : List AnchorFrame
  raws : List String

namespace BroadcastRun

/-- The frames published about a cohort, oldest first. -/
def word (run : BroadcastRun) (cohortId : CohortId) : List AnchorFrame :=
  run.frames.filter (·.cohortId = cohortId)

/-- The transactions sent for a cohort, oldest first. -/
def raws (run : BroadcastRun) (cohortId : CohortId) : List String :=
  (run.sends.filter (·.1 = cohortId)).map Prod.snd

def view (run : BroadcastRun) (cohortId : CohortId) : CohortView where
  task := run.tasks.lookup cohortId
  word := run.word cohortId
  raws := run.raws cohortId

variable
  (options : BroadcastOptions) (run : BroadcastRun) (cohortId other : CohortId)
  (task : BroadcastTask)

@[simp]
theorem stopped_emit (frame : AnchorFrame) :
    (run.emit frame).stopped = run.stopped := by
  rw [emit]
  split <;> rfl

@[simp]
theorem completed_emit (frame : AnchorFrame) :
    (run.emit frame).completed = run.completed := by
  rw [emit]
  split <;> rfl

@[simp]
theorem stopped_enter (phase : BroadcastPhase) :
    (run.enter cohortId task phase).stopped = run.stopped :=
  rfl

theorem view_emit_elsewhere
    {frame : AnchorFrame} (elsewhere : frame.cohortId ≠ other) :
    (run.emit frame).view other = run.view other := by
  rw [emit]
  split
  · rfl
  · simp [view, word, raws, List.filter_append, elsewhere]

theorem view_enter_elsewhere
    (phase : BroadcastPhase) (elsewhere : other ≠ cohortId) :
    (run.enter cohortId task phase).view other = run.view other := by
  simp only [view, word, raws, enter,
    InsertionMap.lookup_set_of_ne elsewhere]

theorem view_enter_self (phase : BroadcastPhase) :
    (run.enter cohortId task phase).view cohortId =
      { run.view cohortId with task := some { task with phase } } := by
  simp only [view, word, raws, enter, InsertionMap.lookup_set_self]

/-- The last frame of a task, unless the stop has silenced it. -/
theorem view_finish
    {frame : AnchorFrame} (about : frame.cohortId = cohortId) :
    ((run.enter cohortId task .done).emit frame).view cohortId =
      ⟨some { task with phase := .done },
        if run.stopped then run.word cohortId
        else run.word cohortId ++ [frame],
        run.raws cohortId⟩ := by
  have entered := view_enter_self run cohortId task .done
  rw [emit, stopped_enter]
  split
  · exact entered
  · simp only [view, CohortView.mk.injEq] at entered ⊢
    refine ⟨entered.1, ?_, rfl⟩
    simp [word, enter, List.filter_append, about]

/-- An event of one cohort leaves every other as it is. -/
theorem view_fail_elsewhere
    {message : String} (elsewhere : other ≠ cohortId) :
    (run.fail options cohortId task message).view other = run.view other := by
  rw [fail, view_emit_elsewhere _ _ (Ne.symm elsewhere),
    view_enter_elsewhere _ _ _ _ _ elsewhere]

theorem view_attempt_elsewhere
    {number : Nat} {lastError : String} (elsewhere : other ≠ cohortId) :
    (run.attempt options cohortId task number lastError).view other =
      run.view other := by
  rw [attempt]
  split
  · have entered :=
      view_enter_elsewhere run cohortId other task (.sending number) elsewhere
    simpa [view, word, raws, enter, List.filter_append,
      Ne.symm elsewhere] using entered
  · exact view_fail_elsewhere _ _ _ _ _ elsewhere

theorem view_confirm_elsewhere
    {txid : String} {deadline : JsNumber} {now : Nat}
    (elsewhere : other ≠ cohortId) :
    (run.confirm cohortId task txid deadline now).view other =
      run.view other := by
  rw [confirm]
  split
  · exact view_enter_elsewhere _ _ _ _ _ elsewhere
  · rw [view_emit_elsewhere _ _ (Ne.symm elsewhere),
      view_enter_elsewhere _ _ _ _ _ elsewhere]

theorem view_accept_elsewhere
    {txid : String} {acceptedAt testedAt : Nat}
    (elsewhere : other ≠ cohortId) :
    (run.accept options cohortId task txid acceptedAt testedAt).view other =
      run.view other := by
  rw [accept, view_confirm_elsewhere _ _ _ _ elsewhere,
    view_emit_elsewhere _ _ (Ne.symm elsewhere)]

theorem view_reject_elsewhere
    {number acceptedAt testedAt : Nat} {message : String}
    (elsewhere : other ≠ cohortId) :
    (run.reject options cohortId task number message acceptedAt
        testedAt).view other =
      run.view other := by
  rw [reject]
  split
  · exact view_accept_elsewhere _ _ _ _ _ elsewhere
  · split
    · exact view_fail_elsewhere _ _ _ _ _ elsewhere
    · exact view_enter_elsewhere _ _ _ _ _ elsewhere

theorem view_handleSigningComplete_elsewhere
    {gate : Bool} {extracted : Except String String}
    {expectedTxid : Option String} (elsewhere : other ≠ cohortId) :
    (run.handleSigningComplete options cohortId gate extracted
        expectedTxid).view other =
      run.view other := by
  unfold handleSigningComplete
  split
  · split
    · exact view_emit_elsewhere _ _ (Ne.symm elsewhere)
    · exact view_attempt_elsewhere _ _ _ _ _ elsewhere
  · rfl

theorem view_step_elsewhere
    {event : BroadcastEvent} (elsewhere : event.cohortId? ≠ some other) :
    (run.step options event).view other = run.view other := by
  cases event with
  | signingComplete cohortId gate extracted expectedTxid =>
      have different : other ≠ cohortId := by
        rintro rfl
        exact elsewhere rfl
      rw [step]
      dsimp only
      split
      · rfl
      · rw [view_handleSigningComplete_elsewhere _ _ _ _ different]
        rfl
  | sendAnswers cohortId answer acceptedAt testedAt =>
      have different : other ≠ cohortId := by
        rintro rfl
        exact elsewhere rfl
      rw [step]
      split
      · split
        · exact view_accept_elsewhere _ _ _ _ _ different
        · exact view_reject_elsewhere _ _ _ _ _ different
        · rfl
      · rfl
  | backoffEnds cohortId =>
      have different : other ≠ cohortId := by
        rintro rfl
        exact elsewhere rfl
      rw [step]
      split
      · split
        · split
          · exact view_fail_elsewhere _ _ _ _ _ different
          · exact view_attempt_elsewhere _ _ _ _ _ different
        · rfl
      · rfl
  | pollAnswers cohortId confirmed =>
      have different : other ≠ cohortId := by
        rintro rfl
        exact elsewhere rfl
      rw [step]
      split
      · split
        · split
          · rw [view_emit_elsewhere _ _ (Ne.symm different),
              view_enter_elsewhere _ _ _ _ _ different]
          · exact view_enter_elsewhere _ _ _ _ _ different
        · rfl
      · rfl
  | pauseEnds cohortId now =>
      have different : other ≠ cohortId := by
        rintro rfl
        exact elsewhere rfl
      rw [step]
      split
      · split
        · exact view_confirm_elsewhere _ _ _ _ different
        · rfl
      · rfl
  | stop => rfl

@[simp]
theorem completed_fail (message : String) :
    (run.fail options cohortId task message).completed = run.completed := by
  rw [fail, completed_emit]
  rfl

@[simp]
theorem completed_attempt (number : Nat) (lastError : String) :
    (run.attempt options cohortId task number lastError).completed =
      run.completed := by
  rw [attempt]
  split
  · rfl
  · exact completed_fail _ _ _ _ _

@[simp]
theorem completed_confirm (txid : String) (deadline : JsNumber) (now : Nat) :
    (run.confirm cohortId task txid deadline now).completed =
      run.completed := by
  rw [confirm]
  split
  · rfl
  · rw [completed_emit]
    rfl

@[simp]
theorem completed_accept (txid : String) (acceptedAt testedAt : Nat) :
    (run.accept options cohortId task txid acceptedAt testedAt).completed =
      run.completed := by
  rw [accept, completed_confirm, completed_emit]

@[simp]
theorem completed_reject
    (number acceptedAt testedAt : Nat) (message : String) :
    (run.reject options cohortId task number message acceptedAt
        testedAt).completed =
      run.completed := by
  rw [reject]
  split
  · exact completed_accept _ _ _ _ _ _ _
  · split
    · exact completed_fail _ _ _ _ _
    · rfl

theorem completed_handleSigningComplete
    (gate : Bool) (extracted : Except String String)
    (expectedTxid : Option String) :
    (run.handleSigningComplete options cohortId gate extracted
        expectedTxid).completed =
      run.completed := by
  unfold handleSigningComplete
  split
  · split
    · exact completed_emit _ _
    · exact completed_attempt _ _ _ _ _ _
  · rfl

/-- A completion stays on record. -/
theorem mem_completed_step
    {event : BroadcastEvent} (completed : other ∈ run.completed) :
    other ∈ (run.step options event).completed := by
  cases event with
  | signingComplete cohortId gate extracted expectedTxid =>
      rw [step]
      dsimp only
      split
      · exact List.mem_cons_of_mem _ completed
      · rw [completed_handleSigningComplete]
        exact List.mem_cons_of_mem _ completed
  | sendAnswers cohortId answer acceptedAt testedAt =>
      rw [step]
      repeat' split
      all_goals simpa using completed
  | backoffEnds cohortId =>
      rw [step]
      repeat' split
      all_goals simpa using completed
  | pollAnswers cohortId confirmed =>
      rw [step]
      repeat' split
      all_goals simpa [enter] using completed
  | pauseEnds cohortId now =>
      rw [step]
      repeat' split
      all_goals simpa using completed
  | stop => exact completed

end BroadcastRun

end Views

section Stories

/-! ## The story of one cohort -/

variable (options : BroadcastOptions) (cohortId : CohortId)

/-- Sends of one transaction, no more than the limit. -/
def Spent (rawHex : String) (raws : List String) : Prop :=
  (∀ sent ∈ raws, sent = rawHex) ∧
    (raws.length : ℕ∞) ≤ sendLimit options.configuredAttempts

/-- The words a finished task can have published. -/
inductive Spoken : List AnchorFrame → Prop where
  | silent : Spoken []
  | failed (reason : String) : Spoken [.failed cohortId reason]
  | broadcast (txid : String) : Spoken [.broadcast cohortId txid]
  | anchored (txid : String) (confirmed : Bool) :
      Spoken
        [.broadcast cohortId txid, .anchored cohortId txid confirmed]

/-- How far a cohort has come, with what it has published and sent by then. -/
inductive Story : CohortView → Prop where
  | idle : Story ⟨none, [], []⟩
  | unserialised (reason : String) :
      Story ⟨none, [.failed cohortId reason], []⟩
  | sending (rawHex : String) (expectedTxid : Option String) (number : Nat)
      (raws : List String) (spent : Spent options rawHex raws)
      (rounds : raws.length = number + 1) :
      Story ⟨some ⟨rawHex, expectedTxid, .sending number⟩, [], raws⟩
  | backingOff (rawHex : String) (expectedTxid : Option String) (number : Nat)
      (lastError : String) (raws : List String)
      (spent : Spent options rawHex raws)
      (rounds : raws.length = number + 1) :
      Story
        ⟨some ⟨rawHex, expectedTxid, .backingOff number lastError⟩, [], raws⟩
  | polling (rawHex : String) (expectedTxid : Option String) (txid : String)
      (deadline : JsNumber) (raws : List String)
      (spent : Spent options rawHex raws) :
      Story
        ⟨some ⟨rawHex, expectedTxid, .polling txid deadline⟩,
          [.broadcast cohortId txid], raws⟩
  | pausing (rawHex : String) (expectedTxid : Option String) (txid : String)
      (deadline : JsNumber) (raws : List String)
      (spent : Spent options rawHex raws) :
      Story
        ⟨some ⟨rawHex, expectedTxid, .pausing txid deadline⟩,
          [.broadcast cohortId txid], raws⟩
  | done (rawHex : String) (expectedTxid : Option String)
      (word : List AnchorFrame) (raws : List String)
      (spent : Spent options rawHex raws) (spoken : Spoken cohortId word) :
      Story ⟨some ⟨rawHex, expectedTxid, .done⟩, word, raws⟩

variable {options : BroadcastOptions} {cohortId : CohortId}

/-- Every stage of a story speaks within the grammar. -/
theorem Story.spoken {view : CohortView} (story : Story options cohortId view) :
    Spoken cohortId view.word := by
  cases story with
  | idle => exact .silent
  | unserialised reason => exact .failed reason
  | sending _ _ _ _ _ _ => exact .silent
  | backingOff _ _ _ _ _ _ _ => exact .silent
  | polling _ _ txid _ _ _ => exact .broadcast txid
  | pausing _ _ txid _ _ _ => exact .broadcast txid
  | done _ _ _ _ _ spoken => exact spoken

/-- Every stage of a story has sent one transaction, within the limit. -/
theorem Story.spent {view : CohortView} (story : Story options cohortId view) :
    ∃ rawHex, Spent options rawHex view.raws := by
  cases story with
  | idle => exact ⟨"", by simp [Spent]⟩
  | unserialised _ => exact ⟨"", by simp [Spent]⟩
  | sending rawHex _ _ _ spent _ => exact ⟨rawHex, spent⟩
  | backingOff rawHex _ _ _ _ spent _ => exact ⟨rawHex, spent⟩
  | polling rawHex _ _ _ _ spent => exact ⟨rawHex, spent⟩
  | pausing rawHex _ _ _ _ spent => exact ⟨rawHex, spent⟩
  | done rawHex _ _ _ spent _ => exact ⟨rawHex, spent⟩

namespace BroadcastRun

/-- The throw of a task that has published nothing. -/
theorem story_fail
    {run : BroadcastRun} {rawHex message : String}
    {expectedTxid : Option String} {phase : BroadcastPhase}
    (spent : Spent options rawHex (run.raws cohortId))
    (silent : run.word cohortId = []) :
    Story options cohortId
      ((run.fail options cohortId ⟨rawHex, expectedTxid, phase⟩ message).view
        cohortId) := by
  rw [fail, view_finish run cohortId _ rfl, silent]
  split
  · exact .done rawHex expectedTxid _ _ spent .silent
  · exact .done rawHex expectedTxid _ _ spent (.failed _)

/-- One more send, or the throw. -/
theorem story_attempt
    {run : BroadcastRun} {rawHex lastError : String}
    {expectedTxid : Option String} {phase : BroadcastPhase} {number : Nat}
    (spent : Spent options rawHex (run.raws cohortId))
    (rounds : (run.raws cohortId).length = number)
    (silent : run.word cohortId = []) :
    Story options cohortId
      ((run.attempt options cohortId ⟨rawHex, expectedTxid, phase⟩ number
        lastError).view cohortId) := by
  rw [attempt]
  split
  · next mayRun =>
      have limit := succ_le_sendLimit mayRun
      have viewAfter :
          ({ run.enter cohortId ⟨rawHex, expectedTxid, phase⟩
                (.sending number) with
              sends := run.sends ++ [(cohortId, rawHex)] } :
            BroadcastRun).view cohortId =
            ⟨some ⟨rawHex, expectedTxid, .sending number⟩, [],
              run.raws cohortId ++ [rawHex]⟩ := by
        have lookedUp := view_enter_self run cohortId
          ⟨rawHex, expectedTxid, phase⟩ (.sending number)
        simp only [view, CohortView.mk.injEq] at lookedUp
        simp only [view, lookedUp.1, CohortView.mk.injEq, true_and]
        constructor
        · exact silent
        · simp [raws, List.filter_append]
      rw [viewAfter]
      refine .sending rawHex expectedTxid number _ ⟨?_, ?_⟩ ?_
      · intro sent member
        rcases List.mem_append.mp member with earlier | now
        · exact spent.1 sent earlier
        · exact List.mem_singleton.mp now
      · rw [List.length_append, rounds]
        exact limit
      · rw [List.length_append, rounds]
        rfl
  · exact story_fail spent silent

/-- The confirmation loop of a task that has published its acceptance, or of
one the stop has silenced. -/
theorem story_confirm
    {run : BroadcastRun} {rawHex txid : String}
    {expectedTxid : Option String} {phase : BroadcastPhase}
    {deadline : JsNumber} {now : Nat}
    (spent : Spent options rawHex (run.raws cohortId))
    (spoken : run.stopped = true → Spoken cohortId (run.word cohortId))
    (published :
      run.stopped = false →
        run.word cohortId = [.broadcast cohortId txid]) :
    Story options cohortId
      ((run.confirm cohortId ⟨rawHex, expectedTxid, phase⟩ txid deadline
        now).view cohortId) := by
  rw [confirm]
  by_cases stopped : run.stopped = true
  · rw [if_neg (by simp [stopped]), view_finish run cohortId _ rfl,
      if_pos stopped]
    exact .done rawHex expectedTxid _ _ spent (spoken stopped)
  · have running : run.stopped = false := by
      simpa using stopped
    have wordIs := published running
    split
    · rw [view_enter_self]
      simp only [view, wordIs]
      exact .polling rawHex expectedTxid txid deadline _ spent
    · rw [view_finish run cohortId _ rfl, if_neg stopped, wordIs]
      exact .done rawHex expectedTxid _ _ spent (.anchored txid false)

/-- The acceptance of a task that has published nothing. -/
theorem story_accept
    {run : BroadcastRun} {rawHex txid : String}
    {expectedTxid : Option String} {phase : BroadcastPhase}
    {acceptedAt testedAt : Nat}
    (spent : Spent options rawHex (run.raws cohortId))
    (silent : run.word cohortId = []) :
    Story options cohortId
      ((run.accept options cohortId ⟨rawHex, expectedTxid, phase⟩ txid
        acceptedAt testedAt).view cohortId) := by
  rw [accept]
  have rawsAfter :
      (run.emit (.broadcast cohortId txid)).raws cohortId =
        run.raws cohortId := by
    rw [emit]
    split <;> rfl
  apply story_confirm
  · rw [rawsAfter]
    exact spent
  · intro stopped
    rw [stopped_emit] at stopped
    rw [emit, if_pos stopped, silent]
    exact .silent
  · intro running
    rw [stopped_emit] at running
    rw [emit, if_neg (by simp [running])]
    simp only [word, List.filter_append] at silent ⊢
    rw [silent]
    simp [AnchorFrame.cohortId]

/-- The rejection of a send. -/
theorem story_reject
    {run : BroadcastRun} {rawHex message : String}
    {expectedTxid : Option String} {phase : BroadcastPhase}
    {number acceptedAt testedAt : Nat}
    (spent : Spent options rawHex (run.raws cohortId))
    (rounds : (run.raws cohortId).length = number + 1)
    (silent : run.word cohortId = []) :
    Story options cohortId
      ((run.reject options cohortId ⟨rawHex, expectedTxid, phase⟩ number
        message acceptedAt testedAt).view cohortId) := by
  rw [reject]
  split
  · exact story_accept spent silent
  · split
    · exact story_fail spent silent
    · rw [view_enter_self]
      simp only [view, silent]
      exact .backingOff rawHex expectedTxid number message _ spent rounds

end BroadcastRun

section Facts

variable
  {task : BroadcastTask} {word : List AnchorFrame} {raws : List String}
  {number : Nat} {lastError txid : String} {deadline : JsNumber}

theorem Story.of_sending
    (story : Story options cohortId ⟨some task, word, raws⟩)
    (stage : task.phase = .sending number) :
    word = [] ∧ Spent options task.rawHex raws ∧
      raws.length = number + 1 := by
  cases story with
  | sending rawHex expectedTxid _ _ spent rounds =>
      cases stage
      exact ⟨rfl, spent, rounds⟩
  | backingOff _ _ _ _ _ _ _ => cases stage
  | polling _ _ _ _ _ _ => cases stage
  | pausing _ _ _ _ _ _ => cases stage
  | done _ _ _ _ _ _ => cases stage

theorem Story.of_backingOff
    (story : Story options cohortId ⟨some task, word, raws⟩)
    (stage : task.phase = .backingOff number lastError) :
    word = [] ∧ Spent options task.rawHex raws ∧
      raws.length = number + 1 := by
  cases story with
  | sending _ _ _ _ _ _ => cases stage
  | backingOff rawHex expectedTxid _ _ _ spent rounds =>
      cases stage
      exact ⟨rfl, spent, rounds⟩
  | polling _ _ _ _ _ _ => cases stage
  | pausing _ _ _ _ _ _ => cases stage
  | done _ _ _ _ _ _ => cases stage

theorem Story.of_polling
    (story : Story options cohortId ⟨some task, word, raws⟩)
    (stage : task.phase = .polling txid deadline) :
    word = [.broadcast cohortId txid] ∧ Spent options task.rawHex raws := by
  cases story with
  | sending _ _ _ _ _ _ => cases stage
  | backingOff _ _ _ _ _ _ _ => cases stage
  | polling rawHex expectedTxid _ _ _ spent =>
      cases stage
      exact ⟨rfl, spent⟩
  | pausing _ _ _ _ _ _ => cases stage
  | done _ _ _ _ _ _ => cases stage

theorem Story.of_pausing
    (story : Story options cohortId ⟨some task, word, raws⟩)
    (stage : task.phase = .pausing txid deadline) :
    word = [.broadcast cohortId txid] ∧ Spent options task.rawHex raws := by
  cases story with
  | sending _ _ _ _ _ _ => cases stage
  | backingOff _ _ _ _ _ _ _ => cases stage
  | polling _ _ _ _ _ _ => cases stage
  | pausing rawHex expectedTxid _ _ _ spent =>
      cases stage
      exact ⟨rfl, spent⟩
  | done _ _ _ _ _ _ => cases stage

end Facts

/-- Every cohort has a story; one that has not completed has none to tell. -/
structure Stories (options : BroadcastOptions) (run : BroadcastRun) : Prop where
  each : ∀ cohortId, Story options cohortId (run.view cohortId)
  fresh : ∀ cohortId ∉ run.completed, run.view cohortId = ⟨none, [], []⟩

namespace Stories

variable {run next : BroadcastRun}

theorem booted : Stories options .booted where
  each _ := .idle
  fresh _ _ := rfl

/-- A cohort with a task has completed. -/
theorem completed_of_task
    (stories : Stories options run) {task : BroadcastTask}
    (found : run.tasks.lookup cohortId = some task) :
    cohortId ∈ run.completed := by
  by_contra absent
  have idle := congrArg CohortView.task (stories.fresh cohortId absent)
  simp only [BroadcastRun.view, found] at idle
  cases idle

/-- An event that continues the story of one completed cohort. -/
theorem of_event
    (stories : Stories options run) {event : BroadcastEvent}
    (about : event.cohortId? = some cohortId)
    (story :
      Story options cohortId ((run.step options event).view cohortId))
    (completed : cohortId ∈ (run.step options event).completed) :
    Stories options (run.step options event) where
  each other := by
    by_cases same : other = cohortId
    · subst same
      exact story
    · rw [BroadcastRun.view_step_elsewhere]
      · exact stories.each other
      · rw [about]
        exact fun same' => same (Option.some.inj same').symm
  fresh other absent := by
    have different : event.cohortId? ≠ some other := by
      rw [about]
      rintro ⟨rfl⟩
      exact absent completed
    rw [BroadcastRun.view_step_elsewhere _ _ _ different]
    exact stories.fresh other fun member =>
      absent (BroadcastRun.mem_completed_step _ _ _ member)

/-- An event of a cohort that continues a task, or finds none. -/
theorem of_taskEvent
    (stories : Stories options run) {event : BroadcastEvent}
    (about : event.cohortId? = some cohortId)
    (absent :
      run.tasks.lookup cohortId = none → run.step options event = run)
    (continues :
      ∀ task,
        run.tasks.lookup cohortId = some task →
          Story options cohortId
              ⟨some task, run.word cohortId, run.raws cohortId⟩ →
            Story options cohortId (run.view cohortId) →
              Story options cohortId
                ((run.step options event).view cohortId)) :
    Stories options (run.step options event) := by
  cases found : run.tasks.lookup cohortId with
  | none =>
      rw [absent found]
      exact stories
  | some task =>
      have story := stories.each cohortId
      have viewed := story
      rw [BroadcastRun.view, found] at viewed
      exact
        stories.of_event about (continues task found viewed story)
          (BroadcastRun.mem_completed_step _ _ _
            (stories.completed_of_task found))

/-- The story of a cohort whose completion the listener hears. -/
theorem story_handleSigningComplete
    {gate : Bool} {extracted : Except String String}
    {expectedTxid : Option String}
    (idle : run.view cohortId = ⟨none, [], []⟩)
    (running : run.stopped = false) :
    Story options cohortId
      ((run.handleSigningComplete options cohortId gate extracted
        expectedTxid).view cohortId) := by
  have silent : run.word cohortId = [] := congrArg CohortView.word idle
  have unsent : run.raws cohortId = [] := congrArg CohortView.raws idle
  unfold BroadcastRun.handleSigningComplete
  split
  · split
    · next reason =>
        have viewAfter :
            (run.emit (.failed cohortId reason)).view cohortId =
              ⟨none, [.failed cohortId reason], []⟩ := by
          rw [BroadcastRun.emit, if_neg (by simp [running])]
          simp only [BroadcastRun.view, CohortView.mk.injEq] at idle ⊢
          refine ⟨idle.1, ?_, idle.2.2⟩
          simp only [BroadcastRun.word, List.filter_append] at silent ⊢
          rw [silent]
          simp [AnchorFrame.cohortId]
        rw [viewAfter]
        exact .unserialised reason
    · apply BroadcastRun.story_attempt
      · rw [unsent]
        simp [Spent]
      · rw [unsent]
        rfl
      · exact silent
  · rw [idle]
    exact .idle

/-- Every event continues the stories. -/
theorem step
    (stories : Stories options run) {event : BroadcastEvent}
    (offered : run.offers event = true) :
    Stories options (run.step options event) := by
  cases event with
  | signingComplete cohortId gate extracted expectedTxid =>
      have absent : cohortId ∉ run.completed := of_decide_eq_true offered
      have idle := stories.fresh cohortId absent
      apply stories.of_event rfl
      · rw [BroadcastRun.step]
        dsimp only
        split
        · change Story options cohortId (run.view cohortId)
          rw [idle]
          exact .idle
        · next notStopped =>
            apply story_handleSigningComplete
            · exact idle
            · simpa using notStopped
      · rw [BroadcastRun.step]
        dsimp only
        split
        · exact List.mem_cons_self
        · rw [BroadcastRun.completed_handleSigningComplete]
          exact List.mem_cons_self
  | sendAnswers cohortId answer acceptedAt testedAt =>
      apply stories.of_taskEvent rfl
      · intro absent
        simp only [BroadcastRun.step, absent]
      · intro task found viewed story
        simp only [BroadcastRun.step, found]
        split
        · next number txid stage =>
            obtain ⟨silent, spent, _⟩ := viewed.of_sending stage
            exact BroadcastRun.story_accept spent silent
        · next number message stage =>
            obtain ⟨silent, spent, rounds⟩ := viewed.of_sending stage
            exact BroadcastRun.story_reject spent rounds silent
        · exact story
  | backoffEnds cohortId =>
      apply stories.of_taskEvent rfl
      · intro absent
        simp only [BroadcastRun.step, absent]
      · intro task found viewed story
        simp only [BroadcastRun.step, found]
        split
        · next number lastError stage =>
            obtain ⟨silent, spent, rounds⟩ := viewed.of_backingOff stage
            split
            · exact BroadcastRun.story_fail spent silent
            · exact BroadcastRun.story_attempt spent rounds silent
        · exact story
  | pollAnswers cohortId confirmed =>
      apply stories.of_taskEvent rfl
      · intro absent
        simp only [BroadcastRun.step, absent]
      · intro task found viewed story
        simp only [BroadcastRun.step, found]
        split
        · next txid deadline stage =>
            obtain ⟨wordIs, spent⟩ := viewed.of_polling stage
            split
            · rw [BroadcastRun.view_finish run cohortId _ rfl, wordIs]
              split
              · exact .done _ _ _ _ spent (.broadcast txid)
              · exact .done _ _ _ _ spent (.anchored txid true)
            · rw [BroadcastRun.view_enter_self]
              simp only [BroadcastRun.view, wordIs]
              exact .pausing _ _ txid deadline _ spent
        · exact story
  | pauseEnds cohortId now =>
      apply stories.of_taskEvent rfl
      · intro absent
        simp only [BroadcastRun.step, absent]
      · intro task found viewed story
        simp only [BroadcastRun.step, found]
        split
        · next txid deadline stage =>
            obtain ⟨wordIs, spent⟩ := viewed.of_pausing stage
            apply BroadcastRun.story_confirm spent
            · intro _
              rw [wordIs]
              exact .broadcast txid
            · exact fun _ => wordIs
        · exact story
  | stop =>
      exact
        { each := stories.each
          fresh := stories.fresh }

end Stories

end Stories

section Silence

/-! ## Frames are only appended, and not after a stop -/

/-- Nothing published or sent is taken back, and nothing is added once the
service stops. -/
structure Appends (before after : BroadcastRun) : Prop where
  frames : before.frames <+: after.frames
  quiet :
    before.stopped = true →
      after.stopped = true ∧ after.frames = before.frames ∧
        after.sends = before.sends

namespace Appends

variable {first second third : BroadcastRun}

theorem refl (run : BroadcastRun) : Appends run run where
  frames := List.prefix_refl _
  quiet stopped := ⟨stopped, rfl, rfl⟩

theorem trans (early : Appends first second) (late : Appends second third) :
    Appends first third where
  frames := early.frames.trans late.frames
  quiet stopped := by
    obtain ⟨stopped', sameFrames, sameSends⟩ := early.quiet stopped
    obtain ⟨stopped'', sameFrames', sameSends'⟩ := late.quiet stopped'
    exact
      ⟨stopped'', sameFrames'.trans sameFrames, sameSends'.trans sameSends⟩

variable
  (options : BroadcastOptions) (run : BroadcastRun) (cohortId : CohortId)
  (task : BroadcastTask)

theorem emit (frame : AnchorFrame) : Appends run (run.emit frame) := by
  rw [BroadcastRun.emit]
  split
  · exact refl run
  · next notStopped =>
      exact
        { frames := List.prefix_append _ _
          quiet := fun stopped => absurd stopped notStopped }

theorem enter (phase : BroadcastPhase) :
    Appends run (run.enter cohortId task phase) where
  frames := List.prefix_refl _
  quiet stopped := ⟨stopped, rfl, rfl⟩

theorem fail (message : String) :
    Appends run (run.fail options cohortId task message) :=
  (enter run cohortId task .done).trans (emit _ _)

/-- A new send is made only while the service runs. -/
theorem attempt
    (running : run.stopped = false) (number : Nat) (lastError : String) :
    Appends run (run.attempt options cohortId task number lastError) := by
  rw [BroadcastRun.attempt]
  split
  · exact
      { frames := List.prefix_refl _
        quiet := by
          intro stopped
          rw [running] at stopped
          cases stopped }
  · exact fail options run cohortId task lastError

theorem confirm (txid : String) (deadline : JsNumber) (now : Nat) :
    Appends run (run.confirm cohortId task txid deadline now) := by
  rw [BroadcastRun.confirm]
  split
  · exact enter _ _ _ _
  · exact (enter _ _ _ _).trans (emit _ _)

theorem accept (txid : String) (acceptedAt testedAt : Nat) :
    Appends run
      (run.accept options cohortId task txid acceptedAt testedAt) :=
  (emit run (.broadcast cohortId txid)).trans (confirm _ _ _ _ _ _)

theorem reject (number acceptedAt testedAt : Nat) (message : String) :
    Appends run
      (run.reject options cohortId task number message acceptedAt
        testedAt) := by
  rw [BroadcastRun.reject]
  split
  · exact accept _ _ _ _ _ _ _
  · split
    · exact fail _ _ _ _ _
    · exact enter _ _ _ _

theorem handleSigningComplete
    (running : run.stopped = false) (gate : Bool)
    (extracted : Except String String) (expectedTxid : Option String) :
    Appends run
      (run.handleSigningComplete options cohortId gate extracted
        expectedTxid) := by
  unfold BroadcastRun.handleSigningComplete
  split
  · split
    · exact emit _ _
    · exact attempt _ _ _ _ running _ _
  · exact refl run

theorem step (event : BroadcastEvent) :
    Appends run (run.step options event) := by
  cases event with
  | signingComplete cohortId gate extracted expectedTxid =>
      let heard : BroadcastRun :=
        { run with completed := cohortId :: run.completed }
      have hears : Appends run heard :=
        { frames := List.prefix_refl _
          quiet := fun stopped => ⟨stopped, rfl, rfl⟩ }
      rw [BroadcastRun.step]
      dsimp only
      split
      · exact hears
      · next notStopped =>
          apply hears.trans
          apply handleSigningComplete
          simpa using notStopped
  | sendAnswers cohortId answer acceptedAt testedAt =>
      rw [BroadcastRun.step]
      split
      · split
        · exact accept _ _ _ _ _ _ _
        · exact reject _ _ _ _ _ _ _ _
        · exact refl run
      · exact refl run
  | backoffEnds cohortId =>
      rw [BroadcastRun.step]
      split
      · split
        · split
          · exact fail _ _ _ _ _
          · next notStopped =>
              apply attempt
              simpa using notStopped
        · exact refl run
      · exact refl run
  | pollAnswers cohortId confirmed =>
      rw [BroadcastRun.step]
      split
      · split
        · split
          · exact (enter _ _ _ _).trans (emit _ _)
          · exact enter _ _ _ _
        · exact refl run
      · exact refl run
  | pauseEnds cohortId now =>
      rw [BroadcastRun.step]
      split
      · split
        · exact confirm _ _ _ _ _ _
        · exact refl run
      · exact refl run
  | stop =>
      exact
        { frames := List.prefix_refl _
          quiet := fun _ => ⟨rfl, rfl, rfl⟩ }

/-- The rest of a run only appends. -/
theorem runFrom (events : List BroadcastEvent) :
    Appends run ((broadcastMachine options).runFrom run events) := by
  induction events generalizing run with
  | nil => exact refl run
  | cons event events inductionHypothesis =>
      exact (step options run event).trans (inductionHypothesis _)

end Appends

end Silence

section Anchors

/-! ## The folded anchor state -/

theorem anchorState_concat (frames : List AnchorFrame) (frame : AnchorFrame) :
    anchorState (frames ++ [frame]) =
      (anchorState frames).remember maxAnchorRecords frame.cohortId
        frame.entry := by
  simp only [anchorState, List.foldl_append, List.foldl_cons, List.foldl_nil]

/-- What is retained about a cohort is what its last frame said. -/
theorem lookup_anchorState
    (frames : List AnchorFrame) {cohortId : CohortId} {entry : AnchorEntry} :
    (anchorState frames).lookup cohortId = some entry →
      ∃ frame,
        (frames.filter (·.cohortId = cohortId)).getLast? = some frame ∧
          frame.entry = entry := by
  induction frames using List.reverseRecOn with
  | nil =>
      intro found
      cases found
  | append_singleton frames frame inductionHypothesis =>
      intro found
      rw [anchorState_concat] at found
      have written := InsertionMap.lookup_of_lookup_remember found
      by_cases about : frame.cohortId = cohortId
      · subst about
        rw [AList.lookup_insert] at written
        refine ⟨frame, ?_, Option.some.inj written⟩
        simp [List.filter_append]
      · rw [AList.lookup_insert_ne (Ne.symm about)] at written
        obtain ⟨last, isLast, spelled⟩ := inductionHypothesis written
        refine ⟨last, ?_, spelled⟩
        simpa [List.filter_append, about] using isLast

/-- A word whose last frame is terminal is a whole word of the grammar: no
longer word of the grammar starts with it. -/
theorem Spoken.eq_of_terminal
    {cohortId : CohortId} {early late : List AnchorFrame} {frame : AnchorFrame}
    (spokenEarly : Spoken cohortId early) (spokenLate : Spoken cohortId late)
    (grows : early <+: late) (last : early.getLast? = some frame)
    (terminal : frame.entry.isTerminal = true) :
    late = early := by
  obtain ⟨more, rfl⟩ := grows
  cases spokenEarly with
  | silent => cases last
  | failed reason =>
      cases more with
      | nil => rfl
      | cons _ _ => cases spokenLate
  | broadcast txid =>
      cases last
      cases terminal
  | anchored txid confirmed =>
      cases more with
      | nil => rfl
      | cons _ _ => cases spokenLate

end Anchors

section Law

/-! ## The law over whole runs -/

/-- The kind of a frame. -/
inductive FrameKind where
  | broadcast
  | anchored
  | failed
  deriving DecidableEq, Repr

def AnchorFrame.kind : AnchorFrame → FrameKind
  | .broadcast _ _ => .broadcast
  | .anchored _ _ _ => .anchored
  | .failed _ _ => .failed

/-- Nothing yet, or a prefix of exactly one of the two words. -/
def InGrammar (word : List AnchorFrame) : Prop :=
  word = [] ∨
    Xor (word.map AnchorFrame.kind <+: [.failed])
      (word.map AnchorFrame.kind <+: [.broadcast, .anchored])

theorem Spoken.inGrammar
    {cohortId : CohortId} {word : List AnchorFrame}
    (spoken : Spoken cohortId word) : InGrammar word := by
  cases spoken with
  | silent => exact Or.inl rfl
  | failed reason =>
      exact Or.inr (Or.inl ⟨by simp [AnchorFrame.kind], by simp [AnchorFrame.kind]⟩)
  | broadcast txid =>
      exact Or.inr (Or.inr ⟨by simp [AnchorFrame.kind], by simp [AnchorFrame.kind]⟩)
  | anchored txid confirmed =>
      exact Or.inr (Or.inr ⟨by simp [AnchorFrame.kind], by simp [AnchorFrame.kind]⟩)

/-- What a run owes, seen after `earlier` and again after `later`. -/
structure BroadcastLifecycle
    (options : BroadcastOptions) (earlier later : List BroadcastEvent) :
    Prop where
  grammar :
    ∀ cohortId,
      InGrammar
        (((broadcastMachine options).run (earlier ++ later)).word cohortId)
  sameTransaction :
    ∀ cohortId,
      ∀ first ∈
          ((broadcastMachine options).run (earlier ++ later)).raws cohortId,
        ∀ second ∈
            ((broadcastMachine options).run (earlier ++ later)).raws cohortId,
          first = second
  bounded :
    ∀ cohortId,
      ((((broadcastMachine options).run (earlier ++ later)).raws
        cohortId).length : ℕ∞) ≤
        sendLimit options.configuredAttempts
  gated :
    ∀ cohortId extracted expectedTxid,
      .signingComplete cohortId false extracted expectedTxid ∈
          earlier ++ later →
        ((broadcastMachine options).run (earlier ++ later)).raws cohortId =
            [] ∧
          ((broadcastMachine options).run (earlier ++ later)).word cohortId =
            []
  silentAfterStop :
    ((broadcastMachine options).run earlier).stopped = true →
      ((broadcastMachine options).run (earlier ++ later)).frames =
          ((broadcastMachine options).run earlier).frames ∧
        ((broadcastMachine options).run (earlier ++ later)).sends =
          ((broadcastMachine options).run earlier).sends
  anchorsSettled :
    ∀ cohortId entry,
      (anchorState ((broadcastMachine options).run earlier).frames).lookup
          cohortId = some entry →
        entry.isTerminal = true →
          ∀ found ∈
              (anchorState
                ((broadcastMachine options).run
                  (earlier ++ later)).frames).lookup cohortId,
            found = entry

theorem stories_always (options : BroadcastOptions) :
    (broadcastMachine options).Always (Stories options) :=
  Machine.Always.of_inductive Stories.booted
    fun _ _ stories offered => stories.step offered

/-- A completed cohort with nothing to tell. -/
def Idle (cohortId : CohortId) (run : BroadcastRun) : Prop :=
  cohortId ∈ run.completed ∧ run.view cohortId = ⟨none, [], []⟩

theorem Idle.step
    {options : BroadcastOptions} {cohortId : CohortId} {run : BroadcastRun}
    {event : BroadcastEvent} (idle : Idle cohortId run)
    (offered : run.offers event = true) :
    Idle cohortId (run.step options event) := by
  have taskless : run.tasks.lookup cohortId = none :=
    congrArg CohortView.task idle.2
  have elsewhere : event.cohortId? ≠ some cohortId := by
    intro about
    cases event with
    | signingComplete other _ _ _ =>
        cases about
        exact of_decide_eq_true offered idle.1
    | sendAnswers other _ _ _ =>
        cases about
        simp [BroadcastRun.offers, taskless] at offered
    | backoffEnds other =>
        cases about
        simp [BroadcastRun.offers, taskless] at offered
    | pollAnswers other _ =>
        cases about
        simp [BroadcastRun.offers, taskless] at offered
    | pauseEnds other _ =>
        cases about
        simp [BroadcastRun.offers, taskless] at offered
    | stop => cases about
  refine ⟨BroadcastRun.mem_completed_step _ _ _ idle.1, ?_⟩
  rw [BroadcastRun.view_step_elsewhere _ _ _ elsewhere]
  exact idle.2

/-- A closed gate, or a completion nobody hears, leaves the cohort idle. -/
theorem Idle.of_closedGate
    {options : BroadcastOptions} {cohortId : CohortId} {run : BroadcastRun}
    (stories : Stories options run) (absent : cohortId ∉ run.completed)
    (extracted : Except String String) (expectedTxid : Option String) :
    Idle cohortId
      (run.step options
        (.signingComplete cohortId false extracted expectedTxid)) := by
  have idle := stories.fresh cohortId absent
  rw [BroadcastRun.step]
  dsimp only
  split
  · exact ⟨List.mem_cons_self, idle⟩
  · exact ⟨List.mem_cons_self, idle⟩

theorem idle_of_mem
    {options : BroadcastOptions} {events : List BroadcastEvent}
    {cohortId : CohortId} {extracted : Except String String}
    {expectedTxid : Option String}
    (admissible : (broadcastMachine options).Admits events)
    (closed :
      .signingComplete cohortId false extracted expectedTxid ∈ events) :
    Idle cohortId ((broadcastMachine options).run events) := by
  obtain ⟨before, after, rfl⟩ := List.append_of_mem closed
  obtain ⟨reached, offered, rest⟩ :=
    ((broadcastMachine options).admitsFrom_append before _ _).mp admissible
  have absent := of_decide_eq_true offered
  have stories := stories_always options before reached
  have idle := Idle.of_closedGate stories absent extracted expectedTxid
  rw [Machine.run, Machine.runFrom_append]
  apply Machine.invariant_runFrom _ _ _ idle rest
  intro run event held offers
  exact held.step offers

/-- **The broadcast lifecycle.** Of every schedule, seen at any two moments. -/
theorem broadcastLifecycle_of_admits
    (options : BroadcastOptions) (earlier later : List BroadcastEvent)
    (admissible : (broadcastMachine options).Admits (earlier ++ later)) :
    BroadcastLifecycle options earlier later := by
  have before : (broadcastMachine options).Admits earlier :=
    (((broadcastMachine options).admitsFrom_append earlier later _).mp
      admissible).1
  have early := stories_always options earlier before
  have late := stories_always options (earlier ++ later) admissible
  have appends :
      Appends ((broadcastMachine options).run earlier)
        ((broadcastMachine options).run (earlier ++ later)) := by
    have grown :=
      Appends.runFrom options ((broadcastMachine options).run earlier) later
    rw [Machine.run, ← Machine.runFrom_append] at grown
    exact grown
  exact
    { grammar := fun cohortId => (late.each cohortId).spoken.inGrammar
      sameTransaction := by
        intro cohortId first isFirst second isSecond
        obtain ⟨rawHex, same, _⟩ := (late.each cohortId).spent
        exact (same first isFirst).trans (same second isSecond).symm
      bounded := by
        intro cohortId
        obtain ⟨_, _, limited⟩ := (late.each cohortId).spent
        exact limited
      gated := by
        intro cohortId extracted expectedTxid closed
        have idle := (idle_of_mem admissible closed).2
        exact ⟨congrArg CohortView.raws idle, congrArg CohortView.word idle⟩
      silentAfterStop := fun stopped => (appends.quiet stopped).2
      anchorsSettled := by
        intro cohortId entry found terminal late' foundLate
        obtain ⟨frame, last, spelled⟩ := lookup_anchorState _ found
        obtain ⟨frame', last', spelled'⟩ := lookup_anchorState _ foundLate
        have same :=
          (early.each cohortId).spoken.eq_of_terminal
            (late.each cohortId).spoken (appends.frames.filter _) last
            (by rw [spelled]; exact terminal)
        simp only [BroadcastRun.view, BroadcastRun.word] at same
        rw [same] at last'
        rw [← spelled, ← spelled', Option.some.inj (last.symm.trans last')] }

instance (options : BroadcastOptions) (run : BroadcastRun)
    (event : BroadcastEvent) :
    Decidable ((broadcastMachine options).admits run event) :=
  inferInstanceAs (Decidable (_ = true))

/-- Three attempts, every number written alike. -/
def threeAttempts : BroadcastOptions where
  confirmTimeoutMs := none
  sendRetryAttempts := some 3
  numberText := fun _ => "3"

/-- Cohort `0` is retried into a duplicate and anchors, cohort `1` stands down,
cohort `2` is rejected until the stop. -/
def retriedThenStopped : List BroadcastEvent :=
  [.signingComplete 0 true (.ok "aa") (some "t"),
    .signingComplete 1 false (.ok "bb") none,
    .sendAnswers 0 (.rejected "fetch failed") 1 1, .backoffEnds 0,
    .sendAnswers 0 (.rejected "txn-already-known") 2 2,
    .signingComplete 2 true (.ok "cc") none, .pollAnswers 0 false,
    .pauseEnds 0 3, .pollAnswers 0 true]

/-- The retry of cohort `2` is under way when the service stops. -/
def stoppedMidRetry : List BroadcastEvent :=
  [.sendAnswers 2 (.rejected "fetch failed") 4 4, .stop, .backoffEnds 2]

theorem broadcastLifecycle_of_admits_retried :
    BroadcastLifecycle threeAttempts retriedThenStopped stoppedMidRetry :=
  broadcastLifecycle_of_admits threeAttempts retriedThenStopped stoppedMidRetry
    (by decide +kernel)

/-- The bound as the option's name puts it. -/
def SendPromise : Prop :=
  ∀ options events,
    (broadcastMachine options).Admits events →
      ∀ cohortId attempts,
        options.sendRetryAttempts = some (.finite attempts) →
          ((((broadcastMachine options).run events).raws cohortId).length :
            ℚ) ≤ attempts

/-- No attempt configured: the first send always runs. -/
theorem not_sendPromise : ¬ SendPromise := by
  intro promise
  have bounded :=
    promise ⟨none, some (.finite 0), fun _ => "1"⟩
      [.signingComplete 0 true (.ok "aa") none] (by decide +kernel) 0 0 rfl
  exact absurd bounded (by decide +kernel)

end Law

end Btcr2Aggregation
