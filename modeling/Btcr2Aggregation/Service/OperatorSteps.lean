import Btcr2Aggregation.Service.TerminalFates

/-!
# What one event does to the records

A terminal record is filed by a settlement only, of a cohort whose settlement
was pending, and a settlement is pending only of a cohort that was live.  So a
cohort that has ended, and whose record is gone, gets no other.  With prompt
settlements each ending without success is recorded when its settlement runs,
and the record tells how the cohort ended.
-/

namespace Btcr2Aggregation

/-- The events that write the terminal records or the dismissed cancels. -/
def OperatorEvent.writesRecords : OperatorEvent → Bool
  | .readvertiseExpired _ _ => true
  | .forgetTerminal _ _ => true
  | .microtask _ => true
  | _ => false

namespace Attributed

variable {run : OperatorRun} {id : CohortId}

/-- A recorded cohort has ended. -/
theorem ended_of_terminal
    (attributed : Attributed run) (held : id ∈ run.state.terminal) :
    id ∈ run.endings.map Prod.fst := by
  obtain ⟨record, found⟩ := InsertionMap.exists_lookup_of_mem held
  have filed := attributed.retained id record found
  exact attributed.ended_of_filed (List.mem_map_of_mem filed)

theorem created_of_terminal
    (attributed : Attributed run) (held : id ∈ run.state.terminal) :
    id ∈ run.created :=
  attributed.endedCreated id (attributed.ended_of_terminal held)

/-- And its settlement has run. -/
theorem notPending_of_terminal
    (attributed : Attributed run) (held : id ∈ run.state.terminal) :
    id ∉ run.state.runner.pendingIds := by
  obtain ⟨record, found⟩ := InsertionMap.exists_lookup_of_mem held
  have filed := attributed.retained id record found
  exact attributed.filedSettled id (List.mem_map_of_mem filed)

end Attributed

namespace OperatorRun

variable {options : OperatorOptions} {run : OperatorRun}

section Records

/-! ## The records of one run -/

/-- An event that writes no record leaves both tables as they are. -/
theorem records_step
    {event : OperatorEvent} (silent : event.writesRecords = false) :
    (run.step options event).state.terminal = run.state.terminal ∧
      (run.step options event).state.dismissedCanceled =
        run.state.dismissedCanceled := by
  cases event with
  | readvertiseExpired cohortId minted => cases silent
  | forgetTerminal cohortId health => cases silent
  | microtask health => cases silent
  | createDraft draftId input =>
      simp only [step, createDraft]
      cases
        judgeDraft options run.state.settings draftId
          (withServiceDefaults run.state.settings input) with
      | error message => exact ⟨rfl, rfl⟩
      | ok entry => exact ⟨rfl, rfl⟩
  | updateDraft draftId input =>
      simp only [step, updateDraft]
      split
      · split <;> exact ⟨rfl, rfl⟩
      · exact ⟨rfl, rfl⟩
  | advertiseDraft draftId minted =>
      rcases step_advertiseDraft_cases options run draftId minted with
        equality | ⟨entry, cohortId, -, -, -, equality⟩
      · rw [equality]
        exact ⟨rfl, rfl⟩
      · obtain ⟨_, -, launched⟩ :=
          launch_eq options
            { run.state with drafts := run.state.drafts.erase draftId } cohortId
            entry.config entry.windows
        simp only [equality, launched, and_self]
  | cancelCohort cohortId health =>
      obtain ⟨_, _, _, _, _, equality⟩ :=
        cancelCohort_eq health run.state cohortId
      simp only [step, equality, and_self]
  | windowTimer cohortId health =>
      obtain ⟨_, _, _, equality⟩ := windowTimerFires_eq health run.state cohortId
      simp only [step, equality, and_self]
  | applySettings patch =>
      simp only [step]
      split <;> exact ⟨rfl, rfl⟩
  | discardDraft draftId => exact ⟨rfl, rfl⟩
  | pause => exact ⟨rfl, rfl⟩
  | resume => exact ⟨rfl, rfl⟩
  | seat cohortId => exact ⟨rfl, rfl⟩
  | fill cohortId => exact ⟨rfl, rfl⟩
  | advance cohortId phase => exact ⟨rfl, rfl⟩
  | completion cohortId => exact ⟨rfl, rfl⟩
  | failure cohortId message => exact ⟨rfl, rfl⟩
  | stopService message => exact ⟨rfl, rfl⟩

/-- What an event ends was live, and what it files was pending. -/
structure SettlesLive (before after : OperatorRun) : Prop where
  endings : ∀ entry ∈ before.endings, entry ∈ after.endings
  pending :
    ∀ id ∈ after.state.runner.pendingIds,
      id ∈ before.state.runner.pendingIds ∨ id ∈ before.state.runner.cohorts
  terminal :
    ∀ id record,
      after.state.terminal.lookup id = some record →
        before.state.terminal.lookup id = some record ∨
          id ∈ before.state.runner.pendingIds

theorem SettlesLive.ended
    {before after : OperatorRun} (settles : SettlesLive before after)
    {id : CohortId} (ended : id ∈ before.endings.map Prod.fst) :
    id ∈ after.endings.map Prod.fst := by
  obtain ⟨entry, member, rfl⟩ := List.mem_map.mp ended
  exact List.mem_map_of_mem (settles.endings entry member)

theorem mem_endingNow
    {entry : CohortId × Ending} {cohortId : CohortId} (ending : Ending)
    (ended : entry ∈ run.endings) :
    entry ∈ run.endingNow cohortId ending := by
  unfold endingNow
  split
  · exact List.mem_cons_of_mem _ ended
  · exact ended

theorem pending_or_live_of_settle
    {runner : Runner} {cohortId id : CohortId} {outcome : Except String Unit}
    (waiting : id ∈ (runner.settle cohortId outcome).pendingIds) :
    id ∈ runner.pendingIds ∨ id ∈ runner.cohorts :=
  (Runner.mem_pendingIds_settle.mp waiting).imp_right And.right

/-- An event that ends no cohort, and files nothing. -/
theorem SettlesLive.quiet
    {before after : OperatorRun}
    (endings : after.endings = before.endings)
    (pending : after.state.runner.pending = before.state.runner.pending)
    (terminal :
      ∀ id record,
        after.state.terminal.lookup id = some record →
          before.state.terminal.lookup id = some record) :
    SettlesLive before after where
  endings id ended := by
    rw [endings]
    exact ended
  pending id waiting := by
    rw [Runner.pendingIds, pending] at waiting
    exact Or.inl waiting
  terminal id record held := Or.inl (terminal id record held)

/-- Every event ends live cohorts, and files pending ones. -/
theorem settlesLive_step (event : OperatorEvent) :
    SettlesLive run (run.step options event) := by
  cases event with
  | createDraft draftId input =>
      simp only [step, createDraft]
      cases
        judgeDraft options run.state.settings draftId
          (withServiceDefaults run.state.settings input) with
      | error message => exact .quiet rfl rfl fun _ _ held => held
      | ok entry => exact .quiet rfl rfl fun _ _ held => held
  | updateDraft draftId input =>
      simp only [step, updateDraft]
      split
      · split <;> exact .quiet rfl rfl fun _ _ held => held
      · exact .quiet rfl rfl fun _ _ held => held
  | advertiseDraft draftId minted =>
      rcases step_advertiseDraft_cases options run draftId minted with
        equality | ⟨entry, cohortId, -, -, -, equality⟩
      · rw [equality]
        exact .quiet rfl rfl fun _ _ held => held
      · obtain ⟨_, -, launched⟩ :=
          launch_eq options
            { run.state with drafts := run.state.drafts.erase draftId } cohortId
            entry.config entry.windows
        rw [equality, launched]
        exact .quiet rfl rfl fun _ _ held => held
  | readvertiseExpired expired minted =>
      rcases step_readvertiseExpired_cases options run expired minted with
        equality | ⟨record, cohortId, -, -, -, equality⟩
      · rw [equality]
        exact .quiet rfl rfl fun _ _ held => held
      · obtain ⟨_, -, launched⟩ :=
          launch_eq options
            { run.state with terminal := run.state.terminal.erase expired }
            cohortId record.config record.windows
        rw [equality, launched]
        refine .quiet rfl rfl ?_
        intro id other held
        exact InsertionMap.lookup_of_lookup_erase held
  | forgetTerminal cohortId health =>
      rcases step_forgetTerminal_cases options run cohortId health with
        equality | ⟨record, -, equality⟩
      · rw [equality]
        exact .quiet rfl rfl fun _ _ held => held
      · rw [equality]
        refine .quiet rfl rfl ?_
        intro id other held
        exact InsertionMap.lookup_of_lookup_erase held
  | applySettings patch =>
      simp only [step]
      split <;> exact .quiet rfl rfl fun _ _ held => held
  | discardDraft draftId => exact .quiet rfl rfl fun _ _ held => held
  | pause => exact .quiet rfl rfl fun _ _ held => held
  | resume => exact .quiet rfl rfl fun _ _ held => held
  | seat cohortId => exact .quiet rfl rfl fun _ _ held => held
  | fill cohortId => exact .quiet rfl rfl fun _ _ held => held
  | advance cohortId phase => exact .quiet rfl rfl fun _ _ held => held
  | cancelCohort cohortId health =>
      refine ⟨?_, ?_, ?_⟩
      · intro id ended
        simp only [step]
        split
        · exact mem_endingNow .canceled ended
        · exact ended
      · intro id waiting
        simp only [step, cancelCohort] at waiting
        split at waiting
        · split at waiting
          · rw [Runner.pendingIds,
              OperatorState.pending_repairAdvertSlot] at waiting
            exact pending_or_live_of_settle waiting
          · exact Or.inl waiting
        · exact Or.inl waiting
      · intro id record held
        rw [(records_step rfl).1] at held
        exact Or.inl held
  | windowTimer cohortId health =>
      refine ⟨?_, ?_, ?_⟩
      · intro id ended
        simp only [step]
        split
        · exact mem_endingNow .windowExpired ended
        · exact ended
      · intro id waiting
        simp only [step, windowTimerFires] at waiting
        split at waiting
        · exact pending_or_live_of_settle waiting
        · exact Or.inl waiting
      · intro id record held
        rw [(records_step rfl).1] at held
        exact Or.inl held
  | completion cohortId =>
      exact
        { endings := fun _ ended => mem_endingNow .completed ended
          pending := fun _ => pending_or_live_of_settle
          terminal := fun _ _ held => Or.inl held }
  | failure cohortId message =>
      exact
        { endings := fun _ ended => mem_endingNow (.failed message) ended
          pending := fun _ => pending_or_live_of_settle
          terminal := fun _ _ held => Or.inl held }
  | stopService message =>
      refine
        ⟨?_, fun _ => Runner.mem_pendingIds_stop.mp,
          fun _ _ held => Or.inl held⟩
      intro entry ended
      exact List.mem_append_right _ ended
  | microtask health =>
      simp only [step]
      split
      · exact .quiet rfl rfl fun _ _ held => held
      · next settlement rest pending =>
          refine ⟨fun _ ended => ended, ?_, ?_⟩
          · intro id waiting
            rw [Runner.pendingIds, pending_settled, pending] at waiting
            rw [Runner.pendingIds, pending]
            exact Or.inl (List.mem_cons_of_mem _ waiting)
          · intro id record held
            rw [Runner.pendingIds, pending]
            rcases Attributed.lookup_terminal_settled held with
              ⟨rfl, -⟩ | before
            · exact Or.inr List.mem_cons_self
            · exact Or.inl before

/-- The cohort ended, and its settlement ran. -/
structure Done (run : OperatorRun) (cohortId : CohortId) : Prop where
  ended : cohortId ∈ run.endings.map Prod.fst
  settled : cohortId ∉ run.state.runner.pendingIds

theorem Done.step
    {cohortId : CohortId} (done : run.Done cohortId)
    (attributed : Attributed run) (event : OperatorEvent) :
    (run.step options event).Done cohortId := by
  have settles : SettlesLive run (run.step options event) :=
    settlesLive_step event
  refine ⟨settles.ended done.ended, ?_⟩
  intro waiting
  rcases settles.pending cohortId waiting with before | live
  · exact done.settled before
  · exact attributed.endedNotLive cohortId done.ended live

/-- It gets no record any more. -/
theorem Done.lookup_terminal
    {cohortId : CohortId} (done : run.Done cohortId) {event : OperatorEvent}
    {record : TerminalRecord}
    (found :
      (run.step options event).state.terminal.lookup cohortId = some record) :
    run.state.terminal.lookup cohortId = some record := by
  have settles : SettlesLive run (run.step options event) :=
    settlesLive_step event
  rcases settles.terminal cohortId record found with before | waiting
  · exact before
  · exact absurd waiting done.settled

/-- And no record of it is left. -/
structure Past (run : OperatorRun) (cohortId : CohortId) : Prop
    extends Done run cohortId where
  unlisted : cohortId ∉ run.state.terminal

/-- A past cohort stays past. -/
theorem Past.step
    {cohortId : CohortId} (past : run.Past cohortId)
    (attributed : Attributed run) (event : OperatorEvent) :
    (run.step options event).Past cohortId := by
  refine ⟨past.toDone.step attributed event, ?_⟩
  intro held
  obtain ⟨record, found⟩ := InsertionMap.exists_lookup_of_mem held
  have before := past.toDone.lookup_terminal found
  exact past.unlisted (InsertionMap.mem_of_lookup before)

end Records

section Readvertised

/-! ## A granted re-advertise, and a refused one -/

theorem step_readvertiseExpired_refused
    {expired : CohortId} {minted : Option CohortId}
    (refused :
      run.state.settings.paused = true ∨ minted = none ∨
        run.state.terminal.lookup expired = none) :
    run.step options (.readvertiseExpired expired minted) = run := by
  rcases step_readvertiseExpired_cases options run expired minted with
    equality | ⟨record, cohortId, running, found, rfl, -⟩
  · exact equality
  · rcases refused with paused | none | missing
    · rw [running] at paused
      cases paused
    · cases none
    · rw [found] at missing
      cases missing

variable (options) in
theorem step_readvertiseExpired_granted
    {expired : CohortId} (cohortId : CohortId) {record : TerminalRecord}
    (running : run.state.settings.paused = false)
    (found : run.state.terminal.lookup expired = some record) :
    run.step options (.readvertiseExpired expired (some cohortId)) =
      { run with
        state :=
          launch options
            { run.state with terminal := run.state.terminal.erase expired }
            cohortId record.config record.windows
        created := cohortId :: run.created
        gone := (expired, .readvertised) :: run.gone } := by
  simp [step, readvertiseExpired, running, found, advertisedRow]

end Readvertised

end OperatorRun

section Law

/-! ## Fates along every prompt run -/

namespace OperatorRun

variable {options : OperatorOptions} {run : OperatorRun}

/-- A settlement alone files a record. -/
theorem filed_step
    {event : OperatorEvent} (request : event.isMicrotask = false) :
    (run.step options event).filed = run.filed := by
  cases event with
  | microtask health => cases request
  | createDraft draftId input =>
      simp only [step]
      split <;> rfl
  | advertiseDraft draftId minted =>
      rcases step_advertiseDraft_cases options run draftId minted with
        equality | ⟨entry, cohortId, -, -, -, equality⟩ <;> rw [equality]
  | readvertiseExpired expired minted =>
      rcases step_readvertiseExpired_cases options run expired minted with
        equality | ⟨record, cohortId, -, -, -, equality⟩ <;> rw [equality]
  | applySettings patch =>
      simp only [step]
      split <;> rfl
  | _ => rfl

/-- The settlement of a cohort that ended without success leaves its record in
the table, as the newest entry. -/
theorem lookup_terminal_settled_self
    (attributed : Attributed run) {settlement : Settlement}
    {rest : List Settlement} {ending : Ending}
    (pending : run.state.runner.pending = settlement :: rest)
    (ended : (settlement.cohortId, ending) ∈ run.endings)
    (notCompleted : ending ≠ .completed) (health : LibraryHealth) :
    ∃ record,
      (run.settled health settlement).state.terminal.lookup
            settlement.cohortId =
          some record ∧
        ending.describes record := by
  have waiting : settlement.cohortId ∈ run.state.runner.pendingIds := by
    rw [Runner.pendingIds, pending]
    exact List.mem_cons_self
  obtain ⟨other, sameEnd, left⟩ :=
    attributed.pendingEnded settlement (by rw [pending]; exact List.mem_cons_self)
  have cause : other = ending := attributed.ending_unique sameEnd ended
  rw [cause] at left
  obtain ⟨record, files, described⟩ :=
    Attributed.exists_filedNow? ((attributed.advertised _).mpr (Or.inr waiting))
      left notCompleted
  have absent : settlement.cohortId ∉ run.state.terminal :=
    fun held => attributed.notPending_of_terminal held waiting
  refine ⟨record, ?_, described⟩
  rw [terminal_settled_of_files health files,
    InsertionMap.lookup_evictPast_of_mem, InsertionMap.lookup_set_self]
  rw [AList.mem_keys, InsertionMap.keys_evictPast,
    InsertionMap.keys_set_of_notMem record absent]
  exact List.mem_cons_self

/-- Of a cohort that ended without success after an event: its settlement is
pending, or has just filed its record, or ran before. -/
theorem endings_step_cases
    (attributed : Attributed run) {event : OperatorEvent}
    (possible : offered run event) (prompt : settlesPromptly run event)
    {id : CohortId} {ending : Ending}
    (ended : (id, ending) ∈ (run.step options event).endings)
    (notCompleted : ending ≠ .completed) :
    id ∈ (run.step options event).state.runner.pendingIds ∨
      (∃ health,
        event = .microtask health ∧
          run.state.runner.pendingIds.head? = some id ∧
            ∃ record,
              (run.step options event).state.terminal.lookup id = some record ∧
                ending.describes record) ∨
      id ∉ run.state.runner.pendingIds ∧ (id, ending) ∈ run.endings := by
  have after : Attributed (run.step options event) :=
    attributed.step possible prompt
  by_cases request : event.isMicrotask = false
  · -- nothing is filed here: a cohort that is filed now had settled before
    refine (after.recorded id ending ended notCompleted).imp_right ?_
    intro filed
    rw [filed_step request] at filed
    obtain ⟨⟨_, other⟩, member, rfl⟩ :=
      List.mem_map.mp (attributed.ended_of_filed filed)
    have settles : SettlesLive run (run.step options event) :=
      settlesLive_step event
    have cause : other = ending :=
      after.ending_unique (settles.endings _ member) ended
    rw [cause] at member
    exact Or.inr ⟨attributed.filedSettled _ filed, member⟩
  · cases event with
    | microtask health =>
        simp only [step] at ended ⊢
        split at ended
        · next pending =>
            refine Or.inr (Or.inr ⟨?_, ended⟩)
            rw [Runner.pendingIds, pending]
            exact List.not_mem_nil
        · next settlement rest pending =>
            have ids :
                run.state.runner.pendingIds =
                  settlement.cohortId :: rest.map Settlement.cohortId := by
              rw [Runner.pendingIds, pending]
              rfl
            by_cases same : id = settlement.cohortId
            · subst same
              refine Or.inr (Or.inl ⟨health, rfl, ?_, ?_⟩)
              · rw [ids]
                rfl
              · exact
                  lookup_terminal_settled_self attributed pending ended
                    notCompleted health
            · by_cases waiting : id ∈ rest.map Settlement.cohortId
              · rw [Runner.pendingIds, pending_settled, pending]
                exact Or.inl waiting
              · refine Or.inr (Or.inr ⟨?_, ended⟩)
                rw [ids, List.mem_cons]
                exact not_or.mpr ⟨same, waiting⟩
    | _ => exact absurd rfl request

end OperatorRun

/-- The settlement of a cohort ran along the events, and right after it the
table held a record that is true to the ending. -/
def RecordedAtSettlement
    (machine : Machine OperatorRun OperatorEvent) (events : List OperatorEvent)
    (cohortId : CohortId) (ending : Ending) : Prop :=
  ∃ earlier health later,
    events = earlier ++ .microtask health :: later ∧
      (machine.run earlier).state.runner.pendingIds.head? = some cohortId ∧
        ∃ record,
          (machine.run (earlier ++ [.microtask health])).state.terminal.lookup
                cohortId =
              some record ∧
            ending.describes record

theorem RecordedAtSettlement.concat
    {machine : Machine OperatorRun OperatorEvent} {events : List OperatorEvent}
    {cohortId : CohortId} {ending : Ending}
    (recorded : RecordedAtSettlement machine events cohortId ending)
    (event : OperatorEvent) :
    RecordedAtSettlement machine (events ++ [event]) cohortId ending := by
  obtain ⟨earlier, health, later, rfl, head, held⟩ := recorded
  refine ⟨earlier, health, later ++ [event], ?_, head, held⟩
  rw [List.append_assoc, List.cons_append]

/-- What the terminal table says along a run. -/
structure TrueFatesAlong
    (machine : Machine OperatorRun OperatorEvent)
    (events : List OperatorEvent) : Prop where
  /-- What the table holds is true to how the cohorts ended. -/
  fates : TrueFates (machine.run events)
  /-- A cohort that ended without success waits for its settlement, or was
  recorded when that ran. -/
  recorded :
    ∀ id ending,
      (id, ending) ∈ (machine.run events).endings → ending ≠ .completed →
        id ∈ (machine.run events).state.runner.pendingIds ∨
          RecordedAtSettlement machine events id ending
  /-- What the table holds of a cohort it held once is the record of then, at
  every later moment. -/
  oneRecord :
    ∀ earlier later id record,
      events = earlier ++ later → id ∈ (machine.run earlier).state.terminal →
        (machine.run events).state.terminal.lookup id = some record →
          (machine.run earlier).state.terminal.lookup id = some record
  /-- A record that left the table is not filed again. -/
  filedOnce :
    ∀ earlier middle later id,
      events = earlier ++ middle ++ later →
        id ∈ (machine.run earlier).state.terminal →
          id ∉ (machine.run (earlier ++ middle)).state.terminal →
            id ∉ (machine.run events).state.terminal

section Runs

variable {options : OperatorOptions} {settings : RuntimeSettings}

/-- A cohort that is done at some moment has, at every later one, no record but
the one of then. -/
theorem OperatorRun.Done.run
    {cohortId : CohortId} (earlier : List OperatorEvent)
    (done : ((promptMachine options settings).run earlier).Done cohortId) :
    ∀ later,
      (promptMachine options settings).Admits (earlier ++ later) →
        ((promptMachine options settings).run (earlier ++ later)).Done
            cohortId ∧
          ∀ record,
            ((promptMachine options settings).run
                    (earlier ++ later)).state.terminal.lookup
                  cohortId =
                some record →
              ((promptMachine options settings).run
                    earlier).state.terminal.lookup
                  cohortId =
                some record := by
  intro later
  induction later using List.reverseRecOn with
  | nil =>
      intro _
      rw [List.append_nil]
      exact ⟨done, fun _ held => held⟩
  | append_singleton later event inductionHypothesis =>
      intro admissible
      rw [← List.append_assoc] at admissible ⊢
      obtain ⟨before, -⟩ :=
        ((promptMachine options settings).admits_concat_iff _ event).mp
          admissible
      obtain ⟨still, same⟩ := inductionHypothesis before
      have attributed := always_attributed options settings _ before
      rw [Machine.run_concat]
      refine ⟨still.step attributed event, ?_⟩
      intro record held
      exact same record (still.lookup_terminal held)

theorem OperatorRun.done_of_terminal
    {run : OperatorRun} (attributed : Attributed run) {id : CohortId}
    (held : id ∈ run.state.terminal) : run.Done id where
  ended := attributed.ended_of_terminal held
  settled := attributed.notPending_of_terminal held

/-- Every ending without success is recorded when its settlement runs. -/
theorem recordedAtSettlement_of_admits
    (events : List OperatorEvent)
    (admissible : (promptMachine options settings).Admits events) :
    ∀ id ending,
      (id, ending) ∈ ((promptMachine options settings).run events).endings →
        ending ≠ .completed →
          id ∈
              ((promptMachine options settings).run
                events).state.runner.pendingIds ∨
            RecordedAtSettlement (promptMachine options settings) events id
              ending := by
  induction events using List.reverseRecOn with
  | nil =>
      intro id ending ended
      cases ended
  | append_singleton events event inductionHypothesis =>
      obtain ⟨before, offered, prompt⟩ :=
        ((promptMachine options settings).admits_concat_iff events event).mp
          admissible
      have attributed := always_attributed options settings events before
      intro id ending ended notCompleted
      rw [Machine.run_concat] at ended ⊢
      rcases
        OperatorRun.endings_step_cases attributed offered prompt ended
          notCompleted with
        waiting | ⟨health, rfl, head, recorded⟩ | ⟨settled, old⟩
      · exact Or.inl waiting
      · refine Or.inr ⟨events, health, [], rfl, head, ?_⟩
        rw [Machine.run_concat]
        exact recorded
      · rcases inductionHypothesis before id ending old notCompleted with
          waiting | recorded
        · exact absurd waiting settled
        · exact Or.inr (recorded.concat event)

/-- In every interleaving with prompt settlements, every record tells how its
cohort ended. -/
theorem trueFates_of_admits
    (options : OperatorOptions) (settings : RuntimeSettings)
    (events : List OperatorEvent)
    (admissible : (promptMachine options settings).Admits events) :
    TrueFatesAlong (promptMachine options settings) events where
  fates := (always_attributed options settings events admissible).trueFates
  recorded := recordedAtSettlement_of_admits events admissible
  oneRecord := by
    rintro earlier later id record rfl held found
    obtain ⟨before, -⟩ :=
      ((promptMachine options settings).admitsFrom_append earlier later _).mp
        admissible
    have done :=
      OperatorRun.done_of_terminal (always_attributed options settings _ before)
        held
    exact (done.run earlier later admissible).2 record found
  filedOnce := by
    rintro earlier middle later id rfl held gone back
    obtain ⟨upTo, -⟩ :=
      ((promptMachine options settings).admitsFrom_append _ later _).mp
        admissible
    obtain ⟨before, -⟩ :=
      ((promptMachine options settings).admitsFrom_append earlier middle _).mp
        upTo
    have done :=
      OperatorRun.done_of_terminal (always_attributed options settings _ before)
        held
    have still := (done.run earlier middle upTo).1
    obtain ⟨record, found⟩ := InsertionMap.exists_lookup_of_mem back
    have same := (still.run (earlier ++ middle) later admissible).2 record found
    exact gone (InsertionMap.mem_of_lookup same)

end Runs

/-- One cohort is canceled, one expires by its window, one fails. -/
def fatesEvents : List OperatorEvent :=
  [ .createDraft 0 (plainInput none),
    .createDraft 1 (plainInput (some 60000)),
    .createDraft 2 (plainInput none),
    .advertiseDraft 0 (some 3),
    .advertiseDraft 1 (some 4),
    .advertiseDraft 2 (some 5),
    .cancelCohort 3 .sound,
    .microtask .sound,
    .windowTimer 4 .sound,
    .microtask .sound,
    .failure 5 "stalled",
    .microtask .sound ]

theorem trueFates_of_admits_threeCauses :
    TrueFatesAlong (promptMachine plainOptions .unseeded) fatesEvents :=
  trueFates_of_admits plainOptions .unseeded fatesEvents (by decide +kernel)

example :
    ((promptMachine plainOptions .unseeded).run
          fatesEvents).state.terminal.entries.map
        (fun entry => (entry.1, entry.2.fate, entry.2.reason)) =
      [ (5, .expired, "stalled"), (4, .expired, windowExpiredReason),
        (3, .canceled, canceledReason) ] := by
  decide +kernel

end Law

end Btcr2Aggregation
