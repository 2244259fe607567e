import Btcr2Aggregation.Web.OperatorRows

/-!
# The console over a run of the service

The console shows the union of two tables that forget on different schedules, and
counts from one of them.  In every state of a run each cohort either of them
knows has one row, a live cohort is never among the ended ones, and the counts of
the metrics row are the counts of the rows on the page.
-/

namespace Btcr2Aggregation

open Monitor

section Drafts

/-! ## No draft has ended -/

namespace OperatorRun

variable {options : OperatorOptions} {run : OperatorRun}

/-- A draft after an event was one before, or is minted with it. -/
theorem mem_drafts_step
    (event : OperatorEvent) {id : CohortId}
    (drafted : id ∈ (run.step options event).state.drafts) :
    id ∈ run.state.drafts ∨ id ∈ event.minted? := by
  cases event with
  | createDraft draftId input =>
      simp only [step, createDraft] at drafted
      revert drafted
      cases
        judgeDraft options run.state.settings draftId
          (withServiceDefaults run.state.settings input) with
      | error message => exact Or.inl
      | ok entry =>
          intro drafted
          rcases InsertionMap.mem_set.mp drafted with rfl | before
          · exact Or.inr rfl
          · exact Or.inl before
  | updateDraft draftId input =>
      left
      simp only [step, updateDraft] at drafted
      split at drafted
      · next held =>
          revert drafted
          cases judgeDraft options run.state.settings draftId input with
          | error message => exact fun drafted => drafted
          | ok entry =>
              intro drafted
              rcases InsertionMap.mem_set.mp drafted with rfl | before
              · exact held
              · exact before
      · exact drafted
  | advertiseDraft draftId minted =>
      left
      rcases step_advertiseDraft_cases options run draftId minted with
        equality | ⟨entry, cohortId, -, -, -, equality⟩
      · rw [equality] at drafted
        exact drafted
      · obtain ⟨_, -, launched⟩ :=
          launch_eq options
            { run.state with drafts := run.state.drafts.erase draftId } cohortId
            entry.config entry.windows
        rw [equality, launched] at drafted
        exact (AList.mem_erase.mp drafted).2
  | discardDraft draftId => exact Or.inl (AList.mem_erase.mp drafted).2
  | cancelCohort cohortId health =>
      obtain ⟨_, _, _, _, _, equality⟩ :=
        cancelCohort_eq health run.state cohortId
      simp only [step, equality] at drafted
      exact Or.inl drafted
  | readvertiseExpired cohortId minted =>
      left
      rcases step_readvertiseExpired_cases options run cohortId minted with
        equality | ⟨record, newCohortId, -, -, -, equality⟩
      · rw [equality] at drafted
        exact drafted
      · obtain ⟨_, -, launched⟩ :=
          launch_eq options
            { run.state with terminal := run.state.terminal.erase cohortId }
            newCohortId record.config record.windows
        rw [equality, launched] at drafted
        exact drafted
  | forgetTerminal cohortId health =>
      left
      rcases step_forgetTerminal_cases options run cohortId health with
        equality | ⟨record, -, equality⟩
      · rw [equality] at drafted
        exact drafted
      · rw [equality] at drafted
        exact drafted
  | windowTimer cohortId health =>
      obtain ⟨_, _, _, equality⟩ := windowTimerFires_eq health run.state cohortId
      simp only [step, equality] at drafted
      exact Or.inl drafted
  | applySettings patch =>
      left
      simp only [step] at drafted
      split at drafted
      · exact drafted
      · exact drafted
  | microtask health =>
      left
      simp only [step] at drafted
      split at drafted
      · exact drafted
      · next settlement rest pending =>
          rw [run.drafts_settled health settlement] at drafted
          exact drafted
  | pause => exact Or.inl drafted
  | resume => exact Or.inl drafted
  | seat cohortId => exact Or.inl drafted
  | fill cohortId => exact Or.inl drafted
  | advance cohortId phase => exact Or.inl drafted
  | completion cohortId => exact Or.inl drafted
  | failure cohortId message => exact Or.inl drafted
  | stopService message => exact Or.inl drafted

theorem ended_or_live_of_endingNow
    {cohortId id : CohortId} {ending : Ending}
    (ended : id ∈ (run.endingNow cohortId ending).map Prod.fst) :
    id ∈ run.endings.map Prod.fst ∨ id ∈ run.state.runner.cohorts := by
  unfold endingNow at ended
  split at ended
  · next live =>
      rcases List.mem_cons.mp ended with rfl | before
      · exact Or.inr live
      · exact Or.inl before
  · exact Or.inl ended

/-- What has ended after an event had ended before, or was live. -/
theorem mem_endings_step
    (event : OperatorEvent) {id : CohortId}
    (ended : id ∈ (run.step options event).endings.map Prod.fst) :
    id ∈ run.endings.map Prod.fst ∨ id ∈ run.state.runner.cohorts := by
  cases event with
  | createDraft draftId input =>
      simp only [step] at ended
      split at ended
      · exact Or.inl ended
      · exact Or.inl ended
  | advertiseDraft draftId minted =>
      simp only [step] at ended
      split at ended
      · exact Or.inl ended
      · exact Or.inl ended
  | readvertiseExpired cohortId minted =>
      simp only [step] at ended
      split at ended
      · exact Or.inl ended
      · exact Or.inl ended
  | applySettings patch =>
      simp only [step] at ended
      split at ended
      · exact Or.inl ended
      · exact Or.inl ended
  | microtask health =>
      simp only [step] at ended
      split at ended
      · exact Or.inl ended
      · exact Or.inl ended
  | cancelCohort cohortId health =>
      simp only [step] at ended
      split at ended
      · exact ended_or_live_of_endingNow ended
      · exact Or.inl ended
  | windowTimer cohortId health =>
      simp only [step] at ended
      split at ended
      · exact ended_or_live_of_endingNow ended
      · exact Or.inl ended
  | completion cohortId => exact ended_or_live_of_endingNow ended
  | failure cohortId message => exact ended_or_live_of_endingNow ended
  | stopService message =>
      simp only [step, List.map_append, List.map_map, List.mem_append] at ended
      rcases ended with now | before
      · right
        have keys :
            run.state.runner.cohorts.keys.map
                (Prod.fst ∘ fun id => (id, Ending.failed message)) =
              run.state.runner.cohorts.keys :=
          List.map_id _
        rw [keys] at now
        exact AList.mem_keys.mpr now
      · exact Or.inl before
  | updateDraft draftId input => exact Or.inl ended
  | discardDraft draftId => exact Or.inl ended
  | forgetTerminal cohortId health => exact Or.inl ended
  | pause => exact Or.inl ended
  | resume => exact Or.inl ended
  | seat cohortId => exact Or.inl ended
  | fill cohortId => exact Or.inl ended
  | advance cohortId phase => exact Or.inl ended

/-- No draft has the id of a cohort that ended. -/
def DraftsUnused (run : OperatorRun) : Prop :=
  ∀ id ∈ run.state.drafts, id ∉ run.endings.map Prod.fst

/-- A draft is not advertised, and has no record. -/
theorem notMem_of_draft
    (balanced : Balanced run) {id : CohortId} (drafted : id ∈ run.state.drafts) :
    id ∉ run.state.advertised ∧ id ∉ run.state.terminal := by
  have once : balance run id ≤ 1 := by
    rw [balanced id]
    exact indicator_le_one _
  rw [balance, indicator, if_pos drafted] at once
  constructor
  · intro advertised
    rw [indicator, if_pos advertised] at once
    omega
  · intro held
    rw [indicator, indicator, if_pos held] at once
    omega

theorem DraftsUnused.step
    (unused : run.DraftsUnused) (balanced : Balanced run)
    (attributed : Attributed run) {event : OperatorEvent}
    (possible : offered run event) : (run.step options event).DraftsUnused := by
  intro id drafted ended
  rcases mem_drafts_step event drafted with before | minted
  · rcases mem_endings_step event ended with past | live
    · exact unused id before past
    · exact
        (notMem_of_draft balanced before).1
          ((attributed.advertised id).mpr (Or.inl live))
  · have fresh := possible.1 id minted
    rcases mem_endings_step event ended with past | live
    · exact fresh (attributed.endedCreated id past)
    · exact fresh (attributed.liveCreated id live)

end OperatorRun

end Drafts

section Anchors

/-! ## A confirmed anchor belongs to a completed cohort -/

namespace Monitor

variable {monitor : Monitor} {session : MonitorSession} {now : Nat}

/-- A record that claims an anchor claimed it before, or is filed by a frame that
confirms one. -/
theorem anchored_of_step
    {event : MonitorEvent} {id : CohortId} {record : EndedRecord}
    (held : (monitor.step session now event).ended.lookup id = some record)
    (claims : record.chip.countsAnchored = true) :
    monitor.ended.lookup id = some record ∨
      ∃ txid, event = .frame (.anchored id txid true) := by
  have write := monitor.endedWrite_step session now event
  generalize (monitor.step session now event).ended = after at write held
  cases write with
  | kept _ silent => exact Or.inl held
  | alreadyCanceled cohortId already => exact Or.inl held
  | dismissed cohortId kept settled =>
      exact Or.inl (InsertionMap.lookup_of_lookup_erase held)
  | coSigned cohortId scriptPath viaFallback tagged =>
      rcases InsertionMap.lookup_remember_cases held with ⟨rfl, rfl⟩ | ⟨-, before⟩
      · cases viaFallback <;> cases claims
      · exact Or.inl before
  | anchored cohortId txid viaFallback tagged =>
      rcases InsertionMap.lookup_remember_cases held with ⟨rfl, -⟩ | ⟨-, before⟩
      · exact Or.inr ⟨txid, rfl⟩
      · exact Or.inl before
  | canceled cohortId =>
      rcases InsertionMap.lookup_remember_cases held with ⟨rfl, rfl⟩ | ⟨-, before⟩
      · cases claims
      · exact Or.inl before
  | failed _ cohortId reason source =>
      rcases InsertionMap.lookup_remember_cases held with ⟨rfl, rfl⟩ | ⟨-, before⟩
      · cases claims
      · exact Or.inl before

end Monitor

namespace DismissalRun

variable {options : OperatorOptions} {run : DismissalRun}

/-- Every record that claims an anchor is of a cohort that completed. -/
def AnchorsCompleted (run : DismissalRun) : Prop :=
  ∀ id record,
    run.monitor.ended.lookup id = some record →
      record.chip.countsAnchored = true → run.Completed id

theorem anchored_of_called
    {id : CohortId} {record : EndedRecord} (calls : List MonitorEvent)
    (unconfirmed : ∀ txid, MonitorEvent.frame (.anchored id txid true) ∉ calls)
    (claims : record.chip.countsAnchored = true) :
    ∀ monitor : Monitor,
      (calls.foldl (fun monitor call => monitor.step run.session run.now call)
          monitor).ended.lookup id = some record →
        monitor.ended.lookup id = some record := by
  induction calls with
  | nil => exact fun _ held => held
  | cons call calls inductionHypothesis =>
      intro monitor held
      have now :=
        inductionHypothesis
          (fun txid later => unconfirmed txid (List.mem_cons_of_mem _ later))
          _ held
      rcases anchored_of_step now claims with before | ⟨txid, rfl⟩
      · exact before
      · exact absurd List.mem_cons_self (unconfirmed txid)

theorem completed_step
    (event : DismissalEvent) {id : CohortId} (completed : run.Completed id) :
    (run.step options event).Completed id := by
  unfold Completed
  rw [operator_step]
  cases event.operator? with
  | none => exact completed
  | some request =>
      exact (OperatorRun.settlesLive_step request).endings _ completed

/-- Only a frame of the broadcaster confirms, and it is heard of a completed
cohort. -/
theorem completed_of_told
    {event : DismissalEvent} (possible : run.Offered event) {id : CohortId}
    {txid : String}
    (told : MonitorEvent.frame (.anchored id txid true) ∈ run.calls event) :
    run.Completed id := by
  cases event with
  | clock now => cases told
  | dismiss cohortId => cases told
  | completes cohortId scriptPath => simp [calls] at told
  | fails cohortId message reason => simp [calls] at told
  | monitor call =>
      rw [calls, List.mem_singleton] at told
      subst told
      exact possible.2
  | operator request =>
      cases request with
      | cancelCohort cohortId health =>
          rw [calls] at told
          split at told
          · simp at told
          · cases told
      | _ => cases told

theorem AnchorsCompleted.step
    (anchors : run.AnchorsCompleted) {event : DismissalEvent}
    (possible : run.Offered event) :
    (run.step options event).AnchorsCompleted := by
  intro id record held claims
  refine completed_step event ?_
  by_cases told :
      ∃ txid, MonitorEvent.frame (.anchored id txid true) ∈ run.calls event
  · obtain ⟨txid, member⟩ := told
    exact completed_of_told possible member
  · have unconfirmed :
        ∀ txid, MonitorEvent.frame (.anchored id txid true) ∉ run.calls event :=
      fun txid member => told ⟨txid, member⟩
    refine anchors id record ?_ claims
    cases event with
    | clock now => exact held
    | operator request => exact anchored_of_called _ unconfirmed claims _ held
    | completes cohortId scriptPath =>
        exact anchored_of_called _ unconfirmed claims _ held
    | fails cohortId message reason =>
        exact anchored_of_called _ unconfirmed claims _ held
    | monitor call => exact anchored_of_called _ unconfirmed claims _ held
    | dismiss cohortId =>
        have left :
            (run.monitor.dismissEnded run.session run.now cohortId).2.ended.lookup
              id = some record := by
          simp only [DismissalRun.step, deleteEnded] at held
          split at held
          · rw [recordServiceAction_eq] at held
            exact held
          · exact held
        have stepped :
            (run.monitor.step run.session run.now
                (.dismissEnded cohortId)).ended.lookup id = some record :=
          left
        rcases anchored_of_step stepped claims with before | ⟨txid, same⟩
        · exact before
        · cases same

end DismissalRun

end Anchors

section Tables

/-! ## The two tables, row by row -/

/-- A cohort on display in the session. -/
def OnDisplay (session : MonitorSession) (id : CohortId) : Prop :=
  ∃ seats, session.lookup id = some seats ∧ seats.phase ∈ displayPhases

namespace Monitor

variable {monitor : Monitor} {session : MonitorSession}

/-- A chip of the live arc. -/
def CohortChip.isLive : CohortChip → Bool
  | .ended _ => false
  | _ => true

theorem exists_liveRow
    (monitor : Monitor) (cohortId : CohortId) {seats : SessionSeats}
    (shown : seats.phase ∈ displayPhases) :
    ∃ row, monitor.liveRow? cohortId seats = some row ∧
      row.cohortId = cohortId ∧ row.chip.isLive = true := by
  unfold liveRow?
  rw [if_pos shown]
  refine ⟨_, rfl, rfl, ?_⟩
  dsimp only
  split
  · rfl
  · split <;> rfl

theorem phase_of_liveRow
    {cohortId : CohortId} {seats : SessionSeats} {row : CohortSummary}
    (shown : monitor.liveRow? cohortId seats = some row) :
    seats.phase ∈ displayPhases := by
  unfold liveRow? at shown
  split at shown
  · assumption
  · cases shown

/-- The ids with a live row. -/
theorem mem_liveIds {id : CohortId} :
    id ∈
        (session.entries.reverse.filterMap fun cohort =>
          monitor.liveRow? cohort.1 cohort.2).map CohortSummary.cohortId ↔
      OnDisplay session id := by
  constructor
  · intro listed
    obtain ⟨row, member, rfl⟩ := List.mem_map.mp listed
    obtain ⟨cohort, held, shown⟩ := List.mem_filterMap.mp member
    rw [(liveRow_spec shown).1]
    exact ⟨cohort.2, AList.mem_lookup_iff.mpr (List.mem_reverse.mp held),
      phase_of_liveRow shown⟩
  · rintro ⟨seats, found, displayed⟩
    obtain ⟨row, shown, named, -⟩ :=
      exists_liveRow monitor id displayed
    refine List.mem_map.mpr ⟨row, List.mem_filterMap.mpr ⟨⟨id, seats⟩, ?_, shown⟩, named⟩
    exact List.mem_reverse.mpr (AList.mem_lookup_iff.mp found)

/-- What the rows of the summary are. -/
theorem mem_summary {row : CohortSummary} :
    row ∈ monitor.summary session ↔
      (∃ seats, session.lookup row.cohortId = some seats ∧
          monitor.liveRow? row.cohortId seats = some row) ∨
        ∃ record, monitor.ended.lookup row.cohortId = some record ∧
          ¬ OnDisplay session row.cohortId ∧ row = endedRow row.cohortId record := by
  unfold summary
  simp only [List.mem_append]
  refine or_congr ?_ ?_
  · rw [List.mem_filterMap]
    constructor
    · rintro ⟨cohort, held, shown⟩
      rw [(liveRow_spec shown).1]
      exact ⟨cohort.2, AList.mem_lookup_iff.mpr (List.mem_reverse.mp held), shown⟩
    · rintro ⟨seats, found, shown⟩
      exact ⟨⟨row.cohortId, seats⟩,
        List.mem_reverse.mpr (AList.mem_lookup_iff.mp found), shown⟩
  · rw [List.mem_map]
    constructor
    · rintro ⟨entry, member, rfl⟩
      obtain ⟨held, hidden⟩ := List.mem_filter.mp member
      rw [decide_eq_true_iff, mem_liveIds] at hidden
      exact ⟨entry.2, AList.mem_lookup_iff.mpr (List.mem_reverse.mp held), hidden, rfl⟩
    · rintro ⟨record, found, hidden, same⟩
      refine ⟨⟨row.cohortId, record⟩, List.mem_filter.mpr ⟨?_, ?_⟩, same.symm⟩
      · exact List.mem_reverse.mpr (AList.mem_lookup_iff.mp found)
      · rw [decide_eq_true_iff, mem_liveIds]
        exact hidden

/-- No id has two rows. -/
theorem nodup_summary :
    ((monitor.summary session).map CohortSummary.cohortId).Nodup := by
  have live :
      ((session.entries.reverse.filterMap fun cohort =>
        monitor.liveRow? cohort.1 cohort.2).map CohortSummary.cohortId).Nodup := by
    have listed :
        ((session.entries.reverse.filterMap fun cohort =>
            monitor.liveRow? cohort.1 cohort.2).map CohortSummary.cohortId).Sublist
          (session.entries.reverse.map Sigma.fst) :=
      map_filterMap_sublist (fun _ _ row => (liveRow_spec row).1) _
    refine listed.nodup ?_
    rw [List.map_reverse, List.nodup_reverse]
    exact AList.keys_nodup session
  have keys : (monitor.ended.entries.reverse.map Sigma.fst).Nodup := by
    rw [List.map_reverse, List.nodup_reverse]
    exact AList.keys_nodup monitor.ended
  unfold summary
  simp only [List.map_append, List.map_map]
  rw [List.nodup_append']
  refine ⟨live, (List.filter_sublist.map Sigma.fst).nodup keys, ?_⟩
  intro id shown ended
  obtain ⟨entry, member, rfl⟩ := List.mem_map.mp ended
  exact of_decide_eq_true (List.mem_filter.mp member).2 shown

theorem mem_summaryIds {id : CohortId} :
    id ∈ (monitor.summary session).map CohortSummary.cohortId ↔
      OnDisplay session id ∨ id ∈ monitor.ended := by
  constructor
  · intro listed
    obtain ⟨row, member, rfl⟩ := List.mem_map.mp listed
    rcases mem_summary.mp member with ⟨seats, found, shown⟩ | ⟨record, found, -, -⟩
    · exact Or.inl ⟨seats, found, phase_of_liveRow shown⟩
    · exact Or.inr (InsertionMap.mem_of_lookup found)
  · intro held
    by_cases displayed : OnDisplay session id
    · obtain ⟨seats, found, phase⟩ := displayed
      obtain ⟨row, shown, rfl, -⟩ :=
        exists_liveRow monitor id phase
      exact List.mem_map_of_mem (mem_summary.mpr (Or.inl ⟨seats, found, shown⟩))
    · obtain ⟨record, found⟩ :=
        InsertionMap.exists_lookup_of_mem (held.resolve_left displayed)
      have member : endedRow id record ∈ monitor.summary session :=
        mem_summary.mpr (Or.inr ⟨record, found, displayed, rfl⟩)
      exact List.mem_map_of_mem member

theorem isLive_of_notEnded
    {chip : CohortChip} (notEnded : ∀ fate, chip ≠ .ended fate) :
    chip.isLive = true := by
  cases chip with
  | ended fate => exact absurd rfl (notEnded fate)
  | filling => rfl
  | coSigning => rfl
  | needsFunding => rfl

/-- A summary row has a live chip exactly while its cohort is on display. -/
theorem isLive_iff
    {row : CohortSummary} (listed : row ∈ monitor.summary session) :
    row.chip.isLive = true ↔ OnDisplay session row.cohortId := by
  rcases mem_summary.mp listed with ⟨seats, found, shown⟩ | ⟨record, -, hidden, same⟩
  · constructor
    · exact fun _ => ⟨seats, found, phase_of_liveRow shown⟩
    · exact fun _ => isLive_of_notEnded (liveRow_spec shown).2
  · constructor
    · intro live
      rw [same] at live
      cases live
    · exact fun displayed => absurd displayed hidden

/-- The open cohorts and those in flight are the cohorts on display. -/
theorem openCohorts_add_inFlight :
    (monitor.serviceMetrics session).openCohorts +
        (monitor.serviceMetrics session).inFlight =
      (session.entries.filter fun cohort => cohort.2.phase ∈ displayPhases).length := by
  simp only [serviceMetrics]
  induction session.entries with
  | nil => rfl
  | cons cohort rest inductionHypothesis =>
      simp only [List.filter_cons, decide_eq_true_eq]
      by_cases opened : cohort.2.phase ∈ openPhases
      · rw [if_pos opened, if_neg (notMem_inFlightPhases_of_open opened),
          if_pos (mem_displayPhases_of_open opened)]
        simp only [List.length_cons]
        omega
      · by_cases flying : cohort.2.phase ∈ inFlightPhases
        · rw [if_neg opened, if_pos flying,
            if_pos (mem_displayPhases_of_inFlight flying)]
          simp only [List.length_cons]
          omega
        · have hidden : cohort.2.phase ∉ displayPhases := by
            intro displayed
            rcases List.mem_append.mp displayed with inOpen | inFlight
            · exact opened inOpen
            · exact flying inFlight
          rw [if_neg opened, if_neg flying, if_neg hidden]
          exact inductionHypothesis

end Monitor

end Tables

section Listed

/-! ## The operator's list beside the session -/

variable {options : OperatorOptions} {state : OperatorState}

theorem onDisplay_iff {id : CohortId} :
    OnDisplay state.session id ↔
      ∃ phase ∈ displayPhases, state.runner.getCohortPhase id = some phase := by
  rw [← phase_session]
  constructor
  · rintro ⟨seats, found, displayed⟩
    exact ⟨seats.phase, displayed, by rw [found]; rfl⟩
  · rintro ⟨phase, displayed, shown⟩
    obtain ⟨seats, found, rfl⟩ := Option.map_eq_some_iff.mp shown
    exact ⟨seats, found, displayed⟩

/-- What the monitor sees on display is a cohort of the runner in that phase. -/
theorem exists_of_onDisplay {id : CohortId} (displayed : OnDisplay state.session id) :
    ∃ cohort, state.runner.cohorts.lookup id = some cohort ∧
      cohort.phase ∈ displayPhases := by
  obtain ⟨phase, shown, held⟩ := onDisplay_iff.mp displayed
  obtain ⟨cohort, found, rfl⟩ := Option.map_eq_some_iff.mp held
  exact ⟨cohort, found, shown⟩

theorem onDisplay_of_phase
    {id : CohortId} {cohort : SessionCohort}
    (found : state.runner.cohorts.lookup id = some cohort)
    (phase : cohort.phase ∈ displayPhases) : OnDisplay state.session id := by
  refine onDisplay_iff.mpr ⟨cohort.phase, phase, ?_⟩
  rw [Runner.getCohortPhase, found]
  rfl

/-- The directory lists the advertised cohorts on display. -/
theorem mem_directoryIds {id : CohortId} :
    id ∈ (directory options state).map DirectoryCohortDTO.cohortId ↔
      id ∈ state.advertised ∧ OnDisplay state.session id := by
  constructor
  · intro listed
    obtain ⟨row, member, rfl⟩ := List.mem_map.mp listed
    obtain ⟨entry, held, shown⟩ := List.mem_filterMap.mp member
    obtain ⟨named, advertised⟩ := directory_row shown
    rw [named]
    refine ⟨advertised, ?_⟩
    obtain ⟨config, found⟩ := InsertionMap.exists_lookup_of_mem advertised
    simp only [directoryRow?, found] at shown
    split at shown
    · next phase =>
        exact
          onDisplay_of_phase (AList.mem_lookup_iff.mpr (List.mem_reverse.mp held)) phase
    · cases shown
  · rintro ⟨advertised, displayed⟩
    obtain ⟨cohort, found, phase⟩ := exists_of_onDisplay displayed
    obtain ⟨config, configured⟩ := InsertionMap.exists_lookup_of_mem advertised
    have held : (⟨id, cohort⟩ : Sigma fun _ => SessionCohort) ∈
        state.runner.cohorts.entries.reverse :=
      List.mem_reverse.mpr (AList.mem_lookup_iff.mp found)
    obtain ⟨row, shown⟩ : ∃ row, directoryRow? options state ⟨id, cohort⟩ = some row := by
      simp only [directoryRow?, configured, if_pos phase]
      exact ⟨_, rfl⟩
    exact
      List.mem_map.mpr
        ⟨row, List.mem_filterMap.mpr ⟨_, held, shown⟩, (directory_row shown).1⟩

/-- Where a row of the operator's list comes from. -/
theorem source_of_listed
    (drafts : DraftsAll (fun _ entry => entry.dto.state = .draft) state)
    {cohort : OperatorCohortDTO} (listed : cohort ∈ listCohorts options state) :
    cohort.state = .draft ∨
      (cohort.state = .advertised ∧
        cohort.draftId ∈ (directory options state).map DirectoryCohortDTO.cohortId) ∨
      ((cohort.state = .expired ∨ cohort.state = .canceled) ∧
        cohort.draftId ∈ state.terminal) := by
  simp only [listCohorts, List.mem_append] at listed
  rcases listed with (draft | live) | terminal
  · obtain ⟨entry, member, rfl⟩ := List.mem_map.mp draft
    exact
      Or.inl
        (drafts entry.1 entry.2
          (AList.mem_lookup_iff.mpr (List.mem_reverse.mp member)))
  · obtain ⟨entry, member, rfl⟩ := List.mem_map.mp live
    exact Or.inr (Or.inl ⟨rfl, List.mem_map_of_mem member⟩)
  · obtain ⟨entry, member, rfl⟩ := List.mem_map.mp terminal
    right
    right
    refine ⟨?_, AList.mem_keys.mpr (List.mem_map_of_mem (List.mem_reverse.mp member))⟩
    dsimp only
    cases entry.2.fate with
    | expired => exact Or.inl rfl
    | canceled => exact Or.inr rfl

/-- An advertised cohort on display is listed as such. -/
theorem exists_listed_of_directory
    (options : OperatorOptions) {id : CohortId}
    (listed : id ∈ (directory options state).map DirectoryCohortDTO.cohortId) :
    ∃ cohort ∈ listCohorts options state,
      cohort.draftId = id ∧ cohort.state = .advertised := by
  obtain ⟨row, member, rfl⟩ := List.mem_map.mp listed
  simp only [listCohorts, List.mem_append]
  exact ⟨_, Or.inl (Or.inr (List.mem_map_of_mem member)), rfl, rfl⟩

end Listed

section Law

/-! ## The law -/

namespace ChipKey

/-- A chip of the live arc. -/
def isLive : ChipKey → Bool
  | .monitored chip => CohortChip.isLive chip
  | _ => false

/-- A chip that claims a confirmed anchor. -/
def claimsAnchor : ChipKey → Bool
  | .monitored (.ended chip) => chip.countsAnchored
  | _ => false

end ChipKey

namespace DismissalRun

/-- What `GET /v1/operator/cohorts` serves, as the console groups it. -/
def console (options : OperatorOptions) (run : DismissalRun) : GroupedRows :=
  groupRenderRows (listCohorts options run.operator.state)
    (run.monitor.summary run.session)

/-- The metrics row of the same read. -/
def metrics (run : DismissalRun) : ServiceMetrics :=
  run.monitor.serviceMetrics run.session

end DismissalRun

/-- The page shows every cohort once, and its counts are those of its rows. -/
structure ConsoleFaithful (options : OperatorOptions) (run : DismissalRun) :
    Prop where
  once : ((run.console options).shown.map RenderRow.id).Nodup
  reachable :
    ∀ id,
      id ∈ (run.console options).shown.map RenderRow.id ↔
        id ∈ run.operator.state.drafts ∨ OnDisplay run.session id ∨
          id ∈ run.operator.state.terminal ∨ id ∈ run.monitor.ended
  endedGroup : ∀ row ∈ (run.console options).ended, row.id ∉ run.session
  liveCount :
    run.metrics.openCohorts + run.metrics.inFlight =
      ((run.console options).shown.filter fun row => row.chip.isLive).length
  anchoredCount :
    run.metrics.anchored =
      ((run.console options).shown.filter fun row => row.chip.claimsAnchor).length

namespace DismissalRun

variable {options : OperatorOptions} {run : DismissalRun}

/-- What the law rests on. -/
structure Accounted (run : DismissalRun) : Prop where
  consistent : Consistent run
  balanced : Balanced run.operator
  named : NamedDrafts run.operator.state
  unused : run.operator.DraftsUnused
  anchors : run.AnchorsCompleted

theorem accounted_booted (settings : RuntimeSettings) (mode : ServiceMode) :
    Accounted (booted settings mode) where
  consistent := consistent_booted settings mode
  balanced id := rfl
  named id entry found := by cases found
  unused id drafted := by cases drafted
  anchors id record held := by cases held

theorem Accounted.step
    (accounted : Accounted run) {event : DismissalEvent}
    (possible : run.Offered event) : Accounted (run.step options event) where
  consistent := accounted.consistent.step possible
  balanced := by
    rw [operator_step]
    cases request : event.operator? with
    | none => exact accounted.balanced
    | some request' =>
        exact accounted.balanced.step (possible.1 request' request).1
  named := by
    rw [operator_step]
    cases event.operator? with
    | none => exact accounted.named
    | some request => exact accounted.named.step request
  unused := by
    rw [operator_step]
    cases request : event.operator? with
    | none => exact accounted.unused
    | some request' =>
        exact
          accounted.unused.step accounted.balanced accounted.consistent.attributed
            (possible.1 request' request).1
  anchors := accounted.anchors.step possible

/-- A row on the page is a row of the operator's list, or of the summary only. -/
theorem mem_shown {row : RenderRow} :
    row ∈ (run.console options).shown ↔
      (∃ cohort ∈ listCohorts options run.operator.state,
          joinedRow (run.monitor.summary run.session) cohort = row) ∨
        ∃ summary ∈ run.monitor.summary run.session,
          summary.cohortId ∉
              (listCohorts options run.operator.state).map
                OperatorCohortDTO.draftId ∧
            monitoringRow summary = row := by
  rw [console, (shown_perm _ _).mem_iff, renderRows, List.mem_append,
    List.mem_map, List.mem_map]
  refine or_congr Iff.rfl (exists_congr fun summary => ?_)
  rw [List.mem_filter, decide_eq_true_iff, and_assoc]

/-- The row of an advertised cohort of the list joins its live summary row. -/
theorem exists_joined
    {cohort : OperatorCohortDTO} (advertised : cohort.state = .advertised)
    (displayed : OnDisplay run.session cohort.draftId) :
    ∃ summary ∈ run.monitor.summary run.session,
      summary.cohortId = cohort.draftId ∧ summary.chip.isLive = true ∧
        (joinedRow (run.monitor.summary run.session) cohort).chip =
          .monitored summary.chip := by
  have known :
      cohort.draftId ∈
        (run.monitor.summary run.session).map CohortSummary.cohortId :=
    mem_summaryIds.mpr (Or.inl displayed)
  obtain ⟨summary, held, named⟩ := List.mem_map.mp known
  have found := rowById_of_mem nodup_summary held
  rw [named] at found
  refine ⟨summary, held, named, (isLive_iff held).mpr ?_, ?_⟩
  · rw [named]
    exact displayed
  · simp only [joinedRow, chipForCohort, advertised, found]

/-- A row with a chip of the monitor shows a row of the summary, but for the
default of a cohort the monitor has not seen. -/
theorem Accounted.summary_of_chip
    (accounted : Accounted run) {row : RenderRow} {chip : CohortChip}
    (member : row ∈ (run.console options).shown)
    (chipped : row.chip = .monitored chip) (notCanceled : chip ≠ .ended .canceled) :
    ∃ summary ∈ run.monitor.summary run.session,
      summary.cohortId = row.id ∧ summary.chip = chip := by
  rcases mem_shown.mp member with ⟨cohort, listed, rfl⟩ | ⟨summary, held, -, rfl⟩
  · rcases source_of_listed accounted.consistent.drafts listed with
      draft | ⟨advertised, directory⟩ | ⟨expired | canceled, -⟩
    · simp [joinedRow, chipForCohort, draft] at chipped
    · obtain ⟨summary, held, named, -, chip⟩ :=
        exists_joined advertised (mem_directoryIds.mp directory).2
      rw [chip] at chipped
      injection chipped with same
      exact ⟨summary, held, named, same⟩
    · simp [joinedRow, chipForCohort, expired] at chipped
    · simp only [joinedRow, chipForCohort, canceled] at chipped
      injection chipped with same
      exact absurd same.symm notCanceled
  · injection chipped with same
    exact ⟨summary, held, rfl, same⟩

theorem ids_shown_perm :
    ((run.console options).shown.map RenderRow.id).Perm
      ((renderRows (listCohorts options run.operator.state)
        (run.monitor.summary run.session)).map RenderRow.id) :=
  (shown_perm _ _).map _

theorem Accounted.once (accounted : Accounted run) :
    ((run.console options).shown.map RenderRow.id).Nodup := by
  refine ids_shown_perm.nodup_iff.mpr ?_
  exact nodup_renderRows (accounted.balanced.rowsDistinct accounted.named) nodup_summary

theorem mem_listedIds (named : NamedDrafts run.operator.state) {id : CohortId} :
    id ∈ (listCohorts options run.operator.state).map OperatorCohortDTO.draftId ↔
      id ∈ run.operator.state.drafts ∨
        (id ∈ run.operator.state.advertised ∧ OnDisplay run.session id) ∨
        id ∈ run.operator.state.terminal := by
  rw [rowIds_listCohorts named, List.mem_append, List.mem_append,
    List.mem_reverse, List.mem_reverse, mem_directoryIds, or_assoc]
  rfl

theorem Accounted.reachable (accounted : Accounted run) (id : CohortId) :
    id ∈ (run.console options).shown.map RenderRow.id ↔
      id ∈ run.operator.state.drafts ∨ OnDisplay run.session id ∨
        id ∈ run.operator.state.terminal ∨ id ∈ run.monitor.ended := by
  rw [ids_shown_perm.mem_iff, mem_ids_renderRows, mem_listedIds accounted.named,
    mem_summaryIds]
  constructor
  · rintro ((drafted | ⟨-, displayed⟩ | held) | displayed | ended)
    · exact Or.inl drafted
    · exact Or.inr (Or.inl displayed)
    · exact Or.inr (Or.inr (Or.inl held))
    · exact Or.inr (Or.inl displayed)
    · exact Or.inr (Or.inr (Or.inr ended))
  · rintro (drafted | displayed | held | ended)
    · exact Or.inl (Or.inl drafted)
    · exact Or.inr (Or.inl displayed)
    · exact Or.inl (Or.inr (Or.inr held))
    · exact Or.inr (Or.inr ended)

theorem notLive_of_group
    {chip : CohortChip} (grouped : groupForChip (.monitored chip) = .ended) :
    chip.isLive = false := by
  cases chip with
  | ended fate => rfl
  | filling => cases grouped
  | coSigning => cases grouped
  | needsFunding => cases grouped

theorem Accounted.endedGroup
    (accounted : Accounted run) {row : RenderRow}
    (listed : row ∈ (run.console options).ended) : row.id ∉ run.session := by
  have grouped :
      row ∈ (renderRows (listCohorts options run.operator.state)
        (run.monitor.summary run.session)).filter
          fun row => groupForChip row.chip = .ended := by
    rw [← get_groupRenderRows]
    exact listed
  obtain ⟨member, group⟩ := List.mem_filter.mp grouped
  have placed := of_decide_eq_true group
  have shown : row ∈ (run.console options).shown :=
    (shown_perm _ _).mem_iff.mpr member
  have consistent := accounted.consistent
  rcases mem_shown.mp shown with ⟨cohort, served, rfl⟩ | ⟨summary, held, -, rfl⟩
  · rcases source_of_listed consistent.drafts served with
      draft | ⟨advertised, directory⟩ | ⟨-, recorded⟩
    · simp [joinedRow, chipForCohort, draft, groupForChip] at placed
    · obtain ⟨summary, -, -, live, chip⟩ :=
        exists_joined advertised (mem_directoryIds.mp directory).2
      rw [chip] at placed
      rw [notLive_of_group placed] at live
      cases live
    · exact
        consistent.session_of_ended
          (consistent.attributed.ended_of_terminal recorded)
  · have settled := notLive_of_group placed
    have hidden : ¬ OnDisplay run.session summary.cohortId := by
      rw [← isLive_iff held, settled]
      exact Bool.false_ne_true
    rcases mem_summary.mp held with ⟨seats, found, live⟩ | ⟨record, found, -, -⟩
    · exact absurd ⟨seats, found, phase_of_liveRow live⟩ hidden
    · exact
        consistent.session_of_ended
          (consistent.recorded _ (InsertionMap.mem_of_lookup found))

theorem Accounted.nodup_filtered
    (accounted : Accounted run) (keep : RenderRow → Bool) :
    (((run.console options).shown.filter keep).map RenderRow.id).Nodup :=
  (List.filter_sublist.map RenderRow.id).nodup accounted.once

/-- Two lists of distinct ids with the same members are of one length. -/
theorem length_eq_of_mem_iff
    {Item Other Id : Type} {items : List Item} {others : List Other}
    (itemId : Item → Id) (otherId : Other → Id)
    (itemsOnce : (items.map itemId).Nodup) (othersOnce : (others.map otherId).Nodup)
    (same : ∀ id, id ∈ items.map itemId ↔ id ∈ others.map otherId) :
    items.length = others.length := by
  have perm := (List.perm_ext_iff_of_nodup itemsOnce othersOnce).mpr same
  rw [← List.length_map itemId, ← List.length_map otherId]
  exact perm.length_eq

/-- A row with a live chip is that of a cohort on display, and conversely. -/
theorem Accounted.mem_liveRows (accounted : Accounted run) (id : CohortId) :
    id ∈ ((run.console options).shown.filter fun row => row.chip.isLive).map
        RenderRow.id ↔
      OnDisplay run.session id := by
  constructor
  · intro listed
    obtain ⟨row, member, rfl⟩ := List.mem_map.mp listed
    obtain ⟨shown, live⟩ := List.mem_filter.mp member
    cases chip : row.chip with
    | draft =>
        rw [chip] at live
        cases live
    | expired =>
        rw [chip] at live
        cases live
    | monitored chip' =>
        rw [chip] at live
        have notCanceled : chip' ≠ .ended .canceled := by
          rintro rfl
          cases live
        obtain ⟨summary, held, named, rfl⟩ :=
          accounted.summary_of_chip shown chip notCanceled
        rw [← named]
        exact (isLive_iff held).mp live
  · intro displayed
    have attributed := accounted.consistent.attributed
    obtain ⟨cohort, live, -⟩ := exists_of_onDisplay displayed
    have advertised :=
      (attributed.advertised id).mpr (Or.inl (InsertionMap.mem_of_lookup live))
    obtain ⟨dto, listed, rfl, state⟩ :=
      exists_listed_of_directory options
        (mem_directoryIds.mpr ⟨advertised, displayed⟩)
    obtain ⟨summary, -, -, isLive, chip⟩ := exists_joined state displayed
    refine List.mem_map.mpr
      ⟨joinedRow (run.monitor.summary run.session) dto,
        List.mem_filter.mpr ⟨mem_shown.mpr (Or.inl ⟨dto, listed, rfl⟩), ?_⟩, rfl⟩
    rw [chip]
    exact isLive

theorem Accounted.liveCount (accounted : Accounted run) :
    run.metrics.openCohorts + run.metrics.inFlight =
      ((run.console options).shown.filter fun row => row.chip.isLive).length := by
  rw [metrics, openCohorts_add_inFlight]
  refine length_eq_of_mem_iff Sigma.fst RenderRow.id ?_
    (accounted.nodup_filtered _) ?_
  · exact (List.filter_sublist.map Sigma.fst).nodup (AList.keys_nodup run.session)
  · intro id
    rw [accounted.mem_liveRows]
    constructor
    · intro listed
      obtain ⟨cohort, member, rfl⟩ := List.mem_map.mp listed
      obtain ⟨held, phase⟩ := List.mem_filter.mp member
      exact ⟨cohort.2, AList.mem_lookup_iff.mpr held, of_decide_eq_true phase⟩
    · rintro ⟨seats, found, phase⟩
      refine List.mem_map.mpr ⟨⟨id, seats⟩, List.mem_filter.mpr ⟨?_, ?_⟩, rfl⟩
      · exact AList.mem_lookup_iff.mp found
      · exact decide_eq_true phase

/-- A cohort with a record that claims an anchor is in no other table. -/
theorem Accounted.unlisted_of_anchored
    (options : OperatorOptions) (accounted : Accounted run) {id : CohortId}
    {record : EndedRecord} (found : run.monitor.ended.lookup id = some record)
    (claims : record.chip.countsAnchored = true) :
    ¬ OnDisplay run.session id ∧
      id ∉ (listCohorts options run.operator.state).map
        OperatorCohortDTO.draftId := by
  have attributed := accounted.consistent.attributed
  have completed := accounted.anchors id record found claims
  have ended : id ∈ run.operator.endings.map Prod.fst :=
    List.mem_map_of_mem completed
  have hidden : ¬ OnDisplay run.session id := by
    rintro ⟨seats, shown, -⟩
    exact
      accounted.consistent.session_of_ended ended (InsertionMap.mem_of_lookup shown)
  refine ⟨hidden, ?_⟩
  rw [mem_listedIds accounted.named]
  rintro (drafted | ⟨-, displayed⟩ | held)
  · exact accounted.unused id drafted ended
  · exact hidden displayed
  · obtain ⟨kept, retained⟩ := InsertionMap.exists_lookup_of_mem held
    obtain ⟨ending, other, described⟩ :=
      attributed.filedEnding id kept (attributed.retained id kept retained)
    have same := attributed.ending_unique completed other
    subst same
    exact described

theorem Accounted.mem_anchoredRows (accounted : Accounted run) (id : CohortId) :
    id ∈ ((run.console options).shown.filter fun row => row.chip.claimsAnchor).map
        RenderRow.id ↔
      ∃ record, run.monitor.ended.lookup id = some record ∧
        record.chip.countsAnchored = true := by
  constructor
  · intro listed
    obtain ⟨row, member, rfl⟩ := List.mem_map.mp listed
    obtain ⟨shown, claims⟩ := List.mem_filter.mp member
    cases chip : row.chip with
    | draft =>
        rw [chip] at claims
        cases claims
    | expired =>
        rw [chip] at claims
        cases claims
    | monitored chip' =>
        rw [chip] at claims
        have notCanceled : chip' ≠ .ended .canceled := by
          rintro rfl
          cases claims
        obtain ⟨summary, held, named, rfl⟩ :=
          accounted.summary_of_chip shown chip notCanceled
        rw [← named]
        rcases mem_summary.mp held with
          ⟨seats, found, live⟩ | ⟨record, found, -, same⟩
        · have isLive := isLive_of_notEnded (liveRow_spec live).2
          cases summaryChip : summary.chip with
          | ended fate =>
              rw [summaryChip] at isLive
              cases isLive
          | filling =>
              rw [summaryChip] at claims
              cases claims
          | coSigning =>
              rw [summaryChip] at claims
              cases claims
          | needsFunding =>
              rw [summaryChip] at claims
              cases claims
        · refine ⟨record, found, ?_⟩
          rw [same] at claims
          exact claims
  · rintro ⟨record, found, claims⟩
    obtain ⟨hidden, unlisted⟩ :=
      accounted.unlisted_of_anchored options found claims
    have held : endedRow id record ∈ run.monitor.summary run.session :=
      mem_summary.mpr (Or.inr ⟨record, found, hidden, rfl⟩)
    refine List.mem_map.mpr
      ⟨monitoringRow (endedRow id record), List.mem_filter.mpr ⟨?_, claims⟩, rfl⟩
    exact mem_shown.mpr (Or.inr ⟨endedRow id record, held, unlisted, rfl⟩)

theorem Accounted.anchoredCount (accounted : Accounted run) :
    run.metrics.anchored =
      ((run.console options).shown.filter fun row =>
        row.chip.claimsAnchor).length := by
  rw [metrics, serviceMetrics]
  refine length_eq_of_mem_iff Sigma.fst RenderRow.id ?_
    (accounted.nodup_filtered _) ?_
  · exact
      (List.filter_sublist.map Sigma.fst).nodup
        (AList.keys_nodup run.monitor.ended)
  · intro id
    rw [accounted.mem_anchoredRows]
    constructor
    · intro listed
      obtain ⟨entry, member, rfl⟩ := List.mem_map.mp listed
      obtain ⟨held, claims⟩ := List.mem_filter.mp member
      exact ⟨entry.2, AList.mem_lookup_iff.mpr held, claims⟩
    · rintro ⟨record, found, claims⟩
      exact
        List.mem_map.mpr
          ⟨⟨id, record⟩,
            List.mem_filter.mpr ⟨AList.mem_lookup_iff.mp found, claims⟩, rfl⟩

variable (options) (settings : RuntimeSettings) (mode : ServiceMode)

/-- In every run of the service the console shows each cohort once, and counts
what it shows. -/
theorem consoleFaithful_of_admits
    (events : List DismissalEvent)
    (admissible : (dismissalMachine options settings mode).Admits events) :
    ConsoleFaithful options ((dismissalMachine options settings mode).run events) := by
  have always : (dismissalMachine options settings mode).Always Accounted := by
    refine Machine.Always.of_inductive (accounted_booted settings mode) ?_
    intro run event accounted possible
    exact accounted.step possible
  have accounted := always events admissible
  exact
    { once := accounted.once
      reachable := accounted.reachable
      endedGroup := fun _ => accounted.endedGroup
      liveCount := accounted.liveCount
      anchoredCount := accounted.anchoredCount }

/-- A cohort is co-signed, anchored and confirmed beside a draft. -/
def anchoredBesideDraft : List DismissalEvent :=
  [ .operator (.createDraft 0 (plainInput none)),
    .operator (.createDraft 2 (plainInput none)),
    .operator (.advertiseDraft 0 (some 1)),
    .operator (.seat 1),
    .operator (.seat 1),
    .operator (.fill 1),
    .completes 1 false,
    .operator (.microtask .sound),
    .monitor (.frame (.anchored 1 "5e0c" true)) ]

theorem consoleFaithful_of_admits_anchored :
    ConsoleFaithful plainOptions
      ((dismissalMachine plainOptions .unseeded .live).run anchoredBesideDraft) :=
  consoleFaithful_of_admits plainOptions .unseeded .live anchoredBesideDraft
    (by decide +kernel)

end DismissalRun

end Law

end Btcr2Aggregation
