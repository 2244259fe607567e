import Btcr2Aggregation.Service.OperatorRuns

/-!
# Terminal fates

All causes that end a cohort reject through one promise, and the fate of the
record is read from an intent tag.  With prompt settlements every record names
the cause that really ended its cohort, and no timer outlives its cohort.
-/

namespace Btcr2Aggregation

section Endings

/-! ## What an ending leaves behind -/

namespace Ending

/-- The outcome and the intent tag a settlement finds after this ending. -/
def leaves : Ending → Except String Unit → Option CohortIntent → Prop
  | .completed, outcome, _ => outcome = .ok ()
  | .failed message, outcome, intent => outcome = .error message ∧ intent = none
  | .canceled, outcome, intent =>
      (∃ message, outcome = .error message) ∧ intent = some .canceled
  | .windowExpired, outcome, intent =>
      (∃ message, outcome = .error message) ∧ intent = some .windowExpired

/-- The record that is true to an ending. -/
def describes : Ending → TerminalRecord → Prop
  | .completed, _ => False
  | .failed message, record =>
      record.fate = .expired ∧ record.reason = reasonString message
  | .canceled, record =>
      record.fate = .canceled ∧ record.reason = canceledReason
  | .windowExpired, record =>
      record.fate = .expired ∧ record.reason = windowExpiredReason

theorem describes_terminalRecord
    {ending : Ending} {message : String} {intent : Option CohortIntent}
    (left : ending.leaves (.error message) intent) (config : CohortConfig)
    (windows : Option DraftWindows) :
    ending.describes
      (OperatorState.terminalRecord config windows intent message) := by
  cases ending with
  | completed => cases left
  | failed reason =>
      obtain ⟨outcome, rfl⟩ := left
      cases outcome
      exact ⟨rfl, rfl⟩
  | canceled =>
      obtain ⟨-, rfl⟩ := left
      exact ⟨rfl, rfl⟩
  | windowExpired =>
      obtain ⟨-, rfl⟩ := left
      exact ⟨rfl, rfl⟩

theorem canceled_of_describes
    {ending : Ending} {record : TerminalRecord}
    (described : ending.describes record) :
    record.fate = .canceled ↔ ending = .canceled := by
  cases ending with
  | completed => cases described
  | failed message => simp [described.1]
  | canceled => simp [described.1]
  | windowExpired => simp [described.1]

end Ending

end Endings

section Invariant

/-! ## The invariant -/

namespace Runner

/-- The cohorts whose settlement callbacks have not run. -/
def pendingIds (runner : Runner) : List CohortId :=
  runner.pending.map Settlement.cohortId

/-- The runner adds a settlement for a cohort it held only. -/
theorem mem_pendingIds_settle
    {runner : Runner} {cohortId id : CohortId} {outcome : Except String Unit} :
    id ∈ (runner.settle cohortId outcome).pendingIds ↔
      id ∈ runner.pendingIds ∨ id = cohortId ∧ id ∈ runner.cohorts := by
  by_cases held : cohortId ∈ runner.cohorts
  · rw [pendingIds, pending_settle_of_mem held, List.map_append,
      List.mem_append, List.map_singleton, List.mem_singleton]
    refine or_congr_right ?_
    constructor
    · rintro rfl
      exact ⟨rfl, held⟩
    · exact And.left
  · rw [settle_of_notMem held]
    constructor
    · exact Or.inl
    · rintro (waiting | ⟨rfl, live⟩)
      · exact waiting
      · exact absurd live held

theorem mem_pendingIds_stop
    {runner : Runner} {reason : String} {id : CohortId} :
    id ∈ (runner.stop reason).pendingIds ↔
      id ∈ runner.pendingIds ∨ id ∈ runner.cohorts := by
  rw [pendingIds, pending_stop, List.map_append, List.mem_append, List.map_map,
    AList.mem_keys]
  refine or_congr_right ?_
  rw [List.mem_map]
  constructor
  · rintro ⟨cohortId, held, rfl⟩
    exact List.mem_reverse.mp held
  · intro held
    exact ⟨id, List.mem_reverse.mpr held, rfl⟩

end Runner

/-- Every id of the live maps is live or about to be settled; a pending
settlement carries what its ending left; every record is true to its ending. -/
structure Attributed (run : OperatorRun) : Prop where
  advertised :
    ∀ id,
      id ∈ run.state.advertised ↔
        id ∈ run.state.runner.cohorts ∨ id ∈ run.state.runner.pendingIds
  timers :
    ∀ id ∈ run.state.windowTimers,
      id ∈ run.state.runner.cohorts ∨ id ∈ run.state.runner.pendingIds
  intents : ∀ id ∈ run.state.intents, id ∈ run.state.runner.pendingIds
  liveCreated : ∀ id ∈ run.state.runner.cohorts, id ∈ run.created
  endedCreated : ∀ id ∈ run.endings.map Prod.fst, id ∈ run.created
  endedNotLive :
    ∀ id ∈ run.endings.map Prod.fst, id ∉ run.state.runner.cohorts
  endedOnce : (run.endings.map Prod.fst).Nodup
  pendingOnce : run.state.runner.pendingIds.Nodup
  pendingEnded :
    ∀ settlement ∈ run.state.runner.pending,
      ∃ ending,
        (settlement.cohortId, ending) ∈ run.endings ∧
          ending.leaves settlement.outcome
            (run.state.intents.lookup settlement.cohortId)
  canceledOk :
    ∀ id, id ∈ run.canceledOk ↔ (id, Ending.canceled) ∈ run.endings
  filedOnce : (run.filed.map Prod.fst).Nodup
  filedSettled :
    ∀ id ∈ run.filed.map Prod.fst, id ∉ run.state.runner.pendingIds
  filedEnding :
    ∀ id record,
      (id, record) ∈ run.filed →
        ∃ ending, (id, ending) ∈ run.endings ∧ ending.describes record
  recorded :
    ∀ id ending,
      (id, ending) ∈ run.endings → ending ≠ .completed →
        id ∈ run.state.runner.pendingIds ∨ id ∈ run.filed.map Prod.fst
  retained :
    ∀ id record,
      run.state.terminal.lookup id = some record → (id, record) ∈ run.filed

namespace Attributed

open OperatorRun

variable {options : OperatorOptions} {run after : OperatorRun}

theorem booted (settings : RuntimeSettings) :
    Attributed (OperatorRun.booted settings) := by
  constructor <;> simp [OperatorRun.booted, OperatorState.booted, Runner.booted,
    Runner.pendingIds]

/-- An event that ends no cohort: at most fresh ids enter the live maps. -/
theorem grow
    (attributed : Attributed run) (entered : List CohortId)
    (fresh : ∀ id ∈ entered, id ∉ run.created)
    (cohorts :
      ∀ id,
        id ∈ after.state.runner.cohorts ↔
          id ∈ entered ∨ id ∈ run.state.runner.cohorts)
    (advertised :
      ∀ id,
        id ∈ after.state.advertised ↔
          id ∈ entered ∨ id ∈ run.state.advertised)
    (timers :
      ∀ id ∈ after.state.windowTimers,
        id ∈ entered ∨ id ∈ run.state.windowTimers)
    (created : ∀ id, id ∈ entered ∨ id ∈ run.created → id ∈ after.created)
    (intents : after.state.intents = run.state.intents)
    (pending : after.state.runner.pending = run.state.runner.pending)
    (terminal :
      ∀ id record,
        after.state.terminal.lookup id = some record →
          run.state.terminal.lookup id = some record)
    (endings : after.endings = run.endings)
    (canceledOk : after.canceledOk = run.canceledOk)
    (filed : after.filed = run.filed) :
    Attributed after := by
  have pendingIds :
      after.state.runner.pendingIds = run.state.runner.pendingIds := by
    rw [Runner.pendingIds, pending]
    rfl
  exact
    { advertised := by
        intro id
        rw [advertised, cohorts, attributed.advertised, pendingIds, or_assoc]
      timers := by
        intro id armed
        rw [cohorts, pendingIds, or_assoc]
        exact (timers id armed).imp_right (attributed.timers id)
      intents := by
        rw [intents, pendingIds]
        exact attributed.intents
      liveCreated := by
        intro id live
        exact
          created id
            (((cohorts id).mp live).imp_right (attributed.liveCreated id))
      endedCreated := by
        intro id ended
        rw [endings] at ended
        exact created id (Or.inr (attributed.endedCreated id ended))
      endedNotLive := by
        intro id ended live
        rw [endings] at ended
        rcases (cohorts id).mp live with new | old
        · exact fresh id new (attributed.endedCreated id ended)
        · exact attributed.endedNotLive id ended old
      endedOnce := by
        rw [endings]
        exact attributed.endedOnce
      pendingOnce := by
        rw [pendingIds]
        exact attributed.pendingOnce
      pendingEnded := by
        rw [pending, endings, intents]
        exact attributed.pendingEnded
      canceledOk := by
        rw [canceledOk, endings]
        exact attributed.canceledOk
      filedOnce := by
        rw [filed]
        exact attributed.filedOnce
      filedSettled := by
        rw [filed, pendingIds]
        exact attributed.filedSettled
      filedEnding := by
        rw [filed, endings]
        exact attributed.filedEnding
      recorded := by
        rw [filed, endings, pendingIds]
        exact attributed.recorded
      retained := by
        intro id record held
        rw [filed]
        exact attributed.retained id record (terminal id record held) }

/-- The common case of `grow`: the live maps stay as they are. -/
theorem frame
    (attributed : Attributed run)
    (cohorts :
      ∀ id,
        id ∈ after.state.runner.cohorts ↔ id ∈ run.state.runner.cohorts)
    (pending : after.state.runner.pending = run.state.runner.pending)
    (advertised : after.state.advertised = run.state.advertised)
    (timers : after.state.windowTimers = run.state.windowTimers)
    (intents : after.state.intents = run.state.intents)
    (terminal :
      ∀ id record,
        after.state.terminal.lookup id = some record →
          run.state.terminal.lookup id = some record)
    (created : ∀ id ∈ run.created, id ∈ after.created)
    (endings : after.endings = run.endings)
    (canceledOk : after.canceledOk = run.canceledOk)
    (filed : after.filed = run.filed) :
    Attributed after := by
  refine
    attributed.grow [] (by simp) ?_ ?_ ?_ ?_ intents pending terminal endings
      canceledOk filed
  · simpa using cohorts
  · simp [advertised]
  · simp [timers]
  · simpa using created

theorem ended_of_filed
    (attributed : Attributed run) {id : CohortId}
    (filed : id ∈ run.filed.map Prod.fst) :
    id ∈ run.endings.map Prod.fst := by
  obtain ⟨⟨_, record⟩, member, rfl⟩ := List.mem_map.mp filed
  obtain ⟨ending, ended, -⟩ := attributed.filedEnding _ record member
  exact List.mem_map_of_mem ended

/-- An event that ends cohorts of the session while no settlement is pending. -/
theorem ends
    (attributed : Attributed run)
    (idle : run.state.runner.pending = [])
    (ended : List (CohortId × Ending))
    (once : (ended.map Prod.fst).Nodup)
    (live : ∀ id ∈ ended.map Prod.fst, id ∈ run.state.runner.cohorts)
    (cohorts :
      ∀ id,
        id ∈ after.state.runner.cohorts ↔
          id ∉ ended.map Prod.fst ∧ id ∈ run.state.runner.cohorts)
    (pendingIds : after.state.runner.pendingIds.Perm (ended.map Prod.fst))
    (pendingEnded :
      ∀ settlement ∈ after.state.runner.pending,
        ∃ ending,
          (settlement.cohortId, ending) ∈ ended ∧
            ending.leaves settlement.outcome
              (after.state.intents.lookup settlement.cohortId))
    (advertised : after.state.advertised = run.state.advertised)
    (timers :
      ∀ id ∈ after.state.windowTimers, id ∈ run.state.windowTimers)
    (intents : ∀ id ∈ after.state.intents, id ∈ ended.map Prod.fst)
    (terminal : after.state.terminal = run.state.terminal)
    (created : after.created = run.created)
    (endings : after.endings = ended ++ run.endings)
    (canceledOk :
      ∀ id,
        id ∈ after.canceledOk ↔
          (id, Ending.canceled) ∈ ended ∨ id ∈ run.canceledOk)
    (filed : after.filed = run.filed) :
    Attributed after := by
  have noneIds : run.state.runner.pendingIds = [] := by
    rw [Runner.pendingIds, idle]
    rfl
  have split (id : CohortId) (held : id ∈ run.state.runner.cohorts) :
      id ∈ after.state.runner.cohorts ∨ id ∈ after.state.runner.pendingIds := by
    by_cases gone : id ∈ ended.map Prod.fst
    · exact Or.inr (pendingIds.mem_iff.mpr gone)
    · exact Or.inl ((cohorts id).mpr ⟨gone, held⟩)
  exact
    { advertised := by
        intro id
        rw [advertised, attributed.advertised, noneIds]
        constructor
        · rintro (held | pending)
          · exact split id held
          · cases pending
        · rintro (held | pending)
          · exact Or.inl ((cohorts id).mp held).2
          · exact Or.inl (live id (pendingIds.mem_iff.mp pending))
      timers := by
        intro id armed
        rcases attributed.timers id (timers id armed) with held | pending
        · exact split id held
        · rw [noneIds] at pending
          cases pending
      intents := by
        intro id tagged
        exact pendingIds.mem_iff.mpr (intents id tagged)
      liveCreated := by
        intro id held
        rw [created]
        exact attributed.liveCreated id ((cohorts id).mp held).2
      endedCreated := by
        intro id member
        rw [endings, List.map_append, List.mem_append] at member
        rw [created]
        rcases member with new | old
        · exact attributed.liveCreated id (live id new)
        · exact attributed.endedCreated id old
      endedNotLive := by
        intro id member held
        rw [endings, List.map_append, List.mem_append] at member
        obtain ⟨stays, wasLive⟩ := (cohorts id).mp held
        rcases member with new | old
        · exact stays new
        · exact attributed.endedNotLive id old wasLive
      endedOnce := by
        rw [endings, List.map_append, List.nodup_append']
        refine ⟨once, attributed.endedOnce, ?_⟩
        intro id new old
        exact attributed.endedNotLive id old (live id new)
      pendingOnce := pendingIds.nodup_iff.mpr once
      pendingEnded := by
        intro settlement pending
        obtain ⟨ending, member, left⟩ := pendingEnded settlement pending
        refine ⟨ending, ?_, left⟩
        rw [endings]
        exact List.mem_append_left _ member
      canceledOk := by
        intro id
        rw [canceledOk, endings, List.mem_append, attributed.canceledOk]
      filedOnce := by
        rw [filed]
        exact attributed.filedOnce
      filedSettled := by
        intro id record pending
        rw [filed] at record
        exact
          attributed.endedNotLive id (attributed.ended_of_filed record)
            (live id (pendingIds.mem_iff.mp pending))
      filedEnding := by
        intro id record member
        rw [filed] at member
        obtain ⟨ending, old, described⟩ :=
          attributed.filedEnding id record member
        refine ⟨ending, ?_, described⟩
        rw [endings]
        exact List.mem_append_right _ old
      recorded := by
        intro id ending member notCompleted
        rw [endings, List.mem_append] at member
        rw [filed]
        rcases member with new | old
        · exact
            Or.inl (pendingIds.mem_iff.mpr (List.mem_map_of_mem new))
        · refine (attributed.recorded id ending old notCompleted).imp_left ?_
          intro pending
          rw [noneIds] at pending
          cases pending
      retained := by
        intro id record held
        rw [terminal] at held
        rw [filed]
        exact attributed.retained id record held }

/-- The same, for one cohort. -/
theorem endsOne
    (attributed : Attributed run)
    (idle : run.state.runner.pending = [])
    {cohortId : CohortId} (ending : Ending) (outcome : Except String Unit)
    (live : cohortId ∈ run.state.runner.cohorts)
    (cohorts :
      ∀ id,
        id ∈ after.state.runner.cohorts ↔
          id ≠ cohortId ∧ id ∈ run.state.runner.cohorts)
    (pending : after.state.runner.pending = [⟨cohortId, outcome⟩])
    (left : ending.leaves outcome (after.state.intents.lookup cohortId))
    (advertised : after.state.advertised = run.state.advertised)
    (timers :
      ∀ id ∈ after.state.windowTimers, id ∈ run.state.windowTimers)
    (intents : ∀ id ∈ after.state.intents, id = cohortId)
    (terminal : after.state.terminal = run.state.terminal)
    (created : after.created = run.created)
    (endings : after.endings = (cohortId, ending) :: run.endings)
    (canceledOk :
      ∀ id,
        id ∈ after.canceledOk ↔
          (id = cohortId ∧ ending = .canceled) ∨ id ∈ run.canceledOk)
    (filed : after.filed = run.filed) :
    Attributed after := by
  refine
    attributed.ends idle [(cohortId, ending)] ?_ ?_ ?_ ?_ ?_ advertised timers ?_
      terminal created endings ?_ filed
  · simp
  · simpa using live
  · simpa using cohorts
  · rw [Runner.pendingIds, pending]
    exact List.Perm.refl _
  · intro settlement waiting
    rw [pending, List.mem_singleton] at waiting
    subst waiting
    exact ⟨ending, List.mem_singleton.mpr rfl, left⟩
  · simpa using intents
  · intro id
    rw [canceledOk, List.mem_singleton, Prod.mk.injEq]
    simp only [eq_comm]

theorem ending_unique
    (attributed : Attributed run) {id : CohortId} {ending other : Ending}
    (first : (id, ending) ∈ run.endings) (second : (id, other) ∈ run.endings) :
    ending = other := by
  have same := List.inj_on_of_nodup_map attributed.endedOnce first second rfl
  exact congrArg Prod.snd same

theorem filedNow?_completed
    {settlement : Settlement} {intent : Option CohortIntent}
    (left : Ending.completed.leaves settlement.outcome intent) :
    run.filedNow? settlement = none := by
  obtain ⟨cohortId, outcome⟩ := settlement
  have succeeded : outcome = .ok () := left
  rw [succeeded]
  rfl

/-- A settlement that did not complete its cohort files a true record. -/
theorem exists_filedNow?
    {settlement : Settlement} {ending : Ending}
    (advertised : settlement.cohortId ∈ run.state.advertised)
    (left :
      ending.leaves settlement.outcome
        (run.state.intents.lookup settlement.cohortId))
    (notCompleted : ending ≠ .completed) :
    ∃ record,
      run.filedNow? settlement = some record ∧ ending.describes record := by
  obtain ⟨cohortId, outcome⟩ := settlement
  obtain ⟨config, found⟩ := InsertionMap.exists_lookup_of_mem advertised
  cases outcome with
  | ok done =>
      cases ending with
      | completed => exact absurd rfl notCompleted
      | failed message => cases left.1
      | canceled => obtain ⟨⟨_, rejected⟩, -⟩ := left; cases rejected
      | windowExpired => obtain ⟨⟨_, rejected⟩, -⟩ := left; cases rejected
  | error message =>
      have held : run.state.advertised.lookup cohortId = some config := found
      have described :=
        Ending.describes_terminalRecord left config
          (run.state.advertisedWindows.lookup cohortId)
      refine ⟨_, ?_, described⟩
      simp only [filedNow?, OperatorState.rejectionRecord?, held, Option.map_some]

/-- The terminal records after a settlement were there before, or are the one
it files. -/
theorem lookup_terminal_settled
    {health : LibraryHealth} {settlement : Settlement} {id : CohortId}
    {record : TerminalRecord}
    (held :
      (run.settled health settlement).state.terminal.lookup id = some record) :
    (id = settlement.cohortId ∧ run.filedNow? settlement = some record) ∨
      run.state.terminal.lookup id = some record := by
  cases files : run.filedNow? settlement with
  | none =>
      rw [terminal_settled_of_unfiled health files] at held
      exact Or.inr held
  | some filed =>
      rw [terminal_settled_of_files health files] at held
      have written := InsertionMap.lookup_of_lookup_evictPast held
      by_cases same : id = settlement.cohortId
      · subst same
        rw [InsertionMap.lookup_set_self] at written
        exact Or.inl ⟨rfl, written⟩
      · rw [InsertionMap.lookup_set_of_ne same] at written
        exact Or.inr written

/-- The callbacks of the oldest pending settlement run. -/
theorem settled
    (attributed : Attributed run) {settlement : Settlement}
    {rest : List Settlement}
    (pending : run.state.runner.pending = settlement :: rest)
    (health : LibraryHealth) :
    Attributed (run.settled health settlement) := by
  have ids :
      run.state.runner.pendingIds =
        settlement.cohortId :: rest.map Settlement.cohortId := by
    rw [Runner.pendingIds, pending]
    rfl
  have later :
      (run.settled health settlement).state.runner.pending = rest := by
    rw [pending_settled, pending]
    rfl
  have laterIds :
      (run.settled health settlement).state.runner.pendingIds =
        rest.map Settlement.cohortId := by
    rw [Runner.pendingIds, later]
  have once := attributed.pendingOnce
  rw [ids, List.nodup_cons] at once
  obtain ⟨ending, ended, left⟩ :=
    attributed.pendingEnded settlement (by rw [pending]; exact List.mem_cons_self)
  have dead : settlement.cohortId ∉ run.state.runner.cohorts :=
    attributed.endedNotLive _ (List.mem_map_of_mem ended)
  have advertised : settlement.cohortId ∈ run.state.advertised :=
    (attributed.advertised _).mpr (Or.inr (by rw [ids]; exact List.mem_cons_self))
  have unfiled : settlement.cohortId ∉ run.filed.map Prod.fst :=
    fun filed =>
      attributed.filedSettled _ filed (by rw [ids]; exact List.mem_cons_self)
  -- what is live or pending after the pop, in terms of before it
  have moves (id : CohortId) :
      (id ∈ run.state.runner.cohorts ∨ id ∈ rest.map Settlement.cohortId) ↔
        id ≠ settlement.cohortId ∧
          (id ∈ run.state.runner.cohorts ∨
            id ∈ run.state.runner.pendingIds) := by
    rw [ids, List.mem_cons]
    constructor
    · rintro (live | waiting)
      · exact ⟨ne_of_mem_of_not_mem live dead, Or.inl live⟩
      · exact ⟨ne_of_mem_of_not_mem waiting once.1, Or.inr (Or.inr waiting)⟩
    · rintro ⟨different, live | same | waiting⟩
      · exact Or.inl live
      · exact absurd same different
      · exact Or.inr waiting
  have filed :
      (run.settled health settlement).filed.map Prod.fst =
        (run.filedNow? settlement).toList.map (fun _ => settlement.cohortId) ++
          run.filed.map Prod.fst := by
    rw [OperatorRun.settled, List.map_append, List.map_map]
    rfl
  exact
    { advertised := by
        intro id
        rw [advertised_settled, cohorts_settled, laterIds, moves,
          ← attributed.advertised, AList.mem_erase]
      timers := by
        intro id armed
        rw [windowTimers_settled, AList.mem_erase] at armed
        rw [cohorts_settled, laterIds, moves]
        exact ⟨armed.1, attributed.timers id armed.2⟩
      intents := by
        intro id tagged
        rw [intents_settled, AList.mem_erase] at tagged
        have waiting := attributed.intents id tagged.2
        rw [ids, List.mem_cons] at waiting
        rw [laterIds]
        exact waiting.resolve_left tagged.1
      liveCreated := by
        rw [cohorts_settled]
        exact attributed.liveCreated
      endedCreated := attributed.endedCreated
      endedNotLive := by
        rw [cohorts_settled]
        exact attributed.endedNotLive
      endedOnce := attributed.endedOnce
      pendingOnce := by
        rw [laterIds]
        exact once.2
      pendingEnded := by
        intro other waiting
        rw [later] at waiting
        have different : other.cohortId ≠ settlement.cohortId :=
          ne_of_mem_of_not_mem (List.mem_map_of_mem waiting) once.1
        rw [intents_settled, AList.lookup_erase_ne different]
        exact
          attributed.pendingEnded other
            (by rw [pending]; exact List.mem_cons_of_mem _ waiting)
      canceledOk := attributed.canceledOk
      filedOnce := by
        rw [filed]
        cases run.filedNow? settlement with
        | none => exact attributed.filedOnce
        | some record => exact List.nodup_cons.mpr ⟨unfiled, attributed.filedOnce⟩
      filedSettled := by
        intro id record waiting
        rw [laterIds] at waiting
        rw [filed, List.mem_append] at record
        rcases record with now | old
        · obtain ⟨_, -, rfl⟩ := List.mem_map.mp now
          exact once.1 waiting
        · refine attributed.filedSettled id old ?_
          rw [ids]
          exact List.mem_cons_of_mem _ waiting
      filedEnding := by
        intro id record member
        rcases (mem_filed_settled health).mp member with ⟨rfl, now⟩ | old
        · refine ⟨ending, ended, ?_⟩
          have notCompleted : ending ≠ .completed := by
            rintro rfl
            rw [filedNow?_completed left] at now
            cases now
          obtain ⟨filed, equality, described⟩ :=
            exists_filedNow? advertised left notCompleted
          rw [equality] at now
          cases now
          exact described
        · exact attributed.filedEnding id record old
      recorded := by
        intro id other member notCompleted
        rw [laterIds]
        by_cases same : id = settlement.cohortId
        · subst same
          have cause : other = ending := attributed.ending_unique member ended
          rw [cause] at notCompleted
          obtain ⟨record, now, -⟩ :=
            exists_filedNow? advertised left notCompleted
          exact
            Or.inr
              (List.mem_map_of_mem
                ((mem_filed_settled health).mpr (Or.inl ⟨rfl, now⟩)))
        · rcases attributed.recorded id other member notCompleted with
            waiting | old
          · rw [ids, List.mem_cons] at waiting
            exact Or.inl (waiting.resolve_left same)
          · rw [filed]
            exact Or.inr (List.mem_append_right _ old)
      retained := by
        intro id record held
        rw [mem_filed_settled]
        exact
          (lookup_terminal_settled held).imp_right
            (attributed.retained id record) }

end Attributed

end Invariant

section Steps

/-! ## One event at a time -/

namespace Attributed

open OperatorRun

variable {options : OperatorOptions} {run : OperatorRun}

theorem live_of_advertised
    (attributed : Attributed run) (idle : run.state.runner.pending = [])
    {id : CohortId} (advertised : id ∈ run.state.advertised) :
    id ∈ run.state.runner.cohorts := by
  rcases (attributed.advertised id).mp advertised with live | waiting
  · exact live
  · rw [Runner.pendingIds, idle] at waiting
    cases waiting

theorem live_of_timer
    (attributed : Attributed run) (idle : run.state.runner.pending = [])
    {id : CohortId} (armed : id ∈ run.state.windowTimers) :
    id ∈ run.state.runner.cohorts := by
  rcases attributed.timers id armed with live | waiting
  · exact live
  · rw [Runner.pendingIds, idle] at waiting
    cases waiting

theorem untagged
    (attributed : Attributed run) (idle : run.state.runner.pending = [])
    (id : CohortId) :
    id ∉ run.state.intents := by
  intro tagged
  have waiting := attributed.intents id tagged
  rw [Runner.pendingIds, idle] at waiting
  cases waiting

/-- While nothing is pending, a declared intent is the only one. -/
theorem declared
    (attributed : Attributed run) (idle : run.state.runner.pending = [])
    (cohortId : CohortId) (intent : CohortIntent) :
    (∀ id ∈ run.state.intents.remember maxIntents cohortId intent,
        id = cohortId) ∧
      (run.state.intents.remember maxIntents cohortId intent).lookup cohortId =
        some intent := by
  refine ⟨?_, InsertionMap.lookup_remember_self (by decide) _ _ _⟩
  intro id tagged
  have written := InsertionMap.mem_of_mem_evictPast tagged
  rw [AList.mem_insert] at written
  exact written.resolve_right (attributed.untagged idle id)

/-- Both advertise paths: a fresh cohort is launched. -/
theorem launched
    (attributed : Attributed run) {after : OperatorRun} {cohortId : CohortId}
    (fresh : cohortId ∉ run.created) {state : OperatorState}
    {config : CohortConfig} {windows : DraftWindows}
    (launches : after.state = launch options state cohortId config windows)
    (runner : state.runner = run.state.runner)
    (advertised : state.advertised = run.state.advertised)
    (timers : state.windowTimers = run.state.windowTimers)
    (intents : state.intents = run.state.intents)
    (terminal :
      ∀ id record,
        state.terminal.lookup id = some record →
          run.state.terminal.lookup id = some record)
    (created : after.created = cohortId :: run.created)
    (endings : after.endings = run.endings)
    (canceledOk : after.canceledOk = run.canceledOk)
    (filed : after.filed = run.filed) :
    Attributed after := by
  obtain ⟨windowTimers, armed, equality⟩ :=
    launch_eq options state cohortId config windows
  rw [equality] at launches
  refine
    attributed.grow [cohortId] ?_ ?_ ?_ ?_ ?_ ?_ ?_ ?_ endings canceledOk filed
  · simpa using fresh
  · simp [launches, runner]
  · simp [launches, advertised]
  · intro id member
    rw [launches] at member
    rw [List.mem_singleton, ← timers]
    exact armed id member
  · simp [created]
  · rw [launches]
    exact intents
  · rw [launches]
    change state.runner.pending = run.state.runner.pending
    rw [runner]
  · intro id record held
    rw [launches] at held
    exact terminal id record held

theorem advertiseDraft
    (attributed : Attributed run) (draftId : CohortId)
    {minted : Option CohortId} (fresh : ∀ id ∈ minted, id ∉ run.created) :
    Attributed (run.step options (.advertiseDraft draftId minted)) := by
  rcases step_advertiseDraft_cases options run draftId minted with
    equality | ⟨entry, cohortId, -, -, rfl, equality⟩
  · rw [equality]
    exact attributed
  · rw [equality]
    exact
      attributed.launched (fresh cohortId rfl) rfl rfl rfl rfl rfl
        (fun _ _ held => held) rfl rfl rfl rfl

theorem readvertiseExpired
    (attributed : Attributed run) (expired : CohortId)
    {minted : Option CohortId} (fresh : ∀ id ∈ minted, id ∉ run.created) :
    Attributed (run.step options (.readvertiseExpired expired minted)) := by
  rcases step_readvertiseExpired_cases options run expired minted with
    equality | ⟨record, cohortId, -, -, rfl, equality⟩
  · rw [equality]
    exact attributed
  · rw [equality]
    exact
      attributed.launched (fresh cohortId rfl) rfl rfl rfl rfl rfl
        (fun _ _ => InsertionMap.lookup_of_lookup_erase) rfl rfl rfl rfl

theorem forgetTerminal
    (attributed : Attributed run) (cohortId : CohortId)
    (health : LibraryHealth) :
    Attributed (run.step options (.forgetTerminal cohortId health)) := by
  rcases step_forgetTerminal_cases options run cohortId health with
    equality | ⟨record, -, equality⟩
  · rw [equality]
    exact attributed
  · rw [equality]
    exact
      attributed.frame (fun _ => Iff.rfl) rfl rfl rfl rfl
        (fun _ _ => InsertionMap.lookup_of_lookup_erase)
        (fun _ member => member) rfl rfl rfl

/-- A cancel of an advertised cohort ends it at once, and answers `ok`. -/
theorem cancelCohort
    (attributed : Attributed run) (idle : run.state.runner.pending = [])
    (cohortId : CohortId) {health : LibraryHealth}
    (stops : health.stops = true) (reads : health.phaseReads = true) :
    Attributed (run.step options (.cancelCohort cohortId health)) := by
  by_cases advertised : cohortId ∈ run.state.advertised
  · have live := attributed.live_of_advertised idle advertised
    obtain ⟨only, tag⟩ := attributed.declared idle cohortId .canceled
    refine
      attributed.endsOne idle .canceled
        (.error (Runner.stoppedReason cohortId)) live ?_ ?_ ?_ ?_ ?_ ?_ ?_ rfl
        ?_ ?_ rfl
    · simp [step, Btcr2Aggregation.cancelCohort, advertised, stops,
        OperatorState.declareIntent, OperatorState.clearWindowTimer,
        Runner.stopCohort]
    · simp [step, Btcr2Aggregation.cancelCohort, advertised, stops,
        OperatorState.declareIntent, OperatorState.clearWindowTimer,
        Runner.stopCohort, Runner.pending_settle_of_mem live, idle]
    · refine ⟨⟨_, rfl⟩, ?_⟩
      simpa [step, Btcr2Aggregation.cancelCohort, advertised, stops,
        OperatorState.declareIntent, OperatorState.clearWindowTimer] using tag
    · simp [step, Btcr2Aggregation.cancelCohort, advertised, stops,
        OperatorState.declareIntent, OperatorState.clearWindowTimer]
    · simp [step, Btcr2Aggregation.cancelCohort, advertised, stops,
        OperatorState.declareIntent, OperatorState.clearWindowTimer]
    · simpa [step, Btcr2Aggregation.cancelCohort, advertised, stops,
        OperatorState.declareIntent, OperatorState.clearWindowTimer] using only
    · simp [step, Btcr2Aggregation.cancelCohort, advertised, stops,
        OperatorState.declareIntent, OperatorState.clearWindowTimer]
    · simp [step, advertised, stops, endingNow, live]
    · simp [step, Btcr2Aggregation.cancelCohort, advertised, stops, reads,
        OperatorState.repairThrows]
  · simp only [step, Btcr2Aggregation.cancelCohort, advertised, false_and,
      if_false]
    exact attributed

/-- An armed timer that fires ends its cohort. -/
theorem windowTimer
    (attributed : Attributed run) (idle : run.state.runner.pending = [])
    {cohortId : CohortId} (armed : cohortId ∈ run.state.windowTimers)
    {health : LibraryHealth} (stops : health.stops = true) :
    Attributed (run.step options (.windowTimer cohortId health)) := by
  have live := attributed.live_of_timer idle armed
  obtain ⟨only, tag⟩ := attributed.declared idle cohortId .windowExpired
  refine
    attributed.endsOne idle .windowExpired
      (.error (Runner.stoppedReason cohortId)) live ?_ ?_ ?_ ?_ ?_ ?_ ?_ rfl
      ?_ ?_ rfl
  · simp [step, windowTimerFires, stops, OperatorState.declareIntent,
      OperatorState.clearWindowTimer, Runner.stopCohort]
  · simp [step, windowTimerFires, stops, OperatorState.declareIntent,
      OperatorState.clearWindowTimer, Runner.stopCohort,
      Runner.pending_settle_of_mem live, idle]
  · refine ⟨⟨_, rfl⟩, ?_⟩
    simpa [step, windowTimerFires, stops, OperatorState.declareIntent,
      OperatorState.clearWindowTimer] using tag
  · simp [step, windowTimerFires, stops, OperatorState.declareIntent,
      OperatorState.clearWindowTimer]
  · simp [step, windowTimerFires, stops, OperatorState.declareIntent,
      OperatorState.clearWindowTimer]
  · simpa [step, windowTimerFires, stops, OperatorState.declareIntent,
      OperatorState.clearWindowTimer] using only
  · simp [step, windowTimerFires, stops, OperatorState.declareIntent,
      OperatorState.clearWindowTimer]
  · simp [step, stops, endingNow, live]
  · simp [step]

/-- The library ends a cohort by itself. -/
theorem librarySettles
    (attributed : Attributed run) (idle : run.state.runner.pending = [])
    {cohortId : CohortId} (live : cohortId ∈ run.state.runner.cohorts)
    {ending : Ending} {outcome : Except String Unit}
    (left : ending.leaves outcome none) (notCanceled : ending ≠ .canceled) :
    Attributed
      { run with
        state :=
          { run.state with
            runner := run.state.runner.settle cohortId outcome }
        endings := run.endingNow cohortId ending } := by
  have untagged : run.state.intents.lookup cohortId = none :=
    AList.lookup_eq_none.mpr (attributed.untagged idle cohortId)
  refine
    attributed.endsOne idle ending outcome live
      (fun _ => Runner.mem_cohorts_settle) ?_ ?_ rfl (fun _ armed => armed) ?_ rfl
      rfl ?_ ?_ rfl
  · simp [Runner.pending_settle_of_mem live, idle]
  · rw [untagged]
    exact left
  · intro id tagged
    exact absurd tagged (attributed.untagged idle id)
  · exact if_pos live
  · simp [notCanceled]

/-- A service stop ends every cohort of the session with its own message. -/
theorem stopService
    (attributed : Attributed run) (idle : run.state.runner.pending = [])
    (message : String) :
    Attributed (run.step options (.stopService message)) := by
  have pending :
      (run.state.runner.stop message).pending =
        run.state.runner.cohorts.keys.reverse.map fun cohortId =>
          ⟨cohortId, .error message⟩ := by
    rw [Runner.pending_stop, idle]
    rfl
  have ids :
      (run.state.runner.cohorts.keys.map fun id =>
          (id, Ending.failed message)).map Prod.fst =
        run.state.runner.cohorts.keys := by
    rw [List.map_map]
    exact List.map_id _
  refine
    attributed.ends idle
      (run.state.runner.cohorts.keys.map fun id => (id, Ending.failed message))
      ?_ ?_ ?_ ?_ ?_ rfl ?_ ?_ rfl rfl rfl ?_ rfl
  · rw [ids]
    exact AList.keys_nodup _
  · intro id member
    rw [ids] at member
    exact member
  · intro id
    rw [ids]
    constructor
    · intro member
      exact absurd member (Runner.notMem_cohorts_stop _ message id)
    · rintro ⟨gone, held⟩
      exact absurd held gone
  · rw [ids, Runner.pendingIds]
    simp only [step, Btcr2Aggregation.stopService]
    rw [pending, List.map_map]
    have firsts :
        run.state.runner.cohorts.keys.reverse.map
            (Settlement.cohortId ∘ fun cohortId => ⟨cohortId, .error message⟩) =
          run.state.runner.cohorts.keys.reverse :=
      List.map_id _
    rw [firsts]
    exact List.reverse_perm _
  · intro settlement waiting
    simp only [step, Btcr2Aggregation.stopService] at waiting ⊢
    rw [pending] at waiting
    obtain ⟨id, member, rfl⟩ := List.mem_map.mp waiting
    refine
      ⟨.failed message, List.mem_map_of_mem (List.mem_reverse.mp member), rfl, ?_⟩
    exact AList.lookup_eq_none.mpr (attributed.untagged idle id)
  · intro id armed
    cases armed
  · intro id tagged
    exact absurd tagged (attributed.untagged idle id)
  · intro id
    simp [step]

/-- Every event of a prompt run keeps the attribution. -/
theorem step
    (attributed : Attributed run) {event : OperatorEvent}
    (possible : offered run event) (prompt : settlesPromptly run event) :
    Attributed (run.step options event) := by
  have idle (request : event.isMicrotask = false) :
      run.state.runner.pending = [] := by
    have queue := prompt.1
    rw [request] at queue
    simpa using queue
  cases event with
  | createDraft draftId input =>
      simp only [OperatorRun.step, createDraft]
      split
      · next answer =>
          split at answer
          · cases answer
          · exact
              attributed.frame (fun _ => Iff.rfl) rfl rfl rfl rfl
                (fun _ _ held => held) (fun _ => List.mem_cons_of_mem _) rfl rfl
                rfl
      · next answer =>
          split at answer
          · exact attributed
          · cases answer
  | updateDraft draftId input =>
      simp only [OperatorRun.step, updateDraft]
      split
      · split
        · exact attributed
        · exact
            attributed.frame (fun _ => Iff.rfl) rfl rfl rfl rfl
              (fun _ _ held => held) (fun _ member => member) rfl rfl rfl
      · exact attributed
  | advertiseDraft draftId minted =>
      exact attributed.advertiseDraft draftId possible.1
  | discardDraft draftId =>
      exact
        attributed.frame (fun _ => Iff.rfl) rfl rfl rfl rfl
          (fun _ _ held => held) (fun _ member => member) rfl rfl rfl
  | cancelCohort cohortId health =>
      exact attributed.cancelCohort (idle rfl) cohortId prompt.2.1 prompt.2.2
  | readvertiseExpired cohortId minted =>
      exact attributed.readvertiseExpired cohortId possible.1
  | forgetTerminal cohortId health =>
      exact attributed.forgetTerminal cohortId health
  | applySettings patch =>
      simp only [OperatorRun.step]
      split
      · exact
          attributed.frame (fun _ => Iff.rfl) rfl rfl rfl rfl
            (fun _ _ held => held) (fun _ member => member) rfl rfl rfl
      · exact attributed
  | pause =>
      exact
        attributed.frame (fun _ => Iff.rfl) rfl rfl rfl rfl
          (fun _ _ held => held) (fun _ member => member) rfl rfl rfl
  | resume =>
      exact
        attributed.frame (fun _ => Iff.rfl) rfl rfl rfl rfl
          (fun _ _ held => held) (fun _ member => member) rfl rfl rfl
  | windowTimer cohortId health =>
      exact
        attributed.windowTimer (idle rfl) (possible.2.1 cohortId rfl) prompt.2.1
  | seat cohortId =>
      exact
        attributed.frame (fun _ => InsertionMap.mem_modify) rfl rfl rfl rfl
          (fun _ _ held => held) (fun _ member => member) rfl rfl rfl
  | fill cohortId =>
      exact
        attributed.frame (fun _ => InsertionMap.mem_modify) rfl rfl rfl rfl
          (fun _ _ held => held) (fun _ member => member) rfl rfl rfl
  | advance cohortId phase =>
      exact
        attributed.frame (fun _ => InsertionMap.mem_modify) rfl rfl rfl rfl
          (fun _ _ held => held) (fun _ member => member) rfl rfl rfl
  | completion cohortId =>
      exact
        attributed.librarySettles (idle rfl) (possible.2.2 cohortId rfl) rfl
          Ending.noConfusion
  | failure cohortId message =>
      exact
        attributed.librarySettles (idle rfl) (possible.2.2 cohortId rfl)
          ⟨rfl, rfl⟩ Ending.noConfusion
  | stopService message => exact attributed.stopService (idle rfl) message
  | microtask health =>
      simp only [OperatorRun.step]
      split
      · exact attributed
      · next settlement rest pending => exact attributed.settled pending health

end Attributed

end Steps

section Law

/-! ## The records in every state of a prompt run -/

/-- What the terminal records say in a state of a run. -/
structure TrueFates (run : OperatorRun) : Prop where
  /-- A retained record is canceled exactly where a cancel was answered `ok`. -/
  canceledIff :
    ∀ id record,
      run.state.terminal.lookup id = some record →
        (record.fate = .canceled ↔ id ∈ run.canceledOk)
  /-- A retained record is true to how its cohort ended. -/
  describes :
    ∀ id record,
      run.state.terminal.lookup id = some record →
        ∃ ending, (id, ending) ∈ run.endings ∧ ending.describes record
  /-- No cohort ends twice. -/
  endsOnce : (run.endings.map Prod.fst).Nodup
  /-- A timer is armed for a live cohort only. -/
  timersLive :
    run.state.runner.pending = [] →
      ∀ id ∈ run.state.windowTimers, id ∈ run.state.runner.cohorts

theorem Attributed.trueFates
    {run : OperatorRun} (attributed : Attributed run) : TrueFates run where
  canceledIff id record held := by
    obtain ⟨ending, ended, described⟩ :=
      attributed.filedEnding id record (attributed.retained id record held)
    rw [Ending.canceled_of_describes described, attributed.canceledOk]
    constructor
    · rintro rfl
      exact ended
    · intro canceled
      exact attributed.ending_unique ended canceled
  describes id record held :=
    attributed.filedEnding id record (attributed.retained id record held)
  endsOnce := attributed.endedOnce
  timersLive idle _ armed := attributed.live_of_timer idle armed

theorem always_attributed
    (options : OperatorOptions) (settings : RuntimeSettings) :
    (promptMachine options settings).Always Attributed := by
  refine Machine.Always.of_inductive (Attributed.booted settings) ?_
  intro run event attributed possible
  exact attributed.step possible.1 possible.2

end Law

end Btcr2Aggregation
