import Btcr2Aggregation.Service.TwinRuns

/-!
# A dismissal does not retract a cancel

The two bounds on the canceled fates evict in different orders, so a dismissal
can retract a cancel.  It retracts none exactly as long as each bound drops a
cancel only once the run without dismissals has dropped its record as well.
-/

namespace Btcr2Aggregation

open InsertionMap

section Law

/-! ## The law -/

/-- Where the run without dismissals reads a cancel, the run with them does. -/
def CancelsKept (twin : TwinRun) : Prop :=
  ∀ id,
    cohortFate twin.undismissed.state id = true →
      cohortFate twin.dismissing.state id = true

/-- A dismissal pushes out of the carry only cancels whose record the run
without dismissals has dropped as well. -/
def CarryOutlasts (twin : TwinRun) (cohortId : CohortId) : Prop :=
  ∀ id ∈ pushedOut twin.dismissing.state cohortId,
    id ∉ twin.undismissed.state.terminal

/-- The microtasks due push out of the records only cancels that they push out
of the records of the run without dismissals as well. -/
def RecordsOutlast (twin : TwinRun) : Prop :=
  ∀ id ∈ twin.dismissing.records.drop maxTerminal,
    id ∈ twin.dismissing.canceledOk →
      id ∉ twin.undismissed.records.take maxTerminal

/-- They file the cancel of no cohort that the run without dismissals alone was
granted. -/
def CancelsShared (twin : TwinRun) : Prop :=
  ∀ id ∈ twin.undismissed.due.take maxTerminal,
    id ∈ twin.undismissed.canceledOk → id ∈ twin.dismissing.created

/-- What an event may drop. -/
def Outlasts (twin : TwinRun) : OperatorEvent → Prop
  | .forgetTerminal cohortId _ => CarryOutlasts twin cohortId
  | .microtask _ => RecordsOutlast twin ∧ CancelsShared twin
  | _ => True

namespace Outlasts

instance (twin : TwinRun) (cohortId : CohortId) :
    Decidable (CarryOutlasts twin cohortId) :=
  inferInstanceAs (Decidable (∀ _ ∈ _, _))

instance (twin : TwinRun) : Decidable (RecordsOutlast twin) :=
  inferInstanceAs (Decidable (∀ _ ∈ _, _))

instance (twin : TwinRun) : Decidable (CancelsShared twin) :=
  inferInstanceAs (Decidable (∀ _ ∈ _, _))

instance (twin : TwinRun) (event : OperatorEvent) :
    Decidable (Outlasts twin event) := by
  unfold Outlasts
  split
  · exact inferInstance
  · exact inferInstance
  · exact isTrue trivial

end Outlasts

end Law

section Alike

/-! ## The halves of every twin run -/

/-- Both halves remember their cancels, and fare alike on the cohorts they
share. -/
structure Alike (twin : TwinRun) : Prop where
  left : Remembers twin.dismissing
  right : Remembers twin.undismissed
  matching : Matching twin.dismissing twin.undismissed
  uncarried : twin.undismissed.state.dismissedCanceled = ∅

namespace TwinRun

variable {options : OperatorOptions} {twin : TwinRun} {event : OperatorEvent}

theorem undismissed_step (keeps : event.forgets = false) :
    (twin.step options event).undismissed =
      twin.undismissed.takes options event := by
  refine if_neg ?_
  rw [keeps]
  exact Bool.false_ne_true

theorem dismissing_step (asked : event.isMicrotask = false) :
    (twin.step options event).dismissing =
      twin.dismissing.step options event :=
  OperatorRun.takes_of_asked asked

/-- Each half has the turn it takes. -/
theorem leads
    (possible : twin.Offered event) (keeps : event.forgets = false) :
    Leads options twin.dismissing (twin.step options event).dismissing ∧
      Leads options twin.undismissed (twin.step options event).undismissed := by
  obtain ⟨offeredLeft, offeredRight, turn, sound⟩ := possible
  have idle := idle_of_asked turn
  rw [undismissed_step keeps]
  refine ⟨?_, ?_⟩
  · exact leads_takes offeredLeft keeps sound fun asked => (idle asked).1
  · exact
      leads_takes (offeredRight keeps) keeps sound fun asked => (idle asked).2

end TwinRun

namespace Alike

variable {options : OperatorOptions} {twin : TwinRun} {event : OperatorEvent}

theorem booted (settings : RuntimeSettings) :
    Alike (TwinRun.booted settings) where
  left := Remembers.booted settings
  right := Remembers.booted settings
  matching := Matching.refl _
  uncarried := rfl

/-- A request other than a dismissal, a timer or a library event. -/
theorem matching_asked
    (alike : Alike twin) (possible : twin.Offered event)
    (asked : event.isMicrotask = false) (keeps : event.forgets = false) :
    Matching (twin.dismissing.step options event)
      (twin.undismissed.step options event) := by
  obtain ⟨offeredLeft, elsewhere, turn, sound⟩ := possible
  obtain ⟨idleLeft, idleRight⟩ := TwinRun.idle_of_asked turn asked
  have offeredRight := elsewhere keeps
  have localLeft :
      Local event twin.dismissing (twin.dismissing.step options event) :=
    local_step alike.left.attributed idleLeft offeredLeft asked sound
  have localRight :
      Local event twin.undismissed (twin.undismissed.step options event) :=
    local_step alike.right.attributed idleRight offeredRight asked sound
  obtain ⟨settings, drafts⟩ :=
    OperatorRun.desk_congr alike.matching.settings alike.matching.drafts options
      event
  exact
    alike.matching.asked alike.left.attributed alike.right.attributed
      offeredLeft.1 offeredRight.1 localLeft localRight settings drafts

/-- A dismissal. -/
theorem matching_forgets
    (alike : Alike twin) (possible : twin.Offered event)
    (forgets : event.forgets = true) :
    Matching (twin.dismissing.step options event) twin.undismissed := by
  obtain ⟨offeredLeft, -, turn, sound⟩ := possible
  cases event with
  | forgetTerminal cohortId health =>
      obtain ⟨idle, -⟩ := TwinRun.idle_of_asked turn rfl
      have localLeft :
          Local (.forgetTerminal cohortId health) twin.dismissing
            (twin.dismissing.step options (.forgetTerminal cohortId health)) :=
        local_step alike.left.attributed idle offeredLeft rfl sound
      have localRight :
          Local (.forgetTerminal cohortId health) twin.undismissed
            twin.undismissed :=
        .elsewhere (fun _ => ⟨rfl, rfl⟩) rfl rfl rfl
      have desk :
          (twin.dismissing.step options
                (.forgetTerminal cohortId health)).state.settings =
              twin.dismissing.state.settings ∧
            (twin.dismissing.step options
                (.forgetTerminal cohortId health)).state.drafts =
              twin.dismissing.state.drafts :=
        OperatorRun.desk_step options twin.dismissing rfl
      have fresh :
          ∀ id ∈ (OperatorEvent.forgetTerminal cohortId health).minted?,
            id ∉ twin.undismissed.created :=
        nofun
      exact
        alike.matching.asked alike.left.attributed alike.right.attributed
          offeredLeft.1 fresh localLeft localRight
          (desk.1.trans alike.matching.settings)
          (desk.2.trans alike.matching.drafts)
  | _ => cases forgets

/-- The microtasks of both halves. -/
theorem drains
    (alike : Alike twin) {health : LibraryHealth}
    (possible : twin.Offered (.microtask health)) :
    Drains twin.dismissing
        (twin.step options (.microtask health)).dismissing ∧
      Drains twin.undismissed
        (twin.step options (.microtask health)).undismissed := by
  have sound := possible.2.2.2
  rw [TwinRun.undismissed_step rfl]
  exact
    ⟨drains_drain sound _ twin.dismissing alike.left rfl,
      drains_drain sound _ twin.undismissed alike.right rfl⟩

theorem step
    (alike : Alike twin) (possible : twin.Offered event) :
    Alike (twin.step options event) := by
  by_cases forgets : event.forgets = true
  · have asked : event.isMicrotask = false := by
      cases event with
      | forgetTerminal cohortId health => rfl
      | _ => cases forgets
    have same : (twin.step options event).undismissed = twin.undismissed :=
      if_pos forgets
    have prompt : settlesPromptly twin.dismissing event := by
      refine ⟨?_, possible.2.2.2⟩
      rw [asked, (TwinRun.idle_of_asked possible.2.2.1 asked).1]
      rfl
    have left : Remembers (twin.dismissing.step options event) :=
      alike.left.step possible.1 prompt
    have matching :
        Matching (twin.dismissing.step options event) twin.undismissed :=
      alike.matching_forgets possible forgets
    rw [← TwinRun.dismissing_step asked] at left matching
    rw [← same] at matching
    exact
      { left := left
        right := by
          rw [same]
          exact alike.right
        matching := matching
        uncarried := by
          rw [same]
          exact alike.uncarried }
  · have keeps : event.forgets = false := by simpa using forgets
    obtain ⟨leadsLeft, leadsRight⟩ :
        Leads options twin.dismissing (twin.step options event).dismissing ∧
          Leads options twin.undismissed
            (twin.step options event).undismissed :=
      TwinRun.leads possible keeps
    refine
      { left := leadsLeft.remembers alike.left
        right := leadsRight.remembers alike.right
        matching := ?_
        uncarried := leadsRight.dismissedCanceled.trans alike.uncarried }
    by_cases asked : event.isMicrotask = false
    · rw [TwinRun.undismissed_step keeps, TwinRun.dismissing_step asked,
        OperatorRun.takes_of_asked asked]
      exact alike.matching_asked possible asked keeps
    · cases event with
      | microtask health =>
          obtain ⟨drainsLeft, drainsRight⟩ :
              Drains twin.dismissing
                  (twin.step options (.microtask health)).dismissing ∧
                Drains twin.undismissed
                  (twin.step options (.microtask health)).undismissed :=
            alike.drains possible
          exact alike.matching.drained drainsLeft drainsRight
      | _ => exact absurd rfl asked

end Alike

theorem always_alike
    (options : OperatorOptions) (settings : RuntimeSettings) :
    (twinMachine options settings).Always Alike := by
  refine Machine.Always.of_inductive (Alike.booted settings) ?_
  intro twin event alike possible
  exact alike.step possible

end Alike


section Records

/-! ## The records and those about to be filed -/

namespace Attributed

variable {run : OperatorRun}

theorem created_of_pending
    (attributed : Attributed run) {id : CohortId}
    (waiting : id ∈ run.state.runner.pendingIds) : id ∈ run.created := by
  by_contra unknown
  exact (attributed.unknown unknown).2.1 waiting

theorem pending_of_due {id : CohortId} (due : id ∈ run.due) :
    id ∈ run.state.runner.pendingIds := by
  obtain ⟨settlement, member, rfl⟩ :=
    List.mem_map.mp (List.mem_reverse.mp due)
  exact List.mem_map_of_mem (List.mem_of_mem_filter member)

/-- The settlement of a canceled cohort files a record. -/
theorem due_of_canceled
    (attributed : Attributed run) {id : CohortId}
    (waiting : id ∈ run.state.runner.pendingIds)
    (canceled : id ∈ run.canceledOk) :
    id ∈ run.due := by
  obtain ⟨settlement, member, rfl⟩ := List.mem_map.mp waiting
  obtain ⟨ending, ended, left⟩ := attributed.pendingEnded settlement member
  have same : ending = .canceled :=
    attributed.ending_unique ended ((attributed.canceledOk _).mp canceled)
  rw [same] at left
  obtain ⟨⟨message, outcome⟩, -⟩ := left
  refine List.mem_reverse.mpr (List.mem_map_of_mem ?_)
  refine List.mem_filter.mpr ⟨member, ?_⟩
  rw [Settlement.files, outcome]

theorem created_of_records
    (attributed : Attributed run) {id : CohortId}
    (recorded : id ∈ run.records) : id ∈ run.created := by
  rcases List.mem_append.mp recorded with due | old
  · exact attributed.created_of_pending (pending_of_due due)
  · exact attributed.created_of_terminal (AList.mem_keys.mpr old)

theorem nodup_records (attributed : Attributed run) : run.records.Nodup := by
  have ids :
      ((run.state.runner.pending.filter Settlement.files).map
        Settlement.cohortId).Nodup :=
    attributed.pendingOnce.sublist
      (List.Sublist.map _ List.filter_sublist)
  refine List.nodup_append'.mpr ⟨List.nodup_reverse.mpr ids, ?_, ?_⟩
  · exact AList.keys_nodup run.state.terminal
  · intro id due held
    have settled := attributed.notPending_of_terminal (AList.mem_keys.mpr held)
    exact settled (pending_of_due due)

end Attributed

end Records

section Exact

/-! ## Each event against the law -/

namespace Alike

variable {options : OperatorOptions} {twin : TwinRun} {event : OperatorEvent}

/-- An accepted cancel of a cohort both halves have is one of both. -/
theorem canceled_left
    (alike : Alike twin) {id : CohortId} (known : id ∈ twin.dismissing.created)
    (canceled : id ∈ twin.undismissed.canceledOk) :
    id ∈ twin.dismissing.canceledOk := by
  have created : id ∈ twin.undismissed.created := by
    by_contra unknown
    exact (alike.right.attributed.unknown unknown).2.2 canceled
  exact (alike.matching.canceled id known created).mpr canceled

/-- The law says where the cancels are that the undismissed half retains. -/
theorem cancelsKept_iff (alike : Alike twin) :
    CancelsKept twin ↔
      ∀ id ∈ twin.undismissed.state.terminal,
        id ∈ twin.undismissed.canceledOk →
          id ∈ twin.dismissing.state.terminal ∨
            id ∈ twin.dismissing.state.dismissedCanceled := by
  constructor
  · intro kept id held canceled
    have retained := alike.right.cohortFate_iff.mpr (Or.inl ⟨canceled, held⟩)
    have fate := kept id retained
    exact (alike.left.cohortFate_iff.mp fate).imp_left And.right
  · intro remembered id fate
    rw [alike.left.cohortFate_iff]
    rcases alike.right.cohortFate_iff.mp fate with ⟨canceled, held⟩ | carried
    · refine (remembered id held canceled).imp_left fun own => ⟨?_, own⟩
      have known := alike.left.attributed.created_of_terminal own
      exact alike.canceled_left known canceled
    · rw [alike.uncarried] at carried
      cases carried

/-- A request other than a dismissal, a timer or a library event retracts
nothing. -/
theorem cancelsKept_asked
    (alike : Alike twin) (possible : twin.Offered event)
    (asked : event.isMicrotask = false) (keeps : event.forgets = false)
    (kept : CancelsKept twin) :
    CancelsKept (twin.step options event) := by
  have after : Alike (twin.step options event) := alike.step possible
  obtain ⟨leadsLeft, -⟩ :
      Leads options twin.dismissing (twin.step options event).dismissing ∧
        Leads options twin.undismissed (twin.step options event).undismissed :=
    TwinRun.leads possible keeps
  refine after.cancelsKept_iff.mpr ?_
  rw [leadsLeft.dismissedCanceled, TwinRun.undismissed_step keeps,
    TwinRun.dismissing_step asked, OperatorRun.takes_of_asked asked]
  intro id held canceled
  obtain ⟨before, stays⟩ := (mem_terminal_asked asked keeps).mp held
  -- a recorded cohort has ended, so this event did not cancel it
  have accepted : id ∈ twin.undismissed.canceledOk := by
    have offeredRight := possible.2.1 keeps
    have idle := (TwinRun.idle_of_asked possible.2.2.1 asked).2
    have localRight :
        Local event twin.undismissed (twin.undismissed.step options event) :=
      local_step alike.right.attributed idle offeredRight asked
        possible.2.2.2
    rcases (localRight.canceled id).mp canceled with old | ⟨live, -⟩
    · exact old
    · have ended := alike.right.attributed.ended_of_terminal before
      exact absurd live (alike.right.attributed.endedNotLive id ended)
  rcases alike.cancelsKept_iff.mp kept id before accepted with own | carried
  · refine Or.inl ((mem_terminal_asked asked keeps).mpr ⟨own, ?_⟩)
    rw [alike.matching.settings]
    exact stays
  · exact Or.inr carried

/-- A dismissal clears the record of a cohort, if there is one. -/
theorem step_forgets
    (alike : Alike twin) (options : OperatorOptions) {cohortId : CohortId} {health : LibraryHealth}
    (possible : twin.Offered (.forgetTerminal cohortId health)) :
    twin.dismissing.state.terminal.lookup cohortId = none ∧
        twin.step options (.forgetTerminal cohortId health) = twin ∨
      ∃ record,
        twin.dismissing.state.terminal.lookup cohortId = some record ∧
          twin.step options (.forgetTerminal cohortId health) =
            ⟨twin.dismissing.dismissed cohortId record, twin.undismissed⟩ := by
  have reads : health.phaseReads = true := possible.2.2.2.2
  cases found : twin.dismissing.state.terminal.lookup cohortId with
  | none =>
      refine Or.inl ⟨rfl, ?_⟩
      have refused :
          twin.dismissing.step options (.forgetTerminal cohortId health) =
            twin.dismissing := by
        simp only [OperatorRun.step, forgetTerminal, found]
        rfl
      exact congrArg (TwinRun.mk · twin.undismissed) refused
  | some record =>
      refine Or.inr ⟨record, rfl, ?_⟩
      have held : cohortId ∈ twin.dismissing.state.terminal :=
        InsertionMap.mem_of_lookup found
      have attributed := alike.left.attributed
      have gone :=
        attributed.endedNotLive cohortId (attributed.ended_of_terminal held)
      have granted :
          twin.dismissing.step options (.forgetTerminal cohortId health) =
            twin.dismissing.dismissed cohortId record := by
        simp only [OperatorRun.step,
          forgetTerminal_of_retained reads gone found]
        rfl
      exact congrArg (TwinRun.mk · twin.undismissed) granted

/-- A dismissal retracts nothing exactly when the carry outlasts the records of
the undismissed half. -/
theorem carryOutlasts_iff
    (alike : Alike twin) {cohortId : CohortId} {health : LibraryHealth}
    (possible : twin.Offered (.forgetTerminal cohortId health))
    (kept : CancelsKept twin) :
    CarryOutlasts twin cohortId ↔
      CancelsKept (twin.step options (.forgetTerminal cohortId health)) := by
  have after :
      Alike (twin.step options (.forgetTerminal cohortId health)) :=
    alike.step possible
  rcases alike.step_forgets options possible with
    ⟨missing, equality⟩ | ⟨record, found, equality⟩
  · rw [equality]
    refine iff_of_true ?_ kept
    intro id pushed
    rw [pushedOut, missing] at pushed
    cases pushed
  · have before := alike.cancelsKept_iff.mp kept
    have pushed :
        pushedOut twin.dismissing.state cohortId =
          twin.dismissing.state.dismissedCanceled.keys.filter fun id =>
            id ∉ carryWith twin.dismissing.state cohortId record := by
      simp only [pushedOut, found]
    rw [equality] at after ⊢
    rw [after.cancelsKept_iff, CarryOutlasts, pushed]
    constructor
    · intro outlasts id held canceled
      rcases before id held canceled with own | carried
      · by_cases same : id = cohortId
        · right
          rw [same] at own canceled ⊢
          have known := alike.left.attributed.created_of_terminal own
          exact
            alike.left.mem_carryWith_self found
              (alike.canceled_left known canceled)
        · exact Or.inl (AList.mem_erase.mpr ⟨same, own⟩)
      · right
        by_contra fell
        refine outlasts id ?_ held
        exact
          List.mem_filter.mpr ⟨AList.mem_keys.mp carried, decide_eq_true fell⟩
    · intro remembered id member held
      obtain ⟨inKeys, fell⟩ := List.mem_filter.mp member
      have carried : id ∈ twin.dismissing.state.dismissedCanceled :=
        AList.mem_keys.mpr inKeys
      have known : id ∈ twin.dismissing.created :=
        alike.left.attributed.endedCreated id (alike.left.past id carried).ended
      have created := alike.right.attributed.created_of_terminal held
      have canceled :=
        (alike.matching.canceled id known created).mp
          (alike.left.accepted id carried)
      rcases remembered id held canceled with own | stays
      · exact
          (alike.left.past id carried).unlisted (AList.mem_erase.mp own).2
      · exact of_decide_eq_true fell stays

/-- The microtasks retract nothing exactly when the records outlast those of the
undismissed half, and the cancels they file are shared. -/
theorem recordsOutlast_iff
    (alike : Alike twin) {health : LibraryHealth}
    (possible : twin.Offered (.microtask health)) (kept : CancelsKept twin) :
    RecordsOutlast twin ∧ CancelsShared twin ↔
      CancelsKept (twin.step options (.microtask health)) := by
  have after : Alike (twin.step options (.microtask health)) :=
    alike.step possible
  obtain ⟨drainsLeft, drainsRight⟩ :
      Drains twin.dismissing
          (twin.step options (.microtask health)).dismissing ∧
        Drains twin.undismissed
          (twin.step options (.microtask health)).undismissed :=
    alike.drains possible
  obtain ⟨leadsLeft, -⟩ :
      Leads options twin.dismissing
          (twin.step options (.microtask health)).dismissing ∧
        Leads options twin.undismissed
          (twin.step options (.microtask health)).undismissed :=
    TwinRun.leads possible rfl
  rw [after.cancelsKept_iff]
  simp only [AList.mem_keys, drainsLeft.terminal, drainsRight.terminal,
    drainsRight.canceledOk, leadsLeft.dismissedCanceled]
  have before := alike.cancelsKept_iff.mp kept
  constructor
  · rintro ⟨outlast, shared⟩ id held canceled
    -- what the dismissing half records, it drops no earlier
    have stays (recorded : id ∈ twin.dismissing.records) :
        id ∈ twin.dismissing.records.take maxTerminal := by
      have known := alike.left.attributed.created_of_records recorded
      rw [← List.take_append_drop maxTerminal twin.dismissing.records,
        List.mem_append] at recorded
      refine recorded.resolve_right fun fell => ?_
      exact outlast id fell (alike.canceled_left known canceled) held
    have parts := held
    rw [OperatorRun.records, List.take_append, List.mem_append] at parts
    rcases parts with due | old
    · have known := shared id due canceled
      have waiting := Attributed.pending_of_due (List.mem_of_mem_take due)
      have created := alike.right.attributed.created_of_pending waiting
      have waitingLeft := (alike.matching.pending id known created).mpr waiting
      have dueLeft :=
        alike.left.attributed.due_of_canceled waitingLeft
          (alike.canceled_left known canceled)
      exact Or.inl (stays (List.mem_append_left _ dueLeft))
    · have recorded : id ∈ twin.undismissed.state.terminal :=
        AList.mem_keys.mpr (List.mem_of_mem_take old)
      refine (before id recorded canceled).imp_left fun own => ?_
      exact stays (List.mem_append_right _ (AList.mem_keys.mp own))
  · intro remembered
    refine ⟨?_, ?_⟩
    · intro id fell canceled held
      have recorded := List.mem_of_mem_drop fell
      have known := alike.left.attributed.created_of_records recorded
      have created :=
        alike.right.attributed.created_of_records (List.mem_of_mem_take held)
      have canceledRight :=
        (alike.matching.canceled id known created).mp canceled
      rcases remembered id held canceledRight with own | carried
      · have disjoint :=
          List.disjoint_take_drop alike.left.attributed.nodup_records
            (Nat.le_refl maxTerminal)
        exact disjoint own fell
      · have past := alike.left.past id carried
        rcases List.mem_append.mp recorded with due | old
        · exact past.settled (Attributed.pending_of_due due)
        · exact past.unlisted (AList.mem_keys.mpr old)
    · intro id due canceled
      have held : id ∈ twin.undismissed.records.take maxTerminal := by
        rw [OperatorRun.records, List.take_append]
        exact List.mem_append_left _ due
      rcases remembered id held canceled with own | carried
      · exact
          alike.left.attributed.created_of_records (List.mem_of_mem_take own)
      · exact
          alike.left.attributed.endedCreated id
            (alike.left.past id carried).ended

theorem outlasts_iff
    (alike : Alike twin) (possible : twin.Offered event)
    (kept : CancelsKept twin) :
    Outlasts twin event ↔ CancelsKept (twin.step options event) := by
  cases event with
  | forgetTerminal cohortId health =>
      exact alike.carryOutlasts_iff possible kept
  | microtask health => exact alike.recordsOutlast_iff possible kept
  | _ => exact iff_of_true trivial (alike.cancelsKept_asked possible rfl rfl kept)

end Alike

variable (options : OperatorOptions) (settings : RuntimeSettings)

/-- Dismissals retract no cancel exactly when both bounds drop cancels in the
order of the undismissed run, and no cancel is filed that this run alone has;
and in every run a canceled fate is an accepted cancel. -/
theorem cancelsKept_iff_outlasts
    (events single : List OperatorEvent)
    (admissible : (twinMachine options settings).Admits events)
    (possible : (promptMachine options settings).Admits single) :
    ((∀ earlier,
        earlier <+: events →
          CancelsKept ((twinMachine options settings).run earlier)) ↔
      ((twinMachine options settings).restrict Outlasts).Admits events) ∧
      CancelsAccepted ((promptMachine options settings).run single) := by
  have initially : CancelsKept (TwinRun.booted settings) := by
    refine (Alike.booted settings).cancelsKept_iff.mpr ?_
    intro id held
    cases held
  have remembers := always_remembers options settings single possible
  refine ⟨?_, remembers.cancelsAccepted⟩
  refine
    (Machine.admits_restrict_iff (always_alike options settings) initially ?_
      events admissible).symm
  intro twin event alike offered kept
  exact alike.outlasts_iff offered kept

/-- A cohort is advertised and canceled, and the cancel is filed. -/
def cancelEvents (draftId cohortId : CohortId) : List OperatorEvent :=
  [ .createDraft draftId (plainInput none),
    .advertiseDraft draftId (some cohortId),
    .cancelCohort cohortId .sound,
    .microtask .sound ]

/-- Two cancels, and both are dismissed. -/
def tidyEvents : List OperatorEvent :=
  cancelEvents 0 1 ++ cancelEvents 2 3 ++
    [.forgetTerminal 3 .sound, .forgetTerminal 1 .sound]

theorem cancelsKept_iff_outlasts_tidy :
    (∀ earlier,
        earlier <+: tidyEvents →
          CancelsKept ((twinMachine plainOptions .unseeded).run earlier)) ∧
      CancelsAccepted
        ((promptMachine plainOptions .unseeded).run tidyEvents) := by
  obtain ⟨law, accepted⟩ :=
    cancelsKept_iff_outlasts plainOptions .unseeded tidyEvents tidyEvents
      (by decide +kernel) (by decide +kernel)
  exact ⟨law.mpr (by decide +kernel), accepted⟩

/-- Twenty-four cancels, of which the newest is dismissed first; then one more
cancel, which is dismissed as well. -/
def crowdedEvents : List OperatorEvent :=
  (List.range 24).flatMap (fun index => cancelEvents index (100 + index)) ++
    .forgetTerminal 123 .sound ::
      (List.range 23).map (fun index => .forgetTerminal (100 + index) .sound) ++
    cancelEvents 24 124 ++
    [.forgetTerminal 124 .sound]

/-- The twenty-fifth dismissal pushes out of the carry the cancel that was
dismissed first, though it is the newest but one. -/
theorem not_cancelsKept_crowded :
    (twinMachine plainOptions .unseeded).Admits crowdedEvents ∧
      ¬ CancelsKept ((twinMachine plainOptions .unseeded).run crowdedEvents) := by
  obtain ⟨admissible, reads, retracted⟩ :
      (twinMachine plainOptions .unseeded).Admits crowdedEvents ∧
        cohortFate
            ((twinMachine plainOptions .unseeded).run
              crowdedEvents).undismissed.state 123 = true ∧
        cohortFate
            ((twinMachine plainOptions .unseeded).run
              crowdedEvents).dismissing.state 123 = false := by
    decide +kernel
  refine ⟨admissible, ?_⟩
  intro kept
  have fate := kept 123 reads
  rw [retracted] at fate
  cases fate

end Exact

end Btcr2Aggregation
