import Btcr2Aggregation.Service.Dismissal

/-!
# What nobody learns of a draft

A draft belongs to the operator until it is advertised.  The surface keeps it in
a table of its own, and this module says that the table is private: take a run
of the service and strike from it every request about a draft that is never
advertised in it.  What is left is a run the service can really go through, and
it ends in the same state but for the drafts, so that no public read, timer,
settlement or line of the monitor tells the two apart.
-/

namespace Btcr2Aggregation

section Opaque

/-! ## Nothing reads the drafts in passing -/

/-- The state with other drafts. -/
def OperatorState.withDrafts
    (state : OperatorState) (drafts : InsertionMap CohortId DraftEntry) :
    OperatorState :=
  { state with drafts }

namespace OperatorState

variable
  (state : OperatorState) (drafts : InsertionMap CohortId DraftEntry)
  (health : LibraryHealth) (cohortId : CohortId)

theorem withDrafts_self : state.withDrafts state.drafts = state := rfl

theorem armWindowTimer_withDrafts
    (options : OperatorOptions) (windowMs : Option Nat) :
    (state.withDrafts drafts).armWindowTimer options cohortId windowMs =
      (state.armWindowTimer options cohortId windowMs).withDrafts drafts := by
  unfold armWindowTimer
  cases windowTimerDelay? options.cohortTtlMs windowMs with
  | none => rfl
  | some delay =>
      cases aborted : state.stopAborted with
      | true => simp [withDrafts, aborted]
      | false => simp [withDrafts, aborted]

theorem republish_withDrafts :
    (state.withDrafts drafts).republish health cohortId =
      (state.republish health cohortId).withDrafts drafts := by
  unfold republish
  cases health.publishes with
  | true => rfl
  | false => rfl

theorem repairAdvertSlot_withDrafts :
    (state.withDrafts drafts).repairAdvertSlot health cohortId =
      (state.repairAdvertSlot health cohortId).withDrafts drafts := by
  by_cases owner : state.advertSlotOwner = some cohortId
  · have disowned :
        { state.withDrafts drafts with advertSlotOwner := none } =
          { state with advertSlotOwner := none }.withDrafts drafts := rfl
    have throws :
        (state.withDrafts drafts).repairThrows health cohortId =
          state.repairThrows health cohortId := rfl
    have newest :
        ({ state with advertSlotOwner := none }.withDrafts drafts).newestOpen? =
          { state with advertSlotOwner := none }.newestOpen? := rfl
    rw [repairAdvertSlot, repairAdvertSlot, if_pos owner,
      if_pos (show (state.withDrafts drafts).advertSlotOwner = _ from owner)]
    dsimp only
    rw [disowned, throws, newest]
    cases state.repairThrows health cohortId with
    | true => rfl
    | false =>
        cases { state with advertSlotOwner := none }.newestOpen? with
        | none => rfl
        | some newestOpen =>
            simp only [republish_withDrafts]
            rfl
  · rw [repairAdvertSlot, repairAdvertSlot, if_neg owner,
      if_neg (show ¬ (state.withDrafts drafts).advertSlotOwner = _ from owner)]

theorem fileRejection_withDrafts (message : String) :
    (state.withDrafts drafts).fileRejection cohortId message =
      (state.fileRejection cohortId message).withDrafts drafts := by
  have record :
      (state.withDrafts drafts).rejectionRecord? cohortId message =
        state.rejectionRecord? cohortId message := rfl
  rw [fileRejection, fileRejection, record]
  cases state.rejectionRecord? cohortId message with
  | none => rfl
  | some record => rfl

theorem settleCompletion_withDrafts (settlement : Settlement) :
    (state.withDrafts drafts).settleCompletion health settlement =
      (state.settleCompletion health settlement).withDrafts drafts := by
  obtain ⟨cohortId, outcome⟩ := settlement
  cases outcome with
  | ok done =>
      exact
        repairAdvertSlot_withDrafts (state.forgetLive cohortId) drafts health
          cohortId
  | error message =>
      have filed := fileRejection_withDrafts state drafts cohortId message
      change
        ((state.withDrafts drafts).fileRejection cohortId message).repairAdvertSlot
            health cohortId =
          _
      rw [filed]
      exact
        repairAdvertSlot_withDrafts (state.fileRejection cohortId message) drafts
          health cohortId

end OperatorState

variable
  (options : OperatorOptions) (state : OperatorState)
  (drafts : InsertionMap CohortId DraftEntry)
  (health : LibraryHealth) (cohortId : CohortId)

theorem launch_withDrafts (config : CohortConfig) (windows : DraftWindows) :
    launch options (state.withDrafts drafts) cohortId config windows =
      (launch options state cohortId config windows).withDrafts drafts :=
  OperatorState.armWindowTimer_withDrafts
    { state with
      runner := state.runner.advertiseCohort cohortId
      advertised := state.advertised.set cohortId config
      advertisedWindows := state.advertisedWindows.set cohortId windows
      advertSlotOwner := some cohortId }
    drafts cohortId options (effectiveWindows windows).discoveryWindowMs

theorem readvertiseExpired_withDrafts (minted : Option CohortId) :
    readvertiseExpired options (state.withDrafts drafts) cohortId minted =
      ((readvertiseExpired options state cohortId minted).1,
        (readvertiseExpired options state cohortId minted).2.withDrafts
          drafts) := by
  have paused :
      (state.withDrafts drafts).settings.paused = state.settings.paused := rfl
  have lookup :
      (state.withDrafts drafts).terminal.lookup cohortId =
        state.terminal.lookup cohortId := rfl
  rw [readvertiseExpired, readvertiseExpired, paused, lookup]
  cases state.settings.paused with
  | true => rfl
  | false =>
      cases state.terminal.lookup cohortId with
      | none => rfl
      | some record =>
          cases minted with
          | none => rfl
          | some newCohortId =>
              exact
                congrArg (Prod.mk _)
                  (launch_withDrafts options
                    { state with terminal := state.terminal.erase cohortId }
                    drafts newCohortId record.config record.windows)

theorem cancelCohort_withDrafts :
    cancelCohort health (state.withDrafts drafts) cohortId =
      ((cancelCohort health state cohortId).1,
        (cancelCohort health state cohortId).2.withDrafts drafts) := by
  by_cases advertised : cohortId ∈ state.advertised
  · rw [cancelCohort, cancelCohort, if_pos advertised,
      if_pos (show cohortId ∈ (state.withDrafts drafts).advertised from advertised)]
    dsimp only
    cases health.stops with
    | true =>
        exact
          congrArg (Prod.mk _)
            (OperatorState.repairAdvertSlot_withDrafts
              { (state.declareIntent cohortId .canceled).clearWindowTimer
                  cohortId with
                runner := state.runner.stopCohort cohortId }
              drafts health cohortId)
    | false => rfl
  · rw [cancelCohort, cancelCohort, if_neg advertised,
      if_neg
        (show ¬ cohortId ∈ (state.withDrafts drafts).advertised from advertised)]

theorem windowTimerFires_withDrafts :
    windowTimerFires health (state.withDrafts drafts) cohortId =
      (windowTimerFires health state cohortId).withDrafts drafts := by
  unfold windowTimerFires
  cases health.stops with
  | true => rfl
  | false => rfl

theorem forgetTerminal_withDrafts :
    forgetTerminal health (state.withDrafts drafts) cohortId =
      ((forgetTerminal health state cohortId).1,
        (forgetTerminal health state cohortId).2.withDrafts drafts) := by
  have lookup :
      (state.withDrafts drafts).terminal.lookup cohortId =
        state.terminal.lookup cohortId := rfl
  have phase :
      (state.withDrafts drafts).runner.getCohortPhase cohortId =
        state.runner.getCohortPhase cohortId := rfl
  unfold forgetTerminal
  rw [lookup]
  cases state.terminal.lookup cohortId with
  | none => rfl
  | some record =>
      dsimp only
      rw [phase]
      by_cases reads : ¬ health.phaseReads = true
      · rw [if_pos reads, if_pos reads]
      · rw [if_neg reads, if_neg reads]
        split
        · rfl
        · rfl

end Opaque

section Blind

/-! ## Two runs that differ in drafts -/

/-- The draft a request is about, other than one to advertise it. -/
def DismissalEvent.draft? : DismissalEvent → Option CohortId
  | .operator (.createDraft draftId _) => some draftId
  | .operator (.updateDraft draftId _) => some draftId
  | .operator (.discardDraft draftId) => some draftId
  | _ => none

/-- The surface of another run differs from this one's in its history and in its
drafts, which are this one's as far as they are shown. -/
structure SameBut
    (shown : CohortId → Prop) (run other : OperatorRun) : Prop where
  state : other.state = run.state.withDrafts other.state.drafts
  endings : other.endings = run.endings
  created : ∀ id ∈ other.created, id ∈ run.created
  drafts :
    ∀ id, shown id →
      other.state.drafts.lookup id = run.state.drafts.lookup id
  hidden : ∀ id ∈ other.state.drafts, shown id

/-- The event advertises no draft, unless it is shown or the request is refused. -/
def AdvertisesShown
    (options : OperatorOptions) (shown : CohortId → Prop) (run : OperatorRun) :
    OperatorEvent → Prop
  | .advertiseDraft draftId minted =>
      (advertiseDraft options run.state draftId minted).1.refused = false →
        shown draftId
  | _ => True

/-- A draft that is there is launched. -/
theorem step_advertiseDraft_of_found
    {options : OperatorOptions} {run : OperatorRun} {draftId cohortId : CohortId}
    {entry : DraftEntry} (running : run.state.settings.paused = false)
    (found : run.state.drafts.lookup draftId = some entry) :
    run.step options (.advertiseDraft draftId (some cohortId)) =
      { run with
        state :=
          launch options
            (run.state.withDrafts (run.state.drafts.erase draftId)) cohortId
            entry.config entry.windows
        created := cohortId :: run.created
        gone := (draftId, .advertisedOn) :: run.gone } := by
  simp only [OperatorRun.step, advertiseDraft, running, found, Bool.false_eq_true,
    if_false]
  rfl

/-- A change of the state in which the drafts are carried along unread. -/
def CarriesDrafts (change : OperatorState → OperatorState) : Prop :=
  ∀ state drafts,
    change (state.withDrafts drafts) = (change state).withDrafts drafts

theorem CarriesDrafts.drafts
    {change : OperatorState → OperatorState} (carries : CarriesDrafts change)
    (state : OperatorState) : (change state).drafts = state.drafts := by
  have carried := carries state state.drafts
  rw [OperatorState.withDrafts_self] at carried
  rw [carried]
  rfl

namespace SameBut

variable
  {options : OperatorOptions} {shown : CohortId → Prop}
  {run other after otherAfter : OperatorRun}

theorem refl (everything : ∀ id ∈ run.state.drafts, shown id) :
    SameBut shown run run where
  state := rfl
  endings := rfl
  created _ known := known
  drafts _ _ := rfl
  hidden := everything

/-- One side goes on with other drafts, none of them shown. -/
theorem left
    (same : SameBut shown run other)
    (state : after.state = run.state.withDrafts after.state.drafts)
    (endings : after.endings = run.endings)
    (created : ∀ id ∈ run.created, id ∈ after.created)
    (drafts :
      ∀ id, shown id →
        after.state.drafts.lookup id = run.state.drafts.lookup id) :
    SameBut shown after other where
  state := by
    rw [state]
    exact same.state
  endings := by rw [same.endings, endings]
  created id known := created id (same.created id known)
  drafts id visible := by rw [same.drafts id visible, drafts id visible]
  hidden := same.hidden

/-- Both sides change in a way that carries the drafts along. -/
theorem passing
    (same : SameBut shown run other)
    (change : OperatorState → OperatorState) (carries : CarriesDrafts change)
    (now : after.state = change run.state)
    (otherwise : otherAfter.state = change other.state)
    (endings : otherAfter.endings = after.endings)
    (created : ∀ id ∈ otherAfter.created, id ∈ after.created) :
    SameBut shown after otherAfter := by
  have drafts : after.state.drafts = run.state.drafts := by
    rw [now, carries.drafts]
  have otherDrafts : otherAfter.state.drafts = other.state.drafts := by
    rw [otherwise, carries.drafts]
  refine ⟨?_, endings, created, ?_, ?_⟩
  · rw [otherDrafts, otherwise, now, ← carries, ← same.state]
  · intro id visible
    rw [otherDrafts, drafts]
    exact same.drafts id visible
  · intro id drafted
    rw [otherDrafts] at drafted
    exact same.hidden id drafted

theorem settings (same : SameBut shown run other) :
    other.state.settings = run.state.settings := by
  rw [same.state]
  rfl

theorem cohorts (same : SameBut shown run other) :
    other.state.runner = run.state.runner := by
  rw [same.state]
  rfl

theorem advertised (same : SameBut shown run other) :
    other.state.advertised = run.state.advertised := by
  rw [same.state]
  rfl

theorem endingNow
    (same : SameBut shown run other) (id : CohortId) (ending : Ending) :
    other.endingNow id ending = run.endingNow id ending := by
  rw [OperatorRun.endingNow, OperatorRun.endingNow, same.cohorts, same.endings]

theorem mem_drafts_iff
    (same : SameBut shown run other) {id : CohortId} (visible : shown id) :
    id ∈ other.state.drafts ↔ id ∈ run.state.drafts := by
  rw [← AList.lookup_isSome, ← AList.lookup_isSome, same.drafts id visible]

/-- An id that is minted on both sides. -/
theorem created_cons (same : SameBut shown run other) (minted : CohortId) :
    ∀ id ∈ minted :: other.created, id ∈ minted :: run.created := by
  intro id known
  rcases List.mem_cons.mp known with rfl | old
  · exact List.mem_cons_self
  · exact List.mem_cons_of_mem _ (same.created id old)

/-- Both sides go on with other drafts that are alike as far as they are shown. -/
theorem redrafted
    (same : SameBut shown run other)
    {drafts otherDrafts : InsertionMap CohortId DraftEntry}
    (now : after.state = run.state.withDrafts drafts)
    (otherwise : otherAfter.state = other.state.withDrafts otherDrafts)
    (alike : ∀ id, shown id → otherDrafts.lookup id = drafts.lookup id)
    (hidden : ∀ id ∈ otherDrafts, shown id)
    (endings : otherAfter.endings = after.endings)
    (created : ∀ id ∈ otherAfter.created, id ∈ after.created) :
    SameBut shown after otherAfter := by
  refine ⟨?_, endings, created, ?_, ?_⟩
  · rw [otherwise, now, same.state]
    rfl
  · rw [otherwise, now]
    exact alike
  · rw [otherwise]
    exact hidden

/-- A draft that is shown is written on both sides. -/
theorem set
    (same : SameBut shown run other) {draftId : CohortId}
    (visible : shown draftId) (entry : DraftEntry)
    (now :
      after.state =
        run.state.withDrafts (run.state.drafts.set draftId entry))
    (otherwise :
      otherAfter.state =
        other.state.withDrafts (other.state.drafts.set draftId entry))
    (endings : otherAfter.endings = after.endings)
    (created : ∀ id ∈ otherAfter.created, id ∈ after.created) :
    SameBut shown after otherAfter := by
  refine same.redrafted now otherwise ?_ ?_ endings created
  · intro id shownHere
    by_cases about : id = draftId
    · rw [about, InsertionMap.lookup_set_self, InsertionMap.lookup_set_self]
    · rw [InsertionMap.lookup_set_of_ne about, InsertionMap.lookup_set_of_ne about,
        same.drafts id shownHere]
  · intro id drafted
    rcases InsertionMap.mem_set.mp drafted with rfl | old
    · exact visible
    · exact same.hidden id old

/-- A draft leaves both sides. -/
theorem erase
    (same : SameBut shown run other) (draftId : CohortId)
    (now :
      after.state = run.state.withDrafts (run.state.drafts.erase draftId))
    (otherwise :
      otherAfter.state =
        other.state.withDrafts (other.state.drafts.erase draftId))
    (endings : otherAfter.endings = after.endings)
    (created : ∀ id ∈ otherAfter.created, id ∈ after.created) :
    SameBut shown after otherAfter := by
  refine same.redrafted now otherwise ?_ ?_ endings created
  · intro id shownHere
    by_cases about : id = draftId
    · rw [about, AList.lookup_erase, AList.lookup_erase]
    · rw [AList.lookup_erase_ne about, AList.lookup_erase_ne about,
        same.drafts id shownHere]
  · intro id drafted
    exact same.hidden id (AList.mem_erase.mp drafted).2

/-- An event that is struck goes unnoticed. -/
theorem struck
    (same : SameBut shown run other) {event : OperatorEvent}
    {draftId : CohortId}
    (about : (DismissalEvent.operator event).draft? = some draftId)
    (secret : ¬ shown draftId) :
    SameBut shown (run.step options event) other := by
  cases event with
  | createDraft id input =>
      cases about
      cases judged :
          judgeDraft options run.state.settings draftId
            (withServiceDefaults run.state.settings input) with
      | error message =>
          simp only [OperatorRun.step, createDraft, judged]
          exact same
      | ok entry =>
          simp only [OperatorRun.step, createDraft, judged]
          refine same.left rfl rfl (fun _ => List.mem_cons_of_mem _) ?_
          intro id visible
          exact
            InsertionMap.lookup_set_of_ne fun equal => secret (equal ▸ visible)
  | updateDraft id input =>
      cases about
      by_cases held : draftId ∈ run.state.drafts
      · cases judged :
            judgeDraft options run.state.settings draftId input with
        | error message =>
            simp only [OperatorRun.step, updateDraft, if_pos held, judged]
            exact same
        | ok entry =>
            simp only [OperatorRun.step, updateDraft, if_pos held, judged]
            refine same.left rfl rfl (fun _ known => known) ?_
            intro id visible
            exact
              InsertionMap.lookup_set_of_ne fun equal => secret (equal ▸ visible)
      · simp only [OperatorRun.step, updateDraft, if_neg held]
        exact same
  | discardDraft id =>
      cases about
      simp only [OperatorRun.step, discardDraft]
      refine same.left rfl rfl (fun _ known => known) ?_
      intro id visible
      exact AList.lookup_erase_ne fun equal => secret (equal ▸ visible)
  | _ => cases about

/-- An advertise request that is refused, or is about a draft that is shown. -/
theorem advertiseDraft
    (same : SameBut shown run other) {draftId : CohortId}
    {minted : Option CohortId}
    (advertises : AdvertisesShown options shown run (.advertiseDraft draftId minted)) :
    SameBut shown (run.step options (.advertiseDraft draftId minted))
      (other.step options (.advertiseDraft draftId minted)) := by
  rcases OperatorRun.step_advertiseDraft_cases options run draftId minted with
    unmoved | ⟨entry, cohortId, running, found, rfl, -⟩
  · -- What this side refuses, the other side refuses: it holds no more drafts.
    have still : other.step options (.advertiseDraft draftId minted) = other := by
      rcases OperatorRun.step_advertiseDraft_cases options other draftId minted with
        still | ⟨entry, cohortId, running, found, rfl, -⟩
      · exact still
      · have visible := same.hidden draftId (InsertionMap.mem_of_lookup found)
        rw [same.settings] at running
        rw [same.drafts draftId visible] at found
        rw [step_advertiseDraft_of_found running found] at unmoved
        exact absurd (congrArg OperatorRun.gone unmoved) (List.cons_ne_self _ _)
    rw [unmoved, still]
    exact same
  · have visible : shown draftId := by
      apply advertises
      rw [Btcr2Aggregation.advertiseDraft, running, if_neg Bool.false_ne_true, found]
      rfl
    have otherFound :
        other.state.drafts.lookup draftId = some entry := by
      rw [same.drafts draftId visible, found]
    have otherRunning : other.state.settings.paused = false := by
      rw [same.settings, running]
    rw [step_advertiseDraft_of_found running found,
      step_advertiseDraft_of_found otherRunning otherFound]
    have erased :
        SameBut shown
          { run with
            state := run.state.withDrafts (run.state.drafts.erase draftId) }
          { other with
            state := other.state.withDrafts (other.state.drafts.erase draftId) } :=
      same.erase draftId rfl rfl same.endings same.created
    exact
      erased.passing
        (fun state => launch options state cohortId entry.config entry.windows)
        (fun state drafts =>
          launch_withDrafts options state drafts cohortId entry.config
            entry.windows)
        rfl rfl same.endings (same.created_cons cohortId)

theorem readvertiseExpired
    (same : SameBut shown run other) (expired : CohortId)
    (minted : Option CohortId) :
    SameBut shown (run.step options (.readvertiseExpired expired minted))
      (other.step options (.readvertiseExpired expired minted)) := by
  have carries :
      CarriesDrafts fun state =>
        (Btcr2Aggregation.readvertiseExpired options state expired minted).2 :=
    fun state drafts =>
      congrArg Prod.snd
        (readvertiseExpired_withDrafts options state drafts expired minted)
  have answers :
      (Btcr2Aggregation.readvertiseExpired options other.state expired minted).1 =
        (Btcr2Aggregation.readvertiseExpired options run.state expired minted).1 := by
    rw [same.state, readvertiseExpired_withDrafts]
  simp only [OperatorRun.step, answers]
  cases (Btcr2Aggregation.readvertiseExpired options run.state expired minted).1 with
  | advertised row =>
      exact
        same.passing _ carries rfl rfl same.endings (same.created_cons row.draftId)
  | paused => exact same.passing _ carries rfl rfl same.endings same.created
  | unknown => exact same.passing _ carries rfl rfl same.endings same.created
  | threw => exact same.passing _ carries rfl rfl same.endings same.created

theorem microtask (same : SameBut shown run other) (health : LibraryHealth) :
    SameBut shown (run.step options (.microtask health))
      (other.step options (.microtask health)) := by
  simp only [OperatorRun.step, same.cohorts]
  cases pending : run.state.runner.pending with
  | nil => exact same
  | cons settlement rest =>
      refine
        same.passing
          (fun state =>
            { state with
                runner :=
                  { state.runner with pending := state.runner.pending.tail }
              : OperatorState }.settleCompletion health settlement)
          (fun state drafts => ?_) rfl rfl same.endings same.created
      exact
        OperatorState.settleCompletion_withDrafts
          { state with
            runner := { state.runner with pending := state.runner.pending.tail } }
          drafts health settlement

/-- An event about a draft that is shown is taken alike on both sides, and so is
one about none. -/
theorem step
    (same : SameBut shown run other) {event : OperatorEvent}
    (about : ∀ draftId ∈ (DismissalEvent.operator event).draft?, shown draftId)
    (advertises : AdvertisesShown options shown run event) :
    SameBut shown (run.step options event) (other.step options event) := by
  cases event with
  | createDraft draftId input =>
      have visible : shown draftId := about draftId rfl
      have alike :
          judgeDraft options other.state.settings draftId
              (withServiceDefaults other.state.settings input) =
            judgeDraft options run.state.settings draftId
              (withServiceDefaults run.state.settings input) := by
        rw [same.settings]
      cases judged :
          judgeDraft options run.state.settings draftId
            (withServiceDefaults run.state.settings input) with
      | error message =>
          simp only [OperatorRun.step, createDraft, alike, judged]
          exact same
      | ok entry =>
          simp only [OperatorRun.step, createDraft, alike, judged]
          exact
            same.set visible entry rfl rfl same.endings (same.created_cons draftId)
  | updateDraft draftId input =>
      have visible : shown draftId := about draftId rfl
      have held := same.mem_drafts_iff visible
      by_cases drafted : draftId ∈ run.state.drafts
      · have alike :
            judgeDraft options other.state.settings draftId input =
              judgeDraft options run.state.settings draftId input := by
          rw [same.settings]
        have otherDrafted := held.mpr drafted
        cases judged : judgeDraft options run.state.settings draftId input with
        | error message =>
            simp only [OperatorRun.step, updateDraft, if_pos drafted,
              if_pos otherDrafted, alike, judged]
            exact same
        | ok entry =>
            simp only [OperatorRun.step, updateDraft, if_pos drafted,
              if_pos otherDrafted, alike, judged]
            exact same.set visible entry rfl rfl same.endings same.created
      · simp only [OperatorRun.step, updateDraft, if_neg drafted,
          if_neg (mt held.mp drafted)]
        exact same
  | discardDraft draftId =>
      exact same.erase draftId rfl rfl same.endings same.created
  | advertiseDraft draftId minted => exact same.advertiseDraft advertises
  | readvertiseExpired expired minted => exact same.readvertiseExpired expired minted
  | cancelCohort cohortId health =>
      refine
        same.passing (fun state => (cancelCohort health state cohortId).2)
          (fun state drafts =>
            congrArg Prod.snd
              (cancelCohort_withDrafts state drafts health cohortId))
          rfl rfl ?_ same.created
      simp only [OperatorRun.step, same.advertised, same.endingNow, same.endings]
  | forgetTerminal cohortId health =>
      exact
        same.passing (fun state => (forgetTerminal health state cohortId).2)
          (fun state drafts =>
            congrArg Prod.snd
              (forgetTerminal_withDrafts state drafts health cohortId))
          rfl rfl same.endings same.created
  | applySettings patch =>
      simp only [OperatorRun.step, same.settings]
      cases run.state.settings.applySettings patch with
      | error message => exact same
      | ok settings =>
          exact
            same.passing (fun state => { state with settings }) (fun _ _ => rfl) rfl
              rfl same.endings same.created
  | pause =>
      exact
        same.passing
          (fun state => { state with settings := state.settings.pause })
          (fun _ _ => rfl) rfl rfl same.endings same.created
  | resume =>
      exact
        same.passing
          (fun state => { state with settings := state.settings.resume })
          (fun _ _ => rfl) rfl rfl same.endings same.created
  | windowTimer cohortId health =>
      refine
        same.passing (fun state => windowTimerFires health state cohortId)
          (fun state drafts => windowTimerFires_withDrafts state drafts health cohortId)
          rfl rfl ?_ same.created
      simp only [OperatorRun.step, same.endingNow, same.endings]
  | seat cohortId =>
      exact
        same.passing
          (fun state => { state with runner := state.runner.seat cohortId })
          (fun _ _ => rfl) rfl rfl same.endings same.created
  | fill cohortId =>
      exact
        same.passing
          (fun state => { state with runner := state.runner.fill cohortId })
          (fun _ _ => rfl) rfl rfl same.endings same.created
  | advance cohortId phase =>
      exact
        same.passing
          (fun state => { state with runner := state.runner.advance cohortId phase })
          (fun _ _ => rfl) rfl rfl same.endings same.created
  | completion cohortId =>
      exact
        same.passing
          (fun state =>
            { state with runner := state.runner.settle cohortId (.ok ()) })
          (fun _ _ => rfl) rfl rfl (same.endingNow cohortId .completed) same.created
  | failure cohortId message =>
      exact
        same.passing
          (fun state =>
            { state with runner := state.runner.settle cohortId (.error message) })
          (fun _ _ => rfl) rfl rfl (same.endingNow cohortId (.failed message))
          same.created
  | stopService message =>
      refine
        same.passing (fun state => stopService state message) (fun _ _ => rfl) rfl
          rfl ?_ same.created
      simp only [OperatorRun.step, same.cohorts, same.endings]
  | microtask health => exact same.microtask health

/-- An event about no draft is taken alike. -/
theorem unrelated
    (same : SameBut shown run other) (event : OperatorEvent)
    (about : (DismissalEvent.operator event).draft? = none)
    (advertises : AdvertisesShown options shown run event) :
    SameBut shown (run.step options event) (other.step options event) := by
  refine same.step ?_ advertises
  intro draftId named
  rw [about] at named
  cases named

end SameBut

end Blind

section Ledger

/-! ## The ledger of drafts that went live -/

namespace OperatorRun

variable {options : OperatorOptions} {run : OperatorRun}

/-- Nothing is struck from the ledger. -/
theorem mem_gone_step
    {entry : CohortId × Departure} (known : entry ∈ run.gone)
    (event : OperatorEvent) : entry ∈ (run.step options event).gone := by
  cases event with
  | createDraft draftId input =>
      simp only [step]
      split
      · exact known
      · exact known
  | advertiseDraft draftId minted =>
      rcases step_advertiseDraft_cases options run draftId minted with
        unmoved | ⟨_, _, -, -, -, moved⟩
      · rw [unmoved]
        exact known
      · rw [moved]
        exact List.mem_cons_of_mem _ known
  | discardDraft draftId =>
      simp only [step]
      split
      · exact List.mem_cons_of_mem _ known
      · exact known
  | readvertiseExpired expired minted =>
      rcases step_readvertiseExpired_cases options run expired minted with
        unmoved | ⟨_, _, -, -, -, moved⟩
      · rw [unmoved]
        exact known
      · rw [moved]
        exact List.mem_cons_of_mem _ known
  | forgetTerminal cohortId health =>
      simp only [step]
      split
      · exact List.mem_cons_of_mem _ known
      · exact known
  | applySettings patch =>
      simp only [step]
      split
      · exact known
      · exact known
  | microtask health =>
      simp only [step]
      split
      · exact known
      · exact List.mem_append_right _ known
  | _ => exact known

/-- A draft that goes live is entered. -/
theorem advertisedOn_step
    {draftId : CohortId} {minted : Option CohortId}
    (granted :
      (Btcr2Aggregation.advertiseDraft options run.state draftId minted).1.refused =
        false) :
    (draftId, .advertisedOn) ∈
      (run.step options (.advertiseDraft draftId minted)).gone := by
  rcases advertiseDraft_cases options run.state draftId minted with
    ⟨answer, refused, equality⟩ | ⟨entry, cohortId, running, found, rfl, -⟩
  · rw [equality, refused] at granted
    cases granted
  · rw [step_advertiseDraft_of_found running found]
    exact List.mem_cons_self

/-- No id is minted twice, so a draft that went live is a draft no more. -/
theorem notMem_drafts_of_advertisedOn
    (balanced : Balanced run) {id : CohortId}
    (live : (id, .advertisedOn) ∈ run.gone) : id ∉ run.state.drafts := by
  intro drafted
  have departed : 0 < departures run.gone id :=
    List.count_pos_iff.mpr (List.mem_map.mpr ⟨_, live, rfl⟩)
  have once := balanced id
  rw [balance, indicator, if_pos drafted] at once
  have atMost : indicator (id ∈ run.created) ≤ 1 := by
    unfold indicator
    split <;> omega
  omega

end OperatorRun

end Ledger

section Runs

/-! ## A run without its private drafts -/

/-- The event is about no draft, or about one that is shown. -/
def DismissalEvent.keeps (shown : CohortId → Bool) (event : DismissalEvent) :
    Bool :=
  event.draft?.all shown

/-- The draft went live in the run. -/
def DismissalRun.wentLive (run : DismissalRun) (draftId : CohortId) : Bool :=
  decide ((draftId, Departure.advertisedOn) ∈ run.operator.gone)

namespace DismissalRun

/-- Two runs of the service that differ in what the surface knows of drafts. -/
structure SameBut
    (shown : CohortId → Bool) (run other : DismissalRun) : Prop where
  operator :
    Btcr2Aggregation.SameBut (fun id => shown id = true) run.operator
      other.operator
  monitor : other.monitor = run.monitor
  now : other.now = run.now
  dismissed : other.dismissed = run.dismissed

variable
  {options : OperatorOptions} {shown : CohortId → Bool}
  {run other : DismissalRun}

namespace SameBut

theorem session (same : SameBut shown run other) : other.session = run.session := by
  rw [DismissalRun.session, DismissalRun.session, same.operator.state]
  rfl

theorem calls (same : SameBut shown run other) (event : DismissalEvent) :
    other.calls event = run.calls event := by
  cases event with
  | operator request =>
      cases request with
      | cancelCohort cohortId health =>
          simp only [DismissalRun.calls, same.operator.advertised]
      | _ => rfl
  | _ => rfl

theorem called (same : SameBut shown run other) (calls : List MonitorEvent) :
    other.called calls = run.called calls := by
  rw [DismissalRun.called, DismissalRun.called, same.session, same.now,
    same.monitor]

theorem forgets (same : SameBut shown run other) (cohortId : CohortId) :
    (forgetTerminal .sound other.operator.state cohortId).1 =
      (forgetTerminal .sound run.operator.state cohortId).1 := by
  rw [same.operator.state, forgetTerminal_withDrafts]

theorem struck
    (same : SameBut shown run other) {event : DismissalEvent}
    (secret : event.keeps shown = false) :
    SameBut shown (run.step options event) other := by
  have about : ∃ draftId, event.draft? = some draftId ∧ ¬ shown draftId = true := by
    cases named : event.draft? with
    | none =>
        rw [DismissalEvent.keeps, named] at secret
        cases secret
    | some draftId =>
        rw [DismissalEvent.keeps, named] at secret
        exact ⟨draftId, rfl, Bool.eq_false_iff.mp secret⟩
  obtain ⟨draftId, named, hidden⟩ := about
  cases event with
  | operator request =>
      have quiet : run.calls (.operator request) = [] := by
        cases request with
        | cancelCohort cohortId health => cases named
        | _ => rfl
      refine ⟨same.operator.struck named hidden, ?_, same.now, same.dismissed⟩
      rw [same.monitor, DismissalRun.step, quiet]
      rfl
  | _ => cases named

theorem step
    (same : SameBut shown run other) {event : DismissalEvent}
    (kept : event.keeps shown = true)
    (advertises :
      ∀ request ∈ event.operator?,
        AdvertisesShown options (fun id => shown id = true) run.operator request) :
    SameBut shown (run.step options event) (other.step options event) := by
  have about : ∀ draftId ∈ event.draft?, shown draftId = true := by
    intro draftId named
    rw [DismissalEvent.keeps, Option.mem_def.mp named] at kept
    exact kept
  have heard : other.called (other.calls event) = run.called (run.calls event) := by
    rw [same.calls, same.called]
  cases event with
  | clock now => exact ⟨same.operator, same.monitor, rfl, same.dismissed⟩
  | operator request =>
      exact
        ⟨same.operator.step about (advertises request rfl), heard, same.now,
          same.dismissed⟩
  | completes cohortId scriptPath =>
      exact
        ⟨same.operator.unrelated (.completion cohortId) rfl (advertises _ rfl),
          heard, same.now, same.dismissed⟩
  | fails cohortId message reason =>
      exact
        ⟨same.operator.unrelated (.failure cohortId message) rfl
            (advertises _ rfl),
          heard, same.now, same.dismissed⟩
  | monitor call => exact ⟨same.operator, heard, same.now, same.dismissed⟩
  | dismiss cohortId =>
      have cleared :
          other.monitor.dismissEnded other.session other.now cohortId =
            run.monitor.dismissEnded run.session run.now cohortId := by
        rw [same.monitor, same.session, same.now]
      have forgets :
          decide
              ((forgetTerminal .sound other.operator.state cohortId).1 =
                some true) =
            decide
              ((forgetTerminal .sound run.operator.state cohortId).1 =
                some true) := by
        rw [same.forgets]
      refine
        ⟨same.operator.unrelated (.forgetTerminal cohortId .sound) rfl
            (advertises _ rfl),
          ?_, same.now, ?_⟩
      · simp only [DismissalRun.step, deleteEnded]
        rw [cleared, forgets, same.now]
      · have answered :
            (other.deleteEnded options cohortId).1 =
              (run.deleteEnded options cohortId).1 := by
          simp only [deleteEnded]
          rw [cleared, forgets]
        change
          (if (other.deleteEnded options cohortId).1 then
              cohortId :: other.dismissed
            else other.dismissed) =
            if (run.deleteEnded options cohortId).1 then cohortId :: run.dismissed
            else run.dismissed
        rw [answered, same.dismissed]

/-- What can happen beside private drafts can happen without them. -/
theorem offered (same : SameBut shown run other) {event : DismissalEvent}
    (possible : run.Offered event) : other.Offered event := by
  obtain ⟨requests, rest⟩ := possible
  refine ⟨?_, ?_⟩
  · intro request asked
    obtain ⟨⟨fresh, armed, held⟩, prompt⟩ := requests request asked
    have timers :
        other.operator.state.windowTimers = run.operator.state.windowTimers := by
      rw [same.operator.state]
      rfl
    refine ⟨⟨?_, ?_, ?_⟩, ?_⟩
    · intro id minted known
      exact fresh id minted (same.operator.created id known)
    · rw [timers]
      exact armed
    · rw [same.operator.cohorts]
      exact held
    · rw [settlesPromptly, same.operator.cohorts]
      exact prompt
  · cases event with
    | monitor call =>
        have completed (id : CohortId) : other.Completed id ↔ run.Completed id := by
          rw [Completed, Completed, same.operator.endings]
        cases call with
        | notice notice =>
            cases notice with
            | signingComplete => exact rest
            | cohortFailed => exact rest
            | _ => trivial
        | frame frame =>
            cases frame with
            | broadcast cohortId txid => exact (completed cohortId).mpr rest
            | failed cohortId reason => exact (completed cohortId).mpr rest
            | anchored cohortId txid confirmed =>
                exact (completed cohortId).mpr rest
        | noteCanceled => exact rest
        | dismissEnded => exact rest
        | _ => trivial
    | _ => exact rest

end SameBut

theorem wentLive_step {id : CohortId}
    (live : run.wentLive id = true) (event : DismissalEvent) :
    (run.step options event).wentLive id = true := by
  refine decide_eq_true ?_
  rw [operator_step]
  cases event.operator? with
  | none => exact of_decide_eq_true live
  | some request => exact OperatorRun.mem_gone_step (of_decide_eq_true live) request

variable (options) (settings : RuntimeSettings) (mode : ServiceMode)

theorem always_balanced :
    (dismissalMachine options settings mode).Always
      fun run => Balanced run.operator := by
  refine Machine.Always.of_inductive (fun _ => rfl) ?_
  intro run event balanced possible
  change Balanced (run.step options event).operator
  rw [operator_step]
  cases request : event.operator? with
  | none => exact balanced
  | some request' => exact balanced.step (possible.1 request' request).1

/-- Without the requests about drafts that are not shown, a run is admissible and
goes through the same, if all that went live is shown. -/
theorem sameBut_filter
    (events : List DismissalEvent)
    (admissible : (dismissalMachine options settings mode).Admits events)
    (shown : CohortId → Bool)
    (complete :
      ∀ id,
        ((dismissalMachine options settings mode).run events).wentLive id = true →
          shown id = true) :
    (dismissalMachine options settings mode).Admits
        (events.filter (DismissalEvent.keeps shown)) ∧
      SameBut shown ((dismissalMachine options settings mode).run events)
        ((dismissalMachine options settings mode).run
          (events.filter (DismissalEvent.keeps shown))) := by
  induction events using List.reverseRecOn with
  | nil =>
      refine ⟨trivial, .refl ?_, rfl, rfl, rfl⟩
      intro id drafted
      cases drafted
  | append_singleton events event inductionHypothesis =>
      obtain ⟨before, possible⟩ := (Machine.admits_concat_iff _ _ _).mp admissible
      rw [Machine.run_concat] at complete ⊢
      obtain ⟨keptBefore, same⟩ :=
        inductionHypothesis before fun id live =>
          complete id (wentLive_step live event)
      have advertises :
          ∀ request ∈ event.operator?,
            AdvertisesShown options (fun id => shown id = true)
              ((dismissalMachine options settings mode).run events).operator
              request := by
        intro request asked
        cases request with
        | advertiseDraft draftId minted =>
            intro granted
            refine complete draftId (decide_eq_true ?_)
            change _ ∈ (step options _ event).operator.gone
            rw [operator_step, Option.mem_def.mp asked]
            exact OperatorRun.advertisedOn_step granted
        | _ => trivial
      rw [List.filter_append]
      cases kept : event.keeps shown with
      | true =>
          rw [List.filter_cons_of_pos kept, List.filter_nil,
            Machine.admits_concat_iff, Machine.run_concat]
          exact
            ⟨⟨keptBefore, same.offered possible⟩, same.step kept advertises⟩
      | false =>
          rw [List.filter_cons_of_neg (Bool.eq_false_iff.mp kept), List.filter_nil,
            List.append_nil]
          exact ⟨keptBefore, same.struck kept⟩

/-- What anyone can read of the service, and the advert a newcomer hears. -/
structure PublicReads where
  directory : List DirectoryCohortDTO
  openCohorts : Nat
  paused : Bool
  canceled : CohortId → Bool
  awaitingFunding : CohortId → Bool
  advert : Option Advert

def publicReads (run : DismissalRun) : PublicReads where
  directory := directory options run.operator.state
  openCohorts := openCount options run.operator.state
  paused := run.operator.state.settings.paused
  canceled := cohortFate run.operator.state
  awaitingFunding := run.monitor.publicFunding
  advert := run.operator.state.runner.slot

/-- Strike from a run of the service every request about a draft that did not go
live in it.  The rest is a run of the service.  It ends without any draft and
otherwise in the same state, with the same monitor and the same public reads. -/
theorem unadvertised_drafts_leave_no_trace
    (events : List DismissalEvent)
    (admissible : (dismissalMachine options settings mode).Admits events) :
    let machine := dismissalMachine options settings mode
    let run := machine.run events
    let kept := events.filter (DismissalEvent.keeps run.wentLive)
    machine.Admits kept ∧
      (machine.run kept).operator.state = run.operator.state.withDrafts ∅ ∧
        (machine.run kept).monitor = run.monitor ∧
          publicReads options (machine.run kept) = publicReads options run := by
  intro machine run kept
  obtain ⟨possible, same⟩ :=
    sameBut_filter options settings mode events admissible run.wentLive
      fun _ live => live
  have balanced := always_balanced options settings mode events admissible
  have without : (machine.run kept).operator.state.drafts = ∅ := by
    refine AList.ext (List.eq_nil_iff_forall_not_mem.mpr ?_)
    intro entry member
    have drafted : entry.1 ∈ (machine.run kept).operator.state.drafts :=
      AList.mem_keys.mpr (List.mem_map.mpr ⟨entry, member, rfl⟩)
    have live := same.operator.hidden entry.1 drafted
    exact
      OperatorRun.notMem_drafts_of_advertisedOn balanced (of_decide_eq_true live)
        ((same.operator.mem_drafts_iff live).mp drafted)
  have state :
      (machine.run kept).operator.state = run.operator.state.withDrafts ∅ := by
    rw [← without]
    exact same.operator.state
  refine ⟨possible, state, same.monitor, ?_⟩
  rw [publicReads, publicReads, state, same.monitor]
  rfl

/-- Two drafts, of which the second goes live and the first is edited. -/
def secondGoesLive : List DismissalEvent :=
  [ .operator (.createDraft 1 (plainInput none)),
    .operator (.createDraft 2 (plainInput none)),
    .operator (.advertiseDraft 2 (some 3)),
    .operator (.updateDraft 1 (plainInput none)) ]

theorem unadvertised_drafts_leave_no_trace_secondGoesLive :
    let machine := dismissalMachine plainOptions .unseeded .live
    let kept :=
      secondGoesLive.filter
        (DismissalEvent.keeps (machine.run secondGoesLive).wentLive)
    kept.length = 2 ∧
      publicReads plainOptions (machine.run kept) =
        publicReads plainOptions (machine.run secondGoesLive) :=
  ⟨by decide +kernel,
    (unadvertised_drafts_leave_no_trace plainOptions .unseeded .live secondGoesLive
      (by decide +kernel)).2.2.2⟩

end DismissalRun

end Runs

end Btcr2Aggregation
