import Btcr2Aggregation.Service.MemberFolds

/-!
# What the calls of the monitor take from a completion

The tag of a script-path completion stands on the ended record, the fallback
mark and the seats on the entry.  A record or an entry goes when its row is
dismissed, or when another cohort is written into a full table; a failure or a
cancel overwrites the record; a new seat or another capacity changes the tally
of the entry.  Each way is told from the call and the state before it.
-/

namespace Btcr2Aggregation

open InsertionMap

section Calls

/-! ## Calls -/

/-- A call, with the monitor and the session as they were. -/
structure MonitorCall where
  monitor : Monitor
  session : MonitorSession
  event : MonitorEvent

def RunnerNotice.cohortId : RunnerNotice → CohortId
  | .optInReceived cohortId _ _ _ => cohortId
  | .participantAccepted cohortId _ => cohortId
  | .keygenComplete cohortId _ => cohortId
  | .updateReceived cohortId _ => cohortId
  | .validationReceived cohortId _ _ => cohortId
  | .messageRejected cohortId _ _ _ => cohortId
  | .signingStarted cohortId => cohortId
  | .nonceReceived cohortId _ => cohortId
  | .fallbackStarted cohortId => cohortId
  | .signingComplete cohortId _ => cohortId
  | .cohortFailed cohortId _ => cohortId

/-- A member that was not seated and is then. -/
def MemberFold.Seats (fold : MemberFold) (known : Option MemberSeat) : Prop :=
  known.map MemberSeat.status ≠ some .seated ∧
    (fold.seatAfter known).status = .seated

instance (fold : MemberFold) (known : Option MemberSeat) :
    Decidable (fold.Seats known) :=
  inferInstanceAs (Decidable (_ ∧ _))

namespace MonitorCall

/-- The cohort whose entry is refreshed, with the capacity of the session. -/
def recounts? (call : MonitorCall) : Option CohortId :=
  match call.event with
  | .notice (.signingComplete _ _) => none
  | .notice (.cohortFailed _ _) => none
  | .notice notice => some notice.cohortId
  | .noteCanceled cohortId =>
      if (call.monitor.ended.lookup cohortId).map EndedRecord.chip =
          some .canceled then
        none
      else
        some cohortId
  | _ => none

/-- The cohort whose entry is refreshed. -/
def touches? (call : MonitorCall) : Option CohortId :=
  match call.event with
  | .noteOperatorAction cohortId _ => some cohortId
  | _ => call.recounts?

/-- A dismissal that clears the record of the cohort with its entry. -/
def Dismisses (call : MonitorCall) (cohortId : CohortId) : Prop :=
  call.event = .dismissEnded cohortId ∧ cohortId ∈ call.monitor.ended ∧
    ((call.session.lookup cohortId).map SessionSeats.phase).any
        (fun phase => phase ∈ displayPhases) =
      false

/-- The entry of the cohort goes. -/
def LosesEntry (call : MonitorCall) (cohortId : CohortId) : Prop :=
  call.Dismisses cohortId ∨
    ∃ touched ∈ call.touches?,
      PushesOut maxMonitored call.monitor.entries touched cohortId

/-- A failure or a cancel of the cohort. -/
def Overwrites (call : MonitorCall) (cohortId : CohortId) : Prop :=
  match call.event with
  | .notice (.cohortFailed other _) => other = cohortId
  | .frame (.failed other _) => other = cohortId
  | .noteCanceled other => other = cohortId
  | _ => False

/-- The record of the cohort goes, or another takes its place. -/
def LosesRecord (call : MonitorCall) (cohortId : CohortId) : Prop :=
  call.Dismisses cohortId ∨ call.Overwrites cohortId ∨
    ∃ filed ∈ call.event.files?,
      PushesOut maxEnded call.monitor.ended filed cohortId

/-- The entry of the cohort gains a seated member or another capacity. -/
def Reseats (call : MonitorCall) (cohortId : CohortId) : Prop :=
  (∃ fold ∈ call.event.memberFold?,
      fold.1 = cohortId ∧
        fold.2.2.Seats ((call.monitor.entryFor cohortId).seat? fold.2.1)) ∨
    call.recounts? = some cohortId ∧
      ∃ seats ∈ call.session.lookup cohortId,
        seats.minParticipants ≠ (call.monitor.entryFor cohortId).capacity

variable (call : MonitorCall) (cohortId : CohortId)

instance : Decidable (call.Dismisses cohortId) :=
  inferInstanceAs (Decidable (_ ∧ _ ∧ _))

instance : Decidable (call.LosesEntry cohortId) :=
  inferInstanceAs (Decidable (_ ∨ ∃ _ ∈ _, _))

instance : Decidable (call.Overwrites cohortId) := by
  unfold Overwrites
  split <;> infer_instance

instance : Decidable (call.LosesRecord cohortId) :=
  inferInstanceAs (Decidable (_ ∨ _ ∨ ∃ _ ∈ _, _))

instance : Decidable (call.Reseats cohortId) :=
  inferInstanceAs (Decidable ((∃ _ ∈ _, _) ∨ _ ∧ ∃ _ ∈ _, _))

/-- The monitor once the call has run. -/
def after (call : MonitorCall) (now : Nat) : Monitor :=
  call.monitor.step call.session now call.event

end MonitorCall

end Calls

section Tables

/-! ## What stays where nothing is lost -/

/-- A seated member stays seated, whatever it is told. -/
theorem MemberFold.seated_seatAfter_iff
    {fold : MemberFold} {known : Option MemberSeat}
    (noSeat : ¬ fold.Seats known) :
    (fold.seatAfter known).status = .seated ↔
      known.map MemberSeat.status = some .seated := by
  constructor
  · intro seated
    by_contra before
    exact noSeat ⟨before, seated⟩
  · intro before
    obtain ⟨seat, rfl, seated⟩ := Option.map_eq_some_iff.mp before
    cases fold <;>
      simp [seatAfter, advance, Option.getD_some, seated, apply_ite]

namespace MonitorEntry

theorem seated_le_of_status
    {entry other : MonitorEntry}
    (status :
      ∀ did,
        (entry.seat? did).map MemberSeat.status = some .seated →
          (other.seat? did).map MemberSeat.status = some .seated) :
    entry.seated ≤ other.seated := by
  have counted :
      other.seated =
        ((other.members.entries.filter fun member =>
          member.2.status = .seated).map Sigma.fst).length := by
    rw [List.length_map, seated]
  rw [counted]
  apply seated_le
  intro did member held seated
  have before : (entry.seat? did).map MemberSeat.status = some .seated := by
    rw [seat?, held]
    exact congrArg some seated
  obtain ⟨seat, standing, same⟩ := Option.map_eq_some_iff.mp (status did before)
  obtain ⟨kept, found, rfl⟩ := Option.map_eq_some_iff.mp standing
  refine List.mem_map.mpr ⟨⟨did, kept⟩, List.mem_filter.mpr ⟨?_, ?_⟩, rfl⟩
  · exact AList.mem_lookup_iff.mp found
  · exact decide_eq_true same

/-- A fold that seats no one anew leaves the number of seats. -/
theorem Folds.seated
    {before after : MonitorEntry} {did : String} {fold : MemberFold}
    (folds : before.Folds after did fold)
    (noSeat : ¬ fold.Seats (before.seat? did)) :
    after.seated = before.seated := by
  have status (other : String) :
      (after.seat? other).map MemberSeat.status = some .seated ↔
        (before.seat? other).map MemberSeat.status = some .seated := by
    by_cases same : other = did
    · rw [same, folds.seat, Option.map_some, Option.some.injEq,
        MemberFold.seated_seatAfter_iff noSeat]
    · rw [seat?, seat?, folds.others other same]
  exact
    Nat.le_antisymm (seated_le_of_status fun other => (status other).mp)
      (seated_le_of_status fun other => (status other).mpr)

end MonitorEntry

/-- The record of the cohort bears the script-path tag. -/
def Monitor.Tagged (monitor : Monitor) (cohortId : CohortId) : Prop :=
  (monitor.ended.lookup cohortId).map EndedRecord.viaFallback = some true

/-- The seats and the capacity the fold itself has of a cohort. -/
def Monitor.tally (monitor : Monitor) (cohortId : CohortId) : Nat × Nat :=
  ((monitor.entryFor cohortId).seated, (monitor.entryFor cohortId).capacity)

/-- They are what is read once the session has let the cohort go. -/
theorem Monitor.snapshotSeats_of_gone
    {monitor : Monitor} {session : MonitorSession} {cohortId : CohortId}
    (gone : session.lookup cohortId = none) :
    monitor.snapshotSeats session cohortId = monitor.tally cohortId := by
  unfold snapshotSeats tally entryFor
  rw [gone]
  cases monitor.entries.lookup cohortId with
  | none => rfl
  | some entry => rfl

namespace MonitorCall

variable {call : MonitorCall} {cohortId : CohortId} {now : Nat}

/-- A record written for another cohort leaves this one. -/
theorem lookup_ended_of_kept
    (within : call.monitor.ended.size ≤ maxEnded)
    (kept : ¬ call.LosesRecord cohortId) {other : CohortId}
    (files : call.event.files? = some other) (different : cohortId ≠ other)
    (record : EndedRecord) :
    (call.monitor.ended.remember maxEnded other record).lookup cohortId =
      call.monitor.ended.lookup cohortId := by
  refine lookup_remember_of_kept record within different ?_
  intro pushed
  exact kept (Or.inr (Or.inr ⟨other, files, pushed⟩))

/-- A tagged record that is not lost stays tagged, but for a completion. -/
theorem tagged_after
    (within : call.monitor.ended.size ≤ maxEnded)
    (tagged : call.monitor.Tagged cohortId)
    (incomplete :
      ∀ scriptPath,
        call.event ≠ .notice (.signingComplete cohortId scriptPath))
    (kept : ¬ call.LosesRecord cohortId) :
    (call.after now).Tagged cohortId := by
  have others {other : CohortId} {record : EndedRecord}
      (files : call.event.files? = some other) (different : cohortId ≠ other) :
      ((call.monitor.ended.remember maxEnded other record).lookup cohortId).map
          EndedRecord.viaFallback =
        some true := by
    rw [lookup_ended_of_kept within kept files different]
    exact tagged
  have overwrites (overwrites : call.Overwrites cohortId) : False :=
    kept (Or.inr (Or.inl overwrites))
  have dismisses (dismisses : call.Dismisses cohortId) : False :=
    kept (Or.inl dismisses)
  have write := call.monitor.endedWrite_step call.session now call.event
  unfold Monitor.Tagged after
  obtain ⟨monitor, session, event⟩ := call
  generalize (monitor.step session now event).ended = ended at write
  cases write with
  | kept _ silent => exact tagged
  | alreadyCanceled other already => exact tagged
  | coSigned other scriptPath viaFallback source =>
      refine others rfl ?_
      rintro rfl
      exact incomplete scriptPath rfl
  | failed _ other reason source =>
      rcases source with ⟨told, rfl⟩ | ⟨told, rfl⟩
      · exact others rfl fun same => overwrites same.symm
      · exact others rfl fun same => overwrites same.symm
  | anchored other txid viaFallback source =>
      by_cases same : cohortId = other
      · subst same
        rw [lookup_remember_self (by decide), source]
        exact congrArg some (decide_eq_true tagged)
      · exact others rfl same
  | canceled other => exact others rfl fun same => overwrites same.symm
  | dismissed other record settled =>
      have different : cohortId ≠ other := by
        rintro rfl
        exact dismisses ⟨rfl, record, settled⟩
      rw [AList.lookup_erase_ne different]
      exact tagged

/-- What a call that does not lose the entry of a cohort leaves of it. -/
inductive EntryStays (call : MonitorCall) (cohortId : CohortId) :
    Option MonitorEntry → Prop
  | amended (change : MonitorEntry → MonitorEntry)
      (members : ∀ entry, (change entry).members = entry.members)
      (capacity : ∀ entry, (change entry).capacity = entry.capacity)
      (fellBack : ∀ entry, (change entry).fellBack = entry.fellBack) :
      EntryStays call cohortId
        ((call.monitor.entries.lookup cohortId).map change)
  | touched (entry : MonitorEntry)
      (fellBack :
        (call.monitor.entryFor cohortId).fellBack = true →
          entry.fellBack = true)
      (tally :
        ¬ call.Reseats cohortId →
          entry.seated = (call.monitor.entryFor cohortId).seated ∧
            entry.capacity = (call.monitor.entryFor cohortId).capacity) :
      EntryStays call cohortId (some entry)

theorem EntryStays.same :
    EntryStays call cohortId (call.monitor.entries.lookup cohortId) := by
  have unchanged :
      call.monitor.entries.lookup cohortId =
        (call.monitor.entries.lookup cohortId).map fun entry => entry := by
    simp
  rw [unchanged]
  exact .amended _ (fun _ => rfl) (fun _ => rfl) fun _ => rfl

theorem EntryStays.amend
    {change : MonitorEntry → MonitorEntry} (other : CohortId)
    (members : ∀ entry, (change entry).members = entry.members)
    (capacity : ∀ entry, (change entry).capacity = entry.capacity)
    (fellBack : ∀ entry, (change entry).fellBack = entry.fellBack) :
    EntryStays call cohortId
      ((call.monitor.amend other change).entries.lookup cohortId) := by
  by_cases here : cohortId = other
  · subst here
    rw [Monitor.amend, lookup_modify_self]
    exact .amended change members capacity fellBack
  · rw [Monitor.amend, lookup_modify_of_ne here]
    exact .same

/-- An entry written for another cohort leaves this one. -/
theorem lookup_entries_of_kept
    (within : call.monitor.entries.size ≤ maxMonitored)
    (kept : ¬ call.LosesEntry cohortId) {other : CohortId}
    (touches : call.touches? = some other) (different : cohortId ≠ other)
    (entry : MonitorEntry) :
    (call.monitor.entries.remember maxMonitored other entry).lookup cohortId =
      call.monitor.entries.lookup cohortId := by
  refine lookup_remember_of_kept entry within different ?_
  intro pushed
  exact kept (Or.inr ⟨other, touches, pushed⟩)

/-- With no other capacity in the session, the capacity stays. -/
theorem capacity_recounted
    (recounts : call.recounts? = some cohortId)
    (noSeat : ¬ call.Reseats cohortId) {entry : MonitorEntry}
    (capacity : entry.capacity = (call.monitor.entryFor cohortId).capacity) :
    (Monitor.snapshotCapacity call.session cohortId entry).capacity =
      (call.monitor.entryFor cohortId).capacity := by
  rw [Monitor.capacity_snapshotCapacity, capacity]
  cases found : call.session.lookup cohortId with
  | none => rfl
  | some seats =>
      by_contra other
      exact noSeat (Or.inr ⟨recounts, seats, found, other⟩)

theorem EntryStays.touch
    {other : CohortId} {change : MonitorEntry → MonitorEntry}
    (within : call.monitor.entries.size ≤ maxMonitored)
    (kept : ¬ call.LosesEntry cohortId)
    (recounts : call.recounts? = some other)
    (touches : call.touches? = some other)
    (fellBack :
      (call.monitor.entryFor other).fellBack = true →
        (change (call.monitor.entryFor other)).fellBack = true)
    (seated :
      ¬ call.Reseats other →
        (change (call.monitor.entryFor other)).seated =
          (call.monitor.entryFor other).seated)
    (capacity :
      (change (call.monitor.entryFor other)).capacity =
        (call.monitor.entryFor other).capacity) :
    EntryStays call cohortId
      ((call.monitor.touch call.session other change).entries.lookup
        cohortId) := by
  rw [Monitor.touch, Monitor.remember]
  by_cases here : cohortId = other
  · subst here
    rw [lookup_remember_self (by decide)]
    refine .touched _ ?_ ?_
    · intro marked
      rw [Monitor.fellBack_snapshotCapacity]
      exact fellBack marked
    · intro noSeat
      refine ⟨?_, capacity_recounted recounts noSeat capacity⟩
      rw [MonitorEntry.seated, Monitor.members_snapshotCapacity]
      exact seated noSeat
  · rw [lookup_entries_of_kept within kept touches here]
    exact .same

/-- A fold of one member. -/
theorem EntryStays.fold
    {other : CohortId} {did : String} {fold : MemberFold}
    {change : MonitorEntry → MonitorEntry}
    (within : call.monitor.entries.size ≤ maxMonitored)
    (kept : ¬ call.LosesEntry cohortId)
    (recounts : call.recounts? = some other)
    (touches : call.touches? = some other)
    (about : call.event.memberFold? = some (other, did, fold))
    (folds :
      (call.monitor.entryFor other).Folds
        (change (call.monitor.entryFor other)) did fold)
    (fellBack :
      (change (call.monitor.entryFor other)).fellBack =
        (call.monitor.entryFor other).fellBack) :
    EntryStays call cohortId
      ((call.monitor.touch call.session other change).entries.lookup
        cohortId) := by
  refine .touch within kept recounts touches ?_ ?_ folds.capacity
  · intro marked
    rw [fellBack]
    exact marked
  · intro noSeat
    apply folds.seated
    intro seats
    exact noSeat (Or.inl ⟨_, about, rfl, seats⟩)

theorem entryStays_onNotice
    {monitor : Monitor} {session : MonitorSession} (notice : RunnerNotice)
    (within : monitor.entries.size ≤ maxMonitored)
    (kept : ¬ LosesEntry ⟨monitor, session, .notice notice⟩ cohortId) :
    EntryStays ⟨monitor, session, .notice notice⟩ cohortId
      ((monitor.onNotice session now notice).entries.lookup cohortId) := by
  cases notice with
  | optInReceived other did participantPk communicationPk =>
      refine
        .fold within kept rfl rfl rfl
          (MonitorEntry.folds_optIn _ now did participantPk communicationPk) ?_
      unfold MonitorEntry.optIn
      split
      · rfl
      · simp [MonitorEntry.setMember]
  | participantAccepted other did =>
      refine
        .fold within kept rfl rfl rfl (MonitorEntry.folds_accept _ now did) ?_
      simp [MonitorEntry.accept, MonitorEntry.setMember]
  | updateReceived other did =>
      refine
        .fold within kept rfl rfl rfl (MonitorEntry.folds_submit _ now did) ?_
      simp [MonitorEntry.submit, MonitorEntry.setMember]
  | validationReceived other did approved =>
      refine
        .fold within kept rfl rfl ?_
          (MonitorEntry.folds_validate _ now did approved) ?_
      · cases approved <;> rfl
      · cases approved <;>
          simp [MonitorEntry.validate, MonitorEntry.setMember]
  | messageRejected other sender code reason =>
      refine
        .fold within kept rfl rfl rfl
          (MonitorEntry.folds_rejectMessage _ now sender code reason) ?_
      simp [MonitorEntry.rejectMessage, MonitorEntry.setMember]
  | nonceReceived other did =>
      refine
        .fold within kept rfl rfl rfl (MonitorEntry.folds_sendNonce _ now did) ?_
      simp [MonitorEntry.sendNonce, MonitorEntry.setMember]
  | keygenComplete other beaconAddress =>
      refine .touch within kept rfl rfl ?_ ?_ ?_
      · simp
      · simp [MonitorEntry.seated]
      · simp
  | signingStarted other =>
      refine .touch within kept rfl rfl ?_ ?_ ?_
      · simp
      · simp [MonitorEntry.seated]
      · simp
  | fallbackStarted other =>
      refine .touch within kept rfl rfl ?_ ?_ ?_
      · simp
      · simp [MonitorEntry.seated]
      · simp
  | signingComplete other scriptPath =>
      exact
        .amend other (fun _ => MonitorEntry.members_appendActivity _ _ _ _)
          (fun _ => MonitorEntry.capacity_appendActivity _ _ _ _)
          fun _ => MonitorEntry.fellBack_appendActivity _ _ _ _
  | cohortFailed other reason =>
      exact
        .amend other (fun _ => MonitorEntry.members_appendActivity _ _ _ _)
          (fun _ => MonitorEntry.capacity_appendActivity _ _ _ _)
          fun _ => MonitorEntry.fellBack_appendActivity _ _ _ _

theorem entryStays_onFrame
    {monitor : Monitor} {session : MonitorSession} (frame : AnchorFrame) :
    EntryStays ⟨monitor, session, .frame frame⟩ cohortId
      ((monitor.onFrame session now frame).entries.lookup cohortId) := by
  cases frame with
  | broadcast other txid =>
      exact
        .amend other (fun _ => MonitorEntry.members_appendActivity _ _ _ _)
          (fun _ => MonitorEntry.capacity_appendActivity _ _ _ _)
          fun _ => MonitorEntry.fellBack_appendActivity _ _ _ _
  | failed other reason =>
      exact
        .amend other (fun _ => MonitorEntry.members_appendActivity _ _ _ _)
          (fun _ => MonitorEntry.capacity_appendActivity _ _ _ _)
          fun _ => MonitorEntry.fellBack_appendActivity _ _ _ _
  | anchored other txid confirmed =>
      cases confirmed with
      | false => exact .same
      | true =>
          exact
            .amend other (fun _ => MonitorEntry.members_appendActivity _ _ _ _)
              (fun _ => MonitorEntry.capacity_appendActivity _ _ _ _)
              fun _ => MonitorEntry.fellBack_appendActivity _ _ _ _

/-- An operator's line refreshes the entry of its cohort, or repeats the last
one. -/
theorem entryStays_operatorAction
    (within : call.monitor.entries.size ≤ maxMonitored)
    (kept : ¬ call.LosesEntry cohortId) {other : CohortId}
    (touches : call.touches? = some other) (text : String) :
    EntryStays call cohortId
      ((call.monitor.recordOperatorAction other now text).entries.lookup
        cohortId) := by
  rcases call.monitor.recordOperatorAction_cases now other text with
    repeated | written
  · rw [repeated]
    exact .same
  · rw [written, Monitor.remember]
    by_cases here : cohortId = other
    · subst here
      rw [lookup_remember_self (by decide)]
      refine .touched _ ?_ fun _ => ⟨?_, ?_⟩
      · simp
      · simp [MonitorEntry.seated]
      · simp
    · rw [lookup_entries_of_kept within kept touches here]
      exact .same

/-- A cancel writes its line, and then refreshes the entry once more. -/
theorem entryStays_cancel
    {monitor : Monitor} {session : MonitorSession} {other : CohortId}
    (within : monitor.entries.size ≤ maxMonitored)
    (kept : ¬ LosesEntry ⟨monitor, session, .noteCanceled other⟩ cohortId)
    (fresh :
      (monitor.ended.lookup other).map EndedRecord.chip ≠ some .canceled) :
    EntryStays ⟨monitor, session, .noteCanceled other⟩ cohortId
      (((monitor.recordOperatorAction other now canceledActivityText).touch
            session other id).entries.lookup cohortId) := by
  have recounts :
      recounts? ⟨monitor, session, .noteCanceled other⟩ = some other :=
    if_neg fresh
  have touches :
      touches? ⟨monitor, session, .noteCanceled other⟩ = some other :=
    recounts
  rcases monitor.recordOperatorAction_cases now other canceledActivityText with
    repeated | written
  · rw [repeated]
    exact .touch within kept recounts touches id (fun _ => rfl) rfl
  · rw [written, Monitor.touch, Monitor.entryFor_remember, Monitor.remember,
      Monitor.remember]
    by_cases here : cohortId = other
    · subst here
      rw [lookup_remember_self (by decide)]
      refine .touched _ ?_ fun noSeat => ⟨?_, ?_⟩
      · intro marked
        rw [Monitor.fellBack_snapshotCapacity]
        simpa using marked
      · rw [MonitorEntry.seated, Monitor.members_snapshotCapacity]
        simp [MonitorEntry.seated]
      · exact capacity_recounted recounts noSeat (by simp)
    · rw [lookup_remember_of_mem _
          (mem_of_lookup (lookup_remember_self (by decide) _ _ _))
          (size_remember_le _ _ _ _) here,
        lookup_entries_of_kept within kept touches here]
      exact .same

/-- Every call that does not lose the entry. -/
theorem entryStays_after
    (within : call.monitor.entries.size ≤ maxMonitored)
    (kept : ¬ call.LosesEntry cohortId) :
    EntryStays call cohortId ((call.after now).entries.lookup cohortId) := by
  obtain ⟨monitor, session, event⟩ := call
  unfold after
  cases event with
  | notice notice => exact entryStays_onNotice notice within kept
  | frame frame => exact entryStays_onFrame frame
  | noteEsploraObservation ok => exact .same
  | noteFunding other view =>
      have same : (monitor.noteFunding other view).entries = monitor.entries := by
        unfold Monitor.noteFunding
        split
        · rfl
        · split <;> rfl
      simp only [Monitor.step, same]
      exact .same
  | noteCanceled other =>
      simp only [Monitor.step, Monitor.noteCanceled]
      split
      · exact .same
      · next fresh => exact entryStays_cancel within kept fresh
  | noteOperatorAction other text =>
      exact entryStays_operatorAction within kept rfl text
  | noteServiceAction text =>
      simp only [Monitor.step]
      rw [Monitor.recordServiceAction_eq]
      exact .same
  | dismissEnded other =>
      simp only [Monitor.step, Monitor.dismissEnded]
      split
      · exact .same
      · next record =>
          split
          · exact .same
          · next settled =>
              rw [Monitor.recordServiceAction_eq]
              have different : cohortId ≠ other := by
                rintro rfl
                exact
                  kept
                    (Or.inl
                      ⟨rfl, not_not.mp record, by simpa using settled⟩)
              dsimp only
              rw [AList.lookup_erase_ne different]
              exact .same

/-- The mark of a fallback stays on an entry that is not lost. -/
theorem marked_after
    (within : call.monitor.entries.size ≤ maxMonitored)
    (marked : call.monitor.MarkedFellBack cohortId)
    (kept : ¬ call.LosesEntry cohortId) :
    (call.after now).MarkedFellBack cohortId := by
  obtain ⟨entry, found, fellBack⟩ := Option.map_eq_some_iff.mp marked
  have stays :
      EntryStays call cohortId ((call.after now).entries.lookup cohortId) :=
    entryStays_after within kept
  unfold Monitor.MarkedFellBack
  generalize (call.after now).entries.lookup cohortId = left at stays ⊢
  cases stays with
  | amended change _ _ keeps =>
      rw [found, Option.map_some, Option.map_some, keeps, fellBack]
  | touched written keeps _ =>
      rw [Option.map_some]
      refine congrArg some (keeps ?_)
      rw [Monitor.entryFor, found]
      exact fellBack

theorem marked_started
    (started : call.event = .notice (.fallbackStarted cohortId)) :
    (call.after now).MarkedFellBack cohortId := by
  unfold Monitor.MarkedFellBack after
  rw [started]
  simp only [Monitor.step, Monitor.onNotice, Monitor.touch, Monitor.remember]
  rw [lookup_remember_self (by decide), Option.map_some,
    Monitor.fellBack_snapshotCapacity, MonitorEntry.fellBack_appendActivity]

/-- The tally of an entry that is neither lost nor reseated stays. -/
theorem tally_after
    (within : call.monitor.entries.size ≤ maxMonitored)
    (kept : ¬ call.LosesEntry cohortId) (noSeat : ¬ call.Reseats cohortId) :
    (call.after now).tally cohortId = call.monitor.tally cohortId := by
  have stays :
      EntryStays call cohortId ((call.after now).entries.lookup cohortId) :=
    entryStays_after within kept
  unfold Monitor.tally Monitor.entryFor at *
  generalize (call.after now).entries.lookup cohortId = left at stays ⊢
  cases stays with
  | amended change members capacity _ =>
      cases call.monitor.entries.lookup cohortId with
      | none => rfl
      | some entry =>
          simp only [Option.map_some, Option.getD_some, MonitorEntry.seated,
            members, capacity]
  | touched written _ tally =>
      obtain ⟨seated, capacity⟩ := tally noSeat
      exact Prod.ext seated capacity

theorem size_entries_after
    (within : call.monitor.entries.size ≤ maxMonitored) :
    (call.after now).entries.size ≤ maxMonitored := by
  obtain ⟨monitor, session, event⟩ := call
  have amended (other : CohortId) (change : MonitorEntry → MonitorEntry) :
      (monitor.amend other change).entries.size ≤ maxMonitored := by
    rw [Monitor.amend, size_modify]
    exact within
  have acted (other : CohortId) (text : String) :
      (monitor.recordOperatorAction other now text).entries.size ≤
        maxMonitored := by
    rcases monitor.recordOperatorAction_cases now other text with
      repeated | written
    · rw [repeated]
      exact within
    · rw [written]
      exact size_remember_le _ _ _ _
  unfold after
  cases event with
  | notice notice =>
      cases notice with
      | signingComplete other scriptPath => exact amended other _
      | cohortFailed other reason => exact amended other _
      | _ => exact size_remember_le _ _ _ _
  | frame frame =>
      cases frame with
      | broadcast other txid => exact amended other _
      | failed other reason => exact amended other _
      | anchored other txid confirmed =>
          cases confirmed with
          | false => exact within
          | true => exact amended other _
  | noteEsploraObservation ok => exact within
  | noteFunding other view =>
      simp only [Monitor.step, Monitor.noteFunding]
      split
      · exact within
      · split <;> exact within
  | noteCanceled other =>
      simp only [Monitor.step, Monitor.noteCanceled]
      split
      · exact within
      · exact size_remember_le _ _ _ _
  | noteOperatorAction other text => exact acted other text
  | noteServiceAction text =>
      simp only [Monitor.step]
      rw [Monitor.recordServiceAction_eq]
      exact within
  | dismissEnded other =>
      simp only [Monitor.step, Monitor.dismissEnded]
      split
      · exact within
      · split
        · exact within
        · rw [Monitor.recordServiceAction_eq]
          exact Nat.le_trans (size_erase_le _ _) within

end MonitorCall

end Tables

section Logs

/-! ## What a log of calls keeps

A log has its newest call first. -/

/-- The path of a completion of the cohort. -/
def MonitorCall.completes?
    (call : MonitorCall) (cohortId : CohortId) : Option Bool :=
  match call.event with
  | .notice (.signingComplete other scriptPath) =>
      if other = cohortId then some scriptPath else none
  | _ => none

/-- A fallback of the cohort began, and its entry was not lost since. -/
def markKept (cohortId : CohortId) : List MonitorCall → Bool
  | [] => false
  | call :: earlier =>
      decide (call.event = .notice (.fallbackStarted cohortId)) ||
        !decide (call.LosesEntry cohortId) && markKept cohortId earlier

/-- The cohort completed by the script path or with its mark kept, and its
record was not lost since. -/
def tagKept (cohortId : CohortId) : List MonitorCall → Bool
  | [] => false
  | call :: earlier =>
      match call.completes? cohortId with
      | some scriptPath => scriptPath || markKept cohortId earlier
      | none =>
          !decide (call.LosesRecord cohortId) && tagKept cohortId earlier

/-- The cohort completed with these seats in its entry, which was neither lost
nor reseated since. -/
def seatsKept (cohortId : CohortId) (seats : Nat × Nat) :
    List MonitorCall → Bool
  | [] => false
  | call :: earlier =>
      match call.completes? cohortId with
      | some _ => decide (call.monitor.tally cohortId = seats)
      | none =>
          !decide (call.LosesEntry cohortId) &&
            !decide (call.Reseats cohortId) && seatsKept cohortId seats earlier

/-- What a log keeps, the monitor it led to has. -/
structure Logged (monitor : Monitor) (log : List MonitorCall) : Prop where
  ended : monitor.ended.size ≤ maxEnded
  entries : monitor.entries.size ≤ maxMonitored
  marks :
    ∀ cohortId, markKept cohortId log = true → monitor.MarkedFellBack cohortId
  tags : ∀ cohortId, tagKept cohortId log = true → monitor.Tagged cohortId
  seats :
    ∀ cohortId seats,
      seatsKept cohortId seats log = true → monitor.tally cohortId = seats

namespace MonitorCall

variable {call : MonitorCall} {cohortId : CohortId} {now : Nat}

theorem completes?_eq_some
    {scriptPath : Bool} (completes : call.completes? cohortId = some scriptPath) :
    call.event = .notice (.signingComplete cohortId scriptPath) := by
  unfold completes? at completes
  split at completes
  · next other path event =>
      split at completes
      · next same =>
          cases completes
          rw [event, same]
      · cases completes
  · cases completes

theorem event_ne_of_completes?
    (incomplete : call.completes? cohortId = none) (scriptPath : Bool) :
    call.event ≠ .notice (.signingComplete cohortId scriptPath) := by
  intro event
  unfold completes? at incomplete
  rw [event] at incomplete
  simp at incomplete

/-- A completion by the script path, or of a marked entry, tags the record. -/
theorem tagged_completed
    {scriptPath : Bool}
    (completes : call.completes? cohortId = some scriptPath)
    (fellBack :
      scriptPath = true ∨ call.monitor.MarkedFellBack cohortId) :
    (call.after now).Tagged cohortId := by
  have event := completes?_eq_some completes
  have viaFallback :
      (scriptPath ||
          decide
            ((call.monitor.entries.lookup cohortId).map MonitorEntry.fellBack =
              some true)) =
        true := by
    rw [Bool.or_eq_true, decide_eq_true_eq]
    exact fellBack
  unfold Monitor.Tagged after
  rw [event]
  simp only [Monitor.step, Monitor.onNotice, Monitor.onSigningComplete,
    Monitor.rememberEnded]
  rw [lookup_remember_self (by decide)]
  exact congrArg some viaFallback

/-- A completion leaves the tally. -/
theorem tally_completed
    {scriptPath : Bool}
    (completes : call.completes? cohortId = some scriptPath)
    (within : call.monitor.entries.size ≤ maxMonitored) :
    (call.after now).tally cohortId = call.monitor.tally cohortId := by
  have event := completes?_eq_some completes
  apply tally_after within
  · rintro (⟨dismissed, -⟩ | ⟨touched, touches, -⟩)
    · rw [event] at dismissed
      cases dismissed
    · simp [touches?, recounts?, event] at touches
  · rintro (⟨fold, folds, -⟩ | ⟨recounts, -⟩)
    · simp [MonitorEvent.memberFold?, event] at folds
    · simp [recounts?, event] at recounts

end MonitorCall

theorem Logged.created (mode : ServiceMode) : Logged (.created mode) [] where
  ended := Nat.zero_le maxEnded
  entries := Nat.zero_le maxMonitored
  marks := by
    intro cohortId kept
    cases kept
  tags := by
    intro cohortId kept
    cases kept
  seats := by
    intro cohortId seats kept
    cases kept

/-- One more call. -/
theorem Logged.call
    (call : MonitorCall) {log : List MonitorCall}
    (logged : Logged call.monitor log) (now : Nat) :
    Logged (call.after now) (call :: log) where
  ended := Monitor.size_ended_step logged.ended call.event
  entries := MonitorCall.size_entries_after logged.entries
  marks := by
    intro cohortId kept
    rw [markKept, Bool.or_eq_true, Bool.and_eq_true] at kept
    rcases kept with started | ⟨entry, before⟩
    · exact MonitorCall.marked_started (of_decide_eq_true started)
    · refine
        MonitorCall.marked_after logged.entries (logged.marks cohortId before) ?_
      simpa using entry
  tags := by
    intro cohortId kept
    rw [tagKept] at kept
    cases completes : call.completes? cohortId with
    | some scriptPath =>
        simp only [completes, Bool.or_eq_true] at kept
        exact
          MonitorCall.tagged_completed completes
            (kept.imp_right (logged.marks cohortId))
    | none =>
        simp only [completes, Bool.and_eq_true] at kept
        refine
          MonitorCall.tagged_after logged.ended (logged.tags cohortId kept.2)
            (MonitorCall.event_ne_of_completes? completes) ?_
        simpa using kept.1
  seats := by
    intro cohortId seats kept
    rw [seatsKept] at kept
    cases completes : call.completes? cohortId with
    | some scriptPath =>
        simp only [completes, decide_eq_true_eq] at kept
        rw [MonitorCall.tally_completed completes logged.entries]
        exact kept
    | none =>
        simp only [completes, Bool.and_eq_true] at kept
        obtain ⟨⟨entry, noSeat⟩, before⟩ := kept
        rw [MonitorCall.tally_after logged.entries (by simpa using entry)
          (by simpa using noSeat)]
        exact logged.seats cohortId seats before

end Logs

end Btcr2Aggregation
