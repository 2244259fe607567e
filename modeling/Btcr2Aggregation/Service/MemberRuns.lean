import Btcr2Aggregation.Service.MemberRows

/-!
# The member rows over whole runs

Which steps keep the rows honest, one step at a time, and from that which runs
show honest rows throughout.
-/

namespace Btcr2Aggregation

open InsertionMap

section Session

/-! ## What the session does to a cohort -/

/-- What a live cohort is when the monitor is told. -/
def takesCohort
    (raw : Option String) (event : MonitorEvent) (cohortId : CohortId)
    (cohort : LiveCohort) : LiveCohort :=
  match event, raw with
  | .notice (.participantAccepted other did), _ =>
      if cohortId = other then
        { cohort with participants := cohort.participants ++ [did] }
      else
        cohort
  | .notice (.updateReceived other did), some body =>
      if cohortId = other then
        { cohort with pendingUpdates := cohort.pendingUpdates.set did body }
      else
        cohort
  | _, _ => cohort

theorem lookup_sessionTakes
    (session : CohortSession) (raw : Option String) (event : MonitorEvent)
    (cohortId : CohortId) :
    (sessionTakes session raw event).lookup cohortId =
      (session.lookup cohortId).map (takesCohort raw event cohortId) := by
  have same :
      session.lookup cohortId =
        (session.lookup cohortId).map fun cohort => cohort := by
    simp
  unfold sessionTakes takesCohort
  split
  · rw [lookup_modify]
  · cases raw with
    | none => exact same
    | some body => rw [lookup_modify]
  · next noAccept noUpdate =>
      split
      · next here => exact absurd rfl (noAccept _ _)
      · next here => exact absurd rfl (noUpdate _ _)
      · exact same

theorem minParticipants_takesCohort
    (raw : Option String) (event : MonitorEvent) (cohortId : CohortId)
    (cohort : LiveCohort) :
    (takesCohort raw event cohortId cohort).minParticipants =
      cohort.minParticipants := by
  unfold takesCohort
  split
  · split <;> rfl
  · split <;> rfl
  · rfl

theorem participants_takesCohort
    (raw : Option String) (event : MonitorEvent) (cohortId : CohortId)
    (cohort : LiveCohort) :
    (takesCohort raw event cohortId cohort).participants =
      cohort.participants ++ acceptedNames (acceptedBy event) cohortId := by
  unfold takesCohort
  split
  · next other did =>
      by_cases same : cohortId = other
      · simp [same, acceptedBy, acceptedNames]
      · simp [same, Ne.symm same, acceptedBy, acceptedNames]
  · split <;> simp [acceptedBy, acceptedNames]
  · next noAccept _ =>
      have nothing : acceptedBy event = [] := by
        unfold acceptedBy
        split
        · exact absurd rfl (noAccept _ _)
        · rfl
      simp [nothing, acceptedNames]

theorem mem_pendingUpdates_takesCohort
    {raw : Option String} {event : MonitorEvent} {cohortId : CohortId}
    {cohort : LiveCohort} {did : String} :
    did ∈ (takesCohort raw event cohortId cohort).pendingUpdates ↔
      did ∈ cohort.pendingUpdates ∨
        (cohortId, did) ∈ updatedBy event ∧ raw.isSome := by
  unfold takesCohort
  split
  · split <;> simp [updatedBy]
  · next other name body =>
      by_cases same : cohortId = other
      · simp [same, updatedBy, or_comm]
      · simp [same, updatedBy]
  · next _ noUpdate =>
      cases raw with
      | none => simp
      | some body =>
          have nothing : updatedBy event = [] := by
            unfold updatedBy
            split
            · exact absurd rfl (noUpdate _ _ body rfl)
            · rfl
          simp [nothing]

end Session

section Facts

/-! ## What an event adds -/

theorem acceptedBy_of_memberFold
    {event : MonitorEvent} {cohortId : CohortId} {did : String}
    {fold : MemberFold}
    (about : event.memberFold? = some (cohortId, did, fold)) :
    acceptedBy event = if fold = .accept then [(cohortId, did)] else [] := by
  unfold MonitorEvent.memberFold? at about
  split at about <;> cases about <;> rfl

theorem updatedBy_of_memberFold
    {event : MonitorEvent} {cohortId : CohortId} {did : String}
    {fold : MemberFold}
    (about : event.memberFold? = some (cohortId, did, fold)) :
    updatedBy event = if fold = .submit then [(cohortId, did)] else [] := by
  unfold MonitorEvent.memberFold? at about
  split at about <;> cases about <;> rfl

theorem acceptedBy_of_noFold
    {event : MonitorEvent} (noFold : event.memberFold? = none) :
    acceptedBy event = [] := by
  unfold acceptedBy
  split
  · cases noFold
  · rfl

theorem updatedBy_of_noFold
    {event : MonitorEvent} (noFold : event.memberFold? = none) :
    updatedBy event = [] := by
  unfold updatedBy
  split
  · cases noFold
  · rfl

theorem MemberFacts.eq_of_iff
    {facts other : MemberFacts}
    (accepted : facts.accepted ↔ other.accepted)
    (known : facts.known ↔ other.known) (held : facts.held ↔ other.held)
    (updated : facts.updated ↔ other.updated)
    (furthest : facts.furthest = other.furthest) :
    facts = other := by
  obtain ⟨_, _, _, _, _⟩ := facts
  obtain ⟨_, _, _, _, _⟩ := other
  simp only [MemberFacts.mk.injEq]
  exact
    ⟨propext accepted, propext known, propext held, propext updated, furthest⟩

variable
  {state : MemberState} {event : MonitorEvent} {now : Nat}
  {raw : Option String} {cohortId : CohortId}

theorem known_told_iff
    (did : String)
    (capacity :
      state.session.lookup cohortId = none →
        ((memberStep state (.told event now raw)).monitor.entryFor
            cohortId).capacity =
          (state.monitor.entryFor cohortId).capacity) :
    ((memberStep state (.told event now raw)).facts cohortId did).known ↔
      (state.facts cohortId did).known := by
  have lookup := lookup_sessionTakes state.session raw event cohortId
  have session :
      (memberStep state (.told event now raw)).session =
        sessionTakes state.session raw event :=
    rfl
  simp only [MemberState.facts, session, lookup]
  cases live : state.session.lookup cohortId with
  | some cohort => simp
  | none => simp [capacity live]

theorem held_told_iff (did : String) :
    ((memberStep state (.told event now raw)).facts cohortId did).held ↔
      (state.facts cohortId did).held ∨
        (cohortId, did) ∈ updatedBy event ∧
          raw.isSome ∧ (state.session.lookup cohortId).isSome := by
  have lookup := lookup_sessionTakes state.session raw event cohortId
  have session :
      (memberStep state (.told event now raw)).session =
        sessionTakes state.session raw event :=
    rfl
  simp only [MemberState.facts, session, lookup]
  cases live : state.session.lookup cohortId with
  | some cohort => simp [mem_pendingUpdates_takesCohort]
  | none => simp

/-- What is so of the DID an event folds. -/
theorem facts_told_of_fold
    {did : String} {fold : MemberFold} {seat : MemberSeat}
    (about : event.memberFold? = some (cohortId, did, fold))
    (capacity :
      state.session.lookup cohortId = none →
        ((memberStep state (.told event now raw)).monitor.entryFor
            cohortId).capacity =
          (state.monitor.entryFor cohortId).capacity)
    (shown :
      ((memberStep state (.told event now raw)).monitor.entryFor
          cohortId).seat? did =
        some seat) :
    (memberStep state (.told event now raw)).facts cohortId did =
      (state.facts cohortId did).after
        (raw.isSome ∧ (state.session.lookup cohortId).isSome) fold
        seat.round.rank := by
  refine
    MemberFacts.eq_of_iff ?_ (known_told_iff did capacity)
      ((held_told_iff did).trans ?_) ?_ ?_
  · change (cohortId, did) ∈ state.accepted ++ acceptedBy event ↔ _
    rw [List.mem_append, acceptedBy_of_memberFold about]
    by_cases accepts : fold = .accept
    · simp [MemberFacts.after, MemberState.facts, accepts]
    · simp [MemberFacts.after, MemberState.facts, accepts]
  · rw [updatedBy_of_memberFold about]
    by_cases submits : fold = .submit
    · simp [MemberFacts.after, submits]
    · simp [MemberFacts.after, submits]
  · change (cohortId, did) ∈ state.updated ++ updatedBy event ↔ _
    rw [List.mem_append, updatedBy_of_memberFold about]
    by_cases submits : fold = .submit
    · simp [MemberFacts.after, MemberState.facts, submits]
    · simp [MemberFacts.after, MemberState.facts, submits]
  · have rank :
        shownRank (memberStep state (.told event now raw)).monitor cohortId did =
          seat.round.rank := by
      rw [shownRank, shown]
    exact congrArg (max (state.furthest cohortId did)) rank

/-- Nothing is added to what is so of a DID that an event is not about. -/
theorem facts_told_of_not_about
    {did : String}
    (accepted : (cohortId, did) ∉ acceptedBy event)
    (updated : (cohortId, did) ∉ updatedBy event)
    (capacity :
      state.session.lookup cohortId = none →
        ((memberStep state (.told event now raw)).monitor.entryFor
            cohortId).capacity =
          (state.monitor.entryFor cohortId).capacity)
    (shown :
      shownRank (memberStep state (.told event now raw)).monitor cohortId did ≤
        state.furthest cohortId did) :
    (memberStep state (.told event now raw)).facts cohortId did =
      state.facts cohortId did := by
  refine
    MemberFacts.eq_of_iff ?_ (known_told_iff did capacity)
      ((held_told_iff did).trans ?_) ?_ ?_
  · change (cohortId, did) ∈ state.accepted ++ acceptedBy event ↔ _
    rw [List.mem_append, or_iff_left accepted]
    rfl
  · exact or_iff_left fun both => updated both.1
  · change (cohortId, did) ∈ state.updated ++ updatedBy event ↔ _
    rw [List.mem_append, or_iff_left updated]
    rfl
  · exact Nat.max_eq_left shown

end Facts

section Entries

/-! ## The entries after an event -/

variable
  {state : MemberState} {event : MonitorEvent} {now : Nat}
  {raw : Option String}

/-- The capacity in an entry that was written, for a cohort that is gone. -/
theorem capacity_snapshotCapacity_of_gone
    {session : MonitorSession} {cohortId : CohortId}
    (gone : session.lookup cohortId = none) (entry : MonitorEntry) :
    (Monitor.snapshotCapacity session cohortId entry).capacity =
      entry.capacity := by
  rw [Monitor.capacity_snapshotCapacity, gone]
  rfl

theorem capacity_snapshotCapacity_of_live
    {session : MonitorSession} {cohortId : CohortId} {seats : SessionSeats}
    (live : session.lookup cohortId = some seats) (entry : MonitorEntry) :
    (Monitor.snapshotCapacity session cohortId entry).capacity =
      seats.minParticipants := by
  rw [Monitor.capacity_snapshotCapacity, live]
  rfl

theorem gone_told
    {cohortId : CohortId}
    (gone : state.session.lookup cohortId = none) :
    (sessionSeats (sessionTakes state.session raw event)).lookup cohortId =
      none := by
  rw [lookup_sessionSeats, lookup_sessionTakes, gone]
  rfl

theorem live_told
    {cohortId : CohortId} {cohort : LiveCohort}
    (live : state.session.lookup cohortId = some cohort) :
    (sessionSeats (sessionTakes state.session raw event)).lookup cohortId =
      some (takesCohort raw event cohortId cohort).seats := by
  rw [lookup_sessionSeats, lookup_sessionTakes, live]
  rfl

/-- The capacity of an entry after an event was there before, or is the live
cohort's. -/
theorem capacity_told
    {cohortId : CohortId} {entry : MonitorEntry}
    (after :
      (memberStep state (.told event now raw)).monitor.entries.lookup cohortId =
        some entry) :
    entry.capacity = (state.monitor.entryFor cohortId).capacity ∨
      ∃ cohort,
        state.session.lookup cohortId = some cohort ∧
          entry.capacity = cohort.minParticipants := by
  have taken (changed : MonitorEntry) :
      (Monitor.snapshotCapacity
            (sessionSeats (sessionTakes state.session raw event)) cohortId
            changed).capacity =
          changed.capacity ∨
        ∃ cohort,
          state.session.lookup cohortId = some cohort ∧
            (Monitor.snapshotCapacity
                (sessionSeats (sessionTakes state.session raw event)) cohortId
                changed).capacity =
              cohort.minParticipants := by
    cases live : state.session.lookup cohortId with
    | none =>
        exact Or.inl (capacity_snapshotCapacity_of_gone (gone_told live) changed)
    | some cohort =>
        refine Or.inr ⟨cohort, rfl, ?_⟩
        rw [capacity_snapshotCapacity_of_live (live_told live)]
        exact minParticipants_takesCohort raw event cohortId cohort
  have write :=
    state.monitor.entriesWrite_step
      (sessionSeats (sessionTakes state.session raw event)) now event
  cases write with
  | kept noFold same =>
      obtain ⟨before, found, -, capacity⟩ := same cohortId entry after
      rw [entryFor_of_lookup found]
      exact Or.inl capacity
  | refreshed other written noFold writes members capacity =>
      by_cases here : cohortId = other
      · subst here
        have same : entry = written :=
          Option.some.inj (after.symm.trans writes.here)
        rw [same]
        rcases capacity with snapshot | old
        · rw [snapshot]
          exact taken _
        · exact Or.inl old
      · rw [entryFor_of_lookup (writes.others cohortId entry here after)]
        exact Or.inl rfl
  | folded other name fold changed about folds writes =>
      by_cases here : cohortId = other
      · subst here
        have same := Option.some.inj (after.symm.trans writes.here)
        rw [same, ← folds.capacity]
        exact taken changed
      · rw [entryFor_of_lookup (writes.others cohortId entry here after)]
        exact Or.inl rfl

/-- Where a seat of an entry after an event comes from: it was there before, in
an entry of the same seat count unless the session still knows the cohort, or
the event folded it. -/
inductive SeatAfter
    (state : MemberState) (event : MonitorEvent) (now : Nat)
    (raw : Option String) (cohortId : CohortId) (did : String)
    (seat : MemberSeat) : Prop where
  | stays
      (noAccept : (cohortId, did) ∉ acceptedBy event)
      (noUpdate : (cohortId, did) ∉ updatedBy event)
      (before : (state.monitor.entryFor cohortId).seat? did = some seat)
      (capacity :
        state.session.lookup cohortId = none →
          ((memberStep state (.told event now raw)).monitor.entryFor
              cohortId).capacity =
            (state.monitor.entryFor cohortId).capacity)
  | folds (fold : MemberFold)
      (about : event.memberFold? = some (cohortId, did, fold))
      (seated :
        seat = fold.seatAfter ((state.monitor.entryFor cohortId).seat? did))
      (counted :
        ∀ cohort,
          state.session.lookup cohortId = some cohort →
            ((memberStep state (.told event now raw)).monitor.entryFor
                cohortId).capacity =
              cohort.minParticipants)

theorem notMem_acceptedBy
    {cohortId other : CohortId} {did name : String} {fold : MemberFold}
    (about : event.memberFold? = some (other, name, fold))
    (different : (cohortId, did) ≠ (other, name)) :
    (cohortId, did) ∉ acceptedBy event ∧ (cohortId, did) ∉ updatedBy event := by
  rw [acceptedBy_of_memberFold about, updatedBy_of_memberFold about]
  constructor
  · split
    · simpa using different
    · exact List.not_mem_nil
  · split
    · simpa using different
    · exact List.not_mem_nil

theorem notMem_of_noFold
    (noFold : event.memberFold? = none) (cohortId : CohortId) (did : String) :
    (cohortId, did) ∉ acceptedBy event ∧ (cohortId, did) ∉ updatedBy event := by
  rw [acceptedBy_of_noFold noFold, updatedBy_of_noFold noFold]
  exact ⟨List.not_mem_nil, List.not_mem_nil⟩

/-- An entry that is the same before and after an event. -/
theorem SeatAfter.of_lookup
    {cohortId : CohortId} {did : String} {seat : MemberSeat}
    {entry before : MonitorEntry}
    (about :
      (cohortId, did) ∉ acceptedBy event ∧ (cohortId, did) ∉ updatedBy event)
    (after :
      (memberStep state (.told event now raw)).monitor.entries.lookup cohortId =
        some entry)
    (found : state.monitor.entries.lookup cohortId = some before)
    (members : entry.members = before.members)
    (capacity : entry.capacity = before.capacity)
    (shown : entry.seat? did = some seat) :
    SeatAfter state event now raw cohortId did seat := by
  refine .stays about.1 about.2 ?_ ?_
  · rw [entryFor_of_lookup found, ← shown, MonitorEntry.seat?,
      MonitorEntry.seat?, members]
  · intro _
    rw [entryFor_of_lookup after, entryFor_of_lookup found, capacity]

theorem seatAfter_told
    {cohortId : CohortId} {did : String} {seat : MemberSeat}
    (shown :
      ((memberStep state (.told event now raw)).monitor.entryFor
          cohortId).seat? did =
        some seat) :
    SeatAfter state event now raw cohortId did seat := by
  obtain ⟨entry, member, after, held, rfl⟩ := exists_lookup_of_seat? shown
  rw [entryFor_of_lookup after] at shown
  have write :=
    state.monitor.entriesWrite_step
      (sessionSeats (sessionTakes state.session raw event)) now event
  cases write with
  | kept noFold same =>
      obtain ⟨before, found, members, capacity⟩ := same cohortId entry after
      exact
        .of_lookup (notMem_of_noFold noFold cohortId did) after found members
          capacity shown
  | refreshed other written noFold writes members capacity =>
      by_cases here : cohortId = other
      · subst here
        have same : entry = written :=
          Option.some.inj (after.symm.trans writes.here)
        subst same
        have about := notMem_of_noFold noFold cohortId did
        refine .stays about.1 about.2 ?_ ?_
        · rw [← shown, MonitorEntry.seat?, MonitorEntry.seat?, members]
        · intro gone
          rw [entryFor_of_lookup after]
          rcases capacity with snapshot | old
          · rw [snapshot, capacity_snapshotCapacity_of_gone (gone_told gone)]
          · exact old
      · exact
          .of_lookup (notMem_of_noFold noFold cohortId did) after
            (writes.others cohortId entry here after) rfl rfl shown
  | folded other name fold changed about folds writes =>
      by_cases here : cohortId = other
      · subst here
        have same :
            entry =
              Monitor.snapshotCapacity
                (sessionSeats (sessionTakes state.session raw event)) cohortId
                changed :=
          Option.some.inj (after.symm.trans writes.here)
        have capacity
            (gone : state.session.lookup cohortId = none) :
            ((memberStep state (.told event now raw)).monitor.entryFor
                cohortId).capacity =
              (state.monitor.entryFor cohortId).capacity := by
          rw [entryFor_of_lookup after, same,
            capacity_snapshotCapacity_of_gone (gone_told gone), folds.capacity]
        rw [same, MonitorEntry.seat?, Monitor.members_snapshotCapacity] at shown
        by_cases self : did = name
        · subst self
          refine .folds fold about ?_ ?_
          · exact Option.some.inj (shown.symm.trans folds.seat)
          · intro cohort live
            rw [entryFor_of_lookup after, same,
              capacity_snapshotCapacity_of_live (live_told live)]
            exact minParticipants_takesCohort raw event cohortId cohort
        · have different : (cohortId, did) ≠ (cohortId, name) :=
            fun pair => self (Prod.mk.inj pair).2
          have apart := notMem_acceptedBy about different
          refine .stays apart.1 apart.2 ?_ capacity
          rw [MonitorEntry.seat?, ← folds.others did self]
          exact shown
      · have different : (cohortId, did) ≠ (other, name) :=
          fun pair => here (Prod.mk.inj pair).1
        have apart := notMem_acceptedBy about different
        exact
          .of_lookup apart after (writes.others cohortId entry here after) rfl
            rfl shown

variable (state now raw) in
/-- The DID an event folds is shown afterwards as the fold says. -/
theorem seat?_told_of_fold
    {cohortId : CohortId} {did : String} {fold : MemberFold}
    (about : event.memberFold? = some (cohortId, did, fold)) :
    ((memberStep state (.told event now raw)).monitor.entryFor
        cohortId).seat? did =
      some (fold.seatAfter ((state.monitor.entryFor cohortId).seat? did)) ∧
    (state.session.lookup cohortId = none →
      ((memberStep state (.told event now raw)).monitor.entryFor
          cohortId).capacity =
        (state.monitor.entryFor cohortId).capacity) := by
  have write :=
    state.monitor.entriesWrite_step
      (sessionSeats (sessionTakes state.session raw event)) now event
  cases write with
  | kept noFold same =>
      rw [noFold] at about
      cases about
  | refreshed other written noFold writes members capacity =>
      rw [noFold] at about
      cases about
  | folded other name changedFold changed aboutOther folds writes =>
      rw [aboutOther] at about
      cases about
      have after :
          (memberStep state (.told event now raw)).monitor.entryFor cohortId =
            Monitor.snapshotCapacity
              (sessionSeats (sessionTakes state.session raw event)) cohortId
              changed :=
        entryFor_of_lookup writes.here
      rw [after]
      constructor
      · rw [MonitorEntry.seat?, Monitor.members_snapshotCapacity]
        exact folds.seat
      · intro gone
        rw [capacity_snapshotCapacity_of_gone (gone_told gone), folds.capacity]

end Entries

section Known

/-! ## What holds in every state, one step at a time -/

variable {state : MemberState}

/-- A grant is offered to a live cohort that has a seat left. -/
theorem room_of_admits
    {event : MonitorEvent} {now : Nat} {raw : Option String}
    (offered : memberAdmits state (.told event now raw)) {cohortId : CohortId}
    {did : String} (granted : (cohortId, did) ∈ acceptedBy event) :
    ∃ cohort,
      state.session.lookup cohortId = some cohort ∧
        cohort.participants.length < cohort.minParticipants ∧
          acceptedBy event = [(cohortId, did)] := by
  unfold acceptedBy at granted ⊢
  split at granted
  · next other name =>
      cases List.mem_singleton.mp granted
      obtain ⟨cohort, live, room⟩ := (Option.any_eq_true _ _).mp offered
      exact ⟨cohort, live, (of_decide_eq_true room).2, rfl⟩
  · cases granted

theorem seats_told
    (known : MembersKnown state) {event : MonitorEvent} {now : Nat}
    {raw : Option String}
    (offered : memberAdmits state (.told event now raw))
    {cohortId : CohortId} {minParticipants : Nat}
    (opened : state.opened.lookup cohortId = some minParticipants) :
    (acceptedNames (state.accepted ++ acceptedBy event) cohortId).length ≤
      minParticipants := by
  rw [acceptedNames_append, List.length_append]
  have before := known.seats cohortId minParticipants opened
  by_cases granted : ∃ did, (cohortId, did) ∈ acceptedBy event
  · obtain ⟨did, granted⟩ := granted
    obtain ⟨cohort, live, room, only⟩ := room_of_admits offered granted
    obtain ⟨count, same⟩ := known.live cohortId cohort live
    rw [opened] at count
    cases count
    rw [same] at room
    rw [only]
    have one : (acceptedNames [(cohortId, did)] cohortId).length = 1 := by
      simp [acceptedNames]
    omega
  · have nothing : acceptedNames (acceptedBy event) cohortId = [] := by
      refine List.eq_nil_iff_forall_not_mem.mpr fun did listed => granted ?_
      exact ⟨did, mem_acceptedNames.mp listed⟩
    rw [nothing]
    exact before

/-- An entry whose count was never taken is of a cohort that is gone: an event
that folds a member of a live cohort takes the count. -/
theorem uncounted_told
    (known : MembersKnown state) {event : MonitorEvent} {now : Nat}
    {raw : Option String} (offered : memberAdmits state (.told event now raw))
    {cohortId : CohortId} {entry : MonitorEntry} {did : String}
    {seat : MemberSeat}
    (after :
      (memberStep state (.told event now raw)).monitor.entries.lookup cohortId =
        some entry)
    (uncounted : entry.capacity = 0) (shown : entry.seat? did = some seat)
    (seated : seat.status = .seated)
    (accepted : (cohortId, did) ∈ state.accepted ++ acceptedBy event) :
    state.session.lookup cohortId = none := by
  by_contra stillLive
  obtain ⟨cohort, live⟩ := Option.ne_none_iff_exists'.mp stillLive
  have opened := (known.live cohortId cohort live).1
  have bound := seats_told known offered opened
  have some_accepted :
      0 < (acceptedNames (state.accepted ++ acceptedBy event)
        cohortId).length :=
    List.length_pos_of_mem (mem_acceptedNames.mpr accepted)
  have shownFor :
      ((memberStep state (.told event now raw)).monitor.entryFor
          cohortId).seat? did =
        some seat := by
    rw [entryFor_of_lookup after]
    exact shown
  cases seatAfter_told shownFor with
  | stays noAccept noUpdate before capacity =>
      have acceptedBefore :=
        (List.mem_append.mp accepted).resolve_right noAccept
      rcases capacity_told after with old | ⟨other, found, counted⟩
      · obtain ⟨entryBefore, member, found, held, same⟩ :=
          exists_lookup_of_seat? before
        rw [entryFor_of_lookup found] at old before
        have gone :=
          known.uncounted cohortId entryBefore did seat found
            (old.symm.trans uncounted) before seated acceptedBefore
        exact stillLive gone
      · rw [live] at found
        cases found
        omega
  | folds fold about seatIs counted =>
      have taken := counted cohort live
      rw [entryFor_of_lookup after] at taken
      omega

theorem membersKnown_told
    (known : MembersKnown state) {event : MonitorEvent} {now : Nat}
    {raw : Option String}
    (offered : memberAdmits state (.told event now raw)) :
    MembersKnown (memberStep state (.told event now raw)) := by
  have session (cohortId : CohortId) :
      (memberStep state (.told event now raw)).session.lookup cohortId =
        (state.session.lookup cohortId).map (takesCohort raw event cohortId) :=
    lookup_sessionTakes state.session raw event cohortId
  refine ⟨?_, ?_, ?_, ?_, ?_, ?_, ?_, ?_⟩
  · intro cohortId cohort live
    rw [session] at live
    obtain ⟨before, found, rfl⟩ := Option.map_eq_some_iff.mp live
    obtain ⟨opened, same⟩ := known.live cohortId before found
    rw [minParticipants_takesCohort, participants_takesCohort, same]
    exact ⟨opened, (acceptedNames_append _ _ _).symm⟩
  · intro cohortId did accepted
    rcases List.mem_append.mp accepted with before | granted
    · exact known.wasOpened cohortId did before
    · obtain ⟨cohort, live, -, -⟩ := room_of_admits offered granted
      exact mem_of_lookup (known.live cohortId cohort live).1
  · intro cohortId minParticipants opened
    exact seats_told known offered opened
  · intro cohortId entry after
    rcases capacity_told after with old | ⟨cohort, live, counted⟩
    · cases found : state.monitor.entries.lookup cohortId with
      | none =>
          left
          rw [old, Monitor.entryFor, found]
          rfl
      | some before =>
          rw [old, entryFor_of_lookup found]
          exact known.capacity cohortId before found
    · right
      rw [counted]
      exact (known.live cohortId cohort live).1
  · intro cohortId entry did seat after uncounted shown seated accepted
    have gone :=
      uncounted_told known offered after uncounted shown seated accepted
    rw [session, gone]
    rfl
  · intro cohortId cohort did live pending
    rw [session] at live
    obtain ⟨before, found, rfl⟩ := Option.map_eq_some_iff.mp live
    apply List.mem_append.mpr
    rcases mem_pendingUpdates_takesCohort.mp pending with old | new
    · exact Or.inl (known.held cohortId before did found old)
    · exact Or.inr new.1
  · intro cohortId did
    exact Nat.le_max_right _ _
  · intro cohortId did
    exact Nat.max_le.mpr ⟨known.bounded cohortId did, shownRank_le _ _ _⟩

theorem membersKnown_opens
    (known : MembersKnown state) {cohortId : CohortId}
    {minParticipants threshold : Nat} (fresh : cohortId ∉ state.opened) :
    MembersKnown (memberStep state (.opens cohortId minParticipants threshold)) := by
  have unaccepted (did : String) : (cohortId, did) ∉ state.accepted :=
    fun accepted => fresh (known.wasOpened cohortId did accepted)
  have nobody : acceptedNames state.accepted cohortId = [] :=
    List.eq_nil_iff_forall_not_mem.mpr fun did listed =>
      unaccepted did (mem_acceptedNames.mp listed)
  refine ⟨?_, ?_, ?_, ?_, ?_, ?_, known.ranks, known.bounded⟩
  · intro other cohort live
    simp only [memberStep] at live ⊢
    by_cases same : other = cohortId
    · subst same
      rw [AList.lookup_insert] at live
      cases live
      exact ⟨AList.lookup_insert _, nobody.symm⟩
    · rw [AList.lookup_insert_ne same] at live ⊢
      exact known.live other cohort live
  · intro other did accepted
    exact
      (AList.mem_insert _).mpr (Or.inr (known.wasOpened other did accepted))
  · intro other count opened
    simp only [memberStep] at opened
    by_cases same : other = cohortId
    · subst same
      change (acceptedNames state.accepted other).length ≤ count
      rw [nobody]
      exact Nat.zero_le count
    · rw [AList.lookup_insert_ne same] at opened
      exact known.seats other count opened
  · intro other entry found
    simp only [memberStep]
    rcases known.capacity other entry found with empty | opened
    · exact Or.inl empty
    · have different : other ≠ cohortId := by
        intro same
        rw [same] at opened
        exact fresh (mem_of_lookup opened)
      rw [AList.lookup_insert_ne different]
      exact Or.inr opened
  · intro other entry did seat found uncounted shown seated accepted
    have different : other ≠ cohortId := by
      intro same
      rw [same] at accepted
      exact unaccepted did accepted
    simp only [memberStep]
    rw [AList.lookup_insert_ne different]
    exact
      known.uncounted other entry did seat found uncounted shown seated accepted
  · intro other cohort did live pending
    simp only [memberStep] at live
    by_cases same : other = cohortId
    · subst same
      rw [AList.lookup_insert] at live
      cases live
      exact absurd pending (AList.notMem_empty _)
    · rw [AList.lookup_insert_ne same] at live
      exact known.held other cohort did live pending

/-- The session changes a live cohort, keeps its seats and adds no update. -/
theorem membersKnown_modify
    (known : MembersKnown state) {cohortId : CohortId}
    {change : LiveCohort → LiveCohort}
    (seats : ∀ cohort, (change cohort).minParticipants = cohort.minParticipants)
    (participants : ∀ cohort, (change cohort).participants = cohort.participants)
    (pending :
      ∀ cohort did,
        did ∈ (change cohort).pendingUpdates → did ∈ cohort.pendingUpdates) :
    MembersKnown
      { state with session := modify state.session cohortId change } := by
  refine ⟨?_, known.wasOpened, known.seats, known.capacity, ?_, ?_, known.ranks,
    known.bounded⟩
  · intro other cohort live
    simp only [lookup_modify] at live
    obtain ⟨before, found, rfl⟩ := Option.map_eq_some_iff.mp live
    have here := known.live other before found
    split
    · rw [seats, participants]
      exact here
    · exact here
  · intro other entry did seat found uncounted shown seated accepted
    simp only [lookup_modify]
    rw [known.uncounted other entry did seat found uncounted shown seated
      accepted]
    rfl
  · intro other cohort did live held
    simp only [lookup_modify] at live
    obtain ⟨before, found, rfl⟩ := Option.map_eq_some_iff.mp live
    split at held
    · exact known.held other before did found (pending before did held)
    · exact known.held other before did found held

theorem membersKnown_forgets
    (known : MembersKnown state) (cohortId : CohortId) :
    MembersKnown (memberStep state (.forgets cohortId)) := by
  refine ⟨?_, known.wasOpened, known.seats, known.capacity, ?_, ?_, known.ranks,
    known.bounded⟩
  · intro other cohort live
    exact known.live other cohort (lookup_of_lookup_erase live)
  · intro other entry did seat found uncounted shown seated accepted
    simp only [memberStep]
    by_cases same : other = cohortId
    · rw [same, AList.lookup_erase]
    · rw [AList.lookup_erase_ne same]
      exact
        known.uncounted other entry did seat found uncounted shown seated
          accepted
  · intro other cohort did live pending
    exact known.held other cohort did (lookup_of_lookup_erase live) pending

theorem membersKnown_step
    (known : MembersKnown state) (action : MemberAction)
    (offered : memberAdmits state action) :
    MembersKnown (memberStep state action) := by
  cases action with
  | opens cohortId minParticipants threshold =>
      exact membersKnown_opens known offered
  | moves cohortId phase =>
      exact
        membersKnown_modify known (fun _ => rfl) (fun _ => rfl)
          fun _ _ held => held
  | releases cohortId did =>
      exact
        membersKnown_modify known (fun _ => rfl) (fun _ => rfl)
          fun _ _ held => (AList.mem_erase.mp held).2
  | forgets cohortId => exact membersKnown_forgets known cohortId
  | told event now raw => exact membersKnown_told known offered

theorem membersKnown_always (mode : ServiceMode) :
    (memberRowsMachine mode).Always MembersKnown := by
  apply Machine.Always.of_inductive
  · exact
      ⟨nofun, nofun, nofun, nofun, nofun, nofun, fun _ _ => Nat.le_refl 0,
        fun _ _ => Nat.zero_le 4⟩
  · intro state action known offered
    exact membersKnown_step known action offered

end Known

section Exact

/-! ## Which steps keep the rows honest -/

variable {state : MemberState}

/-- The seats an event would file are within the capacity. -/
theorem snapshotSeats_told
    (known : MembersKnown state) (honest : SeatsHonest state)
    {event : MonitorEvent} {now : Nat} {raw : Option String}
    (offered : memberAdmits state (.told event now raw)) (filed : CohortId) :
    (state.monitor.snapshotSeats
        (sessionSeats (sessionTakes state.session raw event)) filed).1 ≤
      (state.monitor.snapshotSeats
        (sessionSeats (sessionTakes state.session raw event)) filed).2 := by
  unfold Monitor.snapshotSeats
  cases live : state.session.lookup filed with
  | some cohort =>
      rw [live_told live]
      have after :
          (memberStep state (.told event now raw)).session.lookup filed =
            some (takesCohort raw event filed cohort) := by
        exact (lookup_sessionTakes _ _ _ _).trans (by rw [live]; rfl)
      obtain ⟨opened, same⟩ := (membersKnown_told known offered).live _ _ after
      change (takesCohort raw event filed cohort).participants.length ≤ _
      rw [same]
      exact (membersKnown_told known offered).seats _ _ opened
  | none =>
      rw [gone_told live]
      cases found : state.monitor.entries.lookup filed with
      | none => exact Nat.le_refl 0
      | some entry =>
          have bound := seated_le_detailCapacity known honest found
          rw [live] at bound
          exact bound

/-- What an event files is within the capacity. -/
theorem ended_told
    (known : MembersKnown state) (honest : SeatsHonest state)
    {event : MonitorEvent} {now : Nat} {raw : Option String}
    (offered : memberAdmits state (.told event now raw)) (cohortId : CohortId)
    (record : EndedRecord)
    (found :
      (memberStep state (.told event now raw)).monitor.ended.lookup cohortId =
        some record) :
    record.seatsJoined ≤ record.capacity := by
  have kept
      (filed : CohortId) (written : EndedRecord)
      (seats :
        (written.seatsJoined, written.capacity) =
          state.monitor.snapshotSeats
            (sessionSeats (sessionTakes state.session raw event)) filed)
      (here :
        (state.monitor.ended.remember maxEnded filed written).lookup cohortId =
          some record) :
      record.seatsJoined ≤ record.capacity := by
    rcases lookup_remember_cases here with ⟨-, rfl⟩ | ⟨-, before⟩
    · have bound := snapshotSeats_told known honest offered filed
      rw [← seats] at bound
      exact bound
    · exact honest.ended cohortId record before
  have write :=
    state.monitor.endedWrite_step
      (sessionSeats (sessionTakes state.session raw event)) now event
  change
    (state.monitor.step (sessionSeats (sessionTakes state.session raw event)) now
        event).ended.lookup cohortId =
      some record at found
  generalize
    (state.monitor.step (sessionSeats (sessionTakes state.session raw event)) now
      event).ended = after at write found
  cases write with
  | kept _ silent => exact honest.ended cohortId record found
  | alreadyCanceled filed already => exact honest.ended cohortId record found
  | dismissed filed held settled =>
      exact honest.ended cohortId record (lookup_of_lookup_erase found)
  | coSigned filed scriptPath viaFallback tagged =>
      exact kept filed _ rfl found
  | failed _ filed reason source => exact kept filed _ rfl found
  | anchored filed txid viaFallback tagged => exact kept filed _ rfl found
  | canceled filed => exact kept filed _ rfl found

/-- The condition is exact for the member an event folds. -/
theorem seatHonest_told_iff
    (known : MembersKnown state) (honest : SeatsHonest state)
    {event : MonitorEvent} {now : Nat} {raw : Option String}
    (offered : memberAdmits state (.told event now raw)) {cohortId : CohortId}
    {did : String} {fold : MemberFold}
    (about : event.memberFold? = some (cohortId, did, fold)) :
    SeatHonest
        ((memberStep state (.told event now raw)).facts cohortId did)
        (fold.seatAfter ((state.monitor.entryFor cohortId).seat? did)) ↔
      FoldsHonestly (state.facts cohortId did)
        (raw.isSome ∧ (state.session.lookup cohortId).isSome) fold
        ((state.monitor.entryFor cohortId).seat? did) := by
  obtain ⟨shown, capacity⟩ := seat?_told_of_fold state now raw about
  rw [facts_told_of_fold about capacity shown]
  have held :
      (state.facts cohortId did).held → (state.facts cohortId did).updated := by
    intro pending
    obtain ⟨cohort, live, listed⟩ := (Option.any_eq_true _ _).mp pending
    exact known.held cohortId cohort did live (of_decide_eq_true listed)
  have live : fold = .accept → (state.facts cohortId did).known := by
    intro accepts
    have granted : (cohortId, did) ∈ acceptedBy event := by
      rw [acceptedBy_of_memberFold about, if_pos accepts]
      exact List.mem_singleton.mpr rfl
    obtain ⟨cohort, found, -⟩ := room_of_admits offered granted
    exact Or.inl (Option.isSome_iff_exists.mpr ⟨cohort, found⟩)
  cases before : (state.monitor.entryFor cohortId).seat? did with
  | none =>
      exact
        seatHonest_seatAfter_none_iff fold held (known.bounded cohortId did) live
  | some seat =>
      have rank := known.ranks cohortId did
      rw [shownRank, before] at rank
      exact
        seatHonest_seatAfter_some_iff fold
          (honest.seats cohortId did seat before) rank held live

theorem seatsHonest_told_iff
    (known : MembersKnown state) (honest : SeatsHonest state)
    {event : MonitorEvent} {now : Nat} {raw : Option String}
    (offered : memberAdmits state (.told event now raw)) :
    SeatsHonest (memberStep state (.told event now raw)) ↔
      StepsHonestly state (.told event now raw) := by
  constructor
  · intro after
    cases about : event.memberFold? with
    | none => simp only [StepsHonestly, about]
    | some folded =>
        obtain ⟨cohortId, did, fold⟩ := folded
        have shown := (seat?_told_of_fold state now raw about).1
        simp only [StepsHonestly, about]
        exact
          (seatHonest_told_iff known honest offered about).mp
            (after.seats cohortId did _ shown)
  · intro steps
    refine ⟨?_, ended_told known honest offered⟩
    intro cohortId did seat shown
    cases seatAfter_told shown with
    | stays noAccept noUpdate before capacity =>
        have rank :
            shownRank (memberStep state (.told event now raw)).monitor cohortId
                did ≤
              state.furthest cohortId did := by
          have old := known.ranks cohortId did
          rw [shownRank, before] at old
          rw [shownRank, shown]
          exact old
        rw [facts_told_of_not_about noAccept noUpdate capacity rank]
        exact honest.seats cohortId did seat before
    | folds fold about seated counted =>
        rw [seated]
        apply (seatHonest_told_iff known honest offered about).mpr
        simp only [StepsHonestly, about] at steps
        exact steps

/-- What the session alone knows of a seated member decides whether its row
stays honest once the session lets go. -/
theorem showsWithoutSession_iff
    {facts after : MemberFacts} {seat : MemberSeat}
    (honest : SeatHonest facts seat)
    (accepted : after.accepted ↔ facts.accepted)
    (known : seat.status = .seated → after.known)
    (released : ¬ after.held) (updated : after.updated ↔ facts.updated)
    (furthest : after.furthest = facts.furthest) :
    SeatHonest after seat ↔
      (seat.status = .seated → facts.held → seat.round.countsSubmitted) := by
  rw [seatHonest_iff, accepted, updated, furthest]
  have before := seatHonest_iff.mp honest
  constructor
  · intro now seated held
    have shown := (before.1 seated).2.2.mp (Or.inr held)
    exact ((now.1 seated).2.2.mpr shown).resolve_right released
  · intro counts
    refine ⟨fun seated => ⟨(before.1 seated).1, known seated, ?_⟩, before.2⟩
    rw [or_iff_left released, ← (before.1 seated).2.2]
    exact ⟨Or.inl, fun either => either.elim id (counts seated)⟩

theorem seatsHonest_forgets_iff
    (known : MembersKnown state) (honest : SeatsHonest state)
    (cohortId : CohortId) :
    SeatsHonest (memberStep state (.forgets cohortId)) ↔
      StepsHonestly state (.forgets cohortId) := by
  have gone :
      (memberStep state (.forgets cohortId)).session.lookup cohortId = none :=
    AList.lookup_erase _ _
  have here (did : String) (seat : MemberSeat)
      (shown : (state.monitor.entryFor cohortId).seat? did = some seat) :
      SeatHonest
          ((memberStep state (.forgets cohortId)).facts cohortId did) seat ↔
        (seat.status = .seated →
          (state.facts cohortId did).held → seat.round.countsSubmitted) := by
    have before := honest.seats cohortId did seat shown
    refine showsWithoutSession_iff before Iff.rfl ?_ ?_ Iff.rfl rfl
    · intro seated
      right
      intro uncounted
      obtain ⟨entry, member, found, -, -⟩ := exists_lookup_of_seat? shown
      change (state.monitor.entryFor cohortId).capacity = 0 at uncounted
      have accepted := before.accepted seated
      rcases before.known seated with live | counted
      · rw [entryFor_of_lookup found] at uncounted shown
        have absent :=
          known.uncounted cohortId entry did seat found uncounted shown seated
            accepted
        rw [absent] at live
        cases live
      · exact counted uncounted
    · simp only [MemberState.facts, gone]
      exact Bool.false_ne_true
  constructor
  · intro after did seat shown
    exact (here did seat shown).mp (after.seats cohortId did seat shown)
  · intro steps
    refine ⟨?_, honest.ended⟩
    intro other did seat shown
    by_cases same : other = cohortId
    · subst same
      exact (here did seat shown).mpr (steps did seat shown)
    · have facts :
          (memberStep state (.forgets cohortId)).facts other did =
            state.facts other did := by
        simp only [MemberState.facts, memberStep, AList.lookup_erase_ne same]
      rw [facts]
      exact honest.seats other did seat shown

theorem seatsHonest_releases_iff
    (honest : SeatsHonest state) (cohortId : CohortId) (did : String) :
    SeatsHonest (memberStep state (.releases cohortId did)) ↔
      StepsHonestly state (.releases cohortId did) := by
  have lookup (other : CohortId) :=
    lookup_modify state.session cohortId other fun cohort =>
      { cohort with pendingUpdates := cohort.pendingUpdates.erase did }
  have here (seat : MemberSeat)
      (shown : (state.monitor.entryFor cohortId).seat? did = some seat) :
      SeatHonest
          ((memberStep state (.releases cohortId did)).facts cohortId did)
          seat ↔
        (seat.status = .seated →
          (state.facts cohortId did).held → seat.round.countsSubmitted) := by
    have before := honest.seats cohortId did seat shown
    refine showsWithoutSession_iff before Iff.rfl ?_ ?_ Iff.rfl rfl
    · intro seated
      have known := before.known seated
      simp only [MemberState.facts, memberStep, lookup, Option.isSome_map]
        at known ⊢
      exact known
    · simp only [MemberState.facts, memberStep, lookup]
      cases state.session.lookup cohortId <;> simp
  constructor
  · intro after seat shown
    exact (here seat shown).mp (after.seats cohortId did seat shown)
  · intro steps
    refine ⟨?_, honest.ended⟩
    intro other name seat shown
    by_cases same : other = cohortId ∧ name = did
    · obtain ⟨rfl, rfl⟩ := same
      exact (here seat shown).mpr (steps seat shown)
    · have facts :
          (memberStep state (.releases cohortId did)).facts other name =
            state.facts other name := by
        refine MemberFacts.eq_of_iff Iff.rfl ?_ ?_ Iff.rfl rfl
        · simp only [MemberState.facts, memberStep, lookup, Option.isSome_map]
        · simp only [MemberState.facts, memberStep, lookup]
          cases state.session.lookup other with
          | none => simp
          | some cohort =>
              by_cases inside : other = cohortId
              · have different : name ≠ did := fun equal => same ⟨inside, equal⟩
                simp [inside, different]
              · simp [inside]
      rw [facts]
      exact honest.seats other name seat shown

theorem seatsHonest_moves
    (honest : SeatsHonest state) (cohortId : CohortId) (phase : CohortPhase) :
    SeatsHonest (memberStep state (.moves cohortId phase)) := by
  have lookup (other : CohortId) :=
    lookup_modify state.session cohortId other fun cohort =>
      { cohort with phase }
  refine ⟨?_, honest.ended⟩
  intro other did seat shown
  have facts :
      (memberStep state (.moves cohortId phase)).facts other did =
        state.facts other did := by
    refine MemberFacts.eq_of_iff Iff.rfl ?_ ?_ Iff.rfl rfl
    · simp only [MemberState.facts, memberStep, lookup, Option.isSome_map]
    · simp only [MemberState.facts, memberStep, lookup]
      cases state.session.lookup other with
      | none => simp
      | some cohort => by_cases inside : other = cohortId <;> simp [inside]
  rw [facts]
  exact honest.seats other did seat shown

theorem seatsHonest_opens
    (known : MembersKnown state) (honest : SeatsHonest state)
    {cohortId : CohortId} {minParticipants threshold : Nat}
    (fresh : cohortId ∉ state.opened) :
    SeatsHonest
      (memberStep state (.opens cohortId minParticipants threshold)) := by
  have absent : state.session.lookup cohortId = none := by
    cases live : state.session.lookup cohortId with
    | none => rfl
    | some cohort =>
        exact absurd (mem_of_lookup (known.live cohortId cohort live).1) fresh
  refine ⟨?_, honest.ended⟩
  intro other did seat shown
  have before := honest.seats other did seat shown
  by_cases same : other = cohortId
  · subst same
    refine ⟨before.accepted, ?_, ?_, before.forward⟩
    · intro _
      left
      simp only [memberStep]
      rw [AList.lookup_insert]
      rfl
    · intro seated
      have counts := before.submitted seated
      simp only [MemberState.facts, memberStep, absent, AList.lookup_insert,
        LiveCohort.advertised] at counts ⊢
      simpa using counts
  · have facts :
        (memberStep state (.opens cohortId minParticipants threshold)).facts
            other did =
          state.facts other did := by
      simp only [MemberState.facts, memberStep, AList.lookup_insert_ne same]
    rw [facts]
    exact before

theorem seatsHonest_step_iff
    (known : MembersKnown state) (honest : SeatsHonest state)
    (action : MemberAction) (offered : memberAdmits state action) :
    SeatsHonest (memberStep state action) ↔ StepsHonestly state action := by
  cases action with
  | opens cohortId minParticipants threshold =>
      exact iff_of_true (seatsHonest_opens known honest offered) trivial
  | moves cohortId phase =>
      exact iff_of_true (seatsHonest_moves honest cohortId phase) trivial
  | releases cohortId did => exact seatsHonest_releases_iff honest cohortId did
  | forgets cohortId => exact seatsHonest_forgets_iff known honest cohortId
  | told event now raw => exact seatsHonest_told_iff known honest offered

end Exact

section Runs

/-! ## Over every run -/

variable
  {Anchor : Type} (testPeerDids : List String) (anchorView : CohortId → Anchor)
  (scriptPath : CohortId → Bool) (mode : ServiceMode)

/-- In every run, whatever the order of its events, the rows of every state tell
the truth exactly where each step keeps them honest. -/
theorem showsHonestly_iff_stepsHonestly
    (actions : List MemberAction)
    (admissible : (memberRowsMachine mode).Admits actions) :
    ((memberRowsMachine mode).restrict StepsHonestly).Admits actions ↔
      ∀ earlier, earlier <+: actions →
        ShowsHonestly testPeerDids anchorView scriptPath
          ((memberRowsMachine mode).run earlier) := by
  refine
    Machine.admits_restrict_iff (membersKnown_always mode) ?_ ?_ actions
      admissible
  · have known : MembersKnown (memberRowsMachine mode).init :=
      membersKnown_always mode [] trivial
    exact showsHonestly_of_seatsHonest known ⟨nofun, nofun⟩
  · intro state action known offered shows
    have honest := seatsHonest_of_showsHonestly shows
    rw [← seatsHonest_step_iff known honest action offered]
    constructor
    · intro after
      exact
        showsHonestly_of_seatsHonest (membersKnown_step known action offered)
          after
    · intro after
      exact seatsHonest_of_showsHonestly after

def seatedDid : String := "did:btcr2:k1seated"

/-- A round that its member goes through, with the session letting go of the
update on the way. -/
def fullRound : List MemberAction :=
  [ .opens 0 1 1,
    .told (.notice (.optInReceived 0 seatedDid none none)) 1 none,
    .told (.notice (.participantAccepted 0 seatedDid)) 2 none,
    .told (.notice (.updateReceived 0 seatedDid)) 3 (some "update"),
    .told (.notice (.validationReceived 0 seatedDid true)) 4 none,
    .releases 0 seatedDid,
    .told (.notice (.nonceReceived 0 seatedDid)) 5 none,
    .told (.notice (.signingComplete 0 false)) 6 none ]

theorem admits_fullRound : (memberRowsMachine .hermetic).Admits fullRound := by
  refine
    ⟨?_, trivial, ?_, trivial, trivial, trivial, trivial, trivial, trivial⟩
  · exact AList.notMem_empty _
  · rfl

theorem stepsHonestly_fullRound :
    ((memberRowsMachine .hermetic).restrict StepsHonestly).Admits fullRound := by
  refine
    ⟨⟨?_, trivial⟩, ⟨trivial, ?_⟩, ⟨?_, ?_⟩, ⟨trivial, ?_⟩, ⟨trivial, ?_⟩,
      ⟨trivial, ?_⟩, ⟨trivial, ?_⟩, ⟨trivial, ?_⟩, trivial⟩
  · exact AList.notMem_empty _
  · exact rfl
  · rfl
  · intro _
    constructor
    · rintro (counts | held)
      · cases counts
      · cases held
    · exact nofun
  · exact Nat.zero_le 1
  · intro _
    exact ⟨fun _ => List.Mem.head _, Nat.le_succ 1⟩
  · intro seat found _ _
    cases found
    rfl
  · intro _ _
    exact List.Mem.head _
  · trivial

theorem showsHonestly_iff_stepsHonestly_fullRound :
    ShowsHonestly [] (fun _ => ()) (fun _ => false)
      ((memberRowsMachine .hermetic).run fullRound) :=
  (showsHonestly_iff_stepsHonestly [] (fun _ => ()) (fun _ => false) .hermetic
    fullRound admits_fullRound).mp stepsHonestly_fullRound fullRound
    (List.prefix_refl _)

/-- The rows tell the truth after every order of events. -/
def MemberRowsPromise : Prop :=
  (memberRowsMachine mode).Always
    (ShowsHonestly testPeerDids anchorView scriptPath)

/-- A member declines to submit an update and validates the aggregated data. -/
def declinedRound : List MemberAction :=
  [ .opens 0 1 1,
    .told (.notice (.participantAccepted 0 seatedDid)) 1 none,
    .told (.notice (.validationReceived 0 seatedDid true)) 2 none ]

theorem not_memberRowsPromise :
    ¬ MemberRowsPromise [] (fun _ => ()) (fun _ => false) .hermetic := by
  intro promise
  have admissible : (memberRowsMachine .hermetic).Admits declinedRound := by
    refine ⟨?_, ?_, trivial, trivial⟩
    · exact AList.notMem_empty _
    · rfl
  have shows := promise declinedRound admissible
  have row :=
    (shows.submitted 0 ⟨seatedDid, true, none, none⟩ (by decide)).mp rfl
  cases row

end Runs

end Btcr2Aggregation
