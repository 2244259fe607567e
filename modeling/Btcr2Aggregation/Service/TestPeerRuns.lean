import Btcr2Aggregation.Service.TestPeers

/-!
# The test peers over whole runs

Once a cohort has settled and its spawns are over, no peer of it runs; once the
service has stopped and every spawn is over, no peer runs at all; and with every
spawn over `activeCount` is the number of peers that run.

Every change of the batches is a change of each batch on its own, so the
invariant is one predicate on a batch, told the two fates it depends on.
-/

namespace Btcr2Aggregation

section Law

/-! ## The law -/

/-- No spawn of the cohort is under way. -/
def PeerRun.SpawnsOver (run : PeerRun) (cohortId : CohortId) : Prop :=
  ∀ batch ∈ run.batches, batch.cohortId = cohortId → batch.phase = .finished

/-- No spawn is under way. -/
def PeerRun.AllSpawnsOver (run : PeerRun) : Prop :=
  ∀ batch ∈ run.batches, batch.phase = .finished

structure PeersAccounted (run : PeerRun) : Prop where
  /-- No peer outlives its cohort. -/
  settled :
    ∀ cohortId ∈ run.side.settled,
      run.SpawnsOver cohortId → run.runningFor cohortId = 0
  /-- No peer outlives the service. -/
  stopped :
    run.side.stopped = true → run.AllSpawnsOver → run.runningCount = 0
  /-- The count is that of the peers that run. -/
  counted : run.AllSpawnsOver → run.activeCount = run.runningCount

/-- The steps that keep every running peer within reach.  A cohort settles with
no batch on its way back to the registry, and a settle that releases nothing
finds no filed handle; the service stops with no batch on its way back; and no
`start()` succeeds for a batch the abort has stopped, nor does the loop of a
settled cohort's batch end with a peer running. -/
def KeepsReach
    (options : ServiceOptions) (run : PeerRun) : PeerEvent → Prop
  | .side event =>
      (∀ cohortId ∈ event.settles?,
        ∀ batch ∈ run.batches,
          batch.cohortId = cohortId →
            (batch.phase = .returned → batch.spawned = 0) ∧
              (run.side.releases? options event = none →
                batch.registered = false)) ∧
        (event = .stop →
          ∀ batch ∈ run.batches, batch.phase = .returned → batch.spawned = 0)
  | .startResolves number ok =>
      ∀ batch ∈ run.batches,
        batch.number = number →
          (batch.stopped = true → ok = false) ∧
            (batch.wanted ≤ batch.attempted + 1 →
              batch.cohortId ∈ run.side.settled →
                ok = false ∧ batch.running = [])
  | _ => True

instance (options : ServiceOptions) (run : PeerRun) (event : PeerEvent) :
    Decidable (KeepsReach options run event) := by
  induction event using PeerEvent.casesOn with
  | side event =>
      exact inferInstanceAs (Decidable ((∀ _ ∈ _, ∀ _ ∈ _, _) ∧ (_ → _)))
  | startResolves number ok => exact inferInstanceAs (Decidable (∀ _ ∈ _, _))
  | _ => exact isTrue trivial

end Law

section Batch

/-! ## What one batch keeps -/

namespace PeerBatch

/-- The closure of a batch, told whether its cohort has settled and whether the
service has stopped. -/
structure Sound (settled stopped : Bool) (batch : PeerBatch) : Prop where
  peers : batch.stopped = false → batch.peers = batch.running
  dids : batch.stopped = false → batch.dids = batch.running
  silenced : batch.stopped = true → batch.running = []
  returned : batch.phase = .returned → batch.spawned = batch.running.length
  finished :
    batch.phase = .finished → batch.owned = batch.running.length
  filed : batch.registered = true → batch.phase = .finished
  released : batch.phase ≠ .starting → settled = true → batch.running = []
  aborted : stopped = true → batch.stopped = true
  guarded :
    stopped = false → batch.stopped = true → batch.phase = .finished

variable {settled stopped : Bool} {batch : PeerBatch}

@[simp]
theorem number_stopAll : batch.stopAll.number = batch.number := by
  unfold stopAll
  split <;> rfl

@[simp]
theorem attempted_stopAll : batch.stopAll.attempted = batch.attempted := by
  unfold stopAll
  split <;> rfl

@[simp]
theorem wanted_stopAll : batch.stopAll.wanted = batch.wanted := by
  unfold stopAll
  split <;> rfl

@[simp]
theorem cohortId_stopAll : batch.stopAll.cohortId = batch.cohortId := by
  unfold stopAll
  split <;> rfl

@[simp]
theorem phase_stopAll : batch.stopAll.phase = batch.phase := by
  unfold stopAll
  split <;> rfl

@[simp]
theorem registered_stopAll : batch.stopAll.registered = batch.registered := by
  unfold stopAll
  split <;> rfl

@[simp]
theorem spawned_stopAll : batch.stopAll.spawned = batch.spawned := by
  unfold stopAll
  split <;> rfl

@[simp]
theorem stopped_stopAll : batch.stopAll.stopped = true := by
  unfold stopAll
  split
  · assumption
  · rfl

theorem owned_of_unfiled (unfiled : batch.registered = false) :
    batch.owned = 0 := by
  rw [owned, unfiled]
  rfl

/-- A batch back from the spawner is filed when it owns a peer. -/
theorem owned_spawnReturns : batch.spawnReturns.owned = batch.spawned := by
  simp only [owned, PeerBatch.spawnReturns, decide_eq_true_eq]
  split
  · rfl
  · omega

/-- Whatever the guard says, nothing of a sound batch runs afterwards. -/
theorem Sound.running_stopAll (sound : batch.Sound settled stopped) :
    batch.stopAll.running = [] := by
  unfold stopAll
  split
  · next guarded => exact sound.silenced guarded
  · next unguarded =>
      have same := sound.peers (Bool.eq_false_iff.mpr unguarded)
      dsimp only
      rw [same, List.filter_eq_nil_iff]
      intro peer member
      simp [member]

theorem Sound.opened (number : Nat) (cohortId : CohortId) (wanted : Nat) :
    (opened number cohortId wanted).Sound settled false where
  peers := fun _ => rfl
  dids := fun _ => rfl
  silenced := fun _ => rfl
  returned := by
    intro phase
    cases phase
  finished := by
    intro phase
    cases phase
  filed := by
    intro registered
    cases registered
  released := by
    intro _ _
    rfl
  aborted := by
    intro stopped
    cases stopped
  guarded := by
    intro _ stopped
    cases stopped

/-- A dropped handle's batch is silent. -/
theorem Sound.drop (sound : batch.Sound settled stopped) :
    batch.drop.Sound settled stopped := by
  unfold PeerBatch.drop
  split
  · next registered =>
      have silent := sound.running_stopAll
      exact
        { peers := by
            intro running
            exact absurd (stopped_stopAll.symm.trans running) (by decide)
          dids := by
            intro running
            exact absurd (stopped_stopAll.symm.trans running) (by decide)
          silenced := fun _ => silent
          returned := by
            intro phase
            have isFinished := sound.filed registered
            simp only [phase_stopAll, isFinished] at phase
            cases phase
          finished := by
            intro _
            have unfiled :
                ({ batch.stopAll with registered := false }).owned = 0 :=
              rfl
            rw [unfiled, silent]
            rfl
          filed := by
            intro filed
            cases filed
          released := fun _ _ => silent
          aborted := fun _ => stopped_stopAll
          guarded := fun _ _ => phase_stopAll.trans (sound.filed registered) }
  · exact sound

/-- After a drop no handle is filed. -/
theorem registered_drop : batch.drop.registered = false := by
  unfold PeerBatch.drop
  split
  · rfl
  · next unregistered => exact Bool.eq_false_iff.mpr unregistered

@[simp]
theorem number_drop : batch.drop.number = batch.number := by
  unfold PeerBatch.drop
  split
  · exact number_stopAll
  · rfl

@[simp]
theorem attempted_drop : batch.drop.attempted = batch.attempted := by
  unfold PeerBatch.drop
  split
  · exact attempted_stopAll
  · rfl

@[simp]
theorem wanted_drop : batch.drop.wanted = batch.wanted := by
  unfold PeerBatch.drop
  split
  · exact wanted_stopAll
  · rfl

@[simp]
theorem phase_drop : batch.drop.phase = batch.phase := by
  unfold PeerBatch.drop
  split
  · exact phase_stopAll
  · rfl

@[simp]
theorem cohortId_drop : batch.drop.cohortId = batch.cohortId := by
  unfold PeerBatch.drop
  split
  · exact cohortId_stopAll
  · rfl

@[simp]
theorem spawned_drop : batch.drop.spawned = batch.spawned := by
  unfold PeerBatch.drop
  split
  · exact spawned_stopAll
  · rfl

/-- A batch whose cohort settles with no filed handle, and nothing on its way
back, runs nothing once its loop is over. -/
theorem Sound.settle
    (sound : batch.Sound settled stopped)
    (unfiled : batch.registered = false)
    (nothing : batch.phase = .returned → batch.spawned = 0) :
    batch.Sound true stopped where
  peers := sound.peers
  dids := sound.dids
  silenced := sound.silenced
  returned := sound.returned
  finished := sound.finished
  filed := sound.filed
  released := by
    intro loopOver _
    cases phase : batch.phase with
    | starting => exact absurd phase loopOver
    | returned =>
        have same := sound.returned phase
        rw [nothing phase] at same
        exact List.length_eq_zero_iff.mp same.symm
    | finished =>
        have same := sound.finished phase
        rw [owned_of_unfiled unfiled] at same
        exact List.length_eq_zero_iff.mp same.symm
  aborted := sound.aborted
  guarded := sound.guarded

/-- The abort silences a batch that is not on its way back with peers. -/
theorem Sound.abort
    (sound : batch.Sound settled stopped)
    (unfiled : batch.registered = false)
    (nothing : batch.phase = .returned → batch.spawned = 0) :
    batch.stopAll.Sound settled true where
  peers := by
    intro running
    exact absurd (stopped_stopAll.symm.trans running) (by decide)
  dids := by
    intro running
    exact absurd (stopped_stopAll.symm.trans running) (by decide)
  silenced := fun _ => sound.running_stopAll
  returned := by
    intro phase
    rw [phase_stopAll] at phase
    rw [spawned_stopAll, nothing phase, sound.running_stopAll]
    rfl
  finished := by
    intro _
    rw [owned_of_unfiled (registered_stopAll.trans unfiled),
      sound.running_stopAll]
    rfl
  filed := by
    intro filed
    rw [registered_stopAll, unfiled] at filed
    cases filed
  released := fun _ _ => sound.running_stopAll
  aborted := fun _ => stopped_stopAll
  guarded := by
    intro running
    cases running

theorem Sound.spawnReturns
    (sound : batch.Sound settled stopped) (phase : batch.phase = .returned) :
    batch.spawnReturns.Sound settled stopped where
  peers := sound.peers
  dids := sound.dids
  silenced := sound.silenced
  returned := by
    intro finished
    cases finished
  finished := by
    intro _
    exact owned_spawnReturns.trans (sound.returned phase)
  filed := fun _ => rfl
  released := by
    intro _ isSettled
    refine sound.released ?_ isSettled
    rw [phase]
    decide
  aborted := sound.aborted
  guarded := fun _ _ => rfl

/-- The round of the loop that has resolved. -/
theorem Sound.settleStart
    (sound : batch.Sound settled stopped) {ok : Bool}
    (phase : batch.phase = .starting)
    (afterAbort : batch.stopped = true → ok = false) :
    (batch.settleStart ok).Sound settled stopped := by
  unfold PeerBatch.settleStart
  split
  · next succeeded =>
      have unguarded : batch.stopped = false := by
        by_contra guarded
        rw [afterAbort (Bool.eq_true_of_not_eq_false guarded)] at succeeded
        cases succeeded
      exact
        { peers := by
            intro _
            dsimp only
            rw [sound.peers unguarded]
          dids := by
            intro _
            dsimp only
            rw [sound.dids unguarded]
          silenced := by
            intro guarded
            exact absurd (unguarded.symm.trans guarded) (by decide)
          returned := by
            intro loopOver
            exact absurd (phase.symm.trans loopOver) (by decide)
          finished := by
            intro loopOver
            exact absurd (phase.symm.trans loopOver) (by decide)
          filed := by
            intro filed
            exact absurd (phase.symm.trans (sound.filed filed)) (by decide)
          released := by
            intro loopOver _
            exact absurd phase loopOver
          aborted := sound.aborted
          guarded := sound.guarded }
  · exact
      { peers := sound.peers
        dids := sound.dids
        silenced := sound.silenced
        returned := sound.returned
        finished := sound.finished
        filed := sound.filed
        released := sound.released
        aborted := sound.aborted
        guarded := sound.guarded }

/-- The end of the loop, with nothing running for a settled cohort. -/
theorem Sound.afterLoop
    (sound : batch.Sound settled stopped)
    (phase : batch.phase = .starting)
    (nothing : settled = true → batch.running = []) :
    (batch.afterLoop stopped).Sound settled stopped := by
  have unfiled : batch.registered = false := by
    by_contra filed
    have loopOver := sound.filed (Bool.eq_true_of_not_eq_false filed)
    exact absurd (phase.symm.trans loopOver) (by decide)
  unfold PeerBatch.afterLoop
  split
  · next isAborted =>
      have silent := sound.running_stopAll
      have guarded : batch.stopAll.stopped = true := stopped_stopAll
      exact
        { peers := by
            intro running
            exact absurd (guarded.symm.trans running) (by decide)
          dids := by
            intro running
            exact absurd (guarded.symm.trans running) (by decide)
          silenced := fun _ => silent
          returned := by
            intro _
            dsimp only
            rw [silent]
            rfl
          finished := by
            intro loopOver
            cases loopOver
          filed := by
            intro filed
            have same : batch.stopAll.registered = batch.registered :=
              registered_stopAll
            exact absurd (unfiled.symm.trans (same.symm.trans filed)) (by decide)
          released := fun _ _ => silent
          aborted := fun _ => guarded
          guarded := by
            intro running
            exact absurd (isAborted.symm.trans running) (by decide) }
  · next running =>
      have notAborted : stopped = false := Bool.eq_false_iff.mpr running
      have unguarded : batch.stopped = false := by
        by_contra guarded
        have loopOver :=
          sound.guarded notAborted (Bool.eq_true_of_not_eq_false guarded)
        exact absurd (phase.symm.trans loopOver) (by decide)
      exact
        { peers := sound.peers
          dids := sound.dids
          silenced := sound.silenced
          returned := by
            intro _
            dsimp only
            rw [sound.dids unguarded]
          finished := by
            intro loopOver
            cases loopOver
          filed := by
            intro filed
            exact absurd (unfiled.symm.trans filed) (by decide)
          released := fun _ isSettled => nothing isSettled
          aborted := sound.aborted
          guarded := by
            intro _ guarded
            exact absurd (unguarded.symm.trans guarded) (by decide) }

/-- A `start()` that resolves under the condition keeps the batch sound. -/
theorem Sound.startResolves
    (sound : batch.Sound settled stopped) {ok : Bool}
    (phase : batch.phase = .starting)
    (afterAbort : batch.stopped = true → ok = false)
    (afterSettle :
      batch.wanted ≤ batch.attempted + 1 →
        settled = true → ok = false ∧ batch.running = []) :
    (batch.startResolves stopped ok).Sound settled stopped := by
  have next := sound.settleStart phase afterAbort
  unfold PeerBatch.startResolves
  dsimp only
  split
  · exact next
  · next loopOver =>
      have same :
          (batch.settleStart ok).attempted = batch.attempted + 1 ∧
            (batch.settleStart ok).wanted = batch.wanted ∧
              (batch.settleStart ok).phase = batch.phase := by
        cases ok <;> exact ⟨rfl, rfl, rfl⟩
      refine next.afterLoop (same.2.2.trans phase) ?_
      intro isSettled
      have last : batch.wanted ≤ batch.attempted + 1 := by
        omega
      obtain ⟨failed, nothing⟩ := afterSettle last isSettled
      rw [failed]
      exact nothing

/-- The round that ends the loop leaves no `start()` to await. -/
theorem awaits_startResolves {ok : Bool}
    (phase : (batch.startResolves stopped ok).phase = .starting) :
    (batch.startResolves stopped ok).attempted <
      (batch.startResolves stopped ok).wanted := by
  unfold PeerBatch.startResolves at phase ⊢
  dsimp only at phase ⊢
  split
  · next more => exact more
  · next loopOver =>
      rw [if_neg loopOver] at phase
      unfold PeerBatch.afterLoop at phase
      split at phase <;> cases phase

theorem number_startResolves {ok : Bool} :
    (batch.startResolves stopped ok).number = batch.number := by
  have same : (batch.settleStart ok).number = batch.number := by
    cases ok <;> rfl
  unfold PeerBatch.startResolves
  dsimp only
  split
  · exact same
  · unfold PeerBatch.afterLoop
    split
    · exact number_stopAll.trans same
    · exact same

theorem cohortId_startResolves {ok : Bool} :
    (batch.startResolves stopped ok).cohortId = batch.cohortId := by
  have same : (batch.settleStart ok).cohortId = batch.cohortId := by
    cases ok <;> rfl
  unfold PeerBatch.startResolves
  dsimp only
  split
  · exact same
  · unfold PeerBatch.afterLoop
    split
    · exact cohortId_stopAll.trans same
    · exact same

/-- What an event of the service does to a batch. -/
def tornDown
    (released : Option CohortId) (event : SideEvent) (batch : PeerBatch) :
    PeerBatch :=
  match released with
  | some cohortId => if batch.cohortId = cohortId then batch.drop else batch
  | none => if event = .stop then batch.drop.stopAll else batch

section Frames

variable {released : Option CohortId} {event : SideEvent}

/-- A part of the closure that neither a drop nor an abort touches. -/
theorem tornDown_frame
    {Part : Type} (part : PeerBatch → Part)
    (drop : part batch.drop = part batch)
    (stopAll : part batch.drop.stopAll = part batch.drop) :
    part (batch.tornDown released event) = part batch := by
  cases released with
  | some cohortId =>
      unfold tornDown
      dsimp only
      split
      · exact drop
      · rfl
  | none =>
      unfold tornDown
      dsimp only
      split
      · exact stopAll.trans drop
      · rfl

theorem number_tornDown :
    (batch.tornDown released event).number = batch.number :=
  tornDown_frame number number_drop number_stopAll

theorem cohortId_tornDown :
    (batch.tornDown released event).cohortId = batch.cohortId :=
  tornDown_frame cohortId cohortId_drop cohortId_stopAll

theorem attempted_tornDown :
    (batch.tornDown released event).attempted = batch.attempted :=
  tornDown_frame attempted attempted_drop attempted_stopAll

theorem wanted_tornDown :
    (batch.tornDown released event).wanted = batch.wanted :=
  tornDown_frame wanted wanted_drop wanted_stopAll

theorem phase_tornDown :
    (batch.tornDown released event).phase = batch.phase :=
  tornDown_frame phase phase_drop phase_stopAll

end Frames

end PeerBatch

end Batch

section Batches

/-! ## The batches of a run -/

namespace PeerRun

variable {options : ServiceOptions} {run : PeerRun} {event : PeerEvent}

/-- Batches are numbered as they were opened, and one that awaits a `start()`
has not made all its peers. -/
structure Numbered (run : PeerRun) : Prop where
  numbers :
    run.batches.map PeerBatch.number = (List.range run.batches.length).reverse
  awaits :
    ∀ batch ∈ run.batches,
      batch.phase = .starting → batch.attempted < batch.wanted

/-- The number names the batch. -/
theorem Numbered.unique
    (numbered : run.Numbered) {batch other : PeerBatch}
    (member : batch ∈ run.batches) (otherMember : other ∈ run.batches)
    (same : batch.number = other.number) : batch = other := by
  have distinct : (run.batches.map PeerBatch.number).Nodup := by
    rw [numbered.numbers, List.nodup_reverse]
    exact List.nodup_range
  exact List.inj_on_of_nodup_map distinct member otherMember same

/-- A change of each batch on its own. -/
theorem Numbered.map
    (numbered : run.Numbered) {after : PeerRun} {change : PeerBatch → PeerBatch}
    (changed : after.batches = run.batches.map change)
    (number : ∀ batch, (change batch).number = batch.number)
    (awaits :
      ∀ batch ∈ run.batches,
        (change batch).phase = .starting →
          (change batch).attempted < (change batch).wanted) :
    after.Numbered where
  numbers := by
    have same : PeerBatch.number ∘ change = PeerBatch.number :=
      funext number
    rw [changed, List.map_map, same, List.length_map]
    exact numbered.numbers
  awaits := by
    intro batch member
    rw [changed] at member
    obtain ⟨before, memberBefore, rfl⟩ := List.mem_map.mp member
    exact awaits before memberBefore

/-- The batches after an event of the service. -/
theorem batches_teardown (options : ServiceOptions) (event : SideEvent) :
    (run.teardown options event).batches =
      run.batches.map
        (PeerBatch.tornDown (run.side.releases? options event) event) := by
  unfold teardown
  cases run.side.releases? options event with
  | some cohortId => rfl
  | none =>
      dsimp only
      split
      · next stops =>
          subst stops
          rfl
      · next goesOn =>
          have kept : PeerBatch.tornDown none event = id := by
            funext batch
            exact if_neg goesOn
          rw [kept, List.map_id]

theorem Numbered.step
    (numbered : run.Numbered) (offered : run.Offered event) :
    (run.step options event).Numbered := by
  cases event with
  | side event =>
      refine numbered.map (batches_teardown options event) ?_ ?_
      · exact fun batch => PeerBatch.number_tornDown
      · intro batch member phase
        rw [PeerBatch.attempted_tornDown, PeerBatch.wanted_tornDown]
        rw [PeerBatch.phase_tornDown] at phase
        exact numbered.awaits batch member phase
  | listen => exact ⟨numbered.numbers, numbered.awaits⟩
  | session seats => exact ⟨numbered.numbers, numbered.awaits⟩
  | addTestPeers cohortId requested =>
      unfold PeerRun.step addTestPeers
      dsimp only
      split
      · exact numbered
      · next seats admitted =>
          by_cases none : run.wanted seats requested = 0
          · simp only [if_pos none]
            exact ⟨numbered.numbers, numbered.awaits⟩
          · simp only [if_neg none]
            refine ⟨?_, ?_⟩
            · dsimp only
              rw [List.map_cons, numbered.numbers, List.length_cons,
                List.range_succ, List.reverse_append]
              rfl
            · intro batch member phase
              rcases List.mem_cons.mp member with rfl | before
              · exact Nat.pos_of_ne_zero none
              · exact numbered.awaits batch before phase
  | startResolves number ok =>
      refine numbered.map rfl ?_ ?_
      · intro batch
        split
        · exact PeerBatch.number_startResolves
        · rfl
      · intro batch member
        split
        · exact PeerBatch.awaits_startResolves
        · exact numbered.awaits batch member
  | spawnReturns number =>
      refine numbered.map rfl ?_ ?_
      · intro batch
        split <;> rfl
      · intro batch member
        split
        · intro phase
          cases phase
        · exact numbered.awaits batch member

theorem numbered_booted : booted.Numbered where
  numbers := rfl
  awaits := by
    intro batch member
    cases member

end PeerRun

end Batches

section Lifetime

/-! ## The lifetime law -/

namespace PeerRun

variable {options : ServiceOptions} {run : PeerRun} {event : PeerEvent}

/-- Every closure is sound for its cohort's fate and the service's. -/
def Reached (run : PeerRun) : Prop :=
  ∀ batch ∈ run.batches,
    batch.Sound (batch.cohortId ∈ run.side.settled) run.side.stopped

/-- A change of one batch that knows neither fate. -/
theorem Reached.update
    (reached : run.Reached) (number : Nat) {change : PeerBatch → PeerBatch}
    (cohortId : ∀ batch, (change batch).cohortId = batch.cohortId)
    (sound :
      ∀ batch ∈ run.batches,
        batch.number = number →
          (change batch).Sound (batch.cohortId ∈ run.side.settled)
            run.side.stopped) :
    (run.update number change).Reached := by
  intro batch member
  obtain ⟨before, memberBefore, rfl⟩ := List.mem_map.mp member
  have same : (run.update number change).side = run.side := rfl
  rw [same]
  split
  · next named =>
      rw [cohortId]
      exact sound before memberBefore named
  · exact reached before memberBefore

theorem Reached.side
    (reached : run.Reached) {event : SideEvent}
    (keeps : KeepsReach options run (.side event)) :
    (run.step options (.side event)).Reached := by
  obtain ⟨atSettle, atStop⟩ := keeps
  intro batch member
  have changed :
      batch ∈
        run.batches.map
          (PeerBatch.tornDown (run.side.releases? options event) event) := by
    rw [← batches_teardown]
    exact member
  obtain ⟨before, memberBefore, rfl⟩ := List.mem_map.mp changed
  have sound := reached before memberBefore
  have sameSide :
      (run.step options (.side event)).side = run.side.step options event :=
    rfl
  rw [sameSide, SideRun.stopped_step, PeerBatch.cohortId_tornDown]
  by_cases settles : event.settles? = some before.cohortId
  · obtain ⟨nothing, unheard⟩ :=
      atSettle before.cohortId settles before memberBefore rfl
    have goesOn : event ≠ .stop := by
      rintro rfl
      cases settles
    have isSettled :
        decide (before.cohortId ∈ (run.side.step options event).settled) =
          true := by
      rw [decide_eq_true_iff, SideRun.settled_step]
      exact Or.inl settles
    rw [isSettled, decide_eq_false goesOn, Bool.or_false]
    cases releases : run.side.releases? options event with
    | some cohortId =>
        have same : before.cohortId = cohortId := by
          have settled := SideRun.settles?_of_releases? releases
          exact Option.some.inj (settles.symm.trans settled)
        unfold PeerBatch.tornDown
        dsimp only
        rw [if_pos same]
        refine sound.drop.settle PeerBatch.registered_drop ?_
        rw [PeerBatch.phase_drop, PeerBatch.spawned_drop]
        exact nothing
    | none =>
        unfold PeerBatch.tornDown
        dsimp only
        rw [if_neg goesOn]
        exact sound.settle (unheard releases) nothing
  · have sameFate :
        decide (before.cohortId ∈ (run.side.step options event).settled) =
          decide (before.cohortId ∈ run.side.settled) := by
      rw [decide_eq_decide, SideRun.settled_step]
      simp [settles]
    rw [sameFate]
    by_cases stops : event = .stop
    · rw [decide_eq_true stops, Bool.or_true]
      subst stops
      refine sound.drop.abort PeerBatch.registered_drop ?_
      rw [PeerBatch.phase_drop, PeerBatch.spawned_drop]
      exact atStop rfl before memberBefore
    · have untouched :
          before.tornDown (run.side.releases? options event) event =
            before := by
        cases releases : run.side.releases? options event with
        | some cohortId =>
            have settled := SideRun.settles?_of_releases? releases
            refine if_neg ?_
            rintro rfl
            exact settles settled
        | none => exact if_neg stops
      rw [untouched, decide_eq_false stops, Bool.or_false]
      exact sound

theorem Reached.step
    (reached : run.Reached) (numbered : run.Numbered)
    (offered : run.Offered event) (keeps : KeepsReach options run event) :
    (run.step options event).Reached := by
  cases event with
  | side event => exact reached.side keeps
  | listen => exact reached
  | session seats => exact reached
  | addTestPeers cohortId requested =>
      unfold PeerRun.step addTestPeers
      dsimp only
      split
      · exact reached
      · next seats admitted =>
          by_cases none : run.wanted seats requested = 0
          · simp only [if_pos none]
            exact reached
          · simp only [if_neg none]
            have running : run.side.stopped = false := by
              by_contra stopped
              exact none (if_pos (Bool.eq_true_of_not_eq_false stopped))
            intro batch member
            rcases List.mem_cons.mp member with rfl | before
            · dsimp only
              rw [running]
              exact PeerBatch.Sound.opened _ _ _
            · exact reached batch before
  | startResolves number ok =>
      obtain ⟨awaiting, awaitingMember, named, phase⟩ := offered
      refine
        reached.update number
          (fun batch => PeerBatch.cohortId_startResolves) ?_
      intro batch member sameNumber
      have same : batch = awaiting :=
        numbered.unique member awaitingMember (sameNumber.trans named.symm)
      obtain ⟨afterAbort, afterSettle⟩ := keeps batch member sameNumber
      subst same
      refine (reached batch member).startResolves phase afterAbort ?_
      intro last isSettled
      exact afterSettle last (of_decide_eq_true isSettled)
  | spawnReturns number =>
      obtain ⟨returned, returnedMember, named, phase⟩ := offered
      refine reached.update number (fun batch => rfl) ?_
      intro batch member sameNumber
      have same : batch = returned :=
        numbered.unique member returnedMember (sameNumber.trans named.symm)
      subst same
      exact (reached batch member).spawnReturns phase

/-- Sound closures are what the law asks for. -/
theorem Reached.peersAccounted (reached : run.Reached) : PeersAccounted run where
  settled := by
    intro cohortId isSettled loopOver
    refine List.sum_eq_zero ?_
    intro count member
    obtain ⟨batch, memberBatch, rfl⟩ := List.mem_map.mp member
    split
    · next same =>
        have silent :=
          (reached batch memberBatch).released
            (by rw [loopOver batch memberBatch same]; decide)
            (by rw [same]; exact decide_eq_true isSettled)
        rw [silent]
        rfl
    · rfl
  stopped := by
    intro stopped loopOver
    refine List.sum_eq_zero ?_
    intro count member
    obtain ⟨batch, memberBatch, rfl⟩ := List.mem_map.mp member
    have sound := reached batch memberBatch
    rw [sound.silenced (sound.aborted stopped)]
    rfl
  counted := by
    intro loopOver
    have each :
        run.batches.map PeerBatch.owned =
          run.batches.map fun batch => batch.running.length := by
      refine List.map_congr_left ?_
      intro batch member
      exact (reached batch member).finished (loopOver batch member)
    rw [activeCount, each]
    rfl

end PeerRun

end Lifetime

section LifetimeRuns

/-! ## The lifetime law over whole runs -/

instance (options : ServiceOptions) (run : PeerRun) (event : PeerEvent) :
    Decidable ((peerMachine options).admits run event) :=
  inferInstanceAs (Decidable (run.Offered event))

/-- **Lifetime of the test peers.** Along every run that keeps every running
peer within reach, no peer outlives its cohort or the service, and
`activeCount` counts the peers that run. -/
theorem peersAccounted_of_keepsReach
    (options : ServiceOptions) (events : List PeerEvent)
    (admissible :
      ((peerMachine options).restrict (KeepsReach options)).Admits events) :
    PeersAccounted ((peerMachine options).run events) := by
  have always :
      ((peerMachine options).restrict (KeepsReach options)).Always
        fun run => run.Numbered ∧ run.Reached := by
    apply Machine.Always.of_inductive
    · refine ⟨PeerRun.numbered_booted, ?_⟩
      intro batch member
      cases member
    · rintro run event ⟨numbered, reached⟩ ⟨offered, keeps⟩
      exact
        ⟨numbered.step offered, reached.step numbered offered keeps⟩
  exact (always events admissible).2.peersAccounted

/-- The session of a service with one cohort of three open seats. -/
def threeOpenSeats : InsertionMap CohortId CohortSeats :=
  InsertionMap.set ∅ 0 { capacity := 3, strangers := 0, testPeers := 0 }

/-- The operator fills cohort `0`; one peer of three cannot start, and the
cohort completes. -/
def rehearsed : List PeerEvent :=
  [.listen, .side (.cohortAdvertised 0 none), .session threeOpenSeats,
    .addTestPeers 0 none, .startResolves 0 true, .startResolves 0 false,
    .startResolves 0 true, .spawnReturns 0, .side (.signingComplete 0 false),
    .side .stop]

theorem peersAccounted_of_keepsReach_rehearsed :
    PeersAccounted ((peerMachine waitingOptions).run rehearsed) :=
  peersAccounted_of_keepsReach waitingOptions rehearsed (by decide +kernel)

/-- The lifetime law as a promise about every run. -/
def LifetimePromise : Prop :=
  ∀ options events,
    (peerMachine options).Admits events →
      PeersAccounted ((peerMachine options).run events)

/-- The service stops while the second of two peers is starting. -/
def stoppedMidSpawn : List PeerEvent :=
  [.listen, .side (.cohortAdvertised 0 none), .session threeOpenSeats,
    .addTestPeers 0 (some 2), .startResolves 0 true, .side .stop,
    .startResolves 0 true, .spawnReturns 0]

theorem not_lifetimePromise : ¬ LifetimePromise := by
  intro promise
  have law := promise waitingOptions stoppedMidSpawn (by decide +kernel)
  have loopOver :
      ((peerMachine waitingOptions).run stoppedMidSpawn).AllSpawnsOver := by
    unfold PeerRun.AllSpawnsOver
    decide +kernel
  exact absurd (law.stopped (by decide +kernel) loopOver) (by decide +kernel)

end LifetimeRuns

end Btcr2Aggregation
