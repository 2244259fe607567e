import Btcr2Aggregation.Library.Machine
import Btcr2Aggregation.Participant.UpdateChain

/-!
# Overlapping requests for an update

`createUpdateProvider`'s handler runs to its first `await` when the runner
calls it, and goes on when the submit gate settles.  Several calls can be
waiting at their gates at once, and they share the participant's maps.
-/

namespace Btcr2Aggregation

section Handler

/-! ## The handler -/

/-- What the handler is created with, next to the shared maps.  `gated` is
whether an `onSubmitGate` was supplied. -/
structure UpdateProviderContext where
  library : MethodLibrary
  identity : Identity
  defaultBeaconType : BeaconType
  gated : Bool

structure SubmitGateInfo where
  cohortId : CohortId
  beaconAddress : String
  beaconType : BeaconType
  update : SignedUpdate
  deriving DecidableEq, Repr

/-- What a call rejects with: what building threw, or what the gate did. -/
inductive ProviderError where
  | build (message : String)
  | gate (message : String)
  deriving DecidableEq, Repr

/-- What a call does to the world, and what its gate tells it. -/
inductive ProviderEffect where
  | declined (reason : String)
  | built (outcome : Except String SignedUpdate)
  | offered (info : SubmitGateInfo)
  | gateResolved
  | gateRejected (message : String)
  | recorded (update : SignedUpdate)
  deriving DecidableEq

namespace ProviderEffect

def outcome? : ProviderEffect → Option (Except String SignedUpdate)
  | .built outcome => some outcome
  | _ => none

end ProviderEffect

/-- One call of the handler: its arguments, the beacon type it read, all it has
done so far in order, the body it keeps while its gate is awaited, and its
answer.  An answer of `none` inside is the `null` of a decline. -/
structure ProvideCall where
  cohortId : CohortId
  beaconAddress : String
  beaconType : BeaconType
  effects : List ProviderEffect
  held : Option SignedUpdate
  answer : Option (Except ProviderError (Option SignedUpdate))

namespace ProvideCall

def fit (context : UpdateProviderContext) (call : ProvideCall) : CohortFit :=
  classifyCohortFit context.identity.genesisDocument call.beaconAddress
    call.beaconType

def reason (call : ProvideCall) : String :=
  declineReason call.cohortId call.beaconAddress call.beaconType

def gateInfo (call : ProvideCall) (update : SignedUpdate) : SubmitGateInfo where
  cohortId := call.cohortId
  beaconAddress := call.beaconAddress
  beaconType := call.beaconType
  update := update

def does (call : ProvideCall) (effect : ProviderEffect) : ProvideCall :=
  { call with effects := call.effects ++ [effect] }

def settles
    (call : ProvideCall)
    (answer : Except ProviderError (Option SignedUpdate)) : ProvideCall :=
  { call with held := none, answer := some answer }

/-- The call has its arguments and has read the beacon type. -/
def opened
    (context : UpdateProviderContext) (maps : ParticipantMaps)
    (cohortId : CohortId) (beaconAddress : String) : ProvideCall where
  cohortId := cohortId
  beaconAddress := beaconAddress
  beaconType :=
    (maps.cohortBeaconTypes.lookup cohortId).getD context.defaultBeaconType
  effects := []
  held := none
  answer := none

end ProvideCall

/-- `buildSignedUpdate` as the handler calls it.  `thrown` is what a call into
the method library throws, if any does. -/
def buildUpdate
    (context : UpdateProviderContext) (call : ProvideCall) (randomness : Nat)
    (thrown : Option String) : Except String SignedUpdate :=
  match
    buildSignedUpdate context.library context.identity call.beaconAddress
      call.beaconType randomness,
    thrown with
  | .error message, _ => .error message
  | .ok _, some message => .error message
  | .ok update, none => .ok update

/-- The decline of a baked mismatch. -/
def declineUpdate (maps : ParticipantMaps) (call : ProvideCall) :
    ProvideCall × ParticipantMaps :=
  ((call.does (.declined call.reason)).settles (.ok none),
    { maps with
      declinedCohorts := maps.declinedCohorts.set call.cohortId call.reason })

/-- The end of the handler: the body is recorded and returned. -/
def submitUpdate
    (maps : ParticipantMaps) (call : ProvideCall) (update : SignedUpdate) :
    ProvideCall × ParticipantMaps :=
  ((call.does (.recorded update)).settles (.ok (some update)),
    { maps with
      submittedUpdates := maps.submittedUpdates.set call.cohortId update })

/-- The handler up to its first `await`, or to its end where it has none. -/
def beginProvision
    (context : UpdateProviderContext) (maps : ParticipantMaps)
    (call : ProvideCall) (randomness : Nat) (thrown : Option String) :
    ProvideCall × ParticipantMaps :=
  if call.fit context = .mismatch then
    declineUpdate maps call
  else
    match buildUpdate context call randomness thrown with
    | .error message =>
        ((call.does (.built (.error message))).settles
            (.error (.build message)),
          maps)
    | .ok update =>
        if context.gated then
          ({ (call.does (.built (.ok update))).does
                (.offered (call.gateInfo update)) with
              held := some update },
            maps)
        else
          submitUpdate maps (call.does (.built (.ok update))) update

/-- Without a gate, and with a library that does not throw, the handler answers
at once what `provideUpdate` does. -/
theorem beginProvision_ungated
    {context : UpdateProviderContext} (ungated : context.gated = false)
    (maps : ParticipantMaps) (cohortId : CohortId) (beaconAddress : String)
    (randomness : Nat) :
    let begun :=
      beginProvision context maps (.opened context maps cohortId beaconAddress)
        randomness none
    let provided :=
      provideUpdate context.library context.identity context.defaultBeaconType
        maps cohortId beaconAddress randomness
    begun.1.answer = some (provided.1.mapError .build) ∧
      begun.2 = provided.2 := by
  simp only [beginProvision, provideUpdate, ProvideCall.fit, buildUpdate,
    ProvideCall.opened, ungated]
  split
  · exact ⟨rfl, rfl⟩
  · cases
      buildSignedUpdate context.library context.identity beaconAddress
        ((maps.cohortBeaconTypes.lookup cohortId).getD
          context.defaultBeaconType)
        randomness with
    | error message => exact ⟨rfl, rfl⟩
    | ok update => exact ⟨rfl, rfl⟩

end Handler

section Participant

/-! ## The participant -/

structure ProviderState where
  maps : ParticipantMaps
  calls : InsertionMap Nat ProvideCall
  nextCall : Nat

/-- What can happen to a participant: an advert arrives, the runner calls the
handler, or a gate settles. -/
inductive ProviderAction where
  | advert (cohortId : CohortId) (beaconType : String)
  | provide
      (cohortId : CohortId) (beaconAddress : String) (randomness : Nat)
      (thrown : Option String)
  | gateResolves (id : Nat)
  | gateRejects (id : Nat) (message : String)
  deriving DecidableEq, Repr

namespace ProviderState

/-- The call under an id and the body it keeps at its gate. -/
def held? (state : ProviderState) (id : Nat) :
    Option (ProvideCall × SignedUpdate) :=
  (state.calls.lookup id).bind fun call =>
    call.held.map fun update => (call, update)

/-- A call has gone on, to `moved.1`, and has left `moved.2` in the maps. -/
def moves
    (state : ProviderState) (id : Nat) (moved : ProvideCall × ParticipantMaps) :
    ProviderState :=
  { state with maps := moved.2, calls := state.calls.insert id moved.1 }

end ProviderState

variable (pickedCohortId : Option CohortId) (context : UpdateProviderContext)

def providerStep (state : ProviderState) : ProviderAction → ProviderState
  | .advert cohortId beaconType =>
      { state with
        maps := (shouldJoin pickedCohortId state.maps cohortId beaconType).2 }
  | .provide cohortId beaconAddress randomness thrown =>
      { state with nextCall := state.nextCall + 1 }.moves state.nextCall
        (beginProvision context state.maps
          (.opened context state.maps cohortId beaconAddress) randomness thrown)
  | .gateResolves id =>
      match state.held? id with
      | none => state
      | some (call, update) =>
          state.moves id
            (submitUpdate state.maps (call.does .gateResolved) update)
  | .gateRejects id message =>
      match state.held? id with
      | none => state
      | some (call, _) =>
          state.moves id
            ((call.does (.gateRejected message)).settles
                (.error (.gate message)),
              state.maps)

/-- A participant that starts from any maps.  A settling of a gate that is not
awaited does nothing, so the environment may offer everything. -/
def providerMachine (maps : ParticipantMaps) :
    Machine ProviderState ProviderAction where
  init := { maps, calls := ∅, nextCall := 0 }
  step := providerStep pickedCohortId context
  admits _ _ := True

end Participant

section Law

/-! ## What is promised of a call -/

/-- One call, whatever it has done so far.  `declines` and `builds` are its two
kinds; the rest bounds what it may have done by now. -/
structure AnswersProvision
    (context : UpdateProviderContext) (call : ProvideCall) : Prop where
  null_iff :
    call.answer = some (.ok none) ↔
      BakesOnlyOthers context.identity.genesisDocument call.beaconAddress
        call.beaconType
  declines :
    BakesOnlyOthers context.identity.genesisDocument call.beaconAddress
        call.beaconType →
      call.effects = [.declined call.reason]
  builds :
    ¬ BakesOnlyOthers context.identity.genesisDocument call.beaconAddress
        call.beaconType →
      ∃ outcome,
        call.effects.filterMap ProviderEffect.outcome? = [outcome] ∧
          (∃ randomness thrown,
            buildUpdate context call randomness thrown = outcome) ∧
          (∀ info,
            .offered info ∈ call.effects →
              context.gated ∧ outcome = .ok info.update ∧
                info = call.gateInfo info.update) ∧
          (∀ update, .recorded update ∈ call.effects → outcome = .ok update) ∧
          ∀ update,
            call.answer = some (.ok (some update)) →
              outcome = .ok update ∧ .recorded update ∈ call.effects
  recordsLate :
    context.gated →
      ∀ update earlier later,
        call.effects = earlier ++ .recorded update :: later →
          .gateResolved ∈ earlier
  rejects :
    ∀ error,
      call.answer = some (.error error) →
        (∃ message,
          error = .build message ∧ .built (.error message) ∈ call.effects) ∨
        ∃ message,
          error = .gate message ∧ .gateRejected message ∈ call.effects
  waits :
    call.answer = none →
      ∃ update,
        call.effects =
          [.built (.ok update), .offered (call.gateInfo update)]

/-- What the maps hold more once a call is answered. -/
def ParticipantMaps.recordsAnswer
    (maps : ParticipantMaps) (call : ProvideCall) : ParticipantMaps :=
  match call.answer with
  | some (.ok none) =>
      { maps with
        declinedCohorts := maps.declinedCohorts.set call.cohortId call.reason }
  | some (.ok (some update)) =>
      { maps with
        submittedUpdates := maps.submittedUpdates.set call.cohortId update }
  | some (.error _) => maps
  | none => maps

/-- One step of the participant: an answered call stays as it is, and the maps
change by what the newly answered call says, by an advert or not at all. -/
structure RecordsAnswer
    (pickedCohortId : Option CohortId) (context : UpdateProviderContext)
    (state : ProviderState) (action : ProviderAction) : Prop where
  asked :
    ∀ cohortId beaconAddress randomness thrown,
      action = .provide cohortId beaconAddress randomness thrown →
        ∃ call,
          (providerStep pickedCohortId context state action).calls.lookup
              state.nextCall =
            some call ∧
          call.cohortId = cohortId ∧ call.beaconAddress = beaconAddress ∧
            call.beaconType =
              (state.maps.cohortBeaconTypes.lookup cohortId).getD
                context.defaultBeaconType
  goesOn :
    ∀ id call,
      state.calls.lookup id = some call →
        ∃ later,
          (providerStep pickedCohortId context state action).calls.lookup id =
            some later ∧
          (later.cohortId, later.beaconAddress, later.beaconType) =
              (call.cohortId, call.beaconAddress, call.beaconType) ∧
            call.effects <+: later.effects ∧
              (call.answer.isSome → later = call)
  answered :
    ∀ id call,
      (providerStep pickedCohortId context state action).calls.lookup id =
          some call →
        call.answer.isSome →
          (∀ earlier,
            state.calls.lookup id = some earlier → earlier.answer = none) →
            (providerStep pickedCohortId context state action).maps =
              state.maps.recordsAnswer call
  nothingElse :
    (∀ id call,
      (providerStep pickedCohortId context state action).calls.lookup id =
          some call →
        call.answer.isSome → state.calls.lookup id = some call) →
      (∀ cohortId beaconType, action ≠ .advert cohortId beaconType) →
        (providerStep pickedCohortId context state action).maps = state.maps

end Law

section Standing

/-! ## Where a call stands -/

variable {pickedCohortId : Option CohortId} {context : UpdateProviderContext}

/-- Some run of the building ends as said. -/
def ProvideCall.Builds
    (context : UpdateProviderContext) (call : ProvideCall)
    (outcome : Except String SignedUpdate) : Prop :=
  ∃ randomness thrown, buildUpdate context call randomness thrown = outcome

/-- The six places a call can be in, each with all it has done. -/
inductive ProvideCall.Standing
    (context : UpdateProviderContext) (call : ProvideCall) : Prop where
  | declined
      (mismatch : call.fit context = .mismatch)
      (effects : call.effects = [.declined call.reason])
      (held : call.held = none) (answer : call.answer = some (.ok none))
  | failed (message : String)
      (fits : call.fit context ≠ .mismatch)
      (built : call.Builds context (.error message))
      (effects : call.effects = [.built (.error message)])
      (held : call.held = none)
      (answer : call.answer = some (.error (.build message)))
  | submitted (update : SignedUpdate)
      (fits : call.fit context ≠ .mismatch)
      (built : call.Builds context (.ok update))
      (ungated : ¬ context.gated)
      (effects : call.effects = [.built (.ok update), .recorded update])
      (held : call.held = none)
      (answer : call.answer = some (.ok (some update)))
  | waiting (update : SignedUpdate)
      (fits : call.fit context ≠ .mismatch)
      (built : call.Builds context (.ok update))
      (gated : context.gated)
      (effects :
        call.effects =
          [.built (.ok update), .offered (call.gateInfo update)])
      (held : call.held = some update) (answer : call.answer = none)
  | released (update : SignedUpdate)
      (fits : call.fit context ≠ .mismatch)
      (built : call.Builds context (.ok update))
      (gated : context.gated)
      (effects :
        call.effects =
          [.built (.ok update), .offered (call.gateInfo update), .gateResolved,
            .recorded update])
      (held : call.held = none)
      (answer : call.answer = some (.ok (some update)))
  | refused (update : SignedUpdate) (message : String)
      (fits : call.fit context ≠ .mismatch)
      (built : call.Builds context (.ok update))
      (gated : context.gated)
      (effects :
        call.effects =
          [.built (.ok update), .offered (call.gateInfo update),
            .gateRejected message])
      (held : call.held = none)
      (answer : call.answer = some (.error (.gate message)))

/-- A call kept at its gate is a waiting one. -/
theorem ProvideCall.Standing.waiting_of_held
    {call : ProvideCall} {update : SignedUpdate}
    (standing : call.Standing context) (held : call.held = some update) :
    call.fit context ≠ .mismatch ∧ call.Builds context (.ok update) ∧
      context.gated ∧
        call.effects =
            [.built (.ok update), .offered (call.gateInfo update)] ∧
          call.answer = none := by
  cases standing with
  | waiting other fits built gated effects same answer =>
      rw [same] at held
      cases held
      exact ⟨fits, built, gated, effects, answer⟩
  | declined _ _ empty _ => rw [empty] at held; cases held
  | failed _ _ _ _ empty _ => rw [empty] at held; cases held
  | submitted _ _ _ _ _ empty _ => rw [empty] at held; cases held
  | released _ _ _ _ _ empty _ => rw [empty] at held; cases held
  | refused _ _ _ _ _ _ empty _ => rw [empty] at held; cases held

variable (context) in
/-- What the first part of the handler makes of an opened call. -/
theorem standing_beginProvision
    (maps : ParticipantMaps) (cohortId : CohortId) (beaconAddress : String)
    (randomness : Nat) (thrown : Option String) :
    (beginProvision context maps (.opened context maps cohortId beaconAddress)
        randomness thrown).1.Standing context := by
  unfold beginProvision
  generalize opened :
    ProvideCall.opened context maps cohortId beaconAddress = call
  have empty : call.effects = [] := by rw [← opened]; rfl
  have unheld : call.held = none := by rw [← opened]; rfl
  have unanswered : call.answer = none := by rw [← opened]; rfl
  split
  · next mismatch =>
      refine .declined mismatch ?_ rfl rfl
      simp [declineUpdate, ProvideCall.does, ProvideCall.settles, empty,
        ProvideCall.reason]
  · next fits =>
      split
      · next message built =>
          refine .failed message fits ⟨randomness, thrown, built⟩ ?_ rfl rfl
          simp [ProvideCall.does, ProvideCall.settles, empty]
      · next update built =>
          by_cases gated : context.gated = true
          · rw [if_pos gated]
            refine
              .waiting update fits ⟨randomness, thrown, built⟩ gated ?_ rfl ?_
            · simp [ProvideCall.does, empty, ProvideCall.gateInfo]
            · exact unanswered
          · rw [if_neg gated]
            refine
              .submitted update fits ⟨randomness, thrown, built⟩ gated ?_ rfl
                rfl
            simp [submitUpdate, ProvideCall.does, ProvideCall.settles, empty]

theorem standing_release
    {call : ProvideCall} {update : SignedUpdate}
    (standing : call.Standing context) (held : call.held = some update)
    (maps : ParticipantMaps) :
    (submitUpdate maps (call.does .gateResolved) update).1.Standing context := by
  obtain ⟨fits, built, gated, effects, -⟩ := standing.waiting_of_held held
  refine .released update fits built gated ?_ rfl rfl
  simp [submitUpdate, ProvideCall.does, ProvideCall.settles, effects,
    ProvideCall.gateInfo]

theorem standing_refuse
    {call : ProvideCall} {update : SignedUpdate}
    (standing : call.Standing context) (held : call.held = some update)
    (message : String) :
    ((call.does (.gateRejected message)).settles
        (.error (.gate message))).Standing context := by
  obtain ⟨fits, built, gated, effects, -⟩ := standing.waiting_of_held held
  refine .refused update message fits built gated ?_ rfl rfl
  simp [ProvideCall.does, ProvideCall.settles, effects, ProvideCall.gateInfo]

/-- A body is recorded after its gate resolved, where there is a gate. -/
theorem gateResolved_mem_of_standing
    {call : ProvideCall} (standing : call.Standing context)
    (gated : context.gated) {update : SignedUpdate}
    {earlier later : List ProviderEffect}
    (split : call.effects = earlier ++ .recorded update :: later) :
    .gateResolved ∈ earlier := by
  have recorded : ProviderEffect.recorded update ∈ call.effects := by
    rw [split]
    exact List.mem_append_right _ List.mem_cons_self
  cases standing with
  | declined _ effects _ _ => simp [effects] at recorded
  | failed _ _ _ effects _ _ => simp [effects] at recorded
  | submitted _ _ _ ungated _ _ _ => exact absurd gated ungated
  | waiting _ _ _ _ effects _ _ => simp [effects] at recorded
  | refused _ _ _ _ _ effects _ _ => simp [effects] at recorded
  | released other _ _ _ effects _ _ =>
      rw [effects] at split
      match earlier, split with
      | [], split => simp at split
      | [_], split => simp at split
      | [_, _], split => simp at split
      | first :: second :: third :: rest, split =>
          simp only [List.cons_append, List.cons.injEq] at split
          rw [← split.2.2.1]
          simp

variable (context) in
theorem fit_eq_mismatch_iff (call : ProvideCall) :
    call.fit context = .mismatch ↔
      BakesOnlyOthers context.identity.genesisDocument call.beaconAddress
        call.beaconType :=
  classifyCohortFit_eq_mismatch_iff

theorem null_iff_of_standing
    {call : ProvideCall} (standing : call.Standing context) :
    call.answer = some (.ok none) ↔ call.fit context = .mismatch := by
  cases standing with
  | declined mismatch _ _ answer => simp [mismatch, answer]
  | failed _ fits _ _ _ answer => simp [fits, answer]
  | submitted _ fits _ _ _ _ answer => simp [fits, answer]
  | waiting _ fits _ _ _ _ answer => simp [fits, answer]
  | released _ fits _ _ _ _ answer => simp [fits, answer]
  | refused _ _ fits _ _ _ _ answer => simp [fits, answer]

theorem declines_of_standing
    {call : ProvideCall} (standing : call.Standing context)
    (mismatch : call.fit context = .mismatch) :
    call.effects = [.declined call.reason] := by
  cases standing with
  | declined _ effects _ _ => exact effects
  | failed _ fits => exact absurd mismatch fits
  | submitted _ fits => exact absurd mismatch fits
  | waiting _ fits => exact absurd mismatch fits
  | released _ fits => exact absurd mismatch fits
  | refused _ _ fits => exact absurd mismatch fits

/-- One build, and everything else the call does is about its outcome. -/
theorem builds_of_standing
    {call : ProvideCall} (standing : call.Standing context)
    (fits : call.fit context ≠ .mismatch) :
    ∃ outcome,
      call.effects.filterMap ProviderEffect.outcome? = [outcome] ∧
        (∃ randomness thrown,
          buildUpdate context call randomness thrown = outcome) ∧
        (∀ info,
          .offered info ∈ call.effects →
            context.gated ∧ outcome = .ok info.update ∧
              info = call.gateInfo info.update) ∧
        (∀ update, .recorded update ∈ call.effects → outcome = .ok update) ∧
        ∀ update,
          call.answer = some (.ok (some update)) →
            outcome = .ok update ∧ .recorded update ∈ call.effects := by
  cases standing with
  | declined mismatch => exact absurd mismatch fits
  | failed message _ built effects _ answer =>
      exact
        ⟨.error message, by simp [effects, ProviderEffect.outcome?], built,
          by simp [effects], by simp [effects], by simp [answer]⟩
  | submitted update _ built _ effects _ answer =>
      exact
        ⟨.ok update, by simp [effects, ProviderEffect.outcome?], built,
          by simp [effects], by simp [effects], by simp [effects, answer]⟩
  | waiting update _ built gated effects _ answer =>
      exact
        ⟨.ok update, by simp [effects, ProviderEffect.outcome?], built,
          by simp [effects, gated, ProvideCall.gateInfo], by simp [effects],
          by simp [answer]⟩
  | released update _ built gated effects _ answer =>
      exact
        ⟨.ok update, by simp [effects, ProviderEffect.outcome?], built,
          by simp [effects, gated, ProvideCall.gateInfo], by simp [effects],
          by simp [effects, answer]⟩
  | refused update _ _ built gated effects _ answer =>
      exact
        ⟨.ok update, by simp [effects, ProviderEffect.outcome?], built,
          by simp [effects, gated, ProvideCall.gateInfo], by simp [effects],
          by simp [answer]⟩

theorem rejects_of_standing
    {call : ProvideCall} (standing : call.Standing context)
    {error : ProviderError} (rejected : call.answer = some (.error error)) :
    (∃ message,
      error = .build message ∧ .built (.error message) ∈ call.effects) ∨
      ∃ message,
        error = .gate message ∧ .gateRejected message ∈ call.effects := by
  cases standing with
  | declined _ _ _ answer => simp [answer] at rejected
  | failed message _ _ effects _ answer =>
      rw [answer] at rejected
      cases rejected
      exact Or.inl ⟨message, rfl, by simp [effects]⟩
  | submitted _ _ _ _ _ _ answer => simp [answer] at rejected
  | waiting _ _ _ _ _ _ answer => simp [answer] at rejected
  | released _ _ _ _ _ _ answer => simp [answer] at rejected
  | refused _ message _ _ _ effects _ answer =>
      rw [answer] at rejected
      cases rejected
      exact Or.inr ⟨message, rfl, by simp [effects]⟩

theorem waits_of_standing
    {call : ProvideCall} (standing : call.Standing context)
    (unanswered : call.answer = none) :
    ∃ update,
      call.effects = [.built (.ok update), .offered (call.gateInfo update)] := by
  cases standing with
  | declined _ _ _ answer => simp [answer] at unanswered
  | failed _ _ _ _ _ answer => simp [answer] at unanswered
  | submitted _ _ _ _ _ _ answer => simp [answer] at unanswered
  | waiting update _ _ _ effects _ _ => exact ⟨update, effects⟩
  | released _ _ _ _ _ _ answer => simp [answer] at unanswered
  | refused _ _ _ _ _ _ _ answer => simp [answer] at unanswered

theorem answersProvision_of_standing
    {call : ProvideCall} (standing : call.Standing context) :
    AnswersProvision context call := by
  have mismatch_iff := fit_eq_mismatch_iff context call
  constructor
  · exact (null_iff_of_standing standing).trans mismatch_iff
  · intro others
    exact declines_of_standing standing (mismatch_iff.mpr others)
  · intro someOwn
    apply builds_of_standing standing
    intro mismatch
    exact someOwn (mismatch_iff.mp mismatch)
  · intro gated update earlier later split
    exact gateResolved_mem_of_standing standing gated split
  · intro error rejected
    exact rejects_of_standing standing rejected
  · intro unanswered
    exact waits_of_standing standing unanswered

end Standing

section Steps

/-! ## One step -/

variable (pickedCohortId : Option CohortId) {context : UpdateProviderContext}

/-- What a call has done by `moved` is what it had done before and more, and
what it leaves in the maps is what its answer says. -/
structure Moves
    (context : UpdateProviderContext) (maps : ParticipantMaps)
    (call : ProvideCall) (moved : ProvideCall × ParticipantMaps) : Prop where
  standing : moved.1.Standing context
  asked :
    (moved.1.cohortId, moved.1.beaconAddress, moved.1.beaconType) =
      (call.cohortId, call.beaconAddress, call.beaconType)
  effects : call.effects <+: moved.1.effects
  maps : moved.2 = maps.recordsAnswer moved.1

theorem moves_submitUpdate
    {maps : ParticipantMaps} {call : ProvideCall} {update : SignedUpdate}
    (standing : call.Standing context) (held : call.held = some update) :
    Moves context maps call
      (submitUpdate maps (call.does .gateResolved) update) := by
  refine ⟨standing_release standing held maps, rfl, ?_, rfl⟩
  simp [submitUpdate, ProvideCall.does, ProvideCall.settles]

theorem moves_refuse
    {maps : ParticipantMaps} {call : ProvideCall} {update : SignedUpdate}
    (standing : call.Standing context) (held : call.held = some update)
    (message : String) :
    Moves context maps call
      ((call.does (.gateRejected message)).settles (.error (.gate message)),
        maps) := by
  refine ⟨standing_refuse standing held message, rfl, ?_, rfl⟩
  simp [ProvideCall.does, ProvideCall.settles]

theorem moves_beginProvision
    (maps : ParticipantMaps) (cohortId : CohortId) (beaconAddress : String)
    (randomness : Nat) (thrown : Option String) :
    Moves context maps (.opened context maps cohortId beaconAddress)
      (beginProvision context maps (.opened context maps cohortId beaconAddress)
        randomness thrown) := by
  let opened := ProvideCall.opened context maps cohortId beaconAddress
  let begun := beginProvision context maps opened randomness thrown
  -- Each branch that answers writes what it answers, and one that waits at the
  -- gate has written nothing.
  have ends :
      (begun.1.cohortId, begun.1.beaconAddress, begun.1.beaconType) =
          (opened.cohortId, opened.beaconAddress, opened.beaconType) ∧
        begun.2 = maps.recordsAnswer begun.1 := by
    dsimp only [begun]
    unfold beginProvision
    split
    · exact ⟨rfl, rfl⟩
    · split
      · exact ⟨rfl, rfl⟩
      · split
        · exact ⟨rfl, rfl⟩
        · exact ⟨rfl, rfl⟩
  have standing :=
    standing_beginProvision context maps cohortId beaconAddress randomness
      thrown
  exact ⟨standing, ends.1, List.nil_prefix, ends.2⟩

/-- The calls of a state stand where they can, under ids given out before. -/
structure CallsStand
    (context : UpdateProviderContext) (state : ProviderState) : Prop where
  standing :
    ∀ id call, state.calls.lookup id = some call → call.Standing context
  given : ∀ id, state.nextCall ≤ id → state.calls.lookup id = none

theorem ProviderState.held?_eq_some
    {state : ProviderState} {id : Nat} {call : ProvideCall}
    {update : SignedUpdate} (found : state.held? id = some (call, update)) :
    state.calls.lookup id = some call ∧ call.held = some update := by
  unfold ProviderState.held? at found
  cases looked : state.calls.lookup id with
  | none => simp [looked] at found
  | some other =>
      cases kept : other.held with
      | none => simp [looked, kept] at found
      | some body =>
          simp [looked, kept] at found
          obtain ⟨rfl, rfl⟩ := found
          exact ⟨rfl, kept⟩

/-- The call whose gate settles waits, with its update in hand. -/
theorem CallsStand.of_held?
    {state : ProviderState} (stand : CallsStand context state) {id : Nat}
    {call : ProvideCall} {update : SignedUpdate}
    (found : state.held? id = some (call, update)) :
    state.calls.lookup id = some call ∧ call.answer = none ∧
      call.Standing context ∧ call.held = some update := by
  obtain ⟨looked, held⟩ := ProviderState.held?_eq_some found
  have standing := stand.standing id call looked
  exact ⟨looked, (standing.waiting_of_held held).2.2.2.2, standing, held⟩

/-- What a step can do: take an advert, nothing, or move one call on, a new
one or one at its gate. -/
theorem providerStep_cases
    {state : ProviderState} (stand : CallsStand context state)
    (action : ProviderAction) :
    (∃ cohortId beaconType,
      action = .advert cohortId beaconType ∧
        providerStep pickedCohortId context state action =
          { state with
            maps :=
              (shouldJoin pickedCohortId state.maps cohortId beaconType).2 }) ∨
    ((∀ cohortId beaconType, action ≠ .advert cohortId beaconType) ∧
      (∀ cohortId beaconAddress randomness thrown,
        action ≠ .provide cohortId beaconAddress randomness thrown) ∧
      providerStep pickedCohortId context state action = state) ∨
    (∃ cohortId beaconAddress randomness thrown moved,
      action = .provide cohortId beaconAddress randomness thrown ∧
        Moves context state.maps
          (.opened context state.maps cohortId beaconAddress) moved ∧
        providerStep pickedCohortId context state action =
          { state with nextCall := state.nextCall + 1 }.moves state.nextCall
            moved) ∨
    ∃ id call moved,
      (∀ cohortId beaconType, action ≠ .advert cohortId beaconType) ∧
        (∀ cohortId beaconAddress randomness thrown,
          action ≠ .provide cohortId beaconAddress randomness thrown) ∧
        state.calls.lookup id = some call ∧ call.answer = none ∧
          Moves context state.maps call moved ∧
            providerStep pickedCohortId context state action =
              state.moves id moved := by
  cases action with
  | advert cohortId beaconType =>
      exact Or.inl ⟨cohortId, beaconType, rfl, rfl⟩
  | provide cohortId beaconAddress randomness thrown =>
      refine
        Or.inr (Or.inr (Or.inl
          ⟨cohortId, beaconAddress, randomness, thrown, _, rfl, ?_, rfl⟩))
      exact
        moves_beginProvision state.maps cohortId beaconAddress randomness thrown
  | gateResolves id =>
      cases found : state.held? id with
      | none =>
          refine Or.inr (Or.inl ⟨nofun, nofun, ?_⟩)
          simp only [providerStep, found]
      | some pair =>
          obtain ⟨looked, waits, standing, held⟩ := stand.of_held? found
          refine
            Or.inr (Or.inr (Or.inr
              ⟨id, pair.1, _, nofun, nofun, looked, waits,
                moves_submitUpdate standing held, ?_⟩))
          simp only [providerStep, found]
  | gateRejects id message =>
      cases found : state.held? id with
      | none =>
          refine Or.inr (Or.inl ⟨nofun, nofun, ?_⟩)
          simp only [providerStep, found]
      | some pair =>
          obtain ⟨looked, waits, standing, held⟩ := stand.of_held? found
          refine
            Or.inr (Or.inr (Or.inr
              ⟨id, pair.1, _, nofun, nofun, looked, waits,
                moves_refuse standing held message, ?_⟩))
          simp only [providerStep, found]

theorem ProviderState.lookup_moves
    (state : ProviderState) (id other : Nat)
    (moved : ProvideCall × ParticipantMaps) :
    (state.moves id moved).calls.lookup other =
      if other = id then some moved.1 else state.calls.lookup other := by
  by_cases same : other = id
  · rw [if_pos same, same]
    exact AList.lookup_insert state.calls
  · rw [if_neg same]
    exact AList.lookup_insert_ne same

theorem callsStand_moves
    {state : ProviderState} (stand : CallsStand context state)
    {call : ProvideCall} {moved : ProvideCall × ParticipantMaps}
    (moves : Moves context state.maps call moved) {id nextCall : Nat}
    (fresh : id < nextCall) (grows : state.nextCall ≤ nextCall) :
    CallsStand context
      ({ state with nextCall }.moves id moved) := by
  constructor
  · intro other found looked
    rw [ProviderState.lookup_moves] at looked
    split at looked
    · cases looked
      exact moves.standing
    · exact stand.standing other found looked
  · intro other beyond
    have bound : nextCall ≤ other := beyond
    have different : other ≠ id := by omega
    rw [ProviderState.lookup_moves, if_neg different]
    exact stand.given other (by omega)

theorem callsStand_step
    {state : ProviderState} (stand : CallsStand context state)
    (action : ProviderAction) :
    CallsStand context (providerStep pickedCohortId context state action) := by
  rcases providerStep_cases pickedCohortId stand action with
    ⟨_, _, -, step⟩ | ⟨-, -, step⟩ | ⟨_, _, _, _, moved, -, moves, step⟩ |
      ⟨id, call, moved, -, -, looked, -, moves, step⟩
  · rw [step]
    exact ⟨stand.standing, stand.given⟩
  · rw [step]
    exact stand
  · rw [step]
    exact callsStand_moves stand moves (Nat.lt_succ_self _) (Nat.le_succ _)
  · rw [step]
    have fresh : id < state.nextCall := by
      by_contra beyond
      rw [stand.given id (by omega)] at looked
      cases looked
    exact callsStand_moves stand moves fresh (Nat.le_refl _)

variable (context) in
theorem callsStand_always (maps : ParticipantMaps) :
    (providerMachine pickedCohortId context maps).Always
      (CallsStand context) := by
  apply Machine.Always.of_inductive
  · exact ⟨nofun, fun _ _ => rfl⟩
  · intro state action stand _
    exact callsStand_step pickedCohortId stand action

variable (context) in
/-- A call that moves on keeps what it was asked and what it has done, and the
others are as they were. -/
theorem goesOn_moves
    {state : ProviderState} {id nextCall : Nat}
    {moved : ProvideCall × ParticipantMaps}
    (moves :
      ∀ call,
        state.calls.lookup id = some call →
          call.answer = none ∧ Moves context state.maps call moved)
    (other : Nat) (found : ProvideCall)
    (looked : state.calls.lookup other = some found) :
    ∃ later,
      ({ state with nextCall }.moves id moved).calls.lookup other =
        some later ∧
      (later.cohortId, later.beaconAddress, later.beaconType) =
          (found.cohortId, found.beaconAddress, found.beaconType) ∧
        found.effects <+: later.effects ∧
          (found.answer.isSome → later = found) := by
  rw [ProviderState.lookup_moves]
  by_cases same : other = id
  · rw [same] at looked
    obtain ⟨unanswered, move⟩ := moves found looked
    rw [if_pos same]
    exact ⟨moved.1, rfl, move.asked, move.effects, by simp [unanswered]⟩
  · rw [if_neg same]
    exact ⟨found, looked, rfl, List.prefix_refl _, fun _ => rfl⟩

/-- The maps after a call moved on, by the newly answered call. -/
theorem answered_moves
    {state : ProviderState} {id nextCall : Nat} {call : ProvideCall}
    {moved : ProvideCall × ParticipantMaps}
    (move : Moves context state.maps call moved)
    (other : Nat) (found : ProvideCall)
    (looked :
      ({ state with nextCall }.moves id moved).calls.lookup other =
        some found)
    (answered : found.answer.isSome)
    (before :
      ∀ earlier,
        state.calls.lookup other = some earlier → earlier.answer = none) :
    moved.2 = state.maps.recordsAnswer found := by
  rw [ProviderState.lookup_moves] at looked
  by_cases same : other = id
  · rw [if_pos same] at looked
    cases looked
    exact move.maps
  · rw [if_neg same] at looked
    rw [before found looked] at answered
    cases answered

/-- Where no call is newly answered, moving one on leaves the maps. -/
theorem nothingElse_moves
    {state : ProviderState} {id nextCall : Nat} {call : ProvideCall}
    {moved : ProvideCall × ParticipantMaps}
    (move : Moves context state.maps call moved)
    (before :
      ∀ earlier, state.calls.lookup id = some earlier → earlier.answer = none)
    (none_new :
      ∀ other found,
        ({ state with nextCall }.moves id moved).calls.lookup other =
            some found →
          found.answer.isSome → state.calls.lookup other = some found) :
    moved.2 = state.maps := by
  have here := none_new id moved.1
  rw [ProviderState.lookup_moves, if_pos rfl] at here
  rw [move.maps]
  cases answer : moved.1.answer with
  | none => simp [ParticipantMaps.recordsAnswer, answer]
  | some value =>
      have old := here rfl (by simp [answer])
      rw [before moved.1 old] at answer
      cases answer

/-- A step that leaves the calls answers none. -/
theorem answered_of_sameCalls
    (state : ProviderState) {after : ProviderState} (same : after.calls = state.calls) :
    (∀ id call,
        state.calls.lookup id = some call →
          ∃ later,
            after.calls.lookup id = some later ∧
              (later.cohortId, later.beaconAddress, later.beaconType) =
                  (call.cohortId, call.beaconAddress, call.beaconType) ∧
                call.effects <+: later.effects ∧
                  (call.answer.isSome → later = call)) ∧
      ∀ id call,
        after.calls.lookup id = some call →
          call.answer.isSome →
            (∀ earlier,
              state.calls.lookup id = some earlier → earlier.answer = none) →
              after.maps = state.maps.recordsAnswer call := by
  rw [same]
  constructor
  · intro id call looked
    exact ⟨call, looked, rfl, List.prefix_refl _, fun _ => rfl⟩
  · intro id call looked answered before
    rw [before call looked] at answered
    cases answered

theorem recordsAnswer_of_callsStand
    {state : ProviderState} (stand : CallsStand context state)
    (action : ProviderAction) :
    RecordsAnswer pickedCohortId context state action := by
  rcases providerStep_cases pickedCohortId stand action with
    ⟨cohortId, beaconType, rfl, step⟩ | ⟨noAdvert, noProvide, step⟩ |
      ⟨cohortId, beaconAddress, randomness, thrown, moved, rfl, move, step⟩ |
      ⟨id, call, moved, noAdvert, noProvide, looked, waits, move, step⟩
  · have kept := congrArg ProviderState.calls step
    obtain ⟨goesOn, answered⟩ := answered_of_sameCalls state kept
    refine ⟨nofun, goesOn, answered, ?_⟩
    intro _ noAdvert
    exact absurd rfl (noAdvert cohortId beaconType)
  · have kept := congrArg ProviderState.calls step
    obtain ⟨goesOn, answered⟩ := answered_of_sameCalls state kept
    refine ⟨?_, goesOn, answered, ?_⟩
    · intro cohortId beaconAddress randomness thrown provides
      exact absurd provides (noProvide _ _ _ _)
    · intro _ _
      rw [step]
  · have fresh : state.calls.lookup state.nextCall = none :=
      stand.given _ (Nat.le_refl _)
    have unanswered (earlier : ProvideCall)
        (looked : state.calls.lookup state.nextCall = some earlier) :
        earlier.answer = none := by
      rw [fresh] at looked
      cases looked
    refine ⟨?_, ?_, ?_, ?_⟩
    · intro _ _ _ _ provides
      cases provides
      have asked := move.asked
      simp only [ProvideCall.opened, Prod.mk.injEq] at asked
      refine ⟨moved.1, ?_, asked.1, asked.2.1, asked.2.2⟩
      rw [step, ProviderState.lookup_moves, if_pos rfl]
    · intro id call looked
      rw [step]
      refine goesOn_moves context ?_ id call looked
      intro other here
      rw [fresh] at here
      cases here
    · rw [step]
      exact answered_moves move
    · intro none_new _
      rw [step] at none_new ⊢
      exact nothingElse_moves move unanswered none_new
  · have unanswered (earlier : ProvideCall)
        (here : state.calls.lookup id = some earlier) :
        earlier.answer = none := by
      rw [looked] at here
      cases here
      exact waits
    refine ⟨?_, ?_, ?_, ?_⟩
    · intro cohortId beaconAddress randomness thrown provides
      exact absurd provides (noProvide _ _ _ _)
    · intro other found held
      rw [step]
      refine goesOn_moves context ?_ other found held
      intro earlier here
      rw [looked] at here
      cases here
      exact ⟨waits, move⟩
    · rw [step]
      exact answered_moves move
    · intro none_new _
      rw [step] at none_new ⊢
      exact nothingElse_moves move unanswered none_new

end Steps

section Promise

/-! ## Over every run -/

variable (pickedCohortId : Option CohortId) (context : UpdateProviderContext)

/-- From any maps, and with gates settling in any order: each call is answered
as promised, and each step leaves in the maps what it says. -/
theorem provides_always (maps : ParticipantMaps) :
    (providerMachine pickedCohortId context maps).Always
        (fun state =>
          ∀ id call,
            state.calls.lookup id = some call →
              AnswersProvision context call) ∧
      (providerMachine pickedCohortId context maps).Each
        (RecordsAnswer pickedCohortId context) := by
  have always := callsStand_always pickedCohortId context maps
  constructor
  · refine always.mono ?_
    intro state stand id call looked
    exact answersProvision_of_standing (stand.standing id call looked)
  · refine always.each ?_
    intro state action stand _
    exact recordsAnswer_of_callsStand pickedCohortId stand action

/-- `null` exactly where the genesis bakes some aggregate beacon that is not
the cohort's. -/
def NullForForeignBeacon : Prop :=
  ∀ maps,
    (providerMachine pickedCohortId context maps).Always fun state =>
      ∀ id call,
        state.calls.lookup id = some call →
          (call.answer = some (.ok none) ↔
            ∃ entry ∈ bakedAggregates context.identity.genesisDocument,
              ¬ entry.IsBeaconOf call.beaconAddress call.beaconType)

/-- An identity whose genesis bakes two CAS beacons. -/
def twiceBakedContext : UpdateProviderContext where
  library := plainLibrary
  identity := {
    did := "did:btcr2:x1"
    keys := "k1"
    genesisDocument := some {
      service := some
        [ ⟨some "CASBeacon", some "bitcoin:tb1pcas"⟩,
          ⟨some "CASBeacon", some "bitcoin:tb1pother"⟩ ]
      others := "" } }
  defaultBeaconType := .casBeacon
  gated := false

theorem not_nullForForeignBeacon :
    ¬ NullForForeignBeacon none twiceBakedContext := by
  intro promise
  have answers :=
    promise .fresh [.provide 0 "tb1pcas" 0 none] ⟨trivial, trivial⟩ 0 _ rfl
  have null := answers.mpr
    ⟨⟨some "CASBeacon", some "bitcoin:tb1pother"⟩, by decide,
      fun same => absurd same.2 (by decide)⟩
  cases null

end Promise

end Btcr2Aggregation
