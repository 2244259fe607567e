import Btcr2Aggregation.Shared.Updates

/-!
# The updates of one identity over its rounds

A participant answers the runner's `onProvideUpdate` once a round: it declines
where the baked genesis does not fit the cohort, and submits one signed update
otherwise.  An identity can be taken from round to round.  Each of its updates
is built against its genesis, so they form a version chain exactly as long as
no second one is included.
-/

namespace Btcr2Aggregation

section Provider

/-! ## One round -/

/-- The per-cohort maps of a participant. -/
structure ParticipantMaps where
  cohortBeaconTypes : InsertionMap CohortId BeaconType
  submittedUpdates : InsertionMap CohortId SignedUpdate
  declinedCohorts : InsertionMap CohortId String

def ParticipantMaps.fresh : ParticipantMaps where
  cohortBeaconTypes := ∅
  submittedUpdates := ∅
  declinedCohorts := ∅

/-- No pick is the legacy accept-all. -/
def matchesPickedCohort
    (pickedCohortId : Option CohortId) (advertCohortId : CohortId) : Bool :=
  pickedCohortId = none ∨ pickedCohortId = some advertCohortId

def normalizeBeaconType (beaconType : String) : BeaconType :=
  if beaconType = "SMTBeacon" then .smtBeacon else .casBeacon

/-- `shouldJoin`: the advertised type of a joined cohort is recorded. -/
def shouldJoin
    (pickedCohortId : Option CohortId) (maps : ParticipantMaps)
    (cohortId : CohortId) (beaconType : String) : Bool × ParticipantMaps :=
  if matchesPickedCohort pickedCohortId cohortId then
    (true,
      { maps with
        cohortBeaconTypes :=
          maps.cohortBeaconTypes.set cohortId (normalizeBeaconType beaconType) })
  else
    (false, maps)

def declineReason
    (cohortId : CohortId) (beaconAddress : String) (beaconType : BeaconType) :
    String :=
  "baked aggregate beacon does not match cohort " ++ toString cohortId ++ " (" ++
    beaconType.name ++ " at bitcoin:" ++ beaconAddress ++
    "); declining (cooperative non-inclusion)"

/-- The answer of `createUpdateProvider`'s handler: `none` is a decline.  The
submit gate only defers it. -/
def provideUpdate
    (library : MethodLibrary) (identity : Identity)
    (defaultBeaconType : BeaconType) (maps : ParticipantMaps)
    (cohortId : CohortId) (beaconAddress : String) (randomness : Nat) :
    Except String (Option SignedUpdate) × ParticipantMaps :=
  let beaconType :=
    (maps.cohortBeaconTypes.lookup cohortId).getD defaultBeaconType
  if
      classifyCohortFit identity.genesisDocument beaconAddress beaconType =
        .mismatch then
    (.ok none,
      { maps with
        declinedCohorts :=
          maps.declinedCohorts.set cohortId
            (declineReason cohortId beaconAddress beaconType) })
  else
    match
      buildSignedUpdate library identity beaconAddress beaconType randomness with
    | .error message => (.error message, maps)
    | .ok update =>
        (.ok (some update),
          { maps with
            submittedUpdates := maps.submittedUpdates.set cohortId update })

/-- A cohort an identity joins.  `included` is whether the cohort ends with the
update it was given. -/
structure Round where
  cohortId : CohortId
  advertisedType : String
  beaconAddress : String
  randomness : Nat
  included : Bool
  deriving DecidableEq, Repr

namespace Round

def beaconType (round : Round) : BeaconType :=
  normalizeBeaconType round.advertisedType

/-- The identity can ride the round, and the round ends with its update. -/
def takesUpdate (identity : Identity) (round : Round) : Bool :=
  round.included ∧
    classifyCohortFit identity.genesisDocument round.beaconAddress
        round.beaconType ≠
      .mismatch

end Round

/-- Join the round's cohort and answer its request for an update. -/
def playRound
    (library : MethodLibrary) (identity : Identity)
    (defaultBeaconType : BeaconType) (maps : ParticipantMaps) (round : Round) :
    Except String (Option SignedUpdate) × ParticipantMaps :=
  let joined :=
    (shouldJoin (some round.cohortId) maps round.cohortId
      round.advertisedType).2
  provideUpdate library identity defaultBeaconType joined round.cohortId
    round.beaconAddress round.randomness

/-- The update a round ends with, if any. -/
def includedUpdate?
    (round : Round) (answer : Except String (Option SignedUpdate)) :
    Option SignedUpdate :=
  if round.included then
    match answer with
    | .ok update => update
    | .error _ => none
  else
    none

/-- The included updates of an identity's rounds, in order. -/
def includedUpdates
    (library : MethodLibrary) (identity : Identity)
    (defaultBeaconType : BeaconType) :
    ParticipantMaps → List Round → List SignedUpdate
  | _, [] => []
  | maps, round :: rounds =>
      let played := playRound library identity defaultBeaconType maps round
      (includedUpdate? round played.1).toList ++
        includedUpdates library identity defaultBeaconType played.2 rounds

end Provider

section Answers

/-! ## What a round answers -/

variable (library : MethodLibrary) (identity : Identity)
  (defaultBeaconType : BeaconType)

theorem answer_provideUpdate
    {maps : ParticipantMaps} {cohortId : CohortId} {beaconType : BeaconType}
    (recorded : maps.cohortBeaconTypes.lookup cohortId = some beaconType)
    (beaconAddress : String) (randomness : Nat) :
    (provideUpdate library identity defaultBeaconType maps cohortId beaconAddress
        randomness).1 =
      if
          classifyCohortFit identity.genesisDocument beaconAddress beaconType =
            .mismatch then
        .ok none
      else
        (buildSignedUpdate library identity beaconAddress beaconType
          randomness).map some := by
  simp only [provideUpdate, recorded, Option.getD_some]
  split
  · rfl
  · cases
      buildSignedUpdate library identity beaconAddress beaconType
        randomness <;> rfl

/-- Nothing an earlier round left in the maps matters. -/
theorem answer_playRound (maps : ParticipantMaps) (round : Round) :
    (playRound library identity defaultBeaconType maps round).1 =
      if
          classifyCohortFit identity.genesisDocument round.beaconAddress
              round.beaconType =
            .mismatch then
        .ok none
      else
        (buildSignedUpdate library identity round.beaconAddress round.beaconType
          round.randomness).map some := by
  have recorded :
      (shouldJoin (some round.cohortId) maps round.cohortId
            round.advertisedType).2.cohortBeaconTypes.lookup round.cohortId =
        some round.beaconType := by
    simp [shouldJoin, matchesPickedCohort, Round.beaconType]
  exact
    answer_provideUpdate library identity defaultBeaconType recorded
      round.beaconAddress round.randomness

/-- A round ends with an update exactly where it takes one, and that update is
the one built from the genesis. -/
theorem includedUpdate?_playRound (maps : ParticipantMaps) (round : Round) :
    if round.takesUpdate identity then
      ∃ update,
        includedUpdate? round
            (playRound library identity defaultBeaconType maps round).1 =
          some update ∧
        buildSignedUpdate library identity round.beaconAddress round.beaconType
            round.randomness =
          .ok update
    else
      includedUpdate? round
          (playRound library identity defaultBeaconType maps round).1 =
        none := by
  rw [answer_playRound]
  cases included : round.included with
  | false => simp [includedUpdate?, Round.takesUpdate, included]
  | true =>
      by_cases mismatch :
          classifyCohortFit identity.genesisDocument round.beaconAddress
              round.beaconType =
            .mismatch
      · simp [includedUpdate?, Round.takesUpdate, included, mismatch]
      · obtain ⟨update, built⟩ :=
          (buildSignedUpdate_isOk_iff library round.randomness).mpr mismatch
        simp [includedUpdate?, Round.takesUpdate, included, mismatch, built,
          Except.map]

/-- The included updates are as many as the rounds that take one. -/
theorem length_includedUpdates (rounds : List Round) :
    ∀ maps,
      (includedUpdates library identity defaultBeaconType maps rounds).length =
        (rounds.filter (Round.takesUpdate identity)).length := by
  induction rounds with
  | nil =>
      intro maps
      rfl
  | cons round rounds inductionHypothesis =>
      intro maps
      have answer :=
        includedUpdate?_playRound library identity defaultBeaconType maps round
      rw [includedUpdates, List.length_append, inductionHypothesis,
        List.filter_cons]
      by_cases takes : round.takesUpdate identity = true
      · rw [if_pos takes] at answer ⊢
        obtain ⟨update, included, -⟩ := answer
        rw [included, List.length_cons]
        exact Nat.add_comm _ _
      · rw [if_neg takes] at answer ⊢
        rw [answer]
        exact Nat.zero_add _

/-- Every included update starts from the genesis resolution and claims
version 2. -/
theorem of_mem_includedUpdates {update : SignedUpdate} (rounds : List Round) :
    ∀ maps,
      update ∈ includedUpdates library identity defaultBeaconType maps rounds →
        update.sourceHash = library.hash (genesisResolution library identity) ∧
          update.targetVersionId = 2 ∧ update.patch.length = 1 := by
  induction rounds with
  | nil =>
      intro maps member
      cases member
  | cons round rounds inductionHypothesis =>
      intro maps member
      have answer :=
        includedUpdate?_playRound library identity defaultBeaconType maps round
      rw [includedUpdates, List.mem_append] at member
      rcases member with now | later
      · rw [Option.mem_toList] at now
        by_cases takes : round.takesUpdate identity = true
        · rw [if_pos takes] at answer
          obtain ⟨built, included, equality⟩ := answer
          rw [included] at now
          cases now
          obtain ⟨patch, source, target⟩ := buildSignedUpdate_ok library equality
          exact ⟨source, target, by rw [patch]; rfl⟩
        · rw [if_neg takes] at answer
          rw [answer] at now
          cases now
      · exact inductionHypothesis _ later

end Answers

section Chain

/-! ## The chain -/

/-- The document that results from some updates. -/
def documentAfter (document : DidDocument) (updates : List SignedUpdate) :
    DidDocument :=
  updates.foldl
    (fun document update => update.patch.foldl DidDocument.addService document)
    document

def SignedUpdate.sourceVersionId (update : SignedUpdate) : Nat :=
  update.targetVersionId - 1

/-- The updates of one identity form a version chain. -/
structure UpdateChain
    (library : MethodLibrary) (document : DidDocument)
    (updates : List SignedUpdate) : Prop where
  applied :
    ∀ earlier update later,
      updates = earlier ++ update :: later →
        update.sourceHash = library.hash (documentAfter document earlier)
  sourcesIncrease :
    (updates.map SignedUpdate.sourceVersionId).Pairwise (· < ·)
  targetsDistinct :
    (updates.map fun update => update.targetVersionId).Nodup
  appendedOnce : (updates.flatMap fun update => update.patch).Nodup

/-- The rounds of an identity leave a version chain exactly where at most one
of them takes its update. -/
theorem updateChain_iff_atMostOne
    (library : MethodLibrary) (identity : Identity)
    (defaultBeaconType : BeaconType) (maps : ParticipantMaps)
    (rounds : List Round) :
    UpdateChain library (genesisResolution library identity)
        (includedUpdates library identity defaultBeaconType maps rounds) ↔
      (rounds.filter (Round.takesUpdate identity)).length ≤ 1 := by
  have facts (update : SignedUpdate) :=
    @of_mem_includedUpdates library identity defaultBeaconType update rounds maps
  rw [← length_includedUpdates library identity defaultBeaconType rounds maps]
  generalize
    includedUpdates library identity defaultBeaconType maps rounds = updates at *
  constructor
  · intro chain
    match updates, chain, facts with
    | [], _, _ => exact Nat.zero_le 1
    | [_], _, _ => exact Nat.le_refl 1
    | first :: second :: rest, chain, facts =>
        have distinct := chain.targetsDistinct
        have firstTarget := (facts first List.mem_cons_self).2.1
        have secondTarget :=
          (facts second (List.mem_cons_of_mem _ List.mem_cons_self)).2.1
        simp [firstTarget, secondTarget] at distinct
  · intro atMostOne
    match updates, facts, atMostOne with
    | [], _, _ =>
        refine ⟨?_, List.Pairwise.nil, List.nodup_nil, List.nodup_nil⟩
        intro earlier update later split
        simp at split
    | [update], facts, _ =>
        obtain ⟨source, -, single⟩ := facts update List.mem_cons_self
        refine ⟨?_, List.pairwise_singleton _ _, List.nodup_singleton _, ?_⟩
        · intro earlier other later split
          cases earlier with
          | nil =>
              cases split
              exact source
          | cons head tail => simp at split
        · obtain ⟨service, patch⟩ := List.length_eq_one_iff.mp single
          simp [patch]

/-- An identity may be taken through any rounds. -/
def UpdateChainPromise
    (library : MethodLibrary) (identity : Identity)
    (defaultBeaconType : BeaconType) : Prop :=
  ∀ maps rounds,
    UpdateChain library (genesisResolution library identity)
      (includedUpdates library identity defaultBeaconType maps rounds)

/-- A library that hashes a document to the list of its service ids. -/
def plainLibrary : MethodLibrary where
  external did _ := ⟨did, [did ++ "#key-0"], []⟩
  deterministic keys _ := ⟨keys, [keys ++ "#initialKey"], []⟩
  decodeNetwork _ := .mutinynet
  genesisP2trBeaconAddress keys _ := keys
  hash := serviceIds
  construct document patch version := {
    patch
    sourceHash := serviceIds document
    targetHash := serviceIds (patch.foldl DidDocument.addService document)
    targetVersionId := version + 1 }
  sign _ _ _ _ randomness := toString randomness
  patch_construct _ _ _ := rfl
  sourceHash_construct _ _ _ := rfl
  targetVersionId_construct _ _ _ := rfl
where
  serviceIds (document : DidDocument) : String :=
    String.join (document.service.map Service.id)

def keyIdentity : Identity where
  did := "did:btcr2:k1"
  keys := "k1"
  genesisDocument := none

/-- A CAS cohort and then an SMT cohort, both completed. -/
def twoRounds : List Round :=
  [ ⟨0, "CASBeacon", "tb1pcas", 0, true⟩,
    ⟨1, "SMTBeacon", "tb1psmt", 1, true⟩ ]

theorem not_updateChainPromise :
    ¬ UpdateChainPromise plainLibrary keyIdentity .casBeacon := by
  intro promise
  have distinct := (promise .fresh twoRounds).targetsDistinct
  have targets :
      (includedUpdates plainLibrary keyIdentity .casBeacon .fresh twoRounds).map
          (fun update => update.targetVersionId) =
        [2, 2] := by
    rfl
  rw [targets] at distinct
  simp at distinct

end Chain

end Btcr2Aggregation
