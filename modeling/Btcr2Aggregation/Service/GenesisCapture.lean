import Btcr2Aggregation.Library.Machine
import Btcr2Aggregation.Library.Recency
import Btcr2Aggregation.Service.ResolveWrites
import Btcr2Aggregation.Shared.Updates

/-!
# Capturing the genesis of a member

A genesis document crosses the service once, with the opt-in that authenticates
its sender, and anyone can mint one.  So it is staged in a bounded table by its
DID, and put into the artifact store only when the runner accepts the sender
into a cohort, under the hash its DID commits to.  The put is asynchronous: it
lands some time later, or fails.
-/

namespace Btcr2Aggregation

open InsertionMap

section Capture

/-! ## Staging and promotion -/

inductive IdType where
  | key
  | external
  deriving DecidableEq, Repr

structure DidComponents where
  idType : IdType
  genesisBytes : Bytes
  deriving DecidableEq, Repr

/-- The method library. -/
structure GenesisLibrary (hashing : CanonicalHashing) where
  /-- `Identifier.decode`, `none` a throw. -/
  decode : String → Option DidComponents
  /-- `resolveBtcr2SenderPk`. -/
  resolveSenderPk : String → Option GenesisDocument → Option String
  /-- A document up to canonical form. -/
  canonical : GenesisDocument → hashing.Document

/-- A genesis that bakes an aggregate beacon service. -/
def hasBakedAggregateBeacon (genesis : GenesisDocument) : Bool :=
  (genesis.service.getD []).any isAggregateBeaconService

/-- The default cap of `GenesisStagingCache`. -/
def stagingCap : Nat := 1024

inductive GenesisPersistOutcome where
  | persisted
  | notExternal
  | hashMismatch
  deriving DecidableEq, Repr

variable {hashing : CanonicalHashing} (library : GenesisLibrary hashing)

/-- The write of a genesis document under a hash. -/
def putGenesis (genesisHash : String) (genesis : GenesisDocument) :
    ArtifactPut hashing.Document where
  kind := .genesis
  key := .ok genesisHash
  value := .document (library.canonical genesis)

/-- `persistMemberGenesis`, with the write it awaits. -/
def persistMemberGenesis (did : String) (genesis : GenesisDocument) :
    GenesisPersistOutcome × Option (ArtifactPut hashing.Document) :=
  match library.decode did with
  | none => (.notExternal, none)
  | some components =>
      match components.idType with
      | .key => (.notExternal, none)
      | .external =>
          let genesisHash := ByteText.hex components.genesisBytes
          if
            ByteText.hex (hashing.canonicalHash (library.canonical genesis)) =
              genesisHash
          then
            (.persisted, some (putGenesis library genesisHash genesis))
          else
            (.hashMismatch, none)

/-- The staging cache, the store, and the writes that are awaited. -/
structure CaptureState (Document : Type) where
  staging : InsertionMap String GenesisDocument
  store : MemoryArtifactStore (Artifact Document)
  awaited : List (ArtifactPut Document)

/-- A sender is authenticated, with the document its opt-in carried; a member is
accepted; an awaited write settles. -/
inductive CaptureEvent where
  | authenticates (senderDid : String) (genesisDocument : Option GenesisDocument)
  | accepted (participantDid : String)
  | settles (index : Nat) (landed : Bool)

/-- What the service's wrapper of the key resolver stages. -/
def stages? (senderDid : String) (genesisDocument : Option GenesisDocument) :
    Option GenesisDocument :=
  match library.resolveSenderPk senderDid genesisDocument with
  | none => none
  | some _ => genesisDocument.filter hasBakedAggregateBeacon

/-- What accepting a member sets off. -/
def promotes?
    (staging : InsertionMap String GenesisDocument) (did : String) :
    Option (ArtifactPut hashing.Document) :=
  (staging.lookup did).bind fun genesis =>
    (persistMemberGenesis library did genesis).2

def captureStep (state : CaptureState hashing.Document) :
    CaptureEvent → CaptureState hashing.Document
  | .authenticates senderDid genesisDocument =>
      match stages? library senderDid genesisDocument with
      | none => state
      | some genesis =>
          { state with
            staging := state.staging.remember stagingCap senderDid genesis }
  | .accepted participantDid =>
      { state with
        staging := state.staging.erase participantDid
        awaited :=
          state.awaited ++
            (promotes? library state.staging participantDid).toList }
  | .settles index lands =>
      match state.awaited[index]? with
      | none => state
      | some write =>
          { state with
            awaited := state.awaited.eraseIdx index
            store := if lands then landed state.store [write] else state.store }

/-- Opt-ins, acceptances and settling writes come in any order. -/
def captureMachine (store : MemoryArtifactStore (Artifact hashing.Document)) :
    Machine (CaptureState hashing.Document) CaptureEvent where
  init := { staging := ∅, store := store, awaited := [] }
  step := captureStep library
  admits _ _ := True

/-- What an event does to the staging cache. -/
def stagingOp? : CaptureEvent → Option (TableOp String GenesisDocument)
  | .authenticates senderDid genesisDocument =>
      (stages? library senderDid genesisDocument).map (.write senderDid)
  | .accepted participantDid => some (.drop participantDid)
  | .settles _ _ => none

end Capture

section Staged

/-! ## What is staged -/

variable
  {hashing : CanonicalHashing} (library : GenesisLibrary hashing)
  (store : MemoryArtifactStore (Artifact hashing.Document))

/-- The cache is what a bounded table is after the stagings and acceptances. -/
theorem staging_run (events : List CaptureEvent) :
    ((captureMachine library store).run events).staging =
      replay stagingCap (events.filterMap (stagingOp? library)) := by
  induction events using List.reverseRecOn with
  | nil => rfl
  | append_singleton events event inductionHypothesis =>
      rw [Machine.run_concat, List.filterMap_append]
      cases event with
      | authenticates senderDid genesisDocument =>
          cases staged : stages? library senderDid genesisDocument with
          | none =>
              simp only [captureMachine, captureStep, staged,
                List.filterMap_cons, List.filterMap_nil, stagingOp?,
                Option.map_none, List.append_nil]
              exact inductionHypothesis
          | some genesis =>
              simp only [captureMachine, captureStep, staged,
                List.filterMap_cons, List.filterMap_nil, stagingOp?,
                Option.map_some, replay_concat, TableOp.apply]
              rw [← inductionHypothesis]
              rfl
      | accepted participantDid =>
          simp only [captureMachine, captureStep, List.filterMap_cons,
            List.filterMap_nil, stagingOp?, replay_concat, TableOp.apply]
          rw [← inductionHypothesis]
          rfl
      | settles index lands =>
          simp only [List.filterMap_cons, List.filterMap_nil, stagingOp?,
            List.append_nil]
          rw [← inductionHypothesis]
          simp only [captureMachine, captureStep]
          split
          · rfl
          · rfl

theorem stages?_eq_some_iff
    {did : String} {genesisDocument : Option GenesisDocument}
    {genesis : GenesisDocument} :
    stages? library did genesisDocument = some genesis ↔
      (library.resolveSenderPk did genesisDocument).isSome ∧
        genesisDocument = some genesis ∧
          hasBakedAggregateBeacon genesis = true := by
  rw [stages?]
  cases library.resolveSenderPk did genesisDocument with
  | none => simp
  | some pk => simp [Option.filter_eq_some_iff]

theorem persistMemberGenesis_eq_some_iff
    {did : String} {genesis : GenesisDocument}
    {write : ArtifactPut hashing.Document} :
    (persistMemberGenesis library did genesis).2 = some write ↔
      library.decode did =
          some ⟨.external, hashing.canonicalHash (library.canonical genesis)⟩ ∧
        write = documentPut hashing .genesis (library.canonical genesis) := by
  rw [persistMemberGenesis]
  cases library.decode did with
  | none => simp
  | some components =>
      obtain ⟨idType, genesisBytes⟩ := components
      cases idType with
      | key => simp
      | external =>
          dsimp only
          by_cases committed :
              ByteText.hex
                  (hashing.canonicalHash (library.canonical genesis)) =
                ByteText.hex genesisBytes
          · have same := ByteText.hex_injective committed
            subst same
            rw [if_pos rfl]
            simp only [Option.some_inj, true_and]
            exact eq_comm
          · rw [if_neg committed]
            simp only [reduceCtorEq, Option.some_inj, DidComponents.mk.injEq,
              true_and, false_iff, not_and]
            rintro rfl
            exact absurd rfl committed

/-- An event that stages something for a DID or accepts it. -/
def Concerns (did : String) (event : CaptureEvent) : Prop :=
  (∃ genesisDocument genesis,
    event = .authenticates did genesisDocument ∧
      stages? library did genesisDocument = some genesis) ∨
    event = .accepted did

/-- The DIDs that were staged by some events and not accepted after. -/
def freshDids (events : List CaptureEvent) : List String :=
  freshKeys (events.filterMap (stagingOp? library))

theorem key_stagingOp?_iff
    {did : String} {event : CaptureEvent} :
    (∃ op, stagingOp? library event = some op ∧ op.key = did) ↔
      Concerns library did event := by
  cases event with
  | authenticates senderDid genesisDocument =>
      simp only [stagingOp?, Option.map_eq_some_iff, Concerns,
        CaptureEvent.authenticates.injEq, reduceCtorEq, or_false]
      constructor
      · rintro ⟨op, ⟨genesis, staged, rfl⟩, rfl⟩
        exact ⟨genesisDocument, genesis, ⟨rfl, rfl⟩, staged⟩
      · rintro ⟨document, genesis, ⟨rfl, rfl⟩, staged⟩
        exact ⟨_, ⟨genesis, staged, rfl⟩, rfl⟩
  | accepted participantDid =>
      simp [stagingOp?, Concerns, TableOp.key]
  | settles index lands =>
      simp [stagingOp?, Concerns]

/-- What is staged for a DID after any run. -/
theorem staged_iff
    {events : List CaptureEvent} {did : String} {genesis : GenesisDocument} :
    ((captureMachine library store).run events).staging.lookup did =
        some genesis ↔
      ∃ before genesisDocument after,
        events = before ++ .authenticates did genesisDocument :: after ∧
          stages? library did genesisDocument = some genesis ∧
            (∀ event ∈ after, ¬ Concerns library did event) ∧
              ∀ earlier,
                earlier <+: after →
                  (freshDids library earlier).length < stagingCap := by
  rw [staging_run, lookup_replay_iff]
  constructor
  · rintro ⟨before, after, split, untouched, room⟩
    obtain ⟨first, rest, rfl, rfl, tail⟩ :=
      List.filterMap_eq_append_iff.mp split
    obtain ⟨skipped, event, second, rfl, -, op, rfl⟩ :=
      List.filterMap_eq_cons_iff.mp tail
    cases event with
    | authenticates senderDid genesisDocument =>
        rw [stagingOp?, Option.map_eq_some_iff] at op
        obtain ⟨found, staged, same⟩ := op
        cases same
        refine
          ⟨first ++ skipped, genesisDocument, second, by simp, staged, ?_, ?_⟩
        · intro event member concerns
          obtain ⟨op, here, key⟩ := (key_stagingOp?_iff library).mpr concerns
          exact untouched op (List.mem_filterMap.mpr ⟨event, member, here⟩) key
        · intro earlier start
          exact room _ (start.filterMap _)
    | accepted participantDid => cases op
    | settles index lands => cases op
  · rintro ⟨before, genesisDocument, after, rfl, staged, untouched, room⟩
    refine
      ⟨before.filterMap (stagingOp? library),
        after.filterMap (stagingOp? library), ?_, ?_, ?_⟩
    · simp [stagingOp?, staged]
    · intro op member key
      obtain ⟨event, inside, here⟩ := List.mem_filterMap.mp member
      exact
        untouched event inside
          ((key_stagingOp?_iff library).mp ⟨op, here, key⟩)
    · rintro earlier ⟨rest, split⟩
      obtain ⟨first, second, rfl, rfl, -⟩ :=
        List.filterMap_eq_append_iff.mp split.symm
      exact room first (List.prefix_append _ _)

/-- Accepting a member sets off the write of a genesis document exactly when the
document came with the last opt-in of that member that staged one, the member
was not accepted since, at no time since as many other DIDs were staged and not
yet accepted as the cache has room for, and the member's DID is external and
commits to the document. -/
theorem promotes?_iff
    (events : List CaptureEvent) (did : String)
    (write : ArtifactPut hashing.Document) :
    promotes? library ((captureMachine library store).run events).staging did =
        some write ↔
      ∃ before genesis after,
        events = before ++ .authenticates did (some genesis) :: after ∧
          (library.resolveSenderPk did (some genesis)).isSome ∧
            hasBakedAggregateBeacon genesis = true ∧
              (∀ event ∈ after, ¬ Concerns library did event) ∧
                (∀ earlier,
                  earlier <+: after → (freshDids library earlier).length < 1024) ∧
                  library.decode did =
                      some ⟨.external,
                        hashing.canonicalHash (library.canonical genesis)⟩ ∧
                    write =
                      documentPut hashing .genesis
                        (library.canonical genesis) := by
  rw [promotes?, Option.bind_eq_some_iff]
  simp only [persistMemberGenesis_eq_some_iff, staged_iff, stages?_eq_some_iff]
  constructor
  · rintro ⟨genesis, ⟨before, document, after, split, ⟨resolved, rfl, baked⟩,
      untouched, room⟩, decoded, rfl⟩
    exact
      ⟨before, genesis, after, split, resolved, baked, untouched, room, decoded,
        rfl⟩
  · rintro ⟨before, genesis, after, split, resolved, baked, untouched, room,
      decoded, rfl⟩
    exact
      ⟨genesis,
        ⟨before, some genesis, after, split, ⟨resolved, rfl, baked⟩, untouched,
          room⟩,
        decoded, rfl⟩

end Staged

section Served

/-! ## What the resolver is served -/

variable
  {hashing : CanonicalHashing} (library : GenesisLibrary hashing)
  (store : MemoryArtifactStore (Artifact hashing.Document))

/-- The store holds a genesis document under its hash. -/
def HoldsGenesis
    (store : MemoryArtifactStore (Artifact hashing.Document))
    (document : hashing.Document) : Prop :=
  (store.maps .genesis).lookup (ByteText.hex (hashing.canonicalHash document)) =
    some (.document document)

/-- The resolver is served a genesis document where the store holds it. -/
theorem satisfyNeed_genesisDocument_iff
    {smtLibrary : SmtLibrary} {indexer : List String → Except String BeaconSignals}
    {store : MemoryArtifactStore (Artifact hashing.Document)} {did : String}
    {document : hashing.Document} :
    satisfyNeed smtLibrary ⟨indexer, some store⟩ did
        (.genesisDocument (ByteText.hex (hashing.canonicalHash document))) =
      .ok (.artifact (.document document)) ↔
      HoldsGenesis store document := by
  rw [satisfyNeed, provideFromStore, getFromStore,
    MemoryArtifactStore.get_hex _ _ (hashing.nonempty document), HoldsGenesis]
  cases
      (store.maps .genesis).lookup
        (ByteText.hex (hashing.canonicalHash document)) with
  | none => simp
  | some value => simp

/-- A landing genesis write is held, and takes nothing else's place. -/
theorem holdsGenesis_landed_iff
    {store : MemoryArtifactStore (Artifact hashing.Document)}
    {document written : hashing.Document} :
    HoldsGenesis (landed store [documentPut hashing .genesis written])
        document ↔
      HoldsGenesis store document ∨ written = document := by
  have normal := normalizeHexKey_hex (hashing.nonempty written)
  have puts :
      (landed store [documentPut hashing .genesis written]).maps =
        Function.update store.maps .genesis
          ((store.maps .genesis).set
            (ByteText.hex (hashing.canonicalHash written))
            (.document written)) := by
    have put :
        store.put .genesis (ByteText.hex (hashing.canonicalHash written))
            (.document written) =
          .ok
            { maps :=
                Function.update store.maps .genesis
                  ((store.maps .genesis).set
                    (ByteText.hex (hashing.canonicalHash written))
                    (.document written)) } := by
      rw [MemoryArtifactStore.put, normal]
      rfl
    exact congrArg MemoryArtifactStore.maps (landed_of_put store put)
  rw [HoldsGenesis, puts, Function.update_self]
  by_cases same : written = document
  · subst same
    simp
  · have elsewhere :
        ByteText.hex (hashing.canonicalHash document) ≠
          ByteText.hex (hashing.canonicalHash written) := by
      intro collide
      exact same (hashing.injective (ByteText.hex_injective collide)).symm
    rw [lookup_set_of_ne elsewhere, or_iff_left same]
    exact Iff.rfl

/-- Every write that is awaited was set off by an acceptance. -/
theorem exists_of_awaited
    {events : List CaptureEvent} {write : ArtifactPut hashing.Document}
    (awaited :
      write ∈ ((captureMachine library store).run events).awaited) :
    ∃ earlier member later,
      events = earlier ++ .accepted member :: later ∧
        promotes? library
            ((captureMachine library store).run earlier).staging member =
          some write := by
  induction events using List.reverseRecOn with
  | nil => cases awaited
  | append_singleton events event inductionHypothesis =>
      have before :
          write ∈ ((captureMachine library store).run events).awaited →
            ∃ earlier member later,
              events ++ [event] = earlier ++ .accepted member :: later ∧
                promotes? library
                    ((captureMachine library store).run earlier).staging
                    member =
                  some write := by
        intro already
        obtain ⟨earlier, member, later, rfl, promoted⟩ :=
          inductionHypothesis already
        exact ⟨earlier, member, later ++ [event], by simp, promoted⟩
      rw [Machine.run_concat] at awaited
      cases event with
      | authenticates senderDid genesisDocument =>
          refine before ?_
          simp only [captureMachine, captureStep] at awaited
          split at awaited
          · exact awaited
          · exact awaited
      | accepted participantDid =>
          rcases List.mem_append.mp awaited with already | now
          · exact before already
          · rw [Option.mem_toList] at now
            exact ⟨events, participantDid, [], rfl, now⟩
      | settles index lands =>
          refine before ?_
          simp only [captureMachine, captureStep] at awaited
          split at awaited
          · exact awaited
          · exact List.mem_of_mem_eraseIdx awaited

/-- One event: a genesis document is held that was, or whose write lands now. -/
theorem holdsGenesis_step_iff
    {events : List CaptureEvent} {event : CaptureEvent}
    {document : hashing.Document} :
    HoldsGenesis ((captureMachine library store).run (events ++ [event])).store
        document ↔
      HoldsGenesis ((captureMachine library store).run events).store document ∨
        ∃ index,
          event = .settles index true ∧
            ((captureMachine library store).run events).awaited[index]? =
              some (documentPut hashing .genesis document) := by
  rw [Machine.run_concat]
  generalize reached : (captureMachine library store).run events = state
  cases event with
  | authenticates senderDid genesisDocument =>
      simp only [captureMachine, captureStep, reduceCtorEq, false_and,
        exists_false, or_false]
      split
      · exact Iff.rfl
      · exact Iff.rfl
  | accepted participantDid =>
      simp only [captureMachine, captureStep, reduceCtorEq, false_and,
        exists_false, or_false]
  | settles index lands =>
      simp only [captureMachine, captureStep, CaptureEvent.settles.injEq]
      cases found : state.awaited[index]? with
      | none =>
          refine (or_iff_left ?_).symm
          rintro ⟨other, ⟨rfl, -⟩, held⟩
          rw [found] at held
          cases held
      | some write =>
          cases lands with
          | false =>
              refine (or_iff_left ?_).symm
              rintro ⟨other, ⟨-, impossible⟩, -⟩
              cases impossible
          | true =>
              have awaited :
                  write ∈
                    ((captureMachine library store).run events).awaited := by
                rw [reached]
                exact List.mem_of_getElem? found
              obtain ⟨earlier, member, later, -, promoted⟩ :=
                exists_of_awaited library store awaited
              obtain ⟨genesis, -, written⟩ := Option.bind_eq_some_iff.mp promoted
              obtain ⟨-, rfl⟩ :=
                (persistMemberGenesis_eq_some_iff library).mp written
              change
                HoldsGenesis
                    (landed state.store
                      [documentPut hashing .genesis
                        (library.canonical genesis)])
                    document ↔ _
              rw [holdsGenesis_landed_iff]
              refine or_congr_right ?_
              constructor
              · rintro rfl
                exact ⟨index, ⟨rfl, rfl⟩, found⟩
              · rintro ⟨other, ⟨rfl, -⟩, held⟩
                rw [found, Option.some_inj] at held
                have same := congrArg ArtifactPut.value held
                simpa [documentPut] using same

/-- In every run: the resolver is served a genesis document from the store
exactly when the store held it from the start, or a member was accepted whose
staged genesis it is and the write set off by that has landed. -/
theorem genesis_served_iff
    (smtLibrary : SmtLibrary) (indexer : List String → Except String BeaconSignals)
    (events : List CaptureEvent) (did : String) (document : hashing.Document) :
    satisfyNeed smtLibrary
        ⟨indexer, some ((captureMachine library store).run events).store⟩ did
        (.genesisDocument (ByteText.hex (hashing.canonicalHash document))) =
      .ok (.artifact (.document document)) ↔
      satisfyNeed smtLibrary ⟨indexer, some store⟩ did
          (.genesisDocument (ByteText.hex (hashing.canonicalHash document))) =
        .ok (.artifact (.document document)) ∨
      ∃ earlier member waiting index later,
        events =
            earlier ++ .accepted member :: waiting ++
              .settles index true :: later ∧
          promotes? library
              ((captureMachine library store).run earlier).staging member =
            some (documentPut hashing .genesis document) ∧
          ((captureMachine library store).run
              (earlier ++ .accepted member :: waiting)).awaited[index]? =
            some (documentPut hashing .genesis document) := by
  rw [satisfyNeed_genesisDocument_iff, satisfyNeed_genesisDocument_iff]
  have lands :
      HoldsGenesis ((captureMachine library store).run events).store
          document ↔
        HoldsGenesis store document ∨
          ∃ before index later,
            events = before ++ .settles index true :: later ∧
              ((captureMachine library store).run before).awaited[index]? =
                some (documentPut hashing .genesis document) := by
    induction events using List.reverseRecOn with
    | nil =>
        refine (or_iff_left ?_).symm
        rintro ⟨before, index, later, split, -⟩
        simp at split
    | append_singleton events event inductionHypothesis =>
        rw [holdsGenesis_step_iff, inductionHypothesis, or_assoc]
        refine or_congr_right ?_
        constructor
        · rintro (⟨before, index, later, rfl, awaited⟩ |
            ⟨index, rfl, awaited⟩)
          · exact ⟨before, index, later ++ [event], by simp, awaited⟩
          · exact ⟨events, index, [], rfl, awaited⟩
        · rintro ⟨before, index, later, split, awaited⟩
          rcases Machine.concat_eq_append_cons_iff.mp split with
            ⟨rfl, rfl, rfl⟩ | ⟨rest, rfl, rfl⟩
          · exact Or.inr ⟨index, rfl, awaited⟩
          · exact Or.inl ⟨before, index, rest, rfl, awaited⟩
  rw [lands]
  refine or_congr_right ?_
  constructor
  · rintro ⟨before, index, later, rfl, awaited⟩
    obtain ⟨earlier, member, waiting, rfl, promoted⟩ :=
      exists_of_awaited library store (List.mem_of_getElem? awaited)
    exact ⟨earlier, member, waiting, index, later, rfl, promoted, awaited⟩
  · rintro ⟨earlier, member, waiting, index, later, rfl, -, awaited⟩
    exact ⟨_, index, later, rfl, awaited⟩

end Served

end Btcr2Aggregation
