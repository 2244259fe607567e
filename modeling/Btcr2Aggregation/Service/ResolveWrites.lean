import Mathlib.Data.List.Induction
import Mathlib.Data.List.Infix
import Btcr2Aggregation.Service.PersistedCohorts
import Btcr2Aggregation.Service.ResolveDriver

/-!
# Resolving while artifacts are written

A resolution fetches one artifact after the other, and completed cohorts,
opt-ins and acceptances write to the store in between.  Documents are kept under
their own hash, so a write never changes one.  What is left is the proofs: as
long as no proof is put in the place of another, a resolution that can be
completed on the store as it stands is completed with the same result whatever
is written meanwhile, and so is every later one.
-/

namespace Btcr2Aggregation

open InsertionMap

section Growth

/-! ## Stores that grow -/

variable {Value : Type}

/-- Whatever a store holds is still there, and older than anything else. -/
def MemoryArtifactStore.Extends
    (store later : MemoryArtifactStore Value) : Prop :=
  ∀ kind, (store.maps kind).entries <:+ (later.maps kind).entries

namespace MemoryArtifactStore.Extends

variable {store later last : MemoryArtifactStore Value}

theorem refl (store : MemoryArtifactStore Value) : store.Extends store :=
  fun _ => List.suffix_refl _

theorem trans (first : store.Extends later) (second : later.Extends last) :
    store.Extends last :=
  fun kind => (first kind).trans (second kind)

theorem lookup
    (grown : store.Extends later)
    {kind : ArtifactKind} {key : String} {value : Value}
    (found : (store.maps kind).lookup key = some value) :
    (later.maps kind).lookup key = some value := by
  have held := AList.mem_lookup_iff.mp (Option.mem_def.mpr found)
  exact AList.mem_lookup_iff.mpr ((grown kind).subset held)

/-- What was read first is still read first. -/
theorem values (grown : store.Extends later) (kind : ArtifactKind) :
    store.values kind <+: later.values kind := by
  obtain ⟨newer, split⟩ := grown kind
  refine ⟨newer.reverse.map Sigma.snd, ?_⟩
  rw [MemoryArtifactStore.values, MemoryArtifactStore.values, ← split,
    List.reverse_append, List.map_append]

end MemoryArtifactStore.Extends

/-- To write again what a key holds changes nothing. -/
theorem set_of_lookup
    {table : InsertionMap String Value} {key : String} {value : Value}
    (found : table.lookup key = some value) :
    table.set key value = table := by
  have held := AList.mem_lookup_iff.mp (Option.mem_def.mpr found)
  rw [InsertionMap.set, if_pos (mem_of_lookup found)]
  exact AList.ext (List.kreplace_self table.nodupKeys held)

/-- A write that is accepted sets one key of one namespace. -/
theorem MemoryArtifactStore.maps_put
    {store written : MemoryArtifactStore Value} {kind : ArtifactKind}
    {hashHex key : String} {value : Value}
    (normal : normalizeHexKey hashHex = .ok key)
    (put : store.put kind hashHex value = .ok written) :
    written.maps =
      Function.update store.maps kind ((store.maps kind).set key value) := by
  rw [MemoryArtifactStore.put, normal] at put
  cases put
  rfl

/-- A write grows the store unless it changes what its key holds. -/
theorem MemoryArtifactStore.extends_put
    {store written : MemoryArtifactStore Value} {kind : ArtifactKind}
    {hashHex key : String} {value : Value}
    (normal : normalizeHexKey hashHex = .ok key)
    (put : store.put kind hashHex value = .ok written)
    (stands :
      ∀ held, (store.maps kind).lookup key = some held → held = value) :
    store.Extends written := by
  intro other
  rw [MemoryArtifactStore.maps_put normal put]
  by_cases same : other = kind
  · subst same
    rw [Function.update_self]
    cases found : (store.maps other).lookup key with
    | none =>
        have absent : key ∉ store.maps other := AList.lookup_eq_none.mp found
        rw [InsertionMap.set, if_neg absent, AList.entries_insert_of_notMem absent]
        exact List.suffix_cons _ _
    | some held =>
        rw [← stands held found, set_of_lookup found]
  · rw [Function.update_of_ne same]

end Growth

section Writes

/-! ## Writes from everywhere -/

variable {hashing : CanonicalHashing}

/-- The writes that reached the store, in their order; one that is refused
leaves it alone. -/
def landed
    (store : MemoryArtifactStore (Artifact hashing.Document))
    (writes : List (ArtifactPut hashing.Document)) :
    MemoryArtifactStore (Artifact hashing.Document) :=
  writes.foldl
    (fun store write =>
      match write.key.bind fun key => store.put write.kind key write.value with
      | .ok written => written
      | .error _ => store)
    store

theorem landed_concat
    (store : MemoryArtifactStore (Artifact hashing.Document))
    (writes : List (ArtifactPut hashing.Document))
    (write : ArtifactPut hashing.Document) :
    landed store (writes ++ [write]) =
      match
        write.key.bind fun key =>
          (landed store writes).put write.kind key write.value with
      | .ok written => written
      | .error _ => landed store writes := by
  rw [landed, List.foldl_append]
  rfl

/-- One document that lands. -/
theorem landed_of_put
    (store : MemoryArtifactStore (Artifact hashing.Document))
    {kind : ArtifactKind} {document : hashing.Document}
    {written : MemoryArtifactStore (Artifact hashing.Document)}
    (put :
      store.put kind (ByteText.hex (hashing.canonicalHash document))
          (.document document) =
        .ok written) :
    landed store [documentPut hashing kind document] = written := by
  simp [landed, documentPut, Except.bind, put]

/-- Every document of the store is kept under its own hash. -/
def Addressed (store : MemoryArtifactStore (Artifact hashing.Document)) :
    Prop :=
  ∀ kind key value,
    kind ≠ .proof → (store.maps kind).lookup key = some value →
      ∃ document,
        value = .document document ∧
          key = ByteText.hex (hashing.canonicalHash document)

/-- The writes of the service: documents go under their own hash. -/
def Hashed (writes : List (ArtifactPut hashing.Document)) : Prop :=
  ∀ write ∈ writes,
    write.kind ≠ .proof →
      ∃ document, write = documentPut hashing write.kind document

/-- No proof is put in the place of another. -/
def ProofsStand
    (store : MemoryArtifactStore (Artifact hashing.Document))
    (writes : List (ArtifactPut hashing.Document)) : Prop :=
  ∀ earlier write later,
    writes = earlier ++ write :: later → write.kind = .proof →
      ∀ key held,
        write.key.bind normalizeHexKey = .ok key →
          ((landed store earlier).maps .proof).lookup key = some held →
            held = write.value

theorem Hashed.of_prefix
    {earlier writes : List (ArtifactPut hashing.Document)}
    (hashed : Hashed writes) (start : earlier <+: writes) : Hashed earlier :=
  fun write member => hashed write (start.subset member)

theorem ProofsStand.of_prefix
    {store : MemoryArtifactStore (Artifact hashing.Document)}
    {earlier writes : List (ArtifactPut hashing.Document)}
    (stand : ProofsStand store writes) (start : earlier <+: writes) :
    ProofsStand store earlier := by
  rintro before write after rfl
  obtain ⟨rest, rfl⟩ := start
  exact stand before write (after ++ rest) (by simp)

/-- A write of the service that lands: what its key held is what it writes, and
documents are still kept under their own hash. -/
theorem landed_step
    {store written : MemoryArtifactStore (Artifact hashing.Document)}
    {write : ArtifactPut hashing.Document} {hashHex : String}
    (addressed : Addressed store)
    (document :
      write.kind ≠ .proof →
        ∃ document, write = documentPut hashing write.kind document)
    (stands :
      write.kind = .proof →
        ∀ key held,
          normalizeHexKey hashHex = .ok key →
            (store.maps .proof).lookup key = some held → held = write.value)
    (named : write.key = .ok hashHex)
    (put : store.put write.kind hashHex write.value = .ok written) :
    store.Extends written ∧ Addressed written := by
  obtain ⟨key, normal⟩ : ∃ key, normalizeHexKey hashHex = .ok key := by
    rw [MemoryArtifactStore.put] at put
    obtain ⟨key, normal, -⟩ := bind_eq_ok_iff.mp put
    exact ⟨key, normal⟩
  have address :
      write.kind ≠ .proof →
        ∃ document,
          write.value = .document document ∧
            key = ByteText.hex (hashing.canonicalHash document) := by
    intro notProof
    obtain ⟨body, same⟩ := document notProof
    rw [same] at named
    cases named
    rw [normalizeHexKey_hex (hashing.nonempty body)] at normal
    cases normal
    exact ⟨body, by rw [same]; rfl, rfl⟩
  have keeps :
      ∀ held,
        (store.maps write.kind).lookup key = some held →
          held = write.value := by
    intro held found
    by_cases proof : write.kind = .proof
    · rw [proof] at found
      exact stands proof key held normal found
    · obtain ⟨body, value, rfl⟩ := address proof
      obtain ⟨other, rfl, same⟩ := addressed _ _ _ proof found
      rw [value, hashing.injective (ByteText.hex_injective same)]
  refine ⟨MemoryArtifactStore.extends_put normal put keeps, ?_⟩
  intro kind other value notProof found
  rw [MemoryArtifactStore.maps_put normal put] at found
  by_cases sameKind : kind = write.kind
  · subst sameKind
    rw [Function.update_self] at found
    by_cases sameKey : other = key
    · subst sameKey
      rw [lookup_set_self] at found
      cases found
      exact address notProof
    · rw [lookup_set_of_ne sameKey] at found
      exact addressed _ _ _ notProof found
  · rw [Function.update_of_ne sameKind] at found
    exact addressed _ _ _ notProof found

/-- The store only grows, whoever writes. -/
theorem extends_landed
    {store : MemoryArtifactStore (Artifact hashing.Document)}
    (addressed : Addressed store)
    {writes : List (ArtifactPut hashing.Document)}
    (hashed : Hashed writes) (stand : ProofsStand store writes) :
    store.Extends (landed store writes) ∧ Addressed (landed store writes) := by
  induction writes using List.reverseRecOn with
  | nil => exact ⟨.refl store, addressed⟩
  | append_singleton writes write inductionHypothesis =>
      have start : writes <+: writes ++ [write] := List.prefix_append _ _
      obtain ⟨grown, still⟩ :=
        inductionHypothesis (hashed.of_prefix start) (stand.of_prefix start)
      rw [landed_concat]
      cases named : write.key with
      | error reason => exact ⟨grown, still⟩
      | ok hashHex =>
          cases put :
              (landed store writes).put write.kind hashHex write.value with
          | error reason =>
              simp only [Except.bind, put]
              exact ⟨grown, still⟩
          | ok written =>
              simp only [Except.bind, put]
              have step :=
                landed_step still
                  (hashed write (List.mem_append_right _ List.mem_cons_self))
                  (fun proof key held normal =>
                    stand writes write [] rfl proof key held
                      (by rw [named]; exact normal))
                  named put
              exact ⟨grown.trans step.1, step.2⟩

end Writes

section Interleaved

/-! ## A resolution among writes -/

variable {Document Response : Type}

/-- What is fetched from a grown store. -/
theorem satisfyNeed_of_extends
    {library : SmtLibrary} {indexer : List String → Except String BeaconSignals}
    {store later : MemoryArtifactStore (Artifact Document)}
    (grown : store.Extends later) {did : String} {need : DataNeed}
    {provided : Provided Document}
    (served :
      satisfyNeed library ⟨indexer, some store⟩ did need = .ok provided) :
    satisfyNeed library ⟨indexer, some later⟩ did need = .ok provided := by
  have fromStore :
      ∀ kind hash missing,
        provideFromStore ⟨indexer, some store⟩ kind hash missing =
            .ok provided →
          provideFromStore ⟨indexer, some later⟩ kind hash missing =
            .ok provided := by
    intro kind hash missing found
    rw [provideFromStore, getFromStore, MemoryArtifactStore.get] at found ⊢
    cases normal : normalizeHexKey hash with
    | error reason =>
        rw [normal] at found
        cases found
    | ok key =>
        rw [normal, ok_bind] at found
        rw [ok_bind]
        cases held : (store.maps kind).lookup key with
        | none =>
            rw [held] at found
            cases found
        | some value =>
            rw [held] at found
            rw [grown.lookup held]
            exact found
  cases need with
  | beaconSignals services => exact served
  | casAnnouncement hash service => exact fromStore _ _ _ served
  | signedUpdate hash service => exact fromStore _ _ _ served
  | smtProof root service =>
      rw [satisfyNeed] at served ⊢
      cases selected : selectSmtProof library (some store) root did with
      | none =>
          rw [selected] at served
          cases served
      | some proof =>
          rw [selected] at served
          have again :
              selectSmtProof library (some later) root did = some proof := by
            rw [selectSmtProof, Option.bind_some] at selected ⊢
            obtain ⟨newer, split⟩ := grown.values .proof
            rw [← split, List.filterMap_append, List.find?_append, selected,
              Option.some_or]
          rw [again]
          exact served
  | genesisDocument hash => exact fromStore _ _ _ served

/-- A resolution whose need number `time` is served from `optionsAt time`. -/
def resolveAmong
    (resolver : ResolverLike Document Response) (library : SmtLibrary)
    (optionsAt : Nat → ResolveOptions Document) (did : String)
    (sidecar : Option Sidecar) : ResolveReply Response :=
  if matchesDid did then
    replyOf do
      let state ← (resolver.start did sidecar).mapError .failed
      (resolver.process.clocked.drive
        (fun asked => satisfyNeed library (optionsAt asked.2) did asked.1)
        (iterationsExceeded defaultMaxIterations did) defaultMaxIterations
        (state, 0)).mapError normalizeThrow
  else
    notAnIdentifier

/-- Where nothing changes meanwhile this is the route's resolution. -/
theorem resolveAmong_const
    (resolver : ResolverLike Document Response) (library : SmtLibrary)
    (options : ResolveOptions Document) (did : String)
    (sidecar : Option Sidecar) :
    resolveAmong resolver library (fun _ => options) did sidecar =
      resolveResult resolver library options did sidecar := by
  have same :
      ∀ state,
        resolver.process.clocked.drive
            (fun asked => satisfyNeed library options did asked.1)
            (iterationsExceeded defaultMaxIterations did)
            defaultMaxIterations (state, 0) =
          resolver.process.drive (satisfyNeed library options did)
            (iterationsExceeded defaultMaxIterations did)
            defaultMaxIterations state :=
    fun state => SansIo.drive_clocked (satisfyNeed library options did)
  simp only [resolveAmong, resolveResult, resolveBtcr2, driveResolution, same]

/-- A resolution that the store as it stands completes is completed with the
same result among any writes that put no proof in another's place, however many
of them have landed when each need is served. -/
theorem resolved_among_writes
    {hashing : CanonicalHashing}
    {resolver : ResolverLike hashing.Document Response} {library : SmtLibrary}
    {indexer : List String → Except String BeaconSignals}
    {store : MemoryArtifactStore (Artifact hashing.Document)}
    {writes : List (ArtifactPut hashing.Document)}
    (addressed : Addressed store) (hashed : Hashed writes)
    (stand : ProofsStand store writes) (landedBy : Nat → Nat)
    {did : String} {sidecar : Option Sidecar} {response : Response}
    (answered :
      resolveResult resolver library ⟨indexer, some store⟩ did sidecar =
        ⟨200, .resolved response⟩) :
    resolveAmong resolver library
        (fun time =>
          ⟨indexer, some (landed store (writes.take (landedBy time)))⟩)
        did sidecar =
      ⟨200, .resolved response⟩ := by
  have grown :
      ∀ time, store.Extends (landed store (writes.take (landedBy time))) := by
    intro time
    have start := List.take_prefix (landedBy time) writes
    exact
      (extends_landed addressed (hashed.of_prefix start)
        (stand.of_prefix start)).1
  rw [resolveResult_eq_replyOf_iff (by simp [notAnIdentifier]),
    replyOf_eq_resolved_iff, resolveBtcr2, bind_eq_ok_iff] at answered
  obtain ⟨shape, state, started, driven⟩ := answered
  rw [driveResolution, mapError_eq_ok_iff] at driven
  rw [resolveAmong, if_pos shape, replyOf_eq_resolved_iff, started, ok_bind,
    mapError_eq_ok_iff]
  refine SansIo.drive_clocked_of_extends ?_ driven
  intro need time data served
  exact satisfyNeed_of_extends (grown time) served

end Interleaved

section OneNeed

/-! ## One need among two writes -/

variable {hashing : CanonicalHashing}

/-- The document of the opt-in. -/
def genesisFile : byteHashing.Document := Fin.last 2

/-- The update of a later completion. -/
def laterUpdate : byteHashing.Document := Fin.castSucc (Fin.last 1)

/-- A resolver that asks for one genesis document and answers with it. -/
def genesisReader : ResolverLike (Fin 3) (Fin 3) where
  State := Option (Fin 3)
  start _ _ := .ok none
  resolve
    | none => .ok (none, .needs [.genesisDocument "02"])
    | some document => .ok (some document, .done document)
  provide _ _
    | .artifact (.document document) => .ok (some document)
    | _ => .error "not a document"

/-- The store after an opt-in. -/
def withGenesis : MemoryArtifactStore (Artifact byteHashing.Document) :=
  landed .empty [documentPut byteHashing .genesis genesisFile]

/-- What two later completions write. -/
def laterWrites : List (ArtifactPut byteHashing.Document) :=
  [documentPut byteHashing .update laterUpdate,
    documentPut byteHashing .genesis genesisFile]

/-- Writes of documents put no proof anywhere. -/
theorem proofsStand_of_documents
    {store : MemoryArtifactStore (Artifact hashing.Document)}
    {writes : List (ArtifactPut hashing.Document)}
    (documents : ∀ write ∈ writes, write.kind ≠ .proof) :
    ProofsStand store writes := by
  rintro earlier write later rfl proof
  have member : write ∈ earlier ++ write :: later :=
    List.mem_append_right _ List.mem_cons_self
  exact absurd proof (documents write member)

theorem addressed_empty :
    Addressed (MemoryArtifactStore.empty : MemoryArtifactStore
      (Artifact hashing.Document)) := by
  intro kind key value _ found
  cases found

theorem addressed_withGenesis : Addressed withGenesis := by
  refine (extends_landed addressed_empty ?_ (proofsStand_of_documents ?_)).2
  · intro write member _
    rw [List.mem_singleton.mp member]
    exact ⟨genesisFile, rfl⟩
  · intro write member
    rw [List.mem_singleton.mp member]
    exact ArtifactKind.noConfusion

theorem resolved_among_writes_oneNeed :
    resolveAmong genesisReader namedProofs
        (fun time =>
          ⟨fun _ => .ok [],
            some (landed withGenesis (laterWrites.take (time + 1)))⟩)
        "did:btcr2:x1member" none =
      ⟨200, .resolved genesisFile⟩ := by
  refine
    resolved_among_writes addressed_withGenesis ?_
      (proofsStand_of_documents ?_) (fun time => time + 1) ?_
  · intro write member _
    rcases List.mem_pair.mp member with rfl | rfl
    · exact ⟨laterUpdate, rfl⟩
    · exact ⟨genesisFile, rfl⟩
  · intro write member
    rcases List.mem_pair.mp member with rfl | rfl
    · exact ArtifactKind.noConfusion
    · exact ArtifactKind.noConfusion
  · decide +kernel

end OneNeed

end Btcr2Aggregation
