import Btcr2Aggregation.Service.ArtifactStore

/-!
# Persisting a completed cohort

`persistCohortArtifacts` puts each update body and a CAS announcement under
their own canonical hash, and each inclusion proof under the hash of the update
it includes.  It writes one artifact at a time and stops at the first failure.
Canonical hashing is the common library's, and collision-free.
-/

namespace Btcr2Aggregation

open InsertionMap

section Artifacts

/-! ## Artifacts -/

/-- JSON documents up to canonical form, and their canonical hash. -/
structure CanonicalHashing where
  Document : Type
  canonicalHash : Document → Bytes
  injective : Function.Injective canonicalHash
  nonempty : ∀ document, canonicalHash document ≠ []

/-- A serialized SMT proof.  `id` is the root; `updateId` is absent for a
decliner. -/
structure SmtProof where
  id : String
  nonce : Option String
  updateId : Option String
  collapsed : String
  hashes : List String
  deriving DecidableEq, Repr

/-- `proof.updateId`, where it is truthy. -/
def SmtProof.inclusion? (proof : SmtProof) : Option String :=
  proof.updateId.filter (· ≠ "")

/-- What a namespace can hold. -/
inductive Artifact (Document : Type) where
  | document (body : Document)
  | proof (proof : SmtProof)

/-- What persistence reads of a completed cohort. -/
structure PersistableCohort (Document : Type) where
  pendingUpdates : InsertionMap String Document
  casAnnouncement : Option Document
  smtProofs : Option (InsertionMap String SmtProof)

structure PersistSummary where
  updates : Nat
  announcements : Nat
  proofs : Nat
  skippedProofs : Nat
  deriving DecidableEq, Repr

end Artifacts

section Persist

/-! ## The writes -/

/-- One write: where, under which key if that can be computed, and what. -/
structure ArtifactPut (Document : Type) where
  kind : ArtifactKind
  key : Except String String
  value : Artifact Document

/-- Perform the writes in order, up to the first failure. -/
def landPuts {Document : Type} (store : MemoryArtifactStore (Artifact Document)) :
    List (ArtifactPut Document) →
      MemoryArtifactStore (Artifact Document) × Except String Unit
  | [] => (store, .ok ())
  | next :: rest =>
      match next.key.bind fun key => store.put next.kind key next.value with
      | .ok written => landPuts written rest
      | .error reason => (store, .error reason)

variable (hashing : CanonicalHashing)

/-- `put(kind, canonicalHash(document, { encoding: 'hex' }), document)`. -/
def documentPut (kind : ArtifactKind) (document : hashing.Document) :
    ArtifactPut hashing.Document where
  kind
  key := .ok (ByteText.hex (hashing.canonicalHash document))
  value := .document document

/-- The write of one proof, under the hash of its update; a decliner's is
skipped. -/
def proofPut? (proof : SmtProof) : Option (ArtifactPut hashing.Document) :=
  proof.inclusion?.map fun updateId => {
    kind := .proof
    key :=
      match ByteText.ofBase64url? updateId with
      | some bytes => .ok (ByteText.hex bytes)
      | none => .error "invalid base64urlnopad"
    value := .proof proof }

/-- The proofs of a cohort, in the order of its table. -/
def PersistableCohort.proofList {Document : Type}
    (cohort : PersistableCohort Document) : List SmtProof :=
  match cohort.smtProofs with
  | some proofs => proofs.entries.reverse.map Sigma.snd
  | none => []

/-- Every write of a cohort, in the order of the code. -/
def artifactPuts (cohort : PersistableCohort hashing.Document) :
    List (ArtifactPut hashing.Document) :=
  (cohort.pendingUpdates.entries.reverse.map fun entry =>
    documentPut hashing .update entry.2) ++
  (cohort.casAnnouncement.toList.map (documentPut hashing .announcement)) ++
  cohort.proofList.filterMap (proofPut? hashing)

/-- `persistCohortArtifacts`. -/
def persistCohortArtifacts
    (store : MemoryArtifactStore (Artifact hashing.Document))
    (cohort : PersistableCohort hashing.Document) :
    MemoryArtifactStore (Artifact hashing.Document) ×
      Except String PersistSummary :=
  let landed := landPuts store (artifactPuts hashing cohort)
  (landed.1,
    landed.2.map fun _ => {
      updates := size cohort.pendingUpdates
      announcements := cohort.casAnnouncement.toList.length
      proofs := (cohort.proofList.filterMap (proofPut? hashing)).length
      skippedProofs :=
        cohort.proofList.countP fun proof => proof.inclusion?.isNone })

end Persist

section Landing

/-! ## What the writes leave -/

variable {Document : Type}

/-- A write that cannot fail: its key is the hexadecimal of some bytes. -/
def ArtifactPut.Keyed (write : ArtifactPut Document) : Prop :=
  ∃ bytes, bytes ≠ [] ∧ write.key = .ok (ByteText.hex bytes)

/-- The value the last of the writes under a key leaves there. -/
def lastPut (kind : ArtifactKind) (key : String) :
    List (ArtifactPut Document) → Option (Artifact Document)
  | [] => none
  | write :: rest =>
      (lastPut kind key rest).or <|
        if write.kind = kind ∧ write.key.toOption = some key then
          some write.value
        else
          none

/-- Writes with sound keys all land, and each key holds its last value. -/
theorem landPuts_spec
    {puts : List (ArtifactPut Document)} :
    ∀ store : MemoryArtifactStore (Artifact Document),
      (∀ write ∈ puts, write.Keyed) →
        (landPuts store puts).2 = .ok () ∧
          ∀ kind key,
            ((landPuts store puts).1.maps kind).lookup key =
              (lastPut kind key puts).or ((store.maps kind).lookup key) := by
  induction puts with
  | nil =>
      intro store keyed
      exact ⟨rfl, fun kind key => rfl⟩
  | cons write rest inductionHypothesis =>
      intro store keyed
      obtain ⟨bytes, nonempty, named⟩ := keyed write List.mem_cons_self
      let written : MemoryArtifactStore (Artifact Document) := {
        maps :=
          Function.update store.maps write.kind
            ((store.maps write.kind).set (ByteText.hex bytes) write.value) }
      have lands : landPuts store (write :: rest) = landPuts written rest := by
        have put :
            store.put write.kind (ByteText.hex bytes) write.value =
              .ok written := by
          rw [MemoryArtifactStore.put, normalizeHexKey_hex nonempty]
          rfl
        rw [landPuts, named]
        simp only [Except.bind, put]
      obtain ⟨landed, holds⟩ :=
        inductionHypothesis written fun other member =>
          keyed other (List.mem_cons_of_mem write member)
      rw [lands]
      refine ⟨landed, fun kind key => ?_⟩
      rw [holds kind key, lastPut, Option.or_assoc]
      congr 1
      rw [named]
      by_cases sameKind : write.kind = kind
      · subst sameKind
        by_cases sameKey : ByteText.hex bytes = key
        · subst sameKey
          simp [written, Except.toOption]
        · simp [written, Except.toOption, sameKey, Ne.symm sameKey]
      · simp [written, sameKind, Ne.symm sameKind]

/-- Writes after others start from what those left, once they all landed. -/
theorem landPuts_append
    {first second : List (ArtifactPut Document)} :
    ∀ store : MemoryArtifactStore (Artifact Document),
      (landPuts store first).2 = .ok () →
        landPuts store (first ++ second) =
          landPuts (landPuts store first).1 second := by
  induction first with
  | nil =>
      intro store _
      rfl
  | cons write rest inductionHypothesis =>
      intro store landed
      rw [List.cons_append, landPuts, landPuts]
      rw [landPuts] at landed
      cases put :
          write.key.bind fun key => store.put write.kind key write.value with
      | error reason =>
          rw [put] at landed
          cases landed
      | ok written =>
          rw [put] at landed
          exact inductionHypothesis written landed

theorem mem_of_lastPut
    {kind : ArtifactKind} {key : String} {value : Artifact Document}
    {puts : List (ArtifactPut Document)}
    (last : lastPut kind key puts = some value) :
    ∃ write ∈ puts,
      write.kind = kind ∧ write.key.toOption = some key ∧
        write.value = value := by
  induction puts with
  | nil => cases last
  | cons write rest inductionHypothesis =>
      rw [lastPut, Option.or_eq_some_iff] at last
      rcases last with later | ⟨-, here⟩
      · obtain ⟨other, member, facts⟩ := inductionHypothesis later
        exact ⟨other, List.mem_cons_of_mem write member, facts⟩
      · split at here
        · next same =>
            cases here
            exact ⟨write, List.mem_cons_self, same.1, same.2, rfl⟩
        · cases here

theorem isSome_lastPut
    {write : ArtifactPut Document} {key : String}
    {puts : List (ArtifactPut Document)}
    (member : write ∈ puts) (named : write.key.toOption = some key) :
    (lastPut write.kind key puts).isSome := by
  induction puts with
  | nil => cases member
  | cons head rest inductionHypothesis =>
      rw [lastPut, Option.isSome_or, Bool.or_eq_true]
      rcases List.mem_cons.mp member with rfl | later
      · right
        rw [if_pos ⟨rfl, named⟩]
        rfl
      · exact Or.inl (inductionHypothesis later)

end Landing

end Btcr2Aggregation
