import Btcr2Aggregation.Service.Resolve

/-!
# What a store of persisted cohorts serves

Any number of completed cohorts are persisted into one store, and their writes
may land in any order.  Update bodies and announcements are kept under their own
hash, so they are always found again.  A proof is kept under the hash of the
update it includes: a later proof of the same update takes its place, whichever
member and root it was made for.
-/

namespace Btcr2Aggregation

section Completed

/-! ## Completed cohorts -/

/-- A proof is the cohort's own for a DID. -/
def PersistableCohort.Issued {Document : Type}
    (cohort : PersistableCohort Document) (did : String) (proof : SmtProof) :
    Prop :=
  ∃ proofs, cohort.smtProofs = some proofs ∧ proofs.lookup did = some proof

/-- A cohort as the aggregation library completes it.  Its proofs share one
root; there is one for each member, and it names the member's update if there is
one.  A proof verifies exactly for the DID it was made for. -/
structure CompletedCohort
    (hashing : CanonicalHashing) (library : SmtLibrary) extends
    PersistableCohort hashing.Document where
  root : Bytes
  root_nonempty : root ≠ []
  rooted :
    ∀ did proof, toPersistableCohort.Issued did proof →
      proof.id = ByteText.base64url root
  covers :
    ∀ did, did ∈ pendingUpdates → smtProofs.isSome →
      ∃ proof, toPersistableCohort.Issued did proof
  names :
    ∀ did proof, toPersistableCohort.Issued did proof →
      proof.updateId =
        (pendingUpdates.lookup did).map fun update =>
          ByteText.base64url (hashing.canonicalHash update)
  verifies :
    ∀ did proof, toPersistableCohort.Issued did proof →
      did ∈ pendingUpdates →
        ∀ other, library.verifiesFor other proof = true ↔ other = did

variable {hashing : CanonicalHashing} {library : SmtLibrary}

theorem base64url_ne_empty {bytes : Bytes} (nonempty : bytes ≠ []) :
    ByteText.base64url bytes ≠ "" := by
  intro empty
  have read := ByteText.ofBase64url?_base64url bytes
  rw [empty] at read
  cases read
  exact nonempty rfl

/-- A proof names an update exactly for an included member. -/
theorem CompletedCohort.inclusion?_eq
    (cohort : CompletedCohort hashing library)
    {did : String} {proof : SmtProof} (issued : cohort.Issued did proof) :
    proof.inclusion? =
      (cohort.pendingUpdates.lookup did).map fun update =>
        ByteText.base64url (hashing.canonicalHash update) := by
  rw [SmtProof.inclusion?, cohort.names did proof issued]
  cases cohort.pendingUpdates.lookup did with
  | none => rfl
  | some update =>
      simp [base64url_ne_empty (hashing.nonempty update)]

/-- The proof of an included member is written under the hash of its update. -/
theorem CompletedCohort.proofPut?_eq
    (cohort : CompletedCohort hashing library)
    {did : String} {proof : SmtProof} (issued : cohort.Issued did proof) :
    proofPut? hashing proof =
      (cohort.pendingUpdates.lookup did).map fun update => {
        kind := .proof
        key := .ok (ByteText.hex (hashing.canonicalHash update))
        value := .proof proof } := by
  rw [proofPut?, cohort.inclusion?_eq issued]
  cases cohort.pendingUpdates.lookup did with
  | none => rfl
  | some update =>
      simp only [Option.map_some, ByteText.ofBase64url?_base64url]

theorem PersistableCohort.mem_proofList_iff {Document : Type}
    {cohort : PersistableCohort Document} {proof : SmtProof} :
    proof ∈ cohort.proofList ↔ ∃ did, cohort.Issued did proof := by
  rw [proofList]
  cases held : cohort.smtProofs with
  | none => simp [Issued, held]
  | some proofs =>
      simp [Issued, held, ← AList.mem_lookup_iff]

/-- The writes of a completed cohort. -/
theorem CompletedCohort.mem_artifactPuts_iff
    (cohort : CompletedCohort hashing library)
    {write : ArtifactPut hashing.Document} :
    write ∈ artifactPuts hashing cohort.toPersistableCohort ↔
      (∃ did update,
        cohort.pendingUpdates.lookup did = some update ∧
          write = documentPut hashing .update update) ∨
      (∃ announcement,
        cohort.casAnnouncement = some announcement ∧
          write = documentPut hashing .announcement announcement) ∨
      ∃ did proof,
        cohort.Issued did proof ∧ proofPut? hashing proof = some write := by
  simp only [artifactPuts, List.mem_append, List.mem_map, List.mem_filterMap,
    List.mem_reverse, Option.mem_toList, PersistableCohort.mem_proofList_iff,
    Sigma.exists, or_assoc]
  constructor
  · rintro (⟨did, update, member, rfl⟩ | ⟨announcement, held, rfl⟩ |
      ⟨proof, ⟨did, issued⟩, written⟩)
    · exact Or.inl ⟨did, update, AList.mem_lookup_iff.mpr member, rfl⟩
    · exact Or.inr (Or.inl ⟨announcement, held, rfl⟩)
    · exact Or.inr (Or.inr ⟨did, proof, issued, written⟩)
  · rintro (⟨did, update, found, rfl⟩ | ⟨announcement, held, rfl⟩ |
      ⟨did, proof, issued, written⟩)
    · exact Or.inl ⟨did, update, AList.mem_lookup_iff.mp found, rfl⟩
    · exact Or.inr (Or.inl ⟨announcement, held, rfl⟩)
    · exact Or.inr (Or.inr ⟨proof, ⟨did, issued⟩, written⟩)

/-- No write of a completed cohort fails. -/
theorem CompletedCohort.keyed
    (cohort : CompletedCohort hashing library)
    {write : ArtifactPut hashing.Document}
    (member : write ∈ artifactPuts hashing cohort.toPersistableCohort) :
    write.Keyed := by
  rcases cohort.mem_artifactPuts_iff.mp member with
    ⟨did, update, -, rfl⟩ | ⟨announcement, -, rfl⟩ | ⟨did, proof, issued, written⟩
  · exact ⟨_, hashing.nonempty update, rfl⟩
  · exact ⟨_, hashing.nonempty announcement, rfl⟩
  · rw [cohort.proofPut?_eq issued, Option.map_eq_some_iff] at written
    obtain ⟨update, -, rfl⟩ := written
    exact ⟨_, hashing.nonempty update, rfl⟩

end Completed

section Served

/-! ## What is found again -/

variable {hashing : CanonicalHashing} {library : SmtLibrary}

/-- The driver finds everything the cohort's included members need. -/
structure CompletedCohort.Served
    (cohort : CompletedCohort hashing library)
    (options : ResolveOptions hashing.Document) : Prop where
  update :
    ∀ did update beaconServiceId,
      cohort.pendingUpdates.lookup did = some update →
        satisfyNeed library options did
            (.signedUpdate (ByteText.hex (hashing.canonicalHash update))
              beaconServiceId) =
          .ok (.artifact (.document update))
  announcement :
    ∀ did announcement beaconServiceId,
      cohort.casAnnouncement = some announcement →
        satisfyNeed library options did
            (.casAnnouncement
              (ByteText.hex (hashing.canonicalHash announcement))
              beaconServiceId) =
          .ok (.artifact (.document announcement))
  proof :
    ∀ did beaconServiceId,
      did ∈ cohort.pendingUpdates →
        cohort.smtProofs.isSome →
          ∃ proof,
            satisfyNeed library options did
                (.smtProof (ByteText.hex cohort.root) beaconServiceId) =
              .ok (.artifact (.proof proof))

/-- For every included member of an SMT cohort, some proof for the same DID at
the same root was the last to be written under its update's hash. -/
def ProofsLast
    (cohorts : List (CompletedCohort hashing library))
    (landed : List (ArtifactPut hashing.Document)) : Prop :=
  ∀ cohort ∈ cohorts, ∀ did ∈ cohort.pendingUpdates,
    cohort.smtProofs.isSome →
      ∃ other ∈ cohorts, ∃ proof update,
        other.Issued did proof ∧ other.root = cohort.root ∧
          other.pendingUpdates.lookup did = some update ∧
            lastPut .proof (ByteText.hex (hashing.canonicalHash update))
                landed =
              some (.proof proof)

variable
  {cohorts : List (CompletedCohort hashing library)}
  {landed : List (ArtifactPut hashing.Document)}

/-- Each write that landed is one of some cohort's. -/
theorem mem_landed_iff
    (order :
      landed.Perm
        (cohorts.flatMap fun cohort =>
          artifactPuts hashing cohort.toPersistableCohort))
    {write : ArtifactPut hashing.Document} :
    write ∈ landed ↔
      ∃ cohort ∈ cohorts,
        write ∈ artifactPuts hashing cohort.toPersistableCohort := by
  rw [order.mem_iff, List.mem_flatMap]

/-- A document is the only thing ever written under its hash. -/
theorem lastPut_document
    (order :
      landed.Perm
        (cohorts.flatMap fun cohort =>
          artifactPuts hashing cohort.toPersistableCohort))
    {kind : ArtifactKind} {document : hashing.Document}
    (notProof : kind ≠ .proof)
    (written : documentPut hashing kind document ∈ landed) :
    lastPut kind (ByteText.hex (hashing.canonicalHash document)) landed =
      some (.document document) := by
  have some_value := isSome_lastPut written rfl
  obtain ⟨value, last⟩ := Option.isSome_iff_exists.mp some_value
  rw [show (documentPut hashing kind document).kind = kind from rfl] at last
  rw [last]
  obtain ⟨write, member, sameKind, named, rfl⟩ := mem_of_lastPut last
  obtain ⟨cohort, -, put⟩ := (mem_landed_iff order).mp member
  have unique :
      ∀ other : hashing.Document,
        (documentPut hashing kind other).key.toOption =
            some (ByteText.hex (hashing.canonicalHash document)) →
          other = document := by
    intro other same
    exact
      hashing.injective (ByteText.hex_injective (Option.some_inj.mp same))
  rcases cohort.mem_artifactPuts_iff.mp put with
    ⟨did, update, -, rfl⟩ | ⟨announcement, -, rfl⟩ | ⟨did, proof, issued, here⟩
  · rw [unique update named]
    rfl
  · rw [unique announcement named]
    rfl
  · rw [cohort.proofPut?_eq issued, Option.map_eq_some_iff] at here
    obtain ⟨update, -, rfl⟩ := here
    exact absurd sameKind.symm notProof

/-- An issued proof of an included member serves its DID at the root. -/
theorem CompletedCohort.serves
    (cohort : CompletedCohort hashing library)
    {did : String} {proof : SmtProof} (issued : cohort.Issued did proof)
    (included : did ∈ cohort.pendingUpdates) (other rootHex : String) :
    library.serves rootHex other proof = true ↔
      rootHex = ByteText.hex cohort.root ∧ other = did := by
  have rooted := cohort.rooted did proof issued
  have present : proof.id ≠ "" := by
    rw [rooted]
    exact base64url_ne_empty cohort.root_nonempty
  have root : proof.rootHex? = some (ByteText.hex cohort.root) := by
    rw [SmtProof.rootHex?, rooted, ByteText.ofBase64url?_base64url]
    rfl
  rw [SmtLibrary.serves, root]
  simp only [Bool.and_eq_true, decide_eq_true_eq, Option.some_inj,
    cohort.verifies did proof issued included other]
  constructor
  · rintro ⟨⟨-, rfl⟩, rfl⟩
    exact ⟨rfl, rfl⟩
  · rintro ⟨rfl, rfl⟩
    exact ⟨⟨present, rfl⟩, rfl⟩

/-- Over any number of cohorts and any order of their writes: the driver finds
everything exactly when each included member still has its proof, that is when
the last proof written under its update's hash is one for its DID and root. -/
theorem persisted_serve_iff
    (order :
      landed.Perm
        (cohorts.flatMap fun cohort =>
          artifactPuts hashing cohort.toPersistableCohort))
    (indexer : List String → Except String BeaconSignals) :
    (∀ cohort ∈ cohorts,
      cohort.Served ⟨indexer, some (landPuts .empty landed).1⟩) ↔
      ProofsLast cohorts landed := by
  have keyed : ∀ write ∈ landed, write.Keyed := by
    intro write member
    obtain ⟨cohort, -, put⟩ := (mem_landed_iff order).mp member
    exact cohort.keyed put
  obtain ⟨-, holds⟩ := landPuts_spec .empty keyed
  have held :
      ∀ kind key,
        ((landPuts .empty landed).1.maps kind).lookup key =
          lastPut kind key landed := by
    intro kind key
    rw [holds kind key]
    exact Option.or_none
  have document :
      ∀ kind document missing,
        kind ≠ .proof →
          documentPut hashing kind document ∈ landed →
            provideFromStore ⟨indexer, some (landPuts .empty landed).1⟩ kind
                (ByteText.hex (hashing.canonicalHash document)) missing =
              .ok (.artifact (.document document)) := by
    intro kind document missing notProof written
    rw [provideFromStore, getFromStore,
      MemoryArtifactStore.get_hex _ _ (hashing.nonempty document), held,
      lastPut_document order notProof written]
  have served :
      ∀ did rootHex beaconServiceId,
        (∃ proof,
          satisfyNeed library ⟨indexer, some (landPuts .empty landed).1⟩ did
              (.smtProof rootHex beaconServiceId) =
            .ok (.artifact (.proof proof))) ↔
          ∃ key proof,
            lastPut .proof key landed = some (.proof proof) ∧
              library.serves rootHex did proof = true := by
    intro did rootHex beaconServiceId
    simp only [← held, ← exists_selectSmtProof_iff, satisfyNeed_smtProof_iff]
  constructor
  · intro all cohort member did included smt
    obtain ⟨key, proof, last, serves⟩ :=
      (served did _ "").mp ((all cohort member).proof did "" included smt)
    obtain ⟨write, wrote, sameKind, named, carries⟩ := mem_of_lastPut last
    obtain ⟨other, present, put⟩ := (mem_landed_iff order).mp wrote
    rcases other.mem_artifactPuts_iff.mp put with
      ⟨_, update, -, rfl⟩ | ⟨announcement, -, rfl⟩ | ⟨maker, made, issued, here⟩
    · cases sameKind
    · cases sameKind
    · rw [other.proofPut?_eq issued, Option.map_eq_some_iff] at here
      obtain ⟨update, pending, rfl⟩ := here
      cases carries
      have makerIncluded : maker ∈ other.pendingUpdates :=
        InsertionMap.mem_of_lookup pending
      obtain ⟨sameRoot, rfl⟩ :=
        (other.serves issued makerIncluded did _).mp serves
      refine ⟨other, present, proof, update, issued, ?_, pending, ?_⟩
      · exact (ByteText.hex_injective sameRoot).symm
      · rw [Option.some_inj.mp named]
        exact last
  · intro last cohort member
    refine ⟨?_, ?_, ?_⟩
    · intro did update beaconServiceId pending
      apply document .update update _ (by decide)
      apply (mem_landed_iff order).mpr
      exact ⟨cohort, member, cohort.mem_artifactPuts_iff.mpr
        (Or.inl ⟨did, update, pending, rfl⟩)⟩
    · intro did announcement beaconServiceId announced
      apply document .announcement announcement _ (by decide)
      apply (mem_landed_iff order).mpr
      exact ⟨cohort, member, cohort.mem_artifactPuts_iff.mpr
        (Or.inr (Or.inl ⟨announcement, announced, rfl⟩))⟩
    · intro did beaconServiceId included smt
      obtain ⟨other, present, proof, update, issued, sameRoot, pending, held⟩ :=
        last cohort member did included smt
      have serves :
          library.serves (ByteText.hex cohort.root) did proof = true := by
        rw [other.serves issued (InsertionMap.mem_of_lookup pending)]
        exact ⟨by rw [sameRoot], rfl⟩
      exact (served did _ beaconServiceId).mpr ⟨_, proof, held, serves⟩

end Served

section InTurn

/-! ## Cohorts persisted in turn -/

variable (hashing : CanonicalHashing) {library : SmtLibrary}

/-- Persist cohorts one after another. -/
def persistCohorts
    (store : MemoryArtifactStore (Artifact hashing.Document))
    (cohorts : List (PersistableCohort hashing.Document)) :
    MemoryArtifactStore (Artifact hashing.Document) :=
  cohorts.foldl
    (fun store cohort => (persistCohortArtifacts hashing store cohort).1) store

/-- Persisting in turn lands the writes in the order of the cohorts. -/
theorem persistCohorts_eq
    {cohorts : List (CompletedCohort hashing library)} :
    ∀ store,
      persistCohorts hashing store
          (cohorts.map CompletedCohort.toPersistableCohort) =
        (landPuts store
          (cohorts.flatMap fun cohort =>
            artifactPuts hashing cohort.toPersistableCohort)).1 := by
  induction cohorts with
  | nil =>
      intro store
      rfl
  | cons cohort rest inductionHypothesis =>
      intro store
      have landed :=
        (landPuts_spec store fun write member => cohort.keyed member).1
      rw [List.flatMap_cons, landPuts_append store landed]
      exact inductionHypothesis _

end InTurn

section TwoRounds

/-! ## One update in two rounds -/

/-- Three documents under hashes of one byte. -/
def byteHashing : CanonicalHashing where
  Document := Fin 3
  canonicalHash document := [UInt8.ofNat document]
  injective := by
    intro first second
    revert first second
    decide
  nonempty document := List.cons_ne_nil _ _

/-- Proofs whose path spells the DID they were made for. -/
def namedProofs : SmtLibrary where
  Index := String
  Hash := Bytes
  didToIndex did := did
  base64UrlToHash := ByteText.ofBase64url?
  blockHash := List.flatten
  verifySerializedProof proof index _ := some (decide (proof.collapsed = index))

/-- The proof of one member at a root. -/
def memberProof (root : UInt8) : SmtProof where
  id := ByteText.base64url [root]
  nonce := some "AA"
  updateId := some (ByteText.base64url [0])
  collapsed := "did:btcr2:member"
  hashes := []

theorem lookup_singleton
    {Value : Type} {key other : String} {value found : Value} :
    (AList.singleton key value : InsertionMap String Value).lookup other =
        some found ↔
      other = key ∧ found = value := by
  rw [← AList.insert_empty]
  by_cases same : other = key
  · subst same
    rw [AList.lookup_insert, Option.some_inj, eq_comm]
    exact (and_iff_right rfl).symm
  · rw [AList.lookup_insert_ne same, AList.lookup_empty]
    exact iff_of_false nofun fun both => same both.1

/-- A round of one member, which brings the same update to every round. -/
def memberRound (root : UInt8) : CompletedCohort byteHashing namedProofs where
  pendingUpdates := AList.singleton "did:btcr2:member" (0 : Fin 3)
  casAnnouncement := none
  smtProofs := some (AList.singleton "did:btcr2:member" (memberProof root))
  root := [root]
  root_nonempty := List.cons_ne_nil _ _
  rooted := by
    rintro did proof ⟨proofs, held, found⟩
    cases held
    obtain ⟨-, rfl⟩ := lookup_singleton.mp found
    rfl
  covers := by
    intro did included _
    obtain ⟨update, found⟩ := InsertionMap.exists_lookup_of_mem included
    obtain ⟨rfl, -⟩ := lookup_singleton.mp found
    exact ⟨_, _, rfl, lookup_singleton.mpr ⟨rfl, rfl⟩⟩
  names := by
    rintro did proof ⟨proofs, held, found⟩
    cases held
    obtain ⟨rfl, rfl⟩ := lookup_singleton.mp found
    rfl
  verifies := by
    rintro did proof ⟨proofs, held, found⟩ _ other
    cases held
    obtain ⟨rfl, rfl⟩ := lookup_singleton.mp found
    have verdict :
        namedProofs.verifiesFor other (memberProof root) =
          decide ("did:btcr2:member" = other) := by
      have nonce : ByteText.ofBase64url? "AA" = some [0] := by
        decide +kernel
      have updateId : ByteText.base64url [0] ≠ "" :=
        base64url_ne_empty (List.cons_ne_nil _ _)
      rw [SmtLibrary.verifiesFor]
      simp [namedProofs, memberProof, SmtProof.inclusion?, Option.filter, nonce,
        updateId, ByteText.ofBase64url?_base64url]
    rw [verdict, decide_eq_true_iff, eq_comm]

/-- After one round, its member is served. -/
theorem persisted_serve_iff_oneRound :
    (memberRound 1).Served
      ⟨fun _ => .ok [],
        some
          (landPuts .empty
            (artifactPuts byteHashing (memberRound 1).toPersistableCohort)).1⟩ :=
    by
  have order :
      (artifactPuts byteHashing (memberRound 1).toPersistableCohort).Perm
        ([memberRound 1].flatMap fun cohort =>
          artifactPuts byteHashing cohort.toPersistableCohort) := by
    rw [List.flatMap_singleton]
  apply (persisted_serve_iff order fun _ => .ok []).mpr
  · intro cohort member did included _
    obtain rfl := List.mem_singleton.mp member
    obtain ⟨update, pending⟩ := InsertionMap.exists_lookup_of_mem included
    obtain ⟨rfl, rfl⟩ := lookup_singleton.mp pending
    exact ⟨memberRound 1, member, memberProof 1, (0 : Fin 3),
      ⟨_, rfl, lookup_singleton.mpr ⟨rfl, rfl⟩⟩, rfl, pending, rfl⟩
  · exact List.mem_singleton_self _

/-- The cohorts of two rounds that include the same update. -/
def bothRounds : List (CompletedCohort byteHashing namedProofs) :=
  [memberRound 1, memberRound 2]

/-- Reads of a chain without signals, beside a store. -/
def withStore
    (store : MemoryArtifactStore (Artifact byteHashing.Document)) :
    ResolveOptions byteHashing.Document where
  indexer _ := .ok []
  store := some store

/-- After the second round, the first round's proof is gone. -/
theorem second_round_displaces_proof :
    ¬ ∀ cohort ∈ bothRounds,
        cohort.Served
          (withStore
            (persistCohorts byteHashing .empty
              (bothRounds.map CompletedCohort.toPersistableCohort))) := by
  intro served
  have gone :
      selectSmtProof namedProofs
          (some
            (persistCohorts byteHashing .empty
              (bothRounds.map CompletedCohort.toPersistableCohort)))
          (ByteText.hex [1]) "did:btcr2:member" = none := by
    decide +kernel
  have included : "did:btcr2:member" ∈ (memberRound 1).pendingUpdates :=
    InsertionMap.mem_of_lookup (lookup_singleton.mpr ⟨rfl, rfl⟩)
  obtain ⟨proof, found⟩ :=
    (served (memberRound 1) List.mem_cons_self).proof "did:btcr2:member" ""
      included rfl
  have selected := satisfyNeed_smtProof_iff.mp found
  cases gone.symm.trans selected

end TwoRounds

end Btcr2Aggregation
