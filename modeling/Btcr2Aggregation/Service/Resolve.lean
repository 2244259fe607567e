import Btcr2Aggregation.Library.JsNumber
import Btcr2Aggregation.Service.Persist

/-!
# Serving a resolver's needs

The resolver of the method library asks for one piece of data at a time, and
`satisfyNeed` fetches it: beacon signals from the chain, everything else from
the artifact store.  Proofs are kept per update, so the one for a DID at a root
is found by trying each in turn.
-/

namespace Btcr2Aggregation

section Needs

/-! ## Needs -/

inductive DataNeed where
  | beaconSignals (beaconServices : List String)
  | casAnnouncement (announcementHash beaconServiceId : String)
  | signedUpdate (updateHash beaconServiceId : String)
  | smtProof (smtRootHash beaconServiceId : String)
  | genesisDocument (genesisHash : String)
  deriving DecidableEq, Repr

/-- A discovered signal; its block time is absent while it is unconfirmed. -/
structure BeaconSignal where
  time : Option JsNumber

/-- The signals of each beacon service. -/
abbrev BeaconSignals := List (String × List BeaconSignal)

/-- What a need is provided with. -/
inductive Provided (Document : Type) where
  | signals (found : BeaconSignals)
  | artifact (value : Artifact Document)

inductive ResolveError where
  | unconfirmedSignal
  | failed (message : String)
  deriving DecidableEq, Repr

/-- Where the driver reads: the chain, and a store if there is one. -/
structure ResolveOptions (Document : Type) where
  indexer : List String → Except String BeaconSignals
  store : Option (MemoryArtifactStore (Artifact Document))

/-- `Number.isFinite(signal?.blockMetadata?.time)`. -/
def BeaconSignal.isConfirmed (signal : BeaconSignal) : Bool :=
  signal.time.any JsNumber.isFinite

def hasUnconfirmedSignal (signals : BeaconSignals) : Bool :=
  signals.any fun entry => entry.2.any fun signal => !signal.isConfirmed

end Needs

section Proofs

/-! ## The proof of a DID -/

/-- The SMT library; `none` is a throw. -/
structure SmtLibrary where
  Index : Type
  Hash : Type
  didToIndex : String → Index
  base64UrlToHash : String → Option Hash
  blockHash : List Hash → Hash
  verifySerializedProof : SmtProof → Index → Hash → Option Bool

/-- Whether a proof with a nonce and an update verifies for a DID. -/
def SmtLibrary.verifiesFor
    (library : SmtLibrary) (did : String) (proof : SmtProof) : Bool :=
  (do
    let nonce ← proof.nonce.filter (· ≠ "")
    let updateId ← proof.inclusion?
    let nonceHash ← library.base64UrlToHash nonce
    let updateHash ← library.base64UrlToHash updateId
    library.verifySerializedProof proof (library.didToIndex did)
      (library.blockHash [library.blockHash [nonceHash], updateHash])).getD
    false

/-- `encode(decode(proof.id, 'base64urlnopad'), 'hex')`. -/
def SmtProof.rootHex? (proof : SmtProof) : Option String :=
  (ByteText.ofBase64url? proof.id).map ByteText.hex

variable {Document : Type}

def Artifact.asProof? : Artifact Document → Option SmtProof
  | .proof stored => some stored
  | .document _ => none

/-- The check `selectSmtProof` makes of each proof. -/
def SmtLibrary.serves
    (library : SmtLibrary) (rootHex did : String) (proof : SmtProof) : Bool :=
  decide (proof.id ≠ "") && decide (proof.rootHex? = some rootHex) &&
    library.verifiesFor did proof

def selectSmtProof
    (library : SmtLibrary)
    (store : Option (MemoryArtifactStore (Artifact Document)))
    (rootHex did : String) : Option SmtProof :=
  store.bind fun store =>
    ((store.values .proof).filterMap Artifact.asProof?).find?
      (library.serves rootHex did)

/-- A proof is selected exactly when the store holds one that serves. -/
theorem exists_selectSmtProof_iff
    {library : SmtLibrary} {store : MemoryArtifactStore (Artifact Document)}
    {rootHex did : String} :
    (∃ proof, selectSmtProof library (some store) rootHex did = some proof) ↔
      ∃ key proof,
        (store.maps .proof).lookup key = some (.proof proof) ∧
          library.serves rootHex did proof = true := by
  rw [← Option.isSome_iff_exists]
  simp only [selectSmtProof, Option.bind_some, List.find?_isSome,
    List.mem_filterMap, MemoryArtifactStore.mem_values_iff]
  constructor
  · rintro ⟨proof, ⟨value, ⟨key, held⟩, asProof⟩, serves⟩
    cases value with
    | document body => cases asProof
    | proof stored =>
        cases asProof
        exact ⟨key, proof, held, serves⟩
  · rintro ⟨key, proof, held, serves⟩
    exact ⟨proof, ⟨.proof proof, ⟨key, held⟩, rfl⟩, serves⟩

end Proofs

section Satisfy

/-! ## Serving a need -/

variable {Document : Type}

/-- `getFromStore`. -/
def getFromStore
    (store : Option (MemoryArtifactStore (Artifact Document)))
    (kind : ArtifactKind) (hashHex : String) :
    Except String (Option (Artifact Document)) :=
  match store with
  | none => .ok none
  | some store => store.get kind hashHex

/-- A document by its hash, or the error that nothing is there. -/
def provideFromStore
    (options : ResolveOptions Document) (kind : ArtifactKind)
    (hashHex missing : String) : Except ResolveError (Provided Document) :=
  match getFromStore options.store kind hashHex with
  | .error reason => .error (.failed reason)
  | .ok none => .error (.failed missing)
  | .ok (some value) => .ok (.artifact value)

/-- What `satisfyNeed` provides the resolver with, or throws. -/
def satisfyNeed
    (library : SmtLibrary) (options : ResolveOptions Document) (did : String) :
    DataNeed → Except ResolveError (Provided Document)
  | .beaconSignals beaconServices =>
      match options.indexer beaconServices with
      | .error reason => .error (.failed reason)
      | .ok signals =>
          if hasUnconfirmedSignal signals then
            .error .unconfirmedSignal
          else
            .ok (.signals signals)
  | .casAnnouncement announcementHash beaconServiceId =>
      provideFromStore options .announcement announcementHash
        ("resolveBtcr2: no CAS announcement for hash " ++ announcementHash ++
          " (beacon " ++ beaconServiceId ++
          "); publish it to the store or supply a sidecar")
  | .signedUpdate updateHash beaconServiceId =>
      provideFromStore options .update updateHash
        ("resolveBtcr2: no signed update for hash " ++ updateHash ++
          " (beacon " ++ beaconServiceId ++
          "); publish it to the store or supply a sidecar")
  | .smtProof smtRootHash beaconServiceId =>
      match selectSmtProof library options.store smtRootHash did with
      | some proof => .ok (.artifact (.proof proof))
      | none =>
          .error
            (.failed
              ("resolveBtcr2: no SMT proof for did " ++ did ++ " at root " ++
                smtRootHash ++ " (beacon " ++ beaconServiceId ++
                "); supply the DID's proof via sidecar or store"))
  | .genesisDocument genesisHash =>
      provideFromStore options .genesis genesisHash
        ("resolveBtcr2: no genesis document for hash " ++ genesisHash ++
          "; an EXTERNAL (x-HRP) DID must be resolved with its genesis " ++
          "document in the sidecar or store")

/-- An answered SMT need holds the proof that was selected. -/
theorem satisfyNeed_smtProof_iff
    {library : SmtLibrary} {options : ResolveOptions Document}
    {did rootHex beaconServiceId : String} {proof : SmtProof} :
    satisfyNeed library options did (.smtProof rootHex beaconServiceId) =
        .ok (.artifact (.proof proof)) ↔
      selectSmtProof library options.store rootHex did = some proof := by
  rw [satisfyNeed]
  cases selectSmtProof library options.store rootHex did with
  | none => simp
  | some proof => simp

end Satisfy

end Btcr2Aggregation
