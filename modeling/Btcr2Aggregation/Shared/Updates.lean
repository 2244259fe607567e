import Btcr2Aggregation.Library.InsertionMap
import Btcr2Aggregation.Shared.Cohort

/-!
# Identities and their signed updates

How an identity's genesis fits a cohort, and the one update a cohort round
builds from it.  Resolution, hashing, signing and the construction of an
unsigned update are the method library's; what the code relies on there is
carried by `MethodLibrary` as fields.
-/

namespace Btcr2Aggregation

section Documents

/-! ## Documents and updates -/

/-- One entry of an unchecked `service` array.  A field is `none` where it is
absent or no string, and both are where the entry is no object. -/
structure ServiceEntry where
  type : Option String
  serviceEndpoint : Option String
  deriving DecidableEq, Repr

/-- An unchecked genesis document: its `service`, if that is an array, and
everything else in canonical form. -/
structure GenesisDocument where
  service : Option (List ServiceEntry)
  others : String
  deriving DecidableEq, Repr

structure Service where
  id : String
  type : String
  serviceEndpoint : String
  deriving DecidableEq, Repr

structure DidDocument where
  id : String
  verificationMethod : List String
  service : List Service
  deriving DecidableEq, Repr

namespace DidDocument

/-- The patch operation that appends to the services. -/
def addService (document : DidDocument) (service : Service) : DidDocument :=
  { document with service := document.service ++ [service] }

end DidDocument

structure UnsignedUpdate where
  patch : List Service
  sourceHash : String
  targetHash : String
  targetVersionId : Nat
  deriving DecidableEq, Repr

structure SignedUpdate extends UnsignedUpdate where
  proof : String
  deriving DecidableEq, Repr

/-- An identity: an EXTERNAL one carries its genesis document. -/
structure Identity where
  did : String
  keys : String
  genesisDocument : Option GenesisDocument
  deriving DecidableEq, Repr

/-- The method library.  Its resolver reads the genesis alone, an update names
the document it starts from, and a target version is one past the source. -/
structure MethodLibrary where
  external : String → GenesisDocument → DidDocument
  deterministic : String → NetworkName → DidDocument
  decodeNetwork : String → NetworkName
  genesisP2trBeaconAddress : String → NetworkName → String
  hash : DidDocument → String
  construct : DidDocument → List Service → Nat → UnsignedUpdate
  sign : String → UnsignedUpdate → String → String → Nat → String
  patch_construct :
    ∀ document patch version,
      (construct document patch version).patch = patch
  sourceHash_construct :
    ∀ document patch version,
      (construct document patch version).sourceHash = hash document
  targetVersionId_construct :
    ∀ document patch version,
      (construct document patch version).targetVersionId = version + 1

end Documents

section Fit

/-! ## How a genesis fits a cohort -/

inductive CohortFit where
  | append
  | exitRamp
  | mismatch
  deriving DecidableEq, Repr

def isAggregateBeaconService (entry : ServiceEntry) : Bool :=
  entry.type = some "CASBeacon" ∨ entry.type = some "SMTBeacon"

/-- The aggregate beacons a genesis bakes; a KEY identity has no genesis. -/
def bakedAggregates (genesisDocument : Option GenesisDocument) :
    List ServiceEntry :=
  ((genesisDocument.bind GenesisDocument.service).getD []).filter
    isAggregateBeaconService

def classifyCohortFit
    (genesisDocument : Option GenesisDocument) (beaconAddress : String)
    (beaconType : BeaconType) : CohortFit :=
  let aggregates := bakedAggregates genesisDocument
  if aggregates.isEmpty then
    .append
  else if
      aggregates.any fun entry =>
        entry.type = some beaconType.name ∧
          entry.serviceEndpoint = some ("bitcoin:" ++ beaconAddress) then
    .exitRamp
  else
    .mismatch

/-- The entry is the aggregate beacon of the cohort at an address. -/
def ServiceEntry.IsBeaconOf
    (entry : ServiceEntry) (beaconAddress : String) (beaconType : BeaconType) :
    Prop :=
  entry.type = some beaconType.name ∧
    entry.serviceEndpoint = some ("bitcoin:" ++ beaconAddress)

/-- A genesis that bakes aggregate beacons, none of them the cohort's. -/
def BakesOnlyOthers
    (genesisDocument : Option GenesisDocument) (beaconAddress : String)
    (beaconType : BeaconType) : Prop :=
  bakedAggregates genesisDocument ≠ [] ∧
    ∀ entry ∈ bakedAggregates genesisDocument,
      ¬ entry.IsBeaconOf beaconAddress beaconType

theorem classifyCohortFit_eq_mismatch_iff
    {genesisDocument : Option GenesisDocument} {beaconAddress : String}
    {beaconType : BeaconType} :
    classifyCohortFit genesisDocument beaconAddress beaconType = .mismatch ↔
      BakesOnlyOthers genesisDocument beaconAddress beaconType := by
  unfold classifyCohortFit BakesOnlyOthers ServiceEntry.IsBeaconOf
  cases bakedAggregates genesisDocument with
  | nil => simp
  | cons entry entries => simp

end Fit

section Build

/-! ## The update of a round -/

def beaconSlug : BeaconType → String
  | .smtBeacon => "smt"
  | .casBeacon => "cas"

def mismatchError (beaconAddress : String) (beaconType : BeaconType) : String :=
  "buildSignedUpdate: this identity's genesis bakes an aggregate beacon that is not this " ++
    "cohort's (" ++ beaconType.name ++ " at bitcoin:" ++ beaconAddress ++
    "). A baked identity can only ride the " ++
    "exact cohort it was provisioned for; submitting here would leave the DID unresolvable. " ++
    "Cohort participants must decline instead of submitting (classifyCohortFit)."

variable (library : MethodLibrary)

/-- The document an identity's update is built against: the one its genesis, or
its key, resolves to. -/
def genesisResolution (identity : Identity) : DidDocument :=
  match identity.genesisDocument with
  | some genesisDocument => library.external identity.did genesisDocument
  | none =>
      library.deterministic identity.keys (library.decodeNetwork identity.did)

/-- The service a round's update appends. -/
def appendedService
    (identity : Identity) (beaconAddress : String) (beaconType : BeaconType) :
    Service :=
  if
      classifyCohortFit identity.genesisDocument beaconAddress beaconType =
        .exitRamp then
    { id := identity.did ++ "#beacon-singleton"
      type := "SingletonBeacon"
      serviceEndpoint :=
        "bitcoin:" ++
          library.genesisP2trBeaconAddress identity.keys
            (library.decodeNetwork identity.did) }
  else
    { id := identity.did ++ "#beacon-" ++ beaconSlug beaconType
      type := beaconType.name
      serviceEndpoint := "bitcoin:" ++ beaconAddress }

/-- `buildSignedUpdate`; a signature draws fresh randomness. -/
def buildSignedUpdate
    (identity : Identity) (beaconAddress : String) (beaconType : BeaconType)
    (randomness : Nat) : Except String SignedUpdate :=
  if
      classifyCohortFit identity.genesisDocument beaconAddress beaconType =
        .mismatch then
    .error (mismatchError beaconAddress beaconType)
  else
    let document := genesisResolution library identity
    let unsigned :=
      library.construct document
        [appendedService library identity beaconAddress beaconType] 1
    .ok {
      toUnsignedUpdate := unsigned
      proof :=
        library.sign identity.did unsigned
          (document.verificationMethod.headD "") identity.keys randomness }

/-- Every update built for an identity starts from its genesis resolution and
claims version 2. -/
theorem buildSignedUpdate_ok
    {identity : Identity} {beaconAddress : String} {beaconType : BeaconType}
    {randomness : Nat} {update : SignedUpdate}
    (built :
      buildSignedUpdate library identity beaconAddress beaconType randomness =
        .ok update) :
    update.patch =
        [appendedService library identity beaconAddress beaconType] ∧
      update.sourceHash = library.hash (genesisResolution library identity) ∧
        update.targetVersionId = 2 := by
  unfold buildSignedUpdate at built
  split at built
  · cases built
  · cases built
    exact
      ⟨library.patch_construct _ _ _, library.sourceHash_construct _ _ _,
        library.targetVersionId_construct _ _ _⟩

theorem buildSignedUpdate_isOk_iff
    {identity : Identity} {beaconAddress : String} {beaconType : BeaconType}
    (randomness : Nat) :
    (∃ update,
        buildSignedUpdate library identity beaconAddress beaconType randomness =
          .ok update) ↔
      classifyCohortFit identity.genesisDocument beaconAddress beaconType ≠
        .mismatch := by
  unfold buildSignedUpdate
  split
  · next mismatch => simp [mismatch]
  · next fits => simp [fits]

end Build

end Btcr2Aggregation
