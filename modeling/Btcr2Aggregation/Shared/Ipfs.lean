import Btcr2Aggregation.Library.ByteText

/-!
# Artifacts as content-addressed blocks

An artifact's key is the hexadecimal SHA-256 of its canonical JSON.  The same
digest, wrapped as a raw CIDv1, addresses the canonical bytes themselves, so
that a block can be checked against the key alone.
-/

namespace Btcr2Aggregation

namespace Ipfs

section Identifiers

/-! ## Digests and identifiers -/

/-- sha2-256 multihash code. -/
def sha2256Code : Nat := 0x12

/-- The raw codec, an identity on bytes. -/
def rawCode : Nat := 0x55

/-- A content identifier, its multihash taken apart. -/
structure Cid where
  version : Nat
  code : Nat
  multihashCode : Nat
  digest : Bytes
  deriving DecidableEq, Repr

/-- `/^[0-9a-f]{64}$/`. -/
def matchesHashHex64 (text : String) : Bool :=
  decide (text.length = 64) && text.toList.all ByteText.isHexDigit

def normalizeDigestHex (hashHex : String) : Except String String :=
  let lower := hashHex.toLower
  if matchesHashHex64 lower then
    .ok lower
  else
    .error ("expected a 64-char hex sha256 digest, got \"" ++ hashHex ++ "\"")

/-- The raw CIDv1 of a SHA-256 digest. -/
def rawCid (digest : Bytes) : Cid where
  version := 1
  code := rawCode
  multihashCode := sha2256Code
  digest := digest

/-- `hexToBytes` fails on no text of 64 digits. -/
def cidFromHashHex (hashHex : String) : Except String Cid := do
  let hash ← normalizeDigestHex hashHex
  return rawCid ((ByteText.ofHex? hash).getD [])

/-- An accepted digest is the hexadecimal of 32 bytes. -/
theorem normalizeDigestHex_eq_ok {hashHex hash : String}
    (accepted : normalizeDigestHex hashHex = .ok hash) :
    ∃ digest : Bytes, digest.length = 32 ∧ hash = ByteText.hex digest := by
  unfold normalizeDigestHex at accepted
  by_cases valid : matchesHashHex64 hashHex.toLower = true
  · rw [if_pos valid] at accepted
    cases accepted
    obtain ⟨length, digits⟩ := (Bool.and_eq_true _ _).mp valid
    have even : hashHex.toLower.length = 2 * 32 := of_decide_eq_true length
    obtain ⟨digest, size, spelled⟩ := ByteText.exists_hex_of_digits digits even
    exact ⟨digest, size, spelled.symm⟩
  · rw [if_neg valid] at accepted
    cases accepted

/-- The hexadecimal of 32 bytes is accepted as it stands. -/
theorem normalizeDigestHex_hex {digest : Bytes} (size : digest.length = 32) :
    normalizeDigestHex (ByteText.hex digest) = .ok (ByteText.hex digest) := by
  have length : (ByteText.hex digest).length = 64 := by
    rw [ByteText.length_hex, size]
  have digits : (ByteText.hex digest).toList.all ByteText.isHexDigit = true := by
    rw [List.all_eq_true]
    intro character present
    exact (ByteText.mem_hex present).1
  have valid : matchesHashHex64 (ByteText.hex digest) = true := by
    rw [matchesHashHex64, Bool.and_eq_true, decide_eq_true_eq]
    exact ⟨length, digits⟩
  rw [normalizeDigestHex, ByteText.toLower_hex, if_pos valid]

/-- The digest inside a CID is the one it was made from. -/
theorem cidFromHashHex_hex {digest : Bytes} (size : digest.length = 32) :
    cidFromHashHex (ByteText.hex digest) = .ok (rawCid digest) := by
  rw [cidFromHashHex, normalizeDigestHex_hex size]
  have decoded : ByteText.ofHex? (ByteText.hex digest) = some digest :=
    ByteText.ofHex?_hex digest
  exact congrArg (fun bytes => Except.ok (rawCid (bytes.getD []))) decoded

end Identifiers

section Artifacts

/-! ## Artifacts -/

/-- The packages an artifact is encoded and hashed with.  `isObject` is the test
`typeof value === 'object'` on a value that is neither `undefined` nor `null`,
`canonicalize` is followed by the UTF-8 encoder. -/
structure ArtifactLibrary (Value : Type) where
  isObject : Value → Bool
  canonicalize : Value → Bytes
  canonicalHash : Value → String
  sha256 : Bytes → Bytes
  cidText : Cid → String

namespace ArtifactLibrary

variable {Value : Type}

/-- What the packages are relied on for: a digest has 32 bytes, and the
canonical hash is the digest of the canonical bytes. -/
structure Lawful (library : ArtifactLibrary Value) : Prop where
  digests : ∀ bytes, (library.sha256 bytes).length = 32
  hashes :
    ∀ artifact,
      library.canonicalHash artifact =
        ByteText.hex (library.sha256 (library.canonicalize artifact))

variable (library : ArtifactLibrary Value)

/-- The only bytes that may be stored under the artifact's CID. -/
def canonicalArtifactBytes (artifact : Value) : Bytes :=
  library.canonicalize artifact

def artifactHashHex (artifact : Value) : String :=
  library.canonicalHash artifact

/-- The bytes hash to the digest of the CID. -/
def Verifies (cid : Cid) (bytes : Bytes) : Prop :=
  library.sha256 bytes = cid.digest

instance (cid : Cid) (bytes : Bytes) : Decidable (library.Verifies cid bytes) :=
  inferInstanceAs (Decidable (library.sha256 bytes = cid.digest))

variable {library}

/-- The CID of an artifact's own hash is that of its canonical bytes. -/
theorem Lawful.cidFromHashHex_artifact
    (lawful : library.Lawful) (artifact : Value) :
    cidFromHashHex (library.artifactHashHex artifact) =
      .ok (rawCid (library.sha256 (library.canonicalArtifactBytes artifact))) := by
  rw [artifactHashHex, lawful.hashes]
  exact cidFromHashHex_hex (lawful.digests _)

/-- An artifact that hashes to a digest has bytes that verify under its CID. -/
theorem Lawful.verifies_of_artifactHashHex
    (lawful : library.Lawful) {artifact : Value} {digest : Bytes}
    (hashes : library.artifactHashHex artifact = ByteText.hex digest) :
    library.Verifies (rawCid digest) (library.canonicalArtifactBytes artifact) := by
  rw [artifactHashHex, lawful.hashes] at hashes
  exact ByteText.hex_injective hashes

end ArtifactLibrary

end Artifacts

end Ipfs

end Btcr2Aggregation
