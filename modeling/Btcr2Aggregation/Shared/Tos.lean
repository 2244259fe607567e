import Btcr2Aggregation.Library.JsValue

/-!
# Participation-terms acceptances

The frozen record a participant signs, and the two hashes taken over the terms
text and over the record.  Both hashes are a canonicalisation followed by
SHA-256, so they are parameters.
-/

namespace Btcr2Aggregation

namespace Tos

/-- The JSON-LD context every record of the method names. -/
def btcr2Context : String :=
  "https://btcr2.dev/context/v1"

/-- The record's type discriminator. -/
def termsAcceptanceType : String :=
  "ParticipationTermsAcceptance"

/-- The frozen field set. -/
def termsAcceptanceFields : List String :=
  ["@context", "type", "serviceDid", "cohortId", "termsHash",
    "participantDid", "acceptedAt"]

/-- A participant's agreement to one service's participation terms. -/
structure TermsAcceptance where
  context : String
  type : String
  serviceDid : String
  cohortId : String
  termsHash : String
  participantDid : String
  acceptedAt : String
  deriving DecidableEq, Repr

/-- The parts a caller supplies. -/
structure TermsAcceptanceInput where
  serviceDid : String
  cohortId : String
  termsHash : String
  participantDid : String
  acceptedAt : String

/-- The record built from its parts. -/
def buildTermsAcceptance (input : TermsAcceptanceInput) : TermsAcceptance where
  context := btcr2Context
  type := termsAcceptanceType
  serviceDid := input.serviceDid
  cohortId := input.cohortId
  termsHash := input.termsHash
  participantDid := input.participantDid
  acceptedAt := input.acceptedAt

/-- The hashing and the DID resolution a service is wired with. -/
structure TosLibrary where
  /-- The SHA-256 of the exact terms text. -/
  termsHashHex : String → String
  /-- The canonical hash of a record. -/
  termsAcceptanceHashHex : TermsAcceptance → String
  /-- `Date.parse` yields a number. -/
  parsesAsDate : String → Bool
  /-- The key a DID resolves to, with the document the caller supplied. -/
  resolveSenderPk :
    String → Option (List (String × JsValue)) → Option String
  /-- The signature verifies under the key over the record's signing bytes. -/
  verifies : String → String → TermsAcceptance → Bool

end Tos

end Btcr2Aggregation
