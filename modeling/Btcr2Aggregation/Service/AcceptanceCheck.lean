import Btcr2Aggregation.Library.Fallible
import Btcr2Aggregation.Library.JoinedText
import Btcr2Aggregation.Service.AcceptanceLedger
import Btcr2Aggregation.Library.ByteText

/-!
# What the acceptance route records

The route checks, hashes and stores the submitted object itself.  Its key test
compares joined names, and a name may contain the comma, so the shape of what
is stored rests on the checks that follow: every field but two is read and
compared, an absent participant DID resolves to no key, and then the joined
names leave room for the cohort id alone.
-/

namespace Btcr2Aggregation

open InsertionMap

namespace Tos

section Route

/-! ## The route -/

/-- An object by its own keys. -/
abbrev JsObject := List (String × JsValue)

/-- The hashing, the key resolver and the signature check, on whatever was
submitted.  A verification that throws is `none`. -/
structure AcceptanceLibrary where
  sha256 : Bytes → Bytes
  canonicalize : JsObject → Bytes
  parsesAsDate : String → Bool
  resolveSenderPk : Option JsValue → Option JsObject → Option String
  verify : String → Bytes → Bytes → Option Bool

namespace AcceptanceLibrary

variable (library : AcceptanceLibrary)

def termsHashHex (termsText : String) : String :=
  ByteText.hex (library.sha256 termsText.toUTF8.toList)

def termsAcceptanceSigningBytes (acceptance : JsObject) : Bytes :=
  library.sha256 (library.canonicalize acceptance)

def termsAcceptanceHashHex (acceptance : JsObject) : String :=
  ByteText.hex (library.termsAcceptanceSigningBytes acceptance)

/-- The signature verifies; what throws does not. -/
def verified (pk signature : String) (acceptance : JsObject) : Bool :=
  ((ByteText.ofHex? signature).bind fun bytes =>
    library.verify pk bytes
      (library.termsAcceptanceSigningBytes acceptance)).getD false

end AcceptanceLibrary

/-- The object a record is. -/
def TermsAcceptance.toObject (record : TermsAcceptance) : JsObject :=
  [("@context", .string record.context), ("type", .string record.type),
    ("serviceDid", .string record.serviceDid),
    ("cohortId", .string record.cohortId),
    ("termsHash", .string record.termsHash),
    ("participantDid", .string record.participantDid),
    ("acceptedAt", .string record.acceptedAt)]

/-- The library on records. -/
def AcceptanceLibrary.onRecords (library : AcceptanceLibrary) : TosLibrary where
  termsHashHex := library.termsHashHex
  termsAcceptanceHashHex record :=
    library.termsAcceptanceHashHex record.toObject
  parsesAsDate := library.parsesAsDate
  resolveSenderPk did := library.resolveSenderPk (some (.string did))
  verifies pk signature record :=
    library.verified pk signature record.toObject

/-- A value, or the refusal. -/
def orRefuse {Value : Type} (value : Option Value) (refusal : String) :
    Except String Value :=
  match value with
  | some present => .ok present
  | none => .error refusal

def unresolvedRefusal : String :=
  "could not resolve a communication key for the claimed participant DID"

def unverifiedRefusal : String :=
  "signature does not verify against the claimed participant DID"

/-- The key the submitted participant DID resolves to must have signed the
submitted object. -/
def senderRefusal?
    (library : AcceptanceLibrary) (acceptance : JsObject) (signature : String)
    (genesisDocument : Option JsObject) : Option String :=
  match
    library.resolveSenderPk (JsValue.field? acceptance "participantDid")
      genesisDocument with
  | none => some unresolvedRefusal
  | some pk =>
      if library.verified pk signature.toLower acceptance then
        none
      else
        some unverifiedRefusal

/-- What the route reads of a body and of its own configuration. -/
structure AcceptanceEnvelope where
  serviceDid : String
  termsText : String
  signature : String
  genesisDocument : Option JsObject
  acceptance : JsObject

/-- The checks of `recordTermsAcceptance` up to the fields' own shape. -/
def readEnvelope (deps : AcceptanceDeps) (body : JsValue) :
    Except String AcceptanceEnvelope := do
  refuseIf <|
    if deps.storeWired then none
    else some "no artifact store is wired, so an acceptance cannot be stored"
  let serviceDid ←
    orRefuse (nonEmpty? deps.serviceDid)
      "this service has no DID to bind an acceptance to"
  refuseIf <|
    if deps.resolverWired then none
    else
      some "no sender-key resolver is wired, so a signature cannot be verified"
  let termsText ←
    orRefuse (nonEmpty? deps.termsText)
      "this service has no participation terms set"
  let fields ← orRefuse body.asObject? "expected a JSON object body"
  let acceptance ←
    orRefuse ((JsValue.field? fields "acceptance").bind JsValue.asObject?)
      "expected an acceptance object"
  let signature ←
    orRefuse
      ((JsValue.stringField? fields "signature").filter isSignatureShape)
      "expected a 64-byte hex schnorr signature"
  let genesisDocument ← readGenesisDocument fields
  let keys := acceptance.map Prod.fst
  refuseIf <|
    if joinSorted keys = joinSorted termsAcceptanceFields then none
    else
      some ("acceptance carries the wrong field set: " ++ joinSorted keys)
  refuseIf (acceptance.findSome? fieldRefusal?)
  return { serviceDid, termsText, signature, genesisDocument, acceptance }

/-- `recordTermsAcceptance` up to the put: the object it stores. -/
def checkTermsAcceptance
    (library : AcceptanceLibrary) (deps : AcceptanceDeps) (body : JsValue) :
    Except String JsObject := do
  let envelope ← readEnvelope deps body
  refuseIf
    (recordRefusal? library.onRecords envelope.serviceDid envelope.termsText
      envelope.acceptance)
  refuseIf
    (senderRefusal? library envelope.acceptance envelope.signature
      envelope.genesisDocument)
  return envelope.acceptance

/-- The acceptance namespace and the ledger. -/
structure AcceptanceBooks where
  store : InsertionMap String JsObject
  ledger : AcceptanceLedger

/-- The store operations that fail: a put with its reason, and deletes. -/
structure StoreFaults where
  put : Option String
  deletes : List String

/-- The text of a field that was checked to be one. -/
def fieldText (acceptance : JsObject) (key : String) : String :=
  (JsValue.stringField? acceptance key).getD "undefined"

/-- A stale record is retired; a delete that fails is only logged. -/
def retire (faults : StoreFaults) (store : InsertionMap String JsObject)
    (stale : String) : InsertionMap String JsObject :=
  if stale ∈ faults.deletes then store else store.erase stale

/-- The ledger's answer about the record just stored. -/
def AcceptanceBooks.reconcile
    (books : AcceptanceBooks) (hash : String) (record : JsObject) :
    List String × AcceptanceLedger :=
  books.ledger.remember
    (acceptanceDedupKey (fieldText record "participantDid")
      (fieldText record "cohortId"))
    hash

/-- What the call goes on to delete, past its own filter. -/
def AcceptanceBooks.drop
    (books : AcceptanceBooks) (hash : String) (record : JsObject) :
    List String :=
  (books.reconcile hash record).1.filter (· ≠ hash)

/-- The put, the ledger call and the deletes of one verified object. -/
def AcceptanceBooks.file
    (books : AcceptanceBooks) (faults : StoreFaults) (hash : String)
    (record : JsObject) : AcceptanceBooks where
  store :=
    (books.drop hash record).foldl (retire faults)
      (books.store.set hash record)
  ledger := (books.reconcile hash record).2

/-- `recordTermsAcceptance`: the hash it answers or the reason it throws, and
what it leaves. -/
def recordTermsAcceptance
    (library : AcceptanceLibrary) (deps : AcceptanceDeps)
    (faults : StoreFaults) (body : JsValue) (books : AcceptanceBooks) :
    Except String String × AcceptanceBooks :=
  match checkTermsAcceptance library deps body with
  | .error reason => (.error reason, books)
  | .ok record =>
      match faults.put with
      | some reason => (.error reason, books)
      | none =>
          let hash := library.termsAcceptanceHashHex record
          (.ok hash, books.file faults hash record)

end Route

section Reads

/-! ## What the checks establish -/

theorem orRefuse_eq_ok
    {Value : Type} {value : Option Value} {refusal : String} {present : Value}
    (passed : orRefuse value refusal = .ok present) : value = some present := by
  cases value with
  | none => cases passed
  | some found => rw [Except.ok.inj passed]

theorem orRefuse_some_bind
    {Value Result : Type} (present : Value) (refusal : String)
    (next : Value → Except String Result) :
    (orRefuse (some present) refusal >>= next) = next present :=
  rfl

theorem refuseIf_ite {condition : Prop} [Decidable condition] {refusal : String}
    {done : Unit}
    (passed : refuseIf (if condition then none else some refusal) = .ok done) :
    condition := by
  by_contra fails
  rw [if_neg fails] at passed
  cases passed

/-- What an envelope that is read was read from. -/
structure AcceptanceEnvelope.ReadFrom
    (envelope : AcceptanceEnvelope) (deps : AcceptanceDeps) (body : JsValue) :
    Prop where
  serviceDid : deps.serviceDid = some envelope.serviceDid
  termsText : deps.termsText = some envelope.termsText
  parts :
    ∃ fields,
      body.asObject? = some fields ∧
        JsValue.field? fields "acceptance" =
            some (.object envelope.acceptance) ∧
          JsValue.stringField? fields "signature" = some envelope.signature
  joined :
    joinSorted (envelope.acceptance.map Prod.fst) =
      joinSorted termsAcceptanceFields
  bounded : envelope.acceptance.findSome? fieldRefusal? = none

theorem asObject?_eq_some {value : JsValue} {fields : JsObject}
    (isObject : value.asObject? = some fields) : value = .object fields := by
  cases value with
  | object found => rw [Option.some.inj isObject]
  | _ => cases isObject

theorem readEnvelope_eq_ok
    {deps : AcceptanceDeps} {body : JsValue} {envelope : AcceptanceEnvelope}
    (read : readEnvelope deps body = .ok envelope) :
    envelope.ReadFrom deps body := by
  simp only [readEnvelope, bind_eq_ok_iff] at read
  obtain ⟨_, -, serviceDid, service, _, -, termsText, terms, fields, isObject,
    acceptance, submitted, signature, signs, genesisDocument, -, _, joined, _,
    bounded, built⟩ := read
  cases built
  obtain ⟨value, found, asObject⟩ :=
    Option.bind_eq_some_iff.mp (orRefuse_eq_ok submitted)
  exact
    { serviceDid := nonEmpty?_eq_some (orRefuse_eq_ok service)
      termsText := nonEmpty?_eq_some (orRefuse_eq_ok terms)
      parts :=
        ⟨fields, orRefuse_eq_ok isObject,
          found.trans (congrArg some (asObject?_eq_some asObject)),
          (Option.filter_eq_some_iff.mp (orRefuse_eq_ok signs)).1⟩
      joined := refuseIf_ite joined
      bounded := refuseIf_eq_ok bounded }

/-- Every field is a nonempty text within the bound. -/
theorem string_of_bounded
    {acceptance : JsObject}
    (bounded : acceptance.findSome? fieldRefusal? = none)
    {entry : String × JsValue} (member : entry ∈ acceptance) :
    ∃ text, entry.2 = .string text := by
  have passed := List.findSome?_eq_none_iff.mp bounded entry member
  cases value : entry.2 with
  | string text => exact ⟨text, rfl⟩
  | _ => simp [fieldRefusal?, JsValue.asString?, value] at passed

/-- What the comparisons of single fields establish. -/
structure RecordPassed
    (library : TosLibrary) (serviceDid termsText : String)
    (acceptance : JsObject) : Prop where
  context : JsValue.stringField? acceptance "@context" = some btcr2Context
  type : JsValue.stringField? acceptance "type" = some termsAcceptanceType
  serviceDid :
    JsValue.stringField? acceptance "serviceDid" = some serviceDid
  cohortId : isCohortIdShape (fieldText acceptance "cohortId") = true
  acceptedAt :
    ∃ text, JsValue.stringField? acceptance "acceptedAt" = some text
  termsHash :
    JsValue.stringField? acceptance "termsHash" =
      some (library.termsHashHex termsText)

theorem recordPassed_of_recordRefusal?
    {library : TosLibrary} {serviceDid termsText : String}
    {acceptance : JsObject}
    (passed :
      recordRefusal? library serviceDid termsText acceptance = none) :
    RecordPassed library serviceDid termsText acceptance := by
  simp only [recordRefusal?] at passed
  repeat' split at passed
  all_goals cases passed
  rename_i named sameService shaped dated sameTerms
  obtain ⟨sameContext, sameType⟩ := not_or.mp named
  simp only [Bool.not_eq_true', Bool.not_eq_false] at shaped dated
  obtain ⟨text, found, -⟩ := (Option.any_eq_true _ _).mp dated
  exact
    { context := not_not.mp sameContext
      type := not_not.mp sameType
      serviceDid := not_not.mp sameService
      cohortId := shaped
      acceptedAt := ⟨text, found⟩
      termsHash := not_not.mp sameTerms }

end Reads

section Shape

/-! ## The shape of what is stored

Six of the frozen names are read and found; the joined names then leave one
piece, and it is the cohort id. -/

/-- The names that are read whatever else was submitted. -/
def readNames : List String :=
  ["@context", "type", "serviceDid", "termsHash", "participantDid",
    "acceptedAt"]

theorem perm_readNames :
    termsAcceptanceFields.Perm ("cohortId" :: readNames) := by
  decide

/-- The pieces of sorted and joined keys are those of the keys. -/
theorem pieces_of_joinSorted
    {keys others : List String} (keysNonempty : keys ≠ [])
    (othersNonempty : others ≠ [])
    (joined : joinSorted keys = joinSorted others) :
    (JoinedText.pieces ',' (keys.map String.toList)).Perm
      (JoinedText.pieces ',' (others.map String.toList)) := by
  have splits :
      ∀ names : List String, names ≠ [] →
        ((joinSorted names).toList.splitOn ',').Perm
          (JoinedText.pieces ',' (names.map String.toList)) := by
    intro names nonempty
    have sortedPerm := List.perm_insertionSort (· ≤ ·) names
    have sortedNonempty :
        (names.insertionSort (· ≤ ·)).map String.toList ≠ [] := by
      intro empty
      have vanished := List.map_eq_nil_iff.mp empty
      rw [vanished] at sortedPerm
      exact nonempty (List.nil_perm.mp sortedPerm)
    have joinedIs :
        (joinSorted names).toList =
          [','].intercalate ((names.insertionSort (· ≤ ·)).map String.toList) := by
      rw [joinSorted, String.toList_intercalate]
      rfl
    rw [joinedIs, JoinedText.splitOn_intercalate ',' sortedNonempty]
    exact (sortedPerm.map String.toList).flatMap_right _
  have here := splits keys keysNonempty
  rw [joined] at here
  exact here.symm.trans (splits others othersNonempty)

/-- Keys that join to the frozen names and contain those that are read are the
frozen names. -/
theorem perm_of_joinSorted
    {keys : List String} (present : readNames ⊆ keys)
    (joined : joinSorted keys = joinSorted termsAcceptanceFields) :
    keys.Perm termsAcceptanceFields := by
  have keysNonempty : keys ≠ [] :=
    List.ne_nil_of_mem (present (List.mem_cons_self))
  have frozenNonempty : termsAcceptanceFields ≠ [] := List.cons_ne_nil _ _
  have pieced := pieces_of_joinSorted keysNonempty frozenNonempty joined
  have frozenPlain :
      ∀ text ∈ termsAcceptanceFields.map String.toList, ',' ∉ text := by
    decide
  rw [JoinedText.pieces_of_notMem ',' frozenPlain] at pieced
  have distinct : (readNames.map String.toList).Nodup := by
    decide
  have readPlain : ∀ text ∈ readNames.map String.toList, ',' ∉ text := by
    decide
  have same :
      (keys.map String.toList).Perm
        ("cohortId".toList :: readNames.map String.toList) :=
    JoinedText.perm_of_pieces_perm ',' distinct
      (List.map_subset String.toList present) readPlain
      (pieced.trans (perm_readNames.map String.toList))
  have keysPerm : keys.Perm ("cohortId" :: readNames) :=
    (List.map_perm_map_iff fun _ _ => String.toList_injective).mp same
  exact keysPerm.trans perm_readNames.symm

/-- The key test alone lets a name with a comma through. -/
example :
    joinSorted
        ["@context", "type", "serviceDid", "termsHash", "acceptedAt",
          "cohortId,participantDid"] =
      joinSorted termsAcceptanceFields := by
  decide +kernel

end Shape

section Recorded

/-! ## What an accepted call records -/

/-- The key resolver yields no key for anything but a string DID. -/
def AcceptanceLibrary.ResolvesStrings (library : AcceptanceLibrary) : Prop :=
  ∀ value genesisDocument pk,
    library.resolveSenderPk value genesisDocument = some pk →
      ∃ did, value = some (.string did)

/-- A submitted object under the hash it is stored under. -/
structure Recorded
    (library : AcceptanceLibrary) (deps : AcceptanceDeps) (body : JsValue)
    (hash : String) (acceptance : JsObject) : Prop where
  /-- It is the submitted object, with the submitted values. -/
  verbatim :
    ∃ fields,
      body.asObject? = some fields ∧
        JsValue.field? fields "acceptance" = some (.object acceptance)
  exact_fields : (acceptance.map Prod.fst).Perm termsAcceptanceFields
  strings : ∀ entry ∈ acceptance, ∃ text, entry.2 = .string text
  names_context :
    JsValue.stringField? acceptance "@context" = some btcr2Context
  names_type :
    JsValue.stringField? acceptance "type" = some termsAcceptanceType
  names_service : JsValue.stringField? acceptance "serviceDid" = deps.serviceDid
  names_terms :
    JsValue.stringField? acceptance "termsHash" =
      deps.termsText.map library.termsHashHex
  cohort_id :
    ∃ cohortId,
      JsValue.stringField? acceptance "cohortId" = some cohortId ∧
        isCohortIdShape cohortId = true
  /-- The submitted signature verifies over the bytes the hash spells. -/
  signed :
    ∃ fields did signature bytes genesisDocument pk,
      body.asObject? = some fields ∧
        JsValue.stringField? fields "signature" = some signature ∧
        ByteText.ofHex? signature.toLower = some bytes ∧
        JsValue.stringField? acceptance "participantDid" = some did ∧
        library.resolveSenderPk (some (.string did)) genesisDocument = some pk ∧
        library.verify pk bytes
            (library.termsAcceptanceSigningBytes acceptance) =
          some true
  keyed :
    hash = ByteText.hex (library.termsAcceptanceSigningBytes acceptance)

theorem verified_eq_true
    {library : AcceptanceLibrary} {pk signature : String}
    {acceptance : JsObject}
    (verified : library.verified pk signature acceptance = true) :
    ∃ bytes,
      ByteText.ofHex? signature = some bytes ∧
        library.verify pk bytes
            (library.termsAcceptanceSigningBytes acceptance) =
          some true := by
  rw [AcceptanceLibrary.verified] at verified
  cases spelled : ByteText.ofHex? signature with
  | none =>
      rw [spelled] at verified
      cases verified
  | some bytes =>
      rw [spelled, Option.bind_some] at verified
      refine ⟨bytes, rfl, ?_⟩
      cases answered :
          library.verify pk bytes
            (library.termsAcceptanceSigningBytes acceptance) with
      | none =>
          rw [answered] at verified
          cases verified
      | some answer =>
          rw [answered, Option.getD_some] at verified
          rw [verified]

theorem senderRefusal?_eq_none
    {library : AcceptanceLibrary} {acceptance : JsObject} {signature : String}
    {genesisDocument : Option JsObject}
    (passed :
      senderRefusal? library acceptance signature genesisDocument = none) :
    ∃ pk,
      library.resolveSenderPk (JsValue.field? acceptance "participantDid")
            genesisDocument =
          some pk ∧
        library.verified pk signature.toLower acceptance = true := by
  rw [senderRefusal?] at passed
  cases resolved :
      library.resolveSenderPk (JsValue.field? acceptance "participantDid")
        genesisDocument with
  | none =>
      rw [resolved] at passed
      cases passed
  | some pk =>
      simp only [resolved] at passed
      by_cases verified : library.verified pk signature.toLower acceptance
      · exact ⟨pk, rfl, verified⟩
      · rw [if_neg verified] at passed
        cases passed

/-- The frozen shape, from the fields that are read and a resolved sender. -/
theorem perm_of_passed
    {library : AcceptanceLibrary} (resolves : library.ResolvesStrings)
    {deps : AcceptanceDeps} {body : JsValue} {envelope : AcceptanceEnvelope}
    (from_ : envelope.ReadFrom deps body)
    (fields :
      RecordPassed library.onRecords envelope.serviceDid envelope.termsText
        envelope.acceptance)
    {genesisDocument : Option JsObject} {pk : String}
    (resolved :
      library.resolveSenderPk
          (JsValue.field? envelope.acceptance "participantDid")
          genesisDocument =
        some pk) :
    (envelope.acceptance.map Prod.fst).Perm termsAcceptanceFields := by
  obtain ⟨did, didFound⟩ := resolves _ _ _ resolved
  obtain ⟨instant, dated⟩ := fields.acceptedAt
  refine perm_of_joinSorted ?_ from_.joined
  intro name member
  have named :
      ∃ value, JsValue.field? envelope.acceptance name = some value := by
    simp only [readNames, List.mem_cons, List.not_mem_nil, or_false] at member
    rcases member with rfl | rfl | rfl | rfl | rfl | rfl
    · exact ⟨_, JsValue.stringField?_eq_some.mp fields.context⟩
    · exact ⟨_, JsValue.stringField?_eq_some.mp fields.type⟩
    · exact ⟨_, JsValue.stringField?_eq_some.mp fields.serviceDid⟩
    · exact ⟨_, JsValue.stringField?_eq_some.mp fields.termsHash⟩
    · exact ⟨_, didFound⟩
    · exact ⟨_, JsValue.stringField?_eq_some.mp dated⟩
  obtain ⟨value, here⟩ := named
  exact JsValue.mem_keys_of_field? here

/-- Whatever keys were submitted, what passes the checks has the frozen
shape. -/
theorem recorded_of_checkTermsAcceptance
    {library : AcceptanceLibrary} (resolves : library.ResolvesStrings)
    {deps : AcceptanceDeps} {body : JsValue} {acceptance : JsObject}
    (checked : checkTermsAcceptance library deps body = .ok acceptance) :
    Recorded library deps body (library.termsAcceptanceHashHex acceptance)
      acceptance := by
  simp only [checkTermsAcceptance, bind_eq_ok_iff] at checked
  obtain ⟨envelope, read, _, fieldsPassed, _, senderPassed, built⟩ := checked
  cases built
  have from_ := readEnvelope_eq_ok read
  have fields := recordPassed_of_recordRefusal? (refuseIf_eq_ok fieldsPassed)
  obtain ⟨pk, resolved, verified⟩ :=
    senderRefusal?_eq_none (refuseIf_eq_ok senderPassed)
  obtain ⟨did, didFound⟩ := resolves _ _ _ resolved
  obtain ⟨bytes, spelled, signed⟩ := verified_eq_true verified
  obtain ⟨submitted, isObject, found, signature⟩ := from_.parts
  have exactFields := perm_of_passed resolves from_ fields resolved
  have cohortPresent : "cohortId" ∈ envelope.acceptance.map Prod.fst :=
    exactFields.mem_iff.mpr (by decide)
  obtain ⟨value, cohortFound⟩ := JsValue.exists_field?_of_mem cohortPresent
  obtain ⟨cohortId, rfl⟩ :=
    string_of_bounded from_.bounded (JsValue.mem_of_field? cohortFound)
  have cohortRead := JsValue.stringField?_eq_some.mpr cohortFound
  have shaped := fields.cohortId
  rw [fieldText, cohortRead, Option.getD_some] at shaped
  exact
    { verbatim := ⟨submitted, isObject, found⟩
      exact_fields := exactFields
      strings := fun entry member => string_of_bounded from_.bounded member
      names_context := fields.context
      names_type := fields.type
      names_service := fields.serviceDid.trans from_.serviceDid.symm
      names_terms := by
        rw [fields.termsHash, from_.termsText]
        rfl
      cohort_id := ⟨cohortId, cohortRead, shaped⟩
      signed :=
        ⟨submitted, did, envelope.signature, bytes, envelope.genesisDocument,
          pk, isObject, signature, spelled,
          JsValue.stringField?_eq_some.mpr didFound, didFound ▸ resolved,
          signed⟩
      keyed := rfl }

end Recorded

section Accepted

/-! ## What is accepted -/

/-- A body with a record and a signature over it. -/
def acceptanceFields (record : TermsAcceptance) (signature : Bytes) : JsObject :=
  [("acceptance", .object record.toObject),
    ("signature", .string (ByteText.hex signature))]

def acceptanceBody (record : TermsAcceptance) (signature : Bytes) : JsValue :=
  .object (acceptanceFields record signature)

/-- A record that names this service and the terms it serves. -/
structure Acceptable
    (library : AcceptanceLibrary) (deps : AcceptanceDeps)
    (record : TermsAcceptance) : Prop where
  storeWired : deps.storeWired = true
  resolverWired : deps.resolverWired = true
  service :
    record.serviceDid ≠ "" ∧ deps.serviceDid = some record.serviceDid
  terms :
    ∃ termsText,
      termsText ≠ "" ∧
        deps.termsText = some termsText ∧
          record.termsHash = library.termsHashHex termsText
  context : record.context = btcr2Context
  type : record.type = termsAcceptanceType
  cohortId : isCohortIdShape record.cohortId = true
  acceptedAt : library.parsesAsDate record.acceptedAt = true
  bounded : record.toObject.findSome? fieldRefusal? = none

theorem isSignatureShape_hex {signature : Bytes} (length : signature.length = 64) :
    isSignatureShape (ByteText.hex signature) = true := by
  have digits :
      (ByteText.hex signature).toList.all
          (fun character =>
            character.isDigit ||
              ('a' ≤ character.toLower && character.toLower ≤ 'f')) =
        true := by
    rw [List.all_eq_true]
    intro character present
    obtain ⟨digit, lower⟩ := ByteText.mem_hex present
    rw [lower]
    exact digit
  rw [isSignatureShape, ByteText.length_hex, length, digits]
  rfl

theorem nonEmpty?_of_ne {value : Option String} {text : String}
    (present : value = some text) (nonempty : text ≠ "") :
    nonEmpty? value = some text := by
  rw [nonEmpty?, present]
  exact Option.filter_eq_some_iff.mpr ⟨rfl, decide_eq_true nonempty⟩

section Signed

variable
  {library : AcceptanceLibrary} {deps : AcceptanceDeps}
  {record : TermsAcceptance} {signature : Bytes}

theorem readEnvelope_of_acceptable
    (acceptable : Acceptable library deps record)
    (length : signature.length = 64) {termsText : String}
    (nonempty : termsText ≠ "") (terms : deps.termsText = some termsText) :
    readEnvelope deps (acceptanceBody record signature) =
      .ok
        { serviceDid := record.serviceDid
          termsText
          signature := ByteText.hex signature
          genesisDocument := none
          acceptance := record.toObject } := by
  obtain ⟨nonemptyDid, service⟩ := acceptable.service
  have shaped :
      (some (ByteText.hex signature)).filter isSignatureShape =
        some (ByteText.hex signature) :=
    Option.filter_eq_some_iff.mpr ⟨rfl, isSignatureShape_hex length⟩
  have joined :
      joinSorted (record.toObject.map Prod.fst) =
        joinSorted termsAcceptanceFields :=
    rfl
  have acceptanceRead :
      (JsValue.field? (acceptanceFields record signature) "acceptance").bind
          JsValue.asObject? =
        some record.toObject :=
    rfl
  have signatureRead :
      JsValue.stringField? (acceptanceFields record signature) "signature" =
        some (ByteText.hex signature) :=
    rfl
  have genesisRead :
      readGenesisDocument (acceptanceFields record signature) = .ok none :=
    rfl
  simp only [readEnvelope, acceptable.storeWired, acceptable.resolverWired,
    nonEmpty?_of_ne service nonemptyDid, nonEmpty?_of_ne terms nonempty,
    acceptanceBody, JsValue.asObject?, orRefuse_some_bind, acceptanceRead,
    signatureRead, shaped, genesisRead, joined, acceptable.bounded, if_true,
    ok_bind]
  rfl

theorem recordRefusal?_of_acceptable
    (acceptable : Acceptable library deps record) {termsText : String}
    (hashes : record.termsHash = library.onRecords.termsHashHex termsText) :
    recordRefusal? library.onRecords record.serviceDid termsText
        record.toObject =
      none := by
  have context :
      JsValue.stringField? record.toObject "@context" = some record.context :=
    rfl
  have type :
      JsValue.stringField? record.toObject "type" = some record.type :=
    rfl
  have serviceDid :
      JsValue.stringField? record.toObject "serviceDid" =
        some record.serviceDid :=
    rfl
  have cohortId :
      JsValue.stringField? record.toObject "cohortId" = some record.cohortId :=
    rfl
  have acceptedAt :
      JsValue.stringField? record.toObject "acceptedAt" =
        some record.acceptedAt :=
    rfl
  have termsHash :
      JsValue.stringField? record.toObject "termsHash" =
        some record.termsHash :=
    rfl
  have parses : library.onRecords.parsesAsDate record.acceptedAt = true :=
    acceptable.acceptedAt
  simp [recordRefusal?, context, type, serviceDid, cohortId, acceptedAt,
    termsHash, acceptable.context, acceptable.type, acceptable.cohortId,
    parses, hashes]

theorem senderRefusal?_of_signed
    {pk : String}
    (resolved :
      library.resolveSenderPk (some (.string record.participantDid)) none =
        some pk)
    (signed :
      library.verify pk signature
          (library.termsAcceptanceSigningBytes record.toObject) =
        some true) :
    senderRefusal? library record.toObject (ByteText.hex signature) none =
      none := by
  have verified :
      library.verified pk (ByteText.hex signature).toLower record.toObject =
        true := by
    rw [AcceptanceLibrary.verified, ByteText.toLower_hex, ByteText.ofHex?_hex,
      Option.bind_some, signed]
    rfl
  have found :
      JsValue.field? record.toObject "participantDid" =
        some (.string record.participantDid) :=
    rfl
  simp only [senderRefusal?, found, resolved, verified, if_true]

/-- A record its participant signed is accepted. -/
theorem checkTermsAcceptance_of_acceptable
    (acceptable : Acceptable library deps record)
    (length : signature.length = 64) {pk : String}
    (resolved :
      library.resolveSenderPk (some (.string record.participantDid)) none =
        some pk)
    (signed :
      library.verify pk signature
          (library.termsAcceptanceSigningBytes record.toObject) =
        some true) :
    checkTermsAcceptance library deps (acceptanceBody record signature) =
      .ok record.toObject := by
  obtain ⟨termsText, nonempty, terms, sameTerms⟩ := acceptable.terms
  have read := readEnvelope_of_acceptable acceptable length nonempty terms
  have compared := recordRefusal?_of_acceptable acceptable sameTerms
  have sent := senderRefusal?_of_signed resolved signed
  rw [checkTermsAcceptance, read, ok_bind]
  simp only [compared, sent]
  rfl

end Signed

end Accepted

section Law

/-! ## The law of one call -/

/-- Retiring keeps every record but those it names. -/
theorem lookup_foldl_retire
    (faults : StoreFaults) (drop : List String) (key : String) :
    ∀ store : InsertionMap String JsObject,
      (drop.foldl (retire faults) store).lookup key = none ∧ key ∈ drop ∨
        (drop.foldl (retire faults) store).lookup key = store.lookup key := by
  induction drop with
  | nil => exact fun _ => Or.inr rfl
  | cons stale drop inductionHypothesis =>
      intro store
      rw [List.foldl_cons]
      rcases inductionHypothesis (retire faults store stale) with
        ⟨gone, member⟩ | kept
      · exact Or.inl ⟨gone, List.mem_cons_of_mem stale member⟩
      · rw [kept, retire]
        by_cases fails : stale ∈ faults.deletes
        · rw [if_pos fails]
          exact Or.inr rfl
        · rw [if_neg fails]
          by_cases same : key = stale
          · subst same
            exact Or.inl ⟨AList.lookup_erase _ _, List.mem_cons_self⟩
          · exact Or.inr (AList.lookup_erase_ne same)

namespace AcceptanceBooks

variable (books : AcceptanceBooks) (faults : StoreFaults) (hash : String)
  (record : JsObject)

/-- The record just stored is never retired. -/
theorem lookup_file_self :
    (books.file faults hash record).store.lookup hash = some record := by
  rcases lookup_foldl_retire faults (books.drop hash record) hash
      (books.store.set hash record) with
    ⟨-, member⟩ | kept
  · have apart : decide (hash ≠ hash) = true := (List.mem_filter.mp member).2
    exact absurd rfl (of_decide_eq_true apart)
  · exact kept.trans (lookup_set_self _ _ _)

theorem lookup_file_of_ne {other : String} (different : other ≠ hash) :
    (books.file faults hash record).store.lookup other = none ∨
      (books.file faults hash record).store.lookup other =
        books.store.lookup other := by
  rcases lookup_foldl_retire faults (books.drop hash record) other
      (books.store.set hash record) with
    ⟨gone, -⟩ | kept
  · exact Or.inl gone
  · exact Or.inr (kept.trans (lookup_set_of_ne different))

end AcceptanceBooks

theorem recordTermsAcceptance_of_checked
    {library : AcceptanceLibrary} {deps : AcceptanceDeps}
    {faults : StoreFaults} {body : JsValue} {record : JsObject}
    (checked : checkTermsAcceptance library deps body = .ok record)
    (puts : faults.put = none) (books : AcceptanceBooks) :
    recordTermsAcceptance library deps faults body books =
      (.ok (library.termsAcceptanceHashHex record),
        books.file faults (library.termsAcceptanceHashHex record) record) := by
  simp only [recordTermsAcceptance, checked, puts]

/-- A call refuses and leaves the store and the ledger as they were, or it
stores the submitted object under its own hash, in the frozen shape, and every
other record is the one that was there or is retired. -/
theorem recorded_or_refused
    (library : AcceptanceLibrary) (resolves : library.ResolvesStrings)
    (deps : AcceptanceDeps) (faults : StoreFaults) (body : JsValue)
    (books : AcceptanceBooks) :
    (∃ reason,
      recordTermsAcceptance library deps faults body books =
        (.error reason, books)) ∨
      ∃ hash acceptance after,
        recordTermsAcceptance library deps faults body books =
            (.ok hash, after) ∧
          Recorded library deps body hash acceptance ∧
          after.store.lookup hash = some acceptance ∧
          ∀ other,
            other ≠ hash →
              after.store.lookup other = none ∨
                after.store.lookup other = books.store.lookup other := by
  cases checked : checkTermsAcceptance library deps body with
  | error reason =>
      refine Or.inl ⟨reason, ?_⟩
      simp only [recordTermsAcceptance, checked]
  | ok acceptance =>
      cases failed : faults.put with
      | some reason =>
          refine Or.inl ⟨reason, ?_⟩
          simp only [recordTermsAcceptance, checked, failed]
      | none =>
          have answered := recordTermsAcceptance_of_checked checked failed books
          have recorded := recorded_of_checkTermsAcceptance resolves checked
          exact
            Or.inr
              ⟨_, acceptance, _, answered, recorded,
                books.lookup_file_self faults _ acceptance,
                fun _ different =>
                  books.lookup_file_of_ne faults _ acceptance different⟩

/-- A hash that keeps 32 bytes, a resolver that knows every string, and
signatures that repeat what they sign. -/
def plainLibrary : AcceptanceLibrary where
  sha256 bytes := (bytes ++ List.replicate 32 0).take 32
  canonicalize acceptance :=
    (fieldText acceptance "acceptedAt").toUTF8.toList
  parsesAsDate text := text = "2026-01-01"
  resolveSenderPk value _ := value.bind JsValue.asString?
  verify _ signature message := some (signature = message ++ message)

/-- One participant's acceptance of the terms of one cohort. -/
def plainAcceptance : TermsAcceptance where
  context := btcr2Context
  type := termsAcceptanceType
  serviceDid := "service"
  cohortId := "c"
  termsHash := plainLibrary.termsHashHex "terms"
  participantDid := "p"
  acceptedAt := "2026-01-01"

def plainSignature : Bytes :=
  let signs :=
    plainLibrary.termsAcceptanceSigningBytes plainAcceptance.toObject
  signs ++ signs

theorem recorded_or_refused_signed :
    ∃ hash acceptance after,
      recordTermsAcceptance plainLibrary echoDeps ⟨none, []⟩
            (acceptanceBody plainAcceptance plainSignature) ⟨∅, ∅⟩ =
          (.ok hash, after) ∧
        Recorded plainLibrary echoDeps
          (acceptanceBody plainAcceptance plainSignature) hash acceptance ∧
        after.store.lookup hash = some acceptance := by
  have resolves : plainLibrary.ResolvesStrings := by
    intro value genesisDocument pk resolved
    obtain ⟨found, rfl, asString⟩ := Option.bind_eq_some_iff.mp resolved
    exact ⟨pk, congrArg some (JsValue.asString?_eq_some.mp asString)⟩
  have acceptable : Acceptable plainLibrary echoDeps plainAcceptance :=
    { storeWired := rfl
      resolverWired := rfl
      service := ⟨by decide, rfl⟩
      terms := ⟨"terms", by decide, rfl, rfl⟩
      context := rfl
      type := rfl
      cohortId := by decide +kernel
      acceptedAt := by decide
      bounded := by decide +kernel }
  have length : plainSignature.length = 64 := by
    decide +kernel
  have known :
      plainLibrary.resolveSenderPk
          (some (.string plainAcceptance.participantDid)) none =
        some "p" :=
    rfl
  have checked :=
    checkTermsAcceptance_of_acceptable acceptable length known
      (congrArg some (decide_eq_true rfl))
  rcases recorded_or_refused plainLibrary resolves echoDeps ⟨none, []⟩
      (acceptanceBody plainAcceptance plainSignature) ⟨∅, ∅⟩ with
    ⟨reason, refused⟩ | ⟨hash, acceptance, after, stored, recorded, kept, -⟩
  · have answered :=
      recordTermsAcceptance_of_checked checked
        (show (⟨none, []⟩ : StoreFaults).put = none from rfl) ⟨∅, ∅⟩
    have differ := congrArg (fun outcome => outcome.1.isOk)
      (answered.symm.trans refused)
    exact absurd differ Bool.noConfusion
  · exact ⟨hash, acceptance, after, stored, recorded, kept⟩

end Law

section Records

/-! ## The check on records

The runs of the acceptance machine post typed records.  Their check is this
one: it refuses with the same reasons and lets the same objects through, read
as the records they spell. -/

/-- Canonicalisation sorts keys, so their order does not reach a hash. -/
def AcceptanceLibrary.SortsKeys (library : AcceptanceLibrary) : Prop :=
  ∀ first second : JsObject,
    first.Perm second → (first.map Prod.fst).Nodup →
      library.canonicalize first = library.canonicalize second

theorem verifyTermsAcceptance_eq
    (library : TosLibrary) (deps : AcceptanceDeps) (body : JsValue) :
    verifyTermsAcceptance library deps body =
      readEnvelope deps body >>= fun envelope =>
        verifyRecord library envelope.serviceDid envelope.termsText
          envelope.signature envelope.genesisDocument envelope.acceptance := by
  simp only [verifyTermsAcceptance, readEnvelope, bind_assoc]
  refine congrArg _ (funext fun _ => ?_)
  cases nonEmpty? deps.serviceDid with
  | none => rfl
  | some serviceDid =>
      rw [orRefuse_some_bind]
      dsimp only
      refine congrArg _ (funext fun _ => ?_)
      cases nonEmpty? deps.termsText with
      | none => rfl
      | some termsText =>
          rw [orRefuse_some_bind]
          dsimp only
          cases body.asObject? with
          | none => rfl
          | some fields =>
              rw [orRefuse_some_bind]
              dsimp only
              cases (JsValue.field? fields "acceptance").bind
                  JsValue.asObject? with
              | none => rfl
              | some acceptance =>
                  rw [orRefuse_some_bind]
                  dsimp only
                  cases (JsValue.stringField? fields "signature").filter
                      isSignatureShape with
                  | none => rfl
                  | some signature => rfl

/-- An object in the frozen shape spells a record. -/
theorem readRecord_of_perm
    {acceptance : JsObject}
    (exactFields : (acceptance.map Prod.fst).Perm termsAcceptanceFields)
    (strings : ∀ entry ∈ acceptance, ∃ text, entry.2 = .string text) :
    ∃ record,
      readRecord acceptance = some record ∧
        acceptance.Perm record.toObject := by
  have reads :
      ∀ name ∈ termsAcceptanceFields,
        ∃ text, JsValue.stringField? acceptance name = some text := by
    intro name member
    obtain ⟨value, found⟩ :=
      JsValue.exists_field?_of_mem (exactFields.mem_iff.mpr member)
    obtain ⟨text, rfl⟩ := strings _ (JsValue.mem_of_field? found)
    exact ⟨text, JsValue.stringField?_eq_some.mpr found⟩
  obtain ⟨context, readContext⟩ := reads "@context" (by decide)
  obtain ⟨type, readType⟩ := reads "type" (by decide)
  obtain ⟨serviceDid, readServiceDid⟩ := reads "serviceDid" (by decide)
  obtain ⟨cohortId, readCohortId⟩ := reads "cohortId" (by decide)
  obtain ⟨termsHash, readTermsHash⟩ := reads "termsHash" (by decide)
  obtain ⟨participantDid, readDid⟩ := reads "participantDid" (by decide)
  obtain ⟨acceptedAt, readAcceptedAt⟩ := reads "acceptedAt" (by decide)
  let record : TermsAcceptance :=
    { context, type, serviceDid, cohortId, termsHash, participantDid,
      acceptedAt }
  have spelled : readRecord acceptance = some record := by
    simp only [readRecord, readContext, readType, readServiceDid,
      readCohortId, readTermsHash, readDid, readAcceptedAt, bind,
      Option.bind_some]
    rfl
  have within : record.toObject ⊆ acceptance := by
    intro entry member
    simp only [TermsAcceptance.toObject, List.mem_cons, List.not_mem_nil,
      or_false] at member
    rcases member with rfl | rfl | rfl | rfl | rfl | rfl | rfl
    · exact JsValue.mem_of_field? (JsValue.stringField?_eq_some.mp readContext)
    · exact JsValue.mem_of_field? (JsValue.stringField?_eq_some.mp readType)
    · exact
        JsValue.mem_of_field? (JsValue.stringField?_eq_some.mp readServiceDid)
    · exact JsValue.mem_of_field? (JsValue.stringField?_eq_some.mp readCohortId)
    · exact
        JsValue.mem_of_field? (JsValue.stringField?_eq_some.mp readTermsHash)
    · exact JsValue.mem_of_field? (JsValue.stringField?_eq_some.mp readDid)
    · exact
        JsValue.mem_of_field? (JsValue.stringField?_eq_some.mp readAcceptedAt)
  have names : record.toObject.map Prod.fst = termsAcceptanceFields := rfl
  have distinct : record.toObject.Nodup := by
    apply List.Nodup.of_map Prod.fst
    rw [names]
    decide
  have sameLength : acceptance.length ≤ record.toObject.length := by
    have counted := exactFields.length_eq
    rw [List.length_map] at counted
    exact counted.le
  have inside : record.toObject.Subperm acceptance :=
    distinct.subperm within
  exact ⟨record, spelled, (inside.perm_of_length_le sameLength).symm⟩

theorem participantDid_of_readRecord
    {acceptance : JsObject} {record : TermsAcceptance}
    (spelled : readRecord acceptance = some record) :
    JsValue.field? acceptance "participantDid" =
      some (.string record.participantDid) := by
  simp only [readRecord, bind, Option.bind_eq_some_iff] at spelled
  obtain ⟨_, _, _, _, _, _, _, _, _, _, did, readDid, _, _, built⟩ := spelled
  cases built
  exact JsValue.stringField?_eq_some.mp readDid

/-- On records the sender's check is the one on the object. -/
theorem signatureRefusal?_onRecords
    {library : AcceptanceLibrary} {acceptance : JsObject}
    {record : TermsAcceptance}
    (bytes :
      library.canonicalize record.toObject = library.canonicalize acceptance)
    (found :
      JsValue.field? acceptance "participantDid" =
        some (.string record.participantDid))
    (signature : String) (genesisDocument : Option JsObject) :
    signatureRefusal? library.onRecords record signature genesisDocument =
      senderRefusal? library acceptance signature genesisDocument := by
  have agrees :
      ∀ pk,
        library.onRecords.verifies pk signature.toLower record =
          library.verified pk signature.toLower acceptance := by
    intro pk
    simp only [AcceptanceLibrary.onRecords, AcceptanceLibrary.verified,
      AcceptanceLibrary.termsAcceptanceSigningBytes, bytes]
  simp only [signatureRefusal?, senderRefusal?, found, agrees]
  rfl

/-- The typed check is the check of the route. -/
theorem verifyTermsAcceptance_onRecords
    {library : AcceptanceLibrary} (resolves : library.ResolvesStrings)
    (sorts : library.SortsKeys) (deps : AcceptanceDeps) (body : JsValue) :
    match checkTermsAcceptance library deps body with
    | .error reason =>
        verifyTermsAcceptance library.onRecords deps body = .error reason
    | .ok acceptance =>
        ∃ record,
          verifyTermsAcceptance library.onRecords deps body = .ok record ∧
            acceptance.Perm record.toObject ∧
              library.onRecords.termsAcceptanceHashHex record =
                library.termsAcceptanceHashHex acceptance := by
  rw [verifyTermsAcceptance_eq, checkTermsAcceptance]
  cases read : readEnvelope deps body with
  | error reason => rfl
  | ok envelope =>
      have from_ := readEnvelope_eq_ok read
      simp only [ok_bind, verifyRecord]
      cases compared :
          recordRefusal? library.onRecords envelope.serviceDid
            envelope.termsText envelope.acceptance with
      | some refusal => rfl
      | none =>
          simp only [refuseIf, ok_bind]
          have fields := recordPassed_of_recordRefusal? compared
          cases resolved :
              library.resolveSenderPk
                (JsValue.field? envelope.acceptance "participantDid")
                envelope.genesisDocument with
          | none =>
              simp only [senderRefusal?, resolved]
              cases spelled : readRecord envelope.acceptance with
              | none => rfl
              | some record =>
                  rw [participantDid_of_readRecord spelled] at resolved
                  simp only [signatureRefusal?, AcceptanceLibrary.onRecords,
                    resolved]
                  rfl
          | some pk =>
              have exactFields :=
                perm_of_passed resolves from_ fields resolved
              have distinct :
                  (envelope.acceptance.map Prod.fst).Nodup :=
                exactFields.nodup_iff.mpr (by decide)
              obtain ⟨record, spelled, same⟩ :=
                readRecord_of_perm exactFields fun entry member =>
                  string_of_bounded from_.bounded member
              have bytes := (sorts _ _ same distinct).symm
              rw [spelled]
              dsimp only
              rw [signatureRefusal?_onRecords bytes
                (participantDid_of_readRecord spelled)]
              cases senderRefusal? library envelope.acceptance
                  envelope.signature envelope.genesisDocument with
              | some refusal => rfl
              | none =>
                  refine ⟨record, rfl, same, ?_⟩
                  simp only [AcceptanceLibrary.onRecords,
                    AcceptanceLibrary.termsAcceptanceHashHex,
                    AcceptanceLibrary.termsAcceptanceSigningBytes, bytes]

end Records

end Tos

end Btcr2Aggregation
