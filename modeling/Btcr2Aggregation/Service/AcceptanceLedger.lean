import Mathlib.Data.List.Sort
import Btcr2Aggregation.Library.InsertionMap
import Btcr2Aggregation.Library.JsString
import Btcr2Aggregation.Library.Machine
import Btcr2Aggregation.Shared.Tos

/-!
# The acceptance store and its ledger

`POST /v1/terms/acceptance` verifies a record, puts it into the store's
acceptance namespace, tells the ledger, and deletes what the ledger drops.  The
check is one synchronous step; the put, the ledger call and each delete are
steps of their own, and the steps of concurrent requests interleave freely.

The ledger never drops the hash it is told to retain, so each request alone
keeps the two structures equal.  Across requests a delete decided earlier can
land after another request put or retained the same hash again.  The law at the
end says that this is the only way in which they part.
-/

namespace Btcr2Aggregation

open InsertionMap

namespace Tos

section Check

/-! ## The check of a submitted record -/

/-- What the route hands to the check. -/
structure AcceptanceDeps where
  storeWired : Bool
  termsText : Option String
  serviceDid : Option String
  resolverWired : Bool

def maxAcceptanceFieldLen : Nat := 512

/-- `/^[0-9a-zA-Z-]{1,64}$/`. -/
def isCohortIdShape (text : String) : Bool :=
  decide (1 ≤ text.length) && decide (text.length ≤ 64) &&
    text.toList.all fun character =>
      character.isAlphanum || character == '-'

/-- `/^[0-9a-f]{128}$/i`. -/
def isSignatureShape (text : String) : Bool :=
  decide (text.length = 128) &&
    text.toList.all fun character =>
      character.isDigit || ('a' ≤ character.toLower && character.toLower ≤ 'f')

/-- `keys.sort().join(',')`. -/
def joinSorted (keys : List String) : String :=
  ",".intercalate (keys.insertionSort (· ≤ ·))

/-- The refusal of one entry of the acceptance object. -/
def fieldRefusal? (entry : String × JsValue) : Option String :=
  let bounded :=
    match entry.2.asString? with
    | some value =>
        decide (0 < JsString.length value) &&
          decide (JsString.length value ≤ maxAcceptanceFieldLen)
    | none => false
  if bounded then
    none
  else
    some
      ("acceptance field \"" ++ entry.1 ++
        "\" must be a non-empty string within the length bound")

/-- A dependency that is absent or empty. -/
def nonEmpty? (value : Option String) : Option String :=
  value.filter (· ≠ "")

/-- The record an acceptance object spells, when it has every field. -/
def readRecord (fields : List (String × JsValue)) : Option TermsAcceptance := do
  let context ← JsValue.stringField? fields "@context"
  let type ← JsValue.stringField? fields "type"
  let serviceDid ← JsValue.stringField? fields "serviceDid"
  let cohortId ← JsValue.stringField? fields "cohortId"
  let termsHash ← JsValue.stringField? fields "termsHash"
  let participantDid ← JsValue.stringField? fields "participantDid"
  let acceptedAt ← JsValue.stringField? fields "acceptedAt"
  some
    { context, type, serviceDid, cohortId, termsHash, participantDid,
      acceptedAt }

/-- The checks on the fields of an acceptance object, in the order the route
makes them.  A cohort id that is `undefined` is tested as that word. -/
def recordRefusal?
    (library : TosLibrary) (serviceDid termsText : String)
    (fields : List (String × JsValue)) : Option String :=
  let read := JsValue.stringField? fields
  if read "@context" ≠ some btcr2Context ∨
      read "type" ≠ some termsAcceptanceType then
    some "acceptance does not name the participation-terms acceptance type"
  else if read "serviceDid" ≠ some serviceDid then
    some "acceptance is addressed to a different service"
  else if !isCohortIdShape ((read "cohortId").getD "undefined") then
    some "acceptance carries a malformed cohort id"
  else if !(read "acceptedAt").any library.parsesAsDate then
    some "acceptance carries an unparseable acceptedAt"
  else if read "termsHash" ≠ some (library.termsHashHex termsText) then
    some "acceptance names terms this service is not currently serving"
  else
    none

/-- The key a record's participant resolves to must have signed it. -/
def signatureRefusal?
    (library : TosLibrary) (record : TermsAcceptance) (signature : String)
    (genesisDocument : Option (List (String × JsValue))) : Option String :=
  match library.resolveSenderPk record.participantDid genesisDocument with
  | none =>
      some
        ("could not resolve a communication key for the claimed participant" ++
          " DID")
  | some pk =>
      if library.verifies pk signature.toLower record then
        none
      else
        some "signature does not verify against the claimed participant DID"

/-- The optional genesis document: absent, or a plain object. -/
def readGenesisDocument (fields : List (String × JsValue)) :
    Except String (Option (List (String × JsValue))) :=
  match JsValue.field? fields "genesisDocument" with
  | none => .ok none
  | some value =>
      match value.asObject? with
      | some document => .ok (some document)
      | none => .error "genesisDocument, when supplied, must be an object"

/-- Refuse with a text, or go on. -/
def refuseIf (refusal : Option String) : Except String Unit :=
  match refusal with
  | some text => .error text
  | none => .ok ()

/-- The check of an acceptance object.  An object can pass the comparison of the
joined keys with a key that contains the comma; it then lacks a participant
DID, which no resolver resolves. -/
def verifyRecord
    (library : TosLibrary) (serviceDid termsText signature : String)
    (genesisDocument : Option (List (String × JsValue)))
    (acceptance : List (String × JsValue)) : Except String TermsAcceptance := do
  refuseIf (recordRefusal? library serviceDid termsText acceptance)
  let some record := readRecord acceptance
    | .error
        ("could not resolve a communication key for the claimed participant" ++
          " DID")
  refuseIf (signatureRefusal? library record signature genesisDocument)
  return record

/-- `recordTermsAcceptance` up to the put: the record to store, or the reason of
the refusal. -/
def verifyTermsAcceptance
    (library : TosLibrary) (deps : AcceptanceDeps) (body : JsValue) :
    Except String TermsAcceptance := do
  refuseIf <|
    if deps.storeWired then none
    else some "no artifact store is wired, so an acceptance cannot be stored"
  let some serviceDid := nonEmpty? deps.serviceDid
    | .error "this service has no DID to bind an acceptance to"
  refuseIf <|
    if deps.resolverWired then none
    else
      some "no sender-key resolver is wired, so a signature cannot be verified"
  let some termsText := nonEmpty? deps.termsText
    | .error "this service has no participation terms set"
  let some fields := body.asObject?
    | .error "expected a JSON object body"
  let some acceptance := (JsValue.field? fields "acceptance").bind
      JsValue.asObject?
    | .error "expected an acceptance object"
  let some signature := (JsValue.stringField? fields "signature").filter
      isSignatureShape
    | .error "expected a 64-byte hex schnorr signature"
  let genesisDocument ← readGenesisDocument fields
  let keys := acceptance.map Prod.fst
  refuseIf <|
    if joinSorted keys = joinSorted termsAcceptanceFields then none
    else
      some ("acceptance carries the wrong field set: " ++ joinSorted keys)
  refuseIf (acceptance.findSome? fieldRefusal?)
  verifyRecord library serviceDid termsText signature genesisDocument acceptance

/-- What the check lets through names this service and the terms it serves, and
is signed by the key its own participant DID resolves to. -/
structure Vouched
    (library : TosLibrary) (deps : AcceptanceDeps) (record : TermsAcceptance) :
    Prop where
  names_service : deps.serviceDid = some record.serviceDid
  names_terms :
    ∃ termsText,
      deps.termsText = some termsText ∧
        record.termsHash = library.termsHashHex termsText
  signed :
    ∃ genesisDocument pk signature,
      library.resolveSenderPk record.participantDid genesisDocument = some pk ∧
        library.verifies pk signature record = true

theorem refuseIf_eq_ok {refusal : Option String} {done : Unit}
    (passed : refuseIf refusal = .ok done) : refusal = none := by
  cases refusal with
  | none => rfl
  | some text => cases passed

theorem nonEmpty?_eq_some {value : Option String} {text : String}
    (present : nonEmpty? value = some text) : value = some text :=
  (Option.filter_eq_some_iff.mp present).1

theorem readRecord_eq_some
    {fields : List (String × JsValue)} {record : TermsAcceptance}
    (spelled : readRecord fields = some record) :
    JsValue.stringField? fields "serviceDid" = some record.serviceDid ∧
      JsValue.stringField? fields "termsHash" = some record.termsHash := by
  simp only [readRecord, bind, Option.bind_eq_some_iff] at spelled
  obtain ⟨_, _, _, _, serviceDid, readServiceDid, _, _, termsHash,
    readTermsHash, _, _, _, _, built⟩ := spelled
  cases built
  exact ⟨readServiceDid, readTermsHash⟩

theorem recordRefusal?_eq_none
    {library : TosLibrary} {serviceDid termsText : String}
    {fields : List (String × JsValue)}
    (passed : recordRefusal? library serviceDid termsText fields = none) :
    JsValue.stringField? fields "serviceDid" = some serviceDid ∧
      JsValue.stringField? fields "termsHash" =
        some (library.termsHashHex termsText) := by
  simp only [recordRefusal?] at passed
  repeat' split at passed
  all_goals cases passed
  rename_i _ sameService _ _ sameTerms
  exact ⟨not_not.mp sameService, not_not.mp sameTerms⟩

theorem signatureRefusal?_eq_none
    {library : TosLibrary} {record : TermsAcceptance} {signature : String}
    {genesisDocument : Option (List (String × JsValue))}
    (passed :
      signatureRefusal? library record signature genesisDocument = none) :
    ∃ pk,
      library.resolveSenderPk record.participantDid genesisDocument = some pk ∧
        library.verifies pk signature.toLower record = true := by
  unfold signatureRefusal? at passed
  cases resolved :
      library.resolveSenderPk record.participantDid genesisDocument with
  | none =>
      rw [resolved] at passed
      cases passed
  | some pk =>
      simp only [resolved] at passed
      by_cases verified : library.verifies pk signature.toLower record
      · exact ⟨pk, rfl, verified⟩
      · rw [if_neg verified] at passed
        cases passed

theorem verifyRecord_eq_ok
    {library : TosLibrary} {serviceDid termsText signature : String}
    {genesisDocument : Option (List (String × JsValue))}
    {acceptance : List (String × JsValue)} {record : TermsAcceptance}
    (verified :
      verifyRecord library serviceDid termsText signature genesisDocument
          acceptance =
        .ok record) :
    record.serviceDid = serviceDid ∧
      record.termsHash = library.termsHashHex termsText ∧
      ∃ pk,
        library.resolveSenderPk record.participantDid genesisDocument =
            some pk ∧
          library.verifies pk signature.toLower record = true := by
  simp only [verifyRecord, bind, Except.bind] at verified
  cases fieldsPassed :
      refuseIf (recordRefusal? library serviceDid termsText acceptance) with
  | error _ =>
      rw [fieldsPassed] at verified
      cases verified
  | ok _ =>
      cases spelled : readRecord acceptance with
      | none =>
          simp only [fieldsPassed, spelled] at verified
          cases verified
      | some read =>
          cases signed :
              refuseIf
                (signatureRefusal? library read signature genesisDocument) with
          | error _ =>
              simp only [fieldsPassed, spelled, signed] at verified
              cases verified
          | ok _ =>
              simp only [fieldsPassed, spelled, signed] at verified
              cases verified
              have named := recordRefusal?_eq_none (refuseIf_eq_ok fieldsPassed)
              have reads := readRecord_eq_some spelled
              rw [reads.1, reads.2] at named
              exact
                ⟨Option.some.inj named.1, Option.some.inj named.2,
                  signatureRefusal?_eq_none (refuseIf_eq_ok signed)⟩

theorem vouched_of_verify
    {library : TosLibrary} {deps : AcceptanceDeps} {body : JsValue}
    {record : TermsAcceptance}
    (verified : verifyTermsAcceptance library deps body = .ok record) :
    Vouched library deps record := by
  simp only [verifyTermsAcceptance, bind, Except.bind] at verified
  repeat' split at verified
  all_goals try cases verified
  rename_i serviceDid foundDid _ _ _ _ termsText foundTerms _ _ _ _ _ _ _ signature
    _ _ genesisDocument _ _ _ _ _ _ _
  obtain ⟨namesService, namesTerms, pk, resolved, signed⟩ :=
    verifyRecord_eq_ok verified
  exact
    { names_service := by
        rw [namesService]
        exact nonEmpty?_eq_some foundDid
      names_terms := ⟨termsText, nonEmpty?_eq_some foundTerms, namesTerms⟩
      signed := ⟨genesisDocument, pk, signature.toLower, resolved, signed⟩ }

end Check

section Ledger

/-! ## The ledger -/

def maxAcceptances : Nat := 200

/-- One participant on one cohort; the separator occurs in neither field. -/
def acceptanceDedupKey (participantDid cohortId : String) : String :=
  participantDid ++ "\x00" ++ cohortId

/-- The hash retained for each key, newest first. -/
abbrev AcceptanceLedger := InsertionMap String String

namespace AcceptanceLedger

/-- Retain a hash for a key: what the caller must drop, and the ledger.  The
previous hash of the key is dropped only when it differs. -/
def remember (ledger : AcceptanceLedger) (dedupKey hashHex : String) :
    List String × AcceptanceLedger :=
  let previous := (ledger.lookup dedupKey).toList.filter (· ≠ hashHex)
  let written := ledger.insert dedupKey hashHex
  let oldest :=
    (droppedPast maxAcceptances written).reverse.filterMap written.lookup
  (previous ++ oldest,
    InsertionMap.remember maxAcceptances ledger dedupKey hashHex)

/-- The retained hashes, newest last. -/
def retained (ledger : AcceptanceLedger) : List String :=
  (ledger.entries.map Sigma.snd).reverse

theorem mem_retained {ledger : AcceptanceLedger} {hashHex : String} :
    hashHex ∈ ledger.retained ↔
      ∃ dedupKey, ledger.lookup dedupKey = some hashHex := by
  rw [retained, List.mem_reverse, List.mem_map]
  constructor
  · rintro ⟨⟨dedupKey, _⟩, entry, rfl⟩
    exact ⟨dedupKey, AList.mem_lookup_iff.mpr entry⟩
  · rintro ⟨dedupKey, found⟩
    exact ⟨⟨dedupKey, hashHex⟩, AList.mem_lookup_iff.mp found, rfl⟩

theorem length_retained (ledger : AcceptanceLedger) :
    ledger.retained.length = size ledger := by
  rw [retained, List.length_reverse, List.length_map, size, AList.keys,
    List.keys, List.length_map]

theorem remember_snd (ledger : AcceptanceLedger) (dedupKey hashHex : String) :
    (ledger.remember dedupKey hashHex).2 =
      InsertionMap.remember maxAcceptances ledger dedupKey hashHex := by
  simp only [remember]

theorem size_remember_le (ledger : AcceptanceLedger) (dedupKey hashHex : String) :
    size (ledger.remember dedupKey hashHex).2 ≤ maxAcceptances := by
  rw [remember_snd]
  exact InsertionMap.size_remember_le _ _ _ _

/-- A hash is retained after a write only if it was before or is the one
written. -/
theorem of_mem_retained_remember
    {ledger : AcceptanceLedger} {dedupKey hashHex other : String}
    (member : other ∈ (ledger.remember dedupKey hashHex).2.retained) :
    other = hashHex ∨ other ∈ ledger.retained := by
  rw [remember_snd] at member
  obtain ⟨key, found⟩ := mem_retained.mp member
  have written := lookup_of_lookup_remember found
  by_cases same : key = dedupKey
  · subst same
    rw [AList.lookup_insert] at written
    exact Or.inl (Option.some.inj written).symm
  · rw [AList.lookup_insert_ne same] at written
    exact Or.inr (mem_retained.mpr ⟨key, written⟩)

theorem mem_retained_remember_self
    (ledger : AcceptanceLedger) (dedupKey hashHex : String) :
    hashHex ∈ (ledger.remember dedupKey hashHex).2.retained := by
  rw [remember_snd, mem_retained]
  exact ⟨dedupKey, lookup_remember_self (by decide) ledger dedupKey hashHex⟩

/-- A write forgets no hash silently: what was retained still is, or is the
caller's to drop. -/
theorem mem_retained_or_mem_drop
    {ledger : AcceptanceLedger} {other : String} (dedupKey hashHex : String)
    (member : other ∈ ledger.retained) :
    other ∈ (ledger.remember dedupKey hashHex).2.retained ∨
      other ∈ (ledger.remember dedupKey hashHex).1 := by
  obtain ⟨key, found⟩ := mem_retained.mp member
  by_cases same : key = dedupKey
  · subst same
    by_cases reposted : other = hashHex
    · subst reposted
      exact Or.inl (mem_retained_remember_self ledger key other)
    · refine Or.inr (List.mem_append_left _ ?_)
      rw [found]
      exact List.mem_filter.mpr
        ⟨List.mem_singleton_self _, decide_eq_true reposted⟩
  · have written :
        (ledger.insert dedupKey hashHex).lookup key = some other := by
      rw [AList.lookup_insert_ne same]
      exact found
    by_cases kept :
        key ∈ evictPast maxAcceptances (ledger.insert dedupKey hashHex)
    · refine Or.inl ?_
      rw [remember_snd, mem_retained]
      exact ⟨key, (lookup_evictPast_of_mem kept).trans written⟩
    · have present : key ∈ ledger.insert dedupKey hashHex :=
        InsertionMap.mem_of_lookup written
      refine Or.inr (List.mem_append_right _ (List.mem_filterMap.mpr ?_))
      exact
        ⟨key, List.mem_reverse.mpr (mem_droppedPast.mpr ⟨present, kept⟩),
          written⟩

section Drop

variable {ledger : AcceptanceLedger} {dedupKey : String} (hashHex : String)

/-- A key already retained gives up its previous hash, if that differs, and no
other key is evicted. -/
theorem drop_of_lookup {previous : String}
    (within : size ledger ≤ maxAcceptances)
    (retains : ledger.lookup dedupKey = some previous) :
    (ledger.remember dedupKey hashHex).1 = [previous].filter (· ≠ hashHex) := by
  have fits : size (ledger.insert dedupKey hashHex) ≤ maxAcceptances := by
    rw [size_insert_of_mem hashHex (mem_of_lookup retains)]
    exact within
  simp only [remember, retains, droppedPast_of_size_le fits]
  exact List.append_nil _

theorem drop_of_room
    (absent : dedupKey ∉ ledger) (room : size ledger < maxAcceptances) :
    (ledger.remember dedupKey hashHex).1 = [] := by
  have fits : size (ledger.insert dedupKey hashHex) ≤ maxAcceptances := by
    rw [size_insert_of_notMem hashHex absent]
    exact room
  simp only [remember, AList.lookup_eq_none.mpr absent,
    droppedPast_of_size_le fits]
  rfl

/-- A new key in a full ledger evicts one other. -/
theorem drop_of_full
    (absent : dedupKey ∉ ledger) (full : size ledger = maxAcceptances) :
    ∃ oldest previous,
      oldest ∉ (ledger.remember dedupKey hashHex).2 ∧
        ledger.lookup oldest = some previous ∧
          (ledger.remember dedupKey hashHex).1 = [previous] := by
  have excess :
      size (ledger.insert dedupKey hashHex) = maxAcceptances + 1 :=
    (size_insert_of_notMem hashHex absent).trans (congrArg (· + 1) full)
  obtain ⟨oldest, member, dropped⟩ := droppedPast_of_size_succ excess
  have evicted : oldest ∉ (ledger.remember dedupKey hashHex).2 := by
    have listed := List.mem_singleton_self oldest
    rw [← dropped] at listed
    rw [remember_snd]
    exact (mem_droppedPast.mp listed).2
  have different : oldest ≠ dedupKey := by
    intro same
    subst same
    have positive : 0 < maxAcceptances := by
      decide
    have kept := lookup_remember_self positive ledger oldest hashHex
    rw [remember_snd] at evicted
    exact evicted (mem_of_lookup kept)
  have held : oldest ∈ ledger :=
    ((AList.mem_insert ledger).mp member).resolve_left different
  obtain ⟨previous, found⟩ := exists_lookup_of_mem held
  refine ⟨oldest, previous, evicted, found, ?_⟩
  have written :
      (ledger.insert dedupKey hashHex).lookup oldest = some previous := by
    rw [AList.lookup_insert_ne different, found]
  simp only [remember, AList.lookup_eq_none.mpr absent, dropped]
  simp [written]

end Drop

end AcceptanceLedger

end Ledger

section Requests

/-! ## Requests and runs -/

/-- How far a request that passed the check has come. -/
inductive AcceptanceRequest where
  | putting (hash : String) (record : TermsAcceptance)
  | stored (hash : String) (record : TermsAcceptance)
  | retiring (hash : String) (drop : List String)
  deriving DecidableEq

namespace AcceptanceRequest

/-- The hash the request is about. -/
def hash : AcceptanceRequest → String
  | .putting hash _ => hash
  | .stored hash _ => hash
  | .retiring hash _ => hash

/-- The put has landed and the ledger has not been told. -/
def isStored : AcceptanceRequest → Bool
  | .stored _ _ => true
  | _ => false

/-- The deletes still to land. -/
def pendingDeletes : AcceptanceRequest → List String
  | .retiring _ drop => drop
  | _ => []

/-- The request has answered. -/
def isSettled : AcceptanceRequest → Bool
  | .retiring _ [] => true
  | _ => false

end AcceptanceRequest

/-- The store's acceptance namespace, the ledger and the requests so far.  Every
key of the namespace is lower-case hex, which the store's own normalisation of
keys leaves alone. -/
structure AcceptanceRun where
  namespaceEntries : InsertionMap String TermsAcceptance
  ledger : AcceptanceLedger
  requests : List AcceptanceRequest

/-- The steps of the requests. -/
inductive AcceptanceEvent where
  | posted (deps : AcceptanceDeps) (body : JsValue)
  | putLands (request : Nat)
  | remembers (request : Nat)
  | deleteLands (request : Nat)

namespace AcceptanceRun

def booted : AcceptanceRun where
  namespaceEntries := ∅
  ledger := ∅
  requests := []

/-- Move a request on. -/
def advance
    (run : AcceptanceRun) (request : Nat) (next : AcceptanceRequest) :
    AcceptanceRun :=
  { run with requests := run.requests.set request next }

/-- What each step does.  A refused body changes nothing; the caller's filter on
the drop list is made where the ledger answers. -/
def step (library : TosLibrary) (run : AcceptanceRun) :
    AcceptanceEvent → AcceptanceRun
  | .posted deps body =>
      match verifyTermsAcceptance library deps body with
      | .ok record =>
          { run with
            requests :=
              run.requests ++
                [.putting (library.termsAcceptanceHashHex record) record] }
      | .error _ => run
  | .putLands request =>
      match run.requests[request]? with
      | some (.putting hash record) =>
          { run.advance request (.stored hash record) with
            namespaceEntries := run.namespaceEntries.set hash record }
      | _ => run
  | .remembers request =>
      match run.requests[request]? with
      | some (.stored hash record) =>
          let reconciled :=
            run.ledger.remember
              (acceptanceDedupKey record.participantDid record.cohortId) hash
          { run.advance request
              (.retiring hash (reconciled.1.filter (· ≠ hash))) with
            ledger := reconciled.2 }
      | _ => run
  | .deleteLands request =>
      match run.requests[request]? with
      | some (.retiring hash (stale :: drop)) =>
          { run.advance request (.retiring hash drop) with
            namespaceEntries := run.namespaceEntries.erase stale }
      | _ => run

/-- A step is offered to a request that is about to take it. -/
def offers (run : AcceptanceRun) : AcceptanceEvent → Bool
  | .posted _ _ => true
  | .putLands request =>
      match run.requests[request]? with
      | some (.putting _ _) => true
      | _ => false
  | .remembers request =>
      match run.requests[request]? with
      | some (.stored _ _) => true
      | _ => false
  | .deleteLands request =>
      match run.requests[request]? with
      | some (.retiring _ (_ :: _)) => true
      | _ => false

/-- Every request has settled. -/
def Quiet (run : AcceptanceRun) : Prop :=
  ∀ request ∈ run.requests, request.isSettled = true

/-- What the store and the ledger owe each other once every request has
settled. -/
structure StoreAgrees (run : AcceptanceRun) : Prop where
  same_hashes :
    ∀ hash, hash ∈ run.namespaceEntries ↔ hash ∈ run.ledger.retained
  bounded : size run.namespaceEntries ≤ maxAcceptances
  retained_bounded : run.ledger.retained.length ≤ maxAcceptances
  resolves :
    ∀ dedupKey hash,
      run.ledger.lookup dedupKey = some hash → hash ∈ run.namespaceEntries

/-- The hash a request deletes next. -/
def nextDelete? (run : AcceptanceRun) (request : Nat) : Option String :=
  match run.requests[request]? with
  | some (.retiring _ (stale :: _)) => some stale
  | _ => none

/-- No request has put the hash and is still to tell the ledger. -/
def NoneStored (run : AcceptanceRun) (hash : String) : Prop :=
  ∀ other ∈ run.requests, other.isStored = true → other.hash ≠ hash

/-- A delete lands only on a hash that is neither retained nor just put: no
later request has put the same record again. -/
def DeletesStale (run : AcceptanceRun) : AcceptanceEvent → Prop
  | .deleteLands request =>
      ∀ stale ∈ run.nextDelete? request,
        stale ∉ run.ledger.retained ∧ run.NoneStored stale
  | _ => True

instance (run : AcceptanceRun) (hash : String) : Decidable (run.NoneStored hash) :=
  inferInstanceAs (Decidable (∀ _ ∈ _, _ → _))

instance (run : AcceptanceRun) (event : AcceptanceEvent) :
    Decidable (run.DeletesStale event) :=
  match event with
  | .deleteLands request =>
      inferInstanceAs (Decidable (∀ stale ∈ run.nextDelete? request, _ ∧ _))
  | .posted _ _ => isTrue trivial
  | .putLands _ => isTrue trivial
  | .remembers _ => isTrue trivial

end AcceptanceRun

/-- The requests of one service, in any order of their steps. -/
def acceptanceMachine (library : TosLibrary) :
    Machine AcceptanceRun AcceptanceEvent where
  init := .booted
  step := AcceptanceRun.step library
  admits run event := run.offers event = true

end Requests

section Agreement

/-! ## What a step keeps -/

namespace AcceptanceRun

/-- Moving one request on loses no other. -/
private theorem mem_set_or_getElem?
    {requests : List AcceptanceRequest} {held : AcceptanceRequest}
    (next : AcceptanceRequest) (member : held ∈ requests) (request : Nat) :
    held ∈ requests.set request next ∨ requests[request]? = some held := by
  induction requests generalizing request with
  | nil => cases member
  | cons head rest inductionHypothesis =>
      cases request with
      | zero =>
          rcases List.mem_cons.mp member with rfl | later
          · exact Or.inr rfl
          · exact Or.inl (List.mem_cons_of_mem _ later)
      | succ request =>
          rcases List.mem_cons.mp member with rfl | later
          · exact Or.inl List.mem_cons_self
          · rcases inductionHypothesis later request with kept | here
            · exact Or.inl (List.mem_cons_of_mem _ kept)
            · exact Or.inr here

private theorem mem_set_of_getElem?
    {requests : List AcceptanceRequest} {held : AcceptanceRequest}
    {request : Nat} (here : requests[request]? = some held)
    (next : AcceptanceRequest) :
    next ∈ requests.set request next := by
  obtain ⟨within, _⟩ := List.getElem?_eq_some_iff.mp here
  exact List.mem_set within next

/-- Every hash of the store is retained, or just put, or about to be deleted;
what is retained or just put resolves. -/
structure Reconciling (run : AcceptanceRun) : Prop where
  explained :
    ∀ hash ∈ run.namespaceEntries,
      hash ∈ run.ledger.retained ∨ ¬ run.NoneStored hash ∨
        ∃ request ∈ run.requests, hash ∈ request.pendingDeletes
  retained_resolves :
    ∀ hash ∈ run.ledger.retained, hash ∈ run.namespaceEntries
  stored_resolves :
    ∀ request ∈ run.requests,
      request.isStored = true → request.hash ∈ run.namespaceEntries
  bounded : size run.ledger ≤ maxAcceptances

theorem not_noneStored {run : AcceptanceRun} {hash : String} :
    ¬ run.NoneStored hash ↔
      ∃ request ∈ run.requests,
        request.isStored = true ∧ request.hash = hash := by
  simp [NoneStored]

theorem Reconciling.booted : Reconciling booted where
  explained := by
    intro hash member
    exact absurd member (AList.notMem_empty hash)
  retained_resolves := by
    intro hash member
    cases member
  stored_resolves := by
    intro request member
    cases member
  bounded := Nat.zero_le _

/-- A new request holds nothing yet. -/
theorem Reconciling.posted
    {run : AcceptanceRun} (reconciling : Reconciling run)
    (hash : String) (record : TermsAcceptance) :
    Reconciling
      { run with requests := run.requests ++ [.putting hash record] } where
  explained := by
    intro other member
    rcases reconciling.explained other member with held | justPut | pending
    · exact Or.inl held
    · refine Or.inr (Or.inl ?_)
      obtain ⟨request, present, facts⟩ := not_noneStored.mp justPut
      exact not_noneStored.mpr
        ⟨request, List.mem_append_left _ present, facts⟩
    · obtain ⟨request, present, deletes⟩ := pending
      exact Or.inr (Or.inr
        ⟨request, List.mem_append_left _ present, deletes⟩)
  retained_resolves := reconciling.retained_resolves
  stored_resolves := by
    intro request member isStored
    rcases List.mem_append.mp member with old | new
    · exact reconciling.stored_resolves request old isStored
    · rw [List.mem_singleton.mp new] at isStored
      cases isStored
  bounded := reconciling.bounded

/-- A request other than the one that moves is still there. -/
private theorem mem_set_or_eq
    {requests : List AcceptanceRequest} {request : Nat}
    {moved held next : AcceptanceRequest}
    (here : requests[request]? = some moved) (member : held ∈ requests) :
    held ∈ requests.set request next ∨ held = moved := by
  rcases mem_set_or_getElem? next member request with kept | found
  · exact Or.inl kept
  · exact Or.inr (Option.some.inj (found.symm.trans here))

/-- A put counts until the request that made it moves. -/
private theorem justPut_advance
    {run : AcceptanceRun} {request : Nat} {moved next : AcceptanceRequest}
    {hash : String} (here : run.requests[request]? = some moved)
    (another : moved.isStored = true → moved.hash ≠ hash)
    (justPut : ¬ run.NoneStored hash) :
    ¬ (run.advance request next).NoneStored hash := by
  obtain ⟨waiting, present, isStored, same⟩ := not_noneStored.mp justPut
  refine not_noneStored.mpr ?_
  rcases mem_set_or_eq here present with kept | rfl
  · exact ⟨waiting, kept, isStored, same⟩
  · exact absurd same (another isStored)

/-- A delete that another request has to make is still to be made. -/
private theorem pendingDelete_advance
    {run : AcceptanceRun} {request : Nat} {moved next : AcceptanceRequest}
    {hash : String} (here : run.requests[request]? = some moved)
    (another : hash ∉ moved.pendingDeletes)
    (pending : ∃ held ∈ run.requests, hash ∈ held.pendingDeletes) :
    ∃ held ∈ (run.advance request next).requests,
      hash ∈ held.pendingDeletes := by
  obtain ⟨waiting, present, deletes⟩ := pending
  rcases mem_set_or_eq here present with kept | rfl
  · exact ⟨waiting, kept, deletes⟩
  · exact absurd deletes another

/-- The put makes its hash resolve, and explains it. -/
theorem Reconciling.putLands
    {run : AcceptanceRun} (reconciling : Reconciling run)
    {request : Nat} {hash : String} {record : TermsAcceptance}
    (here : run.requests[request]? = some (.putting hash record)) :
    Reconciling
      { run.advance request (.stored hash record) with
        namespaceEntries := run.namespaceEntries.set hash record } where
  explained := by
    intro other member
    rcases InsertionMap.mem_set.mp member with rfl | old
    · refine Or.inr (Or.inl (not_noneStored.mpr ?_))
      exact ⟨.stored other record, mem_set_of_getElem? here _, rfl, rfl⟩
    · rcases reconciling.explained other old with held | justPut | pending
      · exact Or.inl held
      · refine Or.inr (Or.inl (justPut_advance here ?_ justPut))
        intro isStored
        cases isStored
      · refine Or.inr (Or.inr (pendingDelete_advance here ?_ pending))
        exact List.not_mem_nil
  retained_resolves := by
    intro other held
    exact InsertionMap.mem_set.mpr
      (Or.inr (reconciling.retained_resolves other held))
  stored_resolves := by
    intro waiting member isStored
    refine InsertionMap.mem_set.mpr ?_
    rcases List.mem_or_eq_of_mem_set member with old | rfl
    · exact Or.inr (reconciling.stored_resolves waiting old isStored)
    · exact Or.inl rfl
  bounded := reconciling.bounded

/-- The ledger retains the hash just put; what it forgets is to be deleted. -/
theorem Reconciling.remembers
    {run : AcceptanceRun} (reconciling : Reconciling run)
    {request : Nat} {hash : String} {record : TermsAcceptance}
    (here : run.requests[request]? = some (.stored hash record))
    {dedupKey : String} {reconciled : List String × AcceptanceLedger}
    (answered : run.ledger.remember dedupKey hash = reconciled) :
    Reconciling
      { run.advance request
          (.retiring hash (reconciled.1.filter (· ≠ hash))) with
        ledger := reconciled.2 } where
  explained := by
    intro other member
    by_cases same : other = hash
    · subst same
      have retains :=
        AcceptanceLedger.mem_retained_remember_self run.ledger dedupKey other
      rw [answered] at retains
      exact Or.inl retains
    rcases reconciling.explained other member with held | justPut | pending
    · have forgets :=
        AcceptanceLedger.mem_retained_or_mem_drop dedupKey hash held
      rw [answered] at forgets
      rcases forgets with kept | dropped
      · exact Or.inl kept
      · refine Or.inr (Or.inr ⟨_, mem_set_of_getElem? here _, ?_⟩)
        exact List.mem_filter.mpr ⟨dropped, decide_eq_true same⟩
    · refine Or.inr (Or.inl (justPut_advance here ?_ justPut))
      exact fun _ sameHash => same sameHash.symm
    · refine Or.inr (Or.inr (pendingDelete_advance here ?_ pending))
      exact List.not_mem_nil
  retained_resolves := by
    intro other held
    have before : other = hash ∨ other ∈ run.ledger.retained := by
      apply AcceptanceLedger.of_mem_retained_remember
      rw [answered]
      exact held
    rcases before with rfl | old
    · obtain ⟨within, found⟩ := List.getElem?_eq_some_iff.mp here
      have present := List.getElem_mem within
      rw [found] at present
      exact reconciling.stored_resolves _ present rfl
    · exact reconciling.retained_resolves other old
  stored_resolves := by
    intro waiting member isStored
    rcases List.mem_or_eq_of_mem_set member with old | rfl
    · exact reconciling.stored_resolves waiting old isStored
    · cases isStored
  bounded := by
    have fits := AcceptanceLedger.size_remember_le run.ledger dedupKey hash
    rw [answered] at fits
    exact fits

/-- A stale delete takes away no hash that has to resolve. -/
theorem Reconciling.deleteLands
    {run : AcceptanceRun} (reconciling : Reconciling run)
    {request : Nat} {hash stale : String} {drop : List String}
    (here : run.requests[request]? = some (.retiring hash (stale :: drop)))
    (notRetained : stale ∉ run.ledger.retained)
    (noneStored : run.NoneStored stale) :
    Reconciling
      { run.advance request (.retiring hash drop) with
        namespaceEntries := run.namespaceEntries.erase stale } where
  explained := by
    intro other member
    obtain ⟨different, old⟩ := AList.mem_erase.mp member
    rcases reconciling.explained other old with held | justPut | pending
    · exact Or.inl held
    · refine Or.inr (Or.inl (justPut_advance here ?_ justPut))
      intro isStored
      cases isStored
    · by_cases later : other ∈ drop
      · exact Or.inr (Or.inr ⟨_, mem_set_of_getElem? here _, later⟩)
      · refine Or.inr (Or.inr (pendingDelete_advance here ?_ pending))
        exact List.not_mem_cons_of_ne_of_not_mem different later
  retained_resolves := by
    intro other held
    refine AList.mem_erase.mpr ⟨?_, reconciling.retained_resolves other held⟩
    rintro rfl
    exact notRetained held
  stored_resolves := by
    intro waiting member isStored
    rcases List.mem_or_eq_of_mem_set member with old | rfl
    · refine AList.mem_erase.mpr
        ⟨?_, reconciling.stored_resolves waiting old isStored⟩
      exact noneStored waiting old isStored
    · cases isStored
  bounded := reconciling.bounded

/-- A step keeps the two structures reconciled as long as deletes are stale. -/
theorem Reconciling.step
    (library : TosLibrary) {run : AcceptanceRun} {event : AcceptanceEvent}
    (reconciling : Reconciling run) (stale : run.DeletesStale event) :
    Reconciling (run.step library event) := by
  cases event with
  | posted deps body =>
      cases verified : verifyTermsAcceptance library deps body with
      | error text =>
          simp only [AcceptanceRun.step, verified]
          exact reconciling
      | ok record =>
          simp only [AcceptanceRun.step, verified]
          exact reconciling.posted _ record
  | putLands request =>
      simp only [AcceptanceRun.step]
      split
      · next here => exact reconciling.putLands here
      · exact reconciling
  | remembers request =>
      simp only [AcceptanceRun.step]
      split
      · next here => exact reconciling.remembers here rfl
      · exact reconciling
  | deleteLands request =>
      simp only [AcceptanceRun.step]
      split
      · next hash next drop here =>
          have due : run.nextDelete? request = some next := by
            rw [nextDelete?, here]
          obtain ⟨notRetained, noneStored⟩ := stale next due
          exact reconciling.deleteLands here notRetained noneStored
      · exact reconciling

/-- Once every request has settled, reconciled is equal. -/
theorem Reconciling.storeAgrees
    {run : AcceptanceRun} (reconciling : Reconciling run)
    (quiet : run.Quiet) : StoreAgrees run := by
  have onlyRetained :
      ∀ hash ∈ run.namespaceEntries, hash ∈ run.ledger.retained := by
    intro hash member
    rcases reconciling.explained hash member with held | justPut | pending
    · exact held
    · obtain ⟨request, present, isStored, _⟩ := not_noneStored.mp justPut
      have settled := quiet request present
      cases request with
      | putting _ _ => cases isStored
      | stored _ _ => cases settled
      | retiring _ _ => cases isStored
    · obtain ⟨request, present, deletes⟩ := pending
      have settled := quiet request present
      cases request with
      | putting _ _ => cases deletes
      | stored _ _ => cases deletes
      | retiring _ drop =>
          cases drop with
          | nil => cases deletes
          | cons _ _ => cases settled
  have fewRetained : run.ledger.retained.length ≤ maxAcceptances := by
    rw [AcceptanceLedger.length_retained]
    exact reconciling.bounded
  have fewer : size run.namespaceEntries ≤ run.ledger.retained.length :=
    (List.subperm_of_subset (AList.keys_nodup run.namespaceEntries)
      onlyRetained).length_le
  exact
    { same_hashes := fun hash =>
        ⟨onlyRetained hash, reconciling.retained_resolves hash⟩
      bounded := Nat.le_trans fewer fewRetained
      retained_bounded := fewRetained
      resolves := by
        intro dedupKey hash found
        exact reconciling.retained_resolves hash
          (AcceptanceLedger.mem_retained.mpr ⟨dedupKey, found⟩) }

end AcceptanceRun

end Agreement

section Law

/-! ## The law over whole runs -/

instance (run : AcceptanceRun) : Decidable run.Quiet :=
  inferInstanceAs (Decidable (∀ _ ∈ _, _))

instance (library : TosLibrary) (run : AcceptanceRun) (event : AcceptanceEvent) :
    Decidable ((acceptanceMachine library).admits run event) :=
  inferInstanceAs (Decidable (_ = true))

/-- Along every run whose deletes are stale, whenever every request has
settled the store holds exactly what the ledger retains. -/
theorem storeAgrees_of_deletesStale
    (library : TosLibrary) (events : List AcceptanceEvent)
    (admissible :
      ((acceptanceMachine library).restrict AcceptanceRun.DeletesStale).Admits
        events)
    (quiet : ((acceptanceMachine library).run events).Quiet) :
    ((acceptanceMachine library).run events).StoreAgrees := by
  have always :
      ((acceptanceMachine library).restrict
        AcceptanceRun.DeletesStale).Always AcceptanceRun.Reconciling := by
    apply Machine.Always.of_inductive
    · exact AcceptanceRun.Reconciling.booted
    · intro run event reconciling offered
      exact reconciling.step library offered.2
  exact (always events admissible).storeAgrees quiet

/-- Records told apart by their instant, and a key for every DID. -/
def echoLibrary : TosLibrary where
  termsHashHex text := text
  termsAcceptanceHashHex record := record.acceptedAt
  parsesAsDate _ := true
  resolveSenderPk did _ := some did
  verifies _ _ _ := true

/-- A service with terms. -/
def echoDeps : AcceptanceDeps where
  storeWired := true
  termsText := some "terms"
  serviceDid := some "service"
  resolverWired := true

/-- The envelope of one participant's acceptance of one cohort's terms. -/
def echoEnvelope (acceptedAt : String) : JsValue :=
  .object
    [("acceptance",
      .object
        [("@context", .string btcr2Context),
          ("type", .string termsAcceptanceType),
          ("serviceDid", .string "service"), ("cohortId", .string "c"),
          ("termsHash", .string "terms"), ("participantDid", .string "p"),
          ("acceptedAt", .string acceptedAt)]),
      ("signature", .string (String.ofList (List.replicate 128 '0')))]

/-- One participant accepts, then accepts again. -/
def acceptTwice : List AcceptanceEvent :=
  [.posted echoDeps (echoEnvelope "1"), .putLands 0, .remembers 0,
    .posted echoDeps (echoEnvelope "2"), .putLands 1, .remembers 1,
    .deleteLands 1]

theorem storeAgrees_of_deletesStale_twice :
    ((acceptanceMachine echoLibrary).run acceptTwice).StoreAgrees := by
  obtain ⟨admissible, quiet⟩ :
      ((acceptanceMachine echoLibrary).restrict
          AcceptanceRun.DeletesStale).Admits acceptTwice ∧
        ((acceptanceMachine echoLibrary).run acceptTwice).Quiet := by
    decide +kernel
  exact storeAgrees_of_deletesStale echoLibrary acceptTwice admissible quiet

/-- The agreement as a promise about every interleaving. -/
def AgreementPromise : Prop :=
  ∀ library events,
    (acceptanceMachine library).Admits events →
      ((acceptanceMachine library).run events).Quiet →
        ((acceptanceMachine library).run events).StoreAgrees

/-- A new acceptance and a repost of the retained one cross: the delete of the
retained hash is decided before the repost is remembered and lands after its
put. -/
def repostCrosses : List AcceptanceEvent :=
  [.posted echoDeps (echoEnvelope "1"), .putLands 0, .remembers 0,
    .posted echoDeps (echoEnvelope "2"), .posted echoDeps (echoEnvelope "1"),
    .putLands 1, .putLands 2, .remembers 1, .deleteLands 1, .remembers 2,
    .deleteLands 2]

theorem not_agreementPromise : ¬ AgreementPromise := by
  intro promise
  obtain ⟨admissible, quiet, retained, empty⟩ :
      (acceptanceMachine echoLibrary).Admits repostCrosses ∧
        ((acceptanceMachine echoLibrary).run repostCrosses).Quiet ∧
        ((acceptanceMachine echoLibrary).run repostCrosses).ledger.retained =
          ["1"] ∧
        "1" ∉
          ((acceptanceMachine echoLibrary).run
            repostCrosses).namespaceEntries := by
    decide +kernel
  have agrees := promise echoLibrary repostCrosses admissible quiet
  have member := (agrees.same_hashes "1").mpr
  rw [retained] at member
  exact empty (member List.mem_cons_self)

end Law

end Tos

end Btcr2Aggregation
