import Btcr2Aggregation.Web.Store
import Mathlib.Data.List.MinMax

/-!
# Registration and the external-signer round trip

`register` and `exportPsbt` read the identity and its beacon address before
their first await and the captured update after it.  Each is split at its
awaits: the click, the landing of the funding read, and for `register` the
landing of the broadcast.
-/

namespace Btcr2Aggregation

section Texts

/-! ## Texts -/

def mainnetBlocked : String :=
  "Bitcoin mainnet: confirm the real-funds acknowledgment before broadcasting."

def notIncluded : String :=
  "no update to register (this DID was not included)"

def unmatchedPsbt : String :=
  "Bring back a signed PSBT that matches this transaction before broadcasting."

/-- What reading a field of the cleared capture throws. -/
def nullCaptured : String :=
  "Cannot read properties of null (reading 'updateHashBytes')"

def noSpendableFunds : String :=
  "No spendable funds at that address yet. Send at least " ++
    toString minRegistrationFundingSats ++ " sats in one payment, then try again."

end Texts

/-- Largest first; of equally large coins the first one answered. -/
def selectFundingUtxo (utxos : List RegistrationUtxo) :
    Option RegistrationUtxo :=
  (utxos.filter fun utxo => minRegistrationFundingSats ≤ utxo.value).argmax
    RegistrationUtxo.value

theorem mem_of_selectFundingUtxo
    {utxos : List RegistrationUtxo} {utxo : RegistrationUtxo}
    (selected : selectFundingUtxo utxos = some utxo) :
    utxo ∈ utxos ∧ minRegistrationFundingSats ≤ utxo.value ∧
      ∀ other ∈ utxos, other.value ≤ utxo.value := by
  have member := List.argmax_mem selected
  obtain ⟨listed, funded⟩ := List.mem_filter.mp member
  have funded := of_decide_eq_true funded
  refine ⟨listed, funded, fun other otherListed => ?_⟩
  by_cases otherFunded : minRegistrationFundingSats ≤ other.value
  · have candidate :
        other ∈
          utxos.filter fun utxo => minRegistrationFundingSats ≤ utxo.value :=
      List.mem_filter.mpr ⟨otherListed, decide_eq_true otherFunded⟩
    exact List.le_of_mem_argmax candidate selected
  · exact Nat.le_trans (Nat.le_of_lt (Nat.lt_of_not_le otherFunded)) funded

inductive PsbtInput where
  | text (pasted : String)
  | bytes (uploaded : Bytes)
  deriving DecidableEq, Repr

namespace PsbtInput

/-- The text the page keeps of a returned PSBT. -/
def asText (signer : BtcSigner) : PsbtInput → String
  | .text pasted => pasted
  | .bytes uploaded => signer.baseEncode uploaded

def asBytes (signer : BtcSigner) : PsbtInput → Option Bytes
  | .text pasted => signer.baseDecode pasted
  | .bytes uploaded => some uploaded

end PsbtInput

namespace Registration

/-- The external-signer fields at rest. -/
def withoutPsbt (registration : Registration) : Registration :=
  { registration with
    psbtBase64 := none
    psbtTemplateHex := none
    psbtReturned := ""
    psbtVerdict := none
    psbtExporting := false
    psbtExportError := none }

def failed (registration : Registration) (message : String) : Registration :=
  { registration with
    regStatus := .failed
    regError := some message }

/-- A registration attempt is between its click and its end. -/
def attempting (registration : Registration) : Bool :=
  registration.regStatus = .checking ∨ registration.regStatus = .broadcasting

end Registration

namespace Page

section Setters

abbrev registration (page : Page) : Registration :=
  page.outcome.registration

/-- Write the registration fields. -/
def setRegistration (registration : Registration) (page : Page) : Page :=
  { page with outcome := { page.outcome with registration } }

/-- The identity and address a chain action works for, when the captured update
is this identity's. -/
def registrant? (page : Page) : Option (Identity × String) :=
  match page.identity, page.beaconRegAddress, page.captured with
  | some identity, some beaconRegAddress, some captured =>
      if captured.did = identity.did then
        some (identity, beaconRegAddress)
      else
        none
  | _, _, _ => none

/-- The call a chain action makes now. -/
def newCall (identity : Identity) (beaconRegAddress : String) (page : Page) :
    ChainCall where
  id := page.nextCall
  round := page.round
  identity := identity
  beaconRegAddress := beaconRegAddress
  txid := none

end Setters

section Register

/-! ## `register` -/

/-- The click. -/
def register
    (config : PageConfig) (acknowledgeMainnet : Bool) (page : Page) : Page :=
  if page.registration.attempting then
    page
  else if config.network = .bitcoin ∧ acknowledgeMainnet = false then
    setRegistration (page.registration.failed mainnetBlocked) page
  else
    match page.registrant? with
    | none => page
    | some (identity, beaconRegAddress) =>
        if (page.outcome.result.map ParticipantResult.included) ≠ some true then
          setRegistration (page.registration.failed notIncluded) page
        else
          { setRegistration
              { page.registration with
                regStatus := .checking
                regError := none }
              page with
            registerCalls :=
              newCall identity beaconRegAddress page :: page.registerCalls
            nextCall := page.nextCall + 1 }

/-- The raw transaction and its id, by the signing method of the moment. -/
def rawTransaction
    (config : PageConfig) (call : ChainCall) (fundable : RegistrationUtxo)
    (randomness : Nat) (page : Page) : Except String (String × String) :=
  match page.registration.signingMethod with
  | .wallet =>
      match page.registration.psbtVerdict with
      | some (.ok accepted) => .ok (accepted.rawHex, accepted.txid)
      | _ => .error unmatchedPsbt
  | .browser =>
      match page.captured with
      | none => .error nullCaptured
      | some captured =>
          buildSingletonRegistrationTx config.signer call.identity.keys fundable
            captured.updateHashBytes config.network randomness

/-- The call is over. -/
def endRegister (call : ChainCall) (page : Page) : Page :=
  { page with registerCalls := page.registerCalls.erase call }

/-- The funding read lands. -/
def fundsLand
    (config : PageConfig) (call : ChainCall)
    (answer : Except String (List RegistrationUtxo)) (randomness : Nat)
    (page : Page) : Page :=
  match answer with
  | .error message =>
      setRegistration (page.registration.failed message) (endRegister call page)
  | .ok utxos =>
      match selectFundingUtxo utxos with
      | none =>
          setRegistration
            { page.registration with regStatus := .awaitingFunds }
            (endRegister call page)
      | some fundable =>
          match rawTransaction config call fundable randomness page with
          | .error message =>
              setRegistration (page.registration.failed message)
                (endRegister call page)
          | .ok (rawHex, txid) =>
              { setRegistration
                  { page.registration with regStatus := .broadcasting }
                  page with
                registerCalls :=
                  { call with txid := some txid } ::
                    page.registerCalls.erase call
                broadcasts :=
                  { round := page.round
                    identity := page.identity
                    rawHex } :: page.broadcasts }

/-- What a funded attempt sends by the browser's own key. -/
theorem broadcast_of_fundsLand
    {config : PageConfig} {call : ChainCall} {utxos : List RegistrationUtxo}
    {fundable : RegistrationUtxo} {captured : Captured} {randomness : Nat}
    {rawHex txid : String} {page : Page}
    (selected : selectFundingUtxo utxos = some fundable)
    (method : page.registration.signingMethod = .browser)
    (held : page.captured = some captured)
    (built :
      buildSingletonRegistrationTx config.signer call.identity.keys fundable
          captured.updateHashBytes config.network randomness =
        .ok (rawHex, txid)) :
    { round := page.round, identity := page.identity, rawHex } ∈
      (page.fundsLand config call (.ok utxos) randomness).broadcasts := by
  have sent :
      page.rawTransaction config call fundable randomness =
        .ok (rawHex, txid) := by
    simp only [rawTransaction, method, held, built]
  simp only [fundsLand, selected, sent]
  exact List.mem_cons_self

/-- The broadcast lands; a failed one keeps the locally built id. -/
def broadcastLands
    (call : ChainCall) (answer : Except String String) (page : Page) : Page :=
  match answer with
  | .ok broadcastTxid =>
      setRegistration
        { page.registration with
          regStatus := .registered
          regTxid := some broadcastTxid }
        (endRegister call page)
  | .error message =>
      setRegistration
        { page.registration.failed message with regTxid := call.txid }
        (endRegister call page)

end Register

section Export

/-! ## The external signer -/

def setSigningMethod (method : SigningMethod) (page : Page) : Page :=
  if page.registration.signingMethod = method then
    page
  else
    setRegistration
      { page.registration.withoutPsbt with signingMethod := method } page

def clearPsbt (page : Page) : Page :=
  setRegistration page.registration.withoutPsbt page

/-- The click on the export. -/
def exportPsbt (page : Page) : Page :=
  if page.registration.psbtExporting then
    page
  else
    match page.registrant? with
    | none => page
    | some (identity, beaconRegAddress) =>
        { setRegistration
            { page.registration with
              psbtExporting := true
              psbtExportError := none }
            page with
          exportCalls :=
            newCall identity beaconRegAddress page :: page.exportCalls
          nextCall := page.nextCall + 1 }

/-- The template of an export, built from the capture of the moment. -/
def exportedTemplate
    (config : PageConfig) (call : ChainCall) (utxos : List RegistrationUtxo)
    (page : Page) : Except String (String × String) :=
  match selectFundingUtxo utxos with
  | none => .error noSpendableFunds
  | some fundable =>
      match page.captured with
      | none => .error nullCaptured
      | some captured =>
          exportRegistrationPsbt config.signer call.identity.keys fundable
            captured.updateHashBytes config.network

/-- The funding read of an export lands. -/
def exportLands
    (config : PageConfig) (call : ChainCall)
    (answer : Except String (List RegistrationUtxo)) (page : Page) : Page :=
  let settled := { page with exportCalls := page.exportCalls.erase call }
  match answer.bind fun utxos => exportedTemplate config call utxos page with
  | .error message =>
      setRegistration
        { page.registration with
          psbtExporting := false
          psbtExportError := some message }
        settled
  | .ok (base64, templateHex) =>
      setRegistration
        { page.registration with
          psbtBase64 := some base64
          psbtTemplateHex := some templateHex
          psbtExporting := false
          psbtExportError := none
          psbtReturned := ""
          psbtVerdict := none }
        settled

/-- The verdict on a returned PSBT; an emptied field has none. -/
def returnedVerdict
    (config : PageConfig) (templateHex : String) (input : PsbtInput) :
    Option PsbtVerdict :=
  if JsString.trim (input.asText config.signer) = "" then
    none
  else
    match input.asBytes config.signer with
    | none => some (.refused .unparseable)
    | some bytes =>
        some
          (validateSignedPsbt config.signer bytes templateHex
            registrationFeeSats config.network)

def submitSignedPsbt
    (config : PageConfig) (input : PsbtInput) (page : Page) : Page :=
  match page.registration.psbtTemplateHex with
  | none => page
  | some templateHex =>
      if templateHex = "" then
        page
      else
        setRegistration
          { page.registration with
            psbtReturned := input.asText config.signer
            psbtVerdict := returnedVerdict config templateHex input }
          page

end Export

section Frame

/-! ## What the chain actions leave alone -/

/-- Only the registration fields, the chain calls and the broadcasts differ. -/
def OnlyChain (before after : Page) : Prop :=
  after =
    { before with
      outcome := { before.outcome with registration := after.registration }
      registerCalls := after.registerCalls
      exportCalls := after.exportCalls
      nextCall := after.nextCall
      broadcasts := after.broadcasts }

variable (config : PageConfig) (page : Page)

theorem onlyChain_register (acknowledgeMainnet : Bool) :
    OnlyChain page (page.register config acknowledgeMainnet) := by
  unfold register
  split
  · rfl
  · split
    · rfl
    · split
      · rfl
      · split
        · rfl
        · rfl

theorem onlyChain_fundsLand
    (call : ChainCall) (answer : Except String (List RegistrationUtxo))
    (randomness : Nat) :
    OnlyChain page (page.fundsLand config call answer randomness) := by
  unfold fundsLand
  split
  · rfl
  · split
    · rfl
    · split
      · rfl
      · rfl

theorem onlyChain_broadcastLands
    (call : ChainCall) (answer : Except String String) :
    OnlyChain page (page.broadcastLands call answer) := by
  unfold broadcastLands
  split
  · rfl
  · rfl

theorem onlyChain_setSigningMethod (method : SigningMethod) :
    OnlyChain page (page.setSigningMethod method) := by
  unfold setSigningMethod
  split
  · rfl
  · rfl

theorem onlyChain_clearPsbt : OnlyChain page page.clearPsbt :=
  rfl

theorem onlyChain_exportPsbt : OnlyChain page page.exportPsbt := by
  unfold exportPsbt
  split
  · rfl
  · split
    · rfl
    · rfl

theorem onlyChain_exportLands
    (call : ChainCall) (answer : Except String (List RegistrationUtxo)) :
    OnlyChain page (page.exportLands config call answer) := by
  unfold exportLands
  dsimp only
  split
  · rfl
  · rfl

theorem onlyChain_submitSignedPsbt (input : PsbtInput) :
    OnlyChain page (page.submitSignedPsbt config input) := by
  unfold submitSignedPsbt
  split
  · rfl
  · split
    · rfl
    · rfl

end Frame

end Page

end Btcr2Aggregation
