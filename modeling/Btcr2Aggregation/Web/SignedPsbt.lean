import Btcr2Aggregation.Library.ByteText
import Btcr2Aggregation.Web.Psbt

/-!
# The registration transaction through a wallet

The page exports the transaction it would sign itself, a wallet signs it, and
the page judges what comes back.  A PSBT is read here by the fields of its
input maps: what it declares about the output it spends, the key signature, and
the final fields.  The witness-free bytes pin none of them.
-/

namespace Btcr2Aggregation

section Psbts

/-! ## PSBTs -/

/-- What a PSBT declares about a spent output. -/
structure PrevOut where
  script : String
  amount : Nat
  deriving DecidableEq, Repr

/-- What finalizing leaves on an input. -/
structure FinalInput where
  scriptSig : Bytes
  witness : List Bytes
  deriving DecidableEq, Repr

/-- One input map; `others` is every field the page does not read. -/
structure PsbtInputMap where
  prevOut : Option PrevOut
  tapKeySig : Option Bytes
  final : Option FinalInput
  others : Bytes
  deriving DecidableEq, Repr

/-- A PSBT by its witness-free bytes and its input maps. -/
structure Psbt where
  unsignedTx : String
  inputs : List PsbtInputMap
  deriving DecidableEq, Repr

def TxOutput.amount : TxOutput → Nat
  | .pays _ amount => amount
  | .opReturn _ => 0

/-- A key-path input carries nothing but its signature. -/
def FinalInput.keyPath (sig : Bytes) : FinalInput where
  scriptSig := []
  witness := [sig]

/-- A key signature has 64 bytes, or 65 with its flag. -/
def isTapKeySigSize (sig : Bytes) : Bool :=
  sig.length = 64 ∨ sig.length = 65

/-- A PSBT the library can write: a map for each input, and key signatures of a
legal size. -/
def Psbt.Writable (content : String → Option TxContent) (psbt : Psbt) : Prop :=
  (∀ transaction ∈ content psbt.unsignedTx,
    psbt.inputs.length = transaction.inputs.length) ∧
    ∀ input ∈ psbt.inputs, ∀ sig ∈ input.tapKeySig, isTapKeySigSize sig = true

/-- The transaction library.  Finalizing goes by the declared script: an input
declared Taproot takes its key signature, any other input what its own script
asks for, and that is never a key signature alone. -/
structure PsbtLibrary where
  p2trScript : String → NetworkName → String
  isP2tr : String → Bool
  tapInternalKey : String → Bytes
  addressOf : String → NetworkName → Option String
  serialize : TxContent → String
  content : String → Option TxContent
  encode : Psbt → Bytes
  decode : Bytes → Option Psbt
  baseEncode : Bytes → String
  baseDecode : String → Option Bytes
  signInput : String → Psbt → Nat → Bytes
  verifies : Psbt → Bytes → Bool
  finalizeInput : PsbtInputMap → Option FinalInput
  extract : String → List FinalInput → String
  stripWitness : String → String
  txid : String → List Bytes → String
  isP2tr_p2trScript :
    ∀ keys network, isP2tr (p2trScript keys network) = true
  content_serialize :
    ∀ transaction, content (serialize transaction) = some transaction
  decode_encode :
    ∀ psbt, psbt.Writable content → decode (encode psbt) = some psbt
  writable_of_decode :
    ∀ bytes psbt, decode bytes = some psbt → psbt.Writable content
  length_signInput :
    ∀ secret psbt randomness, (signInput secret psbt randomness).length = 64
  finalizeInput_keyPath :
    ∀ input prevOut sig,
      input.prevOut = some prevOut → isP2tr prevOut.script = true →
        input.tapKeySig = some sig →
          finalizeInput input = some (FinalInput.keyPath sig)
  finalizeInput_other :
    ∀ input prevOut final,
      input.prevOut = some prevOut → isP2tr prevOut.script = false →
        finalizeInput input = some final →
          ∀ sig, final ≠ FinalInput.keyPath sig
  finalizeInput_undeclared :
    ∀ input, input.prevOut = none → finalizeInput input = none
  stripWitness_extract :
    ∀ unsignedTx finals, stripWitness (extract unsignedTx finals) = unsignedTx

end Psbts

section Readings

/-! ## What the page reads of a PSBT -/

variable (library : PsbtLibrary)

namespace Psbt

/-- `tx.fee`: declared amounts less output amounts; reading it throws where an
amount is not declared, and a negative one cannot be finalized. -/
def fee (psbt : Psbt) : Option Nat := do
  let transaction ← library.content psbt.unsignedTx
  let spent ← psbt.inputs.mapM PsbtInputMap.prevOut
  let paid := (transaction.outputs.map TxOutput.amount).sum
  let declared := (spent.map PrevOut.amount).sum
  if paid ≤ declared then some (declared - paid) else none

/-- `tx.finalize()`. -/
def finalize (psbt : Psbt) : Option (List FinalInput) :=
  if (psbt.fee library).isSome then
    psbt.inputs.mapM library.finalizeInput
  else
    none

/-- `tx.getInput(0).tapKeySig`. -/
def tapKeySig (psbt : Psbt) : Option Bytes :=
  psbt.inputs.head?.bind PsbtInputMap.tapKeySig

/-- `tx.getOutput(0)`. -/
def firstOutput (psbt : Psbt) : Option TxOutput :=
  (library.content psbt.unsignedTx).bind fun transaction =>
    transaction.outputs.head?

/-- `tx.extract()` and `tx.id` of a finalized PSBT. -/
def extracted (psbt : Psbt) (finals : List FinalInput) : String × String :=
  (library.extract psbt.unsignedTx finals,
    library.txid psbt.unsignedTx (finals.map FinalInput.scriptSig))

def toAddress (network : NetworkName) (psbt : Psbt) : Option String :=
  match psbt.firstOutput library with
  | some (.pays script _) => library.addressOf script network
  | _ => none

/-- A PSBT as the page takes it up. -/
def parsed (network : NetworkName) (psbt : Psbt) : ParsedPsbt where
  unsignedTx := psbt.unsignedTx
  tapKeySig := psbt.tapKeySig
  fee := psbt.fee library
  paysSats := ((psbt.firstOutput library).map TxOutput.amount).getD 0
  toAddress := psbt.toAddress library network
  finalized := (psbt.finalize library).map (psbt.extracted library)

/-- The key signature of the first input, as `sign` writes it. -/
def withTapKeySig (psbt : Psbt) (sig : Bytes) : Psbt :=
  { psbt with
    inputs :=
      psbt.inputs.map fun input => { input with tapKeySig := some sig } }

end Psbt

/-- The script a template pays its change to, which is that of the coin it
spends. -/
def TxContent.changeScript (transaction : TxContent) : String :=
  match transaction.outputs.head? with
  | some (.pays script _) => script
  | _ => ""

namespace PsbtLibrary

/-- What the export declares of a template's one input. -/
def templateInput (template : RegistrationTemplate) : PsbtInputMap where
  prevOut :=
    some
      { script := template.content.changeScript, amount := template.funding }
  tapKeySig := none
  final := none
  others := library.tapInternalKey template.content.changeScript

def templatePsbt (template : RegistrationTemplate) : Psbt where
  unsignedTx := library.serialize template.content
  inputs := [library.templateInput template]

def unfinalizedError : String := "finalize/taproot: unknown input"

/-- Sign a template, finalize it and extract it. -/
def signTemplate
    (secret : String) (template : RegistrationTemplate) (randomness : Nat) :
    Except String (String × String) :=
  let unsigned := library.templatePsbt template
  let signed :=
    unsigned.withTapKeySig (library.signInput secret unsigned randomness)
  match signed.finalize library with
  | some finals => .ok (signed.extracted library finals)
  | none => .error unfinalizedError

theorem stripWitness_signTemplate
    {secret : String} {template : RegistrationTemplate} {randomness : Nat}
    {rawHex txid : String}
    (signed :
      library.signTemplate secret template randomness = .ok (rawHex, txid)) :
    library.stripWitness rawHex = library.serialize template.content := by
  simp only [signTemplate] at signed
  split at signed
  · cases signed
    exact library.stripWitness_extract _ _
  · cases signed

/-- The library as the signer of the registration flow. -/
def signer : BtcSigner where
  p2trScript := library.p2trScript
  unsignedTx template := library.serialize template.content
  toPsbt template := library.encode (library.templatePsbt template)
  sign := library.signTemplate
  fromPsbt bytes network := (library.decode bytes).map (Psbt.parsed library network)
  baseEncode := library.baseEncode
  baseDecode := library.baseDecode
  stripWitness := library.stripWitness
  content := library.content
  content_unsignedTx template := library.content_serialize template.content
  stripWitness_sign _ _ _ _ _ signed := library.stripWitness_signTemplate signed
  stripWitness_finalized bytes network psbt rawHex txid parsed finalized := by
    obtain ⟨read, _, rfl⟩ := Option.map_eq_some_iff.mp parsed
    obtain ⟨finals, _, extracted⟩ := Option.map_eq_some_iff.mp finalized
    cases extracted
    exact library.stripWitness_extract _ _

end PsbtLibrary

end Readings

section Paths

/-! ## The two paths -/

/-- `RegistrationTxOptions`; no fee is the default. -/
structure RegistrationTxOptions where
  keys : String
  utxo : RegistrationUtxo
  updateHash : Bytes
  network : NetworkName
  fee : Option Int
  deriving DecidableEq, Repr

structure RegistrationTx where
  rawHex : String
  txid : String
  fee : Nat
  change : Nat
  deriving DecidableEq, Repr

def negativeFeeError (fee : Int) : String :=
  "fee must be positive, got " ++ toString fee ++
    " sats (a zero-fee tx never relays)"

namespace RegistrationTxOptions

variable (signer : BtcSigner) (options : RegistrationTxOptions)

def feeSats : Int :=
  options.fee.getD registrationFeeSats

/-- `buildRegistrationTemplate` on its options. -/
def template : Except String RegistrationTemplate :=
  if options.feeSats ≤ 0 then
    .error (negativeFeeError options.feeSats)
  else
    buildRegistrationTemplate signer options.keys options.utxo
      options.updateHash options.network options.feeSats.toNat

/-- `exportRegistrationPsbt` on its options. -/
def exportPsbt : Except String (String × String) :=
  match options.template signer with
  | .error message => .error message
  | .ok template =>
      .ok
        (signer.baseEncode (signer.toPsbt template), signer.unsignedTx template)

/-- What a template pays its change output, and what it leaves as the fee. -/
def changeOf (template : RegistrationTemplate) : Nat :=
  ((template.content.outputs.head?).map TxOutput.amount).getD 0

def feeOf (template : RegistrationTemplate) : Nat :=
  template.funding - (template.content.outputs.map TxOutput.amount).sum

/-- `buildSingletonRegistrationTx` on its options. -/
def buildSingleton (randomness : Nat) : Except String RegistrationTx :=
  match options.template signer with
  | .error message => .error message
  | .ok template =>
      match signer.sign options.keys template randomness with
      | .error message => .error message
      | .ok (rawHex, txid) =>
          .ok {
            rawHex
            txid
            fee := feeOf template
            change := changeOf template }

/-- The page's own calls leave the fee out. -/
theorem exportRegistrationPsbt_eq
    (keys : String) (utxo : RegistrationUtxo) (updateHash : Bytes)
    (network : NetworkName) :
    exportRegistrationPsbt signer keys utxo updateHash network =
      exportPsbt signer { keys, utxo, updateHash, network, fee := none } := by
  rfl

/-- A template is what the guards leave: a fee within the cap, change above
dust, and the hash in the last output. -/
structure Built (template : RegistrationTemplate) (fee : Nat) : Prop where
  feeIs : options.feeSats = fee
  positive : 0 < fee
  capped : fee ≤ maxRegistrationFeeSats
  funded : template.funding = options.utxo.value
  covered : fee + p2trDustSats ≤ options.utxo.value
  hashLength : options.updateHash.length = 32
  content :
    template.content =
      { inputs := [options.utxo.toOutpoint]
        outputs :=
          [.pays (signer.p2trScript options.keys options.network)
              (options.utxo.value - fee),
            .opReturn options.updateHash] }

variable {signer options}

theorem template_eq_ok
    {template : RegistrationTemplate}
    (made : options.template signer = .ok template) :
    ∃ fee, options.Built signer template fee := by
  unfold RegistrationTxOptions.template at made
  split at made
  · cases made
  · next positive =>
    unfold buildRegistrationTemplate at made
    split at made
    · cases made
    · next nonzero =>
      split at made
      · cases made
      · next capped =>
        split at made
        · cases made
        · next fits =>
          split at made
          · cases made
          · next length =>
            cases made
            have feeIs : options.feeSats = options.feeSats.toNat := by omega
            exact
              ⟨options.feeSats.toNat,
                { feeIs
                  positive := by omega
                  capped := Nat.le_of_not_lt capped
                  funded := rfl
                  covered := Nat.le_of_not_lt fits
                  hashLength := not_not.mp length
                  content := rfl }⟩

namespace Built

variable {template : RegistrationTemplate} {fee : Nat}

theorem amounts (built : options.Built signer template fee) :
    (template.content.outputs.map TxOutput.amount).sum =
      options.utxo.value - fee := by
  rw [built.content]
  simp [TxOutput.amount]

theorem feeOf_eq (built : options.Built signer template fee) :
    feeOf template = fee := by
  have covered := built.covered
  rw [feeOf, built.amounts, built.funded]
  omega

theorem changeOf_eq (built : options.Built signer template fee) :
    changeOf template = options.utxo.value - fee := by
  rw [changeOf, built.content]
  rfl

theorem changeScript_eq (built : options.Built signer template fee) :
    template.content.changeScript =
      signer.p2trScript options.keys options.network := by
  rw [TxContent.changeScript, built.content]
  rfl

end Built

end RegistrationTxOptions

end Paths

section Copies

/-! ## Signed copies -/

variable (library : PsbtLibrary)

/-- The signature stands in the key signature field, or a wallet has finalized
the input with it already. -/
def PsbtInputMap.Carries (input : PsbtInputMap) (sig : Bytes) : Prop :=
  input.tapKeySig = some sig ∨
    input.tapKeySig = none ∧ input.final = some (FinalInput.keyPath sig)

/-- The exported PSBT with a signature that verifies and commits to all
outputs. -/
structure SignedCopy
    (template : RegistrationTemplate) (psbt : Psbt) (sig : Bytes) : Prop where
  sameTransaction : psbt.unsignedTx = library.serialize template.content
  input :
    ∃ input,
      psbt.inputs = [input] ∧
        input.prevOut = (library.templateInput template).prevOut ∧
          input.Carries sig
  accepted : isAcceptedTapKeySig sig = true
  verifies : library.verifies psbt sig = true

variable {library}

theorem fee_of_declared
    {options : RegistrationTxOptions} {template : RegistrationTemplate}
    {fee : Nat} (built : options.Built library.signer template fee)
    {psbt : Psbt} {input : PsbtInputMap}
    (sameTransaction : psbt.unsignedTx = library.serialize template.content)
    (only : psbt.inputs = [input])
    (declared : input.prevOut = (library.templateInput template).prevOut) :
    psbt.fee library = some fee := by
  have covered := built.covered
  have read : library.content psbt.unsignedTx = some template.content := by
    rw [sameTransaction, library.content_serialize]
  have spent :
      psbt.inputs.mapM PsbtInputMap.prevOut =
        some
          [{ script := template.content.changeScript
             amount := template.funding }] := by
    rw [only, List.mapM_cons, declared]
    rfl
  simp only [Psbt.fee, read, spent, bind, Option.bind_some, built.amounts,
    built.funded, List.map_cons, List.map_nil, List.sum_cons, List.sum_nil]
  rw [if_pos (by omega)]
  congr 1
  omega

/-- An input declared as the template's own is finalized by its key
signature. -/
theorem finalize_of_keySig
    {options : RegistrationTxOptions} {template : RegistrationTemplate}
    {fee : Nat} (built : options.Built library.signer template fee)
    {psbt : Psbt} {input : PsbtInputMap} {sig : Bytes}
    (sameTransaction : psbt.unsignedTx = library.serialize template.content)
    (only : psbt.inputs = [input])
    (declared : input.prevOut = (library.templateInput template).prevOut)
    (signed : input.tapKeySig = some sig) :
    psbt.finalize library = some [FinalInput.keyPath sig] := by
  have taproot :
      library.isP2tr template.content.changeScript = true := by
    rw [built.changeScript_eq]
    exact library.isP2tr_p2trScript options.keys options.network
  have finalized := library.finalizeInput_keyPath input _ sig declared taproot
    signed
  rw [Psbt.finalize, fee_of_declared built sameTransaction only declared,
    Option.isSome_some, if_pos rfl, only, List.mapM_cons, finalized]
  rfl

/-- A readable PSBT of the template's transaction has one input map. -/
theorem exists_input_of_decode
    {options : RegistrationTxOptions} {template : RegistrationTemplate}
    {fee : Nat} (built : options.Built library.signer template fee)
    {bytes : Bytes} {psbt : Psbt} (decoded : library.decode bytes = some psbt)
    (sameTransaction : psbt.unsignedTx = library.serialize template.content) :
    ∃ input, psbt.inputs = [input] := by
  have writable := library.writable_of_decode bytes psbt decoded
  have read : library.content psbt.unsignedTx = some template.content := by
    rw [sameTransaction, library.content_serialize]
  have count : psbt.inputs.length = template.content.inputs.length :=
    writable.1 _ read
  rw [built.content] at count
  exact List.length_eq_one_iff.mp count

/-- What a PSBT that passes was read as. -/
structure PassedPsbt
    (library : PsbtLibrary) (bytes : Bytes) (templateHex : String)
    (expectedFeeSats : Nat) (network : NetworkName) (psbt : Psbt) (sig : Bytes)
    (finals : List FinalInput) (accepted : AcceptedPsbt) : Prop where
  decoded : library.decode bytes = some psbt
  sameTransaction : psbt.unsignedTx = templateHex
  signed : psbt.tapKeySig = some sig
  acceptedSig : isAcceptedTapKeySig sig = true
  feeRead : psbt.fee library = some accepted.feeSats
  inBand : accepted.feeSats ≤ expectedFeeSats
  finalized : psbt.finalize library = some finals
  rawHex : accepted.rawHex = library.extract templateHex finals
  txid :
    accepted.txid =
      library.txid templateHex (finals.map FinalInput.scriptSig)

theorem passed_of_validateSignedPsbt
    {bytes : Bytes} {templateHex : String} {expectedFeeSats : Nat}
    {network : NetworkName} {accepted : AcceptedPsbt}
    (passed :
      validateSignedPsbt library.signer bytes templateHex expectedFeeSats
          network =
        .ok accepted) :
    ∃ psbt sig finals,
      PassedPsbt library bytes templateHex expectedFeeSats network psbt sig
        finals accepted := by
  unfold validateSignedPsbt at passed
  split at passed
  · cases passed
  · next read parsed =>
    obtain ⟨psbt, decoded, rfl⟩ := Option.map_eq_some_iff.mp parsed
    split at passed
    · cases passed
    · next sameBytes =>
      split at passed
      · cases passed
      · next sig signed =>
        split at passed
        · cases passed
        · next acceptedSig =>
          split at passed
          · cases passed
          · next fee feeRead =>
            split at passed
            · cases passed
            · next inBand =>
              split at passed
              · cases passed
              · next rawHex txid finalized =>
                cases passed
                obtain ⟨finals, finalizes, extracted⟩ :=
                  Option.map_eq_some_iff.mp finalized
                cases extracted
                have sameTransaction : psbt.unsignedTx = templateHex :=
                  not_not.mp sameBytes
                exact
                  ⟨psbt, sig, finals,
                    { decoded
                      sameTransaction
                      signed
                      acceptedSig := by simpa using acceptedSig
                      feeRead
                      inBand := Nat.le_of_not_lt inBand
                      finalized := finalizes
                      rawHex := by rw [← sameTransaction]
                      txid := by rw [← sameTransaction] }⟩

theorem fromPsbt_of_decoded
    {bytes : Bytes} {psbt : Psbt} (network : NetworkName)
    (decoded : library.decode bytes = some psbt) :
    library.signer.fromPsbt bytes network =
      some (psbt.parsed library network) := by
  have mapped :
      library.signer.fromPsbt bytes network =
        (library.decode bytes).map (Psbt.parsed library network) :=
    rfl
  rw [mapped, decoded]
  rfl

/-- A PSBT that meets every check passes. -/
theorem validateSignedPsbt_of_checks
    {bytes : Bytes} {expectedFeeSats : Nat} (network : NetworkName)
    {psbt : Psbt} {sig : Bytes} {fee : Nat} {finals : List FinalInput}
    (decoded : library.decode bytes = some psbt)
    (signed : psbt.tapKeySig = some sig)
    (acceptedSig : isAcceptedTapKeySig sig = true)
    (feeRead : psbt.fee library = some fee) (inBand : fee ≤ expectedFeeSats)
    (finalized : psbt.finalize library = some finals) :
    ∃ accepted,
      validateSignedPsbt library.signer bytes psbt.unsignedTx expectedFeeSats
            network =
          .ok accepted ∧
        accepted.txid =
          library.txid psbt.unsignedTx (finals.map FinalInput.scriptSig) := by
  have parses := fromPsbt_of_decoded network decoded
  refine
    ⟨{ feeSats := fee
       paysSats := ((psbt.firstOutput library).map TxOutput.amount).getD 0
       toAddress := psbt.toAddress library network
       rawHex := (psbt.extracted library finals).1
       txid := (psbt.extracted library finals).2 }, ?_, rfl⟩
  simp only [validateSignedPsbt, parses, Psbt.parsed, signed, acceptedSig,
    feeRead, finalized, Option.map_some, ne_eq, not_true_eq_false, if_false,
    Bool.true_eq_false, Nat.not_lt.mpr inBand]

/-- What is not signed in the key signature field is refused as unsigned. -/
theorem validateSignedPsbt_of_bare
    {bytes : Bytes} (expectedFeeSats : Nat) (network : NetworkName)
    {psbt : Psbt} (decoded : library.decode bytes = some psbt)
    (bare : psbt.tapKeySig = none) :
    validateSignedPsbt library.signer bytes psbt.unsignedTx expectedFeeSats
        network =
      .refused .unsigned := by
  have parses := fromPsbt_of_decoded network decoded
  simp only [validateSignedPsbt, parses, Psbt.parsed, bare, ne_eq,
    not_true_eq_false, if_false]

end Copies

section Law

/-! ## The law of the two paths -/

variable (library : PsbtLibrary) (options : RegistrationTxOptions)

/-- Both paths refuse, or both make one transaction within the bounds. -/
def SameTransaction (randomness : Nat) : Prop :=
  ((∃ reason, options.exportPsbt library.signer = .error reason) ∧
      ∃ reason,
        options.buildSingleton library.signer randomness = .error reason) ∨
    ∃ psbt templateHex transaction fee content,
      options.exportPsbt library.signer =
          .ok (library.baseEncode (library.encode psbt), templateHex) ∧
        options.buildSingleton library.signer randomness = .ok transaction ∧
        options.feeSats = Nat.cast fee ∧
        0 < fee ∧ fee ≤ maxRegistrationFeeSats ∧
        transaction.fee = fee ∧
        transaction.change + fee = options.utxo.value ∧
        p2trDustSats ≤ transaction.change ∧
        library.content templateHex = some content ∧
        content.outputs.getLast? = some (.opReturn options.updateHash) ∧
        psbt.unsignedTx = templateHex ∧
        library.stripWitness transaction.rawHex = templateHex ∧
        transaction.txid = library.txid templateHex [[]]

/-- The verdict on some bytes against the exported template. -/
def verdict (template : RegistrationTemplate) (bytes : Bytes) : PsbtVerdict :=
  validateSignedPsbt library.signer bytes (library.serialize template.content)
    options.feeSats.toNat options.network

/-- What passes is the template with one accepted key signature and nothing
else, and every correctly signed copy passes. -/
def JudgedRight (bytes : Bytes) : Prop :=
  ∀ template,
    options.template library.signer = .ok template →
      (∀ accepted,
        verdict library options template bytes = .ok accepted →
          ∃ psbt sig,
            library.decode bytes = some psbt ∧
              psbt.unsignedTx = library.serialize template.content ∧
              isAcceptedTapKeySig sig = true ∧
              psbt.finalize library = some [FinalInput.keyPath sig] ∧
              accepted.rawHex =
                library.extract (library.serialize template.content)
                  [FinalInput.keyPath sig]) ∧
        ∀ psbt sig,
          library.decode bytes = some psbt →
            SignedCopy library template psbt sig →
              ∃ accepted,
                verdict library options template bytes = .ok accepted ∧
                  accepted.txid =
                    library.txid (library.serialize template.content) [[]]

/-- Where the bytes are a PSBT of the template's transaction: an input that
declares another script than Taproot, with an accepted key signature and a fee
within the band, cannot be finalized; and a signed copy carries its signature
in the key signature field. -/
def KeepsForm (bytes : Bytes) : Prop :=
  ∀ template psbt input,
    options.template library.signer = .ok template →
      library.decode bytes = some psbt →
        psbt.unsignedTx = library.serialize template.content →
          psbt.inputs = [input] →
            (∀ prevOut sig fee,
              input.prevOut = some prevOut →
                library.isP2tr prevOut.script = false →
                  input.tapKeySig = some sig →
                    isAcceptedTapKeySig sig = true →
                      psbt.fee library = some fee →
                        fee ≤ options.feeSats.toNat →
                          library.finalizeInput input = none) ∧
              ∀ sig,
                SignedCopy library template psbt sig →
                  input.tapKeySig = some sig

variable {library options}

theorem sameTransaction (randomness : Nat) :
    SameTransaction library options randomness := by
  cases made : options.template library.signer with
  | error reason =>
      refine Or.inl ⟨⟨reason, ?_⟩, ⟨reason, ?_⟩⟩
      · simp only [RegistrationTxOptions.exportPsbt, made]
      · simp only [RegistrationTxOptions.buildSingleton, made]
  | ok template =>
      obtain ⟨fee, built⟩ := RegistrationTxOptions.template_eq_ok made
      let unsigned := library.templatePsbt template
      let sig := library.signInput options.keys unsigned randomness
      have finalized :
          (unsigned.withTapKeySig sig).finalize library =
            some [FinalInput.keyPath sig] :=
        finalize_of_keySig built rfl rfl rfl rfl
      have signed :
          library.signer.sign options.keys template randomness =
            .ok
              ((unsigned.withTapKeySig sig).extracted library
                [FinalInput.keyPath sig]) := by
        have unfolded :
            library.signer.sign options.keys template randomness =
              library.signTemplate options.keys template randomness :=
          rfl
        rw [unfolded, PsbtLibrary.signTemplate]
        simp only [unsigned, sig] at finalized ⊢
        rw [finalized]
      let extracted :=
        (unsigned.withTapKeySig sig).extracted library [FinalInput.keyPath sig]
      refine Or.inr
        ⟨unsigned, library.serialize template.content,
          { rawHex := extracted.1
            txid := extracted.2
            fee := RegistrationTxOptions.feeOf template
            change := RegistrationTxOptions.changeOf template },
          fee, template.content,
          ?_, ?_, built.feeIs, built.positive, built.capped,
          built.feeOf_eq, ?_, ?_, library.content_serialize _, ?_, rfl,
          library.stripWitness_extract _ _, rfl⟩
      · simp only [RegistrationTxOptions.exportPsbt, made]
        rfl
      · simp only [RegistrationTxOptions.buildSingleton, made, signed]
        rfl
      · have covered := built.covered
        simp only [built.changeOf_eq]
        omega
      · have covered := built.covered
        simp only [built.changeOf_eq]
        omega
      · rw [built.content]
        rfl

theorem JudgedRight.keepsForm
    {bytes : Bytes} (judged : JudgedRight library options bytes) :
    KeepsForm library options bytes := by
  intro template psbt input made decoded same only
  obtain ⟨passes, copies⟩ := judged template made
  constructor
  · intro prevOut sig fee declared other signed acceptedSig feeRead inBand
    by_contra finalizes
    obtain ⟨final, finalized⟩ := Option.ne_none_iff_exists'.mp finalizes
    have keySig : psbt.tapKeySig = some sig := by
      rw [Psbt.tapKeySig, only]
      exact signed
    have finals : psbt.finalize library = some [final] := by
      rw [Psbt.finalize, feeRead, Option.isSome_some, if_pos rfl, only,
        List.mapM_cons, finalized]
      rfl
    obtain ⟨accepted, ok, _⟩ :=
      validateSignedPsbt_of_checks options.network decoded keySig acceptedSig
        feeRead inBand finals
    have ok' : verdict library options template bytes = .ok accepted := by
      rw [verdict, ← same]
      exact ok
    obtain ⟨read, keyPathSig, readAs, _, _, single, _⟩ := passes accepted ok'
    have sameRead : read = psbt :=
      Option.some.inj (readAs.symm.trans decoded)
    rw [sameRead, finals] at single
    have shape : final = FinalInput.keyPath keyPathSig := by
      simpa using single
    exact
      library.finalizeInput_other input prevOut final declared other finalized
        keyPathSig shape
  · intro sig copy
    obtain ⟨input', only', _, carried⟩ := copy.input
    have sameInput : input' = input := by
      rw [only] at only'
      simpa using only'.symm
    rw [sameInput] at carried
    apply carried.resolve_right
    intro bareFinal
    obtain ⟨bare, _⟩ := bareFinal
    obtain ⟨accepted, ok, _⟩ := copies psbt sig decoded copy
    have noKeySig : psbt.tapKeySig = none := by
      rw [Psbt.tapKeySig, only]
      exact bare
    have refused :=
      validateSignedPsbt_of_bare options.feeSats.toNat options.network decoded
        noKeySig
    rw [verdict, ← same, refused] at ok
    cases ok

theorem KeepsForm.judgedRight
    {bytes : Bytes} (keeps : KeepsForm library options bytes) :
    JudgedRight library options bytes := by
  intro template made
  obtain ⟨fee, built⟩ := RegistrationTxOptions.template_eq_ok made
  constructor
  · intro accepted ok
    obtain ⟨psbt, sig, finals, passed⟩ := passed_of_validateSignedPsbt ok
    obtain ⟨input, only⟩ :=
      exists_input_of_decode built passed.decoded passed.sameTransaction
    have signed : input.tapKeySig = some sig := by
      have keySig := passed.signed
      rw [Psbt.tapKeySig, only] at keySig
      exact keySig
    have finalizes : psbt.finalize library = some finals := passed.finalized
    have single : psbt.finalize library = some [FinalInput.keyPath sig] := by
      rw [Psbt.finalize, passed.feeRead, Option.isSome_some, if_pos rfl, only,
        List.mapM_cons] at finalizes ⊢
      have formed := keeps template psbt input made passed.decoded
        passed.sameTransaction only
      cases declared : input.prevOut with
      | none =>
          rw [library.finalizeInput_undeclared input declared] at finalizes
          cases finalizes
      | some prevOut =>
          cases taproot : library.isP2tr prevOut.script with
          | true =>
              rw [library.finalizeInput_keyPath input prevOut sig declared
                taproot signed]
              rfl
          | false =>
              have unfinalized :=
                formed.1 prevOut sig accepted.feeSats declared taproot signed
                  passed.acceptedSig passed.feeRead passed.inBand
              rw [unfinalized] at finalizes
              cases finalizes
    have sameFinals : finals = [FinalInput.keyPath sig] :=
      Option.some.inj (finalizes.symm.trans single)
    exact
      ⟨psbt, sig, passed.decoded, passed.sameTransaction, passed.acceptedSig,
        single, by rw [passed.rawHex, sameFinals]⟩
  · intro psbt sig decoded copy
    obtain ⟨input, only, declared, _⟩ := copy.input
    have signed : input.tapKeySig = some sig :=
      (keeps template psbt input made decoded copy.sameTransaction only).2 sig
        copy
    have keySig : psbt.tapKeySig = some sig := by
      rw [Psbt.tapKeySig, only]
      exact signed
    have feeRead : psbt.fee library = some fee :=
      fee_of_declared built copy.sameTransaction only declared
    have finals : psbt.finalize library = some [FinalInput.keyPath sig] :=
      finalize_of_keySig built copy.sameTransaction only declared signed
    have inBand : fee ≤ options.feeSats.toNat := by
      have feeIs := built.feeIs
      omega
    obtain ⟨accepted, ok, txid⟩ :=
      validateSignedPsbt_of_checks options.network decoded keySig copy.accepted
        feeRead inBand finals
    refine ⟨accepted, ?_, ?_⟩
    · rw [verdict, ← copy.sameTransaction]
      exact ok
    · rw [txid, copy.sameTransaction]
      rfl

/-- Both paths make one transaction, and the verdict is right on exactly the
bytes that keep the form. -/
theorem sameTransaction_and_judgedRight_iff
    (library : PsbtLibrary) (options : RegistrationTxOptions)
    (randomness : Nat) (bytes : Bytes) :
    SameTransaction library options randomness ∧
        JudgedRight library options bytes ↔
      KeepsForm library options bytes := by
  constructor
  · intro both
    exact both.2.keepsForm
  · intro keeps
    exact ⟨sameTransaction randomness, keeps.judgedRight⟩

end Law

section Numbered

/-! ## A library that numbers what it writes -/

deriving instance Encodable for PrevOut

deriving instance Encodable for FinalInput

deriving instance Encodable for PsbtInputMap

deriving instance Encodable for Psbt

def contentOf (unsignedHex : String) : Option TxContent :=
  Encodable.decode unsignedHex.length

instance (psbt : Psbt) : Decidable (psbt.Writable contentOf) :=
  inferInstanceAs (Decidable (_ ∧ _))

/-- A Taproot script begins with its version and a push of 32 bytes. -/
def hasTaprootPrefix (script : String) : Bool :=
  "5120".toList.isPrefixOf script.toList

theorem hasTaprootPrefix_append (keys : String) :
    hasTaprootPrefix ("5120" ++ keys) = true := by
  rw [hasTaprootPrefix, String.toList_append, List.isPrefixOf_iff_prefix]
  exact List.prefix_append _ _

/-- An input that declares a key hash holds in its other fields a public key
and a signature under it. -/
def finalizeByScript (input : PsbtInputMap) : Option FinalInput :=
  match input.prevOut with
  | none => none
  | some prevOut =>
      if hasTaprootPrefix prevOut.script then
        input.tapKeySig.map FinalInput.keyPath
      else if input.others.length ≤ 33 then
        none
      else
        some
          { scriptSig := []
            witness := [input.others.drop 33, input.others.take 33] }

/-- What the library writes is its number: of tally marks in a text, of bytes in
a PSBT. -/
def numberedLibrary : PsbtLibrary where
  p2trScript keys _ := "5120" ++ keys
  isP2tr := hasTaprootPrefix
  tapInternalKey script := script.toUTF8.toList.drop 4
  addressOf script _ := some script
  serialize transaction := tallyMarks (Encodable.encode transaction)
  content := contentOf
  encode psbt := List.replicate (Encodable.encode psbt) 0
  decode bytes :=
    (Encodable.decode bytes.length).filter fun psbt : Psbt =>
      decide (psbt.Writable contentOf)
  baseEncode := ByteText.hex
  baseDecode := ByteText.ofHex?
  signInput secret psbt randomness :=
    List.replicate 64
      (UInt8.ofNat (secret.length + psbt.inputs.length + randomness))
  verifies _ sig := isTapKeySigSize sig
  finalizeInput := finalizeByScript
  extract unsignedTx finals := tallyMarks (Encodable.encode (unsignedTx, finals))
  stripWitness rawHex :=
    ((Encodable.decode rawHex.length).map
      (Prod.fst (α := String) (β := List FinalInput))).getD ""
  txid unsignedTx scriptSigs := tallyMarks (Encodable.encode (unsignedTx, scriptSigs))
  isP2tr_p2trScript keys _ := hasTaprootPrefix_append keys
  content_serialize transaction := by
    rw [contentOf, length_tallyMarks, Encodable.encodek]
  decode_encode psbt writable := by
    rw [List.length_replicate, Encodable.encodek]
    simpa using writable
  writable_of_decode bytes psbt decoded := by
    have kept := (Option.filter_eq_some_iff.mp decoded).2
    simpa using kept
  length_signInput secret psbt randomness := List.length_replicate
  finalizeInput_keyPath input prevOut sig declared taproot signed := by
    simp only [finalizeByScript, declared, taproot, signed, if_true,
      Option.map_some]
  finalizeInput_other input prevOut final declared other finalized := by
    simp only [finalizeByScript, declared, other, Bool.false_eq_true,
      if_false] at finalized
    split at finalized
    · cases finalized
    · cases finalized
      simp [FinalInput.keyPath]
  finalizeInput_undeclared input declared := by
    simp only [finalizeByScript, declared]
  stripWitness_extract unsignedTx finals := by
    rw [length_tallyMarks, Encodable.encodek]
    rfl

/-- A registration of one coin at the default fee. -/
def sampleOptions : RegistrationTxOptions where
  keys := "79be667ef9dcbbac55a06295ce870b07029bfcdb2dce28d959f2815b16f81798"
  utxo :=
    { txid := "4a5e1e4baab89f3a32518a88c31bc87f618f76673e2cc77ab2127b7afdeda33b"
      vout := 0
      value := 100000 }
  updateHash := List.replicate 32 7
  network := .bitcoin
  fee := none

def sampleTemplate : RegistrationTemplate where
  content :=
    { inputs := [sampleOptions.utxo.toOutpoint]
      outputs :=
        [.pays (numberedLibrary.p2trScript sampleOptions.keys .bitcoin) 99000,
          .opReturn sampleOptions.updateHash] }
  funding := 100000

theorem sampleOptions_template :
    sampleOptions.template numberedLibrary.signer = .ok sampleTemplate := by
  have feeIs : sampleOptions.feeSats = 1000 := by
    rfl
  have length : sampleOptions.updateHash.length = 32 := by
    rfl
  have value : sampleOptions.utxo.value = 100000 := by
    rfl
  rw [RegistrationTxOptions.template, feeIs, if_neg (by decide),
    buildRegistrationTemplate, if_neg (by decide), if_neg (by decide), value,
    if_neg (by decide), if_neg (not_not.mpr length)]
  rfl

/-- An input that declares a key hash, signed for it, with 64 bytes in the key
signature field that nothing binds. -/
def keyHashInput : PsbtInputMap where
  prevOut :=
    some
      { script := "0014751e76e8199196d454941c45d1b3a323f1433bd6"
        amount := 100000 }
  tapKeySig := some (List.replicate 64 0)
  final := none
  others := List.replicate 105 2

/-- The template's own witness-free bytes over that input. -/
def keyHashPsbt : Psbt where
  unsignedTx := numberedLibrary.serialize sampleTemplate.content
  inputs := [keyHashInput]

theorem keyHashPsbt_decoded :
    numberedLibrary.decode (numberedLibrary.encode keyHashPsbt) =
      some keyHashPsbt := by
  apply numberedLibrary.decode_encode
  constructor
  · intro transaction read
    have content :
        numberedLibrary.content keyHashPsbt.unsignedTx =
          some sampleTemplate.content :=
      numberedLibrary.content_serialize sampleTemplate.content
    have same := Option.some.inj (content.symm.trans read)
    rw [← same]
    rfl
  · intro input mem
    rw [List.mem_singleton.mp mem]
    decide

theorem keyHashPsbt_fee :
    keyHashPsbt.fee numberedLibrary = some 1000 := by
  have content :
      numberedLibrary.content keyHashPsbt.unsignedTx =
        some sampleTemplate.content :=
    numberedLibrary.content_serialize sampleTemplate.content
  rw [Psbt.fee, content]
  rfl

/-- It passes, and what would be broadcast carries the other witness. -/
theorem keyHashPsbt_passes :
    ¬(SameTransaction numberedLibrary sampleOptions 0 ∧
        JudgedRight numberedLibrary sampleOptions
          (numberedLibrary.encode keyHashPsbt)) := by
  intro both
  have keeps := both.2.keepsForm
  have formed :=
    keeps sampleTemplate keyHashPsbt keyHashInput sampleOptions_template
      keyHashPsbt_decoded rfl rfl
  have acceptedSig : isAcceptedTapKeySig (List.replicate 64 0) = true := by
    simp [isAcceptedTapKeySig]
  have unfinalized : finalizeByScript keyHashInput = none :=
    formed.1 _ _ 1000 rfl (by decide) rfl acceptedSig keyHashPsbt_fee (by decide)
  have finalized : (finalizeByScript keyHashInput).isSome = true := by
    rfl
  rw [unfinalized] at finalized
  cases finalized

end Numbered

end Btcr2Aggregation
