import Btcr2Aggregation.Shared.Cohort
import Btcr2Aggregation.Library.ByteText
import Btcr2Aggregation.Library.JsString
import Mathlib.Logic.Equiv.List
import Mathlib.Tactic.DeriveEncodable

/-!
# The first-update registration transaction

One input, change back to the beacon address first, the update hash in an
`OP_RETURN` last.  Scripts, serialisation and signatures are the signer
library's; what the code relies on there is carried by `BtcSigner` as fields.
-/

namespace Btcr2Aggregation

section Transactions

/-! ## Transactions -/

structure Outpoint where
  txid : String
  vout : Nat
  deriving DecidableEq, Repr

/-- A UTXO as the chain source answers it. -/
structure RegistrationUtxo extends Outpoint where
  value : Nat
  deriving DecidableEq, Repr

inductive TxOutput where
  | pays (script : String) (amount : Nat)
  | opReturn (data : Bytes)
  deriving DecidableEq, Repr

/-- What the witness-free bytes of a transaction say. -/
structure TxContent where
  inputs : List Outpoint
  outputs : List TxOutput
  deriving DecidableEq, Repr

/-- The update hash a resolver reads off a transaction: it looks at the last
output alone. -/
def TxContent.signal? (content : TxContent) : Option Bytes :=
  match content.outputs.getLast? with
  | some (.opReturn data) => some data
  | _ => none

/-- An unsigned transaction: its content, and the amount of the coin it
spends. -/
structure RegistrationTemplate where
  content : TxContent
  funding : Nat
  deriving DecidableEq, Repr

/-- A returned PSBT as the library reads it.  `fee` is `none` where reading it
throws, and `finalized` where finalizing or extracting does. -/
structure ParsedPsbt where
  unsignedTx : String
  tapKeySig : Option Bytes
  fee : Option Nat
  paysSats : Nat
  toAddress : Option String
  finalized : Option (String × String)
  deriving DecidableEq, Repr

/-- The signer library.  The witness-free bytes determine what a transaction
spends and pays; signing and finalizing change the witness alone. -/
structure BtcSigner where
  p2trScript : String → NetworkName → String
  unsignedTx : RegistrationTemplate → String
  toPsbt : RegistrationTemplate → Bytes
  sign : String → RegistrationTemplate → Nat → Except String (String × String)
  fromPsbt : Bytes → NetworkName → Option ParsedPsbt
  baseEncode : Bytes → String
  baseDecode : String → Option Bytes
  stripWitness : String → String
  content : String → Option TxContent
  content_unsignedTx :
    ∀ template, content (unsignedTx template) = some template.content
  stripWitness_sign :
    ∀ secret template randomness rawHex txid,
      sign secret template randomness = .ok (rawHex, txid) →
        stripWitness rawHex = unsignedTx template
  stripWitness_finalized :
    ∀ bytes network psbt rawHex txid,
      fromPsbt bytes network = some psbt →
        psbt.finalized = some (rawHex, txid) →
          stripWitness rawHex = psbt.unsignedTx

end Transactions

section Templates

/-! ## The template and its two uses -/

def registrationFeeSats : Nat := 1000

def p2trDustSats : Nat := 330

def minRegistrationFundingSats : Nat := registrationFeeSats + p2trDustSats

def maxRegistrationFeeSats : Nat := 20000

def zeroFeeError (fee : Nat) : String :=
  "fee must be positive, got " ++ toString fee ++
    " sats (a zero-fee tx never relays)"

def feeCapError (fee : Nat) : String :=
  "fee " ++ toString fee ++ " sats exceeds the " ++
    toString maxRegistrationFeeSats ++ "-sat registration cap; " ++
    "a ~150 vB registration tx never needs this much - " ++
    "refusing to burn the funding UTXO"

def smallUtxoError (value fee : Nat) : String :=
  "funding UTXO (" ++ toString value ++
    " sats) is too small; fund the beacon address with at least " ++
    toString (fee + p2trDustSats) ++ " sats"

def hashLengthError (length : Nat) : String :=
  "updateHash must be 32 bytes, got " ++ toString length

variable (signer : BtcSigner)

def buildRegistrationTemplate
    (keys : String) (utxo : RegistrationUtxo) (updateHash : Bytes)
    (network : NetworkName) (fee : Nat) :
    Except String RegistrationTemplate :=
  if fee = 0 then
    .error (zeroFeeError fee)
  else if maxRegistrationFeeSats < fee then
    .error (feeCapError fee)
  else if utxo.value < fee + p2trDustSats then
    .error (smallUtxoError utxo.value fee)
  else if updateHash.length ≠ 32 then
    .error (hashLengthError updateHash.length)
  else
    let script := signer.p2trScript keys network
    .ok {
      content := {
        inputs := [utxo.toOutpoint]
        outputs := [.pays script (utxo.value - fee), .opReturn updateHash] }
      funding := utxo.value }

/-- `exportRegistrationPsbt`: the PSBT in base64 and the template's
witness-free bytes. -/
def exportRegistrationPsbt
    (keys : String) (utxo : RegistrationUtxo) (updateHash : Bytes)
    (network : NetworkName) : Except String (String × String) :=
  match
    buildRegistrationTemplate signer keys utxo updateHash network
      registrationFeeSats with
  | .error message => .error message
  | .ok template =>
      .ok
        (signer.baseEncode (signer.toPsbt template), signer.unsignedTx template)

/-- `buildSingletonRegistrationTx`: the raw transaction and its id. -/
def buildSingletonRegistrationTx
    (keys : String) (utxo : RegistrationUtxo) (updateHash : Bytes)
    (network : NetworkName) (randomness : Nat) :
    Except String (String × String) :=
  match
    buildRegistrationTemplate signer keys utxo updateHash network
      registrationFeeSats with
  | .error message => .error message
  | .ok template => signer.sign keys template randomness

variable {signer}

/-- Every template spends the given coin alone, ends in the given hash, and
pays the rest of the coin but the fee back. -/
theorem buildRegistrationTemplate_ok
    {keys : String} {utxo : RegistrationUtxo} {updateHash : Bytes}
    {network : NetworkName} {fee : Nat} {template : RegistrationTemplate}
    (built :
      buildRegistrationTemplate signer keys utxo updateHash network fee =
        .ok template) :
    template.content.inputs = [utxo.toOutpoint] ∧
      template.content.signal? = some updateHash ∧
        ∃ change,
          template.content.outputs.head? =
              some (.pays (signer.p2trScript keys network) change) ∧
            change + fee = template.funding ∧ p2trDustSats ≤ change := by
  unfold buildRegistrationTemplate at built
  split at built
  · cases built
  · split at built
    · cases built
    · split at built
      · cases built
      · next fits =>
        split at built
        · cases built
        · cases built
          have covers : fee + p2trDustSats ≤ utxo.value :=
            Nat.le_of_not_lt fits
          refine ⟨rfl, rfl, utxo.value - fee, rfl, ?_, ?_⟩
          · exact Nat.sub_add_cancel (Nat.le_trans (Nat.le_add_right _ _) covers)
          · exact Nat.le_sub_of_add_le (by omega)

/-- Witness-free bytes that spend `outpoint` alone and announce `updateHash`. -/
def Registers
    (signer : BtcSigner) (outpoint : Outpoint) (updateHash : Bytes)
    (unsignedHex : String) : Prop :=
  ∃ content,
    signer.content unsignedHex = some content ∧
      content.inputs = [outpoint] ∧ content.signal? = some updateHash

theorem Registers.unique
    {first second : Outpoint} {firstHash secondHash : Bytes}
    {unsignedHex : String}
    (one : Registers signer first firstHash unsignedHex)
    (other : Registers signer second secondHash unsignedHex) :
    first = second ∧ firstHash = secondHash := by
  obtain ⟨content, read, inputs, signal⟩ := one
  obtain ⟨same, readAgain, otherInputs, otherSignal⟩ := other
  obtain rfl : content = same := Option.some.inj (read.symm.trans readAgain)
  rw [inputs] at otherInputs
  rw [signal] at otherSignal
  exact ⟨(List.cons.inj otherInputs).1, Option.some.inj otherSignal⟩

theorem registers_unsignedTx
    {keys : String} {utxo : RegistrationUtxo} {updateHash : Bytes}
    {network : NetworkName} {fee : Nat} {template : RegistrationTemplate}
    (built :
      buildRegistrationTemplate signer keys utxo updateHash network fee =
        .ok template) :
    Registers signer utxo.toOutpoint updateHash (signer.unsignedTx template) := by
  obtain ⟨inputs, signal, -⟩ := buildRegistrationTemplate_ok built
  exact ⟨template.content, signer.content_unsignedTx template, inputs, signal⟩

theorem registers_of_exportRegistrationPsbt
    {keys : String} {utxo : RegistrationUtxo} {updateHash : Bytes}
    {network : NetworkName} {base64 templateHex : String}
    (exported :
      exportRegistrationPsbt signer keys utxo updateHash network =
        .ok (base64, templateHex)) :
    Registers signer utxo.toOutpoint updateHash templateHex := by
  unfold exportRegistrationPsbt at exported
  split at exported
  · cases exported
  · next template built =>
    cases exported
    exact registers_unsignedTx built

theorem registers_of_buildSingletonRegistrationTx
    {keys : String} {utxo : RegistrationUtxo} {updateHash : Bytes}
    {network : NetworkName} {randomness : Nat} {rawHex txid : String}
    (built :
      buildSingletonRegistrationTx signer keys utxo updateHash network
          randomness =
        .ok (rawHex, txid)) :
    Registers signer utxo.toOutpoint updateHash (signer.stripWitness rawHex) := by
  unfold buildSingletonRegistrationTx at built
  split at built
  · cases built
  · next template templateBuilt =>
    rw [signer.stripWitness_sign _ _ _ _ _ built]
    exact registers_unsignedTx templateBuilt

end Templates

section Numbered

/-! ## A signer that numbers contents -/

instance encodableUInt8 : Encodable UInt8 :=
  Encodable.ofLeftInverse UInt8.toFin UInt8.ofFin fun _ => rfl

instance encodableChar : Encodable Char :=
  Encodable.ofLeftInverse Char.toNat Char.ofNat Char.ofNat_toNat

instance encodableString : Encodable String :=
  Encodable.ofLeftInverse String.toList String.ofList
    fun _ => String.ofList_toList

deriving instance Encodable for Outpoint

deriving instance Encodable for TxOutput

deriving instance Encodable for TxContent

def tallyMarks (count : Nat) : String :=
  String.ofList (List.replicate count '1')

theorem length_tallyMarks (count : Nat) : (tallyMarks count).length = count := by
  rw [tallyMarks, String.length_ofList, List.length_replicate]

/-- The witness-free bytes of a content are its number in tally marks; a
signature puts one mark before them. -/
def numberedSigner : BtcSigner where
  p2trScript keys _ := keys
  unsignedTx template := tallyMarks (Encodable.encode template.content)
  toPsbt _ := []
  sign _ template _ :=
    .ok (tallyMarks (Encodable.encode template.content + 1), "txid")
  fromPsbt _ _ := none
  baseEncode _ := ""
  baseDecode _ := none
  stripWitness rawHex := tallyMarks (rawHex.length - 1)
  content unsignedHex := Encodable.decode unsignedHex.length
  content_unsignedTx template := by
    rw [length_tallyMarks, Encodable.encodek]
  stripWitness_sign _ template _ rawHex txid signed := by
    cases signed
    rw [length_tallyMarks, Nat.add_sub_cancel]
  stripWitness_finalized _ _ _ _ _ parsed := by
    cases parsed

end Numbered

end Btcr2Aggregation
