import Btcr2Aggregation.Shared.Registration

/-!
# The verdict on a returned PSBT

The page hands out an unsigned PSBT and judges what comes back against the
witness-free bytes it handed out.  A verdict that lets a transaction through
lets through those bytes and no others.
-/

namespace Btcr2Aggregation

inductive PsbtRefusal where
  | unparseable
  | mismatched
  | unsigned
  | badSighash
  | feeOutOfBand (feeSats : Nat)
  deriving DecidableEq, Repr

structure AcceptedPsbt where
  feeSats : Nat
  paysSats : Nat
  toAddress : Option String
  rawHex : String
  txid : String
  deriving DecidableEq, Repr

/-- `PsbtVerdict`. -/
inductive PsbtVerdict where
  | ok (accepted : AcceptedPsbt)
  | refused (reason : PsbtRefusal)
  deriving DecidableEq, Repr

/-- 64 bytes carry no flag, which is `SIGHASH_DEFAULT`; of 65 only
`SIGHASH_ALL` passes. -/
def isAcceptedTapKeySig (sig : Bytes) : Bool :=
  sig.length = 64 ∨ (sig.length = 65 ∧ sig[64]? = some 1)

def validateSignedPsbt
    (signer : BtcSigner) (psbtBytes : Bytes) (templateHex : String)
    (expectedFeeSats : Nat) (network : NetworkName) : PsbtVerdict :=
  match signer.fromPsbt psbtBytes network with
  | none => .refused .unparseable
  | some psbt =>
      if psbt.unsignedTx ≠ templateHex then
        .refused .mismatched
      else
        match psbt.tapKeySig with
        | none => .refused .unsigned
        | some sig =>
            if isAcceptedTapKeySig sig = false then
              .refused .badSighash
            else
              match psbt.fee with
              | none => .refused .unparseable
              | some fee =>
                  if expectedFeeSats < fee then
                    .refused (.feeOutOfBand fee)
                  else
                    match psbt.finalized with
                    | none => .refused .unparseable
                    | some (rawHex, txid) =>
                        .ok {
                          feeSats := fee
                          paysSats := psbt.paysSats
                          toAddress := psbt.toAddress
                          rawHex
                          txid }

/-- What passes is the template that went out, with a signature that binds its
outputs and a fee within the band. -/
theorem validateSignedPsbt_ok
    {signer : BtcSigner} {psbtBytes : Bytes} {templateHex : String}
    {expectedFeeSats : Nat} {network : NetworkName} {accepted : AcceptedPsbt}
    (passed :
      validateSignedPsbt signer psbtBytes templateHex expectedFeeSats network =
        .ok accepted) :
    signer.stripWitness accepted.rawHex = templateHex ∧
      accepted.feeSats ≤ expectedFeeSats ∧
        ∃ psbt sig,
          signer.fromPsbt psbtBytes network = some psbt ∧
            psbt.tapKeySig = some sig ∧ isAcceptedTapKeySig sig = true := by
  unfold validateSignedPsbt at passed
  split at passed
  · cases passed
  · next psbt parsed =>
    split at passed
    · cases passed
    · next sameBytes =>
      split at passed
      · cases passed
      · next sig signed =>
        split at passed
        · cases passed
        · next acceptedSig =>
          split at passed
          · cases passed
          · next fee _ =>
            split at passed
            · cases passed
            · next inBand =>
              split at passed
              · cases passed
              · next rawHex txid finalized =>
                cases passed
                have stripped :=
                  signer.stripWitness_finalized _ _ _ _ _ parsed finalized
                refine
                  ⟨?_, Nat.le_of_not_lt inBand, psbt, sig, parsed, signed, ?_⟩
                · exact stripped.trans (not_not.mp sameBytes)
                · simpa using acceptedSig

/-- A flag byte other than `SIGHASH_ALL` never passes. -/
theorem isAcceptedTapKeySig_iff (sig : Bytes) :
    isAcceptedTapKeySig sig = true ↔
      sig.length = 64 ∨ ∃ body : Bytes, body.length = 64 ∧ sig = body ++ [1] := by
  simp only [isAcceptedTapKeySig, decide_eq_true_eq]
  constructor
  · rintro (short | ⟨long, flag⟩)
    · exact Or.inl short
    · refine Or.inr ⟨sig.take 64, by simp [long], ?_⟩
      have parts := List.take_append_drop 64 sig
      have last : sig.drop 64 = [1] := by
        rw [List.drop_eq_getElem_cons (by omega)]
        rw [List.getElem?_eq_getElem (by omega)] at flag
        have rest : sig.drop (64 + 1) = [] :=
          List.drop_eq_nil_of_le (by omega)
        rw [rest, Option.some.inj flag]
      rw [last] at parts
      exact parts.symm
  · rintro (short | ⟨body, length, rfl⟩)
    · exact Or.inl short
    · refine Or.inr ⟨by simp [length], ?_⟩
      rw [List.getElem?_append_right (by omega)]
      simp [length]

end Btcr2Aggregation
