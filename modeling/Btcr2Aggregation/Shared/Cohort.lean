import Mathlib.Data.List.Basic

/-!
# The cross-package cohort vocabulary

Beacon types, networks, cohort phases and the cohort configuration every
package shares.  The phase sets are the ones the directory, the console and the
advertising code filter on; they deliberately differ, and the lemmas at the end
of the phase section say how they nest.
-/

namespace Btcr2Aggregation

/-- The id the library mints for a cohort or the app mints for a draft.  Only
equality of ids is ever used. -/
abbrev CohortId := Nat

/-- The aggregate beacon types. -/
inductive BeaconType where
  | casBeacon
  | smtBeacon
  deriving DecidableEq, Repr

namespace BeaconType

/-- The wire spelling. -/
def name : BeaconType → String
  | .casBeacon => "CASBeacon"
  | .smtBeacon => "SMTBeacon"

/-- `KNOWN_BEACON_TYPES.has(raw)`, handing back the known type. -/
def ofName? (raw : String) : Option BeaconType :=
  if raw = "CASBeacon" then
    some .casBeacon
  else if raw = "SMTBeacon" then
    some .smtBeacon
  else
    none

@[simp]
theorem ofName?_name (beaconType : BeaconType) :
    ofName? beaconType.name = some beaconType := by
  cases beaconType
  · rfl
  · rfl

end BeaconType

/-- The networks a service can target. -/
inductive NetworkName where
  | bitcoin
  | testnet3
  | testnet4
  | signet
  | mutinynet
  | regtest
  deriving DecidableEq, Repr

section Phases

/-! ## Phases -/

/-- The service-side phases of a cohort. -/
inductive CohortPhase where
  | created
  | advertised
  | cohortSet
  | collectingUpdates
  | updatesCollected
  | dataDistributed
  | validated
  | signingStarted
  | noncesCollected
  | awaitingPartialSigs
  | fallbackRequested
  | complete
  | failed
  deriving DecidableEq, Repr

/-- `OPEN_PHASES`: still discovering or gathering participants. -/
def openPhases : List CohortPhase :=
  [.advertised, .cohortSet, .collectingUpdates]

/-- `IN_FLIGHT_PHASES`: the roster is locked and the signing arc runs. -/
def inFlightPhases : List CohortPhase :=
  [.signingStarted, .noncesCollected, .awaitingPartialSigs, .updatesCollected,
    .dataDistributed, .validated, .fallbackRequested]

/-- `FINALIZABLE_PHASES`: a stalled signing round can still fall back. -/
def finalizablePhases : List CohortPhase :=
  [.signingStarted, .noncesCollected, .awaitingPartialSigs]

/-- `DISPLAY_PHASES`: what the public directory lists. -/
def displayPhases : List CohortPhase :=
  openPhases ++ inFlightPhases

theorem mem_displayPhases_of_open
    {phase : CohortPhase} (member : phase ∈ openPhases) :
    phase ∈ displayPhases :=
  List.mem_append_left _ member

theorem mem_displayPhases_of_inFlight
    {phase : CohortPhase} (member : phase ∈ inFlightPhases) :
    phase ∈ displayPhases :=
  List.mem_append_right _ member

/-- No phase is both joinable and in flight. -/
theorem notMem_inFlightPhases_of_open
    {phase : CohortPhase} (member : phase ∈ openPhases) :
    phase ∉ inFlightPhases := by
  revert member
  cases phase <;> decide

end Phases

section Config

/-! ## Cohort configuration -/

/-- The configuration a cohort is advertised with. -/
structure CohortConfig where
  beaconType : BeaconType
  minParticipants : Nat
  maxParticipants : Option Nat
  network : NetworkName
  recoveryKey : String
  recoverySequence : Nat
  fallbackThreshold : Option Nat
  deriving DecidableEq, Repr

namespace CohortConfig

/-- `config.fallbackThreshold ?? config.minParticipants`. -/
def threshold (config : CohortConfig) : Nat :=
  config.fallbackThreshold.getD config.minParticipants

/-- `config.maxParticipants ?? config.minParticipants`. -/
def capacity (config : CohortConfig) : Nat :=
  config.maxParticipants.getD config.minParticipants

end CohortConfig

/-- What the recovery leaf needs from the curve library: whether an x
coordinate lifts to a point, and the key a fresh throwaway pair would have. -/
structure RecoveryKeys where
  liftable : String → Bool
  throwaway : String

/-- `/^[0-9a-f]{64}$/i`. -/
def isHex64 (text : String) : Bool :=
  text.toList.length == 64 &&
    text.toList.all fun character =>
      character.isDigit ||
        ('a'.val ≤ character.toLower.val && character.toLower.val ≤ 'f'.val)

/-- The recovery-key guard of `buildCohortConfig`. -/
def checkRecoveryKey
    (keys : RecoveryKeys) : Option String → Except String Unit
  | none => .ok ()
  | some recoveryKey =>
      if ¬ isHex64 recoveryKey then
        .error "recoveryKey must be 64 hex chars (an x-only Schnorr public key)"
      else if ¬ keys.liftable recoveryKey.toLower then
        .error
          "recoveryKey is not a valid x-only Schnorr public key (off-curve x coordinate)"
      else
        .ok ()

/-- The fallback-leaf guard of `buildCohortConfig`. -/
def checkFallbackThreshold
    (participants : Nat) : Option Nat → Except String Unit
  | none => .ok ()
  | some fallbackThreshold =>
      if fallbackThreshold < 1 ∨ participants < fallbackThreshold then
        .error
          ("fallbackThreshold must be an integer in [1, " ++
            toString participants ++ "] (got " ++ toString fallbackThreshold ++
            "); the k-of-n fallback leaf cannot need more signers than the " ++
            "cohort seats")
      else
        .ok ()

/-- Build a cohort config for `participants` signers. -/
def buildCohortConfig
    (keys : RecoveryKeys) (participants : Nat) (beaconType : BeaconType)
    (network : NetworkName) (recoveryKey : Option String)
    (fallbackThreshold : Option Nat) : Except String CohortConfig := do
  checkRecoveryKey keys recoveryKey
  checkFallbackThreshold participants fallbackThreshold
  return {
    beaconType
    minParticipants := participants
    maxParticipants := none
    network
    recoveryKey := (recoveryKey.map String.toLower).getD keys.throwaway
    recoverySequence := 144
    fallbackThreshold }

/-- A threshold between one and the seats passes its guard. -/
theorem checkFallbackThreshold_ok
    {participants threshold : Nat}
    (positive : 1 ≤ threshold) (fits : threshold ≤ participants) :
    checkFallbackThreshold participants (some threshold) = .ok () := by
  have inRange : ¬ (threshold < 1 ∨ participants < threshold) := by
    omega
  exact if_neg inRange

section BuiltKeys

/-! ## The recovery key of a built config -/

theorem toLower_toLower (character : Char) :
    character.toLower.toLower = character.toLower := by
  by_cases upper : character.val ≥ 'A'.val ∧ character.val ≤ 'Z'.val
  · have lowered :
        character.toLower.val = character.val + ('a'.val - 'A'.val) :=
      congrArg Char.val (dif_pos upper)
    have notUpper :
        ¬ (character.toLower.val ≥ 'A'.val ∧ character.toLower.val ≤ 'Z'.val) := by
      rw [lowered]
      simp only [ge_iff_le, UInt32.le_iff_toNat_le, UInt32.toNat_add,
        Char.reduceVal, UInt32.reduceSub, UInt32.reduceToNat] at upper ⊢
      omega
    exact dif_neg notUpper
  · have unchanged : character.toLower = character := dif_neg upper
    rw [unchanged, unchanged]

theorem toLower_of_isDigit
    {character : Char} (digit : character.isDigit = true) :
    character.toLower = character := by
  have range := Char.isDigit_iff_toNat.mp digit
  have value : character.val.toNat = character.toNat := rfl
  have notUpper :
      ¬ (character.val ≥ 'A'.val ∧ character.val ≤ 'Z'.val) := by
    simp only [ge_iff_le, UInt32.le_iff_toNat_le, value]
    simp only [Char.reduceToNat, Char.reduceVal, UInt32.reduceToNat] at range ⊢
    omega
  exact dif_neg notUpper

theorem toList_toLower (text : String) :
    text.toLower.toList = text.toList.map Char.toLower :=
  String.toList_map

theorem text_toLower_toLower (text : String) :
    text.toLower.toLower = text.toLower := by
  apply String.toList_inj.mp
  rw [toList_toLower, toList_toLower, List.map_map]
  exact List.map_congr_left fun character _ => toLower_toLower character

/-- Lowering a hexadecimal key leaves one. -/
theorem isHex64_toLower
    {text : String} (hex : isHex64 text = true) :
    isHex64 text.toLower = true := by
  simp only [isHex64, Bool.and_eq_true, beq_iff_eq, List.all_eq_true] at hex ⊢
  obtain ⟨size, digits⟩ := hex
  rw [toList_toLower]
  refine ⟨by rw [List.length_map, size], ?_⟩
  intro character member
  obtain ⟨original, inText, rfl⟩ := List.mem_map.mp member
  rw [toLower_toLower]
  have allowed := digits original inText
  by_cases digit : original.isDigit = true
  · rw [toLower_of_isDigit digit, digit, Bool.true_or]
  · rw [Bool.not_eq_true] at digit
    rw [digit, Bool.false_or] at allowed
    rw [allowed, Bool.or_true]

/-- The key a built config carries passes the guard again, as long as a
throwaway key does. -/
theorem checkRecoveryKey_of_buildCohortConfig
    {keys : RecoveryKeys} {participants : Nat} {beaconType : BeaconType}
    {network : NetworkName} {recoveryKey : Option String}
    {fallbackThreshold : Option Nat} {config : CohortConfig}
    (throwaway : checkRecoveryKey keys (some keys.throwaway) = .ok ())
    (built :
      buildCohortConfig keys participants beaconType network recoveryKey
        fallbackThreshold = .ok config) :
    checkRecoveryKey keys (some config.recoveryKey) = .ok () := by
  unfold buildCohortConfig at built
  cases checked : checkRecoveryKey keys recoveryKey with
  | error message =>
      rw [checked] at built
      cases built
  | ok done =>
      rw [checked] at built
      cases fits : checkFallbackThreshold participants fallbackThreshold with
      | error message =>
          rw [fits] at built
          cases built
      | ok done =>
          rw [fits] at built
          cases built
          cases recoveryKey with
          | none => exact throwaway
          | some recoveryKey =>
              simp only [checkRecoveryKey] at checked
              split at checked
              · cases checked
              · next hex =>
                  split at checked
                  · cases checked
                  · next liftable =>
                      have again := isHex64_toLower (not_not.mp hex)
                      simp only [checkRecoveryKey, Option.map_some,
                        Option.getD_some, again, text_toLower_toLower,
                        not_true_eq_false, if_false, if_neg liftable]

end BuiltKeys

end Config

end Btcr2Aggregation
