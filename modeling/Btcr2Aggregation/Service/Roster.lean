import Mathlib.Data.Finset.Insert
import Mathlib.Data.List.Perm.Subperm
import Btcr2Aggregation.Library.ByteText
import Btcr2Aggregation.Library.InsertionMap
import Btcr2Aggregation.Library.Machine

/-!
# The fixed roster of a baked cohort

The beacon address of a pre-provisioned cohort is derived from its roster
before the cohort runs, so the keys the cohort seats must be those and no
others.  Each opt-in is decided against the roster and against the keys already
accepted for its cohort; the callback that decides it never suspends, so the
opt-ins of any number of cohorts reach it one after the other, in any order.
-/

namespace Btcr2Aggregation

open InsertionMap

section Decision

/-! ## One decision -/

/-- `bytesEqual`: every pair of bytes is read, whatever the earlier ones
showed. -/
def bytesEqual (a b : Bytes) : Bool :=
  if a.length ≠ b.length then
    false
  else
    (a.zip b).foldl (fun diff pair => diff ||| (pair.1 ^^^ pair.2)) 0 == 0

inductive RosterDecision where
  | accepted
  | rejected (reason : String)
  deriving DecidableEq, Repr

/-- What a decision reads of an opt-in. -/
structure PendingOptIn where
  cohortId : String
  participantDid : String
  participantPk : Bytes
  communicationPk : Bytes
  deriving DecidableEq

def decideRosterOptIn
    (rosterPks : List Bytes) (optIn : PendingOptIn) (seenPks : Finset String) :
    RosterDecision :=
  if !bytesEqual optIn.participantPk optIn.communicationPk then
    .rejected "participantPk is not bound to the authenticated communicationPk"
  else if !rosterPks.any (bytesEqual · optIn.participantPk) then
    .rejected "participantPk is not in the fixed roster"
  else if ByteText.hex optIn.participantPk ∈ seenPks then
    .rejected "roster key already seated this cohort (duplicate)"
  else
    .accepted

theorem foldl_or_xor_eq_zero_iff (pairs : List (UInt8 × UInt8)) :
    ∀ start : UInt8,
      pairs.foldl (fun diff pair => diff ||| (pair.1 ^^^ pair.2)) start = 0 ↔
        start = 0 ∧ ∀ pair ∈ pairs, pair.1 = pair.2 := by
  induction pairs with
  | nil =>
      intro start
      simp
  | cons pair pairs inductionHypothesis =>
      intro start
      rw [List.foldl_cons, inductionHypothesis, UInt8.or_eq_zero_iff,
        UInt8.xor_eq_zero_iff, List.forall_mem_cons, and_assoc]

theorem bytesEqual_iff (a b : Bytes) : bytesEqual a b = true ↔ a = b := by
  unfold bytesEqual
  by_cases sameLength : a.length = b.length
  · rw [if_neg (not_not.mpr sameLength), beq_iff_eq, foldl_or_xor_eq_zero_iff]
    constructor
    · intro equal
      have pairs : List.Forall₂ (· = ·) a b :=
        List.forall₂_iff_zip.mpr ⟨sameLength, fun member => equal.2 _ member⟩
      rwa [List.forall₂_eq_eq_eq] at pairs
    · intro same
      subst same
      have pairs : List.Forall₂ (· = ·) a a :=
        List.forall₂_same.mpr fun _ _ => rfl
      refine ⟨rfl, fun pair member => ?_⟩
      exact (List.forall₂_iff_zip.mp pairs).2 member
  · rw [if_pos sameLength]
    constructor
    · intro impossible
      cases impossible
    · intro same
      exact absurd (congrArg List.length same) sameLength

/-- An opt-in is accepted exactly when its key is bound to its sender, in the
roster and not among the keys seen. -/
theorem decideRosterOptIn_eq_accepted_iff
    {rosterPks : List Bytes} {optIn : PendingOptIn} {seenPks : Finset String} :
    decideRosterOptIn rosterPks optIn seenPks = .accepted ↔
      optIn.participantPk = optIn.communicationPk ∧
        optIn.participantPk ∈ rosterPks ∧
          ByteText.hex optIn.participantPk ∉ seenPks := by
  have unbound :
      (!bytesEqual optIn.participantPk optIn.communicationPk) = true ↔
        optIn.participantPk ≠ optIn.communicationPk := by
    rw [Bool.not_eq_true', ← Bool.not_eq_true, bytesEqual_iff]
  have unlisted :
      (!rosterPks.any (bytesEqual · optIn.participantPk)) = true ↔
        optIn.participantPk ∉ rosterPks := by
    rw [Bool.not_eq_true', ← Bool.not_eq_true, List.any_eq_true]
    simp only [bytesEqual_iff, exists_eq_right]
  simp only [decideRosterOptIn, unbound, unlisted]
  by_cases bound : optIn.participantPk = optIn.communicationPk
  · rw [if_neg (not_not.mpr bound)]
    by_cases listed : optIn.participantPk ∈ rosterPks
    · rw [if_neg (not_not.mpr listed)]
      by_cases seen : ByteText.hex optIn.participantPk ∈ seenPks
      · simp [seen]
      · rw [if_neg seen]
        exact ⟨fun _ => ⟨bound, listed, seen⟩, fun _ => rfl⟩
    · simp [listed]
  · simp [bound]

end Decision

section Callback

/-! ## The callback -/

/-- The keys seated for each cohort, what each opt-in was answered (newest
first), and the lines the console was warned with. -/
structure RosterGate where
  seatedRosterKeys : InsertionMap String (Finset String)
  answers : List (PendingOptIn × RosterDecision)
  warnings : List String

def rejectionWarning (optIn : PendingOptIn) (reason : String) : String :=
  "[service] rejected opt-in from " ++ optIn.participantDid ++
    " for cohort " ++ optIn.cohortId ++ ": " ++ reason

/-- The keys seated for a cohort, none before its first opt-in. -/
def RosterGate.seen (gate : RosterGate) (cohortId : String) : Finset String :=
  (gate.seatedRosterKeys.lookup cohortId).getD ∅

/-- `onOptInReceived`. -/
def onOptInReceived
    (rosterPks : List Bytes) (gate : RosterGate) (optIn : PendingOptIn) :
    RosterGate :=
  let seen := gate.seen optIn.cohortId
  let decision := decideRosterOptIn rosterPks optIn seen
  match decision with
  | .accepted =>
      { gate with
        seatedRosterKeys :=
          set gate.seatedRosterKeys optIn.cohortId
            (insert (ByteText.hex optIn.participantPk) seen)
        answers := (optIn, decision) :: gate.answers }
  | .rejected reason =>
      { gate with
        answers := (optIn, decision) :: gate.answers
        warnings := rejectionWarning optIn reason :: gate.warnings }

/-- The opt-ins of any cohorts, in any order. -/
def rosterGate (rosterPks : List Bytes) : Machine RosterGate PendingOptIn where
  init := { seatedRosterKeys := ∅, answers := [], warnings := [] }
  step := onOptInReceived rosterPks
  admits _ _ := True

/-- The opt-ins accepted for a cohort, newest first. -/
def RosterGate.seated (gate : RosterGate) (cohortId : String) :
    List PendingOptIn :=
  (gate.answers.filter fun answer =>
    answer.1.cohortId = cohortId ∧ answer.2 = .accepted).map Prod.fst

/-- The keys a cohort aggregates. -/
def RosterGate.acceptedKeys (gate : RosterGate) (cohortId : String) :
    List Bytes :=
  (gate.seated cohortId).map PendingOptIn.participantPk

section Step

variable {rosterPks : List Bytes} {gate : RosterGate} {optIn : PendingOptIn}

theorem onOptInReceived_of_accepted
    (decided :
      decideRosterOptIn rosterPks optIn (gate.seen optIn.cohortId) =
        .accepted) :
    onOptInReceived rosterPks gate optIn =
      { gate with
        seatedRosterKeys :=
          set gate.seatedRosterKeys optIn.cohortId
            (insert (ByteText.hex optIn.participantPk)
              (gate.seen optIn.cohortId))
        answers := (optIn, .accepted) :: gate.answers } := by
  simp only [onOptInReceived, decided]

theorem onOptInReceived_of_rejected {reason : String}
    (decided :
      decideRosterOptIn rosterPks optIn (gate.seen optIn.cohortId) =
        .rejected reason) :
    onOptInReceived rosterPks gate optIn =
      { gate with
        answers := (optIn, .rejected reason) :: gate.answers
        warnings := rejectionWarning optIn reason :: gate.warnings } := by
  simp only [onOptInReceived, decided]

theorem seen_of_accepted
    (decided :
      decideRosterOptIn rosterPks optIn (gate.seen optIn.cohortId) = .accepted)
    (cohortId : String) :
    (onOptInReceived rosterPks gate optIn).seen cohortId =
      if optIn.cohortId = cohortId then
        insert (ByteText.hex optIn.participantPk) (gate.seen cohortId)
      else
        gate.seen cohortId := by
  rw [onOptInReceived_of_accepted decided]
  by_cases same : optIn.cohortId = cohortId
  · subst same
    rw [if_pos rfl, RosterGate.seen, lookup_set_self]
    rfl
  · rw [if_neg same, RosterGate.seen, lookup_set_of_ne (Ne.symm same)]
    rfl

theorem seated_of_accepted
    (decided :
      decideRosterOptIn rosterPks optIn (gate.seen optIn.cohortId) = .accepted)
    (cohortId : String) :
    (onOptInReceived rosterPks gate optIn).seated cohortId =
      if optIn.cohortId = cohortId then
        optIn :: gate.seated cohortId
      else
        gate.seated cohortId := by
  rw [onOptInReceived_of_accepted decided, RosterGate.seated, List.filter_cons]
  by_cases same : optIn.cohortId = cohortId
  · simp [same, RosterGate.seated]
  · simp [same, RosterGate.seated]

theorem seated_of_rejected {reason : String}
    (decided :
      decideRosterOptIn rosterPks optIn (gate.seen optIn.cohortId) =
        .rejected reason)
    (cohortId : String) :
    (onOptInReceived rosterPks gate optIn).seated cohortId =
      gate.seated cohortId := by
  rw [onOptInReceived_of_rejected decided, RosterGate.seated, List.filter_cons]
  simp [RosterGate.seated]

end Step

/-- What the opt-ins accepted for one cohort have in common, and that the table
of seated keys is about them. -/
structure RosterGate.SoundAt
    (gate : RosterGate) (rosterPks : List Bytes) (cohortId : String) : Prop
    where
  seen_iff :
    ∀ key : Bytes,
      ByteText.hex key ∈ gate.seen cohortId ↔ key ∈ gate.acceptedKeys cohortId
  distinct : (gate.acceptedKeys cohortId).Nodup
  listed :
    ∀ optIn ∈ gate.seated cohortId, optIn.participantPk ∈ rosterPks
  bound :
    ∀ optIn ∈ gate.seated cohortId,
      optIn.participantPk = optIn.communicationPk

/-- A cohort that an opt-in does not touch stays sound. -/
theorem RosterGate.SoundAt.frame
    {rosterPks : List Bytes} {gate after : RosterGate} {cohortId : String}
    (sound : gate.SoundAt rosterPks cohortId)
    (seated : after.seated cohortId = gate.seated cohortId)
    (seen : after.seen cohortId = gate.seen cohortId) :
    after.SoundAt rosterPks cohortId where
  seen_iff := by
    rw [RosterGate.acceptedKeys, seated, seen]
    exact sound.seen_iff
  distinct := by
    rw [RosterGate.acceptedKeys, seated]
    exact sound.distinct
  listed := by
    rw [seated]
    exact sound.listed
  bound := by
    rw [seated]
    exact sound.bound

theorem soundAt_onOptInReceived
    {rosterPks : List Bytes} {gate : RosterGate} {cohortId : String}
    (optIn : PendingOptIn) (sound : gate.SoundAt rosterPks cohortId) :
    (onOptInReceived rosterPks gate optIn).SoundAt rosterPks cohortId := by
  cases decided :
      decideRosterOptIn rosterPks optIn (gate.seen optIn.cohortId) with
  | rejected reason =>
      have seated := seated_of_rejected decided cohortId
      have seen :
          (onOptInReceived rosterPks gate optIn).seen cohortId =
            gate.seen cohortId := by
        rw [onOptInReceived_of_rejected decided]
        rfl
      exact sound.frame seated seen
  | accepted =>
      have seated := seated_of_accepted decided cohortId
      have seen := seen_of_accepted decided cohortId
      by_cases same : optIn.cohortId = cohortId
      · subst same
        obtain ⟨bound, listed, unseen⟩ :=
          decideRosterOptIn_eq_accepted_iff.mp decided
        rw [if_pos rfl] at seated seen
        have keys :
            (onOptInReceived rosterPks gate optIn).acceptedKeys
                optIn.cohortId =
              optIn.participantPk :: gate.acceptedKeys optIn.cohortId := by
          rw [RosterGate.acceptedKeys, seated]
          rfl
        constructor
        · intro key
          rw [seen, keys, Finset.mem_insert, List.mem_cons,
            ByteText.hex_injective.eq_iff, sound.seen_iff]
        · rw [keys, List.nodup_cons]
          exact ⟨mt (sound.seen_iff _).mpr unseen, sound.distinct⟩
        · rw [seated, List.forall_mem_cons]
          exact ⟨listed, sound.listed⟩
        · rw [seated, List.forall_mem_cons]
          exact ⟨bound, sound.bound⟩
      · rw [if_neg same] at seated seen
        exact sound.frame seated seen

theorem always_soundAt (rosterPks : List Bytes) (cohortId : String) :
    (rosterGate rosterPks).Always fun gate =>
      gate.SoundAt rosterPks cohortId := by
  apply Machine.Always.of_inductive
  · constructor
    · intro key
      exact iff_of_false (Finset.notMem_empty _) (List.not_mem_nil)
    · exact List.nodup_nil
    · intro optIn member
      cases member
    · intro optIn member
      cases member
  · intro gate optIn sound _
    exact soundAt_onOptInReceived optIn sound

/-- What a baked cohort is promised: the keys accepted for it are distinct, in
the roster and each its sender's own; a roster member not yet accepted is
accepted next; and as many keys as the roster has are the roster. -/
structure RosterGate.KeepsRoster
    (gate : RosterGate) (rosterPks : List Bytes) (cohortId : String) : Prop
    where
  distinct : (gate.acceptedKeys cohortId).Nodup
  listed :
    ∀ optIn ∈ gate.seated cohortId, optIn.participantPk ∈ rosterPks
  bound :
    ∀ optIn ∈ gate.seated cohortId,
      optIn.participantPk = optIn.communicationPk
  admitted :
    ∀ optIn : PendingOptIn,
      optIn.cohortId = cohortId → optIn.participantPk ∈ rosterPks →
        optIn.participantPk = optIn.communicationPk →
          optIn.participantPk ∉ gate.acceptedKeys cohortId →
            (onOptInReceived rosterPks gate optIn).answers =
              (optIn, .accepted) :: gate.answers
  full :
    (gate.acceptedKeys cohortId).length = rosterPks.length →
      (gate.acceptedKeys cohortId).Perm rosterPks

theorem keepsRoster_of_soundAt
    {rosterPks : List Bytes} {gate : RosterGate} {cohortId : String}
    (sound : gate.SoundAt rosterPks cohortId) :
    gate.KeepsRoster rosterPks cohortId where
  distinct := sound.distinct
  listed := sound.listed
  bound := sound.bound
  admitted := by
    intro optIn same listed bound fresh
    subst same
    have unseen := mt (sound.seen_iff _).mp fresh
    have decided :
        decideRosterOptIn rosterPks optIn (gate.seen optIn.cohortId) =
          .accepted :=
      decideRosterOptIn_eq_accepted_iff.mpr ⟨bound, listed, unseen⟩
    rw [onOptInReceived_of_accepted decided]
  full := by
    intro full
    have subset : gate.acceptedKeys cohortId ⊆ rosterPks := by
      intro key member
      obtain ⟨optIn, seated, rfl⟩ := List.mem_map.mp member
      exact sound.listed optIn seated
    have subperm := List.subperm_of_subset sound.distinct subset
    exact subperm.perm_of_length_le full.ge

/-- No order of honest, duplicate and hostile opt-ins over any cohorts makes the
keys of a cohort drift off its roster. -/
theorem keepsRoster_run
    (rosterPks : List Bytes) (cohortId : String) (optIns : List PendingOptIn) :
    ((rosterGate rosterPks).run optIns).KeepsRoster rosterPks cohortId := by
  have admissible : (rosterGate rosterPks).Admits optIns :=
    Machine.admits_of_offered (fun _ _ => trivial) optIns
  have sound := always_soundAt rosterPks cohortId optIns admissible
  exact keepsRoster_of_soundAt sound

/-- A roster key presented under another's own key is refused, and its owner is
still accepted. -/
example :
    ((rosterGate [[1], [2]]).run
        [⟨"a", "mallory", [1], [9]⟩, ⟨"a", "alice", [1], [1]⟩,
          ⟨"b", "alice", [1], [1]⟩, ⟨"a", "alice", [1], [1]⟩,
          ⟨"a", "bob", [2], [2]⟩]).acceptedKeys "a" =
      [[2], [1]] := by
  decide +kernel

end Callback

end Btcr2Aggregation
