import Btcr2Aggregation.Library.Recency
import Btcr2Aggregation.Service.BroadcastRuns

/-!
# The public anchor read

Anyone can poll what became of a cohort's transaction.  The read folds the
frames of the broadcaster into a bounded table, so a cohort of which nothing was
heard for long reads like one that never existed; what is read otherwise is the
cohort's story, without the raw reason of a failure.
-/

namespace Btcr2Aggregation

section Read

/-! ## The read -/

inductive AnchorReadState where
  | none
  | broadcast
  | confirmed
  | failed
  deriving DecidableEq, Repr

structure AnchorReadDTO where
  enabled : Bool
  state : AnchorReadState
  txid : Option String
  explorerUrl : Option String
  reason : Option String
  deriving DecidableEq, Repr

def AnchorEntry.state : AnchorEntry → AnchorReadState
  | .broadcast _ => .broadcast
  | .confirmed _ => .confirmed
  | .failed _ => .failed

def AnchorEntry.txid? : AnchorEntry → Option String
  | .broadcast txid => some txid
  | .confirmed txid => some txid
  | .failed _ => none

def AnchorEntry.reason? : AnchorEntry → Option String
  | .failed reason => some reason
  | _ => none

/-- `network?.explorerTxUrl(txid) || undefined`, what it throws included. -/
def explorerUrl?
    (explorerTxUrl : Option (String → Except String String)) (txid : String) :
    Option String :=
  explorerTxUrl.bind fun url => (url txid).toOption.filter (· ≠ "")

/-- What an unknown, a never announced and a forgotten cohort all read as. -/
def AnchorReadDTO.unknown (enabled : Bool) : AnchorReadDTO where
  enabled := enabled
  state := .none
  txid := none
  explorerUrl := none
  reason := none

def AnchorReadDTO.of
    (explorerTxUrl : Option (String → Except String String))
    (entry : AnchorEntry) : AnchorReadDTO where
  enabled := true
  state := entry.state
  txid := entry.txid?
  explorerUrl := (entry.txid?.filter (· ≠ "")).bind (explorerUrl? explorerTxUrl)
  reason := entry.reason?

/-- `createAnchorState(broadcaster, network).read(cohortId)`, after the frames a
broadcaster has published, if there is one. -/
def readAnchor
    (broadcaster : Option (List AnchorFrame))
    (explorerTxUrl : Option (String → Except String String))
    (cohortId : CohortId) : AnchorReadDTO :=
  match broadcaster with
  | none => .unknown false
  | some frames =>
      match (anchorState frames).lookup cohortId with
      | none => .unknown true
      | some entry => .of explorerTxUrl entry

end Read

section Retained

/-! ## Which cohorts are remembered -/

/-- What a frame does to the table. -/
def AnchorFrame.op (frame : AnchorFrame) : TableOp CohortId AnchorEntry :=
  .write frame.cohortId frame.entry

theorem anchorState_eq_replay (frames : List AnchorFrame) :
    anchorState frames = replay maxAnchorRecords (frames.map AnchorFrame.op) := by
  rw [replay, List.foldl_map]
  rfl

/-- The last frame about a cohort, with fewer than 24 other cohorts heard of
since. -/
def LastHeard
    (frames : List AnchorFrame) (cohortId : CohortId) (frame : AnchorFrame) :
    Prop :=
  ∃ before after,
    frames = before ++ frame :: after ∧ frame.cohortId = cohortId ∧
      (∀ later ∈ after, later.cohortId ≠ cohortId) ∧
        (after.map AnchorFrame.cohortId).toFinset.card < 24

/-- The table holds what the last frame said, while it is remembered. -/
theorem lookup_anchorState_iff
    {frames : List AnchorFrame} {cohortId : CohortId} {entry : AnchorEntry} :
    (anchorState frames).lookup cohortId = some entry ↔
      ∃ frame, LastHeard frames cohortId frame ∧ frame.entry = entry := by
  have writes :
      ∀ op ∈ frames.map AnchorFrame.op, ∃ key value, op = .write key value := by
    intro op member
    obtain ⟨frame, -, rfl⟩ := List.mem_map.mp member
    exact ⟨_, _, rfl⟩
  have keys :
      ∀ after : List AnchorFrame,
        (after.map AnchorFrame.op).map TableOp.key =
          after.map AnchorFrame.cohortId := by
    intro after
    rw [List.map_map]
    rfl
  rw [anchorState_eq_replay, lookup_replay_of_writes_iff writes]
  constructor
  · rintro ⟨before, after, split, untouched, room⟩
    obtain ⟨first, rest, rfl, rfl, tail⟩ := List.map_eq_append_iff.mp split
    obtain ⟨frame, second, rfl, written, rfl⟩ := List.map_eq_cons_iff.mp tail
    obtain ⟨about, spelled⟩ := TableOp.write.inj written
    rw [keys] at room
    refine ⟨frame, ⟨first, second, rfl, about, ?_, room⟩, spelled⟩
    intro later member
    exact untouched _ (List.mem_map.mpr ⟨later, member, rfl⟩)
  · rintro ⟨frame, ⟨before, after, rfl, rfl, untouched, room⟩, rfl⟩
    refine
      ⟨before.map AnchorFrame.op, after.map AnchorFrame.op, ?_, ?_, ?_⟩
    · rw [List.map_append, List.map_cons]
      rfl
    · intro op member
      obtain ⟨later, inside, rfl⟩ := List.mem_map.mp member
      exact untouched later inside
    · rw [keys]
      exact room

/-- The last frame about a cohort is the end of its word. -/
theorem LastHeard.getLast?
    {frames : List AnchorFrame} {cohortId : CohortId} {frame : AnchorFrame}
    (heard : LastHeard frames cohortId frame) :
    (frames.filter (·.cohortId = cohortId)).getLast? = some frame := by
  obtain ⟨before, after, rfl, about, untouched, -⟩ := heard
  have silent : after.filter (·.cohortId = cohortId) = [] := by
    rw [List.filter_eq_nil_iff]
    intro later member
    simpa using untouched later member
  simp [List.filter_append, about, silent]

end Retained

section Reads

/-! ## What is read of a run -/

variable (options : BroadcastOptions)

/-- A cohort is remembered. -/
def Remembered (frames : List AnchorFrame) (cohortId : CohortId) : Prop :=
  ∃ frame, LastHeard frames cohortId frame

/-- What is read of a cohort, by what the broadcaster has said about it. -/
inductive ReadsAs
    (explorerTxUrl : Option (String → Except String String))
    (frames : List AnchorFrame) (cohortId : CohortId) :
    AnchorReadDTO → Prop
  | forgotten (nothing : ¬ Remembered frames cohortId) :
      ReadsAs explorerTxUrl frames cohortId (.unknown true)
  | accepted (txid : String)
      (remembered : Remembered frames cohortId)
      (word :
        frames.filter (·.cohortId = cohortId) = [.broadcast cohortId txid] ∨
          frames.filter (·.cohortId = cohortId) =
            [.broadcast cohortId txid, .anchored cohortId txid false]) :
      ReadsAs explorerTxUrl frames cohortId
        (.of explorerTxUrl (.broadcast txid))
  | confirmed (txid : String)
      (remembered : Remembered frames cohortId)
      (word :
        frames.filter (·.cohortId = cohortId) =
          [.broadcast cohortId txid, .anchored cohortId txid true]) :
      ReadsAs explorerTxUrl frames cohortId
        (.of explorerTxUrl (.confirmed txid))
  | failed (reason : String)
      (remembered : Remembered frames cohortId)
      (word :
        frames.filter (·.cohortId = cohortId) = [.failed cohortId reason]) :
      ReadsAs explorerTxUrl frames cohortId
        (.of explorerTxUrl (.failed genericFailureReason))

/-- In every schedule of the broadcaster: a cohort of which nothing was heard, or
since whose last frame 24 others were, reads as unknown; any other reads as its
whole word says, a failure without its reason. -/
theorem readAnchor_of_admits
    (events : List BroadcastEvent)
    (admissible : (broadcastMachine options).Admits events)
    (explorerTxUrl : Option (String → Except String String))
    (cohortId : CohortId) :
    ReadsAs explorerTxUrl ((broadcastMachine options).run events).frames
      cohortId
      (readAnchor (some ((broadcastMachine options).run events).frames)
        explorerTxUrl cohortId) := by
  have spoken :=
    ((stories_always options events admissible).each cohortId).spoken
  generalize (broadcastMachine options).run events = run at spoken ⊢
  rw [readAnchor]
  cases found : (anchorState run.frames).lookup cohortId with
  | none =>
      refine .forgotten ?_
      rintro ⟨frame, heard⟩
      have held := lookup_anchorState_iff.mpr ⟨frame, heard, rfl⟩
      rw [found] at held
      cases held
  | some entry =>
      obtain ⟨frame, heard, rfl⟩ := lookup_anchorState_iff.mp found
      have remembered : Remembered run.frames cohortId := ⟨frame, heard⟩
      have last := heard.getLast?
      change Spoken cohortId (run.frames.filter (·.cohortId = cohortId)) at spoken
      generalize said : run.frames.filter (·.cohortId = cohortId) = frames
        at spoken last
      cases spoken with
      | silent => cases last
      | failed reason =>
          cases last
          exact .failed reason remembered said
      | broadcast txid =>
          cases last
          exact .accepted txid remembered (Or.inl said)
      | anchored txid confirmed =>
          cases last
          cases confirmed with
          | false => exact .accepted txid remembered (Or.inr said)
          | true => exact .confirmed txid remembered said

/-- After a retried and accepted broadcast. -/
theorem readAnchor_of_admits_retried :
    (broadcastMachine threeAttempts).Admits retriedThenStopped ∧
      ReadsAs none
        ((broadcastMachine threeAttempts).run retriedThenStopped).frames 0
        (readAnchor
          (some ((broadcastMachine threeAttempts).run retriedThenStopped).frames)
          none 0) := by
  have admissible :
      (broadcastMachine threeAttempts).Admits retriedThenStopped := by
    decide +kernel
  exact
    ⟨admissible,
      readAnchor_of_admits threeAttempts retriedThenStopped admissible none 0⟩

end Reads

end Btcr2Aggregation
