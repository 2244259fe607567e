import Mathlib.Algebra.Order.Floor.Semiring
import Mathlib.Data.ENat.Basic
import Mathlib.Data.Rat.Floor
import Btcr2Aggregation.Library.InsertionMap
import Btcr2Aggregation.Library.JsNumber
import Btcr2Aggregation.Library.JsString
import Btcr2Aggregation.Library.Machine
import Btcr2Aggregation.Library.TextPattern
import Btcr2Aggregation.Shared.Cohort

/-!
# Broadcasting a cohort's beacon transaction

At `signing-complete` the gate is asked, the signed transaction is serialised
once, and the task sends it with a bounded retry, reports the acceptance, polls
for a first confirmation and reports the outcome.  Every await is a step: the
answer of a send, the end of a backoff, the answer of a poll, the end of a
pause.  A stop between an answer and its microtask acts like a stop just before
the answer.
-/

namespace Btcr2Aggregation

section Messages

/-! ## Rejection messages -/

/-- `isDuplicateAcceptance`: the transaction is already on the network. -/
def isDuplicateAcceptance (message : String) : Bool :=
  let gap := TextPattern.words [" ", "-"]
  let alreadyOn :=
    TextPattern.inOrder
      [.word "already", .optional gap,
        .optional (.andThen (.word "in") gap),
        .optional (.andThen (.word "the") gap),
        TextPattern.words ["mempool", "blockchain", "block chain", "chain"]]
  let code :=
    TextPattern.inOrder
      [.word "code\":", .many JsString.isSpace, .word "-27"]
  (TextPattern.oneOf
    [alreadyOn,
      TextPattern.words
        ["txn-already-known", "txn-already-in-mempool", "already known",
          "transaction already exists", "transaction already in"],
      code, .word "\"-27\""]).occursIn message.toLower

/-- `.` of a regular expression. -/
def isAnyButLineEnd (character : Char) : Bool :=
  !(character.val ∈ [0xA, 0xD, 0x2028, 0x2029])

/-- `isNetworkUnreachable`: a transport failure, not a policy rejection. -/
def isNetworkUnreachable (message : String) : Bool :=
  let requestFailed :=
    TextPattern.inOrder
      [.word "request to ", .many isAnyButLineEnd, .word " failed"]
  (TextPattern.oneOf
    [TextPattern.words
        ["econnrefused", "econnreset", "enotfound", "etimedout", "eai_again",
          "ehostunreach", "enetunreach", "epipe", "socket hangup",
          "socket hang up", "fetch failed", "network error",
          "network unreachable", "network request failed", "timeout",
          "timedout", "time out", "timed out"],
      requestFailed]).occursIn message.toLower

end Messages

section Attempts

/-! ## The number of attempts -/

namespace JsNumber

/-- `number < bound` for a whole number. -/
def exceeds (bound : JsNumber) (number : Nat) : Bool :=
  match bound with
  | .finite value => number < value
  | .infinity => true
  | .negInfinity => false
  | .nan => false

/-- `Math.max(1, number)`. -/
def atLeastOne : JsNumber → JsNumber
  | .finite value => .finite (max 1 value)
  | .infinity => .infinity
  | .negInfinity => .finite 1
  | .nan => .nan

/-- `number + offset`. -/
def plus (number : JsNumber) (offset : Nat) : JsNumber :=
  match number with
  | .finite value => .finite (value + offset)
  | .infinity => .infinity
  | .negInfinity => .negInfinity
  | .nan => .nan

end JsNumber

/-- How many sends a configured number of attempts amounts to: rounded up to a
whole number, and one at least. -/
def sendLimit : JsNumber → ℕ∞
  | .finite value => (max 1 ⌈value⌉₊ : ℕ)
  | .infinity => ⊤
  | .negInfinity => 1
  | .nan => 0

/-- The loop condition bounds the number of rounds made. -/
theorem succ_le_sendLimit
    {configured : JsNumber} {attempt : Nat}
    (mayRun : configured.atLeastOne.exceeds attempt = true) :
    ((attempt + 1 : ℕ) : ℕ∞) ≤ sendLimit configured := by
  cases configured with
  | finite value =>
      have below : (attempt : ℚ) < max 1 value := of_decide_eq_true mayRun
      refine Nat.cast_le.mpr ?_
      rcases lt_max_iff.mp below with first | retry
      · have isFirst : attempt < 1 := by exact_mod_cast first
        exact Nat.le_trans isFirst (Nat.le_max_left _ _)
      · have rounded : attempt < ⌈value⌉₊ := Nat.lt_ceil.mpr retry
        exact Nat.le_trans rounded (Nat.le_max_right _ _)
  | infinity => exact le_top
  | negInfinity =>
      have below : (attempt : ℚ) < 1 := of_decide_eq_true mayRun
      have isFirst : attempt < 1 := by exact_mod_cast below
      exact Nat.cast_le.mpr isFirst
  | nan => cases mayRun

end Attempts

section Tasks

/-! ## Frames and tasks -/

/-- What the broadcaster publishes about one cohort. -/
inductive AnchorFrame where
  | broadcast (cohortId : CohortId) (txid : String)
  | anchored (cohortId : CohortId) (txid : String) (confirmed : Bool)
  | failed (cohortId : CohortId) (reason : String)
  deriving DecidableEq, Repr

namespace AnchorFrame

/-- The cohort the frame is about. -/
def cohortId : AnchorFrame → CohortId
  | .broadcast cohortId _ => cohortId
  | .anchored cohortId _ _ => cohortId
  | .failed cohortId _ => cohortId

end AnchorFrame

/-- The options of `attachBeaconBroadcast` that decide what is sent and
published; the two intervals only say when an await ends. -/
structure BroadcastOptions where
  confirmTimeoutMs : Option JsNumber
  sendRetryAttempts : Option JsNumber
  /-- How the language writes a number. -/
  numberText : JsNumber → String

namespace BroadcastOptions

def defaultSendRetryAttempts : JsNumber := 5

def defaultConfirmTimeoutMs : JsNumber := 180000

/-- The configured number of sends. -/
def configuredAttempts (options : BroadcastOptions) : JsNumber :=
  options.sendRetryAttempts.getD defaultSendRetryAttempts

/-- `attempts` of the retry loop. -/
def attempts (options : BroadcastOptions) : JsNumber :=
  options.configuredAttempts.atLeastOne

/-- `deadline` of the confirmation loop. -/
def deadline (options : BroadcastOptions) (now : Nat) : JsNumber :=
  (options.confirmTimeoutMs.getD defaultConfirmTimeoutMs).plus now

/-- The reason thrown once every attempt is spent. -/
def exhaustedReason (options : BroadcastOptions) (message : String) : String :=
  let kind :=
    if isNetworkUnreachable message then
      "network unreachable at send time"
    else
      "the node rejected the transaction"
  "beacon broadcast failed after " ++ options.numberText options.attempts ++
    " attempt(s) (" ++ kind ++ "): " ++ message

end BroadcastOptions

/-- The await a task is at. -/
inductive BroadcastPhase where
  | sending (attempt : Nat)
  | backingOff (attempt : Nat) (lastError : String)
  | polling (txid : String) (deadline : JsNumber)
  | pausing (txid : String) (deadline : JsNumber)
  | done
  deriving DecidableEq

/-- One cohort's handler after the serialisation. -/
structure BroadcastTask where
  rawHex : String
  expectedTxid : Option String
  phase : BroadcastPhase
  deriving DecidableEq

/-- How one send settles. -/
inductive SendAnswer where
  | accepted (txid : String)
  | rejected (message : String)
  deriving DecidableEq

/-- The broadcaster's tasks, with what was sent and published, oldest first. -/
structure BroadcastRun where
  tasks : InsertionMap CohortId BroadcastTask
  completed : List CohortId
  stopped : Bool
  sends : List (CohortId × String)
  frames : List AnchorFrame

/-- What can happen to it.  The two clock readings of an accepted send are the
one the deadline is computed from and the one the loop tests. -/
inductive BroadcastEvent where
  | signingComplete
      (cohortId : CohortId) (gate : Bool) (extracted : Except String String)
      (expectedTxid : Option String)
  | sendAnswers
      (cohortId : CohortId) (answer : SendAnswer) (acceptedAt testedAt : Nat)
  | backoffEnds (cohortId : CohortId)
  | pollAnswers (cohortId : CohortId) (confirmed : Bool)
  | pauseEnds (cohortId : CohortId) (now : Nat)
  | stop

/-- The cohort an event is about. -/
def BroadcastEvent.cohortId? : BroadcastEvent → Option CohortId
  | .signingComplete cohortId _ _ _ => some cohortId
  | .sendAnswers cohortId _ _ _ => some cohortId
  | .backoffEnds cohortId => some cohortId
  | .pollAnswers cohortId _ => some cohortId
  | .pauseEnds cohortId _ => some cohortId
  | .stop => none

namespace BroadcastRun

def booted : BroadcastRun where
  tasks := ∅
  completed := []
  stopped := false
  sends := []
  frames := []

/-- Publish, unless the service is stopping. -/
def emit (run : BroadcastRun) (frame : AnchorFrame) : BroadcastRun :=
  if run.stopped then run else { run with frames := run.frames ++ [frame] }

/-- Move a cohort's task to another await. -/
def enter
    (run : BroadcastRun) (cohortId : CohortId) (task : BroadcastTask)
    (phase : BroadcastPhase) : BroadcastRun :=
  { run with tasks := run.tasks.set cohortId { task with phase } }

/-- The attempts are spent, or the stop ended them. -/
def fail
    (options : BroadcastOptions) (run : BroadcastRun) (cohortId : CohortId)
    (task : BroadcastTask) (message : String) : BroadcastRun :=
  (run.enter cohortId task .done).emit
    (.failed cohortId (options.exhaustedReason message))

/-- The head of the retry loop: one more send, or the throw after it. -/
def attempt
    (options : BroadcastOptions) (run : BroadcastRun) (cohortId : CohortId)
    (task : BroadcastTask) (number : Nat) (lastError : String) :
    BroadcastRun :=
  if options.attempts.exceeds number then
    { run.enter cohortId task (.sending number) with
      sends := run.sends ++ [(cohortId, task.rawHex)] }
  else
    run.fail options cohortId task lastError

/-- The head of the confirmation loop: one more poll, or the pending outcome. -/
def confirm
    (run : BroadcastRun) (cohortId : CohortId) (task : BroadcastTask)
    (txid : String) (deadline : JsNumber) (now : Nat) : BroadcastRun :=
  if deadline.exceeds now && !run.stopped then
    run.enter cohortId task (.polling txid deadline)
  else
    (run.enter cohortId task .done).emit (.anchored cohortId txid false)

/-- An accepted send is published before the first poll. -/
def accept
    (options : BroadcastOptions) (run : BroadcastRun) (cohortId : CohortId)
    (task : BroadcastTask) (txid : String) (acceptedAt testedAt : Nat) :
    BroadcastRun :=
  (run.emit (.broadcast cohortId txid)).confirm cohortId task txid
    (options.deadline acceptedAt) testedAt

/-- The transaction id a duplicate rejection is resolved to. -/
def duplicateTxid? (task : BroadcastTask) (message : String) : Option String :=
  if isDuplicateAcceptance message then
    task.expectedTxid.filter (· ≠ "")
  else
    none

/-- A rejected send: a duplicate is an acceptance; the last attempt, or any
once the service stops, is the failure; else the backoff. -/
def reject
    (options : BroadcastOptions) (run : BroadcastRun) (cohortId : CohortId)
    (task : BroadcastTask) (number : Nat) (message : String)
    (acceptedAt testedAt : Nat) : BroadcastRun :=
  match duplicateTxid? task message with
  | some txid => run.accept options cohortId task txid acceptedAt testedAt
  | none =>
      if !options.attempts.exceeds (number + 1) || run.stopped then
        run.fail options cohortId task message
      else
        run.enter cohortId task (.backingOff number message)

/-- `handleSigningComplete`.  The gate comes first: a cohort that stands down is
not even serialised. -/
def handleSigningComplete
    (options : BroadcastOptions) (run : BroadcastRun) (cohortId : CohortId)
    (gate : Bool) (extracted : Except String String)
    (expectedTxid : Option String) : BroadcastRun :=
  if gate then
    match extracted with
    | .error reason => run.emit (.failed cohortId reason)
    | .ok rawHex =>
        run.attempt options cohortId ⟨rawHex, expectedTxid, .done⟩ 0 "undefined"
  else
    run

/-- What each event does.  After a stop the listener is gone, so a completion
reaches nobody. -/
def step (options : BroadcastOptions) (run : BroadcastRun) :
    BroadcastEvent → BroadcastRun
  | .signingComplete cohortId gate extracted expectedTxid =>
      let run := { run with completed := cohortId :: run.completed }
      if run.stopped then
        run
      else
        run.handleSigningComplete options cohortId gate extracted expectedTxid
  | .sendAnswers cohortId answer acceptedAt testedAt =>
      match run.tasks.lookup cohortId with
      | some task =>
          match task.phase, answer with
          | .sending _, .accepted txid =>
              run.accept options cohortId task txid acceptedAt testedAt
          | .sending number, .rejected message =>
              run.reject options cohortId task number message acceptedAt
                testedAt
          | _, _ => run
      | none => run
  | .backoffEnds cohortId =>
      match run.tasks.lookup cohortId with
      | some task =>
          match task.phase with
          | .backingOff number lastError =>
              if run.stopped then
                run.fail options cohortId task lastError
              else
                run.attempt options cohortId task (number + 1) lastError
          | _ => run
      | none => run
  | .pollAnswers cohortId confirmed =>
      match run.tasks.lookup cohortId with
      | some task =>
          match task.phase with
          | .polling txid deadline =>
              if confirmed then
                (run.enter cohortId task .done).emit
                  (.anchored cohortId txid true)
              else
                run.enter cohortId task (.pausing txid deadline)
          | _ => run
      | none => run
  | .pauseEnds cohortId now =>
      match run.tasks.lookup cohortId with
      | some task =>
          match task.phase with
          | .pausing txid deadline =>
              run.confirm cohortId task txid deadline now
          | _ => run
      | none => run
  | .stop => { run with stopped := true }

/-- The await an event ends is the one its task is at; the runner emits a
cohort's completion once. -/
def offers (run : BroadcastRun) : BroadcastEvent → Bool
  | .signingComplete cohortId _ _ _ => cohortId ∉ run.completed
  | .sendAnswers cohortId _ _ _ =>
      ((run.tasks.lookup cohortId).map BroadcastTask.phase).any fun
        | .sending _ => true
        | _ => false
  | .backoffEnds cohortId =>
      ((run.tasks.lookup cohortId).map BroadcastTask.phase).any fun
        | .backingOff _ _ => true
        | _ => false
  | .pollAnswers cohortId _ =>
      ((run.tasks.lookup cohortId).map BroadcastTask.phase).any fun
        | .polling _ _ => true
        | _ => false
  | .pauseEnds cohortId _ =>
      ((run.tasks.lookup cohortId).map BroadcastTask.phase).any fun
        | .pausing _ _ => true
        | _ => false
  | .stop => true

end BroadcastRun

/-- Every schedule of one broadcaster. -/
def broadcastMachine (options : BroadcastOptions) :
    Machine BroadcastRun BroadcastEvent where
  init := .booted
  step := BroadcastRun.step options
  admits run event := run.offers event = true

end Tasks

section AnchorFold

/-! ## The anchor read -/

/-- What the fold retains about a cohort. -/
inductive AnchorEntry where
  | broadcast (txid : String)
  | confirmed (txid : String)
  | failed (reason : String)
  deriving DecidableEq, Repr

/-- The states a cohort's anchor never leaves of its own accord. -/
def AnchorEntry.isTerminal : AnchorEntry → Bool
  | .broadcast _ => false
  | .confirmed _ => true
  | .failed _ => true

/-- Anchor records kept. -/
def maxAnchorRecords : Nat := 24

/-- The public reason is generic: the raw error is dropped. -/
def genericFailureReason : String := "broadcast failed"

/-- What a frame says about its cohort; accepted and not yet mined is still
`broadcast`. -/
def AnchorFrame.entry : AnchorFrame → AnchorEntry
  | .broadcast _ txid => .broadcast txid
  | .anchored _ txid confirmed => if confirmed then .confirmed txid else .broadcast txid
  | .failed _ _ => .failed genericFailureReason

/-- `createAnchorState` over the frames published so far. -/
def anchorState (frames : List AnchorFrame) :
    InsertionMap CohortId AnchorEntry :=
  frames.foldl
    (fun entries frame =>
      entries.remember maxAnchorRecords frame.cohortId frame.entry)
    ∅

end AnchorFold

end Btcr2Aggregation
