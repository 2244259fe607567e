import Btcr2Aggregation.Library.Machine
import Btcr2Aggregation.Service.FileStore
import Btcr2Aggregation.Shared.Ipfs

/-!
# Publishing and pinning

A call runs to its next await and leaves the node as it is until then, so that
calls interleave at their awaits alone.  The blockstore and the pin set answer
by themselves; how `pins.add` ends is the node's business, which may have to
fetch the block from a peer.
-/

namespace Btcr2Aggregation

namespace Ipfs

section Node

/-! ## The node -/

/-- What the Helia node keeps. -/
structure HeliaNode where
  blocks : Cid → Option Bytes
  isPinned : Cid → Bool

/-- The packages behind the node; `overwrites` is whether a blockstore replaces
a block it already has. -/
structure IpfsLibrary (Value : Type) extends ArtifactLibrary Value where
  overwrites : Bool

namespace HeliaNode

variable {Value : Type} (library : IpfsLibrary Value)

def has (node : HeliaNode) (cid : Cid) : Bool :=
  (node.blocks cid).isSome

/-- `blockstore.put`. -/
def put (node : HeliaNode) (cid : Cid) (bytes : Bytes) : HeliaNode where
  blocks :=
    Function.update node.blocks cid
      (some
        (if library.overwrites then
          bytes
        else
          (node.blocks cid).getD bytes))
  isPinned := node.isPinned

/-- What a drained `pins.add` leaves. -/
def addPin (node : HeliaNode) (cid : Cid) : HeliaNode where
  blocks := node.blocks
  isPinned := Function.update node.isPinned cid true

end HeliaNode

end Node

section Drain

/-! ## Draining a pin -/

/-- The two awaits of `drainPin`.  `held` is whether the block was there when
`pins.add` was called. -/
inductive DrainStage where
  | adding (held : Bool)
  | rechecking (message : String)

/-- How `drainPin` goes on. -/
inductive Drained where
  | pending (stage : DrainStage)
  | returned
  | threw (message : String)

def drainPin (node : HeliaNode) (cid : Cid) : DrainStage :=
  .adding (node.has cid)

/-- The catch clause: a block that is pinned is a success. -/
def recheck (node : HeliaNode) (cid : Cid) (message : String) : Drained :=
  if node.isPinned cid then .returned else .threw message

end Drain

section Publish

/-! ## Publish -/

/-- The awaits of `publish`, and what its promise settles with. -/
inductive PublishStage where
  | putting (bytes : Bytes)
  | checking
  | draining (stage : DrainStage)
  | settled (answer : Except String String)

structure PublishCall where
  cid : Cid
  stage : PublishStage

variable {Value : Type} (library : IpfsLibrary Value)

/-- A claimed digest has to be the computed one. -/
def checkClaim (computed : String) : Option String → Except String Unit
  | none => .ok ()
  | some hashHex => do
      let claimed ← normalizeDigestHex hashHex
      if claimed ≠ computed then
        .error
          ("refusing to publish: artifact hashes to " ++ computed ++
            ", not the claimed " ++ hashHex)
      else
        .ok ()

/-- `publish` up to its first await. -/
def publish (artifact : Value) (hashHex : Option String) :
    Except String PublishCall := do
  let computed := library.artifactHashHex artifact
  checkClaim computed hashHex
  let cid ← cidFromHashHex computed
  return { cid, stage := .putting (library.canonicalArtifactBytes artifact) }

namespace PublishCall

def afterDrain (call : PublishCall) : Drained → PublishStage
  | .pending stage => .draining stage
  | .returned => .settled (.ok (library.cidText call.cid))
  | .threw message => .settled (.error message)

/-- From an await of the node's own stores to the next. -/
def resume (node : HeliaNode) (call : PublishCall) : PublishStage :=
  match call.stage with
  | .putting _ => .checking
  | .checking =>
      if node.isPinned call.cid then
        .settled (.ok (library.cidText call.cid))
      else
        .draining (drainPin node call.cid)
  | .draining (.rechecking message) =>
      call.afterDrain library (recheck node call.cid message)
  | stage => stage

end PublishCall

end Publish

section Pin

/-! ## Pin -/

inductive PinSource where
  | alreadyPinned
  | artifactStore
  | localBlock
  | network
  deriving DecidableEq, Repr

structure PinOutcome where
  hash : String
  cid : String
  pinned : Bool
  source : Option PinSource
  error : Option String
  deriving DecidableEq, Repr

def digestKeyedKinds : List ArtifactKind := [.update, .announcement, .genesis]

/-- What an artifact store answers on digests, `none` being `undefined`. -/
abbrev StoreContents (Value : Type) := ArtifactKind → String → Option Value

/-- The awaits of `pin`, and what it answers. -/
inductive PinStage where
  | checking
  | reading (kind : ArtifactKind) (rest : List ArtifactKind)
  | putting (bytes : Bytes)
  | probing
  | draining (source : PinSource) (stage : DrainStage)
  | settled (outcome : PinOutcome)

structure PinCall (Value : Type) where
  hash : String
  cid : Cid
  store : Option (StoreContents Value)
  stage : PinStage

variable {Value : Type} (library : IpfsLibrary Value)

/-- `pin` up to its first await. -/
def pin (hashHex : String) (store : Option (StoreContents Value)) :
    Except String (PinCall Value) := do
  let hash ← normalizeDigestHex hashHex
  let cid ← cidFromHashHex hash
  return { hash, cid, store, stage := .checking }

/-- The loop over the kinds, and what follows it. -/
def nextKind : List ArtifactKind → PinStage
  | [] => .probing
  | kind :: rest => .reading kind rest

namespace PinCall

def outcome (call : PinCall Value) (source : PinSource) : PinOutcome where
  hash := call.hash
  cid := library.cidText call.cid
  pinned := true
  source := some source
  error := none

def failure (call : PinCall Value) (message : String) : PinOutcome where
  hash := call.hash
  cid := library.cidText call.cid
  pinned := false
  source := none
  error := some message

def afterDrain (call : PinCall Value) (source : PinSource) : Drained → PinStage
  | .pending stage => .draining source stage
  | .returned => .settled (call.outcome library source)
  | .threw message => .settled (call.failure library message)

/-- What the store answers for a kind. -/
def stored? (call : PinCall Value) (kind : ArtifactKind) : Option Value :=
  call.store.bind fun contents => contents kind call.hash

/-- The body of the loop: a value that is no object, or does not hash to the
key, is passed over. -/
def afterRead
    (call : PinCall Value) (rest : List ArtifactKind) :
    Option Value → PinStage
  | some value =>
      if library.isObject value then
        if library.artifactHashHex value ≠ call.hash then
          nextKind rest
        else
          .putting (library.canonicalArtifactBytes value)
      else
        nextKind rest
  | none => nextKind rest

/-- From an await of the local stores to the next. -/
def resume (node : HeliaNode) (call : PinCall Value) : PinStage :=
  match call.stage with
  | .checking =>
      if node.isPinned call.cid then
        .settled (call.outcome library .alreadyPinned)
      else if call.store.isSome then
        nextKind digestKeyedKinds
      else
        .probing
  | .reading kind rest => call.afterRead library rest (call.stored? kind)
  | .putting _ => .draining .artifactStore (drainPin node call.cid)
  | .probing =>
      .draining (if node.has call.cid then .localBlock else .network)
        (drainPin node call.cid)
  | .draining source (.rechecking message) =>
      call.afterDrain library source (recheck node call.cid message)
  | stage => stage

end PinCall

end Pin

section Stores

/-! ## What the artifact stores answer -/

variable {Value : Type} {hashHex hash : String}

theorem matchesHexKey_of_normalizeDigestHex
    (accepted : normalizeDigestHex hashHex = .ok hash) :
    matchesHexKey hash = true := by
  obtain ⟨digest, size, rfl⟩ := normalizeDigestHex_eq_ok accepted
  apply matchesHexKey_hex
  intro empty
  rw [empty] at size
  exact absurd size (by decide)

/-- The store in memory throws on no digest. -/
theorem memory_answers
    (store : MemoryArtifactStore Value) (kind : ArtifactKind)
    (accepted : normalizeDigestHex hashHex = .ok hash) :
    ∃ found, store.get kind hash = .ok found := by
  have key :=
    normalizeHexKey_of_matchesHexKey
      (matchesHexKey_of_normalizeDigestHex accepted)
  rw [MemoryArtifactStore.get, key]
  exact ⟨_, rfl⟩

/-- Nor does the one on disk: a file that is absent, or is no JSON, reads as
nothing. -/
theorem disk_answers
    (json : JsonText Value) (disk : Disk) (kind : ArtifactKind)
    (accepted : normalizeDigestHex hashHex = .ok hash) :
    ∃ found, FileSystemArtifactStore.get json disk kind hash = .ok found := by
  have key :=
    normalizeHexKey_of_matchesHexKey
      (matchesHexKey_of_normalizeDigestHex accepted)
  have named := FileSystemArtifactStore.file_of_ok key
  unfold FileSystemArtifactStore.get
  split
  · exact ⟨_, rfl⟩
  · exact ⟨_, rfl⟩
  · exact ⟨_, rfl⟩
  · exact ⟨_, rfl⟩
  · rename_i error notEnoent notTooLong notSyntax failed
    exfalso
    unfold FileSystemArtifactStore.read at failed
    rw [named] at failed
    simp only [bind, Except.bind] at failed
    cases text : disk.readFile kind (hash ++ FileSystemArtifactStore.extension)
    with
    | error other =>
        rw [text] at failed
        cases failed
        rcases Disk.eq_of_readFile_error text with rfl | rfl
        · exact notEnoent rfl
        · exact notTooLong rfl
    | ok contents =>
        rw [text] at failed
        cases parsed : json.parse contents with
        | none =>
            simp only [parsed] at failed
            cases failed
            exact notSyntax rfl
        | some value =>
            simp only [parsed] at failed
            cases failed

end Stores

section Calls

/-! ## Calls under way -/

/-- A call by where it is; `refused` threw before its first await. -/
inductive Call (Value : Type) where
  | refused (message : String)
  | publish (call : PublishCall)
  | pin (call : PinCall Value)

namespace Call

variable {Value : Type} (library : IpfsLibrary Value)

def ofPublish : Except String PublishCall → Call Value
  | .ok call => .publish call
  | .error message => .refused message

def ofPin : Except String (PinCall Value) → Call Value
  | .ok call => .pin call
  | .error message => .refused message

/-- The `pins.add` a call awaits, and whether the block was there at its
start. -/
def adding? : Call Value → Option (Cid × Bool)
  | .publish { cid, stage := .draining (.adding held) } => some (cid, held)
  | .pin { cid, stage := .draining _ (.adding held), .. } => some (cid, held)
  | _ => none

/-- The block a call is putting. -/
def putting? : Call Value → Option (Cid × Bytes)
  | .publish { cid, stage := .putting bytes } => some (cid, bytes)
  | .pin { cid, stage := .putting bytes, .. } => some (cid, bytes)
  | _ => none

/-- The call awaits a store of the node or the artifact store. -/
def awaitsStore : Call Value → Bool
  | .refused _ => false
  | .publish { stage := .draining (.adding _), .. } => false
  | .publish { stage := .settled _, .. } => false
  | .publish _ => true
  | .pin { stage := .draining _ (.adding _), .. } => false
  | .pin { stage := .settled _, .. } => false
  | .pin _ => true

def resume (node : HeliaNode) : Call Value → Call Value
  | .refused message => .refused message
  | .publish call => .publish { call with stage := call.resume library node }
  | .pin call => .pin { call with stage := call.resume library node }

/-- `pins.add` is over. -/
def drained (result : Drained) : Call Value → Call Value
  | .publish call =>
      match call.stage with
      | .draining _ =>
          .publish { call with stage := call.afterDrain library result }
      | _ => .publish call
  | .pin call =>
      match call.stage with
      | .draining source _ =>
          .pin { call with stage := call.afterDrain library source result }
      | _ => .pin call
  | call => call

end Call

end Calls

section System

/-! ## The system -/

/-- The node, every block a call put, newest first, and the calls. -/
structure PinningState (Value : Type) where
  node : HeliaNode
  puts : List (Cid × Bytes)
  calls : Nat → Option (Call Value)

/-- A call comes in, an await of it settles, or a peer's block arrives. -/
inductive PinningAction (Value : Type) where
  | publish (id : Nat) (artifact : Value) (hashHex : Option String)
  | pin (id : Nat) (hashHex : String) (store : Option (StoreContents Value))
  | resume (id : Nat)
  | commit (id : Nat)
  | fail (id : Nat) (message : String)
  | deliver (cid : Cid) (bytes : Bytes)

namespace PinningState

variable {Value : Type} (library : IpfsLibrary Value)

/-- A node nothing was asked of yet. -/
def start (node : HeliaNode) : PinningState Value where
  node := node
  puts := []
  calls _ := none

def withCall (state : PinningState Value) (id : Nat) (call : Call Value) :
    PinningState Value :=
  { state with calls := Function.update state.calls id (some call) }

def adding? (state : PinningState Value) (id : Nat) : Option (Cid × Bool) :=
  (state.calls id).bind Call.adding?

/-- The put a call awaits, if it is one. -/
def withPut (state : PinningState Value) : Option (Cid × Bytes) →
    PinningState Value
  | none => state
  | some (cid, bytes) =>
      { state with
        node := state.node.put library cid bytes
        puts := (cid, bytes) :: state.puts }

/-- The await of a local store settles, and the call runs to the next. -/
def resumeCall (state : PinningState Value) (id : Nat) (call : Call Value) :
    PinningState Value :=
  let settled := state.withPut library call.putting?
  settled.withCall id (call.resume library settled.node)

def step (state : PinningState Value) : PinningAction Value → PinningState Value
  | .publish id artifact hashHex =>
      state.withCall id (.ofPublish (Ipfs.publish library artifact hashHex))
  | .pin id hashHex store => state.withCall id (.ofPin (Ipfs.pin hashHex store))
  | .resume id =>
      match state.calls id with
      | some call => state.resumeCall library id call
      | none => state
  | .commit id =>
      match state.calls id, state.adding? id with
      | some call, some (cid, _) =>
          { state with node := state.node.addPin cid }.withCall id
            (call.drained library .returned)
      | _, _ => state
  | .fail id message =>
      match state.calls id with
      | some call =>
          state.withCall id
            (call.drained library (.pending (.rechecking message)))
      | none => state
  | .deliver cid bytes =>
      { state with node := state.node.put library cid bytes }

/-- Calls have names of their own.  `pins.add` commits only what is held; it
throws only on what is pinned or on what was not there when it began.  A block
from a peer was checked against its CID. -/
def admits (state : PinningState Value) : PinningAction Value → Prop
  | .publish id _ _ => (state.calls id).isNone = true
  | .pin id _ _ => (state.calls id).isNone = true
  | .resume id => ∃ call ∈ state.calls id, call.awaitsStore = true
  | .commit id => ∃ add ∈ state.adding? id, state.node.has add.1 = true
  | .fail id _ =>
      ∃ add ∈ state.adding? id,
        state.node.isPinned add.1 = true ∨ add.2 = false
  | .deliver cid bytes =>
      cid.multihashCode = sha2256Code → library.Verifies cid bytes

end PinningState

/-- The node with its calls, from any blocks and any pins. -/
def pinning {Value : Type} (library : IpfsLibrary Value) (node : HeliaNode) :
    Machine (PinningState Value) (PinningAction Value) where
  init := .start node
  step := PinningState.step library
  admits := PinningState.admits library

end System

end Ipfs

end Btcr2Aggregation
