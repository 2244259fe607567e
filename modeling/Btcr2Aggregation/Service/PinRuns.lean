import Btcr2Aggregation.Service.Pinning

/-!
# Pins among other calls

Blocks and pins only ever grow, and a call touches no call but itself.  What a
call knows at one await is therefore still so at the next, whatever the calls
between do: a pin that loses the race finds the digest pinned, and the winner's
block is the loser's block.

Whether a pinned block is there at all rests on the node it all starts from:
`isPinned` is asked of the pin set alone.
-/

namespace Btcr2Aggregation

namespace Ipfs

variable {Value : Type} {library : IpfsLibrary Value}

section Growth

/-! ## What a node keeps -/

namespace HeliaNode

variable {node : HeliaNode} {cid other : Cid} {bytes : Bytes}

theorem blocks_put :
    (node.put library other bytes).blocks cid =
      if cid = other then
        some
          (if library.overwrites then
            bytes
          else
            (node.blocks other).getD bytes)
      else
        node.blocks cid :=
  Function.update_apply _ _ _ _

theorem has_put :
    (node.put library other bytes).has cid =
      (decide (cid = other) || node.has cid) := by
  unfold has
  rw [blocks_put]
  by_cases same : cid = other
  · rw [if_pos same, decide_eq_true same, Bool.true_or, Option.isSome_some]
  · rw [if_neg same, decide_eq_false same, Bool.false_or]

theorem isPinned_addPin :
    (node.addPin other).isPinned cid =
      (decide (cid = other) || node.isPinned cid) := by
  have updated :
      (node.addPin other).isPinned cid =
        if cid = other then true else node.isPinned cid :=
    Function.update_apply _ _ _ _
  rw [updated]
  by_cases same : cid = other
  · rw [if_pos same, decide_eq_true same, Bool.true_or]
  · rw [if_neg same, decide_eq_false same, Bool.false_or]

/-- Nothing is lost. -/
structure Grows (before after : HeliaNode) : Prop where
  has : ∀ cid, before.has cid = true → after.has cid = true
  pinned : ∀ cid, before.isPinned cid = true → after.isPinned cid = true

theorem Grows.refl (node : HeliaNode) : Grows node node where
  has _ := id
  pinned _ := id

theorem grows_put (node : HeliaNode) (cid : Cid) (bytes : Bytes) :
    Grows node (node.put library cid bytes) where
  has other held := by
    rw [has_put, held, Bool.or_true]
  pinned _ := id

theorem grows_addPin (node : HeliaNode) (cid : Cid) :
    Grows node (node.addPin cid) where
  has _ := id
  pinned other held := by
    rw [isPinned_addPin, held, Bool.or_true]

/-- The block of a CID is the one it names. -/
def Honest
    (library : IpfsLibrary Value) (node : HeliaNode) (cid : Cid) : Prop :=
  ∀ bytes, node.blocks cid = some bytes → library.Verifies cid bytes

/-- The CID is pinned only with its block. -/
def Backed (node : HeliaNode) (cid : Cid) : Prop :=
  node.isPinned cid = true → node.has cid = true

theorem Honest.put
    (honest : node.Honest library cid)
    (verifies : cid = other → library.Verifies cid bytes) :
    (node.put library other bytes).Honest library cid := by
  intro found holds
  rw [blocks_put] at holds
  by_cases same : cid = other
  · rw [if_pos same] at holds
    cases holds
    by_cases replaces : library.overwrites = true
    · rw [if_pos replaces]
      exact verifies same
    · rw [if_neg replaces]
      cases earlier : node.blocks other with
      | none => exact verifies same
      | some block =>
          rw [← same] at earlier
          exact honest block earlier
  · rw [if_neg same] at holds
    exact honest found holds

theorem Backed.put (backed : node.Backed cid) :
    (node.put library other bytes).Backed cid := by
  intro pinned
  exact (grows_put node other bytes).has cid (backed pinned)

theorem Backed.addPin (backed : node.Backed cid) (held : node.has other = true) :
    (node.addPin other).Backed cid := by
  intro pinned
  rw [isPinned_addPin, Bool.or_eq_true, decide_eq_true_eq] at pinned
  rcases pinned with same | earlier
  · rw [same]
    exact held
  · exact backed earlier

end HeliaNode

end Growth

section Steps

/-! ## What a step can do -/

namespace PinningState

/-- The steps that can be taken, and what each leaves. -/
inductive Stepped (library : IpfsLibrary Value) (state : PinningState Value) :
    PinningAction Value → PinningState Value → Prop
  | published {id : Nat} (artifact : Value) (hashHex : Option String)
      (fresh : state.calls id = none) :
      Stepped library state (.publish id artifact hashHex)
        (state.withCall id (.ofPublish (Ipfs.publish library artifact hashHex)))
  | pinned {id : Nat} (hashHex : String) (store : Option (StoreContents Value))
      (fresh : state.calls id = none) :
      Stepped library state (.pin id hashHex store)
        (state.withCall id (.ofPin (Ipfs.pin hashHex store)))
  | resumed {id : Nat} {call : Call Value}
      (found : state.calls id = some call) (waits : call.awaitsStore = true) :
      Stepped library state (.resume id) (state.resumeCall library id call)
  | committed {id : Nat} {call : Call Value} {cid : Cid} {began : Bool}
      (found : state.calls id = some call)
      (adding : call.adding? = some (cid, began))
      (held : state.node.has cid = true) :
      Stepped library state (.commit id)
        ({ state with node := state.node.addPin cid }.withCall id
          (call.drained library .returned))
  | failed {id : Nat} {call : Call Value} {cid : Cid} {began : Bool}
      (message : String) (found : state.calls id = some call)
      (adding : call.adding? = some (cid, began))
      (excused : state.node.isPinned cid = true ∨ began = false) :
      Stepped library state (.fail id message)
        (state.withCall id
          (call.drained library (.pending (.rechecking message))))
  | delivered {cid : Cid} {bytes : Bytes}
      (verified :
        cid.multihashCode = sha2256Code → library.Verifies cid bytes) :
      Stepped library state (.deliver cid bytes)
        { state with node := state.node.put library cid bytes }

variable {state : PinningState Value}

/-- A pending `pins.add` is some call's. -/
theorem exists_call_of_adding? {id : Nat} {add : Cid × Bool}
    (pending : add ∈ state.adding? id) :
    ∃ call, state.calls id = some call ∧ call.adding? = some add := by
  have bound : (state.calls id).bind Call.adding? = some add := pending
  exact Option.bind_eq_some_iff.mp bound

theorem stepped_of_admits {action : PinningAction Value}
    (admitted : state.admits library action) :
    Stepped library state action (state.step library action) := by
  cases action with
  | publish id artifact hashHex =>
      exact .published artifact hashHex (Option.isNone_iff_eq_none.mp admitted)
  | pin id hashHex store =>
      exact .pinned hashHex store (Option.isNone_iff_eq_none.mp admitted)
  | resume id =>
      obtain ⟨call, found, waits⟩ := admitted
      have same : state.calls id = some call := found
      simp only [step, same]
      exact .resumed same waits
  | commit id =>
      obtain ⟨⟨cid, began⟩, pending, held⟩ := admitted
      obtain ⟨call, found, adding⟩ := exists_call_of_adding? pending
      have same : state.adding? id = some (cid, began) := pending
      simp only [step, same, found]
      exact .committed found adding held
  | fail id message =>
      obtain ⟨⟨cid, began⟩, pending, excused⟩ := admitted
      obtain ⟨call, found, adding⟩ := exists_call_of_adding? pending
      simp only [step, found]
      exact .failed message found adding excused
  | deliver cid bytes => exact .delivered admitted

theorem calls_withCall (state : PinningState Value) (id other : Nat)
    (call : Call Value) :
    (state.withCall id call).calls other =
      if other = id then some call else state.calls other :=
  Function.update_apply _ _ _ _

theorem calls_withPut (state : PinningState Value) (put : Option (Cid × Bytes)) :
    (state.withPut library put).calls = state.calls := by
  cases put with
  | none => rfl
  | some put => rfl

theorem grows_withPut (library : IpfsLibrary Value)
    (state : PinningState Value) (put : Option (Cid × Bytes)) :
    HeliaNode.Grows state.node (state.withPut library put).node := by
  cases put with
  | none => exact HeliaNode.Grows.refl state.node
  | some put => exact HeliaNode.grows_put state.node put.1 put.2

/-- Blocks and pins stay. -/
theorem grows_of_stepped {action : PinningAction Value}
    {next : PinningState Value} (stepped : Stepped library state action next) :
    HeliaNode.Grows state.node next.node := by
  cases stepped with
  | published => exact HeliaNode.Grows.refl state.node
  | pinned => exact HeliaNode.Grows.refl state.node
  | resumed => exact grows_withPut library state _
  | committed => exact HeliaNode.grows_addPin state.node _
  | failed => exact HeliaNode.Grows.refl state.node
  | delivered => exact HeliaNode.grows_put state.node _ _

end PinningState

end Steps

section Fits

/-! ## What holds of every call -/

/-- The bytes a call is about to put are the ones its CID names. -/
def Call.PutsHonestly (library : IpfsLibrary Value) (call : Call Value) : Prop :=
  ∀ put, call.putting? = some put → library.Verifies put.1 put.2

/-- The CID is that of the digest, and an answer that says so is about a
pinned CID. -/
structure PinCall.Fits (node : HeliaNode) (call : PinCall Value) : Prop where
  digest : ∃ digest, call.hash = ByteText.hex digest ∧ call.cid = rawCid digest
  answered :
    ∀ outcome, call.stage = .settled outcome →
      outcome.hash = call.hash ∧
        (outcome.pinned = true → node.isPinned call.cid = true)

/-- What holds of a call at each of its awaits. -/
def Call.Fits (library : IpfsLibrary Value) (node : HeliaNode)
    (call : Call Value) : Prop :=
  call.PutsHonestly library ∧
    ∀ pinCall, call = .pin pinCall → pinCall.Fits node

namespace PinCall

variable {node after : HeliaNode} {call : PinCall Value}

theorem Fits.grown (fits : call.Fits node) (grows : HeliaNode.Grows node after) :
    call.Fits after where
  digest := fits.digest
  answered outcome settled := by
    obtain ⟨hash, pinned⟩ := fits.answered outcome settled
    exact ⟨hash, fun positive => grows.pinned _ (pinned positive)⟩

/-- A stage that answers nothing fits. -/
theorem Fits.unsettled
    (fits : call.Fits node) {stage : PinStage}
    (pending : ∀ outcome, stage ≠ .settled outcome) :
    PinCall.Fits node { call with stage := stage } where
  digest := fits.digest
  answered outcome settled := absurd settled (pending outcome)

/-- So does an answer that the CID is pinned, when it is. -/
theorem Fits.succeeded
    (fits : call.Fits node) (source : PinSource)
    (pinned : node.isPinned call.cid = true) :
    PinCall.Fits node
      { call with stage := .settled (call.outcome library source) } where
  digest := fits.digest
  answered outcome settled := by
    cases settled
    exact ⟨rfl, fun _ => pinned⟩

theorem Fits.failed (fits : call.Fits node) (message : String) :
    PinCall.Fits node
      { call with stage := .settled (call.failure library message) } where
  digest := fits.digest
  answered outcome settled := by
    cases settled
    exact ⟨rfl, fun positive => absurd positive Bool.false_ne_true⟩

theorem nextKind_ne_settled (kinds : List ArtifactKind) (outcome : PinOutcome) :
    nextKind kinds ≠ .settled outcome := by
  cases kinds with
  | nil => exact nofun
  | cons kind rest => exact nofun

/-- The artifact a call asks for: an object that hashes to the digest. -/
def IsAsked (library : IpfsLibrary Value) (call : PinCall Value) (value : Value) :
    Prop :=
  library.isObject value = true ∧ library.artifactHashHex value = call.hash

/-- The body of the loop either puts the artifact that was asked for or goes on
to the next kind. -/
theorem afterRead_cases (library : IpfsLibrary Value) (call : PinCall Value)
    (rest : List ArtifactKind) (found : Option Value) :
    (∃ value, found = some value ∧ call.IsAsked library value ∧
      call.afterRead library rest found =
        .putting (library.canonicalArtifactBytes value)) ∨
    ((∀ value, found = some value → ¬ call.IsAsked library value) ∧
      call.afterRead library rest found = nextKind rest) := by
  cases found with
  | none => exact .inr ⟨nofun, rfl⟩
  | some value =>
      simp only [afterRead]
      by_cases isObject : library.isObject value = true
      · rw [if_pos isObject]
        by_cases hashes : library.artifactHashHex value = call.hash
        · rw [if_neg (not_not_intro hashes)]
          exact .inl ⟨value, rfl, ⟨isObject, hashes⟩, rfl⟩
        · rw [if_pos hashes]
          refine .inr ⟨?_, rfl⟩
          intro other same asked
          cases same
          exact hashes asked.2
      · rw [if_neg isObject]
        refine .inr ⟨?_, rfl⟩
        intro other same asked
        cases same
        exact isObject asked.1

theorem afterRead_ne_settled
    (rest : List ArtifactKind) (found : Option Value) (outcome : PinOutcome) :
    call.afterRead library rest found ≠ .settled outcome := by
  rcases afterRead_cases library call rest found with
    ⟨value, -, -, goesOn⟩ | ⟨-, goesOn⟩
  · rw [goesOn]
    exact nofun
  · rw [goesOn]
    exact nextKind_ne_settled rest outcome

/-- What a drained pin answers fits, when it returns only from a pinned CID. -/
theorem Fits.afterDrain
    (fits : call.Fits node) (source : PinSource) (result : Drained)
    (returned : result = .returned → node.isPinned call.cid = true) :
    PinCall.Fits node
      { call with stage := call.afterDrain library source result } := by
  cases result with
  | pending stage => exact fits.unsettled (by exact nofun)
  | returned => exact fits.succeeded source (returned rfl)
  | threw message => exact fits.failed message

/-- The catch clause lets only a pinned CID pass. -/
theorem isPinned_of_recheck {cid : Cid} {message : String}
    (passed : recheck node cid message = .returned) :
    node.isPinned cid = true := by
  unfold recheck at passed
  by_cases pinned : node.isPinned cid = true
  · exact pinned
  · rw [if_neg pinned] at passed
    cases passed

theorem Fits.resume (fits : call.Fits node) :
    PinCall.Fits node { call with stage := call.resume library node } := by
  cases stage : call.stage with
  | checking =>
      simp only [PinCall.resume, stage]
      by_cases pinned : node.isPinned call.cid = true
      · rw [if_pos pinned]
        exact fits.succeeded .alreadyPinned pinned
      · rw [if_neg pinned]
        by_cases stored : call.store.isSome = true
        · rw [if_pos stored]
          exact fits.unsettled (nextKind_ne_settled _)
        · rw [if_neg stored]
          exact fits.unsettled (by exact nofun)
  | reading kind rest =>
      simp only [PinCall.resume, stage]
      exact fits.unsettled (afterRead_ne_settled rest _)
  | putting bytes =>
      simp only [PinCall.resume, stage]
      exact fits.unsettled (by exact nofun)
  | probing =>
      simp only [PinCall.resume, stage]
      exact fits.unsettled (by exact nofun)
  | draining source drain =>
      cases drain with
      | adding held =>
          simp only [PinCall.resume, stage]
          exact fits.unsettled (by exact nofun)
      | rechecking message =>
          simp only [PinCall.resume, stage]
          exact fits.afterDrain source _ isPinned_of_recheck
  | settled outcome =>
      have same : call.resume library node = call.stage := by
        simp only [PinCall.resume, stage]
      rw [same]
      exact fits

/-- Only an artifact that was asked for is put. -/
theorem exists_isAsked_of_resume_eq_putting {bytes : Bytes}
    (putting : call.resume library node = .putting bytes) :
    ∃ value,
      call.IsAsked library value ∧
        bytes = library.canonicalArtifactBytes value := by
  unfold resume at putting
  split at putting
  · split at putting
    · cases putting
    · split at putting <;> cases putting
  · rename_i kind rest _
    rcases afterRead_cases library call rest (call.stored? kind)
      with ⟨value, -, asked, goesOn⟩ | ⟨-, goesOn⟩
    · rw [goesOn] at putting
      cases putting
      exact ⟨value, asked, rfl⟩
    · rw [goesOn] at putting
      cases rest <;> cases putting
  · cases putting
  · cases putting
  · unfold recheck at putting
    split at putting <;> cases putting
  · rename_i notReading notPutting notProbing notRechecking
    exact absurd putting (notPutting bytes)

end PinCall

theorem PublishCall.resume_ne_putting
    (node : HeliaNode) (call : PublishCall) (bytes : Bytes) :
    call.resume library node ≠ .putting bytes := by
  unfold PublishCall.resume
  split
  · exact nofun
  · split <;> exact nofun
  · unfold recheck
    split <;> exact nofun
  · rename_i notPutting _ _
    exact notPutting bytes

theorem PublishCall.afterDrain_ne_putting
    (call : PublishCall) (result : Drained) (bytes : Bytes) :
    call.afterDrain library result ≠ .putting bytes := by
  cases result <;> exact nofun

theorem PinCall.afterDrain_ne_putting
    (call : PinCall Value) (source : PinSource) (result : Drained)
    (bytes : Bytes) :
    call.afterDrain library source result ≠ .putting bytes := by
  cases result <;> exact nofun

namespace Call

variable {node after : HeliaNode} {call : Call Value}

theorem putting?_publish {call : PublishCall} {put : Cid × Bytes} :
    (Call.publish call : Call Value).putting? = some put ↔
      put.1 = call.cid ∧ call.stage = .putting put.2 := by
  obtain ⟨cid, stage⟩ := call
  obtain ⟨other, bytes⟩ := put
  cases stage <;> simp [putting?, eq_comm]

theorem putting?_pin {call : PinCall Value} {put : Cid × Bytes} :
    (Call.pin call).putting? = some put ↔
      put.1 = call.cid ∧ call.stage = .putting put.2 := by
  obtain ⟨hash, cid, store, stage⟩ := call
  obtain ⟨other, bytes⟩ := put
  cases stage <;> simp [putting?, eq_comm]

/-- The call whose `pins.add` is over. -/
theorem adding?_pin {call : PinCall Value} {add : Cid × Bool} :
    (Call.pin call).adding? = some add ↔
      add.1 = call.cid ∧
        ∃ source, call.stage = .draining source (.adding add.2) := by
  obtain ⟨hash, cid, store, stage⟩ := call
  obtain ⟨other, began⟩ := add
  cases stage with
  | draining source drain =>
      cases drain <;> simp [adding?, eq_comm]
  | _ => simp [adding?]

theorem drained_pin
    {call : PinCall Value} {result : Drained} {source : PinSource} {began : Bool}
    (stage : call.stage = .draining source (.adding began)) :
    (Call.pin call).drained library result =
      .pin { call with stage := call.afterDrain library source result } := by
  simp only [drained, stage]

theorem Fits.grown (fits : call.Fits library node)
    (grows : HeliaNode.Grows node after) : call.Fits library after := by
  refine ⟨fits.1, ?_⟩
  intro pinCall same
  exact (fits.2 pinCall same).grown grows

theorem fits_refused (message : String) :
    (Call.refused message : Call Value).Fits library node :=
  ⟨nofun, nofun⟩

theorem Fits.ofStage {publishCall : PublishCall} {stage : PublishStage}
    (quiet : ∀ bytes, stage ≠ .putting bytes) :
    (Call.publish { publishCall with stage := stage }).Fits library node := by
  refine ⟨?_, nofun⟩
  intro put putting
  exact absurd (putting?_publish.mp putting).2 (quiet put.2)

theorem fits_pin {pinCall : PinCall Value}
    (fits : pinCall.Fits node)
    (verifies :
      ∀ bytes, pinCall.stage = .putting bytes →
        library.Verifies pinCall.cid bytes) :
    (Call.pin pinCall).Fits library node := by
  constructor
  · intro put putting
    obtain ⟨same, stage⟩ := putting?_pin.mp putting
    rw [same]
    exact verifies put.2 stage
  · intro other same
    cases same
    exact fits

theorem Fits.resume (lawful : library.Lawful) (fits : call.Fits library node) :
    (call.resume library node).Fits library node := by
  cases call with
  | refused message => exact fits
  | publish call =>
      exact Fits.ofStage (PublishCall.resume_ne_putting node call)
  | pin call =>
      have own := fits.2 call rfl
      apply fits_pin own.resume
      intro bytes putting
      obtain ⟨value, asked, rfl⟩ :=
        PinCall.exists_isAsked_of_resume_eq_putting putting
      obtain ⟨digest, hash, cid⟩ := own.digest
      have hashes : library.artifactHashHex value = ByteText.hex digest := by
        rw [asked.2, hash]
      rw [cid]
      exact lawful.verifies_of_artifactHashHex hashes

/-- A call whose `pins.add` is over still fits, when it returned only with the
pin. -/
theorem Fits.drained {cid : Cid} {began : Bool} {result : Drained}
    (fits : call.Fits library node) (adding : call.adding? = some (cid, began))
    (returned : result = .returned → node.isPinned cid = true) :
    (call.drained library result).Fits library node := by
  cases call with
  | refused message => exact fits
  | publish call =>
      obtain ⟨own, stage⟩ := call
      cases stage with
      | draining drain =>
          exact Fits.ofStage (PublishCall.afterDrain_ne_putting _ result)
      | _ => exact fits
  | pin call =>
      have own := fits.2 call rfl
      obtain ⟨hash, ownCid, store, stage⟩ := call
      cases stage with
      | draining source drain =>
          cases drain with
          | adding held =>
              cases adding
              apply fits_pin (own.afterDrain source result returned)
              intro bytes putting
              exact
                absurd putting (PinCall.afterDrain_ne_putting _ source result bytes)
          | rechecking message => cases adding
      | _ => exact fits

end Call

end Fits

section Begun

/-! ## Calls that come in -/

theorem publish_eq_ok
    {artifact : Value} {hashHex : Option String} {call : PublishCall}
    (begun : publish library artifact hashHex = .ok call) :
    cidFromHashHex (library.artifactHashHex artifact) = .ok call.cid ∧
      call.stage = .putting (library.canonicalArtifactBytes artifact) := by
  simp only [publish, bind, Except.bind, pure, Except.pure] at begun
  cases claimed : checkClaim (library.artifactHashHex artifact) hashHex with
  | error message =>
      rw [claimed] at begun
      cases begun
  | ok checked =>
      cases named : cidFromHashHex (library.artifactHashHex artifact) with
      | error message =>
          rw [claimed, named] at begun
          cases begun
      | ok cid =>
          rw [claimed, named] at begun
          cases begun
          exact ⟨rfl, rfl⟩

theorem pin_of_normalizeDigestHex
    {hashHex hash : String} {cid : Cid}
    (accepted : normalizeDigestHex hashHex = .ok hash)
    (named : cidFromHashHex hash = .ok cid)
    (store : Option (StoreContents Value)) :
    pin hashHex store = .ok { hash, cid, store, stage := .checking } := by
  simp only [pin, bind, Except.bind, accepted, named, pure, Except.pure]

theorem pin_eq_ok
    {hashHex : String} {store : Option (StoreContents Value)}
    {call : PinCall Value} (begun : pin hashHex store = .ok call) :
    normalizeDigestHex hashHex = .ok call.hash ∧
      cidFromHashHex call.hash = .ok call.cid ∧ call.stage = .checking := by
  cases accepted : normalizeDigestHex hashHex with
  | error message =>
      simp only [pin, bind, Except.bind, accepted] at begun
      cases begun
  | ok hash =>
      cases named : cidFromHashHex hash with
      | error message =>
          simp only [pin, bind, Except.bind, accepted, named] at begun
          cases begun
      | ok cid =>
          rw [pin_of_normalizeDigestHex accepted named] at begun
          cases begun
          exact ⟨rfl, named, rfl⟩

/-- An accepted digest and its CID say the same. -/
theorem exists_digest_of_named
    {hashHex hash : String} {cid : Cid}
    (accepted : normalizeDigestHex hashHex = .ok hash)
    (named : cidFromHashHex hash = .ok cid) :
    ∃ digest, hash = ByteText.hex digest ∧ cid = rawCid digest := by
  obtain ⟨digest, size, rfl⟩ := normalizeDigestHex_eq_ok accepted
  rw [cidFromHashHex_hex size] at named
  cases named
  exact ⟨digest, rfl, rfl⟩

theorem fits_ofPublish (lawful : library.Lawful) (node : HeliaNode)
    (artifact : Value) (hashHex : Option String) :
    (Call.ofPublish (publish library artifact hashHex) :
      Call Value).Fits library node := by
  cases begun : publish library artifact hashHex with
  | error message => exact Call.fits_refused message
  | ok call =>
      obtain ⟨named, stage⟩ := publish_eq_ok begun
      refine ⟨?_, nofun⟩
      intro put putting
      obtain ⟨same, bytes⟩ := Call.putting?_publish.mp putting
      rw [stage] at bytes
      rw [lawful.cidFromHashHex_artifact] at named
      rw [same, ← PublishStage.putting.inj bytes, ← Except.ok.inj named]
      rfl

theorem fits_ofPin (library : IpfsLibrary Value) (node : HeliaNode)
    (hashHex : String) (store : Option (StoreContents Value)) :
    (Call.ofPin (pin hashHex store)).Fits library node := by
  cases begun : pin hashHex store with
  | error message => exact Call.fits_refused message
  | ok call =>
      obtain ⟨accepted, named, stage⟩ := pin_eq_ok begun
      have fits : call.Fits node := by
        refine ⟨exists_digest_of_named accepted named, ?_⟩
        intro outcome settled
        rw [stage] at settled
        cases settled
      apply Call.fits_pin fits
      intro bytes putting
      rw [stage] at putting
      cases putting

end Begun

namespace PinningState

section Invariant

/-! ## What holds of every state -/

variable {state next : PinningState Value} {action : PinningAction Value}

/-- Every block a call put, and every call under way. -/
structure Fits (library : IpfsLibrary Value) (state : PinningState Value) :
    Prop where
  puts : ∀ put ∈ state.puts, library.Verifies put.1 put.2
  calls :
    ∀ id call, state.calls id = some call → call.Fits library state.node

/-- A state goes on fitting when its node grows and one call gets a new state
that fits. -/
theorem Fits.withCall
    (fits : state.Fits library) (other : PinningState Value)
    (puts : ∀ put ∈ other.puts, library.Verifies put.1 put.2)
    (same : other.calls = state.calls)
    (grows : HeliaNode.Grows state.node other.node)
    {id : Nat} {call : Call Value} (own : call.Fits library other.node) :
    (other.withCall id call).Fits library where
  puts := puts
  calls asked found held := by
    rw [calls_withCall, same] at held
    by_cases here : asked = id
    · rw [if_pos here] at held
      cases held
      exact own
    · rw [if_neg here] at held
      exact (fits.calls asked found held).grown grows

theorem Fits.stepped (lawful : library.Lawful)
    (fits : state.Fits library) (stepped : Stepped library state action next) :
    next.Fits library := by
  cases stepped with
  | published artifact hashHex fresh =>
      have own := fits_ofPublish lawful state.node artifact hashHex
      exact fits.withCall state fits.puts rfl (HeliaNode.Grows.refl _) own
  | pinned hashHex store fresh =>
      have own := fits_ofPin library state.node hashHex store
      exact fits.withCall state fits.puts rfl (HeliaNode.Grows.refl _) own
  | @resumed id call found waits =>
      have before := fits.calls id call found
      have grows := grows_withPut library state call.putting?
      have puts :
          ∀ put ∈ (state.withPut library call.putting?).puts,
            library.Verifies put.1 put.2 := by
        cases putting : call.putting? with
        | none => exact fits.puts
        | some newest =>
            have verified := before.1 newest putting
            exact List.forall_mem_cons.mpr ⟨verified, fits.puts⟩
      exact
        fits.withCall _ puts (state.calls_withPut _) grows
          ((before.grown grows).resume lawful)
  | @committed id call cid began found adding held =>
      have grows := HeliaNode.grows_addPin state.node cid
      have before := (fits.calls id call found).grown grows
      have pinned : (state.node.addPin cid).isPinned cid = true := by
        rw [HeliaNode.isPinned_addPin, decide_eq_true rfl, Bool.true_or]
      have own :
          (call.drained library .returned).Fits library
            (state.node.addPin cid) :=
        before.drained adding fun _ => pinned
      exact
        fits.withCall { state with node := state.node.addPin cid } fits.puts rfl
          grows own
  | @failed id call cid began message found adding excused =>
      have before := fits.calls id call found
      have own :
          (call.drained library (.pending (.rechecking message))).Fits library
            state.node :=
        before.drained adding nofun
      exact fits.withCall state fits.puts rfl (HeliaNode.Grows.refl _) own
  | @delivered cid bytes verified =>
      refine ⟨fits.puts, ?_⟩
      intro id call found
      exact (fits.calls id call found).grown (HeliaNode.grows_put _ _ _)

/-- A CID stays pinned only with its block. -/
theorem backed_of_stepped {cid : Cid}
    (backed : state.node.Backed cid)
    (stepped : Stepped library state action next) : next.node.Backed cid := by
  cases stepped with
  | published => exact backed
  | pinned => exact backed
  | @resumed id call found waits =>
      unfold resumeCall
      cases call.putting? with
      | none => exact backed
      | some put => exact backed.put
  | committed found adding held => exact backed.addPin held
  | failed => exact backed
  | delivered => exact backed.put

/-- A block stays the one its CID names. -/
theorem honest_of_stepped {cid : Cid}
    (sha256 : cid.multihashCode = sha2256Code)
    (fits : state.Fits library) (honest : state.node.Honest library cid)
    (stepped : Stepped library state action next) :
    next.node.Honest library cid := by
  cases stepped with
  | published => exact honest
  | pinned => exact honest
  | @resumed id call found waits =>
      unfold resumeCall
      cases putting : call.putting? with
      | none => exact honest
      | some put =>
          apply HeliaNode.Honest.put honest
          intro same
          rw [same]
          exact (fits.calls id call found).1 put putting
  | committed => exact honest
  | failed => exact honest
  | delivered verified =>
      apply HeliaNode.Honest.put honest
      intro same
      rw [same] at sha256 ⊢
      exact verified sha256

end Invariant

end PinningState

section Sure

/-! ## Pins that cannot fail -/

namespace PinCall

variable {node after : HeliaNode} {call : PinCall Value}

/-- The artifact store answers this kind with the artifact asked for. -/
def Holds (library : IpfsLibrary Value) (call : PinCall Value)
    (kind : ArtifactKind) : Prop :=
  ∃ value, call.stored? kind = some value ∧ call.IsAsked library value

/-- What a pin has in hand at each await when it is bound to succeed. -/
def Sure (library : IpfsLibrary Value) (node : HeliaNode)
    (call : PinCall Value) : Prop :=
  match call.stage with
  | .checking =>
      node.has call.cid = true ∨
        ∃ kind ∈ digestKeyedKinds, call.Holds library kind
  | .reading kind rest =>
      node.has call.cid = true ∨
        ∃ held ∈ kind :: rest, call.Holds library held
  | .putting _ => True
  | .probing => node.has call.cid = true
  | .draining _ (.adding held) => held = true ∧ node.has call.cid = true
  | .draining _ (.rechecking _) => node.isPinned call.cid = true
  | .settled outcome => outcome.pinned = true

/-- The most steps a pin can still take. -/
def stepsLeft : PinStage → Nat
  | .checking => digestKeyedKinds.length + 4
  | .reading _ rest => rest.length + 4
  | .putting _ => 3
  | .probing => 3
  | .draining _ (.adding _) => 2
  | .draining _ (.rechecking _) => 1
  | .settled _ => 0

theorem Sure.grown (sure : call.Sure library node)
    (grows : HeliaNode.Grows node after) : call.Sure library after := by
  unfold Sure at sure ⊢
  cases stage : call.stage with
  | checking =>
      simp only [stage] at sure ⊢
      exact sure.imp_left (grows.has _)
  | reading kind rest =>
      simp only [stage] at sure ⊢
      exact sure.imp_left (grows.has _)
  | putting bytes => trivial
  | probing =>
      simp only [stage] at sure ⊢
      exact grows.has _ sure
  | draining source drain =>
      cases drain with
      | adding held =>
          simp only [stage] at sure ⊢
          exact sure.imp_right (grows.has _)
      | rechecking message =>
          simp only [stage] at sure ⊢
          exact grows.pinned _ sure
  | settled outcome =>
      simp only [stage] at sure ⊢
      exact sure

/-- The loop goes on with what is left to read. -/
theorem sure_nextKind (kinds : List ArtifactKind)
    (left :
      node.has call.cid = true ∨ ∃ kind ∈ kinds, call.Holds library kind) :
    PinCall.Sure library node { call with stage := nextKind kinds } := by
  cases kinds with
  | nil =>
      rcases left with held | ⟨kind, none, -⟩
      · exact held
      · exact absurd none List.not_mem_nil
  | cons kind rest => exact left

theorem stepsLeft_nextKind_le (kinds : List ArtifactKind) :
    stepsLeft (nextKind kinds) ≤ kinds.length + 3 := by
  cases kinds with
  | nil => exact Nat.le_refl 3
  | cons kind rest =>
      simp only [nextKind, stepsLeft, List.length_cons]
      omega

/-- An artifact that was passed over is not the one that is held. -/
theorem Sure.afterRead {kind : ArtifactKind} {rest : List ArtifactKind}
    (left :
      node.has call.cid = true ∨
        ∃ held ∈ kind :: rest, call.Holds library held) :
    PinCall.Sure library node
      { call with
        stage := call.afterRead library rest (call.stored? kind) } := by
  rcases afterRead_cases library call rest (call.stored? kind)
    with ⟨value, -, -, goesOn⟩ | ⟨other, goesOn⟩
  · rw [goesOn]
    trivial
  · rw [goesOn]
    apply sure_nextKind
    rcases left with block | ⟨held, member, holds⟩
    · exact .inl block
    · rcases List.mem_cons.mp member with same | later
      · obtain ⟨value, found, asked⟩ := holds
        rw [same] at found
        exact absurd asked (other value found)
      · exact .inr ⟨held, later, holds⟩

theorem Sure.resume (sure : call.Sure library node)
    (put : ∀ bytes, call.stage = .putting bytes → node.has call.cid = true) :
    PinCall.Sure library node
      { call with stage := call.resume library node } := by
  unfold Sure at sure
  cases stage : call.stage with
  | checking =>
      simp only [stage] at sure
      simp only [PinCall.resume, stage]
      by_cases pinned : node.isPinned call.cid = true
      · rw [if_pos pinned]
        rfl
      · rw [if_neg pinned]
        by_cases stored : call.store.isSome = true
        · rw [if_pos stored]
          exact sure_nextKind digestKeyedKinds sure
        · rw [if_neg stored]
          rcases sure with block | ⟨kind, -, value, found, -⟩
          · exact block
          · have absent : call.store = none := by
              rwa [Bool.not_eq_true, Option.isSome_eq_false_iff,
                Option.isNone_iff_eq_none] at stored
            rw [stored?, absent] at found
            cases found
  | reading kind rest =>
      simp only [stage] at sure
      simp only [PinCall.resume, stage]
      exact Sure.afterRead sure
  | putting bytes =>
      have block := put bytes stage
      simp only [PinCall.resume, stage]
      exact ⟨block, block⟩
  | probing =>
      simp only [stage] at sure
      simp only [PinCall.resume, stage]
      exact ⟨sure, sure⟩
  | draining source drain =>
      cases drain with
      | adding held =>
          simp only [stage] at sure
          simp only [PinCall.resume, stage]
          exact sure
      | rechecking message =>
          simp only [stage] at sure
          simp only [PinCall.resume, stage, recheck, if_pos sure]
          rfl
  | settled outcome =>
      simp only [stage] at sure
      simp only [PinCall.resume, stage]
      exact sure

theorem stepsLeft_resume_lt (library : IpfsLibrary Value)
    (waits : (Call.pin call).awaitsStore = true) (node : HeliaNode) :
    stepsLeft (call.resume library node) < stepsLeft call.stage := by
  obtain ⟨hash, cid, store, stage⟩ := call
  cases stage with
  | checking =>
      simp only [PinCall.resume]
      split
      · exact Nat.succ_pos _
      · split
        · exact Nat.lt_succ_of_le (stepsLeft_nextKind_le digestKeyedKinds)
        · decide
  | reading kind rest =>
      have next := stepsLeft_nextKind_le rest
      simp only [PinCall.resume]
      rcases PinCall.afterRead_cases library
          { hash, cid, store, stage := .reading kind rest } rest
          (PinCall.stored? { hash, cid, store, stage := .reading kind rest } kind)
        with ⟨value, -, -, goesOn⟩ | ⟨-, goesOn⟩
      · rw [goesOn]
        simp only [stepsLeft]
        omega
      · rw [goesOn]
        exact Nat.lt_succ_of_le next
  | putting bytes => exact Nat.lt_succ_self 2
  | probing => exact Nat.lt_succ_self 2
  | draining source drain =>
      cases drain with
      | adding held => cases waits
      | rechecking message =>
          simp only [PinCall.resume, recheck]
          split <;> exact Nat.succ_pos 0
  | settled outcome => cases waits

end PinCall

/-- The steps a call takes itself. -/
def PinningAction.isStepOf (id : Nat) : PinningAction Value → Bool
  | .resume other => decide (other = id)
  | .commit other => decide (other = id)
  | .fail other _ => decide (other = id)
  | _ => false

namespace PinningState

variable {state next : PinningState Value} {action : PinningAction Value}

/-- A pin call goes on over an action: it keeps what it was asked, stays sure,
and a step of its own uses up one of those it has left. -/
def GoesOn (library : IpfsLibrary Value) (id : Nat) (call : PinCall Value)
    (state : PinningState Value) (action : PinningAction Value)
    (next : PinningState Value) : Prop :=
  ∃ stage,
    next.calls id = some (.pin { call with stage := stage }) ∧
      (call.Sure library state.node →
        PinCall.Sure library next.node { call with stage := stage }) ∧
      PinCall.stepsLeft stage + [action].countP (·.isStepOf id) ≤
        PinCall.stepsLeft call.stage

variable {id : Nat} {call : PinCall Value}

theorem goesOn_of_same
    (found : state.calls id = some (.pin call))
    (same : next.calls id = state.calls id)
    (grows : HeliaNode.Grows state.node next.node)
    (foreign : action.isStepOf id = false) :
    GoesOn library id call state action next := by
  refine ⟨call.stage, same.trans found, fun sure => sure.grown grows, ?_⟩
  rw [List.countP_singleton, foreign]
  exact Nat.le_refl _

theorem goesOn_resume
    (waits : (Call.pin call).awaitsStore = true) :
    GoesOn library id call state (.resume id)
      (state.resumeCall library id (.pin call)) := by
  have grows := grows_withPut library state (Call.pin call).putting?
  have fewer :=
    PinCall.stepsLeft_resume_lt library waits
      (state.withPut library (Call.pin call).putting?).node
  refine ⟨_, Function.update_self _ _ _, ?_, ?_⟩
  · intro sure
    apply (sure.grown grows).resume
    intro bytes stage
    have putting : (Call.pin call).putting? = some (call.cid, bytes) :=
      Call.putting?_pin.mpr ⟨rfl, stage⟩
    have written :
        (state.node.put library call.cid bytes).has call.cid = true := by
      rw [HeliaNode.has_put, decide_eq_true rfl, Bool.true_or]
    rw [putting]
    exact written
  · rw [List.countP_singleton]
    split <;> omega

theorem goesOn_commit {cid : Cid} {began : Bool}
    (adding : (Call.pin call).adding? = some (cid, began)) :
    GoesOn library id call state (.commit id)
      ({ state with node := state.node.addPin cid }.withCall id
        ((Call.pin call).drained library .returned)) := by
  obtain ⟨-, source, stage⟩ := Call.adding?_pin.mp adding
  rw [Call.drained_pin stage]
  refine ⟨_, Function.update_self _ _ _, fun _ => rfl, ?_⟩
  rw [List.countP_singleton, stage]
  split <;> simp [PinCall.afterDrain, PinCall.stepsLeft]

theorem goesOn_fail {cid : Cid} {began : Bool} {message : String}
    (adding : (Call.pin call).adding? = some (cid, began))
    (excused : state.node.isPinned cid = true ∨ began = false) :
    GoesOn library id call state (.fail id message)
      (state.withCall id
        ((Call.pin call).drained library (.pending (.rechecking message)))) := by
  obtain ⟨same, source, stage⟩ := Call.adding?_pin.mp adding
  rw [Call.drained_pin stage]
  refine ⟨_, Function.update_self _ _ _, ?_, ?_⟩
  · intro sure
    simp only [PinCall.Sure, stage] at sure
    rcases excused with pinned | absent
    · have own : cid = call.cid := same
      rw [own] at pinned
      exact pinned
    · rw [absent] at sure
      exact absurd sure.1 Bool.false_ne_true
  · rw [List.countP_singleton, stage]
    split <;> simp [PinCall.afterDrain, PinCall.stepsLeft]

/-- Every step there is takes a pin call on. -/
theorem goesOn_of_stepped
    (found : state.calls id = some (.pin call))
    (stepped : Stepped library state action next) :
    GoesOn library id call state action next := by
  have grows := grows_of_stepped stepped
  have notFresh : ∀ other, state.calls other = none → ¬ id = other := by
    intro other fresh same
    rw [same, fresh] at found
    cases found
  have foreign : ∀ other, ¬ id = other → decide (other = id) = false :=
    fun other apart => decide_eq_false fun same => apart same.symm
  cases stepped with
  | @published other artifact hashHex fresh =>
      apply goesOn_of_same found _ grows rfl
      rw [calls_withCall, if_neg (notFresh other fresh)]
  | @pinned other hashHex store fresh =>
      apply goesOn_of_same found _ grows rfl
      rw [calls_withCall, if_neg (notFresh other fresh)]
  | delivered => exact goesOn_of_same found rfl grows rfl
  | @resumed other held heldFound waits =>
      by_cases same : id = other
      · subst same
        rw [found] at heldFound
        cases heldFound
        exact goesOn_resume waits
      · apply goesOn_of_same found ?_ grows ?_
        · rw [resumeCall, calls_withCall, if_neg same, calls_withPut]
        · exact foreign other same
  | @committed other held cid began heldFound adding block =>
      by_cases same : id = other
      · subst same
        rw [found] at heldFound
        cases heldFound
        exact goesOn_commit adding
      · apply goesOn_of_same found ?_ grows ?_
        · rw [calls_withCall, if_neg same]
        · exact foreign other same
  | @failed other held cid began message heldFound adding excused =>
      by_cases same : id = other
      · subst same
        rw [found] at heldFound
        cases heldFound
        exact goesOn_fail adding excused
      · apply goesOn_of_same found ?_ grows ?_
        · rw [calls_withCall, if_neg same]
        · exact foreign other same

/-- A sure call that has not answered can take a step. -/
theorem exists_step_of_sure
    (found : state.calls id = some (.pin call))
    (sure : call.Sure library state.node)
    (unanswered : ∀ outcome, call.stage ≠ .settled outcome) :
    ∃ action : PinningAction Value,
      action.isStepOf id = true ∧ state.admits library action := by
  have resumes :
      (Call.pin call).awaitsStore = true →
        ∃ action : PinningAction Value,
          action.isStepOf id = true ∧ state.admits library action := by
    intro waits
    exact ⟨.resume id, decide_eq_true rfl, .pin call, found, waits⟩
  obtain ⟨hash, cid, store, stage⟩ := call
  cases stage with
  | draining source drain =>
      cases drain with
      | adding held =>
          have adding : state.adding? id = some (cid, held) := by
            rw [adding?, found]
            rfl
          exact ⟨.commit id, decide_eq_true rfl, (cid, held), adding, sure.2⟩
      | rechecking message => exact resumes rfl
  | settled outcome => exact absurd rfl (unanswered outcome)
  | _ => exact resumes rfl

end PinningState

end Sure

section Runs

/-! ## Runs -/

open PinningState

theorem pinning_fits (lawful : library.Lawful) (node : HeliaNode) :
    (pinning library node).Always (Fits library) := by
  apply Machine.Always.of_inductive
  · exact ⟨nofun, nofun⟩
  · intro state action fits admitted
    exact fits.stepped lawful (stepped_of_admits admitted)

theorem pinning_backed {node : HeliaNode} {cid : Cid}
    (backed : node.Backed cid) :
    (pinning library node).Always fun state => state.node.Backed cid := by
  apply Machine.Always.of_inductive
  · exact backed
  · intro state action before admitted
    exact backed_of_stepped before (stepped_of_admits admitted)

theorem pinning_honest (lawful : library.Lawful) {node : HeliaNode} {cid : Cid}
    (sha256 : cid.multihashCode = sha2256Code)
    (honest : node.Honest library cid) :
    (pinning library node).Always fun state =>
      state.Fits library ∧ state.node.Honest library cid := by
  apply Machine.Always.of_inductive
  · exact ⟨⟨nofun, nofun⟩, honest⟩
  · intro state action before admitted
    have stepped := stepped_of_admits admitted
    exact
      ⟨before.1.stepped lawful stepped,
        honest_of_stepped sha256 before.1 before.2 stepped⟩

/-- What one step keeps of a pin call, a run keeps. -/
theorem pin_of_runFrom (node : HeliaNode) {id : Nat}
    (later : List (PinningAction Value)) :
    ∀ (state : PinningState Value) (call : PinCall Value),
      state.calls id = some (.pin call) →
        (pinning library node).AdmitsFrom state later →
          ∃ stage,
            ((pinning library node).runFrom state later).calls id =
                some (.pin { call with stage := stage }) ∧
              (call.Sure library state.node →
                PinCall.Sure library
                  ((pinning library node).runFrom state later).node
                  { call with stage := stage }) ∧
              PinCall.stepsLeft stage + later.countP (·.isStepOf id) ≤
                PinCall.stepsLeft call.stage := by
  induction later with
  | nil =>
      intro state call found _
      exact ⟨call.stage, found, fun sure => sure, Nat.le_refl _⟩
  | cons action later inductionHypothesis =>
      intro state call found admitted
      obtain ⟨first, foundNext, sureNext, leftNext⟩ :=
        goesOn_of_stepped found (stepped_of_admits admitted.1)
      obtain ⟨last, foundLast, sureLast, leftLast⟩ :=
        inductionHypothesis _ _ foundNext admitted.2
      refine ⟨last, foundLast, fun sure => sureLast (sureNext sure), ?_⟩
      have split :
          ([action] ++ later).countP (·.isStepOf id) =
            [action].countP (·.isStepOf id) + later.countP (·.isStepOf id) :=
        List.countP_append
      rw [List.singleton_append] at split
      simp only at leftLast
      omega

/-- No call puts a block under a CID its bytes do not hash to.  A pin that
answers `pinned` is about a pinned CID, with its block when the node it started
from pinned no CID without one, and with the right block when that node held no
wrong one.  A pin of what is here, as a block or as an artifact under its own
digest, takes at most seven steps of its own, is never left without one, and
answers `pinned`. -/
theorem pins_are_honest
    (library : IpfsLibrary Value) (lawful : library.Lawful) (node : HeliaNode)
    (actions : List (PinningAction Value))
    (admissible : (pinning library node).Admits actions) :
    (∀ put ∈ ((pinning library node).run actions).puts,
      library.Verifies put.1 put.2) ∧
    ∀ earlier id hashHex store later hash cid,
      actions = earlier ++ .pin id hashHex store :: later →
      normalizeDigestHex hashHex = .ok hash →
      cidFromHashHex hash = .ok cid →
        ∃ stage,
          ((pinning library node).run actions).calls id =
            some (.pin { hash, cid, store, stage }) ∧
          (∀ outcome, stage = .settled outcome → outcome.pinned = true →
            outcome.hash = hash ∧
            ((pinning library node).run actions).node.isPinned cid = true ∧
            (node.Backed cid →
              ((pinning library node).run actions).node.has cid = true) ∧
            (node.Honest library cid →
              ∀ bytes,
                ((pinning library node).run actions).node.blocks cid =
                    some bytes →
                  ByteText.hex (library.sha256 bytes) = hash)) ∧
          (((pinning library node).run earlier).node.has cid = true ∨
            (∃ contents, store = some contents ∧
              ∃ kind ∈ digestKeyedKinds, ∃ value,
                contents kind hash = some value ∧
                library.isObject value = true ∧
                library.artifactHashHex value = hash) →
            (∀ outcome, stage = .settled outcome → outcome.pinned = true) ∧
            later.countP (·.isStepOf id) ≤ 7 ∧
            ((∃ outcome, stage = .settled outcome) ∨
              ∃ action : PinningAction Value,
                action.isStepOf id = true ∧
                ((pinning library node).run actions).admits library action)) := by
  have fits := pinning_fits lawful node actions admissible
  refine ⟨fits.puts, ?_⟩
  rintro earlier id hashHex store later hash cid rfl accepted named
  obtain ⟨before, offered, after⟩ :=
    ((pinning library node).admitsFrom_append earlier _ _).mp admissible
  obtain ⟨digest, sameHash, sameCid⟩ := exists_digest_of_named accepted named
  -- the state in which the call awaits its first answer
  have begun :
      ((pinning library node).step ((pinning library node).run earlier)
          (.pin id hashHex store)).calls id =
        some (.pin { hash, cid, store, stage := .checking }) := by
    have called := pin_of_normalizeDigestHex accepted named store
    exact (calls_withCall _ _ _ _).trans ((if_pos rfl).trans (by rw [called]; rfl))
  obtain ⟨stage, found, sure, left⟩ :=
    pin_of_runFrom node later _ _ begun after
  have run :
      (pinning library node).run (earlier ++ .pin id hashHex store :: later) =
        (pinning library node).runFrom
          ((pinning library node).step ((pinning library node).run earlier)
            (.pin id hashHex store)) later :=
    (pinning library node).runFrom_append _ earlier _
  rw [← run] at found sure
  refine ⟨stage, found, ?_, ?_⟩
  · intro outcome settled positive
    have own := (fits.calls id _ found).2 _ rfl
    obtain ⟨hashes, pinned⟩ := own.answered outcome settled
    refine ⟨hashes, pinned positive, ?_, ?_⟩
    · intro backed
      exact pinning_backed backed _ admissible (pinned positive)
    · intro honest bytes held
      have sha256 : cid.multihashCode = sha2256Code := by
        rw [sameCid]
        rfl
      have verified :=
        (pinning_honest lawful sha256 honest _ admissible).2 bytes held
      rw [sameCid] at verified
      rw [sameHash]
      exact congrArg ByteText.hex verified
  · intro here
    have start :
        PinCall.Sure library
          ((pinning library node).step ((pinning library node).run earlier)
            (.pin id hashHex store)).node
          { hash, cid, store, stage := .checking } := by
      rcases here with block | ⟨contents, rfl, kind, member, value, artifact⟩
      · exact .inl block
      · exact .inr ⟨kind, member, value, artifact.1, artifact.2⟩
    have now := sure start
    refine ⟨?_, ?_, ?_⟩
    · intro outcome settled
      simp only [PinCall.Sure, settled] at now
      exact now
    · have most :
          PinCall.stepsLeft .checking = 7 := rfl
      simp only at left
      omega
    · by_cases answered : ∃ outcome, stage = .settled outcome
      · exact .inl answered
      · right
        apply exists_step_of_sure found now
        intro outcome settled
        exact answered ⟨outcome, settled⟩

end Runs

section Cases

/-! ## Single pins -/

open PinningState

variable {hashHex hash : String} {cid : Cid} {node : HeliaNode}

/-- The node with one pin call, its first. -/
def asked (node : HeliaNode) (call : PinCall Value) : PinningState Value :=
  (PinningState.start node).withCall 0 (.pin call)

theorem calls_asked (node : HeliaNode) (call : PinCall Value) :
    (asked node call).calls 0 = some (.pin call) := by
  rw [asked, calls_withCall, if_pos rfl]

theorem step_pin (library : IpfsLibrary Value) (node : HeliaNode)
    (accepted : normalizeDigestHex hashHex = .ok hash)
    (named : cidFromHashHex hash = .ok cid)
    (store : Option (StoreContents Value)) :
    (pinning library node).step (.start node) (.pin 0 hashHex store) =
      asked node { hash, cid, store, stage := .checking } := by
  have begun := pin_of_normalizeDigestHex accepted named store
  simp only [pinning, PinningState.step, begun]
  rfl

variable {call : PinCall Value}

/-- An await of a store settles in any state. -/
theorem step_resume_of {start : HeliaNode} {state : PinningState Value} {id : Nat}
    {stage : PinStage} (found : state.calls id = some (.pin call))
    (reads : (Call.pin call).putting? = none)
    (next : call.resume library state.node = stage) :
    (pinning library start).step state (.resume id) =
      state.withCall id (.pin { call with stage := stage }) := by
  simp only [pinning, PinningState.step, found, PinningState.resumeCall, reads]
  rw [← next]
  rfl

theorem step_resume {start : HeliaNode} {stage : PinStage}
    (reads : (Call.pin call).putting? = none)
    (next : call.resume library node = stage) :
    (pinning library start).step (asked node call) (.resume 0) =
      asked node { call with stage := stage } := by
  rw [step_resume_of (calls_asked node call) reads next]
  simp only [asked, PinningState.withCall, Function.update_idem]

theorem admits_resume (library : IpfsLibrary Value) {start : HeliaNode}
    (waits : (Call.pin call).awaitsStore = true) :
    (pinning library start).admits (asked node call) (.resume 0) :=
  ⟨.pin call, calls_asked node call, waits⟩

theorem adding?_of {state : PinningState Value} {id : Nat}
    {source : PinSource} {began : Bool}
    (found : state.calls id = some (.pin call))
    (stage : call.stage = .draining source (.adding began)) :
    state.adding? id = some (call.cid, began) := by
  rw [PinningState.adding?, found]
  exact Call.adding?_pin.mpr ⟨rfl, source, stage⟩

/-- A pin is added in any state. -/
theorem step_commit_of {start : HeliaNode} {state : PinningState Value} {id : Nat}
    {source : PinSource} {began : Bool}
    (found : state.calls id = some (.pin call))
    (stage : call.stage = .draining source (.adding began)) :
    (pinning library start).step state (.commit id) =
      { state with node := state.node.addPin call.cid }.withCall id
        (.pin
          { call with stage := .settled (call.outcome library source) }) := by
  simp only [pinning, PinningState.step, found, adding?_of found stage,
    Call.drained_pin stage]
  rfl

/-- `pins.add` throws, and the call asks the pin set. -/
theorem step_fail_of {start : HeliaNode} {state : PinningState Value} {id : Nat}
    {source : PinSource} {began : Bool} (message : String)
    (found : state.calls id = some (.pin call))
    (stage : call.stage = .draining source (.adding began)) :
    (pinning library start).step state (.fail id message) =
      state.withCall id
        (.pin
          { call with stage := .draining source (.rechecking message) }) := by
  simp only [pinning, PinningState.step, found, Call.drained_pin stage]
  rfl

theorem step_commit {start : HeliaNode} {source : PinSource} {began : Bool}
    (stage : call.stage = .draining source (.adding began)) :
    (pinning library start).step (asked node call) (.commit 0) =
      asked (node.addPin call.cid)
        { call with stage := .settled (call.outcome library source) } := by
  rw [step_commit_of (calls_asked node call) stage]
  simp only [asked, PinningState.withCall, Function.update_idem]
  rfl

/-- A digest that is pinned is answered for from the pin set alone. -/
theorem alreadyPinned_run
    (library : IpfsLibrary Value)
    (accepted : normalizeDigestHex hashHex = .ok hash)
    (named : cidFromHashHex hash = .ok cid)
    (pinned : node.isPinned cid = true) :
    ∃ call : PinCall Value,
      (pinning library node).Leads (.start node)
        [.pin 0 hashHex none, .resume 0] (asked node call) ∧
      call.hash = hash ∧ call.cid = cid ∧
      call.stage = .settled (call.outcome library .alreadyPinned) := by
  let checking : PinCall Value := { hash, cid, store := none, stage := .checking }
  have answers :
      checking.resume library node =
        .settled (checking.outcome library .alreadyPinned) :=
    if_pos pinned
  let settled : PinCall Value :=
    { checking with stage := .settled (checking.outcome library .alreadyPinned) }
  have last := (pinning library node).leads_nil (asked node settled)
  have answered :
      (pinning library node).step (asked node checking) (.resume 0) =
        asked node settled :=
    step_resume rfl answers
  have begun := step_pin library node accepted named none
  refine ⟨settled, ?_, rfl, rfl, rfl⟩
  apply Machine.Leads.cons rfl begun
  exact Machine.Leads.cons (admits_resume library rfl) answered last

/-- A pin of a local block takes the block as it is. -/
theorem localBlock_run
    (library : IpfsLibrary Value)
    (accepted : normalizeDigestHex hashHex = .ok hash)
    (named : cidFromHashHex hash = .ok cid)
    (held : node.has cid = true) (unpinned : node.isPinned cid = false) :
    ∃ call : PinCall Value,
      (pinning library node).Leads (.start node)
        [.pin 0 hashHex none, .resume 0, .resume 0, .commit 0]
        (asked (node.addPin cid) call) ∧
      call.hash = hash ∧ call.cid = cid ∧
      call.stage = .settled (call.outcome library .localBlock) := by
  let checking : PinCall Value := { hash, cid, store := none, stage := .checking }
  let probing : PinCall Value := { checking with stage := .probing }
  let adding : PinCall Value :=
    { checking with stage := .draining .localBlock (.adding true) }
  have probes : checking.resume library node = .probing := by
    simp [checking, PinCall.resume, unpinned]
  have adds :
      probing.resume library node = .draining .localBlock (.adding true) := by
    simp [probing, checking, PinCall.resume, drainPin, held]
  have offered : (pinning library node).admits (asked node adding) (.commit 0) :=
    ⟨(cid, true), adding?_of (calls_asked node adding) rfl, held⟩
  let settled : PinCall Value :=
    { checking with stage := .settled (checking.outcome library .localBlock) }
  have last :=
    (pinning library node).leads_nil (asked (node.addPin cid) settled)
  have begun := step_pin library node accepted named none
  have probed :
      (pinning library node).step (asked node checking) (.resume 0) =
        asked node probing :=
    step_resume rfl probes
  have added :
      (pinning library node).step (asked node probing) (.resume 0) =
        asked node adding :=
    step_resume rfl adds
  have committed :
      (pinning library node).step (asked node adding) (.commit 0) =
        asked (node.addPin cid) settled :=
    step_commit rfl
  refine ⟨settled, ?_, rfl, rfl, rfl⟩
  apply Machine.Leads.cons rfl begun
  apply Machine.Leads.cons (admits_resume library rfl) probed
  apply Machine.Leads.cons (admits_resume library rfl) added
  exact Machine.Leads.cons offered committed last

/-- The node with two pin calls. -/
def racing (node : HeliaNode) (first second : PinCall Value) :
    PinningState Value :=
  (asked node first).withCall 1 (.pin second)

section Race

variable {first second next : PinCall Value}

theorem calls_racing_first :
    (racing node first second).calls 0 = some (.pin first) :=
  (calls_withCall _ _ _ _).trans (calls_asked node first)

theorem calls_racing_second :
    (racing node first second).calls 1 = some (.pin second) :=
  calls_withCall _ _ _ _

theorem withCall_racing_first
    (node : HeliaNode) (first second next : PinCall Value) :
    (racing node first second).withCall 0 (.pin next) =
      racing node next second := by
  simp only [racing, asked, PinningState.withCall]
  rw [Function.update_comm (by decide : (1 : Nat) ≠ 0), Function.update_idem]

theorem withCall_racing_second :
    (racing node first second).withCall 1 (.pin next) =
      racing node first next := by
  simp only [racing, PinningState.withCall, Function.update_idem]

theorem resumes_first
    (start : HeliaNode) (first second : PinCall Value) {stage : PinStage}
    (waits : (Call.pin first).awaitsStore = true)
    (reads : (Call.pin first).putting? = none)
    (answers : first.resume library node = stage) :
    (pinning library start).admits (racing node first second) (.resume 0) ∧
      (pinning library start).step (racing node first second) (.resume 0) =
        racing node { first with stage := stage } second := by
  refine ⟨⟨.pin first, calls_racing_first, waits⟩, ?_⟩
  rw [step_resume_of calls_racing_first reads answers, withCall_racing_first]

theorem resumes_second
    (start : HeliaNode) (first second : PinCall Value) {stage : PinStage}
    (waits : (Call.pin second).awaitsStore = true)
    (reads : (Call.pin second).putting? = none)
    (answers : second.resume library node = stage) :
    (pinning library start).admits (racing node first second) (.resume 1) ∧
      (pinning library start).step (racing node first second) (.resume 1) =
        racing node first { second with stage := stage } := by
  refine ⟨⟨.pin second, calls_racing_second, waits⟩, ?_⟩
  rw [step_resume_of calls_racing_second reads answers, withCall_racing_second]

/-- Two pins of one local block: both call `pins.add`, the first lands, the
second throws and finds the digest pinned. -/
theorem race_run
    (library : IpfsLibrary Value)
    (accepted : normalizeDigestHex hashHex = .ok hash)
    (named : cidFromHashHex hash = .ok cid)
    (held : node.has cid = true) (unpinned : node.isPinned cid = false)
    (message : String) :
    ∃ call : PinCall Value,
      (pinning library node).Leads (.start node)
        [.pin 0 hashHex none, .pin 1 hashHex none, .resume 0, .resume 1,
          .resume 0, .resume 1, .commit 0, .fail 1 message, .resume 1]
        (racing (node.addPin cid) call call) ∧
      call.stage = .settled (call.outcome library .localBlock) := by
  let checking : PinCall Value := { hash, cid, store := none, stage := .checking }
  let probing : PinCall Value := { checking with stage := .probing }
  let adding : PinCall Value :=
    { checking with stage := .draining .localBlock (.adding true) }
  let rechecking : PinCall Value :=
    { checking with stage := .draining .localBlock (.rechecking message) }
  let settled : PinCall Value :=
    { checking with stage := .settled (checking.outcome library .localBlock) }
  have pinned : (node.addPin cid).isPinned cid = true := by
    rw [HeliaNode.isPinned_addPin, decide_eq_true rfl, Bool.true_or]
  have probes : checking.resume library node = .probing := by
    simp [checking, PinCall.resume, unpinned]
  have adds : probing.resume library node = adding.stage := by
    simp [probing, adding, checking, PinCall.resume, drainPin, held]
  have rechecks :
      rechecking.resume library (node.addPin cid) = settled.stage := by
    simp only [rechecking, PinCall.resume, recheck, checking, pinned, if_true]
    rfl
  have begun :
      (pinning library node).step (asked node checking)
          (.pin 1 hashHex none) =
        racing node checking checking := by
    have called : pin hashHex none = .ok checking :=
      pin_of_normalizeDigestHex accepted named none
    simp only [pinning, PinningState.step, called]
    rfl
  have committed :
      (pinning library node).step (racing node adding adding) (.commit 0) =
        racing (node.addPin cid) settled adding := by
    rw [step_commit_of calls_racing_first rfl]
    exact withCall_racing_first (node.addPin cid) adding adding settled
  have failed :
      (pinning library node).step (racing (node.addPin cid) settled adding)
          (.fail 1 message) =
        racing (node.addPin cid) settled rechecking := by
    rw [step_fail_of message calls_racing_second rfl, withCall_racing_second]
  have commits :
      (pinning library node).admits (racing node adding adding) (.commit 0) :=
    ⟨_, adding?_of calls_racing_first rfl, held⟩
  have fails :
      (pinning library node).admits (racing (node.addPin cid) settled adding)
        (.fail 1 message) :=
    ⟨_, adding?_of calls_racing_second rfl, .inl pinned⟩
  obtain ⟨admits₁, steps₁⟩ :=
    resumes_first node checking checking rfl rfl probes
  obtain ⟨admits₂, steps₂⟩ :=
    resumes_second node probing checking rfl rfl probes
  obtain ⟨admits₃, steps₃⟩ :=
    resumes_first node probing probing rfl rfl adds
  obtain ⟨admits₄, steps₄⟩ :=
    resumes_second node adding probing rfl rfl adds
  obtain ⟨admits₅, steps₅⟩ :=
    resumes_second node settled rechecking rfl rfl rechecks
  refine ⟨settled, ?_, rfl⟩
  apply Machine.Leads.cons rfl (step_pin library node accepted named none)
  apply Machine.Leads.cons rfl begun
  apply Machine.Leads.cons admits₁ steps₁
  apply Machine.Leads.cons admits₂ steps₂
  apply Machine.Leads.cons admits₃ steps₃
  apply Machine.Leads.cons admits₄ steps₄
  apply Machine.Leads.cons commits committed
  apply Machine.Leads.cons fails failed
  apply Machine.Leads.cons admits₅ steps₅
  exact (pinning library node).leads_nil _

end Race

/-- The text of the empty object, `\x7b\x7d`. -/
def emptyObjectBytes : Bytes := [0x7b, 0x7d]

/-- Its SHA-256. -/
def emptyObjectDigest : Bytes :=
  [0x44, 0x13, 0x6f, 0xa3, 0x55, 0xb3, 0x67, 0x8a,
    0x11, 0x46, 0xad, 0x16, 0xf7, 0xe8, 0x64, 0x9e,
    0x94, 0xfb, 0x4f, 0xc2, 0x1f, 0xe7, 0x7e, 0x83,
    0x10, 0xc0, 0x60, 0xf6, 0x1c, 0xaa, 0xff, 0x8a]

/-- The packages on the empty object, the one artifact there is. -/
def emptyObjectLibrary : IpfsLibrary Unit where
  isObject _ := true
  canonicalize _ := emptyObjectBytes
  canonicalHash _ := ByteText.hex emptyObjectDigest
  sha256 bytes :=
    if bytes = emptyObjectBytes then
      emptyObjectDigest
    else
      List.replicate 32 0
  cidText _ := "bafkreicecnx2gvntm6fbcrvnc336qze6st5u7qq7457igegamd3bzkx7ri"
  overwrites := false

theorem emptyObjectLibrary_lawful : emptyObjectLibrary.Lawful where
  digests bytes := by
    simp only [emptyObjectLibrary]
    split <;> rfl
  hashes artifact := by
    simp only [emptyObjectLibrary, if_pos]

/-- A node with nothing but one block, pinned or not, under the CID of the
empty object. -/
def nodeWith (block : Option Bytes) (pinned : Bool) : HeliaNode where
  blocks cid := if cid = rawCid emptyObjectDigest then block else none
  isPinned cid := decide (cid = rawCid emptyObjectDigest) && pinned

theorem emptyObject_accepted :
    normalizeDigestHex (ByteText.hex emptyObjectDigest) =
      .ok (ByteText.hex emptyObjectDigest) :=
  normalizeDigestHex_hex rfl

theorem emptyObject_named :
    cidFromHashHex (ByteText.hex emptyObjectDigest) =
      .ok (rawCid emptyObjectDigest) :=
  cidFromHashHex_hex rfl

/-- A pin answers for a block that is not there, and for one that hashes to
something else: the first was pinned, the second held, before anyone asked. -/
theorem pins_answer_for_lost_blocks :
    (∃ (actions : List (PinningAction Unit)) (call : PinCall Unit)
        (outcome : PinOutcome),
      (pinning emptyObjectLibrary (nodeWith none true)).Admits actions ∧
      ((pinning emptyObjectLibrary (nodeWith none true)).run actions).calls 0 =
        some (.pin call) ∧
      call.stage = .settled outcome ∧ outcome.pinned = true ∧
      ((pinning emptyObjectLibrary (nodeWith none true)).run actions).node.has
        call.cid = false) ∧
    ∃ (actions : List (PinningAction Unit)) (call : PinCall Unit)
        (outcome : PinOutcome),
      (pinning emptyObjectLibrary (nodeWith (some []) false)).Admits actions ∧
      ((pinning emptyObjectLibrary (nodeWith (some []) false)).run
          actions).calls 0 = some (.pin call) ∧
      call.stage = .settled outcome ∧ outcome.pinned = true ∧
      ((pinning emptyObjectLibrary (nodeWith (some []) false)).run
          actions).node.blocks call.cid = some [] ∧
      ByteText.hex (emptyObjectLibrary.sha256 []) ≠ outcome.hash := by
  constructor
  · have pinned :
        (nodeWith none true).isPinned (rawCid emptyObjectDigest) = true := by
      decide
    obtain ⟨call, leads, -, cid, settled⟩ :=
      alreadyPinned_run emptyObjectLibrary emptyObject_accepted
        emptyObject_named pinned
    have ran :
        (pinning emptyObjectLibrary (nodeWith none true)).run _ =
          asked (nodeWith none true) call :=
      leads.2
    have lost : (nodeWith none true).has (rawCid emptyObjectDigest) = false := by
      decide
    refine ⟨_, call, _, leads.1, ?_, settled, rfl, ?_⟩
    · rw [ran]
      exact calls_asked _ call
    · rw [ran, cid]
      exact lost
  · have held :
        (nodeWith (some []) false).has (rawCid emptyObjectDigest) = true := by
      decide
    have unpinned :
        (nodeWith (some []) false).isPinned (rawCid emptyObjectDigest) =
          false := by
      decide
    obtain ⟨call, leads, hash, cid, settled⟩ :=
      localBlock_run emptyObjectLibrary emptyObject_accepted emptyObject_named
        held unpinned
    have ran :
        (pinning emptyObjectLibrary (nodeWith (some []) false)).run _ =
          asked ((nodeWith (some []) false).addPin (rawCid emptyObjectDigest))
            call :=
      leads.2
    have block :
        (nodeWith (some []) false).blocks (rawCid emptyObjectDigest) =
          some [] := by
      decide
    refine ⟨_, call, _, leads.1, ?_, settled, rfl, ?_, ?_⟩
    · rw [ran]
      exact calls_asked _ call
    · rw [ran, cid]
      exact block
    · intro same
      have equal :
          ByteText.hex (emptyObjectLibrary.sha256 []) =
            ByteText.hex emptyObjectDigest :=
        same.trans hash
      exact absurd (ByteText.hex_injective equal) (by decide)

/-- Two pins of the empty object, held and not yet pinned, in a race. -/
def racingPins : List (PinningAction Unit) :=
  [.pin 0 (ByteText.hex emptyObjectDigest) none,
    .pin 1 (ByteText.hex emptyObjectDigest) none, .resume 0, .resume 1,
    .resume 0, .resume 1, .commit 0, .fail 1 "Already pinned", .resume 1]

/-- Both are answered for, the winner and the loser. -/
theorem pins_are_honest_local :
    let after :=
      (pinning emptyObjectLibrary (nodeWith (some emptyObjectBytes) false)).run
        racingPins
    after.node.isPinned (rawCid emptyObjectDigest) = true ∧
      after.node.has (rawCid emptyObjectDigest) = true ∧
      ∀ id ∈ [0, 1], ∃ call : PinCall Unit, ∃ outcome,
        after.calls id = some (.pin call) ∧
          call.stage = .settled outcome ∧ outcome.pinned = true ∧
          outcome.hash = ByteText.hex emptyObjectDigest := by
  intro after
  have held :
      (nodeWith (some emptyObjectBytes) false).has (rawCid emptyObjectDigest) =
        true := by
    decide
  have unpinned :
      (nodeWith (some emptyObjectBytes) false).isPinned
          (rawCid emptyObjectDigest) = false := by
    decide
  obtain ⟨call, leads, settled⟩ :=
    race_run emptyObjectLibrary emptyObject_accepted emptyObject_named held
      unpinned "Already pinned"
  obtain ⟨-, each⟩ :=
    pins_are_honest emptyObjectLibrary emptyObjectLibrary_lawful _ racingPins
      leads.1
  have began :
      ((pinning emptyObjectLibrary
          (nodeWith (some emptyObjectBytes) false)).run
        [.pin 0 (ByteText.hex emptyObjectDigest) none]).node.has
          (rawCid emptyObjectDigest) = true := by
    have first :=
      step_pin emptyObjectLibrary (nodeWith (some emptyObjectBytes) false)
        emptyObject_accepted emptyObject_named none
    have begun :
        (pinning emptyObjectLibrary
            (nodeWith (some emptyObjectBytes) false)).run
          [.pin 0 (ByteText.hex emptyObjectDigest) none] = _ :=
      first
    rw [begun]
    exact held
  have ran :
      after =
        racing
          ((nodeWith (some emptyObjectBytes) false).addPin
            (rawCid emptyObjectDigest)) call call :=
    leads.2
  have settles {stage : PinStage}
      (same :
        (Call.pin
          { hash := ByteText.hex emptyObjectDigest
            cid := rawCid emptyObjectDigest
            store := none
            stage } : Call Unit) = .pin call) :
      stage = .settled (call.outcome emptyObjectLibrary .localBlock) :=
    (congrArg PinCall.stage (Call.pin.inj same)).trans settled
  have backed :
      (nodeWith (some emptyObjectBytes) false).Backed
        (rawCid emptyObjectDigest) := by
    intro early
    rw [unpinned] at early
    cases early
  obtain ⟨stage, found, answered, sure⟩ :=
    each [] 0 _ none _ _ _ rfl emptyObject_accepted emptyObject_named
  have winner : after.calls 0 = some (.pin call) := by
    rw [ran]
    exact calls_racing_first
  have now := settles (Option.some.inj (found.symm.trans winner))
  have positive := (sure (.inl held)).1 _ now
  obtain ⟨hash, pinned, block, -⟩ := answered _ now positive
  obtain ⟨stage', found', answered', sure'⟩ :=
    each [.pin 0 (ByteText.hex emptyObjectDigest) none] 1 _ none _ _ _ rfl
      emptyObject_accepted emptyObject_named
  have loser : after.calls 1 = some (.pin call) := by
    rw [ran]
    exact calls_racing_second
  have now' := settles (Option.some.inj (found'.symm.trans loser))
  have positive' := (sure' (.inl began)).1 _ now'
  have hash' := (answered' _ now' positive').1
  refine ⟨pinned, block backed, ?_⟩
  simp only [List.forall_mem_cons]
  exact
    ⟨⟨_, _, found, now, positive, hash⟩, ⟨_, _, found', now', positive', hash'⟩,
      by simp⟩

end Cases

end Ipfs

end Btcr2Aggregation
