import Btcr2Aggregation.Library.ByteText
import Btcr2Aggregation.Library.InsertionMap
import Btcr2Aggregation.Library.JoinedText
import Btcr2Aggregation.Library.JsString
import Btcr2Aggregation.Library.Machine
import Btcr2Aggregation.Shared.Networks

/-!
# The verdict on a participant's own chain endpoint

A pasted address is asked for block zero, and where that is shared between
chains for a second block.  The verdict compares what came back with the
registry and is kept for later calls.  Calls can overlap, and the server can
answer each request as it likes.
-/

namespace Btcr2Aggregation

section Observations

/-! ## Observations -/

/-- What a request for a block hash comes to. -/
inductive ProbeReply where
  | threw
  | httpError (status : Nat)
  | unreadable
  | text (body : String)
  deriving DecidableEq, Repr

/-- `probeChain`.  An error is the status of a `TxProxyError`, or none where it
is another error. -/
def probeChain : ProbeReply → Except (Option Nat) String
  | .threw => .error (some 0)
  | .httpError status => .error (some status)
  | .unreadable => .error none
  | .text body => .ok (JsString.trim body)

/-- `/^[0-9a-f]{64}$/`. -/
def isBlockHash (value : String) : Bool :=
  value.toList.length == 64 && value.toList.all ByteText.isHexDigit

inductive ChainProbe where
  | hashes (genesis : String) (distinguishing : Option String)
  | rejected
  | unreachable
  deriving DecidableEq, Repr

def probeMarker (reply : ProbeReply) : Except ChainProbe String :=
  match probeChain reply with
  | .ok hash => if isBlockHash hash then .ok hash else .error .unreachable
  | .error status =>
      if status = some 0 then .error .rejected else .error .unreachable

/-- The probe of `checkEndpoint`, over the server's reply at each height.  The
second request goes out only where block zero is ours and shared. -/
def probeEndpoint (ourNetwork : NetworkName) (replies : Nat → ProbeReply) :
    ChainProbe :=
  match probeMarker (replies 0) with
  | .error failed => failed
  | .ok genesis =>
      match (networks ourNetwork).distinguishingBlock with
      | none => .hashes genesis none
      | some marker =>
          if genesis = (networks ourNetwork).genesisHash then
            match probeMarker (replies marker.height) with
            | .error failed => failed
            | .ok second => .hashes genesis (some second)
          else
            .hashes genesis none

/-- The block hash a reply carries, if it carries one. -/
def ProbeReply.hash? : ProbeReply → Option String
  | .text body =>
      if isBlockHash (JsString.trim body) then
        some (JsString.trim body)
      else
        none
  | _ => none

theorem probeMarker_eq_ok {reply : ProbeReply} {hash : String} :
    probeMarker reply = .ok hash ↔ reply.hash? = some hash := by
  cases reply with
  | threw => simp [probeMarker, probeChain, ProbeReply.hash?]
  | httpError status =>
      by_cases zero : status = 0
      · simp [probeMarker, probeChain, ProbeReply.hash?, zero]
      · simp [probeMarker, probeChain, ProbeReply.hash?, zero]
  | unreadable => simp [probeMarker, probeChain, ProbeReply.hash?]
  | text body =>
      by_cases read : isBlockHash (JsString.trim body)
      · simp [probeMarker, probeChain, ProbeReply.hash?, read]
      · simp [probeMarker, probeChain, ProbeReply.hash?, read]

/-- A failed probe reads no hash. -/
theorem probeMarker_ne_hashes
    {reply : ProbeReply} {failed : ChainProbe}
    (fails : probeMarker reply = .error failed) (genesis : String)
    (distinguishing : Option String) :
    failed ≠ .hashes genesis distinguishing := by
  unfold probeMarker at fails
  split at fails
  · split at fails
    · cases fails
    · cases fails
      exact fun same => by cases same
  · split at fails
    · cases fails
      exact fun same => by cases same
    · cases fails
      exact fun same => by cases same

end Observations

section Chains

/-! ## Chains -/

structure ObservedChain where
  genesis : String
  distinguishing : Option String
  deriving DecidableEq, Repr

/-- The networks with the observed block zero. -/
def ObservedChain.candidates (observed : ObservedChain) : List NetworkName :=
  networkNames.filter fun name =>
    (networks name).genesisHash = observed.genesis

def identifyChain (observed : ObservedChain) : Option NetworkName :=
  match observed.candidates with
  | [] => none
  | first :: rest =>
      if rest = [] ∧ (networks first).distinguishingBlock = none then
        some first
      else
        observed.candidates.find? fun name =>
          observed.distinguishing ≠ none ∧
            ((networks name).distinguishingBlock.map ChainBlockMarker.hash) =
              observed.distinguishing

/-- Both blocks of the network were observed. -/
def ObservedChain.Shows (observed : ObservedChain) (name : NetworkName) : Prop :=
  observed.genesis = (networks name).genesisHash ∧
    ∀ marker ∈ (networks name).distinguishingBlock,
      observed.distinguishing = some marker.hash

theorem ObservedChain.shows_of_identifyChain
    {observed : ObservedChain} {name : NetworkName}
    (identified : identifyChain observed = some name) :
    observed.Shows name := by
  unfold identifyChain at identified
  split at identified
  · cases identified
  · next first rest candidates =>
    split at identified
    · next unique =>
      cases identified
      have member : name ∈ name :: rest := List.mem_cons_self
      rw [← candidates, ObservedChain.candidates, List.mem_filter] at member
      refine ⟨(of_decide_eq_true member.2).symm, fun marker held => ?_⟩
      rw [unique.2] at held
      cases held
    · have found := List.find?_some identified
      have member := List.mem_of_find?_eq_some identified
      rw [ObservedChain.candidates, List.mem_filter] at member
      have agrees := (of_decide_eq_true found).2
      refine ⟨(of_decide_eq_true member.2).symm, fun marker held => ?_⟩
      rw [Option.mem_def.mp held] at agrees
      exact agrees.symm

theorem ObservedChain.identifyChain_of_shows
    {observed : ObservedChain} {name : NetworkName}
    (shows_ : observed.Shows name) :
    identifyChain observed = some name := by
  obtain ⟨genesis, distinguishing⟩ := observed
  obtain ⟨same, second⟩ := shows_
  cases name with
  | bitcoin => cases same; rfl
  | testnet3 => cases same; rfl
  | testnet4 => cases same; rfl
  | regtest => cases same; rfl
  | signet => cases same; cases second _ rfl; rfl
  | mutinynet => cases same; cases second _ rfl; rfl

end Chains

section Verdicts

/-! ## Verdicts -/

/-- `EndpointVerdict`. -/
inductive EndpointVerdict where
  | ok (base : String)
  | mismatch (theirNetwork ourNetwork : String)
  | browserRejected
  | unreachable
  | malformed
  deriving DecidableEq, Repr

def unrecognizedChain : String := "an unrecognized chain"

/-- `text.replace(/\/$/, '')`. -/
def withoutTrailingSlash (text : String) : String :=
  if text.toList.getLast? = some '/' then
    String.ofList text.toList.dropLast
  else
    text

/- The URL parser: the protocol of a text, if it is a URL. -/
variable (protocolOf : String → Option String)

/-- The trimmed text is a URL whose protocol is https. -/
def IsHttpsUrl (raw : String) : Prop :=
  JsString.trim raw ≠ "" ∧ protocolOf (JsString.trim raw) = some "https:"

def normalizeEndpoint (raw : String) : Option String :=
  let trimmed := JsString.trim raw
  if trimmed = "" then
    none
  else
    match protocolOf trimmed with
    | none => none
    | some protocol =>
        if protocol ≠ "https:" then none else some (withoutTrailingSlash trimmed)

def labelOf (theirName : Option NetworkName) : String :=
  match theirName with
  | some name => (networks name).label
  | none => unrecognizedChain

/-- The comparison `classifyEndpoint` ends with. -/
def compareChain
    (base : String) (ours : NetworkConfig) (observed : ObservedChain) :
    EndpointVerdict :=
  if observed.genesis ≠ ours.genesisHash then
    .mismatch (labelOf (identifyChain observed)) ours.label
  else if ours.distinguishingBlock ≠ none ∧ observed.distinguishing = none then
    .unreachable
  else if
    (identifyChain observed).map (fun name => chainFingerprint (networks name)) =
      some (chainFingerprint ours) then
    .ok base
  else
    .mismatch (labelOf (identifyChain observed)) ours.label

def classifyEndpoint
    (raw : String) (ourNetwork : NetworkName) (probe : Option ChainProbe) :
    EndpointVerdict :=
  match normalizeEndpoint protocolOf raw with
  | none => .malformed
  | some base =>
      match probe with
      | none => .unreachable
      | some .rejected => .browserRejected
      | some .unreachable => .unreachable
      | some (.hashes genesis distinguishing) =>
          compareChain base (networks ourNetwork) { genesis, distinguishing }

/-- The replies carry our blocks. -/
def AnswersOurs (ourNetwork : NetworkName) (replies : Nat → ProbeReply) : Prop :=
  (replies 0).hash? = some (networks ourNetwork).genesisHash ∧
    ∀ marker ∈ (networks ourNetwork).distinguishingBlock,
      (replies marker.height).hash? = some marker.hash

/-- A reply carries a block hash that is not ours. -/
def Contradicts (ourNetwork : NetworkName) (replies : Nat → ProbeReply) : Prop :=
  ∃ hash,
    ((replies 0).hash? = some hash ∧ hash ≠ (networks ourNetwork).genesisHash) ∨
      ∃ marker ∈ (networks ourNetwork).distinguishingBlock,
        (replies marker.height).hash? = some hash ∧ hash ≠ marker.hash

variable {protocolOf}

theorem exists_normalizeEndpoint_iff {raw : String} :
    (∃ base, normalizeEndpoint protocolOf raw = some base) ↔
      IsHttpsUrl protocolOf raw := by
  unfold normalizeEndpoint IsHttpsUrl
  by_cases empty : JsString.trim raw = ""
  · simp [empty]
  · cases parsed : protocolOf (JsString.trim raw) with
    | none => simp [empty, parsed]
    | some protocol =>
        by_cases https : protocol = "https:"
        · simp [empty, parsed, https]
        · simp [empty, parsed, https]

/-- What a probe read of the chain comes from the replies. -/
theorem hashes_of_probeEndpoint
    {ourNetwork : NetworkName} {replies : Nat → ProbeReply} {genesis : String}
    {distinguishing : Option String}
    (probed :
      probeEndpoint ourNetwork replies = .hashes genesis distinguishing) :
    (replies 0).hash? = some genesis ∧
      (∀ marker ∈ (networks ourNetwork).distinguishingBlock,
        genesis = (networks ourNetwork).genesisHash →
          distinguishing = (replies marker.height).hash? ∧
            distinguishing ≠ none) := by
  unfold probeEndpoint at probed
  split at probed
  · next failed fails =>
    exact absurd probed (probeMarker_ne_hashes fails _ _)
  · next first reads =>
    have read := probeMarker_eq_ok.mp reads
    split at probed
    · next noMarker =>
      cases probed
      refine ⟨read, fun marker held => ?_⟩
      rw [noMarker] at held
      cases held
    · next marker marked =>
      split at probed
      · next same =>
        split at probed
        · next failed fails =>
          exact absurd probed (probeMarker_ne_hashes fails _ _)
        · next second readsSecond =>
          cases probed
          have readSecond := probeMarker_eq_ok.mp readsSecond
          refine ⟨read, fun other held _ => ?_⟩
          rw [marked] at held
          cases held
          exact ⟨readSecond.symm, Option.some_ne_none _⟩
      · next different =>
        cases probed
        exact ⟨read, fun other _ same => absurd same different⟩

/-- Replies that carry our blocks are read as our blocks. -/
theorem probeEndpoint_of_answersOurs
    {ourNetwork : NetworkName} {replies : Nat → ProbeReply}
    (answers : AnswersOurs ourNetwork replies) :
    probeEndpoint ourNetwork replies =
      .hashes (networks ourNetwork).genesisHash
        ((networks ourNetwork).distinguishingBlock.map
          ChainBlockMarker.hash) := by
  have reads := probeMarker_eq_ok.mpr answers.1
  rw [probeEndpoint, reads]
  cases marked : (networks ourNetwork).distinguishingBlock with
  | none => rfl
  | some marker =>
      have readsSecond := probeMarker_eq_ok.mpr (answers.2 marker marked)
      simp only [readsSecond, if_true, Option.map_some]

/-- The verdict on a readable address is `ok` on our own blocks alone. -/
theorem classifyEndpoint_eq_ok_iff
    {raw base : String} {ourNetwork : NetworkName}
    {replies : Nat → ProbeReply} :
    classifyEndpoint protocolOf raw ourNetwork
          (some (probeEndpoint ourNetwork replies)) =
        .ok base ↔
      normalizeEndpoint protocolOf raw = some base ∧
        AnswersOurs ourNetwork replies := by
  constructor
  · intro ok
    unfold classifyEndpoint at ok
    split at ok
    · cases ok
    · next normalized normalizes =>
      split at ok
      · cases ok
      · cases ok
      · cases ok
      · next genesis distinguishing probed =>
        obtain ⟨read, second⟩ :=
          hashes_of_probeEndpoint (Option.some.inj probed)
        unfold compareChain at ok
        split at ok
        · cases ok
        · next same =>
          have sameGenesis : genesis = (networks ourNetwork).genesisHash :=
            not_not.mp same
          split at ok
          · cases ok
          · split at ok
            · next agrees =>
              cases ok
              refine ⟨normalizes, by rw [read, sameGenesis], ?_⟩
              intro marker held
              obtain ⟨name, identified, sameFingerprint⟩ :=
                Option.map_eq_some_iff.mp agrees
              have sameName : name = ourNetwork :=
                chainFingerprint_injective sameFingerprint
              rw [sameName] at identified
              have shown := ObservedChain.shows_of_identifyChain identified
              rw [← (second marker held sameGenesis).1]
              exact shown.2 marker held
            · cases ok
  · intro both
    obtain ⟨normalizes, answers⟩ := both
    have identified :
        identifyChain
            { genesis := (networks ourNetwork).genesisHash
              distinguishing :=
                (networks ourNetwork).distinguishingBlock.map
                  ChainBlockMarker.hash } =
          some ourNetwork := by
      apply ObservedChain.identifyChain_of_shows
      refine ⟨rfl, fun marker held => ?_⟩
      rw [Option.mem_def.mp held]
      rfl
    have complete :
        ¬((networks ourNetwork).distinguishingBlock ≠ none ∧
            (networks ourNetwork).distinguishingBlock.map
                ChainBlockMarker.hash =
              none) := by
      intro missing
      exact missing.1 (Option.map_eq_none_iff.mp missing.2)
    simp only [classifyEndpoint, compareChain, normalizes,
      probeEndpoint_of_answersOurs answers, identified, ne_eq,
      not_true_eq_false, if_false, Option.map_some, if_true]
    rw [if_neg complete]

/-- A mismatch was read off the chain. -/
theorem contradicts_of_mismatch
    {raw theirs ours : String} {ourNetwork : NetworkName}
    {replies : Nat → ProbeReply}
    (mismatch :
      classifyEndpoint protocolOf raw ourNetwork
          (some (probeEndpoint ourNetwork replies)) =
        .mismatch theirs ours) :
    Contradicts ourNetwork replies := by
  unfold classifyEndpoint at mismatch
  split at mismatch
  · cases mismatch
  · next base normalizes =>
    split at mismatch
    · cases mismatch
    · cases mismatch
    · cases mismatch
    · next genesis distinguishing probed =>
      obtain ⟨read, second⟩ :=
        hashes_of_probeEndpoint (Option.some.inj probed)
      unfold compareChain at mismatch
      split at mismatch
      · next different =>
        exact ⟨genesis, Or.inl ⟨read, different⟩⟩
      · next same =>
        have sameGenesis : genesis = (networks ourNetwork).genesisHash :=
          not_not.mp same
        split at mismatch
        · cases mismatch
        · next complete =>
          split at mismatch
          · cases mismatch
          · next differs =>
            -- Block zero is ours, so the second block is what differs.
            by_contra agrees
            apply differs
            have shown :
                ObservedChain.Shows { genesis, distinguishing } ourNetwork := by
              refine ⟨sameGenesis, fun marker held => ?_⟩
              obtain ⟨readSecond, observed⟩ := second marker held sameGenesis
              obtain ⟨hash, seen⟩ := Option.ne_none_iff_exists'.mp observed
              by_contra other
              apply agrees
              refine ⟨hash, Or.inr ⟨marker, held, ?_, ?_⟩⟩
              · rw [← readSecond, seen]
              · intro sameHash
                apply other
                rw [← sameHash]
                exact seen
            rw [ObservedChain.identifyChain_of_shows shown]
            rfl

/-- The verdict goes by the canonical base alone. -/
theorem classifyEndpoint_congr
    {raw other : String}
    (same :
      normalizeEndpoint protocolOf raw = normalizeEndpoint protocolOf other)
    (ourNetwork : NetworkName) (probe : Option ChainProbe) :
    classifyEndpoint protocolOf raw ourNetwork probe =
      classifyEndpoint protocolOf other ourNetwork probe := by
  rw [classifyEndpoint, same]
  rfl

end Verdicts

section Calls

/-! ## Overlapping calls -/

/-- A call of `checkEndpoint` that waits for its probe. -/
structure ProbeCall where
  raw : String
  base : String
  ourNetwork : NetworkName
  deriving DecidableEq, Repr

/-- A record of a probe that has ended. -/
structure ProbeRecord where
  call : ProbeCall
  replies : Nat → ProbeReply

/-- A record of what a call answered. -/
structure CheckAnswer where
  raw : String
  ourNetwork : NetworkName
  verdict : EndpointVerdict
  deriving DecidableEq, Repr

structure EndpointChecks where
  verdictCache : InsertionMap String EndpointVerdict
  probing : List ProbeCall
  probed : List ProbeRecord
  answers : List CheckAnswer

inductive CheckEvent where
  | check (raw : String) (ourNetwork : NetworkName)
  | repliesLand (call : ProbeCall) (replies : Nat → ProbeReply)
  | clearEndpointCache

/-- The key of the cache. -/
def cacheKey (base : String) (ourNetwork : NetworkName) : String :=
  base ++ "|" ++ ourNetwork.text

namespace EndpointChecks

variable (protocolOf : String → Option String)

def fresh : EndpointChecks where
  verdictCache := ∅
  probing := []
  probed := []
  answers := []

def answer
    (raw : String) (ourNetwork : NetworkName) (verdict : EndpointVerdict)
    (state : EndpointChecks) : EndpointChecks :=
  { state with answers := { raw, ourNetwork, verdict } :: state.answers }

/-- `checkEndpoint`, up to its probe. -/
def checkEndpoint
    (raw : String) (ourNetwork : NetworkName) (state : EndpointChecks) :
    EndpointChecks :=
  match normalizeEndpoint protocolOf raw with
  | none => state.answer raw ourNetwork .malformed
  | some base =>
      match state.verdictCache.lookup (cacheKey base ourNetwork) with
      | some cached => state.answer raw ourNetwork cached
      | none =>
          { state with probing := { raw, base, ourNetwork } :: state.probing }

/-- The rest of `checkEndpoint`. -/
def repliesLand
    (call : ProbeCall) (replies : Nat → ProbeReply) (state : EndpointChecks) :
    EndpointChecks :=
  let probe := probeEndpoint call.ourNetwork replies
  let verdict := classifyEndpoint protocolOf call.raw call.ourNetwork (some probe)
  answer call.raw call.ourNetwork verdict
    { state with
      verdictCache :=
        state.verdictCache.insert (cacheKey call.base call.ourNetwork) verdict
      probing := state.probing.erase call
      probed := { call, replies } :: state.probed }

def step (state : EndpointChecks) : CheckEvent → EndpointChecks
  | .check raw ourNetwork => checkEndpoint protocolOf raw ourNetwork state
  | .repliesLand call replies => repliesLand protocolOf call replies state
  | .clearEndpointCache => { state with verdictCache := ∅ }

def Offers (state : EndpointChecks) : CheckEvent → Prop
  | .check _ _ => True
  | .repliesLand call _ => call ∈ state.probing
  | .clearEndpointCache => True

instance decidableOffers (state : EndpointChecks) :
    ∀ event, Decidable (state.Offers event)
  | .check _ _ => isTrue trivial
  | .repliesLand call _ =>
      inferInstanceAs (Decidable (call ∈ state.probing))
  | .clearEndpointCache => isTrue trivial

end EndpointChecks

def endpointMachine (protocolOf : String → Option String) :
    Machine EndpointChecks CheckEvent where
  init := EndpointChecks.fresh
  step := EndpointChecks.step protocolOf
  admits := EndpointChecks.Offers

instance
    (protocolOf : String → Option String) (state : EndpointChecks)
    (event : CheckEvent) :
    Decidable ((endpointMachine protocolOf).admits state event) :=
  state.decidableOffers event

/-- The key tells the base and the network apart. -/
theorem cacheKey_inj
    {base other : String} {ourNetwork otherNetwork : NetworkName}
    (same : cacheKey base ourNetwork = cacheKey other otherNetwork) :
    base = other ∧ ourNetwork = otherNetwork := by
  have bar : ∀ name : NetworkName, '|' ∉ name.text.toList := by
    intro name
    cases name <;> decide
  have lists :
      base.toList ++ '|' :: ourNetwork.text.toList =
        other.toList ++ '|' :: otherNetwork.text.toList := by
    have texts := congrArg String.toList same
    simpa [cacheKey] using texts
  obtain ⟨bases, names⟩ :=
    JoinedText.append_cons_inj_of_notMem (bar ourNetwork) (bar otherNetwork) lists
  exact
    ⟨String.toList_inj.mp bases,
      NetworkName.text_injective (String.toList_inj.mp names)⟩

end Calls

section Soundness

/-! ## What every answer rests on -/

variable (protocolOf : String → Option String)

/-- The verdict is the one on these replies, and it is right about them. -/
structure CheckAnswer.RightOn
    (answer : CheckAnswer) (replies : Nat → ProbeReply) : Prop where
  classified :
    answer.verdict =
      classifyEndpoint protocolOf answer.raw answer.ourNetwork
        (some (probeEndpoint answer.ourNetwork replies))
  ok :
    (∃ base, answer.verdict = .ok base) ↔
      IsHttpsUrl protocolOf answer.raw ∧ AnswersOurs answer.ourNetwork replies
  mismatch :
    (∃ theirs ours, answer.verdict = .mismatch theirs ours) →
      Contradicts answer.ourNetwork replies

/-- The record is of a probe of this address for this network. -/
def CheckAnswer.RestsOn (answer : CheckAnswer) (record : ProbeRecord) : Prop :=
  normalizeEndpoint protocolOf answer.raw = some record.call.base ∧
    answer.ourNetwork = record.call.ourNetwork

variable {protocolOf}

theorem CheckAnswer.rightOn_of_classified
    {answer : CheckAnswer} {replies : Nat → ProbeReply}
    (classified :
      answer.verdict =
        classifyEndpoint protocolOf answer.raw answer.ourNetwork
          (some (probeEndpoint answer.ourNetwork replies))) :
    answer.RightOn protocolOf replies := by
  refine { classified, ok := ?_, mismatch := ?_ }
  · rw [← exists_normalizeEndpoint_iff, ← exists_and_right]
    simp only [classified, classifyEndpoint_eq_ok_iff]
  · intro mismatch
    obtain ⟨theirs, ours, verdict⟩ := mismatch
    rw [classified] at verdict
    exact contradicts_of_mismatch verdict

/-- The verdict a probe led to. -/
def ProbeRecord.verdict
    (protocolOf : String → Option String) (record : ProbeRecord) :
    EndpointVerdict :=
  classifyEndpoint protocolOf record.call.raw record.call.ourNetwork
    (some (probeEndpoint record.call.ourNetwork record.replies))

/-- An answer is the refusal of a malformed address, or the verdict of a probe
of the address. -/
def CheckAnswer.Founded
    (protocolOf : String → Option String) (probed : List ProbeRecord)
    (answer : CheckAnswer) : Prop :=
  (normalizeEndpoint protocolOf answer.raw = none ∧
      answer.verdict = .malformed) ∨
    ∃ record ∈ probed,
      answer.RestsOn protocolOf record ∧
        answer.verdict = record.verdict protocolOf

namespace EndpointChecks

/-- What the calls keep: every waiting call has its base, and the cache holds
verdicts of probes. -/
structure Sound
    (protocolOf : String → Option String) (state : EndpointChecks) : Prop where
  calls :
    ∀ call ∈ state.probing,
      normalizeEndpoint protocolOf call.raw = some call.base
  probes :
    ∀ record ∈ state.probed,
      normalizeEndpoint protocolOf record.call.raw = some record.call.base
  cache :
    ∀ key verdict,
      state.verdictCache.lookup key = some verdict →
        ∃ record ∈ state.probed,
          key = cacheKey record.call.base record.call.ourNetwork ∧
            verdict = record.verdict protocolOf
  answers :
    ∀ answer ∈ state.answers, answer.Founded protocolOf state.probed

theorem sound_fresh : fresh.Sound protocolOf where
  calls call member := by cases member
  probes record member := by cases member
  cache key verdict found := by cases found
  answers answer member := by cases member

theorem Sound.answer
    {state : EndpointChecks} {raw : String} {ourNetwork : NetworkName}
    {verdict : EndpointVerdict} (sound : state.Sound protocolOf)
    (founded :
      CheckAnswer.Founded protocolOf state.probed
        { raw, ourNetwork, verdict }) :
    (state.answer raw ourNetwork verdict).Sound protocolOf where
  calls := sound.calls
  probes := sound.probes
  cache := sound.cache
  answers answer member := by
    rcases List.mem_cons.mp member with here | there
    · rw [here]
      exact founded
    · exact sound.answers answer there

theorem Sound.checkEndpoint
    {state : EndpointChecks} (sound : state.Sound protocolOf) (raw : String)
    (ourNetwork : NetworkName) :
    (state.checkEndpoint protocolOf raw ourNetwork).Sound protocolOf := by
  unfold EndpointChecks.checkEndpoint
  split
  · next malformed => exact sound.answer (Or.inl ⟨malformed, rfl⟩)
  · next base normalizes =>
    split
    · next cached found =>
      obtain ⟨record, member, sameKey, verdict⟩ := sound.cache _ _ found
      obtain ⟨sameBase, sameNetwork⟩ := cacheKey_inj sameKey
      apply sound.answer
      refine Or.inr ⟨record, member, ⟨?_, sameNetwork⟩, verdict⟩
      rw [← sameBase]
      exact normalizes
    · exact
        { calls := by
            intro call member
            rcases List.mem_cons.mp member with here | there
            · rw [here]
              exact normalizes
            · exact sound.calls call there
          probes := sound.probes
          cache := sound.cache
          answers := sound.answers }

theorem Sound.repliesLand
    {state : EndpointChecks} (sound : state.Sound protocolOf)
    {call : ProbeCall} (waiting : call ∈ state.probing)
    (replies : Nat → ProbeReply) :
    (state.repliesLand protocolOf call replies).Sound protocolOf := by
  have normalizes := sound.calls call waiting
  apply Sound.answer
  · exact
      { calls := fun other member =>
          sound.calls other (List.mem_of_mem_erase member)
        probes := by
          intro record member
          rcases List.mem_cons.mp member with here | there
          · rw [here]
            exact normalizes
          · exact sound.probes record there
        cache := by
          intro key verdict found
          by_cases same : key = cacheKey call.base call.ourNetwork
          · rw [same, AList.lookup_insert] at found
            cases found
            exact ⟨_, List.mem_cons_self, same, rfl⟩
          · rw [AList.lookup_insert_ne same] at found
            obtain ⟨record, member, held⟩ := sound.cache key verdict found
            exact ⟨record, List.mem_cons_of_mem _ member, held⟩
        answers := by
          intro answer member
          rcases sound.answers answer member with malformed | rests
          · exact Or.inl malformed
          · obtain ⟨record, recorded, held⟩ := rests
            exact Or.inr ⟨record, List.mem_cons_of_mem _ recorded, held⟩ }
  · generalize classified :
        classifyEndpoint protocolOf call.raw call.ourNetwork
          (some (probeEndpoint call.ourNetwork replies)) = verdict
    have same : verdict = ProbeRecord.verdict protocolOf ⟨call, replies⟩ :=
      classified.symm
    exact Or.inr ⟨⟨call, replies⟩, List.mem_cons_self, ⟨normalizes, rfl⟩, same⟩

theorem always_sound :
    (endpointMachine protocolOf).Always (Sound protocolOf) := by
  apply Machine.Always.of_inductive
  · exact sound_fresh
  · intro state event sound offered
    change (state.step protocolOf event).Sound protocolOf
    cases event with
    | check raw ourNetwork =>
        rw [EndpointChecks.step]
        exact sound.checkEndpoint raw ourNetwork
    | repliesLand call replies =>
        rw [EndpointChecks.step]
        exact sound.repliesLand offered replies
    | clearEndpointCache =>
        exact
          { calls := sound.calls
            probes := sound.probes
            cache := fun key verdict found => by cases found
            answers := sound.answers }

end EndpointChecks

theorem CheckAnswer.classified_of_restsOn
    {answer : CheckAnswer} {record : ProbeRecord}
    (normalizes :
      normalizeEndpoint protocolOf record.call.raw = some record.call.base)
    (rests : answer.RestsOn protocolOf record)
    (verdict : answer.verdict = record.verdict protocolOf) :
    answer.verdict =
      classifyEndpoint protocolOf answer.raw answer.ourNetwork
        (some (probeEndpoint answer.ourNetwork record.replies)) := by
  have sameBase := rests.1.trans normalizes.symm
  rw [verdict, ProbeRecord.verdict, classifyEndpoint_congr sameBase, rests.2]

/-- What holds of an answer: it is right about the replies of a probe of its
address for its network, and so about a server that always replies the same. -/
structure CheckAnswer.Right
    (protocolOf : String → Option String) (probed : List ProbeRecord)
    (answer : CheckAnswer) : Prop where
  observed :
    ∃ replies,
      answer.RightOn protocolOf replies ∧
        (IsHttpsUrl protocolOf answer.raw →
          ∃ record ∈ probed,
            answer.RestsOn protocolOf record ∧ record.replies = replies)
  served :
    ∀ serve : String → Nat → ProbeReply,
      (∀ record ∈ probed, record.replies = serve record.call.base) →
        ∀ base,
          normalizeEndpoint protocolOf answer.raw = some base →
            answer.RightOn protocolOf (serve base)

theorem CheckAnswer.right_of_founded
    {probed : List ProbeRecord} {answer : CheckAnswer}
    (probes :
      ∀ record ∈ probed,
        normalizeEndpoint protocolOf record.call.raw = some record.call.base)
    (founded : answer.Founded protocolOf probed) :
    answer.Right protocolOf probed := by
  rcases founded with malformed | rests
  · obtain ⟨refused, verdict⟩ := malformed
    constructor
    · refine ⟨fun _ => .threw, ?_, ?_⟩
      · apply CheckAnswer.rightOn_of_classified
        rw [verdict, classifyEndpoint, refused]
      · intro https
        obtain ⟨base, normalizes⟩ := exists_normalizeEndpoint_iff.mpr https
        rw [refused] at normalizes
        cases normalizes
    · intro serve _ base normalizes
      rw [refused] at normalizes
      cases normalizes
  · obtain ⟨record, recorded, restsOn, verdict⟩ := rests
    have classified :=
      CheckAnswer.classified_of_restsOn (probes record recorded) restsOn verdict
    have right := CheckAnswer.rightOn_of_classified classified
    constructor
    · exact ⟨record.replies, right, fun _ => ⟨record, recorded, restsOn, rfl⟩⟩
    · intro serve served base normalizes
      have sameBase : record.call.base = base :=
        Option.some.inj (restsOn.1.symm.trans normalizes)
      rw [← sameBase, ← served record recorded]
      exact right

/-- In every run of overlapping calls, every answer is right. -/
theorem answersRight_of_admits
    (protocolOf : String → Option String) (events : List CheckEvent)
    (admitted : (endpointMachine protocolOf).Admits events) :
    ∀ answer ∈ ((endpointMachine protocolOf).run events).answers,
      answer.Right protocolOf ((endpointMachine protocolOf).run events).probed := by
  intro answer member
  have sound := EndpointChecks.always_sound events admitted
  exact
    CheckAnswer.right_of_founded sound.probes (sound.answers answer member)

/-- The parser on an address that names its protocol. -/
def protocolBeforeSlashes (text : String) : Option String :=
  if "https://".toList.isPrefixOf text.toList then some "https:" else none

/-- A server of Mutinynet. -/
def mutinynetReplies : Nat → ProbeReply
  | 0 => .text (signetGenesisHash ++ "\n")
  | _ => .text "000002855893a0a9b24eaffc5efc770558a326fee4fc10c9da22fc19cd2954f9"

/-- One server is asked for two networks at a time, then once more from the
cache. -/
def mutinynetChecks : List CheckEvent :=
  let call (ourNetwork : NetworkName) : ProbeCall :=
    { raw := "https://mutinynet.com/api/"
      base := "https://mutinynet.com/api"
      ourNetwork }
  [.check "https://mutinynet.com/api/" .mutinynet,
    .check "https://mutinynet.com/api/" .signet,
    .repliesLand (call .signet) mutinynetReplies,
    .repliesLand (call .mutinynet) mutinynetReplies,
    .check " https://mutinynet.com/api" .mutinynet,
    .check "mutinynet.com" .mutinynet]

theorem answersRight_of_admits_cached :
    (endpointMachine protocolBeforeSlashes).Admits mutinynetChecks ∧
      ∃ answer ∈
          ((endpointMachine protocolBeforeSlashes).run mutinynetChecks).answers,
        answer.verdict = .ok "https://mutinynet.com/api" ∧
          answer.Right protocolBeforeSlashes
            ((endpointMachine protocolBeforeSlashes).run mutinynetChecks).probed := by
  have admitted :
      (endpointMachine protocolBeforeSlashes).Admits mutinynetChecks := by
    decide
  have right :=
    answersRight_of_admits protocolBeforeSlashes mutinynetChecks admitted
  have cached :
      { raw := " https://mutinynet.com/api"
        ourNetwork := .mutinynet
        verdict := .ok "https://mutinynet.com/api" } ∈
        ((endpointMachine protocolBeforeSlashes).run mutinynetChecks).answers := by
    decide +kernel
  exact ⟨admitted, _, cached, rfl, right _ cached⟩

end Soundness

end Btcr2Aggregation
