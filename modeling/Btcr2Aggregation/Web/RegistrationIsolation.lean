import Btcr2Aggregation.Web.StoreRuns

/-!
# Registrations stay in their round

What `register` sends spends a coin of the identity in hand and announces the
update captured for it in the round in hand, at most one attempt is under way,
and nothing of an earlier round writes the registration fields.  Neither
`register` nor `exportPsbt` looks at the round after its awaits, and a new
identity leaves the old participant live; `RegistersInOwnRound` is what keeps
these apart.
-/

namespace Btcr2Aggregation

section Law

/-! ## The law and its condition -/

/-- A hex that spends a coin of `identity` and announces an update captured for
it in `round`. -/
def Carries
    (config : PageConfig) (captures : List CaptureRecord) (round : RoundId)
    (identity : Identity) (unsignedHex : String) : Prop :=
  ∃ outpoint updateHash,
    config.payee outpoint = config.beaconAddress identity ∧
      Registers config.signer outpoint updateHash unsignedHex ∧
        { round, did := identity.did, updateHashBytes := updateHash } ∈ captures

def Broadcast.Sound
    (config : PageConfig) (captures : List CaptureRecord)
    (broadcast : Broadcast) : Prop :=
  ∃ identity,
    broadcast.identity = some identity ∧
      Carries config captures broadcast.round identity
        (config.signer.stripWitness broadcast.rawHex)

structure RegistrationSound (config : PageConfig) (page : Page) : Prop where
  broadcasts :
    ∀ broadcast ∈ page.broadcasts, broadcast.Sound config page.captures
  oneAttempt : page.registerCalls.length ≤ 1

/-- An event of an earlier round writes no registration field. -/
def RegistrationIsolated
    (config : PageConfig) (page : Page) (event : PageEvent) : Prop :=
  event.Stale page →
    (page.step config event).registration = page.registration

/-- The guards of `join` let it through. -/
def Page.joinAllowed
    (config : PageConfig) (cohortId : CohortId) (page : Page) : Bool :=
  page.identity.isSome ∧ page.facts.status.underWay = false ∧
    ¬(config.termsRequired ∧
      termsAcceptedFor page.termsAcceptance cohortId = false)

/-- No round begins while a `register` is between its click and its end, an
export's funding read lands in the round that asked for it, and no update is
captured from a participant an identity adopted since has left behind. -/
def RegistersInOwnRound
    (config : PageConfig) (page : Page) : PageEvent → Prop
  | .adopt _ => page.registerCalls = []
  | .leave => page.registerCalls = []
  | .startOver => page.registerCalls = []
  | .join cohortId _ =>
      page.joinAllowed config cohortId = true → page.registerCalls = []
  | .exportLands call _ => call.round = page.round
  | .runner _ (.cohortComplete info) =>
      info.included = true → ∀ participant ∈ page.live, participant = page.round
  | _ => True

instance decidableRegistersInOwnRound
    (config : PageConfig) (page : Page) (event : PageEvent) :
    Decidable (RegistersInOwnRound config page event) := by
  induction event using PageEvent.casesOn with
  | adopt _ => exact inferInstanceAs (Decidable (page.registerCalls = []))
  | leave => exact inferInstanceAs (Decidable (page.registerCalls = []))
  | startOver => exact inferInstanceAs (Decidable (page.registerCalls = []))
  | join cohortId _ =>
      exact
        inferInstanceAs
          (Decidable
            (page.joinAllowed config cohortId = true →
              page.registerCalls = []))
  | exportLands call _ =>
      exact inferInstanceAs (Decidable (call.round = page.round))
  | runner _ event =>
      induction event using RunnerEvent.casesOn with
      | cohortComplete info =>
          exact
            inferInstanceAs
              (Decidable
                (info.included = true →
                  ∀ participant ∈ page.live, participant = page.round))
      | _ => exact isTrue trivial
  | _ => exact isTrue trivial

end Law

section Frames

/-! ## Steps that register nothing -/

/-- The identity a participant was made with. -/
def Page.identityOf (page : Page) (participant : RoundId) : Option Identity :=
  (page.participants.lookup participant).map ParticipantRecord.identity

/-- What a registration reads and writes. -/
structure ChainView where
  identity : Option Identity
  beaconRegAddress : Option String
  round : RoundId
  captured : Option Captured
  registration : Registration
  registerCalls : List ChainCall
  exportCalls : List ChainCall
  broadcasts : List Broadcast
  captures : List CaptureRecord

def Page.chainView (page : Page) : ChainView where
  identity := page.identity
  beaconRegAddress := page.beaconRegAddress
  round := page.round
  captured := page.captured
  registration := page.registration
  registerCalls := page.registerCalls
  exportCalls := page.exportCalls
  broadcasts := page.broadcasts
  captures := page.captures

/-- A step of the join side: no identity, round, capture or registration is
touched. -/
structure LeavesChain (before after : Page) : Prop where
  chain : after.chainView = before.chainView
  identities :
    ∀ participant, after.identityOf participant = before.identityOf participant
  live :
    ∀ participant,
      after.live = some participant → before.live = some participant

namespace LeavesChain

variable {before middle after : Page} (page : Page)

theorem trans
    (first : LeavesChain before middle) (second : LeavesChain middle after) :
    LeavesChain before after where
  chain := second.chain.trans first.chain
  identities participant :=
    (second.identities participant).trans (first.identities participant)
  live participant held :=
    first.live participant (second.live participant held)

theorem of_same
    (chain : after.chainView = page.chainView)
    (participants : after.participants = page.participants)
    (live : after.live = page.live ∨ after.live = none) :
    LeavesChain page after where
  chain := chain
  identities participant := by
    rw [Page.identityOf, participants, Page.identityOf]
  live participant held := by
    rcases live with same | gone
    · exact same ▸ held
    · rw [gone] at held
      cases held

theorem refl : LeavesChain page page :=
  of_same page rfl rfl (Or.inl rfl)

theorem fail (reason : String) : LeavesChain page (page.fail reason) := by
  rw [Page.fail_eq]
  exact of_same page rfl rfl (Or.inr rfl)

/-- A participant's maps are its own business. -/
theorem recordMaps
    (participant : RoundId) (change : ParticipantRecord → ParticipantMaps)
    (chain : after.chainView = page.chainView)
    (live : after.live = page.live)
    (participants :
      after.participants =
        page.participants.modify participant fun record =>
          { record with maps := change record }) :
    LeavesChain page after where
  chain := chain
  identities other := by
    rw [Page.identityOf, participants, Page.identityOf]
    by_cases same : other = participant
    · rw [same, InsertionMap.lookup_modify_self, Option.map_map]
      rfl
    · rw [InsertionMap.lookup_modify_of_ne same]
  live _ held := live ▸ held

theorem pollWrite
    {participant : RoundId} (write : PollWrite participant page after) :
    LeavesChain page after := by
  cases write with
  | fail reason _ => exact fail page reason
  | _ => exact of_same page rfl rfl (Or.inl rfl)

theorem pollWrote
    {participant : RoundId} (writes : Page.PollWrote participant page after) :
    LeavesChain page after := by
  induction writes with
  | refl => exact refl page
  | tail _ last inductionHypothesis =>
      exact inductionHypothesis.trans (pollWrite _ last)

theorem startResolved (participant : RoundId) :
    LeavesChain page (page.startResolved participant) := by
  unfold Page.startResolved
  split
  · exact of_same page rfl rfl (Or.inl rfl)
  · exact of_same page rfl rfl (Or.inl rfl)

theorem startRejected (participant : RoundId) (message : String) :
    LeavesChain page (page.startRejected participant message) := by
  have erased :
      LeavesChain page
        { page with starting := page.starting.erase participant } :=
    of_same page rfl rfl (Or.inl rfl)
  exact erased.trans (fail _ message)

theorem onProvideUpdate
    (config : PageConfig) (participant : RoundId) (cohortId : CohortId)
    (beaconAddress : String) (randomness : Nat) :
    LeavesChain page
      (page.onProvideUpdate config participant cohortId beaconAddress
        randomness) := by
  unfold Page.onProvideUpdate
  split
  · exact refl page
  · split
    · exact refl page
    · next maps _ =>
      exact recordMaps page participant (fun _ => maps) rfl rfl rfl
    · exact of_same page rfl rfl (Or.inl rfl)

theorem submitUpdate : LeavesChain page page.submitUpdate := by
  unfold Page.submitUpdate
  split
  · exact of_same page rfl rfl (Or.inl rfl)
  · exact recordMaps page _ _ rfl rfl rfl

/-- Every handler but the capture at completion. -/
theorem onRunnerEvent
    {config : PageConfig} {participant : RoundId} {event : RunnerEvent}
    (captures : ∀ info, event ≠ .cohortComplete info) :
    LeavesChain page (page.onRunnerEvent config participant event) := by
  cases event with
  | cohortDiscovered cohortId beaconType =>
      exact recordMaps page participant _ rfl rfl rfl
  | cohortJoined cohortId =>
      simp only [Page.onRunnerEvent, Page.onCohortJoined]
      split
      · exact refl page
      · exact of_same page rfl rfl (Or.inl rfl)
  | cohortReady cohortId beaconAddress =>
      simp only [Page.onRunnerEvent, Page.onCohortReady_eq]
      exact of_same page rfl rfl (Or.inl rfl)
  | cohortComplete info => exact absurd rfl (captures info)
  | cohortFailed cohortId reason => exact fail page reason
  | error message =>
      simp only [Page.onRunnerEvent, Page.onRunnerError]
      split
      · exact fail page message
      · exact refl page
  | _ => exact of_same page rfl rfl (Or.inl rfl)

end LeavesChain

end Frames

section Invariant

/-! ## The invariant -/

theorem Carries.mono
    {config : PageConfig} {captures later : List CaptureRecord}
    {round : RoundId} {identity : Identity} {unsignedHex : String}
    (carries : Carries config captures round identity unsignedHex)
    (grown : captures ⊆ later) :
    Carries config later round identity unsignedHex := by
  obtain ⟨outpoint, updateHash, owned, registers, captured⟩ := carries
  exact ⟨outpoint, updateHash, owned, registers, grown captured⟩

theorem Broadcast.Sound.mono
    {config : PageConfig} {captures later : List CaptureRecord}
    {broadcast : Broadcast}
    (sound : broadcast.Sound config captures) (grown : captures ⊆ later) :
    broadcast.Sound config later := by
  obtain ⟨identity, sender, carries⟩ := sound
  exact ⟨identity, sender, carries.mono grown⟩

namespace ChainView

/-- The identity in hand owns what `unsignedHex` says. -/
def Vouches (config : PageConfig) (view : ChainView) (unsignedHex : String) :
    Prop :=
  ∃ identity,
    view.identity = some identity ∧
      Carries config view.captures view.round identity unsignedHex

/-- A call works for the identity in hand. -/
structure Works
    (config : PageConfig) (view : ChainView) (call : ChainCall) : Prop where
  identity : view.identity = some call.identity
  address : call.beaconRegAddress = config.beaconAddress call.identity

end ChainView

/-- Every template and every accepted transaction the page keeps is vouched
for. -/
structure Vouched
    (config : PageConfig) (view : ChainView) (registration : Registration) :
    Prop where
  template :
    ∀ templateHex,
      registration.psbtTemplateHex = some templateHex →
        view.Vouches config templateHex
  verdict :
    ∀ accepted,
      registration.psbtVerdict = some (.ok accepted) →
        view.Vouches config (config.signer.stripWitness accepted.rawHex)

structure Registering
    (config : PageConfig) (view : ChainView)
    (identityOf : RoundId → Option Identity) : Prop where
  unmade : ∀ participant, view.round < participant → identityOf participant = none
  own :
    ∀ identity, identityOf view.round = some identity →
      view.identity = some identity
  address : view.beaconRegAddress = view.identity.map config.beaconAddress
  captured :
    ∀ captured, view.captured = some captured →
      ∃ identity,
        view.identity = some identity ∧ captured.did = identity.did ∧
          { round := view.round
            did := identity.did
            updateHashBytes := captured.updateHashBytes } ∈ view.captures
  vouched : Vouched config view view.registration
  registerCalls :
    ∀ call ∈ view.registerCalls,
      call.round = view.round ∧ view.Works config call
  exportCalls :
    ∀ call ∈ view.exportCalls,
      call.round ≤ view.round ∧
        (call.round = view.round → view.Works config call)
  attempt :
    view.registerCalls = [] ∨
      view.registration.attempting = true ∧
        ∃ call, view.registerCalls = [call]
  broadcasts :
    ∀ broadcast ∈ view.broadcasts, broadcast.Sound config view.captures

namespace Registering

variable {config : PageConfig} {view : ChainView}
  {identityOf : RoundId → Option Identity}

theorem fresh :
    Registering config Page.fresh.chainView Page.fresh.identityOf where
  unmade _ _ := rfl
  own _ made := by cases made
  address := rfl
  captured _ held := by cases held
  vouched := by
    refine ⟨?_, ?_⟩
    · intro templateHex exported
      cases exported
    · intro accepted verdict
      cases verdict
  registerCalls _ member := by cases member
  exportCalls _ member := by cases member
  attempt := Or.inl rfl
  broadcasts _ member := by cases member

theorem leavesChain
    {before after : Page}
    (registering : Registering config before.chainView before.identityOf)
    (leaves : LeavesChain before after) :
    Registering config after.chainView after.identityOf := by
  rw [leaves.chain, funext leaves.identities]
  exact registering

theorem vouched_initial (view : ChainView) :
    Vouched config view initialOutcome.registration := by
  refine ⟨?_, ?_⟩
  · intro templateHex exported
    cases exported
  · intro accepted verdict
    cases verdict

/-- A round that begins with no attempt under way: the exports of earlier
rounds are told apart by their number. -/
theorem newRound
    (registering : Registering config view identityOf)
    (settled : view.registerCalls = [])
    {identity : Option Identity} {later : RoundId → Option Identity}
    (unmade :
      ∀ participant, view.round + 1 < participant → later participant = none)
    (own :
      ∀ made, later (view.round + 1) = some made → identity = some made) :
    Registering config
      { view with
        identity
        beaconRegAddress := identity.map config.beaconAddress
        round := view.round + 1
        captured := none
        registration := initialOutcome.registration }
      later where
  unmade := unmade
  own := own
  address := rfl
  captured _ held := by cases held
  vouched := vouched_initial _
  registerCalls call member := by
    have member : call ∈ view.registerCalls := member
    rw [settled] at member
    cases member
  exportCalls call member := by
    have bound := (registering.exportCalls call member).1
    refine ⟨Nat.le_succ_of_le bound, fun current => ?_⟩
    have current : call.round = view.round + 1 := current
    rw [current] at bound
    exact absurd bound (Nat.not_succ_le_self _)
  attempt := Or.inl settled
  broadcasts := registering.broadcasts

theorem unjoined
    (registering : Registering config view identityOf)
    (settled : view.registerCalls = []) (identity : Option Identity) :
    Registering config
      { view with
        identity
        beaconRegAddress := identity.map config.beaconAddress
        round := view.round + 1
        captured := none
        registration := initialOutcome.registration }
      identityOf := by
  refine registering.newRound settled ?_ ?_
  · intro participant later
    exact registering.unmade participant (Nat.lt_of_succ_lt later)
  · intro made found
    rw [registering.unmade _ (Nat.lt_succ_self _)] at found
    cases found

/-- Only the registration fields, the attempt and the broadcasts change. -/
theorem chainStep
    (registering : Registering config view identityOf)
    {registration : Registration} {registerCalls exportCalls : List ChainCall}
    {broadcasts : List Broadcast}
    (vouched : Vouched config view registration)
    (registerWorks :
      ∀ call ∈ registerCalls,
        call.round = view.round ∧ view.Works config call)
    (exportWorks :
      ∀ call ∈ exportCalls,
        call ∈ view.exportCalls ∨
          (call.round = view.round ∧ view.Works config call))
    (attempt :
      registerCalls = [] ∨
        registration.attempting = true ∧ ∃ call, registerCalls = [call])
    (sound :
      ∀ broadcast ∈ broadcasts,
        broadcast ∈ view.broadcasts ∨ broadcast.Sound config view.captures) :
    Registering config
      { view with registration, registerCalls, exportCalls, broadcasts }
      identityOf where
  unmade := registering.unmade
  own := registering.own
  address := registering.address
  captured := registering.captured
  vouched := ⟨vouched.template, vouched.verdict⟩
  registerCalls call member := by
    obtain ⟨round, works⟩ := registerWorks call member
    exact ⟨round, works.identity, works.address⟩
  exportCalls call member := by
    rcases exportWorks call member with old | ⟨round, works⟩
    · obtain ⟨bound, own⟩ := registering.exportCalls call old
      refine ⟨bound, fun current => ?_⟩
      exact ⟨(own current).identity, (own current).address⟩
    · exact ⟨round.le, fun _ => ⟨works.identity, works.address⟩⟩
  attempt := attempt
  broadcasts broadcast member := by
    rcases sound broadcast member with old | new
    · exact registering.broadcasts broadcast old
    · exact new

/-- A click finds no attempt under way unless the status says so. -/
theorem settled_of_not_attempting
    (registering : Registering config view identityOf)
    (rests : view.registration.attempting = false) :
    view.registerCalls = [] := by
  rcases registering.attempt with settled | ⟨attempting, -⟩
  · exact settled
  · rw [rests] at attempting
    cases attempting

/-- The landing of an attempt's read finds that attempt alone. -/
theorem erase_eq_nil
    (registering : Registering config view identityOf)
    {call : ChainCall} (member : call ∈ view.registerCalls) :
    view.registerCalls.erase call = [] := by
  rcases registering.attempt with settled | ⟨-, only, single⟩
  · rw [settled] at member
    cases member
  · rw [single] at member ⊢
    rw [List.mem_singleton.mp member]
    exact List.erase_cons_head _ _

end Registering

end Invariant

section ChainActions

/-! ## The chain actions -/

/-- The page is where its registrations stay in their round. -/
abbrev Page.Registers (config : PageConfig) (page : Page) : Prop :=
  Registering config page.chainView page.identityOf

namespace Page.Registers

variable {config : PageConfig} {page : Page}

theorem registrant
    (registering : page.Registers config)
    {identity : Identity} {beaconRegAddress : String}
    (found : page.registrant? = some (identity, beaconRegAddress)) :
    page.identity = some identity ∧
      beaconRegAddress = config.beaconAddress identity := by
  have address : page.beaconRegAddress = page.identity.map config.beaconAddress :=
    registering.address
  unfold Page.registrant? at found
  split at found
  · next held addressed _ =>
    split at found
    · cases found
      rw [held, addressed] at address
      exact ⟨held, Option.some.inj address⟩
    · cases found
  · cases found

theorem newCall_works
    (registering : page.Registers config)
    {identity : Identity} {beaconRegAddress : String}
    (found : page.registrant? = some (identity, beaconRegAddress)) :
    page.chainView.Works config (page.newCall identity beaconRegAddress) := by
  obtain ⟨held, address⟩ := registering.registrant found
  exact ⟨held, address⟩

/-- A write of the status and error fields alone, no attempt under way. -/
theorem rest
    (registering : page.Registers config)
    (registration : Registration)
    (template :
      registration.psbtTemplateHex = page.registration.psbtTemplateHex)
    (verdict : registration.psbtVerdict = page.registration.psbtVerdict)
    {registerCalls : List ChainCall} (settled : registerCalls = []) :
    Registering config
      { page.chainView with registration, registerCalls } page.identityOf := by
  have vouched : Vouched config page.chainView registration := by
    refine ⟨?_, ?_⟩
    · intro templateHex exported
      exact registering.vouched.template templateHex (template ▸ exported)
    · intro accepted passed
      exact registering.vouched.verdict accepted (verdict ▸ passed)
  refine
    registering.chainStep vouched ?_ (fun _ member => Or.inl member)
      (Or.inl settled) fun _ member => Or.inl member
  intro call member
  rw [settled] at member
  cases member

theorem register
    (registering : page.Registers config) (acknowledgeMainnet : Bool) :
    (page.register config acknowledgeMainnet).Registers config := by
  unfold Page.register
  split
  · exact registering
  · next idle =>
    have settled : page.registerCalls = [] :=
      registering.settled_of_not_attempting (Bool.eq_false_iff.mpr idle)
    split
    · exact
        registering.rest (page.registration.failed mainnetBlocked) rfl rfl
          settled
    · split
      · exact registering
      · next identity beaconRegAddress found =>
        split
        · exact
            registering.rest (page.registration.failed notIncluded) rfl rfl
              settled
        · have works := registering.newCall_works found
          have vouched := registering.vouched
          refine
            registering.chainStep ⟨vouched.template, vouched.verdict⟩ ?_
              (fun _ member => Or.inl member) (Or.inr ⟨rfl, ?_⟩)
              fun _ member => Or.inl member
          · intro call member
            rw [settled] at member
            rw [List.mem_singleton.mp member]
            exact ⟨rfl, works⟩
          · rw [settled]
            exact ⟨_, rfl⟩

/-- What is captured was recorded for the identity a call works for. -/
theorem recorded_of_works
    (registering : page.Registers config)
    {call : ChainCall} (works : page.chainView.Works config call)
    {captured : Captured} (held : page.captured = some captured) :
    { round := page.round
      did := call.identity.did
      updateHashBytes := captured.updateHashBytes } ∈ page.captures := by
  obtain ⟨identity, inHand, -, recorded⟩ := registering.captured captured held
  have same : identity = call.identity :=
    Option.some.inj (inHand.symm.trans works.identity)
  rw [← same]
  exact recorded

/-- What the attempt's read is about to send is vouched for. -/
theorem rawTransaction
    (registering : page.Registers config)
    {call : ChainCall} (member : call ∈ page.registerCalls)
    {fundable : RegistrationUtxo}
    (owned : config.payee fundable.toOutpoint = call.beaconRegAddress)
    {randomness : Nat} {rawHex txid : String}
    (built :
      page.rawTransaction config call fundable randomness =
        .ok (rawHex, txid)) :
    page.chainView.Vouches config (config.signer.stripWitness rawHex) := by
  obtain ⟨-, works⟩ := registering.registerCalls call member
  unfold Page.rawTransaction at built
  split at built
  · split at built
    · next accepted passed =>
      cases built
      exact registering.vouched.verdict accepted passed
    · cases built
  · split at built
    · cases built
    · next captured held =>
      have recorded := registering.recorded_of_works works held
      refine
        ⟨call.identity, works.identity, fundable.toOutpoint, _, ?_, ?_,
          recorded⟩
      · exact owned.trans works.address
      · exact registers_of_buildSingletonRegistrationTx built

theorem fundsLand
    (registering : page.Registers config)
    {call : ChainCall} (member : call ∈ page.registerCalls)
    {answer : Except String (List RegistrationUtxo)}
    (answers : AnswersAddress config call answer) (randomness : Nat) :
    (page.fundsLand config call answer randomness).Registers config := by
  have settled := registering.erase_eq_nil member
  obtain ⟨round, works⟩ := registering.registerCalls call member
  unfold Page.fundsLand
  split
  · next message =>
    exact
      registering.rest (page.registration.failed message) rfl rfl settled
  · next utxos =>
    split
    · exact
        registering.rest
          { page.registration with regStatus := .awaitingFunds } rfl rfl
          settled
    · next fundable selected =>
      split
      · next message _ =>
        exact
          registering.rest (page.registration.failed message) rfl rfl settled
      · next rawHex txid built =>
        have listed := (mem_of_selectFundingUtxo selected).1
        obtain ⟨identity, inHand, carries⟩ :=
          registering.rawTransaction member (answers fundable listed) built
        have settled : page.registerCalls.erase call = [] := settled
        have vouched := registering.vouched
        refine
          registering.chainStep ⟨vouched.template, vouched.verdict⟩ ?_
            (fun _ kept => Or.inl kept) (Or.inr ⟨rfl, ?_⟩) ?_
        · intro other kept
          rw [settled] at kept
          rw [List.mem_singleton.mp kept]
          exact ⟨round, works.identity, works.address⟩
        · rw [settled]
          exact ⟨_, rfl⟩
        · intro broadcast sent
          rcases List.mem_cons.mp sent with rfl | old
          · exact Or.inr ⟨identity, inHand, carries⟩
          · exact Or.inl old

theorem broadcastLands
    (registering : page.Registers config)
    {call : ChainCall} (member : call ∈ page.registerCalls)
    (answer : Except String String) :
    (page.broadcastLands call answer).Registers config := by
  have settled := registering.erase_eq_nil member
  unfold Page.broadcastLands
  split
  · next broadcastTxid =>
    exact
      registering.rest
        { page.registration with
          regStatus := .registered
          regTxid := some broadcastTxid }
        rfl rfl settled
  · next message =>
    exact
      registering.rest
        { page.registration.failed message with regTxid := call.txid }
        rfl rfl settled

/-- A write of the external-signer fields, whatever attempt is under way. -/
theorem rewrite
    (registering : page.Registers config)
    (registration : Registration)
    (vouched : Vouched config page.chainView registration)
    (status : registration.regStatus = page.registration.regStatus)
    {exportCalls : List ChainCall}
    (exportWorks :
      ∀ call ∈ exportCalls,
        call ∈ page.exportCalls ∨
          (call.round = page.round ∧ page.chainView.Works config call)) :
    Registering config
      { page.chainView with registration, exportCalls } page.identityOf := by
  refine
    registering.chainStep vouched registering.registerCalls exportWorks ?_
      fun _ member => Or.inl member
  refine registering.attempt.imp_right fun ⟨attempting, single⟩ => ⟨?_, single⟩
  rw [Registration.attempting, status]
  exact attempting

theorem withoutPsbt (view : ChainView) (method : SigningMethod) :
    Vouched config view
      { page.registration.withoutPsbt with signingMethod := method } := by
  refine ⟨?_, ?_⟩
  · intro templateHex exported
    cases exported
  · intro accepted verdict
    cases verdict

theorem setSigningMethod
    (registering : page.Registers config) (method : SigningMethod) :
    (page.setSigningMethod method).Registers config := by
  unfold Page.setSigningMethod
  split
  · exact registering
  · exact
      registering.rewrite
        { page.registration.withoutPsbt with signingMethod := method }
        (withoutPsbt _ method) rfl
        fun _ member => Or.inl member

theorem clearPsbt (registering : page.Registers config) :
    page.clearPsbt.Registers config :=
  registering.rewrite page.registration.withoutPsbt
    (withoutPsbt _ page.registration.signingMethod) rfl
    fun _ member => Or.inl member

theorem exportPsbt (registering : page.Registers config) :
    page.exportPsbt.Registers config := by
  unfold Page.exportPsbt
  split
  · exact registering
  · split
    · exact registering
    · next identity beaconRegAddress found =>
      have works := registering.newCall_works found
      have vouched := registering.vouched
      refine
        registering.rewrite
          { page.registration with
            psbtExporting := true
            psbtExportError := none }
          ⟨vouched.template, vouched.verdict⟩ rfl ?_
      intro call member
      rcases List.mem_cons.mp member with rfl | old
      · exact Or.inr ⟨rfl, works⟩
      · exact Or.inl old

/-- A template built in its own round is vouched for. -/
theorem exportedTemplate
    (registering : page.Registers config)
    {call : ChainCall} (works : page.chainView.Works config call)
    {utxos : List RegistrationUtxo}
    (answers : AnswersAddress config call (.ok utxos))
    {base64 templateHex : String}
    (exported :
      page.exportedTemplate config call utxos = .ok (base64, templateHex)) :
    page.chainView.Vouches config templateHex := by
  unfold Page.exportedTemplate at exported
  split at exported
  · cases exported
  · next fundable selected =>
    split at exported
    · cases exported
    · next captured held =>
      have recorded := registering.recorded_of_works works held
      have listed := (mem_of_selectFundingUtxo selected).1
      refine
        ⟨call.identity, works.identity, fundable.toOutpoint, _, ?_, ?_,
          recorded⟩
      · exact (answers fundable listed).trans works.address
      · exact registers_of_exportRegistrationPsbt exported

theorem exportLands
    (registering : page.Registers config)
    {call : ChainCall} (member : call ∈ page.exportCalls)
    (own : call.round = page.round)
    {answer : Except String (List RegistrationUtxo)}
    (answers : AnswersAddress config call answer) :
    (page.exportLands config call answer).Registers config := by
  have works := (registering.exportCalls call member).2 own
  have kept :
      ∀ other ∈ page.exportCalls.erase call,
        other ∈ page.exportCalls ∨
          (other.round = page.round ∧ page.chainView.Works config other) :=
    fun _ remaining => Or.inl (List.mem_of_mem_erase remaining)
  have vouched := registering.vouched
  unfold Page.exportLands
  dsimp only
  split
  · next message _ =>
    exact
      registering.rewrite
        { page.registration with
          psbtExporting := false
          psbtExportError := some message }
        ⟨vouched.template, vouched.verdict⟩ rfl kept
  · next base64 templateHex exported =>
    refine
      registering.rewrite
        { page.registration with
          psbtBase64 := some base64
          psbtTemplateHex := some templateHex
          psbtExporting := false
          psbtExportError := none
          psbtReturned := ""
          psbtVerdict := none }
        ⟨?_, ?_⟩ rfl kept
    · intro hex shown
      cases shown
      cases answer with
      | error message => cases exported
      | ok utxos => exact registering.exportedTemplate works answers exported
    · intro accepted verdict
      cases verdict

/-- A verdict passes what the page exported. -/
theorem returnedVerdict
    (registering : page.Registers config)
    {templateHex : String}
    (exported : page.registration.psbtTemplateHex = some templateHex)
    {input : PsbtInput} {accepted : AcceptedPsbt}
    (verdict :
      Page.returnedVerdict config templateHex input = some (.ok accepted)) :
    page.chainView.Vouches config
      (config.signer.stripWitness accepted.rawHex) := by
  unfold Page.returnedVerdict at verdict
  split at verdict
  · cases verdict
  · split at verdict
    · cases verdict
    · next bytes _ =>
      have passed := validateSignedPsbt_ok (Option.some.inj verdict)
      rw [passed.1]
      exact registering.vouched.template templateHex exported

theorem submitSignedPsbt
    (registering : page.Registers config) (input : PsbtInput) :
    (page.submitSignedPsbt config input).Registers config := by
  unfold Page.submitSignedPsbt
  split
  · exact registering
  · next templateHex exported =>
    split
    · exact registering
    · refine
        registering.rewrite
          { page.registration with
            psbtReturned := input.asText config.signer
            psbtVerdict := Page.returnedVerdict config templateHex input }
          ⟨registering.vouched.template, ?_⟩ rfl fun _ member => Or.inl member
      intro accepted verdict
      dsimp only at verdict
      exact registering.returnedVerdict exported verdict

end Page.Registers

end ChainActions

section Capture

/-! ## The capture and the rounds -/

theorem Page.includedUpdate?_eq_some
    {page : Page} {info : CompleteInfo} {participant : RoundId}
    {record : ParticipantRecord} {update : SignedUpdate}
    (found :
      page.includedUpdate? info = some (participant, record, update)) :
    info.included = true ∧ page.live = some participant ∧
      page.participants.lookup participant = some record ∧
        record.maps.submittedUpdates.lookup info.cohortId = some update := by
  unfold Page.includedUpdate? at found
  split at found
  · next included =>
    simp only [Page.submittedUpdate?, Option.bind_eq_bind,
      Option.bind_eq_some_iff, Option.pure_def, Option.some.injEq,
      Prod.mk.injEq] at found
    obtain ⟨live, held, kept, listed, body, submitted, rfl, rfl, rfl⟩ := found
    exact ⟨included, held, listed, submitted⟩
  · cases found

namespace Registering

variable {config : PageConfig} {view : ChainView}
  {identityOf : RoundId → Option Identity}

/-- A capture for the identity in hand, in the round in hand. -/
theorem capture
    (registering : Registering config view identityOf)
    {identity : Identity} (inHand : view.identity = some identity)
    (updateHashBytes : Bytes) :
    Registering config
      { view with
        captured := some { did := identity.did, updateHashBytes }
        captures :=
          { round := view.round, did := identity.did, updateHashBytes } ::
            view.captures }
      identityOf where
  unmade := registering.unmade
  own := registering.own
  address := registering.address
  captured _ held := by
    cases held
    exact ⟨identity, inHand, rfl, List.mem_cons_self⟩
  vouched := by
    have grown := List.subset_cons_self
      ({ round := view.round, did := identity.did, updateHashBytes } :
        CaptureRecord) view.captures
    refine ⟨fun templateHex exported => ?_, fun accepted verdict => ?_⟩
    · obtain ⟨owner, held, carries⟩ :=
        registering.vouched.template templateHex exported
      exact ⟨owner, held, carries.mono grown⟩
    · obtain ⟨owner, held, carries⟩ :=
        registering.vouched.verdict accepted verdict
      exact ⟨owner, held, carries.mono grown⟩
  registerCalls call member := by
    obtain ⟨round, works⟩ := registering.registerCalls call member
    exact ⟨round, works.identity, works.address⟩
  exportCalls call member := by
    obtain ⟨bound, own⟩ := registering.exportCalls call member
    refine ⟨bound, fun current => ?_⟩
    exact ⟨(own current).identity, (own current).address⟩
  attempt := registering.attempt
  broadcasts broadcast member :=
    (registering.broadcasts broadcast member).mono
      (List.subset_cons_self _ _)

end Registering

namespace Page.Registers

variable {config : PageConfig} {page : Page}

theorem captureUpdate
    (registering : page.Registers config) {info : CompleteInfo}
    (own :
      info.included = true →
        ∀ participant ∈ page.live, participant = page.round) :
    (page.captureUpdate config info).Registers config := by
  unfold Page.captureUpdate
  split
  · exact registering
  · next participant record update found =>
    obtain ⟨included, live, listed, -⟩ := Page.includedUpdate?_eq_some found
    have current := own included participant live
    have made : page.identityOf page.round = some record.identity := by
      rw [Page.identityOf, ← current, listed]
      rfl
    have inHand : page.identity = some record.identity :=
      registering.own record.identity made
    have did :
        (page.identity.map Identity.did).getD "" = record.identity.did := by
      rw [inHand]
      rfl
    rw [did, current]
    exact registering.capture inHand (config.updateHashBytes update)

theorem onCohortComplete
    (registering : page.Registers config) {info : CompleteInfo}
    (own :
      info.included = true →
        ∀ participant ∈ page.live, participant = page.round) :
    (page.onCohortComplete config info).Registers config := by
  have captured := registering.captureUpdate own
  rw [Page.captureUpdate_eq] at captured
  rw [Page.onCohortComplete_eq]
  exact captured

theorem adopt
    (registering : page.Registers config) (settled : page.registerCalls = [])
    (identity : Identity) :
    (page.adopt config identity).Registers config :=
  registering.unjoined settled (some identity)

theorem startOver
    (registering : page.Registers config) (settled : page.registerCalls = []) :
    page.startOver.Registers config := by
  rw [Page.startOver_eq]
  exact registering.unjoined settled none

theorem leave
    (registering : page.Registers config) (settled : page.registerCalls = []) :
    page.leave.Registers config := by
  have left := registering.unjoined settled page.identity
  have address : page.beaconRegAddress = page.identity.map config.beaconAddress :=
    registering.address
  rw [← address] at left
  rw [Page.leave_eq]
  exact left

theorem beginJoin
    (registering : page.Registers config) (settled : page.registerCalls = [])
    {identity : Identity} (inHand : page.identity = some identity)
    (cohortId : CohortId) (sizing : Option CohortSizing) :
    (page.beginJoin identity cohortId sizing).Registers config := by
  have address : page.beaconRegAddress = page.identity.map config.beaconAddress :=
    registering.address
  have joined :
      ∀ participant,
        (page.beginJoin identity cohortId sizing).identityOf participant =
          if participant = page.round + 1 then
            some identity
          else
            page.identityOf participant := by
    intro participant
    rw [Page.identityOf, Page.beginJoin_eq]
    split
    · next same =>
      rw [same, AList.lookup_insert]
      rfl
    · next different =>
      rw [AList.lookup_insert_ne different]
      rfl
  have began :
      Registering config
        { page.chainView with
          identity := page.identity
          beaconRegAddress := page.identity.map config.beaconAddress
          round := page.round + 1
          captured := none
          registration := initialOutcome.registration }
        (page.beginJoin identity cohortId sizing).identityOf := by
    refine registering.newRound settled ?_ ?_
    · intro participant later
      have other : participant ≠ page.round + 1 := Nat.ne_of_gt later
      rw [joined, if_neg other]
      exact registering.unmade participant (Nat.lt_of_succ_lt later)
    · intro made found
      have own :
          (page.beginJoin identity cohortId sizing).identityOf
              (page.round + 1) =
            some identity :=
        (joined _).trans (if_pos rfl)
      rw [inHand]
      exact own.symm.trans found
  rw [← address] at began
  have view :
      (page.beginJoin identity cohortId sizing).chainView =
        { page.chainView with
          identity := page.identity
          beaconRegAddress := page.beaconRegAddress
          round := page.round + 1
          captured := none
          registration := initialOutcome.registration } := by
    rw [Page.beginJoin_eq]
    rfl
  rw [Page.Registers, view]
  exact began

/-- Every step the condition allows keeps the registrations in their round. -/
theorem step
    (registering : page.Registers config) {event : PageEvent}
    (offered : page.Offers config event)
    (own : RegistersInOwnRound config page event) :
    (page.step config event).Registers config := by
  cases event with
  | adopt identity => exact registering.adopt own identity
  | termsRecorded acceptance => exact registering
  | join cohortId sizing =>
      simp only [Page.step, Page.join]
      split
      · exact registering
      · next identity inHand =>
        split
        · exact registering
        · next rests =>
          split
          · exact registering
          · next accepted =>
            refine registering.beginJoin (own ?_) inHand cohortId sizing
            simp only [Page.joinAllowed, inHand, Option.isSome_some,
              decide_eq_true_eq]
            exact ⟨trivial, Bool.eq_false_iff.mpr rests, accepted⟩
  | leave => exact registering.leave own
  | startOver => exact registering.startOver own
  | submitUpdate => exact registering.leavesChain (LeavesChain.submitUpdate page)
  | register acknowledgeMainnet => exact registering.register acknowledgeMainnet
  | setSigningMethod method => exact registering.setSigningMethod method
  | exportPsbt => exact registering.exportPsbt
  | submitSignedPsbt input => exact registering.submitSignedPsbt input
  | clearPsbt => exact registering.clearPsbt
  | startResolved participant =>
      exact
        registering.leavesChain (LeavesChain.startResolved page participant)
  | startRejected participant message =>
      exact
        registering.leavesChain
          (LeavesChain.startRejected page participant message)
  | runner participant event =>
      by_cases completes : ∃ info, event = .cohortComplete info
      · obtain ⟨info, rfl⟩ := completes
        exact registering.onCohortComplete own
      · have narrates : ∀ info, event ≠ .cohortComplete info :=
          fun info same => completes ⟨info, same⟩
        exact
          registering.leavesChain (LeavesChain.onRunnerEvent page narrates)
  | provideUpdate participant cohortId beaconAddress randomness =>
      exact
        registering.leavesChain
          (LeavesChain.onProvideUpdate page config participant cohortId
            beaconAddress randomness)
  | directoryLands poll answer =>
      have writes := page.pollWrote_directoryLands poll answer
      exact registering.leavesChain (LeavesChain.pollWrote page writes)
  | graceFires timer =>
      have writes := page.pollWrote_graceFires offered.1
      exact registering.leavesChain (LeavesChain.pollWrote page writes)
  | postSeatLands poll answer =>
      have writes := page.pollWrote_postSeatLands poll answer
      exact registering.leavesChain (LeavesChain.pollWrote page writes)
  | fateLands read canceled =>
      have writes := page.pollWrote_fateLands read canceled
      exact registering.leavesChain (LeavesChain.pollWrote page writes)
  | fundsLand call answer randomness =>
      exact registering.fundsLand offered.1 offered.2.2 randomness
  | broadcastLands call answer => exact registering.broadcastLands offered.1 answer
  | exportLands call answer =>
      exact registering.exportLands offered.1 own offered.2

/-- One step: what comes from an earlier round writes no registration
field. -/
theorem isolated
    (registering : page.Registers config) {event : PageEvent}
    (offered : page.Offers config event)
    (own : RegistersInOwnRound config page event) :
    RegistrationIsolated config page event := by
  rintro ⟨origin, fromOrigin, stale⟩
  have untouched :
      ∀ {after : Page},
        LeavesChain page after → after.registration = page.registration :=
    fun leaves => congrArg ChainView.registration leaves.chain
  cases event with
  | startResolved participant =>
      exact untouched (LeavesChain.startResolved page participant)
  | startRejected participant message =>
      exact untouched (LeavesChain.startRejected page participant message)
  | runner participant event =>
      by_cases completes : ∃ info, event = .cohortComplete info
      · obtain ⟨info, rfl⟩ := completes
        simp only [Page.step, Page.onRunnerEvent, Page.onCohortComplete_eq]
      · have narrates : ∀ info, event ≠ .cohortComplete info :=
          fun info same => completes ⟨info, same⟩
        exact untouched (LeavesChain.onRunnerEvent page narrates)
  | provideUpdate participant cohortId beaconAddress randomness =>
      exact
        untouched
          (LeavesChain.onProvideUpdate page config participant cohortId
            beaconAddress randomness)
  | directoryLands poll answer =>
      have writes := page.pollWrote_directoryLands poll answer
      exact untouched (LeavesChain.pollWrote page writes)
  | graceFires timer =>
      have writes := page.pollWrote_graceFires offered.1
      exact untouched (LeavesChain.pollWrote page writes)
  | postSeatLands poll answer =>
      have writes := page.pollWrote_postSeatLands poll answer
      exact untouched (LeavesChain.pollWrote page writes)
  | fateLands read canceled =>
      have writes := page.pollWrote_fateLands read canceled
      exact untouched (LeavesChain.pollWrote page writes)
  | fundsLand call answer randomness =>
      cases fromOrigin
      exact absurd (registering.registerCalls call offered.1).1 stale
  | broadcastLands call answer =>
      cases fromOrigin
      exact absurd (registering.registerCalls call offered.1).1 stale
  | exportLands call answer =>
      cases fromOrigin
      exact absurd own stale
  | _ => cases fromOrigin

theorem sound (registering : page.Registers config) :
    RegistrationSound config page where
  broadcasts := registering.broadcasts
  oneAttempt := by
    rcases registering.attempt with settled | ⟨-, call, single⟩
    · have settled : page.registerCalls = [] := settled
      rw [settled]
      exact Nat.zero_le 1
    · have single : page.registerCalls = [call] := single
      rw [single]
      exact Nat.le_refl 1

end Page.Registers

end Capture

section Isolation

/-! ## Isolation -/

/-- The page whose registrations stay in their round. -/
def ownRegistrationMachine (config : PageConfig) : Machine Page PageEvent :=
  (pageMachine config).restrict (RegistersInOwnRound config)

theorem registers_always (config : PageConfig) :
    (ownRegistrationMachine config).Always (Page.Registers config) := by
  refine Machine.Always.of_inductive Registering.fresh ?_
  intro page event registering possible
  exact registering.step possible.1 possible.2

instance (config : PageConfig) (page : Page) (event : PageEvent) :
    Decidable ((ownRegistrationMachine config).admits page event) :=
  inferInstanceAs
    (Decidable
      (page.Offers config event ∧ RegistersInOwnRound config page event))

/-- The registrations of a page, under a machine that offers its events. -/
def RegistrationLaw
    (config : PageConfig) (machine : Machine Page PageEvent)
    (events : List PageEvent) : Prop :=
  RegistrationSound config (machine.run events) ∧
    ∀ event, machine.Admits (events ++ [event]) →
      RegistrationIsolated config (machine.run events) event

/-- In every run that begins no round under an attempt and captures and exports
in the round in hand, what is sent is the current identity's, at most one
attempt is under way, and no earlier round writes a registration field. -/
theorem registrationLaw_of_admits
    (config : PageConfig) (events : List PageEvent)
    (admissible : (ownRegistrationMachine config).Admits events) :
    RegistrationLaw config (ownRegistrationMachine config) events := by
  have registering := registers_always config events admissible
  refine ⟨registering.sound, fun event later => ?_⟩
  have split :=
    (ownRegistrationMachine config).admits_concat_iff events event
  obtain ⟨-, offered, own⟩ := split.mp later
  exact registering.isolated offered own

/-- A page of a hermetic service whose chain pays one coin to each of two
identities. -/
def twoCoins : PageConfig where
  network := .mutinynet
  termsText := none
  method := plainLibrary
  signer := numberedSigner
  updateHashBytes _ := List.replicate 32 7
  updateHashHex _ := "07"
  payee outpoint := if outpoint.vout = 0 then "k1" else "k2"

def secondIdentity : Identity where
  did := "did:btcr2:k2"
  keys := "k2"
  genesisDocument := none

/-- A participant joins a cohort, submits its update and completes. -/
def completedJoin (cohortId participant : Nat) : List PageEvent :=
  [ .join cohortId none,
    .startResolved participant,
    .runner participant (.cohortJoined cohortId),
    .runner participant (.cohortReady cohortId "tb1pcohort"),
    .provideUpdate participant cohortId "tb1pcohort" 0,
    .submitUpdate,
    .runner participant
      (.cohortComplete ⟨cohortId, "tb1pcohort", .casBeacon, true, 1⟩) ]

def firstCoin : RegistrationUtxo := ⟨⟨"coin", 0⟩, 5000⟩

def firstCall : ChainCall := ⟨0, 2, keyIdentity, "k1", none⟩

/-- A registration from click to broadcast. -/
def registeredRun : List PageEvent :=
  .adopt keyIdentity :: completedJoin 0 2 ++
    [ .register false, .fundsLand firstCall (.ok [firstCoin]) 0 ]

theorem registrationLaw_of_admits_registered :
    RegistrationLaw twoCoins (ownRegistrationMachine twoCoins) registeredRun :=
  registrationLaw_of_admits twoCoins registeredRun (by decide +kernel)

example :
    ((pageMachine twoCoins).run registeredRun).broadcasts.map
        (fun broadcast => (broadcast.round, broadcast.identity)) =
      [(2, some keyIdentity)] := by
  decide +kernel

/-- A second identity joins and completes while the funding read of the first
one's registration is out. -/
def replacedRun : List PageEvent :=
  .adopt keyIdentity :: completedJoin 0 2 ++
    .register false :: .adopt secondIdentity :: completedJoin 1 4

/-- The read lands: the first identity's coin is spent in the round of the
second. -/
theorem not_registrationLaw :
    ¬ ∀ events, (pageMachine twoCoins).Admits events →
      RegistrationLaw twoCoins (pageMachine twoCoins) events := by
  intro law
  have admissible :
      (pageMachine twoCoins).Admits
        (replacedRun ++ [.fundsLand firstCall (.ok [firstCoin]) 0]) := by
    decide +kernel
  have sound := (law _ admissible).1.broadcasts
  rw [Machine.run_concat] at sound
  have selected : selectFundingUtxo [firstCoin] = some firstCoin := by
    rfl
  have held :
      ((pageMachine twoCoins).run replacedRun).captured =
        some ⟨"did:btcr2:k2", List.replicate 32 7⟩ := by
    decide +kernel
  have method :
      ((pageMachine twoCoins).run replacedRun).registration.signingMethod =
        .browser := by
    decide +kernel
  have inHand :
      ((pageMachine twoCoins).run replacedRun).identity =
        some secondIdentity := by
    decide +kernel
  obtain ⟨rawHex, txid, built⟩ :
      ∃ rawHex txid,
        buildSingletonRegistrationTx numberedSigner "k1" firstCoin
            (List.replicate 32 7) .mutinynet 0 =
          .ok (rawHex, txid) :=
    ⟨_, _, rfl⟩
  generalize (pageMachine twoCoins).run replacedRun = page at *
  have sent :=
    @Page.broadcast_of_fundsLand twoCoins firstCall _ _ _ 0 rawHex txid _
      selected method held built
  obtain ⟨identity, sender, outpoint, updateHash, owned, registers, -⟩ :=
    sound _ sent
  have same : secondIdentity = identity :=
    Option.some.inj (inHand.symm.trans sender)
  have spent :=
    (registers.unique (registers_of_buildSingletonRegistrationTx built)).1
  rw [← same, spent] at owned
  revert owned
  decide +kernel

end Isolation

end Btcr2Aggregation
