import Btcr2Aggregation.Web.ChainEndpoint
import Btcr2Aggregation.Web.ReadFrames

/-!
# What the endpoint in use was checked for

Two laws of a page with its own chain endpoint: the endpoint in use is one the
participant chose and the page verified, and the confirmation shown is its
answer about the anchor shown.  Each holds in the runs whose steps keep to a
condition on what lands when.
-/

namespace Btcr2Aggregation

section Chosen

/-! ## The endpoint in use -/

/-- The base is that of a use whose probe answered `ok` for the network in
force, after the last clear. -/
structure EndpointPage.InForce
    (config : EndpointConfig) (state : EndpointPage) (base : String)
    (use : AcceptedUse) : Prop where
  accepted : use ∈ state.accepted
  sameBase : use.base = base
  normalizes :
    normalizeEndpoint config.protocolOf use.request.raw = some base
  made : use.request ∈ state.uses
  uncleared : state.cleared < use.request.number
  sameNetwork : use.request.ourNetwork = state.network
  answers : AnswersOurs state.network use.replies

/-- The second opt-in is up only inside the first. -/
def EndpointPage.DirectInside (state : EndpointPage) : Prop :=
  state.broadcastDirect = true → state.chainEndpoint ≠ none

/-- The endpoint in use is that of the latest request. -/
def EndpointPromise (config : EndpointConfig) (state : EndpointPage) : Prop :=
  state.DirectInside ∧
    ∀ base,
      state.chainEndpoint = some base →
        ∃ use,
          state.InForce config base use ∧ state.uses.head? = some use.request

/-- The endpoint in use is that of the latest request whose probe answered
`ok`: one that was refused or is still out leaves it in use. -/
def EndpointKept (config : EndpointConfig) (state : EndpointPage) : Prop :=
  ∀ base,
    state.chainEndpoint = some base →
      ∃ use,
        state.InForce config base use ∧
          ∀ other ∈ state.accepted,
            other.request.number ≤ use.request.number

/-- The base an `ok` puts in use. -/
def EndpointVerdict.base? : EndpointVerdict → Option String
  | .ok base => some base
  | _ => none

/-- An `ok` lands before the next clear and the next `ok`, with the network it
was asked for in force, and the network changes while no endpoint is in
use. -/
def LandsInOrder (config : EndpointConfig) (state : EndpointPage) :
    EndpointEvent → Prop
  | .useLands request replies =>
      (EndpointPage.useVerdict config request replies).base? ≠ none →
        state.cleared < request.number ∧
          (∀ other ∈ state.accepted, other.request.number < request.number) ∧
          request.ourNetwork = state.network
  | .configLands (some network) =>
      network = state.network ∨ state.chainEndpoint = none
  | _ => True

instance decidableLandsInOrder (config : EndpointConfig) (state : EndpointPage) :
    ∀ event, Decidable (LandsInOrder config state event) := by
  intro event
  cases event with
  | useLands request replies =>
      exact
        inferInstanceAs
          (Decidable
            ((EndpointPage.useVerdict config request replies).base? ≠ none →
              state.cleared < request.number ∧
                (∀ other ∈ state.accepted,
                  other.request.number < request.number) ∧
                request.ourNetwork = state.network))
  | configLands answer =>
      cases answer with
      | none => exact isTrue trivial
      | some network =>
          exact
            inferInstanceAs
              (Decidable
                (network = state.network ∨ state.chainEndpoint = none))
  | _ => exact isTrue trivial

/-- Every request that is out was made. -/
def EndpointPage.ProbesMade (state : EndpointPage) : Prop :=
  ∀ request ∈ state.probes, request ∈ state.uses

variable {config : EndpointConfig} {state : EndpointPage}

theorem EndpointPage.activeEndpoint?_ne_none
    (active : state.activeEndpoint? ≠ none) : state.chainEndpoint ≠ none := by
  intro absent
  apply active
  rw [activeEndpoint?, absent]
  rfl

/-- Reads leave the endpoint as it is. -/
theorem EndpointPage.askedOn_eq (event : ResolveEvent) (state : EndpointPage) :
    ∃ confirms, state.askedOn event = { state with confirms } := by
  unfold askedOn
  split
  · split
    · unfold askConfirm
      split
      · split
        · exact ⟨_, rfl⟩
        · exact ⟨_, rfl⟩
      · exact ⟨_, rfl⟩
    · exact ⟨_, rfl⟩
  · exact ⟨_, rfl⟩

theorem EndpointPage.onReads_eq
    (config : EndpointConfig) (event : ResolveEvent) (state : EndpointPage) :
    ∃ confirms,
      state.onReads config event =
        { state with
          confirms
          reads := state.reads.step config.page event } := by
  obtain ⟨confirms, asked⟩ := state.askedOn_eq event
  exact ⟨confirms, by rw [onReads, asked]⟩

/-- What the landing of a probe does: an `ok` puts its base in use. -/
theorem EndpointPage.useLands_cases
    (config : EndpointConfig) (request : UseRequest)
    (replies : Nat → ProbeReply) (state : EndpointPage) :
    (∃ base,
        useVerdict config request replies = .ok base ∧
          state.useLands config request replies =
            { state with
              probes := state.probes.erase request
              chainEndpointVerdict := some (.ok base)
              chainEndpointProbing := false
              chainEndpoint := some base
              endpointTxConfirmed := none
              accepted := { request, base, replies } :: state.accepted }) ∨
      (∀ base, useVerdict config request replies ≠ .ok base) ∧
        state.useLands config request replies =
          { state with
            probes := state.probes.erase request
            chainEndpointVerdict := some (useVerdict config request replies)
            chainEndpointProbing := false } := by
  unfold useLands
  cases verdict : useVerdict config request replies with
  | ok base => exact Or.inl ⟨base, rfl, rfl⟩
  | mismatch theirs ours => exact Or.inr ⟨nofun, rfl⟩
  | browserRejected => exact Or.inr ⟨nofun, rfl⟩
  | unreachable => exact Or.inr ⟨nofun, rfl⟩
  | malformed => exact Or.inr ⟨nofun, rfl⟩

theorem EndpointPage.DirectInside.step
    (inside : state.DirectInside) (config : EndpointConfig)
    (event : EndpointEvent) : (state.step config event).DirectInside := by
  cases event with
  | reads event =>
      obtain ⟨confirms, same⟩ := state.onReads_eq config event
      rw [EndpointPage.step, same]
      exact inside
  | useChainEndpoint raw => exact inside
  | useLands request replies =>
      rw [EndpointPage.step]
      rcases state.useLands_cases config request replies with
        ⟨base, _, landed⟩ | ⟨_, landed⟩
      · rw [landed]
        exact fun _ => Option.some_ne_none base
      · rw [landed]
        exact inside
  | clearChainEndpoint => exact fun raised => by cases raised
  | setBroadcastDirect on =>
      rw [EndpointPage.step, EndpointPage.setBroadcastDirect]
      by_cases refused : on = true ∧ state.activeEndpoint? = none
      · rw [if_pos refused]
        exact inside
      · rw [if_neg refused]
        intro raised
        apply EndpointPage.activeEndpoint?_ne_none
        intro inactive
        exact refused ⟨raised, inactive⟩
  | configLands answer => exact inside
  | confirmLands read confirmed =>
      rw [EndpointPage.step, EndpointPage.confirmLands]
      by_cases current : read.epoch = state.reads.anchorEpoch
      · simp only [current, if_true]
        exact inside
      · simp only [current, if_false]
        exact inside

/-- What the endpoint in use goes by. -/
structure ChosenView where
  chainEndpoint : Option String
  network : NetworkName
  cleared : Nat
  accepted : List AcceptedUse
  uses : List UseRequest

def EndpointPage.chosenView (state : EndpointPage) : ChosenView where
  chainEndpoint := state.chainEndpoint
  network := state.network
  cleared := state.cleared
  accepted := state.accepted
  uses := state.uses

namespace EndpointKept

/-- A step that leaves the view keeps the endpoint. -/
theorem of_view
    (kept : EndpointKept config state) {after : EndpointPage}
    (view : after.chosenView = state.chosenView) :
    EndpointKept config after := by
  injection view with chainEndpoint network cleared accepted uses
  intro base inUse
  rw [chainEndpoint] at inUse
  obtain ⟨use, inForce, latest⟩ := kept base inUse
  refine ⟨use, ?_, ?_⟩
  · constructor
    · rw [accepted]
      exact inForce.accepted
    · exact inForce.sameBase
    · exact inForce.normalizes
    · rw [uses]
      exact inForce.made
    · rw [cleared]
      exact inForce.uncleared
    · rw [network]
      exact inForce.sameNetwork
    · rw [network]
      exact inForce.answers
  · rw [accepted]
    exact latest

theorem useChainEndpoint (kept : EndpointKept config state) (raw : String) :
    EndpointKept config (state.useChainEndpoint raw) := by
  intro base inUse
  obtain ⟨use, inForce, latest⟩ := kept base inUse
  refine ⟨use, ?_, latest⟩
  exact
    { accepted := inForce.accepted
      sameBase := inForce.sameBase
      normalizes := inForce.normalizes
      made := List.mem_cons_of_mem _ inForce.made
      uncleared := inForce.uncleared
      sameNetwork := inForce.sameNetwork
      answers := inForce.answers }

theorem useLands
    (kept : EndpointKept config state) {request : UseRequest}
    {replies : Nat → ProbeReply} (made : request ∈ state.uses)
    (inOrder : LandsInOrder config state (.useLands request replies)) :
    EndpointKept config (state.useLands config request replies) := by
  rcases state.useLands_cases config request replies with
    ⟨base, ok, landed⟩ | ⟨_, landed⟩
  · rw [landed]
    have lands :
        (EndpointPage.useVerdict config request replies).base? ≠
          none := by
      rw [ok]
      exact Option.some_ne_none base
    obtain ⟨uncleared, latest, sameNetwork⟩ := inOrder lands
    obtain ⟨normalizes, answers⟩ := classifyEndpoint_eq_ok_iff.mp ok
    rw [sameNetwork] at answers
    intro other inUse
    cases inUse
    refine
      ⟨_,
        { accepted := List.mem_cons_self
          sameBase := rfl
          normalizes
          made
          uncleared
          sameNetwork
          answers }, ?_⟩
    intro earlier accepted
    rcases List.mem_cons.mp accepted with here | there
    · rw [here]
    · exact Nat.le_of_lt (latest earlier there)
  · rw [landed]
    exact kept.of_view rfl

theorem configLands
    (kept : EndpointKept config state) {answer : Option NetworkName}
    (inOrder : LandsInOrder config state (.configLands answer)) :
    EndpointKept config (state.configLands answer) := by
  cases answer with
  | none => exact kept
  | some network =>
      rcases inOrder with same | absent
      · apply kept.of_view
        rw [EndpointPage.configLands, same]
        rfl
      · intro base inUse
        rw [show state.chainEndpoint = some base from inUse] at absent
        cases absent

theorem step
    (kept : EndpointKept config state) (made : state.ProbesMade)
    {event : EndpointEvent} (offered : state.Offers config event)
    (inOrder : LandsInOrder config state event) :
    EndpointKept config (state.step config event) := by
  cases event with
  | reads event =>
      obtain ⟨confirms, same⟩ := state.onReads_eq config event
      rw [EndpointPage.step, same]
      exact kept.of_view rfl
  | useChainEndpoint raw => exact kept.useChainEndpoint raw
  | useLands request replies =>
      rw [EndpointPage.step]
      exact kept.useLands (made _ offered) inOrder
  | clearChainEndpoint => exact fun base inUse => by cases inUse
  | setBroadcastDirect on =>
      apply kept.of_view
      rw [EndpointPage.step, EndpointPage.setBroadcastDirect]
      by_cases refused : on = true ∧ state.activeEndpoint? = none
      · rw [if_pos refused]
      · rw [if_neg refused]
        rfl
  | configLands answer => exact kept.configLands inOrder
  | confirmLands read confirmed =>
      apply kept.of_view
      rw [EndpointPage.step, EndpointPage.confirmLands]
      by_cases current : read.epoch = state.reads.anchorEpoch
      · simp only [current, if_true]
        rfl
      · simp only [current, if_false]
        rfl

end EndpointKept

theorem EndpointPage.ProbesMade.step
    (made : state.ProbesMade) (config : EndpointConfig)
    (event : EndpointEvent) : (state.step config event).ProbesMade := by
  cases event with
  | reads event =>
      obtain ⟨confirms, same⟩ := state.onReads_eq config event
      rw [EndpointPage.step, same]
      exact made
  | useChainEndpoint raw =>
      intro request out
      rcases List.mem_cons.mp out with here | there
      · rw [here]
        exact List.mem_cons_self
      · exact List.mem_cons_of_mem _ (made request there)
  | useLands request replies =>
      rw [EndpointPage.step]
      rcases state.useLands_cases config request replies with
        ⟨base, _, landed⟩ | ⟨_, landed⟩
      · rw [landed]
        exact fun other out => made other (List.mem_of_mem_erase out)
      · rw [landed]
        exact fun other out => made other (List.mem_of_mem_erase out)
  | clearChainEndpoint => exact made
  | setBroadcastDirect on =>
      rw [EndpointPage.step, EndpointPage.setBroadcastDirect]
      by_cases refused : on = true ∧ state.activeEndpoint? = none
      · rw [if_pos refused]
        exact made
      · rw [if_neg refused]
        exact made
  | configLands answer => exact made
  | confirmLands read confirmed =>
      rw [EndpointPage.step, EndpointPage.confirmLands]
      by_cases current : read.epoch = state.reads.anchorEpoch
      · simp only [current, if_true]
        exact made
      · simp only [current, if_false]
        exact made

/-- In every run the second opt-in stays inside the first.  Where the probes
land in order, the endpoint in use is that of the latest request whose probe
answered `ok` for the network in force. -/
theorem endpointKept_of_admits
    (config : EndpointConfig) (events : List EndpointEvent)
    (admitted : (chainMachine config).Admits events) :
    ((chainMachine config).run events).DirectInside ∧
      (((chainMachine config).restrict (LandsInOrder config)).Admits events →
        EndpointKept config ((chainMachine config).run events)) := by
  constructor
  · have always :
        (chainMachine config).Always EndpointPage.DirectInside := by
      apply Machine.Always.of_inductive
      · exact fun raised => by cases raised
      · exact fun state event inside _ => inside.step config event
    exact always events admitted
  · have always :
        ((chainMachine config).restrict (LandsInOrder config)).Always
          fun state => state.ProbesMade ∧ EndpointKept config state := by
      apply Machine.Always.of_inductive
      · exact ⟨nofun, nofun⟩
      · intro state event holds offered
        exact
          ⟨holds.1.step config event,
            holds.2.step holds.1 offered.1 offered.2⟩
    exact fun inOrder => (always events inOrder).2

/-- A page of a hermetic service. -/
def plainEndpoints : EndpointConfig where
  page := plainConfig
  protocolOf := protocolBeforeSlashes

/-- An endpoint is taken into use. -/
def endpointTaken : List EndpointEvent :=
  [.useChainEndpoint "https://a.example",
    .useLands { number := 1, raw := "https://a.example", ourNetwork := .mutinynet }
      mutinynetReplies]

/-- The page after that. -/
def endpointInUse : EndpointPage :=
  { EndpointPage.fresh with
    chainEndpoint := some "https://a.example"
    chainEndpointVerdict := some (.ok "https://a.example")
    uses :=
      [{ number := 1, raw := "https://a.example", ourNetwork := .mutinynet }]
    accepted :=
      [{ request :=
          { number := 1, raw := "https://a.example", ourNetwork := .mutinynet }
         base := "https://a.example"
         replies := mutinynetReplies }] }

theorem run_endpointTaken :
    (chainMachine plainEndpoints).run endpointTaken = endpointInUse := by
  have verdict :
      EndpointPage.useVerdict plainEndpoints
          { number := 1, raw := "https://a.example", ourNetwork := .mutinynet }
          mutinynetReplies =
        .ok "https://a.example" := by
    decide +kernel
  simp only [Machine.run, Machine.runFrom, endpointTaken, List.foldl_cons,
    List.foldl_nil, chainMachine, EndpointPage.step, EndpointPage.useLands,
    verdict]
  rfl

theorem run_afterTaken (later : List EndpointEvent) :
    (chainMachine plainEndpoints).run (endpointTaken ++ later) =
      (chainMachine plainEndpoints).runFrom endpointInUse later := by
  rw [← run_endpointTaken]
  exact Machine.runFrom_append _ _ endpointTaken later

theorem admits_afterTaken (later : List EndpointEvent) :
    (chainMachine plainEndpoints).Admits (endpointTaken ++ later) ↔
      (chainMachine plainEndpoints).AdmitsFrom endpointInUse later := by
  have taken : (chainMachine plainEndpoints).Admits endpointTaken :=
    ⟨trivial, List.mem_cons_self, trivial⟩
  have split :=
    (chainMachine plainEndpoints).admitsFrom_append endpointTaken later
      EndpointPage.fresh
  rw [← run_endpointTaken]
  exact split.trans (and_iff_right taken)

/-- A second endpoint is tried and cannot be reached. -/
def secondRefused : List EndpointEvent :=
  endpointTaken ++
    [.useChainEndpoint "https://b.example",
      .useLands
        { number := 2, raw := "https://b.example", ourNetwork := .mutinynet }
        fun _ => .threw]

theorem secondRefused_accepted :
    (((chainMachine plainEndpoints).run secondRefused).accepted.map
        AcceptedUse.request) =
      [{ number := 1, raw := "https://a.example", ourNetwork := .mutinynet }] := by
  rw [secondRefused, run_afterTaken]
  decide +kernel

theorem admits_secondRefused :
    (chainMachine plainEndpoints).Admits secondRefused := by
  apply (admits_afterTaken _).mpr
  decide +kernel

theorem secondRefused_chainEndpoint :
    ((chainMachine plainEndpoints).run secondRefused).chainEndpoint =
      some "https://a.example" := by
  rw [secondRefused, run_afterTaken]
  decide +kernel

/-- The refusal leaves the first endpoint in use. -/
theorem not_endpointPromise :
    ¬∀ events,
        (chainMachine plainEndpoints).Admits events →
          EndpointPromise plainEndpoints
            ((chainMachine plainEndpoints).run events) := by
  intro claimed
  have promise := (claimed secondRefused admits_secondRefused).2
  obtain ⟨use, inForce, latest⟩ := promise _ secondRefused_chainEndpoint
  have request : use.request ∈ List.map AcceptedUse.request _ :=
    List.mem_map_of_mem inForce.accepted
  rw [secondRefused_accepted, List.mem_singleton] at request
  rw [request, secondRefused, run_afterTaken] at latest
  revert latest
  decide +kernel

theorem endpointKept_of_admits_refused :
    ((chainMachine plainEndpoints).run secondRefused).chainEndpoint =
        some "https://a.example" ∧
      ((chainMachine plainEndpoints).run secondRefused).DirectInside ∧
      EndpointKept plainEndpoints
        ((chainMachine plainEndpoints).run secondRefused) := by
  have laws :=
    endpointKept_of_admits plainEndpoints secondRefused admits_secondRefused
  exact ⟨secondRefused_chainEndpoint, laws.1, laws.2 (by decide +kernel)⟩

end Chosen

section Confirmed

/-! ## The confirmation shown -/

/-- The question is put to the endpoint in use, about the transaction the
anchor shown names, and was asked by a poll of the round in hand. -/
def ConfirmRead.IsCurrent (read : ConfirmRead) (state : EndpointPage) : Prop :=
  state.chainEndpoint = some read.base ∧
    read.round = state.reads.page.round ∧
    state.reads.anchor.bind AnchorDTO.txid = some read.txid

instance (read : ConfirmRead) (state : EndpointPage) :
    Decidable (read.IsCurrent state) :=
  inferInstanceAs (Decidable (_ ∧ _ ∧ _))

/-- What is shown answers a current question. -/
def ShowsCurrent (state : EndpointPage) : Prop :=
  ∀ shown ∈ state.endpointTxConfirmed, shown.answers.IsCurrent state

/-- No round begins under a confirmation that is shown, no anchor read that
names another transaction lands under it, and an answer that is taken up
answers a current question. -/
def KeepsAnswer (config : EndpointConfig) (state : EndpointPage) :
    EndpointEvent → Prop
  | .reads (.page event) =>
      state.endpointTxConfirmed ≠ none →
        (state.reads.page.step config.page event).round =
          state.reads.page.round
  | .reads (.anchorLands poll (some anchor)) =>
      poll.epoch = state.reads.anchorEpoch →
        ∀ shown ∈ state.endpointTxConfirmed,
          anchor.txid = some shown.answers.txid
  | .confirmLands read _ =>
      read.epoch = state.reads.anchorEpoch → read.IsCurrent state
  | _ => True

variable {config : EndpointConfig} {state : EndpointPage}

/-- What the confirmation shown is judged by. -/
structure ConfirmView where
  chainEndpoint : Option String
  endpointTxConfirmed : Option ConfirmedTx
  round : RoundId
  anchor : Option AnchorDTO
  deriving DecidableEq

def EndpointPage.confirmView (state : EndpointPage) : ConfirmView where
  chainEndpoint := state.chainEndpoint
  endpointTxConfirmed := state.endpointTxConfirmed
  round := state.reads.page.round
  anchor := state.reads.anchor

theorem showsCurrent_congr
    {after : EndpointPage} (view : after.confirmView = state.confirmView) :
    ShowsCurrent after ↔ ShowsCurrent state := by
  injection view with chainEndpoint shown round anchor
  simp only [ShowsCurrent, ConfirmRead.IsCurrent, chainEndpoint, shown, round,
    anchor]

/-- The confirmation shown hides nothing when there is none. -/
theorem showsCurrent_of_none (none_ : state.endpointTxConfirmed = none) :
    ShowsCurrent state := by
  intro shown held
  rw [none_] at held
  cases held

/-- Reads leave what is not theirs. -/
theorem EndpointPage.confirmView_onReads
    (config : EndpointConfig) (event : ResolveEvent) (state : EndpointPage) :
    (state.onReads config event).confirmView =
      { state.confirmView with
        round := (state.reads.step config.page event).page.round
        anchor := (state.reads.step config.page event).anchor } := by
  obtain ⟨confirms, same⟩ := state.onReads_eq config event
  rw [same]
  rfl

/-- Reads that keep the round and the anchor keep what is shown. -/
theorem EndpointPage.confirmView_onReads_of_kept
    (config : EndpointConfig) (event : ResolveEvent) {after : ReadView}
    (view : (state.reads.step config.page event).readView = after)
    (round : after.round = state.reads.page.round)
    (anchor : after.anchor = state.reads.anchor) :
    (state.onReads config event).confirmView = state.confirmView := by
  have sameRound := (congrArg ReadView.round view).trans round
  have sameAnchor := (congrArg ReadView.anchor view).trans anchor
  rw [state.confirmView_onReads]
  simp only [ResolvePage.readView] at sameRound sameAnchor
  rw [sameRound, sameAnchor]
  rfl

theorem EndpointPage.shown_onReads
    (config : EndpointConfig) (event : ResolveEvent) (state : EndpointPage) :
    (state.onReads config event).endpointTxConfirmed =
      state.endpointTxConfirmed :=
  congrArg ConfirmView.endpointTxConfirmed
    (state.confirmView_onReads config event)

/-- A round event keeps what is shown current if it begins no round, or
nothing is shown. -/
theorem showsCurrent_onPage_iff
    (shows_ : ShowsCurrent state) (event : PageEvent) :
    KeepsAnswer config state (.reads (.page event)) ↔
      ShowsCurrent (state.onReads config (.page event)) := by
  have moved :
      (state.reads.step config.page (.page event)).page =
        state.reads.page.step config.page event :=
    ResolvePage.page_onPage config.page event state.reads
  have shown := state.shown_onReads config (.page event)
  constructor
  · intro keeps
    by_cases hidden : state.endpointTxConfirmed = none
    · apply showsCurrent_of_none
      rw [shown, hidden]
    · have round := keeps hidden
      have view :=
        EndpointPage.confirmView_onReads_of_kept config (.page event)
          (ResolvePage.readView_onPage round) rfl rfl
      exact (showsCurrent_congr view).mpr shows_
  · intro after someShown
    obtain ⟨confirmed, held⟩ := Option.ne_none_iff_exists'.mp someShown
    have before := shows_ confirmed held
    have later := after confirmed (by rw [shown, held]; rfl)
    have round :
        confirmed.answers.round =
          (state.reads.page.step config.page event).round :=
      later.2.1.trans (congrArg Page.round moved)
    exact round.symm.trans before.2.1

/-- An anchor read keeps what is shown current if it names the same
transaction, or is dropped. -/
theorem showsCurrent_anchorLands_iff
    (shows_ : ShowsCurrent state) (poll : AnchorPoll)
    (answer : Option AnchorDTO) :
    KeepsAnswer config state (.reads (.anchorLands poll answer)) ↔
      ShowsCurrent (state.onReads config (.anchorLands poll answer)) := by
  have shown := state.shown_onReads config (.anchorLands poll answer)
  rcases ResolvePage.anchorLands_taken_or_dropped poll answer state.reads with
    ⟨current, anchor, rfl⟩ | dropped
  · have read := ResolvePage.readView_anchorLands_some current anchor
    have view := state.confirmView_onReads config (.anchorLands poll (some anchor))
    have round :
        (state.onReads config (.anchorLands poll (some anchor))).reads.page.round =
          state.reads.page.round :=
      (congrArg ConfirmView.round view).trans (congrArg ReadView.round read)
    have anchorShown :
        (state.onReads config (.anchorLands poll (some anchor))).reads.anchor =
          some anchor :=
      (congrArg ConfirmView.anchor view).trans (congrArg ReadView.anchor read)
    constructor
    · intro keeps confirmed held
      rw [shown] at held
      obtain ⟨active, sameRound, _⟩ := shows_ confirmed held
      refine ⟨?_, sameRound.trans round.symm, ?_⟩
      · exact (congrArg ConfirmView.chainEndpoint view).trans active
      · rw [anchorShown]
        exact keeps current confirmed held
    · intro after _ confirmed held
      have named := (after confirmed (by rw [shown]; exact held)).2.2
      rw [anchorShown] at named
      exact named
  · have view :=
      EndpointPage.confirmView_onReads_of_kept config (.anchorLands poll answer)
        (ResolvePage.readView_anchorLands_of_not dropped) rfl rfl
    constructor
    · exact fun _ => (showsCurrent_congr view).mpr shows_
    · intro _
      cases answer with
      | none => trivial
      | some anchor =>
          intro current
          cases dropped current

/-- An answer that is taken up is shown. -/
theorem showsCurrent_confirmLands_iff
    (shows_ : ShowsCurrent state) (read : ConfirmRead) (confirmed : Bool) :
    KeepsAnswer config state (.confirmLands read confirmed) ↔
      ShowsCurrent (state.confirmLands read confirmed) := by
  rw [EndpointPage.confirmLands]
  by_cases current : read.epoch = state.reads.anchorEpoch
  · simp only [current, if_true]
    constructor
    · intro keeps shown held
      cases held
      exact keeps current
    · intro after _
      exact after _ rfl
  · simp only [current, if_false]
    exact ⟨fun _ => shows_, fun _ taken => absurd taken current⟩

/-- A step keeps what is shown current exactly when it meets the
condition. -/
theorem keepsAnswer_iff
    (shows_ : ShowsCurrent state) (event : EndpointEvent) :
    KeepsAnswer config state event ↔
      ShowsCurrent (state.step config event) := by
  cases event with
  | reads event =>
      cases event with
      | page event => exact showsCurrent_onPage_iff shows_ event
      | resolve =>
          have view :=
            EndpointPage.confirmView_onReads_of_kept config .resolve
              (ResolvePage.readView_resolve .manual state.reads) rfl rfl
          exact ⟨fun _ => (showsCurrent_congr view).mpr shows_, fun _ => trivial⟩
      | anchorTicks =>
          have view :=
            EndpointPage.confirmView_onReads_of_kept config .anchorTicks
              (ResolvePage.readView_anchorTicks config.page state.reads) rfl rfl
          exact ⟨fun _ => (showsCurrent_congr view).mpr shows_, fun _ => trivial⟩
      | anchorLands poll answer =>
          exact showsCurrent_anchorLands_iff shows_ poll answer
      | lagTicks =>
          have view :=
            EndpointPage.confirmView_onReads_of_kept config .lagTicks
              (ResolvePage.readView_lagTicks state.reads) rfl rfl
          exact ⟨fun _ => (showsCurrent_congr view).mpr shows_, fun _ => trivial⟩
      | resolveLands read answer =>
          have view :=
            EndpointPage.confirmView_onReads_of_kept config (.resolveLands read answer)
              (ResolvePage.readView_resolveLands read answer state.reads) rfl rfl
          exact ⟨fun _ => (showsCurrent_congr view).mpr shows_, fun _ => trivial⟩
  | useChainEndpoint raw => exact ⟨fun _ => shows_, fun _ => trivial⟩
  | useLands request replies =>
      refine ⟨fun _ => ?_, fun _ => trivial⟩
      rw [EndpointPage.step]
      rcases state.useLands_cases config request replies with
        ⟨base, _, landed⟩ | ⟨_, landed⟩
      · rw [landed]
        exact showsCurrent_of_none rfl
      · rw [landed]
        exact shows_
  | clearChainEndpoint =>
      exact ⟨fun _ => showsCurrent_of_none rfl, fun _ => trivial⟩
  | setBroadcastDirect on =>
      refine ⟨fun _ => ?_, fun _ => trivial⟩
      rw [EndpointPage.step, EndpointPage.setBroadcastDirect]
      by_cases refused : on = true ∧ state.activeEndpoint? = none
      · rw [if_pos refused]
        exact shows_
      · rw [if_neg refused]
        exact shows_
  | configLands answer => exact ⟨fun _ => shows_, fun _ => trivial⟩
  | confirmLands read confirmed =>
      exact showsCurrent_confirmLands_iff shows_ read confirmed

/-- The runs that show nothing but current answers are those whose steps meet
the condition. -/
theorem showsCurrent_iff_keepsAnswer
    (config : EndpointConfig) (events : List EndpointEvent)
    (admitted : (chainMachine config).Admits events) :
    ((chainMachine config).restrict (KeepsAnswer config)).Admits events ↔
      ∀ earlier, earlier <+: events →
        ShowsCurrent ((chainMachine config).run earlier) := by
  have always : (chainMachine config).Always fun _ => True :=
    fun _ _ => trivial
  apply Machine.admits_restrict_iff always
  · exact showsCurrent_of_none rfl
  · exact fun state event _ _ shows_ => keepsAnswer_iff shows_ event
  · exact admitted

instance decidableKeepsAnswer (config : EndpointConfig) (state : EndpointPage) :
    ∀ event, Decidable (KeepsAnswer config state event) := by
  intro event
  induction event using EndpointEvent.casesOn with
  | reads event =>
      induction event using ResolveEvent.casesOn with
      | page event =>
          exact
            inferInstanceAs
              (Decidable
                (state.endpointTxConfirmed ≠ none →
                  (state.reads.page.step config.page event).round =
                    state.reads.page.round))
      | anchorLands poll answer =>
          cases answer with
          | none => exact isTrue trivial
          | some anchor =>
              exact
                inferInstanceAs
                  (Decidable
                    (poll.epoch = state.reads.anchorEpoch →
                      ∀ shown ∈ state.endpointTxConfirmed,
                        anchor.txid = some shown.answers.txid))
      | _ => exact isTrue trivial
  | confirmLands read confirmed =>
      exact
        inferInstanceAs
          (Decidable
            (read.epoch = state.reads.anchorEpoch → read.IsCurrent state))
  | _ => exact isTrue trivial

def broadcastAnchor : AnchorDTO where
  enabled := true
  state := .broadcast
  txid := some "t"
  explorerUrl := none
  reason := none

/-- With an endpoint in use a round completes, the service names its
transaction, and the endpoint confirms it. -/
def confirmedAtEndpoint : List EndpointEvent :=
  endpointTaken ++ completedRound.map .reads ++
    [.reads (.anchorLands ⟨3, 7, 2⟩ (some broadcastAnchor)),
      .confirmLands
        { base := "https://a.example", txid := "t", epoch := 3, round := 2 }
        true]

theorem admits_confirmedAtEndpoint :
    (chainMachine plainEndpoints).Admits confirmedAtEndpoint := by
  rw [confirmedAtEndpoint, List.append_assoc]
  apply (admits_afterTaken _).mpr
  decide +kernel

theorem showsCurrent_iff_keepsAnswer_confirmed :
    ((chainMachine plainEndpoints).run confirmedAtEndpoint).endpointTxConfirmed ≠
        none ∧
      ∀ earlier, earlier <+: confirmedAtEndpoint →
        ShowsCurrent ((chainMachine plainEndpoints).run earlier) := by
  have exactly :=
    showsCurrent_iff_keepsAnswer plainEndpoints confirmedAtEndpoint
      admits_confirmedAtEndpoint
  have shown :
      ((chainMachine plainEndpoints).run
          confirmedAtEndpoint).endpointTxConfirmed ≠ none := by
    rw [confirmedAtEndpoint, List.append_assoc, run_afterTaken]
    decide +kernel
  exact ⟨shown, exactly.mp (by decide +kernel)⟩

/-- The confirmation of one round is shown in the next. -/
theorem not_showsCurrent_nextRound :
    ¬∀ events,
        (chainMachine plainEndpoints).Admits events →
          ShowsCurrent ((chainMachine plainEndpoints).run events) := by
  intro claimed
  have shows_ :=
    claimed (confirmedAtEndpoint ++ [.reads (.page (.join 8 none))]) <| by
      rw [confirmedAtEndpoint, List.append_assoc, List.append_assoc]
      apply (admits_afterTaken _).mpr
      decide +kernel
  have held :
      ((chainMachine plainEndpoints).run
            (confirmedAtEndpoint ++
              [.reads (.page (.join 8 none))])).endpointTxConfirmed =
        some
          { confirmed := true
            answers :=
              { base := "https://a.example", txid := "t", epoch := 3,
                round := 2 } } := by
    rw [confirmedAtEndpoint, List.append_assoc, List.append_assoc,
      run_afterTaken]
    decide +kernel
  have current := shows_ _ held
  rw [confirmedAtEndpoint, List.append_assoc, List.append_assoc,
    run_afterTaken] at current
  revert current
  decide +kernel

end Confirmed

end Btcr2Aggregation
