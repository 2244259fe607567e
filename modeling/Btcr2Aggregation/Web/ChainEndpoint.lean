import Btcr2Aggregation.Web.Esplora
import Btcr2Aggregation.Web.ResolveReads

/-!
# A participant's own chain endpoint

A participant can have the page read the chain from an endpoint of their own.
The page probes it first, and once it is in use asks it about the anchor the
service names.  The probes and these questions are awaited while the
participant and the polls go on.
-/

namespace Btcr2Aggregation

section Pages

/-! ## Pages -/

structure EndpointConfig where
  page : PageConfig
  protocolOf : String → Option String

/-- A request to use an endpoint, with its number and the network it is probed
for. -/
structure UseRequest where
  number : Nat
  raw : String
  ourNetwork : NetworkName
  deriving DecidableEq, Repr

/-- A request whose probe answered `ok`. -/
structure AcceptedUse where
  request : UseRequest
  base : String
  replies : Nat → ProbeReply

/-- A question about a transaction, with the poll that asked it. -/
structure ConfirmRead where
  base : String
  txid : String
  epoch : Nat
  round : RoundId
  deriving DecidableEq, Repr

/-- `endpointTxConfirmed`, with the question it answers. -/
structure ConfirmedTx where
  confirmed : Bool
  answers : ConfirmRead
  deriving DecidableEq, Repr

/-- The page with its endpoint.  `probes` and `confirms` are out; `uses`,
`cleared` and `accepted` are a record of the requests, of how many were made
before the last clear, and of the probes that answered `ok`. -/
structure EndpointPage where
  reads : ResolvePage
  network : NetworkName
  chainEndpoint : Option String
  chainEndpointVerdict : Option EndpointVerdict
  chainEndpointProbing : Bool
  broadcastDirect : Bool
  endpointTxConfirmed : Option ConfirmedTx
  probes : List UseRequest
  confirms : List ConfirmRead
  uses : List UseRequest
  cleared : Nat
  accepted : List AcceptedUse

def EndpointPage.fresh : EndpointPage where
  reads := ResolvePage.fresh
  network := .mutinynet
  chainEndpoint := none
  chainEndpointVerdict := none
  chainEndpointProbing := false
  broadcastDirect := false
  endpointTxConfirmed := none
  probes := []
  confirms := []
  uses := []
  cleared := 0
  accepted := []

inductive EndpointEvent where
  | reads (event : ResolveEvent)
  | useChainEndpoint (raw : String)
  | useLands (request : UseRequest) (replies : Nat → ProbeReply)
  | clearChainEndpoint
  | setBroadcastDirect (on : Bool)
  | configLands (answer : Option NetworkName)
  | confirmLands (read : ConfirmRead) (confirmed : Bool)

end Pages

section Handlers

/-! ## Handlers -/

namespace EndpointPage

/-- `chainEndpoint`, where a condition takes it for true. -/
def activeEndpoint? (state : EndpointPage) : Option String :=
  state.chainEndpoint.filter fun base => base ≠ ""

/-- The question an anchor read asks of the endpoint, once for each answer
shown. -/
def askConfirm
    (poll : AnchorPoll) (anchor : AnchorDTO) (state : EndpointPage) :
    EndpointPage :=
  match state.activeEndpoint?, anchor.txid with
  | some base, some txid =>
      if txid ≠ "" ∧ state.endpointTxConfirmed = none then
        let read : ConfirmRead :=
          { base, txid, epoch := poll.epoch, round := poll.round }
        { state with confirms := read :: state.confirms }
      else
        state
  | _, _ => state

/-- What an event of the reads adds here. -/
def askedOn (event : ResolveEvent) (state : EndpointPage) : EndpointPage :=
  match event with
  | .anchorLands poll (some anchor) =>
      if poll.epoch = state.reads.anchorEpoch then
        askConfirm poll anchor state
      else
        state
  | _ => state

def onReads
    (config : EndpointConfig) (event : ResolveEvent) (state : EndpointPage) :
    EndpointPage :=
  { askedOn event state with reads := state.reads.step config.page event }

/-- `useChainEndpoint`, up to its probe. -/
def useChainEndpoint (raw : String) (state : EndpointPage) : EndpointPage :=
  let request : UseRequest :=
    { number := state.uses.length + 1, raw, ourNetwork := state.network }
  { state with
    chainEndpointProbing := true
    chainEndpointVerdict := none
    probes := request :: state.probes
    uses := request :: state.uses }

/-- The verdict of a request's probe. -/
def useVerdict
    (config : EndpointConfig) (request : UseRequest)
    (replies : Nat → ProbeReply) : EndpointVerdict :=
  classifyEndpoint config.protocolOf request.raw request.ourNetwork
    (some (probeEndpoint request.ourNetwork replies))

/-- The rest of `useChainEndpoint`. -/
def useLands
    (config : EndpointConfig) (request : UseRequest)
    (replies : Nat → ProbeReply) (state : EndpointPage) : EndpointPage :=
  let settled :=
    { state with
      probes := state.probes.erase request
      chainEndpointVerdict := some (useVerdict config request replies)
      chainEndpointProbing := false }
  match useVerdict config request replies with
  | .ok base =>
      { settled with
        chainEndpoint := some base
        endpointTxConfirmed := none
        accepted := { request, base, replies } :: state.accepted }
  | _ => settled

def clearChainEndpoint (state : EndpointPage) : EndpointPage :=
  { state with
    chainEndpoint := none
    chainEndpointVerdict := none
    chainEndpointProbing := false
    broadcastDirect := false
    endpointTxConfirmed := none
    cleared := state.uses.length }

def setBroadcastDirect (on : Bool) (state : EndpointPage) : EndpointPage :=
  if on = true ∧ state.activeEndpoint? = none then
    state
  else
    { state with broadcastDirect := on }

/-- `loadConfig` lands; without an answer the network stays. -/
def configLands (answer : Option NetworkName) (state : EndpointPage) :
    EndpointPage :=
  { state with network := answer.getD state.network }

/-- The answer of an endpoint lands; that of an earlier poll is dropped. -/
def confirmLands (read : ConfirmRead) (confirmed : Bool) (state : EndpointPage) :
    EndpointPage :=
  let settled := { state with confirms := state.confirms.erase read }
  if read.epoch = state.reads.anchorEpoch then
    { settled with endpointTxConfirmed := some { confirmed, answers := read } }
  else
    settled

def step (config : EndpointConfig) (state : EndpointPage) :
    EndpointEvent → EndpointPage
  | .reads event => onReads config event state
  | .useChainEndpoint raw => useChainEndpoint raw state
  | .useLands request replies => useLands config request replies state
  | .clearChainEndpoint => clearChainEndpoint state
  | .setBroadcastDirect on => setBroadcastDirect on state
  | .configLands answer => configLands answer state
  | .confirmLands read confirmed => confirmLands read confirmed state

def Offers (config : EndpointConfig) (state : EndpointPage) :
    EndpointEvent → Prop
  | .reads event => state.reads.Offers config.page event
  | .useLands request _ => request ∈ state.probes
  | .confirmLands read _ => read ∈ state.confirms
  | _ => True

instance decidableOffers (config : EndpointConfig) (state : EndpointPage) :
    ∀ event, Decidable (state.Offers config event)
  | .reads event => state.reads.decidableOffers config.page event
  | .useChainEndpoint _ => isTrue trivial
  | .useLands request _ => inferInstanceAs (Decidable (request ∈ state.probes))
  | .clearChainEndpoint => isTrue trivial
  | .setBroadcastDirect _ => isTrue trivial
  | .configLands _ => isTrue trivial
  | .confirmLands read _ => inferInstanceAs (Decidable (read ∈ state.confirms))

end EndpointPage

def chainMachine (config : EndpointConfig) :
    Machine EndpointPage EndpointEvent where
  init := EndpointPage.fresh
  step := EndpointPage.step config
  admits := EndpointPage.Offers config

instance
    (config : EndpointConfig) (state : EndpointPage) (event : EndpointEvent) :
    Decidable ((chainMachine config).admits state event) :=
  state.decidableOffers config event

end Handlers

end Btcr2Aggregation
