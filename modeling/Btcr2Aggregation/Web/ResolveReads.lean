import Btcr2Aggregation.Web.StoreRuns

/-!
# The anchor poll and the resolutions of a page

After a completion the page polls the public anchor of its cohort.  The poll
asks for one resolution by itself, and on a live service starts a bounded
retry; the participant can ask at any time.  All three share one slot, which
every new round clears.
-/

namespace Btcr2Aggregation

section Facts

/-! ## Facts -/

inductive ResolutionStatus where
  | idle
  | resolving
  | resolved
  | failed
  deriving DecidableEq, Repr

inductive AnchorLifecycle where
  | none
  | broadcast
  | confirmed
  | failed
  deriving DecidableEq, Repr

structure AnchorDTO where
  enabled : Bool
  state : AnchorLifecycle
  txid : Option String
  explorerUrl : Option String
  reason : Option String
  deriving DecidableEq, Repr

def shouldAutoResolve (anchor : AnchorDTO) : Bool :=
  anchor.enabled = false ∨ anchor.state = .confirmed ∨ anchor.state = .failed

/-- The poll freezes on these. -/
def AnchorDTO.freezes (anchor : AnchorDTO) : Bool :=
  anchor.enabled = false ∨ anchor.state = .confirmed ∨ anchor.state = .failed

def findAppendedBeacon (document : DidDocument) (did : String) :
    Option Service :=
  document.service.find? fun service =>
    (service.type = "CASBeacon" ∧ service.id = did ++ "#beacon-cas") ∨
      (service.type = "SMTBeacon" ∧ service.id = did ++ "#beacon-smt")

def resolveLagMaxAttempts : Nat := 3

end Facts

section Closures

/-! ## Closures -/

/-- An anchor poll's closure, and the round it was set up in. -/
structure AnchorPoll where
  epoch : Nat
  cohortId : CohortId
  round : RoundId
  deriving DecidableEq, Repr

/-- A retry, with the poll it was started for. -/
structure LagRetry where
  attempts : Nat
  poll : AnchorPoll
  deriving DecidableEq, Repr

/-- Who asked for a resolution. -/
inductive ResolveCause where
  | manual
  | anchor (poll : AnchorPoll)
  | lag (poll : AnchorPoll)
  deriving DecidableEq, Repr

/-- A resolution that was asked for; the last three are when and by whom. -/
structure ResolveRead where
  did : String
  genesisDocument : Option GenesisDocument
  round : RoundId
  anchorEpoch : Nat
  cause : ResolveCause
  deriving DecidableEq, Repr

/-- A held resolution, with the request it answers. -/
structure Resolution where
  didDocument : DidDocument
  answers : ResolveRead
  deriving DecidableEq, Repr

/-- The page with its resolution slot and its two timers.  `anchorReads` and
`resolveReads` are out, `requests` is a record of every resolution asked for. -/
structure ResolvePage where
  page : Page
  anchor : Option AnchorDTO
  resolveStatus : ResolutionStatus
  resolution : Option Resolution
  resolveError : Option String
  anchorPoll : Option AnchorPoll
  anchorEpoch : Nat
  anchorFailures : Nat
  autoResolved : Bool
  resolveLagRetry : Option LagRetry
  anchorReads : List AnchorPoll
  resolveReads : List ResolveRead
  requests : List ResolveRead

def ResolvePage.fresh : ResolvePage where
  page := Page.fresh
  anchor := none
  resolveStatus := .idle
  resolution := none
  resolveError := none
  anchorPoll := none
  anchorEpoch := 0
  anchorFailures := 0
  autoResolved := false
  resolveLagRetry := none
  anchorReads := []
  resolveReads := []
  requests := []

end Closures

section Handlers

/-! ## Handlers -/

namespace ResolvePage

def clearAnchorPoll (state : ResolvePage) : ResolvePage :=
  { state with
    anchorPoll := none
    anchorEpoch := state.anchorEpoch + 1
    anchorFailures := 0 }

def clearResolveLagRetry (state : ResolvePage) : ResolvePage :=
  { state with resolveLagRetry := none }

/-- What `INITIAL_OUTCOME` resets here. -/
def resetOutcome (state : ResolvePage) : ResolvePage :=
  { state with
    anchor := none
    resolveStatus := .idle
    resolution := none
    resolveError := none }

/-- `resolve`, up to its request. -/
def resolve (cause : ResolveCause) (state : ResolvePage) : ResolvePage :=
  match state.page.identity with
  | none => state
  | some identity =>
      if identity.did = "" then
        state
      else
        let read : ResolveRead :=
          { did := identity.did
            genesisDocument := identity.genesisDocument
            round := state.page.round
            anchorEpoch := state.anchorEpoch
            cause }
        { state with
          resolveStatus := .resolving
          resolveError := none
          resolveReads := read :: state.resolveReads
          requests := read :: state.requests }

def resolveLands
    (read : ResolveRead) (answer : Except String DidDocument)
    (state : ResolvePage) : ResolvePage :=
  let settled := { state with resolveReads := state.resolveReads.erase read }
  match answer with
  | .ok didDocument =>
      { settled with
        resolveStatus := .resolved
        resolution := some { didDocument, answers := read } }
  | .error message =>
      { settled with
        resolveStatus := .failed
        resolveError := some message }

def startResolveLagRetry (poll : AnchorPoll) (state : ResolvePage) :
    ResolvePage :=
  { state with resolveLagRetry := some { attempts := 0, poll } }

/-- The held resolution lists the beacon of the identity in hand. -/
def reflected (state : ResolvePage) : Bool :=
  match state.resolution, state.page.identity with
  | some resolution, some identity =>
      identity.did ≠ "" ∧
        (findAppendedBeacon resolution.didDocument identity.did).isSome
  | _, _ => false

/-- The retry's interval fires. -/
def lagTicks (state : ResolvePage) : ResolvePage :=
  match state.resolveLagRetry with
  | none => state
  | some retry =>
      let attempts := retry.attempts + 1
      if state.reflected ∨ resolveLagMaxAttempts ≤ attempts then
        clearResolveLagRetry state
      else
        resolve (.lag retry.poll)
          { state with resolveLagRetry := some { retry with attempts } }

/-- The poll's interval fires: one more read goes out. -/
def anchorTicks (poll : AnchorPoll) (state : ResolvePage) : ResolvePage :=
  { state with anchorReads := poll :: state.anchorReads }

def trackAnchor (cohortId : CohortId) (state : ResolvePage) : ResolvePage :=
  let cleared := clearResolveLagRetry (clearAnchorPoll state)
  let poll : AnchorPoll :=
    { epoch := cleared.anchorEpoch, cohortId, round := state.page.round }
  { anchorTicks poll { cleared with autoResolved := false } with
    anchorPoll := some poll }

def setUnreachable (unreachable : Bool) (state : ResolvePage) : ResolvePage :=
  { state with
    page := {
      state.page with
      outcome := { state.page.outcome with unreachable } } }

/-- The one resolution a poll asks for by itself. -/
def autoResolve (poll : AnchorPoll) (anchor : AnchorDTO) (state : ResolvePage) :
    ResolvePage :=
  if state.autoResolved = false ∧ shouldAutoResolve anchor = true then
    let asked := resolve (.anchor poll) { state with autoResolved := true }
    if anchor.enabled then startResolveLagRetry poll asked else asked
  else
    state

/-- A read of a poll lands; a read of an earlier poll is dropped. -/
def anchorLands
    (poll : AnchorPoll) (answer : Option AnchorDTO) (state : ResolvePage) :
    ResolvePage :=
  let settled := { state with anchorReads := state.anchorReads.erase poll }
  if poll.epoch = state.anchorEpoch then
    match answer with
    | some anchor =>
        let asked :=
          autoResolve poll anchor
            (setUnreachable false
              { settled with anchorFailures := 0, anchor := some anchor })
        if anchor.freezes then clearAnchorPoll asked else asked
    | none =>
        let counted :=
          { settled with anchorFailures := state.anchorFailures + 1 }
        if unreachableThreshold ≤ counted.anchorFailures then
          setUnreachable true counted
        else
          counted
  else
    settled

end ResolvePage

end Handlers

section Steps

/-! ## Steps -/

/-- `teardownLive` runs: in every failure, in a completion, and in each new
round but an adopted identity's. -/
def PageEvent.tearsDown (config : PageConfig) (page : Page) :
    PageEvent → Bool
  | .join cohortId sizing =>
      (page.step config (.join cohortId sizing)).round ≠ page.round
  | .leave => true
  | .startOver => true
  | .startRejected _ _ => true
  | .runner _ (.cohortComplete _) => true
  | .runner _ (.cohortFailed _ _) => true
  | .runner _ (.error _) => page.facts.status.underWay
  | .directoryLands poll answer =>
      page.facts.status ≠ .failed ∧
        (page.directoryLands poll answer).facts.status = .failed
  | .graceFires timer =>
      page.facts.status ≠ .failed ∧
        (page.graceFires timer).facts.status = .failed
  | .postSeatLands poll answer =>
      page.facts.status ≠ .failed ∧
        (page.postSeatLands poll answer).facts.status = .failed
  | _ => false

/-- The cohort whose anchor a completion goes on to track. -/
def PageEvent.tracks? : PageEvent → Option CohortId
  | .runner _ (.cohortComplete info) => some info.cohortId
  | _ => none

inductive ResolveEvent where
  | page (event : PageEvent)
  | resolve
  | anchorTicks
  | anchorLands (poll : AnchorPoll) (answer : Option AnchorDTO)
  | lagTicks
  | resolveLands (read : ResolveRead) (answer : Except String DidDocument)

namespace ResolvePage

/-- An event of the page, with what its handler does to the slot and the
timers. -/
def onPage (config : PageConfig) (event : PageEvent) (state : ResolvePage) :
    ResolvePage :=
  let page := state.page.step config event
  let torn :=
    if event.tearsDown config state.page then
      clearAnchorPoll (clearResolveLagRetry state)
    else
      state
  let reset :=
    if page.round = state.page.round then torn else resetOutcome torn
  let moved := { reset with page }
  match event.tracks? with
  | some cohortId => trackAnchor cohortId moved
  | none => moved

def step (config : PageConfig) (state : ResolvePage) :
    ResolveEvent → ResolvePage
  | .page event => onPage config event state
  | .resolve => resolve .manual state
  | .anchorTicks =>
      match state.anchorPoll with
      | some poll => anchorTicks poll state
      | none => state
  | .anchorLands poll answer => anchorLands poll answer state
  | .lagTicks => lagTicks state
  | .resolveLands read answer => resolveLands read answer state

/-- An interval fires while it is set, and only what is out can land. -/
def Offers (config : PageConfig) (state : ResolvePage) : ResolveEvent → Prop
  | .page event => state.page.Offers config event
  | .resolve => True
  | .anchorTicks => state.anchorPoll.isSome = true
  | .anchorLands poll _ => poll ∈ state.anchorReads
  | .lagTicks => state.resolveLagRetry.isSome = true
  | .resolveLands read _ => read ∈ state.resolveReads

instance decidableOffers (config : PageConfig) (state : ResolvePage) :
    ∀ event, Decidable (state.Offers config event)
  | .page event => state.page.decidableOffers config event
  | .resolve => isTrue trivial
  | .anchorTicks =>
      inferInstanceAs (Decidable (state.anchorPoll.isSome = true))
  | .anchorLands poll _ =>
      inferInstanceAs (Decidable (poll ∈ state.anchorReads))
  | .lagTicks =>
      inferInstanceAs (Decidable (state.resolveLagRetry.isSome = true))
  | .resolveLands read _ =>
      inferInstanceAs (Decidable (read ∈ state.resolveReads))

end ResolvePage

def resolveMachine (config : PageConfig) :
    Machine ResolvePage ResolveEvent where
  init := ResolvePage.fresh
  step := ResolvePage.step config
  admits := ResolvePage.Offers config

instance (config : PageConfig) (state : ResolvePage) (event : ResolveEvent) :
    Decidable ((resolveMachine config).admits state event) :=
  state.decidableOffers config event

end Steps

end Btcr2Aggregation
