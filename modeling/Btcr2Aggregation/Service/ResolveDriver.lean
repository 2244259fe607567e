import Btcr2Aggregation.Library.JsValue
import Btcr2Aggregation.Library.SansIo
import Btcr2Aggregation.Library.TextPattern
import Btcr2Aggregation.Service.Resolve

/-!
# Driving a resolution, and what the resolve routes answer

The resolver of the method library performs no I/O: `driveResolution` advances
it, serves what it asks for, and gives up after 64 rounds.  The routes answer
with the resolved document, with a 503 where a beacon signal is still
unconfirmed, and with a 502 for everything else that went wrong.
-/

namespace Btcr2Aggregation

open InsertionMap

section Driver

/-! ## The driver -/

/-- What a controller hands over with the request. -/
structure Sidecar where
  genesisDocument : JsValue

/-- The resolver of the method library.  What it throws is a plain `Error`. -/
structure ResolverLike (Document Response : Type) where
  State : Type
  /-- `DidBtcr2.resolve(did, { sidecar })`. -/
  start : String → Option Sidecar → Except String State
  resolve : State → Except String (State × Demand DataNeed Response)
  provide : State → DataNeed → Provided Document → Except String State

variable {Document Response : Type}

def ResolverLike.process (resolver : ResolverLike Document Response) :
    SansIo resolver.State DataNeed (Provided Document) ResolveError Response where
  advance state := (resolver.resolve state).mapError .failed
  provide state need data :=
    (resolver.provide state need data).mapError .failed

/-- `/invalid date/i`. -/
def isUpstreamInvalidDateThrow (message : String) : Bool :=
  (TextPattern.word "invalid date").occursIn message.toLower

/-- The `catch` of the driver. -/
def normalizeThrow : ResolveError → ResolveError
  | .unconfirmedSignal => .unconfirmedSignal
  | .failed message =>
      if isUpstreamInvalidDateThrow message then
        .unconfirmedSignal
      else
        .failed message

def defaultMaxIterations : Nat := 64

def iterationsExceeded (maxIterations : Nat) (did : String) : ResolveError :=
  .failed
    ("resolveBtcr2: exceeded " ++ toString maxIterations ++
      " iterations without resolving " ++ did)

def driveResolution
    (resolver : ResolverLike Document Response) (library : SmtLibrary)
    (options : ResolveOptions Document) (did : String) (maxIterations : Nat)
    (state : resolver.State) : Except ResolveError Response :=
  (resolver.process.drive (satisfyNeed library options did)
    (iterationsExceeded maxIterations did) maxIterations state).mapError
      normalizeThrow

/-- The resolver is built before the driver's `try`, so what its constructor
throws is not normalized. -/
def resolveBtcr2
    (resolver : ResolverLike Document Response) (library : SmtLibrary)
    (options : ResolveOptions Document) (did : String)
    (sidecar : Option Sidecar) : Except ResolveError Response := do
  let state ← (resolver.start did sidecar).mapError .failed
  driveResolution resolver library options did defaultMaxIterations state

end Driver

section Routes

/-! ## The routes -/

variable {Document Response : Type}

inductive ResolveBody (Response : Type) where
  | resolved (response : Response)
  | retryable (error : String)
  | refused (error : String)
  deriving DecidableEq, Repr

structure ResolveReply (Response : Type) where
  status : Nat
  body : ResolveBody Response
  deriving DecidableEq, Repr

def didScheme : String := "did:btcr2:"

def isLowerAlphanumeric (character : Char) : Bool :=
  ('a' ≤ character && character ≤ 'z') || ('0' ≤ character && character ≤ '9')

/-- `/^did:btcr2:[a-z0-9]+$/`. -/
def matchesDid (did : String) : Bool :=
  let suffix := did.toList.drop didScheme.toList.length
  didScheme.toList.isPrefixOf did.toList && !suffix.isEmpty &&
    suffix.all isLowerAlphanumeric

def notAnIdentifier : ResolveReply Response :=
  ⟨400, .refused "not a valid did:btcr2 identifier"⟩

def awaitingConfirmation : ResolveReply Response :=
  ⟨503, .retryable
    "A beacon signal is awaiting confirmation. Resolve again after it confirms."⟩

def resolutionFailed : ResolveReply Response :=
  ⟨502, .refused "resolution failed"⟩

/-- What the `try` of `resolveResult` makes of a resolution. -/
def replyOf : Except ResolveError Response → ResolveReply Response
  | .ok response => ⟨200, .resolved response⟩
  | .error .unconfirmedSignal => awaitingConfirmation
  | .error (.failed _) => resolutionFailed

def resolveResult
    (resolver : ResolverLike Document Response) (library : SmtLibrary)
    (options : ResolveOptions Document) (did : String)
    (sidecar : Option Sidecar) : ResolveReply Response :=
  if matchesDid did then
    replyOf (resolveBtcr2 resolver library options did sidecar)
  else
    notAnIdentifier

/-- `GET /resolve/:did`. -/
def getResolve
    (resolver : ResolverLike Document Response) (library : SmtLibrary)
    (options : ResolveOptions Document) (did : String) :
    ResolveReply Response :=
  resolveResult resolver library options did none

/-- A request body as the route gets hold of it. -/
inductive ResolvePost where
  | tooLarge
  | unreadable
  | parsed (value : JsValue)

/-- `genesisDocument && typeof genesisDocument === 'object'`. -/
def asSidecar : JsValue → Option Sidecar
  | .object fields => some ⟨.object fields⟩
  | .array items => some ⟨.array items⟩
  | _ => none

/-- The sidecar of a parsed body; `null` cannot be taken apart. -/
def sidecarOf : JsValue → Option (Option Sidecar)
  | .null => none
  | .object fields =>
      some ((JsValue.field? fields "genesisDocument").bind asSidecar)
  | _ => some none

def bodyExpected : ResolveReply Response :=
  ⟨400, .refused "expected a JSON body \x7b genesisDocument \x7d"⟩

def resolveTooLarge : ResolveReply Response :=
  ⟨413, .refused "request too large"⟩

/-- `POST /resolve/:did`. -/
def postResolve
    (resolver : ResolverLike Document Response) (library : SmtLibrary)
    (options : ResolveOptions Document) (did : String) :
    ResolvePost → ResolveReply Response
  | .tooLarge => resolveTooLarge
  | .unreadable => bodyExpected
  | .parsed value =>
      match sidecarOf value with
      | none => bodyExpected
      | some sidecar => resolveResult resolver library options did sidecar

/-- A request of either route. -/
inductive ResolveRequest where
  | get
  | post (body : ResolvePost)

def ResolveRequest.reply
    (resolver : ResolverLike Document Response) (library : SmtLibrary)
    (options : ResolveOptions Document) (did : String) :
    ResolveRequest → ResolveReply Response
  | .get => getResolve resolver library options did
  | .post body => postResolve resolver library options did body

/-- The sidecar a request comes with, or what its body is refused with. -/
def ResolveRequest.sidecar :
    ResolveRequest → Except (ResolveReply Response) (Option Sidecar)
  | .get => .ok none
  | .post .tooLarge => .error resolveTooLarge
  | .post .unreadable => .error bodyExpected
  | .post (.parsed value) =>
      match sidecarOf value with
      | none => .error bodyExpected
      | some sidecar => .ok sidecar

end Routes

section Answers

/-! ## What a request is answered -/

variable
  {Document Response : Type}
  {resolver : ResolverLike Document Response} {library : SmtLibrary}
  {options : ResolveOptions Document} {did : String}
  {sidecar : Option Sidecar}

theorem mapError_eq_ok_iff
    {Failure Other Value : Type} {change : Failure → Other}
    {attempt : Except Failure Value} {value : Value} :
    attempt.mapError change = .ok value ↔ attempt = .ok value := by
  cases attempt with
  | error failure => simp [Except.mapError]
  | ok same => simp [Except.mapError]

theorem mapError_eq_error_iff
    {Failure Other Value : Type} {change : Failure → Other}
    {attempt : Except Failure Value} {other : Other} :
    attempt.mapError change = .error other ↔
      ∃ failure, attempt = .error failure ∧ change failure = other := by
  cases attempt with
  | error failure => simp [Except.mapError]
  | ok same => simp [Except.mapError]

/-- The driver and the upstream library both speak of an unconfirmed signal. -/
theorem normalizeThrow_eq_unconfirmed_iff {failure : ResolveError} :
    normalizeThrow failure = .unconfirmedSignal ↔
      failure = .unconfirmedSignal ∨
        ∃ message,
          failure = .failed message ∧
            isUpstreamInvalidDateThrow message = true := by
  cases failure with
  | unconfirmedSignal => simp [normalizeThrow]
  | failed message =>
      by_cases upstream : isUpstreamInvalidDateThrow message = true
      · simp [normalizeThrow, upstream]
      · simp [normalizeThrow, upstream]

theorem replyOf_eq_resolved_iff
    {outcome : Except ResolveError Response} {response : Response} :
    replyOf outcome = ⟨200, .resolved response⟩ ↔ outcome = .ok response := by
  cases outcome with
  | ok same => simp [replyOf]
  | error failure =>
      cases failure with
      | unconfirmedSignal => simp [replyOf, awaitingConfirmation]
      | failed message => simp [replyOf, resolutionFailed]

theorem replyOf_eq_awaiting_iff {outcome : Except ResolveError Response} :
    replyOf outcome = awaitingConfirmation ↔
      outcome = .error .unconfirmedSignal := by
  cases outcome with
  | ok same => simp [replyOf, awaitingConfirmation]
  | error failure =>
      cases failure with
      | unconfirmedSignal => simp [replyOf]
      | failed message => simp [replyOf, awaitingConfirmation, resolutionFailed]

theorem resolveResult_eq_replyOf_iff
    {reply : ResolveReply Response} (other : reply ≠ notAnIdentifier) :
    resolveResult resolver library options did sidecar = reply ↔
      matchesDid did = true ∧
        replyOf (resolveBtcr2 resolver library options did sidecar) =
          reply := by
  by_cases shape : matchesDid did = true
  · simp [resolveResult, shape]
  · simp [resolveResult, shape, other.symm]

/-- A resolution has the result the resolver comes to within the rounds. -/
theorem resolveBtcr2_eq_ok_iff {response : Response} :
    resolveBtcr2 resolver library options did sidecar = .ok response ↔
      ∃ state, resolver.start did sidecar = .ok state ∧
        ∃ count ≤ defaultMaxIterations, ∃ final next,
          resolver.process.Rounds (satisfyNeed library options did) count
              state final ∧
            resolver.resolve final = .ok (next, .done response) := by
  rw [resolveBtcr2, bind_eq_ok_iff]
  simp only [mapError_eq_ok_iff, driveResolution, SansIo.drive_eq_ok_iff,
    ResolverLike.process]

/-- The needs that break a resolution off as unconfirmed are the beacon signals
of which the indexer knows one without a block. -/
theorem satisfyNeed_eq_unconfirmed_iff {need : DataNeed} :
    satisfyNeed library options did need = .error .unconfirmedSignal ↔
      ∃ services signals,
        need = .beaconSignals services ∧
          options.indexer services = .ok signals ∧
            hasUnconfirmedSignal signals = true := by
  have fromStore :
      ∀ kind hash missing,
        provideFromStore options kind hash missing ≠
          .error .unconfirmedSignal := by
    intro kind hash missing
    rw [provideFromStore]
    split <;> simp
  cases need with
  | beaconSignals services =>
      rw [satisfyNeed]
      cases found : options.indexer services with
      | error reason => simp [found]
      | ok signals =>
          by_cases unconfirmed : hasUnconfirmedSignal signals = true
          · simp [found, unconfirmed]
          · simp [found, unconfirmed]
  | casAnnouncement hash service => simp [satisfyNeed, fromStore]
  | signedUpdate hash service => simp [satisfyNeed, fromStore]
  | smtProof root service =>
      rw [satisfyNeed]
      cases selectSmtProof library options.store root did with
      | none => simp
      | some proof => simp
  | genesisDocument hash => simp [satisfyNeed, fromStore]

/-- A resolution breaks off as unconfirmed exactly where the signals of some
beacon come up and the indexer knows one of them without a block. -/
theorem breaks_unconfirmed_iff {limit : Nat} {state : resolver.State} :
    resolver.process.Breaks (satisfyNeed library options did)
        (iterationsExceeded limit did) limit state .unconfirmedSignal ↔
      ∃ services signals,
        resolver.process.Asked (satisfyNeed library options did) limit state
            (.beaconSignals services) ∧
          options.indexer services = .ok signals ∧
            hasUnconfirmedSignal signals = true := by
  generalize named : iterationsExceeded limit did = exceeded
  constructor
  · intro breaks
    cases breaks with
    | advancing within rounds fails =>
        obtain ⟨message, -, named⟩ := mapError_eq_error_iff.mp fails
        cases named
    | serving within rounds asks fails =>
        obtain ⟨earlier, need, later, between, rfl, served, cause⟩ :=
          SansIo.serveNeeds_eq_error_iff.mp fails
        rcases cause with unserved | ⟨data, -, refused⟩
        · obtain ⟨services, signals, rfl, found, unconfirmed⟩ :=
            satisfyNeed_eq_unconfirmed_iff.mp unserved
          exact
            ⟨services, signals,
              ⟨_, _, _, between, earlier, later, within, rounds, asks, served⟩,
              found, unconfirmed⟩
        · obtain ⟨message, -, named⟩ := mapError_eq_error_iff.mp refused
          cases named
    | exceeding rounds asks => cases named
  · rintro ⟨services, signals, asked, found, unconfirmed⟩
    obtain ⟨count, final, asking, between, earlier, later, within, rounds, asks,
      served⟩ := asked.comesUp
    refine .serving within rounds asks ?_
    refine SansIo.serveNeeds_eq_error_iff.mpr ?_
    refine ⟨earlier, _, later, between, rfl, served, Or.inl ?_⟩
    exact
      satisfyNeed_eq_unconfirmed_iff.mpr
        ⟨services, signals, rfl, found, unconfirmed⟩

/-- The constructor's throw is answered like any other failure. -/
theorem resolveBtcr2_eq_unconfirmed_iff :
    resolveBtcr2 resolver library options did sidecar =
        .error .unconfirmedSignal ↔
      ∃ state, resolver.start did sidecar = .ok state ∧
        ((∃ services signals,
            resolver.process.Asked (satisfyNeed library options did)
                defaultMaxIterations state (.beaconSignals services) ∧
              options.indexer services = .ok signals ∧
                hasUnconfirmedSignal signals = true) ∨
          ∃ message,
            resolver.process.Breaks (satisfyNeed library options did)
                (iterationsExceeded defaultMaxIterations did)
                defaultMaxIterations state (.failed message) ∧
              isUpstreamInvalidDateThrow message = true) := by
  have thrown :
      (resolver.start did sidecar).mapError ResolveError.failed ≠
        .error .unconfirmedSignal := by
    intro early
    obtain ⟨message, -, named⟩ := mapError_eq_error_iff.mp early
    cases named
  rw [resolveBtcr2, bind_eq_error_iff, or_iff_right thrown]
  simp only [mapError_eq_ok_iff, driveResolution, mapError_eq_error_iff,
    normalizeThrow_eq_unconfirmed_iff, SansIo.drive_eq_error_iff]
  refine exists_congr fun state => and_congr_right fun _ => ?_
  rw [← breaks_unconfirmed_iff]
  constructor
  · rintro ⟨failure, breaks, rfl | ⟨message, rfl, upstream⟩⟩
    · exact Or.inl breaks
    · exact Or.inr ⟨message, breaks, upstream⟩
  · rintro (breaks | ⟨message, breaks, upstream⟩)
    · exact ⟨_, breaks, Or.inl rfl⟩
    · exact ⟨_, breaks, Or.inr ⟨message, rfl, upstream⟩⟩

/-- A reply is what the driver comes to: 400 for what is not an identifier; the
result the resolver comes to within 64 rounds; 503 exactly when the signals of a
beacon come up of which one is unconfirmed, or a throw speaks of an invalid
date; and 502 otherwise. -/
structure ResolveAnswers
    (resolver : ResolverLike Document Response) (library : SmtLibrary)
    (options : ResolveOptions Document) (did : String)
    (sidecar : Option Sidecar) (reply : ResolveReply Response) : Prop where
  malformed : matchesDid did = false → reply = notAnIdentifier
  resolved :
    ∀ response,
      reply = ⟨200, .resolved response⟩ ↔
        matchesDid did = true ∧
          ∃ state, resolver.start did sidecar = .ok state ∧
            ∃ count ≤ 64, ∃ final next,
              resolver.process.Rounds (satisfyNeed library options did) count
                  state final ∧
                resolver.resolve final = .ok (next, .done response)
  awaiting :
    reply = awaitingConfirmation ↔
      matchesDid did = true ∧
        ∃ state, resolver.start did sidecar = .ok state ∧
          ((∃ services signals,
              resolver.process.Asked (satisfyNeed library options did) 64 state
                  (.beaconSignals services) ∧
                options.indexer services = .ok signals ∧
                  hasUnconfirmedSignal signals = true) ∨
            ∃ message,
              resolver.process.Breaks (satisfyNeed library options did)
                  (iterationsExceeded 64 did) 64 state (.failed message) ∧
                isUpstreamInvalidDateThrow message = true)
  failed :
    reply = resolutionFailed ↔
      matchesDid did = true ∧
        (∀ response, reply ≠ ⟨200, .resolved response⟩) ∧
        reply ≠ awaitingConfirmation

theorem resolveResult_answers
    (resolver : ResolverLike Document Response) (library : SmtLibrary)
    (options : ResolveOptions Document) (did : String)
    (sidecar : Option Sidecar) :
    ResolveAnswers resolver library options did sidecar
      (resolveResult resolver library options did sidecar) := by
  refine ⟨?_, ?_, ?_, ?_⟩
  · intro malformed
    simp [resolveResult, malformed]
  · intro response
    rw [resolveResult_eq_replyOf_iff (by simp [notAnIdentifier]),
      replyOf_eq_resolved_iff, resolveBtcr2_eq_ok_iff]
    rfl
  · rw [resolveResult_eq_replyOf_iff
        (by simp [notAnIdentifier, awaitingConfirmation]),
      replyOf_eq_awaiting_iff, resolveBtcr2_eq_unconfirmed_iff]
    rfl
  · by_cases shape : matchesDid did = true
    · rw [resolveResult, if_pos shape]
      rcases outcome : resolveBtcr2 resolver library options did sidecar with
        failure | response
      · cases failure with
        | unconfirmedSignal =>
            simp [shape, replyOf, awaitingConfirmation, resolutionFailed]
        | failed message =>
            simp [shape, replyOf, awaitingConfirmation, resolutionFailed]
      · simp [shape, replyOf, resolutionFailed]
    · simp [resolveResult, shape, notAnIdentifier, resolutionFailed]

/-- What the two routes answer, for any resolver, chain and store: a body that
is too large, no JSON or `null` is refused as such, and every other request is
answered by the driver, with the sidecar it came with. -/
theorem resolveRoutes_answer
    (resolver : ResolverLike Document Response) (library : SmtLibrary)
    (options : ResolveOptions Document) (did : String)
    (request : ResolveRequest) :
    (∀ refusal, request.sidecar = .error refusal →
      request.reply resolver library options did = refusal) ∧
    ∀ sidecar,
      (request.sidecar : Except (ResolveReply Response) _) = .ok sidecar →
        ResolveAnswers resolver library options did sidecar
          (request.reply resolver library options did) := by
  cases request with
  | get =>
      refine ⟨nofun, ?_⟩
      rintro _ ⟨rfl⟩
      exact resolveResult_answers resolver library options did none
  | post body =>
      cases body with
      | tooLarge => exact ⟨fun _ refused => Except.error.inj refused, nofun⟩
      | unreadable => exact ⟨fun _ refused => Except.error.inj refused, nofun⟩
      | parsed value =>
          simp only [ResolveRequest.sidecar, ResolveRequest.reply, postResolve]
          cases sidecarOf value with
          | none => exact ⟨fun _ refused => Except.error.inj refused, nofun⟩
          | some sidecar =>
              refine ⟨nofun, ?_⟩
              rintro _ ⟨rfl⟩
              exact resolveResult_answers resolver library options did sidecar

end Answers

end Btcr2Aggregation
