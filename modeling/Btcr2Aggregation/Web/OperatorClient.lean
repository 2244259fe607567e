import Btcr2Aggregation.Service.OperatorRoutes
import Btcr2Aggregation.Web.Console

/-!
# The operator's client

The console learns of an action what its client makes of a status and a body, or
of no response at all.  What it is told of a success is always so.  What it is
told of a failure is so unless the response was lost on its way back, or the
library threw in the middle: there the console says that nothing changed of a
cohort that did.
-/

namespace Btcr2Aggregation

section Client

/-! ## The client -/

def createFailed : String :=
  "Could not create the cohort. Try again."

def saveFailed : String :=
  "Could not save the changes. Try again."

def ReplyBody.isJson : ReplyBody → Bool
  | .text => false
  | _ => true

/-- `body.error` where it is a text, and the empty text elsewhere. -/
def ReplyBody.errorText : ReplyBody → String
  | .error message => message
  | _ => ""

/-- `createDraft` and `updateDraft`: a failed fetch is thrown on. -/
def draftAnswer
    (saved : RouteReply → Bool) (fallback : String) :
    Option RouteReply → VerbAnswer
  | none => .thrown
  | some reply =>
      if reply.status = 401 then
        .unauthorized
      else if saved reply then
        if reply.body.isJson then .done else .thrown
      else
        .rejected (orElse reply.body.errorText fallback)

/-- The others never throw. -/
def caughtAnswer (answered : RouteReply → VerbAnswer) :
    Option RouteReply → VerbAnswer
  | none => .unreachable
  | some reply => if reply.status = 401 then .unauthorized else answered reply

/-- Those that hand a refusal's reason on. -/
def reasonedAnswer (answered : RouteReply → VerbAnswer) :
    Option RouteReply → VerbAnswer :=
  caughtAnswer fun reply =>
    if reply.status = 409 then .refused reply.body.errorText else answered reply

def doneOr (otherwise : VerbAnswer) (reply : RouteReply) : VerbAnswer :=
  if reply.ok then .done else otherwise

def advertiseAnswer (reply : RouteReply) : VerbAnswer :=
  if reply.ok then
    match reply.body with
    | .row dto => .advertised dto.draftId
    | _ => .declined
  else
    .declined

def advertisingToggle (reply : RouteReply) : VerbAnswer :=
  if reply.ok then
    match reply.body with
    | .paused value => .toggled value
    | _ => .unreachable
  else
    .unreachable

def disableBroadcastAnswer (reply : RouteReply) : VerbAnswer :=
  if reply.ok then
    match reply.body with
    | .broadcastDisabled _ => .done
    | _ => .unreachable
  else
    .unreachable

def addTestPeersAnswer (reply : RouteReply) : VerbAnswer :=
  if reply.ok then
    match reply.body with
    | .spawned _ => .done
    | _ => .unreachable
  else
    .unreachable

namespace ConsoleVerb

/-- What a verb's client answers, of a response or of none. -/
def client : ConsoleVerb → Option RouteReply → VerbAnswer
  | .submitDraft => draftAnswer (fun reply => reply.status = 201) createFailed
  | .saveDraftEdit _ => draftAnswer RouteReply.ok saveFailed
  | .advertise _ => reasonedAnswer advertiseAnswer
  | .readvertise _ => reasonedAnswer (doneOr .declined)
  | .discard _ => caughtAnswer (doneOr .unreachable)
  | .exportCohort _ => caughtAnswer (doneOr .unreachable)
  | .cancelCohort _ => caughtAnswer (doneOr .unreachable)
  | .finalizeCohort _ => reasonedAnswer (doneOr .unreachable)
  | .addTestPeers _ => reasonedAnswer addTestPeersAnswer
  | .pauseAdvertising => caughtAnswer advertisingToggle
  | .resumeAdvertising => caughtAnswer advertisingToggle
  | .disableBroadcast => caughtAnswer disableBroadcastAnswer
  | .dismissEnded _ => caughtAnswer (doneOr .unreachable)

end ConsoleVerb

/-- An answer that tells of a success. -/
def VerbAnswer.isDone : VerbAnswer → Bool
  | .done => true
  | .advertised _ => true
  | .toggled _ => true
  | _ => false

/-- A success is told of a response that says ok, and of no other. -/
theorem ok_of_isDone
    (verb : ConsoleVerb) {response : Option RouteReply}
    (done : (verb.client response).isDone = true) :
    ∃ reply, response = some reply ∧ reply.ok = true := by
  cases response with
  | none => cases verb <;> cases done
  | some reply =>
      refine ⟨reply, rfl, ?_⟩
      by_contra failed
      rw [Bool.not_eq_true] at failed
      have created : reply.status ≠ 201 := by
        intro same
        rw [RouteReply.ok, same] at failed
        cases failed
      revert done
      cases verb <;>
        simp only [ConsoleVerb.client, draftAnswer, caughtAnswer, reasonedAnswer,
          doneOr, advertiseAnswer, advertisingToggle, disableBroadcastAnswer,
          addTestPeersAnswer, failed, created, Bool.false_eq_true, if_false,
          decide_false] <;>
        split_ifs <;> nofun

/-- The client answers what the console expects of the verb. -/
theorem expects_client (verb : ConsoleVerb) (response : Option RouteReply) :
    verb.Expects (verb.client response) = true := by
  cases response with
  | none => cases verb <;> rfl
  | some reply =>
      cases verb with
      | submitDraft | saveDraftEdit id =>
          simp only [ConsoleVerb.client, draftAnswer]
          split_ifs <;> rfl
      | discard id | exportCohort id | cancelCohort id | dismissEnded id =>
          simp only [ConsoleVerb.client, caughtAnswer, doneOr]
          split_ifs <;> rfl
      | readvertise id | finalizeCohort id =>
          simp only [ConsoleVerb.client, reasonedAnswer, caughtAnswer, doneOr]
          split_ifs <;> rfl
      | advertise id =>
          simp only [ConsoleVerb.client, reasonedAnswer, caughtAnswer,
            advertiseAnswer]
          cases reply.body <;> split_ifs <;> rfl
      | addTestPeers id =>
          simp only [ConsoleVerb.client, reasonedAnswer, caughtAnswer,
            addTestPeersAnswer]
          cases reply.body <;> split_ifs <;> rfl
      | pauseAdvertising | resumeAdvertising =>
          simp only [ConsoleVerb.client, caughtAnswer, advertisingToggle]
          cases reply.body <;> split_ifs <;> rfl
      | disableBroadcast =>
          simp only [ConsoleVerb.client, caughtAnswer, disableBroadcastAnswer]
          cases reply.body <;> split_ifs <;> rfl

end Client

section Exchange

/-! ## One exchange -/

/-- What becomes of a request and its response on the way: either can be cut off
or answered by a proxy, before the service was asked or after. -/
inductive Delivery where
  | arrives
  | cutOff (served : Bool)
  | badGateway (served : Bool)
  deriving DecidableEq, Repr

def Delivery.reaches : Delivery → Bool
  | .arrives => true
  | .cutOff served => served
  | .badGateway served => served

/-- A proxy's own page. -/
def gatewayPage : RouteReply :=
  ⟨502, .text⟩

def Delivery.shown (reply : Option RouteReply) : Delivery → Option RouteReply
  | .arrives => reply
  | .cutOff _ => none
  | .badGateway _ => some gatewayPage

/-- The service was asked, and its response did not come back. -/
def Delivery.losesReply : Delivery → Bool
  | .arrives => false
  | .cutOff served => served
  | .badGateway served => served

theorem Delivery.reaches_iff {delivery : Delivery} :
    delivery.reaches = true ↔
      delivery = .arrives ∨ delivery.losesReply = true := by
  cases delivery with
  | arrives => exact iff_of_true rfl (Or.inl rfl)
  | cutOff served => simp [reaches, losesReply]
  | badGateway served => simp [reaches, losesReply]

structure Exchange where
  headers : RequestHeaders
  call : OperatorCall
  delivery : Delivery

/-- The verb behind a request. -/
def OperatorCall.verb : OperatorCall → ConsoleVerb
  | .createDraft _ _ => .submitDraft
  | .updateDraft draftId _ => .saveDraftEdit draftId
  | .discardDraft draftId => .discard draftId
  | .advertiseDraft draftId _ => .advertise draftId
  | .readvertiseExpired id _ => .readvertise id
  | .cancelCohort id _ => .cancelCohort id
  | .finalizeCohort id _ _ => .finalizeCohort id
  | .pauseAdvertising => .pauseAdvertising
  | .resumeAdvertising => .resumeAdvertising
  | .disableBroadcast => .disableBroadcast
  | .dismissEnded id => .dismissEnded id

/-- The routes behind the gate. -/
def operatorRoutes (options : OperatorOptions) :
    GatedRoutes OperatorDesk OperatorCall DismissalEvent RouteReply where
  serve := serve options
  background := OperatorDesk.happens options

abbrev DeskState : Type :=
  GateState OperatorDesk RouteReply

def GateReply.response : GateReply RouteReply → RouteReply
  | .refused status error => ⟨status, .error error⟩
  | .signedOut => ⟨200, .ok⟩
  | .operator => ⟨200, .ok⟩
  | .answered reply => reply

variable
  (config : OperatorAuthConfig) (hostOf : String → Option String)
  (options : OperatorOptions)

/-- The gate takes a request to the routes, and replies. -/
def answered (state : DeskState) (exchange : Exchange) : DeskState :=
  gateStep config hostOf (operatorRoutes options) state
    (.request exchange.headers (.routed exchange.call))

/-- What a request does to the service, and what the console is told of it. -/
def exchanged (state : DeskState) (exchange : Exchange) : DeskState × VerbAnswer :=
  let after := answered config hostOf options state exchange
  (if exchange.delivery.reaches then after else state,
    exchange.call.verb.client
      (exchange.delivery.shown (after.replies.getLast?.map GateReply.response)))

variable {config hostOf options}

theorem response_answered (state : DeskState) (exchange : Exchange) :
    (answered config hostOf options state exchange).replies.getLast?.map
        GateReply.response =
      some
        (replyGiven hostOf (operatorRoutes options) state exchange.headers
          (.routed exchange.call)).response := by
  rw [answered, replies_request, List.getLast?_concat]
  rfl

/-- The success a granted request is told. -/
def OperatorCall.success : OperatorCall → VerbAnswer
  | .advertiseDraft _ (some minted) => .advertised minted
  | .pauseAdvertising => .toggled true
  | .resumeAdvertising => .toggled false
  | _ => .done

theorem isDone_success (call : OperatorCall) : call.success.isDone = true := by
  cases call with
  | advertiseDraft draftId minted => cases minted <;> rfl
  | _ => rfl

theorem caughtAnswer_of_ok
    (answered : RouteReply → VerbAnswer) {reply : RouteReply}
    (ok : reply.ok = true) :
    caughtAnswer answered (some reply) = answered reply := by
  refine if_neg fun same => ?_
  rw [RouteReply.ok, same] at ok
  cases ok

theorem reasonedAnswer_of_ok
    (answered : RouteReply → VerbAnswer) {reply : RouteReply}
    (ok : reply.ok = true) :
    reasonedAnswer answered (some reply) = answered reply := by
  rw [reasonedAnswer, caughtAnswer_of_ok _ ok]
  refine if_neg fun same => ?_
  rw [RouteReply.ok, same] at ok
  cases ok

/-- A granted request is told as the success it is. -/
theorem client_serve_of_granted
    {desk : OperatorDesk} {call : OperatorCall} (granted : Granted options desk call) :
    call.verb.client (some (serve options desk call).2) = call.success := by
  have ok := (serves call).granted_iff.mpr granted
  have done (otherwise : VerbAnswer) :
      doneOr otherwise (serve options desk call).2 = .done :=
    if_pos ok
  cases call with
  | createDraft draftId body =>
      obtain ⟨input, entry, rfl, judged⟩ := granted
      simp only [serve, serveDraft, createDraft, judged]
      rfl
  | updateDraft draftId body =>
      obtain ⟨held, input, entry, rfl, judged⟩ := granted
      simp only [serve, serveDraft, updateDraft, if_pos held, judged]
      rfl
  | advertiseDraft draftId minted =>
      obtain ⟨running, held, minted⟩ := granted
      obtain ⟨entry, found⟩ := InsertionMap.exists_lookup_of_mem held
      obtain ⟨cohortId, rfl⟩ := Option.isSome_iff_exists.mp minted
      simp only [serve, advertiseDraft, if_neg (Bool.eq_false_iff.mp running), found]
      rfl
  | discardDraft draftId => exact (caughtAnswer_of_ok _ ok).trans (done _)
  | readvertiseExpired cohortId minted =>
      exact (reasonedAnswer_of_ok _ ok).trans (done _)
  | cancelCohort id health => exact (caughtAnswer_of_ok _ ok).trans (done _)
  | finalizeCohort id health triggered =>
      exact (reasonedAnswer_of_ok _ ok).trans (done _)
  | pauseAdvertising => rfl
  | resumeAdvertising => rfl
  | disableBroadcast => rfl
  | dismissEnded id => exact (caughtAnswer_of_ok _ ok).trans (done _)

/-- No success is told of a request the gate turned away. -/
theorem not_ok_of_refused
    {state : DeskState} {exchange : Exchange}
    (refused : getsThrough hostOf state exchange.headers = false) :
    (replyGiven hostOf (operatorRoutes options) state exchange.headers
        (.routed exchange.call)).response.ok = false := by
  have given :
      replyGiven hostOf (operatorRoutes options) state exchange.headers
            (.routed exchange.call) =
          crossOrigin ∨
        replyGiven hostOf (operatorRoutes options) state exchange.headers
            (.routed exchange.call) =
          authenticationRequired :=
    replyGiven_of_refused (.routed exchange.call) refused
  rcases given with given | given
  · rw [given]
    rfl
  · rw [given]
    rfl

theorem told_of_granted
    {state : DeskState} {exchange : Exchange} (arrives : exchange.delivery = .arrives)
    (through : getsThrough hostOf state exchange.headers = true)
    (granted : Granted options state.guarded exchange.call) :
    (exchanged config hostOf options state exchange).2 = exchange.call.success := by
  rw [exchanged, response_answered, replyGiven_of_getsThrough _ through, arrives]
  exact client_serve_of_granted granted

/-- What an exchange does to the service. -/
theorem guarded_exchanged (state : DeskState) (exchange : Exchange) :
    (exchanged config hostOf options state exchange).1.guarded =
      if
          exchange.delivery.reaches = true ∧
            getsThrough hostOf state exchange.headers = true then
        (serve options state.guarded exchange.call).1
      else
        state.guarded := by
  rw [exchanged]
  cases reached : exchange.delivery.reaches with
  | false => simp
  | true =>
      simp only [if_true, true_and]
      exact guarded_request state exchange.headers exchange.call

/-- The console is told of a success exactly where the response comes back of a
request that got through the gate and was granted; and the success it is told of
is what the service did. -/
theorem exchanged_done_iff
    (config : OperatorAuthConfig) (hostOf : String → Option String)
    (options : OperatorOptions) (state : DeskState) (exchange : Exchange) :
    ((exchanged config hostOf options state exchange).2.isDone = true ↔
      exchange.delivery = .arrives ∧
        getsThrough hostOf state exchange.headers = true ∧
          Granted options state.guarded exchange.call) ∧
    ((exchanged config hostOf options state exchange).2.isDone = true →
      (exchanged config hostOf options state exchange).2 =
          exchange.call.success ∧
        (exchanged config hostOf options state exchange).1.guarded =
          (serve options state.guarded exchange.call).1) := by
  have told_iff :
      (exchanged config hostOf options state exchange).2.isDone = true ↔
        exchange.delivery = .arrives ∧
          getsThrough hostOf state exchange.headers = true ∧
            Granted options state.guarded exchange.call := by
    constructor
    · intro done
      obtain ⟨reply, shown, ok⟩ := ok_of_isDone _ done
      rw [response_answered] at shown
      cases delivered : exchange.delivery with
      | cutOff served =>
          rw [delivered] at shown
          cases shown
      | badGateway served =>
          rw [delivered] at shown
          cases shown
          cases ok
      | arrives =>
          rw [delivered] at shown
          cases shown
          have through : getsThrough hostOf state exchange.headers = true := by
            by_contra refused
            rw [Bool.not_eq_true] at refused
            rw [not_ok_of_refused refused] at ok
            cases ok
          rw [replyGiven_of_getsThrough _ through] at ok
          exact ⟨rfl, through, (serves exchange.call).granted_iff.mp ok⟩
    · rintro ⟨arrives, through, granted⟩
      rw [told_of_granted arrives through granted]
      exact isDone_success exchange.call
  refine ⟨told_iff, fun done => ?_⟩
  obtain ⟨arrives, through, granted⟩ := told_iff.mp done
  refine ⟨told_of_granted arrives through granted, ?_⟩
  rw [guarded_exchanged,
    if_pos ⟨Delivery.reaches_iff.mpr (Or.inl arrives), through⟩]

end Exchange

section Sentence

/-! ## The sentence that nothing changed -/

/-- Where a verb's failure is written. -/
def failureCopy (verb : ConsoleVerb) (slice : GatedSlice Unit) : Option String :=
  match verb with
  | .submitDraft => slice.formError
  | .saveDraftEdit _ => slice.editError
  | .addTestPeers _ => slice.testPeerError
  | .pauseAdvertising => slice.pauseError
  | .resumeAdvertising => slice.pauseError
  | .disableBroadcast => slice.broadcastError
  | _ => slice.actionError

/-- What the console writes of an answer; a refused session ends it instead. -/
def written (verb : ConsoleVerb) (answer : VerbAnswer) : Option String :=
  if answer = .unauthorized then
    none
  else
    failureCopy verb (verb.gated.answered answer (verb.gated.begins {})).1

/-- It writes that nothing changed, with a reason or without. -/
def SaysUnchanged (verb : ConsoleVerb) (answer : VerbAnswer) : Prop :=
  ∃ reason, written verb answer = some (actionFailedWith reason)

/-- The verbs that say so of a fault, too. -/
def OperatorCall.assures : OperatorCall → Bool
  | .cancelCohort _ _ => true
  | .finalizeCohort _ _ _ => true
  | .pauseAdvertising => true
  | .resumeAdvertising => true
  | .disableBroadcast => true
  | .dismissEnded _ => true
  | _ => false

variable
  {config : OperatorAuthConfig} {hostOf : String → Option String}
  {options : OperatorOptions}

theorem saysUnchanged_of_unreachable
    {call : OperatorCall} (assures : call.assures = true) :
    SaysUnchanged call.verb .unreachable := by
  refine ⟨"", ?_⟩
  cases call <;> first
    | rfl
    | cases assures

theorem head?_actionFailedWith (reason : String) :
    (actionFailedWith reason).toList.head? = some 'T' := by
  unfold actionFailedWith
  split_ifs
  · rfl
  · simp only [String.toList_append]
    rfl

/-- Copy that starts otherwise is not the sentence. -/
theorem not_saysUnchanged_of_head
    {verb : ConsoleVerb} {answer : VerbAnswer} {copy : String}
    (writes : written verb answer = some copy)
    (other : copy.toList.head? ≠ some 'T') : ¬ SaysUnchanged verb answer := by
  rintro ⟨reason, same⟩
  rw [writes, Option.some.injEq] at same
  rw [same, head?_actionFailedWith] at other
  exact other rfl

/-- Nothing is written of a success. -/
theorem written_success
    {desk : OperatorDesk} {call : OperatorCall} (granted : Granted options desk call) :
    written call.verb call.success = none := by
  cases call with
  | advertiseDraft draftId minted =>
      obtain ⟨-, -, minted⟩ := granted
      obtain ⟨cohortId, rfl⟩ := Option.isSome_iff_exists.mp minted
      rfl
  | _ => rfl

/-- A verb that assures says so of a response that was lost. -/
theorem client_of_losesReply
    {call : OperatorCall} {delivery : Delivery} {reply : Option RouteReply}
    (assures : call.assures = true) (lost : delivery.losesReply = true) :
    call.verb.client (delivery.shown reply) = .unreachable := by
  cases delivery with
  | arrives => cases lost
  | cutOff served =>
      cases call <;> first
        | rfl
        | cases assures
  | badGateway served =>
      cases call <;> first
        | rfl
        | cases assures

/-- The others have copy of their own for it. -/
theorem not_saysUnchanged_of_losesReply
    {call : OperatorCall} {delivery : Delivery} {reply : Option RouteReply}
    (silent : call.assures = false) (lost : delivery.losesReply = true) :
    ¬ SaysUnchanged call.verb (call.verb.client (delivery.shown reply)) := by
  cases delivery with
  | arrives => cases lost
  | cutOff served =>
      cases call <;> first
        | exact not_saysUnchanged_of_head rfl (by decide)
        | cases silent
  | badGateway served =>
      cases call <;> first
        | exact not_saysUnchanged_of_head rfl (by decide)
        | cases silent

theorem assures_of_breaksMidway
    {desk : OperatorDesk} {call : OperatorCall}
    (broken : breaksMidway desk call = true) : call.assures = true := by
  cases call with
  | cancelCohort id health => rfl
  | _ => cases broken

/-- A cancel the library broke off is a fault to the client. -/
theorem client_serve_of_breaksMidway
    {desk : OperatorDesk} {call : OperatorCall}
    (broken : breaksMidway desk call = true) :
    call.verb.client (some (serve options desk call).2) = .unreachable := by
  cases call with
  | cancelCohort id health =>
      have verdict : (cancelCohort health desk.state id).1 = .threw :=
        of_decide_eq_true broken
      simp only [serve, verdict]
      rfl
  | _ => cases broken

/-- The sentence is untrue exactly of a request that got through and changed
something, and whose response was lost or whose cancel the library broke off. -/
theorem saysUnchanged_falsely_iff
    (config : OperatorAuthConfig) (hostOf : String → Option String)
    (options : OperatorOptions) (state : DeskState) (exchange : Exchange) :
    (SaysUnchanged exchange.call.verb
          (exchanged config hostOf options state exchange).2 ∧
        (exchanged config hostOf options state exchange).1.guarded ≠
          state.guarded) ↔
      exchange.call.assures = true ∧
        getsThrough hostOf state exchange.headers = true ∧
          (serve options state.guarded exchange.call).1 ≠ state.guarded ∧
            (exchange.delivery.losesReply = true ∨
              exchange.delivery = .arrives ∧
                breaksMidway state.guarded exchange.call = true) := by
  rw [guarded_exchanged]
  constructor
  · rintro ⟨said, changed⟩
    have asked :
        exchange.delivery.reaches = true ∧
          getsThrough hostOf state exchange.headers = true := by
      by_contra unasked
      rw [if_neg unasked] at changed
      exact changed rfl
    rw [if_pos asked] at changed
    obtain ⟨reached, through⟩ := asked
    have outcome :
        exchange.call.assures = true ∧
          (exchange.delivery.losesReply = true ∨
            exchange.delivery = .arrives ∧
              breaksMidway state.guarded exchange.call = true) := by
      cases lost : exchange.delivery.losesReply with
      | true =>
          refine ⟨?_, Or.inl rfl⟩
          by_contra silent
          rw [Bool.not_eq_true] at silent
          exact not_saysUnchanged_of_losesReply silent lost said
      | false =>
          have arrives : exchange.delivery = .arrives := by
            rcases Delivery.reaches_iff.mp reached with arrives | loses
            · exact arrives
            · rw [lost] at loses
              cases loses
          cases broken : breaksMidway state.guarded exchange.call with
          | true =>
              exact ⟨assures_of_breaksMidway broken, Or.inr ⟨arrives, rfl⟩⟩
          | false =>
              have granted : Granted options state.guarded exchange.call := by
                by_contra refused
                have served : Serves options state.guarded exchange.call :=
                  serves exchange.call
                rw [← served.granted_iff, Bool.not_eq_true] at refused
                exact changed (served.untouched refused broken)
              rw [told_of_granted arrives through granted] at said
              obtain ⟨reason, writes⟩ := said
              rw [written_success granted] at writes
              cases writes
    exact ⟨outcome.1, through, changed, outcome.2⟩
  · rintro ⟨assures, through, changed, lost | ⟨arrives, broken⟩⟩
    · rw [if_pos ⟨Delivery.reaches_iff.mpr (Or.inr lost), through⟩]
      refine ⟨?_, changed⟩
      rw [exchanged, client_of_losesReply assures lost]
      exact saysUnchanged_of_unreachable assures
    · rw [if_pos ⟨Delivery.reaches_iff.mpr (Or.inl arrives), through⟩]
      refine ⟨?_, changed⟩
      have told :
          (exchanged config hostOf options state exchange).2 = .unreachable := by
        rw [exchanged, response_answered, replyGiven_of_getsThrough _ through,
          arrives]
        exact client_serve_of_breaksMidway broken
      rw [told]
      exact saysUnchanged_of_unreachable assures

end Sentence

section Trace

/-! ## What failed leaves no trace -/

/-- An exchange of the console, or anything else that reaches the gate or happens
behind it. -/
inductive DeskAction where
  | elsewhere (action : GateAction OperatorCall DismissalEvent)
  | exchange (exchange : Exchange)

/-- The service with what the console was told, in order. -/
structure DeskRun where
  state : DeskState
  told : List VerbAnswer

variable
  (config : OperatorAuthConfig) (hostOf : String → Option String)
  (options : OperatorOptions)

def deskStep (run : DeskRun) : DeskAction → DeskRun
  | .elsewhere action =>
      { run with
        state := gateStep config hostOf (operatorRoutes options) run.state action }
  | .exchange exchange =>
      let (state, answer) := exchanged config hostOf options run.state exchange
      { state, told := run.told ++ [answer] }

/-- No response is lost on its way back, and the library breaks nothing off. -/
def deskMachine (desk : OperatorDesk) : Machine DeskRun DeskAction where
  init := {
    state := (gateMachine config hostOf (operatorRoutes options) desk).init
    told := [] }
  step := deskStep config hostOf options
  admits run
    | .elsewhere _ => True
    | .exchange exchange =>
        exchange.delivery.losesReply = false ∧
          breaksMidway run.state.guarded exchange.call = false

/-- The console is told that an exchange failed. -/
def toldFailed (run : DeskRun) : DeskAction → Bool
  | .elsewhere _ => false
  | .exchange exchange =>
      !(exchanged config hostOf options run.state exchange).2.isDone

variable {config hostOf options}

theorem sessionsWithin_exchanged
    {state : DeskState} (within : SessionsWithin config.sessionTtlMs state.login)
    (exchange : Exchange) :
    SessionsWithin config.sessionTtlMs
      (exchanged config hostOf options state exchange).1.login := by
  rw [exchanged]
  split_ifs
  · exact sessionsWithin_gateStep within _
  · exact within

/-- An exchange told as failed, with nothing lost or broken off, changed nothing. -/
theorem sameGate_of_failed
    {state : DeskState} {exchange : Exchange}
    (within : SessionsWithin config.sessionTtlMs state.login)
    (lost : exchange.delivery.losesReply = false)
    (whole : breaksMidway state.guarded exchange.call = false)
    (failed : (exchanged config hostOf options state exchange).2.isDone = false) :
    SameGate (exchanged config hostOf options state exchange).1 state := by
  cases reached : exchange.delivery.reaches with
  | false =>
      rw [exchanged, reached]
      exact SameGate.refl state
  | true =>
      have arrives : exchange.delivery = .arrives := by
        rcases Delivery.reaches_iff.mp reached with arrives | loses
        · exact arrives
        · rw [lost] at loses
          cases loses
      have asked :
          (exchanged config hostOf options state exchange).1 =
            answered config hostOf options state exchange := by
        rw [exchanged]
        exact if_pos reached
      cases through : getsThrough hostOf state exchange.headers with
      | false =>
          rw [asked, answered]
          refine SameGate.of_turnsAway hostOf _ within ?_
          rw [turnsAway, through]
          rfl
      | true =>
          have unchanged :
              (serve options state.guarded exchange.call).1 = state.guarded := by
            have served : Serves options state.guarded exchange.call :=
              serves exchange.call
            refine served.untouched ?_ whole
            rw [Bool.eq_false_iff, Ne, served.granted_iff]
            intro granted
            rw [told_of_granted arrives through granted, isDone_success] at failed
            cases failed
          obtain ⟨sessions, steps, same⟩ :=
            gateStep_of_getsThrough config (operatorRoutes options)
              (.routed exchange.call) through
          rw [asked, answered, steps]
          refine ⟨⟨state.login.sessions, rfl⟩, ?_, unchanged.symm⟩
          intro id time named later
          exact same id time later

/-- Alike services answer an exchange alike. -/
theorem sameGate_exchanged
    {state other : DeskState} (same : SameGate state other)
    (within : SessionsWithin config.sessionTtlMs state.login)
    (otherWithin : SessionsWithin config.sessionTtlMs other.login)
    (exchange : Exchange) :
    SameGate (exchanged config hostOf options state exchange).1
        (exchanged config hostOf options other exchange).1 ∧
      (exchanged config hostOf options other exchange).2 =
        (exchanged config hostOf options state exchange).2 := by
  constructor
  · rw [exchanged, exchanged]
    split_ifs
    · exact
        same.step hostOf (operatorRoutes options) within otherWithin
          (.request exchange.headers (.routed exchange.call))
    · exact same
  · rw [exchanged, exchanged, response_answered, response_answered,
      same.replyGiven]

/-- In every run in which no response is lost on its way back and the library
breaks nothing off: without the exchanges the console was told had failed the
service ends up the same, the console is told the same successes, and the same
requests get through. -/
theorem failed_exchanges_leave_no_trace
    (config : OperatorAuthConfig) (hostOf : String → Option String)
    (options : OperatorOptions) (desk : OperatorDesk) (actions : List DeskAction)
    (admissible : (deskMachine config hostOf options desk).Admits actions) :
    let machine := deskMachine config hostOf options desk
    let run := machine.run actions
    let other :=
      machine.run
        (machine.keptFrom (toldFailed config hostOf options) machine.init actions)
    other.state.guarded = run.state.guarded ∧
      other.told = run.told.filter VerbAnswer.isDone ∧
        ∀ headers,
          getsThrough hostOf other.state headers =
            getsThrough hostOf run.state headers := by
  intro machine run other
  let related (before after : DeskRun) : Prop :=
    SameGate before.state after.state ∧
      after.told = before.told.filter VerbAnswer.isDone ∧
        SessionsWithin config.sessionTtlMs before.state.login ∧
          SessionsWithin config.sessionTtlMs after.state.login
  have within : SessionsWithin config.sessionTtlMs machine.init.state.login := by
    intro id expiresAt found
    cases found
  have alike : related run other := by
    refine
      machine.related_keptFrom (toldFailed config hostOf options) related ?_ ?_
        actions _ _ ⟨SameGate.refl _, rfl, within, within⟩ admissible
    · rintro before after (action | exchange) offered
        ⟨same, told, within, otherWithin⟩ failed
      · cases failed
      · have undone := (Bool.not_eq_true' _).mp failed
        refine
          ⟨(sameGate_of_failed within offered.1 offered.2 undone).trans same, ?_,
            sessionsWithin_exchanged within exchange, otherWithin⟩
        change
          after.told =
            (before.told ++
              [(exchanged config hostOf options before.state exchange).2]).filter
                VerbAnswer.isDone
        rw [List.filter_append, List.filter_cons_of_neg (by rw [undone]; nofun),
          List.filter_nil, List.append_nil, told]
    · rintro before after (action | exchange) offered
        ⟨same, told, within, otherWithin⟩ passed
      · exact
          ⟨same.step hostOf (operatorRoutes options) within otherWithin action,
            told, sessionsWithin_gateStep within action,
            sessionsWithin_gateStep otherWithin action⟩
      · have done := (Bool.not_eq_false' _).mp passed
        obtain ⟨stepped, answer⟩ :=
          sameGate_exchanged same within otherWithin exchange
        refine
          ⟨stepped, ?_, sessionsWithin_exchanged within exchange,
            sessionsWithin_exchanged otherWithin exchange⟩
        change
          after.told ++ [(exchanged config hostOf options after.state exchange).2] =
            (before.told ++
              [(exchanged config hostOf options before.state exchange).2]).filter
                VerbAnswer.isDone
        rw [List.filter_append, List.filter_cons_of_pos done, List.filter_nil, told,
          answer]
  exact
    ⟨alike.1.guarded, alike.2.1, fun headers => alike.1.getsThrough hostOf headers⟩

/-- A service that just booted. -/
def bootedDesk : OperatorDesk where
  run := .booted .unseeded .live
  fallbacks := []

def signedIn : RequestHeaders where
  method := "POST"
  origin := none
  referer := none
  host := some "service"
  operatorSession := some "s1"

/-- The operator signs in and pauses, cancels a cohort there is not, and resumes
by a request that never gets there. -/
def pausesOnce : List DeskAction :=
  [ .elsewhere (.signIn signedIn "address"),
    .elsewhere (.bodyRead 0 (.value (some "operator")) "s1"),
    .exchange ⟨signedIn, .pauseAdvertising, .arrives⟩,
    .exchange ⟨signedIn, .cancelCohort 7 .sound, .arrives⟩,
    .exchange ⟨signedIn, .resumeAdvertising, .cutOff false⟩ ]

theorem failed_exchanges_leave_no_trace_pausesOnce :
    let machine := deskMachine serviceAuth some plainOptions bootedDesk
    (machine.run
        (machine.keptFrom (toldFailed serviceAuth some plainOptions) machine.init
          pausesOnce)).told =
      [.toggled true] := by
  have admissible :
      (deskMachine serviceAuth some plainOptions bootedDesk).Admits pausesOnce :=
    ⟨trivial, trivial, ⟨rfl, rfl⟩, ⟨rfl, by decide⟩, ⟨rfl, rfl⟩, trivial⟩
  have told :
      ((deskMachine serviceAuth some plainOptions bootedDesk).run pausesOnce).told =
        [.toggled true, .unreachable, .unreachable] := by
    decide +kernel
  have trace :=
    failed_exchanges_leave_no_trace serviceAuth some plainOptions bootedDesk
      pausesOnce admissible
  exact trace.2.1.trans (by rw [told]; rfl)

end Trace

end Btcr2Aggregation
