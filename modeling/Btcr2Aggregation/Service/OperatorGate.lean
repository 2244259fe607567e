import Btcr2Aggregation.Service.LoginThrottle

/-!
# The gate of the operator routes

Everything under the operator prefix passes the same-origin check, and all but
the login passes the session guard behind it.  What the routes do with a request
that got through is theirs: they are a parameter here, and so is what happens to
the guarded state without any operator.
-/

namespace Btcr2Aggregation

open InsertionMap

section Gate

/-! ## The gate -/

/-- What the two guards read of a request. -/
structure RequestHeaders where
  method : String
  origin : Option String
  referer : Option String
  host : Option String
  operatorSession : Option String
  deriving DecidableEq, Repr

def mutatingMethods : List String := ["POST", "PUT", "PATCH", "DELETE"]

/-- `requireSameOrigin`; `hostOf` is `new URL(origin).host`, `none` a throw. -/
def requireSameOrigin
    (hostOf : String → Option String) (headers : RequestHeaders) : Bool :=
  if headers.method ∈ mutatingMethods then
    match headers.origin.or headers.referer with
    | none => true
    | some origin =>
        if origin = "" then
          true
        else
          match hostOf origin, headers.host with
          | some originHost, some host => host ≠ "" && originHost = host
          | _, _ => false
  else
    true

/-- `isValid` of the session store: an expired session is dropped on reading. -/
def isValidSession
    (sessions : InsertionMap String Nat) (now : Nat) (id : String) :
    Bool × InsertionMap String Nat :=
  match sessions.lookup id with
  | none => (false, sessions)
  | some expiresAt =>
      if expiresAt < now then (false, sessions.erase id) else (true, sessions)

/-- `requireOperator`. -/
def requireOperator
    (sessions : InsertionMap String Nat) (now : Nat) (cookie : Option String) :
    Bool × InsertionMap String Nat :=
  match cookie with
  | none => (false, sessions)
  | some id => if id = "" then (false, sessions) else isValidSession sessions now id

/-- The gated routes and what happens besides them. -/
structure GatedRoutes (Guarded Call Event Answer : Type) where
  serve : Guarded → Call → Guarded × Answer
  background : Guarded → Event → Guarded

inductive GateCall (Call : Type) where
  | signOut
  | probe
  | routed (call : Call)

inductive GateReply (Answer : Type) where
  | refused (status : Nat) (error : String)
  | signedOut
  | operator
  | answered (answer : Answer)

inductive GateAction (Call Event : Type) where
  | passes (milliseconds : Nat)
  | signIn (headers : RequestHeaders) (key : String)
  | bodyRead (request : Nat) (body : LoginBody) (sessionId : String)
  | request (headers : RequestHeaders) (call : GateCall Call)
  | happens (event : Event)

structure GateState (Guarded Answer : Type) where
  login : LoginState
  guarded : Guarded
  replies : List (GateReply Answer)

variable {Guarded Call Event Answer : Type}

namespace GateState

def reply (state : GateState Guarded Answer) (given : GateReply Answer) :
    GateState Guarded Answer :=
  { state with replies := state.replies ++ [given] }

def withLogin (state : GateState Guarded Answer) (login : LoginState) :
    GateState Guarded Answer :=
  { state with login := login }

def withSessions
    (state : GateState Guarded Answer) (sessions : InsertionMap String Nat) :
    GateState Guarded Answer :=
  state.withLogin { state.login with sessions := sessions }

end GateState

def crossOrigin : GateReply Answer :=
  .refused 403 "cross-origin request rejected"

def authenticationRequired : GateReply Answer :=
  .refused 401 "operator authentication required"

/-- What a request does that got through both guards. -/
def serveCall
    (routes : GatedRoutes Guarded Call Event Answer)
    (state : GateState Guarded Answer) (cookie : Option String) :
    GateCall Call → GateState Guarded Answer
  | .signOut =>
      (state.withSessions
        (match cookie with
        | none => state.login.sessions
        | some id => state.login.sessions.erase id)).reply .signedOut
  | .probe => state.reply .operator
  | .routed call =>
      let served := routes.serve state.guarded call
      { state with guarded := served.1 }.reply (.answered served.2)

variable
  (config : OperatorAuthConfig) (hostOf : String → Option String)
  (routes : GatedRoutes Guarded Call Event Answer)

def gateStep (state : GateState Guarded Answer) :
    GateAction Call Event → GateState Guarded Answer
  | .passes milliseconds =>
      state.withLogin (loginStep config state.login (.passes milliseconds))
  | .signIn headers key =>
      if requireSameOrigin hostOf headers then
        state.withLogin (loginStep config state.login (.arrives key))
      else
        state.reply crossOrigin
  | .bodyRead request body sessionId =>
      state.withLogin
        (loginStep config state.login (.bodyRead request body sessionId))
  | .request headers call =>
      if requireSameOrigin hostOf headers then
        let checked :=
          requireOperator state.login.sessions state.login.clock
            headers.operatorSession
        let reached := state.withSessions checked.2
        if checked.1 then
          serveCall routes reached headers.operatorSession call
        else
          reached.reply authenticationRequired
      else
        state.reply crossOrigin
  | .happens event =>
      { state with guarded := routes.background state.guarded event }

/-- Requests, logins and events come in any order. -/
def gateMachine (guarded : Guarded) :
    Machine (GateState Guarded Answer) (GateAction Call Event) where
  init := {
    login := (loginMachine config).init
    guarded := guarded
    replies := [] }
  step := gateStep config hostOf routes
  admits _ _ := True

/-- A request gets through both guards. -/
def getsThrough (state : GateState Guarded Answer) (headers : RequestHeaders) :
    Bool :=
  requireSameOrigin hostOf headers &&
    (requireOperator state.login.sessions state.login.clock
      headers.operatorSession).1

end Gate

section Sessions

/-! ## Sessions that are held -/

/-- A session that would still be valid at some time. -/
def HeldUntil (sessions : InsertionMap String Nat) (id : String) (time : Nat) :
    Prop :=
  ∃ expiresAt, sessions.lookup id = some expiresAt ∧ time ≤ expiresAt

theorem HeldUntil.mono
    {sessions : InsertionMap String Nat} {id : String} {time earlier : Nat}
    (held : HeldUntil sessions id time) (before : earlier ≤ time) :
    HeldUntil sessions id earlier := by
  obtain ⟨expiresAt, found, within⟩ := held
  exact ⟨expiresAt, found, Nat.le_trans before within⟩

/-- The session guard asks for a session held until now. -/
theorem requireOperator_iff
    {sessions : InsertionMap String Nat} {now : Nat} {cookie : Option String} :
    (requireOperator sessions now cookie).1 = true ↔
      ∃ id, cookie = some id ∧ id ≠ "" ∧ HeldUntil sessions id now := by
  cases cookie with
  | none => simp [requireOperator]
  | some id =>
      by_cases empty : id = ""
      · simp [requireOperator, empty]
      · rw [requireOperator]
        simp only [if_neg empty, isValidSession]
        cases found : sessions.lookup id with
        | none => simp [HeldUntil, found]
        | some expiresAt =>
            by_cases expired : expiresAt < now
            · simp [HeldUntil, found, expired]
            · simp [HeldUntil, found, expired, empty, Nat.not_lt.mp expired]

/-- All the guard drops is expired. -/
theorem heldUntil_requireOperator
    {sessions : InsertionMap String Nat} {now time : Nat}
    {cookie : Option String} {id : String} (later : now ≤ time) :
    HeldUntil (requireOperator sessions now cookie).2 id time ↔
      HeldUntil sessions id time := by
  cases cookie with
  | none => exact Iff.rfl
  | some asked =>
      rw [requireOperator]
      by_cases empty : asked = ""
      · rw [if_pos empty]
      · rw [if_neg empty, isValidSession]
        cases found : sessions.lookup asked with
        | none => exact Iff.rfl
        | some expiresAt =>
            by_cases expired : expiresAt < now
            · simp only [if_pos expired]
              by_cases same : id = asked
              · subst same
                constructor
                · rintro ⟨again, gone, -⟩
                  rw [AList.lookup_erase] at gone
                  cases gone
                · rintro ⟨again, held, within⟩
                  rw [found] at held
                  cases held
                  omega
              · rw [HeldUntil, HeldUntil, AList.lookup_erase_ne same]
            · simp only [if_neg expired]

/-- No session is held for longer than a session lasts. -/
def SessionsWithin (sessionTtlMs : Nat) (login : LoginState) : Prop :=
  ∀ id expiresAt,
    login.sessions.lookup id = some expiresAt →
      expiresAt ≤ login.clock + sessionTtlMs

/-- It is enough to look at the sessions that are still valid. -/
theorem SessionsWithin.of_held
    {sessionTtlMs : Nat} {login later : LoginState}
    (within : SessionsWithin sessionTtlMs login)
    (clock : login.clock ≤ later.clock)
    (fewer :
      ∀ id time,
        later.clock ≤ time →
          HeldUntil later.sessions id time →
            HeldUntil login.sessions id time) :
    SessionsWithin sessionTtlMs later := by
  intro id expiresAt found
  by_cases expired : expiresAt ≤ later.clock
  · omega
  · obtain ⟨held, before, lasts⟩ :=
      fewer id expiresAt (by omega) ⟨expiresAt, found, Nat.le_refl _⟩
    have bound := within id held before
    omega

end Sessions

section Logins

/-! ## Logins issue sessions -/

/-- The body of a waiting request is read and its password is the right one, so
the answer sets the session's cookie. -/
def LoginIssues
    (config : OperatorAuthConfig) (login : LoginState) (action : LoginAction)
    (id : String) : Prop :=
  ∃ request password key,
    action = .bodyRead request (.value password) id ∧
      login.waiting.lookup request = some key ∧
        passwordMatches config.sha256 (password.getD "")
            config.expectedPassword =
          true

/-- A step of the login leaves the sessions alone, or issues one. -/
theorem sessions_loginStep
    (config : OperatorAuthConfig) (login : LoginState) (action : LoginAction) :
    ((∀ id, ¬ LoginIssues config login action id) ∧
      (loginStep config login action).sessions = login.sessions) ∨
    ∃ id,
      LoginIssues config login action id ∧
        (∀ other, LoginIssues config login action other → other = id) ∧
          (loginStep config login action).sessions =
            login.sessions.set id (login.clock + config.sessionTtlMs) := by
  cases action with
  | passes milliseconds =>
      refine Or.inl ⟨?_, rfl⟩
      rintro id ⟨_, _, _, same, -⟩
      cases same
  | arrives key =>
      refine Or.inl ⟨?_, ?_⟩
      · rintro id ⟨_, _, _, same, -⟩
        cases same
      · rw [loginStep]
        dsimp only
        split
        · rfl
        · rfl
  | bodyRead request body sessionId =>
      cases found : login.waiting.lookup request with
      | none =>
          refine Or.inl ⟨?_, ?_⟩
          · rintro id ⟨_, _, _, same, held, -⟩
            cases same
            rw [found] at held
            cases held
          · simp [loginStep, found]
      | some key =>
          cases body with
          | malformed =>
              refine Or.inl ⟨?_, ?_⟩
              · rintro id ⟨_, _, _, same, -⟩
                cases same
              · simp [loginStep, found, LoginState.answer]
          | null =>
              refine Or.inl ⟨?_, ?_⟩
              · rintro id ⟨_, _, _, same, -⟩
                cases same
              · simp [loginStep, found, LoginState.answer]
          | value password =>
              by_cases matched :
                  passwordMatches config.sha256 (password.getD "")
                    config.expectedPassword =
                  true
              · refine Or.inr ⟨sessionId, ?_, ?_, ?_⟩
                · exact ⟨request, password, key, rfl, found, matched⟩
                · rintro other ⟨_, _, _, same, -⟩
                  cases same
                  rfl
                · simp [loginStep, found, LoginState.compare, matched,
                    LoginState.answer]
              · refine Or.inl ⟨?_, ?_⟩
                · rintro id ⟨_, _, _, same, -, again⟩
                  cases same
                  exact matched again
                · simp [loginStep, found, LoginState.compare, matched,
                    LoginState.answer, LoginState.compared]

theorem clock_loginStep
    (config : OperatorAuthConfig) (login : LoginState) (action : LoginAction) :
    login.clock ≤ (loginStep config login action).clock := by
  cases action with
  | passes milliseconds => exact Nat.le_add_right _ _
  | arrives key =>
      rw [loginStep]
      dsimp only
      split
      · exact Nat.le_refl _
      · exact Nat.le_refl _
  | bodyRead request body sessionId =>
      rw [loginStep]
      split
      · exact Nat.le_refl _
      · next key found =>
          cases body with
          | malformed => exact Nat.le_refl _
          | null => exact Nat.le_refl _
          | value password =>
              dsimp only
              rw [LoginState.compare]
              split
              · exact Nat.le_refl _
              · exact Nat.le_refl _

variable {config : OperatorAuthConfig} {login : LoginState}

theorem sessionsWithin_loginStep
    (within : SessionsWithin config.sessionTtlMs login) (action : LoginAction) :
    SessionsWithin config.sessionTtlMs (loginStep config login action) := by
  have forward := clock_loginStep config login action
  rcases sessions_loginStep config login action with
    ⟨-, same⟩ | ⟨issued, -, -, written⟩
  · refine within.of_held forward ?_
    intro id time _ held
    rw [same] at held
    exact held
  · intro id expiresAt found
    rw [written] at found
    by_cases same : id = issued
    · subst same
      rw [lookup_set_self] at found
      cases found
      omega
    · rw [lookup_set_of_ne same] at found
      have bound := within id expiresAt found
      omega

/-- After a step of the login a session is held that was, or is issued now. -/
theorem heldUntil_loginStep
    (within : SessionsWithin config.sessionTtlMs login) (action : LoginAction)
    {id : String} {time : Nat} :
    HeldUntil (loginStep config login action).sessions id time ↔
      (LoginIssues config login action id ∧
          time ≤ login.clock + config.sessionTtlMs) ∨
        HeldUntil login.sessions id time := by
  rcases sessions_loginStep config login action with
    ⟨none, same⟩ | ⟨issued, issues, unique, written⟩
  · rw [same]
    constructor
    · exact Or.inr
    · rintro (⟨issues, -⟩ | held)
      · exact absurd issues (none id)
      · exact held
  · rw [written]
    by_cases same : id = issued
    · subst same
      constructor
      · rintro ⟨expiresAt, found, lasts⟩
        rw [lookup_set_self] at found
        cases found
        exact Or.inl ⟨issues, lasts⟩
      · rintro (⟨-, lasts⟩ | ⟨expiresAt, found, lasts⟩)
        · exact ⟨_, lookup_set_self _ _ _, lasts⟩
        · have bound := within id expiresAt found
          exact ⟨_, lookup_set_self _ _ _, Nat.le_trans lasts bound⟩
    · constructor
      · rintro ⟨expiresAt, found, lasts⟩
        rw [lookup_set_of_ne same] at found
        exact Or.inr ⟨expiresAt, found, lasts⟩
      · rintro (⟨again, -⟩ | ⟨expiresAt, found, lasts⟩)
        · exact absurd (unique id again) same
        · exact ⟨expiresAt, by rw [lookup_set_of_ne same]; exact found, lasts⟩

end Logins

section Steps

/-! ## What a step of the gate does to the sessions -/

variable
  {Guarded Call Event Answer : Type}
  {config : OperatorAuthConfig} {hostOf : String → Option String}
  {routes : GatedRoutes Guarded Call Event Answer}
  {state : GateState Guarded Answer}

/-- A login of which the password is right, and the session it is answered
with. -/
def Issues
    (config : OperatorAuthConfig) (state : GateState Guarded Answer) :
    GateAction Call Event → String → Prop
  | .bodyRead request body sessionId, id =>
      LoginIssues config state.login (.bodyRead request body sessionId) id
  | _, _ => False

/-- A sign-out with the session's cookie. -/
def SignsOut (hostOf : String → Option String) :
    GateAction Call Event → String → Prop
  | .request headers .signOut, id =>
      requireSameOrigin hostOf headers = true ∧
        headers.operatorSession = some id
  | _, _ => False

/-- A request that does not get through leaves the sessions it drops expired. -/
theorem gateStep_of_refused
    (config : OperatorAuthConfig)
    (routes : GatedRoutes Guarded Call Event Answer) (call : GateCall Call)
    {headers : RequestHeaders}
    (refused : getsThrough hostOf state headers = false) :
    ∃ sessions given,
      gateStep config hostOf routes state (.request headers call) =
          (state.withSessions sessions).reply given ∧
        (∃ status error, given = .refused status error) ∧
          ∀ id time,
            state.login.clock ≤ time →
              (HeldUntil sessions id time ↔
                HeldUntil state.login.sessions id time) := by
  rw [getsThrough, Bool.and_eq_false_iff] at refused
  by_cases sameOrigin : requireSameOrigin hostOf headers = true
  · have unheld :
        (requireOperator state.login.sessions state.login.clock
          headers.operatorSession).1 = false := by
      rcases refused with cross | unheld
      · rw [sameOrigin] at cross
        cases cross
      · exact unheld
    refine
      ⟨(requireOperator state.login.sessions state.login.clock
          headers.operatorSession).2,
        authenticationRequired, ?_, ⟨_, _, rfl⟩, ?_⟩
    · rw [gateStep, if_pos sameOrigin]
      simp only [unheld, Bool.false_eq_true, if_false]
    · intro id time later
      exact heldUntil_requireOperator later
  · refine ⟨state.login.sessions, crossOrigin, ?_, ⟨_, _, rfl⟩, ?_⟩
    · rw [gateStep, if_neg sameOrigin]
      rfl
    · intro id time _
      exact Iff.rfl

/-- A request that gets through is served, on sessions that lost only expired
ones. -/
theorem gateStep_of_getsThrough
    (config : OperatorAuthConfig)
    (routes : GatedRoutes Guarded Call Event Answer) (call : GateCall Call)
    {headers : RequestHeaders}
    (through : getsThrough hostOf state headers = true) :
    ∃ sessions,
      gateStep config hostOf routes state (.request headers call) =
          serveCall routes (state.withSessions sessions)
            headers.operatorSession call ∧
        ∀ id time,
          state.login.clock ≤ time →
            (HeldUntil sessions id time ↔
              HeldUntil state.login.sessions id time) := by
  obtain ⟨sameOrigin, held⟩ := (Bool.and_eq_true _ _).mp through
  refine
    ⟨(requireOperator state.login.sessions state.login.clock
        headers.operatorSession).2,
      ?_, fun id time later => heldUntil_requireOperator later⟩
  rw [gateStep, if_pos sameOrigin]
  simp only [held, if_true]

/-- What a served call does to the sessions: a sign-out ends its own. -/
theorem heldUntil_serveCall
    {cookie : Option String} {call : GateCall Call} {id : String} {time : Nat} :
    HeldUntil (serveCall routes state cookie call).login.sessions id time ↔
      HeldUntil state.login.sessions id time ∧
        ¬ (call = .signOut ∧ cookie = some id) := by
  cases call with
  | signOut =>
      cases cookie with
      | none => simp [serveCall, GateState.withSessions, GateState.withLogin,
          GateState.reply]
      | some asked =>
          by_cases same : id = asked
          · subst same
            simp [serveCall, GateState.withSessions, GateState.withLogin,
              GateState.reply, HeldUntil]
          · simp [serveCall, GateState.withSessions, GateState.withLogin,
              GateState.reply, HeldUntil, same, Ne.symm same]
  | probe => simp [serveCall, GateState.reply]
  | routed call => simp [serveCall, GateState.reply]

/-- After a step of the gate a session is held that is issued now, or that was
held and is not signed out now. -/
theorem heldUntil_gateStep
    (within : SessionsWithin config.sessionTtlMs state.login)
    (action : GateAction Call Event) {id : String} {time : Nat}
    (named : id ≠ "") (later : state.login.clock ≤ time) :
    HeldUntil (gateStep config hostOf routes state action).login.sessions id
        time ↔
      (Issues config state action id ∧
          time ≤ state.login.clock + config.sessionTtlMs) ∨
        (HeldUntil state.login.sessions id time ∧
          ¬ SignsOut hostOf action id) := by
  cases action with
  | passes milliseconds =>
      refine (heldUntil_loginStep within (.passes milliseconds)).trans ?_
      constructor
      · rintro (⟨⟨_, _, _, same, -⟩, -⟩ | held)
        · cases same
        · exact Or.inr ⟨held, not_false⟩
      · rintro (⟨issues, -⟩ | ⟨held, -⟩)
        · exact issues.elim
        · exact Or.inr held
  | signIn headers key =>
      have kept :
          HeldUntil
              (gateStep config hostOf routes state
                (.signIn headers key)).login.sessions id time ↔
            HeldUntil state.login.sessions id time := by
        rw [gateStep]
        split
        · refine (heldUntil_loginStep within (.arrives key)).trans ?_
          refine or_iff_right ?_
          rintro ⟨⟨_, _, _, same, -⟩, -⟩
          cases same
        · exact Iff.rfl
      simp [kept, Issues, SignsOut]
  | bodyRead request body sessionId =>
      refine
        (heldUntil_loginStep within (.bodyRead request body sessionId)).trans ?_
      simp [Issues, SignsOut]
  | request headers call =>
      rw [or_iff_right fun both => both.1]
      by_cases through : getsThrough hostOf state headers = true
      · obtain ⟨sessions, steps, same⟩ :=
          gateStep_of_getsThrough config routes call through
        rw [steps, heldUntil_serveCall]
        refine and_congr (same id time later) (not_congr ?_)
        have sameOrigin := ((Bool.and_eq_true _ _).mp through).1
        cases call with
        | signOut => simp [SignsOut, sameOrigin]
        | probe => simp [SignsOut]
        | routed call => simp [SignsOut]
      · have refused := Bool.eq_false_iff.mpr through
        obtain ⟨sessions, given, steps, -, same⟩ :=
          gateStep_of_refused config routes call refused
        rw [steps]
        refine (same id time later).trans ?_
        rw [iff_self_and]
        intro held signsOut
        cases call with
        | signOut =>
            obtain ⟨sameOrigin, cookie⟩ := signsOut
            refine through ((Bool.and_eq_true _ _).mpr ⟨sameOrigin, ?_⟩)
            exact requireOperator_iff.mpr ⟨id, cookie, named, held.mono later⟩
        | probe => exact signsOut
        | routed call => exact signsOut
  | happens event =>
      rw [gateStep]
      simp [Issues, SignsOut]

theorem clock_serveCall
    {cookie : Option String} {call : GateCall Call} :
    (serveCall routes state cookie call).login.clock = state.login.clock := by
  cases call with
  | signOut => rfl
  | probe => rfl
  | routed call => rfl

theorem sessionsWithin_gateStep
    (within : SessionsWithin config.sessionTtlMs state.login)
    (action : GateAction Call Event) :
    SessionsWithin config.sessionTtlMs
      (gateStep config hostOf routes state action).login := by
  cases action with
  | passes milliseconds => exact sessionsWithin_loginStep within _
  | signIn headers key =>
      rw [gateStep]
      split
      · exact sessionsWithin_loginStep within _
      · exact within
  | bodyRead request body sessionId => exact sessionsWithin_loginStep within _
  | request headers call =>
      by_cases through : getsThrough hostOf state headers = true
      · obtain ⟨sessions, steps, same⟩ :=
          gateStep_of_getsThrough config routes call through
        have clock :
            (gateStep config hostOf routes state
              (.request headers call)).login.clock = state.login.clock := by
          rw [steps, clock_serveCall]
          rfl
        refine within.of_held (Nat.le_of_eq clock.symm) ?_
        intro id time later held
        rw [clock] at later
        rw [steps, heldUntil_serveCall] at held
        exact (same id time later).mp held.1
      · obtain ⟨sessions, given, steps, -, same⟩ :=
          gateStep_of_refused config routes call (Bool.eq_false_iff.mpr through)
        rw [steps]
        refine within.of_held (Nat.le_refl _) ?_
        intro id time later held
        exact (same id time later).mp held
  | happens event => exact within

theorem clock_gateStep (action : GateAction Call Event) :
    state.login.clock ≤
      (gateStep config hostOf routes state action).login.clock := by
  cases action with
  | passes milliseconds => exact clock_loginStep config _ _
  | signIn headers key =>
      rw [gateStep]
      split
      · exact clock_loginStep config _ _
      · exact Nat.le_refl _
  | bodyRead request body sessionId => exact clock_loginStep config _ _
  | request headers call =>
      by_cases through : getsThrough hostOf state headers = true
      · obtain ⟨sessions, steps, -⟩ :=
          gateStep_of_getsThrough config routes call through
        rw [steps, clock_serveCall]
        exact Nat.le_refl _
      · obtain ⟨sessions, given, steps, -⟩ :=
          gateStep_of_refused config routes call (Bool.eq_false_iff.mpr through)
        rw [steps]
        exact Nat.le_refl _
  | happens event => exact Nat.le_refl _

end Steps

section Law

/-! ## Who gets through -/

variable
  {Guarded Call Event Answer : Type}
  (config : OperatorAuthConfig) (hostOf : String → Option String)
  (routes : GatedRoutes Guarded Call Event Answer) (guarded : Guarded)

/-- A session was issued by a login of the run, was not signed out since, and
lasts until `time`. -/
def LiveUntil
    (actions : List (GateAction Call Event)) (id : String) (time : Nat) : Prop :=
  ∃ before login after,
    actions = before ++ login :: after ∧
      Issues config ((gateMachine config hostOf routes guarded).run before)
          login id ∧
        time ≤
            ((gateMachine config hostOf routes guarded).run before).login.clock +
              config.sessionTtlMs ∧
          ∀ later ∈ after, ¬ SignsOut hostOf later id

theorem liveUntil_concat
    (actions : List (GateAction Call Event)) (action : GateAction Call Event)
    (id : String) (time : Nat) :
    LiveUntil config hostOf routes guarded (actions ++ [action]) id time ↔
      (Issues config ((gateMachine config hostOf routes guarded).run actions)
            action id ∧
          time ≤
            ((gateMachine config hostOf routes guarded).run
              actions).login.clock + config.sessionTtlMs) ∨
        (LiveUntil config hostOf routes guarded actions id time ∧
          ¬ SignsOut hostOf action id) := by
  constructor
  · rintro ⟨before, login, after, split, issues, lasts, stays⟩
    rcases Machine.concat_eq_append_cons_iff.mp split with
      ⟨rfl, rfl, rfl⟩ | ⟨earlier, rfl, rfl⟩
    · exact Or.inl ⟨issues, lasts⟩
    · refine Or.inr ⟨⟨before, login, earlier, rfl, issues, lasts, ?_⟩, ?_⟩
      · intro later member
        exact stays later (List.mem_append_left _ member)
      · exact stays action (List.mem_append_right _ List.mem_cons_self)
  · rintro (⟨issues, lasts⟩ | ⟨⟨before, login, after, rfl, issues, lasts,
      stays⟩, last⟩)
    · exact ⟨actions, action, [], rfl, issues, lasts, nofun⟩
    · refine
        ⟨before, login, after ++ [action], by simp, issues, lasts, ?_⟩
      intro later member
      rcases List.mem_append.mp member with earlier | here
      · exact stays later earlier
      · rw [List.mem_singleton.mp here]
        exact last

/-- The sessions held after a run are the live ones. -/
theorem heldUntil_iff_liveUntil (actions : List (GateAction Call Event)) :
    SessionsWithin config.sessionTtlMs
        ((gateMachine config hostOf routes guarded).run actions).login ∧
      ∀ id time,
        id ≠ "" →
          ((gateMachine config hostOf routes guarded).run
              actions).login.clock ≤ time →
            (HeldUntil
                ((gateMachine config hostOf routes guarded).run
                  actions).login.sessions id time ↔
              LiveUntil config hostOf routes guarded actions id time) := by
  induction actions using List.reverseRecOn with
  | nil =>
      constructor
      · intro id expiresAt found
        cases found
      · intro id time _ _
        constructor
        · rintro ⟨expiresAt, found, -⟩
          cases found
        · rintro ⟨before, login, after, split, -⟩
          simp at split
  | append_singleton actions action inductionHypothesis =>
      obtain ⟨within, held⟩ := inductionHypothesis
      rw [Machine.run_concat]
      refine ⟨sessionsWithin_gateStep within action, ?_⟩
      intro id time named later
      have before := Nat.le_trans (clock_gateStep action) later
      rw [liveUntil_concat, ← held id time named before]
      exact heldUntil_gateStep within action named before

/-- In every run of logins, requests, sign-outs and the clock: a request gets
through exactly when it is of the same origin and its cookie names a session
that a login with the right password was answered with, that is not older than a
session lasts, and that was not signed out since. -/
theorem getsThrough_iff_live
    (actions : List (GateAction Call Event)) (headers : RequestHeaders) :
    getsThrough hostOf ((gateMachine config hostOf routes guarded).run actions)
        headers = true ↔
      requireSameOrigin hostOf headers = true ∧
        ∃ id,
          headers.operatorSession = some id ∧ id ≠ "" ∧
            LiveUntil config hostOf routes guarded actions id
              ((gateMachine config hostOf routes guarded).run
                actions).login.clock := by
  obtain ⟨-, held⟩ :=
    heldUntil_iff_liveUntil config hostOf routes guarded actions
  rw [getsThrough, Bool.and_eq_true, requireOperator_iff]
  refine and_congr_right fun _ => exists_congr fun id => and_congr_right fun _ => ?_
  exact and_congr_right fun named => held id _ named (Nat.le_refl _)

end Law

section Refused

/-! ## Refused requests leave no trace -/

variable
  {Guarded Call Event Answer : Type}
  {config : OperatorAuthConfig} {hostOf : String → Option String}
  {routes : GatedRoutes Guarded Call Event Answer}

/-- The gate turns the request away. -/
def turnsAway
    (hostOf : String → Option String) (state : GateState Guarded Answer) :
    GateAction Call Event → Bool
  | .signIn headers _ => !requireSameOrigin hostOf headers
  | .request headers _ => !getsThrough hostOf state headers
  | _ => false

def GateReply.isServed : GateReply Answer → Bool
  | .refused _ _ => false
  | _ => true

/-- What a served call is answered. -/
def replyTo
    (routes : GatedRoutes Guarded Call Event Answer) (guarded : Guarded) :
    GateCall Call → GateReply Answer
  | .signOut => .signedOut
  | .probe => .operator
  | .routed call => .answered (routes.serve guarded call).2

theorem replies_serveCall
    (state : GateState Guarded Answer) (cookie : Option String)
    (call : GateCall Call) :
    (serveCall routes state cookie call).replies =
      state.replies ++ [replyTo routes state.guarded call] := by
  cases call with
  | signOut => rfl
  | probe => rfl
  | routed call => rfl

/-- What a request is answered. -/
def replyGiven
    (hostOf : String → Option String)
    (routes : GatedRoutes Guarded Call Event Answer)
    (state : GateState Guarded Answer) (headers : RequestHeaders)
    (call : GateCall Call) : GateReply Answer :=
  if requireSameOrigin hostOf headers then
    if
        (requireOperator state.login.sessions state.login.clock
          headers.operatorSession).1 then
      replyTo routes state.guarded call
    else
      authenticationRequired
  else
    crossOrigin

theorem replies_request
    (state : GateState Guarded Answer) (headers : RequestHeaders)
    (call : GateCall Call) :
    (gateStep config hostOf routes state (.request headers call)).replies =
      state.replies ++ [replyGiven hostOf routes state headers call] := by
  rw [gateStep, replyGiven]
  by_cases sameOrigin : requireSameOrigin hostOf headers = true
  · rw [if_pos sameOrigin, if_pos sameOrigin]
    dsimp only
    split_ifs
    · exact replies_serveCall _ _ _
    · rfl
  · rw [if_neg sameOrigin, if_neg sameOrigin]
    rfl

theorem replyGiven_of_getsThrough
    {state : GateState Guarded Answer} {headers : RequestHeaders}
    (call : GateCall Call) (through : getsThrough hostOf state headers = true) :
    replyGiven hostOf routes state headers call =
      replyTo routes state.guarded call := by
  obtain ⟨sameOrigin, held⟩ := (Bool.and_eq_true _ _).mp through
  rw [replyGiven, if_pos sameOrigin, if_pos held]

theorem replyGiven_of_refused
    {state : GateState Guarded Answer} {headers : RequestHeaders}
    (call : GateCall Call) (refused : getsThrough hostOf state headers = false) :
    replyGiven hostOf routes state headers call = crossOrigin ∨
      replyGiven hostOf routes state headers call = authenticationRequired := by
  rw [replyGiven]
  by_cases sameOrigin : requireSameOrigin hostOf headers = true
  · have unheld :
        ¬ (requireOperator state.login.sessions state.login.clock
          headers.operatorSession).1 = true := by
      intro held
      rw [getsThrough, sameOrigin, held] at refused
      cases refused
    rw [if_pos sameOrigin, if_neg unheld]
    exact Or.inr rfl
  · rw [if_neg sameOrigin]
    exact Or.inl rfl

theorem guarded_request
    (state : GateState Guarded Answer) (headers : RequestHeaders) (call : Call) :
    (gateStep config hostOf routes state
        (.request headers (.routed call))).guarded =
      if getsThrough hostOf state headers then
        (routes.serve state.guarded call).1
      else
        state.guarded := by
  cases through : getsThrough hostOf state headers with
  | true =>
      obtain ⟨sessions, steps, -⟩ :=
        gateStep_of_getsThrough config routes (.routed call) through
      rw [steps]
      rfl
  | false =>
      obtain ⟨sessions, given, steps, -⟩ :=
        gateStep_of_refused config routes (.routed call) through
      rw [steps]
      rfl

theorem filter_replies_concat
    (replies : List (GateReply Answer)) (guarded : Guarded)
    (call : GateCall Call) :
    (replies ++ [replyTo routes guarded call]).filter GateReply.isServed =
      replies.filter GateReply.isServed ++ [replyTo routes guarded call] := by
  have served : (replyTo routes guarded call).isServed = true := by
    cases call with
    | signOut => rfl
    | probe => rfl
    | routed call => rfl
  rw [List.filter_append, List.filter_cons_of_pos served, List.filter_nil]

theorem filter_replies_refused
    (replies : List (GateReply Answer)) (status : Nat) (error : String) :
    (replies ++ [GateReply.refused status error]).filter GateReply.isServed =
      replies.filter GateReply.isServed := by
  have unserved :
      ¬ (GateReply.refused status error : GateReply Answer).isServed = true :=
    Bool.false_ne_true
  rw [List.filter_append, List.filter_cons_of_neg unserved, List.filter_nil,
    List.append_nil]

/-- Two states that differ in expired sessions and refusals alone. -/
structure GateAlike (state other : GateState Guarded Answer) : Prop where
  login : ∃ sessions, other.login = { state.login with sessions := sessions }
  held :
    ∀ id time,
      id ≠ "" → state.login.clock ≤ time →
        (HeldUntil state.login.sessions id time ↔
          HeldUntil other.login.sessions id time)
  guarded : other.guarded = state.guarded
  replies : other.replies = state.replies.filter GateReply.isServed

namespace GateAlike

variable {state other : GateState Guarded Answer}

theorem clock (alike : GateAlike state other) :
    other.login.clock = state.login.clock := by
  obtain ⟨sessions, same⟩ := alike.login
  rw [same]

/-- The gate decides alike. -/
theorem getsThrough (alike : GateAlike state other) (headers : RequestHeaders) :
    getsThrough hostOf other headers = getsThrough hostOf state headers := by
  have decides :
      (requireOperator other.login.sessions other.login.clock
          headers.operatorSession).1 =
        (requireOperator state.login.sessions state.login.clock
          headers.operatorSession).1 := by
    rw [Bool.eq_iff_iff, requireOperator_iff, requireOperator_iff, alike.clock]
    refine exists_congr fun id => and_congr_right fun _ => ?_
    exact and_congr_right fun named =>
      (alike.held id _ named (Nat.le_refl _)).symm
  rw [Btcr2Aggregation.getsThrough, Btcr2Aggregation.getsThrough, decides]

/-- A refused request is not noticed. -/
theorem of_refused
    (alike : GateAlike state other) {headers : RequestHeaders}
    {call : GateCall Call}
    (refused : Btcr2Aggregation.getsThrough hostOf state headers = false) :
    GateAlike (gateStep config hostOf routes state (.request headers call))
      other := by
  obtain ⟨sessions, given, steps, ⟨status, error, rfl⟩, same⟩ :=
    gateStep_of_refused config routes call refused
  rw [steps]
  refine ⟨alike.login, ?_, alike.guarded, ?_⟩
  · intro id time named later
    exact (same id time later).trans (alike.held id time named later)
  · rw [alike.replies]
    exact (filter_replies_refused _ _ _).symm

/-- A step of the login goes the same way. -/
theorem withLogin
    (alike : GateAlike state other)
    (within : SessionsWithin config.sessionTtlMs state.login)
    (otherWithin : SessionsWithin config.sessionTtlMs other.login)
    (action : LoginAction) :
    GateAlike (state.withLogin (loginStep config state.login action))
      (other.withLogin (loginStep config other.login action)) := by
  obtain ⟨sessions, same⟩ := alike.login
  have clock := alike.clock
  have issues :
      ∀ id,
        LoginIssues config state.login action id ↔
          LoginIssues config other.login action id := by
    intro id
    rw [same]
    exact Iff.rfl
  refine ⟨?_, ?_, alike.guarded, alike.replies⟩
  · refine ⟨(loginStep config other.login action).sessions, ?_⟩
    rw [GateState.withLogin, GateState.withLogin, same]
    cases action with
    | passes milliseconds => rfl
    | arrives key =>
        simp only [loginStep]
        split
        · rfl
        · rfl
    | bodyRead request body sessionId =>
        simp only [loginStep]
        cases state.login.waiting.lookup request with
        | none => rfl
        | some key =>
            cases body with
            | malformed => rfl
            | null => rfl
            | value password =>
                simp only [LoginState.compare]
                split
                · rfl
                · rfl
  · intro id time named later
    have before : state.login.clock ≤ time :=
      Nat.le_trans (clock_loginStep config state.login action) later
    refine (heldUntil_loginStep within action).trans ?_
    refine Iff.trans ?_ (heldUntil_loginStep otherWithin action).symm
    rw [clock, issues id, alike.held id time named before]

/-- A request that gets through is served alike. -/
theorem of_getsThrough
    (alike : GateAlike state other) {headers : RequestHeaders}
    {call : GateCall Call}
    (through : Btcr2Aggregation.getsThrough hostOf state headers = true) :
    GateAlike (gateStep config hostOf routes state (.request headers call))
      (gateStep config hostOf routes other (.request headers call)) := by
  have also : Btcr2Aggregation.getsThrough hostOf other headers = true := by
    rw [alike.getsThrough]
    exact through
  obtain ⟨sessions, steps, same⟩ :=
    gateStep_of_getsThrough config routes call through
  obtain ⟨otherSessions, otherSteps, otherSame⟩ :=
    gateStep_of_getsThrough config routes call also
  obtain ⟨before, split⟩ := alike.login
  have held :
      ∀ id time,
        id ≠ "" → state.login.clock ≤ time →
          (HeldUntil sessions id time ↔ HeldUntil otherSessions id time) := by
    intro id time named later
    have otherLater : other.login.clock ≤ time := by
      rw [alike.clock]
      exact later
    rw [same id time later, otherSame id time otherLater]
    exact alike.held id time named later
  rw [steps, otherSteps]
  refine ⟨?_, ?_, ?_, ?_⟩
  · refine
      ⟨(serveCall routes (other.withSessions otherSessions)
          headers.operatorSession call).login.sessions, ?_⟩
    cases call with
    | signOut =>
        simp [serveCall, GateState.reply, GateState.withSessions,
          GateState.withLogin, split]
    | probe =>
        simp [serveCall, GateState.reply, GateState.withSessions,
          GateState.withLogin, split]
    | routed call =>
        simp [serveCall, GateState.reply, GateState.withSessions,
          GateState.withLogin, split]
  · intro id time named later
    rw [clock_serveCall] at later
    rw [heldUntil_serveCall, heldUntil_serveCall]
    exact and_congr_left fun _ => held id time named later
  · cases call with
    | signOut => exact alike.guarded
    | probe => exact alike.guarded
    | routed call =>
        simp [serveCall, GateState.reply, GateState.withSessions,
          GateState.withLogin, alike.guarded]
  · rw [replies_serveCall, replies_serveCall, filter_replies_concat]
    change
      other.replies ++ [replyTo routes other.guarded call] =
        state.replies.filter GateReply.isServed ++
          [replyTo routes state.guarded call]
    rw [alike.replies, alike.guarded]

/-- One action: not noticed if it is turned away, else it does the same. -/
theorem step
    (hostOf : String → Option String)
    (routes : GatedRoutes Guarded Call Event Answer)
    (alike : GateAlike state other)
    (within : SessionsWithin config.sessionTtlMs state.login)
    (otherWithin : SessionsWithin config.sessionTtlMs other.login)
    (action : GateAction Call Event) :
    (turnsAway hostOf state action = true →
      GateAlike (gateStep config hostOf routes state action) other) ∧
    (turnsAway hostOf state action = false →
      GateAlike (gateStep config hostOf routes state action)
        (gateStep config hostOf routes other action)) := by
  cases action with
  | passes milliseconds =>
      exact ⟨nofun, fun _ => alike.withLogin within otherWithin _⟩
  | signIn headers key =>
      rw [turnsAway, gateStep, gateStep]
      by_cases sameOrigin : requireSameOrigin hostOf headers = true
      · simp only [sameOrigin, Bool.not_true, if_true]
        exact ⟨nofun, fun _ => alike.withLogin within otherWithin _⟩
      · rw [Bool.not_eq_true] at sameOrigin
        simp only [sameOrigin, Bool.not_false]
        refine ⟨fun _ => ⟨alike.login, alike.held, alike.guarded, ?_⟩, nofun⟩
        rw [alike.replies]
        exact (filter_replies_refused _ _ _).symm
  | bodyRead request body sessionId =>
      exact ⟨nofun, fun _ => alike.withLogin within otherWithin _⟩
  | request headers call =>
      rw [turnsAway]
      cases through : Btcr2Aggregation.getsThrough hostOf state headers with
      | false => exact ⟨fun _ => alike.of_refused through, nofun⟩
      | true => exact ⟨nofun, fun _ => alike.of_getsThrough through⟩
  | happens event =>
      refine ⟨nofun, fun _ => ⟨alike.login, alike.held, ?_, alike.replies⟩⟩
      rw [gateStep, gateStep, alike.guarded]

end GateAlike

/-- Two states that differ in expired sessions and in what was replied alone. -/
structure SameGate (state other : GateState Guarded Answer) : Prop where
  login : ∃ sessions, other.login = { state.login with sessions := sessions }
  held :
    ∀ id time,
      id ≠ "" → state.login.clock ≤ time →
        (HeldUntil state.login.sessions id time ↔
          HeldUntil other.login.sessions id time)
  guarded : other.guarded = state.guarded

/-- The replies given so far do not matter. -/
theorem gateStep_replies
    (config : OperatorAuthConfig) (hostOf : String → Option String)
    (routes : GatedRoutes Guarded Call Event Answer)
    (state : GateState Guarded Answer) (replies : List (GateReply Answer))
    (action : GateAction Call Event) :
    (gateStep config hostOf routes { state with replies } action).login =
        (gateStep config hostOf routes state action).login ∧
      (gateStep config hostOf routes { state with replies } action).guarded =
        (gateStep config hostOf routes state action).guarded := by
  cases action with
  | passes milliseconds => exact ⟨rfl, rfl⟩
  | bodyRead request body sessionId => exact ⟨rfl, rfl⟩
  | happens event => exact ⟨rfl, rfl⟩
  | signIn headers key =>
      rw [gateStep, gateStep]
      split_ifs <;> exact ⟨rfl, rfl⟩
  | request headers call =>
      rw [gateStep, gateStep]
      dsimp only
      split_ifs
      · cases call <;> exact ⟨rfl, rfl⟩
      · exact ⟨rfl, rfl⟩
      · exact ⟨rfl, rfl⟩

namespace SameGate

variable {state other third : GateState Guarded Answer}

theorem refl (state : GateState Guarded Answer) : SameGate state state :=
  ⟨⟨state.login.sessions, rfl⟩, fun _ _ _ _ => Iff.rfl, rfl⟩

theorem symm (same : SameGate state other) : SameGate other state := by
  obtain ⟨⟨sessions, split⟩, held, guarded⟩ := same
  refine ⟨⟨state.login.sessions, by rw [split]⟩, ?_, guarded.symm⟩
  intro id time named later
  rw [split] at later
  exact (held id time named later).symm

theorem trans (first : SameGate state other) (second : SameGate other third) :
    SameGate state third := by
  obtain ⟨⟨sessions, split⟩, held, guarded⟩ := first
  obtain ⟨⟨laterSessions, laterSplit⟩, laterHeld, laterGuarded⟩ := second
  refine ⟨⟨laterSessions, by rw [laterSplit, split]⟩, ?_, laterGuarded.trans guarded⟩
  intro id time named later
  refine (held id time named later).trans (laterHeld id time named ?_)
  rw [split]
  exact later

theorem of_gateAlike {replies : List (GateReply Answer)}
    (alike : GateAlike state { other with replies }) : SameGate state other :=
  ⟨alike.login, alike.held, alike.guarded⟩

theorem gateAlike (same : SameGate state other) :
    GateAlike state
      { other with replies := state.replies.filter GateReply.isServed } :=
  ⟨same.login, same.held, same.guarded, rfl⟩

theorem getsThrough
    (hostOf : String → Option String) (same : SameGate state other)
    (headers : RequestHeaders) :
    getsThrough hostOf other headers = getsThrough hostOf state headers :=
  same.gateAlike.getsThrough headers

/-- A request is answered the same. -/
theorem replyGiven
    (routes : GatedRoutes Guarded Call Event Answer)
    (same : SameGate state other) (headers : RequestHeaders) (call : GateCall Call) :
    replyGiven hostOf routes other headers call =
      replyGiven hostOf routes state headers call := by
  have decides := same.getsThrough hostOf headers
  rw [Btcr2Aggregation.getsThrough, Btcr2Aggregation.getsThrough] at decides
  rw [Btcr2Aggregation.replyGiven, Btcr2Aggregation.replyGiven]
  by_cases sameOrigin : requireSameOrigin hostOf headers = true
  · rw [sameOrigin, Bool.true_and, Bool.true_and] at decides
    rw [if_pos sameOrigin, if_pos sameOrigin, decides, same.guarded]
  · rw [if_neg sameOrigin, if_neg sameOrigin]

/-- A request that is turned away changes nothing. -/
theorem of_turnsAway
    (hostOf : String → Option String)
    (routes : GatedRoutes Guarded Call Event Answer)
    (within : SessionsWithin config.sessionTtlMs state.login)
    {action : GateAction Call Event}
    (refused : turnsAway hostOf state action = true) :
    SameGate (gateStep config hostOf routes state action) state :=
  of_gateAlike
    (((refl state).gateAlike.step hostOf routes within within action).1 refused)

/-- The same action keeps two states the same. -/
theorem step
    (hostOf : String → Option String)
    (routes : GatedRoutes Guarded Call Event Answer)
    (same : SameGate state other)
    (within : SessionsWithin config.sessionTtlMs state.login)
    (otherWithin : SessionsWithin config.sessionTtlMs other.login)
    (action : GateAction Call Event) :
    SameGate (gateStep config hostOf routes state action)
      (gateStep config hostOf routes other action) := by
  have turns : turnsAway hostOf other action = turnsAway hostOf state action := by
    cases action with
    | request headers call => rw [turnsAway, turnsAway, same.getsThrough hostOf]
    | signIn headers key => rfl
    | passes milliseconds => rfl
    | bodyRead request body sessionId => rfl
    | happens event => rfl
  cases refused : turnsAway hostOf state action with
  | true =>
      refine (of_turnsAway hostOf routes within refused).trans (same.trans ?_)
      exact
        (of_turnsAway hostOf routes otherWithin (turns.trans refused)).symm
  | false =>
      have stepped :=
        (same.gateAlike.step hostOf routes within otherWithin action).2 refused
      obtain ⟨login, guarded⟩ :=
        gateStep_replies config hostOf routes other
          (state.replies.filter GateReply.isServed) action
      refine ⟨?_, ?_, ?_⟩
      · rw [← login]
        exact stepped.login
      · rw [← login]
        exact stepped.held
      · rw [← guarded]
        exact stepped.guarded

end SameGate

/-- However many requests are turned away, and wherever in a run they fall: a
run without them leads to the same guarded state, gives the same replies to the
others and the same logins, and lets the same requests through. -/
theorem refused_leave_no_trace
    (config : OperatorAuthConfig) (hostOf : String → Option String)
    (routes : GatedRoutes Guarded Call Event Answer) (guarded : Guarded)
    (actions : List (GateAction Call Event)) :
    let machine := gateMachine config hostOf routes guarded
    let state := machine.run actions
    let other :=
      machine.run (machine.keptFrom (turnsAway hostOf) machine.init actions)
    other.guarded = state.guarded ∧
      other.replies = state.replies.filter GateReply.isServed ∧
        (∃ sessions, other.login = { state.login with sessions := sessions }) ∧
          ∀ headers,
            getsThrough hostOf other headers =
              getsThrough hostOf state headers := by
  intro machine state other
  have within : SessionsWithin config.sessionTtlMs machine.init.login := by
    intro id expiresAt found
    cases found
  let related (before after : GateState Guarded Answer) : Prop :=
    GateAlike before after ∧
      SessionsWithin config.sessionTtlMs before.login ∧
        SessionsWithin config.sessionTtlMs after.login
  have alike : related state other := by
    refine
      machine.related_keptFrom (turnsAway hostOf) related ?_ ?_ actions _ _
        ⟨⟨⟨∅, rfl⟩, fun _ _ _ _ => Iff.rfl, rfl, rfl⟩, within, within⟩
        (Machine.admits_of_offered (fun _ _ => trivial) actions)
    · rintro before after action - ⟨alike, within, otherWithin⟩ refused
      exact
        ⟨(alike.step hostOf routes within otherWithin action).1 refused,
          sessionsWithin_gateStep within action, otherWithin⟩
    · rintro before after action - ⟨alike, within, otherWithin⟩ passed
      exact
        ⟨(alike.step hostOf routes within otherWithin action).2 passed,
          sessionsWithin_gateStep within action,
          sessionsWithin_gateStep otherWithin action⟩
  exact
    ⟨alike.1.guarded, alike.1.replies, alike.1.login, fun headers =>
      alike.1.getsThrough headers⟩

end Refused

end Btcr2Aggregation
