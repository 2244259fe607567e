import Btcr2Aggregation.Library.InsertionMap
import Btcr2Aggregation.Library.Machine

/-!
# The operator login and its throttle

A login request is checked against the throttle, waits for its body, and has its
password compared.  Many requests of one client can be between the check and the
compare.
-/

namespace Btcr2Aggregation

open InsertionMap

section Throttle

/-! ## The throttle -/

structure ThrottleOptions where
  maxAttempts : Nat
  windowMs : Nat
  deriving DecidableEq, Repr

/-- The failed attempts of one client in the current window. -/
structure AttemptRecord where
  count : Nat
  resetAt : Nat
  deriving DecidableEq, Repr

abbrev LoginAttempts := InsertionMap String AttemptRecord

namespace LoginThrottle

variable (options : ThrottleOptions) (attempts : LoginAttempts)

/-- Whether the client may attempt; a record past its window is dropped. -/
def check (now : Nat) (key : String) : Bool × LoginAttempts :=
  match attempts.lookup key with
  | none => (true, attempts)
  | some record =>
      if record.resetAt < now then
        (true, attempts.erase key)
      else
        (record.count < options.maxAttempts, attempts)

/-- What `fail` writes over a record. -/
def failed (now : Nat) : Option AttemptRecord → AttemptRecord
  | none => { count := 1, resetAt := now + options.windowMs }
  | some record =>
      if record.resetAt < now then
        { count := 1, resetAt := now + options.windowMs }
      else
        { record with count := record.count + 1 }

def fail (now : Nat) (key : String) : LoginAttempts :=
  attempts.set key (failed options now (attempts.lookup key))

def reset (key : String) : LoginAttempts :=
  attempts.erase key

end LoginThrottle

end Throttle

section Handler

/-! ## The login handler -/

/-- What the handler is built with; `sha256` is the digest both sides of the
compare go through. -/
structure OperatorAuthConfig where
  throttle : ThrottleOptions
  expectedPassword : String
  cookieSecure : Bool
  sessionTtlMs : Nat
  sha256 : String → String

def passwordMatches (sha256 : String → String) (supplied expected : String) :
    Bool :=
  sha256 supplied = sha256 expected

/-- A request body: no JSON, the JSON `null`, or any other value with its
`password` where that is a string. -/
inductive LoginBody where
  | malformed
  | null
  | value (password : Option String)
  deriving DecidableEq, Repr

structure SessionCookie where
  id : String
  httpOnly : Bool
  sameSite : String
  secure : Bool
  path : String
  maxAge : Nat
  deriving DecidableEq, Repr

structure LoginAnswer where
  status : Nat
  error : Option String
  cookie : Option SessionCookie
  deriving DecidableEq, Repr

def LoginAnswer.refused (status : Nat) (error : String) : LoginAnswer where
  status := status
  error := some error
  cookie := none

def LoginAnswer.throttled : LoginAnswer :=
  .refused 429 "too many attempts, try again later"

def LoginAnswer.accepted (config : OperatorAuthConfig) (sessionId : String) :
    LoginAnswer where
  status := 200
  error := none
  cookie := some {
    id := sessionId
    httpOnly := true
    sameSite := "Strict"
    secure := config.cookieSecure
    path := "/"
    maxAge := config.sessionTtlMs / 1000 }

/-- A password that was compared, of which client, when and how it came out. -/
structure PasswordCompare where
  key : String
  comparedAt : Nat
  matched : Bool
  deriving DecidableEq, Repr

/-- The throttle, the sessions, the requests that wait for their bodies, the
answers given, and every compare so far, oldest first. -/
structure LoginState where
  clock : Nat
  attempts : LoginAttempts
  sessions : InsertionMap String Nat
  waiting : InsertionMap Nat String
  answers : InsertionMap Nat LoginAnswer
  nextRequest : Nat
  compares : List PasswordCompare

/-- Time passes, a request arrives from a client, or the body of a waiting one
is there; `sessionId` is the id a new session would get. -/
inductive LoginAction where
  | passes (milliseconds : Nat)
  | arrives (key : String)
  | bodyRead (request : Nat) (body : LoginBody) (sessionId : String)
  deriving DecidableEq, Repr

namespace LoginState

/-- A request is answered and gone. -/
def answer (state : LoginState) (request : Nat) (given : LoginAnswer) :
    LoginState :=
  { state with
    waiting := state.waiting.erase request
    answers := state.answers.insert request given }

def compared (state : LoginState) (key : String) (matched : Bool) :
    LoginState :=
  { state with
    compares :=
      state.compares ++ [{ key, comparedAt := state.clock, matched }] }

/-- The compare of a password, with what follows from it. -/
def compare
    (config : OperatorAuthConfig) (state : LoginState) (key : String)
    (request : Nat) (password sessionId : String) : LoginState :=
  if passwordMatches config.sha256 password config.expectedPassword then
    { state.compared key true with
      sessions :=
        state.sessions.set sessionId (state.clock + config.sessionTtlMs)
      attempts := LoginThrottle.reset state.attempts key }.answer request
        (.accepted config sessionId)
  else
    { state.compared key false with
      attempts :=
        LoginThrottle.fail config.throttle state.attempts state.clock
          key }.answer request (.refused 401 "invalid credentials")

end LoginState

variable (config : OperatorAuthConfig)

def loginStep (state : LoginState) : LoginAction → LoginState
  | .passes milliseconds => { state with clock := state.clock + milliseconds }
  | .arrives key =>
      let checked :=
        LoginThrottle.check config.throttle state.attempts state.clock key
      let arrived := {
        state with
        attempts := checked.2
        nextRequest := state.nextRequest + 1 }
      if checked.1 then
        { arrived with waiting := state.waiting.insert state.nextRequest key }
      else
        arrived.answer state.nextRequest .throttled
  | .bodyRead request body sessionId =>
      match state.waiting.lookup request with
      | none => state
      | some key =>
          match body with
          | .malformed =>
              state.answer request
                (.refused 400 "expected a JSON body \x7b password \x7d")
          | .null => state.answer request (.refused 500 "Internal Server Error")
          | .value password =>
              state.compare config key request (password.getD "") sessionId

/-- Requests come and go in any order. -/
def loginMachine : Machine LoginState LoginAction where
  init := {
    clock := 0
    attempts := ∅
    sessions := ∅
    waiting := ∅
    answers := ∅
    nextRequest := 0
    compares := [] }
  step := loginStep config
  admits _ _ := True

end Handler

section Windows

/-! ## Throttle windows -/

/-- A window of one client, and the wrong passwords compared in it. -/
structure ThrottleWindow where
  closesAt : Nat
  wrong : Nat
  deriving DecidableEq, Repr

/-- A success ends the window.  A wrong password falls into the window that is
open, or opens one of `windowMs`. -/
def windowStep
    (windowMs : Nat) (window : Option ThrottleWindow) (now : Nat)
    (matched : Bool) : Option ThrottleWindow :=
  if matched then
    none
  else
    match window with
    | none => some { closesAt := now + windowMs, wrong := 1 }
    | some window =>
        if window.closesAt < now then
          some { closesAt := now + windowMs, wrong := 1 }
        else
          some { window with wrong := window.wrong + 1 }

/-- The window the last compare of a client fell into. -/
def windowOf
    (windowMs : Nat) (key : String) (compares : List PasswordCompare) :
    Option ThrottleWindow :=
  compares.foldl
    (fun window compare =>
      if compare.key = key then
        windowStep windowMs window compare.comparedAt compare.matched
      else
        window)
    none

/-- No window of any client has more wrong passwords than attempts. -/
def WindowsBounded (options : ThrottleOptions) (state : LoginState) : Prop :=
  ∀ key window,
    windowOf options.windowMs key state.compares = some window →
      window.wrong ≤ options.maxAttempts

/-- A wrong password is compared only while the throttle, asked again, would
still let the client attempt. -/
def ComparesInLimit (config : OperatorAuthConfig) (state : LoginState) :
    LoginAction → Prop
  | .bodyRead request (.value password) _ =>
      ∀ key,
        state.waiting.lookup request = some key →
          passwordMatches config.sha256 (password.getD "")
              config.expectedPassword =
            false →
            0 < config.throttle.maxAttempts ∧
              (LoginThrottle.check config.throttle state.attempts state.clock
                key).1 =
                true
  | _ => True

theorem windowOf_concat
    (windowMs : Nat) (key : String) (compares : List PasswordCompare)
    (compare : PasswordCompare) :
    windowOf windowMs key (compares ++ [compare]) =
      if compare.key = key then
        windowStep windowMs (windowOf windowMs key compares) compare.comparedAt
          compare.matched
      else
        windowOf windowMs key compares := by
  unfold windowOf
  rw [List.foldl_append]
  rfl

end Windows

section Agreement

/-! ## The records are the open windows -/

/-- A record is the client's window; without one the client has no window that
is still open. -/
structure RecordsAgree (options : ThrottleOptions) (state : LoginState) :
    Prop where
  recorded :
    ∀ key record,
      state.attempts.lookup key = some record →
        windowOf options.windowMs key state.compares =
          some { closesAt := record.resetAt, wrong := record.count }
  closed :
    ∀ key window,
      state.attempts.lookup key = none →
        windowOf options.windowMs key state.compares = some window →
          window.closesAt < state.clock

variable {config : OperatorAuthConfig} {state : LoginState}

theorem recordsAgree_passes
    (agree : RecordsAgree config.throttle state) (milliseconds : Nat) :
    RecordsAgree config.throttle
      (loginStep config state (.passes milliseconds)) := by
  refine ⟨agree.recorded, ?_⟩
  intro key window absent here
  have before := agree.closed key window absent here
  exact Nat.lt_of_lt_of_le before (Nat.le_add_right _ _)

/-- A check drops at most a record past its window. -/
theorem check_cases
    (options : ThrottleOptions) (attempts : LoginAttempts) (now : Nat)
    (key : String) :
    (LoginThrottle.check options attempts now key).2 = attempts ∨
      ∃ record,
        attempts.lookup key = some record ∧ record.resetAt < now ∧
          (LoginThrottle.check options attempts now key).2 =
            attempts.erase key := by
  unfold LoginThrottle.check
  cases found : attempts.lookup key with
  | none => exact Or.inl rfl
  | some record =>
      by_cases past : record.resetAt < now
      · simp only [if_pos past]
        exact Or.inr ⟨record, rfl, past, trivial⟩
      · simp only [if_neg past]
        exact Or.inl trivial

theorem recordsAgree_arrives
    (agree : RecordsAgree config.throttle state) (key : String) :
    RecordsAgree config.throttle (loginStep config state (.arrives key)) := by
  have attempts :
      (loginStep config state (.arrives key)).attempts =
        (LoginThrottle.check config.throttle state.attempts state.clock key).2 := by
    simp only [loginStep]
    split <;> rfl
  have compares :
      (loginStep config state (.arrives key)).compares = state.compares := by
    simp only [loginStep]
    split <;> rfl
  have clock : (loginStep config state (.arrives key)).clock = state.clock := by
    simp only [loginStep]
    split <;> rfl
  constructor
  · intro other record found
    rw [attempts] at found
    rw [compares]
    rcases check_cases config.throttle state.attempts state.clock key with
      same | ⟨dropped, -, -, erased⟩
    · rw [same] at found
      exact agree.recorded other record found
    · rw [erased] at found
      exact agree.recorded other record (lookup_of_lookup_erase found)
  · intro other window absent here
    rw [attempts] at absent
    rw [compares] at here
    rw [clock]
    rcases check_cases config.throttle state.attempts state.clock key with
      same | ⟨dropped, held, past, erased⟩
    · rw [same] at absent
      exact agree.closed other window absent here
    · by_cases own : other = key
      · subst own
        rw [agree.recorded other dropped held] at here
        cases here
        exact past
      · rw [erased, AList.lookup_erase_ne own] at absent
        exact agree.closed other window absent here

/-- The window after a wrong password is the record that `fail` writes. -/
theorem windowStep_failed
    (agree : RecordsAgree config.throttle state) (key : String) :
    windowStep config.throttle.windowMs
        (windowOf config.throttle.windowMs key state.compares) state.clock
        false =
      some {
        closesAt :=
          (LoginThrottle.failed config.throttle state.clock
            (state.attempts.lookup key)).resetAt
        wrong :=
          (LoginThrottle.failed config.throttle state.clock
            (state.attempts.lookup key)).count } := by
  cases found : state.attempts.lookup key with
  | some record =>
      rw [agree.recorded key record found]
      by_cases past : record.resetAt < state.clock
      · simp [windowStep, LoginThrottle.failed, past]
      · simp [windowStep, LoginThrottle.failed, past]
  | none =>
      cases here : windowOf config.throttle.windowMs key state.compares with
      | none => rfl
      | some window =>
          have past := agree.closed key window found here
          simp [windowStep, LoginThrottle.failed, past]

theorem recordsAgree_compare
    (agree : RecordsAgree config.throttle state) (key : String) (request : Nat)
    (password sessionId : String) :
    RecordsAgree config.throttle
      (state.compare config key request password sessionId) := by
  unfold LoginState.compare
  split
  · constructor
    · intro other record found
      simp only [LoginState.answer, LoginThrottle.reset] at found
      change windowOf _ other (state.compares ++ [_]) = _
      rw [windowOf_concat]
      by_cases own : key = other
      · rw [own, AList.lookup_erase] at found
        cases found
      · rw [if_neg own]
        exact agree.recorded other record (lookup_of_lookup_erase found)
    · intro other window absent here
      simp only [LoginState.answer, LoginThrottle.reset] at absent
      change windowOf _ other (state.compares ++ [_]) = _ at here
      rw [windowOf_concat] at here
      by_cases own : key = other
      · rw [if_pos own] at here
        cases here
      · rw [if_neg own] at here
        rw [AList.lookup_erase_ne (Ne.symm own)] at absent
        exact agree.closed other window absent here
  · constructor
    · intro other record found
      simp only [LoginState.answer, LoginThrottle.fail] at found
      change windowOf _ other (state.compares ++ [_]) = _
      rw [windowOf_concat]
      by_cases own : key = other
      · subst own
        rw [if_pos rfl]
        rw [lookup_set_self] at found
        cases found
        exact windowStep_failed agree key
      · rw [if_neg own]
        rw [lookup_set_of_ne (Ne.symm own)] at found
        exact agree.recorded other record found
    · intro other window absent here
      simp only [LoginState.answer, LoginThrottle.fail] at absent
      change windowOf _ other (state.compares ++ [_]) = _ at here
      rw [windowOf_concat] at here
      by_cases own : key = other
      · rw [own, lookup_set_self] at absent
        cases absent
      · rw [if_neg own] at here
        rw [lookup_set_of_ne (Ne.symm own)] at absent
        exact agree.closed other window absent here

theorem recordsAgree_step
    (agree : RecordsAgree config.throttle state) (action : LoginAction) :
    RecordsAgree config.throttle (loginStep config state action) := by
  cases action with
  | passes milliseconds => exact recordsAgree_passes agree milliseconds
  | arrives key => exact recordsAgree_arrives agree key
  | bodyRead request body sessionId =>
      simp only [loginStep]
      split
      · exact agree
      · next key _ =>
          cases body with
          | malformed => exact ⟨agree.recorded, agree.closed⟩
          | null => exact ⟨agree.recorded, agree.closed⟩
          | value password =>
              exact recordsAgree_compare agree key request _ sessionId

theorem recordsAgree_always (config : OperatorAuthConfig) :
    (loginMachine config).Always (RecordsAgree config.throttle) := by
  apply Machine.Always.of_inductive
  · exact ⟨nofun, nofun⟩
  · intro state action agree _
    exact recordsAgree_step agree action

end Agreement

section Bound

/-! ## Which compares keep the bound -/

variable {config : OperatorAuthConfig} {state : LoginState}

/-- What a failed attempt counts is within the limit where the check passes. -/
theorem count_failed_le_iff
    (options : ThrottleOptions) (attempts : LoginAttempts) (now : Nat)
    (key : String) :
    (LoginThrottle.failed options now (attempts.lookup key)).count ≤
        options.maxAttempts ↔
      0 < options.maxAttempts ∧
        (LoginThrottle.check options attempts now key).1 = true := by
  unfold LoginThrottle.check
  cases attempts.lookup key with
  | none => simp [LoginThrottle.failed, Nat.succ_le_iff]
  | some record =>
      by_cases past : record.resetAt < now
      · simp [LoginThrottle.failed, past, Nat.succ_le_iff]
      · simp [LoginThrottle.failed, past]
        omega

theorem windowsBounded_of_compares
    {options : ThrottleOptions} {other : LoginState}
    (bounded : WindowsBounded options state)
    (same : other.compares = state.compares) :
    WindowsBounded options other := by
  intro key window here
  rw [same] at here
  exact bounded key window here

theorem windowsBounded_compare_iff
    (agree : RecordsAgree config.throttle state)
    (bounded : WindowsBounded config.throttle state) (key : String)
    (request : Nat) (password sessionId : String) :
    WindowsBounded config.throttle
        (state.compare config key request password sessionId) ↔
      (passwordMatches config.sha256 password config.expectedPassword = false →
        0 < config.throttle.maxAttempts ∧
          (LoginThrottle.check config.throttle state.attempts state.clock
            key).1 =
            true) := by
  unfold LoginState.compare
  cases matched :
      passwordMatches config.sha256 password config.expectedPassword with
  | true =>
      refine iff_of_true ?_ nofun
      intro other window here
      change windowOf _ other (state.compares ++ [_]) = _ at here
      rw [windowOf_concat] at here
      by_cases own : key = other
      · rw [if_pos own] at here
        cases here
      · rw [if_neg own] at here
        exact bounded other window here
  | false =>
      rw [← count_failed_le_iff]
      have own :
          windowOf config.throttle.windowMs key
              (state.compares ++
                [{ key, comparedAt := state.clock, matched := false }]) =
            _ :=
        (windowOf_concat _ key _ _).trans
          ((if_pos rfl).trans (windowStep_failed agree key))
      constructor
      · intro after _
        exact after key _ own
      · intro within other window here
        change windowOf _ other (state.compares ++ [_]) = _ at here
        by_cases same : key = other
        · subst same
          rw [own] at here
          cases here
          exact within rfl
        · rw [windowOf_concat, if_neg same] at here
          exact bounded other window here

theorem windowsBounded_step_iff
    (agree : RecordsAgree config.throttle state)
    (bounded : WindowsBounded config.throttle state) (action : LoginAction) :
    ComparesInLimit config state action ↔
      WindowsBounded config.throttle (loginStep config state action) := by
  cases action with
  | passes milliseconds =>
      exact iff_of_true trivial (windowsBounded_of_compares bounded rfl)
  | arrives key =>
      refine iff_of_true trivial (windowsBounded_of_compares bounded ?_)
      simp only [loginStep]
      split <;> rfl
  | bodyRead request body sessionId =>
      cases waits : state.waiting.lookup request with
      | none =>
          have stays :
              loginStep config state (.bodyRead request body sessionId) =
                state := by
            simp only [loginStep, waits]
          rw [stays]
          refine iff_of_true ?_ bounded
          cases body with
          | malformed => trivial
          | null => trivial
          | value password =>
              intro key found
              rw [waits] at found
              cases found
      | some key =>
          simp only [loginStep, waits]
          cases body with
          | malformed =>
              exact iff_of_true trivial (windowsBounded_of_compares bounded rfl)
          | null =>
              exact iff_of_true trivial (windowsBounded_of_compares bounded rfl)
          | value password =>
              rw [windowsBounded_compare_iff agree bounded]
              constructor
              · intro within
                exact within key waits
              · intro within other found
                rw [waits] at found
                cases found
                exact within

/-- The environment may do anything at any time. -/
theorem admits_loginMachine
    (config : OperatorAuthConfig) (actions : List LoginAction) :
    (loginMachine config).Admits actions :=
  Machine.admits_of_offered (fun _ _ => trivial) actions

/-- In every run, whatever the overlap of its requests, no window ever has more
wrong passwords than attempts exactly where each wrong password is compared
while the throttle would still let its client attempt. -/
theorem windowsBounded_iff_comparesInLimit
    (config : OperatorAuthConfig) (actions : List LoginAction) :
    ((loginMachine config).restrict (ComparesInLimit config)).Admits actions ↔
      ∀ earlier, earlier <+: actions →
        WindowsBounded config.throttle ((loginMachine config).run earlier) := by
  refine
    Machine.admits_restrict_iff (recordsAgree_always config) ?_ ?_ actions
      (admits_loginMachine config actions)
  · exact nofun
  · intro state action agree _ bounded
    exact windowsBounded_step_iff agree bounded action

/-- Any overlap of requests keeps the bound. -/
def LoginThrottlePromise (config : OperatorAuthConfig) : Prop :=
  (loginMachine config).Always (WindowsBounded config.throttle)

/-- The service's own limits; the digest is the identity. -/
def serviceAuth : OperatorAuthConfig where
  throttle := { maxAttempts := 10, windowMs := 300000 }
  expectedPassword := "operator"
  cookieSecure := true
  sessionTtlMs := 86400000
  sha256 := id

/-- Eleven requests that are all checked before any body is there. -/
def overlappingLogins : List LoginAction :=
  List.replicate 11 (.arrives "10.0.0.1") ++
    (List.range 11).map fun request =>
      .bodyRead request (.value (some "guess")) "session"

theorem not_loginThrottlePromise : ¬ LoginThrottlePromise serviceAuth := by
  intro promise
  have within : (11 : Nat) ≤ 10 :=
    promise overlappingLogins
      (admits_loginMachine serviceAuth overlappingLogins) "10.0.0.1"
      { closesAt := 300000, wrong := 11 } (by decide)
  exact absurd within (by decide)

end Bound

section Serial

/-! ## Requests one at a time -/

variable {config : OperatorAuthConfig} {state : LoginState}

/-- A request arrives only when no other one waits for its body. -/
def ArrivesAlone (state : LoginState) : LoginAction → Prop
  | .arrives _ => state.waiting.keys = []
  | _ => True

/-- At most one request waits, and its check still holds. -/
structure ChecksHold (config : OperatorAuthConfig) (state : LoginState) :
    Prop where
  alone :
    ∀ request other,
      request ∈ state.waiting → other ∈ state.waiting → request = other
  passes :
    ∀ request key,
      state.waiting.lookup request = some key →
        (LoginThrottle.check config.throttle state.attempts state.clock key).1 =
          true

/-- A check that passes goes on passing as time does. -/
theorem check_later
    {options : ThrottleOptions} {attempts : LoginAttempts} {now later : Nat}
    {key : String}
    (passes : (LoginThrottle.check options attempts now key).1 = true)
    (order : now ≤ later) :
    (LoginThrottle.check options attempts later key).1 = true := by
  unfold LoginThrottle.check at passes ⊢
  cases found : attempts.lookup key with
  | none => rfl
  | some record =>
      simp only [found] at passes
      by_cases past : record.resetAt < later
      · simp only [if_pos past]
      · have open_before : ¬ record.resetAt < now := by omega
        simp only [if_neg open_before] at passes
        simp only [if_neg past]
        exact passes

/-- Asked again at once, the throttle says the same. -/
theorem check_again
    (options : ThrottleOptions) (attempts : LoginAttempts) (now : Nat)
    (key : String)
    (passes : (LoginThrottle.check options attempts now key).1 = true) :
    (LoginThrottle.check options
        (LoginThrottle.check options attempts now key).2 now key).1 =
      true := by
  rcases check_cases options attempts now key with same | ⟨_, -, -, erased⟩
  · rw [same]
    exact passes
  · rw [erased]
    unfold LoginThrottle.check
    rw [AList.lookup_erase]

theorem checksHold_of_nobody
    {other : LoginState} (nobody : ∀ request, request ∉ other.waiting) :
    ChecksHold config other := by
  constructor
  · intro request _ waits
    exact absurd waits (nobody request)
  · intro request key found
    exact absurd (mem_of_lookup found) (nobody request)

theorem waiting_compare (key : String) (request : Nat)
    (password sessionId : String) :
    (state.compare config key request password sessionId).waiting =
      state.waiting.erase request := by
  unfold LoginState.compare
  split <;> rfl

/-- The one request that waited is answered. -/
theorem checksHold_of_answered
    (hold : ChecksHold config state) {request : Nat} {key : String}
    (waits : state.waiting.lookup request = some key) {other : LoginState}
    (erased : other.waiting = state.waiting.erase request) :
    ChecksHold config other := by
  apply checksHold_of_nobody
  intro next member
  rw [erased] at member
  obtain ⟨different, held⟩ := AList.mem_erase.mp member
  exact different (hold.alone next request held (mem_of_lookup waits))

theorem checksHold_step
    (hold : ChecksHold config state) (action : LoginAction)
    (alone : ArrivesAlone state action) :
    ChecksHold config (loginStep config state action) := by
  cases action with
  | passes milliseconds =>
      refine ⟨hold.alone, ?_⟩
      intro request key found
      exact check_later (hold.passes request key found) (Nat.le_add_right _ _)
  | arrives key =>
      have nobody (request : Nat) : request ∉ state.waiting := by
        intro member
        have listed := AList.mem_keys.mp member
        have empty : state.waiting.keys = [] := alone
        rw [empty] at listed
        exact absurd listed List.not_mem_nil
      by_cases passes :
          (LoginThrottle.check config.throttle state.attempts state.clock
            key).1 =
            true
      · simp only [loginStep, passes, if_true]
        constructor
        · intro request other first second
          rcases (AList.mem_insert _).mp first with rfl | old
          · rcases (AList.mem_insert _).mp second with rfl | old
            · rfl
            · exact absurd old (nobody other)
          · exact absurd old (nobody request)
        · intro request other found
          by_cases new : request = state.nextRequest
          · subst new
            rw [AList.lookup_insert] at found
            cases found
            exact check_again _ _ _ key passes
          · rw [AList.lookup_insert_ne new] at found
            exact absurd (mem_of_lookup found) (nobody request)
      · simp only [loginStep, passes]
        apply checksHold_of_nobody
        intro request member
        exact nobody request (AList.mem_erase.mp member).2
  | bodyRead request body sessionId =>
      cases waits : state.waiting.lookup request with
      | none =>
          simp only [loginStep, waits]
          exact hold
      | some key =>
          refine checksHold_of_answered hold waits ?_
          simp only [loginStep, waits]
          cases body with
          | malformed => rfl
          | null => rfl
          | value password => exact waiting_compare key request _ sessionId

/-- Without overlap a throttle of at least one attempt keeps the bound. -/
theorem windowsBounded_of_arrivesAlone
    (config : OperatorAuthConfig) (positive : 0 < config.throttle.maxAttempts) :
    ((loginMachine config).restrict ArrivesAlone).Always
      (WindowsBounded config.throttle) := by
  have always :
      ((loginMachine config).restrict ArrivesAlone).Always fun state =>
        RecordsAgree config.throttle state ∧ ChecksHold config state ∧
          WindowsBounded config.throttle state := by
    apply Machine.Always.of_inductive
    · refine ⟨⟨nofun, nofun⟩, ⟨nofun, nofun⟩, nofun⟩
    · intro state action holds offered
      obtain ⟨agree, hold, bounded⟩ := holds
      refine
        ⟨recordsAgree_step agree action, checksHold_step hold action offered.2,
          (windowsBounded_step_iff agree bounded action).mp ?_⟩
      unfold ComparesInLimit
      split
      · intro key waits _
        exact ⟨positive, hold.passes _ key waits⟩
      · trivial
  exact always.mono fun _ holds => holds.2.2

end Serial

end Btcr2Aggregation
