import Btcr2Aggregation.Library.Fallible

/-!
# Driving a process that performs no I/O of its own

A sans-I/O process is advanced as far as it gets with what it holds.  It then
either has a result or names what it needs, and whoever drives it fetches each
need and hands it over.  `drive` is the loop, with a bound on its rounds.

What the loop answers is read off the rounds it went through, and depends on
nothing but what was fetched for the needs that came up: `drive_congr`.
-/

namespace Btcr2Aggregation

/-- What an advanced process tells its driver. -/
inductive Demand (Need Result : Type) where
  | needs (needs : List Need)
  | done (result : Result)

/-- A process that asks for what it needs. -/
structure SansIo (State Need Data Failure Result : Type) where
  /-- Take the process as far as it gets with what it holds. -/
  advance : State → Except Failure (State × Demand Need Result)
  /-- Hand over the data of a need. -/
  provide : State → Need → Data → Except Failure State

namespace SansIo

variable {State Need Data Failure Result : Type}

/-- Fetch the needs of a round in order, handing each over before the next. -/
def serveNeeds
    (process : SansIo State Need Data Failure Result)
    (serve : Need → Except Failure Data) :
    State → List Need → Except Failure State
  | state, [] => .ok state
  | state, need :: needs => do
      let data ← serve need
      let next ← process.provide state need data
      process.serveNeeds serve next needs

/-- The driver: at most `limit` rounds, `exceeded` if that does not do. -/
def drive
    (process : SansIo State Need Data Failure Result)
    (serve : Need → Except Failure Data) (exceeded : Failure) :
    Nat → State → Except Failure Result
  | limit, state =>
      match process.advance state with
      | .error failure => .error failure
      | .ok (_, .done result) => .ok result
      | .ok (next, .needs needs) =>
          match limit with
          | 0 => .error exceeded
          | limit + 1 =>
              process.serveNeeds serve next needs >>=
                process.drive serve exceeded limit

section Rounds

/-! ## Rounds -/

variable
  (process : SansIo State Need Data Failure Result)
  (serve : Need → Except Failure Data)

/-- The process is advanced and names its needs. -/
def Asks (state next : State) (needs : List Need) : Prop :=
  process.advance state = .ok (next, .needs needs)

/-- A number of whole rounds: asked, and everything handed over. -/
inductive Rounds : Nat → State → State → Prop
  | none (state : State) : Rounds 0 state state
  | next
      {state asking served final : State} {needs : List Need} {count : Nat}
      (asks : process.Asks state asking needs)
      (serves : process.serveNeeds serve asking needs = .ok served)
      (rest : Rounds count served final) :
      Rounds (count + 1) state final

/-- A need that comes up within the limit: the rounds before its own are done,
and so are the needs named before it. -/
structure Asked (limit : Nat) (state : State) (need : Need) : Prop where
  comesUp :
    ∃ count final asking between earlier later,
      count < limit ∧ process.Rounds serve count state final ∧
        process.Asks final asking (earlier ++ need :: later) ∧
          process.serveNeeds serve asking earlier = .ok between

/-- How a driven process can fail. -/
inductive Breaks
    (exceeded : Failure) (limit : Nat) (state : State) : Failure → Prop
  | advancing
      {count : Nat} {final : State} {failure : Failure}
      (within : count ≤ limit)
      (rounds : process.Rounds serve count state final)
      (fails : process.advance final = .error failure) :
      Breaks exceeded limit state failure
  | serving
      {count : Nat} {final asking : State} {needs : List Need}
      {failure : Failure}
      (within : count < limit)
      (rounds : process.Rounds serve count state final)
      (asks : process.Asks final asking needs)
      (fails : process.serveNeeds serve asking needs = .error failure) :
      Breaks exceeded limit state failure
  | exceeding
      {final asking : State} {needs : List Need}
      (rounds : process.Rounds serve limit state final)
      (asks : process.Asks final asking needs) :
      Breaks exceeded limit state exceeded

end Rounds

section Driving

/-! ## What the loop answers -/

variable
  {process : SansIo State Need Data Failure Result}
  {serve : Need → Except Failure Data}
  {exceeded : Failure}

theorem drive_eq (limit : Nat) (state : State) :
    process.drive serve exceeded limit state =
      match process.advance state with
      | .error failure => .error failure
      | .ok (_, .done result) => .ok result
      | .ok (next, .needs needs) =>
          match limit with
          | 0 => .error exceeded
          | limit + 1 =>
              process.serveNeeds serve next needs >>=
                process.drive serve exceeded limit := by
  rw [drive]

theorem drive_of_error
    {limit : Nat} {state : State} {failure : Failure}
    (fails : process.advance state = .error failure) :
    process.drive serve exceeded limit state = .error failure := by
  rw [drive_eq, fails]

theorem drive_of_done
    {limit : Nat} {state next : State} {result : Result}
    (done : process.advance state = .ok (next, .done result)) :
    process.drive serve exceeded limit state = .ok result := by
  rw [drive_eq, done]

theorem drive_zero_of_asks
    {state asking : State} {needs : List Need}
    (asks : process.Asks state asking needs) :
    process.drive serve exceeded 0 state = .error exceeded := by
  rw [drive_eq, asks]

theorem drive_succ_of_asks
    {limit : Nat} {state asking : State} {needs : List Need}
    (asks : process.Asks state asking needs) :
    process.drive serve exceeded (limit + 1) state =
      (process.serveNeeds serve asking needs >>=
        process.drive serve exceeded limit) := by
  rw [drive_eq, asks]

/-- An advanced process failed, has a result, or asks. -/
theorem advance_cases
    (process : SansIo State Need Data Failure Result) (state : State) :
    (∃ failure, process.advance state = .error failure) ∨
      (∃ next result, process.advance state = .ok (next, .done result)) ∨
        ∃ next needs, process.Asks state next needs := by
  cases advanced : process.advance state with
  | error failure => exact Or.inl ⟨failure, rfl⟩
  | ok reached =>
      obtain ⟨next, demand⟩ := reached
      cases demand with
      | done result => exact Or.inr (Or.inl ⟨next, result, rfl⟩)
      | needs needs => exact Or.inr (Or.inr ⟨next, needs, advanced⟩)

/-- The loop returns what the process has after some number of whole rounds. -/
theorem drive_eq_ok_iff
    {limit : Nat} {state : State} {result : Result} :
    process.drive serve exceeded limit state = .ok result ↔
      ∃ count ≤ limit, ∃ final next,
        process.Rounds serve count state final ∧
          process.advance final = .ok (next, .done result) := by
  constructor
  · intro answered
    induction limit generalizing state with
    | zero =>
        rcases process.advance_cases state with
          ⟨failure, fails⟩ | ⟨next, found, done⟩ | ⟨asking, needs, asks⟩
        · rw [drive_of_error fails] at answered
          cases answered
        · rw [drive_of_done done] at answered
          cases answered
          exact ⟨0, Nat.le_refl 0, state, next, .none state, done⟩
        · rw [drive_zero_of_asks asks] at answered
          cases answered
    | succ limit inductionHypothesis =>
        rcases process.advance_cases state with
          ⟨failure, fails⟩ | ⟨next, found, done⟩ | ⟨asking, needs, asks⟩
        · rw [drive_of_error fails] at answered
          cases answered
        · rw [drive_of_done done] at answered
          cases answered
          exact ⟨0, Nat.zero_le _, state, next, .none state, done⟩
        · rw [drive_succ_of_asks asks, bind_eq_ok_iff] at answered
          obtain ⟨served, serves, rest⟩ := answered
          obtain ⟨count, within, final, next, rounds, done⟩ :=
            inductionHypothesis rest
          exact
            ⟨count + 1, Nat.succ_le_succ within, final, next,
              .next asks serves rounds, done⟩
  · rintro ⟨count, within, final, next, rounds, done⟩
    induction rounds generalizing limit with
    | none state => exact drive_of_done done
    | next asks serves rest inductionHypothesis =>
        obtain ⟨limit, rfl⟩ : ∃ fewer, limit = fewer + 1 :=
          ⟨limit - 1, by omega⟩
        rw [drive_succ_of_asks asks, serves]
        exact inductionHypothesis (Nat.le_of_succ_le_succ within) done

/-- One more round before the failure. -/
theorem Breaks.cons
    {limit : Nat} {state asking served : State} {needs : List Need}
    {failure : Failure}
    (asks : process.Asks state asking needs)
    (serves : process.serveNeeds serve asking needs = .ok served)
    (breaks : process.Breaks serve exceeded limit served failure) :
    process.Breaks serve exceeded (limit + 1) state failure := by
  cases breaks with
  | advancing within rounds fails =>
      exact .advancing (Nat.succ_le_succ within) (.next asks serves rounds) fails
  | serving within rounds later fails =>
      exact
        .serving (Nat.succ_lt_succ within) (.next asks serves rounds) later fails
  | exceeding rounds later =>
      exact .exceeding (.next asks serves rounds) later

/-- The loop fails where a round breaks off, or at its limit. -/
theorem drive_eq_error_iff
    {limit : Nat} {state : State} {failure : Failure} :
    process.drive serve exceeded limit state = .error failure ↔
      process.Breaks serve exceeded limit state failure := by
  constructor
  · intro failed
    induction limit generalizing state with
    | zero =>
        rcases process.advance_cases state with
          ⟨early, fails⟩ | ⟨next, found, done⟩ | ⟨asking, needs, asks⟩
        · rw [drive_of_error fails] at failed
          cases failed
          exact .advancing (Nat.le_refl 0) (.none state) fails
        · rw [drive_of_done done] at failed
          cases failed
        · rw [drive_zero_of_asks asks] at failed
          cases failed
          exact .exceeding (.none state) asks
    | succ limit inductionHypothesis =>
        rcases process.advance_cases state with
          ⟨early, fails⟩ | ⟨next, found, done⟩ | ⟨asking, needs, asks⟩
        · rw [drive_of_error fails] at failed
          cases failed
          exact .advancing (Nat.zero_le _) (.none state) fails
        · rw [drive_of_done done] at failed
          cases failed
        · rw [drive_succ_of_asks asks, bind_eq_error_iff] at failed
          rcases failed with now | ⟨served, serves, later⟩
          · exact .serving (Nat.succ_pos limit) (.none state) asks now
          · exact (inductionHypothesis later).cons asks serves
  · intro breaks
    cases breaks with
    | advancing within rounds fails =>
        induction rounds generalizing limit with
        | none state => exact drive_of_error fails
        | next asks serves rest inductionHypothesis =>
            obtain ⟨limit, rfl⟩ : ∃ fewer, limit = fewer + 1 :=
              ⟨limit - 1, by omega⟩
            rw [drive_succ_of_asks asks, serves]
            exact inductionHypothesis (Nat.le_of_succ_le_succ within) fails
    | serving within rounds asking fails =>
        induction rounds generalizing limit with
        | none state =>
            obtain ⟨limit, rfl⟩ : ∃ fewer, limit = fewer + 1 :=
              ⟨limit - 1, by omega⟩
            rw [drive_succ_of_asks asking, fails]
            rfl
        | next asks serves rest inductionHypothesis =>
            obtain ⟨limit, rfl⟩ : ∃ fewer, limit = fewer + 1 :=
              ⟨limit - 1, by omega⟩
            rw [drive_succ_of_asks asks, serves]
            exact inductionHypothesis (Nat.lt_of_succ_lt_succ within) asking
    | exceeding rounds asking =>
        induction rounds with
        | none state => exact drive_zero_of_asks asking
        | next asks serves rest inductionHypothesis =>
            rw [drive_succ_of_asks asks, serves]
            exact inductionHypothesis asking

/-- A round breaks off at its first need that cannot be fetched or is refused. -/
theorem serveNeeds_eq_error_iff
    {state : State} {needs : List Need} {failure : Failure} :
    process.serveNeeds serve state needs = .error failure ↔
      ∃ earlier need later between,
        needs = earlier ++ need :: later ∧
          process.serveNeeds serve state earlier = .ok between ∧
            (serve need = .error failure ∨
              ∃ data, serve need = .ok data ∧
                process.provide between need data = .error failure) := by
  induction needs generalizing state with
  | nil =>
      constructor
      · intro failed
        cases failed
      · rintro ⟨earlier, need, later, between, split, -⟩
        cases earlier with
        | nil => cases split
        | cons head tail => cases split
  | cons need needs inductionHypothesis =>
      rw [serveNeeds, bind_eq_error_iff]
      constructor
      · rintro (unserved | ⟨data, fetched, rest⟩)
        · exact ⟨[], need, needs, state, rfl, rfl, Or.inl unserved⟩
        · rcases bind_eq_error_iff.mp rest with
            refused | ⟨next, provided, breaks⟩
          · exact
              ⟨[], need, needs, state, rfl, rfl, Or.inr ⟨data, fetched, refused⟩⟩
          · obtain ⟨earlier, other, later, between, rfl, served, cause⟩ :=
              inductionHypothesis.mp breaks
            refine ⟨need :: earlier, other, later, between, rfl, ?_, cause⟩
            rw [serveNeeds, fetched, ok_bind, provided, ok_bind]
            exact served
      · rintro ⟨earlier, other, later, between, split, served, cause⟩
        cases earlier with
        | nil =>
            cases split
            cases served
            rcases cause with unserved | ⟨data, fetched, refused⟩
            · exact Or.inl unserved
            · refine Or.inr ⟨data, fetched, ?_⟩
              rw [refused]
              rfl
        | cons head tail =>
            cases split
            rw [serveNeeds, bind_eq_ok_iff] at served
            obtain ⟨data, fetched, more⟩ := served
            obtain ⟨next, provided, rest⟩ := bind_eq_ok_iff.mp more
            refine Or.inr ⟨data, fetched, ?_⟩
            rw [provided, ok_bind]
            exact
              inductionHypothesis.mpr
                ⟨tail, other, later, between, rfl, rest, cause⟩

end Driving

section Agreement

/-! ## What the answer depends on -/

variable
  {process : SansIo State Need Data Failure Result}
  {serve other : Need → Except Failure Data}
  {exceeded : Failure}

/-- A round depends on what is fetched for the needs reached in it. -/
theorem serveNeeds_congr
    {state : State} {needs : List Need}
    (agree :
      ∀ earlier need later between,
        needs = earlier ++ need :: later →
          process.serveNeeds serve state earlier = .ok between →
            serve need = other need) :
    process.serveNeeds serve state needs =
      process.serveNeeds other state needs := by
  induction needs generalizing state with
  | nil => rfl
  | cons need needs inductionHypothesis =>
      have first : serve need = other need :=
        agree [] need needs state rfl rfl
      rw [serveNeeds, serveNeeds, ← first]
      cases fetched : serve need with
      | error failure => rfl
      | ok data =>
          rw [ok_bind, ok_bind]
          cases provided : process.provide state need data with
          | error failure => rfl
          | ok next =>
              rw [ok_bind, ok_bind]
              refine inductionHypothesis ?_
              rintro earlier later rest between rfl served
              refine agree (need :: earlier) later rest between rfl ?_
              rw [serveNeeds, fetched, ok_bind, provided, ok_bind]
              exact served

/-- A need that comes up after a round comes up, one round later. -/
theorem Asked.cons
    {limit : Nat} {state asking served : State} {needs : List Need}
    {need : Need}
    (asks : process.Asks state asking needs)
    (serves : process.serveNeeds serve asking needs = .ok served)
    (asked : process.Asked serve limit served need) :
    process.Asked serve (limit + 1) state need := by
  obtain ⟨count, final, later, between, before, after, within, rounds, facts⟩ :=
    asked.comesUp
  exact
    ⟨count + 1, final, later, between, before, after,
      Nat.succ_lt_succ within, .next asks serves rounds, facts⟩

/-- The answer depends on nothing but what is fetched for the needs that come
up. -/
theorem drive_congr
    {limit : Nat} {state : State}
    (agree :
      ∀ need, process.Asked serve limit state need → serve need = other need) :
    process.drive serve exceeded limit state =
      process.drive other exceeded limit state := by
  induction limit generalizing state with
  | zero =>
      rcases process.advance_cases state with
        ⟨failure, fails⟩ | ⟨next, found, done⟩ | ⟨asking, needs, asks⟩
      · rw [drive_of_error fails, drive_of_error fails]
      · rw [drive_of_done done, drive_of_done done]
      · rw [drive_zero_of_asks asks, drive_zero_of_asks asks]
  | succ limit inductionHypothesis =>
      rcases process.advance_cases state with
        ⟨failure, fails⟩ | ⟨next, found, done⟩ | ⟨asking, needs, asks⟩
      · rw [drive_of_error fails, drive_of_error fails]
      · rw [drive_of_done done, drive_of_done done]
      · have round :
            process.serveNeeds serve asking needs =
              process.serveNeeds other asking needs := by
          refine serveNeeds_congr ?_
          rintro earlier need later between rfl served
          exact
            agree need
              ⟨0, state, asking, between, earlier, later, Nat.succ_pos limit,
                .none state, asks, served⟩
        rw [drive_succ_of_asks asks, drive_succ_of_asks asks, ← round]
        cases serves : process.serveNeeds serve asking needs with
        | error failure => rfl
        | ok served =>
            rw [ok_bind, ok_bind]
            refine inductionHypothesis fun need asked => ?_
            exact agree need (asked.cons asks serves)

/-- Every need named in a round that was served was fetched. -/
theorem exists_of_serveNeeds
    {state final : State} {earlier later : List Need} {need : Need}
    (served :
      process.serveNeeds serve state (earlier ++ need :: later) = .ok final) :
    ∃ data, serve need = .ok data := by
  induction earlier generalizing state with
  | nil =>
      rw [List.nil_append, serveNeeds, bind_eq_ok_iff] at served
      obtain ⟨data, fetched, -⟩ := served
      exact ⟨data, fetched⟩
  | cons head tail inductionHypothesis =>
      rw [List.cons_append, serveNeeds, bind_eq_ok_iff] at served
      obtain ⟨data, -, more⟩ := served
      obtain ⟨next, -, rest⟩ := bind_eq_ok_iff.mp more
      exact inductionHypothesis rest

/-- When the loop returns, each need that came up was fetched. -/
theorem exists_of_asked
    {limit : Nat} {state : State} {need : Need} {result : Result}
    (answered : process.drive serve exceeded limit state = .ok result)
    (asked : process.Asked serve limit state need) :
    ∃ data, serve need = .ok data := by
  obtain ⟨count, final, asking, between, earlier, later, within, rounds, asks,
    -⟩ := asked.comesUp
  clear asked
  induction rounds generalizing limit with
  | none state =>
      obtain ⟨limit, rfl⟩ : ∃ fewer, limit = fewer + 1 :=
        ⟨limit - 1, by omega⟩
      rw [drive_succ_of_asks asks, bind_eq_ok_iff] at answered
      obtain ⟨served, serves, -⟩ := answered
      exact exists_of_serveNeeds serves
  | next asksHere serves rest inductionHypothesis =>
      obtain ⟨limit, rfl⟩ : ∃ fewer, limit = fewer + 1 :=
        ⟨limit - 1, by omega⟩
      rw [drive_succ_of_asks asksHere, serves, ok_bind] at answered
      exact
        inductionHypothesis answered (Nat.lt_of_succ_lt_succ within) asks

/-- A result stays under a fetcher that fetches the same and perhaps more. -/
theorem drive_ok_of_extends
    {limit : Nat} {state : State} {result : Result}
    (extended :
      ∀ need data, serve need = .ok data → other need = .ok data)
    (answered : process.drive serve exceeded limit state = .ok result) :
    process.drive other exceeded limit state = .ok result := by
  rw [← answered]
  refine (drive_congr fun need asked => ?_).symm
  obtain ⟨data, fetched⟩ := exists_of_asked answered asked
  rw [fetched, extended need data fetched]

end Agreement

section Clock

/-! ## Fetching while the world moves on

Fetching takes time, and what can be fetched may change in between.  `clocked`
numbers the needs of a process as they are named, so that what is fetched for a
need may depend on how many were named before it. -/

/-- What is asked for, numbered from `clock`. -/
def numbered (clock : Nat) :
    Demand Need Result → Demand (Need × Nat) Result
  | .needs needs => .needs (needs.zipIdx clock)
  | .done result => .done result

/-- The process with its needs numbered. -/
def clocked (process : SansIo State Need Data Failure Result) :
    SansIo (State × Nat) (Need × Nat) Data Failure Result where
  advance state :=
    (process.advance state.1).map fun reached =>
      ((reached.1, state.2), numbered state.2 reached.2)
  provide state need data :=
    (process.provide state.1 need.1 data).map (·, state.2 + 1)

variable
  {process : SansIo State Need Data Failure Result}
  {serve : Need → Except Failure Data}
  {exceeded : Failure}

theorem advance_clocked (state : State) (clock : Nat) :
    process.clocked.advance (state, clock) =
      (process.advance state).map fun reached =>
        ((reached.1, clock), numbered clock reached.2) :=
  rfl

theorem provide_clocked
    (state : State) (clock time : Nat) (need : Need) (data : Data) :
    process.clocked.provide (state, clock) (need, time) data =
      (process.provide state need data).map (·, clock + 1) :=
  rfl

theorem serveNeeds_clocked
    {needs : List Need} {state : State} {clock : Nat} :
    process.clocked.serveNeeds (serve ∘ Prod.fst) (state, clock)
        (needs.zipIdx clock) =
      (process.serveNeeds serve state needs).map
        (·, clock + needs.length) := by
  induction needs generalizing state clock with
  | nil => rfl
  | cons need needs inductionHypothesis =>
      rw [List.zipIdx_cons, serveNeeds, serveNeeds, Function.comp_apply]
      cases fetched : serve need with
      | error failure => rfl
      | ok data =>
          rw [ok_bind, ok_bind]
          rw [provide_clocked]
          cases process.provide state need data with
          | error failure => rfl
          | ok next =>
              rw [ok_bind, Except.map, ok_bind, inductionHypothesis,
                List.length_cons, Nat.add_right_comm, Nat.add_assoc]

/-- Numbering the needs alone changes nothing. -/
theorem drive_clocked
    (serve : Need → Except Failure Data)
    {limit : Nat} {state : State} {clock : Nat} :
    process.clocked.drive (serve ∘ Prod.fst) exceeded limit (state, clock) =
      process.drive serve exceeded limit state := by
  induction limit generalizing state clock with
  | zero =>
      rcases process.advance_cases state with
        ⟨failure, fails⟩ | ⟨next, found, done⟩ | ⟨asking, needs, asks⟩
      · rw [drive_of_error fails, drive_of_error]
        rw [advance_clocked, fails]
        rfl
      · rw [drive_of_done done, drive_of_done]
        rw [advance_clocked, done]
        rfl
      · rw [drive_zero_of_asks asks, drive_zero_of_asks]
        rw [Asks, advance_clocked, asks]
        rfl
  | succ limit inductionHypothesis =>
      rcases process.advance_cases state with
        ⟨failure, fails⟩ | ⟨next, found, done⟩ | ⟨asking, needs, asks⟩
      · rw [drive_of_error fails, drive_of_error]
        rw [advance_clocked, fails]
        rfl
      · rw [drive_of_done done, drive_of_done]
        rw [advance_clocked, done]
        rfl
      · have numbered :
            process.clocked.Asks (state, clock) (asking, clock)
              (needs.zipIdx clock) := by
          rw [Asks, advance_clocked, asks]
          rfl
        rw [drive_succ_of_asks asks, drive_succ_of_asks numbered,
          serveNeeds_clocked]
        cases process.serveNeeds serve asking needs with
        | error failure => rfl
        | ok served => exact inductionHypothesis

/-- A result that can be had at once is the result however the world moves on,
as long as what could be fetched stays what is fetched. -/
theorem drive_clocked_of_extends
    {serveAt : Need × Nat → Except Failure Data}
    {limit : Nat} {state : State} {clock : Nat} {result : Result}
    (extended :
      ∀ need time data, serve need = .ok data → serveAt (need, time) = .ok data)
    (answered : process.drive serve exceeded limit state = .ok result) :
    process.clocked.drive serveAt exceeded limit (state, clock) =
      .ok result := by
  have numbered :
      process.clocked.drive (serve ∘ Prod.fst) exceeded limit (state, clock) =
        .ok result := by
    rw [drive_clocked serve]
    exact answered
  refine drive_ok_of_extends ?_ numbered
  rintro ⟨need, time⟩ data fetched
  exact extended need time data fetched

end Clock

end SansIo

end Btcr2Aggregation
