import Btcr2Aggregation.Service.Dismissal
import Btcr2Aggregation.Service.OperatorGate

/-!
# The operator routes

What the service does with an operator's request that got through the gate, and
what it replies: the verdicts of the cohort surface as statuses and bodies.
-/

namespace Btcr2Aggregation

section Finalize

/-! ## Finalizing a stalled round -/

inductive FinalizeResult where
  | ok
  | unknown
  | notSigning
  | threw
  deriving DecidableEq, Repr

/-- The verdict of `finalizeCohort`; `triggered` is how the library's
`triggerFallback` ends.  The round it starts is the library's own move to another
phase. -/
def finalizeCohort
    (health : LibraryHealth) (triggered : Except String Unit)
    (state : OperatorState) (cohortId : CohortId) : FinalizeResult :=
  if cohortId ∉ state.advertised then
    .unknown
  else if ¬ health.phaseReads then
    .threw
  else if
      ¬ (state.runner.getCohortPhase cohortId).any fun phase =>
        phase ∈ finalizablePhases then
    .notSigning
  else
    match triggered with
    | .ok _ => .ok
    | .error _ => .notSigning

theorem cancelCohort_ok_iff {state : OperatorState} {id : CohortId} :
    (cancelCohort .sound state id).1 = .ok ↔ id ∈ state.advertised := by
  unfold cancelCohort
  by_cases advertised : id ∈ state.advertised
  · rw [if_pos advertised]
    simp [LibraryHealth.sound, OperatorState.repairThrows, advertised]
  · rw [if_neg advertised]
    simp [advertised]

end Finalize

section Replies

/-! ## Replies -/

inductive ReplyBody where
  | error (message : String)
  | row (dto : OperatorCohortDTO)
  | ok
  | paused (value : Bool)
  | broadcastDisabled (value : Bool)
  | spawned (count : Nat)
  /-- No JSON. -/
  | text
  deriving DecidableEq, Repr

structure RouteReply where
  status : Nat
  body : ReplyBody
  deriving DecidableEq, Repr

def notSigningReason : String :=
  "this cohort's signing round hasn't started"

def advertisingPausedReason : String :=
  "advertising is paused on this service"

def requestTooLarge : RouteReply :=
  ⟨413, .error "request too large"⟩

def draftBodyExpected : RouteReply :=
  ⟨400, .error "expected a JSON body \x7b beaconType, size, threshold \x7d"⟩

/-- The framework's answer where a route throws. -/
def internalServerError : RouteReply :=
  ⟨500, .text⟩

def pausedAdvertisingText : String := "Paused advertising."

def resumedAdvertisingText : String := "Resumed advertising."

def broadcastDisabledText : String := "Disabled broadcast for new cohorts."

def operatorFinalizedText : String := "Operator triggered the k-of-n fallback."

def finalizedCohortText (cohortId : CohortId) : String :=
  "Triggered the k-of-n fallback on cohort " ++ shortCohortId cohortId ++ "."

end Replies

section Routes

/-! ## Routes -/

/-- The service as the routes see it; `fallbacks` are the rounds the library was
told to finish. -/
structure OperatorDesk where
  run : DismissalRun
  fallbacks : List CohortId

inductive RequestBody (Input : Type) where
  | tooLarge
  | notJson
  | input (value : Input)

/-- A mutating request, with what the library does meanwhile: the id it mints,
whether its calls throw. -/
inductive OperatorCall where
  | createDraft (draftId : CohortId) (body : RequestBody DraftInput)
  | updateDraft (draftId : CohortId) (body : RequestBody DraftInput)
  | discardDraft (draftId : CohortId)
  | advertiseDraft (draftId : CohortId) (minted : Option CohortId)
  | readvertiseExpired (cohortId : CohortId) (minted : Option CohortId)
  | cancelCohort (cohortId : CohortId) (health : LibraryHealth)
  | finalizeCohort
      (cohortId : CohortId) (health : LibraryHealth)
      (triggered : Except String Unit)
  | pauseAdvertising
  | resumeAdvertising
  | disableBroadcast
  | dismissEnded (cohortId : CohortId)

namespace OperatorDesk

/-- The service takes a step of its own. -/
def happens
    (options : OperatorOptions) (desk : OperatorDesk) (event : DismissalEvent) :
    OperatorDesk :=
  { desk with run := desk.run.step options event }

def performs
    (options : OperatorOptions) (desk : OperatorDesk) (event : OperatorEvent) :
    OperatorDesk :=
  desk.happens options (.operator event)

def notes
    (options : OperatorOptions) (desk : OperatorDesk) (text : String) :
    OperatorDesk :=
  desk.happens options (.monitor (.noteServiceAction text))

def state (desk : OperatorDesk) : OperatorState :=
  desk.run.operator.state

def withSettings (desk : OperatorDesk) (settings : RuntimeSettings) :
    OperatorDesk :=
  { desk with
    run :=
      { desk.run with
        operator :=
          { desk.run.operator with
            state := { desk.run.operator.state with settings } } } }

end OperatorDesk

/-- Both advertise routes; `missing` is what an id they do not hold is answered. -/
def advertiseReply (missing : String) : AdvertiseResult → RouteReply
  | .paused => ⟨409, .error advertisingPausedReason⟩
  | .unknown => ⟨404, .error missing⟩
  | .threw => internalServerError
  | .advertised row => ⟨200, .row row⟩

def serveDraft
    (desk : OperatorDesk) (body : RequestBody DraftInput)
    (served : DraftInput → OperatorDesk × RouteReply) :
    OperatorDesk × RouteReply :=
  match body with
  | .tooLarge => (desk, requestTooLarge)
  | .notJson => (desk, draftBodyExpected)
  | .input value => served value

/-- The transition alone is noted: a repeat changed nothing. -/
def serveSetting
    (options : OperatorOptions) (after : OperatorDesk) (already : Bool)
    (text : String) : OperatorDesk :=
  if already then after else after.notes options text

/-- The mutating routes behind the gate. -/
def serve (options : OperatorOptions) (desk : OperatorDesk) :
    OperatorCall → OperatorDesk × RouteReply
  | .createDraft draftId body =>
      serveDraft desk body fun input =>
        (desk.performs options (.createDraft draftId input),
          match (createDraft options desk.state draftId input).1 with
          | .error message => ⟨400, .error message⟩
          | .ok dto => ⟨201, .row dto⟩)
  | .updateDraft draftId body =>
      serveDraft desk body fun input =>
        (desk.performs options (.updateDraft draftId input),
          match (updateDraft options desk.state draftId input).1 with
          | .error message => ⟨400, .error message⟩
          | .ok none => ⟨404, .error "unknown draft"⟩
          | .ok (some dto) => ⟨200, .row dto⟩)
  | .discardDraft draftId =>
      (desk.performs options (.discardDraft draftId),
        if (discardDraft desk.state draftId).1 then ⟨200, .ok⟩
        else ⟨404, .error "unknown draft"⟩)
  | .advertiseDraft draftId minted =>
      (desk.performs options (.advertiseDraft draftId minted),
        advertiseReply "unknown draft"
          (advertiseDraft options desk.state draftId minted).1)
  | .readvertiseExpired cohortId minted =>
      (desk.performs options (.readvertiseExpired cohortId minted),
        advertiseReply "unknown expired cohort"
          (readvertiseExpired options desk.state cohortId minted).1)
  | .cancelCohort cohortId health =>
      (desk.performs options (.cancelCohort cohortId health),
        match (cancelCohort health desk.state cohortId).1 with
        | .ok => ⟨200, .ok⟩
        | .unknown => ⟨404, .error "unknown cohort"⟩
        | .threw => internalServerError)
  | .finalizeCohort cohortId health triggered =>
      match finalizeCohort health triggered desk.state cohortId with
      | .unknown => (desk, ⟨404, .error "unknown cohort"⟩)
      | .notSigning => (desk, ⟨409, .error notSigningReason⟩)
      | .threw => (desk, internalServerError)
      | .ok =>
          let noted :=
            (desk.happens options
              (.monitor (.noteOperatorAction cohortId operatorFinalizedText))).notes
                options (finalizedCohortText cohortId)
          ({ noted with fallbacks := cohortId :: desk.fallbacks }, ⟨200, .ok⟩)
  | .pauseAdvertising =>
      (serveSetting options (desk.performs options .pause)
          desk.state.settings.paused pausedAdvertisingText,
        ⟨200, .paused desk.state.settings.pause.paused⟩)
  | .resumeAdvertising =>
      (serveSetting options (desk.performs options .resume)
          (!desk.state.settings.paused) resumedAdvertisingText,
        ⟨200, .paused desk.state.settings.resume.paused⟩)
  | .disableBroadcast =>
      let killSwitch :=
        desk.state.settings.killSwitch.disableBroadcast desk.run.now
      (serveSetting options (desk.withSettings { desk.state.settings with killSwitch })
          desk.state.settings.killSwitch.broadcastDisabled broadcastDisabledText,
        ⟨200, .broadcastDisabled killSwitch.broadcastDisabled⟩)
  | .dismissEnded cohortId =>
      (desk.happens options (.dismiss cohortId),
        if (desk.run.deleteEnded options cohortId).1 then ⟨200, .ok⟩
        else ⟨404, .error "unknown ended cohort"⟩)

end Routes

section Granted

/-! ## What the routes grant -/

attribute [local simp] serve

/-- `ok` of a response. -/
def RouteReply.ok (reply : RouteReply) : Bool :=
  200 ≤ reply.status && reply.status ≤ 299

/-- The library throws in the middle of a cancel. -/
def breaksMidway (desk : OperatorDesk) : OperatorCall → Bool
  | .cancelCohort id health =>
      (cancelCohort health desk.state id).1 = .threw
  | _ => false

/-- What it takes for a request to be granted. -/
def Granted (options : OperatorOptions) (desk : OperatorDesk) : OperatorCall → Prop
  | .createDraft draftId body =>
      ∃ input entry,
        body = .input input ∧
          judgeDraft options desk.state.settings draftId
              (withServiceDefaults desk.state.settings input) = .ok entry
  | .updateDraft draftId body =>
      draftId ∈ desk.state.drafts ∧
        ∃ input entry,
          body = .input input ∧
            judgeDraft options desk.state.settings draftId input = .ok entry
  | .discardDraft draftId => draftId ∈ desk.state.drafts
  | .advertiseDraft draftId minted =>
      desk.state.settings.paused = false ∧ draftId ∈ desk.state.drafts ∧
        minted.isSome
  | .readvertiseExpired cohortId minted =>
      desk.state.settings.paused = false ∧ cohortId ∈ desk.state.terminal ∧
        minted.isSome
  | .cancelCohort id health =>
      id ∈ desk.state.advertised ∧
        (cancelCohort health desk.state id).1 ≠ .threw
  | .finalizeCohort id health triggered =>
      id ∈ desk.state.advertised ∧ health.phaseReads = true ∧
        (∃ phase ∈ finalizablePhases,
          desk.state.runner.getCohortPhase id = some phase) ∧
          triggered = .ok ()
  | .pauseAdvertising => True
  | .resumeAdvertising => True
  | .disableBroadcast => True
  | .dismissEnded id =>
      (id ∈ desk.run.monitor.ended ∨ id ∈ desk.state.terminal) ∧
        ∀ phase, desk.state.runner.getCohortPhase id = some phase →
          phase ∉ displayPhases

/-- A route says ok exactly where it grants, and otherwise changed nothing. -/
structure Serves
    (options : OperatorOptions) (desk : OperatorDesk) (call : OperatorCall) :
    Prop where
  granted_iff : (serve options desk call).2.ok = true ↔ Granted options desk call
  untouched :
    (serve options desk call).2.ok = false → breaksMidway desk call = false →
      (serve options desk call).1 = desk

variable {options : OperatorOptions} {desk : OperatorDesk}

theorem Serves.of_granted
    {call : OperatorCall} (said : (serve options desk call).2.ok = true)
    (granted : Granted options desk call) : Serves options desk call where
  granted_iff := iff_of_true said granted
  untouched failed := by
    rw [said] at failed
    cases failed

theorem Serves.of_refused
    {call : OperatorCall} (said : (serve options desk call).2.ok = false)
    (refused : ¬ Granted options desk call)
    (untouched :
      breaksMidway desk call = false → (serve options desk call).1 = desk) :
    Serves options desk call where
  granted_iff := iff_of_false (Bool.eq_false_iff.mp said) refused
  untouched _ := untouched

/-- An operator event that leaves the surface alone and tells the monitor nothing
leaves the whole service alone. -/
theorem performs_eq_self
    {event : OperatorEvent}
    (same : desk.run.operator.step options event = desk.run.operator)
    (untold : desk.run.calls (.operator event) = []) :
    desk.performs options event = desk := by
  rw [OperatorDesk.performs, OperatorDesk.happens, DismissalRun.step, same, untold]
  rfl

theorem serves_createDraft (draftId : CohortId) (body : RequestBody DraftInput) :
    Serves options desk (.createDraft draftId body) := by
  cases body with
  | tooLarge =>
      refine .of_refused rfl ?_ fun _ => rfl
      rintro ⟨input, entry, named, -⟩
      cases named
  | notJson =>
      refine .of_refused rfl ?_ fun _ => rfl
      rintro ⟨input, entry, named, -⟩
      cases named
  | input value =>
      cases judged :
          judgeDraft options desk.state.settings draftId
            (withServiceDefaults desk.state.settings value) with
      | ok entry =>
          refine .of_granted ?_ ⟨value, entry, rfl, judged⟩
          simp only [serve, serveDraft, createDraft, judged]
          rfl
      | error message =>
          refine .of_refused ?_ ?_ fun _ => ?_
          · simp only [serve, serveDraft, createDraft, judged]
            rfl
          · rintro ⟨input, entry, named, accepted⟩
            cases named
            rw [judged] at accepted
            cases accepted
          · refine performs_eq_self ?_ rfl
            simp only [OperatorDesk.state] at judged
            simp only [OperatorRun.step, createDraft, judged]

theorem serves_updateDraft (draftId : CohortId) (body : RequestBody DraftInput) :
    Serves options desk (.updateDraft draftId body) := by
  cases body with
  | tooLarge =>
      refine .of_refused rfl ?_ fun _ => rfl
      rintro ⟨-, input, entry, named, -⟩
      cases named
  | notJson =>
      refine .of_refused rfl ?_ fun _ => rfl
      rintro ⟨-, input, entry, named, -⟩
      cases named
  | input value =>
      by_cases held : draftId ∈ desk.state.drafts
      · cases judged : judgeDraft options desk.state.settings draftId value with
        | ok entry =>
            refine .of_granted ?_ ⟨held, value, entry, rfl, judged⟩
            simp only [serve, serveDraft, updateDraft, if_pos held, judged]
            rfl
        | error message =>
            refine .of_refused ?_ ?_ fun _ => ?_
            · simp only [serve, serveDraft, updateDraft, if_pos held, judged]
              rfl
            · rintro ⟨-, input, entry, named, accepted⟩
              cases named
              rw [judged] at accepted
              cases accepted
            · refine performs_eq_self ?_ rfl
              simp only [OperatorDesk.state] at held judged
              simp only [OperatorRun.step, updateDraft, if_pos held, judged]
      · refine .of_refused ?_ (fun granted => held granted.1) fun _ => ?_
        · simp only [serve, serveDraft, updateDraft, if_neg held]
          rfl
        · refine performs_eq_self ?_ rfl
          simp only [OperatorDesk.state] at held
          simp only [OperatorRun.step, updateDraft, if_neg held]

theorem serves_discardDraft (draftId : CohortId) :
    Serves options desk (.discardDraft draftId) := by
  by_cases held : draftId ∈ desk.state.drafts
  · refine .of_granted ?_ held
    simp only [serve, discardDraft, decide_eq_true held, if_true]
    rfl
  · refine .of_refused ?_ held fun _ => ?_
    · simp only [serve, discardDraft, decide_eq_false held, Bool.false_eq_true,
        if_false]
      rfl
    · refine performs_eq_self ?_ rfl
      simp only [OperatorDesk.state] at held
      simp only [OperatorRun.step, discardDraft, decide_eq_false held,
        Bool.false_eq_true, if_false, InsertionMap.erase_of_notMem held]

theorem ok_advertiseReply (missing : String) (answer : AdvertiseResult) :
    (advertiseReply missing answer).ok = !answer.refused := by
  cases answer with
  | paused => rfl
  | unknown => rfl
  | threw => rfl
  | advertised row => rfl

theorem serves_advertiseDraft
    (draftId : CohortId) (minted : Option CohortId) :
    Serves options desk (.advertiseDraft draftId minted) := by
  rcases advertiseDraft_cases options desk.state draftId minted with
    ⟨answer, refused, equality⟩ | ⟨entry, cohortId, running, found, rfl, equality⟩
  · have ungranted : ¬ Granted options desk (.advertiseDraft draftId minted) := by
      rintro ⟨running, held, minted⟩
      obtain ⟨entry, found⟩ := InsertionMap.exists_lookup_of_mem held
      obtain ⟨cohortId, rfl⟩ := Option.isSome_iff_exists.mp minted
      rw [advertiseDraft, if_neg (Bool.eq_false_iff.mp running), found] at equality
      obtain rfl := congrArg Prod.fst equality
      cases refused
    refine .of_refused ?_ ungranted fun _ => ?_
    · simp only [serve, equality, ok_advertiseReply, refused, Bool.not_true]
    · rcases
        OperatorRun.step_advertiseDraft_cases options desk.run.operator draftId
          minted with
        same | ⟨entry, cohortId, running, found, rfl, -⟩
      · exact performs_eq_self same rfl
      · exact absurd ⟨running, InsertionMap.mem_of_lookup found, rfl⟩ ungranted
  · refine .of_granted ?_ ⟨running, InsertionMap.mem_of_lookup found, rfl⟩
    simp only [serve, equality]
    rfl

theorem serves_readvertiseExpired
    (cohortId : CohortId) (minted : Option CohortId) :
    Serves options desk (.readvertiseExpired cohortId minted) := by
  rcases readvertiseExpired_cases options desk.state cohortId minted with
    ⟨answer, refused, equality⟩ | ⟨record, newId, running, found, rfl, equality⟩
  · have ungranted :
        ¬ Granted options desk (.readvertiseExpired cohortId minted) := by
      rintro ⟨running, held, minted⟩
      obtain ⟨record, found⟩ := InsertionMap.exists_lookup_of_mem held
      obtain ⟨newId, rfl⟩ := Option.isSome_iff_exists.mp minted
      rw [readvertiseExpired, if_neg (Bool.eq_false_iff.mp running), found]
        at equality
      obtain rfl := congrArg Prod.fst equality
      cases refused
    refine .of_refused ?_ ungranted fun _ => ?_
    · simp only [serve, equality, ok_advertiseReply, refused, Bool.not_true]
    · rcases
        OperatorRun.step_readvertiseExpired_cases options desk.run.operator
          cohortId minted with
        same | ⟨record, newId, running, found, rfl, -⟩
      · exact performs_eq_self same rfl
      · exact absurd ⟨running, InsertionMap.mem_of_lookup found, rfl⟩ ungranted
  · refine .of_granted ?_ ⟨running, InsertionMap.mem_of_lookup found, rfl⟩
    simp only [serve, equality]
    rfl

theorem serves_cancelCohort (id : CohortId) (health : LibraryHealth) :
    Serves options desk (.cancelCohort id health) := by
  by_cases advertised : id ∈ desk.state.advertised
  · cases verdict : (cancelCohort health desk.state id).1 with
    | ok =>
        refine .of_granted ?_ ⟨advertised, by rw [verdict]; nofun⟩
        simp only [serve, verdict]
        rfl
    | unknown =>
        rw [cancelCohort, if_pos advertised] at verdict
        dsimp only at verdict
        split at verdict
        · dsimp only at verdict
          split at verdict <;> cases verdict
        · cases verdict
    | threw =>
        refine .of_refused ?_ (fun granted => granted.2 verdict) ?_
        · simp only [serve, verdict]
          rfl
        · intro whole
          rw [breaksMidway, verdict] at whole
          cases whole
  · have unknown : cancelCohort health desk.state id = (.unknown, desk.state) :=
      if_neg advertised
    refine .of_refused ?_ (fun granted => advertised granted.1) fun _ => ?_
    · simp only [serve, unknown]
      rfl
    · simp only [OperatorDesk.state] at advertised unknown
      refine performs_eq_self ?_ ?_
      · simp only [OperatorRun.step, unknown, advertised, false_and, if_false]
        rfl
      · simp only [DismissalRun.calls, if_neg advertised]

theorem finalizeCohort_ok_iff
    {health : LibraryHealth} {triggered : Except String Unit}
    {state : OperatorState} {id : CohortId} :
    finalizeCohort health triggered state id = .ok ↔
      id ∈ state.advertised ∧ health.phaseReads = true ∧
        (∃ phase ∈ finalizablePhases, state.runner.getCohortPhase id = some phase) ∧
          triggered = .ok () := by
  unfold finalizeCohort
  by_cases advertised : id ∈ state.advertised
  · rw [if_neg (not_not.mpr advertised)]
    cases reads : health.phaseReads with
    | false => simp
    | true =>
        cases state.runner.getCohortPhase id with
        | none => simp
        | some phase =>
            by_cases signing : phase ∈ finalizablePhases
            · cases triggered with
              | ok done => simp [signing, advertised]
              | error message => simp [signing]
            · simp [signing]
  · rw [if_pos advertised]
    simp [advertised]

theorem serves_finalizeCohort
    (id : CohortId) (health : LibraryHealth) (triggered : Except String Unit) :
    Serves options desk (.finalizeCohort id health triggered) := by
  have granted_iff :
      Granted options desk (.finalizeCohort id health triggered) ↔
        finalizeCohort health triggered desk.state id = .ok :=
    finalizeCohort_ok_iff.symm
  cases verdict : finalizeCohort health triggered desk.state id with
  | ok =>
      refine .of_granted ?_ (granted_iff.mpr verdict)
      simp only [serve, verdict]
      rfl
  | unknown =>
      refine .of_refused ?_ (by simp [granted_iff, verdict]) fun _ => ?_
      · simp only [serve, verdict]
        rfl
      · simp only [serve, verdict]
  | notSigning =>
      refine .of_refused ?_ (by simp [granted_iff, verdict]) fun _ => ?_
      · simp only [serve, verdict]
        rfl
      · simp only [serve, verdict]
  | threw =>
      refine .of_refused ?_ (by simp [granted_iff, verdict]) fun _ => ?_
      · simp only [serve, verdict]
        rfl
      · simp only [serve, verdict]

/-- The monitor's half of a dismissal clears a record or changes nothing. -/
theorem dismissEnded_cases
    (monitor : Monitor) (session : MonitorSession) (now : Nat) (id : CohortId) :
    (monitor.dismissEnded session now id = (false, monitor) ∧
      ¬ (id ∈ monitor.ended ∧
          ∀ phase, (session.lookup id).map SessionSeats.phase = some phase →
            phase ∉ displayPhases)) ∨
    ((monitor.dismissEnded session now id).1 = true ∧
      id ∈ monitor.ended ∧
        ∀ phase, (session.lookup id).map SessionSeats.phase = some phase →
          phase ∉ displayPhases) := by
  unfold Monitor.dismissEnded
  by_cases held : id ∈ monitor.ended
  · rw [if_neg (not_not.mpr held)]
    cases shown : (session.lookup id).map SessionSeats.phase with
    | none => simp [held]
    | some phase =>
        by_cases displayed : phase ∈ displayPhases
        · simp [displayed]
        · simp [displayed, held]
  · rw [if_pos held]
    simp [held]

/-- And so does the half of the cohort surface. -/
theorem forgetTerminal_sound_iff {state : OperatorState} {id : CohortId} :
    (forgetTerminal .sound state id).1 = some true ↔
      id ∈ state.terminal ∧
        ∀ phase, state.runner.getCohortPhase id = some phase →
          phase ∉ displayPhases := by
  have displayed (phase : CohortPhase) :
      (phase ∈ openPhases ∨ phase ∈ inFlightPhases) ↔ phase ∈ displayPhases :=
    List.mem_append.symm
  unfold forgetTerminal
  cases found : state.terminal.lookup id with
  | none => simp [AList.lookup_eq_none.mp found]
  | some record =>
      have held := InsertionMap.mem_of_lookup found
      simp only [displayed]
      cases shown : state.runner.getCohortPhase id with
      | none => simp [LibraryHealth.sound, held]
      | some phase =>
          by_cases live : phase ∈ displayPhases
          · simp [LibraryHealth.sound, live]
          · simp [LibraryHealth.sound, live, held]

/-- A dismissal neither source had a record for changes nothing. -/
theorem happens_dismiss_of_unheld
    {id : CohortId} {answer : Option Bool}
    (unheard :
      desk.run.monitor.dismissEnded desk.run.session desk.run.now id =
        (false, desk.run.monitor))
    (unmoved : answer ≠ some true)
    (same : forgetTerminal .sound desk.state id = (answer, desk.state)) :
    desk.happens options (.dismiss id) = desk := by
  have kept :
      desk.run.operator.step options (.forgetTerminal id .sound) =
        desk.run.operator := by
    simp only [OperatorDesk.state] at same
    simp only [OperatorRun.step, same, if_neg unmoved]
  have deleted : desk.run.deleteEnded options id = (false, desk.run) := by
    simp only [OperatorDesk.state] at same
    simp only [DismissalRun.deleteEnded, unheard, kept, same,
      decide_eq_false unmoved, Bool.or_false, Bool.and_false, Bool.false_eq_true,
      if_false]
  rw [OperatorDesk.happens, DismissalRun.step, deleted]
  rfl

theorem serves_dismissEnded (id : CohortId) :
    Serves options desk (.dismissEnded id) := by
  have told :
      (serve options desk (.dismissEnded id)).2.ok =
        ((desk.run.monitor.dismissEnded desk.run.session desk.run.now id).1 ||
          decide ((forgetTerminal .sound desk.state id).1 = some true)) := by
    simp only [serve]
    cases cleared : (desk.run.deleteEnded options id).1 with
    | true => exact cleared.symm
    | false => exact cleared.symm
  have monitored :=
    dismissEnded_cases desk.run.monitor desk.run.session desk.run.now id
  rw [show desk.run.session = desk.state.session from rfl, phase_session] at monitored
  rcases monitored with ⟨unheard, refused⟩ | ⟨cleared, held, past⟩
  · by_cases forgotten : (forgetTerminal .sound desk.state id).1 = some true
    · obtain ⟨held, past⟩ := forgetTerminal_sound_iff.mp forgotten
      refine .of_granted ?_ ⟨Or.inr held, past⟩
      rw [told, decide_eq_true forgotten, Bool.or_true]
    · refine .of_refused ?_ ?_ fun _ => ?_
      · rw [told, decide_eq_false forgotten]
        exact congrArg (· || false) (congrArg Prod.fst unheard)
      · rintro ⟨held | held, past⟩
        · exact refused ⟨held, past⟩
        · exact forgotten (forgetTerminal_sound_iff.mpr ⟨held, past⟩)
      · rcases forgetTerminal_cases .sound desk.state id with
          ⟨answer, unmoved, equality⟩ | ⟨record, found, equality⟩
        · exact happens_dismiss_of_unheld unheard unmoved equality
        · exact absurd (congrArg Prod.fst equality) forgotten
  · refine .of_granted ?_ ⟨Or.inl held, past⟩
    rw [told]
    exact congrArg (· || _) cleared

/-- Every route says ok exactly where it grants, and a route that does not and
was not broken in the middle changed nothing. -/
theorem serves (call : OperatorCall) : Serves options desk call := by
  cases call with
  | createDraft draftId body => exact serves_createDraft draftId body
  | updateDraft draftId body => exact serves_updateDraft draftId body
  | discardDraft draftId => exact serves_discardDraft draftId
  | advertiseDraft draftId minted => exact serves_advertiseDraft draftId minted
  | readvertiseExpired cohortId minted =>
      exact serves_readvertiseExpired cohortId minted
  | cancelCohort id health => exact serves_cancelCohort id health
  | finalizeCohort id health triggered =>
      exact serves_finalizeCohort id health triggered
  | pauseAdvertising => exact .of_granted rfl trivial
  | resumeAdvertising => exact .of_granted rfl trivial
  | disableBroadcast => exact .of_granted rfl trivial
  | dismissEnded id => exact serves_dismissEnded id

end Granted

end Btcr2Aggregation
