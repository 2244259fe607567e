import Btcr2Aggregation.Shared.Tos
import Btcr2Aggregation.Web.RegistrationIsolation

/-!
# The participation-terms gate

`acceptTerms` signs and posts an acceptance and keeps the cohort id it was made
for; `join` lets a participant through when that cohort id is the one to join.
The kept acceptance outlives the identity it was signed by and the terms it
names: a new identity, a start over and a reload of the configuration all leave
it, and an answer on its way lands whatever happened since the click.

So the gate binds the cohort, not the signer and not the text.  The law at the
end says when a join through the gate is covered by an acceptance of the loaded
text that the joining DID signed.
-/

namespace Btcr2Aggregation

open Tos (TermsAcceptanceInput buildTermsAcceptance)

section Envelopes

/-! ## What is signed and posted -/

/-- What `acceptTerms` reads before it awaits. -/
structure TermsCall where
  identity : Identity
  serviceDid : String
  cohortId : CohortId
  termsText : String
  acceptedAt : String
  deriving DecidableEq

/-- The hash and the signature an envelope is built with, and how a cohort id is
written. -/
structure TermsWiring where
  termsHashHex : String → String
  sign : String → Tos.TermsAcceptance → String
  cohortIdText : CohortId → String

/-- The body of `POST /v1/terms/acceptance`. -/
structure TermsEnvelope where
  acceptance : Tos.TermsAcceptance
  signature : String
  genesisDocument : Option GenesisDocument
  deriving DecidableEq

def buildTermsEnvelope (wiring : TermsWiring) (call : TermsCall) :
    TermsEnvelope :=
  let acceptance :=
    buildTermsAcceptance
      { serviceDid := call.serviceDid
        cohortId := wiring.cohortIdText call.cohortId
        termsHash := wiring.termsHashHex call.termsText
        participantDid := call.identity.did
        acceptedAt := call.acceptedAt }
  { acceptance
    signature := wiring.sign call.identity.keys acceptance
    genesisDocument := call.identity.genesisDocument }

/-- A DID and the keys it signs with. -/
def Identity.signer (identity : Identity) : String × String :=
  (identity.did, identity.keys)

/-- An envelope accepts a text for a cohort under an identity's DID and its own
signature. -/
structure TermsEnvelope.Accepts
    (wiring : TermsWiring) (envelope : TermsEnvelope) (identity : Identity)
    (termsText : String) (cohortId : CohortId) : Prop where
  participant : envelope.acceptance.participantDid = identity.did
  cohort : envelope.acceptance.cohortId = wiring.cohortIdText cohortId
  terms : envelope.acceptance.termsHash = wiring.termsHashHex termsText
  signed :
    envelope.signature = wiring.sign identity.keys envelope.acceptance

theorem accepts_buildTermsEnvelope
    (wiring : TermsWiring) (call : TermsCall) {identity : Identity}
    (same : identity.signer = call.identity.signer) :
    (buildTermsEnvelope wiring call).Accepts wiring identity call.termsText
      call.cohortId where
  participant := (congrArg Prod.fst same).symm
  cohort := rfl
  terms := rfl
  signed := by
    have keys : identity.keys = call.identity.keys := congrArg Prod.snd same
    rw [keys]
    rfl

end Envelopes

section System

/-! ## The page with its loaded configuration -/

/-- The page, what the last configuration read loaded, and the acceptance on its
way.  `acceptedWith` and `recorded` are the history a statement needs: the call
whose answer the page keeps, and every envelope the service recorded. -/
structure TermsPage where
  page : Page
  network : NetworkName
  serviceDid : Option String
  termsText : Option String
  accepting : Option TermsCall
  acceptedWith : Option TermsCall
  recorded : List TermsEnvelope

/-- The acts on the terms, the landings of awaited answers, and everything else
the page can see. -/
inductive TermsEvent where
  | configLoads
      (network : NetworkName) (serviceDid termsText : Option String)
  | acceptTerms (cohortId : CohortId) (acceptedAt : String)
  | acceptAnswered (answer : Except String String)
  | page (event : PageEvent)

/-- A landing the page's own machine allows at any time; here it comes from
`acceptAnswered` alone. -/
def PageEvent.recordsTerms : PageEvent → Bool
  | .termsRecorded _ => true
  | _ => false

/-- The cohort a join is for. -/
def TermsEvent.joins? : TermsEvent → Option CohortId
  | .page (.join cohortId _) => some cohortId
  | _ => none

namespace TermsPage

/-- The configuration the page's own functions read now. -/
def config (base : PageConfig) (state : TermsPage) : PageConfig :=
  { base with
    network := state.network
    termsText := state.termsText }

/-- A present, non-empty text. -/
def truthy (text : Option String) : Option String :=
  text.filter (· ≠ "")

def fresh (base : PageConfig) : TermsPage where
  page := Page.fresh
  network := base.network
  serviceDid := none
  termsText := none
  accepting := none
  acceptedWith := none
  recorded := []

/-- Show the documented failure, or clear it. -/
def setTermsError (message : Option String) (page : Page) : Page :=
  { page with termsError := message }

/-- The call `acceptTerms` makes, when it has what it signs with. -/
def termsCall? (state : TermsPage) (cohortId : CohortId) (acceptedAt : String) :
    Option TermsCall := do
  let identity ← state.page.identity
  let serviceDid ← truthy state.serviceDid
  let termsText ← truthy state.termsText
  return { identity, serviceDid, cohortId, termsText, acceptedAt }

/-- `acceptTerms` up to the awaited post; a second click is ignored while the
first is on its way. -/
def acceptTerms
    (state : TermsPage) (cohortId : CohortId) (acceptedAt : String) :
    TermsPage :=
  if state.accepting.isSome then
    state
  else
    match state.termsCall? cohortId acceptedAt with
    | none =>
        { state with
          page := setTermsError (some termsAcceptanceFailed) state.page }
    | some call =>
        { state with
          accepting := some call
          page := setTermsError none state.page }

/-- The answer to the post: a hash is kept for the cohort of the call. -/
def acceptAnswered
    (wiring : TermsWiring) (base : PageConfig) (state : TermsPage)
    (answer : Except String String) : TermsPage :=
  match state.accepting, answer with
  | none, _ => state
  | some call, .ok hash =>
      { state with
        accepting := none
        acceptedWith := some call
        recorded := buildTermsEnvelope wiring call :: state.recorded
        page :=
          state.page.step (state.config base)
            (.termsRecorded { cohortId := call.cohortId, hash }) }
  | some _, .error _ =>
      { state with
        accepting := none
        page := setTermsError (some termsAcceptanceFailed) state.page }

def step (wiring : TermsWiring) (base : PageConfig) (state : TermsPage) :
    TermsEvent → TermsPage
  | .configLoads network serviceDid termsText =>
      { state with network, serviceDid, termsText }
  | .acceptTerms cohortId acceptedAt => state.acceptTerms cohortId acceptedAt
  | .acceptAnswered answer => state.acceptAnswered wiring base answer
  | .page event =>
      { state with page := state.page.step (state.config base) event }

/-- An answer comes to a call on its way; an acceptance is recorded by nothing
else. -/
def Offers (base : PageConfig) (state : TermsPage) : TermsEvent → Prop
  | .configLoads _ _ _ => True
  | .acceptTerms _ _ => True
  | .acceptAnswered _ => state.accepting.isSome = true
  | .page event =>
      event.recordsTerms = false ∧ state.page.Offers (state.config base) event

end TermsPage

/-- The page and its terms under every interleaving. -/
def termsMachine (wiring : TermsWiring) (base : PageConfig) :
    Machine TermsPage TermsEvent where
  init := TermsPage.fresh base
  step := TermsPage.step wiring base
  admits := TermsPage.Offers base

end System

section Kept

/-! ## Nothing else writes the acceptance -/

variable {participant : RoundId} {before after : Page}

theorem PollWrite.termsAcceptance_eq (write : PollWrite participant before after) :
    after.termsAcceptance = before.termsAcceptance := by
  cases write with
  | fail reason _ => rw [Page.fail_eq]
  | _ => rfl

theorem Page.PollWrote.termsAcceptance_eq
    (writes : Page.PollWrote participant before after) :
    after.termsAcceptance = before.termsAcceptance := by
  induction writes with
  | refl => rfl
  | tail _ last inductionHypothesis =>
      exact last.termsAcceptance_eq.trans inductionHypothesis

theorem Page.OnlyChain.termsAcceptance_eq (only : Page.OnlyChain before after) :
    after.termsAcceptance = before.termsAcceptance := by
  rw [only]

theorem Page.termsAcceptance_onRunnerEvent
    (config : PageConfig) (event : RunnerEvent) (page : Page) :
    (page.onRunnerEvent config participant event).termsAcceptance =
      page.termsAcceptance := by
  cases event with
  | cohortJoined cohortId =>
      simp only [Page.onRunnerEvent, Page.onCohortJoined]
      split
      · rfl
      · rfl
  | cohortReady cohortId beaconAddress =>
      simp only [Page.onRunnerEvent, Page.onCohortReady_eq]
  | cohortComplete info =>
      simp only [Page.onRunnerEvent, Page.onCohortComplete_eq]
  | cohortFailed cohortId reason =>
      simp only [Page.onRunnerEvent, Page.fail_eq]
  | error message =>
      simp only [Page.onRunnerEvent, Page.onRunnerError]
      split
      · rw [Page.fail_eq]
      · rfl
  | _ => rfl

/-- Every event but the landing of an acceptance leaves it as it is. -/
theorem Page.termsAcceptance_step
    (config : PageConfig) {page : Page} {event : PageEvent}
    (offered : page.Offers config event)
    (other : ∀ acceptance, event ≠ .termsRecorded acceptance) :
    (page.step config event).termsAcceptance = page.termsAcceptance := by
  cases event with
  | adopt identity => rfl
  | termsRecorded acceptance => exact absurd rfl (other acceptance)
  | join cohortId sizing =>
      simp only [Page.step, Page.join]
      split
      · rfl
      · split
        · rfl
        · split
          · rfl
          · rw [Page.beginJoin_eq]
  | leave => simp only [Page.step, Page.leave_eq]
  | startOver => simp only [Page.step, Page.startOver_eq]
  | submitUpdate =>
      simp only [Page.step, Page.submitUpdate]
      split
      · rfl
      · rfl
  | register acknowledgeMainnet =>
      exact (page.onlyChain_register config acknowledgeMainnet).termsAcceptance_eq
  | setSigningMethod method =>
      exact (page.onlyChain_setSigningMethod method).termsAcceptance_eq
  | exportPsbt => exact page.onlyChain_exportPsbt.termsAcceptance_eq
  | submitSignedPsbt input =>
      exact (page.onlyChain_submitSignedPsbt config input).termsAcceptance_eq
  | clearPsbt => exact page.onlyChain_clearPsbt.termsAcceptance_eq
  | startResolved participant =>
      simp only [Page.step, Page.startResolved]
      split
      · rfl
      · rfl
  | startRejected participant message =>
      simp only [Page.step, Page.startRejected, Page.fail_eq]
  | runner participant event =>
      exact Page.termsAcceptance_onRunnerEvent config event page
  | provideUpdate participant cohortId beaconAddress randomness =>
      simp only [Page.step, Page.onProvideUpdate]
      split
      · rfl
      · split
        · rfl
        · rfl
        · rfl
  | directoryLands poll answer =>
      exact (page.pollWrote_directoryLands poll answer).termsAcceptance_eq
  | graceFires timer =>
      exact (page.pollWrote_graceFires offered.1).termsAcceptance_eq
  | postSeatLands poll answer =>
      exact (page.pollWrote_postSeatLands poll answer).termsAcceptance_eq
  | fateLands read canceled =>
      exact (page.pollWrote_fateLands read canceled).termsAcceptance_eq
  | fundsLand call answer randomness =>
      exact (page.onlyChain_fundsLand config call answer randomness).termsAcceptance_eq
  | broadcastLands call answer =>
      exact (page.onlyChain_broadcastLands call answer).termsAcceptance_eq
  | exportLands call answer =>
      exact (page.onlyChain_exportLands config call answer).termsAcceptance_eq

end Kept

section Law

/-! ## The law over whole runs -/

namespace TermsPage

variable (wiring : TermsWiring) (base : PageConfig)

/-- If the loaded configuration has terms and the guards of a join let it
through, the service has recorded an acceptance of these terms for this cohort
under the joining DID, signed with its keys. -/
def JoinCovered (state : TermsPage) (cohortId : CohortId) : Prop :=
  ∀ identity termsText,
    state.page.identity = some identity →
      truthy state.termsText = some termsText →
        state.page.joinAllowed (state.config base) cohortId = true →
          ∃ envelope ∈ state.recorded,
            envelope.Accepts wiring identity termsText cohortId

/-- A join under terms that its gate lets through is made by the DID with its
keys, and under the text, that the kept acceptance was asked for with. -/
def JoinsAsAccepted (state : TermsPage) (event : TermsEvent) : Prop :=
  ∀ cohortId ∈ event.joins?,
    truthy state.termsText ≠ none →
      state.page.joinAllowed (state.config base) cohortId = true →
        ∀ call ∈ state.acceptedWith,
          state.page.identity.map Identity.signer =
              some call.identity.signer ∧
            state.termsText = some call.termsText

instance (state : TermsPage) (event : TermsEvent) :
    Decidable (state.JoinsAsAccepted base event) :=
  inferInstanceAs
    (Decidable (∀ cohortId ∈ event.joins?, _ → _ → ∀ call ∈ _, _ ∧ _))

/-- The kept cohort id is the one of a call the service recorded. -/
structure KeptRecorded (state : TermsPage) : Prop where
  sameCohort :
    state.page.termsAcceptance.map TermsAcceptance.cohortId =
      state.acceptedWith.map TermsCall.cohortId
  recorded :
    ∀ call ∈ state.acceptedWith,
      buildTermsEnvelope wiring call ∈ state.recorded

variable {wiring} {base}

theorem KeptRecorded.fresh : KeptRecorded wiring (fresh base) where
  sameCohort := rfl
  recorded := by
    intro call member
    cases member

theorem KeptRecorded.acceptTerms
    {state : TermsPage} (kept : KeptRecorded wiring state)
    (cohortId : CohortId) (acceptedAt : String) :
    KeptRecorded wiring (state.acceptTerms cohortId acceptedAt) := by
  unfold TermsPage.acceptTerms
  split
  · exact kept
  · split
    · exact ⟨kept.sameCohort, kept.recorded⟩
    · exact ⟨kept.sameCohort, kept.recorded⟩

theorem KeptRecorded.acceptAnswered
    {state : TermsPage} (kept : KeptRecorded wiring state)
    (answer : Except String String) :
    KeptRecorded wiring (state.acceptAnswered wiring base answer) := by
  unfold TermsPage.acceptAnswered
  split
  · exact kept
  · next call hash =>
      exact
        { sameCohort := rfl
          recorded := by
            rintro _ ⟨rfl⟩
            exact List.mem_cons_self }
  · exact ⟨kept.sameCohort, kept.recorded⟩

theorem KeptRecorded.step
    {state : TermsPage} {event : TermsEvent}
    (kept : KeptRecorded wiring state) (offered : state.Offers base event) :
    KeptRecorded wiring (state.step wiring base event) := by
  cases event with
  | configLoads network serviceDid termsText =>
      exact ⟨kept.sameCohort, kept.recorded⟩
  | acceptTerms cohortId acceptedAt => exact kept.acceptTerms cohortId acceptedAt
  | acceptAnswered answer => exact kept.acceptAnswered answer
  | page event =>
      have other : ∀ acceptance, event ≠ .termsRecorded acceptance := by
        rintro acceptance rfl
        cases offered.1
      have same :=
        Page.termsAcceptance_step (state.config base) offered.2 other
      refine ⟨?_, kept.recorded⟩
      rw [TermsPage.step]
      dsimp only
      rw [same]
      exact kept.sameCohort

/-- A non-empty loaded text is what the gate asks about. -/
theorem termsRequired_of_truthy
    (base : PageConfig) {state : TermsPage} {termsText : String}
    (loaded : truthy state.termsText = some termsText) :
    (state.config base).termsRequired = true ∧
      state.termsText = some termsText := by
  obtain ⟨present, nonEmpty⟩ := Option.filter_eq_some_iff.mp loaded
  refine ⟨?_, present⟩
  simp only [PageConfig.termsRequired, config, present, ne_eq,
    Option.some.injEq, reduceCtorEq, not_false_eq_true, true_and,
    decide_eq_true_eq]
  simpa using nonEmpty

/-- What a join of the condition is covered by: the kept acceptance. -/
theorem KeptRecorded.joinCovered
    {state : TermsPage} (kept : KeptRecorded wiring state)
    {cohortId : CohortId} {sizing : Option CohortSizing}
    (asAccepted :
      state.JoinsAsAccepted base (.page (.join cohortId sizing))) :
    state.JoinCovered wiring base cohortId := by
  intro identity termsText inHand loaded allowed
  obtain ⟨required, present⟩ := termsRequired_of_truthy base loaded
  have accepted :
      termsAcceptedFor state.page.termsAcceptance cohortId = true := by
    have guards := of_decide_eq_true allowed
    by_contra refused
    exact guards.2.2 ⟨required, by simpa using refused⟩
  have sameCohort : state.acceptedWith.map TermsCall.cohortId = some cohortId := by
    rw [← kept.sameCohort]
    exact of_decide_eq_true accepted
  obtain ⟨call, held, rfl⟩ := Option.map_eq_some_iff.mp sameCohort
  have terms : truthy state.termsText ≠ none := by
    rw [loaded]
    exact Option.some_ne_none termsText
  obtain ⟨sameSigner, sameText⟩ := asAccepted _ rfl terms allowed call held
  rw [inHand] at sameSigner
  rw [present] at sameText
  have textEq : termsText = call.termsText := Option.some.inj sameText
  refine ⟨_, kept.recorded call held, ?_⟩
  rw [textEq]
  exact accepts_buildTermsEnvelope wiring call (Option.some.inj sameSigner)

end TermsPage

/-- **The terms gate.** Along every run whose joins are made as accepted, each
join through the gate is covered by a recorded acceptance of the loaded text
for that cohort, signed by the joining DID. -/
theorem joinCovered_of_admits
    (wiring : TermsWiring) (base : PageConfig) (events : List TermsEvent)
    (cohortId : CohortId) (sizing : Option CohortSizing)
    (admissible :
      ((termsMachine wiring base).restrict
        (TermsPage.JoinsAsAccepted base)).Admits
          (events ++ [.page (.join cohortId sizing)])) :
    ((termsMachine wiring base).run events).JoinCovered wiring base
      cohortId := by
  have always :
      ((termsMachine wiring base).restrict
        (TermsPage.JoinsAsAccepted base)).Always
          (TermsPage.KeptRecorded wiring) := by
    apply Machine.Always.of_inductive
    · exact TermsPage.KeptRecorded.fresh
    · intro state event kept offered
      exact kept.step offered.1
  obtain ⟨before, offered⟩ := (Machine.admits_concat_iff _ _ _).mp admissible
  exact (always events before).joinCovered offered.2

instance (base : PageConfig) (state : TermsPage) :
    ∀ event, Decidable (state.Offers base event)
  | .configLoads _ _ _ => isTrue trivial
  | .acceptTerms _ _ => isTrue trivial
  | .acceptAnswered _ => inferInstanceAs (Decidable (_ = true))
  | .page event =>
      have := state.page.decidableOffers (state.config base) event
      inferInstanceAs (Decidable (_ = false ∧ _))

instance (wiring : TermsWiring) (base : PageConfig) (state : TermsPage)
    (event : TermsEvent) :
    Decidable ((termsMachine wiring base).admits state event) :=
  inferInstanceAs (Decidable (state.Offers base event))

/-- Texts hash to themselves and keys sign with their own name. -/
def plainWiring : TermsWiring where
  termsHashHex text := text
  sign keys _ := keys
  cohortIdText cohortId := toString cohortId

/-- One identity reads the terms and accepts them for cohort `0`. -/
def acceptsForCohort : List TermsEvent :=
  [.configLoads .mutinynet (some "service") (some "terms"),
    .page (.adopt keyIdentity), .acceptTerms 0 "now",
    .acceptAnswered (.ok "hash")]

theorem joinCovered_of_admits_accepted :
    ((termsMachine plainWiring plainConfig).run
      acceptsForCohort).JoinCovered plainWiring plainConfig 0 :=
  joinCovered_of_admits plainWiring plainConfig acceptsForCohort 0 none
    (by decide +kernel)

/-- The gate's binding as a promise about every run. -/
def GatePromise : Prop :=
  ∀ wiring base events cohortId sizing,
    (termsMachine wiring base).Admits
        (events ++ [.page (.join cohortId sizing)]) →
      ((termsMachine wiring base).run events).JoinCovered wiring base cohortId

/-- After the acceptance the user takes another identity. -/
def acceptsThenSwitches : List TermsEvent :=
  acceptsForCohort ++ [.page (.adopt secondIdentity)]

theorem not_gatePromise : ¬ GatePromise := by
  intro promise
  have covered :=
    promise plainWiring plainConfig acceptsThenSwitches 0 none
      (by decide +kernel) secondIdentity "terms" (by decide +kernel)
      (by decide +kernel) (by decide +kernel)
  have recordedDids :
      ((termsMachine plainWiring plainConfig).run
          acceptsThenSwitches).recorded.map
        (fun envelope => envelope.acceptance.participantDid) =
        [keyIdentity.did] := by
    decide +kernel
  obtain ⟨envelope, recorded, accepts⟩ := covered
  have member : envelope.acceptance.participantDid ∈ [keyIdentity.did] := by
    rw [← recordedDids]
    exact List.mem_map.mpr ⟨envelope, recorded, rfl⟩
  rw [List.mem_singleton, accepts.participant] at member
  exact absurd member (by decide +kernel)

end Law

end Btcr2Aggregation
