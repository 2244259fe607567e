import Btcr2Aggregation.Library.Machine
import Btcr2Aggregation.Service.CompletionLog

/-!
# What a completion record says after the confirmation

`signing-complete` files a record with the script-path tag and the seats of that
moment; a confirmed frame replaces it, reading the tag off the record and the
seats off the session, or off the entry once the session has let the cohort go.
Records and entries are bounded and dismissable, and the session forgets, so the
promotion can find less than the completion filed.

The run keeps what each completion captured, which cohorts a confirmed frame
wrote last, which cohorts the session gave other seats since their completion,
and the log of the calls.
-/

namespace Btcr2Aggregation

open InsertionMap

section System

/-! ## Runs of the monitor -/

/-- What a completion captured. -/
structure CompletionFacts where
  viaFallback : Bool
  seatsJoined : Nat
  capacity : Nat
  deriving DecidableEq, Repr

/-- The seats a session change compares. -/
def SessionSeats.tally (seats : SessionSeats) : Nat × Nat :=
  (seats.joined, seats.minParticipants)

/-- The cohorts that a session change takes up, or gives other seats. -/
def reseats (before after : MonitorSession) : List CohortId :=
  after.keys.filter fun cohortId =>
    (after.lookup cohortId).map SessionSeats.tally ≠
      (before.lookup cohortId).map SessionSeats.tally

/-- The monitor with the session and the clock it reads, and the history of the
completions.  `confirmed` are the cohorts whose last terminal write was that of
a confirmed frame, `reseated` those that a session change reseated since their
completion, and `log` has the newest call first. -/
structure MonitorRun where
  monitor : Monitor
  session : MonitorSession
  now : Nat
  fellBack : List CohortId
  facts : InsertionMap CohortId CompletionFacts
  confirmed : List CohortId
  reseated : List CohortId
  log : List MonitorCall

/-- The clock moves, the session changes, or the monitor is called. -/
inductive MonitorRunEvent where
  | clock (now : Nat)
  | session (session : MonitorSession)
  | monitor (event : MonitorEvent)

namespace MonitorRun

def created (mode : ServiceMode) : MonitorRun where
  monitor := .created mode
  session := ∅
  now := 0
  fellBack := []
  facts := ∅
  confirmed := []
  reseated := []
  log := []

/-- The record of a cohort is replaced by one that confirms nothing. -/
def unconfirm (run : MonitorRun) (cohortId : CohortId) : MonitorRun :=
  { run with confirmed := run.confirmed.filter (· ≠ cohortId) }

/-- What a completion captures: the path taken, or a fallback begun before, and
the seats of that moment. -/
def capture (run : MonitorRun) (cohortId : CohortId) (scriptPath : Bool) :
    CompletionFacts where
  viaFallback := scriptPath || cohortId ∈ run.fellBack
  seatsJoined := (run.monitor.snapshotSeats run.session cohortId).1
  capacity := (run.monitor.snapshotSeats run.session cohortId).2

/-- The history of one call. -/
def record (run : MonitorRun) : MonitorEvent → MonitorRun
  | .notice (.fallbackStarted cohortId) =>
      { run with fellBack := cohortId :: run.fellBack }
  | .notice (.signingComplete cohortId scriptPath) =>
      { run.unconfirm cohortId with
        facts := run.facts.insert cohortId (run.capture cohortId scriptPath)
        reseated := run.reseated.filter (· ≠ cohortId) }
  | .notice (.cohortFailed cohortId _) => run.unconfirm cohortId
  | .frame (.failed cohortId _) => run.unconfirm cohortId
  | .frame (.anchored cohortId _ true) =>
      { run with confirmed := cohortId :: run.confirmed }
  | .noteCanceled cohortId => run.unconfirm cohortId
  | _ => run

def step (run : MonitorRun) : MonitorRunEvent → MonitorRun
  | .clock now => { run with now }
  | .session session =>
      { run with
        session
        reseated := reseats run.session session ++ run.reseated }
  | .monitor event =>
      { run.record event with
        monitor := run.monitor.step run.session run.now event
        log := ⟨run.monitor, run.session, event⟩ :: run.log }

end MonitorRun

/-- The monitor under every order of calls. -/
def monitorMachine (mode : ServiceMode) :
    Machine MonitorRun MonitorRunEvent where
  init := .created mode
  step := MonitorRun.step
  admits _ _ := True

end System

section Law

/-! ## The law -/

/-- The chip of a confirmed completion. -/
def CompletionFacts.chip (facts : CompletionFacts) : EndedChip :=
  if facts.viaFallback then .fallback else .anchored

structure CompletionFactsKept (run : MonitorRun) : Prop where
  /-- A record a confirmed frame wrote says what the completion captured. -/
  promoted :
    ∀ cohortId ∈ run.confirmed,
      ∀ facts ∈ run.facts.lookup cohortId,
        ∀ record ∈ run.monitor.ended.lookup cohortId,
          record.chip = facts.chip ∧
            record.seatsJoined = facts.seatsJoined ∧
            record.capacity = facts.capacity
  /-- A confirmed frame leaves a record. -/
  recorded :
    ∀ cohortId txid,
      cohortId ∈
        (run.monitor.onFrame run.session run.now
          (.anchored cohortId txid true)).ended
  /-- An unconfirmed frame moves no metric. -/
  unconfirmed :
    ∀ cohortId txid,
      (run.monitor.onFrame run.session run.now
          (.anchored cohortId txid false)).serviceMetrics run.session =
        run.monitor.serviceMetrics run.session
  /-- Only a confirmed frame makes a cohort count as anchored. -/
  anchored :
    ∀ cohortId,
      ∀ record ∈ run.monitor.ended.lookup cohortId,
        record.chip.countsAnchored = true → cohortId ∈ run.confirmed

/-- The seats of a completion can still be read.  The session holds the cohort
and did not reseat it since; or it has let the cohort go, and the entry, which
had these seats at the completion, was neither lost nor reseated since. -/
def MonitorRun.SeatsSpared
    (run : MonitorRun) (cohortId : CohortId) (facts : CompletionFacts) : Prop :=
  match run.session.lookup cohortId with
  | some _ => cohortId ∉ run.reseated
  | none =>
      seatsKept cohortId (facts.seatsJoined, facts.capacity) run.log = true

/-- A confirmed frame of a completed cohort finds what the completion filed: no
call since took the tag of a script-path completion, and its seats can still be
read. -/
def FactsSpared (run : MonitorRun) : MonitorRunEvent → Prop
  | .monitor (.frame (.anchored cohortId _ true)) =>
      ∀ facts ∈ run.facts.lookup cohortId,
        (facts.viaFallback = true → tagKept cohortId run.log = true) ∧
          run.SeatsSpared cohortId facts
  | _ => True

instance
    (run : MonitorRun) (cohortId : CohortId) (facts : CompletionFacts) :
    Decidable (run.SeatsSpared cohortId facts) := by
  unfold MonitorRun.SeatsSpared
  split <;> infer_instance

instance (run : MonitorRun) (event : MonitorRunEvent) :
    Decidable (FactsSpared run event) := by
  unfold FactsSpared
  split
  · exact inferInstanceAs (Decidable (∀ _ ∈ _, (_ → _) ∧ _))
  · exact isTrue trivial

end Law

section Invariant

/-! ## What one call keeps -/

namespace MonitorRun

/-- What is true of the tables whatever the environment does. -/
structure Tagged (run : MonitorRun) : Prop where
  /-- A tagged record belongs to a completion that fell back. -/
  tags :
    ∀ cohortId,
      ∀ record ∈ run.monitor.ended.lookup cohortId,
        record.viaFallback = true →
          ∃ facts,
            run.facts.lookup cohortId = some facts ∧ facts.viaFallback = true
  /-- A marked entry belongs to a cohort whose fallback began. -/
  marks :
    ∀ cohortId,
      run.monitor.MarkedFellBack cohortId → cohortId ∈ run.fellBack

/-- The part of the law that looks back. -/
structure Promoted (run : MonitorRun) : Prop where
  promoted :
    ∀ cohortId ∈ run.confirmed,
      ∀ facts ∈ run.facts.lookup cohortId,
        ∀ record ∈ run.monitor.ended.lookup cohortId,
          record.chip = facts.chip ∧
            record.seatsJoined = facts.seatsJoined ∧
            record.capacity = facts.capacity
  anchored :
    ∀ cohortId,
      ∀ record ∈ run.monitor.ended.lookup cohortId,
        record.chip.countsAnchored = true → cohortId ∈ run.confirmed

/-- A cohort that was not reseated since its completion has in the session, if
it is there, the seats of then. -/
def SeatsHeld (run : MonitorRun) : Prop :=
  ∀ cohortId, cohortId ∉ run.reseated →
    ∀ facts ∈ run.facts.lookup cohortId,
      ∀ seats ∈ run.session.lookup cohortId,
        seats.tally = (facts.seatsJoined, facts.capacity)

theorem tagged_created (mode : ServiceMode) : Tagged (created mode) where
  tags := by
    intro cohortId record member
    cases member
  marks := by
    intro cohortId marked
    cases marked

theorem promoted_created (mode : ServiceMode) : Promoted (created mode) where
  promoted := by
    intro cohortId member
    cases member
  anchored := by
    intro cohortId record member
    cases member

theorem seatsHeld_created (mode : ServiceMode) : SeatsHeld (created mode) := by
  intro cohortId _ facts captured
  cases captured

variable {run : MonitorRun} {event : MonitorEvent}

theorem tally_of_not_mem_reseats
    {before after : MonitorSession} {cohortId : CohortId} {seats : SessionSeats}
    (spared : cohortId ∉ reseats before after)
    (found : after.lookup cohortId = some seats) :
    ∃ held, before.lookup cohortId = some held ∧ held.tally = seats.tally := by
  have same :
      (after.lookup cohortId).map SessionSeats.tally =
        (before.lookup cohortId).map SessionSeats.tally := by
    by_contra different
    exact
      spared
        (List.mem_filter.mpr
          ⟨mem_of_lookup found, decide_eq_true different⟩)
  rw [found] at same
  exact Option.map_eq_some_iff.mp same.symm

/-- A session change reseats what it does not leave alone. -/
theorem SeatsHeld.session (held : SeatsHeld run) (session : MonitorSession) :
    SeatsHeld (run.step (.session session)) := by
  intro cohortId spared facts captured seats found
  obtain ⟨changed, earlier⟩ := not_or.mp (List.mem_append.not.mp spared)
  obtain ⟨before, standing, same⟩ := tally_of_not_mem_reseats changed found
  rw [← same]
  exact held cohortId earlier facts captured before standing

variable (run event) in
theorem session_record : (run.record event).session = run.session := by
  unfold record
  split <;> rfl

variable (run event) in
/-- Only a completion captures anything. -/
theorem record_captures :
    (∃ cohortId scriptPath,
        event = .notice (.signingComplete cohortId scriptPath)) ∨
      (run.record event).facts = run.facts ∧
        (run.record event).reseated = run.reseated := by
  unfold record
  split
  · exact Or.inr ⟨rfl, rfl⟩
  · next cohortId scriptPath => exact Or.inl ⟨cohortId, scriptPath, rfl⟩
  · exact Or.inr ⟨rfl, rfl⟩
  · exact Or.inr ⟨rfl, rfl⟩
  · exact Or.inr ⟨rfl, rfl⟩
  · exact Or.inr ⟨rfl, rfl⟩
  · exact Or.inr ⟨rfl, rfl⟩

/-- A completion captures the seats of the session. -/
theorem SeatsHeld.monitor (held : SeatsHeld run) (event : MonitorEvent) :
    SeatsHeld (run.step (.monitor event)) := by
  intro cohortId spared facts captured seats found
  have spared' : cohortId ∉ (run.record event).reseated := spared
  have captured' : (run.record event).facts.lookup cohortId = some facts :=
    captured
  have standing : run.session.lookup cohortId = some seats := by
    rw [← session_record run event]
    exact found
  rcases record_captures run event with
    ⟨completed, scriptPath, rfl⟩ | ⟨sameFacts, sameReseated⟩
  · by_cases same : cohortId = completed
    · subst same
      cases (AList.lookup_insert run.facts).symm.trans captured'
      simp only [capture, Monitor.snapshotSeats, standing]
      rfl
    · have earlier : cohortId ∉ run.reseated := fun member =>
        spared' (List.mem_filter.mpr ⟨member, decide_eq_true same⟩)
      have before : run.facts.lookup cohortId = some facts :=
        (AList.lookup_insert_ne same).symm.trans captured'
      exact held cohortId earlier facts before seats standing
  · rw [sameFacts] at captured'
    rw [sameReseated] at spared'
    exact held cohortId spared' facts captured' seats standing

/-- The fallbacks begun are only added to. -/
theorem mem_fellBack_record
    {cohortId : CohortId} (member : cohortId ∈ run.fellBack) :
    cohortId ∈ (run.record event).fellBack := by
  unfold record
  split
  · exact List.mem_cons_of_mem _ member
  · exact member
  · exact member
  · exact member
  · exact member
  · exact member
  · exact member

/-- An event that files nothing leaves the history of the completions. -/
theorem record_of_silent (silent : event.files? = none) :
    (run.record event).facts = run.facts ∧
      (run.record event).confirmed = run.confirmed := by
  unfold record
  split
  · exact ⟨rfl, rfl⟩
  · cases silent
  · cases silent
  · cases silent
  · cases silent
  · cases silent
  · exact ⟨rfl, rfl⟩

/-- A record filed without a tag leaves only the tags of other cohorts. -/
theorem Tagged.of_untagged
    (tagged : Tagged run) {cohortId other : CohortId}
    {written record : EndedRecord} (untagged : written.viaFallback = false)
    (found :
      (run.monitor.ended.remember maxEnded cohortId written).lookup other =
        some record)
    (isTagged : record.viaFallback = true) :
    ∃ facts,
      run.facts.lookup other = some facts ∧ facts.viaFallback = true := by
  rcases lookup_remember_cases found with ⟨_, rfl⟩ | ⟨_, before⟩
  · rw [untagged] at isTagged
    cases isTagged
  · exact tagged.tags other record before isTagged

theorem Tagged.tags_step
    (tagged : Tagged run) {after : InsertionMap CohortId EndedRecord}
    (write : run.monitor.EndedWrite run.session run.now event after)
    {other : CohortId} {record : EndedRecord}
    (found : after.lookup other = some record)
    (isTagged : record.viaFallback = true) :
    ∃ facts,
      (run.record event).facts.lookup other = some facts ∧
        facts.viaFallback = true := by
  cases write with
  | kept event silent =>
      rw [(record_of_silent silent).1]
      exact tagged.tags other record found isTagged
  | alreadyCanceled cohortId _ => exact tagged.tags other record found isTagged
  | coSigned cohortId scriptPath viaFallback source =>
      rcases lookup_remember_cases found with ⟨rfl, rfl⟩ | ⟨different, before⟩
      · refine ⟨run.capture other scriptPath, AList.lookup_insert _, ?_⟩
        have isTrue : viaFallback = true := isTagged
        rw [isTrue] at source
        rcases (Bool.or_eq_true _ _).mp source.symm with path | marked
        · simp [capture, path]
        · have fellBack := of_decide_eq_true marked
          have started := tagged.marks other fellBack
          simp [capture, started]
      · obtain ⟨facts, held, fellBack⟩ :=
          tagged.tags other record before isTagged
        exact
          ⟨facts, (AList.lookup_insert_ne different).trans held, fellBack⟩
  | failed event cohortId reason source =>
      have filed := tagged.of_untagged rfl found isTagged
      rcases source with ⟨told, rfl⟩ | ⟨told, rfl⟩
      · exact filed
      · exact filed
  | anchored cohortId txid viaFallback source =>
      rcases lookup_remember_cases found with ⟨rfl, rfl⟩ | ⟨_, before⟩
      · have isTrue : viaFallback = true := isTagged
        rw [isTrue] at source
        obtain ⟨standing, held, wasTagged⟩ :=
          Option.map_eq_some_iff.mp (of_decide_eq_true source.symm)
        exact tagged.tags other standing held wasTagged
      · exact tagged.tags other record before isTagged
  | canceled cohortId => exact tagged.of_untagged rfl found isTagged
  | dismissed cohortId _ _ =>
      exact
        tagged.tags other record (lookup_of_lookup_erase found) isTagged

theorem Tagged.monitor (tagged : Tagged run) (event : MonitorEvent) :
    Tagged (run.step (.monitor event)) where
  tags := by
    intro cohortId record found isTagged
    exact
      tagged.tags_step (run.monitor.endedWrite_step run.session run.now event)
        found isTagged
  marks := by
    intro cohortId marked
    rcases Monitor.markedFellBack_step marked with before | started
    · exact mem_fellBack_record (tagged.marks cohortId before)
    · subst started
      exact List.mem_cons_self

/-- A record filed by anything but a confirmed frame promises nothing, and its
cohort leaves the confirmed ones. -/
theorem Promoted.of_unconfirmed
    (law : Promoted run) {cohortId : CohortId} {written : EndedRecord}
    (claimsNothing : written.chip.countsAnchored = false)
    {after : MonitorRun}
    (ended :
      after.monitor.ended = run.monitor.ended.remember maxEnded cohortId written)
    (confirmed : after.confirmed = run.confirmed.filter (· ≠ cohortId))
    (facts :
      ∀ other, other ≠ cohortId →
        after.facts.lookup other = run.facts.lookup other) :
    Promoted after where
  promoted := by
    intro other member captured held record found
    rw [confirmed] at member
    obtain ⟨before, different⟩ := List.mem_filter.mp member
    have notSame : other ≠ cohortId := of_decide_eq_true different
    rw [facts other notSame] at held
    rw [ended] at found
    rcases lookup_remember_cases found with ⟨same, _⟩ | ⟨_, old⟩
    · exact absurd same notSame
    · exact law.promoted other before captured held record old
  anchored := by
    intro other record found counts
    rw [ended] at found
    rcases lookup_remember_cases found with ⟨_, rfl⟩ | ⟨different, old⟩
    · rw [claimsNothing] at counts
      cases counts
    · rw [confirmed]
      exact List.mem_filter.mpr
        ⟨law.anchored other record old counts, decide_eq_true different⟩

/-- The tag of a script-path completion is on the retained record, and the seats
read now are those captured. -/
structure FactsFound
    (run : MonitorRun) (cohortId : CohortId) (facts : CompletionFacts) :
    Prop where
  tag : facts.viaFallback = true → run.monitor.Tagged cohortId
  seats :
    run.monitor.snapshotSeats run.session cohortId =
      (facts.seatsJoined, facts.capacity)

/-- What was spared is found. -/
theorem factsFound_of_spared
    (logged : Logged run.monitor run.log) (held : SeatsHeld run)
    {cohortId : CohortId} {txid : String}
    (spared :
      FactsSpared run (.monitor (.frame (.anchored cohortId txid true))))
    {facts : CompletionFacts}
    (captured : run.facts.lookup cohortId = some facts) :
    FactsFound run cohortId facts where
  tag := by
    intro fellBack
    exact logged.tags cohortId ((spared facts captured).1 fellBack)
  seats := by
    have seats := (spared facts captured).2
    unfold MonitorRun.SeatsSpared at seats
    cases found : run.session.lookup cohortId with
    | some standing =>
        simp only [found] at seats
        rw [Monitor.snapshotSeats, found]
        exact held cohortId seats facts captured standing found
    | none =>
        simp only [found] at seats
        rw [Monitor.snapshotSeats_of_gone found]
        exact logged.seats cohortId _ seats

/-- A confirmed frame under the condition writes what the completion
captured. -/
theorem Promoted.confirmedFrame
    (law : Promoted run) (tagged : Tagged run) {cohortId : CohortId}
    {viaFallback : Bool}
    (finds :
      ∀ facts,
        run.facts.lookup cohortId = some facts →
          FactsFound run cohortId facts)
    (source :
      viaFallback =
        decide
          ((run.monitor.ended.lookup cohortId).map EndedRecord.viaFallback =
            some true))
    {after : MonitorRun}
    (ended :
      after.monitor.ended =
        run.monitor.ended.remember maxEnded cohortId
          { chip := if viaFallback then .fallback else .anchored
            seatsJoined :=
              (run.monitor.snapshotSeats run.session cohortId).1
            capacity := (run.monitor.snapshotSeats run.session cohortId).2
            reason := none
            viaFallback
            recordedAt := run.now })
    (confirmed : after.confirmed = cohortId :: run.confirmed)
    (facts : after.facts = run.facts) :
    Promoted after where
  promoted := by
    intro other member captured held record found
    rw [facts] at held
    rw [ended] at found
    rcases lookup_remember_cases found with ⟨rfl, rfl⟩ | ⟨different, old⟩
    · obtain ⟨keepsTag, seats⟩ := finds captured held
      have sameTag : viaFallback = captured.viaFallback := by
        cases fellBack : captured.viaFallback with
        | true =>
            rw [source, decide_eq_true_eq]
            exact keepsTag fellBack
        | false =>
            rw [source, decide_eq_false_iff_not]
            intro marked
            obtain ⟨standing, isStanding, wasTagged⟩ :=
              Option.map_eq_some_iff.mp marked
            obtain ⟨facts', held', fellBack'⟩ :=
              tagged.tags other standing isStanding wasTagged
            rw [Option.some.inj (held'.symm.trans held), fellBack] at fellBack'
            cases fellBack'
      rw [sameTag, seats]
      exact ⟨rfl, rfl, rfl⟩
    · rw [confirmed] at member
      have before := List.mem_of_ne_of_mem different member
      exact law.promoted other before captured held record old
  anchored := by
    intro other record found counts
    rw [confirmed]
    rw [ended] at found
    rcases lookup_remember_cases found with ⟨rfl, _⟩ | ⟨_, old⟩
    · exact List.mem_cons_self
    · exact List.mem_cons_of_mem _ (law.anchored other record old counts)

theorem Promoted.monitor
    (law : Promoted run) (tagged : Tagged run)
    (logged : Logged run.monitor run.log) (held : SeatsHeld run)
    (event : MonitorEvent) (spared : FactsSpared run (.monitor event)) :
    Promoted (run.step (.monitor event)) := by
  have write := run.monitor.endedWrite_step run.session run.now event
  generalize written : (run.monitor.step run.session run.now event).ended =
    after at write
  have ended : (run.step (.monitor event)).monitor.ended = after := written
  cases write with
  | kept event silent =>
      have history :
          (run.record event).facts = run.facts ∧
            (run.record event).confirmed = run.confirmed :=
        record_of_silent silent
      exact
        { promoted := by
            intro other member captured held record found
            rw [ended] at found
            have member' : other ∈ (run.record event).confirmed := member
            have held' : (run.record event).facts.lookup other = some captured :=
              held
            rw [history.2] at member'
            rw [history.1] at held'
            exact law.promoted other member' captured held' record found
          anchored := by
            intro other record found counts
            rw [ended] at found
            have member := law.anchored other record found counts
            rw [← history.2] at member
            exact member }
  | alreadyCanceled cohortId already =>
      exact
        { promoted := by
            intro other member captured held record found
            rw [ended] at found
            exact
              law.promoted other (List.mem_filter.mp member).1 captured held
                record found
          anchored := by
            intro other record found counts
            rw [ended] at found
            refine List.mem_filter.mpr
              ⟨law.anchored other record found counts, decide_eq_true ?_⟩
            rintro rfl
            obtain ⟨standing, isStanding, chip⟩ :=
              Option.map_eq_some_iff.mp already
            rw [Option.some.inj (found.symm.trans isStanding), chip] at counts
            cases counts }
  | coSigned cohortId scriptPath viaFallback source =>
      refine law.of_unconfirmed ?_ ended rfl ?_
      · cases viaFallback <;> rfl
      · intro other different
        exact AList.lookup_insert_ne different
  | failed event cohortId reason source =>
      rcases source with ⟨told, rfl⟩ | ⟨told, rfl⟩
      · exact law.of_unconfirmed rfl ended rfl fun _ _ => rfl
      · exact law.of_unconfirmed rfl ended rfl fun _ _ => rfl
  | anchored cohortId txid viaFallback source =>
      have finds (facts : CompletionFacts)
          (captured : run.facts.lookup cohortId = some facts) :
          FactsFound run cohortId facts :=
        factsFound_of_spared logged held spared captured
      exact law.confirmedFrame tagged finds source ended rfl rfl
  | canceled cohortId =>
      exact law.of_unconfirmed rfl ended rfl fun _ _ => rfl
  | dismissed cohortId _ _ =>
      exact
        { promoted := by
            intro other member captured held record found
            rw [ended] at found
            exact
              law.promoted other member captured held record
                (lookup_of_lookup_erase found)
          anchored := by
            intro other record found counts
            rw [ended] at found
            exact
              law.anchored other record (lookup_of_lookup_erase found) counts }

/-- The law of a state from its two halves. -/
theorem Promoted.completionFactsKept (law : Promoted run) :
    CompletionFactsKept run where
  promoted := law.promoted
  recorded := by
    intro cohortId txid
    simp only [Monitor.onFrame, if_true, Monitor.onAnchored,
      Monitor.rememberEnded]
    exact mem_of_lookup (lookup_remember_self (by decide) _ _ _)
  unconfirmed := by
    intro cohortId txid
    rfl
  anchored := law.anchored

end MonitorRun

end Invariant

section Runs

/-! ## The law over whole runs -/

instance (mode : ServiceMode) (run : MonitorRun) (event : MonitorRunEvent) :
    Decidable ((monitorMachine mode).admits run event) :=
  inferInstanceAs (Decidable True)

/-- **Completion records.** Along every run whose confirmed frames find their
facts spared, a record written by one says what the cohort's own completion
captured, and nothing else counts as anchored. -/
theorem completionFactsKept_of_factsSpared
    (mode : ServiceMode) (events : List MonitorRunEvent)
    (admissible :
      ((monitorMachine mode).restrict FactsSpared).Admits events) :
    CompletionFactsKept ((monitorMachine mode).run events) := by
  have always :
      ((monitorMachine mode).restrict FactsSpared).Always
        fun run =>
          run.Tagged ∧ Logged run.monitor run.log ∧ run.SeatsHeld ∧
            run.Promoted := by
    apply Machine.Always.of_inductive
    · exact
        ⟨MonitorRun.tagged_created mode, Logged.created mode,
          MonitorRun.seatsHeld_created mode, MonitorRun.promoted_created mode⟩
    · rintro run event ⟨tagged, logged, held, law⟩ ⟨_, spared⟩
      cases event with
      | clock now =>
          exact
            ⟨⟨tagged.tags, tagged.marks⟩, logged, held,
              ⟨law.promoted, law.anchored⟩⟩
      | session session =>
          exact
            ⟨⟨tagged.tags, tagged.marks⟩, logged, held.session session,
              ⟨law.promoted, law.anchored⟩⟩
      | monitor event =>
          have next :
              Logged (run.step (.monitor event)).monitor
                (run.step (.monitor event)).log :=
            Logged.call ⟨run.monitor, run.session, event⟩ logged run.now
          exact
            ⟨tagged.monitor event, next, held.monitor event,
              law.monitor tagged logged held event spared⟩
  exact (always events admissible).2.2.2.completionFactsKept

/-- A session that co-signs cohort `0` with two seats. -/
def coSigningPair : MonitorSession :=
  InsertionMap.set ∅ 0
    { phase := .awaitingPartialSigs, joined := 2, minParticipants := 2 }

/-- Cohort `0` seats two, falls back and completes, and its anchor confirms once
the session has let it go. -/
def fallsBackAndConfirms : List MonitorRunEvent :=
  [.session coSigningPair, .monitor (.notice (.participantAccepted 0 "a")),
    .monitor (.notice (.participantAccepted 0 "b")),
    .monitor (.notice (.fallbackStarted 0)),
    .monitor (.notice (.signingComplete 0 false)), .session ∅,
    .monitor (.frame (.anchored 0 "t" true))]

theorem completionFactsKept_of_factsSpared_confirms :
    CompletionFactsKept
      ((monitorMachine .live).run fallsBackAndConfirms) :=
  completionFactsKept_of_factsSpared .live fallsBackAndConfirms
    (by decide +kernel)

/-- The records' truth as a promise about every order of calls. -/
def CompletionPromise : Prop :=
  ∀ mode events,
    (monitorMachine mode).Admits events →
      CompletionFactsKept ((monitorMachine mode).run events)

/-- The operator dismisses the co-signed row between the completion and the
confirmation, when the session has let the cohort go. -/
def dismissedMidAnchor : List MonitorRunEvent :=
  [.session coSigningPair, .monitor (.notice (.signingComplete 0 true)),
    .session ∅, .monitor (.dismissEnded 0),
    .monitor (.frame (.anchored 0 "t" true))]

theorem not_completionPromise : ¬ CompletionPromise := by
  intro promise
  have law := promise .live dismissedMidAnchor (by decide +kernel)
  have promoted :=
    law.promoted 0 (by decide +kernel)
      { viaFallback := true, seatsJoined := 2, capacity := 2 }
      (by decide +kernel)
      { chip := .anchored
        seatsJoined := 0
        capacity := 0
        reason := none
        viaFallback := false
        recordedAt := 0 }
      (by decide +kernel)
  exact absurd promoted (by decide +kernel)

end Runs

end Btcr2Aggregation
