import Btcr2Aggregation.Service.OperatorRuns

/-!
# Conservation of drafts and cohorts

Every id ever minted is in exactly one place: the drafts, the advertised
cohorts, the terminal records, or the ledger of departures, under one cause.
-/

namespace Btcr2Aggregation

/-- Where an id can be. -/
inductive Place where
  | draft
  | advertised
  | terminal
  | gone (cause : Departure)
  deriving DecidableEq, Repr

/-- Every place an id is in. -/
def placesOf (run : OperatorRun) (id : CohortId) : List Place :=
  (if id ∈ run.state.drafts then [.draft] else []) ++
    (if id ∈ run.state.advertised then [.advertised] else []) ++
    (if id ∈ run.state.terminal then [.terminal] else []) ++
    (run.gone.filter fun departure => departure.1 = id).map
      fun departure => .gone departure.2

section Balance

/-! ## The balance of one id -/

/-- One for a fact that holds. -/
abbrev indicator (fact : Prop) [Decidable fact] : Nat :=
  if fact then 1 else 0

theorem indicator_congr {fact other : Prop} [Decidable fact] [Decidable other]
    (same : fact ↔ other) : indicator fact = indicator other := by
  simp [indicator, same]

theorem indicator_le_one (fact : Prop) [Decidable fact] : indicator fact ≤ 1 := by
  rw [indicator]
  split
  · exact Nat.le_refl 1
  · exact Nat.zero_le 1

/-- How often an id departed. -/
def departures (gone : List (CohortId × Departure)) (id : CohortId) : Nat :=
  (gone.map Prod.fst).count id

@[simp]
theorem departures_cons
    (departure : CohortId × Departure) (gone : List (CohortId × Departure))
    (id : CohortId) :
    departures (departure :: gone) id =
      departures gone id + indicator (departure.1 = id) := by
  rw [departures, List.map_cons, List.count_cons]
  simp [departures]

@[simp]
theorem departures_evicted
    {ids : List CohortId} (distinct : ids.Nodup)
    (gone : List (CohortId × Departure)) (id : CohortId) :
    departures (ids.map (fun dropped => (dropped, .evicted)) ++ gone) id =
      indicator (id ∈ ids) + departures gone id := by
  have firsts :
      (ids.map fun dropped => (dropped, Departure.evicted)).map Prod.fst =
        ids := by
    rw [List.map_map]
    exact List.map_id ids
  rw [departures, List.map_append, List.count_append, firsts, departures]
  congr 1
  by_cases member : id ∈ ids
  · rw [List.count_eq_one_of_mem distinct member]
    exact (if_pos member).symm
  · rw [List.count_eq_zero_of_not_mem member]
    exact (if_neg member).symm

/-- A key of a bounded table is kept or dropped. -/
theorem indicator_evictPast
    {Value : Type} (cap : Nat) (table : InsertionMap CohortId Value)
    (id : CohortId) :
    indicator (id ∈ table.evictPast cap) +
        indicator (id ∈ table.droppedPast cap) =
      indicator (id ∈ table) := by
  by_cases kept : id ∈ table.evictPast cap
  · have member := InsertionMap.mem_of_mem_evictPast kept
    have notDropped : id ∉ table.droppedPast cap :=
      fun dropped => (InsertionMap.mem_droppedPast.mp dropped).2 kept
    simp [indicator, kept, member, notDropped]
  · by_cases member : id ∈ table
    · have dropped : id ∈ table.droppedPast cap :=
        InsertionMap.mem_droppedPast.mpr ⟨member, kept⟩
      simp [indicator, kept, member, dropped]
    · have notDropped : id ∉ table.droppedPast cap :=
        fun dropped => member (InsertionMap.mem_droppedPast.mp dropped).1
      simp [indicator, kept, member, notDropped]

/-- How many places an id is in. -/
def balance (run : OperatorRun) (id : CohortId) : Nat :=
  indicator (id ∈ run.state.drafts) + indicator (id ∈ run.state.advertised) +
    indicator (id ∈ run.state.terminal) + departures run.gone id

theorem length_placesOf (run : OperatorRun) (id : CohortId) :
    (placesOf run id).length = balance run id := by
  have single (fact : Prop) [Decidable fact] (place : Place) :
      (if fact then [place] else []).length = indicator fact := by
    split <;> rfl
  have gone :
      (run.gone.filter fun departure => departure.1 = id).length =
        departures run.gone id := by
    rw [departures, List.count, List.countP_map, List.countP_eq_length_filter]
    congr 1
  simp only [placesOf, balance, List.length_append, single, List.length_map,
    gone]

/-- Minted once, held once. -/
def Balanced (run : OperatorRun) : Prop :=
  ∀ id, balance run id = indicator (id ∈ run.created)

end Balance

section Steps

/-! ## One event at a time -/

open OperatorRun

variable {options : OperatorOptions} {run : OperatorRun}

theorem Balanced.frame
    {run after : OperatorRun} (balanced : Balanced run)
    (drafts : after.state.drafts = run.state.drafts)
    (advertised : after.state.advertised = run.state.advertised)
    (terminal : after.state.terminal = run.state.terminal)
    (gone : after.gone = run.gone)
    (created : after.created = run.created) :
    Balanced after := by
  intro id
  have before := balanced id
  rw [balance] at before ⊢
  rw [drafts, advertised, terminal, gone, created]
  exact before

theorem Balanced.notMem_of_fresh (balanced : Balanced run) {id : CohortId}
    (fresh : id ∉ run.created) :
    id ∉ run.state.drafts ∧ id ∉ run.state.advertised ∧
      id ∉ run.state.terminal ∧ departures run.gone id = 0 := by
  have nowhere := balanced id
  rw [indicator, if_neg fresh, balance] at nowhere
  refine ⟨?_, ?_, ?_, ?_⟩
  · intro member
    rw [indicator, if_pos member] at nowhere
    omega
  · intro member
    rw [indicator, indicator, if_pos member] at nowhere
    omega
  · intro member
    simp only [indicator, if_pos member] at nowhere
    omega
  · omega

theorem Balanced.createDraft (balanced : Balanced run) {draftId : CohortId}
    (fresh : draftId ∉ run.created) (input : DraftInput) :
    Balanced (run.step options (.createDraft draftId input)) := by
  simp only [step, Btcr2Aggregation.createDraft]
  split
  · next entry answer =>
    split at answer
    · cases answer
    · next entry judged =>
      intro id
      have before := balanced id
      have nowhere := balanced.notMem_of_fresh fresh
      by_cases same : id = draftId
      · subst same
        simp_all [balance, indicator]
      · simp_all [balance, indicator]
  · next message answer =>
    split at answer
    · exact balanced.frame rfl rfl rfl rfl rfl
    · cases answer

theorem Balanced.updateDraft (balanced : Balanced run) (draftId : CohortId)
    (input : DraftInput) :
    Balanced (run.step options (.updateDraft draftId input)) := by
  simp only [step, Btcr2Aggregation.updateDraft]
  split
  · next present =>
    split
    · exact balanced.frame rfl rfl rfl rfl rfl
    · next entry judged =>
      intro id
      have before := balanced id
      by_cases same : id = draftId
      · subst same
        simpa [balance, indicator, present] using before
      · simpa [balance, indicator, same] using before
  · exact balanced.frame rfl rfl rfl rfl rfl

theorem Balanced.discardDraft (balanced : Balanced run) (draftId : CohortId) :
    Balanced (run.step options (.discardDraft draftId)) := by
  intro id
  have before := balanced id
  by_cases present : draftId ∈ run.state.drafts
  · by_cases same : id = draftId
    · subst same
      simp_all [step, Btcr2Aggregation.discardDraft, balance, indicator]
      omega
    · have other := Ne.symm same
      simp_all [step, Btcr2Aggregation.discardDraft, balance, indicator]
  · by_cases same : id = draftId
    · subst same
      simp_all [step, Btcr2Aggregation.discardDraft, balance, indicator]
    · simp_all [step, Btcr2Aggregation.discardDraft, balance, indicator]

/-- Both advertise paths: an id leaves its table, and a fresh one enters the
advertised cohorts. -/
theorem Balanced.advertiseDraft (balanced : Balanced run) (draftId : CohortId)
    {minted : Option CohortId}
    (fresh : ∀ id ∈ minted, id ∉ run.created) :
    Balanced (run.step options (.advertiseDraft draftId minted)) := by
  rcases step_advertiseDraft_cases options run draftId minted with
    equality | ⟨entry, cohortId, -, found, rfl, equality⟩
  · rw [equality]
    exact balanced
  · obtain ⟨windowTimers, -, launched⟩ :=
      launch_eq options
        { run.state with drafts := run.state.drafts.erase draftId } cohortId
        entry.config entry.windows
    have nowhere := balanced.notMem_of_fresh (fresh cohortId rfl)
    have present : draftId ∈ run.state.drafts :=
      InsertionMap.mem_of_lookup found
    have different : draftId ≠ cohortId :=
      ne_of_mem_of_not_mem present nowhere.1
    rw [equality, launched]
    intro id
    have before := balanced id
    by_cases minted : id = cohortId
    · subst minted
      simp_all [balance, indicator]
    · by_cases same : id = draftId
      · subst same
        simp_all [balance, indicator]
        omega
      · have other : ¬ draftId = id := fun equal => same equal.symm
        simp_all [balance, indicator]

theorem Balanced.readvertiseExpired (balanced : Balanced run)
    (expired : CohortId) {minted : Option CohortId}
    (fresh : ∀ id ∈ minted, id ∉ run.created) :
    Balanced (run.step options (.readvertiseExpired expired minted)) := by
  rcases step_readvertiseExpired_cases options run expired minted with
    equality | ⟨record, cohortId, -, found, rfl, equality⟩
  · rw [equality]
    exact balanced
  · obtain ⟨windowTimers, -, launched⟩ :=
      launch_eq options
        { run.state with terminal := run.state.terminal.erase expired } cohortId
        record.config record.windows
    have nowhere := balanced.notMem_of_fresh (fresh cohortId rfl)
    have present : expired ∈ run.state.terminal :=
      InsertionMap.mem_of_lookup found
    have different : expired ≠ cohortId :=
      ne_of_mem_of_not_mem present nowhere.2.2.1
    rw [equality, launched]
    intro id
    have before := balanced id
    by_cases minted : id = cohortId
    · subst minted
      simp_all [balance, indicator]
    · by_cases same : id = expired
      · subst same
        simp_all [balance, indicator]
        omega
      · have other : ¬ expired = id := fun equal => same equal.symm
        simp_all [balance, indicator]

theorem Balanced.forgetTerminal (balanced : Balanced run) (cohortId : CohortId)
    (health : LibraryHealth) :
    Balanced (run.step options (.forgetTerminal cohortId health)) := by
  rcases step_forgetTerminal_cases options run cohortId health with
    equality | ⟨record, found, equality⟩
  · rw [equality]
    exact balanced
  · have present : cohortId ∈ run.state.terminal :=
      InsertionMap.mem_of_lookup found
    rw [equality, dismissed]
    clear equality
    intro id
    have before := balanced id
    by_cases same : id = cohortId
    · subst same
      simp_all [balance, indicator]
      omega
    · have other : ¬ cohortId = id := fun equal => same equal.symm
      simp_all [balance, indicator]

/-- A success moves its cohort from the advertised ones to the ledger. -/
theorem Balanced.completed (balanced : Balanced run) (health : LibraryHealth)
    (cohortId : CohortId) (done : Unit) :
    Balanced (run.settled health ⟨cohortId, .ok done⟩) := by
  intro id
  have before := balanced id
  have terminal :
      (run.settled health ⟨cohortId, .ok done⟩).state.terminal =
        run.state.terminal :=
    terminal_settled_of_unfiled health rfl
  have gone :
      (run.settled health ⟨cohortId, .ok done⟩).gone =
        (if cohortId ∈ run.state.advertised then [(cohortId, .completed)]
          else []) ++ run.gone := rfl
  have created :
      (run.settled health ⟨cohortId, .ok done⟩).created = run.created := rfl
  by_cases same : id = cohortId
  · subst same
    by_cases present : id ∈ run.state.advertised
    · simp_all [balance, indicator]
      omega
    · simp_all [balance, indicator]
  · have other : ¬ cohortId = id := fun equal => same equal.symm
    by_cases present : cohortId ∈ run.state.advertised
    · simp_all [balance, indicator]
    · simp_all [balance, indicator]

/-- A rejection moves its cohort to the terminal records, and what the bound
drops from there to the ledger. -/
theorem Balanced.rejected (balanced : Balanced run) (health : LibraryHealth)
    (cohortId : CohortId) (message : String) :
    Balanced (run.settled health ⟨cohortId, .error message⟩) := by
  intro id
  have before := balanced id
  cases files : run.state.rejectionRecord? cohortId message with
  | none =>
      have absent :=
        OperatorState.notMem_advertised_of_rejectionRecord? _ files
      have unfiled : run.filedNow? ⟨cohortId, .error message⟩ = none := files
      have terminal := terminal_settled_of_unfiled health unfiled
      have gone :
          (run.settled health ⟨cohortId, .error message⟩).gone = run.gone := by
        simp only [OperatorRun.settled, goneNow, unfiled, List.nil_append]
      have created :
          (run.settled health ⟨cohortId, .error message⟩).created =
            run.created := rfl
      by_cases same : id = cohortId
      · subst same
        simp_all [balance, indicator]
      · simp_all [balance, indicator]
  | some record =>
      have present := OperatorState.mem_advertised_of_rejectionRecord? _ files
      have filed : run.filedNow? ⟨cohortId, .error message⟩ = some record := files
      have bound :=
        indicator_evictPast maxTerminal (run.state.terminal.set cohortId record) id
      have drafts :
          indicator
              (id ∈ (run.settled health ⟨cohortId, .error message⟩).state.drafts) =
            indicator (id ∈ run.state.drafts) :=
        indicator_congr (by rw [drafts_settled])
      have advertised :
          indicator
              (id ∈
                (run.settled health ⟨cohortId, .error message⟩).state.advertised) =
            indicator (id ≠ cohortId ∧ id ∈ run.state.advertised) :=
        indicator_congr (by rw [advertised_settled, AList.mem_erase])
      have terminal :
          indicator
              (id ∈ (run.settled health ⟨cohortId, .error message⟩).state.terminal) =
            indicator
              (id ∈ (run.state.terminal.set cohortId record).evictPast maxTerminal) :=
        indicator_congr (by rw [terminal_settled_of_files health filed])
      have gone :
          departures (run.settled health ⟨cohortId, .error message⟩).gone id =
            indicator
                (id ∈
                  (run.state.terminal.set cohortId record).droppedPast
                    maxTerminal) +
              departures run.gone id := by
        simp only [OperatorRun.settled, goneNow, filed]
        exact departures_evicted (InsertionMap.nodup_droppedPast _ _) run.gone id
      have bounded := indicator_le_one (id ∈ run.created)
      have created :
          (run.settled health ⟨cohortId, .error message⟩).created =
            run.created := rfl
      rw [balance] at before
      rw [balance, drafts, advertised, terminal, gone, created]
      by_cases same : id = cohortId
      · subst same
        have left : indicator (id ≠ id ∧ id ∈ run.state.advertised) = 0 :=
          if_neg fun both => both.1 rfl
        have held : indicator (id ∈ run.state.advertised) = 1 := if_pos present
        have set : indicator (id ∈ run.state.terminal.set id record) = 1 :=
          if_pos (InsertionMap.mem_set.mpr (Or.inl rfl))
        omega
      · have stays :
            indicator (id ≠ cohortId ∧ id ∈ run.state.advertised) =
              indicator (id ∈ run.state.advertised) :=
          indicator_congr (by simp [same])
        have untouched :
            indicator (id ∈ run.state.terminal.set cohortId record) =
              indicator (id ∈ run.state.terminal) :=
          indicator_congr (by simp [same])
        omega

theorem Balanced.settled (balanced : Balanced run) (health : LibraryHealth)
    (settlement : Settlement) :
    Balanced (run.settled health settlement) := by
  obtain ⟨cohortId, outcome⟩ := settlement
  cases outcome with
  | ok done => exact balanced.completed health cohortId done
  | error message => exact balanced.rejected health cohortId message
/-- Every offered event keeps the balance. -/
theorem Balanced.step
    (balanced : Balanced run) {event : OperatorEvent}
    (possible : offered run event) :
    Balanced (run.step options event) := by
  cases event with
  | createDraft draftId input =>
      exact balanced.createDraft (possible.1 draftId rfl) input
  | updateDraft draftId input => exact balanced.updateDraft draftId input
  | advertiseDraft draftId minted =>
      exact balanced.advertiseDraft draftId possible.1
  | discardDraft draftId => exact balanced.discardDraft draftId
  | cancelCohort cohortId health =>
      obtain ⟨_, _, _, _, _, equality⟩ :=
        cancelCohort_eq health run.state cohortId
      simp only [OperatorRun.step, equality]
      exact balanced.frame rfl rfl rfl rfl rfl
  | readvertiseExpired cohortId minted =>
      exact balanced.readvertiseExpired cohortId possible.1
  | forgetTerminal cohortId health =>
      exact balanced.forgetTerminal cohortId health
  | applySettings patch =>
      simp only [OperatorRun.step]
      split
      · exact balanced.frame rfl rfl rfl rfl rfl
      · exact balanced
  | pause => exact balanced.frame rfl rfl rfl rfl rfl
  | resume => exact balanced.frame rfl rfl rfl rfl rfl
  | windowTimer cohortId health =>
      obtain ⟨_, _, _, equality⟩ := windowTimerFires_eq health run.state cohortId
      simp only [OperatorRun.step, equality]
      exact balanced.frame rfl rfl rfl rfl rfl
  | seat cohortId => exact balanced.frame rfl rfl rfl rfl rfl
  | fill cohortId => exact balanced.frame rfl rfl rfl rfl rfl
  | advance cohortId phase => exact balanced.frame rfl rfl rfl rfl rfl
  | completion cohortId => exact balanced.frame rfl rfl rfl rfl rfl
  | failure cohortId message => exact balanced.frame rfl rfl rfl rfl rfl
  | stopService message => exact balanced.frame rfl rfl rfl rfl rfl
  | microtask health =>
      simp only [OperatorRun.step]
      split
      · exact balanced
      · next settlement rest pending => exact balanced.settled health settlement

end Steps

section Rows

/-! ## The operator's list -/

variable {options : OperatorOptions} {run : OperatorRun}

/-- A stored draft carries its own key. -/
def NamedDrafts (state : OperatorState) : Prop :=
  ∀ draftId entry,
    state.drafts.lookup draftId = some entry → entry.dto.draftId = draftId

/-- The row of a judged entry is that of the draft. -/
theorem dto_of_judgeDraft
    {settings : RuntimeSettings} {draftId : CohortId} {input : DraftInput}
    {entry : DraftEntry}
    (judged : judgeDraft options settings draftId input = .ok entry) :
    entry.dto.draftId = draftId ∧ entry.dto.state = .draft := by
  unfold judgeDraft at judged
  cases valid :
      validateDraft input options.autoFallbackOnStall options.cohortTtlMs with
  | error message =>
      rw [valid] at judged
      cases judged
  | ok shape =>
      rw [valid] at judged
      change draftEntry options settings draftId shape = .ok entry at judged
      unfold draftEntry at judged
      cases built :
          buildCohortConfig options.recoveryKeys shape.size shape.beaconType
            options.activeNetwork options.recoveryKey (some shape.threshold) with
      | error message =>
          rw [built] at judged
          cases judged
      | ok config =>
          rw [built] at judged
          cases judged
          exact ⟨rfl, rfl⟩

/-- Every stored draft has a property of its key and its entry. -/
def DraftsAll
    (property : CohortId → DraftEntry → Prop) (state : OperatorState) : Prop :=
  ∀ draftId entry,
    state.drafts.lookup draftId = some entry → property draftId entry

namespace DraftsAll

variable
  {property : CohortId → DraftEntry → Prop} {state after : OperatorState}

theorem set
    (all : DraftsAll property state) {draftId : CohortId} {entry : DraftEntry}
    (own : property draftId entry) :
    DraftsAll property
      { state with drafts := state.drafts.set draftId entry } := by
  intro other held found
  by_cases same : other = draftId
  · subst same
    rw [InsertionMap.lookup_set_self] at found
    cases found
    exact own
  · rw [InsertionMap.lookup_set_of_ne same] at found
    exact all other held found

theorem erase
    (all : DraftsAll property state) {draftId : CohortId}
    (drafts : after.drafts = state.drafts.erase draftId) :
    DraftsAll property after := by
  intro other held found
  rw [drafts] at found
  exact all other held (InsertionMap.lookup_of_lookup_erase found)

theorem frame
    (all : DraftsAll property state) (drafts : after.drafts = state.drafts) :
    DraftsAll property after := by
  intro draftId entry found
  rw [drafts] at found
  exact all draftId entry found

/-- What every judged entry has, every stored draft keeps having. -/
theorem step
    (judged :
      ∀ settings draftId input entry,
        judgeDraft options settings draftId input = .ok entry →
          property draftId entry)
    (all : DraftsAll property run.state) (event : OperatorEvent) :
    DraftsAll property (run.step options event).state := by
  cases event with
  | createDraft draftId input =>
      simp only [OperatorRun.step, createDraft]
      cases verdict :
          judgeDraft options run.state.settings draftId
            (withServiceDefaults run.state.settings input) with
      | error message => exact all
      | ok entry => exact all.set (judged _ _ _ _ verdict)
  | updateDraft draftId input =>
      simp only [OperatorRun.step, updateDraft]
      split
      · cases verdict :
            judgeDraft options run.state.settings draftId input with
        | error message => exact all
        | ok entry => exact all.set (judged _ _ _ _ verdict)
      · exact all
  | advertiseDraft draftId minted =>
      rcases OperatorRun.step_advertiseDraft_cases options run draftId minted with
        equality | ⟨entry, cohortId, -, -, -, equality⟩
      · rw [equality]
        exact all
      · obtain ⟨_, -, launched⟩ :=
          launch_eq options
            { run.state with drafts := run.state.drafts.erase draftId } cohortId
            entry.config entry.windows
        rw [equality, launched]
        exact all.erase rfl
  | discardDraft draftId => exact all.erase rfl
  | cancelCohort cohortId health =>
      obtain ⟨_, _, _, _, _, equality⟩ :=
        cancelCohort_eq health run.state cohortId
      simp only [OperatorRun.step, equality]
      exact all.frame rfl
  | readvertiseExpired cohortId minted =>
      rcases OperatorRun.step_readvertiseExpired_cases options run cohortId minted with
        equality | ⟨record, newCohortId, -, -, -, equality⟩
      · rw [equality]
        exact all
      · obtain ⟨_, -, launched⟩ :=
          launch_eq options
            { run.state with terminal := run.state.terminal.erase cohortId }
            newCohortId record.config record.windows
        rw [equality, launched]
        exact all.frame rfl
  | forgetTerminal cohortId health =>
      rcases
        OperatorRun.step_forgetTerminal_cases options run cohortId health with
        equality | ⟨record, -, equality⟩
      · rw [equality]
        exact all
      · rw [equality]
        exact all.frame rfl
  | applySettings patch =>
      simp only [OperatorRun.step]
      split
      · exact all.frame rfl
      · exact all
  | pause => exact all.frame rfl
  | resume => exact all.frame rfl
  | windowTimer cohortId health =>
      obtain ⟨_, _, _, equality⟩ := windowTimerFires_eq health run.state cohortId
      simp only [OperatorRun.step, equality]
      exact all.frame rfl
  | seat cohortId => exact all.frame rfl
  | fill cohortId => exact all.frame rfl
  | advance cohortId phase => exact all.frame rfl
  | completion cohortId => exact all.frame rfl
  | failure cohortId message => exact all.frame rfl
  | stopService message => exact all.frame rfl
  | microtask health =>
      simp only [OperatorRun.step]
      split
      · exact all
      · next settlement rest pending =>
        exact all.frame (run.drafts_settled health settlement)

end DraftsAll

theorem NamedDrafts.step
    (named : NamedDrafts run.state) (event : OperatorEvent) :
    NamedDrafts (run.step options event).state := by
  have all : DraftsAll (fun draftId entry => entry.dto.draftId = draftId) run.state :=
    named
  exact all.step (fun _ _ _ _ judged => (dto_of_judgeDraft judged).1) event

theorem map_filterMap_sublist
    {Item Row Id : Type} {row? : Item → Option Row} {rowId : Row → Id}
    {itemId : Item → Id}
    (agrees : ∀ item, ∀ row ∈ row? item, rowId row = itemId item)
    (items : List Item) :
    ((items.filterMap row?).map rowId).Sublist (items.map itemId) := by
  induction items with
  | nil => exact List.Sublist.refl _
  | cons item items inductionHypothesis =>
      cases listed : row? item with
      | none =>
          rw [List.filterMap_cons_none listed]
          exact inductionHypothesis.cons _
      | some row =>
          rw [List.filterMap_cons_some listed, List.map_cons, List.map_cons,
            agrees item row listed]
          exact inductionHypothesis.cons_cons _

theorem directory_row
    {state : OperatorState} {entry : Sigma fun _ : CohortId => SessionCohort}
    {row : DirectoryCohortDTO}
    (listed : row ∈ directoryRow? options state entry) :
    row.cohortId = entry.1 ∧ entry.1 ∈ state.advertised := by
  unfold directoryRow? at listed
  cases found : state.advertised.lookup entry.1 with
  | none => simp [found] at listed
  | some config =>
      have advertised : entry.1 ∈ state.advertised :=
        InsertionMap.mem_of_lookup found
      simp only [found] at listed
      split at listed
      · cases listed
        exact ⟨rfl, advertised⟩
      · cases listed

theorem nodup_directory (state : OperatorState) :
    ((directory options state).map DirectoryCohortDTO.cohortId).Nodup := by
  have listed :
      ((directory options state).map DirectoryCohortDTO.cohortId).Sublist
        (state.runner.cohorts.entries.reverse.map Sigma.fst) :=
    map_filterMap_sublist (fun _ _ row => (directory_row row).1) _
  refine listed.nodup ?_
  rw [List.map_reverse, List.nodup_reverse]
  exact AList.keys_nodup state.runner.cohorts

theorem mem_advertised_of_mem_directory
    {state : OperatorState} {id : CohortId}
    (listed :
      id ∈ (directory options state).map DirectoryCohortDTO.cohortId) :
    id ∈ state.advertised := by
  obtain ⟨row, member, rfl⟩ := List.mem_map.mp listed
  obtain ⟨entry, -, shown⟩ := List.mem_filterMap.mp member
  obtain ⟨named, advertised⟩ := directory_row shown
  rw [named]
  exact advertised

theorem draftIds_eq (named : NamedDrafts run.state) :
    run.state.drafts.entries.map (fun entry => entry.2.dto.draftId) =
      run.state.drafts.keys := by
  refine List.map_congr_left fun entry member => ?_
  exact named entry.1 entry.2 (AList.mem_lookup_iff.mpr member)

theorem rowIds_listCohorts (named : NamedDrafts run.state) :
    (listCohorts options run.state).map OperatorCohortDTO.draftId =
      run.state.drafts.keys.reverse ++
        (directory options run.state).map DirectoryCohortDTO.cohortId ++
          run.state.terminal.keys.reverse := by
  have drafts :
      run.state.drafts.entries.reverse.map (fun entry => entry.2.dto.draftId) =
        run.state.drafts.keys.reverse := by
    rw [List.map_reverse, draftIds_eq named]
  have terminal :
      run.state.terminal.entries.reverse.map Sigma.fst =
        run.state.terminal.keys.reverse := by
    rw [List.map_reverse]
    rfl
  simp only [listCohorts, List.map_append, List.map_map, Function.comp_def,
    drafts]
  rw [← terminal]

/-- In a balanced state no id is listed twice. -/
theorem Balanced.rowsDistinct
    (balanced : Balanced run) (named : NamedDrafts run.state) :
    ((listCohorts options run.state).map OperatorCohortDTO.draftId).Nodup := by
  have once (id : CohortId) : balance run id ≤ 1 := by
    rw [balanced id]
    exact indicator_le_one _
  rw [rowIds_listCohorts named, List.nodup_append', List.nodup_append']
  refine ⟨⟨?_, nodup_directory run.state, ?_⟩, ?_, ?_⟩
  · exact List.nodup_reverse.mpr (AList.keys_nodup run.state.drafts)
  · intro id draft listed
    have drafted : id ∈ run.state.drafts := List.mem_reverse.mp draft
    have advertised := mem_advertised_of_mem_directory listed
    have atMost := once id
    simp [balance, drafted, advertised] at atMost
    omega
  · exact List.nodup_reverse.mpr (AList.keys_nodup run.state.terminal)
  · intro id earlier ended
    have terminal : id ∈ run.state.terminal := List.mem_reverse.mp ended
    have atMost := once id
    rcases List.mem_append.mp earlier with draft | listed
    · have drafted : id ∈ run.state.drafts := List.mem_reverse.mp draft
      simp [balance, drafted, terminal] at atMost
      omega
    · have advertised := mem_advertised_of_mem_directory listed
      simp [balance, advertised, terminal] at atMost
      omega

end Rows

section Pause

/-! ## The pause and the refusals -/

variable {options : OperatorOptions} {state : OperatorState}

/-- No cohort is in the tables or in the session that was not there before. -/
def NoNewCohort (before after : OperatorState) : Prop :=
  ∀ id,
    (id ∈ after.advertised → id ∈ before.advertised) ∧
      (id ∈ after.runner.cohorts → id ∈ before.runner.cohorts)

theorem NoNewCohort.refl (state : OperatorState) : NoNewCohort state state :=
  fun _ => ⟨id, id⟩

theorem NoNewCohort.runner
    {after : OperatorState}
    (advertised : after.advertised = state.advertised)
    (cohorts :
      ∀ id, id ∈ after.runner.cohorts → id ∈ state.runner.cohorts) :
    NoNewCohort state after := by
  intro id
  refine ⟨?_, cohorts id⟩
  rw [advertised]
  exact fun member => member

theorem mem_cohorts_of_settle
    {runner : Runner} {cohortId : CohortId} {outcome : Except String Unit}
    (id : CohortId) (member : id ∈ (runner.settle cohortId outcome).cohorts) :
    id ∈ runner.cohorts :=
  (Runner.mem_cohorts_settle.mp member).2

theorem cohorts_cancelCohort
    (health : LibraryHealth) (cohortId id : CohortId)
    (member : id ∈ (cancelCohort health state cohortId).2.runner.cohorts) :
    id ∈ state.runner.cohorts := by
  unfold cancelCohort at member
  split at member
  · dsimp only at member
    split at member
    · rw [OperatorState.cohorts_repairAdvertSlot] at member
      exact mem_cohorts_of_settle id member
    · exact member
  · exact member

theorem cohorts_windowTimerFires
    (health : LibraryHealth) (cohortId id : CohortId)
    (member : id ∈ (windowTimerFires health state cohortId).runner.cohorts) :
    id ∈ state.runner.cohorts := by
  unfold windowTimerFires at member
  dsimp only at member
  split at member
  · exact mem_cohorts_of_settle id member
  · exact member

theorem refused_advertiseDraft
    {draftId : CohortId} {minted : Option CohortId}
    (refused : (advertiseDraft options state draftId minted).1.refused = true) :
    (advertiseDraft options state draftId minted).2 = state := by
  rcases advertiseDraft_cases options state draftId minted with
    ⟨answer, _, equality⟩ | ⟨entry, cohortId, -, -, -, equality⟩
  · rw [equality]
  · rw [equality] at refused
    cases refused

theorem refused_readvertiseExpired
    {cohortId : CohortId} {minted : Option CohortId}
    (refused :
      (readvertiseExpired options state cohortId minted).1.refused = true) :
    (readvertiseExpired options state cohortId minted).2 = state := by
  rcases readvertiseExpired_cases options state cohortId minted with
    ⟨answer, _, equality⟩ | ⟨record, newCohortId, -, -, -, equality⟩
  · rw [equality]
  · rw [equality] at refused
    cases refused

/-- An edit that answers no row. -/
def editRefused (answer : Except String (Option OperatorCohortDTO)) : Bool :=
  match answer with
  | .ok (some _) => false
  | _ => true

theorem refused_updateDraft
    {draftId : CohortId} {input : DraftInput}
    (refused : editRefused (updateDraft options state draftId input).1 = true) :
    (updateDraft options state draftId input).2 = state := by
  unfold updateDraft at refused ⊢
  split
  · next present =>
      rw [if_pos present] at refused
      cases judged : judgeDraft options state.settings draftId input with
      | error message => rfl
      | ok entry =>
          rw [judged] at refused
          cases refused
  · rfl

theorem advertiseDraft_of_paused
    (paused : state.settings.paused = true) (draftId : CohortId)
    (minted : Option CohortId) :
    advertiseDraft options state draftId minted = (.paused, state) :=
  if_pos paused

theorem readvertiseExpired_of_paused
    (paused : state.settings.paused = true) (cohortId : CohortId)
    (minted : Option CohortId) :
    readvertiseExpired options state cohortId minted = (.paused, state) :=
  if_pos paused

/-- While paused no event brings a cohort into existence. -/
theorem noNewCohort_of_paused
    {run : OperatorRun} (paused : run.state.settings.paused = true)
    (event : OperatorEvent) :
    NoNewCohort run.state (run.step options event).state := by
  cases event with
  | createDraft draftId input =>
      simp only [OperatorRun.step, createDraft]
      split
      · next answer =>
          split at answer
          · cases answer
          · exact .runner rfl fun _ => id
      · next answer =>
          split at answer
          · exact .refl _
          · cases answer
  | updateDraft draftId input =>
      simp only [OperatorRun.step, updateDraft]
      split
      · split
        · exact .refl _
        · exact .runner rfl fun _ => id
      · exact .refl _
  | advertiseDraft draftId minted =>
      simp only [OperatorRun.step, advertiseDraft_of_paused paused]
      exact .refl _
  | discardDraft draftId => exact .runner rfl fun _ => id
  | cancelCohort cohortId health =>
      refine .runner ?_ (cohorts_cancelCohort health cohortId)
      obtain ⟨_, _, _, _, _, equality⟩ :=
        cancelCohort_eq health run.state cohortId
      simp only [OperatorRun.step, equality]
  | readvertiseExpired cohortId minted =>
      simp only [OperatorRun.step, readvertiseExpired_of_paused paused]
      exact .refl _
  | forgetTerminal cohortId health =>
      rcases
        OperatorRun.step_forgetTerminal_cases options run cohortId health with
        equality | ⟨record, -, equality⟩
      · rw [equality]
        exact .refl _
      · rw [equality]
        exact .runner rfl fun _ => id
  | applySettings patch =>
      simp only [OperatorRun.step]
      split
      · exact .runner rfl fun _ => id
      · exact .refl _
  | pause => exact .runner rfl fun _ => id
  | resume => exact .runner rfl fun _ => id
  | windowTimer cohortId health =>
      refine .runner ?_ (cohorts_windowTimerFires health cohortId)
      obtain ⟨_, _, _, equality⟩ := windowTimerFires_eq health run.state cohortId
      simp only [OperatorRun.step, equality]
  | seat cohortId =>
      exact .runner rfl fun _ => InsertionMap.mem_modify.mp
  | fill cohortId =>
      exact .runner rfl fun _ => InsertionMap.mem_modify.mp
  | advance cohortId phase =>
      exact .runner rfl fun _ => InsertionMap.mem_modify.mp
  | completion cohortId => exact .runner rfl mem_cohorts_of_settle
  | failure cohortId message => exact .runner rfl mem_cohorts_of_settle
  | stopService message =>
      refine .runner rfl fun id member => ?_
      exact absurd member (Runner.notMem_cohorts_stop _ message id)
  | microtask health =>
      simp only [OperatorRun.step]
      split
      · exact .refl _
      · next settlement rest pending =>
          intro id
          simp only [OperatorRun.advertised_settled,
            OperatorRun.cohorts_settled, AList.mem_erase]
          exact ⟨And.right, fun member => member⟩

end Pause

section Law

/-! ## Conservation along every run -/

/-- What a state of a run conserves. -/
structure Conserved (options : OperatorOptions) (run : OperatorRun) : Prop where
  onePlace : ∀ id ∈ run.created, ∃ place, placesOf run id = [place]
  nowhereElse : ∀ id, id ∉ run.created → placesOf run id = []
  rowsDistinct :
    ((listCohorts options run.state).map OperatorCohortDTO.draftId).Nodup
  pausedCreatesNone :
    run.state.settings.paused = true →
      ∀ event, NoNewCohort run.state (run.step options event).state
  refusedAdvertise :
    ∀ draftId minted,
      (advertiseDraft options run.state draftId minted).1.refused = true →
        (advertiseDraft options run.state draftId minted).2 = run.state
  refusedReadvertise :
    ∀ cohortId minted,
      (readvertiseExpired options run.state cohortId minted).1.refused = true →
        (readvertiseExpired options run.state cohortId minted).2 = run.state
  refusedEdit :
    ∀ draftId input,
      editRefused (updateDraft options run.state draftId input).1 = true →
        (updateDraft options run.state draftId input).2 = run.state

theorem Balanced.placesOf_eq
    {run : OperatorRun} (balanced : Balanced run) (id : CohortId) :
    (placesOf run id).length = indicator (id ∈ run.created) := by
  rw [length_placesOf, balanced id]

theorem Conserved.of_balanced
    {options : OperatorOptions} {run : OperatorRun}
    (balanced : Balanced run) (named : NamedDrafts run.state) :
    Conserved options run where
  onePlace id minted :=
    List.length_eq_one_iff.mp ((balanced.placesOf_eq id).trans (if_pos minted))
  nowhereElse id fresh :=
    List.eq_nil_of_length_eq_zero
      ((balanced.placesOf_eq id).trans (if_neg fresh))
  rowsDistinct := balanced.rowsDistinct named
  pausedCreatesNone := noNewCohort_of_paused
  refusedAdvertise _ _ := refused_advertiseDraft
  refusedReadvertise _ _ := refused_readvertiseExpired
  refusedEdit _ _ := refused_updateDraft

/-- In every interleaving, with library calls that may throw, drafts and
cohorts are conserved. -/
theorem conserved_of_admits
    (options : OperatorOptions) (settings : RuntimeSettings)
    (events : List OperatorEvent)
    (admissible : (operatorMachine options settings).Admits events) :
    Conserved options ((operatorMachine options settings).run events) := by
  have always :
      (operatorMachine options settings).Always fun run =>
        Balanced run ∧ NamedDrafts run.state := by
    refine Machine.Always.of_inductive ⟨?_, ?_⟩ ?_
    · intro id
      rfl
    · intro draftId entry found
      cases found
    · intro run event both possible
      exact ⟨both.1.step possible, both.2.step event⟩
  obtain ⟨balanced, named⟩ := always events admissible
  exact .of_balanced balanced named

/-- One draft is advertised, canceled, advertised again and completed; a second
one stays. -/
def conservedEvents : List OperatorEvent :=
  [ .createDraft 0 (plainInput none),
    .createDraft 1 (plainInput none),
    .pause,
    .advertiseDraft 0 (some 2),
    .resume,
    .advertiseDraft 0 none,
    .advertiseDraft 0 (some 2),
    .cancelCohort 2 .sound,
    .microtask .sound,
    .readvertiseExpired 2 (some 3),
    .completion 3,
    .microtask .sound ]

theorem conserved_of_admits_readvertised :
    Conserved plainOptions
      ((operatorMachine plainOptions .unseeded).run conservedEvents) :=
  conserved_of_admits plainOptions .unseeded conservedEvents (by decide +kernel)

example :
    [0, 1, 2, 3].map
        (placesOf
          ((operatorMachine plainOptions .unseeded).run conservedEvents)) =
      [ [.gone .advertisedOn], [.draft], [.gone .readvertised],
        [.gone .completed] ] := by
  decide +kernel

end Law

end Btcr2Aggregation
