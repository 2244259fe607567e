import Btcr2Aggregation.Web.ResolveRounds

/-!
# What the reads write

The anchor shown and the status of the resolution, as every handler of the
reads leaves them.
-/

namespace Btcr2Aggregation

/-- What a page shows of its round. -/
structure ReadView where
  facts : JoinFacts
  round : RoundId
  anchor : Option AnchorDTO
  resolveStatus : ResolutionStatus
  deriving DecidableEq

namespace ResolvePage

def readView (page : ResolvePage) : ReadView where
  facts := page.page.facts
  round := page.page.round
  anchor := page.anchor
  resolveStatus := page.resolveStatus

/-- There is a DID to resolve. -/
def canResolve (page : ResolvePage) : Bool :=
  match page.page.identity with
  | none => false
  | some identity => identity.did ≠ ""

/-- The read asks for a resolution by itself. -/
def autoAsks (anchor : AnchorDTO) (page : ResolvePage) : Bool :=
  page.autoResolved = false ∧ shouldAutoResolve anchor = true ∧
    page.canResolve = true

/-- The retry asks for one more resolution. -/
def lagAsks (page : ResolvePage) : Bool :=
  match page.resolveLagRetry with
  | none => false
  | some retry =>
      ¬(page.reflected = true ∨ resolveLagMaxAttempts ≤ retry.attempts + 1) ∧
        page.canResolve = true

theorem readView_resolve (cause : ResolveCause) (page : ResolvePage) :
    (page.resolve cause).readView =
      { page.readView with
        resolveStatus :=
          if page.canResolve then .resolving else page.resolveStatus } := by
  unfold resolve
  cases inHand : page.page.identity with
  | none =>
      have cannot : page.canResolve = false := by
        rw [canResolve, inHand]
      rw [cannot]
      rfl
  | some identity =>
      by_cases unnamed : identity.did = ""
      · have cannot : page.canResolve = false := by
          rw [canResolve, inHand]
          simp [unnamed]
        simp only [unnamed, if_true, cannot]
        rfl
      · have can : page.canResolve = true := by
          rw [canResolve, inHand]
          simp [unnamed]
        simp only [unnamed, if_false, can, if_true]
        rfl

theorem readView_autoResolve
    (poll : AnchorPoll) (anchor : AnchorDTO) (page : ResolvePage) :
    (page.autoResolve poll anchor).readView =
      { page.readView with
        resolveStatus :=
          if page.autoAsks anchor then .resolving else page.resolveStatus } := by
  unfold autoResolve
  by_cases asks : page.autoResolved = false ∧ shouldAutoResolve anchor = true
  · have asked :=
      readView_resolve (.anchor poll) { page with autoResolved := true }
    have sameAsks :
        page.autoAsks anchor =
          canResolve { page with autoResolved := true } := by
      have same : page.canResolve = canResolve { page with autoResolved := true } :=
        rfl
      simp [autoAsks, asks.1, asks.2, same]
    rw [if_pos asks, sameAsks]
    by_cases live : anchor.enabled = true
    · simp only [live, if_true]
      exact asked
    · simp only [live]
      exact asked
  · have silent : page.autoAsks anchor = false := by
      rw [autoAsks, decide_eq_false_iff_not]
      exact fun all => asks ⟨all.1, all.2.1⟩
    rw [if_neg asks, silent]
    rfl

/-- A read of the anchor is taken up, or it failed or its poll is over. -/
theorem anchorLands_taken_or_dropped
    (poll : AnchorPoll) (answer : Option AnchorDTO) (page : ResolvePage) :
    (poll.epoch = page.anchorEpoch ∧ ∃ anchor, answer = some anchor) ∨
      (poll.epoch = page.anchorEpoch → answer = none) := by
  by_cases current : poll.epoch = page.anchorEpoch
  · cases answer with
    | none => exact Or.inr fun _ => rfl
    | some anchor => exact Or.inl ⟨current, anchor, rfl⟩
  · exact Or.inr fun same => absurd same current

/-- A read that lands in its poll shows its anchor. -/
theorem readView_anchorLands_some
    {poll : AnchorPoll} {page : ResolvePage}
    (current : poll.epoch = page.anchorEpoch) (anchor : AnchorDTO) :
    (page.anchorLands poll (some anchor)).readView =
      { page.readView with
        anchor := some anchor
        resolveStatus :=
          if page.autoAsks anchor then .resolving else page.resolveStatus } := by
  unfold anchorLands
  simp only [current, if_true]
  have asked :=
    readView_autoResolve poll anchor
      (setUnreachable false
        { page with
          anchorReads := page.anchorReads.erase poll
          anchorFailures := 0
          anchor := some anchor })
  split
  · exact asked
  · exact asked

/-- A read that failed, or one of an earlier poll, shows nothing. -/
theorem readView_anchorLands_of_not
    {poll : AnchorPoll} {answer : Option AnchorDTO} {page : ResolvePage}
    (nothing : poll.epoch = page.anchorEpoch → answer = none) :
    (page.anchorLands poll answer).readView = page.readView := by
  unfold anchorLands
  by_cases current : poll.epoch = page.anchorEpoch
  · simp only [current, if_true, nothing current]
    split
    · rfl
    · rfl
  · simp only [current, if_false]
    rfl

theorem readView_lagTicks (page : ResolvePage) :
    page.lagTicks.readView =
      { page.readView with
        resolveStatus :=
          if page.lagAsks then .resolving else page.resolveStatus } := by
  unfold lagTicks lagAsks
  cases retries : page.resolveLagRetry with
  | none => rfl
  | some retry =>
      by_cases ends :
          page.reflected = true ∨ resolveLagMaxAttempts ≤ retry.attempts + 1
      · simp only [ends, if_true, not_true_eq_false, false_and, decide_false]
        rfl
      · simp only [ends, if_false, not_false_eq_true, true_and]
        exact (readView_resolve _ _).trans (by simp only [decide_eq_true_eq]; rfl)

theorem readView_resolveLands
    (read : ResolveRead) (answer : Except String DidDocument)
    (page : ResolvePage) :
    (page.resolveLands read answer).readView =
      { page.readView with
        resolveStatus :=
          match answer with
          | .ok _ => .resolved
          | .error _ => .failed } := by
  cases answer with
  | ok didDocument => rfl
  | error message => rfl

theorem readView_anchorTicks (config : PageConfig) (page : ResolvePage) :
    (page.step config .anchorTicks).readView = page.readView := by
  simp only [step]
  split
  · rfl
  · rfl

/-- Within a round an event of the page leaves the anchor and the resolution. -/
theorem readView_onPage
    {config : PageConfig} {event : PageEvent} {page : ResolvePage}
    (sameRound : (page.page.step config event).round = page.page.round) :
    (page.onPage config event).readView =
      { page.readView with facts := (page.page.step config event).facts } := by
  have torn :
      ({ (if event.tearsDown config page.page then
            page.clearResolveLagRetry.clearAnchorPoll else page) with
          page := page.page.step config event } : ResolvePage).readView =
        { page.readView with facts := (page.page.step config event).facts } := by
    split
    · rw [readView, readView, sameRound]
      rfl
    · rw [readView, readView, sameRound]
  unfold onPage
  dsimp only
  rw [if_pos sameRound]
  split
  · exact torn
  · exact torn

theorem page_onPage
    (config : PageConfig) (event : PageEvent) (page : ResolvePage) :
    (page.onPage config event).page = page.page.step config event := by
  unfold onPage
  dsimp only
  split
  · rfl
  · rfl

end ResolvePage

end Btcr2Aggregation
