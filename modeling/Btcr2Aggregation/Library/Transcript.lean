import Mathlib.Data.List.Forall2

/-!
# Components that answer calls

A component takes one call at a time, answers it and goes on in a new state.
Two components answer alike when related states answer each call alike and go
on in related states.
-/

namespace Btcr2Aggregation

universe u v w

section Component

variable {State : Type u} {Call : Type v} {Answer : Type w}

/-- What a list of calls is answered, one after the other. -/
def transcript (step : State → Call → Answer × State) :
    State → List Call → List Answer
  | _, [] => []
  | state, call :: calls =>
      (step state call).1 :: transcript step (step state call).2 calls

end Component

section Simulation

variable {First Second : Type u} {Call : Type v} {Answer : Type w}
variable {firstStep : First → Call → Answer × First}
variable {secondStep : Second → Call → Answer × Second}

/-- Step by step: what one call keeps related, a list of calls does. -/
theorem transcript_forall₂
    {related : First → Second → Prop} {same : Answer → Answer → Prop}
    {offered : Call → Prop}
    (simulates :
      ∀ first second call, related first second → offered call →
        same (firstStep first call).1 (secondStep second call).1 ∧
          related (firstStep first call).2 (secondStep second call).2)
    (calls : List Call) :
    ∀ first second, related first second → (∀ call ∈ calls, offered call) →
      List.Forall₂ same
        (transcript firstStep first calls)
        (transcript secondStep second calls) := by
  induction calls with
  | nil =>
      intro first second _ _
      exact List.Forall₂.nil
  | cons call calls inductionHypothesis =>
      intro first second start offers
      obtain ⟨now, later⟩ := List.forall_mem_cons.mp offers
      obtain ⟨answered, next⟩ := simulates first second call start now
      have rest := inductionHypothesis _ _ next later
      exact List.Forall₂.cons answered rest

end Simulation

end Btcr2Aggregation
