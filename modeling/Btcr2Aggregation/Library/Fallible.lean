import Mathlib.Logic.Basic

/-!
# Steps that can fail

A program that checks one thing after the other stops at the first refusal.
What it did is read off its result: on success every step succeeded, on failure
one step failed and the earlier ones succeeded.
-/

namespace Btcr2Aggregation

theorem ok_bind
    {Failure Value Result : Type} (value : Value)
    (next : Value → Except Failure Result) :
    (Except.ok value >>= next) = next value :=
  rfl

theorem bind_eq_ok_iff
    {Failure Value Result : Type} {first : Except Failure Value}
    {next : Value → Except Failure Result} {result : Result} :
    (first >>= next) = .ok result ↔
      ∃ value, first = .ok value ∧ next value = .ok result := by
  cases first with
  | error failure =>
      exact ⟨nofun, fun ⟨_, equality, _⟩ => nomatch equality⟩
  | ok value =>
      constructor
      · intro passed
        exact ⟨value, rfl, passed⟩
      · rintro ⟨_, ⟨rfl⟩, passed⟩
        exact passed

theorem bind_eq_error_iff
    {Failure Value Result : Type} {first : Except Failure Value}
    {next : Value → Except Failure Result} {failure : Failure} :
    (first >>= next) = .error failure ↔
      first = .error failure ∨
        ∃ value, first = .ok value ∧ next value = .error failure := by
  cases first with
  | error early =>
      constructor
      · intro failed
        exact Or.inl (congrArg _ (Except.error.inj failed))
      · rintro (failed | ⟨_, equality, _⟩)
        · exact congrArg _ (Except.error.inj failed)
        · exact nomatch equality
  | ok value =>
      constructor
      · intro failed
        exact Or.inr ⟨value, rfl, failed⟩
      · rintro (equality | ⟨_, ⟨rfl⟩, failed⟩)
        · exact nomatch equality
        · exact failed

end Btcr2Aggregation
