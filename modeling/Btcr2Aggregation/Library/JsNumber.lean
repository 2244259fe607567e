import Mathlib.Data.Rat.Defs
import Mathlib.Algebra.Order.Ring.Rat
import Mathlib.Data.Nat.Cast.Order.Ring

/-!
# JavaScript numbers at a validation boundary

A number that arrives from a form, a JSON body or an environment variable is a
finite value, one of the two infinities, or `NaN`.  Only what validation code
asks of it is defined here: `Number.isFinite`, `Number.isInteger`, the
comparison with a bound either way, and the combined guard "a whole number, at least the
bound", which hands back the natural number that was accepted.
-/

namespace Btcr2Aggregation

/-- A JavaScript number; a finite one is its exact value. -/
inductive JsNumber where
  | finite (value : ℚ)
  | infinity
  | negInfinity
  | nan
  deriving DecidableEq

namespace JsNumber

instance (literal : Nat) : OfNat JsNumber literal :=
  ⟨.finite literal⟩

instance : Coe Nat JsNumber :=
  ⟨fun number => .finite number⟩

/-- `Number.isFinite`. -/
def isFinite : JsNumber → Bool
  | .finite _ => true
  | _ => false

/-- `Number.isInteger`. -/
def isInteger : JsNumber → Bool
  | .finite value => value.den == 1
  | _ => false

/-- `number < bound`; a comparison with `NaN` is false. -/
def ltNat : JsNumber → Nat → Bool
  | .finite value, bound => value < bound
  | .infinity, _ => false
  | .negInfinity, _ => true
  | .nan, _ => false

/-- `Number.isFinite(bound) && number >= bound`. -/
def reaches (bound : JsNumber) (number : Nat) : Bool :=
  match bound with
  | .finite bound => bound ≤ number
  | _ => false

/-- `!Number.isInteger(number) || number < minimum` refuses; what it lets
through is a natural number. -/
def wholeAtLeast? (minimum : Nat) (number : JsNumber) : Option Nat :=
  match number with
  | .finite value =>
      if number.isInteger ∧ ¬ number.ltNat minimum then
        some value.num.toNat
      else
        none
  | _ => none

@[simp]
theorem wholeAtLeast?_nat (minimum number : Nat) :
    wholeAtLeast? minimum (.finite number) =
      if minimum ≤ number then some number else none := by
  simp only [wholeAtLeast?, isInteger, ltNat, Rat.den_natCast, beq_self_eq_true,
    true_and, decide_eq_true_eq, Nat.cast_lt, not_lt, Rat.num_natCast,
    Int.toNat_natCast]

/-- The guard accepts exactly the natural numbers from the minimum on. -/
theorem wholeAtLeast?_eq_some_iff
    {minimum accepted : Nat} {number : JsNumber} :
    wholeAtLeast? minimum number = some accepted ↔
      number = .finite accepted ∧ minimum ≤ accepted := by
  constructor
  · intro guard
    cases number with
    | finite value =>
        simp only [wholeAtLeast?, isInteger, ltNat, beq_iff_eq,
          decide_eq_true_eq, not_lt, Option.ite_none_right_eq_some,
          Option.some.injEq] at guard
        obtain ⟨⟨whole, atLeast⟩, rfl⟩ := guard
        have nonneg : 0 ≤ value.num :=
          Rat.num_nonneg.mpr (le_trans (Nat.cast_nonneg minimum) atLeast)
        have readBack : ((value.num.toNat : ℕ) : ℚ) = value := by
          rw [← Int.cast_natCast, Int.toNat_of_nonneg nonneg]
          exact Rat.den_eq_one_iff _ |>.mp whole
        refine ⟨congrArg _ readBack.symm, ?_⟩
        rw [← readBack] at atLeast
        exact_mod_cast atLeast
    | infinity => cases guard
    | negInfinity => cases guard
    | nan => cases guard
  · rintro ⟨rfl, atLeast⟩
    rw [wholeAtLeast?_nat, if_pos atLeast]

end JsNumber

end Btcr2Aggregation
