import Btcr2Aggregation.Library.Binary64
import Btcr2Aggregation.Library.JsNumber

/-!
# Rounding to binary64

A value is cut to fifty-three binary digits, a tie going to the even
significand.  The result is the closest number of the format, so that rounding
keeps every number of the format as it is and does not move a value past one.
-/

namespace Btcr2Aggregation

namespace Binary64

section Integers

/-! ## The closest whole number -/

/-- The closest whole number, of two as close the even one. -/
def halfEven (value : ℚ) : Nat :=
  if value - ⌊value⌋₊ < 1 / 2 ∨
      value - ⌊value⌋₊ = 1 / 2 ∧ ⌊value⌋₊ % 2 = 0 then
    ⌊value⌋₊
  else
    ⌊value⌋₊ + 1

variable {value : ℚ} (nonneg : 0 ≤ value)
include nonneg

theorem abs_sub_halfEven_le : |value - halfEven value| ≤ 1 / 2 := by
  have lower := Nat.floor_le nonneg
  have upper := Nat.lt_floor_add_one value
  unfold halfEven
  split
  · next down =>
      rw [abs_of_nonneg (by linarith)]
      rcases down with closer | ⟨tie, -⟩
      · exact closer.le
      · exact tie.le
  · next up =>
      have half : 1 / 2 ≤ value - ⌊value⌋₊ :=
        not_lt.mp fun closer => up (.inl closer)
      push_cast
      rw [abs_of_nonpos (by linarith)]
      linarith

/-- A tie goes to the even whole number. -/
theorem halfEven_mod_of_tie (tie : |value - halfEven value| = 1 / 2) :
    halfEven value % 2 = 0 := by
  have lower := Nat.floor_le nonneg
  have upper := Nat.lt_floor_add_one value
  unfold halfEven at tie ⊢
  split
  · next down =>
      rw [if_pos down, abs_of_nonneg (by linarith)] at tie
      rcases down with closer | ⟨-, even⟩
      · exact absurd tie closer.ne
      · exact even
  · next up =>
      rw [if_neg up] at tie
      push_cast at tie
      rw [abs_of_nonpos (by linarith)] at tie
      have half : value - ⌊value⌋₊ = 1 / 2 := by linarith
      have odd : ¬ ⌊value⌋₊ % 2 = 0 := fun even => up (.inr ⟨half, even⟩)
      omega

/-- No whole number is closer. -/
theorem abs_sub_halfEven_le_abs_sub (whole : Int) :
    |value - halfEven value| ≤ |value - whole| := by
  have close := abs_sub_halfEven_le nonneg
  by_cases same : whole = halfEven value
  · rw [same, Int.cast_natCast]
  · have apart : (1 : ℚ) ≤ |((halfEven value : Int) : ℚ) - whole| := by
      exact_mod_cast
        Int.one_le_abs (sub_ne_zero.mpr (Ne.symm same))
    have triangle := abs_sub_le ((halfEven value : Int) : ℚ) value whole
    rw [Int.cast_natCast, abs_sub_comm (halfEven value : ℚ) value] at triangle
    rw [Int.cast_natCast] at apart
    linarith

end Integers

section Nearest

/-! ## The closest number of the format -/

/-- The exponent a value is rounded at: the one that leaves fifty-three binary
digits, and the lowest for values too small to have them. -/
def roundingExponent (value : ℚ) : Int :=
  if value < 2 ^ (-1022 : Int) then -1074 else Int.log 2 value - 52

/-- A value that is not negative, rounded; no exponent is too high here. -/
def nearest (value : ℚ) : ℚ :=
  halfEven (value / 2 ^ roundingExponent value) * 2 ^ roundingExponent value

variable {value other : ℚ}

theorem scaled_nonneg (nonneg : 0 ≤ value) :
    0 ≤ value / 2 ^ roundingExponent value :=
  div_nonneg nonneg (two_zpow_pos _).le

theorem roundingExponent_ge (value : ℚ) : -1074 ≤ roundingExponent value := by
  unfold roundingExponent
  split
  · exact le_refl _
  · next large =>
      have large := not_lt.mp large
      have positive : 0 < value := (two_zpow_pos _).trans_le large
      have place : -1022 ≤ Int.log 2 value := by
        rw [← Int.zpow_le_iff_le_log (by decide) positive]
        exact_mod_cast large
      omega

theorem lt_two_zpow_roundingExponent (value : ℚ) :
    value < 2 ^ 53 * 2 ^ roundingExponent value := by
  unfold roundingExponent
  split
  · next small =>
      calc
        value < 2 ^ (-1022 : Int) := small
        _ ≤ 2 ^ (53 + -1074 : Int) := two_zpow_le (by decide)
        _ = 2 ^ 53 * 2 ^ (-1074 : Int) := zpow_add₀ two_ne_zero 53 (-1074)
  · have upper := Int.lt_zpow_succ_log_self (b := 2) (by decide) value
    have split : (53 : Int) + (Int.log 2 value - 52) = Int.log 2 value + 1 := by
      omega
    calc
      value < 2 ^ (Int.log 2 value + 1) := by exact_mod_cast upper
      _ = 2 ^ ((53 : Int) + (Int.log 2 value - 52)) := by rw [split]
      _ = 2 ^ 53 * 2 ^ (Int.log 2 value - 52) := zpow_add₀ two_ne_zero 53 _

/-- Above the lowest exponent a value has all its digits. -/
theorem two_zpow_roundingExponent_le
    (normal : roundingExponent value ≠ -1074) :
    2 ^ 52 * 2 ^ roundingExponent value ≤ value := by
  unfold roundingExponent at normal ⊢
  split at normal
  · exact absurd rfl normal
  · next large =>
      have positive : 0 < value :=
        (two_zpow_pos _).trans_le (not_lt.mp large)
      have lower := Int.zpow_log_le_self (b := 2) (by decide) positive
      have split : (52 : Int) + (Int.log 2 value - 52) = Int.log 2 value := by
        omega
      rw [if_neg large]
      calc
        (2 : ℚ) ^ 52 * 2 ^ (Int.log 2 value - 52)
            = 2 ^ ((52 : Int) + (Int.log 2 value - 52)) :=
          (zpow_add₀ two_ne_zero 52 _).symm
        _ = 2 ^ Int.log 2 value := by rw [split]
        _ ≤ value := by exact_mod_cast lower

theorem halfEven_scaled_le (nonneg : 0 ≤ value) :
    halfEven (value / 2 ^ roundingExponent value) ≤ 2 ^ 53 := by
  have unit := two_zpow_pos (roundingExponent value)
  have close :=
    (abs_le.mp (abs_sub_halfEven_le (scaled_nonneg nonneg))).1
  have scaled : value / 2 ^ roundingExponent value < 2 ^ 53 := by
    rw [div_lt_iff₀ unit]
    exact lt_two_zpow_roundingExponent value
  have below :
      (halfEven (value / 2 ^ roundingExponent value) : ℚ) <
        ((2 ^ 53 + 1 : Nat) : ℚ) := by
    push_cast
    linarith
  have strict := Nat.cast_lt.mp below
  omega

/-- The significand has all its digits, too. -/
theorem le_halfEven_scaled
    (nonneg : 0 ≤ value) (normal : roundingExponent value ≠ -1074) :
    2 ^ 52 ≤ halfEven (value / 2 ^ roundingExponent value) := by
  have unit := two_zpow_pos (roundingExponent value)
  have close :=
    (abs_le.mp (abs_sub_halfEven_le (scaled_nonneg nonneg))).2
  have scaled : 2 ^ 52 ≤ value / 2 ^ roundingExponent value := by
    rw [le_div_iff₀ unit]
    exact two_zpow_roundingExponent_le normal
  have above :
      ((2 ^ 52 - 1 : Nat) : ℚ) <
        halfEven (value / 2 ^ roundingExponent value) := by
    have lower : ((2 ^ 52 - 1 : Nat) : ℚ) = 2 ^ 52 - 1 := by norm_num
    rw [lower]
    linarith
  have strict := Nat.cast_lt.mp above
  omega

theorem sub_nearest (value : ℚ) :
    value - nearest value =
      (value / 2 ^ roundingExponent value -
          halfEven (value / 2 ^ roundingExponent value)) *
        2 ^ roundingExponent value := by
  have unit := two_zpow_pos (roundingExponent value)
  rw [sub_mul, div_mul_cancel₀ _ unit.ne', nearest]

/-- No multiple of the unit is closer. -/
theorem abs_sub_nearest_le_multiple (nonneg : 0 ≤ value) (whole : Int) :
    |value - nearest value| ≤
      |value - whole * 2 ^ roundingExponent value| := by
  have unit := two_zpow_pos (roundingExponent value)
  have closest :=
    abs_sub_halfEven_le_abs_sub (scaled_nonneg nonneg) whole
  have scaled :
      value - whole * 2 ^ roundingExponent value =
        (value / 2 ^ roundingExponent value - whole) *
          2 ^ roundingExponent value := by
    rw [sub_mul, div_mul_cancel₀ _ unit.ne']
  rw [sub_nearest, scaled, abs_mul, abs_mul]
  exact mul_le_mul_of_nonneg_right closest (abs_nonneg _)

/-- No number of the format is closer: one of a lower exponent lies below the
value by more than a unit's multiple does. -/
theorem abs_sub_nearest_le (nonneg : 0 ≤ value) (grid : OnGrid other) :
    |value - nearest value| ≤ |value - other| := by
  obtain ⟨significand, exponent, small, low, -, rfl⟩ := grid
  by_cases above : roundingExponent value ≤ exponent
  · obtain ⟨multiple, scaled⟩ := exists_multiple above significand
    rw [scaled]
    exact abs_sub_nearest_le_multiple nonneg multiple
  · have normal : roundingExponent value ≠ -1074 := by omega
    have reaches := two_zpow_roundingExponent_le normal
    have bounded : (significand : ℚ) ≤ 2 ^ 53 := by exact_mod_cast small
    have under :
        (significand : ℚ) * 2 ^ exponent ≤
          2 ^ 52 * 2 ^ roundingExponent value := by
      have half := two_zpow_pred (roundingExponent value)
      calc
        (significand : ℚ) * 2 ^ exponent
            ≤ 2 ^ 53 * 2 ^ (roundingExponent value - 1) :=
          mul_le_mul bounded (two_zpow_le (by omega)) (two_zpow_pos _).le
            (by norm_num)
        _ = 2 ^ 52 * 2 ^ roundingExponent value := by
          rw [half]
          ring
    have closest := abs_sub_nearest_le_multiple nonneg (2 ^ 52)
    rw [Int.cast_pow, Int.cast_ofNat, abs_of_nonneg (sub_nonneg.mpr reaches)]
      at closest
    rw [abs_of_nonneg (sub_nonneg.mpr (under.trans reaches))]
    linarith

/-- A number of the format is rounded to itself. -/
theorem nearest_of_onGrid (nonneg : 0 ≤ value) (grid : OnGrid value) :
    nearest value = value := by
  have close := abs_sub_nearest_le nonneg grid
  rw [sub_self, abs_zero] at close
  exact (sub_eq_zero.mp (abs_nonpos_iff.mp close)).symm

/-- Rounding moves no value past a number of the format. -/
theorem nearest_le (nonneg : 0 ≤ value) (grid : OnGrid other)
    (below : value ≤ other) : nearest value ≤ other := by
  by_contra past
  have past := not_le.mp past
  have close := abs_sub_nearest_le nonneg grid
  rw [abs_of_nonpos (by linarith), abs_of_nonpos (by linarith)] at close
  linarith

theorem le_nearest (nonneg : 0 ≤ value) (grid : OnGrid other)
    (above : other ≤ value) : other ≤ nearest value := by
  by_contra past
  have past := not_le.mp past
  have close := abs_sub_nearest_le nonneg grid
  rw [abs_of_nonneg (by linarith), abs_of_nonneg (by linarith)] at close
  linarith

/-- A value closer to a lower number of the format is rounded below the higher
one. -/
theorem nearest_lt {lower upper : ℚ} (nonneg : 0 ≤ value)
    (grid : OnGrid lower) (ordered : lower < upper)
    (closer : 2 * value < lower + upper) : nearest value < upper := by
  rcases le_or_gt value lower with below | above
  · exact (nearest_le nonneg grid below).trans_lt ordered
  · by_contra past
    have past := not_lt.mp past
    have close := abs_sub_nearest_le nonneg grid
    rw [abs_of_nonpos (by linarith), abs_of_nonneg (by linarith)] at close
    linarith

/-- Small whole numbers are on the grid. -/
theorem onGrid_natCast {whole : Nat} (small : whole ≤ 2 ^ 53) :
    OnGrid whole :=
  ⟨whole, 0, small, by decide, by decide, by rw [zpow_zero, mul_one]⟩

theorem lt_top_of_le (small : value ≤ 2 ^ 53) :
    value < 2 ^ 53 * 2 ^ (971 : Int) := by
  have more : (1 : ℚ) < 2 ^ (971 : Int) := one_lt_zpow₀ one_lt_two (by decide)
  calc
    value ≤ 2 ^ 53 * 1 := small.trans_eq (mul_one _).symm
    _ < 2 ^ 53 * 2 ^ (971 : Int) := mul_lt_mul_of_pos_left more (by norm_num)

/-- A number on the grid is small or a whole number. -/
theorem onGrid_floor (grid : OnGrid value) : OnGrid (⌊value⌋₊ : ℚ) := by
  have kept := grid
  obtain ⟨significand, exponent, small, low, high, rfl⟩ := grid
  by_cases whole : 0 ≤ exponent
  · obtain ⟨shift, rfl⟩ := Int.eq_ofNat_of_zero_le whole
    have natural :
        (significand : ℚ) * 2 ^ (shift : Int) =
          (significand * 2 ^ shift : Nat) := by
      rw [zpow_natCast]
      push_cast
      rfl
    rw [natural, Nat.floor_natCast, ← natural]
    exact kept
  · apply onGrid_natCast
    have below : (significand : ℚ) * 2 ^ exponent ≤ significand := by
      have one := two_zpow_le (show exponent ≤ 0 by omega)
      rw [zpow_zero] at one
      exact mul_le_of_le_one_right (Nat.cast_nonneg _) one
    have floored := Nat.floor_mono below
    rw [Nat.floor_natCast] at floored
    exact floored.trans small

/-- A whole number is rounded to one. -/
theorem exists_nearest_natCast (whole : Nat) :
    ∃ rounded : Nat, nearest (whole : ℚ) = rounded := by
  by_cases above : 0 ≤ roundingExponent (whole : ℚ)
  · obtain ⟨shift, isShift⟩ := Int.eq_ofNat_of_zero_le above
    unfold nearest
    rw [isShift]
    refine ⟨halfEven (whole / 2 ^ (shift : Int)) * 2 ^ shift, ?_⟩
    rw [zpow_natCast]
    push_cast
    rfl
  · have bounded := lt_two_zpow_roundingExponent (whole : ℚ)
    have unit :=
      two_zpow_le (show roundingExponent (whole : ℚ) ≤ 0 by omega)
    rw [zpow_zero] at unit
    have small : (whole : ℚ) < (2 ^ 53 : Nat) := by
      rw [Nat.cast_pow, Nat.cast_ofNat]
      linarith
    have grid := onGrid_natCast (Nat.cast_lt.mp small).le
    exact ⟨whole, nearest_of_onGrid (Nat.cast_nonneg _) grid⟩

/-- The next number down is on the grid. -/
theorem onGrid_magnitude_sub_gap {number : Binary64}
    (nonzero : number.significand ≠ 0) :
    OnGrid (number.magnitude - number.gap) := by
  have low := number.exponent_ge
  have high := number.exponent_le
  unfold magnitude gap
  by_cases lead : number.significand = 2 ^ 52 ∧ number.exponent ≠ -1074
  · refine ⟨2 ^ 53 - 1, number.exponent - 1, by decide, by omega, by omega, ?_⟩
    rw [if_pos lead, lead.1, two_zpow_pred number.exponent]
    push_cast
    ring
  · refine ⟨number.significand - 1, number.exponent, ?_, low, high, ?_⟩
    · have small := number.significand_lt
      omega
    · rw [if_neg lead, Nat.cast_sub (Nat.pos_of_ne_zero nonzero)]
      push_cast
      ring

end Nearest

section Numbers

/-! ## Rounded numbers -/

/-- The value of a number; both zeros have the same. -/
def value (number : Binary64) : ℚ :=
  if number.negative then -number.magnitude else number.magnitude

/-- The number of a sign, a significand and an exponent, if it is one. -/
def build? (negative : Bool) (significand : Nat) (exponent : Int) :
    Option Binary64 :=
  if fields :
      significand < 2 ^ 53 ∧ -1074 ≤ exponent ∧ exponent ≤ 971 ∧
        (2 ^ 52 ≤ significand ∨ exponent = -1074) then
    some
      { negative, significand, exponent
        significand_lt := fields.1
        exponent_ge := fields.2.1
        exponent_le := fields.2.2.1
        normal := fields.2.2.2 }
  else
    none

/-- The number a value is rounded to; none where it overflows. -/
def ofRat? (value : ℚ) : Option Binary64 :=
  let exponent := roundingExponent |value|
  let significand := halfEven (|value| / 2 ^ exponent)
  -- rounding up to `2 ^ 53` carries into the next exponent
  if significand = 2 ^ 53 then
    build? (decide (value < 0)) (2 ^ 52) (exponent + 1)
  else
    build? (decide (value < 0)) significand exponent

variable {value : ℚ} {number : Binary64}

theorem onGrid_magnitude (number : Binary64) : OnGrid number.magnitude :=
  ⟨number.significand, number.exponent, number.significand_lt.le,
    number.exponent_ge, number.exponent_le, rfl⟩

theorem magnitude_nonneg (number : Binary64) : 0 ≤ number.magnitude :=
  mul_nonneg (Nat.cast_nonneg _) (two_zpow_pos _).le

theorem build?_eq_some
    {negative : Bool} {significand : Nat} {exponent : Int}
    (built : build? negative significand exponent = some number) :
    number.negative = negative ∧
      number.magnitude = significand * 2 ^ exponent := by
  unfold build? at built
  split at built
  · cases built
    exact ⟨rfl, rfl⟩
  · cases built

theorem carried (exponent : Int) :
    ((2 ^ 52 : Nat) : ℚ) * 2 ^ (exponent + 1) =
      ((2 ^ 53 : Nat) : ℚ) * 2 ^ exponent := by
  rw [zpow_add_one₀ two_ne_zero]
  push_cast
  ring

theorem ofRat?_eq_some (rounded : ofRat? value = some number) :
    number.negative = decide (value < 0) ∧
      number.magnitude = nearest |value| := by
  simp only [ofRat?] at rounded
  split at rounded
  · next carries =>
      obtain ⟨sign, magnitude⟩ := build?_eq_some rounded
      refine ⟨sign, ?_⟩
      rw [magnitude, carried, nearest, carries]
  · exact build?_eq_some rounded

/-- What is rounded below `2 ^ 1024` does not overflow. -/
theorem exists_ofRat? (inside : nearest |value| < 2 ^ 53 * 2 ^ (971 : Int)) :
    ∃ number, ofRat? value = some number := by
  have nonneg := abs_nonneg value
  have least := roundingExponent_ge |value|
  have most := halfEven_scaled_le nonneg
  have leads := @le_halfEven_scaled |value| nonneg
  unfold nearest at inside
  simp only [ofRat?]
  generalize roundingExponent |value| = exponent at least most leads inside
  generalize halfEven (|value| / 2 ^ exponent) = significand at most leads inside
  have fits {digits : Nat} {place : Int} (full : 2 ^ 52 ≤ digits)
      (below : (digits : ℚ) * 2 ^ place < 2 ^ 53 * 2 ^ (971 : Int)) :
      place ≤ 971 := by
    by_contra high
    have raised := two_zpow_le (show 972 ≤ place by omega)
    have lead : (2 : ℚ) ^ 52 ≤ digits := by exact_mod_cast full
    have past :=
      mul_le_mul lead raised (two_zpow_pos 972).le (Nat.cast_nonneg digits)
    have double : (2 : ℚ) ^ (972 : Int) = 2 * 2 ^ (971 : Int) :=
      two_zpow_pred 972
    rw [double] at past
    linarith
  split
  · next carries =>
      rw [carries, ← carried] at inside
      have place := fits (le_refl _) inside
      unfold build?
      rw [dif_pos ⟨by decide, by omega, place, .inl (le_refl _)⟩]
      exact ⟨_, rfl⟩
  · next stays =>
      have place : exponent ≤ 971 := by
        by_cases normal : exponent = -1074
        · omega
        · exact fits (leads normal) inside
      have range : 2 ^ 52 ≤ significand ∨ exponent = -1074 := by
        by_cases normal : exponent = -1074
        · exact .inr normal
        · exact .inl (leads normal)
      unfold build?
      rw [dif_pos ⟨by omega, least, place, range⟩]
      exact ⟨_, rfl⟩

/-- A number of the format is rounded to itself. -/
theorem exists_ofRat?_of_onGrid (nonneg : 0 ≤ value) (grid : OnGrid value)
    (inside : value < 2 ^ 53 * 2 ^ (971 : Int)) :
    ∃ number, ofRat? value = some number ∧ number.magnitude = value := by
  have exact := nearest_of_onGrid nonneg grid
  have size : |value| = value := abs_of_nonneg nonneg
  have fits : nearest |value| < 2 ^ 53 * 2 ^ (971 : Int) := by
    rw [size, exact]
    exact inside
  obtain ⟨number, rounded⟩ := exists_ofRat? fits
  refine ⟨number, rounded, ?_⟩
  rw [(ofRat?_eq_some rounded).2, size, exact]

end Numbers

section Agreement

/-! ## What rounds to a number is rounded to it -/

variable {value : ℚ} {number : Binary64}

theorem roundingExponent_le (inside : value < 2 ^ 53 * 2 ^ (971 : Int)) :
    roundingExponent value ≤ 971 := by
  have top : (2 : ℚ) ^ 53 * 2 ^ (971 : Int) = 2 ^ (1024 : Int) :=
    (zpow_add₀ two_ne_zero 53 971).symm
  rw [top] at inside
  unfold roundingExponent
  split
  · decide
  · next large =>
      have positive : 0 < value :=
        (two_zpow_pos _).trans_le (not_lt.mp large)
      have place : Int.log 2 value < 1024 := by
        rw [← Int.lt_zpow_iff_log_lt (by decide) positive]
        exact_mod_cast inside
      omega

theorem onGrid_nearest (nonneg : 0 ≤ value)
    (inside : value < 2 ^ 53 * 2 ^ (971 : Int)) : OnGrid (nearest value) :=
  ⟨_, _, halfEven_scaled_le nonneg, roundingExponent_ge value,
    roundingExponent_le inside, rfl⟩

/-- A number that a value rounds to is a multiple of the unit the value is
rounded at: one of a lower exponent lies below the power of two under the
value. -/
theorem RoundsTo.roundingExponent_le (rounds : RoundsTo value number) :
    roundingExponent value ≤ number.exponent := by
  by_contra below
  have normal : Binary64.roundingExponent value ≠ -1074 := by
    have least := number.exponent_ge
    omega
  have reaches := two_zpow_roundingExponent_le normal
  have high := Binary64.roundingExponent_le rounds.lt_top
  have grid : OnGrid (2 ^ 52 * 2 ^ Binary64.roundingExponent value) :=
    ⟨2 ^ 52, _, by decide, roundingExponent_ge value, high, by
      rw [Nat.cast_pow, Nat.cast_ofNat]⟩
  have fewer : (number.significand : ℚ) < 2 ^ 53 := by
    exact_mod_cast number.significand_lt
  have half := two_zpow_pred (Binary64.roundingExponent value)
  have under :
      number.magnitude < 2 ^ 52 * 2 ^ Binary64.roundingExponent value := by
    calc
      number.magnitude < 2 ^ 53 * 2 ^ number.exponent :=
        mul_lt_mul_of_pos_right fewer (two_zpow_pos _)
      _ ≤ 2 ^ 53 * 2 ^ (Binary64.roundingExponent value - 1) :=
        mul_le_mul_of_nonneg_left (two_zpow_le (by omega)) (by norm_num)
      _ = 2 ^ 52 * 2 ^ Binary64.roundingExponent value := by
        rw [half]
        ring
  have closer := rounds.abs_sub_le grid under.ne'
  rw [abs_of_nonneg (by linarith), abs_of_nonneg (by linarith)] at closer
  linarith

/-- Two whole numbers as close to a value are a step apart, and the chosen one
is even. -/
theorem mod_two_of_as_close {scaled : ℚ} (nonneg : 0 ≤ scaled) {whole : Nat}
    (apart : whole ≠ halfEven scaled)
    (tie : |scaled - whole| = |scaled - halfEven scaled|) :
    whole % 2 = 1 := by
  have close := abs_sub_halfEven_le nonneg
  have far : (1 : ℚ) ≤ |((whole : Int) : ℚ) - (halfEven scaled : Int)| := by
    have different : (whole : Int) - halfEven scaled ≠ 0 := by omega
    exact_mod_cast Int.one_le_abs different
  have triangle :=
    abs_sub_le ((whole : Int) : ℚ) scaled ((halfEven scaled : Int) : ℚ)
  simp only [Int.cast_natCast] at far triangle
  rw [abs_sub_comm (whole : ℚ) scaled] at triangle
  have even := halfEven_mod_of_tie nonneg (by linarith)
  have near : |((whole : Int) : ℚ) - (halfEven scaled : Int)| ≤ 1 := by
    simp only [Int.cast_natCast]
    linarith
  have step : |(whole : Int) - halfEven scaled| ≤ 1 := by exact_mod_cast near
  have bounds := abs_le.mp step
  omega

/-- What rounds to a number is rounded to it. -/
theorem RoundsTo.nearest_eq (rounds : RoundsTo value number)
    (nonneg : 0 ≤ value) : nearest value = number.magnitude := by
  by_contra apart
  have unit := two_zpow_pos (Binary64.roundingExponent value)
  have close :=
    abs_sub_nearest_le nonneg (onGrid_magnitude number)
  rcases rounds _ (onGrid_nearest nonneg rounds.lt_top) apart with
    closer | ⟨tie, even⟩
  · linarith
  · have low := rounds.roundingExponent_le
    obtain ⟨shift, isShift⟩ :
        ∃ shift : Nat,
          number.exponent = shift + Binary64.roundingExponent value :=
      ⟨(number.exponent - Binary64.roundingExponent value).toNat, by omega⟩
    have scaled :
        number.magnitude =
          ((number.significand * 2 ^ shift : Nat) : ℚ) *
            2 ^ Binary64.roundingExponent value := by
      rw [magnitude, isShift, zpow_add₀ two_ne_zero, zpow_natCast]
      push_cast
      ring
    have different :
        number.significand * 2 ^ shift ≠
          halfEven (value / 2 ^ Binary64.roundingExponent value) := by
      intro same
      exact apart (by rw [scaled, same, nearest])
    have distance :
        value - number.magnitude =
          (value / 2 ^ Binary64.roundingExponent value -
              (number.significand * 2 ^ shift : Nat)) *
            2 ^ Binary64.roundingExponent value := by
      rw [scaled, sub_mul, div_mul_cancel₀ _ unit.ne']
    rw [distance, sub_nearest, abs_mul, abs_mul] at tie
    have asClose := mul_right_cancel₀ (abs_pos.mpr unit.ne').ne' tie
    have odd :=
      mod_two_of_as_close (scaled_nonneg nonneg) different asClose
    rw [Nat.mul_mod, even, Nat.zero_mul] at odd
    cases odd

end Agreement

end Binary64

section JsNumbers

/-! ## JavaScript numbers -/

namespace JsNumber

/-- The double closest to a value; past the largest it is an infinity. -/
def rounded (value : ℚ) : JsNumber :=
  match Binary64.ofRat? value with
  | some number => .finite number.value
  | none => if value < 0 then .negInfinity else .infinity

/-- A number the format has. -/
def IsDouble : JsNumber → Prop
  | .finite value => ∃ number : Binary64, value = number.value
  | _ => True

variable {value : ℚ} {number : Binary64}

/-- The two ways a value that is not negative is rounded to a double. -/
theorem rounded_of_nearest (nonneg : 0 ≤ value)
    (inside : Binary64.nearest value < 2 ^ 53 * 2 ^ (971 : Int)) :
    rounded value = .finite (Binary64.nearest value) := by
  have size : |value| = value := abs_of_nonneg nonneg
  have fits : Binary64.nearest |value| < 2 ^ 53 * 2 ^ (971 : Int) := by
    rw [size]
    exact inside
  obtain ⟨number, result⟩ := Binary64.exists_ofRat? fits
  obtain ⟨sign, magnitude⟩ := Binary64.ofRat?_eq_some result
  have plain : number.value = Binary64.nearest value := by
    rw [Binary64.value, sign, decide_eq_false (not_lt.mpr nonneg),
      if_neg Bool.false_ne_true, magnitude, size]
  simp only [rounded, result, plain]

/-- A number of the format stands. -/
theorem rounded_of_onGrid (nonneg : 0 ≤ value) (grid : Binary64.OnGrid value)
    (inside : value < 2 ^ 53 * 2 ^ (971 : Int)) :
    rounded value = .finite value := by
  have exact := Binary64.nearest_of_onGrid nonneg grid
  have fits := rounded_of_nearest nonneg (by rw [exact]; exact inside)
  rw [fits, exact]

theorem rounded_of_roundsTo (nonneg : 0 ≤ value)
    (rounds : Binary64.RoundsTo value number) :
    rounded value = .finite number.magnitude := by
  have near := rounds.nearest_eq nonneg
  have inside := Binary64.magnitude_lt_top number
  have fits := rounded_of_nearest nonneg (by rw [near]; exact inside)
  rw [fits, near]

/-- A value of the grid is a double. -/
theorem isDouble_of_onGrid (nonneg : 0 ≤ value) (grid : Binary64.OnGrid value)
    (inside : value < 2 ^ 53 * 2 ^ (971 : Int)) : IsDouble (.finite value) := by
  obtain ⟨number, rounded, magnitude⟩ :=
    Binary64.exists_ofRat?_of_onGrid nonneg grid inside
  refine ⟨number, ?_⟩
  rw [Binary64.value, (Binary64.ofRat?_eq_some rounded).1,
    decide_eq_false (not_lt.mpr nonneg), if_neg Bool.false_ne_true, magnitude]

theorem isDouble_natCast {whole : Nat} (small : whole ≤ 2 ^ 53) :
    IsDouble (.finite (whole : ℚ)) :=
  isDouble_of_onGrid (Nat.cast_nonneg _) (Binary64.onGrid_natCast small)
    (Binary64.lt_top_of_le (by exact_mod_cast small))

/-- A double that is not negative is on the grid. -/
theorem IsDouble.onGrid (double : IsDouble (.finite value)) (nonneg : 0 ≤ value) :
    Binary64.OnGrid value ∧ value < 2 ^ 53 * 2 ^ (971 : Int) := by
  obtain ⟨number, rfl⟩ := double
  have size := Binary64.magnitude_nonneg number
  have same : number.value = number.magnitude := by
    unfold Binary64.value at nonneg ⊢
    split at nonneg
    · next negative =>
        rw [if_pos negative]
        linarith
    · next positive => rw [if_neg positive]
  rw [same]
  exact ⟨Binary64.onGrid_magnitude number, Binary64.magnitude_lt_top number⟩

end JsNumber

end JsNumbers

end Btcr2Aggregation
