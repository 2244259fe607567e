import Mathlib.Data.Int.Log
import Mathlib.Algebra.Order.Round
import Mathlib.Algebra.Order.Archimedean.Basic
import Mathlib.Data.Rat.Floor
import Mathlib.Data.Nat.Digits.Defs
import Mathlib.Tactic.Linarith
import Mathlib.Tactic.NormNum
import Mathlib.Tactic.Ring

/-!
# Binary64 numbers and their shortest decimals

A finite number of the format is a significand of 53 bits times a power of two.
A decimal *rounds to* the number that lies closest to it, a tie going to the
even significand; numbers past the largest are rounded against the power of two
that would follow it.

The neighbours of a number are at least its gap away, and a number is at most
`2 ^ 53` gaps.  As `2 ^ 53 < 10 ^ 16`, seventeen significant digits always come
within half a gap, so that the shortest decimal that rounds to a number never
has more.
-/

namespace Btcr2Aggregation

/-- A finite binary64 number: `significand * 2 ^ exponent` with a sign.  A
significand below `2 ^ 52` stands only in the lowest exponent. -/
structure Binary64 where
  negative : Bool
  significand : Nat
  exponent : Int
  significand_lt : significand < 2 ^ 53
  exponent_ge : -1074 ≤ exponent
  exponent_le : exponent ≤ 971
  normal : 2 ^ 52 ≤ significand ∨ exponent = -1074

namespace Binary64

section Rounding

/-! ## Rounding -/

/-- The absolute value. -/
def magnitude (number : Binary64) : ℚ :=
  number.significand * 2 ^ number.exponent

/-- The absolute values of the format, and the `2 ^ 1024` that stands for
everything past them. -/
def OnGrid (value : ℚ) : Prop :=
  ∃ (significand : Nat) (exponent : Int),
    significand ≤ 2 ^ 53 ∧ -1074 ≤ exponent ∧ exponent ≤ 971 ∧
      value = significand * 2 ^ exponent

/-- The number's absolute value is the closest one to the value, or one of two
as close and the even one. -/
def RoundsTo (value : ℚ) (number : Binary64) : Prop :=
  ∀ other, OnGrid other → other ≠ number.magnitude →
    |value - number.magnitude| < |value - other| ∨
      |value - number.magnitude| = |value - other| ∧
        number.significand % 2 = 0

theorem RoundsTo.abs_sub_le
    {value : ℚ} {number : Binary64} (rounds : RoundsTo value number)
    {other : ℚ} (grid : OnGrid other) (apart : other ≠ number.magnitude) :
    |value - number.magnitude| ≤ |value - other| := by
  rcases rounds other grid apart with closer | ⟨tie, -⟩
  · exact closer.le
  · exact tie.le

end Rounding

section Gaps

/-! ## Gaps -/

/-- A lower bound for the distance to the neighbours: below a power of two they
are half as far as above. -/
def gap (number : Binary64) : ℚ :=
  if number.significand = 2 ^ 52 ∧ number.exponent ≠ -1074 then
    2 ^ (number.exponent - 1)
  else
    2 ^ number.exponent

variable (number : Binary64)

theorem two_zpow_pos (exponent : Int) : (0 : ℚ) < 2 ^ exponent :=
  zpow_pos two_pos exponent

theorem gap_pos : 0 < number.gap := by
  unfold gap
  split
  · exact two_zpow_pos _
  · exact two_zpow_pos _

/-- Two different multiples of a unit are a unit apart. -/
theorem unit_le_abs_sub {unit : ℚ} (positive : 0 < unit) {first second : Int}
    (apart : (second : ℚ) * unit ≠ first * unit) :
    unit ≤ |(first : ℚ) * unit - second * unit| := by
  have different : first - second ≠ 0 := by
    intro same
    have equal : second = first := by omega
    exact apart (by rw [equal])
  have whole : (1 : ℚ) ≤ |((first - second : Int) : ℚ)| := by
    exact_mod_cast Int.one_le_abs different
  calc
    unit = 1 * unit := (one_mul unit).symm
    _ ≤ |((first - second : Int) : ℚ)| * unit :=
      mul_le_mul_of_nonneg_right whole positive.le
    _ = |(first : ℚ) * unit - second * unit| := by
      rw [← sub_mul, abs_mul, abs_of_pos positive, Int.cast_sub]

/-- A number on the grid is a multiple of every power of two that is on the
grid and no higher than its own. -/
theorem exists_multiple {low high : Int} (ordered : low ≤ high)
    (significand : Nat) :
    ∃ multiple : Int,
      (significand : ℚ) * 2 ^ high = multiple * 2 ^ low := by
  refine ⟨significand * 2 ^ (high - low).toNat, ?_⟩
  have split : high = (high - low).toNat + low := by omega
  conv_lhs => rw [split, zpow_add₀ two_ne_zero, zpow_natCast]
  push_cast
  ring

theorem two_zpow_le {low high : Int} (ordered : low ≤ high) :
    (2 : ℚ) ^ low ≤ 2 ^ high :=
  zpow_le_zpow_right₀ one_le_two ordered

theorem two_zpow_pred (exponent : Int) :
    (2 : ℚ) ^ exponent = 2 * 2 ^ (exponent - 1) := by
  rw [← zpow_one_add₀ two_ne_zero]
  congr 1
  omega

/-- A gap is at most the unit of the significand. -/
theorem gap_le : number.gap ≤ 2 ^ number.exponent := by
  unfold gap
  split
  · exact two_zpow_le (by omega)
  · exact le_refl _

/-- A number is at most `2 ^ 53` gaps. -/
theorem magnitude_le : number.magnitude ≤ 2 ^ 53 * number.gap := by
  have positive := two_zpow_pos number.exponent
  unfold magnitude gap
  by_cases lead : number.significand = 2 ^ 52 ∧ number.exponent ≠ -1074
  · rw [if_pos lead, lead.1, two_zpow_pred number.exponent]
    push_cast
    linarith
  · rw [if_neg lead]
    apply mul_le_mul_of_nonneg_right _ positive.le
    exact_mod_cast number.significand_lt.le

/-- What has a lower exponent lies below by a gap: under a power of two it may
be one unit of the next exponent down, under any other number it stops at the
power of two. -/
theorem add_gap_le {exponent : Int} (below : exponent < number.exponent)
    (low : -1074 ≤ exponent) {significand : Nat} (small : significand ≤ 2 ^ 53)
    (apart : (significand : ℚ) * 2 ^ exponent ≠ number.magnitude) :
    (significand : ℚ) * 2 ^ exponent + number.gap ≤ number.magnitude := by
  have half := two_zpow_pred number.exponent
  have unit := two_zpow_pos (number.exponent - 1)
  have bounded : (significand : ℚ) ≤ 2 ^ 53 := by exact_mod_cast small
  have under :
      ∀ highest : Int, exponent ≤ highest →
        (significand : ℚ) * 2 ^ exponent ≤ 2 ^ 53 * 2 ^ highest := by
    intro highest ordered
    exact
      mul_le_mul bounded (two_zpow_le ordered) (two_zpow_pos exponent).le
        (by norm_num)
  unfold magnitude at apart ⊢
  unfold gap
  by_cases lead : number.significand = 2 ^ 52 ∧ number.exponent ≠ -1074
  · rw [if_pos lead]
    rw [lead.1, half] at apart ⊢
    push_cast at apart ⊢
    by_cases next : exponent = number.exponent - 1
    · rw [next] at apart ⊢
      have fewer : significand ≠ 2 ^ 53 := by
        intro full
        apply apart
        rw [full]
        push_cast
        ring
      have room : (significand : ℚ) + 1 ≤ 2 ^ 53 := by
        have strict : significand + 1 ≤ 2 ^ 53 := by omega
        exact_mod_cast strict
      have scaled := mul_le_mul_of_nonneg_right room unit.le
      linarith
    · have twice := two_zpow_pred (number.exponent - 1)
      have far := under (number.exponent - 1 - 1) (by omega)
      linarith
  · rw [if_neg lead]
    have normal : 2 ^ 52 + 1 ≤ number.significand := by
      have range := number.normal
      omega
    have more : (2 : ℚ) ^ 52 + 1 ≤ number.significand := by
      exact_mod_cast normal
    have scaled :=
      mul_le_mul_of_nonneg_right more (two_zpow_pos number.exponent).le
    have far := under (number.exponent - 1) (by omega)
    linarith

/-- Nothing else on the grid is closer than a gap. -/
theorem gap_le_abs_sub {other : ℚ} (grid : OnGrid other)
    (apart : other ≠ number.magnitude) :
    number.gap ≤ |number.magnitude - other| := by
  obtain ⟨significand, exponent, small, low, high, rfl⟩ := grid
  by_cases above : number.exponent ≤ exponent
  · have positive := two_zpow_pos number.exponent
    obtain ⟨multiple, scaled⟩ := exists_multiple above significand
    rw [scaled] at apart ⊢
    have units := unit_le_abs_sub positive apart
    exact (number.gap_le).trans units
  · have below := number.add_gap_le (by omega) low small apart
    rw [abs_of_nonneg]
    · linarith
    · linarith [number.gap_pos]

/-- What comes within half a gap rounds to the number. -/
theorem roundsTo_of_abs_sub_lt {value : ℚ}
    (close : |value - number.magnitude| < number.gap / 2) :
    RoundsTo value number := by
  intro other grid apart
  have far := number.gap_le_abs_sub grid apart
  have triangle := abs_sub_le number.magnitude value other
  rw [abs_sub_comm number.magnitude value] at triangle
  left
  linarith

end Gaps

section Decimals

/-! ## Decimals -/

/-- The significant digits of a decimal. -/
def digitCount (digits : Nat) : Nat :=
  (Nat.toDigits 10 digits).length

/-- The value of a decimal. -/
def decimal (digits : Nat) (exponent : Int) : ℚ :=
  digits * 10 ^ exponent

variable {number : Binary64}

theorem ten_zpow_pos (exponent : Int) : (0 : ℚ) < 10 ^ exponent :=
  zpow_pos (by norm_num) exponent

theorem magnitude_pos (nonzero : number.significand ≠ 0) :
    0 < number.magnitude := by
  have positive : (0 : ℚ) < number.significand := by
    exact_mod_cast Nat.pos_of_ne_zero nonzero
  exact mul_pos positive (two_zpow_pos number.exponent)

theorem digitCount_le {digits count : Nat} (positive : 0 < count)
    (small : digits < 10 ^ count) : digitCount digits ≤ count :=
  (Nat.length_toDigits_le_iff (by decide) positive).mpr small

/-- The last place of seventeen digits is within a gap. -/
theorem ten_zpow_log_lt_gap (nonzero : number.significand ≠ 0) :
    (10 : ℚ) ^ (Int.log 10 number.magnitude - 16) < number.gap := by
  have lower :=
    Int.zpow_log_le_self (b := 10) (by decide) (magnitude_pos nonzero)
  have upper := number.magnitude_le
  have positive := number.gap_pos
  rw [zpow_sub₀ (by norm_num)]
  push_cast at lower
  have last : (10 : ℚ) ^ Int.log 10 number.magnitude / 10 ^ (16 : Int) ≤
      2 ^ 53 * number.gap / 10 ^ (16 : Int) := by
    apply div_le_div_of_nonneg_right (lower.trans upper)
    norm_num
  apply last.trans_lt
  rw [div_lt_iff₀ (by norm_num)]
  norm_num
  linarith

/-- Counted in that place, the number has seventeen digits before the point. -/
theorem scaled_bounds (nonzero : number.significand ≠ 0) :
    (10 : ℚ) ^ 16 ≤
        number.magnitude / 10 ^ (Int.log 10 number.magnitude - 16) ∧
      number.magnitude / 10 ^ (Int.log 10 number.magnitude - 16) <
        10 ^ 17 := by
  have base : 1 < 10 := by decide
  have lower := Int.zpow_log_le_self base (magnitude_pos nonzero)
  have upper := Int.lt_zpow_succ_log_self base number.magnitude
  have unit := ten_zpow_pos (Int.log 10 number.magnitude - 16)
  push_cast at lower upper
  rw [le_div_iff₀ unit, div_lt_iff₀ unit, ← zpow_natCast, ← zpow_natCast,
    ← zpow_add₀ (by norm_num), ← zpow_add₀ (by norm_num)]
  constructor
  · have place :
        ((16 : Nat) : Int) + (Int.log 10 number.magnitude - 16) =
          Int.log 10 number.magnitude := by
      omega
    rw [place]
    exact lower
  · have place :
        ((17 : Nat) : Int) + (Int.log 10 number.magnitude - 16) =
          Int.log 10 number.magnitude + 1 := by
      omega
    rw [place]
    exact upper

/-- Some decimal of at most seventeen digits rounds to the number: its first
seventeen digits, rounded.  Rounding may carry into an eighteenth, and is then
a power of ten. -/
theorem exists_decimal (nonzero : number.significand ≠ 0) :
    ∃ digits exponent,
      0 < digits ∧ digitCount digits ≤ 17 ∧
        RoundsTo (decimal digits exponent) number := by
  obtain ⟨place, isPlace⟩ :
      ∃ place, place = Int.log 10 number.magnitude - 16 :=
    ⟨_, rfl⟩
  obtain ⟨lower, upper⟩ := scaled_bounds nonzero
  have short := ten_zpow_log_lt_gap nonzero
  rw [← isPlace] at lower upper short
  have unit := ten_zpow_pos place
  have half := abs_sub_round (number.magnitude / 10 ^ place)
  obtain ⟨rounded, isRounded⟩ :
      ∃ rounded, rounded = round (number.magnitude / 10 ^ place) :=
    ⟨_, rfl⟩
  rw [← isRounded] at half
  obtain ⟨notLess, notMore⟩ := abs_le.mp half
  have least : 10 ^ 16 ≤ rounded := by
    have whole : ((10 ^ 16 - 1 : Int) : ℚ) < rounded := by
      norm_num
      linarith
    have strict := Int.cast_lt.mp whole
    omega
  have most : rounded ≤ 10 ^ 17 := by
    have whole : (rounded : ℚ) < ((10 ^ 17 + 1 : Int) : ℚ) := by
      norm_num
      linarith
    have strict := Int.cast_lt.mp whole
    omega
  have close : RoundsTo (rounded * 10 ^ place) number := by
    apply roundsTo_of_abs_sub_lt
    have scaled :
        (rounded : ℚ) * 10 ^ place - number.magnitude =
          -((number.magnitude / 10 ^ place - rounded) * 10 ^ place) := by
      rw [sub_mul, div_mul_cancel₀ _ unit.ne']
      ring
    rw [scaled, abs_neg, abs_mul, abs_of_pos unit]
    have error := mul_le_mul_of_nonneg_right half unit.le
    linarith
  have natural : ((rounded.toNat : Nat) : ℚ) = rounded := by
    have nonneg : 0 ≤ rounded := by omega
    exact_mod_cast Int.toNat_of_nonneg nonneg
  by_cases carries : rounded = 10 ^ 17
  · refine ⟨1, place + 17, by decide, by decide, ?_⟩
    have value : decimal 1 (place + 17) = rounded * 10 ^ place := by
      rw [decimal, carries, zpow_add₀ (by norm_num)]
      push_cast
      ring
    rw [value]
    exact close
  · refine ⟨rounded.toNat, place, by omega, ?_, ?_⟩
    · apply digitCount_le (by decide)
      omega
    · rw [decimal, natural]
      exact close

end Decimals

section Shortest

/-! ## Shortest decimals -/

/-- The decimals a number may be written as: those that round to it, with as
few digits as any that does. -/
structure ShortestDecimal
    (number : Binary64) (digits : Nat) (exponent : Int) : Prop where
  positive : 0 < digits
  rounds : RoundsTo (decimal digits exponent) number
  shortest :
    ∀ other otherExponent, 0 < other →
      RoundsTo (decimal other otherExponent) number →
        digitCount digits ≤ digitCount other

variable {number : Binary64} {digits : Nat} {exponent : Int}

/-- A number that is not zero has one. -/
theorem exists_shortestDecimal (nonzero : number.significand ≠ 0) :
    ∃ digits exponent, ShortestDecimal number digits exponent := by
  classical
  have counted :
      ∃ count digits exponent,
        digitCount digits = count ∧ 0 < digits ∧
          RoundsTo (decimal digits exponent) number := by
    obtain ⟨digits, exponent, positive, -, rounds⟩ := exists_decimal nonzero
    exact ⟨_, digits, exponent, rfl, positive, rounds⟩
  obtain ⟨digits, exponent, count, positive, rounds⟩ := Nat.find_spec counted
  refine ⟨digits, exponent, positive, rounds, ?_⟩
  intro other otherExponent otherPositive otherRounds
  rw [count]
  exact
    Nat.find_min' counted
      ⟨other, otherExponent, rfl, otherPositive, otherRounds⟩

/-- It has at most seventeen digits. -/
theorem ShortestDecimal.digitCount_le
    (shortest : ShortestDecimal number digits exponent)
    (nonzero : number.significand ≠ 0) : digitCount digits ≤ 17 := by
  obtain ⟨other, otherExponent, positive, count, rounds⟩ :=
    exists_decimal nonzero
  exact (shortest.shortest other otherExponent positive rounds).trans count

/-- The largest number of the format. -/
def largest : ℚ :=
  (2 ^ 53 - 1) * 2 ^ (971 : Int)

theorem magnitude_le_largest (number : Binary64) :
    number.magnitude ≤ largest := by
  have fewer : (number.significand : ℚ) ≤ 2 ^ 53 - 1 := by
    have strict := number.significand_lt
    have bound : ((2 ^ 53 - 1 : Nat) : ℚ) = 2 ^ 53 - 1 := by norm_num
    rw [← bound]
    exact Nat.cast_le.mpr (by omega)
  exact
    mul_le_mul fewer (two_zpow_le number.exponent_le) (two_zpow_pos _).le
      (by norm_num)

theorem largest_lt_top : largest < 2 ^ 53 * 2 ^ (971 : Int) :=
  mul_lt_mul_of_pos_right (by norm_num) (two_zpow_pos _)

theorem magnitude_lt_top (number : Binary64) :
    number.magnitude < 2 ^ 53 * 2 ^ (971 : Int) :=
  number.magnitude_le_largest.trans_lt largest_lt_top

theorem onGrid_largest : OnGrid largest :=
  ⟨2 ^ 53 - 1, 971, by decide, by decide, le_refl _, by
    rw [largest, Nat.cast_sub (by decide)]
    norm_num⟩

/-- What rounds to a number of the format is below what stands for everything
past it. -/
theorem RoundsTo.lt_top {value : ℚ} (rounds : RoundsTo value number) :
    value < 2 ^ 53 * 2 ^ (971 : Int) := by
  have top : OnGrid (2 ^ 53 * 2 ^ (971 : Int)) :=
    ⟨2 ^ 53, 971, le_refl _, by decide, le_refl _, by
      rw [Nat.cast_pow, Nat.cast_ofNat]⟩
  have inside := number.magnitude_lt_top
  have closer := rounds.abs_sub_le top inside.ne'
  by_contra past
  have past := not_lt.mp past
  rw [abs_of_nonneg (by linarith), abs_of_nonneg (by linarith)] at closer
  linarith

/-- What rounds to a number is at least half of it: zero is no closer. -/
theorem RoundsTo.half_le {value : ℚ} (rounds : RoundsTo value number)
    (positive : 0 < value) (nonzero : number.significand ≠ 0) :
    number.magnitude / 2 ≤ value := by
  have zero : OnGrid 0 :=
    ⟨0, 0, Nat.zero_le _, by decide, by decide, by simp⟩
  have closer := rounds.abs_sub_le zero (magnitude_pos nonzero).ne
  rw [sub_zero, abs_of_pos positive] at closer
  have below := (abs_le.mp closer).1
  linarith

/-- The smallest number of the format. -/
theorem two_zpow_le_magnitude (nonzero : number.significand ≠ 0) :
    (2 : ℚ) ^ (-1074 : Int) ≤ number.magnitude := by
  have one : (1 : ℚ) ≤ number.significand := by
    exact_mod_cast Nat.pos_of_ne_zero nonzero
  calc
    (2 : ℚ) ^ (-1074 : Int) ≤ 2 ^ number.exponent :=
      two_zpow_le number.exponent_ge
    _ = 1 * 2 ^ number.exponent := (one_mul _).symm
    _ ≤ number.magnitude :=
      mul_le_mul_of_nonneg_right one (two_zpow_pos _).le

/-- A decimal lies between two powers of ten by its first digit's place. -/
theorem decimal_bounds (positive : 0 < digits) :
    (10 : ℚ) ^ (exponent + digitCount digits - 1) ≤ decimal digits exponent ∧
      decimal digits exponent < 10 ^ (exponent + digitCount digits) := by
  have counted : 0 < digitCount digits := Nat.length_toDigits_pos
  have unit := ten_zpow_pos exponent
  have fits : digits < 10 ^ digitCount digits :=
    (Nat.length_toDigits_le_iff (by decide) counted).mp (le_refl _)
  have leads : 10 ^ (digitCount digits - 1) ≤ digits := by
    by_cases single : digitCount digits = 1
    · rw [single]
      exact positive
    · by_contra fewer
      have shorter : digitCount digits ≤ digitCount digits - 1 :=
        digitCount_le (by omega) (not_le.mp fewer)
      omega
  unfold decimal
  constructor
  · have place :
        exponent + digitCount digits - 1 =
          ((digitCount digits - 1 : Nat) : Int) + exponent := by
      omega
    rw [place, zpow_add₀ (by norm_num), zpow_natCast]
    apply mul_le_mul_of_nonneg_right _ unit.le
    exact_mod_cast leads
  · rw [add_comm, zpow_add₀ (by norm_num), zpow_natCast]
    apply mul_lt_mul_of_pos_right _ unit
    exact_mod_cast fits

theorem ten_zpow_lt {low high : Int} (ordered : (10 : ℚ) ^ low < 10 ^ high) :
    low < high :=
  (zpow_lt_zpow_iff_right₀ (by norm_num)).mp ordered

/-- A power of ten past every number of the format. -/
theorem top_lt : (2 : ℚ) ^ 53 * 2 ^ (971 : Int) < 10 ^ (988 : Int) := by
  have small : (2 : ℚ) ^ 53 < 10 ^ (17 : Int) := by norm_num
  have large : (2 : ℚ) ^ (971 : Int) < 10 ^ (971 : Int) :=
    zpow_lt_zpow_left₀ (by decide) two_pos.le (by norm_num)
  have product :=
    mul_lt_mul small large.le (two_zpow_pos 971) (ten_zpow_pos 17).le
  rw [← zpow_add₀ (by norm_num)] at product
  exact product

/-- A power of ten below half of every number of the format. -/
theorem ten_zpow_lt_half : (10 : ℚ) ^ (-359 : Int) < 2 ^ (-1074 : Int) / 2 := by
  have octal : (8 : ℚ) ^ (-359 : Int) = 2 ^ (-1077 : Int) := by
    have eight : (8 : ℚ) = 2 ^ (3 : Int) := by norm_num
    rw [eight, ← zpow_mul]
    rfl
  have lower : (10 : ℚ) ^ (-359 : Int) < 8 ^ (-359 : Int) := by
    rw [zpow_neg, zpow_neg]
    apply inv_strictAnti₀ (zpow_pos (by norm_num) _)
    exact zpow_lt_zpow_left₀ (by decide) (by norm_num) (by norm_num)
  have split : (2 : ℚ) ^ (-1074 : Int) = 2 ^ (-1077 : Int) * 2 ^ (3 : Int) := by
    rw [← zpow_add₀ two_ne_zero]
    rfl
  have positive := two_zpow_pos (-1077)
  have eight : (2 : ℚ) ^ (3 : Int) = 8 := by norm_num
  rw [split, eight]
  linarith

/-- The place of the first digit has at most three digits itself. -/
theorem ShortestDecimal.natAbs_lt
    (shortest : ShortestDecimal number digits exponent)
    (nonzero : number.significand ≠ 0) :
    (exponent + digitCount digits - 1).natAbs < 1000 := by
  obtain ⟨lower, upper⟩ := decimal_bounds shortest.positive
  have positive : 0 < decimal digits exponent :=
    lt_of_lt_of_le (ten_zpow_pos _) lower
  have high : exponent + digitCount digits - 1 < 988 := by
    apply ten_zpow_lt
    calc
      (10 : ℚ) ^ (exponent + digitCount digits - 1) ≤ decimal digits exponent :=
        lower
      _ < 2 ^ 53 * 2 ^ (971 : Int) := shortest.rounds.lt_top
      _ < 10 ^ (988 : Int) := top_lt
  have low : -359 < exponent + digitCount digits := by
    apply ten_zpow_lt
    calc
      (10 : ℚ) ^ (-359 : Int) < 2 ^ (-1074 : Int) / 2 := ten_zpow_lt_half
      _ ≤ number.magnitude / 2 := by
        linarith [two_zpow_le_magnitude nonzero]
      _ ≤ decimal digits exponent := shortest.rounds.half_le positive nonzero
      _ < 10 ^ (exponent + digitCount digits) := upper
  omega

end Shortest

end Binary64

end Btcr2Aggregation
