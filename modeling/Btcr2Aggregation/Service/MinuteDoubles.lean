import Btcr2Aggregation.Library.Rounding
import Btcr2Aggregation.Service.SettingsSeed

/-!
# Whole minutes in doubles

The service divides a window by a minute, floors the quotient and multiplies it
back, and every result is rounded to a double.  Up to `2 ^ 53` ms that is the
exact floor.  Beyond, it may be no whole number of minutes, but it still bounds
the same whole-minute windows as the length it was taken of: a minute is
between `2 ^ 15` and `2 ^ 16` ms, so that the doubles around a length and those
around its minutes lie about as close.
-/

namespace Btcr2Aggregation

open Binary64

/-- `wholeMinutesAtOrBelow` in doubles. -/
def wholeMinutesAtOrBelow64 (ms : Nat) : Nat :=
  ⌊nearest (⌊nearest (ms / oneMinuteMs)⌋₊ * oneMinuteMs)⌋₊

section Exact

/-! ## The value -/

theorem wholeMinutesAtOrBelow64_cast (ms : Nat) :
    (wholeMinutesAtOrBelow64 ms : ℚ) =
      nearest (⌊nearest (ms / oneMinuteMs)⌋₊ * oneMinuteMs) := by
  obtain ⟨rounded, isRounded⟩ :=
    exists_nearest_natCast (⌊nearest (ms / oneMinuteMs)⌋₊ * oneMinuteMs)
  rw [Nat.cast_mul] at isRounded
  rw [wholeMinutesAtOrBelow64, isRounded, Nat.floor_natCast]

theorem minutes_nonneg (ms : Nat) : (0 : ℚ) ≤ ms / oneMinuteMs :=
  div_nonneg (Nat.cast_nonneg _) (Nat.cast_nonneg _)

/-- Up to `2 ^ 53` ms doubles floor exactly: a length that ends short of a
minute ends a `60000`th of one short, and the doubles below `2 ^ 38` are
closer. -/
theorem wholeMinutesAtOrBelow64_eq {ms : Nat} (small : ms ≤ 2 ^ 53) :
    wholeMinutesAtOrBelow64 ms = wholeMinutesAtOrBelow ms := by
  have division := Nat.div_add_mod ms oneMinuteMs
  have rest := Nat.mod_lt ms (show 0 < oneMinuteMs by decide)
  have minute : oneMinuteMs = 60000 := rfl
  rw [minute] at division rest
  obtain ⟨minutes, isMinutes⟩ : ∃ minutes, minutes = ms / 60000 := ⟨_, rfl⟩
  rw [← isMinutes] at division
  have grid : OnGrid (minutes : ℚ) := onGrid_natCast (by omega)
  have lower : (minutes : ℚ) ≤ ms / oneMinuteMs := by
    have scaled : minutes * 60000 ≤ ms := by omega
    rw [minute, le_div_iff₀ (by norm_num)]
    exact_mod_cast scaled
  have next : OnGrid (((minutes + 1) * 2 ^ 15 - 1 : Nat) * 2 ^ (-15 : Int)) :=
    ⟨_, -15, by omega, by decide, by decide, rfl⟩
  have step :
      (((minutes + 1) * 2 ^ 15 - 1 : Nat) : ℚ) * 2 ^ (-15 : Int) =
        minutes + 1 - 1 / 32768 := by
    rw [Nat.cast_sub (by omega)]
    norm_num
    ring
  rw [step] at next
  have upper : nearest (ms / oneMinuteMs) < (minutes + 1 : Nat) := by
    apply nearest_lt (minutes_nonneg ms) next
    · push_cast
      linarith
    · have length : (ms : ℚ) ≤ 60000 * minutes + 59999 := by
        have short : ms ≤ 60000 * minutes + 59999 := by omega
        exact_mod_cast short
      have quotient : (ms : ℚ) / oneMinuteMs ≤ minutes + 59999 / 60000 := by
        rw [minute, div_le_iff₀ (by norm_num)]
        norm_num
        linarith
      push_cast
      linarith
  have floored : ⌊nearest ((ms : ℚ) / oneMinuteMs)⌋₊ = minutes := by
    apply le_antisymm
    · have below := (Nat.floor_lt' (Nat.succ_ne_zero minutes)).mpr upper
      omega
    · exact Nat.le_floor (le_nearest (minutes_nonneg ms) grid lower)
  have product : OnGrid ((minutes * oneMinuteMs : Nat) : ℚ) :=
    onGrid_natCast (by rw [minute]; omega)
  rw [wholeMinutesAtOrBelow64, floored, ← Nat.cast_mul,
    nearest_of_onGrid (Nat.cast_nonneg _) product, Nat.floor_natCast, isMinutes]
  rfl

end Exact

section Minutes

/-! ## The minutes of a window -/

/-- A whole number of minutes on the grid has its minutes on the grid. -/
theorem onGrid_minutes {minutes : Nat}
    (grid : OnGrid ((minutes * oneMinuteMs : Nat) : ℚ)) :
    OnGrid (minutes : ℚ) := by
  obtain ⟨significand, exponent, small, low, high, same⟩ := grid
  by_cases whole : 0 ≤ exponent
  · obtain ⟨shift, rfl⟩ := Int.eq_ofNat_of_zero_le whole
    have product : minutes * oneMinuteMs = significand * 2 ^ shift := by
      rw [zpow_natCast] at same
      exact_mod_cast same
    have minute : oneMinuteMs = 1875 * 2 ^ 5 := rfl
    rw [minute] at product
    have divides : 1875 ∣ significand := by
      have coprime : Nat.Coprime 1875 (2 ^ shift) :=
        Nat.Coprime.pow_right shift (by decide)
      apply coprime.dvd_of_dvd_mul_right
      exact ⟨minutes * 2 ^ 5, by rw [← product]; ring⟩
    obtain ⟨part, rfl⟩ := divides
    refine ⟨part, shift - 5, by omega, by omega, ?_, ?_⟩
    · omega
    · have scaled : minutes * 2 ^ 5 = part * 2 ^ shift := by
        apply Nat.eq_of_mul_eq_mul_left (show 0 < 1875 by decide)
        linarith
      have cast : (minutes : ℚ) * 2 ^ 5 = part * 2 ^ shift := by
        exact_mod_cast scaled
      rw [zpow_sub₀ two_ne_zero, zpow_natCast, mul_div_assoc', ← cast]
      norm_num
  · apply onGrid_natCast
    have one := two_zpow_le (show exponent ≤ 0 by omega)
    rw [zpow_zero] at one
    have below : ((minutes * oneMinuteMs : Nat) : ℚ) ≤ significand := by
      rw [same]
      exact mul_le_of_le_one_right (Nat.cast_nonneg _) one
    have fits : minutes * oneMinuteMs ≤ significand := by exact_mod_cast below
    have minute : oneMinuteMs = 60000 := rfl
    rw [minute] at fits
    omega

theorem two_zpow_add {low high : Int} (shift : Nat)
    (above : high = low + shift) : (2 : ℚ) ^ high = 2 ^ shift * 2 ^ low := by
  rw [above, zpow_add₀ two_ne_zero, zpow_natCast, mul_comm]

/-- From one on a number has all its digits. -/
theorem le_significand {number : Binary64} (one : 1 ≤ number.magnitude) :
    2 ^ 52 ≤ number.significand := by
  rcases number.normal with normal | lowest
  · exact normal
  · have below := number.magnitude_le
    have gap := number.gap_le
    rw [lowest] at gap
    have tiny : (2 : ℚ) ^ (-1074 : Int) ≤ 2 ^ (-54 : Int) :=
      two_zpow_le (by decide)
    have scale : (2 : ℚ) ^ 53 * 2 ^ (-54 : Int) = 1 / 2 := by norm_num
    have bounded :=
      mul_le_mul_of_nonneg_left (gap.trans tiny)
        (show (0 : ℚ) ≤ 2 ^ 53 by norm_num)
    have half := below.trans (bounded.trans_eq scale)
    linarith

/-- The numbers of some minutes and of their milliseconds. -/
structure MinutePair (minutes window : Binary64) : Prop where
  one : 1 ≤ minutes.magnitude
  product : window.magnitude = 60000 * minutes.magnitude

namespace MinutePair

variable {minutes window : Binary64} (pair : MinutePair minutes window)
include pair

theorem one_le_window : 1 ≤ window.magnitude := by
  have one := pair.one
  have product := pair.product
  linarith

/-- The product is between `2 ^ 15` and `2 ^ 16` times the minutes. -/
theorem exponent_cases :
    window.exponent = minutes.exponent + 15 ∨
      window.exponent = minutes.exponent + 16 := by
  have product := pair.product
  have unit := two_zpow_pos minutes.exponent
  have windowUnit := two_zpow_pos window.exponent
  have low : (2 : ℚ) ^ 52 ≤ minutes.significand := by
    exact_mod_cast le_significand pair.one
  have high : (minutes.significand : ℚ) < 2 ^ 53 := by
    exact_mod_cast minutes.significand_lt
  have windowLow : (2 : ℚ) ^ 52 ≤ window.significand := by
    exact_mod_cast le_significand pair.one_le_window
  have windowHigh : (window.significand : ℚ) < 2 ^ 53 := by
    exact_mod_cast window.significand_lt
  have least := mul_le_mul_of_nonneg_right low unit.le
  have most := mul_lt_mul_of_pos_right high unit
  have windowLeast := mul_le_mul_of_nonneg_right windowLow windowUnit.le
  have windowMost := mul_lt_mul_of_pos_right windowHigh windowUnit
  unfold magnitude at product
  by_contra neither
  have apart :
      window.exponent ≤ minutes.exponent + 14 ∨
        minutes.exponent + 17 ≤ window.exponent := by
    omega
  rcases apart with below | above
  · have scaled := (two_zpow_le below).trans_eq (two_zpow_add 14 rfl)
    linarith
  · have scaled := (two_zpow_add 17 rfl).symm.trans_le (two_zpow_le above)
    linarith

/-- A window is no power of two. -/
theorem significand_ne : window.significand ≠ 2 ^ 52 := by
  intro lead
  have product := pair.product
  have unit := two_zpow_pos minutes.exponent
  unfold magnitude at product
  have whole :
      2 ^ 67 = 60000 * minutes.significand ∨
        2 ^ 68 = 60000 * minutes.significand := by
    rcases pair.exponent_cases with exponent | exponent
    · left
      rw [lead, two_zpow_add 15 exponent, ← mul_assoc, ← mul_assoc] at product
      have equal := mul_right_cancel₀ unit.ne' product
      exact_mod_cast equal
    · right
      rw [lead, two_zpow_add 16 exponent, ← mul_assoc, ← mul_assoc] at product
      have equal := mul_right_cancel₀ unit.ne' product
      exact_mod_cast equal
  omega

theorem gap_eq : window.gap = 2 ^ window.exponent := by
  rw [gap, if_neg fun lead => pair.significand_ne lead.1]

/-- The next window down is more than half a gap of the minutes away. -/
theorem minutes_gap_lt : 60000 * minutes.gap < 2 * window.gap := by
  have gap := minutes.gap_le
  have unit := two_zpow_pos minutes.exponent
  rw [pair.gap_eq]
  rcases pair.exponent_cases with exponent | exponent
  · rw [two_zpow_add 15 exponent]
    linarith
  · rw [two_zpow_add 16 exponent]
    linarith

/-- The next minutes down are more than half a gap of the window away. -/
theorem window_gap_lt : window.gap < 2 * (60000 * minutes.gap) := by
  have product := pair.product
  have unit := two_zpow_pos minutes.exponent
  rw [pair.gap_eq]
  unfold gap
  split
  · next lead =>
      have half := two_zpow_pred minutes.exponent
      have windowLow : (2 : ℚ) ^ 52 ≤ window.significand := by
        exact_mod_cast le_significand pair.one_le_window
      unfold magnitude at product
      rw [lead.1] at product
      have least :=
        mul_le_mul_of_nonneg_right windowLow (two_zpow_pos window.exponent).le
      push_cast at product
      rcases pair.exponent_cases with exponent | exponent
      · have scaled := two_zpow_add 15 exponent
        linarith
      · have scaled := two_zpow_add 16 exponent
        linarith
  · rcases pair.exponent_cases with exponent | exponent
    · rw [two_zpow_add 15 exponent]
      linarith
    · rw [two_zpow_add 16 exponent]
      linarith

end MinutePair

end Minutes

section Bounds

/-! ## What the floor bounds -/

theorem minutes_lt_top {ms : Nat} (inside : (ms : ℚ) < 2 ^ 53 * 2 ^ (971 : Int)) :
    (ms : ℚ) / oneMinuteMs < 2 ^ 53 * 2 ^ (971 : Int) := by
  have one : (1 : ℚ) ≤ oneMinuteMs := by norm_num [oneMinuteMs]
  exact (div_le_self (Nat.cast_nonneg ms) one).trans_lt inside

/-- A length below a whole-minute window is rounded and floored below the
window's minutes, and their product with a minute is rounded below the
window. -/
theorem wholeMinutesAtOrBelow64_lt {minutes ms : Nat} (one : 1 ≤ minutes)
    (windowDouble :
      JsNumber.IsDouble (.finite ((minutes * oneMinuteMs : Nat) : ℚ)))
    (double : JsNumber.IsDouble (.finite (ms : ℚ)))
    (below : ms < minutes * oneMinuteMs) :
    wholeMinutesAtOrBelow64 ms < minutes * oneMinuteMs := by
  obtain ⟨windowGrid, windowInside⟩ := windowDouble.onGrid (Nat.cast_nonneg _)
  obtain ⟨grid, inside⟩ := double.onGrid (Nat.cast_nonneg _)
  have minutesGrid := onGrid_minutes windowGrid
  have fewer : (minutes : ℚ) ≤ (minutes * oneMinuteMs : Nat) := by
    exact_mod_cast Nat.le_mul_of_pos_right minutes (by decide)
  obtain ⟨short, -, isShort⟩ :=
    exists_ofRat?_of_onGrid (Nat.cast_nonneg _) minutesGrid
      (fewer.trans_lt windowInside)
  obtain ⟨window, -, isWindow⟩ :=
    exists_ofRat?_of_onGrid (Nat.cast_nonneg _) windowGrid windowInside
  have minute : ((oneMinuteMs : Nat) : ℚ) = 60000 := rfl
  have product : ((minutes * oneMinuteMs : Nat) : ℚ) = 60000 * minutes := by
    rw [Nat.cast_mul, minute, mul_comm]
  have pair : MinutePair short window := by
    refine ⟨?_, ?_⟩
    · rw [isShort]
      exact_mod_cast one
    · rw [isShort, isWindow, product]
  have near := pair.minutes_gap_lt
  have far := pair.window_gap_lt
  -- the length is at least a gap below the window
  have apart : (ms : ℚ) + window.gap ≤ window.magnitude := by
    have lower : (ms : ℚ) < window.magnitude := by
      rw [isWindow]
      exact_mod_cast below
    have distance := window.gap_le_abs_sub grid lower.ne
    rw [abs_of_pos (sub_pos.mpr lower)] at distance
    linarith
  have quotient : nearest (ms / oneMinuteMs) < short.magnitude := by
    have nonzero : short.significand ≠ 0 := by
      have normal := le_significand pair.one
      omega
    apply nearest_lt (minutes_nonneg ms) (onGrid_magnitude_sub_gap nonzero)
    · linarith [short.gap_pos]
    · have scaled : (ms : ℚ) / oneMinuteMs * 60000 = ms := by
        rw [minute]
        exact div_mul_cancel₀ _ (by norm_num)
      have size := pair.product
      linarith
  -- and its floored minutes at least a gap below the window's
  have floored :
      (⌊nearest ((ms : ℚ) / oneMinuteMs)⌋₊ : ℚ) + short.gap ≤
        short.magnitude := by
    have nonneg : 0 ≤ nearest ((ms : ℚ) / oneMinuteMs) :=
      mul_nonneg (Nat.cast_nonneg _) (two_zpow_pos _).le
    have lower := (Nat.floor_le nonneg).trans_lt quotient
    have distance :=
      short.gap_le_abs_sub
        (onGrid_floor
          (onGrid_nearest (minutes_nonneg ms) (minutes_lt_top inside)))
        lower.ne
    rw [abs_of_pos (sub_pos.mpr lower)] at distance
    linarith
  have result :
      nearest (⌊nearest ((ms : ℚ) / oneMinuteMs)⌋₊ * oneMinuteMs) <
        window.magnitude := by
    have nonzero : window.significand ≠ 0 := by
      have normal := le_significand pair.one_le_window
      omega
    apply nearest_lt _ (onGrid_magnitude_sub_gap nonzero)
    · linarith [window.gap_pos]
    · have size := pair.product
      rw [minute] at floored ⊢
      linarith
    · exact mul_nonneg (Nat.cast_nonneg _) (Nat.cast_nonneg _)
  rw [← wholeMinutesAtOrBelow64_cast, isWindow] at result
  exact Nat.cast_lt.mp result

/-- A whole-minute window is below a length exactly when it is below the
length's floor. -/
theorem le_wholeMinutesAtOrBelow64_iff {windowMs ms : Nat}
    (windowDouble : JsNumber.IsDouble (.finite (windowMs : ℚ)))
    (double : JsNumber.IsDouble (.finite (ms : ℚ)))
    (minute : oneMinuteMs ≤ windowMs) (whole : windowMs % oneMinuteMs = 0) :
    windowMs ≤ wholeMinutesAtOrBelow64 ms ↔ windowMs ≤ ms := by
  obtain ⟨minutes, rfl⟩ : ∃ minutes, windowMs = minutes * oneMinuteMs :=
    ⟨windowMs / oneMinuteMs,
      (Nat.div_mul_cancel (Nat.dvd_of_mod_eq_zero whole)).symm⟩
  constructor
  · intro within
    by_contra exceeds
    have one : 1 ≤ minutes :=
      Nat.pos_of_mul_pos_right ((show 0 < oneMinuteMs by decide).trans_le minute)
    have lower :=
      wholeMinutesAtOrBelow64_lt one windowDouble double (not_le.mp exceeds)
    omega
  · intro within
    obtain ⟨windowGrid, -⟩ := windowDouble.onGrid (Nat.cast_nonneg _)
    have positive : (0 : ℚ) < oneMinuteMs := by norm_num [oneMinuteMs]
    have quotient : (minutes : ℚ) ≤ ms / oneMinuteMs := by
      rw [le_div_iff₀ positive]
      exact_mod_cast within
    have floored : minutes ≤ ⌊nearest ((ms : ℚ) / oneMinuteMs)⌋₊ :=
      Nat.le_floor
        (le_nearest (minutes_nonneg ms) (onGrid_minutes windowGrid) quotient)
    have product :
        ((minutes * oneMinuteMs : Nat) : ℚ) ≤
          ⌊nearest ((ms : ℚ) / oneMinuteMs)⌋₊ * oneMinuteMs := by
      exact_mod_cast Nat.mul_le_mul_right oneMinuteMs floored
    have result :=
      le_nearest (mul_nonneg (Nat.cast_nonneg _) (Nat.cast_nonneg _))
        windowGrid product
    rw [← wholeMinutesAtOrBelow64_cast] at result
    exact Nat.cast_le.mp result

/-- The number above the quotients of all doubles. -/
def quotientBound : Binary64 where
  negative := false
  significand := 4919131752989214
  exponent := 956
  significand_lt := by decide
  exponent_ge := by decide
  exponent_le := by decide
  normal := .inl (by decide)

/-- The largest double is rounded down when it is divided by a minute. -/
theorem nearest_minutes_le {ms : Nat}
    (double : JsNumber.IsDouble (.finite (ms : ℚ))) :
    nearest ((ms : ℚ) / oneMinuteMs) ≤ 4919131752989213 * 2 ^ (956 : Int) := by
  obtain ⟨grid, inside⟩ := double.onGrid (Nat.cast_nonneg _)
  obtain ⟨number, -, isNumber⟩ :=
    exists_ofRat?_of_onGrid (Nat.cast_nonneg _) grid inside
  have unit := two_zpow_pos 956
  have gap : quotientBound.gap = 2 ^ (956 : Int) := if_neg (by decide)
  have bound :
      quotientBound.magnitude = 4919131752989214 * 2 ^ (956 : Int) := by
    rw [magnitude, quotientBound]
    norm_num
  have lower : OnGrid (quotientBound.magnitude - quotientBound.gap) :=
    onGrid_magnitude_sub_gap (by decide)
  have length : (ms : ℚ) ≤ (2 ^ 53 - 1) * (2 ^ 15 * 2 ^ (956 : Int)) := by
    have most := number.magnitude_le_largest
    rw [isNumber, largest, two_zpow_add 15 (show (971 : Int) = 956 + 15 from rfl)]
      at most
    exact most
  have below : nearest ((ms : ℚ) / oneMinuteMs) < quotientBound.magnitude := by
    apply nearest_lt (minutes_nonneg ms) lower
    · exact sub_lt_self _ quotientBound.gap_pos
    · have minute : ((oneMinuteMs : Nat) : ℚ) = 60000 := rfl
      have scaled : (ms : ℚ) / oneMinuteMs * 60000 = ms := by
        rw [minute]
        exact div_mul_cancel₀ _ (by norm_num)
      rw [gap, bound]
      generalize (2 : ℚ) ^ (956 : Int) = power at length unit
      linarith
  have distance :=
    quotientBound.gap_le_abs_sub
      (onGrid_nearest (minutes_nonneg ms) (minutes_lt_top inside)) below.ne
  rw [abs_of_pos (sub_pos.mpr below), gap, bound] at distance
  linarith

/-- The floor of a double is a double: it does not overflow. -/
theorem isDouble_wholeMinutesAtOrBelow64 {ms : Nat}
    (double : JsNumber.IsDouble (.finite (ms : ℚ))) :
    JsNumber.IsDouble (.finite (wholeMinutesAtOrBelow64 ms : ℚ)) := by
  have unit := two_zpow_pos 956
  have nonneg :
      (0 : ℚ) ≤ ⌊nearest ((ms : ℚ) / oneMinuteMs)⌋₊ * oneMinuteMs :=
    mul_nonneg (Nat.cast_nonneg _) (Nat.cast_nonneg _)
  have within :
      (⌊nearest ((ms : ℚ) / oneMinuteMs)⌋₊ : ℚ) * oneMinuteMs ≤ largest := by
    have quotient : 0 ≤ nearest ((ms : ℚ) / oneMinuteMs) :=
      mul_nonneg (Nat.cast_nonneg _) (two_zpow_pos _).le
    have floored := (Nat.floor_le quotient).trans (nearest_minutes_le double)
    have minute : ((oneMinuteMs : Nat) : ℚ) = 60000 := rfl
    have split := two_zpow_add 15 (show (971 : Int) = 956 + 15 from rfl)
    rw [minute] at floored ⊢
    rw [largest, split]
    generalize (2 : ℚ) ^ (956 : Int) = power at floored unit
    linarith
  have bounded := nearest_le nonneg onGrid_largest within
  rw [← wholeMinutesAtOrBelow64_cast] at bounded
  apply JsNumber.isDouble_of_onGrid (Nat.cast_nonneg _)
  · rw [wholeMinutesAtOrBelow64_cast]
    exact onGrid_nearest nonneg (within.trans_lt largest_lt_top)
  · exact bounded.trans_lt largest_lt_top

end Bounds

end Btcr2Aggregation
