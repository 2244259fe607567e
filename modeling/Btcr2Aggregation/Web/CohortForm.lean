import Btcr2Aggregation.Library.Binary64Text
import Btcr2Aggregation.Service.MinuteDoubles

/-!
# The pure half of the cohort forms

The console edits windows as minutes text.  The result of this module says
that a whole number of minutes survives the way there and back: its minutes are
a double, so that neither the quotient nor the product is rounded.
-/

namespace Btcr2Aggregation

/-- One timing field's value on the wire; an empty field is unset, not zero. -/
inductive WindowValue where
  | unset
  | ms (ms : JsNumber)
  | invalid
  deriving DecidableEq

/-- Parse a minutes field into a window. -/
def parseWindow (text : String) : WindowValue :=
  if JsString.trim text = "" then
    .unset
  else
    match (JsNumber.ofText text).wholeAtLeast? 1 with
    | some minutes => .ms (.rounded (minutes * oneMinuteMs))
    | none => .invalid

/-- Render a window as the minutes text the operator edits. -/
def msToMinutesText (printer : Binary64.Printer) : Option JsNumber → String
  | none => ""
  | some ms => (ms.dividedBy oneMinuteMs).toText printer

theorem ofText_of_blank {text : String} (blank : JsString.trim text = "") :
    JsNumber.ofText text = 0 := by
  rw [JsNumber.ofText, blank]
  rfl

variable (printer : Binary64.Printer)

/-- Minutes that are a double read as themselves. -/
theorem ofText_msToMinutesText {ms : Nat} {minutes : ℚ}
    (quotient : (ms : ℚ) / oneMinuteMs = minutes)
    (grid : Binary64.OnGrid minutes)
    (inside : minutes < 2 ^ 53 * 2 ^ (971 : Int)) :
    JsNumber.ofText (msToMinutesText printer (some (.finite ms))) =
      .finite minutes := by
  have nonneg : 0 ≤ minutes := by
    rw [← quotient]
    exact minutes_nonneg ms
  rw [msToMinutesText, JsNumber.dividedBy, quotient,
    JsNumber.rounded_of_onGrid nonneg grid inside,
    JsNumber.ofText_toText printer nonneg grid inside]

/-- A whole number of minutes survives the way into the form and back. -/
theorem parseWindow_of_whole {ms : Nat}
    (double : JsNumber.IsDouble (.finite (ms : ℚ)))
    (minute : oneMinuteMs ≤ ms) (whole : ms % oneMinuteMs = 0) :
    parseWindow (msToMinutesText printer (some (.finite ms))) =
      .ms (.finite ms) := by
  obtain ⟨minutes, rfl⟩ : ∃ minutes, ms = minutes * oneMinuteMs :=
    ⟨ms / oneMinuteMs,
      (Nat.div_mul_cancel (Nat.dvd_of_mod_eq_zero whole)).symm⟩
  have one : 1 ≤ minutes :=
    Nat.pos_of_mul_pos_right ((show 0 < oneMinuteMs by decide).trans_le minute)
  obtain ⟨grid, inside⟩ := double.onGrid (Nat.cast_nonneg _)
  have positive : (oneMinuteMs : ℚ) ≠ 0 := by norm_num [oneMinuteMs]
  have quotient :
      ((minutes * oneMinuteMs : Nat) : ℚ) / oneMinuteMs = minutes := by
    rw [Nat.cast_mul, mul_div_cancel_right₀ _ positive]
  have short : (minutes : ℚ) < 2 ^ 53 * 2 ^ (971 : Int) := by
    rw [← quotient]
    exact minutes_lt_top inside
  have read :=
    ofText_msToMinutesText printer quotient (onGrid_minutes grid) short
  have shown :
      JsString.trim
          (msToMinutesText printer
            (some (.finite ((minutes * oneMinuteMs : Nat) : ℚ)))) ≠ "" := by
    intro blank
    rw [ofText_of_blank blank] at read
    have zero : (0 : ℚ) = minutes := JsNumber.finite.inj read
    have vanished : 0 = minutes := by exact_mod_cast zero
    omega
  rw [parseWindow, if_neg shown, read]
  simp only [JsNumber.wholeAtLeast?_nat, if_pos one]
  rw [← Nat.cast_mul, JsNumber.rounded_of_onGrid (Nat.cast_nonneg _) grid inside]

/-- A fraction of a minute that is a double is refused by the form. -/
theorem parseWindow_of_fraction {ms : Nat} {minutes : ℚ}
    (quotient : (ms : ℚ) / oneMinuteMs = minutes)
    (grid : Binary64.OnGrid minutes)
    (inside : minutes < 2 ^ 53 * 2 ^ (971 : Int)) (fraction : minutes.den ≠ 1) :
    parseWindow (msToMinutesText printer (some (.finite ms))) = .invalid := by
  have read := ofText_msToMinutesText printer quotient grid inside
  have broken : (JsNumber.finite minutes).isInteger = false := by
    simpa [JsNumber.isInteger] using fraction
  have shown :
      JsString.trim (msToMinutesText printer (some (.finite ms))) ≠ "" := by
    intro blank
    rw [ofText_of_blank blank] at read
    rw [← read] at broken
    cases broken
  have refused : (JsNumber.finite minutes).wholeAtLeast? 1 = none := by
    simp [JsNumber.wholeAtLeast?, broken]
  rw [parseWindow, if_neg shown, read, refused]

end Btcr2Aggregation
