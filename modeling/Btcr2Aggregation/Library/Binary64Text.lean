import Btcr2Aggregation.Library.Binary64
import Btcr2Aggregation.Library.NumberText

/-!
# Binary64 numbers as text

`Number::toString` lays a shortest decimal out by the place of its first digit:
whole numbers up to `10 ^ 21` and fractions down to `10 ^ -6` without an
exponent, anything else with one.  Where several shortest decimals round to the
same number, the language leaves the choice to the engine.
-/

namespace Btcr2Aggregation

namespace Binary64

section Layout

/-! ## Layout -/

/-- A decimal as text, `point` being the place of its point: the number is
`0.d₁d₂…` times `10 ^ point`. -/
def layoutAt (characters : List Char) (point : Int) : List Char :=
  if characters.length ≤ point ∧ point ≤ 21 then
    characters ++ List.replicate (point - characters.length).toNat '0'
  else if 0 < point ∧ point ≤ 21 then
    characters.take point.toNat ++ '.' :: characters.drop point.toNat
  else if -6 < point ∧ point ≤ 0 then
    '0' :: '.' :: (List.replicate (-point).toNat '0' ++ characters)
  else
    characters.take 1 ++
      (NumberText.pointed (characters.drop 1) ++
        'e' :: (if point - 1 < 0 then '-' else '+') ::
          Nat.toDigits 10 (point - 1).natAbs)

def layout (digits : Nat) (exponent : Int) : List Char :=
  layoutAt (Nat.toDigits 10 digits) (exponent + digitCount digits)

example : layout 1 (-7) = "1e-7".toList := by decide

example : layout 1234 (-2) = "12.34".toList := by decide

/-- A character of a number's text. -/
def IsNumeric (character : Char) : Prop :=
  character.isDigit = true ∨ character ∈ ['.', 'e', '+', '-']

theorem length_pointed_le (fraction : List Char) :
    (NumberText.pointed fraction).length ≤ fraction.length + 1 := by
  cases fraction with
  | nil => exact Nat.zero_le _
  | cons first rest => exact le_refl _

/-- Seventeen digits and an exponent of three take at most twenty-four
characters. -/
theorem length_layoutAt_le {characters : List Char} {point : Int}
    (few : characters.length ≤ 17) (near : (point - 1).natAbs < 1000) :
    (layoutAt characters point).length ≤ 24 := by
  have scale : (Nat.toDigits 10 (point - 1).natAbs).length ≤ 3 :=
    (Nat.length_toDigits_le_iff (by decide) (by decide)).mpr near
  have pointed := length_pointed_le (characters.drop 1)
  rw [List.length_drop] at pointed
  unfold layoutAt
  split
  · rw [List.length_append, List.length_replicate]
    omega
  · split
    · rw [List.length_append, List.length_cons, List.length_take,
        List.length_drop]
      omega
    · split
      · simp only [List.length_cons, List.length_append, List.length_replicate]
        omega
      · simp only [List.length_append, List.length_cons, List.length_take]
        omega

theorem isNumeric_layoutAt {characters : List Char} {point : Int}
    (digits : ∀ character ∈ characters, character.isDigit = true) :
    ∀ character ∈ layoutAt characters point, IsNumeric character := by
  have whole : ∀ character ∈ characters, IsNumeric character :=
    fun character member => .inl (digits character member)
  have taken (count : Nat) :
      ∀ character ∈ characters.take count, IsNumeric character :=
    fun character member => whole character (List.mem_of_mem_take member)
  have dropped (count : Nat) :
      ∀ character ∈ characters.drop count, IsNumeric character :=
    fun character member => whole character (List.mem_of_mem_drop member)
  have zeros (count : Nat) :
      ∀ character ∈ List.replicate count '0', IsNumeric character := by
    intro character member
    rw [List.eq_of_mem_replicate member]
    exact .inl (by decide)
  have scale :
      ∀ character ∈ Nat.toDigits 10 (point - 1).natAbs, IsNumeric character :=
    fun character member => .inl (NumberText.isDigit_of_mem_toDigits member)
  have dot : IsNumeric '.' := .inr (by decide)
  have zero : IsNumeric '0' := .inl (by decide)
  unfold layoutAt
  split
  · exact List.forall_mem_append.mpr ⟨whole, zeros _⟩
  · split
    · rw [List.forall_mem_append, List.forall_mem_cons]
      exact ⟨taken _, dot, dropped _⟩
    · split
      · rw [List.forall_mem_cons, List.forall_mem_cons, List.forall_mem_append]
        exact ⟨zero, dot, zeros _, whole⟩
      · have pointed :
            ∀ character ∈ NumberText.pointed (characters.drop 1),
              IsNumeric character := by
          have rest := dropped 1
          cases tail : characters.drop 1 with
          | nil => exact fun character member => absurd member List.not_mem_nil
          | cons first others =>
              rw [tail] at rest
              exact List.forall_mem_cons.mpr ⟨dot, rest⟩
        have sign : IsNumeric (if point - 1 < 0 then '-' else '+') := by
          split
          · exact .inr (by decide)
          · exact .inr (by decide)
        have mark : IsNumeric 'e' := .inr (by decide)
        rw [List.forall_mem_append, List.forall_mem_append,
          List.forall_mem_cons, List.forall_mem_cons]
        exact ⟨taken 1, pointed, mark, sign, scale⟩

end Layout

section Printer

/-! ## `Number::toString` -/

/-- The text of a number that is not zero. -/
def IsText (number : Binary64) (text : List Char) : Prop :=
  ∃ digits exponent,
    ShortestDecimal number digits exponent ∧
      text =
        (if number.negative then ['-'] else []) ++ layout digits exponent

/-- An engine's `Number::toString` on finite numbers; both zeros are `0`. -/
structure Printer where
  print : Binary64 → List Char
  zero : ∀ number, number.significand = 0 → print number = ['0']
  nonzero : ∀ number, number.significand ≠ 0 → IsText number (print number)

/-- Every number has a text, so that there is such an engine. -/
theorem nonempty_printer : Nonempty Printer := by
  have texts (number : Binary64) :
      ∃ text,
        (number.significand = 0 → text = ['0']) ∧
          (number.significand ≠ 0 → IsText number text) := by
    by_cases zero : number.significand = 0
    · exact ⟨['0'], fun _ => rfl, fun nonzero => absurd zero nonzero⟩
    · obtain ⟨digits, exponent, shortest⟩ := exists_shortestDecimal zero
      exact
        ⟨_, fun isZero => absurd isZero zero,
          fun _ => ⟨digits, exponent, shortest, rfl⟩⟩
  choose print zero nonzero using texts
  exact ⟨{ print, zero, nonzero }⟩

variable {number : Binary64} {text : List Char}

/-- A sign and the layout: at most twenty-five characters, each of them one a
number is written with. -/
theorem IsText.bounded
    (written : IsText number text) (nonzero : number.significand ≠ 0) :
    text.length ≤ 25 ∧ ∀ character ∈ text, IsNumeric character := by
  obtain ⟨digits, exponent, shortest, rfl⟩ := written
  have few := shortest.digitCount_le nonzero
  have near := shortest.natAbs_lt nonzero
  have length := length_layoutAt_le few near
  have numeric : ∀ character ∈ layout digits exponent, IsNumeric character :=
    isNumeric_layoutAt fun character member =>
      NumberText.isDigit_of_mem_toDigits member
  cases number.negative with
  | false => exact ⟨length.trans (by decide), numeric⟩
  | true =>
      constructor
      · exact Nat.succ_le_succ length
      · exact List.forall_mem_cons.mpr ⟨.inr (by decide), numeric⟩

theorem Printer.bounded (printer : Printer) (number : Binary64) :
    (printer.print number).length ≤ 25 ∧
      ∀ character ∈ printer.print number, IsNumeric character := by
  by_cases zero : number.significand = 0
  · rw [printer.zero number zero]
    exact
      ⟨by decide, List.forall_mem_singleton.mpr (.inl (by decide))⟩
  · exact (printer.nonzero number zero).bounded zero

end Printer

section ReadingBack

/-! ## Reading a text back -/

open NumberText

variable {characters : List Char} {point : Int}

theorem ofDigitChars_append_zeros (characters : List Char) (count : Nat) :
    Nat.ofDigitChars 10 (characters ++ List.replicate count '0') 0 =
      Nat.ofDigitChars 10 characters 0 * 10 ^ count := by
  rw [Nat.ofDigitChars_append, Nat.ofDigitChars_replicate_zero, Nat.mul_comm]

theorem ofDigitChars_zeros_append (count : Nat) (characters : List Char) :
    Nat.ofDigitChars 10 (List.replicate count '0' ++ characters) 0 =
      Nat.ofDigitChars 10 characters 0 := by
  rw [Nat.ofDigitChars_append, Nat.ofDigitChars_replicate_zero, Nat.mul_zero]

theorem not_isSpace_of_exponent {size : Nat} {sign : Char}
    (signed : sign = '-' ∨ sign = '+') :
    ∀ character ∈ 'e' :: sign :: Nat.toDigits 10 size,
      JsString.isSpace character = false := by
  have digits :
      ∀ character ∈ Nat.toDigits 10 size, JsString.isSpace character = false :=
    fun _ member => not_isSpace_of_isDigit (isDigit_of_mem_toDigits member)
  have noSpace : JsString.isSpace sign = false := by
    rcases signed with rfl | rfl
    · decide
    · decide
  rw [List.forall_mem_cons, List.forall_mem_cons]
  exact ⟨by decide, noSpace, digits⟩

/-- The exponent of a layout reads as the place of its first digit. -/
theorem exponent?_layout (point : Int) :
    exponent?
        ('e' :: (if point - 1 < 0 then '-' else '+') ::
          Nat.toDigits 10 (point - 1).natAbs) =
      some (point - 1) := by
  by_cases below : point - 1 < 0
  · have read :
        exponent? ('e' :: '-' :: Nat.toDigits 10 (point - 1).natAbs) =
          (whole? (Nat.toDigits 10 (point - 1).natAbs)).map
            fun size : Nat => -(size : Int) :=
      rfl
    have magnitude : -((point - 1).natAbs : Int) = point - 1 := by omega
    rw [if_pos below, read, whole?_toDigits, Option.map_some, magnitude]
  · have read :
        exponent? ('e' :: '+' :: Nat.toDigits 10 (point - 1).natAbs) =
          (whole? (Nat.toDigits 10 (point - 1).natAbs)).map
            fun size : Nat => (size : Int) :=
      rfl
    have magnitude : ((point - 1).natAbs : Int) = point - 1 := by omega
    rw [if_neg below, read, whole?_toDigits, Option.map_some, magnitude]

/-- A layout reads as the double closest to the decimal it lays out. -/
theorem ofText_layoutAt
    (digits : ∀ character ∈ characters, character.isDigit = true)
    (nonempty : characters ≠ []) :
    JsNumber.ofText (String.ofList (layoutAt characters point)) =
      .rounded
        ((Nat.ofDigitChars 10 characters 0 : ℚ) *
          (10 : ℚ) ^ (point - (characters.length : Int))) := by
  have closed : Closes [] := trivial
  have unscaled : exponent? [] = some 0 := rfl
  have taken (count : Nat) :
      ∀ character ∈ characters.take count, character.isDigit = true :=
    fun character member => digits character (List.mem_of_mem_take member)
  have dropped (count : Nat) :
      ∀ character ∈ characters.drop count, character.isDigit = true :=
    fun character member => digits character (List.mem_of_mem_drop member)
  have zeros (count : Nat) :
      ∀ character ∈ List.replicate count '0', character.isDigit = true := by
    intro character member
    rw [List.eq_of_mem_replicate member]
    decide
  have size : 0 < characters.length := List.length_pos_iff.mpr nonempty
  unfold layoutAt
  split
  · next whole =>
      -- the digits and zeros up to the point
      have all :
          ∀ character ∈
              characters ++
                List.replicate (point - characters.length).toNat '0',
            character.isDigit = true :=
        List.forall_mem_append.mpr ⟨digits, zeros _⟩
      have read :=
        ofText_ofList (List.append_ne_nil_of_left_ne_nil nonempty _) all
          (List.forall_mem_nil _) closed unscaled (List.forall_mem_nil _)
      simp only [pointed, List.append_nil, List.length_nil, Nat.cast_zero,
        sub_zero, zpow_zero, mul_one] at read
      have shift :
          point - characters.length =
            ((point - characters.length).toNat : Int) := by
        omega
      rw [read, ofDigitChars_append_zeros, shift, zpow_natCast,
        Int.toNat_natCast]
      push_cast
      rfl
  · split
    · next short inside =>
        -- a point among the digits
        have split : point.toNat < characters.length := by omega
        have first : characters.take point.toNat ≠ [] := by
          rw [← List.length_pos_iff, List.length_take]
          omega
        have read :=
          ofText_ofList first (taken _) (dropped point.toNat) closed unscaled
            (List.forall_mem_nil _)
        rw [List.take_append_drop, List.length_drop, List.append_nil] at read
        have shift :
            (0 : Int) - ((characters.length - point.toNat : Nat) : Int) =
              point - characters.length := by
          omega
        have dotted :
            pointed (characters.drop point.toNat) =
              '.' :: characters.drop point.toNat := by
          cases rest : characters.drop point.toNat with
          | nil =>
              rw [List.drop_eq_nil_iff] at rest
              omega
          | cons lead others => rfl
        rw [dotted, shift] at read
        exact read
    · split
      · next short outside inside =>
          -- zeros between the point and the digits
          have all :
              ∀ character ∈
                  List.replicate (-point).toNat '0' ++ characters,
                character.isDigit = true :=
            List.forall_mem_append.mpr ⟨zeros _, digits⟩
          have read :=
            ofText_ofList (List.cons_ne_nil '0' []) (zeros 1) all closed
              unscaled (List.forall_mem_nil _)
          have value :
              Nat.ofDigitChars 10
                  (['0'] ++
                    (List.replicate (-point).toNat '0' ++ characters)) 0 =
                Nat.ofDigitChars 10 characters 0 := by
            rw [← List.append_assoc]
            exact ofDigitChars_zeros_append ((-point).toNat + 1) characters
          have shift :
              (0 : Int) -
                  ((List.replicate (-point).toNat '0' ++
                    characters).length : Int) =
                point - characters.length := by
            rw [List.length_append, List.length_replicate]
            omega
          have dotted :
              pointed (List.replicate (-point).toNat '0' ++ characters) =
                '.' :: (List.replicate (-point).toNat '0' ++ characters) := by
            cases rest : List.replicate (-point).toNat '0' ++ characters with
            | nil => exact absurd (List.append_eq_nil_iff.mp rest).2 nonempty
            | cons lead others => rfl
          rw [value, shift, dotted, List.append_nil] at read
          exact read
      · -- one digit before the point, and an exponent
        have first : characters.take 1 ≠ [] := by
          rw [← List.length_pos_iff, List.length_take]
          omega
        have signed :
            (if point - 1 < 0 then '-' else '+') = '-' ∨
              (if point - 1 < 0 then '-' else '+') = '+' := by
          split
          · exact .inl rfl
          · exact .inr rfl
        have marked :
            Closes
              ('e' :: (if point - 1 < 0 then '-' else '+') ::
                Nat.toDigits 10 (point - 1).natAbs) :=
          rfl
        have read :=
          ofText_ofList first (taken 1) (dropped 1) marked
            (exponent?_layout point) (not_isSpace_of_exponent signed)
        rw [List.take_append_drop, List.length_drop] at read
        have shift :
            point - 1 - ((characters.length - 1 : Nat) : Int) =
              point - characters.length := by
          omega
        rw [shift] at read
        exact read

/-- `Number(String(number))` of a number that is not negative. -/
theorem Printer.ofText_print (printer : Printer) {number : Binary64}
    (plain : number.negative = false) :
    JsNumber.ofText (String.ofList (printer.print number)) =
      .finite number.value := by
  have value : number.value = number.magnitude := by
    rw [Binary64.value, plain, if_neg Bool.false_ne_true]
  by_cases zero : number.significand = 0
  · have nothing : number.magnitude = 0 := by
      rw [magnitude, zero, Nat.cast_zero, zero_mul]
    have read :
        JsNumber.ofText (String.ofList ['0']) =
          .rounded ((0 : Nat) * 10 ^ ((0 : Int) - (0 : Nat))) :=
      @ofText_ofList ['0'] [] [] 0 (List.cons_ne_nil _ _)
        (List.forall_mem_singleton.mpr (by decide)) (List.forall_mem_nil _)
        trivial rfl (List.forall_mem_nil _)
    have grid := onGrid_magnitude number
    have inside := number.magnitude_lt_top
    rw [nothing] at grid inside
    rw [printer.zero number zero, read, Nat.cast_zero, zero_mul, value, nothing,
      JsNumber.rounded_of_onGrid (le_refl _) grid inside]
  · obtain ⟨digits, exponent, shortest, text⟩ := printer.nonzero number zero
    have nonneg : 0 ≤ decimal digits exponent :=
      mul_nonneg (Nat.cast_nonneg digits) (ten_zpow_pos exponent).le
    have read :
        JsNumber.ofText (String.ofList (layout digits exponent)) =
          .rounded (decimal digits exponent) := by
      have laid :=
        @ofText_layoutAt (Nat.toDigits 10 digits)
          (exponent + digitCount digits)
          (fun _ member => isDigit_of_mem_toDigits member) Nat.toDigits_ne_nil
      rw [Nat.ofDigitChars_ten_toDigits] at laid
      have shift :
          exponent + (digitCount digits : Int) -
              ((Nat.toDigits 10 digits).length : Int) = exponent := by
        unfold digitCount
        omega
      rw [shift] at laid
      exact laid
    rw [text, plain, if_neg Bool.false_ne_true, List.nil_append, read, value,
      JsNumber.rounded_of_roundsTo nonneg shortest.rounds]

end ReadingBack

end Binary64

section JsNumbers

/-! ## `String(number)` -/

namespace JsNumber

/-- `number / divisor`, for a positive divisor. -/
def dividedBy (number : JsNumber) (divisor : Nat) : JsNumber :=
  match number with
  | .finite value => .rounded (value / divisor)
  | .infinity => .infinity
  | .negInfinity => .negInfinity
  | .nan => .nan

/-- `String(number)` on an engine. -/
def toText (printer : Binary64.Printer) : JsNumber → String
  | .finite value =>
      match Binary64.ofRat? value with
      | some number => String.ofList (printer.print number)
      | none => if value < 0 then "-Infinity" else "Infinity"
  | .infinity => "Infinity"
  | .negInfinity => "-Infinity"
  | .nan => "NaN"

/-- A double that is not negative reads back from its text. -/
theorem ofText_toText (printer : Binary64.Printer) {value : ℚ}
    (nonneg : 0 ≤ value) (grid : Binary64.OnGrid value)
    (inside : value < 2 ^ 53 * 2 ^ (971 : Int)) :
    ofText (toText printer (.finite value)) = .finite value := by
  obtain ⟨number, rounded, magnitude⟩ :=
    Binary64.exists_ofRat?_of_onGrid nonneg grid inside
  have plain : number.negative = false := by
    rw [(Binary64.ofRat?_eq_some rounded).1]
    exact decide_eq_false (not_lt.mpr nonneg)
  have same : number.value = value := by
    rw [Binary64.value, plain, if_neg Bool.false_ne_true, magnitude]
  have read := printer.ofText_print plain
  rw [same] at read
  rw [toText, rounded]
  exact read

end JsNumber

end JsNumbers

end Btcr2Aggregation
