import Mathlib.Algebra.Field.Rat
import Mathlib.Data.List.TakeWhile
import Mathlib.Tactic.Linarith
import Mathlib.Tactic.Ring
import Btcr2Aggregation.Library.JsString
import Btcr2Aggregation.Library.Rounding

/-!
# JavaScript numbers as text

`Number(text)` reads a decimal, hexadecimal, octal or binary literal out of a
trimmed text and rounds it to a double.  The results at the end say what a
decimal literal reads as: the double closest to the number it spells.
-/

namespace Btcr2Aggregation

section Reading

/-! ## Reading -/

namespace NumberText

/-- The value of one digit of a literal. -/
def digit? (base : Nat) (character : Char) : Option Nat :=
  let value :=
    if character.isDigit then
      character.toNat - '0'.toNat
    else if 'a' ≤ character.toLower ∧ character.toLower ≤ 'f' then
      character.toLower.toNat - 'a'.toNat + 10
    else
      base
  if value < base then some value else none

/-- The digits of a hexadecimal, octal or binary literal. -/
def based? (base : Nat) (characters : List Char) : Option ℚ :=
  if characters = [] then
    none
  else
    (characters.mapM (digit? base)).map fun values =>
      (values.foldl (fun total value => base * total + value) 0 : Nat)

/-- A run of at least one decimal digit and nothing else. -/
def whole? (characters : List Char) : Option Nat :=
  if characters ≠ [] ∧ characters.all Char.isDigit then
    some (Nat.ofDigitChars 10 characters 0)
  else
    none

/-- The exponent part of a decimal literal; an absent one counts as zero. -/
def exponent? : List Char → Option Int
  | [] => some 0
  | mark :: rest =>
      if mark = 'e' ∨ mark = 'E' then
        match rest with
        | '+' :: digits => (whole? digits).map fun size : Nat => (size : Int)
        | '-' :: digits => (whole? digits).map fun size : Nat => -(size : Int)
        | digits => (whole? digits).map fun size : Nat => (size : Int)
      else
        none

/-- The digits after the point, and what follows them. -/
def fraction : List Char → List Char × List Char
  | '.' :: rest => rest.span Char.isDigit
  | rest => ([], rest)

/-- An unsigned decimal literal. -/
def decimal? (characters : List Char) : Option ℚ :=
  let (whole, afterWhole) := characters.span Char.isDigit
  let (decimals, afterDecimals) := fraction afterWhole
  if whole ++ decimals = [] then
    none
  else
    (exponent? afterDecimals).map fun exponent =>
      (Nat.ofDigitChars 10 (whole ++ decimals) 0 : ℚ) *
        (10 : ℚ) ^ (exponent - (decimals.length : ℤ))

/-- A literal is rounded to a double; a malformed one reads as `NaN`. -/
def orNaN : Option ℚ → JsNumber
  | some value => .rounded value
  | none => .nan

/-- A decimal literal or `Infinity`, without a sign. -/
def unsigned (characters : List Char) : JsNumber :=
  if characters = "Infinity".toList then
    .infinity
  else
    orNaN (decimal? characters)

/-- `-number`. -/
def negate : JsNumber → JsNumber
  | .finite value => .finite (-value)
  | .infinity => .negInfinity
  | .negInfinity => .infinity
  | .nan => .nan

/-- A literal without surrounding white space. -/
def literal : List Char → JsNumber
  | [] => 0
  | '0' :: mark :: digits =>
      if mark = 'x' ∨ mark = 'X' then
        orNaN (based? 16 digits)
      else if mark = 'o' ∨ mark = 'O' then
        orNaN (based? 8 digits)
      else if mark = 'b' ∨ mark = 'B' then
        orNaN (based? 2 digits)
      else
        unsigned ('0' :: mark :: digits)
  | '+' :: characters => unsigned characters
  | '-' :: characters => negate (unsigned characters)
  | characters => unsigned characters

end NumberText

/-- `Number(text)`. -/
def JsNumber.ofText (text : String) : JsNumber :=
  NumberText.literal (JsString.trim text).toList

end Reading

section ReadingBack

/-! ## What decimal literals read as -/

namespace NumberText

/-- A fraction with its point; an empty one has none. -/
def pointed : List Char → List Char
  | [] => []
  | fraction => '.' :: fraction

theorem not_isSpace_of_isDigit
    {character : Char} (digit : character.isDigit = true) :
    JsString.isSpace character = false := by
  have range := Char.isDigit_iff_toNat.mp digit
  simp only [Char.reduceToNat] at range
  have value : character.val.toNat = character.toNat := rfl
  simp only [JsString.isSpace, List.mem_cons, List.not_mem_nil, or_false,
    Bool.or_eq_false_iff, decide_eq_false_iff_not, Bool.and_eq_false_iff,
    ← UInt32.toNat_inj, UInt32.le_iff_toNat_le, value]
  simp only [UInt32.reduceToNat]
  omega

/-- A text without white space is its own trim. -/
theorem trim_ofList
    {characters : List Char}
    (spaceless : ∀ character ∈ characters, JsString.isSpace character = false) :
    JsString.trim (String.ofList characters) = String.ofList characters := by
  have kept :
      ∀ other : List Char,
        (∀ character ∈ other, JsString.isSpace character = false) →
          other.dropWhile JsString.isSpace = other := by
    intro other clear
    cases other with
    | nil => rfl
    | cons first rest =>
        exact List.dropWhile_cons_of_neg (by simp [clear first (by simp)])
  have reversed := kept characters.reverse fun character member =>
    spaceless character (List.mem_reverse.mp member)
  rw [JsString.trim, String.toList_ofList, kept characters spaceless, reversed,
    List.reverse_reverse]

/-- A run of digits is split off where the next character is no digit. -/
theorem span_isDigit_append
    {digits rest : List Char}
    (all : ∀ character ∈ digits, character.isDigit = true)
    (stops : ∀ character ∈ rest.head?, character.isDigit = false) :
    (digits ++ rest).span Char.isDigit = (digits, rest) := by
  rw [List.span_eq_takeWhile_dropWhile, List.takeWhile_append_of_pos all,
    List.dropWhile_append_of_pos all]
  cases rest with
  | nil => simp
  | cons first rest =>
      have stop : ¬ first.isDigit = true := by
        simp [stops first rfl]
      rw [List.takeWhile_cons_of_neg stop, List.dropWhile_cons_of_neg stop,
        List.append_nil]

/-- What can follow the digits of a literal: nothing, or an exponent. -/
def Closes : List Char → Prop
  | [] => True
  | mark :: _ => mark = 'e'

theorem not_isDigit_of_closes
    {tail : List Char} (closed : Closes tail) :
    ∀ character ∈ tail.head?, character.isDigit = false := by
  cases tail with
  | nil => simp
  | cons mark rest =>
      cases closed
      simp

/-- The decimals are read up to the tail. -/
theorem fraction_pointed
    {decimals tail : List Char}
    (all : ∀ character ∈ decimals, character.isDigit = true)
    (closed : Closes tail) :
    fraction (pointed decimals ++ tail) = (decimals, tail) := by
  cases decimals with
  | cons first rest =>
      exact span_isDigit_append all (not_isDigit_of_closes closed)
  | nil =>
      cases tail with
      | nil => rfl
      | cons mark rest =>
          cases closed
          rfl

/-- A decimal literal reads as its digits, scaled by its exponent. -/
theorem decimal?_eq
    {digits decimals tail : List Char} {exponent : Int}
    (nonempty : digits ≠ [])
    (allDigits : ∀ character ∈ digits, character.isDigit = true)
    (allDecimals : ∀ character ∈ decimals, character.isDigit = true)
    (closed : Closes tail) (scaled : exponent? tail = some exponent) :
    decimal? (digits ++ (pointed decimals ++ tail)) =
      some
        ((Nat.ofDigitChars 10 (digits ++ decimals) 0 : ℚ) *
          (10 : ℚ) ^ (exponent - (decimals.length : ℤ))) := by
  have stops :
      ∀ character ∈ (pointed decimals ++ tail).head?,
        character.isDigit = false := by
    cases decimals with
    | nil => exact not_isDigit_of_closes closed
    | cons first rest => simp [pointed]
  have present : digits ++ decimals ≠ [] :=
    List.append_ne_nil_of_left_ne_nil nonempty decimals
  simp only [decimal?, span_isDigit_append allDigits stops,
    fraction_pointed allDecimals closed, scaled, if_neg present,
    Option.map_some]

/-- A literal that starts with a digit and carries no base prefix is an
unsigned decimal one. -/
theorem literal_of_isDigit
    {first : Char} {rest : List Char} (digit : first.isDigit = true)
    (plain :
      ∀ mark ∈ rest.head?, mark.isDigit = true ∨ mark = '.' ∨ mark = 'e') :
    literal (first :: rest) = orNaN (decimal? (first :: rest)) := by
  have notLetter : ∀ letter, letter.isDigit = false → first ≠ letter := by
    rintro letter noDigit rfl
    simp [noDigit] at digit
  have finite : first :: rest ≠ "Infinity".toList :=
    fun equality => notLetter 'I' rfl (List.cons.inj equality).1
  have read : unsigned (first :: rest) = orNaN (decimal? (first :: rest)) :=
    if_neg finite
  rw [← read]
  unfold literal
  split
  · next equality => cases equality
  · next mark digits equality =>
      obtain ⟨rfl, rfl⟩ := List.cons.inj equality
      have unprefixed :
          ∀ letter,
            letter.isDigit = false → letter ≠ '.' → letter ≠ 'e' →
              mark ≠ letter := by
        rintro letter noDigit noPoint noExponent rfl
        rcases plain mark rfl with isDigit | isPoint | isExponent
        · simp [noDigit] at isDigit
        · exact noPoint isPoint
        · exact noExponent isExponent
      simp [unprefixed]
  · next equality =>
      exact absurd (List.cons.inj equality).1 (notLetter '+' rfl)
  · next equality =>
      exact absurd (List.cons.inj equality).1 (notLetter '-' rfl)
  · rfl

/-- The text of a decimal literal reads as the double closest to the number it
spells. -/
theorem ofText_ofList
    {digits decimals tail : List Char} {exponent : Int}
    (nonempty : digits ≠ [])
    (allDigits : ∀ character ∈ digits, character.isDigit = true)
    (allDecimals : ∀ character ∈ decimals, character.isDigit = true)
    (closed : Closes tail) (scaled : exponent? tail = some exponent)
    (spaceless : ∀ character ∈ tail, JsString.isSpace character = false) :
    JsNumber.ofText
        (String.ofList (digits ++ (pointed decimals ++ tail))) =
      .rounded
        ((Nat.ofDigitChars 10 (digits ++ decimals) 0 : ℚ) *
          (10 : ℚ) ^ (exponent - (decimals.length : ℤ))) := by
  have clear :
      ∀ character ∈ digits ++ (pointed decimals ++ tail),
        JsString.isSpace character = false := by
    intro character member
    rcases List.mem_append.mp member with inDigits | later
    · exact not_isSpace_of_isDigit (allDigits character inDigits)
    rcases List.mem_append.mp later with inPointed | inTail
    · cases decimals with
      | nil => cases inPointed
      | cons first rest =>
          rcases List.mem_cons.mp inPointed with rfl | inDecimals
          · decide
          · exact not_isSpace_of_isDigit (allDecimals character inDecimals)
    · exact spaceless character inTail
  have read :=
    decimal?_eq nonempty allDigits allDecimals closed scaled
  rw [JsNumber.ofText, trim_ofList clear, String.toList_ofList]
  cases digits with
  | nil => exact absurd rfl nonempty
  | cons first rest =>
      have plain :
          ∀ mark ∈ (rest ++ (pointed decimals ++ tail)).head?,
            mark.isDigit = true ∨ mark = '.' ∨ mark = 'e' := by
        intro mark head
        cases rest with
        | cons second others =>
            cases head
            exact Or.inl (allDigits mark (by simp))
        | nil =>
            cases decimals with
            | cons point others =>
                cases head
                exact Or.inr (Or.inl rfl)
            | nil =>
                cases tail with
                | nil => cases head
                | cons letter others =>
                    cases head
                    exact Or.inr (Or.inr closed)
      have lead := literal_of_isDigit (allDigits first (by simp)) plain
      rw [List.cons_append, lead]
      rw [List.cons_append] at read
      rw [read]
      rfl

theorem isDigit_of_mem_toDigits
    {number : Nat} {character : Char}
    (member : character ∈ Nat.toDigits 10 number) :
    character.isDigit = true :=
  Nat.isDigit_of_mem_toDigits (by decide) (by decide) member

theorem whole?_toDigits (number : Nat) :
    whole? (Nat.toDigits 10 number) = some number := by
  have all : (Nat.toDigits 10 number).all Char.isDigit = true :=
    List.all_eq_true.mpr fun _ member => isDigit_of_mem_toDigits member
  rw [whole?, if_pos ⟨Nat.toDigits_ne_nil, all⟩, Nat.ofDigitChars_ten_toDigits]

end NumberText

end ReadingBack

end Btcr2Aggregation
