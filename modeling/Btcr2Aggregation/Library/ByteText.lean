import Mathlib.Data.List.Basic
import Mathlib.Tactic.IntervalCases

/-!
# Bytes written as text

Two spellings of a byte string: lowercase hexadecimal, and the URL-safe base64
without padding.  A decoder of the latter refuses a dangling character and set
bits past the last whole byte, so that each byte string has one spelling.
-/

namespace Btcr2Aggregation

abbrev Bytes := List UInt8

namespace ByteText

section Hex

/-! ## Hexadecimal -/

/-- The two digits of one byte. -/
def hexDigits (byte : UInt8) : List Char :=
  [Nat.digitChar (byte.toNat / 16), Nat.digitChar (byte.toNat % 16)]

/-- Lowercase hexadecimal. -/
def hex (bytes : Bytes) : String :=
  String.ofList (bytes.flatMap hexDigits)

/-- The value of a lowercase digit. -/
def hexValue? (character : Char) : Option Nat :=
  "0123456789abcdef".toList.idxOf? character

/-- The bytes behind digits, two a byte. -/
def ofHexCharacters? : List Char → Option Bytes
  | [] => some []
  | [_] => none
  | high :: low :: rest => do
      let upper ← hexValue? high
      let lower ← hexValue? low
      let others ← ofHexCharacters? rest
      some (UInt8.ofNat (upper * 16 + lower) :: others)

def ofHex? (text : String) : Option Bytes :=
  ofHexCharacters? text.toList

/-- `/[0-9a-f]/`. -/
def isHexDigit (character : Char) : Bool :=
  character.isDigit || (decide ('a' ≤ character) && decide (character ≤ 'f'))

theorem isHexDigit_digitChar {digit : Nat} (small : digit < 16) :
    isHexDigit (Nat.digitChar digit) = true ∧
      (Nat.digitChar digit).toLower = Nat.digitChar digit := by
  interval_cases digit <;> decide

theorem digitChar_injective
    {first second : Nat} (firstSmall : first < 16) (secondSmall : second < 16)
    (same : Nat.digitChar first = Nat.digitChar second) :
    first = second := by
  have apart :
      ∀ first < 16, ∀ second < 16,
        Nat.digitChar first = Nat.digitChar second → first = second := by
    decide
  exact apart first firstSmall second secondSmall same

theorem hexDigits_injective : Function.Injective hexDigits := by
  intro first second same
  simp only [hexDigits, List.cons.injEq, and_true] at same
  have firstBound := first.toNat_lt
  have secondBound := second.toNat_lt
  have high := digitChar_injective (by omega) (by omega) same.1
  have low := digitChar_injective (by omega) (by omega) same.2
  apply UInt8.toNat_inj.mp
  omega

/-- Each byte string has its own digits. -/
theorem hex_injective : Function.Injective hex := by
  intro first
  induction first with
  | nil =>
      intro second same
      cases second with
      | nil => rfl
      | cons byte rest => simp [hex, hexDigits] at same
  | cons byte rest inductionHypothesis =>
      intro second same
      cases second with
      | nil => simp [hex, hexDigits] at same
      | cons other others =>
          have digits :
              hexDigits byte ++ rest.flatMap hexDigits =
                hexDigits other ++ others.flatMap hexDigits := by
            have characters := String.ofList_injective same
            rwa [List.flatMap_cons, List.flatMap_cons] at characters
          obtain ⟨heads, tails⟩ := List.append_inj digits rfl
          have restSame : rest = others :=
            inductionHypothesis (by rw [hex, hex, tails])
          rw [hexDigits_injective heads, restSame]

theorem mem_hex {bytes : Bytes} {character : Char}
    (present : character ∈ (hex bytes).toList) :
    isHexDigit character = true ∧ character.toLower = character := by
  rw [hex, String.toList_ofList, List.mem_flatMap] at present
  obtain ⟨byte, -, digit⟩ := present
  have bound := byte.toNat_lt
  rcases List.mem_pair.mp digit with rfl | rfl
  · exact isHexDigit_digitChar (by omega)
  · exact isHexDigit_digitChar (by omega)

theorem toLower_of_isHexDigit {character : Char}
    (digit : isHexDigit character = true) : character.toLower = character := by
  have small : ¬ ('A' ≤ character ∧ character ≤ 'Z') := by
    intro capital
    rw [isHexDigit, Bool.or_eq_true, Bool.and_eq_true, decide_eq_true_eq,
      decide_eq_true_eq] at digit
    rcases digit with decimal | letter
    · simp only [Char.isDigit, Bool.and_eq_true, decide_eq_true_eq] at decimal
      have low : 'A' ≤ '9' := Char.le_trans capital.1 decimal.2
      exact absurd low (by decide)
    · have low : 'a' ≤ 'Z' := Char.le_trans letter.1 capital.2
      exact absurd low (by decide)
  exact dif_neg small

/-- Lowercase hexadecimal is lowercase. -/
theorem toLower_eq_self {text : String}
    (digits : text.toList.all isHexDigit = true) : text.toLower = text := by
  apply String.toList_injective
  change (text.map Char.toLower).toList = text.toList
  rw [String.toList_map]
  conv_rhs => rw [← List.map_id text.toList]
  apply List.map_congr_left
  intro character present
  exact toLower_of_isHexDigit (List.all_eq_true.mp digits character present)

theorem toLower_hex (bytes : Bytes) : (hex bytes).toLower = hex bytes := by
  apply toLower_eq_self
  rw [List.all_eq_true]
  intro character present
  exact (mem_hex present).1

theorem length_hex (bytes : Bytes) : (hex bytes).length = 2 * bytes.length := by
  rw [hex, String.length_ofList, List.length_flatMap]
  induction bytes with
  | nil => rfl
  | cons byte rest inductionHypothesis =>
      rw [List.map_cons, List.sum_cons, inductionHypothesis, List.length_cons]
      simp only [hexDigits, List.length_cons, List.length_nil]
      omega

theorem hexValue?_digitChar {digit : Nat} (small : digit < 16) :
    hexValue? (Nat.digitChar digit) = some digit := by
  interval_cases digit <;> decide

/-- Decoding undoes the spelling. -/
theorem ofHex?_hex (bytes : Bytes) : ofHex? (hex bytes) = some bytes := by
  rw [ofHex?, hex, String.toList_ofList]
  induction bytes with
  | nil => rfl
  | cons byte rest inductionHypothesis =>
      have bound := byte.toNat_lt
      have high :
          hexValue? (Nat.digitChar (byte.toNat / 16)) =
            some (byte.toNat / 16) := by
        apply hexValue?_digitChar
        omega
      have low :
          hexValue? (Nat.digitChar (byte.toNat % 16)) =
            some (byte.toNat % 16) := by
        apply hexValue?_digitChar
        omega
      have value :
          UInt8.ofNat (byte.toNat / 16 * 16 + byte.toNat % 16) = byte := by
        rw [Nat.div_add_mod', UInt8.ofNat_toNat]
      simp only [List.flatMap_cons, hexDigits, List.cons_append,
        List.nil_append, ofHexCharacters?, high, low, inductionHypothesis,
        bind, Option.bind_some, value]

/-- Every digit is the digit of a number below sixteen. -/
theorem exists_digitChar_of_isHexDigit {character : Char}
    (digit : isHexDigit character = true) :
    ∃ value < 16, Nat.digitChar value = character := by
  have same : Char.ofNat character.toNat = character := Char.ofNat_toNat character
  rw [isHexDigit, Bool.or_eq_true, Bool.and_eq_true, decide_eq_true_eq,
    decide_eq_true_eq] at digit
  rcases digit with decimal | letter
  · simp only [Char.isDigit, Bool.and_eq_true, decide_eq_true_eq] at decimal
    have low : 48 ≤ character.toNat := decimal.1
    have high : character.toNat ≤ 57 := decimal.2
    rw [← same]
    refine ⟨character.toNat - 48, by omega, ?_⟩
    generalize character.toNat = code at low high
    interval_cases code <;> decide
  · have low : 97 ≤ character.toNat := letter.1
    have high : character.toNat ≤ 102 := letter.2
    rw [← same]
    refine ⟨character.toNat - 87, by omega, ?_⟩
    generalize character.toNat = code at low high
    interval_cases code <;> decide

/-- Digits two by two are the spelling of a byte string. -/
theorem exists_hex_of_digits {text : String}
    (digits : text.toList.all isHexDigit = true) {size : Nat}
    (even : text.length = 2 * size) :
    ∃ bytes, bytes.length = size ∧ hex bytes = text := by
  suffices characters :
      ∀ size (characters : List Char),
        characters.length = 2 * size → characters.all isHexDigit = true →
          ∃ bytes : Bytes,
            bytes.length = size ∧ bytes.flatMap hexDigits = characters by
    obtain ⟨bytes, length, spelled⟩ := characters size text.toList even digits
    exact ⟨bytes, length, by rw [hex, spelled, String.ofList_toList]⟩
  intro size
  induction size with
  | zero =>
      intro characters length _
      exact ⟨[], rfl, (List.length_eq_zero_iff.mp length).symm⟩
  | succ size inductionHypothesis =>
      intro characters length digits
      match characters with
      | [] => simp at length
      | [_] => simp at length; omega
      | high :: low :: rest =>
          simp only [List.all_cons, Bool.and_eq_true] at digits
          obtain ⟨upper, upperSmall, rfl⟩ :=
            exists_digitChar_of_isHexDigit digits.1
          obtain ⟨lower, lowerSmall, rfl⟩ :=
            exists_digitChar_of_isHexDigit digits.2.1
          simp only [List.length_cons] at length
          obtain ⟨bytes, restLength, spelled⟩ :=
            inductionHypothesis rest (by omega) digits.2.2
          refine ⟨UInt8.ofNat (16 * upper + lower) :: bytes, ?_, ?_⟩
          · rw [List.length_cons, restLength]
          · have value :
                (UInt8.ofNat (16 * upper + lower)).toNat = 16 * upper + lower := by
              rw [UInt8.toNat_ofNat']
              omega
            have first : (16 * upper + lower) / 16 = upper := by omega
            have second : (16 * upper + lower) % 16 = lower := by omega
            rw [List.flatMap_cons, spelled, hexDigits, value, first, second]
            rfl

end Hex

section Base64

/-! ## URL-safe base64 -/

def base64Alphabet : List Char :=
  "ABCDEFGHIJKLMNOPQRSTUVWXYZabcdefghijklmnopqrstuvwxyz0123456789-_".toList

/-- The character of six bits. -/
def sextet (bits : Nat) : Char :=
  base64Alphabet.getD bits 'A'

/-- The six bits of a character. -/
def sextet? (character : Char) : Option Nat :=
  base64Alphabet.idxOf? character

/-- Three bytes make four characters; a last group of one or two makes two or
three. -/
def base64Characters : Bytes → List Char
  | [] => []
  | [a] => [sextet (a.toNat / 4), sextet (a.toNat % 4 * 16)]
  | [a, b] =>
      [sextet (a.toNat / 4), sextet (a.toNat % 4 * 16 + b.toNat / 16),
        sextet (b.toNat % 16 * 4)]
  | a :: b :: c :: rest =>
      sextet (a.toNat / 4) :: sextet (a.toNat % 4 * 16 + b.toNat / 16) ::
        sextet (b.toNat % 16 * 4 + c.toNat / 64) :: sextet (c.toNat % 64) ::
          base64Characters rest

/-- The bytes behind the characters, if they spell any. -/
def ofBase64Characters? : List Char → Option Bytes
  | [] => some []
  | [_] => none
  | [a, b] => do
      let first ← sextet? a
      let second ← sextet? b
      if second % 16 = 0 then
        some [UInt8.ofNat (first * 4 + second / 16)]
      else
        none
  | [a, b, c] => do
      let first ← sextet? a
      let second ← sextet? b
      let third ← sextet? c
      if third % 4 = 0 then
        some
          [UInt8.ofNat (first * 4 + second / 16),
            UInt8.ofNat (second % 16 * 16 + third / 4)]
      else
        none
  | a :: b :: c :: d :: rest => do
      let first ← sextet? a
      let second ← sextet? b
      let third ← sextet? c
      let fourth ← sextet? d
      let others ← ofBase64Characters? rest
      some
        (UInt8.ofNat (first * 4 + second / 16) ::
          UInt8.ofNat (second % 16 * 16 + third / 4) ::
            UInt8.ofNat (third % 4 * 64 + fourth) :: others)

def base64url (bytes : Bytes) : String :=
  String.ofList (base64Characters bytes)

def ofBase64url? (text : String) : Option Bytes :=
  ofBase64Characters? text.toList

theorem sextet?_sextet {bits : Nat} (small : bits < 64) :
    sextet? (sextet bits) = some bits := by
  have all : ∀ bits < 64, sextet? (sextet bits) = some bits := by
    decide +kernel
  exact all bits small

theorem ofNat_of_eq (byte : UInt8) {value : Nat} (same : value = byte.toNat) :
    UInt8.ofNat value = byte := by
  rw [same, UInt8.ofNat_toNat]

theorem ofBase64Characters?_base64Characters (bytes : Bytes) :
    ofBase64Characters? (base64Characters bytes) = some bytes := by
  induction bytes using base64Characters.induct with
  | case1 => rfl
  | case2 a =>
      have bound := a.toNat_lt
      simp only [base64Characters, ofBase64Characters?]
      rw [sextet?_sextet (by omega), sextet?_sextet (by omega)]
      simp only [Option.bind_eq_bind, Option.bind_some]
      rw [if_pos (by omega), ofNat_of_eq a (by omega)]
  | case3 a b =>
      have first := a.toNat_lt
      have second := b.toNat_lt
      simp only [base64Characters, ofBase64Characters?]
      rw [sextet?_sextet (by omega), sextet?_sextet (by omega),
        sextet?_sextet (by omega)]
      simp only [Option.bind_eq_bind, Option.bind_some]
      rw [if_pos (by omega), ofNat_of_eq a (by omega),
        ofNat_of_eq b (by omega)]
  | case4 a b c rest inductionHypothesis =>
      have first := a.toNat_lt
      have second := b.toNat_lt
      have third := c.toNat_lt
      simp only [base64Characters, ofBase64Characters?]
      rw [sextet?_sextet (by omega), sextet?_sextet (by omega),
        sextet?_sextet (by omega), sextet?_sextet (by omega),
        inductionHypothesis]
      simp only [Option.bind_eq_bind, Option.bind_some]
      rw [ofNat_of_eq a (by omega),
        ofNat_of_eq b (by omega), ofNat_of_eq c (by omega)]

/-- What is written is read back. -/
theorem ofBase64url?_base64url (bytes : Bytes) :
    ofBase64url? (base64url bytes) = some bytes := by
  rw [ofBase64url?, base64url, String.toList_ofList,
    ofBase64Characters?_base64Characters]

end Base64

end ByteText

end Btcr2Aggregation
