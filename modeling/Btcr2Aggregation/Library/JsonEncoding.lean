import Mathlib.Algebra.Order.BigOperators.Group.List
import Btcr2Aggregation.Library.Binary64Text
import Btcr2Aggregation.Library.Utf16

/-!
# What `JSON.stringify` writes

A string is quoted unit by unit: seven characters have an escape of two, the
other control characters and surrogates without a partner one of six, and
everything else stands for itself.  No unit takes more than six bytes, so that
an object's length is bounded by the lengths of what it holds.
-/

namespace Btcr2Aggregation

namespace JsonEncoding

open Utf16

section Strings

/-! ## Strings -/

/-- The second character of a short escape. -/
def shortEscape? (unit : UInt16) : Option Char :=
  [(0x08, 'b'), (0x09, 't'), (0x0A, 'n'), (0x0C, 'f'), (0x0D, 'r'),
    (0x22, '"'), (0x5C, '\\')].lookup unit.toNat

/-- `UnicodeEscape`: four lowercase digits. -/
def unicodeEscape (unit : UInt16) : CodeUnits :=
  ofChars
    ['\\', 'u', Nat.digitChar (unit.toNat / 0x1000),
      Nat.digitChar (unit.toNat / 0x100 % 0x10),
      Nat.digitChar (unit.toNat / 0x10 % 0x10),
      Nat.digitChar (unit.toNat % 0x10)]

/-- A unit that is no part of a pair. -/
def quoteUnit (unit : UInt16) : CodeUnits :=
  match shortEscape? unit with
  | some letter => ofChars ['\\', letter]
  | none =>
      if unit.toNat < 0x20 || isLead unit || isTrail unit then
        unicodeEscape unit
      else
        [unit]

/-- `QuoteJSONString` between its quotation marks. -/
def quoteUnits : CodeUnits → CodeUnits
  | [] => []
  | [unit] => quoteUnit unit
  | unit :: next :: rest =>
      if isLead unit && isTrail next then
        unit :: next :: quoteUnits rest
      else
        quoteUnit unit ++ quoteUnits (next :: rest)

/-- `QuoteJSONString`. -/
def quote (text : CodeUnits) : CodeUnits :=
  ofChars ['"'] ++ quoteUnits text ++ ofChars ['"']

/-- Characters of a byte each. -/
theorem byteBound_ofChars_of_ascii {characters : List Char}
    (ascii : ∀ character ∈ characters, character.toNat < 0x80) :
    byteBound (ofChars characters) = characters.length := by
  induction characters with
  | nil => rfl
  | cons character rest inductionHypothesis =>
      obtain ⟨first, others⟩ := List.forall_mem_cons.mp ascii
      have one :
          ofChars (character :: rest) =
            UInt16.ofNat character.toNat :: ofChars rest := by
        rw [ofChars, List.flatMap_cons, if_pos (by omega)]
        rfl
      have byte : unitBytes (UInt16.ofNat character.toNat) = 1 := by
        have value :
            (UInt16.ofNat character.toNat).toNat = character.toNat := by
          rw [UInt16.toNat_ofNat']
          omega
        rw [unitBytes, value, if_pos first]
      rw [one, byteBound_cons, byte, inductionHypothesis others,
        List.length_cons, Nat.add_comm]

theorem digitChar_ascii {digit : Nat} (small : digit < 16) :
    (Nat.digitChar digit).toNat < 0x80 := by
  interval_cases digit <;> decide

theorem byteBound_unicodeEscape (unit : UInt16) :
    byteBound (unicodeEscape unit) = 6 := by
  have bound := unit.toNat_lt
  apply byteBound_ofChars_of_ascii
  simp only [List.forall_mem_cons]
  refine ⟨by decide, by decide, ?_, ?_, ?_, ?_, nofun⟩
  · exact digitChar_ascii (by omega)
  · exact digitChar_ascii (by omega)
  · exact digitChar_ascii (by omega)
  · exact digitChar_ascii (by omega)

/-- No unit is written in more than six bytes. -/
theorem byteBound_quoteUnit_le (unit : UInt16) :
    byteBound (quoteUnit unit) ≤ 6 := by
  unfold quoteUnit
  cases short : shortEscape? unit with
  | some letter =>
      have ascii : letter.toNat < 0x80 := by
        obtain ⟨before, after, split, -⟩ := List.lookup_eq_some_iff.mp short
        have member :
            (unit.toNat, letter) ∈
              [(0x08, 'b'), (0x09, 't'), (0x0A, 'n'), (0x0C, 'f'),
                (0x0D, 'r'), (0x22, '"'), (0x5C, '\\')] := by
          rw [split]
          exact List.mem_append_right before List.mem_cons_self
        have each :
            ∀ entry ∈
              [(0x08, 'b'), (0x09, 't'), (0x0A, 'n'), (0x0C, 'f'),
                (0x0D, 'r'), (0x22, '"'), (0x5C, '\\')],
              (entry : Nat × Char).2.toNat < 0x80 := by
          decide
        exact each _ member
      have pair : ∀ character ∈ ['\\', letter], character.toNat < 0x80 := by
        simp only [List.forall_mem_cons]
        exact ⟨by decide, ascii, nofun⟩
      simp only [byteBound_ofChars_of_ascii pair]
      exact Nat.le_add_left 2 4
  | none =>
      by_cases escaped :
          (unit.toNat < 0x20 || isLead unit || isTrail unit) = true
      · simp only [if_pos escaped]
        rw [byteBound_unicodeEscape]
      · simp only [if_neg escaped]
        rw [byteBound_cons]
        have most := unitBytes_le unit
        exact most.trans (by decide)

theorem byteBound_quoteUnits_le (text : CodeUnits) :
    byteBound (quoteUnits text) ≤ 6 * text.length := by
  induction text using quoteUnits.induct with
  | case1 => exact Nat.zero_le _
  | case2 unit => exact byteBound_quoteUnit_le unit
  | case3 unit next rest pair inductionHypothesis =>
      have first := unitBytes_le unit
      have second := unitBytes_le next
      rw [quoteUnits, if_pos pair, byteBound_cons, byteBound_cons]
      simp only [List.length_cons]
      omega
  | case4 unit next rest apart inductionHypothesis =>
      have first := byteBound_quoteUnit_le unit
      rw [quoteUnits, if_neg apart, byteBound_append]
      simp only [List.length_cons] at inductionHypothesis ⊢
      omega

theorem byteBound_quote_le (text : CodeUnits) :
    byteBound (quote text) ≤ 6 * text.length + 2 := by
  have inner := byteBound_quoteUnits_le text
  have mark : byteBound (ofChars ['"']) = 1 := by decide
  rw [quote, byteBound_append, byteBound_append, mark]
  omega

end Strings

section Objects

/-! ## Flat objects -/

/-- A field's value. -/
inductive Scalar where
  | null
  | number (number : Binary64)
  | text (units : CodeUnits)

/-- The most bytes a value takes. -/
def Scalar.bytes : Scalar → Nat
  | .null => 4
  | .number _ => 25
  | .text units => 6 * units.length + 2

variable (printer : Binary64.Printer)

def stringifyScalar : Scalar → CodeUnits
  | .null => ofChars "null".toList
  | .number number => ofChars (printer.print number)
  | .text units => quote units

def stringifyMember (entry : String × Scalar) : CodeUnits :=
  quote (ofChars entry.1.toList) ++
    (ofChars [':'] ++ stringifyScalar printer entry.2)

/-- Members with a comma between each two. -/
def joinMembers : List CodeUnits → CodeUnits
  | [] => []
  | [last] => last
  | first :: next :: rest => first ++ (ofChars [','] ++ joinMembers (next :: rest))

/-- `JSON.stringify` of an object that holds no object. -/
def stringify (entries : List (String × Scalar)) : CodeUnits :=
  ofChars ['\x7b'] ++
    (joinMembers (entries.map (stringifyMember printer)) ++ ofChars ['\x7d'])

/-- The most bytes a member takes, its comma included. -/
def memberBytes (entry : String × Scalar) : Nat :=
  6 * (ofChars entry.1.toList).length + 4 + entry.2.bytes

theorem ascii_of_isNumeric {character : Char}
    (numeric : Binary64.IsNumeric character) : character.toNat < 0x80 := by
  rcases numeric with digit | mark
  · have range := Char.isDigit_iff_toNat.mp digit
    simp only [Char.reduceToNat] at range
    omega
  · simp only [List.mem_cons, List.not_mem_nil, or_false] at mark
    rcases mark with rfl | rfl | rfl | rfl <;> decide

theorem byteBound_stringifyScalar_le (scalar : Scalar) :
    byteBound (stringifyScalar printer scalar) ≤ scalar.bytes := by
  cases scalar with
  | null => exact (by decide : byteBound (ofChars "null".toList) ≤ 4)
  | number number =>
      obtain ⟨short, numeric⟩ := printer.bounded number
      have bytes :=
        byteBound_ofChars_of_ascii fun character member =>
          ascii_of_isNumeric (numeric character member)
      rw [stringifyScalar, bytes]
      exact short
  | text units => exact byteBound_quote_le units

theorem byteBound_stringifyMember_le (entry : String × Scalar) :
    byteBound (stringifyMember printer entry) + 1 ≤ memberBytes entry := by
  have key := byteBound_quote_le (ofChars entry.1.toList)
  have value := byteBound_stringifyScalar_le printer entry.2
  have colon : byteBound (ofChars [':']) = 1 := by decide
  rw [stringifyMember, byteBound_append, byteBound_append, colon, memberBytes]
  omega

theorem byteBound_joinMembers_le (members : List CodeUnits) :
    byteBound (joinMembers members) ≤
      (members.map fun member => byteBound member + 1).sum := by
  have comma : byteBound (ofChars [',']) = 1 := by decide
  induction members using joinMembers.induct with
  | case1 => exact Nat.le_refl 0
  | case2 last =>
      rw [joinMembers, List.map_singleton, List.sum_singleton]
      exact Nat.le_succ _
  | case3 first next rest inductionHypothesis =>
      rw [joinMembers, byteBound_append, byteBound_append, comma, List.map_cons,
        List.sum_cons]
      omega

/-- An object's encoding is bounded by the lengths of its keys and texts. -/
theorem length_encode_stringify_le (entries : List (String × Scalar)) :
    (encode (stringify printer entries)).length ≤
      2 + (entries.map memberBytes).sum := by
  have encoded := length_encode_le (stringify printer entries)
  have joined :=
    byteBound_joinMembers_le (entries.map (stringifyMember printer))
  have members :
      ((entries.map (stringifyMember printer)).map fun member =>
          byteBound member + 1).sum ≤ (entries.map memberBytes).sum := by
    rw [List.map_map]
    apply List.sum_le_sum
    intro entry _
    exact byteBound_stringifyMember_le printer entry
  have opening : byteBound (ofChars ['\x7b']) = 1 := by decide
  have closing : byteBound (ofChars ['\x7d']) = 1 := by decide
  have whole :
      byteBound (stringify printer entries) =
        1 +
          (byteBound (joinMembers (entries.map (stringifyMember printer))) +
            1) := by
    rw [stringify, byteBound_append, byteBound_append, opening, closing]
  omega

end Objects

end JsonEncoding

end Btcr2Aggregation
