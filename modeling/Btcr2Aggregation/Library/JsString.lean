import Mathlib.Algebra.Ring.Nat
import Mathlib.Data.List.DropRight
import Mathlib.Data.List.TakeWhile

/-!
# JavaScript string measures

`String.prototype.length` counts UTF-16 code units, and
`String.prototype.trim` strips the white space and line terminators of the
language on both ends.
-/

namespace Btcr2Aggregation

namespace JsString

/-- The code units one scalar value takes. -/
def codeUnits (character : Char) : Nat :=
  if character.val < 0x10000 then 1 else 2

/-- `text.length`. -/
def length (text : String) : Nat :=
  (text.toList.map codeUnits).sum

/-- White space and line terminators. -/
def isSpace (character : Char) : Bool :=
  character.val ∈
    [0x9, 0xA, 0xB, 0xC, 0xD, 0x20, 0xA0, 0x1680, 0x2028, 0x2029, 0x202F,
      0x205F, 0x3000, 0xFEFF] ||
  (0x2000 ≤ character.val && character.val ≤ 0x200A)

/-- `text.trim()`. -/
def trim (text : String) : String :=
  String.ofList (text.toList.dropWhile isSpace |>.reverse.dropWhile isSpace |>.reverse)

/-- A trimmed text starts and ends with no space. -/
theorem trim_trim (text : String) : trim (trim text) = trim text := by
  have asRdrop :
      ∀ characters : List Char,
        (characters.dropWhile isSpace |>.reverse.dropWhile isSpace
            |>.reverse) =
          (characters.dropWhile isSpace).rdropWhile isSpace :=
    fun _ => rfl
  simp only [trim, String.toList_ofList, asRdrop]
  congr 1
  have started :
      ((text.toList.dropWhile isSpace).rdropWhile isSpace).dropWhile isSpace =
        (text.toList.dropWhile isSpace).rdropWhile isSpace := by
    rw [List.dropWhile_eq_self_iff]
    intro present
    have kept := List.rdropWhile_prefix (p := isSpace)
      (l := text.toList.dropWhile isSpace)
    have inside : 0 < (text.toList.dropWhile isSpace).length :=
      lt_of_lt_of_le present kept.length_le
    rw [kept.getElem present]
    exact List.dropWhile_get_zero_not isSpace text.toList inside
  rw [started, List.rdropWhile_idempotent]

/-- Trim, and read an empty result as absent. -/
def trimToUndefined (text : String) : Option String :=
  let trimmed := trim text
  if trimmed = "" then none else some trimmed

/-- What trimming leaves behind, it leaves behind again. -/
theorem trimToUndefined_of_trimmed
    {text trimmed : String} (trims : trimToUndefined text = some trimmed) :
    trimToUndefined trimmed = some trimmed := by
  simp only [trimToUndefined, Option.ite_none_left_eq_some,
    Option.some.injEq] at trims
  obtain ⟨present, rfl⟩ := trims
  simp only [trimToUndefined, trim_trim, if_neg present]

end JsString

end Btcr2Aggregation
