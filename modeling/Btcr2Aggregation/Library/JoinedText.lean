import Mathlib.Data.List.Basic
import Mathlib.Data.List.Perm.Subperm

/-!
# Joined texts

Texts joined with a one-character separator that some of them may contain.  The
joined text determines the pieces between separators, up to their order when
the texts were sorted first.  Where all but one of the pieces are known to be
texts of the list, the last one is a text of the list as well.
-/

namespace Btcr2Aggregation

namespace JoinedText

universe u

variable {Character : Type u} [DecidableEq Character] (separator : Character)

/-- The pieces of the texts, in their order. -/
def pieces (texts : List (List Character)) : List (List Character) :=
  texts.flatMap (List.splitOn separator)

/-- Splitting a joined list finds the pieces of its members. -/
theorem splitOn_intercalate
    {texts : List (List Character)} (nonempty : texts ≠ []) :
    ([separator].intercalate texts).splitOn separator =
      pieces separator texts := by
  induction texts with
  | nil => exact absurd rfl nonempty
  | cons text rest inductionHypothesis =>
      cases rest with
      | nil => simp [pieces]
      | cons next others =>
          have joined :
              [separator].intercalate (text :: next :: others) =
                text ++ separator :: [separator].intercalate (next :: others) := by
            simp [List.intercalate_cons_of_ne_nil]
          have tail := inductionHypothesis (List.cons_ne_nil next others)
          rw [joined, List.splitOn_append_cons_self, tail]
          rfl

omit [DecidableEq Character] in
variable {separator} in
/-- Behind the last separator stands a text without one. -/
theorem append_cons_inj_of_notMem
    {front otherFront back otherBack : List Character}
    (plain : separator ∉ back) (otherPlain : separator ∉ otherBack)
    (same : front ++ separator :: back = otherFront ++ separator :: otherBack) :
    front = otherFront ∧ back = otherBack := by
  rcases List.append_eq_append_iff.mp same with
    ⟨between, longer, rest⟩ | ⟨between, longer, rest⟩
  · cases between with
    | nil =>
        have fronts : front ++ [] = otherFront := longer.symm
        rw [List.append_nil] at fronts
        exact ⟨fronts, (List.cons.inj rest).2⟩
    | cons first others =>
        have inside : separator ∈ back := by
          rw [(List.cons.inj rest).2]
          simp
        exact absurd inside plain
  · cases between with
    | nil =>
        have fronts : front = otherFront ++ [] := longer
        rw [List.append_nil] at fronts
        exact ⟨fronts, (List.cons.inj rest).2.symm⟩
    | cons first others =>
        have inside : separator ∈ otherBack := by
          rw [(List.cons.inj rest).2]
          simp
        exact absurd inside otherPlain

/-- Texts without the separator are their own pieces. -/
theorem pieces_of_notMem
    {texts : List (List Character)}
    (plain : ∀ text ∈ texts, separator ∉ text) :
    pieces separator texts = texts := by
  induction texts with
  | nil => rfl
  | cons text rest inductionHypothesis =>
      have here := plain text List.mem_cons_self
      have tail :=
        inductionHypothesis fun other member =>
          plain other (List.mem_cons_of_mem text member)
      rw [pieces, List.flatMap_cons, List.splitOn_eq_singleton here]
      rw [pieces] at tail
      rw [tail]
      rfl

/-- A list with one piece is that piece alone. -/
theorem eq_singleton_of_pieces
    {texts : List (List Character)} {piece : List Character}
    (single : pieces separator texts = [piece]) : texts = [piece] := by
  cases texts with
  | nil => cases single
  | cons text rest =>
      rw [pieces, List.flatMap_cons] at single
      have headNonempty := List.splitOn_ne_nil separator text
      cases split : text.splitOn separator with
      | nil => exact absurd split headNonempty
      | cons first others =>
          rw [split, List.cons_append] at single
          obtain ⟨firstIs, restIs⟩ := List.cons.inj single
          obtain ⟨othersNil, restNil⟩ := List.append_eq_nil_iff.mp restIs
          have rebuilt :
              [separator].intercalate (text.splitOn separator) = text :=
            List.intercalate_splitOn separator
          rw [split, othersNil, firstIs] at rebuilt
          have textIs : text = piece := by simpa using rebuilt.symm
          cases rest with
          | nil => rw [textIs]
          | cons next later =>
              rw [List.flatMap_cons] at restNil
              have nextNil := (List.append_eq_nil_iff.mp restNil).1
              exact absurd nextNil (List.splitOn_ne_nil separator next)

/-- Texts whose pieces are `last` and some of the texts themselves are those
and `last`. -/
theorem perm_of_pieces_perm
    {texts known : List (List Character)} {last : List Character}
    (distinct : known.Nodup) (present : known ⊆ texts)
    (plain : ∀ text ∈ known, separator ∉ text)
    (same : (pieces separator texts).Perm (last :: known)) :
    texts.Perm (last :: known) := by
  obtain ⟨inside, reordered, within⟩ := List.subperm_of_subset distinct present
  obtain ⟨rest, spread⟩ := within.exists_perm_append
  have split : texts.Perm (known ++ rest) :=
    spread.trans (reordered.append_right rest)
  have divided :
      (pieces separator texts).Perm (known ++ pieces separator rest) := by
    have distributed := split.flatMap_right (List.splitOn separator)
    rw [List.flatMap_append] at distributed
    have knownPieces := pieces_of_notMem separator plain
    rw [pieces] at knownPieces
    rw [knownPieces] at distributed
    exact distributed
  have restPieces : (pieces separator rest).Perm [last] := by
    have moved := divided.symm.trans same
    have rotated : (last :: known).Perm (known ++ [last]) :=
      (List.perm_append_singleton last known).symm
    exact (List.perm_append_left_iff known).mp (moved.trans rotated)
  have restIs : rest = [last] :=
    eq_singleton_of_pieces separator (List.perm_singleton.mp restPieces)
  rw [restIs] at split
  exact split.trans (List.perm_append_singleton last known)

end JoinedText

end Btcr2Aggregation
