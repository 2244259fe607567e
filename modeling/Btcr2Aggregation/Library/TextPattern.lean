import Mathlib.Data.List.Basic

/-!
# Text patterns

The regular expressions a program tests a message with, as far as they are
built from words, options, alternatives, sequences and runs of one class of
characters.  A pattern is read as the list of what can remain of a text after a
match at its start.
-/

namespace Btcr2Aggregation

/-- A pattern that is matched anywhere in a text. -/
inductive TextPattern where
  | word (text : String)
  | optional (pattern : TextPattern)
  | either (left right : TextPattern)
  | andThen (first second : TextPattern)
  | many (accepts : Char → Bool)

namespace TextPattern

/-- What can remain after a run of accepted characters. -/
def manyRests (accepts : Char → Bool) : List Char → List (List Char)
  | [] => [[]]
  | character :: rest =>
      (character :: rest) ::
        (if accepts character then manyRests accepts rest else [])

/-- What can remain after a match at the start. -/
def rests : TextPattern → List Char → List (List Char)
  | .word text, input =>
      if text.toList.isPrefixOf input then
        [input.drop text.toList.length]
      else
        []
  | .optional pattern, input => input :: rests pattern input
  | .either left right, input => rests left input ++ rests right input
  | .andThen first second, input => (rests first input).flatMap (rests second)
  | .many accepts, input => manyRests accepts input

/-- The pattern matches somewhere in the text. -/
def occursIn (pattern : TextPattern) (text : String) : Bool :=
  text.toList.tails.any fun suffix => !(pattern.rests suffix).isEmpty

/-- One of the alternatives. -/
def oneOf : List TextPattern → TextPattern
  | [] => .many fun _ => false
  | [pattern] => pattern
  | pattern :: rest => .either pattern (oneOf rest)

/-- The patterns one after the other. -/
def inOrder : List TextPattern → TextPattern
  | [] => .many fun _ => false
  | [pattern] => pattern
  | pattern :: rest => .andThen pattern (inOrder rest)

/-- One of the words. -/
def words (texts : List String) : TextPattern :=
  oneOf (texts.map word)

end TextPattern

end Btcr2Aggregation
