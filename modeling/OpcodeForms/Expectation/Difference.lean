import OpcodeForms.Expectation.Fields
import OpcodeForms.Text.LineDiff
import OpcodeForms.Text.Numeral

/-!
# Showing the difference between two entries

The difference between the expected and the rendered fields of an entry is shown one field a
line: fields that are only expected with a `-`, fields that are only rendered with a `+`, fields
that are both with a `|`, and each with a number.
-/

namespace OpcodeForms.Expectation

/-- How a line of a difference is marked. -/
inductive Mark where
  | expected
  | rendered
  | common
deriving DecidableEq, Repr

/-- The sign of a mark. -/
def Mark.sign : Mark → Char
  | .expected => '-'
  | .rendered => '+'
  | .common => '|'

/-- A line of a difference. -/
structure DifferenceLine where
  number : Nat
  mark : Mark
  content : List Char
deriving DecidableEq

namespace DifferenceLine

/-- A field as it is shown. -/
def shown (content : List Char) : List Char :=
  if content.isEmpty then "<empty>".toList else content

/-- The text of the line. -/
def text (l : DifferenceLine) : List Char :=
  Text.padLeft ' ' 3 (Text.decimal l.number) ++ [' ', l.mark.sign, ' '] ++ shown l.content

/-- Numbers aligned lines. The next expected line has the number `left`, the next rendered line
the number `right`. A common line counts as expected, and rendered lines are counted on from
it. If both start at zero, the numbers stay below the number of lines. -/
def ofAligned (left right : Nat) : List (Text.Aligned (List Char)) → List DifferenceLine
  | [] => []
  | .left s :: rest => ⟨left, .expected, s⟩ :: ofAligned (left + 1) right rest
  | .both s :: rest => ⟨left, .common, s⟩ :: ofAligned (left + 1) (left + 1) rest
  | .right s :: rest => ⟨right, .rendered, s⟩ :: ofAligned left (right + 1) rest

end DifferenceLine

/-- The lines of the difference between two entries, given as texts of joined fields. -/
def differenceLines (expected rendered : List Char) : List DifferenceLine :=
  DifferenceLine.ofAligned 0 0 (Text.lineDiff (breakFields expected) (breakFields rendered))

/-- The difference between two entries, under the place and the name of the entry. -/
def differenceText (file : List Char) (line : Nat) (name expected rendered : List Char) :
    List Char :=
  Text.unlines (("  --> ".toList ++ file ++ ':' :: Text.decimal line)
    :: ("   = ".toList ++ name)
    :: (differenceLines expected rendered).map DifferenceLine.text)

end OpcodeForms.Expectation
