/-!
# Cutting text

Text is a list of characters. The functions here cut it at separators, at blanks and at line
ends. All of them are built from `List.splitOnP`, whose lemmas say what the pieces are. The blanks
are the characters with the Unicode property `White_Space`.
-/

namespace OpcodeForms.Text

/-- Whether the character is white space. -/
def isBlank (c : Char) : Bool :=
  let n := c.toNat
  (9 ≤ n && n ≤ 13) || n == 0x20 || n == 0x85 || n == 0xa0 || n == 0x1680
    || (0x2000 ≤ n && n ≤ 0x200a) || n == 0x2028 || n == 0x2029 || n == 0x202f
    || n == 0x205f || n == 0x3000

/-- The words of the text: its longest runs of characters that are not blank. -/
def words (s : List Char) : List (List Char) :=
  (s.splitOnP isBlank).filter fun w => !w.isEmpty

/-- The text without the blanks at its end. -/
def trimEnd (s : List Char) : List Char :=
  (s.reverse.dropWhile isBlank).reverse

/-- The text without the blanks at its ends. -/
def trim (s : List Char) : List Char :=
  trimEnd (s.dropWhile isBlank)

/-- The text before the first `sep`: all of it if there is none. -/
def before (sep : Char) (s : List Char) : List Char :=
  s.takeWhile (· != sep)

/-- The text after the first `sep`, if there is one. -/
def after? (sep : Char) (s : List Char) : Option (List Char) :=
  match s.dropWhile (· != sep) with
  | [] => none
  | _ :: r => some r

/-- The text without a carriage return at its end. -/
def dropReturn (s : List Char) : List Char :=
  if s.getLast? = some '\r' then s.dropLast else s

/-- The lines of the text. A line ends at a line feed, and a carriage return right before the
line feed belongs to the line end. The last line may lack its end, and then keeps a carriage
return. -/
def lines (s : List Char) : List (List Char) :=
  let pieces := s.splitOn '\n'
  let ended := pieces.dropLast.map dropReturn
  match pieces.getLast? with
  | none | some [] => ended
  | some last => ended ++ [last]

/-- The text made of the lines, each with a line feed at its end. -/
def unlines (ls : List (List Char)) : List Char :=
  ls.flatMap (· ++ ['\n'])

/-- The lines of the text with their numbers, from 1 on. -/
def numberedLines (s : List Char) : List (List Char × Nat) :=
  (lines s).zipIdx 1

example : lines "a\r\n\nb\r".toList = ["a".toList, [], "b\r".toList] := by decide

end OpcodeForms.Text
