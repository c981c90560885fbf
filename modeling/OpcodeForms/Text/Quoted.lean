import OpcodeForms.Text.Extending
import OpcodeForms.Text.Numeral
import OpcodeForms.Text.Unprintable

/-!
# Quoted text

A string literal stands between quotation marks. In it a backslash begins an escape: of itself,
of a quotation mark, of the control characters that have a letter, and, by the code point, of
the characters that would not show.

A line of comma separated values holds fields with commas between. A field with a comma or a
quotation mark in it stands in quotation marks, and there its quotation marks are doubled.
-/

namespace OpcodeForms.Text

/-! ## String literals -/

/-- A character by its code point in hexadecimal digits. -/
def escapeCodePoint (c : Char) : List Char :=
  "\\u\x7b".toList ++ hexLower 1 c.toNat ++ ['\x7d']

/-- A character as it stands in a literal. The characters of `special` are written by their code
points, unless they have an escape of their own. -/
def quoteChar (special : Char → Bool) (c : Char) : List Char :=
  if c = '"' then ['\\', '"']
  else if c = '\\' then ['\\', '\\']
  else if c = '\x00' then ['\\', '0']
  else if c = '\t' then ['\\', 't']
  else if c = '\r' then ['\\', 'r']
  else if c = '\n' then ['\\', 'n']
  else if special c then escapeCodePoint c
  else [c]

/-- The text between quotation marks, with the characters of `special` escaped. -/
def quoteWith (special : Char → Bool) (s : List Char) : List Char :=
  '"' :: s.flatMap (quoteChar special) ++ ['"']

/-- Whether the character is one of the Hangul fillers, the letters that keep the place of a missing
one empty. -/
def isFiller (c : Char) : Bool :=
  inRanges [(0x115f, 0x1160), (0x3164, 0x3164), (0xffa0, 0xffa0)] c

/-- Whether the character would not show by itself. -/
def isHidden (c : Char) : Bool :=
  isExtending c || isUnprintable c || isFiller c

/-- In a string literal no character is hidden. -/
example : quoteWith isHidden "a\"\u0301\x7f".toList
    = "\"a\\\"\\u\x7b301\x7d\\u\x7b7f\x7d\"".toList := by
  decide +kernel

/-! ## Comma separated values -/

/-- The text with its quotation marks doubled. -/
def doubled (s : List Char) : List Char :=
  s.flatMap fun c => if c = '"' then ['"', '"'] else [c]

/-- A field as it stands in a line. -/
def csvField (s : List Char) : List Char :=
  if s.contains ',' || s.contains '"' then '"' :: doubled s ++ ['"'] else s

/-- The line of the given fields. -/
def csvLine (fields : List (List Char)) : List Char :=
  [','].intercalate (fields.map csvField)

example : csvLine ["a".toList, "b, \"c\"".toList] = "a,\"b, \"\"c\"\"\"".toList := by decide

end OpcodeForms.Text
