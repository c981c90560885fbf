import OpcodeForms.Text.Split

/-!
# Rendered fields as text

The fields of an entry are compared as one text, in which every run of blanks inside a field is
a space and the blanks around it are gone.
-/

namespace OpcodeForms.Expectation

/-- The field with a space for every run of blanks inside, and without the blanks around it. -/
def normalize (field : List Char) : List Char :=
  [' '].intercalate (Text.words field)

/-- What stands between two fields. -/
def separator : List Char := " | ".toList

/-- The fields as one text. -/
def joinFields (fields : List (List Char)) : List Char :=
  separator.intercalate (fields.map normalize)

/-- The text with a line feed for each separator, so that every field is on lines of its own. -/
def breakFields : List Char → List Char
  | ' ' :: '|' :: ' ' :: r => '\n' :: breakFields r
  | c :: r => c :: breakFields r
  | [] => []

example : joinFields [" a\t b".toList, []] = "a b | ".toList := by decide

end OpcodeForms.Expectation
