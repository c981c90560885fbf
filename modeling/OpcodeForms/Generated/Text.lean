import OpcodeForms.Source.Record
import OpcodeForms.Text.Quoted
import OpcodeForms.Text.Split

/-!
# The generated files

A table is compiled into two files of source code: one with the identities of its forms, and one
with their packed records. A file is a list of sections with an empty line before each, and a
section is a list of items.
-/

namespace OpcodeForms.Generated

/-- The line of the constant of the form at position `i`. -/
def formLine (name : List Char) (i : Nat) : List Char :=
  "pub const ".toList ++ name ++ ": Code = Code(".toList ++ Text.decimal i ++ ");".toList

/-- A definition in a generated file. -/
inductive Item where
  /-- The constant of the form at position `i`. -/
  | form (name : List Char) (i : Nat)
  /-- The number of forms. -/
  | count (n : Nat)
  /-- An array with one entry a form. Its length is that of the table, by the name that the file
  has for it. -/
  | array (name type length : String) (entries : List (List Char))
deriving DecidableEq

namespace Item

/-- The name of the constant that holds the number of forms. -/
def countName : String := "CODE_COUNT"

/-- The name that the item defines. -/
def name : Item → List Char
  | form name _ => name
  | count _ => countName.toList
  | array name _ _ _ => name.toList

/-- The lines of the item. -/
def lines : Item → List (List Char)
  | form name i => [formLine name i]
  | count n => ["pub(crate) const ".toList ++ countName.toList ++ ": usize = ".toList
      ++ Text.decimal n ++ ";".toList]
  | array name type length entries =>
    ("pub(crate) static ".toList ++ name.toList ++ ": [".toList ++ type.toList ++ "; ".toList
        ++ length.toList ++ "] = [".toList)
      :: entries.map ("    ".toList ++ ·) ++ ["];".toList]

end Item

/-- The first line of every generated file. -/
def titleLine : List Char :=
  "// generated from the opcode table, do not edit".toList

/-- The text of a file with the given sections. -/
def fileText (sections : List (List Item)) : List Char :=
  Text.unlines (titleLine :: sections.flatMap fun items => [] :: items.flatMap Item.lines)

/-! ## Entries of the arrays -/

/-- A string of a form. The characters of `special` are escaped. -/
def stringEntry (special : Char → Bool) (s : List Char) : List Char :=
  Text.quoteWith special s ++ [',']

/-- The entry text with the name of its form as a comment. -/
def noted (entry : List Char) (r : Record) : List Char :=
  entry ++ ", // ".toList ++ r.name

/-- The number of operands of a form. -/
def opCountEntry (r : Record) : List Char :=
  noted (Text.decimal r.opCount) r

/-- A word in eight hexadecimal digits. -/
def wordText (w : UInt32) : List Char :=
  "0x".toList ++ Text.hexLower 8 w.toNat

/-- The packed record of a form. -/
def packedEntry (r : Record) : List Char :=
  noted ("PackedOpCode::new(".toList ++ wordText r.packed.word1 ++ ", ".toList
    ++ wordText r.packed.word2 ++ ", ".toList ++ wordText r.packed.word3 ++ ")".toList) r

/-! ## The two files -/

/-- The sections of the file with the identities. -/
def codeSections (special : Char → Bool) (rs : List Record) : List (List Item) :=
  [rs.mapIdx fun i r => .form r.constName i,
    [.count rs.length],
    [.array "NAMES" "&str" Item.countName (rs.map fun r => stringEntry special r.name)],
    [.array "MNEMONICS" "&str" Item.countName (rs.map fun r => stringEntry special r.mnemonic)],
    [.array "OP_COUNTS" "u8" Item.countName (rs.map opCountEntry)]]

/-- The names that the file with the identities defines, in order. -/
def codeNames (rs : List Record) : List (List Char) :=
  (codeSections Text.isHidden rs).flatten.map Item.name

/-- The file with the identities, in whose strings the characters of `special` are escaped. -/
def codeTextWith (special : Char → Bool) (rs : List Record) : List Char :=
  fileText (codeSections special rs)

/-- The file with the identities. -/
def codeText (rs : List Record) : List Char :=
  codeTextWith Text.isHidden rs

/-- The file with the packed records. It takes their number from the file with the identities. -/
def tableText (rs : List Record) : List Char :=
  fileText [[.array "OP_CODE_DATA" "PackedOpCode" ("code::" ++ Item.countName)
    (rs.map packedEntry)]]

end OpcodeForms.Generated
