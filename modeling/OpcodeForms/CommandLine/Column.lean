import OpcodeForms.Info.InstructionText

/-!
# Output columns

A column of the output shows one attribute of each form. Its title is the name by which the
command line asks for it.
-/

namespace OpcodeForms.CommandLine

/-- A column of the output. -/
inductive Column where
  | code
  | name
  | encoding
  | opcode
  | instruction
  | modes
  | table
  | prefixes
  | tuple
  | operands
deriving DecidableEq, Repr

namespace Column

instance : Enumeration Column where
  all := [code, name, encoding, opcode, instruction, modes, table, prefixes, tuple, operands]
  name
    | code => "code"
    | name => "name"
    | encoding => "encoding"
    | opcode => "opcode"
    | instruction => "instruction"
    | modes => "modes"
    | table => "table"
    | prefixes => "prefix"
    | tuple => "tuple"
    | operands => "ops"
  mem_all a := by cases a <;> decide
  nodup_names := by decide

/-- The title of the column. -/
def title (c : Column) : List Char :=
  Enumeration.text c

/-- The columns that are shown if none are asked for. -/
def defaults : List Column :=
  [name, opcode, instruction]

/-- The modes by their number of bits, and the properties that say whether a form is available
in them. -/
def modeNames : List (String × Property) :=
  [("16", .mode16), ("32", .mode32), ("64", .mode64)]

/-- The optional prefixes, and the properties that say whether a form may have them. -/
def prefixNames : List (String × Property) :=
  [("lock", .lock), ("xacquire", .xacquire), ("xrelease", .xrelease), ("rep", .rep),
    ("repne", .repne), ("bnd", .bnd), ("ht", .hintTaken), ("notrack", .notrack)]

/-- The names of the properties that hold of a form, with `sep` between them. -/
def propertyNames (info : Info) (sep : Char) (names : List (String × Property)) : List Char :=
  [sep].intercalate ((names.filter fun n => info.has n.2).map fun n => n.1.toList)

/-- What the column shows of a form. -/
def cell (info : Info) : Column → List Char
  | code => Text.decimal info.form.code.toNat
  | name => info.form.name
  | encoding => Enumeration.text info.encoding
  | opcode => info.opcodeText
  | instruction => info.instructionText
  | modes => propertyNames info '/' modeNames
  | table => Enumeration.text info.table
  | prefixes => propertyNames info ' ' prefixNames
  | tuple => Enumeration.text info.tupleType
  | operands => [' '].intercalate (info.operands.map Enumeration.text)

/-- The number by which a terminal knows the color of the column, if it has one. -/
def color? : Column → Option Nat
  | name => some 33
  | opcode => some 34
  | instruction => some 32
  | encoding | table => some 35
  | code | modes | prefixes | tuple | operands => none

end Column

end OpcodeForms.CommandLine
