import OpcodeForms.Source.Assignment
import OpcodeForms.Text.Case

/-!
# Records of the opcode table

A table line is `NAME MNEMONIC ENCODING` followed by assignments, with blanks between.
`Record.read` reads it into a record: the identity of a form and its packed attributes.
-/

namespace OpcodeForms

/-- One opcode form of a table. -/
structure Record where
  name : List Char
  mnemonic : List Char
  encoding : Encoding
  /-- The number of operand slots in use. -/
  opCount : Nat
  packed : Packed
deriving DecidableEq

namespace Record

/-- The name of the constant that stands for the form, such as `ADD_RM8_R8`. -/
def constName (r : Record) : List Char :=
  Text.upper r.name

/-- Whether the text is a name: an ASCII letter, then ASCII letters, digits and underscores. -/
def isName : List Char → Bool
  | [] => false
  | c :: r => c.isAlpha && r.all fun c => c.isAlphanum || c = '_'

/-- The record of a form with the attributes that its line assigns. -/
def ofAttributes (name mnemonic : List Char) (e : Encoding) (a : Attributes) : Record where
  name := name
  mnemonic := mnemonic
  encoding := e
  opCount := a.opCount e
  packed := a.pack e

/-- Reads the assignments of a line. One of them must give the opcode. -/
def ofWords (name mnemonic : List Char) (e : Encoding) (ws : List (List Char)) :
    Except RecordError Record := do
  let as ← Assignment.ofWords e [] ws
  let a := as.foldl Attributes.assign {}
  if a.opcode.isNone then throw .missingOpcode
  return ofAttributes name mnemonic e a

/-- Reads a table line. -/
def read (line : List Char) : Except RecordError Record :=
  match Text.words line with
  | [] => .error .missingName
  | name :: rest =>
    if !isName name then .error (.invalidName name)
    else
      match rest with
      | [] => .error .missingMnemonic
      | [_] => .error .missingEncoding
      | mnemonic :: encoding :: ws =>
        match (Enumeration.ofName? encoding : Option Encoding) with
        | none => .error (.invalidValue "encoding".toList encoding)
        | some e => ofWords name mnemonic e ws

end Record

end OpcodeForms
