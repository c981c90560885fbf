import OpcodeForms.Info.InstructionText
import OpcodeForms.Info.Decode
import OpcodeForms.Source.Table

/-!
# Catalogues of opcode forms

A catalogue lists the forms of a table in order, each with its packed record. The position of a
form is its code.
-/

namespace OpcodeForms

/-- A form and its packed record. -/
structure Entry where
  form : Form
  packed : Packed
deriving DecidableEq

/-- The forms of a table, in the order of their codes. -/
structure Catalogue where
  entries : List Entry

namespace Catalogue

/-- The form at position `i` of a table whose data declarations begin at position `declare`. -/
def entryAt (declare : Nat) (r : Record) (i : Nat) : Entry where
  form := {
    code := UInt16.ofNat i
    name := r.name
    mnemonic := r.mnemonic
    opCount := r.opCount
    isInstruction := 0 < i && i < declare }
  packed := r.packed

/-- The catalogue of a table. -/
def ofRecords (rs : List Record) : Catalogue where
  entries := rs.mapIdx fun i r => entryAt (Table.declarePos rs) r i

/-- The number of forms. -/
def size (c : Catalogue) : Nat :=
  c.entries.length

/-- The entry with the given code. -/
def get? (c : Catalogue) (code : Nat) : Option Entry :=
  c.entries[code]?

/-- The entry with exactly the given name. -/
def find? (c : Catalogue) (name : List Char) : Option Entry :=
  c.entries.find? fun e => e.form.name == name

/-- The decoded records of all forms, in order, or the first error. -/
def infos (c : Catalogue) : Except ConfigError (List Info) :=
  c.entries.mapM fun e => Info.decode e.form e.packed

end Catalogue

end OpcodeForms
