import OpcodeForms.CommandLine.Column
import OpcodeForms.Text.Case

/-!
# Settings

What the command line asks for: which forms are selected, and how they are shown.
-/

namespace OpcodeForms.CommandLine

/-- The format of the output. -/
inductive Format where
  | table
  | csv
deriving DecidableEq, Repr

instance : Enumeration Format where
  all := [.table, .csv]
  name
    | .table => "table"
    | .csv => "csv"
  mem_all a := by cases a <;> decide
  nodup_names := by decide

/-- What the command line asks for. -/
structure Settings where
  /-- The encodings of the selected forms: all encodings if there are none. -/
  encodings : List Encoding := []
  /-- What the mnemonics of the selected forms contain. -/
  mnemonic : Option (List Char) := none
  /-- The number of bits of a mode in which the selected forms are available. -/
  bitness : Option Nat := none
  /-- Whether `INVALID` and data declarations may be selected. -/
  pseudo : Bool := false
  format : Format := .table
  columns : List Column := Column.defaults
  /-- Whether the titles of the columns are shown. -/
  header : Bool := true
  /-- Whether tables are colored. -/
  color : Bool := false
  /-- The names of the selected forms, in either case: all names if there are none. -/
  names : List (List Char) := []
deriving DecidableEq

/-! ## Selection -/

namespace Settings

/-- Whether the form passes the filters that come before the question for its mode. -/
def admitsKind (s : Settings) (info : Info) : Bool :=
  (s.pseudo || info.isInstruction)
    && (s.encodings.isEmpty || s.encodings.contains info.encoding)
    && s.mnemonic.all fun text => Text.occursIn text info.form.mnemonic

/-- Whether the form has one of the names. -/
def admitsName (s : Settings) (info : Info) : Bool :=
  s.names.isEmpty || s.names.any fun name => Text.eqIgnoringCase name info.form.name

/-- Whether the form is selected. The question for its mode has no answer if there is no such
mode, and is not asked about a form that another filter has ruled out before. -/
def admits (s : Settings) (info : Info) : Except UsageError Bool :=
  if s.admitsKind info then
    match s.bitness with
    | none => .ok (s.admitsName info)
    | some bitness =>
      match info.isAvailableInMode bitness with
      | .error e => .error e
      | .ok available => .ok (available && s.admitsName info)
  else .ok false

/-- The selected forms, in order. -/
def select (s : Settings) : List Info → Except UsageError (List Info)
  | [] => .ok []
  | info :: infos =>
    match s.admits info with
    | .error e => .error e
    | .ok selected =>
      match s.select infos with
      | .error e => .error e
      | .ok rest => .ok (if selected then info :: rest else rest)

end Settings

end OpcodeForms.CommandLine
