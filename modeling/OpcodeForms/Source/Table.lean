import OpcodeForms.Source.Record
import Std.Data.TreeSet

/-!
# Reading the opcode table

The source of a table is text with one record a line. A `#` starts a comment, and lines with
nothing else on them do not count. The order of the records matters, since a form is identified
by its position: the first is `INVALID`, and from `DeclareByte` on all are data declarations.

The first faulty line is reported by its number. Only a table without faulty lines is checked
as a whole.
-/

namespace OpcodeForms

/-- The name of the first record. -/
def invalidName : String := "INVALID"

/-- The name of the first data declaration. -/
def declareByteName : String := "DeclareByte"

/-- What the name of every data declaration begins with. -/
def declareStem : String := "Declare"

/-- The largest number of records: a position has 16 bits. -/
def maxRecords : Nat := 65535

/-- Why a line of a table is rejected. -/
inductive LineError where
  | record (e : RecordError)
  /-- An earlier record has the same name, up to case. -/
  | duplicateName (name : List Char)
deriving DecidableEq

/-- The text of the error. -/
def LineError.message : LineError → String
  | .record e => e.message
  | .duplicateName name => s!"duplicate name {quoted name}"

/-- Why a table without faulty lines is rejected. -/
inductive OrderError where
  | firstNotInvalid
  | missingDeclareByte
  | instructionFollows (name : List Char)
  | tooManyRecords (n : Nat)
deriving DecidableEq

/-- The text of the error. -/
def OrderError.message : OrderError → String
  | .firstNotInvalid => s!"first record must be {invalidName}"
  | .missingDeclareByte => s!"missing {declareByteName} record"
  | .instructionFollows name => s!"instruction {String.ofList name} follows {declareByteName}"
  | .tooManyRecords n => s!"too many records ({n})"

/-- Why a table is rejected. -/
inductive TableError where
  /-- A line is faulty. -/
  | line (number : Nat) (e : LineError)
  /-- The table as a whole is faulty. -/
  | order (e : OrderError)
deriving DecidableEq

namespace TableError

/-- The text of the error, without the place. -/
def text : TableError → String
  | .line _ e => e.message
  | .order e => e.message

/-- The text of the error with its place in the file at `path`. -/
def message (path : String) (e : TableError) : String :=
  match e with
  | .line number e => s!"error: {e.message}, {path}:{number}"
  | .order e => s!"error: {e.message}, {path}"

end TableError

namespace Table

/-- The entries of a table: its lines without comments and without the blanks around what is
left, if anything is, with their line numbers. -/
def entries (src : List Char) : List (List Char × Nat) :=
  ((Text.numberedLines src).map fun line => (Text.trim (Text.before '#' line.1), line.2)).filter
    fun entry => !entry.1.isEmpty

/-- Reads entries one after the other, given the constant names of the records so far. Stops at
the first entry that is faulty or repeats a name. -/
def readEntries (names : Std.TreeSet (List Char)) (done : List Record) :
    List (List Char × Nat) → Except TableError (List Record)
  | [] => .ok done.reverse
  | (entry, number) :: rest =>
    match Record.read entry with
    | .error e => .error (.line number (.record e))
    | .ok r =>
      if names.contains r.constName then .error (.line number (.duplicateName r.name))
      else readEntries (names.insert r.constName) (r :: done) rest

/-- The position of the first data declaration: the number of records if there is none. -/
def declarePos (rs : List Record) : Nat :=
  rs.findIdx fun r => r.name == declareByteName.toList

/-- Checks the order of the records and their number. -/
def checkOrder (rs : List Record) : Except OrderError Unit :=
  if rs.head?.map Record.name != some invalidName.toList then .error .firstNotInvalid
  else if rs.length ≤ declarePos rs then .error .missingDeclareByte
  else
    match (rs.drop (declarePos rs)).find? fun r => !declareStem.toList.isPrefixOf r.name with
    | some r => .error (.instructionFollows r.name)
    | none => if maxRecords < rs.length then .error (.tooManyRecords rs.length) else .ok ()

/-- Reads a table. -/
def read (src : List Char) : Except TableError (List Record) :=
  match readEntries ∅ [] (entries src) with
  | .error e => .error e
  | .ok rs =>
    match checkOrder rs with
    | .error e => .error (.order e)
    | .ok () => .ok rs

end Table

end OpcodeForms
