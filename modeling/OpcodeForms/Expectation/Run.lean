import OpcodeForms.Expectation.Difference
import OpcodeForms.Expectation.Entry

/-!
# Checking an expectation file

`run` renders the entries of a file and compares the fields. It reads the file step by step, and
keeps a tally of the entries so far. A faulty line ends the run; the entries above it have been
checked by then. The report holds one part for each entry that fails.
-/

namespace OpcodeForms.Expectation

/-- Renders the fields of an entry, or says why there are none. -/
abbrev Renderer := Entry → Except String (List (List Char))

/-- What comes of an entry. -/
inductive Verdict where
  | passed
  /-- The entry cannot be rendered. -/
  | refused (message : String)
  /-- The rendered fields, as joined text, are not the expected ones. -/
  | differs (expected rendered : List Char)
deriving DecidableEq

/-- Why a run fails. -/
inductive RunError where
  | format (e : FormatError)
  | noTests
  | failed (n : Nat)
deriving DecidableEq

/-- The text of the error, for the name of the file. -/
def RunError.message (file : List Char) : RunError → String
  | .format e => e.message file
  | .noTests => s!"no tests in {String.ofList file}"
  | .failed n => s!"failed {n} tests"

namespace Verdict

/-- Renders an entry and compares the fields. -/
def ofEntry (render : Renderer) (e : Entry) : Verdict :=
  match render e with
  | .error message => .refused message
  | .ok fields =>
    let expected := joinFields e.fields
    let rendered := joinFields fields
    if rendered = expected then .passed else .differs expected rendered

/-- Whether the entry fails. -/
def isFailure : Verdict → Bool
  | passed => false
  | refused _ | differs _ _ => true

/-- A message with the place of an entry. -/
def located (file : List Char) (e : Entry) (message : List Char) : List Char :=
  "error: ".toList ++ message ++ ", ".toList ++ file ++ ':' :: Text.decimal e.line ++ ['\n']

/-- The part of the report on an entry. It is empty for an entry that passes. -/
def report (file : List Char) (e : Entry) : Verdict → List Char
  | passed => []
  | refused message => located file e message.toList
  | differs expected rendered =>
    located file e "invalid output".toList
      ++ differenceText file e.line e.name expected rendered ++ ['\n']

end Verdict

/-- The counts and the report of a run on its way through a file. The counts do not exceed the
number of characters of the file. -/
structure Tally where
  count : Nat := 0
  failed : Nat := 0
  report : List Char := []

namespace Tally

/-- Counts an entry with its verdict, and reports it. -/
def add (file : List Char) (e : Entry) (v : Verdict) (t : Tally) : Tally where
  count := t.count + 1
  failed := if v.isFailure then t.failed + 1 else t.failed
  report := t.report ++ v.report file e

/-- The outcome at the end of the file. -/
def outcome (t : Tally) : Except RunError Unit :=
  if t.count = 0 then .error .noTests
  else if t.failed = 0 then .ok ()
  else .error (.failed t.failed)

end Tally

/-- Checks one entry after the other until the reader has no more or meets a faulty line. `t` is
the tally of the entries so far. -/
def checkFrom (file : List Char) (render : Renderer) (t : Tally) (r : Reader) :
    Except RunError Unit × List Char :=
  match _h : r.next with
  | (.error e, _) => (.error (.format e), t.report)
  | (.ok false, _) => (t.outcome, t.report)
  | (.ok true, r') =>
    checkFrom file render (t.add file r'.current (.ofEntry render r'.current)) r'
termination_by r.rest.length
decreasing_by exact Reader.length_rest_next _h

/-- Checks the file with the name `file` and the text `src`: the outcome and the report. -/
def run (file : List Char) (render : Renderer) (src : List Char) :
    Except RunError Unit × List Char :=
  checkFrom file render {} (Reader.ofText src)

end OpcodeForms.Expectation
