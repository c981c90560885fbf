import OpcodeForms.Text.Split

/-!
# Expectation files

An expectation file says how opcode forms are to be rendered. An entry is a line
`NAME: FIELD | FIELD ...`, whose fields are the rendered texts of the form `NAME`. A `#` starts a
comment; on the line of an entry it holds flags, such as `# +mode64 -mode16`. Blanks around
names, fields and comments do not count, nor do lines with nothing but a comment.

`results` reads a file as a whole. A `Reader` reads it step by step and keeps the last entry.
-/

namespace OpcodeForms.Expectation

/-- An entry of an expectation file. -/
structure Entry where
  /-- The number of its line, from 1 on. -/
  line : Nat := 0
  name : List Char := []
  fields : List (List Char) := []
  comment : List Char := []
deriving DecidableEq

/-- What is wrong with a line that is no entry. -/
inductive Fault where
  /-- The text has no colon. -/
  | missingColon (text : List Char)
  /-- There is no name before the colon, or more than a name. -/
  | invalidName (name : List Char)
deriving DecidableEq

/-- What is wrong, in words. -/
def Fault.message : Fault → String
  | .missingColon text => s!"missing \":\" after \"{String.ofList text}\""
  | .invalidName name => s!"invalid name \"{String.ofList name}\""

/-- A line of an expectation file that cannot be read. -/
structure FormatError where
  line : Nat
  fault : Fault
deriving DecidableEq

/-- The text of the error, for the name of the file. -/
def FormatError.message (file : List Char) (e : FormatError) : String :=
  s!"error: {e.fault.message}, {String.ofList file}:{e.line}"

namespace Entry

/-- The line without its comment and without the blanks around the rest. -/
def textOf (line : List Char) : List Char :=
  Text.trim (Text.before '#' line)

/-- The comment of a line. It is empty where there is none. -/
def commentOf (line : List Char) : List Char :=
  Text.trim ((Text.after? '#' line).getD [])

/-- Whether the text is a name: not empty and without blanks. -/
def isName (s : List Char) : Bool :=
  !s.isEmpty && !s.any Text.isBlank

/-- The fields of a text: its pieces between the bars, without the blanks around them. -/
def fieldsOf (s : List Char) : List (List Char) :=
  (s.splitOn '|').map Text.trim

/-- Reads the line with the given number. There is no result for a line without an entry. -/
def ofLine? (line : List Char) (number : Nat) : Option (Except FormatError Entry) :=
  let text := textOf line
  if text.isEmpty then none
  else
    match Text.after? ':' text with
    | none => some (.error ⟨number, .missingColon text⟩)
    | some tail =>
      let name := Text.trim (Text.before ':' text)
      if isName name then
        some (.ok { line := number, name, fields := fieldsOf tail, comment := commentOf line })
      else some (.error ⟨number, .invalidName name⟩)

end Entry

/-- The entries of a file and the errors of the lines that are none, in order. -/
def results (src : List Char) : List (Except FormatError Entry) :=
  (Text.numberedLines src).filterMap fun line => Entry.ofLine? line.1 line.2

/-! ## Reading step by step -/

/-- A file that has been read in part. -/
structure Reader where
  /-- The lines not read yet, with their numbers. -/
  rest : List (List Char × Nat)
  /-- The last entry. -/
  current : Entry := {}

namespace Reader

/-- The reader at the beginning of a file. -/
def ofText (src : List Char) : Reader where
  rest := Text.numberedLines src

/-- Looks for the next entry among the given lines. -/
def advance (current : Entry) : List (List Char × Nat) → Except FormatError Bool × Reader
  | [] => (.ok false, ⟨[], current⟩)
  | line :: rest =>
    match Entry.ofLine? line.1 line.2 with
    | none => advance current rest
    | some (.error e) => (.error e, ⟨rest, current⟩)
    | some (.ok entry) => (.ok true, ⟨rest, entry⟩)

/-- Goes on to the next entry, and tells whether there is one. A faulty line is passed over, and
keeps the entry before it. -/
def next (r : Reader) : Except FormatError Bool × Reader :=
  advance r.current r.rest

/-- A reader that gives an entry has read a line at least. -/
theorem length_rest_next {r r' : Reader} (h : r.next = (.ok true, r')) :
    r'.rest.length < r.rest.length := by
  obtain ⟨lines, current⟩ := r
  unfold next at h
  induction lines with
  | nil => cases h
  | cons line lines ih =>
    unfold advance at h
    split at h
    · exact Nat.lt_succ_of_lt (ih h)
    · cases h
    · cases h
      exact Nat.lt_succ_self lines.length

end Reader

/-! ## Flags -/

/-- The flag that a word sets with `+` or clears with `-`. -/
def flag? : List Char → Option (List Char × Bool)
  | '+' :: name => some (name, true)
  | '-' :: name => some (name, false)
  | _ => none

/-- The flags of a comment. Its other words do not count. -/
def flags (comment : List Char) : List (List Char × Bool) :=
  (Text.words comment).filterMap flag?

end OpcodeForms.Expectation
