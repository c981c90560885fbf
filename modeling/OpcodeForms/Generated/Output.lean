import OpcodeForms.Generated.Text
import OpcodeForms.Source.Table

/-!
# Writing the generated files

`generate` compiles a table: from what is found at its source and in the output directory to what
is found there afterwards. The source is read as a whole before anything is written, and the file
with the identities is complete before the other is begun. So a run that fails leaves the files
that it has not come to as they were.
-/

namespace OpcodeForms.Generated

/-- What is found in the output directory under the name of a file. -/
inductive Node where
  | absent
  | regular (content : ByteArray)
  | directory
  /-- A file that can be opened but on which every write fails. -/
  | unwritable

/-- What is found under the name of the output directory. -/
inductive OutputDir where
  /-- Nothing. The directory can be created. -/
  | absent
  /-- Something that is no directory and does not let one be created. -/
  | blocked
  | present (code table : Node)

namespace OutputDir

/-- The file with the identities. -/
def code : OutputDir → Node
  | present code _ => code
  | absent | blocked => .absent

/-- The file with the packed records. -/
def table : OutputDir → Node
  | present _ table => table
  | absent | blocked => .absent

end OutputDir

/-- The generated files. -/
inductive OutputFile where
  | code
  | table
deriving DecidableEq, Repr

/-- The name of the file in the output directory. -/
def OutputFile.name : OutputFile → String
  | .code => "generated_code.rs"
  | .table => "generated_table.rs"

/-- Why a table is not compiled. -/
inductive GenerateError where
  /-- The source cannot be read, or is not UTF-8. -/
  | source
  | table (e : TableError)
  | outputDir
  /-- The file cannot be created. -/
  | create (file : OutputFile)
  /-- The file has been created, but cannot be written. -/
  | write (file : OutputFile)
deriving DecidableEq

/-- The text of the error, for the paths of the source and of the output directory. Where the
system refuses an access, `reason` is its explanation. -/
def GenerateError.message (source outputDir reason : String) : GenerateError → String
  | .source => s!"failed to read source file {quotedPath source}, {reason}"
  | .table e => e.message source
  | .outputDir => s!"failed to create output directory {quotedPath outputDir}, {reason}"
  | .create file =>
    s!"failed to create output file {quotedPath (filePath file)}, {reason}"
  | .write file =>
    s!"failed to generate output file {quotedPath (filePath file)}, {reason}"
where
  quotedPath (path : String) : String := quoted path.toList
  filePath (file : OutputFile) : String := outputDir ++ "/" ++ file.name

/-- Writes a file: what is found under its name afterwards, and the error. What a regular file
held before is gone. -/
def writeFile (file : OutputFile) (text : List Char) : Node → Node × Except GenerateError Unit
  | .absent | .regular _ => (.regular (String.ofList text).toUTF8, .ok ())
  | .directory => (.directory, .error (.create file))
  | .unwritable => (.unwritable, .error (.write file))

/-- Writes both files of a table into a directory that holds `code` and `table`. -/
def writeFiles (rs : List Record) (code table : Node) :
    OutputDir × Except GenerateError (List Record) :=
  match writeFile .code (codeText rs) code with
  | (code, .error e) => (.present code table, .error e)
  | (code, .ok ()) =>
    match writeFile .table (tableText rs) table with
    | (table, .error e) => (.present code table, .error e)
    | (table, .ok ()) => (.present code table, .ok rs)

/-- The records of a source. There is none where it cannot be read. -/
def readSource (source : Option ByteArray) : Except GenerateError (List Record) :=
  match source.bind String.fromUTF8? with
  | none => .error .source
  | some src =>
    match Table.read src.toList with
    | .error e => .error (.table e)
    | .ok rs => .ok rs

/-- Compiles a table: what is found under the name of the output directory afterwards, and the
records or the error. -/
def generate (source : Option ByteArray) (out : OutputDir) :
    OutputDir × Except GenerateError (List Record) :=
  match readSource source with
  | .error e => (out, .error e)
  | .ok rs =>
    match out with
    | .blocked => (.blocked, .error .outputDir)
    | .absent => writeFiles rs .absent .absent
    | .present code table => writeFiles rs code table

end OpcodeForms.Generated
