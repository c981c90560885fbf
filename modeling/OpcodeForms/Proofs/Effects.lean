import OpcodeForms.Generated.Output

/-!
# What a run leaves behind

`generate` says at once what is found after a run. The run itself goes step by step: it makes the
output directory, creates a file, hands the text on in pieces through a buffer, and empties the
buffer before it comes to the next file (`Writing.compile`). That a file cannot be written may
only turn out when the buffer is emptied for the last time.

The pieces and the size of the buffer make no difference (`Writing.run_compile`). The two files
are so written one after the other, each as a whole or not at all, and `generate_effect` says for
every result of a run what it leaves in the output directory.
-/

namespace OpcodeForms.Generated

/-! ## The run, step by step -/

/-- The bytes of a text in a file. -/
def bytes (text : List Char) : ByteArray :=
  (String.ofList text).toUTF8

theorem bytes_nil : bytes [] = .empty := by
  rfl

theorem bytes_append (text text' : List Char) :
    bytes (text ++ text') = bytes text ++ bytes text' := by
  rw [bytes, String.ofList_append]
  exact String.toByteArray_append

/-- A text that is not empty has bytes. -/
theorem isEmpty_bytes {text : List Char} (h : text ≠ []) : (bytes text).isEmpty = false := by
  refine beq_eq_false_iff_ne.mpr fun hsize => h ?_
  have hempty : String.ofList text = "" := String.utf8ByteSize_eq_zero_iff.mp hsize
  exact String.ofList_eq_empty_iff.mp hempty

namespace OutputDir

/-- What is found under the name of the file. -/
def node (dir : OutputDir) : OutputFile → Node
  | .code => dir.code
  | .table => dir.table

/-- The directory with something else under the name of the file. -/
def put (file : OutputFile) (node : Node) : OutputDir → OutputDir
  | present code table =>
    match file with
    | .code => present node table
    | .table => present code node
  | dir => dir

end OutputDir

/-- A step of a run. What it has done to the output directory stays, also where it fails. -/
abbrev Step (α : Type) : Type :=
  ExceptT GenerateError (StateM OutputDir) α

/-- Makes the output directory, if there is none. -/
def makeDir : Step Unit := do
  match ← get with
  | .absent => set (OutputDir.present .absent .absent)
  | .blocked => throw .outputDir
  | .present _ _ => return ()

/-- Opens a file for writing, and cuts off what it held. -/
def create (file : OutputFile) : Step Unit := do
  match ← get with
  | .absent | .blocked => throw (.create file)
  | .present code table =>
    match (OutputDir.present code table).node file with
    | .directory => throw (.create file)
    | .unwritable => return ()
    | .absent | .regular _ => modify (OutputDir.put file (.regular .empty))

/-- Adds bytes to the end of a file. -/
def append (file : OutputFile) (data : ByteArray) : Step Unit := do
  match (← get).node file with
  | .regular content => modify (OutputDir.put file (.regular (content ++ data)))
  | .absent | .directory | .unwritable => unless data.isEmpty do throw (.write file)

/-- How the text of a file is written. -/
structure Writing where
  /-- The pieces in which the text is handed to the buffer. -/
  pieces : List Char → List (List Char)
  /-- The pieces make up the text. -/
  flatten_pieces : ∀ text, (pieces text).flatten = text
  /-- How many bytes the buffer has room for. -/
  capacity : Nat

namespace Writing

/-- The text is written in one piece, and nothing is held back. -/
instance : Inhabited Writing where
  default := { pieces := fun text => [text], flatten_pieces := by simp, capacity := 0 }

variable (w : Writing)

/-- Empties the buffer if the data does not fit in beside what is pending. -/
def makeRoom (file : OutputFile) (pending data : ByteArray) : Step ByteArray :=
  if w.capacity < pending.size + data.size then do
    append file pending
    return .empty
  else return pending

/-- Hands data to the buffer, or past it if it is too long. The result is what is pending then. -/
def write (file : OutputFile) (pending data : ByteArray) : Step ByteArray := do
  let pending ← w.makeRoom file pending data
  if w.capacity ≤ data.size then
    append file data
    return pending
  else return pending ++ data

/-- Writes the pieces of a text one after the other. -/
def writePieces (file : OutputFile) (pending : ByteArray) (pieces : List (List Char)) :
    Step ByteArray :=
  pieces.foldlM (fun pending piece => w.write file pending (bytes piece)) pending

/-- Creates a file and writes it. -/
def writeText (file : OutputFile) (text : List Char) : Step Unit := do
  create file
  let pending ← w.writePieces file .empty (w.pieces text)
  append file pending

/-- Writes both files of a table. The directory is made before each. -/
def writeBoth (rs : List Record) : Step (List Record) := do
  makeDir
  w.writeText .code (codeText rs)
  makeDir
  w.writeText .table (tableText rs)
  return rs

/-- Compiles a table. -/
def compile (source : Option ByteArray) : Step (List Record) := do
  let rs ← ExceptT.mk (pure (readSource source))
  w.writeBoth rs

end Writing

/-! ## Runs of steps -/

/-- What is in the way of writing the file. -/
def Node.fault? (file : OutputFile) : Node → Option GenerateError
  | .directory => some (.create file)
  | .unwritable => some (.write file)
  | .absent | .regular _ => none

theorem writeFile_of_fault? {file : OutputFile} {text : List Char} {node : Node}
    {e : GenerateError} (h : node.fault? file = some e) :
    writeFile file text node = (node, .error e) := by
  cases node with
  | directory | unwritable =>
    cases h
    rfl
  | absent | regular _ => cases h

theorem writeFile_of_no_fault {file : OutputFile} {text : List Char} {node : Node}
    (h : node.fault? file = none) : writeFile file text node = (.regular (bytes text), .ok ()) := by
  cases node with
  | absent | regular _ => rfl
  | directory | unwritable => cases h

/-- Started with `before`, the step has the result and leaves `after`. -/
def Runs {α : Type} (x : Step α) (before : OutputDir) (result : Except GenerateError α)
    (after : OutputDir) : Prop :=
  x.run.run before = (result, after)

variable {α β : Type} {x : Step α} {f : α → Step β} {a : α} {e : GenerateError}
  {before between after : OutputDir} {result : Except GenerateError β}

theorem Runs.bind (hx : Runs x before (.ok a) between) (hf : Runs (f a) between result after) :
    Runs (x >>= f) before result after := by
  unfold Runs at *
  rw [ExceptT.run_bind, StateT.run_bind, hx]
  exact hf

theorem Runs.bind_error (hx : Runs x before (.error e) after) :
    Runs (x >>= f) before (.error e) after := by
  unfold Runs at *
  rw [ExceptT.run_bind, StateT.run_bind, hx]
  rfl

/-- A directory with the node under the name of the file, and another beside it. -/
def beside (file : OutputFile) (other node : Node) : OutputDir :=
  match file with
  | .code => .present node other
  | .table => .present other node

variable {w : Writing} {file : OutputFile} {node other : Node} {dir : OutputDir}
  {content pending data total : ByteArray} {text : List Char}

theorem runs_create_writable (h : node.fault? file = none) :
    Runs (create file) (beside file other node) (.ok ())
      (beside file other (.regular .empty)) := by
  cases node with
  | absent | regular _ => cases file <;> rfl
  | directory | unwritable => cases h

theorem runs_append_regular :
    Runs (append file data) (beside file other (.regular content)) (.ok ())
      (beside file other (.regular (content ++ data))) := by
  cases file <;> rfl

/-- A file on which writes fail takes no bytes. -/
theorem runs_append_unwritable (h : data.isEmpty = false) :
    Runs (append file data) (beside file other .unwritable) (.error (.write file))
      (beside file other .unwritable) := by
  cases file <;>
  · simp only [Runs, append, beside]
    rw [h]
    rfl

/-- Where there is nothing to write, no write fails. -/
theorem runs_append_empty :
    Runs (append file .empty) (beside file other .unwritable) (.ok ())
      (beside file other .unwritable) := by
  cases file <;> rfl

/-! ## Writing through the buffer -/

/-- What the file holds, followed by what is pending, is `total`. The other file is as it was. -/
def Holds (file : OutputFile) (other : Node) (total pending : ByteArray) (dir : OutputDir) : Prop :=
  ∃ content, dir = beside file other (.regular content) ∧ content ++ pending = total

/-- On a file that takes no bytes, the step has `total` pending in the end, or the write fails. -/
def Waits (x : Step ByteArray) (file : OutputFile) (other : Node) (total : ByteArray) : Prop :=
  Runs x (beside file other .unwritable) (.ok total) (beside file other .unwritable) ∨
    Runs x (beside file other .unwritable) (.error (.write file)) (beside file other .unwritable)

theorem Waits.bind {x : Step ByteArray} {f : ByteArray → Step ByteArray} {total' : ByteArray}
    (hx : Waits x file other total) (hf : Waits (f total) file other total') :
    Waits (x >>= f) file other total' := by
  obtain hx | hx := hx
  · exact hf.imp hx.bind hx.bind
  · exact .inr hx.bind_error

theorem eq_empty_of_isEmpty (h : data.isEmpty = true) : data = .empty :=
  ByteArray.size_eq_zero_iff.mp (beq_iff_eq.mp h)

namespace Writing

/-- Making room in the buffer loses nothing. Where there still is no room, nothing is pending. -/
theorem runs_makeRoom (data : ByteArray) (h : Holds file other total pending dir) :
    ∃ pending' dir', Runs (w.makeRoom file pending data) dir (.ok pending') dir' ∧
      Holds file other total pending' dir' ∧ (w.capacity ≤ data.size → pending' = .empty) := by
  obtain ⟨content, rfl, hcontent⟩ := h
  unfold makeRoom
  split
  · refine ⟨.empty, _, runs_append_regular.bind rfl, ⟨_, rfl, ?_⟩, fun _ => rfl⟩
    rw [ByteArray.append_empty, hcontent]
  · next hroom =>
    refine ⟨pending, _, rfl, ⟨content, rfl, hcontent⟩, fun hlong => ?_⟩
    exact ByteArray.size_eq_zero_iff.mp (by omega)

/-- **What is handed to the buffer comes after all that was handed to it before**, in the file or
in the buffer. -/
theorem runs_write (data : ByteArray) (h : Holds file other total pending dir) :
    ∃ pending' dir', Runs (w.write file pending data) dir (.ok pending') dir' ∧
      Holds file other (total ++ data) pending' dir' := by
  obtain ⟨pending', dir', hroom, ⟨content, rfl, hcontent⟩, hempty⟩ :=
    runs_makeRoom (w := w) data h
  by_cases hlong : w.capacity ≤ data.size
  · refine ⟨pending', _, hroom.bind ?_, content ++ data, rfl, ?_⟩
    · rw [if_pos hlong]
      exact runs_append_regular.bind rfl
    · rw [← hcontent, hempty hlong, ByteArray.append_empty, ByteArray.append_empty]
  · refine ⟨pending' ++ data, _, hroom.bind ?_, content, rfl, ?_⟩
    · rw [if_neg hlong]
      rfl
    · rw [← ByteArray.append_assoc, hcontent]

/-- By induction on the pieces. -/
theorem runs_writePieces (pieces : List (List Char)) (h : Holds file other total pending dir) :
    ∃ pending' dir', Runs (w.writePieces file pending pieces) dir (.ok pending') dir' ∧
      Holds file other (total ++ bytes pieces.flatten) pending' dir' := by
  induction pieces generalizing total pending dir with
  | nil =>
    rw [List.flatten_nil, bytes_nil, ByteArray.append_empty]
    exact ⟨pending, dir, rfl, h⟩
  | cons piece pieces ih =>
    obtain ⟨pending₁, dir₁, hwrite, hholds⟩ := runs_write (w := w) (bytes piece) h
    obtain ⟨pending₂, dir₂, hrest, hholds'⟩ := ih hholds
    refine ⟨pending₂, dir₂, ?_, ?_⟩
    · rw [writePieces, List.foldlM_cons]
      exact hwrite.bind hrest
    · rw [List.flatten_cons, bytes_append, ← ByteArray.append_assoc]
      exact hholds'

/-- **A file that can be written holds the whole text afterwards, and nothing else.** -/
theorem runs_writeText_writable (h : node.fault? file = none) :
    Runs (w.writeText file text) (beside file other node) (.ok ())
      (beside file other (.regular (bytes text))) := by
  have hempty : Holds file other .empty .empty (beside file other (.regular .empty)) :=
    ⟨.empty, rfl, ByteArray.append_empty⟩
  obtain ⟨pending, dir, hpieces, ⟨content, rfl, hcontent⟩⟩ :=
    runs_writePieces (w := w) (w.pieces text) hempty
  rw [w.flatten_pieces, ByteArray.empty_append] at hcontent
  have hflush : Runs (append file pending) (beside file other (.regular content)) (.ok ())
      (beside file other (.regular (bytes text))) := hcontent ▸ runs_append_regular
  exact (runs_create_writable h).bind (hpieces.bind hflush)

/-- On a file that takes no bytes, making room fails or finds nothing to write. -/
theorem waits_makeRoom : Waits (w.makeRoom file pending data) file other pending := by
  unfold makeRoom
  split
  · cases hpending : pending.isEmpty with
    | true =>
      obtain rfl := eq_empty_of_isEmpty hpending
      exact .inl (runs_append_empty.bind rfl)
    | false => exact .inr (runs_append_unwritable hpending).bind_error
  · exact .inl rfl

theorem waits_write : Waits (w.write file pending data) file other (pending ++ data) := by
  refine waits_makeRoom.bind ?_
  split
  · cases hdata : data.isEmpty with
    | true =>
      obtain rfl := eq_empty_of_isEmpty hdata
      rw [ByteArray.append_empty]
      exact .inl (runs_append_empty.bind rfl)
    | false => exact .inr (runs_append_unwritable hdata).bind_error
  · exact .inl rfl

/-- By induction on the pieces. -/
theorem waits_writePieces (pieces : List (List Char)) :
    Waits (w.writePieces file pending pieces) file other (pending ++ bytes pieces.flatten) := by
  induction pieces generalizing pending with
  | nil =>
    rw [List.flatten_nil, bytes_nil, ByteArray.append_empty]
    exact .inl rfl
  | cons piece pieces ih =>
    rw [writePieces, List.foldlM_cons, List.flatten_cons, bytes_append, ← ByteArray.append_assoc]
    exact waits_write.bind ih

/-- **A file on which writes fail is noticed**, when the buffer is emptied at the latest. -/
theorem runs_writeText_unwritable (h : text ≠ []) :
    Runs (w.writeText file text) (beside file other .unwritable) (.error (.write file))
      (beside file other .unwritable) := by
  have hcreate : Runs (create file) (beside file other .unwritable) (.ok ())
      (beside file other .unwritable) := by cases file <;> rfl
  have hpieces : Waits (w.writePieces file .empty (w.pieces text)) file other _ :=
    waits_writePieces _
  rw [w.flatten_pieces, ByteArray.empty_append] at hpieces
  obtain hwait | hfail := hpieces
  · exact hcreate.bind (hwait.bind (runs_append_unwritable (isEmpty_bytes h)))
  · exact hcreate.bind hfail.bind_error

/-- **However a file is written, it is written as a whole or not at all.** -/
theorem runs_writeText (file : OutputFile) (h : text ≠ []) :
    Runs (w.writeText file text) (beside file other node) (writeFile file text node).2
      (beside file other (writeFile file text node).1) := by
  cases node with
  | absent | regular _ => exact runs_writeText_writable rfl
  | directory => cases file <;> rfl
  | unwritable => exact runs_writeText_unwritable h

end Writing

/-! ## Whole runs -/

variable {rs : List Record} {code table : Node} {source : Option ByteArray}

/-- A generated file has at least its title. -/
theorem fileText_ne_nil (sections : List (List Item)) : fileText sections ≠ [] := by
  rw [fileText, Text.unlines, List.flatMap_cons]
  have htitle : titleLine ++ ['\n'] ≠ [] :=
    List.append_ne_nil_of_right_ne_nil _ (List.cons_ne_nil _ _)
  exact List.append_ne_nil_of_left_ne_nil htitle _

namespace Writing

theorem runs_makeDir :
    Runs makeDir (.present code table) (.ok ()) (.present code table) := by
  rfl

theorem runs_writeBoth :
    Runs (w.writeBoth rs) (.present code table) (writeFiles rs code table).2
      (writeFiles rs code table).1 := by
  have hcode : Runs (w.writeText .code (codeText rs)) (.present code table) _ _ :=
    runs_writeText .code (fileText_ne_nil _)
  unfold writeFiles
  cases hwrite : writeFile .code (codeText rs) code with
  | mk code' result =>
    rw [hwrite] at hcode
    cases result with
    | error e => exact runs_makeDir.bind hcode.bind_error
    | ok _ =>
      have htable : Runs (w.writeText .table (tableText rs)) (.present code' table) _ _ :=
        runs_writeText .table (fileText_ne_nil _)
      cases hwrite' : writeFile .table (tableText rs) table with
      | mk table' result =>
        rw [hwrite'] at htable
        cases result with
        | error e => exact runs_makeDir.bind (hcode.bind (runs_makeDir.bind htable.bind_error))
        | ok _ => exact runs_makeDir.bind (hcode.bind (runs_makeDir.bind (htable.bind rfl)))

/-- **The pieces in which the files are written and the size of the buffer make no difference.** -/
theorem run_compile (w : Writing) (source : Option ByteArray) (before : OutputDir) :
    (w.compile source).run.run before
      = ((generate source before).2, (generate source before).1) := by
  change Runs _ _ _ _
  unfold generate
  cases hsource : readSource source with
  | error e =>
    have hread : Runs (ExceptT.mk (pure (readSource source))) before (.error e) before :=
      congrArg (·, before) hsource
    exact hread.bind_error
  | ok rs =>
    have hread : Runs (ExceptT.mk (pure (readSource source))) before (.ok rs) before :=
      congrArg (·, before) hsource
    refine hread.bind ?_
    cases before with
    | blocked => rfl
    | present code table => exact runs_writeBoth
    | absent =>
      -- the files are written as into an empty directory, once it has been made
      have hmake : (w.writeBoth rs).run.run .absent
          = (w.writeBoth rs).run.run (.present .absent .absent) := rfl
      exact hmake.trans runs_writeBoth

end Writing

/-! ## What a run leaves -/

/-- The source is the text of a table with these records. -/
def IsTable (source : Option ByteArray) (rs : List Record) : Prop :=
  ∃ data text, source = some data ∧ String.fromUTF8? data = some text ∧
    Table.read text.toList = .ok rs

/-- The first thing that keeps the files from being written. -/
def OutputDir.fault? : OutputDir → Option GenerateError
  | absent => none
  | blocked => some .outputDir
  | present code table => (code.fault? .code).or (table.fault? .table)

/-- The file that an error is about. -/
def GenerateError.file? : GenerateError → Option OutputFile
  | .source | .table _ | .outputDir => none
  | .create file | .write file => some file

/-- What a run from `before` to `after` does. -/
structure Effect (source : Option ByteArray) (before after : OutputDir)
    (result : Except GenerateError (List Record)) : Prop where
  /-- The table is compiled if it is accepted and nothing is in the way. -/
  result_eq : result = do
    let rs ← readSource source
    match before.fault? with
    | none => .ok rs
    | some e => .error e
  /-- A source that is not accepted leaves everything as it was. -/
  rejected : ∀ e, result = .error e → (e = .source ∨ ∃ e', e = .table e') → after = before
  /-- A run that ends before it comes to the second file leaves that as it was. -/
  kept : ∀ e, result = .error e → (e = .outputDir ∨ e.file? = some .code) →
    after.table = before.table
  /-- A run that ends at the second file has completed the first. -/
  completed : ∀ e, result = .error e → e.file? = some .table →
    ∃ rs, IsTable source rs ∧ after.code = .regular (bytes (codeText rs))
  /-- A run that succeeds leaves both texts of the table, and nothing else in the files. -/
  written : ∀ rs, result = .ok rs → IsTable source rs ∧
    after = .present (.regular (bytes (codeText rs))) (.regular (bytes (tableText rs)))

theorem isTable_of_readSource (h : readSource source = .ok rs) : IsTable source rs := by
  unfold readSource at h
  split at h
  · cases h
  · next text htext =>
    obtain ⟨data, hdata, htext⟩ := Option.bind_eq_some_iff.mp htext
    split at h
    · cases h
    · next hread =>
      cases h
      exact ⟨data, text, hdata, htext, hread⟩

/-- A source is not rejected for what is in the output directory. -/
theorem file?_of_readSource (h : readSource source = .error e) : e.file? = none := by
  unfold readSource at h
  split at h
  · exact (Except.error.inj h) ▸ rfl
  · split at h
    · exact (Except.error.inj h) ▸ rfl
    · cases h

theorem file?_of_fault? (h : node.fault? file = some e) : e.file? = some file := by
  cases node with
  | directory | unwritable => exact (Option.some.inj h) ▸ rfl
  | absent | regular _ => cases h

/-- An error about a file does not reject the source. -/
theorem not_rejected (h : e.file? = some file) : ¬ (e = .source ∨ ∃ e', e = .table e') := by
  rintro (rfl | ⟨e', rfl⟩) <;> cases h

theorem effect_of_rejected (h : readSource source = .error e) :
    Effect source before before (.error e) where
  result_eq := by
    rw [h]
    rfl
  rejected _ _ _ := rfl
  kept _ _ _ := rfl
  completed e' he' hfile := by
    cases he'
    cases (file?_of_readSource h).symm.trans hfile
  written _ hok := by cases hok

theorem effect_of_blocked (h : readSource source = .ok rs) :
    Effect source .blocked .blocked (.error .outputDir) where
  result_eq := by
    rw [h]
    rfl
  rejected _ _ _ := rfl
  kept _ _ _ := rfl
  completed e' he' hfile := by
    cases he'
    cases hfile
  written _ hok := by cases hok

/-- Nothing is under the names of the files where there is no directory. -/
theorem OutputDir.fault?_eq (h : before ≠ .blocked) :
    before.fault? = (before.code.fault? .code).or (before.table.fault? .table) := by
  cases before with
  | absent | present _ _ => rfl
  | blocked => exact absurd rfl h

theorem generate_eq_writeFiles (hsource : readSource source = .ok rs) (h : before ≠ .blocked) :
    generate source before = writeFiles rs before.code before.table := by
  rw [generate, hsource]
  cases before with
  | absent | present _ _ => rfl
  | blocked => exact absurd rfl h

/-- A run that ends at the first file. -/
theorem effect_of_code (hsource : readSource source = .ok rs) (hdir : before ≠ .blocked)
    (hcode : before.code.fault? .code = some e) :
    Effect source before (.present before.code before.table) (.error e) where
  result_eq := by
    rw [hsource, OutputDir.fault?_eq hdir, hcode]
    rfl
  rejected e' he' hrejected := by
    cases he'
    exact absurd hrejected (not_rejected (file?_of_fault? hcode))
  kept _ _ _ := rfl
  completed e' he' hfile := by
    cases he'
    cases (file?_of_fault? hcode).symm.trans hfile
  written _ hok := by cases hok

/-- A run that ends at the second file. -/
theorem effect_of_table (hsource : readSource source = .ok rs) (hdir : before ≠ .blocked)
    (hcode : before.code.fault? .code = none) (htable : before.table.fault? .table = some e) :
    Effect source before (.present (.regular (bytes (codeText rs))) before.table) (.error e) where
  result_eq := by
    rw [hsource, OutputDir.fault?_eq hdir, hcode, htable]
    rfl
  rejected e' he' hrejected := by
    cases he'
    exact absurd hrejected (not_rejected (file?_of_fault? htable))
  kept _ _ _ := rfl
  completed _ _ _ := ⟨rs, isTable_of_readSource hsource, rfl⟩
  written _ hok := by cases hok

theorem effect_of_both (hsource : readSource source = .ok rs) (hdir : before ≠ .blocked)
    (hcode : before.code.fault? .code = none) (htable : before.table.fault? .table = none) :
    Effect source before
      (.present (.regular (bytes (codeText rs))) (.regular (bytes (tableText rs)))) (.ok rs) where
  result_eq := by
    rw [hsource, OutputDir.fault?_eq hdir, hcode, htable]
    rfl
  rejected _ he _ := by cases he
  kept _ he _ := by cases he
  completed _ he _ := by cases he
  written rs' hok := by
    cases hok
    exact ⟨isTable_of_readSource hsource, rfl⟩

/-- **What compiling a table does to the generated files.** This holds of every source, of every
state of the output directory, and of every way of writing the files. -/
theorem generate_effect (source : Option ByteArray) (before : OutputDir) :
    Effect source before (generate source before).1 (generate source before).2 ∧
      ∀ w : Writing, (w.compile source).run.run before
        = ((generate source before).2, (generate source before).1) := by
  refine ⟨?_, fun w => w.run_compile source before⟩
  cases hsource : readSource source with
  | error e =>
    rw [generate, hsource]
    exact effect_of_rejected hsource
  | ok rs =>
    by_cases hdir : before = .blocked
    · subst hdir
      rw [generate, hsource]
      exact effect_of_blocked hsource
    · rw [generate_eq_writeFiles hsource hdir, writeFiles]
      cases hcode : before.code.fault? .code with
      | some e =>
        rw [writeFile_of_fault? hcode]
        exact effect_of_code hsource hdir hcode
      | none =>
        rw [writeFile_of_no_fault hcode]
        cases htable : before.table.fault? .table with
        | some e =>
          rw [writeFile_of_fault? htable]
          exact effect_of_table hsource hdir hcode htable
        | none =>
          rw [writeFile_of_no_fault htable]
          exact effect_of_both hsource hdir hcode htable

end OpcodeForms.Generated
