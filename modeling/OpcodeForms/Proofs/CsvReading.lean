import OpcodeForms.Proofs.LineEnds
import OpcodeForms.Text.Quoted

/-!
# Reading comma separated values

A reader of comma separated values, by the usual rules: commas end fields, a field may stand in
quotation marks, and there commas are plain characters and a pair of quotation marks stands for one.
Outside of such fields there are no quotation marks at all, and nothing but a comma follows the last
one of a field. An empty line is a row with one empty field.

What is written is read back, whatever characters the fields hold (`readCsvLine_csvLine`), and so is
a text of many rows if no field has a line break in it (`readCsv_unlines`).
-/

namespace OpcodeForms.Text

/-! ## The reader -/

/-- How far a field has been read. -/
inductive CsvState where
  /-- Not at all. -/
  | start
  /-- Some of a field without quotation marks. -/
  | bare
  /-- Some of a field in quotation marks. -/
  | quoted
  /-- A field in quotation marks up to a mark that ends it, unless there is another mark. -/
  | closed
deriving DecidableEq

namespace CsvState

/-- The fields in the rest of a line. The first of them is what is left of the field at hand. -/
def read : CsvState → List Char → Option (List (List Char))
  | quoted, [] => none
  | start, [] | bare, [] | closed, [] => some [[]]
  | start, c :: s =>
    if c = '"' then read quoted s
    else if c = ',' then (read start s).map ([] :: ·)
    else (read bare s).map (List.modifyHead (c :: ·))
  | bare, c :: s =>
    if c = '"' then none
    else if c = ',' then (read start s).map ([] :: ·)
    else (read bare s).map (List.modifyHead (c :: ·))
  | quoted, c :: s =>
    if c = '"' then read closed s else (read quoted s).map (List.modifyHead (c :: ·))
  | closed, c :: s =>
    if c = '"' then (read quoted s).map (List.modifyHead (c :: ·))
    else if c = ',' then (read start s).map ([] :: ·)
    else none

end CsvState

/-- The fields of a line, if it is well-formed. -/
def readCsvLine (line : List Char) : Option (List (List Char)) :=
  CsvState.start.read line

/-- The rows of a text, if its lines are well-formed. -/
def readCsv (s : List Char) : Option (List (List (List Char))) :=
  (lines s).mapM readCsvLine

variable {c : Char} {s t : List Char} {fields : List (List Char)}
  {rows : List (List (List Char))}

/-! ## One field -/

theorem csvField_eq (s : List Char) :
    csvField s = if ',' ∈ s ∨ '"' ∈ s then '"' :: doubled s ++ ['"'] else s := by
  simp [csvField]

/-- The rest of a line after a field: the line ends there, or a comma follows. -/
def IsFieldEnd (t : List Char) : Prop :=
  ∀ c, t.head? = some c → c = ','

namespace CsvState

theorem map_modifyHead_nil (x : Option (List (List Char))) :
    x.map (List.modifyHead ([] ++ ·)) = x := by
  cases x with
  | none => rfl
  | some fields => cases fields <;> rfl

theorem map_modifyHead_cons (x : Option (List (List Char))) (c : Char) (s : List Char) :
    (x.map (List.modifyHead (s ++ ·))).map (List.modifyHead (c :: ·))
      = x.map (List.modifyHead (c :: s ++ ·)) := by
  cases x with
  | none => rfl
  | some fields => cases fields <;> rfl

/-- At the end of a field it does not matter how it was written. -/
theorem read_of_isFieldEnd (h : IsFieldEnd t) (state : CsvState) (hstate : state ≠ quoted) :
    state.read t = start.read t := by
  cases t with
  | nil =>
    cases state with
    | quoted => exact absurd rfl hstate
    | start | bare | closed => rfl
  | cons c t =>
    obtain rfl := h c rfl
    cases state with
    | quoted => exact absurd rfl hstate
    | start | bare | closed => rfl

theorem read_bare_append (hcomma : ',' ∉ s) (hmark : '"' ∉ s) (t : List Char) :
    bare.read (s ++ t) = (bare.read t).map (List.modifyHead (s ++ ·)) := by
  induction s with
  | nil => exact (map_modifyHead_nil _).symm
  | cons c s ih =>
    obtain ⟨hc, hcomma⟩ := List.ne_and_not_mem_of_not_mem_cons hcomma
    obtain ⟨hm, hmark⟩ := List.ne_and_not_mem_of_not_mem_cons hmark
    rw [List.cons_append, read, if_neg hm.symm, if_neg hc.symm, ih hcomma hmark,
      map_modifyHead_cons]

/-- Doubled quotation marks are read as single ones, and do not end the field. -/
theorem read_quoted_append (s t : List Char) :
    quoted.read (doubled s ++ '"' :: t) = (closed.read t).map (List.modifyHead (s ++ ·)) := by
  induction s with
  | nil => exact (map_modifyHead_nil _).symm
  | cons c s ih =>
    by_cases hc : c = '"'
    · subst hc
      have hpair : doubled ('"' :: s) = '"' :: '"' :: doubled s := rfl
      rw [hpair, List.cons_append, List.cons_append, read, if_pos rfl, read, if_pos rfl, ih,
        map_modifyHead_cons]
    · have hsingle : doubled (c :: s) = c :: doubled s := by
        simp [doubled, hc]
      rw [hsingle, List.cons_append, read, if_neg hc, ih, map_modifyHead_cons]

end CsvState

open CsvState in
/-- **A written field is read back**, and reading goes on behind it. -/
theorem read_csvField_append (s : List Char) (h : IsFieldEnd t) :
    start.read (csvField s ++ t) = (start.read t).map (List.modifyHead (s ++ ·)) := by
  rw [csvField_eq]
  split
  · calc start.read ('"' :: doubled s ++ ['"'] ++ t)
        = quoted.read (doubled s ++ '"' :: t) := by simp [CsvState.read]
      _ = (start.read t).map (List.modifyHead (s ++ ·)) := by
        rw [read_quoted_append, read_of_isFieldEnd h closed (by decide)]
  · next hplain =>
    obtain ⟨hcomma, hmark⟩ := not_or.mp hplain
    cases s with
    | nil => exact (map_modifyHead_nil _).symm
    | cons c s =>
      -- the first character tells that the field has no quotation marks around it
      have hfirst : start.read (c :: s ++ t) = bare.read (c :: s ++ t) := by
        have hc := (List.ne_of_not_mem_cons hmark).symm
        rw [List.cons_append, CsvState.read, CsvState.read, if_neg hc, if_neg hc]
      rw [hfirst, read_bare_append hcomma hmark, read_of_isFieldEnd h bare (by decide)]

/-! ## Lines -/

/-- **A line is read back into its fields.** -/
theorem readCsvLine_csvLine (hne : fields ≠ []) : readCsvLine (csvLine fields) = some fields := by
  unfold readCsvLine csvLine
  induction fields with
  | nil => exact absurd rfl hne
  | cons s fields ih =>
    cases fields with
    | nil =>
      have hend : IsFieldEnd [] := fun _ h => by cases h
      rw [List.map_singleton, List.intercalate_singleton, ← List.append_nil (csvField s),
        read_csvField_append s hend]
      simp [CsvState.read]
    | cons t fields =>
      have hend : IsFieldEnd (',' :: [','].intercalate ((t :: fields).map csvField)) :=
        fun _ h => (Option.some.inj h).symm
      rw [List.map_cons, List.map_cons, List.intercalate_cons_cons, List.append_assoc,
        List.singleton_append, ← List.map_cons, read_csvField_append s hend, CsvState.read,
        if_neg (by decide), if_pos rfl, ih (List.cons_ne_nil t fields)]
      simp

/-- The characters of a line: those of the fields, and the two that have a meaning. -/
theorem mem_csvLine (h : c ∈ csvLine fields) : c = ',' ∨ c = '"' ∨ ∃ s ∈ fields, c ∈ s := by
  rcases mem_intercalate h with hcomma | ⟨t, ht, hc⟩
  · exact .inl (List.mem_singleton.mp hcomma)
  · obtain ⟨s, hs, rfl⟩ := List.mem_map.mp ht
    refine .inr ?_
    rw [csvField_eq] at hc
    split at hc
    · simp only [doubled, List.mem_append, List.mem_cons, List.mem_flatMap, List.not_mem_nil,
        or_false] at hc
      rcases hc with (hc | ⟨d, hd, hc⟩) | hc
      · exact .inl hc
      · split at hc <;> grind
      · exact .inl hc
    · exact .inr ⟨s, hs, hc⟩

theorem not_mem_csvLine (hcomma : c ≠ ',') (hmark : c ≠ '"') (h : ∀ s ∈ fields, c ∉ s) :
    c ∉ csvLine fields := by
  intro hmem
  rcases mem_csvLine hmem with hc | hc | ⟨s, hs, hc⟩
  · exact hcomma hc
  · exact hmark hc
  · exact h s hs hc

/-! ## Texts of many rows -/

/-- **The written rows are read back.** -/
theorem readCsv_unlines (hne : ∀ row ∈ rows, row ≠ [])
    (hrows : ∀ row ∈ rows, ∀ s ∈ row, IsUnbroken s) :
    readCsv (unlines (rows.map csvLine)) = some rows := by
  have hlines : lines (unlines (rows.map csvLine)) = rows.map csvLine := by
    refine lines_unlines_of_isUnbroken (List.forall_mem_map.mpr fun row hrow => ⟨?_, ?_⟩)
    · exact not_mem_csvLine (by decide) (by decide) fun s hs => (hrows row hrow s hs).1
    · exact not_mem_csvLine (by decide) (by decide) fun s hs => (hrows row hrow s hs).2
  have hread : ∀ row ∈ rows, (readCsvLine ∘ csvLine) row = some (id row) :=
    fun row hrow => readCsvLine_csvLine (hne row hrow)
  rw [readCsv, hlines, List.mapM_map, mapM_eq_some rows hread, List.map_id]

end OpcodeForms.Text
