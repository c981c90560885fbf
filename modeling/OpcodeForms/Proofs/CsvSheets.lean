import OpcodeForms.CommandLine.Answer
import OpcodeForms.Proofs.Cells
import OpcodeForms.Proofs.CsvReading
import OpcodeForms.Proofs.Selection

/-!
# Sheets of comma separated values are read back

The cells of a sheet hold commas, and can hold quotation marks, but no line ends. So a reader of
comma separated values gets the rows of the sheet back: the titles, if they are shown, and the cells
of each form that the filters let through.
-/

namespace OpcodeForms

open Text

namespace CommandLine

variable {src : List Char} {rs : List Record} {infos : List Info} {s : Settings}

theorem Sheet.csvLines_eq (s : Sheet) : s.csvLines = s.rows.map csvLine := by
  unfold csvLines rows cells
  cases s.header <;> simp [Function.comp_def]

/-- **The lines of a sheet are read back into its rows.** -/
theorem Sheet.readCsv_csvLines {sheet : Sheet} (hcolumns : sheet.columns ≠ [])
    (hcells : ∀ info ∈ sheet.infos, ∀ col : Column, IsUnbroken (col.cell info)) :
    readCsv (unlines sheet.csvLines) = some sheet.rows := by
  have hrows : ∀ row ∈ sheet.rows, row ≠ [] ∧ ∀ field ∈ row, IsUnbroken field := by
    unfold rows cells
    refine List.forall_mem_append.mpr ⟨?_, List.forall_mem_map.mpr fun info hinfo => ?_⟩
    · split
      · refine List.forall_mem_singleton.mpr ⟨by simpa using hcolumns, ?_⟩
        exact List.forall_mem_map.mpr fun col _ => col.isUnbroken_title
      · simp
    · refine ⟨by simpa using hcolumns, ?_⟩
      exact List.forall_mem_map.mpr fun col _ => hcells info hinfo col
  rw [csvLines_eq]
  exact readCsv_unlines (fun row hrow => (hrows row hrow).1) fun row hrow => (hrows row hrow).2

/-- **The comma separated values that are printed are read back.** Settings that ask for some
columns, and for a mode that there is if they ask for one, are answered without an error, and the
answer is read back into the titles, if they are shown, and the cells of the forms that pass all
filters, in the order of their codes. More generally, any rows without line ends that are written as
lines are read back. -/
theorem Settings.reads_back_csv (h : Table.read src = .ok rs) (hformat : s.format = .csv)
    (hcolumns : s.columns ≠ [])
    (hbitness : ∀ bitness, s.bitness = some bitness → bitness ∈ [16, 32, 64]) :
    (∃ infos output, (Catalogue.ofRecords rs).infos = .ok infos ∧
      infos.map (·.form.code.toNat) = List.range rs.length ∧
      s.print infos = .ok output ∧
      readCsv output = some ((if s.header then [s.columns.map Column.title] else [])
        ++ (infos.filter fun info => s.Selects info).map fun info =>
          s.columns.map fun col => col.cell info)) ∧
    ∀ rows : List (List (List Char)),
      (∀ row ∈ rows, row ≠ [] ∧ ∀ field ∈ row, '\n' ∉ field ∧ '\r' ∉ field) →
        readCsv (unlines (rows.map csvLine)) = some rows := by
  constructor
  · obtain ⟨-, -, -, -, -, infos, hinfos, -, -⟩ := Catalogue.resolves_of_read h
    refine ⟨infos, s.output Sheet.colored (infos.filter fun info => s.Selects info), hinfos,
      Catalogue.map_code_infos h hinfos, ?_, ?_⟩
    · rw [print, printWith, select_eq hbitness]
    · rw [output, hformat]
      refine Sheet.readCsv_csvLines hcolumns fun info hinfo col => ?_
      exact Column.isUnbroken_cell h hinfos (List.mem_of_mem_filter hinfo) col
  · intro rows hrows
    exact readCsv_unlines (fun row hrow => (hrows row hrow).1) fun row hrow => (hrows row hrow).2

/-- Settings that ask for the additions of 64-bit mode, with a column that comes twice. -/
def additionSettings : Settings where
  mnemonic := some "add".toList
  bitness := some 64
  format := .csv
  columns := [.name, .instruction, .name]

/-- The commas of an instruction string end no field. -/
theorem Settings.reads_back_csv_addition :
    Table.read Info.additionTable = .ok Info.additionRecords ∧
      ∃ infos output, (Catalogue.ofRecords Info.additionRecords).infos = .ok infos ∧
        additionSettings.print infos = .ok output ∧
        readCsv output = some [["name".toList, "instruction".toList, "name".toList],
          ["Vaddps".toList,
            "VADDPS zmm1 \x7bk1\x7d\x7bz\x7d, zmm2, zmm3/m512/m32bcst\x7ber\x7d".toList,
            "Vaddps".toList]] := by
  obtain ⟨⟨infos, output, hinfos, -, hprint, hread⟩, -⟩ :=
    reads_back_csv (s := additionSettings) Info.read_additionTable rfl (by decide) (by decide)
  refine ⟨Info.read_additionTable, infos, output, hinfos, hprint, hread.trans ?_⟩
  obtain rfl := Except.ok.inj (hinfos.symm.trans rfl)
  decide +kernel

end CommandLine

end OpcodeForms
