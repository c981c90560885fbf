import OpcodeForms.CommandLine.Answer
import OpcodeForms.Proofs.Cells
import OpcodeForms.Proofs.Selection
import OpcodeForms.Proofs.TableColumns

/-!
# Sheets are written as tables

A table is written cell by cell: widths and columns are looked up by their index, and the length of
a cell is subtracted from the width of its column. `Sheet.tableLines?` is this with each step
written out; where a step makes no sense, there is no result. It never gets there
(`Sheet.tableLines?_eq`), since the widths are those of all cells, and so every line of the table
shows its cells in their columns.

Colors only put escape sequences around cells, so that removing these sequences gives the table
without colors. Nothing else is used of the style of colored tables: this holds for any style that
puts such sequences in, as the colors of the columns do (`Sheet.escaped_colored`).
-/

namespace OpcodeForms

open Text

namespace CommandLine

namespace Sheet

variable {s : Sheet} {style : Style} {info : Info} {c : Char} {l : List Char}

/-! ## Writing step by step -/

/-- The widths before any form is looked at: those of the titles, if they are shown. -/
def startWidths (s : Sheet) : List Nat :=
  if s.header then s.columns.map fun col => byteLength col.title
  else List.replicate s.columns.length 0

/-- Raises the widths to the lengths of some cells. -/
def widen : List Nat → List (List Char) → List Nat
  | width :: widths, cell :: cells => max width (byteLength cell) :: widen widths cells
  | widths, _ => widths

/-- The widths of the columns, raised form by form. -/
def widths (s : Sheet) : List Nat :=
  (s.infos.map s.cells).foldl widen s.startWidths

/-- What follows a cell. It is undefined if the cell is longer than its column is wide. -/
def padding? (width length : Nat) : Option (List Char) :=
  if length ≤ width then some (padding width length) else none

/-- The line of the titles. The width of each column but the last is looked up. -/
def titleLine? (s : Sheet) (widths : List Nat) : Option (List Char) :=
  let last := s.columns.length - 1
  List.flatten <$> s.columns.zipIdx.mapM fun (col, i) => do
    if i = last then return col.title
    else return padRight (← widths[i]?) col.title ++ [' ', ' ']

/-- The line of some cells. The column of each cell is looked up, and the width of each column but
the last. -/
def rowLine? (s : Sheet) (style : Style) (widths : List Nat) (cells : List (List Char)) :
    Option (List Char) :=
  let last := cells.length - 1
  List.flatten <$> cells.zipIdx.mapM fun (cell, i) => do
    let text := style (← s.columns[i]?) cell
    if i = last then return text
    else return text ++ (← padding? (← widths[i]?) (byteLength cell))

/-- The lines of the sheet as a table. -/
def tableLines? (s : Sheet) (style : Style) : Option (List (List Char)) := do
  let widths := s.widths
  let titles ← if s.header then List.singleton <$> s.titleLine? widths else some []
  let rows ← (s.infos.map s.cells).mapM (s.rowLine? style widths)
  return titles ++ rows

/-! ## Every step is defined -/

theorem widen_map (f : Column → Nat) (g : Column → List Char) (cols : List Column) :
    widen (cols.map f) (cols.map g) = cols.map fun col => max (f col) (byteLength (g col)) := by
  induction cols with
  | nil => rfl
  | cons col cols ih => rw [List.map_cons, List.map_cons, widen, ih, List.map_cons]

theorem foldl_widen (f : Column → Nat) (cols : List Column) (infos : List Info) :
    (infos.map fun info => cols.map fun col => col.cell info).foldl widen (cols.map f)
      = cols.map fun col =>
        (infos.map fun info => byteLength (col.cell info)).foldl max (f col) := by
  induction infos generalizing f with
  | nil => rfl
  | cons info infos ih => rw [List.map_cons, List.foldl_cons, widen_map, ih]; rfl

/-- **The widths are raised to those of the columns.** -/
theorem widths_eq (s : Sheet) : s.widths = s.columns.map s.width := by
  have hstart : s.startWidths
      = s.columns.map fun col => if s.header then byteLength col.title else 0 := by
    unfold startWidths
    cases s.header with
    | true => rfl
    | false => exact (List.map_const' ..).symm
  rw [widths, hstart]
  exact foldl_widen _ s.columns s.infos

/-- A line whose cells are told apart by their index. -/
theorem flatten_zipIdx {α : Type} {filled bare : α → List Char} (as : List α) (n : Nat) :
    ((as.zipIdx n).map fun x =>
      if x.2 = n + as.length - 1 then bare x.1 else filled x.1).flatten = line filled bare as := by
  induction as generalizing n with
  | nil => rfl
  | cons a as ih =>
    cases as with
    | nil => simp [line]
    | cons b as =>
      -- the last cell has the same index, seen from the second one
      have hlast : n + (a :: b :: as).length - 1 = n + 1 + (b :: as).length - 1 := by
        simp only [List.length_cons]
        omega
      have hne : n ≠ n + (a :: b :: as).length - 1 := by
        simp only [List.length_cons]
        omega
      rw [List.zipIdx_cons, List.map_cons, List.flatten_cons, if_neg hne, hlast, ih (n + 1),
        line_cons a (List.cons_ne_nil b as)]

theorem mapM_zipIdx_eq_line {α : Type} {f : α × Nat → Option (List Char)}
    {filled bare : α → List Char} (as : List α)
    (h : ∀ a i, as[i]? = some a →
      f (a, i) = some (if i = as.length - 1 then bare a else filled a)) :
    List.flatten <$> as.zipIdx.mapM f = some (line filled bare as) := by
  have hpieces : as.zipIdx.mapM f = some (as.zipIdx.map fun x =>
      if x.2 = 0 + as.length - 1 then bare x.1 else filled x.1) := by
    refine mapM_eq_some _ fun x hx => ?_
    rw [Nat.zero_add]
    exact h x.1 x.2 (List.mem_zipIdx_iff_getElem?.mp hx)
  rw [hpieces, Option.map_eq_map, Option.map_some, flatten_zipIdx]

/-- Both schemes put the same number of blanks after a title. -/
theorem padRight_title (width : Nat) (col : Column) :
    padRight width col.title ++ [' ', ' '] = col.title ++ padding width (byteLength col.title) := by
  rw [padRight, padding, col.byteLength_title, List.append_assoc, ← List.replicate_append_replicate]
  rfl

theorem titleLine_eq (s : Sheet) :
    titleLine (s.columns.map fun col => (col, s.width col)) = s.layOut Column.title := by
  rw [titleLine, line_map]
  simp only [padRight_title]
  rfl

theorem titleLine?_eq (s : Sheet) :
    s.titleLine? (s.columns.map s.width) = some (s.layOut Column.title) := by
  refine mapM_zipIdx_eq_line s.columns fun col i hcol => ?_
  have hwidth : (s.columns.map s.width)[i]? = some (s.width col) := by
    rw [List.getElem?_map, hcol, Option.map_some]
  simp only [hwidth, Option.bind_eq_bind, Option.bind_some, padRight_title]
  split <;> rfl

theorem padding?_eq {width length : Nat} (h : length ≤ width) :
    padding? width length = some (padding width length) :=
  if_pos h

theorem rowLine?_eq (style : Style) (h : info ∈ s.infos) :
    s.rowLine? style (s.columns.map s.width) (s.cells info)
      = some (rowLine style info (s.columns.map fun col => (col, s.width col))) := by
  rw [rowLine, line_map, rowLine?, cells, List.zipIdx_map, List.mapM_map, List.length_map]
  refine mapM_zipIdx_eq_line s.columns fun col i hcol => ?_
  have hwidth : (s.columns.map s.width)[i]? = some (s.width col) := by
    rw [List.getElem?_map, hcol, Option.map_some]
  simp only [Function.comp_apply, Prod.map_apply, id_eq, hcol, hwidth, Option.bind_eq_bind,
    Option.bind_some, padding?_eq (byteLength_cell_le_width h col)]
  split <;> rfl

/-- **Every step of writing a table is defined.** -/
theorem tableLines?_eq (s : Sheet) (style : Style) :
    s.tableLines? style = some (s.tableLines style) := by
  have hrows : (s.infos.map s.cells).mapM (s.rowLine? style (s.columns.map s.width))
      = some (s.infos.map fun info =>
          rowLine style info (s.columns.map fun col => (col, s.width col))) := by
    rw [List.mapM_map]
    exact mapM_eq_some s.infos fun info hinfo => rowLine?_eq style hinfo
  unfold tableLines? tableLines
  simp only [widths_eq, titleLine?_eq, titleLine_eq, hrows]
  cases s.header <;> rfl

/-! ## The lines of a table -/

/-- The lines without colors. -/
theorem tableLines_plain (s : Sheet) :
    s.tableLines plain = (if s.header then [s.layOut Column.title] else [])
      ++ s.infos.map fun info => s.layOut fun col => col.cell info := by
  have hrow : ∀ info, rowLine plain info (s.columns.map fun col => (col, s.width col))
      = s.layOut fun col => col.cell info := by
    intro info
    rw [rowLine, line_map]
    rfl
  unfold tableLines
  simp only [titleLine_eq, hrow]

/-- **Every line of a table shows the cells of its row in their columns.** -/
theorem inColumns_tableLines (s : Sheet) :
    List.Forall₂ s.InColumns s.rows (s.tableLines plain) := by
  rw [tableLines_plain, rows]
  refine List.rel_append ?_ ?_
  · by_cases hheader : s.header = true
    · rw [if_pos hheader, if_pos hheader]
      exact .cons (inColumns_layOut fun col _ => byteLength_title_le_width hheader col) .nil
    · rw [if_neg hheader, if_neg hheader]
      exact .nil
  · rw [List.forall₂_map_left_iff, List.forall₂_map_right_iff, List.forall₂_same]
    exact fun info hinfo => inColumns_layOut fun col _ => byteLength_cell_le_width hinfo col

/-- The colors of the columns are escape sequences around the cells. -/
theorem escaped_colored (col : Column) (text : List Char) : Escaped (colored col text) text := by
  -- the sequence after a text goes back to the default color
  have hdefault : escape 39 = "\x1b[39m".toList := by decide
  unfold colored
  split
  · exact .refl text
  · next n _ => simpa [escape, ← hdefault] using Escaped.surround n 39 text

/-- A style that puts escape sequences around the cells puts them into the lines of the forms. -/
theorem escaped_tableLines (hstyle : ∀ col text, Escaped (style col text) text) (s : Sheet) :
    List.Forall₂ Escaped (s.tableLines style) (s.tableLines plain) := by
  refine List.rel_append ?_ ?_
  · exact List.forall₂_same.mpr fun l _ => .refl l
  · rw [List.forall₂_map_left_iff, List.forall₂_map_right_iff, List.forall₂_same]
    intro info _
    exact escaped_line (fun x : Column × Nat => (hstyle x.1 _).append (.refl _))
      (fun x => hstyle x.1 _) _

theorem mem_tableLines (hl : l ∈ s.tableLines plain) (hc : c ∈ l) :
    c = ' ' ∨ ∃ col : Column, c ∈ col.title ∨ ∃ info ∈ s.infos, c ∈ col.cell info := by
  rw [tableLines_plain, List.mem_append, List.mem_map] at hl
  rcases hl with hl | ⟨info, hinfo, rfl⟩
  · split at hl
    · rw [List.mem_singleton.mp hl] at hc
      exact (mem_layOut hc).imp_right fun ⟨col, hcol⟩ => ⟨col, .inl hcol⟩
    · cases hl
  · exact (mem_layOut hc).imp_right fun ⟨col, hcol⟩ => ⟨col, .inr ⟨info, hinfo, hcol⟩⟩

/-- A control character of a table is one of a cell. -/
theorem not_mem_tableLines (hl : l ∈ s.tableLines plain) (hc : c.toNat < 0x20)
    (hcells : ∀ info ∈ s.infos, ∀ col : Column, c ∉ col.cell info) : c ∉ l := by
  intro hmem
  rcases mem_tableLines hl hmem with rfl | ⟨col, htitle | ⟨info, hinfo, hcell⟩⟩
  · exact absurd hc (by decide)
  · exact col.isPlain_title.not_mem hc htitle
  · exact hcells info hinfo col hcell

/-- **The text of a table is cut at its line ends into the lines of the table.** -/
theorem lines_unlines_tableLines (hstyle : ∀ col text, Escaped (style col text) text)
    (hcells : ∀ info ∈ s.infos, ∀ col : Column, IsUnbroken (col.cell info)) :
    lines (unlines (s.tableLines style)) = s.tableLines style := by
  refine lines_unlines_of_isUnbroken (Escaped.forall_isUnbroken (escaped_tableLines hstyle s) ?_)
  intro l hl
  exact ⟨not_mem_tableLines hl (by decide) fun info hinfo col => (hcells info hinfo col).1,
    not_mem_tableLines hl (by decide) fun info hinfo col => (hcells info hinfo col).2⟩

/-- **Removing the escape sequences removes the colors.** -/
theorem strip_unlines_tableLines (hstyle : ∀ col text, Escaped (style col text) text)
    (hcells : ∀ info ∈ s.infos, ∀ col : Column, '\x1b' ∉ col.cell info) :
    strip (unlines (s.tableLines style)) = unlines (s.tableLines plain) := by
  refine (Escaped.unlines (escaped_tableLines hstyle s)).strip_eq fun hmem => ?_
  obtain ⟨l, hl, hmem⟩ := List.mem_flatMap.mp hmem
  rcases List.mem_append.mp hmem with hmem | hmem
  · exact not_mem_tableLines hl (by decide) hcells hmem
  · exact absurd hmem (by decide)

end Sheet

/-! ## Printed tables -/

variable {src : List Char} {rs : List Record} {infos selected : List Info} {s : Settings}

theorem Settings.printWith_of_table (paint : Style) (hformat : s.format = .table)
    (hselect : s.select infos = .ok selected) :
    s.printWith paint infos = .ok (unlines ((s.sheet selected).tableLines (s.style paint))) := by
  simp only [printWith, hselect, output, hformat]

theorem Settings.escaped_style {paint : Style}
    (hpaint : ∀ col text, Escaped (paint col text) text) (s : Settings) (col : Column)
    (text : List Char) : Escaped (s.style paint col text) text := by
  unfold style
  split
  · exact hpaint col text
  · exact .refl text

/-- **Tables are aligned.** Settings that ask for a table are answered with an error only if they
ask for a mode that there is not. Otherwise each step of writing is defined, and the answer has one
line for the titles, if they are shown, and one for each form that passes all filters, in which each
cell stands at the offset of its column. Whatever style puts escape sequences around the cells of
colored tables, their lines are those that are printed without colors with escape sequences put in,
and the lines without colors are what is left when the sequences are removed, as long as there are
none in the table itself. -/
theorem Settings.prints_aligned_table {paint : Style}
    (hpaint : ∀ col text, Escaped (paint col text) text) (h : Table.read src = .ok rs)
    (hformat : s.format = .table) :
    ∃ infos, (Catalogue.ofRecords rs).infos = .ok infos ∧
      ((∃ bitness, s.bitness = some bitness ∧ bitness ∉ [16, 32, 64] ∧
          s.printWith paint infos = .error (.bitness bitness)) ∨
        ∃ sheet printed uncolored,
          sheet = s.sheet (infos.filter fun info => s.Selects info) ∧
          sheet.tableLines? (s.style paint) = some printed ∧
          s.printWith paint infos = .ok (unlines printed) ∧
          sheet.tableLines? Sheet.plain = some uncolored ∧
          printWith { s with color := false } paint infos = .ok (unlines uncolored) ∧
          lines (unlines printed) = printed ∧ lines (unlines uncolored) = uncolored ∧
          printed.length = sheet.infos.length + (if s.header then 1 else 0) ∧
          List.Forall₂ sheet.InColumns sheet.rows uncolored ∧
          (∀ col, sheet.width col = (sheet.lengths col).max?.getD 0) ∧
          List.Forall₂ Escaped printed uncolored ∧
          ('\x1b' ∉ src → strip (unlines printed) = unlines uncolored)) := by
  obtain ⟨-, -, -, -, -, infos, hinfos, -, -⟩ := Catalogue.resolves_of_read h
  refine ⟨infos, hinfos, ?_⟩
  cases hselect : s.select infos with
  | error e =>
    obtain ⟨bitness, hbitness, hnot, rfl⟩ := select_eq_error hselect
    exact .inl ⟨bitness, hbitness, hnot, by rw [printWith, hselect]⟩
  | ok selected =>
    right
    obtain rfl := select_eq_ok hselect
    -- without colors, the same forms are selected
    have huncolored := (s.select_color false infos).trans hselect
    have hunbroken : ∀ info ∈ infos.filter fun info => s.Selects info, ∀ col : Column,
        IsUnbroken (col.cell info) := fun info hinfo col =>
      col.isUnbroken_cell h hinfos (List.mem_of_mem_filter hinfo)
    have hstyle := s.escaped_style hpaint
    refine ⟨_, _, _, rfl, Sheet.tableLines?_eq _ _, printWith_of_table paint hformat hselect,
      Sheet.tableLines?_eq _ _, printWith_of_table paint hformat huncolored,
      Sheet.lines_unlines_tableLines hstyle hunbroken,
      Sheet.lines_unlines_tableLines (fun _ => .refl) hunbroken,
      ?_, Sheet.inColumns_tableLines _, Sheet.width_eq _, Sheet.escaped_tableLines hstyle _,
      fun hescape => Sheet.strip_unlines_tableLines hstyle fun info hinfo col hmem => ?_⟩
    · unfold Sheet.tableLines sheet
      cases s.header <;> simp
    · exact hescape (Catalogue.mem_of_mem_cell h hinfos (List.mem_of_mem_filter hinfo)
        (by decide) hmem).2

/-- Settings that ask for the additions of 64-bit mode in color, with a column that comes twice. -/
def coloredSettings : Settings where
  mnemonic := some "add".toList
  bitness := some 64
  columns := [.name, .tuple, .name]
  color := true

/-- Without the escape sequences, the titles stand over the cells. -/
theorem Settings.prints_aligned_table_addition :
    Table.read Info.additionTable = .ok Info.additionRecords ∧
      ∃ infos printed, (Catalogue.ofRecords Info.additionRecords).infos = .ok infos ∧
        coloredSettings.print infos = .ok (unlines printed) ∧
        printed = ["name    tuple     name".toList,
          "\x1b[33mVaddps\x1b[39m  Full_512  \x1b[33mVaddps\x1b[39m".toList] ∧
        strip (unlines printed) =
          unlines ["name    tuple     name".toList, "Vaddps  Full_512  Vaddps".toList] := by
  obtain ⟨infos, hinfos, hprint⟩ :=
    prints_aligned_table (s := coloredSettings) Sheet.escaped_colored Info.read_additionTable rfl
  refine ⟨Info.read_additionTable, infos, ?_⟩
  rcases hprint with ⟨bitness, hbitness, hnot, -⟩ | ⟨sheet, printed, uncolored, rfl, hprinted,
    hprint, huncolored, -, -, -, -, -, -, -, hstrip⟩
  · obtain rfl := Option.some.inj hbitness
    exact absurd hnot (by decide)
  · refine ⟨printed, hinfos, hprint, ?_, (hstrip (by decide)).trans ?_⟩
    · obtain rfl := Except.ok.inj (hinfos.symm.trans rfl)
      exact Option.some.inj (hprinted.symm.trans (by decide +kernel))
    · obtain rfl := Except.ok.inj (hinfos.symm.trans rfl)
      exact congrArg unlines (Option.some.inj (huncolored.symm.trans (by decide +kernel)))

end CommandLine

end OpcodeForms
