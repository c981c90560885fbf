import OpcodeForms.CommandLine.Settings
import OpcodeForms.Text.Fill
import OpcodeForms.Text.Quoted

/-!
# Sheets

A sheet shows forms in columns. It is written as a table, in which the columns are aligned and may
be colored, or as comma separated values.

In a table every cell but the last of a line is followed by blanks up to the width of its column
and by two blanks more. Widths are measured in bytes of UTF-8.
-/

namespace OpcodeForms.CommandLine

/-- How the text of a cell is written, by the column that it stands in. -/
abbrev Style := Column → List Char → List Char

/-- The forms to show and the columns to show of them. -/
structure Sheet where
  columns : List Column
  /-- Whether a first line holds the titles of the columns. -/
  header : Bool
  infos : List Info

namespace Sheet

/-! ## Tables -/

/-- The width of a column: the largest length of its cells, and of its title if that is shown. -/
def width (s : Sheet) (c : Column) : Nat :=
  (s.infos.map fun info => Text.byteLength (c.cell info)).foldl max
    (if s.header then Text.byteLength c.title else 0)

/-- A line of cells. Every cell but the last is written as `filled` says, and the last is written
`bare`. -/
def line {α : Type} (filled bare : α → List Char) : List α → List Char
  | [] => []
  | [a] => bare a
  | a :: as => filled a ++ line filled bare as

/-- The text with blanks up to the width, in characters. -/
def padRight (width : Nat) (text : List Char) : List Char :=
  text ++ List.replicate (width - text.length) ' '

/-- The line of the titles, from the columns with their widths. -/
def titleLine (widths : List (Column × Nat)) : List Char :=
  line (fun x => padRight x.2 x.1.title ++ [' ', ' ']) (fun x => x.1.title) widths

/-- What follows a cell of the given width and length. -/
def padding (width length : Nat) : List Char :=
  List.replicate (width - length + 2) ' '

/-- The line of a form, from the columns with their widths. What is written for the text of a cell
is `style`, and the blanks after it depend on the text alone. -/
def rowLine (style : Style) (info : Info) (widths : List (Column × Nat)) : List Char :=
  line (fun x => style x.1 (x.1.cell info) ++ padding x.2 (Text.byteLength (x.1.cell info)))
    (fun x => style x.1 (x.1.cell info)) widths

/-- The text in the color of its column. -/
def colored : Style := fun c text =>
  match c.color? with
  | none => text
  | some n => "\x1b[".toList ++ Text.decimal n ++ 'm' :: text ++ "\x1b[39m".toList

/-- The text as it is. -/
def plain : Style := fun _ text => text

/-- The lines of the sheet as a table. The titles are never colored. -/
def tableLines (s : Sheet) (style : Style) : List (List Char) :=
  let widths := s.columns.map fun c => (c, s.width c)
  (if s.header then [titleLine widths] else [])
    ++ s.infos.map fun info => rowLine style info widths

/-! ## Comma separated values -/

/-- The lines of the sheet as comma separated values. -/
def csvLines (s : Sheet) : List (List Char) :=
  (if s.header then [Text.csvLine (s.columns.map Column.title)] else [])
    ++ s.infos.map fun info => Text.csvLine (s.columns.map fun c => c.cell info)

end Sheet

/-- The sheet of the given forms. -/
def Settings.sheet (s : Settings) (infos : List Info) : Sheet where
  columns := s.columns
  header := s.header
  infos := infos

/-- The style of tables, where colored ones have the style `paint`. -/
def Settings.style (s : Settings) (paint : Style) : Style :=
  if s.color then paint else Sheet.plain

/-- The output for the given forms. Only tables are colored. -/
def Settings.output (s : Settings) (paint : Style) (infos : List Info) : List Char :=
  match s.format with
  | .table => Text.unlines ((s.sheet infos).tableLines (s.style paint))
  | .csv => Text.unlines (s.sheet infos).csvLines

/-- The output for those of the given forms that are selected, where colored tables have the style
`paint`. -/
def Settings.printWith (s : Settings) (paint : Style) (infos : List Info) :
    Except UsageError (List Char) :=
  match s.select infos with
  | .error e => .error e
  | .ok selected => .ok (s.output paint selected)

/-- The output for those of the given forms that are selected. -/
def Settings.print (s : Settings) (infos : List Info) : Except UsageError (List Char) :=
  s.printWith Sheet.colored infos

end OpcodeForms.CommandLine
