import OpcodeForms.Proofs.Lossless
import OpcodeForms.Proofs.TableReading

/-!
# The names that a generated file defines

The file with the identities has a constant for each form and four items of its own. The names of
the constants are those of the forms in upper case. They differ from one another, since no two
names of a table are alike, but nothing keeps a form from having the name of one of the four.

So the names are distinct exactly for tables without such a form (`nodup_definedNames_iff`).
-/

namespace OpcodeForms.Generated

open Table (Differ)

variable {src : List Char} {rs : List Record}

/-- The names of the items that the file with the identities has for every table. -/
def ownNames : List (List Char) :=
  ["CODE_COUNT".toList, "NAMES".toList, "MNEMONICS".toList, "OP_COUNTS".toList]

/-- The names that a generated file defines, in order. -/
def definedNames (text : List Char) : Option (List (List Char)) :=
  (readFile text).map fun items => items.map Item.name

theorem nodup_ownNames : ownNames.Nodup := by
  decide

/-- The names of the constants come first. -/
theorem codeNames_eq (rs : List Record) : codeNames rs = rs.map Record.constName ++ ownNames := by
  have hforms : (rs.mapIdx fun i r => Item.form r.constName i).map Item.name
      = rs.map Record.constName := by
    calc (rs.mapIdx fun i r => Item.form r.constName i).map Item.name
        = (rs.zipIdx.map Prod.fst).map Record.constName := by
          rw [List.mapIdx_eq_zipIdx_map, List.map_map, List.map_map]
          rfl
      _ = rs.map Record.constName := by rw [List.zipIdx_map_fst]
  rw [codeNames, codeSections]
  simp only [List.flatten_cons, List.flatten_nil, List.map_append, hforms]
  rfl

/-- The names that the text defines are those of its items. -/
theorem definedNames_codeText (h : Table.read src = .ok rs) :
    definedNames (codeText rs) = some (codeNames rs) := by
  have hname : ∀ r ∈ rs, Record.isName r.name = true := fun r => Table.isName_of_mem h
  rw [definedNames, codeText, codeTextWith,
    readFile_fileText (readable_codeSections Text.isHidden hname)]
  rfl

/-- The forms of a table have different constants, since their names differ in more than case. -/
theorem nodup_constNames (h : Table.read src = .ok rs) : (rs.map Record.constName).Nodup := by
  have hnames : rs.Pairwise Differ := (Table.read_eq_ok_iff.mp h).names
  refine List.pairwise_map.mpr (hnames.imp_of_mem fun {r r'} hr hr' hdiffer heq => ?_)
  -- beyond ASCII, names could be alike in upper case without being alike
  have hascii := Record.isAscii_of_isName (Table.isName_of_mem h hr)
  have hascii' := Record.isAscii_of_isName (Table.isName_of_mem h hr')
  have halike : Text.eqIgnoringCase r.name r'.name = true :=
    (Text.upper_eq_iff hascii hascii').mp heq
  rw [hdiffer] at halike
  cases halike

/-- How often a name is defined: once for a form, and once for an item of the file. -/
theorem count_codeNames (h : Table.read src = .ok rs) (name : List Char) :
    (codeNames rs).count name = (if name ∈ rs.map Record.constName then 1 else 0)
      + (if name ∈ ownNames then 1 else 0) := by
  rw [codeNames_eq, List.count_append, (nodup_constNames h).count, nodup_ownNames.count]

theorem nodup_codeNames_iff (h : Table.read src = .ok rs) :
    (codeNames rs).Nodup ↔ ∀ r ∈ rs, Text.upper r.name ∉ ownNames := by
  rw [codeNames_eq, List.nodup_append]
  constructor
  · rintro ⟨-, -, hdisjoint⟩ r hr hown
    exact hdisjoint _ (List.mem_map_of_mem hr) _ hown rfl
  · intro hnone
    refine ⟨nodup_constNames h, nodup_ownNames, ?_⟩
    rintro _ hform _ hown rfl
    obtain ⟨r, hr, rfl⟩ := List.mem_map.mp hform
    exact hnone r hr hown

/-- **The file with the identities defines a name twice exactly if a form of the table is called
like one of the items that the file has for every table.** The other names are distinct: a name is
defined once for the form that has it, up to case, and once for the item that has it. -/
theorem nodup_definedNames_iff (h : Table.read src = .ok rs) :
    ∃ names, definedNames (codeText rs) = some names ∧
      names = rs.map (fun r => Text.upper r.name) ++ ownNames ∧
      (∀ name, names.count name = (if name ∈ rs.map (fun r => Text.upper r.name) then 1 else 0)
        + (if name ∈ ownNames then 1 else 0)) ∧
      (names.Nodup ↔ ∀ r ∈ rs, Text.upper r.name ∉ ownNames) :=
  ⟨codeNames rs, definedNames_codeText h, codeNames_eq rs, count_codeNames h,
    nodup_codeNames_iff h⟩

/-- No form of this table is called like an item of the file. -/
theorem nodup_definedNames_iff_markTable :
    Table.read markTable = .ok markRecords ∧
      ∃ names, definedNames (codeText markRecords) = some names ∧ names.Nodup := by
  obtain ⟨names, htext, -, -, hnodup⟩ := nodup_definedNames_iff read_markTable
  exact ⟨read_markTable, names, htext, hnodup.mpr (by decide)⟩

/-- A table with a form that is called like an array of the file. -/
def namesTable : List Char :=
  "INVALID bad legacy op=0\nnames nop legacy op=90\nDeclareByte db legacy op=0".toList

/-- The records of the table. -/
def namesRecords : List Record :=
  [{ name := "INVALID".toList, mnemonic := "bad".toList, encoding := .legacy, opCount := 0,
     packed := {} },
    { name := "names".toList, mnemonic := "nop".toList, encoding := .legacy, opCount := 0,
      packed := { word1 := 0x900000 } },
    { name := "DeclareByte".toList, mnemonic := "db".toList, encoding := .legacy, opCount := 0,
      packed := {} }]

theorem read_namesTable : Table.read namesTable = .ok namesRecords := by
  rfl

/-- The constant of the form and the array have the same name. -/
theorem not_nodup_definedNames :
    Table.read namesTable = .ok namesRecords ∧
      ∃ names, definedNames (codeText namesRecords) = some names ∧ ¬ names.Nodup :=
  ⟨read_namesTable, codeNames namesRecords, definedNames_codeText read_namesTable, by decide⟩

end OpcodeForms.Generated
