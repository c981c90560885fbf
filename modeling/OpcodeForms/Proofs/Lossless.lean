import OpcodeForms.Proofs.ReadingBack

/-!
# Nothing of a table is lost

The two files of an accepted table are read back to what the table says of each form, in order
(`readCode_codeTextWith`, `readTable_tableText`). A name has no characters that a constant could not
have, and the encoding of a form is in its packed record, so the files tell all of a record
(`Generated.reads_back`).
-/

namespace OpcodeForms

/-! ## Accepted records -/

namespace Record

variable {line : List Char} {r : Record}

/-- The packed record of a line names its encoding. -/
theorem hasEncoding_of_read (h : read line = .ok r) : r.packed.HasEncoding r.encoding := by
  obtain ⟨name, mnemonic, e, ws, as, -, -, -, rfl⟩ := exists_attributes h
  exact Attributes.pack_hasEncoding _ e

theorem not_mem_name (h : isName r.name = true) {c : Char} (hc : c.isAlphanum = false)
    (hne : c ≠ '_') : c ∉ r.name := by
  intro hmem
  rcases isAlphanum_of_isName h hmem with halnum | rfl
  · rw [hc] at halnum
    cases halnum
  · exact hne rfl

/-- Upper case brings no character below the letters in. -/
theorem not_mem_constName (h : isName r.name = true) {c : Char} (hlow : c.toNat < 65)
    (hc : c.isAlphanum = false) : c ∉ r.constName := by
  intro hmem
  have hne : c ≠ '_' := by
    rintro rfl
    exact absurd hlow (by decide)
  exact not_mem_name h hc hne (Text.mem_of_mem_upper hlow hmem)

end Record

namespace Generated

open Text (IsUnbroken isUnbroken_append)

/-! ## The lines of the files -/

variable {special : Char → Bool} {rs : List Record} {r : Record}

theorem isUnbroken_decimal (n : Nat) : IsUnbroken (Text.decimal n) :=
  ⟨Text.not_mem_decimal rfl, Text.not_mem_decimal rfl⟩

theorem isUnbroken_wordText (w : UInt32) : IsUnbroken (wordText w) :=
  ⟨not_mem_wordText rfl (by decide), not_mem_wordText rfl (by decide)⟩

theorem isUnbroken_name (h : Record.isName r.name = true) : IsUnbroken r.name :=
  ⟨Record.not_mem_name h rfl (by decide), Record.not_mem_name h rfl (by decide)⟩

theorem isUnbroken_constName (h : Record.isName r.name = true) : IsUnbroken r.constName :=
  ⟨Record.not_mem_constName h (by decide) rfl, Record.not_mem_constName h (by decide) rfl⟩

theorem isUnbroken_stringEntry (special : Char → Bool) (s : List Char) :
    IsUnbroken (stringEntry special s) :=
  isUnbroken_append.mpr ⟨⟨Text.not_mem_quoteWith special (.inl rfl) s,
    Text.not_mem_quoteWith special (.inr rfl) s⟩, by decide⟩

theorem isUnbroken_noted {entry : List Char} (hentry : IsUnbroken entry)
    (h : Record.isName r.name = true) : IsUnbroken (noted entry r) :=
  isUnbroken_append.mpr ⟨isUnbroken_append.mpr ⟨hentry, by decide⟩, isUnbroken_name h⟩

theorem isUnbroken_packedEntry (h : Record.isName r.name = true) : IsUnbroken (packedEntry r) := by
  refine isUnbroken_noted ?_ h
  simp only [isUnbroken_append, isUnbroken_wordText]
  decide

theorem readable_form (h : Record.isName r.name = true) (i : Nat) :
    (Item.form r.constName i).Readable where
  plain := Record.not_mem_constName h (by decide) rfl
  unbroken := by
    intro line hline
    rw [List.mem_singleton.mp hline]
    unfold formLine
    simp only [isUnbroken_append, isUnbroken_constName h, isUnbroken_decimal]
    decide

theorem readable_count (n : Nat) : (Item.count n).Readable where
  plain := trivial
  unbroken := by
    intro line hline
    rw [List.mem_singleton.mp hline]
    simp only [isUnbroken_append, isUnbroken_decimal]
    decide

/-- An array is read back if its texts are part of lines. -/
theorem readable_array {name type length : String} {entries : List (List Char)}
    (hplain : ':' ∉ name.toList ∧ ';' ∉ type.toList ∧ ']' ∉ length.toList)
    (hline : IsUnbroken name.toList ∧ IsUnbroken type.toList ∧ IsUnbroken length.toList)
    (hentries : ∀ entry ∈ entries, IsUnbroken entry) :
    (Item.array name type length entries).Readable where
  plain := hplain
  unbroken := by
    intro line hmem
    rw [Item.lines, List.mem_append, List.mem_cons, List.mem_singleton] at hmem
    rcases hmem with (rfl | hmem) | rfl
    · simp only [isUnbroken_append, hline]
      decide
    · obtain ⟨entry, hentry, rfl⟩ := List.mem_map.mp hmem
      exact isUnbroken_append.mpr ⟨by decide, hentries entry hentry⟩
    · decide

theorem readable_codeSections (special : Char → Bool)
    (h : ∀ r ∈ rs, Record.isName r.name = true) :
    ∀ items ∈ codeSections special rs, ∀ item ∈ items, item.Readable := by
  intro items hitems item hitem
  simp only [codeSections, List.mem_cons, List.not_mem_nil, or_false] at hitems
  rcases hitems with rfl | rfl | rfl | rfl | rfl
  · obtain ⟨i, hi, rfl⟩ := List.mem_mapIdx.mp hitem
    exact readable_form (h _ (List.getElem_mem hi)) i
  · rw [List.mem_singleton.mp hitem]
    exact readable_count rs.length
  · rw [List.mem_singleton.mp hitem]
    refine readable_array (by decide) (by decide) fun entry hentry => ?_
    obtain ⟨r, -, rfl⟩ := List.mem_map.mp hentry
    exact isUnbroken_stringEntry special r.name
  · rw [List.mem_singleton.mp hitem]
    refine readable_array (by decide) (by decide) fun entry hentry => ?_
    obtain ⟨r, -, rfl⟩ := List.mem_map.mp hentry
    exact isUnbroken_stringEntry special r.mnemonic
  · rw [List.mem_singleton.mp hitem]
    refine readable_array (by decide) (by decide) fun entry hentry => ?_
    obtain ⟨r, hr, rfl⟩ := List.mem_map.mp hentry
    exact isUnbroken_noted (isUnbroken_decimal r.opCount) (h r hr)

/-- The array with the packed records. -/
theorem readable_packed (h : ∀ r ∈ rs, Record.isName r.name = true) :
    (Item.array "OP_CODE_DATA" "PackedOpCode" ("code::" ++ Item.countName)
      (rs.map packedEntry)).Readable := by
  refine readable_array (by decide) (by decide) fun entry hentry => ?_
  obtain ⟨r, hr, rfl⟩ := List.mem_map.mp hentry
  exact isUnbroken_packedEntry (h r hr)

/-! ## What the files say -/

/-- What the file with the identities says. -/
structure Identities where
  /-- The constants, with their positions. -/
  constants : List (List Char × Nat)
  count : Nat
  names : List (List Char)
  mnemonics : List (List Char)
  opCounts : List Nat
deriving DecidableEq

/-- The constant that the item is, if it is one. -/
def Item.constant? : Item → Option (List Char × Nat)
  | .form name i => some (name, i)
  | .count _ | .array .. => none

/-- The number of forms that the item is, if it is one. -/
def Item.count? : Item → Option Nat
  | .count n => some n
  | .form .. | .array .. => none

/-- The entries of the item if it is this array. -/
def Item.entries? (name type length : String) : Item → Option (List (List Char))
  | .array n t l entries => if n = name ∧ t = type ∧ l = length then some entries else none
  | .form .. | .count _ => none

/-- Reads the file with the identities. -/
def readCode (text : List Char) : Option Identities := do
  let items ← readFile text
  match items.dropWhile fun item => item.constant?.isSome with
  | [count, names, mnemonics, opCounts] =>
    return {
      constants := items.filterMap Item.constant?
      count := ← count.count?
      names := ← (← names.entries? "NAMES" "&str" "CODE_COUNT").mapM stringValue?
      mnemonics := ← (← mnemonics.entries? "MNEMONICS" "&str" "CODE_COUNT").mapM stringValue?
      opCounts := ← (← opCounts.entries? "OP_COUNTS" "u8" "CODE_COUNT").mapM opCountValue? }
  | _ => none

/-- Reads the file with the packed records. -/
def readTable (text : List Char) : Option (List Packed) := do
  match ← readFile text with
  | [data] =>
    (← data.entries? "OP_CODE_DATA" "PackedOpCode" "code::CODE_COUNT").mapM packedValue?
  | _ => none

/-- What the file with the identities has to say of a table. -/
def Identities.of (rs : List Record) : Identities where
  constants := rs.mapIdx fun i r => (Text.upper r.name, i)
  count := rs.length
  names := rs.map (·.name)
  mnemonics := rs.map (·.mnemonic)
  opCounts := rs.map (·.opCount)

/-- Entries that are read back one by one are read back together. -/
theorem mapM_map_eq_some {α β γ : Type} (value : α → γ) {write : α → β} {read : β → Option γ}
    (h : ∀ a, read (write a) = some (value a)) :
    ∀ l : List α, (l.map write).mapM read = some (l.map value) := by
  intro l
  rw [List.mapM_map]
  exact Text.mapM_eq_some l fun a _ => h a

theorem dropWhile_forms (rs : List Record) (items : List Item)
    (h : ∀ item ∈ items.head?, item.constant?.isSome = false) :
    ((rs.mapIdx fun i r => Item.form r.constName i) ++ items).dropWhile
      (fun item => item.constant?.isSome) = items := by
  rw [List.dropWhile_append_of_pos]
  · cases items with
    | nil => rfl
    | cons item items => exact List.dropWhile_cons_of_neg (by simp [h item rfl])
  · intro item hitem
    obtain ⟨i, hi, rfl⟩ := List.mem_mapIdx.mp hitem
    rfl

theorem filterMap_constant?_forms (rs : List Record) :
    (rs.mapIdx fun i r => Item.form r.constName i).filterMap Item.constant?
      = rs.mapIdx fun i r => (Text.upper r.name, i) := by
  rw [List.mapIdx_eq_zipIdx_map, List.mapIdx_eq_zipIdx_map, List.filterMap_map,
    ← List.filterMap_eq_map]
  exact List.filterMap_congr fun _ _ => rfl

/-- **The file with the identities is read back.** -/
theorem readCode_codeTextWith (special : Char → Bool)
    (h : ∀ r ∈ rs, Record.isName r.name = true) :
    readCode (codeTextWith special rs) = some (Identities.of rs) := by
  have hfile : readFile (codeTextWith special rs) = some (codeSections special rs).flatten :=
    readFile_fileText (readable_codeSections special h)
  have hnames : (rs.map fun r => stringEntry special r.name).mapM stringValue?
      = some (rs.map (·.name)) :=
    mapM_map_eq_some Record.name (fun r => stringValue?_stringEntry special r.name) rs
  have hmnemonics : (rs.map fun r => stringEntry special r.mnemonic).mapM stringValue?
      = some (rs.map (·.mnemonic)) :=
    mapM_map_eq_some Record.mnemonic (fun r => stringValue?_stringEntry special r.mnemonic) rs
  have hopCounts : (rs.map opCountEntry).mapM opCountValue? = some (rs.map (·.opCount)) :=
    mapM_map_eq_some Record.opCount opCountValue?_opCountEntry rs
  rw [readCode, hfile, codeSections]
  simp only [List.flatten_cons, List.flatten_nil, List.append_nil, Option.bind_eq_bind,
    Option.bind_some]
  rw [dropWhile_forms rs _ (by simp [Item.constant?])]
  simp only [List.singleton_append, Item.count?, Item.entries?, Item.countName, and_self, if_true,
    Option.bind_some, hnames, hmnemonics, hopCounts]
  rw [List.filterMap_append, filterMap_constant?_forms]
  exact congrArg (fun constants => some { Identities.of rs with constants }) (List.append_nil _)

/-- **The file with the packed records is read back.** -/
theorem readTable_tableText (h : ∀ r ∈ rs, Record.isName r.name = true) :
    readTable (tableText rs) = some (rs.map (·.packed)) := by
  have hfile : readFile (tableText rs) = some [.array "OP_CODE_DATA" "PackedOpCode"
      ("code::" ++ Item.countName) (rs.map packedEntry)] := by
    refine readFile_fileText fun items hitems item hitem => ?_
    rw [List.mem_singleton.mp hitems] at hitem
    rw [List.mem_singleton.mp hitem]
    exact readable_packed h
  have hlength : "code::" ++ Item.countName = "code::CODE_COUNT" := by
    decide
  rw [readTable, hfile]
  simp only [Option.bind_eq_bind, Option.bind_some, Item.entries?, hlength, and_self, if_true]
  exact mapM_map_eq_some Record.packed packedValue?_packedEntry rs

/-! ## The lines of constants -/

/-- Whether the line defines a constant of a form. -/
def definesForm (line : List Char) : Bool :=
  "pub const ".toList.isPrefixOf line

theorem filter_lines_count (n : Nat) : (Item.count n).lines.filter definesForm = [] := rfl

/-- No line of an array defines a form, whatever its entries are. -/
theorem filter_lines_array (name type length : String) (entries : List (List Char)) :
    (Item.array name type length entries).lines.filter definesForm = [] := by
  apply List.filter_eq_nil_iff.mpr
  intro line hline
  rw [Item.lines, List.mem_append, List.mem_cons, List.mem_singleton] at hline
  rcases hline with (rfl | hline) | rfl
  · exact Bool.false_ne_true
  · obtain ⟨entry, -, rfl⟩ := List.mem_map.mp hline
    exact Bool.false_ne_true
  · exact Bool.false_ne_true

/-- **There is a line for the constant of each form, in order, and no other line of a constant.** -/
theorem filter_lines_codeTextWith (special : Char → Bool)
    (h : ∀ r ∈ rs, Record.isName r.name = true) :
    (Text.lines (codeTextWith special rs)).filter definesForm
      = rs.mapIdx fun i r => formLine (Text.upper r.name) i := by
  have hforms : ((rs.mapIdx fun i r => Item.form r.constName i).flatMap Item.lines).filter
      definesForm = rs.mapIdx fun i r => formLine (Text.upper r.name) i := by
    rw [List.mapIdx_eq_zipIdx_map, List.mapIdx_eq_zipIdx_map, List.filter_flatMap,
      List.flatMap_map, List.map_eq_flatMap]
    rfl
  have htitle : definesForm titleLine = false := rfl
  have hblank : definesForm [] = false := rfl
  rw [codeTextWith, lines_fileText (readable_codeSections special h), codeSections]
  simp only [List.flatMap_cons, List.flatMap_nil, List.filter_cons, List.filter_append,
    List.append_nil, htitle, hblank, Bool.false_eq_true, if_false, hforms,
    filter_lines_count, filter_lines_array]

/-! ## Tables with the same files -/

/-- Records that agree in what the files tell of them are the same. -/
theorem eq_of_files {rs rs' : List Record}
    (h : ∀ r ∈ rs, r.packed.HasEncoding r.encoding)
    (h' : ∀ r ∈ rs', r.packed.HasEncoding r.encoding)
    (hidentities : Identities.of rs = Identities.of rs')
    (hpacked : rs.map (·.packed) = rs'.map (·.packed)) : rs = rs' := by
  have hnames := congrArg Identities.names hidentities
  have hmnemonics := congrArg Identities.mnemonics hidentities
  have hopCounts := congrArg Identities.opCounts hidentities
  simp only [Identities.of] at hnames hmnemonics hopCounts
  clear hidentities
  induction rs generalizing rs' with
  | nil => exact (List.map_eq_nil_iff.mp hnames.symm).symm
  | cons r rs ih =>
    cases rs' with
    | nil => cases hnames
    | cons r' rs' =>
      rw [List.map_cons, List.map_cons, List.cons.injEq] at hnames hmnemonics hopCounts hpacked
      obtain ⟨hr, hrs⟩ := List.forall_mem_cons.mp h
      obtain ⟨hr', hrs'⟩ := List.forall_mem_cons.mp h'
      have hencoding : r.encoding = r'.encoding := by
        rw [hpacked.1] at hr
        exact Enumeration.raw_inj (hr.symm.trans hr')
      have hrecord : r = r' := by
        cases r
        cases r'
        simp_all
      rw [hrecord, ih hrs hrs' hpacked.2 hnames.2 hmnemonics.2 hopCounts.2]

/-- **The generated files tell all of a table.** Whatever characters are escaped in their strings:
each form has its constant, in order, the files are read back to what the table says of the forms,
and no two accepted tables with different records have the same files. -/
theorem reads_back (special : Char → Bool) {src : List Char} {rs : List Record}
    (h : Table.read src = .ok rs) :
    (Text.lines (codeTextWith special rs)).filter definesForm
        = rs.mapIdx (fun i r => formLine (Text.upper r.name) i) ∧
      readCode (codeTextWith special rs) = some (Identities.of rs) ∧
      readTable (tableText rs) = some (rs.map (·.packed)) ∧
      ∀ src' rs', Table.read src' = .ok rs' → codeTextWith special rs' = codeTextWith special rs →
        tableText rs' = tableText rs → rs' = rs := by
  have hname : ∀ {src : List Char} {rs : List Record}, Table.read src = .ok rs →
      ∀ r ∈ rs, Record.isName r.name = true := fun h r => Table.isName_of_mem h
  have hencoding : ∀ {src : List Char} {rs : List Record}, Table.read src = .ok rs →
      ∀ r ∈ rs, r.packed.HasEncoding r.encoding := by
    intro src rs h r hr
    obtain ⟨line, hline⟩ := Table.exists_line h hr
    exact Record.hasEncoding_of_read hline
  have hcode := readCode_codeTextWith special (hname h)
  have htable := readTable_tableText (hname h)
  refine ⟨filter_lines_codeTextWith special (hname h), hcode, htable, ?_⟩
  intro src' rs' h' hsameCode hsameTable
  rw [← hsameCode, readCode_codeTextWith special (hname h')] at hcode
  rw [← hsameTable, readTable_tableText (hname h')] at htable
  exact eq_of_files (hencoding h') (hencoding h) (Option.some.inj hcode) (Option.some.inj htable)

/-- A table whose mnemonics have characters that end a literal or are escaped. -/
def markTable : List Char :=
  "INVALID bad\" legacy op=0\nNop n\\\u0301op legacy op=90\nDeclareByte db legacy op=0".toList

/-- The records of the table. -/
def markRecords : List Record :=
  [{ name := "INVALID".toList, mnemonic := "bad\"".toList, encoding := .legacy, opCount := 0,
     packed := {} },
    { name := "Nop".toList, mnemonic := "n\\\u0301op".toList, encoding := .legacy, opCount := 0,
      packed := { word1 := 0x900000 } },
    { name := "DeclareByte".toList, mnemonic := "db".toList, encoding := .legacy, opCount := 0,
      packed := {} }]

theorem read_markTable : Table.read markTable = .ok markRecords := by
  rfl

/-- The mnemonics are read back, marks and all. -/
theorem reads_back_markTable :
    Table.read markTable = .ok markRecords ∧
      (readCode (codeText markRecords)).map Identities.mnemonics
        = some ["bad\"".toList, "n\\\u0301op".toList, "db".toList] := by
  obtain ⟨-, hcode, -, -⟩ := reads_back Text.isHidden read_markTable
  refine ⟨read_markTable, ?_⟩
  rw [codeText, hcode]
  rfl

end Generated

end OpcodeForms
