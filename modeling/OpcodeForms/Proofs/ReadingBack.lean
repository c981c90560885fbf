import OpcodeForms.Generated.Text
import OpcodeForms.Proofs.LineEnds
import OpcodeForms.Proofs.Literals
import OpcodeForms.Proofs.Resolving

/-!
# Reading generated files back

A reader for the two generated files, by the rules of their language as far as the files use it:
items over lines (`readItems`), and the values in the entries of arrays. The reader knows nothing of
the tables that the files are made from.

It reads back what was written (`readFile_fileText` for the items, `readCode_codeTextWith` and
`readTable_tableText` for the values), so nothing of a table is lost (`reads_back`).
-/

namespace OpcodeForms.Generated

/-! ## Cutting lines -/

/-- The text after `p`, if it begins with it. -/
def expect (p : String) (s : List Char) : Option (List Char) :=
  p.toList.isPrefixOf? s

/-- The text before the first `c`, and the text after it and after `r`, which must follow it. -/
def upTo (c : Char) (r : String) (s : List Char) : Option (List Char × List Char) :=
  (Text.after? c s).bind fun t => (expect r t).map fun t => (Text.before c s, t)

variable {p r : String} {c : Char} {s t : List Char}

theorem expect_append (p : String) (s : List Char) : expect p (p.toList ++ s) = some s :=
  List.isPrefixOf?_eq_some_iff_append_eq.mpr rfl

theorem upTo_append (hs : c ∉ s) (r : String) (t : List Char) :
    upTo c r (s ++ c :: (r.toList ++ t)) = some (s, t) := by
  rw [upTo, Text.after?_append_cons hs, Text.before_append_cons hs, Option.bind_some,
    expect_append]
  rfl

/-! ## Items -/

/-- An array whose entries are being read. -/
structure OpenArray where
  name : String
  type : String
  length : String
  entries : List (List Char)

/-- Reads the constant of a form. -/
def readForm (line : List Char) : Option Item := do
  let s ← expect "pub const " line
  let (name, s) ← upTo ':' " Code = Code(" s
  let (i, s) ← upTo ')' ";" s
  if s = [] then (Text.decimalLiteral? i).map (.form name) else none

/-- Reads the number of forms. -/
def readCount (line : List Char) : Option Item := do
  let s ← expect "pub(crate) const CODE_COUNT: usize = " line
  let (n, s) ← upTo ';' "" s
  if s = [] then (Text.decimalLiteral? n).map .count else none

/-- Reads the first line of an array. -/
def readOpening (line : List Char) : Option OpenArray := do
  let s ← expect "pub(crate) static " line
  let (name, s) ← upTo ':' " [" s
  let (type, s) ← upTo ';' " " s
  let (length, s) ← upTo ']' " = [" s
  if s = [] then some ⟨String.ofList name, String.ofList type, String.ofList length, []⟩ else none

/-- Whether nothing stands on the line but a comment. -/
def isComment (line : List Char) : Bool :=
  line.isEmpty || "//".toList.isPrefixOf line

/-- Reads items, with the rest of the array `a` before them if there is one. -/
def readItems (a : Option OpenArray) : List (List Char) → Option (List Item)
  | [] => if a.isNone then some [] else none
  | line :: lines =>
    match a with
    | none =>
      if isComment line then readItems none lines
      else
        match readOpening line with
        | some a => readItems (some a) lines
        | none =>
          ((readForm line).or (readCount line)).bind fun item =>
            (readItems none lines).map (item :: ·)
    | some a =>
      if line = "];".toList then
        (readItems none lines).map (.array a.name a.type a.length a.entries :: ·)
      else
        (expect "    " line).bind fun entry =>
          readItems (some { a with entries := a.entries ++ [entry] }) lines

/-- Reads a generated file. -/
def readFile (text : List Char) : Option (List Item) :=
  readItems none (Text.lines text)

/-- The texts in the item do not end early. -/
def Item.Plain : Item → Prop
  | .form name _ => ':' ∉ name
  | .count _ => True
  | .array name type length _ => ':' ∉ name.toList ∧ ';' ∉ type.toList ∧ ']' ∉ length.toList

variable {name type length : String} {entries : List (List Char)} {ls : List (List Char)}
  {item : Item} {n : Nat}

theorem readForm_line {name : List Char} (hname : ':' ∉ name) (i : Nat) :
    readForm (formLine name i) = some (.form name i) := by
  have hline : formLine name i = "pub const ".toList ++ (name ++ ':' :: (" Code = Code(".toList
      ++ (Text.decimal i ++ ')' :: (";".toList ++ [])))) := by
    unfold formLine
    simp
  rw [hline, readForm, expect_append]
  simp only [Option.bind_eq_bind, Option.bind_some, upTo_append hname,
    upTo_append (Text.not_mem_decimal (c := ')') rfl), Text.decimalLiteral?_decimal]
  rfl

theorem readCount_line (n : Nat) :
    readCount ("pub(crate) const ".toList ++ Item.countName.toList ++ ": usize = ".toList
      ++ Text.decimal n ++ ";".toList) = some (.count n) := by
  have hline : "pub(crate) const ".toList ++ Item.countName.toList ++ ": usize = ".toList
      ++ Text.decimal n ++ ";".toList = "pub(crate) const CODE_COUNT: usize = ".toList
        ++ (Text.decimal n ++ ';' :: ("".toList ++ [])) := by
    simp [Item.countName]
  rw [hline, readCount, expect_append]
  simp only [Option.bind_eq_bind, Option.bind_some,
    upTo_append (Text.not_mem_decimal (c := ';') rfl), Text.decimalLiteral?_decimal]
  rfl

theorem readOpening_line (hname : ':' ∉ name.toList) (htype : ';' ∉ type.toList)
    (hlength : ']' ∉ length.toList) :
    readOpening ("pub(crate) static ".toList ++ name.toList ++ ": [".toList ++ type.toList
      ++ "; ".toList ++ length.toList ++ "] = [".toList) = some ⟨name, type, length, []⟩ := by
  have hline : "pub(crate) static ".toList ++ name.toList ++ ": [".toList ++ type.toList
      ++ "; ".toList ++ length.toList ++ "] = [".toList
        = "pub(crate) static ".toList ++ (name.toList ++ ':' :: (" [".toList ++ (type.toList
          ++ ';' :: (" ".toList ++ (length.toList ++ ']' :: (" = [".toList ++ [])))))) := by
    simp
  rw [hline, readOpening, expect_append]
  simp only [Option.bind_eq_bind, Option.bind_some, upTo_append hname, upTo_append htype,
    upTo_append hlength, String.ofList_toList]
  rfl

/-- The entries of an array are read up to its end. -/
theorem readItems_entries (a : OpenArray) (entries ls : List (List Char)) :
    readItems (some a) (entries.map ("    ".toList ++ ·) ++ "];".toList :: ls)
      = (readItems none ls).map (.array a.name a.type a.length (a.entries ++ entries) :: ·) := by
  induction entries generalizing a with
  | nil => simp [readItems]
  | cons entry entries ih =>
    have hne : "    ".toList ++ entry ≠ "];".toList := by
      intro h
      cases h
    rw [List.map_cons, List.cons_append, readItems]
    simp only [if_neg hne, expect_append, Option.bind_some, ih, List.append_assoc,
      List.singleton_append]

/-- **An item is read back from its lines.** -/
theorem readItems_lines (h : item.Plain) (ls : List (List Char)) :
    readItems none (item.lines ++ ls) = (readItems none ls).map (item :: ·) := by
  cases item with
  | form name i =>
    have hline := readForm_line h i
    rw [Item.lines, List.singleton_append, readItems]
    have hcomment : isComment (formLine name i) = false := rfl
    have hopening : readOpening (formLine name i) = none := rfl
    simp only [hcomment, hopening, hline, Option.some_or, Option.bind_some]
    rfl
  | count n =>
    have hline := readCount_line n
    rw [Item.lines, List.singleton_append, readItems]
    generalize hs : "pub(crate) const ".toList ++ Item.countName.toList ++ ": usize = ".toList
      ++ Text.decimal n ++ ";".toList = s at hline ⊢
    have hcomment : isComment s = false := by
      rw [← hs]
      rfl
    have hopening : readOpening s = none := by
      rw [← hs]
      rfl
    have hform : readForm s = none := by
      rw [← hs]
      rfl
    simp only [hcomment, hopening, hform, hline, Option.none_or, Option.bind_some]
    rfl
  | array name type length entries =>
    obtain ⟨hname, htype, hlength⟩ := h
    have hline := readOpening_line hname htype hlength
    rw [Item.lines, List.cons_append, List.cons_append, List.append_assoc (entries.map _),
      List.singleton_append, readItems]
    generalize hs : "pub(crate) static ".toList ++ name.toList ++ ": [".toList ++ type.toList
      ++ "; ".toList ++ length.toList ++ "] = [".toList = s at hline ⊢
    have hcomment : isComment s = false := by
      rw [← hs]
      rfl
    simp only [hcomment, hline]
    exact readItems_entries ⟨name, type, length, []⟩ entries ls

theorem readItems_flatMap_lines {items : List Item} (h : ∀ item ∈ items, item.Plain)
    (ls : List (List Char)) :
    readItems none (items.flatMap Item.lines ++ ls) = (readItems none ls).map (items ++ ·) := by
  induction items with
  | nil => simp
  | cons item items ih =>
    obtain ⟨hitem, hitems⟩ := List.forall_mem_cons.mp h
    rw [List.flatMap_cons, List.append_assoc, readItems_lines hitem, ih hitems, Option.map_map]
    rfl

theorem readItems_sections {sections : List (List Item)}
    (h : ∀ items ∈ sections, ∀ item ∈ items, item.Plain) :
    readItems none (sections.flatMap fun items => [] :: items.flatMap Item.lines)
      = some sections.flatten := by
  induction sections with
  | nil => rfl
  | cons items sections ih =>
    obtain ⟨hitems, hsections⟩ := List.forall_mem_cons.mp h
    rw [List.flatMap_cons, List.cons_append, readItems]
    simp only [isComment, List.isEmpty_nil, Bool.true_or, if_true]
    rw [readItems_flatMap_lines hitems, ih hsections]
    rfl

/-- The item is written in lines, and its texts do not end early. -/
structure Item.Readable (item : Item) : Prop where
  plain : item.Plain
  unbroken : ∀ line ∈ item.lines, Text.IsUnbroken line

/-- The lines of a file. -/
theorem lines_fileText {sections : List (List Item)}
    (h : ∀ items ∈ sections, ∀ item ∈ items, item.Readable) :
    Text.lines (fileText sections)
      = titleLine :: sections.flatMap fun items => [] :: items.flatMap Item.lines := by
  have hall : ∀ line ∈ titleLine :: sections.flatMap fun items => [] :: items.flatMap Item.lines,
      Text.IsUnbroken line := by
    intro line hline
    rcases List.mem_cons.mp hline with rfl | hline
    · decide
    · obtain ⟨items, hitems, hline⟩ := List.mem_flatMap.mp hline
      rcases List.mem_cons.mp hline with rfl | hline
      · decide
      · obtain ⟨item, hitem, hline⟩ := List.mem_flatMap.mp hline
        exact (h items hitems item hitem).unbroken line hline
  exact Text.lines_unlines_of_isUnbroken hall

/-- **The items of a file are read back.** -/
theorem readFile_fileText {sections : List (List Item)}
    (h : ∀ items ∈ sections, ∀ item ∈ items, item.Readable) :
    readFile (fileText sections) = some sections.flatten := by
  have htitle : isComment titleLine = true := rfl
  rw [readFile, lines_fileText h, readItems]
  simp only [htitle, if_true]
  exact readItems_sections fun items hitems item hitem => (h items hitems item hitem).plain

/-! ## Values -/

/-- Reads a string of a form. -/
def stringValue? (entry : List Char) : Option (List Char) :=
  match Text.readString entry with
  | some (s, [',']) => some s
  | _ => none

/-- Reads the number of operands of a form. A comment may follow. -/
def opCountValue? (entry : List Char) : Option Nat := do
  let (n, s) ← upTo ',' "" entry
  let _ ← expect " //" s
  Text.decimalLiteral? n

/-- Reads the packed record of a form. A comment may follow. -/
def packedValue? (entry : List Char) : Option Packed := do
  let s ← expect "PackedOpCode::new(" entry
  let (word1, s) ← upTo ',' " " s
  let (word2, s) ← upTo ',' " " s
  let (word3, s) ← upTo ')' "," s
  let _ ← expect " //" s
  return {
    word1 := ← Text.hexLiteral? word1
    word2 := ← Text.hexLiteral? word2
    word3 := ← Text.hexLiteral? word3 }

theorem stringValue?_stringEntry (special : Char → Bool) (s : List Char) :
    stringValue? (stringEntry special s) = some s := by
  rw [stringValue?, stringEntry, Text.readString_quoteWith]
  rfl

theorem opCountValue?_opCountEntry (r : Record) :
    opCountValue? (opCountEntry r) = some r.opCount := by
  have hentry : opCountEntry r = Text.decimal r.opCount
      ++ ',' :: ("".toList ++ (" //".toList ++ (' ' :: r.name))) := by
    simp [opCountEntry, noted]
  rw [hentry, opCountValue?, upTo_append (Text.not_mem_decimal rfl)]
  simp only [Option.bind_eq_bind, Option.bind_some, expect_append]
  exact Text.decimalLiteral?_decimal r.opCount

theorem not_mem_wordText {w : UInt32} (h : Text.digitValue? c = none) (hc : c ≠ 'x') :
    c ∉ wordText w := by
  intro hmem
  rcases List.mem_append.mp hmem with hmem | hmem
  · rcases List.mem_pair.mp (show c ∈ ['0', 'x'] from hmem) with rfl | rfl
    · cases h
    · exact hc rfl
  · obtain ⟨d, hd⟩ := Text.digitValue?_of_mem_hexLower hmem
    rw [h] at hd
    cases hd

theorem hexLiteral?_wordText (w : UInt32) : Text.hexLiteral? (wordText w) = some w :=
  Text.hexLiteral?_hexLower 8 w

theorem packedValue?_packedEntry (r : Record) : packedValue? (packedEntry r) = some r.packed := by
  have hcomma : ∀ w : UInt32, ',' ∉ wordText w := fun w => not_mem_wordText rfl (by decide)
  have hparen : ∀ w : UInt32, ')' ∉ wordText w := fun w => not_mem_wordText rfl (by decide)
  have hentry : packedEntry r = "PackedOpCode::new(".toList
      ++ (wordText r.packed.word1 ++ ',' :: (" ".toList
        ++ (wordText r.packed.word2 ++ ',' :: (" ".toList
          ++ (wordText r.packed.word3 ++ ')' :: (",".toList
            ++ (" //".toList ++ (' ' :: r.name)))))))) := by
    simp [packedEntry, noted]
  rw [hentry, packedValue?, expect_append]
  simp only [Option.bind_eq_bind, Option.bind_some, upTo_append (hcomma _),
    upTo_append (hparen _), expect_append, hexLiteral?_wordText]
  rfl

end OpcodeForms.Generated
