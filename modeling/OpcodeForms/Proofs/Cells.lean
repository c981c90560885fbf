import OpcodeForms.CommandLine.Sheet
import OpcodeForms.Proofs.Grammar
import OpcodeForms.Proofs.InstructionSyntax
import OpcodeForms.Proofs.JoinedFields
import OpcodeForms.Proofs.Lossless
import OpcodeForms.Proofs.OpcodeSyntax
import OpcodeForms.Proofs.Resolving

/-!
# Cells and their characters

The rows of a sheet are the same in both formats (`Sheet.rows`). What they show of a form is made of
fixed texts, of digits, and of the name and the mnemonic of the form. So control characters can only
come from the name or the mnemonic (`Column.mem_of_mem_cell`), and in a table from a mnemonic alone,
which has no blanks (`Catalogue.mem_of_mem_cell`). Among them are those that end lines and the one
that begins escape sequences.
-/

namespace OpcodeForms

open Enumeration (text)

namespace Text

variable {c : Char} {s t : List Char} {ws : List (List Char)} {n : Nat}

/-- The text has no control characters. -/
def IsPlain (s : List Char) : Prop :=
  ∀ c ∈ s, 0x20 ≤ c.toNat

instance (s : List Char) : Decidable (IsPlain s) :=
  List.decidableBAll _ s

theorem IsPlain.not_mem (h : IsPlain s) (hc : c.toNat < 0x20) : c ∉ s :=
  fun hmem => Nat.not_lt_of_le (h c hmem) hc

theorem isPlain_append : IsPlain (s ++ t) ↔ IsPlain s ∧ IsPlain t :=
  List.forall_mem_append

theorem isPlain_cons : IsPlain (c :: s) ↔ 0x20 ≤ c.toNat ∧ IsPlain s :=
  List.forall_mem_cons

theorem isPlain_intercalate (ht : IsPlain t) (h : ∀ s ∈ ws, IsPlain s) :
    IsPlain (t.intercalate ws) := by
  intro c hc
  rcases mem_intercalate hc with hc | ⟨s, hs, hc⟩
  · exact ht c hc
  · exact h s hs c hc

theorem isPlain_decimal (n : Nat) : IsPlain (decimal n) := by
  intro c hc
  have hdigit := isDigit_of_mem_decimal hc
  simp only [Char.isDigit, Bool.and_eq_true, decide_eq_true_eq] at hdigit
  exact Nat.le_trans (by decide) (UInt32.le_iff_toNat_le.mp hdigit.1)

theorem isPlain_hexUpper (width n : Nat) : IsPlain (hexUpper width n) := by
  have key : IsPlain upperDigits := by decide
  exact fun c hc => key c (mem_upperDigits hc)

end Text

open Text

namespace Info

variable {info : Info} {w : List Char}

/-! ## Opcode strings -/

theorem isPlain_pick {ws : List (Bool × String)} (h : ∀ w ∈ ws.map (·.2.toList), IsPlain w) :
    ∀ w ∈ pick ws, IsPlain w := by
  intro w hw
  obtain ⟨x, hx, rfl⟩ := exists_of_mem_pick hw
  exact h _ (List.mem_map_of_mem hx)

theorem isPlain_hexByte (n : Nat) : IsPlain (opcodeBytes.hexByte n) :=
  isPlain_hexUpper 2 n

theorem isPlain_opcodeBytes (info : Info) : ∀ w ∈ info.opcodeBytes, IsPlain w := by
  intro w hw
  obtain ⟨n, rfl⟩ := exists_hexByte hw
  exact isPlain_hexByte n

theorem isPlain_groupWord (g : Nat) : IsPlain (groupWord g) :=
  isPlain_cons.mpr ⟨by decide, isPlain_decimal g⟩

theorem isPlain_lengthPart (info : Info) : IsPlain info.lengthPart := by
  unfold lengthPart lengthInBits
  split
  · split
    · decide
    · exact isPlain_decimal _
  · split
    · decide
    · decide
    · exact isPlain_cons.mpr ⟨by decide, isPlain_decimal _⟩
    · exact isPlain_decimal _

theorem isPlain_wPart (info : Info) : IsPlain info.wPart := by
  unfold wPart
  split
  · decide
  · exact isPlain_cons.mpr ⟨by decide, isPlain_decimal _⟩

theorem isPlain_vectorParts (info : Info) : ∀ w ∈ info.vectorParts, IsPlain w := by
  have hname : ∀ e : Encoding, IsPlain (vectorName e).toList := by decide
  have hprefix : ∀ m : MandatoryPrefix, ∀ w ∈ vectorPrefixPart m, IsPlain w := by decide
  have hmap : ∀ m : OpcodeMap, IsPlain (mapPart m).toList := by decide
  simp only [vectorParts, List.forall_mem_append, List.forall_mem_cons]
  exact ⟨⟨⟨hname _, isPlain_lengthPart info, by simp⟩, hprefix _⟩, hmap _, isPlain_wPart info,
    by simp⟩

theorem isPlain_vectorWords (info : Info) : ∀ w ∈ info.vectorWords, IsPlain w := by
  have hoperand : ∀ w ∈ operandNames.map String.toList, IsPlain w := by decide
  rw [vectorWords_eq]
  simp only [List.forall_mem_append, List.forall_mem_cons]
  refine ⟨isPlain_intercalate (by decide) (isPlain_vectorParts info), isPlain_opcodeBytes info,
    ?_, fun w hw => hoperand w (mem_operandWords hw)⟩
  intro w hw
  obtain ⟨n, rfl⟩ := mem_groupWords hw
  exact isPlain_groupWord n

theorem isPlain_legacyFront (info : Info) : ∀ w ∈ info.legacyFront, IsPlain w := by
  have hprefix : ∀ m : MandatoryPrefix, ∀ w ∈ prefixWord m, IsPlain w := by decide
  have hoperand : ∀ s : Width, ∀ w ∈ operandSizeWord s, IsPlain w := by decide
  have haddress : ∀ s : Width, ∀ w ∈ addressSizeWord s, IsPlain w := by decide
  have hescape : ∀ m : OpcodeMap, ∀ w ∈ escapeWord m, IsPlain w := by decide
  have hlast : IsPlain ((opcodeBytes info).getLast?.getD []) := by
    unfold opcodeBytes
    split <;> exact isPlain_hexByte _
  have hregister : IsPlain info.opcodeRegister := by
    unfold opcodeRegister
    split
    · decide
    · split <;> decide
  simp only [legacyFront, List.forall_mem_append, List.forall_mem_cons]
  exact ⟨⟨⟨⟨⟨⟨isPlain_pick (by simp; decide), hprefix _⟩, hoperand _⟩, haddress _⟩, hescape _⟩,
    fun w hw => isPlain_opcodeBytes info w (List.dropLast_subset _ hw)⟩,
    isPlain_append.mpr ⟨hlast, hregister⟩, by simp⟩

theorem isPlain_legacyBack (info : Info) : ∀ w ∈ info.legacyBack, IsPlain w := by
  have himmediate : ∀ w ∈ info.immediateWords, IsPlain w := by
    have key : ∀ k : OperandKind, ∀ w ∈ immediateWord k, IsPlain w := by decide
    intro w hw
    obtain ⟨k, -, hk⟩ := List.mem_filterMap.mp hw
    exact key k w hk
  rcases info.legacyBack_cases with ⟨g, hback⟩ | hback | hback <;> rw [hback]
  · exact List.forall_mem_cons.mpr ⟨isPlain_groupWord g, himmediate⟩
  · exact List.forall_mem_cons.mpr ⟨by decide, himmediate⟩
  · exact himmediate

/-- **The opcode string of an instruction has no control characters.** -/
theorem isPlain_opcodeText (h : info.isInstruction = true) : IsPlain info.opcodeText := by
  rw [opcodeText, if_pos h]
  refine isPlain_intercalate (by decide) ?_
  unfold opcodeWords
  split
  · rw [legacyWords]
    exact List.forall_mem_append.mpr ⟨isPlain_legacyFront info, isPlain_legacyBack info⟩
  · exact isPlain_vectorWords info
  · exact isPlain_vectorWords info
  · exact isPlain_vectorWords info
  · simp only [threeDNowWords, List.forall_mem_cons]
    exact ⟨by decide, by decide, by decide, isPlain_hexUpper 2 _, by simp⟩

end Info

/-! ## Instruction strings -/

theorem OperandPiece.isPlain_text (piece : OperandPiece) : IsPlain piece.text := by
  have hdecoration : ∀ d : Decoration, IsPlain d.text := by
    intro d
    cases d <;> decide
  have hshape : ∀ n, IsPlain (piece.kind.shape.write n) := by
    intro n
    cases piece.kind <;>
      simp only [OperandKind.shape, OperandText.write, isPlain_append, isPlain_decimal] <;> decide
  refine isPlain_append.mpr ⟨hshape _, ?_⟩
  intro c hc
  obtain ⟨d, -, hc⟩ := List.mem_flatMap.mp hc
  exact hdecoration d c hc

namespace Info

variable {info : Info} {c : Char}

theorem mem_of_mem_brackets {s : List Char} (hc : c.toNat < 0x20)
    (h : c ∈ ['<'] ++ s ++ ['>']) : c ∈ s := by
  have hopening : IsPlain ['<'] := by decide
  have hclosing : IsPlain ['>'] := by decide
  rw [List.mem_append, List.mem_append] at h
  rcases h with (h | h) | h
  · exact absurd h (hopening.not_mem hc)
  · exact h
  · exact absurd h (hclosing.not_mem hc)

theorem mem_of_mem_opcodeText (hc : c.toNat < 0x20) (h : c ∈ info.opcodeText) :
    c ∈ info.form.mnemonic := by
  cases hi : info.isInstruction with
  | true => exact absurd h ((isPlain_opcodeText hi).not_mem hc)
  | false => exact mem_of_mem_brackets hc (opcodeText_of_pseudo hi ▸ h)

theorem mem_of_mem_instructionText (hc : c.toNat < 0x20) (h : c ∈ info.instructionText) :
    c ∈ info.form.mnemonic := by
  cases hi : info.isInstruction with
  | true =>
    have hoperands : IsPlain (if info.pieces = [] then []
        else ' ' :: ", ".toList.intercalate (info.pieces.map (·.text))) := by
      split
      · decide
      · refine isPlain_cons.mpr ⟨by decide, isPlain_intercalate (by decide) ?_⟩
        exact List.forall_mem_map.mpr fun piece _ => piece.isPlain_text
    rw [instructionText_eq hi, List.mem_append] at h
    rcases h with h | h
    · exact mem_of_mem_upper (Nat.lt_trans hc (by decide)) h
    · exact absurd h (hoperands.not_mem hc)
  | false => exact mem_of_mem_brackets hc (instructionText_of_pseudo hi ▸ h)

end Info

/-! ## Cells -/

namespace CommandLine

namespace Sheet

/-- The cells of a form, in the order of the columns. -/
def cells (s : Sheet) (info : Info) : List (List Char) :=
  s.columns.map fun col => col.cell info

/-- The rows of a sheet: its titles, if they are shown, and the cells of its forms. -/
def rows (s : Sheet) : List (List (List Char)) :=
  (if s.header then [s.columns.map Column.title] else []) ++ s.infos.map s.cells

end Sheet

end CommandLine

namespace CommandLine.Column

variable {c : Char} {info : Info}

theorem isPlain_title (col : Column) : IsPlain col.title := by
  cases col <;> decide

theorem isPlain_propertyNames {sep : Char} {names : List (String × Property)}
    (hsep : IsPlain [sep]) (h : ∀ w ∈ names.map (·.1.toList), IsPlain w) :
    IsPlain (propertyNames info sep names) := by
  refine isPlain_intercalate hsep fun w hw => ?_
  obtain ⟨n, hn, rfl⟩ := List.mem_map.mp hw
  exact h _ (List.mem_map_of_mem (List.mem_filter.mp hn).1)

/-- **A control character in a cell is one of the name or of the mnemonic.** -/
theorem mem_of_mem_cell (hc : c.toNat < 0x20) (col : Column) (h : c ∈ col.cell info) :
    c ∈ info.form.name ∨ c ∈ info.form.mnemonic := by
  have hplain : ∀ {s : List Char}, IsPlain s → c ∈ s →
      c ∈ info.form.name ∨ c ∈ info.form.mnemonic := fun hs hmem =>
    absurd hmem (hs.not_mem hc)
  cases col with
  | code => exact hplain (isPlain_decimal _) h
  | name => exact .inl h
  | encoding => exact hplain ((by decide : ∀ e : Encoding, IsPlain (text e)) _) h
  | opcode => exact .inr (Info.mem_of_mem_opcodeText hc h)
  | instruction => exact .inr (Info.mem_of_mem_instructionText hc h)
  | modes => exact hplain (isPlain_propertyNames (by decide) (by decide)) h
  | table => exact hplain ((by decide : ∀ m : OpcodeMap, IsPlain (text m)) _) h
  | prefixes => exact hplain (isPlain_propertyNames (by decide) (by decide)) h
  | tuple => exact hplain ((by decide : ∀ t : TupleType, IsPlain (text t)) _) h
  | operands =>
    have hkind : ∀ k : OperandKind, IsPlain (text k) := by decide
    refine hplain (isPlain_intercalate (by decide) ?_) h
    exact List.forall_mem_map.mpr fun k _ => hkind k

end CommandLine.Column

/-! ## The forms of a table -/

/-- The characters of a mnemonic. -/
theorem Record.mem_of_mem_mnemonic {line : List Char} {r : Record} {c : Char}
    (h : read line = .ok r) (hc : c ∈ r.mnemonic) : isBlank c = false ∧ c ∈ line := by
  obtain ⟨name, mnemonic, e, ws, as, hwords, -, -, rfl⟩ := exists_attributes h
  have hmem : mnemonic ∈ words line := hwords ▸ by simp
  exact ⟨(isWord_of_mem_words hmem).2 c hc, mem_of_mem_words hmem hc⟩

theorem Record.isPlain_of_isName {name : List Char} (h : isName name = true) : IsPlain name := by
  intro c hc
  rcases isAlphanum_of_isName h hc with hc | rfl
  · rcases Record.isAlphanum_iff.mp hc with (⟨hc, -⟩ | ⟨hc, -⟩) | ⟨hc, -⟩ <;>
      exact Nat.le_trans (by decide) (UInt32.le_iff_toNat_le.mp hc)
  · decide

variable {src : List Char} {rs : List Record}

theorem Table.mem_of_mem_mnemonic {r : Record} {c : Char} (h : read src = .ok rs) (hr : r ∈ rs)
    (hc : c ∈ r.mnemonic) : isBlank c = false ∧ c ∈ src := by
  obtain ⟨entry, hentry, hread⟩ := exists_of_forall₂_right (read_eq_ok_iff.mp h).accepted hr
  obtain ⟨line, hline, rfl⟩ := List.mem_map.mp (List.mem_filter.mp hentry).1
  obtain ⟨hblank, hmem⟩ := Record.mem_of_mem_mnemonic hread hc
  exact ⟨hblank, mem_of_mem_lines hline (mem_of_mem_before (mem_of_mem_trim hmem))⟩

/-- **A control character in a cell of a table is not blank and stands in the source.** -/
theorem Catalogue.mem_of_mem_cell {infos : List Info} {info : Info} {c : Char}
    (h : Table.read src = .ok rs) (hinfos : (ofRecords rs).infos = .ok infos)
    (hinfo : info ∈ infos) (hc : c.toNat < 0x20) {col : CommandLine.Column}
    (hcell : c ∈ col.cell info) : isBlank c = false ∧ c ∈ src := by
  obtain ⟨-, -, -, -, -, infos', hinfos', hlength, hresolves⟩ := resolves_of_read h
  obtain rfl : infos' = infos := Except.ok.inj (hinfos'.symm.trans hinfos)
  obtain ⟨i, hi, rfl⟩ := List.getElem_of_mem hinfo
  have hr : rs[i]? = some rs[i] := List.getElem?_eq_getElem (hlength ▸ hi)
  have hmem : rs[i] ∈ rs := List.getElem_mem _
  have hinfo := hresolves i _ _ hr (List.getElem?_eq_getElem hi)
  rcases CommandLine.Column.mem_of_mem_cell hc col hcell with hname | hmnemonic
  · have hplain := Record.isPlain_of_isName (Table.isName_of_mem h hmem)
    exact absurd (hinfo.name ▸ hname) (hplain.not_mem hc)
  · exact Table.mem_of_mem_mnemonic h hmem (hinfo.mnemonic ▸ hmnemonic)

/-- The cells of a table have no line ends. -/
theorem CommandLine.Column.isUnbroken_cell {infos : List Info} {info : Info}
    (h : Table.read src = .ok rs) (hinfos : (Catalogue.ofRecords rs).infos = .ok infos)
    (hinfo : info ∈ infos) (col : Column) : IsUnbroken (col.cell info) := by
  have hblank : ∀ c, c.toNat < 0x20 → isBlank c = true → c ∉ col.cell info := by
    intro c hc hb hmem
    rw [(Catalogue.mem_of_mem_cell h hinfos hinfo hc hmem).1] at hb
    cases hb
  exact ⟨hblank '\n' (by decide) (by decide), hblank '\r' (by decide) (by decide)⟩

theorem CommandLine.Column.isUnbroken_title (col : Column) : IsUnbroken col.title := by
  cases col <;> decide

end OpcodeForms
