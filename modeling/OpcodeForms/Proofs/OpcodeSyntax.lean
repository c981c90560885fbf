import OpcodeForms.Proofs.Cutting
import OpcodeForms.Proofs.Invariants
import OpcodeForms.Proofs.Literals

/-!
# Reading opcode strings

An opcode string is put together from parts that can be missing, with two separators. Still it can
be read in one way only. The first two characters tell a vector prefix from all else, and what
follows the first slash tells the 3DNow! forms from the legacy forms. A vector opcode is cut at its
spaces and at the points of its first word. The pieces that can be missing are known by their form.

`Info.SameSyntax` lists what two vector opcodes have in common if they are written in the same way
(`Info.opcodeText_uniquely_readable`).
-/

namespace OpcodeForms

/-! ## Pieces of texts -/

namespace Text

variable {m n : Nat} {c : Char}

theorem exists_digitChar (h : c ∈ Nat.toDigits 16 n) : ∃ d < 16, c = Nat.digitChar d := by
  induction n using Nat.strongRecOn with
  | ind n ih =>
    rw [Nat.toDigits_eq_if (by decide)] at h
    split at h
    · next hn => exact ⟨n, hn, List.mem_singleton.mp h⟩
    · next hn =>
      rcases List.mem_append.mp h with h | h
      · exact ih (n / 16) (by omega) h
      · exact ⟨n % 16, Nat.mod_lt n (by decide), List.mem_singleton.mp h⟩

/-- The digits of hexadecimal numbers in upper case. -/
def upperDigits : List Char :=
  "0123456789ABCDEF".toList

theorem mem_upperDigits {width : Nat} (h : c ∈ hexUpper width n) : c ∈ upperDigits := by
  obtain ⟨d, hd, rfl⟩ := List.mem_map.mp h
  rcases List.mem_append.mp hd with hd | hd
  · rw [List.eq_of_mem_replicate hd]
    decide
  · obtain ⟨k, hk, rfl⟩ := exists_digitChar hd
    have key : ∀ k < 16, (Nat.digitChar k).toUpper ∈ upperDigits := by decide
    exact key k hk

theorem not_mem_hexUpper {width : Nat} (hc : c ∉ upperDigits) : c ∉ hexUpper width n :=
  fun h => hc (mem_upperDigits h)

theorem le_length_hexUpper (width n : Nat) : width ≤ (hexUpper width n).length := by
  rw [hexUpper, List.length_map, hexLower, padLeft, List.length_append, List.length_replicate]
  omega

/-- A byte can be read off its two digits. -/
theorem hexUpper_byte_inj (hm : m < 256) (hn : n < 256) (h : hexUpper 2 m = hexUpper 2 n) :
    m = n := by
  have key : ∀ k < 256, hexAtMost? 255 (hexUpper 2 k) = some k := by decide +kernel
  have hread := congrArg (hexAtMost? 255) h
  rw [key m hm, key n hn] at hread
  exact Option.some.inj hread

end Text

/-- Two lists can be told apart in a concatenation by a condition that holds of the elements of
the one and of none of the other. -/
theorem append_inj_of_forall {α : Type} {P : α → Bool} {l l' r r' : List α}
    (hl : ∀ a ∈ l, P a = true) (hl' : ∀ a ∈ l', P a = true) (hr : ∀ a ∈ r, P a = false)
    (hr' : ∀ a ∈ r', P a = false) (h : l ++ r = l' ++ r') : l = l' ∧ r = r' := by
  have hfilter : ∀ {l r : List α}, (∀ a ∈ l, P a = true) → (∀ a ∈ r, P a = false) →
      (l ++ r).filter P = l := by
    intro l r hl hr
    rw [List.filter_append, List.filter_eq_self.mpr hl,
      List.filter_eq_nil_iff.mpr fun a ha => by simp [hr a ha], List.append_nil]
  have hleft : l = l' := by rw [← hfilter hl hr, h, hfilter hl' hr']
  exact ⟨hleft, List.append_cancel_left (hleft ▸ h)⟩

namespace Info

variable {form form' : Form} {p p' : Packed} {info info' : Info} {w : List Char}

/-! ## What a vector opcode shows -/

/-- The length as a vector opcode shows it. There is none if it is ignored. -/
def shownLength (info : Info) : Option (LengthKind × Nat) :=
  if info.encoding = .evex ∧ info.has .lig = true ∨ info.lengthKind = .none then none
  else some (info.lengthKind, info.length)

/-- Whether a vector opcode shows that operands are encoded in the ModRM byte. -/
def showsModrm (info : Info) : Bool :=
  !info.usesVsib && !info.isGroup && info.usesModrm

/-- Two decoded records agree on all that a vector opcode shows. -/
structure SameSyntax (info info' : Info) : Prop where
  encoding : info.encoding = info'.encoding
  length : info.shownLength = info'.shownLength
  mandatoryPrefix : info.mandatoryPrefix = info'.mandatoryPrefix
  table : info.table = info'.table
  wig : info.has .wig = info'.has .wig
  w : info.w = info'.w
  opcode : info.opcode = info'.opcode
  groupIndex : info.groupIndex = info'.groupIndex
  vsib : info.usesVsib = info'.usesVsib
  modrm : info.showsModrm = info'.showsModrm
  is4 : info.operands.any (·.isIs4) = info'.operands.any (·.isIs4)
  immediate : info.operands.contains .imm8 = info'.operands.contains .imm8

/-! ## The first word -/

/-- The text of a shown length. -/
def lengthText : Option (LengthKind × Nat) → List Char
  | some (.lz, _) => "LZ".toList
  | some (.l0, n) => 'L' :: Text.decimal n
  | some (.l128, n) => Text.decimal (128 <<< n)
  | some (.none, _) | none => "LIG".toList

/-- The lengths that are shown. -/
def shownLengths : List (Option (LengthKind × Nat)) :=
  [none, some (.lz, 0), some (.l0, 0), some (.l0, 1), some (.l128, 0), some (.l128, 1),
    some (.l128, 2), some (.l128, 3)]

theorem lengthText_inj : ∀ x ∈ shownLengths, ∀ y ∈ shownLengths,
    lengthText x = lengthText y → x = y := by
  decide

theorem Decodes.lengthPart_eq (h : Decodes form p info) :
    info.lengthPart = lengthText info.shownLength := by
  unfold lengthPart shownLength
  by_cases he : info.encoding = .evex
  · rw [if_pos he, h.lengthKind_of_evex he]
    cases info.has .lig <;> simp [he, lengthText, lengthInBits]
  · rw [if_neg he]
    cases info.lengthKind <;> simp [he, lengthText, lengthInBits]

theorem Decodes.shownLength_mem (h : Decodes form p info) : info.shownLength ∈ shownLengths := by
  unfold shownLength
  split
  · decide
  · next hshown =>
    have hkind : info.lengthKind ≠ .none := fun hnone => hshown (.inr hnone)
    cases h with
    | legacy r _ _ heq | threeDNow _ _ _ heq =>
      subst heq
      exact absurd rfl hkind
    | vex r _ _ heq =>
      subst heq
      have key : ∀ l : VexLength, l.shown.1 ≠ .none → some l.shown ∈ shownLengths := by decide
      exact key r.length hkind
    | xop r _ _ heq =>
      subst heq
      have key : ∀ l : XopLength, l.shown.1 ≠ .none → some l.shown ∈ shownLengths := by decide
      exact key r.length hkind
    | evex r _ held heq =>
      subst heq
      have hlt : r.length < 4 := held.length ▸ Layout.Evex.vectorLength.get_lt p.word2
      have key : ∀ n < 4, some (LengthKind.l128, n) ∈ shownLengths := by decide
      exact key r.length hlt

/-- The text of the `W` bit, where it is ignored or not. -/
def wText (x : Bool × Nat) : List Char :=
  if x.1 then "WIG".toList else 'W' :: Text.decimal x.2

/-- What is shown of the `W` bit: a bit that is ignored is not one as well. -/
def shownWs : List (Bool × Nat) :=
  [(true, 0), (false, 0), (false, 1)]

theorem wText_inj : ∀ x ∈ shownWs, ∀ y ∈ shownWs, wText x = wText y → x = y := by
  decide

theorem Decodes.w_mem (h : Decodes form p info) : (info.has .wig, info.w) ∈ shownWs := by
  obtain ⟨t, ht, -⟩ := h.exists_traits
  have hcount := ht.count_ofW_le
  unfold w
  revert hcount
  simp only [Property.ofW, List.countP_cons, List.countP_nil]
  cases info.has .w <;> cases info.has .wig <;> simp [shownWs]

theorem vectorName_inj : ∀ e e' : Encoding, e.isVector = true → e'.isVector = true →
    vectorName e = vectorName e' → e = e' := by
  decide

theorem vectorPrefixPart_inj : ∀ a b : MandatoryPrefix, a ≠ .none → b ≠ .none →
    vectorPrefixPart a = vectorPrefixPart b → a = b := by
  decide

theorem mapPart_inj : ∀ m m' : OpcodeMap, mapPart m = mapPart m' → m = m' := by
  decide

theorem Decodes.mandatoryPrefix_ne_none (h : Decodes form p info)
    (hv : info.encoding.isVector = true) : info.mandatoryPrefix ≠ .none := by
  intro hnone
  have key : ∀ e : Encoding, e ∈ [.legacy, .threeDNow] → e.isVector = false := by decide
  rw [key _ (h.encoding_of_none hnone)] at hv
  cases hv

/-- The text has no separator of a vector opcode. -/
def IsPart (s : List Char) : Prop :=
  '.' ∉ s ∧ ' ' ∉ s

instance (s : List Char) : Decidable (IsPart s) :=
  inferInstanceAs (Decidable (_ ∧ _))

theorem Decodes.isPart (h : Decodes form p info) : ∀ s ∈ info.vectorParts, IsPart s := by
  have hname : ∀ e : Encoding, IsPart (vectorName e).toList := by decide
  have hlength : ∀ x ∈ shownLengths, IsPart (lengthText x) := by decide
  have hprefix : ∀ m : MandatoryPrefix, ∀ s ∈ vectorPrefixPart m, IsPart s := by decide
  have hmap : ∀ m : OpcodeMap, IsPart (mapPart m).toList := by decide
  have hw : ∀ x ∈ shownWs, IsPart (wText x) := by decide
  unfold vectorParts
  rw [h.lengthPart_eq]
  intro s hs
  rcases List.mem_append.mp hs with hs | hs
  · rcases List.mem_append.mp hs with hs | hs
    · rcases List.mem_cons.mp hs with rfl | hs
      · exact hname _
      · exact List.mem_singleton.mp hs ▸ hlength _ h.shownLength_mem
    · exact hprefix _ s hs
  · rcases List.mem_cons.mp hs with rfl | hs
    · exact hmap _
    · exact List.mem_singleton.mp hs ▸ hw _ h.w_mem

/-- **The parts of the first word say what it shows.** -/
theorem eq_of_vectorParts_eq (h : Decodes form p info) (h' : Decodes form' p' info')
    (hv : info.encoding.isVector = true) (hv' : info'.encoding.isVector = true)
    (hparts : info.vectorParts = info'.vectorParts) :
    info.encoding = info'.encoding ∧ info.shownLength = info'.shownLength ∧
      info.mandatoryPrefix = info'.mandatoryPrefix ∧ info.table = info'.table ∧
      (info.has .wig, info.w) = (info'.has .wig, info'.w) := by
  obtain ⟨hfront, hback⟩ := List.append_inj' hparts rfl
  obtain ⟨hhead, hprefix⟩ := List.append_inj hfront rfl
  obtain ⟨hname, hlength⟩ : (vectorName info.encoding).toList = (vectorName info'.encoding).toList ∧
      info.lengthPart = info'.lengthPart := by simpa using hhead
  obtain ⟨hmap, hw⟩ : (mapPart info.table).toList = (mapPart info'.table).toList ∧
      info.wPart = info'.wPart := by simpa using hback
  rw [h.lengthPart_eq, h'.lengthPart_eq] at hlength
  exact ⟨vectorName_inj _ _ hv hv' (String.toList_inj.mp hname),
    lengthText_inj _ h.shownLength_mem _ h'.shownLength_mem hlength,
    vectorPrefixPart_inj _ _ (h.mandatoryPrefix_ne_none hv) (h'.mandatoryPrefix_ne_none hv')
      hprefix,
    mapPart_inj _ _ (String.toList_inj.mp hmap), wText_inj _ h.w_mem _ h'.w_mem hw⟩

/-! ## The opcode -/

theorem Decodes.opcode_lt (h : Decodes form p info) : info.opcode < 65536 :=
  h.opcode_eq ▸ Layout.opcode.get_lt p.word1

theorem exists_hexByte (hw : w ∈ info.opcodeBytes) : ∃ n, w = opcodeBytes.hexByte n := by
  unfold opcodeBytes at hw
  split at hw
  · rcases List.mem_cons.mp hw with hw | hw
    · exact ⟨_, hw⟩
    · exact ⟨_, List.mem_singleton.mp hw⟩
  · exact ⟨_, List.mem_singleton.mp hw⟩

/-- An opcode can be read off its bytes. -/
theorem opcode_eq_of_opcodeBytes_eq (hlt : info.opcode < 65536) (hlt' : info'.opcode < 65536)
    (hbytes : info.opcodeBytes = info'.opcodeBytes) : info.opcode = info'.opcode := by
  have hlow : info.opcode % 256 < 256 := Nat.mod_lt _ (by decide)
  have hlow' : info'.opcode % 256 < 256 := Nat.mod_lt _ (by decide)
  unfold opcodeBytes at hbytes
  split at hbytes <;> split at hbytes
  · obtain ⟨hhigh, hbytes⟩ := List.cons.inj hbytes
    have hhigh := Text.hexUpper_byte_inj (by omega) (by omega) hhigh
    have hlow := Text.hexUpper_byte_inj hlow hlow' (List.cons.inj hbytes).1
    omega
  · cases (List.cons.inj hbytes).2
  · cases (List.cons.inj hbytes).2
  · have hlow := Text.hexUpper_byte_inj hlow hlow' (List.cons.inj hbytes).1
    omega

/-! ## The words after the opcode -/

/-- The word for the group of an opcode, if it has one. -/
def groupWords : Option Nat → List (List Char)
  | some g => [groupWord g]
  | none => []

theorem groupWords_inj {g g' : Option Nat} (h : groupWords g = groupWords g') : g = g' := by
  cases g with
  | none =>
    cases g' with
    | none => rfl
    | some g' => cases h
  | some g =>
    cases g' with
    | none => cases h
    | some g' =>
      have hword : groupWord g = groupWord g' := (List.cons.inj h).1
      rw [Text.decimal_inj.mp (List.cons.inj hword).2]

theorem groupIndex_inj : info.groupIndex = info'.groupIndex ↔ info.group = info'.group := by
  unfold groupIndex
  cases info.group with
  | none =>
    cases info'.group with
    | none => exact iff_of_true rfl rfl
    | some g' => exact iff_of_false (by simp only; omega) (Option.some_ne_none g').symm
  | some g =>
    cases info'.group with
    | none => exact iff_of_false (by simp only; omega) (Option.some_ne_none g)
    | some g' => exact Int.natCast_inj.trans (Option.some_inj).symm

theorem exists_of_mem_pick {ws : List (Bool × String)} (hw : w ∈ pick ws) :
    ∃ x ∈ ws, x.2.toList = w := by
  obtain ⟨x, hx, rfl⟩ := List.mem_map.mp hw
  exact ⟨x, (List.mem_filter.mp hx).1, rfl⟩

/-- Words with different names say which conditions hold. -/
theorem pick_zip_inj {names : List String} (hnames : names.Nodup) :
    ∀ {bs cs : List Bool}, bs.length = names.length → cs.length = names.length →
      pick (bs.zip names) = pick (cs.zip names) → bs = cs := by
  induction names with
  | nil =>
    intro bs cs hb hc _
    rw [List.length_eq_zero_iff.mp hb, List.length_eq_zero_iff.mp hc]
  | cons name names ih =>
    obtain ⟨hname, hnames⟩ := List.nodup_cons.mp hnames
    have habsent : ∀ bs : List Bool, name.toList ∉ pick (bs.zip names) := by
      intro bs hmem
      obtain ⟨x, hx, heq⟩ := exists_of_mem_pick hmem
      exact hname (String.toList_inj.mp heq ▸ (List.of_mem_zip hx).2)
    intro bs cs hb hc h
    obtain ⟨b, bs, rfl⟩ := List.exists_cons_of_length_eq_add_one hb
    obtain ⟨c, cs, rfl⟩ := List.exists_cons_of_length_eq_add_one hc
    have ih := @ih hnames bs cs (Nat.succ.inj hb) (Nat.succ.inj hc)
    cases b <;> cases c
    case false.false => exact congrArg _ (ih h)
    case true.true => exact congrArg _ (ih (List.cons.inj h).2)
    case true.false => exact absurd (h ▸ List.mem_cons_self) (habsent cs)
    case false.true => exact absurd (h ▸ List.mem_cons_self) (habsent bs)

/-- The words that a vector opcode can have for its operands. -/
def operandNames : List String :=
  ["/vsib", "/r", "/is4", "ib"]

/-- The words for the operands of a vector opcode. -/
def operandWords (info : Info) : List (List Char) :=
  pick ([info.usesVsib, info.showsModrm, info.operands.any (·.isIs4),
    info.operands.contains .imm8].zip operandNames)

theorem mem_operandWords (hw : w ∈ info.operandWords) : w ∈ operandNames.map String.toList := by
  obtain ⟨x, hx, rfl⟩ := exists_of_mem_pick hw
  exact List.mem_map_of_mem (List.of_mem_zip hx).2

theorem vectorWords_eq (info : Info) : info.vectorWords
    = ['.'].intercalate info.vectorParts ::
      (info.opcodeBytes ++ (groupWords info.group ++ info.operandWords)) := by
  unfold vectorWords operandWords groupWords
  cases info.group <;> simp [showsModrm, operandNames]

theorem mem_groupWords {g : Option Nat} (hw : w ∈ groupWords g) : ∃ n, w = groupWord n := by
  cases g with
  | none => cases hw
  | some n => exact ⟨n, List.mem_singleton.mp hw⟩

/-- **The words after the first one say what they show.** -/
theorem eq_of_words_eq
    (hwords : info.opcodeBytes ++ (groupWords info.group ++ info.operandWords)
      = info'.opcodeBytes ++ (groupWords info'.group ++ info'.operandWords)) :
    info.opcodeBytes = info'.opcodeBytes ∧ info.group = info'.group ∧
      info.operandWords = info'.operandWords := by
  -- bytes are the words of digits alone, and groups those with digits after the first character
  have hbyte : ∀ {info : Info}, ∀ w ∈ info.opcodeBytes,
      (w.all fun c => Text.upperDigits.contains c) = true := by
    intro info w hw
    obtain ⟨n, rfl⟩ := exists_hexByte hw
    exact List.all_eq_true.mpr fun c hc => List.contains_iff_mem.mpr (Text.mem_upperDigits hc)
  have hnoByte : ∀ {info : Info}, ∀ w ∈ groupWords info.group ++ info.operandWords,
      (w.all fun c => Text.upperDigits.contains c) = false := by
    intro info w hw
    rcases List.mem_append.mp hw with hw | hw
    · obtain ⟨g, rfl⟩ := mem_groupWords hw
      rfl
    · have key : ∀ w ∈ operandNames.map String.toList,
          (w.all fun c => Text.upperDigits.contains c) = false := by decide
      exact key w (mem_operandWords hw)
  have hgroup : ∀ {info : Info}, ∀ w ∈ groupWords info.group,
      w.tail.all Char.isDigit = true := by
    intro info w hw
    obtain ⟨g, rfl⟩ := mem_groupWords hw
    exact List.all_eq_true.mpr fun c hc => Text.isDigit_of_mem_decimal hc
  have hnoGroup : ∀ {info : Info}, ∀ w ∈ info.operandWords, w.tail.all Char.isDigit = false := by
    intro info w hw
    have key : ∀ w ∈ operandNames.map String.toList, w.tail.all Char.isDigit = false := by decide
    exact key w (mem_operandWords hw)
  obtain ⟨hbytes, hrest⟩ := append_inj_of_forall hbyte hbyte hnoByte hnoByte hwords
  obtain ⟨hg, ho⟩ := append_inj_of_forall hgroup hgroup hnoGroup hnoGroup hrest
  exact ⟨hbytes, groupWords_inj hg, ho⟩

/-! ## Vector opcodes -/

/-- No word of a vector opcode has a space. -/
theorem Decodes.not_mem_vectorWords (h : Decodes form p info) :
    ∀ w ∈ info.vectorWords, ' ' ∉ w := by
  rw [vectorWords_eq]
  intro w hw
  rcases List.mem_cons.mp hw with rfl | hw
  · exact Text.not_mem_intercalate (by decide) fun s hs => (h.isPart s hs).2
  · rcases List.mem_append.mp hw with hw | hw
    · obtain ⟨n, rfl⟩ := exists_hexByte hw
      exact Text.not_mem_hexUpper (by decide)
    · rcases List.mem_append.mp hw with hw | hw
      · obtain ⟨g, rfl⟩ := mem_groupWords hw
        exact List.not_mem_cons_of_ne_of_not_mem (by decide) (Text.not_mem_decimal rfl)
      · have key : ∀ w ∈ operandNames.map String.toList, ' ' ∉ w := by decide
        exact key w (mem_operandWords hw)

theorem opcodeText_of_isVector (hi : info.isInstruction = true)
    (hv : info.encoding.isVector = true) :
    info.opcodeText = [' '].intercalate info.vectorWords := by
  unfold opcodeText opcodeWords
  rw [if_pos hi]
  cases he : info.encoding with
  | legacy | threeDNow =>
    rw [he] at hv
    cases hv
  | vex | evex | xop => rfl

/-- **A vector opcode is cut back into what it shows.** -/
theorem sameSyntax_of_vectorWords_eq (h : Decodes form p info) (h' : Decodes form' p' info')
    (hv : info.encoding.isVector = true) (hv' : info'.encoding.isVector = true)
    (hwords : info.vectorWords = info'.vectorWords) : info.SameSyntax info' := by
  rw [vectorWords_eq, vectorWords_eq] at hwords
  obtain ⟨hfirst, hrest⟩ := List.cons.inj hwords
  have hparts : info.vectorParts = info'.vectorParts := by
    have hcut := congrArg (List.splitOn '.') hfirst
    rwa [List.splitOn_intercalate '.' (fun s hs => (h.isPart s hs).1) (by simp [vectorParts]),
      List.splitOn_intercalate '.' (fun s hs => (h'.isPart s hs).1) (by simp [vectorParts])] at hcut
  obtain ⟨hencoding, hlength, hprefix, htable, hw⟩ := eq_of_vectorParts_eq h h' hv hv' hparts
  obtain ⟨hbytes, hgroup, hoperands⟩ := eq_of_words_eq hrest
  have hshown := pick_zip_inj (by decide) rfl rfl hoperands
  simp only [List.cons.injEq, and_true] at hshown
  exact {
    encoding := hencoding
    length := hlength
    mandatoryPrefix := hprefix
    table := htable
    wig := (Prod.mk.inj hw).1
    w := (Prod.mk.inj hw).2
    opcode := opcode_eq_of_opcodeBytes_eq h.opcode_lt h'.opcode_lt hbytes
    groupIndex := groupIndex_inj.mpr hgroup
    vsib := hshown.1
    modrm := hshown.2.1
    is4 := hshown.2.2.1
    immediate := hshown.2.2.2 }

/-- **A vector opcode shows nothing else.** -/
theorem SameSyntax.vectorWords_eq (h : Decodes form p info) (h' : Decodes form' p' info')
    (hsame : info.SameSyntax info') : info.vectorWords = info'.vectorWords := by
  have hw : info.wPart = info'.wPart := by rw [wPart, wPart, hsame.wig, hsame.w]
  have hparts : info.vectorParts = info'.vectorParts := by
    rw [vectorParts, vectorParts, h.lengthPart_eq, h'.lengthPart_eq, hsame.encoding, hsame.length,
      hsame.mandatoryPrefix, hsame.table, hw]
  have hbytes : info.opcodeBytes = info'.opcodeBytes := by
    rw [opcodeBytes, opcodeBytes, hsame.opcode]
  have hoperands : info.operandWords = info'.operandWords := by
    rw [operandWords, operandWords, hsame.vsib, hsame.modrm, hsame.is4, hsame.immediate]
  rw [Info.vectorWords_eq, Info.vectorWords_eq, hparts, hbytes,
    groupIndex_inj.mp hsame.groupIndex, hoperands]

/-! ## All opcodes -/

/-- The first two characters of vector opcodes. -/
def vectorLeads : List (List Char) :=
  ["VE".toList, "EV".toList, "XO".toList]

theorem take_two_intercalate {ws : List (List Char)} {w : List Char} (hw : 2 ≤ w.length)
    (sep : List Char) : (sep.intercalate (w :: ws)).take 2 = w.take 2 := by
  obtain ⟨t, ht⟩ := Text.exists_intercalate_cons sep w ws
  rw [ht, List.take_append_of_le_length hw]

theorem take_two_of_isVector (hi : info.isInstruction = true)
    (hv : info.encoding.isVector = true) :
    info.opcodeText.take 2 = (vectorName info.encoding).toList.take 2 := by
  have hname : ∀ e : Encoding, 2 ≤ (vectorName e).toList.length := by decide
  obtain ⟨t, ht⟩ := Text.exists_intercalate_cons ['.'] (vectorName info.encoding).toList
    ([info.lengthPart] ++ vectorPrefixPart info.mandatoryPrefix
      ++ [(mapPart info.table).toList, info.wPart])
  have hfirst : ['.'].intercalate info.vectorParts = (vectorName info.encoding).toList ++ t := ht
  rw [opcodeText_of_isVector hi hv, vectorWords_eq, hfirst, take_two_intercalate,
    List.take_append_of_le_length (hname _)]
  rw [List.length_append]
  exact Nat.le_add_right_of_le (hname _)

/-- The word can stand in front of a legacy opcode: it is no vector prefix and has no slash. -/
def IsFront (w : List Char) : Prop :=
  2 ≤ w.length ∧ w.take 2 ∉ vectorLeads ∧ '/' ∉ w

instance (w : List Char) : Decidable (IsFront w) :=
  inferInstanceAs (Decidable (_ ∧ _ ∧ _))

theorem isFront_hexByte (n : Nat) (hw : '/' ∉ w) : IsFront (opcodeBytes.hexByte n ++ w) := by
  have hlength : 2 ≤ (opcodeBytes.hexByte n).length := Text.le_length_hexUpper 2 n
  refine ⟨?_, ?_, ?_⟩
  · rw [List.length_append]
    exact Nat.le_add_right_of_le hlength
  · -- every lead has a letter that is no digit
    have hlead : ∀ s ∈ vectorLeads, 'V' ∈ s ∨ 'X' ∈ s := by decide
    rw [List.take_append_of_le_length hlength]
    intro hmem
    rcases hlead _ hmem with hc | hc
    · exact Text.not_mem_hexUpper (by decide) (List.mem_of_mem_take hc)
    · exact Text.not_mem_hexUpper (by decide) (List.mem_of_mem_take hc)
  · rw [List.mem_append]
    rintro (h | h)
    · exact Text.not_mem_hexUpper (by decide) h
    · exact hw h

theorem isFront_of_mem_legacyFront (hw : w ∈ info.legacyFront) : IsFront w := by
  have hprefix : ∀ m : MandatoryPrefix, ∀ w ∈ prefixWord m, IsFront w := by decide
  have hoperand : ∀ s : Width, ∀ w ∈ operandSizeWord s, IsFront w := by decide
  have haddress : ∀ s : Width, ∀ w ∈ addressSizeWord s, IsFront w := by decide
  have hescape : ∀ m : OpcodeMap, ∀ w ∈ escapeWord m, IsFront w := by decide
  simp only [legacyFront, List.mem_append] at hw
  rcases hw with (((((hw | hw) | hw) | hw) | hw) | hw) | hw
  · obtain ⟨x, hx, rfl⟩ := exists_of_mem_pick hw
    rw [List.mem_singleton.mp hx]
    exact (by decide : IsFront "9B".toList)
  · exact hprefix _ w hw
  · exact hoperand _ w hw
  · exact haddress _ w hw
  · exact hescape _ w hw
  · obtain ⟨n, rfl⟩ := exists_hexByte (List.dropLast_subset _ hw)
    exact List.append_nil (opcodeBytes.hexByte n) ▸ isFront_hexByte n List.not_mem_nil
  · have hregister : '/' ∉ info.opcodeRegister := by
      unfold opcodeRegister
      split
      · decide
      · split <;> decide
    obtain ⟨n, hn⟩ : ∃ n, (opcodeBytes info).getLast?.getD [] = opcodeBytes.hexByte n := by
      unfold opcodeBytes
      split <;> exact ⟨_, rfl⟩
    rw [List.mem_singleton.mp hw, hn]
    exact isFront_hexByte n hregister

theorem exists_legacyFront (info : Info) : ∃ w ws, info.legacyFront = w :: ws :=
  List.exists_cons_of_ne_nil (by simp [legacyFront])

theorem opcodeText_of_legacy (hi : info.isInstruction = true) (he : info.encoding = .legacy) :
    info.opcodeText = [' '].intercalate (info.legacyFront ++ info.legacyBack) := by
  rw [opcodeText, if_pos hi, opcodeWords, he, ← legacyWords]

theorem opcodeText_of_threeDNow (hi : info.isInstruction = true)
    (he : info.encoding = .threeDNow) :
    info.opcodeText = "0F 0F ".toList ++ '/' :: 'r' :: ' ' :: Text.hexUpper 2 info.opcode := by
  rw [opcodeText, if_pos hi, opcodeWords, he]
  change [' '].intercalate ["0F".toList, "0F".toList, "/r".toList, Text.hexUpper 2 info.opcode] = _
  rw [List.intercalate_cons_cons, List.intercalate_cons_cons, List.intercalate_cons_cons,
    List.intercalate_singleton]
  rfl

theorem take_two_of_not_isVector (hi : info.isInstruction = true)
    (hv : info.encoding.isVector = false) : info.opcodeText.take 2 ∉ vectorLeads := by
  cases he : info.encoding with
  | vex | evex | xop =>
    rw [he] at hv
    cases hv
  | legacy =>
    obtain ⟨w, ws, hfront⟩ := info.exists_legacyFront
    obtain ⟨hlength, hlead, -⟩ : IsFront w :=
      isFront_of_mem_legacyFront (hfront ▸ List.mem_cons_self)
    rw [opcodeText_of_legacy hi he, hfront, List.cons_append, take_two_intercalate hlength]
    exact hlead
  | threeDNow =>
    rw [opcodeText_of_threeDNow hi he, List.take_append_of_le_length (by decide)]
    decide

/-- The first two characters tell if there is a vector prefix. -/
theorem mem_vectorLeads_iff (hi : info.isInstruction = true) :
    info.opcodeText.take 2 ∈ vectorLeads ↔ info.encoding.isVector = true := by
  constructor
  · intro hlead
    cases hv : info.encoding.isVector with
    | true => rfl
    | false => exact absurd hlead (take_two_of_not_isVector hi hv)
  · intro hv
    have key : ∀ e : Encoding, (vectorName e).toList.take 2 ∈ vectorLeads := by decide
    rw [take_two_of_isVector hi hv]
    exact key _

theorem immediate_of_mem (hw : w ∈ info.immediateWords) : w.head? = some 'i' ∧ '/' ∉ w := by
  have key : ∀ k : OperandKind, ∀ w ∈ immediateWord k, w.head? = some 'i' ∧ '/' ∉ w := by decide
  obtain ⟨k, -, hk⟩ := List.mem_filterMap.mp hw
  exact key k w hk

theorem legacyBack_cases (info : Info) :
    (∃ g, info.legacyBack = groupWord g :: info.immediateWords) ∨
      info.legacyBack = "/r".toList :: info.immediateWords ∨
      info.legacyBack = info.immediateWords := by
  unfold legacyBack
  cases info.group with
  | some g => exact .inl ⟨g, rfl⟩
  | none =>
    cases info.usesModrm with
    | true => exact .inr (.inl rfl)
    | false => exact .inr (.inr rfl)

/-- Where a word `/r` follows the last byte of a legacy opcode, immediates alone can follow it. -/
theorem head?_of_legacyBack {t : List Char}
    (h : Text.after? '/' ([' '].intercalate info.legacyBack) = some ('r' :: ' ' :: t)) :
    t.head? = some 'i' := by
  rcases info.legacyBack_cases with ⟨g, hback⟩ | hback | hback
  · -- a group begins with a digit
    obtain ⟨s, hs⟩ := Text.exists_intercalate_cons [' '] (groupWord g) info.immediateWords
    rw [hback, hs] at h
    have hdigits : Text.decimal g ++ s = 'r' :: ' ' :: t := Option.some.inj h
    obtain ⟨c, cs, hcons⟩ := List.exists_cons_of_ne_nil (Nat.toDigits_ne_nil (n := g) (b := 10))
    rw [Text.decimal, hcons] at hdigits
    have hc : c = 'r' := (List.cons.inj hdigits).1
    have hmem : c ∈ Text.decimal g := by
      rw [Text.decimal, hcons]
      exact List.mem_cons_self
    exact absurd hmem (hc ▸ Text.not_mem_decimal rfl)
  · cases himm : info.immediateWords with
    | nil =>
      rw [hback, himm] at h
      cases h
    | cons w ws =>
      obtain ⟨s, hs⟩ := Text.exists_intercalate_cons [' '] w ws
      rw [hback, himm, List.intercalate_cons_cons, hs] at h
      have ht : 'r' :: ' ' :: (w ++ s) = 'r' :: ' ' :: t := Option.some.inj h
      have hhead := (immediate_of_mem (himm ▸ List.mem_cons_self)).1
      rw [← (List.cons.inj (List.cons.inj ht).2).2, List.head?_append, hhead]
      rfl
  · have hslash : '/' ∉ [' '].intercalate info.immediateWords :=
      Text.not_mem_intercalate (by decide) fun w hw => (immediate_of_mem hw).2
    rw [hback, Text.after?_eq_none_iff.mpr hslash] at h
    cases h

/-- What follows the first slash of a legacy opcode follows that of the words after its last
byte. -/
theorem after?_of_legacy (hi : info.isInstruction = true) (he : info.encoding = .legacy) :
    Text.after? '/' info.opcodeText = Text.after? '/' ([' '].intercalate info.legacyBack) := by
  have hfront : '/' ∉ [' '].intercalate info.legacyFront :=
    Text.not_mem_intercalate (by decide) fun w hw => (isFront_of_mem_legacyFront hw).2.2
  rw [opcodeText_of_legacy hi he]
  by_cases hnil : info.legacyBack = []
  · rw [hnil, List.append_nil, Text.after?_eq_none_iff.mpr hfront]
    rfl
  · obtain ⟨w, ws, hne⟩ := info.exists_legacyFront
    rw [Text.intercalate_append (hne ▸ List.cons_ne_nil w ws) hnil,
      Text.after?_append_of_not_mem hfront]
    rfl

/-- A 3DNow! opcode ends in digits, and a legacy opcode with the same text would end in the word of
an immediate. -/
theorem opcodeText_ne_of_legacy (hi : info.isInstruction = true)
    (hi' : info'.isInstruction = true) (he : info.encoding = .legacy)
    (he' : info'.encoding = .threeDNow) : info.opcodeText ≠ info'.opcodeText := by
  intro h
  have hafter := after?_of_legacy hi he
  rw [h, opcodeText_of_threeDNow hi' he', Text.after?_append_cons (by decide)] at hafter
  have hhead := head?_of_legacyBack hafter.symm
  exact absurd (Text.mem_upperDigits (List.mem_of_mem_head? hhead)) (by decide)

/-- **The opcode string tells the encoding.** -/
theorem encoding_eq_of_opcodeText_eq (hi : info.isInstruction = true)
    (hi' : info'.isInstruction = true) (h : info.opcodeText = info'.opcodeText) :
    info.encoding = info'.encoding := by
  have hsame : info.encoding.isVector = info'.encoding.isVector := by
    rw [Bool.eq_iff_iff, ← mem_vectorLeads_iff hi, ← mem_vectorLeads_iff hi', h]
  cases hv' : info'.encoding.isVector with
  | true =>
    have hv := hsame.trans hv'
    have key : ∀ e e' : Encoding, e.isVector = true → e'.isVector = true →
        (vectorName e).toList.take 2 = (vectorName e').toList.take 2 → e = e' := by decide
    have hlead := congrArg (List.take 2) h
    rw [take_two_of_isVector hi hv, take_two_of_isVector hi' hv'] at hlead
    exact key _ _ hv hv' hlead
  | false =>
    have key : ∀ e : Encoding, e.isVector = false → e = .legacy ∨ e = .threeDNow := by decide
    rcases key _ (hsame.trans hv') with he | he <;> rcases key _ hv' with he' | he'
    · rw [he, he']
    · exact absurd h (opcodeText_ne_of_legacy hi hi' he he')
    · exact absurd h.symm (opcodeText_ne_of_legacy hi' hi he' he)
    · rw [he, he']

/-- **Opcode strings can be read in one way only.** Two forms with the same opcode string have the
same encoding, whatever their records are. Vector opcodes are the same exactly if the decoded
records agree on what is shown. -/
theorem opcodeText_uniquely_readable (h : decode form p = .ok info)
    (h' : decode form' p' = .ok info') (hform : form.isInstruction = true)
    (hform' : form'.isInstruction = true) :
    (info.opcodeText = info'.opcodeText → info.encoding = info'.encoding) ∧
      (info.encoding.isVector = true → info'.encoding.isVector = true →
        (info.opcodeText = info'.opcodeText ↔ info.SameSyntax info')) := by
  have hd := decode_eq_ok_iff.mp h
  have hd' := decode_eq_ok_iff.mp h'
  have hi : info.isInstruction = true := hd.isInstruction_eq.trans hform
  have hi' : info'.isInstruction = true := hd'.isInstruction_eq.trans hform'
  refine ⟨encoding_eq_of_opcodeText_eq hi hi', fun hv hv' => ?_⟩
  rw [opcodeText_of_isVector hi hv, opcodeText_of_isVector hi' hv']
  constructor
  · intro heq
    have hcut := congrArg (List.splitOn ' ') heq
    rw [List.splitOn_intercalate ' ' hd.not_mem_vectorWords (by simp [vectorWords_eq]),
      List.splitOn_intercalate ' ' hd'.not_mem_vectorWords (by simp [vectorWords_eq])] at hcut
    exact sameSyntax_of_vectorWords_eq hd hd' hv hv' hcut
  · intro hsame
    rw [hsame.vectorWords_eq hd hd']

/-- A prefetch, which has a group and a VSIB operand. -/
def prefetchForm : Form where
  code := 1
  name := "EVEX_Vgatherpf0dps_vm32z_k1".toList
  mnemonic := "vgatherpf0dps".toList
  opCount := 1
  isInstruction := true

/-- A record of the prefetch with an opmask register. -/
def maskedPrefetch : Packed where
  word1 := 0xc60002
  word2 := 0x810035
  word3 := 0xc

/-- A record of the prefetch with a broadcast, whose `W` bit is ignored outside of 64-bit mode. -/
def broadcastPrefetch : Packed where
  word1 := 0xc60002
  word2 := 0x170035
  word3 := 0xc

/-- What the two records do not have in common is not shown. -/
theorem opcodeText_uniquely_readable_prefetch :
    ∃ info info', decode prefetchForm maskedPrefetch = .ok info ∧
      decode prefetchForm broadcastPrefetch = .ok info' ∧ info.properties ≠ info'.properties ∧
      info.opcodeText = "EVEX.512.66.0F38.W0 C6 /1 /vsib".toList ∧ info.SameSyntax info' := by
  have hdecode : decode prefetchForm maskedPrefetch = .ok {
      form := prefetchForm, encoding := .evex, opcode := 0xc6, properties := ⟨0x400807⟩
      length := 2, lengthKind := .l128, table := .map0F38, mandatoryPrefix := .p66
      group := some 1, slots := [.memVsib32z, .none, .none, .none, .none] } := by rfl
  have hdecode' : decode prefetchForm broadcastPrefetch = .ok {
      form := prefetchForm, encoding := .evex, opcode := 0xc6, properties := ⟨0x400147⟩
      length := 2, lengthKind := .l128, table := .map0F38, mandatoryPrefix := .p66
      group := some 1, slots := [.memVsib32z, .none, .none, .none, .none] } := by rfl
  have h := opcodeText_uniquely_readable hdecode hdecode' rfl rfl
  exact ⟨_, _, hdecode, hdecode', by decide, by decide, (h.2 rfl rfl).mp (by decide)⟩

end Info

end OpcodeForms
