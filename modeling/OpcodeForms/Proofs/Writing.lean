import OpcodeForms.Proofs.Numerals
import OpcodeForms.Proofs.Records

/-!
# Table lines for given attributes

All attributes that fit into the fields of an encoding can be written as a table line: each key of
the encoding with the text of its value, and the switches that are on. The line is accepted, and
its record is the packed record of the attributes (`Record.exists_line`).
-/

namespace OpcodeForms

open Enumeration (all text)

/-! ## Words -/

/-- A name is a word, if all names are. -/
theorem Enumeration.isWord {α : Type} [DecidableEq α] [Enumeration α] (a : α)
    (h : ∀ b ∈ (all : List α), Text.IsWord (text b) := by decide) : Text.IsWord (text a) :=
  h a (mem_all a)

theorem Text.not_isBlank_of_digitValue? {c : Char} {d : Nat} (h : digitValue? c = some d) :
    isBlank c = false := by
  unfold digitValue? at h
  unfold isBlank
  simp only [Bool.and_eq_true, decide_eq_true_eq] at h
  simp only [Bool.or_eq_false_iff, Bool.and_eq_false_iff, decide_eq_false_iff_not,
    beq_eq_false_iff_ne]
  split at h
  · omega
  · split at h
    · omega
    · split at h
      · omega
      · cases h

theorem Text.not_isBlank_toDigits (n : Nat) : ∀ c ∈ Nat.toDigits 16 n, isBlank c = false := by
  intro c hc
  obtain ⟨d, hd⟩ := digitValue?_of_mem_toDigits hc
  exact not_isBlank_of_digitValue? hd

/-! ## Operands -/

namespace OperandCode

/-- The name of the operand code at index `i`. -/
def nameAt (e : Encoding) (i : Nat) : List Char :=
  (((all e)[i]?).map fun c => c.name.toList).getD []

variable {e : Encoding} {i : Nat}

/-- The names of operands have no blanks and no commas. -/
theorem isWord_nameAt (he : e ≠ .threeDNow) (hi : i < 2 ^ 4) :
    Text.IsWord (nameAt e i) ∧ ',' ∉ nameAt e i := by
  have key : ∀ e ∈ [Encoding.legacy, .vex, .evex, .xop], ∀ i : Fin 16,
      Text.IsWord (nameAt e i) ∧ ',' ∉ nameAt e i := by
    decide
  exact key e (by cases e <;> simp at he ⊢) ⟨i, hi⟩

/-- An operand is found by its name. -/
theorem indexOf?_nameAt (he : e ≠ .threeDNow) (hi : i < 2 ^ 4) :
    indexOf? e (nameAt e i) = some i := by
  have key : ∀ e ∈ [Encoding.legacy, .vex, .evex, .xop], ∀ i : Fin 16,
      indexOf? e (nameAt e i) = some i.val := by
    decide
  exact key e (by cases e <;> simp at he ⊢) ⟨i, hi⟩

end OperandCode

namespace Attributes

variable {a b : Attributes} {e : Encoding} {k : Key} {v w : List Char}

/-- The names of the operands with commas between them. -/
def operandText (a : Attributes) (e : Encoding) : List Char :=
  [','].intercalate (a.operands.map (OperandCode.nameAt e))

/-- The list of operands is read back. -/
theorem readOperands_operandText (h : a.Fits e) (he : e ≠ .threeDNow) :
    Assignment.readOperands e (a.operandText e) = .ok a.operands := by
  let names := a.operands.map (OperandCode.nameAt e)
  have hword : ∀ name ∈ names, Text.IsWord name ∧ ',' ∉ name := by
    intro name hname
    obtain ⟨i, hi, rfl⟩ := List.mem_map.mp hname
    exact OperandCode.isWord_nameAt he (h.operand_lt i hi).2
  have hnames : Assignment.operandNames (a.operandText e) = names := by
    unfold Assignment.operandNames operandText
    -- no operands make the empty text, which is one empty piece and not none
    cases hempty : names with
    | nil => simp [names] at hempty; simp [hempty]
    | cons name rest =>
      rw [List.splitOn_intercalate ',' fun l hl => (hword l hl).2]
      · rw [List.filter_eq_self.mpr]
        · exact hempty
        · intro l hl
          simpa using (hword l hl).1.1
      · exact hempty ▸ List.cons_ne_nil name rest
  rw [Assignment.readOperands_eq_ok_iff, hnames]
  refine ⟨he, by simpa [names] using h.length_le, ?_⟩
  rw [List.forall₂_map_left_iff, List.forall₂_same]
  intro i hi
  have hlt := h.operand_lt i hi
  exact Assignment.operandIndex_eq_ok_iff.mpr
    ⟨OperandCode.indexOf?_nameAt he hlt.2, Nat.ne_of_gt hlt.1⟩

/-! ## Values of keys -/

/-- The text of the value of a key, if the attributes of the encoding have it. -/
def written? (a : Attributes) (e : Encoding) : Key → Option (List Char)
  | .opcode => a.opcode.map (Nat.toDigits 16)
  | .operands => if e = .threeDNow then none else some (a.operandText e)
  | .encodable => some (text a.encodable)
  | .prefixByte => some (text a.prefixByte)
  | .table =>
    match e with
    | .legacy => some (text a.legacyMap)
    | .vex | .evex => some (text a.vectorMap)
    | .xop => some (text a.xopMap)
    | .threeDNow => none
  | .group => a.group.map (Nat.toDigits 16)
  | .allowedPrefixes => some (text a.allowedPrefixes)
  | .operandSize => some (text a.operandSize)
  | .addressSize => some (text a.addressSize)
  | .length =>
    match e with
    | .vex => some (text a.vexLength)
    | .xop => some (text a.xopLength)
    | .legacy | .evex | .threeDNow => none
  | .w => some (text a.w)
  | .tupleType => some (text a.tupleType)
  | .evexLength => some (Nat.toDigits 16 a.evexLength)

/-- What is written for a key makes an assignment. -/
theorem exists_valueMakes (h : a.Fits e) (hv : a.written? e k = some v) :
    ∃ b, Assignment.ValueMakes e k v b := by
  unfold Assignment.ValueMakes
  cases k
  case operands =>
    have he : e ≠ .threeDNow := by
      rintro rfl
      cases hv
    rw [written?, if_neg he] at hv
    cases hv
    rw [readOperands_operandText h he]
    exact ⟨_, rfl⟩
  case opcode =>
    obtain ⟨n, hn, rfl⟩ := Option.map_eq_some_iff.mp hv
    obtain ⟨m, hm, hlt⟩ := h.opcode
    cases Option.some.inj (hn.symm.trans hm)
    simp [Assignment.value?, Text.hexAtMost?_toDigits (by decide) (Nat.le_of_lt_succ hlt)]
  case group =>
    obtain ⟨n, hn, rfl⟩ := Option.map_eq_some_iff.mp hv
    have hlt := h.group
    rw [hn, Option.getD_some] at hlt
    simp [Assignment.value?, Text.hexAtMost?_toDigits (by decide) (Nat.le_of_lt_succ hlt)]
  case evexLength =>
    cases hv
    simp [Assignment.value?, Text.hexAtMost?_toDigits (by decide) (Nat.le_of_lt_succ h.evexLength)]
  case table =>
    cases e <;> cases hv <;> simp [Assignment.value?, Enumeration.ofName?_text]
  case length =>
    cases e <;> cases hv <;> simp [Assignment.value?, Enumeration.ofName?_text]
  all_goals
    cases hv
    simp [Assignment.value?, Enumeration.ofName?_text]

theorem not_isBlank_operandText (h : a.Fits e) (he : e ≠ .threeDNow) :
    ∀ c ∈ a.operandText e, Text.isBlank c = false := by
  intro c hc
  unfold operandText at hc
  rcases Text.mem_intercalate hc with hcomma | ⟨name, hname, hc⟩
  · rw [List.mem_singleton.mp hcomma]
    decide
  · obtain ⟨i, hi, rfl⟩ := List.mem_map.mp hname
    exact (OperandCode.isWord_nameAt he (h.operand_lt i hi).2).1.2 c hc

/-- What is written for a key has no blanks. -/
theorem not_isBlank_written (h : a.Fits e) (hv : a.written? e k = some v) :
    ∀ c ∈ v, Text.isBlank c = false := by
  cases k
  case operands =>
    have he : e ≠ .threeDNow := by
      rintro rfl
      cases hv
    rw [written?, if_neg he] at hv
    cases hv
    exact not_isBlank_operandText h he
  case opcode =>
    obtain ⟨n, -, rfl⟩ := Option.map_eq_some_iff.mp hv
    exact Text.not_isBlank_toDigits n
  case group =>
    obtain ⟨n, -, rfl⟩ := Option.map_eq_some_iff.mp hv
    exact Text.not_isBlank_toDigits n
  case evexLength =>
    cases hv
    exact Text.not_isBlank_toDigits _
  case table =>
    cases e <;> cases hv <;> exact (Enumeration.isWord _).2
  case length =>
    cases e <;> cases hv <;> exact (Enumeration.isWord _).2
  all_goals
    cases hv
    exact (Enumeration.isWord _).2

/-! ## The words of a line -/

/-- Whether the switch is on. -/
def isOn (a : Attributes) : Switch → Bool
  | .noPrefix => a.noPrefix
  | .fwait => a.fwait
  | .lig => a.lig
  | .broadcast => a.broadcast
  | .roundingControl => a.roundingControl
  | .sae => a.sae
  | .opmask => a.opmask
  | .zeroing => a.zeroing

/-- The word of a key. -/
def keyWord? (a : Attributes) (e : Encoding) (k : Key) : Option (List Char) :=
  if k.isFor e then (a.written? e k).map fun v => text k ++ '=' :: v else none

/-- The words that write the attributes. -/
def words (a : Attributes) (e : Encoding) : List (List Char) :=
  (all : List Key).filterMap (a.keyWord? e) ++
    ((all : List Switch).filter fun s => s.isFor e && a.isOn s).map text

theorem keyWord?_eq_some_iff :
    a.keyWord? e k = some w ↔
      k.isFor e = true ∧ ∃ v, a.written? e k = some v ∧ text k ++ '=' :: v = w := by
  unfold keyWord?
  cases k.isFor e <;> simp

theorem mem_words_iff :
    w ∈ a.words e ↔
      (∃ k, a.keyWord? e k = some w) ∨
        ∃ s : Switch, s.isFor e = true ∧ a.isOn s = true ∧ text s = w := by
  unfold words
  simp [Enumeration.mem_all, and_assoc]

/-- The words give a key what is written for it. -/
theorem gives_words_iff :
    Gives (a.words e) (Enumeration.name k) v ↔ k.isFor e = true ∧ a.written? e k = some v := by
  change text k ++ '=' :: v ∈ a.words e ↔ _
  rw [mem_words_iff]
  constructor
  · rintro (⟨k', hk'⟩ | ⟨s, -, -, hs⟩)
    · obtain ⟨hfor, v', hv', hw⟩ := keyWord?_eq_some_iff.mp hk'
      obtain ⟨rfl, rfl⟩ := Key.word_inj hw
      exact ⟨hfor, hv'⟩
    · exact absurd hs.symm (k.word_ne_text v s)
  · rintro ⟨hfor, hv⟩
    exact .inl ⟨k, keyWord?_eq_some_iff.mpr ⟨hfor, v, hv, rfl⟩⟩

/-- A switch is one of the words if it is on. -/
theorem text_mem_words_iff {s : Switch} :
    text s ∈ a.words e ↔ s.isFor e = true ∧ a.isOn s = true := by
  rw [mem_words_iff]
  constructor
  · rintro (⟨k, hk⟩ | ⟨s', hfor, hon, hs⟩)
    · obtain ⟨-, v, -, hw⟩ := keyWord?_eq_some_iff.mp hk
      exact absurd hw (k.word_ne_text v s)
    · cases Enumeration.text_inj hs
      exact ⟨hfor, hon⟩
  · rintro ⟨hfor, hon⟩
    exact .inr ⟨s, hfor, hon, rfl⟩

theorem keyOf_of_keyWord? (h : a.keyWord? e k = some w) : Assignment.keyOf w = text k := by
  obtain ⟨-, v, -, rfl⟩ := keyWord?_eq_some_iff.mp h
  exact Text.before_append_cons k.not_mem_text v

theorem keyOf_text (s : Switch) : Assignment.keyOf (text s) = text s :=
  Text.before_of_not_mem s.not_mem_text

/-- No two of the words have the same key. -/
theorem nodup_keyOf_words (a : Attributes) (e : Encoding) :
    ((a.words e).map Assignment.keyOf).Nodup := by
  unfold words
  rw [List.map_append, List.nodup_append]
  refine ⟨?_, ?_, ?_⟩
  · rw [List.Nodup, List.pairwise_map, List.pairwise_filterMap]
    refine Enumeration.nodup_all.imp fun {k k'} hne w hw w' hw' => ?_
    rw [keyOf_of_keyWord? hw, keyOf_of_keyWord? hw']
    exact fun h => hne (Enumeration.text_inj h)
  · rw [List.Nodup, List.map_map, List.pairwise_map]
    refine (Enumeration.nodup_all.filter _).imp fun {s s'} hne => ?_
    simp only [Function.comp, keyOf_text]
    exact fun h => hne (Enumeration.text_inj h)
  · intro key hkey key' hkey'
    obtain ⟨w, hw, rfl⟩ := List.mem_map.mp hkey
    obtain ⟨k, -, hk⟩ := List.mem_filterMap.mp hw
    obtain ⟨w', hw', rfl⟩ := List.mem_map.mp hkey'
    obtain ⟨s, -, rfl⟩ := List.mem_map.mp hw'
    rw [keyOf_of_keyWord? hk, keyOf_text]
    exact k.text_ne_text s

/-- **The words of attributes that fit are accepted.** -/
theorem exists_line (h : a.Fits e) : ∃ as, Assignment.Line e (a.words e) as := by
  have hmakes : ∀ w ∈ a.words e, ∃ b, Assignment.Makes e w b := by
    intro w hw
    rcases mem_words_iff.mp hw with ⟨k, hk⟩ | ⟨s, hfor, -, rfl⟩
    · obtain ⟨hfor, v, hv, rfl⟩ := keyWord?_eq_some_iff.mp hk
      obtain ⟨b, hb⟩ := exists_valueMakes h hv
      exact ⟨b, .value hfor hb⟩
    · exact ⟨_, .switch hfor⟩
  obtain ⟨as, has⟩ := exists_forall₂ hmakes
  exact ⟨as, has, Assignment.map_keyOf_eq has ▸ nodup_keyOf_words a e⟩

/-! ## Reading back -/

namespace ToldBy

variable {α : Type}

/-- An attribute of the words is the one that was written. -/
theorem get_eq {S : Assignment.Setting α} {x : α} (hb : b.ToldBy e (a.words e))
    (hv : a.written? e S.name = some v) (hread : S.read e v = some x)
    (hfor : S.name.isFor e = true := by rfl) (hused : S.used e = true := by rfl) :
    S.get b = x := by
  have hgiven := (hb.setting S hused).given v (gives_words_iff.mpr ⟨hfor, hv⟩)
  exact Option.some.inj (hgiven.symm.trans hread)

/-- An attribute that was not written has its default. -/
theorem get_eq_default {S : Assignment.Setting α} (hb : b.ToldBy e (a.words e))
    (hv : a.written? e S.name = none) (hused : S.used e = true := by rfl) :
    S.get b = S.get {} := by
  refine (hb.setting S hused).absent fun v hgives => ?_
  exact Option.some_ne_none v ((gives_words_iff.mp hgives).2.symm.trans hv)

theorem isOn_eq {T : Assignment.Toggle} (hb : b.ToldBy e (a.words e))
    (hfor : T.name.isFor e = true := by rfl) : T.get b = a.isOn T.name := by
  rw [Bool.eq_iff_iff, hb.toggle T, text_mem_words_iff]
  exact and_iff_right hfor

/-- An attribute with a name is the one that was written. -/
theorem get_eq_of_text [DecidableEq α] [Enumeration α] {S : Assignment.Setting α} {x : α}
    (hb : b.ToldBy e (a.words e)) (hv : a.written? e S.name = some (text x) := by rfl)
    (hread : S.read e = Enumeration.ofName? := by rfl)
    (hfor : S.name.isFor e = true := by rfl) (hused : S.used e = true := by rfl) :
    S.get b = x :=
  hb.get_eq hv (by rw [hread, Enumeration.ofName?_text]) hfor hused

theorem opcode_eq (hb : b.ToldBy e (a.words e)) (h : a.Fits e) : b.opcode = a.opcode := by
  obtain ⟨n, hn, hlt⟩ := h.opcode
  have hv : a.written? e .opcode = some (Nat.toDigits 16 n) := by rw [written?, hn]; rfl
  have hread : Assignment.Setting.opcode.read e (Nat.toDigits 16 n) = some (some n) := by
    change (Text.hexAtMost? _ _).map some = _
    rw [Text.hexAtMost?_toDigits (by decide) (Nat.le_of_lt_succ hlt)]
    rfl
  rw [hn]
  exact hb.get_eq hv hread

theorem operands_eq (hb : b.ToldBy e (a.words e)) (h : a.Fits e) : b.operands = a.operands := by
  by_cases he : e = .threeDNow
  · -- 3DNow! lines list no operands, and there are none to list
    rw [h.noOperands he]
    exact hb.get_eq_default (S := .operands) (if_pos he)
  · have hread : Assignment.Setting.operands.read e (a.operandText e) = some a.operands :=
      toOption_eq_some_iff.mpr (readOperands_operandText h he)
    exact hb.get_eq (S := .operands) (if_neg he) hread

theorem group_eq (hb : b.ToldBy e (a.words e)) (h : a.Fits e)
    (hfor : Key.isFor e .group = true := by rfl) : b.group = a.group := by
  have hlt := h.group
  cases hgroup : a.group with
  | none =>
    have hv : a.written? e .group = none := by rw [written?, hgroup]; rfl
    exact hb.get_eq_default (S := .group) hv
  | some n =>
    rw [hgroup, Option.getD_some] at hlt
    have hread : Assignment.Setting.group.read e (Nat.toDigits 16 n) = some (some n) := by
      change (Text.hexAtMost? _ _).map some = _
      rw [Text.hexAtMost?_toDigits (by decide) (Nat.le_of_lt_succ hlt)]
      rfl
    have hv : a.written? e .group = some (Nat.toDigits 16 n) := by rw [written?, hgroup]; rfl
    exact hb.get_eq hv hread hfor

end ToldBy

/-- **Reading the words back leads to the same record.** -/
theorem pack_eq (hb : b.ToldBy e (a.words e)) (h : a.Fits e) : b.pack e = a.pack e := by
  have hencodable : b.encodable = a.encodable := hb.get_eq_of_text (S := .encodable)
  have hparts : b.parts e = a.parts e := by
    cases e with
    | legacy =>
      have hprefix : b.prefixByte = a.prefixByte := hb.get_eq_of_text (S := .prefixByte)
      have htable : b.legacyMap = a.legacyMap := hb.get_eq_of_text (S := .legacyMap)
      have hallowed : b.allowedPrefixes = a.allowedPrefixes :=
        hb.get_eq_of_text (S := .allowedPrefixes)
      have hoperand : b.operandSize = a.operandSize := hb.get_eq_of_text (S := .operandSize)
      have haddress : b.addressSize = a.addressSize := hb.get_eq_of_text (S := .addressSize)
      have hnp : b.noPrefix = a.noPrefix := hb.isOn_eq (T := .noPrefix)
      have hfwait : b.fwait = a.fwait := hb.isOn_eq (T := .fwait)
      simp only [parts, sharedParts, hencodable, hb.group_eq h, hprefix, htable, hallowed,
        hoperand, haddress, hnp, hfwait]
    | vex =>
      have hprefix : b.prefixByte = a.prefixByte := hb.get_eq_of_text (S := .prefixByte)
      have htable : b.vectorMap = a.vectorMap := hb.get_eq_of_text (S := .vectorMap)
      have hlength : b.vexLength = a.vexLength := hb.get_eq_of_text (S := .vexLength)
      have hw : b.w = a.w := hb.get_eq_of_text (S := .w)
      simp only [parts, sharedParts, hencodable, hb.group_eq h, hprefix, htable, hlength, hw]
    | evex =>
      have hprefix : b.prefixByte = a.prefixByte := hb.get_eq_of_text (S := .prefixByte)
      have htable : b.vectorMap = a.vectorMap := hb.get_eq_of_text (S := .vectorMap)
      have htuple : b.tupleType = a.tupleType := hb.get_eq_of_text (S := .tupleType)
      have hlength : b.evexLength = a.evexLength :=
        hb.get_eq (S := .evexLength) rfl
          (Text.hexAtMost?_toDigits (by decide) (Nat.le_of_lt_succ h.evexLength))
      have hw : b.w = a.w := hb.get_eq_of_text (S := .w)
      have hlig : b.lig = a.lig := hb.isOn_eq (T := .lig)
      have hbroadcast : b.broadcast = a.broadcast := hb.isOn_eq (T := .broadcast)
      have hrounding : b.roundingControl = a.roundingControl := hb.isOn_eq (T := .roundingControl)
      have hsae : b.sae = a.sae := hb.isOn_eq (T := .sae)
      have hopmask : b.opmask = a.opmask := hb.isOn_eq (T := .opmask)
      have hzeroing : b.zeroing = a.zeroing := hb.isOn_eq (T := .zeroing)
      simp only [parts, sharedParts, hencodable, hb.group_eq h, hprefix, htable, htuple, hlength,
        hw, hlig, hbroadcast, hrounding, hsae, hopmask, hzeroing]
    | xop =>
      have hprefix : b.prefixByte = a.prefixByte := hb.get_eq_of_text (S := .prefixByte)
      have htable : b.xopMap = a.xopMap := hb.get_eq_of_text (S := .xopMap)
      have hlength : b.xopLength = a.xopLength := hb.get_eq_of_text (S := .xopLength)
      have hw : b.w = a.w := hb.get_eq_of_text (S := .w)
      simp only [parts, sharedParts, hencodable, hb.group_eq h, hprefix, htable, hlength, hw]
    | threeDNow => simp only [parts, hencodable]
  rw [pack, hb.opcode_eq h, hb.operands_eq h, hparts]
  rfl

theorem isWord_of_mem_words (h : a.Fits e) (hw : w ∈ a.words e) : Text.IsWord w := by
  rcases mem_words_iff.mp hw with ⟨k, hk⟩ | ⟨s, -, -, rfl⟩
  · obtain ⟨-, v, hv, rfl⟩ := keyWord?_eq_some_iff.mp hk
    refine ⟨by simp, fun c hc => ?_⟩
    rcases List.mem_append.mp hc with hc | hc
    · exact (Enumeration.isWord k).2 c hc
    · rcases List.mem_cons.mp hc with rfl | hc
      · decide
      · exact not_isBlank_written h hv c hc
  · exact Enumeration.isWord s

end Attributes

/-- **Attributes that fit can be written as a line that is accepted with their record.** -/
theorem Record.exists_line {a : Attributes} {e : Encoding} (h : a.Fits e) :
    ∃ line r, read line = .ok r ∧ r.packed = a.pack e := by
  obtain ⟨as, has⟩ := Attributes.exists_line h
  have hpack := Attributes.pack_eq has.toldBy h
  have hopcode := has.toldBy.opcode_eq h
  let ws := "A".toList :: "a".toList :: text e :: a.words e
  have hwords : Text.words ([' '].intercalate ws) = ws := by
    apply Text.words_intercalate
    intro w hw
    simp only [ws, List.mem_cons] at hw
    rcases hw with rfl | rfl | rfl | hw
    · decide
    · decide
    · exact Enumeration.isWord e
    · exact Attributes.isWord_of_mem_words h hw
  refine ⟨_, _, read_eq_ok_iff.mpr ⟨_, _, e, _, hwords, by decide,
    ofWords_eq_ok_iff.mpr ⟨as, has, ?_, rfl⟩⟩, hpack⟩
  obtain ⟨n, hn, -⟩ := h.opcode
  rw [hopcode, hn]
  rfl

end OpcodeForms
