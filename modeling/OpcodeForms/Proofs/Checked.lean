import OpcodeForms.Proofs.CheckedSteps
import OpcodeForms.Proofs.DecodeErrors
import OpcodeForms.Proofs.Tables

/-!
# Decoding step by step

Decoding shifts words, looks up members by their position and cuts lists of operands, and each of
these steps makes sense for some arguments only. `Checked.decode` is decoding with these steps
written out: where one makes no sense, there is no result at all, neither a record nor an error.

The form of a table entry never gets there, whatever the words are: each step is defined, and the
result is that of `Info.decode` together with the two texts of the record.
-/

namespace OpcodeForms

namespace Checked

/-! ## Steps -/

/-- Shifts a number of 32 bits to the left. The amount has to be less than the width. -/
def shiftLeft? (n amount : Nat) : Option Nat :=
  if amount < 32 then some (n <<< amount) else none

/-- The first `n` elements of a list that has as many. -/
def take? {α : Type} (n : Nat) (l : List α) : Option (List α) :=
  if n ≤ l.length then some (l.take n) else none

/-- Reads an enumerated field, as `Info.readField` does. -/
def readField (α : Type) [DecidableEq α] [Enumeration α] (form : Form) (f : Field)
    (field : RecordField) (w : UInt32) : Checked ConfigError α := do
  let value ← f.get? w
  match Enumeration.ofRaw? value.toNat with
  | some a => return a
  | none => throw { code := form.code, field, value }

/-- Reads the modes, as `Info.readEncodable` does. -/
def readEncodable (form : Form) (f : Field) (w : UInt32) : Checked ConfigError Encodable :=
  if form.isInstruction then readField Encodable form f .encodable w else return .any

/-- Reads the group, as `Info.readGroup` does. -/
def readGroup (fs : Layout.Shared) (w : UInt32) : Option (Option Nat) := do
  if (← fs.hasGroup.get? w) != 0 then return some (← fs.group.get? w).toNat else return none

/-- Looks the `W` attribute up by its raw value, which no check precedes. -/
def readW (f : Field) (w : UInt32) : Option WBit := do
  (Enumeration.all : List WBit)[(← f.get? w).toNat]?

/-- Whether a field is set. -/
def isSet (f : Field) (w : UInt32) : Option Bool := do
  return (← f.get? w) != 0

/-- Looks an operand up in the list of its encoding. -/
def readSlot (form : Form) (e : Encoding) (w : UInt32) (i : Fin Layout.slotCount) :
    Checked ConfigError OperandKind := do
  if i.val < e.opSlots then
    let index ← (Layout.operand i).get? w
    if (OperandCode.all e).length ≤ index.toNat then
      throw { code := form.code, field := .operand i.val, value := index }
    let code : OperandCode ← ((OperandCode.all e)[index.toNat]? : Option OperandCode)
    return code.kind
  else return .none

/-- Looks all operands up. -/
def readSlots (form : Form) (e : Encoding) (w : UInt32) : Checked ConfigError (List OperandKind) :=
  (List.finRange Layout.slotCount).mapM (readSlot form e w)

/-! ## Records -/

/-- Reads the fields of a legacy record. -/
def readLegacy (form : Form) (p : Packed) : Checked ConfigError LegacyFields := do
  let w := p.word2
  let fs := Layout.Legacy.shared
  let prefixByte ← readField PrefixByte form fs.prefixByte .prefixByte w
  let noPrefix ← isSet Layout.Legacy.noPrefix w
  let table ← readField LegacyMap form fs.table .table w
  let group ← readGroup fs w
  let encodable ← readEncodable form fs.encodable w
  let allowedPrefixes ← readField AllowedPrefixes form Layout.Legacy.allowedPrefixes
    .allowedPrefixes w
  let fwait ← isSet Layout.Legacy.fwait w
  let operandSize ← readField Width form Layout.Legacy.operandSize .operandSize w
  let addressSize ← readField Width form Layout.Legacy.addressSize .addressSize w
  let slots ← readSlots form .legacy p.word3
  return {
    prefixByte, noPrefix, table, group, encodable, allowedPrefixes, fwait, operandSize,
    addressSize, slots }

/-- Reads the fields of a VEX record. -/
def readVex (form : Form) (p : Packed) : Checked ConfigError VexFields := do
  let w := p.word2
  let fs := Layout.Vector.shared
  let prefixByte ← readField PrefixByte form fs.prefixByte .prefixByte w
  let table ← readField VectorMap form fs.table .table w
  let group ← readGroup fs w
  let encodable ← readEncodable form fs.encodable w
  let length ← readField VexLength form Layout.Vex.vectorLength .vectorLength w
  let wBit ← readW Layout.Vex.w w
  let slots ← readSlots form .vex p.word3
  return { prefixByte, table, group, encodable, length, slots, w := wBit }

/-- Reads the fields of an EVEX record. -/
def readEvex (form : Form) (p : Packed) : Checked ConfigError EvexFields := do
  let w := p.word2
  let fs := Layout.Vector.shared
  let prefixByte ← readField PrefixByte form fs.prefixByte .prefixByte w
  let table ← readField VectorMap form fs.table .table w
  let group ← readGroup fs w
  let encodable ← readEncodable form fs.encodable w
  let tupleType ← readField TupleType form Layout.Evex.tupleType .tupleType w
  let length := (← Layout.Evex.vectorLength.get? w).toNat
  let wBit ← readW Layout.Evex.w w
  let lig ← isSet Layout.Evex.lig w
  let broadcast ← isSet Layout.Evex.broadcast w
  let roundingControl ← isSet Layout.Evex.roundingControl w
  let sae ← isSet Layout.Evex.sae w
  let opmask ← isSet Layout.Evex.opmask w
  let zeroing ← isSet Layout.Evex.zeroing w
  let slots ← readSlots form .evex p.word3
  return {
    prefixByte, table, group, encodable, tupleType, length, lig, broadcast, roundingControl, sae,
    opmask, zeroing, slots, w := wBit }

/-- Reads the fields of an XOP record. -/
def readXop (form : Form) (p : Packed) : Checked ConfigError XopFields := do
  let w := p.word2
  let fs := Layout.Vector.shared
  let prefixByte ← readField PrefixByte form fs.prefixByte .prefixByte w
  let table ← readField XopMap form fs.table .table w
  let group ← readGroup fs w
  let encodable ← readEncodable form fs.encodable w
  let length ← readField XopLength form Layout.Xop.vectorLength .vectorLength w
  let wBit ← readW Layout.Xop.w w
  let slots ← readSlots form .xop p.word3
  return { prefixByte, table, group, encodable, length, slots, w := wBit }

/-- The texts of a decoded record. They take as many operands from the slots as the form has,
shift 128 by the length and 32 by the `W` bit, and look up the operand that shows a broadcast. -/
def texts (info : Info) : Option (List Char × List Char) := do
  let operands ← take? info.form.opCount info.slots
  let _ ← shiftLeft? 128 info.length
  let _ ← shiftLeft? 32 info.w
  let _ ← info.lastVectorOrMem?.elim (some .none) fun i => operands[i]?
  return (info.opcodeText, info.instructionText)

/-- Decodes the fields of a record. -/
def decodeFields (form : Form) (p : Packed) : Checked ConfigError Info := do
  let opcode := (← Layout.opcode.get? p.word1).toNat
  match ← readField Encoding form Layout.encoding .encoding p.word1 with
  | .legacy => return (← readLegacy form p).info form opcode
  | .vex => return (← readVex form p).info form opcode
  | .evex => return (← readEvex form p).info form opcode
  | .xop => return (← readXop form p).info form opcode
  | .threeDNow =>
    return Info.ofThreeDNow form opcode
      (← readEncodable form Layout.ThreeDNow.encodable p.word2)

/-- Decodes a record with its texts. -/
def decode (form : Form) (p : Packed) : Checked ConfigError (Info × List Char × List Char) := do
  let info ← decodeFields form p
  return (info, ← texts info)

/-! ## Every step is defined -/

variable {form : Form} {f : Field} {w : UInt32} {p : Packed}

theorem readField_eq {α : Type} [DecidableEq α] [Enumeration α] {field : RecordField} :
    readField α form f field w = defined (Info.readField α form f field w) := by
  unfold readField Info.readField
  rw [Field.get?_eq, lift_some, pure_bind]
  cases (Enumeration.ofRaw? (f.get w).toNat : Option α) <;> rfl

theorem readEncodable_eq : readEncodable form f w = defined (Info.readEncodable form f w) := by
  unfold readEncodable Info.readEncodable
  cases form.isInstruction with
  | true => exact readField_eq
  | false => rfl

theorem readGroup_eq (fs : Layout.Shared) (w : UInt32) :
    readGroup fs w = some (Info.readGroup fs w) := by
  unfold readGroup Info.readGroup Field.isSet
  rw [Field.get?_eq, Field.get?_eq, Option.bind_eq_bind, Option.bind_some]
  cases fs.hasGroup.get w != 0 <;> rfl

/-- The position of the `W` attribute is one. -/
theorem readW_eq (hf : f.size = 2) : readW f w = some (Info.readW f w) := by
  unfold readW
  rw [Field.get?_eq, Option.bind_eq_bind, Option.bind_some, Info.toNat_get_eq_raw_readW hf]
  exact Enumeration.ofRaw?_raw _

theorem isSet_eq (f : Field) (w : UInt32) : isSet f w = some (f.isSet w) := by
  unfold isSet
  rw [Field.get?_eq]
  rfl

/-- The position of an operand is one. -/
theorem readSlots_eq {e : Encoding} (he : e ≠ .threeDNow) :
    readSlots form e w = defined (Info.readSlots form e w) := by
  rw [Info.readSlots_eq he]
  apply mapM_eq_defined
  intro i
  unfold readSlot Info.slotKind OperandCode.kind?
  by_cases hi : i.val < e.opSlots
  · -- an index of four bits is the position of one of the 16 codes
    have hlt := Info.operand_get_lt i w
    rw [← Info.length_all_operandCode he] at hlt
    rw [if_pos hi, if_pos hi, Field.get?_eq, lift_some, pure_bind, if_neg (Nat.not_le_of_lt hlt),
      List.getElem?_eq_getElem hlt]
    rfl
  · rw [if_neg hi, if_neg hi]
    rfl

/-! ## Every record is read -/

theorem readLegacy_eq : readLegacy form p = defined (LegacyFields.read form p) := by
  unfold readLegacy LegacyFields.read
  simp only [readField_eq, isSet_eq, readGroup_eq, readEncodable_eq, lift_some,
    readSlots_eq (show Encoding.legacy ≠ .threeDNow by decide), pure_eq_defined, defined_bind]
  rfl

theorem readVex_eq : readVex form p = defined (VexFields.read form p) := by
  unfold readVex VexFields.read
  simp only [readField_eq, readGroup_eq, readEncodable_eq, lift_some,
    readW_eq (show Layout.Vex.w.size = 2 from rfl),
    readSlots_eq (show Encoding.vex ≠ .threeDNow by decide), pure_eq_defined, defined_bind]
  rfl

theorem readEvex_eq : readEvex form p = defined (EvexFields.read form p) := by
  unfold readEvex EvexFields.read
  simp only [readField_eq, isSet_eq, Field.get?_eq, readGroup_eq, readEncodable_eq, lift_some,
    readW_eq (show Layout.Evex.w.size = 2 from rfl),
    readSlots_eq (show Encoding.evex ≠ .threeDNow by decide), pure_eq_defined, defined_bind]
  rfl

theorem readXop_eq : readXop form p = defined (XopFields.read form p) := by
  unfold readXop XopFields.read
  simp only [readField_eq, readGroup_eq, readEncodable_eq, lift_some,
    readW_eq (show Layout.Xop.w.size = 2 from rfl),
    readSlots_eq (show Encoding.xop ≠ .threeDNow by decide), pure_eq_defined, defined_bind]
  rfl

/-- **Taking a record apart is defined, whatever its words are.** -/
theorem decodeFields_eq (form : Form) (p : Packed) :
    decodeFields form p = defined (Info.decode form p) := by
  unfold decodeFields Info.decode
  rw [Field.get?_eq, lift_some, pure_bind, readField_eq]
  cases Info.readField Encoding form Layout.encoding .encoding p.word1 with
  | error err => rfl
  | ok e =>
    cases e with
    | legacy => exact congrArg (· >>= _) readLegacy_eq |>.trans (defined_bind _ _)
    | vex => exact congrArg (· >>= _) readVex_eq |>.trans (defined_bind _ _)
    | evex => exact congrArg (· >>= _) readEvex_eq |>.trans (defined_bind _ _)
    | xop => exact congrArg (· >>= _) readXop_eq |>.trans (defined_bind _ _)
    | threeDNow => exact congrArg (· >>= _) readEncodable_eq |>.trans (defined_bind _ _)

/-- The operand that shows a broadcast is one of the operands. -/
theorem lastVectorOrMem?_lt {info : Info} {i : Nat} (h : info.lastVectorOrMem? = some i) :
    i < info.operands.length := by
  obtain ⟨x, hx, rfl⟩ := Option.map_eq_some_iff.mp h
  have hmem := (List.mem_filter.mp (List.mem_of_getLast? hx)).1
  exact List.snd_lt_of_mem_zipIdx hmem

/-- The texts of a decoded record are defined if the form has no more operands than slots. -/
theorem texts_eq {info : Info} (h : Info.Decodes form p info)
    (hops : form.opCount ≤ Layout.slotCount) :
    texts info = some (info.opcodeText, info.instructionText) := by
  have htake : take? info.form.opCount info.slots = some info.operands := by
    rw [take?, if_pos (by rw [h.length_slots, h.form_eq]; exact hops), Info.operands]
  have hlength : info.length < 32 := Nat.lt_trans h.length_lt (by decide)
  have hw : info.w < 32 := by
    unfold Info.w
    split <;> decide
  unfold texts
  rw [htake, shiftLeft?, if_pos hlength, shiftLeft?, if_pos hw]
  cases hlast : info.lastVectorOrMem? with
  | none => rfl
  | some i =>
    have hi := lastVectorOrMem?_lt hlast
    simp [List.getElem?_eq_getElem hi]

/-- **Every step of decoding a form of a table is defined.** The result is that of `Info.decode`,
with the texts of the decoded record. -/
theorem decode_eq (hops : form.opCount ≤ Layout.slotCount) (p : Packed) :
    decode form p = defined ((Info.decode form p).map fun info =>
      (info, info.opcodeText, info.instructionText)) := by
  unfold decode
  rw [decodeFields_eq]
  cases h : Info.decode form p with
  | error err => rfl
  | ok info =>
    have htexts := texts_eq (Info.decode_eq_ok_iff.mp h) hops
    change (do let t ← (liftM (texts info) : Checked ConfigError _); return (info, t)) = _
    rw [htexts, lift_some, pure_bind]
    rfl

/-- **Decoding a record of a form of a table gives its first fault, or a decoded record if it has
none.** No step on the way is undefined, and an error names the form and is about one of five
fields, whatever the words of the record are. -/
theorem decode_of_table {src : List Char} {rs : List Record} {entry : Entry}
    (hsrc : Table.read src = .ok rs) (hentry : entry ∈ (Catalogue.ofRecords rs).entries)
    (p : Packed) :
    match firstFault? entry.form p with
    | some err =>
      Info.decode entry.form p = .error err ∧ decode entry.form p = defined (.error err) ∧
        err.code = entry.form.code ∧
        err.field ∈ [RecordField.encoding, .table, .encodable, .allowedPrefixes, .vectorLength]
    | none =>
      ∃ info, Info.decode entry.form p = .ok info ∧
        decode entry.form p = defined (.ok (info, info.opcodeText, info.instructionText)) := by
  have hdecode := decode_eq (Catalogue.opCount_le hsrc hentry) p
  have hfault := Info.failure?_decode entry.form p
  cases hfirst : firstFault? entry.form p with
  | some err =>
    have herror := failure?_eq_some_iff.mp (hfault.trans hfirst)
    obtain ⟨hcode, hfield⟩ := field_of_firstFault? hfirst
    rw [herror] at hdecode
    exact ⟨herror, hdecode, hcode, hfield⟩
  | none =>
    obtain ⟨info, hok⟩ := failure?_eq_none_iff.mp (hfault.trans hfirst)
    rw [hok] at hdecode
    exact ⟨info, hok, hdecode⟩

/-- A table with one instruction. -/
def sampleTable : List Char :=
  "INVALID bad legacy op=0\nNop nop legacy op=90\nDeclareByte db legacy op=0".toList

/-- The records of the sample table. -/
def sampleRecords : List Record :=
  [{ name := "INVALID".toList, mnemonic := "bad".toList, encoding := .legacy, opCount := 0,
     packed := {} },
    { name := "Nop".toList, mnemonic := "nop".toList, encoding := .legacy, opCount := 0,
      packed := { word1 := 0x900000 } },
    { name := "DeclareByte".toList, mnemonic := "db".toList, encoding := .legacy, opCount := 0,
      packed := {} }]

/-- The instruction of the sample table. -/
def sampleForm : Form where
  code := 1
  name := "Nop".toList
  mnemonic := "nop".toList
  opCount := 0
  isInstruction := true

theorem read_sampleTable : Table.read sampleTable = .ok sampleRecords := by
  rfl

/-- A record whose modes and allowed prefixes are both at fault is rejected for its modes. -/
theorem decode_of_table_sample :
    Table.read sampleTable = .ok sampleRecords ∧
      { form := sampleForm, packed := { word1 := 0x900000 } }
        ∈ (Catalogue.ofRecords sampleRecords).entries ∧
      Info.decode sampleForm { word2 := 0x7e00 }
        = .error { code := 1, field := .encodable, value := 3 } ∧
      decode sampleForm { word2 := 0x7e00 }
        = defined (.error { code := 1, field := .encodable, value := 3 }) := by
  have hentry : { form := sampleForm, packed := { word1 := 0x900000 } }
      ∈ (Catalogue.ofRecords sampleRecords).entries := by decide
  have h := decode_of_table read_sampleTable hentry { word2 := 0x7e00 }
  have hfirst : firstFault? sampleForm { word2 := 0x7e00 }
      = some { code := 1, field := .encodable, value := 3 } := by decide
  rw [hfirst] at h
  exact ⟨read_sampleTable, hentry, h.1, h.2.1⟩

end Checked

end OpcodeForms
