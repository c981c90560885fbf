import OpcodeForms.Proofs.Decoding
import OpcodeForms.Proofs.Properties

/-!
# The bits that decoding looks at

Which bits of a packed record mean something depends on the record: on its encoding, on whether
its opcode has a group and on whether there is a mandatory prefix byte, and for the modes on
whether the form is an instruction. `Packed.meaningful` is the mask of these bits.

Decoding gives the same result for records that agree on them (`Info.decode_congr`).
-/

namespace OpcodeForms

open Enumeration (raw)

/-! ## Meaningful bits -/

/-- Whether a part of the second word means something. The modes do for instructions only, the
group if there is one, and the absence of prefixes if there is no prefix byte. -/
def SubField.isMeaningful (form : Form) (e : Encoding) (w : UInt32) : SubField → Bool
  | .encodable => form.isInstruction
  | .group => (Layout.field? e .hasGroup).any fun f => f.isSet w
  | .noPrefix => (Layout.field? e .prefixByte).any fun f => !f.isSet w
  | _ => true

namespace Packed

/-- The encoding of the record, if its first word names one. -/
def encoding? (p : Packed) : Option Encoding :=
  Enumeration.ofRaw? (Layout.encoding.get p.word1).toNat

/-- The meaningful fields of the first word. -/
def fields1 (p : Packed) : List Field :=
  match p.encoding? with
  | none => [Layout.encoding]
  | some _ => Layout.word1

/-- The meaningful fields of the second word. -/
def fields2 (form : Form) (p : Packed) : List Field :=
  match p.encoding? with
  | none => []
  | some e => ((Layout.word2 e).filter fun part => part.1.isMeaningful form e p.word2).map (·.2)

/-- The meaningful fields of the third word. -/
def fields3 (p : Packed) : List Field :=
  match p.encoding? with
  | none | some .threeDNow => []
  | some e => Layout.word3.take e.opSlots

/-- The mask of the meaningful bits of a record. -/
def meaningful (form : Form) (p : Packed) : Packed where
  word1 := Field.maskOf p.fields1
  word2 := Field.maskOf (p.fields2 form)
  word3 := Field.maskOf p.fields3

/-- Two records agree on the meaningful bits of the first one. -/
structure Agree (form : Form) (p q : Packed) : Prop where
  word1 : p.word1 &&& (p.meaningful form).word1 = q.word1 &&& (p.meaningful form).word1
  word2 : p.word2 &&& (p.meaningful form).word2 = q.word2 &&& (p.meaningful form).word2
  word3 : p.word3 &&& (p.meaningful form).word3 = q.word3 &&& (p.meaningful form).word3

variable {form : Form} {p q : Packed} {e : Encoding}

theorem encoding?_eq_some_iff : p.encoding? = some e ↔ p.HasEncoding e :=
  Enumeration.ofRaw?_eq_some_iff

/-- **Records agree if their meaningful fields do.** -/
theorem agree_iff (he : p.HasEncoding e) :
    Agree form p q ↔
      Layout.encoding.get p.word1 = Layout.encoding.get q.word1 ∧
      Layout.opcode.get p.word1 = Layout.opcode.get q.word1 ∧
      (∀ s f, (s, f) ∈ Layout.word2 e → s.isMeaningful form e p.word2 = true →
        f.get p.word2 = f.get q.word2) ∧
      (e ≠ .threeDNow → ∀ i : Fin Layout.slotCount, i.val < e.opSlots →
        (Layout.operand i).get p.word3 = (Layout.operand i).get q.word3) := by
  have hsome := encoding?_eq_some_iff.mpr he
  have hword1 : p.word1 &&& (p.meaningful form).word1 = q.word1 &&& (p.meaningful form).word1 ↔
      Layout.encoding.get p.word1 = Layout.encoding.get q.word1 ∧
        Layout.opcode.get p.word1 = Layout.opcode.get q.word1 := by
    rw [meaningful, fields1, hsome, Field.and_maskOf_eq_iff]
    simp [Layout.word1]
  have hword2 : p.word2 &&& (p.meaningful form).word2 = q.word2 &&& (p.meaningful form).word2 ↔
      ∀ s f, (s, f) ∈ Layout.word2 e → s.isMeaningful form e p.word2 = true →
        f.get p.word2 = f.get q.word2 := by
    rw [meaningful, fields2, hsome, Field.and_maskOf_eq_iff]
    simp only [List.mem_map, List.mem_filter]
    exact ⟨fun h s f hmem hs => h f ⟨(s, f), ⟨hmem, hs⟩, rfl⟩,
      fun h f ⟨part, ⟨hmem, hs⟩, hf⟩ => hf ▸ h part.1 part.2 hmem hs⟩
  have hword3 : p.word3 &&& (p.meaningful form).word3 = q.word3 &&& (p.meaningful form).word3 ↔
      (e ≠ .threeDNow → ∀ i : Fin Layout.slotCount, i.val < e.opSlots →
        (Layout.operand i).get p.word3 = (Layout.operand i).get q.word3) := by
    rw [meaningful, fields3, hsome, Field.and_maskOf_eq_iff]
    cases e with
    | threeDNow => simp
    | legacy | vex | evex | xop =>
      simp only [Layout.mem_take_word3_iff]
      exact ⟨fun h _ i hi => h _ ⟨i, hi, rfl⟩,
        fun h f ⟨i, hi, hf⟩ => hf ▸ h Encoding.noConfusion i hi⟩
  constructor
  · intro h
    obtain ⟨hencoding, hopcode⟩ := hword1.mp h.word1
    exact ⟨hencoding, hopcode, hword2.mp h.word2, hword3.mp h.word3⟩
  · rintro ⟨hencoding, hopcode, h2, h3⟩
    exact ⟨hword1.mpr ⟨hencoding, hopcode⟩, hword2.mpr h2, hword3.mpr h3⟩

theorem mem_word2_of_field? {s : SubField} {f : Field} (h : Layout.field? e s = some f) :
    (s, f) ∈ Layout.word2 e := by
  obtain ⟨before, after, heq, -⟩ := List.lookup_eq_some_iff.mp h
  rw [heq]
  exact List.mem_append_right _ List.mem_cons_self

/-- Records that agree have the same value in each meaningful field of the second word. -/
theorem Agree.get_word2 (h : Agree form p q) (he : p.HasEncoding e) {s : SubField} {f : Field}
    (hf : Layout.field? e s = some f) (hs : s.isMeaningful form e p.word2 = true) :
    f.get p.word2 = f.get q.word2 :=
  ((agree_iff he).mp h).2.2.1 s f (mem_word2_of_field? hf) hs

theorem Agree.get_opcode (h : Agree form p q) (he : p.HasEncoding e) :
    Layout.opcode.get p.word1 = Layout.opcode.get q.word1 :=
  ((agree_iff he).mp h).2.1

/-- Records that agree have the same operands. -/
theorem Agree.readSlots_eq (h : Agree form p q) (he : p.HasEncoding e) (hne : e ≠ .threeDNow) :
    Info.readSlots form e p.word3 = Info.readSlots form e q.word3 := by
  have hget := ((agree_iff he).mp h).2.2.2 hne
  rw [Info.readSlots_eq hne, Info.readSlots_eq hne]
  refine congrArg Except.ok (List.map_congr_left fun i _ => ?_)
  unfold Info.slotKind
  split
  · next hi => rw [hget i hi]
  · rfl

/-- Records that agree have the same encoding field. -/
theorem Agree.get_encoding (h : Agree form p q) :
    Layout.encoding.get p.word1 = Layout.encoding.get q.word1 := by
  refine Field.and_maskOf_eq_iff.mp h.word1 _ ?_
  unfold fields1
  split <;> exact List.mem_cons_self

theorem Agree.isMeaningful_eq (h : Agree form p q) (he : p.HasEncoding e) (s : SubField) :
    s.isMeaningful form e p.word2 = s.isMeaningful form e q.word2 := by
  cases s with
  | group =>
    unfold SubField.isMeaningful
    cases hf : Layout.field? e .hasGroup with
    | none => rfl
    | some f => simp only [Option.any_some, Field.isSet, h.get_word2 he hf rfl]
  | noPrefix =>
    unfold SubField.isMeaningful
    cases hf : Layout.field? e .prefixByte with
    | none => rfl
    | some f => simp only [Option.any_some, Field.isSet, h.get_word2 he hf rfl]
  | _ => rfl

/-- Records that agree have the same meaningful bits. -/
theorem Agree.meaningful_eq (h : Agree form p q) : p.meaningful form = q.meaningful form := by
  have hencoding : p.encoding? = q.encoding? := by
    rw [encoding?, h.get_encoding, encoding?]
  unfold meaningful fields1 fields2 fields3
  rw [← hencoding]
  cases henc : p.encoding? with
  | none => rfl
  | some e =>
    have he := encoding?_eq_some_iff.mp henc
    simp only [h.isMeaningful_eq he]

end Packed

/-! ## Records that agree are decoded alike -/

namespace Info

variable {α : Type} [DecidableEq α] [Enumeration α] {form : Form} {f : Field} {w v : UInt32}

theorem readField_congr {field : RecordField} (h : f.get w = f.get v) :
    readField α form f field w = readField α form f field v := by
  rw [readField, h, readField]

theorem readEncodable_congr (h : form.isInstruction = true → f.get w = f.get v) :
    readEncodable form f w = readEncodable form f v := by
  unfold readEncodable
  cases hform : form.isInstruction with
  | true => exact readField_congr (h hform)
  | false => rfl

theorem readGroup_congr {fs : Layout.Shared} (hhas : fs.hasGroup.get w = fs.hasGroup.get v)
    (h : fs.hasGroup.isSet w = true → fs.group.get w = fs.group.get v) :
    readGroup fs w = readGroup fs v := by
  unfold readGroup
  have hset : fs.hasGroup.isSet w = fs.hasGroup.isSet v := by
    rw [Field.isSet, Field.isSet, hhas]
  rw [← hset]
  cases hw : fs.hasGroup.isSet w with
  | true => rw [h hw]
  | false => rfl

end Info

variable {form : Form} {p q : Packed} {e : Encoding}

theorem VexFields.read_congr (he : p.HasEncoding .vex) (h : p.Agree form q) :
    read form p = read form q := by
  have hw : Layout.Vex.w.get p.word2 = Layout.Vex.w.get q.word2 :=
    h.get_word2 (s := .w) he rfl rfl
  unfold read Info.readW
  dsimp only
  rw [Info.readField_congr (h.get_word2 (s := .prefixByte) he rfl rfl),
    Info.readField_congr (h.get_word2 (s := .table) he rfl rfl),
    Info.readGroup_congr (h.get_word2 (s := .hasGroup) he rfl rfl)
      (h.get_word2 (s := .group) he rfl),
    Info.readEncodable_congr (h.get_word2 (s := .encodable) he rfl),
    Info.readField_congr (h.get_word2 (s := .vectorLength) he rfl rfl),
    h.readSlots_eq he (by decide), hw]

theorem EvexFields.read_congr (he : p.HasEncoding .evex) (h : p.Agree form q) :
    read form p = read form q := by
  have hlength : Layout.Evex.vectorLength.get p.word2 = Layout.Evex.vectorLength.get q.word2 :=
    h.get_word2 (s := .vectorLength) he rfl rfl
  have hw : Layout.Evex.w.get p.word2 = Layout.Evex.w.get q.word2 :=
    h.get_word2 (s := .w) he rfl rfl
  have hlig : Layout.Evex.lig.get p.word2 = Layout.Evex.lig.get q.word2 :=
    h.get_word2 (s := .lig) he rfl rfl
  have hbroadcast : Layout.Evex.broadcast.get p.word2 = Layout.Evex.broadcast.get q.word2 :=
    h.get_word2 (s := .broadcast) he rfl rfl
  have hrounding : Layout.Evex.roundingControl.get p.word2
      = Layout.Evex.roundingControl.get q.word2 :=
    h.get_word2 (s := .roundingControl) he rfl rfl
  have hsae : Layout.Evex.sae.get p.word2 = Layout.Evex.sae.get q.word2 :=
    h.get_word2 (s := .sae) he rfl rfl
  have hopmask : Layout.Evex.opmask.get p.word2 = Layout.Evex.opmask.get q.word2 :=
    h.get_word2 (s := .opmask) he rfl rfl
  have hzeroing : Layout.Evex.zeroing.get p.word2 = Layout.Evex.zeroing.get q.word2 :=
    h.get_word2 (s := .zeroing) he rfl rfl
  unfold read Info.readW Field.isSet
  dsimp only
  rw [Info.readField_congr (h.get_word2 (s := .prefixByte) he rfl rfl),
    Info.readField_congr (h.get_word2 (s := .table) he rfl rfl),
    Info.readGroup_congr (h.get_word2 (s := .hasGroup) he rfl rfl)
      (h.get_word2 (s := .group) he rfl),
    Info.readEncodable_congr (h.get_word2 (s := .encodable) he rfl),
    Info.readField_congr (h.get_word2 (s := .tupleType) he rfl rfl),
    h.readSlots_eq he (by decide), hlength, hw, hlig, hbroadcast, hrounding, hsae, hopmask,
    hzeroing]

theorem XopFields.read_congr (he : p.HasEncoding .xop) (h : p.Agree form q) :
    read form p = read form q := by
  have hw : Layout.Xop.w.get p.word2 = Layout.Xop.w.get q.word2 :=
    h.get_word2 (s := .w) he rfl rfl
  unfold read Info.readW
  dsimp only
  rw [Info.readField_congr (h.get_word2 (s := .prefixByte) he rfl rfl),
    Info.readField_congr (h.get_word2 (s := .table) he rfl rfl),
    Info.readGroup_congr (h.get_word2 (s := .hasGroup) he rfl rfl)
      (h.get_word2 (s := .group) he rfl),
    Info.readEncodable_congr (h.get_word2 (s := .encodable) he rfl),
    Info.readField_congr (h.get_word2 (s := .vectorLength) he rfl rfl),
    h.readSlots_eq he (by decide), hw]

/-- Legacy records that agree differ at most in whether they say that there are no prefixes. -/
theorem LegacyFields.read_congr (he : p.HasEncoding .legacy) (h : p.Agree form q) :
    read form q = (fun r => { r with noPrefix := Layout.Legacy.noPrefix.isSet q.word2 })
      <$> read form p := by
  have hfwait : Layout.Legacy.fwait.get p.word2 = Layout.Legacy.fwait.get q.word2 :=
    h.get_word2 (s := .fwait) he rfl rfl
  unfold read Field.isSet
  -- everything but `noPrefix` is read from fields that agree
  simp only [map_bind, map_pure]
  rw [Info.readField_congr (h.get_word2 (s := .prefixByte) he rfl rfl),
    Info.readField_congr (h.get_word2 (s := .table) he rfl rfl),
    Info.readGroup_congr (h.get_word2 (s := .hasGroup) he rfl rfl)
      (h.get_word2 (s := .group) he rfl),
    Info.readEncodable_congr (h.get_word2 (s := .encodable) he rfl),
    Info.readField_congr (h.get_word2 (s := .allowedPrefixes) he rfl rfl),
    Info.readField_congr (h.get_word2 (s := .operandSize) he rfl rfl),
    Info.readField_congr (h.get_word2 (s := .addressSize) he rfl rfl),
    h.readSlots_eq he (by decide), hfwait]

/-- Without a prefix byte, the record says whether there are no prefixes. -/
theorem Packed.isSet_prefixByte (hbyte : (Layout.Legacy.shared.prefixByte.get p.word2).toNat = 0) :
    SubField.isMeaningful form .legacy p.word2 .noPrefix = true := by
  have hset : Layout.Legacy.shared.prefixByte.isSet p.word2 = false :=
    Field.isSet_eq_false_iff.mpr (UInt32.toNat_inj.mp hbyte)
  change (!Layout.Legacy.shared.prefixByte.isSet p.word2) = true
  rw [hset]
  rfl

theorem LegacyFields.info_congr (he : p.HasEncoding .legacy) (h : p.Agree form q) (opcode : Nat) :
    info form opcode <$> read form p = info form opcode <$> read form q := by
  rw [read_congr he h, ← comp_map]
  cases hread : read form p with
  | error err => rfl
  | ok r =>
    have hbyte := (read_eq_ok_iff.mp hread).prefixByte
    have hnp := (read_eq_ok_iff.mp hread).noPrefix
    -- where `noPrefix` differs there is a prefix byte, and then it does not count
    have hprefix : r.prefixByte.legacyPrefix r.noPrefix
        = r.prefixByte.legacyPrefix (Layout.Legacy.noPrefix.isSet q.word2) := by
      cases hr : r.prefixByte with
      | none =>
        rw [hr] at hbyte
        rw [← hnp, Field.isSet, Field.isSet,
          h.get_word2 (s := .noPrefix) he rfl (Packed.isSet_prefixByte hbyte)]
      | p66 | pF3 | pF2 => rfl
    change Except.ok (info form opcode r) = Except.ok (info form opcode _)
    rw [info, info, hprefix]

/-- **Records that agree on the meaningful bits are decoded alike.** -/
theorem Info.decode_congr (h : p.Agree form q) : decode form p = decode form q := by
  have hencoding := h.get_encoding
  have hread : readField Encoding form Layout.encoding .encoding q.word1
      = readField Encoding form Layout.encoding .encoding p.word1 :=
    readField_congr hencoding.symm
  unfold decode
  rw [hread]
  cases henc : p.encoding? with
  | none => rw [readField_eq_error (Enumeration.ofRaw?_eq_none_iff.mp henc), error_bind, error_bind]
  | some e =>
    have he := Packed.encoding?_eq_some_iff.mp henc
    rw [readField_eq_ok_iff.mpr he, ok_bind, ok_bind, h.get_opcode he]
    cases e with
    | legacy => exact LegacyFields.info_congr he h _
    | vex => simp only [VexFields.read_congr he h]
    | evex => simp only [EvexFields.read_congr he h]
    | xop => simp only [XopFields.read_congr he h]
    | threeDNow => simp only [readEncodable_congr (h.get_word2 (s := .encodable) he rfl)]

end OpcodeForms
