import OpcodeForms.Proofs.Meaningful

/-!
# Decoding loses nothing

What each field holds can be told from the decoded record: the attributes of all encodings come
down to the same few terms there, but no two values of an attribute to the same ones. So two
records that are decoded alike agree on all bits that mean something.
-/

namespace OpcodeForms

open Enumeration (raw)

/-! ## Attributes -/

theorem LegacyMap.opcodeMap_inj {a b : LegacyMap} (h : a.opcodeMap = b.opcodeMap) : a = b := by
  cases a <;> cases b <;> first | rfl | cases h

theorem VectorMap.opcodeMap_inj {a b : VectorMap} (h : a.opcodeMap = b.opcodeMap) : a = b := by
  cases a <;> cases b <;> first | rfl | cases h

theorem XopMap.opcodeMap_inj {a b : XopMap} (h : a.opcodeMap = b.opcodeMap) : a = b := by
  cases a <;> cases b <;> first | rfl | cases h

/-- The length of a VEX form is told by its number, by how it is shown and by whether it is
ignored. -/
theorem VexLength.shown_inj {a b : VexLength} (h : a.shown = b.shown) : a = b := by
  cases a <;> cases b <;> first | rfl | cases h

theorem XopLength.shown_inj {a b : XopLength} (h : a.shown = b.shown) : a = b := by
  cases a <;> cases b <;> first | rfl | cases h

/-- The byte of a legacy form is told by its mandatory prefix, and so is what the record says
where there is none. -/
theorem PrefixByte.legacyPrefix_inj {a b : PrefixByte} {np np' : Bool}
    (h : a.legacyPrefix np = b.legacyPrefix np') : a = b ∧ (a = .none → np = np') := by
  cases a <;> cases b <;> cases np <;> cases np' <;>
    first
    | exact ⟨rfl, fun _ => rfl⟩
    | (cases h; done)
    | exact ⟨rfl, fun hbyte => by cases hbyte⟩

theorem PrefixByte.vectorPrefix_inj {a b : PrefixByte} (h : a.vectorPrefix = b.vectorPrefix) :
    a = b :=
  (legacyPrefix_inj h).1

theorem Encodable.modes_inj {a b : Encodable} (h16 : .mode16 ∈ a.modes ↔ .mode16 ∈ b.modes)
    (h64 : .mode64 ∈ a.modes ↔ .mode64 ∈ b.modes) : a = b := by
  cases a <;> cases b <;> first | rfl | (revert h16 h64; decide)

theorem WBit.properties_inj {a b : WBit} (hw : .w ∈ a.properties ↔ .w ∈ b.properties)
    (hwig : .wig ∈ a.properties ↔ .wig ∈ b.properties)
    (hwig32 : .wig32 ∈ a.properties ↔ .wig32 ∈ b.properties) : a = b := by
  cases a <;> cases b <;> first | rfl | (revert hw hwig hwig32; decide)

theorem AllowedPrefixes.permissions_inj {a b : AllowedPrefixes}
    (h : ∀ p ∈ [Property.lock, .xacquire, .xrelease, .rep, .repne, .bnd, .hintTaken, .notrack],
      p ∈ a.permissions ↔ p ∈ b.permissions) : a = b := by
  cases a <;> cases b <;> first | rfl | (revert h; decide)

/-- **The properties of a decoded record tell the attributes that they come from.** -/
theorem Traits.eq_of_gives {t t' : Traits} (h : ∀ p, t.Gives p ↔ t'.Gives p) : t = t' := by
  have hbool : ∀ {b b' : Bool}, (b = true ↔ b' = true) → b = b' := Bool.eq_iff_iff.mpr
  have hencodable : t.encodable = t'.encodable := Encodable.modes_inj (h .mode16) (h .mode64)
  have hallowed : t.allowedPrefixes = t'.allowedPrefixes := by
    refine AllowedPrefixes.permissions_inj fun p hp => ?_
    have hgives := h p
    simp only [List.mem_cons, List.not_mem_nil, or_false] at hp
    rcases hp with rfl | rfl | rfl | rfl | rfl | rfl | rfl | rfl <;> exact hgives
  have hw : t.w = t'.w := WBit.properties_inj (h .w) (h .wig) (h .wig32)
  have hinstruction : t.isInstruction = t'.isInstruction := by
    have hno : t.isInstruction = false ↔ t'.isInstruction = false := h .noInstruction
    cases ht : t.isInstruction <;> cases ht' : t'.isInstruction <;> simp_all
  -- each field of the attributes is now told by its own properties
  obtain ⟨_, _, _, _, _, _, _, _, _, _, _, _⟩ := t
  obtain ⟨_, _, _, _, _, _, _, _, _, _, _, _⟩ := t'
  cases hencodable
  cases hallowed
  cases hw
  cases hinstruction
  cases hbool (h .fwait)
  cases hbool (h .lig)
  cases hbool (h .broadcast)
  cases hbool (h .roundingControl)
  cases hbool (h .suppressAllExceptions)
  cases hbool (h .opMaskRegister)
  cases hbool (h .zeroingMasking)
  cases hbool (h .nonZeroOpMask)
  rfl

theorem Info.HasTraits.unique {info : Info} {t t' : Traits} (h : info.HasTraits t)
    (h' : info.HasTraits t') : t = t' :=
  Traits.eq_of_gives fun p => (h p).symm.trans (h' p)

/-! ## Fields -/

variable {α : Type} [DecidableEq α] [Enumeration α] {form : Form} {p q : Packed} {e : Encoding}
  {f : Field} {w v : UInt32}

/-- Fields that hold the same raw value are the same. -/
theorem Field.get_eq_of_raw {a b : α} (hw : (f.get w).toNat = raw a) (hv : (f.get v).toNat = raw b)
    (h : a = b) : f.get w = f.get v :=
  UInt32.toNat_inj.mp (hw.trans (h ▸ hv.symm))

/-- Fields of one bit that are set alike are the same. -/
theorem Field.get_eq_of_isSet (hsize : f.size = 1) (h : f.isSet w = f.isSet v) :
    f.get w = f.get v := by
  rw [get_of_size_eq_one hsize, h, ← get_of_size_eq_one hsize]

/-- The same group comes from the same fields. -/
theorem Info.get_eq_of_readGroup {fs : Layout.Shared} (hsize : fs.hasGroup.size = 1)
    (h : readGroup fs w = readGroup fs v) :
    fs.hasGroup.get w = fs.hasGroup.get v ∧
      (fs.hasGroup.isSet w = true → fs.group.get w = fs.group.get v) := by
  unfold readGroup at h
  cases hw : fs.hasGroup.isSet w <;> cases hv : fs.hasGroup.isSet v <;>
    simp only [hw, hv, if_true, if_false, Bool.false_eq_true, reduceCtorEq, Option.some.injEq] at h
  · exact ⟨Field.get_eq_of_isSet hsize (hw.trans hv.symm), fun hset => by cases hset⟩
  · exact ⟨Field.get_eq_of_isSet hsize (hw.trans hv.symm), fun _ => UInt32.toNat_inj.mp h⟩

/-- The same modes of an instruction come from the same field. -/
theorem Info.get_eq_of_readEncodable {a b : Encodable} (hform : form.isInstruction = true)
    (hw : readEncodable form f w = .ok a) (hv : readEncodable form f v = .ok b) (h : a = b) :
    f.get w = f.get v := by
  rw [readEncodable_eq_ok_iff, if_pos hform] at hw hv
  exact Field.get_eq_of_raw hw hv h

/-- No two operand codes of an encoding have the same kind. -/
theorem OperandCode.kind?_inj {i j : Nat} {k : OperandKind} (hi : kind? e i = some k)
    (hj : kind? e j = some k) : i = j := by
  have hnodup : ((all e).map kind).Nodup := by
    cases e <;> decide
  rw [kind?, ← List.getElem?_map] at hi hj
  obtain ⟨hlt, hk⟩ := List.getElem?_eq_some_iff.mp hi
  exact (List.getElem?_inj hlt hnodup).mp (hi.trans hj.symm)

/-- The same operands come from the same slots. -/
theorem Info.get_eq_of_slotKinds (he : e ≠ .threeDNow) (h : slotKinds e w = slotKinds e v)
    {i : Fin Layout.slotCount} (hi : i.val < e.opSlots) :
    (Layout.operand i).get w = (Layout.operand i).get v := by
  have hkind : slotKind e w i = slotKind e v i :=
    List.map_inj_left.mp h i (List.mem_finRange i)
  obtain ⟨k, hk⟩ := exists_operandKind he i w
  obtain ⟨k', hk'⟩ := exists_operandKind he i v
  unfold slotKind at hkind
  rw [if_pos hi, if_pos hi, hk, hk', Option.getD_some, Option.getD_some] at hkind
  rw [hkind] at hk
  exact UInt32.toNat_inj.mp (OperandCode.kind?_inj hk hk')

/-! ## Records -/

/-- The records `p` and `q` have the same values in the meaningful fields of the second word. -/
def Packed.AgreeWord2 (form : Form) (e : Encoding) (p q : Packed) : Prop :=
  ∀ s f, (s, f) ∈ Layout.word2 e → s.isMeaningful form e p.word2 = true →
    f.get p.word2 = f.get q.word2

variable {n m : Nat}

/-- Where it means something that there are no prefixes, there is no prefix byte. -/
theorem LegacyFields.HeldBy.prefixByte_eq_none {r : LegacyFields} (hp : r.HeldBy form p)
    (h : SubField.isMeaningful form .legacy p.word2 .noPrefix = true) : r.prefixByte = .none := by
  have hset : Layout.Legacy.shared.prefixByte.isSet p.word2 = false := by
    change (!Layout.Legacy.shared.prefixByte.isSet p.word2) = true at h
    simpa using h
  have hraw := hp.prefixByte
  rw [Field.isSet_eq_false_iff.mp hset] at hraw
  exact Enumeration.raw_inj hraw.symm

theorem LegacyFields.HeldBy.agreeWord2 {r r' : LegacyFields} (hp : r.HeldBy form p)
    (hq : r'.HeldBy form q) (h : r.info form n = r'.info form m) :
    p.AgreeWord2 form .legacy q := by
  obtain ⟨hbyte, hnp⟩ := PrefixByte.legacyPrefix_inj (congrArg Info.mandatoryPrefix h)
  have htraits : r.traits form = r'.traits form :=
    (r.hasTraits form n).unique (h ▸ r'.hasTraits form m)
  obtain ⟨hhas, hgroup⟩ := Info.get_eq_of_readGroup rfl
    ((hp.group.trans (congrArg Info.group h)).trans hq.group.symm)
  intro s f hmem hmean
  -- one case for each field, in the order of the layout
  simp only [Layout.word2, List.mem_cons, List.not_mem_nil, or_false, Prod.mk.injEq] at hmem
  rcases hmem with ⟨rfl, rfl⟩ | ⟨rfl, rfl⟩ | ⟨rfl, rfl⟩ | ⟨rfl, rfl⟩ | ⟨rfl, rfl⟩ | ⟨rfl, rfl⟩ |
    ⟨rfl, rfl⟩ | ⟨rfl, rfl⟩ | ⟨rfl, rfl⟩ | ⟨rfl, rfl⟩
  · exact Field.get_eq_of_raw hp.prefixByte hq.prefixByte hbyte
  · have hnone : r.prefixByte = .none := hp.prefixByte_eq_none hmean
    exact Field.get_eq_of_isSet rfl (hp.noPrefix.trans ((hnp hnone).trans hq.noPrefix.symm))
  · exact Field.get_eq_of_raw hp.table hq.table
      (LegacyMap.opcodeMap_inj (congrArg Info.table h))
  · exact hhas
  · exact hgroup hmean
  · exact Info.get_eq_of_readEncodable hmean hp.encodable hq.encodable
      (congrArg Traits.encodable htraits)
  · exact Field.get_eq_of_raw hp.allowedPrefixes hq.allowedPrefixes
      (congrArg Traits.allowedPrefixes htraits)
  · exact Field.get_eq_of_isSet rfl
      (hp.fwait.trans ((congrArg Traits.fwait htraits).trans hq.fwait.symm))
  · exact Field.get_eq_of_raw hp.operandSize hq.operandSize (congrArg Info.operandSize h)
  · exact Field.get_eq_of_raw hp.addressSize hq.addressSize (congrArg Info.addressSize h)

theorem VexFields.HeldBy.agreeWord2 {r r' : VexFields} (hp : r.HeldBy form p)
    (hq : r'.HeldBy form q) (h : r.info form n = r'.info form m) : p.AgreeWord2 form .vex q := by
  have hbyte := PrefixByte.vectorPrefix_inj (congrArg Info.mandatoryPrefix h)
  have htraits : r.traits form = r'.traits form :=
    (r.hasTraits form n).unique (h ▸ r'.hasTraits form m)
  obtain ⟨hhas, hgroup⟩ := Info.get_eq_of_readGroup rfl
    ((hp.group.trans (congrArg Info.group h)).trans hq.group.symm)
  have hlength : r.length = r'.length :=
    VexLength.shown_inj (Prod.ext (congrArg Info.lengthKind h) (congrArg Info.length h))
  intro s f hmem hmean
  simp only [Layout.word2, Layout.word2.vector, List.cons_append, List.nil_append, List.mem_cons,
    List.not_mem_nil, or_false, Prod.mk.injEq] at hmem
  rcases hmem with ⟨rfl, rfl⟩ | ⟨rfl, rfl⟩ | ⟨rfl, rfl⟩ | ⟨rfl, rfl⟩ | ⟨rfl, rfl⟩ | ⟨rfl, rfl⟩ |
    ⟨rfl, rfl⟩
  · exact Field.get_eq_of_raw hp.prefixByte hq.prefixByte hbyte
  · exact Field.get_eq_of_raw hp.table hq.table
      (VectorMap.opcodeMap_inj (congrArg Info.table h))
  · exact hhas
  · exact hgroup hmean
  · exact Info.get_eq_of_readEncodable hmean hp.encodable hq.encodable
      (congrArg Traits.encodable htraits)
  · exact Field.get_eq_of_raw hp.length hq.length hlength
  · exact Field.get_eq_of_raw hp.w hq.w (congrArg Traits.w htraits)

theorem EvexFields.HeldBy.agreeWord2 {r r' : EvexFields} (hp : r.HeldBy form p)
    (hq : r'.HeldBy form q) (h : r.info form n = r'.info form m) : p.AgreeWord2 form .evex q := by
  have hbyte := PrefixByte.vectorPrefix_inj (congrArg Info.mandatoryPrefix h)
  have htraits : r.traits form = r'.traits form :=
    (r.hasTraits form n).unique (h ▸ r'.hasTraits form m)
  obtain ⟨hhas, hgroup⟩ := Info.get_eq_of_readGroup rfl
    ((hp.group.trans (congrArg Info.group h)).trans hq.group.symm)
  intro s f hmem hmean
  simp only [Layout.word2, Layout.word2.vector, List.cons_append, List.nil_append, List.mem_cons,
    List.not_mem_nil, or_false, Prod.mk.injEq] at hmem
  rcases hmem with ⟨rfl, rfl⟩ | ⟨rfl, rfl⟩ | ⟨rfl, rfl⟩ | ⟨rfl, rfl⟩ | ⟨rfl, rfl⟩ | ⟨rfl, rfl⟩ |
    ⟨rfl, rfl⟩ | ⟨rfl, rfl⟩ | ⟨rfl, rfl⟩ | ⟨rfl, rfl⟩ | ⟨rfl, rfl⟩ | ⟨rfl, rfl⟩ | ⟨rfl, rfl⟩ |
    ⟨rfl, rfl⟩
  · exact Field.get_eq_of_raw hp.prefixByte hq.prefixByte hbyte
  · exact Field.get_eq_of_raw hp.table hq.table
      (VectorMap.opcodeMap_inj (congrArg Info.table h))
  · exact hhas
  · exact hgroup hmean
  · exact Info.get_eq_of_readEncodable hmean hp.encodable hq.encodable
      (congrArg Traits.encodable htraits)
  · exact Field.get_eq_of_raw hp.tupleType hq.tupleType (congrArg Info.tupleType h)
  · exact UInt32.toNat_inj.mp
      (hp.length.trans ((congrArg Info.length h : r.length = r'.length).trans hq.length.symm))
  · exact Field.get_eq_of_raw hp.w hq.w (congrArg Traits.w htraits)
  · exact Field.get_eq_of_isSet rfl
      (hp.lig.trans ((congrArg Traits.lig htraits).trans hq.lig.symm))
  · exact Field.get_eq_of_isSet rfl
      (hp.broadcast.trans ((congrArg Traits.broadcast htraits).trans hq.broadcast.symm))
  · exact Field.get_eq_of_isSet rfl (hp.roundingControl.trans
      ((congrArg Traits.roundingControl htraits).trans hq.roundingControl.symm))
  · exact Field.get_eq_of_isSet rfl
      (hp.sae.trans ((congrArg Traits.sae htraits).trans hq.sae.symm))
  · exact Field.get_eq_of_isSet rfl
      (hp.opmask.trans ((congrArg Traits.opmask htraits).trans hq.opmask.symm))
  · exact Field.get_eq_of_isSet rfl
      (hp.zeroing.trans ((congrArg Traits.zeroing htraits).trans hq.zeroing.symm))

theorem XopFields.HeldBy.agreeWord2 {r r' : XopFields} (hp : r.HeldBy form p)
    (hq : r'.HeldBy form q) (h : r.info form n = r'.info form m) : p.AgreeWord2 form .xop q := by
  have hbyte := PrefixByte.vectorPrefix_inj (congrArg Info.mandatoryPrefix h)
  have htraits : r.traits form = r'.traits form :=
    (r.hasTraits form n).unique (h ▸ r'.hasTraits form m)
  obtain ⟨hhas, hgroup⟩ := Info.get_eq_of_readGroup rfl
    ((hp.group.trans (congrArg Info.group h)).trans hq.group.symm)
  have hlength : r.length = r'.length :=
    XopLength.shown_inj (Prod.ext (congrArg Info.lengthKind h) (congrArg Info.length h))
  intro s f hmem hmean
  simp only [Layout.word2, Layout.word2.vector, List.cons_append, List.nil_append, List.mem_cons,
    List.not_mem_nil, or_false, Prod.mk.injEq] at hmem
  rcases hmem with ⟨rfl, rfl⟩ | ⟨rfl, rfl⟩ | ⟨rfl, rfl⟩ | ⟨rfl, rfl⟩ | ⟨rfl, rfl⟩ | ⟨rfl, rfl⟩ |
    ⟨rfl, rfl⟩
  · exact Field.get_eq_of_raw hp.prefixByte hq.prefixByte hbyte
  · exact Field.get_eq_of_raw hp.table hq.table (XopMap.opcodeMap_inj (congrArg Info.table h))
  · exact hhas
  · exact hgroup hmean
  · exact Info.get_eq_of_readEncodable hmean hp.encodable hq.encodable
      (congrArg Traits.encodable htraits)
  · exact Field.get_eq_of_raw hp.length hq.length hlength
  · exact Field.get_eq_of_raw hp.w hq.w (congrArg Traits.w htraits)

namespace Info

variable {info : Info}

theorem Decodes.agreeWord2 (hp : Decodes form p info) (hq : Decodes form q info) :
    p.AgreeWord2 form info.encoding q := by
  cases hp with
  | legacy r _ held heq =>
    cases hq with
    | legacy r' _ held' heq' =>
      rw [heq]
      exact held.agreeWord2 held' (heq.symm.trans heq')
    | vex _ _ _ heq' | evex _ _ _ heq' | xop _ _ _ heq' | threeDNow _ _ _ heq' =>
      cases congrArg Info.encoding (heq.symm.trans heq')
  | vex r _ held heq =>
    cases hq with
    | vex r' _ held' heq' =>
      rw [heq]
      exact held.agreeWord2 held' (heq.symm.trans heq')
    | legacy _ _ _ heq' | evex _ _ _ heq' | xop _ _ _ heq' | threeDNow _ _ _ heq' =>
      cases congrArg Info.encoding (heq.symm.trans heq')
  | evex r _ held heq =>
    cases hq with
    | evex r' _ held' heq' =>
      rw [heq]
      exact held.agreeWord2 held' (heq.symm.trans heq')
    | legacy _ _ _ heq' | vex _ _ _ heq' | xop _ _ _ heq' | threeDNow _ _ _ heq' =>
      cases congrArg Info.encoding (heq.symm.trans heq')
  | xop r _ held heq =>
    cases hq with
    | xop r' _ held' heq' =>
      rw [heq]
      exact held.agreeWord2 held' (heq.symm.trans heq')
    | legacy _ _ _ heq' | vex _ _ _ heq' | evex _ _ _ heq' | threeDNow _ _ _ heq' =>
      cases congrArg Info.encoding (heq.symm.trans heq')
  | threeDNow modes _ held heq =>
    cases hq with
    | threeDNow modes' _ held' heq' =>
      have hsame := heq.symm.trans heq'
      have htraits := (hasTraits_ofThreeDNow form p.opcode modes).unique
        (hsame ▸ hasTraits_ofThreeDNow form q.opcode modes')
      rw [heq]
      intro s f hmem hmean
      cases List.mem_singleton.mp hmem
      exact get_eq_of_readEncodable hmean held held' (congrArg Traits.encodable htraits)
    | legacy _ _ _ heq' | vex _ _ _ heq' | evex _ _ _ heq' | xop _ _ _ heq' =>
      cases congrArg Info.encoding (heq.symm.trans heq')

/-- **Records that decode to the same record agree on the meaningful bits.** -/
theorem Decodes.agree (hp : Decodes form p info) (hq : Decodes form q info) : p.Agree form q := by
  have hencoding : Layout.encoding.get p.word1 = Layout.encoding.get q.word1 :=
    Field.get_eq_of_raw hp.hasEncoding hq.hasEncoding rfl
  have hopcode : Layout.opcode.get p.word1 = Layout.opcode.get q.word1 :=
    UInt32.toNat_inj.mp (hp.opcode_eq.symm.trans hq.opcode_eq)
  refine (Packed.agree_iff hp.hasEncoding).mpr
    ⟨hencoding, hopcode, hp.agreeWord2 hq, fun hne i hi => ?_⟩
  exact get_eq_of_slotKinds hne ((hp.slots_eq hne).symm.trans (hq.slots_eq hne)) hi

/-- **Decoding identifies the records that agree on the meaningful bits, and no others.** Records
that agree have the same meaningful bits and are decoded alike, errors included, and accepted
records that are decoded alike agree. -/
theorem decode_identifies (form : Form) (p q : Packed) :
    (p.Agree form q → p.meaningful form = q.meaningful form ∧ decode form p = decode form q) ∧
      ∀ info, decode form p = .ok info → decode form q = .ok info → p.Agree form q := by
  constructor
  · intro h
    exact ⟨h.meaningful_eq, decode_congr h⟩
  · intro info hp hq
    exact (decode_eq_ok_iff.mp hp).agree (decode_eq_ok_iff.mp hq)

/-- An instruction without operands. -/
def nopForm : Form where
  code := 1
  name := "Nop".toList
  mnemonic := "nop".toList
  opCount := 0
  isInstruction := true

/-- Bit 3 of the first word, a group without its flag and the fifth slot mean nothing. -/
theorem decode_identifies_nop :
    Packed.Agree nopForm { word1 := 0x900000 }
        { word1 := 0x900008, word2 := 0x40, word3 := 0x10000 } ∧
      decode nopForm { word1 := 0x900000 }
        = decode nopForm { word1 := 0x900008, word2 := 0x40, word3 := 0x10000 } := by
  have hinfo : decode nopForm { word1 := 0x900000 } = .ok {
      form := nopForm, encoding := .legacy, opcode := 0x90, properties := ⟨7⟩, table := .normal
      mandatoryPrefix := .none, slots := [.none, .none, .none, .none, .none] } := by rfl
  have hdecode := ((decode_identifies nopForm { word1 := 0x900000 }
    { word1 := 0x900008, word2 := 0x40, word3 := 0x10000 }).1
    ⟨by decide, by decide, by decide⟩).2
  exact ⟨(decode_identifies _ _ _).2 _ hinfo (hdecode.symm.trans hinfo), hdecode⟩

end Info

end OpcodeForms
