import OpcodeForms.Info.InstructionText
import OpcodeForms.Proofs.Decoding
import OpcodeForms.Proofs.Properties

/-!
# Laws of decoded records

A decoded record has attributes for every encoding, and each encoding leaves those alone that it
has no use for. `Info.Lawful` lists what that comes down to, and which attributes rule others
out. Every record that decodes obeys the laws, whatever the bits of its words are
(`Info.lawful_of_decode`).

Most laws are about properties. They follow from the attributes that the properties come from:
`Traits.Suits` says which of them an encoding can have.
-/

namespace OpcodeForms

/-! ## Attributes and encodings -/

namespace Property

/-- The properties that only legacy forms have. -/
def ofLegacy : List Property :=
  [fwait, lock, xacquire, xrelease, rep, repne, bnd, hintTaken, notrack]

/-- The properties that only EVEX forms have. -/
def ofEvex : List Property :=
  [broadcast, roundingControl, suppressAllExceptions, opMaskRegister, zeroingMasking,
    nonZeroOpMask]

/-- The properties that say what is known of the `W` bit. -/
def ofW : List Property :=
  [w, wig, wig32]

end Property

/-- The attributes are those of `form` in the encoding `e`: what the encoding has no field for is
as in a form without it. -/
structure Traits.Suits (t : Traits) (form : Form) (e : Encoding) : Prop where
  isInstruction : t.isInstruction = form.isInstruction
  encodable : form.isInstruction = false → t.encodable = .any
  allowedPrefixes : e ≠ .legacy → t.allowedPrefixes = .none
  fwait : e ≠ .legacy → t.fwait = false
  w : e.isVector = false → t.w = .w0
  lig : e ∉ [.vex, .evex] → t.lig = false
  broadcast : e ≠ .evex → t.broadcast = false
  roundingControl : e ≠ .evex → t.roundingControl = false
  sae : e ≠ .evex → t.sae = false
  opmask : e ≠ .evex → t.opmask = false
  zeroing : e ≠ .evex → t.zeroing = false
  completionMask : e ≠ .evex → t.completionMask = false

theorem LegacyMap.opcodeMap_not_mem_xop (m : LegacyMap) :
    m.opcodeMap ∉ [OpcodeMap.xop8, .xop9, .xopA] := by
  cases m <;> decide

theorem VectorMap.opcodeMap_not_mem_xop (m : VectorMap) :
    m.opcodeMap ∉ [OpcodeMap.xop8, .xop9, .xopA] := by
  cases m <;> decide

theorem VectorMap.opcodeMap_ne_normal (m : VectorMap) : m.opcodeMap ≠ .normal := by
  cases m <;> decide

theorem XopMap.opcodeMap_mem_xop (m : XopMap) :
    m.opcodeMap ∈ [OpcodeMap.xop8, .xop9, .xopA] := by
  cases m <;> decide

theorem XopMap.opcodeMap_ne_normal (m : XopMap) : m.opcodeMap ≠ .normal := by
  cases m <;> decide

/-- A vector prefix always says which byte there is. -/
theorem PrefixByte.vectorPrefix_ne_none (b : PrefixByte) : b.vectorPrefix ≠ .none := by
  cases b <;> decide

theorem VexLength.shown_le (l : VexLength) : l.shown.2 ≤ 1 := by
  cases l <;> decide

theorem VexLength.shown_eq_none_iff (l : VexLength) : l.shown.1 = .none ↔ l = .lig := by
  cases l <;> decide

theorem XopLength.shown_le (l : XopLength) : l.shown.2 ≤ 1 := by
  cases l <;> decide

/-- The kinds that an operand of a form in the encoding can have, with that of unused slots. -/
def Encoding.operandKinds : Encoding → List OperandKind
  | .threeDNow => .none :: OperandCode.fixedOperands
  | e => (OperandCode.all e).map (·.kind)

theorem Encoding.mem_operandKinds {e : Encoding} {i : Nat} {k : OperandKind}
    (h : OperandCode.kind? e i = some k) : k ∈ e.operandKinds := by
  obtain ⟨c, hc, rfl⟩ := Option.map_eq_some_iff.mp h
  have hmem : c ∈ OperandCode.all e := List.mem_of_getElem? hc
  cases e with
  | threeDNow => exact absurd hmem List.not_mem_nil
  | legacy | vex | evex | xop => exact List.mem_map_of_mem hmem

theorem Encoding.none_mem_operandKinds (e : Encoding) : OperandKind.none ∈ e.operandKinds := by
  cases e <;> decide

namespace Info

variable {form : Form} {p : Packed} {info : Info} {f : Field} {w : UInt32}

/-- The mode restriction of a form that is no instruction is not looked at. -/
theorem encodable_eq_any {a : Encodable} (h : readEncodable form f w = .ok a)
    (hform : form.isInstruction = false) : a = .any := by
  rw [readEncodable_eq_ok_iff, hform] at h
  exact h

/-- **The properties of a decoded record come from attributes that its encoding has.** -/
theorem Decodes.exists_traits (h : Decodes form p info) :
    ∃ t, info.HasTraits t ∧ t.Suits form info.encoding := by
  cases h with
  | legacy r _ held heq =>
    subst heq
    refine ⟨r.traits form, r.hasTraits form p.opcode, ?_⟩
    constructor
    case encodable => exact encodable_eq_any held.encodable
    all_goals simp [LegacyFields.traits, LegacyFields.info, Encoding.isVector]
  | vex r _ held heq =>
    subst heq
    refine ⟨r.traits form, r.hasTraits form p.opcode, ?_⟩
    constructor
    case encodable => exact encodable_eq_any held.encodable
    all_goals simp [VexFields.traits, VexFields.info, Encoding.isVector]
  | evex r _ held heq =>
    subst heq
    refine ⟨r.traits form, r.hasTraits form p.opcode, ?_⟩
    constructor
    case encodable => exact encodable_eq_any held.encodable
    all_goals simp [EvexFields.traits, EvexFields.info, Encoding.isVector]
  | xop r _ held heq =>
    subst heq
    refine ⟨r.traits form, r.hasTraits form p.opcode, ?_⟩
    constructor
    case encodable => exact encodable_eq_any held.encodable
    all_goals simp [XopFields.traits, XopFields.info, Encoding.isVector]
  | threeDNow modes _ held heq =>
    subst heq
    refine ⟨_, hasTraits_ofThreeDNow form p.opcode modes, ?_⟩
    constructor
    case encodable => exact encodable_eq_any held
    all_goals simp [ofThreeDNow, Encoding.isVector]

/-! ## Properties -/

namespace HasTraits

variable {t : Traits} {q : Property}

theorem isInstruction_eq (ht : info.HasTraits t) : info.isInstruction = t.isInstruction := by
  have hno := ht .noInstruction
  unfold isInstruction
  cases hi : t.isInstruction <;> simp_all [Traits.Gives]

/-- Every mode restriction leaves 32-bit mode or 64-bit mode, and 16-bit mode goes with 32-bit
mode. -/
theorem modes_mem (ht : info.HasTraits t) :
    (info.has .mode16, info.has .mode32, info.has .mode64) ∈
      [(true, true, true), (true, true, false), (false, false, true)] := by
  rw [ht.has_eq (p := .mode16) Iff.rfl, ht.has_eq (p := .mode32) Iff.rfl,
    ht.has_eq (p := .mode64) Iff.rfl]
  cases t.encodable <;> decide

theorem modes_of_any (ht : info.HasTraits t) (hany : t.encodable = .any) :
    (info.has .mode16, info.has .mode32, info.has .mode64) = (true, true, true) := by
  rw [ht.has_eq (p := .mode16) Iff.rfl, ht.has_eq (p := .mode32) Iff.rfl,
    ht.has_eq (p := .mode64) Iff.rfl, hany]
  decide

/-- Every set of permitted prefixes that has the prefix `a` has the prefix `b` too. -/
theorem has_of_permissions {a b : Property} (ht : info.HasTraits t)
    (ha : t.Gives a ↔ a ∈ t.allowedPrefixes.permissions)
    (hb : t.Gives b ↔ b ∈ t.allowedPrefixes.permissions)
    (hab : ∀ ps ∈ (Enumeration.all : List AllowedPrefixes), a ∈ ps.permissions → b ∈ ps.permissions)
    (h : info.has a = true) : info.has b = true := by
  rw [ht a, ha] at h
  rw [ht b, hb]
  exact hab _ (Enumeration.mem_all _) h

theorem has_ofLegacy {e : Encoding} (ht : info.HasTraits t) (hs : t.Suits form e)
    (he : e ≠ .legacy) (hq : q ∈ Property.ofLegacy) : info.has q = false := by
  rw [Bool.eq_false_iff, ne_eq, ht q]
  have hallowed := hs.allowedPrefixes he
  have hfwait := hs.fwait he
  cases q <;> simp_all [Traits.Gives, AllowedPrefixes.permissions, Property.ofLegacy]

theorem has_ofEvex {e : Encoding} (ht : info.HasTraits t) (hs : t.Suits form e)
    (he : e ≠ .evex) (hq : q ∈ Property.ofEvex) : info.has q = false := by
  rw [Bool.eq_false_iff, ne_eq, ht q]
  have hbroadcast := hs.broadcast he
  have hrounding := hs.roundingControl he
  have hsae := hs.sae he
  have hopmask := hs.opmask he
  have hzeroing := hs.zeroing he
  have hcompletion := hs.completionMask he
  cases q <;> simp_all [Traits.Gives, Property.ofEvex]

theorem has_ofW {e : Encoding} (ht : info.HasTraits t) (hs : t.Suits form e)
    (he : e.isVector = false) (hq : q ∈ Property.ofW) : info.has q = false := by
  rw [Bool.eq_false_iff, ne_eq, ht q]
  have hw := hs.w he
  cases q <;> simp_all [Traits.Gives, WBit.properties, Property.ofW]

theorem has_lig {e : Encoding} (ht : info.HasTraits t) (hs : t.Suits form e)
    (he : e ∉ [.vex, .evex]) : info.has .lig = false := by
  rw [Bool.eq_false_iff, ne_eq, ht .lig]
  exact Bool.eq_false_iff.mp (hs.lig he)

/-- What is known of the `W` bit is one thing at most. -/
theorem count_ofW_le (ht : info.HasTraits t) : Property.ofW.countP info.has ≤ 1 := by
  have hw := ht.has_eq (p := .w) Iff.rfl
  have hwig := ht.has_eq (p := .wig) Iff.rfl
  have hwig32 := ht.has_eq (p := .wig32) Iff.rfl
  simp only [Property.ofW, List.countP_cons, List.countP_nil, hw, hwig, hwig32]
  cases t.w <;> decide

end HasTraits

theorem Decodes.isInstruction_eq (h : Decodes form p info) :
    info.isInstruction = form.isInstruction := by
  obtain ⟨t, ht, hs⟩ := h.exists_traits
  rw [ht.isInstruction_eq, hs.isInstruction]

/-! ## Groups -/

theorem readGroup_lt {fs : Layout.Shared} {g : Nat} (h : readGroup fs w = some g) :
    g < 2 ^ fs.group.size := by
  unfold readGroup at h
  split at h
  · rw [← Option.some.inj h]
    exact fs.group.get_lt w
  · cases h

theorem Decodes.group_lt {g : Nat} (h : Decodes form p info) (hg : info.group = some g) :
    g < 8 := by
  cases h with
  | legacy _ _ held heq | vex _ _ held heq | evex _ _ held heq | xop _ _ held heq =>
    subst heq
    exact readGroup_lt (held.group.trans hg)
  | threeDNow _ _ _ heq =>
    subst heq
    cases hg

theorem Decodes.groupIndex_mem (h : Decodes form p info) :
    -1 ≤ info.groupIndex ∧ info.groupIndex ≤ 7 := by
  unfold groupIndex
  split
  · next g hg =>
    have hlt := h.group_lt hg
    omega
  · omega

theorem isGroup_iff (info : Info) : info.isGroup = true ↔ 0 ≤ info.groupIndex := by
  unfold isGroup groupIndex
  cases info.group <;> simp

/-! ## Operand slots -/

theorem slotKind_mem (e : Encoding) (w : UInt32) (i : Fin Layout.slotCount) :
    slotKind e w i ∈ e.operandKinds := by
  unfold slotKind
  split
  · cases hk : OperandCode.kind? e ((Layout.operand i).get w).toNat with
    | some k => exact Encoding.mem_operandKinds hk
    | none => exact e.none_mem_operandKinds
  · exact e.none_mem_operandKinds

/-- The operands of a 3DNow! form are fixed. -/
theorem Decodes.slots_eq_fixed (h : Decodes form p info) (he : info.encoding = .threeDNow) :
    info.slots = [.mmReg, .mmOrMem, .none, .none, .none] := by
  cases h with
  | legacy _ _ _ heq | vex _ _ _ heq | evex _ _ _ heq | xop _ _ _ heq =>
    subst heq
    cases he
  | threeDNow _ _ _ heq =>
    subst heq
    rfl

/-- Every slot of a decoded record holds a kind of its encoding. -/
theorem Decodes.mem_operandKinds {k : OperandKind} (h : Decodes form p info) (hk : k ∈ info.slots) :
    k ∈ info.encoding.operandKinds := by
  by_cases he : info.encoding = .threeDNow
  · rw [h.slots_eq_fixed he] at hk
    rw [he]
    revert k
    decide
  · rw [h.slots_eq he] at hk
    obtain ⟨i, -, rfl⟩ := List.mem_map.mp hk
    exact slotKind_mem _ _ i

theorem getElem?_slotKinds (e : Encoding) (w : UInt32) (i : Fin Layout.slotCount) :
    (slotKinds e w)[i.val]? = some (slotKind e w i) := by
  rw [slotKinds, List.getElem?_map, List.getElem?_eq_getElem (by simp), List.getElem_finRange]
  rfl

/-- The slots that the encoding has no use for are unused. -/
theorem Decodes.slot_unused {i : Nat} (h : Decodes form p info) (hi : info.encoding.opSlots ≤ i)
    (hlt : i < Layout.slotCount) : info.slots[i]? = some .none := by
  by_cases he : info.encoding = .threeDNow
  · rw [h.slots_eq_fixed he]
    rw [he] at hi
    have hslot : i = 2 ∨ i = 3 ∨ i = 4 := by
      change 2 ≤ i at hi
      change i < 5 at hlt
      omega
    rcases hslot with rfl | rfl | rfl <;> rfl
  · rw [h.slots_eq he, getElem?_slotKinds _ _ ⟨i, hlt⟩, slotKind, if_neg (Nat.not_lt.mpr hi)]

/-! ## Tables, prefixes and lengths -/

theorem Decodes.encoding_of_normal (h : Decodes form p info) (hm : info.table = .normal) :
    info.encoding = .legacy := by
  cases h with
  | legacy _ _ _ heq =>
    subst heq
    rfl
  | vex r _ _ heq | evex r _ _ heq =>
    subst heq
    exact absurd hm r.table.opcodeMap_ne_normal
  | xop r _ _ heq =>
    subst heq
    exact absurd hm r.table.opcodeMap_ne_normal
  | threeDNow _ _ _ heq =>
    subst heq
    cases hm

theorem Decodes.table_mem_xop_iff (h : Decodes form p info) :
    info.table ∈ [.xop8, .xop9, .xopA] ↔ info.encoding = .xop := by
  cases h with
  | legacy r _ _ heq =>
    subst heq
    exact iff_of_false r.table.opcodeMap_not_mem_xop Encoding.noConfusion
  | vex r _ _ heq | evex r _ _ heq =>
    subst heq
    exact iff_of_false r.table.opcodeMap_not_mem_xop Encoding.noConfusion
  | xop r _ _ heq =>
    subst heq
    exact iff_of_true r.table.opcodeMap_mem_xop rfl
  | threeDNow _ _ _ heq =>
    subst heq
    exact iff_of_false (show OpcodeMap.map0F ∉ _ by decide) Encoding.noConfusion

theorem Decodes.encoding_of_none (h : Decodes form p info) (hm : info.mandatoryPrefix = .none) :
    info.encoding ∈ [.legacy, .threeDNow] := by
  cases h with
  | legacy _ _ _ heq | threeDNow _ _ _ heq =>
    subst heq
    exact List.mem_of_elem_eq_true rfl
  | vex r _ _ heq | evex r _ _ heq | xop r _ _ heq =>
    subst heq
    exact absurd hm r.prefixByte.vectorPrefix_ne_none

theorem Decodes.encoding_ne_of_np (h : Decodes form p info) (hm : info.mandatoryPrefix = .np) :
    info.encoding ≠ .threeDNow := by
  cases h with
  | legacy _ _ _ heq | vex _ _ _ heq | evex _ _ _ heq | xop _ _ _ heq =>
    subst heq
    exact Encoding.noConfusion
  | threeDNow _ _ _ heq =>
    subst heq
    cases hm

/-- Only EVEX forms scale a displacement. -/
theorem Decodes.tupleType_eq_none (h : Decodes form p info) (he : info.encoding ≠ .evex) :
    info.tupleType = .none := by
  cases h with
  | legacy _ _ _ heq | vex _ _ _ heq | xop _ _ _ heq | threeDNow _ _ _ heq =>
    subst heq
    rfl
  | evex _ _ _ heq =>
    subst heq
    exact absurd rfl he

/-- Only legacy forms fix an operand size or an address size. -/
theorem Decodes.sizes_eq_none (h : Decodes form p info) (he : info.encoding ≠ .legacy) :
    info.operandSize = .none ∧ info.addressSize = .none := by
  cases h with
  | legacy _ _ _ heq =>
    subst heq
    exact absurd rfl he
  | vex _ _ _ heq | evex _ _ _ heq | xop _ _ _ heq | threeDNow _ _ _ heq =>
    subst heq
    exact ⟨rfl, rfl⟩

theorem Decodes.lengthKind_of_evex (h : Decodes form p info) (he : info.encoding = .evex) :
    info.lengthKind = .l128 := by
  cases h with
  | evex _ _ _ heq =>
    subst heq
    rfl
  | legacy _ _ _ heq | vex _ _ _ heq | xop _ _ _ heq | threeDNow _ _ _ heq =>
    subst heq
    cases he

/-- A form without a vector prefix has no length. -/
theorem Decodes.length_of_not_isVector (h : Decodes form p info)
    (he : info.encoding.isVector = false) : info.lengthKind = .none ∧ info.length = 0 := by
  cases h with
  | legacy _ _ _ heq | threeDNow _ _ _ heq =>
    subst heq
    exact ⟨rfl, rfl⟩
  | vex _ _ _ heq | evex _ _ _ heq | xop _ _ _ heq =>
    subst heq
    cases he

theorem Decodes.length_le_one (h : Decodes form p info) (he : info.encoding ≠ .evex) :
    info.length ≤ 1 := by
  cases h with
  | legacy _ _ _ heq | threeDNow _ _ _ heq =>
    subst heq
    exact Nat.zero_le 1
  | vex r _ _ heq | xop r _ _ heq =>
    subst heq
    exact r.length.shown_le
  | evex _ _ _ heq =>
    subst heq
    exact absurd rfl he

/-- A VEX form that ignores the length is one that shows none. -/
theorem Decodes.lig_iff_of_vex (h : Decodes form p info) (he : info.encoding = .vex) :
    info.has .lig = true ↔ info.lengthKind = .none := by
  cases h with
  | vex r _ _ heq =>
    subst heq
    rw [r.hasTraits form p.opcode .lig]
    change decide (r.length = .lig) = true ↔ r.length.shown.1 = .none
    rw [decide_eq_true_iff, r.length.shown_eq_none_iff]
  | legacy _ _ _ heq | evex _ _ _ heq | xop _ _ _ heq | threeDNow _ _ _ heq =>
    subst heq
    cases he

/-! ## The laws -/

/-- The laws that the decoded records of a form obey. -/
structure Lawful (form : Form) (info : Info) : Prop where
  form_eq : info.form = form
  isInstruction : info.isInstruction = form.isInstruction
  modes : (info.has .mode16, info.has .mode32, info.has .mode64) ∈
    [(true, true, true), (true, true, false), (false, false, true)]
  /-- A form that is no instruction is available in every mode. -/
  modesOfPseudo : form.isInstruction = false →
    (info.has .mode16, info.has .mode32, info.has .mode64) = (true, true, true)
  opcodeTextOfPseudo : form.isInstruction = false →
    info.opcodeText = ['<'] ++ form.mnemonic ++ ['>']
  instructionTextOfPseudo : form.isInstruction = false →
    info.instructionText = ['<'] ++ form.mnemonic ++ ['>']
  groupIndex : -1 ≤ info.groupIndex ∧ info.groupIndex ≤ 7
  isGroup : info.isGroup = true ↔ 0 ≤ info.groupIndex
  tupleType : info.encoding ≠ .evex → info.tupleType = .none
  ofEvex : info.encoding ≠ .evex → ∀ p ∈ Property.ofEvex, info.has p = false
  ofLegacy : info.encoding ≠ .legacy → ∀ p ∈ Property.ofLegacy, info.has p = false
  operandSize : info.encoding ≠ .legacy → info.operandSize.bits = 0
  addressSize : info.encoding ≠ .legacy → info.addressSize.bits = 0
  repne : info.has .repne = true → info.has .rep = true
  notrack : info.has .notrack = true → info.has .bnd = true
  hintTaken : info.has .hintTaken = true → info.has .bnd = true
  xacquire : info.has .xacquire = true → info.has .xrelease = true ∧ info.has .lock = true
  normalTable : info.table = .normal → info.encoding = .legacy
  xopTable : info.table ∈ [.xop8, .xop9, .xopA] ↔ info.encoding = .xop
  noPrefix : info.mandatoryPrefix = .none → info.encoding ∈ [.legacy, .threeDNow]
  npPrefix : info.mandatoryPrefix = .np → info.encoding ≠ .threeDNow
  /-- At most one of `W` being one, being ignored, and being ignored outside of 64-bit mode. -/
  wBit : [decide (info.w = 1), info.has .wig, info.has .wig32].count true ≤ 1
  ofVector : info.encoding.isVector = false →
    info.w = 0 ∧ info.has .wig = false ∧ info.has .wig32 = false
  lengthOfEvex : info.encoding = .evex → info.lengthKind = .l128 ∧ info.length ≤ 3
  lengthOfOther : info.encoding.isVector = false → info.lengthKind = .none ∧ info.length = 0
  lengthOfVexXop : info.encoding ∈ [.vex, .xop] → info.length ≤ 1
  lig : info.encoding ∉ [.vex, .evex] → info.has .lig = false
  ligOfVex : info.encoding = .vex → (info.has .lig = true ↔ info.lengthKind = .none)
  slotCount : info.slots.length = Layout.slotCount
  slotKinds : ∀ k ∈ info.slots, k ∈ info.encoding.operandKinds
  slotsUnused : ∀ i, info.encoding.opSlots ≤ i → i < Layout.slotCount →
    info.slots[i]? = some .none
  slotsOfThreeDNow : info.encoding = .threeDNow →
    info.slots = [.mmReg, .mmOrMem, .none, .none, .none]

/-! ## Every decoded record is lawful -/

theorem count_wBit (info : Info) :
    [decide (info.w = 1), info.has .wig, info.has .wig32].count true
      = Property.ofW.countP info.has := by
  have hw : decide (info.w = 1) = info.has .w := by
    unfold Info.w
    cases info.has .w <;> rfl
  rw [hw]
  simp [Property.ofW, List.count_cons, List.countP_cons]

theorem opcodeText_of_pseudo (h : info.isInstruction = false) :
    info.opcodeText = ['<'] ++ info.form.mnemonic ++ ['>'] := by
  rw [opcodeText, h]
  rfl

theorem instructionText_of_pseudo (h : info.isInstruction = false) :
    info.instructionText = ['<'] ++ info.form.mnemonic ++ ['>'] := by
  rw [instructionText, h]
  rfl

/-- **Every record that decodes obeys the laws of its encoding.** -/
theorem lawful_of_decode (h : decode form p = .ok info) : info.Lawful form := by
  have hd := decode_eq_ok_iff.mp h
  obtain ⟨t, ht, hs⟩ := hd.exists_traits
  have hform := hd.form_eq
  have hinstr : info.isInstruction = form.isInstruction :=
    ht.isInstruction_eq.trans hs.isInstruction
  have hallows : ∀ {a b : Property},
      (t.Gives a ↔ a ∈ t.allowedPrefixes.permissions) →
      (t.Gives b ↔ b ∈ t.allowedPrefixes.permissions) →
      (∀ ps ∈ (Enumeration.all : List AllowedPrefixes),
        a ∈ ps.permissions → b ∈ ps.permissions) →
      info.has a = true → info.has b = true := fun ha hb hab => ht.has_of_permissions ha hb hab
  exact {
    form_eq := hform
    isInstruction := hinstr
    modes := ht.modes_mem
    modesOfPseudo := fun hpseudo => ht.modes_of_any (hs.encodable hpseudo)
    opcodeTextOfPseudo := fun hpseudo => hform ▸ opcodeText_of_pseudo (hinstr.trans hpseudo)
    instructionTextOfPseudo := fun hpseudo =>
      hform ▸ instructionText_of_pseudo (hinstr.trans hpseudo)
    groupIndex := hd.groupIndex_mem
    isGroup := isGroup_iff info
    tupleType := hd.tupleType_eq_none
    ofEvex := fun he _ hq => ht.has_ofEvex hs he hq
    ofLegacy := fun he _ hq => ht.has_ofLegacy hs he hq
    operandSize := fun he => congrArg Width.bits (hd.sizes_eq_none he).1
    addressSize := fun he => congrArg Width.bits (hd.sizes_eq_none he).2
    repne := hallows Iff.rfl Iff.rfl (by decide)
    notrack := hallows Iff.rfl Iff.rfl (by decide)
    hintTaken := hallows Iff.rfl Iff.rfl (by decide)
    xacquire := fun hx => ⟨hallows Iff.rfl Iff.rfl (by decide) hx,
      hallows Iff.rfl Iff.rfl (by decide) hx⟩
    normalTable := hd.encoding_of_normal
    xopTable := hd.table_mem_xop_iff
    noPrefix := hd.encoding_of_none
    npPrefix := hd.encoding_ne_of_np
    wBit := count_wBit info ▸ ht.count_ofW_le
    ofVector := fun he => by
      refine ⟨?_, ht.has_ofW hs he (by decide), ht.has_ofW hs he (by decide)⟩
      rw [Info.w, ht.has_ofW hs he (by decide)]
      rfl
    lengthOfEvex := fun he => ⟨hd.lengthKind_of_evex he, Nat.le_of_lt_succ hd.length_lt⟩
    lengthOfOther := hd.length_of_not_isVector
    lengthOfVexXop := fun he => hd.length_le_one fun hevex => by
      rw [hevex] at he
      exact absurd he (by decide)
    lig := ht.has_lig hs
    ligOfVex := hd.lig_iff_of_vex
    slotCount := hd.length_slots
    slotKinds := fun _ hk => hd.mem_operandKinds hk
    slotsUnused := fun _ hi hlt => hd.slot_unused hi hlt
    slotsOfThreeDNow := hd.slots_eq_fixed }

/-- A gather, which uses its opmask register as a completion mask. -/
def gatherForm : Form where
  code := 71
  name := "EVEX_Vpgatherdd_zmm_k1_vm32z".toList
  mnemonic := "vpgatherdd".toList
  opCount := 2
  isInstruction := true

/-- The record of the gather, with bits set that mean nothing. -/
def gatherRecord : Packed where
  word1 := 0x90fffa
  word2 := 0xfe812805
  word3 := 0xffff00c3

theorem lawful_of_decode_gather :
    ∃ info, decode gatherForm gatherRecord = .ok info ∧ info.Lawful gatherForm ∧
      info.has .nonZeroOpMask = true ∧ info.length = 2 := by
  have hdecode : decode gatherForm gatherRecord = .ok {
      form := gatherForm, encoding := .evex, opcode := 0x90, properties := ⟨0x400807⟩
      length := 2, lengthKind := .l128, tupleType := .tuple1Scalar, table := .map0F38
      mandatoryPrefix := .p66, slots := [.zmmReg, .memVsib32z, .none, .none, .none] } := by rfl
  exact ⟨_, hdecode, lawful_of_decode hdecode, rfl, rfl⟩

end Info

end OpcodeForms
