import OpcodeForms.Proofs.Writing

/-!
# The records of table lines

The packed records that table lines have are the canonical ones: nothing outside of the fields,
members in all enumerated fields, no group where the opcode has none, and operands without gaps.

A canonical record is the packed record of some attributes, which can be written as a line.
-/

namespace OpcodeForms

open Enumeration (count raw)

/-! ## Canonical records -/

/-- The number of members of the enumeration that a part of the second word holds. The other
parts are flags and numbers. -/
def SubField.members? (e : Encoding) : SubField → Option Nat
  | .prefixByte => some (count PrefixByte)
  | .table =>
    match e with
    | .legacy => some (count LegacyMap)
    | .vex | .evex => some (count VectorMap)
    | .xop => some (count XopMap)
    | .threeDNow => none
  | .encodable => some (count Encodable)
  | .allowedPrefixes => some (count AllowedPrefixes)
  | .operandSize | .addressSize => some (count Width)
  | .tupleType => some (count TupleType)
  | .vectorLength =>
    match e with
    | .vex => some (count VexLength)
    | .xop => some (count XopLength)
    | .legacy | .evex | .threeDNow => none
  | .w => some (count WBit)
  | .noPrefix | .hasGroup | .group | .fwait | .lig | .broadcast | .roundingControl | .sae
  | .opmask | .zeroing => none

/-- The number of operands that a line of the encoding can list. -/
def Encoding.listedSlots (e : Encoding) : Nat :=
  if e = .threeDNow then 0 else e.opSlots

theorem Encoding.listedSlots_le (e : Encoding) : e.listedSlots ≤ Layout.slotCount := by
  cases e <;> decide

theorem Field.nibble_stop_le (i : Fin 8) : 4 * i.val + 4 ≤ 32 := by
  have hi := i.isLt
  omega

/-- Four bits of a word, counted from the lowest ones. -/
def Field.nibble (i : Fin 8) : Field :=
  { start := 4 * i.val, size := 4, size_pos := Nat.succ_pos 3, stop_le := nibble_stop_le i }

namespace Packed

/-- The record is a canonical record of the encoding. -/
structure CanonicalFor (p : Packed) (e : Encoding) : Prop where
  encoding : p.HasEncoding e
  word1 : p.word1 &&& 0xfff8 = 0
  word2 : p.word2 &&& ~~~ Field.maskOf ((Layout.word2 e).map (·.2)) = 0
  member : ∀ part ∈ Layout.word2 e, ∀ n ∈ part.1.members? e, (part.2.get p.word2).toNat < n
  group : ∀ fs ∈ Layout.shared? e, fs.hasGroup.get p.word2 = 0 → fs.group.get p.word2 = 0
  word3 : ∃ n ≤ e.listedSlots, ∀ i : Fin 8, (Field.nibble i).get p.word3 ≠ 0 ↔ i.val < n

/-- The record is canonical. -/
def Canonical (p : Packed) : Prop :=
  ∃ e, p.CanonicalFor e

end Packed

namespace Attributes

variable {a : Attributes} {e : Encoding} {p : Packed} {qs : List (Field × UInt32)}
  {fs : List Field} {f : Field} {w : UInt32}

/-! ## Assembled words -/

/-- An assembled word is zero outside of its fields. -/
theorem assemble_and_not_maskOf (h : ∀ q ∈ qs, q.1 ∈ fs) :
    assemble qs &&& ~~~ Field.maskOf fs = 0 := by
  apply Bits.ext_bit
  intro i hi
  rw [Bits.bit_and, Bits.bit_not, Field.bit_maskOf, Bits.bit_zero]
  by_cases hcovered : ∃ f ∈ fs, f.Covers i
  · simp [hcovered]
  · rw [bit_assemble fun q hq hc => hcovered ⟨q.1, h q hq, hc⟩, Bool.false_and]

/-- A word is assembled from the values of its fields, if it is zero outside of them. -/
theorem assemble_eq (hqs : qs.Pairwise fun q r => ¬ q.1.Overlaps r.1)
    (hget : ∀ q ∈ qs, q.1.get w = q.2) (hzero : w &&& ~~~ Field.maskOf (qs.map (·.1)) = 0) :
    assemble qs = w := by
  refine Field.eq_of_get_eq (assemble_and_not_maskOf fun q hq => List.mem_map_of_mem hq) hzero ?_
  intro f hf
  obtain ⟨q, hq, rfl⟩ := List.mem_map.mp hf
  rw [hget q hq]
  exact get_assemble hqs hq (hget q hq ▸ q.1.get_lt w)

theorem maskOf_partFields (e : Encoding) :
    Field.maskOf (partFields e) = Field.maskOf ((Layout.word2 e).map (·.2)) := by
  cases e <;> decide

theorem maskOf_word1 : Field.maskOf Layout.word1 = ~~~ (0xfff8 : UInt32) := by
  decide

/-! ## Operands -/

theorem Fits.length_le_listedSlots (h : a.Fits e) : a.operands.length ≤ e.listedSlots := by
  unfold Encoding.listedSlots
  split
  · next he => rw [h.noOperands he]; exact Nat.le_refl 0
  · exact h.length_le

/-- The third word holds the operand indices, and nothing else. -/
theorem toNat_get_nibble (h : a.Fits e) (i : Fin 8) :
    ((Field.nibble i).get (a.pack e).word3).toNat = a.operands[i.val]?.getD 0 := by
  by_cases hi : i.val < Layout.slotCount
  · exact toNat_get_operand h ⟨i.val, hi⟩
  · have hlength := Nat.le_trans h.length_le_listedSlots e.listedSlots_le
    rw [List.getElem?_eq_none (Nat.le_trans hlength (Nat.le_of_not_lt hi))]
    change ((Field.nibble i).get (assemble _)).toNat = _
    rw [get_assemble_of_not_overlaps]
    · rfl
    · intro q hq hoverlap
      have hfields : ∀ f ∈ Layout.word3, f.stop ≤ 20 := by decide
      have hstop := hfields q.1 (List.of_mem_zip hq).1
      have hstart : 4 * i.val < q.1.stop := hoverlap.1
      have hslots : 5 ≤ i.val := Nat.le_of_not_lt hi
      omega

/-! ## Packing -/

/-- The enumerated fields of a packed record hold members. -/
theorem member_pack (a : Attributes) (e : Encoding) : ∀ part ∈ Layout.word2 e,
    ∀ n ∈ part.1.members? e, (part.2.get (a.pack e).word2).toNat < n := by
  have hlt : ∀ {α : Type} [DecidableEq α] [Enumeration α] (x : α) {f : Field},
      (f, rawWord x) ∈ a.parts e → count α ≤ 2 ^ f.size →
        ∀ n ∈ some (count α), (f.get (a.pack e).word2).toNat < n := by
    intro α _ _ x f hmem hcount n hn
    cases hn
    change (f.get (assemble _)).toNat < _
    rw [toNat_get_assemble_rawWord (pairwise_parts a e) hmem hcount]
    exact Enumeration.raw_lt x
  have hnone : ∀ {f : Field}, ∀ n ∈ (none : Option Nat), (f.get (a.pack e).word2).toNat < n :=
    fun n hn => absurd hn (Option.not_mem_none n)
  cases e with
  | legacy =>
    simp only [Layout.word2, List.forall_mem_cons]
    exact ⟨hlt a.prefixByte (by simp [parts, sharedParts]) (by decide), hnone,
      hlt a.legacyMap (by simp [parts, sharedParts]) (by decide), hnone, hnone,
      hlt a.encodable (by simp [parts, sharedParts]) (by decide),
      hlt a.allowedPrefixes (by simp [parts]) (by decide), hnone,
      hlt a.operandSize (by simp [parts]) (by decide),
      hlt a.addressSize (by simp [parts]) (by decide), List.forall_mem_nil _⟩
  | vex =>
    simp only [Layout.word2, Layout.word2.vector, List.cons_append, List.nil_append,
      List.forall_mem_cons]
    exact ⟨hlt a.prefixByte (by simp [parts, sharedParts]) (by decide),
      hlt a.vectorMap (by simp [parts, sharedParts]) (by decide), hnone, hnone,
      hlt a.encodable (by simp [parts, sharedParts]) (by decide),
      hlt a.vexLength (by simp [parts]) (by decide), hlt a.w (by simp [parts]) (by decide),
      List.forall_mem_nil _⟩
  | evex =>
    simp only [Layout.word2, Layout.word2.vector, List.cons_append, List.nil_append,
      List.forall_mem_cons]
    exact ⟨hlt a.prefixByte (by simp [parts, sharedParts]) (by decide),
      hlt a.vectorMap (by simp [parts, sharedParts]) (by decide), hnone, hnone,
      hlt a.encodable (by simp [parts, sharedParts]) (by decide),
      hlt a.tupleType (by simp [parts]) (by decide), hnone,
      hlt a.w (by simp [parts]) (by decide), hnone, hnone, hnone, hnone, hnone, hnone,
      List.forall_mem_nil _⟩
  | xop =>
    simp only [Layout.word2, Layout.word2.vector, List.cons_append, List.nil_append,
      List.forall_mem_cons]
    exact ⟨hlt a.prefixByte (by simp [parts, sharedParts]) (by decide),
      hlt a.xopMap (by simp [parts, sharedParts]) (by decide), hnone, hnone,
      hlt a.encodable (by simp [parts, sharedParts]) (by decide),
      hlt a.xopLength (by simp [parts]) (by decide), hlt a.w (by simp [parts]) (by decide),
      List.forall_mem_nil _⟩
  | threeDNow =>
    simp only [Layout.word2, List.forall_mem_cons]
    exact ⟨hlt a.encodable (by simp [parts]) (by decide), List.forall_mem_nil _⟩

/-- The parts of a group. -/
theorem mem_parts_of_shared? {fs : Layout.Shared} (h : Layout.shared? e = some fs) :
    (fs.hasGroup, bitWord a.group.isSome) ∈ a.parts e ∧
      (fs.group, UInt32.ofNat (a.group.getD 0)) ∈ a.parts e := by
  cases e with
  | threeDNow => cases h
  | legacy | vex | evex | xop =>
    cases h
    constructor <;> simp [parts, sharedParts]

theorem size_group {fs : Layout.Shared} (h : Layout.shared? e = some fs) :
    fs.hasGroup.size = 1 ∧ fs.group.size = 3 := by
  cases e <;> cases h <;> exact ⟨rfl, rfl⟩

/-- **Packed records are canonical.** -/
theorem canonicalFor_pack (h : a.Fits e) : (a.pack e).CanonicalFor e where
  encoding := pack_hasEncoding a e
  word1 := by
    have hword1 : (a.pack e).word1 &&& ~~~ Field.maskOf Layout.word1 = 0 := by
      apply assemble_and_not_maskOf
      simp [Layout.word1]
    rwa [maskOf_word1, UInt32.not_not] at hword1
  word2 := by
    rw [← maskOf_partFields]
    apply assemble_and_not_maskOf
    intro q hq
    rw [← map_fst_parts a e]
    exact List.mem_map_of_mem hq
  member := member_pack a e
  group fs hfs hzero := by
    obtain ⟨hhas, hgroup⟩ := mem_parts_of_shared? (a := a) hfs
    have hset : fs.hasGroup.isSet (a.pack e).word2 = a.group.isSome :=
      isSet_assemble_bitWord (pairwise_parts a e) hhas
    rw [Field.isSet_eq_false_iff.mpr hzero] at hset
    have hnone : a.group = none := by
      cases ha : a.group with
      | none => rfl
      | some n => rw [ha] at hset; cases hset
    have hget := get_assemble (pairwise_parts a e) hgroup (by rw [hnone]; exact Nat.two_pow_pos _)
    rw [hnone] at hget
    exact hget
  word3 := by
    refine ⟨a.operands.length, h.length_le_listedSlots, fun i => ?_⟩
    have hget := toNat_get_nibble h i
    rw [ne_eq, ← UInt32.toNat_inj, hget]
    -- operand indices are positive, so a nibble is zero only past the last operand
    cases hi : a.operands[i.val]? with
    | none =>
      have hlen := List.getElem?_eq_none_iff.mp hi
      exact iff_of_false (fun hne => hne rfl) (Nat.not_lt_of_le hlen)
    | some n =>
      have hpos := (h.operand_lt n (List.mem_of_getElem? hi)).1
      exact iff_of_true (Nat.ne_of_gt hpos) (List.getElem?_eq_some_iff.mp hi).1

/-! ## Attributes of a canonical record -/

theorem get_eq_rawWord {α : Type} [DecidableEq α] [Enumeration α] {x : α}
    (h : (f.get w).toNat = raw x) : f.get w = rawWord x := by
  rw [rawWord, ← h, UInt32.ofNat_toNat]

theorem get_eq_bitWord (hsize : f.size = 1) : f.get w = bitWord (f.isSet w) :=
  Field.get_of_size_eq_one hsize

/-- The group of a canonical record is stored as it is read. -/
theorem get_group (h : p.CanonicalFor e) {fs : Layout.Shared} (hfs : Layout.shared? e = some fs) :
    fs.hasGroup.get p.word2 = bitWord (Info.readGroup fs p.word2).isSome ∧
      fs.group.get p.word2 = UInt32.ofNat ((Info.readGroup fs p.word2).getD 0) := by
  unfold Info.readGroup
  rw [get_eq_bitWord (size_group hfs).1]
  split
  · next hset => exact ⟨by rw [hset]; rfl, UInt32.ofNat_toNat.symm⟩
  · next hset =>
    have hset : fs.hasGroup.isSet p.word2 = false := Bool.eq_false_iff.mpr hset
    exact ⟨by rw [hset]; rfl, h.group fs hfs (Field.isSet_eq_false_iff.mp hset)⟩

/-- Every group that is read fits into its field. -/
theorem readGroup_lt {fs : Layout.Shared} (hfs : Layout.shared? e = some fs) :
    (Info.readGroup fs w).getD 0 < 2 ^ 3 := by
  unfold Info.readGroup
  split
  · exact (size_group hfs).2 ▸ fs.group.get_lt w
  · decide

/-- The operands that a canonical record lists. -/
theorem exists_operands (h : p.CanonicalFor e) :
    ∃ l : List Nat, l.length ≤ e.listedSlots ∧ (∀ i ∈ l, 0 < i ∧ i < 2 ^ 4) ∧
      ∀ i : Fin 8, ((Field.nibble i).get p.word3).toNat = l[i.val]?.getD 0 := by
  obtain ⟨n, hn, hword3⟩ := h.word3
  have hn8 : n ≤ 8 := Nat.le_trans hn (Nat.le_trans e.listedSlots_le (by decide))
  let index (i : Fin n) : Nat := ((Field.nibble (i.castLE hn8)).get p.word3).toNat
  refine ⟨List.ofFn index, by rwa [List.length_ofFn], ?_, ?_⟩
  · intro v hv
    obtain ⟨i, rfl⟩ := List.mem_ofFn.mp hv
    have hne := (hword3 (i.castLE hn8)).mpr i.isLt
    exact ⟨Nat.pos_of_ne_zero fun h => hne (UInt32.toNat_inj.mp h), Field.get_lt _ _⟩
  · intro i
    rw [List.getElem?_ofFn]
    split
    · rfl
    · next hi =>
      have hzero := (not_congr (hword3 i)).mpr hi
      rw [Decidable.not_not.mp hzero]
      rfl

/-- A canonical record is packed from attributes that its fields hold. -/
theorem pack_eq_of_get_eq (h : p.CanonicalFor e) (hfits : a.Fits e)
    (hopcode : a.opcode = some p.opcode) (hparts : ∀ q ∈ a.parts e, q.1.get p.word2 = q.2)
    (hoperands : ∀ i : Fin 8, ((Field.nibble i).get p.word3).toNat = a.operands[i.val]?.getD 0) :
    a.pack e = p := by
  have hword1 : (a.pack e).word1 = p.word1 := by
    apply assemble_eq (pairwise_word1 _ _)
    · simp only [List.forall_mem_cons]
      refine ⟨get_eq_rawWord h.encoding, ?_, List.forall_mem_nil _⟩
      rw [hopcode]
      exact UInt32.ofNat_toNat.symm
    · change p.word1 &&& ~~~ Field.maskOf Layout.word1 = 0
      rw [maskOf_word1, UInt32.not_not]
      exact h.word1
  have hword2 : (a.pack e).word2 = p.word2 := by
    apply assemble_eq (pairwise_parts a e) hparts
    rw [map_fst_parts, maskOf_partFields]
    exact h.word2
  have hword3 : (a.pack e).word3 = p.word3 := by
    -- the nibbles cover the word, unlike the slots
    have hmask : ~~~ Field.maskOf ((List.finRange 8).map Field.nibble) = 0 := by decide
    have hget : ∀ f ∈ (List.finRange 8).map Field.nibble,
        f.get (a.pack e).word3 = f.get p.word3 := by
      intro f hf
      obtain ⟨i, -, rfl⟩ := List.mem_map.mp hf
      exact UInt32.toNat_inj.mp ((toNat_get_nibble hfits i).trans (hoperands i).symm)
    exact Field.eq_of_get_eq (by rw [hmask, UInt32.and_zero]) (by rw [hmask, UInt32.and_zero]) hget
  calc a.pack e = ⟨(a.pack e).word1, (a.pack e).word2, (a.pack e).word3⟩ := rfl
    _ = p := by rw [hword1, hword2, hword3]

/-- An enumerated field of a canonical record holds a member. -/
theorem exists_raw (h : p.CanonicalFor e) {α : Type} [DecidableEq α] [Enumeration α]
    (part : SubField × Field) (hpart : part ∈ Layout.word2 e := by decide)
    (hcount : part.1.members? e = some (count α) := by rfl) :
    ∃ x : α, (part.2.get p.word2).toNat = raw x :=
  Enumeration.exists_raw_eq (h.member part hpart _ hcount)

theorem opcode_lt (p : Packed) : p.opcode < 2 ^ 16 :=
  Field.get_lt _ _

/-- **A canonical record is the packed record of some attributes.** -/
theorem exists_pack_eq (h : p.CanonicalFor e) : ∃ a : Attributes, a.Fits e ∧ a.pack e = p := by
  obtain ⟨operands, hlength, hlt, hoperands⟩ := exists_operands h
  cases e with
  | legacy =>
    obtain ⟨prefixByte, hprefix⟩ : ∃ x : PrefixByte, _ :=
      exists_raw h (.prefixByte, Layout.Legacy.shared.prefixByte)
    obtain ⟨table, htable⟩ : ∃ x : LegacyMap, _ :=
      exists_raw h (.table, Layout.Legacy.shared.table)
    obtain ⟨encodable, hencodable⟩ : ∃ x : Encodable, _ :=
      exists_raw h (.encodable, Layout.Legacy.shared.encodable)
    obtain ⟨allowedPrefixes, hallowed⟩ : ∃ x : AllowedPrefixes, _ :=
      exists_raw h (.allowedPrefixes, Layout.Legacy.allowedPrefixes)
    obtain ⟨operandSize, hoperand⟩ : ∃ x : Width, _ :=
      exists_raw h (.operandSize, Layout.Legacy.operandSize)
    obtain ⟨addressSize, haddress⟩ : ∃ x : Width, _ :=
      exists_raw h (.addressSize, Layout.Legacy.addressSize)
    have hshared : Layout.shared? .legacy = some Layout.Legacy.shared := rfl
    obtain ⟨hhas, hgroup⟩ := get_group h hshared
    let a : Attributes :=
      { opcode := some p.opcode, operands, encodable, prefixByte, legacyMap := table
        group := Info.readGroup Layout.Legacy.shared p.word2, allowedPrefixes, operandSize
        addressSize, noPrefix := Layout.Legacy.noPrefix.isSet p.word2
        fwait := Layout.Legacy.fwait.isSet p.word2 }
    have hfits : a.Fits .legacy :=
      { opcode := ⟨_, rfl, opcode_lt p⟩, group := readGroup_lt hshared
        evexLength := Nat.two_pow_pos 2, length_le := hlength, operand_lt := hlt
        noOperands := Encoding.noConfusion }
    refine ⟨a, hfits, pack_eq_of_get_eq h hfits rfl ?_ hoperands⟩
    simp only [parts, sharedParts, List.cons_append, List.nil_append, List.forall_mem_cons]
    exact ⟨get_eq_rawWord hprefix, get_eq_rawWord htable, hhas, hgroup,
      get_eq_rawWord hencodable, get_eq_bitWord rfl, get_eq_rawWord hallowed, get_eq_bitWord rfl,
      get_eq_rawWord hoperand, get_eq_rawWord haddress, List.forall_mem_nil _⟩
  | vex =>
    obtain ⟨prefixByte, hprefix⟩ : ∃ x : PrefixByte, _ :=
      exists_raw h (.prefixByte, Layout.Vector.shared.prefixByte)
    obtain ⟨table, htable⟩ : ∃ x : VectorMap, _ :=
      exists_raw h (.table, Layout.Vector.shared.table)
    obtain ⟨encodable, hencodable⟩ : ∃ x : Encodable, _ :=
      exists_raw h (.encodable, Layout.Vector.shared.encodable)
    obtain ⟨length, hlen⟩ : ∃ x : VexLength, _ :=
      exists_raw h (.vectorLength, Layout.Vex.vectorLength)
    obtain ⟨w, hw⟩ : ∃ x : WBit, _ := exists_raw h (.w, Layout.Vex.w)
    have hshared : Layout.shared? .vex = some Layout.Vector.shared := rfl
    obtain ⟨hhas, hgroup⟩ := get_group h hshared
    let a : Attributes :=
      { opcode := some p.opcode, operands, encodable, prefixByte, vectorMap := table
        group := Info.readGroup Layout.Vector.shared p.word2, vexLength := length, w }
    have hfits : a.Fits .vex :=
      { opcode := ⟨_, rfl, opcode_lt p⟩, group := readGroup_lt hshared
        evexLength := Nat.two_pow_pos 2, length_le := hlength, operand_lt := hlt
        noOperands := Encoding.noConfusion }
    refine ⟨a, hfits, pack_eq_of_get_eq h hfits rfl ?_ hoperands⟩
    simp only [parts, sharedParts, List.cons_append, List.nil_append, List.forall_mem_cons]
    exact ⟨get_eq_rawWord hprefix, get_eq_rawWord htable, hhas, hgroup,
      get_eq_rawWord hencodable, get_eq_rawWord hlen, get_eq_rawWord hw, List.forall_mem_nil _⟩
  | evex =>
    obtain ⟨prefixByte, hprefix⟩ : ∃ x : PrefixByte, _ :=
      exists_raw h (.prefixByte, Layout.Vector.shared.prefixByte)
    obtain ⟨table, htable⟩ : ∃ x : VectorMap, _ :=
      exists_raw h (.table, Layout.Vector.shared.table)
    obtain ⟨encodable, hencodable⟩ : ∃ x : Encodable, _ :=
      exists_raw h (.encodable, Layout.Vector.shared.encodable)
    obtain ⟨tupleType, htuple⟩ : ∃ x : TupleType, _ :=
      exists_raw h (.tupleType, Layout.Evex.tupleType)
    obtain ⟨w, hw⟩ : ∃ x : WBit, _ := exists_raw h (.w, Layout.Evex.w)
    have hshared : Layout.shared? .evex = some Layout.Vector.shared := rfl
    obtain ⟨hhas, hgroup⟩ := get_group h hshared
    let a : Attributes :=
      { opcode := some p.opcode, operands, encodable, prefixByte, vectorMap := table
        group := Info.readGroup Layout.Vector.shared p.word2, tupleType, w
        evexLength := (Layout.Evex.vectorLength.get p.word2).toNat
        lig := Layout.Evex.lig.isSet p.word2, broadcast := Layout.Evex.broadcast.isSet p.word2
        roundingControl := Layout.Evex.roundingControl.isSet p.word2
        sae := Layout.Evex.sae.isSet p.word2, opmask := Layout.Evex.opmask.isSet p.word2
        zeroing := Layout.Evex.zeroing.isSet p.word2 }
    have hfits : a.Fits .evex :=
      { opcode := ⟨_, rfl, opcode_lt p⟩, group := readGroup_lt hshared
        evexLength := Field.get_lt _ _, length_le := hlength, operand_lt := hlt
        noOperands := Encoding.noConfusion }
    refine ⟨a, hfits, pack_eq_of_get_eq h hfits rfl ?_ hoperands⟩
    simp only [parts, sharedParts, List.cons_append, List.nil_append, List.forall_mem_cons]
    exact ⟨get_eq_rawWord hprefix, get_eq_rawWord htable, hhas, hgroup,
      get_eq_rawWord hencodable, get_eq_rawWord htuple, UInt32.ofNat_toNat.symm,
      get_eq_rawWord hw, get_eq_bitWord rfl, get_eq_bitWord rfl, get_eq_bitWord rfl,
      get_eq_bitWord rfl, get_eq_bitWord rfl, get_eq_bitWord rfl, List.forall_mem_nil _⟩
  | xop =>
    obtain ⟨prefixByte, hprefix⟩ : ∃ x : PrefixByte, _ :=
      exists_raw h (.prefixByte, Layout.Vector.shared.prefixByte)
    obtain ⟨table, htable⟩ : ∃ x : XopMap, _ :=
      exists_raw h (.table, Layout.Vector.shared.table)
    obtain ⟨encodable, hencodable⟩ : ∃ x : Encodable, _ :=
      exists_raw h (.encodable, Layout.Vector.shared.encodable)
    obtain ⟨length, hlen⟩ : ∃ x : XopLength, _ :=
      exists_raw h (.vectorLength, Layout.Xop.vectorLength)
    obtain ⟨w, hw⟩ : ∃ x : WBit, _ := exists_raw h (.w, Layout.Xop.w)
    have hshared : Layout.shared? .xop = some Layout.Vector.shared := rfl
    obtain ⟨hhas, hgroup⟩ := get_group h hshared
    let a : Attributes :=
      { opcode := some p.opcode, operands, encodable, prefixByte, xopMap := table
        group := Info.readGroup Layout.Vector.shared p.word2, xopLength := length, w }
    have hfits : a.Fits .xop :=
      { opcode := ⟨_, rfl, opcode_lt p⟩, group := readGroup_lt hshared
        evexLength := Nat.two_pow_pos 2, length_le := hlength, operand_lt := hlt
        noOperands := Encoding.noConfusion }
    refine ⟨a, hfits, pack_eq_of_get_eq h hfits rfl ?_ hoperands⟩
    simp only [parts, sharedParts, List.cons_append, List.nil_append, List.forall_mem_cons]
    exact ⟨get_eq_rawWord hprefix, get_eq_rawWord htable, hhas, hgroup,
      get_eq_rawWord hencodable, get_eq_rawWord hlen, get_eq_rawWord hw, List.forall_mem_nil _⟩
  | threeDNow =>
    obtain ⟨encodable, hencodable⟩ : ∃ x : Encodable, _ :=
      exists_raw h (.encodable, Layout.ThreeDNow.encodable)
    have hempty : operands = [] := List.eq_nil_of_length_eq_zero (Nat.le_zero.mp hlength)
    let a : Attributes := { opcode := some p.opcode, operands, encodable }
    have hfits : a.Fits .threeDNow :=
      { opcode := ⟨_, rfl, opcode_lt p⟩, group := Nat.two_pow_pos 3
        evexLength := Nat.two_pow_pos 2, length_le := Nat.le_trans hlength (Nat.zero_le _)
        operand_lt := hlt, noOperands := fun _ => hempty }
    refine ⟨a, hfits, pack_eq_of_get_eq h hfits rfl ?_ hoperands⟩
    simp only [parts, List.forall_mem_cons]
    exact ⟨get_eq_rawWord hencodable, List.forall_mem_nil _⟩

end Attributes

/-! ## Lines -/

/-- **The packed records of table lines are exactly the canonical ones.** -/
theorem Record.exists_line_iff_canonical (p : Packed) :
    (∃ line r, read line = .ok r ∧ r.packed = p) ↔ p.Canonical := by
  constructor
  · rintro ⟨line, r, hread, rfl⟩
    obtain ⟨name, mnemonic, e, ws, as, -, -, hfits, rfl⟩ := exists_attributes hread
    exact ⟨e, Attributes.canonicalFor_pack hfits⟩
  · rintro ⟨e, h⟩
    obtain ⟨a, hfits, rfl⟩ := Attributes.exists_pack_eq h
    exact exists_line hfits

end OpcodeForms
