import OpcodeForms.Proofs.Decoding
import OpcodeForms.Source.Attributes

/-!
# What packing stores

`Attributes.assemble` writes the fields of a word one after the other. Since no two of them
overlap, each of them holds its value at the end, and nothing is written outside of them. So the
fields of a packed record hold the attributes (`pack`), provided that these fit into their
fields, and decoding finds them there.
-/

namespace OpcodeForms

open Enumeration (raw)

namespace Attributes

variable {qs : List (Field × UInt32)} {f : Field} {v w : UInt32} {i : Nat}

/-! ## Assembled words -/

theorem get_foldl_set :
    ∀ {qs : List (Field × UInt32)}, (∀ q ∈ qs, ¬ f.Overlaps q.1) → ∀ w,
      f.get (qs.foldl (fun w q => q.1.set w q.2) w) = f.get w
  | [], _, _ => rfl
  | q :: qs, h, w => by
    rw [List.foldl_cons, get_foldl_set fun r hr => h r (List.mem_cons_of_mem q hr)]
    exact Field.get_set_of_not_overlaps (h q List.mem_cons_self)

/-- **Each field of an assembled word holds its value.** -/
theorem get_assemble (hqs : qs.Pairwise fun q r => ¬ q.1.Overlaps r.1)
    (hmem : (f, v) ∈ qs) (hv : v.toNat < 2 ^ f.size) : f.get (assemble qs) = v := by
  obtain ⟨before, after, rfl⟩ := List.append_of_mem hmem
  -- the writes after that of the field do not touch it
  have hafter : ∀ q ∈ after, ¬ f.Overlaps q.1 :=
    (List.pairwise_cons.mp (List.pairwise_append.mp hqs).2.1).1
  rw [assemble, List.foldl_append, List.foldl_cons, get_foldl_set hafter]
  exact Field.get_set_self hv

/-- A field that overlaps with no part of an assembled word is zero. -/
theorem get_assemble_of_not_overlaps (h : ∀ q ∈ qs, ¬ f.Overlaps q.1) :
    f.get (assemble qs) = 0 := by
  rw [assemble, get_foldl_set h]
  apply Bits.ext_bit
  intro i _
  rw [Field.bit_get, Bits.bit_zero, Bool.and_false, Bits.bit_zero]

/-- An assembled word has no bits outside of its fields. -/
theorem bit_assemble (h : ∀ q ∈ qs, ¬ q.1.Covers i) : Bits.bit (assemble qs) i = false := by
  have key : ∀ (qs : List (Field × UInt32)) (w : UInt32), (∀ q ∈ qs, ¬ q.1.Covers i) →
      Bits.bit (qs.foldl (fun w q => q.1.set w q.2) w) i = Bits.bit w i := by
    intro qs
    induction qs with
    | nil => intro _ _; rfl
    | cons q qs ih =>
      intro w h
      rw [List.foldl_cons, ih _ fun r hr => h r (List.mem_cons_of_mem q hr)]
      exact Field.bit_set_of_not_covers (h q List.mem_cons_self)
  rw [assemble, key qs 0 h, Bits.bit_zero]

/-- The fields of a word do not overlap, whatever their values are. -/
theorem pairwise_of_map_fst (h : (qs.map (·.1)).Pairwise fun f g => ¬ f.Overlaps g) :
    qs.Pairwise fun q r => ¬ q.1.Overlaps r.1 :=
  List.pairwise_map.mp h

/-! ## Values of fields -/

section

variable {α : Type} [DecidableEq α] [Enumeration α]

theorem toNat_rawWord (a : α) (h : Enumeration.count α ≤ 2 ^ 32 := by decide) :
    (rawWord a).toNat = raw a :=
  Bits.toNat_ofNat_of_lt (Nat.lt_of_lt_of_le (Enumeration.raw_lt a) h)

/-- The field of an enumerated attribute holds its raw value. -/
theorem toNat_get_assemble_rawWord {a : α}
    (hqs : qs.Pairwise fun q r => ¬ q.1.Overlaps r.1) (hmem : (f, rawWord a) ∈ qs)
    (hcount : Enumeration.count α ≤ 2 ^ f.size) : (f.get (assemble qs)).toNat = raw a := by
  have hword : Enumeration.count α ≤ 2 ^ 32 :=
    Nat.le_trans hcount (Nat.pow_le_pow_right (by decide) f.size_le)
  rw [get_assemble hqs hmem, toNat_rawWord a hword]
  rw [toNat_rawWord a hword]
  exact Nat.lt_of_lt_of_le (Enumeration.raw_lt a) hcount

end

/-- The field of a switch is set if the switch is on. -/
theorem isSet_assemble_bitWord {b : Bool}
    (hqs : qs.Pairwise fun q r => ¬ q.1.Overlaps r.1) (hmem : (f, bitWord b) ∈ qs) :
    f.isSet (assemble qs) = b := by
  have hpos : 2 ^ 1 ≤ 2 ^ f.size := Nat.pow_le_pow_right (by decide) f.size_pos
  rw [Field.isSet, get_assemble hqs hmem]
  · cases b <;> rfl
  · refine Nat.lt_of_lt_of_le ?_ hpos
    cases b <;> decide

theorem toNat_get_assemble_ofNat {n : Nat}
    (hqs : qs.Pairwise fun q r => ¬ q.1.Overlaps r.1) (hmem : (f, UInt32.ofNat n) ∈ qs)
    (hn : n < 2 ^ f.size) : (f.get (assemble qs)).toNat = n := by
  have hword : n < 2 ^ 32 := Nat.lt_of_lt_of_le hn (Nat.pow_le_pow_right (by decide) f.size_le)
  rw [get_assemble hqs hmem, Bits.toNat_ofNat_of_lt hword]
  rwa [Bits.toNat_ofNat_of_lt hword]

/-! ## Attributes that fit -/

/-- The attributes fit into the fields of the encoding. This holds of the attributes of every
table line. -/
structure Fits (a : Attributes) (e : Encoding) : Prop where
  opcode : ∃ n, a.opcode = some n ∧ n < 2 ^ 16
  group : a.group.getD 0 < 2 ^ 3
  evexLength : a.evexLength < 2 ^ 2
  length_le : a.operands.length ≤ e.opSlots
  operand_lt : ∀ i ∈ a.operands, 0 < i ∧ i < 2 ^ 4
  noOperands : e = .threeDNow → a.operands = []

variable {a : Attributes} {e : Encoding} {form : Form}

/-- The fields that the second word is assembled from. -/
def partFields (e : Encoding) : List Field :=
  (parts {} e).map (·.1)

theorem map_fst_parts (a : Attributes) (e : Encoding) :
    (a.parts e).map (·.1) = partFields e := by
  cases e <;> rfl

theorem pairwise_partFields (e : Encoding) :
    (partFields e).Pairwise fun f g => ¬ f.Overlaps g := by
  cases e <;> decide

theorem pairwise_parts (a : Attributes) (e : Encoding) :
    (a.parts e).Pairwise fun q r => ¬ q.1.Overlaps r.1 := by
  apply pairwise_of_map_fst
  rw [map_fst_parts]
  exact pairwise_partFields e

/-! ## First word -/

theorem pairwise_word1 (v w : UInt32) :
    [(Layout.encoding, v), (Layout.opcode, w)].Pairwise fun q r => ¬ q.1.Overlaps r.1 :=
  pairwise_of_map_fst (show [Layout.encoding, Layout.opcode].Pairwise _ by decide)

theorem pack_hasEncoding (a : Attributes) (e : Encoding) : (a.pack e).HasEncoding e :=
  toNat_get_assemble_rawWord (pairwise_word1 _ _) List.mem_cons_self (by decide)

theorem pack_opcode (h : a.Fits e) : a.opcode = some (a.pack e).opcode := by
  obtain ⟨n, hn, hlt⟩ := h.opcode
  have hget : (a.pack e).opcode = a.opcode.getD 0 := by
    apply toNat_get_assemble_ofNat (pairwise_word1 _ _)
      (List.mem_cons_of_mem _ List.mem_cons_self)
    rw [hn]
    exact hlt
  rw [hget, hn, Option.getD_some]

/-! ## Third word -/

theorem pairwise_zip_word3 (vs : List UInt32) :
    (Layout.word3.zip vs).Pairwise fun q r => ¬ q.1.Overlaps r.1 := by
  have hfields : Layout.word3.Pairwise fun f g => ¬ f.Overlaps g := by decide
  rw [List.pairwise_iff_getElem] at hfields ⊢
  intro i j hi hj hij
  rw [List.getElem_zip, List.getElem_zip]
  rw [List.length_zip] at hi hj
  exact hfields i j (Nat.lt_of_lt_of_le hi (Nat.min_le_left _ _))
    (Nat.lt_of_lt_of_le hj (Nat.min_le_left _ _)) hij

/-- The slots of the third word hold the operand indices, and zeros after them. -/
theorem toNat_get_operand (h : a.Fits e) (i : Fin Layout.slotCount) :
    ((Layout.operand i).get (a.pack e).word3).toNat = a.operands[i.val]?.getD 0 := by
  change ((Layout.operand i).get (assemble _)).toNat = _
  cases hi : a.operands[i.val]? with
  | some n =>
    have hmem : (Layout.operand i, UInt32.ofNat n)
        ∈ Layout.word3.zip (a.operands.map UInt32.ofNat) := by
      apply List.mem_of_getElem? (i := i.val)
      rw [List.getElem?_zip_eq_some, List.getElem?_map, hi]
      exact ⟨Layout.getElem?_word3 i, rfl⟩
    exact toNat_get_assemble_ofNat (pairwise_zip_word3 _) hmem
      (h.operand_lt n (List.mem_of_getElem? hi)).2
  | none =>
    rw [get_assemble_of_not_overlaps]
    · rfl
    · -- slot `i` is past the end of the operands, so every field that is written is another one
      intro q hq
      obtain ⟨j, hj⟩ := List.mem_iff_getElem?.mp hq
      obtain ⟨hfield, hvalue⟩ := List.getElem?_zip_eq_some.mp hj
      have hlt : j < Layout.slotCount := (List.getElem?_eq_some_iff.mp hfield).1
      rw [Layout.getElem?_word3 ⟨j, hlt⟩] at hfield
      rw [← Option.some.inj hfield]
      apply Layout.operand_not_overlaps
      rintro rfl
      rw [List.getElem?_map, hi] at hvalue
      cases hvalue

/-- The kinds of the listed operands, with unused slots after them. -/
def slots (a : Attributes) (e : Encoding) : List OperandKind :=
  (List.finRange Layout.slotCount).map fun (i : Fin Layout.slotCount) =>
    (a.operands[i.val]?.bind (OperandCode.kind? e)).getD .none

theorem slotKinds_pack (h : a.Fits e) (he : e ≠ .threeDNow) :
    Info.slotKinds e (a.pack e).word3 = a.slots e := by
  apply List.map_congr_left
  intro i _
  unfold Info.slotKind
  rw [toNat_get_operand h]
  cases hi : a.operands[i.val]? with
  | some n =>
    have hlt : i.val < e.opSlots :=
      Nat.lt_of_lt_of_le (List.getElem?_eq_some_iff.mp hi).1 h.length_le
    rw [if_pos hlt]
    rfl
  | none =>
    -- index 0 is that of an unused slot
    have hzero : OperandCode.kind? e 0 = some .none := by
      cases e <;> first | rfl | exact absurd rfl he
    rw [Option.getD_none, hzero]
    split <;> rfl

/-! ## Second word -/

/-- The modes of a form: those of its attributes if it is an instruction. -/
def modes (a : Attributes) (form : Form) : Encodable :=
  if form.isInstruction then a.encodable else .any

theorem readEncodable_eq_modes {w : UInt32} (h : (f.get w).toNat = raw a.encodable) :
    Info.readEncodable form f w = .ok (a.modes form) := by
  rw [Info.readEncodable_eq_ok_iff, modes]
  cases form.isInstruction with
  | true => exact h
  | false => rfl

theorem readGroup_eq_group {fs : Layout.Shared} {w : UInt32}
    (hhas : fs.hasGroup.isSet w = a.group.isSome)
    (hgroup : (fs.group.get w).toNat = a.group.getD 0) : Info.readGroup fs w = a.group := by
  rw [Info.readGroup, hhas, hgroup]
  cases a.group <;> rfl

/-- The fields of the legacy record. -/
def legacyFields (a : Attributes) (form : Form) : LegacyFields :=
  { a with table := a.legacyMap, encodable := a.modes form, slots := a.slots .legacy }

/-- The fields of the VEX record. -/
def vexFields (a : Attributes) (form : Form) : VexFields :=
  { a with
    table := a.vectorMap, length := a.vexLength, encodable := a.modes form, slots := a.slots .vex }

/-- The fields of the EVEX record. -/
def evexFields (a : Attributes) (form : Form) : EvexFields :=
  { a with
    table := a.vectorMap, length := a.evexLength, encodable := a.modes form
    slots := a.slots .evex }

/-- The fields of the XOP record. -/
def xopFields (a : Attributes) (form : Form) : XopFields :=
  { a with
    table := a.xopMap, length := a.xopLength, encodable := a.modes form, slots := a.slots .xop }

theorem legacyFields_heldBy (h : a.Fits .legacy) :
    (a.legacyFields form).HeldBy form (a.pack .legacy) := by
  have hqs := pairwise_parts a .legacy
  exact {
    prefixByte := toNat_get_assemble_rawWord hqs (by simp [parts, sharedParts, legacyFields])
      (by decide)
    noPrefix := isSet_assemble_bitWord hqs (by simp [parts, legacyFields])
    table := toNat_get_assemble_rawWord hqs (by simp [parts, sharedParts, legacyFields]) (by decide)
    group := readGroup_eq_group (isSet_assemble_bitWord hqs (by simp [parts, sharedParts]))
      (toNat_get_assemble_ofNat hqs (by simp [parts, sharedParts]) h.group)
    encodable := readEncodable_eq_modes
      (toNat_get_assemble_rawWord hqs (by simp [parts, sharedParts]) (by decide))
    allowedPrefixes := toNat_get_assemble_rawWord hqs (by simp [parts, legacyFields]) (by decide)
    fwait := isSet_assemble_bitWord hqs (by simp [parts, legacyFields])
    operandSize := toNat_get_assemble_rawWord hqs (by simp [parts, legacyFields]) (by decide)
    addressSize := toNat_get_assemble_rawWord hqs (by simp [parts, legacyFields]) (by decide)
    slots := slotKinds_pack h (by decide) }

theorem vexFields_heldBy (h : a.Fits .vex) :
    (a.vexFields form).HeldBy form (a.pack .vex) := by
  have hqs := pairwise_parts a .vex
  exact {
    prefixByte := toNat_get_assemble_rawWord hqs (by simp [parts, sharedParts, vexFields])
      (by decide)
    table := toNat_get_assemble_rawWord hqs (by simp [parts, sharedParts, vexFields]) (by decide)
    group := readGroup_eq_group (isSet_assemble_bitWord hqs (by simp [parts, sharedParts]))
      (toNat_get_assemble_ofNat hqs (by simp [parts, sharedParts]) h.group)
    encodable := readEncodable_eq_modes
      (toNat_get_assemble_rawWord hqs (by simp [parts, sharedParts]) (by decide))
    length := toNat_get_assemble_rawWord hqs (by simp [parts, vexFields]) (by decide)
    w := toNat_get_assemble_rawWord hqs (by simp [parts, vexFields]) (by decide)
    slots := slotKinds_pack h (by decide) }

theorem evexFields_heldBy (h : a.Fits .evex) :
    (a.evexFields form).HeldBy form (a.pack .evex) := by
  have hqs := pairwise_parts a .evex
  exact {
    prefixByte := toNat_get_assemble_rawWord hqs (by simp [parts, sharedParts, evexFields])
      (by decide)
    table := toNat_get_assemble_rawWord hqs (by simp [parts, sharedParts, evexFields]) (by decide)
    group := readGroup_eq_group (isSet_assemble_bitWord hqs (by simp [parts, sharedParts]))
      (toNat_get_assemble_ofNat hqs (by simp [parts, sharedParts]) h.group)
    encodable := readEncodable_eq_modes
      (toNat_get_assemble_rawWord hqs (by simp [parts, sharedParts]) (by decide))
    tupleType := toNat_get_assemble_rawWord hqs (by simp [parts, evexFields]) (by decide)
    length := toNat_get_assemble_ofNat hqs (by simp [parts, evexFields]) h.evexLength
    w := toNat_get_assemble_rawWord hqs (by simp [parts, evexFields]) (by decide)
    lig := isSet_assemble_bitWord hqs (by simp [parts, evexFields])
    broadcast := isSet_assemble_bitWord hqs (by simp [parts, evexFields])
    roundingControl := isSet_assemble_bitWord hqs (by simp [parts, evexFields])
    sae := isSet_assemble_bitWord hqs (by simp [parts, evexFields])
    opmask := isSet_assemble_bitWord hqs (by simp [parts, evexFields])
    zeroing := isSet_assemble_bitWord hqs (by simp [parts, evexFields])
    slots := slotKinds_pack h (by decide) }

theorem xopFields_heldBy (h : a.Fits .xop) :
    (a.xopFields form).HeldBy form (a.pack .xop) := by
  have hqs := pairwise_parts a .xop
  exact {
    prefixByte := toNat_get_assemble_rawWord hqs (by simp [parts, sharedParts, xopFields])
      (by decide)
    table := toNat_get_assemble_rawWord hqs (by simp [parts, sharedParts, xopFields]) (by decide)
    group := readGroup_eq_group (isSet_assemble_bitWord hqs (by simp [parts, sharedParts]))
      (toNat_get_assemble_ofNat hqs (by simp [parts, sharedParts]) h.group)
    encodable := readEncodable_eq_modes
      (toNat_get_assemble_rawWord hqs (by simp [parts, sharedParts]) (by decide))
    length := toNat_get_assemble_rawWord hqs (by simp [parts, xopFields]) (by decide)
    w := toNat_get_assemble_rawWord hqs (by simp [parts, xopFields]) (by decide)
    slots := slotKinds_pack h (by decide) }

/-- The decoded record of a form with these attributes. -/
def info (a : Attributes) (form : Form) : Encoding → Info
  | .legacy => (a.legacyFields form).info form (a.opcode.getD 0)
  | .vex => (a.vexFields form).info form (a.opcode.getD 0)
  | .evex => (a.evexFields form).info form (a.opcode.getD 0)
  | .xop => (a.xopFields form).info form (a.opcode.getD 0)
  | .threeDNow => Info.ofThreeDNow form (a.opcode.getD 0) (a.modes form)

/-- **Decoding undoes packing.** -/
theorem decode_pack (h : a.Fits e) (form : Form) :
    Info.decode form (a.pack e) = .ok (a.info form e) := by
  have hopcode : a.opcode.getD 0 = (a.pack e).opcode := by
    rw [pack_opcode h, Option.getD_some]
  rw [Info.decode_eq_ok_iff]
  unfold info
  rw [hopcode]
  cases e with
  | legacy => exact .legacy _ (pack_hasEncoding a _) (legacyFields_heldBy h) rfl
  | vex => exact .vex _ (pack_hasEncoding a _) (vexFields_heldBy h) rfl
  | evex => exact .evex _ (pack_hasEncoding a _) (evexFields_heldBy h) rfl
  | xop => exact .xop _ (pack_hasEncoding a _) (xopFields_heldBy h) rfl
  | threeDNow =>
    refine .threeDNow _ (pack_hasEncoding a _) (readEncodable_eq_modes ?_) rfl
    exact toNat_get_assemble_rawWord (pairwise_parts a .threeDNow) List.mem_cons_self (by decide)

end Attributes

end OpcodeForms
