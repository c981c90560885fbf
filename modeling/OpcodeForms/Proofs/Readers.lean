import OpcodeForms.Info.Decode
import OpcodeForms.Proofs.Enumerations
import OpcodeForms.Proofs.Fields

/-!
# What a reader accepts

The first step of decoding takes the fields of a record apart. Here is for each reader which
records it accepts and with what result: `HeldBy` lists what each field has to hold. The readers
themselves are not opened after this.
-/

namespace OpcodeForms

/-! ## `Except` -/

section

variable {ε α β : Type}

theorem bind_eq_ok_iff {x : Except ε α} {f : α → Except ε β} {b : β} :
    x >>= f = .ok b ↔ ∃ a, x = .ok a ∧ f a = .ok b := by
  cases x <;> simp [bind, Except.bind]

theorem pure_eq_ok_iff {a b : α} : (pure a : Except ε α) = .ok b ↔ a = b := by
  simp [pure, Except.pure]

theorem ok_bind (a : α) (f : α → Except ε β) : (Except.ok a >>= f) = f a := rfl

theorem error_bind (e : ε) (f : α → Except ε β) : (Except.error e >>= f) = .error e := rfl

end

/-! ## The third word -/

namespace Layout

theorem getElem?_word3 (i : Fin slotCount) : word3[i.val]? = some (operand i) := by
  revert i
  decide

theorem operand_not_overlaps {i j : Fin slotCount} (h : i ≠ j) :
    ¬ (operand i).Overlaps (operand j) := by
  revert i j
  decide

/-- The first fields of the third word are those of the first slots. -/
theorem mem_take_word3_iff {n : Nat} {f : Field} :
    f ∈ word3.take n ↔ ∃ i : Fin slotCount, i.val < n ∧ f = operand i := by
  constructor
  · intro h
    obtain ⟨i, hi, rfl⟩ := List.mem_take_iff_getElem.mp h
    have hlt : i < slotCount := Nat.lt_of_lt_of_le hi (Nat.min_le_right _ _)
    refine ⟨⟨i, hlt⟩, Nat.lt_of_lt_of_le hi (Nat.min_le_left _ _), ?_⟩
    have hget := getElem?_word3 ⟨i, hlt⟩
    rw [List.getElem?_eq_getElem hlt] at hget
    exact Option.some.inj hget
  · rintro ⟨i, hi, rfl⟩
    apply List.mem_of_getElem? (i := i.val)
    rw [List.getElem?_take_of_lt hi, getElem?_word3]

end Layout

namespace Info

variable {α : Type} [DecidableEq α] [Enumeration α] {form : Form} {f : Field} {w : UInt32}

/-! ## Enumerated fields -/

/-- **An enumerated field is accepted with the member whose raw value it holds.** -/
theorem readField_eq_ok_iff {field : RecordField} {a : α} :
    readField α form f field w = .ok a ↔ (f.get w).toNat = Enumeration.raw a := by
  rw [← Enumeration.ofRaw?_eq_some_iff, readField]
  cases (Enumeration.ofRaw? (f.get w).toNat : Option α) <;> simp

/-- A value that is no raw value is reported. -/
theorem readField_eq_error {field : RecordField} (h : Enumeration.count α ≤ (f.get w).toNat) :
    readField α form f field w = .error { code := form.code, field, value := f.get w } := by
  rw [readField, Enumeration.ofRaw?_eq_none_iff.mpr h]

/-- A value below the number of members is accepted. -/
theorem exists_readField_eq_ok {field : RecordField}
    (h : (f.get w).toNat < Enumeration.count α) : ∃ a, readField α form f field w = .ok a := by
  obtain ⟨a, ha⟩ := Enumeration.exists_raw_eq h
  exact ⟨a, readField_eq_ok_iff.mpr ha⟩

/-- The modes are read from the field for instructions only. -/
theorem readEncodable_eq_ok_iff {a : Encodable} :
    readEncodable form f w = .ok a ↔
      if form.isInstruction then (f.get w).toNat = Enumeration.raw a else a = .any := by
  unfold readEncodable
  cases form.isInstruction with
  | true => exact readField_eq_ok_iff
  | false =>
    simp only [Bool.false_eq_true, if_false, Except.ok.injEq]
    exact eq_comm

/-- Two bits hold the raw value of the `W` attribute that is read from them. -/
theorem toNat_get_eq_raw_readW (hf : f.size = 2) :
    (f.get w).toNat = Enumeration.raw (readW f w) := by
  have hlt := f.get_lt w
  rw [hf] at hlt
  unfold readW
  generalize (f.get w).toNat = n at hlt ⊢
  match n, hlt with
  | 0, _ | 1, _ | 2, _ | 3, _ => rfl

theorem readW_eq_iff (hf : f.size = 2) {a : WBit} :
    readW f w = a ↔ (f.get w).toNat = Enumeration.raw a := by
  rw [toNat_get_eq_raw_readW hf]
  exact ⟨fun h => h ▸ rfl, fun h => Enumeration.raw_inj h⟩

/-! ## Operand slots -/

/-- The kind of the operand in slot `i` of the third word. -/
def slotKind (e : Encoding) (w : UInt32) (i : Fin Layout.slotCount) : OperandKind :=
  if i.val < e.opSlots then
    (OperandCode.kind? e ((Layout.operand i).get w).toNat).getD .none
  else .none

/-- The kinds of the operands in all slots of the third word. -/
def slotKinds (e : Encoding) (w : UInt32) : List OperandKind :=
  (List.finRange Layout.slotCount).map (slotKind e w)

/-- Every encoding with operand codes has one for each index of four bits. -/
theorem length_all_operandCode {e : Encoding} (he : e ≠ .threeDNow) :
    (OperandCode.all e).length = 16 := by
  cases e <;> first | rfl | exact absurd rfl he

theorem operand_get_lt (i : Fin Layout.slotCount) (w : UInt32) :
    ((Layout.operand i).get w).toNat < 16 :=
  (Layout.operand i).get_lt w

theorem exists_kind? {e : Encoding} {i : Nat} (he : e ≠ .threeDNow) (hi : i < 16) :
    ∃ k, OperandCode.kind? e i = some k := by
  have hlt : i < (OperandCode.all e).length := (length_all_operandCode he).symm ▸ hi
  exact ⟨_, by rw [OperandCode.kind?, List.getElem?_eq_getElem hlt, Option.map_some]⟩

theorem exists_operandKind {e : Encoding} (he : e ≠ .threeDNow) (i : Fin Layout.slotCount)
    (w : UInt32) : ∃ k, OperandCode.kind? e ((Layout.operand i).get w).toNat = some k :=
  exists_kind? he (operand_get_lt i w)

theorem mapM_eq_ok {ε α β : Type} {f : α → Except ε β} {g : α → β} :
    ∀ l : List α, (∀ a ∈ l, f a = .ok (g a)) → l.mapM f = .ok (l.map g)
  | [], _ => rfl
  | a :: l, h => by
    rw [List.mapM_cons, h a List.mem_cons_self, ok_bind,
      mapM_eq_ok l fun x hx => h x (List.mem_cons_of_mem _ hx)]
    rfl

/-- **The slots are read whatever the third word is.** -/
theorem readSlots_eq {e : Encoding} (he : e ≠ .threeDNow) :
    readSlots form e w = .ok (slotKinds e w) := by
  apply mapM_eq_ok
  intro i _
  unfold slotKind
  by_cases hi : i.val < e.opSlots
  · obtain ⟨k, hk⟩ := exists_operandKind he i w
    rw [if_pos hi, if_pos hi, readSlot, hk]
    rfl
  · rw [if_neg hi, if_neg hi]

theorem length_slotKinds (e : Encoding) (w : UInt32) :
    (slotKinds e w).length = Layout.slotCount := by
  rw [slotKinds, List.length_map, List.length_finRange]

end Info

/-! ## Records of an encoding -/

open Enumeration (raw)

/-- The fields of the legacy record `p` of a form hold what `r` says. -/
structure LegacyFields.HeldBy (r : LegacyFields) (form : Form) (p : Packed) : Prop where
  prefixByte : (Layout.Legacy.shared.prefixByte.get p.word2).toNat = raw r.prefixByte
  noPrefix : Layout.Legacy.noPrefix.isSet p.word2 = r.noPrefix
  table : (Layout.Legacy.shared.table.get p.word2).toNat = raw r.table
  group : Info.readGroup Layout.Legacy.shared p.word2 = r.group
  encodable : Info.readEncodable form Layout.Legacy.shared.encodable p.word2 = .ok r.encodable
  allowedPrefixes : (Layout.Legacy.allowedPrefixes.get p.word2).toNat = raw r.allowedPrefixes
  fwait : Layout.Legacy.fwait.isSet p.word2 = r.fwait
  operandSize : (Layout.Legacy.operandSize.get p.word2).toNat = raw r.operandSize
  addressSize : (Layout.Legacy.addressSize.get p.word2).toNat = raw r.addressSize
  slots : Info.slotKinds .legacy p.word3 = r.slots

/-- The fields of the VEX record `p` of a form hold what `r` says. -/
structure VexFields.HeldBy (r : VexFields) (form : Form) (p : Packed) : Prop where
  prefixByte : (Layout.Vector.shared.prefixByte.get p.word2).toNat = raw r.prefixByte
  table : (Layout.Vector.shared.table.get p.word2).toNat = raw r.table
  group : Info.readGroup Layout.Vector.shared p.word2 = r.group
  encodable : Info.readEncodable form Layout.Vector.shared.encodable p.word2 = .ok r.encodable
  length : (Layout.Vex.vectorLength.get p.word2).toNat = raw r.length
  w : (Layout.Vex.w.get p.word2).toNat = raw r.w
  slots : Info.slotKinds .vex p.word3 = r.slots

/-- The fields of the EVEX record `p` of a form hold what `r` says. -/
structure EvexFields.HeldBy (r : EvexFields) (form : Form) (p : Packed) : Prop where
  prefixByte : (Layout.Vector.shared.prefixByte.get p.word2).toNat = raw r.prefixByte
  table : (Layout.Vector.shared.table.get p.word2).toNat = raw r.table
  group : Info.readGroup Layout.Vector.shared p.word2 = r.group
  encodable : Info.readEncodable form Layout.Vector.shared.encodable p.word2 = .ok r.encodable
  tupleType : (Layout.Evex.tupleType.get p.word2).toNat = raw r.tupleType
  length : (Layout.Evex.vectorLength.get p.word2).toNat = r.length
  w : (Layout.Evex.w.get p.word2).toNat = raw r.w
  lig : Layout.Evex.lig.isSet p.word2 = r.lig
  broadcast : Layout.Evex.broadcast.isSet p.word2 = r.broadcast
  roundingControl : Layout.Evex.roundingControl.isSet p.word2 = r.roundingControl
  sae : Layout.Evex.sae.isSet p.word2 = r.sae
  opmask : Layout.Evex.opmask.isSet p.word2 = r.opmask
  zeroing : Layout.Evex.zeroing.isSet p.word2 = r.zeroing
  slots : Info.slotKinds .evex p.word3 = r.slots

/-- The fields of the XOP record `p` of a form hold what `r` says. -/
structure XopFields.HeldBy (r : XopFields) (form : Form) (p : Packed) : Prop where
  prefixByte : (Layout.Vector.shared.prefixByte.get p.word2).toNat = raw r.prefixByte
  table : (Layout.Vector.shared.table.get p.word2).toNat = raw r.table
  group : Info.readGroup Layout.Vector.shared p.word2 = r.group
  encodable : Info.readEncodable form Layout.Vector.shared.encodable p.word2 = .ok r.encodable
  length : (Layout.Xop.vectorLength.get p.word2).toNat = raw r.length
  w : (Layout.Xop.w.get p.word2).toNat = raw r.w
  slots : Info.slotKinds .xop p.word3 = r.slots

variable {form : Form} {p : Packed}

theorem LegacyFields.read_eq_ok_iff {r : LegacyFields} :
    LegacyFields.read form p = .ok r ↔ r.HeldBy form p := by
  simp only [LegacyFields.read, bind_eq_ok_iff, pure_eq_ok_iff, Info.readField_eq_ok_iff,
    Info.readSlots_eq (show Encoding.legacy ≠ .threeDNow by decide), Except.ok.injEq]
  constructor
  · rintro ⟨_, h1, _, h2, _, h3, _, h4, _, h5, _, h6, _, h7, rfl⟩
    exact ⟨h1, rfl, h2, rfl, h3, h4, rfl, h5, h6, h7⟩
  · intro h
    refine ⟨_, h.prefixByte, _, h.table, _, h.encodable, _, h.allowedPrefixes, _, h.operandSize, _,
      h.addressSize, _, h.slots, ?_⟩
    rw [h.noPrefix, h.group, h.fwait]

theorem VexFields.read_eq_ok_iff {r : VexFields} :
    VexFields.read form p = .ok r ↔ r.HeldBy form p := by
  simp only [VexFields.read, bind_eq_ok_iff, pure_eq_ok_iff, Info.readField_eq_ok_iff,
    Info.readSlots_eq (show Encoding.vex ≠ .threeDNow by decide), Except.ok.injEq]
  constructor
  · rintro ⟨_, h1, _, h2, _, h3, _, h4, _, h5, rfl⟩
    exact ⟨h1, h2, rfl, h3, h4, Info.toNat_get_eq_raw_readW rfl, h5⟩
  · intro h
    refine ⟨_, h.prefixByte, _, h.table, _, h.encodable, _, h.length, _, h.slots, ?_⟩
    rw [h.group, (Info.readW_eq_iff rfl).mpr h.w]

theorem EvexFields.read_eq_ok_iff {r : EvexFields} :
    EvexFields.read form p = .ok r ↔ r.HeldBy form p := by
  simp only [EvexFields.read, bind_eq_ok_iff, pure_eq_ok_iff, Info.readField_eq_ok_iff,
    Info.readSlots_eq (show Encoding.evex ≠ .threeDNow by decide), Except.ok.injEq]
  constructor
  · rintro ⟨_, h1, _, h2, _, h3, _, h4, _, h5, rfl⟩
    exact ⟨h1, h2, rfl, h3, h4, rfl, Info.toNat_get_eq_raw_readW rfl, rfl, rfl, rfl, rfl, rfl, rfl,
      h5⟩
  · intro h
    refine ⟨_, h.prefixByte, _, h.table, _, h.encodable, _, h.tupleType, _, h.slots, ?_⟩
    rw [h.group, h.length, (Info.readW_eq_iff rfl).mpr h.w, h.lig, h.broadcast, h.roundingControl,
      h.sae, h.opmask, h.zeroing]

theorem XopFields.read_eq_ok_iff {r : XopFields} :
    XopFields.read form p = .ok r ↔ r.HeldBy form p := by
  simp only [XopFields.read, bind_eq_ok_iff, pure_eq_ok_iff, Info.readField_eq_ok_iff,
    Info.readSlots_eq (show Encoding.xop ≠ .threeDNow by decide), Except.ok.injEq]
  constructor
  · rintro ⟨_, h1, _, h2, _, h3, _, h4, _, h5, rfl⟩
    exact ⟨h1, h2, rfl, h3, h4, Info.toNat_get_eq_raw_readW rfl, h5⟩
  · intro h
    refine ⟨_, h.prefixByte, _, h.table, _, h.encodable, _, h.length, _, h.slots, ?_⟩
    rw [h.group, (Info.readW_eq_iff rfl).mpr h.w]

end OpcodeForms
