import OpcodeForms.Proofs.Readers

/-!
# What decoding gives

`Info.Decodes` relates a packed record to its decoded record: there is a case for each encoding,
and in each case the fields of the layout hold what the decoded record is made of. This is all
that `Info.decode` accepts (`decode_eq_ok_iff`).
-/

namespace OpcodeForms

/-- The first word of the record names the encoding. -/
def Packed.HasEncoding (p : Packed) (e : Encoding) : Prop :=
  (Layout.encoding.get p.word1).toNat = Enumeration.raw e

/-- The opcode that the first word holds. -/
def Packed.opcode (p : Packed) : Nat :=
  (Layout.opcode.get p.word1).toNat

namespace Info

/-- The record `p` of a form decodes to `info`. -/
inductive Decodes (form : Form) (p : Packed) (info : Info) : Prop
  | legacy (r : LegacyFields) (encoding : p.HasEncoding .legacy) (held : r.HeldBy form p)
      (eq : info = r.info form p.opcode)
  | vex (r : VexFields) (encoding : p.HasEncoding .vex) (held : r.HeldBy form p)
      (eq : info = r.info form p.opcode)
  | evex (r : EvexFields) (encoding : p.HasEncoding .evex) (held : r.HeldBy form p)
      (eq : info = r.info form p.opcode)
  | xop (r : XopFields) (encoding : p.HasEncoding .xop) (held : r.HeldBy form p)
      (eq : info = r.info form p.opcode)
  | threeDNow (modes : Encodable) (encoding : p.HasEncoding .threeDNow)
      (held : readEncodable form Layout.ThreeDNow.encodable p.word2 = .ok modes)
      (eq : info = ofThreeDNow form p.opcode modes)

variable {form : Form} {p : Packed} {info : Info}

/-- **Decoding accepts exactly the records whose fields hold a decoded record.** -/
theorem decode_eq_ok_iff : decode form p = .ok info ↔ Decodes form p info := by
  constructor
  · intro h
    obtain ⟨e, he, h⟩ := bind_eq_ok_iff.mp h
    have henc : p.HasEncoding e := readField_eq_ok_iff.mp he
    cases e with
    | legacy =>
      obtain ⟨r, hr, h⟩ := bind_eq_ok_iff.mp h
      exact .legacy r henc (LegacyFields.read_eq_ok_iff.mp hr) (pure_eq_ok_iff.mp h).symm
    | vex =>
      obtain ⟨r, hr, h⟩ := bind_eq_ok_iff.mp h
      exact .vex r henc (VexFields.read_eq_ok_iff.mp hr) (pure_eq_ok_iff.mp h).symm
    | evex =>
      obtain ⟨r, hr, h⟩ := bind_eq_ok_iff.mp h
      exact .evex r henc (EvexFields.read_eq_ok_iff.mp hr) (pure_eq_ok_iff.mp h).symm
    | xop =>
      obtain ⟨r, hr, h⟩ := bind_eq_ok_iff.mp h
      exact .xop r henc (XopFields.read_eq_ok_iff.mp hr) (pure_eq_ok_iff.mp h).symm
    | threeDNow =>
      obtain ⟨modes, hm, h⟩ := bind_eq_ok_iff.mp h
      exact .threeDNow modes henc hm (pure_eq_ok_iff.mp h).symm
  · intro h
    unfold decode
    cases h with
    | legacy r henc held heq =>
      rw [readField_eq_ok_iff.mpr henc, ok_bind, LegacyFields.read_eq_ok_iff.mpr held, heq]
      rfl
    | vex r henc held heq =>
      rw [readField_eq_ok_iff.mpr henc, ok_bind, VexFields.read_eq_ok_iff.mpr held, heq]
      rfl
    | evex r henc held heq =>
      rw [readField_eq_ok_iff.mpr henc, ok_bind, EvexFields.read_eq_ok_iff.mpr held, heq]
      rfl
    | xop r henc held heq =>
      rw [readField_eq_ok_iff.mpr henc, ok_bind, XopFields.read_eq_ok_iff.mpr held, heq]
      rfl
    | threeDNow modes henc held heq =>
      rw [readField_eq_ok_iff.mpr henc, ok_bind, held, heq]
      rfl

/-! ## Facts about every decoded record -/

theorem Decodes.form_eq (h : Decodes form p info) : info.form = form := by
  cases h with
  | legacy _ _ _ heq | vex _ _ _ heq | evex _ _ _ heq | xop _ _ _ heq | threeDNow _ _ _ heq =>
    rw [heq]
    rfl

theorem Decodes.hasEncoding (h : Decodes form p info) : p.HasEncoding info.encoding := by
  cases h with
  | legacy _ henc _ heq | vex _ henc _ heq | evex _ henc _ heq | xop _ henc _ heq
  | threeDNow _ henc _ heq =>
    rw [heq]
    exact henc

theorem Decodes.opcode_eq (h : Decodes form p info) : info.opcode = p.opcode := by
  cases h with
  | legacy _ _ _ heq | vex _ _ _ heq | evex _ _ _ heq | xop _ _ _ heq | threeDNow _ _ _ heq =>
    rw [heq]
    rfl

/-- The slots of a decoded record are those of the third word. -/
theorem Decodes.slots_eq (h : Decodes form p info) (he : info.encoding ≠ .threeDNow) :
    info.slots = slotKinds info.encoding p.word3 := by
  cases h with
  | legacy _ _ held heq | vex _ _ held heq | evex _ _ held heq | xop _ _ held heq =>
    rw [heq]
    exact held.slots.symm
  | threeDNow _ _ _ heq =>
    rw [heq] at he
    exact absurd rfl he

/-- A decoded record has a kind for each slot. -/
theorem Decodes.length_slots (h : Decodes form p info) :
    info.slots.length = Layout.slotCount := by
  cases h with
  | legacy _ _ held heq | vex _ _ held heq | evex _ _ held heq | xop _ _ held heq =>
    rw [heq]
    exact (congrArg List.length held.slots).symm.trans (length_slotKinds _ _)
  | threeDNow _ _ _ heq =>
    rw [heq]
    rfl

/-- The value of `L` has two bits at most. -/
theorem Decodes.length_lt (h : Decodes form p info) : info.length < 4 := by
  cases h with
  | legacy _ _ _ heq | threeDNow _ _ _ heq =>
    rw [heq]
    exact Nat.zero_lt_succ 3
  | vex r _ _ heq =>
    rw [heq]
    change r.length.shown.2 < 4
    cases r.length <;> decide
  | evex r _ held heq =>
    rw [heq]
    change r.length < 4
    rw [← held.length]
    exact Layout.Evex.vectorLength.get_lt p.word2
  | xop r _ _ heq =>
    rw [heq]
    change r.length.shown.2 < 4
    cases r.length <;> decide

end Info

end OpcodeForms
