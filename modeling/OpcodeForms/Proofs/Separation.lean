import OpcodeForms.Proofs.Invariants
import OpcodeForms.Proofs.Meaningful

/-!
# What a field of a record governs

Every answer that a decoded record gives comes from a few fields of the packed record.
`Place.governs` lists the answers that a field has a say in, for the fields of all words but the
encoding.

If records of one encoding agree on the fields that govern an answer, they give the same answer
(`Info.Pair.value_eq`). Since no two fields overlap, a record with one field overwritten gives the
same answers as before, except for those that the field governs
(`Info.value_eq_of_not_governed`).
-/

namespace OpcodeForms

/-! ## Answers of a decoded record -/

/-- What a decoded record can be asked for, its two texts aside. -/
inductive Accessor where
  /-- The identity of the form, with its mnemonic and its number of operands. -/
  | form
  | encoding
  | opcode
  | isInstruction
  | property (p : Property)
  | isAvailableInMode (bitness : Nat)
  | operandSize
  | addressSize
  | length
  | lengthKind
  | w
  | tupleType
  | table
  | mandatoryPrefix
  | groupIndex
  | isGroup
  /-- The kind in a slot, used or not. -/
  | operandKind (slot : Nat)
  /-- An operand, if there are so many. -/
  | operand (i : Nat)
  | operandCount
deriving DecidableEq

namespace Accessor

/-- The type of the answer. -/
def Value : Accessor → Type
  | form => Form
  | encoding => Encoding
  | opcode | length | w | operandCount => Nat
  | isInstruction | property _ | isGroup => Bool
  | isAvailableInMode _ => Except UsageError Bool
  | operandSize | addressSize => Width
  | lengthKind => LengthKind
  | tupleType => TupleType
  | table => OpcodeMap
  | mandatoryPrefix => MandatoryPrefix
  | groupIndex => Int
  | operandKind _ => Except UsageError OperandKind
  | operand _ => Option OperandKind

/-- The answer of a decoded record. -/
def value (info : Info) : (a : Accessor) → a.Value
  | form => info.form
  | encoding => info.encoding
  | opcode => info.opcode
  | isInstruction => info.isInstruction
  | property p => info.has p
  | isAvailableInMode bitness => info.isAvailableInMode bitness
  | operandSize => info.operandSize
  | addressSize => info.addressSize
  | length => info.length
  | lengthKind => info.lengthKind
  | w => info.w
  | tupleType => info.tupleType
  | table => info.table
  | mandatoryPrefix => info.mandatoryPrefix
  | groupIndex => info.groupIndex
  | isGroup => info.isGroup
  | operandKind slot => info.operandKind slot
  | operand i => info.operands[i]?
  | operandCount => info.operands.length

/-- The answers that the modes of a form decide. -/
def ofModes : List Accessor :=
  [property .mode16, property .mode32, property .mode64, isAvailableInMode 16,
    isAvailableInMode 32, isAvailableInMode 64]

/-- The answers that the allowed prefixes of a form decide. -/
def ofPermissions : List Accessor :=
  [property .lock, property .xacquire, property .xrelease, property .rep, property .repne,
    property .bnd, property .hintTaken, property .notrack]

end Accessor

/-! ## Places -/

/-- A field of a packed record, other than the encoding. -/
inductive Place where
  | opcode
  | part (s : SubField)
  | operand (i : Fin Layout.slotCount)
deriving DecidableEq

namespace Place

/-- The record with the field set to `v`, if the encoding has the field and the field has room for
the value. -/
def set? (e : Encoding) (x : Place) (v : UInt32) (p : Packed) : Option Packed :=
  match x with
  | opcode => (Layout.opcode.set? p.word1 v).map fun w => { p with word1 := w }
  | part s =>
    (Layout.field? e s).bind fun f => (f.set? p.word2 v).map fun w => { p with word2 := w }
  | operand i => ((Layout.operand i).set? p.word3 v).map fun w => { p with word3 := w }

/-- The answers that the field governs. -/
def governs (form : Form) (e : Encoding) : Place → List Accessor
  | opcode => [.opcode]
  | part .prefixByte | part .noPrefix => [.mandatoryPrefix]
  | part .table => [.table]
  | part .hasGroup | part .group => [.groupIndex, .isGroup]
  | part .encodable => if form.isInstruction then Accessor.ofModes else []
  | part .allowedPrefixes => Accessor.ofPermissions
  | part .fwait => [.property .fwait]
  | part .operandSize => [.operandSize]
  | part .addressSize => [.addressSize]
  | part .tupleType => [.tupleType]
  | part .vectorLength => [.length, .lengthKind] ++ if e = .vex then [.property .lig] else []
  | part .w => [.w, .property .w, .property .wig, .property .wig32]
  | part .lig => [.property .lig]
  | part .broadcast => [.property .broadcast]
  | part .roundingControl => [.property .roundingControl]
  | part .sae => [.property .suppressAllExceptions]
  | part .opmask => [.property .opMaskRegister]
  | part .zeroing => [.property .zeroingMasking]
  | operand i => [.operandKind i, .operand i]

/-- The two records have the same value in the field, if the encoding has it. -/
def Agree (e : Encoding) (p q : Packed) : Place → Prop
  | opcode => Layout.opcode.get p.word1 = Layout.opcode.get q.word1
  | part s => ∀ f, Layout.field? e s = some f → f.get p.word2 = f.get q.word2
  | operand i => (Layout.operand i).get p.word3 = (Layout.operand i).get q.word3

end Place

variable {form : Form} {e : Encoding} {p q : Packed} {info info' : Info} {f g : Field}
  {s s' : SubField} {x y : Place} {w v : UInt32} {a : Accessor}

/-! ## Answers that are read off properties -/

/-- Whether a form is an instruction is governed by no field. -/
theorem Place.noInstruction_not_mem_governs (x : Place) :
    Accessor.property .noInstruction ∉ x.governs form e := by
  cases x with
  | opcode | operand _ => simp [governs]
  | part s => cases s <;> simp [governs, Accessor.ofModes, Accessor.ofPermissions]

theorem Place.w_mem_governs (x : Place) (h : Accessor.property .w ∈ x.governs form e) :
    Accessor.w ∈ x.governs form e := by
  cases x with
  | opcode | operand _ => simp [governs] at h
  | part s => cases s <;> simp_all [governs, Accessor.ofModes, Accessor.ofPermissions]

/-- The availability in a mode is governed like the mode. -/
theorem Place.isAvailableInMode_mem_governs (x : Place) {r : Property} {bitness : Nat}
    (hr : (r, bitness) ∈ [(Property.mode16, 16), (.mode32, 32), (.mode64, 64)])
    (h : Accessor.property r ∈ x.governs form e) :
    Accessor.isAvailableInMode bitness ∈ x.governs form e := by
  cases x with
  | opcode | operand _ => simp [governs] at h
  | part s =>
    simp only [List.mem_cons, Prod.mk.injEq, List.not_mem_nil, or_false] at hr
    obtain ⟨rfl, rfl⟩ | ⟨rfl, rfl⟩ | ⟨rfl, rfl⟩ := hr <;>
      cases s <;> simp_all [governs, Accessor.ofModes, Accessor.ofPermissions]

/-! ## Writing one field -/

theorem Field.set?_eq_some_iff {u : UInt32} : f.set? w v = some u ↔ v ≤ f.max ∧ u = f.set w v := by
  unfold Field.set?
  split
  · next hle => exact ⟨fun h => ⟨hle, (Option.some.inj h).symm⟩, fun h => congrArg some h.2.symm⟩
  · next hgt => exact ⟨nofun, fun h => absurd h.1 hgt⟩

/-- Different parts of the second word do not overlap. -/
theorem Layout.not_overlaps_of_field? (hf : field? e s = some f) (hg : field? e s' = some g)
    (hne : s ≠ s') : ¬ f.Overlaps g := by
  have hdisjoint : ∀ part ∈ word2 e, ∀ part' ∈ word2 e,
      part.1 ≠ part'.1 → ¬ part.2.Overlaps part'.2 := by
    cases e <;> decide
  exact hdisjoint _ (Packed.mem_word2_of_field? hf) _ (Packed.mem_word2_of_field? hg) hne

/-- **Overwriting a field leaves the others as they were.** -/
theorem Place.agree_of_set? (h : x.set? e v p = some q) (hne : y ≠ x) : y.Agree e p q := by
  cases x with
  | opcode =>
    obtain ⟨w, -, rfl⟩ := Option.map_eq_some_iff.mp h
    cases y with
    | opcode => exact absurd rfl hne
    | part _ => exact fun _ _ => rfl
    | operand _ => rfl
  | part s =>
    obtain ⟨f, hf, h⟩ := Option.bind_eq_some_iff.mp h
    obtain ⟨w, hset, rfl⟩ := Option.map_eq_some_iff.mp h
    obtain ⟨-, rfl⟩ := Field.set?_eq_some_iff.mp hset
    cases y with
    | opcode | operand _ => rfl
    | part t =>
      intro g hg
      have hts : t ≠ s := fun heq => hne (congrArg Place.part heq)
      exact (Field.get_set_of_not_overlaps (Layout.not_overlaps_of_field? hg hf hts)).symm
  | operand i =>
    obtain ⟨w, hset, rfl⟩ := Option.map_eq_some_iff.mp h
    obtain ⟨-, rfl⟩ := Field.set?_eq_some_iff.mp hset
    cases y with
    | opcode => rfl
    | part _ => exact fun _ _ => rfl
    | operand j =>
      have hji : j ≠ i := fun heq => hne (congrArg Place.operand heq)
      exact (Field.get_set_of_not_overlaps (Layout.operand_not_overlaps hji)).symm

/-- No field but that of the encoding says which it is. -/
theorem Place.get_encoding_of_set? (h : x.set? e v p = some q) :
    Layout.encoding.get q.word1 = Layout.encoding.get p.word1 := by
  cases x with
  | opcode =>
    obtain ⟨w, hset, rfl⟩ := Option.map_eq_some_iff.mp h
    obtain ⟨-, rfl⟩ := Field.set?_eq_some_iff.mp hset
    exact Field.get_set_of_not_overlaps (by decide)
  | part s =>
    obtain ⟨f, -, h⟩ := Option.bind_eq_some_iff.mp h
    obtain ⟨w, -, rfl⟩ := Option.map_eq_some_iff.mp h
    rfl
  | operand i =>
    obtain ⟨w, -, rfl⟩ := Option.map_eq_some_iff.mp h
    rfl

/-! ## Properties -/

namespace Traits

variable {t t' : Traits}

/-- The attribute that decides the property is the same. -/
def Alike (t t' : Traits) : Property → Prop
  | .mode16 | .mode32 | .mode64 => t.encodable = t'.encodable
  | .lock | .xacquire | .xrelease | .rep | .repne | .bnd | .hintTaken | .notrack =>
    t.allowedPrefixes = t'.allowedPrefixes
  | .w | .wig | .wig32 => t.w = t'.w
  | .fwait => t.fwait = t'.fwait
  | .lig => t.lig = t'.lig
  | .broadcast => t.broadcast = t'.broadcast
  | .roundingControl => t.roundingControl = t'.roundingControl
  | .suppressAllExceptions => t.sae = t'.sae
  | .opMaskRegister => t.opmask = t'.opmask
  | .zeroingMasking => t.zeroing = t'.zeroing
  | .noInstruction => t.isInstruction = t'.isInstruction
  | .nonZeroOpMask => t.completionMask = t'.completionMask

theorem gives_congr {r : Property} (h : t.Alike t' r) : t.Gives r ↔ t'.Gives r := by
  cases r <;> (dsimp only [Alike] at h; simp only [Gives, h])

end Traits

theorem Info.HasTraits.has_congr {t t' : Traits} {r : Property} (h : info.HasTraits t)
    (h' : info'.HasTraits t') (halike : t.Alike t' r) : info.has r = info'.has r :=
  Bool.eq_iff_iff.mpr ((h r).trans ((Traits.gives_congr halike).trans (h' r).symm))

/-! ## Fields that agree -/

/-- The records agree on the fields that govern the answer. -/
def Packed.AgreeOn (form : Form) (e : Encoding) (p q : Packed) (a : Accessor) : Prop :=
  ∀ x : Place, a ∈ x.governs form e → x.Agree e p q

theorem Packed.AgreeOn.get (h : AgreeOn form e p q a) (ha : a ∈ (Place.part s).governs form e)
    (hf : Layout.field? e s = some f) : f.get p.word2 = f.get q.word2 :=
  h (.part s) ha f hf

/-- What governs `b` too leaves `b` as it is. -/
theorem Packed.AgreeOn.of_governs {b : Accessor} (h : AgreeOn form e p q a)
    (hsub : ∀ x : Place, b ∈ x.governs form e → a ∈ x.governs form e) : AgreeOn form e p q b :=
  fun x hx => h x (hsub x hx)

/-- The modes of an instruction are governed by their field. -/
theorem Packed.AgreeOn.get_encodable (h : AgreeOn form e p q a) (ha : a ∈ Accessor.ofModes)
    (hf : Layout.field? e .encodable = some f) (hform : form.isInstruction = true) :
    f.get p.word2 = f.get q.word2 := by
  refine h.get (s := .encodable) ?_ hf
  rw [Place.governs, if_pos hform]
  exact ha

/-- Enumerated fields with the same value hold the same member. -/
theorem Field.member_eq_of_get {α : Type} [DecidableEq α] [Enumeration α] {b b' : α}
    (hw : (f.get w).toNat = Enumeration.raw b) (hv : (f.get v).toNat = Enumeration.raw b')
    (h : f.get w = f.get v) : b = b' :=
  Enumeration.raw_inj (hw.symm.trans (h ▸ hv))

theorem Field.isSet_eq_of_get {b b' : Bool} (hw : f.isSet w = b) (hv : f.isSet v = b')
    (h : f.get w = f.get v) : b = b' := by
  rw [← hw, ← hv, isSet, isSet, h]

namespace Info

/-- The modes of instructions come from the field, those of other forms do not. -/
theorem encodable_eq_of_get {b b' : Encodable} (hw : readEncodable form f w = .ok b)
    (hv : readEncodable form f v = .ok b') (h : form.isInstruction = true → f.get w = f.get v) :
    b = b' := by
  rw [readEncodable_congr h, hv] at hw
  exact (Except.ok.inj hw).symm

/-- The kind in a slot comes from the index that the slot holds. -/
theorem getElem?_slotKinds_congr {i : Nat}
    (hget : ∀ j : Fin Layout.slotCount, j.val = i →
      (Layout.operand j).get w = (Layout.operand j).get v) :
    (slotKinds e w)[i]? = (slotKinds e v)[i]? := by
  by_cases hi : i < Layout.slotCount
  · rw [getElem?_slotKinds e w ⟨i, hi⟩, getElem?_slotKinds e v ⟨i, hi⟩, slotKind, slotKind,
      hget ⟨i, hi⟩ rfl]
  · rw [List.getElem?_eq_none, List.getElem?_eq_none]
    · exact (length_slotKinds e v).symm ▸ Nat.le_of_not_lt hi
    · exact (length_slotKinds e w).symm ▸ Nat.le_of_not_lt hi

end Info

/-! ## Properties of the records of one encoding

The attribute that decides a property is the same in records that agree on the field which governs
the property.
-/

section

variable {r : Property}

theorem LegacyFields.HeldBy.alike {r₁ r₂ : LegacyFields} (h : r₁.HeldBy form p)
    (h' : r₂.HeldBy form q) (hagree : p.AgreeOn form .legacy q (.property r)) :
    (r₁.traits form).Alike (r₂.traits form) r := by
  cases r with
  | mode16 | mode32 | mode64 =>
    exact Info.encodable_eq_of_get h.encodable h'.encodable (hagree.get_encodable (by decide) rfl)
  | lock | xacquire | xrelease | rep | repne | bnd | hintTaken | notrack =>
    exact Field.member_eq_of_get h.allowedPrefixes h'.allowedPrefixes
      (hagree.get (s := .allowedPrefixes) (by simp [Place.governs, Accessor.ofPermissions]) rfl)
  | fwait =>
    exact Field.isSet_eq_of_get h.fwait h'.fwait (hagree.get (s := .fwait) List.mem_cons_self rfl)
  | _ => rfl

theorem VexFields.HeldBy.alike {r₁ r₂ : VexFields} (h : r₁.HeldBy form p)
    (h' : r₂.HeldBy form q) (hagree : p.AgreeOn form .vex q (.property r)) :
    (r₁.traits form).Alike (r₂.traits form) r := by
  cases r with
  | mode16 | mode32 | mode64 =>
    exact Info.encodable_eq_of_get h.encodable h'.encodable (hagree.get_encodable (by decide) rfl)
  | w | wig | wig32 =>
    exact Field.member_eq_of_get h.w h'.w (hagree.get (s := .w) (by simp [Place.governs]) rfl)
  | lig =>
    have hlength := Field.member_eq_of_get h.length h'.length
      (hagree.get (s := .vectorLength) (by simp [Place.governs]) rfl)
    exact congrArg (fun l => decide (l = VexLength.lig)) hlength
  | _ => rfl

theorem EvexFields.HeldBy.alike {r₁ r₂ : EvexFields} (h : r₁.HeldBy form p)
    (h' : r₂.HeldBy form q) (hagree : p.AgreeOn form .evex q (.property r)) :
    (r₁.traits form).Alike (r₂.traits form) r := by
  cases r with
  | mode16 | mode32 | mode64 =>
    exact Info.encodable_eq_of_get h.encodable h'.encodable (hagree.get_encodable (by decide) rfl)
  | w | wig | wig32 =>
    exact Field.member_eq_of_get h.w h'.w (hagree.get (s := .w) (by simp [Place.governs]) rfl)
  | lig =>
    exact Field.isSet_eq_of_get h.lig h'.lig (hagree.get (s := .lig) List.mem_cons_self rfl)
  | broadcast =>
    exact Field.isSet_eq_of_get h.broadcast h'.broadcast
      (hagree.get (s := .broadcast) List.mem_cons_self rfl)
  | roundingControl =>
    exact Field.isSet_eq_of_get h.roundingControl h'.roundingControl
      (hagree.get (s := .roundingControl) List.mem_cons_self rfl)
  | suppressAllExceptions =>
    exact Field.isSet_eq_of_get h.sae h'.sae (hagree.get (s := .sae) List.mem_cons_self rfl)
  | opMaskRegister =>
    exact Field.isSet_eq_of_get h.opmask h'.opmask
      (hagree.get (s := .opmask) List.mem_cons_self rfl)
  | zeroingMasking =>
    exact Field.isSet_eq_of_get h.zeroing h'.zeroing
      (hagree.get (s := .zeroing) List.mem_cons_self rfl)
  | _ => rfl

theorem XopFields.HeldBy.alike {r₁ r₂ : XopFields} (h : r₁.HeldBy form p)
    (h' : r₂.HeldBy form q) (hagree : p.AgreeOn form .xop q (.property r)) :
    (r₁.traits form).Alike (r₂.traits form) r := by
  cases r with
  | mode16 | mode32 | mode64 =>
    exact Info.encodable_eq_of_get h.encodable h'.encodable (hagree.get_encodable (by decide) rfl)
  | w | wig | wig32 =>
    exact Field.member_eq_of_get h.w h'.w (hagree.get (s := .w) (by simp [Place.governs]) rfl)
  | _ => rfl

end

namespace Info

/-! ## Two records of one encoding -/

/-- The records `p` and `q` of a form decode to `info` and `info'`, in the same encoding. -/
inductive Pair (form : Form) (p q : Packed) : Info → Info → Prop
  | legacy {r r' : LegacyFields} (held : r.HeldBy form p) (held' : r'.HeldBy form q) :
    Pair form p q (r.info form p.opcode) (r'.info form q.opcode)
  | vex {r r' : VexFields} (held : r.HeldBy form p) (held' : r'.HeldBy form q) :
    Pair form p q (r.info form p.opcode) (r'.info form q.opcode)
  | evex {r r' : EvexFields} (held : r.HeldBy form p) (held' : r'.HeldBy form q) :
    Pair form p q (r.info form p.opcode) (r'.info form q.opcode)
  | xop {r r' : XopFields} (held : r.HeldBy form p) (held' : r'.HeldBy form q) :
    Pair form p q (r.info form p.opcode) (r'.info form q.opcode)
  | threeDNow {modes modes' : Encodable}
    (held : readEncodable form Layout.ThreeDNow.encodable p.word2 = .ok modes)
    (held' : readEncodable form Layout.ThreeDNow.encodable q.word2 = .ok modes') :
    Pair form p q (ofThreeDNow form p.opcode modes) (ofThreeDNow form q.opcode modes')

theorem Decodes.pair (hp : Decodes form p info) (hq : Decodes form q info')
    (he : info.encoding = info'.encoding) : Pair form p q info info' := by
  cases hp with
  | legacy r _ held heq =>
    subst heq
    cases hq with
    | legacy r' _ held' heq' =>
      subst heq'
      exact .legacy held held'
    | vex _ _ _ heq' | evex _ _ _ heq' | xop _ _ _ heq' | threeDNow _ _ _ heq' =>
      subst heq'
      cases he
  | vex r _ held heq =>
    subst heq
    cases hq with
    | vex r' _ held' heq' =>
      subst heq'
      exact .vex held held'
    | legacy _ _ _ heq' | evex _ _ _ heq' | xop _ _ _ heq' | threeDNow _ _ _ heq' =>
      subst heq'
      cases he
  | evex r _ held heq =>
    subst heq
    cases hq with
    | evex r' _ held' heq' =>
      subst heq'
      exact .evex held held'
    | legacy _ _ _ heq' | vex _ _ _ heq' | xop _ _ _ heq' | threeDNow _ _ _ heq' =>
      subst heq'
      cases he
  | xop r _ held heq =>
    subst heq
    cases hq with
    | xop r' _ held' heq' =>
      subst heq'
      exact .xop held held'
    | legacy _ _ _ heq' | vex _ _ _ heq' | evex _ _ _ heq' | threeDNow _ _ _ heq' =>
      subst heq'
      cases he
  | threeDNow modes _ held heq =>
    subst heq
    cases hq with
    | threeDNow modes' _ held' heq' =>
      subst heq'
      exact .threeDNow held held'
    | legacy _ _ _ heq' | vex _ _ _ heq' | evex _ _ _ heq' | xop _ _ _ heq' =>
      subst heq'
      cases he

namespace Pair

variable {r : Property}

/-- **A property comes from the field that governs it.** -/
theorem has_eq (h : Pair form p q info info')
    (hagree : p.AgreeOn form info.encoding q (.property r)) : info.has r = info'.has r := by
  cases h with
  | @legacy r₁ r₂ held held' =>
    exact (r₁.hasTraits form _).has_congr (r₂.hasTraits form _) (held.alike held' hagree)
  | @vex r₁ r₂ held held' =>
    exact (r₁.hasTraits form _).has_congr (r₂.hasTraits form _) (held.alike held' hagree)
  | @evex r₁ r₂ held held' =>
    exact (r₁.hasTraits form _).has_congr (r₂.hasTraits form _) (held.alike held' hagree)
  | @xop r₁ r₂ held held' =>
    exact (r₁.hasTraits form _).has_congr (r₂.hasTraits form _) (held.alike held' hagree)
  | @threeDNow modes modes' held held' =>
    refine (hasTraits_ofThreeDNow form _ modes).has_congr (hasTraits_ofThreeDNow form _ modes') ?_
    cases r with
    | mode16 | mode32 | mode64 =>
      exact encodable_eq_of_get held held' (hagree.get_encodable (by decide) rfl)
    | _ => rfl

theorem form_eq (h : Pair form p q info info') : info.form = form ∧ info'.form = form := by
  cases h <;> exact ⟨rfl, rfl⟩

theorem encoding_eq (h : Pair form p q info info') : info.encoding = info'.encoding := by
  cases h <;> rfl

theorem opcode_eq (h : Pair form p q info info')
    (hagree : p.AgreeOn form info.encoding q .opcode) : info.opcode = info'.opcode := by
  have hget : Layout.opcode.get p.word1 = Layout.opcode.get q.word1 :=
    hagree .opcode List.mem_cons_self
  have hopcode : p.opcode = q.opcode := congrArg UInt32.toNat hget
  cases h <;> exact hopcode

theorem table_eq (h : Pair form p q info info')
    (hagree : p.AgreeOn form info.encoding q .table) : info.table = info'.table := by
  cases h with
  | legacy held held' =>
    exact congrArg LegacyMap.opcodeMap (Field.member_eq_of_get held.table held'.table
      (hagree.get (s := .table) List.mem_cons_self rfl))
  | vex held held' | evex held held' =>
    exact congrArg VectorMap.opcodeMap (Field.member_eq_of_get held.table held'.table
      (hagree.get (s := .table) List.mem_cons_self rfl))
  | xop held held' =>
    exact congrArg XopMap.opcodeMap (Field.member_eq_of_get held.table held'.table
      (hagree.get (s := .table) List.mem_cons_self rfl))
  | threeDNow _ _ => rfl

theorem mandatoryPrefix_eq (h : Pair form p q info info')
    (hagree : p.AgreeOn form info.encoding q .mandatoryPrefix) :
    info.mandatoryPrefix = info'.mandatoryPrefix := by
  cases h with
  | legacy held held' =>
    have hbyte := Field.member_eq_of_get held.prefixByte held'.prefixByte
      (hagree.get (s := .prefixByte) List.mem_cons_self rfl)
    have hnp := Field.isSet_eq_of_get held.noPrefix held'.noPrefix
      (hagree.get (s := .noPrefix) List.mem_cons_self rfl)
    exact congrArg₂ (fun np b => PrefixByte.legacyPrefix np b) hnp hbyte
  | vex held held' | evex held held' | xop held held' =>
    exact congrArg PrefixByte.vectorPrefix (Field.member_eq_of_get held.prefixByte
      held'.prefixByte (hagree.get (s := .prefixByte) List.mem_cons_self rfl))
  | threeDNow _ _ => rfl

/-- The group comes from its flag and its number. -/
theorem group_eq (h : Pair form p q info info') (ha : a ∈ [.groupIndex, .isGroup])
    (hagree : p.AgreeOn form info.encoding q a) : info.group = info'.group := by
  cases h with
  | legacy held held' | vex held held' | evex held held' | xop held held' =>
    exact held.group.symm.trans ((readGroup_congr (hagree.get (s := .hasGroup) ha rfl)
      fun _ => hagree.get (s := .group) ha rfl).trans held'.group)
  | threeDNow _ _ => rfl

theorem operandSize_eq (h : Pair form p q info info')
    (hagree : p.AgreeOn form info.encoding q .operandSize) :
    info.operandSize = info'.operandSize := by
  cases h with
  | legacy held held' =>
    exact Field.member_eq_of_get held.operandSize held'.operandSize
      (hagree.get (s := .operandSize) List.mem_cons_self rfl)
  | vex _ _ | evex _ _ | xop _ _ | threeDNow _ _ => rfl

theorem addressSize_eq (h : Pair form p q info info')
    (hagree : p.AgreeOn form info.encoding q .addressSize) :
    info.addressSize = info'.addressSize := by
  cases h with
  | legacy held held' =>
    exact Field.member_eq_of_get held.addressSize held'.addressSize
      (hagree.get (s := .addressSize) List.mem_cons_self rfl)
  | vex _ _ | evex _ _ | xop _ _ | threeDNow _ _ => rfl

theorem tupleType_eq (h : Pair form p q info info')
    (hagree : p.AgreeOn form info.encoding q .tupleType) : info.tupleType = info'.tupleType := by
  cases h with
  | evex held held' =>
    exact Field.member_eq_of_get held.tupleType held'.tupleType
      (hagree.get (s := .tupleType) List.mem_cons_self rfl)
  | legacy _ _ | vex _ _ | xop _ _ | threeDNow _ _ => rfl

/-- The value of `L` and how it is shown come from one field. -/
theorem length_eq (h : Pair form p q info info') (ha : a ∈ [.length, .lengthKind])
    (hagree : p.AgreeOn form info.encoding q a) :
    info.lengthKind = info'.lengthKind ∧ info.length = info'.length := by
  have hgoverns : a ∈ (Place.part .vectorLength).governs form info.encoding :=
    List.mem_append_left _ ha
  cases h with
  | vex held held' =>
    have hlength := Field.member_eq_of_get held.length held'.length
      (hagree.get hgoverns rfl)
    exact Prod.mk.inj (congrArg VexLength.shown hlength)
  | xop held held' =>
    have hlength := Field.member_eq_of_get held.length held'.length
      (hagree.get hgoverns rfl)
    exact Prod.mk.inj (congrArg XopLength.shown hlength)
  | evex held held' =>
    have hget := hagree.get hgoverns rfl
    exact ⟨rfl, held.length.symm.trans ((congrArg UInt32.toNat hget).trans held'.length)⟩
  | legacy _ _ | threeDNow _ _ => exact ⟨rfl, rfl⟩

/-- The kind in a slot comes from its own index. -/
theorem getElem?_slots_eq {i : Nat} (h : Pair form p q info info')
    (hget : ∀ j : Fin Layout.slotCount, j.val = i →
      (Layout.operand j).get p.word3 = (Layout.operand j).get q.word3) :
    info.slots[i]? = info'.slots[i]? := by
  cases h with
  | legacy held held' | vex held held' | evex held held' | xop held held' =>
    exact (congrArg (·[i]?) held.slots).symm.trans
      ((getElem?_slotKinds_congr hget).trans (congrArg (·[i]?) held'.slots))
  | threeDNow _ _ => rfl

theorem length_slots (h : Pair form p q info info') : info.slots.length = info'.slots.length := by
  cases h with
  | legacy held held' | vex held held' | evex held held' | xop held held' =>
    have hp := (congrArg List.length held.slots).symm.trans (length_slotKinds _ _)
    have hq := (congrArg List.length held'.slots).symm.trans (length_slotKinds _ _)
    exact hp.trans hq.symm
  | threeDNow _ _ => rfl

/-- An answer that is read off a slot comes from the index of the slot. -/
theorem getElem?_slots_eq_of_agree {i : Nat} (h : Pair form p q info info')
    (ha : a ∈ [.operandKind i, .operand i]) (hagree : p.AgreeOn form info.encoding q a) :
    info.slots[i]? = info'.slots[i]? := by
  refine h.getElem?_slots_eq fun j hj => ?_
  subst hj
  exact hagree (.operand j) ha

/-- **An answer comes from the fields that govern it.** -/
theorem value_eq (h : Pair form p q info info') (hagree : p.AgreeOn form info.encoding q a) :
    a.value info = a.value info' := by
  have hform : info.form = info'.form := h.form_eq.1.trans h.form_eq.2.symm
  cases a with
  | form => exact hform
  | encoding => exact h.encoding_eq
  | opcode => exact h.opcode_eq hagree
  | property r => exact h.has_eq hagree
  | isInstruction =>
    have hno := h.has_eq (hagree.of_governs fun x hx => absurd hx x.noInstruction_not_mem_governs)
    exact congrArg (!·) hno
  | isAvailableInMode bitness =>
    change info.isAvailableInMode bitness = info'.isAvailableInMode bitness
    unfold isAvailableInMode
    split
    · next h16 =>
      subst h16
      rw [h.has_eq (hagree.of_governs fun x => x.isAvailableInMode_mem_governs (by decide))]
    · split
      · next h32 =>
        subst h32
        rw [h.has_eq (hagree.of_governs fun x => x.isAvailableInMode_mem_governs (by decide))]
      · split
        · next h64 =>
          subst h64
          rw [h.has_eq (hagree.of_governs fun x => x.isAvailableInMode_mem_governs (by decide))]
        · rfl
  | w =>
    have hw := h.has_eq (hagree.of_governs fun x => x.w_mem_governs)
    change info.w = info'.w
    rw [Info.w, Info.w, hw]
  | operandSize => exact h.operandSize_eq hagree
  | addressSize => exact h.addressSize_eq hagree
  | length => exact (h.length_eq (by decide) hagree).2
  | lengthKind => exact (h.length_eq (by decide) hagree).1
  | tupleType => exact h.tupleType_eq hagree
  | table => exact h.table_eq hagree
  | mandatoryPrefix => exact h.mandatoryPrefix_eq hagree
  | groupIndex =>
    have hgroup := h.group_eq (by decide) hagree
    change info.groupIndex = info'.groupIndex
    rw [groupIndex, groupIndex, hgroup]
  | isGroup => exact congrArg Option.isSome (h.group_eq (by decide) hagree)
  | operandKind i =>
    have hslot := h.getElem?_slots_eq_of_agree (i := i) (by simp) hagree
    change info.operandKind i = info'.operandKind i
    rw [operandKind, operandKind, hslot]
  | operand i =>
    have hslot := h.getElem?_slots_eq_of_agree (i := i) (by simp) hagree
    change info.operands[i]? = info'.operands[i]?
    rw [operands, operands, List.getElem?_take, List.getElem?_take, hform, hslot]
  | operandCount =>
    change info.operands.length = info'.operands.length
    rw [operands, operands, List.length_take, List.length_take, hform, h.length_slots]

end Pair

/-- **Overwriting a field changes no answer but those that the field governs.** -/
theorem value_eq_of_not_governed (hp : decode form p = .ok info)
    (hset : x.set? info.encoding v p = some q) (hq : decode form q = .ok info')
    (ha : a ∉ x.governs form info.encoding) : a.value info' = a.value info := by
  have hp := decode_eq_ok_iff.mp hp
  have hq := decode_eq_ok_iff.mp hq
  have he : info.encoding = info'.encoding :=
    Field.member_eq_of_get hp.hasEncoding hq.hasEncoding (Place.get_encoding_of_set? hset).symm
  have hagree : p.AgreeOn form info.encoding q a := fun y hy =>
    Place.agree_of_set? hset fun hyx => ha (hyx ▸ hy)
  exact ((hp.pair hq he).value_eq hagree).symm

/-- What is decoded of the gather, with `L` as given. -/
def gatherInfo (length : Nat) : Info where
  form := gatherForm
  encoding := .evex
  opcode := 0x90
  properties := ⟨0x400807⟩
  length := length
  lengthKind := .l128
  tupleType := .tuple1Scalar
  table := .map0F38
  mandatoryPrefix := .p66
  slots := [.zmmReg, .memVsib32z, .none, .none, .none]

/-- A gather of another vector length needs its opmask register no less. -/
theorem value_eq_of_not_governed_gather :
    decode gatherForm gatherRecord = .ok (gatherInfo 2) ∧
      (Place.part .vectorLength).set? .evex 1 gatherRecord
        = some { gatherRecord with word2 := 0xfe80a805 } ∧
      decode gatherForm { gatherRecord with word2 := 0xfe80a805 } = .ok (gatherInfo 1) ∧
      (gatherInfo 1).has .nonZeroOpMask = (gatherInfo 2).has .nonZeroOpMask := by
  have hdecode : decode gatherForm gatherRecord = .ok (gatherInfo 2) := by rfl
  have hset : (Place.part .vectorLength).set? .evex 1 gatherRecord
      = some { gatherRecord with word2 := 0xfe80a805 } := by decide
  have hdecode' : decode gatherForm { gatherRecord with word2 := 0xfe80a805 }
      = .ok (gatherInfo 1) := by rfl
  refine ⟨hdecode, hset, hdecode', ?_⟩
  exact value_eq_of_not_governed (a := .property .nonZeroOpMask) hdecode hset hdecode' (by decide)

end Info

end OpcodeForms
