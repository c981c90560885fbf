import OpcodeForms.Info.Decode
import OpcodeForms.Proofs.Bits

/-!
# Properties of decoded records

The properties of a decoded record are a set, kept in one word. `has` asks whether a property is
one of those that the set was made from (`Info.has_flagsOf`).
-/

namespace OpcodeForms

/-! ## Flags -/

namespace Flags

theorem bit_one (i : Nat) : Bits.bit 1 i = decide (i = 0) := by
  cases i with
  | zero => rfl
  | succ i => simp [Bits.bit, Nat.testBit_succ]

theorem bit_single {i : Nat} (hi : i < 32) (j : Nat) : Bits.bit (single i) j = decide (i = j) := by
  rw [single, Bits.bit_shiftLeft _ hi, bit_one, ← Bool.decide_and]
  exact decide_eq_decide.mpr (by omega)

/-- Asking for a single flag looks at its bit. -/
theorem any_single (f : Flags) {i : Nat} (hi : i < 32) :
    f.any (single i) = Bits.bit f.bits i := by
  rw [any]
  cases hbit : Bits.bit f.bits i with
  | true =>
    rw [bne_iff_ne]
    intro hzero
    have hb := congrArg (fun w => Bits.bit w i) hzero
    simp [bit_single hi, hbit] at hb
  | false =>
    rw [bne_eq_false_iff_eq]
    apply Bits.ext_bit
    intro j _
    rw [Bits.bit_and, bit_single hi, Bits.bit_zero]
    by_cases hij : i = j
    · rw [← hij, hbit, Bool.false_and]
    · rw [decide_eq_false hij, Bool.and_false]

theorem bit_insert (f : Flags) (mask : UInt32) (i : Nat) :
    Bits.bit (f.insert mask).bits i = (Bits.bit f.bits i || Bits.bit mask i) :=
  Bits.bit_or _ _ i

theorem bit_erase (f : Flags) (mask : UInt32) (i : Nat) :
    Bits.bit (f.erase mask).bits i = (Bits.bit f.bits i && !Bits.bit mask i) := by
  rw [erase, Bits.bit_and, Bits.bit_not]
  by_cases hi : i < 32
  · rw [decide_eq_true hi, Bool.true_and]
  · rw [Bits.bit_of_ge _ (Nat.le_of_not_lt hi), Bool.false_and, Bool.false_and]

/-- An assignment decides the flags of its mask and leaves the others alone. -/
theorem bit_assign (f : Flags) (mask : UInt32) (on : Bool) (i : Nat) :
    Bits.bit (f.assign mask on).bits i = if Bits.bit mask i then on else Bits.bit f.bits i := by
  cases on with
  | true => rw [assign, if_pos rfl, bit_insert]; cases Bits.bit mask i <;> simp
  | false => rw [assign, if_neg Bool.false_ne_true, bit_erase]; cases Bits.bit mask i <;> simp

theorem mem_indices {f : Flags} {i : Nat} : i ∈ f.indices ↔ Bits.bit f.bits i = true := by
  unfold indices
  rw [List.mem_filter, List.mem_range]
  constructor
  · rintro ⟨hi, hany⟩
    rwa [any_single f hi] at hany
  · intro hbit
    rcases Nat.lt_or_ge i 32 with hi | hge
    · exact ⟨hi, (any_single f hi).trans hbit⟩
    · rw [Bits.bit_of_ge _ hge] at hbit
      cases hbit

end Flags

/-! ## Properties -/

namespace Property

theorem index_lt (p : Property) : p.index < 32 := by
  cases p <;> decide

theorem getElem?_index (p : Property) : all[p.index]? = some p := by
  cases p <;> rfl

theorem index_inj {p q : Property} (h : p.index = q.index) : p = q := by
  have hp := getElem?_index p
  rw [h, getElem?_index q] at hp
  exact (Option.some.inj hp).symm

end Property

namespace Info

variable {info : Info} {ps : List Property} {p : Property}

theorem bit_flagsOf (ps : List Property) (i : Nat) :
    Bits.bit (flagsOf ps).bits i = decide (∃ q ∈ ps, q.index = i) := by
  have key : ∀ (ps : List Property) (f : Flags),
      Bits.bit (ps.foldl (fun f p => f.insert (Flags.single p.index)) f).bits i
        = (Bits.bit f.bits i || decide (∃ q ∈ ps, q.index = i)) := by
    intro ps
    induction ps with
    | nil => simp
    | cons q ps ih =>
      intro f
      rw [List.foldl_cons, ih, Flags.insert, Bits.bit_or, Flags.bit_single q.index_lt,
        Bool.or_assoc, ← Bool.decide_or]
      simp only [List.mem_cons, exists_eq_or_imp]
  rw [flagsOf, key, Flags.empty, Bits.bit_zero, Bool.false_or]

theorem mem_indices_flagsOf {i : Nat} : i ∈ (flagsOf ps).indices ↔ ∃ p ∈ ps, p.index = i := by
  rw [Flags.mem_indices, bit_flagsOf, decide_eq_true_iff]

/-- **A property holds of a decoded record if it is one of those that it was made with.** -/
theorem has_flagsOf (h : info.properties = flagsOf ps) : info.has p = decide (p ∈ ps) := by
  rw [has, h, Flags.any_single _ p.index_lt, bit_flagsOf]
  refine decide_eq_decide.mpr ⟨?_, fun hp => ⟨p, hp, rfl⟩⟩
  rintro ⟨q, hq, hindex⟩
  exact Property.index_inj hindex ▸ hq

end Info

/-! ## What the properties come from -/

section

variable {p q : Property}

theorem Info.mem_when {b : Bool} : p ∈ Info.when b q ↔ b = true ∧ p = q := by
  cases b <;> simp [Info.when]

namespace Info

/-- Assigns properties one after the other. -/
def assignAll (f : Flags) (xs : List (Property × Bool)) : Flags :=
  xs.foldl (fun f x => f.assign (Flags.single x.1.index) x.2) f

variable {xs : List (Property × Bool)} {ps : List Property}

theorem bit_assignAll {f : Flags} (hxs : (xs.map (·.1)).Nodup)
    (hf : ∀ x ∈ xs, Bits.bit f.bits x.1.index = false) (i : Nat) :
    Bits.bit (assignAll f xs).bits i
      = (Bits.bit f.bits i || decide (∃ x ∈ xs, x.2 = true ∧ x.1.index = i)) := by
  -- the first assignment is for good, since the later ones are to other properties
  induction xs generalizing f with
  | nil => simp [assignAll]
  | cons x xs ih =>
    obtain ⟨hx, hnodup⟩ := List.nodup_cons.mp hxs
    obtain ⟨hfx, hrest⟩ := List.forall_mem_cons.mp hf
    have hassign : ∀ i, Bits.bit (f.assign (Flags.single x.1.index) x.2).bits i
        = if x.1.index = i then x.2 else Bits.bit f.bits i := by
      intro i
      rw [Flags.bit_assign, Flags.bit_single x.1.index_lt]
      simp only [decide_eq_true_eq]
    have hclear : ∀ y ∈ xs,
        Bits.bit (f.assign (Flags.single x.1.index) x.2).bits y.1.index = false := by
      intro y hy
      have hne : x.1.index ≠ y.1.index := by
        intro h
        refine hx (List.mem_map.mpr ⟨y, hy, ?_⟩)
        exact (Property.index_inj h).symm
      rw [hassign, if_neg hne]
      exact hrest y hy
    rw [assignAll, List.foldl_cons, ← assignAll, ih hnodup hclear, hassign]
    simp only [List.mem_cons, exists_eq_or_imp]
    by_cases hi : x.1.index = i
    · rw [if_pos hi, ← hi, hfx, Bool.false_or]
      cases x.2 <;> simp
    · simp [hi]

/-- **Assigning properties one after the other** adds those that hold, and takes none away that the
set was made from. -/
theorem assignAll_flagsOf (hxs : (xs.map (·.1)).Nodup) (hps : ∀ x ∈ xs, x.1 ∉ ps) :
    assignAll (flagsOf ps) xs = flagsOf (ps ++ xs.flatMap fun x => when x.2 x.1) := by
  have hclear : ∀ x ∈ xs, Bits.bit (flagsOf ps).bits x.1.index = false := by
    intro x hx
    rw [bit_flagsOf, decide_eq_false_iff_not]
    rintro ⟨q, hq, hindex⟩
    exact hps x hx (Property.index_inj hindex ▸ hq)
  refine congrArg Flags.mk (Bits.ext_bit fun i _ => ?_)
  change Bits.bit (assignAll _ xs).bits i = Bits.bit (flagsOf _).bits i
  rw [bit_assignAll hxs hclear, bit_flagsOf, bit_flagsOf, ← Bool.decide_or]
  refine decide_eq_decide.mpr ?_
  simp only [List.mem_append, or_and_right, exists_or, List.mem_flatMap, mem_when]
  refine or_congr_right ⟨?_, ?_⟩
  · rintro ⟨x, hx, hon, hindex⟩
    exact ⟨x.1, ⟨x, hx, hon, rfl⟩, hindex⟩
  · rintro ⟨p, ⟨x, hx, hon, rfl⟩, hindex⟩
    exact ⟨x, hx, hon, hindex⟩

end Info

theorem Encodable.not_mem_modes {a : Encodable} (h : p ∉ [Property.mode16, .mode32, .mode64]) :
    p ∉ a.modes := by
  have hsubset : a.modes ⊆ [.mode16, .mode32, .mode64] := by
    cases a <;> simp [modes]
  exact fun hp => h (hsubset hp)

theorem AllowedPrefixes.not_mem_permissions {a : AllowedPrefixes}
    (h : p ∉ [Property.lock, .xacquire, .xrelease, .rep, .repne, .bnd, .hintTaken, .notrack]) :
    p ∉ a.permissions := by
  have hsubset : a.permissions
      ⊆ [.lock, .xacquire, .xrelease, .rep, .repne, .bnd, .hintTaken, .notrack] := by
    cases a <;> simp [permissions]
  exact fun hp => h (hsubset hp)

theorem WBit.not_mem_properties {a : WBit} (h : p ∉ [Property.w, .wig, .wig32]) :
    p ∉ a.properties := by
  have hsubset : a.properties ⊆ [.w, .wig, .wig32] := by
    cases a <;> simp [properties]
  exact fun hp => h (hsubset hp)

end

/-- The attributes that the properties of a decoded record come from, over all encodings. -/
structure Traits where
  isInstruction : Bool
  encodable : Encodable
  allowedPrefixes : AllowedPrefixes := .none
  w : WBit := .w0
  fwait : Bool := false
  lig : Bool := false
  broadcast : Bool := false
  roundingControl : Bool := false
  sae : Bool := false
  opmask : Bool := false
  zeroing : Bool := false
  completionMask : Bool := false

namespace Traits

/-- The properties that the attributes amount to. -/
def properties (t : Traits) : List Property :=
  Info.when (!t.isInstruction) .noInstruction ++ t.encodable.modes ++ t.allowedPrefixes.permissions
    ++ t.w.properties ++ Info.when t.fwait .fwait ++ Info.when t.lig .lig
    ++ Info.when t.broadcast .broadcast ++ Info.when t.roundingControl .roundingControl
    ++ Info.when t.sae .suppressAllExceptions ++ Info.when t.opmask .opMaskRegister
    ++ Info.when t.zeroing .zeroingMasking ++ Info.when t.completionMask .nonZeroOpMask

/-- Whether the attributes give the property. -/
def Gives (t : Traits) (p : Property) : Prop :=
  match p with
  | .mode16 | .mode32 | .mode64 => p ∈ t.encodable.modes
  | .lock | .xacquire | .xrelease | .rep | .repne | .bnd | .hintTaken | .notrack =>
    p ∈ t.allowedPrefixes.permissions
  | .w | .wig | .wig32 => p ∈ t.w.properties
  | .fwait => t.fwait = true
  | .lig => t.lig = true
  | .broadcast => t.broadcast = true
  | .roundingControl => t.roundingControl = true
  | .suppressAllExceptions => t.sae = true
  | .opMaskRegister => t.opmask = true
  | .zeroingMasking => t.zeroing = true
  | .noInstruction => t.isInstruction = false
  | .nonZeroOpMask => t.completionMask = true

/-- **Every property comes from one attribute.** -/
theorem mem_properties (t : Traits) (p : Property) : p ∈ t.properties ↔ t.Gives p := by
  unfold properties Gives
  -- for a given property all attributes but one drop out
  cases p <;> simp (disch := decide) [Info.mem_when, Encodable.not_mem_modes,
    AllowedPrefixes.not_mem_permissions, WBit.not_mem_properties]

end Traits

/-! ## Decoded records -/

/-- The properties of `info` are those that the attributes give. -/
def Info.HasTraits (info : Info) (t : Traits) : Prop :=
  ∀ p, info.has p = true ↔ t.Gives p

theorem Info.HasTraits.has_eq {info : Info} {t : Traits} {p : Property} {ps : List Property}
    (h : info.HasTraits t) (hp : t.Gives p ↔ p ∈ ps) : info.has p = decide (p ∈ ps) := by
  rw [Bool.eq_iff_iff, decide_eq_true_iff, h p, hp]

theorem Info.hasTraits_of_mem_iff {info : Info} {t : Traits} {ps : List Property}
    (h : info.properties = flagsOf ps) (hps : ∀ p, p ∈ ps ↔ p ∈ t.properties) :
    info.HasTraits t := by
  intro p
  rw [has_flagsOf h, decide_eq_true_iff, hps p, t.mem_properties]

variable (form : Form) (opcode : Nat)

def LegacyFields.traits (r : LegacyFields) : Traits :=
  { r with isInstruction := form.isInstruction }

theorem LegacyFields.hasTraits (r : LegacyFields) :
    (r.info form opcode).HasTraits (r.traits form) := by
  refine Info.hasTraits_of_mem_iff rfl fun p => ?_
  simp [Traits.properties, traits, Info.identity, WBit.properties, Info.mem_when]

def VexFields.traits (r : VexFields) : Traits :=
  { r with isInstruction := form.isInstruction, lig := r.length = .lig }

theorem VexFields.hasTraits (r : VexFields) :
    (r.info form opcode).HasTraits (r.traits form) := by
  refine Info.hasTraits_of_mem_iff rfl fun p => ?_
  simp [Traits.properties, traits, Info.identity, AllowedPrefixes.permissions, Info.mem_when,
    or_comm, or_left_comm]

def EvexFields.traits (r : EvexFields) : Traits :=
  { r with isInstruction := form.isInstruction, completionMask := form.usesCompletionMask }

theorem EvexFields.hasTraits (r : EvexFields) :
    (r.info form opcode).HasTraits (r.traits form) := by
  refine Info.hasTraits_of_mem_iff rfl fun p => ?_
  simp [Traits.properties, traits, Info.identity, AllowedPrefixes.permissions, Info.mem_when]

/-- The flags of an EVEX record, assigned one after the other to those of its modes and `W`. -/
theorem EvexFields.properties_eq (r : EvexFields) :
    (r.info form opcode).properties
      = Info.assignAll (Info.flagsOf (Info.identity form ++ r.encodable.modes ++ r.w.properties))
        [(.lig, r.lig), (.broadcast, r.broadcast), (.roundingControl, r.roundingControl),
          (.suppressAllExceptions, r.sae), (.opMaskRegister, r.opmask),
          (.zeroingMasking, r.zeroing), (.nonZeroOpMask, form.usesCompletionMask)] := by
  rw [Info.assignAll_flagsOf (by simp)]
  · simp [info, List.append_assoc]
  · simp (disch := decide) [Info.identity, Info.mem_when, Encodable.not_mem_modes,
      WBit.not_mem_properties]

def XopFields.traits (r : XopFields) : Traits :=
  { r with isInstruction := form.isInstruction }

theorem XopFields.hasTraits (r : XopFields) :
    (r.info form opcode).HasTraits (r.traits form) := by
  refine Info.hasTraits_of_mem_iff rfl fun p => ?_
  simp [Traits.properties, traits, Info.identity, AllowedPrefixes.permissions, Info.mem_when]

theorem Info.hasTraits_ofThreeDNow (modes : Encodable) :
    (ofThreeDNow form opcode modes).HasTraits
      { isInstruction := form.isInstruction, encodable := modes } := by
  refine Info.hasTraits_of_mem_iff rfl fun p => ?_
  simp [Traits.properties, Info.identity, AllowedPrefixes.permissions, WBit.properties,
    Info.mem_when]

end OpcodeForms
