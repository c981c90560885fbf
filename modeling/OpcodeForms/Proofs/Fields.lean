import OpcodeForms.Proofs.Bits
import OpcodeForms.Word.Field

/-!
# Reading and writing fields

`get` and `set` in terms of the bits that a field covers, and the laws that follow: a field reads
what was written to it, and a write leaves every field alone that it does not overlap with.

A list of fields selects the bits that one of them covers (`maskOf`). Two words agree on these
bits exactly when they agree on the value of each field (`and_maskOf_eq_iff`).
-/

namespace OpcodeForms.Field

open Bits

variable {f g : Field} {fs : List Field} {w v u : UInt32} {i : Nat}

/-- Bit `i` belongs to the field. -/
def Covers (f : Field) (i : Nat) : Prop :=
  f.start ≤ i ∧ i < f.stop

instance (f : Field) (i : Nat) : Decidable (Covers f i) :=
  inferInstanceAs (Decidable (_ ∧ _))

theorem Covers.lt (h : f.Covers i) : i < 32 :=
  Nat.lt_of_lt_of_le h.2 f.stop_le

theorem covers_start_add (h : i < f.size) : f.Covers (f.start + i) :=
  ⟨Nat.le_add_right _ _, Nat.add_lt_add_left h _⟩

theorem start_lt (f : Field) : f.start < 32 := by
  have hpos := f.size_pos
  have hstop := f.stop_le
  omega

theorem size_le (f : Field) : f.size ≤ 32 := by
  have hstop := f.stop_le
  omega

/-- Fields that do not overlap have no bit in common. -/
theorem not_covers_of_not_overlaps (h : ¬ f.Overlaps g) (hi : f.Covers i) : ¬ g.Covers i := by
  intro hg
  exact h ⟨Nat.lt_of_le_of_lt hi.1 hg.2, Nat.lt_of_le_of_lt hg.1 hi.2⟩

/-! ## Making fields -/

/-- **A range is a field exactly when it is not empty and lies inside the word**, and the field
has this range. -/
theorem ofRange?_eq_some_iff {start size : Nat} :
    ofRange? start size = some f ↔
      (0 < size ∧ start + size ≤ 32) ∧ f.start = start ∧ f.size = size := by
  obtain ⟨start', size', hpos, hstop⟩ := f
  unfold ofRange?
  split
  · next h => simp only [h, true_and, Option.some.injEq, mk.injEq, eq_comm]
  · next h => simp only [h, reduceCtorEq, false_and]

/-- A field that is made of one bit covers that bit and no other. -/
theorem covers_iff_of_bit? (h : bit? i = some f) {j : Nat} : f.Covers j ↔ j = i := by
  obtain ⟨-, hstart, hsize⟩ := ofRange?_eq_some_iff.mp h
  unfold Covers stop
  omega

/-! ## Bits of what is read and written -/

theorem bit_get (f : Field) (w : UInt32) (i : Nat) :
    bit (f.get w) i = (decide (i < f.size) && bit w (f.start + i)) :=
  bit_extract w f.size_pos f.stop_le i

theorem bit_set (f : Field) (w v : UInt32) (hi : i < 32) :
    bit (f.set w v) i = if f.Covers i then bit v (i - f.start) else bit w i :=
  bit_deposit w v f.size_pos f.start_lt f.size_le hi

/-- What a field holds has no more bits than the field. -/
theorem get_lt (f : Field) (w : UInt32) : (f.get w).toNat < 2 ^ f.size := by
  apply toNat_lt_of_bit
  intro i hi
  rw [bit_get, decide_eq_false (by omega), Bool.false_and]

theorem get_eq_iff : f.get w = f.get v ↔ ∀ i, f.Covers i → bit w i = bit v i := by
  constructor
  · intro h i hi
    have hb := congrArg (fun u => bit u (i - f.start)) h
    have hsize : i - f.start < f.size := by
      have h1 := hi.1
      have h2 : i < f.start + f.size := hi.2
      omega
    simp only [bit_get, hsize, decide_true, Bool.true_and] at hb
    rwa [show f.start + (i - f.start) = i from Nat.add_sub_of_le hi.1] at hb
  · intro h
    apply ext_bit
    intro i _
    rw [bit_get, bit_get]
    -- above the size of the field both values are zero
    by_cases hi : i < f.size
    · rw [h _ (covers_start_add hi)]
    · rw [decide_eq_false hi, Bool.false_and, Bool.false_and]

/-- The largest value has all bits that the field has room for. -/
theorem toNat_max (f : Field) : f.max.toNat = 2 ^ f.size - 1 := by
  have hpos := f.size_pos
  apply Nat.eq_of_testBit_eq
  intro i
  change bit f.max i = _
  rw [max, bit_shiftRight _ (by omega), bit_ones, Nat.testBit_two_pow_sub_one]
  have hsize := f.size_le
  exact decide_eq_decide.mpr (by omega)

theorem le_max_iff : v ≤ f.max ↔ v.toNat < 2 ^ f.size := by
  rw [UInt32.le_iff_toNat_le, toNat_max]
  have := Nat.two_pow_pos f.size
  omega

theorem isSet_iff : f.isSet w = true ↔ f.get w ≠ 0 :=
  bne_iff_ne

theorem isSet_eq_false_iff : f.isSet w = false ↔ f.get w = 0 :=
  bne_eq_false_iff_eq

/-- A field of one bit holds whether it is set. -/
theorem get_of_size_eq_one (hsize : f.size = 1) : f.get w = if f.isSet w then 1 else 0 := by
  have hlt := f.get_lt w
  rw [hsize] at hlt
  cases hset : f.isSet w with
  | false => exact isSet_eq_false_iff.mp hset
  | true =>
    have hne : (f.get w).toNat ≠ 0 := fun hzero =>
      isSet_iff.mp hset (UInt32.toNat_inj.mp hzero)
    apply UInt32.toNat_inj.mp
    change _ = 1
    omega

/-- A field that is made of one bit is set exactly when the bit is. -/
theorem isSet_of_bit? (h : bit? i = some f) : f.isSet w = Bits.bit w i := by
  obtain ⟨-, hstart, hsize⟩ := ofRange?_eq_some_iff.mp h
  have hbit : Bits.bit (f.get w) 0 = Bits.bit w i := by
    rw [bit_get, hsize, hstart]
    exact Bool.true_and _
  rw [← hbit, get_of_size_eq_one hsize]
  cases f.isSet w <;> rfl

/-! ## The laws of writing -/

/-- **A field reads the value that was written to it.** -/
theorem get_set_self (h : v.toNat < 2 ^ f.size) : f.get (f.set w v) = v := by
  apply ext_bit
  intro i _
  rw [bit_get]
  by_cases hi : i < f.size
  · have hc := covers_start_add hi
    rw [decide_eq_true hi, Bool.true_and, bit_set f w v hc.lt, if_pos hc, Nat.add_sub_cancel_left]
  · rw [decide_eq_false hi, Bool.false_and, bit_of_toNat_lt h (Nat.le_of_not_lt hi)]

/-- **A write leaves the other fields alone.** -/
theorem get_set_of_not_overlaps (h : ¬ f.Overlaps g) : f.get (g.set w v) = f.get w := by
  apply get_eq_iff.mpr
  intro i hi
  rw [bit_set g w v hi.lt, if_neg (not_covers_of_not_overlaps h hi)]

theorem bit_set_of_not_covers (hi : ¬ f.Covers i) : bit (f.set w v) i = bit w i := by
  by_cases h : i < 32
  · rw [bit_set f w v h, if_neg hi]
  · rw [bit_of_ge _ (Nat.le_of_not_lt h), bit_of_ge _ (Nat.le_of_not_lt h)]

/-! ## The bits of several fields -/

/-- The word whose set bits are those that a field of the list covers. -/
def maskOf (fs : List Field) : UInt32 :=
  fs.foldr (fun f m => Bits.mask f.start f.size ||| m) 0

theorem bit_maskOf : ∀ (fs : List Field) (i : Nat),
    bit (maskOf fs) i = decide (∃ f ∈ fs, f.Covers i)
  | [], i => by simp [maskOf]
  | f :: fs, i => by
    have ih := bit_maskOf fs i
    rw [maskOf, List.foldr_cons, bit_or, bit_mask f.size_pos f.start_lt f.size_le, ← maskOf, ih,
      ← Bool.decide_or]
    refine decide_eq_decide.mpr ?_
    simp only [List.mem_cons, exists_eq_or_imp]
    exact or_congr_left ⟨fun h => ⟨h.1, h.2.1⟩, fun h => ⟨h.1, h.2, Covers.lt h⟩⟩

/-- **Words agree on the bits of some fields exactly when they agree on their values.** -/
theorem and_maskOf_eq_iff :
    w &&& maskOf fs = v &&& maskOf fs ↔ ∀ f ∈ fs, f.get w = f.get v := by
  constructor
  · intro h f hf
    apply get_eq_iff.mpr
    intro i hi
    have hb := congrArg (fun u => bit u i) h
    have hm : bit (maskOf fs) i = true := by
      rw [bit_maskOf]
      exact decide_eq_true ⟨f, hf, hi⟩
    simpa only [bit_and, hm, Bool.and_true] using hb
  · intro h
    apply ext_bit
    intro i _
    rw [bit_and, bit_and, bit_maskOf]
    by_cases hm : ∃ f ∈ fs, f.Covers i
    · obtain ⟨f, hf, hi⟩ := hm
      rw [get_eq_iff.mp (h f hf) i hi]
    · rw [decide_eq_false hm, Bool.and_false, Bool.and_false]

/-- A word without bits outside some fields is determined by their values. -/
theorem eq_of_get_eq (hw : w &&& ~~~ maskOf fs = 0) (hv : v &&& ~~~ maskOf fs = 0)
    (h : ∀ f ∈ fs, f.get w = f.get v) : w = v := by
  have hand := and_maskOf_eq_iff.mpr h
  apply ext_bit
  intro i hi
  have hw' := congrArg (fun u => bit u i) hw
  have hv' := congrArg (fun u => bit u i) hv
  have hb := congrArg (fun u => bit u i) hand
  simp only [bit_and, bit_not, hi, decide_true, Bool.true_and, bit_zero] at hw' hv' hb
  -- under the mask the fields decide, and elsewhere both words are zero
  cases hm : bit (maskOf fs) i with
  | false => simp_all
  | true => simp_all

end OpcodeForms.Field
