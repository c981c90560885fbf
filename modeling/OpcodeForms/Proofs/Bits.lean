import Mathlib.Algebra.Group.Nat.Defs
import OpcodeForms.Word.Bits

/-!
# Words bit by bit

What `extract` and `deposit` do is said here of each bit. A word is determined by its 32 bits
(`ext_bit`), so equations between words are proved one bit at a time.

With checked arithmetic, the steps of reading and overwriting a range are defined for some ranges
only. Which ones these are, and what comes of them, is said of all words in `exact_on_ranges`.
-/

namespace OpcodeForms.Bits

/-- Bit `i` of the word, which is unset from 32 on. -/
def bit (w : UInt32) (i : Nat) : Bool :=
  w.toNat.testBit i

theorem bit_eq_getLsbD (w : UInt32) (i : Nat) : bit w i = w.toBitVec.getLsbD i := rfl

theorem bit_of_ge (w : UInt32) {i : Nat} (h : 32 ≤ i) : bit w i = false := by
  rw [bit_eq_getLsbD, BitVec.getLsbD_of_ge _ _ h]

/-- **A word is determined by its bits.** -/
theorem ext_bit {w v : UInt32} (h : ∀ i, i < 32 → bit w i = bit v i) : w = v := by
  apply UInt32.toBitVec_inj.mp
  apply BitVec.eq_of_getLsbD_eq
  exact h

/-! ## Operations on words -/

@[simp] theorem bit_zero (i : Nat) : bit 0 i = false := by
  simp [bit]

@[simp] theorem bit_and (w v : UInt32) (i : Nat) : bit (w &&& v) i = (bit w i && bit v i) := by
  simp [bit]

@[simp] theorem bit_or (w v : UInt32) (i : Nat) : bit (w ||| v) i = (bit w i || bit v i) := by
  simp [bit]

theorem bit_not (w : UInt32) (i : Nat) : bit (~~~w) i = (decide (i < 32) && !bit w i) := by
  simp [bit_eq_getLsbD]

theorem bit_ones (i : Nat) : bit 0xffffffff i = decide (i < 32) := by
  rw [bit, show (0xffffffff : UInt32).toNat = 2 ^ 32 - 1 from rfl, Nat.testBit_two_pow_sub_one]

theorem toNat_ofNat_of_lt {n : Nat} (h : n < 2 ^ 32) : (UInt32.ofNat n).toNat = n :=
  UInt32.toNat_ofNat_of_lt' h

theorem bit_shiftLeft (w : UInt32) {n : Nat} (hn : n < 32) (i : Nat) :
    bit (w <<< UInt32.ofNat n) i = (decide (n ≤ i ∧ i < 32) && bit w (i - n)) := by
  have hamount : (UInt32.ofNat n).toNat % 32 = n := by
    rw [toNat_ofNat_of_lt (by omega), Nat.mod_eq_of_lt hn]
  rw [bit, UInt32.toNat_shiftLeft, hamount, Nat.testBit_mod_two_pow, Nat.testBit_shiftLeft,
    Bool.and_left_comm, ← Bool.and_assoc, ← Bool.decide_and]
  rfl

theorem bit_shiftRight (w : UInt32) {n : Nat} (hn : n < 32) (i : Nat) :
    bit (w >>> UInt32.ofNat n) i = bit w (n + i) := by
  have hamount : (UInt32.ofNat n).toNat % 32 = n := by
    rw [toNat_ofNat_of_lt (by omega), Nat.mod_eq_of_lt hn]
  rw [bit, UInt32.toNat_shiftRight, hamount, Nat.testBit_shiftRight, bit]

/-- A word whose bits from `n` on are unset is less than `2 ^ n`. -/
theorem toNat_lt_of_bit {w : UInt32} {n : Nat} (h : ∀ i, n ≤ i → bit w i = false) :
    w.toNat < 2 ^ n :=
  Nat.lt_pow_two_of_testBit w.toNat h

/-- A word less than `2 ^ n` has no bits from `n` on. -/
theorem bit_of_toNat_lt {w : UInt32} {n i : Nat} (h : w.toNat < 2 ^ n) (hi : n ≤ i) :
    bit w i = false :=
  Nat.testBit_lt_two_pow (Nat.lt_of_lt_of_le h (Nat.pow_le_pow_right (by decide) hi))

/-! ## Ranges of bits -/

variable {pos len : Nat}

/-- The mask of a range has the bits of the range. -/
theorem bit_mask (hlen : 0 < len) (hpos : pos < 32) (hstop : len ≤ 32) (i : Nat) :
    bit (mask pos len) i = decide (pos ≤ i ∧ i < pos + len ∧ i < 32) := by
  rw [mask, bit_shiftLeft _ hpos, bit_shiftRight _ (by omega), bit_ones, ← Bool.decide_and]
  exact decide_eq_decide.mpr (by omega)

/-- `extract` moves the bits of the range down. -/
theorem bit_extract (w : UInt32) (hlen : 0 < len) (hstop : pos + len ≤ 32) (i : Nat) :
    bit (extract w pos len) i = (decide (i < len) && bit w (pos + i)) := by
  rw [extract, bit_shiftRight _ (by omega), bit_shiftLeft _ (by omega)]
  by_cases hi : i < len
  · rw [show 32 - len + i - (32 - pos - len) = pos + i by omega]
    simp only [hi, decide_true, Bool.true_and]
    rw [decide_eq_true (by omega), Bool.true_and]
  · simp only [hi, decide_false, Bool.false_and]
    rw [decide_eq_false (by omega), Bool.false_and]

/-- **What is read are the digits of the range.** -/
theorem toNat_extract (w : UInt32) (hlen : 0 < len) (hstop : pos + len ≤ 32) :
    (extract w pos len).toNat = w.toNat / 2 ^ pos % 2 ^ len := by
  apply Nat.eq_of_testBit_eq
  intro i
  rw [Nat.testBit_mod_two_pow, Nat.testBit_div_two_pow, Nat.add_comm i pos]
  exact bit_extract w hlen hstop i

/-- `deposit` takes the bits of the range from the value and leaves the others. -/
theorem bit_deposit (w v : UInt32) (hlen : 0 < len) (hpos : pos < 32) (hstop : len ≤ 32) {i : Nat}
    (hi : i < 32) :
    bit (deposit w pos len v) i
      = if pos ≤ i ∧ i < pos + len then bit v (i - pos) else bit w i := by
  rw [deposit, bit_or, bit_and, bit_and, bit_not, bit_mask hlen hpos hstop, bit_shiftLeft _ hpos]
  by_cases h : pos ≤ i ∧ i < pos + len
  · simp [h, hi]
  · simp [h, hi]

/-! ## Checked arithmetic -/

section

variable {a b w : UInt32} {n : Nat}

theorem sub?_of_le (h : b.toNat ≤ a.toNat) :
    sub? a b = some (UInt32.ofNat (a.toNat - b.toNat)) := by
  have hle : b ≤ a := UInt32.le_iff_toNat_le.mpr h
  have hlt := a.toNat_lt
  rw [sub?, if_pos hle, Option.some_inj]
  apply UInt32.toNat_inj.mp
  rw [UInt32.toNat_sub_of_le _ _ hle, toNat_ofNat_of_lt (by omega)]

theorem sub?_of_lt (h : a.toNat < b.toNat) : sub? a b = none :=
  if_neg fun hle => Nat.not_le_of_lt h (UInt32.le_iff_toNat_le.mp hle)

theorem shiftLeft?_of_lt (h : n < 32) :
    shiftLeft? w (UInt32.ofNat n) = some (w <<< UInt32.ofNat n) := by
  refine if_pos (UInt32.lt_iff_toNat_lt.mpr ?_)
  rwa [toNat_ofNat_of_lt (by omega)]

theorem shiftRight?_of_lt (h : n < 32) :
    shiftRight? w (UInt32.ofNat n) = some (w >>> UInt32.ofNat n) := by
  refine if_pos (UInt32.lt_iff_toNat_lt.mpr ?_)
  rwa [toNat_ofNat_of_lt (by omega)]

/-- **`extract?` gives a result on the nonempty ranges inside the word.** For other ranges one of
the differences is negative, or the second shift is by the whole width. -/
theorem extract?_eq (w pos len : UInt32) :
    extract? w pos len = if 1 ≤ len.toNat ∧ pos.toNat + len.toNat ≤ 32 then
      some (extract w pos.toNat len.toNat) else none := by
  have hwidth : (32 : UInt32).toNat = 32 := rfl
  unfold extract?
  by_cases hpos : pos.toNat ≤ 32
  · have hstart : (UInt32.ofNat (32 - pos.toNat)).toNat = 32 - pos.toNat :=
      toNat_ofNat_of_lt (by omega)
    rw [sub?_of_le (a := 32) hpos, hwidth]
    by_cases hstop : len.toNat ≤ 32 - pos.toNat
    · have hlow : len.toNat ≤ 32 := by omega
      simp only [Option.bind_eq_bind, Option.bind_some]
      rw [sub?_of_le (by rwa [hstart]), hstart, sub?_of_le (a := 32) hlow, hwidth,
        Option.bind_some]
      by_cases hlen : 1 ≤ len.toNat
      · rw [if_pos ⟨hlen, by omega⟩, shiftLeft?_of_lt (by omega), Option.bind_some,
          Option.bind_some]
        exact shiftRight?_of_lt (by omega)
      · have hzero : len.toNat = 0 := by omega
        rw [if_neg fun h => hlen h.1, hzero]
        cases shiftLeft? w (UInt32.ofNat (32 - pos.toNat - 0)) <;> rfl
    · simp only [Option.bind_eq_bind, Option.bind_some]
      rw [sub?_of_lt (by rw [hstart]; omega), if_neg (by omega)]
      rfl
  · rw [sub?_of_lt (a := 32) (by rw [hwidth]; omega), if_neg (by omega)]
    rfl

theorem mask?_eq (pos len : UInt32) :
    mask? pos len = if 1 ≤ len.toNat ∧ len.toNat ≤ 32 ∧ pos.toNat ≤ 31 then
      some (mask pos.toNat len.toNat) else none := by
  have hwidth : (32 : UInt32).toNat = 32 := rfl
  unfold mask?
  by_cases hstop : len.toNat ≤ 32
  · rw [sub?_of_le (a := 32) hstop, hwidth]
    simp only [Option.bind_eq_bind, Option.bind_some]
    by_cases hlen : 1 ≤ len.toNat
    · have hpos : pos < 32 ↔ 1 ≤ len.toNat ∧ len.toNat ≤ 32 ∧ pos.toNat ≤ 31 := by
        rw [UInt32.lt_iff_toNat_lt, hwidth]
        omega
      rw [shiftRight?_of_lt (by omega), Option.bind_some]
      simp only [shiftLeft?, hpos, mask, UInt32.ofNat_toNat]
    · have hzero : len.toNat = 0 := by omega
      rw [if_neg fun h => hlen h.1, hzero]
      rfl
  · rw [sub?_of_lt (a := 32) (by rw [hwidth]; omega), if_neg fun h => hstop h.2.1]
    rfl

/-- **`deposit?` gives a result on the nonempty ranges of up to 32 bits that begin in the word.** -/
theorem deposit?_eq (w pos len v : UInt32) :
    deposit? w pos len v = if 1 ≤ len.toNat ∧ len.toNat ≤ 32 ∧ pos.toNat ≤ 31 then
      some (deposit w pos.toNat len.toNat v) else none := by
  unfold deposit?
  rw [mask?_eq]
  by_cases h : 1 ≤ len.toNat ∧ len.toNat ≤ 32 ∧ pos.toNat ≤ 31
  · have hshift : shiftLeft? v pos = some (v <<< pos) :=
      if_pos (UInt32.lt_iff_toNat_lt.mpr (Nat.lt_succ_of_le h.2.2))
    rw [if_pos h, if_pos h, hshift, deposit, UInt32.ofNat_toNat]
    rfl
  · rw [if_neg h, if_neg h]
    rfl

end

/-- **Reading and overwriting ranges of bits, for all words.** No step of reading is undefined
exactly if the range is not empty and lies in the word, and none of overwriting exactly if it is
not empty, no longer than a word and begins in the word. What is read are the digits of the range.
What is written are the low bits of the value, as far as the word has room for them. -/
theorem exact_on_ranges (w pos len v : UInt32) :
    ((extract? w pos len).isSome = true ↔ 1 ≤ len.toNat ∧ pos.toNat + len.toNat ≤ 32) ∧
      (∀ u, extract? w pos len = some u →
        u.toNat = w.toNat / 2 ^ pos.toNat % 2 ^ len.toNat) ∧
      ((deposit? w pos len v).isSome = true ↔
        1 ≤ len.toNat ∧ len.toNat ≤ 32 ∧ pos.toNat ≤ 31) ∧
      ∀ u, deposit? w pos len v = some u → ∀ i < 32,
        bit u i = if pos.toNat ≤ i ∧ i < pos.toNat + len.toNat then bit v (i - pos.toNat)
          else bit w i := by
  rw [extract?_eq, deposit?_eq]
  refine ⟨Option.isSome_ite, ?_, Option.isSome_ite, ?_⟩
  · intro u hu
    obtain ⟨⟨hlen, hstop⟩, hu⟩ := Option.ite_none_right_eq_some.mp hu
    rw [← Option.some.inj hu]
    exact toNat_extract w hlen hstop
  · intro u hu i hi
    obtain ⟨⟨hlen, hstop, hpos⟩, hu⟩ := Option.ite_none_right_eq_some.mp hu
    rw [← Option.some.inj hu]
    exact bit_deposit w v hlen (Nat.lt_succ_of_le hpos) hstop hi

/-- A range of eight bits from bit 28 on cannot be read, and only four bits of it can be written. -/
theorem exact_on_ranges_beyond :
    extract? 0x12345678 28 8 = none ∧ extract? 0x12345678 24 8 = some 0x12 ∧
      deposit? 0x12345678 28 8 0xabc = some 0xc2345678 ∧ bit 0xc2345678 31 = bit 0xabc 3 := by
  have hread := exact_on_ranges 0x12345678 24 8 0
  have hwrite := exact_on_ranges 0x12345678 28 8 0xabc
  have hdeposit : deposit? 0x12345678 28 8 0xabc = some 0xc2345678 := by decide
  refine ⟨?_, ?_, hdeposit, hwrite.2.2.2 _ hdeposit 31 (by decide)⟩
  · exact Option.not_isSome_iff_eq_none.mp fun h => absurd (hwrite.1.mp h) (by decide)
  · obtain ⟨u, hu⟩ := Option.isSome_iff_exists.mp (hread.1.mpr (by decide))
    rw [hu, Option.some_inj]
    exact UInt32.toNat_inj.mp (hread.2.1 u hu)

end OpcodeForms.Bits
