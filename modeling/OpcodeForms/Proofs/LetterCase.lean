import OpcodeForms.Text.Case

/-!
# Letter case

Upper case puts letters and marks for letters, and nothing that comes before the letters in ASCII
(`Text.mem_of_mem_upper`). Texts of ASCII characters have the same upper case exactly if they differ
in case at most (`Text.upper_eq_iff`).
-/

namespace OpcodeForms.Text

variable {c d : Char} {m n : Nat} {s t : List Char}

/-! ## ASCII letters -/

theorem val_mem_range_iff {first last : UInt32} :
    (first ≤ c.val ∧ c.val ≤ last) ↔ first.toNat ≤ c.toNat ∧ c.toNat ≤ last.toNat :=
  and_congr UInt32.le_iff_toNat_le UInt32.le_iff_toNat_le

theorem toNat_toUpper (c : Char) :
    c.toUpper.toNat = if 97 ≤ c.toNat ∧ c.toNat ≤ 122 then c.toNat - 32 else c.toNat := by
  unfold Char.toUpper
  split
  · next h =>
    have hsmall : 97 ≤ c.toNat ∧ c.toNat ≤ 122 := val_mem_range_iff.mp h
    rw [if_pos hsmall]
    show (c.val + _).toNat = _
    rw [UInt32.toNat_add]
    -- the difference of the letters wraps around
    show (c.toNat + 4294967264) % 4294967296 = _
    omega
  · next h => exact (if_neg fun hsmall => h (val_mem_range_iff.mpr hsmall)).symm

theorem toNat_toLower (c : Char) :
    c.toLower.toNat = if 65 ≤ c.toNat ∧ c.toNat ≤ 90 then c.toNat + 32 else c.toNat := by
  unfold Char.toLower
  split
  · next h =>
    have hcapital : 65 ≤ c.toNat ∧ c.toNat ≤ 90 := val_mem_range_iff.mp h
    rw [if_pos hcapital]
    show (c.val + _).toNat = _
    rw [UInt32.toNat_add]
    show (c.toNat + 32) % 4294967296 = _
    omega
  · next h => exact (if_neg fun hcapital => h (val_mem_range_iff.mpr hcapital)).symm

theorem toUpper_eq_iff : c.toUpper = d.toUpper ↔ c.toLower = d.toLower := by
  rw [← Char.toNat_inj, ← Char.toNat_inj, toNat_toUpper, toNat_toUpper, toNat_toLower,
    toNat_toLower]
  split <;> split <;> split <;> split <;> omega

/-! ## Upper case -/

/-- No run leads before the letters, to surrogates or out of the code points. -/
theorem upperRun_bounds : ∀ r ∈ upperRuns, 65 ≤ r.upper ∧
    (r.upper + (r.last - r.first) < 0xd800 ∨
      0xdfff < r.upper ∧ r.upper + (r.last - r.first) < 0x110000) := by
  decide

theorem otherUpper_bounds : ∀ e ∈ otherUppers, ∀ m ∈ e.2, 65 ≤ m ∧ m.isValidChar := by
  decide +kernel

/-- The upper case of a character beyond ASCII consists of characters that do not come before the
letters. -/
theorem le_of_mem_upperCodes (hn : 65 ≤ n) (hvalid : n.isValidChar) (h : m ∈ upperCodes n) :
    65 ≤ m ∧ m.isValidChar := by
  unfold upperCodes at h
  split at h
  · next codes hlookup =>
    obtain ⟨before, after, heq, -⟩ := List.lookup_eq_some_iff.mp hlookup
    exact otherUpper_bounds (n, codes) (heq ▸ List.mem_append_right _ List.mem_cons_self) m h
  · rw [List.mem_singleton] at h
    cases hrun : upperRuns.findSome? (·.upper? n) with
    | none =>
      rw [hrun, Option.getD_none] at h
      exact h ▸ ⟨hn, hvalid⟩
    | some k =>
      rw [hrun, Option.getD_some] at h
      obtain ⟨r, hr, hk⟩ := List.exists_of_findSome?_eq_some hrun
      obtain ⟨⟨hfirst, hlast, -⟩, rfl⟩ := Option.ite_some_none_eq_some.mp hk
      have hbounds := upperRun_bounds r hr
      unfold Nat.isValidChar
      omega

theorem upperChar_of_ascii (h : c.toNat < 0x80) : upperChar c = [c.toUpper] :=
  if_pos h

/-- Upper case brings no character below the letters in. -/
theorem mem_of_mem_upper (hc : c.toNat < 65) (h : c ∈ upper s) : c ∈ s := by
  obtain ⟨d, hd, hmem⟩ := List.mem_flatMap.mp h
  by_cases hascii : d.toNat < 0x80
  · rw [upperChar_of_ascii hascii, List.mem_singleton] at hmem
    subst hmem
    have hnat := toNat_toUpper d
    have heq : d = d.toUpper := by
      rw [← Char.toNat_inj]
      split at hnat <;> omega
    exact heq ▸ hd
  · rw [upperChar, if_neg hascii] at hmem
    obtain ⟨m, hm, rfl⟩ := List.mem_map.mp hmem
    have hd65 : 65 ≤ d.toNat := by omega
    obtain ⟨hle, hvalid⟩ := le_of_mem_upperCodes hd65 d.valid hm
    rw [Char.ofNat, dif_pos hvalid] at hc
    exact absurd hc (Nat.not_lt.mpr hle)

/-! ## ASCII texts -/

/-- All characters of the text are ASCII. -/
def IsAscii (s : List Char) : Prop :=
  ∀ c ∈ s, c.toNat < 0x80

theorem toNat_lt_of_isAlphanum (h : c.isAlphanum = true) : c.toNat < 0x80 := by
  have hbound : ∀ d : Char, d.toNat < 0x80 → c ≤ d → c.toNat < 0x80 := fun d hd hle =>
    Nat.lt_of_le_of_lt (UInt32.le_iff_toNat_le.mp hle) hd
  rcases Bool.or_eq_true_iff.mp h with halpha | hdigit
  · rcases Bool.or_eq_true_iff.mp halpha with hupper | hlower
    · exact hbound 'Z' (by decide) (of_decide_eq_true hupper).2
    · exact hbound 'z' (by decide) (of_decide_eq_true (Bool.and_eq_true_iff.mp hlower).2)
  · exact hbound '9' (by decide) (of_decide_eq_true (Bool.and_eq_true_iff.mp hdigit).2)

theorem upper_of_isAscii (h : IsAscii s) : upper s = s.map Char.toUpper := by
  induction s with
  | nil => rfl
  | cons c s ih =>
    obtain ⟨hc, hs⟩ := List.forall_mem_cons.mp h
    rw [upper, List.flatMap_cons, upperChar_of_ascii hc, List.map_cons, ← ih hs]
    rfl

/-- ASCII texts that are alike in upper case are alike in lower case. -/
theorem upper_eq_iff (hs : IsAscii s) (ht : IsAscii t) :
    upper s = upper t ↔ eqIgnoringCase s t = true := by
  rw [upper_of_isAscii hs, upper_of_isAscii ht, eqIgnoringCase, beq_iff_eq, lower, lower]
  clear hs ht
  induction s generalizing t with
  | nil => cases t <;> simp
  | cons c s ih =>
    cases t with
    | nil => simp
    | cons d t =>
      simp only [List.map_cons, List.cons.injEq, toUpper_eq_iff, ih]

end OpcodeForms.Text
