import Mathlib.Algebra.Group.Nat.Defs
import OpcodeForms.Text.Numeral

/-!
# Numerals and their values

`readNumeral` stops at the first character that is wrong and at the first value that is too large.
What it accepts are the texts whose characters are digits, with the value of these digits and an
optional sign in front (`hexAtMost?_eq_some_iff`). In particular it reads the digits of a number
back.
-/

namespace OpcodeForms.Text

variable {base n m d : Nat} {s : List Char} {c : Char}

/-- The value of a list of digits, after digits with the value `n`. -/
def valueOf (base n : Nat) (ds : List Nat) : Nat :=
  ds.foldl (fun n d => n * base + d) n

/-- The number that a hexadecimal numeral denotes, however large. -/
def hexValue? (s : List Char) : Option Nat :=
  let digits := if s.head? = some '+' then s.tail else s
  if digits.isEmpty then none else (digits.mapM digitValue?).map (valueOf 16 0)

theorem digitValue?_lt (h : digitValue? c = some d) : d < 16 := by
  unfold digitValue? at h
  simp only [Bool.and_eq_true, decide_eq_true_eq] at h
  split at h
  · cases h
    omega
  · split at h
    · cases h
      omega
    · split at h
      · cases h
        omega
      · cases h

theorem le_valueOf (hbase : 0 < base) : ∀ (ds : List Nat) (n : Nat), n ≤ valueOf base n ds
  | [], n => Nat.le_refl n
  | d :: ds, n => by
    have ih := le_valueOf hbase ds (n * base + d)
    have hle : n ≤ n * base := Nat.le_mul_of_pos_right n hbase
    rw [valueOf, List.foldl_cons, ← valueOf]
    omega

/-- **Digits are read as their value, if this fits into 32 bits.** -/
theorem readDigits_eq_ok_iff (hn : n < UInt32.size) :
    readDigits 16 n s = .ok m ↔
      ∃ ds, s.mapM digitValue? = some ds ∧ m = valueOf 16 n ds ∧ m < UInt32.size := by
  induction s generalizing n with
  | nil =>
    constructor
    · intro h
      cases h
      exact ⟨[], rfl, rfl, hn⟩
    · rintro ⟨ds, hds, rfl, -⟩
      cases hds
      rfl
  | cons c s ih =>
    unfold readDigits
    rw [List.mapM_cons]
    cases hd : digitValue? c with
    | none => simp
    | some d =>
      simp only [digitValue?_lt hd, if_true, Option.bind_eq_bind, Option.bind_some]
      by_cases hlt : n * 16 + d < UInt32.size
      · rw [if_pos hlt, ih hlt]
        constructor
        · rintro ⟨ds, hds, rfl, hm⟩
          exact ⟨d :: ds, by rw [hds]; rfl, rfl, hm⟩
        · rintro ⟨ds', hds', rfl, hm⟩
          obtain ⟨ds, hds, hcons⟩ := Option.bind_eq_some_iff.mp hds'
          cases hcons
          exact ⟨ds, hds, rfl, hm⟩
      · rw [if_neg hlt]
        refine ⟨fun h => (by cases h), ?_⟩
        rintro ⟨ds', hds', rfl, hm⟩
        obtain ⟨ds, hds, hcons⟩ := Option.bind_eq_some_iff.mp hds'
        cases hcons
        -- the value grows with every digit
        exact absurd (Nat.lt_of_le_of_lt (le_valueOf (by decide) ds _) hm) hlt

/-- **A hexadecimal numeral is read as its value, if this fits into 32 bits.** -/
theorem readNumeral_eq_ok_iff :
    readNumeral 16 s = .ok n ↔ hexValue? s = some n ∧ n < UInt32.size := by
  have hdigits : ∀ r : List Char, readDigits 16 0 r = .ok n ↔
      (r.mapM digitValue?).map (valueOf 16 0) = some n ∧ n < UInt32.size := by
    intro r
    rw [readDigits_eq_ok_iff (by decide), Option.map_eq_some_iff]
    constructor
    · rintro ⟨ds, hds, rfl, hn⟩
      exact ⟨⟨ds, hds, rfl⟩, hn⟩
    · rintro ⟨⟨ds, hds, rfl⟩, hn⟩
      exact ⟨ds, hds, rfl, hn⟩
  unfold readNumeral hexValue?
  split
  · simp
  · simp
  · next r hne =>
    have hr : r ≠ [] := fun hr => hne (hr ▸ rfl)
    rw [hdigits]
    simp [hr]
  · next hempty _ hplus =>
    have hhead : s.head? ≠ some '+' := by
      intro h
      obtain ⟨r, rfl⟩ := List.head?_eq_some_iff.mp h
      exact hplus r rfl
    have hs : s ≠ [] := hempty
    rw [hdigits]
    simp [hhead, hs]

/-- **A hexadecimal numeral is accepted if its value is not too large.** -/
theorem hexAtMost?_eq_some_iff {max : Nat} (hmax : max < UInt32.size) :
    hexAtMost? max s = some n ↔ hexValue? s = some n ∧ n ≤ max := by
  unfold hexAtMost?
  constructor
  · intro h
    split at h
    · next k hk =>
      split at h
      · next hle =>
        cases h
        exact ⟨(readNumeral_eq_ok_iff.mp hk).1, hle⟩
      · cases h
    · cases h
  · rintro ⟨hvalue, hle⟩
    rw [readNumeral_eq_ok_iff.mpr ⟨hvalue, Nat.lt_of_le_of_lt hle hmax⟩]
    exact if_pos hle

/-! ## Writing numerals -/

theorem digitValue?_digitChar (h : d < 16) : digitValue? d.digitChar = some d := by
  have key : ∀ d : Fin 16, digitValue? d.val.digitChar = some d.val := by decide
  exact key ⟨d, h⟩

/-- The digits of a number have its value. -/
theorem exists_digits (n : Nat) :
    ∃ ds, (Nat.toDigits 16 n).mapM digitValue? = some ds ∧ valueOf 16 0 ds = n := by
  induction n using Nat.strongRecOn with
  | ind n ih =>
    by_cases hn : n < 16
    · refine ⟨[n], ?_, by simp [valueOf]⟩
      rw [Nat.toDigits_of_lt_base hn]
      simp [digitValue?_digitChar hn]
    · obtain ⟨ds, hds, hvalue⟩ := ih (n / 16) (by omega)
      refine ⟨ds ++ [n % 16], ?_, ?_⟩
      · rw [Nat.toDigits_of_base_le (by decide) (Nat.le_of_not_lt hn), List.mapM_append, hds]
        simp [digitValue?_digitChar (Nat.mod_lt n (by decide : 0 < 16))]
      · unfold valueOf at hvalue ⊢
        rw [List.foldl_append, hvalue, List.foldl_cons, List.foldl_nil]
        omega

theorem exists_digitValue? {ds : List Nat} (h : s.mapM digitValue? = some ds) (hc : c ∈ s) :
    ∃ d, digitValue? c = some d := by
  induction s generalizing ds with
  | nil => cases hc
  | cons c' s ih =>
    rw [List.mapM_cons] at h
    obtain ⟨d, hd, h⟩ := Option.bind_eq_some_iff.mp h
    obtain ⟨ds', hds', -⟩ := Option.bind_eq_some_iff.mp h
    rcases List.mem_cons.mp hc with rfl | hc
    · exact ⟨d, hd⟩
    · exact ih hds' hc

/-- Every digit of a number is a digit. -/
theorem digitValue?_of_mem_toDigits (h : c ∈ Nat.toDigits 16 n) : ∃ d, digitValue? c = some d := by
  obtain ⟨ds, hds, -⟩ := exists_digits n
  exact exists_digitValue? hds h

theorem hexValue?_toDigits (n : Nat) : hexValue? (Nat.toDigits 16 n) = some n := by
  obtain ⟨ds, hds, hvalue⟩ := exists_digits n
  have hhead : (Nat.toDigits 16 n).head? ≠ some '+' := by
    intro h
    obtain ⟨d, hd⟩ := digitValue?_of_mem_toDigits (List.mem_of_head? h)
    cases hd
  unfold hexValue?
  simp [hhead, Nat.toDigits_ne_nil, hds, hvalue]

/-- **The digits of a number are read back.** -/
theorem hexAtMost?_toDigits {max : Nat} (hmax : max < UInt32.size) (h : n ≤ max) :
    hexAtMost? max (Nat.toDigits 16 n) = some n :=
  (hexAtMost?_eq_some_iff hmax).mpr ⟨hexValue?_toDigits n, h⟩

end OpcodeForms.Text
