import OpcodeForms.Enumeration

/-!
# Raw values and names of enumerations

Raw values are the numbers below the number of members, each of them once, and a name belongs to
one member. So finding a member by its raw value or by its name undoes `raw` and `text`. As the
members are listed, a decidable condition can be checked for all of them (`decidableForall`).
-/

namespace OpcodeForms.Enumeration

variable {α : Type} [DecidableEq α] [Enumeration α] {a b : α} {n : Nat} {s : List Char}

/-- No member is listed twice. -/
theorem nodup_all : (all : List α).Nodup :=
  List.Pairwise.of_map (name : α → String) (fun _ _ h he => h (congrArg name he)) nodup_names

/-- What holds of all members can be checked, as they are listed. -/
instance decidableForall (P : α → Prop) [DecidablePred P] : Decidable (∀ a, P a) :=
  decidable_of_iff (∀ a ∈ (all : List α), P a) ⟨fun h a => h a (mem_all a), fun h a _ => h a⟩

/-! ## Raw values -/

theorem raw_lt (a : α) : raw a < count α :=
  List.idxOf_lt_length_of_mem (mem_all a)

theorem raw_inj (h : raw a = raw b) : a = b := by
  have ha := ofRaw?_raw a
  rw [h, ofRaw?_raw] at ha
  exact (Option.some.inj ha).symm

/-- **A number is the raw value of the member that is found by it.** -/
theorem ofRaw?_eq_some_iff : ofRaw? n = some a ↔ n = raw a := by
  constructor
  · intro h
    obtain ⟨hn, ha⟩ := List.getElem?_eq_some_iff.mp h
    rw [raw, ← ha, nodup_all.idxOf_getElem]
  · intro h
    rw [h, ofRaw?_raw]

theorem ofRaw?_eq_none_iff : (ofRaw? n : Option α) = none ↔ count α ≤ n :=
  List.getElem?_eq_none_iff

/-- Every number below the number of members is a raw value. -/
theorem exists_raw_eq (h : n < count α) : ∃ a : α, n = raw a := by
  cases hn : (ofRaw? n : Option α) with
  | none => exact absurd (ofRaw?_eq_none_iff.mp hn) (Nat.not_le_of_lt h)
  | some a => exact ⟨a, ofRaw?_eq_some_iff.mp hn⟩

/-! ## Names -/

theorem text_inj (h : text a = text b) : a = b :=
  name_inj (String.toList_inj.mp h)

/-- **A text is the name of the member that is found by it.** -/
theorem ofName?_eq_some_iff : ofName? s = some a ↔ s = text a := by
  constructor
  · intro h
    have hb := List.find?_some h
    exact (beq_iff_eq.mp hb).symm
  · intro h
    rw [h, ofName?_text]

end OpcodeForms.Enumeration
