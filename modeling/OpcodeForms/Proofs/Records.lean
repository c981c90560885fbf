import OpcodeForms.Proofs.LetterCase
import OpcodeForms.Proofs.Packing
import OpcodeForms.Proofs.Settings

/-!
# Records of table lines

A line is accepted if it names a form, a mnemonic and an encoding and if its other words make
assignments, one of them of the opcode (`Record.read_eq_ok_iff`). The attributes that it leads to
fit into the fields of the record (`Line.fits`), so decoding accepts the record of every line.
-/

namespace OpcodeForms

open Enumeration (text)

/-! ## Values -/

theorem Text.le_of_hexAtMost? {max n : Nat} {s : List Char} (h : Text.hexAtMost? max s = some n) :
    n ≤ max := by
  unfold Text.hexAtMost? at h
  split at h
  · split at h
    · next hle => exact Option.some.inj h ▸ hle
    · cases h
  · cases h

theorem mapM_eq_ok_iff {ε α β : Type} {f : α → Except ε β} :
    ∀ {l : List α} {bs : List β},
      l.mapM f = .ok bs ↔ List.Forall₂ (fun a b => f a = .ok b) l bs
  | [], bs => by
    rw [List.mapM_nil, pure_eq_ok_iff, List.forall₂_nil_left_iff]
    exact eq_comm
  | a :: l, bs => by
    rw [List.mapM_cons, bind_eq_ok_iff, List.forall₂_cons_left_iff]
    constructor
    · rintro ⟨b, hb, h⟩
      obtain ⟨bs', hbs', h⟩ := bind_eq_ok_iff.mp h
      exact ⟨b, bs', hb, mapM_eq_ok_iff.mp hbs', (pure_eq_ok_iff.mp h).symm⟩
    · rintro ⟨b, bs', hb, hbs', rfl⟩
      refine ⟨b, hb, ?_⟩
      rw [mapM_eq_ok_iff.mpr hbs']
      rfl

theorem toOption_eq_some_iff {ε α : Type} {x : Except ε α} {a : α} :
    x.toOption = some a ↔ x = .ok a := by
  cases x <;> simp [Except.toOption]

namespace Assignment

variable {e : Encoding} {as : List Assignment} {ws : List (List Char)} {v s : List Char}
  {l : List Nat} {i : Nat}

/-- A listed operand has an index other than that of an unused slot. -/
theorem operandIndex_eq_ok_iff :
    operandIndex e s = .ok i ↔ OperandCode.indexOf? e s = some i ∧ i ≠ 0 := by
  unfold operandIndex
  cases h : OperandCode.indexOf? e s with
  | none => simp
  | some j =>
    cases j with
    | zero =>
      simp only [reduceCtorEq, Option.some.injEq, false_iff, not_and]
      exact fun hi hne => hne hi.symm
    | succ j =>
      simp only [Except.ok.injEq, Option.some.injEq]
      exact ⟨fun hi => ⟨hi, hi ▸ Nat.succ_ne_zero j⟩, And.left⟩

/-- The names in a list of operands. -/
def operandNames (v : List Char) : List (List Char) :=
  (v.splitOn ',').filter fun name => !name.isEmpty

theorem readOperands_eq_ok_iff :
    readOperands e v = .ok l ↔
      e ≠ .threeDNow ∧ (operandNames v).length ≤ e.opSlots ∧
        List.Forall₂ (fun name i => operandIndex e name = .ok i) (operandNames v) l := by
  unfold readOperands operandNames
  by_cases he : e = .threeDNow
  · simp [he]
  · simp only [if_neg he]
    by_cases hlen : e.opSlots < ((v.splitOn ',').filter fun name => !name.isEmpty).length
    · simp only [if_pos hlen, reduceCtorEq, false_iff]
      exact fun h => absurd hlen (Nat.not_lt_of_le h.2.1)
    · simp only [if_neg hlen, mapM_eq_ok_iff]
      exact ⟨fun h => ⟨he, Nat.le_of_not_lt hlen, h⟩, fun h => h.2.2⟩

theorem length_operandCode_le (e : Encoding) : (OperandCode.all e).length ≤ 2 ^ 4 := by
  cases e <;> decide

/-- The indices of a list of operands fit into the slots of the encoding. -/
theorem fits_of_readOperands (h : readOperands e v = .ok l) :
    l.length ≤ e.opSlots ∧ (∀ i ∈ l, 0 < i ∧ i < 2 ^ 4) ∧ (e = .threeDNow → l = []) := by
  obtain ⟨he, hlen, hnames⟩ := readOperands_eq_ok_iff.mp h
  refine ⟨hnames.length_eq ▸ hlen, ?_, fun h => absurd h he⟩
  intro i hi
  obtain ⟨name, -, hname⟩ := exists_of_forall₂_right hnames hi
  obtain ⟨hindex, hne⟩ := operandIndex_eq_ok_iff.mp hname
  obtain ⟨hlt, -⟩ := List.findIdx?_eq_some_iff_getElem.mp hindex
  exact ⟨Nat.pos_of_ne_zero hne, Nat.lt_of_lt_of_le hlt (length_operandCode_le e)⟩

/-! ## Attributes of a line -/

/-- **The attributes of a line with an opcode fit into the fields of its record.** -/
theorem Line.fits (h : Line e ws as)
    (hopcode : (as.foldl Attributes.assign {}).opcode.isSome = true) :
    (as.foldl Attributes.assign {}).Fits e := by
  obtain ⟨n, hn⟩ := Option.isSome_iff_exists.mp hopcode
  -- a bound holds if it holds of the default and of every value that is read
  have hbound : ∀ m ∈ (as.foldl Attributes.assign {}).opcode, m ≤ 0xffff := by
    refine (Setting.opcode.tells h rfl).holds (p := fun o => ∀ m ∈ o, m ≤ 0xffff) ?_ ?_
    · intro m hm
      cases hm
    · intro v o ho m hm
      obtain ⟨k, hk, rfl⟩ := Option.map_eq_some_iff.mp ho
      cases hm
      exact Text.le_of_hexAtMost? hk
  have hgroup : (as.foldl Attributes.assign {}).group.getD 0 ≤ 7 := by
    refine (Setting.group.tells h rfl).holds (p := fun o => o.getD 0 ≤ 7) (by decide) ?_
    intro v o ho
    obtain ⟨k, hk, rfl⟩ := Option.map_eq_some_iff.mp ho
    exact Text.le_of_hexAtMost? hk
  have hlength : (as.foldl Attributes.assign {}).evexLength ≤ 3 :=
    (Setting.evexLength.tells h rfl).holds (by decide) fun v n hn => Text.le_of_hexAtMost? hn
  have hoperands := (Setting.operands.tells h rfl).holds
    (p := fun l => l.length ≤ e.opSlots ∧ (∀ i ∈ l, 0 < i ∧ i < 2 ^ 4) ∧
      (e = .threeDNow → l = []))
    ⟨Nat.zero_le _, List.forall_mem_nil _, fun _ => rfl⟩
    fun v l hl => fits_of_readOperands (toOption_eq_some_iff.mp hl)
  exact {
    opcode := ⟨n, hn, Nat.lt_succ_of_le (hbound n hn)⟩
    group := Nat.lt_succ_of_le hgroup
    evexLength := Nat.lt_succ_of_le hlength
    length_le := hoperands.1
    operand_lt := hoperands.2.1
    noOperands := hoperands.2.2 }

end Assignment

namespace Record

variable {name mnemonic line : List Char} {e : Encoding} {ws : List (List Char)} {r : Record}

/-- The words of an accepted line make assignments, one of them of the opcode. -/
theorem ofWords_eq_ok_iff :
    ofWords name mnemonic e ws = .ok r ↔
      ∃ as, Assignment.Line e ws as ∧ (as.foldl Attributes.assign {}).opcode.isSome = true ∧
        r = ofAttributes name mnemonic e (as.foldl Attributes.assign {}) := by
  unfold ofWords
  constructor
  · intro h
    obtain ⟨as, has, h⟩ := bind_eq_ok_iff.mp h
    refine ⟨as, Assignment.ofWords_eq_ok_iff.mp has, ?_⟩
    cases hopcode : (as.foldl Attributes.assign {}).opcode with
    | none =>
      simp only [hopcode, Option.isNone_none, if_true] at h
      cases h
    | some n =>
      simp only [hopcode, Option.isNone_some, Bool.false_eq_true, if_false] at h
      exact ⟨rfl, (Except.ok.inj h).symm⟩
  · rintro ⟨as, hline, hopcode, rfl⟩
    obtain ⟨n, hn⟩ := Option.isSome_iff_exists.mp hopcode
    rw [Assignment.ofWords_eq_ok_iff.mpr hline, ok_bind]
    simp only [hn, Option.isNone_some, Bool.false_eq_true, if_false]
    rfl

/-- The characters of a name. -/
theorem isAlphanum_of_isName {name : List Char} (h : isName name = true) {c : Char}
    (hc : c ∈ name) : c.isAlphanum = true ∨ c = '_' := by
  cases name with
  | nil => cases hc
  | cons d name =>
    simp only [isName, Bool.and_eq_true, List.all_eq_true, Bool.or_eq_true,
      decide_eq_true_eq] at h
    rcases List.mem_cons.mp hc with rfl | hc
    · exact .inl (by simp [Char.isAlphanum, h.1])
    · exact h.2 c hc

theorem isAscii_of_isName {name : List Char} (h : isName name = true) : Text.IsAscii name := by
  intro c hc
  rcases isAlphanum_of_isName h hc with halnum | rfl
  · exact Text.toNat_lt_of_isAlphanum halnum
  · decide

/-- **A line is accepted if it begins with a name, a mnemonic and an encoding and if its other
words are accepted.** -/
theorem read_eq_ok_iff :
    read line = .ok r ↔
      ∃ name mnemonic e ws, Text.words line = name :: mnemonic :: text e :: ws ∧
        isName name = true ∧ ofWords name mnemonic e ws = .ok r := by
  unfold read
  constructor
  · intro h
    split at h
    · cases h
    · next name rest hwords =>
      cases hname : isName name with
      | false => simp [hname] at h
      | true =>
        simp only [hname, Bool.not_true, Bool.false_eq_true, if_false] at h
        split at h
        · cases h
        · cases h
        · next mnemonic encoding ws =>
          split at h
          · cases h
          · next e he =>
            rw [Enumeration.ofName?_eq_some_iff.mp he] at hwords
            exact ⟨name, mnemonic, e, ws, hwords, hname, h⟩
  · rintro ⟨name, mnemonic, e, ws, hwords, hname, h⟩
    rw [hwords]
    simp only [hname, Bool.not_true, Bool.false_eq_true, if_false, Enumeration.ofName?_text]
    exact h

theorem isName_of_read (h : read line = .ok r) : isName r.name = true := by
  obtain ⟨name, mnemonic, e, ws, -, hname, h⟩ := read_eq_ok_iff.mp h
  obtain ⟨as, -, -, rfl⟩ := ofWords_eq_ok_iff.mp h
  exact hname

/-- What an accepted line says: its words, its assignments and its attributes. -/
theorem exists_attributes (h : read line = .ok r) :
    ∃ name mnemonic e ws as, Text.words line = name :: mnemonic :: text e :: ws ∧
      Assignment.Line e ws as ∧ (as.foldl Attributes.assign {}).Fits e ∧
        r = ofAttributes name mnemonic e (as.foldl Attributes.assign {}) := by
  obtain ⟨name, mnemonic, e, ws, hwords, -, h⟩ := read_eq_ok_iff.mp h
  obtain ⟨as, hline, hopcode, rfl⟩ := ofWords_eq_ok_iff.mp h
  exact ⟨name, mnemonic, e, ws, as, hwords, hline, hline.fits hopcode, rfl⟩

/-- No record uses more operand slots than its encoding has. -/
theorem opCount_le (h : read line = .ok r) : r.opCount ≤ r.encoding.opSlots := by
  obtain ⟨name, mnemonic, e, ws, as, -, -, hfits, rfl⟩ := exists_attributes h
  unfold ofAttributes Attributes.opCount
  cases e with
  | threeDNow => exact Nat.le_refl _
  | legacy | vex | evex | xop => exact hfits.length_le

end Record

end OpcodeForms
