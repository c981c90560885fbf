import OpcodeForms.Proofs.Numerals
import OpcodeForms.Text.Quoted

/-!
# Literals in generated files

How the language of the generated files reads string literals and numbers. A string literal is
read character by character (`Place.step`) up to its closing quotation mark. The reader knows all
escapes of the language, more than `quoteWith` writes.

Whatever characters are written by their code points, a quoted text is read back, and nothing of
what follows it (`readString_quoteWith`).
-/

namespace OpcodeForms.Text

/-! ## String literals -/

/-- Where a reader is in a string literal. -/
inductive Place where
  | plain
  /-- After a line break that is left out, with the blanks that follow it. -/
  | skipped
  /-- After a backslash. -/
  | escape
  /-- After `\x`, and after its first digit. -/
  | byte (high : Option Nat)
  /-- After `\u`. -/
  | brace
  /-- In the braces of `\u`, after `count` digits with the value `n`. -/
  | code (n count : Nat)
deriving DecidableEq

namespace Place

/-- The escapes of one letter, and what they stand for. -/
def letters : List (Char × Char) :=
  [('n', '\n'), ('r', '\r'), ('t', '\t'), ('0', '\x00'), ('\\', '\\'), ('"', '"'),
    ('\x27', '\x27')]

/-- Reads a character that stands for itself or begins an escape. A carriage return does neither. -/
def stepPlain (c : Char) : Option (Place × List Char) :=
  if c = '\\' then some (escape, [])
  else if c = '\r' then none
  else some (plain, [c])

/-- Reads a character of the literal: the next place, and what has been read. -/
def step : Place → Char → Option (Place × List Char)
  | plain, c => stepPlain c
  | skipped, c => if c ∈ [' ', '\t', '\n', '\r'] then some (skipped, []) else stepPlain c
  | escape, c =>
    if c = 'x' then some (byte none, [])
    else if c = 'u' then some (brace, [])
    else if c = '\n' then some (skipped, [])
    else (letters.lookup c).map fun d => (plain, [d])
  | byte none, c =>
    -- the byte is an ASCII character
    (digitValue? c).bind fun d => if d < 8 then some (byte (some d), []) else none
  | byte (some high), c => (digitValue? c).map fun d => (plain, [Char.ofNat (high * 16 + d)])
  | brace, c => if c = '\x7b' then some (code 0 0, []) else none
  | code n count, c =>
    if c = '\x7d' then
      if 0 < count ∧ n.isValidChar then some (plain, [Char.ofNat n]) else none
    else if c = '_' then
      if 0 < count then some (code n count, []) else none
    else
      (digitValue? c).bind fun d =>
        if count < 6 then some (code (n * 16 + d) (count + 1), []) else none

/-- Whether a quotation mark ends the literal. -/
def canEnd : Place → Bool
  | plain | skipped => true
  | escape | byte _ | brace | code _ _ => false

end Place

/-- Reads the rest of a string literal: what it stands for, and what comes after its end. -/
def readRest (p : Place) : List Char → Option (List Char × List Char)
  | [] => none
  | c :: s =>
    if p.canEnd && c = '"' then some ([], s)
    else
      (p.step c).bind fun next => (readRest next.1 s).map fun r => (next.2 ++ r.1, r.2)

/-- Reads a string literal: what it stands for, and what comes after it. -/
def readString : List Char → Option (List Char × List Char)
  | '"' :: s => readRest .plain s
  | _ => none

variable {special : Char → Bool} {c : Char} {s t : List Char} {p q : Place} {n : Nat}

theorem readRest_cons {out : List Char} (hend : (p.canEnd && c = '"') = false)
    (hstep : p.step c = some (q, out)) (s : List Char) :
    readRest p (c :: s) = (readRest q s).map fun r => (out ++ r.1, r.2) := by
  rw [readRest, hend, hstep]
  rfl

/-- A step that reads nothing only changes the place. -/
theorem readRest_cons_of_nil (hend : (p.canEnd && c = '"') = false)
    (hstep : p.step c = some (q, [])) (s : List Char) : readRest p (c :: s) = readRest q s := by
  rw [readRest_cons hend hstep]
  simp

/-- The digits of a code point are read as their value. -/
theorem readRest_digits {ds : List Nat} {count : Nat} (hds : s.mapM digitValue? = some ds)
    (hcount : count + ds.length ≤ 6) (t : List Char) :
    readRest (.code n count) (s ++ t)
      = readRest (.code (valueOf 16 n ds) (count + ds.length)) t := by
  induction s generalizing ds n count with
  | nil =>
    cases hds
    rfl
  | cons c s ih =>
    rw [List.mapM_cons] at hds
    obtain ⟨d, hd, hds⟩ := Option.bind_eq_some_iff.mp hds
    obtain ⟨ds', hds', hcons⟩ := Option.bind_eq_some_iff.mp hds
    cases hcons
    rw [List.length_cons] at hcount
    have hclose : c ≠ '\x7d' := by
      rintro rfl
      cases hd
    have hscore : c ≠ '_' := by
      rintro rfl
      cases hd
    have hstep : (Place.code n count).step c = some (.code (n * 16 + d) (count + 1), []) := by
      rw [Place.step, if_neg hclose, if_neg hscore, hd, Option.bind_some, if_pos (by omega)]
    rw [List.cons_append, readRest_cons_of_nil rfl hstep, ih hds' (by omega), List.length_cons,
      Nat.add_right_comm, Nat.add_assoc]
    rfl

theorem length_of_mapM_digits {ds : List Nat} (h : s.mapM digitValue? = some ds) :
    ds.length = s.length := by
  induction s generalizing ds with
  | nil =>
    cases h
    rfl
  | cons c s ih =>
    rw [List.mapM_cons] at h
    obtain ⟨d, -, h⟩ := Option.bind_eq_some_iff.mp h
    obtain ⟨ds', hds', hcons⟩ := Option.bind_eq_some_iff.mp h
    cases hcons
    rw [List.length_cons, List.length_cons, ih hds']

/-- The code point of a character has six hexadecimal digits at most. -/
theorem length_toDigits_toNat_le (c : Char) : (Nat.toDigits 16 c.toNat).length ≤ 6 := by
  rw [Nat.length_toDigits_le_iff (by decide) (by decide)]
  have hvalid := c.valid
  have hlt : c.toNat < 0x110000 := by
    rcases hvalid with h | ⟨-, h⟩
    · exact Nat.lt_trans h (by decide)
    · exact h
  omega

theorem hexLower_one (n : Nat) : hexLower 1 n = Nat.toDigits 16 n := by
  have hpos : 0 < (Nat.toDigits 16 n).length := Nat.length_toDigits_pos
  rw [hexLower, padLeft, Nat.sub_eq_zero_of_le hpos]
  rfl

theorem readRest_escapeCodePoint (c : Char) (s : List Char) :
    readRest .plain (escapeCodePoint c ++ s)
      = (readRest .plain s).map fun r => (c :: r.1, r.2) := by
  obtain ⟨ds, hds, hvalue⟩ := exists_digits c.toNat
  have hlength : ds.length ≤ 6 := length_of_mapM_digits hds ▸ length_toDigits_toNat_le c
  have hpos : 0 < ds.length := length_of_mapM_digits hds ▸ Nat.length_toDigits_pos
  have hclose : (Place.code c.toNat ds.length).step '\x7d' = some (.plain, [c]) := by
    rw [Place.step, if_pos rfl, if_pos ⟨hpos, c.valid⟩, Char.ofNat_toNat]
  have hopen : escapeCodePoint c ++ s
      = '\\' :: 'u' :: '\x7b' :: (Nat.toDigits 16 c.toNat ++ '\x7d' :: s) := by
    simp [escapeCodePoint, hexLower_one]
  rw [hopen, readRest_cons_of_nil rfl rfl, readRest_cons_of_nil rfl rfl,
    readRest_cons_of_nil rfl rfl, readRest_digits hds (by omega), hvalue, Nat.zero_add,
    readRest_cons rfl hclose]
  rfl

/-- **A character of a literal is read back.** -/
theorem readRest_quoteChar (special : Char → Bool) (c : Char) (s : List Char) :
    readRest .plain (quoteChar special c ++ s)
      = (readRest .plain s).map fun r => (c :: r.1, r.2) := by
  -- an escape of one letter is a step to the backslash and one back
  have hletter : ∀ {a : Char}, (Place.escape.step a = some (.plain, [c])) →
      readRest .plain (['\\', a] ++ s) = (readRest .plain s).map fun r => (c :: r.1, r.2) := by
    intro a ha
    rw [List.cons_append, List.cons_append, List.nil_append, readRest_cons_of_nil rfl rfl,
      readRest_cons rfl ha]
    rfl
  unfold quoteChar
  split
  · next h => exact hletter (by rw [h]; rfl)
  split
  · next h => exact hletter (by rw [h]; rfl)
  split
  · next h => exact hletter (by rw [h]; rfl)
  split
  · next h => exact hletter (by rw [h]; rfl)
  split
  · next h => exact hletter (by rw [h]; rfl)
  split
  · next h => exact hletter (by rw [h]; rfl)
  split
  · exact readRest_escapeCodePoint c s
  · next hquote hslash _ _ hreturn _ _ =>
    have hstep : Place.plain.step c = some (.plain, [c]) := by
      rw [Place.step, Place.stepPlain, if_neg hslash, if_neg hreturn]
    rw [List.singleton_append, readRest_cons (by simp [hquote]) hstep]
    rfl

/-- **A quoted text is read back, whatever characters are special.** -/
theorem readString_quoteWith (special : Char → Bool) (s t : List Char) :
    readString (quoteWith special s ++ t) = some (s, t) := by
  have hrest : readRest .plain (s.flatMap (quoteChar special) ++ '"' :: t) = some (s, t) := by
    induction s with
    | nil => rfl
    | cons c s ih =>
      rw [List.flatMap_cons, List.append_assoc, readRest_quoteChar, ih]
      rfl
  have hopen : quoteWith special s ++ t = '"' :: (s.flatMap (quoteChar special) ++ '"' :: t) := by
    simp [quoteWith]
  rw [hopen]
  exact hrest

/-- A literal stands on one line: line breaks have escapes of their own. -/
theorem not_mem_quoteWith (special : Char → Bool) {a : Char} (ha : a = '\n' ∨ a = '\r')
    (s : List Char) : a ∉ quoteWith special s := by
  have hcode : ∀ c, a ∉ escapeCodePoint c := by
    intro c h
    rw [escapeCodePoint, hexLower_one, List.mem_append, List.mem_append] at h
    rcases h with (h | h) | h
    · rcases ha with rfl | rfl <;> exact absurd h (by decide)
    · obtain ⟨d, hd⟩ := digitValue?_of_mem_toDigits h
      rcases ha with rfl | rfl <;> cases hd
    · rcases ha with rfl | rfl <;> exact absurd h (by decide)
  have hchar : ∀ c, a ∉ quoteChar special c := by
    intro c
    by_cases hac : a = c
    · rcases ha with rfl | rfl <;> subst hac <;> exact of_decide_eq_true rfl
    · have hself : a ∉ [c] := by
        simpa using hac
      unfold quoteChar
      repeat' split
      all_goals first
        | exact hcode c
        | exact hself
        | rcases ha with rfl | rfl <;> decide
  have hmark : a ≠ '"' := by
    rcases ha with rfl | rfl <;> decide
  simp [quoteWith, hchar, hmark]

/-! ## Numbers -/

/-- Reads a decimal number. -/
def decimalLiteral? (s : List Char) : Option Nat :=
  if s ≠ [] ∧ s.all Char.isDigit = true then some (Nat.ofDigitChars 10 s 0) else none

/-- Reads a hexadecimal number of 32 bits. -/
def hexLiteral? : List Char → Option UInt32
  | '0' :: 'x' :: s =>
    if s = [] then none
    else
      (s.mapM digitValue?).bind fun ds =>
        if valueOf 16 0 ds < 2 ^ 32 then some (UInt32.ofNat (valueOf 16 0 ds)) else none
  | _ => none

theorem isDigit_of_mem_decimal (h : c ∈ decimal n) : c.isDigit = true :=
  Nat.isDigit_of_mem_toDigits (by decide) (by decide) h

theorem not_mem_decimal (hc : c.isDigit = false) : c ∉ decimal n := by
  intro h
  rw [isDigit_of_mem_decimal h] at hc
  cases hc

theorem decimalLiteral?_decimal (n : Nat) : decimalLiteral? (decimal n) = some n := by
  have hdigits : (decimal n).all Char.isDigit = true :=
    List.all_eq_true.mpr fun c hc => isDigit_of_mem_decimal hc
  rw [decimalLiteral?, if_pos ⟨Nat.toDigits_ne_nil, hdigits⟩, decimal,
    Nat.ofDigitChars_toDigits (by decide) (by decide)]

theorem decimal_inj : decimal m = decimal n ↔ m = n := by
  constructor
  · intro h
    have hread := congrArg decimalLiteral? h
    rw [decimalLiteral?_decimal, decimalLiteral?_decimal] at hread
    exact Option.some.inj hread
  · exact congrArg decimal

theorem digitValue?_of_mem_hexLower {width : Nat} (h : c ∈ hexLower width n) :
    ∃ d, digitValue? c = some d := by
  rcases List.mem_append.mp h with h | h
  · rw [List.eq_of_mem_replicate h]
    exact ⟨0, rfl⟩
  · exact digitValue?_of_mem_toDigits h

theorem mapM_replicate_zero (k : Nat) :
    (List.replicate k '0').mapM digitValue? = some (List.replicate k 0) := by
  induction k with
  | zero => rfl
  | succ k ih =>
    rw [List.replicate_succ, List.mapM_cons, ih]
    rfl

theorem valueOf_replicate_zero (base k : Nat) (ds : List Nat) :
    valueOf base 0 (List.replicate k 0 ++ ds) = valueOf base 0 ds := by
  induction k with
  | zero => rfl
  | succ k ih =>
    rw [List.replicate_succ, List.cons_append, valueOf, List.foldl_cons, Nat.zero_mul]
    exact ih

/-- Zeros in front do not change the number that is read. -/
theorem hexLiteral?_hexLower (width : Nat) (w : UInt32) :
    hexLiteral? ('0' :: 'x' :: hexLower width w.toNat) = some w := by
  obtain ⟨ds, hds, hvalue⟩ := exists_digits w.toNat
  have hne : hexLower width w.toNat ≠ [] := by
    simp [hexLower, padLeft, Nat.toDigits_ne_nil]
  have hall : (hexLower width w.toNat).mapM digitValue?
      = some (List.replicate (width - (Nat.toDigits 16 w.toNat).length) 0 ++ ds) := by
    rw [hexLower, padLeft, List.mapM_append, mapM_replicate_zero, hds]
    rfl
  rw [hexLiteral?, if_neg hne, hall, Option.bind_some, valueOf_replicate_zero, hvalue,
    if_pos w.toNat_lt, UInt32.ofNat_toNat]

end OpcodeForms.Text
