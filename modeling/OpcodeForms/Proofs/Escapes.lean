import Mathlib.Data.List.Forall2
import OpcodeForms.Proofs.Grammar
import OpcodeForms.Proofs.LineEnds
import OpcodeForms.Proofs.Literals

/-!
# Escape sequences

A terminal does not show escape sequences. A text with such sequences put in (`Escaped`) looks like
the text without them, and if there are none in that to begin with, removing them gives it back
(`Escaped.strip_eq`).
-/

namespace OpcodeForms.Text

variable {c : Char} {s s' t t' : List Char} {ss ts : List (List Char)} {n : Nat}

/-! ## Putting in -/

/-- The escape sequence with the number `n`. -/
def escape (n : Nat) : List Char :=
  "\x1b[".toList ++ decimal n ++ ['m']

/-- The text `s` is `t` with escape sequences put in. -/
inductive Escaped : List Char → List Char → Prop
  | nil : Escaped [] []
  | cons (c : Char) {s t : List Char} (h : Escaped s t) : Escaped (c :: s) (c :: t)
  | escape (n : Nat) {s t : List Char} (h : Escaped s t) : Escaped (escape n ++ s) t

namespace Escaped

@[refl]
theorem refl : ∀ s : List Char, Escaped s s
  | [] => .nil
  | c :: s => .cons c (refl s)

theorem append (h : Escaped s t) (h' : Escaped s' t') : Escaped (s ++ s') (t ++ t') := by
  induction h with
  | nil => exact h'
  | cons c _ ih => exact .cons c ih
  | escape n _ ih =>
    rw [List.append_assoc]
    exact .escape n ih

/-- Sequences before and after a text. -/
theorem surround (m n : Nat) (s : List Char) : Escaped (Text.escape m ++ s ++ Text.escape n) s := by
  have hafter : Escaped (s ++ Text.escape n) s := by
    simpa using (refl s).append (.escape n .nil)
  rw [List.append_assoc]
  exact .escape m hafter

theorem unlines (h : List.Forall₂ Escaped ss ts) : Escaped (unlines ss) (unlines ts) := by
  induction h with
  | nil => exact .nil
  | cons hline _ ih => exact (hline.append (.refl ['\n'])).append ih

/-- What comes in are characters of escape sequences. -/
theorem mem_of_mem (h : Escaped s t) (hc : c ∈ s) (hescape : ∀ n, c ∉ Text.escape n) : c ∈ t := by
  induction h with
  | nil => exact hc
  | cons d _ ih => exact List.mem_cons.mpr ((List.mem_cons.mp hc).imp_right ih)
  | escape n _ ih => exact ih ((List.mem_append.mp hc).resolve_left (hescape n))

end Escaped

theorem not_mem_escape (hdigit : c.isDigit = false) (hc : c ∉ "\x1b[m".toList) (n : Nat) :
    c ∉ escape n := by
  have hdecimal : c ∉ decimal n := fun h => by
    rw [isDigit_of_mem_decimal h] at hdigit
    cases hdigit
  simp only [List.mem_cons, not_or, String.reduceToList] at hc
  simp [escape, hdecimal, hc]

namespace Escaped

/-- Escape sequences have no line ends in them. -/
theorem isUnbroken (h : Escaped s t) (ht : IsUnbroken t) : IsUnbroken s :=
  ⟨fun hc => ht.1 (h.mem_of_mem hc (not_mem_escape rfl (by decide))),
    fun hc => ht.2 (h.mem_of_mem hc (not_mem_escape rfl (by decide)))⟩

theorem forall_isUnbroken (h : List.Forall₂ Escaped ss ts) (hts : ∀ t ∈ ts, IsUnbroken t) :
    ∀ s ∈ ss, IsUnbroken s := by
  induction h with
  | nil => exact List.forall_mem_nil _
  | cons hline _ ih =>
    obtain ⟨ht, hts⟩ := List.forall_mem_cons.mp hts
    exact List.forall_mem_cons.mpr ⟨hline.isUnbroken ht, ih hts⟩

end Escaped

/-! ## Removing -/

/-- The rest of a text without its escape sequences, from inside or outside of one. An escape
sequence begins with an escape character and goes to the next letter. -/
def stripFrom : Bool → List Char → List Char
  | _, [] => []
  | true, c :: s => stripFrom (!c.isAlpha) s
  | false, c :: s => if c = '\x1b' then stripFrom true s else c :: stripFrom false s

/-- The text without its escape sequences. -/
def strip (s : List Char) : List Char :=
  stripFrom false s

theorem stripFrom_true_append (h : ∀ c ∈ s, c.isAlpha = false) (t : List Char) :
    stripFrom true (s ++ t) = stripFrom true t := by
  induction s with
  | nil => rfl
  | cons c s ih =>
    obtain ⟨hc, hs⟩ := List.forall_mem_cons.mp h
    rw [List.cons_append, stripFrom, hc]
    exact ih hs

theorem not_isAlpha_of_isDigit (h : c.isDigit = true) : c.isAlpha = false := by
  have hle : c ≤ '9' := of_decide_eq_true (Bool.and_eq_true_iff.mp h).2
  rw [Bool.eq_false_iff, Ne, Record.isAlpha_iff]
  rintro (⟨hletter, -⟩ | ⟨hletter, -⟩)
  · exact absurd (Char.le_trans hletter hle) (by decide)
  · exact absurd (Char.le_trans hletter hle) (by decide)

theorem strip_escape_append (n : Nat) (s : List Char) : strip (escape n ++ s) = strip s := by
  -- no letter comes before the final one, so that the sequence does not end early
  have hinner : ∀ c ∈ '[' :: decimal n, c.isAlpha = false :=
    List.forall_mem_cons.mpr ⟨rfl, fun c hc => not_isAlpha_of_isDigit (isDigit_of_mem_decimal hc)⟩
  calc strip (escape n ++ s)
      = stripFrom true ('[' :: decimal n ++ 'm' :: s) := by simp [strip, escape, stripFrom]
    _ = strip s := by rw [stripFrom_true_append hinner]; rfl

/-- **Removing the escape sequences undoes putting them in**, unless there are some already. -/
theorem Escaped.strip_eq (h : Escaped s t) (ht : '\x1b' ∉ t) : strip s = t := by
  induction h with
  | nil => rfl
  | cons c _ ih =>
    obtain ⟨hc, ht⟩ := List.ne_and_not_mem_of_not_mem_cons ht
    have hrest := ih ht
    unfold strip at hrest ⊢
    rw [stripFrom, if_neg hc.symm, hrest]
  | escape n _ ih => rw [strip_escape_append, ih ht]

end OpcodeForms.Text
