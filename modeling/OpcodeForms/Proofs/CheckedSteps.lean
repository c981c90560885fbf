import OpcodeForms.Proofs.Fields

/-!
# Computations of checked steps

Some steps of the program make sense for some arguments only: differences, shifts, lookups and
assertions. In a `Checked` computation each of them has its condition written out. Where a condition
does not hold, there is no result at all, neither a value nor an error.

Reading a field of a word is made of such steps, and so is writing to it. A field lies in the word,
so reading is always defined (`Field.get?_eq`), and writing is if the value fits
(`Field.write?_eq`).
-/

namespace OpcodeForms

/-- A computation of steps that may be undefined, with checks that may fail. -/
abbrev Checked (ε α : Type) : Type :=
  ExceptT ε Option α

namespace Checked

variable {ε α β : Type}

/-- A computation whose steps are all defined. -/
def defined (x : Except ε α) : Checked ε α :=
  ExceptT.mk (some x)

theorem defined_bind (x : Except ε α) (f : α → Except ε β) :
    (defined x >>= fun a => defined (f a)) = defined (x >>= f) := by
  cases x <;> rfl

theorem lift_some (a : α) : (liftM (some a) : Checked ε α) = pure a := rfl

theorem pure_eq_defined (a : α) : (pure a : Checked ε α) = defined (.ok a) := rfl

theorem mapM_eq_defined {f : α → Checked ε β} {g : α → β} (h : ∀ a, f a = defined (.ok (g a))) :
    ∀ l : List α, l.mapM f = defined (.ok (l.map g))
  | [] => rfl
  | a :: l => by
    rw [List.mapM_cons, h a, mapM_eq_defined h l]
    rfl

/-- What comes of two computations one after the other comes of the second one. -/
theorem exists_of_bind_eq_ok {x : Checked ε α} {f : α → Checked ε β} {y : β}
    (h : x >>= f = defined (.ok y)) : ∃ a, x = defined (.ok a) ∧ f a = defined (.ok y) := by
  match x, h with
  | some (.ok a), h => exact ⟨a, rfl, h⟩
  | some (.error _), h => cases h
  | none, h => cases h

end Checked

namespace Field

variable {f : Field} {w v : UInt32}

/-- Reads a field. The shifts are undefined unless the range lies in the word. -/
def get? (f : Field) (w : UInt32) : Option UInt32 :=
  Bits.extract? w (UInt32.ofNat f.start) (UInt32.ofNat f.size)

/-- Writes a value into a field. The value has to fit, and the shifts are undefined unless the
field lies in the word. -/
def write? (f : Field) (w v : UInt32) : Option UInt32 :=
  if v ≤ f.max then Bits.deposit? w (UInt32.ofNat f.start) (UInt32.ofNat f.size) v else none

/-- **Reading a field is defined.** -/
theorem get?_eq (f : Field) (w : UInt32) : f.get? w = some (f.get w) := by
  have hstart := f.start_lt
  have hsize := f.size_le
  have hpos := f.size_pos
  have hstop := f.stop_le
  rw [get?, Bits.extract?_eq, Bits.toNat_ofNat_of_lt (by omega),
    Bits.toNat_ofNat_of_lt (by omega), if_pos ⟨hpos, hstop⟩]
  rfl

/-- **A value that fits is written.** -/
theorem write?_eq (h : v ≤ f.max) : f.write? w v = some (f.set w v) := by
  have hstart := f.start_lt
  have hsize := f.size_le
  have hpos := f.size_pos
  rw [write?, if_pos h, Bits.deposit?_eq, Bits.toNat_ofNat_of_lt (by omega),
    Bits.toNat_ofNat_of_lt (by omega), if_pos ⟨hpos, hsize, by omega⟩]
  rfl

end Field

end OpcodeForms
