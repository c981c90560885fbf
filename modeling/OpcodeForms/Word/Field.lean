import OpcodeForms.Word.Bits

/-!
# Fields of a 32-bit word

A field is a range of bits that lies inside the word, by the proofs it carries, so reading and
writing it always makes sense.
-/

namespace OpcodeForms

/-- A nonempty range of bits inside a 32-bit word. -/
structure Field where
  /-- The lowest bit. -/
  start : Nat
  /-- The number of bits. -/
  size : Nat := 1
  /-- A field has at least one bit. -/
  size_pos : 0 < size := by decide
  /-- A field ends inside the word. -/
  stop_le : start + size ≤ 32 := by decide
deriving DecidableEq

namespace Field

/-- The field of `size` bits from `start` on, if it is one. -/
def ofRange? (start size : Nat) : Option Field :=
  if h : 0 < size ∧ start + size ≤ 32 then
    some { start, size, size_pos := h.1, stop_le := h.2 }
  else none

/-- The field that consists of bit `start` alone, if the word has such a bit. -/
def bit? (start : Nat) : Option Field :=
  ofRange? start 1

/-- The first bit after the field. -/
def stop (f : Field) : Nat :=
  f.start + f.size

/-- The largest value that the field can hold. -/
def max (f : Field) : UInt32 :=
  0xffffffff >>> UInt32.ofNat (32 - f.size)

/-- The value of the field in the word `w`. -/
def get (f : Field) (w : UInt32) : UInt32 :=
  Bits.extract w f.start f.size

/-- Whether any bit of the field is set in the word `w`. -/
def isSet (f : Field) (w : UInt32) : Bool :=
  f.get w != 0

/-- The word `w` with the field set to `v`. Bits of `v` that the field has no room for are lost. -/
def set (f : Field) (w v : UInt32) : UInt32 :=
  Bits.deposit w f.start f.size v

/-- The word `w` with the field set to `v`, or `none` if the field cannot hold `v`. -/
def set? (f : Field) (w v : UInt32) : Option UInt32 :=
  if v ≤ f.max then some (f.set w v) else none

/-- Two fields overlap when each starts before the other stops. -/
def Overlaps (f g : Field) : Prop :=
  f.start < g.stop ∧ g.start < f.stop

instance (f g : Field) : Decidable (Overlaps f g) :=
  inferInstanceAs (Decidable (_ ∧ _))

end Field

end OpcodeForms
