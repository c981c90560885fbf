/-!
# Sets of flags in one word

A set of at most 32 boolean properties, stored as the bits of a word. Operations take masks, so
several properties can be added, assigned or asked for at once.
-/

namespace OpcodeForms

/-- A set of flags. -/
structure Flags where
  /-- The word whose set bits are the members. -/
  bits : UInt32 := 0
deriving DecidableEq

namespace Flags

/-- The empty set. -/
def empty : Flags := {}

/-- Adds every flag of the mask. -/
def insert (f : Flags) (mask : UInt32) : Flags :=
  ⟨f.bits ||| mask⟩

/-- Removes every flag of the mask. -/
def erase (f : Flags) (mask : UInt32) : Flags :=
  ⟨f.bits &&& ~~~ mask⟩

/-- Adds every flag of the mask if `on` holds, and removes them all otherwise. -/
def assign (f : Flags) (mask : UInt32) (on : Bool) : Flags :=
  if on then f.insert mask else f.erase mask

/-- Whether the set has a flag of the mask. -/
def any (f : Flags) (mask : UInt32) : Bool :=
  f.bits &&& mask != 0

/-- The mask of the single flag with index `i`. -/
def single (i : Nat) : UInt32 :=
  1 <<< UInt32.ofNat i

/-- The indices of the members, ascending. -/
def indices (f : Flags) : List Nat :=
  (List.range 32).filter fun i => f.any (single i)

end Flags

end OpcodeForms
