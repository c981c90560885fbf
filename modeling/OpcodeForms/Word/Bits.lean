/-!
# Ranges of bits in a 32-bit word

A range is given by its lowest bit and its length. `extract` moves a range down to bit 0 and
`deposit` overwrites it. Both are defined by shifts, and the amounts of the shifts are differences.

`extract?` and `deposit?` take any arguments and check each step: a difference must not be
negative, and the amount of a shift has to be less than 32. They give a result on different ranges.

* `extract?` takes the ranges that lie inside the word.
* `deposit?` also takes a range that starts in the word and reaches beyond bit 31: what would
  be written there is dropped.
-/

namespace OpcodeForms.Bits

/-- The `len` bits of `w` from bit `pos` on, moved down to bit 0. The first shift drops what lies
above the range, the second what lies below it. -/
def extract (w : UInt32) (pos len : Nat) : UInt32 :=
  (w <<< UInt32.ofNat (32 - pos - len)) >>> UInt32.ofNat (32 - len)

/-- The word whose set bits are the `len` bits from bit `pos` on. -/
def mask (pos len : Nat) : UInt32 :=
  (0xffffffff >>> UInt32.ofNat (32 - len)) <<< UInt32.ofNat pos

/-- `w` with the `len` bits from bit `pos` on replaced by the low bits of `v`. -/
def deposit (w : UInt32) (pos len : Nat) (v : UInt32) : UInt32 :=
  (w &&& ~~~ mask pos len) ||| ((v <<< UInt32.ofNat pos) &&& mask pos len)

/-! ## Checked arithmetic -/

/-- The difference of two words, unless it is negative. -/
def sub? (a b : UInt32) : Option UInt32 :=
  if b ≤ a then some (a - b) else none

/-- `w` shifted to the left, by less than the 32 bits that it has. -/
def shiftLeft? (w amount : UInt32) : Option UInt32 :=
  if amount < 32 then some (w <<< amount) else none

/-- `w` shifted to the right, by less than the 32 bits that it has. -/
def shiftRight? (w amount : UInt32) : Option UInt32 :=
  if amount < 32 then some (w >>> amount) else none

/-- `extract` with checked arithmetic. -/
def extract? (w pos len : UInt32) : Option UInt32 := do
  let above ← sub? (← sub? 32 pos) len
  let raised ← shiftLeft? w above
  shiftRight? raised (← sub? 32 len)

/-- `mask` with checked arithmetic. -/
def mask? (pos len : UInt32) : Option UInt32 := do
  let low ← shiftRight? 0xffffffff (← sub? 32 len)
  shiftLeft? low pos

/-- `deposit` with checked arithmetic. -/
def deposit? (w pos len v : UInt32) : Option UInt32 := do
  let m ← mask? pos len
  return (w &&& ~~~ m) ||| ((← shiftLeft? v pos) &&& m)

example : extract? 0xabcd1234 16 16 = some 0xabcd := by decide

/-- The high bits of the value are dropped. -/
example : deposit? 0 0 2 7 = some 3 := by decide

end OpcodeForms.Bits
