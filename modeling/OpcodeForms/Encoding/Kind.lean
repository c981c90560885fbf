import OpcodeForms.Enumeration

/-!
# Encoding schemes

The five ways in which an x86 instruction is encoded.
-/

namespace OpcodeForms

/-- The scheme by which an opcode form is encoded. -/
inductive Encoding where
  | legacy
  | vex
  | evex
  | xop
  /-- The 3DNow! scheme: `0F 0F`, two fixed operands, and the opcode byte last. -/
  | threeDNow
deriving DecidableEq, Repr

namespace Encoding

instance : Enumeration Encoding where
  all := [legacy, vex, evex, xop, threeDNow]
  name
    | legacy => "legacy"
    | vex => "vex"
    | evex => "evex"
    | xop => "xop"
    | threeDNow => "3dnow"
  mem_all a := by cases a <;> decide
  nodup_names := by decide

/-- The number of operand slots that a record of the encoding gives a meaning to. -/
def opSlots : Encoding → Nat
  | legacy => 4
  | vex => 5
  | evex => 4
  | xop => 4
  | threeDNow => 2

/-- Whether the encoding has a vector prefix, and with it a length and a `W` bit. -/
def isVector : Encoding → Bool
  | vex | evex | xop => true
  | legacy | threeDNow => false

end Encoding

end OpcodeForms
