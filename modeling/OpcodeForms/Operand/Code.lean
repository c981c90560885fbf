import OpcodeForms.Encoding.Kind
import OpcodeForms.Operand.Kind

/-!
# Operand codes

A packed record stores each operand as an index into a list that belongs to the record's
encoding. Table lines name the entries in the notation of opcode maps: `E` is ModRM `r/m`, `G`
is ModRM `reg`, `H` is `vvvv`, `V` and `W` are the vector `reg` and `r/m`, `Z` is the register in
the opcode byte. Index 0 stands for an unused slot in every list.
-/

namespace OpcodeForms

/-- A way to write an operand in a table line, and the kind it stands for. -/
structure OperandCode where
  /-- The name in table lines. -/
  name : String
  /-- The operand kind. -/
  kind : OperandKind
deriving DecidableEq

namespace OperandCode

/-- The operand codes of an encoding, in the order of their indices. The operands of 3DNow! are
fixed, so it has no codes. -/
def all : Encoding → List OperandCode
  | .legacy =>
    [⟨"none", .none⟩, ⟨"Eb", .r8OrMem⟩, ⟨"Ew", .r16OrMem⟩, ⟨"Ed", .r32OrMem⟩,
      ⟨"Eq", .r64OrMem⟩, ⟨"Gb", .r8Reg⟩, ⟨"Gw", .r16Reg⟩, ⟨"Gd", .r32Reg⟩,
      ⟨"Gq", .r64Reg⟩, ⟨"Zd", .r32Opcode⟩, ⟨"Zq", .r64Opcode⟩, ⟨"Ib", .imm8⟩,
      ⟨"Id", .imm32⟩, ⟨"VX", .xmmReg⟩, ⟨"WX", .xmmOrMem⟩, ⟨"M", .mem⟩]
  | .vex =>
    [⟨"none", .none⟩, ⟨"Ed", .r32OrMem⟩, ⟨"Eq", .r64OrMem⟩, ⟨"Gd", .r32Reg⟩,
      ⟨"Gq", .r64Reg⟩, ⟨"Hd", .r32Vvvv⟩, ⟨"HX", .xmmVvvv⟩, ⟨"HY", .ymmVvvv⟩,
      ⟨"Ib", .imm8⟩, ⟨"Is4X", .xmmIs4⟩, ⟨"Is4Y", .ymmIs4⟩, ⟨"M", .mem⟩,
      ⟨"VX", .xmmReg⟩, ⟨"VY", .ymmReg⟩, ⟨"WX", .xmmOrMem⟩, ⟨"WY", .ymmOrMem⟩]
  | .evex =>
    [⟨"none", .none⟩, ⟨"VX", .xmmReg⟩, ⟨"VY", .ymmReg⟩, ⟨"VZ", .zmmReg⟩,
      ⟨"HX", .xmmVvvv⟩, ⟨"HY", .ymmVvvv⟩, ⟨"HZ", .zmmVvvv⟩, ⟨"WX", .xmmOrMem⟩,
      ⟨"WY", .ymmOrMem⟩, ⟨"WZ", .zmmOrMem⟩, ⟨"VM32X", .memVsib32x⟩, ⟨"VM32Y", .memVsib32y⟩,
      ⟨"VM32Z", .memVsib32z⟩, ⟨"VM64X", .memVsib64x⟩, ⟨"VM64Y", .memVsib64y⟩,
      ⟨"VM64Z", .memVsib64z⟩]
  | .xop =>
    [⟨"none", .none⟩, ⟨"Ed", .r32OrMem⟩, ⟨"Eq", .r64OrMem⟩, ⟨"Gd", .r32Reg⟩,
      ⟨"Gq", .r64Reg⟩, ⟨"Hd", .r32Vvvv⟩, ⟨"Hq", .r64Vvvv⟩, ⟨"HX", .xmmVvvv⟩,
      ⟨"HY", .ymmVvvv⟩, ⟨"Ib", .imm8⟩, ⟨"Is4X", .xmmIs4⟩, ⟨"Is4Y", .ymmIs4⟩,
      ⟨"VX", .xmmReg⟩, ⟨"VY", .ymmReg⟩, ⟨"WX", .xmmOrMem⟩, ⟨"WY", .ymmOrMem⟩]
  | .threeDNow => []

/-- The index of the operand code called `s`. -/
def indexOf? (e : Encoding) (s : List Char) : Option Nat :=
  (all e).findIdx? fun c => c.name.toList == s

/-- The operand kind at index `i`. -/
def kind? (e : Encoding) (i : Nat) : Option OperandKind :=
  (all e)[i]?.map kind

/-- The operands of every 3DNow! instruction. -/
def fixedOperands : List OperandKind :=
  [.mmReg, .mmOrMem]

end OperandCode

end OpcodeForms
