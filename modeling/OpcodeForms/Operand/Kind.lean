import OpcodeForms.Enumeration

/-!
# Operand kinds

What an operand of an opcode form is and where it is encoded.
-/

namespace OpcodeForms

/-- The kind of an operand. The suffix says where a register operand is encoded: in ModRM (`Reg`,
or `OrMem` for the part that can also address memory), in the opcode byte, in the `vvvv` bits of
a vector prefix, or in the high bits of an immediate byte (`Is4`). -/
inductive OperandKind where
  | none
  | r8OrMem
  | r16OrMem
  | r32OrMem
  | r64OrMem
  | r8Reg
  | r16Reg
  | r32Reg
  | r64Reg
  | r32Opcode
  | r64Opcode
  | r32Vvvv
  | r64Vvvv
  | imm8
  | imm32
  | mem
  | mmReg
  | mmOrMem
  | xmmReg
  | ymmReg
  | zmmReg
  | xmmVvvv
  | ymmVvvv
  | zmmVvvv
  | xmmOrMem
  | ymmOrMem
  | zmmOrMem
  | xmmIs4
  | ymmIs4
  | memVsib32x
  | memVsib32y
  | memVsib32z
  | memVsib64x
  | memVsib64y
  | memVsib64z
deriving DecidableEq, Repr, Inhabited

namespace OperandKind

instance : Enumeration OperandKind where
  all := [none, r8OrMem, r16OrMem, r32OrMem, r64OrMem, r8Reg, r16Reg, r32Reg, r64Reg,
    r32Opcode, r64Opcode, r32Vvvv, r64Vvvv, imm8, imm32, mem, mmReg, mmOrMem, xmmReg, ymmReg,
    zmmReg, xmmVvvv, ymmVvvv, zmmVvvv, xmmOrMem, ymmOrMem, zmmOrMem, xmmIs4, ymmIs4,
    memVsib32x, memVsib32y, memVsib32z, memVsib64x, memVsib64y, memVsib64z]
  name
    | none => "none"
    | r8OrMem => "r8_or_mem"
    | r16OrMem => "r16_or_mem"
    | r32OrMem => "r32_or_mem"
    | r64OrMem => "r64_or_mem"
    | r8Reg => "r8_reg"
    | r16Reg => "r16_reg"
    | r32Reg => "r32_reg"
    | r64Reg => "r64_reg"
    | r32Opcode => "r32_opcode"
    | r64Opcode => "r64_opcode"
    | r32Vvvv => "r32_vvvv"
    | r64Vvvv => "r64_vvvv"
    | imm8 => "imm8"
    | imm32 => "imm32"
    | mem => "mem"
    | mmReg => "mm_reg"
    | mmOrMem => "mm_or_mem"
    | xmmReg => "xmm_reg"
    | ymmReg => "ymm_reg"
    | zmmReg => "zmm_reg"
    | xmmVvvv => "xmm_vvvv"
    | ymmVvvv => "ymm_vvvv"
    | zmmVvvv => "zmm_vvvv"
    | xmmOrMem => "xmm_or_mem"
    | ymmOrMem => "ymm_or_mem"
    | zmmOrMem => "zmm_or_mem"
    | xmmIs4 => "xmm_is4"
    | ymmIs4 => "ymm_is4"
    | memVsib32x => "mem_vsib32x"
    | memVsib32y => "mem_vsib32y"
    | memVsib32z => "mem_vsib32z"
    | memVsib64x => "mem_vsib64x"
    | memVsib64y => "mem_vsib64y"
    | memVsib64z => "mem_vsib64z"
  mem_all a := by cases a <;> decide
  nodup_names := by decide

/-- Whether the operand is a VSIB memory operand, of 32-bit or 64-bit indices. -/
def isVsib : OperandKind → Bool
  | memVsib32x | memVsib32y | memVsib32z | memVsib64x | memVsib64y | memVsib64z => true
  | _ => false

/-- Whether the operand is encoded in the `reg` or `r/m` field of the ModRM byte. -/
def usesModrm : OperandKind → Bool
  | none | r32Opcode | r64Opcode | r32Vvvv | r64Vvvv | imm8 | imm32
  | xmmVvvv | ymmVvvv | zmmVvvv | xmmIs4 | ymmIs4 => false
  | _ => true

/-- Whether the operand is a vector register or a memory location of its size. -/
def isVectorOrMem : OperandKind → Bool
  | xmmOrMem | ymmOrMem | zmmOrMem => true
  | _ => false

/-- Whether the operand is a register encoded in an immediate byte. -/
def isIs4 : OperandKind → Bool
  | xmmIs4 | ymmIs4 => true
  | _ => false

/-- Whether the operand can be a memory location. -/
def canBeMemory : OperandKind → Bool
  | r8OrMem | r16OrMem | r32OrMem | r64OrMem | mem | mmOrMem | xmmOrMem | ymmOrMem | zmmOrMem =>
    true
  | k => k.isVsib

end OperandKind

end OpcodeForms
