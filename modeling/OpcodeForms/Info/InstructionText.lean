import OpcodeForms.Info.OpcodeText

/-!
# Instruction strings

An instruction with its operands in the notation of instruction manuals, such as
`VPGATHERDD zmm1 {k1}, vm32z`. Vector registers are numbered from 1 on in the order of the
operands, over all their classes. EVEX forms show at their operands what the encoding allows:
masking at the first one, broadcast at the last one that can be memory, rounding at the last.
-/

namespace OpcodeForms

/-- How an operand is written. -/
inductive OperandText where
  /-- Always in the same way. -/
  | fixed (text : String)
  /-- As a numbered register of a class, followed by what stands for memory. -/
  | numbered (cls : String) (memory : String)

/-- How an operand of the kind is written. -/
def OperandKind.shape : OperandKind → OperandText
  | .none => .fixed ""
  | .r8OrMem => .fixed "r/m8"
  | .r16OrMem => .fixed "r/m16"
  | .r32OrMem => .fixed "r/m32"
  | .r64OrMem => .fixed "r/m64"
  | .r8Reg => .fixed "r8"
  | .r16Reg => .fixed "r16"
  | .r32Reg | .r32Opcode | .r32Vvvv => .fixed "r32"
  | .r64Reg | .r64Opcode | .r64Vvvv => .fixed "r64"
  | .imm8 => .fixed "imm8"
  | .imm32 => .fixed "imm32"
  | .mem => .fixed "m"
  | .mmReg => .numbered "mm" ""
  | .mmOrMem => .numbered "mm" "/m64"
  | .xmmReg | .xmmVvvv | .xmmIs4 => .numbered "xmm" ""
  | .ymmReg | .ymmVvvv | .ymmIs4 => .numbered "ymm" ""
  | .zmmReg | .zmmVvvv => .numbered "zmm" ""
  | .xmmOrMem => .numbered "xmm" "/m128"
  | .ymmOrMem => .numbered "ymm" "/m256"
  | .zmmOrMem => .numbered "zmm" "/m512"
  | .memVsib32x => .fixed "vm32x"
  | .memVsib32y => .fixed "vm32y"
  | .memVsib32z => .fixed "vm32z"
  | .memVsib64x => .fixed "vm64x"
  | .memVsib64y => .fixed "vm64y"
  | .memVsib64z => .fixed "vm64z"

namespace Info

/-- The texts of the operands, after `n` numbered registers. -/
def operandTexts (n : Nat) : List OperandKind → List (List Char)
  | [] => []
  | k :: ks =>
    match k.shape with
    | .fixed s => s.toList :: operandTexts n ks
    | .numbered cls memory =>
      (cls.toList ++ Text.decimal (n + 1) ++ memory.toList) :: operandTexts (n + 1) ks

/-- The index of the last operand that is a vector register or memory. -/
def lastVectorOrMem? (info : Info) : Option Nat :=
  (info.operands.zipIdx.filter (·.1.isVectorOrMem)).getLast?.map (·.2)

/-- The memory operand of a broadcast, whose size depends on `W`. -/
def broadcastText (info : Info) : List Char :=
  "/m".toList ++ Text.decimal (32 <<< info.w) ++ "bcst".toList

/-- What the last operand shows of rounding. Rounding control includes the suppression of
exceptions. -/
def roundingText (info : Info) : List Char :=
  if info.has .roundingControl then "\x7ber\x7d".toList
  else if info.has .suppressAllExceptions then "\x7bsae\x7d".toList
  else []

/-- What the first operand shows of masking. -/
def maskingText (info : Info) : List Char :=
  (if info.has .opMaskRegister then " \x7bk1\x7d".toList else [])
    ++ if info.has .zeroingMasking then "\x7bz\x7d".toList else []

/-- What an EVEX form shows at the operand with index `i`. -/
def decoration (info : Info) (i : Nat) : List Char :=
  (if i = 0 then info.maskingText else [])
    ++ (if info.has .broadcast && info.lastVectorOrMem? = some i then info.broadcastText else [])
    ++ if i + 1 = info.operands.length then info.roundingText else []

/-- The texts of all operands, decorated where the form is an EVEX form. -/
def decoratedTexts (info : Info) : List (List Char) :=
  (operandTexts 0 info.operands).mapIdx fun i t =>
    if info.encoding = .evex then t ++ info.decoration i else t

/-- The instruction string of a form. -/
def instructionText (info : Info) : List Char :=
  if info.isInstruction then
    let mnemonic := Text.upper info.form.mnemonic
    match info.decoratedTexts with
    | [] => mnemonic
    | ts => mnemonic ++ ' ' :: ", ".toList.intercalate ts
  else info.pseudoText

end Info

end OpcodeForms
