import OpcodeForms.Info.Basic
import OpcodeForms.Text.Numeral

/-!
# Opcode strings

The opcode of a form in the notation of instruction manuals, such as
`EVEX.512.66.0F38.W0 90 /vsib`: words separated by single spaces. A form that is not an
instruction has no opcode and shows its mnemonic in angle brackets.
-/

namespace OpcodeForms.Info

/-- The mnemonic in angle brackets, which stands for forms that are not instructions. -/
def pseudoText (info : Info) : List Char :=
  '<' :: info.form.mnemonic ++ ['>']

/-- The words of a list of which a condition holds. -/
def pick (ws : List (Bool × String)) : List (List Char) :=
  (ws.filter (·.1)).map (·.2.toList)

/-- The bytes of the opcode, the first only if it is not zero. -/
def opcodeBytes (info : Info) : List (List Char) :=
  if 0xff < info.opcode then [hexByte (info.opcode / 256), hexByte (info.opcode % 256)]
  else [hexByte (info.opcode % 256)]
where
  /-- The two digits of a byte. -/
  hexByte (n : Nat) : List Char := Text.hexUpper 2 n

/-- Whether some operand is encoded in the ModRM byte. -/
def usesModrm (info : Info) : Bool :=
  info.operands.any (·.usesModrm)

/-- The group of the opcode, written `/0` to `/7`. -/
def groupWord (g : Nat) : List Char :=
  '/' :: Text.decimal g

/-! ## Legacy forms -/

/-- The mandatory prefix in front of a legacy opcode. -/
def prefixWord : MandatoryPrefix → List (List Char)
  | .none => []
  | p => [Enumeration.text p]

/-- The operand size in front of a legacy opcode. -/
def operandSizeWord : Width → List (List Char)
  | .none => []
  | .w16 => ["o16".toList]
  | .w32 => ["o32".toList]
  | .w64 => ["REX.W".toList]

/-- The address size in front of a legacy opcode. -/
def addressSizeWord : Width → List (List Char)
  | .none => []
  | .w16 => ["a16".toList]
  | .w32 => ["a32".toList]
  | .w64 => ["a64".toList]

/-- The escape bytes of a legacy opcode map. -/
def escapeWord : OpcodeMap → List (List Char)
  | .map0F => ["0F".toList]
  | .map0F38 => ["0F 38".toList]
  | .map0F3A => ["0F 3A".toList]
  | .normal | .xop8 | .xop9 | .xopA => []

/-- The suffix of the last opcode byte if a register is encoded in it. -/
def opcodeRegister (info : Info) : List Char :=
  if info.operands.contains .r32Opcode then "+rd".toList
  else if info.operands.contains .r64Opcode then "+ro".toList
  else []

/-- The words for the immediate bytes that an operand takes. -/
def immediateWord : OperandKind → Option (List Char)
  | .imm8 => some "ib".toList
  | .imm32 => some "id".toList
  | _ => none

/-- The words for the immediates of a legacy opcode. -/
def immediateWords (info : Info) : List (List Char) :=
  info.operands.filterMap immediateWord

/-- The words of a legacy opcode up to its last byte. -/
def legacyFront (info : Info) : List (List Char) :=
  pick [(info.has .fwait, "9B")]
    ++ prefixWord info.mandatoryPrefix
    ++ operandSizeWord info.operandSize
    ++ addressSizeWord info.addressSize
    ++ escapeWord info.table
    ++ (opcodeBytes info).dropLast
    ++ [((opcodeBytes info).getLast?.getD []) ++ opcodeRegister info]

/-- The words of a legacy opcode after its last byte. -/
def legacyBack (info : Info) : List (List Char) :=
  (match info.group with
    | some g => [groupWord g]
    | none => pick [(info.usesModrm, "/r")])
    ++ info.immediateWords

/-- The words of a legacy opcode. -/
def legacyWords (info : Info) : List (List Char) :=
  info.legacyFront ++ info.legacyBack

/-! ## Vector forms -/

/-- The name of the vector prefix. -/
def vectorName : Encoding → String
  | .vex => "VEX"
  | .evex => "EVEX"
  | .legacy | .xop | .threeDNow => "XOP"

/-- The vector length in bits. -/
def lengthInBits (info : Info) : List Char :=
  Text.decimal (128 <<< info.length)

/-- The vector length as a vector opcode shows it. -/
def lengthPart (info : Info) : List Char :=
  if info.encoding = .evex then
    if info.has .lig then "LIG".toList else info.lengthInBits
  else
    match info.lengthKind with
    | .none => "LIG".toList
    | .lz => "LZ".toList
    | .l0 => 'L' :: Text.decimal info.length
    | .l128 => info.lengthInBits

/-- The mandatory prefix as a vector opcode shows it: only where there is a byte. -/
def vectorPrefixPart : MandatoryPrefix → List (List Char)
  | .none | .np => []
  | p => [Enumeration.text p]

/-- The opcode map as a vector opcode shows it. -/
def mapPart : OpcodeMap → String
  | .map0F => "0F"
  | .map0F38 => "0F38"
  | .map0F3A => "0F3A"
  | .xop8 => "X8"
  | .xop9 => "X9"
  | .xopA => "XA"
  | .normal => ""

/-- The `W` bit as a vector opcode shows it. Where the bit is ignored outside of 64-bit mode
only, the value used there is shown. -/
def wPart (info : Info) : List Char :=
  if info.has .wig then "WIG".toList else 'W' :: Text.decimal info.w

/-- The parts of the first word of a vector opcode, which points separate. -/
def vectorParts (info : Info) : List (List Char) :=
  [(vectorName info.encoding).toList, info.lengthPart]
    ++ vectorPrefixPart info.mandatoryPrefix
    ++ [(mapPart info.table).toList, info.wPart]

/-- Whether the form is an EVEX form with a VSIB operand. -/
def usesVsib (info : Info) : Bool :=
  info.encoding = .evex && info.operands.any (·.isVsib)

/-- The words of a vector opcode. -/
def vectorWords (info : Info) : List (List Char) :=
  [['.'].intercalate info.vectorParts]
    ++ opcodeBytes info
    ++ (match info.group with
      | some g => [groupWord g]
      | none => [])
    ++ pick [(info.usesVsib, "/vsib"),
      (!info.usesVsib && !info.isGroup && info.usesModrm, "/r"),
      (info.operands.any (·.isIs4), "/is4"),
      (info.operands.contains .imm8, "ib")]

/-! ## All forms -/

/-- The words of a 3DNow! opcode, whose own byte comes last. -/
def threeDNowWords (info : Info) : List (List Char) :=
  ["0F".toList, "0F".toList, "/r".toList, Text.hexUpper 2 info.opcode]

/-- The words of the opcode of an instruction. -/
def opcodeWords (info : Info) : List (List Char) :=
  match info.encoding with
  | .legacy => info.legacyWords
  | .vex | .evex | .xop => info.vectorWords
  | .threeDNow => info.threeDNowWords

/-- The opcode string of a form. -/
def opcodeText (info : Info) : List Char :=
  if info.isInstruction then [' '].intercalate info.opcodeWords else info.pseudoText

end OpcodeForms.Info
