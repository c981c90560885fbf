import OpcodeForms.Info.Basic
import OpcodeForms.Proofs.Numerals
import OpcodeForms.Proofs.Settings

/-!
# What a table line denotes

The meaning of the words of a table line, said without packed records: for each question about an
opcode form, what the line has to say for an answer. `Denotes` puts the answers together.

The notation is the same for all encodings. What differs between them is which keys a line can
use, what they are by default, and whether the absence of a prefix byte forbids the others.
-/

namespace OpcodeForms

/-- The meaning of a text, given a table of texts. -/
def meaningIn {α : Type} (table : List (String × α)) (v : List Char) : Option α :=
  (table.find? fun entry => entry.1.toList == v).map (·.2)

namespace Notation

/-! ## Texts -/

/-- The mandatory prefixes, given what the absence of a byte means. -/
def prefixes (absent : MandatoryPrefix) : List (String × MandatoryPrefix) :=
  [("none", absent), ("66", .p66), ("F3", .pF3), ("F2", .pF2)]

/-- The opcode maps. -/
def maps : List (String × OpcodeMap) :=
  [("normal", .normal), ("0F", .map0F), ("0F38", .map0F38), ("0F3A", .map0F3A), ("X8", .xop8),
    ("X9", .xop9), ("XA", .xopA)]

/-- The operand and address sizes in bits. -/
def sizes : List (String × Nat) :=
  [("none", 0), ("16", 16), ("32", 32), ("64", 64)]

/-- The vector lengths: how they are shown and the value of `L`. -/
def lengths : List (String × (LengthKind × Nat)) :=
  [("LZ", (.lz, 0)), ("L0", (.l0, 0)), ("L1", (.l0, 1)), ("128", (.l128, 0)), ("256", (.l128, 1)),
    ("LIG", (.none, 0))]

/-- The `W` bit: its value, whether it is ignored, and whether it is outside of 64-bit mode. -/
def wBits : List (String × (Nat × Bool × Bool)) :=
  [("W0", (0, false, false)), ("W1", (1, false, false)), ("WIG", (0, true, false)),
    ("WIG32", (0, false, true))]

/-- Availability in 16-bit, 32-bit and 64-bit mode. -/
def modes : List (String × (Bool × Bool × Bool)) :=
  [("any", (true, true, true)), ("1632", (true, true, false)), ("64", (false, false, true))]

/-- The prefixes that can be allowed. -/
def permissions : List (String × Property) :=
  [("lock", .lock), ("xacquire", .xacquire), ("xrelease", .xrelease), ("rep", .rep),
    ("repne", .repne), ("bnd", .bnd), ("hnt", .hintTaken), ("notrack", .notrack)]

/-- The operands. -/
def operands : List (String × OperandKind) :=
  [("Eb", .r8OrMem), ("Ew", .r16OrMem), ("Ed", .r32OrMem), ("Eq", .r64OrMem), ("Gb", .r8Reg),
    ("Gw", .r16Reg), ("Gd", .r32Reg), ("Gq", .r64Reg), ("Zd", .r32Opcode), ("Zq", .r64Opcode),
    ("Hd", .r32Vvvv), ("Hq", .r64Vvvv), ("Ib", .imm8), ("Id", .imm32), ("M", .mem),
    ("VX", .xmmReg), ("VY", .ymmReg), ("VZ", .zmmReg), ("HX", .xmmVvvv), ("HY", .ymmVvvv),
    ("HZ", .zmmVvvv), ("WX", .xmmOrMem), ("WY", .ymmOrMem), ("WZ", .zmmOrMem),
    ("Is4X", .xmmIs4), ("Is4Y", .ymmIs4), ("VM32X", .memVsib32x), ("VM32Y", .memVsib32y),
    ("VM32Z", .memVsib32z), ("VM64X", .memVsib64x), ("VM64Y", .memVsib64y),
    ("VM64Z", .memVsib64z)]

/-- Operand kinds with unused slots after them. -/
def padded (ks : List OperandKind) : List OperandKind :=
  ks ++ List.replicate (5 - ks.length) .none

/-- The slots of a list of operands with commas between them. -/
def slots (v : List Char) : Option (List OperandKind) :=
  (((v.splitOn ',').filter fun name => !name.isEmpty).mapM (meaningIn operands)).map padded

/-! ## Defaults -/

/-- What the absence of a prefix byte means. Vector prefixes always say which byte there is, and
legacy lines say it with `np`. -/
def absentPrefix (ws : List (List Char)) : Encoding → MandatoryPrefix
  | .legacy => if "np".toList ∈ ws then .np else .none
  | .vex | .evex | .xop => .np
  | .threeDNow => .none

/-- The opcode map of a line that names none. -/
def defaultMap : Encoding → OpcodeMap
  | .legacy => .normal
  | .vex | .evex | .threeDNow => .map0F
  | .xop => .xop8

end Notation

/-! ## Lines -/

/-- The length that the line denotes: shown in the way it is written for VEX and XOP, always in
bits for EVEX. -/
def DenotesLength (ws : List (List Char)) (info : Info) : Encoding → Prop
  | .vex | .xop =>
    Tells ws "l" (meaningIn Notation.lengths) (.l128, 0) (info.lengthKind, info.length)
  | .evex => info.lengthKind = .l128 ∧ Tells ws "ll" Text.hexValue? 0 info.length
  | .legacy | .threeDNow => info.lengthKind = .none ∧ info.length = 0

/-- How a line says that the vector length is ignored. -/
def SaysLig (ws : List (List Char)) : Encoding → Prop
  | .vex => Gives ws "l" "LIG".toList
  | .evex => "lig".toList ∈ ws
  | .legacy | .xop | .threeDNow => False

/-- The slots that the line denotes. -/
def DenotesSlots (ws : List (List Char)) (info : Info) : Encoding → Prop
  | .legacy | .vex | .evex | .xop =>
    Tells ws "ops" Notation.slots (Notation.padded []) info.slots
  | .threeDNow => info.slots = Notation.padded [.mmReg, .mmOrMem]

/-- The line with the words `ws` after its encoding `e` denotes the decoded record `info` of a
form. -/
structure Denotes (form : Form) (e : Encoding) (ws : List (List Char)) (info : Info) : Prop where
  form_eq : info.form = form
  isInstruction : info.isInstruction = form.isInstruction
  encoding : info.encoding = e
  hasOpcode : ∃ v, Gives ws "op" v
  opcode : ∀ v, Gives ws "op" v → Text.hexValue? v = some info.opcode
  mandatoryPrefix : Tells ws "mp" (meaningIn (Notation.prefixes (Notation.absentPrefix ws e)))
    (Notation.absentPrefix ws e) info.mandatoryPrefix
  table : Tells ws "table" (meaningIn Notation.maps) (Notation.defaultMap e) info.table
  groupIndex : Tells ws "group" (fun v => (Text.hexValue? v).map Int.ofNat) (-1) info.groupIndex
  isGroup : info.isGroup = true ↔ ∃ v, Gives ws "group" v
  operandSize : Tells ws "os" (meaningIn Notation.sizes) 0 info.operandSize.bits
  addressSize : Tells ws "as" (meaningIn Notation.sizes) 0 info.addressSize.bits
  length : DenotesLength ws info e
  w : Tells ws "w" (meaningIn Notation.wBits) (0, false, false)
    (info.w, info.has .wig, info.has .wig32)
  tupleType : Tells ws "tuple" Enumeration.ofName? .none info.tupleType
  lig : info.has .lig = true ↔ SaysLig ws e
  fwait : info.has .fwait = true ↔ "fwait".toList ∈ ws
  broadcast : info.has .broadcast = true ↔ "b".toList ∈ ws
  roundingControl : info.has .roundingControl = true ↔ "er".toList ∈ ws
  suppressAllExceptions : info.has .suppressAllExceptions = true ↔ "sae".toList ∈ ws
  opMaskRegister : info.has .opMaskRegister = true ↔ "k1".toList ∈ ws
  zeroingMasking : info.has .zeroingMasking = true ↔ "z".toList ∈ ws
  nonZeroOpMask : info.has .nonZeroOpMask = true ↔ e = .evex ∧ form.usesCompletionMask = true
  modes :
    if form.isInstruction then
      Tells ws "mode" (meaningIn Notation.modes) (true, true, true)
        (info.has .mode16, info.has .mode32, info.has .mode64)
    else info.has .mode16 = true ∧ info.has .mode32 = true ∧ info.has .mode64 = true
  permissions : ∀ entry ∈ Notation.permissions, info.has entry.2 = true ↔
    ∃ v, Gives ws "allow" v ∧ entry.1.toList ∈ v.splitOn '_'
  slots : DenotesSlots ws info e

end OpcodeForms
