import OpcodeForms.Info.Basic
import OpcodeForms.Operand.Code

/-!
# Decoding of packed records

`Info.decode` reads a packed record in two steps. The first takes its fields apart: every
enumerated field is checked against its enumeration, and the first field that holds no member is
reported. Bits that no field of the encoding covers are not looked at. The second says what the
members amount to, and cannot fail.

The mode restriction of forms that are not instructions is not looked at either: they are
available in every mode.
-/

namespace OpcodeForms

/-- The part of a packed record that an error is about. -/
inductive RecordField where
  | encoding
  | prefixByte
  | table
  | encodable
  | allowedPrefixes
  | operandSize
  | addressSize
  | vectorLength
  | tupleType
  | operand (slot : Nat)
deriving DecidableEq, Repr

/-- The name of the field in error texts. -/
def RecordField.name : RecordField → String
  | .encoding => "encoding"
  | .prefixByte => "mandatory prefix byte"
  | .table => "opcode table"
  | .encodable => "encodable"
  | .allowedPrefixes => "allowed prefixes"
  | .operandSize => "operand size"
  | .addressSize => "address size"
  | .vectorLength => "vector length"
  | .tupleType => "tuple type"
  | .operand slot => s!"op{slot} kind"

/-- A packed record holds a value that is no member of the field's enumeration. -/
structure ConfigError where
  /-- The code of the form whose record is decoded. -/
  code : UInt16
  field : RecordField
  value : UInt32
deriving DecidableEq, Repr

/-- The text of the error. -/
def ConfigError.message (e : ConfigError) : String :=
  s!"opcode record {e.code}: invalid {e.field.name} value {e.value}"

/-! ## What the attributes amount to -/

/-- The modes in which a form can be encoded. -/
def Encodable.modes : Encodable → List Property
  | .any => [.mode16, .mode32, .mode64]
  | .only1632 => [.mode16, .mode32]
  | .only64 => [.mode64]

/-- The prefixes that may stand before the instruction, one by one. -/
def AllowedPrefixes.permissions : AllowedPrefixes → List Property
  | .none => []
  | .bnd => [.bnd]
  | .bndNotrack => [.bnd, .notrack]
  | .hintTakenBnd => [.hintTaken, .bnd]
  | .lock => [.lock]
  | .rep => [.rep]
  | .repRepne => [.rep, .repne]
  | .xacquireXreleaseLock => [.xacquire, .xrelease, .lock]
  | .xrelease => [.xrelease]

/-- What is known of the `W` bit. -/
def WBit.properties : WBit → List Property
  | .w0 => []
  | .w1 => [.w]
  | .wig => [.wig]
  | .wig32 => [.wig32]

/-- The mandatory prefix of a legacy form. Where there is no byte, `np` says whether the
others are forbidden. -/
def PrefixByte.legacyPrefix (np : Bool) : PrefixByte → MandatoryPrefix
  | .none => if np then .np else .none
  | .p66 => .p66
  | .pF3 => .pF3
  | .pF2 => .pF2

/-- The mandatory prefix of a vector form, whose prefix always says which byte there is. -/
def PrefixByte.vectorPrefix : PrefixByte → MandatoryPrefix :=
  legacyPrefix true

def LegacyMap.opcodeMap : LegacyMap → OpcodeMap
  | .normal => .normal
  | .map0F => .map0F
  | .map0F38 => .map0F38
  | .map0F3A => .map0F3A

def VectorMap.opcodeMap : VectorMap → OpcodeMap
  | .map0F => .map0F
  | .map0F38 => .map0F38
  | .map0F3A => .map0F3A

def XopMap.opcodeMap : XopMap → OpcodeMap
  | .map8 => .xop8
  | .map9 => .xop9
  | .mapA => .xopA

/-- How the length is shown, and the value of `L`. -/
def VexLength.shown : VexLength → LengthKind × Nat
  | .lz => (.lz, 0)
  | .l0 => (.l0, 0)
  | .l1 => (.l0, 1)
  | .l128 => (.l128, 0)
  | .l256 => (.l128, 1)
  | .lig => (.none, 0)

/-- How the length is shown, and the value of `L`. -/
def XopLength.shown : XopLength → LengthKind × Nat
  | .l128 => (.l128, 0)
  | .l256 => (.l128, 1)
  | .l0 => (.l0, 0)
  | .l1 => (.l0, 1)

namespace Info

/-! ## Reading fields -/

/-- The member of an enumeration that field `f` of the word `w` holds. -/
def readField (α : Type) [DecidableEq α] [Enumeration α] (form : Form) (f : Field)
    (field : RecordField) (w : UInt32) : Except ConfigError α :=
  match Enumeration.ofRaw? (f.get w).toNat with
  | some a => .ok a
  | none => .error { code := form.code, field, value := f.get w }

/-- The mode restriction of a form. Forms that are not instructions have none. -/
def readEncodable (form : Form) (f : Field) (w : UInt32) : Except ConfigError Encodable :=
  if form.isInstruction then readField Encodable form f .encodable w else .ok .any

/-- The group of a record, if its opcode has one. -/
def readGroup (fs : Layout.Shared) (w : UInt32) : Option Nat :=
  if fs.hasGroup.isSet w then some (fs.group.get w).toNat else none

/-- The `W` bit of a record. Its field has two bits, and every value of them has a meaning. -/
def readW (f : Field) (w : UInt32) : WBit :=
  match (f.get w).toNat with
  | 0 => .w0
  | 1 => .w1
  | 2 => .wig
  | _ => .wig32

/-- The operand kind that slot `i` of the word `w` holds. -/
def readSlot (form : Form) (e : Encoding) (w : UInt32) (i : Fin Layout.slotCount) :
    Except ConfigError OperandKind :=
  let index := (Layout.operand i).get w
  match OperandCode.kind? e index.toNat with
  | some k => .ok k
  | none => .error { code := form.code, field := .operand i.val, value := index }

/-- The operand kinds of all slots. Those that the encoding has no use for are unused. -/
def readSlots (form : Form) (e : Encoding) (w : UInt32) : Except ConfigError (List OperandKind) :=
  (List.finRange Layout.slotCount).mapM fun (i : Fin Layout.slotCount) =>
    if i.val < e.opSlots then readSlot form e w i else .ok .none

/-- The properties that hold if `b` does. -/
def when (b : Bool) (p : Property) : List Property :=
  if b then [p] else []

/-- The property of forms that are not instructions. -/
def identity (form : Form) : List Property :=
  when (!form.isInstruction) .noInstruction

end Info

/-! ## Legacy records -/

/-- What the fields of a legacy record hold. -/
structure LegacyFields where
  prefixByte : PrefixByte
  noPrefix : Bool
  table : LegacyMap
  group : Option Nat
  encodable : Encodable
  allowedPrefixes : AllowedPrefixes
  fwait : Bool
  operandSize : Width
  addressSize : Width
  slots : List OperandKind

/-- Reads the fields of a legacy record. -/
def LegacyFields.read (form : Form) (p : Packed) : Except ConfigError LegacyFields := do
  let w := p.word2
  let fs := Layout.Legacy.shared
  let prefixByte ← Info.readField PrefixByte form fs.prefixByte .prefixByte w
  let table ← Info.readField LegacyMap form fs.table .table w
  let encodable ← Info.readEncodable form fs.encodable w
  let allowedPrefixes ← Info.readField AllowedPrefixes form Layout.Legacy.allowedPrefixes
    .allowedPrefixes w
  let operandSize ← Info.readField Width form Layout.Legacy.operandSize .operandSize w
  let addressSize ← Info.readField Width form Layout.Legacy.addressSize .addressSize w
  let slots ← Info.readSlots form .legacy p.word3
  return {
    prefixByte, table, encodable, allowedPrefixes, operandSize, addressSize, slots
    noPrefix := Layout.Legacy.noPrefix.isSet w
    group := Info.readGroup fs w
    fwait := Layout.Legacy.fwait.isSet w }

/-- The decoded record of a legacy form. -/
def LegacyFields.info (form : Form) (opcode : Nat) (r : LegacyFields) : Info where
  form := form
  encoding := .legacy
  opcode := opcode
  properties := Info.flagsOf (Info.identity form ++ r.encodable.modes
    ++ r.allowedPrefixes.permissions ++ Info.when r.fwait .fwait)
  operandSize := r.operandSize
  addressSize := r.addressSize
  table := r.table.opcodeMap
  mandatoryPrefix := r.prefixByte.legacyPrefix r.noPrefix
  group := r.group
  slots := r.slots

/-! ## VEX records -/

/-- What the fields of a VEX record hold. -/
structure VexFields where
  prefixByte : PrefixByte
  table : VectorMap
  group : Option Nat
  encodable : Encodable
  length : VexLength
  w : WBit
  slots : List OperandKind

/-- Reads the fields of a VEX record. -/
def VexFields.read (form : Form) (p : Packed) : Except ConfigError VexFields := do
  let w := p.word2
  let fs := Layout.Vector.shared
  let prefixByte ← Info.readField PrefixByte form fs.prefixByte .prefixByte w
  let table ← Info.readField VectorMap form fs.table .table w
  let encodable ← Info.readEncodable form fs.encodable w
  let length ← Info.readField VexLength form Layout.Vex.vectorLength .vectorLength w
  let slots ← Info.readSlots form .vex p.word3
  return {
    prefixByte, table, encodable, length, slots
    group := Info.readGroup fs w
    w := Info.readW Layout.Vex.w w }

/-- The decoded record of a VEX form. -/
def VexFields.info (form : Form) (opcode : Nat) (r : VexFields) : Info where
  form := form
  encoding := .vex
  opcode := opcode
  properties := Info.flagsOf (Info.identity form ++ r.encodable.modes
    ++ Info.when (r.length = .lig) .lig ++ r.w.properties)
  length := r.length.shown.2
  lengthKind := r.length.shown.1
  table := r.table.opcodeMap
  mandatoryPrefix := r.prefixByte.vectorPrefix
  group := r.group
  slots := r.slots

/-! ## EVEX records -/

/-- What the fields of an EVEX record hold. -/
structure EvexFields where
  prefixByte : PrefixByte
  table : VectorMap
  group : Option Nat
  encodable : Encodable
  tupleType : TupleType
  length : Nat
  w : WBit
  lig : Bool
  broadcast : Bool
  roundingControl : Bool
  sae : Bool
  opmask : Bool
  zeroing : Bool
  slots : List OperandKind

/-- Reads the fields of an EVEX record. -/
def EvexFields.read (form : Form) (p : Packed) : Except ConfigError EvexFields := do
  let w := p.word2
  let fs := Layout.Vector.shared
  let prefixByte ← Info.readField PrefixByte form fs.prefixByte .prefixByte w
  let table ← Info.readField VectorMap form fs.table .table w
  let encodable ← Info.readEncodable form fs.encodable w
  let tupleType ← Info.readField TupleType form Layout.Evex.tupleType .tupleType w
  let slots ← Info.readSlots form .evex p.word3
  return {
    prefixByte, table, encodable, tupleType, slots
    group := Info.readGroup fs w
    -- the bits are kept as they are: under rounding control they hold the rounding mode
    length := (Layout.Evex.vectorLength.get w).toNat
    w := Info.readW Layout.Evex.w w
    lig := Layout.Evex.lig.isSet w
    broadcast := Layout.Evex.broadcast.isSet w
    roundingControl := Layout.Evex.roundingControl.isSet w
    sae := Layout.Evex.sae.isSet w
    opmask := Layout.Evex.opmask.isSet w
    zeroing := Layout.Evex.zeroing.isSet w }

/-- The decoded record of an EVEX form. -/
def EvexFields.info (form : Form) (opcode : Nat) (r : EvexFields) : Info where
  form := form
  encoding := .evex
  opcode := opcode
  properties := Info.flagsOf (Info.identity form ++ r.encodable.modes ++ r.w.properties
    ++ Info.when r.lig .lig
    ++ Info.when r.broadcast .broadcast
    ++ Info.when r.roundingControl .roundingControl
    ++ Info.when r.sae .suppressAllExceptions
    ++ Info.when r.opmask .opMaskRegister
    ++ Info.when r.zeroing .zeroingMasking
    ++ Info.when form.usesCompletionMask .nonZeroOpMask)
  length := r.length
  lengthKind := .l128
  tupleType := r.tupleType
  table := r.table.opcodeMap
  mandatoryPrefix := r.prefixByte.vectorPrefix
  group := r.group
  slots := r.slots

/-! ## XOP records -/

/-- What the fields of an XOP record hold. -/
structure XopFields where
  prefixByte : PrefixByte
  table : XopMap
  group : Option Nat
  encodable : Encodable
  length : XopLength
  w : WBit
  slots : List OperandKind

/-- Reads the fields of an XOP record. -/
def XopFields.read (form : Form) (p : Packed) : Except ConfigError XopFields := do
  let w := p.word2
  let fs := Layout.Vector.shared
  let prefixByte ← Info.readField PrefixByte form fs.prefixByte .prefixByte w
  let table ← Info.readField XopMap form fs.table .table w
  let encodable ← Info.readEncodable form fs.encodable w
  let length ← Info.readField XopLength form Layout.Xop.vectorLength .vectorLength w
  let slots ← Info.readSlots form .xop p.word3
  return {
    prefixByte, table, encodable, length, slots
    group := Info.readGroup fs w
    w := Info.readW Layout.Xop.w w }

/-- The decoded record of an XOP form. -/
def XopFields.info (form : Form) (opcode : Nat) (r : XopFields) : Info where
  form := form
  encoding := .xop
  opcode := opcode
  properties := Info.flagsOf (Info.identity form ++ r.encodable.modes ++ r.w.properties)
  length := r.length.shown.2
  lengthKind := r.length.shown.1
  table := r.table.opcodeMap
  mandatoryPrefix := r.prefixByte.vectorPrefix
  group := r.group
  slots := r.slots

/-! ## 3DNow! records -/

/-- The decoded record of a 3DNow! form, whose second word holds nothing but its modes. -/
def Info.ofThreeDNow (form : Form) (opcode : Nat) (encodable : Encodable) : Info where
  form := form
  encoding := .threeDNow
  opcode := opcode
  properties := flagsOf (identity form ++ encodable.modes)
  table := .map0F
  mandatoryPrefix := .none
  slots := OperandCode.fixedOperands ++ [.none, .none, .none]

/-! ## All records -/

/-- Decodes the packed record of a form. -/
def Info.decode (form : Form) (p : Packed) : Except ConfigError Info := do
  let opcode := (Layout.opcode.get p.word1).toNat
  match ← readField Encoding form Layout.encoding .encoding p.word1 with
  | .legacy => return (← LegacyFields.read form p).info form opcode
  | .vex => return (← VexFields.read form p).info form opcode
  | .evex => return (← EvexFields.read form p).info form opcode
  | .xop => return (← XopFields.read form p).info form opcode
  | .threeDNow =>
    return ofThreeDNow form opcode
      (← readEncodable form Layout.ThreeDNow.encodable p.word2)

end OpcodeForms
