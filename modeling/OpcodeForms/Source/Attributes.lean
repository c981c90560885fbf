import OpcodeForms.Encoding.Attribute
import OpcodeForms.Layout
import OpcodeForms.Operand.Code

/-!
# Attributes of a table line

What a line of the opcode table says about a form, with the defaults for what it leaves out, and
the packed record that this amounts to. An encoding uses those attributes that it has fields for.
-/

namespace OpcodeForms

/-- The attributes that a table line can give. -/
structure Attributes where
  opcode : Option Nat := none
  /-- The indices of the operands, in slot order. -/
  operands : List Nat := []
  encodable : Encodable := .any
  prefixByte : PrefixByte := .none
  legacyMap : LegacyMap := .normal
  vectorMap : VectorMap := .map0F
  xopMap : XopMap := .map8
  group : Option Nat := none
  allowedPrefixes : AllowedPrefixes := .none
  operandSize : Width := .none
  addressSize : Width := .none
  vexLength : VexLength := .l128
  xopLength : XopLength := .l128
  /-- The `L'L` bits of an EVEX form. -/
  evexLength : Nat := 0
  w : WBit := .w0
  tupleType : TupleType := .none
  noPrefix : Bool := false
  fwait : Bool := false
  lig : Bool := false
  broadcast : Bool := false
  roundingControl : Bool := false
  sae : Bool := false
  opmask : Bool := false
  zeroing : Bool := false
deriving DecidableEq

namespace Attributes

/-- The number of operand slots in use. -/
def opCount (a : Attributes) (e : Encoding) : Nat :=
  match e with
  | .threeDNow => OperandCode.fixedOperands.length
  | _ => a.operands.length

/-- The raw value of an enumerated attribute, as a word. -/
def rawWord {α : Type} [DecidableEq α] [Enumeration α] (a : α) : UInt32 :=
  UInt32.ofNat (Enumeration.raw a)

/-- The word that a switch is stored as. -/
def bitWord (b : Bool) : UInt32 :=
  if b then 1 else 0

/-- Writes values into fields of a word that is zero at first. -/
def assemble (parts : List (Field × UInt32)) : UInt32 :=
  parts.foldl (fun w part => part.1.set w part.2) 0

/-- The values of the fields that the encodings but 3DNow! share, given the raw opcode map. -/
def sharedParts (a : Attributes) (fs : Layout.Shared) (table : UInt32) : List (Field × UInt32) :=
  [(fs.prefixByte, rawWord a.prefixByte), (fs.table, table),
    (fs.hasGroup, bitWord a.group.isSome), (fs.group, UInt32.ofNat (a.group.getD 0)),
    (fs.encodable, rawWord a.encodable)]

/-- The values of the fields of the second word. -/
def parts (a : Attributes) : Encoding → List (Field × UInt32)
  | .legacy =>
    a.sharedParts Layout.Legacy.shared (rawWord a.legacyMap) ++
      [(Layout.Legacy.noPrefix, bitWord a.noPrefix),
        (Layout.Legacy.allowedPrefixes, rawWord a.allowedPrefixes),
        (Layout.Legacy.fwait, bitWord a.fwait),
        (Layout.Legacy.operandSize, rawWord a.operandSize),
        (Layout.Legacy.addressSize, rawWord a.addressSize)]
  | .vex =>
    a.sharedParts Layout.Vector.shared (rawWord a.vectorMap) ++
      [(Layout.Vex.vectorLength, rawWord a.vexLength), (Layout.Vex.w, rawWord a.w)]
  | .evex =>
    a.sharedParts Layout.Vector.shared (rawWord a.vectorMap) ++
      [(Layout.Evex.tupleType, rawWord a.tupleType),
        (Layout.Evex.vectorLength, UInt32.ofNat a.evexLength), (Layout.Evex.w, rawWord a.w),
        (Layout.Evex.lig, bitWord a.lig), (Layout.Evex.broadcast, bitWord a.broadcast),
        (Layout.Evex.roundingControl, bitWord a.roundingControl), (Layout.Evex.sae, bitWord a.sae),
        (Layout.Evex.opmask, bitWord a.opmask), (Layout.Evex.zeroing, bitWord a.zeroing)]
  | .xop =>
    a.sharedParts Layout.Vector.shared (rawWord a.xopMap) ++
      [(Layout.Xop.vectorLength, rawWord a.xopLength), (Layout.Xop.w, rawWord a.w)]
  | .threeDNow =>
    [(Layout.ThreeDNow.encodable, rawWord a.encodable)]

/-- The packed record of a form with these attributes. -/
def pack (a : Attributes) (e : Encoding) : Packed where
  word1 := assemble [(Layout.encoding, rawWord e),
    (Layout.opcode, UInt32.ofNat (a.opcode.getD 0))]
  word2 := assemble (a.parts e)
  word3 := assemble (Layout.word3.zip (a.operands.map UInt32.ofNat))

end Attributes

end OpcodeForms
