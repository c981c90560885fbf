import OpcodeForms.Encoding.Attribute
import OpcodeForms.Encoding.Kind
import OpcodeForms.Form.Basic
import OpcodeForms.Info.Attribute
import OpcodeForms.Layout
import OpcodeForms.Operand.Kind
import OpcodeForms.Word.Flags

/-!
# Decoded records

`Info` holds all that is known of an opcode form, whatever its encoding.
-/

namespace OpcodeForms

/-- A question about a form that has no answer. -/
inductive UsageError where
  /-- A record has no operand slot of this index. -/
  | operandIndex (i : Nat)
  /-- No processor mode has this number of bits. -/
  | bitness (b : Nat)
deriving DecidableEq, Repr

/-- The text of the error. -/
def UsageError.message : UsageError → String
  | .operandIndex i => s!"operand index {i} is out of range"
  | .bitness b => s!"invalid bitness {b}"

/-- The decoded record of an opcode form. -/
structure Info where
  form : Form
  encoding : Encoding
  /-- The opcode: one byte, or two for forms such as `0F 01 D8`. -/
  opcode : Nat
  /-- The properties that hold of the form. -/
  properties : Flags
  operandSize : Width := .none
  addressSize : Width := .none
  /-- The `L` bit of VEX and XOP, the `L'L` bits of EVEX, zero for other encodings. -/
  length : Nat := 0
  /-- How `length` is shown. -/
  lengthKind : LengthKind := .none
  tupleType : TupleType := .none
  table : OpcodeMap
  mandatoryPrefix : MandatoryPrefix
  /-- The value of ModRM `reg`, for the forms that share their opcode with others. -/
  group : Option Nat := none
  /-- The operand kinds of all slots, used or not. -/
  slots : List OperandKind
deriving DecidableEq

namespace Info

/-- The flags of a list of properties. -/
def flagsOf (ps : List Property) : Flags :=
  ps.foldl (fun f p => f.insert (Flags.single p.index)) .empty

/-- Whether the property holds of the form. -/
def has (info : Info) (p : Property) : Bool :=
  info.properties.any (Flags.single p.index)

/-- False for `INVALID` and for data declarations. -/
def isInstruction (info : Info) : Bool :=
  !info.has .noInstruction

/-- The value of the `W` bit. -/
def w (info : Info) : Nat :=
  if info.has .w then 1 else 0

/-- Whether ModRM `reg` is part of the opcode. -/
def isGroup (info : Info) : Bool :=
  info.group.isSome

/-- The value of ModRM `reg` in the opcode, `-1` where it is no part of it. -/
def groupIndex (info : Info) : Int :=
  match info.group with
  | some g => g
  | none => -1

/-- The kinds of the operands: the first slots, as many as are in use. -/
def operands (info : Info) : List OperandKind :=
  info.slots.take info.form.opCount

/-- The operand kind in slot `i`. Slots that are not in use can be asked for too. -/
def operandKind (info : Info) (i : Nat) : Except UsageError OperandKind :=
  match info.slots[i]? with
  | some k => .ok k
  | none => .error (.operandIndex i)

/-- Whether the form can be encoded in the mode of this many bits. -/
def isAvailableInMode (info : Info) (bitness : Nat) : Except UsageError Bool :=
  if bitness = 16 then .ok (info.has .mode16)
  else if bitness = 32 then .ok (info.has .mode32)
  else if bitness = 64 then .ok (info.has .mode64)
  else .error (.bitness bitness)

end Info

end OpcodeForms
