import OpcodeForms.Enumeration

/-!
# Attributes of a decoded record

What the packed attributes come down to once the differences between the encodings are resolved.
-/

namespace OpcodeForms

/-- The mandatory prefix as an opcode string shows it. -/
inductive MandatoryPrefix where
  | none
  /-- No `66`, `F3` or `F2` byte is allowed. -/
  | np
  | p66
  | pF3
  | pF2
deriving DecidableEq, Repr

instance : Enumeration MandatoryPrefix where
  all := [.none, .np, .p66, .pF3, .pF2]
  name
    | .none => "none"
    | .np => "NP"
    | .p66 => "66"
    | .pF3 => "F3"
    | .pF2 => "F2"
  mem_all a := by cases a <;> decide
  nodup_names := by decide

/-- The opcode map of a form, over all encodings. -/
inductive OpcodeMap where
  | normal
  | map0F
  | map0F38
  | map0F3A
  | xop8
  | xop9
  | xopA
deriving DecidableEq, Repr

instance : Enumeration OpcodeMap where
  all := [.normal, .map0F, .map0F38, .map0F3A, .xop8, .xop9, .xopA]
  name
    | .normal => "normal"
    | .map0F => "0F"
    | .map0F38 => "0F38"
    | .map0F3A => "0F3A"
    | .xop8 => "XOP8"
    | .xop9 => "XOP9"
    | .xopA => "XOPA"
  mem_all a := by cases a <;> decide
  nodup_names := by decide

/-- How the value of `L` is shown. -/
inductive LengthKind where
  | none
  /-- As `LZ`. -/
  | lz
  /-- As `L0` or `L1`. -/
  | l0
  /-- As a vector length in bits. -/
  | l128
deriving DecidableEq, Repr

instance : Enumeration LengthKind where
  all := [.none, .lz, .l0, .l128]
  name
    | .none => "none"
    | .lz => "LZ"
    | .l0 => "L0"
    | .l128 => "L128"
  mem_all a := by cases a <;> decide
  nodup_names := by decide

/-- A yes-or-no property of a form. -/
inductive Property where
  | mode16
  | mode32
  | mode64
  /-- An `FWAIT` byte precedes the instruction. -/
  | fwait
  /-- The vector length is ignored. -/
  | lig
  /-- `W` is ignored. -/
  | wig
  /-- `W` is ignored outside of 64-bit mode. -/
  | wig32
  /-- `W` is one. -/
  | w
  | broadcast
  | roundingControl
  | suppressAllExceptions
  | opMaskRegister
  | zeroingMasking
  | lock
  | xacquire
  | xrelease
  | rep
  | repne
  | bnd
  | hintTaken
  | notrack
  /-- The form is `INVALID` or a data declaration. -/
  | noInstruction
  /-- The opmask register must not be `k0`. -/
  | nonZeroOpMask
deriving DecidableEq, Repr

namespace Property

/-- The properties, in the order of their flags. -/
def all : List Property :=
  [mode16, mode32, mode64, fwait, lig, wig, wig32, w, broadcast, roundingControl,
    suppressAllExceptions, opMaskRegister, zeroingMasking, lock, xacquire, xrelease, rep, repne,
    bnd, hintTaken, notrack, noInstruction, nonZeroOpMask]

/-- The index of the property's flag. -/
def index (p : Property) : Nat :=
  all.idxOf p

end Property

end OpcodeForms
