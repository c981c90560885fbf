import OpcodeForms.Enumeration

/-!
# Attributes stored in a packed record

One enumeration for each enumerated field of a packed record. The names are those that table
lines use.
-/

namespace OpcodeForms

/-- The byte of the mandatory prefix, if there is one. -/
inductive PrefixByte where
  | none
  | p66
  | pF3
  | pF2
deriving DecidableEq, Repr

instance : Enumeration PrefixByte where
  all := [.none, .p66, .pF3, .pF2]
  name
    | .none => "none"
    | .p66 => "66"
    | .pF3 => "F3"
    | .pF2 => "F2"
  mem_all a := by cases a <;> decide
  nodup_names := by decide

/-- The opcode maps of legacy instructions. -/
inductive LegacyMap where
  | normal
  | map0F
  | map0F38
  | map0F3A
deriving DecidableEq, Repr

instance : Enumeration LegacyMap where
  all := [.normal, .map0F, .map0F38, .map0F3A]
  name
    | .normal => "normal"
    | .map0F => "0F"
    | .map0F38 => "0F38"
    | .map0F3A => "0F3A"
  mem_all a := by cases a <;> decide
  nodup_names := by decide

/-- The opcode maps of VEX and EVEX instructions. -/
inductive VectorMap where
  | map0F
  | map0F38
  | map0F3A
deriving DecidableEq, Repr

instance : Enumeration VectorMap where
  all := [.map0F, .map0F38, .map0F3A]
  name
    | .map0F => "0F"
    | .map0F38 => "0F38"
    | .map0F3A => "0F3A"
  mem_all a := by cases a <;> decide
  nodup_names := by decide

/-- The opcode maps of XOP instructions. -/
inductive XopMap where
  | map8
  | map9
  | mapA
deriving DecidableEq, Repr

instance : Enumeration XopMap where
  all := [.map8, .map9, .mapA]
  name
    | .map8 => "X8"
    | .map9 => "X9"
    | .mapA => "XA"
  mem_all a := by cases a <;> decide
  nodup_names := by decide

/-- The processor modes in which an opcode form can be encoded. -/
inductive Encodable where
  | any
  | only1632
  | only64
deriving DecidableEq, Repr

instance : Enumeration Encodable where
  all := [.any, .only1632, .only64]
  name
    | .any => "any"
    | .only1632 => "1632"
    | .only64 => "64"
  mem_all a := by cases a <;> decide
  nodup_names := by decide

/-- The prefixes that may stand before a legacy instruction. -/
inductive AllowedPrefixes where
  | none
  | bnd
  | bndNotrack
  | hintTakenBnd
  | lock
  | rep
  | repRepne
  | xacquireXreleaseLock
  | xrelease
deriving DecidableEq, Repr

instance : Enumeration AllowedPrefixes where
  all := [.none, .bnd, .bndNotrack, .hintTakenBnd, .lock, .rep, .repRepne,
    .xacquireXreleaseLock, .xrelease]
  name
    | .none => "none"
    | .bnd => "bnd"
    | .bndNotrack => "bnd_notrack"
    | .hintTakenBnd => "hnt_bnd"
    | .lock => "lock"
    | .rep => "rep"
    | .repRepne => "rep_repne"
    | .xacquireXreleaseLock => "xacquire_xrelease_lock"
    | .xrelease => "xrelease"
  mem_all a := by cases a <;> decide
  nodup_names := by decide

/-- A fixed operand or address size, or none where prefixes and mode decide. -/
inductive Width where
  | none
  | w16
  | w32
  | w64
deriving DecidableEq, Repr

instance : Enumeration Width where
  all := [.none, .w16, .w32, .w64]
  name
    | .none => "none"
    | .w16 => "16"
    | .w32 => "32"
    | .w64 => "64"
  mem_all a := by cases a <;> decide
  nodup_names := by decide

/-- The size in bits, `0` where there is no fixed size. -/
def Width.bits : Width → Nat
  | .none => 0
  | .w16 => 16
  | .w32 => 32
  | .w64 => 64

/-- The vector length of a VEX instruction, with the way it is written. -/
inductive VexLength where
  | lz
  | l0
  | l1
  | l128
  | l256
  /-- The length is ignored. -/
  | lig
deriving DecidableEq, Repr

instance : Enumeration VexLength where
  all := [.lz, .l0, .l1, .l128, .l256, .lig]
  name
    | .lz => "LZ"
    | .l0 => "L0"
    | .l1 => "L1"
    | .l128 => "128"
    | .l256 => "256"
    | .lig => "LIG"
  mem_all a := by cases a <;> decide
  nodup_names := by decide

/-- The vector length of an XOP instruction, with the way it is written. -/
inductive XopLength where
  | l128
  | l256
  | l0
  | l1
deriving DecidableEq, Repr

instance : Enumeration XopLength where
  all := [.l128, .l256, .l0, .l1]
  name
    | .l128 => "128"
    | .l256 => "256"
    | .l0 => "L0"
    | .l1 => "L1"
  mem_all a := by cases a <;> decide
  nodup_names := by decide

/-- The `W` bit of a vector prefix. -/
inductive WBit where
  | w0
  | w1
  /-- The bit is ignored. -/
  | wig
  /-- The bit is ignored outside of 64-bit mode. -/
  | wig32
deriving DecidableEq, Repr

instance : Enumeration WBit where
  all := [.w0, .w1, .wig, .wig32]
  name
    | .w0 => "W0"
    | .w1 => "W1"
    | .wig => "WIG"
    | .wig32 => "WIG32"
  mem_all a := by cases a <;> decide
  nodup_names := by decide

/-- How an EVEX instruction scales a displacement of one byte. -/
inductive TupleType where
  | none
  | full128
  | full256
  | full512
  | half128
  | half256
  | half512
  | fullMem128
  | fullMem256
  | fullMem512
  | tuple1Scalar
  | tuple1Scalar1
  | tuple1Scalar2
  | tuple1Scalar4
  | tuple1Scalar8
  | tuple1Fixed
  | tuple1Fixed4
  | tuple1Fixed8
  | tuple2
  | tuple4
  | tuple8
  | tuple1x4
  | halfMem128
  | halfMem256
  | halfMem512
  | quarterMem128
  | quarterMem256
  | quarterMem512
  | eighthMem128
  | eighthMem256
  | eighthMem512
  | mem128
deriving DecidableEq, Repr, Inhabited

instance : Enumeration TupleType where
  all := [.none, .full128, .full256, .full512, .half128, .half256, .half512,
    .fullMem128, .fullMem256, .fullMem512, .tuple1Scalar, .tuple1Scalar1, .tuple1Scalar2,
    .tuple1Scalar4, .tuple1Scalar8, .tuple1Fixed, .tuple1Fixed4, .tuple1Fixed8, .tuple2,
    .tuple4, .tuple8, .tuple1x4, .halfMem128, .halfMem256, .halfMem512, .quarterMem128,
    .quarterMem256, .quarterMem512, .eighthMem128, .eighthMem256, .eighthMem512, .mem128]
  name
    | .none => "none"
    | .full128 => "Full_128"
    | .full256 => "Full_256"
    | .full512 => "Full_512"
    | .half128 => "Half_128"
    | .half256 => "Half_256"
    | .half512 => "Half_512"
    | .fullMem128 => "Full_Mem_128"
    | .fullMem256 => "Full_Mem_256"
    | .fullMem512 => "Full_Mem_512"
    | .tuple1Scalar => "Tuple1_Scalar"
    | .tuple1Scalar1 => "Tuple1_Scalar_1"
    | .tuple1Scalar2 => "Tuple1_Scalar_2"
    | .tuple1Scalar4 => "Tuple1_Scalar_4"
    | .tuple1Scalar8 => "Tuple1_Scalar_8"
    | .tuple1Fixed => "Tuple1_Fixed"
    | .tuple1Fixed4 => "Tuple1_Fixed_4"
    | .tuple1Fixed8 => "Tuple1_Fixed_8"
    | .tuple2 => "Tuple2"
    | .tuple4 => "Tuple4"
    | .tuple8 => "Tuple8"
    | .tuple1x4 => "Tuple1_4X"
    | .halfMem128 => "Half_Mem_128"
    | .halfMem256 => "Half_Mem_256"
    | .halfMem512 => "Half_Mem_512"
    | .quarterMem128 => "Quarter_Mem_128"
    | .quarterMem256 => "Quarter_Mem_256"
    | .quarterMem512 => "Quarter_Mem_512"
    | .eighthMem128 => "Eighth_Mem_128"
    | .eighthMem256 => "Eighth_Mem_256"
    | .eighthMem512 => "Eighth_Mem_512"
    | .mem128 => "Mem128"
  mem_all a := by cases a <;> decide
  nodup_names := by decide

end OpcodeForms
