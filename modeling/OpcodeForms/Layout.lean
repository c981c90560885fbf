import OpcodeForms.Word.Field
import OpcodeForms.Encoding.Kind

/-!
# Packed records

The stored form of an opcode record is three words: the encoding and the opcode, the attributes of
the encoding, and the operand indices. This is where each part lies in them. The first and the third
word are laid out alike for every encoding. The second has a layout of its own for each.

The writer and the reader of records both take the positions from here.
-/

namespace OpcodeForms

/-- A packed opcode record. -/
structure Packed where
  /-- The encoding and the opcode. -/
  word1 : UInt32 := 0
  /-- The attributes, laid out as the encoding says. -/
  word2 : UInt32 := 0
  /-- The operand indices, four bits each. -/
  word3 : UInt32 := 0
deriving DecidableEq, Repr, Inhabited

/-- A field of the second word. -/
inductive SubField where
  | prefixByte
  /-- Says that a legacy instruction takes no mandatory prefix, where the byte is `none`. -/
  | noPrefix
  | table
  | hasGroup
  | group
  | encodable
  | allowedPrefixes
  | fwait
  | operandSize
  | addressSize
  | tupleType
  | vectorLength
  | w
  | lig
  | broadcast
  | roundingControl
  | sae
  | opmask
  | zeroing
deriving DecidableEq, Repr

namespace Layout

/-! ## First word -/

def encoding : Field := { start := 0, size := 3 }

def opcode : Field := { start := 16, size := 16 }

/-- The fields of the first word. -/
def word1 : List Field :=
  [encoding, opcode]

/-! ## Third word -/

/-- The number of operand slots in a record. -/
abbrev slotCount : Nat := 5

/-- The field of the operand index in slot `i`. -/
def operand (i : Fin slotCount) : Field :=
  { start := 4 * i, size := 4, stop_le := by have : (i : Nat) < 5 := i.isLt; omega }

/-- The fields of the third word. -/
def word3 : List Field :=
  [operand 0, operand 1, operand 2, operand 3, operand 4]

/-! ## Second word -/

/-- The fields that every encoding but 3DNow! has in its second word. -/
structure Shared where
  prefixByte : Field
  table : Field
  hasGroup : Field
  group : Field
  encodable : Field

namespace Legacy

def shared : Shared where
  prefixByte := { start := 0, size := 2 }
  table := { start := 3, size := 2 }
  hasGroup := { start := 5 }
  group := { start := 6, size := 3 }
  encodable := { start := 9, size := 2 }

def noPrefix : Field := { start := 2 }

def allowedPrefixes : Field := { start := 11, size := 4 }

def fwait : Field := { start := 15 }

def operandSize : Field := { start := 16, size := 2 }

def addressSize : Field := { start := 18, size := 2 }

end Legacy

namespace Vector

/-- The shared fields of VEX, EVEX and XOP records. -/
def shared : Shared where
  prefixByte := { start := 0, size := 2 }
  table := { start := 2, size := 2 }
  hasGroup := { start := 4 }
  group := { start := 5, size := 3 }
  encodable := { start := 8, size := 2 }

end Vector

namespace Vex

def vectorLength : Field := { start := 10, size := 3 }

def w : Field := { start := 13, size := 2 }

end Vex

namespace Evex

def tupleType : Field := { start := 10, size := 5 }

def vectorLength : Field := { start := 15, size := 2 }

def w : Field := { start := 17, size := 2 }

def lig : Field := { start := 19 }

def broadcast : Field := { start := 20 }

def roundingControl : Field := { start := 21 }

def sae : Field := { start := 22 }

def opmask : Field := { start := 23 }

def zeroing : Field := { start := 24 }

end Evex

namespace Xop

def vectorLength : Field := { start := 10, size := 2 }

def w : Field := { start := 12, size := 2 }

end Xop

namespace ThreeDNow

def encodable : Field := { start := 0, size := 2 }

end ThreeDNow

/-- The shared fields of an encoding, which 3DNow! does not have. -/
def shared? : Encoding → Option Shared
  | .legacy => some Legacy.shared
  | .vex | .evex | .xop => some Vector.shared
  | .threeDNow => none

/-- The fields of the second word, from the lowest bit up. -/
def word2 : Encoding → List (SubField × Field)
  | .legacy =>
    [(.prefixByte, Legacy.shared.prefixByte), (.noPrefix, Legacy.noPrefix),
      (.table, Legacy.shared.table), (.hasGroup, Legacy.shared.hasGroup),
      (.group, Legacy.shared.group), (.encodable, Legacy.shared.encodable),
      (.allowedPrefixes, Legacy.allowedPrefixes), (.fwait, Legacy.fwait),
      (.operandSize, Legacy.operandSize), (.addressSize, Legacy.addressSize)]
  | .vex =>
    vector ++ [(.vectorLength, Vex.vectorLength), (.w, Vex.w)]
  | .evex =>
    vector ++ [(.tupleType, Evex.tupleType), (.vectorLength, Evex.vectorLength), (.w, Evex.w),
      (.lig, Evex.lig), (.broadcast, Evex.broadcast), (.roundingControl, Evex.roundingControl),
      (.sae, Evex.sae), (.opmask, Evex.opmask), (.zeroing, Evex.zeroing)]
  | .xop =>
    vector ++ [(.vectorLength, Xop.vectorLength), (.w, Xop.w)]
  | .threeDNow =>
    [(.encodable, ThreeDNow.encodable)]
where
  /-- The fields with which the second word of every vector encoding begins. -/
  vector : List (SubField × Field) :=
    [(.prefixByte, Vector.shared.prefixByte), (.table, Vector.shared.table),
      (.hasGroup, Vector.shared.hasGroup), (.group, Vector.shared.group),
      (.encodable, Vector.shared.encodable)]

/-- The field `s` of the second word, if the encoding has it. -/
def field? (e : Encoding) (s : SubField) : Option Field :=
  (word2 e).lookup s

/-- No two fields of the second word overlap. -/
example : ∀ e ∈ (Enumeration.all : List Encoding),
    (word2 e).Pairwise fun a b => ¬ a.2.Overlaps b.2 := by decide

end Layout

end OpcodeForms
