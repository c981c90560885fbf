import OpcodeForms.Source.Attributes
import OpcodeForms.Text.Numeral
import OpcodeForms.Text.Split

/-!
# Assignments of a table line

After the name, the mnemonic and the encoding, the words of a table line are assignments:
`key=value` or a switch that stands alone. What a word assigns depends on the encoding and on
nothing else in the line, apart from the rule that no key comes twice.
-/

namespace OpcodeForms

/-- Why a table line is rejected. -/
inductive RecordError where
  | missingName
  | invalidName (name : List Char)
  | missingMnemonic
  | missingEncoding
  | missingOpcode
  | duplicateKey (key : List Char)
  | unexpectedKey (e : Encoding) (key : List Char)
  | unexpectedSwitch (e : Encoding) (key : List Char)
  | invalidValue (key value : List Char)
  | tooManyOperands (e : Encoding) (given : Nat)
  | unknownOperand (e : Encoding) (name : List Char)
  /-- An operand is listed as unused. -/
  | implicitOperand (name : List Char)
  /-- The operands of 3DNow! cannot be listed. -/
  | fixedOperands
deriving DecidableEq

/-- Text in quotation marks. -/
def quoted (s : List Char) : String :=
  "\"" ++ String.ofList s ++ "\""

/-- The text of the error. -/
def RecordError.message : RecordError → String
  | .missingName => "missing name"
  | .invalidName name => s!"invalid name {quoted name}"
  | .missingMnemonic => "missing mnemonic"
  | .missingEncoding => "missing encoding"
  | .missingOpcode => "missing opcode"
  | .duplicateKey key => s!"duplicate key {quoted key}"
  | .unexpectedKey e key => s!"unexpected {Enumeration.name e} key {quoted key}"
  | .unexpectedSwitch e key => s!"unexpected {Enumeration.name e} flag {quoted key}"
  | .invalidValue key value => s!"invalid {String.ofList key} value {quoted value}"
  | .tooManyOperands e given =>
    s!"{given} operands given, {Enumeration.name e} encoding has {e.opSlots} slots"
  | .unknownOperand e name =>
    s!"operand kind {quoted name} is not a {Enumeration.name e} operand kind"
  | .implicitOperand name => s!"operand kind {quoted name} is implicit"
  | .fixedOperands => "3dnow operands are fixed"

/-- The keys that take a value. -/
inductive Key where
  | opcode
  | operands
  | encodable
  | prefixByte
  | table
  | group
  | allowedPrefixes
  | operandSize
  | addressSize
  | length
  | w
  | tupleType
  | evexLength
deriving DecidableEq, Repr

namespace Key

instance : Enumeration Key where
  all := [opcode, operands, encodable, prefixByte, table, group, allowedPrefixes, operandSize,
    addressSize, length, w, tupleType, evexLength]
  name
    | opcode => "op"
    | operands => "ops"
    | encodable => "mode"
    | prefixByte => "mp"
    | table => "table"
    | group => "group"
    | allowedPrefixes => "allow"
    | operandSize => "os"
    | addressSize => "as"
    | length => "l"
    | w => "w"
    | tupleType => "tuple"
    | evexLength => "ll"
  mem_all a := by cases a <;> decide
  nodup_names := by decide

/-- Whether lines of the encoding may use the key. -/
def isFor (e : Encoding) : Key → Bool
  | opcode | operands | encodable => true
  | prefixByte | table | group => e != .threeDNow
  | allowedPrefixes | operandSize | addressSize => e == .legacy
  | length => e == .vex || e == .xop
  | w => e.isVector
  | tupleType | evexLength => e == .evex

end Key

/-- The keys that stand alone. -/
inductive Switch where
  | noPrefix
  | fwait
  | lig
  | broadcast
  | roundingControl
  | sae
  | opmask
  | zeroing
deriving DecidableEq, Repr

namespace Switch

instance : Enumeration Switch where
  all := [noPrefix, fwait, lig, broadcast, roundingControl, sae, opmask, zeroing]
  name
    | noPrefix => "np"
    | fwait => "fwait"
    | lig => "lig"
    | broadcast => "b"
    | roundingControl => "er"
    | sae => "sae"
    | opmask => "k1"
    | zeroing => "z"
  mem_all a := by cases a <;> decide
  nodup_names := by decide

/-- Whether lines of the encoding may use the switch. -/
def isFor (e : Encoding) : Switch → Bool
  | noPrefix | fwait => e == .legacy
  | lig | broadcast | roundingControl | sae | opmask | zeroing => e == .evex

end Switch

/-- What one word of a table line says. -/
inductive Assignment where
  | opcode (n : Nat)
  | operands (indices : List Nat)
  | encodable (a : Encodable)
  | prefixByte (a : PrefixByte)
  | legacyMap (a : LegacyMap)
  | vectorMap (a : VectorMap)
  | xopMap (a : XopMap)
  | group (n : Nat)
  | allowedPrefixes (a : AllowedPrefixes)
  | operandSize (a : Width)
  | addressSize (a : Width)
  | vexLength (a : VexLength)
  | xopLength (a : XopLength)
  | w (a : WBit)
  | tupleType (a : TupleType)
  | evexLength (n : Nat)
  | switch (s : Switch)
deriving DecidableEq

/-- The attributes after an assignment. -/
def Attributes.assign (a : Attributes) : Assignment → Attributes
  | .opcode n => { a with opcode := some n }
  | .operands indices => { a with operands := indices }
  | .encodable v => { a with encodable := v }
  | .prefixByte v => { a with prefixByte := v }
  | .legacyMap v => { a with legacyMap := v }
  | .vectorMap v => { a with vectorMap := v }
  | .xopMap v => { a with xopMap := v }
  | .group n => { a with group := some n }
  | .allowedPrefixes v => { a with allowedPrefixes := v }
  | .operandSize v => { a with operandSize := v }
  | .addressSize v => { a with addressSize := v }
  | .vexLength v => { a with vexLength := v }
  | .xopLength v => { a with xopLength := v }
  | .w v => { a with w := v }
  | .tupleType v => { a with tupleType := v }
  | .evexLength n => { a with evexLength := n }
  | .switch .noPrefix => { a with noPrefix := true }
  | .switch .fwait => { a with fwait := true }
  | .switch .lig => { a with lig := true }
  | .switch .broadcast => { a with broadcast := true }
  | .switch .roundingControl => { a with roundingControl := true }
  | .switch .sae => { a with sae := true }
  | .switch .opmask => { a with opmask := true }
  | .switch .zeroing => { a with zeroing := true }

namespace Assignment

/-- The index of a listed operand, which is not that of an unused slot. -/
def operandIndex (e : Encoding) (name : List Char) : Except RecordError Nat :=
  match OperandCode.indexOf? e name with
  | none => .error (.unknownOperand e name)
  | some 0 => .error (.implicitOperand name)
  | some i => .ok i

/-- The operand indices of a list of names with commas between them. Empty names do not count. -/
def readOperands (e : Encoding) (value : List Char) : Except RecordError (List Nat) :=
  let names := (value.splitOn ',').filter fun name => !name.isEmpty
  if e = .threeDNow then .error .fixedOperands
  else if e.opSlots < names.length then .error (.tooManyOperands e names.length)
  else names.mapM (operandIndex e)

/-- The value of a key, if the encoding gives it one. The operands have errors of their own and
are left to `readOperands`. -/
def value? (e : Encoding) (key : Key) (s : List Char) : Option Assignment :=
  match key with
  | .opcode => (Text.hexAtMost? 0xffff s).map opcode
  | .operands => none
  | .encodable => (Enumeration.ofName? s).map encodable
  | .prefixByte => (Enumeration.ofName? s).map prefixByte
  | .table =>
    match e with
    | .legacy => (Enumeration.ofName? s).map legacyMap
    | .vex | .evex => (Enumeration.ofName? s).map vectorMap
    | .xop => (Enumeration.ofName? s).map xopMap
    | .threeDNow => none
  | .group => (Text.hexAtMost? 7 s).map group
  | .allowedPrefixes => (Enumeration.ofName? s).map allowedPrefixes
  | .operandSize => (Enumeration.ofName? s).map operandSize
  | .addressSize => (Enumeration.ofName? s).map addressSize
  | .length =>
    match e with
    | .vex => (Enumeration.ofName? s).map vexLength
    | .xop => (Enumeration.ofName? s).map xopLength
    | .legacy | .evex | .threeDNow => none
  | .w => (Enumeration.ofName? s).map w
  | .tupleType => (Enumeration.ofName? s).map tupleType
  | .evexLength => (Text.hexAtMost? 3 s).map evexLength

/-- Reads `key=value`. -/
def ofKeyValue (e : Encoding) (key value : List Char) : Except RecordError Assignment :=
  match (Enumeration.ofName? key : Option Key) with
  | none => .error (.unexpectedKey e key)
  | some k =>
    if !k.isFor e then .error (.unexpectedKey e key)
    else if k = .operands then (readOperands e value).map operands
    else
      match value? e k value with
      | some a => .ok a
      | none => .error (.invalidValue key value)

/-- Reads a word that stands alone. -/
def ofSwitch (e : Encoding) (key : List Char) : Except RecordError Assignment :=
  match (Enumeration.ofName? key : Option Switch) with
  | none => .error (.unexpectedSwitch e key)
  | some s => if s.isFor e then .ok (switch s) else .error (.unexpectedSwitch e key)

/-- The key of a word: all of it, or what stands before the first `=`. -/
def keyOf (word : List Char) : List Char :=
  Text.before '=' word

/-- Reads a word of a table line. -/
def ofWord (e : Encoding) (word : List Char) : Except RecordError Assignment :=
  match Text.after? '=' word with
  | some value => ofKeyValue e (keyOf word) value
  | none => ofSwitch e word

/-- Reads words one after the other, given the keys of the words before them. -/
def ofWords (e : Encoding) (seen : List (List Char)) :
    List (List Char) → Except RecordError (List Assignment)
  | [] => .ok []
  | word :: words =>
    if seen.contains (keyOf word) then .error (.duplicateKey (keyOf word))
    else do
      let a ← ofWord e word
      let as ← ofWords e (keyOf word :: seen) words
      return a :: as

end Assignment

end OpcodeForms
