import OpcodeForms.Proofs.CheckedSteps
import OpcodeForms.Proofs.Records

/-!
# Records under construction

The words of a record are not assembled at the end of a line. The program starts with the words of
a record without attributes and writes each attribute into its field when it comes to the word
that gives it. `Builder.read` reads a line in this way, with the steps written out that make sense
for some arguments only: a value has to fit into the field that it is written to, the field has to
lie in the word, and an operand needs a slot. Where one makes no sense, there is no result at all,
neither a record nor an error.
-/

namespace OpcodeForms

/-- A record under construction. -/
structure Builder where
  encoding : Encoding
  word1 : UInt32
  word2 : UInt32
  word3 : UInt32
  opCount : UInt8
  hasOpcode : Bool
  /-- The keys so far, the last one first. -/
  keys : List (List Char)

namespace Builder

open Checked (defined)

/-! ## Steps -/

/-- A record without attributes. -/
def new (e : Encoding) : Option Builder := do
  let word1 ← Layout.encoding.write? 0 (Attributes.rawWord e)
  let word2 ←
    match e with
    | .vex => Layout.Vex.vectorLength.write? 0 (Attributes.rawWord VexLength.l128)
    | .xop => Layout.Xop.vectorLength.write? 0 (Attributes.rawWord XopLength.l128)
    | .legacy | .evex | .threeDNow => some 0
  return {
    encoding := e, word1, word2, word3 := 0
    opCount := if e = .threeDNow then 2 else 0, hasOpcode := false, keys := [] }

variable (b : Builder)

/-- Writes a value into a field of the second word. -/
def write2 (f : Field) (v : UInt32) : Checked RecordError Builder := do
  let word2 ← f.write? b.word2 v
  return { b with word2 }

/-- Reads a number of hexadecimal digits up to a bound. -/
def hex (key value : List Char) (bound : UInt32) : Checked RecordError UInt32 :=
  match Text.hexAtMost? bound.toNat value with
  | some n => return UInt32.ofNat n
  | none => throw (.invalidValue key value)

/-- Writes the member of an enumeration that the value names. -/
def setMember (α : Type) [DecidableEq α] [Enumeration α] (f : Field) (key value : List Char) :
    Checked RecordError Builder :=
  match (Enumeration.ofName? value : Option α) with
  | some a => b.write2 f (Attributes.rawWord a)
  | none => throw (.invalidValue key value)

/-- Writes the index of an operand into its slot. -/
def setOperand (slot : Nat) (name : List Char) : Checked RecordError Builder := do
  let index ← defined (Assignment.operandIndex b.encoding name)
  let f ← (Layout.word3[slot]? : Option Field)
  let word3 ← f.write? b.word3 (UInt32.ofNat index)
  return { b with word3 }

/-- Writes the indices of the listed operands, one slot after the other. -/
def setOperands (value : List Char) : Checked RecordError Builder :=
  let names := Assignment.operandNames value
  if b.encoding = .threeDNow then throw .fixedOperands
  else if b.encoding.opSlots < names.length then
    throw (.tooManyOperands b.encoding names.length)
  else do
    let b ← names.zipIdx.foldlM (fun b entry => b.setOperand entry.2 entry.1) b
    return { b with opCount := UInt8.ofNat names.length }

/-- Writes the opcode map that the value names in the encoding. -/
def setTable (f : Field) (key value : List Char) : Checked RecordError Builder :=
  match b.encoding with
  | .legacy => b.setMember LegacyMap f key value
  | .vex | .evex => b.setMember VectorMap f key value
  | .xop => b.setMember XopMap f key value
  | .threeDNow => throw (.invalidValue key value)

/-- Writes the value of the key `k`, which is called `key`. -/
def setKey (k : Key) (key value : List Char) : Checked RecordError Builder :=
  match b.encoding, k, Layout.shared? b.encoding with
  | _, .opcode, _ => do
    let opcode ← hex key value Layout.opcode.max
    let word1 ← Layout.opcode.write? b.word1 opcode
    return { b with word1, hasOpcode := true }
  | _, .operands, _ => b.setOperands value
  | .threeDNow, .encodable, _ =>
    b.setMember Encodable Layout.ThreeDNow.encodable key value
  | _, .encodable, some fs => b.setMember Encodable fs.encodable key value
  | _, .prefixByte, some fs => b.setMember PrefixByte fs.prefixByte key value
  | _, .table, some fs => b.setTable fs.table key value
  | _, .group, some fs => do
    let group ← hex key value fs.group.max
    let b ← b.write2 fs.hasGroup 1
    b.write2 fs.group group
  | .legacy, .allowedPrefixes, _ =>
    b.setMember AllowedPrefixes Layout.Legacy.allowedPrefixes key value
  | .legacy, .operandSize, _ => b.setMember Width Layout.Legacy.operandSize key value
  | .legacy, .addressSize, _ => b.setMember Width Layout.Legacy.addressSize key value
  | .vex, .length, _ => b.setMember VexLength Layout.Vex.vectorLength key value
  | .xop, .length, _ => b.setMember XopLength Layout.Xop.vectorLength key value
  | .vex, .w, _ => b.setMember WBit Layout.Vex.w key value
  | .evex, .w, _ => b.setMember WBit Layout.Evex.w key value
  | .xop, .w, _ => b.setMember WBit Layout.Xop.w key value
  | .evex, .tupleType, _ => b.setMember TupleType Layout.Evex.tupleType key value
  | .evex, .evexLength, _ => do
    let length ← hex key value Layout.Evex.vectorLength.max
    b.write2 Layout.Evex.vectorLength length
  | e, _, _ => throw (.unexpectedKey e key)

/-- Writes the value of a key. -/
def set (key value : List Char) : Checked RecordError Builder :=
  match (Enumeration.ofName? key : Option Key) with
  | some k => b.setKey k key value
  | none => throw (.unexpectedKey b.encoding key)

/-- Turns the switch `s` on, which is called `key`. -/
def turnOn (s : Switch) (key : List Char) : Checked RecordError Builder :=
  match b.encoding, s with
  | .legacy, .noPrefix => b.write2 Layout.Legacy.noPrefix 1
  | .legacy, .fwait => b.write2 Layout.Legacy.fwait 1
  | .evex, .lig => b.write2 Layout.Evex.lig 1
  | .evex, .broadcast => b.write2 Layout.Evex.broadcast 1
  | .evex, .roundingControl => b.write2 Layout.Evex.roundingControl 1
  | .evex, .sae => b.write2 Layout.Evex.sae 1
  | .evex, .opmask => b.write2 Layout.Evex.opmask 1
  | .evex, .zeroing => b.write2 Layout.Evex.zeroing 1
  | e, _ => throw (.unexpectedSwitch e key)

/-- Turns a switch on. -/
def setSwitch (key : List Char) : Checked RecordError Builder :=
  match (Enumeration.ofName? key : Option Switch) with
  | some s => b.turnOn s key
  | none => throw (.unexpectedSwitch b.encoding key)

/-- Takes a word of the line. -/
def token (word : List Char) : Checked RecordError Builder :=
  let key := Assignment.keyOf word
  if b.keys.contains key then throw (.duplicateKey key)
  else
    let b := { b with keys := key :: b.keys }
    match Text.after? '=' word with
    | some value => b.set key value
    | none => b.setSwitch word

/-- The record, if the opcode has been given. -/
def finish (name mnemonic : List Char) : Checked RecordError Record :=
  if b.hasOpcode then
    return {
      name, mnemonic, encoding := b.encoding, opCount := b.opCount.toNat
      packed := { word1 := b.word1, word2 := b.word2, word3 := b.word3 } }
  else throw .missingOpcode

/-- Builds the record of the words after the encoding. -/
def build (name mnemonic : List Char) (e : Encoding) (ws : List (List Char)) :
    Checked RecordError Record := do
  let b ← new e
  let b ← ws.foldlM token b
  b.finish name mnemonic

/-- Reads a table line. -/
def read (line : List Char) : Checked RecordError Record :=
  match Text.words line with
  | [] => throw .missingName
  | name :: rest =>
    if !Record.isName name then throw (.invalidName name)
    else
      match rest with
      | [] => throw .missingMnemonic
      | [_] => throw .missingEncoding
      | mnemonic :: encoding :: ws =>
        match (Enumeration.ofName? encoding : Option Encoding) with
        | none => throw (.invalidValue "encoding".toList encoding)
        | some e => build name mnemonic e ws

end Builder

end OpcodeForms
