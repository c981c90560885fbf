import OpcodeForms.CommandLine.Argument
import OpcodeForms.CommandLine.Settings
import OpcodeForms.Text.Fill
import OpcodeForms.Text.Numeral

/-!
# Requests

The settings that the arguments ask for. The options are read one after the other, in a fixed
order that is not the order of the arguments, and the first fault ends the reading. Only then are
arguments complained of that no option has taken: those that there are not, and options that come
again. `--encoding` alone may come any number of times.
-/

namespace OpcodeForms.CommandLine

/-- What is wrong with the value of an option. -/
inductive ValueFault where
  | encoding (name : List Char)
  /-- The number of bits is no number. -/
  | number (e : Text.NumeralError)
  /-- No mode has this number of bits. -/
  | bitness
  | format
  | column (name : List Char)
  | color (name : List Char)
deriving DecidableEq

/-- Why arguments are rejected. -/
inductive ArgumentError where
  | missingValue (k : Key)
  | invalidValue (value : List Char) (fault : ValueFault)
  /-- There is an argument that no option takes. -/
  | unexpected
deriving DecidableEq

/-! ## Reports -/

namespace ValueFault

/-- The fault in words. -/
def reason : ValueFault → List Char
  | encoding name => "invalid encoding ".toList ++ name
  | number e => e.message.toList
  | bitness => "bitness must be 16, 32 or 64".toList
  | format => "invalid output format".toList
  | column name => "invalid column ".toList ++ name
  | color name => "invalid color ".toList ++ name

/-- What a report says before it names the value. A value that can be read and is refused
afterwards comes first. -/
def opening : ValueFault → List Char
  | bitness => []
  | encoding _ | number _ | format | column _ | color _ => "couldn't parse ".toList

/-- The width of the lines of a report. -/
def reportWidth : Nat := 100

/-- The text that reports the fault of a value. It names the value and gives the reason. -/
def report (value : List Char) (fault : ValueFault) : List Char :=
  let opened := Text.Filled.fill reportWidth {} fault.opening
  let named := ((opened.write ['\x60']).fill reportWidth value).write ['\x60']
  (named.fill reportWidth (": ".toList ++ fault.reason)).text

end ValueFault

/-- The text that reports why the arguments are rejected, if a value is at fault. -/
def ArgumentError.report? : ArgumentError → Option (List Char)
  | .missingValue _ | .unexpected => none
  | .invalidValue value fault => some (fault.report value)

/-! ## Values -/

/-- The words between the commas of a value, without the blanks around them. Empty words do not
count. -/
def listWords (value : List Char) : List (List Char) :=
  ((value.splitOn ',').map Text.trim).filter fun word => !word.isEmpty

/-- The members of an enumeration that the words name, or the first word that names none. -/
def readNames {α : Type} [DecidableEq α] [Enumeration α] (invalid : List Char → ValueFault)
    (words : List (List Char)) : Except ValueFault (List α) :=
  words.mapM fun word =>
    match Enumeration.ofName? word with
    | some a => .ok a
    | none => .error (invalid word)

/-- The number of bits of a mode. -/
def readBitness (value : List Char) : Except ValueFault Nat :=
  match Text.readNumeral 10 value with
  | .error e => .error (.number e)
  | .ok n => if n = 16 || n = 32 || n = 64 then .ok n else .error .bitness

/-- The format of the output. -/
def readFormat (value : List Char) : Except ValueFault Format :=
  match Enumeration.ofName? value with
  | some f => .ok f
  | none => .error .format

/-- Whether tables are colored. `auto` leaves it to the terminal. -/
def readColor (terminal : Bool) (value : List Char) : Except ValueFault Bool :=
  if value = "off".toList then .ok false
  else if value = "on".toList then .ok true
  else if value = "auto".toList then .ok terminal
  else .error (.color value)

/-! ## Options -/

namespace Item

/-- Whether the option is used. -/
def isUsed (k : Key) (items : List Item) : Bool :=
  !(uses k items).isEmpty

/-- What `read` makes of the value at the first use of an option, or `default` where it is not
used. -/
def readFirst {α : Type} (k : Key) (items : List Item) (default : α)
    (read : List Char → Except ValueFault α) : Except ArgumentError α :=
  match uses k items with
  | [] => .ok default
  | none :: _ => .error (.missingValue k)
  | some value :: _ => (read value).mapError (.invalidValue value)

/-- The values at all uses of an option. -/
def valuesOf (k : Key) (items : List Item) : Except ArgumentError (List (List Char)) :=
  (uses k items).mapM fun
    | some value => .ok value
    | none => .error (.missingValue k)

/-- The encodings that all uses of `--encoding` name. A fault is held against the value of the last
use, whichever use it is in. -/
def readEncodings (items : List Item) : Except ArgumentError (List Encoding) := do
  let values ← valuesOf .encoding items
  (readNames .encoding (values.flatMap listWords)).mapError (.invalidValue (values.getLastD []))

/-- Whether more is given of the option than it takes. -/
def isExcessive (items : List Item) (k : Key) : Bool :=
  (k != .encoding && 1 < (uses k items).length)
    || (!k.takesValue && (uses k items).any Option.isSome)

end Item

/-- The settings that the items of a command line ask for. On a terminal that shows colors tables
are colored unless the settings say otherwise. -/
def Settings.ofItems (terminal : Bool) (items : List Item) : Except ArgumentError Settings := do
  let encodings ← Item.readEncodings items
  let mnemonic ← Item.readFirst .mnemonic items none fun value =>
    .ok (some (Text.lowerForSearch value))
  let bitness ← Item.readFirst .bitness items none fun value => (readBitness value).map some
  let format ← Item.readFirst .format items .table readFormat
  let columns ← Item.readFirst .columns items Column.defaults fun value =>
    readNames .column (listWords value)
  let color ← Item.readFirst .color items terminal (readColor terminal)
  if items.contains .unknown || Enumeration.all.any (Item.isExcessive items) then
    throw .unexpected
  return {
    encodings, mnemonic, bitness, format, columns, color
    pseudo := Item.isUsed .pseudo items
    header := !Item.isUsed .noHeader items
    names := Item.names items }

end OpcodeForms.CommandLine
