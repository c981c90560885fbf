/-!
# Numerals

Reading and writing of unsigned numbers in a base.

A numeral is read digit by digit from the left. An optional `+` may precede it. The first thing
that goes wrong is what is reported: a character that is no digit, or a value that has grown
beyond 32 bits.
-/

namespace OpcodeForms.Text

/-- Why a numeral is rejected. -/
inductive NumeralError where
  /-- There are no characters at all. -/
  | empty
  /-- A character is no digit of the base, or a sign stands alone. -/
  | invalidDigit
  /-- The value does not fit in 32 bits. -/
  | tooLarge
deriving DecidableEq, Repr

/-- The reason in words. -/
def NumeralError.message : NumeralError → String
  | .empty => "cannot parse integer from empty string"
  | .invalidDigit => "invalid digit found in string"
  | .tooLarge => "number too large to fit in target type"

/-- The value of a digit in base 16, in either case. -/
def digitValue? (c : Char) : Option Nat :=
  let n := c.toNat
  if 0x30 ≤ n && n ≤ 0x39 then some (n - 0x30)
  else if 0x61 ≤ n && n ≤ 0x66 then some (n - 0x61 + 10)
  else if 0x41 ≤ n && n ≤ 0x46 then some (n - 0x41 + 10)
  else none

/-- Continues reading after digits with the value `n`. -/
def readDigits (base : Nat) (n : Nat) : List Char → Except NumeralError Nat
  | [] => .ok n
  | c :: r =>
    match digitValue? c with
    | none => .error .invalidDigit
    | some d =>
      if d < base then
        if n * base + d < UInt32.size then readDigits base (n * base + d) r else .error .tooLarge
      else .error .invalidDigit

/-- Reads an unsigned 32-bit number in a base up to 16. -/
def readNumeral (base : Nat) : List Char → Except NumeralError Nat
  | [] => .error .empty
  | ['+'] => .error .invalidDigit
  | '+' :: r => readDigits base 0 r
  | s => readDigits base 0 s

/-- The number that a hexadecimal numeral denotes, if it is at most `max`. -/
def hexAtMost? (max : Nat) (s : List Char) : Option Nat :=
  match readNumeral 16 s with
  | .ok n => if n ≤ max then some n else none
  | .error _ => none

/-- The decimal digits of `n`. -/
def decimal (n : Nat) : List Char :=
  Nat.toDigits 10 n

/-- The text with as many `pad` characters in front as bring its length to `width`. -/
def padLeft (pad : Char) (width : Nat) (s : List Char) : List Char :=
  List.replicate (width - s.length) pad ++ s

/-- The hexadecimal digits of `n` in lower case, at least `width` of them. -/
def hexLower (width n : Nat) : List Char :=
  padLeft '0' width (Nat.toDigits 16 n)

/-- The hexadecimal digits of `n` in upper case, at least `width` of them. -/
def hexUpper (width n : Nat) : List Char :=
  (hexLower width n).map Char.toUpper

example : hexUpper 2 0x9a = "9A".toList := by decide

end OpcodeForms.Text
