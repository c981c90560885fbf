import OpcodeForms.Enumeration
import OpcodeForms.Text.Split

/-!
# Arguments

The arguments of the command line are options, their values and names, in any order.

An option has a long name, and many have a letter too: `--columns` and `-c`. A value follows its
option as the next argument or is attached to it: `--columns=V`, `-c=V` or `-cV`. Letters of
options without a value may stand together, and the letter of an option with a value may follow
them. Where an equals sign comes anywhere after a letter, there is no second letter: all that
follows the first one is attached to it.

What is not an option is a word: a name, or the value of the option before it. That goes for an
argument with one dash and several letters too, unless all the letters are those of options: `-hx`
is a word. A letter alone is always an option, be there one or not: `-x` is an unknown one. After
`--` all arguments are names.
-/

namespace OpcodeForms.CommandLine

/-- The options. -/
inductive Key where
  | encoding
  | mnemonic
  | bitness
  | pseudo
  | format
  | columns
  | noHeader
  | color
  | help
  | version
deriving DecidableEq, Repr

namespace Key

instance : Enumeration Key where
  all := [encoding, mnemonic, bitness, pseudo, format, columns, noHeader, color, help, version]
  name
    | encoding => "encoding"
    | mnemonic => "mnemonic"
    | bitness => "bitness"
    | pseudo => "pseudo"
    | format => "format"
    | columns => "columns"
    | noHeader => "no-header"
    | color => "color"
    | help => "help"
    | version => "version"
  mem_all a := by cases a <;> decide
  nodup_names := by decide

/-- The letter of the option. -/
def letter? : Key → Option Char
  | encoding => some 'e'
  | mnemonic => some 'm'
  | bitness => some 'b'
  | format => some 'f'
  | columns => some 'c'
  | help => some 'h'
  | version => some 'V'
  | pseudo | noHeader | color => none

/-- The option with the letter. -/
def ofLetter? (c : Char) : Option Key :=
  Enumeration.all.find? fun k => letter? k == some c

/-- Whether the option has a value. -/
def takesValue : Key → Bool
  | encoding | mnemonic | bitness | format | columns | color => true
  | pseudo | noHeader | help | version => false

end Key

/-- An argument, or a part of one. -/
inductive Token where
  /-- An option and the value attached to it. -/
  | option (k : Key) (attached : Option (List Char))
  /-- A word that is the value of the option before it, if that lacks one, and a name otherwise. -/
  | word (s : List Char)
  /-- A word that is a name in any case. -/
  | name (s : List Char)
  /-- An option that there is not. -/
  | unknown
deriving DecidableEq

namespace Token

/-- The option with the letter, and the value attached to it. -/
def ofLetter (c : Char) (attached : Option (List Char)) : Token :=
  match Key.ofLetter? c with
  | some k => option k attached
  | none => unknown

/-- The options whose letters stand together, if there are options with all the letters. What
follows the letter of an option with a value is its value. -/
def ofLetters? : List Char → Option (List Token)
  | [] => some []
  | c :: rest =>
    match Key.ofLetter? c with
    | none => none
    | some k =>
      if k.takesValue then some [option k (if rest.isEmpty then none else some rest)]
      else (ofLetters? rest).map (option k none :: ·)

/-- The options of an argument that begins with one dash, if it is no word. A letter to which a
value is attached is an ASCII character. -/
def ofShort? (c : Char) (rest : List Char) : Option (List Token) :=
  if rest.isEmpty then some [ofLetter c none]
  else if rest.contains '=' then
    let value := if rest.head? = some '=' then rest.tail else rest
    if c.toNat < 0x80 then some [ofLetter c (some value)] else none
  else ofLetters? (c :: rest)

/-- The option of an argument that begins with two dashes. -/
def ofLong (s : List Char) : Token :=
  match (Enumeration.ofName? (Text.before '=' s) : Option Key) with
  | some k => option k (Text.after? '=' s)
  | none => unknown

/-- The parts of an argument. A single dash is a word. -/
def ofArgument : List Char → List Token
  | '-' :: '-' :: s => [ofLong s]
  | '-' :: c :: s => (ofShort? c s).getD [word ('-' :: c :: s)]
  | s => [word s]

/-- The parts of all arguments. -/
def ofArguments : List (List Char) → List Token
  | [] => []
  | a :: rest => if a = ['-', '-'] then rest.map name else ofArgument a ++ ofArguments rest

end Token

/-- What a command line holds. -/
inductive Item where
  /-- An option with its value. The value is missing where there is none, needed or not. -/
  | option (k : Key) (value : Option (List Char))
  | name (s : List Char)
  | unknown
deriving DecidableEq

namespace Item

/-- Gives options their values. -/
def ofTokens : List Token → List Item
  | [] => []
  | .option k (some value) :: rest => option k (some value) :: ofTokens rest
  | .option k none :: .word s :: rest =>
    if k.takesValue then option k (some s) :: ofTokens rest
    else option k none :: name s :: ofTokens rest
  | .option k none :: rest => option k none :: ofTokens rest
  | .word s :: rest | .name s :: rest => name s :: ofTokens rest
  | .unknown :: rest => unknown :: ofTokens rest

/-- What the arguments hold. -/
def ofArguments (args : List (List Char)) : List Item :=
  ofTokens (Token.ofArguments args)

/-- The values of all uses of an option, in order. -/
def uses (k : Key) (items : List Item) : List (Option (List Char)) :=
  items.filterMap fun
    | option k' value => if k' = k then some value else none
    | name _ | unknown => none

/-- The names, in order. -/
def names (items : List Item) : List (List Char) :=
  items.filterMap fun
    | name s => some s
    | option _ _ | unknown => none

end Item

end OpcodeForms.CommandLine
