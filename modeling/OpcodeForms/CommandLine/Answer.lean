import OpcodeForms.CommandLine.Request
import OpcodeForms.CommandLine.Sheet

/-!
# The answer to a command line

Help comes before all else, then the version. Other arguments either make up settings or are
rejected as a whole.
-/

namespace OpcodeForms.CommandLine

/-- Why there is no output. -/
inductive CommandError where
  | argument (e : ArgumentError)
  | usage (e : UsageError)
deriving DecidableEq

/-- The text that reports the reason, where there is one to tell. -/
def CommandError.report? : CommandError → Option (List Char)
  | .argument e => e.report?
  | .usage e => some e.message.toList

/-- The lines of the help text. -/
def helpLines : List String :=
  ["Show encoding metadata of x86/x64 opcode forms",
    "",
    "Usage: opinfo [-e=KIND]... [-m=TEXT] [-b=BITS] [--pseudo] [-f=FORMAT] [-c=LIST] "
      ++ "[--no-header] [",
    "--color=MODE] [NAME]...",
    "",
    "Available positional items:",
    "    NAME                 Only show the opcodes named NAME, case insensitive",
    "",
    "Available options:",
    "    -e, --encoding=KIND  Only show opcodes of encoding KIND [legacy, vex, evex, xop, 3dnow]",
    "    -m, --mnemonic=TEXT  Only show opcodes whose mnemonic contains TEXT",
    "    -b, --bitness=BITS   Only show opcodes available in BITS mode [16, 32, 64]",
    "        --pseudo         Include INVALID and the data-declaration pseudo-ops",
    "    -f, --format=FORMAT  Output format [default: table, valid formats: table, csv]",
    "    -c, --columns=LIST   Comma separated list of columns [default: "
      ++ "name,opcode,instruction, valid",
    "                         columns: code, name, encoding, opcode, instruction, "
      ++ "modes, table, prefix,",
    "                         tuple, ops]",
    "        --no-header      Do not print the column titles",
    "        --color=MODE     Enable or disable color output [default: auto, valid "
      ++ "modes: off, on, auto]",
    "    -h, --help           Prints help information",
    "    -V, --version        Prints version information",
    ""]

/-- The lines that name the version. -/
def versionLines : List String :=
  ["Version: 0.1.0", ""]

/-- What the program prints for the arguments, out of the given forms. -/
def answer (infos : List Info) (terminal : Bool) (args : List (List Char)) :
    Except CommandError (List Char) :=
  let items := Item.ofArguments args
  if Item.isUsed .help items then .ok (Text.unlines (helpLines.map String.toList))
  else if Item.isUsed .version items then .ok (Text.unlines (versionLines.map String.toList))
  else
    match Settings.ofItems terminal items with
    | .error e => .error (.argument e)
    | .ok settings =>
      match settings.print infos with
      | .error e => .error (.usage e)
      | .ok output => .ok output

end OpcodeForms.CommandLine
