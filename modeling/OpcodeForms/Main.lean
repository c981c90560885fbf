import OpcodeForms.Catalogue.Builtin
import OpcodeForms.CommandLine.Answer

/-!
# The program

Shows the forms of the built-in catalogue that the arguments ask for.
-/

open OpcodeForms

/-- Prints what the arguments ask of the catalogue. -/
def OpcodeForms.Catalogue.printAnswer (c : Catalogue) (args : List String) : IO UInt32 := do
  let terminal ← (← IO.getStdout).isTty
  match c.infos with
  | .error e =>
    IO.eprintln e.message
    return 1
  | .ok infos =>
    match CommandLine.answer infos terminal (args.map String.toList) with
    | .ok output =>
      IO.print (String.ofList output)
      return 0
    | .error e =>
      IO.eprintln ("Error: " ++ ((e.report?.map String.ofList).getD "unusable arguments"))
      return 1

/-- Prints the answer to the arguments. The exit status is zero unless there is none. -/
def main (args : List String) : IO UInt32 := do
  match Catalogue.builtin with
  | .error e =>
    IO.eprintln (e.message Catalogue.builtinPath)
    return 1
  | .ok catalogue => catalogue.printAnswer args
