import OpcodeForms.Catalogue.Basic
import OpcodeForms.Expectation.Run

/-!
# Catalogues against expectation files

An entry of an expectation file names a form of the catalogue. Its fields are the opcode and the
instruction string of the form, and its flags say in which modes the form is available.
-/

namespace OpcodeForms.Catalogue

/-- What the flag of a mode begins with. -/
def modeStem : List Char := "mode".toList

/-- The number of bits that the name of a flag speaks of: zero, which is no mode, where it speaks
of none. -/
def flagBitness (flag : List Char) : Nat :=
  if modeStem.isPrefixOf flag then
    ((Text.readNumeral 10 (flag.drop modeStem.length)).toOption).getD 0
  else 0

/-- Checks that a form is available in the modes of the flags that are set, and not in those of
the flags that are cleared. -/
def checkFlags (info : Info) : List (List Char × Bool) → Except String Unit
  | [] => .ok ()
  | (flag, state) :: rest =>
    match info.isAvailableInMode (flagBitness flag) with
    | .error e => .error e.message
    | .ok available =>
      if available = state then checkFlags info rest
      else .error s!"{String.ofList info.form.name} is not {String.ofList flag}={state}"

/-- Renders the fields of the form that an entry names. -/
def render (c : Catalogue) : Expectation.Renderer := fun entry =>
  match c.find? entry.name with
  | none => .error s!"unknown opcode {String.ofList entry.name}"
  | some e =>
    match Info.decode e.form e.packed with
    | .error e => .error e.message
    | .ok info => do
      checkFlags info (Expectation.flags entry.comment)
      return [info.opcodeText, info.instructionText]

end OpcodeForms.Catalogue
