import ArenaScript.Command.Outcome
import ArenaScript.Compiled.Decoder
import ArenaScript.Files
import ArenaScript.Program.Defect

/-!
The command that prints a compiled program as a script.
-/

namespace ArenaScript

namespace Command

structure DecompileCommand where
  path : String
  validate : Bool

def DecompileCommand.ofArgs (args : List String) : Except Stop DecompileCommand := do
  let found ← scan { flags := ["no-validate"], hasVersion := true } {} args
  return ⟨← found.requiredPath, !found.flags.contains "no-validate"⟩

/-- A failure with its causes on lines of their own. -/
def listedFailure (outer : String) (cause : Option String) : Outcome :=
  let causes := match cause with
    | none => ""
    | some text => "\n\nCaused by:\n    " ++ text
  { code := 1, err := "Error: " ++ outer ++ causes ++ "\n" }

/-- Prints a program, unless it has defects and they count. -/
def DecompileCommand.print (c : DecompileCommand) (program : Program) : Outcome :=
  let defects := if c.validate then program.defects else []
  if defects.isEmpty then success (program.render ++ "\n")
  else
    let list := String.join (defects.map fun d => "  - " ++ d.message ++ "\n")
    let last := listedFailure
      (decimal defects.length ++ " validation error(s) in '" ++ c.path ++ "'") none
    { last with err := list ++ last.err }

def DecompileCommand.run {m : Type → Type} [Monad m] [Storage m] (c : DecompileCommand) :
    m Outcome := do
  match ← Storage.readText c.path with
  | .error fault => return listedFailure ("reading '" ++ c.path ++ "'") (some fault.message)
  | .ok text =>
    match Program.decode text with
    | .error _ =>
      return listedFailure ("parsing program RON from '" ++ c.path ++ "'") (some "<ron error>")
    | .ok program => return c.print program

def decompile {m : Type → Type} [Monad m] [Storage m] (args : List String) : m Outcome :=
  match DecompileCommand.ofArgs args with
  | .ok command => command.run
  | .error stop => return stopped "robo_script" "ron_to_script [--no-validate] PATH" stop

end Command

end ArenaScript
