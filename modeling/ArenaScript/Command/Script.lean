import ArenaScript.Command.Outcome
import ArenaScript.Compiled.Writer
import ArenaScript.Files
import ArenaScript.Script.Parser

/-!
The command for scripts: check one, print it in canonical form, or compile it.
-/

namespace ArenaScript

namespace Command

inductive ScriptCommand
  | check (path : String)
  | render (path : String)
  | compile (path : String) (out : Option String)

def ScriptCommand.ofArgs (args : List String) : Except Stop ScriptCommand := do
  let (name, args) ← subcommand args
  match name with
  | "check" => return .check (← (← scan {} {} args).requiredPath)
  | "render" => return .render (← (← scan {} {} args).requiredPath)
  | "compile" =>
    let found ← scan { valued := ["out"] } {} args
    return .compile (← found.requiredPath) (found.values.lookup "out")
  | "help" => .error .help
  | _ => .error .misuse

variable {m : Type → Type} [Monad m] [Storage m]

def withScript (path : String) (next : Program → Store → m Outcome) : m Outcome := do
  match ← Storage.readText path with
  | .error fault => return failure false ["unable to read '" ++ path ++ "'", fault.message]
  | .ok text =>
    match Program.parseFresh text with
    | .error e => return parserFailure false e
    | .ok (program, store) => next program store

def ScriptCommand.run : ScriptCommand → m Outcome
  | .check path => withScript path fun program store =>
    return success
      (path ++ ": ok (" ++ decimal program.statements.length ++ " statements, "
        ++ decimal store.size ++ " variables)\n")
  | .render path => withScript path fun program _ => return success (program.render ++ "\n")
  | .compile path out => withScript path fun program _ => do
    match program.compile?, out with
    | none, _ => return failure false ["while compiling to RON", "<ron error>"]
    | some text, none => return success (text ++ "\n")
    | some text, some target =>
      match ← Storage.writeText target text with
      | .ok () => return success ""
      | .error fault => return failure false ["writing '" ++ target ++ "'", fault.message]

def script (args : List String) : m Outcome :=
  match ScriptCommand.ofArgs args with
  | .ok command => command.run
  | .error stop => return stopped "robo_script" "robo_script check|render|compile PATH" stop

end Command

end ArenaScript
