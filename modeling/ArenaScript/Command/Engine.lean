import ArenaScript.Command.Outcome
import ArenaScript.Exec.Run
import ArenaScript.Settings.Load

/-!
The command that runs a program on a scripted host and prints what the host did.
-/

namespace ArenaScript

namespace Command

structure EngineCommand where
  path : String
  settings : Option String
  ticks : Option Nat

def EngineCommand.ofArgs (args : List String) : Except Stop EngineCommand := do
  let (name, args) ← subcommand args
  match name with
  | "run" =>
    let found ← scan { valued := ["config", "ticks"] } {} args
    let path ← found.requiredPath
    let settings := found.values.lookup "config"
    match found.values.lookup "ticks" with
    | none => return ⟨path, settings, none⟩
    | some text =>
      match count? text with
      | some n => return ⟨path, settings, some n⟩
      | none => .error .misuse
  | "help" => .error .help
  | _ => .error .misuse

/-- A number right-aligned in four columns. -/
def column (n : Nat) : String :=
  let digits := decimal n
  String.ofList (List.replicate (4 - digits.length) ' ') ++ digits

/-- The lines of a section, or a line that says that there are none. -/
def listing (color : Bool) (title : String) (lines : List String) : String :=
  heading color title ++ "\n" ++
    (if lines.isEmpty then "  (none)\n" else String.join (lines.map fun l => "  " ++ l ++ "\n"))

def summary (color : Bool) (report : Report) (host : Scripted) : String :=
  let deeds := host.log.zipIdx.map fun (deed, i) => column (i + 1) ++ "  " ++ deed.render
  let vars := report.vars.map fun (name, value) =>
    paint color "94" name ++ " = " ++ decimal value.toInt
  listing color "Actions" deeds ++ "\n" ++ listing color "Variables" vars ++ "\n"
    ++ decimal report.ticks ++ " tick(s), " ++ decimal report.actions ++ " action(s), shield "
    ++ (if host.shield then paint color "32" "on" else "off") ++ "\n"

def haltMessage : Halt → String
  | .fault f => f.message
  | .outOfFuel => "a loop made more passes than can be counted"

variable {m : Type → Type} [Monad m] [Storage m]

def EngineCommand.run (color : Bool) (fuel : Nat) (c : EngineCommand) : m Outcome := do
  let settings := (← Settings.loadFor c.settings ".").result
  let run := { settings.run with ticks := c.ticks.getD settings.run.ticks }
  match (← loadProgram c.path).result with
  | .error (.script _ e) => return parserFailure color e
  | .error e => return failure color e.chain
  | .ok loaded =>
    let finished := loaded.run Scripted.host fuel run (Scripted.new settings.sensors)
    match finished.result with
    | .ok report => return success (summary color report finished.machine.host)
    | .error halt =>
      return failure color ["while running '" ++ c.path ++ "'", haltMessage halt]

def engine (color : Bool) (fuel : Nat) (args : List String) : m Outcome :=
  match EngineCommand.ofArgs args with
  | .ok command => command.run color fuel
  | .error stop =>
    return stopped "robo_engine" "robo_engine run [--config FILE] [--ticks N] PATH" stop

end Command

end ArenaScript
