import ArenaScript.Command.Decompile
import ArenaScript.Command.Engine
import ArenaScript.Command.Script

/-!
The command line. The first argument names the tool; the others are its arguments.
-/

namespace ArenaScript

def faultOfError : IO.Error → FileFault
  | .inappropriateType _ code _ => if code = 20 then .notDirectory else .isDirectory
  | _ => .notFound

/-- Files on the disk. -/
instance : Storage IO where
  readText path := do
    try
      match String.fromUTF8? (← IO.FS.readBinFile path) with
      | some text => return .ok text
      | none => return .error .invalidText
    catch e => return .error (faultOfError e)
  isFile path := do
    try
      let _ ← IO.FS.readBinFile path
      return true
    catch _ => return false
  writeText path text := do
    try
      IO.FS.writeFile path text
      return .ok ()
    catch e => return .error (faultOfError e)

/-- More passes than any run makes. -/
def ampleFuel : Nat := 0x4000000000000000

def runTool : List String → IO Command.Outcome
  | "script" :: args => Command.script args
  | "decompile" :: args => Command.decompile args
  | "engine" :: args => Command.engine false ampleFuel args
  | _ => return { code := 2, err := "Usage: script|decompile|engine ARGUMENTS\n" }

end ArenaScript

def main (args : List String) : IO UInt32 := do
  let outcome ← ArenaScript.runTool args
  IO.print outcome.out
  IO.eprint outcome.err
  return outcome.code.toUInt32
