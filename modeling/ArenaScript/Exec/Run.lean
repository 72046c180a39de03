import ArenaScript.Exec.Ticks
import ArenaScript.Load
import ArenaScript.Settings.Basic

/-!
Running a loaded program as its settings say, with a journal of the run.
-/

namespace ArenaScript

def LoopPolicy.describe : LoopPolicy → String
  | .singlePass => "SinglePass"
  | .repeated none => "Repeat \x7b limit: None \x7d"
  | .repeated (some n) => "Repeat \x7b limit: Some(" ++ decimal n ++ ") \x7d"

/-- The line that an event is worth. Reading a sensor is worth none. -/
def Event.record? : Event → Option Record
  | .sensed _ _ => none
  | .performed deed => some ⟨.trace, "host action: " ++ deed.render⟩
  | .assigned name value => some ⟨.trace, name ++ " <- " ++ decimal value.toInt⟩
  | .ticked tick actions =>
    some ⟨.debug,
      "tick " ++ decimal tick ++ " done, " ++ decimal actions ++ " action(s) so far"⟩

/-- A run that came to an end: its report or why it stopped, and the machine afterwards. -/
structure Finished (σ : Type) where
  result : Except Halt Report
  machine : Machine σ

/-- Runs a loaded program on a host. Each loop that need not end makes at most `fuel` passes. -/
def Loaded.run {σ : Type} (host : Host σ) (fuel : Nat) (settings : RunSettings) (l : Loaded)
    (state : σ) : Finished σ :=
  let (result, machine) :=
    l.program.ticks host settings.policy fuel settings.ticks (.start state l.store)
  ⟨result, machine⟩

def Loaded.journal {σ : Type} (settings : RunSettings) (l : Loaded) (run : Finished σ) :
    List Record :=
  let first : Record := ⟨.info,
    "running '" ++ l.origin ++ "' for " ++ decimal settings.ticks ++ " tick(s) with "
      ++ settings.policy.describe⟩
  let last : List Record := match run.result with
    | .ok report =>
      [⟨.info, "run finished: " ++ decimal report.ticks ++ " tick(s), " ++ decimal report.actions
        ++ " action(s)"⟩]
    | .error _ => []
  first :: run.machine.events.filterMap Event.record? ++ last

end ArenaScript
