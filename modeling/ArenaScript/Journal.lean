/-!
The journal: what the program reports about its own work, line by line.
-/

namespace ArenaScript

inductive Level
  | warn
  | info
  | debug
  | trace
deriving DecidableEq, Repr

def Level.text : Level → String
  | .warn => "WARN"
  | .info => "INFO"
  | .debug => "DEBUG"
  | .trace => "TRACE"

structure Record where
  level : Level
  message : String
deriving DecidableEq, Repr

/-- A result together with what was reported on the way to it. -/
structure Reported (α : Type) where
  result : α
  records : List Record

namespace Reported

variable {α β : Type}

def pure (a : α) : Reported α := ⟨a, []⟩

def bind (x : Reported α) (f : α → Reported β) : Reported β :=
  let y := f x.result
  ⟨y.result, x.records ++ y.records⟩

instance : Monad Reported where
  pure := pure
  bind := bind

def report (level : Level) (message : String) : Reported Unit := ⟨(), [⟨level, message⟩]⟩

end Reported

end ArenaScript
