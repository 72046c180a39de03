import ArenaScript.Command.Args
import ArenaScript.Script.Error

/-!
What a command leaves behind: an exit code and what it printed. Failures are printed as a chain of
causes, colours as escape sequences of the terminal.
-/

namespace ArenaScript

namespace Command

structure Outcome where
  code : Nat
  out : String := ""
  err : String := ""

def paint (color : Bool) (codes text : String) : String :=
  if color then "\x1b[" ++ codes ++ "m" ++ text ++ "\x1b[0m" else text

def heading (color : Bool) (text : String) : String := paint color "4;93" text

def label (color : Bool) (text : String) : String := paint color "1;31" text

def success (out : String) : Outcome := { code := 0, out }

def parserFailure (color : Bool) (e : ParseError) : Outcome :=
  { code := 1, err := label color "Parser error:" ++ "\n" ++ e.render ++ "\n" }

/-- Any other failure, its causes on one line. -/
def failure (color : Bool) (chain : List String) : Outcome :=
  { code := 1, err := label color "error:" ++ " " ++ ": ".intercalate chain ++ "\n" }

def stopped (tool usage : String) : Stop → Outcome
  | .version => success (tool ++ " 0.3.0\n")
  | .help => success ("Usage: " ++ usage ++ "\n")
  | .misuse => { code := 2, err := "Usage: " ++ usage ++ "\n" }

end Command

end ArenaScript
