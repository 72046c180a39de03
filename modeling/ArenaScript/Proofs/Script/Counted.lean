import ArenaScript.Script.Parser

/-! The descent with a counter in its state. Whoever parses a statement, a condition or an
expression counts up before the inside of it and down behind it, however that ended, and refuses to
start once the limit is reached. Nothing else bounds the calls, and nothing at all the loops. So a
run is watched for a number of calls inside each other and for a number of passes of each loop, and
it has no outcome as long as it is still going by then. -/
namespace ArenaScript

/-- The state of a parse with the number of levels that are open. The depths at which the inside of
a statement, a condition or an expression was begun are noted, newest first. -/
structure Descent where
  parse : ParseState
  depth : Nat
  begun : List Nat

namespace Descent

def enter (s : Descent) : Descent :=
  { s with depth := s.depth + 1, begun := (s.depth + 1) :: s.begun }

def leave (s : Descent) : Descent := { s with depth := s.depth - 1 }

end Descent

abbrev Counted := ExceptT ParseError (StateT Descent Option)

namespace Counted

variable {α : Type}

def unfinished : Counted α := fun _ => none

def step (p : Parse α) : Counted α := fun s =>
  let (r, t) := p s.parse
  some (r, { s with parse := t })

/-- Runs a parser one level deeper, if there is a level left. -/
def nested (inside : Counted α) : Counted α := fun s =>
  if s.depth ≥ maxNesting then step (Parse.refuse .tooDeep) s
  else do
    let (r, t) ← inside s.enter
    some (r, t.leave)

instance : MonadLiftT Parse Counted := ⟨step⟩

/-- The first argument of `expression`, `condition` and `statement` is the number of calls inside
each other for which they are watched. -/
def expression : Nat → Counted Expression
  | 0 => unfinished
  | calls + 1 => nested (Parse.expressionOf (expression calls))

def condition : Nat → Counted Condition
  | 0 => unfinished
  | calls + 1 => nested (Parse.conditionOf (expression calls) (condition calls))

/-- The last argument of the loops is the number of passes for which they are watched. -/
def untilClosed (owner : String) (item : Counted Statement) : Nat → Counted (List Statement)
  | 0 => unfinished
  | passes + 1 => Parse.closingOf owner item (untilClosed owner item passes)

def block (owner : String) (item : Counted Statement) (passes : Nat) : Counted (List Statement) :=
  Parse.blockOf owner item (untilClosed owner item passes)

def chainTail (test : Counted Condition) (item : Counted Statement) (each : Nat) :
    Nat → Counted Chain
  | 0 => unfinished
  | passes + 1 => Parse.chainOf test (block · item each) (chainTail test item each passes)

def statement (passes : Nat) : Nat → Counted Statement
  | 0 => unfinished
  | calls + 1 => nested (Parse.statementOf (expression calls) (condition calls)
      (block · (statement passes calls) passes)
      (chainTail (condition calls) (statement passes calls) passes passes))

def statements (item : Counted Statement) : Nat → Counted (List Statement)
  | 0 => unfinished
  | passes + 1 => Parse.statementsOf item (statements item passes)

def program (passes calls : Nat) : Counted Program :=
  Parse.programOf (statements (statement passes calls) passes)

end Counted

end ArenaScript
