import ArenaScript.Program.Render
import ArenaScript.Program.Nesting

/-!
Why a script is refused. A `ParseFault` is the cause; a `ParseError` adds the place, which is the
index of the first token that cannot be accepted, and the tokens from there on.
-/

namespace ArenaScript

def quotedTokens : Nat := 5

inductive ParseFault
  | emptyProgram
  | leftover
  | statementExpected
  | conditionExpected
  | expressionExpected
  | blockUnopened (owner : String)
  | blockUnclosed (owner : String)
  | argumentsUnopened (owner : String)
  | conditionUnclosed (owner : String)
  | argumentUnclosed (owner : String)
  | argumentsUndivided (owner : String)
  | argumentsUnclosed (owner : String)
  | equalsExpected
  | assignmentUnclosed
  | actionUnclosed (word : String)
  | outOfRange (literal : String)
  | tooDeep
  | unbound (name : String)
deriving DecidableEq, Repr

def ParseFault.message : ParseFault → String
  | .emptyProgram => "program must contain at least one statement"
  | .leftover => "unexpected tokens after the end of input"
  | .statementExpected => "expected a statement (loop, if, while, assignment, or action)"
  | .conditionExpected => "expected a condition (lt, gt, eq, and, or, not)"
  | .expressionExpected => "expected an expression (operator, sensor, number, or variable)"
  | .blockUnopened owner => "'\x7b' expected to open " ++ owner ++ " block"
  | .blockUnclosed owner => "'\x7d' expected to close " ++ owner ++ " block"
  | .argumentsUnopened owner => "'(' expected after " ++ owner
  | .conditionUnclosed owner => "')' expected after " ++ owner ++ "'s condition"
  | .argumentUnclosed owner => "')' expected after " ++ owner ++ "'s argument"
  | .argumentsUndivided owner => "',' expected between " ++ owner ++ "'s arguments"
  | .argumentsUnclosed owner => "')' expected after " ++ owner ++ "'s arguments"
  | .equalsExpected => "'=' expected after variable name"
  | .assignmentUnclosed => "';' expected after assignment"
  | .actionUnclosed word => "';' expected after " ++ word
  | .outOfRange literal => "integer literal '" ++ literal ++ "' is out of range"
  | .tooDeep => "nesting too deep (more than " ++ decimal maxNesting ++ " levels)"
  | .unbound name => "variable '" ++ name ++ "' must be assigned before it is used"

structure ParseError where
  fault : ParseFault
  position : Nat
  context : List String
deriving DecidableEq, Repr

/-- The message, then a line that quotes the tokens at the place of the error. -/
def ParseError.render (e : ParseError) : String :=
  e.fault.message ++ "\n   @ ..." ++ String.join (e.context.map (" " ++ ·)) ++ "..."

end ArenaScript
