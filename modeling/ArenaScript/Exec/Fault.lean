import ArenaScript.Program.Render

/-!
What can go wrong while a program runs, and the arithmetic that can go wrong.
-/

namespace ArenaScript

inductive Fault
  | divisionByZero (dividend : Value)
  | unbound (name : String)
deriving DecidableEq, Repr

def Fault.message : Fault → String
  | .divisionByZero dividend => "division by zero (" ++ decimal dividend.toInt ++ " / 0)"
  | .unbound name => "variable '" ++ name ++ "' has no value"

/-- The quotient rounded to the nearest integer, halves away from zero. -/
def roundedQuotient (n d : Int) : Int :=
  if 2 * (n.tmod d).natAbs ≥ d.natAbs then n.tdiv d + n.sign * d.sign else n.tdiv d

/-- Rounded division. The one quotient that does not fit a value wraps. -/
def Value.divide (dividend divisor : Value) : Except Fault Value :=
  if divisor = 0 then .error (.divisionByZero dividend)
  else .ok (Int32.ofInt (roundedQuotient dividend.toInt divisor.toInt))

def Operator.apply : Operator → Value → Value → Except Fault Value
  | .add, a, b => .ok (a + b)
  | .sub, a, b => .ok (a - b)
  | .mul, a, b => .ok (a * b)
  | .div, a, b => Value.divide a b

def Relation.holds : Relation → Value → Value → Bool
  | .lt, a, b => decide (a < b)
  | .gt, a, b => decide (b < a)
  | .eq, a, b => a == b

end ArenaScript
