import ArenaScript.Program.Keyword
import ArenaScript.Token

/-!
How expressions, conditions and statements begin. The first word decides what is read, and an
`Opening` is what this word says.
-/

namespace ArenaScript

namespace Expression

inductive Opening
  | operator (o : Operator)
  | gauge (g : Gauge)
  | barrel (axis : Axis)
  | number (literal : String)
  | var (name : String)

def Opening.ofWord? (word : String) : Option Opening :=
  if let some o := Operator.ofKeyword? word then some (.operator o)
  else if let some g := Gauge.ofKeyword? word then some (.gauge g)
  else if let some axis := Axis.ofBarrelKeyword? word then some (.barrel axis)
  else if Word.isNumber word then some (.number word)
  else if Token.isName word then some (.var word)
  else none

end Expression

namespace Condition

inductive Opening
  | compare (r : Relation)
  | and
  | or
  | not

def Opening.ofWord? (word : String) : Option Opening :=
  if let some r := Relation.ofKeyword? word then some (.compare r)
  else if word = "and" then some .and
  else if word = "or" then some .or
  else if word = "not" then some .not
  else none

end Condition

namespace Statement

inductive Opening
  | loop
  | choose
  | whilst
  | assign (name : String)
  | pace (p : Pace)
  | order (o : Order)

def Opening.ofWord? (word : String) : Option Opening :=
  if word = "loop" then some .loop
  else if word = "if" then some .choose
  else if word = "while" then some .whilst
  else if Token.isName word then some (.assign word)
  else if let some p := Pace.ofKeyword? word then some (.pace p)
  else if let some o := Order.ofKeyword? word then some (.order o)
  else none

end Statement

end ArenaScript
