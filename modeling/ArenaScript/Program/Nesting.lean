import ArenaScript.Program.Basic

/-!
How deep a tree is nested. Statements, conditions and expressions count one level each, and the
deepest chain of them has to stay within `maxNesting` to be parsed.
-/

namespace ArenaScript

/-- The deepest nesting of statements, conditions and expressions, counted together. -/
def maxNesting : Nat := 100

def Expression.nesting : Expression → Nat
  | .number _ => 1
  | .var _ => 1
  | .gauge _ => 1
  | .barrel _ => 1
  | .barrelAt _ index => index.nesting + 1
  | .op _ lhs rhs => max lhs.nesting rhs.nesting + 1

def Condition.nesting : Condition → Nat
  | .compare _ lhs rhs => max lhs.nesting rhs.nesting + 1
  | .and lhs rhs => max lhs.nesting rhs.nesting + 1
  | .or lhs rhs => max lhs.nesting rhs.nesting + 1
  | .not inner => inner.nesting + 1

def Action.nesting : Action → Nat
  | .pace _ (some count) => count.nesting
  | .pace _ none => 0
  | .order _ => 0

mutual

def Statement.nesting : Statement → Nat
  | .loop body => bodyNesting body + 1
  | .choose chain => chain.nesting + 1
  | .whilst test body => max test.nesting (bodyNesting body) + 1
  | .assign _ value => value.nesting + 1
  | .act action => action.nesting + 1

def Chain.nesting : Chain → Nat
  | .done => 0
  | .otherwise body => bodyNesting body
  | .branch test body rest => max (max test.nesting (bodyNesting body)) rest.nesting

def bodyNesting : List Statement → Nat
  | [] => 0
  | s :: rest => max s.nesting (bodyNesting rest)

end

def Program.nesting (p : Program) : Nat := bodyNesting p.statements

end ArenaScript
