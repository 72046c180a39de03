import ArenaScript.Compiled.Layout

/-!
Programs as terms, and the compiled text of a program.
-/

namespace ArenaScript

open Compiled

namespace Compiled

def named (name : String) (items : List Term) : Term := .tuple (some name) items

def optional : Option Term → Term
  | none => .word "None"
  | some t => named "Some" [t]

end Compiled

def Gauge.tag : Gauge → String
  | .fuelLeft => "FuelLeft"
  | .opponent .leftRight => "OppLR"
  | .opponent .frontBack => "OppFB"
  | .barrelCount => "NumBarrels"
  | .wallDistance => "WallDist"

def Axis.barrelTag : Axis → String
  | .leftRight => "BarrelLR"
  | .frontBack => "BarrelFB"

def Operator.tag : Operator → String
  | .add => "Add"
  | .sub => "Sub"
  | .mul => "Mul"
  | .div => "Div"

def Relation.tag : Relation → String
  | .lt => "Lt"
  | .gt => "Gt"
  | .eq => "Eq"

def Pace.tag : Pace → String
  | .move => "Move"
  | .wait => "Wait"

def Order.tag : Order → String
  | .turnLeft => "TurnLeft"
  | .turnRight => "TurnRight"
  | .turnAround => "TurnAround"
  | .takeFuel => "TakeFuel"
  | .shieldOn => "ShieldOn"
  | .shieldOff => "ShieldOff"

def Expression.toTerm : Expression → Term
  | .number value => named "Number" [.number value.toInt ""]
  | .var name => named "Var" [.text name]
  | .gauge g => named "Sensor" [.word g.tag]
  | .barrel axis => named "Sensor" [named axis.barrelTag [optional none]]
  | .barrelAt axis index => named "Sensor" [named axis.barrelTag [optional (some index.toTerm)]]
  | .op o lhs rhs =>
    .record (some "Op") [("op", .word o.tag), ("lhs", lhs.toTerm), ("rhs", rhs.toTerm)]

def Condition.toTerm : Condition → Term
  | .compare r lhs rhs => named r.tag [lhs.toTerm, rhs.toTerm]
  | .and lhs rhs => named "And" [lhs.toTerm, rhs.toTerm]
  | .or lhs rhs => named "Or" [lhs.toTerm, rhs.toTerm]
  | .not inner => named "Not" [inner.toTerm]

def Action.toTerm : Action → Term
  | .pace p count => named p.tag [optional (count.map Expression.toTerm)]
  | .order o => .word o.tag

def blockTerm (statements : List Term) : Term := .record none [("statements", .list statements)]

mutual

def Statement.toTerm : Statement → Term
  | .loop body => named "Loop" [blockTerm (bodyTerms body)]
  | .choose chain =>
    named "If"
      [.record none [("branches", .list chain.branchTerms), ("otherwise", chain.otherwiseTerm)]]
  | .whilst test body =>
    .record (some "While") [("condition", test.toTerm), ("body", blockTerm (bodyTerms body))]
  | .assign name value =>
    .record (some "Assign") [("name", .text name), ("value", value.toTerm)]
  | .act action => named "Action" [action.toTerm]

def Chain.branchTerms : Chain → List Term
  | .done => []
  | .otherwise _ => []
  | .branch test body rest =>
    .record none [("condition", test.toTerm), ("body", blockTerm (bodyTerms body))]
      :: rest.branchTerms

def Chain.otherwiseTerm : Chain → Term
  | .done => optional none
  | .otherwise body => optional (some (blockTerm (bodyTerms body)))
  | .branch _ _ rest => rest.otherwiseTerm

def bodyTerms : List Statement → List Term
  | [] => []
  | s :: rest => s.toTerm :: bodyTerms rest

end

def Program.toTerm (p : Program) : Term := blockTerm (bodyTerms p.statements)

/-- The compiled text of a program, unless its term is nested too deep. -/
def Program.compile? (p : Program) : Option String :=
  let t := p.toTerm
  if t.height ≤ nestingLimit then some (t.write 0) else none

end ArenaScript
