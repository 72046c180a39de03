import ArenaScript.Program.Basic

/-!
The words of the script language. Each family has a `keyword` function and, where the parser
needs it, the partial inverse `ofKeyword?`.
-/

namespace ArenaScript

namespace Keyword

/-- Words that start an action, in the order in which they are tried. -/
def actions : List String :=
  ["move", "wait", "turnAround", "turnL", "turnR", "shieldOn", "shieldOff", "takeFuel"]

def conditions : List String := ["lt", "gt", "eq", "and", "or", "not"]

def operators : List String := ["add", "sub", "mul", "div"]

def sensors : List String :=
  ["fuelLeft", "oppLR", "oppFB", "numBarrels", "barrelLR", "barrelFB", "wallDist"]

end Keyword

def Operator.keyword : Operator → String
  | .add => "add"
  | .sub => "sub"
  | .mul => "mul"
  | .div => "div"

def Operator.ofKeyword? (word : String) : Option Operator :=
  [Operator.add, .sub, .mul, .div].find? (·.keyword == word)

def Gauge.keyword : Gauge → String
  | .fuelLeft => "fuelLeft"
  | .opponent .leftRight => "oppLR"
  | .opponent .frontBack => "oppFB"
  | .barrelCount => "numBarrels"
  | .wallDistance => "wallDist"

def Gauge.ofKeyword? (word : String) : Option Gauge :=
  [Gauge.fuelLeft, .opponent .leftRight, .opponent .frontBack, .barrelCount, .wallDistance].find?
    (·.keyword == word)

def Axis.barrelKeyword : Axis → String
  | .leftRight => "barrelLR"
  | .frontBack => "barrelFB"

def Axis.ofBarrelKeyword? (word : String) : Option Axis :=
  [Axis.leftRight, .frontBack].find? (·.barrelKeyword == word)

def Relation.keyword : Relation → String
  | .lt => "lt"
  | .gt => "gt"
  | .eq => "eq"

def Relation.ofKeyword? (word : String) : Option Relation :=
  [Relation.lt, .gt, .eq].find? (·.keyword == word)

def Pace.keyword : Pace → String
  | .move => "move"
  | .wait => "wait"

def Pace.ofKeyword? (word : String) : Option Pace :=
  [Pace.move, .wait].find? (·.keyword == word)

def Order.keyword : Order → String
  | .turnLeft => "turnL"
  | .turnRight => "turnR"
  | .turnAround => "turnAround"
  | .takeFuel => "takeFuel"
  | .shieldOn => "shieldOn"
  | .shieldOff => "shieldOff"

def Order.ofKeyword? (word : String) : Option Order :=
  [Order.turnLeft, .turnRight, .turnAround, .takeFuel, .shieldOn, .shieldOff].find?
    (·.keyword == word)

end ArenaScript
