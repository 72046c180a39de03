import ArenaScript.Program.Basic

/-!
The host that a program controls. Every action of a script becomes deeds of the host, every
sensor one query. A host is given by what it does to its state; a query may change the state too.
-/

namespace ArenaScript

inductive Deed
  | move
  | turnLeft
  | turnRight
  | turnAround
  | shield (on : Bool)
  | takeFuel
  | idleWait
deriving DecidableEq, Repr

def Deed.all : List Deed :=
  [.move, .turnLeft, .turnRight, .turnAround, .shield true, .shield false, .takeFuel, .idleWait]

def Deed.render : Deed → String
  | .move => "move"
  | .turnLeft => "turnLeft"
  | .turnRight => "turnRight"
  | .turnAround => "turnAround"
  | .shield true => "setShield(on)"
  | .shield false => "setShield(off)"
  | .takeFuel => "takeFuel"
  | .idleWait => "idleWait"

/-- The deed that a text from `Deed.render` names. -/
def Deed.ofText? (text : String) : Option Deed := Deed.all.find? (·.render == text)

def Pace.deed : Pace → Deed
  | .move => .move
  | .wait => .idleWait

def Order.deed : Order → Deed
  | .turnLeft => .turnLeft
  | .turnRight => .turnRight
  | .turnAround => .turnAround
  | .takeFuel => .takeFuel
  | .shieldOn => .shield true
  | .shieldOff => .shield false

inductive Query
  | gauge (gauge : Gauge)
  | barrel (axis : Axis) (index : Value)
deriving DecidableEq, Repr

structure Host (σ : Type) where
  perform : Deed → σ → σ
  sense : Query → σ → Value × σ

end ArenaScript
