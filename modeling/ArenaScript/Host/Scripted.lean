import ArenaScript.Host.Basic

/-!
A host whose sensors answer from fixed readings and which logs every deed. Only the fuel level
and the shield change: a move burns fuel down to zero, and taking fuel may restore the level.
-/

namespace ArenaScript

/-- What the sensors of a scripted host answer. Barrel offsets are listed closest first. -/
structure Readings where
  fuel : Value := 100
  opponentLR : Value := 0
  opponentFB : Value := 0
  barrelCount : Value := 0
  barrelsLR : List Value := []
  barrelsFB : List Value := []
  wallDistance : Value := 0
  fuelPerMove : Value := 0
  refuel : Bool := false
deriving DecidableEq, Repr

/-- A scripted host between two calls. The log is kept newest first. -/
structure Scripted where
  readings : Readings
  fuel : Value
  shield : Bool
  logged : List Deed
deriving DecidableEq, Repr

namespace Scripted

def new (readings : Readings) : Scripted := ⟨readings, readings.fuel, false, []⟩

def log (h : Scripted) : List Deed := h.logged.reverse

def count (h : Scripted) (deed : Deed) : Nat := h.logged.count deed

/-- The fuel left after one move. The difference is held within the range of values, and a level
below zero counts as zero. -/
def burn (fuel rate : Value) : Value :=
  Int32.ofInt (max 0 (min (fuel.toInt - rate.toInt) Int32.maxValue.toInt))

def perform (deed : Deed) (h : Scripted) : Scripted :=
  let h := { h with logged := deed :: h.logged }
  match deed with
  | .move => { h with fuel := burn h.fuel h.readings.fuelPerMove }
  | .shield on => { h with shield := on }
  | .takeFuel => if h.readings.refuel then { h with fuel := h.readings.fuel } else h
  | _ => h

/-- What a deed does, one part of the host at a time. -/
theorem perform_eq (deed : Deed) (h : Scripted) :
    perform deed h = {
      readings := h.readings
      fuel := match deed with
        | .move => burn h.fuel h.readings.fuelPerMove
        | .takeFuel => if h.readings.refuel then h.readings.fuel else h.fuel
        | _ => h.fuel
      shield := match deed with
        | .shield on => on
        | _ => h.shield
      logged := deed :: h.logged } := by
  unfold perform
  cases deed with
  | takeFuel =>
    dsimp only
    split <;> rfl
  | _ => rfl

@[simp] theorem log_perform (deed : Deed) (h : Scripted) :
    (perform deed h).log = h.log ++ [deed] := by
  simp [log, perform_eq]

/-- The offset with this index, or zero if there is none. -/
def offset (offsets : List Value) (index : Value) : Value :=
  if index < 0 then 0 else offsets.getD index.toInt.toNat 0

def read (h : Scripted) : Query → Value
  | .gauge .fuelLeft => h.fuel
  | .gauge (.opponent .leftRight) => h.readings.opponentLR
  | .gauge (.opponent .frontBack) => h.readings.opponentFB
  | .gauge .barrelCount => h.readings.barrelCount
  | .gauge .wallDistance => h.readings.wallDistance
  | .barrel .leftRight index => offset h.readings.barrelsLR index
  | .barrel .frontBack index => offset h.readings.barrelsFB index

def host : Host Scripted where
  perform := perform
  sense query h := (h.read query, h)

end Scripted

end ArenaScript
