import ArenaScript.Host.Scripted

/-! What a scripted host has come to, reckoned from its log. The last setting of the shield decides
the shield. The fuel is told by its first level, by what a move burns and by the number of moves
since it was restored; on the way down it stops at zero, and on the way up at the greatest value. -/
namespace ArenaScript

def Deed.shield? : Deed → Option Bool
  | .shield on => some on
  | .move | .turnLeft | .turnRight | .turnAround | .takeFuel | .idleWait => none

/-- What the last deed that sets the shield sets it to. Without one the shield is off. -/
def shieldAfter (deeds : List Deed) : Bool := (deeds.filterMap Deed.shield?).getLastD false

/-- The number of moves since fuel was taken last, if taking fuel restores the level and if fuel was
taken at all, and the number of all moves otherwise. -/
def movesSinceFuel (refuel : Bool) (deeds : List Deed) : Nat :=
  if refuel then (deeds.reverse.takeWhile (· != .takeFuel)).count .move else deeds.count .move

def levelAfter (fuel rate : Int) (moves : Nat) : Int :=
  if moves = 0 then fuel
  else if 0 ≤ rate then max 0 (fuel - rate * moves)
  else min Int32.maxValue.toInt (max 0 (fuel - rate) - (moves - 1) * rate)

def saturated (n : Int) : Int := max Int32.minValue.toInt (min n Int32.maxValue.toInt)

theorem saturated_eq (n : Int) : saturated n = max (-2147483648) (min n 2147483647) := rfl

/-- A move computes the new level without overflow. -/
theorem Scripted.toInt_burn (fuel rate : Value) :
    (burn fuel rate).toInt = max 0 (saturated (fuel.toInt - rate.toInt)) := by
  have greatest : Int32.maxValue.toInt = 2147483647 := by decide
  rw [burn, Int32.toInt_ofInt_of_le (by omega) (by omega), saturated_eq, greatest]
  omega

theorem burnt_succ (rate : Int) (moves : Nat) :
    rate * (moves + 1 : Nat) = rate * moves + rate := by
  rw [Int.natCast_succ, Int.mul_add, Int.mul_one]

theorem levelAfter_add_one (fuel rate : Int) (moves : Nat) :
    levelAfter fuel rate (moves + 1) =
      if 0 ≤ rate then max 0 (fuel - (rate * moves + rate))
      else min Int32.maxValue.toInt (max 0 (fuel - rate) - rate * moves) := by
  have earlier : ((moves + 1 : Nat) - 1 : Int) = moves := by omega
  rw [levelAfter, if_neg (Nat.succ_ne_zero moves), burnt_succ, earlier, Int.mul_comm (moves : Int)]

/-- One more move. Before the first one the level may be below zero, and from then on it lies
between zero and the greatest value. -/
theorem levelAfter_succ (fuel rate : Value) (moves : Nat) :
    levelAfter fuel.toInt rate.toInt (moves + 1) =
      max 0 (saturated (levelAfter fuel.toInt rate.toInt moves - rate.toInt)) := by
  have greatest : Int32.maxValue.toInt = 2147483647 := by decide
  have low := fuel.le_toInt
  have high := fuel.toInt_lt
  rw [levelAfter_add_one, saturated_eq, greatest]
  cases moves with
  | zero =>
    rw [levelAfter, if_pos rfl, Int.natCast_zero, Int.mul_zero]
    split <;> omega
  | succ moves =>
    rw [levelAfter_add_one, burnt_succ, greatest]
    split
    next burns =>
      have burnt : 0 ≤ rate.toInt * moves := Int.mul_nonneg burns (Int.natCast_nonneg moves)
      omega
    next fills =>
      have filled : rate.toInt * moves ≤ 0 :=
        Int.mul_nonpos_of_nonpos_of_nonneg (by omega) (Int.natCast_nonneg moves)
      omega

theorem movesSinceFuel_concat (refuel : Bool) (deeds : List Deed) (deed : Deed) :
    movesSinceFuel refuel (deeds ++ [deed]) =
      if refuel = true ∧ deed = .takeFuel then 0
      else movesSinceFuel refuel deeds + if deed = .move then 1 else 0 := by
  cases refuel <;> cases deed <;> simp [movesSinceFuel, List.count_append]

theorem shieldAfter_concat (deeds : List Deed) (deed : Deed) :
    shieldAfter (deeds ++ [deed]) = (Deed.shield? deed).getD (shieldAfter deeds) := by
  cases deed <;> simp [shieldAfter, Deed.shield?]

namespace Scripted

/-- The host has come to what these deeds make of one with these readings. -/
structure Reckoned (readings : Readings) (deeds : List Deed) (h : Scripted) : Prop where
  log : h.log = deeds
  same : h.readings = readings
  shield : h.shield = shieldAfter deeds
  fuel : h.fuel.toInt = levelAfter readings.fuel.toInt readings.fuelPerMove.toInt
    (movesSinceFuel readings.refuel deeds)

variable {readings : Readings} {deeds : List Deed} {h : Scripted}

theorem Reckoned.new (readings : Readings) : Reckoned readings [] (new readings) where
  log := rfl
  same := rfl
  shield := rfl
  fuel := by
    have none : movesSinceFuel readings.refuel [] = 0 := by cases readings.refuel <;> rfl
    rw [none]
    rfl

theorem Reckoned.perform (reckoned : Reckoned readings deeds h) (deed : Deed) :
    Reckoned readings (deeds ++ [deed]) (perform deed h) where
  log := by rw [log_perform, reckoned.log]
  same := by rw [perform_eq, reckoned.same]
  shield := by
    rw [perform_eq, shieldAfter_concat, ← reckoned.shield]
    cases deed <;> rfl
  fuel := by
    rw [perform_eq, reckoned.same]
    cases deed with
    | move =>
      have another : movesSinceFuel readings.refuel (deeds ++ [.move]) =
          movesSinceFuel readings.refuel deeds + 1 := by simp [movesSinceFuel_concat]
      rw [another, levelAfter_succ, ← reckoned.fuel]
      exact toInt_burn h.fuel readings.fuelPerMove
    | takeFuel =>
      cases restores : readings.refuel with
      | true => simp [movesSinceFuel_concat, levelAfter]
      | false => simpa [movesSinceFuel_concat, restores] using reckoned.fuel
    | turnLeft | turnRight | turnAround | shield | idleWait =>
      simpa [movesSinceFuel_concat] using reckoned.fuel

def performAll (deeds : List Deed) (h : Scripted) : Scripted :=
  deeds.foldl (fun h deed => perform deed h) h

theorem Reckoned.performAll (reckoned : Reckoned readings deeds h) (more : List Deed) :
    Reckoned readings (deeds ++ more) (performAll more h) := by
  induction more generalizing deeds h with
  | nil =>
    rw [List.append_nil]
    exact reckoned
  | cons deed more ih =>
    have later := ih (reckoned.perform deed)
    rw [List.append_assoc] at later
    exact later

/-- Whatever a new host is made to do, its state can be reckoned from what it did. The log lists the
deeds, the readings are as they were, the shield is as it was set last, and the fuel reading is the
exact level after the moves since fuel was restored. A further move does not overflow either: it
takes its rate off the level, holds the difference in the range of values, and goes no lower than
zero. -/
theorem state_reckoned_from_log (readings : Readings) (deeds : List Deed) :
    let h := performAll deeds (new readings)
    h.log = deeds ∧ h.readings = readings ∧ h.shield = shieldAfter deeds ∧
    (h.read (.gauge .fuelLeft)).toInt = levelAfter readings.fuel.toInt readings.fuelPerMove.toInt
      (movesSinceFuel readings.refuel deeds) ∧
    (perform .move h).fuel.toInt =
      max 0 (saturated (h.fuel.toInt - readings.fuelPerMove.toInt)) := by
  intro h
  have reckoned : Reckoned readings deeds h := (Reckoned.new readings).performAll deeds
  refine ⟨reckoned.log, reckoned.same, reckoned.shield, reckoned.fuel, ?_⟩
  rw [perform_eq, reckoned.same]
  exact toInt_burn h.fuel readings.fuelPerMove

/-- A level below zero counts as zero from the first move on, and a negative rate fills the tank. -/
example :
    let readings : Readings := { fuel := -5, fuelPerMove := -2000000000, refuel := true }
    let h := performAll [.move, .takeFuel, .shield true, .move, .move, .shield false] (new readings)
    h.fuel = Int32.maxValue ∧ h.shield = false ∧
      (performAll [.takeFuel, .move] h).fuel = 1999999995 := by
  decide +kernel

end Scripted

end ArenaScript
