import ArenaScript.Exec.Machine
import ArenaScript.Host.Scripted
import ArenaScript.Settings.Reader

/-!
The settings of a run: how many ticks, how loops repeat, what the sensors of the host answer.
Every setting may be left out and then has its default; settings that are not known are ignored.
-/

namespace ArenaScript

inductive PolicyName
  | singlePass
  | repeated
deriving DecidableEq, Repr

def PolicyName.text : PolicyName → String
  | .singlePass => "single-pass"
  | .repeated => "repeat"

def PolicyName.ofText? (text : String) : Option PolicyName :=
  [PolicyName.singlePass, .repeated].find? (·.text == text)

structure RunSettings where
  ticks : Nat := 1
  policyName : PolicyName := .singlePass
  loopLimit : Option Nat := none
deriving DecidableEq, Repr

/-- The limit counts only for the policy that repeats. -/
def RunSettings.policy (r : RunSettings) : LoopPolicy :=
  match r.policyName with
  | .singlePass => .singlePass
  | .repeated => .repeated r.loopLimit

structure Settings where
  run : RunSettings := {}
  sensors : Readings := {}
deriving DecidableEq, Repr

namespace Settings

/-- The fields of a group of settings. A group is a table, or an array that gives the fields in
their order; later fields may then be left out and items without a field are ignored. -/
def fieldsOf (names : List String) : Item → Option (String → Option Item)
  | .table _ entries => some (Entries.find? entries)
  | .array items => some fun name => (names.zip items).lookup name
  | .rows rows => some fun name => (names.zip (rows.map (.table .header))).lookup name
  | _ => none

def optionalField {α : Type} (item : Option Item) (default : α) (read : Item → Option α) :
    Option α :=
  match item with
  | none => some default
  | some item => read item

def natOf : Item → Option Nat
  | .integer n => if 0 ≤ n then some n.toNat else none
  | _ => none

def valueOf : Item → Option Value
  | .integer n =>
    if Int32.minValue.toInt ≤ n ∧ n ≤ Int32.maxValue.toInt then some (Int32.ofInt n) else none
  | _ => none

def booleanOf : Item → Option Bool
  | .boolean b => some b
  | _ => none

def valuesOf : Item → Option (List Value)
  | .array items => items.mapM valueOf
  | _ => none

def isHollow : Item → Bool
  | .table _ entries => entries.isEmpty
  | .array items => items.isEmpty
  | .rows rows => rows.isEmpty
  | _ => false

/-- A policy is given by its name, or by a table whose only key is the name and holds nothing. -/
def policyOf : Item → Option PolicyName
  | .text s => PolicyName.ofText? s
  | .table _ [(name, item)] => if isHollow item then PolicyName.ofText? name else none
  | _ => none

def runOf (item : Item) : Option RunSettings := do
  let field ← fieldsOf ["ticks", "loop_policy", "loop_limit"] item
  return {
    ticks := ← optionalField (field "ticks") 1 natOf
    policyName := ← optionalField (field "loop_policy") .singlePass policyOf
    loopLimit := ← optionalField (field "loop_limit") none (fun i => some <$> natOf i) }

def sensorsOf (item : Item) : Option Readings := do
  let field ← fieldsOf
    ["fuel", "opponent_lr", "opponent_fb", "num_barrels", "barrels_lr", "barrels_fb",
      "wall_distance", "fuel_per_move", "refuel"] item
  return {
    fuel := ← optionalField (field "fuel") 100 valueOf
    opponentLR := ← optionalField (field "opponent_lr") 0 valueOf
    opponentFB := ← optionalField (field "opponent_fb") 0 valueOf
    barrelCount := ← optionalField (field "num_barrels") 0 valueOf
    barrelsLR := ← optionalField (field "barrels_lr") [] valuesOf
    barrelsFB := ← optionalField (field "barrels_fb") [] valuesOf
    wallDistance := ← optionalField (field "wall_distance") 0 valueOf
    fuelPerMove := ← optionalField (field "fuel_per_move") 0 valueOf
    refuel := ← optionalField (field "refuel") false booleanOf }

def ofText? (text : String) : Option Settings := do
  let entries ← readEntries text
  let run ← optionalField (entries.find? "run") {} runOf
  let sensors ← optionalField (entries.find? "sensors") {} sensorsOf
  return ⟨run, sensors⟩

end Settings

end ArenaScript
