import ArenaScript.Compiled.Reader
import ArenaScript.Compiled.Writer

/-!
Programs from terms, and the program of a compiled text.

Reading is limited in depth. A variant, the payload of a variant with one item, a record, each of
its fields, a list or tuple, each of its items and the content of a present option cost one step
each; a term that needs more steps than are left is refused as too deep. Fields that are not known
are passed over, at the same cost.
-/

namespace ArenaScript

namespace Compiled

/-- A reader of terms, which is given the number of steps that are left. -/
abbrev Decode (α : Type) := Nat → Term → Except ReadError α

def spend (cost steps : Nat) : Except ReadError Nat :=
  if cost ≤ steps then .ok (steps - cost) else .error .tooDeep

/-- The words that stand for a value by themselves and carry no parts. -/
def plainWords : List String := ["None", "true", "false"] ++ boundlessWords

mutual

/-- Whether a term can be passed over with the given number of steps. -/
def Term.fits (steps : Nat) : Term → Bool
  | .word name => name ≠ "Some"
  | .number _ _ => true
  | .text _ => true
  | .foreign => true
  | .list items => 1 ≤ steps && itemsFit (steps - 1) items
  | .tuple name items =>
    if name = some "Some" then items.length = 1 && itemsFit steps items
    else !name.any plainWords.contains && 1 ≤ steps && itemsFit (steps - 1) items
  | .record name fields =>
    !name.any ("Some" :: plainWords).contains && 1 ≤ steps && fieldsFit (steps - 1) fields
  | .map entries => 1 ≤ steps && entriesFit (steps - 1) entries

def itemsFit (steps : Nat) : List Term → Bool
  | [] => true
  | t :: rest => 1 ≤ steps && t.fits (steps - 1) && itemsFit steps rest

def fieldsFit (steps : Nat) : List (String × Term) → Bool
  | [] => true
  | (_, t) :: rest => 1 ≤ steps && t.fits (steps - 1) && fieldsFit steps rest

def entriesFit (steps : Nat) : List (Term × Term) → Bool
  | [] => true
  | (k, t) :: rest =>
    1 ≤ steps && k.fits (steps - 1) && t.fits (steps - 1) && entriesFit steps rest

end

def passOver (known : List String) (fields : List (String × Term)) (steps : Nat) :
    Except ReadError Unit :=
  if fields.all fun (name, t) => known.contains name || t.fits steps then .ok ()
  else .error .tooDeep

/-- The field with this name, which may be given at most once. -/
def field? (name : String) (fields : List (String × Term)) : Except ReadError (Option Term) :=
  match fields.filter (·.1 == name) with
  | [] => .ok none
  | [(_, t)] => .ok (some t)
  | _ => .error .malformed

def requiredField (name : String) (fields : List (String × Term)) : Except ReadError Term := do
  orMalformed (← field? name fields)

def recordFields (d : Dialect) (name : String) : Term → Except ReadError (List (String × Term))
  | .record none fields => if d.explicitNames then .error .malformed else .ok fields
  | .record (some n) fields => if n = name then .ok fields else .error .malformed
  | _ => .error .malformed

def optionContent (d : Dialect) : Term → Except ReadError (Option Term)
  | .word "None" => .ok none
  | .tuple (some "Some") [t] => .ok (some t)
  | t => if d.implicitSome then .ok (some t) else .error .malformed

def optionOf {α : Type} (d : Dialect) (content : Decode α) : Decode (Option α) := fun steps t => do
  match ← optionContent d t with
  | none => return none
  | some t => return some (← content (← spend 1 steps) t)

def listOf {α : Type} (item : Decode α) : Decode (List α) := fun steps t => do
  match t with
  | .list items =>
    let steps ← spend 1 steps
    items.mapM fun t => do item (← spend 1 steps) t
  | _ => .error .malformed

def withTag {α : Type} (known : List α) (tag : α → String) (name : String) :
    Except ReadError α :=
  orMalformed (known.find? (tag · == name))

def value : Term → Except ReadError Value
  | .number n suffix =>
    if (suffix = "" ∨ suffix = "i32") ∧ Int32.minValue.toInt ≤ n ∧ n ≤ Int32.maxValue.toInt then
      .ok (Int32.ofInt n)
    else .error .malformed
  | _ => .error .malformed

def textOf : Term → Except ReadError String
  | .text s => .ok s
  | _ => .error .malformed

def operator : Decode Operator := fun steps t => do
  let _ ← spend 2 steps
  match t with
  | .word name => withTag [.add, .sub, .mul, .div] Operator.tag name
  | _ => .error .malformed

def sensor (d : Dialect) (index : Decode Expression) : Decode Expression := fun steps t => do
  let steps ← spend 2 steps
  match t with
  | .word name =>
    .gauge <$> withTag
      [.fuelLeft, .opponent .leftRight, .opponent .frontBack, .barrelCount, .wallDistance]
      Gauge.tag name
  | .tuple (some name) [t] =>
    let axis ← withTag [Axis.leftRight, .frontBack] Axis.barrelTag name
    match ← optionOf d index steps t with
    | none => return .barrel axis
    | some i => return .barrelAt axis i
  | _ => .error .malformed

/-- Reads an expression in which fewer than `fuel` expressions are nested. -/
def expression (d : Dialect) : (fuel : Nat) → Decode Expression
  | 0, _, _ => .error .tooDeep
  | fuel + 1, steps, t => do
    let steps ← spend 2 steps
    match t with
    | .tuple (some "Number") [t] => .number <$> value t
    | .tuple (some "Var") [t] => .var <$> textOf t
    | .tuple (some "Sensor") [t] => sensor d (expression d fuel) steps t
    | .record (some "Op") fields =>
      let steps ← spend 1 steps
      passOver ["op", "lhs", "rhs"] fields steps
      let o ← operator steps (← requiredField "op" fields)
      let lhs ← expression d fuel steps (← requiredField "lhs" fields)
      let rhs ← expression d fuel steps (← requiredField "rhs" fields)
      return .op o lhs rhs
    | _ => .error .malformed

def condition (expr : Decode Expression) : (fuel : Nat) → Decode Condition
  | 0, _, _ => .error .tooDeep
  | fuel + 1, steps, t => do
    let steps ← spend 2 steps
    match t with
    | .tuple (some "Not") [t] => .not <$> condition expr fuel steps t
    | .tuple (some "And") [a, b] =>
      let steps ← spend 1 steps
      return .and (← condition expr fuel steps a) (← condition expr fuel steps b)
    | .tuple (some "Or") [a, b] =>
      let steps ← spend 1 steps
      return .or (← condition expr fuel steps a) (← condition expr fuel steps b)
    | .tuple (some name) [a, b] =>
      let steps ← spend 1 steps
      let r ← withTag [Relation.lt, .gt, .eq] Relation.tag name
      return .compare r (← expr steps a) (← expr steps b)
    | _ => .error .malformed

def action (d : Dialect) (expr : Decode Expression) : Decode Action := fun steps t => do
  let steps ← spend 2 steps
  match t with
  | .word name =>
    .order <$> withTag
      [.turnLeft, .turnRight, .turnAround, .takeFuel, .shieldOn, .shieldOff] Order.tag name
  | .tuple (some name) [t] =>
    let p ← withTag [Pace.move, .wait] Pace.tag name
    return .pace p (← optionOf d expr steps t)
  | _ => .error .malformed

def body (item : Decode Statement) (steps : Nat) (fields : List (String × Term)) :
    Except ReadError (List Statement) := do
  let steps ← spend 2 steps
  passOver ["statements"] fields steps
  listOf item steps (← requiredField "statements" fields)

def block (d : Dialect) (item : Decode Statement) : Decode (List Statement) := fun steps t => do
  body item steps (← recordFields d "Block" t)

def branch (d : Dialect) (test : Decode Condition) (item : Decode Statement) :
    Decode (Condition × List Statement) := fun steps t => do
  let fields ← recordFields d "Branch" t
  let steps ← spend 2 steps
  passOver ["condition", "body"] fields steps
  let c ← test steps (← requiredField "condition" fields)
  let b ← block d item steps (← requiredField "body" fields)
  return (c, b)

def chainOf (branches : List (Condition × List Statement)) (last : Option (List Statement)) :
    Chain :=
  branches.foldr (fun b rest => .branch b.1 b.2 rest) (last.elim .done .otherwise)

/-- The chain in the fields of an `if`. The `else` part may be left out. -/
def chain (d : Dialect) (test : Decode Condition) (item : Decode Statement) (steps : Nat)
    (fields : List (String × Term)) : Except ReadError Chain := do
  let steps ← spend 2 steps
  passOver ["branches", "otherwise"] fields steps
  let branches ← listOf (branch d test item) steps (← requiredField "branches" fields)
  match ← field? "otherwise" fields with
  | none => return chainOf branches none
  | some t => return chainOf branches (← optionOf d (block d item) steps t)

def statement (d : Dialect) (expr : Decode Expression) (test : Decode Condition) :
    (fuel : Nat) → Decode Statement
  | 0, _, _ => .error .tooDeep
  | fuel + 1, steps, t => do
    let item := statement d expr test fuel
    let steps ← spend 2 steps
    match t with
    | .tuple (some "Action") [t] => .act <$> action d expr steps t
    | .tuple (some "Loop") [t] =>
      if d.unwrapVariants then .error .malformed else .loop <$> block d item steps t
    | .tuple (some "If") [t] =>
      if d.unwrapVariants then .error .malformed
      else .choose <$> chain d test item steps (← recordFields d "IfChain" t)
    | .record (some "Loop") fields =>
      if d.unwrapVariants then .loop <$> body item steps fields else .error .malformed
    | .record (some "If") fields =>
      if d.unwrapVariants then .choose <$> chain d test item steps fields
      else .error .malformed
    | .record (some "While") fields =>
      let steps ← spend 1 steps
      passOver ["condition", "body"] fields steps
      let c ← test steps (← requiredField "condition" fields)
      let b ← block d item steps (← requiredField "body" fields)
      return .whilst c b
    | .record (some "Assign") fields =>
      let steps ← spend 1 steps
      passOver ["name", "value"] fields steps
      let name ← textOf (← requiredField "name" fields)
      let e ← expr steps (← requiredField "value" fields)
      return .assign name e
    | _ => .error .malformed

end Compiled

open Compiled in
/-- The program of a term, read with at most `limit` steps. -/
def Program.ofTerm (d : Dialect) (limit : Nat) (t : Term) : Except ReadError Program := do
  let expr := expression d (limit + 1)
  let test := condition expr (limit + 1)
  return ⟨← body (statement d expr test (limit + 1)) limit (← recordFields d "Program" t)⟩

open Compiled in
def Program.decode (text : String) : Except ReadError Program := do
  let (d, t) ← readText nestingLimit text
  Program.ofTerm d nestingLimit t

end ArenaScript
