/-!
The tree of a script: expressions, conditions, actions, statements and whole programs.

A statement list is a plain `List Statement`, and an `if` with its `elif` and `else` parts is a
`Chain` that is walked from its first test on. Equality of trees is decidable.
-/

namespace ArenaScript

/-- A script value. Its arithmetic wraps at 32 bits. -/
abbrev Value := Int32

/-- The two directions in which an offset from the actor is measured. -/
inductive Axis
  | leftRight
  | frontBack
deriving DecidableEq, Repr

inductive Gauge
  | fuelLeft
  | opponent (axis : Axis)
  | barrelCount
  | wallDistance
deriving DecidableEq, Repr

inductive Operator
  | add
  | sub
  | mul
  | div
deriving DecidableEq, Repr

/-- `barrel axis` reads the closest barrel, `barrelAt axis index` the barrel with that index. -/
inductive Expression
  | number (value : Value)
  | var (name : String)
  | gauge (gauge : Gauge)
  | barrel (axis : Axis)
  | barrelAt (axis : Axis) (index : Expression)
  | op (operator : Operator) (lhs rhs : Expression)
deriving DecidableEq, Repr

inductive Relation
  | lt
  | gt
  | eq
deriving DecidableEq, Repr

inductive Condition
  | compare (relation : Relation) (lhs rhs : Expression)
  | and (lhs rhs : Condition)
  | or (lhs rhs : Condition)
  | not (inner : Condition)
deriving DecidableEq, Repr

inductive Pace
  | move
  | wait
deriving DecidableEq, Repr

inductive Order
  | turnLeft
  | turnRight
  | turnAround
  | takeFuel
  | shieldOn
  | shieldOff
deriving DecidableEq, Repr

inductive Action
  | pace (pace : Pace) (count : Option Expression)
  | order (order : Order)
deriving DecidableEq, Repr

mutual

inductive Statement
  | loop (body : List Statement)
  | choose (chain : Chain)
  | whilst (test : Condition) (body : List Statement)
  | assign (name : String) (value : Expression)
  | act (action : Action)

/-- The branches of an `if` in order. It ends in an `else` body or in nothing. -/
inductive Chain
  | done
  | otherwise (body : List Statement)
  | branch (test : Condition) (body : List Statement) (rest : Chain)

end

abbrev Block := List Statement

/-- The branches of a chain, apart from its `else` part. -/
def Chain.branches : Chain → List (Condition × List Statement)
  | .done => []
  | .otherwise _ => []
  | .branch test body rest => (test, body) :: rest.branches

def Chain.otherwise? : Chain → Option (List Statement)
  | .done => none
  | .otherwise body => some body
  | .branch _ _ rest => rest.otherwise?

mutual

def Statement.same : Statement → Statement → Bool
  | .loop a, .loop b => sameBlock a b
  | .choose a, .choose b => Chain.same a b
  | .whilst c a, .whilst d b => c == d && sameBlock a b
  | .assign x e, .assign y f => x == y && e == f
  | .act a, .act b => a == b
  | _, _ => false

def Chain.same : Chain → Chain → Bool
  | .done, .done => true
  | .otherwise a, .otherwise b => sameBlock a b
  | .branch c a r, .branch d b s => c == d && sameBlock a b && Chain.same r s
  | _, _ => false

def sameBlock : List Statement → List Statement → Bool
  | [], [] => true
  | a :: as, b :: bs => Statement.same a b && sameBlock as bs
  | _, _ => false

end

mutual

theorem Statement.same_iff : ∀ a b : Statement, Statement.same a b = true ↔ a = b
  | .loop a, b => by cases b <;> simp [Statement.same, sameBlock_iff a]
  | .choose a, b => by cases b <;> simp [Statement.same, Chain.same_iff a]
  | .whilst c a, b => by cases b <;> simp [Statement.same, sameBlock_iff a]
  | .assign x e, b => by cases b <;> simp [Statement.same]
  | .act a, b => by cases b <;> simp [Statement.same]

theorem Chain.same_iff : ∀ a b : Chain, Chain.same a b = true ↔ a = b
  | .done, b => by cases b <;> simp [Chain.same]
  | .otherwise a, b => by cases b <;> simp [Chain.same, sameBlock_iff a]
  | .branch c a r, b => by
    cases b <;> simp [Chain.same, sameBlock_iff a, Chain.same_iff r, and_assoc]

theorem sameBlock_iff : ∀ a b : List Statement, sameBlock a b = true ↔ a = b
  | [], b => by cases b <;> simp [sameBlock]
  | a :: as, b => by cases b <;> simp [sameBlock, Statement.same_iff a, sameBlock_iff as]

end

instance : DecidableEq Statement := fun a b =>
  decidable_of_iff _ (Statement.same_iff a b)

instance : DecidableEq Chain := fun a b =>
  decidable_of_iff _ (Chain.same_iff a b)

structure Program where
  statements : List Statement
deriving DecidableEq

instance : Inhabited Program := ⟨⟨[]⟩⟩

end ArenaScript
