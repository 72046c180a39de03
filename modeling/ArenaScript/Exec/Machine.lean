import ArenaScript.Attempt
import ArenaScript.Exec.Fault
import ArenaScript.Host.Basic
import ArenaScript.Store

/-!
Running a program. A `Machine` holds the state of the host, the variables, the number of deeds and
a trace of everything that happened. Expressions and conditions are evaluated from left to right;
`and` and `or` skip their right side once the left one decides.

Loops that need not end take a bound on their passes. Running out of it is an outcome of its own
and not a fault of the program.
-/

namespace ArenaScript

inductive Event
  | sensed (query : Query) (answer : Value)
  | performed (deed : Deed)
  | assigned (name : String) (value : Value)
  | ticked (tick : Nat) (actions : Nat)
deriving DecidableEq, Repr

/-- The trace is kept newest first. -/
structure Machine (σ : Type) where
  host : σ
  store : Store
  actions : Nat
  trace : List Event

def Machine.start {σ : Type} (host : σ) (store : Store) : Machine σ := ⟨host, store, 0, []⟩

def Machine.events {σ : Type} (m : Machine σ) : List Event := m.trace.reverse

/-- How a `loop` statement repeats its body: once, or up to a limit, or for ever. -/
inductive LoopPolicy
  | singlePass
  | repeated (limit : Option Nat)
deriving DecidableEq, Repr

inductive Halt
  | fault (fault : Fault)
  | outOfFuel
deriving DecidableEq, Repr

abbrev Eval (σ : Type) := Attempt Fault (Machine σ)

abbrev Exec (σ : Type) := Attempt Halt (Machine σ)

variable {σ : Type}

def lookUp (name : String) : Eval σ Value := fun m =>
  match m.store.get? name with
  | some value => (.ok value, m)
  | none => (.error (.unbound name), m)

def sense (host : Host σ) (query : Query) : Eval σ Value := fun m =>
  let (answer, state) := host.sense query m.host
  (.ok answer, { m with host := state, trace := .sensed query answer :: m.trace })

def Expression.eval (host : Host σ) : Expression → Eval σ Value
  | .number value => pure value
  | .var name => lookUp name
  | .gauge g => sense host (.gauge g)
  | .barrel axis => sense host (.barrel axis 0)
  | .barrelAt axis index => do sense host (.barrel axis (← index.eval host))
  | .op o lhs rhs => do
    let a ← lhs.eval host
    let b ← rhs.eval host
    Attempt.ofExcept (o.apply a b)

def Condition.eval (host : Host σ) : Condition → Eval σ Bool
  | .compare r lhs rhs => do
    let a ← lhs.eval host
    let b ← rhs.eval host
    return r.holds a b
  | .and lhs rhs => do
    if ← lhs.eval host then rhs.eval host else return false
  | .or lhs rhs => do
    if ← lhs.eval host then return true else rhs.eval host
  | .not inner => do
    let b ← inner.eval host
    return !b

def perform (host : Host σ) (deed : Deed) (m : Machine σ) : Machine σ :=
  { m with
    host := host.perform deed m.host
    actions := m.actions + 1
    trace := .performed deed :: m.trace }

def performTimes (host : Host σ) (deed : Deed) : Nat → Machine σ → Machine σ
  | 0, m => m
  | n + 1, m => performTimes host deed n (perform host deed m)

def assign (name : String) (value : Value) (m : Machine σ) : Machine σ :=
  { m with store := m.store.set name value, trace := .assigned name value :: m.trace }

/-- The number of times that a count asks for. Without a count it is one, and a count below one
asks for none. -/
def repeatCount (host : Host σ) : Option Expression → Eval σ Nat
  | none => pure 1
  | some count => do return (← count.eval host).toInt.toNat

def Action.exec (host : Host σ) : Action → Eval σ Unit
  | .pace p count => do
    let times ← repeatCount host count
    Attempt.modify (performTimes host p.deed times)
  | .order o => Attempt.modify (perform host o.deed)

/-- Runs a body a fixed number of times, up to the first halt. -/
def passes (body : Exec σ Unit) : Nat → Exec σ Unit
  | 0, m => (.ok (), m)
  | n + 1, m =>
    match body m with
    | (.ok (), m) => passes body n m
    | (.error h, m) => (.error h, m)

def forever (body : Exec σ Unit) : Nat → Exec σ Unit
  | 0, m => (.error .outOfFuel, m)
  | fuel + 1, m =>
    match body m with
    | (.ok (), m) => forever body fuel m
    | (.error h, m) => (.error h, m)

def whilst (test : Eval σ Bool) (body : Exec σ Unit) : Nat → Exec σ Unit
  | 0, m => (.error .outOfFuel, m)
  | fuel + 1, m =>
    match test m with
    | (.error f, m) => (.error (.fault f), m)
    | (.ok false, m) => (.ok (), m)
    | (.ok true, m) =>
      match body m with
      | (.ok (), m) => whilst test body fuel m
      | (.error h, m) => (.error h, m)

def LoopPolicy.run (policy : LoopPolicy) (fuel : Nat) (body : Exec σ Unit) : Exec σ Unit :=
  match policy with
  | .singlePass => body
  | .repeated (some limit) => passes body limit
  | .repeated none => forever body fuel

mutual

/-- Runs one statement. Each loop that need not end makes at most `fuel` passes. -/
def Statement.exec (host : Host σ) (policy : LoopPolicy) (fuel : Nat) : Statement → Exec σ Unit
  | .loop body => policy.run fuel (execBody host policy fuel body)
  | .choose chain => chain.exec host policy fuel
  | .whilst test body => ArenaScript.whilst (test.eval host) (execBody host policy fuel body) fuel
  | .assign name value => do
    let v ← (value.eval host).mapError .fault
    Attempt.modify (ArenaScript.assign name v)
  | .act action => (action.exec host).mapError .fault

def Chain.exec (host : Host σ) (policy : LoopPolicy) (fuel : Nat) : Chain → Exec σ Unit
  | .done => pure ()
  | .otherwise body => execBody host policy fuel body
  | .branch test body rest => do
    if ← (test.eval host).mapError .fault then execBody host policy fuel body
    else rest.exec host policy fuel

def execBody (host : Host σ) (policy : LoopPolicy) (fuel : Nat) : List Statement → Exec σ Unit
  | [] => pure ()
  | s :: rest => do
    s.exec host policy fuel
    execBody host policy fuel rest

end

def Program.exec (host : Host σ) (policy : LoopPolicy) (fuel : Nat) (p : Program) : Exec σ Unit :=
  execBody host policy fuel p.statements

end ArenaScript
