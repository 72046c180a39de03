import ArenaScript.Attempt
import ArenaScript.Program.Render
import ArenaScript.Script.Error
import ArenaScript.Script.Opening
import ArenaScript.Store

/-!
From tokens to trees, by recursive descent. Each choice looks at one token and takes none before
it is known to fit, so an error points at the first token that cannot be accepted.

An assignment declares its variable once its semicolon was read, and a variable is accepted only
when it is declared. What is read where does not depend on how the parts of a construct are read,
so each construct is written for any monad that the steps of a parse can be lifted to. The first
argument of `expression`, `condition` and `statement` is the number of nesting levels that are left.
-/

namespace ArenaScript

inductive Milestone
  | declared (name : String)
  | parsed (statement : Statement)

/-- The state of a parse. Milestones are kept newest first. -/
structure ParseState where
  cursor : Cursor
  store : Store
  milestones : List Milestone

abbrev Parse := Attempt ParseError ParseState

namespace Parse

def refuse {α : Type} (fault : ParseFault) : Parse α := fun s =>
  (.error ⟨fault, s.cursor.position, s.cursor.upcoming quotedTokens⟩, s)

def peek? : Parse (Option String) := fun s => (.ok s.cursor.peek?, s)

def advance : Parse Unit := Attempt.modify fun s => { s with cursor := s.cursor.advance }

def note (m : Milestone) : Parse Unit :=
  Attempt.modify fun s => { s with milestones := m :: s.milestones }

/-- Passes the token `word` if it comes next, and says whether it did. -/
def gobble (word : String) : Parse Bool := do
  if (← peek?) = some word then
    advance
    return true
  else
    return false

theorem gobble_apply (word : String) (s : ParseState) :
    gobble word s = if s.cursor.peek? = some word then
      (.ok true, { s with cursor := s.cursor.advance }) else (.ok false, s) := by
  show (if s.cursor.peek? = some word then _ else _ : Parse Bool) s = _
  split <;> rfl

def expect (word : String) (fault : ParseFault) : Parse Unit := do
  if ← gobble word then
    return
  else
    refuse fault

def remaining : Parse Nat := fun s => (.ok s.cursor.rest.length, s)

/-- Reads the number at the cursor. It has to fit a value. -/
def readNumber (word : String) : Parse Expression := do
  let n := Word.toInt word
  if Int32.minValue.toInt ≤ n ∧ n ≤ Int32.maxValue.toInt then
    advance
    return .number (Int32.ofInt n)
  else
    refuse (.outOfRange word)

/-- Reads the variable at the cursor. It has to be declared. -/
def readVariable (name : String) : Parse Expression := do
  if (← Attempt.state).store.isDeclared name then
    advance
    return .var name
  else
    refuse (.unbound name)

def declare (name : String) : Parse Unit := do
  unless (← Attempt.state).store.isDeclared name do
    Attempt.modify fun s => { s with store := s.store.declare name }
    note (.declared name)

section Constructs

variable {m : Type → Type} [Monad m] [MonadLiftT Parse m] {α β : Type}

/-- Goes on as the token at the cursor says. One that says nothing is refused. -/
def choose (read? : String → Option β) (fault : ParseFault) (next : β → m α) : m α := do
  match (← peek?).bind read? with
  | none => refuse fault
  | some b => next b

def pair (owner : String) (item : m α) : m (α × α) := do
  expect "(" (.argumentsUnopened owner)
  let first ← item
  expect "," (.argumentsUndivided owner)
  let second ← item
  expect ")" (.argumentsUnclosed owner)
  return (first, second)

def optionalArgument (owner : String) (item : m α) : m (Option α) := do
  if ← gobble "(" then
    let argument ← item
    expect ")" (.argumentUnclosed owner)
    return some argument
  else
    return none

def expressionFrom (item : m Expression) : Expression.Opening → m Expression
  | .operator o => do
    advance
    let (lhs, rhs) ← pair o.keyword item
    return .op o lhs rhs
  | .gauge g => do
    advance
    return .gauge g
  | .barrel axis => do
    advance
    match ← optionalArgument axis.barrelKeyword item with
    | none => return .barrel axis
    | some index => return .barrelAt axis index
  | .number literal => readNumber literal
  | .var name => readVariable name

def expressionOf (item : m Expression) : m Expression :=
  choose Expression.Opening.ofWord? .expressionExpected (expressionFrom item)

def conditionFrom (value : m Expression) (item : m Condition) : Condition.Opening → m Condition
  | .compare r => do
    advance
    let (lhs, rhs) ← pair r.keyword value
    return .compare r lhs rhs
  | .and => do
    advance
    let (lhs, rhs) ← pair "and" item
    return .and lhs rhs
  | .or => do
    advance
    let (lhs, rhs) ← pair "or" item
    return .or lhs rhs
  | .not => do
    advance
    expect "(" (.argumentsUnopened "not")
    let inner ← item
    expect ")" (.argumentUnclosed "not")
    return .not inner

def conditionOf (value : m Expression) (item : m Condition) : m Condition :=
  choose Condition.Opening.ofWord? .conditionExpected (conditionFrom value item)

def guarded (owner : String) (test : m Condition) : m Condition := do
  expect "(" (.argumentsUnopened owner)
  let c ← test
  expect ")" (.conditionUnclosed owner)
  return c

/-- The closing brace, or a statement and `more` behind it. -/
def closingOf (owner : String) (item : m Statement) (more : m (List Statement)) :
    m (List Statement) := do
  if ← gobble "\x7d" then
    return []
  else if (← peek?).isNone then
    refuse (.blockUnclosed owner)
  else
    let s ← item
    return s :: (← more)

def blockOf (owner : String) (item : m Statement) (more : m (List Statement)) :
    m (List Statement) := do
  expect "\x7b" (.blockUnopened owner)
  let first ← item
  return first :: (← more)

/-- An `elif` branch and `more` behind it, the `else` part, or nothing. -/
def chainOf (test : m Condition) (block : String → m Block) (more : m Chain) : m Chain := do
  if ← gobble "elif" then
    let c ← guarded "elif" test
    let body ← block "elif"
    return .branch c body (← more)
  else if ← gobble "else" then
    return .otherwise (← block "else")
  else
    return .done

/-- The rest of an assignment to `name`, from the equals sign on. -/
def assignment (name : String) (item : m Expression) : m Statement := do
  expect "=" .equalsExpected
  let value ← item
  expect ";" .assignmentUnclosed
  declare name
  return .assign name value

def statementFrom (value : m Expression) (test : m Condition) (block : String → m Block)
    (tail : m Chain) : Statement.Opening → m Statement
  | .loop => do
    advance
    return .loop (← block "loop")
  | .choose => do
    advance
    let c ← guarded "if" test
    let body ← block "if"
    return .choose (.branch c body (← tail))
  | .whilst => do
    advance
    let c ← guarded "while" test
    return .whilst c (← block "while")
  | .assign name => do
    advance
    assignment name value
  | .pace p => do
    advance
    let count ← optionalArgument p.keyword value
    expect ";" (.actionUnclosed p.keyword)
    return .act (.pace p count)
  | .order o => do
    advance
    expect ";" (.actionUnclosed o.keyword)
    return .act (.order o)

def statementOf (value : m Expression) (test : m Condition) (block : String → m Block)
    (tail : m Chain) : m Statement :=
  choose Statement.Opening.ofWord? .statementExpected fun opening => do
    let s ← statementFrom value test block tail opening
    note (.parsed s)
    return s

def statementsOf (item : m Statement) (more : m (List Statement)) : m (List Statement) := do
  if (← peek?).isNone then
    return []
  else
    let s ← item
    return s :: (← more)

def programOf (body : m (List Statement)) : m Program := do
  if (← peek?).isNone then
    refuse .emptyProgram
  else
    return ⟨← body⟩

end Constructs

def expression : Nat → Parse Expression
  | 0 => refuse .tooDeep
  | levels + 1 => expressionOf (expression levels)

def condition : Nat → Parse Condition
  | 0 => refuse .tooDeep
  | levels + 1 => conditionOf (expression levels) (condition levels)

/-- Statements up to the closing brace. There are at most as many as there are tokens. -/
def untilClosed (owner : String) (item : Parse Statement) : Nat → Parse (List Statement)
  | 0 => refuse (.blockUnclosed owner)
  | fuel + 1 => closingOf owner item (untilClosed owner item fuel)

def block (owner : String) (item : Parse Statement) : Parse (List Statement) :=
  blockOf owner item do untilClosed owner item ((← remaining) + 1)

def chainTail (test : Parse Condition) (item : Parse Statement) : Nat → Parse Chain
  | 0 => return .done
  | fuel + 1 => chainOf test (block · item) (chainTail test item fuel)

def statement : Nat → Parse Statement
  | 0 => refuse .tooDeep
  | levels + 1 => statementOf (expression levels) (condition levels) (block · (statement levels)) do
    chainTail (condition levels) (statement levels) (← remaining)

def statements : Nat → Parse (List Statement)
  | 0 => return []
  | fuel + 1 => statementsOf (statement maxNesting) (statements fuel)

def program : Parse Program := programOf do statements (← remaining)

def whole {α : Type} (item : Parse α) : Parse α := do
  let a ← item
  if (← peek?).isNone then
    return a
  else
    refuse .leftover

end Parse

/-- The outcome of a parse: the result, the store with the names that were declared on the way,
and the milestones in order. -/
structure Parsed (α : Type) where
  result : Except ParseError α
  store : Store
  milestones : List Milestone

def Parse.run {α : Type} (p : Parse α) (text : String) (store : Store) : Parsed α :=
  let (result, s) := p ⟨Cursor.ofText text, store, []⟩
  ⟨result, s.store, s.milestones.reverse⟩

def Program.parse (text : String) (store : Store) : Parsed Program :=
  Parse.program.run text store

def Expression.parse (text : String) (store : Store) : Parsed Expression :=
  (Parse.whole (Parse.expression maxNesting)).run text store

def Condition.parse (text : String) (store : Store) : Parsed Condition :=
  (Parse.whole (Parse.condition maxNesting)).run text store

/-- Parses a program with a store of its own, which declares the variables it assigns. -/
def Program.parseFresh (text : String) : Except ParseError (Program × Store) :=
  let parsed := Program.parse text .empty
  parsed.result.map (·, parsed.store)

def canonicalize (text : String) : Except ParseError String :=
  (Program.parseFresh text).map (·.1.render)

end ArenaScript
