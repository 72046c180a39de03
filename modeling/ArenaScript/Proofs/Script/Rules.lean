import ArenaScript.Proofs.Script.Opening
import ArenaScript.Script.Parser

/-! From steps to constructs. A construct is read in the same steps whatever reads its parts, so a
relation that the steps respect is one that the constructs respect. The two sides may be parsers of
different monads. A property of one parser is a relation that looks at its first side only. -/
namespace ArenaScript

/-- Neither the depth nor a variable is to blame. -/
def ParseFault.Syntactic (fault : ParseFault) : Prop :=
  fault ≠ .tooDeep ∧ ∀ name, fault ≠ .unbound name

namespace Parse

section Steps

variable {β : Type} {word : String} {s t : ParseState}

theorem rest_of_peek? {c : Cursor} (next : c.peek? = some word) :
    c.rest = word :: c.advance.rest := by
  obtain ⟨n, _ | ⟨first, tail⟩⟩ := c
  · simp [Cursor.peek?] at next
  · obtain rfl : first = word := by simpa [Cursor.peek?] using next
    rfl

theorem position_advance {c : Cursor} (next : c.peek? = some word) :
    c.advance.position = c.position + 1 := by
  rw [Cursor.advance, rest_of_peek? next]

theorem gobble_bind_cases {f : Bool → Parse β} {r : Except ParseError β}
    (run : (gobble word >>= f) s = (r, t)) :
    (s.cursor.peek? = some word ∧ f true { s with cursor := s.cursor.advance } = (r, t)) ∨
      (s.cursor.peek? ≠ some word ∧ f false s = (r, t)) := by
  by_cases here : s.cursor.peek? = some word
  · rw [Attempt.bind_ok ((gobble_apply word s).trans (if_pos here))] at run
    exact .inl ⟨here, run⟩
  · rw [Attempt.bind_ok ((gobble_apply word s).trans (if_neg here))] at run
    exact .inr ⟨here, run⟩

theorem expect_bind_eq (word : String) (fault : ParseFault) (f : Unit → Parse β) :
    (expect word fault >>= f) =
      (gobble word >>= fun found => if found then f () else refuse fault) := by
  rw [expect, bind_assoc]
  refine bind_congr fun found => ?_
  cases found <;> rfl

theorem readVariable_apply (name : String) (s : ParseState) :
    readVariable name s = if s.store.isDeclared name = true then
      (.ok (.var name), { s with cursor := s.cursor.advance }) else refuse (.unbound name) s := by
  change (if s.store.isDeclared name = true then _ else _ : Parse Expression) s = _
  split <;> rfl

theorem declare_apply (name : String) (s : ParseState) :
    ∃ ms, declare name s = (.ok (), ⟨s.cursor, s.store.declare name, ms⟩) := by
  change ∃ ms, (if s.store.isDeclared name = true then _ else _ : Parse Unit) s = (_, _)
  split
  · rename_i known
    rw [Store.declare, if_pos known]
    exact ⟨s.milestones, rfl⟩
  · exact ⟨.declared name :: s.milestones, rfl⟩

end Steps

def innerWords : List String :=
  Keyword.operators ++ Keyword.sensors ++ Keyword.conditions ++ ["(", ",", ")"]

def outerWords : List String :=
  Keyword.actions ++ ["loop", "if", "elif", "else", "while", "(", ")", "\x7b", "\x7d", ";"]

variable {m n : Type → Type} [Monad m] [Monad n] [MonadLiftT Parse m] [MonadLiftT Parse n]

/-- What has to be shown of the single steps. A `Part` may be read where the next token was looked
at already, an `Item` only where it was not, and `At word` is said of what is read where `word`
comes next. -/
structure Rules (Item Part : ∀ α : Type, m α → n α → Prop)
    (At : String → ∀ α : Type, m α → n α → Prop) (Passable : String → Prop) : Prop where
  item {α : Type} {x : m α} {y : n α} : Part α x y → Item α x y
  known {α : Type} {word : String} {x : m α} {y : n α} : Part α x y → At word α x y
  pure {α : Type} (a : α) : Part α (pure a) (pure a)
  refuse {α : Type} {fault : ParseFault} :
    fault.Syntactic → Part α (liftM (refuse fault : Parse α)) (liftM (refuse fault : Parse α))
  bind {α β : Type} {x : m α} {y : n α} {f : α → m β} {g : α → n β} :
    Part α x y → (∀ a, Part β (f a) (g a)) → Part β (x >>= f) (y >>= g)
  item_bind {α β : Type} {x : m α} {y : n α} {f : α → m β} {g : α → n β} :
    Item α x y → (∀ a, Part β (f a) (g a)) → Item β (x >>= f) (y >>= g)
  at_bind {α β : Type} {word : String} {x : m α} {y : n α} {f : α → m β} {g : α → n β} :
    At word α x y → (∀ a, Part β (f a) (g a)) → At word β (x >>= f) (y >>= g)
  peek_bind {β : Type} {f : Option String → m β} {g : Option String → n β} :
    Part β (f none) (g none) → (∀ word, At word β (f (some word)) (g (some word))) →
      Part β (liftM peek? >>= f) (liftM peek? >>= g)
  advance_bind {β : Type} {word : String} {f : Unit → m β} {g : Unit → n β} :
    Passable word → Part β (f ()) (g ()) → At word β (liftM advance >>= f) (liftM advance >>= g)
  gobble_bind {β : Type} {word : String} {yes no : m β} {yes' no' : n β} :
    Passable word → Item β yes yes' → Part β no no' →
      Part β (liftM (gobble word) >>= fun found => if found = true then yes else no)
        (liftM (gobble word) >>= fun found => if found = true then yes' else no')
  expect_bind {β : Type} {word : String} {fault : ParseFault} {f : Unit → m β} {g : Unit → n β} :
    Passable word → fault.Syntactic → Item β (f ()) (g ()) →
      Part β (liftM (expect word fault) >>= f) (liftM (expect word fault) >>= g)

variable {Value Item Part : ∀ α : Type, m α → n α → Prop}
  {At : String → ∀ α : Type, m α → n α → Prop} {Passable : String → Prop}

theorem Rules.choose (rules : Rules Item Part At Passable) {α β : Type}
    {read? : String → Option β} {fault : ParseFault} {next : β → m α} {next' : β → n α}
    (syntactic : fault.Syntactic)
    (each : ∀ word b, read? word = some b → At word α (next b) (next' b)) :
    Part α (choose read? fault next) (choose read? fault next') := by
  refine rules.peek_bind (rules.refuse syntactic) ?_
  intro word
  rw [Option.bind_some]
  cases found : read? word with
  | none => exact rules.known (rules.refuse syntactic)
  | some b => exact each word b found

structure ValueRules (Item Part : ∀ α : Type, m α → n α → Prop)
    (At : String → ∀ α : Type, m α → n α → Prop) (Passable : String → Prop) : Prop
    extends Rules Item Part At Passable where
  inner : ∀ word ∈ innerWords, Passable word
  number {word : String} : Word.isNumber word = true →
    At word Expression (liftM (readNumber word)) (liftM (readNumber word))
  var {name : String} : Word.isVariable name = true →
    At name Expression (liftM (readVariable name)) (liftM (readVariable name))

namespace ValueRules

variable (rules : ValueRules Item Part At Passable)

include rules

section Arguments

variable {α : Type} {x : m α} {y : n α} (owner : String) (parts : Item α x y)

include parts

theorem pair : Part (α × α) (pair owner x) (pair owner y) := by
  apply rules.expect_bind (rules.inner _ (by decide)) ⟨by simp, by simp⟩
  apply rules.item_bind parts
  intro first
  apply rules.expect_bind (rules.inner _ (by decide)) ⟨by simp, by simp⟩
  apply rules.item_bind parts
  intro second
  apply rules.expect_bind (rules.inner _ (by decide)) ⟨by simp, by simp⟩
  exact rules.item (rules.pure _)

theorem optionalArgument :
    Part (Option α) (optionalArgument owner x) (optionalArgument owner y) := by
  apply rules.gobble_bind (rules.inner _ (by decide))
  · apply rules.item_bind parts
    intro argument
    apply rules.expect_bind (rules.inner _ (by decide)) ⟨by simp, by simp⟩
    exact rules.item (rules.pure _)
  · exact rules.pure none

end Arguments

theorem expressionOf {x : m Expression} {y : n Expression} (parts : Item _ x y) :
    Part Expression (expressionOf x) (expressionOf y) := by
  apply rules.choose ⟨by simp, by simp⟩
  intro word opening found
  obtain ⟨rfl, valid⟩ := Expression.Opening.word_of_ofWord? found
  cases opening with
  | operator o =>
    apply rules.advance_bind (rules.inner _ (by cases o <;> decide))
    exact rules.bind (rules.pair _ parts) fun both => rules.pure _
  | gauge g =>
    apply rules.advance_bind (rules.inner _ (by rcases g with _ | (_ | _) | _ | _ <;> decide))
    exact rules.pure _
  | barrel axis =>
    apply rules.advance_bind (rules.inner _ (by cases axis <;> decide))
    apply rules.bind (rules.optionalArgument _ parts)
    rintro (_ | index)
    · exact rules.pure _
    · exact rules.pure _
  | number literal => exact rules.number valid
  | var name => exact rules.var valid

theorem conditionOf {x : m Expression} {y : n Expression} {x' : m Condition} {y' : n Condition}
    (values : Item _ x y) (parts : Item _ x' y') :
    Part Condition (conditionOf x x') (conditionOf y y') := by
  apply rules.choose ⟨by simp, by simp⟩
  intro word opening found
  obtain rfl := Condition.Opening.word_of_ofWord? found
  cases opening with
  | compare r =>
    apply rules.advance_bind (rules.inner _ (by cases r <;> decide))
    exact rules.bind (rules.pair _ values) fun both => rules.pure _
  | and | or =>
    apply rules.advance_bind (rules.inner _ (by decide))
    exact rules.bind (rules.pair _ parts) fun both => rules.pure _
  | not =>
    apply rules.advance_bind (rules.inner _ (by decide))
    apply rules.expect_bind (rules.inner _ (by decide)) ⟨by simp, by simp⟩
    apply rules.item_bind parts
    intro inner
    apply rules.expect_bind (rules.inner _ (by decide)) ⟨by simp, by simp⟩
    exact rules.item (rules.pure _)

end ValueRules

/-- Rules for relations that statements respect, with a relation of its own for the expressions and
conditions in them. A word that closes such a value is passed together with it. -/
structure StatementRules (Value Item Part : ∀ α : Type, m α → n α → Prop)
    (At : String → ∀ α : Type, m α → n α → Prop) (Passable : String → Prop) : Prop
    extends Rules Item Part At Passable where
  outer : ∀ word ∈ outerWords, Passable word
  closed {α β : Type} {x : m α} {y : n α} {word : String} {fault : ParseFault} {f : α → m β}
      {g : α → n β} :
    word ∈ outerWords → fault.Syntactic → Value α x y → (∀ a, Item β (f a) (g a)) →
      Item β (x >>= fun a => liftM (expect word fault) >>= fun _ => f a)
        (y >>= fun a => liftM (expect word fault) >>= fun _ => g a)
  argument {α β : Type} {x : m α} {y : n α} {owner word : String} {fault : ParseFault}
      {f : Option α → m β} {g : Option α → n β} :
    word ∈ outerWords → fault.Syntactic → Value α x y → (∀ a, Item β (f a) (g a)) →
      Part β (optionalArgument owner x >>= fun a => liftM (expect word fault) >>= fun _ => f a)
        (optionalArgument owner y >>= fun a => liftM (expect word fault) >>= fun _ => g a)
  assign {x : m Expression} {y : n Expression} {name : String} :
    Word.isVariable name = true → Value _ x y → At name Statement
      (liftM advance >>= fun _ => assignment name x) (liftM advance >>= fun _ => assignment name y)
  note (milestone : Milestone) : Part Unit (liftM (note milestone)) (liftM (note milestone))

/-- A relation of which no word needs a rule of its own, and that expressions respect. -/
theorem ValueRules.forStatements (rules : ValueRules Item Part At Passable)
    (free : ∀ word, Passable word)
    (note : ∀ milestone, Part Unit (liftM (note milestone)) (liftM (note milestone)))
    (declare : ∀ name, Part Unit (liftM (declare name)) (liftM (declare name))) :
    StatementRules Item Item Part At Passable where
  toRules := rules.toRules
  outer word _ := free word
  closed _ syntactic values next :=
    rules.item_bind values fun a => rules.expect_bind (free _) syntactic (next a)
  argument _ syntactic values next :=
    rules.bind (rules.optionalArgument _ values) fun a =>
      rules.expect_bind (free _) syntactic (next a)
  assign {x y name} _ values := by
    apply rules.advance_bind (free _)
    apply rules.expect_bind (free _) ⟨by simp, by simp⟩
    apply rules.item_bind values
    intro value
    apply rules.expect_bind (free _) ⟨by simp, by simp⟩
    exact rules.item (rules.bind (declare name) fun declared => rules.pure _)
  note := note

namespace StatementRules

variable (rules : StatementRules Value Item Part At Passable)

include rules

section Blocks

variable {x : m Statement} {y : n Statement} {xs : m (List Statement)} {ys : n (List Statement)}
  {c : m Condition} {d : n Condition} {block : String → m Block} {block' : String → n Block}
  {tail : m Chain} {tail' : n Chain}

theorem guarded (owner : String) (tests : Value _ c d) :
    Part Condition (guarded owner c) (guarded owner d) := by
  apply rules.expect_bind (rules.outer _ (by decide)) ⟨by simp, by simp⟩
  apply rules.closed (by decide) ⟨by simp, by simp⟩ tests
  intro test
  exact rules.item (rules.pure test)

theorem closingOf (owner : String) (each : Part _ x y) (more : Part _ xs ys) :
    Part (List Statement) (closingOf owner x xs) (closingOf owner y ys) := by
  apply rules.gobble_bind (rules.outer _ (by decide)) (rules.item (rules.pure []))
  apply rules.peek_bind (rules.refuse ⟨by simp, by simp⟩)
  intro word
  apply rules.known
  apply rules.bind each
  intro first
  exact rules.bind more fun others => rules.pure _

theorem blockOf (owner : String) (each : Item _ x y) (more : Part _ xs ys) :
    Part (List Statement) (blockOf owner x xs) (blockOf owner y ys) := by
  apply rules.expect_bind (rules.outer _ (by decide)) ⟨by simp, by simp⟩
  apply rules.item_bind each
  intro first
  exact rules.bind more fun others => rules.pure _

theorem chainOf (tests : Value _ c d) (blocks : ∀ owner, Part _ (block owner) (block' owner))
    (more : Part _ tail tail') : Part Chain (chainOf c block tail) (chainOf d block' tail') := by
  apply rules.gobble_bind (rules.outer _ (by decide))
  · apply rules.item
    apply rules.bind (rules.guarded _ tests)
    intro test
    apply rules.bind (blocks _)
    intro body
    exact rules.bind more fun rest => rules.pure _
  · apply rules.gobble_bind (rules.outer _ (by decide))
    · exact rules.item (rules.bind (blocks _) fun body => rules.pure _)
    · exact rules.pure _

theorem statementsOf (each : Part _ x y) (more : Part _ xs ys) :
    Part (List Statement) (statementsOf x xs) (statementsOf y ys) := by
  apply rules.peek_bind (rules.pure [])
  intro word
  apply rules.known
  apply rules.bind each
  intro first
  exact rules.bind more fun others => rules.pure _

theorem programOf (body : Part _ xs ys) : Part Program (programOf xs) (programOf ys) := by
  apply rules.peek_bind (rules.refuse ⟨by simp, by simp⟩)
  intro word
  exact rules.known (rules.bind body fun statements => rules.pure _)

theorem statementOf {v : m Expression} {w : n Expression} (values : Value _ v w)
    (tests : Value _ c d) (blocks : ∀ owner, Part _ (block owner) (block' owner))
    (tails : Part _ tail tail') :
    Part Statement (statementOf v c block tail) (statementOf w d block' tail') := by
  apply rules.choose ⟨by simp, by simp⟩
  intro word opening found
  obtain ⟨rfl, valid⟩ := Statement.Opening.word_of_ofWord? found
  refine rules.at_bind ?_ fun parsed => rules.bind (rules.note _) fun noted => rules.pure _
  cases opening with
  | loop =>
    apply rules.advance_bind (rules.outer _ (by decide))
    exact rules.bind (blocks _) fun body => rules.pure _
  | choose =>
    apply rules.advance_bind (rules.outer _ (by decide))
    apply rules.bind (rules.guarded _ tests)
    intro test
    apply rules.bind (blocks _)
    intro body
    exact rules.bind tails fun rest => rules.pure _
  | whilst =>
    apply rules.advance_bind (rules.outer _ (by decide))
    apply rules.bind (rules.guarded _ tests)
    intro test
    exact rules.bind (blocks _) fun body => rules.pure _
  | assign name => exact rules.assign valid values
  | pace p =>
    apply rules.advance_bind (rules.outer _ (by cases p <;> decide))
    apply rules.argument (by decide) ⟨by simp, by simp⟩ values
    intro count
    exact rules.item (rules.pure _)
  | order o =>
    apply rules.advance_bind (rules.outer _ (by cases o <;> decide))
    apply rules.expect_bind (rules.outer _ (by decide)) ⟨by simp, by simp⟩
    exact rules.item (rules.pure _)

end Blocks

end StatementRules

section Runs

variable (P : ∀ α : Type, Parse α → ParseState → Prop)

def Always (α : Type) (p _ : Parse α) : Prop := ∀ s, P α p s

def Before (word : String) (α : Type) (p _ : Parse α) : Prop :=
  ∀ s, s.cursor.peek? = some word → P α p s

structure RunRules (Passable : String → Prop) : Prop where
  pure {α : Type} (a : α) (s : ParseState) : P α (pure a) s
  refuse {α : Type} {fault : ParseFault} (s : ParseState) : fault.Syntactic → P α (refuse fault) s
  bind {α β : Type} {p : Parse α} {f : α → Parse β} {s : ParseState} :
    P α p s → (∀ a m, P β (f a) m) → P β (p >>= f) s
  peek_bind {β : Type} {f : Option String → Parse β} {s : ParseState} :
    P β (f s.cursor.peek?) s → P β (peek? >>= f) s
  advance {word : String} {s : ParseState} :
    Passable word → s.cursor.peek? = some word → P Unit advance s

variable {P} {Passable : String → Prop} {word : String}

theorem RunRules.gobble (rules : RunRules P Passable) (passable : Passable word) (s : ParseState) :
    P Bool (gobble word) s := by
  apply rules.peek_bind
  split
  · rename_i here
    exact rules.bind (rules.advance passable here) fun _ => rules.pure true
  · exact rules.pure false s

theorem RunRules.toRules (rules : RunRules P Passable) :
    Rules (Always P) (Always P) (Before P) Passable where
  item each := each
  known each s _ := each s
  pure := rules.pure
  refuse syntactic s := rules.refuse s syntactic
  bind first second s := rules.bind (first s) second
  item_bind first second s := rules.bind (first s) second
  at_bind first second s here := rules.bind (first s here) second
  peek_bind {β f g} ended each s := by
    apply rules.peek_bind
    cases here : s.cursor.peek? with
    | none => exact ended s
    | some word => exact each word s here
  advance_bind passable next s here := rules.bind (rules.advance passable here) fun _ => next
  gobble_bind passable yes no s := by
    refine rules.bind (rules.gobble passable s) ?_
    rintro (_ | _)
    · exact no
    · exact yes
  expect_bind {β word fault f g} passable syntactic next s := by
    show P β (expect word fault >>= f) s
    rw [expect_bind_eq]
    refine rules.bind (rules.gobble passable s) ?_
    rintro (_ | _)
    · exact fun m => rules.refuse m syntactic
    · exact next

theorem RunRules.readNumber (rules : RunRules P Passable) (passable : Passable word)
    {s : ParseState} (here : s.cursor.peek? = some word) : P Expression (readNumber word) s := by
  unfold Parse.readNumber
  dsimp only
  split
  · exact rules.bind (rules.advance passable here) fun _ => rules.pure _
  · exact rules.refuse s ⟨by simp, by simp⟩

end Runs

section Recursion

variable {Value Item Part : ∀ α : Type, Parse α → Parse α → Prop}
  {At : String → ∀ α : Type, Parse α → Parse α → Prop} {Passable : String → Prop}

theorem ValueRules.expression (rules : ValueRules Item Part At Passable)
    (tooDeep : ∀ α, Item α (refuse .tooDeep) (refuse .tooDeep)) (levels : Nat) :
    Item Expression (expression levels) (expression levels) := by
  induction levels with
  | zero => exact tooDeep _
  | succ levels ih => exact rules.item (rules.expressionOf ih)

theorem ValueRules.condition (rules : ValueRules Item Part At Passable)
    (tooDeep : ∀ α, Item α (refuse .tooDeep) (refuse .tooDeep)) (levels : Nat) :
    Item Condition (condition levels) (condition levels) := by
  induction levels with
  | zero => exact tooDeep _
  | succ levels ih => exact rules.item (rules.conditionOf (rules.expression tooDeep levels) ih)

namespace StatementRules

variable (rules : StatementRules Value Item Part At Passable) {item : Parse Statement}

include rules

theorem untilClosed (each : Part _ item item) (owner : String) (fuel : Nat) :
    Part _ (untilClosed owner item fuel) (untilClosed owner item fuel) := by
  induction fuel with
  | zero => exact rules.refuse ⟨by simp, by simp⟩
  | succ fuel ih => exact rules.closingOf owner each ih

theorem block {owner : String} (each : Item _ item item)
    (closing : Part _ (remaining >>= fun count => Parse.untilClosed owner item (count + 1))
      (remaining >>= fun count => Parse.untilClosed owner item (count + 1))) :
    Part _ (block owner item) (block owner item) :=
  rules.blockOf owner each closing

theorem chainTail {test : Parse Condition} (tests : Value _ test test)
    (blocks : ∀ owner, Part _ (Parse.block owner item) (Parse.block owner item)) (fuel : Nat) :
    Part _ (chainTail test item fuel) (chainTail test item fuel) := by
  induction fuel with
  | zero => exact rules.pure _
  | succ fuel ih => exact rules.chainOf tests blocks ih

theorem statement {levels : Nat} (values : Value _ (expression levels) (expression levels))
    (tests : Value _ (condition levels) (condition levels))
    (blocks : ∀ owner, Part _ (Parse.block owner (Parse.statement levels))
      (Parse.block owner (Parse.statement levels)))
    (tails : Part _ (remaining >>= Parse.chainTail (condition levels) (Parse.statement levels))
      (remaining >>= Parse.chainTail (condition levels) (Parse.statement levels))) :
    Part _ (statement (levels + 1)) (statement (levels + 1)) :=
  rules.statementOf values tests blocks tails

theorem statements (each : Part _ (Parse.statement maxNesting) (Parse.statement maxNesting))
    (fuel : Nat) : Part _ (statements fuel) (statements fuel) := by
  induction fuel with
  | zero => exact rules.pure _
  | succ fuel ih => exact rules.statementsOf each ih

theorem program (body : Part _ (remaining >>= Parse.statements) (remaining >>= Parse.statements)) :
    Part _ program program :=
  rules.programOf body

end StatementRules

/-- Rules for relations to which it does not matter how often a loop may go round. -/
structure LoopRules (Value Item Part : ∀ α : Type, Parse α → Parse α → Prop)
    (At : String → ∀ α : Type, Parse α → Parse α → Prop) (Passable : String → Prop) : Prop
    extends StatementRules Value Item Part At Passable where
  expression (levels : Nat) : Value _ (expression levels) (expression levels)
  condition (levels : Nat) : Value _ (condition levels) (condition levels)
  tooDeep : Part Statement (Parse.refuse .tooDeep) (Parse.refuse .tooDeep)
  remaining_bind {β : Type} {f g : Nat → Parse β} :
    (∀ count, Part β (f count) (g count)) → Part β (remaining >>= f) (remaining >>= g)

namespace LoopRules

variable (rules : LoopRules Value Item Part At Passable)

include rules

theorem eachBlock {item : Parse Statement} (each : Part _ item item) (owner : String) :
    Part _ (block owner item) (block owner item) := by
  apply rules.block (rules.item each)
  apply rules.remaining_bind
  intro count
  exact rules.untilClosed each owner _

theorem eachStatement (levels : Nat) : Part _ (statement levels) (statement levels) := by
  induction levels with
  | zero => exact rules.tooDeep
  | succ levels ih =>
    apply rules.statement (rules.expression levels) (rules.condition levels) (rules.eachBlock ih)
    apply rules.remaining_bind
    exact rules.chainTail (rules.condition levels) (rules.eachBlock ih)

theorem wholeProgram : Part _ program program := by
  apply rules.program
  apply rules.remaining_bind
  exact rules.statements (rules.eachStatement maxNesting)

end LoopRules

end Recursion

end Parse

end ArenaScript
