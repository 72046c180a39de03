import ArenaScript.Proofs.Keyword
import ArenaScript.Store

/-! The grammar of scripts as relations between token lists and trees, one rule for each
alternative of the grammar. No parser, no limit and no store is used here. The nesting limit and
the rule that a variable is assigned before it is read are conditions of their own. -/
namespace ArenaScript

inductive Expression.Derives : List String → Expression → Prop where
  | number {word : String} {value : Value} (numeral : Word.isNumber word = true)
      (stands : Word.toInt word = value.toInt) : Derives [word] (.number value)
  | var {name : String} (form : Word.isVariable name = true) : Derives [name] (.var name)
  | gauge (g : Gauge) : Derives [g.keyword] (.gauge g)
  | barrel (axis : Axis) : Derives [axis.barrelKeyword] (.barrel axis)
  | barrelAt {ts : List String} {index : Expression} (axis : Axis) (inner : Derives ts index) :
      Derives (axis.barrelKeyword :: "(" :: (ts ++ [")"])) (.barrelAt axis index)
  | op {ts us : List String} {lhs rhs : Expression} (o : Operator) (left : Derives ts lhs)
      (right : Derives us rhs) :
      Derives (o.keyword :: "(" :: (ts ++ "," :: (us ++ [")"]))) (.op o lhs rhs)

inductive Condition.Derives : List String → Condition → Prop where
  | compare {ts us : List String} {lhs rhs : Expression} (r : Relation)
      (left : Expression.Derives ts lhs) (right : Expression.Derives us rhs) :
      Derives (r.keyword :: "(" :: (ts ++ "," :: (us ++ [")"]))) (.compare r lhs rhs)
  | and {ts us : List String} {lhs rhs : Condition} (left : Derives ts lhs)
      (right : Derives us rhs) :
      Derives ("and" :: "(" :: (ts ++ "," :: (us ++ [")"]))) (.and lhs rhs)
  | or {ts us : List String} {lhs rhs : Condition} (left : Derives ts lhs)
      (right : Derives us rhs) :
      Derives ("or" :: "(" :: (ts ++ "," :: (us ++ [")"]))) (.or lhs rhs)
  | not {ts : List String} {inner : Condition} (operand : Derives ts inner) :
      Derives ("not" :: "(" :: (ts ++ [")"])) (.not inner)

inductive Action.Derives : List String → Action → Prop where
  | once (p : Pace) : Derives [p.keyword, ";"] (.pace p none)
  | times {ts : List String} {count : Expression} (p : Pace)
      (argument : Expression.Derives ts count) :
      Derives (p.keyword :: "(" :: (ts ++ [")", ";"])) (.pace p (some count))
  | order (o : Order) : Derives [o.keyword, ";"] (.order o)

mutual

inductive Statement.Derives : List String → Statement → Prop where
  | loop {ts : List String} {body : Block} (block : DerivesBlock ts body) :
      Statement.Derives ("loop" :: ts) (.loop body)
  | choose {ts us vs : List String} {test : Condition} {body : Block} {rest : Chain}
      (guard : Condition.Derives ts test) (block : DerivesBlock us body)
      (tail : Chain.Derives vs rest) :
      Statement.Derives ("if" :: "(" :: (ts ++ ")" :: (us ++ vs)))
        (.choose (.branch test body rest))
  | whilst {ts us : List String} {test : Condition} {body : Block}
      (guard : Condition.Derives ts test) (block : DerivesBlock us body) :
      Statement.Derives ("while" :: "(" :: (ts ++ ")" :: us)) (.whilst test body)
  | assign {ts : List String} {name : String} {value : Expression}
      (form : Word.isVariable name = true) (source : Expression.Derives ts value) :
      Statement.Derives (name :: "=" :: (ts ++ [";"])) (.assign name value)
  | act {ts : List String} {action : Action} (deed : Action.Derives ts action) :
      Statement.Derives ts (.act action)

/-- What may follow the first branch: any number of `elif` branches, then at most one `else`. -/
inductive Chain.Derives : List String → Chain → Prop where
  | done : Chain.Derives [] .done
  | otherwise {ts : List String} {body : Block} (block : DerivesBlock ts body) :
      Chain.Derives ("else" :: ts) (.otherwise body)
  | branch {ts us vs : List String} {test : Condition} {body : Block} {rest : Chain}
      (guard : Condition.Derives ts test) (block : DerivesBlock us body)
      (tail : Chain.Derives vs rest) :
      Chain.Derives ("elif" :: "(" :: (ts ++ ")" :: (us ++ vs))) (.branch test body rest)

inductive DerivesBlock : List String → Block → Prop where
  | braces {ts : List String} {body : Block} (statements : DerivesAll ts body) :
      DerivesBlock ("\x7b" :: (ts ++ ["\x7d"])) body

inductive DerivesAll : List String → List Statement → Prop where
  | one {ts : List String} {s : Statement} (first : Statement.Derives ts s) : DerivesAll ts [s]
  | more {ts us : List String} {s : Statement} {rest : List Statement}
      (first : Statement.Derives ts s) (others : DerivesAll us rest) :
      DerivesAll (ts ++ us) (s :: rest)

end

def DerivesAny (ts : List String) (body : List Statement) : Prop :=
  DerivesAll ts body ∨ ts = [] ∧ body = []

theorem derivesAll_iff {ts : List String} {body : List Statement} :
    DerivesAll ts body ↔ ∃ us vs s rest, ts = us ++ vs ∧ body = s :: rest ∧
      Statement.Derives us s ∧ DerivesAny vs rest := by
  constructor
  · intro derived
    cases derived with
    | one first => exact ⟨_, [], _, [], (List.append_nil _).symm, rfl, first, .inr ⟨rfl, rfl⟩⟩
    | more first others => exact ⟨_, _, _, _, rfl, rfl, first, .inl others⟩
  · rintro ⟨us, vs, s, rest, rfl, rfl, first, others | ⟨rfl, rfl⟩⟩
    · exact .more first others
    · rw [List.append_nil]
      exact .one first

theorem DerivesAll.ne_nil {ts : List String} {body : List Statement}
    (derived : DerivesAll ts body) : body ≠ [] := by
  cases derived with
  | one | more => exact List.cons_ne_nil _ _

/-- A statement has a first word, which closes no block and continues no chain. -/
theorem starts_of_derives {ts : List String} {s : Statement} (derived : Statement.Derives ts s) :
    ∃ word tail, ts = word :: tail ∧ word ≠ "\x7d" ∧ word ≠ "elif" ∧ word ≠ "else" := by
  cases derived with
  | loop | choose | whilst => exact ⟨_, _, rfl, by decide⟩
  | assign form =>
    exact ⟨_, _, rfl, Word.ne_of_variable form (by decide), Word.ne_of_variable form (by decide),
      Word.ne_of_variable form (by decide)⟩
  | act deed =>
    cases deed with
    | once p | times p => exact ⟨_, _, rfl, by cases p <;> decide⟩
    | order o => exact ⟨_, _, rfl, by cases o <;> decide⟩

def Program.Derives (tokens : List String) (p : Program) : Prop :=
  DerivesAll tokens p.statements

/-- Some assignment to `name` stands in these tokens, with its semicolon. -/
def AssignedIn (tokens : List String) (name : String) : Prop :=
  ∃ before value after, tokens = before ++ name :: "=" :: (value ++ ";" :: after)

/-- Each variable that is read, which is one that no equals sign follows, is bound in the store or
assigned by tokens before it. -/
def ReadsAssigned (store : Store) (tokens : List String) : Prop :=
  ∀ before name after, tokens = before ++ name :: after → Word.isVariable name = true →
    after.head? ≠ some "=" → store.isDeclared name = true ∨ AssignedIn before name

end ArenaScript
