import ArenaScript.Program.Defect

/-! When the survey of a tree finds nothing. For each kind of tree there is one equivalence, from
which the words that defects quote are gone: what is left is that no block is empty, every name
has the form of a name, and every variable is declared before it is read. -/
namespace ArenaScript

@[simp] theorem Store.isDeclared_declare (s : Store) (name other : String) :
    (s.declare name).isDeclared other = (decide (other = name) || s.isDeclared other) := by
  unfold isDeclared
  rw [get?_declare]
  by_cases same : other = name <;> simp [same]

def Expression.Bound (declared : Store) : Expression → Prop
  | .number _ => True
  | .gauge _ => True
  | .barrel _ => True
  | .var name => Word.isVariable name = true ∧ declared.isDeclared name = true
  | .barrelAt _ index => index.Bound declared
  | .op _ lhs rhs => lhs.Bound declared ∧ rhs.Bound declared

def Condition.Bound (declared : Store) : Condition → Prop
  | .compare _ lhs rhs => lhs.Bound declared ∧ rhs.Bound declared
  | .and lhs rhs => lhs.Bound declared ∧ rhs.Bound declared
  | .or lhs rhs => lhs.Bound declared ∧ rhs.Bound declared
  | .not inner => inner.Bound declared

def Action.Bound (declared : Store) : Action → Prop
  | .pace _ (some count) => count.Bound declared
  | .pace _ none => True
  | .order _ => True

theorem Expression.defects_eq_nil (declared : Store) (context : String) (e : Expression) :
    e.defects declared context = [] ↔ e.Bound declared := by
  induction e with
  | number | gauge | barrel => simp [Expression.defects, Expression.Bound]
  | var name =>
    cases form : Word.isVariable name <;> cases known : declared.isDeclared name <;>
      simp [Expression.defects, Expression.Bound, form, known]
  | barrelAt axis index ih => simpa [Expression.defects, Expression.Bound] using ih
  | op o lhs rhs left right => simp [Expression.defects, Expression.Bound, left, right]

theorem Condition.defects_eq_nil (declared : Store) (context : String) (c : Condition) :
    c.defects declared context = [] ↔ c.Bound declared := by
  induction c with
  | compare r lhs rhs =>
    simp [Condition.defects, Condition.Bound, Expression.defects_eq_nil]
  | and lhs rhs left right => simp [Condition.defects, Condition.Bound, left, right]
  | or lhs rhs left right => simp [Condition.defects, Condition.Bound, left, right]
  | not inner ih => simpa [Condition.defects, Condition.Bound] using ih

theorem Action.defects_eq_nil (declared : Store) (a : Action) :
    a.defects declared = [] ↔ a.Bound declared := by
  rcases a with ⟨p, _ | count⟩ | o
  · simp [Action.defects, Action.Bound]
  · simp [Action.defects, Action.Bound, Expression.defects_eq_nil]
  · simp [Action.defects, Action.Bound]

theorem blockDefects_eq_nil (context : String) (body : Block) :
    blockDefects context body = [] ↔ body ≠ [] := by
  cases body <;> simp [blockDefects]

/-- The walk over the tree finds no defect and goes from the first store to the second. -/
def Statement.Passes (s : Statement) (declared after : Store) : Prop :=
  s.survey declared = ([], after)

def Chain.Passes (c : Chain) (declared after : Store) : Prop :=
  c.survey "elif" declared = ([], after)

def PassesAll (body : Block) (declared after : Store) : Prop :=
  surveyBody body declared = ([], after)

variable {declared after : Store}

@[simp] theorem passesAll_nil : PassesAll [] declared after ↔ after = declared := by
  simp [PassesAll, surveyBody, eq_comm]

@[simp] theorem passesAll_cons (s : Statement) (rest : Block) :
    PassesAll (s :: rest) declared after ↔
      ∃ middle, s.Passes declared middle ∧ PassesAll rest middle after := by
  simp only [PassesAll, Statement.Passes, surveyBody, Prod.ext_iff, List.append_eq_nil_iff]
  constructor
  · rintro ⟨⟨first, others⟩, last⟩
    exact ⟨_, ⟨first, rfl⟩, others, last⟩
  · rintro ⟨middle, ⟨first, rfl⟩, others, last⟩
    exact ⟨⟨first, others⟩, last⟩

theorem Chain.survey_word (word : String) (c : Chain) :
    c.survey word declared = ([], after) ↔ c.Passes declared after := by
  cases c with
  | done | otherwise => simp [Chain.Passes, Chain.survey]
  | branch test body rest =>
    simp [Chain.Passes, Chain.survey, Condition.defects_eq_nil, blockDefects_eq_nil]

@[simp] theorem Chain.passes_done : Chain.done.Passes declared after ↔ after = declared := by
  simp [Chain.Passes, Chain.survey, eq_comm]

@[simp] theorem Chain.passes_otherwise (body : Block) :
    (Chain.otherwise body).Passes declared after ↔ body ≠ [] ∧ PassesAll body declared after := by
  simp [Chain.Passes, PassesAll, Chain.survey, Prod.ext_iff, blockDefects_eq_nil, and_assoc]

@[simp] theorem Chain.passes_branch (test : Condition) (body : Block) (rest : Chain) :
    (Chain.branch test body rest).Passes declared after ↔
      test.Bound declared ∧ body ≠ [] ∧
        ∃ middle, PassesAll body declared middle ∧ rest.Passes middle after := by
  simp only [Chain.Passes, PassesAll, Chain.survey, Prod.ext_iff, List.append_eq_nil_iff,
    Condition.defects_eq_nil, blockDefects_eq_nil]
  constructor
  · rintro ⟨⟨⟨⟨guard, full⟩, inside⟩, others⟩, last⟩
    exact ⟨guard, full, _, ⟨inside, rfl⟩, others, last⟩
  · rintro ⟨guard, full, middle, ⟨inside, rfl⟩, others, last⟩
    exact ⟨⟨⟨⟨guard, full⟩, inside⟩, others⟩, last⟩

@[simp] theorem Statement.passes_loop (body : Block) :
    (Statement.loop body).Passes declared after ↔ body ≠ [] ∧ PassesAll body declared after := by
  simp [Statement.Passes, PassesAll, Statement.survey, Prod.ext_iff, blockDefects_eq_nil,
    and_assoc]

@[simp] theorem Statement.passes_choose (test : Condition) (body : Block) (rest : Chain) :
    (Statement.choose (.branch test body rest)).Passes declared after ↔
      (Chain.branch test body rest).Passes declared after := by
  simp only [Statement.Passes, Statement.survey, Chain.survey_word]

/-- A chain without branches never passes. -/
theorem Statement.branch_of_passes {chain : Chain}
    (clean : (Statement.choose chain).Passes declared after) :
    ∃ test body rest, chain = .branch test body rest := by
  cases chain with
  | done | otherwise => simp [Statement.Passes, Statement.survey] at clean
  | branch test body rest => exact ⟨test, body, rest, rfl⟩

@[simp] theorem Statement.passes_whilst (test : Condition) (body : Block) :
    (Statement.whilst test body).Passes declared after ↔
      test.Bound declared ∧ body ≠ [] ∧ PassesAll body declared after := by
  simp [Statement.Passes, PassesAll, Statement.survey, Prod.ext_iff, blockDefects_eq_nil,
    Condition.defects_eq_nil, and_assoc]

@[simp] theorem Statement.passes_assign (name : String) (value : Expression) :
    (Statement.assign name value).Passes declared after ↔
      Word.isVariable name = true ∧ value.Bound declared ∧ after = declared.declare name := by
  cases form : Word.isVariable name <;>
    simp [Statement.Passes, Statement.survey, form, Expression.defects_eq_nil, @eq_comm _ after]

@[simp] theorem Statement.passes_act (action : Action) :
    (Statement.act action).Passes declared after ↔
      action.Bound declared ∧ after = declared := by
  simp [Statement.Passes, Statement.survey, Action.defects_eq_nil, @eq_comm _ after]

/-- Every binding of the first store is kept and every other name of the second is bound to zero. -/
def Store.Extends (before after : Store) : Prop :=
  ∀ name, after.get? name = before.get? name ∨
    before.get? name = none ∧ after.get? name = some 0

namespace Store

variable {a b c : Store}

theorem Extends.refl (a : Store) : a.Extends a := fun _ => .inl rfl

theorem Extends.trans (first : a.Extends b) (second : b.Extends c) : a.Extends c := by
  intro name
  rcases second name with kept | ⟨absent, bound⟩
  · rw [kept]
    exact first name
  · rcases first name with kept | ⟨-, bound'⟩
    · exact .inr ⟨kept ▸ absent, bound⟩
    · rw [absent] at bound'
      cases bound'

theorem extends_declare (a : Store) (name : String) : a.Extends (a.declare name) := by
  intro other
  rw [get?_declare]
  by_cases same : other = name
  · subst same
    cases known : a.get? other <;> simp
  · simp [same]

theorem isDeclared_iff_mem_names (s : Store) (name : String) :
    s.isDeclared name = true ↔ name ∈ s.names := by
  simp only [isDeclared, get?, names, List.lookup_isSome_iff, List.mem_map]
  constructor
  · rintro ⟨binding, held, same⟩
    exact ⟨binding, held, (eq_of_beq same).symm⟩
  · rintro ⟨binding, held, rfl⟩
    exact ⟨binding, held, BEq.rfl⟩

theorem get?_of_mem {name : String} {value : Value} (a : Store)
    (held : (name, value) ∈ a.bindings) : a.get? name = some value := by
  obtain ⟨bindings, ordered⟩ := a
  simp only [get?] at held ⊢
  induction bindings with
  | nil => cases held
  | cons first rest ih =>
    obtain ⟨above, tail⟩ := List.pairwise_cons.mp ordered
    rw [lookup_binding]
    rcases List.mem_cons.mp held with rfl | held
    · rw [if_pos rfl]
    · have later : first.1 < name := above _ held
      rw [if_neg (fun same => String.lt_irrefl _ (same ▸ later)), ih tail held]

/-- A store that was filled by declaring is its names, each with zero. -/
theorem toList_of_extends_empty (filled : Store.empty.Extends a) :
    a.toList = a.names.map fun name => (name, 0) := by
  have zero : ∀ binding ∈ a.bindings, binding = (binding.1, 0) := by
    intro binding held
    have found := a.get?_of_mem held
    rcases filled binding.1 with kept | ⟨-, bound⟩
    · rw [found, get?_empty] at kept
      cases kept
    · rw [found] at bound
      exact Prod.ext rfl (Option.some.inj bound)
  rw [toList, names, List.map_map]
  exact (List.map_id'' (fun binding => rfl) a.bindings).symm.trans
    (List.map_congr_left fun binding held => zero binding held)

end Store

mutual

theorem Statement.survey_extends (s : Statement) (declared : Store) :
    declared.Extends (s.survey declared).2 := by
  match s with
  | .loop body => exact surveyBody_extends body declared
  | .choose (.branch test body rest) =>
    exact Chain.survey_extends "if" (.branch test body rest) declared
  | .choose .done => exact .refl declared
  | .choose (.otherwise body) => exact Chain.survey_extends "if" (.otherwise body) declared
  | .whilst test body => exact surveyBody_extends body declared
  | .assign name value =>
    rw [Statement.survey]
    split
    · exact declared.extends_declare name
    · exact .refl declared
  | .act action => exact .refl declared

theorem Chain.survey_extends (word : String) (c : Chain) (declared : Store) :
    declared.Extends (c.survey word declared).2 := by
  match c with
  | .done => exact .refl declared
  | .otherwise body => exact surveyBody_extends body declared
  | .branch test body rest =>
    exact (surveyBody_extends body declared).trans (Chain.survey_extends "elif" rest _)

theorem surveyBody_extends (body : Block) (declared : Store) :
    declared.Extends (surveyBody body declared).2 := by
  match body with
  | [] => exact .refl declared
  | s :: rest => exact (Statement.survey_extends s declared).trans (surveyBody_extends rest _)

end

theorem Program.toList_initialStore (p : Program) :
    p.initialStore.toList = p.declaredNames.map fun name => (name, 0) :=
  Store.toList_of_extends_empty (surveyBody_extends p.statements .empty)

theorem bindIn_last {name : String} {value : Value} {l : List (String × Value)}
    (last : ∀ b ∈ l, b.1 < name) : bindIn name value l = l ++ [(name, value)] := by
  induction l with
  | nil => rfl
  | cons b rest ih =>
    have below : b.1 < name := last b List.mem_cons_self
    have apart : name ≠ b.1 := by
      intro same
      rw [same] at below
      exact String.lt_irrefl _ below
    have others := ih fun b held => last b (List.mem_cons_of_mem _ held)
    rw [bindIn, if_neg (String.lt_asymm below), if_neg apart, others]
    rfl

theorem Store.bindings_declare {s : Store} {name : String} (last : ∀ b ∈ s.bindings, b.1 < name) :
    (s.declare name).bindings = s.bindings ++ [(name, 0)] := by
  have absent : s.isDeclared name = false := by
    rw [isDeclared, get?, Option.isSome_eq_false_iff, Option.isNone_iff_eq_none,
      List.lookup_eq_none_iff]
    intro b held
    apply bne_iff_ne.mpr
    intro same
    exact String.lt_irrefl _ (same ▸ last b held)
  rw [declare, if_neg (by simp [absent])]
  exact bindIn_last last

/-- Names that come in order, and after those that are bound, are bound in this order. -/
theorem Store.bindings_declareAll {s : Store} {names : List String}
    (increasing : names.Pairwise (· < ·))
    (last : ∀ b ∈ s.bindings, ∀ name ∈ names, b.1 < name) :
    (s.declareAll names).bindings = s.bindings ++ names.map fun name => (name, 0) := by
  induction names generalizing s with
  | nil => simp [declareAll]
  | cons name names ih =>
    obtain ⟨first, others⟩ := List.pairwise_cons.mp increasing
    have one := bindings_declare fun b held => last b held name List.mem_cons_self
    have rest : ((s.declare name).declareAll names).bindings = _ := ih others (by
      intro b held other among
      rw [one] at held
      rcases List.mem_append.mp held with held | held
      · exact last b held other (List.mem_cons_of_mem _ among)
      · rw [List.mem_singleton.mp held]
        exact first other among)
    rw [one, List.append_assoc] at rest
    exact rest

/-- Declaring the names of a program one after the other gives the store that its walk ends in. -/
theorem Program.declareAll_declaredNames (p : Program) :
    Store.empty.declareAll p.declaredNames = p.initialStore := by
  have increasing : p.declaredNames.Pairwise (· < ·) :=
    List.pairwise_map.mpr p.initialStore.ordered
  apply Store.ext
  rw [Store.bindings_declareAll increasing (by simp [Store.empty])]
  exact p.toList_initialStore.symm

/-- A program has no defect exactly if it holds a statement and its walk from the empty store finds
nothing. -/
theorem Program.defects_eq_nil (p : Program) :
    p.defects = [] ↔ p.statements ≠ [] ∧ PassesAll p.statements .empty p.initialStore := by
  cases held : p.statements <;>
    simp [Program.defects, Program.initialStore, PassesAll, Prod.ext_iff, held]

end ArenaScript
