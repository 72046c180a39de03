import ArenaScript.Proofs.Script.Answers

/-! What the parser makes of derived statements and programs. What follows a statement never
continues a chain of branches, so a chain ends where its derivation does. -/
namespace ArenaScript

namespace Parse

def Separate (rest : List String) : Prop :=
  rest.head? ≠ some "elif" ∧ rest.head? ≠ some "else"

theorem Answers.guarded_bind {α : Type} {owner : String} {test : Parse Condition}
    {f : Condition → Parse α} {fits more : Prop} {store after : Store}
    {ts others rest : List String} {c : Condition} {a : α}
    (guard : ∀ rest, Answers test fits store ts rest c store)
    (next : Answers (f c) more store others rest a after) :
    Answers (guarded owner test >>= f) (fits ∧ more) store ("(" :: (ts ++ ")" :: others)) rest a
      after := by
  have head : Answers (guarded owner test) fits store ("(" :: (ts ++ [")"])) (others ++ rest) c
      store := by
    refine .expect_bind (.item_then (by decide) (fun rest _ => guard rest) (.expect_bind ?_))
    exact .pure c
  simpa using head.bind next

theorem Answers.remaining_bind {α : Type} {f : Nat → Parse α} {fits : Prop} {store after : Store}
    {tokens rest : List String} {a : α}
    (next : Answers (f (tokens ++ rest).length) fits store tokens rest a after) :
    Answers (remaining >>= f) fits store tokens rest a after :=
  fun n ms => next n ms

theorem Answers.noted {α : Type} {p : Parse α} {fits : Prop} {store after : Store}
    {tokens rest : List String} {a : α} {milestone : α → Milestone}
    (first : Answers p fits store tokens rest a after) :
    Answers (p >>= fun a => note (milestone a) >>= fun _ => Pure.pure a) fits store tokens rest a
      after := by
  apply first.bind_last
  exact fun n ms => pure a n (milestone a :: ms)

section Blocks

variable {item : Parse Statement} {levels : Nat}

def AnswersEach (item : Parse Statement) (levels : Nat) : Prop :=
  ∀ {s : Statement} {ts rest : List String} {store after : Store}, Statement.Derives ts s →
    s.Passes store after → Separate rest →
    Answers item (s.nesting ≤ levels) store ts rest s after

/-- Statements that another one follows, or the end of their block, are separate from it. -/
theorem separate_of_any {ts rest : List String} {body : Block} (derived : DerivesAny ts body)
    (closed : Separate rest) : Separate (ts ++ rest) := by
  rcases derived with derived | ⟨rfl, -⟩
  · obtain ⟨us, vs, s, more, rfl, -, first, -⟩ := derivesAll_iff.mp derived
    obtain ⟨word, tail, rfl, -, noElif, noElse⟩ := starts_of_derives first
    exact ⟨by simpa using noElif, by simpa using noElse⟩
  · exact closed

theorem separate_closing (rest : List String) : Separate ("\x7d" :: rest) := by
  simp [Separate]

theorem untilClosed_answers (owner : String) (each : AnswersEach item levels) (fuel : Nat)
    {ts rest : List String} {body : Block} {store after : Store} (derived : DerivesAny ts body)
    (passes : PassesAll body store after) (enough : ts.length < fuel) :
    Answers (untilClosed owner item fuel) (bodyNesting body ≤ levels) store (ts ++ ["\x7d"]) rest
      body after := by
  induction fuel generalizing ts body store with
  | zero => contradiction
  | succ fuel ih =>
    rcases derived with derived | ⟨rfl, rfl⟩
    · obtain ⟨us, vs, s, more, rfl, rfl, first, others⟩ := derivesAll_iff.mp derived
      obtain ⟨middle, here, there⟩ := (passesAll_cons s more).mp passes
      obtain ⟨word, tail, rfl, noBrace, -⟩ := starts_of_derives first
      have separate : Separate ((vs ++ ["\x7d"]) ++ rest) := by
        simpa using separate_of_any others (separate_closing rest)
      have shorter : vs.length < fuel := by
        simp only [List.length_append, List.length_cons] at enough
        omega
      rw [List.append_assoc]
      refine .gobble_no (by simpa using noBrace) (.peek_bind ?_)
      refine .of_iff (.bind (each first here separate) (.finish (ih others there shorter) rfl)) ?_
      simp only [bodyNesting, Nat.max_le]
    · obtain rfl := passesAll_nil.mp passes
      refine .gobble_yes (.of_iff (.pure _) ?_)
      simp [bodyNesting]

theorem block_answers (owner : String) (each : AnswersEach item levels) {ts rest : List String}
    {body : Block} {store after : Store} (derived : DerivesBlock ts body)
    (passes : PassesAll body store after) :
    Answers (block owner item) (bodyNesting body ≤ levels) store ts rest body after := by
  cases derived with
  | braces statements =>
    obtain ⟨us, vs, s, more, rfl, rfl, first, others⟩ := derivesAll_iff.mp statements
    obtain ⟨middle, here, there⟩ := (passesAll_cons s more).mp passes
    have separate : Separate ((vs ++ ["\x7d"]) ++ rest) := by
      simpa using separate_of_any others (separate_closing rest)
    have enough : vs.length < ((vs ++ ["\x7d"]) ++ rest).length + 1 := by
      simp only [List.length_append]
      omega
    have closing : Answers (remaining >>= fun count => untilClosed owner item (count + 1)) _ _ _ _ _
        _ := .remaining_bind (untilClosed_answers owner each _ others there enough)
    rw [List.append_assoc]
    refine .expect_bind (.of_iff (.bind (each first here separate) (.finish closing rfl)) ?_)
    simp only [bodyNesting, Nat.max_le]

def AnswersTests (test : Parse Condition) (levels : Nat) : Prop :=
  ∀ {c : Condition} {ts rest : List String} {store : Store}, Condition.Derives ts c →
    c.Bound store → Answers test (c.nesting ≤ levels) store ts rest c store

variable {test : Parse Condition}

theorem chainTail_answers (tests : AnswersTests test levels) (each : AnswersEach item levels)
    (fuel : Nat) {ts rest : List String} {chain : Chain} {store after : Store}
    (derived : Chain.Derives ts chain) (passes : chain.Passes store after)
    (separate : Separate rest) (enough : ts.length ≤ fuel) :
    Answers (chainTail test item fuel) (chain.nesting ≤ levels) store ts rest chain after := by
  induction fuel generalizing ts chain store with
  | zero =>
    cases derived with
    | done =>
      obtain rfl := Chain.passes_done.mp passes
      exact .of_iff (.pure _) (by simp [Chain.nesting])
    | otherwise | branch => simp at enough
  | succ fuel ih =>
    cases derived with
    | done =>
      obtain rfl := Chain.passes_done.mp passes
      refine .gobble_no separate.1 (.gobble_no separate.2 ?_)
      exact .of_iff (.pure _) (by simp [Chain.nesting])
    | otherwise block =>
      have inside := (Chain.passes_otherwise _).mp passes
      refine .gobble_no (by simp) (.gobble_yes ?_)
      exact .finish (block_answers "else" each block inside.2) rfl
    | branch guard block tail =>
      obtain ⟨bound, -, middle, inside, others⟩ := (Chain.passes_branch _ _ _).mp passes
      have shorter := enough
      simp only [List.length_cons, List.length_append] at shorter
      have last := ih tail others (by omega)
      refine .gobble_yes (.of_iff (.guarded_bind (fun _ => tests guard bound) (.bind
        (block_answers "elif" each block inside) (.finish last rfl))) ?_)
      simp only [Chain.nesting, Nat.max_le, and_assoc]

end Blocks

theorem Answers.declare (name : String) {store : Store} {rest : List String} :
    Answers (declare name) True store [] rest () (store.declare name) := by
  intro n ms
  obtain ⟨ms', run⟩ := declare_apply name ⟨⟨n, rest⟩, store, ms⟩
  exact ⟨fun _ => ⟨ms', run⟩, fun no => absurd trivial no⟩

theorem assignment_answers {name : String} {value : Expression} {item : Parse Expression}
    {fits : Prop} {store : Store} {ts rest : List String}
    (source : ∀ rest, rest.head? ≠ some "(" → Answers item fits store ts rest value store) :
    Answers (assignment name item) fits store ("=" :: (ts ++ [";"])) rest (.assign name value)
      (store.declare name) := by
  refine .expect_bind (.item_then (by decide) source (.expect_bind ?_))
  exact .finish (.declare name) rfl

open Statement.Opening in
theorem statement_answers (levels : Nat) : AnswersEach (statement levels) levels := by
  induction levels with
  | zero => exact fun {s} _ _ _ _ _ _ _ => .too_deep (Nat.not_le.mpr s.nesting_pos)
  | succ levels each =>
    have tests : AnswersTests (condition levels) levels :=
      fun derived bound => condition_answers levels derived bound
    intro s ts rest store after derived passes separate
    cases derived with
    | loop block =>
      have inside := (Statement.passes_loop _).mp passes
      refine .choose (ofWord?_word .loop trivial) (.noted (.advance_bind ?_))
      refine .of_iff (.finish (block_answers _ each block inside.2) rfl) ?_
      simp [Statement.nesting]
    | choose guard block tail =>
      obtain ⟨bound, -, middle, inside, others⟩ :=
        (Chain.passes_branch _ _ _).mp ((Statement.passes_choose _ _ _).mp passes)
      have last : Answers (remaining >>= chainTail (condition levels) (statement levels)) _ _ _ _ _
          _ := .remaining_bind (chainTail_answers tests each _ tail others separate (by simp))
      refine .choose (ofWord?_word .choose trivial) (.noted (.advance_bind ?_))
      refine .of_iff (.guarded_bind (fun _ => tests guard bound) (.bind
        (block_answers _ each block inside) (.finish last rfl))) ?_
      simp only [Statement.nesting, Chain.nesting, Nat.add_le_add_iff_right, Nat.max_le, and_assoc]
    | whilst guard block =>
      obtain ⟨bound, -, inside⟩ := (Statement.passes_whilst _ _).mp passes
      refine .choose (ofWord?_word .whilst trivial) (.noted (.advance_bind ?_))
      refine .of_iff (.guarded_bind (fun _ => tests guard bound)
        (.finish (block_answers _ each block inside) rfl)) ?_
      simp only [Statement.nesting, Nat.add_le_add_iff_right, Nat.max_le]
    | @assign ts name value form source =>
      obtain ⟨-, bound, rfl⟩ := (Statement.passes_assign _ _).mp passes
      refine .choose (ofWord?_word (.assign name) form) (.noted (.advance_bind ?_))
      refine .of_iff (assignment_answers fun rest closed =>
        expression_answers levels source bound closed) ?_
      simp [Statement.nesting]
    | act deed =>
      obtain ⟨bound, rfl⟩ := (Statement.passes_act _).mp passes
      cases deed with
      | once p =>
        refine .choose (ofWord?_word (.pace p) trivial) (.noted (.advance_bind ?_))
        refine .bind_always (optional_none _ (by simp)) (.expect_bind (.of_iff (.pure _) ?_))
        simp [Statement.nesting, Action.nesting]
      | @times ts count p argument =>
        have inside := fun rest closed =>
          @expression_answers levels _ _ rest _ argument bound closed
        refine .choose (ofWord?_word (.pace p) trivial) (.noted (.advance_bind ?_))
        have counted : Answers (optionalArgument p.keyword (expression levels) >>= fun count =>
            expect ";" (.actionUnclosed p.keyword) >>= fun _ =>
              Pure.pure (Statement.act (.pace p count)))
            (count.nesting ≤ levels ∧ True) after (("(" :: (ts ++ [")"])) ++ [";"]) rest
            (.act (.pace p (some count))) after :=
          .bind (optional_some _ inside) (.expect_bind (.pure _))
        simp only [List.cons_append, List.append_assoc, List.nil_append] at counted
        refine counted.of_iff ?_
        simp [Statement.nesting, Action.nesting]
      | order o =>
        refine .choose (ofWord?_word (.order o) trivial) (.noted (.advance_bind ?_))
        refine .expect_bind (.of_iff (.pure _) ?_)
        simp [Statement.nesting, Action.nesting]

theorem separate_nil : Separate [] := by
  simp [Separate]

theorem statements_answers (fuel : Nat) {ts : List String} {body : Block} {store after : Store}
    (derived : DerivesAny ts body) (passes : PassesAll body store after)
    (enough : ts.length ≤ fuel) :
    Answers (statements fuel) (bodyNesting body ≤ maxNesting) store ts [] body after := by
  induction fuel generalizing ts body store with
  | zero =>
    rcases derived with derived | ⟨rfl, rfl⟩
    · obtain ⟨us, vs, s, more, rfl, rfl, first, others⟩ := derivesAll_iff.mp derived
      obtain ⟨word, tail, rfl, -⟩ := starts_of_derives first
      simp at enough
    · obtain rfl := passesAll_nil.mp passes
      exact .of_iff (.pure _) (by simp [bodyNesting])
  | succ fuel ih =>
    rcases derived with derived | ⟨rfl, rfl⟩
    · obtain ⟨us, vs, s, more, rfl, rfl, first, others⟩ := derivesAll_iff.mp derived
      obtain ⟨middle, here, there⟩ := (passesAll_cons s more).mp passes
      obtain ⟨word, tail, rfl, -⟩ := starts_of_derives first
      have shorter : vs.length ≤ fuel := by
        simp only [List.length_append, List.length_cons] at enough
        omega
      have separate : Separate (vs ++ []) := separate_of_any others separate_nil
      refine .peek_bind (.of_iff (.bind (statement_answers maxNesting first here separate)
        (.finish (ih others there shorter) rfl)) ?_)
      simp only [bodyNesting, Nat.max_le]
    · obtain rfl := passesAll_nil.mp passes
      refine .peek_bind (.of_iff (.pure _) ?_)
      simp [bodyNesting]

theorem program_answers {tokens : List String} {p : Program} {store after : Store}
    (derived : p.Derives tokens) (passes : PassesAll p.statements store after) :
    Answers program (p.nesting ≤ maxNesting) store tokens [] p after := by
  have run := statements_answers (tokens ++ []).length (.inl derived) passes (by simp)
  obtain ⟨us, vs, s, more, rfl, -, first, -⟩ := derivesAll_iff.mp derived
  obtain ⟨word, tail, rfl, -⟩ := starts_of_derives first
  have body : Answers (remaining >>= statements) _ _ _ _ _ _ := .remaining_bind run
  exact .peek_bind (.finish body rfl)

end Parse

/-- Tokens that derive a tree whose walk finds nothing are parsed to this tree, with the store that
the walk ends in, if the tree fits the nesting limit. -/
theorem Program.parse_of_derives {text : String} {p : Program} {store after : Store}
    (derived : p.Derives (Token.split text)) (passes : PassesAll p.statements store after)
    (fits : p.nesting ≤ maxNesting) :
    (Program.parse text store).result = .ok p ∧ (Program.parse text store).store = after := by
  obtain ⟨ms, run⟩ := (Parse.program_answers derived passes 0 []).1 fits
  rw [List.append_nil] at run
  simp [Program.parse, Parse.run, Cursor.ofText, run]

theorem Program.parse_too_deep {text : String} {p : Program} {store after : Store}
    (derived : p.Derives (Token.split text)) (passes : PassesAll p.statements store after)
    (deep : maxNesting < p.nesting) :
    ∃ e, (Program.parse text store).result = .error e ∧ e.fault = .tooDeep := by
  obtain ⟨e, t, run, fault⟩ := (Parse.program_answers derived passes 0 []).2 (Nat.not_le.mpr deep)
  rw [List.append_nil] at run
  exact ⟨e, by simp [Program.parse, Parse.run, Cursor.ofText, run], fault⟩

end ArenaScript
