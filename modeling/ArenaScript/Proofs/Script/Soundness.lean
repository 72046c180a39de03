import ArenaScript.Proofs.Script.Serving

/-! What a parse of statements and programs tells. The tokens that were passed derive the tree, and
the store that is left is the one the survey of the tree ends in. A parse that fails can still be
completed where it stopped, by a block that is closed, a semicolon or one more statement. -/
namespace ArenaScript

namespace Parse

def LegalStatement (store : Store) (ts : List String) (a : Statement) (after : Store) : Prop :=
  Statement.Derives ts a ∧ a.Passes store after

def LegalBlock (store : Store) (ts : List String) (body : Block) (after : Store) : Prop :=
  DerivesBlock ts body ∧ body ≠ [] ∧ PassesAll body store after

def LegalAll (store : Store) (ts : List String) (body : List Statement) (after : Store) : Prop :=
  DerivesAll ts body ∧ PassesAll body store after

def LegalAny (store : Store) (ts : List String) (body : List Statement) (after : Store) : Prop :=
  DerivesAny ts body ∧ PassesAll body store after

def LegalClosing (store : Store) (ts : List String) (body : List Statement) (after : Store) :
    Prop :=
  ∃ us, ts = us ++ ["\x7d"] ∧ LegalAny store us body after

def LegalTail (store : Store) (ts : List String) (chain : Chain) (after : Store) : Prop :=
  Chain.Derives ts chain ∧ chain.Passes store after

theorem legalAny_nil (store : Store) : LegalAny store [] [] store :=
  ⟨.inr ⟨rfl, rfl⟩, passesAll_nil.mpr rfl⟩

theorem legalTail_done (store : Store) : LegalTail store [] .done store :=
  ⟨.done, Chain.passes_done.mpr rfl⟩

theorem LegalStatement.cons {store middle after : Store} {us vs : List String} {a : Statement}
    {rest : List Statement} (first : LegalStatement store us a middle)
    (others : LegalAny middle vs rest after) : LegalAll store (us ++ vs) (a :: rest) after :=
  ⟨derivesAll_iff.mpr ⟨us, vs, a, rest, rfl, rfl, first.1, others.1⟩,
    (passesAll_cons a rest).mpr ⟨middle, first.2, others.2⟩⟩

theorem LegalTail.branch {store middle after : Store} {us vs ws : List String} {c : Condition}
    {body : Block} {rest : Chain} (guard : LegalCondition store us c)
    (block : LegalBlock store vs body middle) (tail : LegalTail middle ws rest after) :
    (Chain.branch c body rest).Passes store after :=
  (Chain.passes_branch _ _ _).mpr ⟨guard.2, block.2.1, middle, block.2.2, tail.2⟩

theorem move_legal (store : Store) :
    LegalStatement store ["move", ";"] (.act (.pace .move none)) store :=
  ⟨.act (.once .move), (Statement.passes_act _).mpr ⟨trivial, rfl⟩⟩

theorem statement_offered (store : Store) : ∃ ts a after, LegalStatement store ts a after :=
  ⟨_, _, _, move_legal store⟩

section Blocks

variable {levels : Nat} {item : Parse Statement}
  (each : ∀ s, Serves item s (·.nesting ≤ levels) (LegalStatement s.store))

include each

theorem untilClosed_serves (owner : String) (fuel : Nat) (s : ParseState) :
    Serves (untilClosed owner item fuel) s (bodyNesting · ≤ levels) (LegalClosing s.store) := by
  have closed (store : Store) : LegalClosing store ["\x7d"] [] store :=
    ⟨[], rfl, legalAny_nil store⟩
  induction fuel generalizing s with
  | zero => exact .refuse ⟨_, _, _, closed _⟩
  | succ fuel ih =>
    apply Serves.gobble_bind
    · exact .pure (closed _) (Nat.zero_le _)
    · apply Serves.peek_bind
      split
      · exact .refuse ⟨_, _, _, closed _⟩
      · apply Serves.bind (each s)
        intro us first m legal
        apply Serves.finish (ih m)
        · rintro ts others after ⟨vs, rfl, rest⟩
          obtain ⟨derived, passes⟩ := legal.cons rest
          exact ⟨us ++ vs, by rw [List.append_assoc], .inl derived, passes⟩
        · intro others fits fit
          exact Nat.max_le.mpr ⟨fit, fits⟩

theorem block_serves (owner : String) (s : ParseState) :
    Serves (block owner item) s (bodyNesting · ≤ levels) (LegalBlock s.store) := by
  apply Serves.expect_bind
  apply Serves.bind (each _)
  intro us first m legal
  have closing : Serves (remaining >>= fun count => untilClosed owner item (count + 1)) m
      (bodyNesting · ≤ levels) (LegalClosing m.store) :=
    .remaining_bind (untilClosed_serves each owner _ m)
  apply Serves.finish closing
  · rintro ts others after ⟨vs, rfl, rest⟩
    obtain ⟨derived, passes⟩ := legal.cons rest
    rw [← List.append_assoc]
    exact ⟨.braces derived, List.cons_ne_nil _ _, passes⟩
  · intro others fits fit
    exact Nat.max_le.mpr ⟨fit, fits⟩

variable {test : Parse Condition}
  (tests : ∀ s, Serves test s (·.nesting ≤ levels) (Kept LegalCondition s.store))

include tests

/-- A test in parentheses and a block, as they follow `if`, `elif` and `while`. -/
theorem guardedBlock_serves (owner : String) {β : Type} {f : Condition → Block → Parse β}
    {s : ParseState} {small : β → Prop} {R : List String → β → Store → Prop}
    (last : ∀ us vs c body m, LegalCondition s.store us c → LegalBlock s.store vs body m.store →
      Serves (f c body) m (fun b => max c.nesting (bodyNesting body) ≤ levels → small b)
        fun ts => R ("(" :: (us ++ ")" :: (vs ++ ts)))) :
    Serves (guarded owner test >>= fun c => block owner item >>= fun body => f c body) s small
      R := by
  have guard : Serves (guarded owner test) s (·.nesting ≤ levels) (Kept (fun store ts c =>
      ∃ us, ts = "(" :: (us ++ [")"]) ∧ LegalCondition store us c) s.store) := by
    apply Serves.expect_bind
    apply Serves.bind (tests _)
    rintro us c m ⟨legal, kept⟩
    apply Serves.expect_bind
    exact .pure ⟨⟨us, rfl, legal⟩, kept⟩ id
  apply Serves.bind guard
  rintro ts c m ⟨⟨us, rfl, legal⟩, kept⟩
  apply Serves.bind (block_serves each owner m)
  intro vs body k inside
  rw [kept] at inside
  have done := last us vs c body k legal inside
  have whole (ts : List String) :
      "(" :: (us ++ [")"]) ++ (vs ++ ts) = "(" :: (us ++ ")" :: (vs ++ ts)) := by simp
  simp only [whole]
  apply done.imp
  · exact fun ts b after legal => legal
  · exact fun b small fit fits => small (Nat.max_le.mpr ⟨fits, fit⟩)

theorem chainTail_serves (fuel : Nat) (s : ParseState) :
    Serves (chainTail test item fuel) s (·.nesting ≤ levels) (LegalTail s.store) := by
  induction fuel generalizing s with
  | zero => exact .pure (legalTail_done _) (Nat.zero_le _)
  | succ fuel ih =>
    apply Serves.gobble_bind
    · apply guardedBlock_serves each tests "elif"
      intro us vs c body m guard block
      apply Serves.finish (ih m)
      · intro ws rest after tail
        exact ⟨.branch guard.1 block.1 tail.1, tail.branch guard block⟩
      · intro rest fits fit
        exact Nat.max_le.mpr ⟨fit, fits⟩
    · apply Serves.gobble_bind
      · apply Serves.finish (block_serves each "else" _)
        · rintro ts body after ⟨block, full, passes⟩
          exact ⟨.otherwise block, (Chain.passes_otherwise _).mpr ⟨full, passes⟩⟩
        · exact fun body fits => fits
      · exact .pure (legalTail_done _) (Nat.zero_le _)

end Blocks

theorem assignment_serves {name : String} {levels : Nat} (form : Word.isVariable name = true)
    (s : ParseState) :
    Serves (assignment name (expression levels)) s (·.nesting ≤ levels + 1) fun ts =>
      LegalStatement s.store (name :: ts) := by
  apply Serves.expect_bind
  apply Serves.bind (expression_serves levels _)
  rintro ts value m ⟨source, kept⟩
  apply Serves.expect_bind
  apply Serves.declare_bind
  intro ms
  refine .pure ⟨.assign form source.1, ?_⟩ Nat.succ_le_succ
  exact (Statement.passes_assign _ _).mpr ⟨form, source.2, congrArg (Store.declare · name) kept⟩

theorem statement_serves (levels : Nat) (s : ParseState) :
    Serves (statement levels) s (·.nesting ≤ levels) (LegalStatement s.store) := by
  induction levels generalizing s with
  | zero => exact .refuse (statement_offered _)
  | succ levels ih =>
    apply Serves.choose (statement_offered _)
    intro word opening next found
    obtain ⟨rfl, valid⟩ := Statement.Opening.word_of_ofWord? found
    apply Serves.noted
    cases opening with
    | loop =>
      apply Serves.advance_bind next
      apply Serves.finish (block_serves ih _ _)
      · rintro ts body after ⟨block, full, passes⟩
        exact ⟨.loop block, (Statement.passes_loop _).mpr ⟨full, passes⟩⟩
      · exact fun body => Nat.succ_le_succ
    | choose =>
      apply Serves.advance_bind next
      apply guardedBlock_serves ih (condition_serves levels)
      intro us vs c body m guard block
      have tails : Serves (remaining >>= chainTail (condition levels) (statement levels)) m
          (·.nesting ≤ levels) (LegalTail m.store) :=
        .remaining_bind (chainTail_serves ih (condition_serves levels) _ m)
      apply Serves.finish tails
      · intro ws rest after tail
        exact ⟨.choose guard.1 block.1 tail.1,
          (Statement.passes_choose _ _ _).mpr (tail.branch guard block)⟩
      · intro rest fits fit
        exact Nat.succ_le_succ (Nat.max_le.mpr ⟨fit, fits⟩)
    | whilst =>
      apply Serves.advance_bind next
      apply guardedBlock_serves ih (condition_serves levels)
      rintro us vs c body m guard ⟨block, full, passes⟩
      refine .pure ?_ Nat.succ_le_succ
      rw [List.append_nil]
      exact ⟨.whilst guard.1 block, (Statement.passes_whilst _ _).mpr ⟨guard.2, full, passes⟩⟩
    | assign name => exact .advance_bind next (assignment_serves valid _)
    | pace p =>
      apply Serves.advance_bind next
      apply Serves.bind (optionalArgument_serves (expression_serves levels) _ _)
      rintro ts (_ | count) m ⟨related, kept⟩
      · obtain rfl : ts = [] := related
        apply Serves.expect_bind
        refine .pure ⟨.act (.once p), ?_⟩ fun _ => Nat.succ_le_succ (Nat.zero_le _)
        exact (Statement.passes_act _).mpr ⟨trivial, kept⟩
      · obtain ⟨us, rfl, argument⟩ := related
        apply Serves.expect_bind
        refine .pure ⟨.act ?_, ?_⟩ fun fits => Nat.succ_le_succ (fits count rfl)
        · have derived := Action.Derives.times p argument.1
          simpa [Statement.Opening.word] using derived
        · exact (Statement.passes_act _).mpr ⟨argument.2, kept⟩
    | order o =>
      apply Serves.advance_bind next
      apply Serves.expect_bind
      refine .pure ⟨.act (.order o), ?_⟩ (Nat.succ_le_succ (Nat.zero_le _))
      exact (Statement.passes_act _).mpr ⟨trivial, rfl⟩

/-- The tokens that a statement takes are at least one. -/
theorem length_lt_of_statement {levels : Nat} {s t : ParseState} {a : Statement}
    (run : statement levels s = (.ok a, t)) : t.cursor.rest.length < s.cursor.rest.length := by
  obtain ⟨ts, passed, legal, -⟩ := (statement_serves levels s).yields run
  obtain ⟨word, tail, rfl, -⟩ := starts_of_derives legal.1
  rw [passed, List.length_append, List.length_cons]
  omega

theorem statements_succ_serves {fuel : Nat} {s : ParseState} {word : String}
    (others : ∀ m, Serves (statements fuel) m (bodyNesting · ≤ maxNesting) (LegalAny m.store))
    (next : s.cursor.peek? = some word) :
    Serves (statements (fuel + 1)) s (bodyNesting · ≤ maxNesting) (LegalAll s.store) := by
  apply Serves.peek_bind
  rw [next]
  apply Serves.bind (statement_serves maxNesting s)
  intro us first m legal
  apply Serves.finish (others m)
  · exact fun vs rest after => legal.cons
  · intro rest fits fit
    exact Nat.max_le.mpr ⟨fit, fits⟩

theorem statements_serves (fuel : Nat) (s : ParseState) :
    Serves (statements fuel) s (bodyNesting · ≤ maxNesting) (LegalAny s.store) := by
  induction fuel generalizing s with
  | zero => exact .pure (legalAny_nil _) (Nat.zero_le _)
  | succ fuel ih =>
    cases next : s.cursor.peek? with
    | none =>
      apply Serves.peek_bind
      rw [next]
      exact .pure (legalAny_nil _) (Nat.zero_le _)
    | some word =>
      apply (statements_succ_serves ih next).imp
      · exact fun ts body after legal => ⟨.inl legal.1, legal.2⟩
      · exact fun body fits => fits

/-- With enough fuel the statements go on to the end of the tokens. -/
theorem rest_of_statements {fuel : Nat} {s t : ParseState} {body : List Statement}
    (run : statements fuel s = (.ok body, t)) (enough : s.cursor.rest.length ≤ fuel) :
    t.cursor.rest = [] := by
  induction fuel generalizing s body with
  | zero =>
    cases run
    exact List.length_eq_zero_iff.mp (Nat.le_zero.mp enough)
  | succ fuel ih =>
    change (if s.cursor.peek?.isNone = true then _ else _ : Parse (List Statement)) s = _ at run
    split at run
    · rename_i ended
      cases run
      simpa [Cursor.peek?] using ended
    · obtain ⟨first, m, here, run⟩ := Attempt.bind_eq_ok.mp run
      obtain ⟨others, k, there, run⟩ := Attempt.bind_eq_ok.mp run
      cases run
      have shorter := length_lt_of_statement here
      exact ih there (by omega)

theorem program_serves (s : ParseState) :
    Serves program s (·.nesting ≤ maxNesting) fun ts p after =>
      LegalAll s.store ts p.statements after := by
  apply Serves.peek_bind
  cases next : s.cursor.peek? with
  | none =>
    have move := (move_legal s.store).cons (legalAny_nil s.store)
    exact .refuse ⟨_, ⟨_⟩, _, move⟩
  | some word =>
    have length : s.cursor.rest.length = s.cursor.advance.rest.length + 1 := by
      rw [rest_of_peek? next, List.length_cons]
    have body : Serves (remaining >>= statements) s (bodyNesting · ≤ maxNesting)
        (LegalAll s.store) := by
      apply Serves.remaining_bind
      rw [length]
      exact statements_succ_serves (statements_serves _) next
    apply body.finish
    · exact fun ts statements after legal => legal
    · exact fun statements fits => fits

theorem program_ok {s t : ParseState} {p : Program} (run : program s = (.ok p, t)) :
    p.Derives s.cursor.rest ∧ PassesAll p.statements s.store t.store ∧
      p.nesting ≤ maxNesting ∧ t.cursor.rest = [] := by
  obtain ⟨ts, passed, ⟨derived, passes⟩, fits⟩ := (program_serves s).yields run
  have ended : t.cursor.rest = [] := by
    change (if s.cursor.peek?.isNone = true then _ else _ : Parse Program) s = _ at run
    split at run
    · cases run
    · obtain ⟨body, m, inside, run⟩ := Attempt.bind_eq_ok.mp run
      cases run
      exact rest_of_statements inside (Nat.le_refl _)
  rw [ended, List.append_nil] at passed
  exact ⟨passed ▸ derived, passes, fits, ended⟩

end Parse

/-- A program that a text was parsed to is derived by the tokens of the text, and its survey from
the given store finds nothing and ends in the store that parsing leaves. -/
theorem Program.derives_of_parse {text : String} {p : Program} {store : Store}
    (parsed : (Program.parse text store).result = .ok p) :
    p.Derives (Token.split text) ∧
      PassesAll p.statements store (Program.parse text store).store ∧ p.nesting ≤ maxNesting := by
  obtain ⟨derived, passes, fits, -⟩ := Parse.program_ok (Prod.ext parsed rfl)
  exact ⟨derived, passes, fits⟩

end ArenaScript
