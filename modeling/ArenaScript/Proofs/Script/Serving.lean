import ArenaScript.Proofs.Grammar
import ArenaScript.Proofs.Survey
import ArenaScript.Proofs.Script.Rules

/-! What a run tells about the tokens it has passed. If it gives a tree, they derive this tree. If
it fails, and not for the depth, some tokens behind them make a legal text: one of the grammar whose
variables are bound, however deep. Both are said of the same legal texts and go through every
construct together. -/
namespace ArenaScript

namespace Parse

variable {α β : Type}

/-- From `s` on the tokens of `R` may stand, with what they stand for and the store behind them.
There are some. A success has passed some of them and is `small`, and a failure for another reason
than the depth has passed a beginning of some. -/
structure Serves (p : Parse α) (s : ParseState) (small : α → Prop)
    (R : List String → α → Store → Prop) : Prop where
  offered : ∃ ts a after, R ts a after
  yields : ∀ ⦃a t⦄, p s = (.ok a, t) →
    ∃ ts, s.cursor.rest = ts ++ t.cursor.rest ∧ R ts a t.store ∧ small a
  mends : ∀ ⦃e t⦄, p s = (.error e, t) → e.fault ≠ .tooDeep →
    ∃ us vs a after, s.cursor.rest = us ++ t.cursor.rest ∧ R (us ++ vs) a after

namespace Serves

variable {p : Parse α} {f : α → Parse β} {s : ParseState} {tiny : α → Prop} {small : β → Prop}
  {Q : List String → α → Store → Prop} {R : List String → β → Store → Prop} {word : String}
  {fault : ParseFault}

theorem congr {p q : Parse β} (served : Serves p s small R) {t : ParseState}
    (same : q t = p s) (here : t.cursor.rest = s.cursor.rest) : Serves q t small R := by
  refine ⟨served.offered, ?_, ?_⟩
  · intro b k run
    rw [here]
    exact served.yields (same.symm.trans run)
  · intro e k run plain
    rw [here]
    exact served.mends (same.symm.trans run) plain

theorem imp {less : β → Prop} {R' : List String → β → Store → Prop} {q : Parse β}
    (served : Serves q s less R') (held : ∀ ts b after, R' ts b after → R ts b after)
    (fits : ∀ b, less b → small b) : Serves q s small R := by
  refine ⟨?_, ?_, ?_⟩
  · obtain ⟨ts, b, after, legal⟩ := served.offered
    exact ⟨ts, b, after, held _ _ _ legal⟩
  · intro b t run
    obtain ⟨ts, passed, legal, fit⟩ := served.yields run
    exact ⟨ts, passed, held _ _ _ legal, fits b fit⟩
  · intro e t run plain
    obtain ⟨us, vs, b, after, passed, legal⟩ := served.mends run plain
    exact ⟨us, vs, b, after, passed, held _ _ _ legal⟩

theorem refuse (offered : ∃ ts b after, R ts b after) :
    Serves (Parse.refuse fault : Parse β) s small R := by
  refine ⟨offered, ?_, ?_⟩
  · intro b t run
    cases run
  · intro e t run plain
    cases run
    obtain ⟨ts, b, after, held⟩ := offered
    exact ⟨[], ts, b, after, rfl, held⟩

theorem pure {b : β} (done : R [] b s.store) (fits : small b) :
    Serves (Pure.pure b : Parse β) s small R := by
  refine ⟨⟨[], b, _, done⟩, ?_, ?_⟩
  · intro b t run
    cases run
    exact ⟨[], rfl, done, fits⟩
  · intro e t run
    cases run

/-- If the first part fails, what mends it is followed by whatever the second part offers. -/
theorem bind (first : Serves p s tiny Q)
    (second : ∀ us a m, Q us a m.store →
      Serves (f a) m (fun b => tiny a → small b) fun ts b after => R (us ++ ts) b after) :
    Serves (p >>= f) s small R := by
  have behind {us : List String} {a : α} {after : Store} (held : Q us a after) :
      ∃ ts b last, R (us ++ ts) b last := (second us a { s with store := after } held).offered
  refine ⟨?_, ?_, ?_⟩
  · obtain ⟨us, a, middle, held⟩ := first.offered
    obtain ⟨ts, b, after, held'⟩ := behind held
    exact ⟨us ++ ts, b, after, held'⟩
  · intro b t run
    obtain ⟨a, m, here, there⟩ := Attempt.bind_eq_ok.mp run
    obtain ⟨us, passed, held, fits⟩ := first.yields here
    obtain ⟨vs, passed', held', fits'⟩ := (second us a m held).yields there
    exact ⟨us ++ vs, by rw [passed, passed', List.append_assoc], held', fits' fits⟩
  · intro e t run plain
    rcases Attempt.bind_eq_error.mp run with here | ⟨a, m, here, there⟩
    · obtain ⟨us, vs, a, middle, passed, held⟩ := first.mends here plain
      obtain ⟨ts, b, after, held'⟩ := behind held
      rw [List.append_assoc] at held'
      exact ⟨us, vs ++ ts, b, after, passed, held'⟩
    · obtain ⟨us, passed, held, -⟩ := first.yields here
      obtain ⟨vs, ws, b, after, passed', held'⟩ := (second us a m held).mends there plain
      rw [← List.append_assoc] at held'
      exact ⟨us ++ vs, ws, b, after, by rw [passed, passed', List.append_assoc], held'⟩

theorem finish {g : α → β} (first : Serves p s tiny Q)
    (last : ∀ ts a after, Q ts a after → R ts (g a) after) (fits : ∀ a, tiny a → small (g a)) :
    Serves (p >>= fun a => Pure.pure (g a)) s small R := by
  apply first.bind
  intro us a m held
  refine .pure ?_ (fits a)
  rw [List.append_nil]
  exact last us a m.store held

/-- What is noted of a result changes nothing. -/
theorem noted {milestone : α → Milestone} (first : Serves p s tiny Q) :
    Serves (p >>= fun a => note (milestone a) >>= fun _ => Pure.pure a) s tiny Q := by
  apply first.bind
  intro us a m held
  have last : Serves (Pure.pure a : Parse α) { m with milestones := milestone a :: m.milestones }
      (fun a' => tiny a → tiny a') fun ts a' after => Q (us ++ ts) a' after := by
    refine .pure ?_ id
    rwa [List.append_nil]
  exact last.congr rfl rfl

theorem peek_bind {f : Option String → Parse β} (next : Serves (f s.cursor.peek?) s small R) :
    Serves (peek? >>= f) s small R :=
  next.congr rfl rfl

theorem remaining_bind {f : Nat → Parse β} (next : Serves (f s.cursor.rest.length) s small R) :
    Serves (remaining >>= f) s small R :=
  next.congr rfl rfl

theorem declare_bind {name : String} {f : Unit → Parse β}
    (next : ∀ ms, Serves (f ()) ⟨s.cursor, s.store.declare name, ms⟩ small R) :
    Serves (declare name >>= f) s small R := by
  obtain ⟨ms, run⟩ := declare_apply name s
  exact (next ms).congr (Attempt.bind_ok run) rfl

theorem advance_bind {f : Unit → Parse β} (here : s.cursor.peek? = some word)
    (next : Serves (f ()) { s with cursor := s.cursor.advance } small fun ts => R (word :: ts)) :
    Serves (advance >>= f) s small R := by
  refine ⟨?_, ?_, ?_⟩
  · obtain ⟨ts, b, after, held⟩ := next.offered
    exact ⟨word :: ts, b, after, held⟩
  · intro b t run
    obtain ⟨ts, passed, held, fits⟩ := next.yields run
    exact ⟨word :: ts, by rw [rest_of_peek? here, passed]; rfl, held, fits⟩
  · intro e t run plain
    obtain ⟨us, vs, b, after, passed, held⟩ := next.mends run plain
    exact ⟨word :: us, vs, b, after, by rw [rest_of_peek? here, passed]; rfl, held⟩

theorem gobble_bind {f : Bool → Parse β}
    (yes : Serves (f true) { s with cursor := s.cursor.advance } small fun ts => R (word :: ts))
    (no : Serves (f false) s small R) : Serves (gobble word >>= f) s small R := by
  refine ⟨no.offered, ?_, ?_⟩
  · intro b t run
    rcases gobble_bind_cases run with ⟨here, run⟩ | ⟨-, run⟩
    · exact (advance_bind (f := fun _ => f true) here yes).yields run
    · exact no.yields run
  · intro e t run plain
    rcases gobble_bind_cases run with ⟨here, run⟩ | ⟨-, run⟩
    · exact (advance_bind (f := fun _ => f true) here yes).mends run plain
    · exact no.mends run plain

theorem expect_bind {f : Unit → Parse β}
    (next : Serves (f ()) { s with cursor := s.cursor.advance } small fun ts => R (word :: ts)) :
    Serves (expect word fault >>= f) s small R := by
  obtain ⟨ts, b, after, held⟩ := next.offered
  rw [expect_bind_eq]
  exact .gobble_bind next (.refuse ⟨word :: ts, b, after, held⟩)

theorem choose {read? : String → Option α} {next : α → Parse β}
    (offered : ∃ ts b after, R ts b after)
    (each : ∀ word a, s.cursor.peek? = some word → read? word = some a →
      Serves (next a) s small R) : Serves (choose read? fault next) s small R := by
  apply Serves.peek_bind
  cases here : s.cursor.peek? with
  | none => exact .refuse offered
  | some word =>
    rw [Option.bind_some]
    cases found : read? word with
    | none => exact .refuse offered
    | some a => exact each word a here found

end Serves

def Kept (R : Store → List String → α → Prop) (store : Store) (ts : List String) (a : α)
    (after : Store) : Prop :=
  R store ts a ∧ after = store

section Arguments

variable {item : Parse α} {small : α → Prop} {R : Store → List String → α → Prop}
  (each : ∀ s, Serves item s small (Kept R s.store)) (owner : String) (s : ParseState)

include each

theorem pair_serves :
    Serves (pair owner item) s (fun ab => small ab.1 ∧ small ab.2) (Kept (fun store ts ab =>
      ∃ us vs, ts = "(" :: (us ++ "," :: (vs ++ [")"])) ∧ R store us ab.1 ∧ R store vs ab.2)
      s.store) := by
  apply Serves.expect_bind
  apply Serves.bind (each _)
  rintro us a m ⟨first, kept⟩
  apply Serves.expect_bind
  apply Serves.bind (each _)
  rintro vs b k ⟨second, kept'⟩
  apply Serves.expect_bind
  apply Serves.pure
  · rw [kept] at second
    exact ⟨⟨us, vs, rfl, first, second⟩, kept'.trans kept⟩
  · intro right left
    exact ⟨left, right⟩

theorem call_serves {word : String} {make : α → α → β} {large : β → Prop}
    {R' : Store → List String → β → Prop} (next : s.cursor.peek? = some word)
    (legal : ∀ us vs a b, R s.store us a → R s.store vs b →
      R' s.store (word :: "(" :: (us ++ "," :: (vs ++ [")"]))) (make a b))
    (fits : ∀ a b, small a → small b → large (make a b)) :
    Serves (advance >>= fun _ => pair owner item >>= fun (a, b) => Pure.pure (make a b)) s large
      (Kept R' s.store) := by
  apply Serves.advance_bind next
  apply Serves.finish (pair_serves each _ _)
  · rintro ts ⟨a, b⟩ after ⟨⟨us, vs, rfl, left, right⟩, kept⟩
    exact ⟨legal us vs a b left right, kept⟩
  · rintro ⟨a, b⟩ ⟨left, right⟩
    exact fits a b left right

theorem optionalArgument_serves :
    Serves (optionalArgument owner item) s (fun found => ∀ a ∈ found, small a)
      (Kept (fun store ts found =>
        match found with
        | some a => ∃ us, ts = "(" :: (us ++ [")"]) ∧ R store us a
        | none => ts = []) s.store) := by
  apply Serves.gobble_bind
  · apply Serves.bind (each _)
    rintro us a m ⟨argument, kept⟩
    apply Serves.expect_bind
    apply Serves.pure
    · exact ⟨⟨us, rfl, argument⟩, kept⟩
    · rintro fits _ ⟨⟩
      exact fits
  · exact .pure ⟨rfl, rfl⟩ nofun

end Arguments

/-- The tokens of an expression, however deep, that reads bound variables only. -/
def LegalExpression (store : Store) (ts : List String) (e : Expression) : Prop :=
  Expression.Derives ts e ∧ e.Bound store

theorem expression_offered (store : Store) : ∃ ts e after, Kept LegalExpression store ts e after :=
  ⟨["0"], .number 0, store, ⟨.number (by decide) (by decide), trivial⟩, rfl⟩

section Leaves

variable {word : String} {s : ParseState} {levels : Nat} (next : s.cursor.peek? = some word)

include next

theorem readNumber_serves (numeral : Word.isNumber word = true) :
    Serves (readNumber word) s (·.nesting ≤ levels + 1) (Kept LegalExpression s.store) := by
  unfold readNumber
  dsimp only
  split
  · rename_i small
    apply Serves.advance_bind next
    have exactly := Int32.toInt_ofInt_of_le small.1 (Int.lt_add_one_of_le small.2)
    exact .pure ⟨⟨.number numeral exactly.symm, trivial⟩, rfl⟩ (Nat.le_add_left 1 levels)
  · exact .refuse (expression_offered _)

theorem readVariable_serves (form : Word.isVariable word = true) :
    Serves (readVariable word) s (·.nesting ≤ levels + 1) (Kept LegalExpression s.store) := by
  by_cases known : s.store.isDeclared word = true
  · have passed : Serves (advance >>= fun _ => Pure.pure (Expression.var word)) s
        (·.nesting ≤ levels + 1) (Kept LegalExpression s.store) := by
      apply Serves.advance_bind next
      exact .pure ⟨⟨.var form, form, known⟩, rfl⟩ (Nat.le_add_left 1 levels)
    exact passed.congr ((readVariable_apply word s).trans (if_pos known)) rfl
  · have stopped : Serves (refuse (.unbound word)) s
        (·.nesting ≤ levels + 1) (Kept LegalExpression s.store) := .refuse (expression_offered _)
    exact stopped.congr ((readVariable_apply word s).trans (if_neg known)) rfl

end Leaves

theorem expression_serves (levels : Nat) (s : ParseState) :
    Serves (expression levels) s (·.nesting ≤ levels) (Kept LegalExpression s.store) := by
  induction levels generalizing s with
  | zero => exact .refuse (expression_offered _)
  | succ levels ih =>
    apply Serves.choose (expression_offered _)
    intro word opening next found
    obtain ⟨rfl, valid⟩ := Expression.Opening.word_of_ofWord? found
    cases opening with
    | operator o =>
      apply call_serves ih _ _ next
      · intro us vs lhs rhs left right
        exact ⟨.op o left.1 right.1, left.2, right.2⟩
      · intro lhs rhs left right
        exact Nat.succ_le_succ (Nat.max_le.mpr ⟨left, right⟩)
    | gauge g =>
      apply Serves.advance_bind next
      exact .pure ⟨⟨.gauge g, trivial⟩, rfl⟩ (Nat.le_add_left 1 levels)
    | barrel axis =>
      apply Serves.advance_bind next
      apply Serves.bind (optionalArgument_serves ih _ _)
      rintro ts (_ | index) m ⟨related, kept⟩
      · obtain rfl : ts = [] := related
        exact .pure ⟨⟨.barrel axis, trivial⟩, kept⟩ fun _ => Nat.le_add_left 1 levels
      · obtain ⟨us, rfl, inner⟩ := related
        apply Serves.pure
        · rw [List.append_nil]
          exact ⟨⟨.barrelAt axis inner.1, inner.2⟩, kept⟩
        · intro fits
          exact Nat.succ_le_succ (fits index rfl)
    | number literal => exact readNumber_serves next valid
    | var name => exact readVariable_serves next valid

def LegalCondition (store : Store) (ts : List String) (c : Condition) : Prop :=
  Condition.Derives ts c ∧ c.Bound store

theorem condition_offered (store : Store) : ∃ ts c after, Kept LegalCondition store ts c after := by
  have zero : Expression.Derives ["0"] (.number 0) := .number (by decide) (by decide)
  exact ⟨_, _, store, ⟨.compare .eq zero zero, trivial, trivial⟩, rfl⟩

theorem condition_serves (levels : Nat) (s : ParseState) :
    Serves (condition levels) s (·.nesting ≤ levels) (Kept LegalCondition s.store) := by
  induction levels generalizing s with
  | zero => exact .refuse (condition_offered _)
  | succ levels ih =>
    apply Serves.choose (condition_offered _)
    intro word opening next found
    obtain rfl := Condition.Opening.word_of_ofWord? found
    cases opening with
    | compare r =>
      apply call_serves (expression_serves levels) _ _ next
      · intro us vs lhs rhs left right
        exact ⟨.compare r left.1 right.1, left.2, right.2⟩
      · intro lhs rhs left right
        exact Nat.succ_le_succ (Nat.max_le.mpr ⟨left, right⟩)
    | and =>
      apply call_serves ih _ _ next
      · intro us vs lhs rhs left right
        exact ⟨.and left.1 right.1, left.2, right.2⟩
      · intro lhs rhs left right
        exact Nat.succ_le_succ (Nat.max_le.mpr ⟨left, right⟩)
    | or =>
      apply call_serves ih _ _ next
      · intro us vs lhs rhs left right
        exact ⟨.or left.1 right.1, left.2, right.2⟩
      · intro lhs rhs left right
        exact Nat.succ_le_succ (Nat.max_le.mpr ⟨left, right⟩)
    | not =>
      apply Serves.advance_bind next
      apply Serves.expect_bind
      apply Serves.bind (ih _)
      rintro us inner m ⟨operand, kept⟩
      apply Serves.expect_bind
      exact .pure ⟨⟨.not operand.1, operand.2⟩, kept⟩ Nat.succ_le_succ

end Parse

end ArenaScript
