import ArenaScript.Proofs.Grammar
import ArenaScript.Proofs.Survey
import ArenaScript.Proofs.Script.Rules

/-! What the parser makes of tokens that the grammar derives. The tree that was derived comes back
if it fits the levels that are left; if it does not, the parse stops at the nesting limit and for
no other reason. Both halves go through every combinator together, since a tree is too deep exactly
if the first part of it that does not fit is reached with all parts before it read. -/
namespace ArenaScript

namespace Parse

variable {α β : Type}

/-- On `tokens` followed by `rest`, with `store` declared, the parser gives `a` and leaves `after`
if `fits` holds. If not, it reports that the nesting is too deep. -/
def Answers (p : Parse α) (fits : Prop) (store : Store) (tokens rest : List String) (a : α)
    (after : Store) : Prop :=
  ∀ n ms,
    (fits → ∃ ms', p ⟨⟨n, tokens ++ rest⟩, store, ms⟩ =
      (.ok a, ⟨⟨n + tokens.length, rest⟩, after, ms'⟩)) ∧
    (¬ fits → ∃ e t, p ⟨⟨n, tokens ++ rest⟩, store, ms⟩ = (.error e, t) ∧ e.fault = .tooDeep)

namespace Answers

variable {p : Parse α} {f : α → Parse β} {fits more : Prop} {store middle after : Store}
  {tokens others rest : List String} {a : α} {b : β} {word : String}

theorem of_iff (h : Answers p fits store tokens rest a after) (same : more ↔ fits) :
    Answers p more store tokens rest a after :=
  propext same ▸ h

theorem pure (a : α) : Answers (Pure.pure a) True store [] rest a store :=
  fun n ms => ⟨fun _ => ⟨ms, by simp⟩, fun no => absurd trivial no⟩

/-- If the first part does not fit, the second is never reached. -/
theorem bind (first : Answers p fits store tokens (others ++ rest) a middle)
    (second : Answers (f a) more middle others rest b after) :
    Answers (p >>= f) (fits ∧ more) store (tokens ++ others) rest b after := by
  intro n ms
  rw [List.append_assoc]
  by_cases here : fits
  · obtain ⟨ms', run⟩ := (first n ms).1 here
    rw [Attempt.bind_ok run]
    refine ⟨fun both => ?_, fun not => ?_⟩
    · obtain ⟨ms'', last⟩ := (second (n + tokens.length) ms').1 both.2
      exact ⟨ms'', by rw [last, List.length_append, Nat.add_assoc]⟩
    · exact (second _ ms').2 fun there => not ⟨here, there⟩
  · obtain ⟨e, t, run, deep⟩ := (first n ms).2 here
    exact ⟨fun both => absurd both.1 here, fun _ => ⟨e, t, Attempt.bind_error run, deep⟩⟩

/-- A first part that cannot fail for its depth adds no condition. -/
theorem bind_always (first : Answers p True store tokens (others ++ rest) a middle)
    (second : Answers (f a) more middle others rest b after) :
    Answers (p >>= f) more store (tokens ++ others) rest b after :=
  (first.bind second).of_iff (iff_of_eq (true_and more).symm)

/-- What comes after the last token of a construct adds no condition. -/
theorem bind_last (first : Answers p fits store tokens rest a middle)
    (last : Answers (f a) True middle [] rest b after) :
    Answers (p >>= f) fits store tokens rest b after := by
  have whole : Answers (p >>= f) (fits ∧ True) store (tokens ++ []) rest b after :=
    first.bind last
  rw [List.append_nil] at whole
  exact whole.of_iff (iff_of_eq (and_true fits).symm)

theorem finish (first : Answers p fits store tokens rest a after) (last : f a = Pure.pure b) :
    Answers (p >>= f) fits store tokens rest b after :=
  first.bind_last (last ▸ pure b)

theorem peek_bind {f : Option String → Parse β}
    (next : Answers (f (tokens ++ rest).head?) fits store tokens rest b after) :
    Answers (peek? >>= f) fits store tokens rest b after :=
  fun n ms => next n ms

theorem choose {γ : Type} {read? : String → Option γ} {fault : ParseFault} {next : γ → Parse β}
    {c : γ} (found : read? word = some c)
    (answers : Answers (next c) fits store (word :: tokens) rest b after) :
    Answers (choose read? fault next) fits store (word :: tokens) rest b after := by
  apply peek_bind
  rw [List.cons_append, List.head?_cons, Option.bind_some, found]
  exact answers

theorem advance_bind {f : Unit → Parse β}
    (next : Answers (f ()) fits store tokens rest b after) :
    Answers (advance >>= f) fits store (word :: tokens) rest b after := by
  have step : Answers advance True store [word] (tokens ++ rest) () store :=
    fun n ms => ⟨fun _ => ⟨ms, rfl⟩, fun no => absurd trivial no⟩
  exact step.bind_always next

theorem gobble_yes {f : Bool → Parse β}
    (next : Answers (f true) fits store tokens rest b after) :
    Answers (gobble word >>= f) fits store (word :: tokens) rest b after := by
  have step : Answers (gobble word) True store [word] (tokens ++ rest) true store := fun n ms =>
    ⟨fun _ => ⟨ms, (gobble_apply word _).trans (if_pos rfl)⟩, fun no => absurd trivial no⟩
  exact step.bind_always next

theorem gobble_no {f : Bool → Parse β} (other : (tokens ++ rest).head? ≠ some word)
    (next : Answers (f false) fits store tokens rest b after) :
    Answers (gobble word >>= f) fits store tokens rest b after := by
  have step : Answers (gobble word) True store [] (tokens ++ rest) false store := fun n ms =>
    ⟨fun _ => ⟨ms, (gobble_apply word _).trans (if_neg other)⟩, fun no => absurd trivial no⟩
  exact step.bind_always next

theorem expect_bind {f : Unit → Parse β} {fault : ParseFault}
    (next : Answers (f ()) fits store tokens rest b after) :
    Answers (expect word fault >>= f) fits store (word :: tokens) rest b after := by
  have step : Answers (expect word fault) True store [word] (tokens ++ rest) () store :=
    gobble_yes (pure ())
  exact step.bind_always next

theorem too_deep (never : ¬ fits) :
    Answers (refuse .tooDeep) fits store tokens rest a after :=
  fun _ _ => ⟨fun yes => absurd yes never, fun _ => ⟨_, _, rfl, rfl⟩⟩

/-- An item between other tokens. What follows an item is never an opening parenthesis. -/
theorem item_bind {head : String} (closed : head ≠ "(")
    (item : ∀ rest, rest.head? ≠ some "(" → Answers p fits store tokens rest a middle)
    (next : Answers (f a) more middle (head :: others) rest b after) :
    Answers (p >>= f) (fits ∧ more) store (tokens ++ head :: others) rest b after :=
  (item _ (by simpa using closed)).bind next

/-- An item of which the rest of a construct adds no condition. -/
theorem item_then {head : String} (closed : head ≠ "(")
    (item : ∀ rest, rest.head? ≠ some "(" → Answers p fits store tokens rest a middle)
    (next : Answers (f a) True middle (head :: others) rest b after) :
    Answers (p >>= f) fits store (tokens ++ head :: others) rest b after :=
  (item_bind closed item next).of_iff (iff_of_eq (and_true fits).symm)

end Answers

section Arguments

variable {item : Parse α} {fits more : Prop} {store : Store} {ts us rest : List String} {a b : α}

theorem pair_answers (owner : String)
    (first : ∀ rest, rest.head? ≠ some "(" → Answers item fits store ts rest a store)
    (second : ∀ rest, rest.head? ≠ some "(" → Answers item more store us rest b store) :
    Answers (pair owner item) (fits ∧ more) store ("(" :: (ts ++ "," :: (us ++ [")"]))) rest (a, b)
      store := by
  refine .expect_bind (.item_bind (by decide) first (.expect_bind ?_))
  refine .item_then (by decide) second (.expect_bind ?_)
  exact .pure (a, b)

theorem optional_some (owner : String)
    (argument : ∀ rest, rest.head? ≠ some "(" → Answers item fits store ts rest a store) :
    Answers (optionalArgument owner item) fits store ("(" :: (ts ++ [")"])) rest (some a)
      store := by
  refine .gobble_yes (.item_then (by decide) argument (.expect_bind ?_))
  exact .pure (some a)

theorem optional_none (owner : String) (plain : rest.head? ≠ some "(") :
    Answers (optionalArgument owner item) True store [] rest none store :=
  .gobble_no plain (.pure _)

end Arguments

theorem number_answers {word : String} {value : Value} {store : Store} {rest : List String}
    (stands : Word.toInt word = value.toInt) :
    Answers (readNumber word) True store [word] rest (.number value) store := by
  have small : Int32.minValue.toInt ≤ value.toInt ∧ value.toInt ≤ Int32.maxValue.toInt :=
    ⟨value.minValue_le_toInt, value.toInt_le⟩
  unfold readNumber
  simp only [stands, if_pos small, Int32.ofInt_toInt]
  exact .advance_bind (.pure _)

theorem variable_answers {name : String} {store : Store} {rest : List String}
    (known : store.isDeclared name = true) :
    Answers (readVariable name) True store [name] rest (.var name) store := by
  intro n ms
  refine ⟨fun _ => ⟨ms, ?_⟩, fun no => absurd trivial no⟩
  exact (readVariable_apply name _).trans (if_pos known)

end Parse

theorem Expression.nesting_pos (e : Expression) : 0 < e.nesting := by
  cases e <;> simp [Expression.nesting]

theorem Condition.nesting_pos (c : Condition) : 0 < c.nesting := by
  cases c <;> simp [Condition.nesting]

theorem Statement.nesting_pos (s : Statement) : 0 < s.nesting := by
  cases s <;> simp [Statement.nesting]

namespace Parse

open Expression.Opening in
theorem expression_answers (levels : Nat) {e : Expression} {ts rest : List String} {store : Store}
    (derived : Expression.Derives ts e) (bound : e.Bound store) (closed : rest.head? ≠ some "(") :
    Answers (expression levels) (e.nesting ≤ levels) store ts rest e store := by
  induction levels generalizing e ts rest with
  | zero => exact .too_deep (Nat.not_le.mpr e.nesting_pos)
  | succ levels ih =>
    cases derived with
    | @number word value numeral stands =>
      refine .choose (ofWord?_word (.number word) numeral) ?_
      exact (number_answers stands).of_iff (by simp [Expression.nesting])
    | @var name form =>
      refine .choose (ofWord?_word (.var name) form) ?_
      exact (variable_answers bound.2).of_iff (by simp [Expression.nesting])
    | gauge g =>
      refine .choose (ofWord?_word (.gauge g) trivial) (.advance_bind (.of_iff (.pure _) ?_))
      simp [Expression.nesting]
    | barrel axis =>
      refine .choose (ofWord?_word (.barrel axis) trivial) (.advance_bind ?_)
      refine .of_iff (.finish (optional_none _ closed) rfl) ?_
      simp [Expression.nesting]
    | barrelAt axis inner =>
      have argument := fun rest closed => @ih _ _ rest inner bound closed
      refine .choose (ofWord?_word (.barrel axis) trivial) (.advance_bind ?_)
      refine .of_iff (.finish (optional_some _ argument) rfl) ?_
      simp [Expression.nesting]
    | op o left right =>
      have first := fun rest closed => @ih _ _ rest left bound.1 closed
      have second := fun rest closed => @ih _ _ rest right bound.2 closed
      refine .choose (ofWord?_word (.operator o) trivial) (.advance_bind ?_)
      refine .of_iff (.finish (pair_answers _ first second) rfl) ?_
      simp only [Expression.nesting, Nat.add_le_add_iff_right, Nat.max_le]

open Condition.Opening in
theorem condition_answers (levels : Nat) {c : Condition} {ts rest : List String} {store : Store}
    (derived : Condition.Derives ts c) (bound : c.Bound store) :
    Answers (condition levels) (c.nesting ≤ levels) store ts rest c store := by
  induction levels generalizing c ts rest with
  | zero => exact .too_deep (Nat.not_le.mpr c.nesting_pos)
  | succ levels ih =>
    cases derived with
    | compare r left right =>
      have first := fun rest closed => @expression_answers levels _ _ rest _ left bound.1 closed
      have second := fun rest closed => @expression_answers levels _ _ rest _ right bound.2 closed
      refine .choose (ofWord?_word (.compare r)) (.advance_bind ?_)
      refine .of_iff (.finish (pair_answers _ first second) rfl) ?_
      simp only [Condition.nesting, Nat.add_le_add_iff_right, Nat.max_le]
    | and left right =>
      have first := fun rest (_ : rest.head? ≠ some "(") => @ih _ _ rest left bound.1
      have second := fun rest (_ : rest.head? ≠ some "(") => @ih _ _ rest right bound.2
      refine .choose (ofWord?_word .and) (.advance_bind ?_)
      refine .of_iff (.finish (pair_answers _ first second) rfl) ?_
      simp only [Condition.nesting, Nat.add_le_add_iff_right, Nat.max_le]
    | or left right =>
      have first := fun rest (_ : rest.head? ≠ some "(") => @ih _ _ rest left bound.1
      have second := fun rest (_ : rest.head? ≠ some "(") => @ih _ _ rest right bound.2
      refine .choose (ofWord?_word .or) (.advance_bind ?_)
      refine .of_iff (.finish (pair_answers _ first second) rfl) ?_
      simp only [Condition.nesting, Nat.add_le_add_iff_right, Nat.max_le]
    | not operand =>
      have inside := fun rest (_ : rest.head? ≠ some "(") => @ih _ _ rest operand bound
      refine .choose (ofWord?_word .not) (.advance_bind (.expect_bind ?_))
      refine .of_iff (.item_then (by decide) inside (.expect_bind ?_)) ?_
      · exact .pure _
      · simp [Condition.nesting]

end Parse

end ArenaScript
