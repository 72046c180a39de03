import ArenaScript.Proofs.Script.Inert

/-! What a parse does to the store. A parser that passes tokens, and then succeeds or fails, has
declared the names that these tokens assign and no others: an assignment declares its name when its
semicolon is passed, and nothing else declares any. -/
namespace ArenaScript

/-- The second store is the first with the names declared that the tokens assign. -/
def Store.Gains (before : Store) (tokens : List String) (after : Store) : Prop :=
  before.Extends after ∧ ∀ name, after.isDeclared name = true ↔
    before.isDeclared name = true ∨ Word.isVariable name = true ∧ AssignedIn tokens name

namespace Store

variable {a b c : Store} {us vs : List String}

theorem gains_none (a : Store) (none : ∀ {name}, ¬ AssignedIn us name) : a.Gains us a :=
  ⟨.refl a, fun name => by simp [none]⟩

theorem Gains.trans (first : a.Gains us b) (shut : Sealed us) (second : b.Gains vs c) :
    a.Gains (us ++ vs) c := by
  refine ⟨first.1.trans second.1, fun name => ?_⟩
  rw [second.2, first.2, or_assoc]
  by_cases form : Word.isVariable name = true
  · simp [form, shut vs name form]
  · simp [form]

theorem gains_declare (a : Store) {name : String} (form : Word.isVariable name = true)
    (inert : Inert us) : a.Gains (name :: "=" :: (us ++ [";"])) (a.declare name) := by
  refine ⟨a.extends_declare name, fun other => ?_⟩
  by_cases form' : Word.isVariable other = true
  · simp [form', assignedIn_assignment inert form', not_assignedIn_nil, or_comm]
  · have apart : other ≠ name := by
      rintro rfl
      exact form' form
    simp [form', apart]

end Store

namespace Parse

variable {α β : Type}

theorem expect_bind_cases {word : String} {fault : ParseFault} {f : Unit → Parse β}
    {s t : ParseState} {r : Except ParseError β} (run : (expect word fault >>= f) s = (r, t)) :
    (∃ m, s.cursor.rest = word :: m.cursor.rest ∧ m.store = s.store ∧ f () m = (r, t)) ∨
      (∃ e, r = .error e) ∧ t = s := by
  rw [expect_bind_eq] at run
  rcases gobble_bind_cases run with ⟨here, run⟩ | ⟨-, run⟩
  · exact .inl ⟨{ s with cursor := s.cursor.advance }, rest_of_peek? here, rfl, run⟩
  · cases run
    exact .inr ⟨⟨_, rfl⟩, rfl⟩

/-- However the run ends, it has declared the names that the tokens it passed assign. If it
succeeds, these tokens leave no assignment open. -/
def Declares (α : Type) (p : Parse α) (s : ParseState) : Prop :=
  ∀ ⦃r t⦄, p s = (r, t) → ∃ us, s.cursor.rest = us ++ t.cursor.rest ∧
    s.store.Gains us t.store ∧ ∀ a, r = .ok a → Sealed us

namespace Declares

variable {p : Parse α} {f : α → Parse β} {s : ParseState} {word : String} {fault : ParseFault}

theorem refuse (fault : ParseFault) (s : ParseState) : Declares α (Parse.refuse fault) s := by
  intro r t run
  cases run
  exact ⟨[], rfl, Store.gains_none s.store (not_assignedIn_nil _), nofun⟩

theorem bind (first : Declares α p s) (second : ∀ a m, Declares β (f a) m) :
    Declares β (p >>= f) s := by
  intro r t run
  rcases here : p s with ⟨e | a, m⟩
  · rw [Attempt.bind_error here] at run
    cases run
    obtain ⟨us, passed, gains, -⟩ := first here
    exact ⟨us, passed, gains, nofun⟩
  · rw [Attempt.bind_ok here] at run
    obtain ⟨us, passed, gains, shut⟩ := first here
    obtain ⟨vs, passed', gains', shut'⟩ := second a m run
    refine ⟨us ++ vs, ?_, gains.trans (shut a rfl) gains', ?_⟩
    · rw [passed, passed', List.append_assoc]
    · intro b same
      exact (shut a rfl).append (shut' b same)

/-- A plain part and the word that closes it. Without this word the tokens need not be sealed: the
last of them may be a name. -/
theorem plain_bind (first : Plain α p s) (mark : word ≠ "=" ∧ Word.isVariable word = false)
    (next : ∀ a m, Declares β (f a) m) :
    Declares β (p >>= fun a => expect word fault >>= fun _ => f a) s := by
  intro r t run
  rcases here : p s with ⟨e | a, m⟩
  · rw [Attempt.bind_error here] at run
    cases run
    obtain ⟨kept, us, passed, inert⟩ := first here
    exact ⟨us, passed, kept ▸ Store.gains_none s.store inert.not_assignedIn, nofun⟩
  · rw [Attempt.bind_ok here] at run
    obtain ⟨kept, us, passed, inert⟩ := first here
    rcases expect_bind_cases run with ⟨k, closed, kept', run⟩ | ⟨⟨e, rfl⟩, rfl⟩
    · obtain ⟨vs, passed', gains, shut⟩ := next a k run
      have before : Sealed (us ++ [word]) := inert.sealed_append mark.1 mark.2
      have none := Store.gains_none s.store (inert.not_assignedIn_append mark.1)
      rw [kept', kept] at gains
      refine ⟨us ++ [word] ++ vs, ?_, none.trans before gains, ?_⟩
      · simp [passed, closed, passed']
      · intro b same
        exact before.append (shut b same)
    · exact ⟨us, passed, kept ▸ Store.gains_none s.store inert.not_assignedIn, nofun⟩

end Declares

/-- The tokens after the name. It is declared when the semicolon is passed, and not before. -/
theorem assignment_declares {name : String} {item : Parse Expression} {s t : ParseState}
    {r : Except ParseError Statement} (form : Word.isVariable name = true)
    (source : ∀ m, Plain Expression item m) (run : assignment name item s = (r, t)) :
    ∃ us, s.cursor.rest = us ++ t.cursor.rest ∧ s.store.Gains (name :: us) t.store ∧
      ∀ a, r = .ok a → Sealed (name :: us) := by
  have unfinished {us : List String} (inert : Inert us) :
      s.store.Gains (name :: "=" :: us) s.store := by
    have apart : ";" ≠ name := (Word.ne_of_variable form (by decide)).symm
    have absent : ";" ∉ us := fun held => (inert ";" held).2 rfl
    exact Store.gains_none s.store (not_assignedIn_of_open (by simp [apart, absent]))
  -- the run may stop before the equals sign, in the value or before the semicolon
  rcases expect_bind_cases run with ⟨m, equals, kept, run⟩ | ⟨⟨e, rfl⟩, rfl⟩
  · rcases value : item m with ⟨e | v, m₁⟩
    · rw [Attempt.bind_error value] at run
      cases run
      obtain ⟨kept₁, us, passed, inert⟩ := source m value
      refine ⟨"=" :: us, by rw [equals, passed]; rfl, ?_, nofun⟩
      rw [kept₁, kept]
      exact unfinished inert
    · rw [Attempt.bind_ok value] at run
      obtain ⟨kept₁, us, passed, inert⟩ := source m value
      rcases expect_bind_cases run with ⟨m₂, semicolon, kept₂, run⟩ | ⟨⟨e, rfl⟩, rfl⟩
      · obtain ⟨ms, declared⟩ := declare_apply name m₂
        cases (Attempt.bind_ok declared).symm.trans run
        refine ⟨"=" :: (us ++ [";"]), ?_, ?_, ?_⟩
        · simp [equals, passed, semicolon]
        · rw [kept₂, kept₁, kept]
          exact s.store.gains_declare form inert
        · intro a same
          exact sealed_assignment inert
      · refine ⟨"=" :: us, by rw [equals, passed]; rfl, ?_, nofun⟩
        rw [kept₁, kept]
        exact unfinished inert
  · exact ⟨[], rfl, Store.gains_none _ not_assignedIn_word, nofun⟩

theorem declares_runs : RunRules Declares fun word => Word.isVariable word = false where
  pure a s := by
    intro r t run
    cases run
    exact ⟨[], rfl, Store.gains_none s.store (not_assignedIn_nil _), fun _ _ => sealed_nil⟩
  refuse s _ := .refuse _ s
  bind := .bind
  peek_bind next := next
  advance {word s} other here := by
    intro r t run
    cases run
    have gains : s.store.Gains [word] s.store := Store.gains_none s.store not_assignedIn_word
    exact ⟨[word], rest_of_peek? here, gains, fun _ _ => sealed_word other⟩

theorem closing_words : ∀ word ∈ outerWords, word ≠ "=" ∧ Word.isVariable word = false := by
  decide

theorem declares_rules : LoopRules (Always Plain) (Always Declares) (Always Declares)
    (Before Declares) fun word => Word.isVariable word = false where
  toRules := declares_runs.toRules
  outer := by decide
  closed among _ values next s := .plain_bind (values s) (closing_words _ among) next
  argument among _ values next s :=
    .plain_bind (plain_rules.optionalArgument _ values s) (closing_words _ among) next
  assign {x y name} form values s here := by
    intro r t run
    obtain ⟨us, passed, gains, shut⟩ := assignment_declares form values run
    exact ⟨name :: us, by rw [rest_of_peek? here, passed]; rfl, gains, shut⟩
  note milestone s := by
    intro r t run
    cases run
    exact ⟨[], rfl, Store.gains_none s.store (not_assignedIn_nil _), fun _ _ => sealed_nil⟩
  expression := expression_plain
  condition := condition_plain
  tooDeep := .refuse .tooDeep
  remaining_bind next s := next s.cursor.rest.length s

theorem program_declares (s : ParseState) : Declares Program program s :=
  declares_rules.wholeProgram s

end Parse

end ArenaScript
