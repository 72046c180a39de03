import ArenaScript.Proofs.Script.Rules
import ArenaScript.Proofs.Survey

/-! What a parse asks of the store: whether a name is declared, and that only where a variable is
read. Two parses of the same tokens, one from a store with more names, go the same way until the
other one reads a name that it lacks. If the wider store has this name, the parse from there passes
it and goes on. -/
namespace ArenaScript

/-- The same place, with the names of `extra` declared besides those of the first store. -/
structure ParseState.Widens (extra : String → Prop) (s s' : ParseState) : Prop where
  cursor : s'.cursor = s.cursor
  names : ∀ name, s'.store.isDeclared name = true ↔ s.store.isDeclared name = true ∨ extra name

def ParseError.Supplied (extra : String → Prop) (e : ParseError) : Prop :=
  ∃ name, e.fault = .unbound name ∧ extra name

namespace Parse

variable {α β : Type} {extra : String → Prop}

/-- How a run from the wider store ends beside one from the narrower: in the same way or, where the
latter stopped at a name that the wider store supplies, further on. -/
inductive Outlasts (extra : String → Prop) :
    Except ParseError α × ParseState → Except ParseError α × ParseState → Prop
  | same {r : Except ParseError α} {t t' : ParseState}
      (lacking : ∀ e, r = .error e → ¬ e.Supplied extra) (wide : t.Widens extra t') :
      Outlasts extra (r, t) (r, t')
  | further {e : ParseError} {t : ParseState} {ran : Except ParseError α × ParseState}
      (supplied : e.Supplied extra) (beyond : e.position < ran.2.cursor.position) :
      Outlasts extra (.error e, t) ran

section Outlasts

variable {ran ran' : Except ParseError α × ParseState} {e : ParseError}

theorem Outlasts.result_eq (outlasts : Outlasts extra ran ran')
    (lacking : ∀ e, ran.1 = .error e → ¬ e.Supplied extra) : ran'.1 = ran.1 := by
  cases outlasts with
  | same => rfl
  | further supplied => exact absurd supplied (lacking _ rfl)

theorem Outlasts.position_lt (outlasts : Outlasts extra ran ran') (stopped : ran.1 = .error e)
    (supplied : e.Supplied extra) : e.position < ran'.2.cursor.position := by
  cases outlasts with
  | same lacking => exact absurd supplied (lacking e stopped)
  | further supplied beyond =>
    cases stopped
    exact beyond

end Outlasts

/-- The parser never goes back, and its run from a wider state outlasts the one from `s`. -/
structure Lasts (extra : String → Prop) (α : Type) (p : Parse α) (s : ParseState) : Prop where
  onward : s.cursor.position ≤ (p s).2.cursor.position
  outlasts : ∀ ⦃s'⦄, s.Widens extra s' → Outlasts extra (p s) (p s')

namespace Lasts

variable {p : Parse α} {f : α → Parse β} {s : ParseState}

theorem refuse {fault : ParseFault} (other : ∀ name, fault ≠ .unbound name) :
    Lasts extra α (Parse.refuse fault) s := by
  refine ⟨Nat.le_refl _, ?_⟩
  rintro ⟨_, store, ms⟩ ⟨rfl, names⟩
  refine .same ?_ ⟨rfl, names⟩
  intro e same
  cases same
  rintro ⟨name, unbound, -⟩
  exact other name unbound

theorem bind (first : Lasts extra α p s) (second : ∀ a m, Lasts extra β (f a) m) :
    Lasts extra β (p >>= f) s := by
  have later {m k : ParseState} {r : Except ParseError α} (run : p m = (r, k)) :
      k.cursor.position ≤ ((p >>= f) m).2.cursor.position := by
    cases r with
    | error e => exact Nat.le_of_eq (by rw [Attempt.bind_error run])
    | ok a =>
      rw [Attempt.bind_ok run]
      exact (second a k).onward
  refine ⟨Nat.le_trans first.onward (later rfl), ?_⟩
  intro s' wide
  have step := first.outlasts wide
  rcases there : p s' with ⟨r', m'⟩
  rcases here : p s with ⟨e | a, m⟩
  · rw [here, there] at step
    rw [Attempt.bind_error here]
    cases step with
    | same lacking wide' =>
      rw [Attempt.bind_error there]
      refine .same ?_ wide'
      intro e' same
      cases same
      exact lacking e rfl
    | further supplied beyond =>
      -- the wider run is beyond the error already, and its second part does not go back
      exact .further supplied (Nat.lt_of_lt_of_le beyond (later there))
  · rw [here, there] at step
    cases step with
    | same lacking wide' =>
      rw [Attempt.bind_ok here, Attempt.bind_ok there]
      exact (second a m).outlasts wide'

/-- The one place where the wider store can make a difference. -/
theorem readVariable {name : String} (next : s.cursor.peek? = some name) :
    Lasts extra Expression (readVariable name) s := by
  have moved : s.cursor.position < s.cursor.advance.position := by
    rw [position_advance next]
    exact Nat.lt_succ_self _
  constructor
  · rw [readVariable_apply]
    split
    · exact Nat.le_of_lt moved
    · exact Nat.le_refl _
  · rintro ⟨_, store, ms⟩ ⟨rfl, names⟩
    have wide := names name
    rw [readVariable_apply, readVariable_apply]
    by_cases known : s.store.isDeclared name = true
    · rw [if_pos known, if_pos (wide.mpr (.inl known))]
      exact .same nofun ⟨rfl, names⟩
    · rw [if_neg known]
      by_cases supplied : extra name
      · rw [if_pos (wide.mpr (.inr supplied))]
        exact .further ⟨name, rfl, supplied⟩ moved
      · rw [if_neg (by simp [wide, known, supplied])]
        refine .same ?_ ⟨rfl, names⟩
        intro e same
        cases same
        rintro ⟨other, unbound, held⟩
        cases unbound
        exact supplied held

theorem declare (name : String) (s : ParseState) : Lasts extra Unit (declare name) s := by
  obtain ⟨ms, run⟩ := declare_apply name s
  constructor
  · exact Nat.le_of_eq (by rw [run])
  · intro s' wide
    obtain ⟨ms', run'⟩ := declare_apply name s'
    rw [run, run', wide.cursor]
    refine .same nofun ⟨rfl, fun other => ?_⟩
    simp [wide.names, or_assoc]

end Lasts

theorem lasts_runs : RunRules (Lasts extra) fun _ => True where
  pure _ _ := ⟨Nat.le_refl _, fun _ wide => .same nofun wide⟩
  refuse _ syntactic := .refuse syntactic.2
  bind := .bind
  peek_bind {β f s} next := by
    refine ⟨next.onward, ?_⟩
    rintro ⟨_, store, ms⟩ ⟨rfl, names⟩
    exact next.outlasts ⟨rfl, names⟩
  advance {word s} _ here := by
    constructor
    · exact Nat.le_of_lt (Nat.lt_of_lt_of_eq (Nat.lt_succ_self _) (position_advance here).symm)
    · intro s' wide
      exact .same nofun ⟨congrArg Cursor.advance wide.cursor, wide.names⟩

theorem lasts_values : ValueRules (Always (Lasts extra)) (Always (Lasts extra))
    (Before (Lasts extra)) fun _ => True where
  toRules := lasts_runs.toRules
  inner _ _ := trivial
  number _ _ here := lasts_runs.readNumber trivial here
  var _ _ here := .readVariable here

theorem lasts_rules : LoopRules (Always (Lasts extra)) (Always (Lasts extra))
    (Always (Lasts extra)) (Before (Lasts extra)) fun _ => True where
  toStatementRules := lasts_values.forStatements (fun _ => trivial)
    (fun _ _ =>
      ⟨Nat.le_refl _, fun _ wide => .same nofun ⟨wide.cursor, wide.names⟩⟩)
    Lasts.declare
  expression := lasts_values.expression fun _ _ => .refuse (by simp)
  condition := lasts_values.condition fun _ _ => .refuse (by simp)
  tooDeep _ := .refuse (by simp)
  remaining_bind {β f g} next s := by
    refine ⟨(next _ s).onward, ?_⟩
    rintro ⟨_, store, ms⟩ ⟨rfl, names⟩
    exact (next _ s).outlasts ⟨rfl, names⟩

theorem program_lasts (s : ParseState) : Lasts extra Program program s :=
  lasts_rules.wholeProgram s

end Parse

end ArenaScript
