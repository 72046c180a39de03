import ArenaScript.Proofs.Script.Refusal
import ArenaScript.Proofs.Script.Declaring
import ArenaScript.Proofs.Script.Widening

/-! What parsing has to do with the store. A parse that stops anywhere, with a program or with an
error, has added the names that the tokens before this place assign; and it would have gone the same
way from any store that has the same names, or more of them, if it did not stop for want of one. -/
namespace ArenaScript

open Token

namespace Program

/-- How many tokens a parse passes: all of them, or those before the error. -/
def reach (text : String) (store : Store) : Nat :=
  match (Program.parse text store).result with
  | .ok _ => (split text).length
  | .error e => e.position

theorem parse_gains (text : String) (store : Store) :
    store.Gains ((split text).take (reach text store)) (Program.parse text store).store := by
  cases result : (Program.parse text store).result with
  | ok p =>
    have run : Parse.program ⟨Cursor.ofText text, store, []⟩ =
        (.ok p, (Parse.program ⟨Cursor.ofText text, store, []⟩).2) := Prod.ext result rfl
    obtain ⟨us, passed, gains, -⟩ := Parse.program_declares _ run
    obtain ⟨-, -, -, ended⟩ := Parse.program_ok run
    rw [ended, List.append_nil] at passed
    have all : (split text).take (reach text store) = us := by
      rw [reach, result, List.take_length]
      exact passed
    rw [all]
    exact gains
  | error e =>
    obtain ⟨t, run, -, -, passed⟩ := Parse.passed_of_refused result
    obtain ⟨us, ahead, gains, -⟩ := Parse.program_declares _ run
    have before : us = (split text).take (reach text store) := by
      rw [reach, result]
      exact List.append_cancel_right (ahead.symm.trans passed.ahead)
    have left : (Program.parse text store).store = t.store := by
      rw [Program.parse, Parse.run, run]
    rw [left, ← before]
    exact gains

section Wider

variable {text : String} {store other : Store} {e : ParseError}

/-- The runs of the two parses, where the stores have the same names apart from those of `extra`. -/
theorem outlasts_of_names {extra : String → Prop}
    (names : ∀ name, other.isDeclared name = true ↔ store.isDeclared name = true ∨ extra name) :
    Parse.Outlasts extra (Parse.program ⟨Cursor.ofText text, store, []⟩)
      (Parse.program ⟨Cursor.ofText text, other, []⟩) :=
  (Parse.program_lasts _).outlasts ⟨rfl, names⟩

theorem parse_congr_names (names : ∀ name, other.isDeclared name = store.isDeclared name) :
    (Program.parse text other).result = (Program.parse text store).result := by
  have outlasts : Parse.Outlasts (fun _ => False) (Parse.program ⟨Cursor.ofText text, store, []⟩)
      (Parse.program ⟨Cursor.ofText text, other, []⟩) := outlasts_of_names (by simp [names])
  apply outlasts.result_eq
  rintro e - ⟨name, -, none⟩
  exact none

variable (wider : ∀ name, store.isDeclared name = true → other.isDeclared name = true)

include wider

theorem outlasts_of_wider :
    Parse.Outlasts (fun name => other.isDeclared name = true)
      (Parse.program ⟨Cursor.ofText text, store, []⟩)
      (Parse.program ⟨Cursor.ofText text, other, []⟩) := by
  apply outlasts_of_names
  intro name
  exact ⟨.inr, fun either => either.elim (wider name) id⟩

theorem parse_of_wider (lacking : ∀ e name, (Program.parse text store).result = .error e →
      e.fault = .unbound name → other.isDeclared name = false) :
    (Program.parse text other).result = (Program.parse text store).result := by
  apply (outlasts_of_wider wider).result_eq
  rintro e stopped ⟨name, unbound, declared⟩
  rw [lacking e name stopped unbound] at declared
  contradiction

theorem position_lt_of_wider {e' : ParseError} {name : String}
    (stopped : (Program.parse text store).result = .error e) (unbound : e.fault = .unbound name)
    (supplied : other.isDeclared name = true)
    (stopped' : (Program.parse text other).result = .error e') : e.position < e'.position := by
  obtain ⟨t, run, -, -, passed⟩ := Parse.passed_of_refused stopped'
  have beyond := (outlasts_of_wider wider).position_lt stopped ⟨name, unbound, supplied⟩
  rw [run] at beyond
  rwa [(passed.points e' rfl).1]

end Wider

/-- A parse meets its store in the declarations only. It keeps what is bound and binds to zero the
names that the tokens it passed assign; what it gives depends on the names alone; and further names
change nothing, unless it stopped for want of one of them. -/
theorem parse_only_through_declarations (text : String) (store : Store) :
    store.Gains ((split text).take (reach text store)) (Program.parse text store).store ∧
    (∀ other : Store, (∀ name, other.isDeclared name = store.isDeclared name) →
      (Program.parse text other).result = (Program.parse text store).result) ∧
    ∀ other : Store, (∀ name, store.isDeclared name = true → other.isDeclared name = true) →
      (∀ p, (Program.parse text store).result = .ok p →
        (Program.parse text other).result = .ok p) ∧
      (∀ e, (Program.parse text store).result = .error e → (∀ name, e.fault ≠ .unbound name) →
        (Program.parse text other).result = .error e) ∧
      (∀ e name, (Program.parse text store).result = .error e → e.fault = .unbound name →
        other.isDeclared name = true → (∃ p, (Program.parse text other).result = .ok p) ∨
          ∃ e', (Program.parse text other).result = .error e' ∧ e.position < e'.position) := by
  refine ⟨parse_gains text store, fun other names => parse_congr_names names, ?_⟩
  intro other wider
  refine ⟨?_, ?_, ?_⟩
  · intro p accepted
    rw [← accepted]
    apply parse_of_wider wider
    intro e name stopped
    cases accepted.symm.trans stopped
  · intro e stopped syntactic
    rw [← stopped]
    apply parse_of_wider wider
    intro e' name stopped' unbound
    cases stopped.symm.trans stopped'
    exact absurd unbound (syntactic name)
  · intro e name stopped unbound supplied
    cases result : (Program.parse text other).result with
    | ok p => exact .inl ⟨p, rfl⟩
    | error e' => exact .inr ⟨e', rfl, position_lt_of_wider wider stopped unbound supplied result⟩

/-- One store has not the name that is read, one has it, and one has another name besides. -/
theorem parse_only_through_declarations_late :
    let text := "$a = 1; move($b); $c = 2; turnL"
    let one := Store.empty.set "$b" 5
    let two := one.set "$z" 1
    ((Program.parse text .empty).result =
        .error ⟨.unbound "$b", 6, ["$b", ")", ";", "$c", "="]⟩ ∧
      Store.empty.Gains ["$a", "=", "1", ";", "move", "("] (Program.parse text .empty).store ∧
      one.isDeclared "$b" = true ∧
      ((∃ p, (Program.parse text one).result = .ok p) ∨
        ∃ e, (Program.parse text one).result = .error e ∧ 6 < e.position)) ∧
    ((∀ name, (Store.empty.set "$b" 7).isDeclared name = one.isDeclared name) ∧
      (Program.parse text (Store.empty.set "$b" 7)).result = (Program.parse text one).result) ∧
    ((∀ name, one.isDeclared name = true → two.isDeclared name = true) ∧
      (Program.parse text one).result = .error ⟨.actionUnclosed "turnL", 14, []⟩ ∧
      (Program.parse text two).result = .error ⟨.actionUnclosed "turnL", 14, []⟩) ∧
    ∃ p, (Program.parse "$c = $b;" one).result = .ok p ∧
      (Program.parse "$c = $b;" two).result = .ok p := by
  intro text one two
  have unbound : (Program.parse text .empty).result =
      .error ⟨.unbound "$b", 6, ["$b", ")", ";", "$c", "="]⟩ := by decide +kernel
  have unclosed : (Program.parse text one).result = .error ⟨.actionUnclosed "turnL", 14, []⟩ := by
    decide +kernel
  have accepted : (Program.parse "$c = $b;" one).result = .ok ⟨[.assign "$c" (.var "$b")]⟩ := by
    decide +kernel
  have tokens : (split text).take (reach text .empty) = ["$a", "=", "1", ";", "move", "("] := by
    rw [reach, unbound]
    decide +kernel
  have same : ∀ name, (Store.empty.set "$b" 7).isDeclared name = one.isDeclared name := by
    simp [one]
  have more : ∀ name, one.isDeclared name = true → two.isDeclared name = true := by
    intro name declared
    simp [two, declared]
  have supplied : one.isDeclared "$b" = true := by simp [one]
  obtain ⟨gains, -, wider⟩ := parse_only_through_declarations text .empty
  obtain ⟨-, names, wider'⟩ := parse_only_through_declarations text one
  obtain ⟨-, -, wider''⟩ := parse_only_through_declarations "$c = $b;" one
  rw [tokens] at gains
  refine ⟨⟨unbound, gains, supplied, ?_⟩, ⟨same, names _ same⟩, ⟨more, unclosed, ?_⟩, ?_⟩
  · exact (wider one nofun).2.2 _ "$b" unbound rfl supplied
  · exact (wider' two more).2.1 _ unclosed nofun
  · exact ⟨_, accepted, (wider'' two more).1 _ accepted⟩

end Program

end ArenaScript
