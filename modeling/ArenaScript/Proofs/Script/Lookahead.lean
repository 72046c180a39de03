import ArenaScript.Proofs.Script.Agreement
import ArenaScript.Proofs.Script.Soundness

/-! Statements and programs look one token ahead and no further. Their loops are bounded by the
number of tokens that are left, which is not a fact about the tokens passed. So the bound is first
shown not to matter: with two bounds that are both large enough, a loop agrees with itself. -/
namespace ArenaScript

namespace Parse

def Same (α : Type) (p q : Parse α) (s : ParseState) : Prop := p s = q s

theorem same_rules : AgreeRules Same where
  step _ _ := rfl
  pure _ _ := rfl
  bind {α β x f p g s} first second := by
    unfold Same at first ⊢
    rw [Attempt.bind_apply, Attempt.bind_apply, first]
    rcases run : p s with ⟨e | a, t⟩
    · rfl
    · exact second a t run
  congr same agree := agree.trans same

theorem Local.same {α : Type} {p : Parse α} (isLocal : Local p) (few : Nat) :
    Within Same few α p p :=
  ⟨fun _ _ => rfl, isLocal.shrinks⟩

theorem steady_statements : StatementRules (fun α (p _ : Parse α) => Local p)
    (fun α (p _ : Parse α) => Local p) (fun α (p _ : Parse α) => Steady p)
    (fun _ α (p _ : Parse α) => Steady p) fun _ => True :=
  steady_rules.forStatements (fun _ => trivial) note_steady declare_steady

/-- A statement parser with levels left, or the one without. -/
def Ready (item : Parse Statement) : Prop := (Steady item ∧ Advances item) ∨ item = refuse .tooDeep

namespace Ready

variable {item : Parse Statement}

theorem isLocal (ready : Ready item) : Local item := by
  rcases ready with ⟨steady, -⟩ | rfl
  · exact steady.isLocal
  · exact .refuse .tooDeep

theorem advances (ready : Ready item) : Advances item := by
  rcases ready with ⟨-, advances⟩ | rfl
  · exact advances
  · intro s a t run
    cases run

end Ready

section Blocks

variable {item : Parse Statement} {test : Parse Condition}

theorem block_steady (owner : String) (items : Ready item) : Steady (block owner item) := by
  have advances := items.advances
  rcases items with ⟨each, -⟩ | rfl
  · apply steady_statements.block each.isLocal
    apply Steady.remaining_bind
    · intro count
      exact steady_statements.untilClosed each owner _
    · intro s count enough
      have same := each.isLocal.same (count + 1)
      exact same_rules.untilClosed same advances (untilClosed owner item) (fun _ => rfl)
        (by omega) (by omega) (by omega)
  · exact .expect_bind (.refuse .tooDeep) (by simp)

theorem chainTail_steady (tests : Local test) (items : Ready item) :
    Steady (remaining >>= chainTail test item) := by
  have blocks (owner : String) := block_steady owner items
  apply Steady.remaining_bind (steady_statements.chainTail tests blocks)
  intro s fuel enough
  -- the agreement is with a loop that has one round more
  have same (fuel' : Nat) (enough' : s.cursor.rest.length ≤ fuel') :
      Same _ (chainTail test item (fuel + 1)) (chainTail test item fuel') s :=
    same_rules.chainTail (tests.same (fuel + 1)) (fun owner => (blocks owner).isLocal.same _)
      (chainTail test item) (fun _ => rfl) (by omega) (by omega) enough'
  exact (same _ (Nat.le_refl _)).symm.trans (same fuel enough)

end Blocks

theorem statement_advances (levels : Nat) : Advances (statement levels) :=
  fun _ _ _ run => length_lt_of_statement run

theorem statement_succ_steady {levels : Nat} (inner : Ready (statement levels)) :
    Steady (statement (levels + 1)) :=
  steady_statements.statement (expression_local levels) (condition_local levels)
    (fun owner => block_steady owner inner) (chainTail_steady (condition_local levels) inner)

theorem statement_ready (levels : Nat) : Ready (statement levels) := by
  induction levels with
  | zero => exact .inr rfl
  | succ levels ih => exact .inl ⟨statement_succ_steady ih, statement_advances _⟩

theorem program_steady : Steady program := by
  have each : Steady (statement maxNesting) := statement_succ_steady (statement_ready _)
  apply steady_statements.program
  apply Steady.remaining_bind (steady_statements.statements each)
  intro s fuel enough
  have same (fuel' : Nat) (enough' : s.cursor.rest.length ≤ fuel') :
      Same _ (statements (fuel + 1)) (statements fuel') s :=
    same_rules.statementsLoop (each.isLocal.same (fuel + 1)) (statement_advances _) statements
      (fun _ => rfl) (by omega) (by omega) enough'
  exact (same _ (Nat.le_refl _)).symm.trans (same fuel enough)

end Parse

end ArenaScript
