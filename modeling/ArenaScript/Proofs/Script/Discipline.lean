import ArenaScript.Proofs.Script.Descent

/-! What a call of the descent does to the state. Wherever it starts, it comes back with the counter
as it was and with the cursor further on among the same tokens, and a success has passed a token.
So the loops end, also where the tokens break off. -/
namespace ArenaScript

structure Cursor.Over (tokens : List String) (c : Cursor) : Prop where
  rest : c.rest = tokens.drop c.position
  inside : c.position ≤ tokens.length

namespace Parse

variable {α : Type} {p : Parse α} {s t : ParseState} {tokens : List String}

theorem Passed.stays {r : Except ParseError α} {us : List String} (passed : Passed p s r t us)
    (placed : s.cursor.Over tokens) : t.cursor.Over tokens where
  rest := by
    calc t.cursor.rest
      _ = s.cursor.rest.drop us.length := by rw [passed.ahead, List.drop_left]
      _ = tokens.drop t.cursor.position := by rw [placed.rest, List.drop_drop, passed.position]
  inside := by
    have left := congrArg List.length passed.ahead
    rw [placed.rest, List.length_drop, List.length_append] at left
    have inside := placed.inside
    rw [passed.position]
    omega

theorem Local.position_lt (isLocal : Local p) (advances : Advances p) {a : α}
    (run : p s = (.ok a, t)) : s.cursor.position < t.cursor.position := by
  obtain ⟨us, passed⟩ := isLocal run
  have shorter := advances run
  rw [passed.ahead, List.length_append] at shorter
  rw [passed.position]
  omega

theorem advances_of_serves {small : α → Prop} {R : Store → List String → α → Store → Prop}
    (serves : ∀ s, Serves p s small (R s.store)) (never : ∀ store a after, ¬ R store [] a after) :
    Advances p := by
  intro s a t run
  obtain ⟨ts, ahead, derived, -⟩ := (serves s).yields run
  have taken : 0 < ts.length := by
    apply List.length_pos_iff.mpr
    rintro rfl
    exact never _ _ _ derived
  rw [ahead, List.length_append]
  omega

theorem expression_advances (levels : Nat) : Advances (expression levels) := by
  apply advances_of_serves (expression_serves levels)
  rintro store e after ⟨⟨derived, -⟩, -⟩
  cases derived

theorem condition_advances (levels : Nat) : Advances (condition levels) := by
  apply advances_of_serves (condition_serves levels)
  rintro store c after ⟨⟨derived, -⟩, -⟩
  cases derived

end Parse

namespace Counted

variable {α : Type} {x : Counted α} {p : Parse α} {s : Descent} {tokens : List String}

/-- The parser comes back from `s` with `r` in `t`, as `p` does. It leaves the counter where it was
and has begun no inside above the limit. -/
structure Returns (x : Counted α) (p : Parse α) (s : Descent) (r : Except ParseError α)
    (t : Descent) : Prop where
  back : x s = some (r, t)
  same : p s.parse = (r, t.parse)
  depth : t.depth = s.depth
  begun : ∃ inner, t.begun = inner ++ s.begun ∧ ∀ d ∈ inner, d ≤ maxNesting

/-- On the way the cursor has stayed on the tokens and has not gone back, and with a success it has
gone on. -/
structure Disciplined (tokens : List String) (x : Counted α) (p : Parse α) (s : Descent)
    (r : Except ParseError α) (t : Descent) : Prop extends Returns x p s r t where
  stays : t.parse.cursor.Over tokens
  forward : s.parse.cursor.position ≤ t.parse.cursor.position
  progress : ∀ a, r = .ok a → s.parse.cursor.position < t.parse.cursor.position

theorem Follows.returns (follows : Follows s.depth α x p s.parse) : ∃ r t, Returns x p s r t := by
  obtain ⟨inner, back, low⟩ := follows s.begun
  exact ⟨_, _, back, rfl, rfl, inner, rfl, low⟩

theorem Follows.disciplined (follows : Follows s.depth α x p s.parse) (isLocal : Parse.Local p)
    (advances : Parse.Advances p) (placed : s.parse.cursor.Over tokens) :
    ∃ r t, Disciplined tokens x p s r t := by
  obtain ⟨r, t, returns⟩ := follows.returns
  obtain ⟨us, passed⟩ := isLocal returns.same
  refine ⟨r, t, returns, passed.stays placed, passed.position_le, ?_⟩
  rintro a rfl
  exact isLocal.position_lt advances returns.same

/-- Every call of the descent comes back and keeps to the discipline, and every loop ends. It is
enough to watch for more calls inside each other than there are levels left, and for more passes
than there are tokens left. -/
theorem descent_returns (placed : s.parse.cursor.Over tokens) (room : s.depth ≤ maxNesting)
    {passes calls : Nat} (long : s.parse.cursor.rest.length < passes)
    (deep : maxNesting - s.depth < calls) :
    (∃ r t, Disciplined tokens (statement passes calls)
      (Parse.statement (maxNesting - s.depth)) s r t) ∧
    (∃ r t, Disciplined tokens (condition calls)
      (Parse.condition (maxNesting - s.depth)) s r t) ∧
    (∃ r t, Disciplined tokens (expression calls)
      (Parse.expression (maxNesting - s.depth)) s r t) ∧
    (∀ owner, ∃ r t, Returns (untilClosed owner (statement passes calls) passes)
      (Parse.untilClosed owner (Parse.statement (maxNesting - s.depth))
        (s.parse.cursor.rest.length + 1)) s r t) ∧
    (∃ r t, Returns (chainTail (condition calls) (statement passes calls) passes passes)
      (Parse.chainTail (Parse.condition (maxNesting - s.depth))
        (Parse.statement (maxNesting - s.depth)) s.parse.cursor.rest.length) s r t) ∧
    (s.depth = 0 → ∃ r t, Returns (program passes calls) Parse.program s r t) := by
  have limit : s.depth + (maxNesting - s.depth) = maxNesting := Nat.add_sub_cancel' room
  have rules := follows_rules s.depth
  have values : Parse.Within (Follows s.depth) passes _ (expression calls) _ :=
    expression_follows limit deep
  have tests : Parse.Within (Follows s.depth) passes _ (condition calls) _ :=
    condition_follows limit deep
  have items : Parse.Within (Follows s.depth) passes _ (statement passes calls) _ :=
    statement_follows limit deep
  have looks := Parse.condition_local (maxNesting - s.depth)
  have ready := Parse.statement_ready (maxNesting - s.depth)
  refine ⟨?_, ?_, ?_, ?_, ?_, ?_⟩
  · exact (items.agree long).disciplined ready.isLocal ready.advances placed
  · exact (tests.agree long).disciplined looks (Parse.condition_advances _) placed
  · exact (values.agree long).disciplined (Parse.expression_local _) (Parse.expression_advances _)
      placed
  · intro owner
    apply Follows.returns
    exact rules.untilClosed items ready.advances (untilClosed owner (statement passes calls))
      (fun _ => rfl) long long (Nat.lt_succ_self _)
  · apply Follows.returns
    exact rules.chainTail tests (block_follows items ready.advances)
      (chainTail (condition calls) (statement passes calls) passes) (fun _ => rfl) long long
      (Nat.le_refl _)
  · intro top
    rw [top] at deep
    apply Follows.returns
    rw [top]
    exact (program_follows deep).agree long

/-- A loop whose tokens break off, with room for its first statement and for nothing inside it. -/
def brokenOff : Descent where
  parse := ⟨⟨0, ["loop", "\x7b", "move", ";"]⟩, .empty, []⟩
  depth := 98
  begun := []

theorem descent_returns_brokenOff :
    brokenOff.parse.cursor.Over ["loop", "\x7b", "move", ";"] ∧ brokenOff.depth ≤ maxNesting ∧
      ∃ t, Disciplined ["loop", "\x7b", "move", ";"] (statement 5 3) (Parse.statement 2) brokenOff
        (.error ⟨.blockUnclosed "loop", 4, []⟩) t ∧ t.depth = 98 ∧ t.begun = [100, 99] := by
  have placed : brokenOff.parse.cursor.Over ["loop", "\x7b", "move", ";"] := ⟨rfl, by decide⟩
  have room : brokenOff.depth ≤ maxNesting := by decide
  have long : brokenOff.parse.cursor.rest.length < 5 := by decide
  have deep : maxNesting - brokenOff.depth < 3 := by decide
  obtain ⟨⟨r, t, disciplined⟩, -⟩ := descent_returns placed room long deep
  have back : statement 5 3 brokenOff = some (.error ⟨.blockUnclosed "loop", 4, []⟩, _) := rfl
  cases disciplined.back.symm.trans back
  exact ⟨placed, room, _, disciplined, rfl, rfl⟩

end Counted

end ArenaScript
