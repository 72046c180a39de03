import ArenaScript.Proofs.Script.Counted
import ArenaScript.Proofs.Script.Lookahead

/-! The descent comes back. With a counter it does what the parser does that is given its levels,
and it ends on every token list with the counter where it was. A statement passes at least one
token, and that alone ends the loops. -/
namespace ArenaScript

open Parse (Within AgreeRules)

namespace Counted

variable {α β : Type}

/-- Started at `s` with this many levels open, the parser comes back with the outcome that `p` has
there. The counter is what it was, and no inside was begun above the limit. -/
def Follows (depth : Nat) (α : Type) (x : Counted α) (p : Parse α) (s : ParseState) : Prop :=
  ∀ begun, ∃ inner,
    x ⟨s, depth, begun⟩ = some ((p s).1, ⟨(p s).2, depth, inner ++ begun⟩) ∧
    ∀ d ∈ inner, d ≤ maxNesting

theorem bind_apply (x : Counted α) (f : α → Counted β) (s : Descent) :
    (x >>= f) s = match x s with
      | none => none
      | some (.ok a, t) => f a t
      | some (.error e, t) => some (.error e, t) := by
  change (x s).bind (fun outcome => ExceptT.bindCont f outcome.1 outcome.2) = _
  rcases x s with _ | ⟨_ | a, t⟩ <;> rfl

namespace Follows

variable {x : Counted α} {f : α → Counted β} {p : Parse α} {g : α → Parse β} {depth : Nat}
  {s : ParseState}

theorem bind (first : Follows depth α x p s)
    (second : ∀ a t, p s = (.ok a, t) → Follows depth β (f a) (g a) t) :
    Follows depth β (x >>= f) (p >>= g) s := by
  intro begun
  obtain ⟨inner, back, low⟩ := first begun
  rcases run : p s with ⟨e | a, m⟩
  · rw [run] at back
    refine ⟨inner, ?_, low⟩
    rw [bind_apply, back, Attempt.bind_error run]
  · rw [run] at back
    obtain ⟨later, back', low'⟩ := second a m run (inner ++ begun)
    refine ⟨later ++ inner, ?_, ?_⟩
    · rw [bind_apply, back, Attempt.bind_ok run, List.append_assoc]
      exact back'
    · intro d held
      rcases List.mem_append.mp held with held | held
      · exact low' d held
      · exact low d held

theorem tooDeep (inside : Counted α) (s : ParseState) :
    Follows maxNesting α (nested inside) (Parse.refuse .tooDeep) s :=
  fun _ => ⟨[], if_pos (Nat.le_refl _), nofun⟩

theorem nested (room : depth < maxNesting) (body : Follows (depth + 1) α x p s) :
    Follows depth α (nested x) p s := by
  intro begun
  obtain ⟨inner, back, low⟩ := body ((depth + 1) :: begun)
  refine ⟨inner ++ [depth + 1], ?_, ?_⟩
  · have deeper : x (Descent.enter ⟨s, depth, begun⟩) = _ := back
    rw [Counted.nested, if_neg (Nat.not_le.mpr room), deeper, List.append_assoc]
    rfl
  · intro d held
    rcases List.mem_append.mp held with held | held
    · exact low d held
    · rw [List.mem_singleton.mp held]
      exact room

end Follows

theorem follows_rules (depth : Nat) : AgreeRules (Follows depth) where
  step _ _ _ := ⟨[], rfl, nofun⟩
  pure _ _ _ := ⟨[], rfl, nofun⟩
  bind := .bind
  congr {α x p q s} same follows := by
    unfold Follows at follows ⊢
    rwa [same] at follows

/-- The loops are watched for as many passes as there may be tokens. -/
theorem block_follows {depth passes : Nat} {item : Counted Statement} {q : Parse Statement}
    (items : Within (Follows depth) passes _ item q) (advances : Parse.Advances q)
    (owner : String) :
    Within (Follows depth) passes _ (block owner item passes) (Parse.block owner q) :=
  (follows_rules depth).block items advances (untilClosed owner item) (fun _ => rfl)
    (Nat.le_refl passes)

section Levels

variable {depth levels calls few : Nat} (limit : depth + levels = maxNesting)
  (enough : levels < calls)

/-- The counter stands at the limit just when no level is left. -/
theorem within_zero {inside : Counted α} (limit : depth + 0 = maxNesting) :
    Within (Follows depth) few α (nested inside) (Parse.refuse .tooDeep) := by
  obtain rfl : depth = maxNesting := limit
  exact ⟨fun s _ => .tooDeep inside s, fun _ => Nat.le_refl _⟩

theorem within_nested {x : Counted α} {p : Parse α}
    (limit : depth + (levels + 1) = maxNesting)
    (body : Within (Follows (depth + 1)) few α x p) : Within (Follows depth) few α (nested x) p :=
  ⟨fun _ small => .nested (by omega) (body.agree small), body.shrinks⟩

include limit enough

theorem expression_follows :
    Within (Follows depth) few _ (expression calls) (Parse.expression levels) := by
  induction calls generalizing depth levels with
  | zero => contradiction
  | succ calls ih =>
    cases levels with
    | zero => exact within_zero limit
    | succ levels =>
      apply within_nested limit
      exact ((follows_rules _).values few).expressionOf (ih (by omega) (by omega))

theorem condition_follows :
    Within (Follows depth) few _ (condition calls) (Parse.condition levels) := by
  induction calls generalizing depth levels with
  | zero => contradiction
  | succ calls ih =>
    cases levels with
    | zero => exact within_zero limit
    | succ levels =>
      apply within_nested limit
      apply ((follows_rules _).values few).conditionOf
      · exact expression_follows (by omega) (by omega)
      · exact ih (by omega) (by omega)

theorem statement_follows {passes : Nat} :
    Within (Follows depth) passes _ (statement passes calls) (Parse.statement levels) := by
  induction calls generalizing depth levels with
  | zero => contradiction
  | succ calls ih =>
    cases levels with
    | zero => exact within_zero limit
    | succ levels =>
      have rules := follows_rules (depth + 1)
      have items : Within (Follows (depth + 1)) passes _ (statement passes calls)
          (Parse.statement levels) := ih (by omega) (by omega)
      have tests : Within (Follows (depth + 1)) passes _ (condition calls)
          (Parse.condition levels) := condition_follows (by omega) (by omega)
      have blocks := block_follows items (Parse.statement_advances levels)
      apply within_nested limit
      apply (rules.statements passes).statementOf _ tests blocks
      · exact rules.tails tests blocks (chainTail (condition calls) (statement passes calls) passes)
          (fun _ => rfl) (Nat.le_refl passes)
      · exact expression_follows (by omega) (by omega)

end Levels

theorem program_follows {calls passes : Nat} (enough : maxNesting < calls) :
    Within (Follows 0) passes _ (program passes calls) Parse.program :=
  (follows_rules 0).program (statement_follows (Nat.zero_add _) enough)
    (Parse.statement_advances maxNesting) (statements (statement passes calls)) (fun _ => rfl)
    (Nat.le_refl passes)

end Counted

end ArenaScript
