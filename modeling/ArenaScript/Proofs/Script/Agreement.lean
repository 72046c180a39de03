import ArenaScript.Proofs.Script.Locality

/-! Parsers that agree with a plain one where few tokens are left. Agreement goes from the steps to
the constructs, and in a loop both sides may be bounded in their own way: a statement passes a
token, so a bound above the number of tokens that are left is never reached. -/
namespace ArenaScript

namespace Parse

def Shrinks (α : Type) (p : Parse α) (s : ParseState) : Prop :=
  (p s).2.cursor.rest.length ≤ s.cursor.rest.length

def Advances {α : Type} (item : Parse α) : Prop :=
  ∀ ⦃s a t⦄, item s = (.ok a, t) → t.cursor.rest.length < s.cursor.rest.length

theorem Local.shrinks {α : Type} {p : Parse α} (isLocal : Local p) (s : ParseState) :
    Shrinks α p s :=
  isLocal.length_le rfl

theorem Shrinks.bind {α β : Type} {p : Parse α} {f : α → Parse β} {s : ParseState}
    (first : Shrinks α p s) (second : ∀ a t, Shrinks β (f a) t) : Shrinks β (p >>= f) s := by
  unfold Shrinks at first ⊢
  rcases run : p s with ⟨e | a, t⟩
  · rw [run] at first
    rwa [Attempt.bind_error run]
  · rw [run] at first
    rw [Attempt.bind_ok run]
    exact Nat.le_trans (second a t) first

theorem shrinks_runs : RunRules Shrinks fun _ => True where
  pure _ _ := Nat.le_refl _
  refuse _ _ := Nat.le_refl _
  bind := .bind
  peek_bind next := next
  advance _ _ := advance_steady.isLocal.shrinks _

theorem shrinks_rules : LoopRules (Always Shrinks) (Always Shrinks) (Always Shrinks)
    (Before Shrinks) fun _ => True where
  toStatementRules := ValueRules.forStatements
    { toRules := shrinks_runs.toRules
      inner := fun _ _ => trivial
      number := fun _ s _ => (readNumber_steady _).isLocal.shrinks s
      var := fun _ s _ => (readVariable_steady _).isLocal.shrinks s }
    (fun _ => trivial) (fun _ => (note_steady _).isLocal.shrinks)
    (fun _ => (declare_steady _).isLocal.shrinks)
  expression levels := (expression_local levels).shrinks
  condition levels := (condition_local levels).shrinks
  tooDeep _ := Nat.le_refl _
  remaining_bind next s := next s.cursor.rest.length s

theorem length_le_of_gobble {word : String} {s t : ParseState} {found : Bool}
    (run : gobble word s = (.ok found, t)) :
    t.cursor.rest.length + (if found then 1 else 0) ≤ s.cursor.rest.length := by
  rw [gobble_apply] at run
  split at run
  · rename_i next
    cases run
    simp [rest_of_peek? next]
  · cases run
    simp

theorem length_le_of_shrinks {α : Type} {p : Parse α} {s t : ParseState} {r : Except ParseError α}
    (shrinks : ∀ s, Shrinks α p s) (run : p s = (r, t)) :
    t.cursor.rest.length ≤ s.cursor.rest.length := by
  have shorter : (p s).2.cursor.rest.length ≤ s.cursor.rest.length := shrinks s
  rwa [run] at shorter

section Ended

variable {s : ParseState} (ended : s.cursor.rest = [])

include ended

theorem chainTail_ended {test : Parse Condition} {item : Parse Statement} (fuel : Nat) :
    chainTail test item fuel s = (.ok .done, s) := by
  have absent (word : String) : gobble word s = (.ok false, s) := by
    rw [gobble_apply, if_neg (by simp [Cursor.peek?, ended])]
  cases fuel with
  | zero => rfl
  | succ fuel => exact (Attempt.bind_ok (absent "elif")).trans (Attempt.bind_ok (absent "else"))

theorem statements_ended (fuel : Nat) : statements fuel s = (.ok [], s) := by
  have none : s.cursor.peek? = none := by simp [Cursor.peek?, ended]
  cases fuel with
  | zero => rfl
  | succ fuel =>
    change (if s.cursor.peek?.isNone = true then _ else _ : Parse (List Statement)) s = _
    rw [none]
    rfl

end Ended

variable {m : Type → Type} [Monad m] [MonadLiftT Parse m]

structure AgreeRules (Agree : ∀ α : Type, m α → Parse α → ParseState → Prop) : Prop where
  step {α : Type} (p : Parse α) (s : ParseState) : Agree α (liftM p) p s
  pure {α : Type} (a : α) (s : ParseState) : Agree α (pure a) (pure a) s
  bind {α β : Type} {x : m α} {f : α → m β} {p : Parse α} {g : α → Parse β} {s : ParseState} :
    Agree α x p s → (∀ a t, p s = (.ok a, t) → Agree β (f a) (g a) t) →
      Agree β (x >>= f) (p >>= g) s
  congr {α : Type} {x : m α} {p q : Parse α} {s : ParseState} :
    p s = q s → Agree α x p s → Agree α x q s

/-- The two agree wherever fewer tokens than this are left, and stay there. -/
structure Within (Agree : ∀ α : Type, m α → Parse α → ParseState → Prop) (few : Nat) (α : Type)
    (x : m α) (p : Parse α) : Prop where
  agree : ∀ ⦃s⦄, s.cursor.rest.length < few → Agree α x p s
  shrinks : ∀ s, Shrinks α p s

namespace AgreeRules

variable {Agree : ∀ α : Type, m α → Parse α → ParseState → Prop} (rules : AgreeRules Agree)
  {few : Nat}

include rules

theorem remaining_bind {α : Type} {x : m α} {f : Nat → Parse α} {s : ParseState}
    (next : Agree α x (f s.cursor.rest.length) s) : Agree α x (remaining >>= f) s := by
  have same : f s.cursor.rest.length s = (remaining >>= f) s := rfl
  exact rules.congr same next

theorem within_step {α : Type} {p : Parse α} (isLocal : Local p) :
    Within Agree few α (liftM p) p :=
  ⟨fun s _ => rules.step p s, isLocal.shrinks⟩

theorem within_bind {α β : Type} {x : m α} {f : α → m β} {p : Parse α} {g : α → Parse β}
    (first : Within Agree few α x p) (second : ∀ a, Within Agree few β (f a) (g a)) :
    Within Agree few β (x >>= f) (p >>= g) := by
  refine ⟨?_, fun s => .bind (first.shrinks s) fun a => (second a).shrinks⟩
  intro s small
  apply rules.bind (first.agree small)
  intro a t run
  have shorter := length_le_of_shrinks first.shrinks run
  exact (second a).agree (Nat.lt_of_le_of_lt shorter small)

theorem values (few : Nat) : ValueRules (Within Agree few) (Within Agree few)
    (fun _ => Within Agree few) fun _ => True where
  item each := each
  known each := each
  pure a := ⟨fun s _ => rules.pure a s, fun _ => Nat.le_refl _⟩
  refuse _ := rules.within_step (.refuse _)
  bind := rules.within_bind
  item_bind := rules.within_bind
  at_bind := rules.within_bind
  peek_bind ended each := by
    apply rules.within_bind (rules.within_step peek?_steady.isLocal)
    rintro (_ | word)
    · exact ended
    · exact each word
  advance_bind _ next :=
    rules.within_bind (rules.within_step advance_steady.isLocal) fun _ => next
  gobble_bind {β word yes no yes' no'} _ there absent := by
    apply rules.within_bind (rules.within_step (gobble_steady word).isLocal)
    rintro (_ | _)
    · exact absent
    · exact there
  expect_bind _ syntactic next :=
    rules.within_bind (rules.within_step (expect_steady _ syntactic.1).isLocal) fun _ => next
  inner _ _ := trivial
  number _ := rules.within_step (readNumber_steady _).isLocal
  var _ := rules.within_step (readVariable_steady _).isLocal

theorem statements (few : Nat) : StatementRules (Within Agree few) (Within Agree few)
    (Within Agree few) (fun _ => Within Agree few) fun _ => True :=
  (rules.values few).forStatements (fun _ => trivial)
    (fun _ => rules.within_step (note_steady _).isLocal)
    (fun _ => rules.within_step (declare_steady _).isLocal)

section Loops

variable {item : m Statement} {q : Parse Statement} (items : Within Agree few _ item q)
  (advances : Advances q) {passes : Nat} {s : ParseState}

include items advances

/-- Each round takes a statement. -/
theorem untilClosed {owner : String} (loop : Nat → m (List Statement))
    (unroll : ∀ i, loop (i + 1) = closingOf owner item (loop i)) {fuel : Nat}
    (small : s.cursor.rest.length < few) (enough : s.cursor.rest.length < passes)
    (enough' : s.cursor.rest.length < fuel) :
    Agree _ (loop passes) (untilClosed owner q fuel) s := by
  induction passes generalizing fuel s with
  | zero => contradiction
  | succ passes ih =>
    obtain ⟨fuel, rfl⟩ : ∃ n, fuel = n + 1 := ⟨fuel - 1, by omega⟩
    rw [unroll]
    apply rules.bind (rules.step _ _)
    intro found t gobbled
    have shorter := length_le_of_gobble gobbled
    cases found
    · apply rules.bind (rules.step _ _)
      rintro next t' ⟨⟩
      split
      · exact rules.step _ _
      · apply rules.bind (items.agree (by omega))
        intro first k passed
        have less := advances passed
        apply rules.bind (ih (by omega) (by omega) (by omega))
        intro others k _
        exact rules.pure _ _
    · exact rules.pure _ _

theorem block {owner : String} (loop : Nat → m (List Statement))
    (unroll : ∀ i, loop (i + 1) = closingOf owner item (loop i)) (enough : few ≤ passes) :
    Within Agree few _ (blockOf owner item (loop passes)) (block owner q) := by
  apply (rules.statements few).blockOf owner items
  constructor
  · intro s small
    apply rules.remaining_bind
    exact rules.untilClosed items advances loop unroll small (by omega) (Nat.lt_succ_self _)
  · apply shrinks_rules.remaining_bind
    intro count
    exact shrinks_rules.untilClosed items.shrinks owner _

end Loops

section Chains

variable {test : m Condition} {p : Parse Condition} {blocks : String → m Block}
  {q : Parse Statement} {passes fuel : Nat} {s : ParseState}

/-- Each round takes the word that begins it. -/
theorem chainTail (tests : Within Agree few _ test p)
    (each : ∀ owner, Within Agree few _ (blocks owner) (Parse.block owner q))
    (loop : Nat → m Chain) (unroll : ∀ i, loop (i + 1) = chainOf test blocks (loop i))
    (small : s.cursor.rest.length < few) (enough : s.cursor.rest.length < passes)
    (enough' : s.cursor.rest.length ≤ fuel) :
    Agree _ (loop passes) (chainTail p q fuel) s := by
  have guard := (rules.statements few).guarded "elif" tests
  induction passes generalizing fuel s with
  | zero => contradiction
  | succ passes ih =>
    rw [unroll]
    -- without tokens the plain loop may be at its bound
    obtain ⟨n, room, same⟩ : ∃ n, s.cursor.rest.length ≤ n + 1 ∧
        Parse.chainTail p q (n + 1) s = Parse.chainTail p q fuel s := by
      cases fuel with
      | zero =>
        have ended : s.cursor.rest = [] := List.length_eq_zero_iff.mp (Nat.le_zero.mp enough')
        exact ⟨0, by omega, by rw [chainTail_ended ended, chainTail_ended ended]⟩
      | succ n => exact ⟨n, enough', rfl⟩
    apply rules.congr same
    apply rules.bind (rules.step _ _)
    intro found t gobbled
    have shorter := length_le_of_gobble gobbled
    cases found
    · apply rules.bind (rules.step _ _)
      intro found t' gobbled'
      have shorter' := length_le_of_gobble gobbled'
      cases found
      · exact rules.pure _ _
      · apply rules.bind ((each "else").agree (by omega))
        intro body k _
        exact rules.pure _ _
    · simp only [if_true] at shorter
      apply rules.bind (guard.agree (by omega))
      intro c t₁ run₁
      have less₁ := length_le_of_shrinks guard.shrinks run₁
      apply rules.bind ((each "elif").agree (by omega))
      intro body t₂ run₂
      have less₂ := length_le_of_shrinks (each "elif").shrinks run₂
      apply rules.bind (ih (by omega) (by omega) (by omega))
      intro rest k _
      exact rules.pure _ _

theorem tails (tests : Within Agree few _ test p)
    (each : ∀ owner, Within Agree few _ (blocks owner) (Parse.block owner q))
    (loop : Nat → m Chain) (unroll : ∀ i, loop (i + 1) = chainOf test blocks (loop i))
    (enough : few ≤ passes) :
    Within Agree few _ (loop passes) (remaining >>= Parse.chainTail p q) := by
  constructor
  · intro s small
    apply rules.remaining_bind
    exact rules.chainTail tests each loop unroll small (by omega) (Nat.le_refl _)
  · apply shrinks_rules.remaining_bind
    exact shrinks_rules.chainTail tests.shrinks fun owner => (each owner).shrinks

end Chains

section Programs

variable {item : m Statement} {passes fuel : Nat} {s : ParseState}
  (items : Within Agree few _ item (statement maxNesting))
  (advances : Advances (statement maxNesting)) (loop : Nat → m (List Statement))
  (unroll : ∀ i, loop (i + 1) = statementsOf item (loop i))

include items advances unroll

theorem statementsLoop (small : s.cursor.rest.length < few)
    (enough : s.cursor.rest.length < passes) (enough' : s.cursor.rest.length ≤ fuel) :
    Agree _ (loop passes) (Parse.statements fuel) s := by
  induction passes generalizing fuel s with
  | zero => contradiction
  | succ passes ih =>
    rw [unroll]
    obtain ⟨n, room, same⟩ : ∃ n, s.cursor.rest.length ≤ n + 1 ∧
        Parse.statements (n + 1) s = Parse.statements fuel s := by
      cases fuel with
      | zero =>
        have ended : s.cursor.rest = [] := List.length_eq_zero_iff.mp (Nat.le_zero.mp enough')
        exact ⟨0, by omega, by rw [statements_ended ended, statements_ended ended]⟩
      | succ n => exact ⟨n, enough', rfl⟩
    apply rules.congr same
    apply rules.bind (rules.step _ _)
    rintro next t ⟨⟩
    split
    · exact rules.pure _ _
    · apply rules.bind (items.agree small)
      intro first t passed
      have less := advances passed
      apply rules.bind (ih (by omega) (by omega) (by omega))
      intro others t _
      exact rules.pure _ _

theorem program (enough : few ≤ passes) :
    Within Agree few _ (programOf (loop passes)) program := by
  apply (rules.statements few).programOf
  constructor
  · intro s small
    apply rules.remaining_bind
    exact rules.statementsLoop items advances loop unroll small (by omega) (Nat.le_refl _)
  · apply shrinks_rules.remaining_bind
    exact shrinks_rules.toStatementRules.statements items.shrinks

end Programs

end AgreeRules

end Parse

end ArenaScript
