import ArenaScript.Proofs.Script.Rules

/-! What a parse depends on: the tokens that it passed and the one after them. On any tokens with
the same beginning it does the same, and where it fails, it fails at the same place and for the same
fault. A parse that fails for its depth has not even looked at the token where it fails. -/
namespace ArenaScript

def ParseState.facing (s : ParseState) (tokens : List String) : ParseState :=
  { s with cursor := ⟨s.cursor.position, tokens⟩ }

def ParseError.quoting (tokens : List String) (e : ParseError) : ParseError :=
  { e with context := tokens.take quotedTokens }

namespace Parse

variable {α β : Type}

def TooDeep (r : Except ParseError α) : Prop := ∃ e, r = .error e ∧ e.fault = .tooDeep

/-- A run from `s` to `t` passed the tokens `us`, an error in it points at the place that was
reached, and what follows `us` matters only by its first token, or not at all. -/
structure Passed (p : Parse α) (s : ParseState) (r : Except ParseError α) (t : ParseState)
    (us : List String) : Prop where
  ahead : s.cursor.rest = us ++ t.cursor.rest
  position : t.cursor.position = s.cursor.position + us.length
  points : ∀ e, r = .error e →
    e.position = t.cursor.position ∧ e.context = t.cursor.rest.take quotedTokens
  same : ∀ other, TooDeep r ∨ other.head? = t.cursor.rest.head? →
    p (s.facing (us ++ other)) = (r.mapError (·.quoting other), t.facing other)

def Local (p : Parse α) : Prop := ∀ ⦃s r t⦄, p s = (r, t) → ∃ us, Passed p s r t us

/-- Local, and not too deep before a token was passed. -/
structure Steady (p : Parse α) : Prop where
  isLocal : Local p
  late : ∀ ⦃s e t⦄, p s = (.error e, t) → e.fault = .tooDeep →
    s.cursor.position < t.cursor.position

section Combinators

variable {p : Parse α} {f : α → Parse β} {word : String} {fault : ParseFault}

theorem Passed.position_le {s t : ParseState} {r : Except ParseError α} {us : List String}
    (passed : Passed p s r t us) : s.cursor.position ≤ t.cursor.position := by
  rw [passed.position]
  exact Nat.le_add_right _ _

theorem Local.length_le (isLocal : Local p) {s t : ParseState} {r : Except ParseError α}
    (run : p s = (r, t)) : t.cursor.rest.length ≤ s.cursor.rest.length := by
  obtain ⟨us, passed⟩ := isLocal run
  rw [passed.ahead, List.length_append]
  exact Nat.le_add_left _ _

theorem Local.refuse (fault : ParseFault) : Local (Parse.refuse fault : Parse α) := by
  intro s r t run
  cases run
  refine ⟨[], rfl, rfl, ?_, fun other _ => rfl⟩
  intro e same
  cases same
  exact ⟨rfl, rfl⟩

theorem Steady.refuse (plain : fault ≠ .tooDeep) : Steady (Parse.refuse fault : Parse α) := by
  refine ⟨.refuse fault, ?_⟩
  intro s e t run deep
  cases run
  exact absurd deep plain

theorem Steady.pure (a : α) : Steady (Pure.pure a : Parse α) := by
  constructor
  · intro s r t run
    cases run
    exact ⟨[], rfl, rfl, nofun, fun other _ => rfl⟩
  · intro s e t run
    cases run

/-- What stands where a steady parser began is settled by what it has passed. -/
theorem Steady.head?_eq (steady : Steady p) {s t : ParseState} {r : Except ParseError α}
    {us other : List String} (run : p s = (r, t)) (passed : Passed p s r t us)
    (alike : TooDeep r ∨ other.head? = t.cursor.rest.head?) :
    (us ++ other).head? = s.cursor.rest.head? := by
  rw [passed.ahead]
  cases us with
  | cons first rest => rfl
  | nil =>
    rcases alike with ⟨e, rfl, deep⟩ | alike
    · have moved := steady.late run deep
      have stayed := passed.position
      simp only [List.length_nil] at stayed
      omega
    · exact alike

/-- The second part must not be too deep at once, since the first one has looked at the token where
the second begins. -/
theorem Local.bind (first : Local p) (second : ∀ a, Steady (f a)) : Local (p >>= f) := by
  intro s r t run
  rcases here : p s with ⟨e | a, m⟩
  · rw [Attempt.bind_error here] at run
    cases run
    obtain ⟨us, passed⟩ := first here
    refine ⟨us, passed.ahead, passed.position, ?_, ?_⟩
    · intro e' same
      cases same
      exact passed.points e rfl
    · intro other alike
      have deep : TooDeep (.error e : Except ParseError α) ∨
          other.head? = t.cursor.rest.head? := by
        rcases alike with ⟨e', same, deep⟩ | alike
        · cases same
          exact .inl ⟨e, rfl, deep⟩
        · exact .inr alike
      exact Attempt.bind_error (passed.same other deep)
  · rw [Attempt.bind_ok here] at run
    obtain ⟨us, passed⟩ := first here
    obtain ⟨vs, passed'⟩ := (second a).isLocal run
    refine ⟨us ++ vs, ?_, ?_, passed'.points, ?_⟩
    · rw [passed.ahead, passed'.ahead, List.append_assoc]
    · rw [passed'.position, passed.position, List.length_append, Nat.add_assoc]
    · intro other alike
      have next := (second a).head?_eq run passed' alike
      have run' := passed.same (vs ++ other) (.inr next)
      rw [List.append_assoc, Attempt.bind_ok run']
      exact passed'.same other alike

theorem Steady.bind (first : Steady p) (second : ∀ a, Steady (f a)) : Steady (p >>= f) := by
  refine ⟨.bind first.isLocal second, ?_⟩
  intro s e t run deep
  rcases Attempt.bind_eq_error.mp run with here | ⟨a, m, here, there⟩
  · exact first.late here deep
  · obtain ⟨us, passed⟩ := first.isLocal here
    exact Nat.lt_of_le_of_lt passed.position_le ((second a).late there deep)

theorem peek?_steady : Steady peek? := by
  constructor
  · intro s r t run
    cases run
    refine ⟨[], rfl, rfl, nofun, ?_⟩
    rintro other (⟨e, same, -⟩ | alike)
    · cases same
    · have seen : (s.facing other).cursor.peek? = s.cursor.peek? := alike
      exact Prod.ext (congrArg Except.ok seen) rfl
  · intro s e t run
    cases run

theorem Steady.peek_bind {f : Option String → Parse β} (next : ∀ word, Steady (f word)) :
    Steady (peek? >>= f) :=
  peek?_steady.bind next

theorem advance_steady : Steady advance := by
  constructor
  · rintro ⟨⟨n, _ | ⟨word, rest⟩⟩, store, ms⟩ r t run
    · cases run
      refine ⟨[], rfl, rfl, nofun, ?_⟩
      rintro other (⟨e, same, -⟩ | alike)
      · cases same
      · obtain rfl : other = [] := List.head?_eq_none_iff.mp alike
        rfl
    · cases run
      exact ⟨[word], rfl, rfl, nofun, fun other _ => rfl⟩
  · intro s e t run
    cases run

theorem Steady.advance_bind {f : Unit → Parse β} (next : Steady (f ())) :
    Steady (advance >>= f) :=
  advance_steady.bind fun _ => next

theorem gobble_steady (word : String) : Steady (gobble word) := by
  apply Steady.peek_bind
  intro next
  split
  · exact .advance_bind (.pure true)
  · exact .pure false

theorem expect_steady (word : String) (plain : fault ≠ .tooDeep) : Steady (expect word fault) := by
  apply (gobble_steady word).bind
  rintro (_ | _)
  · exact .refuse plain
  · exact .pure ()

/-- A change of the state apart from its tokens. -/
theorem modify_steady {g : ParseState → ParseState} (kept : ∀ s, (g s).cursor = s.cursor)
    (apart : ∀ s tokens, g (s.facing tokens) = (g s).facing tokens) :
    Steady (Attempt.modify g : Parse Unit) := by
  constructor
  · intro s r t run
    cases run
    refine ⟨[], by rw [kept]; rfl, by rw [kept]; rfl, nofun, ?_⟩
    intro other alike
    exact Prod.ext rfl (apart s other)
  · intro s e t run
    cases run

theorem note_steady (m : Milestone) : Steady (note m) :=
  modify_steady (fun _ => rfl) fun _ _ => rfl

/-- The word that was passed is known, so the part behind it may be too deep at once. -/
theorem Steady.gobble_bind {f : Bool → Parse β} (yes : Local (f true)) (no : Steady (f false)) :
    Steady (gobble word >>= f) := by
  have taken {s : ParseState} (next : s.cursor.peek? = some word) :
      (gobble word >>= f) s = f true { s with cursor := s.cursor.advance } :=
    Attempt.bind_ok ((gobble_apply word s).trans (if_pos next))
  have left {s : ParseState} (next : ¬ s.cursor.peek? = some word) :
      (gobble word >>= f) s = f false s :=
    Attempt.bind_ok ((gobble_apply word s).trans (if_neg next))
  constructor
  · intro s r t run
    by_cases next : s.cursor.peek? = some word
    · rw [taken next] at run
      obtain ⟨us, passed⟩ := yes run
      have rest := rest_of_peek? next
      have moved := position_advance next
      refine ⟨word :: us, ?_, ?_, passed.points, ?_⟩
      · rw [rest, passed.ahead]
        rfl
      · have position := passed.position
        simp only [moved] at position
        rw [position, List.length_cons]
        omega
      · intro other alike
        have again := passed.same other alike
        simp only [ParseState.facing, moved] at again
        exact (taken rfl).trans again
    · rw [left next] at run
      obtain ⟨us, passed⟩ := no.isLocal run
      refine ⟨us, passed.ahead, passed.position, passed.points, ?_⟩
      intro other alike
      have seen : (s.facing (us ++ other)).cursor.peek? ≠ some word := by
        change (us ++ other).head? ≠ some word
        rw [no.head?_eq run passed alike]
        exact next
      exact (left seen).trans (passed.same other alike)
  · intro s e t run deep
    by_cases next : s.cursor.peek? = some word
    · rw [taken next] at run
      obtain ⟨us, passed⟩ := yes run
      have moved := position_advance next
      have position := passed.position_le
      simp only [moved] at position
      omega
    · rw [left next] at run
      exact no.late run deep

theorem Steady.expect_bind {f : Unit → Parse β} (next : Local (f ())) (plain : fault ≠ .tooDeep) :
    Steady (expect word fault >>= f) := by
  rw [expect_bind_eq]
  exact .gobble_bind next (.refuse plain)

/-- A parser with fuel that no longer matters once it covers the tokens that are left. -/
theorem Steady.of_fuel (q : Nat → Parse α) (each : ∀ fuel, Steady (q fuel))
    (enough : ∀ s fuel, s.cursor.rest.length ≤ fuel → p s = q fuel s) : Steady p := by
  constructor
  · intro s r t run
    have first := enough s _ (Nat.le_refl _)
    obtain ⟨us, passed⟩ := (each _).isLocal (first.symm.trans run)
    refine ⟨us, passed.ahead, passed.position, passed.points, fun other alike => ?_⟩
    -- both runs are made with the fuel that covers the longer of the two token lists
    have here := enough s (max s.cursor.rest.length (us ++ other).length) (Nat.le_max_left _ _)
    have there := enough (s.facing (us ++ other))
      (max s.cursor.rest.length (us ++ other).length) (Nat.le_max_right _ _)
    obtain ⟨vs, passed'⟩ := (each _).isLocal (here.symm.trans run)
    obtain rfl : us = vs := List.append_cancel_right (passed.ahead.symm.trans passed'.ahead)
    exact there.trans (passed'.same other alike)
  · intro s e t run deep
    have first := enough s _ (Nat.le_refl _)
    exact (each _).late (first.symm.trans run) deep

theorem Steady.remaining_bind {q : Nat → Parse β} (each : ∀ fuel, Steady (q fuel))
    (enough : ∀ s fuel, s.cursor.rest.length ≤ fuel → q s.cursor.rest.length s = q fuel s) :
    Steady (remaining >>= q) :=
  .of_fuel q each enough

/-- Whether a name is declared does not depend on the tokens. -/
theorem Steady.declared_bind (name : String) {f : Bool → Parse β}
    (next : ∀ known, Steady (f known)) :
    Steady (Attempt.state >>= fun s : ParseState => f (s.store.isDeclared name)) := by
  constructor
  · intro s r t run
    obtain ⟨us, passed⟩ := (next (s.store.isDeclared name)).isLocal run
    exact ⟨us, passed.ahead, passed.position, passed.points, passed.same⟩
  · intro s e t run deep
    exact (next (s.store.isDeclared name)).late run deep

theorem readNumber_steady (word : String) : Steady (readNumber word) := by
  unfold readNumber
  dsimp only
  split
  · exact .advance_bind (.pure _)
  · exact .refuse (by simp)

theorem readVariable_steady (name : String) : Steady (readVariable name) := by
  apply Steady.declared_bind name (f := fun known =>
    if known then advance >>= fun _ => Pure.pure (Expression.var name) else refuse (.unbound name))
  intro known
  cases known
  · exact .refuse (by simp)
  · exact .advance_bind (.pure _)

theorem declare_steady (name : String) : Steady (declare name) := by
  apply Steady.declared_bind name (f := fun known =>
    if known then Pure.pure () else
      Attempt.modify (fun s : ParseState => { s with store := s.store.declare name }) >>= fun _ =>
        note (.declared name))
  intro known
  cases known
  · have stored : Steady (Attempt.modify fun s : ParseState =>
        { s with store := s.store.declare name }) := modify_steady (fun _ => rfl) fun _ _ => rfl
    exact stored.bind fun _ => note_steady _
  · exact .pure ()

theorem steady_rules : ValueRules (fun α (p _ : Parse α) => Local p)
    (fun α (p _ : Parse α) => Steady p) (fun _ α (p _ : Parse α) => Steady p) fun _ => True where
  item steady := steady.isLocal
  known steady := steady
  pure := .pure
  refuse syntactic := .refuse syntactic.1
  bind := .bind
  item_bind := .bind
  at_bind := .bind
  peek_bind ended each := by
    apply Steady.peek_bind
    rintro (_ | word)
    · exact ended
    · exact each word
  advance_bind _ next := .advance_bind next
  gobble_bind _ yes no := .gobble_bind yes no
  expect_bind _ syntactic next := .expect_bind next syntactic.1
  inner _ _ := trivial
  number _ := readNumber_steady _
  var _ := readVariable_steady _

theorem expression_local (levels : Nat) : Local (expression levels) :=
  steady_rules.expression (fun _ => .refuse .tooDeep) levels

theorem condition_local (levels : Nat) : Local (condition levels) :=
  steady_rules.condition (fun _ => .refuse .tooDeep) levels

end Combinators

end Parse

end ArenaScript
