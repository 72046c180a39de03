import ArenaScript.Proofs.Grammar
import ArenaScript.Proofs.Survey

/-! Reading before assigning, seen from the tokens. The condition on tokens speaks of positions in
one list; the survey walks a tree. Between them stands `SettledFrom`, which passes the tokens one
by one and keeps the names that are known and those whose assignment is not finished yet. On any
list it means the same as the condition on positions, and on derived tokens the same as a survey
that finds nothing. -/
namespace ArenaScript

/-- Every variable read in the tokens is known when it comes. The names in `pending` become known
at the next semicolon. -/
def SettledFrom (known pending : String → Prop) : List String → Prop
  | [] => True
  | word :: rest =>
    if word = ";" then SettledFrom (fun x => known x ∨ pending x) (fun _ => False) rest
    else if Word.isVariable word = true then
      if rest.head? = some "=" then SettledFrom known (fun x => pending x ∨ x = word) rest
      else known word ∧ SettledFrom known pending rest
    else SettledFrom known pending rest

theorem splits_cons {α : Type} {Q : List α → α → List α → Prop} (w : α) (l : List α) :
    (∀ before x after, w :: l = before ++ x :: after → Q before x after) ↔
      Q [] w l ∧ ∀ before x after, l = before ++ x :: after → Q (w :: before) x after := by
  constructor
  · intro all
    refine ⟨all [] w l rfl, fun before x after split => ?_⟩
    exact all (w :: before) x after (by rw [split]; rfl)
  · rintro ⟨first, others⟩ before x after split
    cases before with
    | nil =>
      cases split
      exact first
    | cons v before =>
      cases split
      exact others before x after rfl

theorem assignedIn_cons (word name : String) (tokens : List String) :
    AssignedIn (word :: tokens) name ↔
      (word = name ∧ tokens.head? = some "=" ∧ ";" ∈ tokens) ∨ AssignedIn tokens name := by
  constructor
  · rintro ⟨before, value, after, split⟩
    cases before with
    | nil =>
      cases split
      exact .inl ⟨rfl, rfl, by simp⟩
    | cons v before =>
      cases split
      exact .inr ⟨before, value, after, rfl⟩
  · rintro (⟨rfl, equals, semicolon⟩ | ⟨before, value, after, rfl⟩)
    · obtain _ | ⟨first, tail⟩ := tokens
      · simp at equals
      · obtain rfl : first = "=" := by simpa using equals
        have inside : ";" ∈ tail := by simpa using semicolon
        obtain ⟨value, after, rfl⟩ := List.append_of_mem inside
        exact ⟨[], value, after, rfl⟩
    · exact ⟨word :: before, value, after, rfl⟩

theorem not_assignedIn_nil (name : String) : ¬ AssignedIn [] name := by
  rintro ⟨before, value, after, split⟩
  simp at split

/-- A read at this place is covered: the name is known, or pending with a semicolon before the
place, or assigned before it. -/
def Covered (known pending : String → Prop) (before : List String) (name : String) : Prop :=
  known name ∨ (pending name ∧ ";" ∈ before) ∨ AssignedIn before name

section Covered

variable {known pending : String → Prop} {before after rest : List String} {word name : String}

theorem covered_semicolon (form : Word.isVariable name = true) :
    Covered known pending (";" :: before) name ↔
      Covered (fun x => known x ∨ pending x) (fun _ => False) before name := by
  have other : ";" ≠ name := (Word.ne_of_variable form (by decide)).symm
  simp [Covered, assignedIn_cons, other, or_assoc]

theorem covered_target (split : rest = before ++ name :: after)
    (form : Word.isVariable name = true) (equals : rest.head? = some "=")
    (here : Word.isVariable word = true) :
    Covered known pending (word :: before) name ↔
      Covered known (fun x => pending x ∨ x = word) before name := by
  have begins : before.head? = some "=" := by
    cases before with
    | nil =>
      obtain rfl : name = "=" := by simpa [split] using equals
      exact absurd form (by decide)
    | cons first before => simpa [split] using equals
  have noSemicolon : ";" ≠ word := (Word.ne_of_variable here (by decide)).symm
  simp only [Covered, assignedIn_cons, begins, true_and, List.mem_cons, noSemicolon, false_or,
    @eq_comm _ word name]
  grind

theorem covered_read (split : rest = before ++ name :: after) (plain : rest.head? ≠ some "=")
    (here : Word.isVariable word = true) :
    Covered known pending (word :: before) name ↔ Covered known pending before name := by
  have begins : before.head? ≠ some "=" := by
    cases before with
    | nil => simp
    | cons first before => simpa [split] using plain
  have noSemicolon : ";" ≠ word := (Word.ne_of_variable here (by decide)).symm
  simp [Covered, assignedIn_cons, begins, noSemicolon]

theorem covered_other (form : Word.isVariable name = true) (other : Word.isVariable word ≠ true)
    (noSemicolon : word ≠ ";") :
    Covered known pending (word :: before) name ↔ Covered known pending before name := by
  have apart : word ≠ name := by
    rintro rfl
    exact other form
  simp [Covered, assignedIn_cons, apart, Ne.symm noSemicolon]

end Covered

/-- What passing the tokens one by one means for positions in the list. -/
theorem settledFrom_iff (tokens : List String) (known pending : String → Prop) :
    SettledFrom known pending tokens ↔
      ∀ before name after, tokens = before ++ name :: after → Word.isVariable name = true →
        after.head? ≠ some "=" → Covered known pending before name := by
  -- the cases are those of the pass: a semicolon, a target, a name that is read, any other word
  induction tokens generalizing known pending with
  | nil => simp [SettledFrom]
  | cons word rest ih =>
    rw [splits_cons, SettledFrom]
    by_cases semicolon : word = ";"
    · subst semicolon
      rw [if_pos rfl, ih]
      constructor
      · intro all
        refine ⟨fun form => absurd form (by decide), fun before name after split form plain => ?_⟩
        exact (covered_semicolon form).mpr (all before name after split form plain)
      · rintro ⟨-, all⟩ before name after split form plain
        exact (covered_semicolon form).mp (all before name after split form plain)
    · rw [if_neg semicolon]
      by_cases here : Word.isVariable word = true
      · rw [if_pos here]
        by_cases equals : rest.head? = some "="
        · rw [if_pos equals, ih]
          constructor
          · intro all
            refine ⟨fun _ plain => absurd equals plain, ?_⟩
            intro before name after split form plain
            exact (covered_target split form equals here).mpr
              (all before name after split form plain)
          · rintro ⟨-, all⟩ before name after split form plain
            exact (covered_target split form equals here).mp
              (all before name after split form plain)
        · rw [if_neg equals, ih]
          constructor
          · rintro ⟨first, all⟩
            refine ⟨fun _ _ => .inl first, fun before name after split form plain => ?_⟩
            exact (covered_read split equals here).mpr (all before name after split form plain)
          · rintro ⟨first, all⟩
            refine ⟨?_, fun before name after split form plain => ?_⟩
            · simpa [Covered, not_assignedIn_nil] using first here equals
            · exact (covered_read split equals here).mp (all before name after split form plain)
      · rw [if_neg here, ih]
        constructor
        · intro all
          refine ⟨fun form => absurd form here, fun before name after split form plain => ?_⟩
          exact (covered_other form here semicolon).mpr (all before name after split form plain)
        · rintro ⟨-, all⟩ before name after split form plain
          exact (covered_other form here semicolon).mp (all before name after split form plain)

theorem readsAssigned_iff (store : Store) (tokens : List String) :
    ReadsAssigned store tokens ↔
      SettledFrom (fun x => store.isDeclared x = true) (fun _ => False) tokens := by
  rw [settledFrom_iff]
  simp [ReadsAssigned, Covered]

def isIdle (word : String) : Bool := word != ";" && !Word.isVariable word

section Derived

variable {pending : String → Prop} {store : Store} {ts rest : List String}

abbrev Settled (store : Store) (pending : String → Prop) (tokens : List String) : Prop :=
  SettledFrom (fun x => store.isDeclared x = true) pending tokens

theorem settled_idle (word : String) (idle : isIdle word = true) :
    Settled store pending (word :: rest) ↔ Settled store pending rest := by
  have ⟨noSemicolon, noName⟩ : word ≠ ";" ∧ ¬ Word.isVariable word = true := by
    simpa [isIdle] using idle
  rw [Settled, SettledFrom, if_neg noSemicolon, if_neg noName]

theorem settled_opening : Settled store pending ("(" :: rest) ↔ Settled store pending rest :=
  settled_idle _ (by decide)

theorem settled_comma : Settled store pending ("," :: rest) ↔ Settled store pending rest :=
  settled_idle _ (by decide)

theorem settled_closing : Settled store pending (")" :: rest) ↔ Settled store pending rest :=
  settled_idle _ (by decide)

theorem idle_of_number {word : String} (numeral : Word.isNumber word = true) :
    isIdle word = true := by
  have noSemicolon : word ≠ ";" := by
    rintro rfl
    revert numeral
    decide
  have noName : Word.isVariable word = false := by
    rw [Bool.eq_false_iff]
    intro form
    rw [Word.not_number_of_variable form] at numeral
    contradiction
  simpa [isIdle] using ⟨noSemicolon, noName⟩

theorem idle_operator (o : Operator) : isIdle o.keyword = true := by
  cases o <;> decide

theorem idle_gauge (g : Gauge) : isIdle g.keyword = true := by
  rcases g with _ | (_ | _) | _ | _ <;> decide

theorem idle_axis (axis : Axis) : isIdle axis.barrelKeyword = true := by
  cases axis <;> decide

theorem idle_relation (r : Relation) : isIdle r.keyword = true := by
  cases r <;> decide

theorem idle_pace (p : Pace) : isIdle p.keyword = true := by
  cases p <;> decide

theorem idle_order (o : Order) : isIdle o.keyword = true := by
  cases o <;> decide

theorem Expression.settled_iff {e : Expression} (derived : Expression.Derives ts e)
    (plain : rest.head? ≠ some "=") :
    Settled store pending (ts ++ rest) ↔ e.Bound store ∧ Settled store pending rest := by
  induction derived generalizing rest with
  | number numeral stands => simp [settled_idle _ (idle_of_number numeral), Expression.Bound]
  | @var name form =>
    have noSemicolon : name ≠ ";" := Word.ne_of_variable form (by decide)
    rw [List.singleton_append, Settled, SettledFrom, if_neg noSemicolon, if_pos form,
      if_neg plain]
    simp [Expression.Bound, form]
  | gauge g => simp [settled_idle _ (idle_gauge g), Expression.Bound]
  | barrel axis => simp [settled_idle _ (idle_axis axis), Expression.Bound]
  | @barrelAt us index axis inner ih =>
    have inside := @ih (")" :: rest) (by simp)
    simp only [List.cons_append, List.append_assoc, List.nil_append,
      settled_idle _ (idle_axis axis), settled_opening, inside,
      settled_closing, Expression.Bound]
  | @op us vs lhs rhs o left right ihLeft ihRight =>
    have first := @ihLeft ("," :: (vs ++ ")" :: rest)) (by simp)
    have second := @ihRight (")" :: rest) (by simp)
    simp only [List.cons_append, List.append_assoc, List.nil_append,
      settled_idle _ (idle_operator o), settled_opening, first,
      settled_comma, second,
      settled_closing, Expression.Bound, and_assoc]

theorem Condition.settled_iff {c : Condition} (derived : Condition.Derives ts c) :
    Settled store pending (ts ++ rest) ↔ c.Bound store ∧ Settled store pending rest := by
  induction derived generalizing rest with
  | @compare us vs lhs rhs r left right =>
    have first := @Expression.settled_iff pending store _ ("," :: (vs ++ ")" :: rest)) _ left
      (by simp)
    have second := @Expression.settled_iff pending store _ (")" :: rest) _ right (by simp)
    simp only [List.cons_append, List.append_assoc, List.nil_append,
      settled_idle _ (idle_relation r), settled_opening, first,
      settled_comma, second,
      settled_closing, Condition.Bound, and_assoc]
  | and left right ihLeft ihRight | or left right ihLeft ihRight =>
    simp only [List.cons_append, List.append_assoc, List.nil_append,
      settled_idle "and" (by decide),
      settled_idle "or" (by decide),
      settled_opening, ihLeft,
      settled_comma, ihRight,
      settled_closing, Condition.Bound, and_assoc]
  | not operand ih =>
    simp only [List.cons_append, List.append_assoc, List.nil_append,
      settled_idle "not" (by decide),
      settled_opening, ih,
      settled_closing, Condition.Bound]

abbrev SettledBare (store : Store) (tokens : List String) : Prop :=
  Settled store (fun _ => False) tokens

theorem settledBare_semicolon :
    SettledBare store (";" :: rest) ↔ SettledBare store rest := by
  simp [SettledBare, Settled, SettledFrom]

theorem Action.settled_iff {a : Action} (derived : Action.Derives ts a) :
    SettledBare store (ts ++ rest) ↔ a.Bound store ∧ SettledBare store rest := by
  cases derived with
  | once p =>
    simp only [List.cons_append, List.nil_append, SettledBare, settled_idle _ (idle_pace p)]
    simpa [Action.Bound] using settledBare_semicolon
  | @times us count p argument =>
    have inside := @Expression.settled_iff (fun _ => False) store _ (")" :: ";" :: rest) _
      argument (by simp)
    simp only [List.cons_append, List.append_assoc, List.nil_append, SettledBare,
      settled_idle _ (idle_pace p), settled_opening, inside,
      settled_closing, Action.Bound]
    exact and_congr_right fun _ => settledBare_semicolon
  | order o =>
    simp only [List.cons_append, List.nil_append, SettledBare, settled_idle _ (idle_order o)]
    simpa [Action.Bound] using settledBare_semicolon

/-- An assignment makes its name known at its semicolon, so the value is read without it. -/
theorem assign_settled_iff {name : String} {value : Expression}
    (form : Word.isVariable name = true) (source : Expression.Derives ts value) :
    SettledBare store (name :: "=" :: (ts ++ ";" :: rest)) ↔
      value.Bound store ∧ SettledBare (store.declare name) rest := by
  have noSemicolon : name ≠ ";" := Word.ne_of_variable form (by decide)
  have inside := @Expression.settled_iff (fun x => False ∨ x = name) store _ (";" :: rest) _
    source (by simp)
  have known : (fun x => store.isDeclared x = true ∨ (False ∨ x = name)) =
      fun x => (store.declare name).isDeclared x = true := by
    funext x
    simp [or_comm]
  rw [SettledBare, Settled, SettledFrom, if_neg noSemicolon, if_pos form, if_pos (by rfl)]
  rw [← Settled, settled_idle "=" (by decide), inside]
  refine and_congr_right fun _ => ?_
  rw [Settled, SettledFrom, if_pos rfl, known]

mutual

theorem Statement.settled_iff {s : Statement} {ts rest : List String} {store : Store} :
    Statement.Derives ts s →
      (SettledBare store (ts ++ rest) ↔ ∃ after, s.Passes store after ∧ SettledBare after rest)
  | .loop block => by
    simp only [List.cons_append, SettledBare, settled_idle "loop" (by decide),
      block_settled_iff block, Statement.passes_loop, and_assoc]
  | .choose guard block tail => by
    simp only [List.cons_append, List.append_assoc, SettledBare,
      settled_idle "if" (by decide),
      settled_opening, Condition.settled_iff guard,
      settled_closing, block_settled_iff block,
      Chain.settled_iff tail, Statement.passes_choose, Chain.passes_branch]
    grind
  | .whilst guard block => by
    simp only [List.cons_append, List.append_assoc, SettledBare,
      settled_idle "while" (by decide),
      settled_opening, Condition.settled_iff guard,
      settled_closing, block_settled_iff block,
      Statement.passes_whilst]
    grind
  | .assign form source => by
    simp only [List.cons_append, List.append_assoc, List.nil_append, assign_settled_iff form source,
      Statement.passes_assign]
    grind
  | .act deed => by
    simp only [Action.settled_iff deed, Statement.passes_act]
    grind

theorem Chain.settled_iff {c : Chain} {ts rest : List String} {store : Store} :
    Chain.Derives ts c →
      (SettledBare store (ts ++ rest) ↔ ∃ after, c.Passes store after ∧ SettledBare after rest)
  | .done => by simp
  | .otherwise block => by
    simp only [List.cons_append, SettledBare, settled_idle "else" (by decide),
      block_settled_iff block, Chain.passes_otherwise, and_assoc]
  | .branch guard block tail => by
    simp only [List.cons_append, List.append_assoc, SettledBare,
      settled_idle "elif" (by decide),
      settled_opening, Condition.settled_iff guard,
      settled_closing, block_settled_iff block,
      Chain.settled_iff tail, Chain.passes_branch]
    grind

theorem block_settled_iff {body : Block} {ts rest : List String} {store : Store} :
    DerivesBlock ts body →
      (SettledBare store (ts ++ rest) ↔
        ∃ after, body ≠ [] ∧ PassesAll body store after ∧ SettledBare after rest)
  | .braces statements => by
    simp only [List.cons_append, List.append_assoc, List.nil_append, SettledBare,
      settled_idle "\x7b" (by decide), all_settled_iff statements,
      settled_idle "\x7d" (by decide)]
    have full := statements.ne_nil
    grind

theorem all_settled_iff {body : Block} {ts rest : List String} {store : Store} :
    DerivesAll ts body →
      (SettledBare store (ts ++ rest) ↔
        ∃ after, PassesAll body store after ∧ SettledBare after rest)
  | .one first => by
    simp only [Statement.settled_iff first, passesAll_cons, passesAll_nil]
    grind
  | .more first others => by
    simp only [List.append_assoc, Statement.settled_iff first, all_settled_iff others,
      passesAll_cons]
    grind

end

end Derived

/-- On derived tokens the condition on positions says that the walk over the tree finds nothing. -/
theorem Program.readsAssigned_iff_passes {p : Program} {store : Store} {tokens : List String}
    (derived : p.Derives tokens) :
    ReadsAssigned store tokens ↔ ∃ after, PassesAll p.statements store after := by
  have walked := @all_settled_iff p.statements tokens [] store derived
  rw [List.append_nil] at walked
  refine (readsAssigned_iff store tokens).trans (walked.trans ?_)
  simp [SettledFrom]

end ArenaScript
