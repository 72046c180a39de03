import ArenaScript.Compiled.Decoder

/-! What decoding costs. `charge` counts the steps that a tree takes, and decoding the term of a
tree gives the tree back exactly if there are that many steps. Nothing else can go wrong with a term
that was made from a tree. -/
namespace ArenaScript

namespace Compiled

/-- The outcome of decoding something that takes `cost` steps. -/
def within {α : Type} (cost steps : Nat) (a : α) : Except ReadError α :=
  if cost ≤ steps then .ok a else .error .tooDeep

section Within

variable {α β : Type} {a : α} {b : β} {cost steps : Nat}

theorem spend_bind (rest : Nat) {next : Nat → Except ReadError α}
    (goes : cost ≤ steps → next (steps - cost) = within rest (steps - cost) a) :
    (spend cost steps >>= next) = within (cost + rest) steps a := by
  by_cases enough : cost ≤ steps
  · rw [spend, if_pos enough]
    refine (goes enough).trans ?_
    unfold within
    split <;> rename_i left
    · rw [if_pos (by omega)]
    · rw [if_neg (by omega)]
  · rw [spend, if_neg enough, within, if_neg (by omega)]
    rfl

theorem within_bind {rest : Nat} {next : α → Except ReadError β}
    (goes : next a = within rest steps b) :
    (within cost steps a >>= next) = within (max cost rest) steps b := by
  by_cases enough : cost ≤ steps
  · rw [within, if_pos enough]
    refine goes.trans ?_
    unfold within
    split <;> rename_i left
    · rw [if_pos (Nat.max_le.mpr ⟨enough, left⟩)]
    · rw [if_neg (fun both => left (Nat.max_le.mp both).2)]
  · rw [within, if_neg enough, within, if_neg (fun both => enough (Nat.max_le.mp both).1)]
    rfl

theorem within_bind_ok {next : α → Except ReadError β} (goes : next a = .ok b) :
    (within cost steps a >>= next) = within cost steps b := by
  have last : next a = within 0 steps b := goes
  rw [within_bind last, Nat.max_zero]

theorem within_map (f : α → β) : f <$> within cost steps a = within cost steps (f a) := by
  unfold within
  split <;> rfl

end Within

end Compiled

open Compiled

def Expression.charge : Expression → Nat
  | .number _ => 2
  | .var _ => 2
  | .gauge _ => 4
  | .barrel _ => 4
  | .barrelAt _ index => 5 + index.charge
  | .op _ lhs rhs => 3 + max lhs.charge rhs.charge

def Condition.charge : Condition → Nat
  | .compare _ lhs rhs => 3 + max lhs.charge rhs.charge
  | .and lhs rhs => 3 + max lhs.charge rhs.charge
  | .or lhs rhs => 3 + max lhs.charge rhs.charge
  | .not inner => 2 + inner.charge

def Action.charge : Action → Nat
  | .pace _ (some count) => 3 + count.charge
  | .pace _ none => 2
  | .order _ => 2

mutual

def Statement.charge : Statement → Nat
  | .loop body => 2 + (3 + bodyCharge body)
  | .choose chain => 4 + max (1 + chain.branchesCharge) chain.otherwiseCharge
  | .whilst test body => 3 + max test.charge (3 + bodyCharge body)
  | .assign _ value => 3 + value.charge
  | .act action => 2 + action.charge

def Chain.branchesCharge : Chain → Nat
  | .done => 0
  | .otherwise _ => 0
  | .branch test body rest =>
    max (1 + (2 + max test.charge (3 + bodyCharge body))) rest.branchesCharge

def Chain.otherwiseCharge : Chain → Nat
  | .done => 0
  | .otherwise body => 1 + (3 + bodyCharge body)
  | .branch _ _ rest => rest.otherwiseCharge

def bodyCharge : List Statement → Nat
  | [] => 0
  | s :: rest => max (1 + s.charge) (bodyCharge rest)

end

def Program.charge (p : Program) : Nat := 3 + bodyCharge p.statements

theorem Expression.two_le_charge (e : Expression) : 2 ≤ e.charge := by
  cases e <;> simp only [Expression.charge] <;> omega

namespace Compiled

theorem operator_tag (o : Operator) (steps : Nat) :
    operator steps (.word o.tag) = within 2 steps o := by
  refine spend_bind 0 fun _ => ?_
  cases o <;> rfl

theorem value_number (n : Value) : value (.number n.toInt "") = .ok n := by
  have low : Int32.minValue.toInt ≤ n.toInt := Int32.le_toInt n
  have high : n.toInt ≤ Int32.maxValue.toInt := Int32.toInt_le n
  rw [value, if_pos ⟨.inl rfl, low, high⟩, Int32.ofInt_toInt]

theorem optionOf_some {α : Type} {content : Decode α} {t : Term} {a : α} {cost steps : Nat}
    (inner : 1 ≤ steps → content (steps - 1) t = within cost (steps - 1) a) :
    optionOf {} content steps (optional (some t)) = within (1 + cost) steps (some a) := by
  refine spend_bind cost fun enough => ?_
  rw [inner enough]
  exact within_map some

theorem sensor_barrelAt (axis : Axis) {read : Decode Expression} {index : Expression}
    {cost steps : Nat} (inner : 3 ≤ steps →
      read (steps - 2 - 1) index.toTerm = within cost (steps - 2 - 1) index) :
    sensor {} read steps (named axis.barrelTag [optional (some index.toTerm)]) =
      within (2 + (1 + cost)) steps (.barrelAt axis index) := by
  refine spend_bind (1 + cost) fun _ => ?_
  have found : withTag [Axis.leftRight, .frontBack] Axis.barrelTag axis.barrelTag = .ok axis := by
    cases axis <;> rfl
  change (withTag [Axis.leftRight, .frontBack] Axis.barrelTag axis.barrelTag >>= fun axis =>
    optionOf {} read (steps - 2) (optional (some index.toTerm)) >>= _) = _
  rw [found, optionOf_some fun _ => inner (by omega)]
  exact within_bind_ok rfl

theorem expression_decodes : ∀ (e : Expression) {fuel steps : Nat}, steps < fuel →
    expression {} fuel steps e.toTerm = within e.charge steps e
  | _, 0, _, enough => absurd enough (Nat.not_lt_zero _)
  | .number n, fuel + 1, steps, enough => by
    refine spend_bind 0 fun _ => ?_
    change Expression.number <$> value (.number n.toInt "") = _
    rw [value_number]
    rfl
  | .var name, fuel + 1, steps, enough => spend_bind 0 fun _ => rfl
  | .gauge g, fuel + 1, steps, enough => by
    refine spend_bind 2 fun _ => ?_
    change sensor {} (expression {} fuel) (steps - 2) (.word g.tag) = _
    refine spend_bind 0 fun _ => ?_
    rcases g with _ | (_ | _) | _ | _ <;> rfl
  | .barrel axis, fuel + 1, steps, enough => by
    refine spend_bind 2 fun _ => ?_
    change sensor {} (expression {} fuel) (steps - 2) (named axis.barrelTag [optional none]) = _
    refine spend_bind 0 fun _ => ?_
    cases axis <;> rfl
  | .barrelAt axis index, fuel + 1, steps, enough => by
    have charged : (Expression.barrelAt axis index).charge = 2 + (2 + (1 + index.charge)) := by
      simp only [Expression.charge]
      omega
    rw [charged]
    refine spend_bind _ fun _ => ?_
    exact sensor_barrelAt axis fun _ => expression_decodes index (by omega)
  | .op o lhs rhs, fuel + 1, steps, enough => by
    -- the operator itself takes two steps, no more than any operand
    have charged : (Expression.op o lhs rhs).charge =
        2 + (1 + max 2 (max lhs.charge rhs.charge)) := by
      have := lhs.two_le_charge
      simp only [Expression.charge]
      omega
    rw [charged]
    refine spend_bind _ fun _ => spend_bind _ fun _ => ?_
    change (operator (steps - 2 - 1) (.word o.tag) >>= fun o =>
      expression {} fuel (steps - 2 - 1) lhs.toTerm >>= fun lhs =>
        expression {} fuel (steps - 2 - 1) rhs.toTerm >>= fun rhs =>
          pure (Expression.op o lhs rhs)) = _
    rw [operator_tag, expression_decodes lhs (by omega), expression_decodes rhs (by omega)]
    exact within_bind (within_bind (within_bind_ok rfl))

/-- Two operands of a variant. -/
theorem pair_within {α β : Type} {read : Decode α} {make : α → α → β} {t u : Term} {a b : α}
    {first second steps : Nat}
    (left : 3 ≤ steps → read (steps - 2 - 1) t = within first (steps - 2 - 1) a)
    (right : 3 ≤ steps → read (steps - 2 - 1) u = within second (steps - 2 - 1) b) :
    (spend 2 steps >>= fun steps => spend 1 steps >>= fun steps =>
      read steps t >>= fun a => read steps u >>= fun b => pure (make a b)) =
      within (3 + max first second) steps (make a b) := by
  have charged : 3 + max first second = 2 + (1 + max first second) := by omega
  rw [charged]
  refine spend_bind _ fun _ => spend_bind _ fun _ => ?_
  rw [left (by omega), right (by omega)]
  exact within_bind (within_bind_ok rfl)

theorem condition_decodes {expr : Decode Expression} {limit : Nat}
    (reads : ∀ e {steps : Nat}, steps < limit → expr steps e.toTerm = within e.charge steps e) :
    ∀ (c : Condition) {fuel steps : Nat}, steps < fuel → steps < limit →
      condition expr fuel steps c.toTerm = within c.charge steps c
  | _, 0, _, enough, _ => absurd enough (Nat.not_lt_zero _)
  | .compare r lhs rhs, fuel + 1, steps, enough, below => by
    have pair := @pair_within _ _ expr (Condition.compare r) _ _ _ _ _ _ steps
      (fun _ => reads lhs (by omega)) (fun _ => reads rhs (by omega))
    refine Eq.trans ?_ pair
    cases r <;> rfl
  | .and lhs rhs, fuel + 1, steps, enough, below =>
    pair_within (fun _ => condition_decodes reads lhs (by omega) (by omega))
      (fun _ => condition_decodes reads rhs (by omega) (by omega))
  | .or lhs rhs, fuel + 1, steps, enough, below =>
    pair_within (fun _ => condition_decodes reads lhs (by omega) (by omega))
      (fun _ => condition_decodes reads rhs (by omega) (by omega))
  | .not inner, fuel + 1, steps, enough, below => by
    refine spend_bind _ fun _ => ?_
    change Condition.not <$> condition expr fuel (steps - 2) inner.toTerm = _
    rw [condition_decodes reads inner (by omega) (by omega), within_map]

/-- What the readers of expressions, conditions and inner statements have to do. -/
structure Decodes (expr : Decode Expression) (test : Decode Condition) (item : Decode Statement)
    (bound : Nat) : Prop where
  expr : ∀ e {steps : Nat}, steps < bound → expr steps e.toTerm = within e.charge steps e
  test : ∀ c {steps : Nat}, steps < bound → test steps c.toTerm = within c.charge steps c
  item : ∀ s {steps : Nat}, steps < bound → item steps s.toTerm = within s.charge steps s

section Statements

variable {expr : Decode Expression} {test : Decode Condition} {item : Decode Statement}
  {bound steps : Nat}

theorem action_decodes (reads : Decodes expr test item bound) (a : Action) (below : steps ≤ bound) :
    action {} expr steps a.toTerm = within a.charge steps a := by
  rcases a with ⟨p, _ | count⟩ | o
  · refine spend_bind 0 fun _ => ?_
    cases p <;> rfl
  · have found : withTag [Pace.move, .wait] Pace.tag p.tag = .ok p := by
      cases p <;> rfl
    have charged : (Action.pace p (some count)).charge = 2 + (1 + count.charge) := by
      simp only [Action.charge]
      omega
    rw [charged]
    refine spend_bind _ fun _ => ?_
    change (withTag [Pace.move, .wait] Pace.tag p.tag >>= fun p =>
      optionOf {} expr (steps - 2) (optional (some count.toTerm)) >>= fun count =>
        pure (Action.pace p count)) = _
    rw [found, optionOf_some fun _ => reads.expr count (by omega)]
    exact within_bind_ok rfl
  · refine spend_bind 0 fun _ => ?_
    cases o <;> rfl

theorem mapM_cons_within {α : Type} {read : Term → Except ReadError α} {t : Term} {ts : List Term}
    {a : α} {as : List α} {first others : Nat} (here : read t = within first steps a)
    (there : ts.mapM read = within others steps as) :
    (t :: ts).mapM read = within (max first others) steps (a :: as) := by
  rw [List.mapM_cons, here, there]
  exact within_bind (within_bind_ok rfl)

theorem bodyTerms_decodes (reads : Decodes expr test item bound) (statements : List Statement)
    (below : steps ≤ bound) :
    (bodyTerms statements).mapM (fun t => do item (← spend 1 steps) t) =
      within (bodyCharge statements) steps statements := by
  induction statements with
  | nil => rfl
  | cons s rest ih =>
    refine mapM_cons_within (spend_bind _ fun _ => ?_) ih
    exact reads.item s (by omega)

theorem block_decodes (reads : Decodes expr test item bound) (statements : List Statement)
    (below : steps ≤ bound) :
    block {} item steps (blockTerm (bodyTerms statements)) =
      within (3 + bodyCharge statements) steps statements := by
  have charged : 3 + bodyCharge statements = 2 + (1 + bodyCharge statements) := by omega
  rw [charged]
  refine spend_bind _ fun _ => spend_bind _ fun _ => ?_
  exact bodyTerms_decodes reads statements (by omega)

theorem branch_decodes (reads : Decodes expr test item bound) (guard : Condition)
    (statements : List Statement) (below : steps ≤ bound) :
    branch {} test item steps
        (.record none [("condition", guard.toTerm), ("body", blockTerm (bodyTerms statements))]) =
      within (2 + max guard.charge (3 + bodyCharge statements)) steps (guard, statements) := by
  refine spend_bind _ fun _ => ?_
  change (test (steps - 2) guard.toTerm >>= fun c =>
    block {} item (steps - 2) (blockTerm (bodyTerms statements)) >>= fun b => pure (c, b)) = _
  rw [reads.test guard (by omega), block_decodes reads statements (by omega)]
  exact within_bind (within_bind_ok rfl)

theorem chainOf_branches : ∀ c : Chain, chainOf c.branches c.otherwise? = c
  | .done => rfl
  | .otherwise _ => rfl
  | .branch test body rest => congrArg (Chain.branch test body) (chainOf_branches rest)

theorem branchTerms_decodes (reads : Decodes expr test item bound) (below : steps ≤ bound) :
    ∀ c : Chain, c.branchTerms.mapM (fun t => do branch {} test item (← spend 1 steps) t) =
      within c.branchesCharge steps c.branches
  | .done => rfl
  | .otherwise _ => rfl
  | .branch guard statements rest => by
    refine mapM_cons_within (spend_bind _ fun _ => ?_) (branchTerms_decodes reads below rest)
    exact branch_decodes reads guard statements (by omega)

theorem otherwise_decodes (reads : Decodes expr test item bound) (below : steps ≤ bound) :
    ∀ c : Chain, optionOf {} (block {} item) steps c.otherwiseTerm =
      within c.otherwiseCharge steps c.otherwise?
  | .done => rfl
  | .otherwise statements => optionOf_some fun _ => block_decodes reads statements (by omega)
  | .branch _ _ rest => otherwise_decodes reads below rest

theorem chain_decodes (reads : Decodes expr test item bound) (c : Chain) (below : steps ≤ bound) :
    chain {} test item steps [("branches", .list c.branchTerms), ("otherwise", c.otherwiseTerm)] =
      within (2 + max (1 + c.branchesCharge) c.otherwiseCharge) steps c := by
  refine spend_bind _ fun _ => ?_
  change (listOf (branch {} test item) (steps - 2) (.list c.branchTerms) >>= fun branches =>
    optionOf {} (block {} item) (steps - 2) c.otherwiseTerm >>= fun last =>
      pure (chainOf branches last)) = _
  have list : listOf (branch {} test item) (steps - 2) (.list c.branchTerms) =
      within (1 + c.branchesCharge) (steps - 2) c.branches :=
    spend_bind _ fun _ => branchTerms_decodes reads (by omega) c
  rw [list, otherwise_decodes reads (by omega) c]
  refine within_bind (within_bind_ok ?_)
  rw [chainOf_branches]
  rfl

theorem statement_step (reads : Decodes expr test (statement {} expr test bound) bound)
    (s : Statement) (below : steps ≤ bound) :
    statement {} expr test (bound + 1) steps s.toTerm = within s.charge steps s := by
  cases s with
  | loop statements =>
    refine spend_bind _ fun _ => ?_
    change Statement.loop <$> block {} _ (steps - 2) (blockTerm (bodyTerms statements)) = _
    rw [block_decodes reads statements (by omega), within_map]
  | choose c =>
    have charged : (Statement.choose c).charge =
        2 + (2 + max (1 + c.branchesCharge) c.otherwiseCharge) := by
      simp only [Statement.charge]
      omega
    rw [charged]
    refine spend_bind _ fun _ => ?_
    change Statement.choose <$> chain {} test _ (steps - 2)
      [("branches", .list c.branchTerms), ("otherwise", c.otherwiseTerm)] = _
    rw [chain_decodes reads c (by omega), within_map]
  | whilst guard statements =>
    have charged : (Statement.whilst guard statements).charge =
        2 + (1 + max guard.charge (3 + bodyCharge statements)) := by
      simp only [Statement.charge]
      omega
    rw [charged]
    refine spend_bind _ fun _ => spend_bind _ fun _ => ?_
    change (test (steps - 2 - 1) guard.toTerm >>= fun c =>
      block {} _ (steps - 2 - 1) (blockTerm (bodyTerms statements)) >>= fun b =>
        pure (Statement.whilst c b)) = _
    rw [reads.test guard (by omega), block_decodes reads statements (by omega)]
    exact within_bind (within_bind_ok rfl)
  | assign name e =>
    have charged : (Statement.assign name e).charge = 2 + (1 + e.charge) := by
      simp only [Statement.charge]
      omega
    rw [charged]
    refine spend_bind _ fun _ => spend_bind _ fun _ => ?_
    change (expr (steps - 2 - 1) e.toTerm >>= fun e => pure (Statement.assign name e)) = _
    rw [reads.expr e (by omega)]
    exact within_bind_ok rfl
  | act a =>
    refine spend_bind _ fun _ => ?_
    change Statement.act <$> action {} expr (steps - 2) a.toTerm = _
    rw [action_decodes reads a (by omega), within_map]

end Statements

/-- The readers do what they have to as long as the fuel does not run out before the steps. -/
theorem decodes {limit fuel : Nat} (small : fuel ≤ limit) :
    Decodes (expression {} limit) (condition (expression {} limit) limit)
      (statement {} (expression {} limit) (condition (expression {} limit) limit) fuel) fuel := by
  have expr : ∀ e {steps : Nat}, steps < limit →
      expression {} limit steps e.toTerm = within e.charge steps e :=
    fun e _ below => expression_decodes e below
  have test : ∀ c {steps : Nat}, steps < limit →
      condition (expression {} limit) limit steps c.toTerm = within c.charge steps c :=
    fun c _ below => condition_decodes expr c below below
  induction fuel with
  | zero => exact ⟨fun _ _ none => by omega, fun _ _ none => by omega, fun _ _ none => by omega⟩
  | succ fuel ih =>
    exact ⟨fun e _ below => expr e (by omega), fun c _ below => test c (by omega),
      fun s _ below => statement_step (ih (by omega)) s (by omega)⟩

end Compiled

open Compiled in
/-- Decoding the term of a program gives the program if the steps suffice, and is too deep
otherwise. -/
theorem Program.ofTerm_toTerm (p : Program) (limit : Nat) :
    Program.ofTerm {} limit p.toTerm = within p.charge limit p := by
  have reads := decodes (Nat.le_refl (limit + 1))
  change (block {} _ limit (blockTerm (bodyTerms p.statements)) >>= fun body =>
    pure (Program.mk body)) = _
  rw [block_decodes reads p.statements (Nat.le_succ limit)]
  exact within_bind_ok rfl

end ArenaScript
