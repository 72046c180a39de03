import ArenaScript.Proofs.Exec.Unrolling

/-! Branches of an `if`. Their tests are tried in order, none behind the first that holds, and one
block is run. So each branch but the first may as well stand in an `if` of its own, alone in the
`else` part of the one before it. -/
namespace ArenaScript

variable {σ : Type}

/-- Further branches become an `else` part that holds them as one statement. -/
def Chain.asElse : Chain → Chain
  | .branch test body rest => .otherwise [.choose (.branch test body rest)]
  | .otherwise body => .otherwise body
  | .done => .done

mutual

/-- Each `if` keeps its first branch only. The others move into its `else` part. -/
def Statement.unchain : Statement → Statement
  | .loop body => .loop (unchainBody body)
  | .choose chain => .choose chain.unchain
  | .whilst test body => .whilst test (unchainBody body)
  | .assign name value => .assign name value
  | .act action => .act action

def Chain.unchain : Chain → Chain
  | .done => .done
  | .otherwise body => .otherwise (unchainBody body)
  | .branch test body rest => .branch test (unchainBody body) rest.unchain.asElse

def unchainBody : List Statement → List Statement
  | [] => []
  | s :: rest => s.unchain :: unchainBody rest

end

def Program.unchain (p : Program) : Program := ⟨unchainBody p.statements⟩

def Chain.remainder (c : Chain) : Block := c.otherwise?.getD []

mutual

/-- No `if` in the tree has a second branch. -/
def Statement.elifFree : Statement → Bool
  | .loop body => elifFreeBody body
  | .choose chain => chain.elifFree
  | .whilst _ body => elifFreeBody body
  | .assign _ _ => true
  | .act _ => true

def Chain.elifFree : Chain → Bool
  | .done => true
  | .otherwise body => elifFreeBody body
  | .branch _ body rest => elifFreeBody body && rest.branches.isEmpty && rest.elifFree

def elifFreeBody : List Statement → Bool
  | [] => true
  | s :: rest => s.elifFree && elifFreeBody rest

end

theorem Chain.branches_asElse (c : Chain) : c.asElse.branches = [] := by
  cases c with
  | done | otherwise | branch => rfl

theorem Chain.elifFree_asElse (c : Chain) : c.asElse.elifFree = c.elifFree := by
  cases c with
  | done | otherwise => rfl
  | branch test body rest =>
    simp [Chain.asElse, Chain.elifFree, elifFreeBody, Statement.elifFree]

mutual

theorem Statement.elifFree_unchain (s : Statement) : s.unchain.elifFree = true := by
  cases s with
  | loop body => exact elifFreeBody_unchain body
  | choose chain => exact Chain.elifFree_unchain chain
  | whilst test body => exact elifFreeBody_unchain body
  | assign name value => rfl
  | act action => rfl

theorem Chain.elifFree_unchain (c : Chain) : c.unchain.elifFree = true := by
  cases c with
  | done => rfl
  | otherwise body => exact elifFreeBody_unchain body
  | branch test body rest =>
    simp [Chain.unchain, Chain.elifFree, Chain.branches_asElse, Chain.elifFree_asElse,
      elifFreeBody_unchain body, Chain.elifFree_unchain rest]

theorem elifFreeBody_unchain (body : List Statement) :
    elifFreeBody (unchainBody body) = true := by
  cases body with
  | nil => rfl
  | cons s rest =>
    simp [unchainBody, elifFreeBody, Statement.elifFree_unchain s, elifFreeBody_unchain rest]

end

section Runs

variable (host : Host σ) (policy : LoopPolicy) (fuel : Nat)

theorem Chain.exec_asElse (c : Chain) :
    c.asElse.exec host policy fuel = c.exec host policy fuel := by
  cases c with
  | done | otherwise => rfl
  | branch test body rest => exact execBody_singleton host policy fuel _

mutual

theorem Statement.exec_unchain (s : Statement) :
    s.unchain.exec host policy fuel = s.exec host policy fuel := by
  cases s with
  | loop body => rw [Statement.unchain, Statement.exec, Statement.exec, execBody_unchain body]
  | choose chain => exact Chain.exec_unchain chain
  | whilst test body => rw [Statement.unchain, Statement.exec, Statement.exec, execBody_unchain body]
  | assign name value => rfl
  | act action => rfl

theorem Chain.exec_unchain (c : Chain) :
    c.unchain.exec host policy fuel = c.exec host policy fuel := by
  cases c with
  | done => rfl
  | otherwise body => exact execBody_unchain body
  | branch test body rest =>
    rw [Chain.unchain, Chain.exec, Chain.exec, Chain.exec_asElse, execBody_unchain body,
      Chain.exec_unchain rest]

theorem execBody_unchain (body : List Statement) :
    execBody host policy fuel (unchainBody body) = execBody host policy fuel body := by
  cases body with
  | nil => rfl
  | cons s rest =>
    rw [unchainBody, execBody, execBody, Statement.exec_unchain s, execBody_unchain rest]

end

end Runs

section Order

variable {host : Host σ} {policy : LoopPolicy} {fuel : Nat} {m m₁ m₂ : Machine σ}

/-- Tried one behind the other from the first machine on, all tests are false, and the last of them
leaves the second machine. -/
inductive Refuted (host : Host σ) : List Condition → Machine σ → Machine σ → Prop
  | none (m : Machine σ) : Refuted host [] m m
  | more {test : Condition} {others : List Condition} {m m₁ m₂ : Machine σ}
      (fails : test.eval host m = (.ok false, m₁)) (later : Refuted host others m₁ m₂) :
      Refuted host (test :: others) m m₂

/-- What running a chain comes to: all tests before one are false, and that one holds, so that its
block is run, or has a fault. Or all tests are false and what remains is run. The tests behind the
one that decides are not tried. -/
inductive Chain.Picks (host : Host σ) (policy : LoopPolicy) (fuel : Nat) (c : Chain)
    (m : Machine σ) : Except Halt Unit × Machine σ → Prop
  | holds {before later : List (Condition × Block)} {test : Condition} {body : Block}
      {m₁ m₂ : Machine σ} (here : c.branches = before ++ (test, body) :: later)
      (others : Refuted host (before.map Prod.fst) m m₁)
      (decides : test.eval host m₁ = (.ok true, m₂)) :
      c.Picks host policy fuel m (execBody host policy fuel body m₂)
  | faults {before later : List (Condition × Block)} {test : Condition} {body : Block}
      {fault : Fault} {m₁ m₂ : Machine σ} (here : c.branches = before ++ (test, body) :: later)
      (others : Refuted host (before.map Prod.fst) m m₁)
      (decides : test.eval host m₁ = (.error fault, m₂)) :
      c.Picks host policy fuel m (.error (.fault fault), m₂)
  | remains {m₁ : Machine σ} (all : Refuted host (c.branches.map Prod.fst) m m₁) :
      c.Picks host policy fuel m (execBody host policy fuel c.remainder m₁)

theorem Chain.exec_branch (test : Condition) (body : Block) (rest : Chain) (m : Machine σ) :
    (Chain.branch test body rest).exec host policy fuel m = match test.eval host m with
      | (.ok true, m₁) => execBody host policy fuel body m₁
      | (.ok false, m₁) => rest.exec host policy fuel m₁
      | (.error fault, m₁) => (.error (.fault fault), m₁) := by
  rw [Chain.exec, Attempt.bind_apply, Attempt.mapError]
  rcases test.eval host m with ⟨_ | _ | _, m₁⟩ <;> rfl

theorem Chain.Picks.behind {test : Condition} {body : Block} {rest : Chain}
    {r : Except Halt Unit × Machine σ} (fails : test.eval host m = (.ok false, m₁))
    (picks : rest.Picks host policy fuel m₁ r) :
    (Chain.branch test body rest).Picks host policy fuel m r := by
  have further {before later : List (Condition × Block)} (here : rest.branches = before ++ later) :
      (Chain.branch test body rest).branches = ((test, body) :: before) ++ later :=
    congrArg ((test, body) :: ·) here
  -- the false test is one more of those that come before the one that decides
  cases picks with
  | holds here others decides => exact .holds (further here) (.more fails others) decides
  | faults here others decides => exact .faults (further here) (.more fails others) decides
  | remains all => exact .remains (.more fails all)

theorem Chain.picks_exec : (c : Chain) → (m : Machine σ) →
    c.Picks host policy fuel m (c.exec host policy fuel m)
  | .done, m => .remains (.none m)
  | .otherwise _, m => .remains (.none m)
  | .branch test body rest, m => by
    have first : (Chain.branch test body rest).branches = [] ++ (test, body) :: rest.branches := rfl
    rw [Chain.exec_branch]
    rcases run : test.eval host m with ⟨fault | _ | _, m₁⟩
    · exact .faults first (.none m) run
    · exact (picks_exec rest m₁).behind run
    · exact .holds first (.none m) run

/-- Behind tests that are false the run goes on with what is left of the chain. -/
theorem Chain.exec_of_refuted {before later : List (Condition × Block)} {c : Chain}
    (here : c.branches = before ++ later) (others : Refuted host (before.map Prod.fst) m m₁) :
    ∃ rest : Chain, rest.branches = later ∧ rest.remainder = c.remainder ∧
      c.exec host policy fuel m = rest.exec host policy fuel m₁ := by
  induction before generalizing c m with
  | nil =>
    cases others
    exact ⟨c, here, rfl, rfl⟩
  | cons b before ih =>
    cases c with
    | done => cases here
    | otherwise => cases here
    | branch test body rest =>
      obtain ⟨rfl, below⟩ := List.cons.inj here
      cases others with
      | more fails others =>
        obtain ⟨left, same, remains, run⟩ := ih below others
        refine ⟨left, same, remains, ?_⟩
        rw [Chain.exec_branch, fails]
        exact run

theorem Chain.exec_of_refuted_branch {before later : List (Condition × Block)} {c : Chain}
    {test : Condition} {body : Block} (here : c.branches = before ++ (test, body) :: later)
    (others : Refuted host (before.map Prod.fst) m m₁) :
    ∃ rest, c.exec host policy fuel m = (Chain.branch test body rest).exec host policy fuel m₁ := by
  obtain ⟨left, same, -, run⟩ := Chain.exec_of_refuted here others
  cases left with
  | done => cases same
  | otherwise => cases same
  | branch test body rest =>
    cases same
    exact ⟨rest, run⟩

theorem Chain.exec_of_all_refuted {c : Chain}
    (all : Refuted host (c.branches.map Prod.fst) m m₁) :
    c.exec host policy fuel m = execBody host policy fuel c.remainder m₁ := by
  obtain ⟨left, same, remains, run⟩ := Chain.exec_of_refuted (List.append_nil _).symm all
  rw [run, ← remains]
  cases left with
  | done | otherwise => rfl
  | branch => cases same

/-- Nothing else is ever picked. -/
theorem Chain.Picks.eq_exec {c : Chain} {r : Except Halt Unit × Machine σ}
    (picks : c.Picks host policy fuel m r) : c.exec host policy fuel m = r := by
  cases picks with
  | holds here others decides =>
    obtain ⟨rest, run⟩ := Chain.exec_of_refuted_branch here others
    rw [run, Chain.exec_branch, decides]
  | faults here others decides =>
    obtain ⟨rest, run⟩ := Chain.exec_of_refuted_branch here others
    rw [run, Chain.exec_branch, decides]
  | remains all => exact Chain.exec_of_all_refuted all

end Order

namespace Program

theorem exec_unchain (p : Program) (host : Host σ) (policy : LoopPolicy) (fuel : Nat) :
    p.unchain.exec host policy fuel = p.exec host policy fuel :=
  execBody_unchain host policy fuel p.statements

/-- A program runs as the program in which no `if` has a second branch, each further branch having
moved into the `else` part before it. On every host and from every machine the two end alike, with
the same machine and so with the same calls, variables and number of deeds, or both go on for ever.
And an `if` does one thing only: it tries its tests in order up to the first that is not false and
runs the block of this one, or what remains. -/
theorem runs_as_unchained (p : Program) (host : Host σ) (policy : LoopPolicy) (m : Machine σ) :
    elifFreeBody p.unchain.statements = true ∧
    RunAlike (p.exec host policy) (p.unchain.exec host policy) m ∧
    ∀ (c : Chain) (fuel : Nat) (m' : Machine σ) (r : Except Halt Unit × Machine σ),
      (Statement.choose c).exec host policy fuel m' = r ↔ c.Picks host policy fuel m' r := by
  refine ⟨elifFreeBody_unchain p.statements, .of_watched fun fuel => ?_, fun c fuel m' r => ?_⟩
  · rw [exec_unchain]
  · constructor
    · rintro rfl
      exact c.picks_exec m'
    · exact Chain.Picks.eq_exec

end Program

end ArenaScript
