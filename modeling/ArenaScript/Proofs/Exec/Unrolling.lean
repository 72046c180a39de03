import ArenaScript.Proofs.Exec.Fuel

/-! Loops without loops. Under a policy that repeats a body a fixed number of times, a `loop`
statement does what its body does when it is written out that many times, at whatever depth it
stands. The program that results has no loop left, so under any policy it is the same program. -/
namespace ArenaScript

variable {σ : Type}

mutual

/-- Each loop gives way to `n` copies of its unrolled body. -/
def Statement.unroll (n : Nat) : Statement → List Statement
  | .loop body => (List.replicate n (unrollBody n body)).flatten
  | .choose chain => [.choose (chain.unroll n)]
  | .whilst test body => [.whilst test (unrollBody n body)]
  | .assign name value => [.assign name value]
  | .act action => [.act action]

def Chain.unroll (n : Nat) : Chain → Chain
  | .done => .done
  | .otherwise body => .otherwise (unrollBody n body)
  | .branch test body rest => .branch test (unrollBody n body) (rest.unroll n)

def unrollBody (n : Nat) : List Statement → List Statement
  | [] => []
  | s :: rest => s.unroll n ++ unrollBody n rest

end

def Program.unroll (n : Nat) (p : Program) : Program := ⟨unrollBody n p.statements⟩

mutual

def Statement.loopFree : Statement → Bool
  | .loop _ => false
  | .choose chain => chain.loopFree
  | .whilst _ body => loopFreeBody body
  | .assign _ _ => true
  | .act _ => true

def Chain.loopFree : Chain → Bool
  | .done => true
  | .otherwise body => loopFreeBody body
  | .branch _ body rest => loopFreeBody body && rest.loopFree

def loopFreeBody : List Statement → Bool
  | [] => true
  | s :: rest => s.loopFree && loopFreeBody rest

end

theorem loopFreeBody_append (a b : List Statement) :
    loopFreeBody (a ++ b) = (loopFreeBody a && loopFreeBody b) := by
  induction a with
  | nil => rfl
  | cons s rest ih => simp [loopFreeBody, ih, Bool.and_assoc]

theorem loopFreeBody_copies {body : List Statement} (free : loopFreeBody body = true) (n : Nat) :
    loopFreeBody (List.replicate n body).flatten = true := by
  induction n with
  | zero => rfl
  | succ n ih => simp [List.replicate_succ, loopFreeBody_append, free, ih]

mutual

theorem Statement.loopFree_unroll (n : Nat) (s : Statement) :
    loopFreeBody (s.unroll n) = true := by
  cases s with
  | loop body => exact loopFreeBody_copies (loopFreeBody_unroll n body) n
  | choose chain => simp [Statement.unroll, loopFreeBody, Statement.loopFree,
      Chain.loopFree_unroll n chain]
  | whilst test body => simp [Statement.unroll, loopFreeBody, Statement.loopFree,
      loopFreeBody_unroll n body]
  | assign name value => rfl
  | act action => rfl

theorem Chain.loopFree_unroll (n : Nat) (c : Chain) : (c.unroll n).loopFree = true := by
  cases c with
  | done => rfl
  | otherwise body => exact loopFreeBody_unroll n body
  | branch test body rest =>
    simp [Chain.unroll, Chain.loopFree, loopFreeBody_unroll n body, Chain.loopFree_unroll n rest]

theorem loopFreeBody_unroll (n : Nat) (body : List Statement) :
    loopFreeBody (unrollBody n body) = true := by
  cases body with
  | nil => rfl
  | cons s rest =>
    simp [unrollBody, loopFreeBody_append, Statement.loopFree_unroll n s,
      loopFreeBody_unroll n rest]

end

mutual

theorem Statement.unroll_of_loopFree (n : Nat) {s : Statement} (free : s.loopFree = true) :
    s.unroll n = [s] := by
  cases s with
  | loop body => cases free
  | choose chain => rw [Statement.unroll, Chain.unroll_of_loopFree n free]
  | whilst test body => rw [Statement.unroll, unrollBody_of_loopFree n free]
  | assign name value => rfl
  | act action => rfl

theorem Chain.unroll_of_loopFree (n : Nat) {c : Chain} (free : c.loopFree = true) :
    c.unroll n = c := by
  cases c with
  | done => rfl
  | otherwise body => rw [Chain.unroll, unrollBody_of_loopFree n free]
  | branch test body rest =>
    obtain ⟨inside, others⟩ := Bool.and_eq_true_iff.mp free
    rw [Chain.unroll, unrollBody_of_loopFree n inside, Chain.unroll_of_loopFree n others]

/-- What has no loop is its own unrolling. -/
theorem unrollBody_of_loopFree (n : Nat) {body : List Statement}
    (free : loopFreeBody body = true) : unrollBody n body = body := by
  cases body with
  | nil => rfl
  | cons s rest =>
    obtain ⟨first, others⟩ := Bool.and_eq_true_iff.mp free
    rw [unrollBody, Statement.unroll_of_loopFree n first, unrollBody_of_loopFree n others]
    rfl

end

section Runs

variable (host : Host σ) (policy : LoopPolicy) (fuel : Nat)

theorem execBody_append (a b : List Statement) :
    execBody host policy fuel (a ++ b) =
      (execBody host policy fuel a >>= fun _ => execBody host policy fuel b) := by
  induction a with
  | nil => rfl
  | cons s rest ih =>
    rw [List.cons_append, execBody, execBody, ih, bind_assoc]

theorem execBody_singleton (s : Statement) :
    execBody host policy fuel [s] = s.exec host policy fuel :=
  bind_pure _

theorem passes_one (body : Exec σ Unit) : passes body 1 = body := by
  rw [passes_succ]
  exact bind_pure body

theorem execBody_copies (body : List Statement) (n : Nat) :
    execBody host policy fuel (List.replicate n body).flatten =
      passes (execBody host policy fuel body) n := by
  induction n with
  | zero => rfl
  | succ n ih =>
    rw [List.replicate_succ, List.flatten_cons, execBody_append, ih, passes_succ]

mutual

theorem Statement.exec_unroll (n : Nat) (s : Statement) :
    execBody host policy fuel (s.unroll n) = s.exec host (.repeated (some n)) fuel := by
  cases s with
  | loop body =>
    rw [Statement.unroll, execBody_copies, execBody_unroll n body]
    rfl
  | choose chain =>
    rw [Statement.unroll, execBody_singleton]
    exact Chain.exec_unroll n chain
  | whilst test body =>
    rw [Statement.unroll, execBody_singleton, Statement.exec, execBody_unroll n body]
    rfl
  | assign name value => exact execBody_singleton host policy fuel _
  | act action => exact execBody_singleton host policy fuel _

theorem Chain.exec_unroll (n : Nat) (c : Chain) :
    (c.unroll n).exec host policy fuel = c.exec host (.repeated (some n)) fuel := by
  cases c with
  | done => rfl
  | otherwise body => exact execBody_unroll n body
  | branch test body rest =>
    rw [Chain.unroll, Chain.exec, Chain.exec, execBody_unroll n body, Chain.exec_unroll n rest]

theorem execBody_unroll (n : Nat) (body : List Statement) :
    execBody host policy fuel (unrollBody n body) =
      execBody host (.repeated (some n)) fuel body := by
  cases body with
  | nil => rfl
  | cons s rest =>
    rw [unrollBody, execBody_append, Statement.exec_unroll n s, execBody_unroll n rest, execBody]

end

/-- Without loops every policy is the same. -/
theorem execBody_of_loopFree {body : List Statement} (free : loopFreeBody body = true) (n : Nat) :
    execBody host policy fuel body = execBody host (.repeated (some n)) fuel body := by
  have unrolled := execBody_unroll host policy fuel n body
  rwa [unrollBody_of_loopFree n free] at unrolled

end Runs

section Policies

variable {host : Host σ} {policy policy' : LoopPolicy} {fuel : Nat}

mutual

theorem Statement.exec_congr
    (same : ∀ body : Exec σ Unit, policy.run fuel body = policy'.run fuel body) (s : Statement) :
    s.exec host policy fuel = s.exec host policy' fuel := by
  cases s with
  | loop body => rw [Statement.exec, Statement.exec, execBody_congr same body, same]
  | choose chain => exact Chain.exec_congr same chain
  | whilst test body => rw [Statement.exec, Statement.exec, execBody_congr same body]
  | assign name value => rfl
  | act action => rfl

theorem Chain.exec_congr (same : ∀ body : Exec σ Unit, policy.run fuel body = policy'.run fuel body)
    (c : Chain) : c.exec host policy fuel = c.exec host policy' fuel := by
  cases c with
  | done => rfl
  | otherwise body => exact execBody_congr same body
  | branch test body rest =>
    rw [Chain.exec, Chain.exec, execBody_congr same body, Chain.exec_congr same rest]

/-- Policies that repeat every body alike run every program alike. -/
theorem execBody_congr (same : ∀ body : Exec σ Unit, policy.run fuel body = policy'.run fuel body)
    (body : List Statement) : execBody host policy fuel body = execBody host policy' fuel body := by
  cases body with
  | nil => rfl
  | cons s rest =>
    rw [execBody, execBody, Statement.exec_congr same s, execBody_congr same rest]

end

/-- One pass is a limit of one. -/
theorem LoopPolicy.run_singlePass (body : Exec σ Unit) :
    LoopPolicy.singlePass.run fuel body = LoopPolicy.run (.repeated (some 1)) fuel body :=
  (passes_one body).symm

end Policies

namespace Program

theorem exec_unroll (p : Program) (n : Nat) (host : Host σ) (policy : LoopPolicy) (fuel : Nat) :
    (p.unroll n).exec host policy fuel = p.exec host (.repeated (some n)) fuel :=
  execBody_unroll host policy fuel n p.statements

theorem exec_singlePass (p : Program) (host : Host σ) (fuel : Nat) :
    p.exec host .singlePass fuel = p.exec host (.repeated (some 1)) fuel :=
  execBody_congr LoopPolicy.run_singlePass p.statements

/-- With at most `n` passes for each loop, a program runs as the program whose loops are written out
`n` times, which has none left. On every host and from every machine the two end alike, with the
same machine and so with the same calls, variables and number of deeds, or both go on for ever. A
single pass is a limit of one. -/
theorem runs_as_unrolled (p : Program) (n : Nat) (host : Host σ) (policy : LoopPolicy)
    (m : Machine σ) :
    loopFreeBody (p.unroll n).statements = true ∧
    RunAlike (p.exec host (.repeated (some n))) ((p.unroll n).exec host policy) m ∧
    RunAlike (p.exec host .singlePass) (p.exec host (.repeated (some 1))) m := by
  refine ⟨loopFreeBody_unroll n p.statements, .of_watched fun fuel => ?_,
    .of_watched fun fuel => ?_⟩
  · rw [exec_unroll]
  · rw [exec_singlePass]

end Program

end ArenaScript
