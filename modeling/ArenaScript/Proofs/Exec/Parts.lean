import ArenaScript.Proofs.Exec.Keeps

/-! A run in pieces. Whatever its loops and branches do, a run comes to a sequence of tests,
assignments and actions of its program, each executed where the one before it left the machine. So
what a run adds up to is the sum over these. -/
namespace ArenaScript

open Attempt (Keeps)

inductive Part
  | test (condition : Condition)
  | assign (name : String) (value : Expression)
  | act (action : Action)

mutual

def Statement.parts : Statement → List Part
  | .loop body => bodyParts body
  | .choose chain => chain.parts
  | .whilst test body => .test test :: bodyParts body
  | .assign name value => [.assign name value]
  | .act action => [.act action]

def Chain.parts : Chain → List Part
  | .done => []
  | .otherwise body => bodyParts body
  | .branch test body rest => .test test :: (bodyParts body ++ rest.parts)

def bodyParts : List Statement → List Part
  | [] => []
  | s :: rest => s.parts ++ bodyParts rest

end

def Program.parts (p : Program) : List Part := bodyParts p.statements

variable {σ : Type}

/-- The machine after a part was executed, with whatever outcome. -/
def Part.after (host : Host σ) (m : Machine σ) : Part → Machine σ
  | .test condition => (condition.eval host m).2
  | .assign name value =>
    ((value.eval host >>= fun v => Attempt.modify (ArenaScript.assign name v)) m).2
  | .act action => (action.exec host m).2

/-- Executing these parts in order leads from the first machine to the second. Each part stands with
the machine that it is executed in. -/
inductive Executed (host : Host σ) (parts : List Part) (start : Machine σ) :
    List (Part × Machine σ) → Machine σ → Prop
  | nothing : Executed host parts start [] start
  | next {taken : List (Part × Machine σ)} {m : Machine σ} {part : Part}
      (before : Executed host parts start taken m) (own : part ∈ parts) :
      Executed host parts start (taken ++ [(part, m)]) (part.after host m)

/-- What was executed behind a run is one more part of it. -/
theorem Executed.trans {host : Host σ} {parts : List Part} {start m m' : Machine σ}
    {first second : List (Part × Machine σ)} (before : Executed host parts start first m)
    (behind : Executed host parts m second m') : Executed host parts start (first ++ second) m' := by
  induction behind with
  | nothing =>
    rw [List.append_nil]
    exact before
  | next _ own ih =>
    rw [← List.append_assoc]
    exact ih.next own

def Reached (host : Host σ) (parts : List Part) (start m : Machine σ) : Prop :=
  ∃ taken, Executed host parts start taken m

section Runs

variable {host : Host σ} {policy : LoopPolicy} {fuel : Nat} {parts : List Part}
  {start : Machine σ}

theorem Reached.next {m : Machine σ} {part : Part} (reached : Reached host parts start m)
    (own : part ∈ parts) : Reached host parts start (part.after host m) := by
  obtain ⟨taken, executed⟩ := reached
  exact ⟨_, executed.next own⟩

/-- Whatever leaves the machine that a part leaves may stand for it. -/
theorem part_reaches {α : Type} {x : Eval σ α} {part : Part} (own : part ∈ parts)
    (leaves : ∀ m, (x m).2 = part.after host m) :
    Keeps (Reached host parts start) (fun _ => True) x :=
  fun m reached => ⟨leaves m ▸ reached.next own, fun _ _ => trivial⟩

theorem Statement.exec_assign (name : String) (value : Expression) :
    (Statement.assign name value).exec host policy fuel = Attempt.mapError .fault
      (value.eval host >>= fun v => Attempt.modify (ArenaScript.assign name v)) := by
  funext m
  rw [Statement.exec, Attempt.bind_apply, Attempt.mapError, Attempt.mapError, Attempt.bind_apply]
  rcases value.eval host m with ⟨_ | _, _⟩ <;> rfl

mutual

theorem Statement.exec_reaches (s : Statement) (own : ∀ part ∈ s.parts, part ∈ parts) :
    Keeps (Reached host parts start) (Halt.Allowed fun _ => True) (s.exec host policy fuel) := by
  match s with
  | .loop body => exact policy.run_keeps fuel (execBody_reaches body own)
  | .choose chain => exact Chain.exec_reaches chain own
  | .whilst test body =>
    obtain ⟨guard, inside⟩ := List.forall_mem_cons.mp own
    exact whilst_keeps (part_reaches guard fun _ => rfl) (execBody_reaches body inside) fuel
  | .assign name value =>
    rw [Statement.exec_assign]
    exact Keeps.fault (part_reaches (own _ List.mem_cons_self) fun _ => rfl)
  | .act action => exact Keeps.fault (part_reaches (own _ List.mem_cons_self) fun _ => rfl)

theorem Chain.exec_reaches (c : Chain) (own : ∀ part ∈ c.parts, part ∈ parts) :
    Keeps (Reached host parts start) (Halt.Allowed fun _ => True) (c.exec host policy fuel) := by
  match c with
  | .done => exact .pure ()
  | .otherwise body => exact execBody_reaches body own
  | .branch test body rest =>
    obtain ⟨guard, others⟩ := List.forall_mem_cons.mp own
    obtain ⟨inside, later⟩ := List.forall_mem_append.mp others
    apply Keeps.bind (Keeps.fault (part_reaches guard fun _ => rfl))
    intro decided
    cases decided
    · exact Chain.exec_reaches rest later
    · exact execBody_reaches body inside

theorem execBody_reaches (body : List Statement) (own : ∀ part ∈ bodyParts body, part ∈ parts) :
    Keeps (Reached host parts start) (Halt.Allowed fun _ => True)
      (execBody host policy fuel body) := by
  match body with
  | [] => exact .pure ()
  | s :: rest =>
    obtain ⟨first, others⟩ := List.forall_mem_append.mp own
    exact (Statement.exec_reaches s first).bind fun _ => execBody_reaches rest others

end

/-- However a run ends, it has executed parts of its program and done nothing else. -/
theorem Program.exec_executed (p : Program) (m : Machine σ) :
    ∃ taken, Executed host p.parts m taken (p.exec host policy fuel m).2 :=
  (execBody_reaches p.statements (fun _ own => own) m ⟨[], .nothing⟩).1

end Runs

end ArenaScript
