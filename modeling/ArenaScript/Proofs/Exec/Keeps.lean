import ArenaScript.Exec.Ticks

/-! From steps to runs. A machine changes in four ways only: it answers a sensor, performs a deed,
assigns a variable or finishes a tick. What each of these keeps is kept by every run of every
program, however the run ends, and a run fails only as the look-ups and divisions in it can. -/
namespace ArenaScript

namespace Attempt

variable {ε ε' σ α β : Type}

/-- Started where `inv` holds, the computation ends where it holds and fails only as allowed. -/
def Keeps (inv : σ → Prop) (allowed : ε → Prop) (x : Attempt ε σ α) : Prop :=
  ∀ s, inv s → inv (x s).2 ∧ ∀ e, (x s).1 = .error e → allowed e

namespace Keeps

variable {inv : σ → Prop} {allowed : ε → Prop} {x : Attempt ε σ α} {f : α → Attempt ε σ β}

theorem pure (a : α) : Keeps inv allowed (Pure.pure a) :=
  fun _ holds => ⟨holds, nofun⟩

theorem modify {g : σ → σ} (step : ∀ s, inv s → inv (g s)) : Keeps inv allowed (Attempt.modify g) :=
  fun s holds => ⟨step s holds, nofun⟩

theorem ofExcept {r : Except ε α} (only : ∀ e, r = .error e → allowed e) :
    Keeps inv allowed (Attempt.ofExcept r) :=
  fun _ holds => ⟨holds, only⟩

theorem bind (first : Keeps inv allowed x) (second : ∀ a, Keeps inv allowed (f a)) :
    Keeps inv allowed (x >>= f) := by
  intro s holds
  obtain ⟨kept, only⟩ := first s holds
  rw [bind_apply]
  split
  · rename_i a m run
    rw [run] at kept
    exact second a m kept
  · rename_i e m run
    rw [run] at kept only
    refine ⟨kept, fun e' same => ?_⟩
    cases same
    exact only e rfl

theorem mapError {wrap : ε → ε'} {permitted : ε' → Prop} (inner : Keeps inv allowed x)
    (carried : ∀ e, allowed e → permitted (wrap e)) :
    Keeps inv permitted (Attempt.mapError wrap x) := by
  intro s holds
  obtain ⟨kept, only⟩ := inner s holds
  unfold Attempt.mapError
  split
  · rename_i run
    rw [run] at kept
    exact ⟨kept, nofun⟩
  · rename_i e m run
    rw [run] at kept only
    refine ⟨kept, fun e' same => ?_⟩
    cases same
    exact carried e (only e rfl)

end Keeps

end Attempt

open Attempt (Keeps)

def Expression.Within (reads : String → Prop) : Expression → Prop
  | .number _ => True
  | .gauge _ => True
  | .barrel _ => True
  | .var name => reads name
  | .barrelAt _ index => index.Within reads
  | .op _ lhs rhs => lhs.Within reads ∧ rhs.Within reads

def Condition.Within (reads : String → Prop) : Condition → Prop
  | .compare _ lhs rhs => lhs.Within reads ∧ rhs.Within reads
  | .and lhs rhs => lhs.Within reads ∧ rhs.Within reads
  | .or lhs rhs => lhs.Within reads ∧ rhs.Within reads
  | .not inner => inner.Within reads

def Action.Within (reads : String → Prop) : Action → Prop
  | .pace _ (some count) => count.Within reads
  | .pace _ none => True
  | .order _ => True

mutual

/-- Every name that is read has the one property and every name that is assigned the other. -/
def Statement.Within (reads writes : String → Prop) : Statement → Prop
  | .loop body => bodyWithin reads writes body
  | .choose chain => chain.Within reads writes
  | .whilst test body => test.Within reads ∧ bodyWithin reads writes body
  | .assign name value => value.Within reads ∧ writes name
  | .act action => action.Within reads

def Chain.Within (reads writes : String → Prop) : Chain → Prop
  | .done => True
  | .otherwise body => bodyWithin reads writes body
  | .branch test body rest =>
    test.Within reads ∧ bodyWithin reads writes body ∧ rest.Within reads writes

def bodyWithin (reads writes : String → Prop) : List Statement → Prop
  | [] => True
  | s :: rest => s.Within reads writes ∧ bodyWithin reads writes rest

end

variable {σ : Type}

structure ReadsKeep (host : Host σ) (reads : String → Prop) (allowed : Fault → Prop)
    (inv : Machine σ → Prop) : Prop where
  lookUp : ∀ name, reads name → Keeps inv allowed (lookUp name)
  sense : ∀ query m, inv m → inv (ArenaScript.sense host query m).2
  division : ∀ dividend, allowed (.divisionByZero dividend)

structure StepsKeep (host : Host σ) (reads writes : String → Prop) (allowed : Fault → Prop)
    (inv : Machine σ → Prop) : Prop where
  lookUp : ∀ name, reads name → Keeps inv allowed (lookUp name)
  sense : ∀ query m, inv m → inv (ArenaScript.sense host query m).2
  perform : ∀ deed m, inv m → inv (ArenaScript.perform host deed m)
  assign : ∀ name value m, writes name → inv m → inv (ArenaScript.assign name value m)
  tick : ∀ first m, inv m → inv { m with trace := .ticked first m.actions :: m.trace }
  division : ∀ dividend, allowed (.divisionByZero dividend)

theorem StepsKeep.evaluating {host : Host σ} {reads writes : String → Prop} {allowed : Fault → Prop}
    {inv : Machine σ → Prop} (steps : StepsKeep host reads writes allowed inv) :
    ReadsKeep host reads allowed inv :=
  ⟨steps.lookUp, steps.sense, steps.division⟩

/-- Running out of fuel is always allowed. -/
def Halt.Allowed (allowed : Fault → Prop) : Halt → Prop
  | .fault f => allowed f
  | .outOfFuel => True

/-- A fault of an evaluation, as the reason why a run stops. -/
theorem Attempt.Keeps.fault {α : Type} {inv : Machine σ → Prop} {allowed : Fault → Prop}
    {x : Eval σ α} (inner : Keeps inv allowed x) :
    Keeps inv (Halt.Allowed allowed) (Attempt.mapError Halt.fault x) :=
  inner.mapError fun _ fine => fine

theorem Operator.apply_error {o : Operator} {a b : Value} {fault : Fault}
    (failed : o.apply a b = .error fault) : fault = .divisionByZero a := by
  cases o with
  | add | sub | mul => cases failed
  | div =>
    simp only [Operator.apply, Value.divide] at failed
    split at failed
    · exact (Except.error.inj failed).symm
    · cases failed

section Runs

variable {host : Host σ} {reads writes : String → Prop} {allowed : Fault → Prop}
  {inv : Machine σ → Prop}

theorem sense_keeps (steps : ReadsKeep host reads allowed inv) (query : Query) :
    Keeps inv allowed (sense host query) :=
  fun m holds => ⟨steps.sense query m holds, nofun⟩

theorem Expression.eval_keeps (steps : ReadsKeep host reads allowed inv) {e : Expression}
    (within : e.Within reads) : Keeps inv allowed (e.eval host) := by
  induction e with
  | number value => exact .pure value
  | var name => exact steps.lookUp name within
  | gauge g => exact sense_keeps steps (.gauge g)
  | barrel axis => exact sense_keeps steps (.barrel axis 0)
  | barrelAt axis index ih =>
    apply Keeps.bind (ih within)
    intro i
    exact sense_keeps steps (.barrel axis i)
  | op o lhs rhs left right =>
    apply Keeps.bind (left within.1)
    intro a
    apply Keeps.bind (right within.2)
    intro b
    apply Keeps.ofExcept
    intro fault failed
    rw [Operator.apply_error failed]
    exact steps.division a

theorem Condition.eval_keeps (steps : ReadsKeep host reads allowed inv) {c : Condition}
    (within : c.Within reads) : Keeps inv allowed (c.eval host) := by
  induction c with
  | compare r lhs rhs =>
    apply Keeps.bind (Expression.eval_keeps steps within.1)
    intro a
    apply Keeps.bind (Expression.eval_keeps steps within.2)
    intro b
    exact .pure _
  | and lhs rhs left right =>
    apply Keeps.bind (left within.1)
    intro decided
    cases decided
    · exact .pure false
    · exact right within.2
  | or lhs rhs left right =>
    apply Keeps.bind (left within.1)
    intro decided
    cases decided
    · exact right within.2
    · exact .pure true
  | not inner ih =>
    apply Keeps.bind (ih within)
    intro b
    exact .pure _

theorem performTimes_keeps (steps : StepsKeep host reads writes allowed inv) (deed : Deed)
    (times : Nat) {m : Machine σ} (holds : inv m) : inv (performTimes host deed times m) := by
  induction times generalizing m with
  | zero => exact holds
  | succ times ih => exact ih (steps.perform deed m holds)

theorem Action.exec_keeps (steps : StepsKeep host reads writes allowed inv) {a : Action}
    (within : a.Within reads) : Keeps inv allowed (a.exec host) := by
  rcases a with ⟨p, _ | count⟩ | o
  · apply Keeps.bind (.pure 1)
    intro times
    exact .modify fun m holds => performTimes_keeps steps p.deed times holds
  · have counted : Keeps inv allowed (repeatCount host (some count)) :=
      .bind (Expression.eval_keeps steps.evaluating within) fun value => .pure _
    apply Keeps.bind counted
    intro times
    exact .modify fun m holds => performTimes_keeps steps p.deed times holds
  · exact .modify fun m holds => steps.perform o.deed m holds

section Loops

variable {body : Exec σ Unit} {test : Eval σ Bool}

theorem passes_succ (body : Exec σ Unit) (limit : Nat) :
    passes body (limit + 1) = (body >>= fun _ => passes body limit) := by
  funext m
  rw [passes, Attempt.bind_apply]
  rcases body m with ⟨_ | _, _⟩ <;> rfl

theorem forever_succ (body : Exec σ Unit) (fuel : Nat) :
    forever body (fuel + 1) = (body >>= fun _ => forever body fuel) := by
  funext m
  rw [forever, Attempt.bind_apply]
  rcases body m with ⟨_ | _, _⟩ <;> rfl

theorem whilst_succ (test : Eval σ Bool) (body : Exec σ Unit) (fuel : Nat) :
    whilst test body (fuel + 1) = (Attempt.mapError .fault test >>= fun decided =>
      if decided then body >>= fun _ => whilst test body fuel else Pure.pure ()) := by
  funext m
  rw [whilst, Attempt.bind_apply, Attempt.mapError]
  rcases test m with ⟨_ | _ | _, m'⟩
  · rfl
  · rfl
  · simp only [if_true, Attempt.bind_apply]
    rcases body m' with ⟨_ | _, _⟩ <;> rfl

theorem outOfFuel_keeps : Keeps inv (Halt.Allowed allowed) (Attempt.fail .outOfFuel : Exec σ Unit) :=
  fun _ holds => ⟨holds, fun _ same => Except.error.inj same ▸ trivial⟩

theorem passes_keeps (each : Keeps inv (Halt.Allowed allowed) body) (limit : Nat) :
    Keeps inv (Halt.Allowed allowed) (passes body limit) := by
  induction limit with
  | zero => exact .pure ()
  | succ limit ih =>
    rw [passes_succ]
    exact each.bind fun _ => ih

theorem forever_keeps (each : Keeps inv (Halt.Allowed allowed) body) (fuel : Nat) :
    Keeps inv (Halt.Allowed allowed) (forever body fuel) := by
  induction fuel with
  | zero => exact outOfFuel_keeps
  | succ fuel ih =>
    rw [forever_succ]
    exact each.bind fun _ => ih

theorem whilst_keeps (tested : Keeps inv allowed test)
    (each : Keeps inv (Halt.Allowed allowed) body) (fuel : Nat) :
    Keeps inv (Halt.Allowed allowed) (whilst test body fuel) := by
  induction fuel with
  | zero => exact outOfFuel_keeps
  | succ fuel ih =>
    rw [whilst_succ]
    apply Keeps.bind tested.fault
    intro decided
    cases decided
    · exact .pure ()
    · exact each.bind fun _ => ih

theorem LoopPolicy.run_keeps (policy : LoopPolicy) (fuel : Nat)
    (each : Keeps inv (Halt.Allowed allowed) body) :
    Keeps inv (Halt.Allowed allowed) (policy.run fuel body) := by
  rcases policy with _ | _ | limit
  · exact each
  · exact forever_keeps each fuel
  · exact passes_keeps each limit

end Loops

variable {policy : LoopPolicy} {fuel : Nat}

mutual

theorem Statement.exec_keeps (steps : StepsKeep host reads writes allowed inv) (s : Statement)
    (within : s.Within reads writes) :
    Keeps inv (Halt.Allowed allowed) (s.exec host policy fuel) := by
  match s with
  | .loop body =>
    exact LoopPolicy.run_keeps policy fuel (execBody_keeps steps body within)
  | .choose chain => exact Chain.exec_keeps steps chain within
  | .whilst test body =>
    have tested := Condition.eval_keeps steps.evaluating within.1
    exact whilst_keeps tested (execBody_keeps steps body within.2) fuel
  | .assign name value =>
    have computed := Expression.eval_keeps steps.evaluating within.1
    apply Keeps.bind computed.fault
    intro v
    exact .modify fun m holds => steps.assign name v m within.2 holds
  | .act action =>
    have performed := Action.exec_keeps steps within
    exact performed.fault

theorem Chain.exec_keeps (steps : StepsKeep host reads writes allowed inv) (c : Chain)
    (within : c.Within reads writes) :
    Keeps inv (Halt.Allowed allowed) (c.exec host policy fuel) := by
  match c with
  | .done => exact .pure ()
  | .otherwise body => exact execBody_keeps steps body within
  | .branch test body rest =>
    have tested := Condition.eval_keeps steps.evaluating within.1
    apply Keeps.bind tested.fault
    intro decided
    cases decided
    · exact Chain.exec_keeps steps rest within.2.2
    · exact execBody_keeps steps body within.2.1

theorem execBody_keeps (steps : StepsKeep host reads writes allowed inv) (body : List Statement)
    (within : bodyWithin reads writes body) :
    Keeps inv (Halt.Allowed allowed) (execBody host policy fuel body) := by
  match body with
  | [] => exact .pure ()
  | s :: rest =>
    have first := Statement.exec_keeps steps s within.1
    exact first.bind fun _ => execBody_keeps steps rest within.2

end

theorem Program.exec_keeps (steps : StepsKeep host reads writes allowed inv) {p : Program}
    (within : bodyWithin reads writes p.statements) :
    Keeps inv (Halt.Allowed allowed) (p.exec host policy fuel) :=
  execBody_keeps steps p.statements within

theorem ticksFrom_succ (host : Host σ) (policy : LoopPolicy) (fuel : Nat) (p : Program)
    (first n : Nat) :
    ticksFrom host policy fuel p first (n + 1) = (p.exec host policy fuel >>= fun _ =>
      Attempt.modify (fun m => { m with trace := .ticked first m.actions :: m.trace }) >>= fun _ =>
        ticksFrom host policy fuel p (first + 1) n) := by
  funext m
  rw [ticksFrom, Attempt.bind_apply]
  rcases p.exec host policy fuel m with ⟨_ | _, _⟩ <;> rfl

section Ticks

variable {p : Program}

theorem ticksFrom_keeps (each : Keeps inv (Halt.Allowed allowed) (p.exec host policy fuel))
    (tick : ∀ first m, inv m → inv { m with trace := .ticked first m.actions :: m.trace })
    (first n : Nat) : Keeps inv (Halt.Allowed allowed) (ticksFrom host policy fuel p first n) := by
  induction n generalizing first with
  | zero => exact .pure ()
  | succ n ih =>
    rw [ticksFrom_succ]
    apply Keeps.bind each
    intro _
    apply Keeps.bind (.modify (tick first))
    intro _
    exact ih (first + 1)

theorem Program.ticks_keeps (steps : StepsKeep host reads writes allowed inv)
    (within : bodyWithin reads writes p.statements) (n : Nat) :
    Keeps inv (Halt.Allowed allowed) (p.ticks host policy fuel n) := by
  apply Keeps.bind (ticksFrom_keeps (Program.exec_keeps steps within) steps.tick 0 n)
  intro _ m holds
  exact ⟨holds, nofun⟩

end Ticks

end Runs

end ArenaScript
