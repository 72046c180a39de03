import ArenaScript.Proofs.Exec.Keeps

/-! Two runs side by side. A relation between machines that every single step keeps, when both
machines take it, is kept by two runs of one program, and the two runs give the same result. -/
namespace ArenaScript

namespace Attempt

variable {ε ε' σ α β : Type}

/-- Started in related states, the two give the same result and end in related states. -/
def Matches (R : σ → σ → Prop) (x y : Attempt ε σ α) : Prop :=
  ∀ s t, R s t → (x s).1 = (y t).1 ∧ R (x s).2 (y t).2

namespace Matches

variable {R : σ → σ → Prop} {x y : Attempt ε σ α} {f g : α → Attempt ε σ β}

theorem pure (a : α) : Matches R (Pure.pure a : Attempt ε σ α) (Pure.pure a) :=
  fun _ _ related => ⟨rfl, related⟩

theorem fail (e : ε) : Matches R (Attempt.fail e : Attempt ε σ α) (Attempt.fail e) :=
  fun _ _ related => ⟨rfl, related⟩

theorem ofExcept (r : Except ε α) : Matches R (Attempt.ofExcept r) (Attempt.ofExcept r) :=
  fun _ _ related => ⟨rfl, related⟩

theorem modify {g h : σ → σ} (step : ∀ s t, R s t → R (g s) (h t)) :
    Matches R (Attempt.modify g : Attempt ε σ Unit) (Attempt.modify h) :=
  fun s t related => ⟨rfl, step s t related⟩

/-- The two runs of such a pair. -/
theorem both (alike : Matches R x y) {s t : σ} (related : R s t) :
    ∃ r s' t', x s = (r, s') ∧ y t = (r, t') ∧ R s' t' := by
  obtain ⟨same, after⟩ := alike s t related
  exact ⟨(x s).1, (x s).2, (y t).2, rfl, Prod.ext same.symm rfl, after⟩

theorem bind (first : Matches R x y) (second : ∀ a, Matches R (f a) (g a)) :
    Matches R (x >>= f) (y >>= g) := by
  intro s t related
  obtain ⟨r, s', t', here, there, after⟩ := first.both related
  cases r with
  | error e =>
    rw [bind_error here, bind_error there]
    exact ⟨rfl, after⟩
  | ok a =>
    rw [bind_ok here, bind_ok there]
    exact second a s' t' after

theorem mapError {wrap : ε → ε'} (inner : Matches R x y) :
    Matches R (Attempt.mapError wrap x) (Attempt.mapError wrap y) := by
  intro s t related
  obtain ⟨r, s', t', here, there, after⟩ := inner.both related
  unfold Attempt.mapError
  rw [here, there]
  cases r with
  | error e => exact ⟨rfl, after⟩
  | ok a => exact ⟨rfl, after⟩

end Matches

end Attempt

open Attempt (Matches)

variable {σ : Type}

structure StepsMatch (host : Host σ) (reads writes : String → Prop)
    (R : Machine σ → Machine σ → Prop) : Prop where
  lookUp : ∀ name m m', reads name → R m m' → m.store.get? name = m'.store.get? name
  sense : ∀ query, Matches R (sense host query) (sense host query)
  perform : ∀ deed m m', R m m' → R (perform host deed m) (perform host deed m')
  assign : ∀ name value m m', writes name → R m m' →
    R (assign name value m) (assign name value m')

section Runs

variable {host : Host σ} {reads writes : String → Prop} {R : Machine σ → Machine σ → Prop}

theorem lookUp_matches (steps : StepsMatch host reads writes R) {name : String}
    (read : reads name) : Matches R (lookUp name : Eval σ Value) (lookUp name) := by
  intro m m' related
  have same := steps.lookUp name m m' read related
  unfold lookUp
  rw [same]
  cases m'.store.get? name with
  | none => exact ⟨rfl, related⟩
  | some value => exact ⟨rfl, related⟩

theorem Expression.eval_matches (steps : StepsMatch host reads writes R) {e : Expression}
    (within : e.Within reads) : Matches R (e.eval host) (e.eval host) := by
  induction e with
  | number value => exact .pure value
  | var name => exact lookUp_matches steps within
  | gauge g => exact steps.sense (.gauge g)
  | barrel axis => exact steps.sense (.barrel axis 0)
  | barrelAt axis index ih =>
    apply Matches.bind (ih within)
    intro i
    exact steps.sense (.barrel axis i)
  | op o lhs rhs left right =>
    apply Matches.bind (left within.1)
    intro a
    apply Matches.bind (right within.2)
    intro b
    exact .ofExcept _

theorem Condition.eval_matches (steps : StepsMatch host reads writes R) {c : Condition}
    (within : c.Within reads) : Matches R (c.eval host) (c.eval host) := by
  induction c with
  | compare r lhs rhs =>
    apply Matches.bind (Expression.eval_matches steps within.1)
    intro a
    apply Matches.bind (Expression.eval_matches steps within.2)
    intro b
    exact .pure _
  | and lhs rhs left right =>
    apply Matches.bind (left within.1)
    intro decided
    cases decided
    · exact .pure false
    · exact right within.2
  | or lhs rhs left right =>
    apply Matches.bind (left within.1)
    intro decided
    cases decided
    · exact right within.2
    · exact .pure true
  | not inner ih =>
    apply Matches.bind (ih within)
    intro b
    exact .pure _

theorem performTimes_matches (steps : StepsMatch host reads writes R) (deed : Deed) (times : Nat)
    {m m' : Machine σ} (related : R m m') :
    R (performTimes host deed times m) (performTimes host deed times m') := by
  induction times generalizing m m' with
  | zero => exact related
  | succ times ih => exact ih (steps.perform deed m m' related)

theorem Action.exec_matches (steps : StepsMatch host reads writes R) {a : Action}
    (within : a.Within reads) : Matches R (a.exec host) (a.exec host) := by
  rcases a with ⟨p, count⟩ | o
  · have counted : Matches R (repeatCount host count) (repeatCount host count) := by
      cases count with
      | none => exact .pure 1
      | some count => exact .bind (Expression.eval_matches steps within) fun value => .pure _
    apply Matches.bind counted
    intro times
    exact .modify fun m m' related => performTimes_matches steps p.deed times related
  · exact .modify fun m m' related => steps.perform o.deed m m' related

section Loops

variable {body body' : Exec σ Unit} {test test' : Eval σ Bool}

theorem passes_matches (each : Matches R body body') (limit : Nat) :
    Matches R (passes body limit) (passes body' limit) := by
  induction limit with
  | zero => exact .pure ()
  | succ limit ih =>
    rw [passes_succ, passes_succ]
    exact each.bind fun _ => ih

theorem forever_matches (each : Matches R body body') (fuel : Nat) :
    Matches R (forever body fuel) (forever body' fuel) := by
  induction fuel with
  | zero => exact .fail _
  | succ fuel ih =>
    rw [forever_succ, forever_succ]
    exact each.bind fun _ => ih

theorem whilst_matches (tested : Matches R test test') (each : Matches R body body') (fuel : Nat) :
    Matches R (whilst test body fuel) (whilst test' body' fuel) := by
  induction fuel with
  | zero => exact .fail _
  | succ fuel ih =>
    rw [whilst_succ, whilst_succ]
    apply Matches.bind tested.mapError
    intro decided
    cases decided
    · exact .pure ()
    · exact each.bind fun _ => ih

theorem LoopPolicy.run_matches (policy : LoopPolicy) (fuel : Nat) (each : Matches R body body') :
    Matches R (policy.run fuel body) (policy.run fuel body') := by
  rcases policy with _ | _ | limit
  · exact each
  · exact forever_matches each fuel
  · exact passes_matches each limit

end Loops

variable {policy : LoopPolicy} {fuel : Nat}

mutual

theorem Statement.exec_matches (steps : StepsMatch host reads writes R) (s : Statement)
    (within : s.Within reads writes) :
    Matches R (s.exec host policy fuel) (s.exec host policy fuel) := by
  match s with
  | .loop body => exact policy.run_matches fuel (execBody_matches steps body within)
  | .choose chain => exact Chain.exec_matches steps chain within
  | .whilst test body =>
    have tested := Condition.eval_matches steps within.1
    exact whilst_matches tested (execBody_matches steps body within.2) fuel
  | .assign name value =>
    have computed := Expression.eval_matches steps within.1
    apply Matches.bind computed.mapError
    intro v
    exact .modify fun m m' related => steps.assign name v m m' within.2 related
  | .act action =>
    have performed := Action.exec_matches steps within
    exact performed.mapError

theorem Chain.exec_matches (steps : StepsMatch host reads writes R) (c : Chain)
    (within : c.Within reads writes) :
    Matches R (c.exec host policy fuel) (c.exec host policy fuel) := by
  match c with
  | .done => exact .pure ()
  | .otherwise body => exact execBody_matches steps body within
  | .branch test body rest =>
    have tested := Condition.eval_matches steps within.1
    apply Matches.bind tested.mapError
    intro decided
    cases decided
    · exact Chain.exec_matches steps rest within.2.2
    · exact execBody_matches steps body within.2.1

theorem execBody_matches (steps : StepsMatch host reads writes R) (body : List Statement)
    (within : bodyWithin reads writes body) :
    Matches R (execBody host policy fuel body) (execBody host policy fuel body) := by
  match body with
  | [] => exact .pure ()
  | s :: rest =>
    have first := Statement.exec_matches steps s within.1
    exact first.bind fun _ => execBody_matches steps rest within.2

end

theorem Program.exec_matches (steps : StepsMatch host reads writes R) {p : Program}
    (within : bodyWithin reads writes p.statements) :
    Matches R (p.exec host policy fuel) (p.exec host policy fuel) :=
  execBody_matches steps p.statements within

/-- Ticks keep what a run of the program and the end of a tick keep. The two runs may count their
ticks from different numbers. -/
theorem ticksFrom_matches {p : Program} {first first' : Nat}
    (each : Matches R (p.exec host policy fuel) (p.exec host policy fuel))
    (tick : ∀ i m m', R m m' → R { m with trace := .ticked (first + i) m.actions :: m.trace }
      { m' with trace := .ticked (first' + i) m'.actions :: m'.trace })
    (n : Nat) :
    Matches R (ticksFrom host policy fuel p first n) (ticksFrom host policy fuel p first' n) := by
  induction n generalizing first first' with
  | zero => exact .pure ()
  | succ n ih =>
    rw [ticksFrom_succ, ticksFrom_succ]
    apply Matches.bind each
    intro _
    apply Matches.bind (.modify (tick 0))
    intro _
    apply ih
    intro i m m' related
    rw [Nat.add_right_comm first, Nat.add_right_comm first']
    exact tick (i + 1) m m' related

end Runs

end ArenaScript
