import ArenaScript.Host.Scripted
import ArenaScript.Proofs.Exec.Names
import ArenaScript.Proofs.Exec.Pairs

/-! What `and` and `or` skip. Where reading a sensor changes nothing, evaluating both sides instead
gives no other value: it can only fail where skipping does not. And on every host a negation may be
moved inwards through an `and`, at any place in a condition. -/
namespace ArenaScript

namespace Attempt

variable {ε σ α β : Type}

/-- Started in related states, the second gives every value that the first gives, and then they end
in related states. Where the first fails, nothing is said. -/
def Covers (R : σ → σ → Prop) (x y : Attempt ε σ α) : Prop :=
  ∀ s t, R s t → ∀ a s', x s = (.ok a, s') → ∃ t', y t = (.ok a, t') ∧ R s' t'

namespace Covers

variable {R : σ → σ → Prop} {x y : Attempt ε σ α} {f g : α → Attempt ε σ β}

theorem of_matches (alike : Matches R x y) : Covers R x y := by
  intro s t related a s' given
  obtain ⟨r, s₁, t₁, here, there, after⟩ := alike.both related
  cases given.symm.trans here
  exact ⟨t₁, there, after⟩

theorem bind (first : Covers R x y) (second : ∀ a, Covers R (f a) (g a)) :
    Covers R (x >>= f) (y >>= g) := by
  intro s t related b s' given
  obtain ⟨a, s₁, here, later⟩ := bind_eq_ok.mp given
  obtain ⟨t₁, there, between⟩ := first s t related a s₁ here
  rw [bind_ok there]
  exact second a s₁ t₁ between b s' later

/-- What leaves no trace in the relation may be left out. -/
theorem skip (stays : ∀ s t, R s t → R (x s).2 t) (b : β) :
    Covers R (x >>= fun _ => Pure.pure b) (Pure.pure b) := by
  intro s t related b' s' given
  obtain ⟨a, s₁, here, last⟩ := bind_eq_ok.mp given
  cases last
  have after := stays s t related
  rw [here] at after
  exact ⟨t, rfl, after⟩

end Covers

end Attempt

open Attempt (Covers Keeps)

variable {σ : Type}

/-- Evaluates both sides of `and` and `or`, whatever the left one gives. -/
def Condition.evalBoth (host : Host σ) : Condition → Eval σ Bool
  | .compare r lhs rhs => do
    let a ← lhs.eval host
    let b ← rhs.eval host
    return r.holds a b
  | .and lhs rhs => do
    let a ← lhs.evalBoth host
    let b ← rhs.evalBoth host
    return a && b
  | .or lhs rhs => do
    let a ← lhs.evalBoth host
    let b ← rhs.evalBoth host
    return a || b
  | .not inner => do
    let b ← inner.evalBoth host
    return !b

/-- Reading a sensor leaves the host as it was. -/
def Host.Still (host : Host σ) : Prop := ∀ query state, (host.sense query state).2 = state

theorem Scripted.host_still : Scripted.host.Still := fun _ _ => rfl

structure Machine.SamePlace (m m' : Machine σ) : Prop where
  host : m.host = m'.host
  store : m.store = m'.store

theorem stepsMatch_samePlace (host : Host σ) :
    StepsMatch host (fun _ => True) (fun _ => True) Machine.SamePlace where
  lookUp name m m' _ same := by rw [same.store]
  sense query m m' same := by
    obtain ⟨state, store⟩ := same
    simp only [sense, state]
    exact ⟨trivial, rfl, store⟩
  perform deed m m' same := ⟨congrArg (host.perform deed) same.host, same.store⟩
  assign name value m m' _ same := ⟨same.host, congrArg (Store.set · name value) same.store⟩

section Evaluation

variable {host : Host σ}

theorem readsKeep_samePlace (still : host.Still) (m : Machine σ) :
    ReadsKeep host (fun _ => True) (fun _ => True) (Machine.SamePlace · m) where
  lookUp := by
    intro name _ m₁ same
    unfold lookUp
    split
    · exact ⟨same, nofun⟩
    · exact ⟨same, fun _ _ => trivial⟩
  sense query m₁ same := ⟨(still query m₁.host).trans same.host, same.store⟩
  division _ := trivial

theorem Expression.within_true (e : Expression) : e.Within fun _ => True :=
  Expression.within_of_names fun _ _ => trivial

theorem Condition.evalBoth_keeps (still : host.Still) (c : Condition) (m : Machine σ) :
    Keeps (Machine.SamePlace · m) (fun _ => True) (c.evalBoth host) := by
  have steps := readsKeep_samePlace still m
  induction c with
  | compare r lhs rhs =>
    apply Keeps.bind (lhs.eval_keeps steps lhs.within_true)
    intro a
    apply Keeps.bind (rhs.eval_keeps steps rhs.within_true)
    intro b
    exact .pure _
  | and lhs rhs left right | or lhs rhs left right =>
    apply Keeps.bind left
    intro a
    apply Keeps.bind right
    intro b
    exact .pure _
  | not inner ih =>
    apply Keeps.bind ih
    intro b
    exact .pure _

/-- Skipping the right side does not show in the place of the machine. -/
theorem Condition.skip_covers (still : host.Still) (c : Condition) (b : Bool) :
    Covers Machine.SamePlace (c.evalBoth host >>= fun _ => Pure.pure b)
      (Pure.pure b : Eval σ Bool) :=
  .skip (fun m m' same => (c.evalBoth_keeps still m' m same).1) b

theorem Condition.evalBoth_covers (still : host.Still) (c : Condition) :
    Covers Machine.SamePlace (c.evalBoth host) (c.eval host) := by
  induction c with
  | compare r lhs rhs =>
    have within : (Condition.compare r lhs rhs).Within fun _ => True :=
      ⟨lhs.within_true, rhs.within_true⟩
    exact .of_matches (Condition.eval_matches (stepsMatch_samePlace host) within)
  | and lhs rhs left right =>
    apply Covers.bind left
    intro a
    cases a with
    | false => exact rhs.skip_covers still false
    | true =>
      simp only [Bool.true_and, bind_pure, if_true]
      exact right
  | or lhs rhs left right =>
    apply Covers.bind left
    intro a
    cases a with
    | false =>
      simp only [Bool.false_or, bind_pure]
      exact right
    | true => exact rhs.skip_covers still true
  | not inner ih =>
    apply Covers.bind ih
    intro b
    exact .of_matches (.pure _)

end Evaluation

inductive Condition.Frame
  | here
  | andLeft (inner : Frame) (rhs : Condition)
  | andRight (lhs : Condition) (inner : Frame)
  | orLeft (inner : Frame) (rhs : Condition)
  | orRight (lhs : Condition) (inner : Frame)
  | not (inner : Frame)

def Condition.Frame.fill (c : Condition) : Frame → Condition
  | .here => c
  | .andLeft inner rhs => .and (inner.fill c) rhs
  | .andRight lhs inner => .and lhs (inner.fill c)
  | .orLeft inner rhs => .or (inner.fill c) rhs
  | .orRight lhs inner => .or lhs (inner.fill c)
  | .not inner => .not (inner.fill c)

section Negation

variable {host : Host σ}

/-- What evaluates alike may stand for each other everywhere. -/
theorem Condition.Frame.eval_fill {c d : Condition} (alike : c.eval host = d.eval host)
    (frame : Frame) : (frame.fill c).eval host = (frame.fill d).eval host := by
  induction frame with
  | here => exact alike
  | andLeft inner rhs ih | andRight lhs inner ih | orLeft inner rhs ih | orRight lhs inner ih
  | not inner ih => rw [fill, fill, Condition.eval, Condition.eval, ih]

/-- A left side that decides the `and` decides the `or` of the negations, and otherwise both go on
to the right side. -/
theorem Condition.eval_not_and (a b : Condition) :
    (Condition.not (.and a b)).eval host = (Condition.or (.not a) (.not b)).eval host := by
  simp only [Condition.eval, bind_assoc]
  congr 1
  funext decided
  cases decided with
  | false => rfl
  | true => rfl

end Negation

/-- On a host whose sensors can be read without effect, skipping is safe: it gives every value that
evaluating both sides gives, and fails only where that fails too. On every host the negation of an
`and` and the `or` of the negations, at any place in a condition, give the same value or fault and
make the same calls. -/
theorem skipping_is_safe (host : Host σ) (m : Machine σ) :
    (host.Still → ∀ c : Condition,
      (∀ b, (c.evalBoth host m).1 = .ok b → (c.eval host m).1 = .ok b) ∧
      ∀ fault, (c.eval host m).1 = .error fault →
        ∃ fault', (c.evalBoth host m).1 = .error fault') ∧
    ∀ (frame : Condition.Frame) (a b : Condition),
      (frame.fill (.not (.and a b))).eval host m =
        (frame.fill (.or (.not a) (.not b))).eval host m := by
  refine ⟨fun still c => ?_, fun frame a b => ?_⟩
  · have covers := c.evalBoth_covers still m m ⟨rfl, rfl⟩
    rcases both : c.evalBoth host m with ⟨fault' | b, m₁⟩
    · exact ⟨nofun, fun _ _ => ⟨fault', rfl⟩⟩
    · obtain ⟨m₂, skipped, -⟩ := covers b m₁ both
      rw [skipped]
      exact ⟨fun _ same => same, nofun⟩
  · rw [frame.eval_fill (Condition.eval_not_and a b)]

/-- The left side decides, and the right side is read only if both are evaluated. -/
def idle : Condition :=
  .and (.compare .eq (.number 1) (.number 2)) (.compare .lt (.gauge .fuelLeft) (.number 5))

def reckless : Condition :=
  .or (.compare .gt (.gauge .fuelLeft) (.number 5))
    (.compare .eq (.op .div (.number 1) (.number 0)) (.number 0))

theorem skipping_is_safe_at_low_fuel :
    let m := Machine.start (Scripted.new { fuel := 3 }) .empty
    (idle.evalBoth Scripted.host m).1 = .ok false ∧ (idle.eval Scripted.host m).1 = .ok false ∧
      (idle.eval Scripted.host m).2.events ≠ (idle.evalBoth Scripted.host m).2.events ∧
      (reckless.eval Scripted.host m).1 = .error (.divisionByZero 1) ∧
      ∃ fault, (reckless.evalBoth Scripted.host m).1 = .error fault := by
  intro m
  obtain ⟨safe, -⟩ := skipping_is_safe Scripted.host m
  have both : (idle.evalBoth Scripted.host m).1 = .ok false := by decide +kernel
  have fails : (reckless.eval Scripted.host m).1 = .error (.divisionByZero 1) := by decide +kernel
  exact ⟨both, (safe Scripted.host_still idle).1 false both, by decide +kernel, fails,
    (safe Scripted.host_still reckless).2 _ fails⟩

end ArenaScript
