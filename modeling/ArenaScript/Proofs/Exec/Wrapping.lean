import ArenaScript.Exec.Machine
import ArenaScript.Host.Queued
import Mathlib.Data.Int.ModEq

/-! Wrapping once is enough. A sum, difference or product wraps at every node of its tree, and still
its value is the exact integer over the values of its leaves, wrapped a single time. The leaves are
evaluated from left to right, so they may read a host that changes between them. -/
namespace ArenaScript

variable {σ : Type}

/-- What is added, subtracted and multiplied in an expression, from left to right. A sensor is one
leaf together with its index, and a quotient is one leaf together with its sides. -/
def Expression.leaves : Expression → List Expression
  | .op .add lhs rhs | .op .sub lhs rhs | .op .mul lhs rhs => lhs.leaves ++ rhs.leaves
  | leaf => [leaf]

/-- The integer that an expression comes to if its leaves have these values and nothing wraps. -/
def Expression.exact : Expression → List Value → Int
  | .op .add lhs rhs, values =>
    lhs.exact (values.take lhs.leaves.length) + rhs.exact (values.drop lhs.leaves.length)
  | .op .sub lhs rhs, values =>
    lhs.exact (values.take lhs.leaves.length) - rhs.exact (values.drop lhs.leaves.length)
  | .op .mul lhs rhs, values =>
    lhs.exact (values.take lhs.leaves.length) * rhs.exact (values.drop lhs.leaves.length)
  | _, values => (values.headD 0).toInt

def Expression.evalLeaves (host : Host σ) (e : Expression) : Eval σ (List Value) :=
  e.leaves.mapM (Expression.eval host)

/-- If the leaves have values, the expression has the exact integer over these, wrapped once. -/
def Expression.WrapsOnce (host : Host σ) (e : Expression) : Prop :=
  ∀ m values m', e.evalLeaves host m = (.ok values, m') →
    e.eval host m = (.ok (Int32.ofInt (e.exact values)), m')

theorem length_of_mapM {ε α β : Type} {f : α → Attempt ε σ β} {items : List α} {s t : σ}
    {results : List β} (run : items.mapM f s = (.ok results, t)) :
    results.length = items.length := by
  induction items generalizing s results with
  | nil =>
    cases run
    rfl
  | cons item items ih =>
    rw [List.mapM_cons] at run
    obtain ⟨first, s₁, -, later⟩ := Attempt.bind_eq_ok.mp run
    obtain ⟨others, s₂, rest, last⟩ := Attempt.bind_eq_ok.mp later
    cases last
    rw [List.length_cons, ih rest, List.length_cons]

namespace Expression.WrapsOnce

variable {host : Host σ}

theorem leaf {e : Expression} (leaves : e.leaves = [e])
    (value : ∀ v, e.exact [v] = v.toInt) : e.WrapsOnce host := by
  intro m values m' run
  rw [evalLeaves, leaves, List.mapM_cons, List.mapM_nil] at run
  obtain ⟨v, m₁, here, last⟩ := Attempt.bind_eq_ok.mp run
  cases last
  rw [here, value, Int32.ofInt_toInt]

theorem op {o : Operator} {f : Int → Int → Int} {lhs rhs : Expression} (left : lhs.WrapsOnce host)
    (right : rhs.WrapsOnce host)
    (leaves : (Expression.op o lhs rhs).leaves = lhs.leaves ++ rhs.leaves)
    (exact : ∀ values, (Expression.op o lhs rhs).exact values =
      f (lhs.exact (values.take lhs.leaves.length)) (rhs.exact (values.drop lhs.leaves.length)))
    (wraps : ∀ a b, o.apply (Int32.ofInt a) (Int32.ofInt b) = .ok (Int32.ofInt (f a b))) :
    (Expression.op o lhs rhs).WrapsOnce host := by
  intro m values m' run
  -- the leaves of the left side all come before those of the right side, as the sides do
  rw [evalLeaves, leaves, List.mapM_append] at run
  obtain ⟨first, m₁, before, later⟩ := Attempt.bind_eq_ok.mp run
  obtain ⟨second, m₂, behind, last⟩ := Attempt.bind_eq_ok.mp later
  cases last
  have all : first.length = lhs.leaves.length := length_of_mapM before
  rw [Expression.eval, Attempt.bind_ok (left m first m₁ before),
    Attempt.bind_ok (right m₁ second m' behind), wraps, exact, ← all, List.take_left,
    List.drop_left]
  rfl

end Expression.WrapsOnce

theorem Expression.wrapsOnce (host : Host σ) (e : Expression) : e.WrapsOnce host := by
  induction e with
  | number | var | gauge | barrel | barrelAt => exact .leaf rfl fun _ => rfl
  | op o lhs rhs left right =>
    cases o with
    | add => exact left.op right rfl (fun _ => rfl) fun a b => congrArg _ (Int32.ofInt_add a b).symm
    | sub => exact left.op right rfl (fun _ => rfl) fun a b => congrArg _ (Int32.ofInt_sub a b).symm
    | mul => exact left.op right rfl (fun _ => rfl) fun a b => congrArg _ (Int32.ofInt_mul a b).symm
    | div => exact .leaf rfl fun _ => rfl

/-- Every integer is congruent to exactly one value. -/
theorem Value.modEq_iff_eq_ofInt (v : Value) (n : Int) :
    v.toInt ≡ n [ZMOD 2 ^ 32] ↔ v = Int32.ofInt n := by
  constructor
  · intro congruent
    have same : v.toInt % Int32.size = n % Int32.size := congruent
    rw [eq_comm, Int32.ofInt_eq_iff_bmod_eq_toInt, ← Int.emod_bmod, ← same, Int.emod_bmod]
    exact Int.bmod_eq_of_le v.le_toInt v.toInt_lt
  · rintro rfl
    rw [Int32.toInt_ofInt]
    exact Int.bmod_emod

/-- If the leaves of an expression have values, evaluated one behind the other, the expression has a
value too, after the same readings. It is the only one that is congruent modulo `2 ^ 32` to what the
expression comes to in exact integers. -/
theorem Expression.value_congruent_to_exact (host : Host σ) (e : Expression) {m m' : Machine σ}
    {values : List Value} (leaves : e.evalLeaves host m = (.ok values, m')) :
    ∃ r : Value, e.eval host m = (.ok r, m') ∧
      ∀ v : Value, v.toInt ≡ e.exact values [ZMOD 2 ^ 32] ↔ v = r :=
  ⟨Int32.ofInt (e.exact values), e.wrapsOnce host m values m' leaves,
    fun v => v.modEq_iff_eq_ofInt (e.exact values)⟩

/-- Both products leave the range of values, and so does the sum inside the first one. The fuel is
read twice and has changed in between. -/
def overflowing : Expression :=
  .op .sub (.op .mul (.var "$least") (.op .add (.var "$least") (.number (-1))))
    (.op .mul (.gauge .fuelLeft) (.barrelAt .leftRight (.op .div (.gauge .fuelLeft) (.number 2))))

theorem Expression.value_congruent_to_exact_overflowing :
    let queues := Queues.ofList [(.gauge .fuelLeft, [2147483647, 7]), (.barrel .leftRight, [-3])]
    let m := Machine.start queues (.ofList [("$least", Int32.minValue)])
    let values : List Value := [Int32.minValue, Int32.minValue, -1, 2147483647, -3]
    (overflowing.evalLeaves Queues.host m).1 = .ok values ∧
      overflowing.exact values = 4611686027017322493 ∧
      overflowing.eval Queues.host m = (.ok (-3), (overflowing.evalLeaves Queues.host m).2) := by
  intro queues m values
  have known : (overflowing.evalLeaves Queues.host m).1 = .ok values := by decide +kernel
  have total : overflowing.exact values = 4611686027017322493 := by decide +kernel
  obtain ⟨r, run, only⟩ :=
    overflowing.value_congruent_to_exact Queues.host (m := m) (Prod.ext known rfl)
  have result : -3 = r := (only (-3)).mp (by rw [total]; decide)
  exact ⟨known, total, result ▸ run⟩

end ArenaScript
