import ArenaScript.Attempt
import ArenaScript.Exec.Fault
import Mathlib.Algebra.Ring.Int.Defs
import Mathlib.Algebra.Ring.Nat

/-! Division to the nearest integer. What is wanted of a quotient is told without remainders: it
misses the dividend by half of the divisor at most, and where it misses by exactly half, it lies
away from zero. One integer does that, and division gives it. Words of 64 bits hold every number on
the way, and words of 32 bits hold the quotient, but for one pair. -/
namespace ArenaScript

/-- Going `r` times by `d` comes as close to `n` as possible, and a tie goes away from zero. -/
def Nearest (n d r : Int) : Prop :=
  2 * (n - r * d).natAbs ≤ d.natAbs ∧
    (2 * (n - r * d).natAbs = d.natAbs → n.natAbs < (r * d).natAbs)

section Integers

variable {n d r s : Int}

theorem natAbs_le_natAbs_mul (d : Int) (some : r ≠ 0) : d.natAbs ≤ (r * d).natAbs := by
  rw [Int.natAbs_mul]
  exact Nat.le_mul_of_pos_left _ (Int.natAbs_pos.mpr some)

theorem Nearest.unique (one : Nearest n d r) (other : Nearest n d s) : r = s := by
  apply Decidable.byContradiction
  intro differ
  obtain ⟨near, away⟩ := one
  obtain ⟨near', away'⟩ := other
  -- the candidates are a divisor apart at least, so both are ties
  have apart := natAbs_le_natAbs_mul d (mt Int.sub_eq_zero.mp differ)
  rw [Int.sub_mul] at apart
  have tie : 2 * (n - r * d).natAbs = d.natAbs := by omega
  have tie' : 2 * (n - s * d).natAbs = d.natAbs := by omega
  -- a tie lies away from zero, by a divisor at least, which fits on one side of the dividend only
  have outside := away tie
  have outside' := away' tie'
  have far := natAbs_le_natAbs_mul d (Int.mul_ne_zero_iff.mp (by omega : r * d ≠ 0)).1
  have far' := natAbs_le_natAbs_mul d (Int.mul_ne_zero_iff.mp (by omega : s * d ≠ 0)).1
  omega

/-- What a division towards zero leaves is smaller than the divisor and on the side of the
dividend. -/
theorem tmod_bounds (n : Int) (divides : d ≠ 0) :
    n = n.tdiv d * d + n.tmod d ∧ (n.tmod d).natAbs < d.natAbs ∧
      (0 ≤ n → 0 ≤ n.tmod d) ∧ (n ≤ 0 → n.tmod d ≤ 0) := by
  refine ⟨?_, ?_, Int.tmod_nonneg d, fun negative => ?_⟩
  · have parts := Int.mul_tdiv_add_tmod n d
    rw [Int.mul_comm] at parts
    exact parts.symm
  · rw [Int.natAbs_tmod]
    exact Nat.mod_lt _ (Int.natAbs_pos.mpr divides)
  · have opposite := Int.tmod_nonneg d (Int.neg_nonneg_of_nonpos negative)
    rw [Int.neg_tmod] at opposite
    omega

theorem nearest_roundedQuotient (n : Int) (divides : d ≠ 0) :
    Nearest n d (roundedQuotient n d) := by
  obtain ⟨parts, small, above, below⟩ := tmod_bounds n divides
  unfold roundedQuotient Nearest
  split
  · -- one divisor more, in the direction of the dividend
    have step : n.sign * d.sign * d = n.sign * d.natAbs := by
      rw [Int.mul_assoc, Int.sign_mul_self]
    rw [Int.add_mul, step]
    rcases Int.lt_trichotomy n 0 with negative | rfl | positive
    · rw [Int.sign_eq_neg_one_of_neg negative]
      omega
    · omega
    · rw [Int.sign_eq_one_of_pos positive]
      omega
  · omega

/-- The quotient of two values is a value, but for the one whose dividend has no opposite. -/
theorem Nearest.fits (near : Nearest n d r) (divides : d ≠ 0) (low : -2 ^ 31 ≤ n)
    (high : n < 2 ^ 31) : -2 ^ 31 ≤ r ∧ r ≤ 2 ^ 31 ∧ (r = 2 ^ 31 ↔ n = -2 ^ 31 ∧ d = -1) := by
  obtain ⟨near, -⟩ := near
  by_cases unit : d = 1 ∨ d = -1
  · rcases unit with rfl | rfl <;> omega
  · -- a larger divisor brings the quotient well inside
    have less : r.natAbs < 2 ^ 31 := by
      apply Decidable.byContradiction
      intro large
      have product : 2 ^ 31 * d.natAbs ≤ (r * d).natAbs := by
        rw [Int.natAbs_mul]
        exact Nat.mul_le_mul_right _ (by omega)
      omega
    omega

end Integers

def signWord (x : Int64) : Int64 := if x < 0 then -1 else if x = 0 then 0 else 1

/-- Rounded division in words, of which each step wraps where its number does not fit. -/
def roundedWord (n d : Int64) : Int64 :=
  if d.abs ≤ 2 * (n % d).abs then n / d + signWord n * signWord d else n / d

structure StepsExact (n d : Int64) : Prop where
  quotient : (n / d).toInt = n.toInt.tdiv d.toInt
  remainder : (n % d).toInt = n.toInt.tmod d.toInt
  size : (n % d).abs.toInt = (n.toInt.tmod d.toInt).natAbs
  doubled : (2 * (n % d).abs).toInt = 2 * (n.toInt.tmod d.toInt).natAbs
  divisor : d.abs.toInt = d.toInt.natAbs
  direction : (signWord n * signWord d).toInt = n.toInt.sign * d.toInt.sign
  away : (n / d + signWord n * signWord d).toInt =
    n.toInt.tdiv d.toInt + n.toInt.sign * d.toInt.sign

section Words

variable {x y n d : Int64}

theorem toInt_mul_of_fits (fits : (x.toInt * y.toInt).natAbs < 2 ^ 63) :
    (x * y).toInt = x.toInt * y.toInt := by
  rw [Int64.toInt_mul]
  exact Int.bmod_eq_of_le (by omega) (by omega)

theorem toInt_add_of_fits (fits : (x.toInt + y.toInt).natAbs < 2 ^ 63) :
    (x + y).toInt = x.toInt + y.toInt := by
  rw [Int64.toInt_add]
  exact Int.bmod_eq_of_le (by omega) (by omega)

theorem toInt_abs_of_fits (fits : x.toInt.natAbs < 2 ^ 63) : x.abs.toInt = x.toInt.natAbs := by
  apply BitVec.toInt_abs_eq_natAbs_of_ne_intMin
  intro least
  have value : x.toInt = (BitVec.intMin 64).toInt := congrArg BitVec.toInt least
  have number : (BitVec.intMin 64).toInt = -2 ^ 63 := by decide
  omega

theorem toInt_signWord (x : Int64) : (signWord x).toInt = x.toInt.sign := by
  have below : x < 0 ↔ x.toInt < 0 := Int64.lt_iff_toInt_lt
  have nothing : x = 0 ↔ x.toInt = 0 := Int64.toInt_inj.symm
  unfold signWord
  simp only [below, nothing]
  rcases Int.lt_trichotomy x.toInt 0 with negative | zero | positive
  · rw [if_pos negative, Int.sign_eq_neg_one_of_neg negative]
    rfl
  · rw [zero]
    rfl
  · rw [if_neg (by omega), if_neg (by omega), Int.sign_eq_one_of_pos positive]
    rfl

theorem natAbs_sign_mul_sign_le (n d : Int) : (n.sign * d.sign).natAbs ≤ 1 := by
  rw [← Int.sign_mul, Int.natAbs_sign]
  split <;> omega

/-- Words that hold values leave room enough for every step. -/
theorem stepsExact (divides : d.toInt ≠ 0) (dividend : n.toInt.natAbs ≤ 2 ^ 31)
    (divisor : d.toInt.natAbs ≤ 2 ^ 31) : StepsExact n d := by
  have small := (tmod_bounds n.toInt divides).2.1
  have less : (n.toInt.tdiv d.toInt).natAbs ≤ n.toInt.natAbs := Int.natAbs_tdiv_le_natAbs _ _
  have unit := natAbs_sign_mul_sign_le n.toInt d.toInt
  have quotient : (n / d).toInt = n.toInt.tdiv d.toInt := by
    rw [Int64.toInt_div]
    exact Int.bmod_eq_of_le (by omega) (by omega)
  have remainder : (n % d).toInt = n.toInt.tmod d.toInt := Int64.toInt_mod n d
  have size : (n % d).abs.toInt = (n.toInt.tmod d.toInt).natAbs := by
    rw [toInt_abs_of_fits (by omega), remainder]
  have direction : (signWord n * signWord d).toInt = n.toInt.sign * d.toInt.sign := by
    rw [toInt_mul_of_fits, toInt_signWord, toInt_signWord]
    rw [toInt_signWord, toInt_signWord]
    omega
  have two : (2 : Int64).toInt = 2 := rfl
  refine ⟨quotient, remainder, size, ?_, toInt_abs_of_fits (by omega), direction, ?_⟩
  · rw [toInt_mul_of_fits, two, size]
    rw [two]
    omega
  · rw [toInt_add_of_fits (by omega), quotient, direction]

theorem StepsExact.toInt_roundedWord (exact : StepsExact n d) :
    (roundedWord n d).toInt = roundedQuotient n.toInt d.toInt := by
  have same : d.abs ≤ 2 * (n % d).abs ↔
      2 * (n.toInt.tmod d.toInt).natAbs ≥ d.toInt.natAbs := by
    rw [Int64.le_iff_toInt_le, exact.divisor, exact.doubled]
    omega
  unfold roundedWord roundedQuotient
  simp only [same]
  split
  · exact exact.away
  · exact exact.quotient

end Words

namespace Value

variable {a b : Value}

theorem toInt_ne_zero (divides : b ≠ 0) : b.toInt ≠ 0 :=
  fun zero => divides (Int32.toInt_inj.mp zero)

theorem stepsExact_of_values (a : Value) (divides : b ≠ 0) : StepsExact a.toInt64 b.toInt64 := by
  have nonzero := toInt_ne_zero divides
  have low := a.le_toInt
  have high := a.toInt_lt
  have low' := b.le_toInt
  have high' := b.toInt_lt
  apply ArenaScript.stepsExact
  · rwa [Int32.toInt_toInt64]
  · rw [Int32.toInt_toInt64]
    omega
  · rw [Int32.toInt_toInt64]
    omega

/-- The quotient in words, before it is narrowed to a value. -/
theorem toInt_roundedWord (a : Value) (divides : b ≠ 0) :
    (roundedWord a.toInt64 b.toInt64).toInt = roundedQuotient a.toInt b.toInt := by
  rw [(stepsExact_of_values a divides).toInt_roundedWord, Int32.toInt_toInt64, Int32.toInt_toInt64]

theorem divide_eq_roundedWord (a : Value) (divides : b ≠ 0) :
    a.divide b = .ok (roundedWord a.toInt64 b.toInt64).toInt32 := by
  rw [divide, if_neg divides, ← toInt_roundedWord a divides, ← Int64.toInt32_ofInt,
    Int64.ofInt_toInt]

theorem minValue_iff (a : Value) : a = Int32.minValue ↔ a.toInt = -2 ^ 31 :=
  Int32.toInt_inj.symm

theorem minusOne_iff (b : Value) : b = -1 ↔ b.toInt = -1 :=
  Int32.toInt_inj.symm

/-- Narrowing keeps every quotient that is a value, and one is not. -/
theorem toInt_narrowed (a : Value) (divides : b ≠ 0) :
    (roundedWord a.toInt64 b.toInt64).toInt32.toInt = (roundedWord a.toInt64 b.toInt64).toInt ↔
      ¬ (a = Int32.minValue ∧ b = -1) := by
  have nonzero := toInt_ne_zero divides
  obtain ⟨low, high, only⟩ :=
    (nearest_roundedQuotient a.toInt nonzero).fits nonzero a.le_toInt a.toInt_lt
  rw [minValue_iff, minusOne_iff, ← only, Int64.toInt_toInt32, toInt_roundedWord a divides]
  constructor
  · intro kept large
    rw [large] at kept
    exact absurd kept (by decide)
  · intro fits
    exact Int.bmod_eq_of_le (by omega) (by omega)

/-- Division fails exactly for the divisor zero, and then names the dividend. Otherwise it gives the
one integer that is nearest, where a tie goes away from zero; only the least value divided by minus
one has no such value and gives itself. In words of 64 bits every step of it is exact, and narrowing
the result to a value changes it for that one pair only. -/
theorem divide_is_nearest (a b : Value) :
    (a.divide b = .error (.divisionByZero a) ↔ b = 0) ∧
    Value.divide Int32.minValue (-1) = .ok Int32.minValue ∧
    (b ≠ 0 → ¬ (a = Int32.minValue ∧ b = -1) →
      ∃ r : Value, a.divide b = .ok r ∧ ∀ k, Nearest a.toInt b.toInt k ↔ k = r.toInt) ∧
    (b ≠ 0 →
      let quotient := roundedWord a.toInt64 b.toInt64
      StepsExact a.toInt64 b.toInt64 ∧ a.divide b = .ok quotient.toInt32 ∧
        (quotient.toInt32.toInt = quotient.toInt ↔ ¬ (a = Int32.minValue ∧ b = -1))) := by
  refine ⟨?_, by decide, fun divides other => ?_, fun divides => ?_⟩
  · constructor
    · intro failed
      apply Decidable.byContradiction
      intro divides
      rw [divide_eq_roundedWord a divides] at failed
      cases failed
    · rintro rfl
      rfl
  · have nonzero := toInt_ne_zero divides
    have near := nearest_roundedQuotient a.toInt nonzero
    refine ⟨_, divide_eq_roundedWord a divides, fun k => ?_⟩
    rw [(toInt_narrowed a divides).mpr other, toInt_roundedWord a divides]
    constructor
    · exact fun also => also.unique near
    · rintro rfl
      exact near
  · exact ⟨stepsExact_of_values a divides, divide_eq_roundedWord a divides,
      toInt_narrowed a divides⟩

theorem divide_is_nearest_tie :
    Value.divide (-7) 2 = .ok (-4) ∧ (∀ k, Nearest (-7) 2 k ↔ k = -4) ∧
      StepsExact (Int32.toInt64 (-7)) (Int32.toInt64 2) := by
  obtain ⟨-, -, nearest, inWords⟩ := divide_is_nearest (-7) 2
  obtain ⟨r, divided, only⟩ := nearest (by decide) (by decide)
  have result : Value.divide (-7) 2 = .ok (-4) := by decide
  cases divided.symm.trans result
  exact ⟨result, only, (inWords (by decide)).1⟩

end Value

end ArenaScript
