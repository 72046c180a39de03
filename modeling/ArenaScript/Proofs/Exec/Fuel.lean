import ArenaScript.Proofs.Exec.Keeps

/-! Fuel only bounds how long a run is watched. A run that has come to an end does the same with
more fuel, so whether it ends, how, and with what machine are facts about the program alone. A run
that no amount of fuel brings to an end goes on for ever. -/
namespace ArenaScript

variable {σ α β : Type}

/-- Where the first run does not use up its fuel, the second one does the same. -/
def ContinuedBy (x y : Exec σ α) : Prop :=
  ∀ m, (x m).1 ≠ .error .outOfFuel → y m = x m

namespace ContinuedBy

variable {x y : Exec σ α} {f g : α → Exec σ β}

theorem refl (x : Exec σ α) : ContinuedBy x x := fun _ _ => rfl

theorem outOfFuel (y : Exec σ α) : ContinuedBy (Attempt.fail .outOfFuel) y :=
  fun _ ended => absurd rfl ended

theorem bind (first : ContinuedBy x y) (second : ∀ a, ContinuedBy (f a) (g a)) :
    ContinuedBy (x >>= f) (y >>= g) := by
  intro m ended
  rcases run : x m with ⟨h | a, m'⟩
  · rw [Attempt.bind_error run] at ended ⊢
    have here : y m = (.error h, m') := by
      rw [← run]
      apply first
      rw [run]
      simpa using ended
    exact Attempt.bind_error here
  · rw [Attempt.bind_ok run] at ended ⊢
    have here : y m = (.ok a, m') := by
      rw [← run]
      apply first
      rw [run]
      exact nofun
    rw [Attempt.bind_ok here]
    exact second a m' ended

end ContinuedBy

section Loops

variable {body body' : Exec σ Unit} {fuel fuel' : Nat}

theorem passes_continued (each : ContinuedBy body body') (limit : Nat) :
    ContinuedBy (passes body limit) (passes body' limit) := by
  induction limit with
  | zero => exact .refl _
  | succ limit ih =>
    rw [passes_succ, passes_succ]
    exact each.bind fun _ => ih

theorem forever_continued (each : ContinuedBy body body') (more : fuel ≤ fuel') :
    ContinuedBy (forever body fuel) (forever body' fuel') := by
  induction fuel generalizing fuel' with
  | zero => exact .outOfFuel _
  | succ fuel ih =>
    obtain ⟨fuel', rfl⟩ : ∃ n, fuel' = n + 1 := ⟨fuel' - 1, by omega⟩
    rw [forever_succ, forever_succ]
    exact each.bind fun _ => ih (by omega)

theorem whilst_continued (test : Eval σ Bool) (each : ContinuedBy body body')
    (more : fuel ≤ fuel') :
    ContinuedBy (whilst test body fuel) (whilst test body' fuel') := by
  induction fuel generalizing fuel' with
  | zero => exact .outOfFuel _
  | succ fuel ih =>
    obtain ⟨fuel', rfl⟩ : ∃ n, fuel' = n + 1 := ⟨fuel' - 1, by omega⟩
    rw [whilst_succ, whilst_succ]
    apply ContinuedBy.bind (.refl _)
    intro decided
    cases decided
    · exact .refl _
    · exact each.bind fun _ => ih (by omega)

theorem LoopPolicy.run_continued (policy : LoopPolicy) (each : ContinuedBy body body')
    (more : fuel ≤ fuel') : ContinuedBy (policy.run fuel body) (policy.run fuel' body') := by
  rcases policy with _ | _ | limit
  · exact each
  · exact forever_continued each more
  · exact passes_continued each limit

end Loops

section Runs

variable {host : Host σ} {policy : LoopPolicy} {fuel fuel' : Nat}

mutual

theorem Statement.exec_continued (s : Statement) (more : fuel ≤ fuel') :
    ContinuedBy (s.exec host policy fuel) (s.exec host policy fuel') := by
  cases s with
  | loop body => exact policy.run_continued (execBody_continued body more) more
  | choose chain => exact Chain.exec_continued chain more
  | whilst test body => exact whilst_continued _ (execBody_continued body more) more
  | assign name value => exact .refl _
  | act action => exact .refl _

theorem Chain.exec_continued (c : Chain) (more : fuel ≤ fuel') :
    ContinuedBy (c.exec host policy fuel) (c.exec host policy fuel') := by
  cases c with
  | done => exact .refl _
  | otherwise body => exact execBody_continued body more
  | branch test body rest =>
    apply ContinuedBy.bind (.refl _)
    intro decided
    cases decided
    · exact Chain.exec_continued rest more
    · exact execBody_continued body more

theorem execBody_continued (body : List Statement) (more : fuel ≤ fuel') :
    ContinuedBy (execBody host policy fuel body) (execBody host policy fuel' body) := by
  cases body with
  | nil => exact .refl _
  | cons s rest =>
    exact (Statement.exec_continued s more).bind fun _ => execBody_continued rest more

end

theorem Program.exec_continued (p : Program) (more : fuel ≤ fuel') :
    ContinuedBy (p.exec host policy fuel) (p.exec host policy fuel') :=
  execBody_continued p.statements more

end Runs

/-- Started in `m` with enough fuel, the run ends with this result and leaves this machine. -/
def Ends (x : Nat → Exec σ α) (m : Machine σ) (result : Except Fault α) (after : Machine σ) :
    Prop :=
  ∃ fuel, x fuel m = (result.mapError .fault, after)

theorem Ends.of_result (x : Nat → Exec σ α) {m : Machine σ} {result : Except Fault α} (fuel : Nat)
    (ended : (x fuel m).1 = result.mapError .fault) : Ends x m result (x fuel m).2 :=
  ⟨fuel, Prod.ext ended rfl⟩

def Diverges (x : Nat → Exec σ α) (m : Machine σ) : Prop :=
  ∀ fuel, (x fuel m).1 = .error .outOfFuel

/-- The two runs cannot be told apart: they end alike or not at all, and however long they are
watched, they have done the same. -/
structure RunAlike (x y : Nat → Exec σ α) (m : Machine σ) : Prop where
  ends : ∀ result after, Ends x m result after ↔ Ends y m result after
  diverges : Diverges x m ↔ Diverges y m
  watched : ∀ fuel, x fuel m = y fuel m

theorem RunAlike.of_watched {x y : Nat → Exec σ α} {m : Machine σ}
    (watched : ∀ fuel, x fuel m = y fuel m) : RunAlike x y m where
  ends result after := by simp only [Ends, watched]
  diverges := by simp only [Diverges, watched]
  watched := watched

theorem Halt.of_mapError {result result' : Except Fault α}
    (same : result.mapError Halt.fault = result'.mapError Halt.fault) : result = result' := by
  cases result <;> cases result' <;> cases same <;> rfl

theorem Halt.mapError_ne_outOfFuel (result : Except Fault α) :
    result.mapError Halt.fault ≠ .error .outOfFuel := by
  intro same
  cases result <;> cases same

/-- A run that has ended is the same where more fuel is left. -/
theorem ContinuedBy.carries {x y : Exec σ α} (continued : ContinuedBy x y) {m after : Machine σ}
    {result : Except Fault α} (run : x m = (result.mapError .fault, after)) :
    y m = (result.mapError .fault, after) := by
  rw [← run]
  apply continued
  rw [run]
  exact Halt.mapError_ne_outOfFuel result

namespace Program

variable {p : Program} {host : Host σ} {policy : LoopPolicy} {m : Machine σ}

/-- How much fuel it took does not matter: there is one end at most. -/
theorem ends_unique {result result' : Except Fault Unit} {after after' : Machine σ}
    (first : Ends (p.exec host policy) m result after)
    (second : Ends (p.exec host policy) m result' after') : result = result' ∧ after = after' := by
  obtain ⟨fuel, run⟩ := first
  obtain ⟨fuel', run'⟩ := second
  have one := (p.exec_continued (Nat.le_max_left fuel fuel')).carries run
  have other := (p.exec_continued (Nat.le_max_right fuel fuel')).carries run'
  have same := Prod.ext_iff.mp (one.symm.trans other)
  exact ⟨Halt.of_mapError same.1, same.2⟩

/-- A run goes on for ever exactly if it has no end. -/
theorem diverges_iff_no_end :
    Diverges (p.exec host policy) m ↔
      ∀ result after, ¬ Ends (p.exec host policy) m result after := by
  constructor
  · rintro never result after ⟨fuel, run⟩
    have spent := never fuel
    rw [run] at spent
    exact Halt.mapError_ne_outOfFuel result spent
  · intro endless fuel
    rcases run : p.exec host policy fuel m with ⟨(_ | _) | _, after⟩
    · rename_i fault
      exact absurd ⟨fuel, run⟩ (endless (.error fault) after)
    · exact congrArg Prod.fst run
    · exact absurd ⟨fuel, run⟩ (endless (.ok ()) after)

end Program

end ArenaScript
