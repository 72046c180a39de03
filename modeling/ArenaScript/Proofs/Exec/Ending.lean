import ArenaScript.Proofs.Exec.Parts
import ArenaScript.Proofs.Exec.Ticking

/-! Which runs come to an end. Where a policy limits the passes of a loop, the tree of a program
without `while` bounds what a run of it can execute, so every such run ends and no fuel is needed to
see it end. A loop without a limit never ends by itself: what stops it is a fault in one of its
passes. -/
namespace ArenaScript

variable {σ α β : Type}

mutual

def Statement.whilstFree : Statement → Bool
  | .loop body => whilstFreeBody body
  | .choose chain => chain.whilstFree
  | .whilst _ _ => false
  | .assign _ _ => true
  | .act _ => true

def Chain.whilstFree : Chain → Bool
  | .done => true
  | .otherwise body => whilstFreeBody body
  | .branch _ body rest => whilstFreeBody body && rest.whilstFree

def whilstFreeBody : List Statement → Bool
  | [] => true
  | s :: rest => s.whilstFree && whilstFreeBody rest

end

def Program.whilstFree (p : Program) : Bool := whilstFreeBody p.statements

/-- The number of passes that each loop gets, if there is a limit. -/
def LoopPolicy.limit? : LoopPolicy → Option Nat
  | .singlePass => some 1
  | .repeated limit => limit

mutual

/-- The most tests, assignments and actions that are executed where each loop makes at most `limit`
passes. A `while` counts as one pass. -/
def Statement.work (limit : Nat) : Statement → Nat
  | .loop body => limit * bodyWork limit body
  | .choose chain => chain.work limit
  | .whilst _ body => 1 + bodyWork limit body
  | .assign _ _ => 1
  | .act _ => 1

def Chain.work (limit : Nat) : Chain → Nat
  | .done => 0
  | .otherwise body => bodyWork limit body
  | .branch _ body rest => 1 + max (bodyWork limit body) (rest.work limit)

def bodyWork (limit : Nat) : List Statement → Nat
  | [] => 0
  | s :: rest => s.work limit + bodyWork limit rest

end

def Program.work (limit : Nat) (p : Program) : Nat := bodyWork limit p.statements

/-- From every machine the run ends before its fuel does, and then it has executed at most `bound`
of these parts. -/
def Settles (host : Host σ) (parts : List Part) (bound : Nat) (x : Exec σ α) : Prop :=
  ∀ m, (x m).1 ≠ .error .outOfFuel ∧
    ∃ taken, Executed host parts m taken (x m).2 ∧ taken.length ≤ bound

namespace Settles

variable {host : Host σ} {parts : List Part} {bound bound' : Nat} {x : Exec σ α}
  {f : α → Exec σ β}

theorem pure (a : α) : Settles host parts 0 (Pure.pure a : Exec σ α) :=
  fun _ => ⟨nofun, [], .nothing, Nat.le_refl 0⟩

theorem mono (settles : Settles host parts bound x) (more : bound ≤ bound') :
    Settles host parts bound' x := by
  intro m
  obtain ⟨ended, taken, executed, few⟩ := settles m
  exact ⟨ended, taken, executed, Nat.le_trans few more⟩

theorem bind (first : Settles host parts bound x) (second : ∀ a, Settles host parts bound' (f a)) :
    Settles host parts (bound + bound') (x >>= f) := by
  intro m
  obtain ⟨ended, taken, executed, few⟩ := first m
  rcases run : x m with ⟨halt | a, m₁⟩
  · rw [run] at ended executed
    rw [Attempt.bind_error run]
    exact ⟨by simpa using ended, taken, executed, by omega⟩
  · rw [run] at executed
    rw [Attempt.bind_ok run]
    obtain ⟨ended', taken', executed', few'⟩ := second a m₁
    refine ⟨ended', taken ++ taken', executed.trans executed', ?_⟩
    rw [List.length_append]
    omega

theorem part {x : Eval σ α} {part : Part} (own : part ∈ parts)
    (leaves : ∀ m, (x m).2 = part.after host m) :
    Settles host parts 1 (Attempt.mapError Halt.fault x) := by
  intro m
  rw [Attempt.mapError_fst, Attempt.mapError_snd, leaves]
  refine ⟨Halt.mapError_ne_outOfFuel _, [(part, m)], ?_, Nat.le_refl 1⟩
  exact Executed.nothing.next own

theorem passes {body : Exec σ Unit} (each : Settles host parts bound body) (limit : Nat) :
    Settles host parts (limit * bound) (passes body limit) := by
  induction limit with
  | zero =>
    rw [Nat.zero_mul]
    exact .pure ()
  | succ limit ih =>
    rw [passes_succ, Nat.succ_mul, Nat.add_comm]
    exact each.bind fun _ => ih

theorem loop {policy : LoopPolicy} {limit : Nat} {body : Exec σ Unit}
    (granted : policy.limit? = some limit) (fuel : Nat) (each : Settles host parts bound body) :
    Settles host parts (limit * bound) (policy.run fuel body) := by
  rcases policy with _ | _ | n
  · cases granted
    rw [Nat.one_mul]
    exact each
  · cases granted
  · cases granted
    exact each.passes limit

end Settles

section Runs

variable {host : Host σ} {policy : LoopPolicy} {limit fuel : Nat} {parts : List Part}

mutual

theorem Statement.exec_settles (granted : policy.limit? = some limit) (s : Statement)
    (free : s.whilstFree = true) (own : ∀ part ∈ s.parts, part ∈ parts) :
    Settles host parts (s.work limit) (s.exec host policy fuel) := by
  match s with
  | .loop body => exact .loop granted fuel (execBody_settles granted body free own)
  | .choose chain => exact Chain.exec_settles granted chain free own
  | .whilst _ _ => cases free
  | .assign name value =>
    rw [Statement.exec_assign]
    exact .part (own _ List.mem_cons_self) fun _ => rfl
  | .act action => exact .part (own _ List.mem_cons_self) fun _ => rfl

theorem Chain.exec_settles (granted : policy.limit? = some limit) (c : Chain)
    (free : c.whilstFree = true) (own : ∀ part ∈ c.parts, part ∈ parts) :
    Settles host parts (c.work limit) (c.exec host policy fuel) := by
  match c with
  | .done => exact .pure ()
  | .otherwise body => exact execBody_settles granted body free own
  | .branch test body rest =>
    obtain ⟨freeBody, freeRest⟩ := Bool.and_eq_true_iff.mp free
    obtain ⟨guard, others⟩ := List.forall_mem_cons.mp own
    obtain ⟨inside, later⟩ := List.forall_mem_append.mp others
    apply Settles.bind (.part guard fun _ => rfl)
    -- one of the two is executed, so the larger one bounds both
    intro decided
    cases decided
    · exact (Chain.exec_settles granted rest freeRest later).mono (Nat.le_max_right _ _)
    · exact (execBody_settles granted body freeBody inside).mono (Nat.le_max_left _ _)

theorem execBody_settles (granted : policy.limit? = some limit) (body : List Statement)
    (free : whilstFreeBody body = true) (own : ∀ part ∈ bodyParts body, part ∈ parts) :
    Settles host parts (bodyWork limit body) (execBody host policy fuel body) := by
  match body with
  | [] => exact .pure ()
  | s :: rest =>
    obtain ⟨freeFirst, freeRest⟩ := Bool.and_eq_true_iff.mp free
    obtain ⟨first, others⟩ := List.forall_mem_append.mp own
    exact (Statement.exec_settles granted s freeFirst first).bind fun _ =>
      execBody_settles granted rest freeRest others

end

/-- What was seen to end without fuel does the same with any. -/
theorem ends_of_continued (x : Nat → Exec σ α) {m : Machine σ}
    (continued : ∀ fuel, ContinuedBy (x 0) (x fuel)) (ended : (x 0 m).1 ≠ .error .outOfFuel) :
    ∃ result after, ∀ fuel, x fuel m = (Except.mapError Halt.fault result, after) := by
  rcases run : x 0 m with ⟨(fault | _) | a, after⟩
  · refine ⟨.error fault, after, fun fuel => ?_⟩
    rw [continued fuel m ended, run]
    rfl
  · rw [run] at ended
    exact absurd rfl ended
  · refine ⟨.ok a, after, fun fuel => ?_⟩
    rw [continued fuel m ended, run]
    rfl

variable {p : Program}

theorem Program.exec_settles (granted : policy.limit? = some limit) (free : p.whilstFree = true) :
    Settles host p.parts (p.work limit) (p.exec host policy fuel) :=
  execBody_settles granted p.statements free fun _ own => own

theorem Program.exec_ends (granted : policy.limit? = some limit) (free : p.whilstFree = true)
    (m : Machine σ) :
    ∃ result after, (∀ fuel, p.exec host policy fuel m = (Except.mapError .fault result, after)) ∧
      ∃ taken, Executed host p.parts m taken after ∧ taken.length ≤ p.work limit := by
  obtain ⟨ended, taken, executed, few⟩ := @exec_settles σ host policy limit 0 p granted free m
  obtain ⟨result, after, always⟩ := ends_of_continued (p.exec host policy)
    (fun fuel => p.exec_continued (Nat.zero_le fuel)) ended
  rw [always 0] at executed
  exact ⟨result, after, always, taken, executed, few⟩

theorem ticksFrom_continued {fuel' : Nat} (more : fuel ≤ fuel') (first n : Nat) :
    ContinuedBy (ticksFrom host policy fuel p first n) (ticksFrom host policy fuel' p first n) := by
  induction n generalizing first with
  | zero => exact .refl _
  | succ n ih =>
    rw [ticksFrom_succ, ticksFrom_succ]
    apply ContinuedBy.bind (p.exec_continued more)
    intro _
    exact (ContinuedBy.refl _).bind fun _ => ih (first + 1)

theorem ticksFrom_ne_outOfFuel (ended : ∀ m, (p.exec host policy fuel m).1 ≠ .error .outOfFuel)
    (first n : Nat) (m : Machine σ) :
    (ticksFrom host policy fuel p first n m).1 ≠ .error .outOfFuel := by
  induction n generalizing first m with
  | zero => exact nofun
  | succ n ih =>
    have here := ended m
    rw [ticksFrom]
    rcases run : p.exec host policy fuel m with ⟨halt | _, m₁⟩
    · rw [run] at here
      exact here
    · exact ih (first + 1) _

theorem Loaded.run_ends {l : Loaded} {settings : RunSettings}
    (granted : settings.policy.limit? = some limit) (free : l.program.whilstFree = true)
    (state : σ) :
    ∃ result after, ∀ fuel,
      l.run host fuel settings state = ⟨Except.mapError .fault result, after⟩ := by
  have ended := ticksFrom_ne_outOfFuel
    (fun m => (@Program.exec_settles σ host _ _ 0 _ granted free m).1) 0 settings.ticks
    (.start state l.store)
  obtain ⟨result, after, always⟩ := ends_of_continued
    (fun fuel => ticksFrom host settings.policy fuel l.program 0 settings.ticks)
    (fun fuel => ticksFrom_continued (Nat.zero_le fuel) 0 settings.ticks) ended
  refine ⟨result.map fun _ => ⟨settings.ticks, after.actions, after.store.toList⟩, after, ?_⟩
  intro fuel
  rw [run_eq_ofTicks, always]
  cases result with
  | error | ok => rfl

section Endless

variable {body : Exec σ Unit} {m after : Machine σ} {fault : Fault}

theorem forever_ne_ok (body : Exec σ Unit) (fuel : Nat) (m after : Machine σ) :
    forever body fuel m ≠ (.ok (), after) := by
  induction fuel generalizing m with
  | zero => exact nofun
  | succ fuel ih =>
    rw [forever_succ]
    intro ended
    obtain ⟨_, m₁, -, later⟩ := Attempt.bind_eq_ok.mp ended
    exact ih m₁ later

/-- A fault that stops the loop is a fault of the pass behind those that were completed. -/
theorem forever_eq_fault :
    forever body fuel m = (.error (.fault fault), after) ↔
      ∃ k m₁, k < fuel ∧ passes body k m = (.ok (), m₁) ∧
        body m₁ = (.error (.fault fault), after) := by
  induction fuel generalizing m with
  | zero =>
    constructor
    · exact nofun
    · rintro ⟨k, m₁, none, -⟩
      exact absurd none (Nat.not_lt_zero k)
  | succ fuel ih =>
    rw [forever_succ, Attempt.bind_eq_error]
    constructor
    · rintro (here | ⟨_, m₁, first, later⟩)
      · exact ⟨0, m, Nat.succ_pos fuel, rfl, here⟩
      · obtain ⟨k, m₂, less, made, stopped⟩ := ih.mp later
        refine ⟨k + 1, m₂, Nat.succ_lt_succ less, ?_, stopped⟩
        rw [passes_succ, Attempt.bind_ok first, made]
    · rintro ⟨_ | k, m₁, less, made, stopped⟩
      · cases made
        exact .inl stopped
      · rw [passes_succ] at made
        obtain ⟨_, m₂, first, others⟩ := Attempt.bind_eq_ok.mp made
        exact .inr ⟨(), m₂, first, ih.mpr ⟨k, m₁, Nat.lt_of_succ_lt_succ less, others, stopped⟩⟩

end Endless

/-- Without a limit, a loop ends in a fault exactly where some pass has it and all passes before it
were completed. -/
theorem loop_ends_fault_iff (body : Block) (m : Machine σ) (fault : Fault) (after : Machine σ) :
    Ends ((Statement.loop body).exec host (.repeated none)) m (.error fault) after ↔
      ∃ k m₁,
        Ends (fun fuel => passes (execBody host (.repeated none) fuel body) k) m (.ok ()) m₁ ∧
        Ends (execBody host (.repeated none) · body) m₁ (.error fault) after := by
  constructor
  · rintro ⟨fuel, run⟩
    obtain ⟨k, m₁, -, made, stopped⟩ := forever_eq_fault.mp run
    exact ⟨k, m₁, ⟨fuel, made⟩, ⟨fuel, stopped⟩⟩
  · rintro ⟨k, m₁, ⟨fuel, made⟩, ⟨fuel', stopped⟩⟩
    -- enough for the passes, for the fault in the last one and for their number
    let enough := max (max fuel fuel') (k + 1)
    have each := @execBody_continued σ host (.repeated none) fuel enough body (by omega)
    have last := @execBody_continued σ host (.repeated none) fuel' enough body (by omega)
    refine ⟨enough, forever_eq_fault.mpr ⟨k, m₁, by omega, ?_, last.carries stopped⟩⟩
    exact (passes_continued each k).carries made

end Runs

/-- Only a `while` and a loop without a limit can keep a run from ending. Where each loop has a
limit, a run of a program without `while` has one outcome, whatever the fuel, and executes no more
parts than the tree and the limit allow. A run of any number of ticks has one outcome as well. A
loop without a limit never comes to its end: it stops exactly if a pass has a fault and all passes
before it were completed. -/
theorem ends_without_whilst_under_limit (host : Host σ) :
    (∀ (p : Program) (policy : LoopPolicy) (limit : Nat) (m : Machine σ),
      policy.limit? = some limit → p.whilstFree = true →
      ∃ (result : Except Fault Unit) (after : Machine σ),
        (∀ fuel, p.exec host policy fuel m = (result.mapError .fault, after)) ∧
        ∃ taken, Executed host p.parts m taken after ∧ taken.length ≤ p.work limit) ∧
    (∀ (l : Loaded) (settings : RunSettings) (limit : Nat) (state : σ),
      settings.policy.limit? = some limit → l.program.whilstFree = true →
      ∃ (result : Except Fault Report) (after : Machine σ),
        ∀ fuel, l.run host fuel settings state = ⟨result.mapError .fault, after⟩) ∧
    (∀ (body : Block) (m : Machine σ),
      (∀ after, ¬ Ends ((Statement.loop body).exec host (.repeated none)) m (.ok ()) after) ∧
      ∀ fault after,
        Ends ((Statement.loop body).exec host (.repeated none)) m (.error fault) after ↔
        ∃ k m₁,
          Ends (fun fuel => passes (execBody host (.repeated none) fuel body) k) m (.ok ()) m₁ ∧
          Ends (execBody host (.repeated none) · body) m₁ (.error fault) after) := by
  refine ⟨fun p policy limit m granted free => p.exec_ends granted free m,
    fun l settings limit state granted free => l.run_ends granted free state,
    fun body m => ⟨?_, loop_ends_fault_iff body m⟩⟩
  rintro after ⟨fuel, run⟩
  exact forever_ne_ok _ fuel m after run

theorem ends_without_whilst_under_limit_thirsty :
    let program := Loaded.thirsty.program
    let state := Scripted.new { fuel := 3, fuelPerMove := 1 }
    let start := Machine.start state Loaded.thirsty.store
    program.whilstFree = true ∧ program.work 3 = 6 ∧
      (∃ after, ∀ fuel, program.exec Scripted.host (.repeated (some 3)) fuel start =
        (.error (.fault (.divisionByZero 6)), after)) ∧
      (∃ result after, ∀ fuel, Loaded.thirsty.run Scripted.host fuel { ticks := 2 } state =
        ⟨Except.mapError .fault result, after⟩) ∧
      ∃ after, Ends ((Statement.loop Loaded.thirst).exec Scripted.host (.repeated none)) start
        (.error (.divisionByZero 6)) after := by
  intro program state start
  obtain ⟨limited, ticked, endless⟩ := ends_without_whilst_under_limit Scripted.host
  obtain ⟨result, after, always, -⟩ := limited program (.repeated (some 3)) 3 start rfl rfl
  have fails : (program.exec Scripted.host (.repeated (some 3)) 0 start).1 =
      .error (.fault (.divisionByZero 6)) := by decide +kernel
  rw [always 0] at fails
  refine ⟨rfl, rfl, ⟨after, fun fuel => (always fuel).trans (Prod.ext fails rfl)⟩,
    ticked Loaded.thirsty { ticks := 2 } 1 state rfl rfl, ?_⟩
  -- the first pass leaves fuel for one more, which divides by zero
  let pass (fuel : Nat) := execBody Scripted.host (.repeated none) fuel Loaded.thirst
  let once (fuel : Nat) := passes (pass fuel) 1
  have made : (once 0 start).1 = Except.mapError .fault (.ok ()) := by decide +kernel
  have stopped : (pass 0 (once 0 start).2).1 =
      Except.mapError .fault (.error (.divisionByZero 6)) := by decide +kernel
  exact ⟨_, ((endless Loaded.thirst start).2 _ _).mpr
    ⟨1, _, .of_result once 0 made, .of_result pass 0 stopped⟩⟩

end ArenaScript
