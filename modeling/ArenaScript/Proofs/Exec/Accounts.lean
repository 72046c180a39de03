import ArenaScript.Proofs.Exec.Parts
import ArenaScript.Proofs.Exec.Ticking

/-! The accounts of a scripted host. Each action that a run executes is good for a number of deeds,
which its argument decides where the action stands. The log of the host grows by the deeds of all
these actions in order, the count of the run by their number, and nothing else changes either. -/
namespace ArenaScript

open Attempt (Keeps)

variable {σ : Type}

def Event.deed? : Event → Option Deed
  | .performed deed => some deed
  | .sensed _ _ => none
  | .assigned _ _ => none
  | .ticked _ _ => none

def Event.answer? : Event → Option (Query × Value)
  | .sensed query answer => some (query, answer)
  | .performed _ => none
  | .assigned _ _ => none
  | .ticked _ _ => none

def Machine.deeds (m : Machine σ) : List Deed := m.events.filterMap Event.deed?

def Machine.answers (m : Machine σ) : List (Query × Value) := m.events.filterMap Event.answer?

/-- The deeds of an action that is executed in this machine. An argument asks for as many as its
value, for none if the value is below one, and it asks for none if it has no value. -/
def Action.deeds (host : Host σ) (m : Machine σ) : Action → List Deed
  | .pace p none => [p.deed]
  | .pace p (some count) =>
    match (count.eval host m).1 with
    | .ok value => List.replicate (max value.toInt 0).toNat p.deed
    | .error _ => []
  | .order o => [o.deed]

/-- The machine in which an action acts: its argument, if there is one, was evaluated once. -/
def Action.weighed (host : Host σ) (m : Machine σ) : Action → Machine σ
  | .pace _ (some count) => (count.eval host m).2
  | .pace _ none => m
  | .order _ => m

def Part.deeds (host : Host σ) (m : Machine σ) : Part → List Deed
  | .act action => action.deeds host m
  | .test _ => []
  | .assign _ _ => []

def deedsOf (host : Host σ) (taken : List (Part × Machine σ)) : List Deed :=
  taken.flatMap fun step => step.1.deeds host step.2

theorem Machine.answers_perform (host : Host σ) (deed : Deed) (m : Machine σ) :
    (perform host deed m).answers = m.answers := by
  simp [answers, events, perform, Event.answer?]

theorem Machine.answers_performTimes (host : Host σ) (deed : Deed) (times : Nat) (m : Machine σ) :
    (performTimes host deed times m).answers = m.answers := by
  induction times generalizing m with
  | zero => rfl
  | succ times ih => rw [performTimes, ih, answers_perform]

theorem Action.exec_pace (host : Host σ) (p : Pace) (count : Expression) (m : Machine σ) :
    (Action.pace p (some count)).exec host m = match count.eval host m with
      | (.ok value, m₁) => (.ok (), performTimes host p.deed (max value.toInt 0).toNat m₁)
      | (.error fault, m₁) => (.error fault, m₁) := by
  have counted (value : Value) : (max value.toInt 0).toNat = value.toInt.toNat := by omega
  simp only [counted]
  rw [Action.exec, repeatCount, Attempt.bind_apply, Attempt.bind_apply]
  rcases count.eval host m with ⟨_ | _, _⟩ <;> rfl

theorem Action.answers_exec (host : Host σ) (a : Action) (m : Machine σ) :
    (a.exec host m).2.answers = (a.weighed host m).answers := by
  rcases a with ⟨p, _ | count⟩ | o
  · exact Machine.answers_performTimes host p.deed 1 m
  · rw [Action.exec_pace, Action.weighed]
    rcases count.eval host m with ⟨_ | value, m₁⟩
    · rfl
    · exact Machine.answers_performTimes host p.deed _ m₁
  · exact Machine.answers_perform host o.deed m

/-- From the first machine to the second these deeds were performed, as the log, the count and the
history show alike. -/
structure Machine.Adds (m : Machine Scripted) (deeds : List Deed) (m' : Machine Scripted) :
    Prop where
  log : m'.host.log = m.host.log ++ deeds
  actions : m'.actions = m.actions + deeds.length
  history : m'.deeds = m.deeds ++ deeds

namespace Machine.Adds

variable {m m₁ m₂ : Machine Scripted} {first second : List Deed}

theorem refl (m : Machine Scripted) : m.Adds [] m where
  log := (List.append_nil _).symm
  actions := rfl
  history := (List.append_nil _).symm

theorem trans (one : m.Adds first m₁) (other : m₁.Adds second m₂) : m.Adds (first ++ second) m₂ where
  log := by rw [other.log, one.log, List.append_assoc]
  actions := by rw [other.actions, one.actions, List.length_append, Nat.add_assoc]
  history := by rw [other.history, one.history, List.append_assoc]

/-- An event that tells of no deed, with the host and the count as they were. -/
theorem event (adds : m.Adds first m₁) {event : Event} (quiet : event.deed? = none)
    (host : m₂.host = m₁.host) (count : m₂.actions = m₁.actions)
    (traced : m₂.trace = event :: m₁.trace) : m.Adds first m₂ where
  log := by rw [host, adds.log]
  actions := by rw [count, adds.actions]
  history := by
    have kept : m₂.deeds = m₁.deeds := by simp [deeds, events, traced, quiet]
    rw [kept, adds.history]

theorem perform (adds : m.Adds first m₁) (deed : Deed) :
    m.Adds (first ++ [deed]) (perform Scripted.host deed m₁) := by
  apply adds.trans
  refine ⟨Scripted.log_perform deed m₁.host, rfl, ?_⟩
  simp [deeds, events, ArenaScript.perform, Event.deed?]

theorem performTimes (adds : m.Adds first m₁) (deed : Deed) (times : Nat) :
    m.Adds (first ++ List.replicate times deed) (performTimes Scripted.host deed times m₁) := by
  induction times generalizing first m₁ with
  | zero =>
    rw [List.replicate_zero, List.append_nil]
    exact adds
  | succ times ih =>
    have more := ih (adds.perform deed)
    rwa [List.append_assoc] at more

end Machine.Adds

/-- Evaluating adds nothing to the accounts. -/
theorem readsKeep_adds (m : Machine Scripted) (deeds : List Deed) :
    ReadsKeep Scripted.host (fun _ => True) (fun _ => True) (m.Adds deeds) where
  lookUp := by
    intro name _ m₁ adds
    unfold lookUp
    split
    · exact ⟨adds, nofun⟩
    · exact ⟨adds, fun _ _ => trivial⟩
  sense query m₁ adds := adds.event rfl rfl rfl rfl
  division _ := trivial

theorem Expression.eval_adds (e : Expression) (m : Machine Scripted) :
    m.Adds [] (e.eval Scripted.host m).2 := by
  have within : e.Within fun _ => True := Expression.within_of_names fun _ _ => trivial
  exact (Expression.eval_keeps (readsKeep_adds m []) within m (.refl m)).1

theorem Condition.eval_adds (c : Condition) (m : Machine Scripted) :
    m.Adds [] (c.eval Scripted.host m).2 := by
  have within : c.Within fun _ => True := Condition.within_of_names fun _ _ => trivial
  exact (Condition.eval_keeps (readsKeep_adds m []) within m (.refl m)).1

theorem Action.exec_adds (a : Action) (m : Machine Scripted) :
    m.Adds (a.deeds Scripted.host m) (a.exec Scripted.host m).2 := by
  rcases a with ⟨p, _ | count⟩ | o
  · exact (Machine.Adds.refl m).perform p.deed
  · -- the argument is evaluated before the first deed, and that leaves the accounts alone
    have quiet := count.eval_adds m
    rw [Action.exec_pace, Action.deeds]
    rcases run : count.eval Scripted.host m with ⟨fault | value, m₁⟩
    · rw [run] at quiet
      exact quiet
    · rw [run] at quiet
      exact quiet.performTimes p.deed _
  · exact (Machine.Adds.refl m).perform o.deed

theorem Part.after_adds (part : Part) (m : Machine Scripted) :
    m.Adds (part.deeds Scripted.host m) (part.after Scripted.host m) := by
  cases part with
  | test condition => exact condition.eval_adds m
  | act action => exact action.exec_adds m
  | assign name value =>
    have quiet := value.eval_adds m
    rw [Part.after, Attempt.bind_apply]
    rcases run : value.eval Scripted.host m with ⟨fault | v, m₁⟩
    · rw [run] at quiet
      exact quiet
    · rw [run] at quiet
      exact quiet.event rfl rfl rfl rfl

/-- The accounts of a run are the sum over the parts that it executed. -/
theorem Executed.adds {parts : List Part} {m m' : Machine Scripted}
    {taken : List (Part × Machine Scripted)}
    (executed : Executed Scripted.host parts m taken m') :
    m.Adds (deedsOf Scripted.host taken) m' := by
  induction executed with
  | nothing => exact .refl m
  | @next taken m₁ part before own ih =>
    -- the deeds of the last part stand behind those of all parts before it
    have more := ih.trans (part.after_adds m₁)
    simpa [deedsOf] using more

theorem Program.exec_adds (p : Program) (policy : LoopPolicy) (fuel : Nat) (m : Machine Scripted) :
    ∃ taken, Executed Scripted.host p.parts m taken (p.exec Scripted.host policy fuel m).2 ∧
      m.Adds (deedsOf Scripted.host taken) (p.exec Scripted.host policy fuel m).2 := by
  obtain ⟨taken, executed⟩ := p.exec_executed m
  exact ⟨taken, executed, executed.adds⟩

theorem ticksFrom_adds (p : Program) (policy : LoopPolicy) (fuel first n : Nat)
    (m : Machine Scripted) :
    ∃ deeds, m.Adds deeds (ticksFrom Scripted.host policy fuel p first n m).2 := by
  have each : Keeps (fun m' => ∃ deeds, m.Adds deeds m') (Halt.Allowed fun _ => True)
      (p.exec Scripted.host policy fuel) := by
    rintro m₁ ⟨deeds, adds⟩
    obtain ⟨taken, -, more⟩ := p.exec_adds policy fuel m₁
    exact ⟨⟨_, adds.trans more⟩, fun halt _ => by cases halt <;> trivial⟩
  -- the mark at the end of a tick is no deed
  refine (ticksFrom_keeps each ?_ first n m ⟨[], .refl m⟩).1
  rintro tick m₁ ⟨deeds, adds⟩
  exact ⟨deeds, adds.event rfl rfl rfl rfl⟩

theorem Finished.actions_of_result {n : Nat} {ticked : Except Halt Unit × Machine σ}
    {report : Report} (done : (Finished.ofTicks n ticked).result = .ok report) :
    report.actions = ticked.2.actions := by
  rcases ticked with ⟨halt | _, m⟩
  · cases done
  · cases done
    rfl

theorem Loaded.run_adds (l : Loaded) (settings : RunSettings) (fuel : Nat) (state : Scripted) :
    let run := l.run Scripted.host fuel settings state
    ∃ deeds, (Machine.start state l.store).Adds deeds run.machine ∧
      ∀ report, run.result = .ok report → report.actions = deeds.length := by
  intro run
  have ticked : run = _ := run_eq_ofTicks Scripted.host fuel state l settings
  obtain ⟨deeds, adds⟩ := ticksFrom_adds l.program settings.policy fuel 0 settings.ticks
    (.start state l.store)
  rw [ticked]
  refine ⟨deeds, adds, fun report done => ?_⟩
  rw [Finished.actions_of_result done, adds.actions]
  exact Nat.zero_add _

/-- A run of any program, however it ends, executes parts of the program one behind the other, and
the log of the host, the count and the history show the deeds of these and no others. An action has
the deeds that its argument asks for where the action stands, and reads no more than one evaluation
of the argument does. The report of a run of many ticks counts the deeds that the log has grown
by. -/
theorem log_and_count_show_deeds (policy : LoopPolicy) (fuel : Nat) :
    (∀ (p : Program) (m : Machine Scripted), ∃ taken,
      Executed Scripted.host p.parts m taken (p.exec Scripted.host policy fuel m).2 ∧
      m.Adds (deedsOf Scripted.host taken) (p.exec Scripted.host policy fuel m).2) ∧
    (∀ (a : Action) (m : Machine Scripted),
      let after := ((Statement.act a).exec Scripted.host policy fuel m).2
      m.Adds (a.deeds Scripted.host m) after ∧
        after.answers = (a.weighed Scripted.host m).answers) ∧
    (∀ (l : Loaded) (settings : RunSettings) (state : Scripted),
      let run := l.run Scripted.host fuel settings state
      ∃ deeds, (Machine.start state l.store).Adds deeds run.machine ∧
        ∀ report, run.result = .ok report → report.actions = deeds.length) := by
  refine ⟨fun p m => p.exec_adds policy fuel m, fun a m => ?_, fun l settings state => ?_⟩
  · have leaves : ((Statement.act a).exec Scripted.host policy fuel m).2 =
        (a.exec Scripted.host m).2 := Attempt.mapError_snd _ _ m
    rw [leaves]
    exact ⟨a.exec_adds m, a.answers_exec Scripted.host m⟩
  · exact l.run_adds settings fuel state

/-- The moves of a tick use up the fuel that says how many there are. -/
def errand : Loaded where
  program := ⟨[.act (.pace .move (some (.gauge .fuelLeft))), .act (.pace .wait (some (.number (-2)))),
    .act (.order .shieldOn)]⟩
  store := .empty
  origin := "errand"

theorem log_and_count_show_deeds_errand :
    let state := { Scripted.new { fuel := 3, fuelPerMove := 1 } with logged := [.takeFuel] }
    let run := errand.run Scripted.host 1 { ticks := 2 } state
    run.result = .ok ⟨2, 5, []⟩ ∧
      run.machine.host.log =
        [.takeFuel, .move, .move, .move, .shield true, .shield true] ∧
      ∃ deeds, run.machine.host.log = state.log ++ deeds ∧ 5 = deeds.length := by
  intro state run
  have done : run.result = .ok ⟨2, 5, []⟩ := by decide +kernel
  obtain ⟨deeds, adds, counted⟩ :=
    (log_and_count_show_deeds .singlePass 1).2.2 errand { ticks := 2 } state
  exact ⟨done, by decide +kernel, deeds, adds.log, counted _ done⟩

end ArenaScript
