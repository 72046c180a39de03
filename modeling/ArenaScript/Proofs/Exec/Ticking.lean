import ArenaScript.Exec.Run
import ArenaScript.Proofs.Exec.Names
import ArenaScript.Proofs.Exec.Pairs
import ArenaScript.Proofs.Exec.Unrolling

/-! Runs of many ticks. What a tick does depends on the host and the variables only, not on the
ticks before it. So a run can be cut between any two ticks and taken up again with a new count, and
a program that is one loop is repeated by its ticks as the loop itself would repeat it. -/
namespace ArenaScript

open Attempt (Matches)

variable {σ : Type}

/-- The second machine is where the first one is, with this many deeds more behind it and a history
of its own. -/
structure Machine.TrailsBy (done : Nat) (m m' : Machine σ) : Prop where
  host : m.host = m'.host
  store : m.store = m'.store
  actions : m.actions + done = m'.actions

theorem Machine.TrailsBy.refl (m : Machine σ) : m.TrailsBy 0 m := ⟨rfl, rfl, rfl⟩

/-- What is behind a machine is not seen from a new start at the same place. -/
theorem Machine.TrailsBy.start (m : Machine σ) :
    (Machine.start m.host m.store).TrailsBy m.actions m :=
  ⟨rfl, rfl, Nat.zero_add _⟩

theorem stepsMatch_trailsBy (host : Host σ) (done : Nat) :
    StepsMatch host (fun _ => True) (fun _ => True) (Machine.TrailsBy done) where
  lookUp name m m' _ trails := by rw [trails.store]
  sense query m m' trails := by
    obtain ⟨state, store, actions⟩ := trails
    simp only [sense, state]
    exact ⟨trivial, rfl, store, actions⟩
  perform deed m m' trails := by
    refine ⟨congrArg (host.perform deed) trails.host, trails.store, ?_⟩
    have behind := trails.actions
    simp only [perform]
    omega
  assign name value m m' _ trails :=
    ⟨trails.host, congrArg (Store.set · name value) trails.store, trails.actions⟩

section Ticks

variable (host : Host σ) (policy : LoopPolicy) (fuel : Nat) (p : Program)

theorem exec_trailsBy (done : Nat) :
    Matches (Machine.TrailsBy done) (p.exec host policy fuel) (p.exec host policy fuel) :=
  Program.exec_matches (stepsMatch_trailsBy host done) (bodyWithin_true p.statements)

/-- The numbers that the ticks have make no difference. -/
theorem ticksFrom_trailsBy (done first first' n : Nat) :
    Matches (Machine.TrailsBy done) (ticksFrom host policy fuel p first n)
      (ticksFrom host policy fuel p first' n) := by
  apply ticksFrom_matches (exec_trailsBy host policy fuel p done)
  intro i m m' trails
  exact ⟨trails.host, trails.store, trails.actions⟩

theorem ticksFrom_add (first a b : Nat) :
    ticksFrom host policy fuel p first (a + b) =
      (ticksFrom host policy fuel p first a >>= fun _ =>
        ticksFrom host policy fuel p (first + a) b) := by
  induction a generalizing first with
  | zero =>
    rw [Nat.zero_add, Nat.add_zero]
    rfl
  | succ a ih =>
    have next : first + 1 + a = first + (a + 1) := by omega
    rw [Nat.succ_add, ticksFrom_succ, ticksFrom_succ, ih, next]
    simp only [bind_assoc]

/-- Ticks of a program are passes over it, but for what they write into the history. -/
theorem passes_trailsBy_ticksFrom (first n : Nat) :
    Matches (Machine.TrailsBy 0) (passes (p.exec host policy fuel) n)
      (ticksFrom host policy fuel p first n) := by
  induction n generalizing first with
  | zero => exact .pure ()
  | succ n ih =>
    rw [passes_succ, ticksFrom_succ]
    apply Matches.bind (exec_trailsBy host policy fuel p 0)
    intro _ m m' trails
    exact ih (first + 1) m _ ⟨trails.host, trails.store, trails.actions⟩

/-- Ticks that each count their own deeds from zero. The counts are summed up from `done` on. -/
def summedTicks : (n done : Nat) → (state : σ) → (store : Store) → Except Halt Nat × σ × Store
  | 0, done, state, store => (.ok done, state, store)
  | n + 1, done, state, store =>
    match p.exec host policy fuel (.start state store) with
    | (.ok (), m) => summedTicks n (done + m.actions) m.host m.store
    | (.error halt, m) => (.error halt, m.host, m.store)

/-- One count that runs on through the ticks is the sum of their own counts. -/
theorem summedTicks_eq_ticksFrom (first n : Nat) (m : Machine σ) :
    let run := ticksFrom host policy fuel p first n m
    summedTicks host policy fuel p n m.actions m.host m.store =
      (run.1.map fun _ => run.2.actions, run.2.host, run.2.store) := by
  induction n generalizing first m with
  | zero => rfl
  | succ n ih =>
    obtain ⟨r, last, final, alone, among, trails⟩ :=
      (exec_trailsBy host policy fuel p m.actions).both (.start m)
    cases r with
    | error halt =>
      simp only [summedTicks, ticksFrom, alone, among, trails.host, trails.store]
      rfl
    | ok =>
      have sum : m.actions + last.actions = final.actions := by
        rw [← trails.actions, Nat.add_comm]
      simp only [summedTicks, ticksFrom, alone, among, sum, trails.host, trails.store]
      exact ih (first + 1) { final with trace := .ticked first final.actions :: final.trace }

/-- So the report of a run is the one that the sum gives. -/
theorem Program.ticks_eq_summed (n : Nat) (state : σ) (store : Store) :
    let run := p.ticks host policy fuel n (.start state store)
    let summed := summedTicks host policy fuel p n 0 state store
    run.1 = summed.1.map (fun actions => ⟨n, actions, summed.2.2.toList⟩) ∧
      run.2.host = summed.2.1 ∧ run.2.store = summed.2.2 := by
  intro run summed
  have same : summed = _ := summedTicks_eq_ticksFrom host policy fuel p 0 n (.start state store)
  rcases ticked : ticksFrom host policy fuel p 0 n (.start state store) with ⟨halt | _, m⟩
  · have stopped : run = (.error halt, m) := Attempt.bind_error ticked
    rw [stopped, same, ticked]
    exact ⟨rfl, rfl, rfl⟩
  · have ended : run = (.ok ⟨n, m.actions, m.store.toList⟩, m) := Attempt.bind_ok ticked
    rw [ended, same, ticked]
    exact ⟨rfl, rfl, rfl⟩

/-- A program that is one loop, of which the ticks make the passes or the loop itself does. -/
theorem loop_trailsBy {body : Block} (free : loopFreeBody body = true) (k : Nat) :
    Matches (Machine.TrailsBy 0)
        (passes (execBody host .singlePass fuel body) k)
        (ticksFrom host .singlePass fuel ⟨[.loop body]⟩ 0 k) ∧
      Matches (Machine.TrailsBy 0)
        (passes (execBody host .singlePass fuel body) k)
        (ticksFrom host (.repeated (some k)) fuel ⟨[.loop body]⟩ 0 1) := by
  have single : Program.exec host .singlePass fuel ⟨[.loop body]⟩ =
      execBody host .singlePass fuel body := execBody_singleton host .singlePass fuel _
  have repeated : Program.exec host (.repeated (some k)) fuel ⟨[.loop body]⟩ =
      passes (execBody host .singlePass fuel body) k := by
    rw [execBody_of_loopFree host .singlePass fuel free k]
    exact execBody_singleton host (.repeated (some k)) fuel _
  have each := passes_trailsBy_ticksFrom host .singlePass fuel ⟨[.loop body]⟩ 0 k
  have once := passes_trailsBy_ticksFrom host (.repeated (some k)) fuel ⟨[.loop body]⟩ 0 1
  rw [single] at each
  rw [passes_one, repeated] at once
  exact ⟨each, once⟩

end Ticks

def Finished.ofTicks (n : Nat) (ticked : Except Halt Unit × Machine σ) : Finished σ :=
  ⟨ticked.1.map fun _ => ⟨n, ticked.2.actions, ticked.2.store.toList⟩, ticked.2⟩

/-- The run `whole` is the run `first` and, if that came to its end, the run `second` behind it. -/
def Finished.JoinedFrom (whole first second : Finished σ) : Prop :=
  match first.result with
  | .error halt =>
    whole.result = .error halt ∧ whole.machine.host = first.machine.host ∧
      whole.machine.store = first.machine.store
  | .ok before =>
    whole.machine.host = second.machine.host ∧ whole.machine.store = second.machine.store ∧
      match second.result with
      | .error halt => whole.result = .error halt
      | .ok later =>
        whole.result = .ok ⟨before.ticks + later.ticks, before.actions + later.actions,
          whole.machine.store.toList⟩

/-- The two runs came to the same, apart from the number of ticks that they report. -/
structure Finished.SameButTicks (x y : Finished σ) : Prop where
  host : x.machine.host = y.machine.host
  store : x.machine.store = y.machine.store
  actions : x.machine.actions = y.machine.actions
  result : (x.result.map fun r => (r.actions, r.vars)) = y.result.map fun r => (r.actions, r.vars)

theorem ticksFrom_joined (host : Host σ) (policy : LoopPolicy) (fuel : Nat) (p : Program)
    (a b : Nat) (m : Machine σ) :
    let cut := ticksFrom host policy fuel p 0 a m
    (Finished.ofTicks (a + b) (ticksFrom host policy fuel p 0 (a + b) m)).JoinedFrom
      (.ofTicks a cut)
      (.ofTicks b (ticksFrom host policy fuel p 0 b (.start cut.2.host cut.2.store))) := by
  intro cut
  rw [ticksFrom_add]
  rcases run : cut with ⟨halt | _, middle⟩
  · rw [Attempt.bind_error run]
    exact ⟨rfl, rfl, rfl⟩
  · rw [Attempt.bind_ok run]
    -- the second part starts a count of its own, behind the deeds of the first
    obtain ⟨r, last, final, second, whole, trails⟩ :=
      (ticksFrom_trailsBy host policy fuel p middle.actions 0 (0 + a) b).both (.start middle)
    rw [whole, second]
    cases r with
    | error halt => exact ⟨trails.host.symm, trails.store.symm, rfl⟩
    | ok =>
      have sum : final.actions = middle.actions + last.actions := by
        rw [← trails.actions, Nat.add_comm]
      refine ⟨trails.host.symm, trails.store.symm, ?_⟩
      simp only [Finished.ofTicks, Except.map, sum]

namespace Loaded

def after (l : Loaded) (run : Finished σ) : Loaded := { l with store := run.machine.store }

variable (host : Host σ) (fuel : Nat) (state : σ)

theorem run_eq_ofTicks (l : Loaded) (settings : RunSettings) :
    l.run host fuel settings state = .ofTicks settings.ticks
      (ticksFrom host settings.policy fuel l.program 0 settings.ticks (.start state l.store)) := by
  unfold Loaded.run Program.ticks
  rcases run : ticksFrom host settings.policy fuel l.program 0 settings.ticks
    (.start state l.store) with ⟨halt | _, m⟩
  · rw [Attempt.bind_error run]
    rfl
  · rw [Attempt.bind_ok run]
    rfl

theorem run_joined (l : Loaded) (settings : RunSettings) (a b : Nat) :
    let first := l.run host fuel { settings with ticks := a } state
    (l.run host fuel { settings with ticks := a + b } state).JoinedFrom first
      ((l.after first).run host fuel { settings with ticks := b } first.machine.host) := by
  intro first
  have begun : first = _ := run_eq_ofTicks host fuel state l { settings with ticks := a }
  rw [begun, run_eq_ofTicks, run_eq_ofTicks]
  exact ticksFrom_joined host settings.policy fuel l.program a b (.start state l.store)

theorem loop_run_same {body : Block} (free : loopFreeBody body = true) (store : Store)
    (origin : String) (k : Nat) :
    let l : Loaded := ⟨⟨[.loop body]⟩, store, origin⟩
    (l.run host fuel { ticks := k, policyName := .singlePass } state).SameButTicks
      (l.run host fuel { ticks := 1, policyName := .repeated, loopLimit := some k } state) := by
  intro l
  obtain ⟨each, once⟩ := loop_trailsBy host fuel free k
  obtain ⟨r, m, ticked, passed, run, trails⟩ := each.both (.refl (.start state store))
  obtain ⟨r', m', looped, passed', run', trails'⟩ := once.both (.refl (.start state store))
  cases passed.symm.trans passed'
  have actions : ticked.actions = looped.actions := by
    rw [← trails.actions, trails'.actions]
  have stores : ticked.store = looped.store := trails.store.symm.trans trails'.store
  have hosts : ticked.host = looped.host := trails.host.symm.trans trails'.host
  have single : l.run host fuel { ticks := k, policyName := .singlePass } state =
      .ofTicks k (r, ticked) :=
    (run_eq_ofTicks host fuel state l _).trans (congrArg (Finished.ofTicks k) run)
  have repeated : l.run host fuel
      { ticks := 1, policyName := .repeated, loopLimit := some k } state =
      .ofTicks 1 (r, looped) :=
    (run_eq_ofTicks host fuel state l _).trans (congrArg (Finished.ofTicks 1) run')
  rw [single, repeated]
  refine ⟨hosts, stores, actions, ?_⟩
  cases r with
  | error halt => rfl
  | ok => simp only [Finished.ofTicks, Except.map, actions, stores]

/-- A run of `a + b` ticks is a run of `a` ticks and, if that came to its end, a run of `b` ticks on
what it left: the same host and variables, the same reason to stop, and on success a report that
sums up the two. And for a program that is one loop without loops in it, `k` ticks of a single pass
come to the same as one tick in which the loop makes `k` passes. -/
theorem ticks_join_and_make_passes (host : Host σ) (fuel : Nat) (state : σ) :
    (∀ (l : Loaded) (settings : RunSettings) (a b : Nat),
      let first := l.run host fuel { settings with ticks := a } state
      (l.run host fuel { settings with ticks := a + b } state).JoinedFrom first
        ((l.after first).run host fuel { settings with ticks := b } first.machine.host)) ∧
    (∀ (body : Block) (store : Store) (origin : String) (k : Nat), loopFreeBody body = true →
      let l : Loaded := ⟨⟨[.loop body]⟩, store, origin⟩
      (l.run host fuel { ticks := k, policyName := .singlePass } state).SameButTicks
        (l.run host fuel { ticks := 1, policyName := .repeated, loopLimit := some k } state)) := by
  constructor
  · intro l settings a b
    exact run_joined host fuel state l settings a b
  · intro body store origin k free
    exact loop_run_same host fuel state free store origin k

/-- Each pass burns fuel and divides by what is left above one. -/
def thirst : Block :=
  [.act (.pace .move none),
    .assign "$x" (.op .div (.number 6) (.op .sub (.gauge .fuelLeft) (.number 1)))]

def thirsty : Loaded := ⟨⟨[.loop thirst]⟩, .ofList [("$x", 5)], "thirsty"⟩

theorem ticks_join_and_make_passes_thirsty :
    let state := Scripted.new { fuel := 3, fuelPerMove := 1 }
    let first := thirsty.run Scripted.host 1 { ticks := 1 } state
    let whole := thirsty.run Scripted.host 1 { ticks := 3 } state
    let looped := thirsty.run Scripted.host 1
      { ticks := 1, policyName := .repeated, loopLimit := some 3 } state
    first.result = .ok ⟨1, 1, [("$x", 6)]⟩ ∧
      whole.result = .error (.fault (.divisionByZero 6)) ∧ whole.machine.actions = 2 ∧
      whole.JoinedFrom first
        ((thirsty.after first).run Scripted.host 1 { ticks := 2 } first.machine.host) ∧
      whole.SameButTicks looped := by
  obtain ⟨joined, same⟩ :=
    ticks_join_and_make_passes Scripted.host 1 (Scripted.new { fuel := 3, fuelPerMove := 1 })
  have cut := joined thirsty {} 1 2
  dsimp only [Nat.reduceAdd] at cut ⊢
  refine ⟨by decide +kernel, by decide +kernel, by decide +kernel, cut, ?_⟩
  exact same thirst thirsty.store thirsty.origin 3 rfl

end Loaded

end ArenaScript
