import ArenaScript.Proofs.Exec.Ticking

/-! What a run cannot see. A scripted host answers from its readings and its fuel, so its log and its
shield are written and never read. Two runs that differ in these alone do the same, and a deed that
sets the shield makes the shields the same as well. -/
namespace ArenaScript

namespace Scripted

/-- Since they were `a` and `b`, the two hosts have performed these deeds, and they answer alike. -/
structure SameSince (a b : Scripted) (deeds : List Deed) (h h' : Scripted) : Prop where
  readings : h.readings = h'.readings
  fuel : h.fuel = h'.fuel
  log : h.log = a.log ++ deeds
  otherLog : h'.log = b.log ++ deeds
  shield : (∃ on, .shield on ∈ deeds) → h.shield = h'.shield

variable {a b h h' : Scripted} {deeds : List Deed}

theorem SameSince.start (readings : a.readings = b.readings) (fuel : a.fuel = b.fuel) :
    SameSince a b [] a b where
  readings := readings
  fuel := fuel
  log := (List.append_nil _).symm
  otherLog := (List.append_nil _).symm
  shield := by rintro ⟨on, ⟨⟩⟩

theorem SameSince.read_eq (same : SameSince a b deeds h h') (query : Query) :
    h.read query = h'.read query := by
  unfold read
  rw [same.fuel, same.readings]

theorem SameSince.perform (same : SameSince a b deeds h h') (deed : Deed) :
    SameSince a b (deeds ++ [deed]) (perform deed h) (perform deed h') where
  readings := by simp only [perform_eq, same.readings]
  fuel := by simp only [perform_eq, same.fuel, same.readings]
  log := by rw [log_perform, same.log, List.append_assoc]
  otherLog := by rw [log_perform, same.otherLog, List.append_assoc]
  shield := by
    rw [perform_eq, perform_eq]
    rintro ⟨on, held⟩
    cases deed with
    | shield now => rfl
    | move | turnLeft | turnRight | turnAround | takeFuel | idleWait =>
      have earlier : Deed.shield on ∈ deeds := by simpa using held
      exact same.shield ⟨on, earlier⟩

end Scripted

/-- The machines are at the same place of the same run, on hosts that were `a` and `b` before it. -/
structure Machine.SameView (a b : Scripted) (m m' : Machine Scripted) : Prop where
  hosts : ∃ deeds, Scripted.SameSince a b deeds m.host m'.host
  store : m.store = m'.store
  actions : m.actions = m'.actions
  trace : m.trace = m'.trace

theorem stepsMatch_sameView (a b : Scripted) :
    StepsMatch Scripted.host (fun _ => True) (fun _ => True) (Machine.SameView a b) where
  lookUp name m m' _ view := by rw [view.store]
  sense query m m' view := by
    -- the answer depends on the readings and the fuel, which the hosts have in common
    obtain ⟨⟨deeds, same⟩, store, actions, trace⟩ := view
    have answer := same.read_eq query
    refine ⟨congrArg Except.ok answer, ⟨deeds, same⟩, store, actions, ?_⟩
    simp only [sense, Scripted.host, answer, trace]
  perform deed m m' view := by
    obtain ⟨⟨deeds, same⟩, store, actions, trace⟩ := view
    exact ⟨⟨deeds ++ [deed], same.perform deed⟩, store, congrArg (· + 1) actions,
      congrArg (Event.performed deed :: ·) trace⟩
  assign name value m m' _ view :=
    ⟨view.hosts, congrArg (Store.set · name value) view.store, view.actions,
      congrArg (Event.assigned name value :: ·) view.trace⟩

theorem ticksFrom_sameView (a b : Scripted) (policy : LoopPolicy) (fuel : Nat) (p : Program)
    (first n : Nat) :
    Attempt.Matches (Machine.SameView a b) (ticksFrom Scripted.host policy fuel p first n)
      (ticksFrom Scripted.host policy fuel p first n) := by
  apply ticksFrom_matches
    (Program.exec_matches (stepsMatch_sameView a b) (bodyWithin_true p.statements))
  intro i m m' view
  refine ⟨view.hosts, view.store, view.actions, ?_⟩
  simp only [view.actions, view.trace]

namespace Loaded

/-- Two hosts with the same readings and the same fuel, whatever their logs and shields are, see a
program run alike: with the same result, the same variables, the same history and the same fuel at
the end. Both logs grow by the same deeds, and if one of these sets the shield, both shields end up
the same. -/
theorem run_ignores_log_and_shield (l : Loaded) (settings : RunSettings) (fuel : Nat)
    (a b : Scripted) (readings : a.readings = b.readings) (level : a.fuel = b.fuel) :
    let one := l.run Scripted.host fuel settings a
    let other := l.run Scripted.host fuel settings b
    one.result = other.result ∧ one.machine.store = other.machine.store ∧
    one.machine.events = other.machine.events ∧
    one.machine.host.fuel = other.machine.host.fuel ∧
    ∃ deeds, one.machine.host.log = a.log ++ deeds ∧ other.machine.host.log = b.log ++ deeds ∧
      ((∃ on, .shield on ∈ deeds) → one.machine.host.shield = other.machine.host.shield) := by
  intro one other
  have begun : (Machine.start a l.store).SameView a b (.start b l.store) :=
    ⟨⟨[], .start readings level⟩, rfl, rfl, rfl⟩
  obtain ⟨r, m, m', run, run', view⟩ :=
    (ticksFrom_sameView a b settings.policy fuel l.program 0 settings.ticks).both begun
  have left : one = .ofTicks settings.ticks (r, m) :=
    (run_eq_ofTicks Scripted.host fuel a l settings).trans (congrArg _ run)
  have right : other = .ofTicks settings.ticks (r, m') :=
    (run_eq_ofTicks Scripted.host fuel b l settings).trans (congrArg _ run')
  obtain ⟨⟨deeds, same⟩, store, actions, trace⟩ := view
  rw [left, right]
  refine ⟨?_, store, congrArg List.reverse trace, same.fuel, deeds, same.log, same.otherLog,
    same.shield⟩
  simp only [Finished.ofTicks, store, actions]

/-- It moves as far as its fuel goes, sets the shield on the way, and fails in the second tick. -/
def daring : Loaded where
  program := ⟨[.act (.order .shieldOn), .act (.pace .move (some (.gauge .fuelLeft))),
    .assign "$x" (.op .div (.number 6) (.var "$x"))]⟩
  store := .ofList [("$x", 13)]
  origin := "daring"

def shielded : Scripted :=
  { Scripted.new { fuel := 2, fuelPerMove := 1 } with
    shield := true
    logged := [.move, .shield true] }

theorem run_ignores_log_and_shield_daring :
    let unused := Scripted.new shielded.readings
    let one := daring.run Scripted.host 1 { ticks := 3 } unused
    let other := daring.run Scripted.host 1 { ticks := 3 } shielded
    unused.fuel = shielded.fuel ∧ unused.log ≠ shielded.log ∧ unused.shield ≠ shielded.shield ∧
      one.result = .error (.fault (.divisionByZero 6)) ∧ one.result = other.result ∧
      one.machine.store = other.machine.store ∧
      ∃ deeds, one.machine.host.log = unused.log ++ deeds ∧
        other.machine.host.log = shielded.log ++ deeds ∧
        ((∃ on, .shield on ∈ deeds) → one.machine.host.shield = other.machine.host.shield) := by
  obtain ⟨result, store, -, -, logs⟩ := run_ignores_log_and_shield daring { ticks := 3 } 1
    (Scripted.new shielded.readings) shielded rfl rfl
  exact ⟨rfl, by decide, by decide, by decide +kernel, result, store, logs⟩

end Loaded

end ArenaScript
