import ArenaScript.Host.Scripted
import ArenaScript.Proofs.Exec.Names
import ArenaScript.Proofs.Exec.Pairs

/-! What a run needs of its variables and what it does to them. Two runs of a program whose
variables agree on the names it mentions cannot be told apart by the host, and a run leaves alone
every name that the program does not assign. Both hold however the run ends. -/
namespace ArenaScript

variable {σ : Type}

/-- The machines differ at most in variables with other names than these. -/
structure Machine.AgreesOn (names : List String) (m m' : Machine σ) : Prop where
  host : m.host = m'.host
  actions : m.actions = m'.actions
  trace : m.trace = m'.trace
  store : ∀ name ∈ names, m.store.get? name = m'.store.get? name

theorem stepsMatch_agreesOn (host : Host σ) (names : List String) :
    StepsMatch host (· ∈ names) (· ∈ names) (Machine.AgreesOn names) where
  lookUp name m m' mentioned agree := agree.store name mentioned
  sense query m m' agree := by
    -- the host answers alike because its state is the same
    obtain ⟨state, actions, trace, store⟩ := agree
    simp only [sense, state, trace]
    exact ⟨trivial, rfl, actions, rfl, store⟩
  perform deed m m' agree :=
    ⟨congrArg (host.perform deed) agree.host, congrArg (· + 1) agree.actions,
      congrArg (Event.performed deed :: ·) agree.trace, agree.store⟩
  assign name value m m' mentioned agree := by
    refine ⟨agree.host, agree.actions, congrArg (Event.assigned name value :: ·) agree.trace, ?_⟩
    intro other held
    simp only [assign, Store.get?_set, agree.store other held]

/-- Every other name has the binding that it has in `store`, or none as there. -/
def Machine.SparesOutside (names : List String) (store : Store) (m : Machine σ) : Prop :=
  ∀ name, name ∉ names → m.store.get? name = store.get? name

theorem stepsKeep_sparesOutside (host : Host σ) (names : List String) (store : Store) :
    StepsKeep host (fun _ => True) (· ∈ names) (fun _ => True)
      (Machine.SparesOutside names store) where
  lookUp := by
    intro name _ m spared
    unfold lookUp
    split
    · exact ⟨spared, nofun⟩
    · exact ⟨spared, fun _ _ => trivial⟩
  sense query m spared := spared
  perform deed m spared := spared
  assign := by
    intro name value m assigned spared other outside
    have apart : other ≠ name := by
      rintro rfl
      exact outside assigned
    simp only [assign, Store.get?_set, if_neg apart]
    exact spared other outside
  tick first m spared := spared
  division dividend := trivial

namespace Program

variable {p : Program} {host : Host σ} {policy : LoopPolicy} {fuel : Nat}

theorem exec_agreesOn {m m' : Machine σ} (agree : m.AgreesOn p.names m') :
    (p.exec host policy fuel m).1 = (p.exec host policy fuel m').1 ∧
      (p.exec host policy fuel m).2.AgreesOn p.names (p.exec host policy fuel m').2 := by
  have within : bodyWithin (· ∈ p.names) (· ∈ p.names) p.statements :=
    bodyWithin_of_names p.statements (fun _ held => held) fun _ held =>
      mem_bodyNames_of_targets p.statements held
  exact exec_matches (stepsMatch_agreesOn host p.names) within m m' agree

theorem exec_sparesOutside (m : Machine σ) :
    (p.exec host policy fuel m).2.SparesOutside p.targets m.store := by
  have within : bodyWithin (fun _ => True) (· ∈ p.targets) p.statements :=
    bodyWithin_of_names p.statements (fun _ _ => trivial) fun _ held => held
  exact (exec_keeps (stepsKeep_sparesOutside host p.targets m.store) within m fun _ _ => rfl).1

/-- Started with variables that agree on the names a program mentions, two runs of it have the same
outcome with any fuel, make the same calls of the host and perform the same number of deeds, and
their variables agree on these names at the end. A name that the program does not assign keeps its
binding, or stays without one. -/
theorem exec_touches_only_names (p : Program) (host : Host σ) (policy : LoopPolicy) (fuel : Nat)
    (m : Machine σ) (first second : Store)
    (agree : ∀ name ∈ p.names, first.get? name = second.get? name) :
    let one := p.exec host policy fuel { m with store := first }
    let other := p.exec host policy fuel { m with store := second }
    one.1 = other.1 ∧ one.2.events = other.2.events ∧ one.2.host = other.2.host ∧
    one.2.actions = other.2.actions ∧
    (∀ name ∈ p.names, one.2.store.get? name = other.2.store.get? name) ∧
    ∀ name, name ∉ p.targets →
      one.2.store.get? name = first.get? name ∧ other.2.store.get? name = second.get? name := by
  intro one other
  have alike : ({ m with store := first } : Machine σ).AgreesOn p.names
      { m with store := second } :=
    ⟨rfl, rfl, rfl, agree⟩
  obtain ⟨same, after⟩ := @exec_agreesOn σ p host policy fuel _ _ alike
  refine ⟨same, congrArg List.reverse after.trace, after.host, after.actions, after.store, ?_⟩
  intro name outside
  exact ⟨exec_sparesOutside { m with store := first } name outside,
    exec_sparesOutside { m with store := second } name outside⟩

/-- It counts down by a fuel reading, then divides by what is left. -/
def countdown : Program where
  statements := [
    .whilst (.compare .gt (.var "$n") (.number 0))
      [.act (.pace .move none), .assign "$n" (.op .sub (.var "$n") (.gauge .fuelLeft))],
    .act (.pace .wait (some (.op .div (.var "$k") (.var "$n"))))]

theorem exec_touches_only_names_countdown :
    let first := Store.ofList [("$n", 4), ("$k", 9), ("$spare", 1)]
    let second := Store.ofList [("$n", 4), ("$k", 9)]
    let m := Machine.start (Scripted.new { fuel := 2 }) first
    let one := countdown.exec Scripted.host .singlePass 5 m
    let other := countdown.exec Scripted.host .singlePass 5 { m with store := second }
    (∀ name ∈ countdown.names, first.get? name = second.get? name) ∧
      one.1 = .error (.fault (.divisionByZero 9)) ∧
      one.1 = other.1 ∧ one.2.events = other.2.events ∧ one.2.actions = other.2.actions ∧
      one.2.store.get? "$spare" = some 1 ∧ other.2.store.get? "$spare" = none := by
  intro first second m one other
  have agree : ∀ name ∈ countdown.names, first.get? name = second.get? name := by decide +kernel
  obtain ⟨same, events, -, actions, -, spared⟩ :=
    exec_touches_only_names countdown Scripted.host .singlePass 5 m first second agree
  obtain ⟨kept, absent⟩ := spared "$spare" (by decide +kernel)
  refine ⟨agree, by decide +kernel, same, events, actions, kept.trans ?_, absent.trans ?_⟩
  · decide +kernel
  · decide +kernel

end Program

end ArenaScript
