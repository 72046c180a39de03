import ArenaScript.Host.Scripted
import ArenaScript.Load
import ArenaScript.Proofs.Exec.Keeps
import ArenaScript.Proofs.Script.Acceptance

/-! Running what was loaded. Loading checks names in the order of the text, while a run may take any
branch, repeat any body and start again from the top. What carries over is coarser than that order:
every name in the tree is bound when loading ends, and no step binds or unbinds one. So a look-up
always finds its name, and division is the one thing that can go wrong. -/
namespace ArenaScript

open Attempt (Keeps)

theorem map_fst_bindIn {name : String} {value : Value} {l : List (String × Value)}
    (ordered : Ordered l) (bound : name ∈ l.map Prod.fst) :
    (bindIn name value l).map Prod.fst = l.map Prod.fst := by
  induction l with
  | nil => cases bound
  | cons first rest ih =>
    obtain ⟨n, v⟩ := first
    obtain ⟨above, tail⟩ := List.pairwise_cons.mp ordered
    unfold bindIn
    by_cases here : name = n
    · subst here
      rw [if_neg (String.lt_irrefl name), if_pos rfl]
      rfl
    · have later : name ∈ rest.map Prod.fst := by simpa [here] using bound
      obtain ⟨binding, held, same⟩ := List.mem_map.mp later
      have order : n < name := same ▸ above binding held
      rw [if_neg (String.lt_asymm order), if_neg here, List.map_cons, ih tail later]
      rfl

theorem Store.names_set {s : Store} {name : String} (bound : name ∈ s.names) (value : Value) :
    (s.set name value).names = s.names :=
  map_fst_bindIn s.ordered bound

theorem Store.Extends.mem_names {a b : Store} (grown : a.Extends b) {name : String}
    (bound : name ∈ a.names) : name ∈ b.names := by
  rw [← isDeclared_iff_mem_names, isDeclared] at bound ⊢
  rcases grown name with kept | ⟨absent, -⟩
  · rw [kept]
    exact bound
  · rw [absent] at bound
    cases bound

section Survey

variable {declared after final : Store}

theorem Expression.within_of_bound {e : Expression} (bound : e.Bound declared)
    (grown : declared.Extends final) : e.Within (· ∈ final.names) := by
  induction e with
  | number | gauge | barrel => trivial
  | var name => exact grown.mem_names ((declared.isDeclared_iff_mem_names name).mp bound.2)
  | barrelAt axis index ih => exact ih bound
  | op o lhs rhs left right => exact ⟨left bound.1, right bound.2⟩

theorem Condition.within_of_bound {c : Condition} (bound : c.Bound declared)
    (grown : declared.Extends final) : c.Within (· ∈ final.names) := by
  induction c with
  | compare r lhs rhs =>
    exact ⟨Expression.within_of_bound bound.1 grown, Expression.within_of_bound bound.2 grown⟩
  | and lhs rhs left right | or lhs rhs left right => exact ⟨left bound.1, right bound.2⟩
  | not inner ih => exact ih bound

theorem Action.within_of_bound {a : Action} (bound : a.Bound declared)
    (grown : declared.Extends final) : a.Within (· ∈ final.names) := by
  rcases a with ⟨p, _ | count⟩ | o
  · trivial
  · exact Expression.within_of_bound bound grown
  · trivial

theorem Statement.extends_of_passes {s : Statement} (passes : s.Passes declared after) :
    declared.Extends after := by
  have grown := s.survey_extends declared
  rwa [passes] at grown

theorem Chain.extends_of_passes {c : Chain} (passes : c.Passes declared after) :
    declared.Extends after := by
  have grown := c.survey_extends "elif" declared
  rwa [passes] at grown

theorem extends_of_passesAll {body : Block} (passes : PassesAll body declared after) :
    declared.Extends after := by
  have grown := surveyBody_extends body declared
  rwa [passes] at grown

mutual

theorem Statement.within_of_passes (s : Statement) {declared after : Store}
    (passes : s.Passes declared after) (grown : after.Extends final) :
    s.Within (· ∈ final.names) (· ∈ final.names) := by
  have whole := (Statement.extends_of_passes passes).trans grown
  match s with
  | .loop body =>
    obtain ⟨-, inside⟩ := (Statement.passes_loop body).mp passes
    exact bodyWithin_of_passes body inside grown
  | .choose chain =>
    obtain ⟨test, body, rest, rfl⟩ := Statement.branch_of_passes passes
    exact Chain.within_of_passes _ ((Statement.passes_choose test body rest).mp passes) grown
  | .whilst test body =>
    obtain ⟨bound, -, inside⟩ := (Statement.passes_whilst test body).mp passes
    exact ⟨Condition.within_of_bound bound whole, bodyWithin_of_passes body inside grown⟩
  | .assign name value =>
    obtain ⟨-, bound, rfl⟩ := (Statement.passes_assign name value).mp passes
    have assigned : (declared.declare name).isDeclared name = true := by simp
    have target := (Store.isDeclared_iff_mem_names _ name).mp assigned
    exact ⟨Expression.within_of_bound bound whole, grown.mem_names target⟩
  | .act action =>
    obtain ⟨bound, -⟩ := (Statement.passes_act action).mp passes
    exact Action.within_of_bound bound whole

theorem Chain.within_of_passes (c : Chain) {declared after : Store}
    (passes : c.Passes declared after) (grown : after.Extends final) :
    c.Within (· ∈ final.names) (· ∈ final.names) := by
  have whole := (Chain.extends_of_passes passes).trans grown
  match c with
  | .done => trivial
  | .otherwise body =>
    obtain ⟨-, inside⟩ := (Chain.passes_otherwise body).mp passes
    exact bodyWithin_of_passes body inside grown
  | .branch test body rest =>
    obtain ⟨bound, -, middle, inside, others⟩ := (Chain.passes_branch test body rest).mp passes
    have later := (Chain.extends_of_passes others).trans grown
    exact ⟨Condition.within_of_bound bound whole, bodyWithin_of_passes body inside later,
      Chain.within_of_passes rest others grown⟩

theorem bodyWithin_of_passes (body : Block) {declared after : Store}
    (passes : PassesAll body declared after) (grown : after.Extends final) :
    bodyWithin (· ∈ final.names) (· ∈ final.names) body := by
  match body with
  | [] => trivial
  | s :: rest =>
    obtain ⟨middle, first, others⟩ := (passesAll_cons s rest).mp passes
    have later := (extends_of_passesAll others).trans grown
    exact ⟨Statement.within_of_passes s first later, bodyWithin_of_passes rest others grown⟩

end

end Survey

def Store.follow (store : Store) : Event → Store
  | .assigned name value => store.set name value
  | .sensed _ _ => store
  | .performed _ => store
  | .ticked _ _ => store

def Store.replay (store : Store) (events : List Event) : Store := events.foldl follow store

theorem Store.replay_concat (store : Store) (events : List Event) (event : Event) :
    store.replay (events ++ [event]) = (store.replay events).follow event := by
  simp [replay]

variable {σ : Type}

/-- The machine is `start` after some more events, its store is what they make of the store of
`start`, and at each point among them exactly these names are bound. -/
def Machine.SteadySince (start : Machine σ) (names : List String) (m : Machine σ) : Prop :=
  ∃ events, m.trace = events.reverse ++ start.trace ∧ m.store = start.store.replay events ∧
    ∀ past, past <+: events → (start.store.replay past).names = names

namespace Machine

variable {start m : Machine σ} {names : List String}

theorem SteadySince.refl (bound : start.store.names = names) : start.SteadySince names start := by
  refine ⟨[], rfl, rfl, fun past part => ?_⟩
  rw [List.prefix_nil.mp part]
  exact bound

theorem SteadySince.names_eq (steady : start.SteadySince names m) : m.store.names = names := by
  obtain ⟨events, -, stored, points⟩ := steady
  rw [stored]
  exact points events (List.prefix_refl events)

/-- One more event is one more point. -/
theorem SteadySince.step (steady : start.SteadySince names m) {next : Machine σ} {event : Event}
    (traced : next.trace = event :: m.trace) (stored : next.store = m.store.follow event)
    (bound : next.store.names = names) : start.SteadySince names next := by
  obtain ⟨events, before, made, points⟩ := steady
  have now : next.store = start.store.replay (events ++ [event]) := by
    rw [Store.replay_concat, stored, made]
  refine ⟨events ++ [event], ?_, now, fun past part => ?_⟩
  · rw [traced, before, List.reverse_append]
    rfl
  · rcases List.prefix_concat_iff.mp part with rfl | earlier
    · rw [← now]
      exact bound
    · exact points past earlier

end Machine

def Fault.IsDivision (fault : Fault) : Prop := ∃ dividend, fault = .divisionByZero dividend

theorem stepsKeep_steady (host : Host σ) (start : Machine σ) (names : List String) :
    StepsKeep host (· ∈ names) (· ∈ names) Fault.IsDivision (start.SteadySince names) where
  lookUp := by
    intro name bound m steady
    have known : m.store.isDeclared name = true := by
      rw [m.store.isDeclared_iff_mem_names, steady.names_eq]
      exact bound
    obtain ⟨value, found⟩ := Option.isSome_iff_exists.mp known
    simp only [lookUp, found]
    exact ⟨steady, nofun⟩
  sense query m steady := steady.step rfl rfl steady.names_eq
  perform deed m steady := steady.step rfl rfl steady.names_eq
  assign := by
    intro name value m bound steady
    have kept : (m.store.set name value).names = names := by
      rw [Store.names_set (steady.names_eq ▸ bound) value]
      exact steady.names_eq
    exact steady.step rfl rfl kept
  tick first m steady := steady.step rfl rfl steady.names_eq
  division dividend := ⟨dividend, rfl⟩

namespace Program

variable {p : Program} {loaded : Store}

/-- The ways in which a program and its store are made: from a text, with variables that the caller
declared or with none, or from a compiled text. -/
inductive LoadedWith : Program → Store → Prop
  | parsed {p : Program} {text : String} {declared : Store}
      (accepted : (Program.parse text declared).result = .ok p) :
      LoadedWith p (Program.parse text declared).store
  | fresh {p : Program} {text : String} {store : Store}
      (accepted : Program.parseFresh text = .ok (p, store)) : LoadedWith p store
  | compiled {p : Program} {text : String} {store : Store}
      (accepted : (loadCompiled text).result = .ok (p, store)) : LoadedWith p store

theorem passes_of_loadCompiled {text : String} {store : Store}
    (accepted : (loadCompiled text).result = .ok (p, store)) :
    PassesAll p.statements .empty store := by
  unfold loadCompiled at accepted
  split at accepted
  · cases accepted
  · split at accepted
    · rename_i clean
      cases accepted
      rw [p.declareAll_declaredNames]
      exact (p.defects_eq_nil.mp clean).2
    · cases accepted

theorem LoadedWith.passes (made : p.LoadedWith loaded) :
    ∃ declared, PassesAll p.statements declared loaded := by
  cases made with
  | @parsed text declared accepted => exact ⟨declared, (derives_of_parse accepted).2.1⟩
  | fresh accepted =>
    obtain ⟨result, rfl⟩ := parseFresh_eq_ok_iff.mp accepted
    exact ⟨.empty, (derives_of_parse result).2.1⟩
  | compiled accepted => exact ⟨.empty, passes_of_loadCompiled accepted⟩

theorem LoadedWith.within (made : p.LoadedWith loaded) :
    bodyWithin (· ∈ loaded.names) (· ∈ loaded.names) p.statements := by
  obtain ⟨declared, passes⟩ := made.passes
  exact bodyWithin_of_passes p.statements passes (.refl loaded)

/-- The stores that a program can have between two runs: the one it was loaded with, and what a run
or some ticks leave of such a store, on any host and however they end. -/
inductive Leaves (p : Program) (loaded : Store) : Store → Prop
  | start : Leaves p loaded loaded
  | run {σ : Type} (host : Host σ) (policy : LoopPolicy) (fuel : Nat) (m : Machine σ)
      (before : Leaves p loaded m.store) : Leaves p loaded (p.exec host policy fuel m).2.store
  | ticks {σ : Type} (host : Host σ) (policy : LoopPolicy) (fuel n : Nat) (m : Machine σ)
      (before : Leaves p loaded m.store) : Leaves p loaded (p.ticks host policy fuel n m).2.store

/-- A run that was steady and stopped early for no other fault than a division by zero. -/
def Sound {α : Type} (m : Machine σ) (names : List String) (x : Exec σ α) : Prop :=
  (∀ fault, (x m).1 = .error (.fault fault) → fault.IsDivision) ∧ m.SteadySince names (x m).2

theorem sound_of_keeps {α : Type} {m : Machine σ} {names : List String} {x : Exec σ α}
    (keeps : Keeps (m.SteadySince names) (Halt.Allowed Fault.IsDivision) x)
    (bound : m.store.names = names) : Sound m names x := by
  obtain ⟨steady, only⟩ := keeps m (.refl bound)
  exact ⟨fun fault stopped => only (.fault fault) stopped, steady⟩

theorem exec_sound (made : p.LoadedWith loaded) {host : Host σ} {policy : LoopPolicy} {fuel : Nat}
    {m : Machine σ} (bound : m.store.names = loaded.names) :
    Sound m loaded.names (p.exec host policy fuel) :=
  sound_of_keeps (exec_keeps (stepsKeep_steady host m loaded.names) made.within) bound

theorem ticks_sound (made : p.LoadedWith loaded) {host : Host σ} {policy : LoopPolicy}
    {fuel n : Nat} {m : Machine σ} (bound : m.store.names = loaded.names) :
    Sound m loaded.names (p.ticks host policy fuel n) :=
  sound_of_keeps (ticks_keeps (stepsKeep_steady host m loaded.names) made.within n) bound

theorem names_of_leaves (made : p.LoadedWith loaded) {store : Store}
    (reached : p.Leaves loaded store) : store.names = loaded.names := by
  induction reached with
  | start => rfl
  | run host policy fuel m before ih => exact (exec_sound made ih).2.names_eq
  | ticks host policy fuel n m before ih => exact (ticks_sound made ih).2.names_eq

/-- After any number of runs of a loaded program, a further run on any host, under any policy, stops
for no fault but a division by zero, and so do any number of ticks. At every point of it exactly the
names are bound that were bound when the program was loaded. -/
theorem loaded_never_unbound (made : p.LoadedWith loaded) {σ : Type} (host : Host σ)
    (policy : LoopPolicy) (fuel : Nat) (m : Machine σ) (own : p.Leaves loaded m.store) :
    (∀ name, (p.exec host policy fuel m).1 ≠ .error (.fault (.unbound name))) ∧
    Sound m loaded.names (p.exec host policy fuel) ∧
    ∀ n, (∀ name, (p.ticks host policy fuel n m).1 ≠ .error (.fault (.unbound name))) ∧
      Sound m loaded.names (p.ticks host policy fuel n) := by
  have bound := names_of_leaves made own
  have impossible : ∀ name, ¬ (Fault.unbound name).IsDivision := by
    rintro name ⟨dividend, same⟩
    cases same
  have run := @exec_sound σ p loaded made host policy fuel m bound
  refine ⟨fun name stopped => impossible name (run.1 _ stopped), run, fun n => ?_⟩
  have ticked := @ticks_sound σ p loaded made host policy fuel n m bound
  exact ⟨fun name stopped => impossible name (ticked.1 _ stopped), ticked⟩

/-- The branch that assigns the variable need not be taken before the variable is read. -/
def untaken : Program where
  statements := [
    .choose (.branch (.compare .lt (.gauge .fuelLeft) (.number 0)) [.assign "$x" (.number 3)] .done),
    .act (.pace .wait (some (.op .div (.number 7) (.var "$x"))))]

theorem loaded_never_unbound_untaken :
    let loaded := Store.empty.declare "$x"
    let m := Machine.start (Scripted.new {}) loaded
    let again := (untaken.exec Scripted.host .singlePass 1 m).2
    Program.parseFresh "if (lt(fuelLeft, 0)) \x7b $x = 3; \x7d wait(div(7, $x));" =
        .ok (untaken, loaded) ∧
      (untaken.exec Scripted.host .singlePass 1 m).1 = .error (.fault (.divisionByZero 7)) ∧
      Sound m loaded.names (untaken.exec Scripted.host .singlePass 1) ∧
      Sound again loaded.names (untaken.ticks Scripted.host (.repeated none) 1 3) := by
  intro loaded m again
  have parsed : Program.parseFresh "if (lt(fuelLeft, 0)) \x7b $x = 3; \x7d wait(div(7, $x));" =
      .ok (untaken, loaded) := by decide +kernel
  have made : untaken.LoadedWith loaded := .fresh parsed
  have first := loaded_never_unbound made Scripted.host .singlePass 1 m .start
  have second := loaded_never_unbound made Scripted.host (.repeated none) 1 again
    (.run Scripted.host .singlePass 1 m .start)
  exact ⟨parsed, by decide +kernel, first.2.1, (second.2.2 3).2⟩

end Program

end ArenaScript
