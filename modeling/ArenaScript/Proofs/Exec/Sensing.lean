import ArenaScript.Host.Queued
import ArenaScript.Proofs.Exec.Keeps

/-! Which sensors an evaluation reads. An expression reads every sensor in it once, from left to
right, and the sensors in an index before the sensor that has the index. A fault cuts that sequence
short, and a condition leaves out what its `and` and `or` skip. Nothing else happens meanwhile. -/
namespace ArenaScript

variable {σ α β : Type}

/-- The sensors of an expression in the order of the text, each behind those in its own index. -/
def Expression.sensors : Expression → List Expression
  | .number _ => []
  | .var _ => []
  | .gauge g => [.gauge g]
  | .barrel axis => [.barrel axis]
  | .barrelAt axis index => index.sensors ++ [.barrelAt axis index]
  | .op _ lhs rhs => lhs.sensors ++ rhs.sensors

def Condition.sensors : Condition → List Expression
  | .compare _ lhs rhs => lhs.sensors ++ rhs.sensors
  | .and lhs rhs => lhs.sensors ++ rhs.sensors
  | .or lhs rhs => lhs.sensors ++ rhs.sensors
  | .not inner => inner.sensors

/-- The value of an expression whose sensors gave these answers. A sensor stands for its own answer,
which comes behind the answers that its index needed. -/
def Expression.valueFrom (store : Store) : Expression → List Value → Except Fault Value
  | .number value, _ => .ok value
  | .var name, _ =>
    match store.get? name with
    | some value => .ok value
    | none => .error (.unbound name)
  | .gauge _, answers => .ok (answers.getLastD 0)
  | .barrel _, answers => .ok (answers.getLastD 0)
  | .barrelAt _ _, answers => .ok (answers.getLastD 0)
  | .op o lhs rhs, answers =>
    match lhs.valueFrom store (answers.take lhs.sensors.length),
      rhs.valueFrom store (answers.drop lhs.sensors.length) with
    | .ok a, .ok b => o.apply a b
    | .error fault, _ => .error fault
    | _, .error fault => .error fault

/-- Reading these sensors in order comes to these calls, each with its answer. A barrel sensor asks
for the closest barrel, or for the one that its index names by the answers right before it. -/
inductive Asked (store : Store) : List Expression → List (Query × Value) → Prop
  | nothing : Asked store [] []
  | gauge {sensors : List Expression} {calls : List (Query × Value)} {g : Gauge} {answer : Value}
      (before : Asked store sensors calls) :
      Asked store (sensors ++ [.gauge g]) (calls ++ [(.gauge g, answer)])
  | barrel {sensors : List Expression} {calls : List (Query × Value)} {axis : Axis} {answer : Value}
      (before : Asked store sensors calls) :
      Asked store (sensors ++ [.barrel axis]) (calls ++ [(.barrel axis 0, answer)])
  | barrelAt {sensors : List Expression} {calls own : List (Query × Value)} {axis : Axis}
      {index : Expression} {i answer : Value} (before : Asked store sensors (calls ++ own))
      (all : own.length = index.sensors.length)
      (value : index.valueFrom store (own.map Prod.snd) = .ok i) :
      Asked store (sensors ++ [.barrelAt axis index]) (calls ++ own ++ [(.barrel axis i, answer)])

namespace Asked

variable {store : Store} {sensors sensors' : List Expression} {calls calls' : List (Query × Value)}

theorem length_eq (asked : Asked store sensors calls) : calls.length = sensors.length := by
  induction asked with
  | nothing => rfl
  | gauge before ih | barrel before ih => simp [ih]
  | barrelAt before all value ih =>
    rw [List.length_append, ih, List.length_append]
    rfl

theorem append (first : Asked store sensors calls) (second : Asked store sensors' calls') :
    Asked store (sensors ++ sensors') (calls ++ calls') := by
  induction second with
  | nothing =>
    rw [List.append_nil, List.append_nil]
    exact first
  | gauge before ih =>
    rw [← List.append_assoc, ← List.append_assoc]
    exact ih.gauge
  | barrel before ih =>
    rw [← List.append_assoc, ← List.append_assoc]
    exact ih.barrel
  | barrelAt before all value ih =>
    rw [← List.append_assoc] at ih
    rw [← List.append_assoc, ← List.append_assoc, ← List.append_assoc]
    exact ih.barrelAt all value

end Asked

/-- Asked these questions in order, the host gives these answers and goes from the first state to
the second. -/
inductive Host.Answers (host : Host σ) : σ → List (Query × Value) → σ → Prop
  | nothing (state : σ) : Host.Answers host state [] state
  | more {query : Query} {state last : σ} {calls : List (Query × Value)}
      (later : Host.Answers host (host.sense query state).2 calls last) :
      Host.Answers host state ((query, (host.sense query state).1) :: calls) last

theorem Host.Answers.append {host : Host σ} {state middle last : σ}
    {calls calls' : List (Query × Value)} (first : host.Answers state calls middle)
    (second : host.Answers middle calls' last) :
    host.Answers state (calls ++ calls') last := by
  induction first with
  | nothing => exact second
  | more later ih => exact .more (ih second)

/-- From the first machine to the second these calls were made and answered, and that was all. -/
structure Heard (host : Host σ) (m : Machine σ) (calls : List (Query × Value)) (after : Machine σ) :
    Prop where
  answers : host.Answers m.host calls after.host
  store : after.store = m.store
  actions : after.actions = m.actions
  events : after.events = m.events ++ calls.map fun call => .sensed call.1 call.2

namespace Heard

variable {host : Host σ} {m m₁ m₂ : Machine σ} {calls calls' : List (Query × Value)}

theorem refl (m : Machine σ) : Heard host m [] m where
  answers := .nothing m.host
  store := rfl
  actions := rfl
  events := (List.append_nil _).symm

theorem trans (first : Heard host m calls m₁) (second : Heard host m₁ calls' m₂) :
    Heard host m (calls ++ calls') m₂ where
  answers := first.answers.append second.answers
  store := second.store.trans first.store
  actions := second.actions.trans first.actions
  events := by rw [second.events, first.events, List.map_append, List.append_assoc]

theorem sense (query : Query) (m : Machine σ) :
    Heard host m [(query, (host.sense query m.host).1)] (sense host query m).2 where
  answers := .more (.nothing _)
  store := rfl
  actions := rfl
  events := by simp [Machine.events, ArenaScript.sense]

end Heard

/-- What the calls of an evaluation say about its outcome. A value comes from reading all sensors,
and it is the value that their answers give. Before a fault the first of them were read. -/
def Expression.ReadsAs (store : Store) (e : Expression) (calls : List (Query × Value)) :
    Except Fault Value → Prop
  | .ok value =>
    Asked store e.sensors calls ∧ e.valueFrom store (calls.map Prod.snd) = .ok value
  | .error _ => ∃ sensors, sensors <+: e.sensors ∧ Asked store sensors calls

theorem Expression.valueFrom_op {store : Store} {o : Operator} {lhs rhs : Expression}
    {first second : List Value} {a b : Value} (all : first.length = lhs.sensors.length)
    (left : lhs.valueFrom store first = .ok a) (right : rhs.valueFrom store second = .ok b) :
    (Expression.op o lhs rhs).valueFrom store (first ++ second) = o.apply a b := by
  rw [Expression.valueFrom, ← all, List.take_left, List.drop_left, left, right]

/-- Evaluated in this machine, the expression makes calls and nothing else, and they fit the
outcome. -/
def Expression.Reads (host : Host σ) (m : Machine σ) (e : Expression) : Prop :=
  ∃ calls, Heard host m calls (e.eval host m).2 ∧ e.ReadsAs m.store calls (e.eval host m).1

namespace Expression.Reads

variable {host : Host σ} {m : Machine σ}

theorem var (name : String) : (Expression.var name).Reads host m := by
  refine ⟨[], ?_⟩
  rw [Expression.eval, lookUp]
  cases found : m.store.get? name with
  | none => exact ⟨.refl m, [], List.nil_prefix, .nothing⟩
  | some value => exact ⟨.refl m, .nothing, by simp [Expression.valueFrom, found]⟩

/-- A fault in the part that is evaluated first ends the evaluation. -/
theorem of_fault {part e : Expression} {fault : Fault} {m₁ : Machine σ}
    (first : part.Reads host m) (front : part.sensors <+: e.sensors)
    (run : part.eval host m = (.error fault, m₁)) (same : e.eval host m = (.error fault, m₁)) :
    e.Reads host m := by
  obtain ⟨calls, heard, reads⟩ := first
  unfold Expression.Reads
  rw [run] at heard reads
  rw [same]
  obtain ⟨sensors, within, asked⟩ := reads
  exact ⟨calls, heard, sensors, within.trans front, asked⟩

theorem barrelAt {index : Expression} (axis : Axis) (inside : index.Reads host m) :
    (Expression.barrelAt axis index).Reads host m := by
  rcases run : index.eval host m with ⟨fault | i, m₁⟩
  · exact inside.of_fault (List.prefix_append _ _) run (Attempt.bind_error run)
  obtain ⟨calls, heard, reads⟩ := inside
  unfold Expression.Reads
  rw [run] at heard reads
  rw [Expression.eval, Attempt.bind_ok run]
  obtain ⟨asked, value⟩ := reads
  -- the index has made its calls, and the barrel sensor makes one more
  refine ⟨_, heard.trans (.sense (.barrel axis i) m₁), ?_, ?_⟩
  · exact @Asked.barrelAt m.store _ [] calls axis index i _ asked asked.length_eq value
  · simp [Expression.valueFrom]

theorem op {lhs rhs : Expression} (o : Operator) (left : lhs.Reads host m)
    (right : ∀ m, rhs.Reads host m) : (Expression.op o lhs rhs).Reads host m := by
  rcases run : lhs.eval host m with ⟨fault | a, m₁⟩
  · exact left.of_fault (List.prefix_append _ _) run (Attempt.bind_error run)
  obtain ⟨calls, heard, reads⟩ := left
  unfold Expression.Reads
  rw [Expression.eval]
  rw [run] at heard reads
  rw [Attempt.bind_ok run]
  obtain ⟨asked, value⟩ := reads
  -- the right side finds the variables as the left side found them
  obtain ⟨calls', heard', reads'⟩ := right m₁
  rw [heard.store] at reads'
  rcases run' : rhs.eval host m₁ with ⟨fault | b, m₂⟩
  · rw [run'] at heard' reads'
    rw [Attempt.bind_error run']
    obtain ⟨sensors, front, asked'⟩ := reads'
    exact ⟨calls ++ calls', heard.trans heard', lhs.sensors ++ sensors,
      (List.prefix_append_right_inj _).mpr front, asked.append asked'⟩
  rw [run'] at heard' reads'
  rw [Attempt.bind_ok run']
  obtain ⟨asked', value'⟩ := reads'
  have all : (calls.map Prod.snd).length = lhs.sensors.length := by
    rw [List.length_map, asked.length_eq]
  have result := @valueFrom_op m.store o lhs rhs _ _ a b all value value'
  rw [← List.map_append] at result
  refine ⟨calls ++ calls', heard.trans heard', ?_⟩
  show Expression.ReadsAs m.store _ (calls ++ calls') (o.apply a b)
  cases applied : o.apply a b with
  | error fault => exact ⟨_, List.prefix_refl _, asked.append asked'⟩
  | ok v => exact ⟨asked.append asked', result.trans applied⟩

end Expression.Reads

theorem Expression.eval_reads (host : Host σ) (e : Expression) (m : Machine σ) :
    e.Reads host m := by
  induction e generalizing m with
  | number value => exact ⟨[], .refl m, .nothing, rfl⟩
  | var name => exact .var name
  | gauge g => exact ⟨_, .sense (.gauge g) m, Asked.nothing.gauge, rfl⟩
  | barrel axis => exact ⟨_, .sense (.barrel axis 0) m, Asked.nothing.barrel, rfl⟩
  | barrelAt axis index ih => exact .barrelAt axis (ih m)
  | op o lhs rhs left right => exact .op o (left m) right

/-- Some of these sensors are read, in their order, and nothing else happens. -/
def AsksSome (host : Host σ) (all : List Expression) (x : Eval σ α) : Prop :=
  ∀ m, ∃ calls sensors, Heard host m calls (x m).2 ∧ sensors.Sublist all ∧
    Asked m.store sensors calls

namespace AsksSome

variable {host : Host σ} {all all' : List Expression} {x : Eval σ α} {f : α → Eval σ β}

theorem pure (a : α) (all : List Expression) : AsksSome host all (Pure.pure a) :=
  fun m => ⟨[], [], .refl m, List.nil_sublist all, .nothing⟩

theorem bind (first : AsksSome host all x) (second : ∀ a, AsksSome host all' (f a)) :
    AsksSome host (all ++ all') (x >>= f) := by
  intro m
  obtain ⟨calls, sensors, heard, part, asked⟩ := first m
  rcases run : x m with ⟨fault | a, m₁⟩
  · rw [run] at heard
    rw [Attempt.bind_error run]
    exact ⟨calls, sensors, heard, part.trans (List.sublist_append_left all all'), asked⟩
  · rw [run] at heard
    rw [Attempt.bind_ok run]
    obtain ⟨calls', sensors', heard', part', asked'⟩ := second a m₁
    rw [heard.store] at asked'
    exact ⟨calls ++ calls', sensors ++ sensors', heard.trans heard', part.append part',
      asked.append asked'⟩

theorem map (asks : AsksSome host all x) (g : α → β) :
    AsksSome host all (x >>= fun a => Pure.pure (g a)) := by
  have last := asks.bind fun a => AsksSome.pure (g a) []
  rwa [List.append_nil] at last

end AsksSome

theorem Expression.eval_asksSome (host : Host σ) (e : Expression) :
    AsksSome host e.sensors (e.eval host) := by
  intro m
  obtain ⟨calls, heard, reads⟩ := e.eval_reads host m
  rcases run : e.eval host m with ⟨fault | value, m₁⟩
  · rw [run] at heard reads
    obtain ⟨sensors, front, asked⟩ := reads
    exact ⟨calls, sensors, heard, front.sublist, asked⟩
  · rw [run] at heard reads
    exact ⟨calls, e.sensors, heard, List.Sublist.refl _, reads.1⟩

theorem Condition.eval_asksSome (host : Host σ) (c : Condition) :
    AsksSome host c.sensors (c.eval host) := by
  induction c with
  | compare r lhs rhs =>
    apply AsksSome.bind (lhs.eval_asksSome host)
    intro a
    exact (rhs.eval_asksSome host).map fun b => r.holds a b
  | and lhs rhs left right =>
    apply AsksSome.bind left
    intro decided
    cases decided
    · exact .pure false rhs.sensors
    · exact right
  | or lhs rhs left right =>
    apply AsksSome.bind left
    intro decided
    cases decided
    · exact right
    · exact .pure true rhs.sensors
  | not inner ih => exact ih.map fun b => !b

/-- Evaluating an expression reads its sensors one behind the other in the order of the text, each
once, and the sensors of an index before the sensor that has the index. If it gives a value, all
were read, each barrel sensor asked for the barrel that its index names or for the closest one, and
the value is the one that the answers give. If it has a fault, the first of them were read.
Evaluating a condition reads some of its sensors in that order. Neither does anything else: it
performs no deed and leaves the variables alone. -/
theorem reads_sensors_in_order (host : Host σ) (m : Machine σ) :
    (∀ e : Expression, ∃ calls, Heard host m calls (e.eval host m).2 ∧
      e.ReadsAs m.store calls (e.eval host m).1) ∧
    (∀ c : Condition, ∃ calls sensors, Heard host m calls (c.eval host m).2 ∧
      sensors.Sublist c.sensors ∧ Asked m.store sensors calls) :=
  ⟨fun e => e.eval_reads host m, fun c => c.eval_asksSome host m⟩

/-- The fuel reading changes between its two reads, and the first one is the index. -/
example :
    let queues := Queues.ofList [(.gauge .fuelLeft, [1, 5]), (.barrel .leftRight, [9])]
    let e := Expression.op .sub (.barrelAt .leftRight (.gauge .fuelLeft)) (.gauge .fuelLeft)
    let run := e.eval Queues.host (.start queues .empty)
    run.1 = .ok 4 ∧ run.2.events = [.sensed (.gauge .fuelLeft) 1, .sensed (.barrel .leftRight 1) 9,
      .sensed (.gauge .fuelLeft) 5] := by
  decide +kernel

end ArenaScript
