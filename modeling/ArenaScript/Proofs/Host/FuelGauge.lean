import ArenaScript.Proofs.Exec.Accounts
import ArenaScript.Proofs.Host.Reckoning

/-! What the fuel gauge shows during a run. Each answer of the gauge is the level that the deeds
before it leave, so the history of a run accounts for all of them. Where a move burns nothing the
level stands still, unless it lies below zero: then every move lifts it to zero. -/
namespace ArenaScript

open Attempt (Keeps)

def Readings.levelBehind (readings : Readings) (deeds : List Deed) : Int :=
  levelAfter readings.fuel.toInt readings.fuelPerMove.toInt (movesSinceFuel readings.refuel deeds)

/-- The host has come to what the history tells, and so has the gauge whenever it was read. -/
structure Machine.Gauged (readings : Readings) (m : Machine Scripted) : Prop where
  host : Scripted.Reckoned readings m.deeds m.host
  shown : ∀ before answer after, m.events = before ++ .sensed (.gauge .fuelLeft) answer :: after →
    answer.toInt = readings.levelBehind (before.filterMap Event.deed?)

namespace Machine.Gauged

variable {readings : Readings} {m m' : Machine Scripted}

theorem start (readings : Readings) (store : Store) :
    (Machine.start (.new readings) store).Gauged readings where
  host := .new readings
  shown before answer after split := by
    have none : [] = before ++ Event.sensed (.gauge .fuelLeft) answer :: after := split
    simp at none

/-- One more event. If it is an answer of the gauge, it is the level of the host at that time. -/
theorem event (gauged : m.Gauged readings) {event : Event} (traced : m'.trace = event :: m.trace)
    (host : Scripted.Reckoned readings (m.deeds ++ event.deed?.toList) m'.host)
    (read : ∀ answer, event = .sensed (.gauge .fuelLeft) answer → answer = m.host.fuel) :
    m'.Gauged readings := by
  have events : m'.events = m.events ++ [event] := by simp [events, traced]
  have deeds : m'.deeds = m.deeds ++ event.deed?.toList := by
    rw [deeds, events, List.filterMap_append, deeds]
    cases told : event.deed? <;> simp [told]
  refine ⟨deeds ▸ host, ?_⟩
  intro before answer after split
  rw [events] at split
  -- the answer is the last event, or it stood in the history before
  rcases List.eq_nil_or_concat after with rfl | ⟨earlier, last, rfl⟩
  · obtain ⟨same, own⟩ := List.append_inj' split rfl
    have answered : answer = m.host.fuel := read answer (List.singleton_inj.mp own)
    rw [answered, ← same]
    exact gauged.host.fuel
  · rw [List.concat_eq_append, ← List.cons_append, ← List.append_assoc] at split
    exact gauged.shown before answer earlier (List.append_inj' split rfl).1

/-- An event without a deed, at a host that stays as it is. -/
theorem quiet (gauged : m.Gauged readings) {event : Event} (traced : m'.trace = event :: m.trace)
    (none : event.deed? = none) (same : m'.host = m.host)
    (read : ∀ answer, event = .sensed (.gauge .fuelLeft) answer → answer = m.host.fuel) :
    m'.Gauged readings := by
  apply gauged.event traced _ read
  rw [none, same, Option.toList_none, List.append_nil]
  exact gauged.host

end Machine.Gauged

theorem stepsKeep_gauged (readings : Readings) :
    StepsKeep Scripted.host (fun _ => True) (fun _ => True) (fun _ => True)
      (Machine.Gauged readings) where
  lookUp name _ m gauged := by
    unfold lookUp
    split
    · exact ⟨gauged, nofun⟩
    · exact ⟨gauged, fun _ _ => trivial⟩
  sense query m gauged := by
    have read : ∀ answer, Event.sensed query (m.host.read query) =
        .sensed (.gauge .fuelLeft) answer → answer = m.host.fuel := by
      rintro answer ⟨⟩
      rfl
    exact gauged.quiet rfl rfl rfl read
  perform deed m gauged := gauged.event rfl (gauged.host.perform deed) nofun
  assign name value m _ gauged := gauged.quiet rfl rfl rfl nofun
  tick first m gauged := gauged.quiet rfl rfl rfl nofun
  division _ := trivial

theorem Program.ticks_gauged (p : Program) (readings : Readings) (store : Store)
    (policy : LoopPolicy) (fuel ticks : Nat) :
    (p.ticks Scripted.host policy fuel ticks (.start (.new readings) store)).2.Gauged readings :=
  (Program.ticks_keeps (stepsKeep_gauged readings) (bodyWithin_true p.statements) ticks _
    (.start readings store)).1

/-- The level that a free move leaves alone. Only a level below zero does not last: it is zero from
the first move on, until fuel is restored. -/
def Readings.freeLevel (readings : Readings) (deeds : List Deed) : Value :=
  if readings.fuel < 0 ∧ movesSinceFuel readings.refuel deeds ≠ 0 then 0 else readings.fuel

section Free

variable {readings : Readings}

theorem Readings.toInt_freeLevel (free : readings.fuelPerMove = 0) (deeds : List Deed) :
    (readings.freeLevel deeds).toInt = readings.levelBehind deeds := by
  have rate : readings.fuelPerMove.toInt = 0 := by rw [free]; rfl
  rw [freeLevel, levelBehind, levelAfter, rate, Int.zero_mul, Int.sub_zero]
  by_cases unmoved : movesSinceFuel readings.refuel deeds = 0
  · rw [if_neg fun both => both.2 unmoved, if_pos unmoved]
  · rw [if_neg unmoved, if_pos (Int.le_refl 0)]
    by_cases low : readings.fuel < 0
    · have negative : readings.fuel.toInt < 0 := Int32.lt_iff_toInt_lt.mp low
      rw [if_pos ⟨low, unmoved⟩, Int.max_eq_left (Int.le_of_lt negative)]
      rfl
    · have positive : 0 ≤ readings.fuel.toInt := Int32.le_iff_toInt_le.mp (Int32.not_lt.mp low)
      rw [if_neg fun both => low both.1, Int.max_eq_right positive]

theorem Machine.Gauged.answer_eq {m : Machine Scripted} (gauged : m.Gauged readings)
    (free : readings.fuelPerMove = 0) {before after : List Event} {answer : Value}
    (split : m.events = before ++ .sensed (.gauge .fuelLeft) answer :: after) :
    answer = readings.freeLevel (before.filterMap Event.deed?) := by
  apply Int32.toInt_inj.mp
  rw [Readings.toInt_freeLevel free]
  exact gauged.shown before answer after split

theorem Machine.Gauged.fuel_eq {m : Machine Scripted} (gauged : m.Gauged readings)
    (free : readings.fuelPerMove = 0) :
    m.host.fuel = readings.freeLevel m.deeds := by
  apply Int32.toInt_inj.mp
  rw [Readings.toInt_freeLevel free]
  exact gauged.host.fuel

end Free

/-- Where a move burns nothing, every answer of the fuel gauge in a run and the fuel behind the run
are the fuel that the host began with, provided that this is not below zero. Below zero the gauge
shows zero from the first move on, and the old level again once fuel was restored. -/
theorem fuel_static_at_zero_rate (readings : Readings) (free : readings.fuelPerMove = 0)
    (p : Program) (store : Store) (policy : LoopPolicy) (fuel ticks : Nat) :
    let m := (p.ticks Scripted.host policy fuel ticks (.start (.new readings) store)).2
    (0 ≤ readings.fuel →
      (∀ answer, .sensed (.gauge .fuelLeft) answer ∈ m.events → answer = readings.fuel) ∧
      m.host.fuel = readings.fuel) ∧
    (∀ before answer after, m.events = before ++ .sensed (.gauge .fuelLeft) answer :: after →
      answer = readings.freeLevel (before.filterMap Event.deed?)) ∧
    m.host.fuel = readings.freeLevel m.deeds := by
  intro m
  have gauged : m.Gauged readings := p.ticks_gauged readings store policy fuel ticks
  refine ⟨fun high => ?_, fun before answer after => gauged.answer_eq free, gauged.fuel_eq free⟩
  have still (deeds : List Deed) : readings.freeLevel deeds = readings.fuel :=
    if_neg fun low => Int32.not_lt.mpr high low.1
  refine ⟨fun answer held => ?_, (gauged.fuel_eq free).trans (still _)⟩
  obtain ⟨before, after, split⟩ := List.append_of_mem held
  exact (gauged.answer_eq free split).trans (still _)

def glancing : Program :=
  ⟨[.act (.pace .move (some (.number 2))), .assign "$x" (.gauge .fuelLeft),
    .act (.order .takeFuel), .assign "$y" (.gauge .fuelLeft)]⟩

theorem fuel_static_at_zero_rate_glancing :
    let readings : Readings := { fuel := 7, refuel := true }
    let m := (glancing.ticks Scripted.host .singlePass 1 3 (.start (.new readings) .empty)).2
    readings.fuelPerMove = 0 ∧ 0 ≤ readings.fuel ∧ m.deeds.count .move = 6 ∧
      .sensed (.gauge .fuelLeft) 7 ∈ m.events ∧
      (∀ answer, .sensed (.gauge .fuelLeft) answer ∈ m.events → answer = readings.fuel) ∧
      m.host.fuel = readings.fuel := by
  refine ⟨rfl, by decide, by decide +kernel, by decide +kernel, ?_⟩
  exact (fuel_static_at_zero_rate { fuel := 7, refuel := true } rfl glancing .empty .singlePass
    1 3).1 (by decide)

/-- Below zero, one move that burns nothing changes what the gauge shows. -/
theorem fuel_below_zero_not_static :
    let readings : Readings := { fuel := -5, fuelPerMove := 0 }
    let m := (glancing.ticks Scripted.host .singlePass 1 1 (.start (.new readings) .empty)).2
    .sensed (.gauge .fuelLeft) 0 ∈ m.events ∧ m.host.fuel = 0 ∧
      ¬ ((∀ answer, .sensed (.gauge .fuelLeft) answer ∈ m.events → answer = readings.fuel) ∧
        m.host.fuel = readings.fuel) := by
  intro readings m
  have emptied : m.host.fuel = 0 := by decide +kernel
  refine ⟨by decide +kernel, emptied, fun static => ?_⟩
  rw [emptied] at static
  exact absurd static.2 (by decide)

end ArenaScript
