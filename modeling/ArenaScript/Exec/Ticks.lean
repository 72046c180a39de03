import ArenaScript.Exec.Machine

/-!
Runs of many ticks. Each tick runs the program once from its top; variables and host carry over.
-/

namespace ArenaScript

variable {σ : Type}

/-- Runs `n` ticks, the first of which has the number `first`. -/
def ticksFrom (host : Host σ) (policy : LoopPolicy) (fuel : Nat) (p : Program) :
    (first n : Nat) → Exec σ Unit
  | _, 0, m => (.ok (), m)
  | first, n + 1, m =>
    match p.exec host policy fuel m with
    | (.ok (), m) =>
      ticksFrom host policy fuel p (first + 1) n
        { m with trace := .ticked first m.actions :: m.trace }
    | (.error h, m) => (.error h, m)

structure Report where
  ticks : Nat
  actions : Nat
  vars : List (String × Value)
deriving DecidableEq, Repr

def Program.ticks (host : Host σ) (policy : LoopPolicy) (fuel : Nat) (p : Program) (n : Nat) :
    Exec σ Report := do
  ticksFrom host policy fuel p 0 n
  let m ← Attempt.state
  return ⟨n, m.actions, m.store.toList⟩

end ArenaScript
