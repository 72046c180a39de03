/-!
Computations that read and change a state and may fail. A failure keeps the state that was
reached, so what happened before it can still be seen.
-/

namespace ArenaScript

instance instDecidableEqResult {ε α : Type} [DecidableEq ε] [DecidableEq α] :
    DecidableEq (Except ε α)
  | .ok a, .ok b => decidable_of_iff (a = b) ⟨congrArg Except.ok, Except.ok.inj⟩
  | .error a, .error b => decidable_of_iff (a = b) ⟨congrArg Except.error, Except.error.inj⟩
  | .ok _, .error _ => isFalse nofun
  | .error _, .ok _ => isFalse nofun

def Attempt (ε σ α : Type) : Type := σ → Except ε α × σ

namespace Attempt

variable {ε ε' σ α β : Type}

@[inline] def pure (a : α) : Attempt ε σ α := fun s => (.ok a, s)

@[inline] def bind (x : Attempt ε σ α) (f : α → Attempt ε σ β) : Attempt ε σ β := fun s =>
  match x s with
  | (.ok a, s) => f a s
  | (.error e, s) => (.error e, s)

instance : Monad (Attempt ε σ) where
  pure := pure
  bind := bind

@[inline] def fail (e : ε) : Attempt ε σ α := fun s => (.error e, s)

@[inline] def state : Attempt ε σ σ := fun s => (.ok s, s)

@[inline] def modify (f : σ → σ) : Attempt ε σ Unit := fun s => (.ok (), f s)

@[inline] def ofExcept (r : Except ε α) : Attempt ε σ α := fun s => (r, s)

@[inline] def mapError (f : ε → ε') (x : Attempt ε σ α) : Attempt ε' σ α := fun s =>
  match x s with
  | (.ok a, s) => (.ok a, s)
  | (.error e, s) => (.error (f e), s)

@[simp] theorem pure_apply (a : α) (s : σ) : (Pure.pure a : Attempt ε σ α) s = (.ok a, s) := rfl

theorem bind_apply (x : Attempt ε σ α) (f : α → Attempt ε σ β) (s : σ) :
    (x >>= f) s = match x s with
      | (.ok a, s) => f a s
      | (.error e, s) => (.error e, s) := rfl

theorem bind_ok {x : Attempt ε σ α} {f : α → Attempt ε σ β} {s t : σ} {a : α}
    (h : x s = (.ok a, t)) : (x >>= f) s = f a t := by
  rw [bind_apply, h]

theorem bind_error {x : Attempt ε σ α} {f : α → Attempt ε σ β} {s t : σ} {e : ε}
    (h : x s = (.error e, t)) : (x >>= f) s = (.error e, t) := by
  rw [bind_apply, h]

theorem bind_eq_ok {x : Attempt ε σ α} {f : α → Attempt ε σ β} {s t : σ} {b : β} :
    (x >>= f) s = (.ok b, t) ↔ ∃ a m, x s = (.ok a, m) ∧ f a m = (.ok b, t) := by
  rw [bind_apply]
  rcases x s with ⟨_ | a, m⟩
  · simp
  · constructor
    · exact fun h => ⟨a, m, rfl, h⟩
    · rintro ⟨a', m', same, h⟩
      cases same
      exact h

theorem bind_eq_error {x : Attempt ε σ α} {f : α → Attempt ε σ β} {s t : σ} {e : ε} :
    (x >>= f) s = (.error e, t) ↔
      x s = (.error e, t) ∨ ∃ a m, x s = (.ok a, m) ∧ f a m = (.error e, t) := by
  rw [bind_apply]
  rcases x s with ⟨_ | a, m⟩
  · simp
  · constructor
    · exact fun h => .inr ⟨a, m, rfl, h⟩
    · rintro (same | ⟨a', m', same, h⟩)
      · cases same
      · cases same
        exact h

@[simp] theorem fail_apply (e : ε) (s : σ) : (fail e : Attempt ε σ α) s = (.error e, s) := rfl

@[simp] theorem state_apply (s : σ) : (state : Attempt ε σ σ) s = (.ok s, s) := rfl

@[simp] theorem modify_apply (f : σ → σ) (s : σ) :
    (modify f : Attempt ε σ Unit) s = (.ok (), f s) := rfl

theorem mapError_fst (f : ε → ε') (x : Attempt ε σ α) (s : σ) :
    (mapError f x s).1 = (x s).1.mapError f := by
  unfold mapError
  rcases x s with ⟨_ | _, _⟩ <;> rfl

@[simp] theorem mapError_snd (f : ε → ε') (x : Attempt ε σ α) (s : σ) :
    (mapError f x s).2 = (x s).2 := by
  unfold mapError
  rcases x s with ⟨_ | _, _⟩ <;> rfl

instance : LawfulMonad (Attempt ε σ) := LawfulMonad.mk' _
  (fun x => funext fun s => by
    show Attempt.bind x (fun a => Attempt.pure (id a)) s = x s
    unfold Attempt.bind Attempt.pure
    rcases x s with ⟨_ | _, _⟩ <;> rfl)
  (fun _ _ => rfl)
  (fun x f g => funext fun s => by
    show Attempt.bind (Attempt.bind x f) g s = Attempt.bind x (fun a => Attempt.bind (f a) g) s
    unfold Attempt.bind
    rcases x s with ⟨_ | _, _⟩ <;> rfl)

end Attempt

end ArenaScript
