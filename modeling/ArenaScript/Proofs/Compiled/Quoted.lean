import ArenaScript.Compiled.Quoted

/-! Every text comes back from its quoted form, whatever characters it holds. -/
namespace ArenaScript

/-- A fold that takes in one digit at a time rebuilds the number. -/
theorem foldlM_toDigits {base : Nat} (two : 1 < base) {f : Nat → Char → Option Nat}
    (step : ∀ n d, d < base → f n d.digitChar = some (base * n + d)) (n : Nat) :
    (Nat.toDigits base n).foldlM f 0 = some n := by
  induction n using Nat.strongRecOn with
  | ind n ih =>
    rw [Nat.toDigits_eq_if two]
    split
    · rename_i small
      simp [step 0 n small]
    · have smaller : n / base < n := Nat.div_lt_self (by omega) two
      have last : n % base < base := Nat.mod_lt n (by omega)
      rw [List.foldlM_append, ih _ smaller]
      simp [step _ _ last, Nat.div_add_mod]

theorem digit_of_mem_toDigits {base n : Nat} (two : 1 < base) {c : Char}
    (held : c ∈ Nat.toDigits base n) : ∃ d, d < base ∧ c = d.digitChar := by
  induction n using Nat.strongRecOn with
  | ind n ih =>
    rw [Nat.toDigits_eq_if two] at held
    split at held
    · rename_i small
      exact ⟨n, small, by simpa using held⟩
    · have smaller : n / base < n := Nat.div_lt_self (by omega) two
      rcases List.mem_append.mp held with held | held
      · exact ih _ smaller held
      · exact ⟨n % base, Nat.mod_lt n (by omega), by simpa using held⟩

namespace Compiled

namespace Quoted

theorem digitChar_ne_brace : ∀ d < 16, Nat.digitChar d ≠ '\x7d' := by
  decide

theorem hexDigit?_digitChar : ∀ d < 16, hexDigit? d.digitChar = some d := by
  decide

theorem hexValue?_toDigits (n : Nat) : hexValue? (Nat.toDigits 16 n) = some n := by
  refine foldlM_toDigits (by decide) ?_ n
  intro n d small
  simp [hexDigit?_digitChar d small]

theorem pointEscape_toDigits (c : Char) (rest : List Char) :
    pointEscape (Nat.toDigits 16 c.toNat ++ '\x7d' :: rest) = some (c, rest) := by
  have valid : c.toNat.isValidChar := c.valid
  have plain : ∀ x ∈ Nat.toDigits 16 c.toNat, x ≠ '\x7d' := by
    intro x held
    obtain ⟨d, small, rfl⟩ := digit_of_mem_toDigits (by decide) held
    exact digitChar_ne_brace d small
  have taken : (Nat.toDigits 16 c.toNat ++ '\x7d' :: rest).takeWhile (· ≠ '\x7d') =
      Nat.toDigits 16 c.toNat := by
    rw [List.takeWhile_append_of_pos (by simpa using plain)]
    simp
  have short : (Nat.toDigits 16 c.toNat).length ≤ 6 := by
    rw [Nat.length_toDigits_le_iff (by decide) (by decide)]
    rcases valid with below | ⟨-, below⟩ <;> omega
  have long : 1 ≤ (Nat.toDigits 16 c.toNat).length := Nat.length_toDigits_pos
  simp only [pointEscape, taken, List.drop_left]
  simp [long, short, hexValue?_toDigits, valid]

theorem readChars_unescape {fuel : Nat} {cs rest : List Char} {c : Char}
    (found : unescape cs = some (c, rest)) :
    readChars (fuel + 1) ('\\' :: cs) =
      (readChars fuel rest).map fun (s, rest) => (c :: s, rest) := by
  rw [readChars, found]
  dsimp only [Option.bind_eq_bind, Option.bind_some]
  cases readChars fuel rest <;> rfl

theorem readChars_plain {c : Char} (fuel : Nat) (rest : List Char) (quote : c ≠ '"')
    (slash : c ≠ '\\') :
    readChars (fuel + 1) (c :: rest) =
      (readChars fuel rest).map fun (s, rest) => (c :: s, rest) := by
  rw [readChars]
  · cases readChars fuel rest <;> rfl
  · exact fun same => quote same
  · exact fun same => slash same

/-- Reading takes in exactly the escape of one character. -/
theorem readChars_escape (c : Char) (fuel : Nat) (rest : List Char) :
    readChars (fuel + 1) (escape c ++ rest) =
      (readChars fuel rest).map fun (s, rest) => (c :: s, rest) := by
  unfold escape
  -- the characters with a letter of their own
  iterate 7
    split
    · subst_vars
      exact readChars_unescape rfl
  rename_i quote slash
  split
  · have point := pointEscape_toDigits c rest
    simp only [List.cons_append, List.append_assoc, List.nil_append]
    exact readChars_unescape point
  · exact readChars_plain fuel rest quote slash

theorem readChars_flatMap_escape (s rest : List Char) {fuel : Nat} (enough : s.length < fuel) :
    readChars fuel (s.flatMap escape ++ '"' :: rest) = some (s, rest) := by
  induction s generalizing fuel with
  | nil =>
    obtain ⟨fuel, rfl⟩ := Nat.exists_eq_add_of_lt enough
    simp [readChars]
  | cons c s ih =>
    obtain _ | fuel := fuel
    · omega
    · have shorter : s.length < fuel := by simpa using enough
      rw [List.flatMap_cons, List.append_assoc, readChars_escape, ih shorter]
      rfl

theorem length_le_escape (s : List Char) : s.length ≤ (s.flatMap escape).length := by
  have some : ∀ c, 1 ≤ (escape c).length := by
    intro c
    unfold escape
    repeat' split
    all_goals simp
  induction s with
  | nil => exact Nat.le_refl 0
  | cons c s ih =>
    have first := some c
    simp only [List.flatMap_cons, List.length_cons, List.length_append]
    omega

theorem read_escape (s : String) (rest : List Char) :
    read (s.toList.flatMap escape ++ '"' :: rest) = some (s, rest) := by
  have enough : s.toList.length < (s.toList.flatMap escape ++ '"' :: rest).length + 1 := by
    have := length_le_escape s.toList
    simp only [List.length_append, List.length_cons]
    omega
  rw [read, readChars_flatMap_escape _ rest enough]
  simp

end Quoted

end Compiled

end ArenaScript
