/-! The order of texts by their bytes. A character is written as a lead byte, which tells how many
bytes follow it, and as trailing bytes of six bits each, the most significant first. Of two
characters the greater one has the greater bytes, and neither is written by the beginning of the
other, so texts compare by their bytes as they compare by their characters. -/
namespace ArenaScript

def bytes (text : String) : List UInt8 := text.toUTF8.data.toList

/-- What the lead byte holds of a number with `n` trailing bytes. -/
def front : Nat → Nat → Nat
  | 0, v => v
  | n + 1, v => front n (v / 64)

/-- A number with `n` trailing bytes behind a lead byte, to which `lead` is added. -/
def marked (lead : Nat) : Nat → Nat → List UInt8
  | 0, v => [UInt8.ofNat (v + lead)]
  | n + 1, v => marked lead n (v / 64) ++ [UInt8.ofNat (v % 64 + 128)]

theorem ofNat_cons_lt {a b : Nat} (less : a < b) (small : b < 256) (us vs : List UInt8) :
    UInt8.ofNat a :: us < UInt8.ofNat b :: vs := by
  refine List.cons_lt_cons_iff.mpr (.inl (UInt8.lt_iff_toNat_lt.mpr ?_))
  rw [UInt8.toNat_ofNat_of_lt' (Nat.lt_trans less small), UInt8.toNat_ofNat_of_lt' small]
  exact less

theorem marked_eq_cons (lead n v : Nat) :
    ∃ trail, marked lead n v = UInt8.ofNat (front n v + lead) :: trail := by
  induction n generalizing v with
  | zero => exact ⟨[], rfl⟩
  | succ n ih =>
    obtain ⟨trail, first⟩ := ih (v / 64)
    refine ⟨trail ++ [UInt8.ofNat (v % 64 + 128)], ?_⟩
    rw [marked, first, front, List.cons_append]

/-- Lead bytes that differ decide, whatever the sizes are. -/
theorem marked_lt_of_lead {lead lead' n n' v w : Nat}
    (less : front n v + lead < front n' w + lead') (small : front n' w + lead' < 256)
    (us vs : List UInt8) : marked lead n v ++ us < marked lead' n' w ++ vs := by
  obtain ⟨trail, first⟩ := marked_eq_cons lead n v
  obtain ⟨trail', first'⟩ := marked_eq_cons lead' n' w
  rw [first, first']
  exact ofNat_cons_lt less small _ _

/-- Of two numbers that are written in the same size the greater one has the greater bytes. -/
theorem marked_lt {lead n v w : Nat} (less : v < w) (small : front n w + lead < 256)
    (us vs : List UInt8) : marked lead n v ++ us < marked lead n w ++ vs := by
  induction n generalizing v w us vs with
  | zero => exact ofNat_cons_lt (Nat.add_lt_add_right less lead) small us vs
  | succ n ih =>
    rw [marked, marked, List.append_assoc, List.append_assoc]
    by_cases less' : v / 64 < w / 64
    · exact ih less' small _ _
    · -- the last byte decides between numbers that agree before it
      have same : v / 64 = w / 64 := by omega
      rw [same]
      exact List.append_left_lt (ofNat_cons_lt (by omega) (by omega) us vs)

def trailing (v : Nat) : Nat :=
  if v ≤ 0x7f then 0 else if v ≤ 0x7ff then 1 else if v ≤ 0xffff then 2 else 3

def leadBits : Nat → Nat
  | 0 => 0
  | 1 => 192
  | 2 => 224
  | 3 => 240
  | _ => 248

theorem toNat_lt (c : Char) : c.toNat < 0x110000 := by
  rcases c.valid with low | ⟨-, high⟩
  · exact Nat.lt_trans low (by decide)
  · exact high

theorem utf8EncodeChar_eq_marked (c : Char) :
    String.utf8EncodeChar c = marked (leadBits (trailing c.toNat)) (trailing c.toNat) c.toNat := by
  have same : c.val.toNat = c.toNat := rfl
  have valid := toNat_lt c
  unfold String.utf8EncodeChar trailing
  simp only [same]
  -- a lead byte is cut to the bits it has, but what is left of the number fits these
  split
  · rfl
  · split
    · simp [leadBits, marked, Nat.mod_eq_of_lt (show c.toNat / 64 < 32 by omega)]
    · split
      · simp [leadBits, marked, Nat.div_div_eq_div_mul,
          Nat.mod_eq_of_lt (show c.toNat / 4096 < 16 by omega)]
      · simp [leadBits, marked, Nat.div_div_eq_div_mul,
          Nat.mod_eq_of_lt (show c.toNat / 262144 < 8 by omega)]

theorem trailing_mono {v w : Nat} (less : v ≤ w) : trailing v ≤ trailing w := by
  unfold trailing
  grind

theorem leadBits_mono {n n' : Nat} (less : n ≤ n') : leadBits n ≤ leadBits n' := by
  unfold leadBits
  grind

/-- A lead byte is below all lead bytes that announce more trailing bytes. -/
theorem lead_lt {v : Nat} (valid : v < 0x110000) :
    front (trailing v) v + leadBits (trailing v) < leadBits (trailing v + 1) := by
  unfold trailing
  split
  · simp only [front, leadBits]
    omega
  · split
    · simp only [front, leadBits]
      omega
    · split
      · simp only [front, leadBits]
        omega
      · simp only [front, leadBits]
        omega

/-- A smaller character is written by smaller bytes, whatever follows it. -/
theorem utf8EncodeChar_lt {c d : Char} (less : c < d) (us vs : List UInt8) :
    String.utf8EncodeChar c ++ us < String.utf8EncodeChar d ++ vs := by
  have less : c.toNat < d.toNat := less
  have small : front (trailing d.toNat) d.toNat + leadBits (trailing d.toNat) < 256 := by
    have most : leadBits (trailing d.toNat + 1) ≤ 248 := by unfold leadBits; split <;> decide
    exact Nat.lt_of_lt_of_le (lead_lt (toNat_lt d)) (Nat.le_trans most (by decide))
  rw [utf8EncodeChar_eq_marked, utf8EncodeChar_eq_marked]
  rcases Nat.eq_or_lt_of_le (trailing_mono (Nat.le_of_lt less)) with same | shorter
  · rw [same]
    exact marked_lt less small us vs
  · refine marked_lt_of_lead ?_ small us vs
    calc front (trailing c.toNat) c.toNat + leadBits (trailing c.toNat)
      _ < leadBits (trailing c.toNat + 1) := lead_lt (toNat_lt c)
      _ ≤ leadBits (trailing d.toNat) := leadBits_mono shorter
      _ ≤ front (trailing d.toNat) d.toNat + leadBits (trailing d.toNat) := Nat.le_add_left _ _

theorem bytes_eq (text : String) : bytes text = text.toList.flatMap String.utf8EncodeChar := by
  have written : text.toUTF8 = text.toList.utf8Encode := by
    rw [← String.toByteArray_ofList, String.ofList_toList, String.toUTF8_eq_toByteArray]
  rw [bytes, written, List.utf8Encode, List.data_toByteArray, List.toList_toArray]

theorem flatMap_utf8EncodeChar_lt {l r : List Char} (less : l < r) :
    l.flatMap String.utf8EncodeChar < r.flatMap String.utf8EncodeChar := by
  induction l generalizing r with
  | nil =>
    cases r with
    | nil => exact absurd less (List.lt_irrefl [])
    | cons d r =>
      obtain ⟨trail, first⟩ := marked_eq_cons (leadBits (trailing d.toNat)) _ d.toNat
      rw [List.flatMap_nil, List.flatMap_cons, utf8EncodeChar_eq_marked, first]
      exact List.nil_lt_cons _ _
  | cons c l ih =>
    cases r with
    | nil => exact absurd less (List.not_lt_nil _)
    | cons d r =>
      rw [List.flatMap_cons, List.flatMap_cons]
      rcases List.cons_lt_cons_iff.mp less with smaller | ⟨rfl, later⟩
      · exact utf8EncodeChar_lt smaller _ _
      · exact List.append_left_lt (ih later)

theorem bytes_lt {s t : String} (less : s < t) : bytes s < bytes t := by
  rw [bytes_eq, bytes_eq]
  exact flatMap_utf8EncodeChar_lt less

/-- Texts compare by their bytes as they compare by their characters. -/
theorem bytes_lt_iff {s t : String} : bytes s < bytes t ↔ s < t := by
  refine ⟨fun less => Decidable.byContradiction fun notLess => ?_, bytes_lt⟩
  by_cases same : s = t
  · rw [same] at less
    exact List.lt_irrefl _ less
  · have greater : t < s := by
      refine Decidable.byContradiction fun notGreater => same ?_
      exact String.le_antisymm (String.not_lt.mp notGreater) (String.not_lt.mp notLess)
    exact List.lt_asymm less (bytes_lt greater)

theorem bytes_le_iff {s t : String} : bytes s ≤ bytes t ↔ s ≤ t := by
  rw [← List.not_lt, ← String.not_lt, bytes_lt_iff]

end ArenaScript
