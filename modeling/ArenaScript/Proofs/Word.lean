import ArenaScript.Program.Render
import ArenaScript.Proofs.Token

/-! Words that stand for one token: decimal numbers, which read back as the number they were
written for, and variable names. -/
namespace ArenaScript

theorem toList_decimal (n : Int) :
    (decimal n).toList =
      if n < 0 then '-' :: Nat.toDigits 10 n.natAbs else Nat.toDigits 10 n.natAbs := by
  unfold decimal
  split <;> simp

theorem isDigit_of_mem_digits {n : Nat} {c : Char} (held : c ∈ Nat.toDigits 10 n) :
    c.isDigit = true :=
  Nat.isDigit_of_mem_toDigits (by decide) (by decide) held

theorem splitSign_of_isDigit {c : Char} (digit : c.isDigit = true) (rest : List Char) :
    Word.splitSign (c :: rest) = (false, c :: rest) := by
  unfold Word.splitSign
  split
  · rename_i same
    cases same
    exact absurd digit (by decide)
  · rename_i same
    cases same
    exact absurd digit (by decide)
  · rfl

theorem splitSign_decimal_append (n : Int) (rest : List Char) :
    Word.splitSign ((decimal n).toList ++ rest) =
      (decide (n < 0), Nat.toDigits 10 n.natAbs ++ rest) := by
  rw [toList_decimal]
  by_cases negative : n < 0
  · simp [negative, Word.splitSign]
  · obtain ⟨c, cs, chars⟩ := List.exists_cons_of_ne_nil
      (Nat.toDigits_ne_nil : Nat.toDigits 10 n.natAbs ≠ [])
    have digit : c.isDigit = true := isDigit_of_mem_digits (chars ▸ List.mem_cons_self)
    simp [negative, chars, splitSign_of_isDigit digit]

theorem splitSign_decimal (n : Int) :
    Word.splitSign (decimal n).toList = (decide (n < 0), Nat.toDigits 10 n.natAbs) := by
  simpa using splitSign_decimal_append n []

theorem isNumber_decimal (n : Int) : Word.isNumber (decimal n) = true := by
  have some : Nat.toDigits 10 n.natAbs ≠ [] := Nat.toDigits_ne_nil
  simp only [Word.isNumber, splitSign_decimal, Bool.and_eq_true, Bool.not_eq_true',
    List.isEmpty_eq_false_iff, List.all_eq_true]
  exact ⟨some, fun c held => isDigit_of_mem_digits held⟩

theorem toInt_decimal (n : Int) : Word.toInt (decimal n) = n := by
  simp only [Word.toInt, splitSign_decimal, Nat.ofDigitChars_ten_toDigits, decide_eq_true_eq]
  omega

theorem range_of_alphanum {c : Char} (letter : c.isAlphanum = true) :
    (48 ≤ c.toNat ∧ c.toNat ≤ 57) ∨ (65 ≤ c.toNat ∧ c.toNat ≤ 90) ∨
      (97 ≤ c.toNat ∧ c.toNat ≤ 122) := by
  have classes : c.isAlphanum = (decide (c.val ≥ 'A'.val ∧ c.val ≤ 'Z'.val) ||
      (c.val ≥ 'a'.val && c.val ≤ 'z'.val) || (c.val ≥ '0'.val && c.val ≤ '9'.val)) := rfl
  rw [classes] at letter
  simp only [Bool.or_eq_true, Bool.and_eq_true, decide_eq_true_eq, UInt32.le_iff_toNat_le,
    ge_iff_le, Char.toNat_val, Char.reduceToNat] at letter
  omega

theorem ne_of_alphanum {c mark : Char} (letter : c.isAlphanum = true)
    (other : mark.isAlphanum = false) : c ≠ mark := by
  rintro rfl
  rw [letter] at other
  contradiction

theorem not_delimiter_of_alphanum {c : Char} (letter : c.isAlphanum = true) :
    Token.isDelimiter c = false := by
  have range := range_of_alphanum letter
  have blank : Token.isBlank c = false := by
    simp only [Token.isBlank, Bool.or_eq_false_iff, Bool.and_eq_false_iff, beq_eq_false_iff_ne,
      decide_eq_false_iff_not]
    omega
  simp [Token.isDelimiter, Token.isPunctuation, blank, ne_of_alphanum letter]

theorem plain_of_splitSign {chars : List Char}
    (plain : ∀ c ∈ (Word.splitSign chars).2, Token.isDelimiter c = false) :
    ∀ c ∈ chars, Token.isDelimiter c = false := by
  unfold Word.splitSign at plain
  split at plain
  · simpa using ⟨by decide, plain⟩
  · simpa using ⟨by decide, plain⟩
  · exact plain

theorem split_number {word : String} (numeral : Word.isNumber word = true) :
    Token.split word = [word] := by
  simp only [Word.isNumber, Bool.and_eq_true, Bool.not_eq_true', List.isEmpty_eq_false_iff,
    List.all_eq_true] at numeral
  obtain ⟨full, digits⟩ := numeral
  have plain : ∀ c ∈ word.toList, Token.isDelimiter c = false := by
    apply plain_of_splitSign
    intro c held
    exact not_delimiter_of_alphanum (by simp [Char.isAlphanum, digits c held])
  refine Token.split_word ?_ ?_
  · rintro rfl
    exact full rfl
  · simpa using plain

theorem split_decimal (n : Int) : Token.split (decimal n) = [decimal n] :=
  split_number (isNumber_decimal n)

theorem split_variable {name : String} (form : Word.isVariable name = true) :
    Token.split name = [name] := by
  unfold Word.isVariable at form
  split at form
  · rename_i first rest chars
    simp only [Bool.and_eq_true, List.all_eq_true] at form
    refine Token.split_word ?_ ?_
    · rintro rfl
      simp at chars
    · have start : Token.isDelimiter first = false :=
        not_delimiter_of_alphanum (by simp [Char.isAlphanum, form.1])
      have others : ∀ c ∈ rest, Token.isDelimiter c = false :=
        fun c held => not_delimiter_of_alphanum (form.2 c held)
      simpa [chars] using ⟨by decide, start, others⟩
  · cases form

end ArenaScript
