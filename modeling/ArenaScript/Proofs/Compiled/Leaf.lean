import ArenaScript.Compiled.Leaf
import ArenaScript.Proofs.Compiled.Quoted
import ArenaScript.Proofs.Word

/-! Names and numbers come back from their texts, provided that what follows cannot belong to
them. -/
namespace ArenaScript

namespace Compiled

/-- The characters that stand right after a name or a number in a written term. -/
def isBreak (c : Char) : Bool := c == ',' || c == ')' || c == ']' || c == '(' || c == ':'

def Breaks (rest : List Char) : Prop := rest.head?.all isBreak = true

/-- One or more ASCII letters. All words and field names of programs are of this kind. -/
def isPlainName (name : String) : Bool :=
  !name.toList.isEmpty && name.toList.all Char.isAlpha

theorem takeWhile_append {p : Char → Bool} {cs rest : List Char} (all : ∀ c ∈ cs, p c = true)
    (stop : ∀ c, isBreak c = true → p c = false) (breaks : Breaks rest) :
    (cs ++ rest).takeWhile p = cs := by
  rw [List.takeWhile_append_of_pos all]
  cases rest with
  | nil => simp
  | cons c rest => simp [stop c (by simpa [Breaks] using breaks)]

theorem eq_of_isBreak {c : Char} (breaks : isBreak c = true) :
    c = ',' ∨ c = ')' ∨ c = ']' ∨ c = '(' ∨ c = ':' := by
  simpa [isBreak, or_assoc] using breaks

theorem isNameChar_of_isBreak (c : Char) (breaks : isBreak c = true) : isNameChar c = false := by
  rcases eq_of_isBreak breaks with rfl | rfl | rfl | rfl | rfl <;> decide

theorem isNameStart_of_isAlpha {c : Char} (letter : c.isAlpha = true) : isNameStart c = true := by
  have range := range_of_alphanum (c := c) (by simp [Char.isAlphanum, letter])
  have ascii : c.toNat < 0x80 := by omega
  simp [isNameStart, Text.isIdentifierStart, ascii, letter]

theorem isNameChar_of_isAlpha {c : Char} (letter : c.isAlpha = true) : isNameChar c = true := by
  have range := range_of_alphanum (c := c) (by simp [Char.isAlphanum, letter])
  have ascii : c.toNat < 0x80 := by omega
  simp [isNameChar, Text.isIdentifierPart, ascii, Char.isAlphanum, letter]

/-- The next character is a letter of the name or a break. -/
theorem next_of_letters {cs rest tail : List Char} {x : Char} (letters : ∀ c ∈ cs, c.isAlpha = true)
    (breaks : Breaks rest) (split : cs ++ rest = x :: tail) :
    isBreak x = true ∨ x.isAlpha = true ∧
      ∃ more, (∀ c ∈ more, c.isAlpha = true) ∧ more ++ rest = tail := by
  cases cs with
  | nil =>
    obtain rfl : rest = x :: tail := split
    exact .inl (by simpa [Breaks] using breaks)
  | cons c cs =>
    obtain ⟨rfl, rfl⟩ := List.cons.inj split
    exact .inr ⟨letters c (by simp), cs, fun d held => letters d (by simp [held]), rfl⟩

/-- No quoted or raw text starts where only letters and then a break stand. -/
theorem name?_of_letters {c : Char} {cs rest : List Char} (first : c.isAlpha = true)
    (letters : ∀ d ∈ cs, d.isAlpha = true) (breaks : Breaks rest) :
    name? (c :: (cs ++ rest)) = some (String.ofList (c :: cs), rest) := by
  have next : ∀ x tail, cs ++ rest = x :: tail → x ∉ ['"', '#', '\''] := by
    intro x tail split quote
    have here := next_of_letters letters breaks split
    simp only [List.mem_cons, List.not_mem_nil, or_false] at quote
    rcases quote with rfl | rfl | rfl <;> simp [isBreak] at here
  -- `br` opens a text of bytes, so here the character after the second one matters
  have second : ∀ x tail, cs ++ rest = 'r' :: x :: tail → x ∉ ['"', '#', '\''] := by
    intro x tail split quote
    rcases next_of_letters letters breaks split with wrong | ⟨-, more, letters, split⟩
    · simp [isBreak] at wrong
    · have here := next_of_letters letters breaks split
      simp only [List.mem_cons, List.not_mem_nil, or_false] at quote
      rcases quote with rfl | rfl | rfl <;> simp [isBreak] at here
  have taken : (cs ++ rest).takeWhile isNameChar = cs :=
    takeWhile_append (fun d held => isNameChar_of_isAlpha (letters d held)) isNameChar_of_isBreak
      breaks
  generalize joined : cs ++ rest = tail at next second taken ⊢
  unfold name?
  split
  all_goals
    rename_i same
    simp only [List.cons.injEq, reduceCtorEq] at same
  iterate 4 exact absurd (by simp) (next _ _ same.2)
  iterate 2 exact absurd (by simp) (second _ _ same.2)
  · obtain ⟨rfl, rfl⟩ := same
    rw [if_pos (isNameStart_of_isAlpha first), taken, ← joined]
    dsimp only
    rw [List.drop_left]

theorem name?_plain {name : String} (plain : isPlainName name = true) {rest : List Char}
    (breaks : Breaks rest) : name? (name.toList ++ rest) = some (name, rest) := by
  have ⟨full, letters⟩ : name.toList ≠ [] ∧ ∀ c ∈ name.toList, c.isAlpha = true := by
    simpa [isPlainName] using plain
  obtain ⟨c, cs, chars⟩ := List.exists_cons_of_ne_nil full
  rw [chars] at letters ⊢
  rw [List.cons_append, name?_of_letters (letters c (by simp))
    (fun d held => letters d (by simp [held])) breaks, ← chars, String.ofList_toList]

theorem name?_none {c : Char} (rest : List Char) (other : isNameStart c = false) :
    name? (c :: rest) = none := by
  unfold name?
  split
  all_goals
    rename_i same
    simp only [List.cons.injEq, reduceCtorEq] at same
  iterate 6
    obtain ⟨rfl, -⟩ := same
    exact absurd other (by decide)
  · obtain ⟨rfl, rfl⟩ := same
    rw [if_neg (by simp [other])]

theorem hexDigit?_of_isBreak (c : Char) (breaks : isBreak c = true) : isIntegerChar c = false := by
  rcases eq_of_isBreak breaks with rfl | rfl | rfl | rfl | rfl <;> decide

theorem isFractionChar_of_isBreak (c : Char) (breaks : isBreak c = true) :
    isFractionChar c = false := by
  rcases eq_of_isBreak breaks with rfl | rfl | rfl | rfl | rfl <;> decide

section Digits

variable {digits rest : List Char}

theorem splitBase_digits (full : digits ≠ []) (decimals : ∀ c ∈ digits, c.isDigit = true)
    (breaks : Breaks rest) : splitBase (digits ++ rest) = (10, digits ++ rest) := by
  -- the letter of a base would be the second character
  have second : ∀ x y tail, digits ++ rest = x :: y :: tail →
      y.isDigit = true ∨ isBreak y = true := by
    intro x y tail split
    match digits with
    | [] => exact absurd rfl full
    | [_] =>
      obtain ⟨-, rfl⟩ := List.cons.inj split
      exact .inr (by simpa [Breaks] using breaks)
    | _ :: d :: _ =>
      obtain ⟨-, same⟩ := List.cons.inj split
      obtain ⟨rfl, -⟩ := List.cons.inj same
      exact .inl (decimals _ (by simp))
  generalize digits ++ rest = cs at second ⊢
  unfold splitBase
  split
  iterate 3 exact absurd (second _ _ _ rfl) (by decide)
  · rfl

theorem isIntegerChar_of_isDigit {c : Char} (digit : c.isDigit = true) :
    isIntegerChar c = true := by
  simp [isIntegerChar, Quoted.hexDigit?, digit]

theorem isFractionChar_of_isDigit {c : Char} (digit : c.isDigit = true) :
    isFractionChar c = true := by
  simp [isFractionChar, digit]

theorem ne_underscore_of_isDigit {c : Char} (digit : c.isDigit = true) : c ≠ '_' := by
  rintro rfl
  exact absurd digit (by decide)

end Digits

theorem digitsValue?_toDigits (n : Nat) : digitsValue? 10 (Nat.toDigits 10 n) = some n := by
  have plain : (Nat.toDigits 10 n).filter (· ≠ '_') = Nat.toDigits 10 n := by
    rw [List.filter_eq_self]
    intro c held
    simpa using ne_underscore_of_isDigit (isDigit_of_mem_digits held)
  rw [digitsValue?, plain]
  refine foldlM_toDigits (by decide) ?_ n
  intro n d small
  simp [Quoted.hexDigit?_digitChar d (by omega), small]

section Decimal

variable (n : Int) {rest : List Char}

def numberStarts : List Char := ['-', '0', '1', '2', '3', '4', '5', '6', '7', '8', '9']

theorem digitChar_mem_numberStarts : ∀ d < 10, Nat.digitChar d ∈ numberStarts := by
  decide

theorem start_of_decimal : ∃ c tail, (decimal n).toList = c :: tail ∧ c ∈ numberStarts := by
  obtain ⟨c, tail, chars⟩ := List.exists_cons_of_ne_nil
    (Nat.toDigits_ne_nil : Nat.toDigits 10 n.natAbs ≠ [])
  obtain ⟨d, small, rfl⟩ : ∃ d, d < 10 ∧ c = d.digitChar :=
    digit_of_mem_toDigits (by decide) (chars ▸ List.mem_cons_self)
  rw [toList_decimal]
  split
  · exact ⟨'-', _, rfl, by decide⟩
  · exact ⟨_, tail, chars, digitChar_mem_numberStarts d small⟩

theorem leaf?_of_start {c : Char} (cs : List Char) (start : c ∈ numberStarts) :
    leaf? (c :: cs) = number? (c :: cs) := by
  unfold leaf?
  split
  all_goals
    first
    | rfl
    | rename_i same
      obtain ⟨rfl, -⟩ := List.cons.inj same
      exact absurd start (by decide)

theorem takeWhile_digits (p : Char → Bool) (inside : ∀ {c : Char}, c.isDigit = true → p c = true)
    (stop : ∀ c, isBreak c = true → p c = false) (breaks : Breaks rest) :
    (Nat.toDigits 10 n.natAbs ++ rest).takeWhile p = Nat.toDigits 10 n.natAbs :=
  takeWhile_append (fun _ held => inside (isDigit_of_mem_digits held)) stop breaks

theorem suffix?_breaks {known : List String} (absent : "" ∉ known) (breaks : Breaks rest) :
    suffix? known rest = none := by
  have nothing : ([] ++ rest).takeWhile isNameChar = [] :=
    takeWhile_append (by simp) isNameChar_of_isBreak breaks
  rw [List.nil_append] at nothing
  simp [suffix?, nothing, absent]

theorem integer?_decimal (breaks : Breaks rest) :
    integer? ((decimal n).toList ++ rest) = some (.number n "", rest) := by
  have full : Nat.toDigits 10 n.natAbs ≠ [] := Nat.toDigits_ne_nil
  have taken := takeWhile_digits n isIntegerChar isIntegerChar_of_isDigit hexDigit?_of_isBreak
    breaks
  have left : (Nat.toDigits 10 n.natAbs ++ rest).dropWhile isIntegerChar = rest := by
    have parts := @List.takeWhile_append_dropWhile _ isIntegerChar
      (Nat.toDigits 10 n.natAbs ++ rest)
    rw [taken] at parts
    exact List.append_cancel_left parts
  have ending : suffix? integerSuffixes rest = none := suffix?_breaks (by decide) breaks
  have base := splitBase_digits full (fun c held => isDigit_of_mem_digits held) breaks
  unfold integer?
  simp only [splitSign_decimal_append, left, ending, base, taken, digitsValue?_toDigits,
    List.drop_left]
  obtain ⟨c, cs, chars⟩ := List.exists_cons_of_ne_nil full
  have digit : c.isDigit = true := isDigit_of_mem_digits (chars ▸ List.mem_cons_self)
  have start : (Nat.toDigits 10 n.natAbs).head? = some c := by rw [chars, List.head?_cons]
  have signed : (if n < 0 then -(n.natAbs : Int) else n.natAbs) = n := by omega
  rw [start]
  dsimp only
  rw [if_neg (ne_underscore_of_isDigit digit)]
  simp only [decide_eq_true_eq, Option.bind_eq_bind, Option.bind_some, Option.pure_def, signed]

theorem number?_decimal (breaks : Breaks rest) :
    number? ((decimal n).toList ++ rest) = some (.number n "", rest) := by
  have whole : startsFraction ((decimal n).toList ++ rest) = false := by
    simp only [startsFraction, splitSign_decimal_append,
      takeWhile_digits n isIntegerChar isIntegerChar_of_isDigit hexDigit?_of_isBreak breaks,
      takeWhile_digits n isFractionChar isFractionChar_of_isDigit isFractionChar_of_isBreak breaks]
    simp
  rw [number?, whole, integer?_decimal n breaks]
  rfl

end Decimal

end Compiled

end ArenaScript
