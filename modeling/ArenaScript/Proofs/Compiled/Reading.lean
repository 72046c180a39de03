import ArenaScript.Proofs.Compiled.Items

/-! Reading a written term gives the term back, on every level of the layout. -/
namespace ArenaScript

namespace Compiled

mutual

/-- The terms that programs are written as: names of letters, bare numbers, no empty record. -/
def Term.isPlain : Term → Bool
  | .word name => isPlainName name
  | .number _ suffix => suffix == ""
  | .text _ => true
  | .list items => itemsPlain items
  | .tuple name items => name.all isPlainName && itemsPlain items
  | .record name fields => name.all isPlainName && !fields.isEmpty && fieldsPlain fields
  | .map _ => false
  | .foreign => false

def itemsPlain : List Term → Bool
  | [] => true
  | t :: rest => t.isPlain && itemsPlain rest

def fieldsPlain : List (String × Term) → Bool
  | [] => true
  | (name, t) :: rest => isPlainName name && t.isPlain && fieldsPlain rest

end

section Names

variable {name : String} {rest : List Char} {depth : Nat}

theorem isSolid_of_isAlphanum {c : Char} (letter : c.isAlphanum = true) : isSolid c = true := by
  have range := range_of_alphanum letter
  have solid : isGap c = false := by
    simp only [isGap, Bool.or_eq_false_iff, Bool.and_eq_false_iff, beq_eq_false_iff_ne,
      decide_eq_false_iff_not]
    omega
  simp [isSolid, solid, ne_of_alphanum letter]

theorem start_of_plain (plain : isPlainName name = true) :
    ∃ c tail, name.toList = c :: tail ∧ c.isAlpha = true ∧ isSolid c = true := by
  have ⟨full, letters⟩ : name.toList ≠ [] ∧ ∀ c ∈ name.toList, c.isAlpha = true := by
    simpa [isPlainName] using plain
  obtain ⟨c, tail, chars⟩ := List.exists_cons_of_ne_nil full
  have letter : c.isAlpha = true := letters c (by simp [chars])
  exact ⟨c, tail, chars, letter, isSolid_of_isAlphanum (by simp [Char.isAlphanum, letter])⟩

def isBracket (c : Char) : Bool := c == '[' || c == '(' || c == '\x7b'

theorem readTerm_word (plain : isPlainName name = true) (ends : EndsTerm rest) :
    readTerm (depth + 1) (name.toList ++ rest) = .ok (.word name, rest) := by
  obtain ⟨c, tail, chars, letter, -⟩ := start_of_plain plain
  have found := name?_plain plain ends.breaks
  rw [chars, List.cons_append] at found ⊢
  rw [readTerm]
  · rw [found]
    dsimp only [bind, Except.bind]
    rw [ends.skip]
    dsimp only
    split
    · rcases ends.eq with wrong | ⟨d, more, wrong, which⟩
      · cases wrong
      · cases wrong
        simp at which
    · rfl
  all_goals
    rintro _ same
    cases same
    exact absurd letter (by decide)

theorem readTerm_opened (plain : isPlainName name = true) :
    readTerm (depth + 1) (name.toList ++ '(' :: rest) =
      parenthesized (some name) (readTerm depth) rest := by
  obtain ⟨c, tail, chars, letter, -⟩ := start_of_plain plain
  have breaks : Breaks ('(' :: rest) := rfl
  have found := name?_plain plain breaks
  rw [chars, List.cons_append] at found ⊢
  rw [readTerm]
  · rw [found]
    dsimp only [bind, Except.bind]
    rw [skip_none (by decide) (by decide)]
    rfl
  all_goals
    rintro _ same
    cases same
    exact absurd letter (by decide)

theorem readTerm_leaf {c : Char} {cs : List Char} (noName : name? (c :: cs) = none)
    (noBracket : isBracket c = false) :
    readTerm (depth + 1) (c :: cs) = orMalformed (leaf? (c :: cs)) := by
  rw [readTerm]
  · rw [noName]
  all_goals
    rintro _ same
    cases same
    exact absurd noBracket (by decide)

theorem opensRecord_of_none {c : Char} {cs : List Char} (solid : isSolid c = true)
    (noName : name? (c :: cs) = none) : opensRecord (c :: cs) = false := by
  rw [opensRecord, skip_solid solid]
  dsimp only
  rw [noName]

theorem opensRecord_named (plain : isPlainName name = true) {d : Char} {cs : List Char}
    (mark : isBreak d = true) : opensRecord (name.toList ++ d :: cs) = (d == ':') := by
  obtain ⟨c, tail, chars, -, begins⟩ := start_of_plain plain
  have breaks : Breaks (d :: cs) := mark
  have found := name?_plain plain breaks
  have solid : skip (name.toList ++ d :: cs) = .ok (name.toList ++ d :: cs) := by
    rw [chars, List.cons_append]
    exact skip_solid begins
  rw [opensRecord, solid]
  dsimp only
  rw [found]
  dsimp only
  rcases eq_of_isBreak mark with rfl | rfl | rfl | rfl | rfl <;>
    rw [skip_none (by decide) (by decide)] <;> rfl

end Names

section Legible

variable {depth level : Nat}

theorem EndsTerm.isBreak {c : Char} {rest : List Char} (ends : EndsTerm (c :: rest)) :
    isBreak c = true ∧ c ≠ ':' := by
  have which : c = ',' ∨ c = ')' ∨ c = ']' := by simpa [EndsTerm, or_assoc] using ends
  rcases which with rfl | rfl | rfl <;> decide

theorem legible_word {name : String} (plain : isPlainName name = true) :
    Legible (readTerm (depth + 1)) false name (.word name) := by
  obtain ⟨c, tail, chars, -, solid⟩ := start_of_plain plain
  refine ⟨⟨c, tail, chars, solid⟩, ?_, ?_⟩
  · intro d rest ends
    rw [opensRecord_named plain ends.isBreak.1]
    simpa using ends.isBreak.2
  · exact fun rest ends => readTerm_word plain ends

theorem legible_number (n : Int) :
    Legible (readTerm (depth + 1)) false (decimal n) (.number n "") := by
  obtain ⟨c, tail, chars, start⟩ := start_of_decimal n
  have ⟨noStart, solid, noBracket⟩ : isNameStart c = false ∧ isSolid c = true ∧
      isBracket c = false := by
    simp only [numberStarts, List.mem_cons, List.not_mem_nil, or_false] at start
    rcases start with rfl | rfl | rfl | rfl | rfl | rfl | rfl | rfl | rfl | rfl | rfl <;> decide
  refine ⟨⟨c, tail, chars, solid⟩, ?_, ?_⟩
  · intro d rest ends
    rw [chars]
    exact opensRecord_of_none solid (name?_none _ noStart)
  · intro rest ends
    have found := number?_decimal n ends.breaks
    rw [chars, List.cons_append] at found ⊢
    rw [readTerm_leaf (name?_none _ noStart) noBracket, leaf?_of_start _ start, found]
    rfl

theorem legible_text (s : String) :
    Legible (readTerm (depth + 1)) false (Quoted.write s) (.text s) := by
  have chars : (Quoted.write s).toList = '"' :: (s.toList.flatMap Quoted.escape ++ ['"']) := by
    simp [Quoted.write]
  have noName : ∀ cs, name? ('"' :: cs) = none := fun cs => name?_none cs (by decide)
  refine ⟨⟨_, _, chars, by decide⟩, ?_, ?_⟩
  · intro d rest ends
    rw [chars]
    exact opensRecord_of_none (by decide) (noName _)
  · intro rest ends
    rw [chars, List.cons_append, readTerm_leaf (noName _) (by decide), leaf?, List.append_assoc,
      List.singleton_append, Quoted.read_escape]
    rfl

theorem parenthesized_tuple {term : Read Term} {name : Option String} {texts : List String}
    {parts : List Term} {cs rest : List Char} (laid : Laid ')' rest texts cs)
    (each : List.Forall₂ (Legible term false) texts parts) :
    parenthesized name term cs = .ok (.tuple name parts, rest) := by
  have noRecord : opensRecord cs = false := by
    cases each with
    | nil =>
      cases laid with
      | closed blank =>
        rw [opensRecord, skip_gap blank, skip_none (by decide) (by decide)]
        dsimp only
        rw [name?_none _ (by decide)]
    | cons first others => exact opensRecord_of_laid (.inl rfl) laid first
  have read := items_of_laid (.inl rfl) laid each (Nat.lt_succ_self cs.length)
  rw [parenthesized, noRecord, if_neg (by decide), read]
  rfl

theorem parenthesized_record {term : Read Term} {name : Option String} {texts : List String}
    {fields : List (String × Term)} {cs rest : List Char} (laid : Laid ')' rest texts cs)
    (each : List.Forall₂ (Legible (field term) true) texts fields) (full : fields ≠ []) :
    parenthesized name term cs = .ok (.record name fields, rest) := by
  have record : opensRecord cs = true := by
    cases each with
    | nil => exact absurd rfl full
    | cons first others => exact opensRecord_of_laid (.inl rfl) laid first
  have read := items_of_laid (.inl rfl) laid each (Nat.lt_succ_self cs.length)
  rw [parenthesized, record, if_pos rfl, read]
  rfl

/-- A text that opens a parenthesis, after a name or without one. -/
theorem legible_opened {name : Option String} (plain : name.all isPlainName = true) {text : String}
    {t : Term} (inside : ∀ rest, ∃ cs, text.toList ++ rest = (name.getD "").toList ++ '(' :: cs ∧
      parenthesized name (readTerm depth) cs = .ok (t, rest)) :
    Legible (readTerm (depth + 1)) false text t := by
  obtain ⟨first, shape, -⟩ := inside []
  rw [List.append_nil] at shape
  cases name with
  | none =>
    refine ⟨⟨'(', first, shape, by decide⟩, ?_, ?_⟩
    · intro c rest ends
      rw [shape]
      exact opensRecord_of_none (by decide) (name?_none _ (by decide))
    · intro rest ends
      obtain ⟨cs, chars, read⟩ := inside rest
      rw [chars]
      exact read
  | some name =>
    have letters : isPlainName name = true := by simpa using plain
    obtain ⟨c, tail, start, -, solid⟩ := start_of_plain letters
    refine ⟨⟨c, tail ++ '(' :: first, by simpa [start] using shape, solid⟩, ?_, ?_⟩
    · intro d rest ends
      obtain ⟨cs, chars, -⟩ := inside (d :: rest)
      rw [chars]
      exact opensRecord_named letters (by decide)
    · intro rest ends
      obtain ⟨cs, chars, read⟩ := inside rest
      rw [chars]
      exact (readTerm_opened letters).trans read

theorem legible_tuple {name : Option String} (plain : name.all isPlainName = true)
    {texts : List String} {parts : List Term}
    (each : List.Forall₂ (Legible (readTerm depth) false) texts parts) :
    Legible (readTerm (depth + 1)) false (name.getD "" ++ "(" ++ ", ".intercalate texts ++ ")")
      (.tuple name parts) := by
  refine legible_opened plain fun rest => ?_
  cases each with
  | nil =>
    exact ⟨')' :: rest, by simp, parenthesized_tuple (@Laid.closed ')' rest [] rfl) .nil⟩
  | cons first others =>
    exact ⟨_, by simp, parenthesized_tuple (@laid_intercalate ')' rest _ _ [] rfl)
      (.cons first others)⟩

theorem legible_record {name : Option String} (plain : name.all isPlainName = true)
    {texts : List String} {fields : List (String × Term)}
    (each : List.Forall₂ (Legible (field (readTerm depth)) true) texts fields)
    (full : fields ≠ []) :
    Legible (readTerm (depth + 1)) false (layOut level (name.getD "" ++ "(") ")" texts)
      (.record name fields) := by
  refine legible_opened plain fun rest => ?_
  obtain ⟨cs, shape, laid⟩ := @laid_layOut ')' level (name.getD "" ++ "(") ")" rfl texts rest
  exact ⟨cs, by simpa using shape, parenthesized_record laid each full⟩

theorem legible_list {texts : List String} {parts : List Term}
    (each : List.Forall₂ (Legible (readTerm depth) false) texts parts) :
    Legible (readTerm (depth + 1)) false (layOut level "[" "]" texts) (.list parts) := by
  have laid := @laid_layOut ']' level "[" "]" rfl texts
  obtain ⟨first, shape, -⟩ := laid []
  rw [List.append_nil] at shape
  refine ⟨⟨'[', first, shape, by decide⟩, ?_, ?_⟩
  · intro c rest ends
    rw [shape]
    exact opensRecord_of_none (by decide) (name?_none _ (by decide))
  · intro rest ends
    obtain ⟨cs, chars, inside⟩ := laid rest
    have read := items_of_laid (.inr rfl) inside each (Nat.lt_succ_self cs.length)
    rw [chars]
    change (items (readTerm depth) ']' (cs.length + 1) cs >>= fun _ => _) = _
    rw [read]
    rfl

theorem legible_field {term : Read Term} {label : Bool} {name text : String} {t : Term}
    (plain : isPlainName name = true) (inner : Legible term label text t) :
    Legible (field term) true (name ++ ": " ++ text) (name, t) := by
  obtain ⟨c, tail, start, -, solid⟩ := start_of_plain plain
  have shape : ∀ rest, (name ++ ": " ++ text).toList ++ rest =
      name.toList ++ ':' :: ' ' :: (text.toList ++ rest) := by
    intro rest
    simp
  refine ⟨⟨c, tail ++ ':' :: ' ' :: text.toList, by simp [start], solid⟩, ?_, ?_⟩
  · intro d rest ends
    rw [shape]
    exact opensRecord_named plain (by decide)
  · intro rest ends
    obtain ⟨e, more, chars, begins⟩ := inner.starts
    have read := inner.reads rest ends
    have breaks : Breaks (':' :: ' ' :: (text.toList ++ rest)) := rfl
    rw [shape, field, name?_plain plain breaks]
    dsimp only [orMalformed, bind, Except.bind]
    rw [skip_none (by decide) (by decide)]
    dsimp only [expectChar]
    rw [if_pos rfl]
    dsimp only
    rw [skip_blank (by decide)]
    rw [chars, List.cons_append] at read ⊢
    rw [skip_solid begins]
    dsimp only
    rw [read]
    rfl

mutual

theorem Term.legible (t : Term) {depth level : Nat} (plain : t.isPlain = true)
    (fits : t.height < depth) : Legible (readTerm depth) false (t.write level) t := by
  obtain _ | depth := depth
  · omega
  match t with
  | .word name => exact legible_word plain
  | .number n suffix =>
    obtain rfl : suffix = "" := by simpa [Term.isPlain] using plain
    simpa [Term.write] using legible_number n
  | .text s => exact legible_text s
  | .list parts =>
    exact legible_list (legible_items parts plain (Nat.le_of_lt_succ fits))
  | .tuple name parts =>
    simp only [Term.isPlain, Bool.and_eq_true] at plain
    exact legible_tuple plain.1 (legible_items parts plain.2 (Nat.le_of_lt_succ fits))
  | .record name fields =>
    simp only [Term.isPlain, Bool.and_eq_true, Bool.not_eq_true', List.isEmpty_eq_false_iff]
      at plain
    exact legible_record plain.1.1 (legible_fields fields plain.2 (Nat.le_of_lt_succ fits))
      plain.1.2

theorem legible_items (parts : List Term) {depth level : Nat} (plain : itemsPlain parts = true)
    (fits : heightOfItems parts ≤ depth) :
    List.Forall₂ (Legible (readTerm depth) false) (writeItems level parts) parts := by
  match parts with
  | [] => exact .nil
  | t :: rest =>
    simp only [itemsPlain, Bool.and_eq_true] at plain
    simp only [heightOfItems, Nat.max_le] at fits
    exact .cons (Term.legible t plain.1 fits.1) (legible_items rest plain.2 fits.2)

theorem legible_fields (fields : List (String × Term)) {depth level : Nat}
    (plain : fieldsPlain fields = true) (fits : heightOfFields fields ≤ depth) :
    List.Forall₂ (Legible (field (readTerm depth)) true) (writeFields level fields) fields := by
  match fields with
  | [] => exact .nil
  | (name, t) :: rest =>
    simp only [fieldsPlain, Bool.and_eq_true] at plain
    simp only [heightOfFields, Nat.max_le] at fits
    exact .cons (legible_field plain.1.1 (Term.legible t plain.1.2 fits.1))
      (legible_fields rest plain.2 fits.2)

end

end Legible

/-- A written term that is not nested too deep is read back, under the rules that hold where a text
names no attribute. -/
theorem readText_write {t : Term} {limit : Nat} (plain : t.isPlain = true)
    (fits : t.height ≤ limit) : readText limit (t.write 0) = .ok ({}, t) := by
  have legible : Legible (readTerm (limit + 1)) false (t.write 0) t :=
    t.legible plain (Nat.lt_succ_of_le fits)
  obtain ⟨c, tail, chars, solid⟩ := legible.starts
  have read := legible.reads [] rfl
  have bare : attributes {} ((t.write 0).toList.length + 1) (t.write 0).toList =
      .ok ({}, (t.write 0).toList) := by
    rw [attributes, chars, skip_solid solid]
    dsimp only [bind, Except.bind]
    split
    · rename_i same
      cases same
      exact absurd solid (by decide)
    · rfl
  rw [List.append_nil] at read
  rw [readText]
  dsimp only
  rw [bare]
  dsimp only [bind, Except.bind]
  rw [read]
  rfl

end Compiled

end ArenaScript
