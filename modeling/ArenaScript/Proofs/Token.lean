import ArenaScript.Token

/-! The delimiter rule: a text may be cut before and after every blank and every punctuation mark,
and its tokens are those of the two parts. -/
namespace ArenaScript

namespace Token

def isDelimiter (c : Char) : Bool := isBlank c || isPunctuation c

theorem scan_of_delimiter {c : Char} (delimiter : isDelimiter c = true)
    (seen : List Char × List (List Char)) :
    scan c seen = ([], splitChars [c] ++ close seen.1 seen.2) := by
  cases blank : isBlank c with
  | true => simp [splitChars, scan, blank, close]
  | false =>
    have mark : isPunctuation c = true := by simpa [isDelimiter, blank] using delimiter
    simp [splitChars, scan, blank, mark, close]

/-- The tokens that follow a finished word are carried along unchanged. -/
theorem foldr_scan_tokens (text : List Char) (tokens : List (List Char)) :
    text.foldr scan ([], tokens) =
      ((text.foldr scan ([], [])).1, (text.foldr scan ([], [])).2 ++ tokens) := by
  have closed : ∀ (word : List Char) (first : List (List Char)),
      close word (first ++ tokens) = close word first ++ tokens := by
    intro word first
    cases word <;> simp [close]
  induction text with
  | nil => rfl
  | cons c text ih =>
    rw [List.foldr_cons, List.foldr_cons, ih]
    cases blank : isBlank c <;> cases mark : isPunctuation c <;>
      simp [scan, blank, mark, closed]

theorem splitChars_append_delimiter {c : Char} (delimiter : isDelimiter c = true)
    (a b : List Char) :
    splitChars (a ++ c :: b) = splitChars a ++ (splitChars [c] ++ splitChars b) := by
  have later : (c :: b).foldr scan ([], []) = ([], splitChars [c] ++ splitChars b) := by
    rw [List.foldr_cons, scan_of_delimiter delimiter]
    rfl
  rw [splitChars, List.foldr_append, later, foldr_scan_tokens]
  cases word : (a.foldr scan ([], [])).1 <;> simp [splitChars, close, word]

/-- A text may be cut before a delimiter. -/
theorem splitChars_append_of_head {a b : List Char} (opens : b.head?.all isDelimiter = true) :
    splitChars (a ++ b) = splitChars a ++ splitChars b := by
  cases b with
  | nil => simp [splitChars, close]
  | cons c b =>
    have delimiter : isDelimiter c = true := by simpa using opens
    rw [splitChars_append_delimiter delimiter, ← List.nil_append (c :: b),
      splitChars_append_delimiter delimiter]
    rfl

/-- A text may be cut after a delimiter. -/
theorem splitChars_append_of_last {a b : List Char} (closes : a.getLast?.all isDelimiter = true) :
    splitChars (a ++ b) = splitChars a ++ splitChars b := by
  obtain rfl | ⟨a, c, rfl⟩ := List.eq_nil_or_concat a
  · rfl
  · have delimiter : isDelimiter c = true := by simpa using closes
    simp only [List.concat_eq_append, List.append_assoc, List.singleton_append]
    rw [splitChars_append_delimiter delimiter, splitChars_append_delimiter delimiter]
    simp [splitChars, close]

theorem splitChars_word {word : List Char} (some : word ≠ [])
    (plain : word.all (fun c => !isDelimiter c) = true) : splitChars word = [word] := by
  have kept : word.foldr scan ([], []) = (word, []) := by
    clear some
    induction word with
    | nil => rfl
    | cons c word ih =>
      simp only [List.all_cons, Bool.and_eq_true, isDelimiter, Bool.not_eq_true',
        Bool.or_eq_false_iff] at plain
      rw [List.foldr_cons, ih plain.2]
      simp [scan, plain.1]
  rw [splitChars, kept]
  simp [close, some]

/-- The text begins with a delimiter or is empty. -/
def Opens (text : String) : Prop := text.toList.head?.all isDelimiter = true

def Closes (text : String) : Prop := text.toList.getLast?.all isDelimiter = true

theorem split_append_of_opens {b : String} (a : String) (opens : Opens b) :
    split (a ++ b) = split a ++ split b := by
  simp [split, splitChars_append_of_head opens]

theorem split_append_of_closes {a : String} (b : String) (closes : Closes a) :
    split (a ++ b) = split a ++ split b := by
  simp [split, splitChars_append_of_last closes]

theorem opens_append {a : String} (b : String) (full : a ≠ "") (opens : Opens a) :
    Opens (a ++ b) := by
  have held : a.toList ≠ [] := by simpa using full
  obtain ⟨c, rest, chars⟩ := List.exists_cons_of_ne_nil held
  simpa [Opens, chars] using opens

/-- A text may be cut on both sides of a mark between delimiters. -/
theorem split_around {mark : String} (a b : String) (full : mark ≠ "") (opens : Opens mark)
    (closes : Closes mark) : split (a ++ mark ++ b) = split a ++ (split mark ++ split b) := by
  rw [String.append_assoc, split_append_of_opens a (opens_append b full opens),
    split_append_of_closes b closes]

theorem split_word {word : String} (some : word ≠ "")
    (plain : word.toList.all (fun c => !isDelimiter c) = true) : split word = [word] := by
  have held : word.toList ≠ [] := by simpa using some
  simp [split, splitChars_word held plain]

/-- A text is a part that ends with a delimiter or is empty, and a word or nothing behind it. -/
theorem exists_last_word (text : List Char) :
    ∃ a word, text = a ++ word ∧ a.getLast?.all isDelimiter = true ∧
      word.all (fun c => !isDelimiter c) = true := by
  induction text with
  | nil => exact ⟨[], [], rfl, rfl, rfl⟩
  | cons c text ih =>
    obtain ⟨a, word, rfl, closes, plain⟩ := ih
    cases a with
    | cons d a => exact ⟨c :: d :: a, word, rfl, by simpa using closes, plain⟩
    | nil =>
      cases delimiter : isDelimiter c with
      | true => exact ⟨[c], word, rfl, by simpa using delimiter, plain⟩
      | false => exact ⟨[], c :: word, rfl, rfl, by simpa [delimiter] using plain⟩

/-- A text whose last token is a mark goes no further than blanks behind it. -/
theorem closes_of_last {text mark : String} (closes : Closes mark)
    (last : (split text).getLast? = some mark) : Closes text := by
  obtain ⟨a, word, chars, closed, plain⟩ := exists_last_word text.toList
  obtain rfl | ⟨front, c, rfl⟩ := List.eq_nil_or_concat word
  · rw [Closes, chars, List.append_nil]
    exact closed
  · rw [List.concat_eq_append] at chars plain
    rw [split, chars, splitChars_append_of_last closed, splitChars_word (by simp) plain] at last
    have same : String.ofList (front ++ [c]) = mark := by simpa using last
    have delimiter : isDelimiter c = true := by simpa [Closes, ← same] using closes
    have plainly := List.all_eq_true.mp plain c (by simp)
    simp [delimiter] at plainly

end Token

end ArenaScript
