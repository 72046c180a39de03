import ArenaScript.Proofs.Token

/-! What the tokens of a text are. Four laws say it: an empty text has none, a blank separates, a
punctuation mark is a token of its own, and any other run of characters is one token. The laws leave
no choice, and whatever else is true of tokens follows from them. A walk that remembers only where
the pending word began cuts the same tokens out of the bytes of the text. -/
namespace ArenaScript

namespace Token

def isPlain (text : String) : Bool := text.toList.all fun c => !isDelimiter c

/-- A token is one punctuation mark or a word without delimiters, and it is not empty. -/
def IsToken (token : String) : Prop :=
  token ≠ "" ∧
    ((∃ c, isPunctuation c = true ∧ token = String.singleton c) ∨ isPlain token = true)

/-- One blank or more and nothing else. -/
def isGap (text : String) : Bool := text != "" && text.toList.all isBlank

/-- The tokens one behind the other, with these texts between them. -/
def spacedBy (gap : Nat → String) : List String → String
  | [] => ""
  | [token] => token
  | token :: next :: rest => token ++ gap 0 ++ spacedBy (fun i => gap (i + 1)) (next :: rest)

structure Delimits (f : String → List String) : Prop where
  nothing : f "" = []
  blank : ∀ (a b : String) (c : Char), isBlank c = true →
    f (a ++ String.singleton c ++ b) = f a ++ f b
  mark : ∀ (a b : String) (c : Char), isPunctuation c = true →
    f (a ++ String.singleton c ++ b) = f a ++ [String.singleton c] ++ f b
  word : ∀ word : String, word ≠ "" → isPlain word = true → f word = [word]

theorem not_blank_of_punctuation {c : Char} (mark : isPunctuation c = true) :
    isBlank c = false := by
  simp only [isPunctuation, Bool.or_eq_true, beq_iff_eq] at mark
  rcases mark with ((((rfl | rfl) | rfl) | rfl) | rfl) | rfl <;> decide

theorem splitChars_blank {c : Char} (blank : isBlank c = true) : splitChars [c] = [] := by
  simp [splitChars, scan, blank, close]

theorem splitChars_mark {c : Char} (mark : isPunctuation c = true) : splitChars [c] = [[c]] := by
  simp [splitChars, scan, not_blank_of_punctuation mark, mark, close]

theorem split_delimits : Delimits split where
  nothing := by decide
  blank a b c blank := by
    have delimiter : isDelimiter c = true := by simp [isDelimiter, blank]
    simp [split, splitChars_append_delimiter delimiter, splitChars_blank blank]
  mark a b c mark := by
    have delimiter : isDelimiter c = true := by simp [isDelimiter, mark]
    simp [split, splitChars_append_delimiter delimiter, splitChars_mark mark]
  word _ some plain := split_word some plain

/-- Every text is made of plain words by putting delimiters between two texts. -/
theorem delimiterInduction {motive : String → Prop} (nothing : motive "")
    (word : ∀ word, word ≠ "" → isPlain word = true → motive word)
    (blank : ∀ a b c, isBlank c = true → motive a → motive b →
      motive (a ++ String.singleton c ++ b))
    (mark : ∀ a b c, isPunctuation c = true → motive a → motive b →
      motive (a ++ String.singleton c ++ b))
    (text : String) : motive text := by
  induction size : text.length using Nat.strongRecOn generalizing text with
  | ind n ih =>
    subst size
    by_cases plain : isPlain text = true
    · by_cases empty : text = ""
      · exact empty ▸ nothing
      · exact word text empty plain
    · obtain ⟨c, held, delimiter⟩ : ∃ c ∈ text.toList, isDelimiter c = true := by
        simpa [isPlain] using plain
      obtain ⟨front, back, parts⟩ := List.append_of_mem held
      have whole : text = String.ofList front ++ String.singleton c ++ String.ofList back := by
        simp [String.ext_iff, parts]
      have left : motive (String.ofList front) := ih _ (by simp [whole]; omega) _ rfl
      have right : motive (String.ofList back) := ih _ (by simp [whole]) _ rfl
      rw [whole]
      rcases Bool.or_eq_true_iff.mp delimiter with is | is
      · exact blank _ _ c is left right
      · exact mark _ _ c is left right

namespace Delimits

variable {f g : String → List String}

theorem unique (one : Delimits f) (other : Delimits g) : f = g := by
  funext text
  induction text using delimiterInduction with
  | nothing => rw [one.nothing, other.nothing]
  | word word some plain => rw [one.word word some plain, other.word word some plain]
  | blank a b c is left right => rw [one.blank a b c is, other.blank a b c is, left, right]
  | mark a b c is left right => rw [one.mark a b c is, other.mark a b c is, left, right]

theorem isToken (rule : Delimits f) (text : String) : ∀ token ∈ f text, IsToken token := by
  induction text using delimiterInduction with
  | nothing =>
    rw [rule.nothing]
    nofun
  | word word some plain =>
    rw [rule.word word some plain]
    intro token held
    rw [List.mem_singleton.mp held]
    exact ⟨some, .inr plain⟩
  | blank a b c is left right =>
    rw [rule.blank a b c is]
    exact List.forall_mem_append.mpr ⟨left, right⟩
  | mark a b c is left right =>
    rw [rule.mark a b c is]
    have own : ∀ token ∈ [String.singleton c], IsToken token := by
      intro token held
      rw [List.mem_singleton.mp held]
      exact ⟨by simp, .inl ⟨c, is, rfl⟩⟩
    exact List.forall_mem_append.mpr ⟨List.forall_mem_append.mpr ⟨left, own⟩, right⟩

theorem toList_join (rule : Delimits f) (text : String) :
    (String.join (f text)).toList = text.toList.filter fun c => !isBlank c := by
  induction text using delimiterInduction with
  | nothing => rw [rule.nothing]; rfl
  | word word some plain =>
    have kept : word.toList.filter (fun c => !isBlank c) = word.toList := by
      rw [List.filter_eq_self]
      intro c held
      have free := List.all_eq_true.mp plain c held
      cases is : isBlank c
      · rfl
      · simp [isDelimiter, is] at free
    rw [rule.word word some plain, kept, String.join_cons, String.join_nil, String.append_empty]
  | blank a b c is left right =>
    rw [rule.blank a b c is, String.join_append, String.toList_append, left, right]
    simp [is]
  | mark a b c is left right =>
    rw [rule.mark a b c is, String.join_append, String.join_append, String.toList_append,
      String.toList_append, left, right]
    simp [not_blank_of_punctuation is]

theorem of_blanks (rule : Delimits f) {blanks : List Char} (all : blanks.all isBlank = true)
    (b : String) : f (String.ofList blanks ++ b) = f b := by
  induction blanks with
  | nil => simp
  | cons c blanks ih =>
    obtain ⟨is, others⟩ : isBlank c = true ∧ blanks.all isBlank = true := by simpa using all
    have first := rule.blank "" (String.ofList blanks ++ b) c is
    rw [rule.nothing, List.nil_append, ih others] at first
    rw [← first]
    congr 1
    simp [String.ext_iff]

theorem around_gap (rule : Delimits f) {gap : String} (is : isGap gap = true) (a b : String) :
    f (a ++ gap ++ b) = f a ++ f b := by
  simp only [isGap, Bool.and_eq_true, bne_iff_ne] at is
  obtain ⟨some, all⟩ := is
  have held : gap.toList ≠ [] := by simpa using some
  obtain ⟨c, blanks, chars⟩ := List.exists_cons_of_ne_nil held
  obtain ⟨blank, others⟩ : isBlank c = true ∧ blanks.all isBlank = true := by
    simpa [chars] using all
  have parts : a ++ gap ++ b = a ++ String.singleton c ++ (String.ofList blanks ++ b) := by
    simp [String.ext_iff, chars]
  rw [parts, rule.blank a _ c blank, rule.of_blanks others]

theorem of_token (rule : Delimits f) {token : String} (is : IsToken token) : f token = [token] := by
  obtain ⟨some, ⟨c, mark, rfl⟩ | plain⟩ := is
  · have alone := rule.mark "" "" c mark
    rwa [rule.nothing, String.empty_append, String.append_empty] at alone
  · exact rule.word token some plain

theorem of_spacedBy (rule : Delimits f) {gap : Nat → String} (gaps : ∀ i, isGap (gap i) = true)
    {tokens : List String} (are : ∀ token ∈ tokens, IsToken token) :
    f (spacedBy gap tokens) = tokens := by
  induction tokens generalizing gap with
  | nil => exact rule.nothing
  | cons token rest ih =>
    obtain ⟨is, others⟩ := List.forall_mem_cons.mp are
    cases rest with
    | nil => exact rule.of_token is
    | cons next rest =>
      rw [spacedBy, rule.around_gap (gaps 0), rule.of_token is, ih (fun i => gaps (i + 1)) others]
      rfl

end Delimits

/-- A walk over a text: the byte at which the pending word began, and the tokens that have ended. -/
structure Walk where
  start? : Option Nat
  tokens : List ByteArray

namespace Walk

def flush (bytes : ByteArray) (stop : Nat) (w : Walk) : Walk :=
  match w.start? with
  | some start => ⟨none, w.tokens ++ [bytes.extract start stop]⟩
  | none => w

def pass (bytes : ByteArray) (offset : Nat) (c : Char) (w : Walk) : Walk :=
  if isDelimiter c then
    let w := w.flush bytes offset
    if isBlank c then w
    else { w with tokens := w.tokens ++ [bytes.extract offset (offset + c.utf8Size)] }
  else if w.start?.isNone then { w with start? := some offset }
  else w

def passAll (bytes : ByteArray) : Nat → List Char → Walk → Walk
  | _, [], w => w
  | offset, c :: rest, w => passAll bytes (offset + c.utf8Size) rest (w.pass bytes offset c)

end Walk

def ranges (text : String) : List ByteArray :=
  let walk := Walk.passAll text.toByteArray 0 text.toList ⟨none, []⟩
  (walk.flush text.toByteArray text.utf8ByteSize).tokens

def bytesOf (chars : List Char) : ByteArray := (String.ofList chars).toByteArray

@[simp] theorem bytesOf_append (a b : List Char) : bytesOf (a ++ b) = bytesOf a ++ bytesOf b := by
  simp [bytesOf]

@[simp] theorem size_bytesOf_singleton (c : Char) : (bytesOf [c]).size = c.utf8Size := by
  have alone : String.ofList [c] = String.singleton c := by simp
  rw [bytesOf, alone, String.size_toByteArray, String.utf8ByteSize_singleton]

/-- What lies between two places of a text has the bytes between their offsets. -/
theorem extract_between (front word rest : List Char) :
    (bytesOf (front ++ word ++ rest)).extract (bytesOf front).size (bytesOf (front ++ word)).size =
      bytesOf word := by
  rw [bytesOf_append (front ++ word), ByteArray.extract_append_size_left, bytesOf_append,
    ByteArray.extract_append_eq_right rfl ByteArray.size_append]

def pending (front word : List Char) : Option Nat :=
  if word.isEmpty then none else some (bytesOf front).size

namespace Walk

variable {front word rest : List Char}

theorem flush_pending (tokens : List ByteArray)
    (plain : word.all (fun c => !isDelimiter c) = true) :
    flush (bytesOf (front ++ word ++ rest)) (bytesOf (front ++ word)).size
        ⟨pending front word, tokens⟩ =
      ⟨none, tokens ++ (splitChars word).map bytesOf⟩ := by
  cases word with
  | nil => simp [pending, flush, splitChars, close]
  | cons c word =>
    rw [splitChars_word (by simp) plain, List.map_singleton,
      ← extract_between front (c :: word) rest]
    rfl

theorem pass_delimiter {c : Char} (delimiter : isDelimiter c = true) (tokens : List ByteArray)
    (plain : word.all (fun c => !isDelimiter c) = true) :
    pass (bytesOf (front ++ word ++ c :: rest)) (bytesOf (front ++ word)).size c
        ⟨pending front word, tokens⟩ =
      ⟨none, tokens ++ (splitChars word ++ splitChars [c]).map bytesOf⟩ := by
  have own := extract_between (front ++ word) [c] rest
  rw [List.append_assoc _ [c], List.singleton_append, bytesOf_append _ [c], ByteArray.size_append,
    size_bytesOf_singleton] at own
  unfold pass
  rw [if_pos delimiter, flush_pending tokens plain]
  dsimp only
  rw [own]
  cases blank : isBlank c with
  | true => simp [splitChars_blank blank]
  | false =>
    have mark : isPunctuation c = true := by simpa [isDelimiter, blank] using delimiter
    simp [splitChars_mark mark]

theorem pass_other {c : Char} (other : isDelimiter c = false) (bytes : ByteArray)
    (tokens : List ByteArray) :
    pass bytes (bytesOf (front ++ word)).size c ⟨pending front word, tokens⟩ =
      ⟨pending front (word ++ [c]), tokens⟩ := by
  cases word <;> simp [pass, other, pending]

/-- The induction is on what is left of the text, for any place and any pending word. -/
theorem passAll_tokens {bytes : ByteArray} (rest front word : List Char) (tokens : List ByteArray)
    (whole : bytes = bytesOf (front ++ word ++ rest))
    (plain : word.all (fun c => !isDelimiter c) = true) :
    ((passAll bytes (bytesOf (front ++ word)).size rest ⟨pending front word, tokens⟩).flush bytes
        bytes.size).tokens =
      tokens ++ (splitChars (word ++ rest)).map bytesOf := by
  induction rest generalizing front word tokens with
  | nil =>
    have size : bytes.size = (bytesOf (front ++ word)).size := by rw [whole, List.append_nil]
    rw [passAll, size, whole, flush_pending tokens plain, List.append_nil]
  | cons c rest ih =>
    rw [passAll, ← size_bytesOf_singleton c, ← ByteArray.size_append, ← bytesOf_append]
    cases delimiter : isDelimiter c with
    | true =>
      -- the delimiter is behind the walk, and no word is pending
      have later := ih (front ++ word ++ [c]) []
        (tokens ++ (splitChars word ++ splitChars [c]).map bytesOf) (by simp [whole]) rfl
      rw [List.append_nil] at later
      rw [whole, pass_delimiter delimiter tokens plain, ← whole]
      refine later.trans ?_
      rw [splitChars_append_delimiter delimiter]
      simp
    | false =>
      have later := ih front (word ++ [c]) tokens (by simp [whole]) (by simp [plain, delimiter])
      rw [pass_other delimiter, List.append_assoc front]
      refine later.trans ?_
      simp

end Walk

theorem ranges_eq (text : String) : ranges text = (split text).map String.toByteArray := by
  have whole : text.toByteArray = bytesOf ([] ++ [] ++ text.toList) := by simp [bytesOf]
  have walked := Walk.passAll_tokens text.toList [] [] [] whole rfl
  rw [ranges, split, List.map_map]
  exact walked

/-- The tokens of a text are given by the delimiter rule and by no other. Each of them is a mark or
a plain word. Put together they are the text without its blanks, and put together with blanks of any
kind in between they are the tokens of that text too. A walk over the bytes of the text cuts them
out. -/
theorem split_is_delimiter_rule (text : String) :
    (∀ f, Delimits f ↔ f = split) ∧
    (∀ token ∈ split text, IsToken token) ∧
    (String.join (split text)).toList = text.toList.filter (fun c => !isBlank c) ∧
    (∀ gap : Nat → String, (∀ i, isGap (gap i) = true) →
      split (spacedBy gap (split text)) = split text) ∧
    (split text).map String.toByteArray = ranges text := by
  have rule := split_delimits
  refine ⟨fun f => ⟨fun other => other.unique rule, fun same => same ▸ rule⟩, rule.isToken text,
    rule.toList_join text, fun gap gaps => ?_, (ranges_eq text).symm⟩
  exact rule.of_spacedBy gaps (rule.isToken text)

/-- Blanks of one byte, two bytes and three bytes, next to characters of two bytes. -/
theorem split_is_delimiter_rule_wide :
    let text := "é($é,\u00a0\u3000) ;"
    split text = ["é", "(", "$é", ",", ")", ";"] ∧
      split ("é($é,\u00a0" ++ String.singleton '\u3000' ++ ") ;") =
        split "é($é,\u00a0" ++ split ") ;" ∧
      IsToken "$é" ∧
      split (spacedBy (fun i => if i = 0 then "\u2028 " else "\t") (split text)) = split text := by
  intro text
  have known : split text = ["é", "(", "$é", ",", ")", ";"] := by decide +kernel
  obtain ⟨only, tokens, -, spaced, -⟩ := split_is_delimiter_rule text
  have held : "$é" ∈ split text := by
    rw [known]
    decide
  refine ⟨known, ((only split).mpr rfl).blank _ _ _ (by decide), tokens "$é" held,
    spaced _ fun i => ?_⟩
  split <;> decide

end Token

end ArenaScript
