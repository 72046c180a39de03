import ArenaScript.Compiled.Layout
import ArenaScript.Compiled.Reader
import ArenaScript.Proofs.Compiled.Leaf
import Mathlib.Data.List.Forall2

/-! Items between brackets. The writer puts them on lines of their own or all on one line; `Laid`
holds of both, and what is laid out like this reads as the list of its items, each of which has to
be `Legible`. -/
namespace ArenaScript

namespace Compiled

/-- What may follow a whole term: nothing, a comma or a closing bracket. -/
def EndsTerm (rest : List Char) : Prop :=
  rest.head?.all (fun c => c == ',' || c == ')' || c == ']') = true

/-- No blank, comment, attribute or closing bracket starts here. -/
def isSolid (c : Char) : Bool := !isGap c && c != '/' && c != '#' && c != ')' && c != ']'

section Skip

variable {c : Char} {gap rest : List Char}

theorem skip_blank (gap : isGap c = true) : skip (c :: rest) = skip rest := by
  have noSlash : c ≠ '/' := by
    rintro rfl
    exact absurd gap (by decide)
  unfold skip
  rw [skipFrom]
  · rw [if_pos gap]
  · exact fun _ same => absurd same noSlash
  · exact fun _ same => absurd same noSlash
  · exact noSlash

theorem skip_none (solid : isGap c = false) (noSlash : c ≠ '/') :
    skip (c :: rest) = .ok (c :: rest) := by
  unfold skip
  rw [skipFrom]
  · rw [if_neg (by simp [solid])]
  · exact fun _ same => absurd same noSlash
  · exact fun _ same => absurd same noSlash
  · exact noSlash

theorem skip_gap (blank : gap.all isGap = true) : skip (gap ++ rest) = skip rest := by
  induction gap with
  | nil => rfl
  | cons c gap ih =>
    simp only [List.all_cons, Bool.and_eq_true] at blank
    rw [List.cons_append, skip_blank blank.1, ih blank.2]

theorem skip_solid (solid : isSolid c = true) : skip (c :: rest) = .ok (c :: rest) := by
  simp only [isSolid, Bool.and_eq_true, Bool.not_eq_true', bne_iff_ne] at solid
  exact skip_none solid.1.1.1.1 solid.1.1.1.2

theorem EndsTerm.eq (ends : EndsTerm rest) :
    rest = [] ∨ ∃ c tail, rest = c :: tail ∧ (c = ',' ∨ c = ')' ∨ c = ']') := by
  cases rest with
  | nil => exact .inl rfl
  | cons c tail => exact .inr ⟨c, tail, rfl, by simpa [EndsTerm, or_assoc] using ends⟩

theorem EndsTerm.breaks (ends : EndsTerm rest) : Breaks rest := by
  rcases ends.eq with rfl | ⟨c, tail, rfl, rfl | rfl | rfl⟩ <;> rfl

theorem EndsTerm.skip (ends : EndsTerm rest) : skip rest = .ok rest := by
  rcases ends.eq with rfl | ⟨c, tail, rfl, rfl | rfl | rfl⟩
  · rfl
  all_goals exact skip_none (by decide) (by decide)

end Skip

/-- The text reads as `a` wherever a term may end after it. The label says whether a parenthesis
before it would open a record. -/
structure Legible {α : Type} (item : Read α) (label : Bool) (text : String) (a : α) : Prop where
  starts : ∃ c tail, text.toList = c :: tail ∧ isSolid c = true
  opens : ∀ c rest, EndsTerm (c :: rest) → opensRecord (text.toList ++ c :: rest) = label
  reads : ∀ rest, EndsTerm rest → item (text.toList ++ rest) = .ok (a, rest)

/-- Texts up to a closing bracket, each after blanks, with a comma between two of them and
perhaps one after the last. -/
inductive Laid (closing : Char) (rest : List Char) : List String → List Char → Prop where
  | closed {gap : List Char} (blank : gap.all isGap = true) :
      Laid closing rest [] (gap ++ closing :: rest)
  | last {gap : List Char} {text : String} (blank : gap.all isGap = true) :
      Laid closing rest [text] (gap ++ (text.toList ++ closing :: rest))
  | more {gap cs : List Char} {text : String} {texts : List String}
      (blank : gap.all isGap = true) (others : Laid closing rest texts cs) :
      Laid closing rest (text :: texts) (gap ++ (text.toList ++ ',' :: cs))

section Items

variable {α : Type} {item : Read α} {closing : Char} {fuel : Nat} {cs rest tail left : List Char}
  {c : Char} {a : α} {as : List α}

theorem items_closed (skipped : skip cs = .ok (closing :: rest)) :
    items item closing (fuel + 1) cs = .ok ([], rest) := by
  rw [items, skipped]
  dsimp only [bind, Except.bind]
  rw [if_pos rfl]
  rfl

theorem items_last (skipped : skip cs = .ok (c :: tail)) (other : c ≠ closing)
    (read : item (c :: tail) = .ok (a, left)) (after : skip left = .ok (closing :: rest))
    (noComma : closing ≠ ',') : items item closing (fuel + 1) cs = .ok ([a], rest) := by
  rw [items, skipped]
  dsimp only [bind, Except.bind]
  rw [if_neg other, read]
  dsimp only
  rw [after]
  dsimp only
  rw [if_neg noComma, if_pos rfl]
  rfl

theorem items_more (skipped : skip cs = .ok (c :: tail)) (other : c ≠ closing)
    (read : item (c :: tail) = .ok (a, left)) {more : List Char}
    (after : skip left = .ok (',' :: more))
    (others : items item closing fuel more = .ok (as, rest)) :
    items item closing (fuel + 1) cs = .ok (a :: as, rest) := by
  rw [items, skipped]
  dsimp only [bind, Except.bind]
  rw [if_neg other, read]
  dsimp only
  rw [after]
  dsimp only
  rw [if_pos rfl, others]
  rfl

theorem ne_of_isSolid (closes : closing = ')' ∨ closing = ']') (solid : isSolid c = true) :
    c ≠ closing := by
  simp only [isSolid, Bool.and_eq_true, bne_iff_ne] at solid
  rcases closes with rfl | rfl
  · exact solid.1.2
  · exact solid.2

theorem endsTerm_closing (closes : closing = ')' ∨ closing = ']') (rest : List Char) :
    EndsTerm (closing :: rest) := by
  rcases closes with rfl | rfl <;> rfl

theorem endsTerm_comma (rest : List Char) : EndsTerm (',' :: rest) := rfl

/-- A laid out list of legible texts is read as the list of what the texts stand for. -/
theorem items_of_laid {label : Bool} (closes : closing = ')' ∨ closing = ']') {texts : List String}
    (laid : Laid closing rest texts cs) (legible : List.Forall₂ (Legible item label) texts as)
    (enough : cs.length < fuel) : items item closing fuel cs = .ok (as, rest) := by
  -- each step takes one text, and what follows the text is where it may end
  induction laid generalizing as fuel with
  | @closed gap blank =>
    cases legible
    obtain _ | fuel := fuel
    · omega
    · exact items_closed ((skip_gap blank).trans (endsTerm_closing closes rest).skip)
  | @last gap text blank =>
    obtain _ | ⟨here, none⟩ := legible
    cases none
    obtain _ | fuel := fuel
    · omega
    · obtain ⟨c, tail, chars, solid⟩ := here.starts
      have read := here.reads _ (endsTerm_closing closes rest)
      rw [chars, List.cons_append] at read ⊢
      refine items_last ((skip_gap blank).trans (skip_solid solid))
        (ne_of_isSolid closes solid) read (endsTerm_closing closes rest).skip ?_
      rcases closes with rfl | rfl <;> decide
  | @more gap cs text texts blank others ih =>
    obtain _ | ⟨here, there⟩ := legible
    obtain _ | fuel := fuel
    · omega
    · obtain ⟨c, tail, chars, solid⟩ := here.starts
      have read := here.reads _ (endsTerm_comma cs)
      have shorter : cs.length < fuel := by
        simp only [List.length_append, List.length_cons] at enough
        omega
      rw [chars, List.cons_append] at read ⊢
      exact items_more ((skip_gap blank).trans (skip_solid solid)) (ne_of_isSolid closes solid) read
        (endsTerm_comma cs).skip (ih there shorter)

/-- The first text decides whether a parenthesis before the list opens a record. -/
theorem opensRecord_of_laid {label : Bool} (closes : closing = ')' ∨ closing = ']')
    {text : String} {texts : List String} (laid : Laid closing rest (text :: texts) cs)
    (legible : Legible item label text a) : opensRecord cs = label := by
  have passed : ∀ {gap cs : List Char}, gap.all isGap = true →
      opensRecord (gap ++ cs) = opensRecord cs := by
    intro gap cs blank
    rw [opensRecord, opensRecord, skip_gap blank]
  cases laid with
  | last blank => rw [passed blank, legible.opens _ _ (endsTerm_closing closes rest)]
  | more blank others => rw [passed blank, legible.opens _ _ (endsTerm_comma _)]

end Items

section Layout

variable {closing : Char} {rest : List Char}

theorem isGap_indent (level : Nat) : (indent level).toList.all isGap = true := by
  have blank : isGap ' ' = true := by decide
  simp [indent, blank]

/-- Items on lines of their own, from the end of the line before them on. -/
theorem laid_lines (level : Nat) (texts : List String) {gap : List Char}
    (blank : gap.all isGap = true) :
    Laid closing rest texts ('\n' :: ((String.join (texts.map (indent level ++ · ++ ",\n"))).toList
      ++ (gap ++ closing :: rest))) := by
  have line : isGap '\n' = true := by decide
  induction texts with
  | nil => exact @Laid.closed closing rest ('\n' :: gap) (by simp [line, blank])
  | cons text texts ih =>
    have indented : ('\n' :: (indent level).toList).all isGap = true := by
      simp [line, isGap_indent]
    have shape := @Laid.more closing rest _ _ text texts indented ih
    simpa using shape

theorem laid_intercalate {text : String} {texts : List String} {gap : List Char}
    (blank : gap.all isGap = true) :
    Laid closing rest (text :: texts)
      (gap ++ ((", ".intercalate (text :: texts)).toList ++ closing :: rest)) := by
  induction texts generalizing text gap with
  | nil =>
    rw [String.intercalate_singleton]
    exact .last blank
  | cons next texts ih =>
    have space : [' '].all isGap = true := by decide
    have shape := @Laid.more closing rest _ _ text (next :: texts) blank (ih space)
    simpa using shape

theorem laid_layOut (level : Nat) {opening mark : String} (marked : mark.toList = [closing])
    (texts : List String) (rest : List Char) :
    ∃ cs, (layOut level opening mark texts).toList ++ rest = opening.toList ++ cs ∧
      Laid closing rest texts cs := by
  unfold layOut
  split
  · rename_i empty
    obtain rfl : texts = [] := by simpa using empty
    exact ⟨closing :: rest, by simp [marked], @Laid.closed closing rest [] rfl⟩
  · rename_i full
    split
    · refine ⟨_, ?_, laid_lines (level + 1) texts (isGap_indent level)⟩
      simp [marked]
    · obtain ⟨text, texts, rfl⟩ := List.exists_cons_of_ne_nil (by simpa using full)
      refine ⟨_, ?_, @laid_intercalate closing rest text texts [] rfl⟩
      simp [marked]

end Layout

end Compiled

end ArenaScript
