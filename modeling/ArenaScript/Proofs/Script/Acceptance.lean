import ArenaScript.Proofs.Script.Completeness
import ArenaScript.Proofs.Script.Reads
import ArenaScript.Proofs.Script.Soundness

/-! What the parser accepts: the texts whose tokens derive a tree, read no variable before it is
assigned and stay within the nesting limit. What it returns has no defect and comes with the store
that the tree itself declares. -/
namespace ArenaScript

namespace Program

variable {text : String} {p : Program} {store : Store}

theorem parse_eq_ok_iff :
    (Program.parse text store).result = .ok p ↔
      p.Derives (Token.split text) ∧ ReadsAssigned store (Token.split text) ∧
        p.nesting ≤ maxNesting := by
  constructor
  · intro parsed
    obtain ⟨derived, passes, fits⟩ := derives_of_parse parsed
    exact ⟨derived, (readsAssigned_iff_passes derived).mpr ⟨_, passes⟩, fits⟩
  · rintro ⟨derived, reads, fits⟩
    obtain ⟨after, passes⟩ := (readsAssigned_iff_passes derived).mp reads
    exact (parse_of_derives derived passes fits).1

/-- The parser accepts exactly its grammar, and a text that it accepts has one tree only. -/
theorem parses_exactly_grammar (text : String) (store : Store) :
    (∀ p : Program, (Program.parse text store).result = .ok p ↔
      p.Derives (Token.split text) ∧ ReadsAssigned store (Token.split text) ∧
        p.nesting ≤ maxNesting) ∧
    (∀ p q : Program, p.Derives (Token.split text) → q.Derives (Token.split text) →
      ReadsAssigned store (Token.split text) → p.nesting ≤ maxNesting → q.nesting ≤ maxNesting →
      p = q) := by
  refine ⟨fun p => parse_eq_ok_iff, fun p q first second reads fits fits' => ?_⟩
  have one := (@parse_eq_ok_iff text p store).mpr ⟨first, reads, fits⟩
  have other := (@parse_eq_ok_iff text q store).mpr ⟨second, reads, fits'⟩
  exact Except.ok.inj (one.symm.trans other)

/-- A script that reads what it has assigned, and its only tree. -/
theorem parses_exactly_grammar_reading :
    let text := "$x = +007;loop { move( add($x, $y) ); }"
    let store := Store.empty.declare "$y"
    let p : Program := ⟨[.assign "$x" (.number 7),
      .loop [.act (.pace .move (some (.op .add (.var "$x") (.var "$y"))))]]⟩
    (Program.parse text store).result = .ok p ∧ p.Derives (Token.split text) ∧
      ReadsAssigned store (Token.split text) ∧ p.nesting ≤ maxNesting ∧
      ∀ q : Program, q.Derives (Token.split text) → q.nesting ≤ maxNesting → q = p := by
  intro text store p
  have parsed : (Program.parse text store).result = .ok p := by decide +kernel
  obtain ⟨accepts, unique⟩ := parses_exactly_grammar text store
  obtain ⟨derived, reads, fits⟩ := (accepts p).mp parsed
  refine ⟨parsed, derived, reads, fits, ?_⟩
  intro q other small
  exact unique q p other derived reads small fits

theorem parseFresh_eq_ok_iff {declared : Store} :
    Program.parseFresh text = .ok (p, declared) ↔
      (Program.parse text .empty).result = .ok p ∧
        (Program.parse text .empty).store = declared := by
  cases outcome : (Program.parse text .empty).result <;>
    simp [Program.parseFresh, outcome, Except.map]

/-- The walk of the parser over the tokens and the survey of the tree end in the same store. -/
theorem clean_of_parseFresh {declared : Store}
    (parsed : Program.parseFresh text = .ok (p, declared)) :
    p.defects = [] ∧ p.nesting ≤ maxNesting ∧ declared = p.initialStore := by
  obtain ⟨accepted, rfl⟩ := parseFresh_eq_ok_iff.mp parsed
  obtain ⟨derived, passes, fits⟩ := derives_of_parse accepted
  have store : p.initialStore = (Program.parse text .empty).store := congrArg Prod.snd passes
  exact ⟨p.defects_eq_nil.mpr ⟨derived.ne_nil, store ▸ passes⟩, fits, store.symm⟩

/-- A tree that the parser made has no defect, fits the limit, and its names are those of the store
the parser filled. -/
theorem parseFresh_sound {declared : Store}
    (parsed : Program.parseFresh text = .ok (p, declared)) :
    p.defects = [] ∧ p.nesting ≤ maxNesting ∧
      declared.toList = p.declaredNames.map fun name => (name, 0) := by
  obtain ⟨clean, fits, rfl⟩ := clean_of_parseFresh parsed
  exact ⟨clean, fits, p.toList_initialStore⟩

/-- A name that only the first branch assigns is declared behind the whole statement. -/
def leaking : Program where
  statements := [
    .choose (.branch (.compare .lt (.gauge (.opponent .leftRight)) (.number 3))
      [.assign "$y" (.number 2)] (.otherwise [.assign "$x" (.number (-1))])),
    .whilst (.compare .gt (.var "$x") (.var "$y")) [.act (.pace .move (some (.var "$y")))]]

theorem parseFresh_sound_leaking :
    Program.parseFresh "if (lt(oppLR, 3)) \x7b $y = 2; \x7d else \x7b $x = -1; \x7d
        while (gt($x, $y)) \x7b move($y); \x7d" =
      .ok (leaking, (Store.empty.declare "$y").declare "$x") ∧
    leaking.defects = [] ∧ leaking.nesting ≤ maxNesting ∧
      ((Store.empty.declare "$y").declare "$x").toList =
        leaking.declaredNames.map fun name => (name, 0) := by
  have parsed : Program.parseFresh "if (lt(oppLR, 3)) \x7b $y = 2; \x7d else \x7b $x = -1; \x7d
        while (gt($x, $y)) \x7b move($y); \x7d" =
      .ok (leaking, (Store.empty.declare "$y").declare "$x") := by decide +kernel
  exact ⟨parsed, parseFresh_sound parsed⟩

end Program

end ArenaScript
