import ArenaScript.Proofs.Render
import ArenaScript.Proofs.Script.Acceptance

/-! Reading the canonical text of a tree gives the tree back. The one thing that a tree without
defects may be too large for is the nesting limit, and then the reader says so. -/
namespace ArenaScript

namespace Program

variable {p : Program}

theorem parseFresh_render_of_fits (clean : p.defects = []) (fits : p.nesting ≤ maxNesting) :
    Program.parseFresh p.render = .ok (p, p.initialStore) := by
  obtain ⟨-, passes⟩ := p.defects_eq_nil.mp clean
  exact parseFresh_eq_ok_iff.mpr (parse_of_derives (derives_render clean) passes fits)

theorem parseFresh_render_of_deep (clean : p.defects = []) (deep : maxNesting < p.nesting) :
    ∃ e, Program.parseFresh p.render = .error e ∧ e.fault = .tooDeep := by
  obtain ⟨-, passes⟩ := p.defects_eq_nil.mp clean
  obtain ⟨e, refused, fault⟩ := parse_too_deep (derives_render clean) passes deep
  exact ⟨e, by rw [Program.parseFresh, refused]; rfl, fault⟩

/-- Rendering a tree without defects and parsing the text gives the tree and its names, or, beyond
the nesting limit and only there, the error that says so. -/
theorem parseFresh_render (clean : p.defects = []) :
    (p.nesting ≤ maxNesting → ∃ declared, Program.parseFresh p.render = .ok (p, declared) ∧
      declared.toList = p.declaredNames.map fun name => (name, 0)) ∧
    (maxNesting < p.nesting → ∃ e, Program.parseFresh p.render = .error e ∧ e.fault = .tooDeep ∧
      e.fault.message = "nesting too deep (more than 100 levels)") := by
  constructor
  · intro fits
    exact ⟨p.initialStore, parseFresh_render_of_fits clean fits, p.toList_initialStore⟩
  · intro deep
    obtain ⟨e, refused, fault⟩ := parseFresh_render_of_deep clean deep
    refine ⟨e, refused, fault, ?_⟩
    rw [fault]
    decide +kernel

def buried (levels : Nat) : Program where
  statements := [Nat.repeat (fun s => .loop [s]) levels (.act (.order .turnLeft))]

theorem parseFresh_render_at_limit :
    (leaking.defects = [] ∧
      ∃ declared, Program.parseFresh leaking.render = .ok (leaking, declared) ∧
        declared.toList = leaking.declaredNames.map fun name => (name, 0)) ∧
    ((buried 99).defects = [] ∧
      ∃ declared, Program.parseFresh (buried 99).render = .ok (buried 99, declared) ∧
        declared.toList = (buried 99).declaredNames.map fun name => (name, 0)) ∧
    ((buried 100).defects = [] ∧
      ∃ e, Program.parseFresh (buried 100).render = .error e ∧ e.fault = .tooDeep ∧
        e.fault.message = "nesting too deep (more than 100 levels)") := by
  have clean : leaking.defects = [] ∧ (buried 99).defects = [] ∧ (buried 100).defects = [] := by
    decide +kernel
  have sizes : leaking.nesting ≤ maxNesting ∧ (buried 99).nesting ≤ maxNesting ∧
      maxNesting < (buried 100).nesting := by
    decide +kernel
  exact ⟨⟨clean.1, (parseFresh_render clean.1).1 sizes.1⟩,
    ⟨clean.2.1, (parseFresh_render clean.2.1).1 sizes.2.1⟩,
    ⟨clean.2.2, (parseFresh_render clean.2.2).2 sizes.2.2⟩⟩

end Program

end ArenaScript
