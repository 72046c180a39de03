import ArenaScript.Load
import ArenaScript.Proofs.Compiled.Decoding
import ArenaScript.Proofs.Compiled.Writing
import ArenaScript.Proofs.Script.RoundTrip

/-! Loading what was compiled. The compiled text of a program reads back as the same program, or is
refused as too deep; which of the two is decided by the charge of the program alone. A level of a
script is charged up to twelve steps and the limit grants eight, so a script that the parser accepts
can be compiled to a text that is refused. -/
namespace ArenaScript

open Compiled

namespace Program

variable {p : Program}

theorem decode_of_compile {text : String} (compiled : p.compile? = some text) :
    Program.decode text = within p.charge nestingLimit p := by
  have ⟨fits, written⟩ : p.toTerm.height ≤ nestingLimit ∧ p.toTerm.write 0 = text := by
    simpa [Program.compile?] using compiled
  rw [Program.decode, ← written, readText_write p.isPlain_toTerm fits]
  exact p.ofTerm_toTerm nestingLimit

theorem loadCompiled_of_compile {text : String} (compiled : p.compile? = some text)
    (clean : p.defects = []) :
    (loadCompiled text).result =
      if p.charge ≤ nestingLimit then .ok (p, p.initialStore)
      else .error (.unreadable .tooDeep) := by
  have decoded := decode_of_compile compiled
  unfold within at decoded
  split at decoded
  · rename_i small
    simp [loadCompiled, decoded, clean, small, p.declareAll_declaredNames]
  · rename_i large
    simp [loadCompiled, decoded, large]

theorem compile?_of_height (small : p.toTerm.height ≤ nestingLimit) :
    p.compile? = some (p.toTerm.write 0) :=
  if_pos small

theorem compile?_of_fits (fits : p.nesting ≤ maxNesting) : ∃ text, p.compile? = some text :=
  ⟨_, compile?_of_height (height_toTerm_le fits)⟩

/-- A script that the parser accepts can always be compiled, and loading the compiled text gives the
same tree and store exactly if the charge of the tree is within the limit. -/
theorem loadCompiled_compile {text : String} {declared : Store}
    (parsed : Program.parseFresh text = .ok (p, declared)) :
    ∃ compiled, p.compile? = some compiled ∧
      (loadCompiled compiled).result =
        if p.charge ≤ nestingLimit then .ok (p, declared)
        else .error (.unreadable .tooDeep) := by
  obtain ⟨clean, fits, rfl⟩ := clean_of_parseFresh parsed
  obtain ⟨compiled, written⟩ := compile?_of_fits fits
  exact ⟨compiled, written, loadCompiled_of_compile written clean⟩

/-- A move under `levels` nested tests. -/
def guarded (levels : Nat) : Program where
  statements := [Nat.repeat
    (fun s => .choose (.branch (.compare .eq (.number 1) (.number 1)) [s] .done)) levels
    (.act (.pace .move none))]

theorem parseFresh_guarded {levels : Nat}
    (clean : (guarded levels).defects = [] ∧ (guarded levels).nesting ≤ maxNesting) :
    Program.parseFresh (guarded levels).render =
      .ok (guarded levels, (guarded levels).initialStore) :=
  parseFresh_render_of_fits clean.1 clean.2

theorem loadCompiled_compile_at_limit :
    (Program.parseFresh (guarded 66).render = .ok (guarded 66, (guarded 66).initialStore) ∧
      ∃ compiled, (guarded 66).compile? = some compiled ∧
        (loadCompiled compiled).result = .ok (guarded 66, (guarded 66).initialStore)) ∧
    (Program.parseFresh (guarded 67).render = .ok (guarded 67, (guarded 67).initialStore) ∧
      ∃ compiled, (guarded 67).compile? = some compiled ∧
        (loadCompiled compiled).result = .error (.unreadable .tooDeep)) := by
  have shallow : Program.parseFresh (guarded 66).render =
      .ok (guarded 66, (guarded 66).initialStore) := parseFresh_guarded (by decide +kernel)
  have deep : Program.parseFresh (guarded 67).render =
      .ok (guarded 67, (guarded 67).initialStore) := parseFresh_guarded (by decide +kernel)
  obtain ⟨first, written, loaded⟩ := loadCompiled_compile shallow
  obtain ⟨second, written', refused⟩ := loadCompiled_compile deep
  rw [if_pos (by decide +kernel)] at loaded
  rw [if_neg (by decide +kernel)] at refused
  exact ⟨⟨shallow, first, written, loaded⟩, ⟨deep, second, written', refused⟩⟩

/-- The parser accepts 67 nested tests, and no compiled text of them loads. -/
theorem guarded_not_reloaded :
    Program.parseFresh (guarded 67).render = .ok (guarded 67, (guarded 67).initialStore) ∧
    ¬ ∃ compiled, (guarded 67).compile? = some compiled ∧
      (loadCompiled compiled).result = .ok (guarded 67, (guarded 67).initialStore) := by
  have parsed : Program.parseFresh (guarded 67).render =
      .ok (guarded 67, (guarded 67).initialStore) := parseFresh_guarded (by decide +kernel)
  refine ⟨parsed, ?_⟩
  rintro ⟨compiled, written, loaded⟩
  rw [loadCompiled_of_compile written (by decide +kernel), if_neg (by decide +kernel)] at loaded
  cases loaded

/-- The compiled text of any tree, with or without defects, reads back as this tree or is refused as
too deep. It never reads back as another tree and is never refused for another reason. -/
theorem decode_compile {text : String} (compiled : p.compile? = some text) :
    (Program.decode text = .ok p ∨ Program.decode text = .error .tooDeep) ∧
      (Program.decode text = .ok p ↔ p.charge ≤ nestingLimit) := by
  have decoded := decode_of_compile compiled
  by_cases small : p.charge ≤ nestingLimit
  · have read : Program.decode text = .ok p := decoded.trans (if_pos small)
    exact ⟨.inl read, iff_of_true read small⟩
  · have refused : Program.decode text = .error .tooDeep := decoded.trans (if_neg small)
    refine ⟨.inr refused, iff_of_false ?_ small⟩
    rw [refused]
    exact nofun

/-- No parser makes this tree: names of any characters, empty blocks, an `if` without branches. -/
def illFormed : Program where
  statements := [
    .assign "a \"\\\n\t\x00'\u0301\u200b" (.number Int32.minValue),
    .choose .done,
    .choose (.otherwise []),
    .whilst (.not (.compare .eq (.var "") (.barrelAt .frontBack (.var "$x")))) [],
    .loop [.act (.pace .wait none)]]

theorem decode_compile_illFormed :
    (∃ text, illFormed.compile? = some text ∧ Program.decode text = .ok illFormed) ∧
    (∃ text, (guarded 67).compile? = some text ∧ Program.decode text = .error .tooDeep) := by
  have heights : illFormed.toTerm.height ≤ nestingLimit ∧
      (guarded 67).toTerm.height ≤ nestingLimit := by decide +kernel
  have charges : illFormed.charge ≤ nestingLimit ∧ ¬ (guarded 67).charge ≤ nestingLimit := by
    decide +kernel
  have written := compile?_of_height heights.1
  have deep := compile?_of_height heights.2
  obtain ⟨read | refused, exactly⟩ := decode_compile deep
  · exact absurd (exactly.mp read) charges.2
  · exact ⟨⟨_, written, (decode_compile written).2.mpr charges.1⟩, ⟨_, deep, refused⟩⟩

end Program

end ArenaScript
