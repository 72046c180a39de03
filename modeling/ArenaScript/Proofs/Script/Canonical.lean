import ArenaScript.Proofs.Render
import ArenaScript.Proofs.Script.Acceptance

/-! Canonical texts. A text that is accepted has the same tree and leaves the same store as the
canonical text of its tree, with whatever variables the caller has declared. Programs, conditions
and expressions alike, so making a text canonical a second time changes nothing. -/
namespace ArenaScript

namespace Parse

section Whole

variable {α : Type} {item : Parse α} {small : α → Prop} {R : Store → List String → α → Prop}
  {store : Store}

theorem whole_ok {s t : ParseState} {a : α} (run : whole item s = (.ok a, t)) :
    item s = (.ok a, t) ∧ t.cursor.rest = [] := by
  obtain ⟨b, m, here, run⟩ := Attempt.bind_eq_ok.mp run
  change (if m.cursor.peek?.isNone = true then _ else _ : Parse α) m = _ at run
  split at run
  · rename_i none
    cases run
    have ended : t.cursor.rest = [] := by simpa [Cursor.peek?] using none
    exact ⟨here, ended⟩
  · cases run

/-- An item that reads exactly the tokens related to its result is accepted as a whole text by
the same relation, and the store stays. -/
theorem run_whole_iff (serves : ∀ s, Serves item s small (Kept R s.store))
    (answers : ∀ ts a, R store ts a → small a → Answers item True store ts [] a store)
    (text : String) (a : α) :
    ((whole item).run text store).result = .ok a ↔ R store (Token.split text) a ∧ small a := by
  constructor
  · intro accepted
    have run : whole item ⟨Cursor.ofText text, store, []⟩ =
        (.ok a, (whole item ⟨Cursor.ofText text, store, []⟩).2) := Prod.ext accepted rfl
    obtain ⟨here, ended⟩ := whole_ok run
    obtain ⟨ts, passed, ⟨related, -⟩, fits⟩ := (serves _).yields here
    rw [ended, List.append_nil] at passed
    have all : Token.split text = ts := passed
    rw [all]
    exact ⟨related, fits⟩
  · rintro ⟨related, fits⟩
    have first := answers (Token.split text) a related fits
    have all : Answers (whole item) True store (Token.split text) [] a store :=
      first.bind_last (.peek_bind (.pure a))
    obtain ⟨ms, run⟩ := (all 0 []).1 trivial
    rw [List.append_nil] at run
    simp [Parse.run, Cursor.ofText, run]

theorem run_whole_store (serves : ∀ s, Serves item s small (Kept R s.store)) {text : String} {a : α}
    (accepted : ((whole item).run text store).result = .ok a) :
    ((whole item).run text store).store = store := by
  have run : whole item ⟨Cursor.ofText text, store, []⟩ =
      (.ok a, (whole item ⟨Cursor.ofText text, store, []⟩).2) := Prod.ext accepted rfl
  obtain ⟨here, -⟩ := whole_ok run
  obtain ⟨ts, -, ⟨-, kept⟩, -⟩ := (serves _).yields here
  exact kept

end Whole

end Parse

open Parse

theorem Expression.parse_eq_ok_iff {text : String} {store : Store} {e : Expression} :
    (Expression.parse text store).result = .ok e ↔
      LegalExpression store (Token.split text) e ∧ e.nesting ≤ maxNesting := by
  refine run_whole_iff (expression_serves maxNesting) ?_ text e
  rintro ts a ⟨derived, bound⟩ fits
  have run := @expression_answers maxNesting _ _ [] _ derived bound (by simp)
  exact run.of_iff (iff_of_true trivial fits)

theorem Condition.parse_eq_ok_iff {text : String} {store : Store} {c : Condition} :
    (Condition.parse text store).result = .ok c ↔
      LegalCondition store (Token.split text) c ∧ c.nesting ≤ maxNesting := by
  refine run_whole_iff (condition_serves maxNesting) ?_ text c
  rintro ts a ⟨derived, bound⟩ fits
  have run := @condition_answers maxNesting _ _ [] _ derived bound
  exact run.of_iff (iff_of_true trivial fits)

theorem Expression.parse_render {text : String} {store : Store} {e : Expression}
    (accepted : (Expression.parse text store).result = .ok e) :
    (Expression.parse e.render store).result = .ok e := by
  obtain ⟨⟨-, bound⟩, fits⟩ := Expression.parse_eq_ok_iff.mp accepted
  have derived := Expression.derives_render bound
  exact Expression.parse_eq_ok_iff.mpr ⟨⟨derived, bound⟩, fits⟩

theorem Condition.parse_render {text : String} {store : Store} {c : Condition}
    (accepted : (Condition.parse text store).result = .ok c) :
    (Condition.parse c.render store).result = .ok c := by
  obtain ⟨⟨-, bound⟩, fits⟩ := Condition.parse_eq_ok_iff.mp accepted
  have derived := Condition.derives_render bound
  exact Condition.parse_eq_ok_iff.mpr ⟨⟨derived, bound⟩, fits⟩

theorem Program.parse_render {text : String} {store : Store} {p : Program}
    (accepted : (Program.parse text store).result = .ok p) :
    (Program.parse p.render store).result = .ok p ∧
      (Program.parse p.render store).store = (Program.parse text store).store := by
  obtain ⟨derived, passes, fits⟩ := Program.derives_of_parse accepted
  have canonical := Program.derives_render_of_passes derived.ne_nil passes
  exact Program.parse_of_derives canonical passes fits

theorem canonicalize_canonicalize {text canonical : String}
    (accepted : canonicalize text = .ok canonical) : canonicalize canonical = .ok canonical := by
  unfold canonicalize at accepted ⊢
  cases parsed : Program.parseFresh text with
  | error e =>
    rw [parsed] at accepted
    cases accepted
  | ok made =>
    obtain ⟨p, declared⟩ := made
    rw [parsed] at accepted
    obtain rfl : p.render = canonical := Except.ok.inj accepted
    obtain ⟨result, store⟩ := Program.parseFresh_eq_ok_iff.mp parsed
    have again := Program.parseFresh_eq_ok_iff.mpr (Program.parse_render result)
    rw [again]
    rfl

/-- The canonical text of whatever a text was parsed to, with any variables declared, is parsed to
the same tree and leaves the same store, so a canonical text is its own canonical text. -/
theorem canonical_text_stable (text : String) (store : Store) :
    (∀ p, (Program.parse text store).result = .ok p →
      (Program.parse p.render store).result = .ok p ∧
        (Program.parse p.render store).store = (Program.parse text store).store) ∧
    (∀ canonical, canonicalize text = .ok canonical → canonicalize canonical = .ok canonical) ∧
    (∀ c, (Condition.parse text store).result = .ok c →
      (Condition.parse c.render store).result = .ok c ∧
        (Condition.parse c.render store).store = (Condition.parse text store).store) ∧
    (∀ e, (Expression.parse text store).result = .ok e →
      (Expression.parse e.render store).result = .ok e ∧
        (Expression.parse e.render store).store = (Expression.parse text store).store) := by
  refine ⟨?_, ?_, ?_, ?_⟩
  · intro p accepted
    exact Program.parse_render accepted
  · intro canonical accepted
    exact canonicalize_canonicalize accepted
  · intro c accepted
    have again := Condition.parse_render accepted
    have before := run_whole_store (condition_serves maxNesting) accepted
    have after := run_whole_store (condition_serves maxNesting) again
    exact ⟨again, after.trans before.symm⟩
  · intro e accepted
    have again := Expression.parse_render accepted
    have before := run_whole_store (expression_serves maxNesting) accepted
    have after := run_whole_store (expression_serves maxNesting) again
    exact ⟨again, after.trans before.symm⟩

/-- A number, then a loop that also reads a name which only the caller declares. -/
def Program.respelled : Program where
  statements := [.assign "$x" (.number 7),
    .loop [.act (.pace .move (some (.op .add (.var "$x") (.var "$y"))))]]

theorem canonical_text_stable_respelled :
    (Program.parse " $x = +007;loop\x7bmove( add($x,$y) );\x7d" (Store.empty.set "$y" 5)).result =
        .ok .respelled ∧
      (Program.parse Program.respelled.render (Store.empty.set "$y" 5)).result = .ok .respelled ∧
    (canonicalize "wait( -00 ) ;turnL ;" = .ok "wait(0);\nturnL;" ∧
      canonicalize "wait(0);\nturnL;" = .ok "wait(0);\nturnL;") ∧
    ((Condition.parse "not(lt(fuelLeft,+1))" .empty).result =
        .ok (.not (.compare .lt (.gauge .fuelLeft) (.number 1))) ∧
      (Condition.parse "not(lt(fuelLeft, 1))" .empty).result =
        .ok (.not (.compare .lt (.gauge .fuelLeft) (.number 1)))) ∧
    ((Expression.parse "barrelLR( $y )" (Store.empty.set "$y" 5)).result =
        .ok (.barrelAt .leftRight (.var "$y")) ∧
      (Expression.parse "barrelLR($y)" (Store.empty.set "$y" 5)).result =
        .ok (.barrelAt .leftRight (.var "$y"))) := by
  have program : (Program.parse " $x = +007;loop\x7bmove( add($x,$y) );\x7d"
      (Store.empty.set "$y" 5)).result = .ok .respelled := by decide +kernel
  have script : canonicalize "wait( -00 ) ;turnL ;" = .ok "wait(0);\nturnL;" := by decide +kernel
  have condition : (Condition.parse "not(lt(fuelLeft,+1))" .empty).result =
      .ok (.not (.compare .lt (.gauge .fuelLeft) (.number 1))) := by decide +kernel
  have expression : (Expression.parse "barrelLR( $y )" (Store.empty.set "$y" 5)).result =
      .ok (.barrelAt .leftRight (.var "$y")) := by decide +kernel
  exact ⟨program, ((canonical_text_stable _ _).1 _ program).1,
    ⟨script, (canonical_text_stable _ .empty).2.1 _ script⟩,
    ⟨condition, ((canonical_text_stable _ _).2.2.1 _ condition).1⟩,
    ⟨expression, ((canonical_text_stable _ _).2.2.2 _ expression).1⟩⟩

end ArenaScript
