import ArenaScript.Proofs.Render
import ArenaScript.Proofs.Script.Acceptance
import ArenaScript.Proofs.Script.Lookahead

/-! Where a script is refused. The tokens before the place of an error begin some program, and with
the token at this place they begin none. An error for the depth is different: what precedes it is
too deep already, whatever follows. -/
namespace ArenaScript

open Token

/-- Each of the tokens is one token when it is read as a text. -/
def Written (ts : List String) : Prop := ∀ t ∈ ts, split t = [t]

@[simp] theorem written_nil : Written [] := by
  simp [Written]

@[simp] theorem written_cons (t : String) (ts : List String) :
    Written (t :: ts) ↔ split t = [t] ∧ Written ts := by
  simp [Written]

@[simp] theorem written_append (ts us : List String) :
    Written (ts ++ us) ↔ Written ts ∧ Written us :=
  List.forall_mem_append

def spaced : List String → String
  | [] => ""
  | t :: ts => t ++ " " ++ spaced ts

theorem split_spaced {ts : List String} (written : Written ts) : split (spaced ts) = ts := by
  induction ts with
  | nil => decide
  | cons t ts ih =>
    obtain ⟨first, others⟩ := (written_cons t ts).mp written
    have blank : split " " = [] := by decide
    rw [spaced, split_around t _ (by decide) (rfl : Opens " ") rfl, first, blank, ih others]
    rfl

theorem split_marks : split "(" = ["("] ∧ split ")" = [")"] ∧ split "," = [","] ∧
    split ";" = [";"] ∧ split "=" = ["="] ∧ split "\x7b" = ["\x7b"] ∧ split "\x7d" = ["\x7d"] := by
  decide

theorem split_words : split "and" = ["and"] ∧ split "or" = ["or"] ∧ split "not" = ["not"] ∧
    split "loop" = ["loop"] ∧ split "if" = ["if"] ∧ split "elif" = ["elif"] ∧
    split "else" = ["else"] ∧ split "while" = ["while"] := by
  decide

theorem Expression.written {ts : List String} {e : Expression}
    (derived : Expression.Derives ts e) : Written ts := by
  induction derived with
  | number numeral => simp [split_number numeral]
  | var form => simp [split_variable form]
  | gauge g => simp [split_gauge]
  | barrel axis => simp [split_axis]
  | barrelAt axis inner ih => simp [split_axis, split_marks, ih]
  | op o left right ihLeft ihRight => simp [split_operator, split_marks, ihLeft, ihRight]

theorem Condition.written {ts : List String} {c : Condition}
    (derived : Condition.Derives ts c) : Written ts := by
  induction derived with
  | compare r left right =>
    simp [split_relation, split_marks, Expression.written left, Expression.written right]
  | and left right ihLeft ihRight => simp [split_words, split_marks, ihLeft, ihRight]
  | or left right ihLeft ihRight => simp [split_words, split_marks, ihLeft, ihRight]
  | not operand ih => simp [split_words, split_marks, ih]

theorem Action.written {ts : List String} {a : Action} (derived : Action.Derives ts a) :
    Written ts := by
  cases derived with
  | once p => simp [split_pace, split_marks]
  | times p argument => simp [split_pace, split_marks, Expression.written argument]
  | order o => simp [split_order, split_marks]

mutual

theorem Statement.written {ts : List String} {s : Statement} : Statement.Derives ts s → Written ts
  | .loop block => by simp [split_words, block_written block]
  | .choose guard block tail => by
    simp [split_words, split_marks, Condition.written guard, block_written block,
      Chain.written tail]
  | .whilst guard block => by
    simp [split_words, split_marks, Condition.written guard, block_written block]
  | .assign form source => by
    simp [split_variable form, split_marks, Expression.written source]
  | .act deed => Action.written deed

theorem Chain.written {ts : List String} {c : Chain} : Chain.Derives ts c → Written ts
  | .done => written_nil
  | .otherwise block => by simp [split_words, block_written block]
  | .branch guard block tail => by
    simp [split_words, split_marks, Condition.written guard, block_written block,
      Chain.written tail]

theorem block_written {ts : List String} {body : Block} : DerivesBlock ts body → Written ts
  | .braces statements => by simp [split_marks, all_written statements]

theorem all_written {ts : List String} {body : List Statement} : DerivesAll ts body → Written ts
  | .one first => Statement.written first
  | .more first others => by simp [Statement.written first, all_written others]

end

theorem Program.exists_text {tokens : List String} {p : Program} (derived : p.Derives tokens) :
    ∃ text, split text = tokens :=
  ⟨spaced tokens, split_spaced (all_written derived)⟩

/-- The text is a program, however deep, and reads no variable before the store or an assignment
binds it. -/
def InGrammar (store : Store) (text : String) : Prop :=
  ∃ p : Program, p.Derives (split text) ∧ ReadsAssigned store (split text)

namespace Parse

variable {text : String} {store : Store} {e : ParseError}

theorem inGrammar_iff :
    InGrammar store text ↔ ∃ (p : Program) (after : Store),
      LegalAll store (split text) p.statements after := by
  constructor
  · rintro ⟨p, derived, reads⟩
    obtain ⟨after, passes⟩ := (Program.readsAssigned_iff_passes derived).mp reads
    exact ⟨p, after, derived, passes⟩
  · rintro ⟨p, after, derived, passes⟩
    exact ⟨p, derived, (Program.readsAssigned_iff_passes derived).mpr ⟨after, passes⟩⟩

/-- A program of the grammar is refused for its depth only. -/
theorem tooDeep_of_inGrammar {t : ParseState} (held : InGrammar store text)
    (run : program ⟨Cursor.ofText text, store, []⟩ = (.error e, t)) : e.fault = .tooDeep := by
  obtain ⟨p, after, derived, passes⟩ := inGrammar_iff.mp held
  have answers := program_answers derived passes 0 []
  rw [List.append_nil] at answers
  by_cases fits : p.nesting ≤ maxNesting
  · obtain ⟨ms, run'⟩ := answers.1 fits
    cases run.symm.trans run'
  · obtain ⟨e', t', run', deep⟩ := answers.2 fits
    cases run.symm.trans run'
    exact deep

theorem passed_of_refused (refused : (Program.parse text store).result = .error e) :
    ∃ t, program ⟨Cursor.ofText text, store, []⟩ = (.error e, t) ∧
      t.cursor.rest = (split text).drop e.position ∧ e.position ≤ (split text).length ∧
      Passed program ⟨Cursor.ofText text, store, []⟩ (.error e) t
        ((split text).take e.position) := by
  have run : program ⟨Cursor.ofText text, store, []⟩ =
      (.error e, (program ⟨Cursor.ofText text, store, []⟩).2) := Prod.ext refused rfl
  obtain ⟨us, passed⟩ := program_steady.isLocal run
  have ahead : split text = us ++ (program ⟨Cursor.ofText text, store, []⟩).2.cursor.rest :=
    passed.ahead
  have place : e.position = us.length := by
    rw [(passed.points e rfl).1, passed.position, Cursor.ofText, Nat.zero_add]
  refine ⟨_, run, ?_, ?_, ?_⟩
  · rw [ahead, place, List.drop_left]
  · rw [ahead, place, List.length_append]
    exact Nat.le_add_right _ _
  · have before : (split text).take e.position = us := by rw [ahead, place, List.take_left]
    rwa [before]

/-- A text with the same tokens before the error, and with the same one at it unless the error is
for the depth, is refused for the same fault. -/
theorem refused_alike {other : String} {t : ParseState} {us more : List String}
    (passed : Passed program ⟨Cursor.ofText text, store, []⟩ (.error e) t us)
    (begins : split other = us ++ more)
    (alike : e.fault = .tooDeep ∨ more.head? = t.cursor.rest.head?) :
    ∃ e' t', program ⟨Cursor.ofText other, store, []⟩ = (.error e', t') ∧ e'.fault = e.fault := by
  have start : ParseState.facing ⟨Cursor.ofText text, store, []⟩ (us ++ more) =
      ⟨Cursor.ofText other, store, []⟩ := by
    rw [← begins]
    rfl
  have alike' : TooDeep (.error e : Except ParseError Program) ∨
      more.head? = t.cursor.rest.head? := alike.imp_left fun deep => ⟨e, rfl, deep⟩
  have run := passed.same more alike'
  rw [start] at run
  exact ⟨_, _, run, rfl⟩

/-- The tokens before an error that is not for the depth begin some program. -/
theorem viable_of_refused (refused : (Program.parse text store).result = .error e)
    (plain : e.fault ≠ .tooDeep) :
    ∃ whole, (split text).take e.position <+: split whole ∧ InGrammar store whole := by
  obtain ⟨t, run, -, -, passed⟩ := passed_of_refused refused
  obtain ⟨us, vs, p, after, ahead, derived, passes⟩ := (program_serves _).mends run plain
  have same : us = (split text).take e.position :=
    List.append_cancel_right (ahead.symm.trans passed.ahead)
  obtain ⟨whole, tokens⟩ := Program.exists_text derived
  rw [← tokens] at derived
  refine ⟨whole, ⟨vs, by rw [tokens, same]⟩, ?_⟩
  exact inGrammar_iff.mpr ⟨p, after, derived, passes⟩

/-- With the token at the error they begin none. -/
theorem offends_of_refused (refused : (Program.parse text store).result = .error e)
    (plain : e.fault ≠ .tooDeep) (inside : e.position < (split text).length) {whole : String}
    (begins : (split text).take (e.position + 1) <+: split whole) : ¬ InGrammar store whole := by
  intro held
  obtain ⟨t, run, rest, -, passed⟩ := passed_of_refused refused
  obtain ⟨more, tokens⟩ := begins
  rw [List.take_succ_eq_append_getElem inside, List.append_assoc] at tokens
  have next : ([(split text)[e.position]] ++ more).head? = t.cursor.rest.head? := by
    rw [rest, List.drop_eq_getElem_cons inside]
    rfl
  obtain ⟨e', t', run', fault⟩ := refused_alike passed tokens.symm (.inr next)
  exact plain (fault.symm.trans (tooDeep_of_inGrammar held run'))

/-- What precedes an error for the depth begins no text that is accepted. -/
theorem deep_of_refused (refused : (Program.parse text store).result = .error e)
    (deep : e.fault = .tooDeep) {whole : String}
    (begins : (split text).take e.position <+: split whole) (p : Program) :
    (Program.parse whole store).result ≠ .ok p := by
  intro accepted
  obtain ⟨t, run, -, -, passed⟩ := passed_of_refused refused
  obtain ⟨more, tokens⟩ := begins
  obtain ⟨e', t', run', -⟩ := refused_alike passed tokens.symm (.inl deep)
  have refused' : (Program.parse whole store).result = .error e' := congrArg Prod.fst run'
  cases refused'.symm.trans accepted

end Parse

namespace Program

/-- An error points at the first token that no program can have at its place. -/
theorem parse_error_earliest {text : String} {store : Store} {e : ParseError}
    (refused : (Program.parse text store).result = .error e) :
    e.position ≤ (split text).length ∧
    e.context = ((split text).drop e.position).take 5 ∧
    (e.fault ≠ .tooDeep →
      (∃ whole, (split text).take e.position <+: split whole ∧ InGrammar store whole) ∧
      (e.position < (split text).length → ∀ whole,
        (split text).take (e.position + 1) <+: split whole → ¬ InGrammar store whole) ∧
      (e.position = (split text).length → ¬ InGrammar store text)) ∧
    (e.fault = .tooDeep → ∀ whole, (split text).take e.position <+: split whole →
      ∀ p, (Program.parse whole store).result ≠ .ok p) := by
  obtain ⟨t, run, rest, within, passed⟩ := Parse.passed_of_refused refused
  refine ⟨within, ?_, ?_, ?_⟩
  · rw [(passed.points e rfl).2, rest]
    rfl
  · intro plain
    refine ⟨Parse.viable_of_refused refused plain, ?_, ?_⟩
    · intro inside whole begins
      exact Parse.offends_of_refused refused plain inside begins
    · intro ended held
      exact plain (Parse.tooDeep_of_inGrammar held run)
  · intro deep whole begins
    exact Parse.deep_of_refused refused deep begins

def openLoops : List String := (List.replicate 100 ["loop", "\x7b"]).flatten

/-- A variable that is not bound yet, and a statement within a hundred loops. -/
theorem parse_error_earliest_cases :
    ((Program.parse "move(add(1, $x)); turnL;" .empty).result =
        .error ⟨.unbound "$x", 6, ["$x", ")", ")", ";", "turnL"]⟩ ∧
      (∃ whole, ["move", "(", "add", "(", "1", ","] <+: split whole ∧ InGrammar .empty whole) ∧
      ∀ whole, ["move", "(", "add", "(", "1", ",", "$x"] <+: split whole →
        ¬ InGrammar .empty whole) ∧
    ((Program.parse (spaced openLoops) .empty).result = .error ⟨.tooDeep, 200, []⟩ ∧
      ∀ whole, openLoops <+: split whole →
        ∀ p, (Program.parse whole .empty).result ≠ .ok p) := by
  constructor
  · have refused : (Program.parse "move(add(1, $x)); turnL;" .empty).result =
        .error ⟨.unbound "$x", 6, ["$x", ")", ")", ";", "turnL"]⟩ := by decide +kernel
    have tokens : split "move(add(1, $x)); turnL;" =
        ["move", "(", "add", "(", "1", ",", "$x", ")", ")", ";", "turnL", ";"] := by decide +kernel
    obtain ⟨-, -, plain, -⟩ := parse_error_earliest refused
    rw [tokens] at plain
    obtain ⟨viable, offends, -⟩ := plain (by decide)
    exact ⟨refused, viable, offends (by decide)⟩
  · have tokens : split (spaced openLoops) = openLoops := by
      apply split_spaced
      intro t held
      obtain ⟨opening, among, inside⟩ := List.mem_flatten.mp held
      rw [List.eq_of_mem_replicate among] at inside
      obtain rfl | rfl : t = "loop" ∨ t = "\x7b" := by simpa using inside
      · exact split_words.2.2.2.1
      · decide
    have refused : (Program.parse (spaced openLoops) .empty).result =
        .error ⟨.tooDeep, 200, []⟩ := by
      rw [Program.parse, Parse.run, Cursor.ofText, tokens]
      decide +kernel
    have all : openLoops.take 200 = openLoops := by decide +kernel
    obtain ⟨-, -, -, deep⟩ := parse_error_earliest refused
    rw [tokens, all] at deep
    exact ⟨refused, deep rfl⟩

end Program

end ArenaScript
