import ArenaScript.Proofs.Grammar
import ArenaScript.Proofs.Survey
import ArenaScript.Proofs.Word

/-! The tokens of the canonical text of a tree derive this tree. Each kind of tree has its text
cut at delimiters into the texts of its parts. -/
namespace ArenaScript

open Token

theorem split_call (word argument : String) :
    split (call word argument) = split word ++ "(" :: (split argument ++ [")"]) := by
  have marks : split "(" = ["("] ∧ split ")" = [")"] := by decide
  rw [call, split_append_of_opens _ (rfl : Opens ")"),
    split_around word argument (by decide) (rfl : Opens "(") rfl]
  simp [marks]

theorem split_callPair (word first second : String) :
    split (callPair word first second) =
      split word ++ "(" :: (split first ++ "," :: (split second ++ [")"])) := by
  have mark : split ", " = [","] := by decide
  rw [callPair, split_call, split_around first second (by decide) (rfl : Opens ", ") rfl]
  simp [mark]

theorem split_block (head body : String) :
    split (head ++ " \x7b" ++ body ++ " \x7d") =
      split head ++ "\x7b" :: (split body ++ ["\x7d"]) := by
  have marks : split " \x7b" = ["\x7b"] ∧ split " \x7d" = ["\x7d"] := by decide
  rw [split_append_of_opens _ (rfl : Opens " \x7d"),
    split_around head body (by decide) (rfl : Opens " \x7b") rfl]
  simp [marks]

theorem split_operator (o : Operator) : split o.keyword = [o.keyword] := by
  cases o <;> decide

theorem split_gauge (g : Gauge) : split g.keyword = [g.keyword] := by
  rcases g with _ | (_ | _) | _ | _ <;> decide

theorem split_axis (axis : Axis) : split axis.barrelKeyword = [axis.barrelKeyword] := by
  cases axis <;> decide

theorem split_relation (r : Relation) : split r.keyword = [r.keyword] := by
  cases r <;> decide

theorem split_pace (p : Pace) : split p.keyword = [p.keyword] := by
  cases p <;> decide

theorem split_order (o : Order) : split o.keyword = [o.keyword] := by
  cases o <;> decide

variable {declared after : Store}

theorem Expression.derives_render {e : Expression} (bound : e.Bound declared) :
    Expression.Derives (split e.render) e := by
  induction e with
  | number value =>
    rw [Expression.render, split_decimal]
    exact .number (isNumber_decimal _) (toInt_decimal _)
  | var name =>
    rw [Expression.render, split_variable bound.1]
    exact .var bound.1
  | gauge g =>
    rw [Expression.render, split_gauge]
    exact .gauge g
  | barrel axis =>
    rw [Expression.render, split_axis]
    exact .barrel axis
  | barrelAt axis index ih =>
    rw [Expression.render, split_call, split_axis]
    exact .barrelAt axis (ih bound)
  | op o lhs rhs left right =>
    rw [Expression.render, split_callPair, split_operator]
    exact .op o (left bound.1) (right bound.2)

theorem Condition.derives_render {c : Condition} (bound : c.Bound declared) :
    Condition.Derives (split c.render) c := by
  have words : split "and" = ["and"] ∧ split "or" = ["or"] ∧ split "not" = ["not"] := by
    decide
  induction c with
  | compare r lhs rhs =>
    rw [Condition.render, split_callPair, split_relation]
    exact .compare r (Expression.derives_render bound.1) (Expression.derives_render bound.2)
  | and lhs rhs left right =>
    rw [Condition.render, split_callPair, words.1]
    exact .and (left bound.1) (right bound.2)
  | or lhs rhs left right =>
    rw [Condition.render, split_callPair, words.2.1]
    exact .or (left bound.1) (right bound.2)
  | not inner ih =>
    rw [Condition.render, split_call, words.2.2]
    exact .not (ih bound)

theorem Action.derives_render {a : Action} (bound : a.Bound declared) :
    Action.Derives (split a.render) a := by
  have mark : split ";" = [";"] := by decide
  rcases a with ⟨p, _ | count⟩ | o
  · rw [Action.render, split_append_of_opens _ (rfl : Opens ";"), split_pace, mark]
    exact .once p
  · rw [Action.render, split_append_of_opens _ (rfl : Opens ";"), split_call, split_pace,
      mark]
    simpa using Action.Derives.times p (Expression.derives_render bound)
  · rw [Action.render, split_append_of_opens _ (rfl : Opens ";"), split_order, mark]
    exact .order o

theorem split_assign {name : String} (form : Word.isVariable name = true) (value : String) :
    split (name ++ " = " ++ value ++ ";") = name :: "=" :: (split value ++ [";"]) := by
  have marks : split " = " = ["="] ∧ split ";" = [";"] := by decide
  rw [split_append_of_opens _ (rfl : Opens ";"),
    split_around name value (by decide) (rfl : Opens " = ") rfl, split_variable form]
  simp [marks]

theorem opens_renderBody (body : Block) : Opens (renderBody body) := by
  cases body with
  | nil => rfl
  | cons s rest =>
    rw [renderBody, String.append_assoc]
    exact opens_append _ (by decide) rfl

theorem split_renderBody (s : Statement) (rest : Block) :
    split (renderBody (s :: rest)) = split s.render ++ split (renderBody rest) := by
  have blank : split " " = [] := by decide
  rw [renderBody, split_append_of_opens _ (opens_renderBody rest),
    split_append_of_closes s.render (rfl : Closes " "), blank, List.nil_append]

theorem Chain.opens_render (c : Chain) : Opens (c.render " elif") := by
  cases c with
  | done => rfl
  | otherwise body =>
    rw [Chain.render, String.append_assoc]
    exact opens_append _ (by decide) rfl
  | branch test body rest =>
    simp only [Chain.render, call, String.append_assoc]
    exact opens_append _ (by decide) rfl

theorem split_branch (word : String) (test : Condition) (body : Block) (rest : Chain) :
    split ((Chain.branch test body rest).render word) =
      split word ++ "(" :: (split test.render ++ ")" :: ("\x7b" :: (split (renderBody body) ++
        ["\x7d"]) ++ split (rest.render " elif"))) := by
  have blank : split " " = [] := by decide
  rw [Chain.render, split_append_of_opens _ rest.opens_render, split_block, split_call,
    split_append_of_opens _ (rfl : Opens " ")]
  simp [blank]

mutual

theorem Statement.derives_render (s : Statement) {declared after : Store}
    (passes : s.Passes declared after) : Statement.Derives (split s.render) s := by
  match s with
  | .loop body =>
    have word : split "loop" = ["loop"] := by decide
    obtain ⟨full, inside⟩ := (Statement.passes_loop body).mp passes
    have opening : "loop \x7b" = "loop" ++ " \x7b" := rfl
    rw [Statement.render, opening, split_block, word]
    exact .loop (.braces (derives_renderBody body full inside))
  | .choose (.branch test body rest) =>
    have word : split "if" = ["if"] := by decide
    obtain ⟨bound, full, middle, inside, others⟩ :=
      (Chain.passes_branch _ _ _).mp ((Statement.passes_choose _ _ _).mp passes)
    rw [Statement.render, split_branch, word]
    exact .choose (Condition.derives_render bound) (.braces (derives_renderBody body full inside))
      (Chain.derives_render rest others)
  | .choose .done =>
    obtain ⟨_, _, _, wrong⟩ := Statement.branch_of_passes passes
    cases wrong
  | .choose (.otherwise body) =>
    obtain ⟨_, _, _, wrong⟩ := Statement.branch_of_passes passes
    cases wrong
  | .whilst test body =>
    have word : split "while " = ["while"] := by decide
    obtain ⟨bound, full, inside⟩ := (Statement.passes_whilst test body).mp passes
    rw [Statement.render, split_block, split_call, word]
    simpa using Statement.Derives.whilst (Condition.derives_render bound)
      (.braces (derives_renderBody body full inside))
  | .assign name value =>
    obtain ⟨form, bound, -⟩ := (Statement.passes_assign name value).mp passes
    rw [Statement.render, split_assign form]
    exact .assign form (Expression.derives_render bound)
  | .act action =>
    obtain ⟨bound, -⟩ := (Statement.passes_act action).mp passes
    rw [Statement.render]
    exact .act (Action.derives_render bound)

theorem Chain.derives_render (c : Chain) {declared after : Store}
    (passes : c.Passes declared after) : Chain.Derives (split (c.render " elif")) c := by
  match c with
  | .done =>
    have nothing : split "" = [] := by decide
    rw [Chain.render, nothing]
    exact .done
  | .otherwise body =>
    have word : split " else" = ["else"] := by decide
    obtain ⟨full, inside⟩ := (Chain.passes_otherwise body).mp passes
    have opening : " else \x7b" = " else" ++ " \x7b" := rfl
    rw [Chain.render, opening, split_block, word]
    exact .otherwise (.braces (derives_renderBody body full inside))
  | .branch test body rest =>
    have word : split " elif" = ["elif"] := by decide
    obtain ⟨bound, full, middle, inside, others⟩ := (Chain.passes_branch _ _ _).mp passes
    rw [split_branch, word]
    exact .branch (Condition.derives_render bound) (.braces (derives_renderBody body full inside))
      (Chain.derives_render rest others)

theorem derives_renderBody (body : Block) {declared after : Store} (full : body ≠ [])
    (passes : PassesAll body declared after) : DerivesAll (split (renderBody body)) body := by
  match body with
  | [s] =>
    have nothing : split (renderBody []) = [] := by decide
    obtain ⟨middle, first, -⟩ := (passesAll_cons s []).mp passes
    rw [split_renderBody, nothing, List.append_nil]
    exact .one (Statement.derives_render s first)
  | s :: t :: rest =>
    obtain ⟨middle, first, others⟩ := (passesAll_cons s (t :: rest)).mp passes
    rw [split_renderBody]
    exact .more (Statement.derives_render s first)
      (derives_renderBody (t :: rest) (List.cons_ne_nil t rest) others)

end

theorem split_lines {statements : List Statement} (full : statements ≠ []) :
    split ("\n".intercalate (statements.map Statement.render)) = split (renderBody statements) := by
  -- between tokens a line break does what the blanks of a block do
  have line : split "\n" = [] := by decide
  have nothing : split (renderBody []) = [] := by decide
  induction statements with
  | nil => exact absurd rfl full
  | cons s rest ih =>
    rw [split_renderBody]
    cases rest with
    | nil => simp [nothing]
    | cons t rest =>
      rw [List.map_cons, List.map_cons, String.intercalate_cons_cons, ← List.map_cons,
        split_around _ _ (by decide) (rfl : Opens "\n") rfl, line, List.nil_append,
        ih (List.cons_ne_nil t rest)]

/-- The canonical text of a program whose walk finds nothing derives this program, whatever the
walk starts from. -/
theorem Program.derives_render_of_passes {p : Program} {declared after : Store}
    (full : p.statements ≠ []) (passes : PassesAll p.statements declared after) :
    p.Derives (split p.render) := by
  rw [Program.render, split_lines full]
  exact derives_renderBody p.statements full passes

theorem Program.derives_render {p : Program} (clean : p.defects = []) :
    p.Derives (split p.render) := by
  obtain ⟨full, passes⟩ := p.defects_eq_nil.mp clean
  exact Program.derives_render_of_passes full passes

end ArenaScript
