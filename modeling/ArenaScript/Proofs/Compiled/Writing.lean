import ArenaScript.Compiled.Writer
import ArenaScript.Proofs.Compiled.Reading

/-! The terms of programs: they are plain, whatever names and numbers the program holds, and each
level of a program takes at most six levels of its term. -/
namespace ArenaScript

namespace Compiled

theorem isPlain_named {name : String} (plain : isPlainName name = true) (items : List Term) :
    (named name items).isPlain = itemsPlain items := by
  simp [named, Term.isPlain, plain]

theorem isPlain_some (t : Term) : (optional (some t)).isPlain = t.isPlain := by
  rw [optional, isPlain_named rfl]
  simp [itemsPlain]

theorem isPlain_blockTerm (statements : List Term) :
    (blockTerm statements).isPlain = itemsPlain statements := by
  have name : isPlainName "statements" = true := rfl
  simp [blockTerm, Term.isPlain, fieldsPlain, name]

theorem height_named (name : String) (t : Term) : (named name [t]).height = t.height + 1 := by
  simp [named, Term.height, heightOfItems]

theorem height_none : (optional none).height = 0 := rfl

theorem height_some (t : Term) : (optional (some t)).height = t.height + 1 := height_named "Some" t

theorem height_blockTerm (statements : List Term) :
    (blockTerm statements).height = heightOfItems statements + 1 := by
  simp [blockTerm, Term.height, heightOfFields]

end Compiled

open Compiled

theorem Expression.isPlain_toTerm (e : Expression) : e.toTerm.isPlain = true := by
  induction e with
  | number value => rfl
  | var name => rfl
  | gauge g => rcases g with _ | (_ | _) | _ | _ <;> rfl
  | barrel axis => cases axis <;> rfl
  | barrelAt axis index ih =>
    have tag : isPlainName axis.barrelTag = true := by cases axis <;> rfl
    rw [Expression.toTerm, isPlain_named rfl]
    simp [itemsPlain, isPlain_named tag, isPlain_some, ih]
  | op o lhs rhs left right =>
    have tag : isPlainName o.tag = true := by cases o <;> rfl
    have names : isPlainName "Op" = true ∧ isPlainName "op" = true ∧ isPlainName "lhs" = true ∧
        isPlainName "rhs" = true := by decide
    simp [Expression.toTerm, Term.isPlain, fieldsPlain, names, tag, left, right]

theorem Condition.isPlain_toTerm (c : Condition) : c.toTerm.isPlain = true := by
  induction c with
  | compare r lhs rhs =>
    have tag : isPlainName r.tag = true := by cases r <;> rfl
    rw [Condition.toTerm, isPlain_named tag]
    simp [itemsPlain, Expression.isPlain_toTerm]
  | and lhs rhs left right | or lhs rhs left right =>
    rw [Condition.toTerm, isPlain_named rfl]
    simp [itemsPlain, left, right]
  | not inner ih =>
    rw [Condition.toTerm, isPlain_named rfl]
    simp [itemsPlain, ih]

theorem Action.isPlain_toTerm (a : Action) : a.toTerm.isPlain = true := by
  rcases a with ⟨p, _ | count⟩ | o
  · cases p <;> rfl
  · have tag : isPlainName p.tag = true := by cases p <;> rfl
    rw [Action.toTerm, isPlain_named tag]
    simp [itemsPlain, isPlain_some, Expression.isPlain_toTerm]
  · cases o <;> rfl

mutual

theorem Statement.isPlain_toTerm (s : Statement) : s.toTerm.isPlain = true := by
  match s with
  | .loop body =>
    rw [Statement.toTerm, isPlain_named rfl]
    simp [itemsPlain, isPlain_blockTerm, isPlain_bodyTerms body]
  | .choose chain =>
    have names : isPlainName "branches" = true ∧ isPlainName "otherwise" = true := by decide
    rw [Statement.toTerm, isPlain_named rfl]
    simp [itemsPlain, Term.isPlain, fieldsPlain, names, Chain.isPlain_branchTerms chain,
      Chain.isPlain_otherwiseTerm chain]
  | .whilst test body =>
    have names : isPlainName "While" = true ∧ isPlainName "condition" = true ∧
        isPlainName "body" = true := by decide
    simp [Statement.toTerm, Term.isPlain, fieldsPlain, names, test.isPlain_toTerm,
      isPlain_blockTerm, isPlain_bodyTerms body]
  | .assign name value =>
    have names : isPlainName "Assign" = true ∧ isPlainName "name" = true ∧
        isPlainName "value" = true := by decide
    simp [Statement.toTerm, Term.isPlain, fieldsPlain, names, value.isPlain_toTerm]
  | .act action =>
    rw [Statement.toTerm, isPlain_named rfl]
    simp [itemsPlain, action.isPlain_toTerm]

theorem Chain.isPlain_branchTerms (c : Chain) : itemsPlain c.branchTerms = true := by
  match c with
  | .done => rfl
  | .otherwise _ => rfl
  | .branch test body rest =>
    have names : isPlainName "condition" = true ∧ isPlainName "body" = true := by decide
    simp [Chain.branchTerms, itemsPlain, Term.isPlain, fieldsPlain, names, test.isPlain_toTerm,
      isPlain_blockTerm, isPlain_bodyTerms body, Chain.isPlain_branchTerms rest]

theorem Chain.isPlain_otherwiseTerm (c : Chain) : c.otherwiseTerm.isPlain = true := by
  match c with
  | .done => rfl
  | .otherwise body =>
    rw [Chain.otherwiseTerm, isPlain_some, isPlain_blockTerm, isPlain_bodyTerms body]
  | .branch _ _ rest => exact Chain.isPlain_otherwiseTerm rest

theorem isPlain_bodyTerms (body : List Statement) : itemsPlain (bodyTerms body) = true := by
  match body with
  | [] => rfl
  | s :: rest =>
    simp [bodyTerms, itemsPlain, Statement.isPlain_toTerm s, isPlain_bodyTerms rest]

end

theorem Program.isPlain_toTerm (p : Program) : p.toTerm.isPlain = true := by
  rw [Program.toTerm, isPlain_blockTerm, isPlain_bodyTerms]

theorem Expression.height_toTerm_le (e : Expression) : e.toTerm.height ≤ 3 * e.nesting := by
  induction e with
  | number value =>
    simp only [Expression.toTerm, height_named, Term.height, Expression.nesting]
    omega
  | var name =>
    simp only [Expression.toTerm, height_named, Term.height, Expression.nesting]
    omega
  | gauge g =>
    simp only [Expression.toTerm, height_named, Term.height, Expression.nesting]
    omega
  | barrel axis =>
    simp only [Expression.toTerm, height_named, height_none, Expression.nesting]
    omega
  | barrelAt axis index ih =>
    simp only [Expression.toTerm, height_named, height_some, Expression.nesting]
    omega
  | op o lhs rhs left right =>
    simp only [Expression.toTerm, Term.height, heightOfFields, Expression.nesting]
    omega

theorem Condition.height_toTerm_le (c : Condition) : c.toTerm.height ≤ 3 * c.nesting := by
  induction c with
  | compare r lhs rhs =>
    have left := lhs.height_toTerm_le
    have right := rhs.height_toTerm_le
    simp only [Condition.toTerm, named, Term.height, heightOfItems, Condition.nesting]
    omega
  | and lhs rhs left right | or lhs rhs left right =>
    simp only [Condition.toTerm, named, Term.height, heightOfItems, Condition.nesting]
    omega
  | not inner ih =>
    simp only [Condition.toTerm, height_named, Condition.nesting]
    omega

theorem Action.height_toTerm_le (a : Action) : a.toTerm.height ≤ 3 * a.nesting + 2 := by
  rcases a with ⟨p, _ | count⟩ | o
  · simp only [Action.toTerm, height_named, Option.map_none, height_none]
    omega
  · have inner := count.height_toTerm_le
    simp only [Action.toTerm, height_named, Option.map_some, height_some, Action.nesting]
    omega
  · simp only [Action.toTerm, Term.height]
    omega

mutual

theorem Statement.height_toTerm_le (s : Statement) : s.toTerm.height ≤ 6 * s.nesting := by
  match s with
  | .loop body =>
    have inside := heightOfItems_bodyTerms_le body
    simp only [Statement.toTerm, height_named, height_blockTerm, Statement.nesting]
    omega
  | .choose chain =>
    -- the one level that takes all six: variant, chain, list, branch, block, list
    have branches := Chain.heightOfItems_branchTerms_le chain
    have last := Chain.height_otherwiseTerm_le chain
    simp only [Statement.toTerm, height_named, Term.height, heightOfFields, Statement.nesting]
    omega
  | .whilst test body =>
    have guard := test.height_toTerm_le
    have inside := heightOfItems_bodyTerms_le body
    simp only [Statement.toTerm, Term.height, heightOfFields, height_blockTerm, Statement.nesting]
    omega
  | .assign name value =>
    have source := value.height_toTerm_le
    simp only [Statement.toTerm, Term.height, heightOfFields, Statement.nesting]
    omega
  | .act action =>
    have deed := action.height_toTerm_le
    simp only [Statement.toTerm, height_named, Statement.nesting]
    omega

theorem Chain.heightOfItems_branchTerms_le (c : Chain) :
    heightOfItems c.branchTerms ≤ 6 * c.nesting + 4 := by
  match c with
  | .done | .otherwise _ =>
    simp only [Chain.branchTerms, heightOfItems]
    omega
  | .branch test body rest =>
    have guard := test.height_toTerm_le
    have inside := heightOfItems_bodyTerms_le body
    have others := Chain.heightOfItems_branchTerms_le rest
    simp only [Chain.branchTerms, heightOfItems, Term.height, heightOfFields, height_blockTerm,
      Chain.nesting]
    omega

theorem Chain.height_otherwiseTerm_le (c : Chain) : c.otherwiseTerm.height ≤ 6 * c.nesting + 3 := by
  match c with
  | .done =>
    simp only [Chain.otherwiseTerm, height_none]
    omega
  | .otherwise body =>
    have inside := heightOfItems_bodyTerms_le body
    simp only [Chain.otherwiseTerm, height_some, height_blockTerm, Chain.nesting]
    omega
  | .branch test body rest =>
    have last := Chain.height_otherwiseTerm_le rest
    simp only [Chain.otherwiseTerm, Chain.nesting]
    omega

theorem heightOfItems_bodyTerms_le (body : List Statement) :
    heightOfItems (bodyTerms body) ≤ 6 * bodyNesting body + 1 := by
  match body with
  | [] =>
    simp only [bodyTerms, heightOfItems]
    omega
  | s :: rest =>
    have first := Statement.height_toTerm_le s
    have others := heightOfItems_bodyTerms_le rest
    simp only [bodyTerms, heightOfItems, bodyNesting]
    omega

end

/-- Writing never meets its limit on a program that can be parsed. -/
theorem Program.height_toTerm_le {p : Program} (fits : p.nesting ≤ maxNesting) :
    p.toTerm.height ≤ nestingLimit := by
  have inside := heightOfItems_bodyTerms_le p.statements
  simp only [Program.nesting, maxNesting] at fits
  simp only [Program.toTerm, height_blockTerm, nestingLimit, maxNesting]
  omega

end ArenaScript
