import ArenaScript.Program.Keyword
import ArenaScript.Store
import ArenaScript.Word

/-!
What is wrong with a tree that was not made by the parser. The walk follows the order of the
text: a variable is declared once its whole assignment was passed, and may be read only after
that. The walk returns the defects in order and the declared names as a store of zeros.
-/

namespace ArenaScript

inductive Defect
  | emptyProgram
  | emptyBlock (context : String)
  | emptyIf
  | invalidName (name : String)
  | undeclared (name context : String)
deriving DecidableEq, Repr

def Defect.message : Defect → String
  | .emptyProgram => "program has no statements"
  | .emptyBlock context => "empty block (" ++ context ++ ")"
  | .emptyIf => "if statement has no branches"
  | .invalidName name => "invalid variable name '" ++ name ++ "'"
  | .undeclared name context =>
    "variable '" ++ name ++ "' used before it is assigned (" ++ context ++ ")"

def Expression.defects (declared : Store) (context : String) : Expression → List Defect
  | .number _ => []
  | .gauge _ => []
  | .barrel _ => []
  | .var name =>
    if !Word.isVariable name then [.invalidName name]
    else if declared.isDeclared name then []
    else [.undeclared name context]
  | .barrelAt _ index => index.defects declared context
  | .op _ lhs rhs => lhs.defects declared context ++ rhs.defects declared context

def Condition.defects (declared : Store) (context : String) : Condition → List Defect
  | .compare _ lhs rhs => lhs.defects declared context ++ rhs.defects declared context
  | .and lhs rhs => lhs.defects declared context ++ rhs.defects declared context
  | .or lhs rhs => lhs.defects declared context ++ rhs.defects declared context
  | .not inner => inner.defects declared context

def Action.defects (declared : Store) : Action → List Defect
  | .pace p (some count) => count.defects declared p.keyword
  | .pace _ none => []
  | .order _ => []

def blockDefects (context : String) (body : List Statement) : List Defect :=
  if body.isEmpty then [.emptyBlock context] else []

mutual

def Statement.survey : Statement → Store → List Defect × Store
  | .loop body, declared =>
    let (found, declared) := surveyBody body declared
    (blockDefects "loop" body ++ found, declared)
  | .choose (.branch test body rest), declared =>
    (Chain.branch test body rest).survey "if" declared
  | .choose chain, declared =>
    let (found, declared) := chain.survey "if" declared
    (.emptyIf :: found, declared)
  | .whilst test body, declared =>
    let (found, after) := surveyBody body declared
    (test.defects declared "while" ++ blockDefects "while" body ++ found, after)
  | .assign name value, declared =>
    if Word.isVariable name then (value.defects declared name, declared.declare name)
    else (value.defects declared name ++ [.invalidName name], declared)
  | .act action, declared => (action.defects declared, declared)

/-- A chain whose first branch is introduced by `word`. -/
def Chain.survey (word : String) : Chain → Store → List Defect × Store
  | .done, declared => ([], declared)
  | .otherwise body, declared =>
    let (found, declared) := surveyBody body declared
    (blockDefects "else" body ++ found, declared)
  | .branch test body rest, declared =>
    let (found, after) := surveyBody body declared
    let (more, last) := rest.survey "elif" after
    (test.defects declared word ++ blockDefects word body ++ found ++ more, last)

def surveyBody : List Statement → Store → List Defect × Store
  | [], declared => ([], declared)
  | s :: rest, declared =>
    let (found, declared) := s.survey declared
    let (more, declared) := surveyBody rest declared
    (found ++ more, declared)

end

/-- All defects of a program, in the order of its text. -/
def Program.defects (p : Program) : List Defect :=
  (if p.statements.isEmpty then [.emptyProgram] else []) ++ (surveyBody p.statements .empty).1

/-- The store of a program before it runs: each well-formed name it assigns, bound to zero. -/
def Program.initialStore (p : Program) : Store := (surveyBody p.statements .empty).2

/-- The well-formed names that are assigned anywhere in a program, in increasing order. -/
def Program.declaredNames (p : Program) : List String := p.initialStore.names

end ArenaScript
