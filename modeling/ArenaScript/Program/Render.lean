import ArenaScript.Program.Keyword

/-!
The canonical text of a program: one top-level statement a line, blocks on one line, one blank
between words. Reading this text gives the same tree.
-/

namespace ArenaScript

/-- Decimal digits of a number, with a minus sign below zero and no leading zero. -/
def decimal (n : Int) : String :=
  if n < 0 then "-" ++ String.ofList (Nat.toDigits 10 n.natAbs)
  else String.ofList (Nat.toDigits 10 n.natAbs)

def call (word argument : String) : String := word ++ "(" ++ argument ++ ")"

def callPair (word first second : String) : String := call word (first ++ ", " ++ second)

def Expression.render : Expression → String
  | .number value => decimal value.toInt
  | .var name => name
  | .gauge g => g.keyword
  | .barrel axis => axis.barrelKeyword
  | .barrelAt axis index => call axis.barrelKeyword index.render
  | .op o lhs rhs => callPair o.keyword lhs.render rhs.render

def Condition.render : Condition → String
  | .compare r lhs rhs => callPair r.keyword lhs.render rhs.render
  | .and lhs rhs => callPair "and" lhs.render rhs.render
  | .or lhs rhs => callPair "or" lhs.render rhs.render
  | .not inner => call "not" inner.render

def Action.render : Action → String
  | .pace p none => p.keyword ++ ";"
  | .pace p (some count) => call p.keyword count.render ++ ";"
  | .order o => o.keyword ++ ";"

mutual

def Statement.render : Statement → String
  | .loop body => "loop \x7b" ++ renderBody body ++ " \x7d"
  | .choose chain => chain.render "if"
  | .whilst test body => call "while " test.render ++ " \x7b" ++ renderBody body ++ " \x7d"
  | .assign name value => name ++ " = " ++ value.render ++ ";"
  | .act action => action.render

/-- A chain whose first branch is introduced by `word`; the later ones are `elif` branches. -/
def Chain.render (word : String) : Chain → String
  | .done => ""
  | .otherwise body => " else \x7b" ++ renderBody body ++ " \x7d"
  | .branch test body rest =>
    call (word ++ " ") test.render ++ " \x7b" ++ renderBody body ++ " \x7d" ++ rest.render " elif"

def renderBody : List Statement → String
  | [] => ""
  | s :: rest => " " ++ s.render ++ renderBody rest

end

def Program.render (p : Program) : String := "\n".intercalate (p.statements.map Statement.render)

end ArenaScript
