/-!
Which words are variable names and which are numbers. Both classes are ASCII only.
-/

namespace ArenaScript

namespace Word

/-- A dollar sign, a letter, then letters and digits. -/
def isVariable (word : String) : Bool :=
  match word.toList with
  | '$' :: first :: rest => first.isAlpha && rest.all Char.isAlphanum
  | _ => false

def splitSign : List Char → Bool × List Char
  | '-' :: digits => (true, digits)
  | '+' :: digits => (false, digits)
  | digits => (false, digits)

/-- An optional sign, then one or more digits. -/
def isNumber (word : String) : Bool :=
  let digits := (splitSign word.toList).2
  !digits.isEmpty && digits.all Char.isDigit

def toInt (word : String) : Int :=
  let (negative, digits) := splitSign word.toList
  let size : Int := Nat.ofDigitChars 10 digits 0
  if negative then -size else size

end Word

end ArenaScript
