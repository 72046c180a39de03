import ArenaScript.Program.Nesting
import ArenaScript.Program.Render

/-!
Terms: the data that compiled programs are made of. A term is a bare word, a number, a text, a
list, a tuple or a record; tuples and records may carry a name. Terms of two more kinds are read
but never written: maps, and leaves that no program holds.
-/

namespace ArenaScript

namespace Compiled

inductive Term
  | word (name : String)
  | number (value : Int) (suffix : String)
  | text (text : String)
  | list (items : List Term)
  | tuple (name : Option String) (items : List Term)
  | record (name : Option String) (fields : List (String × Term))
  | map (entries : List (Term × Term))
  | foreign

/-- How many terms may enclose a term: eight for each level of a script. -/
def nestingLimit : Nat := maxNesting * 8

mutual

/-- The number of terms around the innermost part of a term, itself included. -/
def Term.height : Term → Nat
  | .word _ => 0
  | .number _ _ => 0
  | .text _ => 0
  | .list items => heightOfItems items
  | .tuple _ items => heightOfItems items
  | .record _ fields => heightOfFields fields
  | .map entries => heightOfEntries entries
  | .foreign => 0

def heightOfItems : List Term → Nat
  | [] => 0
  | t :: rest => max (t.height + 1) (heightOfItems rest)

def heightOfFields : List (String × Term) → Nat
  | [] => 0
  | (_, t) :: rest => max (t.height + 1) (heightOfFields rest)

def heightOfEntries : List (Term × Term) → Nat
  | [] => 0
  | (k, t) :: rest => max (max (k.height + 1) (t.height + 1)) (heightOfEntries rest)

end

end Compiled

end ArenaScript
