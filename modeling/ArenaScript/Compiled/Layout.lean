import ArenaScript.Compiled.Quoted
import ArenaScript.Compiled.Term

/-!
The text of a term. Lists and records are laid out with one item a line, indented by two blanks a
level; from level 65 on they stay on one line. Tuples always stay on one line.
-/

namespace ArenaScript

namespace Compiled

/-- The last level that is laid out over several lines. -/
def deepestLine : Nat := 64

def indent (level : Nat) : String := String.ofList (List.replicate (2 * level) ' ')

def layOut (level : Nat) (opening closing : String) (items : List String) : String :=
  if items.isEmpty then opening ++ closing
  else if level < deepestLine then
    opening ++ "\n" ++ String.join (items.map (indent (level + 1) ++ · ++ ",\n"))
      ++ indent level ++ closing
  else opening ++ ", ".intercalate items ++ closing

mutual

def Term.write (level : Nat) : Term → String
  | .word name => name
  | .number value suffix => decimal value ++ suffix
  | .text s => Quoted.write s
  | .list items => layOut level "[" "]" (writeItems (level + 1) items)
  | .tuple name items => name.getD "" ++ "(" ++ ", ".intercalate (writeItems level items) ++ ")"
  | .record name fields => layOut level (name.getD "" ++ "(") ")" (writeFields (level + 1) fields)
  | .map entries => layOut level "\x7b" "\x7d" (writeEntries (level + 1) entries)
  | .foreign => "()"

def writeItems (level : Nat) : List Term → List String
  | [] => []
  | t :: rest => t.write level :: writeItems level rest

def writeFields (level : Nat) : List (String × Term) → List String
  | [] => []
  | (name, t) :: rest => (name ++ ": " ++ t.write level) :: writeFields level rest

def writeEntries (level : Nat) : List (Term × Term) → List String
  | [] => []
  | (k, t) :: rest => (k.write level ++ ": " ++ t.write level) :: writeEntries level rest

end

end Compiled

end ArenaScript
