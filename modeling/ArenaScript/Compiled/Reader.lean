import ArenaScript.Compiled.Leaf

/-!
Reading a term from a text. Blanks and comments may stand between any two parts, and the last item
of a list, tuple or record may be followed by a comma. A text may start with attributes that
loosen the rules for the terms after them.
-/

namespace ArenaScript

namespace Compiled

inductive ReadError
  | malformed
  | tooDeep
deriving DecidableEq, Repr

abbrev Read (α : Type) := List Char → Except ReadError (α × List Char)

inductive Gap
  | blank
  | line
  | block (inner : Nat)

/-- The characters with the Unicode property Pattern_White_Space. -/
def isGap (c : Char) : Bool :=
  let n := c.toNat
  (0x9 ≤ n && n ≤ 0xd) || n == 0x20 || n == 0x85 || n == 0x200e || n == 0x200f || n == 0x2028
    || n == 0x2029

/-- Passes blanks, line comments and block comments, which nest. -/
def skipFrom : Gap → List Char → Except ReadError (List Char)
  | .blank, '/' :: '/' :: rest => skipFrom .line rest
  | .blank, '/' :: '*' :: rest => skipFrom (.block 0) rest
  | .blank, '/' :: _ => .error .malformed
  | .blank, c :: rest => if isGap c then skipFrom .blank rest else .ok (c :: rest)
  | .line, '\n' :: rest => skipFrom .blank rest
  | .line, _ :: rest => skipFrom .line rest
  | .block inner, '/' :: '*' :: rest => skipFrom (.block (inner + 1)) rest
  | .block 0, '*' :: '/' :: rest => skipFrom .blank rest
  | .block (inner + 1), '*' :: '/' :: rest => skipFrom (.block inner) rest
  | .block inner, _ :: rest => skipFrom (.block inner) rest
  | .block _, [] => .error .malformed
  | _, [] => .ok []

def skip : List Char → Except ReadError (List Char) := skipFrom .blank

def expectChar (c : Char) : List Char → Except ReadError (List Char)
  | d :: rest => if d = c then .ok rest else .error .malformed
  | [] => .error .malformed

/-- A partial reader whose failure means that the text is malformed. -/
def orMalformed {α : Type} : Option α → Except ReadError α
  | some a => .ok a
  | none => .error .malformed

/-- Items up to a closing bracket, divided by commas. There are fewer than `fuel`. -/
def items {α : Type} (item : Read α) (closing : Char) : (fuel : Nat) → Read (List α)
  | 0, _ => .error .malformed
  | fuel + 1, cs => do
    match ← skip cs with
    | [] => .error .malformed
    | c :: rest =>
      if c = closing then return ([], rest)
      else
        let (a, cs) ← item (c :: rest)
        match ← skip cs with
        | [] => .error .malformed
        | c :: rest =>
          if c = ',' then
            let (as, cs) ← items item closing fuel rest
            return (a :: as, cs)
          else if c = closing then return ([a], rest)
          else .error .malformed

def field (term : Read Term) : Read (String × Term) := fun cs => do
  let (name, cs) ← orMalformed (name? cs)
  let cs ← expectChar ':' (← skip cs)
  let (t, cs) ← term (← skip cs)
  return ((name, t), cs)

def entry (term : Read Term) : Read (Term × Term) := fun cs => do
  let (k, cs) ← term cs
  let cs ← expectChar ':' (← skip cs)
  let (t, cs) ← term (← skip cs)
  return ((k, t), cs)

/-- Whether a parenthesis opens a record: its first part is a name and a colon. -/
def opensRecord (cs : List Char) : Bool :=
  match skip cs with
  | .error _ => false
  | .ok cs =>
    match name? cs with
    | none => false
    | some (_, cs) =>
      match skip cs with
      | .ok (':' :: _) => true
      | _ => false

def parenthesized (name : Option String) (term : Read Term) : Read Term := fun cs => do
  if opensRecord cs then
    let (fields, cs) ← items (field term) ')' (cs.length + 1) cs
    return (.record name fields, cs)
  else
    let (parts, cs) ← items term ')' (cs.length + 1) cs
    return (.tuple name parts, cs)

/-- Reads a term that fewer than `depth` terms enclose. -/
def readTerm : (depth : Nat) → Read Term
  | 0, _ => .error .tooDeep
  | depth + 1, cs => do
    match cs with
    | '[' :: rest =>
      let (parts, cs) ← items (readTerm depth) ']' (rest.length + 1) rest
      return (.list parts, cs)
    | '(' :: rest => parenthesized none (readTerm depth) rest
    | '\x7b' :: rest =>
      let (entries, cs) ← items (entry (readTerm depth)) '\x7d' (rest.length + 1) rest
      return (.map entries, cs)
    | cs =>
      match name? cs with
      | some (name, cs) =>
        match ← skip cs with
        | '(' :: rest => parenthesized (some name) (readTerm depth) rest
        | _ => return (.word name, cs)
      | none => orMalformed (leaf? cs)

structure Dialect where
  /-- A bare term stands for a present option. -/
  implicitSome : Bool := false
  /-- The record inside a named tuple of one item is written without its own parentheses. -/
  unwrapVariants : Bool := false
  /-- A record has to carry its name. -/
  explicitNames : Bool := false
deriving DecidableEq, Repr

def Dialect.enable (d : Dialect) (name : String) : Option Dialect :=
  match name with
  | "implicit_some" => some { d with implicitSome := true }
  | "unwrap_variant_newtypes" => some { d with unwrapVariants := true }
  | "explicit_struct_names" => some { d with explicitNames := true }
  | "unwrap_newtypes" => some d
  | _ => none

def expectParts : List String → List Char → Except ReadError (List Char)
  | [], cs => .ok cs
  | part :: parts, cs =>
    if part.toList.isPrefixOf cs then do
      expectParts parts (← skip (cs.drop part.length))
    else .error .malformed

def enabled (d : Dialect) : (fuel : Nat) → Read Dialect
  | 0, _ => .error .malformed
  | fuel + 1, cs => do
    let (name, cs) ← orMalformed (name? cs)
    let d ← orMalformed (d.enable name)
    match ← skip cs with
    | ',' :: rest =>
      let cs ← skip rest
      if cs.head?.any isNameChar then enabled d fuel cs else return (d, cs)
    | cs => return (d, cs)

def attributes (d : Dialect) : (fuel : Nat) → Read Dialect
  | 0, _ => .error .malformed
  | fuel + 1, cs => do
    match ← skip cs with
    | '#' :: rest =>
      let cs ← expectParts ["#", "!", "[", "enable", "("] ('#' :: rest)
      let (d, cs) ← enabled d (cs.length + 1) cs
      attributes d fuel (← expectParts [")", "]"] (← skip cs))
    | cs => return (d, cs)

def readText (limit : Nat) (text : String) : Except ReadError (Dialect × Term) := do
  let cs := text.toList
  let (dialect, cs) ← attributes {} (cs.length + 1) cs
  let (term, cs) ← readTerm (limit + 1) cs
  match ← skip cs with
  | [] => return (dialect, term)
  | _ => .error .malformed

end Compiled

end ArenaScript
