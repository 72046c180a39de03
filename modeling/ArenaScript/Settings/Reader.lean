import ArenaScript.Settings.Lexeme

/-!
From the text of a settings document to its tree: values, then lines. A line is blank, opens a
table, opens a row of an array of tables, or sets a key in the table that was opened last.
-/

namespace ArenaScript

namespace Settings

def arrayItems (value : Lexer Item) : (fuel : Nat) → Lexer (List Item)
  | 0, _ => none
  | fuel + 1, cs =>
    match skipFill cs.length cs with
    | ']' :: rest => some ([], rest)
    | cs => do
      let (item, cs) ← value cs
      match skipFill cs.length cs with
      | ',' :: rest =>
        let (items, rest) ← arrayItems value fuel rest
        return (item :: items, rest)
      | ']' :: rest => return ([item], rest)
      | _ => none

/-- A key, an equals sign and a value. The last part of the key is given apart. -/
def keyValue (value : Lexer Item) : Lexer (List String × String × Item) := fun cs => do
  let (parts, cs) ← key? cs
  let key ← parts.getLast?
  let (item, cs) ← value (skipSpace (← expect '=' cs))
  return ((parts.dropLast, key, item), cs)

/-- Keys with values up to a closing brace, divided by commas, on one line. -/
def braceEntries (value : Lexer Item) : (fuel : Nat) → Entries → Lexer Entries
  | 0, _, _ => none
  | fuel + 1, entries, cs => do
    let ((path, key, item), cs) ← keyValue value cs
    let entries ← entries.setDotted key item path
    match skipSpace cs with
    | ',' :: rest => braceEntries value fuel entries rest
    | '\x7d' :: rest => return (entries, rest)
    | _ => none

/-- A value in which at most `depth` arrays and braces are nested. -/
def value : (depth : Nat) → Lexer Item
  | 0, cs => scalar? cs
  | depth + 1, cs =>
    match cs with
    | '[' :: rest => do
      let (items, rest) ← arrayItems (value depth) (rest.length + 1) rest
      return (.array items, rest)
    | '\x7b' :: rest =>
      match skipSpace rest with
      | '\x7d' :: rest => some (.table .braces [], rest)
      | rest => do
        let (entries, rest) ← braceEntries (value depth) (rest.length + 1) [] rest
        return (.table .braces entries, rest)
    | cs => scalar? cs

structure Draft where
  entries : Entries
  /-- The table that was opened last. -/
  path : List String

def openAt (opener : Entries → String → Option Entries) (parts : List String) (draft : Draft) :
    Option Draft := do
  let key ← parts.getLast?
  let entries ← draft.entries.changeAt (opener · key) parts.dropLast
  return ⟨entries, parts⟩

def line (draft : Draft) (cs : List Char) : Option (Draft × List Char) :=
  match cs with
  | '[' :: '[' :: rest => do
    let (parts, rest) ← key? rest
    let rest ← expect ']' (← expect ']' rest)
    return (← openAt Entries.openRow parts draft, rest)
  | '[' :: rest => do
    let (parts, rest) ← key? rest
    let rest ← expect ']' rest
    return (← openAt Entries.openTable parts draft, rest)
  | cs => do
    let ((path, key, item), rest) ← keyValue (value nestingLimit) cs
    let entries ← draft.entries.changeAt (·.setDotted key item path) draft.path
    return ({ draft with entries }, rest)

def lines : (fuel : Nat) → Draft → List Char → Option Entries
  | 0, _, _ => none
  | fuel + 1, draft, cs =>
    match skipSpace cs with
    | [] => some draft.entries
    | cs =>
      match endLine cs with
      | some rest => lines fuel draft rest
      | none => do
        let (draft, rest) ← line draft cs
        lines fuel draft (← endLine rest)

def readEntries (text : String) : Option Entries :=
  let cs := match text.toList with
    | '\ufeff' :: rest => rest
    | cs => cs
  lines (cs.length + 1) ⟨[], []⟩ cs

end Settings

end ArenaScript
