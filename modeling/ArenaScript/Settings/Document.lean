/-!
The tree of a settings document, and how headers and keys build it. A table may be opened by one
header only, and no key may be given twice.
-/

namespace ArenaScript

namespace Settings

inductive Origin
  /-- A header of its own. -/
  | header
  /-- A longer header that passes through it. -/
  | passage
  /-- A dotted key. -/
  | dotted
  /-- A value in braces, which nothing can extend. -/
  | braces
deriving DecidableEq, Repr

/-- An entry of a document. Fractions and dates are `other`; no setting is one. -/
inductive Item
  | text (text : String)
  | integer (value : Int)
  | boolean (value : Bool)
  | other
  | array (items : List Item)
  | table (origin : Origin) (entries : List (String × Item))
  | rows (rows : List (List (String × Item)))

abbrev Entries := List (String × Item)

namespace Entries

def find? (entries : Entries) (key : String) : Option Item := entries.lookup key

def replace (key : String) (item : Item) : Entries → Entries
  | [] => []
  | (k, i) :: rest => if k = key then (k, item) :: rest else (k, i) :: replace key item rest

def add (entries : Entries) (key : String) (item : Item) : Option Entries :=
  if (entries.find? key).isSome then none else some (entries ++ [(key, item)])

def changeLast (change : Entries → Option Entries) : List Entries → Option (List Entries)
  | [] => none
  | [row] => (change row).map ([·])
  | row :: rest => (changeLast change rest).map (row :: ·)

/-- Changes the table at the end of a header's path. Missing tables on the way are made, and an
array of tables stands for its last row. -/
def changeAt (change : Entries → Option Entries) : (path : List String) → Entries → Option Entries
  | [], entries => change entries
  | key :: path, entries =>
    match entries.find? key with
    | none => do
      let made ← changeAt change path []
      return entries ++ [(key, .table .passage made)]
    | some (.table .braces _) => none
    | some (.table origin inner) => do
      return entries.replace key (.table origin (← changeAt change path inner))
    | some (.rows rows) => do
      return entries.replace key (.rows (← changeLast (changeAt change path) rows))
    | some _ => none

def openTable (entries : Entries) (key : String) : Option Entries :=
  match entries.find? key with
  | none => some (entries ++ [(key, .table .header [])])
  | some (.table .passage inner) => some (entries.replace key (.table .header inner))
  | some _ => none

def openRow (entries : Entries) (key : String) : Option Entries :=
  match entries.find? key with
  | none => some (entries ++ [(key, .rows [[]])])
  | some (.rows rows) => some (entries.replace key (.rows (rows ++ [[]])))
  | some _ => none

/-- Sets a dotted key. The tables on its way come from dotted keys; a passage of a header may only
lie before the last of them. -/
def setDotted (key : String) (item : Item) : (path : List String) → Entries → Option Entries
  | [], entries => entries.add key item
  | [last], entries =>
    match entries.find? last with
    | none => some (entries ++ [(last, .table .dotted [(key, item)])])
    | some (.table .dotted inner) => do
      return entries.replace last (.table .dotted (← add inner key item))
    | some _ => none
  | step :: path, entries =>
    match entries.find? step with
    | none => do
      return entries ++ [(step, .table .dotted (← setDotted key item path []))]
    | some (.table .dotted inner) => do
      return entries.replace step (.table .dotted (← setDotted key item path inner))
    | some (.table .passage inner) => do
      return entries.replace step (.table .passage (← setDotted key item path inner))
    | some (.rows rows) => do
      return entries.replace step (.rows (← changeLast (setDotted key item path) rows))
    | some _ => none

end Entries

end Settings

end ArenaScript
