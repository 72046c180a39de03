import ArenaScript.Compiled.Quoted
import ArenaScript.Settings.Document
import ArenaScript.Word

/-!
The smallest parts of a settings document: blanks, line ends, keys, texts, numbers and dates. Each
reader takes the characters from its part on and gives the part and what follows it.
-/

namespace ArenaScript

namespace Settings

open Compiled.Quoted (hexDigit? hexValue?)
open Word (splitSign)

abbrev Lexer (α : Type) := List Char → Option (α × List Char)

def isSpace (c : Char) : Bool := c = ' ' || c = '\t'

def skipSpace (cs : List Char) : List Char := cs.dropWhile isSpace

/-- Characters that may stand in a comment or a text: all but the controls, tab excepted. -/
def isPlain (c : Char) : Bool := c = '\t' || (' ' ≤ c && c ≠ '\x7f')

def newline? : List Char → Option (List Char)
  | '\n' :: rest => some rest
  | '\r' :: '\n' :: rest => some rest
  | _ => none

def skipComment : List Char → List Char
  | '#' :: rest => rest.dropWhile isPlain
  | cs => cs

def endLine (cs : List Char) : Option (List Char) :=
  match skipComment (skipSpace cs) with
  | [] => some []
  | cs => newline? cs

def skipFill : (fuel : Nat) → List Char → List Char
  | 0, cs => cs
  | fuel + 1, cs =>
    let cs := skipComment (skipSpace cs)
    match newline? cs with
    | some rest => skipFill fuel rest
    | none => cs

def unescape : Lexer Char
  | 'b' :: rest => some ('\x08', rest)
  | 't' :: rest => some ('\t', rest)
  | 'n' :: rest => some ('\n', rest)
  | 'f' :: rest => some ('\x0c', rest)
  | 'r' :: rest => some ('\r', rest)
  | '"' :: rest => some ('"', rest)
  | '\\' :: rest => some ('\\', rest)
  | 'u' :: rest => point 4 rest
  | 'U' :: rest => point 8 rest
  | _ => none
where
  /-- A code point of exactly `count` hexadecimal digits. -/
  point (count : Nat) (cs : List Char) : Option (Char × List Char) := do
    if cs.length < count then none
    else
      let n ← hexValue? (cs.take count)
      if n.isValidChar then some (Char.ofNat n, cs.drop count) else none

def basicText : (fuel : Nat) → Lexer (List Char)
  | 0, _ => none
  | _, [] => none
  | _ + 1, '"' :: rest => some ([], rest)
  | fuel + 1, '\\' :: rest => do
    let (c, rest) ← unescape rest
    let (s, rest) ← basicText fuel rest
    return (c :: s, rest)
  | fuel + 1, c :: rest =>
    if isPlain c then do
      let (s, rest) ← basicText fuel rest
      return (c :: s, rest)
    else none

def literalText : Lexer (List Char)
  | [] => none
  | '\'' :: rest => some ([], rest)
  | c :: rest =>
    if isPlain c then do
      let (s, rest) ← literalText rest
      return (c :: s, rest)
    else none

/-- What a run of quotes in a text of several lines means: fewer than three belong to the text,
three to five close it, and those before the last three belong to the text. -/
def quoteRun (quote : Char) (cs : List Char) : Option (List Char × Bool × List Char) :=
  let count := (cs.takeWhile (· = quote)).length
  let rest := cs.drop count
  if count < 3 then some (List.replicate count quote, false, rest)
  else if count ≤ 5 then some (List.replicate (count - 3) quote, true, rest)
  else none

def continueLine (cs : List Char) : Option (List Char) := do
  let rest ← newline? (skipSpace cs)
  return rest.dropWhile fun c => isSpace c || c = '\n' || c = '\r'

/-- A text over several lines, from after its opening quotes on. Escapes count only where
`escapes` says so. -/
def longText (quote : Char) (escapes : Bool) : (fuel : Nat) → Lexer (List Char)
  | 0, _ => none
  | _, [] => none
  | fuel + 1, c :: rest =>
    if c = quote then do
      let (quotes, closed, rest) ← quoteRun quote (c :: rest)
      if closed then return (quotes, rest)
      else
        let (s, rest) ← longText quote escapes fuel rest
        return (quotes ++ s, rest)
    else if escapes && c = '\\' then
      match continueLine rest with
      | some rest => longText quote escapes fuel rest
      | none => do
        let (c, rest) ← unescape rest
        let (s, rest) ← longText quote escapes fuel rest
        return (c :: s, rest)
    else
      match newline? (c :: rest) with
      | some rest => do
        let (s, rest) ← longText quote escapes fuel rest
        return ('\n' :: s, rest)
      | none =>
        if isPlain c then do
          let (s, rest) ← longText quote escapes fuel rest
          return (c :: s, rest)
        else none

def skipFirstNewline (cs : List Char) : List Char := (newline? cs).getD cs

def shortText? (cs : List Char) : Option (String × List Char) :=
  let read : Option (List Char × List Char) := match cs with
    | '"' :: rest => basicText (rest.length + 1) rest
    | '\'' :: rest => literalText rest
    | _ => none
  read.map fun (s, rest) => (String.ofList s, rest)

def text? (cs : List Char) : Option (String × List Char) :=
  match cs with
  | '"' :: '"' :: '"' :: rest => long '"' true rest
  | '\'' :: '\'' :: '\'' :: rest => long '\'' false rest
  | cs => shortText? cs
where
  long (quote : Char) (escapes : Bool) (rest : List Char) : Option (String × List Char) :=
    (longText quote escapes (rest.length + 1) (skipFirstNewline rest)).map
      fun (s, rest) => (String.ofList s, rest)

def isKeyChar (c : Char) : Bool := c.isAlphanum || c = '_' || c = '-'

def simpleKey? (cs : List Char) : Option (String × List Char) :=
  match cs with
  | '"' :: _ => shortText? cs
  | '\'' :: _ => shortText? cs
  | cs =>
    let body := cs.takeWhile isKeyChar
    if body.isEmpty then none else some (String.ofList body, cs.drop body.length)

def keyParts : (fuel : Nat) → Lexer (List String)
  | 0, _ => none
  | fuel + 1, cs => do
    let (part, cs) ← simpleKey? (skipSpace cs)
    match skipSpace cs with
    | '.' :: rest =>
      let (parts, rest) ← keyParts fuel rest
      return (part :: parts, rest)
    | rest => return ([part], rest)

/-- How many parts a key may have, and how deep arrays and braces may be nested. -/
def nestingLimit : Nat := 79

def key? (cs : List Char) : Option (List String × List Char) := keyParts nestingLimit cs

/-- Digits, between which single underscores may stand. The result is without underscores. -/
def digitsFrom (isDigit : Char → Bool) : List Char → List Char × List Char
  | '_' :: d :: rest =>
    if isDigit d then
      let (ds, rest) := digitsFrom isDigit rest
      (d :: ds, rest)
    else ([], '_' :: d :: rest)
  | c :: rest =>
    if isDigit c then
      let (ds, rest) := digitsFrom isDigit rest
      (c :: ds, rest)
    else ([], c :: rest)
  | [] => ([], [])

def digits? (isDigit : Char → Bool) : Lexer (List Char)
  | c :: rest =>
    if isDigit c then
      let (ds, rest) := digitsFrom isDigit rest
      some (c :: ds, rest)
    else none
  | [] => none

def wholeDigits? : Lexer (List Char)
  | '0' :: rest => some (['0'], rest)
  | cs => digits? Char.isDigit cs

/-- Integers have 64 bits. -/
def fitting (n : Int) (rest : List Char) : Option (Item × List Char) :=
  if -0x8000000000000000 ≤ n ∧ n < 0x8000000000000000 then some (.integer n, rest) else none

def markedInteger (base : Nat) (cs : List Char) : Option (Item × List Char) := do
  let (ds, rest) ← digits? (fun c => (hexDigit? c).any (· < base)) cs
  let n := ds.foldl (fun n c => base * n + (hexDigit? c).getD 0) 0
  fitting n rest

def integer? (cs : List Char) : Option (Item × List Char) :=
  match cs with
  | '0' :: 'x' :: rest => markedInteger 16 rest
  | '0' :: 'o' :: rest => markedInteger 8 rest
  | '0' :: 'b' :: rest => markedInteger 2 rest
  | cs => do
    let (negative, cs) := splitSign cs
    let (ds, rest) ← wholeDigits? cs
    let n : Int := Nat.ofDigitChars 10 ds 0
    fitting (if negative then -n else n) rest

def exponent? : Lexer Int
  | e :: rest =>
    if e = 'e' ∨ e = 'E' then do
      let (negative, cs) := splitSign rest
      let (ds, rest) ← digits? Char.isDigit cs
      let n : Int := Nat.ofDigitChars 10 ds 0
      return (if negative then -n else n, rest)
    else none
  | [] => none

/-- Whether `mantissa` times ten to the power `exponent` rounds to no finite double. -/
def overflows (mantissa : Nat) (exponent : Int) : Bool :=
  let bound := Nat.pow 2 1024 - Nat.pow 2 970
  if mantissa = 0 then false
  else if 0 ≤ exponent then
    400 < exponent || bound ≤ mantissa * Nat.pow 10 exponent.toNat
  else bound ≤ mantissa / Nat.pow 10 (min exponent.natAbs (Nat.log2 mantissa + 1))

def fraction? (cs : List Char) : Option (Item × List Char) := do
  let (negative, cs) := splitSign cs
  let (whole, cs) ← wholeDigits? cs
  let (decimals, power, rest) ← match cs with
    | '.' :: more => do
      let (ds, rest) ← digits? Char.isDigit more
      match exponent? rest with
      | some (power, rest) => some (ds, power, rest)
      | none => some (ds, 0, rest)
    | more => do
      let (power, rest) ← exponent? more
      some ([], power, rest)
  let mantissa := Nat.ofDigitChars 10 (whole ++ decimals) 0
  if !negative && overflows mantissa (power - decimals.length) then none
  else return (.other, rest)

def named? (cs : List Char) : Option (Item × List Char) :=
  match (splitSign cs).2 with
  | 'i' :: 'n' :: 'f' :: rest => some (.other, rest)
  | 'n' :: 'a' :: 'n' :: rest => some (.other, rest)
  | _ => none

def fixedDigits (count low high : Nat) (cs : List Char) : Option (Nat × List Char) :=
  let ds := cs.take count
  let n := Nat.ofDigitChars 10 ds 0
  if ds.length = count ∧ ds.all Char.isDigit ∧ low ≤ n ∧ n ≤ high then some (n, cs.drop count)
  else none

def expect (c : Char) : List Char → Option (List Char)
  | d :: rest => if d = c then some rest else none
  | [] => none

def daysIn (year month : Nat) : Nat :=
  if month = 2 then
    if year % 4 = 0 ∧ (year % 100 ≠ 0 ∨ year % 400 = 0) then 29 else 28
  else if month = 4 ∨ month = 6 ∨ month = 9 ∨ month = 11 then 30
  else 31

def date? (cs : List Char) : Option (List Char) := do
  let (year, cs) ← fixedDigits 4 0 9999 cs
  let (month, cs) ← fixedDigits 2 1 12 (← expect '-' cs)
  let (_, cs) ← fixedDigits 2 1 (daysIn year month) (← expect '-' cs)
  return cs

def time? (cs : List Char) : Option (List Char) := do
  let (_, cs) ← fixedDigits 2 0 23 cs
  let (_, cs) ← fixedDigits 2 0 59 (← expect ':' cs)
  let (_, cs) ← fixedDigits 2 0 60 (← expect ':' cs)
  match cs with
  | '.' :: d :: rest => return if d.isDigit then rest.dropWhile Char.isDigit else cs
  | cs => return cs

def offset? : List Char → Option (List Char)
  | 'Z' :: rest => some rest
  | 'z' :: rest => some rest
  | c :: rest =>
    if c = '+' ∨ c = '-' then do
      let (_, cs) ← fixedDigits 2 0 23 rest
      let (_, cs) ← fixedDigits 2 0 59 (← expect ':' cs)
      return cs
    else none
  | [] => none

def moment? (cs : List Char) : Option (Item × List Char) :=
  match date? cs with
  | some rest =>
    let timed := match rest with
      | c :: more => if c = 'T' ∨ c = 't' ∨ c = ' ' then time? more else none
      | [] => none
    match timed with
    | some more => some (.other, (offset? more).getD more)
    | none => some (.other, rest)
  | none => (time? cs).map (.other, ·)

def scalar? (cs : List Char) : Option (Item × List Char) :=
  match cs with
  | [] => none
  | 't' :: 'r' :: 'u' :: 'e' :: rest => some (.boolean true, rest)
  | 'f' :: 'a' :: 'l' :: 's' :: 'e' :: rest => some (.boolean false, rest)
  | c :: _ =>
    if c = '"' ∨ c = '\'' then (text? cs).map fun (s, rest) => (.text s, rest)
    else (moment? cs).orElse fun _ => (fraction? cs).orElse fun _ =>
      (named? cs).orElse fun _ => integer? cs

end Settings

end ArenaScript
