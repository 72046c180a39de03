import ArenaScript.Compiled.Quoted
import ArenaScript.Compiled.Term
import ArenaScript.Text.Identifier
import ArenaScript.Word

/-!
Names, and terms without parts: numbers, quoted texts and characters. Each reader takes what it
knows from the start of a text and gives the rest, or fails.
-/

namespace ArenaScript

namespace Compiled

open Word (splitSign)

def isNameStart (c : Char) : Bool := Text.isIdentifierStart c || c = '_'

def isNameChar (c : Char) : Bool := Text.isIdentifierPart c

def isRawNameChar (c : Char) : Bool := isNameChar c || c = '.' || c = '+' || c = '-'

/-- The name that a raw mark and these characters stand for. The mark belongs to the name where it
keeps the characters from being read as an option. -/
def rawName (body : List Char) : String :=
  let name := String.ofList body
  if name = "Some" || name = "None" then "r#" ++ name else name

/-- A name at the start of a text. The letters `r` and `b` that open a quoted text are none. -/
def name? : List Char → Option (String × List Char)
  | 'r' :: '"' :: _ => none
  | 'r' :: '#' :: rest =>
    let body := rest.takeWhile isRawNameChar
    if body.isEmpty then none else some (rawName body, rest.drop body.length)
  | 'b' :: '"' :: _ => none
  | 'b' :: '\'' :: _ => none
  | 'b' :: 'r' :: '"' :: _ => none
  | 'b' :: 'r' :: '#' :: _ => none
  | c :: rest =>
    if isNameStart c then
      let body := rest.takeWhile isNameChar
      some (String.ofList (c :: body), rest.drop body.length)
    else none
  | [] => none

def isIntegerChar (c : Char) : Bool := (Quoted.hexDigit? c).isSome || c = '_'

def isFractionChar (c : Char) : Bool :=
  c.isDigit || c = 'e' || c = 'E' || c = '.' || c = '+' || c = '-' || c = '_'

def splitBase : List Char → Nat × List Char
  | '0' :: 'b' :: rest => (2, rest)
  | '0' :: 'o' :: rest => (8, rest)
  | '0' :: 'x' :: rest => (16, rest)
  | cs => (10, cs)

/-- The value of digits, among which underscores do not count. -/
def digitsValue? (base : Nat) (digits : List Char) : Option Nat :=
  (digits.filter (· ≠ '_')).foldlM
    (fun n c => do
      let d ← Quoted.hexDigit? c
      if d < base then some (base * n + d) else none)
    0

def integerSuffixes : List String :=
  ["i8", "i16", "i32", "i64", "i128", "u8", "u16", "u32", "u64", "u128"]

def fractionSuffixes : List String := ["f32", "f64"]

def suffix? (known : List String) (cs : List Char) : Option (String × List Char) :=
  let body := cs.takeWhile isNameChar
  if known.contains (String.ofList body) then
    some (String.ofList body, cs.drop body.length)
  else none

/-- An integer: sign, base, digits with underscores after the first one, type name. -/
def integer? (cs : List Char) : Option (Term × List Char) :=
  let (negative, unsigned) := splitSign cs
  let ending := suffix? integerSuffixes (unsigned.dropWhile isIntegerChar)
  let (base, body) := splitBase unsigned
  let digits := body.takeWhile isIntegerChar
  match digits.head? with
  | none => none
  | some first =>
    if first = '_' then none
    else do
      let size : Int ← digitsValue? base digits
      let value := if negative then -size else size
      match ending with
      | some (suffix, rest) => some (.number value suffix, rest)
      | none => some (.number value "", body.drop digits.length)

/-- Whether characters spell a decimal fraction: digits around at most one point, then an
optional exponent. -/
def isFraction (cs : List Char) : Bool :=
  let unsigned := (splitSign cs).2
  let whole := unsigned.takeWhile Char.isDigit
  let afterWhole := unsigned.drop whole.length
  let (digits, rest) := match afterWhole with
    | '.' :: more => (whole ++ more.takeWhile Char.isDigit, more.dropWhile Char.isDigit)
    | more => (whole, more)
  !digits.isEmpty &&
    match rest with
    | [] => true
    | e :: more =>
      (e == 'e' || e == 'E') &&
        (let power := (splitSign more).2
        !power.isEmpty && power.all Char.isDigit)

def boundlessWords : List String :=
  ["inf", "inff32", "inff64", "NaN", "NaNf32", "NaNf64"]

/-- A number that is no integer: a fraction, or a signed word. Programs hold none. -/
def fraction? (cs : List Char) : Option (Term × List Char) :=
  let word := (splitSign cs).2.takeWhile isNameChar
  let body := cs.takeWhile isFractionChar
  if boundlessWords.contains (String.ofList word) then
    some (.foreign, (splitSign cs).2.drop word.length)
  else if isFraction body then
    match suffix? fractionSuffixes (cs.drop body.length) with
    | some (_, rest) => some (.foreign, rest)
    | none => some (.foreign, cs.drop body.length)
  else none

def startsFraction (cs : List Char) : Bool :=
  let unsigned := (splitSign cs).2
  (unsigned.takeWhile isIntegerChar).length < (unsigned.takeWhile isFractionChar).length

def number? (cs : List Char) : Option (Term × List Char) :=
  if startsFraction cs then fraction? cs else (integer? cs).orElse fun _ => fraction? cs

def charLiteral? : List Char → Option (Term × List Char)
  | '\'' :: '\\' :: rest => do
    match ← Quoted.unescape rest with
    | (_, '\'' :: rest) => some (.foreign, rest)
    | _ => none
  | '\'' :: _ :: '\'' :: rest => some (.foreign, rest)
  | _ => none

def byteLiteral? : List Char → Option (List Char)
  | '\\' :: 'x' :: high :: low :: '\'' :: rest => do
    let _ ← Quoted.hexDigit? high
    let _ ← Quoted.hexDigit? low
    some rest
  | '\\' :: c :: '\'' :: rest => if "'\"\\nrt0".toList.contains c then some rest else none
  | c :: '\'' :: rest => if c.toNat < 0x80 ∧ c ≠ '\\' then some rest else none
  | _ => none

/-- The rest after the closing quote of a text of bytes, in which a byte escape stands for any
byte. -/
def skipBytes : (fuel : Nat) → List Char → Option (List Char)
  | 0, _ => none
  | _, [] => none
  | _ + 1, '"' :: rest => some rest
  | fuel + 1, '\\' :: 'x' :: high :: low :: rest => do
    let _ ← Quoted.hexDigit? high
    let _ ← Quoted.hexDigit? low
    skipBytes fuel rest
  | fuel + 1, '\\' :: rest => do skipBytes fuel (← Quoted.unescape rest).2
  | fuel + 1, _ :: rest => skipBytes fuel rest

/-- A term without parts that starts with a quote, a digit or a sign. -/
def leaf? : List Char → Option (Term × List Char)
  | '"' :: rest => (Quoted.read rest).map fun (s, rest) => (.text s, rest)
  | 'r' :: rest => (Quoted.readRaw rest).map fun (s, rest) => (.text s, rest)
  | 'b' :: '"' :: rest => (skipBytes (rest.length + 1) rest).map (.foreign, ·)
  | 'b' :: '\'' :: rest => (byteLiteral? rest).map (.foreign, ·)
  | 'b' :: 'r' :: rest => (Quoted.readRaw rest).map fun (_, rest) => (.foreign, rest)
  | '\'' :: rest => charLiteral? ('\'' :: rest)
  | cs => number? cs

end Compiled

end ArenaScript
