import ArenaScript.Text.Obscure

/-!
Texts in double quotes. Writing escapes quotes, the backslash, a few controls and every character
that has no print of its own. Reading knows these escapes, byte escapes and raw texts.
-/

namespace ArenaScript

namespace Compiled

namespace Quoted

def escape (c : Char) : List Char :=
  if c = '\x00' then ['\\', '0']
  else if c = '\t' then ['\\', 't']
  else if c = '\r' then ['\\', 'r']
  else if c = '\n' then ['\\', 'n']
  else if c = '\'' then ['\\', '\'']
  else if c = '"' then ['\\', '"']
  else if c = '\\' then ['\\', '\\']
  else if Text.isObscure c then ['\\', 'u', '\x7b'] ++ Nat.toDigits 16 c.toNat ++ ['\x7d']
  else [c]

def write (s : String) : String := String.ofList ('"' :: s.toList.flatMap escape ++ ['"'])

def hexDigit? (c : Char) : Option Nat :=
  if c.isDigit then some (c.toNat - '0'.toNat)
  else if 'a' ≤ c ∧ c ≤ 'f' then some (c.toNat - 'a'.toNat + 10)
  else if 'A' ≤ c ∧ c ≤ 'F' then some (c.toNat - 'A'.toNat + 10)
  else none

def utf8Char? (bytes : List Nat) : Option Char :=
  match String.fromUTF8? ⟨(bytes.map Nat.toUInt8).toArray⟩ with
  | some s => s.toList.head?
  | none => none

/-- The character of a byte escape, from its first digit on. One that takes several bytes is
written as that many byte escapes in a row; `more` is how many may still follow. -/
def byteEscape (bytes : List Nat) : (more : Nat) → List Char → Option (Char × List Char)
  | more, high :: low :: rest => do
    let bytes := bytes ++ [16 * (← hexDigit? high) + (← hexDigit? low)]
    match utf8Char? bytes with
    | some c => some (c, rest)
    | none =>
      match more, rest with
      | more + 1, '\\' :: 'x' :: rest => byteEscape bytes more rest
      | _, _ => none
  | _, _ => none

def hexValue? (digits : List Char) : Option Nat :=
  digits.foldlM (fun n c => do return 16 * n + (← hexDigit? c)) 0

/-- The character of a code point escape, from its first digit on: one to six digits, then a
closing brace. -/
def pointEscape (cs : List Char) : Option (Char × List Char) :=
  let digits := cs.takeWhile (· ≠ '\x7d')
  match cs.drop digits.length with
  | '\x7d' :: rest =>
    if 1 ≤ digits.length ∧ digits.length ≤ 6 then do
      let n ← hexValue? digits
      if n.isValidChar then some (Char.ofNat n, rest) else none
    else none
  | _ => none

def unescape : List Char → Option (Char × List Char)
  | '\'' :: rest => some ('\'', rest)
  | '"' :: rest => some ('"', rest)
  | '\\' :: rest => some ('\\', rest)
  | 'n' :: rest => some ('\n', rest)
  | 'r' :: rest => some ('\r', rest)
  | 't' :: rest => some ('\t', rest)
  | '0' :: rest => some ('\x00', rest)
  | 'x' :: rest => byteEscape [] 3 rest
  | 'u' :: '\x7b' :: rest => pointEscape rest
  | _ => none

/-- The text up to the closing quote, and what follows it. The text is no longer than `fuel`. -/
def readChars : (fuel : Nat) → List Char → Option (List Char × List Char)
  | 0, _ => none
  | _, [] => none
  | _ + 1, '"' :: rest => some ([], rest)
  | fuel + 1, '\\' :: rest => do
    let (c, rest) ← unescape rest
    let (s, rest) ← readChars fuel rest
    return (c :: s, rest)
  | fuel + 1, c :: rest => do
    let (s, rest) ← readChars fuel rest
    return (c :: s, rest)

def read (cs : List Char) : Option (String × List Char) := do
  let (s, rest) ← readChars (cs.length + 1) cs
  return (String.ofList s, rest)

/-- The text up to a quote that `hashes` hash signs follow. -/
def rawChars (hashes : Nat) : List Char → Option (List Char × List Char)
  | [] => none
  | c :: rest =>
    if c = '"' ∧ (List.replicate hashes '#').isPrefixOf rest then
      some ([], rest.drop hashes)
    else do
      let (s, rest) ← rawChars hashes rest
      return (c :: s, rest)

/-- Reads a raw text from after its `r` on. Nothing in it is an escape. -/
def readRaw (cs : List Char) : Option (String × List Char) :=
  let hashes := (cs.takeWhile (· = '#')).length
  match cs.drop hashes with
  | '"' :: rest => do
    let (s, rest) ← rawChars hashes rest
    return (String.ofList s, rest)
  | _ => none

end Quoted

end Compiled

end ArenaScript
