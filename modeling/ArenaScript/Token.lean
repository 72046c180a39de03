import ArenaScript.Word

/-!
Tokens of a script. Blanks separate tokens, each punctuation mark is a token of its own, and any
other run of characters is one token. A `Cursor` walks over the tokens and counts those it has
passed.
-/

namespace ArenaScript

namespace Token

/-- The characters with the Unicode property White_Space. -/
def isBlank (c : Char) : Bool :=
  let n := c.toNat
  (0x9 ≤ n && n ≤ 0xd) || n == 0x20 || n == 0x85 || n == 0xa0 || n == 0x1680
    || (0x2000 ≤ n && n ≤ 0x200a) || n == 0x2028 || n == 0x2029 || n == 0x202f || n == 0x205f
    || n == 0x3000

def isPunctuation (c : Char) : Bool :=
  c == '\x7b' || c == '\x7d' || c == '(' || c == ')' || c == ',' || c == ';'

def close (word : List Char) (tokens : List (List Char)) : List (List Char) :=
  if word.isEmpty then tokens else word :: tokens

/-- One character in front of a text whose first word and other tokens are known. -/
def scan (c : Char) (seen : List Char × List (List Char)) : List Char × List (List Char) :=
  if isBlank c then ([], close seen.1 seen.2)
  else if isPunctuation c then ([], [c] :: close seen.1 seen.2)
  else (c :: seen.1, seen.2)

def splitChars (text : List Char) : List (List Char) :=
  let (word, tokens) := text.foldr scan ([], [])
  close word tokens

def split (text : String) : List String := (splitChars text.toList).map String.ofList

/-- How far a word has matched the pattern of a name. -/
inductive NameState
  | start
  | sigil
  | inside
  | failed
deriving DecidableEq

def NameState.step : NameState → Char → NameState
  | .start, c => if c = '$' then .sigil else .failed
  | .sigil, c => if c.isAlpha then .inside else .failed
  | .inside, c => if c.isAlphanum then .inside else .failed
  | .failed, _ => .failed

/-- The pattern that the parser knows names by. -/
def isName (word : String) : Bool := word.toList.foldl NameState.step .start = .inside

inductive Pattern
  | word (word : String)
  | anyOf (words : List String)
  | number
  | name

def Pattern.accepts : Pattern → String → Bool
  | .word w, token => token == w
  | .anyOf ws, token => ws.contains token
  | .number, token => Word.isNumber token
  | .name, token => isName token

end Token

/-- A place in a token list: how many tokens were passed, and those that are left. -/
structure Cursor where
  position : Nat
  rest : List String
deriving DecidableEq, Repr

namespace Cursor

def ofText (text : String) : Cursor := ⟨0, Token.split text⟩

def hasNext (c : Cursor) : Bool := !c.rest.isEmpty

def peek? (c : Cursor) : Option String := c.rest.head?

/-- Passes one token. At the end the cursor stays. -/
def advance (c : Cursor) : Cursor :=
  match c.rest with
  | [] => c
  | _ :: rest => ⟨c.position + 1, rest⟩

def upcoming (c : Cursor) (n : Nat) : List String := c.rest.take n

def lookingAt (c : Cursor) (p : Token.Pattern) : Bool := c.peek?.any p.accepts

def gobble (c : Cursor) (p : Token.Pattern) : Bool × Cursor :=
  if c.lookingAt p then (true, c.advance) else (false, c)

end Cursor

end ArenaScript
