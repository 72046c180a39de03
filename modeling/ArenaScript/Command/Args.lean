/-!
Command line arguments. They are taken from left to right, and the first one that cannot be
accepted decides: it asks for the version or the help text, or it is a misuse.
-/

namespace ArenaScript

namespace Command

inductive Stop
  | version
  | help
  | misuse
deriving DecidableEq, Repr

structure Options where
  valued : List String := []
  flags : List String := []
  hasVersion : Bool := false

/-- What was found in the arguments. A command takes one path. -/
structure Found where
  path : Option String := none
  values : List (String × String) := []
  flags : List String := []

def splitOption (body : List Char) : String × Option String :=
  let name := body.takeWhile (· ≠ '=')
  match body.drop name.length with
  | [] => (String.ofList name, none)
  | _ :: value => (String.ofList name, some (String.ofList value))

/-- A word that starts with a dash is an option, a lone dash is not. -/
def isOption (arg : String) : Bool :=
  match arg.toList with
  | '-' :: _ :: _ => true
  | _ => false

def Found.addPath (f : Found) (arg : String) : Except Stop Found :=
  if f.path.isSome || arg.isEmpty then .error .misuse else .ok { f with path := some arg }

/-- An option may be given once, with a value that is not empty. -/
def Found.addValue (f : Found) (name value : String) : Except Stop Found :=
  if (f.values.lookup name).isSome || value.isEmpty then .error .misuse
  else .ok { f with values := f.values ++ [(name, value)] }

def Found.addFlag (f : Found) (name : String) : Except Stop Found :=
  if f.flags.contains name then .error .misuse else .ok { f with flags := f.flags ++ [name] }

def shortOption (s : Options) (first : Char) : Stop :=
  if first = 'V' && s.hasVersion then .version
  else if first = 'h' then .help
  else .misuse

/-- Goes through the arguments. After two dashes all of them are paths. -/
def scan (s : Options) (f : Found) : List String → Except Stop Found
  | [] => .ok f
  | arg :: rest =>
    match arg.toList with
    | ['-', '-'] => rest.foldlM Found.addPath f
    | '-' :: '-' :: body =>
      let (name, attached) := splitOption body
      if s.valued.contains name then
        match attached, rest with
        | some value, rest => do scan s (← f.addValue name value) rest
        | none, value :: rest =>
          if isOption value then .error .misuse else do scan s (← f.addValue name value) rest
        | none, [] => .error .misuse
      else if attached.isSome then .error .misuse
      else if s.flags.contains name then do scan s (← f.addFlag name) rest
      else if name = "version" && s.hasVersion then .error .version
      else if name = "help" then .error .help
      else .error .misuse
    | '-' :: first :: _ => .error (shortOption s first)
    | _ => do scan s (← f.addPath arg) rest

def Found.requiredPath (f : Found) : Except Stop String :=
  match f.path with
  | some path => .ok path
  | none => .error .misuse

def subcommand : List String → Except Stop (String × List String)
  | [] => .error .misuse
  | arg :: rest =>
    if arg = "--version" then .error .version
    else if arg = "--help" then .error .help
    else
      match arg.toList with
      | '-' :: '-' :: _ => .error .misuse
      | '-' :: first :: _ => .error (shortOption { hasVersion := true } first)
      | _ => .ok (arg, rest)

/-- A count of at most 64 bits, with an optional plus sign. -/
def count? (text : String) : Option Nat :=
  let digits := match text.toList with
    | '+' :: digits => digits
    | digits => digits
  let n := Nat.ofDigitChars 10 digits 0
  if !digits.isEmpty && digits.all Char.isDigit && n < 0x10000000000000000 then some n else none

end Command

end ArenaScript
