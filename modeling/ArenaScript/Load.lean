import ArenaScript.Compiled.Decoder
import ArenaScript.Files
import ArenaScript.Journal
import ArenaScript.Program.Defect
import ArenaScript.Script.Parser

/-!
Loading a program from a file. A file whose name ends in `.ron` holds a compiled program, which is
checked for defects; any other file holds a script.
-/

namespace ArenaScript

inductive CompiledError
  | unreadable (why : Compiled.ReadError)
  | defective (first : Defect) (rest : List Defect)

/-- The causes from the outermost to the root. What exactly is wrong with a malformed text is not
told. -/
def CompiledError.chain : CompiledError → List String
  | .unreadable _ => ["parsing program RON", "<ron error>"]
  | .defective first rest =>
    ["program failed validation with " ++ decimal (rest.length + 1) ++ " error(s); first: "
      ++ first.message]

inductive LoadError
  | file (path : String) (fault : FileFault)
  | script (path : String) (error : ParseError)
  | compiled (path : String) (error : CompiledError)

def LoadError.chain : LoadError → List String
  | .file path fault => ["reading program from '" ++ path ++ "'", fault.message]
  | .script path error => ["parsing script '" ++ path ++ "'", error.render]
  | .compiled path error => ("loading compiled program '" ++ path ++ "'") :: error.chain

structure Loaded where
  program : Program
  store : Store
  origin : String
deriving DecidableEq

def Milestone.record : Milestone → Record
  | .declared name => ⟨.debug, "declared variable " ++ name⟩
  | .parsed s => ⟨.trace, "parsed statement: " ++ s.render⟩

def parseScript (text : String) : Reported (Except ParseError (Program × Store)) :=
  let parsed := Program.parse text .empty
  let records := parsed.milestones.map Milestone.record
  match parsed.result with
  | .error e => ⟨.error e, records⟩
  | .ok p =>
    let last : Record := ⟨.debug,
      "parsed program: " ++ decimal p.statements.length ++ " top-level statements, "
        ++ decimal parsed.store.size ++ " variables declared"⟩
    ⟨.ok (p, parsed.store), records ++ [last]⟩

def loadCompiled (text : String) : Reported (Except CompiledError (Program × Store)) :=
  match Program.decode text with
  | .error e => ⟨.error (.unreadable e), []⟩
  | .ok p =>
    match p.defects with
    | [] => ⟨.ok (p, Store.empty.declareAll p.declaredNames), []⟩
    | first :: rest =>
      ⟨.error (.defective first rest),
        (first :: rest).map fun d => ⟨.warn, "invalid program: " ++ d.message⟩⟩

def isCompiled (path : String) : Bool :=
  (Path.extension? path).any fun ext => ext.toList.map Char.toLower == "ron".toList

def Loaded.ofText (path text : String) : Reported (Except LoadError Loaded) := do
  let made ←
    if isCompiled path then
      (·.mapError (LoadError.compiled path)) <$> loadCompiled text
    else
      (·.mapError (LoadError.script path)) <$> parseScript text
  match made with
  | .error e => return .error e
  | .ok (program, store) =>
    Reported.report .info
      ("loaded '" ++ path ++ "' (" ++ decimal program.statements.length ++ " statements, "
        ++ decimal store.size ++ " variables)")
    return .ok ⟨program, store, path⟩

def loadProgram {m : Type → Type} [Monad m] [Storage m] (path : String) :
    m (Reported (Except LoadError Loaded)) := do
  match ← Storage.readText path with
  | .error fault => return ⟨.error (.file path fault), []⟩
  | .ok text => return Loaded.ofText path text

end ArenaScript
