import ArenaScript.Files
import ArenaScript.Journal
import ArenaScript.Settings.Basic

/-!
Finding and loading the settings of a run. Settings that cannot be loaded are replaced by the
defaults, with a warning.
-/

namespace ArenaScript

inductive SettingsError
  | file (path : String) (fault : FileFault)
  | malformed (path : String)

/-- The causes from the outermost to the root. What exactly is wrong with a malformed document is
not told. -/
def SettingsError.chain : SettingsError → List String
  | .file path fault => ["reading engine configuration from '" ++ path ++ "'", fault.message]
  | .malformed path => ["parsing engine configuration from '" ++ path ++ "'", "<toml error>"]

namespace Settings

def defaultFile : String := "robo.toml"

variable {m : Type → Type} [Monad m] [Storage m]

def tryLoad (path : String) : m (Except SettingsError Settings) := do
  match ← Storage.readText path with
  | .error fault => return .error (.file path fault)
  | .ok text =>
    match Settings.ofText? text with
    | some settings => return .ok settings
    | none => return .error (.malformed path)

/-- Loads settings, or takes the defaults if that fails. -/
def load (path : String) : m (Reported Settings) := do
  match ← tryLoad path with
  | .ok settings =>
    return ⟨settings, [⟨.info, "engine configuration loaded from '" ++ path ++ "'"⟩]⟩
  | .error e =>
    return ⟨{}, [⟨.warn, "Could not load engine configuration from '" ++ path ++ "': "
      ++ ": ".intercalate e.chain ++ ". Using defaults."⟩]⟩

/-- The settings file to use: the given one, or else the default one if the directory has it. -/
def resolve (explicit : Option String) (dir : String) : m (Option String) := do
  match explicit with
  | some path => return some path
  | none =>
    let candidate := Path.join dir defaultFile
    return if ← Storage.isFile candidate then some candidate else none

def loadFor (explicit : Option String) (dir : String) : m (Reported Settings) := do
  match ← resolve explicit dir with
  | some path => load path
  | none => return ⟨{}, [⟨.info, "no engine configuration file; using defaults"⟩]⟩

end Settings

end ArenaScript
