/-!
Paths, and a tree of files held in memory. A path is followed part by part from the working
directory; each part but the last has to name a directory.
-/

namespace ArenaScript

inductive FileFault
  | notFound
  | notDirectory
  | isDirectory
  | invalidText
deriving DecidableEq, Repr

def FileFault.message : FileFault → String
  | .notFound => "No such file or directory (os error 2)"
  | .notDirectory => "Not a directory (os error 20)"
  | .isDirectory => "Is a directory (os error 21)"
  | .invalidText => "stream did not contain valid UTF-8"

namespace Path

def split (path : String) : List String :=
  ((path.toList.foldr
    (fun c (parts : List (List Char)) =>
      match parts with
      | [] => [[c]]
      | part :: rest => if c = '/' then [] :: part :: rest else (c :: part) :: rest)
    [[]]).map String.ofList)

/-- The parts that count: empty ones and single points stand for no step. -/
def parts (path : String) : List String := (split path).filter fun p => p ≠ "" && p ≠ "."

/-- The name at the end of a path, unless it leads upwards. -/
def fileName? (path : String) : Option String :=
  match (parts path).getLast? with
  | some ".." => none
  | name => name

/-- What follows the last point of the file name. A point at its start does not count. -/
def extension? (path : String) : Option String := do
  let name ← fileName? path
  let reversed := name.toList.reverse
  let ending := reversed.takeWhile (· ≠ '.')
  match reversed.drop ending.length with
  | [] => none
  | [_] => none
  | _ => some (String.ofList ending.reverse)

def join (dir name : String) : String :=
  if dir.isEmpty || dir.endsWith "/" then dir ++ name else dir ++ "/" ++ name

end Path

inductive Node
  | file (bytes : ByteArray)
  | directory
deriving Inhabited

/-- The files and directories below the working directory, by the parts of their paths. -/
structure Files where
  nodes : List (List String × Node)

namespace Files

def empty : Files := ⟨[]⟩

/-- The node at a place. The working directory itself is always there. -/
def node? (files : Files) (place : List String) : Option Node :=
  if place.isEmpty then some .directory else files.nodes.lookup place

def put (files : Files) (place : List String) (node : Node) : Files :=
  ⟨files.nodes.filter (·.1 ≠ place) ++ [(place, node)]⟩

/-- Puts a node at a place and makes the directories above it. -/
def create (files : Files) (place : List String) (node : Node) : Files :=
  let above := (List.range place.length).map (fun n => place.take n)
  let files := above.foldl
    (fun files dir => if (files.node? dir).isSome then files else files.put dir .directory) files
  files.put place node

/-- Follows the parts of a path from a directory, or from above the working directory, where
nothing is known. -/
def follow (files : Files) : Option (List String) → List String →
    Except FileFault (Option (List String))
  | here, [] => .ok here
  | none, part :: parts => if part = ".." then files.follow none parts else .error .notFound
  | some here, part :: parts =>
    match files.node? here with
    | none => .error .notFound
    | some (.file _) => .error .notDirectory
    | some .directory =>
      if part = ".." then
        files.follow (if here.isEmpty then none else some here.dropLast) parts
      else files.follow (some (here ++ [part])) parts

def find (files : Files) (path : String) : Except FileFault Node := do
  if path.isEmpty || path.startsWith "/" then .error .notFound
  else
    match ← files.follow (some []) (Path.parts path) with
    | none => .ok .directory
    | some place =>
      match files.node? place with
      | none => .error .notFound
      | some (.file bytes) =>
        if (Path.split path).getLast? = (Path.parts path).getLast? then .ok (.file bytes)
        else .error .notDirectory
      | some .directory => .ok .directory

def isFile (files : Files) (path : String) : Bool :=
  match files.find path with
  | .ok (.file _) => true
  | _ => false

def read (files : Files) (path : String) : Except FileFault String := do
  match ← files.find path with
  | .directory => .error .isDirectory
  | .file bytes =>
    match String.fromUTF8? bytes with
    | some text => .ok text
    | none => .error .invalidText

/-- Writes a text to a file, which is made if its directory exists. -/
def write (files : Files) (path text : String) : Except FileFault Files := do
  if path.isEmpty || path.startsWith "/" then .error .notFound
  else
    let parts := Path.parts path
    match ← files.follow (some []) parts.dropLast, parts.getLast? with
    | _, none => .error .isDirectory
    | none, some name => .error (if name = ".." then .isDirectory else .notFound)
    | some dir, some name =>
      match files.node? dir with
      | none => .error .notFound
      | some (.file _) => .error .notDirectory
      | some .directory =>
        let place := dir ++ [name]
        if name = ".." || (Path.split path).getLast? ≠ some name then .error .isDirectory
        else
          match files.node? place with
          | some .directory => .error .isDirectory
          | _ => .ok (files.put place (.file text.toUTF8))

end Files

class Storage (m : Type → Type) where
  readText : String → m (Except FileFault String)
  isFile : String → m Bool
  writeText : (path text : String) → m (Except FileFault Unit)

instance : Storage (StateM Files) where
  readText path files := (files.read path, files)
  isFile path files := (files.isFile path, files)
  writeText path text files :=
    match files.write path text with
    | .ok files => (.ok (), files)
    | .error fault => (.error fault, files)

end ArenaScript
