import Metamorph.Machine.Refusal

/-! # Files in memory

Files, folders and links by the names that lead to them from the root, which is always there.
Paths are walked name by name, as links and folders on the way demand. -/

namespace Metamorph.Sandbox

/-- The names that lead from the root to a file or folder. -/
abbrev Trail := List String

/-- A file without bytes of its own. -/
inductive Device where
  /-- Nothing can be read of it, and what is written to it is gone. -/
  | nothing
  | zeros
  /-- Writing always fails for lack of room. -/
  | full
  deriving DecidableEq, Repr

/-- What can be found at the end of a trail. Files and folders have the bits that say what may
be done with them. -/
inductive Entry where
  | folder (mode : Nat)
  | file (bytes : List UInt8) (mode : Nat)
  | link (target : String)
  /-- A pipe with a name, and its number among all pipes. -/
  | pipe (number mode : Nat)
  | device (device : Device)
  deriving DecidableEq, Repr

/-- The bits of a new file: the owner may change it, all may read it. -/
def fileMode : Nat := 0o644

/-- The bits of a new folder, and of a program. -/
def folderMode : Nat := 0o755

/-- The mode of an entry. -/
def Entry.mode : Entry → Nat
  | .folder mode => mode
  | .file _ mode => mode
  | .link _ => 0o777
  | .pipe _ mode => mode
  | .device _ => 0o666

/-- An entry with another mode. -/
def Entry.withMode (mode : Nat) : Entry → Entry
  | .folder _ => .folder mode
  | .file bytes _ => .file bytes mode
  | .pipe number _ => .pipe number mode
  | other => other

/-- Something that files are made of: an entry that one or several names lead to. -/
structure Node where
  entry : Entry
  /-- When it was changed, in microseconds since the beginning of 1970. -/
  changed : Int := 0
  deriving Repr

/-- All files and folders but the root: the nodes, and the names that lead to them. -/
structure Files where
  places : List (Trail × Nat) := []
  nodes : Array Node := #[]
  /-- The time that changes are noted with. -/
  time : Int := 0
  deriving Repr

namespace Trail

/-- Go on from a trail by one name: an empty name and a dot stay, and two dots go back. -/
def step (trail : Trail) (name : String) : Trail :=
  if name = "" || name = "." then trail
  else if name = ".." then trail.dropLast
  else trail ++ [name]

/-- The trail of a path that is read in a folder, whatever stands on the way. A path that
starts with a slash is read from the root. -/
def ofPath (folder : Trail) (path : String) : Trail :=
  (path.splitOn "/").foldl step (if path.startsWith "/" then [] else folder)

end Trail

namespace Files

/-- The number of the node at the end of a trail. -/
def nodeAt? (files : Files) (trail : Trail) : Option Nat :=
  files.places.lookup trail

/-- What is at the end of a trail. -/
def find? (files : Files) (trail : Trail) : Option Entry :=
  if trail.isEmpty then some (.folder folderMode)
  else do
    let node ← files.nodes[← files.nodeAt? trail]?
    return node.entry

/-- Whether there is a folder at the end of a trail. -/
def isFolder (files : Files) (trail : Trail) : Bool :=
  match files.find? trail with
  | some (.folder _) => true
  | _ => false

/-- When what is at the end of a trail was changed. -/
def changed? (files : Files) (trail : Trail) : Option Int := do
  return (← files.nodes[← files.nodeAt? trail]?).changed

/-- Note a time as that of the last change. -/
def setChanged (files : Files) (trail : Trail) (time : Int) : Files :=
  match files.nodeAt? trail with
  | some number => { files with nodes := files.nodes.modify number ({ · with changed := time }) }
  | none => files

/-- Change the entry of a node. -/
def setNode (files : Files) (number : Nat) (entry : Entry) : Files :=
  { files with nodes := files.nodes.setIfInBounds number { entry, changed := files.time } }

/-- Note that something in the folder around a trail has changed. -/
def noteFolder (files : Files) (trail : Trail) : Files :=
  files.setChanged trail.dropLast files.time

/-- Let a trail lead to a node, in the place of where it led before. -/
def lead (files : Files) (trail : Trail) (number : Nat) : Files :=
  { files with
    places := (trail, number) :: files.places.filter fun other => other.1 ≠ trail }.noteFolder trail

/-- Make a new entry in the place of the one that was there. -/
def add (files : Files) (trail : Trail) (entry : Entry) : Files :=
  let nodes := files.nodes.push { entry, changed := files.time }
  { files with nodes }.lead trail files.nodes.size

/-- Change the entry at the end of a trail, or make one. -/
def put (files : Files) (trail : Trail) (entry : Entry) : Files :=
  match files.nodeAt? trail with
  | some number => files.setNode number entry
  | none => files.add trail entry

/-- Change the mode of what is at the end of a trail. -/
def setMode (files : Files) (trail : Trail) (mode : Nat) : Files :=
  match files.nodeAt? trail with
  | some number =>
    { files with
      nodes := files.nodes.modify number fun node =>
        { node with entry := node.entry.withMode mode } }
  | none => files

/-- How many names lead to the node at the end of a trail. -/
def countNames (files : Files) (trail : Trail) : Nat :=
  match files.nodeAt? trail with
  | some number => files.places.countP fun place => place.2 = number
  | none => 0

/-- The files with entries at the ends of trails. -/
def ofEntries (entries : List (Trail × Entry)) : Files :=
  entries.foldl (fun files (trail, entry) => files.add trail entry) {}

/-- Take away an entry and everything below it. -/
def remove (files : Files) (trail : Trail) : Files :=
  { files with places := files.places.filter fun other => !trail.isPrefixOf other.1 }.noteFolder trail

/-- The bytes of a file. -/
def read (files : Files) (trail : Trail) : Except Refusal (List UInt8) :=
  match files.find? trail with
  | some (.file bytes _) => .ok bytes
  | some (.folder _) => .error .isFolder
  | some (.link _) => .error .tooManyLinks
  | some _ => .ok []
  | none => .error .notFound

/-- Refuse a trail that a file cannot be put at. -/
def checkPlace (files : Files) (trail : Trail) : Except Refusal Unit :=
  match files.find? trail, files.find? trail.dropLast with
  | some (.folder _), _ => .error .isFolder
  | _, some (.folder _) => .ok ()
  | _, some _ => .error .notFolder
  | _, none => .error .notFound

/-- Make a file, or replace what is in it. -/
def write (files : Files) (trail : Trail) (bytes : List UInt8) : Except Refusal Files := do
  files.checkPlace trail
  match files.find? trail with
  | some (.file _ mode) => return files.put trail (.file bytes mode)
  | some _ => return files
  | none => return files.add trail (.file bytes fileMode)

/-- Add to the end of a file, which is made if it is missing. -/
def append (files : Files) (trail : Trail) (bytes : List UInt8) : Except Refusal Files := do
  files.checkPlace trail
  match files.find? trail with
  | some (.file before mode) => return files.put trail (.file (before ++ bytes) mode)
  | some _ => return files
  | none => return files.add trail (.file bytes fileMode)

/-- Make a folder inside one that is there. A folder that is there already stays. -/
def createFolder (files : Files) (trail : Trail) : Except Refusal Files :=
  match files.find? trail with
  | some (.folder _) => .ok files
  | some _ => .error .exists
  | none => do
    files.checkPlace trail
    return files.add trail (.folder folderMode)

/-- Make a folder and those around it. -/
def createFolders (files : Files) (trail : Trail) : Except Refusal Files :=
  (List.range trail.length).foldlM (fun files n => files.createFolder (trail.take (n + 1))) files

/-- Whether a trail leads to something below another one. -/
def isBelow (folder trail : Trail) : Bool :=
  folder.isPrefixOf trail && folder.length < trail.length

/-- The files below a folder with their paths inside it, in increasing order. -/
def below (files : Files) (folder : Trail) : List (String × List UInt8) :=
  (files.places.filterMap fun (trail, number) =>
    match files.nodes[number]? with
    | some ⟨.file bytes _, _⟩ =>
      if isBelow folder trail then some ("/".intercalate (trail.drop folder.length), bytes)
      else none
    | _ => none).mergeSort fun a b => a.1 ≤ b.1

/-- The names inside a folder, in increasing order. -/
def names (files : Files) (folder : Trail) : List String :=
  (files.places.filterMap fun (trail, _) =>
    if trail.length = folder.length + 1 && folder.isPrefixOf trail then trail.getLast?
    else none).mergeSort

/-- Put a whole tree of entries under another trail. -/
def move (files : Files) (source target : Trail) : Files :=
  let files := (files.remove target).noteFolder source
  { files with
    places := files.places.map fun (trail, number) =>
      if source.isPrefixOf trail then (target ++ trail.drop source.length, number)
      else (trail, number) }

/-- How long a name, and how long a path, may be at most. -/
def longestName : Nat := 255

/-- How long a path may be at most. -/
def longestPath : Nat := 4095

/-- How many links may be followed on a way. -/
def mostLinks : Nat := 40

/-- Walk from a folder along names. Links on the way are followed, one at the end only if that
is asked for. All but the end must be there. The fuel bounds the names. -/
def walk (files : Files) (follow : Bool) :
    Nat → Nat → Trail → List String → Except Refusal Trail
  | 0, _, _, _ => .error .tooManyLinks
  | _ + 1, _, trail, [] => .ok trail
  | fuel + 1, links, trail, name :: rest =>
    match files.find? trail with
    | none => .error .notFound
    | some (.folder _) =>
      if longestName < name.length then .error .nameTooLong
      else
        let next := trail.step name
        match files.find? next with
        | some (.link target) =>
          if !follow && rest.isEmpty then .ok next
          else if links = 0 then .error .tooManyLinks
          else
            walk files follow fuel (links - 1) (if target.startsWith "/" then [] else trail)
              ((target.splitOn "/").filter (· ≠ "") ++ rest)
        | _ => walk files follow fuel links next rest
    | some _ => .error .notFolder

/-- The trail that a path leads to from a folder. Its end need not be there, but a path with a
slash at its end leads to no file. -/
def resolve (files : Files) (follow : Bool) (folder : Trail) (path : String) :
    Except Refusal Trail := do
  if path.isEmpty then throw .notFound
  if longestPath < path.length then throw .nameTooLong
  let trail ← files.walk (follow || path.endsWith "/") ((mostLinks + 1) * (longestPath + 1)) mostLinks
    (if path.startsWith "/" then [] else folder) ((path.splitOn "/").filter (· ≠ ""))
  match files.find? trail with
  | some (.folder _) => return trail
  | some _ => if path.endsWith "/" then throw .notFolder else return trail
  | none => return trail

end Files

end Metamorph.Sandbox
