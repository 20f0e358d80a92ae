import Metamorph.Sandbox.Process
import Metamorph.Sandbox.Shell.Pattern

/-! # Fields

An expanded word becomes any number of fields: it is split at the separators in it that come
from values, and a field that is a pattern becomes the names of the files that it matches. -/

namespace Metamorph.Sandbox.Shell

/-- A character of a word on its way to becoming fields. -/
inductive Glyph where
  /-- A character, and whether it comes from a value at whose separators the word is split. -/
  | char (mark : Mark) (splits : Bool)
  /-- Quotes with nothing in between, which make a field all the same. -/
  | quotes
  /-- Where one argument ends and another one begins, with what joins them in a word that is not
  split. -/
  | gap (joint : List Char)

namespace Glyph

/-- The characters of a text that was quoted or not. -/
def ofText (quoted splits : Bool) (text : List Char) : List Glyph :=
  if quoted && text.isEmpty then [.quotes] else text.map fun c => .char ⟨c, quoted⟩ splits

/-- The characters of a word that is not split. -/
def marks (glyphs : List Glyph) : List Mark :=
  glyphs.flatMap fun glyph =>
    match glyph with
    | .char mark _ => [mark]
    | .quotes => []
    | .gap joint => joint.map fun c => ⟨c, true⟩

/-- The text of a word that is not split. -/
def text (glyphs : List Glyph) : List Char :=
  (marks glyphs).map (·.char)

/-- The fields of a word. Blanks among the separators end a field, and any other separator also
makes an empty one; a single one of these may stand among blanks. The first argument is the
field that is being read, and the second says whether it was ended by blanks only. -/
def fields (separators : List Char) :
    Option (List Mark) → Bool → List Glyph → List (List Mark)
  | none, _, [] => []
  | some field, _, [] => [field.reverse]
  | field, _, .quotes :: rest => fields separators (some (field.getD [])) false rest
  | none, absorbs, .gap _ :: rest => fields separators none absorbs rest
  | some field, _, .gap _ :: rest => field.reverse :: fields separators none true rest
  | field, absorbs, .char mark splits :: rest =>
    if splits && !mark.quoted && separators.contains mark.char then
      if mark.char = ' ' || mark.char = '\t' || mark.char = '\n' then
        match field with
        | none => fields separators none absorbs rest
        | some field => field.reverse :: fields separators none true rest
      else
        match field with
        | some field => field.reverse :: fields separators none false rest
        | none =>
          if absorbs then fields separators none false rest
          else [] :: fields separators none false rest
    else fields separators (some (mark :: field.getD [])) false rest

end Glyph

/-- The characters that fields are separated by. -/
def separators (process : Process) : List Char :=
  match process.bindings.lookup "IFS" with
  | some entry =>
    match entry.value with
    | some value => value.toList
    | none => [' ', '\t', '\n']
  | none => [' ', '\t', '\n']

/-- The parts of a field between slashes. -/
def pathParts : List Mark → List (List Mark)
  | [] => [[]]
  | mark :: rest =>
    if mark.char = '/' then [] :: pathParts rest
    else
      match pathParts rest with
      | [] => [[mark]]
      | part :: more => (mark :: part) :: more

/-- How patterns are written for a process. -/
def writing (process : Process) : Writing :=
  match process.dialect with
  | .plain => { caret := false }
  | .rich =>
    { groups := process.options.contains "extglob"
      foldsCase := process.options.contains "nocasematch" }

/-- How patterns of file names are written for a process. -/
def nameWriting (process : Process) : Writing :=
  { writing process with
    foldsCase := process.dialect = .rich && process.options.contains "nocaseglob" }

/-- The paths of the folders below a folder, each behind the folder that it is in, and those of
the other files if these are asked for. The fuel bounds the depth. -/
def pathsBelow (files : Files) (hidden onlyFolders : Bool) : Nat → Trail → String → List String
  | 0, _, _ => []
  | fuel + 1, trail, path =>
    (files.names trail).flatMap fun name =>
      if name.startsWith "." && !hidden then []
      else
        match files.find? (trail ++ [name]) with
        | some (.folder _) =>
          (path ++ name)
            :: pathsBelow files hidden onlyFolders fuel (trail ++ [name]) (path ++ name ++ "/")
        | some _ => if onlyFolders then [] else [path ++ name]
        | none => []

/-- How deep folders are looked through. -/
def belowDepth : Nat := 200

/-- Go on with paths by a part of a pattern: the names in their folders that it matches, or
the part itself if it is no pattern. -/
def extendPaths (process : Process) (files : Files) (paths : List String) (part : List Mark)
    (isLast : Bool) : List String :=
  let rich := process.dialect = .rich
  let behaves (name : String) : Bool := rich && process.options.contains name
  let close (path : String) := if isLast then path else path ++ "/"
  let style := nameWriting process
  let pattern := Pattern.ofMarks style part
  let folderOf (path : String) : Option Trail :=
    (files.resolve true process.trail (if path.isEmpty then "." else path)).toOption
  match pattern.text? with
  | some plain => paths.map fun path => close (path ++ String.ofList plain)
  | none =>
    if behaves "globstar" && part.all (Pattern.isSign '*') && part.length = 2 then
      paths.flatMap fun path =>
        match folderOf path with
        | none => []
        | some trail =>
          let below := pathsBelow files (behaves "dotglob") (!isLast) belowDepth trail path
          (if isLast && path.isEmpty then below else path :: below.map close)
    else
      let showsAll := pattern.startsWith '.'
      paths.flatMap fun path =>
        match folderOf path with
        | none => []
        | some trail =>
          let names :=
            if showsAll && !rich then "." :: ".." :: files.names trail
            else if showsAll || behaves "dotglob" then files.names trail
            else (files.names trail).filter fun name => !name.startsWith "."
          let fold (name : String) : List Char :=
            if style.foldsCase then name.toList.map Char.toLower else name.toList
          (names.filter fun name => pattern.isMatch (fold name)).map fun name =>
            close (path ++ name)

/-- The paths that a pattern with slashes matches. -/
def matchingPaths (process : Process) (files : Files) :
    List String → List (List Mark) → List String
  | paths, [] => paths
  | paths, part :: rest =>
    matchingPaths process files (extendPaths process files paths part rest.isEmpty) rest

/-- The paths of the files that a field matches if it is a pattern. -/
def namesOf? (process : Process) (files : Files) (field : List Mark) : Option (List String) :=
  if process.options.contains "f" || !Pattern.hasSign (nameWriting process) field then none
  else if (Pattern.ofMarks (nameWriting process) field).text?.isSome then none
  else
    let exists? (path : String) : Bool :=
      match files.resolve false process.trail path with
      | .ok trail => (files.find? trail).isSome
      | .error _ => false
    let paths := (matchingPaths process files [""] (pathParts field)).filter exists?
    some paths.mergeSort

/-- Replace a field that is a pattern by the paths of files that it matches. One that matches
none stays as it is, or goes away if the shell was told so. -/
def matchNames (process : Process) (files : Files) (field : List Mark) : List String :=
  let plain := String.ofList (field.map (·.char))
  match namesOf? process files field with
  | none => [plain]
  | some [] =>
    if process.dialect = .rich && process.options.contains "nullglob" then [] else [plain]
  | some paths => paths

end Metamorph.Sandbox.Shell
