import Metamorph.Sandbox.Tool.Basic

/-! # Paths

The parts of paths, and the tools that take paths apart and follow links. -/

namespace Metamorph.Sandbox

/-- The last name of a path. -/
def lastName (path : String) : String :=
  (((path.splitOn "/").filter (· ≠ "")).getLast?).getD "/"

/-- The path of a name in a folder. -/
def pathIn (folder name : String) : String :=
  if folder.endsWith "/" then folder ++ name else folder ++ "/" ++ name

/-- A path without slashes at its end. -/
def withoutEnd (path : String) : String :=
  let kept := (path.toList.reverse.dropWhile (· = '/')).reverse
  if kept.isEmpty && !path.isEmpty then "/" else String.ofList kept

/-- The path that leads to the folder around the last name of a path. -/
def folderPath (path : String) : String :=
  let path := (withoutEnd path).toList
  let front := (path.reverse.dropWhile (· ≠ '/')).reverse
  if front.isEmpty then if path = ['/'] then "/" else "."
  else withoutEnd (String.ofList front)

/-- The path of a trail from the root. -/
def Trail.path (trail : Trail) : String :=
  "/" ++ "/".intercalate trail

/-- The path from a folder to a trail. -/
def Trail.relativeTo (trail folder : Trail) : String :=
  let common := ((trail.zip folder).takeWhile fun pair => pair.1 = pair.2).length
  let names := List.replicate (folder.length - common) ".." ++ trail.drop common
  if names.isEmpty then "." else "/".intercalate names

namespace Tool

/-- The last name of a path, perhaps without its ending. -/
def basename : Tool := fun _ arguments =>
  withOptions "basename" 1
    { flags := "az", valued := "s", anywhere := false,
      long := [("multiple", 'a'), ("suffix", 's'), ("zero", 'z')] } arguments fun options => do
    let close := if options.has 'z' then "\x00" else "\n"
    let name (ending path : String) : String :=
      let path := withoutEnd path
      let name := if path = "/" then path else (path.splitOn "/").getLastD ""
      if name ≠ ending && name.endsWith ending && name ≠ "/" then
        (name.dropEnd ending.length).toString
      else name
    match options.has 'a' || options.has 's', options.operands with
    | _, [] => misuse "basename" 1 "missing operand"
    | true, paths => do
      paths.forM fun path => Step.out (name ((options.value? 's').getD "") path ++ close)
      return 0
    | false, [path] => do
      Step.out (name "" path ++ close)
      return 0
    | false, [path, ending] => do
      Step.out (name ending path ++ close)
      return 0
    | false, _ :: _ :: extra :: _ => misuse "basename" 1 ("extra operand " ++ cited extra)

/-- The folder that a path leads into. -/
def dirname : Tool := fun _ arguments =>
  withOptions "dirname" 1 { flags := "z", anywhere := false, long := [("zero", 'z')] } arguments
    fun options => do
    let close := if options.has 'z' then "\x00" else "\n"
    if options.operands.isEmpty then misuse "dirname" 1 "missing operand"
    else
      options.operands.forM fun path => Step.out (folderPath path ++ close)
      return 0

/-- The path of the working folder. -/
def pwd : Tool := fun _ arguments =>
  withOptions "pwd" 1 { flags := "LP", long := [("logical", 'L'), ("physical", 'P')] } arguments
    fun options => do
    if !options.operands.isEmpty then complain "pwd" "ignoring non-option arguments"
    let process ← Step.process
    let files ← Step.files
    let told := (process.value? "PWD").filter fun path =>
      path.startsWith "/" && (path.splitOn "/").all (fun name => name ≠ "." && name ≠ "..")
        && (files.resolve true [] path).toOption = some process.trail
    let usual := if (process.value? "POSIXLY_CORRECT").isSome then some 'L' else some 'P'
    let logical := (options.lastOf? ['L', 'P']).or usual = some 'L'
    Step.out ((if logical then told.getD process.trail.path else process.trail.path) ++ "\n")
    return 0

/-- Carry out something for each of some names, and give the greatest exit code. -/
def forNames (names : List String) (step : String → Step Nat) : Step Nat := do
  return (← names.mapM step).foldl max 0

/-- How much of a path must be there when links on the way are followed. -/
inductive Presence where
  | whole
  | allButLast
  | nothing
  deriving DecidableEq

/-- The trail that everything on the way of a path leads to. -/
def canonical (presence : Presence) (path : String) : Step (Except Refusal Trail) := do
  let files ← Step.files
  match ← Step.resolve true path, presence with
  | .ok trail, .nothing => return .ok trail
  | .ok trail, _ =>
    if (files.find? trail).isSome then return .ok trail
    else if presence = .whole || !files.isFolder trail.dropLast then return .error .notFound
    else return .ok trail
  | .error why, .nothing =>
    if why = .notFound || why = .notFolder then
      return .ok (← longestWay files path)
    else return .error why
  | .error why, _ => return .error why
where
  /-- The trail of a path of which only a part is there. -/
  longestWay (files : Files) (path : String) : Step Trail := do
    let here := (← Step.process).trail
    if path.isEmpty then return here
    let names := path.splitOn "/"
    let start : Trail := if path.startsWith "/" then [] else here
    return names.foldl (fun trail name =>
      let further := trail.step name
      ((files.resolve true [] further.path).toOption).getD further) start

/-- Tell where paths lead. What a path leads to is shown as the options want it. -/
def tellWays (name : String) (options : Options) (presence : Presence) (silent : Bool)
    (paths : List String) : Step Nat := do
  let close := if options.has 'n' && paths.length = 1 then "" else
    if options.has 'z' then "\x00" else "\n"
  forNames paths fun path => do
    match ← canonical presence path with
    | .ok trail => do
      Step.out (trail.path ++ close)
      return 0
    | .error why => do
      if !silent then complain name (quotedIfNeeded path ++ ": " ++ why.reason)
      return 1

/-- Where a link leads. -/
def readlink : Tool := fun _ arguments =>
  withOptions "readlink" 1
    { flags := "femnqsvz", long := [("canonicalize", 'f'), ("canonicalize-existing", 'e'),
      ("canonicalize-missing", 'm'), ("no-newline", 'n'), ("quiet", 'q'), ("silent", 's'),
      ("verbose", 'v'), ("zero", 'z')] } arguments fun options => do
    let silent := !options.has 'v' || options.lastOf? ['q', 's', 'v'] ≠ some 'v'
    let paths := options.operands
    if paths.isEmpty then misuse "readlink" 1 "missing operand"
    else
      if options.has 'n' && 1 < paths.length then
        complain "readlink" "ignoring --no-newline with multiple arguments"
      match options.lastOf? ['f', 'e', 'm'] with
      | some 'f' => tellWays "readlink" options .allButLast silent paths
      | some 'e' => tellWays "readlink" options .whole silent paths
      | some _ => tellWays "readlink" options .nothing silent paths
      | none =>
        let close := if options.has 'n' && paths.length = 1 then "" else
          if options.has 'z' then "\x00" else "\n"
        let codes ← paths.mapM fun path => do
          match ← Step.entry? false path, ← Step.resolve false path with
          | some (.link target), _ => do
            Step.out (target ++ close)
            return 0
          | entry?, found => do
            let why : Refusal :=
              match entry?, found with
              | some _, _ => .invalid
              | none, .error why => why
              | none, .ok _ => .notFound
            if !silent then complain "readlink" (quotedIfNeeded path ++ ": " ++ why.reason)
            return 1
        return codes.foldl max 0

/-- The path from the root that a path leads to. -/
def realpath : Tool := fun _ arguments =>
  withOptions "realpath" 1
    { flags := "EemsqzLP", valued := "RB", long := [("canonicalize", 'E'),
      ("canonicalize-existing", 'e'), ("canonicalize-missing", 'm'), ("relative-to", 'R'),
      ("relative-base", 'B'), ("quiet", 'q'), ("strip", 's'), ("no-symlinks", 's'), ("zero", 'z'),
      ("logical", 'L'), ("physical", 'P')] } arguments fun options => do
    let here := (← Step.process).trail
    let presence : Presence :=
      match options.lastOf? ['e', 'm', 'E'] with
      | some 'e' => .whole
      | some 'm' => .nothing
      | _ => .allButLast
    let way (path : String) : Step (Except Refusal Trail) := do
      if options.has 's' then
        if path.isEmpty then return .error .notFound
        let trail := Trail.ofPath here path
        let isThere := ((← Step.files).find? trail).isSome
        let around := (← Step.files).isFolder trail.dropLast
        if (presence = .whole && !isThere) || (presence = .allButLast && !around) then
          return .error .notFound
        else return .ok trail
      else canonical presence path
    let close := if options.has 'z' then "\x00" else "\n"
    if options.operands.isEmpty then misuse "realpath" 1 "missing operand"
    else
      let base? ← (options.value? 'R').mapM way
      let limit? ← (options.value? 'B').mapM way
      let codes ← options.operands.mapM fun path => do
        match ← way path with
        | .error why => do
          if !options.has 'q' then complain "realpath" (quotedIfNeeded path ++ ": " ++ why.reason)
          return 1
        | .ok trail => do
          let shown :=
            match base?, limit? with
            | some (.ok base), none => trail.relativeTo base
            | some (.ok base), some (.ok limit) =>
              if limit.isPrefixOf trail && limit.isPrefixOf base then trail.relativeTo base
              else trail.path
            | none, some (.ok limit) =>
              if limit.isPrefixOf trail then trail.relativeTo limit else trail.path
            | _, _ => trail.path
          Step.out (shown ++ close)
          return 0
      return codes.foldl max 0

end Tool

end Metamorph.Sandbox
