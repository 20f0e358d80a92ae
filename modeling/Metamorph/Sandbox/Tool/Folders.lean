import Metamorph.Sandbox.Tool.Mode

/-! # Making and removing files

The tools that make folders and files of new names, and those that remove files and folders. -/

namespace Metamorph.Sandbox

/-! ## Tools that remove files -/

namespace Step

/-- Ask something, and read the answer from the input: it is yes if it begins so. -/
def confirm (question : String) : Step Bool := do
  write 2 question.toList
  let line ← readLine 0
  return line.head? = some 'y' || line.head? = some 'Y'

end Step

/-- What an entry is, in words. -/
def Entry.kind : Entry → String
  | .folder _ => "directory"
  | .file bytes _ => if bytes.isEmpty then "regular empty file" else "regular file"
  | .link _ => "symbolic link"
  | .pipe _ _ => "fifo"
  | .device _ => "character special file"

namespace Tool

/-- When to ask before something is removed. -/
inductive Asking where
  | never
  | once
  | always
  deriving DecidableEq

/-- How files are removed. -/
structure RemoveOptions where
  recursive : Bool := false
  folders : Bool := false
  isForced : Bool := false
  isVerbose : Bool := false
  asking : Asking := .never

/-- Remove what is at the end of a trail with all that is in it, and say whether that was done to
its end. The fuel bounds the depth. -/
def removeTree (options : RemoveOptions) : Nat → Trail → String → Step Bool
  | 0, _, _ => return false
  | fuel + 1, trail, path => do
    let ask (question : String) : Step Bool := do
      if options.asking = .always then
        Step.confirm ((← calledName "rm") ++ ": " ++ question ++ "? ")
      else return true
    match (← Step.files).find? trail with
    | none => return true
    | some (.folder _) => do
      let names := (← Step.files).names trail
      if !names.isEmpty then
        if !(← ask ("descend into directory " ++ quoted path)) then return false
      let all ← names.mapM fun name => removeTree options fuel (trail ++ [name]) (pathIn path name)
      if all.contains false then return false
      else if ← ask ("remove directory " ++ quoted path) then
        Step.modifyFiles (·.remove trail)
        if options.isVerbose then Step.out ("removed directory " ++ quoted path ++ "\n")
        return true
      else return false
    | some entry => do
      if ← ask ("remove " ++ entry.kind ++ " " ++ quoted path) then
        Step.modifyFiles (·.remove trail)
        if options.isVerbose then Step.out ("removed " ++ quoted path ++ "\n")
        return true
      else return false

/-- Remove what a path leads to. -/
def removePath (options : RemoveOptions) (path : String) : Step Nat := do
  let refuse (why : Refusal) : Step Nat :=
    fail "rm" 1 ("cannot remove " ++ quoted path ++ ": " ++ why.reason)
  match ← Step.resolve false path with
  | .error why =>
    if options.isForced && (why = .notFound || why = .notFolder) then return 0 else refuse why
  | .ok trail =>
    let files ← Step.files
    match files.find? trail with
    | none => if options.isForced then return 0 else refuse .notFound
    | some (.folder _) => do
      if trail.isEmpty then
        if options.recursive then
          complain "rm" "it is dangerous to operate recursively on '/'"
          complain "rm" "use --no-preserve-root to override this failsafe"
          return 1
        else refuse .isFolder
      else if !options.recursive && !options.folders then refuse .isFolder
      else if ["." , ".."].contains (lastName path) then
        fail "rm" 1 ("refusing to remove '.' or '..' directory: skipping " ++ quoted path)
      else if !options.recursive && !(files.names trail).isEmpty then refuse .notEmpty
      else
        let _ ← removeTree options folderDepth trail path
        return 0
    | some _ => do
      let _ ← removeTree options folderDepth trail path
      return 0

/-- Remove files. -/
def rm : Tool := fun _ arguments =>
  withOptions "rm" 1
    { flags := "dfirRvIxPp", perhaps := "a", long := [("force", 'f'), ("interactive", 'a'),
      ("one-file-system", 'x'), ("no-preserve-root", 'P'), ("preserve-root", 'p'),
      ("recursive", 'r'), ("dir", 'd'), ("verbose", 'v')] } arguments fun options => do
    let named : List (List String × Asking) :=
      [(["never", "no", "none"], .never), (["once"], .once), (["always", "yes"], .always)]
    let asking : Except String Asking :=
      match options.given.reverse.find? fun option => ['f', 'i', 'I', 'a'].contains option.1 with
      | some ('i', _) => .ok .always
      | some ('I', _) => .ok .once
      | some ('a', value) =>
        if value.isEmpty then .ok .always else chooseNamed "--interactive" named value
      | _ => .ok .never
    match asking with
    | .error why => misuse "rm" 1 why
    | .ok asking => do
      let count := options.operands.length
      let removing : RemoveOptions :=
        { recursive := options.has 'r' || options.has 'R', folders := options.has 'd'
          isForced := options.lastOf? ['f', 'i', 'I', 'a'] = some 'f'
          isVerbose := options.has 'v', asking }
      if count = 0 then if removing.isForced then return 0 else misuse "rm" 1 "missing operand"
      else
        let goesOn ←
          if asking = .once && (removing.recursive || 3 < count) then
            Step.confirm ((← calledName "rm") ++ ": remove " ++ toString count ++ " argument"
              ++ (if count = 1 then "" else "s")
              ++ (if removing.recursive then " recursively? " else "? "))
          else pure true
        if goesOn then forNames options.operands (removePath removing) else return 0

/-- Take a name away from a file. -/
def unlink : Tool := fun _ arguments =>
  withOptions "unlink" 1 {} arguments fun options => do
    match options.operands with
    | [] => misuse "unlink" 1 "missing operand"
    | _ :: extra :: _ => misuse "unlink" 1 ("extra operand " ++ cited extra)
    | [path] => do
      let refuse (why : Refusal) : Step Nat :=
        fail "unlink" 1 ("cannot unlink " ++ quoted path ++ ": " ++ why.reason)
      match ← Step.resolve false path with
      | .error why => refuse why
      | .ok trail =>
        match (← Step.files).find? trail with
        | none => refuse .notFound
        | some (.folder _) => refuse .isFolder
        | some _ => do
          Step.modifyFiles (·.remove trail)
          return 0

end Tool

end Metamorph.Sandbox

namespace Metamorph.Sandbox.Tool

/-! ## Tools that make and remove folders -/

/-- Change the files at the end of a path, or complain. -/
def changeAt (follow : Bool) (path : String) (change : Trail → Files → Except Refusal Files)
    (complaint : Refusal → Step Unit) : Step Nat := do
  match ← Step.resolve follow path with
  | .error why => do
    complaint why
    return 1
  | .ok trail =>
    match ← Step.tryFiles (change trail) with
    | .ok () => return 0
    | .error why => do
      complaint why
      return 1

/-- Make a folder with a mode, if nothing is in its place, and say why that is not possible. -/
def makeFolder (path : String) (mode : Nat) : Step (Option Refusal) := do
  let bare := withoutEnd path
  match ← Step.resolve false bare with
  | .error why => return some why
  | .ok trail =>
    let files ← Step.files
    if trail.isEmpty || (files.find? trail).isSome then return some .exists
    else
      match files.checkPlace trail with
      | .error why => return some why
      | .ok () => do
        Step.modifyFiles fun files => files.add trail (.folder mode)
        return none

/-- Whether a path leads to a folder. -/
def isFolderPath (path : String) : Step Bool := do
  return ((← Step.entry? true path).map Entry.isFolder).getD false

/-- The paths of the folders that a path leads through, and of its end. -/
def pathsOnWay (path : String) : List String :=
  let names := (path.splitOn "/").filter (· ≠ "")
  let front := if path.startsWith "/" then "/" else ""
  (List.range names.length).map fun n => front ++ "/".intercalate (names.take (n + 1))

/-- Make folders. -/
def mkdir : Tool := fun _ arguments =>
  withOptions "mkdir" 1
    { flags := "pvZ", valued := "m", perhaps := "C", long := [("context", 'C'), ("mode", 'm'),
      ("parents", 'p'), ("verbose", 'v')] } arguments fun options => do
    let mask := (← Step.process).mask
    let changes? := (options.value? 'm').map ModeChange.read?
    if options.operands.isEmpty then misuse "mkdir" 1 "missing operand"
    else if changes? = some none then
      fail "mkdir" 1 ("invalid mode " ++ quoted ((options.value? 'm').getD ""))
    else
      let usual := 0o777 &&& (0o777 ^^^ mask)
      let wanted := (changes?.join.map (ModeChange.applyAll true mask 0o777)).getD usual
      let tell (path : String) : Step Unit := do
        if options.has 'v' then Step.out ("mkdir: created directory " ++ quoted path ++ "\n")
      let refuse (path : String) (why : Refusal) : Step Nat :=
        fail "mkdir" 1 ("cannot create directory " ++ quoted path ++ ": " ++ why.reason)
      forNames options.operands fun path => do
        if !options.has 'p' then
          match ← makeFolder path wanted with
          | some why => refuse path why
          | none => do
            tell path
            return 0
        else
          let ways := pathsOnWay path
          if ways.isEmpty then if path.isEmpty then refuse path .notFound else return 0
          else
            let last := ways.getLastD path
            ways.foldlM (fun code way => do
              if code ≠ 0 || (← isFolderPath way) then return code
              else
                let mode := if way = last then wanted else usual ||| 0o300
                match ← makeFolder way mode with
                | none => do
                  tell (if way = last then path else way)
                  return 0
                | some why =>
                  if way = last then refuse path why
                  else refuse way (if why = .exists then .notFolder else why)) 0

/-- Remove an empty folder, and say why that is not possible. -/
def dropFolder (path : String) : Step (Option Refusal) := do
  let isDot := lastName path = "." && path ≠ "/"
  match ← Step.resolve false path with
  | .error why => return some why
  | .ok trail =>
    let files ← Step.files
    match files.find? trail with
    | none => return some .notFound
    | some (.folder _) =>
      if trail.isEmpty then return some .busy
      else if isDot then return some .invalid
      else if lastName path = ".." || !(files.names trail).isEmpty then return some .notEmpty
      else
        Step.modifyFiles (·.remove trail)
        return none
    | some _ => return some .notFolder

/-- Remove empty folders. -/
def rmdir : Tool := fun _ arguments =>
  withOptions "rmdir" 1
    { flags := "pvI", long := [("ignore-fail-on-non-empty", 'I'), ("parents", 'p'), ("path", 'p'),
      ("verbose", 'v')] } arguments fun options => do
    if options.operands.isEmpty then misuse "rmdir" 1 "missing operand"
    else
      let announce (path : String) : Step Unit := do
        if options.has 'v' then Step.out ("rmdir: removing directory, " ++ quoted path ++ "\n")
      forNames options.operands fun path => do
        announce path
        match ← dropFolder path with
        | some why => do
          if options.has 'I' && why = .notEmpty then return 0
          else
            let isLink ← do
              match ← Step.entry? false (withoutEnd path) with
              | some (.link _) => pure (path.endsWith "/" && why = .notFolder)
              | _ => pure false
            fail "rmdir" 1 ("failed to remove " ++ quoted path ++ ": "
              ++ if isLink then "Symbolic link not followed" else why.reason)
        | none => do
          if !options.has 'p' then return 0
          else
            let around := (pathsOnWay path).dropLast.reverse
            let (code, _) ← around.foldlM (fun (code, goesOn) way => do
              if !goesOn then return (code, false)
              else
                announce way
                match ← dropFolder way with
                | none => return (code, true)
                | some why => do
                  if options.has 'I' && why = .notEmpty then return (code, false)
                  else
                    complain "rmdir" ("failed to remove directory " ++ quoted way ++ ": "
                      ++ why.reason)
                    return (1, false)) ((0, true) : Nat × Bool)
            return code

/-! ## The tool that makes files with new names -/

/-- Make a new file or folder with a name that no other one has. -/
def mktemp : Tool := fun _ arguments =>
  withOptions "mktemp" 1
    { flags := "dqtuV", valued := "ps", perhaps := "P", long := [("directory", 'd'), ("quiet", 'q'),
      ("dry-run", 'u'), ("suffix", 's'), ("tmpdir", 'P')] } arguments fun options => do
    let silent := options.has 'q'
    let refuse (text : String) : Step Nat := do
      if !silent then complain "mktemp" text
      return 1
    match options.operands with
    | _ :: _ :: _ => misuse "mktemp" 1 "too many templates"
    | operands => do
      let given? := operands.head?
      let template := given?.getD "tmp.XXXXXXXXXX"
      let told := options.value? 'p' |>.or (options.value? 'P')
      let process ← Step.process
      let usual := ((process.value? "TMPDIR").filter (· ≠ "")).getD "/tmp"
      let folder := (told.filter (· ≠ "")).getD usual
      let ending := options.value? 's'
      let whole := template.toList
      let (front, marks, behind) : List Char × Nat × List Char :=
        match ending with
        | some ending =>
          let marks := (whole.reverse.takeWhile (· = 'X')).length
          (whole.take (whole.length - marks), marks, ending.toList)
        | none =>
          let behind := (whole.reverse.takeWhile (· ≠ 'X')).reverse
          let rest := (whole.take (whole.length - behind.length)).reverse
          let marks := (rest.takeWhile (· = 'X')).length
          if marks = 0 then (whole, 0, []) else ((rest.drop marks).reverse, marks, behind)
      if ending.isSome && whole.getLast? ≠ some 'X' then
        refuse ("with --suffix, template " ++ quoted template ++ " must end in X")
      else if behind.contains '/' then
        refuse ("invalid suffix " ++ quoted (String.ofList behind) ++ ", contains directory separator")
      else if marks < 3 then refuse ("too few X's in template " ++ quoted template)
      else if (options.has 't' || told.isSome) && template.startsWith "/" && told.isSome then
        refuse ("invalid template, " ++ quoted template
          ++ "; with --tmpdir, it may not be absolute")
      else if options.has 't' && template.contains '/' then
        refuse ("invalid template, " ++ quoted template ++ ", contains directory separator")
      else
        let id := (← get).world.nextId
        modify fun run => { run with world.nextId := id + 1 }
        let digits := Nat.toDigits 10 id
        let filling := ((List.replicate marks 'a' ++ digits).reverse.take marks).reverse
        let name := String.ofList (front ++ filling ++ behind)
        let inFolder := given?.isNone || options.has 't' || told.isSome
        let path := if inFolder then pathIn folder name else name
        let shown := if inFolder then pathIn folder template else template
        let what := if options.has 'd' then "directory" else "file"
        let why? ←
          if options.has 'u' then pure none
          else if options.has 'd' then makeFolder path 0o700
          else
            match ← Step.resolve true path with
            | .error why => pure (some why)
            | .ok trail =>
              match ← Step.tryFiles fun files => do
                files.checkPlace trail
                return files.add trail (.file [] 0o600) with
              | .ok () => pure none
              | .error why => pure (some why)
        match why? with
        | some why =>
          refuse ("failed to create " ++ what ++ " via template " ++ quoted shown ++ ": "
            ++ why.reason)
        | none => do
          Step.out (path ++ "\n")
          return 0

end Metamorph.Sandbox.Tool
