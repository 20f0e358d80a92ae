import Metamorph.Sandbox.Tool.Folders

/-! # Files under other names

Where the files go that tools copy, move or link, and the tools that make links and pipes. -/

namespace Metamorph.Sandbox

/-! ## Where files go

The tools that copy, move and link files take the same words for that: one source and one target,
or several sources and a folder. Here is what these words mean, and what is done with a file that
is in the place of a new one. -/

/-- What stands behind the options for a tool that makes files from others. -/
structure TargetWords where
  /-- The folder that files go to, if it is told apart. -/
  folder : Option String := none
  /-- Whether the last word is never taken for a folder that files go to. -/
  isPlain : Bool := false
  operands : List String

namespace TargetWords

/-- The pairs of sources and targets that words mean, or the code of a failure. -/
def pairs (name : String) (words : TargetWords) : Step (Except Nat (List (String × String))) := do
  let into (folder : String) (sources : List String) : List (String × String) :=
    sources.map fun source => (source, pathIn folder (lastName source))
  let why (path : String) : Step Refusal := do
    match ← Step.resolve true path with
    | .error why => return why
    | .ok _ => return if (← Step.entry? true path).isSome then .notFolder else .notFound
  match words.folder, words.operands with
  | _, [] => return .error (← Tool.misuse name 1 "missing file operand")
  | some folder, sources => do
    if words.isPlain then
      return .error (← Tool.fail name 1
        "cannot combine --target-directory (-t) and --no-target-directory (-T)")
    else if ← Tool.isFolderPath folder then return .ok (into folder sources)
    else
      return .error (← Tool.fail name 1
        ("target directory " ++ quoted folder ++ ": " ++ (← why folder).reason))
  | none, [one] =>
    return .error (← Tool.misuse name 1 ("missing destination file operand after " ++ quoted one))
  | none, first :: second :: rest => do
    let last := (second :: rest).getLastD second
    if words.isPlain then
      match rest with
      | extra :: _ => return .error (← Tool.misuse name 1 ("extra operand " ++ quoted extra))
      | [] => return .ok [(first, second)]
    else if ← Tool.isFolderPath last then
      return .ok (into last (first :: (second :: rest).dropLast))
    else if rest.isEmpty then return .ok [(first, second)]
    else
      return .error (← Tool.fail name 1 ("target " ++ quoted last ++ ": " ++ (← why last).reason))

end TargetWords

/-- What is done with a file in the place of a new one. -/
inductive Overwriting where
  | always
  /-- Only what its owner says yes to. -/
  | asked
  | never
  deriving DecidableEq

/-- How files in the place of new ones are kept. -/
structure Keeping where
  ending : String := "~"
  /-- Whether backups have numbers: always, or if there is one with a number. -/
  numbered : Bool := false
  existing : Bool := true

namespace Keeping

/-- The names for the ways to keep files. -/
def controls : List (List String × Option (Bool × Bool)) :=
  [(["none", "off"], none), (["simple", "never"], some (false, false)),
    (["existing", "nil"], some (false, true)), (["numbered", "t"], some (true, false))]

/-- How files are kept, as options ask for it. -/
def ofOptions (options : Options) (control? : Option String) :
    Except String (Option Keeping) := do
  if !(options.has 'b' || options.has 'B' || options.has 'S') then return none
  let value := ((options.value? 'B').filter (· ≠ "")).or control?
  let kind ←
    match value with
    | some value => chooseNamed "backup type" controls value
    | none => pure (some (false, true))
  return kind.map fun (numbered, existing) =>
    { ending := (options.value? 'S').getD "~", numbered, existing }

/-- The path that the file at a path is kept under. -/
def backupPath (keeping : Keeping) (path : String) : Step String := do
  let numbers ← (List.range 20).filterM fun n =>
    return (← Step.entry? false (path ++ ".~" ++ toString (n + 1) ++ "~")).isSome
  let next := (numbers.getLast?.map (· + 2)).getD 1
  if keeping.numbered || (keeping.existing && !numbers.isEmpty) then
    return path ++ ".~" ++ toString next ++ "~"
  else return path ++ keeping.ending

/-- Move the file at a path out of the way, and give the path that it is kept under. -/
def keep (keeping : Keeping) (path : String) : Step (Option String) := do
  let backup ← keeping.backupPath path
  match ← Step.resolve false path, ← Step.resolve false backup with
  | .ok trail, .ok place => do
    if ((← Step.files).find? trail).isNone then return none
    Step.modifyFiles (·.move trail place)
    return some backup
  | _, _ => return none

end Keeping

end Metamorph.Sandbox

namespace Metamorph.Sandbox.Tool

/-! ## Tools that make links and pipes

The tools that give a file another name, make links to files, and make pipes that have names. -/

/-- How links are made. -/
structure LinkOptions where
  soft : Bool := false
  isForced : Bool := false
  isAsking : Bool := false
  /-- A link to a folder in the place of the target is a file like others. -/
  keepsLinks : Bool := false
  relative : Bool := false
  isVerbose : Bool := false
  follows : Bool := false
  keeping : Option Keeping := none

/-- Complain that a link cannot be made. -/
def refuseLink (options : LinkOptions) (source target : String) (why : Refusal) : Step Nat :=
  let kind := if options.soft then "symbolic link " else "hard link "
  let behind := if options.soft || why = .exists then "" else " => " ++ quoted source
  fail "ln" 1 ("failed to create " ++ kind ++ quoted target ++ behind ++ ": " ++ why.reason)

/-- The text of a link at a trail that leads to what a path leads to. -/
def relativeText (source : String) (place : Trail) : Step String := do
  let here := (← Step.process).trail
  let trail := ((← Step.resolve true source).toOption).getD (Trail.ofPath here source)
  return trail.relativeTo place.dropLast

/-- Make a link. -/
def makeLink (options : LinkOptions) (source target : String) : Step Nat := do
  let refuse (why : Refusal) : Step Nat := refuseLink options source target why
  let files ← Step.files
  let found : Except Refusal (Option Nat × Bool) ←
    if options.soft then pure (.ok (none, false))
    else
      match ← Step.resolve options.follows source with
      | .error why => pure (.error why)
      | .ok trail =>
        match files.find? trail with
        | none => pure (.error .notFound)
        | some entry => pure (.ok (files.nodeAt? trail, entry.isFolder))
  match found with
  | .error why => fail "ln" 1 ("failed to access " ++ quoted source ++ ": " ++ why.reason)
  | .ok (node?, isFolder) =>
    if isFolder then
      fail "ln" 1 (quotedIfNeeded source ++ ": hard link not allowed for directory")
    else if options.soft && source.isEmpty then refuse .notFound
    else
      match ← Step.resolve false target with
      | .error why => refuse why
      | .ok place => do
        let before := files.find? place
        let isSame := !options.soft && before.isSome && files.nodeAt? place = node?
        match before, files.checkPlace place with
        | none, .error why => refuse why
        | none, .ok () =>
          if target.endsWith "/" then refuse .notFound else carryOut files node? place none
        | some (.folder _), _ =>
          if options.isForced then
            fail "ln" 1 (quotedIfNeeded target ++ ": cannot overwrite directory")
          else refuse .exists
        | some _, _ => do
          if isSame && (options.isForced || options.keeping.isSome) then
            fail "ln" 1 (quoted source ++ " and " ++ quoted target ++ " are the same file")
          else if options.isAsking then
            if ← Step.confirm ((← calledName "ln") ++ ": replace " ++ quoted target ++ "? ") then
              carryOut (files.remove place) node? place none
            else return 0
          else
            match options.keeping with
            | some keeping => do
              let backup ← keeping.keep target
              let files ← Step.files
              carryOut files node? place backup
            | none =>
              if options.isForced then carryOut (files.remove place) node? place none
              else refuse .exists
where
  /-- Make the link where nothing is. -/
  carryOut (files : Files) (node? : Option Nat) (place : Trail) (backup : Option String) :
      Step Nat := do
    let text ← if options.relative then relativeText source place else pure source
    match node? with
    | some node => Step.modifyFiles fun _ => files.lead place node
    | none => Step.modifyFiles fun now => { files with time := now.time }.add place (.link text)
    if options.isVerbose then
      let behind := (backup.map fun path => " ~ " ++ quoted path).getD ""
      Step.out (quoted target ++ behind ++ (if options.soft then " -> " else " => ") ++ quoted text
        ++ "\n")
    return 0

/-- Make links to files, or other names for them. -/
def ln : Tool := fun _ arguments =>
  withOptions "ln" 1
    { flags := "bdFfinPLrsTv", valued := "tS", perhaps := "B", long := [("backup", 'B'),
      ("directory", 'F'), ("no-dereference", 'n'), ("no-target-directory", 'T'), ("force", 'f'),
      ("interactive", 'i'), ("suffix", 'S'), ("target-directory", 't'), ("logical", 'L'),
      ("physical", 'P'), ("relative", 'r'), ("symbolic", 's'), ("verbose", 'v')] } arguments
    fun options => do
    let control? := (← Step.process).value? "VERSION_CONTROL"
    match Keeping.ofOptions options control? with
    | .error why => misuse "ln" 1 why
    | .ok keeping => do
      let plan : LinkOptions :=
        { soft := options.has 's', isForced := options.lastOf? ['f', 'i'] = some 'f'
          isAsking := options.lastOf? ['f', 'i'] = some 'i', keepsLinks := options.has 'n'
          relative := options.has 'r', isVerbose := options.has 'v'
          follows := options.lastOf? ['L', 'P'] = some 'L', keeping }
      let make (pairs : List (String × String)) : Step Nat := do
        let codes ← pairs.mapM fun (source, target) => makeLink plan source target
        return codes.foldl max 0
      let into (folder : String) (sources : List String) : Step Nat :=
        make (sources.map fun source => (source, pathIn folder (lastName source)))
      let isFolder (path : String) : Step Bool := do
        let entry? ← Step.entry? (!plan.keepsLinks || path.endsWith "/") path
        return (Option.map Entry.isFolder entry?).getD false
      let noFolder (what path : String) : Step Nat := do
        let files ← Step.files
        let why : Refusal :=
          match ← Step.resolve true path with
          | .error why => why
          | .ok trail => if (files.find? trail).isSome then .notFolder else .notFound
        fail "ln" 1 (what ++ quoted path ++ ": " ++ why.reason)
      match options.operands, options.value? 't' with
      | [], _ => misuse "ln" 1 "missing file operand"
      | first :: rest, folder? =>
        if plan.relative && !plan.soft then
          fail "ln" 1 "cannot do --relative without --symbolic"
        else if options.has 'T' then
          match folder?, rest with
          | some _, _ =>
            fail "ln" 1 "cannot combine --target-directory and --no-target-directory"
          | none, [] => misuse "ln" 1 ("missing destination file operand after " ++ quoted first)
          | none, [target] => make [(first, target)]
          | none, _ :: extra :: _ => misuse "ln" 1 ("extra operand " ++ quoted extra)
        else
          match folder?, rest with
          | some folder, _ =>
            if ← isFolder folder then into folder (first :: rest) else noFolder "target directory " folder
          | none, [] => into "." [first]
          | none, [target] =>
            if ← isFolder target then into target [first] else make [(first, target)]
          | none, _ =>
            let last := rest.getLastD first
            if ← isFolder last then into last (first :: rest.dropLast) else noFolder "target " last

/-- Give a file another name. -/
def link : Tool := fun _ arguments =>
  withOptions "link" 1 {} arguments fun options => do
    match options.operands with
    | [] => misuse "link" 1 "missing operand"
    | [one] => misuse "link" 1 ("missing operand after " ++ quoted one)
    | _ :: _ :: extra :: _ => misuse "link" 1 ("extra operand " ++ quoted extra)
    | [source, target] => do
      let refuse (why : Refusal) : Step Nat :=
        fail "link" 1 ("cannot create link " ++ quoted target ++ " to " ++ quoted source ++ ": "
          ++ why.reason)
      match ← Step.resolve false source, ← Step.resolve false target with
      | .error why, _ => refuse why
      | _, .error why => refuse why
      | .ok trail, .ok place => do
        let files ← Step.files
        match files.find? trail, files.find? place, files.checkPlace place with
        | none, _, _ => refuse .notFound
        | _, some _, _ => refuse .exists
        | _, none, .error why => refuse why
        | some (.folder _), _, _ =>
          fail "link" 1 ("cannot create link " ++ quoted target ++ " to " ++ quoted source
            ++ ": Operation not permitted")
        | some _, none, .ok () => do
          match files.nodeAt? trail with
          | some node => Step.modifyFiles (·.lead place node)
          | none => pure ()
          return 0

/-- Make a pipe with a name, and say why that is not possible. -/
def makePipe (path : String) (mode : Nat) : Step (Option Refusal) := do
  match ← Step.resolve false path with
  | .error why => return some why
  | .ok trail =>
    let files ← Step.files
    if (files.find? trail).isSome then return some .exists
    else
      match files.checkPlace trail with
      | .error why => return some why
      | .ok () =>
        if path.endsWith "/" then return some .notFound
        else
          let number ← modifyGet fun run =>
            let (number, world) := run.world.newPipe {}
            (number, { run with world := world })
          Step.modifyFiles (·.add trail (.pipe number mode))
          return none

/-- Make pipes that have names. -/
def mkfifo : Tool := fun _ arguments =>
  withOptions "mkfifo" 1
    { flags := "Z", valued := "m", perhaps := "C", long := [("context", 'C'), ("mode", 'm')] }
    arguments fun options => do
    let mask := (← Step.process).mask
    let changes? := (options.value? 'm').map ModeChange.read?
    if options.operands.isEmpty then misuse "mkfifo" 1 "missing operand"
    else if changes? = some none then fail "mkfifo" 1 "invalid mode"
    else
      let mode := (changes?.join.map (ModeChange.applyAll false mask 0o666)).getD
        (0o666 &&& (0o777 ^^^ mask))
      if mode &&& 0o777 ≠ mode then fail "mkfifo" 1 "mode must specify only file permission bits"
      else
        forNames options.operands fun path => do
          match ← makePipe path mode with
          | none => return 0
          | some why => fail "mkfifo" 1 ("cannot create fifo " ++ quoted path ++ ": " ++ why.reason)

end Metamorph.Sandbox.Tool
