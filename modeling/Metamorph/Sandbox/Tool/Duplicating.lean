import Metamorph.Sandbox.Tool.Target

/-! # Copying and moving files

The tools that copy files and folders, and the one that moves them. -/

namespace Metamorph.Sandbox

/-! ## Tools that copy files

A copy of a file has the bytes of it and, unless it takes the place of another file, its mode. Of a
folder everything in it is copied, too. -/

/-- What is done with links that are to be copied. -/
inductive LinkCopying where
  | follows
  /-- Only those that are named are followed. -/
  | followsNamed
  | keeps
  deriving DecidableEq

/-- When a file takes the place of another one. -/
inductive Updating where
  | all
  | none
  | older
  deriving DecidableEq

/-- How files are copied. -/
structure CopyOptions where
  tool : String := "cp"
  recursive : Bool := false
  links : LinkCopying := .follows
  overwriting : Overwriting := .always
  updating : Updating := .all
  isVerbose : Bool := false
  isForced : Bool := false
  removesFirst : Bool := false
  keepsMode : Bool := false
  keepsTime : Bool := false
  /-- Instead of copies, other names for the files are made, or links to them. -/
  makesNames : Bool := false
  makesLinks : Bool := false
  onlyAttributes : Bool := false
  keeping : Option Keeping := none
  /-- The mode of what is made, whatever that of the source is. -/
  mode : Option Nat := none

/-- A copying on its way: the places that were made, the outermost source and target with the
place of the target, and the code so far. -/
structure CopyState where
  made : List Trail := []
  outer : Option (String × String × Trail) := none
  code : Nat := 0

/-- A step of a copying. -/
abbrev Copying := StateT CopyState Step

namespace Copying

/-- Complain, and note the failure. -/
def refuse (options : CopyOptions) (text : String) : Copying Unit := do
  Tool.complain options.tool text
  modify fun state => { state with code := 1 }

/-- Say what was made. -/
def tell (options : CopyOptions) (source target : String) (backup : Option String) :
    Copying Unit := do
  if options.isVerbose then
    let behind := (backup.map fun path => " (backup: " ++ quoted path ++ ")").getD ""
    Step.out (quoted source ++ " -> " ++ quoted target ++ behind ++ "\n")

/-- Give a copy what it keeps of its source. -/
def keepDetails (options : CopyOptions) (source target : Trail) (isNew : Bool) (mode : Nat) :
    Copying Unit := do
  let mask := (← Step.process).mask
  let files ← Step.files
  let wanted :=
    match options.mode with
    | some mode => some mode
    | none =>
      if options.keepsMode then some mode
      else if isNew then some (mode &&& 0o777 &&& (0o777 ^^^ mask)) else none
  match wanted with
  | some mode => modifyThe Run fun run => { run with world.files := run.world.files.setMode target mode }
  | none => pure ()
  if options.keepsTime then
    match files.changed? source with
    | some time => modifyThe Run fun run =>
        { run with world.files := run.world.files.setChanged target time }
    | none => pure ()

/-- Whether a file may take the place of another one. -/
def mayReplace (options : CopyOptions) (source target : Trail) (path : String) : Copying Bool := do
  let files ← Step.files
  if (files.find? target).isNone then return true
  else if options.updating = .none then return false
  else if options.updating = .older
      && (files.changed? source).getD 0 ≤ (files.changed? target).getD 0 then return false
  else
    match options.overwriting with
    | .always => return true
    | .asked => Step.confirm (options.tool ++ ": overwrite " ++ quoted path ++ "? ")
    | .never => do
      refuse options ("not replacing " ++ quoted path)
      return false

/-- Put an entry at the end of a trail, which is new or takes the place of another one. -/
def place (trail : Trail) (entry : Entry) : Copying Unit :=
  Step.modifyFiles fun files => (if (files.find? trail).isSome then files.remove trail else files).add trail entry

/-- Copy the bytes of a file that is none on the disk. -/
def copyStream (options : CopyOptions) (source target : String) : Copying Unit := do
  match ← Step.readFile source with
  | .error why => refuse options ("cannot open " ++ quoted source ++ " for reading: " ++ why.reason)
  | .ok text =>
    match ← Step.writeFile target text with
    | .ok () => tell options source target none
    | .error why =>
      refuse options ("cannot create regular file " ++ quoted target ++ ": " ++ why.reason)

mutual
/-- Copy what a path leads to. The fuel bounds the depth. -/
def copyPath (options : CopyOptions) : Nat → Bool → String → String → Copying Unit
  | 0, _, _, _ => pure ()
  | fuel + 1, isNamed, source, target => do
    let follows := options.links = .follows || (options.links = .followsNamed && isNamed)
    match ← Step.resolve follows source, ← Step.entry? follows source with
    | .error why, _ => refuse options ("cannot stat " ++ quoted source ++ ": " ++ why.reason)
    | .ok _, none =>
      match Step.streamOf? source with
      | some _ => copyStream options source target
      | none => refuse options ("cannot stat " ++ quoted source ++ ": " ++ Refusal.notFound.reason)
    | .ok trail, some entry => do
      if entry.isFolder && !options.recursive then
        refuse options ((if options.tool = "install" then "omitting directory "
          else "-r not specified; omitting directory ") ++ quoted source)
      else
        let isLink := match entry with | .link _ => true | _ => false
        let plainTarget := !isLink && !options.makesNames && !options.makesLinks
          && !options.removesFirst && !entry.isFolder
        match ← Step.resolve (plainTarget || entry.isFolder) target with
        | .error why => refuse options ("cannot create " ++ wordFor entry ++ quoted target ++ ": "
            ++ why.reason)
        | .ok place =>
          match (← Step.files).checkPlace place, ← Step.entry? false target with
          | .error .notFound, _ =>
            refuse options ("cannot create " ++ wordFor entry ++ quoted target ++ ": "
              ++ Refusal.notFound.reason)
          | .error .notFolder, _ =>
            refuse options ("cannot create " ++ wordFor entry ++ quoted target ++ ": "
              ++ Refusal.notFolder.reason)
          | _, some (.link _) =>
            if plainTarget && ((← Step.files).find? place).isNone && !options.isForced then
              refuse options ("not writing through dangling symlink " ++ quoted target)
            else copyEntry options fuel source target trail place entry
          | _, _ => copyEntry options fuel source target trail place entry

/-- Copy an entry to the end of a trail. -/
def copyEntry (options : CopyOptions) : Nat → String → String → Trail → Trail → Entry → Copying Unit
  | 0, _, _, _, _, _ => pure ()
  | fuel + 1, source, target, trail, place, entry => do
    let files ← Step.files
    let before := files.find? place
    let isSame := trail = place
      || (before.isSome && files.nodeAt? trail = files.nodeAt? place && !options.removesFirst)
    if isSame && !(options.keeping.isSome && options.isForced) then
      if !((options.makesNames && files.nodeAt? trail = files.nodeAt? place && trail ≠ place)) then
        refuse options (quoted source ++ " and " ++ quoted target ++ " are the same file")
    else
      match entry, before with
      | .folder _, some other =>
        if other.isFolder then copyFolder options fuel source target trail place entry false
        else
          refuse options ("cannot overwrite non-directory " ++ quoted target ++ " with directory "
            ++ quoted source)
      | .folder _, none => copyFolder options fuel source target trail place entry true
      | _, some (.folder _) =>
        refuse options ("cannot overwrite directory " ++ quoted target ++ " with non-directory")
      | _, _ => do
        if target.endsWith "/" && before.isNone then
          refuse options ("cannot create regular file " ++ quoted target ++ ": "
            ++ Refusal.notFolder.reason)
        else if (← get).made.contains place && before.isSome then
          refuse options ("will not overwrite just-created " ++ quoted target ++ " with "
            ++ quoted source)
        else if ← mayReplace options trail place target then
          let backup ← (options.keeping.filter fun _ => before.isSome).bindM fun (keeping : Keeping) =>
            (keeping.keep target : Step _)
          let before := if backup.isSome then none else before
          copyLeaf options source target trail place entry before backup
          modify fun state => { state with made := place :: state.made }

/-- Copy a folder with everything in it. -/
def copyFolder (options : CopyOptions) :
    Nat → String → String → Trail → Trail → Entry → Bool → Copying Unit
  | 0, _, _, _, _, _, _ => pure ()
  | fuel + 1, source, target, trail, place, entry, isNew => do
    match (← get).outer.filter fun (_, _, outer) => outer = trail with
    | some (source, target, _) =>
      refuse options ("cannot copy a directory, " ++ quoted source ++ ", into itself, "
        ++ quoted target)
    | none => do
      if (← get).outer.isNone then
        modify fun state => { state with outer := some (source, target, place) }
      if isNew then
        Step.modifyFiles (·.add place (.folder 0o700))
        tell options source target none
        modify fun state => { state with made := place :: state.made }
      let names := (← Step.files).names trail
      names.forM fun name =>
        copyPath options fuel false (pathIn source name) (pathIn target name)
      keepDetails options trail place isNew entry.mode

/-- Copy an entry that is no folder. -/
def copyLeaf (options : CopyOptions) (source target : String) (trail place : Trail) (entry : Entry)
    (before : Option Entry) (backup : Option String) : Copying Unit := do
  if options.makesLinks then
    if before.isSome && !options.isForced && !options.removesFirst then
      refuse options ("cannot create symbolic link " ++ quoted target ++ " to " ++ quoted source ++ ": "
        ++ Refusal.exists.reason)
    else
      Copying.place place (.link source)
      tell options source target backup
  else if options.makesNames then
    if before.isSome && !options.isForced && !options.removesFirst then
      refuse options ("cannot create hard link " ++ quoted target ++ " to " ++ quoted source ++ ": "
        ++ Refusal.exists.reason)
    else
      Step.modifyFiles fun files => ((files.nodeAt? trail).map (files.lead place)).getD files
      tell options source target backup
  else
    match entry with
    | .link text => do
      Copying.place place (.link text)
      tell options source target backup
    | .file bytes mode => do
      match before with
      | some (.device _) => copyStream options source target
      | some (.pipe _ _) => copyStream options source target
      | _ => do
        let isNew := before.isNone || options.removesFirst
        if options.removesFirst && before.isSome then Step.modifyFiles (·.remove place)
        if !options.onlyAttributes then
          Step.modifyFiles fun files =>
            files.put place (.file bytes (((files.find? place).map Entry.mode).getD mode))
        else if isNew then Step.modifyFiles (·.put place (.file [] mode))
        keepDetails options trail place isNew mode
        tell options source target backup
    | .pipe _ _ => copyStream options source target
    | _ => copyStream options source target

/-- What a copy of an entry is called that cannot be made. -/
def wordFor (entry : Entry) : String :=
  match entry with
  | .folder _ => "directory "
  | .link _ => "symbolic link "
  | _ => "regular file "
end

end Copying

namespace Tool

/-- The ways to choose by age which files are copied. -/
def updateNames : List (List String × Updating) :=
  [(["all"], .all), (["none"], .none), (["older"], .older)]

/-- What is kept of a file, by its names. -/
def attributeNames : List (List String × List Char) :=
  [(["mode"], ['m']), (["timestamps"], ['t']), (["ownership"], []), (["links"], ['l']),
    (["context"], []), (["xattr"], []), (["all"], ['m', 't', 'l'])]

/-- How files are copied, as the options of the tool ask for it. -/
def copyOptions (options : Options) (control? : Option String) : Except String CopyOptions := do
  let keeping ← Keeping.ofOptions options control?
  let archive := options.has 'a'
  let listed (letter : Char) : Except String (List Char) := do
    let names := (options.values letter).flatMap fun value => value.splitOn ","
    return (← names.mapM (chooseNamed "--preserve" attributeNames)).flatten
  let kept ← listed 'A'
  let dropped ← listed 'N'
  let updating ←
    match options.value? 'U' with
    | some "" => pure Updating.older
    | some value => chooseNamed "--update" updateNames value
    | none => pure (if options.has 'u' then Updating.older else Updating.all)
  let recursive := ['r', 'R', 'a'].any options.has
  let has (letter : Char) : Bool :=
    (archive || options.has 'p' || kept.contains letter) && !dropped.contains letter
  return {
    recursive, keeping, updating
    links := match options.lastOf? ['L', 'P', 'H', 'd', 'a'] with
      | some 'L' => .follows
      | some 'H' => .followsNamed
      | some _ => .keeps
      | none => if recursive then .keeps else .follows
    overwriting := match options.lastOf? ['i', 'n'] with
      | some 'i' => .asked
      | some _ => .never
      | none => .always
    isVerbose := options.has 'v', isForced := options.has 'f'
    removesFirst := options.has 'E', keepsMode := has 'm', keepsTime := has 't'
    makesNames := options.has 'l', makesLinks := options.has 's'
    onlyAttributes := options.has 'O' }

/-- Copy files. -/
def cp : Tool := fun _ arguments =>
  withOptions "cp" 1
    { flags := "abdfHilLnprsuvxPRTZEOQCDGI", valued := "tSNKW", perhaps := "BAUJF",
      long := [("archive", 'a'), ("attributes-only", 'O'), ("backup", 'B'), ("context", 'F'),
        ("copy-contents", 'C'), ("debug", 'D'), ("dereference", 'L'), ("force", 'f'),
        ("interactive", 'i'), ("keep-directory-symlink", 'G'), ("link", 'l'), ("no-clobber", 'n'),
        ("no-dereference", 'P'), ("no-preserve", 'N'), ("no-target-directory", 'T'),
        ("one-file-system", 'x'), ("parents", 'I'), ("path", 'I'), ("preserve", 'A'),
        ("recursive", 'R'), ("reflink", 'J'), ("remove-destination", 'E'), ("sparse", 'K'),
        ("strip-trailing-slashes", 'Q'), ("suffix", 'S'), ("symbolic-link", 's'),
        ("target-directory", 't'), ("update", 'U'), ("verbose", 'v')] }
    arguments fun options => do
    let control? := (← Step.process).value? "VERSION_CONTROL"
    match copyOptions options control? with
    | .error why => misuse "cp" 1 why
    | .ok plan => do
      let operands := if options.has 'Q' then options.operands.map withoutEnd else options.operands
      let words : TargetWords :=
        { folder := options.value? 't', isPlain := options.has 'T', operands }
      if plan.keeping.isSome && plan.overwriting = .never then
        misuse "cp" 1 "options --backup and --no-clobber are mutually exclusive"
      else
        if options.has 'n' then
          complain "cp" ("warning: behavior of -n is non-portable and may change in future;"
            ++ " use --update=none instead")
        match ← words.pairs "cp" with
        | .error code => return code
        | .ok pairs => do
          let copying : Copying Unit := pairs.forM fun (source, target) => do
            modify fun state => { state with outer := none }
            Copying.copyPath plan (3 * folderDepth) true source target
          let ((), state) ← copying.run {}
          return state.code

end Tool

end Metamorph.Sandbox

namespace Metamorph.Sandbox.Tool

/-! ## The tool that moves files -/

/-- How files are moved. -/
structure MoveOptions where
  overwriting : Overwriting := .always
  updating : Updating := .all
  isVerbose : Bool := false
  keeping : Option Keeping := none

/-- Move what a path leads to to another path. -/
def movePath (options : MoveOptions) (source target : String) : Step Nat := do
  let refuseMove (why : Refusal) : Step Nat :=
    fail "mv" 1 ("cannot move " ++ quoted source ++ " to " ++ quoted target ++ ": " ++ why.reason)
  let refuseSource (why : Refusal) : Step Nat :=
    fail "mv" 1 ("cannot stat " ++ quoted source ++ ": " ++ why.reason)
  let tell (backup : Option String) : Step Nat := do
    if options.isVerbose then
      let behind := (backup.map fun path => " (backup: " ++ quoted path ++ ")").getD ""
      Step.out ("renamed " ++ quoted source ++ " -> " ++ quoted target ++ behind ++ "\n")
    return 0
  let files ← Step.files
  match ← Step.resolve false source with
  | .error why => refuseSource why
  | .ok trail =>
    match files.find? trail with
    | none => refuseSource .notFound
    | some entry =>
      let targetPath := if entry.isFolder then withoutEnd target else target
      match ← Step.resolve false targetPath with
      | .error why => refuseMove why
      | .ok place => do
        let before := files.find? place
        let isSame := before.isSome && files.nodeAt? trail = files.nodeAt? place
        if trail = place then
          fail "mv" 1 (quoted source ++ " and " ++ quoted target ++ " are the same file")
        else if trail.isEmpty || place.isEmpty then refuseMove .busy
        else if ["." , ".."].contains (lastName source) then refuseMove .busy
        else
          match before, entry.isFolder with
          | some (.folder _), false =>
            fail "mv" 1 ("cannot overwrite directory " ++ quoted target ++ " with non-directory")
          | some other, true =>
            if !other.isFolder then
              fail "mv" 1 ("cannot overwrite non-directory " ++ quoted target ++ " with directory "
                ++ quoted source)
            else if Files.isBelow trail place then refuseInside
            else if (files.names place).isEmpty then
              Step.setFiles (files.move trail place)
              tell none
            else
              fail "mv" 1 ("cannot overwrite " ++ quoted target ++ ": " ++ Refusal.notEmpty.reason)
          | _, _ =>
            if Files.isBelow trail place then refuseInside
            else
              match files.checkPlace place with
              | .error why => refuseMove why
              | .ok () =>
                if target.endsWith "/" && !entry.isFolder then refuseMove .notFolder
                else if before.isNone then
                  Step.setFiles (files.move trail place)
                  tell none
                else replace files trail place isSame tell
where
  /-- Complain that a folder cannot be moved into itself. -/
  refuseInside : Step Nat :=
    fail "mv" 1 ("cannot move " ++ quoted source ++ " to a subdirectory of itself, "
      ++ quoted target)
  /-- Move a file to where another one is. -/
  replace (files : Files) (trail place : Trail) (isSame : Bool)
      (tell : Option String → Step Nat) : Step Nat := do
    let isOld := (files.changed? trail).getD 0 ≤ (files.changed? place).getD 0
    if options.updating = .none || (options.updating = .older && isOld) then return 0
    else
      match options.overwriting with
      | .never => fail "mv" 1 ("not replacing " ++ quoted target)
      | .asked => do
        if ← Step.confirm ((← calledName "mv") ++ ": overwrite " ++ quoted target ++ "? ") then
          carryOut files trail place isSame tell
        else return 1
      | .always => carryOut files trail place isSame tell
  /-- Move a file to where another one is, which is kept if that is asked for. -/
  carryOut (files : Files) (trail place : Trail) (isSame : Bool)
      (tell : Option String → Step Nat) : Step Nat := do
    if isSame then
      Step.setFiles (files.remove trail)
      tell none
    else
      let backup ← options.keeping.bindM fun (keeping : Keeping) => keeping.keep target
      Step.modifyFiles (·.move trail place)
      tell backup

/-- Move files. -/
def mv : Tool := fun _ arguments =>
  withOptions "mv" 1
    { flags := "bfinuvTZQDX", valued := "tS", perhaps := "BU", long := [("backup", 'B'),
      ("context", 'Z'), ("debug", 'D'), ("force", 'f'), ("interactive", 'i'), ("no-clobber", 'n'),
      ("no-copy", 'X'), ("no-target-directory", 'T'), ("strip-trailing-slashes", 'Q'),
      ("suffix", 'S'), ("target-directory", 't'), ("update", 'U'), ("verbose", 'v')] } arguments
    fun options => do
    let control? := (← Step.process).value? "VERSION_CONTROL"
    let updating : Except String Updating :=
      match options.value? 'U' with
      | some "" => .ok .older
      | some value => chooseNamed "--update" updateNames value
      | none => .ok (if options.has 'u' then .older else .all)
    match Keeping.ofOptions options control?, updating with
    | .error why, _ => misuse "mv" 1 why
    | _, .error why => misuse "mv" 1 why
    | .ok keeping, .ok updating => do
      let plan : MoveOptions :=
        { overwriting := match options.lastOf? ['f', 'i', 'n'] with
            | some 'i' => .asked
            | some 'n' => .never
            | _ => .always
          updating, isVerbose := options.has 'v', keeping }
      let operands := if options.has 'Q' then options.operands.map withoutEnd else options.operands
      let words : TargetWords :=
        { folder := options.value? 't', isPlain := options.has 'T', operands }
      if keeping.isSome && plan.overwriting = .never then
        misuse "mv" 1 "options --backup and --no-clobber are mutually exclusive"
      else
        match ← words.pairs "mv" with
        | .error code => return code
        | .ok pairs => do
          let codes ← pairs.mapM fun (source, target) => movePath plan source target
          return codes.foldl max 0

end Metamorph.Sandbox.Tool
