import Metamorph.Sandbox.Shell.Builtin.Options
import Metamorph.Sandbox.Shell.Builtin.Control
import Metamorph.Sandbox.Shell.Builtin.Surroundings
import Metamorph.Sandbox.Shell.Builtin.Text
import Metamorph.Sandbox.Programs

/-! # Names of commands

The builtin commands by their names, and what else a name may mean. -/

namespace Metamorph.Sandbox.Shell

/-! ## Builtin commands

The builtin commands of the shell that run no other program, by their names. -/

/-- Do nothing, successfully. -/
def succeed (_ : List String) : Step Unit :=
  Step.setStatus 0

/-- Show a fixed text. -/
def showFixed (text : String) (_ : List String) : Step Unit := do
  Step.out text
  Step.setStatus 0

/-- The builtin commands that both dialects have. -/
def plainBuiltins : List (String × (List String → Step Unit)) :=
  [(":", succeed), ("true", succeed), ("false", fun _ => Step.setStatus 1), ("cd", changeFolder),
    ("pwd", showFolder), ("export", exportVariables), ("readonly", fixVariables), ("unset", unset),
    ("set", set), ("local", makeLocal), ("shift", shift), ("break", leaveLoop .afterLoop),
    ("continue", leaveLoop .nextTurn), ("exit", exit), ("return", returnFrom),
    ("read", readVariables), ("trap", trap), ("kill", kill), ("wait", wait), ("alias", aliases),
    ("unalias", unalias), ("printf", printf), ("echo", echo), ("test", test), ("[", bracket),
    ("umask", maskRights), ("getopts", getOption), ("ulimit", limitUse),
    ("times", showFixed "0m0.000000s 0m0.000000s\n0m0.000000s 0m0.000000s\n"),
    ("jobs", showJobs), ("bg", refuseJob), ("fg", refuseJob)]

/-- The builtin commands of the rich dialect only. -/
def richBuiltins : List (String × (List String → Step Unit)) :=
  [("declare", declareWith), ("typeset", declareWith), ("shopt", changeBehaviours),
    ("mapfile", readLines), ("readarray", readLines), ("let", evaluateWords),
    ("disown", succeed)]

/-- The builtin commands of a dialect that need no other program. -/
def builtinsOf : Dialect → List (String × (List String → Step Unit))
  | .plain => ("chdir", changeFolder) :: plainBuiltins
  | .rich => plainBuiltins ++ richBuiltins

/-! ## What names mean as commands

A name may be that of a keyword, of a command that the script has defined, of a builtin command,
or of a program. Where programs were found is kept, and can be shown. -/

/-- The builtin commands that run scripts or programs, or look for them. -/
def runningBuiltinsOf : Dialect → List String
  | .plain => [".", "command", "eval", "exec", "hash", "type"]
  | .rich => [".", "source", "command", "builtin", "eval", "exec", "hash", "type"]

/-- Whether a name is that of a builtin command. -/
def isBuiltin (dialect : Dialect) (name : String) : Bool :=
  (runningBuiltinsOf dialect).contains name || ((builtinsOf dialect).lookup name).isSome

/-- Keep where a program was found. -/
def keepLocated (name path : String) : Step Unit :=
  Step.modifyProcess fun process =>
    if name.contains '/' || (process.located.lookup name).isSome then process
    else { process with located := process.located ++ [(name, path)] }

/-- Forget where programs were found. -/
def forgetLocated (names : List String) : Step Unit :=
  Step.modifyProcess fun process =>
    { process with located := process.located.filter fun entry => !names.contains entry.1 }

/-- Look for a program, in the usual folders if that is asked for. -/
def lookFor (usual : Bool) (name : String) : Step (String × Found) := do
  let process ← Step.process
  if name.contains '/' then
    let isThere := (← Step.entry? true name).isSome
    let (path, found) ← locateProgram name
    return (path, if isThere && process.dialect = .plain then .finder else found)
  else if usual then return findProgram (← Step.files) process.trail usualPath name
  else
    let (path, found) ← locateProgram name
    if found.isRunnable then keepLocated name path
    return (path, found)

/-- Tell what a name means as a command, in many words or in few. -/
def explain (usual verbose : Bool) (name : String) : Step Nat := do
  let process ← Step.process
  let rich := process.dialect = .rich
  let say (words few : String) : Step Nat := do
    Step.out ((if verbose then name ++ words else few) ++ "\n")
    return 0
  let known := if rich then keywords ++ richKeywords else keywords
  if known.contains name then say " is a shell keyword" name
  else
    match process.aliases.lookup name with
    | some value =>
      say (if rich then " is aliased to " ++ String.ofList [backquote] ++ value ++ "'"
        else " is an alias for " ++ value) ("alias " ++ name ++ "=" ++ quotedValue value)
    | none =>
      if (process.functions.lookup name).isSome then
        say (if rich then " is a function" else " is a shell function") name
      else if isBuiltin process.dialect name then
        if !rich && specialBuiltins.contains name then say " is a special shell builtin" name
        else say " is a shell builtin" name
      else
        let tracked := (process.located.lookup name).isSome
        let (path, found) ← lookFor usual name
        if found.isRunnable then
          say (if !tracked then " is " ++ path
            else if rich then " is hashed (" ++ path ++ ")"
            else " is a tracked alias for " ++ path) path
        else
          match process.dialect, verbose with
          | .plain, true => do
            Step.out (name ++ ": not found\n")
            return 127
          | .plain, false => return 127
          | .rich, true => do
            warn (name ++ ": not found")
            return 1
          | .rich, false => return 1

/-- Tell what names mean as commands. The code is that of the last failure. -/
def explainAll (verbose : Bool) (names : List String) : Step Unit := do
  Step.setStatus 0
  names.forM fun name => do
    let code ← explain false verbose name
    if code ≠ 0 then Step.setStatus code

/-- Tell what names mean as commands. -/
def explainNames (words : List String) : Step Unit := do
  let rich ← isRich
  withLetters (if rich then "aftpP" else "") words fun options names => do
    if options.any fun option => option.1 = 't' then
      Step.setStatus 0
      names.forM kindOf
    else explainAll (!(options.any fun option => ['p', 'P'].contains option.1)) names
where
  /-- Tell of what kind a command is. -/
  kindOf (name : String) : Step Unit := do
    let process ← Step.process
    if (keywords ++ richKeywords).contains name then Step.out "keyword\n"
    else if (process.functions.lookup name).isSome then Step.out "function\n"
    else if isBuiltin process.dialect name then Step.out "builtin\n"
    else
      let (_, found) ← locateProgram name
      if found.isRunnable then Step.out "file\n" else Step.setStatus 1

/-- Look for programs and keep where they are, or show where programs were found. -/
def locateNames (words : List String) : Step Unit :=
  withLetters "r" words fun options names => do
    let process ← Step.process
    let rich := process.dialect = .rich
    Step.setStatus 0
    if !options.isEmpty then forgetLocated (process.located.map (·.1))
    if names.isEmpty then
      if options.isEmpty then
        if rich then
          if process.located.isEmpty then Step.complain "hash: hash table empty"
        else
          (Process.byPlace 31 process.located).forM fun entry => Step.out (entry.2 ++ "\n")
    else
      forgetLocated names
      names.forM fun name => do
        if !isBuiltin process.dialect name && (process.functions.lookup name).isNone then
          let (_, found) ← lookFor false name
          if !found.isRunnable then
            warn (name ++ ": not found")
            Step.setStatus 1

end Metamorph.Sandbox.Shell
