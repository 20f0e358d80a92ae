import Metamorph.Sandbox.Shell.Invocation
import Metamorph.Sandbox.Shell.Statement

/-! # Launching programs

A program is found by its name and runs with streams, a folder and an environment of its own.
Shells read their scripts from an argument, a file or the input; a file that may be run names
its interpreter on its first line, and without one it is a script for the plain shell. -/

namespace Metamorph.Sandbox

namespace Shell

/-- What a program begins with of what the one had that started it. -/
def begun (name : String) (process : Process) : Process :=
  let ignored := process.traps.filterMap fun (signal, action) =>
    if action.isEmpty then some signal else none
  { id := process.id, parent := process.parent, group := process.group, name
    folder := pathOf process.trail, trail := process.trail
    streams := process.streams.filter fun entry => entry.1 < Step.firstHidden
    mask := process.mask, niceness := process.niceness, limits := process.limits
    worked := process.worked, deaf := process.deaf ++ ignored
    bindings := process.environment.reverse.map fun (name, value) =>
      (name, { value := some value, exported := true }) }

/-- How programs tell that they could not write their output, where they do not do it in the usual
way: the exit code, and the words in front of the reason and behind it, if it is told at all. -/
def outputComplaints : List (String × Nat × Option (String × String)) :=
  [("ls", 2, some ("write error: ", "")), ("grep", 2, some ("write error: ", "")),
    ("egrep", 2, some ("write error: ", "")), ("fgrep", 2, some ("write error: ", "")),
    ("printenv", 2, some ("write error: ", "")), ("expr", 3, some ("write error: ", "")),
    ("env", 125, some ("write error: ", "")), ("nice", 125, some ("write error: ", "")),
    ("sed", 4, some ("couldn't flush stdout: ", "")),
    ("awk", 2, some ("close failed on file \"/dev/stdout\" (", ")")),
    ("mawk", 2, some ("close failed on file \"/dev/stdout\" (", ")")),
    ("wc", 1, none), ("du", 1, none), ("md5sum", 1, none), ("yes", 1, some ("standard output: ", "")),
    ("tee", 1, some ("'standard output': ", "")),
    ("sort", 2, some ("fflush failed: 'standard output': ", "")),
    ("cmp", 2, some ("standard output: ", "")), ("diff", 2, some ("standard output: ", ""))]

/-- Tell why a program could not write its output, if that is so. -/
def tellFailure (name : String) : Step Unit := do
  match (← Step.process).failure with
  | none => pure ()
  | some why => do
    let (code, words?) := (outputComplaints.lookup name).getD (1, some ("write error: ", ""))
    match words? with
    | some (front, back) => Step.complain (name ++ ": " ++ front ++ why.reason ++ back)
    | none => Step.complain (name ++ ": write error")
    if name = "sort" then Step.complain "sort: write error"
    Step.modifyProcess fun process => { process with failure := none }
    Step.setStatus code

/-- Go on without end where only a part was read of an input that has no end: the program is killed
when nobody reads its output any more. -/
def goOn : Step Unit := do
  match ← Step.openingOf? 1 with
  | none => Step.workForever
  | some number =>
    match ((← get).world.opening number).target with
    | .pipe _ => do
      Step.await { deserted := some number }
      modify (·.receive 13)
    | _ => Step.workForever

/-- Run a tool as a program of its own. -/
def asProgram (name : String) (tool : Step Nat) : Step Unit := do
  Step.modifyProcess (begun name)
  Step.setStatus (← tool)
  if (← Step.process).isCut then goOn
  if !(← Step.isKilled) then
    settle
    tellFailure name

/-- The variables that a shell starts with. -/
def startVariables (process : Process) : Process :=
  let process := { process with bindings := process.bindings.filter fun entry => entry.1 ≠ "IFS" }
  let set (process : Process) (name value : String) : Process :=
    process.update name fun entry => { entry with value := some value }
  let usual (process : Process) (name value : String) : Process :=
    if (process.value? name).isSome then process else set process name value
  let process := set (set process "IFS" " \t\n") "OPTIND" "1"
  let process := usual (usual process "PS4" "+ ") "PATH" usualPath
  match process.dialect with
  | .plain =>
    let process := usual (usual process "PS1" "# ") "PS2" "> "
    (set process "PPID" (toString process.parent)).exportValue "PWD" process.folder
  | .rich => set process "PWD" process.folder

/-- The path of the working folder by the names that it was gone to, if the shell is told one. -/
def toldFolder : Step Unit := do
  let process ← Step.process
  match process.value? "PWD" with
  | some path => do
    let files ← Step.files
    if path.startsWith "/" then
      match files.resolve true process.trail path with
      | .ok trail =>
        if trail = process.trail then
          Step.modifyProcess fun process => { process with folder := path }
      | .error _ => pure ()
  | none => pure ()

/-- Complain that the file with the script cannot be read. -/
def refuseScript (path : String) (why : Refusal) : Step Unit := do
  let process ← Step.process
  match process.dialect with
  | .plain => do
    let reason := if why = .notFound || why = .notFolder then "No such file" else why.reason
    Step.complain (process.name ++ ": 0: cannot open " ++ path ++ ": " ++ reason)
    Step.setStatus 2
  | .rich => do
    let name := if why = .isFolder then path else process.name
    Step.complain (name ++ ": " ++ path ++ ": " ++ why.reason)
    Step.setStatus (if why = .notFound then 127 else 126)

/-- The text of a script. -/
def scriptText : ScriptPlace → Step (Except Refusal (List Char))
  | .argument text => return .ok text.toList
  | .file path => do
    match ← Step.entry? true path with
    | some (.folder _) => if ← isRich then return .error .isFolder else return .ok []
    | _ => Step.readFile path
  | .input => do return .ok (← Step.readAll 0)

/-- The options that a shell has without being told. -/
def ownOptions (dialect : Dialect) (call : ShellCall) : List String :=
  let source :=
    match call.place with
    | .argument _ => if dialect = .rich then ["c"] else []
    | .input => ["s"]
    | .file _ => []
  (if dialect = .rich then ["h", "B", "interactive-comments"] ++ usualBehaviours else []) ++ source

/-- Run a shell with its arguments. -/
def runShell (engine : Engine) (dialect : Dialect) (name : String) (words : List String) :
    Step Unit := do
  Step.modifyProcess (begun name)
  toldFolder
  Step.modifyProcess fun process => startVariables { process with dialect, isShell := true }
  Step.setStatus 0
  match ShellCall.read dialect words with
  | .error fault => refuseCall fault
  | .ok call => do
    match call.place, ← scriptText call.place with
    | .file path, .error why => refuseScript path why
    | _, .error _ => pure ()
    | place, .ok text => do
      let given := call.options
      call.shows.forM showFirstSettings
      Step.modifyProcess fun process =>
        { process with
          options := given ++ (ownOptions dialect call).filter (!given.contains ·)
          arguments := call.arguments, name := call.name?.getD process.name }
      let isArgument := match place with | .argument _ => true | _ => false
      -- The rich shell makes way for the last program of an argument.
      engine.asWhole
        (engine.runText (if isArgument then "-c: " else "")
          { isLast := isArgument && dialect = .rich } text)

/-- The interpreter that the first line of a file names, with an argument for it. -/
def interpreterOf? (text : List Char) : Option (List String) :=
  match text with
  | '#' :: '!' :: rest =>
    let line := (rest.takeWhile (· ≠ '\n')).dropWhile isBlank
    let name := line.takeWhile (!isBlank ·)
    let argument := (((line.drop name.length).dropWhile isBlank).reverse.dropWhile isSpace).reverse
    if name.isEmpty then none
    else some (String.ofList name :: if argument.isEmpty then [] else [String.ofList argument])
  | _ => none

/-- Show where programs are found. -/
def showPlaces (words : List String) : Step Unit := do
  let names := words.filter fun word => !word.startsWith "-"
  Step.setStatus (if names.isEmpty then 1 else 0)
  names.forM fun name => do
    let (path, found) ← locateProgram name
    if found.isRunnable then Step.out (path ++ "\n") else Step.setStatus 1

/-- Whether a file without an interpreter can be a script. -/
def isScript (text : List Char) : Bool :=
  !(((text.take 256).takeWhile (· ≠ '\n')).contains (Char.ofNat 0))

/-- What a program with its arguments does in the place of the one that runs, if it can be
found. -/
def launch (engine : Engine) (words : List String) : Step (Except Refusal (Step Unit)) := do
  let name := words.headD ""
  let arguments := words.drop 1
  let (path, found) ← locateProgram name
  match found with
  | .missing => return .error .notFound
  | .denied => return .error .denied
  | .tool tool => return .ok (asProgram name (tool engine.runProgram arguments))
  | .shell dialect => return .ok (runShell engine dialect name arguments)
  | .finder =>
    return .ok (asProgram name do
      showPlaces arguments
      return (← get).status)
  | .file trail =>
    match (← Step.files).read trail with
    | .error why => return .error why
    | .ok bytes =>
      let text := Text.ofOctets bytes
      match interpreterOf? text with
      | some interpreter => engine.runProgram (interpreter ++ path :: arguments)
      | none =>
        if isScript text then return .ok (runShell engine .plain "sh" (path :: arguments))
        else return .error .noProgram

/-- A shell that runs what is nested at most so deep; a script that goes deeper breaks it. -/
def engine : Nat → Engine
  | 0 =>
    { runScript := fun _ _ => Step.setFlow (.killed 11)
      runProgram := fun _ => return .ok (Step.setFlow (.killed 11)) }
  | depth + 1 =>
    { runScript := fun standing script => (engine depth).runStatements standing script
      runProgram := fun words => launch (engine depth) words }

end Shell

end Metamorph.Sandbox
