import Metamorph.Sandbox.Shell.Expansion
import Metamorph.Sandbox.Shell.Builtin
import Metamorph.Sandbox.Shell.State

/-! # Calling commands

A simple command is expanded, its streams are redirected, its assignments are carried out, and
then it is called: it is part of the shell, a command that the script has defined, or a program.
The commands of the shell that run scripts or programs themselves are here, too. -/

namespace Metamorph.Sandbox.Shell

/-- Leave the script when a statement has failed whose failure nobody asks for. -/
def checkStrict (standing : Standing) : Step Unit := do
  let run ← get
  if run.flow = .going && run.status ≠ 0 && run.process.options.contains "e" && !standing.tested then
    Step.setFlow (.leaving run.status)

/-- Do something in the name of a builtin command. -/
def inNameOf (name : Option String) (step : Step Unit) : Step Unit := do
  let before := (← Step.process).builtin
  Step.modifyProcess fun process => { process with builtin := name }
  step
  Step.modifyProcess fun process => { process with builtin := before }

/-- A word as the rich shell shows it, so that it could be read again. -/
def shownWord (word : String) : String :=
  let plain (c : Char) : Bool :=
    c.isAlphanum || ['_', '-', '.', '/', ':', '=', '+', ',', '@', '%', '^', '\x7b', '\x7d'].contains c
  if word.isEmpty then "''"
  else if word.toList.all plain then word
  else "'" ++ "'\\''".intercalate (word.splitOn "'") ++ "'"

/-- A command without what only says how it is looked for. -/
structure Called where
  /-- Whether it is no command of the script, and its failure does not end the script. -/
  plainly : Bool := false
  /-- Whether it is looked for in the usual folders. -/
  usual : Bool := false
  words : List String

namespace Called

/-- Whether a word has options of which all only say how a command is looked for. -/
def isUsual (word : String) : Bool :=
  match word.toList with
  | '-' :: c :: rest => (c :: rest).all (· = 'p')
  | _ => false

/-- Read the words of a command. The fuel bounds them. -/
def ofWords (dialect : Dialect) (hasFunction : String → Bool) : Nat → Called → Called
  | 0, called => called
  | fuel + 1, called =>
    match called.words with
    | name :: rest =>
      if name ≠ "command" && !(name = "builtin" && dialect = .rich) then called
      else if !called.plainly && hasFunction name then called
      else
        let options := rest.takeWhile isUsual
        let usual := called.usual || !options.isEmpty
        match rest.drop options.length with
        | "--" :: name :: rest =>
          ofWords dialect hasFunction fuel { plainly := true, usual, words := name :: rest }
        | word :: rest =>
          if word.startsWith "-" && word ≠ "-" then called
          else ofWords dialect hasFunction fuel { plainly := true, usual, words := word :: rest }
        | [] => called
    | [] => called

end Called

namespace Engine

/-- The file or stream that a redirection names, if what the word expands to is one. -/
def targetOf (engine : Engine) (mode : RedirectMode) (word : Word) : Step (Option String) := do
  if (← isRich) && mode ≠ .copy then
    match ← engine.expandFields word with
    | [target] => return some target
    | _ => do
      if ← Step.isGoing then
        warn (String.ofList ((unquoted word).1) ++ ": ambiguous redirect")
        Step.setStatus 1
      return none
  else return some (String.ofList (← engine.expandText word))

/-- Expand a text that a stream is led to. In the plain dialect a failure of that is a failure of
the redirection alone. -/
def textFor (engine : Engine) (number : Nat) : Step (Option (List Char)) := do
  let word := ((← Step.process).texts.lookup number).getD []
  let text ← word.mapM (engine.expandPiece wordDepth false)
  match (← get).flow with
  | .going => return some (Glyph.text text.flatten)
  | .broken _ => do
    if (← Step.process).dialect = .plain then Step.setFlow .going
    return none
  | _ => return none

/-- Lead a stream where a redirection says, whose target may have been found before. -/
def redirectTo (engine : Engine) (first : Redirect) (target? : Option String) : Step Bool := do
  match first with
  | .file stream mode word => do
    let target? ← if target?.isSome then pure target? else engine.targetOf mode word
    match target? with
    | some target => if ← Step.isGoing then redirect stream mode target else return false
    | none => return false
  | .text stream number => do
    match ← engine.textFor number with
    | some text => do
      Step.setStream stream (some (← Step.openText text))
      return true
    | none => return false
  | .word stream word => do
    let text ← engine.expandText word
    Step.setStream stream (some (← Step.openText (text ++ ['\n'])))
    return true

/-- Lead streams where redirections say, and tell whether all of that was possible. In the plain
dialect all targets are found before the first one is opened. -/
def redirectAll (engine : Engine) (redirects : List Redirect) : Step Bool := do
  let targets : List (Redirect × Option String) ←
    if ← isRich then pure (redirects.map fun first => (first, none))
    else redirects.mapM fun first => do
      match first with
      | .file _ mode word =>
        if ← Step.isGoing then return (first, ← engine.targetOf mode word) else return (first, none)
      | _ => return (first, none)
  go targets
where
  /-- Carry out redirections as long as they are possible. -/
  go : List (Redirect × Option String) → Step Bool
    | [] => return true
    | (first, target?) :: rest => do
      if !(← Step.isGoing) then return false
      let done ← engine.redirectTo first target?
      if done && (← Step.isGoing) then go rest else return false

/-- Complain that a program cannot be run, and set the exit code. -/
def lackProgram (name : String) (why : Refusal) : Step Unit := do
  let isPath := name.contains '/'
  let isMissing := why = .notFound || why = .notFolder
  match (← Step.process).dialect with
  | .plain => do
    let reason := if name.isEmpty then Refusal.denied.reason
      else if isMissing then "not found" else why.reason
    warn (name ++ ": " ++ reason)
    let isUnknown := isMissing || !isPath || why = .nameTooLong || why = .tooManyLinks
    Step.setStatus (if isUnknown then 127 else 126)
  | .rich => do
    let isFolder ← do
      match ← Step.entry? true name with
      | some (.folder _) => pure isPath
      | _ => pure false
    let reason :=
      if isFolder then Refusal.isFolder.reason
      else if isMissing && !isPath then "command not found" else why.reason
    inNameOf none (warn (name ++ ": " ++ reason))
    Step.setStatus (if isMissing then 127 else 126)

/-- Let a program take the place of the shell. -/
def become (engine : Engine) (words : List String) : Step Unit := do
  match ← engine.runProgram words with
  | .ok body => body
  | .error why => lackProgram (words.headD "") why
  if ← Step.isGoing then Step.setFlow (.leaving (← get).status)

/-- Set the exit code that tells how a program has ended, and tell of it if it was killed. -/
def setEnding (status : Status) : Step Unit :=
  Step.setStatus (codeOf status)

/-- Run a program by its name and tell when it cannot be run or was killed. The last one of all
takes the place of the shell. -/
def callProgram (engine : Engine) (standing : Standing) (usual : Bool) (words : List String) :
    Step Unit := do
  let name := words.headD ""
  let process ← Step.process
  if !name.contains '/' then
    let (path, found) ← locateProgram name
    if found.isRunnable then keepLocated name path
  let before := process.value? "PATH"
  if usual then Step.modifyProcess (·.assign "PATH" usualPath)
  if standing.isLast && !process.hasTraps then engine.become words
  else
    match ← engine.runProgram words with
    | .error why => lackProgram name why
    | .ok body => do
      let _ ← claimNumber
      let id ← Step.start Runner.startTime (fun process => process) body
      let status := (← awaitJob [id]).getLastD (.exited 0)
      match if process.dialect = .rich then fatalWords? status else none with
      | some words => Step.complain words
      | none => pure ()
      setEnding status
  match usual, before with
  | true, some path => Step.modifyProcess (·.assign "PATH" path)
  | true, none => unsetVariable "PATH"
  | false, _ => pure ()

/-- What variables were before a command of the script has made them its own. -/
def restored (process : Process) : Process :=
  let frame := process.saved.headD []
  let bindings := frame.foldl (fun bindings (name, entry?) =>
    let others := bindings.filter fun entry => entry.1 ≠ name
    match entry? with
    | some entry => if name = "-" then bindings else (name, entry) :: others
    | none => others) process.bindings
  let options :=
    match frame.lookup "-" with
    | some (some entry) => ((entry.value.getD "").splitOn " ").filter (· ≠ "")
    | _ => process.options
  { process with bindings, options, saved := process.saved.drop 1 }

/-- Call a command that the script has defined. What it made its own is as before afterwards. -/
def callFunction (engine : Engine) (standing : Standing) (body : Statement)
    (arguments : List String) : Step Unit := do
  let before ← Step.process
  Step.modifyProcess fun process =>
    { process with
      arguments := arguments, depth := process.depth + 1, loops := 0
      optionPlace := if process.dialect = .plain then 0 else process.optionPlace, optionIndex := 1
      saved := [] :: process.saved }
  engine.runScript { tested := standing.tested } [body]
  modify fun run =>
    { run with
      flow := if run.flow = .afterCommand then .going else run.flow
      process :=
        { restored run.process with
          arguments := before.arguments, optionIndex := before.optionIndex
          optionPlace :=
            if before.dialect = .plain then before.optionPlace else run.process.optionPlace
          depth := before.depth, loops := before.loops } }

/-- Run the words of a command line as a script. -/
def evaluateScript (engine : Engine) (standing : Standing) (words : List String) : Step Unit := do
  Step.setStatus 0
  let text := (" ".intercalate words).toList
  let standing : Standing := { tested := standing.tested }
  if ← isRich then inNameOf none (engine.runText "eval: " standing text)
  else engine.runText "" standing text

/-- The file that a name of a script leads to, with its text, or why there is none. -/
def findSource (name : String) : Step (Except Refusal (String × List Char)) := do
  let process ← Step.process
  let rich := process.dialect = .rich
  let places := (process.searchPath.splitOn ":").map fun place =>
    if place.isEmpty then name else place ++ "/" ++ name
  let candidates :=
    if name.contains '/' then [name] else if rich then places ++ [name] else places
  let isFile (path : String) : Step Bool := do
    match ← Step.entry? true path with
    | some (.folder _) => return name.contains '/'
    | some _ => return true
    | none => return false
  let found ← candidates.filterM isFile
  match found with
  | [] => return .error .notFound
  | path :: _ =>
    match ← Step.readFile path with
    | .ok text => return .ok (path, text)
    | .error why => return .error why

/-- Run the text of a file as a part of the script. -/
def source (engine : Engine) (words : List String) : Step Unit := do
  let rich ← isRich
  let words := if words.head? = some "--" then words.drop 1 else words
  match words with
  | [] => if rich then failBuiltin 2 "filename argument required" else Step.setStatus 0
  | name :: arguments => do
    match ← findSource name with
    | .error why =>
      if rich then
        inNameOf none (warn (name ++ ": " ++ why.reason))
        Step.setStatus 1
      else if name.contains '/' then
        let isMissing := why = .notFound || why = .notFolder
        failBuiltin 2 ("cannot open " ++ name ++ ": "
          ++ if isMissing then "No such file" else why.reason)
      else failBuiltin 2 (name ++ ": not found")
    | .ok (path, text) => do
      Step.setStatus 0
      let process ← Step.process
      let replaces := rich && !arguments.isEmpty
      Step.modifyProcess fun process =>
        { process with
          depth := process.depth + 1
          arguments := if replaces then arguments else process.arguments }
      inNameOf (if rich then none else some path) (engine.runText "" {} text)
      modify fun run =>
        { run with
          flow := if run.flow = .afterCommand then .going else run.flow
          process :=
            { run.process with
              depth := process.depth
              arguments := if replaces then process.arguments else run.process.arguments } }

/-- Let a program take the place of the shell, if words name one. -/
def replaceBy (engine : Engine) (words : List String) : Step Unit := do
  let rich ← isRich
  let words := if rich && words.head? = some "--" then words.drop 1 else words
  if words.isEmpty then Step.setStatus 0 else engine.become words

/-- Tell of a builtin command that could not write its output. -/
def checkOutput (name : String) : Step Unit := do
  match (← Step.process).failure with
  | none => pure ()
  | some why => do
    Step.modifyProcess fun process => { process with failure := none }
    if ← Step.isGoing then
      if ← isRich then warn ("write error: " ++ why.reason)
      else warn (name ++ ": I/O error")
      Step.setStatus 1

/-- Tell what the first of some names means, or complain of the way a command was called. -/
def describe (words : List String) : Step Unit :=
  withLetters "pvV" words fun options names => do
    let has (letter : Char) : Bool := options.any fun option => option.1 = letter
    Step.setStatus 0
    if has 'v' || has 'V' then
      if ← isRich then explainAll (has 'V') names
      else
        match names with
        | name :: _ => Step.setStatus (← explain (has 'p') (has 'V') name)
        | [] => pure ()

/-- Call a command that is part of the shell. -/
def callBuiltin (engine : Engine) (standing : Standing) (name : String) (arguments : List String) :
    Step Unit := inNameOf (some name) do
  match name with
  | "eval" => engine.evaluateScript standing arguments
  | "." => engine.source arguments
  | "source" => engine.source arguments
  | "exec" => engine.replaceBy arguments
  | "command" => describe arguments
  | "builtin" => Step.setStatus 1
  | "type" => explainNames arguments
  | "hash" => locateNames arguments
  | _ =>
    match (builtinsOf (← Step.process).dialect).lookup name with
    | some run => run arguments
    | none => pure ()
  checkOutput name

/-- Show what is run, if the shell was told to. -/
def trace (engine : Engine) (errors? : Option Nat) (assignments : List (String × String))
    (words : List String) : Step Unit := do
  if ← hasOption "x" then
    let process ← Step.process
    let mark ← engine.expandLoose ((process.value? "PS4").getD "")
    let rich := process.dialect = .rich
    let shown (word : String) : String := if rich then shownWord word else word
    let assigned := assignments.map fun (name, value) =>
      name ++ "=" ++ (if rich && value.isEmpty then "" else shown value)
    let lines := if rich then assigned.map (fun text => [text]) ++ [words.map shown]
      else [assigned ++ words]
    (lines.filter (!·.isEmpty)).forM fun line => do
      match errors? with
      | some number =>
        let _ ← Step.put number (mark ++ " ".intercalate line ++ "\n").toList
      | none => pure ()

/-- Carry out assignments one after the other. -/
def assignAll (engine : Engine) : List (String × Word) → Step Unit
  | [] => pure ()
  | (name, value) :: rest => do
    if ← Step.isGoing then engine.assign name value
    assignAll engine rest

/-- The values of variables that were assigned to. -/
def assignedValues (assignments : List (String × Word)) : Step (List (String × String)) := do
  let run ← get
  return assignments.map fun (name, _) =>
    let name := if name.endsWith "+" then (name.dropEnd 1).toString else name
    (name, (parameter? run name).getD "")

/-- The failure of a command that is no part of the language ends it alone. -/
def catchFailure : Step Unit :=
  modify fun run =>
    match run.flow with
    | .broken _ => { run with flow := .going }
    | _ => run

/-- Call a command by its words, with assignments for it alone; those for a builtin command that
is part of the plain language stay. -/
def call (engine : Engine) (standing : Standing) (errors : Option Nat)
    (assignments : List (String × Word)) (words : List String) : Step Unit := do
  let before ← Step.process
  let dialect := before.dialect
  let called := Called.ofWords dialect (fun name => (before.functions.lookup name).isSome)
    (words.length + 1) { words }
  let name := called.words.headD ""
  let function? := if called.plainly then none else before.functions.lookup name
  let isSpecial := dialect = .plain && !called.plainly && function?.isNone
    && specialBuiltins.contains name
  engine.assignAll assignments
  if ← Step.isGoing then
    let assigned ← assignedValues assignments
    engine.trace errors assigned words
    if !isSpecial || name = "exec" then
      assigned.forM fun (target, _) =>
        Step.modifyProcess fun process => process.update target fun entry =>
          { entry with exported := true }
    match function? with
    | some body => engine.callFunction standing body (called.words.drop 1)
    | none =>
      if isBuiltin dialect name then
        engine.callBuiltin standing name (called.words.drop 1)
        if !isSpecial && dialect = .plain then catchFailure
      else engine.callProgram standing called.usual called.words
    if !isSpecial then
      assigned.forM fun (target, _) =>
        Step.modifyProcess fun process =>
          let others := process.bindings.filter fun entry => entry.1 ≠ target
          match before.bindings.lookup target with
          | some entry => { process with bindings := (target, entry) :: others }
          | none => { process with bindings := others }

/-- The commands whose arguments may be assignments. -/
def declaringCommands : Dialect → List String
  | .plain => ["export", "readonly", "local", "alias"]
  | .rich => ["export", "readonly", "local", "declare", "typeset"]

/-- Expand the words of a command, of which some were expanded before. -/
def expandCommand (engine : Engine) : List String → List Word → Step (List String)
  | done, [] => return done
  | done, word :: rest => do
    let process ← Step.process
    let hasFunction (name : String) : Bool := (process.functions.lookup name).isSome
    let called := Called.ofWords process.dialect hasFunction (done.length + 1) { words := done }
    let declares := called.words.head?.any fun name =>
      (declaringCommands process.dialect).contains name && !hasFunction name
    let fields ← if declares then engine.expandAssignment word else engine.expandFields word
    if ← Step.isGoing then expandCommand engine (done ++ fields) rest else return done ++ fields

/-- Whether what redirections of a command do is to stay. -/
def keepsStreams (words : List String) : Step Bool := do
  let process ← Step.process
  let called := Called.ofWords process.dialect (fun name => (process.functions.lookup name).isSome)
    (words.length + 1) { words }
  return called.words.head? = some "exec"

/-- Run a simple command. -/
def runSimple (engine : Engine) (standing : Standing) (line : Nat)
    (assignments : List (String × Word)) (words : List Word) (redirects : List Redirect) :
    Step Unit := do
  Step.modifyProcess fun process => { process with line := line, outputStatus := none }
  let before ← Step.process
  let errors := before.streams.lookup 2
  let names ← engine.expandCommand [] words
  if ← Step.isGoing then
    let body : Step Unit := do
      let opened ← engine.redirectAll redirects
      if ← Step.isGoing then
        match opened, names with
        | false, name :: _ =>
          if before.dialect = .plain && specialBuiltins.contains name then
            Step.setFlow (.broken (← get).status)
        | false, [] => pure ()
        | true, [] => do
          engine.assignAll assignments
          engine.trace errors (← assignedValues assignments) []
          if ← Step.isGoing then
            Step.setStatus (((← Step.process).outputStatus).getD 0)
        | true, names => engine.call standing errors assignments names
    if redirects.isEmpty then
      body
      if !(← keepsStreams names) then
        Step.modifyProcess fun process => { process with streams := before.streams }
    else keepingStreams (keepsStreams names) body
  checkStrict standing

end Engine

end Metamorph.Sandbox.Shell
