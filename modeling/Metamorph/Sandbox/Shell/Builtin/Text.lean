import Metamorph.Sandbox.Shell.Arithmetic
import Metamorph.Sandbox.Shell.Reading
import Metamorph.Sandbox.Shell.Builtin.Options
import Metamorph.Sandbox.Tool.Condition

/-! # Builtin commands for texts

The builtin commands that write and read texts and look at them, and those for other names of
commands. -/

namespace Metamorph.Sandbox.Shell

/-- The manner of a shell. -/
def manner : Step Manner := do
  return if ← isRich then .richShell else .plainShell

/-- Read a line into variables. -/
def readVariables (words : List String) : Step Unit := do
  match readOptions (2 * words.length + 8) {} words with
  | .error letter =>
    if ← isRich then failBuiltin 2 ("-" ++ letter ++ ": invalid option")
    else failBuiltin 2 ("Illegal option -" ++ letter)
  | .ok reading =>
    if reading.names.isEmpty && reading.array.isNone then
      if ← isRich then readLineInto { reading with names := ["REPLY"] }
      else failBuiltin 2 "arg count"
    else
      match reading.names.find? fun name => !isName name.toList && (indexed? name).isNone with
      | some name =>
        if ← isRich then
          failBuiltin 1 (String.ofList [backquote] ++ name ++ "': not a valid identifier")
        else failBuiltin 2 (name ++ ": bad variable name")
      | none => readLineInto reading

/-- Write arguments by a format. -/
def printByWords (manner : Manner) (format : String) (arguments : List String) : Step Unit := do
  let printed := printByFormat manner format arguments
  printed.remarks.forM warn
  Step.write 1 printed.text
  Step.setStatus (if !printed.isFailure then 0
    else if printed.isBroken && manner = .plainShell then 2 else 1)

/-- Put arguments into a format for a variable. -/
def printInto (name format : String) (arguments : List String) : Step Unit := do
  let printed := printByFormat .richShell format arguments
  printed.remarks.forM warn
  let _ ← setVariable name (String.ofList printed.text)
  Step.setStatus (if printed.isFailure then 1 else 0)

/-- Write arguments by a format, or put them into a variable. -/
def printf (words : List String) : Step Unit := do
  if ← isRich then
    let usage : Step Unit := do
      Step.complain "printf: usage: printf [-v var] format [arguments]"
      Step.setStatus 2
    match words with
    | "-v" :: name :: "--" :: format :: arguments => printInto name format arguments
    | "-v" :: name :: format :: arguments => printInto name format arguments
    | "--" :: format :: arguments => printByWords .richShell format arguments
    | "--" :: [] => usage
    | [] => usage
    | word :: arguments =>
      if word.startsWith "-" && word.length ≠ 1 then
        warn (((word.take 2).toString) ++ ": invalid option")
        usage
      else printByWords .richShell word arguments
  else
    withLetters "" words fun _ words =>
      match words with
      | [] => failBuiltin 2 "usage: printf format [arg ...]"
      | format :: arguments => printByWords .plainShell format arguments

/-- Whether the shell itself has something to an operand: a variable, or an option that is on. -/
def ownTest? (operator operand : String) : Step (Option Bool) := do
  let process ← Step.process
  match process.dialect, operator with
  | .plain, _ => return none
  | .rich, "-v" => return some (parameter? (← get) operand).isSome
  | .rich, "-o" =>
    return some ((richOptionNames.lookup operand).any fun letter => process.options.contains letter)
  | .rich, "-R" => return some false
  | .rich, _ => return none

/-- Say by the exit code whether words are a condition that holds. -/
def test (words : List String) : Step Unit := do
  let (negated, operation) : Bool × List String :=
    if words.length = 3 then (words.head? == some "!", words.drop 1) else (false, words)
  let known? ←
    match operation with
    | [operator, operand] =>
      if words.length = 2 || negated then ownTest? operator operand else pure none
    | _ => pure none
  match known? with
  | some value => Step.setStatus (if value = negated then 1 else 0)
  | none =>
    match ← Condition.holds (← manner) words with
    | .ok value => Step.setStatus (if value then 0 else 1)
    | .error why => do
      warn why
      Step.setStatus 2

/-- The same with brackets around the words. -/
def bracket (words : List String) : Step Unit := do
  match Condition.betweenBrackets? words with
  | some words => test words
  | none => do
    warn (if ← isRich then "missing " ++ String.ofList [backquote] ++ "]'" else "missing ]")
    Step.setStatus 2

/-- Write the arguments. -/
def echo (words : List String) : Step Unit := do
  Step.write 1 (echoText (← manner) words)
  Step.setStatus 0

/-- Read all lines of the input into an array. -/
def readLines (words : List String) : Step Unit := do
  let name := (words.filter fun word => !word.startsWith "-").getLast?.getD "MAPFILE"
  let text ← Step.readAll 0
  let lines := if words.contains "-t" then splitLines text else splitKeeping text
  setItems name (lines.zipIdx.map fun (line, i) => (toString i, String.ofList line))
  Step.setStatus 0

/-- Evaluate words as arithmetic expressions; the exit code says whether the last one is
zero. -/
def evaluateWords (words : List String) : Step Unit := do
  words.forM fun word => do
    let run ← get
    match Arithmetic.evaluate { dialect := .rich, value? := parameter? run } word.toList with
    | .ok (value, changed) => do
      changed.reverse.forM fun (name, value) => do
        let _ ← setVariable name (toString value)
      Step.setStatus (if value = 0 then 1 else 0)
    | .error why => do
      warn (why.richMessage word)
      Step.setStatus 1

/-- The other names of commands in the order in which a plain shell shows them. -/
def sortedAliases (process : Process) : List (String × String) :=
  match process.dialect with
  | .plain => Process.byPlace 39 process.aliases.reverse
  | .rich => process.aliases.mergeSort fun a b => a.1 ≤ b.1

/-- Show what another name of a command stands for. -/
def showAlias (entry : String × String) : Step Unit := do
  let front := if ← isRich then "alias " else ""
  Step.out (front ++ entry.1 ++ "=" ++ quotedValue entry.2 ++ "\n")

/-- Define other names for commands, or show them. -/
def aliases (words : List String) : Step Unit := do
  let rich ← isRich
  Step.setStatus 0
  if words.isEmpty then (sortedAliases (← Step.process)).forM showAlias
  words.forM fun word => do
    -- An equals sign in front is part of the name.
    let (name, value) := splitAssignment (word.drop 1).toString
    let name := (word.take 1).toString ++ name
    match value with
    | some value =>
      Step.modifyProcess fun process =>
        { process with
          aliases :=
            if (process.aliases.lookup name).isSome then
              process.aliases.map fun entry => if entry.1 = name then (name, value) else entry
            else (name, value) :: process.aliases }
    | none =>
      match (← Step.process).aliases.lookup name with
      | some value => showAlias (name, value)
      | none => do
        if rich then warn (name ++ ": not found") else Step.complain ("alias: " ++ name ++ " not found")
        Step.setStatus 1

/-- Forget other names of commands. -/
def unalias (words : List String) : Step Unit :=
  withLetters "a" words fun options words => do
    Step.setStatus 0
    if !options.isEmpty then Step.modifyProcess fun process => { process with aliases := [] }
    else
      words.forM fun name => do
        if ((← Step.process).aliases.lookup name).isSome then
          Step.modifyProcess fun process =>
            { process with aliases := process.aliases.filter fun entry => entry.1 ≠ name }
        else
          if ← isRich then warn (name ++ ": not found")
          else Step.complain ("unalias: " ++ name ++ " not found")
          Step.setStatus 1

end Metamorph.Sandbox.Shell
