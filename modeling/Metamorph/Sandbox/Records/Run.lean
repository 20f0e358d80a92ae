import Metamorph.Sandbox.Records.Evaluation
import Metamorph.Sandbox.Records.Rules

/-! # Running programs over records

From the rules of a program to its run, and the tool that starts it. -/

namespace Metamorph.Sandbox.Records

/-! ## Going through records

The rules for the start come first, then those for each record in turn, and those for the end
come last, however the others have ended. -/

namespace Act

/-- Whether an expression holds. -/
def holds (condition : Expression) : Act Bool := do
  return (← evaluate mostDepth condition).isTrue

/-- Whether a condition that reaches from one record to another one holds for this one. -/
def holdsRange (number : Nat) (first last : Expression) : Act Bool := do
  let begun := (← get).ranges.contains number
  let inside ← if begun then do pure true else holds first
  if inside then
    let ends ← holds last
    modify fun work =>
      let others := work.ranges.filter (· ≠ number)
      { work with ranges := if ends then others else number :: others }
  return inside

/-- Do what a rule says, if it is meant for the record. -/
def applyRule (rule : Rule) : Act Unit := do
  let meant ←
    match rule.condition with
    | .always => pure true
    | .holds condition => holds condition
    | .range number first last => holdsRange number first last
    | _ => pure false
  if meant then execute mostDepth rule.body

/-- Do what the rules for the start or the end say. -/
def applyEdges (start : Bool) (rules : List Rule) : Act Unit :=
  rules.forM fun rule =>
    match rule.condition with
    | .start => if start then execute mostDepth rule.body else pure ()
    | .finish => if start then pure () else execute mostDepth rule.body
    | _ => pure ()

/-- Go through the records. The fuel bounds their number. -/
def forRecords (rules : List Rule) : Nat → Act Unit
  | 0 => pure ()
  | fuel + 1 => do
    match ← nextRecord? mostInputs with
    | none => pure ()
    | some text => do
      setRecord text
      tryCatch (rules.forM applyRule) fun stop =>
        match stop with
        | .nextRecord => pure ()
        | .nextFile => closeInput
        | other => throw other
      forRecords rules fuel

/-- Go on when a program was left early. -/
def untilLeft (body : Act Unit) : Act Bool :=
  tryCatch (do
    body
    return true) fun stop =>
      match stop with
      | .leave => return false
      | other => throw other

/-- Run a program. -/
def runRules (script : Script) : Act Unit := do
  let hasEnd := script.rules.any fun rule =>
    match rule.condition with
    | .finish => true
    | _ => false
  let hasRules := script.rules.any fun rule =>
    match rule.condition with
    | .start => false
    | .finish => false
    | _ => true
  let goesOn ← untilLeft (applyEdges true script.rules)
  if goesOn && (hasRules || hasEnd) then
    let _ ← untilLeft (forRecords script.rules mostTurns)
  let _ ← untilLeft (applyEdges false script.rules)

/-- Set the variables that every program starts with, and the arguments. -/
def prepare (name : String) (arguments : List String) (settings : List (String × List Char)) :
    Act Unit := do
  [("CONVFMT", "%.6g"), ("OFMT", "%.6g"), ("OFS", " "), ("ORS", "\n"), ("RS", "\n"), ("FS", " "),
    ("SUBSEP", "\x1c")].forM fun (name, value) => setGlobal name (.text value.toList)
  ["NR", "FNR"].forM fun name => setGlobal name (ofNat 0)
  setGlobal "ARGC" (ofNat (arguments.length + 1))
  let words := (name :: arguments).zipIdx
  let words := words.map fun (word, place) => (toString place, Value.input word.toList)
  setTable (← arrayOf "ARGV") { entries := words.reverse }
  let environment := (← outside Step.process).environment
  let entries := environment.map fun (name, value) => (name, Value.input value.toList)
  setTable (← arrayOf "ENVIRON") { entries := entries.reverse, numbered := false }
  settings.forM fun (name, value) => assignText name value

end Act

/-- Run a program with its name, its arguments and settings: the exit code. -/
def runScript (script : Script) (runner : Runner) (name : String) (arguments : List String)
    (settings : List (String × List Char)) : Step Nat := do
  let work : Act Unit := do
    Act.prepare name arguments settings
    let result ← tryCatch (do
      Act.runRules script
      return none) fun stop => return some stop
    Act.closeAll
    match result with
    | some stop => throw stop
    | none => pure ()
  let (result, state) ← (work.run.run { script, runner } : Step _)
  match result with
  | .error (.failure message) => do
    Step.complain (name ++ ": " ++ message)
    return 2
  | _ => return state.code

end Metamorph.Sandbox.Records

namespace Metamorph.Sandbox.Tool

/-! ## The tool that goes through records

The program is the first argument, or stands in files. Variables may be set before it starts. -/

/-- How the tool is used. -/
def recordsUsage : List String :=
  ["Usage: mawk [Options] [Program] [file ...]",
    "",
    "Program:",
    "    The -f option value is the name of a file containing program text.",
    "    If no -f option is given, a \"--\" ends option processing; the following",
    "    parameters are the program text.",
    "",
    "Options:",
    "    -f program-file  Program  text is read from file instead of from the",
    "                     command-line.  Multiple -f options are accepted.",
    "    -F value         sets the field separator, FS, to value.",
    "    -v var=value     assigns value to program variable var.",
    "    --               unambiguous end of options.",
    "",
    "    Implementation-specific options are prefixed with \"-W\".  They can be",
    "    abbreviated:",
    "",
    "    -W version       show version information and exit.",
    "    -W compat        pre-POSIX 2001.",
    "    -W dump          show assembler-like listing of program and exit.",
    "    -W help          show this message and exit.",
    "    -W interactive   set unbuffered output, line-buffered input.",
    "    -W exec file     use file as program as well as last option.",
    "    -W posix         stricter POSIX checking.",
    "    -W random=number set initial random seed.",
    "    -W sprintf=number adjust size of sprintf buffer.",
    "    -W usage         show this message and exit."]

/-- The text of the program in the files that options name, or the file that cannot be read. -/
def programIn (paths : List String) : Step (Except (String × Refusal) (List Char)) := do
  let texts : List (Except (String × Refusal) (List Char)) ← paths.mapM fun path => do
    match ← readOperand path with
    | .ok text => return .ok text
    | .error why => return .error (path, why)
  match texts.mapM fun text => text with
  | .ok texts => return .ok (['\n'].intercalate texts)
  | .error why => return .error why

/-- What a wrong option is told as. -/
def optionFault (text : String) : String :=
  let letter := String.ofList (((text.toList.dropWhile (· ≠ '\'')).drop 1).take 1)
  if text.startsWith "option requires" then "option -" ++ letter ++ " lacks argument"
  else if text.startsWith "unrecognized" then
    "not an option: " ++ String.ofList (((text.toList.dropWhile (· ≠ '\'')).drop 1).dropLast)
  else "not an option: -" ++ letter

/-- Run a program on records. -/
def awk : Tool := fun runner arguments => do
  let name := (← Step.process).name
  match ({ valued := "FvfW", anywhere := false } : OptionSet).read arguments with
  | .error why => fail name 2 (optionFault why)
  | .ok options =>
    let settings := (options.given.filter fun option => option.1 = 'F' || option.1 = 'v').map
      fun (letter, value) =>
        if letter = 'F' then some ("FS", value.toList) else Records.Act.assignment? value.toList
    let fromFiles ← programIn (options.values 'f')
    match settings.mapM (fun setting => setting), fromFiles, options.has 'f', options.operands with
    | none, _, _, _ =>
      fail name 2 ("improper assignment: -v " ++ (options.value? 'v').getD "")
    | some _, .error (path, why), _, _ =>
      fail name 2 ("cannot open \"" ++ path ++ "\" (" ++ why.reason ++ ")")
    | some _, .ok _, false, [] => do
      recordsUsage.forM Step.complain
      return 0
    | some settings, .ok text, hasFiles, operands =>
      let program := if hasFiles then text else (operands.headD "").toList
      let operands := if hasFiles then operands else operands.drop 1
      match Records.readScript program with
      | .error faults => do
        let place := match options.value? 'f' with | some path => path ++ ": " | none => ""
        faults.forM fun text => complain name (place ++ text)
        return 2
      | .ok script => Records.runScript script runner name operands settings

end Metamorph.Sandbox.Tool
