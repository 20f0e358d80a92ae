import Metamorph.Machine.Basic
import Metamorph.Text.Utf8
import Metamorph.Report.Verdict
import Metamorph.Target.Settings

/-! # Executing guest projects

Commands with limits, and the executors that build and run a project with them. -/

namespace Metamorph

/-! ## Command lines

A command as settings give it: the program and its arguments in one list, with a limit to
its time. -/

/-- A command with its limit. -/
structure CommandLine where
  /-- The program and its arguments. -/
  words : List String
  folder : Option String := none
  environment : List (String × String) := []
  /-- The seconds that it may take. -/
  timeout : Nat
  deriving DecidableEq, Repr

/-- What a command left behind. -/
structure Output where
  success : Bool
  stdout : String
  stderr : String
  deriving DecidableEq, Repr

/-- What a command left behind when it ended. -/
def Ending.output (ending : Ending) : Output :=
  ⟨ending.status.isSuccess, Text.ofBytes ending.stdout, Text.ofBytes ending.stderr⟩

/-- Run a command to its end, with some more variables set. There is no output if it took too
long. -/
def CommandLine.run (line : CommandLine) (environment : List (String × String)) :
    Work (Option Output) :=
  match line.words with
  | [] => throw (.config .emptyCommand)
  | program :: arguments => do
    let command : Command :=
      { program, arguments, folder := line.folder, environment := line.environment ++ environment }
    let ending ← Work.orFail (← Work.ask (.launchWithin line.timeout command))
    return ending.map Ending.output

/-! ## Executors

An executor builds a guest project once and runs it any number of times. -/

/-- The commands of a guest project. -/
structure Executor where
  build? : Option CommandLine
  run : CommandLine
  deriving DecidableEq, Repr

namespace Executor

/-- The executor that settings describe for a project folder. There is none without a command
that runs guests. -/
def ofSettings? (settings : TargetSettings) (folder : String) : Option Executor :=
  if settings.executes then
    let line (words : List String) (timeout : Nat) : CommandLine :=
      { words, timeout, folder := some folder }
    some {
      build? :=
        if settings.buildCommand.isEmpty then none
        else some (line settings.buildCommand settings.buildSeconds)
      run := line settings.runCommand settings.runSeconds }
  else none

/-- Build the project. An observation is the last word on every circuit of it; without one
the project is ready to run. -/
def build (executor : Executor) : Work (Option Observation) :=
  match executor.build? with
  | none => return none
  | some line => do
    match ← line.run [] with
    | none => return some .buildTimedOut
    | some output =>
      if output.success then return none
      else return some (.buildFailed (output.stdout ++ output.stderr))

/-- Run the built project once, with some variables set. -/
def runOnce (executor : Executor) (environment : List (String × String)) : Work Observation := do
  match ← executor.run.run environment with
  | none => return .runTimedOut
  | some output => return .exited output.success output.stdout output.stderr

/-- Build the project and run it once. -/
def execute (executor : Executor) (environment : List (String × String)) : Work Observation := do
  match ← executor.build with
  | some observation => return observation
  | none => executor.runOnce environment

end Executor

end Metamorph
