import Metamorph.Sandbox.Shell.State
import Metamorph.Sandbox.Shell.Reader
import Metamorph.Sandbox.Tool.Basic

/-! # Running the text of scripts

The parts of a shell need the whole of it: words hold scripts, and a script runs programs, which
may be shells. They are given the whole as a value. Here it reads texts and runs them line by
line, ends shells, does what was asked for on signals, and starts copies of the shell. -/

namespace Metamorph.Sandbox.Shell

/-- How a statement stands in its script. -/
structure Standing where
  /-- Its failure is asked for, and so does not end the script. -/
  tested : Bool := false
  /-- It is the last thing that the shell does. -/
  isLast : Bool := false

/-- What the parts of a shell need of the whole. -/
structure Engine where
  /-- Run the statements of a script. -/
  runScript : Standing → Script → Step Unit
  runProgram : Runner

/-- The end of a shell or a program: it is reached unless that was killed. -/
def settle : Step Unit :=
  modify fun run =>
    match run.flow with
    | .leaving code => { run with status := code, flow := .going }
    | .broken code => { run with status := code, flow := .going }
    | .killed _ => run
    | _ => { run with flow := .going }

/-- The words in front of messages about the text of a script. -/
def faultStart (process : Process) (source : String) (line : Nat) : String :=
  match process.dialect with
  | .plain => complaintStart { process with line := line } ++ "Syntax error: "
  | .rich => process.name ++ ": " ++ source ++ "line " ++ toString line ++ ": "

/-- Complain of a text that is no script, which ends the script. -/
def reportFault (source : String) (text : List Char) (line : Nat) (fault : SyntaxFault) :
    Step Unit := do
  let process ← Step.process
  let start := faultStart process source line
  match process.dialect, fault with
  | .plain, _ => Step.complain (start ++ fault.plainMessage)
  | .rich, .unexpected .ending _ =>
    Step.complain (faultStart process source (line + 1) ++ fault.richMessage)
  | .rich, .unexpected _ _ => do
    let shown := String.ofList ((splitLines text).getD (line - 1) [])
    Step.complain (start ++ fault.richMessage)
    Step.complain (start ++ String.ofList [backquote] ++ shown ++ "'")
  | .rich, _ => Step.complain (start ++ fault.richMessage)
  Step.setStatus 2
  Step.setFlow (.broken 2)

namespace Engine

/-- Read a text line by line and run each line before the next one is read. -/
def runLines (engine : Engine) (source : String) (text : List Char) (standing : Standing) :
    Nat → ReadState → Step Unit
  | 0, _ => Step.workForever
  | fuel + 1, state => do
    match state.next? with
    | .error (line, fault) => reportFault source text line fault
    | .ok (none, _) => pure ()
    | .ok (some script, next) => do
      Step.modifyProcess fun process =>
        { process with texts := next.texts, nextText := next.nextNumber }
      if !(← hasOption "n") then
        engine.runScript { standing with isLast := standing.isLast && next.rest.isEmpty } script
      if ← Step.isGoing then
        let process ← Step.process
        runLines engine source text standing fuel
          { next with
            texts := process.texts, nextNumber := process.nextText, aliases := process.aliases }

/-- Run a text as a script. -/
def runText (engine : Engine) (source : String) (standing : Standing) (text : List Char) :
    Step Unit := do
  let process ← Step.process
  engine.runLines source text standing (text.length + 2)
    { rest := text, dialect := process.dialect, texts := process.texts
      nextNumber := process.nextText, aliases := process.aliases }

/-- Do what was asked for at the end of a shell. -/
def runExitTrap (engine : Engine) : Step Unit := do
  let run ← get
  let code :=
    match run.flow with
    | .leaving code => code
    | .broken code => code
    | _ => run.status
  match run.flow, run.process.traps.lookup 0 with
  | .killed _, _ => pure ()
  | _, none => pure ()
  | _, some action => do
    Step.modifyProcess fun process =>
      { process with
        builtin := none, loops := 0, depth := 0, trapStatus := some code
        traps := process.traps.filter fun entry => entry.1 ≠ 0 }
    Step.setStatus code
    Step.setFlow .going
    engine.runText "" {} action.toList
    if ← Step.isGoing then Step.setFlow (.leaving code)

/-- Do what was asked for on signals that came, the one with the smallest number first. The exit
code is as before afterwards. The fuel bounds the signals. -/
def heed (engine : Engine) : Nat → Step Unit
  | 0 => pure ()
  | fuel + 1 => do
    let run ← get
    match run.process.noted.min?, run.flow with
    | some signal, .going => do
      Step.modifyProcess fun process =>
        { process with noted := process.noted.filter (· ≠ signal) }
      match run.process.traps.lookup signal with
      | some action => do
        let before := run.process.trapStatus
        Step.modifyProcess fun process =>
          { process with trapStatus := some (before.getD run.status) }
        engine.runText "" {} action.toList
        Step.modifyProcess fun process => { process with trapStatus := before }
        if ← Step.isGoing then
          Step.setStatus run.status
          heed engine fuel
      | none => heed engine fuel
    | _, _ => pure ()

/-- What a copy of the shell begins with. -/
def copied (process : Process) : Process :=
  { process with traps := process.traps.filter fun entry => entry.2.isEmpty }

/-- Run a body as all that a shell does, up to its end. -/
def asWhole (engine : Engine) (body : Step Unit) : Step Unit := do
  body
  engine.heed 100
  engine.runExitTrap
  settle

/-- Run a body in a copy of the shell, which this one waits for. -/
def inSubshell (engine : Engine) (change : Process → Process) (body : Step Unit) :
    Step Status := do
  let _ ← claimNumber
  let id ← Step.start Runner.copyTime (fun process => change (copied process)) (engine.asWhole body)
  return (← awaitJob [id]).getLastD (.exited 0)

/-- What a script writes, without zeros and without the line ends at its end. -/
def outputOf (engine : Engine) (script : Script) : Step (List Char) := do
  let strict (process : Process) : Process :=
    { copied process with
      options := if process.dialect = .rich then process.options.filter (· ≠ "e")
        else process.options }
  let (text, status) ← Step.capture Runner.copyTime strict
    (engine.asWhole (engine.runScript { isLast := true } script))
  match fatalWords? status, (← Step.process).dialect with
  | some words, .plain => Step.complain words
  | _, _ => pure ()
  let code := codeOf status
  Step.modifyProcess fun process => { process with outputStatus := some code }
  if ← isRich then Step.setStatus code
  let text := text.filter (·.toNat ≠ 0)
  return (text.reverse.dropWhile (· = '\n')).reverse

end Engine

end Metamorph.Sandbox.Shell
