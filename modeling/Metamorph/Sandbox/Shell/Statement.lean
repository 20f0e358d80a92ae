import Metamorph.Sandbox.Regex.Basic
import Metamorph.Sandbox.Regex.Reader
import Metamorph.Sandbox.Shell.Call

/-! # Running statements

Statements run one after the other. Loops and choices decide by exit codes what runs next. The
stages of a pipeline, and what runs beside the shell, are copies of it. -/

namespace Metamorph.Sandbox.Shell

/-- Whether a loop goes on after one of its turns. What a turn asked for is done. -/
def endTurn : Step Bool :=
  modifyGet fun run =>
    match run.flow with
    | .going => (true, run)
    | .nextTurn 0 => (true, { run with flow := .going })
    | .nextTurn (outer + 1) => (false, { run with flow := .nextTurn outer })
    | .afterLoop 0 => (false, { run with flow := .going })
    | .afterLoop (outer + 1) => (false, { run with flow := .afterLoop outer })
    | _ => (false, run)

/-- Do something inside of a loop. -/
def inLoop (step : Step Unit) : Step Unit := do
  Step.modifyProcess fun process => { process with loops := process.loops + 1 }
  step
  Step.modifyProcess fun process => { process with loops := process.loops - 1 }

/-- How many turns a loop may have. -/
def mostTurns : Nat := 300000

namespace Engine

/-- Whether one of some patterns matches a text. -/
def matchesAny (engine : Engine) (text : List Char) : List Word → Step Bool
  | [] => return false
  | pattern :: rest => do
    let marks := Glyph.marks (← engine.expandWord pattern)
    if Pattern.fits (writing (← Step.process)) marks text then return true
    else matchesAny engine text rest

/-- Run the first case that has a pattern for a text. -/
def runCases (engine : Engine) (standing : Standing) (text : List Char) :
    List (List Word × Script) → Step Unit
  | [] => Step.setStatus 0
  | (patterns, body) :: rest => do
    let matched ← engine.matchesAny text patterns
    if ← Step.isGoing then
      if matched then
        if body.isEmpty then Step.setStatus 0 else engine.runScript standing body
      else runCases engine standing text rest

/-- Run a body as long as a step asks for it; the exit code is that of the last body. -/
def runTurns (engine : Engine) (standing : Standing) (asks : Step Bool) (body : Script)
    (after : Step Unit) : Nat → Nat → Step Unit
  | 0, _ => Step.workForever
  | turns + 1, code => do
    let again ← asks
    let goes ← Step.isGoing
    if ← endTurn then
      if !goes then runTurns engine standing asks body after turns code
      else if again then
        engine.runScript standing body
        if ← endTurn then
          let code := (← get).status
          after
          if ← Step.isGoing then runTurns engine standing asks body after turns code
      else Step.setStatus code

/-- Run a body for each value of a variable. -/
def runEach (engine : Engine) (standing : Standing) (name : String) (body : Script) :
    List String → Step Unit
  | [] => pure ()
  | value :: rest => do
    let _ ← setVariable name value
    if ← Step.isGoing then
      engine.runScript standing body
      if ← endTurn then runEach engine standing name body rest

/-- Keep where the program of a stage is found. -/
def locateStage (stage : Statement) : Step Unit := do
  match stage with
  | .simple _ _ (word :: _) _ =>
    match plainText? word with
    | some name => do
      let process ← Step.process
      if !isBuiltin process.dialect name && (process.functions.lookup name).isNone then
        let (path, found) ← locateProgram name
        if found.isRunnable then keepLocated name path
    | none => pure ()
  | _ => pure ()

/-- Start the stages of a pipeline. Each one reads what the one before it writes; the first one
reads nothing if it runs beside the shell. -/
def startStages (engine : Engine) (standing : Standing) (beside : Bool) (input : Option Nat) :
    List Statement → Step (List Nat)
  | [] => return []
  | stage :: rest => do
    locateStage stage
    let pipe? ← if rest.isEmpty then pure none else some <$> Step.openPipe
    let streams (before : List (Nat × Nat)) : List (Nat × Nat) :=
      let others := before.filter fun entry =>
        !(entry.1 = 0 && input.isSome) && !(entry.1 = 1 && pipe?.isSome)
      input.toList.map (fun number => (0, number))
        ++ pipe?.toList.map (fun pipe => (1, pipe.2)) ++ others
    let id ← Step.start Runner.copyTime
      (fun process => { copied process with streams := streams process.streams })
      (engine.asWhole do
        if beside then Step.modifyProcess fun process => { process with deaf := 2 :: 3 :: process.deaf }
        engine.runScript { tested := standing.tested && !beside, isLast := true } [stage])
    let ids ← startStages engine standing beside (pipe?.map (·.1)) rest
    return id :: ids

/-- Run a pipeline. -/
def runPipeline (engine : Engine) (standing : Standing) (stages : List Statement) : Step Unit := do
  let _ ← claimNumber
  let ids ← engine.startStages standing false none stages
  let codes := (← awaitJob ids).map codeOf
  Step.modifyProcess fun process => { process with stages := codes }
  let failure := if ← hasOption "pipefail" then codes.reverse.find? (· ≠ 0) else none
  Step.setStatus (failure.getD (codes.getLastD 0))
  checkStrict standing

/-- Run a statement beside the shell. -/
def runBeside (engine : Engine) (body : Statement) : Step Unit := do
  let number ← claimNumber
  let nothing ← Step.openNew (Access.reading.opening (.device .nothing))
  let stages :=
    match body, (← Step.process).dialect with
    | .pipeline stages, .plain => stages
    | _, _ => [body]
  let ids ← engine.startStages {} true (some nothing) stages
  keepJob number ids ""
  Step.setStatus 0

/-- Run a body in a copy of the shell, or in the shell itself if it is the last thing there. -/
def runApart (engine : Engine) (standing : Standing) (body : Standing → Step Unit) : Step Unit := do
  if standing.isLast && !(← Step.process).hasTraps then body standing
  else
    let status ← engine.inSubshell (fun process => process)
      (body { tested := standing.tested, isLast := true })
    Step.setStatus (codeOf status)
    checkStrict standing

/-- The value of an expression between double parentheses decides the exit code. -/
def runExpression (engine : Engine) (expression : Word) : Step Bool := do
  let text ← engine.expandText expression
  if !(← Step.isGoing) then return false
  let value ← evaluateText text
  Step.setStatus (if value = 0 then 1 else 0)
  return value ≠ 0

/-- Whether a comparison of a word with a pattern or another word holds. -/
def comparison (engine : Engine) (operator : String) (first second : Word) : Step Bool := do
  let text ← engine.expandText first
  if operator = "=~" then
    let other ← engine.expandText second
    match Regex.read { extended := true } other with
    | .error _ => return false
    | .ok regex =>
      match regex.search? {} text 0 with
      | none => return false
      | some found => do
        let count := found.groups.foldl (fun most group => max most group.1) 0
        setItems "BASH_REMATCH" ((List.range (count + 1)).map fun number =>
          (toString number, String.ofList (found.groupIn text number)))
        return true
  else
    let marks := Glyph.marks (← engine.expandWord second)
    let other := String.ofList (marks.map (·.char))
    let fits := Pattern.fits { writing (← Step.process) with groups := true } marks text
    match operator with
    | "=" => return fits
    | "==" => return fits
    | "!=" => return !fits
    | "<" => return String.ofList text < other
    | ">" => return other < String.ofList text
    | _ =>
      if ["-eq", "-ne", "-lt", "-le", "-gt", "-ge"].contains operator then
        let a ← evaluateText text
        let b ← evaluateText other.toList
        return [("-eq", a == b), ("-ne", a != b), ("-lt", decide (a < b)),
          ("-le", decide (a ≤ b)), ("-gt", decide (a > b)), ("-ge", decide (a ≥ b))].lookup operator
            |>.getD false
      else
        match ← Condition.holds .richShell [String.ofList text, operator, other] with
        | .ok value => return value
        | .error _ => return false

/-- Whether a condition between double brackets holds. -/
def decideCondition (engine : Engine) : Condition → Step Bool
  | .word text => do return !(← engine.expandText text).isEmpty
  | .unary operator operand => do
    let text := String.ofList (← engine.expandText operand)
    match ← ownTest? operator text with
    | some value => return value
    | none =>
      match ← Condition.holds .richShell [operator, text] with
      | .ok value => return value
      | .error _ => return false
  | .binary operator first second => engine.comparison operator first second
  | .negated body => do return !(← engine.decideCondition body)
  | .both first second => do
    if ← engine.decideCondition first then engine.decideCondition second else return false
  | .either first second => do
    if ← engine.decideCondition first then return true else engine.decideCondition second

/-- Run a statement whose streams are redirected. -/
def runRedirected (engine : Engine) (standing : Standing) (line : Nat) (body : Statement)
    (redirects : List Redirect) : Step Unit := do
  Step.modifyProcess fun process => { process with line := line }
  match body with
  | .subshell body =>
    engine.runApart standing fun standing => do
      let opened ← engine.redirectAll redirects
      if opened && (← Step.isGoing) then engine.runScript standing body
  | _ =>
    keepingStreams (return false) do
      let opened ← engine.redirectAll redirects
      if opened && (← Step.isGoing) then engine.runScript { tested := standing.tested } [body]
    checkStrict standing

/-- Run a loop that has a condition before each turn. -/
def runLoop (engine : Engine) (standing : Standing) (expected : Bool) (condition body : Script) :
    Step Unit := inLoop do
  let asks : Step Bool := do
    engine.runScript { tested := true } condition
    return ((← get).status = 0) = expected
  engine.runTurns { tested := standing.tested } asks body (pure ()) mostTurns 0

/-- Run a statement after another one if that has ended as expected. -/
def runSecond (engine : Engine) (standing : Standing) (expected : Bool) (first second : Statement) :
    Step Unit := do
  engine.runScript { tested := true } [first]
  if (← Step.isGoing) && decide ((← get).status = 0) = expected then
    engine.runScript standing [second]

/-- Run a statement. -/
def runStatement (engine : Engine) (standing : Standing) (statement : Statement) : Step Unit := do
  let atLine (line : Nat) : Step Unit :=
    Step.modifyProcess fun process => { process with line := line }
  match statement with
  | .simple line assignments words redirects =>
    engine.runSimple standing line assignments words redirects
  | .redirected line body redirects => engine.runRedirected standing line body redirects
  | .pipeline stages => engine.runPipeline standing stages
  | .background body => engine.runBeside body
  | .negated body => do
    engine.runScript { tested := true } [body]
    match (← get).flow with
    | .going => Step.setStatus (if (← get).status = 0 then 1 else 0)
    | .afterCommand => Step.setStatus (if (← get).status = 0 then 1 else 0)
    | _ => pure ()
  | .andThen first second => engine.runSecond standing true first second
  | .orElse first second => engine.runSecond standing false first second
  | .choose condition yes no => do
    engine.runScript { tested := true } condition
    if ← Step.isGoing then
      let chosen := if (← get).status = 0 then yes else no
      if chosen.isEmpty then Step.setStatus 0 else engine.runScript standing chosen
  | .loop expected condition body => engine.runLoop standing expected condition body
  | .each line name words body => do
    atLine line
    let values ←
      match words with
      | some words => do pure (← words.mapM engine.expandFields).flatten
      | none => do pure (← Step.process).arguments
    if ← Step.isGoing then
      if values.isEmpty then Step.setStatus 0
      inLoop (engine.runEach { tested := standing.tested } name body values)
  | .select line word cases => do
    atLine line
    let text ← engine.expandText word
    if ← Step.isGoing then engine.runCases standing text cases
  | .group body => engine.runScript standing body
  | .subshell body => engine.runApart standing fun standing => engine.runScript standing body
  | .define name body => do
    Step.modifyProcess fun process =>
      { process with
        functions := (name, body) :: process.functions.filter fun entry => entry.1 ≠ name }
    Step.setStatus 0
  | .test line condition => do
    atLine line
    let value ← engine.decideCondition condition
    if ← Step.isGoing then
      Step.setStatus (if value then 0 else 1)
      checkStrict standing
  | .evaluate line expression => do
    atLine line
    let _ ← engine.runExpression expression
    checkStrict standing
  | .count line start condition step body => do
    atLine line
    let evaluate (expression : Word) : Step Unit := do
      if !expression.isEmpty then let _ ← engine.runExpression expression
    evaluate start
    let asks : Step Bool := if condition.isEmpty then return true
      else engine.runExpression condition
    if ← Step.isGoing then
      inLoop (engine.runTurns { tested := standing.tested } asks body (evaluate step) mostTurns 0)
  | .timed body => do
    engine.runScript standing [body]
    if ← Step.isGoing then Step.complain "\nreal\t0m0.000s\nuser\t0m0.000s\nsys\t0m0.000s"

/-- Run statements one after the other. Before each of them is done what was asked for on signals
that came. -/
def runStatements (engine : Engine) (standing : Standing) : Script → Step Unit
  | [] => pure ()
  | statement :: rest => do
    Step.work 1
    engine.heed 100
    if (← Step.isGoing) && !(← hasOption "n") then
      engine.runStatement { standing with isLast := standing.isLast && rest.isEmpty } statement
      if ← Step.isGoing then runStatements engine standing rest

end Engine

end Metamorph.Sandbox.Shell
