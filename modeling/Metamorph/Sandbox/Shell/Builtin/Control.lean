import Metamorph.Sandbox.Shell.State
import Metamorph.Sandbox.Shell.Builtin.Options

/-! # Builtin commands that control what runs

The builtin commands that leave loops, commands and scripts, that send signals or say what is done
on them, and that look after programs which run beside the shell. -/

namespace Metamorph.Sandbox.Shell

/-- Leave loops, or only the current turn. -/
def leaveLoop (flow : Nat → Flow) (words : List String) : Step Unit := do
  Step.setStatus 0
  withNumber (words.headD "1") fun count => do
    let loops := (← Step.process).loops
    let rich ← isRich
    if count = 0 then
      if rich then
        warn "0: loop count out of range"
        Step.setStatus 1
        if 0 < loops then Step.setFlow (.afterLoop (loops - 1))
      else failBuiltin 2 "Illegal number: 0"
    else if loops = 0 then
      if rich then
        warn ("only meaningful in a " ++ String.ofList [backquote]
          ++ "for', " ++ String.ofList [backquote] ++ "while', or " ++ String.ofList [backquote]
          ++ "until' loop")
    else Step.setFlow (flow (min count loops - 1))

/-- Leave the script or a command of it. -/
def leave (flow : Nat → Flow) (usual : Nat) (words : List String) : Step Unit := do
  match words with
  | [] => do
    Step.setStatus usual
    Step.setFlow (flow usual)
  | text :: _ =>
    match Tool.integer? text with
    | some number =>
      if (number < 0 || text.startsWith "+") && !(← isRich) then
        failBuiltin 2 ("Illegal number: " ++ text)
      else
        Step.setStatus (exitCode number)
        Step.setFlow (flow (exitCode number))
    | none =>
      if ← isRich then
        warn (text ++ ": numeric argument required")
        Step.setStatus 2
        Step.setFlow (flow 2)
      else failBuiltin 2 ("Illegal number: " ++ text)

/-- Leave the script. -/
def exit (words : List String) : Step Unit := do
  let run ← get
  leave .leaving (run.process.trapStatus.getD run.status) words

/-- Leave a command of the script, or a script. -/
def returnFrom (words : List String) : Step Unit := do
  let process ← Step.process
  if process.depth = 0 && process.dialect = .rich then
    warn ("can only " ++ String.ofList [backquote] ++ "return' from a function or sourced script")
    Step.setStatus 2
  else
    leave .leaving (← get).status words
    match (← get).flow with
    | .leaving _ => if 0 < process.depth then Step.setFlow .afterCommand
    | _ => pure ()

/-- The signal that a text names: the plain dialect knows the bare names only. -/
def signalOf? (dialect : Dialect) (text : String) : Option Nat :=
  if text.toUpper = "EXIT" then some 0
  else
    match dialect with
    | .rich => Signal.ofText? text
    | .plain =>
      if text.toUpper.startsWith "SIG" || text.toUpper = "STKFLT" then none else Signal.ofText? text

/-- The name of a signal in a dialect; the end of a script counts as number 0. -/
def signalName (dialect : Dialect) (number : Nat) : String :=
  match dialect with
  | .plain =>
    if number = 0 then "EXIT" else if number = 16 then "16" else Signal.name number
  | .rich => if number = 0 then "EXIT" else "SIG" ++ Signal.name number

/-- Show what is done on signals. -/
def showTraps (wanted : Nat → Bool) : Step Unit := do
  let process ← Step.process
  (List.range (Signal.last + 1)).forM fun number =>
    match if wanted number then process.traps.lookup number else none with
    | some action =>
      Step.out ("trap -- " ++ quotedValue action ++ " " ++ signalName process.dialect number ++ "\n")
    | none => pure ()

/-- Say what is done on signals. Nothing said means what usually happens. -/
def setTraps (action : Option String) : List String → Step Unit
  | [] => pure ()
  | name :: rest => do
    let dialect := (← Step.process).dialect
    match signalOf? dialect name with
    | none => do
      Step.setStatus 1
      if dialect = .rich then
        warn (name ++ ": invalid signal specification")
        setTraps action rest
      else Step.complain ("trap: " ++ name ++ ": bad trap")
    | some number => do
      Step.modifyProcess fun process =>
        let others := process.traps.filter fun entry => entry.1 ≠ number
        { process with
          traps := match action with | some action => (number, action) :: others | none => others }
      setTraps action rest

/-- Say what is done on signals, or change it. -/
def trap (words : List String) : Step Unit := do
  let rich ← isRich
  withLetters (if rich then "lp" else "") words fun options words => do
    let has (letter : Char) : Bool := options.any fun option => option.1 = letter
    let dialect := (← Step.process).dialect
    Step.setStatus 0
    match words with
    | [] => if has 'l' then pure () else showTraps fun _ => true
    | first :: rest =>
      if has 'p' then
        showTraps fun number => words.any fun word => signalOf? dialect word = some number
      else if rest.isEmpty || (Tool.natural? first).any (· ≤ Signal.last) then setTraps none words
      else setTraps (if first = "-" then none else some first) rest

/-- How a builtin command that sends signals is used. -/
def killUsage : String :=
  "Usage: kill [-s sigspec | -signum | -sigspec] [pid | job]... or\nkill -l [exitstatus]"

/-- Send a signal to one target, and say what is wrong if that is not possible. -/
def sendTo (signal : Nat) (target : String) : Step (Option String) := do
  let process ← Step.process
  let rich := process.dialect = .rich
  if target.startsWith "%" then
    match findJob process.jobs target with
    | .error why => return some (if rich then target ++ ": no such job" else why)
    | .ok job =>
      if rich then
        job.programs.forM fun program => do
          let _ ← Step.signal program.1 signal
        return none
      else return some "No such process\n"
  else
    match Tool.integer? target with
    | none =>
      return some (if rich then target ++ ": arguments must be process or job IDs"
        else "Illegal number: " ++ target)
    | some number =>
      let sent ←
        if number < 0 then Step.signalGroup number.natAbs signal
        else if number = 0 then do
          let _ ← Step.signalGroup process.group signal
          Step.signal process.id signal
        else Step.signal number.toNat signal
      if sent then return none
      else
        return some (if rich then "(" ++ target ++ ") - No such process" else "No such process\n")

/-- Show the names of signals, or the name for a number. -/
def listSignals (words : List String) : Step Unit := do
  let dialect := (← Step.process).dialect
  Step.setStatus 0
  match words, dialect with
  | [], .plain => do
    Step.out "0\n"
    (List.range Signal.last).forM fun i => Step.out (signalName .plain (i + 1) ++ "\n")
  | [], .rich =>
    (List.range 31).forM fun i =>
      let number := toString (i + 1)
      Step.out ((if number.length < 2 then " " else "") ++ number ++ ") SIG" ++ Signal.name (i + 1)
        ++ if (i + 1) % 5 = 0 || i = 30 then "\n" else "\t")
  | text :: _, .plain =>
    withNumber text fun number => do
      let number := if 128 < number then number - 128 else number
      if 0 < number && number ≤ Signal.last then Step.out (signalName .plain number ++ "\n")
      else failBuiltin 2 ("invalid signal number or exit status: " ++ text)
  | text :: _, .rich =>
    match text.toNat? with
    | some number => Step.out (Signal.name (number % 128) ++ "\n")
    | none =>
      match Signal.named? text with
      | some number => Step.out (toString number ++ "\n")
      | none => failBuiltin 1 (text ++ ": invalid signal specification")

/-- Send a signal to targets one after the other. -/
def sendToAll (signal : Nat) (targets : List String) : Step Unit := do
  Step.setStatus 0
  targets.forM fun target => do
    if ← Step.isGoing then
      match ← sendTo signal target with
      | none => pure ()
      | some why =>
        if why = "No such process\n" || (← isRich) then
          warn why
          Step.setStatus 1
        else failBuiltin 2 why

/-- Send signals. -/
def kill (words : List String) : Step Unit := do
  let dialect := (← Step.process).dialect
  let first := words.headD ""
  let named := if first.startsWith "-" then signalOf? dialect (first.drop 1).toString else none
  let misused : Step Unit :=
    if dialect = .rich then do
      Step.complain ("kill: usage: kill [-s sigspec | -n signum | -sigspec] pid | jobspec ... or"
        ++ " kill -l [sigspec]")
      Step.setStatus 2
    else failBuiltin 2 killUsage
  match words, named with
  | [], _ => misused
  | _ :: targets, some signal =>
    let targets := if targets.head? = some "--" then targets.drop 1 else targets
    if targets.isEmpty then misused else sendToAll signal targets
  | _, none =>
    if dialect = .rich && first.startsWith "-" && !(["-s", "-n", "-l", "-L", "--"].contains first) then
      failBuiltin 1 ((first.drop 1).toString ++ ": invalid signal specification")
    else
      withLetters (if dialect = .rich then "lLs:n:" else "ls:") words fun options targets => do
        match (options.filter fun option => option.1 = 's' || option.1 = 'n').getLast? with
        | some (_, name) =>
          match signalOf? dialect name with
          | none =>
            if dialect = .rich then failBuiltin 1 (name ++ ": invalid signal specification")
            else failBuiltin 2 ("invalid signal number or name: " ++ name)
          | some signal => if targets.isEmpty then misused else sendToAll signal targets
        | none =>
          if options.isEmpty then if targets.isEmpty then misused else sendToAll 15 targets
          else listSignals targets

/-- Wait until some jobs are done, or a signal has come that something is to be done on. The
result says which. A plain shell tells of programs of a job that are killed meanwhile, if it waits
for that job alone. The fuel bounds how often programs end. -/
def awaitJobs (number? : Option Nat) : Nat → Step (Option Nat)
  | 0 => return none
  | fuel + 1 => do
    let found ← collect
    let process ← Step.process
    let wanted := process.jobs.filter fun job => number?.all fun number => job.number = number
    if number?.isSome && process.dialect = .plain then
      let programs := wanted.flatMap fun job => job.programs.map (·.1)
      found.forM fun (id, status) =>
        match if programs.contains id then fatalWords? status else none with
        | some words => Step.complain words
        | none => pure ()
    let running := wanted.flatMap fun job =>
      job.programs.filterMap fun (id, status?) => if status?.isNone then some id else none
    if running.isEmpty || (← Step.isKilled) then return none
    else
      match process.noted with
      | signal :: _ => return some signal
      | [] => do
        Step.await { ends := running }
        awaitJobs number? fuel

/-- Note that the shell was asked to wait for jobs. -/
def markAwaited (wanted : Job → Bool) : Step Unit :=
  Step.modifyProcess fun process =>
    { process with
      jobs := process.jobs.map fun job => if wanted job then { job with isAwaited := true } else job }

/-- Wait for jobs one after the other. The exit code is that of the last one. -/
def waitForEach : List String → Step Unit
  | [] => pure ()
  | text :: rest => do
    let process ← Step.process
    let rich := process.dialect = .rich
    let byId (id : Nat) : Option Job :=
      process.jobs.find? fun job => (job.programs.getLast?.map (·.1)) = some id
    let found : Except String (Option Job) :=
      if text.startsWith "%" then (findJob process.jobs text).map some
      else
        match Tool.natural? text with
        | some id => .ok (byId id)
        | none => .error ("Illegal number: " ++ text)
    match found with
    | .error why =>
      if rich then
        if text.startsWith "%" then
          warn (text ++ ": no such job")
          Step.setStatus 127
        else
          warn (String.ofList [backquote] ++ text ++ "': not a pid or valid job spec")
          Step.setStatus 1
        waitForEach rest
      else failBuiltin 2 why
    | .ok none => do
      if rich then warn ("pid " ++ text ++ " is not a child of this shell")
      Step.setStatus 127
      waitForEach rest
    | .ok (some job) =>
      match ← awaitJobs (some job.number) 100000 with
      | some signal => Step.setStatus (128 + signal)
      | none => do
        markAwaited fun other => other.number = job.number
        let done := (← Step.process).jobs.find? fun other => other.number = job.number
        Step.setStatus (codeOf ((done.map (·.status)).getD (.exited 0)))
        waitForEach rest

/-- Wait for programs that run beside the shell. -/
def wait (words : List String) : Step Unit := do
  withLetters (if ← isRich then "fnp:" else "") words fun options words => do
    if options.any fun option => option.1 = 'n' then waitForAny
    else if words.isEmpty then
      match ← awaitJobs none 100000 with
      | some signal => Step.setStatus (128 + signal)
      | none => do
        markAwaited fun _ => true
        Step.setStatus 0
        if ← isRich then Step.modifyProcess fun process => { process with jobs := [] }
    else waitForEach words
where
  /-- Wait for the first job that is done. -/
  waitForAny : Step Unit := do
    let _ ← collect
    let jobs := (← Step.process).jobs
    if jobs.isEmpty then Step.setStatus 127
    else
      if !(jobs.any (·.isDone)) then
        Step.await { ends := jobs.flatMap fun job => job.programs.map (·.1) }
        let _ ← collect
      match (← Step.process).jobs.find? (·.isDone) with
      | none => Step.setStatus 0
      | some job => do
        Step.modifyProcess fun process =>
          { process with jobs := process.jobs.filter fun other => other.number ≠ job.number }
        Step.setStatus (codeOf job.status)

/-- Show jobs. -/
def showJobs (words : List String) : Step Unit := do
  withLetters (if ← isRich then "lprsn" else "lp") words fun options words => do
    let _ ← collect
    let jobs := (← Step.process).jobs
    let mode := options.getLast?.map (·.1)
    let shown (job : Job) : Step Unit :=
      if mode = some 'p' then Step.out (toString ((job.programs.head?.map (·.1)).getD 0) ++ "\n")
      else showJob (mode = some 'l') job
    Step.setStatus 0
    if words.isEmpty then
      let all := if ← isRich then jobs.reverse else jobs
      all.forM shown
    else
      words.forM fun word => do
        if ← Step.isGoing then
          match findJob (← Step.process).jobs word with
          | .ok job => shown job
          | .error why =>
            if ← isRich then
              warn (word ++ ": no such job")
              Step.setStatus 1
            else failBuiltin 2 why

/-- Complain that a job cannot be brought to the front or the back. -/
def refuseJob (words : List String) : Step Unit := do
  if ← isRich then failBuiltin 1 "no job control"
  else
    let text := words.headD "%"
    match findJob (← Step.process).jobs text with
    | .error why => failBuiltin 2 why
    | .ok _ =>
      let name := if words.isEmpty then "(null)" else text
      failBuiltin 2 ("job " ++ name ++ " not created under job control")

end Metamorph.Sandbox.Shell
