import Metamorph.Machine.Basic
import Metamorph.Text.Basic
import Metamorph.Sandbox.Shell.Syntax
import Metamorph.Sandbox.World

/-! # Processes and signals

What a process is, and the signals that end one. -/

namespace Metamorph.Sandbox.Signal

/-! ## Signals

Signals by their numbers and names, and the words in which the end of a program is told that was
killed by one. -/

/-- The number of the last signal. -/
def last : Nat := 64

/-- The name of a signal, without its usual beginning. -/
def name (number : Nat) : String :=
  match Status.signalNames.lookup number with
  | some name => (name.drop 3).toString
  | none =>
    if number = 34 then "RTMIN"
    else if 34 < number && number < 50 then "RTMIN+" ++ toString (number - 34)
    else if 50 ≤ number && number < last then "RTMAX-" ++ toString (last - number)
    else if number = last then "RTMAX"
    else toString number

/-- The signal that a name stands for, which may lack its usual beginning. -/
def named? (text : String) : Option Nat :=
  let text := text.toUpper
  let text := if text.startsWith "SIG" then (text.drop 3).toString else text
  (List.range (last + 1)).find? fun number => 0 < number && name number = text

/-- The signal that a name or a number stands for. -/
def ofText? (text : String) : Option Nat :=
  let digits := text.toList
  if !digits.isEmpty && digits.all Char.isDigit then
    let number := Text.digitsValue digits
    if number ≤ last then some number else none
  else named? text

/-- The words that tell of a signal. -/
def describe (number : Nat) : String :=
  let words : List (Nat × String) :=
    [(1, "Hangup"), (2, "Interrupt"), (3, "Quit"), (4, "Illegal instruction"),
      (5, "Trace/breakpoint trap"), (6, "Aborted"), (7, "Bus error"),
      (8, "Floating point exception"), (9, "Killed"), (10, "User defined signal 1"),
      (11, "Segmentation fault"), (12, "User defined signal 2"), (13, "Broken pipe"),
      (14, "Alarm clock"), (15, "Terminated"), (16, "Stack fault"), (17, "Child exited"),
      (18, "Continued"), (19, "Stopped (signal)"), (20, "Stopped"), (21, "Stopped (tty input)"),
      (22, "Stopped (tty output)"), (23, "Urgent I/O condition"), (24, "CPU time limit exceeded"),
      (25, "File size limit exceeded"), (26, "Virtual timer expired"),
      (27, "Profiling timer expired"), (28, "Window changed"), (29, "I/O possible"),
      (30, "Power failure"), (31, "Bad system call")]
  match words.lookup number with
  | some text => text
  | none =>
    if 34 ≤ number && number ≤ last then "Real-time signal " ++ toString (number - 34)
    else "Unknown signal " ++ toString number

end Metamorph.Sandbox.Signal

namespace Metamorph.Sandbox

/-! ## Programs that run

What a single running program has of its own. Most of it is for shells; other programs have no
more than streams, a folder, and an environment. -/

/-- A variable: its value, which may be missing, and what may be done with it. -/
structure Variable where
  value : Option String := none
  /-- Whether other programs get to know it. -/
  exported : Bool := false
  constant : Bool := false
  /-- The values of an array by their indices; the first one is that of the variable. -/
  items : List (String × String) := []
  /-- Whether the indices are any texts, not numbers. -/
  keyed : Bool := false

/-- Programs that a shell has started together, with how they have ended as far as that is
known. -/
structure Job where
  number : Nat
  programs : List (Nat × Option Status)
  /-- Whether the shell was asked to wait for its end. -/
  isAwaited : Bool := false
  /-- The command, as far as it is kept. -/
  text : String := ""
  deriving Repr

namespace Job

/-- Whether all programs of a job have come to their end. -/
def isDone (job : Job) : Bool :=
  job.programs.all fun program => program.2.isSome

/-- How a job ended: as its last program did. -/
def status (job : Job) : Status :=
  ((job.programs.getLast?.bind (·.2))).getD (.exited 0)

end Job

/-- How much a program may use of something, and how far it may raise that itself; none is no
limit. -/
structure Limit where
  soft : Option Nat := none
  hard : Option Nat := none
  deriving DecidableEq, Repr

/-- Whether a run goes on. -/
inductive Flow where
  | going
  /-- The rest of this turn of a loop is left out, that of the loop so many loops outside. -/
  | nextTurn (outer : Nat)
  /-- The rest of a loop is left out, and of so many loops around it. -/
  | afterLoop (outer : Nat)
  /-- The rest of a command that the script has defined is left out. -/
  | afterCommand
  /-- The script has come to its end with an exit code. -/
  | leaving (code : Nat)
  /-- The script cannot go on; its exit code is given. -/
  | broken (code : Nat)
  | killed (signal : Nat)
  deriving DecidableEq, Repr

/-- What a program does about a signal. -/
inductive Reaction where
  | ignores
  /-- It does later what it was told to do on the signal. -/
  | notes
  | stops
  | dies
  deriving DecidableEq, Repr

/-- What a program has of its own. -/
structure Process where
  id : Nat
  /-- The program that started it. -/
  parent : Nat := 1
  /-- The group that it belongs to. -/
  group : Nat := 1
  /-- The number that a shell gives as its own, which its copies share. -/
  shellId : Nat := id
  /-- The name it was called by, and its arguments. -/
  name : String
  arguments : List String := []
  /-- The path of its working folder as it was gone to, and where that is. -/
  folder : String
  trail : Trail
  /-- What its streams lead to, by the numbers of openings. -/
  streams : List (Nat × Nat) := []
  /-- What streams led to that are led elsewhere for a while. -/
  outer : List (List (Nat × Nat)) := []
  /-- The rights that new files do not get. -/
  mask : Nat := 0o022
  /-- How far others go before. -/
  niceness : Int := 0
  /-- What is limited, by the letters of the limits. -/
  limits : List (Char × Limit) := []
  /-- The microseconds that it has worked. -/
  worked : Nat := 0
  bindings : List (String × Variable) := []
  /-- The commands that its script has defined. -/
  functions : List (String × Shell.Statement) := []
  dialect : Shell.Dialect := .plain
  /-- Whether it runs a script. -/
  isShell : Bool := false
  /-- The letters and names of the options that are set. -/
  options : List String := []
  /-- What is done on signals, and at the end, which has the number 0. -/
  traps : List (Nat × String) := []
  /-- The signals that were ignored from the beginning. -/
  deaf : List Nat := []
  /-- The signals that came and wait to be acted on. -/
  noted : List Nat := []
  /-- The exit code from before what is done on a signal, while that is done. -/
  trapStatus : Option Nat := none
  /-- What it has started beside itself, the last one first. -/
  jobs : List Job := []
  lastJob : Option Nat := none
  /-- The texts that stand in its script, by their numbers. -/
  texts : List (Nat × Shell.Word) := []
  nextText : Nat := 0
  /-- The line of the statement that runs. -/
  line : Nat := 1
  /-- The name of the builtin command that runs, which its complaints begin with. -/
  builtin : Option String := none
  /-- How many loops, and how many defined commands, the statement stands in. -/
  loops : Nat := 0
  depth : Nat := 0
  /-- Variables that a defined command has made its own, with what they were before. -/
  saved : List (List (String × Option Variable)) := []
  /-- Where programs were found, by their names. -/
  located : List (String × String) := []
  /-- The exit code of the last script whose output was taken, if one was in this statement. -/
  outputStatus : Option Nat := none
  /-- How far the options among the arguments were looked at. -/
  optionPlace : Nat := 0
  /-- The argument that the walk through options goes on with in a plain shell. -/
  optionIndex : Nat := 1
  aliases : List (String × String) := []
  /-- The exit codes of the last pipeline. -/
  stages : List Nat := []
  /-- Why something could not be written to the output. -/
  failure : Option Refusal := none
  /-- Whether it was given a part only of an input that has no end. -/
  isCut : Bool := false

namespace Process

/-- The value of a variable. -/
def value? (process : Process) (name : String) : Option String :=
  (process.bindings.lookup name).bind (·.value)

/-- Change a variable, which may be new. -/
def update (process : Process) (name : String) (change : Variable → Variable) : Process :=
  if (process.bindings.lookup name).isSome then
    { process with
      bindings := process.bindings.map fun entry =>
        if entry.1 = name then (name, change entry.2) else entry }
  else { process with bindings := (name, change {}) :: process.bindings }

/-- Give a variable a value. -/
def assign (process : Process) (name value : String) : Process :=
  process.update name fun entry =>
    { entry with value := some value, exported := entry.exported || process.options.contains "a" }

/-- Give a variable a value that other programs get to know. -/
def exportValue (process : Process) (name value : String) : Process :=
  process.update name fun entry => { entry with value := some value, exported := true }

/-- In which of so many places a plain shell keeps what has a name. -/
def placeOf (count : Nat) (name : String) : Nat :=
  let codes := name.toList.map Char.toNat
  (codes.headD 0 * 16 + codes.foldl (· + ·) 0) % count

/-- Named things in the order of the places in which a plain shell keeps them. -/
def byPlace {α : Type} (count : Nat) (entries : List (String × α)) : List (String × α) :=
  (List.range count).flatMap fun place => entries.filter fun entry => placeOf count entry.1 = place

/-- The variables that other programs get to know, in the order in which they are told. -/
def environment (process : Process) : List (String × String) :=
  let entries := process.bindings.reverse.filterMap fun (name, entry) =>
    match entry.value with
    | some value => if entry.exported then some (name, value) else none
    | none => none
  if process.isShell && process.dialect = .plain then byPlace 39 entries else entries

/-- The openings that a program keeps, each of which may occur several times. -/
def openings (process : Process) : List Nat :=
  (process.streams :: process.outer).flatten.map (·.2)

/-- The signals that nobody has to care about. -/
def harmless : List Nat := [17, 18, 23, 28]

/-- The signals that make a program stop until it is told to go on. -/
def stopping : List Nat := [19, 20, 21, 22]

/-- What a program does about a signal. -/
def reaction (process : Process) (signal : Nat) : Reaction :=
  let usual : Reaction :=
    if harmless.contains signal then .ignores
    else if stopping.contains signal then .stops
    else .dies
  if signal = 9 || signal = 19 then usual
  else if process.deaf.contains signal then .ignores
  else
    match process.traps.lookup signal with
    | some action => if action.isEmpty then .ignores else .notes
    | none => usual

/-- Whether anything is to be done on a signal or at the end. -/
def hasTraps (process : Process) : Bool :=
  process.traps.any fun trap => !trap.2.isEmpty

/-- The bytes that a file may have at most that the program writes. -/
def sizeLimit (process : Process) : Option Nat :=
  ((process.limits.lookup 'f').bind (·.soft)).map (512 * ·)

/-- The signal that a program gets because it has worked for too long, and when that is. -/
def workLimit (process : Process) : Option (Nat × Nat) :=
  match process.limits.lookup 't' with
  | some { soft := some soft, hard } =>
    some (1000000 * soft, if hard.any (· ≤ soft) then 9 else 24)
  | _ => none

end Process

end Metamorph.Sandbox
