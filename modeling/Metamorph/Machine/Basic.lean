import Metamorph.Error
import Metamorph.Machine.Procedure

/-! # Machines

What the library needs of the machine it works on: files, commands and a clock. Files and
folders are named by paths with slashes between the names. -/

namespace Metamorph

/-- A command for a machine. -/
structure Command where
  program : String
  arguments : List String
  /-- The folder to work in, if it is not that of whoever gives the command. -/
  folder : Option String := none
  /-- Variables set for the command; a later entry of a name counts. -/
  environment : List (String × String) := []
  deriving DecidableEq, Repr

/-- How a command came to its end. -/
inductive Status where
  | exited (code : Nat)
  | killed (signal : Nat)
  deriving DecidableEq, Repr

/-- A command that came to its end, with what it wrote. -/
structure Ending where
  status : Status
  stdout : List UInt8
  stderr : List UInt8
  deriving DecidableEq, Repr

namespace Status

/-- Whether a command ended well. -/
def isSuccess (status : Status) : Bool :=
  status = .exited 0

/-- The names of the signals that end a command. -/
def signalNames : List (Nat × String) :=
  [(1, "SIGHUP"), (2, "SIGINT"), (3, "SIGQUIT"), (4, "SIGILL"), (5, "SIGTRAP"), (6, "SIGABRT"),
    (7, "SIGBUS"), (8, "SIGFPE"), (9, "SIGKILL"), (10, "SIGUSR1"), (11, "SIGSEGV"),
    (12, "SIGUSR2"), (13, "SIGPIPE"), (14, "SIGALRM"), (15, "SIGTERM"), (16, "SIGSTKFLT"),
    (17, "SIGCHLD"), (18, "SIGCONT"), (19, "SIGSTOP"), (20, "SIGTSTP"), (21, "SIGTTIN"),
    (22, "SIGTTOU"), (23, "SIGURG"), (24, "SIGXCPU"), (25, "SIGXFSZ"), (26, "SIGVTALRM"),
    (27, "SIGPROF"), (28, "SIGWINCH"), (29, "SIGIO"), (30, "SIGPWR"), (31, "SIGSYS")]

/-- The text of an ending. -/
def display : Status → String
  | .exited code => "exit status: " ++ toString code
  | .killed signal =>
    match signalNames.lookup signal with
    | some name => "signal: " ++ toString signal ++ " (" ++ name ++ ")"
    | none => "signal: " ++ toString signal

end Status

namespace Machine

/-- What a machine can be asked for. -/
inductive Action where
  /-- Whether there is a file or folder. -/
  | isPresent (path : String)
  /-- Make a folder and those around it. -/
  | createFolders (path : String)
  /-- Make a file, or replace what is in it. -/
  | write (path : String) (bytes : List UInt8)
  /-- Add to the end of a file, which is made if it is missing. -/
  | append (path : String) (bytes : List UInt8)
  /-- Start a command with an empty input and wait for its end. -/
  | launch (command : Command)
  /-- Start a command with an empty input, and stop it when it takes more than some seconds. -/
  | launchWithin (seconds : Nat) (command : Command)
  /-- The time. -/
  | now
  deriving DecidableEq, Repr

/-- What a machine replies. A command that is stopped has no ending. -/
abbrev Reply : Action → Type
  | .isPresent _ => Bool
  | .createFolders _ => Except Refusal Unit
  | .write _ _ => Except Refusal Unit
  | .append _ _ => Except Refusal Unit
  | .launch _ => Except Refusal Ending
  | .launchWithin _ _ => Except Refusal (Option Ending)
  | .now => String

/-- The interface of machines. -/
abbrev interface : Interface := ⟨Action, Reply⟩

end Machine

/-- Work on a machine that may fail. -/
abbrev Work (α : Type) : Type :=
  ExceptT Error (Procedure Machine.interface) α

namespace Work

/-- Ask a machine for something. -/
def ask (action : Machine.Action) : Work (Machine.Reply action) :=
  ExceptT.lift (Procedure.perform (I := Machine.interface) action)

/-- Turn a refusal into an error. -/
def orFail {α : Type} (reply : Except Refusal α) : Work α :=
  match reply with
  | .ok a => return a
  | .error why => throw (.io why)

/-- Make a folder and those around it. -/
def createFolders (path : String) : Work Unit := do
  orFail (← ask (.createFolders path))

/-- Make a file, or replace what is in it. -/
def write (path : String) (bytes : List UInt8) : Work Unit := do
  orFail (← ask (.write path bytes))

/-- Add to the end of a file. -/
def append (path : String) (bytes : List UInt8) : Work Unit := do
  orFail (← ask (.append path bytes))

end Work

/-- The path of a name inside a folder. -/
def inside (folder name : String) : String :=
  if folder.isEmpty || folder.endsWith "/" then folder ++ name else folder ++ "/" ++ name

/-- The path of the folder around a file. -/
def folderOf (path : String) : String :=
  String.ofList (((path.toList.reverse.dropWhile (· ≠ '/')).drop 1).reverse)

end Metamorph
