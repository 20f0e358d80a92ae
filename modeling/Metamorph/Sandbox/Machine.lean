import Metamorph.Machine.Basic
import Metamorph.Sandbox.Launch
import Metamorph.Sandbox.Step

/-! # The sandbox

A machine in memory. Its programs are shells and tools, its clock always shows the same time,
and nothing in it touches anything outside. -/

namespace Metamorph

/-- A machine in memory. -/
structure Sandbox where
  files : Sandbox.Files := {}
  /-- What the clock shows. -/
  time : String

namespace Sandbox

/-- The folders and programs that are there from the beginning. -/
def usualEntries : List (Trail × Entry) :=
  let folder (trail : Trail) : Trail × Entry := (trail, .folder folderMode)
  let device (name : String) (device : Device) : Trail × Entry := (["dev", name], .device device)
  let stream (name path : String) : Trail × Entry := (["dev", name], .link path)
  let text (trail : Trail) (text : String) : Trail × Entry :=
    (trail, .file (Text.octets text.toList) fileMode)
  [(["tmp"], .folder 0o1777)]
    ++ [["dev"], ["usr"], ["usr", "bin"], ["usr", "lib"], ["usr", "share"], ["etc"], ["home"],
      ["root"], ["var"], ["var", "tmp"], ["proc"], ["mnt"], ["opt"], ["run"], ["srv"]].map folder
    ++ [(["bin"], .link "usr/bin"), (["sbin"], .link "usr/sbin"), (["lib"], .link "usr/lib"),
      device "null" .nothing, device "zero" .zeros, device "full" .full,
      stream "fd" "/proc/self/fd", stream "stdin" "/proc/self/fd/0",
      stream "stdout" "/proc/self/fd/1", stream "stderr" "/proc/self/fd/2",
      text ["etc", "passwd"] "root:x:0:0:root:/root:/bin/bash\n",
      text ["etc", "group"] "root:x:0:\n", text ["etc", "hostname"] "localhost\n"]
    ++ programNames.map fun name =>
      (["usr", "bin", name], .file (Text.octets (programText name)) folderMode)

/-- The files with what is always there. -/
def withUsualEntries (files : Files) : Files :=
  if (files.find? ["usr", "bin"]).isSome then files
  else
    usualEntries.foldl (fun files (trail, entry) =>
      if (files.find? trail).isSome then files else files.add trail entry) files

/-- The trail of a path that someone outside gives. -/
def trailOf (path : String) : Trail :=
  Trail.ofPath [] (Text.spread path)

/-- The files below a folder with their paths inside it, in increasing order. -/
def filesBelow (sandbox : Sandbox) (folder : String) : List (String × List UInt8) :=
  (sandbox.files.below (trailOf folder)).map fun (path, bytes) => (Text.gather path, bytes)

/-- Whether a text could be told to a program. -/
def canBeTold (text : String) : Bool :=
  !text.toList.contains (Char.ofNat 0)

/-- What programs learn of the environment that they are given: an entry without a name is left
out, and a name ends before the first equals sign. -/
def learned (entries : List (String × String)) : List (String × String) :=
  entries.filterMap fun (name, value) =>
    let text := name ++ "=" ++ value
    let known := text.toList.takeWhile (· ≠ '=')
    if name.isEmpty || known.isEmpty then none
    else
      some (Text.spread (String.ofList known),
        Text.spread (String.ofList (text.toList.drop (known.length + 1))))

/-- The variables that programs start with. -/
def usualEnvironment (folder : String) : List (String × String) :=
  [("HOME", "/root"), ("PATH", usualPath), ("PWD", folder)]

/-- How deep scripts and programs may be nested. -/
def depth : Nat := 4000

/-- The number of the program that a command starts. -/
def firstId : Nat := 4242

/-- The run of a command that has not begun yet. Its input is empty, and somebody reads what it
writes. -/
def newRun (files : Files) (seconds : Option Nat) (command : Command) : Run :=
  let folder := Text.spread (command.folder.getD "/")
  let files := withUsualEntries files
  let trail := ((files.resolve true [] folder).toOption).getD []
  let process : Process :=
    { id := firstId, name := "", folder := "/" ++ "/".intercalate trail, trail
      streams := [(0, 0), (1, 1), (2, 2)] }
  let outlet (number : Nat) : Opening := { target := .pipe number, reads := false }
  { world :=
      { files, start := max startOfTime (files.time + 1)
        openings := #[{ target := .device .nothing, writes := false }, outlet 0, outlet 1]
        pipes := #[{ isOutlet := true }, { isOutlet := true }]
        limit := seconds.map (1000000 * ·), nextId := firstId + 1 }
    process := (usualEnvironment folder ++ learned command.environment).foldl
      (fun process (name, value) => process.exportValue name value) process }

/-- Refuse to start a program: all that it is told must be texts, and a folder to work in must
be there, and so must the program, which needs to say how it is run. -/
def checkStart (command : Command) (run : Run) : Except Refusal Unit := do
  let texts := command.program :: command.arguments ++ command.folder.toList
    ++ command.environment.flatMap fun (name, value) => [name, value]
  if !texts.all canBeTold then throw .zeroByte
  let files := run.world.files
  match files.resolve true [] (Text.spread (command.folder.getD "/")) with
  | .error why => throw why
  | .ok trail =>
    match files.find? trail with
    | some (.folder _) => pure ()
    | some _ => throw .notFolder
    | none => throw .notFound
  let search := (run.process.value? "PATH").getD usualPath
  let name := Text.spread command.program
  if name.isEmpty then throw .notFound
  match (findProgram files run.process.trail search name).2 with
  | .missing => throw .notFound
  | .denied => throw .denied
  | .file trail =>
    let bytes ← files.read trail
    match Shell.interpreterOf? (Text.ofOctets bytes) with
    | none => throw .noProgram
    | some interpreter =>
      match findAt files run.process.trail (interpreter.headD "") with
      | .missing => throw .notFound
      | .denied => throw .denied
      | _ => return ()
  | _ => return ()

/-- What the program of a command does. -/
def bodyOf (command : Command) : Step Unit := do
  match ← (Shell.engine depth).runProgram ((command.program :: command.arguments).map Text.spread) with
  | .ok body => body
  | .error _ => Step.setStatus 127

/-- Whether a command has come to its end, and nobody keeps its output open. -/
def isOver (schedule : Schedule) : Bool :=
  let isOutlet (number : Nat) : Bool :=
    match (schedule.world.opening number).target with
    | .pipe pipe => (schedule.world.pipe pipe).isOutlet
    | _ => false
  (schedule.world.ended.any fun ended => ended.id = firstId) && !schedule.openings.any isOutlet

/-- How many turns programs may have at most. -/
def mostTurns : Nat := 20000000

/-- Start a command and let it run to its end, if it comes to one within the seconds. -/
def runCommand (seconds : Option Nat) (command : Command) :
    StateM Sandbox (Except Refusal (Option Ending)) := do
  let sandbox ← get
  let start := newRun sandbox.files seconds command
  match checkStart command start with
  | .error why => return .error why
  | .ok () =>
    let sleeper : Sleeper :=
      { process := start.process, wait := { time := some 0 }
        next := fun world => (bodyOf command { start with world }).toTask }
    let schedule : Schedule := { world := start.world, sleepers := [sleeper] }
    let (schedule, inTime) := schedule.run isOver mostTurns
    let world := schedule.world
    set { sandbox with files := world.files }
    let bytes (pipe : Nat) : List UInt8 := Text.octets (world.pipe pipe).text
    match world.ended.find? fun ended => ended.id = firstId with
    | some ended =>
      if inTime then return .ok (some ⟨ended.status, bytes 0, bytes 1⟩) else return .ok none
    | none => return .ok none

/-- Keep changed files, or say why there are none. -/
def keep (files : Except Refusal Files) : StateM Sandbox (Except Refusal Unit) :=
  match files with
  | .ok files => do
    modify fun sandbox => { sandbox with files := files }
    return .ok ()
  | .error why => return .error why

/-- Do what a machine is asked for. A command that never ends is killed where no limit is
set. -/
def perform : (action : Machine.Action) → StateM Sandbox (Machine.Reply action)
  | .isPresent path => do return ((← get).files.find? (trailOf path)).isSome
  | .createFolders path => do keep ((← get).files.createFolders (trailOf path))
  | .write path bytes => do keep ((← get).files.write (trailOf path) bytes)
  | .append path bytes => do keep ((← get).files.append (trailOf path) bytes)
  | .launch command => do
    match ← runCommand none command with
    | .ok (some ending) => return .ok ending
    | .ok none => return .ok ⟨.killed 9, [], []⟩
    | .error why => return .error why
  | .launchWithin seconds command => runCommand (some seconds) command
  | .now => do return (← get).time

/-- Carry out work in the sandbox. -/
def carryOut {α : Type} (work : Work α) : StateM Sandbox (Except Error α) :=
  work.run.carryOut perform

end Sandbox

end Metamorph
