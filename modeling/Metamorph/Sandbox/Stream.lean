import Metamorph.Sandbox.Step

/-! # Streams

A stream of a program leads to a file, a pipe or a device that was opened. Whoever reads an empty
pipe waits until somebody writes to it, and whoever writes to a full one until somebody reads it.
A pipe has come to its end when nobody is left who could write to it. -/

namespace Metamorph.Sandbox

/-- How a file is opened. -/
structure Access where
  reads : Bool := false
  writes : Bool := false
  /-- Whether everything is written at its end. -/
  atEnd : Bool := false
  /-- Whether it is made if it is missing. -/
  makes : Bool := false
  /-- Whether what is in it is taken away. -/
  empties : Bool := false
  /-- Whether a file must not be there yet. -/
  isNew : Bool := false

namespace Access

/-- For reading. -/
def reading : Access := { reads := true }

/-- For writing from the start. -/
def writing : Access := { writes := true, makes := true, empties := true }

/-- For writing at the end. -/
def appending : Access := { writes := true, makes := true, atEnd := true }

/-- For reading and writing a file as it is. -/
def keeping : Access := { reads := true, writes := true, makes := true }

/-- The opening of a target. -/
def opening (access : Access) (target : Target) : Opening :=
  { target, atEnd := access.atEnd, reads := access.reads, writes := access.writes }

end Access

namespace Step

/-- What a stream leads to. -/
def openingOf? (stream : Nat) : Step (Option Nat) := do
  return (← process).streams.lookup stream

/-- Lead a stream to what was opened, or close it. -/
def setStream (stream : Nat) (opening : Option Nat) : Step Unit :=
  modifyProcess fun process =>
    let others := process.streams.filter fun entry => entry.1 ≠ stream
    { process with
      streams := match opening with | some number => (stream, number) :: others | none => others }

/-- Open something, and give its number. -/
def openNew (opening : Opening) : Step Nat :=
  modifyGet fun run =>
    let (number, world) := run.world.openNew opening
    (number, { run with world := world })

/-- Make a pipe: what reads it, and what writes to it. -/
def openPipe : Step (Nat × Nat) := do
  let number ← modifyGet fun run =>
    let (number, world) := run.world.newPipe {}
    (number, { run with world := world })
  let reading ← openNew (Access.reading.opening (.pipe number))
  let writing ← openNew (({ writes := true } : Access).opening (.pipe number))
  return (reading, writing)

/-- Open a text for reading. -/
def openText (text : List Char) : Step Nat := do
  let number ← modifyGet fun run =>
    let (number, world) := run.world.newPipe (.ofText text)
    (number, { run with world := world })
  openNew (Access.reading.opening (.pipe number))

/-- The first stream that no other program is given. -/
def firstHidden : Nat := 100

/-- A stream that is not used, which no other program is given. -/
def freeStream : Step Nat := do
  let used := (← process).streams.map (·.1)
  return ((List.range (used.length + 1)).map (firstHidden + ·)).find? (!used.contains ·)
    |>.getD firstHidden

/-- Whether somebody writes to a pipe. -/
def isWritten (pipe : Nat) : Step Bool := do
  let run ← get
  return run.world.isWritten
    (run.process.openings ++ run.world.others.flatMap (·.openings)) pipe

/-- Whether somebody reads a pipe. -/
def isRead (pipe : Nat) : Step Bool := do
  let run ← get
  return run.world.isRead (run.process.openings ++ run.world.others.flatMap (·.openings)) pipe

/-- What can be read of a stream, at most so many characters. At the end there is nothing. -/
def peek (stream most : Nat) : Step (Except Refusal (List Char)) := do
  match ← openingOf? stream with
  | none => return .error .badStream
  | some number =>
    let opening := (← get).world.opening number
    if !opening.reads then return .error .badStream
    else
      match opening.target with
      | .folder _ => return .error .isFolder
      | .pipe pipe => do
        if ((← get).world.pipe pipe).size = 0 && (← isWritten pipe) then
          await { input := some number }
        if ← isKilled then return .ok []
        modify fun run => { run with world := run.world.modifyPipe pipe Pipe.gathered }
        return .ok ((← get).world.available number most)
      | _ => do
        if ← isKilled then return .ok []
        return .ok ((← get).world.available number most)

/-- Leave characters of a stream behind that were seen. -/
def skip (stream count : Nat) : Step Unit := do
  match ← openingOf? stream with
  | some number => modify fun run => { run with world := run.world.take number count }
  | none => pure ()

/-- How far the file was read that a stream leads to. -/
def place (stream : Nat) : Step Nat := do
  match ← openingOf? stream with
  | some number => return ((← get).world.opening number).place
  | none => return 0

/-- Go to a place in the file that a stream leads to, if it leads to one. -/
def moveTo (stream place : Nat) : Step Unit := do
  match ← openingOf? stream with
  | some number =>
    match ((← get).world.opening number).target with
    | .node _ => modify fun run => { run with world := run.world.setPlace number place }
    | _ => pure ()
  | none => pure ()

/-- Read what can be had of a stream, at most so many characters. -/
def read (stream most : Nat) : Step (Except Refusal (List Char)) := do
  match ← peek stream most with
  | .ok text => do
    skip stream text.length
    return .ok text
  | .error why => return .error why

/-- How much is read of what has no end. -/
def plenty : Nat := 4000000

/-- How much is read at once. -/
def portion : Nat := 65536

/-- Read a stream to its end; of one that has none much is read, and that is noted. The fuel
bounds the number of portions. -/
def readPortions (stream : Nat) :
    Nat → Nat → List (List Char) → Step (Except Refusal (List Char))
  | 0, _, parts => return .ok parts.reverse.flatten
  | fuel + 1, size, parts => do
    match ← read stream portion with
    | .error why => return .error why
    | .ok [] => return .ok parts.reverse.flatten
    | .ok text =>
      if plenty < size then
        modifyProcess fun process => { process with isCut := true }
        return .ok (text :: parts).reverse.flatten
      else readPortions stream fuel (size + text.length) (text :: parts)

/-- Read a stream to its end. -/
def readToEnd (stream : Nat) : Step (Except Refusal (List Char)) :=
  readPortions stream plenty 0 []

/-- Read a stream to its end, as far as that is possible. -/
def readAll (stream : Nat) : Step (List Char) := do
  match ← readToEnd stream with
  | .ok text => return text
  | .error _ => return []

/-- Read a line of a stream, without its end. The fuel bounds the portions. -/
def readLineWithin (stream : Nat) : Nat → List Char → Step (List Char)
  | 0, line => return line
  | fuel + 1, line => do
    match ← peek stream portion with
    | .error _ => return line
    | .ok [] => return line
    | .ok text => do
      let part := text.takeWhile (· ≠ '\n')
      if part.length < text.length then
        skip stream (part.length + 1)
        return line ++ part
      else
        skip stream part.length
        readLineWithin stream fuel (line ++ part)

/-- Read a line of a stream, without its end. -/
def readLine (stream : Nat) : Step (List Char) :=
  readLineWithin stream plenty []

/-- Write to a pipe. Who writes where nobody reads gets a signal. The fuel bounds how often room
has to be waited for. -/
def writePipe (number pipe : Nat) : Nat → List Char → Step (Option Refusal)
  | 0, _ => return none
  | fuel + 1, text => do
    if text.isEmpty then return none
    else if !(← isRead pipe) then
      modify (·.receive 13)
      return some .brokenPipe
    else
      let state := (← get).world.pipe pipe
      if state.isOutlet then
        modify fun run => { run with world := run.world.modifyPipe pipe (·.write text) }
        return none
      else if state.room = 0 then
        await { room := some number }
        if ← isKilled then return some .brokenPipe else writePipe number pipe fuel text
      else
        let part := text.take state.room
        modify fun run =>
          { run with world := (run.world.modifyPipe pipe (·.write part)).nudge }
        writePipe number pipe fuel (text.drop state.room)

/-- Write to a file. Who writes more than he may gets a signal. -/
def writeFileNode (number node : Nat) (opening : Opening) (text : List Char) :
    Step (Option Refusal) := do
  let run ← get
  let place := run.world.writingPlace opening node
  let allowed :=
    match run.process.sizeLimit with
    | some limit => if place + text.length ≤ limit then text.length else limit - place
    | none => text.length
  let part := text.take allowed
  modify fun run =>
    { run with
      world := (run.world.writeNode node place (Text.octets part)).setPlace number
        (place + part.length) }
  if allowed < text.length then
    modify (·.receive 25)
    return some .tooLarge
  else return none

/-- Write through an opening, and say what went wrong if not all was written. -/
def put (number : Nat) (text : List Char) : Step (Option Refusal) := do
  let opening := (← get).world.opening number
  if text.isEmpty || (← isKilled) then return none
  else if !opening.writes then return some .badStream
  else
    match opening.target with
    | .node node => writeFileNode number node opening text
    | .pipe pipe => writePipe number pipe (text.length + 2) text
    | .device .full => return some .noRoom
    | .device _ => return none
    | .folder _ => return some .badStream

/-- Write to a stream, and say what went wrong. -/
def tryWrite (stream : Nat) (text : List Char) : Step (Option Refusal) := do
  match ← openingOf? stream with
  | some number => put number text
  | none => return if text.isEmpty then none else some .badStream

/-- Write to a stream. What goes wrong with the output is noted. -/
def write (stream : Nat) (text : List Char) : Step Unit := do
  match ← tryWrite stream text with
  | some why =>
    if stream = 1 then modifyProcess fun process => { process with failure := some why }
  | none => pure ()

/-- Write to the output. -/
def out (text : String) : Step Unit :=
  write 1 text.toList

/-- Write a line of complaint. -/
def complain (text : String) : Step Unit :=
  write 2 (text ++ "\n").toList

/-- The trail that a path leads to, for the running program. -/
def resolve (follow : Bool) (path : String) : Step (Except Refusal Trail) := do
  let run ← get
  return run.world.files.resolve follow run.process.trail path

/-- What is at the end of a path. -/
def entry? (follow : Bool) (path : String) : Step (Option Entry) := do
  match ← resolve follow path with
  | .ok trail => return (← files).find? trail
  | .error _ => return none

/-- The stream that a path stands for. -/
def streamOf? (path : String) : Option Nat :=
  match path with
  | "/dev/stdin" => some 0
  | "/dev/stdout" => some 1
  | "/dev/stderr" => some 2
  | _ =>
    let digits : Option String :=
      if path.startsWith "/dev/fd/" then some (path.drop 8).toString
      else if path.startsWith "/proc/self/fd/" then some (path.drop 14).toString
      else none
    digits.bind fun text =>
      if !text.isEmpty && text.toList.all Char.isDigit then
        some (Text.digitsValue text.toList)
      else none

/-- Lead a stream to a pipe with a name, and wait for somebody at its other end. -/
def joinPipe (stream pipe : Nat) (access : Access) : Step Unit := do
  let state := (← get).world.pipe pipe
  modify fun run =>
    { run with
      world := (run.world.modifyPipe pipe fun pipe =>
        { pipe with
          readers := pipe.readers + (if access.reads then 1 else 0)
          writers := pipe.writers + (if access.writes then 1 else 0) }).nudge }
  setStream stream (some (← openNew (access.opening (.pipe pipe))))
  let others := (← get).world.others.flatMap (·.openings)
  let world := (← get).world
  if access.reads && !access.writes && !world.isWritten others pipe then
    await { partner := some (pipe, true, state.writers) }
  else if access.writes && !access.reads && !world.isRead others pipe then
    await { partner := some (pipe, false, state.readers) }

/-- Take away what is in a node. -/
def emptyNode (node : Nat) : Step Unit :=
  modify fun run =>
    match run.world.files.nodes[node]? with
    | some ⟨.file _ mode, _⟩ =>
      { run with world := run.world.withFiles fun files => files.setNode node (.file [] mode) }
    | _ => run

/-- Open for a stream what another stream leads to. -/
def reopen (stream source : Nat) (access : Access) : Step (Option Refusal) := do
  match ← openingOf? source with
  | none => return some .notFound
  | some number => do
    let target := ((← get).world.opening number).target
    match target with
    | .node node => if access.empties then emptyNode node
    | _ => pure ()
    setStream stream (some (← openNew (access.opening target)))
    return none

/-- Make a file, and open it for a stream. -/
def openMade (stream : Nat) (trail : Trail) (access : Access) : Step (Option Refusal) := do
  let mode := 0o666 &&& (0o777 ^^^ (← process).mask)
  match ← tryFiles fun files => do
    files.checkPlace trail
    return files.add trail (.file [] mode) with
  | .error why => return some why
  | .ok () =>
    match (← files).nodeAt? trail with
    | some node => do
      setStream stream (some (← openNew (access.opening (.node node))))
      return none
    | none => return some .notFound

/-- Open a file for a stream, and say why not if that is not possible. -/
def openPath (stream : Nat) (path : String) (access : Access) : Step (Option Refusal) := do
  match streamOf? path, ← resolve true path with
  | some source, _ => reopen stream source access
  | none, .error why => return some why
  | none, .ok trail =>
    let files ← files
    match files.find? trail, files.nodeAt? trail with
    | some (.folder _), _ =>
      if access.writes then return some .isFolder
      else
        setStream stream (some (← openNew (access.opening (.folder trail))))
        return none
    | some (.file _ _), some node =>
      if access.isNew then return some .exists
      else
        if access.empties then emptyNode node
        setStream stream (some (← openNew (access.opening (.node node))))
        return none
    | some (.pipe number _), _ => do
      joinPipe stream number access
      return none
    | some (.device device), _ => do
      setStream stream (some (← openNew (access.opening (.device device))))
      return none
    | _, _ =>
      if !access.makes then return some .notFound
      else if path.endsWith "/" then return some .isFolder
      else openMade stream trail access

/-- Do something with a file that is opened for it. -/
def withOpen {α : Type} (path : String) (access : Access) (body : Nat → Step α) :
    Step (Except Refusal α) := do
  let stream ← freeStream
  match ← openPath stream path access with
  | some why => return .error why
  | none => do
    let value ← body stream
    setStream stream none
    return .ok value

/-- The bytes of a file for the running program, as a text. -/
def readFile (path : String) : Step (Except Refusal (List Char)) := do
  match ← withOpen path .reading readToEnd with
  | .ok result => return result
  | .error why => return .error why

/-- Write a text to a file. -/
def writeInto (access : Access) (path : String) (text : List Char) :
    Step (Except Refusal Unit) := do
  match ← withOpen path access fun stream => tryWrite stream text with
  | .ok (some why) => return .error why
  | .ok none => return .ok ()
  | .error why => return .error why

/-- Replace what is in a file, which is made if it is missing. -/
def writeFile (path : String) (text : List Char) : Step (Except Refusal Unit) :=
  writeInto .writing path text

/-- Start another program whose output is read, and give the output and how it ended. -/
def capture (delay : Nat) (change : Process → Process) (body : Step Unit) :
    Step (List Char × Status) := do
  let (reading, writing) ← openPipe
  let stream ← freeStream
  let id ← start delay (fun process =>
    let process := change process
    { process with
      streams := (1, writing) :: process.streams.filter fun entry => entry.1 ≠ 1 }) body
  setStream stream (some reading)
  let text ← readAll stream
  setStream stream none
  return (text, ← awaitEnd id)

end Step

end Metamorph.Sandbox
