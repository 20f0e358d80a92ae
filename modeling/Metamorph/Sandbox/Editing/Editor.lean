import Metamorph.Sandbox.Editing.Basic
import Metamorph.Sandbox.Tool.Basic

/-! # The editor

What the editing of lines works on: the lines that are left, the line that is edited, the text
that is kept for later, and what was written. An output whose last line came without its end gets
that end as soon as more is written to it. -/

namespace Metamorph.Sandbox.Editing

/-- A line that is edited, and whether it had an end. -/
structure Buffer where
  text : List Char := []
  ended : Bool := true

/-- A line that is left to be edited. -/
structure Line where
  buffer : Buffer
  /-- The file it comes from; a dash stands for the input. -/
  file : String
  /-- Whether it is the first line of its file. -/
  isFirst : Bool := false

/-- What lines are read of: a stream, and a text that was read of it already. -/
structure Source where
  stream : Nat
  file : String
  text : List Char := []
  /-- Whether nothing more comes. -/
  isAtEnd : Bool := false
  /-- How many lines were read of it. -/
  count : Nat := 0

/-- What was written, the last part first. -/
structure Output where
  parts : List (List Char) := []
  size : Nat := 0
  lacksEnd : Bool := false

namespace Output

/-- Write a text that has its end. -/
def write (output : Output) (delimiter : Char) (text : List Char) : Output :=
  { parts := text :: if output.lacksEnd then [delimiter] :: output.parts else output.parts
    size := output.size + text.length + 1 }

/-- Write a line. -/
def writeLine (output : Output) (delimiter : Char) (buffer : Buffer) : Output :=
  let text := if buffer.ended then buffer.text ++ [delimiter] else buffer.text
  { output.write delimiter text with lacksEnd := !buffer.ended }

/-- All that was written. -/
def text (output : Output) : List Char :=
  output.parts.reverse.flatten

end Output

/-- How far a range of lines has come. -/
inductive Reach where
  | before
  | after
  | inside
  /-- Inside of a range that ends at a line. -/
  | upTo (number : Nat)
  deriving DecidableEq

/-- What is added to the output behind a line. -/
inductive Addition where
  | text (text : List Char)
  | file (path : String)
  /-- A line of a file, whether it has its end or not. -/
  | line (text : List Char)

/-- How lines are edited. -/
structure Manner where
  commands : Array Command
  /-- Whether lines are only shown by commands. -/
  quiet : Bool := false
  /-- Whether the numbers of lines begin anew with each file. -/
  separate : Bool := false
  /-- Whether files are replaced by what comes of them, and where the old ones are kept. -/
  inPlace : Option String := none
  delimiter : Char := '\n'
  /-- Whether no more is read than is needed, and nothing waits to be written. -/
  unbuffered : Bool := false
  /-- How wide lines are shown with marks. -/
  width : Nat := 70
  /-- How other programs are run. -/
  runner : Runner

/-- The state of the editing. -/
structure Editor where
  /-- The files that are left. -/
  paths : List String
  source : Option Source := none
  /-- The line that was read already but is not edited yet. -/
  upcoming : Option Line := none
  /-- The exit code that comes of the files that cannot be read. -/
  failure : Nat := 0
  buffer : Buffer := {}
  kept : Buffer := {}
  number : Nat := 0
  file : String := "-"
  additions : List Addition := []
  replaced : Bool := false
  /-- How far the ranges of the commands have come. -/
  reaches : Array Reach
  /-- The expression that was used last, and whether it goes by lines. -/
  last : Option (Regex × Bool) := none
  output : Output := {}
  /-- What was written to other files. -/
  others : List (String × Output) := []
  /-- What is left of the files whose lines are read one by one. -/
  unread : List (String × List Char) := []

/-- A step of editing; a fault ends the editing. -/
abbrev Edit := ExceptT String (StateT Editor Step)

namespace Manner

/-- Where ranges stand before the first line: one from line 0 on has begun. -/
def reaches (manner : Manner) : Array Reach :=
  manner.commands.map fun command =>
    match command.guard.first with
    | some (.line 0) => .inside
    | _ => .before

/-- The editor in front of some files. -/
def editor (manner : Manner) (paths : List String) : Editor :=
  { paths, reaches := manner.reaches }

end Manner

namespace Edit

/-- Do something outside of the editing. -/
def outside {α : Type} (step : Step α) : Edit α :=
  ExceptT.lift (StateT.lift step)

/-- Write to the output. -/
def write (manner : Manner) (text : List Char) : Edit Unit :=
  modify fun editor => { editor with output := editor.output.write manner.delimiter text }

/-- Write a line to the output. -/
def writeLine (manner : Manner) (buffer : Buffer) : Edit Unit :=
  modify fun editor => { editor with output := editor.output.writeLine manner.delimiter buffer }

/-- Write a line to a file. The output under its name as a file shares no more than the text with
the usual output. -/
def writeTo (manner : Manner) (path : String) (buffer : Buffer) : Edit Unit :=
  modify fun editor =>
    let output := ((editor.others.lookup path).getD {}).writeLine manner.delimiter buffer
    let set (output : Output) : List (String × Output) :=
      (path, output) :: editor.others.filter fun entry => entry.1 ≠ path
    if path = "/dev/stdout" then
      { editor with
        others := set { output with parts := [] }
        output := { editor.output with parts := output.parts ++ editor.output.parts } }
    else { editor with others := set output }

/-- The text of a file, as far as it was written; there is none if it cannot be read. -/
def textOf (path : String) : Edit (List Char) := do
  match (← get).others.lookup path with
  | some output => return output.text
  | none =>
    match ← outside (Step.readFile path) with
    | .ok text => return text
    | .error _ => return []

/-- Take the next line of a file with its end. -/
def takeLine (delimiter : Char) (path : String) : Edit (List Char) := do
  let text ←
    match (← get).unread.lookup path with
    | some text => pure text
    | none => textOf path
  let line := text.takeWhile (· ≠ delimiter)
  let length := line.length + 1
  modify fun editor =>
    { editor with
      unread := (path, text.drop length) :: editor.unread.filter fun entry => entry.1 ≠ path }
  return text.take length

/-- Write what is to be added behind a line. -/
def writeAdditions (manner : Manner) : Edit Unit := do
  let additions := (← get).additions.reverse
  modify fun editor => { editor with additions := [] }
  additions.forM fun addition => do
    match addition with
    | .text text => write manner text
    | .file path => do write manner (← textOf path)
    | .line text => write manner text

/-- How much of a stream is read at once. -/
def portion : Nat := 4096

/-- Read more of a source. -/
def fill (manner : Manner) (source : Source) : Step (Except Refusal Source) := do
  match ← Step.peek source.stream portion with
  | .error why => return .error why
  | .ok [] => return .ok { source with isAtEnd := true }
  | .ok text => do
    let line := text.takeWhile (· ≠ manner.delimiter)
    let text := if manner.unbuffered then text.take (line.length + 1) else text
    Step.skip source.stream text.length
    return .ok { source with text := source.text ++ text }

/-- Take the next line off a source, if there is one. The fuel bounds the number of portions. -/
def takeSourceLine (manner : Manner) (source : Source) :
    Nat → Step (Except Refusal (Option Line × Source))
  | 0 => return .ok (none, source)
  | fuel + 1 => do
    let text := source.text.takeWhile (· ≠ manner.delimiter)
    let ended := text.length < source.text.length
    if ended || (source.isAtEnd && !text.isEmpty) then
      let line : Line :=
        { buffer := { text, ended }, file := source.file, isFirst := source.count = 0 }
      return .ok (some line,
        { source with text := source.text.drop (text.length + 1), count := source.count + 1 })
    else if source.isAtEnd then return .ok (none, source)
    else
      match ← fill manner source with
      | .ok source => takeSourceLine manner source fuel
      | .error why => return .error why

/-- How many portions a line may have at most. -/
def mostPortions : Nat := 1000000

/-- Complain of a file that cannot be read, and go on with the next one, or with none. -/
def refuseFile (goesOn : Bool) (code : Nat) (text : String) : Edit Unit := do
  outside (Tool.complain "sed" text)
  modify fun editor =>
    { editor with
      source := none
      paths := if goesOn then editor.paths else []
      failure := if goesOn && editor.failure ≠ 0 then editor.failure else code }

/-- Open a file whose lines are to be edited. -/
def openSource (manner : Manner) (path : String) : Edit Unit := do
  if path = "-" && manner.inPlace.isNone then
    modify fun editor => { editor with source := some { stream := 0, file := path } }
  else
    let entry? ← outside (Step.entry? true path)
    match manner.inPlace.isSome, entry? with
    | true, some (.folder _) =>
      refuseFile false 4 ("couldn't edit " ++ path ++ ": not a regular file")
    | _, _ => do
      let stream ← outside Step.freeStream
      match ← outside (Step.openPath stream path .reading) with
      | none => modify fun editor => { editor with source := some { stream, file := path } }
      | some why => refuseFile true 2 ("can't read " ++ path ++ ": " ++ why.reason)

/-- The next line, which is left where it is. The fuel bounds the number of files. -/
def upcoming? (manner : Manner) : Nat → Edit (Option Line)
  | 0 => return none
  | fuel + 1 => do
    let editor ← get
    match editor.upcoming, editor.source, editor.paths with
    | some line, _, _ => return some line
    | none, none, [] => return none
    | none, none, path :: paths => do
      set { editor with paths }
      openSource manner path
      upcoming? manner fuel
    | none, some source, _ =>
      match ← outside (takeSourceLine manner source mostPortions) with
      | .error why => do
        refuseFile false 4 ("read error on " ++ source.file ++ ": " ++ why.reason)
        return none
      | .ok (some line, source) => do
        set { editor with upcoming := some line, source := some source }
        return some line
      | .ok (none, source) => do
        if source.stream ≠ 0 then outside (Step.setStream source.stream none)
        set { editor with source := none }
        upcoming? manner fuel

/-- How many files there may be. -/
def mostFiles : Nat := 100000

/-- Whether no line follows, or none of the same file where that matters. -/
def isAtEnd (manner : Manner) : Edit Bool := do
  match ← upcoming? manner mostFiles with
  | none => return true
  | some next => return manner.separate && next.isFirst

/-- Leave what was read of the input but not edited to others who read it. -/
def leaveInput (manner : Manner) : Edit Unit := do
  let editor ← get
  match editor.source with
  | some source =>
    if source.stream = 0 then
      let line := editor.upcoming.map fun line =>
        line.buffer.text ++ if line.buffer.ended then [manner.delimiter] else []
      let count := source.text.length + (line.getD []).length
      outside (modify fun run =>
        match run.process.streams.lookup 0 with
        | some number =>
          let opening := run.world.opening number
          match opening.target with
          | .node _ => { run with world := run.world.setPlace number (opening.place - count) }
          | _ => run
        | none => run)
  | none => pure ()

/-- How much is written before it is passed on. -/
def mostWritten : Nat := 4096

/-- Pass on what was written. -/
def flush : Edit Unit := do
  let output := (← get).output
  outside (Step.write 1 output.text)
  modify fun editor => { editor with output := { lacksEnd := output.lacksEnd } }

/-- Pass on what was written if there is much of it, and say whether to go on. -/
def flushMuch (manner : Manner) : Edit Bool := do
  if manner.inPlace.isNone && (manner.unbuffered || mostWritten < (← get).output.size) then flush
  return !(← outside Step.isKilled)

/-- The name under which a file is kept before it is replaced. -/
def keptName (suffix path : String) : String :=
  if suffix.contains '*' then
    let names := path.splitOn "/"
    let name := (names.getLast?.getD "")
    let kept := name.intercalate (suffix.splitOn "*")
    if suffix.contains '/' then kept else "/".intercalate (names.dropLast ++ [kept])
  else path ++ suffix

/-- Replace the file that was edited by what came of it. -/
def finishFile (manner : Manner) : Edit Unit := do
  match manner.inPlace with
  | none => pure ()
  | some suffix => do
    let editor ← get
    if editor.number ≠ 0 then
      if !suffix.isEmpty then
        match ← outside (Step.readFile editor.file) with
        | .ok before => do
          let _ ← outside (Step.writeFile (keptName suffix editor.file) before)
        | .error _ => pure ()
      let _ ← outside (Step.writeFile editor.file editor.output.text)
      set { editor with output := {} }

/-- Go on to the next line, which may be added to the one that is edited, and say whether there
is one. -/
def readLine (manner : Manner) (adds : Bool) : Edit Bool := do
  writeAdditions manner
  match ← upcoming? manner mostFiles with
  | none => return false
  | some line => do
    if line.isFirst && manner.separate then do
      finishFile manner
      modify fun editor => { editor with number := 0, reaches := manner.reaches }
    modify fun editor =>
      let text :=
        if adds then editor.buffer.text ++ manner.delimiter :: line.buffer.text
        else line.buffer.text
      { editor with
        upcoming := none, replaced := false, file := line.file, number := editor.number + 1
        buffer := { line.buffer with text } }
    return true

end Edit

end Metamorph.Sandbox.Editing
