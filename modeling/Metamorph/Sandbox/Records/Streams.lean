import Metamorph.Sandbox.Records.Work

/-! # Inputs and outputs of programs on records

Records come from the files that the arguments name, one after the other, or from the input.
Other files and the outputs of commands are read record by record as well. -/

namespace Metamorph.Sandbox.Records.Act

/-- The first match of an expression that is not empty, from a place on. The fuel bounds the
number of places. -/
def fullMatch? (regex : Regex) (text : List Char) : Nat → Nat → Option Regex.Found
  | 0, _ => none
  | fuel + 1, start =>
    match regex.search? {} text start with
    | none => none
    | some found =>
      if found.first < found.last then some found else fullMatch? regex text fuel (found.last + 1)

/-- A text up to the first empty line, and what follows the empty lines. -/
def paragraph? : List Char → Option (List Char × List Char)
  | '\n' :: '\n' :: rest => some ([], rest.dropWhile (· = '\n'))
  | c :: rest => (paragraph? rest).map fun (front, rest) => (c :: front, rest)
  | [] => none

/-- Cut the first record off a text, as a separator of records demands: an empty one stands for
empty lines, and one of several characters for the matches of an expression. As long as the text
may go on, there is no record whose end might be another one. -/
def cutRecord (separator text : List Char) (isAtEnd : Bool) :
    Act (Option (List Char × List Char)) := do
  let last (text : List Char) : Option (List Char × List Char) :=
    if isAtEnd && !text.isEmpty then some (text, []) else none
  match separator with
  | [] =>
    let body := text.dropWhile (· = '\n')
    match paragraph? body with
    | some found => return some found
    | none => return last (if body.getLast? = some '\n' then body.dropLast else body)
  | [c] =>
    let record := text.takeWhile (· ≠ c)
    match text.drop record.length with
    | _ :: rest => return some (record, rest)
    | [] => return last text
  | _ =>
    let regex ← regexIn separator
    match fullMatch? regex text (text.length + 1) 0 with
    | some found =>
      if isAtEnd || found.last < text.length then
        return some (text.take found.first, text.drop found.last)
      else return none
    | none => return last text

/-- How much of a stream is read at once. -/
def portion : Nat := 4096

/-- Take a record off a source, if there is one. The fuel bounds the number of portions. -/
def takeRecord (source : Source) : Nat → Act (Option (List Char) × Source)
  | 0 => return (none, source)
  | fuel + 1 => do
    match ← cutRecord (← globalText "RS") source.text source.isAtEnd with
    | some (record, rest) => return (some record, { source with text := rest })
    | none =>
      if source.isAtEnd then return (none, source)
      else
        match ← outside (Step.read source.stream portion) with
        | .ok [] => takeRecord { source with isAtEnd := true } fuel
        | .ok text => takeRecord { source with text := source.text ++ text } fuel
        | .error _ => takeRecord { source with isAtEnd := true } fuel

/-- How many portions a record may have at most. -/
def mostPortions : Nat := 1000000

/-- Add one to the number of records. -/
def countRecord (name : String) : Act Unit := do
  setGlobal name (.number ((← global name).toNumber + 1))

/-- Whether an argument sets a variable: the name, and the text behind the sign. -/
def assignment? (text : List Char) : Option (String × List Char) :=
  let name := text.takeWhile fun c => c.isAlphanum || c = '_'
  match name, text.drop name.length with
  | first :: _, '=' :: value =>
    if first.isDigit then none else some (String.ofList name, value)
  | _, _ => none

/-- Set a variable as an argument says. -/
def assignText (name : String) (text : List Char) : Act Unit :=
  setGlobal name (.input (unescape (text.length + 1) text))

/-- The argument with a number. -/
def argument (number : Nat) : Act (List Char) := do
  let table ← table (← arrayOf "ARGV")
  textOf ((table.find? (toString number)).getD .unset)

/-- Open an input for records. -/
def openInput (name : List Char) (stream : Nat) : Act Unit := do
  setGlobal "FILENAME" (.text name)
  setGlobal "FNR" (.number 0)
  modify fun work => { work with input := some { stream }, hadInput := true }

/-- Open a file for reading on a stream of its own. -/
def openFile (path : String) : Act (Except Refusal Nat) := do
  if path = "-" || path = "/dev/stdin" then return .ok 0
  else
    let stream ← outside Step.freeStream
    match ← outside (Step.openPath stream path .reading) with
    | none => return .ok stream
    | some why => return .error why

/-- Close a stream that was opened for reading. -/
def closeStream (stream : Nat) : Act Unit := do
  if stream ≠ 0 then outside (Step.setStream stream none)

/-- Close the input. -/
def closeInput : Act Unit := do
  match (← get).input with
  | some source => do
    closeStream source.stream
    modify fun work => { work with input := none }
  | none => pure ()

/-- Open the next input, if there is one. The fuel bounds the number of arguments. -/
def openNext : Nat → Act Bool
  | 0 => return false
  | fuel + 1 => do
    let number := (← get).nextInput
    let count := (Value.toInteger (← global "ARGC").toNumber).toNat
    if count ≤ number then
      if (← get).hadInput then return false
      else do
        openInput ['-'] 0
        return true
    else
      modify fun work => { work with nextInput := number + 1 }
      let text ← argument number
      match assignment? text with
      | some (name, value) => do
        assignText name value
        openNext fuel
      | none =>
        if text.isEmpty then openNext fuel
        else
          let path := String.ofList text
          match ← openFile path with
          | .ok stream => do
            openInput text stream
            return true
          | .error why =>
            throw (.failure ("cannot open \"" ++ path ++ "\" (" ++ why.reason ++ ")"))

/-- Take the next record off the inputs, if there is one. The fuel bounds the number of inputs. -/
def nextRecord? : Nat → Act (Option (List Char))
  | 0 => return none
  | fuel + 1 => do
    match (← get).input with
    | none => if ← openNext (fuel + 1) then nextRecord? fuel else return none
    | some source =>
      match ← takeRecord source mostPortions with
      | (none, _) => do
        closeInput
        if ← openNext (fuel + 1) then nextRecord? fuel else return none
      | (some record, source) => do
        modify fun work => { work with input := some source }
        countRecord "NR"
        countRecord "FNR"
        return some record

/-- How many inputs there can be. -/
def mostInputs : Nat := 10000

/-- Take a record off a source that was opened before, or that is opened by a step. -/
def readSource (name : String) (start : Act (Option Source)) :
    Act (Option (Option (List Char))) := do
  let source? ←
    match (← get).sources.lookup name with
    | some source => pure (some source)
    | none => start
  match source? with
  | none => return none
  | some source => do
    let (found, source) ← takeRecord source mostPortions
    modify fun work =>
      { work with
        sources := (name, source) :: work.sources.filter fun entry => entry.1 ≠ name }
    return some found

/-- The words that run a command. -/
def commandWords (command : String) : List String :=
  ["/bin/sh", "-c", command]

/-- Run a command whose input is a text. -/
def runWith (command : String) (text : List Char) : Act Status := do
  let runner := (← get).runner
  outside do
    let opening ← Step.openText text
    let result ← runner.start (commandWords command) fun process =>
      { process with
        streams := (0, opening) :: process.streams.filter fun entry => entry.1 ≠ 0 }
    match result with
    | .ok id => Step.awaitEnd id
    | .error _ => return .exited 127

/-- Take a record off a file. -/
def readFromFile (path : String) : Act (Option (Option (List Char))) :=
  readSource path do
    match ← openFile path with
    | .ok stream => return some { stream }
    | .error _ => return none

/-- Take a record off the output of a command. -/
def readFromCommand (command : String) : Act (Option (Option (List Char))) :=
  readSource ("| " ++ command) do
    let runner := (← get).runner
    outside do
      let (reading, writing) ← Step.openPipe
      let stream ← Step.freeStream
      let result ← runner.start (commandWords command) fun process =>
        { process with
          streams := (1, writing) :: process.streams.filter fun entry => entry.1 ≠ 1 }
      Step.setStream stream (some reading)
      match result with
      | .ok id => return some { stream, writer := some id }
      | .error _ => return some { stream, isAtEnd := true }

/-- Add a text to the end of a file. -/
def appendTo (path : String) (text : List Char) : Step (Except Refusal Unit) :=
  Step.writeInto .appending path text

/-- Write a text to where it is to go. -/
def writeTo (direction : Direction) (name : String) (text : List Char) : Act Unit := do
  match direction with
  | .command =>
    modify fun work =>
      let parts := (work.commands.lookup name).getD []
      let isOpen := work.commands.any fun entry => entry.1 = name
      { work with
        commands :=
          if isOpen then
            work.commands.map fun entry => if entry.1 = name then (name, text :: parts) else entry
          else work.commands ++ [(name, [text])] }
  | _ =>
    if name = "-" || name = "/dev/stdout" then write text
    else
      let isOpen := (← get).targets.contains name
      let written ← outside (if isOpen || direction = .append then appendTo name text
        else Step.writeFile name text)
      match written with
      | .ok () =>
        if !isOpen then modify fun work => { work with targets := name :: work.targets }
      | .error why =>
        throw (.failure ("cannot open \"" ++ name ++ "\" for output (" ++ why.reason ++ ")"))

/-- The exit code that stands for how a command ended. -/
def codeOf : Status → Int
  | .exited code => code
  | .killed signal => 256 + signal

/-- Close a file or a command: the exit code of the command, or minus one if nothing is open. -/
def close (name : String) : Act Int := do
  let work ← get
  match work.commands.lookup name with
  | some parts => do
    set { work with commands := work.commands.filter fun entry => entry.1 ≠ name }
    return codeOf (← runWith name parts.reverse.flatten)
  | none =>
    let isSource (source : String) : Bool := source = name || source = "| " ++ name
    match work.sources.find? fun entry => isSource entry.1 with
    | some (_, source) => do
      set { work with sources := work.sources.filter fun entry => !isSource entry.1 }
      closeStream source.stream
      match source.writer with
      | some id => return codeOf (← outside (Step.awaitEnd id))
      | none => return 0
    | none =>
      let isOpen := work.targets.contains name
      set { work with targets := work.targets.filter (· ≠ name) }
      return if isOpen then 0 else -1

/-- Run the commands that still wait for their input to end, the last one that was named first,
and pass on what was written. -/
def closeAll : Act Unit := do
  let commands := (← get).commands.reverse
  modify fun work => { work with commands := [] }
  commands.forM fun (name, parts) => do
    let _ ← runWith name parts.reverse.flatten
  flush

end Metamorph.Sandbox.Records.Act
