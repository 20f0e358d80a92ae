import Metamorph.Sandbox.Editing.Editor

/-! # Carrying out editing scripts

The commands of a script are carried out for one line after the other. Behind the last command the
line is shown, unless only commands show lines. -/

namespace Metamorph.Sandbox.Editing

/-- Where the editing goes on behind a command. -/
inductive Next where
  | command (place : Nat)
  /-- With the next line, behind which the line may be shown. -/
  | line (shows : Bool)
  /-- With the same line from the first command on. -/
  | again
  | quit (code : Nat) (shows : Bool)
  deriving DecidableEq

/-- The state of the case of letters in a replacement: from here on, and for the next one. -/
structure Casing where
  all : Option CaseChange := none
  next : Option CaseChange := none

namespace Casing

/-- A letter in a case. -/
def apply (change : Option CaseChange) (c : Char) : Char :=
  match change with
  | some .upper => c.toUpper
  | some .upperNext => c.toUpper
  | some .lower => c.toLower
  | some .lowerNext => c.toLower
  | _ => c

/-- A text as it is written, and the state behind it. -/
def write (casing : Casing) : List Char → List Char × Casing
  | [] => ([], casing)
  | c :: rest =>
    let first := if casing.next.isSome then casing.next else casing.all
    (apply first c :: rest.map (apply casing.all), { casing with next := none })

/-- The state behind a change. -/
def change (casing : Casing) : CaseChange → Casing
  | .stop => { casing with all := none }
  | .upper => { casing with all := some .upper }
  | .lower => { casing with all := some .lower }
  | .upperNext => { casing with next := some .upperNext }
  | .lowerNext => { casing with next := some .lowerNext }

end Casing

/-- What replaces a match. -/
def replacement (parts : List Part) (found : Regex.Found) (text : List Char) : List Char :=
  let (written, _) := parts.foldl (fun (written, casing) part =>
    match part with
    | .change how => (written, casing.change how)
    | .text characters =>
      let (more, casing) := casing.write characters
      (more :: written, casing)
    | .group number =>
      let (more, casing) := casing.write (found.groupIn text number)
      (more :: written, casing)) (([], {}) : List (List Char) × Casing)
  written.reverse.flatten

/-- A text in which matches are replaced, if there are any that are meant. -/
def substituted? (how : Substitution) (regex : Regex) (setting : Regex.Setting)
    (text : List Char) : Option (List Char) :=
  let found := (regex.searchAll setting text).drop (how.start - 1)
  let found := if how.every then found else found.take 1
  if found.isEmpty then none
  else
    let (parts, place) := found.foldl (fun (parts, place) match_ =>
      let between := (text.drop place).take (match_.first - place)
      (replacement how.parts match_ text :: between :: parts, match_.last))
      (([], 0) : List (List Char) × Nat)
    some (parts.reverse.flatten ++ text.drop place)

/-- A character as it is shown with marks. -/
def shownChar (c : Char) : List Char :=
  let escapes := [('\\', '\\'), ('\x07', 'a'), ('\x08', 'b'), ('\x0c', 'f'), ('\n', 'n'),
    ('\r', 'r'), ('\t', 't'), ('\x0b', 'v')]
  match escapes.lookup c with
  | some letter => ['\\', letter]
  | none =>
    if isGraphic c || c = ' ' then [c]
    else
      let code := c.toNat
      ['\\', Nat.digitChar (code / 64), Nat.digitChar (code / 8 % 8), Nat.digitChar (code % 8)]

/-- A line as it is shown with marks, in parts of some width; one of 0 means no limit. -/
def shownLine (width : Nat) (text : List Char) : List Char :=
  let (parts, _) := text.foldl (fun (parts, used) c =>
    let shown := shownChar c
    if 0 < width && width - 1 < used + shown.length then
      (shown :: ['\\', '\n'] :: parts, shown.length)
    else (shown :: parts, used + shown.length)) (([], 0) : List (List Char) × Nat)
  parts.reverse.flatten ++ ['$']

namespace Edit

/-- The expression that is meant, which is the one that was used last if none is given. -/
def meant (regex : Option Regex) (lines : Bool) : Edit (Regex × Bool) := do
  match regex, (← get).last with
  | some regex, _ => do
    modify fun editor => { editor with last := some (regex, lines) }
    return (regex, lines)
  | none, some last => return last
  | none, none => throw "-e expression #1, char 0: no previous regular expression"

/-- How matching goes by the ends of lines, which lines that end otherwise do not have. -/
def setting (manner : Manner) (lines : Bool) : Regex.Setting :=
  { lines := lines && manner.delimiter = '\n' }

/-- Whether an address stands for the line that is edited. -/
def isAt (manner : Manner) (address : Address) : Edit Bool := do
  let number := (← get).number
  match address with
  | .line n => return number = n
  | .every first step =>
    return if step = 0 then number = first else first ≤ number && (number - first) % step = 0
  | .last => isAtEnd manner
  | .matching regex lines => do
    let (regex, lines) ← meant regex lines
    return (regex.search? (setting manner lines) (← get).buffer.text 0).isSome
  | _ => return false

/-- Set how far the range of a command has come. -/
def setReach (place : Nat) (reach : Reach) : Edit Unit :=
  modify fun editor => { editor with reaches := editor.reaches.setIfInBounds place reach }

/-- Begin a range at the line that is edited, and say whether the line belongs to it. A range
that would end before it has this line alone. -/
def beginRange (place : Nat) (first second : Address) : Edit Bool := do
  let number := (← get).number
  let upTo (last : Nat) : Edit Bool := do
    setReach place (if last ≤ number then .after else .upTo last)
    return true
  match second with
  | .line last =>
    if last ≤ number then
      setReach place .after
      match first with
      | .line n => return number = n || number ≤ last
      | _ => return true
    else
      setReach place .inside
      return true
  | .behind count => upTo (number + count)
  | .multiple factor => upTo (if factor = 0 then number else (number / factor + 1) * factor)
  | _ => do
    setReach place .inside
    return true

/-- Whether the line that is edited belongs to the range of a command. -/
def isInRange (manner : Manner) (place : Nat) (first second : Address) : Edit Bool := do
  let editor ← get
  let begins : Edit Bool := do
    match first with
    | .line n =>
      return if editor.reaches[place]? = some .after then editor.number = n else n ≤ editor.number
    | _ => isAt manner first
  match editor.reaches[place]?.getD .before with
  | .inside =>
    match second with
    | .line last => do
      if last ≤ editor.number then setReach place .after
      return editor.number ≤ last
    | _ => do
      if ← isAt manner second then setReach place .after
      return true
  | .upTo last => do
    if last ≤ editor.number then setReach place .after
    return true
  | _ => do
    if ← begins then beginRange place first second else return false

/-- Whether a command is meant for the line that is edited. -/
def isMeant (manner : Manner) (place : Nat) (guard : Guard) : Edit Bool := do
  let holds ←
    match guard.first, guard.second with
    | none, _ => pure true
    | some address, none => isAt manner address
    | some first, some second => isInRange manner place first second
  return holds != guard.negated

/-- Go to a label, or behind the last command. -/
def goTo (manner : Manner) (label : String) : Next :=
  let isLabel (command : Command) : Bool :=
    match command.action with
    | .label name => name = label
    | _ => false
  if label.isEmpty then .command manner.commands.size
  else .command ((manner.commands.findIdx? isLabel).getD manner.commands.size)

/-- The part of the line up to its first end. -/
def firstPart (manner : Manner) : Edit Buffer := do
  let buffer := (← get).buffer
  let text := buffer.text.takeWhile (· ≠ manner.delimiter)
  return { text, ended := buffer.ended || text.length < buffer.text.length }

/-- Change the text of the line. -/
def modifyText (change : List Char → List Char) : Edit Unit :=
  modify fun editor =>
    { editor with buffer := { editor.buffer with text := change editor.buffer.text } }

/-- What a script of the shell writes. -/
def outputOf (manner : Manner) (script : List Char) : Edit (List Char) := do
  return (← outside (manner.runner.capture ["sh", "-c", String.ofList script])).1

/-- Run the line as a script of the shell, whose output takes its place. -/
def executeLine (manner : Manner) : Edit Unit := do
  let text ← outputOf manner (← get).buffer.text
  modifyText fun _ => if text.getLast? = some manner.delimiter then text.dropLast else text

/-- Replace matches in the line. -/
def substitute (manner : Manner) (how : Substitution) : Edit Unit := do
  let (regex, lines) ← meant how.regex how.lines
  match substituted? how regex (setting manner lines) (← get).buffer.text with
  | none => pure ()
  | some text => do
    modify fun editor =>
      { editor with buffer := { editor.buffer with text }, replaced := true }
    if how.execute then executeLine manner
    let buffer := (← get).buffer
    if how.print then writeLine manner buffer
    match how.file with
    | some path => writeTo manner path buffer
    | none => pure ()

/-- Go on with another line in the buffer, or with its end added. -/
def goToLine (manner : Manner) (adds : Bool) (place : Nat) : Edit Next := do
  if ← isAtEnd manner then return .line true
  else
    if !adds && !manner.quiet then writeLine manner (← get).buffer
    if ← readLine manner adds then return .command (place + 1) else return .line true

/-- Add a text behind the line. -/
def addBehind (addition : Addition) : Edit Unit :=
  modify fun editor => { editor with additions := addition :: editor.additions }

/-- Carry out what changes or shows the line and goes on with the next command. -/
def carryOut (manner : Manner) (action : Action) : Edit Unit := do
  match action with
  | .append text => addBehind (.text text)
  | .insert text => write manner text
  | .keep false => modify fun editor => { editor with kept := editor.buffer }
  | .keep true =>
    modify fun editor =>
      { editor with
        kept :=
          { editor.buffer with
            text := editor.kept.text ++ manner.delimiter :: editor.buffer.text } }
  | .recall false => modify fun editor => { editor with buffer := editor.kept }
  | .recall true =>
    modify fun editor =>
      { editor with
        buffer :=
          { editor.kept with
            text := editor.buffer.text ++ manner.delimiter :: editor.kept.text } }
  | .exchange =>
    modify fun editor => { editor with buffer := editor.kept, kept := editor.buffer }
  | .list width => do
    writeLine manner { text := shownLine (width.getD manner.width) (← get).buffer.text }
  | .print false => do writeLine manner (← get).buffer
  | .print true => do writeLine manner (← firstPart manner)
  | .readFile path => addBehind (.file path)
  | .readLine path => do
    let line ← takeLine manner.delimiter path
    if !line.isEmpty then addBehind (.line line)
  | .writeFile path false => do writeTo manner path (← get).buffer
  | .writeFile path true => do writeTo manner path (← firstPart manner)
  | .substitute how => substitute manner how
  | .translate pairs => modifyText fun text => text.map fun c => (pairs.lookup c).getD c
  | .number => do writeLine manner { text := Nat.toDigits 10 (← get).number }
  | .fileName => do writeLine manner { text := (← get).file.toList }
  | .execute [] => executeLine manner
  | .execute script => do write manner (← outputOf manner script)
  | .zap => modifyText fun _ => []
  | _ => pure ()

/-- Carry out a command. -/
def act (manner : Manner) (place : Nat) (action : Action) : Edit Next := do
  match action with
  | .change text => do
    match (← get).reaches[place]? with
    | some .inside => pure ()
    | some (.upTo _) => pure ()
    | _ => write manner text
    return .line false
  | .branch label => return goTo manner label
  | .branchIf wanted label => do
    let replaced := (← get).replaced
    modify fun editor => { editor with replaced := false }
    return if replaced = wanted then goTo manner label else .command (place + 1)
  | .delete => return .line false
  | .deleteFirst => do
    let text := (← get).buffer.text
    if text.contains manner.delimiter then
      modifyText fun text => (text.dropWhile (· ≠ manner.delimiter)).drop 1
      return .again
    else return .line false
  | .next adds => goToLine manner adds place
  | .quit code silently => return .quit code (!silently)
  | _ => do
    carryOut manner action
    return .command (place + 1)

/-- Carry out the commands from a place on for a line. The fuel bounds their number; a script that
needs more of them never ends. -/
def runCommands (manner : Manner) : Nat → Nat → Edit Next
  | 0, _ => do
    outside Step.workForever
    return .quit 0 false
  | fuel + 1, place => do
    match manner.commands[place]? with
    | none => return .line true
    | some command =>
      if ← isMeant manner place command.guard then
        match ← act manner place command.action with
        | .command next => runCommands manner fuel next
        | next => return next
      else
        match command.action with
        | .block close => runCommands manner fuel close
        | _ => runCommands manner fuel (place + 1)

/-- How many commands may be carried out for a line, and how many lines may be edited. -/
def most : Nat := 300000

/-- Carry out the commands for one line after the other; the exit code comes of it. -/
def runLines (manner : Manner) : Nat → Bool → Edit Nat
  | 0, _ => do
    outside Step.workForever
    return 0
  | fuel + 1, reads => do
    let goesOn ← if reads then readLine manner false else do pure true
    if !goesOn || !(← flushMuch manner) then return 0
    else
      let present : Edit Unit := do
        if !manner.quiet then writeLine manner (← get).buffer
      match ← runCommands manner most 0 with
      | .line shows => do
        if shows then present
        writeAdditions manner
        runLines manner fuel true
      | .again => do
        writeAdditions manner
        runLines manner fuel false
      | .quit code shows => do
        if shows then
          present
          write manner []
          writeAdditions manner
        return code % 256
      | .command _ => return 0

end Edit

end Metamorph.Sandbox.Editing
