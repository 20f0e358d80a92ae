import Metamorph.Sandbox.Editing.Reading

/-! # Reading editing scripts

A script is one or several texts, which come from arguments or from files: commands with their
addresses, one after the other. -/

namespace Metamorph.Sandbox.Editing

namespace Reading

/-- Read an address, if one comes next. -/
def address? : Reading (Option Address) := do
  match ← peek? with
  | none => return none
  | some c =>
    if c = '/' || c = '\\' then
      let _ ← next?
      let delimiter ← if c = '/' then pure '/' else do pure ((← next?).getD '/')
      let fuel := (← get).rest.length + 1
      match ← delimited delimiter true fuel .outside [] with
      | none => fail "unterminated address regex"
      | some text => do
        let flags ← takeWhile fun c => c = 'I' || c = 'M'
        return some (.matching (← regexOf text (flags.contains 'I')) (flags.contains 'M'))
    else if c.isDigit then
      let first := (← number?).getD 0
      skipBlanks
      if (← peek?) = some '~' then
        let _ ← next?
        skipBlanks
        let step := (← number?).getD 0
        return some (if step = 0 then .line first else .every first step)
      else return some (.line first)
    else if c = '$' then
      let _ ← next?
      return some .last
    else return none

/-- Read the end of a range. -/
def endAddress? : Reading (Option Address) := do
  match ← peek? with
  | some '+' => do
    let _ ← next?
    return some (.behind ((← number?).getD 0))
  | some '~' => do
    let _ ← next?
    return some (.multiple ((← number?).getD 0))
  | _ => address?

/-- Read the addresses of a command. -/
def guard : Reading Guard := do
  if (← peek?) = some '+' || (← peek?) = some '~' then
    let _ ← next?
    let _ ← number?
    fail "invalid usage of +N or ~N as first address"
  let first ← address?
  skipBlanks
  let second ←
    if first.isSome && (← peek?) = some ',' then do
      let _ ← next?
      skipBlanks
      match ← endAddress? with
      | some address => pure (some address)
      | none => do
        let _ ← next?
        fail ("unexpected " ++ quote ",")
    else pure none
  match first, second with
  | some (.line 0), some (.matching _ _) => pure ()
  | some (.line 0), _ => do
    let _ ← next?
    fail "invalid usage of line address 0"
  | _, _ => pure ()
  skipBlanks
  let marks ← takeWhile fun c => c = '!'
  if 1 < marks.length then
    modify fun state => { state with place := state.place - (marks.length - 2) }
    fail ("multiple " ++ quote "!" ++ "s")
  skipBlanks
  if !marks.isEmpty && (← peek?) = some '!' then
    let _ ← next?
    fail ("multiple " ++ quote "!" ++ "s")
  return { first, second, negated := !marks.isEmpty }

/-- Read the end of a command. -/
def ending : Reading Unit := do
  skipBlanks
  match ← peek? with
  | none => pure ()
  | some c =>
    if c = ';' || c = '\n' then
      let _ ← next?
    else if c = '\x7d' || c = '#' then pure ()
    else
      let _ ← next?
      fail "extra characters after command"

/-- Read a name up to the end of the line. -/
def name : Reading String := do
  skipBlanks
  return String.ofList (← takeWhile (· ≠ '\n'))

/-- Read a label, which ends where a command may begin. -/
def label : Reading String := do
  skipBlanks
  let text ← takeWhile fun c => !(isSpace c || c = ';' || c = '\x7d' || c = '#')
  return String.ofList text

/-- Take backslashes away from a text that is read up to the end of its line. -/
def lineText : Nat → List Char → Reading (List Char)
  | 0, text => return text.reverse
  | fuel + 1, text => do
    match ← next? with
    | none => return text.reverse
    | some '\n' => return text.reverse
    | some '\\' => do
      match escaped? (← get).rest with
      | some (c, rest) => do
        modify fun state =>
          { state with rest, place := state.place + (state.rest.length - rest.length) }
        lineText fuel (c :: text)
      | none =>
        match ← next? with
        | none => return text.reverse
        | some c => lineText fuel ((if c = 'n' then '\n' else c) :: text)
    | some c => lineText fuel (c :: text)

/-- Read the text that a command adds: on the same line, or on the lines behind a backslash. -/
def addedText : Reading (List Char) := do
  skipBlanks
  match ← peek? with
  | none => fail ("expected \\ after " ++ quote "a" ++ ", " ++ quote "c" ++ " or " ++ quote "i")
  | some c =>
    if c = '\\' then
      let _ ← next?
      let blanks ← takeWhile isBlank
      if (← peek?) = some '\n' then
        let _ ← next?
        let fuel := (← get).rest.length + 1
        if (← get).rest.isEmpty then
          fail "incomplete command"
        else return (← lineText fuel []) ++ ['\n']
      else
        let fuel := (← get).rest.length + 1
        if (← get).rest.isEmpty then return []
        else return blanks ++ (← lineText fuel []) ++ ['\n']
    else
      let fuel := (← get).rest.length + 1
      return (← lineText fuel []) ++ ['\n']

/-- The parts of a replacement. -/
def partsOf : Nat → List Char → List Part
  | 0, _ => []
  | _ + 1, [] => []
  | fuel + 1, input =>
    let more (part : Part) (rest : List Char) : List Part :=
      match part, partsOf fuel rest with
      | .text one, .text two :: parts => .text (one ++ two) :: parts
      | _, parts => part :: parts
    match input with
    | [] => []
    | '&' :: rest => more (.group 0) rest
    | '\\' :: rest =>
      match escaped? rest, rest with
      | some (c, rest), _ => more (.text [c]) rest
      | none, c :: rest =>
        let changes := [('U', CaseChange.upper), ('L', .lower), ('u', .upperNext),
          ('l', .lowerNext), ('E', .stop)]
        match changes.lookup c with
        | some how => more (.change how) rest
        | none =>
          if c.isDigit then
            let number := c.toNat - '0'.toNat
            more (.group number) rest
          else more (.text [if c = 'n' then '\n' else c]) rest
      | none, [] => [.text ['\\']]
    | c :: rest => more (.text [c]) rest

/-- The number of groups of an expression. -/
def groupsOf : Regex → Nat
  | .sequence first second => groupsOf first + groupsOf second
  | .choice first second => groupsOf first + groupsOf second
  | .repeated _ _ body => groupsOf body
  | .group _ body => groupsOf body + 1
  | _ => 0

/-- The options of a replacement. -/
structure Flags where
  every : Bool := false
  print : Bool := false
  ignoreCase : Bool := false
  lines : Bool := false
  start : Option Nat := none
  file : Option String := none
  execute : Bool := false

/-- Read the options of a replacement up to the end of the command. -/
def flags : Nat → Flags → Reading Flags
  | 0, found => return found
  | fuel + 1, found => do
    match ← peek? with
    | none => return found
    | some c =>
      if c = '\x7d' || c = '#' then return found
      else if c.isDigit then
        let digits ← takeWhile Char.isDigit
        if Text.digitsValue digits = 0 then
          fail ("number option to " ++ quote "s" ++ " command may not be zero")
        else if found.start.isSome then
          fail ("multiple number options to " ++ quote "s" ++ " command")
        else flags fuel { found with start := some (Text.digitsValue digits) }
      else
        let _ ← next?
        match c with
        | ';' => return found
        | '\n' => return found
        | 'g' =>
          if found.every then fail ("multiple " ++ quote "g" ++ " options to " ++ quote "s" ++ " command")
          else flags fuel { found with every := true }
        | 'p' =>
          if found.print then fail ("multiple " ++ quote "p" ++ " options to " ++ quote "s" ++ " command")
          else flags fuel { found with print := true }
        | 'i' => flags fuel { found with ignoreCase := true }
        | 'I' => flags fuel { found with ignoreCase := true }
        | 'm' => flags fuel { found with lines := true }
        | 'M' => flags fuel { found with lines := true }
        | 'e' => flags fuel { found with execute := true }
        | 'w' => do
          let path ← name
          if path.isEmpty then fail "missing filename in r/R/w/W commands"
          let _ ← next?
          return { found with file := some path }
        | ' ' => flags fuel found
        | '\t' => flags fuel found
        | _ => fail ("unknown option to " ++ quote "s")

/-- Read a replacement behind its letter. -/
def substitution : Reading Substitution := do
  let unterminated : Reading Substitution := fail ("unterminated " ++ quote "s" ++ " command")
  match ← next? with
  | none => unterminated
  | some delimiter => do
    let fuel := (← get).rest.length + 1
    match ← delimited delimiter true fuel .outside [] with
    | none => unterminated
    | some pattern =>
      match ← delimited delimiter false fuel .outside [] with
      | none => unterminated
      | some replacement => do
        let options ← flags fuel {}
        let regex ← regexOf pattern options.ignoreCase
        let groups := (regex.map groupsOf).getD 9
        let parts := partsOf (replacement.length + 1) replacement
        let greatest := parts.foldl (fun most part =>
          match part with
          | .group number => max most number
          | _ => most) 0
        if groups < greatest then
          fail ("invalid reference \\" ++ toString greatest ++ " on " ++ quote "s"
            ++ " command's RHS")
        return {
          regex, parts, lines := options.lines, start := options.start.getD 1
          every := options.every, print := options.print, file := options.file
          execute := options.execute }

/-- The characters of a list of characters to translate. -/
def translated : Nat → List Char → List Char
  | 0, _ => []
  | _ + 1, [] => []
  | fuel + 1, '\\' :: rest =>
    match escaped? rest, rest with
    | some (c, rest), _ => c :: translated fuel rest
    | none, 'n' :: rest => '\n' :: translated fuel rest
    | none, '\\' :: rest => '\\' :: translated fuel rest
    | none, '\n' :: rest => '\n' :: translated fuel rest
    | none, _ => '\\' :: translated fuel rest
  | fuel + 1, c :: rest => c :: translated fuel rest

/-- Read a translation behind its letter. -/
def translation : Reading (List (Char × Char)) := do
  let unterminated : Reading (List (Char × Char)) :=
    fail ("unterminated " ++ quote "y" ++ " command")
  match ← next? with
  | none => unterminated
  | some delimiter => do
    let fuel := (← get).rest.length + 1
    match ← delimited delimiter false fuel .outside [] with
    | none => unterminated
    | some first =>
      match ← delimited delimiter false fuel .outside [] with
      | none => unterminated
      | some second =>
        let one := translated (first.length + 1) first
        let two := translated (second.length + 1) second
        if one.length ≠ two.length then
          fail ("strings for " ++ quote "y" ++ " command are different lengths")
        else return one.zip two

/-- Read what a command does behind its letter, for those that end like most do. -/
def plainAction? (letter : Char) : Option Action :=
  [('d', Action.delete), ('D', .deleteFirst), ('h', .keep false), ('H', .keep true),
    ('g', .recall false), ('G', .recall true), ('x', .exchange), ('n', .next false),
    ('N', .next true), ('p', .print false), ('P', .print true), ('=', .number), ('F', .fileName),
    ('z', .zap)].lookup letter

/-- Read what a command does behind its letter. -/
def action (letter : Char) : Reading Action := do
  let file : Reading String := do
    let path ← name
    if path.isEmpty then fail "missing filename in r/R/w/W commands"
    let _ ← next?
    return path
  match plainAction? letter with
  | some action => do
    ending
    return action
  | none =>
    match letter with
    | 'a' => return .append (← addedText)
    | 'i' => return .insert (← addedText)
    | 'c' => return .change (← addedText)
    | 'b' => return .branch (← label)
    | 't' => return .branchIf true (← label)
    | 'T' => return .branchIf false (← label)
    | 'r' => return .readFile (← file)
    | 'R' => return .readLine (← file)
    | 'w' => return .writeFile (← file) false
    | 'W' => return .writeFile (← file) true
    | 's' => return .substitute (← substitution)
    | 'y' => do
      let pairs ← translation
      ending
      return .translate pairs
    | 'v' => do
      let _ ← name
      return .nothing
    | 'e' => return .execute (← name).toList
    | 'l' => do
      skipBlanks
      let width ← number?
      ending
      return .list width
    | 'q' => do
      skipBlanks
      let code := (← number?).getD 0
      ending
      return .quit code false
    | 'Q' => do
      skipBlanks
      let code := (← number?).getD 0
      ending
      return .quit code true
    | _ => fail ("unknown command: " ++ quote (String.ofList [letter]))

/-- Add a command to those that have been read. -/
def add (command : Command) : Reading Unit :=
  modify fun state => { state with commands := state.commands.push command }

/-- Read the next command. -/
def command : Reading Unit := do
  let _ ← takeWhile fun c => isSpace c || c = ';'
  if (← get).rest.isEmpty then return
  let guard ← guard
  match ← next? with
  | none => fail "missing command"
  | some '#' => do
    if guard.first.isSome then fail "comments don't accept any addresses"
    let _ ← takeWhile (· ≠ '\n')
  | some ':' => do
    if guard.first.isSome then fail ": doesn't want any addresses"
    let label ← label
    if label.isEmpty then fail "\":\" lacks a label"
    add { guard, action := .label label }
  | some '\x7b' => do
    modify fun state =>
      { state with
        blocks := ⟨state.commands.size, state.part, state.line⟩ :: state.blocks }
    add { guard, action := .block 0 }
  | some '\x7d' => do
    match (← get).blocks with
    | [] => fail ("unexpected " ++ quote "\x7d")
    | block :: blocks => do
      if guard.first.isSome then fail "\x7d doesn't want any addresses"
      modify fun state =>
        { state with
          blocks := blocks
          commands := state.commands.modify block.place fun command =>
            { command with action := .block state.commands.size } }
      add { guard := {}, action := .nothing }
      ending
  | some '\n' => fail "missing command"
  | some letter => do
    let action ← action letter
    add { guard, action }

/-- Read commands up to the end of a text. The fuel bounds their number. -/
def commandsOf : Nat → Reading Unit
  | 0 => pure ()
  | fuel + 1 => do
    command
    if !(← get).rest.isEmpty then commandsOf fuel

end Reading

/-- A text of a script, and what messages call it. -/
structure ScriptText where
  text : List Char
  /-- The file it comes from, or none for an argument. -/
  file : Option String := none
  /-- Which of the texts it is. -/
  number : Nat := 1

/-- Join arguments that end inside of an added text with the one behind them. -/
def joinTexts : List ScriptText → List ScriptText
  | [] => []
  | first :: rest =>
    match joinTexts rest with
    | second :: more =>
      let slashes := (first.text.reverse.takeWhile (· = '\\')).length
      if slashes % 2 = 1 then
        { second with text := first.text ++ '\n' :: second.text } :: more
      else first :: second :: more
    | [] => [first]

/-- What a fault in a text of the script is told as. -/
def ScriptText.message (part : ScriptText) (place line : Nat) (text : String) : String :=
  match part.file with
  | none =>
    "-e expression #" ++ toString part.number ++ ", char " ++ toString place ++ ": " ++ text
  | some path => "file " ++ path ++ " line " ++ toString line ++ ": " ++ text

/-- Read the texts of a script. -/
def readScript (extended : Bool) (texts : List ScriptText) : Except String (Array Command) := do
  let parts := joinTexts (texts.zipIdx.map fun (part, place) => { part with number := place + 1 })
  let start : ReadState := { rest := [], extended }
  let state ← parts.foldlM (fun state part =>
    let state := { state with rest := part.text, place := 0, line := 1, part := part.number }
    match (Reading.commandsOf (part.text.length + 1)).run state with
    | .ok ((), state) => .ok state
    | .error fault => .error (part.message fault.place fault.line fault.text)) start
  match state.blocks with
  | [] => return state.commands
  | block :: _ =>
    let part := (parts.find? fun part => part.number = block.part).getD { text := [] }
    throw (part.message 0 block.line ("unmatched " ++ Reading.quote "\x7b"))

end Metamorph.Sandbox.Editing
