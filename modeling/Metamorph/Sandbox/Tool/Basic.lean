import Metamorph.Sandbox.Stream
import Metamorph.Sandbox.Tool.Quoting

/-! # Tools

A tool is a small program: it gets arguments and a way to run other programs, works on streams
and files in steps of the run, and comes to an exit code. Options are letters, alone or with a
value, or long names for them. -/

namespace Metamorph.Sandbox

/-- How a tool comes to other programs: the name of a program with its arguments gives what the
program does in the place of the one that runs, if there is such a program. -/
abbrev Runner := List String → Step (Except Refusal (Step Unit))

namespace Runner

/-- How long it takes until a copy of a program has begun. -/
def copyTime : Nat := 400

/-- How long it takes until another program has begun. -/
def startTime : Nat := 1000

/-- Start a program beside the one that runs, and give its number. -/
def start (runner : Runner) (words : List String) (change : Process → Process) :
    Step (Except Refusal Nat) := do
  match ← runner words with
  | .ok body => do return .ok (← Step.start startTime change body)
  | .error why => return .error why

/-- Run a program to its end. -/
def run (runner : Runner) (words : List String) : Step (Except Refusal Status) := do
  match ← runner.start words fun process => process with
  | .ok id => do return .ok (← Step.awaitEnd id)
  | .error why => return .error why

/-- Run a program in the place of the one that runs, which ends as that ends. -/
def become (runner : Runner) (words : List String) : Step (Except Refusal Nat) := do
  match ← runner words with
  | .ok body => do
    body
    return .ok (← get).status
  | .error why => return .error why

/-- Run a program to its end and give what it writes. -/
def capture (runner : Runner) (words : List String) : Step (List Char × Status) := do
  match ← runner words with
  | .ok body => Step.capture startTime (fun process => process) body
  | .error _ => return ([], .exited 127)

end Runner

/-- A small program. -/
abbrev Tool := Runner → List String → Step Nat

/-- The options that a tool knows. -/
structure OptionSet where
  /-- The letters that come alone. -/
  flags : String := ""
  /-- The letters that come with a value. -/
  valued : String := ""
  /-- The letters that may come with a value, which is joined to them. -/
  perhaps : String := ""
  /-- Long names and the letters that they stand for. -/
  long : List (String × Char) := []
  /-- Whether options may come behind other arguments. -/
  anywhere : Bool := true

/-- The options that a tool was called with, and its other arguments. -/
structure Options where
  given : List (Char × String) := []
  operands : List String := []

namespace Options

/-- Whether an option was given. -/
def has (options : Options) (letter : Char) : Bool :=
  options.given.any fun option => option.1 = letter

/-- The value of an option, the last one that was given. -/
def value? (options : Options) (letter : Char) : Option String :=
  options.given.reverse.lookup letter

/-- The values of an option. -/
def values (options : Options) (letter : Char) : List String :=
  (options.given.filter fun option => option.1 = letter).map (·.2)

/-- The last of some letters that was given. -/
def lastOf? (options : Options) (letters : List Char) : Option Char :=
  (options.given.reverse.find? fun option => letters.contains option.1).map (·.1)

/-- Put an option in front of those that were given. -/
def add (options : Options) (letter : Char) (value : String) : Options :=
  { options with given := (letter, value) :: options.given }

end Options

namespace OptionSet

/-- Whether an option takes a value. -/
def takesValue (set : OptionSet) (letter : Char) : Bool :=
  set.valued.toList.contains letter

/-- The letters of an argument with options, and a value that was left for the next argument. -/
def readLetters (set : OptionSet) : List Char → Except String (List (Char × String) × Option Char)
  | [] => .ok ([], none)
  | letter :: rest =>
    if set.takesValue letter then
      if rest.isEmpty then .ok ([], some letter) else .ok ([(letter, String.ofList rest)], none)
    else if set.perhaps.toList.contains letter then .ok ([(letter, String.ofList rest)], none)
    else if set.flags.toList.contains letter then do
      let (more, open?) ← set.readLetters rest
      return ((letter, "") :: more, open?)
    else .error ("invalid option -- '" ++ String.ofList [letter] ++ "'")

/-- The long name that an argument begins with; its beginning is enough if no other name has
the same. -/
def longName? (set : OptionSet) (name : String) : Except String (String × Char) :=
  let matching := set.long.filter fun entry => entry.1.startsWith name
  match set.long.find? fun entry => entry.1 = name, matching with
  | some entry, _ => .ok entry
  | none, [entry] => .ok entry
  | none, [] => .error ("unrecognized option '--" ++ name ++ "'")
  | none, first :: others =>
    if others.all fun other => other.2 = first.2 then .ok first
    else
      .error ("option '--" ++ name ++ "' is ambiguous; possibilities:"
        ++ String.join (matching.map fun entry => " '--" ++ entry.1 ++ "'"))

/-- Read an argument with a long name: its letter and its value, which may be the next
argument, and the arguments that are left. -/
def readLong (set : OptionSet) (text : List Char) (rest : List String) :
    Except String (Char × String × List String) := do
  let name := text.takeWhile (· ≠ '=')
  let (long, letter) ← set.longName? (String.ofList name)
  if name.length < text.length then
    if set.takesValue letter || set.perhaps.toList.contains letter then
      return (letter, String.ofList (text.drop (name.length + 1)), rest)
    else throw ("option '--" ++ long ++ "' doesn't allow an argument")
  else if set.takesValue letter then
    match rest with
    | value :: rest => return (letter, value, rest)
    | [] => throw ("option '--" ++ long ++ "' requires an argument")
  else return (letter, "", rest)

/-- Read an argument with letters: them with their values, the last of which may be the next
argument, and the arguments that are left. -/
def readShort (set : OptionSet) (text : List Char) (rest : List String) :
    Except String (List (Char × String) × List String) := do
  let (letters, open?) ← set.readLetters text
  match open?, rest with
  | none, _ => return (letters, rest)
  | some letter, value :: rest => return (letters ++ [(letter, value)], rest)
  | some letter, [] => throw ("option requires an argument -- '" ++ String.ofList [letter] ++ "'")

/-- Read at most so many arguments as the fuel says. Two dashes end the options. -/
def readWithin (set : OptionSet) : Nat → List String → Except String Options
  | 0, _ => .ok {}
  | _ + 1, [] => .ok {}
  | _ + 1, "--" :: rest => .ok { operands := rest }
  | fuel + 1, word :: rest => do
    match word.toList with
    | '-' :: '-' :: text =>
      let (letter, value, rest) ← set.readLong text rest
      return (← set.readWithin fuel rest).add letter value
    | '-' :: c :: text =>
      let (letters, rest) ← set.readShort (c :: text) rest
      let options ← set.readWithin fuel rest
      return { options with given := letters ++ options.given }
    | _ =>
      if set.anywhere then
        let options ← set.readWithin fuel rest
        return { options with operands := word :: options.operands }
      else return { operands := word :: rest }

/-- Read arguments. -/
def read (set : OptionSet) (arguments : List String) : Except String Options :=
  set.readWithin (arguments.length + 1) arguments

end OptionSet

/-- The choice that a value of an option names, of which each has some names; the beginning of one
is enough if it is not that of the names of another choice. -/
def chooseNamed {α : Type} (option : String) (choices : List (List String × α)) (value : String) :
    Except String α :=
  let exact := choices.filter fun choice => choice.1.contains value
  let near := choices.filter fun choice => choice.1.any fun name => name.startsWith value
  match exact, near with
  | choice :: _, _ => .ok choice.2
  | [], [choice] => .ok choice.2
  | [], near =>
    let what := if near.isEmpty then "invalid" else "ambiguous"
    let lines := choices.map fun choice => "\n  - " ++ ", ".intercalate (choice.1.map quoted)
    .error (what ++ " argument " ++ quoted value ++ " for " ++ quoted option
      ++ "\nValid arguments are:" ++ String.join lines)

namespace Tool

/-- The name that a tool was called by, which may be a path. -/
def calledName (name : String) : Step String := do
  let process ← Step.process
  return if process.name.isEmpty then name else process.name

/-- Complain in the name of a tool. -/
def complain (name text : String) : Step Unit := do
  Step.complain ((← calledName name) ++ ": " ++ text)

/-- Say how to learn more of a tool. -/
def pointToHelp (name : String) : Step Unit := do
  Step.complain ("Try '" ++ (← calledName name) ++ " --help' for more information.")

/-- Complain and end with an exit code. -/
def fail (name : String) (code : Nat) (text : String) : Step Nat := do
  complain name text
  return code

/-- Complain of the way a tool was called, and end with an exit code. -/
def misuse (name : String) (code : Nat) (text : String) : Step Nat := do
  complain name text
  pointToHelp name
  return code

/-- The letter for the long names that all tools know, which ask for what they are. -/
def helpLetter : Char := '\x01'

/-- Read the arguments of a tool and go on with its options; what it cannot be called with ends
it with an exit code. -/
def withOptions (name : String) (code : Nat) (set : OptionSet) (arguments : List String)
    (go : Options → Step Nat) : Step Nat :=
  match { set with long := set.long ++ [("help", helpLetter), ("version", helpLetter)] }.read
      arguments with
  | .ok options => go options
  | .error why => misuse name code why

/-- The text of a file; a dash stands for the input. -/
def readOperand (path : String) : Step (Except Refusal (List Char)) := do
  if path = "-" then Step.readToEnd 0 else Step.readFile path

/-- The text of a file, after a complaint if there is none. -/
def readOrComplain (name path : String) : Step (Option (List Char)) := do
  match ← readOperand path with
  | .ok text => return some text
  | .error why => do
    complain name (quotedIfNeeded path ++ ": " ++ why.reason)
    return none

/-- Complain in the usual words that a file cannot be read. -/
def cannotRead (name path : String) (why : Refusal) : Step Unit :=
  complain name (quotedIfNeeded path ++ ": " ++ why.reason)

/-- Complain that a file cannot be opened or read. -/
def cannotOpen (name path : String) (why : Refusal) : Step Unit :=
  if why = .isFolder then complain name ("error reading " ++ quoted path ++ ": " ++ why.reason)
  else complain name ("cannot open " ++ quoted path ++ " for reading: " ++ why.reason)

/-- Do something with the stream of a file; a dash stands for the input. -/
def withOperand {α : Type} (path : String) (body : Nat → Step (Except Refusal α)) :
    Step (Except Refusal α) := do
  if path = "-" then body 0
  else
    match ← Step.withOpen path .reading body with
    | .ok result => return result
    | .error why => return .error why

/-- How many portions are read of a device that has no end. -/
def mostPortions : Nat := 300

/-- Whether a stream leads to a device. -/
def isDevice (stream : Nat) : Step Bool := do
  match ← Step.openingOf? stream with
  | none => return false
  | some number =>
    match ((← get).world.opening number).target with
    | .device _ => return true
    | _ => return false

/-- Go through a stream portion by portion. A step tells whether to go on. The fuel bounds the
number of portions. -/
def forPortions {σ : Type} (stream : Nat) (step : σ → List Char → Step (σ × Bool)) :
    Nat → σ → Step (Except Refusal σ)
  | 0, state => do
    Step.workForever
    return .ok state
  | fuel + 1, state => do
    match ← Step.read stream Step.portion with
    | .error why => return .error why
    | .ok [] => return .ok state
    | .ok text => do
      let (state, goesOn) ← step state text
      if goesOn && !(← Step.isKilled) && (← Step.process).failure.isNone then
        forPortions stream step fuel state
      else return .ok state

/-- Go through a stream portion by portion. -/
def overPortions {σ : Type} (stream : Nat) (start : σ) (step : σ → List Char → Step (σ × Bool)) :
    Step (Except Refusal σ) := do
  let fuel := if ← isDevice stream then mostPortions else 1000 * Step.portion
  forPortions stream step fuel start

/-- The part of a text up to the last line end in it, and what is left. -/
def wholeLines (text : List Char) : List Char × List Char :=
  let rest := text.reverse.takeWhile (· ≠ '\n')
  if rest.length = text.length then ([], text)
  else (text.take (text.length - rest.length), rest.reverse)

/-- Go through a stream by texts of whole lines, of which only the last one may lack its end. -/
def overLines {σ : Type} (stream : Nat) (start : σ) (step : σ → List Char → Step (σ × Bool)) :
    Step (Except Refusal σ) := do
  let result ← overPortions stream (start, ([] : List Char), true) fun (state, left, _) portion => do
    let (text, left) := wholeLines (left ++ portion)
    if text.isEmpty then return ((state, left, true), true)
    else
      let (state, goesOn) ← step state text
      return ((state, left, goesOn), goesOn)
  match result with
  | .error why => return .error why
  | .ok (state, left, goesOn) =>
    if goesOn && !left.isEmpty then return .ok (← step state left).1 else return .ok state

/-- Write what is made of the lines of each file, or of the input if there are none. The exit code
is 1 if a file cannot be read. -/
def withLines (name : String) (complaint : String → String → Refusal → Step Unit)
    (paths : List String) (make : List Char → List Char) : Step Nat := do
  let codes ← (if paths.isEmpty then ["-"] else paths).mapM fun path => do
    match ← withOperand path fun stream => overLines stream () fun _ text => do
        Step.write 1 (make text)
        return ((), true) with
    | .ok _ => return 0
    | .error why => do
      complaint name path why
      return 1
  return codes.foldl max 0

/-- Write lines. -/
def outLines (lines : List (List Char)) : Step Unit :=
  Step.write 1 (joinLines lines)

/-- The number that a text of digits denotes. -/
def natural? (text : String) : Option Nat :=
  if !text.isEmpty && text.toList.all Char.isDigit then some (Text.digitsValue text.toList)
  else none

/-- The integer that a text denotes, which may have a sign. -/
def integer? (text : String) : Option Int :=
  match text.toList with
  | '-' :: rest => (natural? (String.ofList rest)).map fun n => -(n : Int)
  | '+' :: rest => (natural? (String.ofList rest)).map fun n => (n : Int)
  | _ => (natural? text).map fun n => (n : Int)

/-- The units that counts may have. -/
def units : List (String × Nat) :=
  [("", 1), ("b", 512), ("kB", 1000), ("k", 1024), ("K", 1024), ("KiB", 1024), ("MB", 1000000),
    ("m", 1048576), ("M", 1048576), ("MiB", 1048576), ("GB", 1000000000), ("G", 1073741824),
    ("GiB", 1073741824)]

/-- The count that a text with a unit denotes. -/
def countOf? (text : String) : Option Nat := do
  let digits := text.toList.takeWhile Char.isDigit
  let unit ← units.lookup (String.ofList (text.toList.drop digits.length))
  if digits.isEmpty then none else return Text.digitsValue digits * unit

end Tool

end Metamorph.Sandbox
