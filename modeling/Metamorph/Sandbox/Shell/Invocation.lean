import Metamorph.Sandbox.Shell.Builtin.Options

/-! # How shells are called

The arguments of a shell: options that are set or taken back, where the script is found, and what is
left for the script itself. -/

namespace Metamorph.Sandbox

/-- Where a shell finds its script. -/
inductive ScriptPlace where
  | argument (text : String)
  | file (path : String)
  | input
  deriving DecidableEq

/-- How a shell was called. -/
structure ShellCall where
  /-- The letters and names of the options that are set. -/
  options : List String := []
  place : ScriptPlace := .input
  /-- The name that the script is called by, if it is not that of the shell. -/
  name? : Option String := none
  arguments : List String := []
  /-- The settings are shown first, so that they can be read again if that is said. -/
  shows : List Bool := []

namespace ShellCall

/-- What a shell that was called in a wrong way complains of. -/
inductive Fault where
  | lacksScript
  | lacksValue (option : String)
  | badOption (text : String)
  /-- The name of an option is not known. -/
  | badName (sign name : String)
  /-- The name of a behaviour is not known. -/
  | badBehaviour (name : String)

/-- Set an option or take it back. -/
def turn (call : ShellCall) (name : String) (value : Bool) : ShellCall :=
  let others := call.options.filter (· ≠ name)
  { call with options := if value then others ++ [name] else others }

/-- The letters that only a call may have. -/
def callLetters : Shell.Dialect → List Char
  | .plain => ['c', 'l']
  | .rich => ['c', 'l', 'i', 'r', 's', 'D']

/-- Read the letters of an argument, and give the arguments that are left. -/
def readLetters (dialect : Shell.Dialect) (value : Bool) (call : ShellCall) :
    List Char → List String → Except Fault (ShellCall × List String)
  | [], words => .ok (call, words)
  | letter :: rest, words =>
    let name := String.ofList [letter]
    let sign := if value then "-" else "+"
    if letter = 'o' then
      match words with
      | [] => readLetters dialect value { call with shows := call.shows ++ [!value] } rest []
      | word :: words =>
        match (Shell.optionNamesOf dialect).lookup word with
        | some option => readLetters dialect value (call.turn option value) rest words
        | none => .error (.badName (sign ++ "o") word)
    else if letter = 'O' && dialect = .rich then
      match words with
      | [] => .ok (call, [])
      | word :: words =>
        if Shell.behaviourNames.contains word then
          readLetters dialect value (call.turn word value) rest words
        else .error (.badBehaviour word)
    else if (callLetters dialect).contains letter
        || (Shell.optionNamesOf dialect).any fun entry => entry.2 = name then
      readLetters dialect value (call.turn name (value || letter = 'c')) rest words
    else .error (.badOption (match dialect with | .plain => "-" ++ name | .rich => sign ++ name))

/-- The long names of options of the rich dialect with what they set, if it is anything. -/
def longNames : List (String × Option String) :=
  [("norc", none), ("noprofile", none), ("posix", some "posix"), ("login", none),
    ("restricted", some "r"), ("verbose", some "v"), ("noediting", none), ("debugger", none)]

/-- Read the options in front of other arguments. The fuel bounds the number of arguments. -/
def readOptions (dialect : Shell.Dialect) :
    Nat → ShellCall → List String → Except Fault (ShellCall × List String)
  | 0, call, words => .ok (call, words)
  | _ + 1, call, [] => .ok (call, [])
  | fuel + 1, call, word :: rest =>
    let readOn (value : Bool) (letters : List Char) :
        Except Fault (ShellCall × List String) := do
      let (call, rest) ← readLetters dialect value call letters rest
      readOptions dialect fuel call rest
    match word.toList, dialect with
    | ['-'], _ => .ok (call, rest)
    | ['-', '-'], _ => .ok (call, rest)
    | '-' :: '-' :: name, .rich =>
      let name := String.ofList name
      if name = "rcfile" || name = "init-file" then
        match rest with
        | [] => .error (.lacksValue name)
        | _ :: rest => readOptions dialect fuel call rest
      else
        match longNames.lookup name with
        | some (some option) => readOptions dialect fuel (call.turn option true) rest
        | some none => readOptions dialect fuel call rest
        | none => .error (.badOption word)
    | '-' :: letters, _ => readOn true letters
    | '+' :: letters, _ => readOn false letters
    | _, _ => .ok (call, word :: rest)

/-- Read the arguments of a shell. -/
def read (dialect : Shell.Dialect) (words : List String) : Except Fault ShellCall := do
  let (call, rest) ← readOptions dialect (words.length + 1) {} words
  let isArgument := call.options.contains "c"
  let isInput := call.options.contains "s"
  let call := (call.turn "c" false).turn "l" false
  if isArgument then
    match rest with
    | [] => throw .lacksScript
    | text :: rest =>
      return { call with place := .argument text, name? := rest.head?, arguments := rest.drop 1 }
  else if isInput then return { call with arguments := rest }
  else
    match rest with
    | [] => return call
    | path :: rest =>
      return { call with place := .file path, name? := some path, arguments := rest }

end ShellCall

namespace Shell

/-- What the rich shell tells of how it is called. -/
def usageLines : List String :=
  ["Usage:\tbash [GNU long option] [option] ...",
    "\tbash [GNU long option] [option] script-file ...", "GNU long options:"]
    ++ ["debug", "debugger", "dump-po-strings", "dump-strings", "help", "init-file", "login",
      "noediting", "noprofile", "norc", "posix", "pretty-print", "rcfile", "restricted", "verbose",
      "version"].map ("\t--" ++ ·)
    ++ ["Shell options:",
      "\t-ilrsD or -c command or -O shopt_option\t\t(invocation only)",
      "\t-abefhkmnptuvxBCEHPT or -o option"]

/-- Complain of the way a shell was called. -/
def refuseCall (fault : ShellCall.Fault) : Step Unit := do
  let process ← Step.process
  let tell (text : String) : Step Unit := Step.complain (process.name ++ ": " ++ text)
  match process.dialect, fault with
  | .plain, .lacksScript => tell "0: -c requires an argument"
  | .plain, .badName sign name => tell ("0: Illegal option " ++ sign ++ " " ++ name)
  | .plain, .badOption text => tell ("0: Illegal option " ++ text)
  | .plain, _ => pure ()
  | .rich, .lacksScript => tell "-c: option requires an argument"
  | .rich, .lacksValue option => tell (option ++ ": option requires an argument")
  | .rich, .badName _ name => tell (process.name ++ ": " ++ name ++ ": invalid option name")
  | .rich, .badBehaviour name => tell (name ++ ": invalid shell option name")
  | .rich, .badOption text => do
    tell (text ++ ": invalid option")
    usageLines.forM Step.complain
  Step.setStatus 2

/-- Show the settings as they are before anything is set: all of a plain shell are on then. -/
def showFirstSettings (again : Bool) : Step Unit := do
  let process ← Step.process
  match process.dialect with
  | .plain => do
    if !again then Step.out "Current option settings\n"
    Step.modifyProcess fun process => { process with options := optionNames.map (·.2) }
  | .rich => pure ()
  showOptions again
  Step.modifyProcess fun changed => { changed with options := process.options }

end Shell

end Metamorph.Sandbox
