import Metamorph.Sandbox.Shell.State
import Metamorph.Sandbox.Tool.Basic

/-! # Options of the shell

How options are read, and the builtin commands for variables and for the options of the shell
itself. -/

namespace Metamorph.Sandbox.Shell

/-! ## Walking through options

A script asks for the options among its arguments one by one. Where the walk stands is kept in
a variable, which counts arguments, and in a place inside of the current one. -/

/-- The next option of some arguments: what the variable for it gets, the value of the option,
where the walk stands then, and a complaint. -/
structure WalkedOption where
  name : String
  value : Option String := none
  index : Nat
  place : Nat := 0
  complaint : Option String := none

/-- Look for the next option from an argument, which is counted from one, and a place in it. -/
def nextOption (rich silent : Bool) (known : List Char) (arguments : List String)
    (index place : Nat) : Option WalkedOption :=
  let word := (arguments.getD (index - 1) "").toList
  let place := if place = 0 then 1 else place
  match word.drop place with
  | [] => none
  | letter :: rest =>
    if word.head? ≠ some '-' || (place = 1 && word = ['-', '-']) then none
    else
      let name := String.ofList [letter]
      let next : Nat × Nat := if rest.isEmpty then (index + 1, 0) else (index, place + 1)
      match if letter = ':' then [] else known.dropWhile (· ≠ letter) with
      | [] =>
        let complaint := if rich then "illegal option -- " ++ name else "Illegal option -" ++ name
        some
          { name := "?", value := if silent then some name else none, index := next.1
            place := next.2, complaint := if silent then none else some complaint }
      | _ :: ':' :: _ =>
        if !rest.isEmpty then
          some { name, value := some (String.ofList rest), index := index + 1 }
        else if arguments.length ≤ index then
          let complaint :=
            if rich then "option requires an argument -- " ++ name
            else "No arg for -" ++ name ++ " option"
          some
            { name := if silent then ":" else "?", value := if silent then some name else none
              index := index + 1, complaint := if silent then none else some complaint }
        else some { name, value := some (arguments.getD index ""), index := index + 2 }
      | _ => some { name, index := next.1, place := next.2 }

/-- Go on to the next option. A plain shell keeps to itself where the walk stands, and the variable
shows it. -/
def walkOptions (known name : String) (arguments : List String) : Step Unit := do
  let run ← get
  let rich ← isRich
  let index :=
    if rich then ((parameter? run "OPTIND").bind String.toNat?).getD 1 else run.process.optionIndex
  let silent := known.startsWith ":"
  let letters := if silent then known.toList.drop 1 else known.toList
  let place := run.process.optionPlace
  let stand (index place : Nat) : Step Unit := do
    -- A plain shell counts an argument when it begins with it, and the rich one when it leaves it.
    let shown := if place ≠ 0 && !rich then index + 1 else index
    let _ ← setVariable "OPTIND" (toString shown)
    Step.modifyProcess fun process => { process with optionPlace := place, optionIndex := index }
  match nextOption rich silent letters arguments index place with
  | none => do
    let skipped := arguments.getD (index - 1) "" = "--" && place = 0
    stand (if skipped then index + 1 else index) 0
    unsetVariable "OPTARG"
    Step.setStatus 1
    nameOption "?"
  | some found => do
    stand found.index found.place
    match found.value with
    | some value => let _ ← setVariable "OPTARG" value
    | none => unsetVariable "OPTARG"
    Step.setStatus 0
    nameOption found.name
    match found.complaint with
    | some text =>
      if rich then Step.complain (run.process.name ++ ": " ++ text) else Step.complain text
    | none => pure ()
where
  /-- Give the variable its value, if it can be one. -/
  nameOption (value : String) : Step Unit := do
    if isName name.toList then let _ ← setVariable name value
    else if ← isRich then
      warn (String.ofList [backquote] ++ name ++ "': not a valid identifier")
      Step.setStatus 1
    else abort 2 (name ++ ": bad variable name")

/-! ## Builtin commands for variables

The builtin commands that give variables values and properties, show them and take them away. -/

/-- A value between double quotes. -/
def doubleQuoted (value : String) : String :=
  let escape (c : Char) : List Char :=
    if c = '"' || c = '$' || c = '\\' || c = backquote then ['\\', c] else [c]
  "\"" ++ String.ofList (value.toList.flatMap escape) ++ "\""

/-- Show variables. -/
def showVariables (kind : String) (wanted : Variable → Bool) : Step Unit := do
  let process ← Step.process
  let entries := (process.bindings.filter fun entry => wanted entry.2).mergeSort fun a b => a.1 ≤ b.1
  let line (name : String) (entry : Variable) : String :=
    match process.dialect, entry.value with
    | _, none => kind ++ name
    | .plain, some value => kind ++ name ++ "=" ++ quotedValue value
    | .rich, some value => kind ++ name ++ "=" ++ doubleQuoted value
  entries.forM fun (name, entry) => Step.out (line name entry ++ "\n")

/-- A name with a value behind an equals sign, if there is one. -/
def splitAssignment (word : String) : String × Option String :=
  let name := word.toList.takeWhile (· ≠ '=')
  if name.length < word.length then
    (String.ofList name, some (String.ofList (word.toList.drop (name.length + 1))))
  else (word, none)

/-- Give variables a property, and a value where one is given. -/
def declare (change : Variable → Variable) (words : List String) : Step Unit := do
  Step.setStatus 0
  words.forM fun word => do
    if ← Step.isGoing then
      let (name, value) := splitAssignment word
      let appends := name.endsWith "+" && value.isSome
      let name := if appends then (name.dropEnd 1).toString else name
      if !isName name.toList && (indexed? name).isNone then
        if ← isRich then
          warn (String.ofList [backquote] ++ word ++ "': not a valid identifier")
          Step.setStatus 1
        else failBuiltin 2 (String.ofList (name.toList.takeWhile (· ≠ '=')) ++ ": bad variable name")
      else
        let before := ((← Step.process).value? name).getD ""
        let good ←
          match value with
          | some value => setVariable name (if appends then before ++ value else value)
          | none => pure true
        if good then Step.modifyProcess fun process => process.update name change

/-- Let other programs know variables. -/
def exportVariables (words : List String) : Step Unit := do
  let rich ← isRich
  withLetters (if rich then "pnf" else "p") words fun options words => do
    let has (letter : Char) : Bool := options.any fun option => option.1 = letter
    Step.setStatus 0
    if words.isEmpty || (has 'p' && !rich) then
      showVariables (if rich then "declare -x " else "export ") (·.exported)
    else declare (fun entry => { entry with exported := !has 'n' }) words

/-- Make variables constant. -/
def fixVariables (words : List String) : Step Unit := do
  let rich ← isRich
  withLetters (if rich then "paAf" else "p") words fun options words => do
    Step.setStatus 0
    if words.isEmpty || (!options.isEmpty && !rich) then
      showVariables (if rich then "declare -r " else "readonly ") (·.constant)
    else declare (fun entry => { entry with constant := true }) words

/-- Take a variable away, or complain if that cannot be done. -/
def unsetNamed (name : String) : Step Unit := do
  let process ← Step.process
  let rich := process.dialect = .rich
  if !rich && !isName name.toList then failBuiltin 2 (name ++ ": bad variable name")
  else if (process.bindings.lookup name).any (·.constant) then
    if rich then
      warn (name ++ ": cannot unset: readonly variable")
      Step.setStatus 1
    else failBuiltin 2 (name ++ ": is read only")
  else if (process.bindings.lookup name).isSome || (indexed? name).isSome then unsetVariable name
  else if rich then
    Step.modifyProcess fun process =>
      { process with functions := process.functions.filter fun entry => entry.1 ≠ name }

/-- Take variables or commands of the script away. -/
def unset (words : List String) : Step Unit :=
  withLetters (if words.head? = some "-n" then "vfn" else "vf") words fun options names => do
    Step.setStatus 0
    names.forM fun name => do
      if ← Step.isGoing then
        if (options.getLast?.map (·.1)) = some 'f' then
          Step.modifyProcess fun process =>
            { process with functions := process.functions.filter fun entry => entry.1 ≠ name }
        else unsetNamed name

/-- Keep what a variable was until the running command of the script has ended. A dash stands for
the options. -/
def keepEntry (name : String) (entry : Option Variable) : Step Unit :=
  Step.modifyProcess fun process =>
    match process.saved with
    | [] => process
    | frame :: frames =>
      if frame.any fun entry => entry.1 = name then process
      else { process with saved := ((name, entry) :: frame) :: frames }

/-- Make variables known to the running command of the script only. -/
def makeLocal (words : List String) : Step Unit := do
  let process ← Step.process
  let rich := process.dialect = .rich
  match process.saved with
  | [] => if rich then failBuiltin 1 "can only be used in a function" else failBuiltin 2 "not in a function"
  | _ => do
    let words := words.filter fun word => !rich || !word.startsWith "-"
    Step.setStatus 0
    words.forM fun word => do
      let (name, value) := splitAssignment word
      if !(← Step.isGoing) then pure ()
      else if name = "-" then
        keepEntry "-" (some { value := some (" ".intercalate process.options) })
      else if !isName name.toList && (indexed? name).isNone then
        if rich then
          warn (String.ofList [backquote] ++ word ++ "': not a valid identifier")
          Step.setStatus 1
        else failBuiltin 2 (name ++ ": bad variable name")
      else
        keepEntry name ((← Step.process).bindings.lookup name)
        match value with
        | some value => let _ ← setVariable name value
        | none => if rich then unsetVariable name

/-- Declare variables with the properties that letters stand for. -/
def declareWith (words : List String) : Step Unit := do
  let letters := (words.filter fun word => word.startsWith "-").flatMap String.toList
  let names := words.filter fun word => !word.startsWith "-"
  if !(← Step.process).saved.isEmpty && !letters.contains 'g' then makeLocal names
  declare (fun entry =>
    { entry with
      exported := entry.exported || letters.contains 'x'
      constant := entry.constant || letters.contains 'r'
      keyed := entry.keyed || letters.contains 'A' }) names

/-! ## Options and arguments of a shell

The builtin commands that set options of the shell and its arguments, show them and walk through
them. -/

/-- The names of options with their letters. -/
def optionNames : List (String × String) :=
  [("errexit", "e"), ("noglob", "f"), ("ignoreeof", "I"), ("interactive", "i"), ("monitor", "m"),
    ("noexec", "n"), ("stdin", "s"), ("xtrace", "x"), ("verbose", "v"), ("vi", "V"),
    ("emacs", "E"), ("noclobber", "C"), ("allexport", "a"), ("notify", "b"), ("nounset", "u"),
    ("privileged", "p"), ("nolog", "nolog"), ("debug", "debug")]

/-- The names of options of the rich dialect with their letters, or with their names if they have
no letter. -/
def richOptionNames : List (String × String) :=
  [("allexport", "a"), ("braceexpand", "B"), ("emacs", "emacs"), ("errexit", "e"),
    ("errtrace", "E"), ("functrace", "T"), ("hashall", "h"), ("histexpand", "H"),
    ("history", "history"), ("ignoreeof", "ignoreeof"),
    ("interactive-comments", "interactive-comments"), ("keyword", "k"), ("monitor", "m"),
    ("noclobber", "C"), ("noexec", "n"), ("noglob", "f"), ("nolog", "nolog"), ("notify", "b"),
    ("nounset", "u"), ("onecmd", "t"), ("physical", "P"), ("pipefail", "pipefail"),
    ("posix", "posix"), ("privileged", "p"), ("verbose", "v"), ("vi", "vi"), ("xtrace", "x")]

/-- The names of options of a dialect. -/
def optionNamesOf : Dialect → List (String × String)
  | .plain => optionNames
  | .rich => richOptionNames

/-- Set an option, or take it back. Of two ways to edit only one is on. -/
def turnOption (letter : String) (value : Bool) : Step Unit := do
  let rich ← isRich
  if letter = "m" && value && !rich then warn "can't access tty; job control turned off"
  else setOption letter value
  if value && !rich then
    if letter = "V" then setOption "E" false
    if letter = "E" then setOption "V" false

/-- Show all options, so that they can be read again if that is asked for. -/
def showOptions (again : Bool) : Step Unit := do
  let process ← Step.process
  (optionNamesOf process.dialect).forM fun (name, letter) =>
    let isOn := process.options.contains letter
    let blank := if process.dialect = .rich then "\t" else ""
    let width := if process.dialect = .rich then 15 else 16
    if again then Step.out ("set " ++ (if isOn then "-o " else "+o ") ++ name ++ "\n")
    else
      Step.out (String.ofList (padEnd width name.toList) ++ blank ++ (if isOn then "on" else "off")
        ++ "\n")

/-- Set the option with a name, or take it back. -/
def nameOption (name : String) (value : Bool) : Step Unit := do
  let rich ← isRich
  match (optionNamesOf (← Step.process).dialect).lookup name with
  | some letter => turnOption letter value
  | none =>
    if rich then failBuiltin 1 (name ++ ": invalid option name")
    else failBuiltin 2 ("Illegal option -o " ++ name)

/-- Set the options that letters stand for. The name of one comes with the letter `o` and may be
the next word. What is left of the words is given. -/
def letterOptions (value : Bool) : List Char → List String → Step (List String)
  | [], words => return words
  | letter :: rest, words => do
    if !(← Step.isGoing) then return words
    else if letter = 'o' then
      match words with
      | [] => do
        if (← Step.process).dialect = .plain && value then Step.out "Current option settings\n"
        showOptions (!value)
        letterOptions value rest []
      | name :: words => do
        nameOption name value
        letterOptions value rest words
    else
      let name := String.ofList [letter]
      if (optionNamesOf (← Step.process).dialect).any fun entry => entry.2 = name then
        turnOption name value
      else if ← isRich then
        failBuiltin 2 ((if value then "-" else "+") ++ name ++ ": invalid option")
      else failBuiltin 2 ("Illegal option -" ++ name)
      letterOptions value rest words

/-- Set the options that some words name, and give the other words; there are none if no word
names anything else. -/
def setOptions : Nat → List String → Step (Option (List String))
  | 0, _ => return none
  | fuel + 1, words => do
    match words with
    | [] => return none
    | "--" :: rest => return some rest
    | "-" :: rest => do
      setOption "x" false
      setOption "v" false
      return if rest.isEmpty then none else some rest
    | word :: rest =>
      match word.toList with
      | '-' :: letters => do
        let rest ← letterOptions true letters rest
        if ← Step.isGoing then setOptions fuel rest else return none
      | '+' :: letters => do
        let rest ← letterOptions false letters rest
        if ← Step.isGoing then setOptions fuel rest else return none
      | _ => return some words

/-- A process with other arguments; in a plain shell the walk through options begins anew. -/
def withArguments (arguments : List String) (process : Process) : Process :=
  match process.dialect with
  | .plain => { process with arguments, optionPlace := 0, optionIndex := 1 }
  | .rich => { process with arguments }

/-- Set options and arguments, or show all variables. -/
def set (words : List String) : Step Unit := do
  Step.setStatus 0
  if words.isEmpty then showVariables "" fun entry => entry.value.isSome
  else
    match ← setOptions (words.length + 1) words with
    | some arguments =>
      Step.modifyProcess fun process => withArguments arguments process
    | none => pure ()

/-- The number that an argument denotes, or a complaint. -/
def withNumber (text : String) (go : Nat → Step Unit) : Step Unit :=
  match Tool.natural? text with
  | some number => go number
  | none => do
    if ← isRich then failBuiltin 2 (text ++ ": numeric argument required")
    else failBuiltin 2 ("Illegal number: " ++ text)

/-- Drop arguments. -/
def shift (words : List String) : Step Unit :=
  withNumber (words.headD "1") fun count => do
    let process ← Step.process
    if process.arguments.length < count then
      if process.dialect = .rich then Step.setStatus 1
      else failBuiltin 2 "can't shift that many"
    else
      Step.modifyProcess fun process => withArguments (process.arguments.drop count) process
      Step.setStatus 0

/-- Look for the next option among the arguments. -/
def getOption (words : List String) : Step Unit :=
  match words with
  | known :: name :: rest => do
    let arguments := (← Step.process).arguments
    walkOptions known name (if rest.isEmpty then arguments else rest)
  | _ => do
    if ← isRich then
      Step.complain "getopts: usage: getopts optstring name [arg ...]"
      Step.setStatus 2
    else failBuiltin 2 "Usage: getopts optstring var [arg...]"

/-! ## Behaviours of the rich shell

Ways to behave that have names and are turned on and off one by one, and the builtin command that
does it. -/

/-- The behaviours, and whether they are on at the beginning. -/
def behaviours : List (String × Bool) :=
  [("autocd", false), ("assoc_expand_once", false), ("cdable_vars", false), ("cdspell", false),
    ("checkhash", false), ("checkjobs", false), ("checkwinsize", true), ("cmdhist", true),
    ("compat31", false), ("compat32", false), ("compat40", false), ("compat41", false),
    ("compat42", false), ("compat43", false), ("compat44", false), ("complete_fullquote", true),
    ("direxpand", false), ("dirspell", false), ("dotglob", false), ("execfail", false),
    ("expand_aliases", false), ("extdebug", false), ("extglob", false), ("extquote", true),
    ("failglob", false), ("force_fignore", true), ("globasciiranges", true), ("globskipdots", true),
    ("globstar", false), ("gnu_errfmt", false), ("histappend", false), ("histreedit", false),
    ("histverify", false), ("hostcomplete", true), ("huponexit", false), ("inherit_errexit", false),
    ("interactive_comments", true), ("lastpipe", false), ("lithist", false),
    ("localvar_inherit", false), ("localvar_unset", false), ("login_shell", false),
    ("mailwarn", false), ("no_empty_cmd_completion", false), ("nocaseglob", false),
    ("nocasematch", false), ("noexpand_translation", false), ("nullglob", false),
    ("patsub_replacement", true), ("progcomp", true), ("progcomp_alias", false),
    ("promptvars", true), ("restricted_shell", false), ("shift_verbose", false),
    ("sourcepath", true), ("varredir_close", false), ("xpg_echo", false)]

/-- The names of the behaviours. -/
def behaviourNames : List String :=
  behaviours.map (·.1)

/-- The behaviours that are on at the beginning. -/
def usualBehaviours : List String :=
  (behaviours.filter (·.2)).map (·.1)

/-- What is asked about behaviours. -/
structure BehaviourRequest where
  turnsOn : Bool := false
  turnsOff : Bool := false
  isSilent : Bool := false
  /-- What is shown can be read again. -/
  again : Bool := false
  /-- The options of the shell are meant. -/
  onOptions : Bool := false

/-- Show whether something is on. -/
def showSwitch (request : BehaviourRequest) (name : String) (isOn : Bool) : Step Unit := do
  if request.again then
    if request.onOptions then Step.out ("set " ++ (if isOn then "-o " else "+o ") ++ name ++ "\n")
    else Step.out ("shopt " ++ (if isOn then "-s " else "-u ") ++ name ++ "\n")
  else Step.out (String.ofList (padEnd 15 name.toList) ++ "\t" ++ (if isOn then "on" else "off") ++ "\n")

/-- Turn behaviours on and off, or show them. -/
def askBehaviours (request : BehaviourRequest) (names : List String) : Step Unit := do
  let known : List (String × String) :=
    if request.onOptions then richOptionNames else behaviourNames.map fun name => (name, name)
  Step.setStatus 0
  if names.isEmpty then
    let options := (← Step.process).options
    known.forM fun (name, option) => do
      let isOn := options.contains option
      let isMeant := (isOn && !request.turnsOff) || (!isOn && !request.turnsOn)
      if isMeant && !request.isSilent then showSwitch request name isOn
  else
    names.forM fun name => do
      match known.lookup name with
      | none => do
        warn (name ++ ": invalid "
          ++ (if request.onOptions then "option name" else "shell option name"))
        Step.setStatus 1
      | some option =>
        if request.turnsOn || request.turnsOff then setOption option request.turnsOn
        else
          let isOn := (← Step.process).options.contains option
          if !isOn then Step.setStatus 1
          if !request.isSilent then showSwitch request name isOn

/-- Turn behaviours on and off, or show them, as options say. -/
def changeBehaviours (words : List String) : Step Unit :=
  withLetters "opqsu" words fun options names => do
    let has (letter : Char) : Bool := options.any fun option => option.1 = letter
    if has 's' && has 'u' then
      warn "cannot set and unset shell options simultaneously"
      Step.setStatus 1
    else
      askBehaviours
        { turnsOn := has 's', turnsOff := has 'u', isSilent := has 'q', again := has 'p'
          onOptions := has 'o' } names

end Metamorph.Sandbox.Shell
