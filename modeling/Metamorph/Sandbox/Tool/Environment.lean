import Metamorph.Sandbox.Tool.Basic
import Metamorph.Sandbox.Calendar

/-! # What surrounds a program

The tools that show and change what programs know of their surroundings. -/

namespace Metamorph.Sandbox

/-! ## Tools around variables

The tools that show the variables which programs get to know, and that run another program with
other variables than these. A single argument may be split into several by rules of its own. -/

/-- How far a text is split into arguments: those that are complete, the last one first, and the
one that has begun. -/
structure Splitting where
  done : List String := []
  word : Option (List Char) := none
  /-- The quote that is open. -/
  quote : Option Char := none

namespace Splitting

/-- Add characters to the argument that has begun. -/
def add (splitting : Splitting) (text : List Char) : Splitting :=
  { splitting with word := some (splitting.word.getD [] ++ text) }

/-- End the argument that has begun. -/
def cut (splitting : Splitting) : Splitting :=
  match splitting.word with
  | some word => { splitting with done := String.ofList word :: splitting.done, word := none }
  | none => splitting

/-- Open a quote, or close it. -/
def turn (splitting : Splitting) (quote : Option Char) : Splitting :=
  { splitting.add [] with quote := quote }

/-- The arguments at the end of a text. -/
def finish (splitting : Splitting) : Except String (List String) :=
  if splitting.quote.isSome then .error "no terminating quote in -S string"
  else .ok splitting.cut.done.reverse

/-- The characters that letters behind a backslash stand for. -/
def escapes : List (Char × Char) :=
  [('"', '"'), ('#', '#'), ('$', '$'), ('\'', '\''), ('\\', '\\'), ('f', Char.ofNat 12),
    ('n', '\n'), ('r', '\r'), ('t', '\t'), ('v', Char.ofNat 11)]

/-- Split a text. Variables stand between braces behind a dollar sign. The fuel bounds the
characters. -/
def split (value? : String → Option String) :
    Nat → Splitting → List Char → Except String (List String)
  | 0, splitting, _ => splitting.finish
  | _ + 1, splitting, [] => splitting.finish
  | fuel + 1, splitting, c :: rest =>
    let single := splitting.quote = some '\''
    let double := splitting.quote = some '"'
    let go := split value? fuel
    match c, rest with
    | '\\', [] =>
      if single then go (splitting.add [c]) rest
      else .error "invalid backslash at end of string in -S"
    | '\\', d :: more =>
      if single then
        if d = '\\' || d = '\'' then go (splitting.add [d]) more else go (splitting.add [c]) rest
      else if d = '_' then go (if double then splitting.add [' '] else splitting.cut) more
      else if d = 'c' then
        if double then .error "'\\c' must not appear in double-quoted -S string"
        else splitting.finish
      else
        match escapes.lookup d with
        | some other => go (splitting.add [other]) more
        | none => .error ("invalid sequence '" ++ String.ofList [c, d] ++ "' in -S")
    | '$', _ =>
      if single then go (splitting.add [c]) rest
      else
        match rest with
        | '\x7b' :: more =>
          let name := more.takeWhile fun d => d.isAlphanum || d = '_'
          if (more.drop name.length).head? = some '\x7d' && !(name.headD '0').isDigit then
            let splitting :=
              match value? (String.ofList name) with
              | some value => splitting.add value.toList
              | none => splitting
            go splitting (more.drop (name.length + 1))
          else .error (onlyNames (c :: rest))
        | _ => .error (onlyNames (c :: rest))
    | _, _ =>
      if c = '\'' && !double then go (splitting.turn (if single then none else some c)) rest
      else if c = '"' && !single then go (splitting.turn (if double then none else some c)) rest
      else if isSpace c && splitting.quote.isNone then go splitting.cut rest
      else if c = '#' && splitting.word.isNone && splitting.quote.isNone then splitting.finish
      else go (splitting.add [c]) rest
where
  /-- The complaint about a dollar sign that no variable follows. -/
  onlyNames (text : List Char) : String :=
    "only $\x7bVARNAME\x7d expansion is supported, error at: " ++ String.ofList text

end Splitting

namespace Tool

/-- The options of running a program with other variables. -/
def environmentOptions : OptionSet :=
  { flags := "i0v", valued := "uCS", anywhere := false, long := [("ignore-environment", 'i'),
    ("unset", 'u'), ("chdir", 'C'), ("null", '0'), ("debug", 'v'), ("split-string", 'S')] }

/-- Part arguments at the first one that is to be split: those in front of it, its text, and those
behind it. -/
def partAtSplit : List String → Option (List String × String × List String)
  | [] => none
  | word :: rest =>
    let text := word.toList
    let flags := (text.drop 1).takeWhile fun c => ['i', '0', 'v'].contains c
    let front := if flags.isEmpty then [] else [String.ofList ('-' :: flags)]
    let long := "--split-string="
    if word.startsWith long then some ([], (word.drop long.length).toString, rest)
    else
      match text, (text.drop 1).drop flags.length with
      | '-' :: '-' :: _, _ =>
        if word = "--" then none
        else if word = "--split-string" then some ([], rest.headD "", rest.drop 1)
        else (partAtSplit rest).map fun (before, text, after) => (word :: before, text, after)
      | '-' :: _, 'S' :: more =>
        if more.isEmpty then
          if rest.isEmpty then none else some (front, rest.headD "", rest.drop 1)
        else some (front, String.ofList more, rest)
      | '-' :: _, [letter] =>
        if letter = 'u' || letter = 'C' then
          match rest with
          | value :: rest =>
            (partAtSplit rest).map fun (before, text, after) =>
              (word :: value :: before, text, after)
          | [] => none
        else (partAtSplit rest).map fun (before, text, after) => (word :: before, text, after)
      | '-' :: _, _ =>
        (partAtSplit rest).map fun (before, text, after) => (word :: before, text, after)
      | _, _ => none

/-- Split arguments that are to be split, and tell of it if that is asked for. The fuel bounds how
often. -/
def splitArguments : Nat → List String → Step (Except String (List String))
  | 0, arguments => return .ok arguments
  | fuel + 1, arguments => do
    match partAtSplit arguments with
    | none => return .ok arguments
    | some (before, text, after) =>
      let process ← Step.process
      let start : Splitting := {}
      match start.split process.value? (text.length + 1) text.toList with
      | .error why => return .error why
      | .ok words => do
        if before.any fun word => word.contains 'v' && !word.startsWith "--" then
          Step.complain ("split -S:  " ++ cited text)
          words.zipIdx.forM fun (word, i) =>
            Step.complain ((if i = 0 then " into:    " else "     &    ") ++ cited word)
        splitArguments fuel (before ++ words ++ after)

/-- Tell that a program cannot be run. -/
def cannotRun (name front : String) (why : Refusal) : Step Nat :=
  fail name (if why = .notFound || why = .notFolder then 127 else 126) (front ++ ": " ++ why.reason)

/-- Forget all variables but those that other programs get to know. -/
def forget (names : List String) : Step Unit :=
  Step.modifyProcess fun process =>
    { process with bindings := process.bindings.filter fun entry => !names.contains entry.1 }

/-- Go to the folder at a path. -/
def goTo (path : String) : Step (Except Refusal Unit) := do
  match ← Step.resolve true path with
  | .error why => return .error why
  | .ok trail =>
    match (← Step.files).find? trail with
    | some (.folder _) => do
      Step.modifyProcess fun process =>
        { process with folder := "/" ++ "/".intercalate trail, trail }
      return .ok ()
    | some _ => return .error .notFolder
    | none => return .error .notFound

/-- Show the variables that other programs get to know. -/
def showEnvironment (ending : String) : Step Unit := do
  (← Step.process).environment.forM fun (name, value) => Step.out (name ++ "=" ++ value ++ ending)

/-- Run the program that words name, with the variables and in the folder that options ask for. -/
def runSurrounded (runner : Runner) (options : Options) : Step Nat := do
  let debug (text : String) : Step Unit := do
    if options.has 'v' then Step.complain text
  let operands := options.operands
  let bare := operands.head? = some "-"
  let operands := if bare then operands.drop 1 else operands
  if options.has 'i' || bare then
    debug "cleaning environ"
    Step.modifyProcess fun process => { process with bindings := [] }
  match (options.values 'u').find? fun name => name.isEmpty || name.contains '=' with
  | some name => fail "env" 125 ("cannot unset " ++ cited name ++ ": Invalid argument")
  | none => do
    if !(options.has 'i' || bare) then
      (options.values 'u').forM fun name => debug ("unset:    " ++ name)
      forget (options.values 'u')
    let assignments := operands.takeWhile fun word => word.contains '='
    assignments.forM fun word => do
      debug ("setenv:   " ++ word)
      let name := word.toList.takeWhile (· ≠ '=')
      let value := String.ofList (word.toList.drop (name.length + 1))
      Step.modifyProcess fun process => process.exportValue (String.ofList name) value
    let words := operands.drop assignments.length
    match words, options.value? 'C' with
    | [], some _ => misuse "env" 125 "must specify command with --chdir (-C)"
    | [], none => do
      showEnvironment (if options.has '0' then "\x00" else "\n")
      return 0
    | name :: _, folder? =>
      if options.has '0' then misuse "env" 125 "cannot specify --null (-0) with command"
      else
        let gone : Except Refusal Unit ←
          match folder? with
          | none => pure (.ok ())
          | some folder => do
            debug ("chdir:    " ++ cited folder)
            goTo folder
        match gone with
        | .error why =>
          fail "env" 125 ("cannot change directory to " ++ quoted (folder?.getD "") ++ ": "
            ++ why.reason)
        | .ok () => do
          debug ("executing: " ++ name)
          words.zipIdx.forM fun (word, i) =>
            debug ("   arg[" ++ toString i ++ "]= " ++ cited word)
          match ← runner.become words with
          | .ok code => return code
          | .error why => do
            let code ← cannotRun "env" (quoted name) why
            if name.toList.any isSpace && code = 127 then
              complain "env" "use -[v]S to pass options in shebang lines"
            return code

/-- Run a program with other variables, or show all of them. -/
def env : Tool := fun runner arguments => do
  match ← splitArguments (arguments.length + 8) arguments with
  | .error why => fail "env" 125 why
  | .ok arguments => withOptions "env" 125 environmentOptions arguments (runSurrounded runner)

/-- Show variables. -/
def printenv : Tool := fun _ arguments =>
  withOptions "printenv" 2 { flags := "0", anywhere := false, long := [("null", '0')] } arguments
    fun options => do
    let ending := if options.has '0' then "\x00" else "\n"
    let entries := (← Step.process).environment
    if options.operands.isEmpty then
      showEnvironment ending
      return 0
    else
      let codes ← options.operands.mapM fun name => do
        match entries.lookup name with
        | some value => do
          Step.out (value ++ ending)
          return 0
        | none => return 1
      return codes.foldl max 0

end Tool

end Metamorph.Sandbox

namespace Metamorph.Sandbox.Tool

/-! ## Tools that tell of their surroundings

The tools that tell who runs them, on what system, and when. -/

/-- Tell the name of who runs the tool. -/
def whoami : Tool := fun _ arguments =>
  withOptions "whoami" 1 {} arguments fun options => do
    match options.operands with
    | extra :: _ => misuse "whoami" 1 ("extra operand " ++ cited extra)
    | [] => do
      Step.out "root\n"
      return 0

/-- Tell who runs the tool, or who a user is. -/
def id : Tool := fun _ arguments =>
  withOptions "id" 1
    { flags := "agGnruzZ", long := [("context", 'Z'), ("group", 'g'), ("groups", 'G'), ("name", 'n'),
      ("real", 'r'), ("user", 'u'), ("zero", 'z')] } arguments fun options => do
    let chosen := ['u', 'g', 'G'].filter options.has
    let ending := if options.has 'z' then "\x00" else "\n"
    if options.has 'Z' then fail "id" 1 "--context (-Z) works only on an SELinux-enabled kernel"
    else if 1 < chosen.length then fail "id" 1 "cannot print \"only\" of more than one choice"
    else if chosen.isEmpty && (options.has 'n' || options.has 'r') then
      fail "id" 1 "cannot print only names or real IDs in default format"
    else if chosen.isEmpty && options.has 'z' then
      fail "id" 1 "option --zero not permitted in default format"
    else
      let tell : Step Unit :=
        if chosen.isEmpty then Step.out "uid=0(root) gid=0(root) groups=0(root)\n"
        else Step.out ((if options.has 'n' then "root" else "0") ++ ending)
      if options.operands.isEmpty then
        tell
        return 0
      else
        let codes ← options.operands.mapM fun name => do
          if ["root", "0", "+0"].contains name then
            tell
            return 0
          else fail "id" 1 (quoted name ++ ": no such user")
        return codes.foldl max 0

/-- The groups of who runs the tool. -/
def groups : Tool := fun _ arguments =>
  withOptions "groups" 1 {} arguments fun options => do
    if options.operands.isEmpty then
      Step.out "root\n"
      return 0
    else
      let codes ← options.operands.mapM fun name => do
        if name = "root" then
          Step.out "root : root\n"
          return 0
        else fail "groups" 1 (quoted name ++ ": no such user")
      return codes.foldl max 0

/-- Tell what system the tool runs on. -/
def uname : Tool := fun _ arguments =>
  withOptions "uname" 1
    { flags := "asnrvmpio", long := [("all", 'a'), ("kernel-name", 's'), ("sysname", 's'),
      ("nodename", 'n'), ("kernel-release", 'r'), ("release", 'r'), ("kernel-version", 'v'),
      ("machine", 'm'), ("processor", 'p'), ("hardware-platform", 'i'), ("operating-system", 'o')] }
    arguments fun options => do
    match options.operands with
    | extra :: _ => misuse "uname" 1 ("extra operand " ++ cited extra)
    | [] => do
      let all := options.has 'a'
      let parts :=
        [('s', "Linux"), ('n', "localhost"), ('r', "6.1.0"), ('v', "#1 SMP"), ('m', "x86_64"),
          ('p', "unknown"), ('i', "unknown"), ('o', "GNU/Linux")].filter fun entry =>
            options.has entry.1 || (all && entry.2 ≠ "unknown")
      let shown := if options.given.isEmpty then ["Linux"] else parts.map (·.2)
      Step.out (" ".intercalate shown ++ "\n")
      return 0

/-- Tell the kind of machine. -/
def arch : Tool := fun _ arguments =>
  withOptions "arch" 1 {} arguments fun options => do
    match options.operands with
    | extra :: _ => misuse "arch" 1 ("extra operand " ++ cited extra)
    | [] => do
      Step.out "x86_64\n"
      return 0

/-- Tell the terminal of the input, which never is one. -/
def tty : Tool := fun _ arguments =>
  withOptions "tty" 2 { flags := "s", long := [("silent", 's'), ("quiet", 's')] } arguments
    fun options => do
    match options.operands with
    | extra :: _ => misuse "tty" 2 ("extra operand " ++ cited extra)
    | [] => do
      if !options.has 's' then Step.out "not a tty\n"
      return 1

/-- The formats of dates by the precision that is asked for. -/
def isoFormats : List (List String × String) :=
  [(["hours"], "%Y-%m-%dT%H%:z"), (["minutes"], "%Y-%m-%dT%H:%M%:z"), (["date"], "%Y-%m-%d"),
    (["seconds"], "%Y-%m-%dT%H:%M:%S%:z"), (["ns"], "%Y-%m-%dT%H:%M:%S,%N%:z")]

/-- The same with a blank between the date and the time. -/
def spacedFormats : List (List String × String) :=
  [(["date"], "%Y-%m-%d"), (["seconds"], "%Y-%m-%d %H:%M:%S%:z"),
    (["ns"], "%Y-%m-%d %H:%M:%S.%N%:z")]

/-- The format that the options of the clock ask for. -/
def dateFormat? (options : Options) : Except String String :=
  match options.lastOf? ['I', 'R', '3'] with
  | some 'I' =>
    let value := (options.value? 'I').getD ""
    if value.isEmpty then .ok "%Y-%m-%d" else chooseNamed "--iso-8601" isoFormats value
  | some '3' => chooseNamed "--rfc-3339" spacedFormats ((options.value? '3').getD "")
  | some _ => .ok "%a, %d %b %Y %H:%M:%S %z"
  | none => .ok "%a %b %e %H:%M:%S %Z %Y"

/-- Tell the time, or one that is given. -/
def date : Tool := fun _ arguments =>
  withOptions "date" 1
    { flags := "uRU", valued := "dfrs3", perhaps := "I", long := [("date", 'd'), ("debug", 'U'),
      ("file", 'f'), ("iso-8601", 'I'), ("reference", 'r'), ("resolution", 'U'),
      ("rfc-email", 'R'), ("rfc-822", 'R'), ("rfc-2822", 'R'), ("rfc-3339", '3'), ("set", 's'),
      ("utc", 'u'), ("uct", 'u'), ("universal", 'u')] } arguments fun options => do
    let now := Moment.ofMicroseconds (← get).world.now
    let sources := ['d', 'f', 'r'].filter options.has
    let multiple := "multiple output formats specified"
    match options.operands, dateFormat? options with
    | _, .error why => misuse "date" 1 why
    | _ :: extra :: _, _ => misuse "date" 1 ("extra operand " ++ cited extra)
    | operands, .ok usual => do
      let first := operands.headD ""
      let isFormat := first.startsWith "+"
      if 1 < sources.length then
        misuse "date" 1
          "the options to specify dates for printing are mutually exclusive"
      else if isFormat && (options.lastOf? ['I', 'R', '3']).isSome then fail "date" 1 multiple
      else if !operands.isEmpty && !isFormat then
        if sources.isEmpty then fail "date" 1 ("invalid date " ++ quoted first)
        else
          misuse "date" 1 ("the argument " ++ quoted first ++ " lacks a leading '+';\nwhen using an"
            ++ " option to specify date(s), any non-option\nargument must be a format string"
            ++ " beginning with '+'")
      else
        let format := if isFormat then first.toList.drop 1 else usual.toList
        let tell (moment : Moment) : Step Nat := do
          Step.write 1 (moment.formatted format ++ ['\n'])
          return 0
        let tellOf (text : List Char) : Step Nat :=
          match readTime? now text with
          | some (seconds, fraction) => tell (Moment.ofSeconds seconds fraction)
          | none => fail "date" 1 ("invalid date " ++ quoted (String.ofList text))
        match options.value? 'd', options.value? 'r', options.value? 'f' with
        | some text, _, _ => tellOf text.toList
        | none, some path, _ =>
          match ← Step.resolve true path with
          | .error why => fail "date" 1 (quotedIfNeeded path ++ ": " ++ why.reason)
          | .ok trail =>
            match (← Step.files).changed? trail with
            | some time => tell (Moment.ofMicroseconds time)
            | none => fail "date" 1 (quotedIfNeeded path ++ ": " ++ Refusal.notFound.reason)
        | none, none, some path =>
          match ← readOperand path with
          | .error why => fail "date" 1 (quotedIfNeeded path ++ ": " ++ why.reason)
          | .ok text => do
            let codes ← (splitLines text).mapM tellOf
            return codes.foldl max 0
        | none, none, none => tell now

end Metamorph.Sandbox.Tool
