import Metamorph.Sandbox.Stream
import Metamorph.Sandbox.Process
import Metamorph.Sandbox.Shell.Lexing

/-! # The state of a shell

What a shell knows, what its streams are, and what runs beside it. -/

namespace Metamorph.Sandbox.Shell

/-! ## Shells

How a running shell complains, what its variables and the values of its own are, and how they
change. -/

/-- The beginning of all complaints of a shell: its name, the line, and the builtin command. -/
def complaintStart (process : Process) : String :=
  let line :=
    match process.dialect with
    | .plain => ": " ++ toString process.line
    | .rich => ": line " ++ toString process.line
  process.name ++ line ++ ": " ++ (process.builtin.map (· ++ ": ")).getD ""

/-- Complain in the name of the shell. -/
def warn (text : String) : Step Unit := do
  Step.complain (complaintStart (← Step.process) ++ text)

/-- Whether a shell speaks the rich dialect. -/
def isRich : Step Bool := do
  return (← Step.process).dialect = .rich

/-- Complain, and break the script off with an exit code. -/
def abort (code : Nat) (text : String) : Step Unit := do
  warn text
  Step.setStatus code
  Step.setFlow (.broken code)

/-- Complain of a failed builtin command. A plain script is broken off, unless whoever called the
command goes on. -/
def failBuiltin (code : Nat) (text : String) : Step Unit := do
  warn text
  Step.setStatus code
  if (← Step.process).dialect = .plain then Step.setFlow (.broken code)

/-- Read the letters of options off the front of some words: those that are known, which a colon
follows if they take a value. What is wrong with them is told. -/
def readLetters? (known : List Char) :
    Nat → List String → Except (Bool × Char) (List (Char × String) × List String)
  | 0, words => .ok ([], words)
  | _ + 1, [] => .ok ([], [])
  | fuel + 1, word :: rest =>
    match word.toList with
    | '-' :: c :: more =>
      if c = '-' && more.isEmpty then .ok ([], rest)
      else
        match if c = ':' then [] else known.dropWhile (· ≠ c) with
        | [] => .error (false, c)
        | _ :: ':' :: _ =>
          match more, rest with
          | [], [] => .error (true, c)
          | [], value :: rest => do
            let (options, rest) ← readLetters? known fuel rest
            return ((c, value) :: options, rest)
          | _, _ => do
            let (options, rest) ← readLetters? known fuel rest
            return ((c, String.ofList more) :: options, rest)
        | _ => do
          let rest := if more.isEmpty then rest else String.ofList ('-' :: more) :: rest
          let (options, rest) ← readLetters? known fuel rest
          return ((c, "") :: options, rest)
    | _ => .ok ([], word :: rest)

/-- How the builtin commands of the rich shell are used, behind their names. -/
def usages : List (String × String) :=
  [("alias", "[-p] [name[=value] ... ]"),
    ("bg", "[job_spec ...]"),
    ("cd", "[-L|[-P [-e]] [-@]] [dir]"),
    ("command", "[-pVv] command [arg ...]"),
    ("declare", "[-aAfFgiIlnrtux] [name[=value] ...] or declare -p [-aAfFilnrtux] [name ...]"),
    ("disown", "[-h] [-ar] [jobspec ... | pid ...]"),
    ("enable", "[-a] [-dnps] [-f filename] [name ...]"),
    ("eval", "[arg ...]"),
    ("exec", "[-cl] [-a name] [command [argument ...]] [redirection ...]"),
    ("export", "[-fn] [name[=value] ...] or export -p"),
    ("fg", "[job_spec]"),
    ("getopts", "optstring name [arg ...]"),
    ("hash", "[-lr] [-p pathname] [-dt] [name ...]"),
    ("help", "[-dms] [pattern ...]"),
    ("history", "[-c] [-d offset] [n] or history -anrw [filename] or history -ps arg [arg...]"),
    ("jobs", "[-lnprs] [jobspec ...] or jobs -x command [args]"),
    ("kill", "[-s sigspec | -n signum | -sigspec] pid | jobspec ... or kill -l [sigspec]"),
    ("mapfile", "[-d delim] [-n count] [-O origin] [-s count] [-t] [-u fd] [-C callback] [-c"
      ++ " quantum] [array]"),
    ("printf", "[-v var] format [arguments]"),
    ("pwd", "[-LP]"),
    ("read", "[-ers] [-a array] [-d delim] [-i text] [-n nchars] [-N nchars] [-p prompt] [-t"
      ++ " timeout] [-u fd] [name ...]"),
    ("readarray", "[-d delim] [-n count] [-O origin] [-s count] [-t] [-u fd] [-C callback] [-c"
      ++ " quantum] [array]"),
    ("readonly", "[-aAf] [name[=value] ...] or readonly -p"),
    ("set", "[-abefhkmnptuvxBCEHPT] [-o option-name] [--] [-] [arg ...]"),
    ("shopt", "[-pqsu] [-o] [optname ...]"),
    ("source", "filename [arguments]"),
    (".", "filename [arguments]"),
    ("times", ""),
    ("trap", "[-lp] [[arg] signal_spec ...]"),
    ("type", "[-afptP] name [name ...]"),
    ("typeset", "[-aAfFgiIlnrtux] name[=value] ... or typeset -p [-aAfFilnrtux] [name ...]"),
    ("umask", "[-p] [-S] [mode]"),
    ("unalias", "[-a] name [name ...]"),
    ("unset", "[-f] [-v] [-n] [name ...]"),
    ("wait", "[-fn] [-p var] [id ...]"),
    ("builtin", "[shell-builtin [arg ...]]"),
    ("local", "[option] name[=value] ..."),
    ("caller", "[expr]")]

/-- Say how a builtin command of the rich shell is used. -/
def showUsage : Step Unit := do
  match (← Step.process).builtin with
  | some name =>
    match usages.lookup name with
    | some usage => Step.complain (name ++ ": usage: " ++ name ++ " " ++ usage)
    | none => pure ()
  | none => pure ()

/-- Go on with the options of a builtin command and its other words. -/
def withLetters (known : String) (words : List String)
    (go : List (Char × String) → List String → Step Unit) : Step Unit := do
  let count := words.foldl (fun count word => count + word.length + 1) 1
  match readLetters? known.toList count words with
  | .ok (options, rest) => go options rest
  | .error (lacksValue, letter) => do
    let letter := String.ofList [letter]
    if ← isRich then
      warn ("-" ++ letter
        ++ if lacksValue then ": option requires an argument" else ": invalid option")
      showUsage
      Step.setStatus 2
    else if lacksValue then failBuiltin 2 ("No arg for -" ++ letter ++ " option")
    else failBuiltin 2 ("Illegal option -" ++ letter)

/-- The value of an item of an array, or the value of a variable that is none. -/
def itemOf (entry : Variable) (index : String) : Option String :=
  if entry.items.isEmpty then if index = "0" then entry.value else none
  else entry.items.lookup index

/-- All items of an array; a variable that is none has one. -/
def itemsOf (entry : Variable) : List (String × String) :=
  if entry.items.isEmpty then entry.value.toList.map fun value => ("0", value) else entry.items

/-- A name with an index: both of them. -/
def indexed? (name : String) : Option (String × String) :=
  let text := name.toList
  let base := text.takeWhile (· ≠ '[')
  if base.length < text.length && text.getLast? = some ']' then
    some (String.ofList base, String.ofList ((text.drop (base.length + 1)).dropLast))
  else none

/-- The letters of the options that are set, in the order in which the shell shows them. -/
def optionLetters (process : Process) : String :=
  match process.dialect with
  | .plain =>
    let order := ["p", "u", "b", "a", "C", "E", "V", "v", "x", "s", "n", "m", "i", "I", "f", "e"]
    String.join (order.filter process.options.contains)
  | .rich =>
    let order := ["a", "b", "e", "f", "h", "i", "k", "m", "n", "p", "r", "t", "u", "v", "x", "B",
      "C", "E", "H", "P", "T", "c", "s"]
    String.join (order.filter process.options.contains)

/-- The value of a variable or of the shell itself. -/
def parameter? (run : Run) (name : String) : Option String :=
  let process := run.process
  match name with
  | "?" => some (toString run.status)
  | "$" => some (toString process.shellId)
  | "#" => some (toString process.arguments.length)
  | "0" => some process.name
  | "-" => some (optionLetters process)
  | "!" => process.lastJob.map toString
  | "LINENO" =>
    if process.dialect = .rich then some (toString process.line) else process.value? name
  | "PIPESTATUS" =>
    if process.dialect = .rich then some (toString (process.stages.headD run.status))
    else process.value? name
  | _ =>
    match name.toNat? with
    | some number => if number = 0 then some process.name else process.arguments[number - 1]?
    | none =>
      match indexed? name with
      | some (base, index) => (process.bindings.lookup base).bind fun entry => itemOf entry index
      | none => process.value? name

/-- Let the walk through options go on from where its variable says. -/
def standAtOption (value : String) : Step Unit := do
  let rich ← isRich
  if !rich && (value.isEmpty || !value.toList.all Char.isDigit) then
    abort 2 ("Illegal number: " ++ value)
  else
    Step.modifyProcess fun process =>
      { process with optionPlace := 0, optionIndex := max 1 ((value.toNat?).getD 1) }

/-- Give a variable a value, unless it is constant. -/
def setVariable (name value : String) : Step Bool := do
  let process ← Step.process
  let base := ((indexed? name).map (·.1)).getD name
  if (process.bindings.lookup base).any (·.constant) then
    if process.dialect = .plain then
      abort 2 (name ++ ": is read only")
    else
      warn (name ++ ": readonly variable")
      Step.setStatus 1
    return false
  else
    match indexed? name with
    | some (base, index) =>
      Step.modifyProcess fun process => process.update base fun entry =>
        let items := itemsOf entry
        let items :=
          if items.any fun item => item.1 = index then
            items.map fun item => if item.1 = index then (index, value) else item
          else items ++ [(index, value)]
        { entry with items := items, value := items.lookup "0" }
    | none =>
      if name = "PATH" then Step.modifyProcess fun process => { process with located := [] }
      if name = "OPTIND" then standAtOption value
      Step.modifyProcess fun process => process.assign name value
      Step.modifyProcess fun process => process.update name fun entry =>
        { entry with items := if entry.items.isEmpty then [] else
            ("0", value) :: entry.items.filter fun item => item.1 ≠ "0" }
    return true

/-- Give a variable the values of an array. -/
def setItems (name : String) (items : List (String × String)) : Step Unit :=
  Step.modifyProcess fun process => process.update name fun entry =>
    { entry with items := items, value := items.lookup "0" }

/-- Take a variable away. -/
def unsetVariable (name : String) : Step Unit :=
  Step.modifyProcess fun process =>
    match indexed? name with
    | some (base, index) =>
      process.update base fun entry =>
        { entry with items := (itemsOf entry).filter fun item => item.1 ≠ index }
    | none =>
      { process with bindings := process.bindings.filter fun entry => entry.1 ≠ name }

/-- Whether an option is set. -/
def hasOption (name : String) : Step Bool := do
  return (← Step.process).options.contains name

/-- Set an option, or take it back. -/
def setOption (name : String) (value : Bool) : Step Unit :=
  Step.modifyProcess fun process =>
    let others := process.options.filter (· ≠ name)
    { process with options := if value then others ++ [name] else others }

/-- The exit code that a number gives. -/
def exitCode (n : Int) : Nat :=
  (n % 256).toNat

/-- A value between quotes, as a shell shows it so that it can be read again. -/
def quotedValue (value : String) : String :=
  String.ofList (go (value.length + 1) value.toList)
where
  /-- Quote a text up to the next run of quotes, and that run in quotes of another kind. -/
  go : Nat → List Char → List Char
    | 0, _ => []
    | fuel + 1, text =>
      let plain := text.takeWhile (· ≠ '\'')
      let rest := text.drop plain.length
      let quotes := rest.takeWhile (· = '\'')
      let rest := rest.drop quotes.length
      '\'' :: plain ++ '\'' ::
        (if quotes.isEmpty then [] else '"' :: quotes ++ '"' ::
          (if rest.isEmpty then [] else go fuel rest))

/-! ## Redirections

Streams of the running program are led to files, to texts, or to where other streams lead. What
they led to before is kept open for as long as a statement runs that they are redirected for. -/

/-- Complain that a file cannot be opened, and set the exit code. -/
def failRedirect (reading : Bool) (path : String) (why : Refusal) : Step Bool := do
  if ← isRich then
    warn (path ++ ": " ++ if why = .exists then "cannot overwrite existing file" else why.reason)
    Step.setStatus 1
  else
    let isMissing := why = .notFound || why = .notFolder
    let reason :=
      if isMissing then if reading then "No such file" else "Directory nonexistent" else why.reason
    warn ((if reading then "cannot open " else "cannot create ") ++ path ++ ": " ++ reason)
    Step.setStatus 2
  return false

/-- Lead a stream to where another one leads. The plain dialect closes the stream before it looks
for the other one, so complaints that would go there are lost. -/
def copyStream (stream source : Nat) : Step Bool := do
  match (← Step.process).streams.lookup source with
  | some number => do
    Step.setStream stream (some number)
    return true
  | none => do
    let rich ← isRich
    if rich || stream ≠ 2 then warn (toString source ++ ": Bad file descriptor")
    Step.setStatus (if rich then 1 else 2)
    return false

/-- Open a file for a stream, and say whether that is possible. -/
def openFile (stream : Nat) (path : String) (access : Access) : Step Bool := do
  match ← Step.openPath stream path access with
  | none => return true
  | some why => failRedirect (!access.writes) path why

/-- How a file is opened for writing that must not be overwritten: one that is none keeps what is
in it. -/
def carefulAccess (path : String) : Step Access := do
  match ← Step.entry? true path with
  | some (.file _ _) => return { Access.writing with isNew := true }
  | some _ => return { writes := true }
  | none => return { Access.writing with isNew := true }

/-- Lead a stream to another one that a word names, in the rich dialect also both output streams
to a file. -/
def redirectToStream (stream : Nat) (target : String) : Step Bool := do
  match target.toList, target.toNat? with
  | ['-'], _ => do
    Step.setStream stream none
    return true
  | [_], some source => copyStream stream source
  | _, number? =>
    if ← isRich then
      match number? with
      | some source => copyStream stream source
      | none =>
        if target.endsWith "-" then
          let source := ((target.dropEnd 1).toString.toNat?).getD 0
          let good ← copyStream stream source
          Step.setStream source none
          return good
        else
          let opened ← openFile 1 target .writing
          if opened then copyStream 2 1 else return false
    else do
      warn "Syntax error: Bad fd number"
      Step.setStatus 2
      Step.setFlow (.broken 2)
      return false

/-- Carry out a redirection to what its target expands to, and say whether that is possible. -/
def redirect (stream : Nat) (mode : RedirectMode) (target : String) : Step Bool := do
  match mode with
  | .read => openFile stream target .reading
  | .copy => redirectToStream stream target
  | .append => openFile stream target .appending
  | .keep => openFile stream target .keeping
  | .force => openFile stream target .writing
  | .write => do
    let access ← if ← hasOption "C" then carefulAccess target else pure Access.writing
    openFile stream target access

/-- Do something with streams that may be led elsewhere meanwhile. They are as before afterwards,
unless that is to stay. -/
def keepingStreams (stays : Step Bool) (body : Step Unit) : Step Unit := do
  let before := (← Step.process).streams
  Step.modifyProcess fun process => { process with outer := before :: process.outer }
  body
  let stays ← stays
  Step.modifyProcess fun process =>
    { process with
      outer := process.outer.drop 1
      streams := if stays then process.streams else before }

/-! ## Jobs

What a shell has started and waits for, or lets run beside itself. A job that is done keeps its
number until it was shown, or until another job needs a number after the shell was asked to wait
for it. -/

/-- The exit code that stands for how a program ended. -/
def codeOf : Status → Nat
  | .exited code => code
  | .killed signal => 128 + signal

/-- The words that tell of a killed program, if there are any. -/
def fatalWords? : Status → Option String
  | .exited _ => none
  | .killed signal => if signal = 2 || signal = 13 then none else some (Signal.describe signal)

/-- Take note of all programs that have come to their end, and give them. -/
def collect : Step (List (Nat × Status)) := do
  let run ← get
  let (mine, others) := run.world.ended.partition fun ended => ended.parent = run.process.id
  if mine.isEmpty then return []
  else
    let found := mine.map fun ended => (ended.id, ended.status)
    set { run with world.ended := others }
    Step.modifyProcess fun process =>
      { process with
        jobs := process.jobs.map fun job =>
          { job with
            programs := job.programs.map fun (id, status?) => (id, status?.or (found.lookup id)) } }
    if run.process.dialect = .plain then
      mine.forM fun _ => modify (·.receive 17)
    return found

/-- Wait for the end of some programs. A plain shell tells of those that are killed. The fuel bounds
how often one ends. -/
def awaitEnds (ids : List Nat) : Nat → List (Nat × Status) → Step (List (Nat × Status))
  | 0, known => return known
  | fuel + 1, known => do
    let found ← collect
    let mine := found.filter fun entry => ids.contains entry.1
    let rich ← isRich
    mine.forM fun entry =>
      match if rich then none else fatalWords? entry.2 with
      | some words => Step.complain words
      | none => pure ()
    let known := known ++ mine
    let left := ids.filter fun id => (known.lookup id).isNone
    if left.isEmpty || (← Step.isKilled) then return known
    else
      Step.await { ends := left, patient := true }
      awaitEnds ids fuel known

/-- Wait for the end of programs that make a job, and give how they ended. -/
def awaitJob (ids : List Nat) : Step (List Status) := do
  let known ← awaitEnds ids 100000 []
  return ids.map fun id => (known.lookup id).getD (.exited 0)

namespace Job

/-- Whether the number of a job can be given to another one. -/
def isReplaceable (job : Job) : Bool :=
  job.isAwaited && job.isDone

end Job

/-- The number for a new job, which may be that of an old one, which is forgotten then. -/
def claimNumber : Step Nat := do
  let jobs := (← Step.process).jobs
  let free (number : Nat) : Bool :=
    match jobs.find? fun job => job.number = number with
    | some job => Job.isReplaceable job
    | none => true
  let number := ((List.range (jobs.length + 1)).map (· + 1)).find? free
  let number := number.getD (jobs.length + 1)
  Step.modifyProcess fun process =>
    { process with jobs := process.jobs.filter fun job => job.number ≠ number }
  return number

/-- Keep programs as a job that runs beside the shell. -/
def keepJob (number : Nat) (ids : List Nat) (text : String) : Step Unit :=
  Step.modifyProcess fun process =>
    { process with
      lastJob := ids.getLast?
      jobs := { number, programs := ids.map fun id => (id, none), text } :: process.jobs }

/-- The job that a text with a percent sign names, or the complaint that there is none. -/
def findJob (jobs : List Job) (text : String) : Except String Job :=
  let name := (text.drop 1).toString
  let lacking : String := "No such job: " ++ text
  if ["", "+", "%"].contains name then
    match jobs with
    | job :: _ => .ok job
    | [] => .error "No current job"
  else if name = "-" then
    match jobs with
    | _ :: job :: _ => .ok job
    | _ => .error "No previous job"
  else
    match name.toNat? with
    | some number =>
      match jobs.find? fun job => job.number = number with
      | some job => .ok job
      | none => .error lacking
    | none =>
      let fits (job : Job) : Bool :=
        if name.startsWith "?" then (job.text.splitOn (name.drop 1).toString).length > 1
        else !job.text.isEmpty && job.text.startsWith name
      match jobs.filter fits with
      | [job] => .ok job
      | [] => .error lacking
      | _ => .error (text ++ ": ambiguous")

/-- The words in which a job is shown. -/
def stateWords (job : Job) : String :=
  if !job.isDone then "Running"
  else
    match job.status with
    | .exited 0 => "Done"
    | .exited code => "Done(" ++ toString code ++ ")"
    | .killed signal => Signal.describe signal

/-- The lines that show a job: the first of all has a plus sign and the second one a minus sign.
The numbers of its programs are shown if that is asked for. -/
def jobLines (dialect : Dialect) (jobs : List Job) (numbers : Bool) (job : Job) : List String :=
  let sign :=
    if (jobs.head?.any fun first => first.number = job.number) then "+"
    else if ((jobs.drop 1).head?.any fun second => second.number = job.number) then "-"
    else " "
  let pad (width : Nat) (text : String) : String := String.ofList (padEnd width text.toList)
  match dialect with
  | .rich =>
    let front := "[" ++ toString job.number ++ "]" ++ sign ++ "  "
    let id := if numbers then (job.programs.head?.map fun p => toString p.1 ++ " ").getD "" else ""
    let words :=
      if !job.isDone then "Running"
      else
        match job.status with
        | .exited 0 => "Done"
        | .exited code => "Exit " ++ toString code
        | .killed signal => Signal.describe signal
    [front ++ id ++ pad 24 words ++ job.text ++ if job.isDone then "" else " &"]
  | .plain =>
    let front := "[" ++ toString job.number ++ "] " ++ sign ++ " "
    let indent := front.length
    if numbers then
      job.programs.zipIdx.map fun ((id, _), i) =>
        let start :=
          if i = 0 then front ++ toString id ++ " " ++ stateWords job
          else String.ofList (List.replicate indent ' ') ++ toString id ++ " "
        pad 33 start ++ if i + 1 < job.programs.length then " |" else ""
    else [pad 33 (front ++ stateWords job) ++ String.join ((job.programs.drop 1).map fun _ => " | ")]

/-- Show a job, which is forgotten then if it is done. -/
def showJob (numbers : Bool) (job : Job) : Step Unit := do
  let process ← Step.process
  (jobLines process.dialect process.jobs numbers job).forM fun line => Step.out (line ++ "\n")
  if job.isDone then
    Step.modifyProcess fun process =>
      { process with jobs := process.jobs.filter fun other => other.number ≠ job.number }

end Metamorph.Sandbox.Shell
