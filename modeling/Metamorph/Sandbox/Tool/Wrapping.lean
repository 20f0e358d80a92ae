import Metamorph.Decimal.Ratio
import Metamorph.Sandbox.Process
import Metamorph.Sandbox.Tool.Environment

/-! # Tools that run other programs

The tools that run one program under some condition, and the one that runs a program as often as
its input has items for it. -/

namespace Metamorph.Sandbox

/-! ## Tools around other programs

The tools that run another program for a limited time, without heeding some signal, or in a group
of its own, and the one that only lets time pass. -/

/-- The microseconds of a text such as `0.5` or `2m`. -/
def duration? (text : String) : Option Nat :=
  if text = "infinity" || text = "inf" then some 1000000000000000
  else
    match Decimal.Ratio.read? text.toList with
    | none => none
    | some (value, unit) =>
      match [([], 1), (['s'], 1), (['m'], 60), (['h'], 3600), (['d'], 86400)].lookup unit with
      | some seconds =>
        if value.negative then none else some (value.num * seconds * 1000000 / value.den)
      | none => none

namespace Tool

/-- End as another program has ended. -/
def endAs (status : Status) : Step Nat := do
  match status with
  | .exited code => return code
  | .killed signal => do
    Step.setFlow (.killed signal)
    return 128 + signal

/-- Run a program in the place of the tool, or tell that it cannot be run. -/
def handOver (name : String) (runner : Runner) (words : List String) : Step Nat := do
  match ← runner.become words with
  | .ok code => return code
  | .error why => cannotRun name ("failed to run command " ++ quoted (words.headD "")) why

/-- Complain of bad intervals of time. -/
def refuseIntervals (name : String) (code : Nat) (bad : List String) : Step Nat := do
  bad.forM fun word => complain name ("invalid time interval " ++ cited word)
  pointToHelp name
  return code

/-- Let time pass. -/
def sleep : Tool := fun _ arguments =>
  withOptions "sleep" 1 {} arguments fun options => do
    match options.operands, options.operands.filter fun word => (duration? word).isNone with
    | [], _ => misuse "sleep" 1 "missing operand"
    | words, [] => do
      Step.sleep ((words.filterMap duration?).foldl (· + ·) 0)
      return 0
    | _, bad => refuseIntervals "sleep" 1 bad

/-- How a program is watched that runs for a limited time. -/
structure Watch where
  id : Nat
  command : String
  signal : Nat
  /-- When it is told to end, and how much later it is made to. -/
  finish : Option Nat
  patience : Option Nat
  foreground : Bool
  verbose : Bool
  preserves : Bool
  isLate : Bool := false

namespace Watch

/-- Send a signal to the watched program, and to those that belong to it. -/
def send (watch : Watch) (number : Nat) : Step Unit := do
  if watch.verbose then
    complain "timeout" ("sending signal " ++ Signal.name number ++ " to command " ++ cited watch.command)
  let _ ← Step.signal watch.id number
  if !watch.foreground then
    let process ← Step.process
    Step.modifyProcess fun process =>
      { process with traps := (number, "") :: process.traps.filter (·.1 ≠ number) }
    let _ ← Step.signalGroup process.group number
    if number = 9 then Step.setFlow (.killed 9)
    else
      let _ ← Step.signal watch.id 18
      let _ ← Step.signalGroup process.group 18

/-- Tell the watched program to end. -/
def stop (watch : Watch) (number : Nat) : Step Watch := do
  watch.send number
  let clock := (← get).world.clock
  return { watch with
    finish := watch.patience.map (clock + ·), patience := none
    signal := if watch.patience.isSome then 9 else watch.signal }

/-- The exit code of the tool, when the watched program has ended. -/
def code (watch : Watch) (status : Status) : Step Nat := do
  match status with
  | .exited code => return if watch.isLate && !watch.preserves then 124 else code
  | .killed signal =>
    if !watch.isLate then endAs (.killed signal)
    else return if watch.preserves || signal = 9 then 128 + signal else 124

/-- Wait for the end of the watched program. Signals that come meanwhile are passed on. The fuel
bounds their number. -/
def await (watch : Watch) : Nat → Step Nat
  | 0 => return 124
  | fuel + 1 => do
    Step.await { time := watch.finish, ends := [watch.id] }
    if ← Step.isKilled then return 137
    match ← Step.takeEnd? watch.id, (← Step.process).noted with
    | some status, _ => watch.code status
    | none, number :: rest => do
      Step.modifyProcess fun process => { process with noted := rest }
      await (← watch.stop number) fuel
    | none, [] => do
      let watch : Watch := { watch with isLate := true }
      await (← watch.stop watch.signal) fuel

end Watch

/-- The options of running a program for a limited time. -/
def limitOptions : OptionSet :=
  { flags := "v", valued := "sk", anywhere := false, long := [("signal", 's'),
    ("kill-after", 'k'), ("preserve-status", 'P'), ("foreground", 'F'), ("verbose", 'v')] }

/-- Run a program for a limited time. -/
def timeout : Tool := fun runner arguments =>
  withOptions "timeout" 125 limitOptions arguments fun options => do
    let patience := (options.value? 'k').map fun text => (text, duration? text)
    let signal := (options.value? 's').map fun text => (text, Signal.ofText? text)
    match signal, patience, options.operands with
    | some (text, none), _, _ => misuse "timeout" 125 (cited text ++ ": invalid signal")
    | _, some (text, none), _ => refuseIntervals "timeout" 125 [text]
    | _, _, text :: words@(name :: _) =>
      match duration? text with
      | none => refuseIntervals "timeout" 125 [text]
      | some time => do
        if !options.has 'F' then
          Step.modifyProcess fun process => { process with group := process.id }
        match ← runner words with
        | .error why => cannotRun "timeout" ("failed to run command " ++ quoted name) why
        | .ok body => do
          let id ← Step.start Runner.startTime (fun process => process) body
          Step.modifyProcess fun process =>
            { process with traps := [1, 2, 3, 15].map fun number => (number, ":") }
          let clock := (← get).world.clock
          let watch : Watch :=
            { id, command := name, signal := (signal.bind (·.2)).getD 15
              finish := if time = 0 then none else some (clock + time)
              patience := patience.bind (·.2), foreground := options.has 'F'
              verbose := options.has 'v', preserves := options.has 'P' }
          watch.await 10000
    | _, _, _ => do
      Step.complain "Try 'timeout --help' for more information."
      return 125

/-- Run a program that does not heed the end of its terminal. -/
def nohup : Tool := fun runner arguments =>
  withOptions "nohup" 125 { anywhere := false } arguments fun options => do
    match options.operands with
    | [] => misuse "nohup" 125 "missing operand"
    | words => do
      Step.modifyProcess fun process =>
        { process with traps := (1, "") :: process.traps.filter (·.1 ≠ 1) }
      handOver "nohup" runner words

/-- Run a program that others go before, or tell how much they do. -/
def nice : Tool := fun runner arguments =>
  let arguments := arguments.map fun word =>
    if word.startsWith "-" && (integer? (word.drop 1).toString).isSome then "-n" ++ (word.drop 1).toString
    else word
  withOptions "nice" 125 { valued := "n", anywhere := false, long := [("adjustment", 'n')] } arguments
    fun options => do
    match options.value? 'n', (options.value? 'n').map integer?, options.operands with
    | some text, some none, _ => fail "nice" 125 ("invalid adjustment " ++ cited text)
    | some _, _, [] => misuse "nice" 125 "a command must be given with an adjustment"
    | none, _, [] => do
      Step.out (toString (← Step.process).niceness ++ "\n")
      return 0
    | _, adjustment?, words@(name :: _) => do
      let adjustment := ((adjustment?.bind fun number => number).getD 10)
      Step.modifyProcess fun process =>
        { process with niceness := max (-20) (min 19 (process.niceness + adjustment)) }
      match ← runner.become words with
      | .ok code => return code
      | .error why => cannotRun "nice" (quoted name) why

/-- Run a program in a group of its own. -/
def setsid : Tool := fun runner arguments =>
  withOptions "setsid" 1 { flags := "cfw", anywhere := false, long := [("fork", 'f'), ("wait", 'w'),
    ("ctty", 'c')] } arguments fun options => do
    match options.operands with
    | [] => misuse "setsid" 1 "no command specified"
    | words@(name :: _) => do
      let alone (process : Process) : Process := { process with group := process.id }
      match ← runner words with
      | .error why => cannotRun "setsid" ("failed to execute " ++ name) why
      | .ok body => do
        if options.has 'f' then
          let child ← Step.start Runner.startTime alone body
          if options.has 'w' then endAs (← Step.awaitEnd child) else return 0
        else
          Step.modifyProcess alone
          body
          return (← get).status

/-- Run a program whose output would be kept back in another way. -/
def stdbuf : Tool := fun runner arguments =>
  withOptions "stdbuf" 125 { valued := "ioe", anywhere := false, long := [("input", 'i'),
    ("output", 'o'), ("error", 'e')] } arguments fun options => do
    let isBad (mode : Char × String) : Bool := mode.2 ≠ "L" && (countOf? mode.2).isNone
    match options.given.find? isBad, options.operands with
    | some (_, mode), _ => fail "stdbuf" 125 ("invalid mode " ++ cited mode)
    | none, words =>
      if (options.values 'i').contains "L" then
        misuse "stdbuf" 125 "line buffering stdin is meaningless"
      else if words.isEmpty then misuse "stdbuf" 125 "missing operand"
      else if options.given.isEmpty then
        misuse "stdbuf" 125 "you must specify a buffering mode option"
      else handOver "stdbuf" runner words

end Tool

/-! ## Gathering arguments

The tool that reads items from its input and runs another program with them as arguments, as
soon as there are enough of them. -/

/-- How an input is cut into items. -/
inductive ItemForm where
  /-- Between blanks and line ends; quotes and backslashes take meanings away. -/
  | words
  /-- On a line each, in which quotes and backslashes take meanings away. -/
  | lines
  /-- Before a character, which nothing takes its meaning away from. -/
  | parts (delimiter : Char)
  deriving DecidableEq, Repr

/-- What reading an item from the beginning of an input comes to. -/
inductive ItemReading where
  /-- An item, whether the line ends behind it, and what follows. -/
  | item (text : List Char) (endsLine : Bool) (rest : List Char)
  /-- The input that is there is not enough. -/
  | short
  /-- Nothing is left. -/
  | ended
  | fault (why : String)

namespace ItemForm

/-- The complaint about a quote that is not closed. -/
def unmatched (quote : Char) : String :=
  "unmatched " ++ (if quote = '"' then "double" else "single")
    ++ " quote; by default quotes are special to xargs unless you use the -0 option"

/-- Read on in an item of which some is read, the last character first. The fuel bounds the
characters. -/
def readOn (lines isEnd : Bool) : Nat → List Char → List Char → ItemReading
  | 0, _, _ => .ended
  | _ + 1, read, [] => if isEnd then .item read.reverse true [] else .short
  | fuel + 1, read, c :: rest =>
    if c = '\n' then .item read.reverse true rest
    else if isSpace c && !lines then .item read.reverse false rest
    else if c = '\'' || c = '"' then
      let part := rest.takeWhile fun d => d ≠ c && d ≠ '\n'
      match rest.drop part.length with
      | d :: rest => if d = c then readOn lines isEnd fuel (part.reverse ++ read) rest else .fault (unmatched c)
      | [] => if isEnd then .fault (unmatched c) else .short
    else
      match c, rest with
      | '\\', d :: rest => readOn lines isEnd fuel (d :: read) rest
      | '\\', [] => if isEnd then .item read.reverse true [] else .short
      | _, _ => readOn lines isEnd fuel (c :: read) rest

/-- Read an item. -/
def read (form : ItemForm) (isEnd : Bool) (input : List Char) : ItemReading :=
  match form with
  | .parts delimiter =>
    let part := input.takeWhile (· ≠ delimiter)
    if part.length < input.length then .item part true (input.drop (part.length + 1))
    else if !isEnd then .short
    else if part.isEmpty then .ended
    else .item part true []
  | _ =>
    match input.dropWhile isSpace with
    | [] => if isEnd then .ended else .short
    | rest => readOn (form = .lines) isEnd (rest.length + 1) [] rest

end ItemForm

/-- How arguments are gathered for calls. -/
structure Gathering where
  form : ItemForm
  stream : Nat
  /-- The words of a call in front of the items. -/
  words : List String
  /-- The text in the words that an item takes the place of. -/
  mark : Option String := none
  /-- How many items, and how many lines of them, a call takes at most. -/
  most : Option Nat := none
  mostLines : Option Nat := none
  /-- How long a call may be, and whether it is a failure if that is not enough. -/
  size : Nat := 131072
  exact : Bool := false
  /-- An item that ends the input. -/
  last : Option String := none
  /-- Whether there is no call without items. -/
  needsItems : Bool := false
  shows : Bool := false
  /-- How many programs run beside each other; none is no limit. -/
  width : Nat := 1

/-- How far the gathering of arguments has come. -/
structure Gathered where
  input : List Char := []
  isEnd : Bool := false
  /-- The items of the next call, the last one first, their number of lines and their size. -/
  items : List String := []
  lines : Nat := 0
  size : Nat := 0
  /-- Whether there was a call. -/
  called : Bool := false
  running : List (Nat × String) := []
  code : Nat := 0
  /-- Why it ends early. -/
  stops : Bool := false

namespace Gathering

open Tool

/-- Take note of how a program has ended. -/
def note (gathered : Gathered) (name : String) (status : Status) : Step Gathered := do
  match status with
  | .exited 0 => return gathered
  | .exited 255 => do
    complain "xargs" (name ++ ": exited with status 255; aborting")
    return { gathered with code := 124, stops := true }
  | .exited _ => return { gathered with code := if gathered.code = 0 then 123 else gathered.code }
  | .killed signal => do
    complain "xargs" (name ++ ": terminated by signal " ++ toString signal)
    return { gathered with code := 125, stops := true }

/-- Wait until no more than some programs run. The fuel bounds the waiting. -/
def settle (most : Nat) : Nat → Gathered → Step Gathered
  | 0, gathered => return gathered
  | fuel + 1, gathered => do
    if gathered.running.length ≤ most || (← Step.isKilled) then return gathered
    else
      Step.await { ends := gathered.running.map (·.1) }
      let gathered ← gathered.running.foldlM (fun (gathered : Gathered) (child, name) => do
        match ← Step.takeEnd? child with
        | some status =>
          let gathered :=
            { gathered with running := gathered.running.filter fun entry => entry.1 ≠ child }
          note gathered name status
        | none => return gathered) gathered
      settle most fuel gathered

/-- Call the program with the items that were gathered. -/
def call (gathering : Gathering) (runner : Runner) (gathered : Gathered) : Step Gathered := do
  let items := gathered.items.reverse
  let words :=
    match gathering.mark, items with
    | some mark, [item] =>
      gathering.words.map fun word => item.intercalate (word.splitOn mark)
    | _, _ => gathering.words ++ items
  let gathered := { gathered with items := [], lines := 0, size := 0, called := true }
  if gathering.shows then Step.complain (" ".intercalate (words.map quotedIfNeeded))
  let name := words.headD ""
  match ← runner words with
  | .error why => do
    let code ← cannotRun "xargs" name why
    return { gathered with code, stops := true }
  | .ok body => do
    let nothing ← Step.openNew (Access.reading.opening (.device .nothing))
    let id ← Step.start Runner.startTime (fun process =>
      { process with
        streams := (0, nothing) :: process.streams.filter fun entry => entry.1 ≠ 0 }) body
    let gathered := { gathered with running := gathered.running ++ [(id, name)] }
    if gathering.width = 0 then return gathered
    else settle (gathering.width - 1) 10000 gathered

/-- What the words of a call take, each with its end. -/
def frontSize (gathering : Gathering) : Nat :=
  gathering.words.foldl (fun size word => size + word.length + 1) 0

/-- Give up because an item is too long. -/
def giveUp (gathered : Gathered) : Step Gathered := do
  complain "xargs" "argument line too long"
  return { gathered with code := 1, stops := true }

/-- Take another item. -/
def take (gathering : Gathering) (runner : Runner) (gathered : Gathered) (text : List Char)
    (endsLine : Bool) : Step Gathered := do
  let size := text.length + 1
  let isFull := gathering.size < gathering.frontSize + gathered.size + size
  if isFull && (gathered.items.isEmpty || gathering.exact) then giveUp gathered
  else
    let gathered ← if isFull then gathering.call runner gathered else pure gathered
    if gathered.stops then return gathered
    else
      let gathered :=
        { gathered with
          items := String.ofList text :: gathered.items, size := gathered.size + size
          lines := gathered.lines + if endsLine then 1 else 0 }
      if gathering.most.any (· ≤ gathered.items.length)
          || gathering.mostLines.any (· ≤ gathered.lines) || gathering.mark.isSome then
        gathering.call runner gathered
      else return gathered

/-- Make the last call. -/
def finish (gathering : Gathering) (runner : Runner) (gathered : Gathered) : Step Gathered := do
  if !gathered.items.isEmpty
      || (!gathered.called && !gathering.needsItems && gathering.mark.isNone) then
    gathering.call runner gathered
  else return gathered

/-- Read items and make calls. The fuel bounds the items and the portions of the input. -/
def run (gathering : Gathering) (runner : Runner) : Nat → Gathered → Step Gathered
  | 0, gathered => return gathered
  | fuel + 1, gathered => do
    if gathered.stops || (← Step.isKilled) then return gathered
    else
      match gathering.form.read gathered.isEnd gathered.input with
      | .short => do
        match ← Step.read gathering.stream 4096 with
        | .ok (c :: text) =>
          run gathering runner fuel { gathered with input := gathered.input ++ c :: text }
        | _ => run gathering runner fuel { gathered with isEnd := true }
      | .ended => gathering.finish runner gathered
      | .fault why => do
        complain "xargs" why
        let gathered ← if gathered.items.isEmpty then pure gathered else gathering.call runner gathered
        return { gathered with code := 1, stops := true }
      | .item text endsLine rest =>
        if gathering.last = some (String.ofList text) then gathering.finish runner gathered
        else
          run gathering runner fuel
            (← gathering.take runner { gathered with input := rest } text endsLine)

end Gathering

namespace Tool

/-- The character that an argument says items are parted by. -/
def delimiterOf? (text : String) : Option Char :=
  match text.toList with
  | [c] => some c
  | ['\\', letter] =>
    [('n', '\n'), ('t', '\t'), ('0', Char.ofNat 0), ('\\', '\\'), ('a', Char.ofNat 7),
      ('b', Char.ofNat 8), ('f', Char.ofNat 12), ('r', '\r'), ('v', Char.ofNat 11)].lookup letter
  | '\\' :: 'x' :: digits =>
    if digits.all isHexDigit then some (Char.ofNat (valueIn 16 digits % 256)) else none
  | '\\' :: digits =>
    if digits.all (isDigitIn 8) then
      some (Char.ofNat (valueIn 8 digits % 256))
    else none
  | _ => none

/-- The options of gathering arguments. -/
def gatheringOptions : OptionSet :=
  { flags := "0rtxpoil", valued := "nILdPsEa", anywhere := false, long := [("null", '0'),
    ("no-run-if-empty", 'r'), ("max-args", 'n'), ("replace", 'I'), ("delimiter", 'd'),
    ("verbose", 't'), ("max-procs", 'P'), ("max-lines", 'L'), ("max-chars", 's'), ("exit", 'x'),
    ("arg-file", 'a'), ("eof", 'E')] }

/-- What is wrong with the value of an option that has to be a number. -/
def badNumber? (options : Options) : Option String :=
  [('n', 1), ('L', 1), ('s', 1), ('P', 0)].findSome? fun (letter, least) =>
    match options.value? letter with
    | none => none
    | some text =>
      let name := String.ofList [letter]
      match integer? text with
      | none => some ("invalid number \"" ++ text ++ "\" for -" ++ name ++ " option")
      | some number =>
        if number < least then
          some ("value " ++ toString number ++ " for -" ++ name ++ " option should be >= "
            ++ toString least)
        else none

/-- How arguments are gathered by options. -/
def gatheringOf (options : Options) (stream : Nat) : Gathering :=
  let number (letter : Char) : Option Nat := (options.value? letter).bind natural?
  let mark := (options.value? 'I').or (if options.has 'i' then some "\x7b\x7d" else none)
  { form :=
      match options.lastOf? ['0', 'd'], options.value? 'd' with
      | some 'd', some text => .parts ((delimiterOf? text).getD '\n')
      | some _, _ => .parts (Char.ofNat 0)
      | none, _ => if mark.isSome then .lines else .words
    stream, mark
    words := if options.operands.isEmpty then ["echo"] else options.operands
    most := if mark.isSome then none else number 'n'
    mostLines := (number 'L').or (if options.has 'l' then some 1 else none)
    size := (number 's').getD 131072
    exact := options.has 'x' && (options.has 'n' || options.has 'L')
    last := options.value? 'E', needsItems := options.has 'r', shows := options.has 't'
    width := (number 'P').getD 1 }

/-- Run a program with arguments that are read. -/
def xargs : Tool := fun runner arguments =>
  withOptions "xargs" 1 gatheringOptions arguments fun options => do
    let badDelimiter? := (options.values 'd').find? fun text => (delimiterOf? text).isNone
    match badNumber? options, badDelimiter? with
    | some why, _ => misuse "xargs" 1 why
    | none, some text =>
      fail "xargs" 1 ("Invalid input delimiter specification " ++ text ++ ": the delimiter must be"
        ++ " either a single character or an escape sequence starting with \\.")
    | none, none => do
      let gather (stream : Nat) : Step Nat := do
        let gathering := gatheringOf options stream
        let gathered ← gathering.run runner 10000000 {}
        return (← Gathering.settle 0 1000000 gathered).code
      match options.value? 'a' with
      | none => gather 0
      | some path =>
        match ← Step.withOpen path .reading gather with
        | .ok code => return code
        | .error why =>
          fail "xargs" 1 ("Cannot open input file " ++ quoted path ++ ": " ++ why.reason)

end Tool

end Metamorph.Sandbox
