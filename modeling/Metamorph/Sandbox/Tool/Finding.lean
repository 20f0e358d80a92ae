import Metamorph.Sandbox.Tool.Listing

/-! # Finding files

The tool that walks through folders and tests every file on the way, and does something with
those that pass. -/

namespace Metamorph.Sandbox

/-- What a file is tested for, and what is done with it. -/
inductive Finding where
  | always (value : Bool)
  | name (ignoreCase wholePath : Bool) (pattern : String)
  | kind (letters : String)
  | isEmpty
  /-- The size in units is less than, equal to or greater than a number. -/
  | size (comparison : Ordering) (count unit : Nat)
  | mode (bits : Nat) (all : Bool)
  | print (ending : String)
  | delete
  /-- A program is run for each file, or once for all of them. -/
  | run (words : List String) (together : Bool)
  | prune
  | not (test : Finding)
  | and (first second : Finding)
  | or (first second : Finding)

namespace Finding

/-- Whether something is done at all, so that files need not be printed. -/
def acts : Finding → Bool
  | .print _ => true
  | .delete => true
  | .run _ _ => true
  | .not test => test.acts
  | .and first second => first.acts || second.acts
  | .or first second => first.acts || second.acts
  | _ => false

/-- Whether files in a folder come before the folder itself. -/
def isInsideOut : Finding → Bool
  | .delete => true
  | .not test => test.isInsideOut
  | .and first second => first.isInsideOut || second.isInsideOut
  | .or first second => first.isInsideOut || second.isInsideOut
  | _ => false

/-- A number with a sign that says how it is compared. -/
def readCount? (text : String) : Option (Ordering × String) :=
  match text.toList with
  | '+' :: rest => some (.gt, String.ofList rest)
  | '-' :: rest => some (.lt, String.ofList rest)
  | _ => some (.eq, text)

/-- The size that a text with a unit denotes. -/
def readSize? (text : String) : Option Finding := do
  let (comparison, text) ← readCount? text
  let digits := text.toList.takeWhile Char.isDigit
  let unit ← [("", 512), ("b", 512), ("c", 1), ("w", 2), ("k", 1024), ("M", 1048576),
    ("G", 1073741824)].lookup (String.ofList (text.toList.drop digits.length))
  if digits.isEmpty then none else return .size comparison (Text.digitsValue digits) unit

/-- Read a single test with its argument. -/
def readTest (word : String) (rest : List String) : Except String (Finding × List String) :=
  let withArgument (make : String → Option Finding) : Except String (Finding × List String) :=
    match rest with
    | [] => .error ("missing argument to " ++ String.ofList [Char.ofNat 0x60] ++ word ++ "'")
    | argument :: rest =>
      match make argument with
      | some test => .ok (test, rest)
      | none => .error ("invalid argument " ++ String.ofList [Char.ofNat 0x60] ++ argument
          ++ "' to " ++ String.ofList [Char.ofNat 0x60] ++ word ++ "'")
  match word with
  | "-name" => withArgument fun text => some (.name false false text)
  | "-iname" => withArgument fun text => some (.name true false text)
  | "-path" => withArgument fun text => some (.name false true text)
  | "-wholename" => withArgument fun text => some (.name false true text)
  | "-ipath" => withArgument fun text => some (.name true true text)
  | "-type" => withArgument fun text => some (.kind text)
  | "-size" => withArgument readSize?
  | "-perm" => withArgument fun text =>
      let all := text.startsWith "-"
      ((ModeChange.read? (if all then (text.drop 1).toString else text))).map fun changes =>
        .mode (ModeChange.applyAll false 0 0 changes) all
  | "-empty" => .ok (.isEmpty, rest)
  | "-true" => .ok (.always true, rest)
  | "-false" => .ok (.always false, rest)
  | "-print" => .ok (.print "\n", rest)
  | "-print0" => .ok (.print "\x00", rest)
  | "-delete" => .ok (.delete, rest)
  | "-prune" => .ok (.prune, rest)
  | "-exec" =>
    let words := rest.takeWhile fun word => word ≠ ";" && word ≠ "+"
    match rest.drop words.length with
    | [] => .error ("missing argument to " ++ String.ofList [Char.ofNat 0x60] ++ word ++ "'")
    | ending :: rest => .ok (.run words (ending = "+"), rest)
  | _ => .error ("unknown predicate " ++ String.ofList [Char.ofNat 0x60] ++ word ++ "'")

/-- Put a test in front of others that must hold, too. -/
def andThen (first : Finding) : Option Finding → Finding
  | none => first
  | some second => .and first second

mutual
/-- Read tests one of which must hold. -/
def readEither : Nat → List String → Except String (Finding × List String)
  | 0, words => .ok (.always true, words)
  | fuel + 1, words => do
    let (first, rest) ← readBoth fuel words
    match rest with
    | "-o" :: rest => do
      let (second, rest) ← readEither fuel rest
      return (.or first second, rest)
    | "-or" :: rest => do
      let (second, rest) ← readEither fuel rest
      return (.or first second, rest)
    | _ => return (first, rest)

/-- Read tests all of which must hold. -/
def readBoth : Nat → List String → Except String (Finding × List String)
  | 0, words => .ok (.always true, words)
  | fuel + 1, words => do
    let (first, rest) ← readSingle fuel words
    match rest with
    | [] => return (first, rest)
    | word :: more =>
      if ["-o", "-or", ")", ","].contains word then return (first, rest)
      else
        let rest := if word = "-a" || word = "-and" then more else rest
        let (second, rest) ← readBoth fuel rest
        return (.and first second, rest)

/-- Read a test, perhaps a negated one or several between parentheses. -/
def readSingle : Nat → List String → Except String (Finding × List String)
  | 0, words => .ok (.always true, words)
  | _ + 1, [] => .error "expected an expression"
  | fuel + 1, word :: rest => do
    if word = "!" || word = "-not" then
      let (test, rest) ← readSingle fuel rest
      return (.not test, rest)
    else if word = "(" then
      let (test, rest) ← readEither fuel rest
      match rest with
      | ")" :: rest => return (test, rest)
      | _ => throw "invalid expression; I was expecting to find a ')' somewhere but did not see one."
    else readTest word rest
end

end Finding

/-- A file that is being tested. -/
structure Candidate where
  path : String
  trail : Trail
  entry : Entry

/-- What testing a file leads to. -/
structure FindState where
  /-- The folder is not walked through. -/
  pruned : Bool := false
  /-- The files for programs that are run once for all of them, by the words of these. -/
  collected : List (List String × List String) := []
  code : Nat := 0

/-- The letter of the kind of an entry. -/
def Entry.findLetter : Entry → Char
  | .folder _ => 'd'
  | .file _ _ => 'f'
  | .link _ => 'l'
  | .pipe _ _ => 'p'
  | .device _ => 'c'

namespace Finding

/-- Test a file and do what is asked for. -/
def test (runner : Runner) (file : Candidate) (finding : Finding) :
    StateT FindState Step Bool :=
  match finding with
  | .always value => return value
  | .name ignoreCase wholePath pattern =>
    let text := if wholePath then file.path
      else if withoutEnd file.path = "/" then "/" else lastName file.path
    return Pattern.fits { foldsCase := ignoreCase } (Pattern.marksOf pattern.toList) text.toList
  | .kind letters =>
    let letter := file.entry.findLetter
    return letters.toList.contains letter
  | .isEmpty => do
    match file.entry with
    | .file bytes _ => return bytes.isEmpty
    | .folder _ => return ((← Step.files).names file.trail).isEmpty
    | _ => return false
  | .size comparison count unit =>
    let size := (file.entry.size + unit - 1) / unit
    return compare size count = comparison
  | .mode bits all =>
    let mode := file.entry.mode
    return if all then mode &&& bits = bits else mode = bits
  | .print ending => do
    Step.out (file.path ++ ending)
    return true
  | .delete => do
    let files ← Step.files
    match file.entry with
    | .folder _ =>
      if (files.names file.trail).isEmpty then
        Step.setFiles (files.remove file.trail)
        return true
      else
        Tool.complain "find" ("cannot delete " ++ quoted file.path ++ ": "
          ++ Refusal.notEmpty.reason)
        modify fun state => { state with code := 1 }
        return false
    | _ => do
      Step.setFiles (files.remove file.trail)
      return true
  | .run words together => do
    if together then
      modify fun state =>
        let before := (state.collected.lookup words).getD []
        { state with
          collected := (words, before ++ [file.path]) ::
            state.collected.filter fun entry => entry.1 ≠ words }
      return true
    else
      let words := words.map fun word => file.path.intercalate (word.splitOn "\x7b\x7d")
      match ← (runner.run words : Step _) with
      | .ok status => return status = .exited 0
      | .error why => do
        Tool.complain "find" (quoted (words.headD "") ++ ": " ++ why.reason)
        return false
  | .prune => do
    modify fun state => { state with pruned := true }
    return true
  | .not finding => do return !(← finding.test runner file)
  | .and first second => do
    if ← first.test runner file then second.test runner file else return false
  | .or first second => do
    if ← first.test runner file then return true else second.test runner file

end Finding

/-- Walk through a folder and test everything in it. The depth counts from the starting point. -/
def walkFolder (runner : Runner) (finding : Finding) (least : Nat) (most : Option Nat) :
    Nat → Nat → String → Trail → StateT FindState Step Unit
  | 0, _, _, _ => pure ()
  | fuel + 1, depth, path, trail => do
    match (← Step.files).find? trail with
    | none => pure ()
    | some entry =>
      let file : Candidate := { path, trail, entry }
      let own : StateT FindState Step Unit := do
        if least ≤ depth then let _ ← finding.test runner file
      let inner : StateT FindState Step Unit := do
        let stops := (← get).pruned
        modify fun state => { state with pruned := false }
        match entry with
        | .folder _ =>
          if !stops && most.all (depth < ·) then
            ((← Step.files).names trail).forM fun name =>
              walkFolder runner finding least most fuel (depth + 1) (pathIn path name)
                (trail ++ [name])
        | _ => pure ()
      if finding.isInsideOut then
        inner
        own
      else
        own
        inner

namespace Tool

/-- The depths that words ask for, which may stand anywhere, and the other words. -/
def readDepths : List String → Option Nat × Option Nat × List String
  | "-maxdepth" :: text :: rest =>
    let (least, _, others) := readDepths rest
    (least, natural? text, others)
  | "-mindepth" :: text :: rest =>
    let (_, most, others) := readDepths rest
    (natural? text, most, others)
  | word :: rest =>
    let (least, most, others) := readDepths rest
    (least, most, word :: others)
  | [] => (none, none, [])

/-- Find files. -/
def find : Tool := fun runner arguments => do
  let begins (word : String) : Bool :=
    (word.startsWith "-" && 1 < word.length) || word = "(" || word = "!"
  let arguments := arguments.dropWhile fun word => ["-H", "-L", "-P"].contains word
  let starts := arguments.takeWhile fun word => !begins word
  let (least, most, words) := readDepths (arguments.drop starts.length)
  let words := words.filter fun word => !(["-xdev", "-mount", "-depth", "-noleaf"].contains word)
  let starts := if starts.isEmpty then ["."] else starts
  let parsed : Except String (Finding × List String) :=
    if words.isEmpty then .ok (.always true, [])
    else Finding.readEither (8 * words.length + 8) words
  match parsed with
  | .error why => do
    complain "find" why
    return 1
  | .ok (_, word :: _) => do
    complain "find" ("paths must precede expression: " ++ String.ofList [Char.ofNat 0x60] ++ word ++ "'")
    return 1
  | .ok (finding, []) => do
    let finding := if finding.acts then finding else .and finding (.print "\n")
    let visit : StateT FindState Step Unit :=
      starts.forM fun path => do
        let trail? ← Step.resolve false path
        let entry? ← Step.entry? false path
        match trail?, entry? with
        | .ok trail, some _ =>
          walkFolder runner finding (least.getD 0) most folderDepth 0 path trail
        | .error why, _ => do
          complain "find" (quoted path ++ ": " ++ why.reason)
          modify fun state => { state with code := 1 }
        | .ok _, none => do
          complain "find" (quoted path ++ ": " ++ Refusal.notFound.reason)
          modify fun state => { state with code := 1 }
    let ((), state) ← visit.run {}
    let codes ← state.collected.reverse.mapM fun (words, paths) => do
      let words := words.flatMap fun word => if word = "\x7b\x7d" then paths else [word]
      match ← runner.run words with
      | .ok (.exited 0) => return 0
      | _ => return 1
    return codes.foldl max state.code

end Tool

end Metamorph.Sandbox
