import Metamorph.Sandbox.Regex.Basic
import Metamorph.Sandbox.Regex.Reader
import Metamorph.Sandbox.Tool.Listing

/-! # Searching lines

The tool that shows the lines of files that match one of some patterns, or only the parts that
match, or tells which files have such lines. -/

namespace Metamorph.Sandbox

/-- How lines are searched. -/
structure Search where
  /-- The expressions one of which must match. -/
  patterns : List Regex
  inverted : Bool := false
  counts : Bool := false
  /-- Only the names of files are shown: of those that have a line, or of those that have none. -/
  names : Option Bool := none
  numbered : Bool := false
  offsets : Bool := false
  /-- Only the parts of lines are shown that match. -/
  onlyParts : Bool := false
  quiet : Bool := false
  silent : Bool := false
  named : Bool := false
  most : Option Nat := none
  before : Nat := 0
  after : Nat := 0
  context : Bool := false
  /-- Files with zeros in them are shown, too. -/
  asText : Bool := false
  /-- What lines end with. -/
  ending : Char := '\n'
  /-- Whether nothing is kept back of what is shown. -/
  prompt : Bool := false
  /-- The name of the input, and what follows a name that stands alone. -/
  inputName : String := "(standard input)"
  nameEnd : Char := '\n'

/-- The number of the group whose text alone counts as the match, if there is such a group. -/
def Search.keptGroup : Nat := 9999

namespace Search

/-- The matches of all expressions in a line, none of which overlaps another one: the one that
begins first and is longest. The fuel bounds their number. -/
def matchesIn (patterns : List Regex) (line : List Char) : Nat → Nat → List Regex.Found
  | 0, _ => []
  | fuel + 1, start =>
    if line.length < start then []
    else
      let candidates := patterns.filterMap fun regex => regex.search? {} line start
      let best := candidates.foldl (fun (best : Option Regex.Found) found =>
        match best with
        | none => some found
        | some other =>
          if found.first < other.first || (found.first = other.first && other.last < found.last)
          then some found else best) none
      match best with
      | none => []
      | some found =>
        if found.first = found.last then matchesIn patterns line fuel (found.last + 1)
        else found :: matchesIn patterns line fuel found.last

/-- Whether a line is one that is looked for. -/
def selects (search : Search) (line : List Char) : Bool :=
  search.inverted != search.patterns.any (·.isFound line)

/-- A line on its way to being shown: its number, where it begins, and whether it is one that is
looked for. -/
structure Line where
  number : Nat
  offset : Nat
  text : List Char
  selected : Bool

/-- The text in front of a line. -/
def front (search : Search) (name : String) (line : Line) (offset : Nat) : List Char :=
  let mark := if line.selected then ':' else '-'
  (if search.named then name.toList ++ [mark] else [])
    ++ (if search.numbered then Nat.toDigits 10 line.number ++ [mark] else [])
    ++ (if search.offsets then Nat.toDigits 10 offset ++ [mark] else [])

/-- What is shown of a line. -/
def shown (search : Search) (name : String) (line : Line) : List Char :=
  if search.onlyParts then
    if !line.selected || search.inverted then []
    else
      (matchesIn search.patterns line.text (line.text.length + 1) 0).flatMap fun found =>
        let (first, part) :=
          match found.groups.lookup keptGroup with
          | some (first, last) => (first, (line.text.drop first).take (last - first))
          | none => (found.first, found.textIn line.text)
        search.front name line (line.offset + first) ++ part ++ [search.ending]
  else search.front name line line.offset ++ line.text ++ [search.ending]

/-- How far a search has come. -/
structure State where
  /-- What was shown and not written yet, the last part first, and its size. -/
  kept : List (List Char) := []
  size : Nat := 0
  /-- Whether anything was shown. -/
  used : Bool := false
  /-- The number of the next line of the file, and where it begins. -/
  number : Nat := 1
  offset : Nat := 0
  found : Nat := 0
  /-- The last line that was shown, and how many lines behind it are shown, too. -/
  shownLast : Nat := 0
  left : Nat := 0
  /-- The last lines that were not shown, the last one first. -/
  passed : List Line := []
  /-- Whether the file has zeros in it. -/
  isBinary : Bool := false
  /-- Where the last line that was looked for ends. -/
  foundEnd : Nat := 0

namespace State

/-- Show a text. -/
def add (state : State) (text : List Char) : State :=
  { state with kept := text :: state.kept, size := state.size + text.length, used := true }

/-- Write what was kept back. -/
def flush (state : State) : Step State := do
  Step.write 1 state.kept.reverse.flatten
  return { state with kept := [], size := 0 }

end State

/-- Show a line. -/
def showLine (search : Search) (name : String) (state : State) (line : Line) : State :=
  let gap := search.context && state.used && state.shownLast + 1 ≠ line.number
  let state := if gap then state.add "--\n".toList else state
  { state.add (search.shown name line) with shownLast := line.number }

/-- Whether no more lines are looked for. -/
def isSated (search : Search) (state : State) : Bool :=
  search.most.any (· ≤ state.found)
    || (0 < state.found && (search.quiet || search.names.isSome || (state.isBinary && !search.counts)))

/-- Go on by a line. The result says whether the next one is of interest. -/
def look (search : Search) (name : String) (state : State) (text : List Char) : State × Bool :=
  let sated := search.isSated state
  let selected := search.selects text
  let line : Line :=
    { number := state.number, offset := state.offset, text, selected := selected && !sated }
  let next : State :=
    { state with number := state.number + 1, offset := state.offset + text.length + 1 }
  let quiet := search.quiet || search.names.isSome || search.counts || state.isBinary
  let state :=
    if line.selected then
      let next := { next with found := next.found + 1, foundEnd := next.offset }
      if quiet then next
      else
        let shown := next.passed.reverse.foldl (search.showLine name) { next with passed := [] }
        { search.showLine name shown line with left := search.after }
    else if quiet then next
    else if 0 < next.left && !selected then
      { search.showLine name next line with left := next.left - 1 }
    else
      { next with left := 0, passed := (line :: next.passed).take search.before }
  (state, !search.isSated state || 0 < state.left)

/-- Go on by lines. -/
def lookAll (search : Search) (name : String) : State → List (List Char) → State × Bool
  | state, [] => (state, true)
  | state, line :: rest =>
    let (state, goesOn) := search.look name state line
    if goesOn then lookAll search name state rest else (state, false)

/-- How much is kept back before it is written. -/
def mostKept : Nat := 4096

/-- Search what a stream gives. -/
def lookThrough (search : Search) (name : String) (stream : Nat) (state : State) :
    Step (Except Refusal State) := do
  let start : State := { kept := state.kept, size := state.size, used := state.used }
  if search.most = some 0 then return .ok start
  else if search.ending ≠ '\n' then
    match ← Step.readToEnd stream with
    | .error why => return .error why
    | .ok text => do
      let parts := splitAt search.ending text
      let parts := if parts.getLast? = some [] then parts.dropLast else parts
      return .ok (search.lookAll name start parts).1
  else
    Tool.overLines stream start fun state text => do
      let isBinary := state.isBinary || (!search.asText && text.contains (Char.ofNat 0))
      let (state, goesOn) := search.lookAll name { state with isBinary } (splitLines text)
      let state ← if search.prompt || mostKept < state.size then state.flush else pure state
      return (state, goesOn)

/-- Whether the stream that is searched is a file that the output leads to. -/
def isOutput (search : Search) (stream : Nat) : Step Bool := do
  let process ← Step.process
  let world := (← get).world
  let target? (stream : Nat) : Option Target :=
    (process.streams.lookup stream).map fun number => (world.opening number).target
  match target? stream, target? 1 with
  | some (.node a), some (.node b) =>
    return a = b && !search.quiet && search.names.isNone && !search.counts && search.most ≠ some 1
      && search.most ≠ some 0
  | _, _ => return false

/-- Search a file, and say whether it has a line that is looked for. -/
def searchFile (search : Search) (path : String) (state : State) : Step (State × Option Bool) := do
  let name := if path = "-" then search.inputName else path
  let result ← Tool.withOperand path fun stream => do
    if ← search.isOutput stream then
      Tool.complain "grep" (name ++ ": input file is also the output")
      return .ok none
    else
      let before ← Step.place stream
      match ← search.lookThrough name stream state with
      | .error why => return .error why
      | .ok state => do
        if search.most.any (· ≤ state.found) then Step.moveTo stream (before + state.foundEnd)
        return .ok (some state)
  match result with
  | .error why => do
    if !search.silent then Tool.complain "grep" (name ++ ": " ++ why.reason)
    return (state, none)
  | .ok none => return (state, none)
  | .ok (some state) => do
    let any := 0 < state.found
    if search.quiet then return (state, some any)
    else
      match search.names with
      | some wanted => do
        return (if any = wanted then state.add (name.toList ++ [search.nameEnd]) else state, some any)
      | none => do
        if search.counts then
          return (state.add ((if search.named then name.toList ++ [':'] else [])
            ++ Nat.toDigits 10 state.found ++ ['\n']), some any)
        else
          if state.isBinary && any then Tool.complain "grep" (name ++ ": binary file matches")
          return (state, some any)

end Search

namespace Tool

/-- The options of searching. -/
def searchOptions : OptionSet :=
  { flags := "EFGPivclLnoqswxhHraRyUbzZTKu", valued := "efmABCDdIXN",
    long := [("extended-regexp", 'E'), ("fixed-strings", 'F'), ("basic-regexp", 'G'),
      ("perl-regexp", 'P'), ("ignore-case", 'i'), ("invert-match", 'v'), ("count", 'c'),
      ("files-with-matches", 'l'), ("files-without-match", 'L'), ("line-number", 'n'),
      ("only-matching", 'o'), ("quiet", 'q'), ("silent", 'q'), ("no-messages", 's'),
      ("word-regexp", 'w'), ("line-regexp", 'x'), ("no-filename", 'h'), ("with-filename", 'H'),
      ("recursive", 'r'), ("text", 'a'), ("byte-offset", 'b'), ("regexp", 'e'), ("file", 'f'),
      ("max-count", 'm'), ("after-context", 'A'), ("before-context", 'B'), ("context", 'C'),
      ("color", 'K'), ("colour", 'K'), ("include", 'I'), ("exclude", 'X'), ("label", 'N'),
      ("line-buffered", 'u'), ("null", 'Z'), ("null-data", 'z')] }

/-- The classes of characters that the richest notation writes with letters. -/
def spellOutClasses : List Char → List Char
  | '\\' :: 'd' :: rest => "[0-9]".toList ++ spellOutClasses rest
  | '\\' :: 'D' :: rest => "[^0-9]".toList ++ spellOutClasses rest
  | '\\' :: 'h' :: rest => "[ \t]".toList ++ spellOutClasses rest
  | '\\' :: 't' :: rest => '\t' :: spellOutClasses rest
  | '\\' :: c :: rest => '\\' :: c :: spellOutClasses rest
  | '(' :: '?' :: ':' :: rest => '(' :: spellOutClasses rest
  | c :: rest => c :: spellOutClasses rest
  | [] => []

/-- Part a text at a backslash and a `K`, in front of which a match is not kept. -/
def partAtKept : List Char → List Char × Option (List Char)
  | '\\' :: 'K' :: rest => ([], some rest)
  | '\\' :: c :: rest =>
    let (first, second) := partAtKept rest
    ('\\' :: c :: first, second)
  | c :: rest =>
    let (first, second) := partAtKept rest
    (c :: first, second)
  | [] => ([], none)

/-- Read a pattern in the notation that options ask for. -/
def readPattern (options : Options) (pattern : List Char) : Except Regex.Fault Regex := do
  let kind := (options.lastOf? ['E', 'F', 'G', 'P']).getD 'G'
  let ignoreCase := options.has 'i' || options.has 'y'
  let form : Regex.Notation := { extended := kind = 'E' || kind = 'P', ignoreCase, lenient := true }
  let regex ←
    if kind = 'F' then pure (Regex.ofText ignoreCase pattern)
    else if kind = 'P' then
      match partAtKept (spellOutClasses pattern) with
      | (whole, none) => Regex.read form whole
      | (first, some second) => do
        pure (.sequence (← Regex.read form first)
          (.group Search.keptGroup (← Regex.read form second)))
    else Regex.read form pattern
  if options.has 'x' then
    return .sequence (.spot .lineStart) (.sequence regex (.spot .lineEnd))
  else if options.has 'w' then
    return .sequence (.spot .behindNoWord) (.sequence regex (.spot .beforeNoWord))
  else return regex

/-- Refuse the way in which the tool was called. -/
def refuseSearch (text : Option String) : Step Nat := do
  match text with
  | some text => complain "grep" text
  | none => pure ()
  Step.complain "Usage: grep [OPTION]... PATTERNS [FILE]..."
  Step.complain "Try 'grep --help' for more information."
  return 2

/-- A number in an argument such as `-3` is a count of lines around each match. -/
def spellOutContext (arguments : List String) : List String :=
  arguments.flatMap fun word =>
    match word.toList with
    | '-' :: digits =>
      if !digits.isEmpty && digits.all Char.isDigit then ["-C", String.ofList digits]
      else if word.startsWith "--color" || word.startsWith "--colour" then [] else [word]
    | _ => [word]

/-- The paths of the files in a folder, or the path itself. -/
def filesIn (options : Options) (path : String) : Step (List String) := do
  match ← Step.resolve true path, ← Step.entry? true path with
  | .ok trail, some (.folder _) =>
    let files ← Step.files
    let included (name : String) : Bool :=
      let fits (pattern : String) : Bool :=
        Pattern.fits {} (Pattern.marksOf pattern.toList) name.toList
      (!options.has 'I' || (options.values 'I').any fits) && !(options.values 'X').any fits
    return (insideOut files folderDepth trail path).filterMap fun (path, _, entry) =>
      match entry with
      | .file _ _ => if included (lastName path) then some path else none
      | _ => none
  | _, _ => return [path]

/-- Search the lines of files. -/
def grepWith (front : List String) : Tool := fun _ arguments => do
  match searchOptions.read (front ++ spellOutContext arguments) with
  | .error why => refuseSearch (some why)
  | .ok options => do
    let fromFiles : List (Except String (List (List Char))) ← (options.values 'f').mapM fun path => do
      match ← readOperand path with
      | .ok text => return .ok (splitLines text)
      | .error why => return .error (path ++ ": " ++ why.reason)
    let problem := fromFiles.findSome? fun found =>
      match found with
      | .error why => some why
      | .ok _ => none
    let given := options.values 'e'
    let explicit := !given.isEmpty || options.has 'f'
    match problem, explicit, options.operands with
    | some why, _, _ => fail "grep" 2 why
    | none, false, [] => refuseSearch none
    | none, _, operands => do
      let texts := (if explicit then given else operands.take 1).flatMap fun text =>
        splitAt '\n' text.toList
      let texts := texts ++ fromFiles.flatMap fun found =>
        match found with
        | .ok lines => lines
        | .error _ => []
      let paths := if explicit then operands else operands.drop 1
      let number (letter : Char) : Option Nat := (options.value? letter).bind natural?
      let badContext := ['A', 'B', 'C'].find? fun letter =>
        options.has letter && (number letter).isNone
      match texts.mapM (readPattern options), badContext with
      | .error why, _ => fail "grep" 2 why.message
      | _, some letter =>
        fail "grep" 2 ((options.value? letter).getD "" ++ ": invalid context length argument")
      | .ok patterns, none =>
        if options.has 'm' && (number 'm').isNone then fail "grep" 2 "invalid max count"
        else do
          let isExtended := options.lastOf? ['E', 'F', 'G', 'P'] = some 'E'
          texts.forM fun text =>
            match text with
            | c :: _ =>
              if isExtended && ['*', '+', '?'].contains c then
                complain "grep" ("warning: " ++ String.ofList [c] ++ " at start of expression")
              else pure ()
            | [] => pure ()
          let recursive := options.has 'r' || options.has 'R'
          let paths := if paths.isEmpty then if recursive then ["."] else ["-"] else paths
          let all ← if recursive then do pure (← paths.mapM (filesIn options)).flatten
            else pure paths
          let around := (number 'C').getD 0
          let search : Search :=
            { patterns, inverted := options.has 'v', counts := options.has 'c'
              names := (options.lastOf? ['l', 'L']).map fun letter => decide (letter = 'l')
              numbered := options.has 'n', offsets := options.has 'b'
              onlyParts := options.has 'o', quiet := options.has 'q', silent := options.has 's'
              named := match options.lastOf? ['h', 'H'] with
                | some letter => letter = 'H'
                | none => 1 < paths.length || recursive
              most := number 'm', before := (number 'B').getD around
              after := (number 'A').getD around
              context := ['A', 'B', 'C'].any options.has, asText := options.has 'a'
              ending := if options.has 'z' then Char.ofNat 0 else '\n', prompt := options.has 'u'
              inputName := (options.value? 'N').getD "(standard input)"
              nameEnd := if options.has 'Z' then Char.ofNat 0 else '\n' }
          let (state, found, failed) ← all.foldlM (fun (state, found, failed) path => do
            if found && search.quiet then return (state, found, failed)
            else
              let (state, any?) ← search.searchFile path state
              return (state, found || any?.getD false, failed || any?.isNone))
            (({}, false, false) : Search.State × Bool × Bool)
          let _ ← state.flush
          return if search.quiet && found then 0 else if failed then 2 else if found then 0 else 1

/-- Search the lines of files. -/
def grep : Tool := grepWith []

/-- Search the lines of files for expressions in the extended notation. -/
def egrep : Tool := grepWith ["-E"]

/-- Search the lines of files for fixed texts. -/
def fgrep : Tool := grepWith ["-F"]

end Tool

end Metamorph.Sandbox
