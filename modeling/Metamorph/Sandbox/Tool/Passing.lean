import Metamorph.Sandbox.Tool.Basic

/-! # Tools that pass text on

The tools that write what they read, whole or in part, in order or backwards, with numbers in
front of lines or with lines broken up, and the one that counts. -/

namespace Metamorph.Sandbox

/-- A number filled up with blanks in front. -/
def paddedNumber (width number : Nat) : List Char :=
  padStart width (Nat.toDigits 10 number)

/-- How lines are shown when they are passed on. -/
structure Showing where
  number : Bool := false
  /-- Only lines that are not empty get a number. -/
  numberFull : Bool := false
  /-- Of empty lines in a row only one is kept. -/
  squeeze : Bool := false
  ends : Bool := false
  tabs : Bool := false
  controls : Bool := false

namespace Showing

/-- A character as it is shown. -/
def character (showing : Showing) (c : Char) : List Char :=
  let low (n : Nat) : List Char :=
    if n < 32 then ['^', Char.ofNat (n + 64)] else if n = 127 then ['^', '?'] else [Char.ofNat n]
  if c = '\n' then [c]
  else if c = '\t' then if showing.tabs then ['^', 'I'] else [c]
  else if showing.controls then
    if c.toNat < 128 then low c.toNat else ['M', '-'] ++ low (c.toNat - 128)
  else [c]

/-- A line with its end as it is shown, behind some lines: the number that the next one gets, and
whether the last one was empty. -/
def line (showing : Showing) (state : Nat × Bool) (line : List Char) :
    List Char × (Nat × Bool) :=
  let (number, wasEmpty) := state
  let isEmpty := line = ['\n']
  if showing.squeeze && isEmpty && wasEmpty then ([], state)
  else
    let numbered := if showing.numberFull then !isEmpty else showing.number
    let front := if numbered then paddedNumber 6 number ++ ['\t'] else []
    let body := line.flatMap showing.character
    let shown :=
      if showing.ends && body.getLast? = some '\n' then body.dropLast ++ ['$', '\n'] else body
    (front ++ shown, (if numbered then number + 1 else number, isEmpty))

/-- Lines with their ends as they are shown. -/
def lines (showing : Showing) (state : Nat × Bool) (lines : List (List Char)) :
    List Char × (Nat × Bool) :=
  let (parts, state) := lines.foldl (fun (parts, state) line =>
    let (part, state) := showing.line state line
    (part :: parts, state)) (([], state) : List (List Char) × (Nat × Bool))
  (parts.reverse.flatten, state)

end Showing

/-- A count of lines or bytes, from the start or from the end. -/
structure Extent where
  count : Nat
  bytes : Bool := false
  /-- All but the count at the end, or from the count on. -/
  inverted : Bool := false

namespace Extent

/-- The beginning of a text. -/
def start (extent : Extent) (text : List Char) : List Char :=
  let units : List (List Char) := if extent.bytes then text.map fun c => [c] else splitKeeping text
  (if extent.inverted then units.take (units.length - extent.count)
    else units.take extent.count).flatten

/-- The end of a text. -/
def ending (extent : Extent) (text : List Char) : List Char :=
  let units : List (List Char) := if extent.bytes then text.map fun c => [c] else splitKeeping text
  (if extent.inverted then units.drop (extent.count - 1)
    else units.drop (units.length - extent.count)).flatten

end Extent

/-- Break a line with its end up into lines that are not longer than a width. Where it is asked
for, lines are broken behind blanks. -/
def foldLine (width : Nat) (atBlanks : Bool) : Nat → List Char → List Char
  | 0, line => line
  | fuel + 1, line =>
    let body := line.filter (· ≠ '\n')
    if body.length ≤ width then line
    else
      let first := body.take width
      let kept := (first.reverse.dropWhile fun c => !isBlank c).reverse
      let first := if atBlanks && !kept.isEmpty then kept else first
      first ++ '\n' :: foldLine width atBlanks fuel (line.drop first.length)

/-- What was counted in a text so far, and where it has come to. -/
structure Tally where
  lines : Nat := 0
  words : Nat := 0
  characters : Nat := 0
  /-- The length of the longest line. -/
  longest : Nat := 0
  inWord : Bool := false
  /-- How far the line reaches. -/
  column : Nat := 0

namespace Tally

/-- Count a character. -/
def next (tally : Tally) (c : Char) : Tally :=
  let tally := { tally with characters := tally.characters + 1 }
  let atEnd := c = '\n' || c = '\r' || c = '\x0c'
  let column :=
    if atEnd then 0
    else if c = '\t' then (tally.column / 8 + 1) * 8
    else if isGraphic c || c = ' ' then tally.column + 1
    else tally.column
  let tally := { tally with column, longest := max tally.longest column }
  let tally := if c = '\n' then { tally with lines := tally.lines + 1 } else tally
  if isSpace c then { tally with inWord := false }
  else if tally.inWord then tally
  else { tally with inWord := true, words := tally.words + 1 }

/-- The counts: lines, words, characters, bytes, and the length of the longest line. -/
def counts (tally : Tally) : List Nat :=
  [tally.lines, tally.words, tally.characters, tally.characters, tally.longest]

end Tally

namespace Tool

/-- Whether a stream leads to a file that the output leads to as well and that has something in
it. -/
def isOutput (stream : Nat) : Step Bool := do
  match ← Step.openingOf? stream, ← Step.openingOf? 1 with
  | some source, some target =>
    let world := (← get).world
    let opening := world.opening source
    match opening.target with
    | .node node =>
      let goal := world.opening target
      return goal.target = .node node && opening.place < (world.bytesOf node).length
        && opening.place < world.writingPlace goal node
    | _ => return false
  | _, _ => return false

/-- Pass files on. -/
def cat : Tool := fun _ arguments =>
  withOptions "cat" 1
    { flags := "AbeEnstTuv", long := [("show-all", 'A'), ("number-nonblank", 'b'),
      ("show-ends", 'E'), ("number", 'n'), ("squeeze-blank", 's'), ("show-tabs", 'T'),
      ("show-nonprinting", 'v')] } arguments fun options => do
    let any (letters : String) : Bool := letters.toList.any options.has
    let showing : Showing :=
      { number := options.has 'n', numberFull := options.has 'b', squeeze := options.has 's'
        ends := any "AeE", tabs := any "AtT", controls := any "Aetv" }
    let isPlain := options.given.all fun option => option.1 = 'u'
    let paths := if options.operands.isEmpty then ["-"] else options.operands
    let pass (state : Nat × Bool) (text : List Char) : Step ((Nat × Bool) × Bool) := do
      let (shown, state) := showing.lines state (splitKeeping text)
      Step.write 1 shown
      return (state, true)
    let passPlain (state : Nat × Bool) (text : List Char) : Step ((Nat × Bool) × Bool) := do
      Step.write 1 text
      return (state, true)
    let (code, _) ← paths.foldlM (fun (code, state) path => do
      let result ← withOperand path fun stream => do
        if ← isOutput stream then return .ok none
        else
          let result ← if isPlain then overPortions stream state passPlain
            else overLines stream state pass
          return result.map some
      match result with
      | .ok (some state) => return (code, state)
      | .ok none => do
        complain "cat" (quotedIfNeeded path ++ ": input file is output file")
        return (1, state)
      | .error why => do
        cannotRead "cat" path why
        return (1, state)) ((0, 1, false) : Nat × Nat × Bool)
    return code

/-- Pass files on with the last line first. -/
def tac : Tool := fun _ arguments =>
  withOptions "tac" 1 {} arguments fun options => do
    let paths := if options.operands.isEmpty then ["-"] else options.operands
    let codes ← paths.mapM fun path => do
      match ← readOperand path with
      | .ok text => do
        Step.write 1 (splitKeeping text).reverse.flatten
        return 0
      | .error .isFolder => do
        complain "tac" (quotedIfNeeded path ++ ": read error: " ++ Refusal.isFolder.reason)
        return 1
      | .error why => do
        complain "tac" ("failed to open " ++ quoted path ++ " for reading: " ++ why.reason)
        return 1
    return codes.foldl max 0

/-- Pass files on with every line turned around. -/
def rev : Tool := fun _ arguments =>
  withLines "rev" (fun name path why => complain name ("cannot open " ++ path ++ ": " ++ why.reason))
    (arguments.filter fun word => !word.startsWith "-") fun text =>
      (splitKeeping text).flatMap fun line =>
        if line.getLast? = some '\n' then line.dropLast.reverse ++ ['\n'] else line.reverse

/-- A number in the first argument, such as `-3`, is a count of lines. -/
def spellOutCount (arguments : List String) : List String :=
  match arguments with
  | first :: rest =>
    match first.toList with
    | '-' :: digits =>
      if !digits.isEmpty && digits.all Char.isDigit then "-n" :: String.ofList digits :: rest
      else arguments
    | _ => arguments
  | [] => []

/-- The options of the tools that pass a part of a text on. -/
def partOptions : OptionSet :=
  { flags := "qvfFz", valued := "nc", long := [("lines", 'n'), ("bytes", 'c'), ("quiet", 'q'),
    ("silent", 'q'), ("verbose", 'v'), ("follow", 'f')] }

/-- Read the extent that options ask for; the sign that inverts it is given. -/
def readExtent (sign : Char) (options : Options) : Except String Extent :=
  let letter := (options.lastOf? ['n', 'c']).getD 'n'
  let bytes := letter = 'c'
  let text := (options.value? letter).getD "10"
  let inverted := text.toList.head? = some sign
  let plain :=
    match text.toList with
    | '-' :: rest => String.ofList rest
    | '+' :: rest => String.ofList rest
    | _ => text
  match countOf? plain with
  | some count => .ok { count, bytes, inverted }
  | none => .error ("invalid number of " ++ (if bytes then "bytes" else "lines") ++ ": " ++ cited text)

/-- Pass a part of each file on, with a headline where there are several. The streams of the files
are passed on by a step. -/
def passParts (name : String) (options : Options)
    (pass : Nat → Step (Except Refusal Unit)) : Step Nat := do
  let paths := if options.operands.isEmpty then ["-"] else options.operands
  let headlines : Bool :=
    match options.lastOf? ['q', 'v'] with
    | some letter => letter = 'v'
    | none => 1 < paths.length
  let (_, good) ← paths.foldlM (fun (isFirst, good) path => do
    let label := if path = "-" then "standard input" else path
    let headline := (if isFirst then "" else "\n") ++ "==> " ++ label ++ " <==\n"
    let result ← withOperand path fun stream => do
      if headlines then Step.out headline
      pass stream
    match result with
    | .ok () => return (false, good)
    | .error why => do
      cannotOpen name label why
      return (isFirst && why ≠ .isFolder, false)) (true, true)
  return if good then 0 else 1

/-- How much of a stream is read at once to find the end of its beginning. -/
def glimpse : Nat := 8192

/-- Pass so many lines of a stream on. Of a file no more is read than that. The fuel bounds the
number of portions. -/
def passLines (stream : Nat) : Nat → Nat → Step (Except Refusal Unit)
  | 0, _ => return .ok ()
  | fuel + 1, count => do
    if count = 0 then return .ok ()
    else
      match ← Step.peek stream glimpse with
      | .error why => return .error why
      | .ok [] => return .ok ()
      | .ok text => do
        let lines := splitKeeping text
        let part := (lines.take count).flatten
        let isWhole := count < lines.length || (count = lines.length && text.getLast? = some '\n')
        let isFile ← do
          match ← Step.openingOf? stream with
          | some number =>
            match ((← get).world.opening number).target with
            | .node _ => pure true
            | _ => pure false
          | none => pure false
        Step.skip stream (if isWhole && isFile then part.length else text.length)
        Step.write 1 part
        if isWhole || (← Step.isKilled) then return .ok ()
        else
          let ended := text.count '\n'
          passLines stream fuel (count - ended)

/-- Pass so many characters of a stream on. The fuel bounds the number of portions. -/
def passCharacters (stream : Nat) : Nat → Nat → Step (Except Refusal Unit)
  | 0, _ => return .ok ()
  | fuel + 1, count => do
    if count = 0 then return .ok ()
    else
      match ← Step.read stream (min count glimpse) with
      | .error why => return .error why
      | .ok [] => return .ok ()
      | .ok text => do
        Step.write 1 text
        if ← Step.isKilled then return .ok ()
        else passCharacters stream fuel (count - text.length)

/-- Pass on what a function makes of the whole text of a stream. -/
def passWhole (make : List Char → List Char) (stream : Nat) : Step (Except Refusal Unit) := do
  match ← Step.readToEnd stream with
  | .error why => return .error why
  | .ok text => do
    Step.write 1 (make text)
    return .ok ()

/-- Pass the beginning of files on. -/
def head : Tool := fun _ arguments =>
  withOptions "head" 1 partOptions (spellOutCount arguments) fun options =>
    match readExtent '-' options with
    | .error why => fail "head" 1 why
    | .ok extent =>
      passParts "head" options fun stream =>
        if extent.inverted then passWhole extent.start stream
        else if extent.bytes then passCharacters stream (extent.count + 1) extent.count
        else passLines stream (Step.plenty * Step.plenty) extent.count

/-- How long it takes until a file is looked at again. -/
def pauseTime : Nat := 50000

/-- Pass on what is added to a file. The fuel bounds how often it is looked at. -/
def follow (stream : Nat) : Nat → Step Unit
  | 0 => Step.sleepForever
  | fuel + 1 => do
    match ← Step.read stream Step.portion with
    | .ok [] => do
      Step.sleep pauseTime
      if !(← Step.isKilled) then follow stream fuel
    | .ok text => do
      Step.write 1 text
      if !(← Step.isKilled) then follow stream fuel
    | .error _ => pure ()

/-- Pass the end of files on. -/
def tail : Tool := fun _ arguments =>
  withOptions "tail" 1 partOptions (spellOutCount arguments) fun options =>
    match readExtent '+' options with
    | .error why => fail "tail" 1 why
    | .ok extent =>
      passParts "tail" options fun stream => do
        match ← passWhole extent.ending stream with
        | .error why => return .error why
        | .ok () => do
          if (options.has 'f' || options.has 'F') && stream ≠ 0 then follow stream Step.plenty
          return .ok ()

/-- Pass the input on and keep a copy in files. -/
def tee : Tool := fun _ arguments =>
  withOptions "tee" 1
    { flags := "aip", long := [("append", 'a'), ("ignore-interrupts", 'i')] } arguments
    fun options => do
    let access : Access := if options.has 'a' then .appending else .writing
    let (streams, code) ← options.operands.foldlM (fun (streams, code) path => do
      let stream ← Step.freeStream
      match ← Step.openPath stream path access with
      | none => return (streams ++ [(path, stream)], code)
      | some why => do
        cannotRead "tee" path why
        return (streams, 1)) (([], 0) : List (String × Nat) × Nat)
    let result ← overPortions 0 code fun code text => do
      Step.write 1 text
      let codes ← streams.mapM fun (path, stream) => do
        match ← Step.tryWrite stream text with
        | none => return 0
        | some why => do
          cannotRead "tee" path why
          return 1
      return (codes.foldl max code, true)
    match result with
    | .ok code => return code
    | .error why => fail "tee" 1 ("read error: " ++ why.reason)

/-- Count lines, words and bytes. -/
def wc : Tool := fun _ arguments =>
  withOptions "wc" 1
    { flags := "lwcmL", long := [("lines", 'l'), ("words", 'w'), ("bytes", 'c'), ("chars", 'm'),
      ("max-line-length", 'L')] } arguments fun options => do
    let letters := ['l', 'w', 'm', 'c', 'L']
    let chosen := if options.given.isEmpty then ['l', 'w', 'c'] else letters.filter options.has
    let pick (counts : List Nat) : List Nat :=
      (letters.zip counts).filterMap fun (letter, count) =>
        if chosen.contains letter then some count else none
    let run ← get
    let inputIsFile :=
      match (run.process.streams.lookup 0).map fun number => (run.world.opening number).target with
      | some (.node _) => true
      | _ => false
    let paths := if options.operands.isEmpty then ["-"] else options.operands
    let found ← paths.mapM fun path => do
      let result ← withOperand path fun stream =>
        overPortions stream ({} : Tally) fun tally text => do
          return (text.foldl Tally.next tally, true)
      match result with
      | .ok tally => return (path, some tally.counts, true)
      | .error .isFolder => do
        cannotRead "wc" path .isFolder
        return (path, some [0, 0, 0, 0, 0], false)
      | .error why => do
        cannotRead "wc" path why
        return (path, none, false)
    let total := found.foldl (fun total entry =>
      match entry.2.1 with
      | some counts =>
        (total.zip counts).zipIdx.map fun ((a, b), i) => if i = 4 then max a b else a + b
      | none => total) [0, 0, 0, 0, 0]
    let size := (Nat.toDigits 10 (total.getD 3 0)).length
    let irregular := found.any fun entry =>
      (entry.1 = "-" && !inputIsFile) || (entry.2.1.isSome && !entry.2.2)
    let width :=
      if paths.length = 1 && chosen.length = 1 then 1 else if irregular then max 7 size else size
    let line (counts : List Nat) (label : String) : List Char :=
      List.intercalate [' '] ((pick counts).map (paddedNumber width))
        ++ (if label.isEmpty then [] else ' ' :: label.toList) ++ ['\n']
    let lines := found.filterMap fun (path, counts, _) =>
      counts.map fun counts => line counts (if options.operands.isEmpty then "" else path)
    let lines := if 1 < paths.length then lines ++ [line total "total"] else lines
    Step.write 1 lines.flatten
    return if found.all fun entry => entry.2.2 then 0 else 1

/-- Pass files on with numbers in front of lines. -/
def nl : Tool := fun _ arguments =>
  withOptions "nl" 1
    { valued := "bwsnviahdflp", long := [("body-numbering", 'b'), ("number-width", 'w'),
      ("number-separator", 's'), ("number-format", 'n'), ("starting-line-number", 'v'),
      ("line-increment", 'i')] } arguments fun options => do
    let number (letter : Char) (usual : Nat) : Nat :=
      ((options.value? letter).bind natural?).getD usual
    let style := (options.value? 'b').getD "t"
    let width := number 'w' 6
    let separator := ((options.value? 's').getD "\t").toList
    let shown (n : Nat) : List Char :=
      let digits := Nat.toDigits 10 n
      match options.value? 'n' with
      | some "ln" => padEnd width digits
      | some "rz" => List.replicate (width - digits.length) '0' ++ digits
      | _ => padStart width digits
    let paths := if options.operands.isEmpty then ["-"] else options.operands
    let (_, code) ← paths.foldlM (fun (next, code) path => do
      let result ← withOperand path fun stream => overLines stream next fun next text => do
        let (parts, next) := (splitKeeping text).foldl (fun (parts, next) line =>
          let counts := style = "a" || (style = "t" && line ≠ ['\n'])
          if counts then ((shown next ++ separator ++ line) :: parts, next + number 'i' 1)
          else ((List.replicate (width + separator.length) ' ' ++ line) :: parts, next))
          (([], next) : List (List Char) × Nat)
        Step.write 1 parts.reverse.flatten
        return (next, true)
      match result with
      | .ok next => return (next, code)
      | .error why => do
        cannotRead "nl" path why
        return (next, 1)) ((number 'v' 1, 0) : Nat × Nat)
    return code

/-- Pass files on with long lines broken up. -/
def fold : Tool := fun _ arguments =>
  withOptions "fold" 1
    { flags := "bs", valued := "w", long := [("width", 'w'), ("spaces", 's'), ("bytes", 'b')] }
    arguments fun options =>
    match natural? ((options.value? 'w').getD "80") with
    | none => fail "fold" 1 ("invalid number of columns: " ++ cited ((options.value? 'w').getD ""))
    | some 0 => fail "fold" 1 ("invalid number of columns: " ++ cited "0")
    | some width =>
      withLines "fold" cannotRead options.operands fun text =>
        (splitKeeping text).flatMap fun line =>
          foldLine width (options.has 's') (line.length + 1) line

end Tool

end Metamorph.Sandbox
