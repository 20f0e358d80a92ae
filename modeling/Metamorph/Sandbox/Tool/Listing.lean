import Metamorph.Sandbox.Calendar
import Metamorph.Sandbox.Shell.Pattern
import Metamorph.Sandbox.Tool.Quoting
import Metamorph.Sandbox.Tool.Mode
import Metamorph.Sandbox.Tool.Folders

/-! # Listing folders

The tool that lists files and what is in folders: only their names, in lines or columns, or a line
of details for each. -/

namespace Metamorph.Sandbox

namespace Entry

/-- The letter for the kind of an entry. -/
def letter : Entry → Char
  | .folder _ => 'd'
  | .file _ _ => '-'
  | .link _ => 'l'
  | .pipe _ _ => 'p'
  | .device _ => 'c'

/-- The number of bytes of an entry. -/
def size : Entry → Nat
  | .folder _ => 4096
  | .file bytes _ => bytes.length
  | .link target => target.length
  | _ => 0

/-- How many blocks of 1024 bytes an entry takes. -/
def blocks : Entry → Nat
  | .folder _ => 4
  | .file bytes _ => (bytes.length + 4095) / 4096 * 4
  | _ => 0

/-- The numbers of a device: what kind it is, and which one of the kind. -/
def deviceNumbers : Entry → Nat × Nat
  | .device .nothing => (1, 3)
  | .device .zeros => (1, 5)
  | .device .full => (1, 7)
  | _ => (0, 0)

end Entry

/-- What is known of a file. -/
structure Details where
  /-- The path or name that it is shown by. -/
  name : String
  entry : Entry
  /-- When it was changed. -/
  changed : Int := 0
  /-- How many names lead to it. -/
  names : Nat := 1
  /-- The number of its node. -/
  number : Nat := 2
  /-- What it leads to if it is a link. -/
  leadsTo : Option Entry := none

namespace Details

/-- What is known of the file at the end of a trail. -/
def ofTrail? (files : Files) (trail : Trail) (name : String) : Option Details := do
  let entry ← files.find? trail
  let inner := (files.names trail).filter fun name => files.isFolder (trail ++ [name])
  let leadsTo :=
    match entry with
    | .link target =>
      ((files.resolve true trail.dropLast target).toOption).bind files.find?
    | _ => none
  return {
    name, entry, changed := (files.changed? trail).getD 0
    names := if entry.isFolder then inner.length + 2 else files.countNames trail
    number := (files.nodeAt? trail).map (· + 1000) |>.getD 2, leadsTo }

end Details

namespace Listing

/-- How lines are arranged. -/
inductive Arrangement where
  | lines
  | details
  | columns
  | rows
  | commas
  deriving DecidableEq

/-- What files are put in order by. -/
inductive SortKey where
  | name
  | nothing
  | size
  | time
  | version
  | ending
  | width
  deriving DecidableEq

/-- What is shown behind names. -/
inductive Marking where
  | nothing
  | slash
  | kind
  | kindAndRun
  deriving DecidableEq

/-- How times are shown: by one format if they are of the last half year, and by another one if
they are older. -/
structure TimeFormats where
  recent : String := "%b %e %H:%M"
  older : String := "%b %e  %Y"

/-- How names are written. -/
inductive NameStyle where
  | literal
  | quoted
  | escaped
  | shell
  | shellAlways
  deriving DecidableEq

/-- How a folder is listed. -/
structure Plan where
  arrangement : Arrangement := .lines
  sortKey : SortKey := .name
  backwards : Bool := false
  foldersFirst : Bool := false
  hidden : Bool := false
  /-- The folder itself and the one around it are listed, too. -/
  dots : Bool := false
  marking : Marking := .nothing
  showsOwner : Bool := true
  showsGroup : Bool := true
  byNumber : Bool := false
  showsNode : Bool := false
  showsBlocks : Bool := false
  human : Bool := false
  context : Bool := false
  times : TimeFormats := {}
  names : NameStyle := .literal
  masksControls : Bool := false
  width : Nat := 80
  tabs : Nat := 8
  ending : String := "\n"
  /-- Patterns of the names that are left out. -/
  ignored : List String := []
  /-- Patterns of the names that are left out unless hidden ones are shown. -/
  concealed : List String := []
  noBackups : Bool := false
  follows : Bool := false
  recursive : Bool := false

/-- A size with a unit, rounded up. -/
def humanSize (bytes : Nat) : String :=
  if bytes < 1024 then toString bytes else go ["K", "M", "G", "T"] 1024
where
  /-- Find the unit by which a size has at most three digits. -/
  go : List String → Nat → String
    | [], unit => toString (bytes / unit)
    | letter :: rest, unit =>
      let tenths := (bytes * 10 + unit - 1) / unit
      let whole := (bytes + unit - 1) / unit
      if tenths < 100 then toString (tenths / 10) ++ "." ++ toString (tenths % 10) ++ letter
      else if whole < 1024 || rest.isEmpty then toString whole ++ letter
      else go rest (unit * 1024)

/-- A name as the plan wants it written. -/
def shownName (plan : Plan) (name : String) : String :=
  let masked := if plan.masksControls then
      String.ofList (name.toList.map fun c => if isControl c then '?' else c)
    else name
  match plan.names with
  | .literal => masked
  | .quoted => "\"" ++ (((cited name).drop 1).dropEnd 1).toString.replace "\"" "\\\"" ++ "\""
  | .escaped => ((((cited name).drop 1).dropEnd 1).toString.replace "\\'" "'").replace " " "\\ "
  | .shell => quotedIfNeeded name
  | .shellAlways => quoted name

/-- The mark behind a name. -/
def markOf (plan : Plan) (entry : Entry) : String :=
  match plan.marking, entry with
  | .nothing, _ => ""
  | _, .folder _ => "/"
  | .slash, _ => ""
  | .kindAndRun, .file _ mode => if mode &&& 0o111 ≠ 0 then "*" else ""
  | _, .link _ => "@"
  | _, .pipe _ _ => "|"
  | _, _ => ""

/-- The number of blocks as the plan wants it written. -/
def shownBlocks (plan : Plan) (blocks : Nat) : String :=
  if plan.human then humanSize (blocks * 1024) else toString blocks

/-- The size of an entry, or the numbers of a device. -/
def shownSize (plan : Plan) (entry : Entry) : String :=
  match entry with
  | .device _ =>
    let (kind, which) := entry.deviceNumbers
    toString kind ++ ", " ++ toString which
  | _ => if plan.human then humanSize entry.size else toString entry.size

/-- A text with blanks in front of it. -/
def atRight (width : Nat) (text : String) : String :=
  String.ofList (padStart width text.toList)

/-- The numbers in front of a name, each as wide as the widest of its kind. -/
def numbersBefore (plan : Plan) (all : List Details) (file : Details) : String :=
  let widest (shown : Details → String) : Nat :=
    all.foldl (fun n file => max n (shown file).length) 0
  let node (file : Details) : String := toString file.number
  let blocks (file : Details) : String := shownBlocks plan file.entry.blocks
  (if plan.showsNode then atRight (widest node) (node file) ++ " " else "")
    ++ (if plan.showsBlocks then atRight (widest blocks) (blocks file) ++ " " else "")
    ++ (if plan.context && plan.arrangement ≠ .details then "? " else "")

/-- A name with the mark of what it names. -/
def markedName (plan : Plan) (file : Details) : String :=
  shownName plan file.name ++ markOf plan file.entry

/-- A line with the details of a file. -/
def detailedLine (plan : Plan) (now : Int) (all : List Details) (file : Details) : String :=
  let widest (shown : Details → String) : Nat :=
    all.foldl (fun n file => max n (shown file).length) 0
  let names (file : Details) : String := toString file.names
  let size (file : Details) : String := shownSize plan file.entry
  let owner := if plan.byNumber then "0" else "root"
  let halfYear : Int := 15778476000000
  let isRecent := now - halfYear < file.changed && file.changed ≤ now
  let format := if isRecent then plan.times.recent else plan.times.older
  let time := (Moment.ofMicroseconds file.changed).formatted format.toList
  let target :=
    match file.entry with
    | .link target =>
      " -> " ++ shownName plan target
        ++ ((file.leadsTo.map (markOf plan)).getD "")
    | entry => markOf plan entry
  numbersBefore plan all file ++ String.ofList (file.entry.letter :: modeLetters file.entry.mode)
    ++ " " ++ atRight (widest names) (names file)
    ++ (if plan.showsOwner then " " ++ owner else "") ++ (if plan.showsGroup then " " ++ owner else "")
    ++ (if plan.context then " ?" else "") ++ " " ++ atRight (widest size) (size file) ++ " "
    ++ String.ofList time ++ " " ++ shownName plan file.name ++ target

/-- The parts of a name between which versions are told apart. -/
def versionKey : Nat → List Char → List (List Char × Nat)
  | 0, _ => []
  | fuel + 1, text =>
    if text.isEmpty then []
    else
      let letters := text.takeWhile (!·.isDigit)
      let rest := text.drop letters.length
      let digits := rest.takeWhile Char.isDigit
      (letters, valueIn 10 digits) :: versionKey fuel (rest.drop digits.length)

/-- Whether letters come before others in the order of versions: other signs stand behind them. -/
def versionLess : List Char → List Char → Bool
  | [], [] => false
  | [], d :: _ => d ≠ '~'
  | c :: _, [] => c = '~'
  | c :: rest, d :: more =>
    let rank (c : Char) : Nat :=
      if c = '~' then 0 else if c.isAlpha then c.toNat else c.toNat + 256
    if c = d then versionLess rest more else rank c < rank d

/-- Whether one name comes before another one, or is at the same place, by versions. -/
def versionBefore : List (List Char × Nat) → List (List Char × Nat) → Bool
  | [], _ => true
  | _ :: _, [] => false
  | a :: rest, b :: more =>
    if a.1 ≠ b.1 then versionLess a.1 b.1
    else if a.2 ≠ b.2 then a.2 < b.2
    else versionBefore rest more

/-- The ending of a name, from its last point on. -/
def endingOf (name : String) : String :=
  let text := name.toList
  let behind := (text.reverse.takeWhile (· ≠ '.')).reverse
  if behind.length = text.length then "" else String.ofList ('.' :: behind)

/-- Put files in order. -/
def sorted (plan : Plan) (files : List Details) : List Details :=
  let byName (a b : Details) : Bool := a.name ≤ b.name
  let before (a b : Details) : Bool :=
    match plan.sortKey with
    | .name => byName a b
    | .nothing => true
    | .size => if a.entry.size = b.entry.size then byName a b else b.entry.size < a.entry.size
    | .time => if a.changed = b.changed then byName a b else b.changed < a.changed
    | .version =>
      let key (file : Details) := versionKey (file.name.length + 1) file.name.toList
      if key a = key b then byName a b else versionBefore (key a) (key b)
    | .ending =>
      let (first, second) := (endingOf a.name, endingOf b.name)
      if first = second then byName a b else first < second
    | .width =>
      if a.name.length = b.name.length then byName a b else a.name.length < b.name.length
  let ordered := files.mergeSort before
  let ordered := if plan.backwards then ordered.reverse else ordered
  if plan.foldersFirst then
    let isFolder (file : Details) : Bool :=
      file.entry.isFolder || (file.leadsTo.map Entry.isFolder).getD false
    ordered.filter isFolder ++ ordered.filter (!isFolder ·)
  else ordered

/-- Blanks and tabs from one column to another one. The fuel bounds them. -/
def indent (tabs : Nat) : Nat → Nat → Nat → String
  | 0, _, _ => ""
  | fuel + 1, start, stop =>
    if stop ≤ start then ""
    else if tabs ≠ 0 && (start + 1) / tabs < stop / tabs then
      "\t" ++ indent tabs fuel (start + tabs - start % tabs) stop
    else " " ++ indent tabs fuel (start + 1) stop

/-- The widths of so many columns for texts that are put in order by columns or by rows. -/
def columnWidths (byColumns : Bool) (lengths : List Nat) (count : Nat) : List Nat :=
  let rows := (lengths.length + count - 1) / count
  (List.range count).map fun column =>
    let own := lengths.zipIdx.filterMap fun (length, place) =>
      if (if byColumns then place / rows else place % count) = column then some length else none
    max 3 (own.foldl max 0 + if column + 1 = count then 0 else 2)

/-- Arrange texts in columns that are as many as fit in the width. -/
def inColumns (plan : Plan) (texts : List String) : String :=
  let lengths := texts.map String.length
  let byColumns := plan.arrangement = .columns
  let most := max 1 (min texts.length (if plan.width = 0 then texts.length else plan.width / 3))
  let counts := ((List.range most).map (· + 1)).reverse
  let isFitting (count : Nat) : Bool :=
    plan.width = 0 || (columnWidths byColumns lengths count).foldl (· + ·) 0 < plan.width
  let count := (counts.find? isFitting).getD 1
  let widths := columnWidths byColumns lengths count
  let rows := (texts.length + count - 1) / count
  let cells (row : Nat) : List (String × Nat) :=
    (List.range count).filterMap fun column =>
      let place := if byColumns then column * rows + row else row * count + column
      (texts[place]?).map fun text => (text, widths.getD column 0)
  String.join ((List.range rows).map fun row => line (cells row) 0 ++ plan.ending)
where
  /-- A row of cells from a column on. -/
  line : List (String × Nat) → Nat → String
    | [], _ => ""
    | [(text, _)], _ => text
    | (text, width) :: rest, start =>
      text ++ indent plan.tabs (width + 8) (start + text.length) (start + width)
        ++ line rest (start + width)

/-- Arrange texts with commas between them in lines of the width. -/
def withCommas (plan : Plan) (texts : List String) : String :=
  (texts.foldl (fun (shown, place, isFirst) text =>
    if isFirst then (shown ++ text, place + text.length, false)
    else if plan.width = 0 || place + text.length + 2 < plan.width then
      (shown ++ ", " ++ text, place + 2 + text.length, false)
    else (shown ++ "," ++ plan.ending ++ text, text.length, false)) ("", 0, true)).1 ++ plan.ending

/-- The text for files. -/
def shown (plan : Plan) (now : Int) (files : List Details) : String :=
  let ordered := sorted plan files
  let texts := ordered.map fun file => numbersBefore plan ordered file ++ markedName plan file
  if ordered.isEmpty then ""
  else
    match plan.arrangement with
    | .lines => String.join (texts.map (· ++ plan.ending))
    | .details =>
      String.join (ordered.map fun file => detailedLine plan now ordered file ++ plan.ending)
    | .commas => withCommas plan texts
    | _ => inColumns plan texts

/-- Whether a name in a folder is listed. -/
def isListed (plan : Plan) (name : String) : Bool :=
  let fits (pattern : String) : Bool :=
    Pattern.fits {} (Pattern.marksOf pattern.toList) name.toList
  (plan.hidden || !name.startsWith ".") && !plan.ignored.any fits
    && (plan.hidden || !plan.concealed.any fits) && !(plan.noBackups && name.endsWith "~")

/-- What is listed of a file: what it leads to, if links are followed. -/
def listedAs (plan : Plan) (files : Files) (trail : Trail) (name : String) : Option Details := do
  let own ← Details.ofTrail? files trail name
  match plan.follows, own.entry with
  | true, .link target =>
    let place? := (files.resolve true trail.dropLast target).toOption
    return ((place?.bind fun place => Details.ofTrail? files place name).getD own)
  | _, _ => return own

/-- The files in a folder that are listed. -/
def filesIn (plan : Plan) (files : Files) (trail : Trail) : List Details :=
  let inner := ((files.names trail).filter (isListed plan)).filterMap fun name =>
    listedAs plan files (trail ++ [name]) name
  let dots := if plan.dots then
      [(".", trail), ("..", trail.dropLast)].filterMap fun (name, trail) =>
        Details.ofTrail? files trail name
    else []
  dots ++ inner

/-- The texts for a folder and, where that is asked for, for those in it, each with a headline. The
fuel bounds the depth. -/
def folderTexts (plan : Plan) (files : Files) (now : Int) (headline : Bool) :
    Nat → Trail → String → List String
  | 0, _, _ => []
  | fuel + 1, trail, path =>
    let inner := filesIn plan files trail
    let blocks := inner.foldl (fun n file => n + file.entry.blocks) 0
    let total := if plan.arrangement = .details || plan.showsBlocks then
      "total " ++ shownBlocks plan blocks ++ plan.ending else ""
    let own := (if headline then shownName plan path ++ ":\n" else "") ++ total ++ shown plan now inner
    let deeper :=
      if plan.recursive then
        (sorted plan inner).flatMap fun file =>
          if file.entry.isFolder && file.name ≠ "." && file.name ≠ ".." then
            folderTexts plan files now true fuel (trail ++ [file.name]) (pathIn path file.name)
          else []
      else []
    own :: deeper

/-- The names for arrangements. -/
def arrangementNames : List (List String × Arrangement) :=
  [(["verbose", "long"], .details), (["commas"], .commas), (["horizontal", "across"], .rows),
    (["vertical"], .columns), (["single-column"], .lines)]

/-- The names for what files are put in order by. -/
def sortNames : List (List String × SortKey) :=
  [(["none"], .nothing), (["time"], .time), (["size"], .size), (["extension"], .ending),
    (["version"], .version), (["width"], .width), (["name"], .name)]

/-- The names for what is shown behind names. -/
def markingNames : List (List String × Marking) :=
  [(["none"], .nothing), (["slash"], .slash), (["file-type"], .kind), (["classify"], .kindAndRun)]

/-- The names for the ways to write names. -/
def styleNames : List (List String × NameStyle) :=
  [(["literal"], .literal), (["shell"], .shell), (["shell-always"], .shellAlways),
    (["shell-escape"], .shell), (["shell-escape-always"], .shellAlways), (["c"], .quoted),
    (["c-maybe"], .literal), (["escape"], .escaped), (["locale"], .shellAlways),
    (["clocale"], .quoted)]

/-- The names for when something is done that is meant for terminals: whether that is always. -/
def whenNames : List (List String × Bool) :=
  [(["always", "yes", "force"], true), (["never", "no", "none"], false),
    (["auto", "tty", "if-tty"], false)]

/-- The formats of times by their names. -/
def timeFormats? (name : String) : Except String TimeFormats :=
  if name.startsWith "+" then
    match (name.drop 1).toString.splitOn "\n" with
    | [one] => .ok { recent := one, older := one }
    | older :: recent :: _ => .ok { recent, older }
    | [] => .ok {}
  else
    let name := if name.startsWith "posix-" then (name.drop 6).toString else name
    chooseNamed "time style"
      [(["full-iso"], ⟨"%Y-%m-%d %H:%M:%S.%N %z", "%Y-%m-%d %H:%M:%S.%N %z"⟩),
        (["long-iso"], ⟨"%Y-%m-%d %H:%M", "%Y-%m-%d %H:%M"⟩), (["iso"], ⟨"%m-%d %H:%M", "%Y-%m-%d "⟩),
        (["locale"], {})] name

/-- The plan that options ask for. -/
def planOf (options : Options) (columns? : Option Nat) : Except String Plan := do
  let last (letters : List Char) : Option (Char × String) :=
    options.given.reverse.find? fun option => letters.contains option.1
  let arrangement ←
    match last ['1', 'C', 'l', 'g', 'o', 'n', 'm', 'x', 'O'] with
    | some ('C', _) => pure Arrangement.columns
    | some ('m', _) => pure .commas
    | some ('x', _) => pure .rows
    | some ('O', value) => chooseNamed "--format" arrangementNames value
    | some ('1', _) => pure (if ['l', 'g', 'o', 'n'].any options.has then .details else .lines)
    | some _ => pure .details
    | none => pure (if options.has 'W' then .details else .lines)
  let sortKey ←
    match last ['S', 't', 'v', 'X', 'U', 'f', 'Y'] with
    | some ('S', _) => pure SortKey.size
    | some ('t', _) => pure .time
    | some ('v', _) => pure .version
    | some ('X', _) => pure .ending
    | some ('Y', value) => chooseNamed "--sort" sortNames value
    | some _ => pure .nothing
    | none => pure (if ['c', 'u'].any options.has && arrangement ≠ .details then .time else .name)
  let marking ←
    match last ['F', 'p', 'y', 'M'] with
    | some ('F', "") => pure Marking.kindAndRun
    | some ('F', value) => do
      pure (if ← chooseNamed "--classify" whenNames value then .kindAndRun else .nothing)
    | some ('p', _) => pure .slash
    | some ('y', _) => pure .kind
    | some (_, value) => chooseNamed "--indicator-style" markingNames value
    | none => pure .nothing
  let names ←
    match last ['N', 'Q', 'b', 'q', 'K'] with
    | some ('Q', _) => pure NameStyle.quoted
    | some ('b', _) => pure .escaped
    | some ('K', value) => chooseNamed "--quoting-style" styleNames value
    | _ => pure .literal
  let times ←
    match last ['W', 'J'] with
    | some ('J', value) => timeFormats? value
    | some _ => timeFormats? "full-iso"
    | none => pure {}
  let number? (letter : Char) : Except String (Option Nat) :=
    match options.value? letter with
    | none => .ok none
    | some text =>
      if !text.isEmpty && text.toList.all Char.isDigit then .ok (some (valueIn 10 text.toList))
      else
        .error ((if letter = 'w' then "invalid line width: " else "invalid tab size: ")
          ++ quoted text)
  return {
    arrangement, sortKey, marking, names, times
    backwards := options.has 'r', foldersFirst := options.has 'D'
    hidden := ['a', 'A', 'f'].any options.has
    dots := (options.lastOf? ['a', 'A', 'f']).any (· ≠ 'A')
    showsOwner := !options.has 'g', showsGroup := !(options.has 'o' || options.has 'G')
    byNumber := options.has 'n', showsNode := options.has 'i', showsBlocks := options.has 's'
    human := options.has 'h' || options.has 'P', context := options.has 'Z'
    masksControls := options.lastOf? ['q', 'E'] = some 'q'
    width := ((← number? 'w').or columns?).getD 80, tabs := (← number? 'T').getD 8
    ending := if options.has '0' then "\x00" else "\n"
    ignored := options.values 'I', concealed := options.values 'H', noBackups := options.has 'B'
    follows := options.has 'L', recursive := options.has 'R' }

end Listing

namespace Tool

/-- List folders. -/
def ls : Tool := fun _ arguments =>
  withOptions "ls" 2
    { flags := "aAbBcCdDfgGhikLlmnNopqQrRsStuUvxXZ10EVPWyz", valued := "wTIHOYMKJ@", perhaps := "Fe",
      long := [("all", 'a'), ("almost-all", 'A'), ("author", 'V'), ("block-size", '@'),
        ("classify", 'F'), ("color", 'e'), ("context", 'Z'), ("dereference", 'L'),
        ("dereference-command-line", 'V'), ("dereference-command-line-symlink-to-dir", 'V'),
        ("directory", 'd'), ("dired", 'V'), ("escape", 'b'), ("file-type", 'y'), ("format", 'O'),
        ("full-time", 'W'), ("group-directories-first", 'D'), ("hide", 'H'),
        ("hide-control-chars", 'q'), ("human-readable", 'h'), ("hyperlink", 'e'),
        ("ignore", 'I'), ("ignore-backups", 'B'), ("indicator-style", 'M'), ("inode", 'i'),
        ("kibibytes", 'k'), ("literal", 'N'), ("no-group", 'G'), ("numeric-uid-gid", 'n'),
        ("quote-name", 'Q'), ("quoting-style", 'K'), ("recursive", 'R'), ("reverse", 'r'),
        ("show-control-chars", 'E'), ("si", 'P'), ("size", 's'), ("sort", 'Y'), ("tabsize", 'T'),
        ("time", '@'), ("time-style", 'J'), ("width", 'w'), ("zero", '0')] }
    arguments fun options => do
    let columns? := ((← Step.process).value? "COLUMNS").bind natural?
    match Listing.planOf options columns? with
    | .error why =>
      if why.startsWith "invalid line" || why.startsWith "invalid tab" then fail "ls" 2 why
      else misuse "ls" 2 why
    | .ok plan => do
      let files ← Step.files
      let now := (← get).world.now
      let paths := if options.operands.isEmpty then ["."] else options.operands
      let found ← paths.mapM fun path => do
        let refuse (why : Refusal) : Step (Option (Trail × Details)) := do
          complain "ls" ("cannot access " ++ quoted path ++ ": " ++ why.reason)
          return none
        let leadsToFolder := ((← Step.entry? true path).map Entry.isFolder).getD false
        let follows := plan.follows
          || (leadsToFolder && !options.has 'd' && plan.arrangement ≠ .details
            && plan.marking ≠ .kindAndRun)
        match ← Step.resolve follows path with
        | .error why => refuse why
        | .ok trail =>
          match Details.ofTrail? files trail path with
          | some file => return some (trail, file)
          | none => refuse .notFound
      let found := found.filterMap fun item => item
      let isListed (item : Trail × Details) : Bool := item.2.entry.isFolder && !options.has 'd'
      let plain := (found.filter (!isListed ·)).map (·.2)
      let folders := found.filter isListed
      let order := Listing.sorted { plan with foldersFirst := false } (folders.map (·.2))
      let headline := 1 < paths.length || plan.recursive
      let texts :=
        (if plain.isEmpty then [] else [Listing.shown plan now plain])
          ++ order.flatMap fun file =>
            match folders.find? fun item => item.2.name = file.name with
            | some (trail, _) =>
              Listing.folderTexts plan files now headline folderDepth trail file.name
            | none => []
      Step.out ("\n".intercalate texts)
      return if found.length = paths.length then 0 else 2

end Tool

end Metamorph.Sandbox
