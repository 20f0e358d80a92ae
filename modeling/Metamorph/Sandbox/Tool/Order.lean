import Metamorph.Decimal.Ratio
import Metamorph.Sandbox.Tool.Basic

/-! # Tools for the order of lines

The tools that sort lines, put equal ones together, and compare or join files whose lines are
sorted. -/

namespace Metamorph.Sandbox

/-- What counts when two lines are compared. -/
structure LineOrder where
  numeric : Bool := false
  general : Bool := false
  human : Bool := false
  version : Bool := false
  month : Bool := false
  reversed : Bool := false
  ignoreCase : Bool := false
  ignoreBlanks : Bool := false
  /-- Only letters, digits and blanks count. -/
  dictionary : Bool := false
  deriving DecidableEq

/-- The part of a line that is compared: from a field and a character in it to another one. -/
structure SortKey where
  field : Nat
  character : Nat := 1
  lastField : Option Nat := none
  lastCharacter : Nat := 0
  order : LineOrder := {}

namespace LineOrder

/-- The order with one more letter. -/
def withLetter? (order : LineOrder) : Char → Option LineOrder
  | 'n' => some { order with numeric := true }
  | 'g' => some { order with general := true }
  | 'h' => some { order with human := true }
  | 'V' => some { order with version := true }
  | 'M' => some { order with month := true }
  | 'r' => some { order with reversed := true }
  | 'f' => some { order with ignoreCase := true }
  | 'b' => some { order with ignoreBlanks := true }
  | 'd' => some { order with dictionary := true }
  | 'i' => some order
  | _ => none

/-- The number that a line begins with. -/
def leadingNumber (line : List Char) : Decimal.Ratio :=
  let rest := line.dropWhile isBlank
  let (negative, rest) := match rest with | '-' :: rest => (true, rest) | _ => (false, rest)
  let whole := rest.takeWhile Char.isDigit
  let places :=
    match rest.drop whole.length with
    | '.' :: rest => rest.takeWhile Char.isDigit
    | _ => []
  { negative, num := Text.digitsValue (whole ++ places), den := Nat.pow 10 places.length }

/-- The place of the unit behind the number that a line begins with. -/
def unitOf (line : List Char) : Nat :=
  let rest := ((line.dropWhile isBlank).dropWhile (· = '-')).dropWhile fun c =>
    c.isDigit || c = '.'
  match rest with
  | c :: _ => (['K', 'M', 'G', 'T', 'P', 'E'].idxOf (if c = 'k' then 'K' else c) + 1) % 7
  | [] => 0

/-- The number of the month that a line begins with. -/
def monthOf (line : List Char) : Nat :=
  let name := ((line.dropWhile isBlank).take 3).map Char.toUpper
  let months := ["JAN", "FEB", "MAR", "APR", "MAY", "JUN", "JUL", "AUG", "SEP", "OCT", "NOV", "DEC"]
  (months.idxOf (String.ofList name) + 1) % 13

/-- A quotient as a multiple of another denominator. -/
def sized (x : Decimal.Ratio) (den : Nat) : Int :=
  let size : Int := (x.num * den : Nat)
  if x.negative then -size else size

/-- Compare two quotients. -/
def compareRatios (a b : Decimal.Ratio) : Ordering :=
  compare (sized a b.den) (sized b a.den)

/-- Compare two texts by their characters. -/
def compareTexts : List Char → List Char → Ordering
  | [], [] => .eq
  | [], _ => .lt
  | _, [] => .gt
  | c :: rest, d :: more => if c = d then compareTexts rest more else compare c.toNat d.toNat

/-- Compare two texts with the numbers in them. The fuel bounds their length. -/
def compareVersions : Nat → List Char → List Char → Ordering
  | 0, _, _ => .eq
  | fuel + 1, a, b =>
    let rank (c : Char) : Nat := if c = '~' then 0 else if c.isAlpha then c.toNat else c.toNat + 256
    match a, b with
    | [], [] => .eq
    | [], _ => .lt
    | _, [] => .gt
    | c :: rest, d :: more =>
      if c.isDigit && d.isDigit then
        let first := a.takeWhile Char.isDigit
        let second := b.takeWhile Char.isDigit
        match compare (Text.digitsValue first) (Text.digitsValue second) with
        | .eq => compareVersions fuel (a.drop first.length) (b.drop second.length)
        | other => other
      else if c = d then compareVersions fuel rest more
      else compare (rank c) (rank d)

/-- Compare two texts. -/
def compareBy (order : LineOrder) (a b : List Char) : Ordering :=
  let clean (line : List Char) : List Char :=
    let line := if order.dictionary then line.filter fun c => isBlank c || c.isAlphanum else line
    if order.ignoreCase then line.map Char.toUpper else line
  let general (line : List Char) : Option Decimal.Ratio :=
    (Decimal.Ratio.read? (line.dropWhile isBlank)).map (·.1)
  let result : Ordering :=
    if order.numeric then compareRatios (leadingNumber a) (leadingNumber b)
    else if order.general then
      match general a, general b with
      | none, none => .eq
      | none, some _ => .lt
      | some _, none => .gt
      | some x, some y => compareRatios x y
    else if order.human then
      match compare (unitOf a) (unitOf b) with
      | .eq => compareRatios (leadingNumber a) (leadingNumber b)
      | other => other
    else if order.month then compare (monthOf a) (monthOf b)
    else if order.version then compareVersions (a.length + b.length + 1) a b
    else compareTexts (clean a) (clean b)
  if order.reversed then result.swap else result

end LineOrder

namespace SortKey

/-- Read a number of a key. -/
def readNumber (input : List Char) : Option Nat × List Char :=
  let digits := input.takeWhile Char.isDigit
  (if digits.isEmpty then none else some (Text.digitsValue digits), input.drop digits.length)

/-- Read a place: a field, and perhaps a character in it. -/
def readPlace (input : List Char) : Option (Nat × Option Nat × List Char) := do
  let (field, rest) := readNumber input
  let field ← field
  match rest with
  | '.' :: rest => do
    let (character, rest) := readNumber rest
    return (field, some (← character), rest)
  | _ => return (field, none, rest)

/-- Add letters to an order up to a comma. -/
def readLetters (order : LineOrder) : List Char → Option (LineOrder × List Char)
  | [] => some (order, [])
  | ',' :: rest => some (order, ',' :: rest)
  | letter :: rest => do readLetters (← order.withLetter? letter) rest

/-- Read a key. -/
def read (text : String) : Except String SortKey :=
  let invalid (why : String) : Except String SortKey :=
    .error (why ++ ": invalid field specification " ++ cited text)
  match readPlace text.toList with
  | none => .error ("invalid number at field start: invalid count at start of " ++ cited text)
  | some (field, character, rest) =>
    if field = 0 then invalid "field number is zero"
    else if character = some 0 then invalid "character offset is zero"
    else
      match readLetters {} rest with
      | none => invalid "stray character in field spec"
      | some (order, []) => .ok { field, character := character.getD 1, order }
      | some (order, _ :: rest) =>
        match readPlace rest with
        | none => .error ("invalid number after ',': invalid count at start of "
            ++ cited (String.ofList rest))
        | some (lastField, lastCharacter, rest) =>
          if lastField = 0 then invalid "field number is zero"
          else
            match readLetters order rest with
            | some (order, []) =>
              .ok { field, character := character.getD 1, lastField := some lastField
                    lastCharacter := lastCharacter.getD 0, order }
            | _ => invalid "stray character in field spec"

/-- Skip a number of fields. Where the end of the last one is looked for, its separator is
left. -/
def skipFields (separator : Option Char) (stays : Bool) : Nat → List Char → List Char
  | 0, line => line
  | count + 1, line =>
    match separator with
    | some c =>
      let rest := line.dropWhile (· ≠ c)
      if stays && count = 0 then rest else skipFields separator stays count (rest.drop 1)
    | none =>
      skipFields separator stays count ((line.dropWhile isBlank).dropWhile fun c => !isBlank c)

/-- The part of a line that a key is about. -/
def part (key : SortKey) (separator : Option Char) (line : List Char) : List Char :=
  let start := skipFields separator false (key.field - 1) line
  let start := if key.order.ignoreBlanks then start.dropWhile isBlank else start
  let start := start.drop (key.character - 1)
  match key.lastField with
  | none => start
  | some last =>
    let behind :=
      if key.lastCharacter = 0 then skipFields separator true last line
      else
        let field := skipFields separator false (last - 1) line
        (if key.order.ignoreBlanks then field.dropWhile isBlank else field).drop key.lastCharacter
    start.take (start.length - behind.length)

end SortKey

/-- Compare two lines by keys, and by the whole of them in the end. -/
def compareLines (separator : Option Char) (keys : List SortKey) (last : Option LineOrder)
    (a b : List Char) : Ordering :=
  let byKeys := keys.foldl (fun (result : Ordering) key =>
    match result with
    | .eq => key.order.compareBy (key.part separator a) (key.part separator b)
    | _ => result) .eq
  match byKeys, last with
  | .eq, some order => order.compareBy a b
  | result, _ => result

/-- Keep the first of lines in a row that are equal by some rule. -/
def dropEqual (same : List Char → List Char → Bool) : List (List Char) → List (List Char)
  | [] => []
  | line :: rest =>
    match dropEqual same rest with
    | other :: more => if same line other then line :: more else line :: other :: more
    | [] => [line]

/-- Runs of lines that are equal by some rule. -/
def runsOf (same : List Char → List Char → Bool) : List (List Char) → List (List (List Char))
  | [] => []
  | line :: rest =>
    match runsOf same rest with
    | (other :: run) :: more =>
      if same line other then (line :: other :: run) :: more else [line] :: (other :: run) :: more
    | others => [line] :: others

/-- Lines of two sorted files side by side: those of the first one only, of the second one only,
or of both. The fuel bounds the number of lines. -/
def mergeLines : Nat → List (List Char) → List (List Char) → List (Nat × List Char)
  | 0, _, _ => []
  | _ + 1, [], [] => []
  | _ + 1, first, [] => first.map fun line => (1, line)
  | _ + 1, [], second => second.map fun line => (2, line)
  | fuel + 1, a :: first, b :: second =>
    match LineOrder.compareTexts a b with
    | .lt => (1, a) :: mergeLines fuel first (b :: second)
    | .gt => (2, b) :: mergeLines fuel (a :: first) second
    | .eq => (3, a) :: mergeLines fuel first second

namespace Tool

/-- The options of sorting. -/
def sortOptions : OptionSet :=
  { flags := "bdfghiMnRrVcCmsuz", valued := "ktoST", long := [("numeric-sort", 'n'),
    ("reverse", 'r'), ("unique", 'u'), ("key", 'k'), ("field-separator", 't'), ("output", 'o'),
    ("stable", 's'), ("ignore-case", 'f'), ("ignore-leading-blanks", 'b'),
    ("dictionary-order", 'd'), ("general-numeric-sort", 'g'), ("human-numeric-sort", 'h'),
    ("month-sort", 'M'), ("version-sort", 'V'), ("check", 'c'), ("merge", 'm')] }

/-- Sort lines. -/
def sort : Tool := fun _ arguments =>
  withOptions "sort" 2 sortOptions arguments fun options => do
    let base := options.given.foldl (fun (order : LineOrder) option =>
      (order.withLetter? option.1).getD order) {}
    match (options.values 'k').mapM SortKey.read, options.value? 't' with
    | .error why, _ => fail "sort" 2 why
    | .ok keys, separatorText =>
      let separatorText := (separatorText.map fun text => if text = "\\0" then "\x00" else text)
      if separatorText = some "" then fail "sort" 2 "empty tab"
      else if separatorText.any fun text => 1 < text.length then
        fail "sort" 2 ("multi-character tab " ++ cited (separatorText.getD ""))
      else do
        let separator := separatorText.bind fun text => text.toList.head?
        let keys := keys.map fun key => if key.order = {} then { key with order := base } else key
        let keys := if keys.isEmpty && base ≠ {} then [{ field := 1, order := base }] else keys
        let unique := options.has 'u'
        let last : Option LineOrder :=
          if (options.has 's' || unique) && !keys.isEmpty then none
          else some { reversed := base.reversed }
        let compareThem := compareLines separator keys last
        let paths := if options.operands.isEmpty then ["-"] else options.operands
        let texts ← paths.mapM fun path => do
          match ← readOperand path with
          | .ok text => return some text
          | .error .isFolder => do
            complain "sort" ("read failed: " ++ quotedIfNeeded path ++ ": " ++ Refusal.isFolder.reason)
            return none
          | .error why => do
            complain "sort" ("cannot read: " ++ quotedIfNeeded path ++ ": " ++ why.reason)
            return none
        if texts.any Option.isNone then return 2
        else
          let lines := (texts.filterMap fun text => text).flatMap splitLines
          if options.has 'c' || options.has 'C' then
            let pairs := (lines.zip (lines.drop 1)).zipIdx
            let wrong := pairs.find? fun ((a, b), _) =>
              match compareThem a b with
              | .gt => true
              | .eq => unique
              | .lt => false
            match wrong with
            | none => return 0
            | some ((_, line), i) => do
              if options.has 'c' then
                complain "sort" (paths.headD "-" ++ ":" ++ toString (i + 2) ++ ": disorder: "
                  ++ String.ofList line)
              return 1
          else
            let sorted := lines.mergeSort fun a b => compareThem a b ≠ .gt
            let kept := if unique then dropEqual (fun a b => compareThem a b = .eq) sorted
              else sorted
            match options.value? 'o' with
            | none => do
              outLines kept
              return 0
            | some path => do
              match ← Step.writeFile path (joinLines kept) with
              | .ok () => return 0
              | .error why => fail "sort" 2 ("open failed: " ++ path ++ ": " ++ why.reason)

/-- Put one line for a run of equal lines. -/
def uniq : Tool := fun _ arguments =>
  withOptions "uniq" 1
    { flags := "cdDuiz", valued := "fsw", long := [("count", 'c'), ("repeated", 'd'),
      ("unique", 'u'), ("ignore-case", 'i'), ("skip-fields", 'f'), ("skip-chars", 's'),
      ("check-chars", 'w'), ("all-repeated", 'D')] } arguments fun options => do
    let number (letter : Char) : Nat := ((options.value? letter).bind natural?).getD 0
    let key (line : List Char) : List Char :=
      let line := SortKey.skipFields none false (number 'f') line
      let line := line.drop (number 's')
      let line := if options.has 'w' then line.take (number 'w') else line
      if options.has 'i' then line.map Char.toLower else line
    match options.operands with
    | _ :: _ :: extra :: _ => misuse "uniq" 1 ("extra operand " ++ cited extra)
    | operands => do
      match ← readOrComplain "uniq" (operands.headD "-") with
      | none => return 1
      | some text => do
        let runs := runsOf (fun a b => key a = key b) (splitLines text)
        let kept := runs.filter fun run =>
          (!options.has 'd' || 1 < run.length) && (!options.has 'u' || run.length = 1)
            && (!options.has 'D' || 1 < run.length)
        let shown := kept.flatMap fun run =>
          if options.has 'D' then run
          else
            let line := run.headD []
            if options.has 'c' then [padStart 7 (Nat.toDigits 10 run.length) ++ ' ' :: line]
            else [line]
        match operands.drop 1 with
        | [] => do
          outLines shown
          return 0
        | path :: _ => do
          match ← Step.writeFile path (joinLines shown) with
          | .ok () => return 0
          | .error why => fail "uniq" 1 (quotedIfNeeded path ++ ": " ++ why.reason)

/-- Whether lines are sorted. -/
def areSorted (lines : List (List Char)) : Bool :=
  (lines.zip (lines.drop 1)).all fun (a, b) => LineOrder.compareTexts a b ≠ .gt

/-- Compare two sorted files line by line. -/
def comm : Tool := fun _ arguments =>
  withOptions "comm" 1 { flags := "123" } arguments fun options => do
    match options.operands with
    | [] => misuse "comm" 1 "missing operand"
    | [one] => misuse "comm" 1 ("missing operand after " ++ cited one)
    | _ :: _ :: extra :: _ => misuse "comm" 1 ("extra operand " ++ cited extra)
    | [one, two] => do
      match ← readOrComplain "comm" one with
      | none => return 1
      | some first =>
        match ← readOrComplain "comm" two with
        | none => return 1
        | some second => do
          let first := splitLines first
          let second := splitLines second
          let merged := mergeLines (first.length + second.length + 1) first second
          let shows (column : Nat) : Bool := !options.has (Nat.digitChar column)
          outLines (merged.filterMap fun (column, line) =>
            if shows column then
              let tabs := ((List.range column).filter fun i => 0 < i && shows i).length
              some (List.replicate tabs '\t' ++ line)
            else none)
          let disorder := [(1, first), (2, second)].filter fun entry => !areSorted entry.2
          let isChecked := merged.any fun entry => entry.1 ≠ 3
          if isChecked && !disorder.isEmpty then
            disorder.forM fun (number, _) =>
              complain "comm" ("file " ++ toString number ++ " is not in sorted order")
            fail "comm" 1 "input is not in sorted order"
          else return 0

/-- Join the lines of two files that have the same value in a field. -/
def join : Tool := fun _ arguments =>
  withOptions "join" 1 { flags := "i", valued := "12javteo" } arguments fun options => do
    match options.operands with
    | [one, two] => do
      match ← readOrComplain "join" one with
      | none => return 1
      | some first =>
        match ← readOrComplain "join" two with
        | none => return 1
        | some second => do
          let separator := (options.value? 't').bind fun text => text.toList.head?
          let fieldsOf (line : List Char) : List (List Char) :=
            match separator with
            | some c => splitAt c line
            | none => wordsOf line
          let glue := [separator.getD ' ']
          let place (letter : Char) : Nat :=
            (((options.value? letter).or (options.value? 'j')).bind natural?).getD 1
          let keyed (letter : Char) (text : List Char) : List (List Char × List (List Char)) :=
            (splitLines text).map fun line =>
              let fields := fieldsOf line
              (fields.getD (place letter - 1) [], fields.eraseIdx (place letter - 1))
          let left := keyed '1' first
          let right := keyed '2' second
          let shown (key : List Char) (parts : List (List Char)) : List Char :=
            glue.intercalate (key :: parts)
          let extra (number : String) : Bool :=
            (options.values 'a').contains number || (options.values 'v').contains number
          let paired := !options.has 'v'
          let fromLeft := left.flatMap fun (key, parts) =>
            match right.filter fun other => other.1 = key with
            | [] => if extra "1" then [(key, shown key parts)] else []
            | others =>
              if paired then others.map fun other => (key, shown key (parts ++ other.2)) else []
          let fromRight := right.filterMap fun (key, parts) =>
            if extra "2" && !left.any (fun other => other.1 = key) then some (key, shown key parts)
            else none
          let rows := if fromRight.isEmpty then fromLeft
            else (fromLeft ++ fromRight).mergeSort fun a b => LineOrder.compareTexts a.1 b.1 ≠ .gt
          outLines (rows.map (·.2))
          return 0
    | [] => misuse "join" 1 "missing operand"
    | [one] => misuse "join" 1 ("missing operand after " ++ cited one)
    | _ :: _ :: extra :: _ => misuse "join" 1 ("extra operand " ++ cited extra)

end Tool

end Metamorph.Sandbox
