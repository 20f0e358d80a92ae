import Metamorph.Sandbox.Tool.Basic
import Metamorph.Sandbox.Tool.Numeral

/-! # Bytes by their numbers

Files shown line by line, with their bytes as numbers of some sizes, as characters or as names, and
with the place of each line in front of it. Lines that repeat the one before are left out. -/

namespace Metamorph.Sandbox

/-- What bytes are shown as. -/
inductive DumpKind where
  | named
  | character
  | octal
  | signed
  | unsigned
  | hexadecimal
  | real
  deriving DecidableEq

/-- How bytes are shown: what so many of them together stand for. -/
structure DumpForm where
  kind : DumpKind
  size : Nat := 1
  /-- The characters of the line are shown behind it. -/
  trailer : Bool := false

namespace DumpForm

/-- How wide what is shown is at most. -/
def width (form : DumpForm) : Nat :=
  match form.kind with
  | .named => 3
  | .character => 3
  | .octal => (8 * form.size + 2) / 3
  | .hexadecimal => 2 * form.size
  | .signed => (toString (Nat.pow 2 (8 * form.size - 1))).length + 1
  | .unsigned => (toString (Nat.pow 2 (8 * form.size))).length
  | .real => if form.size = 4 then 15 else if form.size = 8 then 24 else 29

/-- The names of the characters that cannot be seen. -/
def controlNames : List String :=
  ["nul", "soh", "stx", "etx", "eot", "enq", "ack", "bel", "bs", "ht", "nl", "vt", "ff", "cr", "so",
    "si", "dle", "dc1", "dc2", "dc3", "dc4", "nak", "syn", "etb", "can", "em", "sub", "esc", "fs",
    "gs", "rs", "us", "sp"]

/-- The escapes of characters. -/
def escapesShown : List (Nat × String) :=
  [(0, "\\0"), (7, "\\a"), (8, "\\b"), (9, "\\t"), (10, "\\n"), (11, "\\v"), (12, "\\f"), (13, "\\r")]

/-- Digits with zeros in front of them. -/
def zeroFilled (width : Nat) (digits : List Char) : List Char :=
  List.replicate (width - digits.length) '0' ++ digits

/-- The range of the numbers with places of some size. -/
def realRange (size : Nat) : RealRange :=
  if size = 4 then ⟨24, 127⟩ else if size = 8 then .double else .wide

/-- A quotient with the fewest digits that read back as it, from so many digits on. The fuel bounds
how many digits are tried. -/
def fewestDigits (range : RealRange) (value : Decimal.Ratio) : Nat → Nat → List Char
  | 0, digits => value.general 'e' digits false
  | fuel + 1, digits =>
    let text := value.general 'e' digits false
    let isSame : Bool :=
      match Decimal.Ratio.read? text with
      | some (ratio, _) =>
        match (range.round ratio).1 with
        | .ratio other => other.num * value.den = value.num * other.den
        | .word _ _ => false
      | none => false
    if isSame then text else fewestDigits range value fuel (digits + 1)

/-- The number with places that bits denote. -/
def showReal (size bits : Nat) : List Char :=
  let range := realRange size
  -- The leading bit of a wide number is written, and that of any other is not.
  let isWide := size = 16
  let places := range.bits - 1
  let stored := if isWide then range.bits else places
  let weights := if isWide then 15 else 8 * size - 1 - places
  let digits := bits % Nat.pow 2 stored
  let power := bits / Nat.pow 2 stored % Nat.pow 2 weights
  let negative := bits / Nat.pow 2 (stored + weights) % 2 = 1
  let sign := if negative then ['-'] else []
  if power = Nat.pow 2 weights - 1 then
    sign ++ (if digits % Nat.pow 2 places = 0 then "inf" else "nan").toList
  else
    let mantissa := if isWide || power = 0 then digits else digits + Nat.pow 2 places
    let (num, den) :=
      Decimal.Ratio.scaled 2 ((max power 1 : Nat) - range.top - places) mantissa 1
    let value : Decimal.Ratio := { num, den }
    let isSmall := mantissa < Nat.pow 2 places
    let first := if isSmall then 1 else if size = 4 then 6 else if size = 8 then 15 else 18
    sign ++ if num = 0 then ['0'] else fewestDigits range value 21 first

/-- What the number is shown as that bytes denote. -/
def showNumber (form : DumpForm) (number : Nat) : List Char :=
  match form.kind with
  | .named =>
    let low := number % 128
    if low = 127 then "del".toList
    else (controlNames[low]?.getD (String.ofList [Char.ofNat low])).toList
  | .character =>
    match escapesShown.lookup number with
    | some shown => shown.toList
    | none =>
      let c := Char.ofNat number
      if isGraphic c || c = ' ' then [c] else zeroFilled 3 (Nat.toDigits 8 number)
  | .octal => zeroFilled form.width (Nat.toDigits 8 number)
  | .hexadecimal => zeroFilled form.width (Nat.toDigits 16 number)
  | .unsigned => Nat.toDigits 10 number
  | .signed =>
    let half := Nat.pow 2 (8 * form.size - 1)
    if number < half then Nat.toDigits 10 number else '-' :: Nat.toDigits 10 (2 * half - number)
  | .real => showReal form.size number

/-- The parts of a list that have some length; the last one may be shorter. -/
def chunks {α : Type} (size : Nat) : Nat → List α → List (List α)
  | 0, _ => []
  | fuel + 1, items =>
    if items.isEmpty then [] else items.take size :: chunks size fuel (items.drop size)

/-- The number that bytes denote. -/
def numberOf (isBigFirst : Bool) (bytes : List Char) : Nat :=
  (if isBigFirst then bytes else bytes.reverse).foldl (fun n c => n * 256 + c.toNat) 0

end DumpForm

/-- How files are shown. -/
structure DumpPlan where
  forms : List DumpForm
  /-- The base of the places of lines, which may be left out. -/
  base : Option Nat := some 8
  perLine : Nat := 16
  showsAll : Bool := false
  isBigFirst : Bool := false

namespace DumpPlan

/-- The number of bytes after which all forms begin anew. -/
def unit (forms : List DumpForm) : Nat :=
  forms.foldl (fun n form => Nat.lcm n form.size) 1

/-- How wide the place of a line is. -/
def placeWidth (plan : DumpPlan) : Nat :=
  match plan.base with
  | none => 0
  | some 16 => 6
  | some _ => 7

/-- The place of a line. -/
def showPlace (plan : DumpPlan) (place : Nat) : List Char :=
  match plan.base with
  | none => []
  | some base => DumpForm.zeroFilled plan.placeWidth (Nat.toDigits base place)

/-- How wide a line is in the widest form. -/
def lineWidth (plan : DumpPlan) : Nat :=
  plan.forms.foldl (fun width form => max width ((form.width + 1) * (plan.perLine / form.size))) 0

/-- The bytes of a line in a form. -/
def showForm (plan : DumpPlan) (form : DumpForm) (bytes : List Char) : List Char :=
  let fields := plan.perLine / form.size
  let blank := (plan.perLine - bytes.length) / form.size
  let padding := plan.lineWidth - form.width * fields
  let numbers := (DumpForm.chunks form.size (bytes.length + 1) bytes).map fun chunk =>
    DumpForm.numberOf plan.isBigFirst
      (chunk ++ List.replicate (form.size - chunk.length) (Char.ofNat 0))
  let shown := ((numbers.take (fields - blank)).zipIdx.map fun (number, i) =>
    let width := padding * (fields - i) / fields - padding * (fields - i - 1) / fields + form.width
    let text := form.showNumber number
    List.replicate (width - text.length) ' ' ++ text).flatten
  if form.trailer then
    shown ++ List.replicate (blank * form.width + padding * blank / fields) ' ' ++ [' ', ' ', '>']
      ++ bytes.map (fun c => if isGraphic c || c = ' ' then c else '.') ++ ['<']
  else shown

/-- A line at a place. -/
def showLine (plan : DumpPlan) (place : Nat) (bytes : List Char) : List Char :=
  (plan.forms.zipIdx.map fun (form, i) =>
    (if i = 0 then plan.showPlace place else List.replicate plan.placeWidth ' ')
      ++ plan.showForm form bytes ++ ['\n']).flatten

end DumpPlan

/-- How far files have been shown. -/
structure Dumping where
  /-- How much is left out first. -/
  toSkip : Nat := 0
  /-- How much is shown at most. -/
  left : Option Nat := none
  place : Nat := 0
  /-- The bytes that do not fill a line yet. -/
  waiting : List Char := []
  before : Option (List Char) := none
  /-- Whether the last line was left out. -/
  repeats : Bool := false

namespace Dumping

/-- Show the whole lines that wait. The fuel bounds their number. -/
def showLines (plan : DumpPlan) : Nat → Dumping → List Char × Dumping
  | 0, dumping => ([], dumping)
  | fuel + 1, dumping =>
    let line := dumping.waiting.take plan.perLine
    if line.length < plan.perLine then ([], dumping)
    else
      let isSame := !plan.showsAll && dumping.before = some line
      let text :=
        if !isSame then plan.showLine dumping.place line
        else if dumping.repeats then [] else ['*', '\n']
      let (more, dumping) := showLines plan fuel
        { dumping with
          place := dumping.place + plan.perLine, waiting := dumping.waiting.drop plan.perLine
          before := some line, repeats := isSame }
      (text ++ more, dumping)

/-- Take up what was read. -/
def feed (plan : DumpPlan) (dumping : Dumping) (text : List Char) : List Char × Dumping :=
  let kept := text.drop dumping.toSkip
  let taken := match dumping.left with | some count => kept.take count | none => kept
  showLines plan (text.length + plan.perLine)
    { dumping with
      toSkip := dumping.toSkip - text.length
      left := dumping.left.map (· - taken.length)
      waiting := dumping.waiting ++ taken }

/-- Whether nothing more is to be read. -/
def isFull (dumping : Dumping) : Bool :=
  dumping.left = some 0

/-- Show the rest, and the place of the end. -/
def finish (plan : DumpPlan) (dumping : Dumping) : List Char :=
  let rest := dumping.waiting
  let last := if rest.isEmpty then [] else plan.showLine dumping.place rest
  let place := plan.showPlace (dumping.place + rest.length)
  last ++ if plan.base.isNone then [] else place ++ ['\n']

end Dumping

namespace Tool

/-- The sizes that letters stand for in forms. -/
def sizeLetters (isReal : Bool) : List (Char × Nat) :=
  if isReal then [('F', 4), ('D', 8), ('L', 16)] else [('C', 1), ('S', 2), ('I', 4), ('L', 8)]

/-- The kinds that letters stand for in forms. -/
def dumpKinds : List (Char × DumpKind) :=
  [('a', .named), ('c', .character), ('o', .octal), ('d', .signed), ('u', .unsigned),
    ('x', .hexadecimal), ('f', .real)]

/-- Read forms. The fuel bounds their number. -/
def readForms (whole : String) : Nat → List Char → Except String (List DumpForm)
  | 0, _ => .ok []
  | _ + 1, [] => .ok []
  | fuel + 1, letter :: rest => do
    match dumpKinds.lookup letter with
    | none =>
      throw ("invalid character '" ++ String.ofList [letter] ++ "' in type string " ++ cited whole)
    | some kind =>
      let isReal := kind = .real
      let hasSize := kind ≠ .named && kind ≠ .character
      let digits := rest.takeWhile Char.isDigit
      let letterSize := if hasSize then (sizeLetters isReal).lookup (rest.headD ' ') else none
      let size :=
        if !hasSize then 1
        else if !digits.isEmpty then Text.digitsValue digits
        else letterSize.getD (if isReal then 8 else 4)
      let rest :=
        if !hasSize then rest
        else rest.drop (if digits.isEmpty && letterSize.isSome then 1 else digits.length)
      let known := if isReal then [4, 8, 16] else if hasSize then [1, 2, 4, 8] else [1]
      if !known.contains size then
        throw ("invalid type string " ++ cited whole ++ ";\nthis system doesn't provide a "
          ++ toString size ++ "-byte " ++ (if isReal then "floating point" else "integral") ++ " type")
      let trailer := rest.head? = some 'z'
      let more ← readForms whole fuel (if trailer then rest.drop 1 else rest)
      return { kind, size, trailer } :: more

/-- The forms that single letters stand for. -/
def usualForms : List (Char × String) :=
  [('a', "a"), ('b', "o1"), ('c', "c"), ('d', "u2"), ('D', "u4"), ('e', "fD"), ('f', "fF"),
    ('F', "fD"), ('h', "x2"), ('H', "x4"), ('x', "x2"), ('X', "x4"), ('i', "dI"), ('I', "dL"),
    ('l', "dL"), ('L', "dL"), ('o', "o2"), ('B', "o2"), ('O', "o4"), ('s', "d2")]

/-- The options of the tool that shows bytes. -/
def dumpOptions : OptionSet :=
  { flags := "aBbcDdeFfHhIiLlOosvXx", valued := "AjNtS\x01", perhaps := "w"
    long := [("address-radix", 'A'), ("skip-bytes", 'j'), ("read-bytes", 'N'), ("format", 't'),
      ("output-duplicates", 'v'), ("strings", 'S'), ("width", 'w'), ("endian", '\x01')] }

/-- A count in base ten, eight or sixteen, with a unit. -/
def countInBase? (text : String) : Option Nat :=
  match readInteger text.toList with
  | some { value, rest, .. } =>
    if value < 0 then none else (units.lookup (String.ofList rest)).map (value.toNat * ·)
  | none => none

/-- Do something with the portions of files one after the other, as long as it goes on, and give
the files that could not be read. -/
def overFiles {σ : Type} (name : String) (goesOn : σ → Bool) (step : σ → List Char → Step σ) :
    List String → σ → Step (σ × List Refusal)
  | [], state => return (state, [])
  | path :: rest, state => do
    if !goesOn state then return (state, [])
    else
      let result ← withOperand path fun stream =>
        overPortions stream state fun state text => do
          let state ← step state text
          return (state, goesOn state)
      match result with
      | .ok state => overFiles name goesOn step rest state
      | .error why => do
        cannotRead name path why
        let (state, faults) ← overFiles name goesOn step rest state
        return (state, why :: faults)

/-- The texts in bytes that are long enough and end with a zero, with their places. -/
def textsIn (least : Nat) : Nat → Nat → List Char → List Char → List (Nat × List Char)
  | 0, _, _, _ => []
  | _ + 1, _, _, [] => []
  | fuel + 1, place, taken, c :: rest =>
    if isGraphic c || c = ' ' || (8 ≤ c.toNat && c.toNat ≤ 13) then
      textsIn least fuel (place + 1) (c :: taken) rest
    else
      let found := if c.toNat = 0 && least ≤ taken.length then
          [(place - taken.length, taken.reverse)] else []
      found ++ textsIn least fuel (place + 1) [] rest

/-- A character of a text among bytes. -/
def shownInText (c : Char) : List Char :=
  match DumpForm.escapesShown.lookup c.toNat with
  | some shown => shown.toList
  | none => [c]

/-- Show bytes. -/
def od : Tool := fun _ arguments =>
  withOptions "od" 1 dumpOptions arguments fun options => do
    let texts := options.given.filterMap fun (letter, value) =>
      if letter = 't' then some value else usualForms.lookup letter
    let forms : Except String (List (List DumpForm)) :=
      (if texts.isEmpty then ["oS"] else texts).mapM fun text => readForms text (text.length + 1) text.toList
    let base? :=
      match (options.value? 'A').map fun text => text.toList.head? with
      | none => some (some 8)
      | some (some 'o') => some (some 8)
      | some (some 'd') => some (some 10)
      | some (some 'x') => some (some 16)
      | some (some 'n') => some none
      | some _ => none
    let counts := ['j', 'N', 'S'].map fun letter =>
      (letter, (options.value? letter).map fun text => (text, countInBase? text))
    let badCount := counts.findSome? fun (letter, given) =>
      match given with
      | some (text, none) => some (letter, text)
      | _ => none
    let count? (letter : Char) : Option Nat := ((counts.lookup letter).join.map (·.2)).join
    match base?, badCount, forms with
    | none, _, _ =>
      let letter := ((options.value? 'A').getD "").take 1
      fail "od" 1 ("invalid output address radix '" ++ letter.toString
        ++ "'; it must be one character from [doxn]")
    | _, some (letter, text), _ =>
      fail "od" 1 ("invalid -" ++ String.ofList [letter] ++ " argument " ++ cited text)
    | _, _, .error why => fail "od" 1 why
    | some base, none, .ok forms => do
      let forms := forms.flatten
      let unit := DumpPlan.unit forms
      let wanted := (options.value? 'w').map fun text => ((countInBase? text).getD 32)
      let perLine :=
        match wanted with
        | some width => if width ≠ 0 && width % unit = 0 then width else unit
        | none => if unit < 16 then unit * (16 / unit) else unit
      if wanted.any (· ≠ perLine) then
        complain "od" ("warning: invalid width " ++ toString (wanted.getD 0) ++ "; using "
          ++ toString perLine ++ " instead")
      let plan : DumpPlan :=
        { forms, base, perLine, showsAll := options.has 'v'
          isBigFirst := options.value? '\x01' = some "big" }
      let paths := if options.operands.isEmpty then ["-"] else options.operands
      let start : Dumping :=
        { toSkip := (count? 'j').getD 0, left := count? 'N', place := (count? 'j').getD 0 }
      match count? 'S' with
      | some least => do
        let (text, faults) ← overFiles "od" (fun _ => true) (fun text more => return text ++ more) paths []
        let kept := text.drop start.toSkip
        let kept := match start.left with | some count => kept.take count | none => kept
        Step.write 1 ((textsIn least (kept.length + 1) start.place [] kept).flatMap
          fun (place, text) =>
            let front := if plan.base.isNone then [] else plan.showPlace place ++ [' ']
            front ++ text.flatMap shownInText ++ ['\n'])
        return if faults.isEmpty then 0 else 1
      | none => do
        let (dumping, faults) ← overFiles "od" (fun dumping => !dumping.isFull)
          (fun dumping text => do
            let (shown, dumping) := dumping.feed plan text
            Step.write 1 shown
            return dumping) paths start
        if dumping.toSkip ≠ 0 then fail "od" 1 "cannot skip past end of combined input"
        else
          -- A folder can be opened.
          if faults.length < paths.length || faults.contains .isFolder then
            Step.write 1 (dumping.finish plan)
          return if faults.isEmpty then 0 else 1

end Tool

end Metamorph.Sandbox
