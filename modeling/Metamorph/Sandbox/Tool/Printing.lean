import Metamorph.Sandbox.Tool.Basic
import Metamorph.Sandbox.Tool.Numeral

/-! # Tools that write lines

The tools that write their arguments, and those that write lines without end or by the number. -/

namespace Metamorph.Sandbox

/-! ## Tools that print

The tools that write their arguments, plainly or by a format. Shells have them built in, with rules
of their own. -/

/-- Whose rules a printing tool goes by. -/
inductive Manner where
  | plainShell
  | richShell
  | program
  deriving DecidableEq

namespace Manner

/-- The escapes that the plain printing of arguments carries out. -/
def echoEscapes : Manner → Escapes
  | .plainShell => { zeroFirst := true, control := ['e'], ending := true, rereads := true }
  | .richShell =>
    { zeroFirst := true, octal := false, hexadecimal := true, unicode := true
      control := ['e', 'E'], ending := true }
  | .program => { zeroFirst := true, hexadecimal := true, control := ['e'], ending := true }

/-- The escapes that a format carries out. -/
def formatEscapes : Manner → Escapes
  | .plainShell => { control := ['e'], rereads := true }
  | .richShell =>
    { hexadecimal := true, unicode := true, control := ['e', 'E'], signs := ['"', '\'', '?']
      rereads := true }
  | .program =>
    { hexadecimal := true, unicode := true, control := ['e'], ending := true, signs := ['"']
      strict := true }

/-- The escapes in an argument that is put into a format. -/
def argumentEscapes : Manner → Escapes
  | .plainShell => echoEscapes .plainShell
  | .richShell => { formatEscapes .richShell with zeroFirst := true, ending := true }
  | .program => { formatEscapes .program with zeroFirst := true }

/-- The numbers with places that a format is filled with. -/
def realRange : Manner → RealRange
  | .plainShell => .double
  | _ => .wide

/-- How an argument that should be a number is shown. -/
def shown (manner : Manner) (text : String) : String :=
  if manner = .program then cited text else text

/-- What is wrong with a text that is no integer in the base that it is written in. -/
def baseFault (text : String) : String :=
  match (takeSign (text.toList.dropWhile isSpace)).2 with
  | '0' :: x :: _ =>
    if x = 'x' || x = 'X' then "invalid hex number"
    else if x.isDigit then "invalid octal number" else "invalid number"
  | _ => "invalid number"

end Manner

/-- A part of what a format prints: a text, or a remark, which may mean a failure. -/
inductive Piece where
  | text (characters : List Char)
  | remark (isFailure : Bool) (words : String)

/-- What has been printed by a format: the pieces, and the arguments that are left. -/
structure Printed where
  pieces : List Piece := []
  rest : List String
  /-- Nothing more is printed. -/
  stops : Bool := false
  /-- The format is wrong. -/
  isBroken : Bool := false

namespace Printed

/-- More pieces behind those that were printed first. -/
def after (first : List Piece) (more : Printed) : Printed :=
  { more with pieces := first ++ more.pieces }

/-- The text alone. -/
def text (printed : Printed) : List Char :=
  printed.pieces.flatMap fun piece =>
    match piece with
    | .text characters => characters
    | .remark _ _ => []

/-- The remarks alone. -/
def remarks (printed : Printed) : List String :=
  printed.pieces.filterMap fun piece =>
    match piece with
    | .text _ => none
    | .remark _ words => some words

/-- Whether something went wrong. -/
def isFailure (printed : Printed) : Bool :=
  printed.pieces.any fun piece =>
    match piece with
    | .text _ => false
    | .remark isFailure _ => isFailure

end Printed

/-- What is remarked of a number that was read from an argument. -/
def numeralRemarks {α : Type} (manner : Manner) (isInteger : Bool) (text : String)
    (numeral? : Option (Numeral α)) : List Piece :=
  let fail (words : String) : List Piece := [.remark true (manner.shown text ++ ": " ++ words)]
  let isWhole := numeral?.any fun numeral => numeral.rest.isEmpty
  let isInRange := numeral?.all fun numeral => numeral.inRange
  if text.isEmpty then []
  else
    match manner with
    | .plainShell =>
      if numeral?.isNone then fail "expected numeric value"
      else if !isWhole then fail "not completely converted"
      else if !isInRange then fail "Numerical result out of range" else []
    | .richShell =>
      if !isWhole then fail (if isInteger then Manner.baseFault text else "invalid number")
      else if !isInRange then
        [.remark false ("warning: " ++ text ++ ": Numerical result out of range")]
      else []
    | .program =>
      if !isInRange then fail "Numerical result out of range"
      else if numeral?.isNone then fail "expected a numeric value"
      else if !isWhole then fail "value not completely converted" else []

/-- The character behind a quote in an argument, and what is remarked of it. There must be one for
some. -/
def quotedCode? (manner : Manner) (text : String) : Option (Nat × List Piece) :=
  match text.toList with
  | q :: rest =>
    if q ≠ '\'' && q ≠ '"' then none
    else if manner = .program && rest.isEmpty then none
    else
      let ignored := String.ofList (rest.drop 1)
      some ((rest.headD (Char.ofNat 0)).toNat,
        if manner = .program && !ignored.isEmpty then
          [.remark false ("warning: " ++ ignored
            ++ ": character(s) following character constant have been ignored")]
        else [])
  | [] => none

/-- The integer that an argument denotes, with what is remarked of it. -/
def integerArgument (manner : Manner) (signed : Bool) (text : String) : Int × List Piece :=
  match quotedCode? manner text with
  | some (code, pieces) => (code, pieces)
  | none =>
    let numeral? := readInteger64 signed text.toList
    ((numeral?.map (·.value)).getD 0, numeralRemarks manner true text numeral?)

/-- The number with places that an argument denotes, with what is remarked of it. -/
def realArgument (manner : Manner) (text : String) : Real × List Piece :=
  match quotedCode? manner text with
  | some (code, pieces) => (.ratio { num := code }, pieces)
  | none =>
    let numeral? := readReal manner.realRange text.toList
    ((numeral?.map (·.value)).getD (.ratio { num := 0 }), numeralRemarks manner false text numeral?)

/-- Print one argument by a directive, and say whether the printing stops. -/
def printArgument (manner : Manner) (directive : Directive) (argument : Option String) :
    List Piece × Bool :=
  let text := argument.getD ""
  match directive.conversion with
  | 's' => ([.text (directive.ofText text.toList)], false)
  | 'b' =>
    match manner.argumentEscapes.applyAll text.toList with
    | (plain, .plain _ _) => ([.text (directive.ofText plain)], false)
    | (plain, .ending) => ([.text (directive.ofText plain)], true)
    | (plain, .faulty why) => ([.text plain, .remark true why], true)
  | 'c' => ([.text (directive.fill false [] [text.toList.headD (Char.ofNat 0)])], false)
  | 'q' =>
    let words := if manner = .program then quotedIfNeeded text else sheltered text
    ([.text (if argument.isNone && manner = .program then [] else directive.ofText words.toList)],
      false)
  | conversion =>
    if Directive.isReal conversion || conversion.toLower = 'a' then
      match if argument.isNone then (.ratio { num := 0 }, []) else realArgument manner text with
      | (.ratio value, pieces) =>
        let text :=
          if conversion.toLower = 'a' then directive.ofHexRatio manner.realRange.bits value
          else directive.ofRatio value
        (pieces ++ [.text text], false)
      | (.word negative word, pieces) => (pieces ++ [.text (directive.ofWord negative word)], false)
    else
      let signed := conversion = 'd' || conversion = 'i'
      let (value, pieces) :=
        if argument.isNone then (0, []) else integerArgument manner signed text
      (pieces ++ [.text (directive.ofInt value)], false)

/-- A directive in a format: what it is, and the text behind it. -/
inductive Directed where
  | found (directive : OpenDirective) (rest : List Char)
  | wrong (why : String)

namespace Manner

/-- The flags that a directive may have. -/
def flags : Manner → List Char
  | .plainShell => ['#', '-', '+', ' ', '0']
  | .richShell => ['#', '\'', '-', '+', ' ', '0']
  | .program => ['I', '\'', '-', '+', ' ', '#', '0']

/-- The marks of a size that may stand in front of a conversion. -/
def sizes : Manner → List Char
  | .plainShell => []
  | .richShell => ['h', 'j', 'l', 'L', 't', 'z']
  | .program => ['l', 'L', 'h', 'j', 't', 'z']

/-- Whether a directive makes sense. -/
def accepts (manner : Manner) (directive : OpenDirective) (isBare : Bool) : Bool :=
  let c := directive.conversion
  let numbers := ['d', 'i', 'o', 'u', 'x', 'X', 'a', 'A', 'e', 'E', 'f', 'F', 'g', 'G']
  match manner with
  | .plainShell => numbers.contains c || ['c', 's', 'b'].contains c
  | .richShell => numbers.contains c || ['c', 's', 'b', 'q', 'Q'].contains c
  | .program =>
    let has (flag : Char) : Bool := directive.flags.contains flag
    let refused : List Char :=
      (if has '\'' || has 'I' then ['a', 'A', 'c', 'e', 'E', 'o', 's', 'x', 'X'] else [])
        ++ (if has '#' then ['c', 'd', 'i', 's', 'u'] else [])
        ++ (if has '0' then ['c', 's'] else [])
        ++ if directive.precision = some none then [] else ['c']
    if c = 'b' || c = 'q' then isBare
    else (numbers.contains c || c = 'c' || c = 's') && !refused.contains c

/-- Read a directive behind its percent sign. -/
def readDirective (manner : Manner) (input : List Char) : Directed :=
  let (directive, rest) := OpenDirective.readShape manner.flags input
  let rest := rest.dropWhile (manner.sizes.contains ·)
  let front := '%' :: input.take (input.length - rest.length)
  match rest with
  | [] =>
    match manner with
    | .plainShell => .wrong "missing format character"
    | .richShell =>
      .wrong (String.ofList (Char.ofNat 0x60 :: front) ++ "': missing format character")
    | .program => .wrong (String.ofList front ++ ": invalid conversion specification")
  | c :: more =>
    let directive := { directive with conversion := c }
    if manner.accepts directive (front = ['%']) then .found directive more
    else
      match manner with
      | .plainShell => .wrong (String.ofList (front ++ [c]) ++ ": invalid directive")
      | .richShell =>
        .wrong (String.ofList [Char.ofNat 0x60, c] ++ "': invalid format character")
      | .program => .wrong (String.ofList (front ++ [c]) ++ ": invalid conversion specification")

end Manner

/-- Print a format once. -/
def printOnce (manner : Manner) : Nat → List Char → List String → Printed
  | 0, _, arguments => { rest := arguments }
  | _ + 1, [], arguments => { rest := arguments }
  | fuel + 1, '%' :: '%' :: rest, arguments =>
    (printOnce manner fuel rest arguments).after [.text ['%']]
  | fuel + 1, '%' :: rest, arguments =>
    match manner.readDirective rest with
    | .wrong why =>
      { rest := arguments, stops := true, isBroken := true, pieces := [.remark true why] }
    | .found directive more =>
      let numbers := (arguments.take directive.extra).map (integerArgument manner true)
      let arguments := arguments.drop directive.extra
      let (pieces, stops) :=
        printArgument manner (directive.close (numbers.map (·.1))) arguments.head?
      let pieces := numbers.flatMap (·.2) ++ pieces
      if stops then { pieces, rest := [], stops }
      else (printOnce manner fuel more (arguments.drop 1)).after pieces
  | fuel + 1, '\\' :: c :: rest, arguments =>
    match manner.formatEscapes.readOne c rest with
    | .plain text rest => (printOnce manner fuel rest arguments).after [.text text]
    | .ending => { rest := [], stops := true }
    | .faulty why =>
      { rest := arguments, stops := true, isBroken := true, pieces := [.remark true why] }
  | fuel + 1, c :: rest, arguments =>
    (printOnce manner fuel rest arguments).after [.text [c]]

/-- Print a format again and again until no argument is left. -/
def printAll (manner : Manner) (format : List Char) : Nat → List String → Printed
  | 0, arguments => { rest := arguments }
  | fuel + 1, arguments =>
    let printed := printOnce manner (2 * format.length + 1) format arguments
    if printed.stops || printed.rest.isEmpty || printed.rest.length = arguments.length then printed
    else (printAll manner format fuel printed.rest).after printed.pieces

/-- What a format prints of arguments. -/
def printByFormat (manner : Manner) (format : String) (arguments : List String) : Printed :=
  printAll manner format.toList (arguments.length + 1) arguments

/-- Whether an argument of the plain printing is an option. -/
def isEchoOption (word : String) : Bool :=
  match word.toList with
  | '-' :: letters => !letters.isEmpty && letters.all (['n', 'e', 'E'].contains ·)
  | _ => false

/-- What the plain printing writes. -/
def echoText (manner : Manner) (arguments : List String) : List Char :=
  let flags :=
    match manner with
    | .plainShell => (arguments.take 1).takeWhile (· = "-n")
    | _ => arguments.takeWhile isEchoOption
  let letters := flags.flatMap fun word => word.toList.drop 1
  let text := (" ".intercalate (arguments.drop flags.length)).toList
  let interprets : Bool :=
    match manner with
    | .plainShell => true
    | _ => (letters.reverse.find? (· ≠ 'n')) = some 'e'
  let (text, stop) := if interprets then manner.echoEscapes.applyAll text else (text, .plain [] [])
  match stop with
  | .ending => text
  | _ => text ++ if letters.contains 'n' then [] else ['\n']

namespace Tool

/-- Write the arguments with blanks between them. -/
def echo : Tool := fun _ arguments => do
  Step.write 1 (echoText .program arguments)
  return 0

/-- Write arguments by a format. -/
def printf : Tool := fun _ arguments => do
  let arguments := if arguments.head? = some "--" then arguments.drop 1 else arguments
  match arguments with
  | [] => misuse "printf" 1 "missing operand"
  | format :: arguments => do
    let printed := printByFormat .program format arguments
    printed.pieces.forM fun piece =>
      match piece with
      | .text text => Step.write 1 text
      | .remark _ words => complain "printf" words
    if !printed.stops && printed.rest.length = arguments.length then
      match printed.rest.head? with
      | some first =>
        complain "printf" ("warning: ignoring excess arguments, starting with " ++ cited first)
      | none => pure ()
    return if printed.isFailure then 1 else 0

end Tool

end Metamorph.Sandbox

namespace Metamorph.Sandbox.Tool

/-! ## Tools that write lines without end, or by the number

A line again and again, and the numbers from one to another. -/

/-- How much is written at once of what has no end, and how often at most: to a pipe, which may
be read, and to anything else. -/
def blockSize : Nat := 8192

/-- How many blocks are written to a pipe at most. -/
def mostBlocks : Nat := 2000

/-- How many blocks are written to a file at most. -/
def fewBlocks : Nat := 16

/-- Write a block again and again. The fuel bounds how often; then nothing more happens. -/
def writeAgain (block : List Char) : Nat → Step (Option Refusal)
  | 0 => do
    Step.workForever
    return none
  | fuel + 1 => do
    match ← Step.tryWrite 1 block with
    | some why => return some why
    | none => do
      Step.work 10
      if ← Step.isKilled then return none else writeAgain block fuel

/-- Whether the output of the running program is read by another program. -/
def outputIsRead : Step Bool := do
  let run ← get
  match (run.process.streams.lookup 1).map fun number => (run.world.opening number).target with
  | some (.pipe pipe) => return !(run.world.pipe pipe).isOutlet
  | _ => return false

/-- Write a line again and again. -/
def yes : Tool := fun _ arguments =>
  withOptions "yes" 1 { anywhere := false } arguments fun options => do
  let arguments := options.operands
  let line := (if arguments.isEmpty then "y" else " ".intercalate arguments).toList ++ ['\n']
  let block := (List.replicate (blockSize / line.length + 1) line).flatten
  match ← writeAgain block (if ← outputIsRead then mostBlocks else fewBlocks) with
  | none => return 0
  | some why => fail "yes" 1 ("standard output: " ++ why.reason)

/-- How many places a number is written with. -/
def placesOf (text : String) : Nat :=
  (text.toList.dropWhile (· ≠ '.')).length - 1

/-- The options of the writing of numbers. -/
structure Counting where
  separator : String := "\n"
  sameWidth : Bool := false
  format : Option String := none

/-- Read the options of the writing of numbers. A number with a minus sign is none. -/
def readCounting : Nat → Counting → List String → Except String (Counting × List String)
  | 0, counting, arguments => .ok (counting, arguments)
  | fuel + 1, counting, arguments =>
    match arguments with
    | "-w" :: rest => readCounting fuel { counting with sameWidth := true } rest
    | "--equal-width" :: rest => readCounting fuel { counting with sameWidth := true } rest
    | "-s" :: text :: rest => readCounting fuel { counting with separator := text } rest
    | "-f" :: text :: rest => readCounting fuel { counting with format := some text } rest
    | "--" :: rest => .ok (counting, rest)
    | word :: rest =>
      if word.startsWith "-s" then
        readCounting fuel { counting with separator := (word.drop 2).toString } rest
      else if word.startsWith "--separator=" then
        readCounting fuel { counting with separator := (word.drop 12).toString } rest
      else if word.startsWith "-f" then
        readCounting fuel { counting with format := some (word.drop 2).toString } rest
      else .ok (counting, arguments)
    | [] => .ok (counting, [])

/-- The numbers from a first to a last one by a step, as multiples of a power of ten. -/
def numbersBetween (first step last : Int) : List Int :=
  if step = 0 || (0 < step && last < first) || (step < 0 && first < last) then []
  else (List.range ((last - first).tdiv step + 1).toNat).map fun (i : Nat) => first + step * i

/-- Write numbers from the first to the last. -/
def seq : Tool := fun _ arguments => do
  match readCounting (arguments.length + 1) {} arguments with
  | .error why => misuse "seq" 1 why
  | .ok (counting, operands) =>
    let read (text : String) : Option Decimal.Ratio :=
      match Decimal.Ratio.read? text.toList with
      | some (value, []) => some value
      | _ => none
    match operands.find? fun text => (read text).isNone with
    | some text => misuse "seq" 1 ("invalid floating point argument: " ++ cited text)
    | none =>
      let places := (operands.take 2 ++ operands.drop 3).foldl (fun n text => max n (placesOf text)) 0
      let finest := operands.foldl (fun n text => max n (placesOf text)) 0
      let scaled (text : String) : Int :=
        let value := (read text).getD { num := 0 }
        let size : Int := Decimal.Ratio.roundDiv (value.num * Nat.pow 10 finest) value.den
        if value.negative then -size else size
      let one : Int := (Nat.pow 10 finest : Nat)
      let show? : Option (List Int × Nat) :=
        match operands with
        | [last] => some (numbersBetween one one (scaled last), 0)
        | [first, last] => some (numbersBetween (scaled first) one (scaled last), placesOf first)
        | [first, step, last] =>
          if scaled step = 0 then none
          else some (numbersBetween (scaled first) (scaled step) (scaled last),
            max (placesOf first) (placesOf step))
        | _ => none
      match operands, show? with
      | [], _ => misuse "seq" 1 "missing operand"
      | _ :: _ :: _ :: extra :: _, _ => misuse "seq" 1 ("extra operand " ++ cited extra)
      | _, none =>
        misuse "seq" 1 ("invalid Zero increment value: " ++ cited (operands.getD 1 ""))
      | _, some (numbers, shown) =>
        let ratio (n : Int) : Decimal.Ratio :=
          { negative := n < 0, num := n.natAbs, den := Nat.pow 10 finest }
        let plain (n : Int) : List Char :=
          (if n < 0 then ['-'] else []) ++ (ratio n).fixed shown
        let width := numbers.foldl (fun w n => max w (plain n).length) 0
        let text (n : Int) : List Char :=
          match counting.format with
          | some format =>
            (printByFormat .program format [String.ofList (plain n)]).text
          | none =>
            if counting.sameWidth then
              ({ zeros := true, width, precision := some (max places shown), conversion := 'f' } :
                Directive).ofRatio (ratio n)
            else plain n
        if !numbers.isEmpty then
          Step.write 1 (counting.separator.toList.intercalate (numbers.map text) ++ ['\n'])
        return 0

end Metamorph.Sandbox.Tool
