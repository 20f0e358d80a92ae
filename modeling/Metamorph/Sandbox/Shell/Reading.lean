import Metamorph.Sandbox.Shell.Field
import Metamorph.Sandbox.Shell.State

/-! # Reading lines into variables

A line of the input is taken apart at the separators, and each variable gets a part of it; the
last one gets all that is left. A backslash takes the meaning of the next character away. -/

namespace Metamorph.Sandbox.Shell

/-- How lines are read. -/
structure LineReading where
  /-- A backslash is a character like any other. -/
  raw : Bool := false
  delimiter : Char := '\n'
  /-- How many characters are read at most. -/
  most : Option Nat := none
  /-- The stream that is read. -/
  stream : Nat := 0
  /-- The array that gets all words. -/
  array : Option String := none
  names : List String := []

/-- A line as far as it was read: its characters, each with a sign that it was escaped, whether
it has an end, and what follows it. -/
structure TakenLine where
  text : List (Char × Bool) := []
  ended : Bool := false
  rest : List Char := []

/-- Take a line. -/
def takeLine (reading : LineReading) : Nat → Nat → List Char → TakenLine
  | 0, _, rest => { rest }
  | _ + 1, _, [] => {}
  | fuel + 1, taken, c :: rest =>
    let push (mark : Char × Bool) (rest : List Char) : TakenLine :=
      let line := takeLine reading fuel (taken + 1) rest
      { line with text := mark :: line.text }
    if reading.most.any (· ≤ taken) then { ended := true, rest := c :: rest }
    else if c = reading.delimiter then { ended := true, rest }
    else if c = '\\' && !reading.raw then
      match rest with
      | '\n' :: rest => takeLine reading fuel taken rest
      | d :: rest => push (d, true) rest
      | [] => {}
    else push (c, false) rest

/-- Whether a character is an unescaped separator. -/
def isSeparator (separators : List Char) (mark : Char × Bool) : Bool :=
  !mark.2 && separators.contains mark.1

/-- Whether a character is an unescaped separator and blank. -/
def isBlankSeparator (separators : List Char) (mark : Char × Bool) : Bool :=
  isSeparator separators mark && isSpace mark.1

/-- Take the separators behind a word away: blanks, and one that is none. -/
def dropSeparators (separators : List Char) (text : List (Char × Bool)) : List (Char × Bool) :=
  match text.dropWhile (isBlankSeparator separators) with
  | mark :: rest =>
    if isSeparator separators mark then rest.dropWhile (isBlankSeparator separators)
    else mark :: rest
  | [] => []

/-- What is left for the last variable: without the blanks at its end, and without its
separator if it is a single word. -/
def lastPart (separators : List Char) (text : List (Char × Bool)) : List (Char × Bool) :=
  let word := text.takeWhile (!isSeparator separators ·)
  if (dropSeparators separators (text.drop word.length)).isEmpty then word
  else (text.reverse.dropWhile (isBlankSeparator separators)).reverse

/-- Take a line apart for so many variables. -/
def partLine (separators : List Char) : Nat → List (Char × Bool) → List (List (Char × Bool))
  | 0, _ => []
  | 1, text => [lastPart separators text]
  | count + 1, text =>
    let word := text.takeWhile (!isSeparator separators ·)
    word :: partLine separators count (dropSeparators separators (text.drop word.length))

/-- All words of a line. -/
def wordsOfLine (separators : List Char) : Nat → List (Char × Bool) → List (List (Char × Bool))
  | 0, _ => []
  | _ + 1, [] => []
  | fuel + 1, text =>
    let word := text.takeWhile (!isSeparator separators ·)
    word :: wordsOfLine separators fuel (dropSeparators separators (text.drop word.length))

/-- Take a line off the input, of which some characters were taken before. No more is taken than
the line. The fuel bounds the portions. -/
def takeLineOff (reading : LineReading) : Nat → List Char → Step TakenLine
  | 0, before => return takeLine reading (before.length + 1) 0 before
  | fuel + 1, before => do
    match ← Step.peek reading.stream (if before.isEmpty then 128 else 4096) with
    | .ok (c :: more) => do
      let whole := before ++ c :: more
      let line := takeLine reading (whole.length + 1) 0 whole
      if line.ended then
        Step.skip reading.stream (whole.length - line.rest.length - before.length)
        return line
      else
        Step.skip reading.stream (more.length + 1)
        takeLineOff reading fuel whole
    | _ => return takeLine reading (before.length + 1) 0 before

/-- Read a line of the input into variables, and say whether it had an end. -/
def readLineInto (reading : LineReading) : Step Unit := do
  Step.work 5
  let line ← takeLineOff reading Step.plenty []
  let separators := separators (← Step.process)
  let plain (part : List (Char × Bool)) : String :=
    String.ofList ((part.map (·.1)).filter (·.toNat ≠ 0))
  let text := line.text.dropWhile (isBlankSeparator separators)
  Step.setStatus (if line.ended then 0 else 1)
  match reading.array with
  | some name =>
    let words := (wordsOfLine separators (text.length + 1) text).map plain
    setItems name (words.zipIdx.map fun (word, i) => (toString i, word))
  | none =>
    if reading.names = ["REPLY"] && (← isRich) then
      let _ ← setVariable "REPLY" (plain line.text)
    else
      let parts := partLine separators reading.names.length text
      (reading.names.zip (parts ++ List.replicate reading.names.length [])).forM fun (name, part) => do
        if ← Step.isGoing then
          let _ ← setVariable name (plain part)

/-- Read the options of the reading of lines. -/
def readOptions : Nat → LineReading → List String → Except String LineReading
  | 0, reading, _ => .ok reading
  | fuel + 1, reading, arguments =>
    match arguments with
    | [] => .ok reading
    | "--" :: rest => .ok { reading with names := rest }
    | word :: rest =>
      match word.toList with
      | '-' :: letter :: more =>
        let valued := ['p', 'd', 'n', 'N', 'a', 't', 'u', 'i'].contains letter
        if valued then
          let (value, rest) :=
            if more.isEmpty then (rest.headD "", rest.drop 1) else (String.ofList more, rest)
          let reading :=
            match letter with
            | 'd' => { reading with delimiter := value.toList.headD (Char.ofNat 0) }
            | 'n' => { reading with most := value.toNat? }
            | 'N' => { reading with most := value.toNat? }
            | 'a' => { reading with array := some value }
            | 'u' => { reading with stream := value.toNat?.getD 0 }
            | _ => reading
          readOptions fuel reading rest
        else
          let reading := if letter = 'r' then { reading with raw := true } else reading
          if ['r', 's', 'e'].contains letter then
            if more.isEmpty then readOptions fuel reading rest
            else readOptions fuel reading (String.ofList ('-' :: more) :: rest)
          else .error (String.ofList [letter])
      | _ => .ok { reading with names := arguments }

end Metamorph.Sandbox.Shell
