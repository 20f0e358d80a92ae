import Metamorph.Text.Basic

/-! # Headers of panic reports

A panic report starts with a header line in one of three layouts, which may stand anywhere in
the line:

* `thread 'NAME' panicked at FILE:LINE:COLUMN:`, where the part about the thread may be
  missing and the message is on the next line;
* `thread 'NAME' panicked at 'MESSAGE', FILE:LINE:COLUMN`;
* `Guest panicked: MESSAGE`, where the message may be a header of the first layout.

The name of a thread has no apostrophe. A file is as short as the rest of the line allows,
but not empty, and a message in apostrophes is as long as the rest of the line allows. -/

namespace Metamorph.Report

/-- A place in a source file, with line and column as they are written. -/
structure Place where
  file : List Char
  line : List Char
  column : List Char
  deriving DecidableEq, Repr

/-- What a header line says. -/
inductive Header where
  /-- The message is on the next line. -/
  | ahead (thread : Option (List Char)) (place : Place)
  /-- The message is in the line, in front of the place. -/
  | inline (thread : List Char) (message : List Char) (place : Place)
  /-- The message is in the line, and there is no place. -/
  | bare (message : List Char)
  deriving DecidableEq, Repr

/-- Read a colon and the decimal digits behind it, of which there is at least one. -/
def readNumber? : List Char → Option (List Char × List Char)
  | ':' :: rest =>
    let digits := rest.takeWhile Text.isDecimalDigit
    if digits.isEmpty then none else some (digits, rest.dropWhile Text.isDecimalDigit)
  | _ => none

/-- Read line and column, behind which the line must end in the given way. -/
def readCoordinates? (ends : List Char → Bool) (input : List Char) :
    Option (List Char × List Char) := do
  let (line, rest) ← readNumber? input
  let (column, rest) ← readNumber? rest
  if ends rest then some (line, column) else none

/-- Read a place that fills the rest of a line up to its end: the file is the shortest text
behind which line and column can be read. -/
def readPlace? (ends : List Char → Bool) : List Char → Option Place
  | [] => none
  | c :: rest =>
    match readCoordinates? ends rest with
    | some (line, column) => some ⟨[c], line, column⟩
    | none => (readPlace? ends rest).map fun place => { place with file := c :: place.file }

/-- The end of a header whose message is on the next line. -/
def endsInColon : List Char → Bool
  | ':' :: rest => Text.isBlankText rest
  | _ => false

/-- Read the name of a thread up to its apostrophe, and the words behind it. -/
def readThread? (words : List Char) (input : List Char) : Option (List Char × List Char) := do
  let rest ← Text.after? "thread '".toList input
  let rest' ← Text.after? words (rest.dropWhile (· ≠ '\''))
  return (rest.takeWhile (· ≠ '\''), rest')

/-- Read a header whose message is on the next line. -/
def readAhead? (input : List Char) : Option (Option (List Char) × Place) :=
  match readThread? "' panicked at ".toList input with
  | some (thread, rest) => (readPlace? endsInColon rest).map fun place => (some thread, place)
  | none => do
    let rest ← Text.after? "panicked at ".toList input
    let place ← readPlace? endsInColon rest
    return (none, place)

/-- Read a message, the apostrophe that ends it, and the place behind it. -/
def readMessage? : List Char → Option (List Char × Place)
  | [] => none
  | c :: rest =>
    match readMessage? rest with
    | some (message, place) => some (c :: message, place)
    | none => do
      let rest ← Text.after? "', ".toList (c :: rest)
      let place ← readPlace? Text.isBlankText rest
      return ([], place)

/-- Read a header with its message in apostrophes. -/
def readInline? (input : List Char) : Option (List Char × List Char × Place) := do
  let (thread, rest) ← readThread? "' panicked at '".toList input
  let (message, place) ← readMessage? rest
  return (thread, message, place)

/-- Read the message of a guest, without the blanks at its end. -/
def readGuest? (input : List Char) : Option (List Char) :=
  (Text.after? "Guest panicked: ".toList input).map Text.trimEnd

/-- What a line says if it is a header. The layout of a guest is tried first and the one with
the message on the next line last. -/
def Header.ofLine? (line : List Char) : Option Header :=
  match Text.leftmost? readGuest? line with
  | some message =>
    match Text.leftmost? readAhead? message with
    | some (_, place) => some (.ahead none place)
    | none => some (.bare message)
  | none =>
    match Text.leftmost? readInline? line with
    | some (thread, message, place) => some (.inline thread message place)
    | none => (Text.leftmost? readAhead? line).map fun (thread, place) => .ahead thread place

end Metamorph.Report
