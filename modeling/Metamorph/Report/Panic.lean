import Metamorph.Json.Record
import Metamorph.Report.Header
import Metamorph.Text.Basic

/-! # Panics

The panics that a text reports, in order of appearance. Anything else in the text is left
aside. -/

namespace Metamorph

/-- A place in a source file. -/
structure Location where
  file : String
  line : UInt32
  column : UInt32
  deriving DecidableEq, Repr

/-- One reported panic. -/
structure Panic where
  message : String
  location : Option Location
  thread : Option String
  deriving DecidableEq, Repr

namespace Location

/-- The location of a place. There is none if a number of it is not written in the digits
from 0 to 9 or does not fit in 32 bits. -/
def ofPlace? (place : Report.Place) : Option Location := do
  let line ← Text.word32OfDigits? place.line
  let column ← Text.word32OfDigits? place.column
  return ⟨String.ofList place.file, line, column⟩

/-- The text of a location. -/
def display (location : Location) : String :=
  location.file ++ ":" ++ toString location.line ++ ":" ++ toString location.column

/-- The JSON form of a location. -/
def toJson (location : Location) : Json :=
  .object [("file", .text location.file), ("line", .nat location.line.toNat),
    ("column", .nat location.column.toNat)]

/-- Read a location. -/
def ofJson? (value : Json) : Option Location := do
  match ← value.record? ["file", "line", "column"] with
  | [file, line, column] =>
    return ⟨← Json.required? Json.string? file, ← Json.required? Json.word32? line,
      ← Json.required? Json.word32? column⟩
  | _ => none

end Location

namespace Panic

/-- The text that equivalent crashes share: the location, and the message with its numbers
masked. -/
def fingerprint (panic : Panic) : String :=
  let place :=
    match panic.location with
    | some location => location.display
    | none => "?"
  place ++ "|" ++ String.ofList (Text.maskDigits panic.message.toList)

/-- The JSON form of a panic. -/
def toJson (panic : Panic) : Json :=
  .object [("message", .text panic.message),
    ("location", .optional Location.toJson panic.location),
    ("thread", .optional .text panic.thread)]

/-- Read a panic. -/
def ofJson? (value : Json) : Option Panic := do
  match ← value.record? ["message", "location", "thread"] with
  | [message, location, thread] =>
    return ⟨← Json.required? Json.string? message,
      ← Json.defaulted? none (Json.optional? Location.ofJson?) location,
      ← Json.defaulted? none (Json.optional? Json.string?) thread⟩
  | _ => none

end Panic

namespace Report

/-- The message that a line holds for the header before it: the line without the blanks
around it, unless nothing is left, it is a note, or it is a header of its own. -/
def messageOf? (line : List Char) : Option (List Char) :=
  let message := Text.trim line
  if message.isEmpty || (Text.after? "note:".toList message).isSome
      || (Header.ofLine? message).isSome then none
  else some message

/-- The panic of a header whose message is known. -/
def panicOf (thread : Option (List Char)) (place : Place) (message : List Char) : Panic :=
  ⟨String.ofList message, Location.ofPlace? place, thread.map String.ofList⟩

/-- The panics that lines report. The line after a header belongs to it if it holds its
message. -/
def panicsOfLines : List (List Char) → List Panic
  | [] => []
  | line :: rest =>
    match Header.ofLine? line with
    | none => panicsOfLines rest
    | some (.bare message) => ⟨String.ofList message, none, none⟩ :: panicsOfLines rest
    | some (.inline thread message place) =>
      panicOf (some thread) place message :: panicsOfLines rest
    | some (.ahead thread place) =>
      match rest with
      | [] => [panicOf thread place []]
      | next :: rest =>
        match messageOf? next with
        | some message => panicOf thread place message :: panicsOfLines rest
        | none => panicOf thread place [] :: panicsOfLines (next :: rest)

/-- The panics that a text reports. -/
def panics (text : String) : List Panic :=
  panicsOfLines (Text.lines text.toList)

end Report

end Metamorph
