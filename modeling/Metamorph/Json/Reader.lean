import Metamorph.Json.Numeral
import Metamorph.Text.Basic

/-! # Reading JSON text

A text is one value with nothing but blanks around it. What breaks the grammar makes the
whole text unreadable; what keeps it and has no value is unusable, and the rest is read on. -/

namespace Metamorph.Json

/-- Whether a character may stand between the parts of a value. -/
def isSpace (c : Char) : Bool :=
  c = ' ' || c = '\n' || c = '\t' || c = '\r'

/-- Drop blanks. -/
def skipSpace (input : List Char) : List Char :=
  input.dropWhile isSpace

/-- The value of a hexadecimal digit. -/
def hexValue (c : Char) : Option Nat :=
  if c.isDigit then some (c.toNat - '0'.toNat)
  else if 'a' ≤ c && c ≤ 'f' then some (c.toNat - 'a'.toNat + 10)
  else if 'A' ≤ c && c ≤ 'F' then some (c.toNat - 'A'.toNat + 10)
  else none

/-- Read four hexadecimal digits. -/
def readHex : List Char → Option (Nat × List Char)
  | a :: b :: c :: d :: rest => do
    let a ← hexValue a
    let b ← hexValue b
    let c ← hexValue c
    let d ← hexValue d
    return (((a * 16 + b) * 16 + c) * 16 + d, rest)
  | _ => none

/-- Whether a 16 bit unit is the first half of a surrogate pair. -/
def isHighHalf (code : Nat) : Bool :=
  0xD800 ≤ code && code < 0xDC00

/-- Whether a 16 bit unit is the second half of a surrogate pair. -/
def isLowHalf (code : Nat) : Bool :=
  0xDC00 ≤ code && code < 0xE000

/-- Read the escape of the second half of a surrogate pair, if one stands here. -/
def readLowHalf : List Char → Option (Nat × List Char)
  | '\\' :: 'u' :: rest => (readHex rest).filter fun (low, _) => isLowHalf low
  | _ => none

/-- Read the digits of a character escape. Half of a surrogate pair is no character. -/
def readUnicode (input : List Char) : Option (Option Char × List Char) := do
  let (code, rest) ← readHex input
  if isHighHalf code then
    match readLowHalf rest with
    | some (low, rest) =>
      return (some (Char.ofNat (0x10000 + (code - 0xD800) * 0x400 + (low - 0xDC00))), rest)
    | none => return (none, rest)
  else if isLowHalf code then return (none, rest)
  else return (some (Char.ofNat code), rest)

/-- Read what follows a backslash. -/
def readEscape : List Char → Option (Option Char × List Char)
  | '"' :: rest => some (some '"', rest)
  | '\\' :: rest => some (some '\\', rest)
  | '/' :: rest => some (some '/', rest)
  | 'b' :: rest => some (some (Char.ofNat 8), rest)
  | 'f' :: rest => some (some (Char.ofNat 12), rest)
  | 'n' :: rest => some (some '\n', rest)
  | 'r' :: rest => some (some '\r', rest)
  | 't' :: rest => some (some '\t', rest)
  | 'u' :: rest => readUnicode rest
  | _ => none

/-- Put a character in front of a text; both must be there. -/
def pushFront (c : Option Char) (text : Option (List Char)) : Option (List Char) := do
  return (← c) :: (← text)

/-- Read the rest of a string after its opening quote; every step takes a character. The
string may be well formed without being a text. -/
def readText : Nat → List Char → Option (Option (List Char) × List Char)
  | 0, _ => none
  | fuel + 1, input =>
    match input with
    | [] => none
    | '"' :: rest => some (some [], rest)
    | '\\' :: rest => do
      let (c, rest) ← readEscape rest
      let (cs, rest) ← readText fuel rest
      return (pushFront c cs, rest)
    | c :: rest =>
      if c.toNat < 0x20 then none
      else do
        let (cs, rest) ← readText fuel rest
        return (pushFront c cs, rest)

/-- A string with its text, if it has one. -/
def ofText : Option (List Char) → Json
  | some cs => .text (String.ofList cs)
  | none => .unusable

/-- A number with its value, if it has one. -/
def ofNumber : Option Number → Json
  | some n => .number n
  | none => .unusable

/-- An object with its fields, if all keys are texts. -/
def ofFields : Option (List (String × Json)) → Json
  | some fields => .object fields
  | none => .unusable

/-- An array or object that is nested in as many others as the limit allows, or too deep. -/
def nested (room : Nat) (value : Json) : Json :=
  if room = 0 then .unusable else value

mutual
/-- Read a value, with room for so many arrays and objects inside each other; blanks may come
first. Opening a bracket and reading the item behind it are two steps, so that twice the
length of the text is fuel enough. -/
def readValue : Nat → Nat → List Char → Option (Json × List Char)
  | 0, _, _ => none
  | fuel + 1, room, input =>
    match skipSpace input with
    | [] => none
    | 'n' :: rest => (Text.after? ['u', 'l', 'l'] rest).map fun rest => (.null, rest)
    | 't' :: rest => (Text.after? ['r', 'u', 'e'] rest).map fun rest => (.bool true, rest)
    | 'f' :: rest => (Text.after? ['a', 'l', 's', 'e'] rest).map fun rest => (.bool false, rest)
    | '"' :: rest => (readText fuel rest).map fun (cs, rest) => (ofText cs, rest)
    | '[' :: rest =>
      match skipSpace rest with
      | ']' :: rest => some (nested room (.array []), rest)
      | rest => (readItems fuel (room - 1) rest).map fun (items, rest) =>
        (nested room (.array items), rest)
    | '\x7b' :: rest =>
      match skipSpace rest with
      | '\x7d' :: rest => some (nested room (.object []), rest)
      | rest => (readFields fuel (room - 1) rest).map fun (fields, rest) =>
        (nested room (ofFields fields), rest)
    | input => (readNumber input).map fun (n, rest) => (ofNumber n, rest)

/-- Read the items of an array up to the closing bracket. -/
def readItems : Nat → Nat → List Char → Option (List Json × List Char)
  | 0, _, _ => none
  | fuel + 1, room, input => do
    let (item, rest) ← readValue fuel room input
    match skipSpace rest with
    | ']' :: rest => return ([item], rest)
    | ',' :: rest =>
      let (items, rest) ← readItems fuel room rest
      return (item :: items, rest)
    | _ => none

/-- Read the fields of an object up to the closing brace. -/
def readFields : Nat → Nat → List Char → Option (Option (List (String × Json)) × List Char)
  | 0, _, _ => none
  | fuel + 1, room, input =>
    match skipSpace input with
    | '"' :: rest => do
      let (key, rest) ← readText fuel rest
      match skipSpace rest with
      | ':' :: rest =>
        let (value, rest) ← readValue fuel room rest
        let field := key.map fun key => (String.ofList key, value)
        match skipSpace rest with
        | '\x7d' :: rest => return (field.map fun field => [field], rest)
        | ',' :: rest =>
          let (fields, rest) ← readFields fuel room rest
          return (do return (← field) :: (← fields), rest)
        | _ => none
      | _ => none
    | _ => none
end

/-- The value that a list of characters gives, if it is one whole value. -/
def ofChars? (room : Nat) (input : List Char) : Option Json :=
  match readValue (2 * input.length + 1) room input with
  | some (value, rest) => if (skipSpace rest).isEmpty then some value else none
  | none => none

/-- The value that a text gives, if it is one whole value. -/
def parse? (input : String) : Option Json :=
  let input := input.toList
  ofChars? input.length input

/-- How deep arrays and objects may be nested where a record is read. -/
def depthLimit : Nat := 127

/-- The value that a text gives, where what is nested too deep is unusable. -/
def parseShallow? (input : String) : Option Json :=
  ofChars? depthLimit input.toList

end Metamorph.Json
