import Metamorph.Json.Basic
import Metamorph.Decimal.Shortest

/-! # Writing JSON

Two forms: a compact one without any space, and a pretty one with an indent of two spaces,
one item a line. Characters outside ASCII stand for themselves. -/

namespace Metamorph.Json

/-- How a character is written inside a string. -/
def escapedChar (c : Char) : List Char :=
  if c = '"' then ['\\', '"']
  else if c = '\\' then ['\\', '\\']
  else if c = '\n' then ['\\', 'n']
  else if c = '\r' then ['\\', 'r']
  else if c = '\t' then ['\\', 't']
  else if c.toNat = 8 then ['\\', 'b']
  else if c.toNat = 12 then ['\\', 'f']
  else if c.toNat < 0x20 then
    ['\\', 'u', '0', '0', Nat.digitChar (c.toNat / 16), Nat.digitChar (c.toNat % 16)]
  else [c]

/-- A string with its quotes. -/
def writeText (s : String) : List Char :=
  '"' :: s.toList.flatMap escapedChar ++ ['"']

/-- A number; a float that is no number has no JSON form and becomes null. -/
def writeNumber : Number → List Char
  | .whole (.ofNat n) => Nat.toDigits 10 n
  | .whole (.negSucc n) => '-' :: Nat.toDigits 10 (n + 1)
  | .real x => if x.isFinite then (Decimal.precise x).toList else "null".toList

/-- A value that is neither array nor object. -/
def writeScalar : Json → List Char
  | .bool true => "true".toList
  | .bool false => "false".toList
  | .number n => writeNumber n
  | .text s => writeText s
  | _ => "null".toList

mutual
/-- The compact form of a value. -/
def writeCompact : Json → List Char
  | .array [] => ['[', ']']
  | .array (item :: rest) => '[' :: (writeCompact item ++ compactItems rest)
  | .object [] => ['\x7b', '\x7d']
  | .object ((key, value) :: rest) =>
    '\x7b' :: (writeText key ++ ':' :: (writeCompact value ++ compactFields rest))
  | scalar => writeScalar scalar

/-- The items after the first, and the closing bracket. -/
def compactItems : List Json → List Char
  | [] => [']']
  | item :: rest => ',' :: (writeCompact item ++ compactItems rest)

/-- The fields after the first, and the closing brace. -/
def compactFields : List (String × Json) → List Char
  | [] => ['\x7d']
  | (key, value) :: rest =>
    ',' :: (writeText key ++ ':' :: (writeCompact value ++ compactFields rest))
end

/-- A new line at a level of indentation. -/
def newLine (level : Nat) : List Char :=
  '\n' :: List.replicate (2 * level) ' '

mutual
/-- The pretty form of a value that starts at a level of indentation. -/
def writePretty (level : Nat) : Json → List Char
  | .array [] => ['[', ']']
  | .array (item :: rest) =>
    '[' :: (newLine (level + 1) ++ (writePretty (level + 1) item ++ prettyItems level rest))
  | .object [] => ['\x7b', '\x7d']
  | .object ((key, value) :: rest) =>
    '\x7b' :: (newLine (level + 1) ++ (writeText key ++ ':' :: ' ' ::
      (writePretty (level + 1) value ++ prettyFields level rest)))
  | scalar => writeScalar scalar

/-- The items after the first, and the closing bracket on its own line. -/
def prettyItems (level : Nat) : List Json → List Char
  | [] => newLine level ++ [']']
  | item :: rest =>
    ',' :: (newLine (level + 1) ++ (writePretty (level + 1) item ++ prettyItems level rest))

/-- The fields after the first, and the closing brace on its own line. -/
def prettyFields (level : Nat) : List (String × Json) → List Char
  | [] => newLine level ++ ['\x7d']
  | (key, value) :: rest =>
    ',' :: (newLine (level + 1) ++ (writeText key ++ ':' :: ' ' ::
      (writePretty (level + 1) value ++ prettyFields level rest)))
end

/-- The compact text of a value. -/
def compact (value : Json) : String :=
  String.ofList (writeCompact value)

/-- The pretty text of a value. -/
def pretty (value : Json) : String :=
  String.ofList (writePretty 0 value)

end Metamorph.Json
