/-! # Characters and lines of bytes

The classes of characters that programs go by, and the lines of a text whose characters stand
for bytes. No character beyond the first 128 is in a class. -/

namespace Metamorph.Sandbox

/-- Whether a character is white space. -/
def isSpace (c : Char) : Bool :=
  c = ' ' || (9 ≤ c.toNat && c.toNat ≤ 13)

/-- Whether a character is a blank inside of a line. -/
def isBlank (c : Char) : Bool :=
  c = ' ' || c = '\t'

/-- Whether a character is a control. -/
def isControl (c : Char) : Bool :=
  c.toNat < 32 || c.toNat = 127

/-- Whether a character can be seen. -/
def isGraphic (c : Char) : Bool :=
  33 ≤ c.toNat && c.toNat < 127

/-- Whether a character is a sign. -/
def isPunctuation (c : Char) : Bool :=
  isGraphic c && !c.isAlphanum

/-- Whether a character is a hexadecimal digit. -/
def isHexDigit (c : Char) : Bool :=
  c.isDigit || ('a' ≤ c && c ≤ 'f') || ('A' ≤ c && c ≤ 'F')

/-- The value of an octal or hexadecimal digit. -/
def digitOf (c : Char) : Nat :=
  if c.isDigit then c.toNat - '0'.toNat else c.toLower.toNat - 'a'.toNat + 10

/-- Whether a character is a digit in a base up to 16. -/
def isDigitIn (base : Nat) (c : Char) : Bool :=
  (c.isDigit || ('a' ≤ c.toLower && c.toLower ≤ 'f')) && digitOf c < base

/-- The number that digits denote in a base. -/
def valueIn (base : Nat) (digits : List Char) : Nat :=
  digits.foldl (fun n d => n * base + digitOf d) 0

/-- The classes of characters by their names. -/
def classOf? : String → Option (Char → Bool)
  | "alpha" => some Char.isAlpha
  | "digit" => some Char.isDigit
  | "alnum" => some Char.isAlphanum
  | "upper" => some Char.isUpper
  | "lower" => some Char.isLower
  | "space" => some isSpace
  | "blank" => some isBlank
  | "punct" => some isPunctuation
  | "print" => some fun c => isGraphic c || c = ' '
  | "graph" => some isGraphic
  | "cntrl" => some isControl
  | "xdigit" => some isHexDigit
  | _ => none

/-- The parts of a text between the occurrences of a character. -/
def splitAt (c : Char) : List Char → List (List Char)
  | [] => [[]]
  | d :: rest =>
    if d = c then [] :: splitAt c rest
    else
      match splitAt c rest with
      | [] => [[d]]
      | part :: more => (d :: part) :: more

/-- The lines of a text without their ends. The last one may lack its end. -/
def splitLines (text : List Char) : List (List Char) :=
  let parts := splitAt '\n' text
  if parts.getLast? = some [] then parts.dropLast else parts

/-- Whether the last line of a text lacks its end. -/
def lacksEnd (text : List Char) : Bool :=
  match text.getLast? with
  | some c => c ≠ '\n'
  | none => false

/-- The lines of a text with their ends. -/
def splitKeeping (text : List Char) : List (List Char) :=
  let lines := splitLines text
  if lacksEnd text then lines.dropLast.map (· ++ ['\n']) ++ lines.getLast?.toList
  else lines.map (· ++ ['\n'])

/-- The text of lines, each with its end. -/
def joinLines (lines : List (List Char)) : List Char :=
  lines.flatMap fun line => line ++ ['\n']

/-- The words of a text between white space. -/
def wordsOf (text : List Char) : List (List Char) :=
  go none text
where
  /-- The words, the first of which may have begun. -/
  go : Option (List Char) → List Char → List (List Char)
    | none, [] => []
    | some word, [] => [word.reverse]
    | none, c :: rest => if isSpace c then go none rest else go (some [c]) rest
    | some word, c :: rest =>
      if isSpace c then word.reverse :: go none rest else go (some (c :: word)) rest

/-- A text filled up with blanks in front. -/
def padStart (width : Nat) (text : List Char) : List Char :=
  List.replicate (width - text.length) ' ' ++ text

/-- A text filled up with blanks at its end. -/
def padEnd (width : Nat) (text : List Char) : List Char :=
  text ++ List.replicate (width - text.length) ' '

end Metamorph.Sandbox
