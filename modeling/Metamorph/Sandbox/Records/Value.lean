import Metamorph.Decimal.Ratio
import Metamorph.Sandbox.Records.Lexing
import Metamorph.Sandbox.Regex.Basic
import Metamorph.Sandbox.Tool.Numeral

/-! # Values and tables

The values of a program over records, and the tables that they are kept in. -/

namespace Metamorph.Sandbox.Records

/-! ## Values

Values are numbers and texts. Every text can be taken for a number, namely the one that it begins
with, and every number for a text. A text that was read is compared as a number if it looks like
one. -/

/-- A value. -/
inductive Value where
  | unset
  | number (value : Float)
  | text (characters : List Char)
  /-- A text that was read. -/
  | input (characters : List Char)

namespace Value

/-- The quotient of hexadecimal digits behind a zero and an `x`, and what follows it. -/
def readHexadecimal? : List Char → Option (Decimal.Ratio × List Char)
  | '0' :: x :: rest =>
    let digits := rest.takeWhile isHexDigit
    if (x = 'x' || x = 'X') && !digits.isEmpty then
      let value (c : Char) : Nat :=
        if c.isDigit then c.toNat - '0'.toNat else c.toLower.toNat - 'a'.toNat + 10
      some ({ num := digits.foldl (fun n c => n * 16 + value c) 0 }, rest.drop digits.length)
    else none
  | _ => none

/-- The number that a text begins with, and what follows it. -/
def readNumber? (text : List Char) : Option (Float × List Char) :=
  let body := text.dropWhile isSpace
  let (negative, unsigned) :=
    match body with
    | '-' :: rest => (true, rest)
    | '+' :: rest => (false, rest)
    | _ => (false, body)
  let word := (unsigned.takeWhile Char.isAlpha).map Char.toLower
  let sign (x : Float) : Float := if negative then -x else x
  if word = "inf".toList || word = "infinity".toList then
    some (sign (1.0 / 0.0), unsigned.drop word.length)
  else if word = "nan".toList then some (0.0 / 0.0, unsigned.drop word.length)
  else
    match readHexadecimal? unsigned with
    | some (ratio, rest) => some (sign ratio.toFloat, rest)
    | none => (Decimal.Ratio.read? body).map fun (ratio, rest) => (ratio.toFloat, rest)

/-- The number of a text. -/
def numberOf (text : List Char) : Float :=
  match readNumber? text with
  | some (value, _) => value
  | none => 0

/-- The number that a text looks like as a whole. -/
def wholeNumber? (text : List Char) : Option Float :=
  match readNumber? text with
  | some (value, rest) => if rest.all isSpace then some value else none
  | none => none

/-- The value as a number. -/
def toNumber : Value → Float
  | .unset => 0
  | .number value => value
  | .text characters => numberOf characters
  | .input characters => numberOf characters

/-- The value as a number, if that is how it is compared. -/
def asNumber? : Value → Option Float
  | .unset => some 0
  | .number value => some value
  | .text _ => none
  | .input characters => wholeNumber? characters

/-- A value without a sign of the zero and without places, if that is what a number is. -/
def wholeValue? (x : Float) : Option Int :=
  if x.isNaN || x.isInf then none
  else
    let ratio := Decimal.Ratio.ofFloat x
    if ratio.num % ratio.den = 0 then
      let size : Int := ratio.num / ratio.den
      some (if ratio.negative then -size else size)
    else none

/-- A number by a directive. -/
def writeNumber (directive : Directive) (x : Float) : List Char :=
  if x.isNaN then directive.ofWord true "nan"
  else if x.isInf then directive.ofWord (x < 0) "inf"
  else directive.ofRatio (Decimal.Ratio.ofFloat x)

/-- A number by a format that has one directive. -/
def writeBy (format : List Char) (x : Float) : List Char :=
  let front := format.takeWhile (· ≠ '%')
  match OpenDirective.read? (format.drop (front.length + 1)) with
  | some (directive, rest) => front ++ writeNumber (directive.close []) x ++ rest
  | none => front

/-- The text of a number. Whole numbers of a usual size have all their digits. -/
def numberText (format : List Char) (x : Float) : List Char :=
  match wholeValue? x with
  | some n =>
    if n < Int64.minValue.toInt || UInt64.size < n then writeBy format x
    else if n = UInt64.size then Nat.toDigits 10 (UInt64.size - 1)
    else (toString n).toList
  | none => if x.isNaN || x.isInf then writeNumber {} x else writeBy format x

/-- The value as a text. -/
def toText (format : List Char) : Value → List Char
  | .unset => []
  | .number value => numberText format value
  | .text characters => characters
  | .input characters => characters

/-- Whether the value counts as true. -/
def isTrue : Value → Bool
  | .unset => false
  | .number value => value != 0
  | .text characters => !characters.isEmpty
  | .input characters =>
    match wholeNumber? characters with
    | some value => value != 0
    | none => !characters.isEmpty

/-- The value of a condition. -/
def ofBool (holds : Bool) : Value :=
  .number (if holds then 1 else 0)

/-- Compare two values: as numbers if both of them are, and else as texts. -/
def compare (format : List Char) (how : Comparison) (left right : Value) : Bool :=
  match left.asNumber?, right.asNumber? with
  | some x, some y =>
    match how with
    | .less => x < y
    | .atMost => x ≤ y
    | .equal => x == y
    | .unequal => x != y
    | .greater => y < x
    | .atLeast => y ≤ x
  | _, _ =>
    let x := left.toText format
    let y := right.toText format
    match how with
    | .less => x < y
    | .atMost => !(y < x)
    | .equal => x = y
    | .unequal => x ≠ y
    | .greater => y < x
    | .atLeast => !(x < y)

/-- The remainder of a division, with the sign of the dividend. -/
def remainder (x y : Float) : Float :=
  if x.isNaN || x.isInf || y.isNaN || y == 0 then 0.0 / 0.0
  else if y.isInf then x
  else
    let one := Decimal.Ratio.ofFloat x
    let two := Decimal.Ratio.ofFloat y
    let left := one.num * two.den % (two.num * one.den)
    ({ negative := one.negative, num := left, den := one.den * two.den } : Decimal.Ratio).toFloat

/-- Calculate with two numbers. -/
def calculate (how : Arithmetic) (x y : Float) : Float :=
  match how with
  | .add => x + y
  | .subtract => x - y
  | .multiply => x * y
  | .divide => x / y
  | .remainder => remainder x y
  | .power => x.pow y

/-- The number without its places. -/
def truncate (x : Float) : Float :=
  if x < 0 then x.ceil else x.floor

/-- The integer that a number is cut to, within the limits of integers. -/
def toInteger (x : Float) : Int :=
  if x.isNaN then 0
  else
    let most : Int := UInt64.size - 1
    let least : Int := -Int64.maxValue.toInt
    if x.isInf then if x < 0 then least else most
    else
      match wholeValue? (truncate x) with
      | some n => max least (min most n)
      | none => 0

end Value

/-- A part of a text, from a place and with a length, as far as the text goes. -/
def partOf (text : List Char) (start : Int) (length : Option Int) : List Char :=
  let first := max start 1
  match length with
  | none => text.drop (first - 1).toNat
  | some length => (text.drop (first - 1).toNat).take (start + length - first).toNat

/-- The parts of a text between the matches of an expression that are not empty. -/
def splitBy (regex : Regex) (text : List Char) : List (List Char) :=
  let found := (regex.searchAll {} text).filter fun found => found.first < found.last
  let (parts, place) := found.foldl (fun (parts, place) found =>
    (((text.drop place).take (found.first - place)) :: parts, found.last))
    (([], 0) : List (List Char) × Nat)
  (text.drop place :: parts).reverse

/-- Where the first part of a text is that is equal to another text, counted from one; zero if
there is none. -/
def indexOf (part : List Char) : Nat → List Char → Nat
  | place, text =>
    if part.isPrefixOf text then place
    else
      match text with
      | [] => 0
      | _ :: rest => indexOf part (place + 1) rest

/-- A replacement of a match: an ampersand stands for the match, unless a backslash stands in
front of it. -/
def replacementOf (found : List Char) : List Char → List Char
  | '\\' :: '\\' :: '&' :: rest => '\\' :: found ++ replacementOf found rest
  | '\\' :: '&' :: rest => '&' :: replacementOf found rest
  | '&' :: rest => found ++ replacementOf found rest
  | c :: rest => c :: replacementOf found rest
  | [] => []

/-- Replace matches in a text: how many there were, and what comes of it. -/
def replaceIn (regex : Regex) (every : Bool) (replacement text : List Char) : Nat × List Char :=
  let all := regex.searchAll {} text
  let found := if every then all else all.take 1
  let (parts, place) := found.foldl (fun (parts, place) found =>
    let between := (text.drop place).take (found.first - place)
    (replacementOf (found.textIn text) replacement :: between :: parts, found.last))
    (([], 0) : List (List Char) × Nat)
  (found.length, parts.reverse.flatten ++ text.drop place)

/-! ## Arrays

An array has values at indices, which are texts. Whoever goes through all indices meets them in an
order that their texts determine, and for some texts also the order in which they were put in. -/

/-- An array. -/
structure Table where
  /-- The values at their indices; the index that was put in last stands in front. -/
  entries : List (String × Value) := []
  /-- Whether all indices were put in as numbers. -/
  numbered : Bool := true

namespace Table

/-- The value at an index. -/
def find? (table : Table) (index : String) : Option Value :=
  table.entries.lookup index

/-- Put a value at an index, which may be a number. -/
def insert (table : Table) (isNumber : Bool) (index : String) (value : Value) : Table :=
  if (table.find? index).isSome then
    { table with
      entries := table.entries.map fun entry =>
        if entry.1 = index then (index, value) else entry }
  else
    { entries := (index, value) :: table.entries, numbered := table.numbered && isNumber }

/-- Take an index away. -/
def erase (table : Table) (index : String) : Table :=
  { table with entries := table.entries.filter fun entry => entry.1 ≠ index }

/-- How many indices there are. -/
def size (table : Table) : Nat :=
  table.entries.length

/-- The table of the values of a list, counted from one. -/
def ofList (values : List Value) : Table :=
  { entries := (values.zipIdx.map fun (value, place) => (toString (place + 1), value)).reverse }

/-- A number of 32 bits that a text is spread by. -/
def spread (text : String) : Nat :=
  text.toList.foldl (fun n c => (n ^^^ c.toNat) * 16777619 % 0x100000000) 2166136261

/-- How many classes the indices of a table of some size are spread over. -/
def classes (size : Nat) : Nat :=
  if size ≤ 768 then 64
  else Nat.pow 2 ((size - 1) / 12).log2 * 2

/-- The number that an index is, if it is one and written as such. -/
def number? (index : String) : Option Nat :=
  match index.toNat? with
  | some n => if toString n = index then some n else none
  | none => none

/-- The indices in the order in which they are met. -/
def indices (table : Table) : List String :=
  let names := table.entries.map (·.1)
  let classes := classes table.size
  let numbers := names.filterMap fun name => (number? name).map fun n => (n, name)
  let names :=
    if table.numbered && numbers.length = names.length then
      (numbers.mergeSort fun a b => a.1 % classes ≤ b.1 % classes).reverse.map (·.2)
    else names
  names.mergeSort fun a b => spread a % classes ≤ spread b % classes

end Table

end Metamorph.Sandbox.Records
