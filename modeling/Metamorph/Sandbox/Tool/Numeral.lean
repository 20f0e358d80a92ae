import Metamorph.Decimal.Ratio
import Metamorph.Sandbox.Tool.Quoting
import Metamorph.Text.Basic
import Metamorph.Sandbox.Text

/-! # Numbers in texts

How programs read the numbers in their arguments, and how they write numbers by a format. -/

namespace Metamorph.Sandbox

/-! ## Numerals

How the numbers in arguments are read: as far as a text can be read as a number, in base ten,
eight or sixteen, with places and a power, and within the range of the numbers that a program
counts with. -/

/-- A number as it was read: its value, whether it lies in the range, and what follows it. -/
structure Numeral (α : Type) where
  value : α
  inRange : Bool := true
  rest : List Char := []

/-- A sign, and what follows it. -/
def takeSign (text : List Char) : Bool × List Char :=
  match text with
  | '-' :: rest => (true, rest)
  | '+' :: rest => (false, rest)
  | _ => (false, text)

/-- Read an integer in base ten, eight or sixteen, as it begins. -/
def readInteger (text : List Char) : Option (Numeral Int) :=
  let (negative, digits) := takeSign (text.dropWhile isSpace)
  let read (base : Nat) (text : List Char) : Option (Numeral Int) :=
    let found := text.takeWhile (isDigitIn base)
    if found.isEmpty then none
    else
      let size : Int := valueIn base found
      some { value := if negative then -size else size, rest := text.drop found.length }
  match digits with
  | '0' :: x :: c :: more =>
    if (x = 'x' || x = 'X') && isHexDigit c then read 16 (c :: more) else read 8 digits
  | '0' :: _ => read 8 digits
  | _ => read 10 digits

namespace Numeral

/-- The number nearest to one in a range. -/
def within (low high : Int) (numeral : Numeral Int) : Numeral Int :=
  if numeral.value < low then { numeral with value := low, inRange := false }
  else if high < numeral.value then { numeral with value := high, inRange := false }
  else numeral

end Numeral

/-- The integers of 64 bits: with a sign, or by their size without one. -/
def readInteger64 (signed : Bool) (text : List Char) : Option (Numeral Int) :=
  (readInteger text).map fun numeral =>
    if signed then numeral.within (-0x8000000000000000) 0x7FFFFFFFFFFFFFFF
    else if numeral.value < -0xFFFFFFFFFFFFFFFF then
      { numeral with value := 0xFFFFFFFFFFFFFFFF, inRange := false }
    else numeral.within (-0xFFFFFFFFFFFFFFFF) 0xFFFFFFFFFFFFFFFF

/-- A number with places: a quotient, or a word that stands for none. -/
inductive Real where
  | ratio (value : Decimal.Ratio)
  | word (negative : Bool) (text : String)

/-- The numbers with places that a program counts with: the bits of their digits, and the
largest power of two. -/
structure RealRange where
  bits : Nat
  top : Int

namespace RealRange

/-- The usual numbers. -/
def double : RealRange := ⟨53, 1023⟩

/-- The wide numbers. -/
def wide : RealRange := ⟨64, 16383⟩

/-- The power of two of the leading bit. -/
def leadingPower (value : Decimal.Ratio) : Int :=
  let guess : Int := (value.num.log2 : Int) - value.den.log2
  let (num, den) := Decimal.Ratio.scaled 2 (-guess) value.num value.den
  if num < den then guess - 1 else guess

/-- The number nearest to a quotient, and whether it lies in the range. -/
def round (range : RealRange) (value : Decimal.Ratio) : Real × Bool :=
  if value.num = 0 then (.ratio value, true)
  else
    let rounded := value.round range.bits
    let power := leadingPower rounded
    if range.top < power then (.word value.negative "inf", false)
    else if power < 1 - range.top then
      -- Near to zero there is a smallest step.
      let steps := range.top - 1 + (range.bits - 1 : Nat)
      let (num, den) := Decimal.Ratio.scaled 2 steps value.num value.den
      let (num, den) := Decimal.Ratio.scaled 2 (-steps) (Decimal.Ratio.roundDiv num den) 1
      (.ratio { value with num := num, den := den }, false)
    else (.ratio rounded, true)

end RealRange

/-- Read a number in base sixteen behind its mark: digits, perhaps places, and perhaps a power of
two. -/
def readHexReal (negative : Bool) (text : List Char) : Option (Decimal.Ratio × List Char) :=
  let whole := text.takeWhile isHexDigit
  let rest := text.drop whole.length
  let (places, rest) :=
    match rest with
    | '.' :: rest => (rest.takeWhile isHexDigit, rest.dropWhile isHexDigit)
    | _ => ([], rest)
  if whole.isEmpty && places.isEmpty then none
  else
    let (power, rest) : Int × List Char :=
      match rest with
      | p :: more =>
        let (down, digits) := takeSign more
        let power := digits.takeWhile Char.isDigit
        if (p = 'p' || p = 'P') && !power.isEmpty then
          let size : Int := min 100000 (Text.digitsValue power)
          (if down then -size else size, digits.drop power.length)
        else (0, rest)
      | [] => (0, [])
    let (num, den) :=
      Decimal.Ratio.scaled 2 (power - 4 * places.length) (valueIn 16 (whole ++ places)) 1
    some ({ negative, num, den }, rest)

/-- The words that stand for no number, with how they are written, the longest one first. -/
def realWords : List (String × String) :=
  [("infinity", "inf"), ("inf", "inf"), ("nan", "nan")]

/-- Read a number with places as it begins. -/
def readReal (range : RealRange) (text : List Char) : Option (Numeral Real) :=
  let text := text.dropWhile isSpace
  let (negative, digits) := takeSign text
  let lower := digits.map Char.toLower
  match realWords.find? fun entry => entry.1.toList.isPrefixOf lower with
  | some (word, shown) =>
    some { value := .word negative shown, rest := digits.drop word.length }
  | none =>
    let hexadecimal? :=
      if lower.take 2 = ['0', 'x'] then readHexReal negative (digits.drop 2) else none
    (hexadecimal?.or (Decimal.Ratio.read? text)).map fun (ratio, rest) =>
      let (value, inRange) := range.round ratio
      { value, inRange, rest }

/-! ## Formats

How values are put into a text by directives such as `%5.2f`: a sign, the digits, and blanks or
zeros up to a width. -/

/-- How a value is put into a format. -/
structure Directive where
  /-- Fill up on the right. -/
  left : Bool := false
  zeros : Bool := false
  plus : Bool := false
  space : Bool := false
  /-- Show the base of a number, or a point. -/
  alternate : Bool := false
  width : Nat := 0
  precision : Option Nat := none
  conversion : Char := 's'

/-- A directive whose width or precision may be given by arguments. -/
structure OpenDirective where
  flags : List Char := []
  width : Option Nat := some 0
  precision : Option (Option Nat) := some none
  conversion : Char := 's'

namespace OpenDirective

/-- Read the flags of a directive, its width and its precision behind its percent sign. -/
def readShape (flags : List Char) (input : List Char) : OpenDirective × List Char :=
  let given := input.takeWhile (flags.contains ·)
  let number (input : List Char) : Option Nat × List Char :=
    match input with
    | '*' :: rest => (none, rest)
    | _ =>
      let digits := input.takeWhile Char.isDigit
      (some (Text.digitsValue digits), input.drop digits.length)
  let (width, rest) := number (input.drop given.length)
  let (precision, rest) :=
    match rest with
    | '.' :: rest =>
      let (precision, rest) := number rest
      (precision.map some, rest)
    | _ => (some none, rest)
  ({ flags := given, width, precision }, rest)

/-- Read a directive behind its percent sign, with marks of a size in front of its conversion. There
is none without a conversion. -/
def read? (input : List Char) : Option (OpenDirective × List Char) :=
  let (directive, rest) := readShape ['-', '+', ' ', '#', '0', '\''] input
  match rest.dropWhile (['l', 'h', 'j', 'z', 'L', 'q', 't'].contains ·) with
  | c :: rest => some ({ directive with conversion := c }, rest)
  | [] => none

/-- How many arguments a directive takes besides its value. -/
def extra (directive : OpenDirective) : Nat :=
  (if directive.width.isNone then 1 else 0) + (if directive.precision.isNone then 1 else 0)

/-- Close a directive with the width and the precision that arguments give. -/
def close (directive : OpenDirective) (numbers : List Int) : Directive :=
  let width := if directive.width.isNone then numbers.headD 0 else directive.width.getD 0
  let given := if directive.width.isNone then numbers.drop 1 else numbers
  let precision :=
    match directive.precision with
    | some precision => precision
    | none => if given.headD 0 < 0 then none else some (given.headD 0).toNat
  { left := directive.flags.contains '-' || width < 0
    zeros := directive.flags.contains '0'
    plus := directive.flags.contains '+'
    space := directive.flags.contains ' '
    alternate := directive.flags.contains '#'
    width := width.natAbs
    precision
    conversion := directive.conversion }

end OpenDirective

namespace Directive

/-- Fill up to the width. What stands in front of the digits stays in front of zeros. -/
def fill (directive : Directive) (zeros : Bool) (front text : List Char) : List Char :=
  let missing := directive.width - (front.length + text.length)
  if directive.left then front ++ text ++ List.replicate missing ' '
  else if zeros && directive.zeros then front ++ List.replicate missing '0' ++ text
  else List.replicate missing ' ' ++ front ++ text

/-- The sign in front of a number. -/
def sign (directive : Directive) (negative : Bool) : List Char :=
  if negative then ['-'] else if directive.plus then ['+'] else if directive.space then [' '] else []

/-- Write an integer. -/
def ofInt (directive : Directive) (value : Int) : List Char :=
  let bits := (value % UInt64.size).toNat
  let least (digits : List Char) : List Char :=
    let digits := if directive.precision = some 0 && value = 0 then [] else digits
    List.replicate (directive.precision.getD 0 - digits.length) '0' ++ digits
  let fill := directive.fill directive.precision.isNone
  match directive.conversion with
  | 'u' => fill [] (least (Nat.toDigits 10 bits))
  | 'o' =>
    let digits := least (Nat.toDigits 8 bits)
    fill [] (if directive.alternate && digits.head? ≠ some '0' then '0' :: digits else digits)
  | 'x' =>
    fill (if directive.alternate && bits ≠ 0 then ['0', 'x'] else []) (least (Nat.toDigits 16 bits))
  | 'X' =>
    fill (if directive.alternate && bits ≠ 0 then ['0', 'X'] else [])
      (least ((Nat.toDigits 16 bits).map Char.toUpper))
  | _ => fill (directive.sign (value < 0)) (least (Nat.toDigits 10 value.natAbs))

/-- Whether a conversion writes a number with places or an exponent. -/
def isReal (conversion : Char) : Bool :=
  ['f', 'F', 'e', 'E', 'g', 'G'].contains conversion

/-- Write a quotient in base sixteen. The bits of its digits are those of the first digit and the
places behind it, four for each. -/
def ofHexRatio (directive : Directive) (bits : Nat) (value : Decimal.Ratio) : List Char :=
  let places := (bits - 1) / 4
  let power : Int :=
    if value.num = 0 then 0 else (value.num.log2 : Int) - value.den.log2 - (bits - 1 - 4 * places)
  let (num, den) := Decimal.Ratio.scaled 2 (4 * places - power) value.num value.den
  let kept := min places (directive.precision.getD places)
  let digits := Decimal.Ratio.roundDiv num (den * Nat.pow 16 (places - kept))
  -- A first digit that has become too large goes on as one.
  let (digits, power) :=
    if digits < Nat.pow 16 (kept + 1) then (digits, power) else (digits / 16, power + 4)
  let hex := Nat.toDigits 16 digits
  let hex := List.replicate (kept + 1 - hex.length) '0' ++ hex
  let behind :=
    match directive.precision with
    | some wanted => hex.drop 1 ++ List.replicate (wanted - kept) '0'
    | none => ((hex.drop 1).reverse.dropWhile (· = '0')).reverse
  let point := if behind.isEmpty && !directive.alternate then [] else ['.']
  let sign := if power < 0 then '-' else '+'
  let text := hex.take 1 ++ point ++ behind ++ ['p', sign] ++ Nat.toDigits 10 power.natAbs
  let upper (text : List Char) := if directive.conversion.isUpper then text.map Char.toUpper else text
  directive.fill true (directive.sign value.negative ++ upper ['0', 'x']) (upper text)

/-- Write a quotient. -/
def ofRatio (directive : Directive) (value : Decimal.Ratio) : List Char :=
  let places := directive.precision.getD 6
  let letter := if directive.conversion.isUpper then 'E' else 'e'
  let text :=
    match directive.conversion.toLower with
    | 'e' => value.exponential letter places
    | 'g' => value.general letter places directive.alternate
    | _ => value.fixed places
  directive.fill true (directive.sign value.negative) text

/-- Write a word that stands for no number. -/
def ofWord (directive : Directive) (negative : Bool) (text : String) : List Char :=
  let text := if directive.conversion.isUpper then text.toUpper else text
  directive.fill false (directive.sign negative) text.toList

/-- Write a text. -/
def ofText (directive : Directive) (text : List Char) : List Char :=
  directive.fill false [] (match directive.precision with | some n => text.take n | none => text)

end Directive

end Metamorph.Sandbox
