/-! # Texts as lists of characters

Blanks, digits, lines, and places in a text. -/

namespace Metamorph.Text

/-! ## Blank characters

White space in the sense of the Unicode property White_Space, and trimming. -/

/-- Whether a character has the Unicode property White_Space. -/
def isBlank (c : Char) : Bool :=
  let code := c.toNat
  (9 ≤ code && code ≤ 13) || code == 0x20 || code == 0x85 || code == 0xA0 || code == 0x1680
    || (0x2000 ≤ code && code ≤ 0x200A) || code == 0x2028 || code == 0x2029 || code == 0x202F
    || code == 0x205F || code == 0x3000

/-- A text without the blanks at its end. -/
def trimEnd (text : List Char) : List Char :=
  (text.reverse.dropWhile isBlank).reverse

/-- A text without the blanks at either end. -/
def trim (text : List Char) : List Char :=
  trimEnd (text.dropWhile isBlank)

/-- Whether a text has no character but blanks. -/
def isBlankText (text : List Char) : Bool :=
  text.all isBlank

/-! ## Decimal digits

The characters of the Unicode category Nd. They come in runs of ten, so a table of the
zeros describes all of them. -/

/-- The zero of every run of ten decimal digits, in increasing order. -/
def digitZeros : List Nat :=
  [0x30, 0x660, 0x6F0, 0x7C0, 0x966, 0x9E6, 0xA66, 0xAE6, 0xB66, 0xBE6, 0xC66, 0xCE6, 0xD66,
    0xDE6, 0xE50, 0xED0, 0xF20, 0x1040, 0x1090, 0x17E0, 0x1810, 0x1946, 0x19D0, 0x1A80, 0x1A90,
    0x1B50, 0x1BB0, 0x1C40, 0x1C50, 0xA620, 0xA8D0, 0xA900, 0xA9D0, 0xA9F0, 0xAA50, 0xABF0,
    0xFF10, 0x104A0, 0x10D30, 0x10D40, 0x11066, 0x110F0, 0x11136, 0x111D0, 0x112F0, 0x11450,
    0x114D0, 0x11650, 0x116C0, 0x116D0, 0x116DA, 0x11730, 0x118E0, 0x11950, 0x11BF0, 0x11C50,
    0x11D50, 0x11DA0, 0x11F50, 0x16130, 0x16A60, 0x16AC0, 0x16B50, 0x16D70, 0x1CCF0, 0x1D7CE,
    0x1D7D8, 0x1D7E2, 0x1D7EC, 0x1D7F6, 0x1E140, 0x1E2F0, 0x1E4F0, 0x1E5F1, 0x1E950, 0x1FBF0]

/-- Whether a character is a decimal digit of any script. -/
def isDecimalDigit (c : Char) : Bool :=
  c.isDigit || digitZeros.any fun first => first ≤ c.toNat && c.toNat < first + 10

/-- The value of a digit from 0 to 9. -/
def digitValue (c : Char) : Nat :=
  c.toNat - '0'.toNat

/-- The number that digits from 0 to 9 denote. -/
def digitsValue (digits : List Char) : Nat :=
  digits.foldl (fun n c => n * 10 + digitValue c) 0

/-- The 32 bit word that digits denote, if all of them are from 0 to 9 and it fits. -/
def word32OfDigits? (digits : List Char) : Option UInt32 :=
  if digits.all Char.isDigit && digitsValue digits < UInt32.size then
    some (digitsValue digits).toUInt32
  else none

/-- Whether a text starts with a decimal digit. -/
def startsWithDigit : List Char → Bool
  | [] => false
  | c :: _ => isDecimalDigit c

/-- Replace every longest run of decimal digits by one number sign, which stands for the
last digit of its run. -/
def maskDigits : List Char → List Char
  | [] => []
  | c :: rest =>
    if isDecimalDigit c then
      if startsWithDigit rest then maskDigits rest else '#' :: maskDigits rest
    else c :: maskDigits rest

/-! ## Searching texts

Where a marker stands in a text, and the leftmost place from which a reader succeeds. -/

/-- What follows a marker that a text starts with. -/
def after? : List Char → List Char → Option (List Char)
  | [], rest => some rest
  | _ :: _, [] => none
  | m :: marker, c :: rest => if m = c then after? marker rest else none

/-- What a reader gives at the leftmost place where it succeeds; the end of the text is the
last place. -/
def leftmost? {α : Type} (read : List Char → Option α) : List Char → Option α
  | [] => read []
  | c :: rest =>
    match read (c :: rest) with
    | some a => some a
    | none => leftmost? read rest

/-! ## Lines

The lines of a text, and texts made of lines. -/

/-- Put a character before the first line. -/
def consToFirst (c : Char) : List (List Char) → List (List Char)
  | [] => [[c]]
  | line :: rest => (c :: line) :: rest

/-- The lines of a text. A line feed ends a line and takes one carriage return before it
along; what follows the last line feed is a line of its own unless it is empty. -/
def lines : List Char → List (List Char)
  | [] => []
  | '\n' :: rest => [] :: lines rest
  | '\r' :: '\n' :: rest => [] :: lines rest
  | c :: rest => consToFirst c (lines rest)

/-- The text made of lines, each with its line feed. -/
def ofLines (lines : List String) : String :=
  String.join (lines.map (· ++ "\n"))

end Metamorph.Text
