import Metamorph.Json.Basic
import Metamorph.Text.Basic

/-! # Reading JSON numbers

The digits of a number are gathered in a 64 bit word as long as they fit. A number without
point and exponent whose digits all fit is whole; any other is the word, made a float and
scaled by one power of ten. A number beyond the range of floats is well formed and has no
value. -/

namespace Metamorph.Json

open Text (digitValue digitsValue)

/-- A number as far as it has been read: the word, and the power of ten that scales it. -/
structure Scan where
  word : Nat
  taken : Nat
  skipped : Nat
  rest : List Char

/-- Append digits to a word as long as it fits in 64 bits, and skip the others. -/
def scanDigits (word : Nat) : List Char → Scan
  | [] => ⟨word, 0, 0, []⟩
  | c :: rest =>
    if c.isDigit then
      let next := word * 10 + digitValue c
      if next < UInt64.size then
        let scan := scanDigits next rest
        ⟨scan.word, scan.taken + 1, scan.skipped, scan.rest⟩
      else
        ⟨word, 0, ((c :: rest).takeWhile Char.isDigit).length, (c :: rest).dropWhile Char.isDigit⟩
    else ⟨word, 0, 0, c :: rest⟩

/-- The float nearest to a power of ten. -/
def powerOfTen (exponent : Nat) : Float :=
  Float.ofScientific 1 false exponent

/-- Scale a float by a power of ten. A power below `-308` is applied in steps; one above 308
fits nothing but zero. -/
def scale : Nat → Float → Int → Option Float
  | 0, _, _ => none
  | fuel + 1, x, exponent =>
    if exponent.natAbs ≤ 308 then
      if 0 ≤ exponent then
        let y := x * powerOfTen exponent.natAbs
        if y.isInf then none else some y
      else some (x / powerOfTen exponent.natAbs)
    else if x == 0 then some x
    else if 0 ≤ exponent then none
    else scale fuel (x / powerOfTen 308) (exponent + 308)

/-- The float given by a sign, a word and a power of ten. -/
def realNumber (negative : Bool) (word : Nat) (exponent : Int) : Option Number := do
  let x ← scale 4 word.toUInt64.toFloat exponent
  return .real (if negative then -x else x)

/-- Read the exponent that follows the letter, and finish the number. -/
def readExponent (negative : Bool) (word : Nat) (exponent : Int) (input : List Char) :
    Option (Option Number × List Char) :=
  let (down, input) :=
    match input with
    | '+' :: rest => (false, rest)
    | '-' :: rest => (true, rest)
    | _ => (false, input)
  let digits := input.takeWhile Char.isDigit
  let rest := input.dropWhile Char.isDigit
  if digits.isEmpty then none
  else
    let size := digitsValue digits
    if size < 0x80000000 then
      some (realNumber negative word (if down then exponent - size else exponent + size), rest)
    else if word ≠ 0 && !down then some (none, rest)
    else some (some (.real (if negative then -0.0 else 0.0)), rest)

/-- Finish a number after its digits: an exponent may follow. -/
def readScaled (negative : Bool) (word : Nat) (exponent : Int) :
    List Char → Option (Option Number × List Char)
  | 'e' :: rest => readExponent negative word exponent rest
  | 'E' :: rest => readExponent negative word exponent rest
  | rest => some (realNumber negative word exponent, rest)

/-- Finish a number after the digits in front of the point. -/
def readFraction (negative : Bool) (whole : Scan) : Option (Option Number × List Char) :=
  match whole.rest with
  | '.' :: rest =>
    let scan := scanDigits whole.word rest
    if scan.taken = 0 && scan.skipped = 0 then none
    else readScaled negative scan.word ((whole.skipped : Int) - scan.taken) scan.rest
  | 'e' :: rest => readExponent negative whole.word whole.skipped rest
  | 'E' :: rest => readExponent negative whole.word whole.skipped rest
  | rest =>
    if whole.skipped ≠ 0 then some (realNumber negative whole.word whole.skipped, rest)
    else if !negative then some (some (.whole whole.word), rest)
    else if whole.word ≠ 0 && whole.word ≤ 0x8000000000000000 then
      some (some (.whole (-whole.word)), rest)
    else some (some (.real (-whole.word.toUInt64.toFloat)), rest)

/-- Read a number after its sign. A zero in front stands alone. -/
def readUnsigned (negative : Bool) : List Char → Option (Option Number × List Char)
  | '0' :: c :: rest =>
    if c.isDigit then none else readFraction negative ⟨0, 1, 0, c :: rest⟩
  | c :: rest => if c.isDigit then readFraction negative (scanDigits 0 (c :: rest)) else none
  | [] => none

/-- Read a number. -/
def readNumber : List Char → Option (Option Number × List Char)
  | '-' :: rest => readUnsigned true rest
  | input => readUnsigned false input

end Metamorph.Json
