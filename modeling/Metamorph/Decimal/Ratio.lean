import Metamorph.Decimal.Shortest

/-! # Quotients in decimal

Quotients of natural numbers with a sign, rounded to a number of bits as floats are, and written
with a given number of places: in full, with an exponent, or in the shorter of these forms. A
number halfway between two goes to the even one. -/

namespace Metamorph.Decimal

/-- A quotient with a sign. -/
structure Ratio where
  negative : Bool := false
  num : Nat
  den : Nat := 1
  deriving Inhabited

namespace Ratio

/-- The quotient of a whole number. -/
def ofInt (n : Int) : Ratio :=
  { negative := n < 0, num := n.natAbs }

/-- The quotient that a finite float is equal to. -/
def ofFloat (x : Float) : Ratio :=
  let size := Magnitude.ofFloat x
  { negative := x.toBits.toNat ≥ signBit
    num := size.mantissa * Nat.pow 2 size.power.toNat
    den := Nat.pow 2 (-size.power).toNat }

/-- Divide, and round to the nearest number; of two that are equally near, to the even one. -/
def roundDiv (num den : Nat) : Nat :=
  let quotient := num / den
  let twice := 2 * (num % den)
  if twice < den || (twice = den && quotient % 2 = 0) then quotient else quotient + 1

/-- A quotient times a power. -/
def scaled (base : Nat) (power : Int) (num den : Nat) : Nat × Nat :=
  (num * Nat.pow base power.toNat, den * Nat.pow base (-power).toNat)

/-- Round to a number of bits. -/
def round (bits : Nat) (x : Ratio) : Ratio :=
  if x.num = 0 then x
  else
    let guess : Int := (x.num.log2 : Int) - x.den.log2 + 1 - bits
    let (num, den) := scaled 2 (-guess) x.num x.den
    let power := if num < den * Nat.pow 2 (bits - 1) then guess - 1 else guess
    let (num, den) := scaled 2 (-power) x.num x.den
    let (num, den) := scaled 2 power (roundDiv num den) 1
    { x with num := num, den := den }

/-- Digits with a point in front of the last places. -/
def placed (places : Nat) (number : Nat) : List Char :=
  let digits := Nat.toDigits 10 number
  let digits := List.replicate (places + 1 - digits.length) '0' ++ digits
  let whole := digits.take (digits.length - places)
  if places = 0 then whole else whole ++ '.' :: digits.drop whole.length

/-- The digits of a quotient with some places, without its sign. -/
def fixed (places : Nat) (x : Ratio) : List Char :=
  placed places (roundDiv (x.num * Nat.pow 10 places) x.den)

/-- Look for the power of ten of the leading digit, from a guess upwards. -/
def raise (x : Ratio) : Nat → Int → Int
  | 0, power => power
  | fuel + 1, power =>
    let (num, den) := scaled 10 (-(power + 1)) x.num x.den
    if den ≤ num then raise x fuel (power + 1) else power

/-- The power of ten of the leading digit. -/
def leading (x : Ratio) : Int :=
  let bits : Int := (x.num.log2 : Int) - x.den.log2
  raise x 8 (bits * 30103 / 100000 - 2)

/-- The digits of a quotient as one digit with some places, and the power of ten. -/
def normal (places : Nat) (x : Ratio) : Nat × Int :=
  if x.num = 0 then (0, 0)
  else
    let power := x.leading
    let (num, den) := scaled 10 (places - power) x.num x.den
    let digits := roundDiv num den
    if digits = Nat.pow 10 (places + 1) then (Nat.pow 10 places, power + 1) else (digits, power)

/-- An exponent with its sign and at least two digits. -/
def exponent (letter : Char) (power : Int) : List Char :=
  let digits := Nat.toDigits 10 power.natAbs
  letter :: (if power < 0 then '-' else '+') :: (List.replicate (2 - digits.length) '0' ++ digits)

/-- One digit with some places and an exponent, without its sign. -/
def exponential (letter : Char) (places : Nat) (x : Ratio) : List Char :=
  let (digits, power) := x.normal places
  placed places digits ++ exponent letter power

/-- Drop the zeros at the end of places, and the point if nothing is left of them. -/
def dropZeros (text : List Char) : List Char :=
  if text.contains '.' then
    let kept := text.reverse.dropWhile (· = '0')
    (if kept.head? = some '.' then kept.drop 1 else kept).reverse
  else text

/-- The form with so many digits that is the shorter one, without its sign. -/
def general (letter : Char) (digits : Nat) (keepZeros : Bool) (x : Ratio) : List Char :=
  let digits := max digits 1
  let (number, power) := x.normal (digits - 1)
  let clean (text : List Char) := if keepZeros then text else dropZeros text
  if power < -4 || digits ≤ power then
    clean (placed (digits - 1) number) ++ exponent letter power
  else clean (x.fixed (digits - 1 - power).toNat)

/-- Read a number with digits, perhaps a point and places, and perhaps an exponent. What follows
is left. -/
def read? (input : List Char) : Option (Ratio × List Char) :=
  let (negative, rest) :=
    match input with
    | '-' :: rest => (true, rest)
    | '+' :: rest => (false, rest)
    | _ => (false, input)
  let whole := rest.takeWhile Char.isDigit
  let rest := rest.drop whole.length
  let (places, rest) :=
    match rest with
    | '.' :: rest => (rest.takeWhile Char.isDigit, rest.dropWhile Char.isDigit)
    | _ => ([], rest)
  if whole.isEmpty && places.isEmpty then none
  else
    let (power, rest) := readPower rest
    let value := (whole ++ places).foldl (fun n c => n * 10 + (c.toNat - '0'.toNat)) 0
    let power := if value = 0 then 0 else max (-5000) (min 5000 power)
    let (num, den) := scaled 10 (power - places.length) value 1
    some ({ negative, num, den }, rest)
where
  /-- Read an exponent, if one follows. -/
  readPower (input : List Char) : Int × List Char :=
    match input with
    | e :: rest =>
      let (down, digits) :=
        match rest with
        | '-' :: digits => (true, digits)
        | '+' :: digits => (false, digits)
        | _ => (false, rest)
      let power := digits.takeWhile Char.isDigit
      if (e = 'e' || e = 'E') && !power.isEmpty then
        let size : Int := (power.take 6).foldl (fun n c => n * 10 + (c.toNat - '0'.toNat)) 0
        (if down then -size else size, digits.drop power.length)
      else (0, input)
    | [] => (0, [])

/-- The float nearest to a quotient. -/
def toFloat (x : Ratio) : Float :=
  let rounded := x.round 53
  let size := (Float.ofScientific rounded.num false 0).scaleB (-(rounded.den.log2 : Int))
  if x.negative then -size else size

end Ratio

end Metamorph.Decimal
