/-! # Floats in decimal

The digits of a float, and the layouts in which it is written. -/

namespace Metamorph.Decimal

/-! ## The shortest decimal of a float

A finite float is a number `m * 2 ^ q`. Of the decimals that read back to it, the shortest
one is found by trying grids of one digit, of two digits, and so on: the first grid on which
one of the two neighbours of the value reads back gives the digits. -/

/-- The size of a finite float that is not zero: the value `mantissa * 2 ^ power`. -/
structure Magnitude where
  mantissa : Nat
  power : Int
  /-- Whether the gap to the next smaller float is half the gap to the next larger one. -/
  narrowBelow : Bool

/-- The sign bit of a float. -/
def signBit : Nat := 0x8000000000000000

/-- The bit above the 52 bits of a mantissa that are stored. -/
def hiddenBit : Nat := 0x10000000000000

/-- The size of a finite float. -/
def Magnitude.ofFloat (x : Float) : Magnitude :=
  let bits : Nat := x.toBits.toNat % signBit
  let fraction : Nat := bits % hiddenBit
  let exponent : Nat := bits / hiddenBit
  if exponent = 0 then
    ⟨fraction, -1074, false⟩
  else
    ⟨hiddenBit + fraction, (exponent : Int) - 1075, fraction == 0 && exponent > 1⟩

/-- The digits of a decimal and the power of ten of the last one. -/
structure Digits where
  coefficient : Nat
  power : Int
  deriving DecidableEq

/-- Write `m * 2 ^ q / 10 ^ p` as a quotient of natural numbers. -/
def quotient (m : Nat) (q p : Int) : Nat × Nat :=
  (m * Nat.pow 2 q.toNat * Nat.pow 10 (-p).toNat, Nat.pow 2 (-q).toNat * Nat.pow 10 p.toNat)

/-- Whether a decimal lies in the interval of the reals that round to the float. The ends
belong to it when the mantissa is even. -/
def readsBack (x : Magnitude) (d : Digits) : Bool :=
  -- In units of a quarter of the last place, over a common denominator.
  let (unit, scale) := quotient 1 (x.power - 2) d.power
  let point := d.coefficient * scale
  let low := (4 * x.mantissa - if x.narrowBelow then 1 else 2) * unit
  let high := (4 * x.mantissa + 2) * unit
  if x.mantissa % 2 = 0 then low ≤ point && point ≤ high else low < point && point < high

/-- The nearer of the two neighbours on the grid `10 ^ power` that reads back; of two that
are equally near, the upper one. -/
def nearestOnGrid (x : Magnitude) (power : Int) : Option Digits :=
  let (num, den) := quotient x.mantissa x.power power
  let below : Digits := ⟨num / den, power⟩
  let above : Digits := ⟨num / den + 1, power⟩
  match readsBack x below && below.coefficient != 0, readsBack x above with
  | true, true => some (if 2 * (num % den) < den then below else above)
  | true, false => some below
  | false, true => some above
  | false, false => none

/-- Whether the value is at least `10 ^ power`. -/
def atLeastPowerOfTen (x : Magnitude) (power : Int) : Bool :=
  let (num, den) := quotient x.mantissa x.power power
  den ≤ num

/-- The power of ten of the leading digit, looked for from an upper bound downwards. -/
def leadingPower (x : Magnitude) : Int :=
  let bits : Int := x.mantissa.log2 + x.power
  let start := bits * 30103 / 100000 + 2
  let candidates : List Int := [start, start - 1, start - 2, start - 3, start - 4]
  (candidates.find? (atLeastPowerOfTen x)).getD (start - 5)

/-- Drop the zeros at the end of the digits. -/
def dropZeros : Nat → Digits → Digits
  | 0, d => d
  | fuel + 1, d =>
    if d.coefficient % 10 = 0 && d.coefficient != 0 then
      dropZeros fuel ⟨d.coefficient / 10, d.power + 1⟩
    else d

/-- The shortest decimal that reads back to a finite float other than zero; seventeen digits
always suffice. -/
def shortest (x : Magnitude) : Digits :=
  let top := leadingPower x
  let found := (List.range 17).findSome? fun (more : Nat) => nearestOnGrid x (top - more)
  dropZeros 20 (found.getD ⟨x.mantissa, 0⟩)

/-! ## How floats are written

Messages write a float in one of two layouts. The plain one never has an exponent and
leaves a whole number without a point. The precise one always shows that the number is a
float, and uses an exponent for the very large and the very small. -/

/-- Put the decimal point among the digits: the last digit has the weight `10 ^ power`. -/
def placePoint (digits : List Char) (power : Int) : List Char × List Char :=
  if 0 ≤ power then
    (digits ++ List.replicate power.toNat '0', [])
  else
    let places := (-power).toNat
    let padded := List.replicate (places + 1 - digits.length) '0' ++ digits
    (padded.take (padded.length - places), padded.drop (padded.length - places))

/-- Whole part and places, with a point between them when there are places. -/
def joinPoint : List Char × List Char → List Char
  | (whole, []) => whole
  | (whole, places) => whole ++ '.' :: places

/-- The digits of a number, written without an exponent. -/
def positional (d : Digits) : List Char :=
  joinPoint (placePoint (Nat.toDigits 10 d.coefficient) d.power)

/-- The digits of a number with an exponent, and a point behind the first digit when there
are more. -/
def scientific (d : Digits) : List Char :=
  let digits := Nat.toDigits 10 d.coefficient
  let exponent := d.power + (digits.length - 1 : Nat)
  joinPoint (digits.take 1, digits.drop 1) ++ 'e' :: (toString exponent).toList

/-- Put the sign of a float before its digits; what is no number has no sign. -/
def signed (x : Float) (size : List Char) : String :=
  if x.isNaN then "NaN"
  else
    let shown := if x.isInf then ['i', 'n', 'f'] else size
    String.ofList (if x.toBits ≥ 0x8000000000000000 then '-' :: shown else shown)

/-- Whether a float is a zero of either sign. -/
def isZero (x : Float) : Bool :=
  x.toBits.toNat % signBit == 0

/-- The plain layout: the fewest digits that read back, and never an exponent. -/
def plain (x : Float) : String :=
  signed x <|
    if isZero x then ['0'] else positional (shortest (Magnitude.ofFloat x))

/-- The digits of the precise layout. From `0.0001` up to below `10 ^ 16` the number is
written out and has at least one place. -/
def preciseDigits (d : Digits) : List Char :=
  let top := d.power + ((Nat.toDigits 10 d.coefficient).length - 1 : Nat)
  if -4 ≤ top && top < 16 then
    match placePoint (Nat.toDigits 10 d.coefficient) d.power with
    | (whole, []) => whole ++ ['.', '0']
    | parts => joinPoint parts
  else scientific d

/-- The precise layout: the fewest digits that read back, always with a point or an
exponent. -/
def precise (x : Float) : String :=
  signed x <|
    if isZero x then ['0', '.', '0'] else preciseDigits (shortest (Magnitude.ofFloat x))

end Metamorph.Decimal
