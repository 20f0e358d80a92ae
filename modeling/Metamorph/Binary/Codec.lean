import Metamorph.Text.Utf8

/-! # Binary codecs

A codec writes values as bytes and reads them back from the front of a byte string. Words
have a fixed width and come low byte first; lists and texts carry their length in front; the
cases of a choice are numbered. -/

namespace Metamorph

/-- A way to write values as bytes, and to read one from the front. -/
structure Codec (α : Type) where
  encode : α → List UInt8
  decode : List UInt8 → Option (α × List UInt8)

namespace Codec

/-- The lowest bytes of a number, low byte first. -/
def littleEndian : Nat → Nat → List UInt8
  | 0, _ => []
  | width + 1, n => n.toUInt8 :: littleEndian width (n / 256)

/-- Read a number of a fixed width, low byte first. -/
def readLittleEndian : Nat → List UInt8 → Option (Nat × List UInt8)
  | 0, bytes => some (0, bytes)
  | _ + 1, [] => none
  | width + 1, byte :: bytes =>
    (readLittleEndian width bytes).map fun (n, rest) => (byte.toNat + 256 * n, rest)

/-- 32 bit words, in four bytes. -/
def word32 : Codec UInt32 where
  encode a := littleEndian 4 a.toNat
  decode bytes := (readLittleEndian 4 bytes).map fun (n, rest) => (n.toUInt32, rest)

/-- Lengths, in eight bytes. -/
def length : Codec Nat where
  encode n := littleEndian 8 n
  decode := readLittleEndian 8

/-- Truth values, in one byte that is 0 or 1. -/
def bool : Codec Bool where
  encode b := [if b then 1 else 0]
  decode
    | 0 :: rest => some (false, rest)
    | 1 :: rest => some (true, rest)
    | _ => none

/-- Take a number of bytes off the front. -/
def takeBytes (count : Nat) (bytes : List UInt8) : Option (List UInt8 × List UInt8) :=
  let taken := bytes.take count
  if taken.length = count then some (taken, bytes.drop count) else none

/-- Texts: the number of their bytes, and the bytes in UTF-8. -/
def text : Codec String where
  encode s := length.encode (Text.utf8 s).length ++ Text.utf8 s
  decode bytes := do
    let (count, rest) ← length.decode bytes
    let (taken, rest) ← takeBytes count rest
    let s ← Text.ofUtf8? taken
    return (s, rest)

/-- Read a number of values one after the other. -/
def readMany {α : Type} (item : Codec α) : Nat → List UInt8 → Option (List α × List UInt8)
  | 0, bytes => some ([], bytes)
  | count + 1, bytes => do
    let (a, rest) ← item.decode bytes
    let (as, rest) ← readMany item count rest
    return (a :: as, rest)

/-- Lists: their length, and the items one after the other. -/
def list {α : Type} (item : Codec α) : Codec (List α) where
  encode as := length.encode as.length ++ as.flatMap item.encode
  decode bytes := do
    let (count, rest) ← length.decode bytes
    readMany item count rest

/-- The values of a finite type, by their number in a list. -/
def numbered {α : Type} [DecidableEq α] (all : List α) : Codec α where
  encode a := littleEndian 4 (all.idxOf a)
  decode bytes := do
    let (number, rest) ← readLittleEndian 4 bytes
    let a ← all[number]?
    return (a, rest)

/-- Two values, one after the other. -/
def pair {α β : Type} (first : Codec α) (second : Codec β) : Codec (α × β) where
  encode ab := first.encode ab.1 ++ second.encode ab.2
  decode bytes := do
    let (a, rest) ← first.decode bytes
    let (b, rest) ← second.decode rest
    return ((a, b), rest)

/-- Write values of another type through parts that give them back. -/
def via {α β : Type} (codec : Codec α) (parts : β → α) (whole : α → β) : Codec β where
  encode b := codec.encode (parts b)
  decode bytes := (codec.decode bytes).map fun (a, rest) => (whole a, rest)

end Codec

end Metamorph
