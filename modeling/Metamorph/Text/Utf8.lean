/-! # Texts and bytes

Texts are written in UTF-8, and bytes are read as text. -/

namespace Metamorph.Text

/-! ## Reading bytes as text

Texts are written in UTF-8. Bytes that come from a command need not be: reading them puts
one replacement character for every longest piece that begins like a character and is none. -/

/-- The bytes of a text in UTF-8. -/
def utf8 (text : String) : List UInt8 :=
  text.toByteArray.data.toList

/-- The text with the given bytes, if they are UTF-8. -/
def ofUtf8? (bytes : List UInt8) : Option String :=
  String.fromUTF8? ⟨bytes.toArray⟩

/-- What the first byte of a character announces: how many bytes follow it, and the least
and greatest value the next one may have. -/
def announced (first : UInt8) : Option (Nat × UInt8 × UInt8) :=
  if first < 0x80 then some (0, 0x80, 0xBF)
  else if first < 0xC2 then none
  else if first < 0xE0 then some (1, 0x80, 0xBF)
  else if first = 0xE0 then some (2, 0xA0, 0xBF)
  else if first = 0xED then some (2, 0x80, 0x9F)
  else if first < 0xF0 then some (2, 0x80, 0xBF)
  else if first = 0xF0 then some (3, 0x90, 0xBF)
  else if first < 0xF4 then some (3, 0x80, 0xBF)
  else if first = 0xF4 then some (3, 0x80, 0x8F)
  else none

/-- Take up to `count` bytes that go on a character; only the first of them is held to the
given range, the others to that of every such byte. -/
def continuation : Nat → UInt8 → UInt8 → List UInt8 → List UInt8
  | 0, _, _, _ => []
  | _ + 1, _, _, [] => []
  | count + 1, low, high, byte :: rest =>
    if low ≤ byte && byte ≤ high then byte :: continuation count 0x80 0xBF rest else []

/-- The code point written by a first byte and those that go on. -/
def codePoint (first : UInt8) (more : List UInt8) : Nat :=
  let lead :=
    match more.length with
    | 0 => first.toNat
    | 1 => first.toNat % 0x20
    | 2 => first.toNat % 0x10
    | _ => first.toNat % 0x08
  more.foldl (fun code byte => code * 0x40 + byte.toNat % 0x40) lead

/-- The replacement character. -/
def replacement : Char := Char.ofNat 0xFFFD

/-- Read at most as many characters as the fuel says. -/
def readUtf8 : Nat → List UInt8 → List Char
  | 0, _ => []
  | _ + 1, [] => []
  | fuel + 1, first :: rest =>
    match announced first with
    | none => replacement :: readUtf8 fuel rest
    | some (count, low, high) =>
      let more := continuation count low high rest
      let c := if more.length = count then Char.ofNat (codePoint first more) else replacement
      c :: readUtf8 fuel (rest.drop more.length)

/-- Read bytes as text, with replacement characters where they are not UTF-8. Every
character takes a byte at least, so that the number of bytes is fuel enough. -/
def ofBytes (bytes : List UInt8) : String :=
  String.ofList (readUtf8 bytes.length bytes)

/-! ## Texts of bytes

Programs pass bytes on without asking what they mean. A text of bytes has one character for
each byte, whose code is the value of the byte. -/

/-- The character that stands for a byte. -/
def octet (byte : UInt8) : Char :=
  Char.ofNat byte.toNat

/-- The text of bytes. -/
def ofOctets (bytes : List UInt8) : List Char :=
  bytes.map octet

/-- The bytes that the characters of a text stand for. -/
def octets (text : List Char) : List UInt8 :=
  text.map fun c => c.toNat.toUInt8

/-- The text of the bytes in which a text is written. -/
def spread (text : String) : String :=
  String.ofList (ofOctets (utf8 text))

/-- The text that a text of bytes is the written form of. -/
def gather (text : String) : String :=
  ofBytes (octets text.toList)

end Metamorph.Text
