import Metamorph.Sandbox.Text

/-! # Quotes and escapes

How texts are written so that shells and readers of messages take them as they are, and how they
are read from what was written with a backslash. -/

namespace Metamorph.Sandbox

/-! ## Words between quotes

How messages show names and words, and how a word is written so that a shell reads it as it is. -/

/-- Whether a character has a meaning for shells, so that messages quote a name with it. -/
def needsQuotes (c : Char) : Bool :=
  !(c.isAlphanum || ['%', '+', ',', '-', '.', '/', ']', '_', '@', '\x7b', '\x7d'].contains c)

/-- A character as it is written between quotes with escapes. -/
def escapeName (c : Char) : List Char :=
  let escaped :=
    match c with
    | '\n' => ['\\', 'n']
    | '\t' => ['\\', 't']
    | '\r' => ['\\', 'r']
    | _ =>
      '\\' :: Nat.digitChar (c.toNat / 64) :: Nat.digitChar (c.toNat / 8 % 8)
        :: [Nat.digitChar (c.toNat % 8)]
  if c = '\'' then ['\'', '\\', '\'', '\'']
  else if isGraphic c || c = ' ' then [c]
  else ['\'', '$', '\''] ++ escaped ++ ['\'', '\'']

/-- A name between quotes. -/
def quoted (name : String) : String :=
  let text := name.toList
  if text.contains '\'' && text.all (fun c => isGraphic c || c = ' ')
      && !text.any (['"', '$', '\\', '!', backquote].contains ·) then
    "\"" ++ name ++ "\""
  else "'" ++ String.ofList (text.flatMap escapeName) ++ "'"
where
  backquote : Char := Char.ofNat 0x60

/-- A character of a cited word. -/
def citeChar (c : Char) : List Char :=
  match c with
  | '\'' => ['\\', '\'']
  | '\\' => ['\\', '\\']
  | '\n' => ['\\', 'n']
  | '\t' => ['\\', 't']
  | '\r' => ['\\', 'r']
  | '\x07' => ['\\', 'a']
  | '\x08' => ['\\', 'b']
  | '\x0b' => ['\\', 'v']
  | '\x0c' => ['\\', 'f']
  | _ =>
    if isGraphic c || c = ' ' then [c]
    else
      '\\' :: Nat.digitChar (c.toNat / 64) :: Nat.digitChar (c.toNat / 8 % 8)
        :: [Nat.digitChar (c.toNat % 8)]

/-- A word that is no name between quotes: a backslash stands in front of what needs one. -/
def cited (word : String) : String :=
  "'" ++ String.ofList (word.toList.flatMap citeChar) ++ "'"

/-- A name, between quotes if it has anything unusual in it. -/
def quotedIfNeeded (name : String) : String :=
  if name.isEmpty || name.toList.any needsQuotes then quoted name else name

/-- Whether a character has a meaning for the rich shell; some have one at the beginning only. -/
def needsShelter (isFirst : Bool) (c : Char) : Bool :=
  c = Char.ofNat 0x60
    || [' ', '!', '"', '$', '&', '\'', '(', ')', '*', ',', ';', '<', '>', '?', '[', '\\', ']', '^',
      '\x7b', '|', '\x7d'].contains c
    || (isFirst && (c = '#' || c = '~'))

/-- A character of a word that is written with escapes. -/
def shelterChar (c : Char) : List Char :=
  if c = Char.ofNat 27 then ['\\', 'E'] else citeChar c

/-- A word as the rich shell reads it: with backslashes, or with escapes between quotes if there are
characters in it that cannot be seen. -/
def sheltered (word : String) : String :=
  let text := word.toList
  if text.isEmpty then "''"
  else if text.any (fun c => !(isGraphic c || c = ' ')) then
    "$'" ++ String.ofList (text.flatMap shelterChar) ++ "'"
  else
    String.ofList ((text.zipIdx.map fun (c, place) =>
      if needsShelter (place = 0) c then ['\\', c] else [c]).flatten)

/-! ## Escapes

What a backslash with the characters behind it stands for in a text. Programs know different
escapes; what they know is a value. -/

/-- What an escape comes to. -/
inductive Escaped where
  /-- Some characters, and the text behind the escape. -/
  | plain (characters rest : List Char)
  /-- Nothing is left of the whole text from here on. -/
  | ending
  /-- It lacks something. -/
  | faulty (why : String)

/-- The escapes that a program knows. All know those of one letter for control characters. -/
structure Escapes where
  /-- An octal escape may begin with a zero that is not one of its three digits. -/
  zeroFirst : Bool := false
  /-- An octal escape may begin with any octal digit. -/
  octal : Bool := true
  /-- There are hexadecimal escapes. -/
  hexadecimal : Bool := false
  /-- There are escapes for characters by their numbers in the set of all characters. -/
  unicode : Bool := false
  /-- The letters for the character that begins a control sequence. -/
  control : List Char := []
  /-- An escape ends the text. -/
  ending : Bool := false
  /-- The signs that may be escaped. -/
  signs : List Char := []
  /-- Missing digits are an error. -/
  strict : Bool := false
  /-- What follows a backslash without a meaning is read again. -/
  rereads : Bool := false

/-- The character of an escape of one letter. -/
def letterEscape? : Char → Option Char
  | 'a' => some (Char.ofNat 7)
  | 'b' => some (Char.ofNat 8)
  | 'f' => some (Char.ofNat 12)
  | 'n' => some '\n'
  | 'r' => some '\r'
  | 't' => some '\t'
  | 'v' => some (Char.ofNat 11)
  | '\\' => some '\\'
  | _ => none

/-- Whether a character is an octal digit. -/
def isOctal (c : Char) : Bool :=
  '0' ≤ c && c ≤ '7'

/-- The character whose code digits denote, of which only the lower bits count. -/
def codeChar (base : Nat) (digits : List Char) : Char :=
  Char.ofNat (valueIn base digits % 256)

/-- A character by its number where only plain characters can be written: any other is shown by
its number. -/
def unicodeText (number : Nat) : List Char :=
  if number < 128 then [Char.ofNat number]
  else
    let (letter, width) := if number < 0x10000 then ('u', 4) else ('U', 8)
    let digits := (Nat.toDigits 16 number).map Char.toUpper
    '\\' :: letter :: (List.replicate (width - digits.length) '0' ++ digits)

namespace Escapes

/-- Read what follows a backslash. -/
def readOne (escapes : Escapes) (c : Char) (rest : List Char) : Escaped :=
  let unknown : Escaped :=
    if escapes.rereads then .plain ['\\'] (c :: rest) else .plain ['\\', c] rest
  let numbered (what : String) (most : Nat) (text : List Char → List Char) : Escaped :=
    let digits := (rest.take most).takeWhile isHexDigit
    if digits.isEmpty || (what = "unicode" && escapes.strict && digits.length < most) then
      if escapes.strict then .faulty "missing hexadecimal number in escape" else unknown
    else .plain (text digits) (rest.drop digits.length)
  match letterEscape? c with
  | some d => .plain [d] rest
  | none =>
    if c = 'c' && escapes.ending then .ending
    else if escapes.control.contains c then .plain [Char.ofNat 27] rest
    else if escapes.signs.contains c then .plain [c] rest
    else if c = '0' && escapes.zeroFirst then
      let digits := (rest.take 3).takeWhile isOctal
      .plain [codeChar 8 digits] (rest.drop digits.length)
    else if isOctal c && escapes.octal then
      let digits := ((c :: rest).take 3).takeWhile isOctal
      .plain [codeChar 8 digits] ((c :: rest).drop digits.length)
    else if c = 'x' && escapes.hexadecimal then
      numbered "code" 2 fun digits => [codeChar 16 digits]
    else if c = 'u' && escapes.unicode then
      numbered "unicode" 4 fun digits => unicodeText (valueIn 16 digits)
    else if c = 'U' && escapes.unicode then
      numbered "unicode" 8 fun digits => unicodeText (valueIn 16 digits)
    else unknown

/-- A text with its escapes carried out up to its end or to the escape that stops it. -/
def apply (escapes : Escapes) : Nat → List Char → List Char × Escaped
  | 0, rest => ([], .plain [] rest)
  | _ + 1, [] => ([], .plain [] [])
  | fuel + 1, '\\' :: c :: rest =>
    match escapes.readOne c rest with
    | .plain text rest =>
      let (more, stop) := escapes.apply fuel rest
      (text ++ more, stop)
    | stop => ([], stop)
  | fuel + 1, c :: rest =>
    let (more, stop) := escapes.apply fuel rest
    (c :: more, stop)

/-- A text with its escapes carried out, and what stopped it if it does not go on behind. -/
def applyAll (escapes : Escapes) (text : List Char) : List Char × Escaped :=
  escapes.apply (text.length + 1) text

end Escapes

end Metamorph.Sandbox
