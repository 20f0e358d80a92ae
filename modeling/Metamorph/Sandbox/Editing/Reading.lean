import Metamorph.Sandbox.Editing.Basic

/-! # Steps of reading editing scripts

A script is read character by character. A fault is told with the place that the reading has come
to. An expression stands between two delimiters; inside of brackets a delimiter has no meaning. -/

namespace Metamorph.Sandbox.Editing

/-- A block that has not been closed: the place of the command that opens it, and the text of the
script and the line in which it stands. -/
structure OpenBlock where
  place : Nat
  part : Nat
  line : Nat

/-- How far a script has been read. -/
structure ReadState where
  rest : List Char
  /-- How many characters have been read. -/
  place : Nat := 0
  extended : Bool := false
  commands : Array Command := #[]
  /-- The number of the text that is read. -/
  part : Nat := 1
  /-- The line that is read. -/
  line : Nat := 1
  /-- The blocks that have not been closed, the last one first. -/
  blocks : List OpenBlock := []

/-- A fault of a script: where, and what. -/
structure ScriptFault where
  place : Nat
  line : Nat
  text : String

/-- A step of reading. -/
abbrev Reading := StateT ReadState (Except ScriptFault)

namespace Reading

/-- Fail where the reading has come to. -/
def fail {α : Type} (text : String) : Reading α := do
  let state ← get
  throw ⟨state.place, state.line, text⟩

/-- A text between the quotes of messages. -/
def quote (text : String) : String :=
  String.ofList [Char.ofNat 0x60] ++ text ++ "'"

/-- Take the next character. -/
def next? : Reading (Option Char) :=
  modifyGet fun state =>
    match state.rest with
    | [] => (none, state)
    | c :: rest =>
      let line := if c = '\n' then state.line + 1 else state.line
      (some c, { state with rest, place := state.place + 1, line })

/-- The next character, which is not taken. -/
def peek? : Reading (Option Char) := do
  return (← get).rest.head?

/-- Take characters that have a property. -/
def takeWhile (accepts : Char → Bool) : Reading (List Char) :=
  modifyGet fun state =>
    let taken := state.rest.takeWhile accepts
    (taken,
      { state with
        rest := state.rest.drop taken.length
        place := state.place + taken.length
        line := state.line + taken.count '\n' })

/-- Skip blanks inside of a line. -/
def skipBlanks : Reading Unit := do
  let _ ← takeWhile isBlank

/-- Read a number, if digits come next. -/
def number? : Reading (Option Nat) := do
  let digits ← takeWhile Char.isDigit
  return if digits.isEmpty then none else some (Text.digitsValue digits)

/-- Where a character stands in an expression. -/
inductive Standing where
  | outside
  /-- Behind an opening bracket, where a closing one stands for itself. -/
  | bracketStart
  | bracket
  /-- Inside of a name between brackets, which ends with a sign and a bracket. -/
  | named (sign : Char)
  deriving DecidableEq

/-- Where the character behind another one stands, in a text that goes on with a rest. -/
def Standing.next (standing : Standing) (c : Char) (rest : List Char) : Standing :=
  match standing with
  | .outside => if c = '[' then .bracketStart else .outside
  | .bracketStart =>
    if c = '^' && rest.head? ≠ some ']' then .bracket
    else if c = '^' then .bracketStart
    else opened
  | .bracket => if c = ']' then .outside else opened
  | .named sign => if c = ']' then .bracket else .named sign
where
  /-- Inside of brackets, a name may begin. -/
  opened : Standing :=
    match c, rest with
    | '[', ':' :: _ => .named ':'
    | '[', '.' :: _ => .named '.'
    | '[', '=' :: _ => .named '='
    | _, _ => .bracket

/-- Where the character behind one without a meaning of its own stands. -/
def Standing.later : Standing → Standing
  | .bracketStart => .bracket
  | standing => standing

/-- Read up to a delimiter. In an expression, a backslash and an `n` are a line end, and the
delimiter may be written with a backslash. There is no text if the delimiter is missing. -/
def delimited (delimiter : Char) (isRegex : Bool) :
    Nat → Standing → List Char → Reading (Option (List Char))
  | 0, _, _ => return none
  | fuel + 1, standing, text => do
    if (← get).rest.head? = some '\n' then return none
    match ← next? with
    | none => return none
    | some c =>
      let rest := (← get).rest
      if c = delimiter && standing = .outside then return some text.reverse
      else if c = '\\' then
        match rest with
        | [] => return none
        | d :: _ =>
          if d = delimiter && (isRegex || d ≠ '&') then
            let _ ← next?
            delimited delimiter isRegex fuel standing.later (d :: text)
          else if d = 'n' && isRegex then
            let _ ← next?
            delimited delimiter isRegex fuel standing.later ('\n' :: text)
          else if d = '\n' then
            let _ ← next?
            delimited delimiter isRegex fuel standing
              (if isRegex then '\n' :: text else '\n' :: '\\' :: text)
          else if standing = .outside then
            let _ ← next?
            delimited delimiter isRegex fuel standing (d :: '\\' :: text)
          else delimited delimiter isRegex fuel standing.later ('\\' :: text)
      else
        let next := if isRegex then standing.next c rest else standing
        delimited delimiter isRegex fuel next (c :: text)

/-- The character that a number in some base behind an escape stands for, and what follows. -/
def codeOf? (base most : Nat) (input : List Char) : Option (Char × List Char) :=
  let value (c : Char) : Nat :=
    if c.isDigit then c.toNat - '0'.toNat else c.toLower.toNat - 'a'.toNat + 10
  let digits := (input.take most).takeWhile fun c => isHexDigit c && value c < base
  if digits.isEmpty then none
  else
    some (Char.ofNat (digits.foldl (fun n c => n * base + value c) 0 % 256),
      input.drop digits.length)

/-- The character that an escape behind its backslash stands for, and what follows. -/
def escaped? (input : List Char) : Option (Char × List Char) :=
  match input with
  | 'a' :: rest => some ('\x07', rest)
  | 'f' :: rest => some ('\x0c', rest)
  | 't' :: rest => some ('\t', rest)
  | 'r' :: rest => some ('\r', rest)
  | 'v' :: rest => some ('\x0b', rest)
  | 'd' :: rest => codeOf? 10 3 rest
  | 'o' :: rest => codeOf? 8 3 rest
  | 'x' :: rest => codeOf? 16 2 rest
  | 'c' :: c :: rest =>
    let rest := if c = '\\' && rest.head? = some '\\' then rest.drop 1 else rest
    some (Char.ofNat (c.toUpper.toNat ^^^ 64), rest)
  | _ => none

/-- Replace the escapes in an expression by the characters that they stand for. -/
def plainEscapes : Nat → List Char → List Char
  | 0, text => text
  | _ + 1, [] => []
  | fuel + 1, '\\' :: rest =>
    match escaped? rest with
    | some (c, rest) =>
      (if ['*', '[', '.', '^', '$', '\\'].contains c then ['\\', c] else [c])
        ++ plainEscapes fuel rest
    | none =>
      match rest with
      | c :: rest => '\\' :: c :: plainEscapes fuel rest
      | [] => ['\\']
  | fuel + 1, c :: rest => c :: plainEscapes fuel rest

/-- Read an expression from its text; an empty one is the one that was used last. -/
def regexOf (text : List Char) (ignoreCase : Bool) : Reading (Option Regex) := do
  if text.isEmpty then return none
  let extended := (← get).extended
  match Regex.read { extended, ignoreCase, manifold := extended }
    (plainEscapes (text.length + 1) text) with
  | .ok regex => return some regex
  | .error why => fail why.message

end Reading

end Metamorph.Sandbox.Editing
