import Metamorph.Sandbox.Regex.Basic
import Metamorph.Sandbox.Tool.Quoting
import Metamorph.Decimal.Ratio
import Metamorph.Sandbox.Tool.Numeral

/-! # Programs over records

The syntax of programs over records, and the words that their texts are cut into. -/

namespace Metamorph.Sandbox.Records

/-! ## Programs on records

A program on records has rules: what is done, and for which records. Records are parts of the
input, lines as a rule, and have fields. Values are numbers and texts, and variables may hold
arrays of them. -/

/-- A sum, difference, product, quotient, remainder or power. -/
inductive Arithmetic where
  | add
  | subtract
  | multiply
  | divide
  | remainder
  | power
  deriving DecidableEq

/-- A comparison of two values. -/
inductive Comparison where
  | less
  | atMost
  | equal
  | unequal
  | greater
  | atLeast
  deriving DecidableEq

/-- A function that every program has. -/
inductive Builtin where
  | length
  | substring
  | index
  | split
  | replaceFirst
  | replaceAll
  | find
  | format
  | sine
  | cosine
  | arcTangent
  | exponential
  | logarithm
  | root
  | integer
  | random
  | seed
  | lower
  | upper
  | close
  | system
  | flush
  | time
  deriving DecidableEq

/-- An expression. -/
inductive Expression where
  | number (value : Float)
  | text (characters : List Char)
  | regex (regex : Regex)
  | named (name : String)
  /-- A field of the record; field 0 is the whole record. -/
  | field (index : Expression)
  | item (array : String) (indices : List Expression)
  | assign (target value : Expression)
  /-- Assign what comes of a calculation with the value before. -/
  | update (how : Arithmetic) (target value : Expression)
  /-- Add something to a target; the value is that before or behind it. -/
  | bump (amount : Float) (isBefore : Bool) (target : Expression)
  | arithmetic (how : Arithmetic) (left right : Expression)
  | negative (body : Expression)
  | positive (body : Expression)
  | join (left right : Expression)
  | compare (how : Comparison) (left right : Expression)
  | matching (negated : Bool) (text pattern : Expression)
  | isIndex (indices : List Expression) (array : String)
  | both (left right : Expression)
  | either (left right : Expression)
  | not (body : Expression)
  | choice (condition first second : Expression)
  /-- In parentheses. -/
  | group (body : Expression)
  /-- Several expressions in parentheses, which only stand where indices or arguments do. -/
  | groups (parts : List Expression)
  | call (name : String) (arguments : List Expression)
  | builtin (which : Builtin) (arguments : List Expression)
  /-- Read the next record, or a line of a file or of what a command writes. -/
  | readRecord (target : Option Expression)
  | readFile (target : Option Expression) (path : Expression)
  | readCommand (target : Option Expression) (command : Expression)

/-- Where output goes instead. -/
inductive Direction where
  | write
  | append
  | command
  deriving DecidableEq

/-- A statement. -/
inductive Statement where
  | evaluate (body : Expression)
  | print (parts : List Expression) (target : Option (Direction × Expression))
  | printFormat (parts : List Expression) (target : Option (Direction × Expression))
  | branch (condition : Expression) (first second : List Statement)
  | whileLoop (condition : Expression) (body : List Statement)
  | doLoop (body : List Statement) (condition : Expression)
  | forLoop (start : List Statement) (condition : Option Expression) (step body : List Statement)
  | forIndices (name array : String) (body : List Statement)
  | next
  | nextFile
  | leave (code : Option Expression)
  | giveBack (value : Option Expression)
  | breakLoop
  | continueLoop
  | delete (array : String) (indices : List Expression)
  | deleteAll (array : String)

/-- For which records a rule is meant. -/
inductive Condition where
  | always
  /-- Before the first record, and behind the last one. -/
  | start
  | finish
  | holds (condition : Expression)
  /-- From one record to another one; the number tells such conditions apart. -/
  | range (number : Nat) (first last : Expression)

/-- What is done for some records. -/
structure Rule where
  condition : Condition
  body : List Statement

/-- A function that a program defines. -/
structure Definition where
  parameters : List String
  body : List Statement

/-- A program. -/
structure Script where
  rules : List Rule := []
  definitions : List (String × Definition) := []

/-! ## Words of programs on records

A program is a sequence of words: numbers, texts between quotes, expressions between slashes,
names and signs. A slash divides where a value has just ended, and begins an expression anywhere
else. The end of a line is a word, too, unless a backslash stands in front of it. -/

/-- A word of a program. -/
inductive Token where
  | number (value : Float) (shown : List Char)
  | text (characters : List Char) (shown : List Char)
  | regex (characters : List Char)
  | name (name : String)
  /-- A name with a parenthesis right behind it. -/
  | called (name : String)
  | sign (sign : String)
  | lineEnd
  | fileEnd
  deriving BEq

/-- A word and the line that it stands in. -/
structure Placed where
  token : Token
  line : Nat

namespace Token

/-- The words that have a meaning of their own. -/
def keywords : List String :=
  ["BEGIN", "END", "function", "if", "else", "while", "for", "do", "break", "continue", "next",
    "nextfile", "exit", "return", "delete", "in", "getline", "print", "printf"]

/-- The functions that every program has, by their names. -/
def builtins : List (String × Builtin) :=
  [("length", .length), ("substr", .substring), ("index", .index), ("split", .split),
    ("sub", .replaceFirst), ("gsub", .replaceAll), ("match", .find), ("sprintf", .format),
    ("sin", .sine), ("cos", .cosine), ("atan2", .arcTangent), ("exp", .exponential),
    ("log", .logarithm), ("sqrt", .root), ("int", .integer), ("rand", .random), ("srand", .seed),
    ("tolower", .lower), ("toupper", .upper), ("close", .close), ("system", .system),
    ("fflush", .flush), ("systime", .time)]

/-- The signs, those first that others begin. -/
def signs : List String :=
  ["&&", "||", "++", "--", "+=", "-=", "*=", "/=", "%=", "^=", "==", "<=", ">=", "!=", "!~", ">>",
    "\x7b", "\x7d", "(", ")", "[", "]", ";", ",", "+", "-", "*", "/", "%", "^", "!", ">", "<", "|",
    "?", ":", "~", "$", "="]

/-- Whether a value may end with a word, so that a slash behind it divides. -/
def endsValue : Token → Bool
  | .number _ _ => true
  | .text _ _ => true
  | .regex _ => true
  | .name found => !keywords.contains found && (builtins.lookup found).isNone
  | .sign found => [")", "]", "$", "++", "--"].contains found
  | _ => false

/-- How a word is shown in messages. -/
def shown : Token → String
  | .number _ shown => String.ofList shown
  | .text _ shown => String.ofList shown
  | .regex characters => "/" ++ String.ofList characters ++ "/"
  | .name found => found
  | .called found => found
  | .sign found => found
  | .lineEnd => "end of line"
  | .fileEnd => "end of file"

end Token

/-- What keeps a program from being read. -/
structure Fault where
  text : String
  /-- What else is told. -/
  more : List String := []

/-- A fault in a line. -/
def faultAt {α : Type} (line : Nat) (text : String) : Except Fault α :=
  .error { text := "line " ++ toString line ++ ": " ++ text }

/-- Carry out the escapes of a text between quotes. One that is not known keeps its backslash. -/
def unescape : Nat → List Char → List Char
  | 0, _ => []
  | _ + 1, [] => []
  | fuel + 1, '\\' :: c :: rest =>
    if c = '"' || c = '/' then
      (if c = '/' then ['\\', '/'] else ['"']) ++ unescape fuel rest
    else if c = '\n' then unescape fuel rest
    else
      match ({ hexadecimal := true } : Escapes).readOne c rest with
      | .plain text rest => text ++ unescape fuel rest
      | _ => unescape fuel rest
  | fuel + 1, c :: rest => c :: unescape fuel rest

/-- The characters up to a closing sign that no backslash stands in front of, and what follows
that sign. In brackets the sign has no meaning. There are none without the sign on the line. -/
def takeQuoted (close : Char) (brackets : Bool) :
    Nat → Bool → List Char → List Char → Option (List Char × List Char)
  | 0, _, _, _ => none
  | _ + 1, _, _, [] => none
  | fuel + 1, inside, taken, '\\' :: c :: rest =>
    takeQuoted close brackets fuel inside (c :: '\\' :: taken) rest
  | fuel + 1, inside, taken, c :: rest =>
    if c = '\n' then none
    else if c = close && !inside then some (taken.reverse, rest)
    else if brackets && c = '[' && !inside then
      let front :=
        if rest.take 2 = ['^', ']'] then ['^', ']']
        else if rest.head? = some ']' then [']'] else []
      takeQuoted close brackets fuel true (front.reverse ++ c :: taken) (rest.drop front.length)
    else
      takeQuoted close brackets fuel (inside && c ≠ ']') (c :: taken) rest

/-- The number that a program begins with, and what follows it. -/
def readNumber? (input : List Char) : Option (Float × List Char) := do
  let first ← input.head?
  if first.isDigit || (first = '.' && (input[1]?).any Char.isDigit) then
    let (value, rest) ← Decimal.Ratio.read? input
    return (value.toFloat, rest)
  else none

/-- Read the next word, which is not blank. The flag says that a value has just ended. -/
def readWord (line : Nat) (behindValue : Bool) (input : List Char) :
    Except Fault (Token × List Char) :=
  match readNumber? input with
  | some (value, rest) => .ok (.number value (input.take (input.length - rest.length)), rest)
  | none =>
    match input with
    | [] => .ok (.fileEnd, [])
    | '\n' :: rest => .ok (.lineEnd, rest)
    | '"' :: rest =>
      match takeQuoted '"' false (rest.length + 1) false [] rest with
      | some (text, after) =>
        .ok (.text (unescape (text.length + 1) text) ('"' :: text ++ ['"']), after)
      | none =>
        let shown := String.ofList (rest.takeWhile (· ≠ '\n'))
        faultAt line ("runaway string constant \"" ++ (shown.take 10).toString ++ " ...")
    | c :: rest =>
      if c.isAlpha || c = '_' then
        let name := input.takeWhile fun c => c.isAlphanum || c = '_'
        let after := input.drop name.length
        let text := String.ofList name
        if after.head? = some '(' && !Token.keywords.contains text
            && (Token.builtins.lookup text).isNone then
          .ok (.called text, after)
        else .ok (.name text, after)
      else if c = '/' && !behindValue then
        match takeQuoted '/' true (rest.length + 1) false [] rest with
        | some (text, after) => .ok (.regex text, after)
        | none =>
          let shown := String.ofList (rest.takeWhile (· ≠ '\n'))
          faultAt line ("runaway regular expression /" ++ (shown.take 10).toString ++ " ...")
      else
        match Token.signs.find? fun sign => sign.toList.isPrefixOf input with
        | some sign => .ok (.sign sign, input.drop sign.length)
        | none =>
          .error { text := toString line ++ ": unexpected character '" ++ String.ofList [c] ++ "'" }

/-- Skip blanks and comments, and ends of lines with a backslash in front of them; the number of
those comes with what is left. -/
def skipGaps : Nat → Nat → List Char → Nat × List Char
  | 0, lines, input => (lines, input)
  | fuel + 1, lines, input =>
    match input with
    | '\\' :: '\n' :: rest => skipGaps fuel (lines + 1) rest
    | '#' :: rest => skipGaps fuel lines (rest.dropWhile (· ≠ '\n'))
    | c :: rest =>
      if c = ' ' || c = '\t' || c = '\r' then skipGaps fuel lines rest else (lines, input)
    | [] => (lines, [])

/-- The words of a program. The fuel bounds their number. -/
def readWords : Nat → Nat → Bool → List Char → Except Fault (List Placed)
  | 0, _, _, _ => .ok []
  | fuel + 1, line, behindValue, input => do
    let (lines, rest) := skipGaps (input.length + 1) 0 input
    let line := line + lines
    let (token, rest) ← readWord line behindValue rest
    match token with
    | .fileEnd => return [⟨.fileEnd, line⟩]
    | _ => do
      let next := if token == .lineEnd then line + 1 else line
      let more ← readWords fuel next token.endsValue rest
      return ⟨token, line⟩ :: more

/-- The words of a program, which ends with the end of a line. -/
def words (program : List Char) : Except Fault (List Placed) :=
  readWords (program.length + 2) 1 false (program ++ ['\n'])

end Metamorph.Sandbox.Records
