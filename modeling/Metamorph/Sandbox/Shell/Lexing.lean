import Metamorph.Sandbox.Shell.Syntax
import Metamorph.Sandbox.Text
import Metamorph.Text.Basic

/-! # From texts to words

The text of a script is cut into words and signs. -/

namespace Metamorph.Sandbox.Shell

/-! ## Words and signs of a script

What the text of a script is cut into before its statements are put together, and the words in
which a shell tells of a text that is no script. -/

/-- A word or a sign of a script. -/
inductive Token where
  | word (pieces : Word)
  /-- A word that opens, parts or ends a statement. -/
  | keyword (name : String)
  | sign (text : String)
  /-- The sign of a redirection with its stream. -/
  | redirect (stream : Nat) (mode : RedirectMode)
  /-- The sign of a redirection of both output streams. -/
  | redirectBoth (mode : RedirectMode)
  /-- The sign of a redirection that reads a text of the script; tabs in front of its lines may
  be left out. -/
  | hereText (stream : Nat) (stripped : Bool)
  /-- The sign of a redirection that reads a word. -/
  | hereWord (stream : Nat)
  | newline
  /-- The end of the script. -/
  | ending

/-- The words that are keywords of both dialects. -/
def keywords : List String :=
  ["!", "case", "do", "done", "elif", "else", "esac", "fi", "for", "if", "in", "then", "until",
    "while", "\x7b", "\x7d"]

/-- The words that are keywords of the rich dialect only. -/
def richKeywords : List String :=
  ["[[", "function", "time", "select", "coproc"]

/-- The text of a word that has no quotes and nothing to expand. -/
def plainText? : Word → Option String
  | [.literal false text] => some (String.ofList text)
  | _ => none

namespace Token

/-- Whether a token is a sign with the given text. -/
def isSign (text : String) : Token → Bool
  | .sign other => other = text
  | _ => false

/-- Whether a token is a keyword with the given name. -/
def isKeyword (name : String) : Token → Bool
  | .keyword other => other = name
  | _ => false

/-- Whether a token ends the line. -/
def isNewline : Token → Bool
  | .newline => true
  | _ => false

/-- Whether a list of statements that has begun ends before a token. -/
def endsList : Token → Bool
  | .ending => true
  | .sign text => [")", ";;", ";&", ";;&"].contains text
  | .keyword name => ["do", "done", "elif", "else", "esac", "fi", "then", "\x7d"].contains name
  | _ => false

/-- How messages of the plain shell call a token. -/
def label : Token → String
  | .word _ => "word"
  | .keyword name => "\"" ++ name ++ "\""
  | .sign text => "\"" ++ text ++ "\""
  | .redirect _ _ => "redirection"
  | .redirectBoth _ => "redirection"
  | .hereText _ _ => "redirection"
  | .hereWord _ => "redirection"
  | .newline => "newline"
  | .ending => "end of file"

/-- The text of a token as messages of the rich shell show it. -/
def shown : Token → String
  | .word pieces => (plainText? pieces).getD "word"
  | .keyword name => name
  | .sign text => text
  | .redirect _ .read => "<"
  | .redirect _ _ => ">"
  | .redirectBoth _ => "&>"
  | .hereText _ _ => "<<"
  | .hereWord _ => "<<<"
  | .newline => "newline"
  | .ending => "EOF"

end Token

/-- How a text fails to be a script. -/
inductive SyntaxFault where
  /-- A token stands where it must not, or where another one is wanted. -/
  | unexpected (found : Token) (wanted : Option String)
  | unterminated (quote : Char)
  | unclosed (bracket : String)
  | other (text : String)

namespace SyntaxFault

/-- The message of the plain shell, which is cut off after some characters. -/
def plainMessage : SyntaxFault → String
  | .unexpected found none => (found.label ++ " unexpected").take 63 |>.toString
  | .unexpected found (some wanted) =>
    (found.label ++ " unexpected (expecting " ++ wanted ++ ")").take 63 |>.toString
  | .unterminated quote =>
    if quote = Char.ofNat 0x60 then "EOF in backquote substitution"
    else "Unterminated quoted string"
  | .unclosed bracket => "Missing '" ++ bracket ++ "'"
  | .other text => text

/-- The message of the rich shell. -/
def richMessage : SyntaxFault → String
  | .unexpected .ending _ => "syntax error: unexpected end of file"
  | .unexpected found _ => "syntax error near unexpected token " ++ quoted found.shown
  | .unterminated quote =>
    "unexpected EOF while looking for matching " ++ quoted (String.ofList [quote])
  | .unclosed bracket => "unexpected EOF while looking for matching " ++ quoted bracket
  | .other text => text
where
  quoted (text : String) : String := String.ofList [Char.ofNat 0x60] ++ text ++ "'"

end SyntaxFault

/-! ## Cutting scripts into tokens

The state of a reader of scripts, which knows the line it is on, and the parts of its work that
need no grammar: characters, names, signs and the lines of texts that stand in a script. -/

/-- A text of the script that a redirection has announced, and that begins on the next line. -/
structure HereRequest where
  number : Nat
  delimiter : List Char
  quoted : Bool
  stripped : Bool

/-- Another name of a command that was replaced in a script by what it stands for. -/
structure Replacement where
  name : String
  /-- How much of the script is left behind the text that was put in. -/
  left : Nat
  /-- Whether that text ends in a blank, and so the next word may be such a name as well. -/
  goesOn : Bool

/-- How far a script has been read. -/
structure ReadState where
  rest : List Char
  dialect : Dialect := .plain
  line : Nat := 1
  /-- A token that was looked at and put back. -/
  pushed : Option Token := none
  requests : List HereRequest := []
  /-- The texts of the script by their numbers. -/
  texts : List (Nat × Word) := []
  /-- The number of the next text. -/
  nextNumber : Nat := 0
  /-- Other names of commands, and those that are being replaced. -/
  aliases : List (String × String) := []
  replacements : List Replacement := []
  /-- Whether the next word may be another name of a command, wherever it stands. -/
  mayBeAlias : Bool := false

/-- A step of reading a script. It may fail on a line. -/
abbrev Reading := StateT ReadState (Except (Nat × SyntaxFault))

namespace Reading

/-- Fail on the line that is being read. -/
def fail {α : Type} (fault : SyntaxFault) : Reading α := do
  throw ((← get).line, fault)

/-- Put a token back. -/
def push (token : Token) : Reading Unit :=
  modify fun state => { state with pushed := some token }

/-- Move past some characters. -/
def advance (count : Nat) : Reading Unit :=
  modify fun state =>
    { state with
      rest := state.rest.drop count
      line := state.line + (state.rest.take count).count '\n' }

/-- The number of line ends that a text begins with and a backslash takes away, and what
follows them. -/
def dropJoins : List Char → Nat × List Char
  | '\\' :: '\n' :: rest => ((dropJoins rest).1 + 1, (dropJoins rest).2)
  | rest => (0, rest)

/-- Move past line ends that a backslash takes away. -/
def skipJoins : Reading Unit :=
  modify fun state =>
    let (count, rest) := dropJoins state.rest
    { state with rest := rest, line := state.line + count }

/-- Take note of replaced names whose texts have been read. -/
def leaveReplacements : Reading Unit :=
  modify fun state =>
    if state.replacements.isEmpty then state
    else
      let length := state.rest.length
      let (finished, others) := state.replacements.partition fun entry => length ≤ entry.left
      { state with
        replacements := others, mayBeAlias := state.mayBeAlias || finished.any (·.goesOn) }

/-- Replace a word that was just read by what it stands for, if it is another name of a command
that is not being replaced already. -/
def replaceName (name : String) : Reading Bool := do
  let state ← get
  match state.aliases.lookup name with
  | none => return false
  | some value =>
    if state.replacements.any fun entry => entry.name = name then return false
    else
      let goesOn := value.endsWith " " || value.endsWith "\t"
      set { state with
        rest := value.toList ++ state.rest
        replacements := ⟨name, state.rest.length, goesOn⟩ :: state.replacements }
      return true

/-- The characters that have not been read yet. -/
def remaining : Reading (List Char) := do
  return (← get).rest

/-- Whether the script is in the rich dialect. -/
def isRich : Reading Bool := do
  return (← get).dialect = .rich

/-- Read a part of a script that stands in a text of its own. -/
def within {α : Type} (text : List Char) (read : Reading α) : Reading α := do
  let before ← get
  set { before with rest := text, pushed := none, requests := [], replacements := [] }
  let a ← read
  modify fun state =>
    { state with
      rest := before.rest, pushed := before.pushed, requests := before.requests
      line := before.line, replacements := before.replacements }
  return a

end Reading

/-- The builtin commands that are part of the language: their failure ends a plain script. -/
def specialBuiltins : List String :=
  [".", ":", "break", "continue", "eval", "exec", "exit", "export", "local", "readonly", "return",
    "set", "shift", "times", "trap", "unset"]

/-- Whether a character can begin a name. -/
def beginsName (c : Char) : Bool :=
  c.isAlpha || c = '_'

/-- Whether a character can be part of a name. -/
def isNameChar (c : Char) : Bool :=
  c.isAlphanum || c = '_'

/-- Whether a text is a name. -/
def isName : List Char → Bool
  | [] => false
  | c :: rest => beginsName c && rest.all isNameChar

/-- The characters that stand for a value of the shell itself. -/
def specialNames : List Char := ['@', '*', '#', '?', '-', '$', '!']

/-- The back quote. -/
def backquote : Char := Char.ofNat 0x60

/-- Whether an unquoted character ends a word. -/
def endsWord (c : Char) : Bool :=
  [' ', '\t', '\n', ';', '&', '|', '<', '>', '(', ')'].contains c

/-- The signs of a dialect; of two that fit, the first one counts. -/
def signs : Dialect → List String
  | .plain => ["&&", "&", "||", "|", ";;", ";", "(", ")"]
  | .rich => ["&&", "&", "||", "|&", "|", ";;&", ";;", ";&", ";", "(", ")"]

/-- The signs of redirections that both dialects know, and what they mean for a stream. -/
def plainRedirections : List (String × (Nat → Token)) :=
  [("<<-", fun n => .hereText n true), ("<<", fun n => .hereText n false),
    ("<&", fun n => .redirect n .copy), ("<>", fun n => .redirect n .keep),
    ("<", fun n => .redirect n .read), (">>", fun n => .redirect n .append),
    (">|", fun n => .redirect n .force), (">&", fun n => .redirect n .copy),
    (">", fun n => .redirect n .write)]

/-- The signs of redirections and what they mean for a stream. -/
def redirections : Dialect → List (String × (Nat → Token))
  | .plain => plainRedirections
  | .rich => ("<<<", fun n => .hereWord n) :: plainRedirections

/-- What follows a text that a list of characters begins with. -/
def after? (text : String) (input : List Char) : Option (List Char) :=
  if text.toList.isPrefixOf input then some (input.drop text.length) else none

/-- Read the sign of a redirection, which may have the number of its stream in front. -/
def readRedirection? (dialect : Dialect) (input : List Char) : Option (Token × List Char) :=
  let digits := input.takeWhile Char.isDigit
  let most := if dialect = .rich then 9 else 1
  let rest := input.drop digits.length
  if most < digits.length then none
  else
    (redirections dialect).findSome? fun (sign, token) =>
      (after? sign rest).map fun rest =>
        let usual := if sign.startsWith "<" then 0 else 1
        (token (if digits.isEmpty then usual else (String.ofList digits).toNat?.getD 0), rest)

/-- Read the sign of a redirection of both output streams. -/
def readBoth? (dialect : Dialect) (input : List Char) : Option (Token × List Char) :=
  if dialect = .plain then none
  else
    match after? "&>>" input with
    | some rest => some (.redirectBoth .append, rest)
    | none => (after? "&>" input).map fun rest => (.redirectBoth .write, rest)

/-- Read a sign. -/
def readSign? (dialect : Dialect) (input : List Char) : Option (Token × List Char) :=
  (signs dialect).findSome? fun sign => (after? sign input).map fun rest => (.sign sign, rest)

/-- The text of a word without its quotes, and whether it has any. -/
def unquoted (word : Word) : List Char × Bool :=
  (word.flatMap fun piece => match piece with | .literal _ text => text | _ => [],
    word.any fun piece => match piece with | .literal quoted _ => quoted | _ => false)

/-- Read what stands between back quotes up to the closing one. A backslash keeps its meaning
only before some characters. -/
def readBackquoted? (quoted : Bool) : List Char → Option (List Char × List Char)
  | [] => none
  | '\\' :: c :: rest => do
    let (text, rest) ← readBackquoted? quoted rest
    if c = '\\' || c = '$' || c = backquote || (quoted && c = '"') then return (c :: text, rest)
    else return ('\\' :: c :: text, rest)
  | c :: rest =>
    if c = backquote then some ([], rest)
    else do
      let (text, rest) ← readBackquoted? quoted rest
      return (c :: text, rest)

/-- Read the lines of a text that stands in a script, up to the line with its delimiter. The
end of the script ends it as well. -/
def readHereLines (request : HereRequest) : Nat → List Char → List Char × List Char
  | 0, input => ([], input)
  | _ + 1, [] => ([], [])
  | fuel + 1, input =>
    let input := if request.stripped then input.dropWhile (· = '\t') else input
    let line := input.takeWhile (· ≠ '\n')
    let rest := input.drop (line.length + 1)
    if line = request.delimiter then ([], rest)
    else
      let ended := line.length < input.length
      let (more, rest) := readHereLines request fuel rest
      (line ++ (if ended then ['\n'] else []) ++ more, rest)

/-- Where the value of an assignment begins: the name in front of it and the value's text. In
the rich dialect an index or a plus sign may follow the name. -/
def assigned? (dialect : Dialect) (text : List Char) : Option (String × List Char) :=
  let name := text.takeWhile isNameChar
  let rest := text.drop name.length
  let (index, rest) :=
    match dialect, rest with
    | .rich, '[' :: more =>
      let inner := more.takeWhile (· ≠ ']')
      if inner.length < more.length then ('[' :: inner ++ [']'], more.drop (inner.length + 1))
      else ([], rest)
    | _, _ => ([], rest)
  let (plus, rest) :=
    match dialect, rest with
    | .rich, '+' :: '=' :: more => (['+'], '=' :: more)
    | _, _ => ([], rest)
  match rest with
  | '=' :: value => if isName name then some (String.ofList (name ++ index ++ plus), value) else none
  | _ => none

/-- A word as an assignment. -/
def assignment? (dialect : Dialect) : Word → Option (String × Word)
  | .literal false text :: rest => do
    let (name, value) ← assigned? dialect text
    return (name, if value.isEmpty then rest else .literal false value :: rest)
  | _ => none

/-- The characters of a quoted text with escapes, up to the closing quote. -/
def readEscaped? : Nat → List Char → Option (List Char × List Char)
  | 0, _ => none
  | _ + 1, [] => none
  | fuel + 1, '\\' :: c :: rest => do
    let digits (base most : Nat) (input : List Char) : List Char :=
      (input.take most).takeWhile (isDigitIn base)
    let value (base : Nat) (digits : List Char) : Char :=
      Char.ofNat (valueIn base digits % 256)
    let (text, rest) :=
      match c with
      | 'n' => (['\n'], rest)
      | 't' => (['\t'], rest)
      | 'r' => (['\r'], rest)
      | 'a' => ([Char.ofNat 7], rest)
      | 'b' => ([Char.ofNat 8], rest)
      | 'e' => ([Char.ofNat 27], rest)
      | 'E' => ([Char.ofNat 27], rest)
      | 'f' => ([Char.ofNat 12], rest)
      | 'v' => ([Char.ofNat 11], rest)
      | '\\' => (['\\'], rest)
      | '\'' => (['\''], rest)
      | '"' => (['"'], rest)
      | '?' => (['?'], rest)
      | 'x' =>
        let found := digits 16 2 rest
        if found.isEmpty then (['\\', 'x'], rest) else ([value 16 found], rest.drop found.length)
      | _ =>
        let found := digits 8 3 (c :: rest)
        if found.isEmpty then (['\\', c], rest)
        else ([value 8 found], (c :: rest).drop found.length)
    let (more, rest) ← readEscaped? fuel rest
    return (text ++ more, rest)
  | fuel + 1, c :: rest =>
    if c = '\'' then some ([], rest)
    else do
      let (more, rest) ← readEscaped? fuel rest
      return (c :: more, rest)

end Metamorph.Sandbox.Shell
