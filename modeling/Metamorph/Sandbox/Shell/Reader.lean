import Metamorph.Sandbox.Shell.Lexing

/-! # Reading scripts

A script is read line by line: what stands on the lines that one statement takes is read before
the statement is run, and a fault further down does no harm to it. The fuel bounds the depth of
the reading; every level but a few for each token takes a character. -/

namespace Metamorph.Sandbox.Shell

open Reading

/-- Where the pieces of a word stand. -/
inductive Place where
  | word
  | quotes
  /-- Behind the operator of a value between braces. -/
  | braces (quoted : Bool)
  /-- In a text of the script. -/
  | text
  /-- In an arithmetic expression, inside of so many parentheses. -/
  | arithmetic (depth : Nat)

namespace Place

/-- Whether what stands in a place is quoted. -/
def isQuoted : Place → Bool
  | .word => false
  | .braces quoted => quoted
  | _ => true

/-- Whether a character stands for itself in a place. -/
def isOrdinary (place : Place) (c : Char) : Bool :=
  c ≠ '\\' && c ≠ '$' && c ≠ '"' && c ≠ '\'' && c ≠ backquote
    && match place with
      | .word => !endsWord c
      | .braces _ => c ≠ '\x7d'
      | .arithmetic _ => c ≠ '(' && c ≠ ')'
      | _ => true

/-- Whether a backslash takes the meaning of a character away. -/
def escapes (place : Place) (c : Char) : Bool :=
  !place.isQuoted || c = '\\' || c = '$' || c = backquote
    || (c = '"' && match place with | .text => false | _ => true)
    || (c = '\x7d' && match place with | .braces _ => true | _ => false)

end Place

/-- The cut that the signs behind a name ask for, and what follows them. -/
def cut? : List Char → Option (Cut × List Char)
  | '#' :: '#' :: rest => some (.longestStart, rest)
  | '#' :: rest => some (.shortestStart, rest)
  | '%' :: '%' :: rest => some (.longestEnd, rest)
  | '%' :: rest => some (.shortestEnd, rest)
  | _ => none

/-- The use of a value that the sign behind its name asks for, which takes another word. -/
def usage? (input : List Char) : Option ((Word → Use) × List Char) :=
  let (orEmpty, input) :=
    match input with
    | ':' :: rest => (true, rest)
    | _ => (false, input)
  match input with
  | '-' :: rest => some (.orElse orEmpty, rest)
  | '=' :: rest => some (.orAssign orEmpty, rest)
  | '+' :: rest => some (.instead orEmpty, rest)
  | '?' :: rest => some (.orLeave orEmpty, rest)
  | _ => none

/-- The way letters change that the signs behind a name ask for. -/
def letters? : List Char → Option (Use × List Char)
  | '^' :: '^' :: rest => some (.letters true true, rest)
  | '^' :: rest => some (.letters true false, rest)
  | ',' :: ',' :: rest => some (.letters false true, rest)
  | ',' :: rest => some (.letters false false, rest)
  | _ => none

/-- Which matches are replaced, by the signs behind a slash. -/
def replaced : List Char → Replaced × List Char
  | '/' :: rest => (.every, rest)
  | '#' :: rest => (.atStart, rest)
  | '%' :: rest => (.atEnd, rest)
  | rest => (.first, rest)

/-- Part a word at the first unquoted occurrence of a character. -/
def splitWord (c : Char) : Word → Word × Option Word
  | [] => ([], none)
  | .literal false text :: rest =>
    let before := text.takeWhile (· ≠ c)
    if before.length < text.length then
      ((if before.isEmpty then [] else [.literal false before]),
        some (.literal false (text.drop (before.length + 1)) :: rest))
    else
      let (first, second) := splitWord c rest
      (.literal false text :: first, second)
  | piece :: rest =>
    let (first, second) := splitWord c rest
    (piece :: first, second)

/-- A word whose literal pieces are not quoted. -/
def unquotedWord (word : Word) : Word :=
  word.map fun piece =>
    match piece with
    | .literal _ text => .literal false text
    | piece => piece

/-- The name that a value between braces begins with: that of a variable, perhaps with an
index, the number of an argument, or the sign of a value of the shell. -/
def readName? (dialect : Dialect) (input : List Char) : Option (String × List Char) :=
  match input with
  | [] => none
  | c :: rest =>
    if beginsName c then
      let name := input.takeWhile isNameChar
      let after := input.drop name.length
      match dialect, after with
      | .rich, '[' :: more =>
        let inner := more.takeWhile (· ≠ ']')
        some (String.ofList (name ++ '[' :: inner ++ [']']), more.drop (inner.length + 1))
      | _, _ => some (String.ofList name, after)
    else if c.isDigit then
      let digits := input.takeWhile Char.isDigit
      some (String.ofList digits, input.drop digits.length)
    else if specialNames.contains c then some (String.ofList [c], rest)
    else none

/-- What a token may be where one is read. -/
structure Wanted where
  /-- Newlines before it are skipped. -/
  newlines : Bool := false
  /-- A word may be a keyword. -/
  keywords : Bool := false
  /-- A word may be another name of a command. -/
  aliases : Bool := false

namespace Wanted

/-- Whatever comes next. -/
def next : Wanted := {}

/-- Whatever comes on this line or on a later one. -/
def later : Wanted := { newlines := true }

/-- The start of a command. -/
def start : Wanted := { keywords := true, aliases := true }

/-- The start of a command on this line or on a later one. -/
def anywhere : Wanted := { newlines := true, keywords := true, aliases := true }

/-- The start of a case. -/
def ofCase : Wanted := { newlines := true, keywords := true }

end Wanted

/-- Whether a list of statements may be empty. -/
inductive Fullness where
  | mayBeEmpty
  | mustBeFull
  deriving DecidableEq

mutual
/-- Read a token. -/
def lexToken : Nat → Reading Token
  | 0 => fail (.other "too deep")
  | fuel + 1 => do
    skipJoins
    leaveReplacements
    let input ← remaining
    let dialect := (← get).dialect
    match input with
    | [] => return .ending
    | c :: _ =>
      if c = ' ' || c = '\t' then
        advance (input.takeWhile fun c => c = ' ' || c = '\t').length
        lexToken fuel
      else if c = '#' then
        advance (input.takeWhile (· ≠ '\n')).length
        lexToken fuel
      else if c = '\n' then
        advance 1
        return .newline
      else if dialect = .rich && (after? "<(" input).isSome then
        return .word (← readPieces fuel .word)
      else
        match (readBoth? dialect input).or
            ((readRedirection? dialect input).or (readSign? dialect input)) with
        | some (token, rest) =>
          advance (input.length - rest.length)
          return token
        | none => return .word (← readPieces fuel .word)

/-- Read a token, the one that was put back first. -/
def token : Nat → Wanted → Reading Token
  | 0, _ => fail (.other "too deep")
  | fuel + 1, wanted => do
    let found ←
      match (← get).pushed with
      | some found => do
        modify fun state => { state with pushed := none }
        pure found
      | none => lexToken fuel
    let anyAlias := (← get).mayBeAlias
    modify fun state => { state with mayBeAlias := false }
    match found with
    | .newline =>
      if wanted.newlines then
        readHereTexts fuel
        token fuel wanted
      else return .newline
    | .word pieces =>
      match plainText? pieces with
      | some text => do
        let known := if ← isRich then keywords ++ richKeywords else keywords
        if wanted.keywords && known.contains text then return .keyword text
        else if wanted.aliases || anyAlias then
          if ← replaceName text then token fuel wanted else return found
        else return found
      | none => return found
    | _ => return found

/-- Read the texts that redirections have announced. -/
def readHereTexts : Nat → Reading Unit
  | 0 => fail (.other "too deep")
  | fuel + 1 => do
    match (← get).requests with
    | [] => pure ()
    | request :: others => do
      let input ← remaining
      let (text, rest) := readHereLines request (input.length + 1) input
      let word ←
        if request.quoted then pure [.literal true text]
        else within text (readPieces fuel .text)
      advance (input.length - rest.length)
      modify fun state =>
        { state with texts := (request.number, word) :: state.texts, requests := others }
      readHereTexts fuel

/-- Read the pieces of a word up to the end of the place it stands in. -/
def readPieces : Nat → Place → Reading Word
  | 0, _ => fail (.other "too deep")
  | fuel + 1, place => do
    skipJoins
    let input ← remaining
    let quoted := place.isQuoted
    match input with
    | [] =>
      match place with
      | .word => return []
      | .text => return []
      | .quotes => fail (.unterminated '"')
      | .braces _ => fail (.unclosed "\x7d")
      | .arithmetic _ => fail (.unclosed "))")
    | c :: rest =>
      let plain := input.takeWhile place.isOrdinary
      if !plain.isEmpty then
        advance plain.length
        return .literal quoted plain :: (← readPieces fuel place)
      else
        let single (text : List Char) (place : Place) : Reading Word := do
          advance text.length
          return .literal quoted text :: (← readPieces fuel place)
        match place, c, rest with
        | .quotes, '"', _ => do
          advance 1
          return []
        | .braces _, '\x7d', _ => do
          advance 1
          return []
        | .arithmetic 0, ')', ')' :: _ => do
          advance 2
          return []
        | .arithmetic depth, '(', _ => single ['('] (.arithmetic (depth + 1))
        | .arithmetic depth, ')', _ => single [')'] (.arithmetic (depth - 1))
        | .arithmetic _, '"', _ => do
          advance 1
          readPieces fuel place
        | .text, '"', _ => single ['"'] place
        | _, _, _ =>
          if c = '\\' then
            match rest with
            | [] => single ['\\'] place
            | d :: _ => do
              advance 2
              let text := if place.escapes d then [d] else ['\\', d]
              return .literal true text :: (← readPieces fuel place)
          else if c = '"' then do
            advance 1
            let pieces ← readPieces fuel .quotes
            let pieces := if pieces.isEmpty then [.literal true []] else pieces
            return pieces ++ (← readPieces fuel place)
          else if c = '\'' && !quoted then do
            let text := rest.takeWhile (· ≠ '\'')
            if text.length = rest.length then
              advance input.length
              fail (.unterminated '\'')
            else
              advance (text.length + 2)
              return .literal true text :: (← readPieces fuel place)
          else if c = backquote then do
            match readBackquoted? quoted rest with
            | none => fail (.unterminated backquote)
            | some (text, after) => do
              let script ← within text (readStatements fuel .mayBeEmpty)
              advance (input.length - after.length)
              return .output quoted script :: (← readPieces fuel place)
          else if c = '$' then do
            match ← readDollar fuel quoted with
            | some piece => return piece :: (← readPieces fuel place)
            | none => single ['$'] place
          else if c = '<' && (after? "<(" input).isSome && (← isRich) then do
            advance 2
            let script ← readNested fuel
            return .outputFile script :: (← readPieces fuel place)
          else
            -- The end of a word, or a quote that means nothing here.
            match place with
            | .word => return []
            | _ => single [c] place

/-- Read the statements up to a closing parenthesis. -/
def readNested : Nat → Reading Script
  | 0 => fail (.other "too deep")
  | fuel + 1 => do
    let requests := (← get).requests
    modify fun state => { state with requests := [] }
    let script ← readStatements fuel .mayBeEmpty
    let found ← token fuel .next
    if !found.isSign ")" then fail (.unexpected found (some "\")\""))
    modify fun state => { state with requests := requests }
    return script

/-- Read what begins with a dollar sign, which stands for itself if nothing fits. -/
def readDollar : Nat → Bool → Reading (Option Piece)
  | 0, _ => fail (.other "too deep")
  | fuel + 1, quoted => do
    let input := (← remaining).drop 1
    let rich ← isRich
    match input with
    | '(' :: '(' :: _ => do
      advance 3
      return some (.arithmetic quoted (← readPieces fuel (.arithmetic 0)))
    | '(' :: _ => do
      advance 2
      return some (.output quoted (← readNested fuel))
    | '\x7b' :: _ => do
      advance 2
      skipJoins
      return some (← readBraces fuel quoted)
    | '\'' :: rest =>
      if rich && !quoted then
        match readEscaped? (rest.length + 1) rest with
        | some (text, after) => do
          advance (rest.length + 2 - after.length)
          return some (.literal true text)
        | none => fail (.unterminated '\'')
      else return none
    | c :: _ =>
      if beginsName c then
        let name := input.takeWhile isNameChar
        advance (name.length + 1)
        return some (.value quoted (String.ofList name) .plain)
      else if c.isDigit || specialNames.contains c then
        advance 2
        return some (.value quoted (String.ofList [c]) .plain)
      else return none
    | [] => return none

/-- Read a value between braces behind the opening one. -/
def readBraces : Nat → Bool → Reading Piece
  | 0, _ => fail (.other "too deep")
  | fuel + 1, quoted => do
    let input ← remaining
    let dialect := (← get).dialect
    let unknown : Reading Piece := do
      let _ ← readPieces fuel (.braces quoted)
      return .value quoted "" .unknown
    let lengthOf : Option (String × List Char) :=
      match input with
      | '#' :: rest =>
        match readName? dialect rest with
        | some (name, '\x7d' :: after) => some (name, after)
        | _ => none
      | _ => none
    let named : Option (String × List Char) :=
      match dialect, input with
      | .rich, '!' :: rest =>
        match readName? dialect rest with
        | some (name, '\x7d' :: after) => if isName (name.toList.take 1) then some (name, after) else none
        | _ => none
      | _, _ => none
    match lengthOf, named, readName? dialect input with
    | some (name, after), _, _ => do
      advance (input.length - after.length)
      return .value quoted name .length
    | none, some (name, after), _ => do
      advance (input.length - after.length)
      if name.endsWith "[@]" || name.endsWith "[*]" then return .value quoted name .indices
      else return .value quoted name .named
    | none, none, none => unknown
    | none, none, some (name, after) => do
      advance (input.length - after.length)
      match after with
      | '\x7d' :: _ => do
        advance 1
        return .value quoted name .plain
      | _ =>
        match cut? after, usage? after with
        | some (how, rest), _ => do
          advance (after.length - rest.length)
          return .value quoted name (.cut how (← readPieces fuel (.braces false)))
        | none, some (use, rest) => do
          advance (after.length - rest.length)
          return .value quoted name (use (← readPieces fuel (.braces quoted)))
        | none, none =>
          if dialect = .plain then unknown
          else
            match letters? after, after with
            | some (use, '\x7d' :: rest), _ => do
              advance (after.length - rest.length)
              return .value quoted name use
            | _, '/' :: rest => do
              let (which, rest) := replaced rest
              advance (after.length - rest.length)
              let (pattern, word) := splitWord '/' (← readPieces fuel (.braces false))
              return .value quoted name (.replace which pattern (word.getD []))
            | _, ':' :: _ => do
              advance 1
              let (start, length) := splitWord ':' (← readPieces fuel (.braces false))
              return .value quoted name (.slice start length)
            | _, _ => unknown

/-- Read statements over any number of lines. -/
def readStatements : Nat → Fullness → Reading Script
  | 0, _ => fail (.other "too deep")
  | fuel + 1, fullness => do
    let next ← token fuel .anywhere
    match next with
    | .ending => do
      readHereTexts fuel
      push next
      return []
    | _ => do
      push next
      if fullness = .mayBeEmpty && next.endsList then return []
      else
        let statement ← readAndOr fuel
        let next ← token fuel .next
        match next with
        | .sign "&" => return .background statement :: (← readStatements fuel .mayBeEmpty)
        | .sign ";" => return statement :: (← readStatements fuel .mayBeEmpty)
        | .newline => do
          push next
          return statement :: (← readStatements fuel .mayBeEmpty)
        | .ending => do
          readHereTexts fuel
          push next
          return [statement]
        | _ => do
          push next
          return [statement]

/-- Read the statements of one line. There are none at the end of the script. -/
def readLine : Nat → Bool → Reading (Option Script)
  | 0, _ => fail (.other "too deep")
  | fuel + 1, begun => do
    let next ← token fuel .start
    match next with
    | .newline => do
      readHereTexts fuel
      return some []
    | .ending => do
      readHereTexts fuel
      push next
      return if begun then some [] else none
    | _ => do
      push next
      let statement ← readAndOr fuel
      let next ← token fuel .next
      match next with
      | .sign "&" => return some (.background statement :: ((← readLine fuel true).getD []))
      | .sign ";" => return some (statement :: ((← readLine fuel true).getD []))
      | .newline => do
        readHereTexts fuel
        return some [statement]
      | .ending => do
        readHereTexts fuel
        push next
        return some [statement]
      | _ => fail (.unexpected next none)

/-- Read pipelines that depend on each other. -/
def readAndOr : Nat → Reading Statement
  | 0 => fail (.other "too deep")
  | fuel + 1 => do readAlternatives fuel (← readPipeline fuel false)

/-- Go on with pipelines that depend on a statement. -/
def readAlternatives : Nat → Statement → Reading Statement
  | 0, _ => fail (.other "too deep")
  | fuel + 1, first => do
    let next ← token fuel .next
    match next with
    | .sign "&&" => do readAlternatives fuel (.andThen first (← readPipeline fuel true))
    | .sign "||" => do readAlternatives fuel (.orElse first (← readPipeline fuel true))
    | _ => do
      push next
      return first

/-- Read a pipeline, which may be negated. It may begin on a later line if a sign has announced
it. -/
def readPipeline : Nat → Bool → Reading Statement
  | 0, _ => fail (.other "too deep")
  | fuel + 1, announced => do
    let next ← token fuel (if announced then .anywhere else .next)
    match next with
    | .keyword "!" => do
      if ← isRich then return .negated (← readPipeline fuel true)
      else return .negated (← readStages fuel true)
    | .keyword "time" => return .timed (← readPipeline fuel true)
    | _ => do
      push next
      readStages fuel false

/-- Read commands with bars between them. -/
def readStages : Nat → Bool → Reading Statement
  | 0, _ => fail (.other "too deep")
  | fuel + 1, names => do
    let first ← readCommand fuel false names
    match ← readBars fuel first with
    | [stage] => return stage
    | stages => return .pipeline stages

/-- Go on with the commands behind a bar. -/
def readBars : Nat → Statement → Reading (List Statement)
  | 0, _ => fail (.other "too deep")
  | fuel + 1, first => do
    let line := (← get).line
    let next ← token fuel .next
    match next with
    | .sign "|" => do
      let second ← readCommand fuel true true
      return first :: (← readBars fuel second)
    | .sign "|&" => do
      let second ← readCommand fuel true true
      let first := .redirected line first [.file 2 .copy [.literal false ['1']]]
      return first :: (← readBars fuel second)
    | _ => do
      push next
      return [first]

/-- Read one command with its redirections. -/
def readCommand : Nat → Bool → Bool → Reading Statement
  | 0, _, _ => fail (.other "too deep")
  | fuel + 1, newlines, names => do
    let next ← token fuel { newlines, keywords := names, aliases := names }
    let line := (← get).line
    let closed (body : Statement) (last : String) : Reading Statement := do
      let found ← token fuel .next
      let label := "\"" ++ last ++ "\""
      if found.isKeyword last || found.isSign last then withRedirects fuel line body
      else fail (.unexpected found (some label))
    match next with
    | .keyword "if" => do closed (← readChoice fuel) "fi"
    | .keyword "while" => do closed (← readLoop fuel true) "done"
    | .keyword "until" => do closed (← readLoop fuel false) "done"
    | .keyword "for" => do closed (← readEach fuel) "done"
    | .keyword "select" => do closed (← readEach fuel) "done"
    | .keyword "case" => do withRedirects fuel line (← readSelect fuel line)
    | .keyword "\x7b" => do closed (.group (← readStatements fuel .mustBeFull)) "\x7d"
    | .keyword "[[" => do
      let condition ← readEither fuel
      let found ← token fuel .next
      match found with
      | .word [.literal false [']', ']']] => withRedirects fuel line (.test line condition)
      | _ => fail (.unexpected found none)
    | .keyword "function" => do
      let found ← token fuel .next
      match found with
      | .word pieces => do
        let found ← token fuel .next
        if found.isSign "(" then
          let _ ← token fuel .next
        else push found
        return .define (String.ofList (unquoted pieces).1) (← readCommand fuel true true)
      | _ => fail (.unexpected found none)
    | .sign "(" => do
      if (← isRich) && (← remaining).head? = some '(' then
        advance 1
        withRedirects fuel line (.evaluate line (← readPieces fuel (.arithmetic 0)))
      else closed (.subshell (← readStatements fuel .mustBeFull)) ")"
    | .word _ => do
      push next
      readSimple fuel line
    | .redirect _ _ => do
      push next
      readSimple fuel line
    | .redirectBoth _ => do
      push next
      readSimple fuel line
    | .hereText _ _ => do
      push next
      readSimple fuel line
    | .hereWord _ => do
      push next
      readSimple fuel line
    | _ => fail (.unexpected next none)

/-- Put the redirections that follow around a statement. -/
def withRedirects : Nat → Nat → Statement → Reading Statement
  | 0, _, _ => fail (.other "too deep")
  | fuel + 1, line, body => do
    match ← readRedirects fuel with
    | [] => return body
    | redirects => return .redirected line body redirects

/-- Read redirections. -/
def readRedirects : Nat → Reading (List Redirect)
  | 0 => fail (.other "too deep")
  | fuel + 1 => do
    let next ← token fuel .start
    match ← readRedirect fuel next with
    | some redirects => return redirects ++ (← readRedirects fuel)
    | none => do
      push next
      return []

/-- Read what a redirection goes to, if the token is the sign of one. -/
def readRedirect : Nat → Token → Reading (Option (List Redirect))
  | 0, _ => fail (.other "too deep")
  | fuel + 1, sign => do
    let target : Reading Word := do
      let found ← token fuel .next
      match found with
      | .word pieces => return pieces
      | _ => fail (.unexpected found none)
    match sign with
    | .redirect stream mode => do
      return some [.file stream mode (← target)]
    | .redirectBoth mode => do
      let word ← target
      return some [.file 1 mode word, .file 2 .copy [.literal false ['1']]]
    | .hereText stream stripped => do
      let (delimiter, quoted) := unquoted (← target)
      let number := (← get).nextNumber
      modify fun state =>
        { state with
          nextNumber := number + 1
          requests := state.requests ++ [⟨number, delimiter, quoted, stripped⟩] }
      return some [.text stream number]
    | .hereWord stream => return some [.word stream (← target)]
    | _ => return none

/-- Read the assignments, words and redirections of a simple command. -/
def readSimple : Nat → Nat → Reading Statement
  | 0, _ => fail (.other "too deep")
  | fuel + 1, line => do
    let (assignments, words, redirects) ← readParts fuel false
    let next ← token fuel .next
    match next.isSign "(", assignments, words, redirects with
    | true, [], [word], [] => do
      let found ← token fuel .next
      if !found.isSign ")" then fail (.unexpected found (some "\")\""))
      match plainText? word with
      | some name =>
        let isFree := isName name.toList && !specialBuiltins.contains name
        if isFree || (← isRich) then return .define name (← readCommand fuel true true)
        else fail (.other "Bad function name")
      | none => fail (.other "Bad function name")
    | _, _, _, _ => do
      push next
      return .simple line assignments words redirects

/-- Read the parts of a simple command; behind its first word there are no assignments. -/
def readParts : Nat → Bool →
    Reading (List (String × Word) × List Word × List Redirect)
  | 0, _ => fail (.other "too deep")
  | fuel + 1, named => do
    let next ← token fuel { aliases := !named }
    match next with
    | .word pieces => do
      let dialect := (← get).dialect
      match if named then none else assignment? dialect pieces with
      | some (name, value) => do
        let value ← readItems fuel value
        let (assignments, words, redirects) ← readParts fuel false
        return ((name, value) :: assignments, words, redirects)
      | none => do
        let (assignments, words, redirects) ← readParts fuel true
        return (assignments, pieces :: words, redirects)
    | _ =>
      match ← readRedirect fuel next with
      | some found => do
        let (assignments, words, redirects) ← readParts fuel named
        return (assignments, words, found ++ redirects)
      | none => do
        push next
        return ([], [], [])

/-- Read the items of an array, if the value of an assignment is one. -/
def readItems : Nat → Word → Reading Word
  | 0, _ => fail (.other "too deep")
  | fuel + 1, value => do
    if value.isEmpty && (← isRich) && (← remaining).head? = some '(' then
      advance 1
      return [.items (← readWords fuel true)]
    else return value

/-- Read words, for an array up to the closing parenthesis and over any number of lines, or
else up to the end of the statement. -/
def readWords : Nat → Bool → Reading (List Word)
  | 0, _ => fail (.other "too deep")
  | fuel + 1, closed => do
    let next ← token fuel (if closed then .later else .next)
    match next with
    | .word pieces => return pieces :: (← readWords fuel closed)
    | _ =>
      if closed then
        if next.isSign ")" then return [] else fail (.unexpected next none)
      else if next.isNewline || next.isSign ";" then return []
      else fail (.unexpected next none)

/-- Read a choice behind its first keyword. -/
def readChoice : Nat → Reading Statement
  | 0 => fail (.other "too deep")
  | fuel + 1 => do
    let condition ← readStatements fuel .mustBeFull
    let found ← token fuel .next
    if !found.isKeyword "then" then fail (.unexpected found (some "\"then\""))
    let yes ← readStatements fuel .mustBeFull
    let found ← token fuel .next
    match found with
    | .keyword "elif" => return .choose condition yes [← readChoice fuel]
    | .keyword "else" => return .choose condition yes (← readStatements fuel .mustBeFull)
    | _ => do
      push found
      return .choose condition yes []

/-- Read a loop behind its first keyword, up to its last one. -/
def readLoop : Nat → Bool → Reading Statement
  | 0, _ => fail (.other "too deep")
  | fuel + 1, expected => do
    let condition ← readStatements fuel .mustBeFull
    return .loop expected condition (← readBody fuel)

/-- Read the body of a loop behind its condition or its words. -/
def readBody : Nat → Reading Script
  | 0 => fail (.other "too deep")
  | fuel + 1 => do
    let found ← token fuel .anywhere
    if !found.isKeyword "do" then fail (.unexpected found (some "\"do\""))
    readStatements fuel .mustBeFull

/-- Read a loop over words behind its first keyword, or in the rich dialect one that counts. -/
def readEach : Nat → Reading Statement
  | 0 => fail (.other "too deep")
  | fuel + 1 => do
    let found ← token fuel .next
    let line := (← get).line
    match found with
    | .word pieces => do
      let name := (plainText? pieces).getD ""
      if !isName name.toList then fail (.other "Bad for loop variable")
      let found ← token fuel .anywhere
      match found with
      | .keyword "in" => do
        let words ← readWords fuel false
        return .each line name (some words) (← readBody fuel)
      | _ => do
        if !found.isSign ";" then push found
        return .each line name none (← readBody fuel)
    | .sign "(" => do
      if !(← isRich) then fail (.other "Bad for loop variable")
      advance 1
      let (start, rest) := splitWord ';' (unquotedWord (← readPieces fuel (.arithmetic 0)))
      let (condition, step) := splitWord ';' (rest.getD [])
      let found ← token fuel .anywhere
      if !found.isSign ";" then push found
      return .count line start condition (step.getD []) (← readBody fuel)
    | _ => fail (.other "Bad for loop variable")

/-- Read a selection behind its first keyword, up to its last one. -/
def readSelect : Nat → Nat → Reading Statement
  | 0, _ => fail (.other "too deep")
  | fuel + 1, line => do
    let found ← token fuel .next
    match found with
    | .word word => do
      let found ← token fuel .anywhere
      if !found.isKeyword "in" then fail (.unexpected found (some "\"in\""))
      return .select line word (← readCases fuel)
    | _ => fail (.unexpected found (some "word"))

/-- Read the cases of a selection up to its last keyword. -/
def readCases : Nat → Reading (List (List Word × Script))
  | 0 => fail (.other "too deep")
  | fuel + 1 => do
    let found ← token fuel .ofCase
    if found.isKeyword "esac" then return []
    else
      let first ← if found.isSign "(" then token fuel .next else pure found
      let patterns ← readPatterns fuel first
      let body ← readStatements fuel .mayBeEmpty
      let found ← token fuel .ofCase
      if found.isKeyword "esac" then return [(patterns, body)]
      else if found.isSign ";;" then return (patterns, body) :: (← readCases fuel)
      else fail (.unexpected found (some "\";;\""))

/-- Read the patterns of a case, the first of which is there, up to the closing parenthesis. -/
def readPatterns : Nat → Token → Reading (List Word)
  | 0, _ => fail (.other "too deep")
  | fuel + 1, first => do
    let pattern : Word :=
      match first with
      | .word pieces => pieces
      | .keyword name => [.literal false name.toList]
      | _ => []
    let found ← token fuel .next
    if found.isSign "|" then
      return pattern :: (← readPatterns fuel (← token fuel .next))
    else if found.isSign ")" then return [pattern]
    else fail (.unexpected found (some "\")\""))

/-- Read conditions between double brackets of which one must hold. -/
def readEither : Nat → Reading Condition
  | 0 => fail (.other "too deep")
  | fuel + 1 => do
    let first ← readBoth fuel
    let next ← token fuel .later
    if next.isSign "||" then return .either first (← readEither fuel)
    else
      push next
      return first

/-- Read conditions between double brackets all of which must hold. -/
def readBoth : Nat → Reading Condition
  | 0 => fail (.other "too deep")
  | fuel + 1 => do
    let first ← readCondition fuel
    let next ← token fuel .later
    if next.isSign "&&" then return .both first (← readBoth fuel)
    else
      push next
      return first

/-- Read a single condition between double brackets. -/
def readCondition : Nat → Reading Condition
  | 0 => fail (.other "too deep")
  | fuel + 1 => do
    let next ← token fuel .later
    match next with
    | .sign "(" => do
      let inner ← readEither fuel
      let found ← token fuel .later
      if found.isSign ")" then return inner else fail (.unexpected found none)
    | .word [.literal false ['!']] => return .negated (← readCondition fuel)
    | .word [.literal false ('-' :: [letter])] => do
      let found ← token fuel .next
      match found with
      | .word [.literal false [']', ']']] => do
        push found
        return .word [.literal false ['-', letter]]
      | .word operand => return .unary (String.ofList ['-', letter]) operand
      | _ => fail (.unexpected found none)
    | .word first => do
      let next ← token fuel .next
      let compared (operator : String) : Reading Condition := do
        if operator = "=~" then return .binary operator first (← readPattern fuel)
        else
          let found ← token fuel .next
          match found with
          | .word second => return .binary operator first second
          | _ => fail (.unexpected found none)
      match next with
      | .redirect _ .read => compared "<"
      | .redirect _ .write => compared ">"
      | .word [.literal false [']', ']']] => do
        push next
        return .word first
      | .word [.literal false sign] => compared (String.ofList sign)
      | _ => do
        push next
        return .word first
    | _ => fail (.unexpected next none)

/-- Read a regular expression between double brackets, in which parentheses and bars mean
nothing to the shell. -/
def readPattern : Nat → Reading Word
  | 0 => fail (.other "too deep")
  | fuel + 1 => do
    let input ← remaining
    match input with
    | [] => return []
    | c :: _ =>
      if c = ' ' || c = '\t' then
        advance 1
        readPattern fuel
      else readPatternPieces fuel

/-- Read the pieces of a regular expression up to a blank. -/
def readPatternPieces : Nat → Reading Word
  | 0 => fail (.other "too deep")
  | fuel + 1 => do
    match (← remaining) with
    | [] => return []
    | c :: _ =>
      if c = ' ' || c = '\t' || c = '\n' then return []
      else if endsWord c then
        advance 1
        return .literal false [c] :: (← readPatternPieces fuel)
      else
        let pieces ← readPieces fuel .word
        return pieces ++ (← readPatternPieces fuel)
end

/-- The fuel that reading a text takes at most. -/
def readingFuel (text : List Char) : Nat :=
  30 * text.length + 100

/-- The fuel that names of commands take at most which are replaced in a text of some length. -/
def replacingFuel (aliases : List (String × String)) (length : Nat) : Nat :=
  let size := aliases.foldl (fun size entry => size + entry.2.length + 1) 0
  30 * size * (aliases.length + 1) * (length + 1)

/-- Read the statements of the next line of a script, with the state behind them. -/
def ReadState.next? (state : ReadState) : Except (Nat × SyntaxFault) (Option Script × ReadState) :=
  let fuel := readingFuel state.rest
    + if state.aliases.isEmpty then 0 else replacingFuel state.aliases state.rest.length
  (readLine fuel false).run state

/-- A text in which only what begins with a dollar sign, a backslash or a backquote has a meaning, as
a word. There is none if something in it is not closed. -/
def wordOfText? (dialect : Dialect) (text : List Char) : Option Word :=
  match (readPieces (readingFuel text) .text).run { rest := text, dialect } with
  | .ok (word, _) => some word
  | .error _ => none

end Metamorph.Sandbox.Shell
