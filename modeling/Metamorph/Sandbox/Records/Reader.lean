import Metamorph.Sandbox.Records.Lexing
import Metamorph.Sandbox.Regex.Reader

/-! # Reading programs over records

From the words of a program to its syntax. -/

namespace Metamorph.Sandbox.Records

/-! ## Steps of reading programs on records

A program is read word by word. While it is read, names turn out to stand for arrays or for single
values, and a name cannot stand for both. -/

/-- How far a program has been read. -/
structure ReadState where
  words : List Placed
  /-- The names of variables outside of functions that are known to be arrays, or not to be. -/
  kinds : List (String × Bool) := []
  /-- The parameters of the function that is read, if one is. -/
  parameters : Option (List String) := none
  /-- What is known of the parameters. -/
  own : List (String × Bool) := []
  /-- How many loops are around the statement that is read. -/
  loops : Nat := 0
  /-- Whether the statement belongs to a rule for records. -/
  inRule : Bool := false
  /-- The number of the next condition that reaches from one record to another one. -/
  ranges : Nat := 0
  /-- The names of all functions that the program defines. -/
  functions : List String := []
  /-- The functions that were called with so many arguments, and in which line; the last call
  stands in front. -/
  calls : List (String × Nat × Nat) := []

/-- A step of reading. -/
abbrev Reading := StateT ReadState (Except Fault)

namespace Reading

/-- The next word with its line. -/
def here : Reading Placed := do
  return (← get).words.headD ⟨.fileEnd, 1⟩

/-- The next word, which is not taken. -/
def peek : Reading Token := do
  return (← here).token

/-- The word behind the next one. -/
def peekBehind : Reading Token := do
  return (((← get).words[1]?).map (·.token)).getD .fileEnd

/-- Take the next word. -/
def skip : Reading Unit :=
  modify fun state => { state with words := state.words.drop 1 }

/-- Fail in the line that has been reached. -/
def fail {α : Type} (text : String) : Reading α := do
  let line := (← here).line
  throw { text := "line " ++ toString line ++ ": " ++ text }

/-- Fail because of the next word. -/
def refuse {α : Type} : Reading α := do
  fail ("syntax error at or near " ++ (← peek).shown)

/-- Whether a sign comes next. -/
def isAt (sign : String) : Reading Bool := do
  return (← peek) == .sign sign

/-- Whether a name comes next. -/
def isAtName (name : String) : Reading Bool := do
  return (← peek) == .name name

/-- Take a sign if it comes next. -/
def takes (sign : String) : Reading Bool := do
  if ← isAt sign then
    skip
    return true
  else return false

/-- Take a sign. -/
def expect (sign : String) : Reading Unit := do
  if !(← takes sign) then refuse

/-- Take a closing parenthesis. -/
def expectClosing : Reading Unit := do
  if !(← takes ")") then fail ("missing ) near " ++ (← peek).shown)

/-- Take ends of lines. -/
def skipLineEnds : Reading Unit :=
  modify fun state => { state with words := state.words.dropWhile (·.token == .lineEnd) }

/-- Take ends of lines and semicolons. -/
def skipSeparators : Reading Unit :=
  modify fun state =>
    { state with
      words := state.words.dropWhile fun word =>
        word.token == .lineEnd || word.token == .sign ";" }

/-- Keep in mind that a function is called with some arguments. -/
def noteCall (name : String) (count : Nat) : Reading Unit := do
  let line := (← here).line
  modify fun state => { state with calls := (name, count, line) :: state.calls }

/-- A name turns out to be an array, or not to be one. -/
def learn (name : String) (isArray : Bool) : Reading Unit := do
  let state ← get
  let isOwn := (state.parameters.getD []).contains name
  let known := if isOwn then state.own else state.kinds
  match known.lookup name with
  | some before =>
    if before ≠ isArray then
      fail ("illegal reference to " ++ (if isOwn then "local " else "")
        ++ (if before then "array " else "variable ") ++ name)
  | none =>
    if isOwn then set { state with own := (name, isArray) :: state.own }
    else set { state with kinds := (name, isArray) :: state.kinds }

/-- The fault of an expression. -/
def regexFault : Regex.Fault → String
  | .openGroup => "missing ')'"
  | .closedGroup => "missing '('"
  | .openBracket => "bad class -- [], [^] or ["
  | .emptyBracket => "bad class -- [], [^] or ["
  | .badClass => "bad class -- [], [^] or ["
  | .nothingRepeated => "missing operand"
  | _ => "bad interval expression"

/-- The characters with a meaning of their own in expressions. -/
def isMeaningful (c : Char) : Bool :=
  ['\\', '.', '*', '+', '?', '[', ']', '(', ')', '|', '^', '$', '\x7b', '\x7d'].contains c

/-- Write an expression so that a backslash only stands in front of signs. -/
def plainRegex : Nat → List Char → List Char
  | 0, _ => []
  | _ + 1, [] => []
  | fuel + 1, '\\' :: c :: rest =>
    if isMeaningful c then '\\' :: c :: plainRegex fuel rest
    else
      match ({} : Escapes).readOne c rest with
      | .plain ['\\', _] _ => c :: plainRegex fuel rest
      | .plain [d] rest => (if isMeaningful d then ['\\', d] else [d]) ++ plainRegex fuel rest
      | _ => c :: plainRegex fuel rest
  | fuel + 1, c :: rest => c :: plainRegex fuel rest

end Reading

/-- Read an expression from its text. -/
def regexOf (text : List Char) : Except Regex.Fault Regex :=
  Regex.read { extended := true } (Reading.plainRegex (text.length + 1) text)

/-- What a text that is no expression is told as. -/
def regexMessage (fault : Regex.Fault) (text : List Char) : String :=
  "regular expression compile failed (" ++ Reading.regexFault fault ++ ")\n" ++ String.ofList text

/-! ## Reading expressions of programs on records

Operators bind more or less tightly: a choice least, then `||`, `&&`, `in`, matching, comparison,
writing side by side, sums, products, signs, reading from a command, powers, and fields. -/

namespace Reading

/-- Where an expression stands: between parentheses, where all operators are allowed, or where the
sign for a greater value leads the output somewhere. -/
structure Place where
  printing : Bool := false

/-- The comparisons by their signs. -/
def comparisons : List (String × Comparison) :=
  [("<", .less), ("<=", .atMost), ("==", .equal), ("!=", .unequal), (">", .greater),
    (">=", .atLeast)]

/-- The calculations that are assigned, by their signs. -/
def updates : List (String × Arithmetic) :=
  [("+=", .add), ("-=", .subtract), ("*=", .multiply), ("/=", .divide), ("%=", .remainder),
    ("^=", .power)]

/-- How many arguments a function may have. -/
def argumentCounts : Builtin → Nat × Nat
  | .length => (0, 1)
  | .substring => (2, 3)
  | .index => (2, 2)
  | .split => (2, 3)
  | .replaceFirst => (2, 3)
  | .replaceAll => (2, 3)
  | .find => (2, 2)
  | .format => (1, 255)
  | .arcTangent => (2, 2)
  | .random => (0, 0)
  | .seed => (0, 1)
  | .flush => (0, 1)
  | .time => (0, 0)
  | _ => (1, 1)

/-- Whether something can be assigned to an expression. -/
def isTarget : Expression → Bool
  | .named _ => true
  | .field _ => true
  | .item _ _ => true
  | _ => false

/-- Whether an expression may begin with a word, so that it is joined with one in front of it. -/
def beginsValue : Token → Bool
  | .number _ _ => true
  | .text _ _ => true
  | .regex _ => true
  | .called _ => true
  | .name found => !Token.keywords.contains found
  | .sign found => ["$", "!", "(", "-", "+", "++", "--"].contains found
  | _ => false

/-- A name that is used as a single value. -/
def single (name : String) : Reading Expression := do
  learn name false
  return .named name

/-- Name what a single value is needed of. -/
def settle (body : Expression) : Reading Expression := do
  match body with
  | .named name => single name
  | _ => return body

/-- An expression that stands for a regular expression, from a word that does. -/
def regexWord (text : List Char) : Reading Expression := do
  match regexOf text with
  | .ok regex => return .regex regex
  | .error fault => fail (regexMessage fault text)

/-- Read the target of a reading, if one follows, with what reads a field. -/
def readTarget? (readField : Reading Expression) (readIndices : Reading (List Expression)) :
    Reading (Option Expression) := do
  match ← peek with
  | .sign "$" => return some (← readField)
  | .name name =>
    if Token.keywords.contains name || (Token.builtins.lookup name).isSome then return none
    else
      skip
      if ← takes "[" then
        learn name true
        return some (.item name (← readIndices))
      else return some (← single name)
  | _ => return none

/-- Read parts that a function reads, from the left to the right, with signs between them. -/
def readChain (next : Reading Expression)
    (sign? : Token → Option (Expression → Expression → Expression)) :
    Nat → Expression → Reading Expression
  | 0, left => return left
  | fuel + 1, left => do
    match sign? (← peek) with
    | none => return left
    | some join => do
      skip
      let left ← settle left
      let right ← settle (← next)
      readChain next sign? fuel (join left right)

mutual
/-- Read an expression. The fuel bounds its depth. -/
def readExpression : Nat → Place → Reading Expression
  | 0, _ => refuse
  | fuel + 1, place => do
    let left ← readChoice fuel place
    if !isTarget left then return left
    else
      match ← peek with
      | .sign sign =>
        if sign = "=" then do
          skip
          let left ← settle left
          return .assign left (← settle (← readExpression fuel place))
        else
          match updates.lookup sign with
          | some how => do
            skip
            let left ← settle left
            return .update how left (← settle (← readExpression fuel place))
          | none => return left
      | _ => return left

/-- Read a choice between two expressions. -/
def readChoice : Nat → Place → Reading Expression
  | 0, _ => refuse
  | fuel + 1, place => do
    let condition ← readEither fuel place
    if ← takes "?" then do
      let condition ← settle condition
      skipLineEnds
      let first ← settle (← readExpression fuel place)
      skipLineEnds
      expect ":"
      skipLineEnds
      return .choice condition first (← settle (← readExpression fuel place))
    else return condition

/-- Read conditions one of which must hold. -/
def readEither : Nat → Place → Reading Expression
  | 0, _ => refuse
  | fuel + 1, place => do
    let next := readBoth fuel place
    let behind : Reading Expression := do
      skipLineEnds
      next
    readChain behind (fun token => if token == .sign "||" then some .either else none) fuel (← next)

/-- Read conditions all of which must hold. -/
def readBoth : Nat → Place → Reading Expression
  | 0, _ => refuse
  | fuel + 1, place => do
    let next := readMembership fuel place
    let behind : Reading Expression := do
      skipLineEnds
      next
    readChain behind (fun token => if token == .sign "&&" then some .both else none) fuel (← next)

/-- Read the question whether something is an index of an array. -/
def readMembership : Nat → Place → Reading Expression
  | 0, _ => refuse
  | fuel + 1, place => do
    let left ← readMatching fuel place
    readIndexed fuel left

/-- Read arrays that something may be an index of. -/
def readIndexed : Nat → Expression → Reading Expression
  | 0, left => return left
  | fuel + 1, left => do
    if !(← isAtName "in") then return left
    else
      skip
      match ← peek with
      | .name name => do
        skip
        learn name true
        match left with
        | .groups parts => readIndexed fuel (.isIndex parts name)
        | _ => do
          let left ← settle left
          readIndexed fuel (.isIndex [left] name)
      | _ => refuse

/-- Read the question whether a text matches an expression. -/
def readMatching : Nat → Place → Reading Expression
  | 0, _ => refuse
  | fuel + 1, place => do
    let next := readComparison fuel place
    readChain next (fun token =>
      if token == .sign "~" then some (.matching false)
      else if token == .sign "!~" then some (.matching true)
      else none) fuel (← next)

/-- Read a comparison. -/
def readComparison : Nat → Place → Reading Expression
  | 0, _ => refuse
  | fuel + 1, place => do
    let next := readJoined fuel place
    readChain next (fun token =>
      match token with
      | .sign sign =>
        if place.printing && sign = ">" then none
        else (comparisons.lookup sign).map fun how => .compare how
      | _ => none) fuel (← next)

/-- Read values that are written side by side. -/
def readJoined : Nat → Place → Reading Expression
  | 0, _ => refuse
  | fuel + 1, place => do
    readJoinedBehind fuel place (← readSum fuel place)

/-- Read the values that are written behind one. -/
def readJoinedBehind : Nat → Place → Expression → Reading Expression
  | 0, _, left => return left
  | fuel + 1, place, left => do
    if beginsValue (← peek) then do
      let left ← settle left
      let right ← settle (← readSum fuel place)
      readJoinedBehind fuel place (.join left right)
    else return left

/-- Read a sum. -/
def readSum : Nat → Place → Reading Expression
  | 0, _ => refuse
  | fuel + 1, place => do
    let next := readProduct fuel place
    readChain next (fun token =>
      if token == .sign "+" then some (.arithmetic .add)
      else if token == .sign "-" then some (.arithmetic .subtract)
      else none) fuel (← next)

/-- Read a product. -/
def readProduct : Nat → Place → Reading Expression
  | 0, _ => refuse
  | fuel + 1, place => do
    let next := readSigned fuel place
    readChain next (fun token =>
      if token == .sign "*" then some (.arithmetic .multiply)
      else if token == .sign "/" then some (.arithmetic .divide)
      else if token == .sign "%" then some (.arithmetic .remainder)
      else none) fuel (← next)

/-- Read an expression with a sign in front of it. -/
def readSigned : Nat → Place → Reading Expression
  | 0, _ => refuse
  | fuel + 1, place => do
    if ← takes "!" then return .not (← settle (← readSigned fuel place))
    else if ← takes "-" then return .negative (← settle (← readSigned fuel place))
    else if ← takes "+" then return .positive (← settle (← readSigned fuel place))
    else readCommands fuel (← readPower fuel place)

/-- Read what reads from a command. -/
def readCommands : Nat → Expression → Reading Expression
  | 0, left => return left
  | fuel + 1, left => do
    if (← isAt "|") && (← peekBehind) == .name "getline" then do
      skip
      skip
      let left ← settle left
      let target ← readTarget? (readField fuel) (readIndices fuel)
      readCommands fuel (.readCommand target left)
    else return left

/-- Read a power. -/
def readPower : Nat → Place → Reading Expression
  | 0, _ => refuse
  | fuel + 1, place => do
    let base ← readBumped fuel place
    if ← takes "^" then do
      let base ← settle base
      return .arithmetic .power base (← settle (← readExponent fuel place))
    else return base

/-- Read an exponent, which may have a sign. -/
def readExponent : Nat → Place → Reading Expression
  | 0, _ => refuse
  | fuel + 1, place => do
    if ← takes "-" then return .negative (← settle (← readExponent fuel place))
    else if ← takes "+" then return .positive (← settle (← readExponent fuel place))
    else if ← takes "!" then return .not (← settle (← readExponent fuel place))
    else readPower fuel place

/-- Read a value that one is added to or taken from. -/
def readBumped : Nat → Place → Reading Expression
  | 0, _ => refuse
  | fuel + 1, place => do
    if ← takes "++" then return .bump 1 false (← settle (← readBumped fuel place))
    else if ← takes "--" then return .bump (-1) false (← settle (← readBumped fuel place))
    else
      let body ← readPrimary fuel place
      if !isTarget body then return body
      else if ← takes "++" then return .bump 1 true (← settle body)
      else if ← takes "--" then return .bump (-1) true (← settle body)
      else return body

/-- Read a field of the record. -/
def readField : Nat → Reading Expression
  | 0 => refuse
  | fuel + 1 => do
    expect "$"
    if ← takes "++" then return .field (.bump 1 false (← settle (← readPrimary fuel {})))
    else if ← takes "--" then return .field (.bump (-1) false (← settle (← readPrimary fuel {})))
    else if ← takes "-" then return .field (.negative (← settle (← readPrimary fuel {})))
    else return .field (← settle (← readPrimary fuel {}))

/-- Read the indices of an array behind the opening bracket. -/
def readIndices : Nat → Reading (List Expression)
  | 0 => refuse
  | fuel + 1 => do
    let index ← settle (← readExpression fuel {})
    if ← takes "," then
      skipLineEnds
      return index :: (← readIndices fuel)
    else do
      expect "]"
      return [index]

/-- Read arguments behind the opening parenthesis, up to the closing one. The flag says that a
name may stand for an array. -/
def readArguments : Nat → Bool → Reading (List Expression)
  | 0, _ => refuse
  | fuel + 1, mayBeArray => do
    let argument ← readExpression fuel {}
    let argument ← if mayBeArray then do pure argument else settle argument
    if ← takes "," then
      skipLineEnds
      return argument :: (← readArguments fuel mayBeArray)
    else do
      expectClosing
      return [argument]

/-- Read a value without operators. -/
def readPrimary : Nat → Place → Reading Expression
  | 0, _ => refuse
  | fuel + 1, place => do
    let arguments (mayBeArray : Bool) : Reading (List Expression) := do
      if ← takes ")" then return [] else readArguments fuel mayBeArray
    match ← peek with
    | .number value _ => do
      skip
      return .number value
    | .text characters _ => do
      skip
      return .text characters
    | .regex characters => do
      skip
      regexWord characters
    | .sign "$" => readField fuel
    | .sign "-" => do
      skip
      return .negative (← settle (← readSigned fuel place))
    | .sign "+" => do
      skip
      return .positive (← settle (← readSigned fuel place))
    | .sign "!" => do
      skip
      return .not (← settle (← readSigned fuel place))
    | .sign "(" => do
      skip
      let parts ← readArguments fuel false
      match parts with
      | [part] => return .group part
      | _ => return .groups parts
    | .called name => do
      skip
      expect "("
      let given ← arguments true
      noteCall name given.length
      return .call name given
    | .name "getline" => do
      skip
      let target ← readTarget? (readField fuel) (readIndices fuel)
      if ← takes "<" then do
        let path ← settle (← readBumped fuel place)
        return .readFile target path
      else return .readRecord target
    | .name name =>
      if Token.keywords.contains name then refuse
      else
        match Token.builtins.lookup name with
        | some which => do
          skip
          let hasArguments ← isAt "("
          if !hasArguments && which ≠ .length && which ≠ .flush then refuse
          let given ← if ← takes "(" then do arguments true else pure []
          let (least, most) := argumentCounts which
          if given.length < least || most < given.length then
            fail ("wrong number of arguments in call to " ++ name)
          let given ← given.zipIdx.mapM fun (argument, number) =>
            match which, number, argument with
            | .split, 1, .named array => do
              learn array true
              return argument
            | .length, _, _ => return argument
            | _, _, _ => settle argument
          return .builtin which given
        | none => do
          skip
          if (← isAt "(") && (← get).functions.contains name then do
            skip
            let given ← arguments true
            noteCall name given.length
            return .call name given
          else if ← takes "[" then do
            learn name true
            return .item name (← readIndices fuel)
          else return .named name
    | _ => refuse
end

end Reading

end Metamorph.Sandbox.Records
