import Metamorph.Sandbox.Shell.Lexing

/-! # Shell arithmetic

Expressions over signed 64 bit integers, read and evaluated in one pass. The operands that do not
count are read all the same, without any effect. -/

namespace Metamorph.Sandbox.Shell.Arithmetic

/-- A word of an expression. -/
inductive Term where
  | number (value : Int)
  | name (value : String)
  | sign (value : String)
  deriving DecidableEq, Repr

/-- How an expression fails. -/
inductive Fault where
  | missing (what : String)
  | divisionByZero
  /-- A variable whose value is no number. -/
  | notNumber (value : String)
  /-- A digit that its base does not have. -/
  | badDigit (value : String)
  deriving DecidableEq, Repr

/-- The signs of both dialects with more than one character; longer ones come first. -/
def plainSigns : List String :=
  ["<<=", ">>=", "||", "&&", "==", "!=", "<=", ">=", "<<", ">>", "*=", "/=", "%=", "+=", "-=", "&=",
    "^=", "|="]

/-- The signs of a dialect with more than one character. -/
def longSigns : Dialect → List String
  | .plain => plainSigns
  | .rich => ["**", "++", "--"] ++ plainSigns

/-- An integer as 64 bits hold it. -/
def wrap (n : Int) : Int :=
  n.bmod UInt64.size

/-- The largest integer. -/
def largest : Int := 0x7FFFFFFFFFFFFFFF

/-- Read a number: one with a zero in front is octal, and one with a zero and an `x` is
hexadecimal. Digits that do not fit are left. -/
def readNumber (input : List Char) : Nat × List Char :=
  let digits (base : Nat) (input : List Char) : Nat × List Char :=
    let found := input.takeWhile (isDigitIn base)
    (valueIn base found, input.drop found.length)
  match input with
  | '0' :: x :: c :: rest =>
    if (x = 'x' || x = 'X') && isDigitIn 16 c then digits 16 (c :: rest) else digits 8 input
  | '0' :: _ => digits 8 input
  | _ => digits 10 input

/-- The value of a digit in a base up to 64. -/
def largeDigit (base : Nat) (c : Char) : Nat :=
  if c.isDigit then c.toNat - '0'.toNat
  else if c.isLower then c.toNat - 'a'.toNat + 10
  else if c.isUpper then c.toNat - 'A'.toNat + (if base ≤ 36 then 10 else 36)
  else if c = '@' then 62 else 63

/-- Read a number of the rich dialect, in which a base may stand in front. -/
def readBased (word : List Char) : Except Fault Nat :=
  let whole (base : Nat) (digits : List Char) : Except Fault Nat :=
    if digits.all fun d => largeDigit base d < base then
      .ok (digits.foldl (fun n d => n * base + largeDigit base d) 0)
    else .error (.badDigit (String.ofList word))
  match word with
  | '0' :: x :: rest =>
    if x = 'x' || x = 'X' then whole 16 rest else whole 8 (x :: rest)
  | _ =>
    let front := word.takeWhile (· ≠ '#')
    if front.length < word.length then
      whole (Text.digitsValue front) (word.drop (front.length + 1))
    else whole 10 word

/-- The words of an expression. Every step takes a character, which bounds the fuel. -/
def terms (dialect : Dialect) : Nat → List Char → Except Fault (List Term)
  | 0, _ => .ok []
  | _, [] => .ok []
  | fuel + 1, c :: rest => do
    let input := c :: rest
    if c = ' ' || c = '\t' || c = '\n' then terms dialect fuel rest
    else if c.isDigit then
      match dialect with
      | .plain =>
        let (value, rest) := readNumber input
        return .number (min value largest) :: (← terms dialect fuel rest)
      | .rich =>
        let word := input.takeWhile fun c => isNameChar c || c = '#' || c = '@'
        let value ← readBased word
        return .number (wrap value) :: (← terms dialect fuel (input.drop word.length))
    else if beginsName c then
      let name := input.takeWhile isNameChar
      return .name (String.ofList name) :: (← terms dialect fuel (input.drop name.length))
    else
      match (longSigns dialect).find? fun sign => sign.toList.isPrefixOf input with
      | some sign => return .sign sign :: (← terms dialect fuel (input.drop sign.length))
      | none => return .sign (String.ofList [c]) :: (← terms dialect fuel rest)

/-- An evaluation on its way: what has not been read, and the variables that were changed. -/
structure State where
  rest : List Term
  changed : List (String × Int) := []

/-- A step of an evaluation. -/
abbrev Evaluating := StateT State (Except Fault)

/-- What an evaluation knows: the dialect, and the values of variables. -/
structure Setting where
  dialect : Dialect
  value? : String → Option String

/-- One for true and zero for false. -/
def truth (b : Bool) : Int :=
  if b then 1 else 0

/-- The bits of an integer as a natural number. -/
def bits (n : Int) : Nat :=
  (n % UInt64.size).toNat

/-- The levels of operators that take both operands, from the weakest binding to the
strongest. -/
def levels : List (List String) :=
  [["|"], ["^"], ["&"], ["==", "!="], ["<", "<=", ">", ">="], ["<<", ">>"], ["+", "-"],
    ["*", "/", "%"]]

/-- A power, by squaring; the fuel bounds the number of bits of the exponent. -/
def power : Nat → Int → Nat → Int
  | 0, _, _ => 1
  | fuel + 1, a, n =>
    if n = 0 then 1
    else
      let half := power fuel (wrap (a * a)) (n / 2)
      if n % 2 = 1 then wrap (half * a) else half

/-- Apply an operator. -/
def apply (sign : String) (a b : Int) : Except Fault Int :=
  match sign with
  | "|" => .ok (wrap (bits a ||| bits b : Nat))
  | "^" => .ok (wrap (bits a ^^^ bits b : Nat))
  | "&" => .ok (wrap (bits a &&& bits b : Nat))
  | "==" => .ok (truth (a = b))
  | "!=" => .ok (truth (a ≠ b))
  | "<" => .ok (truth (a < b))
  | "<=" => .ok (truth (a ≤ b))
  | ">" => .ok (truth (a > b))
  | ">=" => .ok (truth (a ≥ b))
  | "<<" => .ok (wrap (a * Nat.pow 2 (b % 64).toNat))
  | ">>" => .ok (a / Nat.pow 2 (b % 64).toNat)
  | "+" => .ok (wrap (a + b))
  | "-" => .ok (wrap (a - b))
  | "*" => .ok (wrap (a * b))
  | "/" => if b = 0 then .error .divisionByZero else .ok (wrap (a.tdiv b))
  | "%" => if b = 0 then .error .divisionByZero else .ok (a.tmod b)
  | "**" => if b < 0 then .error (.missing "exponent less than 0") else .ok (power 64 a b.toNat)
  | _ => .ok b

/-- The number that the value of a variable denotes. Blanks around it do not count. -/
def numberOf (value : String) : Except Fault Int :=
  let isBlank (c : Char) := c = ' ' || c = '\t' || c = '\n'
  let text := ((value.toList.dropWhile isBlank).reverse.dropWhile isBlank).reverse
  let (negative, digits) :=
    match text with
    | '-' :: rest => (true, rest)
    | '+' :: rest => (false, rest)
    | _ => (false, text)
  let (number, rest) := readNumber digits
  if text.isEmpty then .ok 0
  else if rest.isEmpty && !digits.isEmpty && number ≤ largest then
    .ok (if negative then -number else number)
  else .error (.notNumber value)

/-- The next term, which is not taken. -/
def peek : Evaluating (Option Term) := do
  return (← get).rest.head?

/-- Take the next term. -/
def take : Evaluating Unit :=
  modify fun state => { state with rest := state.rest.drop 1 }

/-- Take a sign if it comes next. -/
def accept (sign : String) : Evaluating Bool := do
  if (← peek) = some (.sign sign) then
    take
    return true
  else return false

/-- Change a variable. -/
def change (name : String) (value : Int) : Evaluating Unit :=
  modify fun state => { state with changed := (name, value) :: state.changed }

/-- The sign of the assignment that comes behind a name, without its equals sign. -/
def assignmentOf : List Term → Option (String × String)
  | .name name :: .sign sign :: _ =>
    if sign = "=" then some (name, "")
    else if sign.endsWith "=" && !(["==", "!=", "<=", ">="].contains sign) then
      some (name, (sign.dropEnd 1).toString)
    else none
  | _ => none

mutual
/-- The value of a variable: in the rich dialect it may be an expression. -/
def valueOf (setting : Setting) : Nat → String → Evaluating Int
  | 0, name => throw (.notNumber name)
  | fuel + 1, name => do
    match (← get).changed.lookup name with
    | some value => return value
    | none =>
      let value := (setting.value? name).getD ""
      match setting.dialect with
      | .plain => numberOf value
      | .rich => do
        let before ← get
        let inner ← terms .rich (value.length + 1) value.toList
        if inner.isEmpty then return 0
        else
          set { before with rest := inner }
          let number ← evaluateList setting fuel true
          modify fun state => { state with rest := before.rest }
          return number

/-- Evaluate expressions with commas between them. -/
def evaluateList (setting : Setting) : Nat → Bool → Evaluating Int
  | 0, _ => throw (.missing "expecting primary")
  | fuel + 1, active => do
    let value ← evaluateAssignment setting fuel active
    if setting.dialect = .plain then return value
    else if ← accept "," then evaluateList setting fuel active
    else return value

/-- Evaluate an assignment, or an expression that is none. -/
def evaluateAssignment (setting : Setting) : Nat → Bool → Evaluating Int
  | 0, _ => throw (.missing "expecting primary")
  | fuel + 1, active => do
    match assignmentOf (← get).rest with
    | none => evaluateChoice setting fuel active
    | some (name, sign) => do
      modify fun state => { state with rest := state.rest.drop 2 }
      let value ← evaluateAssignment setting fuel active
      if !active then return value
      else
        let value ←
          if sign.isEmpty then pure value
          else do apply sign (← valueOf setting fuel name) value
        change name value
        return value

/-- Evaluate a choice between two expressions, or an expression that is none. -/
def evaluateChoice (setting : Setting) : Nat → Bool → Evaluating Int
  | 0, _ => throw (.missing "expecting primary")
  | fuel + 1, active => do
    let condition ← evaluateOr setting fuel active
    if ← accept "?" then
      let yes ← evaluateAssignment setting fuel (active && condition ≠ 0)
      if !(← accept ":") then throw (.missing "expecting ':'")
      let no ← evaluateChoice setting fuel (active && condition = 0)
      return if condition ≠ 0 then yes else no
    else return condition

/-- Evaluate expressions of which one must be true. -/
def evaluateOr (setting : Setting) : Nat → Bool → Evaluating Int
  | 0, _ => throw (.missing "expecting primary")
  | fuel + 1, active => do
    let first ← evaluateAnd setting fuel active
    if ← accept "||" then
      let second ← evaluateOr setting fuel (active && first = 0)
      return truth (first ≠ 0 || second ≠ 0)
    else return first

/-- Evaluate expressions all of which must be true. -/
def evaluateAnd (setting : Setting) : Nat → Bool → Evaluating Int
  | 0, _ => throw (.missing "expecting primary")
  | fuel + 1, active => do
    let first ← evaluateLevel setting fuel active levels
    if ← accept "&&" then
      let second ← evaluateAnd setting fuel (active && first ≠ 0)
      return truth (first ≠ 0 && second ≠ 0)
    else return first

/-- Evaluate an expression whose operators are of the given levels. -/
def evaluateLevel (setting : Setting) : Nat → Bool → List (List String) → Evaluating Int
  | 0, _, _ => throw (.missing "expecting primary")
  | fuel + 1, active, [] => do
    let base ← evaluatePrimary setting fuel active
    if ← accept "**" then
      let exponent ← evaluateLevel setting fuel active []
      apply "**" base exponent
    else return base
  | fuel + 1, active, level :: stronger => do
    let first ← evaluateLevel setting fuel active stronger
    evaluateMore setting fuel active level stronger first

/-- Go on with the operators of one level, from the left to the right. -/
def evaluateMore (setting : Setting) :
    Nat → Bool → List String → List (List String) → Int → Evaluating Int
  | 0, _, _, _, _ => throw (.missing "expecting primary")
  | fuel + 1, active, level, stronger, first => do
    match ← peek with
    | some (.sign sign) =>
      if level.contains sign then
        take
        let second ← evaluateLevel setting fuel active stronger
        let value ← if active then apply sign first second else pure first
        evaluateMore setting fuel active level stronger value
      else return first
    | _ => return first

/-- Evaluate a number, a variable, an expression in parentheses or a sign in front of one. -/
def evaluatePrimary (setting : Setting) : Nat → Bool → Evaluating Int
  | 0, _ => throw (.missing "expecting primary")
  | fuel + 1, active => do
    match ← peek with
    | some (.number value) => do
      take
      return value
    | some (.name name) => do
      take
      let value ← if active then valueOf setting fuel name else pure 0
      let step (amount : Int) : Evaluating Int := do
        if active then change name (wrap (value + amount))
        return value
      if ← accept "++" then step 1
      else if ← accept "--" then step (-1)
      else return value
    | some (.sign "(") => do
      take
      let value ← evaluateList setting fuel active
      if ← accept ")" then return value else throw (.missing "expecting ')'")
    | some (.sign "+") => do
      take
      evaluatePrimary setting fuel active
    | some (.sign "-") => do
      take
      return wrap (-(← evaluatePrimary setting fuel active))
    | some (.sign "!") => do
      take
      return truth ((← evaluatePrimary setting fuel active) = 0)
    | some (.sign "~") => do
      take
      return -(← evaluatePrimary setting fuel active) - 1
    | some (.sign "++") => do
      take
      evaluateStep setting fuel active 1
    | some (.sign "--") => do
      take
      evaluateStep setting fuel active (-1)
    | _ => throw (.missing "expecting primary")

/-- Evaluate a variable that is changed first. -/
def evaluateStep (setting : Setting) : Nat → Bool → Int → Evaluating Int
  | 0, _, _ => throw (.missing "expecting primary")
  | fuel + 1, active, amount => do
    match ← peek with
    | some (.name name) => do
      take
      let value := wrap ((← if active then valueOf setting fuel name else pure 0) + amount)
      if active then change name value
      return value
    | _ => throw (.missing "expecting primary")
end

/-- Evaluate a whole expression: its value, and the variables that it changes, the last change
first. An empty expression is zero in the rich dialect. -/
def evaluate (setting : Setting) (text : List Char) :
    Except Fault (Int × List (String × Int)) := do
  let words ← terms setting.dialect (text.length + 1) text
  if words.isEmpty && setting.dialect = .rich then return (0, [])
  let (value, state) ←
    (evaluateList setting (32 * text.length + 64) true).run { rest := words }
  if state.rest.isEmpty then return (value, state.changed)
  else throw (.missing "expecting EOF")

namespace Fault

/-- The message of the plain shell about an expression. -/
def plainMessage (expression : String) : Fault → String
  | .missing what => "arithmetic expression: " ++ what ++ ": \"" ++ expression ++ "\""
  | .divisionByZero => "arithmetic expression: division by zero: \"" ++ expression ++ "\""
  | .notNumber value => "Illegal number: " ++ value
  | .badDigit value => "Illegal number: " ++ value

/-- The message of the rich shell about an expression. -/
def richMessage (expression : String) : Fault → String
  | .missing "expecting EOF" =>
    expression ++ ": syntax error in expression (error token is \"" ++ expression ++ "\")"
  | .missing _ => expression ++ ": syntax error: operand expected (error token is \""
      ++ expression ++ "\")"
  | .divisionByZero => expression ++ ": division by 0 (error token is \""
      ++ String.ofList (expression.toList.reverse.takeWhile fun c => isNameChar c).reverse ++ "\")"
  | .notNumber value => expression ++ ": syntax error: invalid arithmetic operator (error token is \""
      ++ value ++ "\")"
  | .badDigit value => value ++ ": value too great for base (error token is \"" ++ value ++ "\")"

end Fault

end Metamorph.Sandbox.Shell.Arithmetic
