import Metamorph.Sandbox.Regex.Basic
import Metamorph.Sandbox.Regex.Reader
import Metamorph.Sandbox.Tool.Basic

/-! # Expressions as words

The tool that evaluates an expression whose operands and operators are its arguments. Values are
texts; some of them are integers. -/

namespace Metamorph.Sandbox.Expression

/-- How words fail to be an expression. -/
inductive Fault where
  | missing (before : String)
  | unexpected (word : String)
  | unclosed (before : String)
  | notClosing (word : String)
  | notInteger
  | divisionByZero
  | regex (why : String)

namespace Fault

/-- The message of a fault. -/
def message : Fault → String
  | .missing word => "syntax error: missing argument after " ++ cited word
  | .unexpected word => "syntax error: unexpected argument " ++ cited word
  | .unclosed word => "syntax error: expecting ')' after " ++ cited word
  | .notClosing word => "syntax error: expecting ')' instead of " ++ cited word
  | .notInteger => "non-integer argument"
  | .divisionByZero => "division by zero"
  | .regex why => why

end Fault

/-- The words that have been read, the last one first, and those that have not been. -/
structure State where
  read : List String := []
  rest : List String

/-- A step of an evaluation. -/
abbrev Evaluating := StateT State (Except Fault)

/-- The next word, if one of some words comes next. -/
def accept (words : List String) : Evaluating (Option String) := do
  let state ← get
  match state.rest with
  | word :: rest =>
    if words.contains word then
      set ({ read := word :: state.read, rest } : State)
      return some word
    else return none
  | [] => return none

/-- The next word, whatever it is. -/
def next : Evaluating String := do
  let state ← get
  match state.rest with
  | word :: rest => do
    set ({ read := word :: state.read, rest } : State)
    return word
  | [] => throw (.missing (state.read.headD ""))

/-- The integer that a text denotes. -/
def integer? (text : String) : Option Int :=
  match text.toList with
  | '-' :: digits =>
    if !digits.isEmpty && digits.all Char.isDigit then some (-(Text.digitsValue digits : Int)) else none
  | digits =>
    if !digits.isEmpty && digits.all Char.isDigit then some (Text.digitsValue digits : Int) else none

/-- Whether a value counts as false: an empty text, or zero. -/
def isNull (text : String) : Bool :=
  text.isEmpty || integer? text = some 0

/-- One for true and zero for false. -/
def truth (b : Bool) : String :=
  if b then "1" else "0"

/-- Compare two values, as integers if both of them are. -/
def compareValues (operator a b : String) : Bool :=
  let order : Ordering :=
    match integer? a, integer? b with
    | some m, some n => compare m n
    | _, _ => compare a b
  match operator with
  | "<" => order = .lt
  | "<=" => order ≠ .gt
  | "!=" => order ≠ .eq
  | ">=" => order ≠ .lt
  | ">" => order = .gt
  | _ => order = .eq

/-- Calculate with two values that must be integers. Operands that do not count are not looked
at. -/
def calculate (active : Bool) (operator a b : String) : Evaluating String := do
  if !active then return a
  match integer? a, integer? b with
  | some m, some n =>
    match operator with
    | "+" => return toString (m + n)
    | "-" => return toString (m - n)
    | "*" => return toString (m * n)
    | "/" => if n = 0 then throw .divisionByZero else return toString (m.tdiv n)
    | _ => if n = 0 then throw .divisionByZero else return toString (m.tmod n)
  | _, _ => throw .notInteger

/-- Match a text with an expression from its start on: the part that the first group has matched,
or the length of the match. -/
def matchStart (text pattern : String) : Evaluating String := do
  match Regex.read { extended := false } pattern.toList with
  | .error why => throw (.regex why.message)
  | .ok regex =>
    let grouped := pattern.contains "\\("
    let found? := (regex.search? {} text.toList 0).filter fun found => found.first = 0
    match found? with
    | none => return if grouped then "" else "0"
    | some found =>
      if grouped then return String.ofList (found.groupIn text.toList 1)
      else return toString found.last

mutual
/-- Evaluate alternatives. -/
def evaluateOr : Nat → Bool → Evaluating String
  | 0, _ => throw (.missing "")
  | fuel + 1, active => do orMore fuel active (← evaluateAnd fuel active)

/-- Go on with alternatives. -/
def orMore : Nat → Bool → String → Evaluating String
  | 0, _, _ => throw (.missing "")
  | fuel + 1, active, value => do
    match ← accept ["|"] with
    | none => return value
    | some _ => do
      let other ← evaluateAnd fuel (active && isNull value)
      orMore fuel active (if !isNull value then value else if isNull other then "0" else other)

/-- Evaluate conjunctions. -/
def evaluateAnd : Nat → Bool → Evaluating String
  | 0, _ => throw (.missing "")
  | fuel + 1, active => do andMore fuel active (← evaluateComparison fuel active)

/-- Go on with conjunctions. -/
def andMore : Nat → Bool → String → Evaluating String
  | 0, _, _ => throw (.missing "")
  | fuel + 1, active, value => do
    match ← accept ["&"] with
    | none => return value
    | some _ => do
      let other ← evaluateComparison fuel (active && !isNull value)
      andMore fuel active (if isNull value || isNull other then "0" else value)

/-- Evaluate comparisons. -/
def evaluateComparison : Nat → Bool → Evaluating String
  | 0, _ => throw (.missing "")
  | fuel + 1, active => do comparisonMore fuel active (← evaluateSum fuel active)

/-- Go on with comparisons. -/
def comparisonMore : Nat → Bool → String → Evaluating String
  | 0, _, _ => throw (.missing "")
  | fuel + 1, active, value => do
    match ← accept ["<", "<=", "=", "==", "!=", ">=", ">"] with
    | none => return value
    | some operator => do
      let other ← evaluateSum fuel active
      comparisonMore fuel active (truth (compareValues operator value other))

/-- Evaluate sums. -/
def evaluateSum : Nat → Bool → Evaluating String
  | 0, _ => throw (.missing "")
  | fuel + 1, active => do sumMore fuel active (← evaluateProduct fuel active)

/-- Go on with sums. -/
def sumMore : Nat → Bool → String → Evaluating String
  | 0, _, _ => throw (.missing "")
  | fuel + 1, active, value => do
    match ← accept ["+", "-"] with
    | none => return value
    | some operator => do
      let other ← evaluateProduct fuel active
      sumMore fuel active (← calculate active operator value other)

/-- Evaluate products. -/
def evaluateProduct : Nat → Bool → Evaluating String
  | 0, _ => throw (.missing "")
  | fuel + 1, active => do productMore fuel active (← evaluateMatch fuel active)

/-- Go on with products. -/
def productMore : Nat → Bool → String → Evaluating String
  | 0, _, _ => throw (.missing "")
  | fuel + 1, active, value => do
    match ← accept ["*", "/", "%"] with
    | none => return value
    | some operator => do
      let other ← evaluateMatch fuel active
      productMore fuel active (← calculate active operator value other)

/-- Evaluate matches. -/
def evaluateMatch : Nat → Bool → Evaluating String
  | 0, _ => throw (.missing "")
  | fuel + 1, active => do matchMore fuel active (← evaluateWord fuel active)

/-- Go on with matches. -/
def matchMore : Nat → Bool → String → Evaluating String
  | 0, _, _ => throw (.missing "")
  | fuel + 1, active, value => do
    match ← accept [":"] with
    | none => return value
    | some _ => do
      let pattern ← evaluateWord fuel active
      let value ← if active then matchStart value pattern else pure value
      matchMore fuel active value

/-- Evaluate a word, a function or an expression between parentheses. -/
def evaluateWord : Nat → Bool → Evaluating String
  | 0, _ => throw (.missing "")
  | fuel + 1, active => do
    let word ← next
    match word with
    | "(" => do
      let value ← evaluateOr fuel active
      match ← accept [")"] with
      | some _ => return value
      | none =>
        let state ← get
        match state.rest with
        | [] => throw (.unclosed (state.read.headD ""))
        | other :: _ => throw (.notClosing other)
    | ")" => throw (.unexpected ")")
    | "+" => next
    | "length" => do return toString (← evaluateWord fuel active).length
    | "match" => do
      let text ← evaluateWord fuel active
      let pattern ← evaluateWord fuel active
      if active then matchStart text pattern else return text
    | "index" => do
      let text ← evaluateWord fuel active
      let characters ← evaluateWord fuel active
      let place := text.toList.findIdx fun c => characters.toList.contains c
      return if place < text.length then toString (place + 1) else "0"
    | "substr" => do
      let text ← evaluateWord fuel active
      let start ← evaluateWord fuel active
      let length ← evaluateWord fuel active
      match integer? start, integer? length with
      | some start, some length =>
        if start ≤ 0 || length ≤ 0 then return ""
        else return String.ofList ((text.toList.drop (start.toNat - 1)).take length.toNat)
      | _, _ => return ""
    | _ => return word
end

/-- Evaluate words as an expression. -/
def evaluate (words : List String) : Except Fault String := do
  let (value, state) ← (evaluateOr (12 * words.length + 16) true).run { rest := words }
  match state.rest with
  | [] => return value
  | word :: _ => throw (.unexpected word)

end Metamorph.Sandbox.Expression

namespace Metamorph.Sandbox

/-- Evaluate the arguments as an expression. -/
def Tool.expr : Tool := fun _ arguments => do
  let words := if arguments.head? = some "--" then arguments.drop 1 else arguments
  if words.isEmpty then misuse "expr" 2 "missing operand"
  else
    match Expression.evaluate words with
    | .ok value => do
      Step.out (value ++ "\n")
      return if Expression.isNull value then 1 else 0
    | .error why => fail "expr" 2 why.message

end Metamorph.Sandbox
