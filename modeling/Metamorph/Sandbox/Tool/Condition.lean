import Metamorph.Sandbox.Tool.Printing

/-! # Conditions

Conditions as a list of words: texts and numbers are compared, and files looked at. What is an
operator and what an operand depends on the words around it. -/

namespace Metamorph.Sandbox.Condition

/-- The operators between two operands. -/
def binaryOperators (manner : Manner) : List String :=
  ["=", "!=", "<", ">", "-eq", "-ne", "-gt", "-ge", "-lt", "-le", "-nt", "-ot", "-ef"]
    ++ if manner = .plainShell then [] else ["=="]

/-- The operators in front of one operand. -/
def unaryOperators (manner : Manner) : List String :=
  ["-n", "-z", "-e", "-f", "-d", "-r", "-w", "-x", "-s", "-L", "-h", "-p", "-S", "-b", "-c", "-t",
    "-u", "-g", "-k", "-O", "-G"]
    ++ (if manner = .plainShell then [] else ["-N"])

/-- What a word is to a condition. -/
inductive Role where
  | missing
  | operand
  | open
  | close
  | not
  | and
  | or
  | unary
  | binary
  deriving DecidableEq

/-- What a word is taken by itself. -/
def plainRole (manner : Manner) (word : String) : Role :=
  if word = "(" then .open
  else if word = ")" then .close
  else if word = "!" then .not
  else if word = "-a" then .and
  else if word = "-o" then .or
  else if (unaryOperators manner).contains word then .unary
  else if (binaryOperators manner).contains word then .binary
  else .operand

/-- Whether the word in front of some others can only be an operand. -/
def mustBeOperand (manner : Manner) : List String → Bool
  | [] => true
  | [_] => false
  | next :: after :: _ => plainRole manner next = .binary && after ≠ ")"

/-- What the first of some words is. -/
def role (manner : Manner) : List String → Role
  | [] => .missing
  | word :: rest =>
    match plainRole manner word with
    | .unary => if mustBeOperand manner rest then .operand else .unary
    | .open => if rest.isEmpty then .operand else .open
    | other => other

/-- The complaint about a word that should be an integer. -/
def notInteger (manner : Manner) (word : String) : String :=
  match manner with
  | .plainShell => "Illegal number: " ++ word
  | .richShell => word ++ ": integer expression expected"
  | .program => "invalid integer " ++ cited word

/-- The complaint about words that are left. -/
def tooMany (manner : Manner) (word : String) : String :=
  match manner with
  | .plainShell => word ++ ": unexpected operator"
  | .richShell => "too many arguments"
  | .program => "extra argument " ++ cited word

/-- The complaint about an operand that is missing. -/
def lacksOperand (manner : Manner) (operator : String) : String :=
  match manner with
  | .plainShell => operator ++ ": argument expected"
  | .richShell => "argument expected"
  | .program => "missing argument after " ++ cited operator

/-- The complaint about a closing parenthesis that is missing. -/
def lacksClose (manner : Manner) : String :=
  match manner with
  | .plainShell => "closing paren expected"
  | .richShell => "')' expected"
  | .program => "')' expected"

/-- A step of a look at a condition, which may end with a complaint. -/
abbrev Looking := ExceptT String Step

/-- What a path leads to, which may be what a stream leads to. -/
def entryAt? (follow : Bool) (path : String) : Step (Option Entry) := do
  match Step.streamOf? path with
  | none => Step.entry? follow path
  | some stream =>
    let world := (← get).world
    match (← Step.openingOf? stream).map fun number => (world.opening number).target with
    | none => return none
    | some (.node node) => return (world.files.nodes[node]?).map (·.entry)
    | some (.pipe number) => return some (.pipe number 0o600)
    | some (.device device) => return some (.device device)
    | some (.folder trail) => return world.files.find? trail

/-- Whether a file has something to it. -/
def fileTest (operator path : String) : Step Bool := do
  let entry ← entryAt? (operator ≠ "-L" && operator ≠ "-h") path
  let has (mode bit : Nat) : Bool := mode &&& bit ≠ 0
  match operator, entry with
  | _, none => return false
  | "-e", _ => return true
  | "-r", _ => return true
  | "-w", _ => return true
  | "-O", _ => return true
  | "-G", _ => return true
  | "-f", some (.file _ _) => return true
  | "-d", some (.folder _) => return true
  | "-p", some (.pipe _ _) => return true
  | "-c", some (.device _) => return true
  | "-x", some (.folder _) => return true
  | "-x", some (.file _ mode) => return has mode 0o111
  | "-s", some (.file bytes _) => return !bytes.isEmpty
  | "-s", some (.folder _) => return true
  | "-L", some (.link _) => return true
  | "-h", some (.link _) => return true
  | "-u", some entry => return has entry.mode 0o4000
  | "-g", some entry => return has entry.mode 0o2000
  | "-k", some entry => return has entry.mode 0o1000
  | _, _ => return false

/-- The integer that a word denotes. Blanks around it do not count. -/
def integer (manner : Manner) (word : String) : Looking Int := do
  let text := ((word.toList.dropWhile isSpace).reverse.dropWhile isSpace).reverse
  match Tool.integer? (String.ofList text) with
  | some value => return value
  | none => throw (notInteger manner word)

/-- Compare two operands. -/
def compareWords (manner : Manner) (first operator second : String) : Looking Bool := do
  match operator with
  | "=" => return first = second
  | "==" => return first = second
  | "!=" => return first ≠ second
  | "<" => return first < second
  | ">" => return first > second
  | "-nt" => return (← Step.entry? true first).isSome && (← Step.entry? true second).isNone
  | "-ot" => return (← Step.entry? true first).isNone && (← Step.entry? true second).isSome
  | "-ef" => do
    match ← Step.resolve true first, ← Step.resolve true second with
    | .ok a, .ok b => return a = b && (← Step.entry? true first).isSome
    | _, _ => return false
  | _ => do
    let a ← integer manner first
    let b ← integer manner second
    match operator with
    | "-eq" => return a = b
    | "-ne" => return a ≠ b
    | "-lt" => return a < b
    | "-le" => return a ≤ b
    | "-gt" => return a > b
    | _ => return a ≥ b

mutual
/-- Look at conditions of which one must hold; what is left follows. -/
def lookEither (manner : Manner) : Nat → List String → Looking (Bool × List String)
  | 0, words => return (false, words)
  | fuel + 1, words => do
    let (first, rest) ← lookBoth manner fuel words
    match rest with
    | "-o" :: rest => do
      let (second, rest) ← lookEither manner fuel rest
      return (first || second, rest)
    | _ => return (first, rest)

/-- Look at conditions all of which must hold. -/
def lookBoth (manner : Manner) : Nat → List String → Looking (Bool × List String)
  | 0, words => return (false, words)
  | fuel + 1, words => do
    let (first, rest) ← lookNegated manner fuel words
    match rest with
    | "-a" :: rest => do
      let (second, rest) ← lookBoth manner fuel rest
      return (first && second, rest)
    | _ => return (first, rest)

/-- Look at a condition that may be negated. -/
def lookNegated (manner : Manner) : Nat → List String → Looking (Bool × List String)
  | 0, words => return (false, words)
  | fuel + 1, words => do
    match role manner words, words with
    | .not, _ :: rest => do
      let (value, rest) ← lookNegated manner fuel rest
      return (!value, rest)
    | _, _ => lookSingle manner fuel words

/-- Look at a single condition. -/
def lookSingle (manner : Manner) : Nat → List String → Looking (Bool × List String)
  | 0, words => return (false, words)
  | fuel + 1, words => do
    match role manner words, words with
    | .missing, _ => return (false, [])
    | .open, _ :: rest => do
      match rest with
      | ")" :: rest => return (false, rest)
      | _ => do
        let (value, rest) ← lookEither manner fuel rest
        match rest with
        | ")" :: rest => return (value, rest)
        | _ => throw (lacksClose manner)
    | .unary, [operator] => throw (lacksOperand manner operator)
    | .unary, operator :: operand :: rest => do
      match operator with
      | "-n" => return (!operand.isEmpty, rest)
      | "-z" => return (operand.isEmpty, rest)
      | "-t" => do
        let _ ← integer manner operand
        return (false, rest)
      | _ => return (← fileTest operator operand, rest)
    | _, first :: operator :: rest => do
      if plainRole manner operator = .binary then
        match rest with
        | second :: rest => return (← compareWords manner first operator second, rest)
        | [] => throw (lacksOperand manner operator)
      else return (!first.isEmpty, operator :: rest)
    | _, [word] => return (!word.isEmpty, [])
    | _, [] => return (false, [])
end

/-- Look at words by their number where that decides what they are. -/
def lookAll (manner : Manner) : Nat → List String → Looking Bool
  | 0, _ => return false
  | fuel + 1, words => do
    match words with
    | [] => return false
    | [word] => return !word.isEmpty
    | "!" :: rest =>
      if rest.length ≤ 3 && !(rest.length = 2 && plainRole manner (rest.headD "") = .binary) then
        return !(← lookAll manner fuel rest)
      else general words
    | [first, operator, second] =>
      if plainRole manner operator = .binary then compareWords manner first operator second
      else if first = "(" && second = ")" then lookAll manner fuel [operator]
      else general words
    | [first, a, b, last] =>
      if first = "(" && last = ")" then lookAll manner fuel [a, b] else general words
    | _ => general words
where
  /-- Look at words by the grammar of conditions. -/
  general (words : List String) : Looking Bool := do
    let (value, rest) ← lookEither manner (8 * words.length + 8) words
    match rest with
    | [] => return value
    | word :: _ =>
      let last := words.getD (words.length - rest.length - 1) word
      throw (tooMany manner (if manner = .plainShell then last else word))

/-- Whether words are a condition that holds. -/
def holds (manner : Manner) (words : List String) : Step (Except String Bool) :=
  (lookAll manner (words.length + 1) words).run

/-- The words between brackets, if there is a closing one. -/
def betweenBrackets? (words : List String) : Option (List String) :=
  if words.getLast? = some "]" then some words.dropLast else none

end Metamorph.Sandbox.Condition

namespace Metamorph.Sandbox

namespace Tool

/-- Say by the exit code whether words are a condition that holds. -/
def test : Tool := fun _ arguments => do
  match ← Condition.holds .program arguments with
  | .ok value => return if value then 0 else 1
  | .error why => fail "test" 2 why

/-- The same with brackets around the words. -/
def bracket : Tool := fun _ arguments => do
  match Condition.betweenBrackets? arguments with
  | none => fail "[" 2 "missing ']'"
  | some words =>
    match ← Condition.holds .program words with
    | .ok value => return if value then 0 else 1
    | .error why => fail "[" 2 why

end Tool

end Metamorph.Sandbox
