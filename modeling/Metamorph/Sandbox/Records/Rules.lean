import Metamorph.Sandbox.Records.Reader

/-! # Reading rules and functions

Statements end with their line, with a semicolon or with the block that they stand in. A program
is made of rules and functions, and everything that it calls must be defined somewhere in it. -/

namespace Metamorph.Sandbox.Records

namespace Reading

/-- Take the end of a statement. -/
def endStatement : Reading Unit := do
  match ← peek with
  | .sign ";" => do
    skip
    skipLineEnds
  | .lineEnd => skipLineEnds
  | .sign "\x7d" => pure ()
  | .fileEnd => pure ()
  | _ => refuse

/-- Whether the statement that is read ends here. -/
def isAtEnd : Reading Bool := do
  match ← peek with
  | .sign ";" => return true
  | .sign "\x7d" => return true
  | .lineEnd => return true
  | .fileEnd => return true
  | _ => return false

/-- Read where output goes, if that is said. -/
def readDirection (fuel : Nat) : Reading (Option (Direction × Expression)) := do
  let direction? : Option Direction :=
    [(Token.sign ">", Direction.write), (.sign ">>", .append), (.sign "|", .command)].lookup
      (← peek)
  match direction? with
  | none => return none
  | some direction => do
    skip
    return some (direction, ← settle (← readExpression fuel { printing := true }))

/-- Read what is written, and where it goes. -/
def readOutput (fuel : Nat) : Reading (List Expression × Option (Direction × Expression)) := do
  let ends : Bool := (← isAtEnd) || (← isAt ">") || (← isAt ">>") || (← isAt "|")
  let parts ←
    if ends then pure []
    else do
      let rec more : Nat → Reading (List Expression)
        | 0 => return []
        | count + 1 => do
          let part ← settle (← readExpression fuel { printing := true })
          if ← takes "," then
            skipLineEnds
            return part :: (← more count)
          else return [part]
      more fuel
  let parts :=
    match parts with
    | [.groups inner] => inner
    | [.group inner] => [inner]
    | _ => parts
  return (parts, ← readDirection fuel)

/-- Read what is deleted: an array, or one of its values. -/
def readDelete (fuel : Nat) : Reading Statement := do
  match ← peek with
  | .name name => do
    skip
    learn name true
    if ← takes "[" then return .delete name (← readIndices fuel) else return .deleteAll name
  | _ => refuse

/-- Read a statement that has no other statements in it. -/
def readPlain (fuel : Nat) : Reading Statement := do
  let optional : Reading (Option Expression) := do
    if ← isAtEnd then return none
    else return some (← settle (← readExpression fuel {}))
  match ← peek with
  | .name "print" => do
    skip
    let (parts, target) ← readOutput fuel
    return .print parts target
  | .name "printf" => do
    skip
    let (parts, target) ← readOutput fuel
    if parts.isEmpty then fail "no arguments in call to printf"
    return .printFormat parts target
  | .name "next" => do
    if !(← get).inRule then fail "improper use of next"
    skip
    return .next
  | .name "nextfile" => do
    if !(← get).inRule then fail "improper use of nextfile"
    skip
    return .nextFile
  | .name "exit" => do
    skip
    return .leave (← optional)
  | .name "return" => do
    if (← get).parameters.isNone then fail "return outside function body"
    skip
    return .giveBack (← optional)
  | .name "break" => do
    if (← get).loops = 0 then fail "break statement outside of loop"
    skip
    return .breakLoop
  | .name "continue" => do
    if (← get).loops = 0 then fail "continue statement outside of loop"
    skip
    return .continueLoop
  | .name "delete" => do
    skip
    readDelete fuel
  | _ => return .evaluate (← settle (← readExpression fuel {}))

/-- Read something inside of a loop. -/
def inLoop {α : Type} (body : Reading α) : Reading α := do
  modify fun state => { state with loops := state.loops + 1 }
  let result ← body
  modify fun state => { state with loops := state.loops - 1 }
  return result

/-- Read the indices that a loop goes through, if that is what stands in the parentheses. -/
def readLoopIndices? : Reading (Option (String × String)) := do
  let tokens : List Token := (← get).words.map (·.token)
  match tokens with
  | .name name :: .name "in" :: .name array :: .sign ")" :: _ => do
    if Token.keywords.contains name then return none
    else
      modify fun state => { state with words := state.words.drop 4 }
      learn name false
      learn array true
      return some (name, array)
  | _ => return none

mutual
/-- Read a statement or a block. The fuel bounds the depth. -/
def readStatement : Nat → Reading (List Statement)
  | 0 => refuse
  | fuel + 1 => do
    match ← peek with
    | .sign "\x7b" => do
      let body ← readBlock fuel
      if ← isAt ";" then
        skip
      skipLineEnds
      return body
    | .sign ";" => do
      skip
      skipLineEnds
      return []
    | .sign "\x7d" => return []
    | .name "if" => do
      let condition ← readCondition fuel
      let first ← readStatement fuel
      skipLineEnds
      if ← isAtName "else" then do
        skip
        skipLineEnds
        return [.branch condition first (← readStatement fuel)]
      else return [.branch condition first []]
    | .name "while" => do
      let condition ← readCondition fuel
      return [.whileLoop condition (← inLoop (readStatement fuel))]
    | .name "do" => do
      skip
      skipLineEnds
      let body ← inLoop (readStatement fuel)
      skipLineEnds
      if !(← isAtName "while") then refuse
      skip
      expect "("
      let condition ← settle (← readExpression fuel {})
      expectClosing
      endStatement
      return [.doLoop body condition]
    | .name "for" => do
      skip
      expect "("
      match ← readLoopIndices? with
      | some (name, array) => do
        skipLineEnds
        return [.forIndices name array (← inLoop (readStatement fuel))]
      | none => do
        let start ← if ← isAt ";" then do pure [] else do pure [← readPlain fuel]
        expect ";"
        skipLineEnds
        let condition ←
          if ← isAt ";" then do pure none
          else do pure (some (← settle (← readExpression fuel {})))
        expect ";"
        skipLineEnds
        let step ← if ← isAt ")" then do pure [] else do pure [← readPlain fuel]
        expectClosing
        skipLineEnds
        return [.forLoop start condition step (← inLoop (readStatement fuel))]
    | _ => do
      let statement ← readPlain fuel
      endStatement
      return [statement]

/-- Read a condition behind its word. -/
def readCondition : Nat → Reading Expression
  | 0 => refuse
  | fuel + 1 => do
    skip
    expect "("
    let condition ← settle (← readExpression fuel {})
    if !(← takes ")") then refuse
    skipLineEnds
    return condition

/-- Read a block with its braces. -/
def readBlock : Nat → Reading (List Statement)
  | 0 => refuse
  | fuel + 1 => do
    expect "\x7b"
    skipSeparators
    readStatements fuel

/-- Read statements up to a closing brace. -/
def readStatements : Nat → Reading (List Statement)
  | 0 => refuse
  | fuel + 1 => do
    skipSeparators
    match ← peek with
    | .sign "\x7d" => do
      skip
      return []
    | .fileEnd => fail "missing \x7d near end of file"
    | _ => do
      let first ← readStatement fuel
      return first ++ (← readStatements fuel)
end

/-- Read the names of parameters up to the closing parenthesis. -/
def readParameters (function : String) : Nat → Reading (List String)
  | 0 => refuse
  | fuel + 1 => do
    skipLineEnds
    match ← peek with
    | .sign ")" => do
      skip
      return []
    | .name name => do
      if name = function then fail "function parameter cannot be the function"
      skip
      skipLineEnds
      if ← takes "," then return name :: (← readParameters function fuel)
      else do
        expect ")"
        return [name]
    | _ => refuse

/-- Read a function behind its word. -/
def readDefinition (fuel : Nat) : Reading (String × Definition) := do
  let name ←
    match ← peek with
    | .called name => pure name
    | .name name => pure name
    | _ => refuse
  skip
  expect "("
  let parameters ← readParameters name fuel
  skipLineEnds
  modify fun state => { state with parameters := some parameters, own := [], inRule := false }
  let body ← readBlock fuel
  modify fun state => { state with parameters := none, own := [] }
  return (name, { parameters, body })

/-- Read for which records a rule is meant. -/
def readWhen (fuel : Nat) : Reading Condition := do
  match ← peek with
  | .sign "\x7b" => return .always
  | .name "BEGIN" => do
    skip
    return .start
  | .name "END" => do
    skip
    return .finish
  | _ => do
    let first ← settle (← readExpression fuel {})
    if ← takes "," then do
      skipLineEnds
      let last ← settle (← readExpression fuel {})
      modifyGet fun state =>
        (.range state.ranges first last, { state with ranges := state.ranges + 1 })
    else return .holds first

/-- Read a rule. Where nothing is said, records are written. -/
def readRule (fuel : Nat) : Reading Rule := do
  let condition ← readWhen fuel
  let isRule : Bool := match condition with | .start => false | .finish => false | _ => true
  modify fun state => { state with inRule := isRule, loops := 0 }
  if ← isAt "\x7b" then return { condition, body := ← readBlock fuel }
  else if isRule && (← isAtEnd) then return { condition, body := [.print [] none] }
  else refuse

/-- Read rules and functions up to the end of the program. -/
def readScript : Nat → Reading Script
  | 0 => return {}
  | fuel + 1 => do
    skipSeparators
    match ← peek with
    | .fileEnd => return {}
    | .sign "\x7d" => do
      let line := (← here).line
      skip
      let next := (← peek).shown
      let front := "line " ++ toString line ++ ": "
      throw { text := front ++ "extra '\x7d'", more := [front ++ "syntax error at or near " ++ next] }
    | .name "function" => do
      skip
      let definition ← readDefinition fuel
      let script ← readScript fuel
      return { script with definitions := definition :: script.definitions }
    | _ => do
      let rule ← readRule fuel
      let script ← readScript fuel
      return { script with rules := rule :: script.rules }

/-- The names of the functions that words define. -/
def definedNames : List Token → List String
  | .name "function" :: .called name :: rest => name :: definedNames rest
  | .name "function" :: .name name :: rest => name :: definedNames rest
  | _ :: rest => definedNames rest
  | [] => []

end Reading

/-- Read a program. -/
def readScript (program : List Char) : Except (List String) Script := do
  match words program with
  | .error fault => throw (fault.text :: fault.more)
  | .ok words =>
    let functions := Reading.definedNames (words.map (·.token))
    let fuel := 20 * words.length + 100
    match (Reading.readScript fuel).run { words, functions } with
    | .error fault => throw (fault.text :: fault.more)
    | .ok (script, state) =>
      let missing := ((state.calls.map (·.1)).filter fun name => !functions.contains name).eraseDups
      let excess := state.calls.reverse.filterMap fun (name, count, line) =>
        match script.definitions.lookup name with
        | some definition =>
          if definition.parameters.length < count then
            some ("line " ++ toString line ++ ": too many arguments in call to " ++ name)
          else none
        | none => none
      if !excess.isEmpty then throw excess
      else if missing.isEmpty then return script
      else
        let line := ((words.getLast?).map (·.line)).getD 1
        throw (missing.map fun name =>
          "line " ++ toString line ++ ": function " ++ name ++ " never defined")

end Metamorph.Sandbox.Records
