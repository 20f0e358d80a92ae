import Metamorph.Sandbox.Records.Functions

/-! # Running programs on records

Expressions have values and effects, and statements have effects. What is nested, in the program
or by calls of functions, is bounded by some fuel; loops are bounded by a number of turns. -/

namespace Metamorph.Sandbox.Records.Act

/-- How many turns a loop may have; one that needs more never ends. -/
def mostTurns : Nat := 1000000

/-- How many values the functions that run may have together. -/
def mostCells : Nat := 1024

/-- How deep what runs may be nested. -/
def mostDepth : Nat := 12000

/-- Do something as long as a condition holds. -/
def repeatWhile (condition : Act Bool) (body : Act Bool) : Nat → Act Unit
  | 0 => do
    outside Step.workForever
    throw .leave
  | turns + 1 => do
    if ← condition then
      if ← body then repeatWhile condition body turns

/-- Do the body of a loop, and say whether the loop goes on. -/
def turn (body : Act Unit) : Act Bool :=
  tryCatch (do
    body
    return true) fun stop =>
      match stop with
      | .loopEnd => return false
      | .loopAgain => return true
      | other => throw other

/-- Do something for each of some texts, until one of them ends the loop. -/
def forTexts (body : String → Act Unit) : List String → Act Unit
  | [] => pure ()
  | text :: rest => do
    if ← turn (body text) then forTexts body rest

/-- The index that values make. -/
def indexOfValues (values : List Value) : Act String := do
  let separator ← globalText "SUBSEP"
  return String.ofList (separator.intercalate (← values.mapM textOf))

/-- The number of a field that a value names. -/
def fieldNumber (value : Value) : Int :=
  Value.toInteger value.toNumber

/-- The expression that a part of a program stands for where one is asked for, if it is fixed. -/
def fixedRegex? : Expression → Option Regex
  | .regex regex => some regex
  | .group (.regex regex) => some regex
  | _ => none

/-- A value for what was read: more than nothing, nothing, or a failure. -/
def readAnswer (found : Option (Option (List Char))) : Value :=
  match found with
  | some (some _) => ofInt 1
  | some none => ofInt 0
  | none => ofInt (-1)

mutual
/-- The value of an expression. -/
def evaluate : Nat → Expression → Act Value
  | 0, _ => throw (.failure "program limit exceeded: eval stack size=1024")
  | fuel + 1, expression => do
    match expression with
    | .number value => return .number value
    | .text characters => return .text characters
    | .regex regex => return .ofBool (regex.isFound (← recordText))
    | .named name => valueOf name
    | .field index => do field (fieldNumber (← evaluate fuel index))
    | .item array indices => do
      let index ← evaluateIndex fuel indices
      item (← arrayOf array) index.2 index.1
    | .assign target value => do
      let value ← evaluate fuel value
      assign fuel target value
      return value
    | .update how target value => do
      let amount ← evaluate fuel value
      let before ← evaluate fuel target
      let value := Value.number (Value.calculate how before.toNumber amount.toNumber)
      assign fuel target value
      return value
    | .bump amount isBefore target => do
      let before := (← evaluate fuel target).toNumber
      assign fuel target (.number (before + amount))
      return .number (if isBefore then before else before + amount)
    | .arithmetic how left right => do
      let x ← evaluate fuel left
      let y ← evaluate fuel right
      return .number (Value.calculate how x.toNumber y.toNumber)
    | .negative body => return .number (-(← evaluate fuel body).toNumber)
    | .positive body => return .number (← evaluate fuel body).toNumber
    | .join left right => do
      let x ← evaluate fuel left
      let first ← textOf x
      let y ← evaluate fuel right
      return .text (first ++ (← textOf y))
    | .compare how left right => do
      let x ← evaluate fuel left
      let y ← evaluate fuel right
      return .ofBool (Value.compare (← numberFormat) how x y)
    | .matching negated text pattern => do
      let text ← textOf (← evaluate fuel text)
      let regex ← evaluateRegex fuel pattern
      return .ofBool (regex.isFound text != negated)
    | .isIndex indices array => do
      let index ← evaluateIndex fuel indices
      return .ofBool ((← table (← arrayOf array)).find? index.1).isSome
    | .both left right => do
      if (← evaluate fuel left).isTrue then return .ofBool (← evaluate fuel right).isTrue
      else return .ofBool false
    | .either left right => do
      if (← evaluate fuel left).isTrue then return .ofBool true
      else return .ofBool (← evaluate fuel right).isTrue
    | .not body => return .ofBool !(← evaluate fuel body).isTrue
    | .choice condition first second => do
      if (← evaluate fuel condition).isTrue then evaluate fuel first else evaluate fuel second
    | .group body => evaluate fuel body
    | .groups parts => return .text (← evaluateIndex fuel parts).1.toList
    | .call name arguments => call fuel name arguments
    | .builtin which arguments => builtin fuel which arguments
    | .readRecord target => do
      let found ← nextRecord? mostInputs
      match found with
      | some text => take fuel target text
      | none => pure ()
      return readAnswer (some found)
    | .readFile target path => do
      let path := String.ofList (← textOf (← evaluate fuel path))
      let found ← readFromFile path
      match found with
      | some (some text) => take fuel target text
      | _ => pure ()
      return readAnswer found
    | .readCommand target command => do
      let command := String.ofList (← textOf (← evaluate fuel command))
      let found ← readFromCommand command
      match found with
      | some (some text) => take fuel target text
      | _ => pure ()
      return readAnswer found

/-- Put a text that was read into a target, or make it the record. -/
def take : Nat → Option Expression → List Char → Act Unit
  | 0, _, _ => pure ()
  | fuel + 1, target, text =>
    match target with
    | some target => assign fuel target (.input text)
    | none => setRecord text

/-- Assign a value to a target. -/
def assign : Nat → Expression → Value → Act Unit
  | 0, _, _ => pure ()
  | fuel + 1, target, value => do
    match target with
    | .named name => setValue name value
    | .field index => do setField (fieldNumber (← evaluate fuel index)) value
    | .item array indices => do
      let index ← evaluateIndex fuel indices
      let number ← arrayOf array
      setTable number ((← table number).insert index.2 index.1 value)
    | .group body => assign fuel body value
    | _ => pure ()

/-- The index that expressions make, and whether it is a number. -/
def evaluateIndex : Nat → List Expression → Act (String × Bool)
  | 0, _ => return ("", false)
  | fuel + 1, indices => do
    let values ← evaluateAll fuel indices
    let isNumber : Bool := match values with | [.number _] => true | _ => false
    return (← indexOfValues values, isNumber)

/-- The values of expressions from the left to the right. -/
def evaluateAll : Nat → List Expression → Act (List Value)
  | 0, _ => return []
  | _ + 1, [] => return []
  | fuel + 1, first :: rest => do
    let value ← evaluate fuel first
    return value :: (← evaluateAll fuel rest)

/-- The expression that a part of a program stands for where one is asked for. -/
def evaluateRegex : Nat → Expression → Act Regex
  | 0, _ => return .empty
  | fuel + 1, pattern =>
    match fixedRegex? pattern with
    | some regex => return regex
    | none => do regexIn (← textOf (← evaluate fuel pattern))

/-- The answer of a function that every program has. -/
def builtin : Nat → Builtin → List Expression → Act Value
  | 0, _, _ => return .unset
  | fuel + 1, which, arguments => do
    match which, arguments with
    | .length, [] => return ofNat (← recordText).length
    | .length, [.named name] => do
      let isArray : Bool ←
        match ← local? name with
        | some (.array _) => pure true
        | some (.undecided number) => do pure ((← get).arrays.lookup number).isSome
        | some (.value _) => pure false
        | none => do
          let work ← get
          pure ((work.arrayNumbers.lookup name).isSome && (work.values.lookup name).isNone)
      if isArray then return ofNat (← table (← arrayOf name)).size
      else answer .length [← valueOf name]
    | .split, text :: .named name :: separator => do
      let text ← textOf (← evaluate fuel text)
      let parts ←
        match separator with
        | [] => do separate (← globalText "FS") text
        | separator :: _ =>
          match fixedRegex? separator with
          | some regex => pure (if text.isEmpty then [] else splitBy regex text)
          | none => do separate (← textOf (← evaluate fuel separator)) text
      setTable (← arrayOf name) (Table.ofList (parts.map .input))
      return ofNat parts.length
    | .find, [text, pattern] => do
      let text ← textOf (← evaluate fuel text)
      find (← evaluateRegex fuel pattern) text
    | .replaceFirst, pattern :: replacement :: target =>
      replace fuel false pattern replacement (target.headD (.field (.number 0)))
    | .replaceAll, pattern :: replacement :: target =>
      replace fuel true pattern replacement (target.headD (.field (.number 0)))
    | _, _ => do answer which (← evaluateAll fuel arguments)

/-- Replace matches in the text of a target; the answer is their number. -/
def replace : Nat → Bool → Expression → Expression → Expression → Act Value
  | 0, _, _, _, _ => return .unset
  | fuel + 1, every, pattern, replacement, target => do
    let regex ← evaluateRegex fuel pattern
    let replacement ← textOf (← evaluate fuel replacement)
    let text ← textOf (← evaluate fuel target)
    let (count, text) := replaceIn regex every replacement text
    if count ≠ 0 then assign fuel target (.text text)
    return ofNat count

/-- Call a function of the program. -/
def call : Nat → String → List Expression → Act Value
  | 0, _, _ => throw (.failure "program limit exceeded: eval stack size=1024")
  | fuel + 1, name, arguments => do
    match (← get).script.definitions.lookup name with
    | none => return .unset
    | some definition => do
      let given ← meanings fuel arguments
      let missing ← (definition.parameters.drop given.length).mapM fun _ => do
        return Local.undecided (← newArray)
      let frame := definition.parameters.zip (given ++ missing)
      let cells := max 1 frame.length
      if mostCells < (← get).cells + cells then
        throw (.failure "program limit exceeded: eval stack size=1024")
      modify fun work => { work with frames := frame :: work.frames, cells := work.cells + cells }
      let result ← tryCatch (do
        execute fuel definition.body
        return Value.unset) fun stop =>
          match stop with
          | .answer value => return value
          | other => throw other
      modify fun work => { work with frames := work.frames.drop 1, cells := work.cells - cells }
      return result

/-- What the arguments of a function stand for in it. -/
def meanings : Nat → List Expression → Act (List Local)
  | 0, _ => return []
  | _ + 1, [] => return []
  | fuel + 1, first :: rest => do
    let meaning ←
      match first with
      | .named name => meaningOf name
      | _ => do pure (.value (← evaluate fuel first))
    return meaning :: (← meanings fuel rest)

/-- Carry out statements one after the other. -/
def execute : Nat → List Statement → Act Unit
  | 0, _ => throw (.failure "program limit exceeded: eval stack size=1024")
  | _ + 1, [] => pure ()
  | fuel + 1, statement :: rest => do
    carryOut fuel statement
    execute fuel rest

/-- Where a statement writes to. -/
def writeOut : Nat → Option (Direction × Expression) → List Char → Act Unit
  | 0, _, _ => pure ()
  | fuel + 1, target, text => do
    match target with
    | none => write text
    | some (direction, name) => do
      writeTo direction (String.ofList (← textOf (← evaluate fuel name))) text

/-- Carry out a statement. -/
def carryOut : Nat → Statement → Act Unit
  | 0, _ => throw (.failure "program limit exceeded: eval stack size=1024")
  | fuel + 1, statement => do
    let holds (condition : Expression) : Act Bool := do
      return (← evaluate fuel condition).isTrue
    match statement with
    | .evaluate body => do
      let _ ← evaluate fuel body
    | .print parts target => do
      let texts ←
        if parts.isEmpty then do pure [← recordText]
        else do
          let format ← globalText "OFMT"
          (← evaluateAll fuel parts).mapM fun value => pure (value.toText format)
      let separator ← globalText "OFS"
      let ending ← globalText "ORS"
      writeOut fuel target (separator.intercalate texts ++ ending)
    | .printFormat parts target => do
      let (text, fault) ← format "printf" (← evaluateAll fuel parts)
      writeOut fuel target text
      match fault with
      | some why => fail why
      | none => pure ()
    | .branch condition first second => do
      if ← holds condition then execute fuel first else execute fuel second
    | .whileLoop condition body =>
      repeatWhile (holds condition) (turn (execute fuel body)) mostTurns
    | .doLoop body condition => do
      if ← turn (execute fuel body) then
        repeatWhile (holds condition) (turn (execute fuel body)) mostTurns
    | .forLoop start condition step body => do
      execute fuel start
      let asks : Act Bool :=
        match condition with
        | some condition => holds condition
        | none => pure true
      repeatWhile asks (do
        let goesOn ← turn (execute fuel body)
        if goesOn then execute fuel step
        return goesOn) mostTurns
    | .forIndices name array body => do
      let indices := (← table (← arrayOf array)).indices
      forTexts (fun index => do
        setValue name (.text index.toList)
        execute fuel body) indices
    | .next => throw .nextRecord
    | .nextFile => throw .nextFile
    | .leave code => do
      match code with
      | some code => do
        let code := Value.toInteger (← evaluate fuel code).toNumber
        modify fun work => { work with code := (code % 256).toNat }
      | none => pure ()
      throw .leave
    | .giveBack value => do
      match value with
      | some value => throw (.answer (← evaluate fuel value))
      | none => throw (.answer .unset)
    | .breakLoop => throw .loopEnd
    | .continueLoop => throw .loopAgain
    | .delete array indices => do
      let index ← evaluateIndex fuel indices
      let number ← arrayOf array
      setTable number ((← table number).erase index.1)
    | .deleteAll array => do setTable (← arrayOf array) {}
end

end Metamorph.Sandbox.Records.Act
