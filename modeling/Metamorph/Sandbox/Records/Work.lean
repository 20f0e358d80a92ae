import Metamorph.Sandbox.Tool.Basic
import Metamorph.Sandbox.Records.Reader
import Metamorph.Sandbox.Records.Value

/-! # The state of a program on records

The variables, the record with its fields, and the inputs and outputs that are open. The fields
of a record are looked for when they are needed, with the separator that was set when the record
came. -/

namespace Metamorph.Sandbox.Records

/-- What a name of a function stands for. -/
inductive Local where
  | value (value : Value)
  | array (number : Nat)
  /-- Nothing so far; an array that it may turn out to be has this number. -/
  | undecided (number : Nat)

/-- What a record is, and its fields. -/
structure Record where
  text : List Char := []
  /-- The separator of the fields. -/
  separator : List Char := [' ']
  /-- The fields, as soon as somebody has needed them. -/
  fields : Option (List Value) := none
  /-- Whether fields were changed, so that the text must be put together. -/
  isChanged : Bool := false

/-- Why a program leaves what it does. -/
inductive Stop where
  | failure (message : String)
  | leave
  | nextRecord
  | nextFile
  | loopEnd
  | loopAgain
  | answer (value : Value)

/-- What records are read of: a stream, and a text that was read of it already. -/
structure Source where
  stream : Nat
  text : List Char := []
  /-- Whether nothing more comes. -/
  isAtEnd : Bool := false
  /-- The program that writes what is read. -/
  writer : Option Nat := none

/-- The state of a program. -/
structure Work where
  script : Script
  /-- How other programs are run. -/
  runner : Runner
  values : List (String × Value) := []
  arrayNumbers : List (String × Nat) := []
  arrays : List (Nat × Table) := []
  nextArray : Nat := 0
  /-- The names of the functions that run, the innermost first. -/
  frames : List (List (String × Local)) := []
  /-- How many values the functions that run have. -/
  cells : Nat := 0
  record : Record := {}
  /-- The input, if one is open. -/
  input : Option Source := none
  /-- The number of the next argument that names an input. -/
  nextInput : Nat := 1
  /-- Whether an input was open before. -/
  hadInput : Bool := false
  /-- The files and the outputs of commands that are read. -/
  sources : List (String × Source) := []
  /-- The files that are open for output. -/
  targets : List String := []
  /-- What commands are to read, the last part first. -/
  commands : List (String × List (List Char)) := []
  /-- The conditions that hold from one record to another one, and have begun. -/
  ranges : List Nat := []
  /-- What was written and waits to be passed on, the last part first. -/
  written : List (List Char) := []
  /-- How much of it there is. -/
  size : Nat := 0
  code : Nat := 0
  seed : Nat := 1

/-- A step of a program; a stop ends it. -/
abbrev Act := ExceptT Stop (StateT Work Step)

namespace Act

/-- Do something outside of the program. -/
def outside {α : Type} (step : Step α) : Act α :=
  ExceptT.lift (StateT.lift step)

/-- The value of a variable outside of functions. -/
def global (name : String) : Act Value := do
  return ((← get).values.lookup name).getD .unset

/-- Set a variable outside of functions. -/
def setGlobal (name : String) (value : Value) : Act Unit :=
  modify fun work =>
    { work with values := (name, value) :: work.values.filter fun entry => entry.1 ≠ name }

/-- The format of numbers that become texts. -/
def numberFormat : Act (List Char) := do
  return (← global "CONVFMT").toText []

/-- The text of a value. -/
def textOf (value : Value) : Act (List Char) := do
  match value with
  | .number _ => return value.toText (← numberFormat)
  | _ => return value.toText []

/-- The text of a variable outside of functions. -/
def globalText (name : String) : Act (List Char) := do
  textOf (← global name)

/-- Fail with the place that has been reached in the input. -/
def fail {α : Type} (text : String) : Act α := do
  let shown (name : String) : Act String := do
    return String.ofList (← globalText name)
  let number (name : String) : Act String := do
    return String.ofList ((Value.number (← global name).toNumber).toText [])
  throw (.failure ("run time error: " ++ text ++ "\n\tFILENAME=\"" ++ (← shown "FILENAME")
    ++ "\" FNR=" ++ (← number "FNR") ++ " NR=" ++ (← number "NR")))

/-- The expression in a text. -/
def regexIn (text : List Char) : Act Regex := do
  match regexOf text with
  | .ok regex => return regex
  | .error fault => throw (.failure (regexMessage fault text))

/-- The parts of a text between separators. -/
def separate (separator text : List Char) : Act (List (List Char)) := do
  if text.isEmpty then return []
  else
    match separator with
    | [' '] => return wordsOf text
    | [] => return text.map fun c => [c]
    | [c] => return splitAt c text
    | _ => return splitBy (← regexIn separator) text

/-- The fields of the record. -/
def fields : Act (List Value) := do
  let record := (← get).record
  match record.fields with
  | some fields => return fields
  | none => do
    let isParagraph := (← globalText "RS").isEmpty
    let parts ←
      match record.separator with
      | [' '] => separate [' '] record.text
      | [c] =>
        if isParagraph then do
          let lines ← separate ['\n'] record.text
          pure (← lines.mapM (separate [c])).flatten
        else separate [c] record.text
      | separator => separate separator record.text
    let fields := parts.map Value.input
    modify fun work => { work with record := { work.record with fields := some fields } }
    return fields

/-- Replace the record. -/
def setRecord (text : List Char) : Act Unit := do
  let separator ← globalText "FS"
  modify fun work => { work with record := { text, separator } }

/-- The text of the record. -/
def recordText : Act (List Char) := do
  let record := (← get).record
  if !record.isChanged then return record.text
  else
    let separator ← globalText "OFS"
    let parts ← (← fields).mapM textOf
    let text := separator.intercalate parts
    modify fun work => { work with record := { work.record with text, isChanged := false } }
    return text

/-- Pass on what was written. -/
def flush : Act Unit := do
  let written := (← get).written.reverse
  modify fun work => { work with written := [], size := 0 }
  outside (Step.write 1 written.flatten)
  if ← outside Step.isKilled then throw .leave

/-- How much is written before it is passed on. -/
def mostWritten : Nat := 8192

/-- Write to the output. -/
def write (text : List Char) : Act Unit := do
  modify fun work =>
    { work with written := text :: work.written, size := work.size + text.length }
  if mostWritten ≤ (← get).size then flush

/-- Set how many fields there are. -/
def setFieldCount (count : Nat) : Act Unit := do
  let before ← fields
  let fields := before.take count ++ List.replicate (count - before.length) (Value.input [])
  modify fun work =>
    { work with record := { work.record with fields := some fields, isChanged := true } }

/-- The field with a number. -/
def field (number : Int) : Act Value := do
  if number < 0 then fail ("negative field index $" ++ toString number)
  else if number = 0 then return .input (← recordText)
  else return ((← fields)[number.toNat - 1]?).getD .unset

/-- Set the field with a number. -/
def setField (number : Int) (value : Value) : Act Unit := do
  if number < 0 then fail ("negative field index $" ++ toString number)
  else if number = 0 then setRecord (← textOf value)
  else
    let place := number.toNat - 1
    if (← fields).length ≤ place then setFieldCount (place + 1)
    let fields := (← fields).set place value
    modify fun work =>
      { work with record := { work.record with fields := some fields, isChanged := true } }

/-- What a name stands for in the function that runs. -/
def local? (name : String) : Act (Option Local) := do
  match (← get).frames with
  | frame :: _ => return frame.lookup name
  | [] => return none

/-- Change what a name stands for in the function that runs. -/
def setLocal (name : String) (meaning : Local) : Act Unit :=
  modify fun work =>
    match work.frames with
    | frame :: rest =>
      let frame := frame.map fun entry => if entry.1 = name then (name, meaning) else entry
      { work with frames := frame :: rest }
    | [] => work

/-- The value of a variable. -/
def valueOf (name : String) : Act Value := do
  match ← local? name with
  | some (.value value) => return value
  | some _ => return .unset
  | none =>
    if name = "NF" then return .number (Float.ofNat (← fields).length)
    else global name

/-- Set a variable. -/
def setValue (name : String) (value : Value) : Act Unit := do
  match ← local? name with
  | some _ => setLocal name (.value value)
  | none =>
    if name = "NF" then do
      let count := Value.toInteger value.toNumber
      if count < 0 then fail "negative value assigned to NF"
      setFieldCount count.toNat
    else setGlobal name value

/-- A number for a new array. -/
def newArray : Act Nat :=
  modifyGet fun work => (work.nextArray, { work with nextArray := work.nextArray + 1 })

/-- The number of the array that a name stands for. -/
def arrayOf (name : String) : Act Nat := do
  match ← local? name with
  | some (.array number) => return number
  | some (.undecided number) => do
    setLocal name (.array number)
    return number
  | some (.value _) => fail ("illegal reference to variable " ++ name)
  | none =>
    match (← get).arrayNumbers.lookup name with
    | some number => return number
    | none => do
      let number ← newArray
      modify fun work => { work with arrayNumbers := (name, number) :: work.arrayNumbers }
      return number

/-- An array. -/
def table (number : Nat) : Act Table := do
  return ((← get).arrays.lookup number).getD {}

/-- Replace an array. -/
def setTable (number : Nat) (table : Table) : Act Unit :=
  modify fun work =>
    { work with
      arrays := (number, table) :: work.arrays.filter fun entry => entry.1 ≠ number }

/-- The value at an index of an array, which is put in if it is missing. -/
def item (number : Nat) (isNumber : Bool) (index : String) : Act Value := do
  let table ← table number
  match table.find? index with
  | some value => return value
  | none => do
    setTable number (table.insert isNumber index .unset)
    return .unset

/-- What the name of an argument stands for in the function that is called. -/
def meaningOf (name : String) : Act Local := do
  match ← local? name with
  | some meaning => return meaning
  | none => do
    let work ← get
    match work.values.lookup name, work.arrayNumbers.lookup name with
    | some value, _ => return .value value
    | none, some number =>
      if ((← get).arrays.lookup number).isSome then return .array number
      else return .undecided number
    | none, none =>
      if name = "NF" then return .value (← valueOf name)
      else return .undecided (← arrayOf name)

end Act

end Metamorph.Sandbox.Records
