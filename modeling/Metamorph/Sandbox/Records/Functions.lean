import Metamorph.Sandbox.Records.Streams
import Metamorph.Sandbox.Tool.Wrapping

/-! # Functions of records

How values are written by a format, and the functions that programs over records can call. -/

namespace Metamorph.Sandbox.Records.Act

/-! ## Formatted values

Values are put into a format one after the other. -/

/-- The text of a value by a directive. -/
def writeValue (directive : Directive) (value : Value) : Act (List Char) := do
  let number := value.toNumber
  match directive.conversion with
  | 's' => return directive.ofText (← textOf value)
  | 'c' =>
    let text :=
      match value with
      | .number value => [Char.ofNat ((Value.toInteger value) % 256).toNat]
      | _ => if (value.toText []).isEmpty then [Char.ofNat 0] else (value.toText []).take 1
    return directive.fill false [] text
  | conversion =>
    if Directive.isReal conversion then return Value.writeNumber directive number
    else
      let n := Value.toInteger number
      if n ≤ Int64.maxValue.toInt then return directive.ofInt n
      else
        let unsigned := if conversion = 'd' || conversion = 'i' then 'u' else conversion
        return { directive with conversion := unsigned }.ofInt n

/-- Put values into a format: the text as far as it goes, and what keeps it from going on. The fuel
bounds the length of the format. -/
def formatWithin (name : String) (format : List Char) :
    Nat → List Char → List Value → Act (List Char × Option String)
  | 0, _, _ => return ([], none)
  | _ + 1, [], _ => return ([], none)
  | fuel + 1, '%' :: '%' :: rest, values => do
    let (text, fault) ← formatWithin name format fuel rest values
    return ('%' :: text, fault)
  | fuel + 1, '%' :: rest, values => do
    let call := name ++ "(\"" ++ String.ofList format ++ "\")"
    let lacking : List Char × Option String := ([], some ("not enough arguments passed to " ++ call))
    match OpenDirective.read? rest with
    | none => return lacking
    | some (directive, rest) =>
      match values.drop directive.extra with
      | [] => return lacking
      | value :: left => do
        let known := ['d', 'i', 'o', 'u', 'x', 'X', 'c', 's'].contains directive.conversion
          || Directive.isReal directive.conversion
        if !known then return ([], some ("improper conversion(number 1) in " ++ call))
        else
          let numbers := (values.take directive.extra).map fun value =>
            Value.toInteger value.toNumber
          let text ← writeValue (directive.close numbers) value
          let (more, fault) ← formatWithin name format fuel rest left
          return (text ++ more, fault)
  | fuel + 1, c :: rest, values => do
    let (text, fault) ← formatWithin name format fuel rest values
    return (c :: text, fault)

/-- Put values into a format, the first one of them. -/
def format (name : String) (values : List Value) : Act (List Char × Option String) := do
  match values with
  | [] => return ([], none)
  | first :: values => do
    let text ← textOf first
    formatWithin name text (text.length + 1) text values

/-! ## Functions that every program has

What the functions on numbers, texts and commands answer, once their arguments have values. -/

/-- The number of an argument. -/
def numberAt (values : List Value) (place : Nat) : Float :=
  ((values[place]?).getD .unset).toNumber

/-- The text of an argument. -/
def textAt (values : List Value) (place : Nat) : Act (List Char) :=
  textOf ((values[place]?).getD .unset)

/-- The text of an argument as a name. -/
def nameAt (values : List Value) (place : Nat) : Act String := do
  return String.ofList (← textAt values place)

/-- A number of a natural one. -/
def ofNat (n : Nat) : Value :=
  .number (Float.ofNat n)

/-- A number of an integer. -/
def ofInt (n : Int) : Value :=
  .number (Float.ofInt n)

/-- The next number of a row that looks like chance, from zero up to one. -/
def nextRandom : Act Float := do
  let work ← get
  let seed := (work.seed * 1103515245 + 12345) % 0x80000000
  set { work with seed }
  return Float.ofNat seed / 2147483648.0

/-- Set where the row of numbers that look like chance begins; the answer is where it began. -/
def setSeed (values : List Value) : Act Value := do
  let work ← get
  let now := (← outside get).world.seconds
  let seed := if values.isEmpty then now.toNat
    else (Value.toInteger (numberAt values 0)).toNat
  set { work with seed }
  return ofNat work.seed

/-- The answer of a function on numbers. -/
def calculateBuiltin? (which : Builtin) (x y : Float) : Option Float :=
  match which with
  | .sine => some x.sin
  | .cosine => some x.cos
  | .arcTangent => some (x.atan2 y)
  | .exponential => some x.exp
  | .logarithm => some x.log
  | .root => some x.sqrt
  | .integer => some (Value.truncate x)
  | _ => none

/-- Look for an expression in a text, and set where it was found. -/
def find (regex : Regex) (text : List Char) : Act Value := do
  let (start, length) : Int × Int :=
    match regex.search? {} text 0 with
    | some found => ((found.first : Int) + 1, (found.last : Int) - found.first)
    | none => (0, -1)
  setGlobal "RSTART" (ofInt start)
  setGlobal "RLENGTH" (ofInt length)
  return ofInt start

/-- The answer of a function whose arguments all have values. -/
def answer (which : Builtin) (values : List Value) : Act Value := do
  match calculateBuiltin? which (numberAt values 0) (numberAt values 1) with
  | some value => return .number value
  | none =>
    match which with
    | .length => return ofNat (← textAt values 0).length
    | .substring => do
      let start := Value.toInteger (numberAt values 1)
      let length := (values[2]?).map fun value => Value.toInteger value.toNumber
      return .text (partOf (← textAt values 0) start length)
    | .index => return ofNat (indexOf (← textAt values 1) 1 (← textAt values 0))
    | .format => do
      let (text, fault) ← format "sprintf" values
      match fault with
      | some why => fail why
      | none => return .text text
    | .random => return .number (← nextRandom)
    | .seed => setSeed values
    | .lower => return .text ((← textAt values 0).map Char.toLower)
    | .upper => return .text ((← textAt values 0).map Char.toUpper)
    | .close => return ofInt (← close (← nameAt values 0))
    | .flush => do
      flush
      return ofNat 0
    | .system => do
      flush
      let runner := (← get).runner
      match ← outside (runner.run (commandWords (← nameAt values 0))) with
      | .ok status => return ofInt (codeOf status)
      | .error _ => return ofInt 127
    | .time => do
      return ofNat (← outside get).world.seconds.toNat
    | _ => return ofNat 0

end Metamorph.Sandbox.Records.Act
