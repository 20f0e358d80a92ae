import Metamorph.Json.Basic

/-! # Records in JSON

How values of the library's types are taken out of JSON. A record is an object with the
fields by name, unknown ones left aside, or an array with the fields by position. A choice
is the name of the chosen case, or an object with that name as its only field. -/

namespace Metamorph.Json

/-- A natural number below a limit. -/
def natBelow? (limit : Nat) : Json → Option Nat
  | .number (.whole (.ofNat n)) => if n < limit then some n else none
  | _ => none

/-- A 32 bit word. -/
def word32? (value : Json) : Option UInt32 :=
  (value.natBelow? UInt32.size).map Nat.toUInt32

/-- A 64 bit word. -/
def word64? (value : Json) : Option UInt64 :=
  (value.natBelow? UInt64.size).map Nat.toUInt64

/-- A count, which is a 64 bit number. -/
def count? (value : Json) : Option Nat :=
  value.natBelow? UInt64.size

/-- A signed 64 bit number. -/
def signed64? : Json → Option Int
  | .number (.whole n) => if -0x8000000000000000 ≤ n && n < 0x8000000000000000 then some n else none
  | _ => none

/-- A float; whole numbers are rounded to the nearest one. -/
def float? : Json → Option Float
  | .number (.whole (.ofNat n)) => some n.toUInt64.toFloat
  | .number (.whole (.negSucc n)) => some (-(n + 1).toUInt64.toFloat)
  | .number (.real x) => some x
  | _ => none

/-- A truth value. -/
def bool? : Json → Option Bool
  | .bool b => some b
  | _ => none

/-- A string. -/
def string? : Json → Option String
  | .text s => some s
  | _ => none

/-- A list whose items are all read. -/
def list? {α : Type} (read : Json → Option α) : Json → Option (List α)
  | .array items => items.mapM read
  | _ => none

/-- A value or null. -/
def optional? {α : Type} (read : Json → Option α) : Json → Option (Option α)
  | .null => some none
  | value => (read value).map some

/-- The value of a field that may be missing but must not be repeated. -/
def field? (fields : List (String × Json)) (name : String) : Option (Option Json) :=
  match fields.filter fun field => field.1 == name with
  | [] => some none
  | [field] => some (some field.2)
  | _ => none

/-- The fields of an object, each of which may be missing. -/
def objectFields? (names : List String) (fields : List (String × Json)) :
    Option (List (Option Json)) :=
  names.mapM (field? fields)

/-- The fields of a record that is written as an object. -/
def namedRecord? (names : List String) : Json → Option (List (Option Json))
  | .object fields => objectFields? names fields
  | _ => none

/-- The fields of a record. One written as an array has all of them. -/
def record? (names : List String) : Json → Option (List (Option Json))
  | .array items => if items.length = names.length then some (items.map some) else none
  | value => value.namedRecord? names

/-- The fields of a record that has a default for each of them. One written as an array may
break off. -/
def defaultedRecord? (names : List String) : Json → Option (List (Option Json))
  | .object fields => objectFields? names fields
  | .array items =>
    if items.length ≤ names.length then
      some (items.map some ++ List.replicate (names.length - items.length) none)
    else none
  | _ => none

/-- Read a field that must be there. -/
def required? {α : Type} (read : Json → Option α) : Option Json → Option α
  | some value => read value
  | none => none

/-- Read a field that has a default. -/
def defaulted? {α : Type} (fallback : α) (read : Json → Option α) : Option Json → Option α
  | some value => read value
  | none => some fallback

/-- The chosen case, with what comes with it. -/
def choice? : Json → Option (String × Option Json)
  | .text name => some (name, none)
  | .object [(name, value)] => some (name, some value)
  | _ => none

/-- The chosen case of a choice whose cases come with nothing, or with null. -/
def plainChoice? (value : Json) : Option String :=
  match value.choice? with
  | some (name, none) => some name
  | some (name, some .null) => some name
  | _ => none

/-- The first of some labelled values whose label is the given name. -/
def named? {α : Type} (label : α → String) (all : List α) (name : String) : Option α :=
  all.find? fun a => label a == name

end Metamorph.Json
