/-! # JSON values

A value as a text gives it: the fields of an object stay in the order of the text, with
repetitions, and whole numbers are kept apart from the others. A text may be well formed and
still stand for nothing, as a number beyond all floats does; such a part is kept as unusable,
because it does no harm where nobody reads it. -/

namespace Metamorph

/-- A number: whole ones are exact, all others are floats. -/
inductive Json.Number where
  | whole (value : Int)
  | real (value : Float)

/-- A JSON value. -/
inductive Json where
  | null
  | bool (value : Bool)
  | number (value : Json.Number)
  | text (value : String)
  | array (items : List Json)
  | object (fields : List (String × Json))
  /-- Well formed, but without a value: a number out of range, a string with half a surrogate
  pair, an object with such a key, or an array or object nested too deep. -/
  | unusable

namespace Json

instance : Inhabited Json := ⟨.null⟩

/-- A natural number as a value. -/
def nat (n : Nat) : Json :=
  .number (.whole n)

/-- A value or null. -/
def optional {α : Type} (write : α → Json) : Option α → Json
  | none => .null
  | some a => write a

/-- A list of values. -/
def list {α : Type} (write : α → Json) (items : List α) : Json :=
  .array (items.map write)

mutual
/-- How deep arrays and objects are nested; a scalar has depth 0. -/
def depth : Json → Nat
  | .array items => depthItems items + 1
  | .object fields => depthFields fields + 1
  | _ => 0

/-- The greatest depth in a list of values. -/
def depthItems : List Json → Nat
  | [] => 0
  | item :: rest => max (depth item) (depthItems rest)

/-- The greatest depth among the fields of an object. -/
def depthFields : List (String × Json) → Nat
  | [] => 0
  | (_, value) :: rest => max (depth value) (depthFields rest)
end

mutual
/-- Whether every part of a value is usable. -/
def isUsable : Json → Bool
  | .unusable => false
  | .array items => allUsable items
  | .object fields => fieldsUsable fields
  | _ => true

/-- Whether every part of a list of values is usable. -/
def allUsable : List Json → Bool
  | [] => true
  | item :: rest => isUsable item && allUsable rest

/-- Whether every part of the fields of an object is usable. -/
def fieldsUsable : List (String × Json) → Bool
  | [] => true
  | (_, value) :: rest => isUsable value && fieldsUsable rest
end

end Json

end Metamorph
