import Metamorph.Error

/-! # Bounds

Ranges of numbers with both ends included. -/

namespace Metamorph

/-- Numbers that can bound a range. -/
class Quantity (α : Type) where
  lt : α → α → Bool
  le : α → α → Bool
  text : α → String

instance : Quantity UInt32 := ⟨fun a b => a < b, fun a b => a ≤ b, toString⟩
instance : Quantity UInt64 := ⟨fun a b => a < b, fun a b => a ≤ b, toString⟩
instance : Quantity Nat := ⟨fun a b => a < b, fun a b => a ≤ b, toString⟩
instance : Quantity Int := ⟨fun a b => a < b, fun a b => a ≤ b, toString⟩
instance : Quantity Float := ⟨fun a b => a < b, fun a b => a ≤ b, Decimal.plain⟩

/-- A range with both ends included. -/
structure Bounds (α : Type) where
  min : α
  max : α
  deriving DecidableEq, Repr

namespace Bounds

variable {α : Type} [Quantity α]

/-- Refuse a range whose lower end lies above the upper end. -/
def validate (what : String) (bounds : Bounds α) : Except Error Unit :=
  if Quantity.lt bounds.max bounds.min then
    .error (.invalidBounds (.inverted what (Quantity.text bounds.min) (Quantity.text bounds.max)))
  else .ok ()

/-- Whether a number lies in the range. -/
def contains (bounds : Bounds α) (a : α) : Bool :=
  Quantity.le bounds.min a && Quantity.le a bounds.max

end Bounds

end Metamorph
