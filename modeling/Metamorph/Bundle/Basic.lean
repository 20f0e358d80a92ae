import Metamorph.Circuit.Basic

/-! # Bundles

A seed circuit and the variants derived from it, with the value that all of them should
have. -/

namespace Metamorph

/-- The seed followed by its variants. -/
structure Bundle where
  circuits : List Circuit
  /-- The value of the seed under its inputs. -/
  expected : UInt32
  deriving DecidableEq, Repr

namespace Bundle

/-- The circuit that every variant was derived from. -/
def seed? (bundle : Bundle) : Option Circuit :=
  bundle.circuits.head?

/-- The circuits after the seed. -/
def variants (bundle : Bundle) : List Circuit :=
  bundle.circuits.tail

/-- The inputs, which all circuits share. -/
def inputs (bundle : Bundle) : List Input :=
  match bundle.seed? with
  | some seed => seed.inputs
  | none => []

/-- The number of circuits. -/
def size (bundle : Bundle) : Nat :=
  bundle.circuits.length

/-- The names of the circuits, in order. -/
def names (bundle : Bundle) : List String :=
  bundle.circuits.map (·.name)

end Bundle

end Metamorph
