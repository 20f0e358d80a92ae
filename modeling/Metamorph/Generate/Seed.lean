import Metamorph.Circuit.Validity
import Metamorph.Generate.Settings

/-! # Seed circuits

A seed circuit has random inputs and a random tree over them. A tree is built from the root:
operators that give the wanted kind are drawn from the pool until the depth is used up, no
operator is left or a coin says stop; then follows a leaf. -/

namespace Metamorph

/-- What a random tree is made of. -/
structure Soil where
  inputs : List Input
  /-- The operators to draw from; one that is repeated is likelier. -/
  pool : List Operator
  values : Bounds UInt32
  leafProbability : Float

namespace Soil

variable {ρ : Type} [RandomSource ρ]

/-- A literal of a kind; its only constant comes from the range. -/
def randomLiteral (soil : Soil) : Kind → StateM ρ Expr
  | .field => do
    return .field (← drawWord soil.values)
  | .bool => do
    let value ← bernoulli 0.5
    return .truth value (← drawWord soil.values)

/-- A leaf of a kind: an input or a literal, each as likely as the other. -/
def randomLeaf (soil : Soil) (kind : Kind) : StateM ρ Expr :=
  match soil.inputs.filter (·.kind = kind) with
  | [] => soil.randomLiteral kind
  | first :: rest => do
    if ← bernoulli 0.5 then
      return .var kind (← drawItem first rest).name
    else
      soil.randomLiteral kind

/-- A tree of a kind, at most as deep as said. The root never stops by chance. -/
def randomTree (soil : Soil) : (depth : Nat) → (isRoot : Bool) → Kind → StateM ρ Expr
  | 0, _, kind => soil.randomLeaf kind
  | depth + 1, isRoot, kind =>
    match soil.pool.filter (·.resultKind = kind) with
    | [] => soil.randomLeaf kind
    | first :: rest => do
      let stop ← if isRoot then pure false else bernoulli soil.leafProbability
      if stop then
        soil.randomLeaf kind
      else
        match ← drawItem first rest with
        | .unary op => return op.on (← soil.randomTree depth false op.operandKind)
        | .binary op =>
          let lhs ← soil.randomTree depth false op.operandKind
          let rhs ← soil.randomTree depth false op.operandKind
          return op.on lhs rhs
        | .cast => return (← soil.randomTree depth false .bool).toField

end Soil

namespace Shape

variable {ρ : Type} [RandomSource ρ]

/-- The inputs that a shape asks for, words first. -/
def randomInputs (shape : Shape) (values : Bounds UInt32) : StateM ρ (List Input) := do
  let words ← (List.range shape.fieldVariables).mapM fun i => do
    return ⟨"f" ++ toString i, .field, ← drawWord values⟩
  let truths ← (List.range shape.boolVariables).mapM fun i => do
    return ⟨"b" ++ toString i, .bool, ofBool (← bernoulli 0.5)⟩
  return words ++ truths

/-- The name of the seed circuit. -/
def seedName : String := "seed"

/-- A random circuit of a shape. -/
def randomSeed (shape : Shape) (values : Bounds UInt32) : StateM ρ Circuit := do
  let inputs ← shape.randomInputs values
  let soil : Soil := ⟨inputs, shape.operators.getD Operator.all, values, shape.leafProbability⟩
  return .ofTree seedName inputs (← soil.randomTree shape.maxDepth true shape.outputKind)

end Shape

end Metamorph
