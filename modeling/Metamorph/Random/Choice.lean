import Metamorph.Random.Source
import Metamorph.Text.Printable

/-! # Random choices

Coins and weighted choices. Weights are checked from the first to the last before anything
is drawn. -/

namespace Metamorph

variable {ρ α : Type} [RandomSource ρ]

/-- A coin that shows heads with a probability. A probability that settles the matter draws
nothing. -/
def bernoulli (probability : Float) : StateM ρ Bool :=
  if probability ≤ 0.0 then pure false
  else if probability ≥ 1.0 then pure true
  else do
    return (← RandomSource.unit) < probability

/-- The sum of weights, from the first to the last. -/
def totalWeight (weights : List Float) : Float :=
  weights.foldl (· + ·) 0.0

/-- Refuse weights that no choice can be made by. -/
def checkWeights (weights : List Float) : Except Error Unit :=
  if weights.any fun w => !(w ≥ 0.0) then .error (.invalidWeight .negative)
  else if totalWeight weights == 0.0 then .error (.invalidWeight .allZero)
  else if !(totalWeight weights).isFinite then .error .unboundedWeight
  else .ok ()

/-- The first item at which the running sum of the weights exceeds a point, and the last item
if there is none. -/
def itemAt (point sum : Float) (last : α) : List (α × Float) → α
  | [] => last
  | (a, weight) :: rest =>
    if point < sum + weight then a else itemAt point (sum + weight) a rest

/-- Choose among weighted items, of which there is at least one. -/
def chooseAmong (first : α) (items : List (α × Float)) : Draw ρ α := do
  checkWeights (items.map (·.2))
  let point ← (RandomSource.below (totalWeight (items.map (·.2))) : StateM ρ Float)
  return itemAt point 0.0 first items

/-- Choose an item with a probability proportional to its own weight. -/
def chooseWeighted (weight : α → Float) : List α → Draw ρ α
  | [] => throw (.emptyInput .items)
  | first :: rest => chooseAmong first ((first :: rest).map fun a => (a, weight a))

/-- The weights of options, or the first option that has none. -/
def weightsOf (shown : α → String) (weightOf : α → Option Float) :
    List α → Except Error (List (α × Float))
  | [] => .ok []
  | a :: rest =>
    match weightOf a with
    | none => .error (.missingWeight (shown a))
    | some weight => (weightsOf shown weightOf rest).map ((a, weight) :: ·)

/-- Choose an option with a probability proportional to its entry in a table of weights. -/
def weightedSelect (shown : α → String) (weightOf : α → Option Float) : List α → Draw ρ α
  | [] => throw (.emptyInput .options)
  | first :: rest => do
    let items ← weightsOf shown weightOf (first :: rest)
    chooseAmong first items

end Metamorph
