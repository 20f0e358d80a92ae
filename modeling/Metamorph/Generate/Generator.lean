import Metamorph.Bundle.Basic
import Metamorph.Generate.Seed
import Metamorph.Generate.Variant

/-! # Generating bundles

A bundle is a random seed followed by variants of it. Everything that can be refused is
refused before the first draw. -/

namespace Metamorph

/-- What bundles are generated with. -/
structure Generator (ρ : Type) where
  rules : RuleSet ρ
  shape : Shape

namespace Generator

variable {ρ : Type} [RandomSource ρ]

/-- Refuse budgets that no bundle can be made of. -/
def checkBudgets (generator : Generator ρ) (budgets : Budgets) : Except Error Unit := do
  budgets.values.validate "value range"
  if budgets.batchSize = 0 then throw (.invalidBounds .noCircuits)
  if generator.shape.ruleAttempts = 0 then throw (.invalidBounds .noAttempts)
  if generator.rules.rules.isEmpty && 0 < budgets.rewrites && 1 < budgets.batchSize then
    throw (.emptyInput .rules)

/-- The name of a variant. -/
def variantName (number : Nat) : String :=
  "variant_" ++ toString number

/-- A random variant of a seed. -/
def randomVariant (generator : Generator ρ) (budgets : Budgets) (iterative : Bool)
    (seed : Circuit) (number : Nat) : Draw ρ Circuit := do
  let steps ← generator.shape.distribution.drawSteps budgets.rewrites
  let start := { seed with name := variantName number }
  let variant ←
    if iterative then
      rewriteIteratively generator.rules generator.shape.ruleAttempts budgets.values steps start
    else
      rewriteByPlans generator.rules generator.shape.ruleAttempts budgets.values steps start
  variant.validate
  return variant

/-- A random bundle: the seed, and variants up to the size of the batch. -/
def generate (generator : Generator ρ) (budgets : Budgets) (iterative : Bool) :
    Draw ρ Bundle := do
  generator.checkBudgets budgets
  let seed ← (generator.shape.randomSeed budgets.values : StateM ρ Circuit)
  seed.validate
  let expected ← seed.evaluate
  let variants ← (List.range (budgets.batchSize - 1)).mapM fun i =>
    generator.randomVariant budgets iterative seed (i + 1)
  return ⟨seed :: variants, expected⟩

end Generator

end Metamorph
