import Metamorph.Campaign.Summary
import Metamorph.Generate.Generator
import Metamorph.Machine.Basic
import Metamorph.Target.Basic
import Metamorph.Target.Instruction

/-! # Rounds

A campaign goes in rounds, each of which has a bundle and an injection. Both are drawn before
anything is executed, and only from the random source. -/

namespace Metamorph

/-- One campaign against one target. -/
structure Campaign where
  id : String
  target : Target
  settings : TargetSettings
  generation : GenerationSettings
  /-- The number of rounds. -/
  bundles : Nat
  /-- The folder of all campaigns. -/
  outputFolder : String

/-- What a round works with. -/
structure Round where
  number : Nat
  bundle : Bundle
  injection : Option Injection
  deriving DecidableEq, Repr

namespace Campaign

/-- The folder of a campaign. -/
def folder (campaign : Campaign) : String :=
  inside (inside campaign.outputFolder campaign.target.name) campaign.id

/-- The shape of seed trees. Where it leaves the operators open they are chosen for the
preferred instructions. -/
def shape (campaign : Campaign) : Except Error Shape :=
  let shape := campaign.generation.shape
  match shape.operators with
  | some _ => .ok shape
  | none => do
    let preferred ← Instruction.vocabulary.parse campaign.settings.preferredInstructions
    return { shape with operators := operatorPool preferred }

variable {ρ : Type} [RandomSource ρ]

/-- Draw a round: the budgets, the bundle and the injection. -/
def drawRound (campaign : Campaign) (shape : Shape) (number : Nat) : Draw ρ Round := do
  let budgets ← campaign.generation.drawBudgets
  let bundle ←
    (Generator.mk campaign.generation.ruleSet shape).generate budgets campaign.generation.iterative
  let injection ← campaign.target.selectInjection campaign.settings
  return ⟨number, bundle, injection⟩

end Campaign

end Metamorph
