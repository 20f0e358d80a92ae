import Metamorph.Circuit.Validity
import Metamorph.Expr.Path
import Metamorph.Generate.Settings

/-! # Variants

A variant is the seed after some rewrite steps. A step picks a node and a rule. In the
iterative mode a step works on the tree that the steps before it left; in the planned mode
all steps are worked out on the seed first and then carried out in order, where a step is
dropped if the node it was made for has changed. -/

namespace Metamorph

variable {ρ : Type} [RandomSource ρ]

/-- A rule with the tree that it puts in the place of another. -/
structure Rewriting (ρ : Type) where
  rule : Rule ρ
  replacement : Expr

/-- A rewriting with the node it was made for. -/
structure Plan (ρ : Type) where
  path : Path
  target : Expr
  rewriting : Rewriting ρ

/-- Whether a tree is well kinded and of a kind. -/
def Expr.isOfKind (e : Expr) (kind : Kind) : Bool :=
  match e.checkKinds with
  | .ok found => found = kind
  | .error _ => false

/-- Try rules among the candidates until one gives a well kinded tree of the right kind. -/
def tryRules (candidates : List (Rule ρ)) (values : Bounds UInt32) (target : Expr) :
    Nat → Draw ρ (Option (Rewriting ρ))
  | 0 => return none
  | attempts + 1 => do
    let rule ← chooseWeighted (·.weight) candidates
    match ← rule.apply values target with
    | some replacement =>
      if replacement.isOfKind target.kind then return some ⟨rule, replacement⟩
      else tryRules candidates values target attempts
    | none => tryRules candidates values target attempts

/-- Pick a rule that matches a tree, and build what takes its place. -/
def rewriteOnce (rules : RuleSet ρ) (attempts : Nat) (values : Bounds UInt32) (target : Expr) :
    Draw ρ (Option (Rewriting ρ)) :=
  match rules.matching target with
  | [] => return none
  | candidates => tryRules candidates values target attempts

/-- Pick a node of a tree. -/
def drawPath (root : Expr) : StateM ρ Path :=
  match root.paths with
  | [] => return []
  | first :: rest => drawItem first rest

/-- Draw a node of a tree and a rewriting for it. -/
def drawPlan (rules : RuleSet ρ) (attempts : Nat) (values : Bounds UInt32) (root : Expr) :
    Draw ρ (Option (Plan ρ)) := do
  let path ← (drawPath root : StateM ρ Path)
  match root.at? path with
  | none => return none
  | some target =>
    match ← rewriteOnce rules attempts values target with
    | none => return none
    | some rewriting => return some ⟨path, target, rewriting⟩

/-- Carry out a plan and record the rule. The circuit stays as it is when its node is not the
one that the plan was made for. -/
def Circuit.carryOut (circuit : Circuit) (plan : Plan ρ) : Circuit :=
  if circuit.root.at? plan.path = some plan.target then
    match circuit.root.replaceAt? plan.path plan.rewriting.replacement with
    | some root =>
      { circuit with
        root := root
        rewrites := circuit.rewrites ++ [plan.rewriting.rule.name]
        perturbed := circuit.perturbed || plan.rewriting.rule.effect = .perturbing }
    | none => circuit
  else circuit

/-- Rewrite in steps, each of which sees the ones before it. -/
def rewriteIteratively (rules : RuleSet ρ) (attempts : Nat) (values : Bounds UInt32) :
    Nat → Circuit → Draw ρ Circuit
  | 0, circuit => return circuit
  | steps + 1, circuit => do
    match ← drawPlan rules attempts values circuit.root with
    | none => rewriteIteratively rules attempts values steps circuit
    | some plan => rewriteIteratively rules attempts values steps (circuit.carryOut plan)

/-- Draw plans for a tree, one a step. -/
def drawPlans (rules : RuleSet ρ) (attempts : Nat) (values : Bounds UInt32) (root : Expr) :
    Nat → Draw ρ (List (Plan ρ))
  | 0 => return []
  | steps + 1 => do
    let plan ← drawPlan rules attempts values root
    let plans ← drawPlans rules attempts values root steps
    return plan.toList ++ plans

/-- Rewrite by plans that are all made for the circuit as it is, and carried out in order. -/
def rewriteByPlans (rules : RuleSet ρ) (attempts : Nat) (values : Bounds UInt32) (steps : Nat)
    (circuit : Circuit) : Draw ρ Circuit := do
  let plans ← drawPlans rules attempts values circuit.root steps
  return plans.foldl Circuit.carryOut circuit

/-- Draw the number of steps of a variant. -/
def StepDistribution.drawSteps (budget : Nat) : StepDistribution → Draw ρ Nat
  | .uniform => do
    let steps ← (RandomSource.countBetween 0 budget : StateM ρ Nat)
    return steps
  | .triangular =>
    weightedSelect toString (fun steps => some (1.0 + (min steps (budget - steps)).toFloat))
      (List.range (budget + 1))

end Metamorph
