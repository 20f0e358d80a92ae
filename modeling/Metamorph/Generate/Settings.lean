import Metamorph.Expr.Json
import Metamorph.Rewrite.Catalogue

/-! # Settings of generation

The shape of seed trees, the budgets of a bundle, and the settings that budgets are drawn
from. -/

namespace Metamorph

/-- How the number of rewrite steps of a variant is drawn from a budget. -/
inductive StepDistribution where
  /-- Weighted by the distance to the nearer end, so that the middle is likeliest. -/
  | triangular
  | uniform
  deriving DecidableEq, Repr

namespace StepDistribution

/-- Both distributions. -/
def all : List StepDistribution := [.triangular, .uniform]

/-- The name of a distribution. -/
def name : StepDistribution → String
  | .triangular => "Triangular"
  | .uniform => "Uniform"

/-- Read a distribution. -/
def ofJson? (value : Json) : Option StepDistribution :=
  value.plainChoice?.bind (Json.named? name all)

end StepDistribution

/-- The shape of seed circuits, and how eagerly rewrites are tried. -/
structure Shape where
  /-- The greatest depth of a seed tree. -/
  maxDepth : Nat := 4
  /-- How many words are declared as inputs. -/
  fieldVariables : Nat := 2
  /-- How many truth values are declared as inputs. -/
  boolVariables : Nat := 1
  /-- The operators that seed trees are built with; nothing stands for all of them. -/
  operators : Option (List Operator) := none
  /-- How likely a tree stops at a node below the root. -/
  leafProbability : Float := 0.3
  outputKind : Kind := .field
  distribution : StepDistribution := .triangular
  /-- How many rules are tried at a node before it is left alone. -/
  ruleAttempts : Nat := 4

/-- What a bundle may be made of. -/
structure Budgets where
  values : Bounds UInt32
  /-- The greatest number of rewrite steps of a variant. -/
  rewrites : Nat
  /-- The number of circuits. -/
  batchSize : Nat
  deriving DecidableEq, Repr

/-- The settings of a campaign's bundles. -/
structure GenerationSettings where
  values : Bounds UInt32 := ⟨0, 0xFFFFFFFF⟩
  rewrites : Bounds Nat := ⟨0, 5⟩
  batchSize : Bounds Nat := ⟨1, 10⟩
  /-- Whether a rewrite step sees the steps before it. -/
  iterative : Bool := true
  /-- Whether rules that change the value are among the rules. -/
  perturbing : Bool := false
  shape : Shape := {}

namespace Shape

/-- The fields of a shape in JSON. -/
def fieldNames : List String :=
  ["max_depth", "field_variables", "bool_variables", "operators", "leaf_probability",
    "output_kind", "rewrite_distribution", "max_rule_attempts"]

/-- The JSON form of a shape. -/
def toJson (shape : Shape) : Json :=
  .object [("max_depth", .nat shape.maxDepth), ("field_variables", .nat shape.fieldVariables),
    ("bool_variables", .nat shape.boolVariables),
    ("operators", .optional (.list Operator.toJson) shape.operators),
    ("leaf_probability", .number (.real shape.leafProbability)),
    ("output_kind", shape.outputKind.toJson),
    ("rewrite_distribution", .text shape.distribution.name),
    ("max_rule_attempts", .nat shape.ruleAttempts)]

/-- Read a shape; a missing field has its default. -/
def ofJson? (value : Json) : Option Shape := do
  let fallback : Shape := {}
  match ← value.defaultedRecord? fieldNames with
  | [maxDepth, fieldVariables, boolVariables, operators, leafProbability, outputKind,
      distribution, ruleAttempts] =>
    return {
      maxDepth := ← Json.defaulted? fallback.maxDepth Json.count? maxDepth
      fieldVariables := ← Json.defaulted? fallback.fieldVariables Json.count? fieldVariables
      boolVariables := ← Json.defaulted? fallback.boolVariables Json.count? boolVariables
      operators := ← Json.defaulted? fallback.operators
        (Json.optional? (Json.list? Operator.ofJson?)) operators
      leafProbability := ← Json.defaulted? fallback.leafProbability Json.float? leafProbability
      outputKind := ← Json.defaulted? fallback.outputKind Kind.ofJson? outputKind
      distribution := ← Json.defaulted? fallback.distribution StepDistribution.ofJson?
        distribution
      ruleAttempts := ← Json.defaulted? fallback.ruleAttempts Json.count? ruleAttempts }
  | _ => none

/-- How a list of operators is shown to a reader. -/
def displayOperators : Option (List Operator) → String
  | none => "None"
  | some operators => "Some([" ++ ", ".intercalate (operators.map shown) ++ "])"
where
  /-- How an operator is shown to a reader. -/
  shown : Operator → String
    | .unary op => "Unary(" ++ op.name ++ ")"
    | .binary op => "Binary(" ++ op.name ++ ")"
    | .cast => "Cast"

/-- The text that shows a shape to a reader. -/
def display (shape : Shape) : String :=
  "ShapeConfig \x7b " ++ ", ".intercalate
    ["max_depth: " ++ toString shape.maxDepth,
      "field_variables: " ++ toString shape.fieldVariables,
      "bool_variables: " ++ toString shape.boolVariables,
      "operators: " ++ displayOperators shape.operators,
      "leaf_probability: " ++ Decimal.precise shape.leafProbability,
      "output_kind: " ++ shape.outputKind.name,
      "rewrite_distribution: " ++ shape.distribution.name,
      "max_rule_attempts: " ++ toString shape.ruleAttempts] ++ " \x7d"

end Shape

namespace GenerationSettings

/-- The fields of the settings in JSON. -/
def fieldNames : List String :=
  ["min_value", "max_value", "min_rewrites", "max_rewrites", "min_batch_size",
    "max_batch_size", "iterative_rewrite", "include_perturbing_rules", "shape"]

/-- The JSON form of the settings. -/
def toJson (settings : GenerationSettings) : Json :=
  .object [("min_value", .nat settings.values.min.toNat),
    ("max_value", .nat settings.values.max.toNat),
    ("min_rewrites", .nat settings.rewrites.min), ("max_rewrites", .nat settings.rewrites.max),
    ("min_batch_size", .nat settings.batchSize.min),
    ("max_batch_size", .nat settings.batchSize.max),
    ("iterative_rewrite", .bool settings.iterative),
    ("include_perturbing_rules", .bool settings.perturbing), ("shape", settings.shape.toJson)]

/-- Read the settings; a missing field has its default. -/
def ofJson? (value : Json) : Option GenerationSettings := do
  let fallback : GenerationSettings := {}
  match ← value.defaultedRecord? fieldNames with
  | [minValue, maxValue, minRewrites, maxRewrites, minBatch, maxBatch, iterative, perturbing,
      shape] =>
    return {
      values := ⟨← Json.defaulted? fallback.values.min Json.word32? minValue,
        ← Json.defaulted? fallback.values.max Json.word32? maxValue⟩
      rewrites := ⟨← Json.defaulted? fallback.rewrites.min Json.count? minRewrites,
        ← Json.defaulted? fallback.rewrites.max Json.count? maxRewrites⟩
      batchSize := ⟨← Json.defaulted? fallback.batchSize.min Json.count? minBatch,
        ← Json.defaulted? fallback.batchSize.max Json.count? maxBatch⟩
      iterative := ← Json.defaulted? fallback.iterative Json.bool? iterative
      perturbing := ← Json.defaulted? fallback.perturbing Json.bool? perturbing
      shape := ← Json.defaulted? fallback.shape Shape.ofJson? shape }
  | _ => none

/-- The text that shows the settings to a reader. -/
def display (settings : GenerationSettings) : String :=
  "GenerationConfig \x7b " ++ ", ".intercalate
    ["min_value: " ++ toString settings.values.min,
      "max_value: " ++ toString settings.values.max,
      "min_rewrites: " ++ toString settings.rewrites.min,
      "max_rewrites: " ++ toString settings.rewrites.max,
      "min_batch_size: " ++ toString settings.batchSize.min,
      "max_batch_size: " ++ toString settings.batchSize.max,
      "iterative_rewrite: " ++ toString settings.iterative,
      "include_perturbing_rules: " ++ toString settings.perturbing,
      "shape: " ++ settings.shape.display] ++ " \x7d"

variable {ρ : Type} [RandomSource ρ]

/-- The rules that the settings allow. -/
def ruleSet (settings : GenerationSettings) : RuleSet ρ :=
  if settings.perturbing then RuleSet.withPerturbing else RuleSet.standard

/-- Refuse bounds that no budget can be drawn from. -/
def checkBounds (settings : GenerationSettings) : Except Error Unit := do
  settings.values.validate "value range"
  settings.rewrites.validate "rewrite count"
  settings.batchSize.validate "batch size"
  if settings.batchSize.min = 0 then throw (.invalidBounds .noCircuits)

/-- Draw the budgets of a bundle. -/
def drawBudgets (settings : GenerationSettings) : Draw ρ Budgets := do
  settings.checkBounds
  let rewrites ← (RandomSource.countBetween settings.rewrites.min settings.rewrites.max :
    StateM ρ Nat)
  let batchSize ← (RandomSource.countBetween settings.batchSize.min settings.batchSize.max :
    StateM ρ Nat)
  return ⟨settings.values, rewrites, batchSize⟩

end GenerationSettings

end Metamorph
